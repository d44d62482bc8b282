import VulkanBridge.SlotWrites

/-!
Every slot in use belongs to one live command buffer, and the bytes a successful
end sealed stay in their slot until the slot is given back.
-/

namespace VulkanBridge

open ByteBuffer CheckedLoops WordBits CommandBatchBuilder

namespace CommandBufferProxy

variable {proxy after : CommandBufferProxy} {region : StreamRegion} {mapping : Buffer} {diagnostics : Bool}

def Resting (mapping : Buffer) (proxy : CommandBufferProxy) : Prop :=
  ∀ slot, proxy.builderSlot = some slot → proxy.streamBuilder.bytes = slotView mapping slot

def Confined (mapping : Buffer) (proxy : CommandBufferProxy) : Prop :=
  ∀ slot, proxy.builderSlot = some slot → ∀ index, commandStreamSlotBytes ≤ index →
    proxy.streamBuilder.bytes index = slotView mapping slot index

theorem attached_resting (proxy : CommandBufferProxy) (mapping : Buffer) :
    Resting mapping (proxy.attached mapping) := by
  intro slot held
  simp only [attached] at held ⊢
  split
  · rename_i none
    rw [none] at held
    simp only at held
    rw [none] at held
    contradiction
  · rename_i same
    rw [same] at held
    cases held
    rfl

theorem Resting.attached (resting : Resting mapping proxy) : proxy.attached mapping = proxy := by
  simp only [CommandBufferProxy.attached]
  split
  · rfl
  · rename_i slot held
    rw [← resting slot held]

theorem Resting.written (resting : Resting region.mapping proxy) : region.written proxy = region := by
  simp only [StreamRegion.written]
  split
  · rfl
  · rename_i slot held
    rw [resting slot held, storeView_slotView]

theorem written_resting (region : StreamRegion) (proxy : CommandBufferProxy) :
    Resting (region.written proxy).mapping proxy := by
  intro slot held
  simp only [StreamRegion.written, held]
  exact (slotView_storeView _ _ _).symm

theorem attached_frame (proxy : CommandBufferProxy) (mapping : Buffer) :
    (proxy.attached mapping).frame = proxy.frame := by
  simp only [attached]
  split <;> rfl

theorem attached_flags (proxy : CommandBufferProxy) (mapping : Buffer) :
    (proxy.attached mapping).streamError = proxy.streamError ∧
      (proxy.attached mapping).streamSealed = proxy.streamSealed ∧
      (proxy.attached mapping).streamBuilder.capacity = proxy.streamBuilder.capacity := by
  simp only [attached]
  split <;> exact ⟨rfl, rfl, rfl⟩

theorem Confined.spares (confined : Confined region.mapping proxy) {slot : UInt32}
    (apart : ∀ own, proxy.builderSlot = some own → slot.toNat ≠ own.toNat) :
    Untouched region.mapping (region.written proxy).mapping slot := by
  simp only [StreamRegion.written]
  split
  · exact fun _ _ => rfl
  · rename_i own held
    exact storeView_untouched (confined own held) (apart own held)

/-! ## Sections of a call -/

theorem appendDirect_grows (command : Command) :
    Grows proxy.streamBuilder (proxy.appendDirect diagnostics command).streamBuilder := by
  simp only [appendDirect]
  split
  · split
    · rename_i appended
      exact append_grows appended
    · exact .refl _
  · exact .refl _

theorem afterLookup_grows (command : Command) (outcome : LookupOutcome) :
    Grows proxy.streamBuilder (proxy.afterLookup diagnostics command outcome).1.streamBuilder := by
  cases outcome with
  | owned =>
      simp only [afterLookup]
      split
      · exact appendDirect_grows command
      · exact .refl _
  | refused =>
      simp only [afterLookup]
      split <;> exact .refl _
  | missed => exact .refl _

theorem submitSection_grows (batch : Buffer) (length : Nat) :
    Grows proxy.streamBuilder (proxy.submitSection diagnostics batch length).1.streamBuilder := by
  simp only [submitSection]
  split
  · exact .refl _
  · have grows : Grows proxy.streamBuilder (proxy.streamBuilder.appendBatch batch length).1 :=
      appendBatch_grows batch length
    split
    · rename_i moved
      rw [moved] at grows
      exact grows
    · rename_i moved
      rw [moved] at grows
      exact grows

theorem runSection_grows {registry : ClientRegistry} {scratch : Buffer} (phase : RecordPhase) :
    Grows proxy.streamBuilder (proxy.runSection diagnostics registry scratch phase).1.streamBuilder := by
  cases phase with
  | enter command =>
      simp only [runSection]
      split
      · exact .refl _
      · exact afterLookup_grows command _
  | reading => exact .refl _
  | relock command object rest sequence owned =>
      simp only [runSection]
      split
      · rename_i outcome
        rw [← (relockedOwnership_stream outcome).2]
        exact afterLookup_grows command _
      · rename_i outcome
        rw [← (relockedOwnership_stream outcome).2]
        exact afterLookup_grows command _
  | submit command =>
      simp only [runSection]
      split
      · exact .refl _
      · split
        · exact .refl _
        · exact submitSection_grows _ _
  | poison => exact .refl _

theorem runSection_idle {registry : ClientRegistry} {scratch : Buffer} {phase : RecordPhase}
    (idle : proxy.streamRecording = false) :
    (proxy.runSection diagnostics registry scratch phase).1.streamBuilder = proxy.streamBuilder := by
  have closed : proxy.isOpen = false := by rw [isOpen, idle, Bool.false_and]
  have late {between : CommandBufferProxy} {command : Command} (shut : between.isOpen = false)
      (later : command.testsRecordingFirst = false) (outcome : LookupOutcome) :
      (between.afterLookup diagnostics command outcome).1.streamBuilder = between.streamBuilder := by
    cases outcome with
    | owned =>
        simp only [afterLookup, appendDirect, later, shut, Bool.or_self, Bool.false_eq_true, ↓reduceIte]
        split <;> rfl
    | refused =>
        simp only [afterLookup]
        split <;> rfl
    | missed => rfl
  cases phase with
  | enter command =>
      simp only [runSection, closed, Bool.not_false, Bool.and_true]
      split
      · rfl
      · rename_i later
        exact late closed (Bool.eq_false_iff.mpr later) _
  | reading => rfl
  | relock command object rest sequence owned =>
      have refused : proxy.relockedOwnership object.2 object.1 sequence owned =
          (false, { proxy with ownershipRegistryReads := proxy.ownershipRegistryReads + 1 }) := by
        simp only [relockedOwnership, idle, Bool.not_false, Bool.or_true, ↓reduceIte]
      simp only [runSection, refused, afterLookup]
      split <;> rfl
  | submit command =>
      simp only [runSection]
      split
      · rfl
      · split
        · rfl
        · simp only [submitSection, closed, Bool.not_false, ↓reduceIte]
          rfl
  | poison => rfl

theorem runSection_flags {registry : ClientRegistry} {scratch : Buffer} {phase : RecordPhase} :
    ((proxy.runSection diagnostics registry scratch phase).1.streamSealed = true → proxy.streamSealed = true) ∧
      ((proxy.runSection diagnostics registry scratch phase).1.streamError = false →
        proxy.streamError = false) := by
  have direct (between : CommandBufferProxy) (command : Command) :
      ((between.appendDirect diagnostics command).streamSealed = true → between.streamSealed = true) ∧
        ((between.appendDirect diagnostics command).streamError = false → between.streamError = false) := by
    simp only [appendDirect]
    split
    · split
      · exact ⟨id, id⟩
      · exact ⟨fun sealed => by simp [poison] at sealed, fun clean => by simp at clean⟩
    · exact ⟨fun sealed => by simp [poison] at sealed, fun clean => by simp at clean⟩
  have looked (between : CommandBufferProxy) (command : Command) (outcome : LookupOutcome) :
      ((between.afterLookup diagnostics command outcome).1.streamSealed = true → between.streamSealed = true) ∧
        ((between.afterLookup diagnostics command outcome).1.streamError = false →
          between.streamError = false) := by
    cases outcome with
    | owned =>
        simp only [afterLookup]
        split
        · exact direct between command
        · exact ⟨id, id⟩
    | refused =>
        simp only [afterLookup]
        split
        · exact ⟨fun sealed => by simp [poison] at sealed, fun clean => by simp at clean⟩
        · exact ⟨id, id⟩
    | missed => exact ⟨id, id⟩
  cases phase with
  | enter command =>
      simp only [runSection]
      split
      · exact ⟨fun sealed => by simp [poison] at sealed, fun clean => by simp at clean⟩
      · exact looked proxy command _
  | reading => exact ⟨id, id⟩
  | relock command object rest sequence owned =>
      have kept : (proxy.relockedOwnership object.2 object.1 sequence owned).2.streamSealed = proxy.streamSealed ∧
          (proxy.relockedOwnership object.2 object.1 sequence owned).2.streamError = proxy.streamError := by
        simp only [relockedOwnership]
        split
        · exact ⟨rfl, rfl⟩
        · split <;> exact ⟨rfl, rfl⟩
      simp only [runSection]
      split
      · rename_i outcome
        rw [outcome] at kept
        rw [← kept.1, ← kept.2]
        exact looked _ command _
      · rename_i outcome
        rw [outcome] at kept
        rw [← kept.1, ← kept.2]
        exact looked _ command _
  | submit command =>
      simp only [runSection]
      split
      · exact ⟨id, id⟩
      · split
        · exact ⟨id, id⟩
        · simp only [submitSection]
          split
          · exact ⟨fun sealed => by simp [poison] at sealed, fun clean => by simp at clean⟩
          · split
            · exact ⟨id, id⟩
            · exact ⟨fun sealed => by simp [poison] at sealed, fun clean => by simp at clean⟩
  | poison => exact ⟨fun sealed => by simp [runSection, poison] at sealed, fun clean => by simp [runSection] at clean⟩

end CommandBufferProxy

theorem CommandBatchBuilder.Built.congr {builder : CommandBatchBuilder} {commandBufferId sequence : UInt64}
    {capacity : Nat} {commands : List Command}
    (built : builder.Built commandBufferId sequence capacity commands) {bytes : Buffer}
    (same : ∀ index < builder.length, builder.bytes index = bytes index) :
    { builder with bytes := bytes }.Built commandBufferId sequence capacity commands :=
  { built with holds := built.holds.congr fun index _ inside => same index inside }

theorem HasHeader.congr {left right : Buffer} {commandBufferId sequence : UInt64} {count length : Nat}
    (header : HasHeader left commandBufferId sequence count length)
    (same : ∀ index < 32, left index = right index) :
    HasHeader right commandBufferId sequence count length := by
  have word16 (offset : Nat) (inside : offset + 2 ≤ 32) : getU16 left offset = getU16 right offset :=
    getU16_reads offset left right fun index _ upper => same index (by omega)
  have word32 (offset : Nat) (inside : offset + 4 ≤ 32) : getU32 left offset = getU32 right offset :=
    getU32_reads offset left right fun index _ upper => same index (by omega)
  have word64 (offset : Nat) (inside : offset + 8 ≤ 32) : getU64 left offset = getU64 right offset :=
    getU64_reads offset left right fun index _ upper => same index (by omega)
  constructor
  · rw [← word32 0 (by omega)]
    exact header.magic
  · rw [← word16 4 (by omega)]
    exact header.version
  · rw [← word16 6 (by omega)]
    exact header.flags
  · rw [← word32 8 (by omega)]
    exact header.byteLength
  · rw [← word32 12 (by omega)]
    exact header.commandCount
  · rw [← word64 16 (by omega)]
    exact header.commandBuffer
  · rw [← word64 24 (by omega)]
    exact header.sequenceWord

theorem Accepted.congr {left right : Buffer} {length : Nat} {commandBufferId sequence : UInt64}
    {records : List CommandRecord} (accepted : Accepted left length commandBufferId sequence records)
    (same : ∀ index < length, left index = right index) :
    Accepted right length commandBufferId sequence records := by
  have large : 32 ≤ length := accepted.holds.le
  have header := accepted.header.congr fun index inside => same index (by omega)
  have holds := accepted.holds.congr fun index _ inside => same index inside
  exact { accepted with header := header, holds := holds }

theorem Accepted.validatesAs {bytes : Buffer} {length : Nat} {commandBufferId sequence : UInt64}
    {records : List CommandRecord} (accepted : Accepted bytes length commandBufferId sequence records) :
    ValidatesAs bytes length commandBufferId sequence records.length := by
  have positive : records.length ≠ 0 := fun empty => accepted.nonempty (List.length_eq_zero_iff.mp empty)
  have walked := validateRecords_complete (Nat.le_refl _) accepted.holds accepted.sized accepted.valid
  have decided := commandBatchValidate_header accepted.header accepted.holds.le accepted.bounded positive
    accepted.few accepted.handle accepted.nonzero
  rw [if_neg (not_not.mpr walked)] at decided
  exact ⟨_, decided, rfl, rfl, accepted.header.commandCount, accepted.header.byteLength⟩

theorem ValidatesAs.congr {left right : Buffer} {length count : Nat} {commandBufferId sequence : UInt64}
    (validates : ValidatesAs left length commandBufferId sequence count)
    (same : ∀ index < length, left index = right index) :
    ValidatesAs right length commandBufferId sequence count := by
  obtain ⟨info, validated, rfl, rfl, rfl, rfl⟩ := validates
  obtain ⟨records, accepted, counted⟩ := commandBatchValidate_sound validated
  rw [← counted]
  exact (accepted.congr same).validatesAs

namespace CommandBufferProxy

variable {proxy after : CommandBufferProxy} {region : StreamRegion} {mapping later : Buffer}
  {diagnostics : Bool}

/-- The builder of an open recording without error. -/
structure Building (proxy : CommandBufferProxy) : Prop where
  built : ∃ commands, proxy.streamBuilder.Built proxy.wireId proxy.streamSequence commandStreamSlotBytes
    commands ∧ ∀ command ∈ commands, command.misfiltered = false
  nonzero : proxy.streamSequence ≠ 0
  handle : handleExpect proxy.wireId .commandBuffer = true

/-- The slot holds the batch of the command buffer. -/
def SealedIn (mapping : Buffer) (proxy : CommandBufferProxy) : Prop :=
  proxy.streamLength.toNat ≤ commandStreamSlotBytes ∧
    ∃ count, ValidatesAs (slotView mapping proxy.streamSlot) proxy.streamLength.toNat proxy.wireId
      proxy.streamSequence count

/-- What holds of a live command buffer between its sections. -/
structure Kept (mapping : Buffer) (proxy : CommandBufferProxy) : Prop where
  opened : proxy.streamRecording = true → proxy.streamSlot.toNat < commandStreamSlotCount ∧
    proxy.builderSlot = some proxy.streamSlot ∧ proxy.streamBuilder.capacity = commandStreamSlotBytes
  building : proxy.streamRecording = true → proxy.streamError = false → (proxy.attached mapping).Building
  idle : proxy.streamSealed = true → proxy.streamRecording = false
  held : proxy.streamSealed = true → proxy.streamSlot.toNat < commandStreamSlotCount → SealedIn mapping proxy

theorem SealedIn.congr (within : SealedIn mapping proxy) (spared : Untouched mapping later proxy.streamSlot) :
    SealedIn later proxy := by
  obtain ⟨short, count, validates⟩ := within
  exact ⟨short, count, validates.congr fun index inside => (spared index (by omega)).symm⟩

theorem Kept.congr (kept : Kept mapping proxy)
    (spared : proxy.streamSlot.toNat < commandStreamSlotCount → Untouched mapping later proxy.streamSlot) :
    Kept later proxy := by
  refine ⟨kept.opened, ?_, kept.idle, fun sealed inside => (kept.held sealed inside).congr (spared inside)⟩
  intro recording clean
  obtain ⟨inside, slot, _⟩ := kept.opened recording
  obtain ⟨⟨commands, built, filtered⟩, nonzero, handle⟩ := kept.building recording clean
  simp only [attached, slot] at built nonzero handle ⊢
  refine ⟨⟨commands, ?_, filtered⟩, nonzero, handle⟩
  have fits := built.fits
  rw [built.room] at fits
  exact built.congr fun index before => (spared inside index (by simp only at before fits; omega)).symm

theorem Kept.of_resting (resting : Resting mapping proxy)
    (opened : proxy.streamRecording = true → proxy.streamSlot.toNat < commandStreamSlotCount ∧
      proxy.builderSlot = some proxy.streamSlot ∧ proxy.streamBuilder.capacity = commandStreamSlotBytes)
    (building : proxy.streamRecording = true → proxy.streamError = false → proxy.Building)
    (idle : proxy.streamSealed = true → proxy.streamRecording = false)
    (held : proxy.streamSealed = true → proxy.streamSlot.toNat < commandStreamSlotCount → SealedIn mapping proxy) :
    Kept mapping proxy := by
  refine ⟨opened, ?_, idle, held⟩
  rw [resting.attached]
  exact building

theorem allocated_kept (wireId parentPoolId deviceId : UInt64) :
    Kept mapping (.allocated wireId parentPoolId deviceId) := by
  constructor <;> rintro ⟨⟩

end CommandBufferProxy

/-! ## Sections that lease and give back -/

structure Closes (others : Nat → Option Nat) (buffer : Nat) (region next : StreamRegion)
    (after : CommandBufferProxy) : Prop where
  leases : next.Leases (Function.update others buffer after.slotNumber)
  mapping : next.mapping = region.mapping
  generation : next.generation = region.generation
  advances : region.Advances next
  earlier : next.Earlier after.streamSequence
  spares : ∀ other (slot : UInt32), other ≠ buffer → others other = some slot.toNat →
    Untouched region.mapping (next.written after).mapping slot
  kept : after.Kept (next.written after).mapping

namespace CommandBufferProxy

variable {proxy after between : CommandBufferProxy} {region next middle : StreamRegion} {mapping : Buffer}
  {others : Nat → Option Nat} {buffer : Nat}

theorem written_mapping (same : next.mapping = region.mapping) :
    (next.written proxy).mapping = (region.written proxy).mapping := by
  simp only [StreamRegion.written]
  split
  · exact same
  · simp only [same]

theorem releaseCommandStreamSlot_region :
    (proxy.releaseCommandStreamSlot region).1.mapping = region.mapping ∧
      (proxy.releaseCommandStreamSlot region).1.generation = region.generation ∧
      (proxy.releaseCommandStreamSlot region).1.nextSequence = region.nextSequence := by
  simp only [releaseCommandStreamSlot]
  split <;> exact ⟨rfl, rfl, rfl⟩

theorem releaseCommandStreamSlot_proxy :
    ∃ slot, (proxy.releaseCommandStreamSlot region).2 = { proxy with streamSlot := slot } ∧
      ¬slot.toNat < commandStreamSlotCount := by
  simp only [releaseCommandStreamSlot]
  split
  · rename_i outside
    exact ⟨proxy.streamSlot, rfl, Nat.not_lt.mpr outside⟩
  · exact ⟨noStreamSlot, rfl, by decide⟩

theorem failBegin_closes (leases : middle.Leases (Function.update others buffer between.slotNumber))
    (same : middle.mapping = region.mapping ∧ middle.generation = region.generation)
    (advances : region.Advances middle) (earlier : middle.Earlier between.streamSequence)
    (spares : ∀ other (slot : UInt32), other ≠ buffer → others other = some slot.toNat →
      Untouched region.mapping (middle.written between).mapping slot)
    (unsealed : between.streamSealed = false) :
    Closes others buffer region (between.failBegin middle).2.1 (between.failBegin middle).2.2 := by
  obtain ⟨mapped, generation, sequence⟩ := @releaseCommandStreamSlot_region
    { between with streamRecording := false, streamError := true } middle
  obtain ⟨slot, released, outside⟩ := @releaseCommandStreamSlot_proxy
    { between with streamRecording := false, streamError := true } middle
  have given := @releaseCommandStreamSlot_leases
    { between with streamRecording := false, streamError := true } middle others buffer leases
  simp only [failBegin]
  generalize { between with streamRecording := false, streamError := true }.releaseCommandStreamSlot middle =
    result at *
  obtain ⟨next, after⟩ := result
  simp only at released mapped generation sequence given ⊢
  subst released
  constructor
  · rw [slotNumber_none outside]
    exact given
  · exact mapped.trans same.1
  · exact generation.trans same.2
  · rw [StreamRegion.Advances, sequence]
    exact advances
  · rw [StreamRegion.Earlier, sequence]
    exact earlier
  · intro other slot different held
    rw [written_mapping mapped]
    exact spares other slot different held
  · constructor
    · rintro ⟨⟩
    · rintro ⟨⟩
    · intro _
      rfl
    · intro sealed
      rw [unsealed] at sealed
      contradiction

theorem resetCommandStreamState_eq :
    ∃ slot, (proxy.resetCommandStreamState region).2 =
      { proxy with
        streamSlot := slot
        streamBuilder := clearedBuilder
        builderSlot := none
        ownershipCache := fun _ => default
        ownershipRegistryReads := 0
        streamSequence := 0
        streamLength := 0
        streamRecording := false
        streamSealed := false
        streamUploaded := false
        streamError := false
        diagnosticRejection := false } ∧ ¬slot.toNat < commandStreamSlotCount := by
  obtain ⟨slot, released, outside⟩ := @releaseCommandStreamSlot_proxy proxy region
  exact ⟨slot, by simp only [resetCommandStreamState, released], outside⟩

theorem resetCommandStreamState_closes (leases : region.Leases (Function.update others buffer proxy.slotNumber)) :
    Closes others buffer region (proxy.resetCommandStreamState region).1
      (proxy.resetCommandStreamState region).2 := by
  obtain ⟨mapped, generation, sequence⟩ := @releaseCommandStreamSlot_region proxy region
  obtain ⟨slot, reset, outside⟩ := @resetCommandStreamState_eq proxy region
  have given := releaseCommandStreamSlot_leases leases
  have sameRegion : (proxy.resetCommandStreamState region).1 = (proxy.releaseCommandStreamSlot region).1 := rfl
  rw [reset, sameRegion]
  constructor
  · rw [slotNumber_none outside]
    exact given
  · exact mapped
  · exact generation
  · exact .inl sequence
  · exact StreamRegion.earlier_zero _
  · intro other held different has
    rw [StreamRegion.written, mapped]
    exact fun _ _ => rfl
  · constructor <;> rintro ⟨⟩

theorem leaseCommandStreamSlot_facts (done : proxy.leaseCommandStreamSlot region = .ok (next, after)) :
    next.mapping = region.mapping ∧ next.generation = region.generation ∧ region.nextSequence ≠ 0 ∧
      next.nextSequence = region.nextSequence + 1 ∧
      after = { proxy with streamSlot := after.streamSlot, streamSequence := region.nextSequence } := by
  obtain ⟨slot, _, nonzero, rfl, rfl⟩ := leaseCommandStreamSlot_eq_ok done
  exact ⟨rfl, rfl, nonzero, rfl, rfl⟩

/-- A slot leased and begun: the builder holds the begin record in a slot no other
command buffer has. -/
theorem beginSection_closes {flags : UInt32} (resting : Resting region.mapping proxy)
    (kept : proxy.streamRecording = true → proxy.streamSealed = false)
    (leases : region.Leases (Function.update others buffer proxy.slotNumber))
    (earlier : region.Earlier proxy.streamSequence) :
    Closes others buffer region (proxy.beginSection region flags).2.1 (proxy.beginSection region flags).2.2 := by
  unfold beginSection
  split
  · rename_i recording
    refine failBegin_closes leases ⟨rfl, rfl⟩ (.inl rfl) earlier ?_ (kept recording)
    intro other slot _ _
    have rests : Resting region.mapping { proxy with diagnosticRejection := false } := resting
    rw [rests.written]
    exact fun _ _ => rfl
  have reset := resetCommandStreamState_closes leases
  have kept : (proxy.resetCommandStreamState region).1.nextSequence = region.nextSequence :=
    resetCommandStreamState_spec.1
  obtain ⟨slot, shape, outside⟩ := @resetCommandStreamState_eq proxy region
  generalize proxy.resetCommandStreamState region = result at *
  obtain ⟨cleared, fresh⟩ := result
  simp only at reset shape kept ⊢
  subst shape
  split
  · exact failBegin_closes reset.leases ⟨reset.mapping, reset.generation⟩ reset.advances reset.earlier
      reset.spares rfl
  rename_i leased ready done
  have empty := reset.leases
  rw [slotNumber_none outside] at empty
  obtain ⟨taken, inside, apart⟩ := leaseCommandStreamSlot_leases empty done
  obtain ⟨sameMapping, sameGeneration, nonzero, more, made⟩ := leaseCommandStreamSlot_facts done
  have mapped : leased.mapping = region.mapping := sameMapping.trans reset.mapping
  have generation : leased.generation = region.generation := sameGeneration.trans reset.generation
  have advances : region.Advances leased := .inr ⟨kept ▸ nonzero, kept ▸ more⟩
  have handed : leased.Earlier ready.streamSequence := by
    rw [made]
    exact StreamRegion.earlier_leased more
  have unsealed : ready.streamSealed = false := by rw [made]
  have unbuilt : ready.builderSlot = none := by rw [made]
  have silent (other : Nat) (slot : UInt32) (_ : other ≠ buffer) (_ : others other = some slot.toNat) :
      Untouched region.mapping (leased.written ready).mapping slot := by
    rw [StreamRegion.written, unbuilt, mapped]
    exact fun _ _ => rfl
  split
  · exact failBegin_closes taken ⟨mapped, generation⟩ advances handed silent unsealed
  rename_i builder begun
  obtain ⟨built, started, handle⟩ := start_built begun
  obtain ⟨capacity, behind⟩ := start_grows begun
  have spares (written : CommandBatchBuilder) (grows : Grows builder written) (after : CommandBufferProxy)
      (holds : after.builderSlot = some ready.streamSlot ∧ after.streamBuilder = written)
      (other : Nat) (slot : UInt32) (different : other ≠ buffer) (has : others other = some slot.toNat) :
      Untouched region.mapping (leased.written after).mapping slot := by
    have confined : Confined leased.mapping after := by
      intro own held index far
      rw [holds.1] at held
      cases held
      rw [holds.2, grows.confined index (capacity ▸ far)]
      exact behind index far
    rw [← mapped]
    refine confined.spares fun own held => ?_
    rw [holds.1] at held
    cases held
    exact apart other slot.toNat different has
  split
  · exact failBegin_closes taken ⟨mapped, generation⟩ advances handed
      (spares builder (.refl _) _ ⟨rfl, rfl⟩) unsealed
  rename_i opened appended
  have grows : Grows builder opened := append_grows appended
  refine ⟨taken, mapped, generation, advances, handed, spares opened grows _ ⟨rfl, rfl⟩, ?_⟩
  refine .of_resting (written_resting leased _) (fun _ => ⟨inside, rfl, grows.capacity.trans capacity⟩) ?_ ?_ ?_
  · intro _ _
    refine ⟨⟨[.vulkanBegin ⟨flags⟩], built.append appended, ?_⟩, started, handle⟩
    intro command member
    rw [List.mem_singleton.mp member]
    rfl
  · intro sealed
    rw [unsealed] at sealed
    contradiction
  · intro sealed
    rw [unsealed] at sealed
    contradiction

theorem Kept.closes (kept : Kept region.mapping proxy) (resting : Resting region.mapping proxy)
    (leases : region.Leases (Function.update others buffer proxy.slotNumber))
    (earlier : region.Earlier proxy.streamSequence) : Closes others buffer region region proxy := by
  refine ⟨leases, rfl, rfl, .inl rfl, earlier, ?_, ?_⟩
  · intro other slot _ _
    rw [resting.written]
    exact fun _ _ => rfl
  · rw [resting.written]
    exact kept

theorem beginCommandBuffer_closes {info : Option (Chained BeginInfo)} (kept : Kept region.mapping proxy)
    (resting : Resting region.mapping proxy)
    (leases : region.Leases (Function.update others buffer proxy.slotNumber))
    (earlier : region.Earlier proxy.streamSequence) :
    Closes others buffer region (proxy.beginCommandBuffer region info).2.1
      (proxy.beginCommandBuffer region info).2.2 := by
  have unsealed (recording : proxy.streamRecording = true) : proxy.streamSealed = false := by
    by_contra sealed
    rw [kept.idle (Bool.eq_true_of_not_eq_false sealed)] at recording
    contradiction
  simp only [beginCommandBuffer]
  split
  · exact kept.closes resting leases earlier
  · exact beginSection_closes resting unsealed leases earlier

theorem grown_spares (kept : Kept region.mapping proxy) (resting : Resting region.mapping proxy)
    (leases : region.Leases (Function.update others buffer proxy.slotNumber))
    (recording : proxy.streamRecording = true) (grows : Grows proxy.streamBuilder after.streamBuilder)
    (held : after.builderSlot = proxy.builderSlot) (other : Nat) (slot : UInt32) (different : other ≠ buffer)
    (has : others other = some slot.toNat) : Untouched region.mapping (region.written after).mapping slot := by
  obtain ⟨inside, mine, capacity⟩ := kept.opened recording
  have confined : Confined region.mapping after := by
    intro own owned index far
    rw [held] at owned
    rw [grows.confined index (capacity ▸ far), resting own owned]
  refine confined.spares fun own owned same => ?_
  rw [held, mine] at owned
  cases owned
  rw [slotNumber_inside inside] at leases
  refine different (leases.exclusive other buffer slot.toNat ?_ ?_)
  · rw [Function.update_of_ne different, has]
  · rw [Function.update_self, same]

theorem builderAfterFailure_grows : Grows proxy.streamBuilder proxy.builderAfterFailure := by
  simp only [builderAfterFailure]
  split
  · exact step_grows _
  · exact .refl _

theorem finishStream_grows {finished : CommandBatchBuilder} {length : Nat} (kept : Kept region.mapping proxy)
    (done : proxy.finishStream = .ok (finished, length)) : Grows proxy.streamBuilder finished := by
  obtain ⟨recording, _, ended, appended, finish⟩ := finishStream_eq_ok.mp done
  have grows : Grows proxy.streamBuilder ended := append_grows appended
  refine grows.trans (finish_grows ?_ finish)
  rw [grows.capacity, (kept.opened recording).2.2]
  decide

theorem finishStream_sealedIn {finished : CommandBatchBuilder} {length : Nat} (kept : Kept region.mapping proxy)
    (resting : Resting region.mapping proxy) (done : proxy.finishStream = .ok (finished, length)) :
    SealedIn (storeView region.mapping proxy.streamSlot finished.bytes)
      { proxy with streamLength := UInt32.ofNat length } := by
  obtain ⟨recording, clean, ended, appended, finish⟩ := finishStream_eq_ok.mp done
  have building := kept.building recording clean
  rw [resting.attached] at building
  obtain ⟨⟨commands, built, filtered⟩, nonzero, handle⟩ := building
  have whole := built.append appended
  have all : ∀ command ∈ commands ++ [Command.vulkanEnd], command.misfiltered = false := by
    intro command member
    rcases List.mem_append.mp member with before | last
    · exact filtered command before
    · rw [List.mem_singleton.mp last]
      rfl
  have validates := (whole.validatesAs_iff nonzero handle finish).mpr all
  obtain ⟨_, same, small, _⟩ := finish_sound finish
  have short : (UInt32.ofNat length).toNat = length :=
    UInt32.toNat_ofNat_of_lt' (by simp only [UInt32.size]; omega)
  have fits := whole.fits
  rw [whole.room] at fits
  refine ⟨?_, (commands ++ [Command.vulkanEnd]).length, ?_⟩
  · simp only [short]
    omega
  · simp only [short, slotView_storeView]
    exact validates

theorem endCommandBuffer_closes (kept : Kept region.mapping proxy) (resting : Resting region.mapping proxy)
    (leases : region.Leases (Function.update others buffer proxy.slotNumber))
    (earlier : region.Earlier proxy.streamSequence) :
    Closes others buffer region (proxy.endCommandBuffer region).2.1 (proxy.endCommandBuffer region).2.2 := by
  simp only [endCommandBuffer]
  split
  · rename_i finished length done
    obtain ⟨recording, _⟩ := finishStream_eq_ok.mp done
    have mine := (kept.opened recording).2.1
    refine ⟨leases, rfl, rfl, .inl rfl, earlier, ?_, ?_⟩
    · exact grown_spares kept resting leases recording (finishStream_grows kept done) rfl
    · refine .of_resting (written_resting region _) (by rintro ⟨⟩) (by rintro ⟨⟩) (fun _ => rfl) fun _ _ => ?_
      simp only [StreamRegion.written, mine]
      exact finishStream_sealedIn kept resting done
  · obtain ⟨mapped, generation, sequence⟩ := @releaseCommandStreamSlot_region
      { proxy with
        streamBuilder := proxy.builderAfterFailure
        streamLength := 0
        streamSealed := false
        streamError := true } region
    obtain ⟨slot, released, outside⟩ := @releaseCommandStreamSlot_proxy
      { proxy with
        streamBuilder := proxy.builderAfterFailure
        streamLength := 0
        streamSealed := false
        streamError := true } region
    have given := @releaseCommandStreamSlot_leases
      { proxy with
        streamBuilder := proxy.builderAfterFailure
        streamLength := 0
        streamSealed := false
        streamError := true } region others buffer leases
    generalize { proxy with
        streamBuilder := proxy.builderAfterFailure
        streamLength := 0
        streamSealed := false
        streamError := true }.releaseCommandStreamSlot region = result at *
    obtain ⟨next, after⟩ := result
    simp only at released mapped generation sequence given ⊢
    subst released
    refine ⟨?_, mapped, generation, .inl sequence, ?_, ?_, by constructor <;> rintro ⟨⟩⟩
    · rw [slotNumber_none outside]
      exact given
    · rw [StreamRegion.Earlier, sequence]
      exact earlier
    · intro other own different has
      rw [written_mapping mapped]
      by_cases recording : proxy.streamRecording = true
      · refine grown_spares kept resting leases recording ?_ ?_ other own different has
        · exact builderAfterFailure_grows
        · rfl
      · have same : proxy.builderAfterFailure = proxy.streamBuilder := by
          rw [builderAfterFailure, Bool.eq_false_iff.mpr recording, Bool.false_and, if_neg Bool.false_ne_true]
        have rests : Resting region.mapping
            { proxy with
              streamBuilder := proxy.builderAfterFailure
              streamSlot := slot
              streamLength := 0
              streamRecording := false
              streamSealed := false
              streamError := true } := by
          intro mine held
          simp only [same]
          exact resting mine held
        rw [rests.written]
        exact fun _ _ => rfl

/-- A section of a `vkCmd*` call whose commands a stream may hold. -/
theorem runSection_closes {diagnostics : Bool} {registry : ClientRegistry} {scratch : Buffer}
    {phase : RecordPhase} (carries : ∀ command, phase.command = some command → command.Recordable)
    (kept : Kept region.mapping proxy) (resting : Resting region.mapping proxy)
    (leases : region.Leases (Function.update others buffer proxy.slotNumber))
    (earlier : region.Earlier proxy.streamSequence) :
    Closes others buffer region region (proxy.runSection diagnostics registry scratch phase).1 := by
  have frame : (proxy.runSection diagnostics registry scratch phase).1.frame = proxy.frame := runSection_frame phase
  have grows : Grows proxy.streamBuilder (proxy.runSection diagnostics registry scratch phase).1.streamBuilder :=
    runSection_grows phase
  obtain ⟨sealedBefore, cleanBefore⟩ := @runSection_flags proxy diagnostics registry scratch phase
  have silent (idle : proxy.streamRecording = false) :
      (proxy.runSection diagnostics registry scratch phase).1.streamBuilder = proxy.streamBuilder :=
    runSection_idle idle
  have stream (command : Command) (carried : phase.command = some command) :
      Advances command proxy (proxy.runSection diagnostics registry scratch phase) := runSection_advances carried
  have poisoned (bare : phase.command = none) :
      (proxy.runSection diagnostics registry scratch phase).1.streamError = true := by
    cases phase with
    | poison => rfl
    | enter | reading | relock | submit => contradiction
  simp only [Advances] at stream
  generalize proxy.runSection diagnostics registry scratch phase = result at *
  obtain ⟨after, next⟩ := result
  have wireId := congrArg StreamFrame.wireId frame
  have builderSlot := congrArg StreamFrame.builderSlot frame
  have streamSequence := congrArg StreamFrame.streamSequence frame
  have streamLength := congrArg StreamFrame.streamLength frame
  have streamSlot := congrArg StreamFrame.streamSlot frame
  have streamRecording := congrArg StreamFrame.streamRecording frame
  simp only [CommandBufferProxy.frame] at wireId builderSlot streamSequence streamLength streamSlot streamRecording
  simp only at grows sealedBefore cleanBefore silent stream poisoned ⊢
  have still (idle : proxy.streamRecording = false) : region.written after = region := by
    have rests : Resting region.mapping after := by
      intro slot held
      rw [silent idle]
      exact resting slot (builderSlot ▸ held)
    exact rests.written
  refine ⟨?_, rfl, rfl, .inl rfl, ?_, ?_, ?_⟩
  · rw [slotNumber, streamSlot]
    exact leases
  · rw [streamSequence]
    exact earlier
  · intro other slot different has
    by_cases recording : proxy.streamRecording = true
    · exact grown_spares kept resting leases recording grows builderSlot other slot different has
    · rw [still (Bool.eq_false_iff.mpr recording)]
      exact fun _ _ => rfl
  refine .of_resting (written_resting region after) ?_ ?_ ?_ ?_
  · intro recording
    rw [streamRecording] at recording
    rw [streamSlot, builderSlot, grows.capacity]
    exact kept.opened recording
  · intro recording clean
    rw [streamRecording] at recording
    have building := kept.building recording (cleanBefore clean)
    rw [resting.attached] at building
    obtain ⟨⟨commands, built, filtered⟩, nonzero, handle⟩ := building
    refine ⟨?_, streamSequence ▸ nonzero, wireId ▸ handle⟩
    rw [wireId, streamSequence]
    cases carried : phase.command with
    | none =>
        rw [poisoned carried] at clean
        contradiction
    | some command =>
        obtain ⟨_, done⟩ := stream command carried clean
        cases next with
        | none =>
            refine ⟨commands ++ [command], built.append done, ?_⟩
            intro other member
            rcases List.mem_append.mp member with before | last
            · exact filtered other before
            · rw [List.mem_singleton.mp last]
              exact (carries command carried).filtered
        | some later =>
            simp only at done
            rw [done]
            exact ⟨commands, built, filtered⟩
  · intro sealed
    rw [streamRecording]
    exact kept.idle (sealedBefore sealed)
  · intro sealed inside
    have idle := kept.idle (sealedBefore sealed)
    rw [still idle]
    rw [streamSlot] at inside
    rw [SealedIn, streamLength, streamSlot, wireId, streamSequence]
    exact kept.held (sealedBefore sealed) inside

end CommandBufferProxy

end VulkanBridge
