import VulkanBridge.SlotExclusivity

/-!
The slots of all the command buffers over every interleaving of their sections.
-/

namespace VulkanBridge

open ByteBuffer CheckedLoops WordBits

namespace CommandBufferProxy

variable {proxy after : CommandBufferProxy} {region next : StreamRegion} {mapping : Buffer}

theorem Kept.attached (kept : Kept mapping proxy) : Kept mapping (proxy.attached mapping) := by
  have resting : Resting mapping (proxy.attached mapping) := attached_resting proxy mapping
  have frame := attached_frame proxy mapping
  obtain ⟨error, sealed, capacity⟩ := attached_flags proxy mapping
  have wireId := congrArg StreamFrame.wireId frame
  have builderSlot := congrArg StreamFrame.builderSlot frame
  have streamSequence := congrArg StreamFrame.streamSequence frame
  have streamLength := congrArg StreamFrame.streamLength frame
  have streamSlot := congrArg StreamFrame.streamSlot frame
  have streamRecording := congrArg StreamFrame.streamRecording frame
  simp only [CommandBufferProxy.frame] at wireId builderSlot streamSequence streamLength streamSlot streamRecording
  refine .of_resting resting ?_ ?_ ?_ ?_
  · rw [streamRecording, streamSlot, builderSlot, capacity]
    exact kept.opened
  · rw [streamRecording, error]
    exact kept.building
  · rw [sealed, streamRecording]
    exact kept.idle
  · rw [sealed, streamSlot, SealedIn, streamLength, streamSlot, wireId, streamSequence]
    exact kept.held

theorem failBegin_sequence :
    (proxy.failBegin region).2.1.nextSequence = region.nextSequence ∧
      (proxy.failBegin region).2.2.streamSequence = proxy.streamSequence := by
  obtain ⟨next, _, _, sequence⟩ := @failBegin_spec proxy region
  exact ⟨next, sequence⟩

theorem beginSection_sequence (flags : UInt32) :
    ((proxy.beginSection region flags).2.1.nextSequence = region.nextSequence ∧
        (proxy.streamRecording = true ∧
            (proxy.beginSection region flags).2.2.streamSequence = proxy.streamSequence ∨
          (proxy.beginSection region flags).2.2.streamSequence = 0)) ∨
      region.nextSequence ≠ 0 ∧
        (proxy.beginSection region flags).2.1.nextSequence = region.nextSequence + 1 ∧
        (proxy.beginSection region flags).2.2.streamSequence = region.nextSequence := by
  unfold beginSection
  split
  · rename_i recording
    obtain ⟨next, sequence⟩ := @failBegin_sequence { proxy with diagnosticRejection := false } region
    exact .inl ⟨next, .inl ⟨recording, sequence⟩⟩
  obtain ⟨kept, _, _, zero, _⟩ := @resetCommandStreamState_spec proxy region
  generalize proxy.resetCommandStreamState region = result at *
  obtain ⟨cleared, fresh⟩ := result
  simp only at kept zero ⊢
  split
  · obtain ⟨next, sequence⟩ := @failBegin_sequence fresh cleared
    exact .inl ⟨next.trans kept, .inr (sequence.trans zero)⟩
  rename_i leased ready done
  obtain ⟨_, _, nonzero, more, made⟩ := leaseCommandStreamSlot_facts done
  have handed : ready.streamSequence = region.nextSequence := by
    rw [made]
    exact kept
  have late {between : CommandBufferProxy} (same : between.streamSequence = ready.streamSequence) :
      (between.failBegin leased).2.1.nextSequence = region.nextSequence + 1 ∧
        (between.failBegin leased).2.2.streamSequence = region.nextSequence := by
    obtain ⟨next, sequence⟩ := @failBegin_sequence between leased
    exact ⟨next.trans (kept ▸ more), sequence.trans (same.trans handed)⟩
  refine .inr ⟨kept ▸ nonzero, ?_⟩
  split
  · exact late rfl
  split
  · exact late rfl
  · exact ⟨kept ▸ more, handed⟩

def Sequenced (region next : StreamRegion) (before after : CommandBufferProxy) : Prop :=
  next.nextSequence = region.nextSequence ∧
      (after.streamSequence = before.streamSequence ∨ after.streamSequence = 0) ∨
    region.nextSequence ≠ 0 ∧ next.nextSequence = region.nextSequence + 1 ∧
      after.streamSequence = region.nextSequence

theorem beginCommandBuffer_sequenced (info : Option (Chained BeginInfo)) :
    Sequenced region (proxy.beginCommandBuffer region info).2.1 proxy
      (proxy.beginCommandBuffer region info).2.2 := by
  simp only [beginCommandBuffer]
  split
  · exact .inl ⟨rfl, .inl rfl⟩
  · rename_i flags _
    rcases beginSection_sequence flags with ⟨same, ⟨_, kept⟩ | zero⟩ | handed
    · exact .inl ⟨same, .inl kept⟩
    · exact .inl ⟨same, .inr zero⟩
    · exact .inr handed

theorem endCommandBuffer_sequenced :
    Sequenced region (proxy.endCommandBuffer region).2.1 proxy (proxy.endCommandBuffer region).2.2 := by
  simp only [endCommandBuffer]
  split
  · exact .inl ⟨rfl, .inl rfl⟩
  · obtain ⟨next, _, sequence⟩ := @releaseCommandStreamSlot_cache
      { proxy with
        streamBuilder := proxy.builderAfterFailure
        streamLength := 0
        streamSealed := false
        streamError := true } region
    exact .inl ⟨next, .inl sequence⟩

theorem resetCommandStreamState_sequenced :
    Sequenced region (proxy.resetCommandStreamState region).1 proxy
      (proxy.resetCommandStreamState region).2 := by
  obtain ⟨next, _, _, zero, _⟩ := @resetCommandStreamState_spec proxy region
  exact .inl ⟨next, .inr zero⟩

end CommandBufferProxy

namespace StreamSystem

open CommandBufferProxy

variable {system : StreamSystem} {buffer : Nat} {proxy after : CommandBufferProxy} {next : StreamRegion}
  {generation : UInt64}

def slotOf (system : StreamSystem) (buffer : Nat) : Option Nat := (system.proxies buffer).bind slotNumber

/-- What holds of all command buffers between the sections. -/
structure Sound (system : StreamSystem) (generation : UInt64) : Prop where
  same : system.region.generation = generation
  leases : system.region.Leases system.slotOf
  kept : ∀ buffer proxy, system.proxies buffer = some proxy → proxy.Kept system.region.mapping
  earlier : ∀ buffer proxy, system.proxies buffer = some proxy → system.region.Earlier proxy.streamSequence
  carries : ∀ inside ∈ system.calls, ∀ command, inside.phase.command = some command → command.Recordable
  handed : ∀ sequence ∈ system.issued, sequence ≠ 0 ∧ system.region.Earlier sequence
  increasing : system.issued.Pairwise (· > ·)
  given : ∀ buffer proxy, system.proxies buffer = some proxy → proxy.streamSequence ≠ 0 →
    proxy.streamSequence ∈ system.issued

theorem slotOf_live (live : system.proxies buffer = some proxy) : system.slotOf buffer = proxy.slotNumber := by
  rw [slotOf, live, Option.bind_some]

theorem slotOf_attached (live : system.proxies buffer = some proxy) :
    Function.update system.slotOf buffer (proxy.attached system.region.mapping).slotNumber = system.slotOf := by
  have same := congrArg StreamFrame.streamSlot (attached_frame proxy system.region.mapping)
  simp only [CommandBufferProxy.frame] at same
  rw [slotNumber, same, ← slotNumber, ← slotOf_live live, Function.update_eq_self]

theorem slotOf_update {changed : StreamSystem} {held : Option CommandBufferProxy}
    (moved : changed.proxies = Function.update system.proxies buffer held) :
    changed.slotOf = Function.update system.slotOf buffer (held.bind slotNumber) := by
  funext other
  rw [slotOf, moved]
  by_cases same : other = buffer
  · rw [same, Function.update_self, Function.update_self]
  · rw [Function.update_of_ne same, Function.update_of_ne same, ← slotOf]

theorem close_proxies : (system.close buffer next after).proxies =
    Function.update system.proxies buffer (some after) := rfl

theorem succ_ne (sequence : UInt64) : sequence + 1 ≠ sequence := by
  intro wraps
  have same := congrArg UInt64.toNat wraps
  rw [UInt64.toNat_add, UInt64.toNat_one] at same
  have bound := sequence.toNat_lt
  omega

theorem written_slots (region : StreamRegion) (proxy : CommandBufferProxy) :
    (region.written proxy).slots = region.slots ∧ (region.written proxy).nextSequence = region.nextSequence ∧
      (region.written proxy).generation = region.generation := by
  simp only [StreamRegion.written]
  split <;> exact ⟨rfl, rfl, rfl⟩

theorem Sound.closed (sound : system.Sound generation) (live : system.proxies buffer = some proxy)
    (closes : Closes system.slotOf buffer system.region next after)
    (sequenced : Sequenced system.region next proxy after) : (system.close buffer next after).Sound generation := by
  obtain ⟨slots, sequence, kept⟩ := written_slots next after
  have carried (number : UInt64) (before : system.region.Earlier number) : (next.written after).Earlier number := by
    rw [StreamRegion.Earlier, sequence]
    exact closes.advances.earlier before
  have issued : (system.close buffer next after).issued = system.issued ∧
        next.nextSequence = system.region.nextSequence ∨
      (system.close buffer next after).issued = system.region.nextSequence :: system.issued ∧
        system.region.nextSequence ≠ 0 ∧ next.nextSequence = system.region.nextSequence + 1 := by
    rcases closes.advances with same | ⟨nonzero, more⟩
    · exact .inl ⟨if_pos same, same⟩
    · refine .inr ⟨if_neg ?_, nonzero, more⟩
      rw [more]
      exact succ_ne _
  have sequences : ∀ number ∈ (system.close buffer next after).issued,
      number ≠ 0 ∧ (next.written after).Earlier number := by
    intro number member
    rcases issued with ⟨same, _⟩ | ⟨longer, nonzero, more⟩
    · rw [same] at member
      exact ⟨(sound.handed number member).1, carried number (sound.handed number member).2⟩
    · rw [longer] at member
      rcases List.mem_cons.mp member with rfl | before
      · refine ⟨nonzero, ?_⟩
        rw [StreamRegion.Earlier, sequence]
        exact StreamRegion.earlier_leased more
      · exact ⟨(sound.handed number before).1, carried number (sound.handed number before).2⟩
  have others {other : Nat} {held : CommandBufferProxy} (different : other ≠ buffer)
      (has : (system.close buffer next after).proxies other = some held) : system.proxies other = some held := by
    rwa [close_proxies, Function.update_of_ne different] at has
  have mine {held : CommandBufferProxy}
      (has : (system.close buffer next after).proxies buffer = some held) : held = after := by
    rw [close_proxies, Function.update_self] at has
    exact (Option.some.inj has).symm
  constructor
  · exact (kept.trans closes.generation).trans sound.same
  · rw [StreamRegion.Leases, slotOf_update close_proxies, Option.bind_some]
    simp only [StreamSystem.close, slots]
    exact closes.leases
  · intro other held has
    by_cases same : other = buffer
    · subst same
      cases mine has
      exact closes.kept
    · have before := others same has
      refine (sound.kept other held before).congr fun inside => ?_
      refine closes.spares other held.streamSlot same ?_
      rw [slotOf_live before, slotNumber_inside inside]
  · intro other held has
    by_cases same : other = buffer
    · subst same
      cases mine has
      rw [StreamSystem.close, StreamRegion.Earlier, sequence]
      exact closes.earlier
    · exact carried _ (sound.earlier other held (others same has))
  · exact sound.carries
  · exact sequences
  · rcases issued with ⟨same, _⟩ | ⟨longer, nonzero, more⟩
    · rw [same]
      exact sound.increasing
    · rw [longer]
      refine List.pairwise_cons.mpr ⟨fun number member => ?_, sound.increasing⟩
      rcases (sound.handed number member).2 with exhausted | below
      · exact absurd exhausted nonzero
      · exact below
  · intro other held has nonzero
    by_cases same : other = buffer
    · subst same
      cases mine has
      rcases sequenced with ⟨equal, kept | zero⟩ | ⟨positive, more, handed⟩
      · have old : (system.close other next after).issued = system.issued := if_pos equal
        rw [old, kept]
        exact sound.given _ proxy live (kept ▸ nonzero)
      · exact absurd zero nonzero
      · rcases issued with ⟨_, equal⟩ | ⟨longer, _⟩
        · rw [more] at equal
          exact absurd equal (succ_ne _)
        · rw [longer, handed]
          exact List.mem_cons_self
    · have member := sound.given other held (others same has) nonzero
      rcases issued with ⟨old, _⟩ | ⟨longer, _⟩
      · rw [old]
        exact member
      · rw [longer]
        exact List.mem_cons_of_mem _ member

/-! ## Submits -/

theorem streamOffset_toNat {slot : UInt32} (inside : slot.toNat < commandStreamSlotCount) :
    (slot * UInt32.ofNat commandStreamSlotBytes).toNat = slot.toNat * commandStreamSlotBytes := by
  simp only [commandStreamSlotCount, commandStreamSlotBytes] at inside ⊢
  rw [UInt32.toNat_mul, UInt32.toNat_ofNat_of_lt' (by decide)]
  omega

structure Names (system : StreamSystem) (info : CommandSubmitInfo) (record : SubmitCommandRecord) : Prop where
  live : ∃ proxy, system.proxies info.buffer = some proxy ∧ record.commandBufferId = proxy.wireId
  resting : record.streamFlags = submitSharedStream → ∀ proxy, system.proxies info.buffer = some proxy →
    proxy.streamRecording = false
  generation : record.streamFlags = submitSharedStream → record.streamGeneration = system.region.generation
  within : record.streamFlags = submitSharedStream →
    record.streamOffset.toNat + record.streamLength.toNat ≤ commandStreamSlotCount * commandStreamSlotBytes
  validates : record.streamFlags = submitSharedStream → ∃ count,
    ValidatesAs (fun index => system.region.mapping (record.streamOffset.toNat + index)) record.streamLength.toNat
      record.commandBufferId record.streamSequence count

theorem Sound.submitRecord (sound : system.Sound generation) {deviceId : UInt64} {info : CommandSubmitInfo}
    {record : SubmitCommandRecord} (made : system.submitRecord deviceId info = .ok record) :
    system.Names info record := by
  simp only [StreamSystem.submitRecord] at made
  split at made
  · contradiction
  rename_i proxy live
  simp only [refused_eq_ok, CommandBufferProxy.submitRecord] at made
  obtain ⟨_, made⟩ := made
  split at made
  · cases made
    refine ⟨⟨proxy, live, rfl⟩, ?_, ?_, ?_, ?_⟩ <;> rintro ⟨⟩
  · simp only [refused_eq_ok, Bool.or_eq_true, Bool.not_eq_true', decide_eq_true_eq, not_or] at made
    obtain ⟨⟨⟨⟨⟨idle, _⟩, sealed⟩, _⟩, inside⟩, made⟩ := made
    cases made
    have small : proxy.streamSlot.toNat < commandStreamSlotCount := Nat.not_le.mp inside
    obtain ⟨short, count, validates⟩ :=
      (sound.kept info.buffer proxy live).held (Bool.eq_true_of_not_eq_false sealed) small
    have offset := streamOffset_toNat small
    refine ⟨⟨proxy, live, rfl⟩, fun _ other has => ?_, fun _ => rfl, fun _ => ?_, fun _ => ⟨count, ?_⟩⟩
    · rw [live] at has
      cases has
      exact Bool.eq_false_iff.mpr idle
    · simp only [offset]
      simp only [commandStreamSlotCount, commandStreamSlotBytes] at small short ⊢
      omega
    · simp only [offset]
      exact validates

theorem Sound.replaced (sound : system.Sound generation) {changed : StreamSystem} {held : Option CommandBufferProxy}
    (moved : changed.proxies = Function.update system.proxies buffer held)
    (mapping : changed.region.mapping = system.region.mapping)
    (alike : changed.region.generation = system.region.generation)
    (sequence : changed.region.nextSequence = system.region.nextSequence)
    (leases : changed.region.Leases (Function.update system.slotOf buffer (held.bind slotNumber)))
    (calls : changed.calls = system.calls) (issued : changed.issued = system.issued)
    (kept : ∀ proxy, held = some proxy → proxy.Kept system.region.mapping ∧
      system.region.Earlier proxy.streamSequence ∧
      (proxy.streamSequence ≠ 0 → proxy.streamSequence ∈ system.issued)) : changed.Sound generation := by
  have same (number : UInt64) (before : system.region.Earlier number) : changed.region.Earlier number := by
    rw [StreamRegion.Earlier, sequence]
    exact before
  have either {other : Nat} {proxy : CommandBufferProxy} (has : changed.proxies other = some proxy) :
      held = some proxy ∨ system.proxies other = some proxy := by
    rw [moved] at has
    by_cases equal : other = buffer
    · rw [equal, Function.update_self] at has
      exact .inl has
    · rw [Function.update_of_ne equal] at has
      exact .inr has
  constructor
  · exact alike.trans sound.same
  · rw [slotOf_update moved]
    exact leases
  · intro other proxy has
    rw [mapping]
    rcases either has with new | old
    · exact (kept proxy new).1
    · exact sound.kept other proxy old
  · intro other proxy has
    rcases either has with new | old
    · exact same _ (kept proxy new).2.1
    · exact same _ (sound.earlier other proxy old)
  · rw [calls]
    exact sound.carries
  · rw [issued]
    exact fun number member => ⟨(sound.handed number member).1, same _ (sound.handed number member).2⟩
  · rw [issued]
    exact sound.increasing
  · intro other proxy has nonzero
    rw [issued]
    rcases either has with new | old
    · exact (kept proxy new).2.2 nonzero
    · exact sound.given other proxy old nonzero

theorem Sound.released (sound : system.Sound generation) (live : system.proxies buffer = some proxy) :
    (proxy.releaseCommandStreamSlot system.region).1.Leases (Function.update system.slotOf buffer none) := by
  refine releaseCommandStreamSlot_leases ?_
  rw [← slotOf_live live, Function.update_eq_self]
  exact sound.leases

theorem Sound.upload (sound : system.Sound generation) {record : SubmitCommandRecord}
    (idle : record.streamFlags = submitSharedStream → ∀ proxy, system.proxies buffer = some proxy →
      proxy.streamRecording = false) :
    (system.upload buffer record).Sound generation ∧
      (system.upload buffer record).region.mapping = system.region.mapping ∧
      ∀ other after, (system.upload buffer record).proxies other = some after →
        ∃ before, system.proxies other = some before ∧ after.streamRecording = before.streamRecording := by
  simp only [StreamSystem.upload]
  split
  · exact ⟨sound, rfl, fun other after has => ⟨after, has, rfl⟩⟩
  rename_i proxy live
  split
  swap
  · exact ⟨sound, rfl, fun other after has => ⟨after, has, rfl⟩⟩
  rename_i shared
  have closed := idle shared.1 proxy live
  obtain ⟨mapped, alike, sequence⟩ := @releaseCommandStreamSlot_region
    { proxy with streamUploaded := true } system.region
  obtain ⟨slot, released, outside⟩ := @releaseCommandStreamSlot_proxy
    { proxy with streamUploaded := true } system.region
  have given := @releaseCommandStreamSlot_leases { proxy with streamUploaded := true } system.region
    system.slotOf buffer (by
      have same : { proxy with streamUploaded := true }.slotNumber = system.slotOf buffer :=
        (slotOf_live live).symm
      rw [same, Function.update_eq_self]
      exact sound.leases)
  generalize { proxy with streamUploaded := true }.releaseCommandStreamSlot system.region = result at *
  obtain ⟨region, after⟩ := result
  simp only at released mapped alike sequence given ⊢
  refine ⟨sound.replaced rfl mapped alike sequence ?_ rfl rfl ?_, mapped, ?_⟩
  · rw [Option.bind_some, slotNumber_none (by rw [released]; exact outside)]
    exact given
  · intro other same
    cases same
    have kept := sound.kept buffer proxy live
    refine ⟨?_, ?_, ?_⟩
    · rw [released]
      refine ⟨?_, ?_, fun _ => closed, fun _ inside => absurd inside outside⟩
      · intro recording
        rw [closed] at recording
        contradiction
      · intro recording
        rw [closed] at recording
        contradiction
    · rw [released]
      exact sound.earlier buffer proxy live
    · rw [released]
      exact sound.given buffer proxy live
  · intro other held has
    by_cases same : other = buffer
    · rw [same, Function.update_self] at has
      cases has
      exact ⟨proxy, by rw [same, live], by rw [released]⟩
    · rw [Function.update_of_ne same] at has
      exact ⟨held, has, rfl⟩

theorem Sound.uploadAll {commands : List (CommandSubmitInfo × SubmitCommandRecord)} :
    ∀ {system : StreamSystem}, system.Sound generation →
      (∀ pair ∈ commands, pair.2.streamFlags = submitSharedStream → ∀ proxy,
        system.proxies pair.1.buffer = some proxy → proxy.streamRecording = false) →
      (system.uploadAll commands).Sound generation ∧
      (system.uploadAll commands).region.mapping = system.region.mapping ∧
        ∀ other after, (system.uploadAll commands).proxies other = some after →
          ∃ before, system.proxies other = some before ∧ after.streamRecording = before.streamRecording := by
  induction commands with
  | nil =>
      intro system sound _
      exact ⟨sound, rfl, fun other after has => ⟨after, has, rfl⟩⟩
  | cons pair rest ih =>
      intro system sound idle
      obtain ⟨first, others⟩ := List.forall_mem_cons.mp idle
      obtain ⟨next, mapped, kept⟩ := sound.upload first
      have later : ∀ other ∈ rest, other.2.streamFlags = submitSharedStream → ∀ proxy,
          (system.upload pair.1.buffer pair.2).proxies other.1.buffer = some proxy →
          proxy.streamRecording = false := by
        intro other member shared proxy has
        obtain ⟨before, live, same⟩ := kept other.1.buffer proxy has
        rw [same]
        exact others other member shared before live
      obtain ⟨whole, unwritten, same⟩ := ih next later
      refine ⟨whole, unwritten.trans mapped, fun other after has => ?_⟩
      obtain ⟨between, live, equal⟩ := same other after has
      obtain ⟨before, lived, alike⟩ := kept other between live
      exact ⟨before, lived, equal.trans alike⟩

theorem submitRecords_names (sound : system.Sound generation) {deviceId : UInt64} {commands : List CommandSubmitInfo}
    {records : List SubmitCommandRecord} (made : system.submitRecords deviceId commands = .ok records) :
    List.Forall₂ system.Names commands records := by
  have all := mapM_forall₂.mp made
  refine all.imp fun info record one => ?_
  exact sound.submitRecord one

theorem Sound.submits (sound : system.Sound generation) (deviceId : UInt64) (commands : List CommandSubmitInfo)
    (acknowledged : Bool) :
    (system.step (.submits deviceId commands acknowledged)).Sound generation ∧
      (system.step (.submits deviceId commands acknowledged)).region.mapping = system.region.mapping ∧
      ∀ other after, (system.step (.submits deviceId commands acknowledged)).proxies other = some after →
        ∃ before, system.proxies other = some before ∧ after.streamRecording = before.streamRecording := by
  simp only [step]
  split
  · exact ⟨sound, rfl, fun other after has => ⟨after, has, rfl⟩⟩
  rename_i records made
  split
  swap
  · exact ⟨sound, rfl, fun other after has => ⟨after, has, rfl⟩⟩
  have names := submitRecords_names sound made
  refine sound.uploadAll fun pair member shared proxy live => ?_
  exact ((List.forall₂_iff_zip.mp names).2 member).resting shared proxy live

/-! ## Every move -/

theorem Sound.found (sound : system.Sound generation) (live : system.proxies buffer = some proxy) :
    (proxy.attached system.region.mapping).Kept system.region.mapping ∧
      Resting system.region.mapping (proxy.attached system.region.mapping) ∧
      system.region.Leases
        (Function.update system.slotOf buffer (proxy.attached system.region.mapping).slotNumber) ∧
      system.region.Earlier (proxy.attached system.region.mapping).streamSequence ∧
      (proxy.attached system.region.mapping).streamSequence = proxy.streamSequence := by
  have same := congrArg StreamFrame.streamSequence (attached_frame proxy system.region.mapping)
  simp only [CommandBufferProxy.frame] at same
  refine ⟨(sound.kept buffer proxy live).attached, attached_resting _ _, ?_, ?_, same⟩
  · rw [slotOf_attached live]
    exact sound.leases
  · rw [same]
    exact sound.earlier buffer proxy live

theorem Sound.section_closed (sound : system.Sound generation) (live : system.proxies buffer = some proxy)
    {found : CommandBufferProxy} (attached : found = proxy.attached system.region.mapping)
    (closes : Closes system.slotOf buffer system.region next after)
    (sequenced : Sequenced system.region next found after) : (system.close buffer next after).Sound generation := by
  refine sound.closed live closes ?_
  obtain ⟨_, _, _, _, same⟩ := sound.found live
  rw [Sequenced, ← same, ← attached]
  exact sequenced

theorem runSection_sequenced {diagnostics : Bool} {registry : ClientRegistry} {scratch : Buffer}
    {phase : RecordPhase} (region : StreamRegion) :
    Sequenced region region proxy (proxy.runSection diagnostics registry scratch phase).1 :=
  .inl ⟨rfl, .inl (congrArg StreamFrame.streamSequence (runSection_frame phase))⟩

theorem Sound.proceeds (sound : system.Sound generation) {inside : InsideCall} (member : inside ∈ system.calls)
    (live : system.proxies inside.buffer = some proxy) (diagnostics : Bool) (registry : ClientRegistry)
    (scratch : Buffer) :
    Closes system.slotOf inside.buffer system.region system.region
      ((proxy.attached system.region.mapping).runSection diagnostics registry scratch inside.phase).1 := by
  obtain ⟨kept, resting, leases, earlier, _⟩ := sound.found live
  exact runSection_closes (sound.carries inside member) kept resting leases earlier

theorem Sound.step (sound : system.Sound generation) (move : StreamMove) : (system.step move).Sound generation := by
  cases move with
  | allocates buffer wireId parentPoolId deviceId =>
      simp only [StreamSystem.step]
      split
      · exact sound
      rename_i none
      refine sound.replaced rfl rfl rfl rfl ?_ rfl rfl ?_
      · have idle : slotNumber (.allocated wireId parentPoolId deviceId) = system.slotOf buffer := by
          rw [slotOf, none]
          rfl
        rw [Option.bind_some, idle, Function.update_eq_self]
        exact sound.leases
      · intro proxy same
        cases same
        exact ⟨allocated_kept wireId parentPoolId deviceId, StreamRegion.earlier_zero _, fun some => absurd rfl some⟩
  | begins buffer info =>
      simp only [StreamSystem.step, StreamSystem.found]
      cases live : system.proxies buffer with
      | none => exact sound
      | some proxy =>
          obtain ⟨kept, resting, leases, earlier, _⟩ := sound.found live
          exact sound.section_closed live rfl (beginCommandBuffer_closes kept resting leases earlier)
            (beginCommandBuffer_sequenced info)
  | enters buffer call =>
      simp only [StreamSystem.step]
      split
      · exact sound
      refine { sound with carries := fun inside member => ?_ }
      rcases List.mem_cons.mp member with rfl | before
      · intro command carried
        simp only [ClientCall.phase] at carried
        split at carried
        · contradiction
        · rename_i made
          cases carried
          exact ClientCall.command_recordable made
      · exact sound.carries inside before
  | proceeds call diagnostics registry scratch =>
      simp only [StreamSystem.step, StreamSystem.found]
      split
      · exact sound
      rename_i inside waits
      have member := List.mem_of_getElem? waits
      cases live : system.proxies inside.buffer with
      | none => exact sound
      | some proxy =>
          have closed := sound.section_closed live rfl (sound.proceeds member live diagnostics registry scratch)
            (runSection_sequenced system.region)
          refine { closed with carries := ?_ }
          simp only [Option.map_some]
          rcases outcome : (proxy.attached system.region.mapping).runSection diagnostics registry scratch
            inside.phase with ⟨after, next⟩
          intro other has command carried
          cases next with
          | none => exact sound.carries other (List.mem_of_mem_eraseIdx has) command carried
          | some phase =>
              rcases List.mem_or_eq_of_mem_set has with before | rfl
              · exact sound.carries other before command carried
              · rcases (runSection_progress outcome).2 with rfl | same
                · contradiction
                · exact sound.carries inside member command (same ▸ carried)
  | ends buffer =>
      simp only [StreamSystem.step, StreamSystem.found]
      cases live : system.proxies buffer with
      | none => exact sound
      | some proxy =>
          obtain ⟨kept, resting, leases, earlier, _⟩ := sound.found live
          exact sound.section_closed live rfl (endCommandBuffer_closes kept resting leases earlier)
            endCommandBuffer_sequenced
  | submits deviceId commands acknowledged => exact (sound.submits deviceId commands acknowledged).1
  | resets buffer =>
      simp only [StreamSystem.step]
      cases live : system.proxies buffer with
      | none => exact sound
      | some proxy =>
          refine sound.closed live (resetCommandStreamState_closes ?_) resetCommandStreamState_sequenced
          rw [← slotOf_live live, Function.update_eq_self]
          exact sound.leases
  | frees buffer =>
      simp only [StreamSystem.step]
      cases live : system.proxies buffer with
      | none => exact sound
      | some proxy =>
          simp only
          split
          · exact sound
          obtain ⟨mapped, alike, sequence⟩ := @releaseCommandStreamSlot_region proxy system.region
          exact sound.replaced rfl mapped alike sequence (sound.released live) rfl rfl (by rintro _ ⟨⟩)

theorem initial_sound (mapping : Buffer) (generation : UInt64) : (initial mapping generation).Sound generation := by
  constructor
  · rfl
  · constructor
    · intro slot
      simp only [initial, has_zero, Bool.false_eq_true, false_iff]
      rintro ⟨buffer, held⟩
      contradiction
    · intro first second slot held
      contradiction
  · rintro buffer proxy ⟨⟩
  · rintro buffer proxy ⟨⟩
  · intro inside member
    exact absurd member List.not_mem_nil
  · intro sequence member
    exact absurd member List.not_mem_nil
  · exact List.Pairwise.nil
  · rintro buffer proxy ⟨⟩

theorem run_sound (mapping : Buffer) (generation : UInt64) (moves : List StreamMove) :
    (Runs.final step (initial mapping generation) moves).Sound generation := by
  have states := @Runs.everyState_of_step _ _ step (fun system => system.Sound generation)
    (fun _ move sound => sound.step move) moves _ (initial_sound mapping generation)
  exact states.final

/-! ## Sealed bytes -/

/-- The command buffer holds the slot with the sequence. -/
def Holds (system : StreamSystem) (buffer : Nat) (slot : UInt32) (sequence : UInt64) : Prop :=
  ∃ proxy, system.proxies buffer = some proxy ∧ proxy.streamSlot = slot ∧ proxy.streamSequence = sequence

def Rests (system : StreamSystem) (buffer : Nat) (slot : UInt32) (sequence : UInt64) : Prop :=
  ∃ proxy, system.proxies buffer = some proxy ∧ proxy.streamSlot = slot ∧ proxy.streamSequence = sequence ∧
    proxy.streamRecording = false

variable {slot : UInt32} {sequence : UInt64}

theorem Rests.slotOf (rests : system.Rests buffer slot sequence) (inside : slot.toNat < commandStreamSlotCount) :
    system.slotOf buffer = some slot.toNat := by
  obtain ⟨proxy, live, rfl, _⟩ := rests
  rw [slotOf_live live, slotNumber_inside inside]

theorem Rests.beside (rests : system.Rests buffer slot sequence) (inside : slot.toNat < commandStreamSlotCount)
    {other : Nat} (different : buffer ≠ other)
    (closes : Closes system.slotOf other system.region next after) :
    Untouched system.region.mapping (system.close other next after).region.mapping slot ∧
      (system.close other next after).Rests buffer slot sequence := by
  refine ⟨closes.spares buffer slot different (rests.slotOf inside), ?_⟩
  rw [Rests, close_proxies, Function.update_of_ne different]
  exact rests

theorem Holds.absurd_slot (stays : (system.close buffer next after).Holds buffer slot sequence)
    (inside : slot.toNat < commandStreamSlotCount) (outside : ¬after.streamSlot.toNat < commandStreamSlotCount) :
    False := by
  obtain ⟨held, has, rfl, _⟩ := stays
  rw [close_proxies, Function.update_self] at has
  cases has
  exact outside inside

theorem attached_idle (idle : proxy.streamRecording = false) (mapping : Buffer) :
    (proxy.attached mapping).streamRecording = false :=
  (congrArg StreamFrame.streamRecording (attached_frame proxy mapping)).trans idle

theorem endCommandBuffer_outside (region : StreamRegion) (idle : proxy.streamRecording = false) :
    ¬(proxy.endCommandBuffer region).2.2.streamSlot.toNat < commandStreamSlotCount := by
  have refused : proxy.finishStream = .error .einval := by
    simp only [finishStream, idle, Bool.false_and, Bool.false_eq_true, ↓reduceIte]
  obtain ⟨slot, released, outside⟩ := @releaseCommandStreamSlot_proxy
    { proxy with
      streamBuilder := proxy.builderAfterFailure
      streamLength := 0
      streamSealed := false
      streamError := true } region
  simp only [endCommandBuffer, refused, released]
  exact outside

theorem Sound.untouched (sound : system.Sound generation) (rests : system.Rests buffer slot sequence)
    (inside : slot.toNat < commandStreamSlotCount) (nonzero : sequence ≠ 0) (move : StreamMove)
    (stays : (system.step move).Holds buffer slot sequence) :
    Untouched system.region.mapping (system.step move).region.mapping slot ∧
      (system.step move).Rests buffer slot sequence := by
  have still : Untouched system.region.mapping system.region.mapping slot := fun _ _ => rfl
  obtain ⟨proxy, live, sameSlot, sameSequence, idle⟩ := id rests
  cases move with
  | allocates other wireId parentPoolId deviceId =>
      simp only [StreamSystem.step]
      split
      · exact ⟨still, rests⟩
      rename_i none
      have different : buffer ≠ other := by
        rintro rfl
        rw [none] at live
        contradiction
      exact ⟨still, proxy, (Function.update_of_ne different _ _).trans live, sameSlot, sameSequence, idle⟩
  | begins other info =>
      simp only [StreamSystem.step, StreamSystem.found] at stays ⊢
      cases found : system.proxies other with
      | none => exact ⟨still, rests⟩
      | some begun =>
          rw [found] at stays
          obtain ⟨kept, resting, leases, earlier, same⟩ := sound.found found
          by_cases mine : buffer = other
          swap
          · exact rests.beside inside mine (beginCommandBuffer_closes kept resting leases earlier)
          subst mine
          rw [live] at found
          cases found
          have closed : (proxy.attached system.region.mapping).streamRecording = false := attached_idle idle _
          simp only [Option.map_some, beginCommandBuffer] at stays ⊢
          split
          · refine ⟨?_, proxy.attached system.region.mapping, ?_, ?_, ?_, closed⟩
            · rw [StreamSystem.close, resting.written]
              exact still
            · rw [close_proxies, Function.update_self]
            · exact (congrArg StreamFrame.streamSlot (attached_frame _ _)).trans sameSlot
            · exact same.trans sameSequence
          · rename_i flags supported
            rw [supported] at stays
            obtain ⟨held, has, _, kept⟩ := stays
            rw [close_proxies, Function.update_self] at has
            cases has
            exfalso
            rcases @beginSection_sequence (proxy.attached system.region.mapping) system.region flags with
              ⟨_, ⟨recording, _⟩ | zero⟩ | ⟨positive, _, handed⟩
            · rw [closed] at recording
              contradiction
            · exact nonzero (kept.symm.trans zero)
            · rw [same] at earlier
              refine earlier.ne_leased positive ?_
              rw [sameSequence, ← kept, handed]
  | enters other call =>
      simp only [StreamSystem.step]
      split
      · exact ⟨still, rests⟩
      · exact ⟨still, rests⟩
  | proceeds call diagnostics registry scratch =>
      simp only [StreamSystem.step, StreamSystem.found] at stays ⊢
      cases waits : system.calls[call]? with
      | none => exact ⟨still, rests⟩
      | some between =>
          cases found : system.proxies between.buffer with
          | none =>
              simp only [found, Option.map_none]
              exact ⟨still, rests⟩
          | some begun =>
              simp only [found, Option.map_some]
              have member := List.mem_of_getElem? waits
              by_cases mine : buffer = between.buffer
              swap
              · exact rests.beside inside mine (sound.proceeds member found diagnostics registry scratch)
              rw [← mine, live] at found
              cases found
              have closed : (proxy.attached system.region.mapping).streamRecording = false := attached_idle idle _
              have silent := @runSection_idle (proxy.attached system.region.mapping) diagnostics registry scratch
                between.phase closed
              have frame := @runSection_frame diagnostics (proxy.attached system.region.mapping) registry scratch
                between.phase
              rw [attached_frame] at frame
              generalize (proxy.attached system.region.mapping).runSection diagnostics registry scratch
                between.phase = result at *
              have resting : Resting system.region.mapping result.1 := by
                intro own held
                rw [silent]
                have builderSlot := congrArg StreamFrame.builderSlot frame
                simp only [CommandBufferProxy.frame] at builderSlot
                refine attached_resting proxy _ own ?_
                have found := congrArg StreamFrame.builderSlot (attached_frame proxy system.region.mapping)
                simp only [CommandBufferProxy.frame] at found
                rw [found, ← builderSlot, held]
              refine ⟨?_, result.1, ?_, ?_, ?_, ?_⟩
              · simp only [StreamSystem.close, resting.written]
                exact still
              · rw [← mine]
                exact Function.update_self ..
              · exact (congrArg StreamFrame.streamSlot frame).trans sameSlot
              · exact (congrArg StreamFrame.streamSequence frame).trans sameSequence
              · exact (congrArg StreamFrame.streamRecording frame).trans idle
  | ends other =>
      simp only [StreamSystem.step, StreamSystem.found] at stays ⊢
      cases found : system.proxies other with
      | none => exact ⟨still, rests⟩
      | some begun =>
          rw [found] at stays
          obtain ⟨kept, resting, leases, earlier, same⟩ := sound.found found
          by_cases mine : buffer = other
          swap
          · exact rests.beside inside mine (endCommandBuffer_closes kept resting leases earlier)
          subst mine
          rw [live] at found
          cases found
          exact (stays.absurd_slot inside (endCommandBuffer_outside _ (attached_idle idle _))).elim
  | submits deviceId commands acknowledged =>
      obtain ⟨_, unwritten, kept⟩ := sound.submits deviceId commands acknowledged
      rw [unwritten]
      obtain ⟨after, has, slotKept, sequenceKept⟩ := stays
      obtain ⟨before, lived, same⟩ := kept buffer after has
      rw [live] at lived
      cases lived
      exact ⟨still, after, has, slotKept, sequenceKept, same.trans idle⟩
  | resets other =>
      simp only [StreamSystem.step] at stays ⊢
      cases found : system.proxies other with
      | none => exact ⟨still, rests⟩
      | some begun =>
          rw [found] at stays
          by_cases mine : buffer = other
          swap
          · refine rests.beside inside mine (resetCommandStreamState_closes ?_)
            rw [← slotOf_live found, Function.update_eq_self]
            exact sound.leases
          subst mine
          obtain ⟨own, reset, outside⟩ := @resetCommandStreamState_eq begun system.region
          refine (stays.absurd_slot inside ?_).elim
          rw [reset]
          exact outside
  | frees other =>
      simp only [StreamSystem.step] at stays ⊢
      cases found : system.proxies other with
      | none => exact ⟨still, rests⟩
      | some begun =>
          rw [found] at stays
          simp only at stays ⊢
          split
          · exact ⟨still, rests⟩
          rename_i free
          rw [if_neg free] at stays
          obtain ⟨mapped, _, _⟩ := @releaseCommandStreamSlot_region begun system.region
          simp only [mapped]
          refine ⟨still, ?_⟩
          obtain ⟨after, has, slotKept, sequenceKept⟩ := stays
          by_cases mine : buffer = other
          · subst mine
            have gone : Function.update system.proxies buffer none buffer = some after := has
            rw [Function.update_self] at gone
            contradiction
          · exact ⟨proxy, (Function.update_of_ne mine _ _).trans live, sameSlot, sameSequence, idle⟩

theorem Sound.run_untouched (inside : slot.toNat < commandStreamSlotCount) (nonzero : sequence ≠ 0)
    (moves : List StreamMove) : ∀ {system : StreamSystem}, system.Sound generation → system.Rests buffer slot sequence →
      Runs.EveryState StreamSystem.step (fun state => state.Holds buffer slot sequence) system moves →
      Untouched system.region.mapping (Runs.final StreamSystem.step system moves).region.mapping slot := by
  induction moves with
  | nil =>
      intro system _ _ _ index _
      rfl
  | cons move rest ih =>
      intro system sound rests states
      have next : (system.step move).Holds buffer slot sequence := by
        cases rest with
        | nil => exact states.2
        | cons => exact states.2.1
      obtain ⟨first, resting⟩ := sound.untouched rests inside nonzero move next
      have later := ih (sound.step move) resting states.2
      intro index before
      exact (later index before).trans (first index before)

theorem close_issued (advances : system.region.Advances next) :
    (system.close buffer next after).region.nextSequence = system.region.nextSequence ∧
        (system.close buffer next after).issued = system.issued ∨
      system.region.nextSequence ≠ 0 := by
  rcases advances with same | ⟨nonzero, _⟩
  · refine .inl ⟨?_, if_pos same⟩
    simp only [StreamSystem.close, (written_slots next after).2.1, same]
  · exact .inr nonzero

theorem upload_issued (buffer : Nat) (record : SubmitCommandRecord) :
    (system.upload buffer record).region.nextSequence = system.region.nextSequence ∧
      (system.upload buffer record).issued = system.issued := by
  simp only [StreamSystem.upload]
  split
  · exact ⟨rfl, rfl⟩
  split
  · rename_i proxy _ _
    obtain ⟨_, _, sequence⟩ := @releaseCommandStreamSlot_region { proxy with streamUploaded := true } system.region
    exact ⟨sequence, rfl⟩
  · exact ⟨rfl, rfl⟩

theorem uploadAll_issued (commands : List (CommandSubmitInfo × SubmitCommandRecord)) :
    ∀ system : StreamSystem, (system.uploadAll commands).region.nextSequence = system.region.nextSequence ∧
      (system.uploadAll commands).issued = system.issued := by
  induction commands with
  | nil =>
      intro system
      exact ⟨rfl, rfl⟩
  | cons pair rest ih =>
      intro system
      obtain ⟨sequence, issued⟩ := @upload_issued system pair.1.buffer pair.2
      obtain ⟨later, all⟩ := ih (system.upload pair.1.buffer pair.2)
      exact ⟨later.trans sequence, all.trans issued⟩

theorem step_issued (move : StreamMove) :
    (system.step move).region.nextSequence = system.region.nextSequence ∧
        (system.step move).issued = system.issued ∨
      system.region.nextSequence ≠ 0 := by
  cases move with
  | allocates other | enters other =>
      simp only [step]
      split
      · exact .inl ⟨rfl, rfl⟩
      · exact .inl ⟨rfl, rfl⟩
  | begins other info =>
      simp only [step]
      split
      · exact .inl ⟨rfl, rfl⟩
      · rename_i proxy _
        refine close_issued ?_
        rcases beginCommandBuffer_sequenced info with ⟨same, _⟩ | ⟨nonzero, more, _⟩
        · exact .inl same
        · exact .inr ⟨nonzero, more⟩
  | proceeds call diagnostics registry scratch =>
      simp only [step]
      split
      · exact .inl ⟨rfl, rfl⟩
      split
      · exact .inl ⟨rfl, rfl⟩
      · rename_i inside _ _ _ _
        have closed := @close_issued system inside.buffer
        exact closed (.inl rfl)
  | ends other =>
      simp only [step]
      split
      · exact .inl ⟨rfl, rfl⟩
      · exact close_issued endCommandBuffer_begun.advances
  | submits deviceId commands acknowledged =>
      simp only [step]
      split
      · exact .inl ⟨rfl, rfl⟩
      split
      · exact .inl (uploadAll_issued _ system)
      · exact .inl ⟨rfl, rfl⟩
  | resets other =>
      simp only [step]
      split
      · exact .inl ⟨rfl, rfl⟩
      · exact close_issued resetCommandStreamState_begun.advances
  | frees other =>
      simp only [step]
      split
      · exact .inl ⟨rfl, rfl⟩
      split
      · exact .inl ⟨rfl, rfl⟩
      · exact .inl ⟨releaseCommandStreamSlot_region.2.2, rfl⟩

theorem run_issued (moves : List StreamMove) : ∀ {system : StreamSystem}, system.region.nextSequence = 0 →
    (Runs.final StreamSystem.step system moves).issued = system.issued := by
  induction moves with
  | nil =>
      intro system _
      rfl
  | cons move rest ih =>
      intro system exhausted
      rcases @step_issued system move with ⟨sequence, issued⟩ | nonzero
      · exact (ih (sequence.trans exhausted)).trans issued
      · exact absurd exhausted nonzero

/-- The slots and the sealed streams of a state. -/
structure Exclusive (generation : UInt64) (system : StreamSystem) : Prop where
  leased : system.region.Leases system.slotOf
  handed : ∀ sequence ∈ system.issued, sequence ≠ 0
  increasing : system.issued.Pairwise (· > ·)
  exhausted : system.region.nextSequence = 0 → ∀ moves,
    (Runs.final StreamSystem.step system moves).issued = system.issued
  given : ∀ buffer proxy, system.proxies buffer = some proxy → proxy.streamSequence ≠ 0 →
    proxy.streamSequence ∈ system.issued
  stable : ∀ buffer, system.endResult buffer = some vkSuccess → ∃ slot sequence,
    slot.toNat < commandStreamSlotCount ∧ (system.step (.ends buffer)).Holds buffer slot sequence ∧
      ∀ moves, Runs.EveryState StreamSystem.step (fun state => state.Holds buffer slot sequence)
          (system.step (.ends buffer)) moves →
        Untouched (system.step (.ends buffer)).region.mapping
          (Runs.final StreamSystem.step (system.step (.ends buffer)) moves).region.mapping slot
  submitted : ∀ deviceId commands records, system.submitRecords deviceId commands = .ok records →
    List.Forall₂ (fun info record => ∃ proxy, system.proxies info.buffer = some proxy ∧
      record.commandBufferId = proxy.wireId ∧
      (record.streamFlags = submitSharedStream → record.streamGeneration = generation ∧
        record.streamOffset.toNat + record.streamLength.toNat ≤ commandStreamSlotCount * commandStreamSlotBytes ∧
        ∃ count, ValidatesAs (fun index => system.region.mapping (record.streamOffset.toNat + index))
          record.streamLength.toNat proxy.wireId record.streamSequence count)) commands records

theorem endCommandBuffer_succeeds {region : StreamRegion}
    (succeeds : (proxy.endCommandBuffer region).1 = vkSuccess) :
    ∃ builder length, proxy.finishStream = .ok (builder, length) ∧
      proxy.endCommandBuffer region = (vkSuccess, region,
        { proxy with
          streamBuilder := builder
          streamLength := UInt32.ofNat length
          streamSealed := true
          streamRecording := false }) := by
  rcases whole : proxy.endCommandBuffer region with ⟨result, after, closed⟩
  rw [whole] at succeeds
  simp only at succeeds
  subst succeeds
  obtain ⟨builder, length, finished, rfl, rfl⟩ := endCommandBuffer_success whole
  exact ⟨builder, length, finished, rfl⟩

theorem Sound.ended (sound : system.Sound generation) (succeeds : system.endResult buffer = some vkSuccess) :
    ∃ slot sequence, slot.toNat < commandStreamSlotCount ∧ sequence ≠ 0 ∧
      (system.step (.ends buffer)).Rests buffer slot sequence := by
  simp only [endResult, StreamSystem.found] at succeeds
  cases live : system.proxies buffer with
  | none =>
      rw [live] at succeeds
      contradiction
  | some proxy =>
      rw [live] at succeeds
      simp only [Option.map_some, Option.some.injEq] at succeeds
      obtain ⟨builder, length, finished, whole⟩ := endCommandBuffer_succeeds succeeds
      obtain ⟨recording, clean, _⟩ := finishStream_eq_ok.mp finished
      obtain ⟨kept, resting, _, _, _⟩ := sound.found live
      have building := kept.building recording clean
      rw [resting.attached] at building
      refine ⟨_, _, (kept.opened recording).1, building.nonzero, ?_⟩
      simp only [Rests, StreamSystem.step, StreamSystem.found, live, Option.map_some, whole]
      exact ⟨_, Function.update_self .., rfl, rfl, rfl⟩

theorem stream_slots_exclusive (mapping : Buffer) (generation : UInt64) (moves : List StreamMove) :
    Exclusive generation (Runs.final step (initial mapping generation) moves) := by
  have sound := run_sound mapping generation moves
  generalize Runs.final step (initial mapping generation) moves = system at *
  constructor
  · exact sound.leases
  · intro sequence member
    exact (sound.handed sequence member).1
  · exact sound.increasing
  · intro exhausted later
    exact run_issued later exhausted
  · exact sound.given
  · intro buffer succeeds
    obtain ⟨slot, sequence, inside, nonzero, rests⟩ := sound.ended succeeds
    obtain ⟨proxy, live, same, equal, idle⟩ := id rests
    refine ⟨slot, sequence, inside, ⟨proxy, live, same, equal⟩, fun later states => ?_⟩
    exact Sound.run_untouched inside nonzero later (sound.step _) rests states
  · intro deviceId commands records made
    refine (submitRecords_names sound made).imp fun info record names => ?_
    obtain ⟨proxy, live, same⟩ := names.live
    refine ⟨proxy, live, same, fun shared => ⟨?_, names.within shared, ?_⟩⟩
    · rw [names.generation shared, sound.same]
    · obtain ⟨count, validates⟩ := names.validates shared
      exact ⟨count, same ▸ validates⟩

/-- A command buffer that records nothing and is sealed. -/
def sealedRun : List StreamMove :=
  [.allocates 0 0x0b00000000000001 0x0a00000000000001 0x0300000000000001,
    .begins 0 (some ⟨.commandBufferBeginInfo, false, ⟨0, false⟩⟩), .ends 0]

theorem stream_slots_exclusive_sealed :
    Exclusive 1 (Runs.final step (initial zeroed 1) sealedRun) ∧
      ((Runs.final step (initial zeroed 1) sealedRun).submitRecords 0x0300000000000001 [⟨0, 0, true⟩]).isOk = true :=
  ⟨stream_slots_exclusive zeroed 1 sealedRun, by decide +kernel⟩

end StreamSystem

end VulkanBridge
