import VulkanBridge.ClientCommands
import VulkanBridge.CommandBatchRoundTrip
import VulkanBridge.StrictTransport

/-!
What a recording leaves behind: a shared stream that could be sealed holds one
record for each call, and so does the list of answered requests where rejected
calls are remembered.
-/

namespace VulkanBridge

open ByteBuffer CheckedLoops

namespace CommandBatchBuilder

variable {builder next : CommandBatchBuilder} {command : Command}

theorem append_eq_ok (appended : builder.append command = .ok next) :
    builder.Accepts command ∧ next = builder.withRecord command := by
  by_cases accepts : builder.Accepts command
  · rw [append_accepted accepts] at appended
    exact ⟨accepts, (Except.ok.inj appended).symm⟩
  · obtain ⟨code, refused⟩ := append_refused accepts
    rw [refused] at appended
    contradiction

theorem Built.append {commandBufferId sequence : UInt64} {capacity : Nat} {commands : List Command}
    (built : builder.Built commandBufferId sequence capacity commands)
    (appended : builder.append command = .ok next) :
    next.Built commandBufferId sequence capacity (commands ++ [command]) := by
  obtain ⟨accepts, rfl⟩ := append_eq_ok appended
  exact built.withRecord accepts

end CommandBatchBuilder

open CommandBatchBuilder

/-- What `singleRenderRecord` builds. -/
structure SingleRecord (batch : Buffer) (length : Nat) (wireId : UInt64) (command : Command) : Prop where
  appendable : command.encoding.appendable = true
  handle : handleExpect wireId .commandBuffer = true
  finished : ∃ (builder finished : CommandBatchBuilder), builder.Built wireId 1 4096 [command] ∧
    builder.finish = .ok (finished, length) ∧ finished.bytes = batch

theorem singleRenderRecord_sound {scratch batch : Buffer} {length : Nat} {wireId : UInt64}
    {command : Command} (made : singleRenderRecord scratch wireId command = .ok (batch, length)) :
    SingleRecord batch length wireId command := by
  simp only [singleRenderRecord, bind_eq_ok, pure_eq_ok] at made
  obtain ⟨empty, begun, builder, appended, ⟨finished, _⟩, done, same⟩ := made
  cases same
  obtain ⟨built, _, handle⟩ := start_built begun
  exact ⟨(append_eq_ok appended).1.1, handle, builder, finished, built.append appended, done, rfl⟩

theorem SingleRecord.recordAt {batch : Buffer} {length : Nat} {wireId : UInt64} {command : Command}
    (single : SingleRecord batch length wireId command) : recordAt batch 32 = command.record := by
  obtain ⟨_, _, ⟨builder, finished, built, done, rfl⟩⟩ := single
  exact (built.finished_holds done).1

theorem appendBatch_single {builder next : CommandBatchBuilder} {batch : Buffer} {length : Nat}
    {wireId : UInt64} {command : Command} (single : SingleRecord batch length wireId command)
    (moved : builder.appendBatch batch length = (next, .ok ())) : builder.append command = .ok next := by
  simp only [appendBatch] at moved
  split at moved
  · simp at moved
  · rename_i iterator started
    simp only [CommandBatchIterator.init] at started
    split at started
    · contradiction
    · cases started
      split at moved
      · simp at moved
      · simp at moved
      · rename_i record later yielded
        simp only [CommandBatchIterator.next] at yielded
        split at yielded
        · contradiction
        · split at yielded
          · simp at yielded
          · simp only [Except.ok.injEq, Option.some.injEq, Prod.mk.injEq, single.recordAt] at yielded
            obtain ⟨rfl, rfl⟩ := yielded
            split at moved
            · simp at moved
            · rename_i moved' appended
              simp only [appendValidRecord, refused_eq_ok] at appended
              have same : moved' = next := by
                split at moved
                · exact (Prod.mk.inj moved).1
                · simp at moved
              rw [append, single.appendable, ← same]
              exact appended.2

/-- The fields no section of a `vkCmd*` call writes. -/
structure StreamFrame where
  wireId : UInt64
  parentPoolId : UInt64
  deviceId : UInt64
  builderSlot : Option UInt32
  streamSequence : UInt64
  streamLength : UInt32
  streamSlot : UInt32
  streamRecording : Bool
  streamUploaded : Bool

namespace CommandBufferProxy

def frame (proxy : CommandBufferProxy) : StreamFrame :=
  { wireId := proxy.wireId
    parentPoolId := proxy.parentPoolId
    deviceId := proxy.deviceId
    builderSlot := proxy.builderSlot
    streamSequence := proxy.streamSequence
    streamLength := proxy.streamLength
    streamSlot := proxy.streamSlot
    streamRecording := proxy.streamRecording
    streamUploaded := proxy.streamUploaded }

variable {diagnostics : Bool} {proxy : CommandBufferProxy} {command : Command} {registry : ClientRegistry}
  {scratch : Buffer}

@[simp] theorem poison_frame : (proxy.poison diagnostics).frame = proxy.frame := rfl

@[simp] theorem poison_streamError : (proxy.poison diagnostics).streamError = true := rfl

theorem appendDirect_frame : (proxy.appendDirect diagnostics command).frame = proxy.frame := by
  simp only [appendDirect]
  split
  · split <;> rfl
  · rfl

theorem relockedOwnership_frame (wireId : UInt64) (type : ObjectType) (sequence : UInt64) (owned : Bool) :
    (proxy.relockedOwnership wireId type sequence owned).2.frame = proxy.frame := by
  simp only [relockedOwnership]
  split
  · rfl
  · split <;> rfl

theorem afterLookup_frame (outcome : LookupOutcome) :
    (proxy.afterLookup diagnostics command outcome).1.frame = proxy.frame := by
  cases outcome with
  | owned =>
      simp only [afterLookup]
      split
      · exact appendDirect_frame
      · rfl
  | refused =>
      simp only [afterLookup]
      split <;> rfl
  | missed => rfl

theorem submitSection_frame (batch : Buffer) (length : Nat) :
    (proxy.submitSection diagnostics batch length).1.frame = proxy.frame := by
  simp only [submitSection]
  split
  · rfl
  · split <;> rfl

theorem runSection_frame (phase : RecordPhase) :
    (proxy.runSection diagnostics registry scratch phase).1.frame = proxy.frame := by
  cases phase with
  | enter command =>
      simp only [runSection]
      split
      · rfl
      · exact afterLookup_frame _
  | reading => rfl
  | relock command object rest sequence owned =>
      have kept : (proxy.relockedOwnership object.2 object.1 sequence owned).2.frame = proxy.frame :=
        relockedOwnership_frame object.2 object.1 sequence owned
      simp only [runSection]
      split
      · rename_i after outcome
        rw [outcome] at kept
        exact (afterLookup_frame _).trans kept
      · rename_i after outcome
        rw [outcome] at kept
        exact (afterLookup_frame _).trans kept
  | submit command =>
      simp only [runSection]
      split
      · rfl
      · split
        · rfl
        · exact submitSection_frame _ _
  | poison => rfl

/-- A section that leaves the stream without error found it so, and has appended
the command where it ends the call and nothing where it does not. -/
def Advances (command : Command) (before : CommandBufferProxy)
    (result : CommandBufferProxy × Option RecordPhase) : Prop :=
  result.1.streamError = false → before.streamError = false ∧
    match result.2 with
    | none => before.streamBuilder.append command = .ok result.1.streamBuilder
    | some _ => result.1.streamBuilder = before.streamBuilder

theorem appendDirect_advances (command : Command) :
    Advances command proxy (proxy.appendDirect diagnostics command, none) := by
  intro clean
  simp only [appendDirect] at clean ⊢
  split at clean
  · rename_i allowed
    rw [if_pos allowed]
    split at clean
    · rename_i builder appended
      simp only [appended]
      exact ⟨clean, trivial⟩
    · simp at clean
  · simp at clean

theorem afterLookup_advances (command : Command) (outcome : LookupOutcome) :
    Advances command proxy (proxy.afterLookup diagnostics command outcome) := by
  cases outcome with
  | owned =>
      simp only [afterLookup]
      split
      · exact appendDirect_advances command
      · exact fun clean => ⟨clean, rfl⟩
  | refused =>
      simp only [afterLookup]
      split
      · exact fun clean => absurd clean (by simp)
      · exact fun clean => ⟨clean, rfl⟩
  | missed => exact fun clean => ⟨clean, rfl⟩

theorem relockedOwnership_stream {wireId sequence : UInt64} {type : ObjectType} {owned answer : Bool}
    {after : CommandBufferProxy}
    (outcome : proxy.relockedOwnership wireId type sequence owned = (answer, after)) :
    after.streamError = proxy.streamError ∧ after.streamBuilder = proxy.streamBuilder := by
  simp only [relockedOwnership] at outcome
  split at outcome
  · cases outcome
    exact ⟨rfl, rfl⟩
  · split at outcome
    · cases outcome
      exact ⟨rfl, rfl⟩
    · cases outcome
      exact ⟨rfl, rfl⟩

theorem Advances.of_same_stream {command : Command} {before between : CommandBufferProxy}
    {result : CommandBufferProxy × Option RecordPhase} (advances : Advances command between result)
    (same : between.streamError = before.streamError ∧ between.streamBuilder = before.streamBuilder) :
    Advances command before result := by
  rw [Advances, same.1, same.2] at advances
  exact advances

theorem submitSection_advances {batch : Buffer} {length : Nat}
    (single : SingleRecord batch length proxy.wireId command) :
    Advances command proxy (proxy.submitSection diagnostics batch length) := by
  intro clean
  simp only [submitSection] at clean ⊢
  split at clean
  · simp at clean
  · rename_i isOpen
    rw [if_neg isOpen]
    split at clean
    · rename_i moved
      exact ⟨clean, appendBatch_single single moved⟩
    · simp at clean

end CommandBufferProxy

def RecordPhase.command : RecordPhase → Option Command
  | .enter command | .reading command _ _ _ | .relock command _ _ _ _ | .submit command => some command
  | .poison => none

namespace CommandBufferProxy

variable {diagnostics : Bool} {proxy : CommandBufferProxy} {command : Command} {registry : ClientRegistry}
  {scratch : Buffer}

theorem runSection_advances {phase : RecordPhase} (carried : phase.command = some command) :
    Advances command proxy (proxy.runSection diagnostics registry scratch phase) := by
  cases phase with
  | enter other =>
      cases carried
      simp only [runSection]
      split
      · exact fun clean => absurd clean (by simp)
      · exact afterLookup_advances command _
  | reading => exact fun clean => ⟨clean, rfl⟩
  | relock other object rest sequence owned =>
      cases carried
      simp only [runSection]
      split
      · rename_i outcome
        exact (afterLookup_advances command _).of_same_stream (relockedOwnership_stream outcome)
      · rename_i outcome
        exact (afterLookup_advances command _).of_same_stream (relockedOwnership_stream outcome)
  | submit other =>
      cases carried
      simp only [runSection]
      split
      · exact fun clean => ⟨clean, rfl⟩
      · rename_i made
        split
        · exact fun clean => ⟨clean, rfl⟩
        · exact submitSection_advances (singleRenderRecord_sound made)
  | poison => contradiction

theorem afterLookup_next {outcome : LookupOutcome} {after : CommandBufferProxy} {next : RecordPhase}
    (stands : proxy.afterLookup diagnostics command outcome = (after, some next)) :
    next = .poison ∨ next = .submit command ∨
      ∃ object rest sequence, outcome = .missed object rest ∧ next = .reading command object rest sequence := by
  cases outcome with
  | owned =>
      simp only [afterLookup] at stands
      split at stands
      · simp at stands
      · cases stands
        exact .inr (.inl rfl)
  | refused =>
      simp only [afterLookup] at stands
      split at stands
      · simp at stands
      · cases stands
        exact .inl rfl
  | missed object rest =>
      cases stands
      exact .inr (.inr ⟨object, rest, _, rfl, rfl⟩)

theorem lookup_missed {objects rest : List (ObjectType × UInt64)} {object : ObjectType × UInt64}
    (missed : proxy.lookup objects = .missed object rest) : rest.length < objects.length := by
  induction objects with
  | nil => simp [lookup] at missed
  | cons first others ih =>
      simp only [lookup] at missed
      split at missed
      · have shorter := ih missed
        simp only [List.length_cons]
        omega
      · contradiction
      · cases missed
        simp

theorem afterLookup_progress {objects : List (ObjectType × UInt64)} {after : CommandBufferProxy}
    {next : RecordPhase}
    (stands : proxy.afterLookup diagnostics command (proxy.lookup objects) = (after, some next)) :
    next.sections < 2 * objects.length + 3 ∧ (next = .poison ∨ next.command = some command) := by
  rcases afterLookup_next stands with rfl | rfl | ⟨object, rest, sequence, missed, rfl⟩
  · exact ⟨by simp only [RecordPhase.sections]; omega, .inl rfl⟩
  · exact ⟨by simp only [RecordPhase.sections]; omega, .inr rfl⟩
  · have shorter := lookup_missed missed
    exact ⟨by simp only [RecordPhase.sections]; omega, .inr rfl⟩

theorem runSection_progress {phase next : RecordPhase} {after : CommandBufferProxy}
    (stands : proxy.runSection diagnostics registry scratch phase = (after, some next)) :
    next.sections < phase.sections ∧ (next = .poison ∨ next.command = phase.command) := by
  cases phase with
  | enter command =>
      simp only [runSection] at stands
      split at stands
      · simp at stands
      · exact afterLookup_progress stands
  | reading =>
      cases stands
      exact ⟨by simp only [RecordPhase.sections]; omega, .inr rfl⟩
  | relock command object rest sequence owned =>
      simp only [runSection] at stands
      split at stands
      · rcases afterLookup_next stands with rfl | rfl | ⟨_, _, _, missed, _⟩
        · exact ⟨by simp only [RecordPhase.sections]; omega, .inl rfl⟩
        · exact ⟨by simp only [RecordPhase.sections]; omega, .inr rfl⟩
        · contradiction
      · exact afterLookup_progress stands
  | submit command =>
      have poisoned : next = .poison := by
        simp only [runSection] at stands
        split at stands
        · exact (Option.some.inj (Prod.mk.inj stands).2).symm
        · split at stands
          · exact (Option.some.inj (Prod.mk.inj stands).2).symm
          · simp only [submitSection] at stands
            split at stands
            · exact (Option.some.inj (Prod.mk.inj stands).2).symm
            · split at stands
              · simp at stands
              · exact (Option.some.inj (Prod.mk.inj stands).2).symm
      rw [poisoned]
      exact ⟨by simp only [RecordPhase.sections]; omega, .inl rfl⟩
  | poison => simp [runSection] at stands

theorem runPhases_frame (surroundings : Surroundings) (sections : Nat) (phase : RecordPhase) :
    (proxy.runPhases diagnostics surroundings sections phase).frame = proxy.frame := by
  induction sections generalizing proxy phase with
  | zero => rfl
  | succ sections ih =>
      have kept : (proxy.runSection diagnostics (surroundings.registry proxy.ownershipRegistryReads)
          surroundings.scratch phase).1.frame = proxy.frame := runSection_frame phase
      simp only [runPhases]
      split
      · rename_i after outcome
        rw [outcome] at kept
        exact kept
      · rename_i after next outcome
        rw [outcome] at kept
        exact (ih next).trans kept

theorem runPhases_poison (surroundings : Surroundings) {sections : Nat} (enough : 1 ≤ sections) :
    (proxy.runPhases diagnostics surroundings sections .poison).streamError = true := by
  obtain ⟨before, rfl⟩ : ∃ before, sections = before + 1 := ⟨sections - 1, by omega⟩
  rfl

theorem runPhases_appended (surroundings : Surroundings) {sections : Nat} {phase : RecordPhase}
    (enough : phase.sections ≤ sections) (carried : phase.command = some command)
    (clean : (proxy.runPhases diagnostics surroundings sections phase).streamError = false) :
    proxy.streamError = false ∧ proxy.streamBuilder.append command =
      .ok (proxy.runPhases diagnostics surroundings sections phase).streamBuilder := by
  induction sections generalizing proxy phase with
  | zero => cases phase <;> simp [RecordPhase.sections] at enough
  | succ sections ih =>
      have advances : Advances command proxy (proxy.runSection diagnostics
          (surroundings.registry proxy.ownershipRegistryReads) surroundings.scratch phase) :=
        runSection_advances carried
      simp only [runPhases] at clean ⊢
      split at clean
      · rename_i after outcome
        rw [outcome] at advances
        exact advances clean
      · rename_i after next outcome
        rw [outcome] at advances
        obtain ⟨fewer, stands⟩ := runSection_progress outcome
        rcases stands with rfl | same
        · have one : RecordPhase.poison.sections = 1 := rfl
          rw [runPhases_poison surroundings (by omega)] at clean
          contradiction
        · obtain ⟨cleanBetween, appended⟩ := ih (by omega) (same.trans carried) clean
          obtain ⟨cleanBefore, builder⟩ := advances cleanBetween
          rw [builder] at appended
          exact ⟨cleanBefore, appended⟩

end CommandBufferProxy

end VulkanBridge
