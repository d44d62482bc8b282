import VulkanBridge.SlotStability

/-!
What each command buffer was asked to record, kept beside the slots under every
interleaving. A stream a submit names holds the begin, the commands of the calls
that returned while the recording was open, in their order, and the end.
-/

namespace VulkanBridge

open ByteBuffer CheckedLoops CommandBatchBuilder

namespace StreamSystem

/-- The commands since the last begin, after a move: a begin that succeeds starts the
log, a call that returns while its command buffer records adds its command, and an
end that succeeds closes it. -/
def logged (system : StreamSystem) (log : Nat → List Command) : StreamMove → Nat → List Command
  | .begins buffer info =>
      match system.found buffer, CommandBufferProxy.supportedBegin info with
      | some proxy, some flags =>
          if (proxy.beginCommandBuffer system.region info).1 = vkSuccess then
            Function.update log buffer [.vulkanBegin ⟨flags⟩]
          else log
      | _, _ => log
  | .proceeds call diagnostics registry scratch =>
      match system.calls[call]? with
      | none => log
      | some inside =>
          match system.found inside.buffer with
          | none => log
          | some proxy =>
              match (proxy.runSection diagnostics registry scratch inside.phase).2, inside.phase.command with
              | none, some command =>
                  if proxy.streamRecording then
                    Function.update log inside.buffer (log inside.buffer ++ [command])
                  else log
              | _, _ => log
  | .ends buffer =>
      if system.endResult buffer = some vkSuccess then
        Function.update log buffer (log buffer ++ [.vulkanEnd])
      else log
  | _ => log

end StreamSystem

structure LoggedStreams where
  system : StreamSystem
  log : Nat → List Command

def LoggedStreams.step (state : LoggedStreams) (move : StreamMove) : LoggedStreams :=
  ⟨state.system.step move, state.system.logged state.log move⟩

def LoggedStreams.initial (mapping : Buffer) (generation : UInt64) : LoggedStreams :=
  ⟨.initial mapping generation, fun _ => []⟩

/-- A closed log. -/
structure ClosedLog (log : List Command) : Prop where
  shape : ∃ begun commands, log = .vulkanBegin begun :: (commands ++ [.vulkanEnd]) ∧
    ∀ command ∈ commands, command.Recordable
  appendable : ∀ command ∈ log, command.encoding.appendable = true

theorem ClosedLog.canonical {log : List Command} (closed : ClosedLog log) :
    ∀ command ∈ log, command.cleared = command := by
  obtain ⟨begun, commands, rfl, recordable⟩ := closed.shape
  rw [List.forall_mem_cons, List.forall_mem_append, List.forall_mem_singleton]
  exact ⟨rfl, fun command member => (recordable command member).canonical, rfl⟩

namespace CommandBufferProxy

variable {proxy after : CommandBufferProxy} {region next : StreamRegion} {mapping later : Buffer}
  {log : List Command}

/-- The log of a recording without error is in the builder, and the one of a sealed
stream in its slot. -/
structure Logs (mapping : Buffer) (proxy : CommandBufferProxy) (log : List Command) : Prop where
  building : proxy.streamRecording = true → proxy.streamError = false →
    (proxy.attached mapping).streamBuilder.Built proxy.wireId proxy.streamSequence commandStreamSlotBytes log ∧
      ∃ begun commands, log = .vulkanBegin begun :: commands ∧ ∀ command ∈ commands, command.Recordable
  sealed : proxy.streamSealed = true → proxy.streamSlot.toNat < commandStreamSlotCount →
    ClosedLog log ∧ Accepted (slotView mapping proxy.streamSlot) proxy.streamLength.toNat proxy.wireId
      proxy.streamSequence (log.map Command.record)

theorem Logs.of_idle (idle : proxy.streamRecording = false)
    (outside : ¬proxy.streamSlot.toNat < commandStreamSlotCount) : Logs mapping proxy log := by
  constructor
  · intro recording
    rw [idle] at recording
    contradiction
  · intro _ inside
    exact absurd inside outside

theorem Logs.congr (logs : Logs mapping proxy log) (kept : Kept mapping proxy)
    (spared : proxy.streamSlot.toNat < commandStreamSlotCount → Untouched mapping later proxy.streamSlot) :
    Logs later proxy log := by
  constructor
  · intro recording clean
    obtain ⟨inside, slot, _⟩ := kept.opened recording
    obtain ⟨built, shape⟩ := logs.building recording clean
    refine ⟨?_, shape⟩
    simp only [attached, slot] at built ⊢
    have fits := built.fits
    rw [built.room] at fits
    exact built.congr fun index before => (spared inside index (by simp only at before fits; omega)).symm
  · intro sealed inside
    obtain ⟨closed, accepted⟩ := logs.sealed sealed inside
    have short := (kept.held sealed inside).1
    exact ⟨closed, accepted.congr fun index before => (spared inside index (by omega)).symm⟩

theorem Logs.attached (logs : Logs mapping proxy log) : Logs mapping (proxy.attached mapping) log := by
  have resting : Resting mapping (proxy.attached mapping) := attached_resting proxy mapping
  have frame := attached_frame proxy mapping
  obtain ⟨error, flag, _⟩ := attached_flags proxy mapping
  have wireId := congrArg StreamFrame.wireId frame
  have streamSequence := congrArg StreamFrame.streamSequence frame
  have streamLength := congrArg StreamFrame.streamLength frame
  have streamSlot := congrArg StreamFrame.streamSlot frame
  have streamRecording := congrArg StreamFrame.streamRecording frame
  simp only [CommandBufferProxy.frame] at wireId streamSequence streamLength streamSlot streamRecording
  constructor
  · rw [streamRecording, error, resting.attached, wireId, streamSequence]
    exact logs.building
  · rw [flag, streamSlot, streamLength, wireId, streamSequence]
    exact logs.sealed

theorem failBegin_shut : (proxy.failBegin region).1 ≠ vkSuccess ∧
    (proxy.failBegin region).2.2.streamRecording = false ∧
    ¬(proxy.failBegin region).2.2.streamSlot.toNat < commandStreamSlotCount := by
  obtain ⟨slot, released, outside⟩ := @releaseCommandStreamSlot_proxy
    { proxy with streamRecording := false, streamError := true } region
  refine ⟨?_, failBegin_closed, ?_⟩
  · have result : (proxy.failBegin region).1 = vkErrorInitializationFailed := rfl
    rw [result]
    decide
  · simp only [failBegin, released]
    exact outside

theorem beginSection_shut (flags : UInt32) :
    ((proxy.beginSection region flags).1 = vkSuccess ∧
        (proxy.beginSection region flags).2.2.streamRecording = true ∧
        (proxy.beginSection region flags).2.2.streamSealed = false) ∨
      (proxy.beginSection region flags).1 ≠ vkSuccess ∧
        (proxy.beginSection region flags).2.2.streamRecording = false ∧
        ¬(proxy.beginSection region flags).2.2.streamSlot.toNat < commandStreamSlotCount := by
  unfold beginSection
  split
  · exact .inr failBegin_shut
  obtain ⟨slot, reset, _⟩ := @resetCommandStreamState_eq proxy region
  generalize proxy.resetCommandStreamState region = result at *
  obtain ⟨cleared, fresh⟩ := result
  simp only at reset ⊢
  subst reset
  split
  · exact .inr failBegin_shut
  rename_i leased ready done
  obtain ⟨_, _, _, _, made⟩ := leaseCommandStreamSlot_facts done
  split
  · exact .inr failBegin_shut
  split
  · exact .inr failBegin_shut
  · exact .inl ⟨rfl, rfl, by rw [made]⟩

theorem Kept.unsealed (kept : Kept mapping proxy) (recording : proxy.streamRecording = true) :
    proxy.streamSealed = false := by
  by_contra sealed
  rw [kept.idle (Bool.eq_true_of_not_eq_false sealed)] at recording
  contradiction

theorem beginSection_logs (flags : UInt32) :
    Logs ((proxy.beginSection region flags).2.1.written (proxy.beginSection region flags).2.2).mapping
      (proxy.beginSection region flags).2.2
      (if (proxy.beginSection region flags).1 = vkSuccess then [.vulkanBegin ⟨flags⟩] else log) := by
  have opened {result : VulkanResult} {ending : StreamRegion} {begun : CommandBufferProxy}
      (made : proxy.beginSection region flags = (result, ending, begun)) := beginSection_opened made
  rcases @beginSection_shut proxy region flags with ⟨success, recording, unsealed⟩ | ⟨failed, idle, outside⟩
  · rw [if_pos success]
    rcases made : proxy.beginSection region flags with ⟨result, ending, begun⟩
    rw [made] at recording unsealed
    have built := (opened made recording).built
    constructor
    · intro _ _
      rw [(written_resting ending begun).attached]
      exact ⟨built, ⟨flags⟩, [], rfl, List.forall_mem_nil _⟩
    · intro sealed
      rw [unsealed] at sealed
      contradiction
  · exact .of_idle idle outside

theorem runSection_logs {diagnostics : Bool} {registry : ClientRegistry} {scratch : Buffer}
    {phase : RecordPhase} (carries : ∀ command, phase.command = some command → command.Recordable)
    (kept : Kept region.mapping proxy) (resting : Resting region.mapping proxy)
    (logs : Logs region.mapping proxy log) :
    Logs (region.written (proxy.runSection diagnostics registry scratch phase).1).mapping
      (proxy.runSection diagnostics registry scratch phase).1
      (match (proxy.runSection diagnostics registry scratch phase).2, phase.command with
        | none, some command => if proxy.streamRecording then log ++ [command] else log
        | _, _ => log) := by
  have frame : (proxy.runSection diagnostics registry scratch phase).1.frame = proxy.frame := runSection_frame phase
  obtain ⟨sealedBefore, cleanBefore⟩ := @runSection_flags proxy diagnostics registry scratch phase
  have silent (idle : proxy.streamRecording = false) :
      (proxy.runSection diagnostics registry scratch phase).1.streamBuilder = proxy.streamBuilder :=
    runSection_idle idle
  have stream (command : Command) (carried : phase.command = some command) :
      Advances command proxy (proxy.runSection diagnostics registry scratch phase) := runSection_advances carried
  have poisoned (bare : phase.command = none) :
      (proxy.runSection diagnostics registry scratch phase).1.streamError = true := by
    cases phase with
    | poison => rfl
    | enter | reading | relock | submit => contradiction
  simp only [Advances] at stream
  generalize proxy.runSection diagnostics registry scratch phase = result at *
  obtain ⟨after, next⟩ := result
  have wireId := congrArg StreamFrame.wireId frame
  have builderSlot := congrArg StreamFrame.builderSlot frame
  have streamSequence := congrArg StreamFrame.streamSequence frame
  have streamLength := congrArg StreamFrame.streamLength frame
  have streamSlot := congrArg StreamFrame.streamSlot frame
  have streamRecording := congrArg StreamFrame.streamRecording frame
  simp only [CommandBufferProxy.frame] at wireId builderSlot streamSequence streamLength streamSlot streamRecording
  simp only at sealedBefore cleanBefore silent stream poisoned ⊢
  constructor
  · intro recording clean
    rw [streamRecording] at recording
    obtain ⟨built, begun, commands, shape, recordable⟩ := logs.building recording (cleanBefore clean)
    rw [resting.attached] at built
    rw [(written_resting region after).attached, wireId, streamSequence]
    cases carried : phase.command with
    | none =>
        rw [poisoned carried] at clean
        contradiction
    | some command =>
        obtain ⟨_, done⟩ := stream command carried clean
        cases next with
        | none =>
            simp only [recording, ↓reduceIte]
            refine ⟨built.append done, begun, commands ++ [command], by rw [shape, List.cons_append], ?_⟩
            rw [List.forall_mem_append, List.forall_mem_singleton]
            exact ⟨recordable, carries command carried⟩
        | some later =>
            simp only at done ⊢
            rw [done]
            exact ⟨built, begun, commands, shape, recordable⟩
  · intro sealed inside
    have idle := kept.idle (sealedBefore sealed)
    have rests : Resting region.mapping after := by
      intro slot held
      rw [silent idle]
      exact resting slot (builderSlot ▸ held)
    rw [rests.written, streamLength, streamSlot, wireId, streamSequence]
    rw [streamSlot] at inside
    have before := logs.sealed (sealedBefore sealed) inside
    cases next with
    | none =>
        cases carried : phase.command with
        | none => exact before
        | some command =>
            simp only [idle, Bool.false_eq_true, ↓reduceIte]
            exact before
    | some later => exact before

theorem endCommandBuffer_failed (failed : (proxy.endCommandBuffer region).1 ≠ vkSuccess) :
    (proxy.endCommandBuffer region).2.2.streamRecording = false ∧
      ¬(proxy.endCommandBuffer region).2.2.streamSlot.toNat < commandStreamSlotCount := by
  obtain ⟨slot, released, outside⟩ := @releaseCommandStreamSlot_proxy
    { proxy with
      streamBuilder := proxy.builderAfterFailure
      streamLength := 0
      streamSealed := false
      streamError := true } region
  simp only [endCommandBuffer] at failed ⊢
  split at failed
  · exact absurd rfl failed
  · simp only [released]
    exact ⟨trivial, outside⟩

theorem endCommandBuffer_logs (kept : Kept region.mapping proxy) (resting : Resting region.mapping proxy)
    (logs : Logs region.mapping proxy log) :
    Logs ((proxy.endCommandBuffer region).2.1.written (proxy.endCommandBuffer region).2.2).mapping
      (proxy.endCommandBuffer region).2.2
      (if (proxy.endCommandBuffer region).1 = vkSuccess then log ++ [.vulkanEnd] else log) := by
  by_cases success : (proxy.endCommandBuffer region).1 = vkSuccess
  · obtain ⟨finished, length, done, whole⟩ := StreamSystem.endCommandBuffer_succeeds success
    rw [if_pos success, whole]
    obtain ⟨recording, clean, ended, appended, finish⟩ := finishStream_eq_ok.mp done
    obtain ⟨built, begun, commands, shape, recordable⟩ := logs.building recording clean
    have building := kept.building recording clean
    rw [resting.attached] at built building
    have all := built.append appended
    have mine := (kept.opened recording).2.1
    obtain ⟨_, same, small, _⟩ := finish_sound finish
    have short : (UInt32.ofNat length).toNat = length :=
      UInt32.toNat_ofNat_of_lt' (by simp only [UInt32.size]; omega)
    constructor
    · rintro ⟨⟩
    · intro _ _
      have clear : ∀ command ∈ log ++ [.vulkanEnd], command.misfiltered = false := by
        rw [shape, List.forall_mem_append, List.forall_mem_cons, List.forall_mem_singleton]
        exact ⟨⟨rfl, fun command member => (recordable command member).filtered⟩, rfl⟩
      refine ⟨⟨⟨begun, commands, by rw [shape, List.cons_append], recordable⟩, all.checked⟩, ?_⟩
      simp only [StreamRegion.written, mine, slotView_storeView, short]
      obtain ⟨info, validated, named, numbered, _, _⟩ :=
        (all.validatesAs_iff building.nonzero building.handle finish).mpr clear
      obtain ⟨records, accepted, _⟩ := commandBatchValidate_sound validated
      have listed : records = (log ++ [Command.vulkanEnd]).map Command.record :=
        Except.ok.inj (accepted.records_eq.symm.trans (all.records_eq finish validated))
      rw [← listed, ← named, ← numbered]
      exact accepted
  · rw [if_neg success]
    obtain ⟨idle, outside⟩ := endCommandBuffer_failed success
    exact .of_idle idle outside

end CommandBufferProxy

namespace StreamSystem

open CommandBufferProxy

variable {system : StreamSystem} {buffer : Nat} {proxy after : CommandBufferProxy} {next : StreamRegion}
  {generation : UInt64} {log : Nat → List Command}

/-- The bytes of every live command buffer are those of its log. -/
def Logged (system : StreamSystem) (log : Nat → List Command) : Prop :=
  ∀ buffer proxy, system.proxies buffer = some proxy → proxy.Logs system.region.mapping (log buffer)

theorem Logged.closed (logged : system.Logged log) (sound : system.Sound generation) {commands : List Command}
    (closes : Closes system.slotOf buffer system.region next after)
    (own : after.Logs (next.written after).mapping commands) :
    (system.close buffer next after).Logged (Function.update log buffer commands) := by
  intro other held has
  by_cases same : other = buffer
  · subst same
    rw [close_proxies, Function.update_self] at has
    cases has
    rw [Function.update_self]
    exact own
  · rw [close_proxies, Function.update_of_ne same] at has
    rw [Function.update_of_ne same]
    refine (logged other held has).congr (sound.kept other held has) fun inside => ?_
    refine closes.spares other held.streamSlot same ?_
    rw [slotOf_live has, slotNumber_inside inside]

theorem Logged.kept (logged : system.Logged log) (sound : system.Sound generation)
    (closes : Closes system.slotOf buffer system.region next after)
    (own : after.Logs (next.written after).mapping (log buffer)) :
    (system.close buffer next after).Logged log := by
  have closed := logged.closed sound closes own
  rwa [Function.update_eq_self] at closed

theorem updated_cases {proxies : Nat → Option CommandBufferProxy} {held : Option CommandBufferProxy} {other : Nat}
    (has : Function.update proxies buffer held other = some after) :
    held = some after ∨ proxies other = some after := by
  by_cases same : other = buffer
  · rw [same, Function.update_self] at has
    exact .inl has
  · rw [Function.update_of_ne same] at has
    exact .inr has

theorem Logged.unwritten (logged : system.Logged log) {changed : StreamSystem}
    (mapping : changed.region.mapping = system.region.mapping)
    (gives : ∀ other after, changed.proxies other = some after → system.proxies other = some after ∨
      after.streamRecording = false ∧ ¬after.streamSlot.toNat < commandStreamSlotCount) :
    changed.Logged log := by
  intro other after has
  rw [mapping]
  rcases gives other after has with same | ⟨idle, outside⟩
  · exact logged other after same
  · exact .of_idle idle outside

theorem upload_gives {record : SubmitCommandRecord}
    (idle : record.streamFlags = submitSharedStream → ∀ proxy, system.proxies buffer = some proxy →
      proxy.streamRecording = false) (other : Nat) (after : CommandBufferProxy)
    (has : (system.upload buffer record).proxies other = some after) :
    system.proxies other = some after ∨
      after.streamRecording = false ∧ ¬after.streamSlot.toNat < commandStreamSlotCount := by
  simp only [upload] at has
  split at has
  · exact .inl has
  rename_i proxy live
  split at has
  swap
  · exact .inl has
  rename_i shared
  obtain ⟨slot, released, outside⟩ := @releaseCommandStreamSlot_proxy
    { proxy with streamUploaded := true } system.region
  rcases updated_cases has with new | old
  · rw [released] at new
    cases new
    exact .inr ⟨idle shared.1 proxy live, outside⟩
  · exact .inl old

theorem uploadAll_gives {commands : List (CommandSubmitInfo × SubmitCommandRecord)} :
    ∀ {system : StreamSystem}, system.Sound generation →
      (∀ pair ∈ commands, pair.2.streamFlags = submitSharedStream → ∀ proxy,
        system.proxies pair.1.buffer = some proxy → proxy.streamRecording = false) →
      ∀ other after, (system.uploadAll commands).proxies other = some after →
        system.proxies other = some after ∨
          after.streamRecording = false ∧ ¬after.streamSlot.toNat < commandStreamSlotCount := by
  induction commands with
  | nil =>
      intro system _ _ other after has
      exact .inl has
  | cons pair rest ih =>
      intro system sound idle other after has
      obtain ⟨first, others⟩ := List.forall_mem_cons.mp idle
      obtain ⟨next, _, kept⟩ := sound.upload first
      have later : ∀ other ∈ rest, other.2.streamFlags = submitSharedStream → ∀ proxy,
          (system.upload pair.1.buffer pair.2).proxies other.1.buffer = some proxy →
          proxy.streamRecording = false := by
        intro other member shared proxy lives
        obtain ⟨before, live, same⟩ := kept other.1.buffer proxy lives
        rw [same]
        exact others other member shared before live
      rcases ih next later other after has with same | outside
      · exact upload_gives first other after same
      · exact .inr outside

theorem Logged.submits (logged : system.Logged log) (sound : system.Sound generation) (deviceId : UInt64)
    (commands : List CommandSubmitInfo) (acknowledged : Bool) :
    (system.step (.submits deviceId commands acknowledged)).Logged log := by
  refine logged.unwritten (sound.submits deviceId commands acknowledged).2.1 fun other after has => ?_
  simp only [step] at has
  split at has
  · exact .inl has
  rename_i records made
  split at has
  swap
  · exact .inl has
  have names := submitRecords_names sound made
  refine uploadAll_gives sound (fun pair member shared proxy live => ?_) other after has
  exact ((List.forall₂_iff_zip.mp names).2 member).resting shared proxy live

theorem Logged.step (logged : system.Logged log) (sound : system.Sound generation) (move : StreamMove) :
    (system.step move).Logged (system.logged log move) := by
  cases move with
  | allocates other wireId parentPoolId deviceId =>
      refine logged.unwritten ?_ fun held after has => ?_
      · simp only [StreamSystem.step]
        split <;> rfl
      · simp only [StreamSystem.step] at has
        split at has
        · exact .inl has
        rcases updated_cases has with new | old
        · have outside : ¬noStreamSlot.toNat < commandStreamSlotCount := by decide
          cases new
          exact .inr ⟨rfl, outside⟩
        · exact .inl old
  | begins other info =>
      simp only [StreamSystem.step, StreamSystem.logged, StreamSystem.found]
      cases live : system.proxies other with
      | none => exact logged
      | some proxy =>
          obtain ⟨kept, resting, leases, earlier, _⟩ := sound.found live
          have closes := @beginCommandBuffer_closes _ _ _ _ info kept resting leases earlier
          have before := (logged other proxy live).attached
          simp only [Option.map_some]
          cases supported : supportedBegin info with
          | none =>
              refine logged.kept sound closes ?_
              simp only [beginCommandBuffer, supported, resting.written]
              exact before
          | some flags =>
              have own := @beginSection_logs (proxy.attached system.region.mapping) system.region (log other) flags
              simp only [beginCommandBuffer, supported] at closes ⊢
              split
              · rename_i success
                rw [if_pos success] at own
                exact logged.closed sound closes own
              · rename_i failed
                rw [if_neg failed] at own
                exact logged.kept sound closes own
  | enters other call =>
      refine logged.unwritten ?_ fun held after has => ?_
      · simp only [StreamSystem.step]
        split <;> rfl
      · simp only [StreamSystem.step] at has
        split at has
        · exact .inl has
        · exact .inl has
  | proceeds call diagnostics registry scratch =>
      simp only [StreamSystem.step, StreamSystem.logged, StreamSystem.found]
      cases waits : system.calls[call]? with
      | none => exact logged
      | some inside =>
          have member := List.mem_of_getElem? waits
          cases live : system.proxies inside.buffer with
          | none =>
              simp only [live, Option.map_none]
              exact logged
          | some proxy =>
              simp only [live, Option.map_some]
              obtain ⟨kept, resting, _⟩ := sound.found live
              have own := @runSection_logs _ _ _ diagnostics registry scratch _ (sound.carries inside member) kept
                resting (logged inside.buffer proxy live).attached
              have closes := sound.proceeds member live diagnostics registry scratch
              rcases outcome : (proxy.attached system.region.mapping).runSection diagnostics registry scratch
                inside.phase with ⟨after, next⟩
              rw [outcome] at own closes
              cases next with
              | some phase => exact logged.kept sound closes own
              | none =>
                  cases carried : inside.phase.command with
                  | none =>
                      rw [carried] at own
                      exact logged.kept sound closes own
                  | some command =>
                      rw [carried] at own
                      simp only at own ⊢
                      split
                      · rename_i recording
                        rw [if_pos recording] at own
                        exact logged.closed sound closes own
                      · rename_i idle
                        rw [if_neg idle] at own
                        exact logged.kept sound closes own
  | ends other =>
      rcases Option.eq_none_or_eq_some (system.proxies other) with none | ⟨proxy, live⟩
      · simp only [StreamSystem.step, StreamSystem.logged, StreamSystem.endResult, StreamSystem.found, none,
          Option.map_none, reduceCtorEq, ↓reduceIte]
        exact logged
      · obtain ⟨kept, resting, leases, earlier, _⟩ := sound.found live
        have closes := endCommandBuffer_closes kept resting leases earlier
        have own := endCommandBuffer_logs kept resting (logged other proxy live).attached
        simp only [StreamSystem.step, StreamSystem.logged, StreamSystem.endResult, StreamSystem.found, live,
          Option.map_some, Option.some.injEq]
        split
        · rename_i success
          rw [if_pos success] at own
          exact logged.closed sound closes own
        · rename_i failed
          rw [if_neg failed] at own
          exact logged.kept sound closes own
  | submits deviceId commands acknowledged => exact logged.submits sound deviceId commands acknowledged
  | resets other =>
      simp only [StreamSystem.step, StreamSystem.logged]
      cases live : system.proxies other with
      | none => exact logged
      | some proxy =>
          obtain ⟨slot, reset, outside⟩ := @resetCommandStreamState_eq proxy system.region
          refine logged.kept sound (resetCommandStreamState_closes ?_) ?_
          · rw [← slotOf_live live, Function.update_eq_self]
            exact sound.leases
          · rw [reset]
            exact .of_idle rfl outside
  | frees other =>
      refine logged.unwritten ?_ fun held after has => ?_
      · simp only [StreamSystem.step]
        split
        · rfl
        split
        · rfl
        · exact releaseCommandStreamSlot_region.1
      · simp only [StreamSystem.step] at has
        split at has
        · exact .inl has
        split at has
        · exact .inl has
        rcases updated_cases has with new | old
        · contradiction
        · exact .inl old

end StreamSystem

namespace LoggedStreams

open StreamSystem CommandBufferProxy

variable {state : LoggedStreams} {generation : UInt64}

/-- The slots of a state and its logs. -/
def Sound (state : LoggedStreams) (generation : UInt64) : Prop :=
  state.system.Sound generation ∧ state.system.Logged state.log

theorem run_sound (mapping : Buffer) (generation : UInt64) (moves : List StreamMove) :
    (Runs.final step (initial mapping generation) moves).Sound generation := by
  have start : (initial mapping generation).Sound generation :=
    ⟨initial_sound mapping generation, by rintro buffer proxy ⟨⟩⟩
  have states := @Runs.everyState_of_step _ _ step (fun state => state.Sound generation)
    (fun _ move sound => ⟨sound.1.step move, sound.2.step sound.1 move⟩) moves _ start
  exact states.final

/-- The bytes a record of a submit names. -/
def named (state : LoggedStreams) (record : SubmitCommandRecord) : Buffer :=
  fun index => state.system.region.mapping (record.streamOffset.toNat + index)

theorem Sound.submitRecord (sound : state.Sound generation) {deviceId : UInt64} {info : CommandSubmitInfo}
    {record : SubmitCommandRecord} (made : state.system.submitRecord deviceId info = .ok record)
    (shared : record.streamFlags = submitSharedStream) :
    ClosedLog (state.log info.buffer) ∧
      Accepted (state.named record) record.streamLength.toNat record.commandBufferId record.streamSequence
        ((state.log info.buffer).map Command.record) := by
  simp only [StreamSystem.submitRecord] at made
  split at made
  · contradiction
  rename_i proxy live
  simp only [refused_eq_ok, CommandBufferProxy.submitRecord] at made
  obtain ⟨_, made⟩ := made
  split at made
  · cases made
    have wrong : (0 : UInt32) = submitSharedStream := shared
    exact absurd wrong (by decide)
  · simp only [refused_eq_ok, Bool.or_eq_true, Bool.not_eq_true', decide_eq_true_eq, not_or] at made
    obtain ⟨⟨⟨⟨_, sealed⟩, _⟩, inside⟩, made⟩ := made
    cases made
    have small : proxy.streamSlot.toNat < commandStreamSlotCount := Nat.not_le.mp inside
    obtain ⟨closed, accepted⟩ :=
      (sound.2 info.buffer proxy live).sealed (Bool.eq_true_of_not_eq_false sealed) small
    have offset := streamOffset_toNat small
    have same : state.named
        ⟨proxy.wireId, state.system.region.generation, proxy.streamSequence,
          proxy.streamSlot * UInt32.ofNat commandStreamSlotBytes, proxy.streamLength, info.deviceMask,
          submitSharedStream⟩ = slotView state.system.region.mapping proxy.streamSlot := by
      funext index
      simp only [named, offset, slotView]
    exact ⟨closed, same ▸ accepted⟩

/-- Whatever the threads do, the stream a submit names is the log of its command
buffer: its records decode to the begin, the commands of the calls that returned while
the recording was open, in their order, and the end. -/
theorem submitted_streams_hold_logs (mapping : Buffer) (generation : UInt64) (moves : List StreamMove)
    (deviceId : UInt64) (commands : List CommandSubmitInfo) (records : List SubmitCommandRecord)
    (made : (Runs.final step (initial mapping generation) moves).system.submitRecords deviceId commands =
      .ok records) :
    List.Forall₂ (fun info record => record.streamFlags = submitSharedStream →
      ClosedLog ((Runs.final step (initial mapping generation) moves).log info.buffer) ∧
        StreamHolds ((Runs.final step (initial mapping generation) moves).named record)
          record.streamLength.toNat record.commandBufferId record.streamSequence
          ((Runs.final step (initial mapping generation) moves).log info.buffer)) commands records := by
  have sound := run_sound mapping generation moves
  generalize Runs.final step (initial mapping generation) moves = state at *
  refine (mapM_forall₂.mp made).imp fun info record one shared => ?_
  obtain ⟨closed, accepted⟩ := sound.submitRecord one shared
  have validates := accepted.validatesAs
  rw [List.length_map] at validates
  exact ⟨closed, validates, accepted.records_eq, decode_recordable closed.appendable closed.canonical⟩

/-- A command buffer in which one thread records a scissor. -/
def scissorRun : List StreamMove :=
  [.allocates 0 0x0b00000000000001 0x0a00000000000001 0x0300000000000001,
    .begins 0 (some ⟨.commandBufferBeginInfo, false, ⟨0, false⟩⟩),
    .enters 0 (.vkCmdSetScissorWithCount 1 (some fun _ => ⟨0, 0, 1, 1⟩)),
    .proceeds 0 false ⟨[], []⟩ zeroed, .proceeds 0 false ⟨[], []⟩ zeroed, .ends 0]

def scissorRecord : SubmitCommandRecord := ⟨0x0b00000000000001, 1, 1, 0, 80, 0, submitSharedStream⟩

theorem scissorRun_submits : (Runs.final step (initial zeroed 1) scissorRun).system.submitRecords
    0x0300000000000001 [⟨0, 0, true⟩] = .ok [scissorRecord] := rfl

theorem submitted_streams_hold_logs_setScissor :
    StreamHolds ((Runs.final step (initial zeroed 1) scissorRun).named scissorRecord) 80 0x0b00000000000001 1
      [.vulkanBegin ⟨0⟩, .setScissor ⟨0, 0, 1, 1⟩, .vulkanEnd] := by
  have all := submitted_streams_hold_logs zeroed 1 scissorRun 0x0300000000000001 _ _ scissorRun_submits
  exact ((List.forall₂_cons.mp all).1 rfl).2

end LoggedStreams

end VulkanBridge
