import VulkanBridge.RequestFormats
import VulkanBridge.SealedStreams
import VulkanBridge.StreamLogs

/-!
From the calls of any number of client threads to the native calls of the service:
a submitted stream is replayed as the log of its command buffer.
-/

namespace VulkanBridge

open ByteBuffer CheckedLoops ServiceContext StreamSystem

namespace LoggedStreams

variable {state : LoggedStreams} {generation : UInt64} {context : ServiceContext} {owner : ResolvedCommandBuffer}

def logCalls (context : ServiceContext) (driver : NativeDriver) (commandBufferId : UInt64) (log : List Command) :
    List NativeCall :=
  match context.resolveCommandBuffer commandBufferId with
  | .ok owner => log.flatMap (·.nativeCalls (context.target driver owner))
  | .error _ => []

theorem replay_log {bytes : Buffer} {length : Nat} {commandBufferId sequence deviceId : UInt64}
    {log : List Command} {driver : NativeDriver} {earlier native : List NativeCall} (closed : ClosedLog log)
    (accepted : Accepted bytes length commandBufferId sequence (log.map Command.record))
    (replayed : context.replayCommandStream driver earlier bytes length deviceId = (native, .ok ())) :
    native = earlier ++ logCalls context driver commandBufferId log := by
  obtain ⟨info, owner, records, commands, valid, resolved, listed, decoded, made⟩ := replayed_stream_calls replayed
  obtain ⟨other, same, rfl, _⟩ := accepted.validatesAs
  cases Except.ok.inj (valid.symm.trans same)
  have records := Except.ok.inj (listed.symm.trans accepted.records_eq)
  rw [records, decode_recordable closed.appendable closed.canonical] at decoded
  cases decoded
  simp only [logCalls, resolved]
  exact made

/-- The bytes the service copies are those the client names. -/
def Shares (state : LoggedStreams) (environment : SubmitEnvironment) (records : List SubmitCommandRecord) : Prop :=
  ∀ record ∈ records, ∀ index offset, offset < record.streamLength.toNat →
    environment.sharedBytes index (record.streamOffset.toNat + offset) = state.named record offset

/-- What the replay of a command of a submit makes of its log. -/
def commandCalls (state : LoggedStreams) (context : ServiceContext) (driver : NativeDriver)
    (command : CommandSubmitInfo × SubmitCommandRecord) : List NativeCall :=
  if command.2.streamFlags = submitSharedStream then
    logCalls context driver command.2.commandBufferId (state.log command.1.buffer)
  else []

theorem submitRecord_flags {system : StreamSystem} {deviceId : UInt64} {info : CommandSubmitInfo}
    {record : SubmitCommandRecord} (made : system.submitRecord deviceId info = .ok record) :
    record.streamFlags = submitSharedStream ∨ record.streamFlags = 0 := by
  simp only [StreamSystem.submitRecord] at made
  split at made
  · contradiction
  simp only [refused_eq_ok, CommandBufferProxy.submitRecord] at made
  obtain ⟨_, made⟩ := made
  split at made
  · cases made
    exact .inr rfl
  · obtain ⟨_, made⟩ := refused_eq_ok.mp made
    cases made
    exact .inl rfl

theorem validateSubmitStream_eq_ok {environment : SubmitEnvironment} {region : SharedBatchRegion}
    {request : QueueSubmit2Request} {deviceId : UInt64} {command : SubmitCommandRecord} {index : Nat}
    {snapshot : Buffer}
    (done : context.validateSubmitStream environment region request deviceId command index = .ok snapshot) :
    snapshot = window (environment.sharedBytes index) command.streamOffset.toNat command.streamLength.toNat := by
  simp only [validateSubmitStream, guarded_eq_ok, bind_eq_ok, pure_eq_ok] at done
  obtain ⟨_, _, _, copied, taken, _, _, _, _, _, rfl⟩ := done
  simp only [commandBatchSnapshot, refused_eq_ok, Except.ok.injEq] at taken
  obtain ⟨_, _, rfl⟩ := taken
  rfl

theorem replaySubmitStreams_logs {environment : SubmitEnvironment} {region : SharedBatchRegion}
    {request : QueueSubmit2Request} {deviceId queueDevice : UInt64} {commands : List CommandSubmitInfo}
    {records : List SubmitCommandRecord} (sound : state.Sound generation)
    (made : List.Forall₂ (fun info record => state.system.submitRecord queueDevice info = .ok record)
      commands records) (shares : state.Shares environment records) :
    ∀ (first : Nat) (snapshots : List (SubmitCommandRecord × Buffer)) (trace native : List NativeCall),
      (((records.zipIdx first).filter fun command => command.1.streamFlags != 0).mapM fun (command, index) => do
        let snapshot ← context.validateSubmitStream environment region request deviceId command index
        return (command, snapshot)) = .ok snapshots →
      context.replaySubmitStreams environment.driver deviceId trace snapshots = (native, .ok ()) →
      native = trace ++ (commands.zip records).flatMap (state.commandCalls context environment.driver) := by
  induction made with
  | nil =>
      intro first snapshots trace native taken replayed
      cases taken
      cases replayed
      rw [List.zip_nil_left, List.flatMap_nil, List.append_nil]
  | @cons info record restCommands restRecords one _ ih =>
      intro first snapshots trace native taken replayed
      obtain ⟨here, later⟩ := List.forall_mem_cons.mp shares
      rw [List.zipIdx_cons] at taken
      rw [List.zip_cons_cons, List.flatMap_cons]
      rcases submitRecord_flags one with shared | plain
      · have kept : (record.streamFlags != 0) = true := by
          rw [shared]
          decide
        simp only [List.filter_cons, kept, ↓reduceIte, List.mapM_cons, bind_eq_ok, pure_eq_ok] at taken
        obtain ⟨_, ⟨snapshot, validated, rfl⟩, rest, others, rfl⟩ := taken
        obtain rfl := validateSubmitStream_eq_ok validated
        obtain ⟨closed, accepted⟩ := sound.submitRecord one shared
        have copied := accepted.congr fun index before => (show state.named record index =
          window (environment.sharedBytes first) record.streamOffset.toNat record.streamLength.toNat index by
            rw [window, if_pos before, here first index before])
        have calls : state.commandCalls context environment.driver (info, record) =
            logCalls context environment.driver record.commandBufferId (state.log info.buffer) := if_pos shared
        rw [replaySubmitStreams] at replayed
        split at replayed
        · cases replayed
        · rename_i made replayedHere
          rw [ih later (first + 1) rest _ native others replayed, replay_log closed copied replayedHere, calls,
            List.append_assoc]
      · have dropped : (record.streamFlags != 0) = false := by
          rw [plain]
          decide
        have calls : state.commandCalls context environment.driver (info, record) = [] := by
          refine if_neg ?_
          rw [plain]
          decide
        simp only [List.filter_cons, dropped, Bool.false_eq_true, ↓reduceIte] at taken
        rw [ih later (first + 1) snapshots trace native taken replayed, calls, List.nil_append]

theorem replaySubmitCommandStreams_logs {environment : SubmitEnvironment} {region : Option SharedBatchRegion}
    {request : QueueSubmit2Request} {deviceId : UInt64} {commands : List CommandSubmitInfo}
    (sound : state.Sound generation)
    (made : state.system.submitRecords deviceId commands = .ok request.commands)
    (shares : state.Shares environment request.commands)
    (streams : request.commands.any (·.streamFlags == submitSharedStream) = true)
    (accepted : (context.replaySubmitCommandStreams environment region request).status = none) :
    (context.replaySubmitCommandStreams environment region request).recorded =
      (commands.zip request.commands).flatMap (state.commandCalls context environment.driver) := by
  simp only [replaySubmitCommandStreams, streams, Bool.true_eq_false, ↓reduceIte] at accepted ⊢
  rcases checked : context.validateSubmitStreams environment region request with code | ⟨shared, owner, snapshots⟩
  · simp only [checked, reduceCtorEq] at accepted
  simp only [checked] at accepted ⊢
  split at accepted
  · simp only [reduceCtorEq] at accepted
  simp only [validateSubmitStreams, bind_eq_ok, pure_eq_ok, Prod.mk.injEq] at checked
  obtain ⟨_, _, _, _, _, validated, rfl, rfl, rfl⟩ := checked
  split at accepted
  · simp only [reduceCtorEq] at accepted
  · rename_i native ends
    exact replaySubmitStreams_logs sound (mapM_forall₂.mp made) shares 0 _ [] native validated ends

/-- Whatever the threads of the client did before, a submit the service acknowledges has
recorded the logs of its command buffers, each from its begin to its end, in the order of
the submit. -/
theorem acknowledged_submit_replays_logs (mapping : Buffer) (generation : UInt64) (moves : List StreamMove)
    {deviceId : UInt64} {commands : List CommandSubmitInfo} {request : QueueSubmit2Request}
    (made : (Runs.final step (initial mapping generation) moves).system.submitRecords deviceId commands =
      .ok request.commands)
    {payload : Buffer} {length : Nat} (encoded : encodeQueueSubmit2Request request true = .ok (payload, length))
    (context : ServiceContext) (environment : SubmitEnvironment) (region : Option SharedBatchRegion)
    (shares : (Runs.final step (initial mapping generation) moves).Shares environment request.commands)
    (acknowledged : (context.answerVulkanQueueSubmit2 environment region true true payload length).status = none) :
    (context.answerVulkanQueueSubmit2 environment region true true payload length).recorded =
        (commands.zip request.commands).flatMap
          ((Runs.final step (initial mapping generation) moves).commandCalls context environment.driver) ∧
      (context.answerVulkanQueueSubmit2 environment region true true payload length).submitted.isSome = true := by
  have sound := run_sound mapping generation moves
  generalize Runs.final step (initial mapping generation) moves = state at *
  have streams : request.commands.any (·.streamFlags == submitSharedStream) = true := by
    simp only [encodeQueueSubmit2Request, refused_eq_ok, Bool.true_and, Bool.not_eq_true', Bool.not_eq_false] at encoded
    exact encoded.2.2.2.1
  have decoded := (QueueSubmit2Request.decodes encoded).2
  simp only [answerVulkanQueueSubmit2, Bool.true_eq_false, decoded, ↓reduceIte] at acknowledged ⊢
  cases replayed : (context.replaySubmitCommandStreams environment region request).status with
  | some code =>
      simp only [replayed] at acknowledged
      contradiction
  | none =>
      have recorded := replaySubmitCommandStreams_logs sound made shares streams replayed
      simp only [replayed] at acknowledged ⊢
      split at acknowledged
      · contradiction
      · exact ⟨recorded, rfl⟩

/-- A service with a device, a queue, a command pool and a command buffer. -/
def queueContext : ServiceContext :=
  { objects :=
      [((0x0300000000000001 : UInt64), (0 : UInt64), (0xd0 : UInt64)),
        (0x0400000000000001, 0x0300000000000001, 0xe0), (0x0a00000000000001, 0x0300000000000001, 0xa0),
        (0x0b00000000000001, 0x0a00000000000001, 0xb0)].foldl
        (fun table (wireId, parentId, nativeBits) => (table.call (.insert wireId parentId nativeBits)).2)
        ⟨fun _ => .zero, 8, 0⟩
    queryPoolMetadata := [] }

def scissorSubmit : QueueSubmit2Request := ⟨0x0400000000000001, 0, 0, [], [scissorRecord], []⟩

/-- The driver has the scissor under its extension's name only. -/
def scissorEnvironment : SubmitEnvironment :=
  { driver := ⟨fun _ name => name != ⟨.vkCmdSetScissorWithCount, .core⟩, fun _ => 0⟩
    sharedBytes := fun _ => (Runs.final step (initial zeroed 1) scissorRun).system.region.mapping
    snapshotMemory := fun _ => true
    generationMemory := true
    mirrorStatus := none
    submitPresent := fun _ _ => true
    submitResult := vkSuccess }

def scissorRegion : SharedBatchRegion := ⟨true, commandStreamRegionBytes, 1, List.replicate 16 .zero⟩

theorem acknowledged_submit_replays_logs_setScissor :
    (queueContext.answerVulkanQueueSubmit2 scissorEnvironment (some scissorRegion) true true
      (scissorSubmit.payload true) (scissorSubmit.size true)).recorded =
      [⟨⟨.vkBeginCommandBuffer, .core⟩, 0xb0, .beginCommandBuffer 0⟩,
        ⟨⟨.vkCmdSetScissorWithCount, .ext⟩, 0xb0, .setScissors [⟨0, 0, 1, 1⟩]⟩,
        ⟨⟨.vkEndCommandBuffer, .core⟩, 0xb0, .endCommandBuffer⟩] := by
  have answered : (queueContext.answerVulkanQueueSubmit2 scissorEnvironment (some scissorRegion) true true
      (scissorSubmit.payload true) (scissorSubmit.size true)).status = none := by decide +kernel
  have encoded : encodeQueueSubmit2Request scissorSubmit true =
      .ok (scissorSubmit.payload true, scissorSubmit.size true) := by
    rw [encodeQueueSubmit2Request, if_neg (by decide), if_neg (by decide), if_neg (by decide),
      if_neg (by decide), if_neg (by decide)]
  have shares : (Runs.final step (initial zeroed 1) scissorRun).Shares scissorEnvironment
      scissorSubmit.commands := by
    intro record _ index offset _
    simp only [named, scissorEnvironment]
  have replayed := @acknowledged_submit_replays_logs zeroed 1 scissorRun _ _ scissorSubmit
    scissorRun_submits _ _ encoded queueContext scissorEnvironment (some scissorRegion) shares answered
  exact replayed.1

end LoggedStreams

end VulkanBridge
