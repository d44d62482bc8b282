import VulkanBridge.CommandRecording

/-!
Whole recordings in both transports, from begin to end, and what a successful
end says about the calls between them.
-/

namespace VulkanBridge

open ByteBuffer CheckedLoops CommandBatchBuilder

/-- The info of the begin, the calls, and the service at begin and at end. -/
structure Recording where
  info : Option (Chained BeginInfo)
  calls : List RecordedCall
  beginExchange : ProtocolRequest → Except Errno ProtocolResponse
  endExchange : ProtocolRequest → Except Errno ProtocolResponse

namespace Recording

variable (recording : Recording) (diagnostics : Bool) (proxy : CommandBufferProxy)

/-- The recording in the shared transport: the result of the end and the command
buffer after it. The region may have changed between begin and end. -/
def shared (region ending : StreamRegion) : VulkanResult × CommandBufferProxy :=
  let (_, _, proxy) := proxy.beginCommandBuffer region recording.info
  let (result, _, proxy) := (proxy.recordAllShared diagnostics recording.calls).endCommandBuffer ending
  (result, proxy)

/-- The recording in the strict transport: the result of the end and the requests
the service answered. -/
def strict : VulkanResult × List Exchange :=
  let (_, proxy, begun) := proxy.beginStrict recording.beginExchange recording.info
  let (proxy, recorded) := proxy.recordAllStrict diagnostics recording.calls
  let (result, ended) := proxy.endStrict recording.endExchange
  (result, begun ++ recorded ++ ended)

/-- The commands of the calls, where every call makes one. -/
def Makes (commands : List Command) : Prop :=
  recording.calls.map (fun recorded => recorded.call.command) = commands.map some

end Recording

/-! ## The shared transport -/

/-- The bytes are a batch for the command buffer that holds these commands and
nothing else. -/
structure StreamHolds (bytes : Buffer) (length : Nat) (commandBufferId sequence : UInt64)
    (commands : List Command) : Prop where
  validates : ValidatesAs bytes length commandBufferId sequence commands.length
  records : commandBatchRecords bytes length = .ok (commands.map Command.record)
  decodes : (commands.map Command.record).mapM commandDecode = .ok commands

theorem decode_recordable {commands : List Command}
    (appendable : ∀ command ∈ commands, command.encoding.appendable = true)
    (canonical : ∀ command ∈ commands, command.cleared = command) :
    (commands.map Command.record).mapM commandDecode = .ok commands := by
  induction commands with
  | nil => rfl
  | cons command rest ih =>
      obtain ⟨first, others⟩ := List.forall_mem_cons.mp appendable
      obtain ⟨same, alike⟩ := List.forall_mem_cons.mp canonical
      rw [List.map_cons, List.mapM_cons, commandDecode_record first, same, ih others alike]
      rfl

theorem CommandBatchBuilder.Built.streamHolds {builder finished : CommandBatchBuilder}
    {commandBufferId sequence : UInt64} {capacity length : Nat} {commands : List Command}
    (built : builder.Built commandBufferId sequence capacity commands)
    (done : builder.finish = .ok (finished, length)) (nonzero : sequence ≠ 0)
    (handle : handleExpect commandBufferId .commandBuffer = true)
    (clean : ∀ command ∈ commands, command.misfiltered = false)
    (canonical : ∀ command ∈ commands, command.cleared = command) :
    StreamHolds finished.bytes length commandBufferId sequence commands := by
  have validates := (built.validatesAs_iff nonzero handle done).mpr clean
  obtain ⟨info, validated, _⟩ := id validates
  exact ⟨validates, built.records_eq done validated, decode_recordable built.checked canonical⟩

namespace CommandBufferProxy

variable {diagnostics : Bool} {proxy : CommandBufferProxy} {region : StreamRegion}

structure Opened (before : CommandBufferProxy) (flags : UInt32) (proxy : CommandBufferProxy) : Prop where
  wireId : proxy.wireId = before.wireId
  deviceId : proxy.deviceId = before.deviceId
  handle : handleExpect proxy.wireId .commandBuffer = true
  nonzero : proxy.streamSequence ≠ 0
  built : proxy.streamBuilder.Built proxy.wireId proxy.streamSequence commandStreamSlotBytes
    [.vulkanBegin ⟨flags⟩]

theorem releaseCommandStreamSlot_identity :
    (proxy.releaseCommandStreamSlot region).2.wireId = proxy.wireId ∧
      (proxy.releaseCommandStreamSlot region).2.deviceId = proxy.deviceId := by
  simp only [releaseCommandStreamSlot]
  split <;> exact ⟨rfl, rfl⟩

theorem leaseCommandStreamSlot_eq_ok {leased : StreamRegion} {after : CommandBufferProxy}
    (done : proxy.leaseCommandStreamSlot region = .ok (leased, after)) :
    ∃ slot, region.freeSlot = some slot ∧ region.nextSequence ≠ 0 ∧
      leased = { region with slots := region.slots ||| slotBit slot, nextSequence := region.nextSequence + 1 } ∧
      after = { proxy with streamSlot := slot, streamSequence := region.nextSequence } := by
  simp only [leaseCommandStreamSlot] at done
  split at done
  · contradiction
  · rename_i slot free
    simp only [refused_eq_ok, beq_iff_eq, Except.ok.injEq, Prod.mk.injEq] at done
    obtain ⟨nonzero, rfl, rfl⟩ := done
    exact ⟨slot, free, nonzero, rfl, rfl⟩

theorem failBegin_closed : (proxy.failBegin region).2.2.streamRecording = false := by
  simp only [failBegin, releaseCommandStreamSlot]
  split <;> rfl

theorem beginSection_opened {flags : UInt32} {result : VulkanResult} {ending : StreamRegion}
    {after : CommandBufferProxy} (begun : proxy.beginSection region flags = (result, ending, after))
    (recording : after.streamRecording = true) : Opened proxy flags after := by
  have failed {between : CommandBufferProxy} {middle : StreamRegion}
      (failure : between.failBegin middle = (result, ending, after)) : False := by
    have closed : (between.failBegin middle).2.2.streamRecording = false := failBegin_closed
    rw [failure, recording] at closed
    contradiction
  simp only [beginSection] at begun
  split at begun
  · exact (failed begun).elim
  split at begun
  · exact (failed begun).elim
  rename_i leased
  obtain ⟨slot, _, _, rfl, rfl⟩ := leaseCommandStreamSlot_eq_ok leased
  split at begun
  · exact (failed begun).elim
  rename_i started
  obtain ⟨built, nonzero, handle⟩ := start_built started
  split at begun
  · exact (failed begun).elim
  rename_i appended
  cases begun
  exact ⟨releaseCommandStreamSlot_identity.1, releaseCommandStreamSlot_identity.2, handle, nonzero,
    built.append appended⟩

theorem beginCommandBuffer_opened {info : Option (Chained BeginInfo)} {result : VulkanResult}
    {ending : StreamRegion} {after : CommandBufferProxy} (closed : proxy.streamRecording = false)
    (begun : proxy.beginCommandBuffer region info = (result, ending, after))
    (recording : after.streamRecording = true) :
    ∃ flags, supportedBegin info = some flags ∧ Opened proxy flags after := by
  simp only [beginCommandBuffer] at begun
  split at begun
  · cases begun
    rw [closed] at recording
    contradiction
  · rename_i flags supported
    exact ⟨flags, supported, beginSection_opened begun recording⟩

theorem recordShared_frame (surroundings : Surroundings) (call : ClientCall) :
    (proxy.recordShared diagnostics surroundings call).frame = proxy.frame :=
  runPhases_frame surroundings _ _

theorem recordShared_appended {surroundings : Surroundings} {call : ClientCall}
    (clean : (proxy.recordShared diagnostics surroundings call).streamError = false) :
    ∃ command, call.command = some command ∧ proxy.streamError = false ∧
      proxy.streamBuilder.append command = .ok (proxy.recordShared diagnostics surroundings call).streamBuilder := by
  cases made : call.command with
  | none =>
      simp only [recordShared, ClientCall.phase, made] at clean
      have poisoned : (proxy.runPhases diagnostics surroundings RecordPhase.poison.sections .poison).streamError =
          true := runPhases_poison surroundings (Nat.le_refl 1)
      rw [poisoned] at clean
      contradiction
  | some command =>
      have phase : call.phase = .enter command := by simp only [ClientCall.phase, made]
      rw [recordShared, phase] at clean ⊢
      exact ⟨command, rfl, runPhases_appended surroundings (Nat.le_refl _) rfl clean⟩

theorem recordAllShared_cons (recorded : RecordedCall) (rest : List RecordedCall) :
    proxy.recordAllShared diagnostics (recorded :: rest) =
      (proxy.recordShared diagnostics recorded.surroundings recorded.call).recordAllShared diagnostics rest := rfl

theorem recordAllShared_frame (calls : List RecordedCall) :
    (proxy.recordAllShared diagnostics calls).frame = proxy.frame := by
  induction calls generalizing proxy with
  | nil => rfl
  | cons recorded rest ih =>
      rw [recordAllShared_cons]
      exact ih.trans (recordShared_frame _ _)

theorem recordAllShared_clean {calls : List RecordedCall}
    (clean : (proxy.recordAllShared diagnostics calls).streamError = false) : proxy.streamError = false := by
  induction calls generalizing proxy with
  | nil => exact clean
  | cons recorded rest ih =>
      rw [recordAllShared_cons] at clean
      obtain ⟨_, _, before, _⟩ := recordShared_appended (ih clean)
      exact before

theorem recordAllShared_built {calls : List RecordedCall} {commandBufferId sequence : UInt64} {capacity : Nat}
    {earlier : List Command} (built : proxy.streamBuilder.Built commandBufferId sequence capacity earlier)
    (clean : (proxy.recordAllShared diagnostics calls).streamError = false) :
    ∃ commands, calls.map (fun recorded => recorded.call.command) = commands.map some ∧
      (proxy.recordAllShared diagnostics calls).streamBuilder.Built commandBufferId sequence capacity
        (earlier ++ commands) := by
  induction calls generalizing proxy earlier with
  | nil =>
      refine ⟨[], rfl, ?_⟩
      rw [List.append_nil]
      exact built
  | cons recorded rest ih =>
      rw [recordAllShared_cons] at clean ⊢
      obtain ⟨command, made, _, appended⟩ := recordShared_appended (recordAllShared_clean clean)
      obtain ⟨commands, others, all⟩ := ih (built.append appended) clean
      refine ⟨command :: commands, ?_, ?_⟩
      · rw [List.map_cons, List.map_cons, made, others]
      · rw [List.append_cons]
        exact all

theorem finishStream_eq_ok {builder : CommandBatchBuilder} {length : Nat} :
    proxy.finishStream = .ok (builder, length) ↔ proxy.streamRecording = true ∧ proxy.streamError = false ∧
      ∃ ended, proxy.streamBuilder.append .vulkanEnd = .ok ended ∧ ended.finish = .ok (builder, length) := by
  simp only [finishStream, accepted_eq_ok, Bool.and_eq_true, Bool.not_eq_true', bind_eq_ok, and_assoc]

theorem endCommandBuffer_success {ending after : StreamRegion} {closed : CommandBufferProxy}
    (ended : proxy.endCommandBuffer ending = (vkSuccess, after, closed)) :
    ∃ builder length, proxy.finishStream = .ok (builder, length) ∧ after = ending ∧
      closed = { proxy with
        streamBuilder := builder
        streamLength := UInt32.ofNat length
        streamSealed := true
        streamRecording := false } := by
  simp only [endCommandBuffer] at ended
  split at ended
  · rename_i builder length finished
    cases ended
    exact ⟨builder, length, finished, rfl, rfl⟩
  · have wrong := (Prod.mk.inj ended).1
    contradiction

end CommandBufferProxy

namespace Recording

variable {recording : Recording} {diagnostics : Bool} {proxy sealed : CommandBufferProxy}
  {region ending : StreamRegion}

theorem Makes.recordable {commands : List Command} (made : recording.Makes commands) :
    ∀ command ∈ commands, command.Recordable := by
  intro command member
  have named : some command ∈ recording.calls.map fun recorded => recorded.call.command := by
    rw [made]
    exact List.mem_map_of_mem member
  obtain ⟨recorded, _, same⟩ := List.mem_map.mp named
  exact ClientCall.command_recordable same

structure Sealed (recording : Recording) (before sealed : CommandBufferProxy) (flags : UInt32)
    (commands : List Command) : Prop where
  begins : CommandBufferProxy.supportedBegin recording.info = some flags
  makes : recording.Makes commands
  wireId : sealed.wireId = before.wireId
  deviceId : sealed.deviceId = before.deviceId
  handle : handleExpect sealed.wireId .commandBuffer = true
  nonzero : sealed.streamSequence ≠ 0
  finished : ∃ (builder : CommandBatchBuilder) (length : Nat),
    builder.Built sealed.wireId sealed.streamSequence commandStreamSlotBytes
      (.vulkanBegin ⟨flags⟩ :: commands ++ [.vulkanEnd]) ∧
    builder.finish = .ok (sealed.streamBuilder, length) ∧ sealed.streamLength.toNat = length

theorem shared_sealed (closed : proxy.streamRecording = false)
    (ended : recording.shared diagnostics proxy region ending = (vkSuccess, sealed)) :
    ∃ flags commands, recording.Sealed proxy sealed flags commands := by
  simp only [shared] at ended
  rcases begun : proxy.beginCommandBuffer region recording.info with ⟨result, middle, opened⟩
  rw [begun] at ended
  rcases done : (opened.recordAllShared diagnostics recording.calls).endCommandBuffer ending with
    ⟨final, after, last⟩
  simp only [done, Prod.mk.injEq] at ended
  obtain ⟨rfl, rfl⟩ := ended
  obtain ⟨builder, length, finished, _, rfl⟩ := CommandBufferProxy.endCommandBuffer_success done
  obtain ⟨stillRecording, clean, built, appended, finish⟩ :=
    CommandBufferProxy.finishStream_eq_ok.mp finished
  have frame : (opened.recordAllShared diagnostics recording.calls).frame = opened.frame :=
    CommandBufferProxy.recordAllShared_frame recording.calls
  have wireId := congrArg StreamFrame.wireId frame
  have deviceId := congrArg StreamFrame.deviceId frame
  have sequence := congrArg StreamFrame.streamSequence frame
  have kept := congrArg StreamFrame.streamRecording frame
  simp only [CommandBufferProxy.frame] at wireId deviceId sequence kept
  rw [stillRecording] at kept
  obtain ⟨flags, supported, fresh⟩ :=
    CommandBufferProxy.beginCommandBuffer_opened closed begun kept.symm
  obtain ⟨commands, makes, all⟩ := CommandBufferProxy.recordAllShared_built fresh.built clean
  have whole := all.append appended
  refine ⟨flags, commands, supported, makes, wireId.trans fresh.wireId, deviceId.trans fresh.deviceId,
    wireId ▸ fresh.handle, sequence ▸ fresh.nonzero, built, length, ?_, finish, ?_⟩
  · rw [wireId, sequence]
    exact whole
  · have same := (finish_sound finish).2.1
    have small := (finish_sound finish).2.2.1
    simp only
    rw [UInt32.toNat_ofNat_of_lt' (by simp only [UInt32.size]; omega)]

theorem Sealed.streamHolds {flags : UInt32} {commands : List Command}
    (done : recording.Sealed proxy sealed flags commands) :
    StreamHolds sealed.streamBuilder.bytes sealed.streamLength.toNat sealed.wireId sealed.streamSequence
      (.vulkanBegin ⟨flags⟩ :: commands ++ [.vulkanEnd]) := by
  obtain ⟨builder, length, built, finish, same⟩ := done.finished
  rw [same]
  have recordable := done.makes.recordable
  refine built.streamHolds finish done.nonzero done.handle ?_ ?_
  · intro command member
    rcases List.mem_append.mp member with first | last
    · rcases List.mem_cons.mp first with rfl | inside
      · rfl
      · exact (recordable command inside).filtered
    · rw [List.mem_singleton.mp last]
      rfl
  · intro command member
    rcases List.mem_append.mp member with first | last
    · rcases List.mem_cons.mp first with rfl | inside
      · rfl
      · exact (recordable command inside).canonical
    · rw [List.mem_singleton.mp last]
      rfl

end Recording

/-! ## The strict transport -/

def ServiceOpcode.isCommand : ServiceOpcode → Bool
  | .commandBufferBegin | .commandBufferEnd => false
  | _ => true

/-- The requests of `vkCmd*` calls the service answered with success. -/
def commandRequests (exchanges : List Exchange) : List ProtocolRequest :=
  (exchanges.filter fun exchange => exchange.request.opcode.isCommand && exchange.succeeded).map Exchange.request

/-- The service reads the command back from the request. -/
def ProtocolRequest.Encodes (request : ProtocolRequest) (commandBufferId : UInt64) : Command → Prop
  | .bindDescriptorSets command =>
      request.opcode = .commandBufferBindDescriptorSets ∧
        decodeBindDescriptorSetsRequest request.payload request.payloadLength =
          .ok (command.strictRequest commandBufferId)
  | .fillBuffer command =>
      request.opcode = .commandBufferFill ∧ request.payloadLength = 40 ∧
        decodeCommandBufferFillRequest request.payload = .ok (command.request commandBufferId)
  | .clearColorImage command =>
      request.opcode = .commandBufferClearColorImage ∧ request.payloadLength = 16 ∧
        decodeCommandBufferClearColorImageRequest request.payload = .ok ⟨commandBufferId, command.imageId⟩
  | command =>
      request.opcode = .commandBufferImmediateRecord ∧
        StreamHolds request.payload request.payloadLength commandBufferId 1 [command]

theorem SingleRecord.streamHolds {batch : Buffer} {length : Nat} {wireId : UInt64} {command : Command}
    (single : SingleRecord batch length wireId command) (recordable : command.Recordable) :
    StreamHolds batch length wireId 1 [command] := by
  obtain ⟨_, handle, ⟨builder, finished, built, done, rfl⟩⟩ := single
  exact built.streamHolds done (by decide) handle (List.forall_mem_singleton.mpr recordable.filtered)
    (List.forall_mem_singleton.mpr recordable.canonical)

theorem BindDescriptorSetsCommand.strictRequest_cleared {command : BindDescriptorSetsCommand}
    (canonical : command.cleared = command) (commandBufferId : UInt64) :
    (command.strictRequest commandBufferId).cleared = command.strictRequest commandBufferId := by
  have sets := congrArg BindDescriptorSetsCommand.descriptorSetIds canonical
  have offsets := congrArg BindDescriptorSetsCommand.dynamicOffsets canonical
  simp only [cleared] at sets offsets
  simp only [strictRequest, BindDescriptorSetsRequest.cleared, sets, offsets]

theorem fixedRequest_eq_ok {opcode : ServiceOpcode} {size : Nat} {encoded : Except Errno Buffer}
    {request : ProtocolRequest} (made : fixedRequest opcode size encoded = .ok request) :
    ∃ payload, encoded = .ok payload ∧ request = ⟨opcode, payload, size⟩ := by
  cases encoded with
  | error code => contradiction
  | ok payload => exact ⟨payload, rfl, (Except.ok.inj made).symm⟩

namespace CommandBufferProxy

variable {proxy : CommandBufferProxy}

theorem bindDescriptorSetsRequest_encodes {registry : ClientRegistry} {command : BindDescriptorSetsCommand}
    {request : ProtocolRequest} (canonical : command.cleared = command)
    (made : proxy.bindDescriptorSetsRequest registry command = .ok request) :
    request.Encodes proxy.wireId (.bindDescriptorSets command) := by
  unfold bindDescriptorSetsRequest at made
  split at made
  · contradiction
  · rename_i encoded
    simp only [refused_eq_ok, Except.ok.injEq] at made
    obtain ⟨_, rfl⟩ := made
    refine ⟨rfl, ?_⟩
    rw [decode_encode_bindDescriptorSets encoded, BindDescriptorSetsCommand.strictRequest_cleared canonical]

theorem fillBufferRequest_encodes {registry : ClientRegistry} {command : FillBufferCommand}
    {request : ProtocolRequest} (made : proxy.fillBufferRequest registry command = .ok request) :
    request.Encodes proxy.wireId (.fillBuffer command) := by
  simp only [fillBufferRequest, refused_eq_ok] at made
  obtain ⟨payload, encoded, rfl⟩ := fixedRequest_eq_ok made.2
  exact ⟨rfl, rfl, decode_encode_fill encoded⟩

theorem clearColorImageRequest_encodes {registry : ClientRegistry} {command : ClearColorImageCommand}
    {request : ProtocolRequest} (made : proxy.clearColorImageRequest registry command = .ok request) :
    request.Encodes proxy.wireId (.clearColorImage command) := by
  simp only [clearColorImageRequest, refused_eq_ok] at made
  obtain ⟨payload, encoded, rfl⟩ := fixedRequest_eq_ok made.2
  exact ⟨rfl, rfl, decode_encode_clearColorImage encoded⟩

theorem immediateRequest_encodes {scratch : Buffer} {command : Command} {request : ProtocolRequest}
    (recordable : command.Recordable) (made : proxy.immediateRequest scratch command = .ok request) :
    request.opcode = .commandBufferImmediateRecord ∧
      StreamHolds request.payload request.payloadLength proxy.wireId 1 [command] := by
  simp only [immediateRequest] at made
  split at made
  · contradiction
  · rename_i single
    simp only [refused_eq_ok, Except.ok.injEq] at made
    obtain ⟨_, rfl⟩ := made
    exact ⟨rfl, (singleRenderRecord_sound single).streamHolds recordable⟩

theorem strictRequest_encodes {registry : ClientRegistry} {scratch : Buffer} {command : Command}
    {request : ProtocolRequest} (recordable : command.Recordable)
    (made : proxy.strictRequest registry scratch command = .ok request) :
    request.Encodes proxy.wireId command := by
  cases command with
  | bindDescriptorSets command =>
      exact bindDescriptorSetsRequest_encodes (Command.bindDescriptorSets.inj recordable.canonical) made
  | fillBuffer command => exact fillBufferRequest_encodes made
  | clearColorImage command => exact clearColorImageRequest_encodes made
  | clearColorImageGeneral command => contradiction
  | _ => exact immediateRequest_encodes recordable made

/-- The encoder of the bind request takes the handles of the command. -/
def SendsBinds (commandBufferId : UInt64) (call : ClientCall) : Prop :=
  ∀ command, call.command = some (.bindDescriptorSets command) →
    (command.strictRequest commandBufferId).isEncodable = true

theorem bindDescriptorSetsRequest_reported {registry : ClientRegistry} {command : BindDescriptorSetsCommand}
    (encodable : (command.strictRequest proxy.wireId).isEncodable = true) :
    proxy.bindDescriptorSetsRequest registry command ≠ .error .unreported := by
  unfold bindDescriptorSetsRequest
  rw [encodeBindDescriptorSetsRequest, encodable]
  simp only [Bool.not_true, Bool.false_eq_true, ↓reduceIte]
  split <;> simp

theorem fixedRequest_reported {opcode : ServiceOpcode} {size : Nat} {encoded : Except Errno Buffer} :
    fixedRequest opcode size encoded ≠ .error .unreported := by
  cases encoded <;> simp [fixedRequest]

theorem immediateRequest_reported {scratch : Buffer} {command : Command} :
    proxy.immediateRequest scratch command ≠ .error .unreported := by
  simp only [immediateRequest]
  split
  · simp
  · split <;> simp

theorem strictRequest_reported {registry : ClientRegistry} {scratch : Buffer} {call : ClientCall}
    {command : Command} (sends : SendsBinds proxy.wireId call) (made : call.command = some command) :
    proxy.strictRequest registry scratch command ≠ .error .unreported := by
  cases command with
  | bindDescriptorSets command => exact bindDescriptorSetsRequest_reported (sends command made)
  | fillBuffer command =>
      simp only [strictRequest, fillBufferRequest]
      split
      · simp
      · exact fixedRequest_reported
  | clearColorImage command =>
      simp only [strictRequest, clearColorImageRequest]
      split
      · simp
      · exact fixedRequest_reported
  | clearColorImageGeneral command => simp [strictRequest]
  | _ => exact immediateRequest_reported

theorem recordStrict_answered {surroundings : Surroundings} {call : ClientCall} {after : CommandBufferProxy}
    {exchanges : List Exchange} (sends : SendsBinds proxy.wireId call)
    (ran : proxy.recordStrict true surroundings call = (after, exchanges))
    (clean : after.diagnosticRejection = false) :
    after = proxy ∧ ∃ command request response, call.command = some command ∧
      exchanges = [⟨request, response⟩] ∧ response.status.isNone = true ∧
      request.Encodes proxy.wireId command := by
  have stored : (proxy.storeDiagnostic true).diagnosticRejection = true := by simp [storeDiagnostic]
  simp only [recordStrict] at ran
  split at ran
  · cases ran
    rw [stored] at clean
    contradiction
  rename_i command made
  split at ran
  · rename_i unreported
    exact absurd unreported (strictRequest_reported sends made)
  · cases ran
    rw [stored] at clean
    contradiction
  rename_i request encoded
  split at ran
  · cases ran
    rw [stored] at clean
    contradiction
  rename_i response answered
  cases ran
  by_cases success : response.isEmptySuccess = true
  · rw [if_pos success]
    simp only [ProtocolResponse.isEmptySuccess, Bool.and_eq_true] at success
    exact ⟨rfl, command, request, response, made, rfl, success.1,
      strictRequest_encodes (ClientCall.command_recordable made) encoded⟩
  · rw [if_neg success, stored] at clean
    contradiction

end CommandBufferProxy

theorem ProtocolRequest.Encodes.isCommand {request : ProtocolRequest} {commandBufferId : UInt64}
    {command : Command} (encodes : request.Encodes commandBufferId command) :
    request.opcode.isCommand = true := by
  cases command with
  | _ =>
      rw [encodes.1]
      rfl

namespace CommandBufferProxy

variable {proxy : CommandBufferProxy}

def AnsweredFor (commandBufferId : UInt64) : List Exchange → List Command → Prop :=
  List.Forall₂ fun exchange command =>
    exchange.succeeded = true ∧ exchange.request.Encodes commandBufferId command

theorem recordStrict_proxy {diagnostics : Bool} (surroundings : Surroundings) (call : ClientCall) :
    (proxy.recordStrict diagnostics surroundings call).1 = proxy ∨
      (proxy.recordStrict diagnostics surroundings call).1 = proxy.storeDiagnostic diagnostics := by
  simp only [recordStrict]
  split
  · exact .inr rfl
  · split
    · exact .inl rfl
    · exact .inr rfl
    · split
      · exact .inr rfl
      · split
        · exact .inl rfl
        · exact .inr rfl

theorem recordStrict_clean {diagnostics : Bool} {surroundings : Surroundings} {call : ClientCall}
    (clean : (proxy.recordStrict diagnostics surroundings call).1.diagnosticRejection = false) :
    proxy.diagnosticRejection = false := by
  rcases recordStrict_proxy surroundings call with same | stored
  · rwa [same] at clean
  · rw [stored] at clean
    exact (Bool.or_eq_false_iff.mp clean).1

theorem strictRun_clean {diagnostics : Bool} {calls : List RecordedCall} {earlier : List Exchange}
    (clean : (Runs.final (strictStep diagnostics) (proxy, earlier) calls).1.diagnosticRejection = false) :
    proxy.diagnosticRejection = false := by
  induction calls generalizing proxy earlier with
  | nil => exact clean
  | cons recorded rest ih => exact recordStrict_clean (ih clean)

theorem strictRun_answered {calls : List RecordedCall} {earlier : List Exchange}
    (sends : ∀ recorded ∈ calls, SendsBinds proxy.wireId recorded.call)
    (clean : (Runs.final (strictStep true) (proxy, earlier) calls).1.diagnosticRejection = false) :
    ∃ commands later, calls.map (fun recorded => recorded.call.command) = commands.map some ∧
      Runs.final (strictStep true) (proxy, earlier) calls = (proxy, earlier ++ later) ∧
      AnsweredFor proxy.wireId later commands := by
  induction calls generalizing earlier with
  | nil =>
      refine ⟨[], [], rfl, ?_, .nil⟩
      rw [List.append_nil]
      rfl
  | cons recorded rest ih =>
      obtain ⟨first, others⟩ := List.forall_mem_cons.mp sends
      rcases ran : proxy.recordStrict true recorded.surroundings recorded.call with ⟨after, exchanges⟩
      have step : strictStep true (proxy, earlier) recorded = (after, earlier ++ exchanges) := by
        simp only [strictStep, ran]
      rw [Runs.final, List.foldl_cons, step] at clean ⊢
      obtain ⟨rfl, command, request, response, made, rfl, success, encodes⟩ :=
        recordStrict_answered first ran (strictRun_clean clean)
      obtain ⟨commands, later, same, final, answered⟩ := ih others clean
      refine ⟨command :: commands, ⟨request, response⟩ :: later, ?_, ?_, .cons ⟨success, encodes⟩ answered⟩
      · rw [List.map_cons, List.map_cons, made, same]
      · rw [List.append_assoc] at final
        exact final

end CommandBufferProxy

theorem commandRequests_answered {commandBufferId : UInt64} {exchanges : List Exchange}
    {commands : List Command} (answered : CommandBufferProxy.AnsweredFor commandBufferId exchanges commands) :
    List.Forall₂ (fun request command => request.Encodes commandBufferId command) (commandRequests exchanges)
      commands := by
  induction answered with
  | nil => exact .nil
  | cons first rest ih =>
      rw [commandRequests, List.filter_cons_of_pos (by rw [first.2.isCommand, first.1]; rfl), List.map_cons]
      exact .cons first.2 ih

theorem commandRequests_append (left right : List Exchange) :
    commandRequests (left ++ right) = commandRequests left ++ commandRequests right := by
  simp only [commandRequests, List.filter_append, List.map_append]

namespace CommandBufferProxy

variable {proxy : CommandBufferProxy}

theorem resultRequest_commandRequests {exchange : ProtocolRequest → Except Errno ProtocolResponse}
    {request : ProtocolRequest} (other : request.opcode.isCommand = false) :
    commandRequests (resultRequest exchange request).2 = [] := by
  simp only [resultRequest]
  split
  · rfl
  · rw [commandRequests, List.filter_cons_of_neg (by simp [other])]
    rfl

theorem beginStrict_wireId (exchange : ProtocolRequest → Except Errno ProtocolResponse)
    (info : Option (Chained BeginInfo)) :
    (proxy.beginStrict exchange info).2.1.wireId = proxy.wireId ∧
      commandRequests (proxy.beginStrict exchange info).2.2 = [] := by
  simp only [beginStrict]
  split
  · exact ⟨rfl, rfl⟩
  · split
    · exact ⟨rfl, rfl⟩
    · exact ⟨rfl, resultRequest_commandRequests rfl⟩

theorem endStrict_commandRequests (exchange : ProtocolRequest → Except Errno ProtocolResponse) :
    commandRequests (proxy.endStrict exchange).2 = [] := by
  simp only [endStrict]
  split
  · rfl
  · split
    · rfl
    · exact resultRequest_commandRequests rfl

theorem endStrict_success {exchange : ProtocolRequest → Except Errno ProtocolResponse}
    (success : (proxy.endStrict exchange).1 = vkSuccess) : proxy.diagnosticRejection = false := by
  simp only [endStrict] at success
  split at success
  · contradiction
  · rename_i clean
    exact Bool.eq_false_iff.mpr clean

end CommandBufferProxy

namespace Recording

variable {recording : Recording} {proxy : CommandBufferProxy}

theorem strict_answered (sends : ∀ recorded ∈ recording.calls,
      CommandBufferProxy.SendsBinds proxy.wireId recorded.call)
    (ended : (recording.strict true proxy).1 = vkSuccess) :
    ∃ commands, recording.Makes commands ∧
      List.Forall₂ (fun request command => request.Encodes proxy.wireId command)
        (commandRequests (recording.strict true proxy).2) commands := by
  obtain ⟨sameId, noneBegun⟩ := proxy.beginStrict_wireId recording.beginExchange recording.info
  simp only [strict] at ended ⊢
  rw [← sameId] at sends ⊢
  have clean := CommandBufferProxy.endStrict_success ended
  obtain ⟨commands, later, same, final, answered⟩ := CommandBufferProxy.strictRun_answered sends clean
  rw [List.nil_append] at final
  refine ⟨commands, same, ?_⟩
  rw [commandRequests_append, commandRequests_append, noneBegun,
    CommandBufferProxy.endStrict_commandRequests, List.nil_append, List.append_nil]
  have recorded : (CommandBufferProxy.recordAllStrict true _ recording.calls).2 = later :=
    congrArg Prod.snd final
  rw [recorded]
  exact commandRequests_answered answered

/-- A successful end says that no call was dropped: in the shared transport of
every recording, in the strict one where rejected calls are remembered and no
descriptor bind has a handle its request cannot carry. -/
theorem recording_keeps_calls (recording : Recording) (proxy : CommandBufferProxy) :
    (∀ diagnostics region ending sealed, proxy.streamRecording = false →
      recording.shared diagnostics proxy region ending = (vkSuccess, sealed) →
      ∃ flags commands, CommandBufferProxy.supportedBegin recording.info = some flags ∧
        recording.Makes commands ∧
        StreamHolds sealed.streamBuilder.bytes sealed.streamLength.toNat proxy.wireId sealed.streamSequence
          (.vulkanBegin ⟨flags⟩ :: commands ++ [.vulkanEnd])) ∧
    ((∀ recorded ∈ recording.calls, CommandBufferProxy.SendsBinds proxy.wireId recorded.call) →
      (recording.strict true proxy).1 = vkSuccess →
      ∃ commands, recording.Makes commands ∧
        List.Forall₂ (fun request command => request.Encodes proxy.wireId command)
          (commandRequests (recording.strict true proxy).2) commands) := by
  constructor
  · intro diagnostics region ending sealed closed ended
    obtain ⟨flags, commands, done⟩ := shared_sealed closed ended
    refine ⟨flags, commands, done.begins, done.makes, ?_⟩
    rw [← done.wireId]
    exact done.streamHolds
  · intro sends ended
    exact strict_answered sends ended

def agreeableExchange (request : ProtocolRequest) : Except Errno ProtocolResponse :=
  .ok ⟨none, zeroed, if request.opcode.isCommand then 0 else 4⟩

/-- One call between a plain begin and an end. -/
def ofCall (call : ClientCall) (registry : ClientRegistry) : Recording :=
  { info := some ⟨.commandBufferBeginInfo, false, ⟨0, false⟩⟩
    calls := [⟨call, ⟨fun _ => registry, zeroed, agreeableExchange⟩⟩]
    beginExchange := agreeableExchange
    endExchange := agreeableExchange }

def sampleProxy : CommandBufferProxy := .allocated 0x0b00000000000001 0x0a00000000000001 0x0300000000000001

def sampleRegion : StreamRegion := ⟨zeroed, 1, 1, 0⟩

theorem recording_keeps_calls_draw :
    (∃ commands sequence bytes length, (ofCall (.vkCmdDraw 3 1 0 0) ⟨[], []⟩).Makes commands ∧
      StreamHolds bytes length 0x0b00000000000001 sequence
        (.vulkanBegin ⟨0⟩ :: commands ++ [.vulkanEnd])) ∧
    ∃ commands requests, (ofCall (.vkCmdDraw 3 1 0 0) ⟨[], []⟩).Makes commands ∧
      List.Forall₂ (fun (request : ProtocolRequest) command => request.Encodes 0x0b00000000000001 command)
        requests commands := by
  obtain ⟨kept, answered⟩ := recording_keeps_calls (ofCall (.vkCmdDraw 3 1 0 0) ⟨[], []⟩) sampleProxy
  constructor
  · obtain ⟨flags, commands, begins, makes, holds⟩ := kept false sampleRegion sampleRegion _ rfl rfl
    cases begins
    exact ⟨commands, _, _, _, makes, holds⟩
  · obtain ⟨commands, makes, encodes⟩ := answered
      (List.forall_mem_singleton.mpr fun command bound => by cases bound) rfl
    exact ⟨commands, _, makes, encodes⟩

/-- With diagnostics off, a call of an unsupported shape is dropped and the end
still succeeds. -/
theorem strict_recording_drops_call : ¬∀ (recording : Recording) (proxy : CommandBufferProxy),
    (recording.strict false proxy).1 = vkSuccess → ∃ commands, recording.Makes commands ∧
      List.Forall₂ (fun request command => request.Encodes proxy.wireId command)
        (commandRequests (recording.strict false proxy).2) commands := by
  intro claimed
  obtain ⟨commands, makes, _⟩ := claimed
    (ofCall (.vkCmdSetScissorWithCount 2 (some fun _ => ⟨0, 0, 1, 1⟩)) ⟨[], []⟩) sampleProxy rfl
  cases commands with
  | nil => contradiction
  | cons command rest =>
      have first := (List.cons.inj makes).1
      contradiction

end Recording

end VulkanBridge
