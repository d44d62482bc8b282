import VulkanBridge.CommandBufferProxy
import VulkanBridge.CommandRequests

/-!
The strict transport of the client: every `vkCmd*` call is one request, and a
rejected call is remembered only where first-rejection diagnostics are on. The
shared transport runs the sections of a call to its end here, so that a
recording is one run in either transport.
-/

namespace VulkanBridge

open ByteBuffer

/-- What a call finds around it: the registry at each of its reads, the stack
bytes its batch is built in, and the service behind `connect_locked` and
`exchange_locked`. -/
structure Surroundings where
  registry : UInt64 → ClientRegistry
  scratch : Buffer
  exchange : ProtocolRequest → Except Errno ProtocolResponse

structure Exchange where
  request : ProtocolRequest
  response : ProtocolResponse

def Exchange.succeeded (exchange : Exchange) : Bool := exchange.response.status.isNone

inductive StrictRefusal where
  | reported
  | unreported
  deriving DecidableEq, Repr

/-- The request structure `vkCmdBindDescriptorSets` fills. -/
def BindDescriptorSetsCommand.strictRequest (command : BindDescriptorSetsCommand)
    (commandBufferId : UInt64) : BindDescriptorSetsRequest :=
  { commandBufferId := commandBufferId
    pipelineLayoutId := command.pipelineLayoutId
    pipelineBindPoint := command.pipelineBindPoint
    firstSet := command.firstSet
    descriptorSetCount := command.descriptorSetCount
    dynamicOffsetCount := command.dynamicOffsetCount
    descriptorSetIds := command.descriptorSetIds
    dynamicOffsets := command.dynamicOffsets }

def fixedRequest (opcode : ServiceOpcode) (payloadLength : Nat) :
    Except Errno Buffer → Except StrictRefusal ProtocolRequest
  | .error _ => .error .reported
  | .ok payload => .ok ⟨opcode, payload, payloadLength⟩

def ProtocolResponse.isEmptySuccess (response : ProtocolResponse) : Bool :=
  response.status.isNone && response.payloadLength == 0

namespace CommandBufferProxy

variable (proxy : CommandBufferProxy)

def bindDescriptorSetsRequest (registry : ClientRegistry) (command : BindDescriptorSetsCommand) :
    Except StrictRefusal ProtocolRequest :=
  match encodeBindDescriptorSetsRequest (command.strictRequest proxy.wireId) with
  | .error _ => .error .unreported
  | .ok (payload, payloadLength) =>
      if !registry.resourceOwnedByDevice command.pipelineLayoutId .pipelineLayout proxy.deviceId ||
          !(listed command.descriptorSetCount command.descriptorSetIds).all (fun setId =>
            registry.descriptorSetOwnedByDevice setId proxy.deviceId) then .error .reported
      else .ok ⟨.commandBufferBindDescriptorSets, payload, payloadLength⟩

def fillBufferRequest (registry : ClientRegistry) (command : FillBufferCommand) :
    Except StrictRefusal ProtocolRequest :=
  if !registry.resourceOwnedByDevice command.bufferId .buffer proxy.deviceId then .error .reported
  else fixedRequest .commandBufferFill 40 (encodeCommandBufferFillRequest (command.request proxy.wireId))

def clearColorImageRequest (registry : ClientRegistry) (command : ClearColorImageCommand) :
    Except StrictRefusal ProtocolRequest :=
  if !registry.imageOwnedByDevice command.imageId proxy.deviceId then .error .reported
  else
    fixedRequest .commandBufferClearColorImage 16
      (encodeCommandBufferClearColorImageRequest ⟨proxy.wireId, command.imageId⟩)

/-- The strict part of `submit_single_render_record`. -/
def immediateRequest (scratch : Buffer) (command : Command) : Except StrictRefusal ProtocolRequest :=
  match singleRenderRecord scratch proxy.wireId command with
  | .error _ => .error .reported
  | .ok (batch, length) =>
      if length < 32 ∨ length > protocolMaxPayload then .error .reported
      else .ok ⟨.commandBufferImmediateRecord, batch, length⟩

def strictRequest (registry : ClientRegistry) (scratch : Buffer) :
    Command → Except StrictRefusal ProtocolRequest
  | .bindDescriptorSets command => proxy.bindDescriptorSetsRequest registry command
  | .fillBuffer command => proxy.fillBufferRequest registry command
  | .clearColorImage command => proxy.clearColorImageRequest registry command
  | .clearColorImageGeneral _ => .error .reported
  | command => proxy.immediateRequest scratch command

/-- A `vkCmd*` call in the strict transport: the command buffer after it and the
requests the service answered. -/
def recordStrict (diagnostics : Bool) (surroundings : Surroundings) (call : ClientCall) :
    CommandBufferProxy × List Exchange :=
  match call.command with
  | none => (proxy.storeDiagnostic diagnostics, [])
  | some command =>
      match proxy.strictRequest (surroundings.registry proxy.ownershipRegistryReads) surroundings.scratch
          command with
      | .error .unreported => (proxy, [])
      | .error .reported => (proxy.storeDiagnostic diagnostics, [])
      | .ok request =>
          match surroundings.exchange request with
          | .error _ => (proxy.storeDiagnostic diagnostics, [])
          | .ok response =>
              (if response.isEmptySuccess then proxy else proxy.storeDiagnostic diagnostics,
                [⟨request, response⟩])

/-- `result_request_locked`. -/
def resultRequest (exchange : ProtocolRequest → Except Errno ProtocolResponse) (request : ProtocolRequest) :
    VulkanResult × List Exchange :=
  match exchange request with
  | .error _ => (vkErrorInitializationFailed, [])
  | .ok response =>
      (if response.status.isSome || response.payloadLength != 4 then vkErrorInitializationFailed
        else (getU32 response.payload 0).toInt32, [⟨request, response⟩])

def beginStrict (exchange : ProtocolRequest → Except Errno ProtocolResponse)
    (info : Option (Chained BeginInfo)) : VulkanResult × CommandBufferProxy × List Exchange :=
  match supportedBegin info with
  | none => (vkErrorFeatureNotPresent, proxy, [])
  | some flags =>
      let proxy := { proxy with diagnosticRejection := false }
      match encodeCommandBufferBeginRequest ⟨proxy.wireId, flags⟩ with
      | .error _ => (vkErrorInitializationFailed, proxy, [])
      | .ok payload =>
          let (result, exchanges) := resultRequest exchange ⟨.commandBufferBegin, payload, 16⟩
          (result, proxy, exchanges)

def endStrict (exchange : ProtocolRequest → Except Errno ProtocolResponse) :
    VulkanResult × List Exchange :=
  if proxy.diagnosticRejection then (vkErrorInitializationFailed, [])
  else
    match encodeCommandBufferId proxy.wireId with
    | .error _ => (vkErrorInitializationFailed, [])
    | .ok payload => resultRequest exchange ⟨.commandBufferEnd, payload, 8⟩

/-- The sections of a call one after the other, at most `sections` of them. -/
def runPhases (diagnostics : Bool) (surroundings : Surroundings) :
    Nat → CommandBufferProxy → RecordPhase → CommandBufferProxy
  | 0, proxy, _ => proxy
  | sections + 1, proxy, phase =>
      match proxy.runSection diagnostics (surroundings.registry proxy.ownershipRegistryReads)
          surroundings.scratch phase with
      | (proxy, none) => proxy
      | (proxy, some phase) => runPhases diagnostics surroundings sections proxy phase

end CommandBufferProxy

def RecordPhase.sections : RecordPhase → Nat
  | .enter command => 2 * command.lookups.length + 3
  | .reading _ _ rest _ => 2 * rest.length + 4
  | .relock _ _ rest _ _ => 2 * rest.length + 3
  | .submit _ => 2
  | .poison => 1

/-- A `vkCmd*` call in the shared transport. -/
def CommandBufferProxy.recordShared (diagnostics : Bool) (proxy : CommandBufferProxy)
    (surroundings : Surroundings) (call : ClientCall) : CommandBufferProxy :=
  proxy.runPhases diagnostics surroundings call.phase.sections call.phase

/-- A call and what it finds around it. -/
structure RecordedCall where
  call : ClientCall
  surroundings : Surroundings

def CommandBufferProxy.recordAllShared (diagnostics : Bool) (proxy : CommandBufferProxy)
    (calls : List RecordedCall) : CommandBufferProxy :=
  Runs.final (fun proxy recorded => proxy.recordShared diagnostics recorded.surroundings recorded.call) proxy
    calls

def strictStep (diagnostics : Bool) (state : CommandBufferProxy × List Exchange) (recorded : RecordedCall) :
    CommandBufferProxy × List Exchange :=
  let (proxy, exchanges) := state.1.recordStrict diagnostics recorded.surroundings recorded.call
  (proxy, state.2 ++ exchanges)

def CommandBufferProxy.recordAllStrict (diagnostics : Bool) (proxy : CommandBufferProxy)
    (calls : List RecordedCall) : CommandBufferProxy × List Exchange :=
  Runs.final (strictStep diagnostics) (proxy, []) calls

end VulkanBridge
