import VulkanBridge.ClientCalls
import VulkanBridge.CommandBatch

/-!
The command buffers of the client in the shared-stream transport: the registry
of objects and the ownership cache, the slots of the shared region, begin and
end, and the critical sections of a `vkCmd*` call. A section is what runs
between lock and unlock of the stream mutex of one command buffer.
-/

namespace VulkanBridge

open ByteBuffer

structure ResourceProxy where
  wireId : UInt64
  type : ObjectType
  parentId : UInt64
  deriving DecidableEq, Repr

structure SwapchainProxy where
  parentId : UInt64
  imageIds : List UInt64
  deriving DecidableEq, Repr

structure ClientRegistry where
  resources : List ResourceProxy
  swapchains : List SwapchainProxy

namespace ClientRegistry

variable (registry : ClientRegistry)

def resourceProxy (wireId : UInt64) (type : ObjectType) : Option ResourceProxy :=
  if !handleExpect wireId type then none
  else
    match registry.resources.find? fun proxy => proxy.wireId == wireId with
    | none => none
    | some proxy => if proxy.type == type then some proxy else none

def resourceOwnedByDevice (wireId : UInt64) (type : ObjectType) (deviceId : UInt64) : Bool :=
  match registry.resourceProxy wireId type with
  | none => false
  | some proxy => proxy.parentId == deviceId

def imageOwnedByDevice (imageId deviceId : UInt64) : Bool :=
  match registry.resourceProxy imageId .image with
  | some resource => resource.parentId == deviceId
  | none =>
      handleExpect imageId .image &&
        registry.swapchains.any fun swapchain =>
          swapchain.parentId == deviceId && swapchain.imageIds.contains imageId

def descriptorSetOwnedByDevice (setId deviceId : UInt64) : Bool :=
  match registry.resourceProxy setId .descriptorSet with
  | none => false
  | some set => registry.resourceOwnedByDevice set.parentId .descriptorPool deviceId

def ownedByDevice (wireId : UInt64) (type : ObjectType) (deviceId : UInt64) : Bool :=
  match type with
  | .image => registry.imageOwnedByDevice wireId deviceId
  | .descriptorSet => registry.descriptorSetOwnedByDevice wireId deviceId
  | type => registry.resourceOwnedByDevice wireId type deviceId

end ClientRegistry

def commandStreamSlotCount : Nat := 64
def noStreamSlot : UInt32 := 0xffffffff

structure OwnershipCacheEntry where
  wireId : UInt64
  type : ObjectType
  deriving DecidableEq, Repr

instance : Inhabited OwnershipCacheEntry := ⟨0, .invalid⟩

/-- The fields of `bvb_command_buffer_proxy`. The builder's `bytes` are the memory
it points to, which is the slot `builderSlot` of the shared region, `none` for a
null pointer; of the stored rejection only its presence is kept. -/
structure CommandBufferProxy where
  wireId : UInt64
  parentPoolId : UInt64
  deviceId : UInt64
  streamBuilder : CommandBatchBuilder
  builderSlot : Option UInt32
  ownershipCache : Fin 16 → OwnershipCacheEntry
  ownershipRegistryReads : UInt64
  streamSequence : UInt64
  streamLength : UInt32
  streamSlot : UInt32
  diagnosticRejection : Bool
  streamRecording : Bool
  streamSealed : Bool
  streamUploaded : Bool
  streamError : Bool

/-- The part of `bvb_global_client` that belongs to the shared region. -/
structure StreamRegion where
  mapping : Buffer
  generation : UInt64
  nextSequence : UInt64
  slots : UInt64

def clearedBuilder : CommandBatchBuilder := ⟨zeroed, 0, 0, 0, 0, 0, false⟩

def slotBit (slot : UInt32) : UInt64 := 1 <<< slot.toUInt64

def slotView (mapping : Buffer) (slot : UInt32) : Buffer :=
  fun index => mapping (slot.toNat * commandStreamSlotBytes + index)

def StreamRegion.freeSlot (region : StreamRegion) : Option UInt32 :=
  ((List.range commandStreamSlotCount).map UInt32.ofNat).find? fun slot => region.slots &&& slotBit slot == 0

/-- The members of `VkCommandBufferBeginInfo`. -/
structure BeginInfo where
  flags : UInt32
  hasInheritanceInfo : Bool

namespace CommandBufferProxy

variable (proxy : CommandBufferProxy)

/-- What `vkAllocateCommandBuffers` makes. -/
def allocated (wireId parentPoolId deviceId : UInt64) : CommandBufferProxy :=
  { wireId := wireId
    parentPoolId := parentPoolId
    deviceId := deviceId
    streamBuilder := clearedBuilder
    builderSlot := none
    ownershipCache := fun _ => default
    ownershipRegistryReads := 0
    streamSequence := 0
    streamLength := 0
    streamSlot := noStreamSlot
    diagnosticRejection := false
    streamRecording := false
    streamSealed := false
    streamUploaded := false
    streamError := false }

def leaseCommandStreamSlot (region : StreamRegion) : Except Errno (StreamRegion × CommandBufferProxy) :=
  match region.freeSlot with
  | none => .error .enospc
  | some slot =>
      if region.nextSequence == 0 then .error .eoverflow
      else
        .ok ({ region with slots := region.slots ||| slotBit slot, nextSequence := region.nextSequence + 1 },
          { proxy with streamSlot := slot, streamSequence := region.nextSequence })

def releaseCommandStreamSlot (region : StreamRegion) : StreamRegion × CommandBufferProxy :=
  if proxy.streamSlot.toNat ≥ commandStreamSlotCount then (region, proxy)
  else
    ({ region with slots := region.slots &&& ~~~slotBit proxy.streamSlot },
      { proxy with streamSlot := noStreamSlot })

def resetCommandStreamState (region : StreamRegion) : StreamRegion × CommandBufferProxy :=
  let (region, proxy) := proxy.releaseCommandStreamSlot region
  (region,
    { proxy with
      streamBuilder := clearedBuilder
      builderSlot := none
      ownershipCache := fun _ => default
      ownershipRegistryReads := 0
      streamSequence := 0
      streamLength := 0
      streamRecording := false
      streamSealed := false
      streamUploaded := false
      streamError := false
      diagnosticRejection := false })

def failBegin (region : StreamRegion) : VulkanResult × StreamRegion × CommandBufferProxy :=
  let (region, proxy) := { proxy with streamRecording := false, streamError := true }.releaseCommandStreamSlot region
  (vkErrorInitializationFailed, region, proxy)

/-- The section of `vkBeginCommandBuffer` in the shared transport. -/
def beginSection (region : StreamRegion) (flags : UInt32) : VulkanResult × StreamRegion × CommandBufferProxy :=
  if proxy.streamRecording then { proxy with diagnosticRejection := false }.failBegin region
  else
    let (region, proxy) := proxy.resetCommandStreamState region
    match proxy.leaseCommandStreamSlot region with
    | .error _ => proxy.failBegin region
    | .ok (region, proxy) =>
        match CommandBatchBuilder.start (slotView region.mapping proxy.streamSlot) commandStreamSlotBytes
            proxy.wireId proxy.streamSequence with
        | .error _ => proxy.failBegin region
        | .ok builder =>
            let proxy := { proxy with streamBuilder := builder, builderSlot := some proxy.streamSlot }
            match builder.append (.vulkanBegin ⟨flags⟩) with
            | .error _ => proxy.failBegin region
            | .ok builder =>
                (vkSuccess, region,
                  { proxy with streamBuilder := builder, streamRecording := true, streamError := false })

/-- The flags of a begin info the client supports. -/
def supportedBegin : Option (Chained BeginInfo) → Option UInt32
  | none => none
  | some chained =>
      if !chained.isPlain .commandBufferBeginInfo || chained.members.hasInheritanceInfo ||
          chained.members.flags &&& ~~~1 != 0 then none
      else some chained.members.flags

def beginCommandBuffer (region : StreamRegion) (info : Option (Chained BeginInfo)) :
    VulkanResult × StreamRegion × CommandBufferProxy :=
  match supportedBegin info with
  | none => (vkErrorFeatureNotPresent, region, proxy)
  | some flags => proxy.beginSection region flags

def finishStream : Except Errno (CommandBatchBuilder × Nat) :=
  if proxy.streamRecording && !proxy.streamError then do
    let builder ← proxy.streamBuilder.append .vulkanEnd
    builder.finish
  else .error .einval

def builderAfterFailure : CommandBatchBuilder :=
  if proxy.streamRecording && !proxy.streamError then proxy.streamBuilder.step .vulkanEnd
  else proxy.streamBuilder

/-- The section of `vkEndCommandBuffer` in the shared transport. -/
def endCommandBuffer (region : StreamRegion) : VulkanResult × StreamRegion × CommandBufferProxy :=
  match proxy.finishStream with
  | .ok (builder, length) =>
      (vkSuccess, region,
        { proxy with
          streamBuilder := builder
          streamLength := UInt32.ofNat length
          streamSealed := true
          streamRecording := false })
  | .error _ =>
      let (region, proxy) :=
        { proxy with
          streamBuilder := proxy.builderAfterFailure
          streamLength := 0
          streamSealed := false
          streamError := true }.releaseCommandStreamSlot region
      (vkErrorInitializationFailed, region, { proxy with streamRecording := false })

/-- The effect of `store_command_diagnostic_locked`. -/
def storeDiagnostic (diagnostics : Bool) : CommandBufferProxy :=
  { proxy with diagnosticRejection := proxy.diagnosticRejection || diagnostics }

def poison (diagnostics : Bool) : CommandBufferProxy :=
  { proxy.storeDiagnostic diagnostics with streamError := true, streamSealed := false }

def ownershipCacheIndex (wireId : UInt64) (type : ObjectType) : Fin 16 :=
  let hash := wireId ^^^ (wireId >>> 32) ^^^ type.code
  Fin.ofNat 16 (hash.toUInt32 &&& 15).toNat

def ownershipTypes : List ObjectType :=
  [.buffer, .image, .imageView, .pipeline, .pipelineLayout, .descriptorSet]

/-- The answer of the lookup that needs no registry, `none` on a cache miss. -/
def cachedOwnership (wireId : UInt64) (type : ObjectType) : Option Bool :=
  if !ownershipTypes.contains type || !handleExpect wireId type then some false
  else if proxy.ownershipCache (ownershipCacheIndex wireId type) == ⟨wireId, type⟩ then some true
  else none

/-- The end of a lookup, after the mutex was taken again: `owned` is what the
registry said and `sequence` what the command buffer had before. -/
def relockedOwnership (wireId : UInt64) (type : ObjectType) (sequence : UInt64) (owned : Bool) :
    Bool × CommandBufferProxy :=
  let proxy := { proxy with ownershipRegistryReads := proxy.ownershipRegistryReads + 1 }
  if proxy.streamSequence != sequence || !proxy.streamRecording then (false, proxy)
  else if owned then
    (true,
      { proxy with
        ownershipCache :=
          Function.update proxy.ownershipCache (ownershipCacheIndex wireId type) ⟨wireId, type⟩ })
  else (false, proxy)

end CommandBufferProxy

/-- The attachments `rendering_command_ownership_locked` walks over. -/
def BeginRenderingCommand.ownershipAttachment (command : BeginRenderingCommand) (index : Nat) :
    RenderingAttachment :=
  if index < command.colorAttachmentCount.toNat then slot command.colorAttachments index
  else if index = command.colorAttachmentCount.toNat then
    if command.hasDepthAttachment != 0 then command.depthAttachment else command.stencilAttachment
  else command.stencilAttachment

def Command.lookups : Command → List (ObjectType × UInt64)
  | .beginRendering command =>
      (List.range (command.colorAttachmentCount + command.hasDepthAttachment +
        command.hasStencilAttachment).toNat).flatMap fun index => (command.ownershipAttachment index).views
  | .bindGraphicsPipeline command => [(.pipeline, command.pipelineId)]
  | .pushConstants command => [(.pipelineLayout, command.pipelineLayoutId)]
  | .bindVertexBuffers _ command =>
      (listed command.bindingCount command.bufferIds).flatMap (nullable .buffer)
  | .bindIndexBuffer _ command => nullable .buffer command.bufferId
  | .drawIndirect _ command => nullable .buffer command.bufferId
  | .drawIndirectCount _ command =>
      nullable .buffer command.bufferId ++ nullable .buffer command.countBufferId
  | .transfer opcode command =>
      [(transferSourceType opcode, command.sourceId), (transferDestinationType opcode, command.destinationId)]
  | .updateBuffer command => [(.buffer, command.bufferId)]
  | .bindDescriptorSets command =>
      (.pipelineLayout, command.pipelineLayoutId) ::
        (listed command.descriptorSetCount command.descriptorSetIds).map fun id => (.descriptorSet, id)
  | .imageBarrier2 command =>
      (listed command.bufferCount command.buffers).map (fun barrier => (.buffer, barrier.bufferId)) ++
        (listed command.imageCount command.images).map fun barrier => (.image, barrier.imageId)
  | .clearColorImage command => [(.image, command.imageId)]
  | .clearColorImageGeneral command => [(.image, command.imageId)]
  | .fillBuffer command => [(.buffer, command.bufferId)]
  | _ => []

/-- The commands appended to the stream in the section of their lookups; the
others go through a batch of their own. -/
def Command.isDirect : Command → Bool
  | .transfer _ _ | .updateBuffer _ | .bindDescriptorSets _ | .imageBarrier2 _ | .clearColorImage _
  | .clearColorImageGeneral _ | .fillBuffer _ => true
  | _ => false

/-- The commands whose function tests the recording before the lookups and not
after them. -/
def Command.testsRecordingFirst : Command → Bool
  | .updateBuffer _ | .imageBarrier2 _ => true
  | _ => false

inductive LookupOutcome where
  | owned
  | refused
  | missed (object : ObjectType × UInt64) (rest : List (ObjectType × UInt64))

/-- The lookups up to the first cache miss. -/
def CommandBufferProxy.lookup (proxy : CommandBufferProxy) : List (ObjectType × UInt64) → LookupOutcome
  | [] => .owned
  | (type, wireId) :: rest =>
      match proxy.cachedOwnership wireId type with
      | some true => proxy.lookup rest
      | some false => .refused
      | none => .missed (type, wireId) rest

/-- The batch of one record: `begin_single_render_record`, the append and the finish. -/
def singleRenderRecord (scratch : Buffer) (wireId : UInt64) (command : Command) :
    Except Errno (Buffer × Nat) := do
  let builder ← CommandBatchBuilder.start scratch 4096 wireId 1
  let builder ← builder.append command
  let (builder, length) ← builder.finish
  return (builder.bytes, length)

/-- `bvb_command_batch_append_record`. -/
def CommandBatchBuilder.appendValidRecord (builder : CommandBatchBuilder) (record : CommandRecord) :
    Except Errno CommandBatchBuilder :=
  if !payloadLengthIsValid record.opcode record.payload record.payloadLength ||
      !validatePayload record.opcode record.payload then .error .einval
  else builder.appendRecord record.opcode record.payload record.payloadLength

/-- The record of a one-record batch moved to the stream. The builder is also
returned where the batch turns out to hold more than one record. -/
def CommandBatchBuilder.appendBatch (builder : CommandBatchBuilder) (batch : Buffer) (length : Nat) :
    CommandBatchBuilder × Except Errno Unit :=
  match CommandBatchIterator.init batch length with
  | .error code => (builder, .error code)
  | .ok iterator =>
      match iterator.next with
      | .error code => (builder, .error code)
      | .ok none => (builder, .error .eproto)
      | .ok (some (record, iterator)) =>
          match builder.appendValidRecord record with
          | .error code => (builder, .error code)
          | .ok builder =>
              match iterator.next with
              | .ok none => (builder, .ok ())
              | _ => (builder, .error .eproto)

inductive RecordPhase where
  | enter (command : Command)
  | reading (command : Command) (object : ObjectType × UInt64) (rest : List (ObjectType × UInt64))
      (sequence : UInt64)
  | relock (command : Command) (object : ObjectType × UInt64) (rest : List (ObjectType × UInt64))
      (sequence : UInt64) (owned : Bool)
  | submit (command : Command)
  | poison

def ClientCall.phase (call : ClientCall) : RecordPhase :=
  match call.command with
  | none => .poison
  | some command => .enter command

namespace CommandBufferProxy

variable (diagnostics : Bool) (proxy : CommandBufferProxy)

def isOpen : Bool := proxy.streamRecording && !proxy.streamError

def appendDirect (command : Command) : CommandBufferProxy :=
  if command.testsRecordingFirst || proxy.isOpen then
    match proxy.streamBuilder.append command with
    | .ok builder => { proxy with streamBuilder := builder }
    | .error _ => proxy.poison diagnostics
  else proxy.poison diagnostics

def afterLookup (command : Command) : LookupOutcome → CommandBufferProxy × Option RecordPhase
  | .missed object rest => (proxy, some (.reading command object rest proxy.streamSequence))
  | .owned =>
      if command.isDirect then (proxy.appendDirect diagnostics command, none)
      else (proxy, some (.submit command))
  | .refused =>
      if command.isDirect then (proxy.poison diagnostics, none) else (proxy, some .poison)

/-- The locked part of `submit_single_render_record`. -/
def submitSection (batch : Buffer) (length : Nat) : CommandBufferProxy × Option RecordPhase :=
  if !proxy.isOpen then (proxy.poison diagnostics, some .poison)
  else
    match proxy.streamBuilder.appendBatch batch length with
    | (builder, .ok ()) => ({ proxy with streamBuilder := builder }, none)
    | (builder, .error _) => ({ proxy with streamBuilder := builder }.poison diagnostics, some .poison)

/-- One section of a call and where the call stands after it, `none` at its end.
The registry is read with no section open. -/
def runSection (registry : ClientRegistry) (scratch : Buffer) :
    RecordPhase → CommandBufferProxy × Option RecordPhase
  | .enter command =>
      if command.testsRecordingFirst && !proxy.isOpen then (proxy.poison diagnostics, none)
      else proxy.afterLookup diagnostics command (proxy.lookup command.lookups)
  | .reading command object rest sequence =>
      (proxy, some (.relock command object rest sequence
        (registry.ownedByDevice object.2 object.1 proxy.deviceId)))
  | .relock command object rest sequence owned =>
      match proxy.relockedOwnership object.2 object.1 sequence owned with
      | (false, proxy) => proxy.afterLookup diagnostics command .refused
      | (true, proxy) => proxy.afterLookup diagnostics command (proxy.lookup rest)
  | .submit command =>
      match singleRenderRecord scratch proxy.wireId command with
      | .error _ => (proxy, some .poison)
      | .ok (batch, length) =>
          if length < 32 ∨ length > 4096 then (proxy, some .poison)
          else proxy.submitSection diagnostics batch length
  | .poison => (proxy.poison diagnostics, none)

end CommandBufferProxy

end VulkanBridge
