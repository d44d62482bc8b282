import VulkanBridge.CommandStream

/-!
What a command means on the service, apart from how the code checks it: the
objects it names, the native calls it stands for, and when a stream may hold it.
-/

namespace VulkanBridge

def ObjectType.container : ObjectType → Option ObjectType
  | .commandBuffer => some .commandPool
  | .imageView => some .image
  | .descriptorSet => some .descriptorPool
  | _ => none

namespace ServiceContext

variable (context : ServiceContext)

/-- A live table entry of the type that belongs to the device. -/
def Owns (deviceId : UInt64) (type : ObjectType) (id : UInt64) : Prop :=
  match type.container with
  | none => ∃ bits, context.objects.lookup id type = .ok (deviceId, bits)
  | some container => ∃ parent bits parentBits, context.objects.lookup id type = .ok (parent, bits) ∧
      context.objects.lookup parent container = .ok (deviceId, parentBits)

/-- The native handle of an id, the null handle for an id that has none. -/
def native (type : ObjectType) (id : UInt64) : UInt64 :=
  match context.objects.lookup id type with
  | .ok (_, bits) => bits
  | .error _ => 0

/-- A native handle that was resolved from an entry of the device. -/
def OwnsNative (deviceId : UInt64) (handle : ObjectType × UInt64) : Prop :=
  ∃ id, context.Owns deviceId handle.1 id ∧ context.native handle.1 id = handle.2

end ServiceContext

def BeginRenderingCommand.attachments (command : BeginRenderingCommand) : List RenderingAttachment :=
  listed command.colorAttachmentCount command.colorAttachments ++
    (if command.hasDepthAttachment ≠ 0 then [command.depthAttachment] else []) ++
    (if command.hasStencilAttachment ≠ 0 then [command.stencilAttachment] else [])

/-- The objects a command names, the null ids left out. -/
def Command.handles : Command → List (ObjectType × UInt64)
  | .beginRendering command => command.attachments.flatMap RenderingAttachment.views
  | .bindGraphicsPipeline command => [(.pipeline, command.pipelineId)]
  | .pushRotation command => [(.pipelineLayout, command.pipelineLayoutId)]
  | .setViewport _ | .setScissor _ | .draw _ | .endRendering | .vulkanBegin _ | .vulkanEnd
  | .drawIndexed _ | .dynamicState _ | .clearAttachments _ => []
  | .fillBuffer command => [(.buffer, command.bufferId)]
  | .bufferHostReadBarrier command => [(.buffer, command.bufferId)]
  | .clearColorImage command => [(.image, command.imageId)]
  | .initImageBarrier command => (listed command.imageCount command.imageIds).map fun id => (.image, id)
  | .imageBarrier2 command =>
      (listed command.bufferCount command.buffers).map (fun barrier => (.buffer, barrier.bufferId)) ++
        (listed command.imageCount command.images).map fun barrier => (.image, barrier.imageId)
  | .clearColorImageGeneral command => [(.image, command.imageId)]
  | .bindDescriptorSets command =>
      (.pipelineLayout, command.pipelineLayoutId) ::
        (listed command.descriptorSetCount command.descriptorSetIds).map fun id => (.descriptorSet, id)
  | .pushConstants command => [(.pipelineLayout, command.pipelineLayoutId)]
  | .transfer opcode command =>
      [(transferSourceType opcode, command.sourceId), (transferDestinationType opcode, command.destinationId)]
  | .bindVertexBuffers _ command =>
      (listed command.bindingCount command.bufferIds).flatMap (nullable .buffer)
  | .bindIndexBuffer _ command => nullable .buffer command.bufferId
  | .drawIndirect _ command => [(.buffer, command.bufferId)]
  | .drawIndirectCount _ command => [(.buffer, command.bufferId), (.buffer, command.countBufferId)]
  | .clearDepthStencilImage command => [(.image, command.imageId)]
  | .updateBuffer command => [(.buffer, command.bufferId)]
  | .query command => [(.queryPool, command.queryPoolId)]

structure NativeTarget where
  commandBuffer : UInt64
  native : ObjectType → UInt64 → UInt64
  name : List EntryPoint → EntryPoint

namespace NativeTarget

variable (target : NativeTarget)

def call (names : List EntryPoint) (arguments : NativeArguments) : NativeCall :=
  ⟨target.name names, target.commandBuffer, arguments⟩

def attachment (attachment : RenderingAttachment) : RenderingAttachment :=
  { attachment with
    imageViewId := target.native .imageView attachment.imageViewId
    resolveImageViewId := target.native .imageView attachment.resolveImageViewId
    feedbackLoopEnable := if attachment.feedbackLoopEnable ≠ 0 then 1 else 0 }

def renderingInfo (command : BeginRenderingCommand) : RenderingInfo :=
  { flags := command.flags
    offset := (command.renderOffsetX, command.renderOffsetY)
    extent := (command.width, command.height)
    layerCount := command.layerCount
    viewMask := command.viewMask
    colorAttachments :=
      (listed command.colorAttachmentCount command.colorAttachments).map target.attachment
    depthAttachment :=
      if command.hasDepthAttachment ≠ 0 then some (target.attachment command.depthAttachment) else none
    stencilAttachment :=
      if command.hasStencilAttachment ≠ 0 then some (target.attachment command.stencilAttachment) else none }

def bufferBarrier (barrier : BufferBarrier2) : BufferBarrier2 :=
  { barrier with bufferId := target.native .buffer barrier.bufferId }

def imageBarrier (barrier : ImageBarrier2) : ImageBarrier2 :=
  { barrier with imageId := target.native .image barrier.imageId }

def query (command : QueryCommand) : List NativeCall :=
  let pool := target.native .queryPool command.queryPoolId
  match QueryKind.ofCode command.kind with
  | none => []
  | some .reset =>
      [target.call [⟨.vkCmdResetQueryPool, .core⟩]
        (.resetQueryPool pool command.firstQuery command.queryCount)]
  | some .beginQuery =>
      [target.call [⟨.vkCmdBeginQuery, .core⟩] (.beginQuery pool command.firstQuery command.flags)]
  | some .endQuery => [target.call [⟨.vkCmdEndQuery, .core⟩] (.endQuery pool command.firstQuery)]
  | some .writeTimestamp =>
      [target.call [⟨.vkCmdWriteTimestamp, .core⟩]
        (.writeTimestamp command.stageMask pool command.firstQuery)]
  | some .writeTimestamp2 =>
      [target.call [⟨.vkCmdWriteTimestamp2, .core⟩, ⟨.vkCmdWriteTimestamp2, .khr⟩]
        (.writeTimestamp command.stageMask pool command.firstQuery)]
  | some .beginIndexed =>
      [target.call [⟨.vkCmdBeginQueryIndexed, .ext⟩]
        (.beginQueryIndexed pool command.firstQuery command.flags command.index)]
  | some .endIndexed =>
      [target.call [⟨.vkCmdEndQueryIndexed, .ext⟩]
        (.endQueryIndexed pool command.firstQuery command.index)]

def bindVertexBuffers (opcode : UInt16) (command : BindVertexBuffersCommand) : NativeCall :=
  let buffers := (listed command.bindingCount command.bufferIds).map (target.native .buffer)
  let offsets := listed command.bindingCount command.offsets
  if opcode = Opcode.bindVertexBuffers.code then
    target.call [⟨.vkCmdBindVertexBuffers, .core⟩]
      (.bindVertexBuffers command.firstBinding buffers offsets none none)
  else
    target.call [⟨.vkCmdBindVertexBuffers2, .core⟩, ⟨.vkCmdBindVertexBuffers2, .ext⟩]
      (.bindVertexBuffers command.firstBinding buffers offsets
        (if command.hasSizes != 0 then some (listed command.bindingCount command.sizes) else none)
        (if command.hasStrides != 0 then some (listed command.bindingCount command.strides) else none))

def bindIndexBuffer (opcode : UInt16) (command : BindIndexBufferCommand) : NativeCall :=
  let buffer := target.native .buffer command.bufferId
  if opcode = Opcode.bindIndexBuffer.code then
    target.call [⟨.vkCmdBindIndexBuffer, .core⟩]
      (.bindIndexBuffer buffer command.offset none command.indexType)
  else
    target.call [⟨.vkCmdBindIndexBuffer2, .core⟩, ⟨.vkCmdBindIndexBuffer2, .khr⟩]
      (.bindIndexBuffer buffer command.offset (some command.size) command.indexType)

def drawIndirectNames (opcode : UInt16) : List EntryPoint :=
  if opcode = Opcode.drawIndirect.code then [⟨.vkCmdDrawIndirect, .core⟩]
  else [⟨.vkCmdDrawIndexedIndirect, .core⟩]

def drawIndirectCountNames (opcode : UInt16) : List EntryPoint :=
  if opcode = Opcode.drawIndirectCount.code then
    [⟨.vkCmdDrawIndirectCount, .core⟩, ⟨.vkCmdDrawIndirectCount, .khr⟩]
  else [⟨.vkCmdDrawIndexedIndirectCount, .core⟩, ⟨.vkCmdDrawIndexedIndirectCount, .khr⟩]

def transfer (opcode : UInt16) (command : TransferCommand) : NativeCall :=
  let described := ServiceContext.transferCall opcode command
    (target.native (transferSourceType opcode) command.sourceId)
    (target.native (transferDestinationType opcode) command.destinationId)
  target.call [⟨described.1, .core⟩] described.2

end NativeTarget

open NativeTarget in
/-- The calls one record of a stream stands for. The two kinds of record no
stream may hold stand for none. -/
def Command.nativeCalls (target : NativeTarget) : Command → List NativeCall
  | .vulkanBegin command =>
      [target.call [⟨.vkBeginCommandBuffer, .core⟩] (.beginCommandBuffer command.flags)]
  | .vulkanEnd => [target.call [⟨.vkEndCommandBuffer, .core⟩] .endCommandBuffer]
  | .beginRendering command =>
      [target.call [⟨.vkCmdBeginRendering, .core⟩, ⟨.vkCmdBeginRendering, .khr⟩]
        (.beginRendering (target.renderingInfo command))]
  | .endRendering =>
      [target.call [⟨.vkCmdEndRendering, .core⟩, ⟨.vkCmdEndRendering, .khr⟩] .endRendering]
  | .bindGraphicsPipeline command =>
      [target.call [⟨.vkCmdBindPipeline, .core⟩] (.bindPipeline 0 (target.native .pipeline command.pipelineId))]
  | .setViewport command =>
      [target.call [⟨.vkCmdSetViewportWithCount, .core⟩, ⟨.vkCmdSetViewportWithCount, .ext⟩]
        (.setViewports [command])]
  | .setScissor command =>
      [target.call [⟨.vkCmdSetScissorWithCount, .core⟩, ⟨.vkCmdSetScissorWithCount, .ext⟩]
        (.setScissors [command])]
  | .draw command => [target.call [⟨.vkCmdDraw, .core⟩] (.draw command)]
  | .drawIndexed command => [target.call [⟨.vkCmdDrawIndexed, .core⟩] (.drawIndexed command)]
  | .drawIndirect opcode command =>
      [target.call (drawIndirectNames opcode)
        (.drawIndirect (target.native .buffer command.bufferId) command.offset command.drawCount command.stride)]
  | .drawIndirectCount opcode command =>
      [target.call (drawIndirectCountNames opcode)
        (.drawIndirectCount (target.native .buffer command.bufferId) command.offset
          (target.native .buffer command.countBufferId) command.countBufferOffset
          command.maximumDrawCount command.stride)]
  | .fillBuffer command =>
      ServiceContext.fillCalls (target.name [⟨.vkCmdFillBuffer, .core⟩])
        (target.name [⟨.vkCmdPipelineBarrier, .core⟩]) target.commandBuffer
        (target.native .buffer command.bufferId) command.offset command.size command.data
  | .clearColorImage command =>
      [target.call [⟨.vkCmdClearColorImage, .core⟩]
        (.clearColorImage (target.native .image command.imageId) 7 [0, 0, 0, 0]
          [ServiceContext.baseColorRange])]
  | .clearColorImageGeneral command =>
      [target.call [⟨.vkCmdClearColorImage, .core⟩]
        (.clearColorImage (target.native .image command.imageId) command.imageLayout
          (listed 4 command.colorWords) (listed command.rangeCount command.ranges))]
  | .clearDepthStencilImage command =>
      [target.call [⟨.vkCmdClearDepthStencilImage, .core⟩]
        (.clearDepthStencilImage (target.native .image command.imageId) command.imageLayout
          command.depthWord command.stencil (listed command.rangeCount command.ranges))]
  | .clearAttachments command =>
      [target.call [⟨.vkCmdClearAttachments, .core⟩]
        (.clearAttachments (listed command.attachmentCount command.attachments)
          (listed command.rectCount command.rects))]
  | .initImageBarrier command =>
      [target.call [⟨.vkCmdPipelineBarrier2, .core⟩]
        (.pipelineBarrier2 0 [] [] ((listed command.imageCount command.imageIds).map fun id =>
          ServiceContext.initImageBarrier (target.native .image id)))]
  | .imageBarrier2 command =>
      [target.call [⟨.vkCmdPipelineBarrier2, .core⟩]
        (.pipelineBarrier2 command.dependencyFlags (listed command.memoryCount command.memory)
          ((listed command.bufferCount command.buffers).map target.bufferBarrier)
          ((listed command.imageCount command.images).map target.imageBarrier))]
  | .bindDescriptorSets command =>
      [target.call [⟨.vkCmdBindDescriptorSets, .core⟩]
        (.bindDescriptorSets command.pipelineBindPoint
          (target.native .pipelineLayout command.pipelineLayoutId) command.firstSet
          ((listed command.descriptorSetCount command.descriptorSetIds).map (target.native .descriptorSet))
          (listed command.dynamicOffsetCount command.dynamicOffsets))]
  | .pushConstants command =>
      [target.call [⟨.vkCmdPushConstants, .core⟩]
        (.pushConstants (target.native .pipelineLayout command.pipelineLayoutId) command.stageFlags
          command.offset (listed command.size command.data))]
  | .transfer opcode command => [target.transfer opcode command]
  | .bindVertexBuffers opcode command => [target.bindVertexBuffers opcode command]
  | .bindIndexBuffer opcode command => [target.bindIndexBuffer opcode command]
  | .dynamicState command =>
      match DynamicStateKind.ofCode command.kind with
      | none => []
      | some kind =>
          [target.call (ServiceContext.dynamicNames kind)
            (.dynamicState (ServiceContext.dynamicArguments kind command))]
  | .updateBuffer command =>
      [target.call [⟨.vkCmdUpdateBuffer, .core⟩]
        (.updateBuffer (target.native .buffer command.bufferId) command.offset
          (listed command.dataSize command.data))]
  | .query command => target.query command
  | .pushRotation _ | .bufferHostReadBarrier _ => []

def NativeDriver.chosen (driver : NativeDriver) (device : UInt64) (names : List EntryPoint) : EntryPoint :=
  (names.find? (driver.present device)).getD default

/-- The calls on a resolved command buffer. -/
def ServiceContext.target (context : ServiceContext) (driver : NativeDriver)
    (owner : ResolvedCommandBuffer) : NativeTarget :=
  ⟨owner.commandBuffer, context.native, driver.chosen owner.device⟩

def Command.isStreamed : Command → Bool
  | .vulkanBegin _ | .vulkanEnd | .pushRotation _ | .bufferHostReadBarrier _ => false
  | _ => true

def Command.isDraw : Command → Bool
  | .draw _ | .drawIndexed _ | .drawIndirect _ _ | .drawIndirectCount _ _ => true
  | _ => false

def Command.placed (rendering : Bool) : Command → Bool
  | .beginRendering _ => !rendering
  | .endRendering => rendering
  | command => !command.isDraw || rendering

def Command.renderingAfter (rendering : Bool) : Command → Bool
  | .beginRendering _ => true
  | .endRendering => false
  | _ => rendering

def Command.isSupported : Command → Bool
  | .imageBarrier2 command =>
      command.dependencyFlags &&& ~~~0x6f == 0 &&
        (listed command.bufferCount command.buffers).all (fun barrier => barrier.size != 0) &&
        (listed command.imageCount command.images).all imageBarrierSupported
  | .clearColorImageGeneral command =>
      (command.imageLayout == 7 || command.imageLayout == 1) &&
        (listed command.rangeCount command.ranges).all clearColorRangeSupported
  | .query command => !(command.kind == QueryKind.writeTimestamp.code && command.stageMask > 0xffffffff)
  | _ => true

namespace ServiceContext

variable (context : ServiceContext)

/-- The queries of a command lie inside their pool. -/
def QueriesInside (deviceId : UInt64) : Command → Prop
  | .query command =>
      context.native .queryPool command.queryPoolId ≠ 0 ∧
        ∃ metadata, context.queryPoolMetadataFind command.queryPoolId = some metadata ∧
          metadata.deviceId = deviceId ∧
          command.firstQuery.toNat + command.queryCount.toNat ≤ metadata.queryCount.toNat
  | _ => True

/-- A record of the stream as the service wants it. -/
structure Admits (deviceId : UInt64) (rendering : Bool) (command : Command) : Prop where
  streamed : command.isStreamed = true
  owned : ∀ handle ∈ command.handles, context.Owns deviceId handle.1 handle.2
  placed : command.placed rendering = true
  supported : command.isSupported = true
  queries : context.QueriesInside deviceId command

def AdmitsAll (deviceId : UInt64) : Bool → List Command → Prop
  | rendering, [] => rendering = false
  | rendering, command :: rest =>
      context.Admits deviceId rendering command ∧
        AdmitsAll deviceId (command.renderingAfter rendering) rest

end ServiceContext

end VulkanBridge
