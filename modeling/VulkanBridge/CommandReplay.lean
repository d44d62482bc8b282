import VulkanBridge.CommandBatch
import VulkanBridge.ServiceContext

/-!
Replaying one record on the native command buffer: the functions of
`replay_render_command_record`, one for each command it decodes.
-/

namespace VulkanBridge

namespace ServiceContext

variable (driver : NativeDriver) (context : ServiceContext)

def replayCommandStreamImageBarrier2 (commandBufferId : UInt64) (command : ImageBarrier2Command) :
    Except Errno (List NativeCall) := do
  let owner ← context.resolveCommandBuffer commandBufferId
  let buffers ← (listed command.bufferCount command.buffers).mapM fun barrier => do
    let buffer ← context.resolveOwnChild owner barrier.bufferId .buffer
    return { barrier with bufferId := buffer }
  let images ← (listed command.imageCount command.images).mapM fun barrier => do
    let image ← context.resolveOwnChild owner barrier.imageId .image
    return { barrier with imageId := image }
  let name ← driver.resolve owner.device [⟨.vkCmdPipelineBarrier2, .core⟩]
  return [⟨name, owner.commandBuffer,
    .pipelineBarrier2 command.dependencyFlags (listed command.memoryCount command.memory) buffers images⟩]

def replayCommandStreamClearColorImageGeneral (commandBufferId : UInt64)
    (command : ClearColorImageGeneralCommand) : Except Errno (List NativeCall) := do
  let owner ← context.resolveCommandBuffer commandBufferId
  let image ← context.resolveOwnChild owner command.imageId .image
  let name ← driver.resolve owner.device [⟨.vkCmdClearColorImage, .core⟩]
  return [⟨name, owner.commandBuffer, .clearColorImage image command.imageLayout
    (listed 4 command.colorWords) (listed command.rangeCount command.ranges)⟩]

def replayCommandStreamClearDepthStencilImage (commandBufferId : UInt64)
    (command : ClearDepthStencilImageCommand) : Except Errno (List NativeCall) := do
  let owner ← context.resolveCommandBuffer commandBufferId
  let image ← context.resolveOwnChild owner command.imageId .image
  let name ← driver.resolve owner.device [⟨.vkCmdClearDepthStencilImage, .core⟩]
  return [⟨name, owner.commandBuffer, .clearDepthStencilImage image command.imageLayout
    command.depthWord command.stencil (listed command.rangeCount command.ranges)⟩]

def replayCommandStreamClearAttachments (commandBufferId : UInt64) (command : ClearAttachmentsCommand) :
    Except Errno (List NativeCall) := do
  let owner ← context.resolveCommandBuffer commandBufferId
  let name ← driver.resolve owner.device [⟨.vkCmdClearAttachments, .core⟩]
  return [⟨name, owner.commandBuffer, .clearAttachments
    (listed command.attachmentCount command.attachments) (listed command.rectCount command.rects)⟩]

variable (owner : ResolvedCommandBuffer)

def callNative (names : List EntryPoint) (arguments : NativeArguments) : Except Errno (List NativeCall) := do
  let name ← driver.resolve owner.device names
  return [⟨name, owner.commandBuffer, arguments⟩]

def replayQuery (command : QueryCommand) : Except Errno (List NativeCall) := do
  let pool ← context.resolveOwnChild owner command.queryPoolId .queryPool
  match QueryKind.ofCode command.kind with
  | none => .error .eproto
  | some .reset =>
      callNative driver owner [⟨.vkCmdResetQueryPool, .core⟩]
        (.resetQueryPool pool command.firstQuery command.queryCount)
  | some .beginQuery =>
      callNative driver owner [⟨.vkCmdBeginQuery, .core⟩] (.beginQuery pool command.firstQuery command.flags)
  | some .endQuery => callNative driver owner [⟨.vkCmdEndQuery, .core⟩] (.endQuery pool command.firstQuery)
  | some .writeTimestamp =>
      callNative driver owner [⟨.vkCmdWriteTimestamp, .core⟩]
        (.writeTimestamp command.stageMask.toUInt32.toUInt64 pool command.firstQuery)
  | some .writeTimestamp2 =>
      callNative driver owner [⟨.vkCmdWriteTimestamp2, .core⟩, ⟨.vkCmdWriteTimestamp2, .khr⟩]
        (.writeTimestamp command.stageMask pool command.firstQuery)
  | some .beginIndexed =>
      callNative driver owner [⟨.vkCmdBeginQueryIndexed, .ext⟩]
        (.beginQueryIndexed pool command.firstQuery command.flags command.index)
  | some .endIndexed =>
      callNative driver owner [⟨.vkCmdEndQueryIndexed, .ext⟩]
        (.endQueryIndexed pool command.firstQuery command.index)

def resolveOptionalBuffer (bufferId : UInt64) : Except Errno UInt64 :=
  if bufferId = 0 then .ok 0 else context.resolveOwnChild owner bufferId .buffer

def replayBindVertexBuffers (opcode : UInt16) (command : BindVertexBuffersCommand) :
    Except Errno (List NativeCall) := do
  let buffers ← (listed command.bindingCount command.bufferIds).mapM (context.resolveOptionalBuffer owner)
  if opcode = Opcode.bindVertexBuffers.code then
    callNative driver owner [⟨.vkCmdBindVertexBuffers, .core⟩]
      (.bindVertexBuffers command.firstBinding buffers (listed command.bindingCount command.offsets) none none)
  else
    callNative driver owner [⟨.vkCmdBindVertexBuffers2, .core⟩, ⟨.vkCmdBindVertexBuffers2, .ext⟩]
      (.bindVertexBuffers command.firstBinding buffers (listed command.bindingCount command.offsets)
        (if command.hasSizes != 0 then some (listed command.bindingCount command.sizes) else none)
        (if command.hasStrides != 0 then some (listed command.bindingCount command.strides) else none))

def replayUpdateBuffer (command : UpdateBufferCommand) : Except Errno (List NativeCall) := do
  let buffer ← context.resolveOwnChild owner command.bufferId .buffer
  callNative driver owner [⟨.vkCmdUpdateBuffer, .core⟩]
    (.updateBuffer buffer command.offset (listed command.dataSize command.data))

def replayBindIndexBuffer (opcode : UInt16) (command : BindIndexBufferCommand) :
    Except Errno (List NativeCall) := do
  let buffer ← context.resolveOptionalBuffer owner command.bufferId
  if opcode = Opcode.bindIndexBuffer.code then
    callNative driver owner [⟨.vkCmdBindIndexBuffer, .core⟩]
      (.bindIndexBuffer buffer command.offset none command.indexType)
  else
    callNative driver owner [⟨.vkCmdBindIndexBuffer2, .core⟩, ⟨.vkCmdBindIndexBuffer2, .khr⟩]
      (.bindIndexBuffer buffer command.offset (some command.size) command.indexType)

def replayDrawIndexed (command : DrawIndexedCommand) : Except Errno (List NativeCall) :=
  callNative driver owner [⟨.vkCmdDrawIndexed, .core⟩] (.drawIndexed command)

def replayDrawIndirect (opcode : UInt16) (command : DrawIndirectCommand) : Except Errno (List NativeCall) := do
  let buffer ← context.resolveOwnChild owner command.bufferId .buffer
  let arguments := NativeArguments.drawIndirect buffer command.offset command.drawCount command.stride
  if opcode = Opcode.drawIndirect.code then callNative driver owner [⟨.vkCmdDrawIndirect, .core⟩] arguments
  else callNative driver owner [⟨.vkCmdDrawIndexedIndirect, .core⟩] arguments

def replayDrawIndirectCount (opcode : UInt16) (command : DrawIndirectCountCommand) :
    Except Errno (List NativeCall) := do
  let draw ← context.resolveDeviceChild command.bufferId .buffer
  let count ← context.resolveDeviceChild command.countBufferId .buffer
  if !sameDevice owner draw || !sameDevice owner count then .error .eproto
  let arguments := NativeArguments.drawIndirectCount draw.nativeBits command.offset count.nativeBits
    command.countBufferOffset command.maximumDrawCount command.stride
  if opcode = Opcode.drawIndirectCount.code then
    callNative driver owner [⟨.vkCmdDrawIndirectCount, .core⟩, ⟨.vkCmdDrawIndirectCount, .khr⟩] arguments
  else
    callNative driver owner
      [⟨.vkCmdDrawIndexedIndirectCount, .core⟩, ⟨.vkCmdDrawIndexedIndirectCount, .khr⟩] arguments

/-- The local `values[4]`, the words read as floats. -/
def dynamicFloat (command : DynamicStateCommand) (index : Nat) : UInt32 :=
  if index < command.valueCount.toNat then slot command.values index else 0

def dynamicArguments (kind : DynamicStateKind) (command : DynamicStateCommand) : List UInt32 :=
  match kind with
  | .cullMode | .frontFace | .primitiveTopology | .depthTestEnable | .depthWriteEnable | .depthCompareOp
  | .depthBoundsTestEnable | .stencilTestEnable | .rasterizerDiscardEnable | .depthBiasEnable
  | .primitiveRestartEnable => [slot command.values 0]
  | .stencilOp =>
      [slot command.values 0, slot command.values 1, slot command.values 2, slot command.values 3,
        slot command.values 4]
  | .depthBias => [dynamicFloat command 0, dynamicFloat command 1, dynamicFloat command 2]
  | .depthBounds => [dynamicFloat command 0, dynamicFloat command 1]
  | .stencilCompareMask | .stencilWriteMask | .stencilReference =>
      [slot command.values 0, slot command.values 1]
  | .lineWidth => [dynamicFloat command 0]
  | .blendConstants =>
      [dynamicFloat command 0, dynamicFloat command 1, dynamicFloat command 2, dynamicFloat command 3]

/-- The kinds of the core function have an `EXT` alias, the older ones none. -/
def dynamicNames (kind : DynamicStateKind) : List EntryPoint :=
  match kind with
  | .cullMode | .frontFace | .primitiveTopology | .depthTestEnable | .depthWriteEnable | .depthCompareOp
  | .depthBoundsTestEnable | .stencilTestEnable | .stencilOp | .rasterizerDiscardEnable
  | .depthBiasEnable | .primitiveRestartEnable =>
      [⟨.vkCmdSetDynamicState kind, .core⟩, ⟨.vkCmdSetDynamicState kind, .ext⟩]
  | .depthBias | .depthBounds | .stencilCompareMask | .stencilWriteMask | .stencilReference | .lineWidth
  | .blendConstants => [⟨.vkCmdSetDynamicState kind, .core⟩]

def replayDynamicState (command : DynamicStateCommand) : Except Errno (List NativeCall) :=
  match DynamicStateKind.ofCode command.kind with
  | none => .error .eproto
  | some kind =>
      callNative driver owner (dynamicNames kind) (.dynamicState (dynamicArguments kind command))

def attachmentView (deviceId imageViewId : UInt64) : Except Errno UInt64 :=
  if imageViewId ≠ 0 then context.descriptorTemplateResolveImageView imageViewId deviceId else .ok 0

def renderingAttachmentFromCommand (deviceId : UInt64) (command : RenderingAttachment) :
    Except Errno RenderingAttachment := do
  let view ← context.attachmentView deviceId command.imageViewId
  let resolveView ← context.attachmentView deviceId command.resolveImageViewId
  return { command with
    imageViewId := view
    resolveImageViewId := resolveView
    feedbackLoopEnable := if command.feedbackLoopEnable ≠ 0 then 1 else 0 }

def optionalAttachment (deviceId : UInt64) (present : UInt32) (command : RenderingAttachment) :
    Except Errno (Option RenderingAttachment) :=
  if present ≠ 0 then (context.renderingAttachmentFromCommand deviceId command).map some else .ok none

def replayBeginRendering (command : BeginRenderingCommand) : Except Errno (List NativeCall) := do
  let colors ← (listed command.colorAttachmentCount command.colorAttachments).mapM
    (context.renderingAttachmentFromCommand owner.deviceId)
  let depth ← context.optionalAttachment owner.deviceId command.hasDepthAttachment command.depthAttachment
  let stencil ← context.optionalAttachment owner.deviceId command.hasStencilAttachment
    command.stencilAttachment
  callNative driver owner [⟨.vkCmdBeginRendering, .core⟩, ⟨.vkCmdBeginRendering, .khr⟩]
    (.beginRendering
      { flags := command.flags
        offset := (command.renderOffsetX, command.renderOffsetY)
        extent := (command.width, command.height)
        layerCount := command.layerCount
        viewMask := command.viewMask
        colorAttachments := colors
        depthAttachment := depth
        stencilAttachment := stencil })

def replayEndRendering : Except Errno (List NativeCall) :=
  callNative driver owner [⟨.vkCmdEndRendering, .core⟩, ⟨.vkCmdEndRendering, .khr⟩] .endRendering

def replayBindGraphicsPipeline (command : BindGraphicsPipelineCommand) : Except Errno (List NativeCall) := do
  let pipeline ← context.resolveOwnChild owner command.pipelineId .pipeline
  callNative driver owner [⟨.vkCmdBindPipeline, .core⟩] (.bindPipeline 0 pipeline)

def replayPushConstants (command : PushConstantsCommand) : Except Errno (List NativeCall) := do
  let layout ← context.resolveOwnChild owner command.pipelineLayoutId .pipelineLayout
  callNative driver owner [⟨.vkCmdPushConstants, .core⟩]
    (.pushConstants layout command.stageFlags command.offset (listed command.size command.data))

def replaySetViewport (command : SetViewportCommand) : Except Errno (List NativeCall) :=
  callNative driver owner [⟨.vkCmdSetViewportWithCount, .core⟩, ⟨.vkCmdSetViewportWithCount, .ext⟩]
    (.setViewports [command])

def replaySetScissor (command : SetScissorCommand) : Except Errno (List NativeCall) :=
  callNative driver owner [⟨.vkCmdSetScissorWithCount, .core⟩, ⟨.vkCmdSetScissorWithCount, .ext⟩]
    (.setScissors [command])

def replayDraw (command : DrawCommand) : Except Errno (List NativeCall) :=
  callNative driver owner [⟨.vkCmdDraw, .core⟩] (.draw command)

/-! ### Transfers -/

def transferCall (opcode : UInt16) (command : TransferCommand) (source destination : UInt64) :
    VulkanFunction × NativeArguments :=
  let regions := listed command.regionCount command.regions
  if opcode = Opcode.copyBuffer2.code then
    (.vkCmdCopyBuffer2, .copyBuffer source destination (regions.map TransferRegion.bufferCopy))
  else if opcode = Opcode.copyBufferToImage2.code then
    (.vkCmdCopyBufferToImage2, .copyBufferToImage source destination command.destinationLayout
      (regions.map TransferRegion.bufferToImage))
  else if opcode = Opcode.copyImageToBuffer2.code then
    (.vkCmdCopyImageToBuffer2, .copyImageToBuffer source command.sourceLayout destination
      (regions.map TransferRegion.imageToBuffer))
  else if opcode = Opcode.copyImage2.code then
    (.vkCmdCopyImage2, .copyImage source command.sourceLayout destination command.destinationLayout
      (regions.map TransferRegion.imageCopy))
  else if opcode = Opcode.blitImage2.code then
    (.vkCmdBlitImage2, .blitImage source command.sourceLayout destination command.destinationLayout
      (regions.map TransferRegion.imageBlit) command.filter)
  else
    (.vkCmdResolveImage2, .resolveImage source command.sourceLayout destination command.destinationLayout
      (regions.map TransferRegion.imageCopy))

def replayTransfer (opcode : UInt16) (command : TransferCommand) : Except Errno (List NativeCall) := do
  let source ← context.resolveDeviceChild command.sourceId (transferSourceType opcode)
  let destination ← context.resolveDeviceChild command.destinationId (transferDestinationType opcode)
  if !sameDevice owner source || !sameDevice owner destination then .error .eproto
  let (function, arguments) := transferCall opcode command source.nativeBits destination.nativeBits
  callNative driver owner [⟨function, .core⟩] arguments

def replayRenderCommandRecord (commandBufferId : UInt64) (record : CommandRecord) :
    Except Errno (List NativeCall) := do
  let owner ← context.resolveCommandBuffer commandBufferId
  match Opcode.ofCode record.opcode with
  | some .query => commandDecodeQuery record >>= context.replayQuery driver owner
  | some .imageBarrier2 =>
      commandDecodeImageBarrier2 record >>= context.replayCommandStreamImageBarrier2 driver commandBufferId
  | some .bindVertexBuffers | some .bindVertexBuffers2 =>
      commandDecodeBindVertexBuffers record >>= context.replayBindVertexBuffers driver owner record.opcode
  | some .clearDepthStencilImage =>
      commandDecodeClearDepthStencilImage record >>=
        context.replayCommandStreamClearDepthStencilImage driver commandBufferId
  | some .clearAttachments =>
      commandDecodeClearAttachments record >>=
        context.replayCommandStreamClearAttachments driver commandBufferId
  | some .updateBuffer => commandDecodeUpdateBuffer record >>= context.replayUpdateBuffer driver owner
  | some .bindIndexBuffer | some .bindIndexBuffer2 =>
      commandDecodeBindIndexBuffer record >>= context.replayBindIndexBuffer driver owner record.opcode
  | some .drawIndexed => commandDecodeDrawIndexed record >>= replayDrawIndexed driver owner
  | some .drawIndirect | some .drawIndexedIndirect =>
      commandDecodeDrawIndirect record >>= context.replayDrawIndirect driver owner record.opcode
  | some .drawIndirectCount | some .drawIndexedIndirectCount =>
      commandDecodeDrawIndirectCount record >>= context.replayDrawIndirectCount driver owner record.opcode
  | some .dynamicState => commandDecodeDynamicState record >>= replayDynamicState driver owner
  | some .beginRendering => commandDecodeBeginRendering record >>= context.replayBeginRendering driver owner
  | some .endRendering => replayEndRendering driver owner
  | some .bindGraphicsPipeline =>
      commandDecodeBindGraphicsPipeline record >>= context.replayBindGraphicsPipeline driver owner
  | some .pushConstants => commandDecodePushConstants record >>= context.replayPushConstants driver owner
  | some .setViewport => commandDecodeSetViewport record >>= replaySetViewport driver owner
  | some .setScissor => commandDecodeSetScissor record >>= replaySetScissor driver owner
  | some .draw => commandDecodeDraw record >>= replayDraw driver owner
  | some .copyBuffer2 | some .copyBufferToImage2 | some .copyImageToBuffer2 | some .copyImage2
  | some .blitImage2 | some .resolveImage2 =>
      commandDecodeTransfer record >>= context.replayTransfer driver owner record.opcode
  | some .fillBuffer | some .bufferHostReadBarrier | some .pushRotation | some .clearColorImageGeneral
  | some .bindDescriptorSets | some .vulkanBegin | some .clearColorImage | some .initImageBarrier
  | some .vulkanEnd | none => .error .eproto

end ServiceContext

end VulkanBridge
