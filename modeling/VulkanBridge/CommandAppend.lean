import VulkanBridge.Binary32
import VulkanBridge.CommandTypes

/-!
The builder of a command batch: for every command the argument checks and the
payload layout of its append function, and the record and header writes of
`command_batch.c`. A payload is written at the byte offsets of the source.
-/

namespace VulkanBridge

open ByteBuffer

def floatWordIsFinite (word : UInt32) : Bool := word &&& 0x7f800000 != 0x7f800000

def floatZero : UInt32 := 0
def floatOne : UInt32 := 0x3f800000
/-- `6.283186F`. -/
def floatFullTurn : UInt32 := 0x40c90fdc

def imageRangeIsValid (range : ImageSubresourceRange) : Bool :=
  range.aspectMask != 0 && range.levelCount != 0 && range.layerCount != 0

def transferLayersAreValid (layers : ImageSubresourceLayers) : Bool :=
  layers.aspectMask != 0 && layers.layerCount != 0

def renderingAttachmentIsValid (attachment : RenderingAttachment) (required : Bool) : Bool :=
  if attachment.feedbackLoopEnable > 1 then false
  else if attachment.imageViewId == 0 then
    !required && attachment.resolveImageViewId == 0 && attachment.resolveMode == 0
  else if !handleExpect attachment.imageViewId .imageView || attachment.imageLayout == 0 then false
  else if attachment.resolveMode == 0 then attachment.resolveImageViewId == 0
  else handleExpect attachment.resolveImageViewId .imageView && attachment.resolveImageLayout != 0

def encodeRenderingAttachment (payload : Buffer) (output : Nat) (attachment : RenderingAttachment) :
    Buffer :=
  let payload := putU64 payload output attachment.imageViewId
  let payload := putU64 payload (output + 8) attachment.resolveImageViewId
  let payload := putU32 payload (output + 16) attachment.imageLayout
  let payload := putU32 payload (output + 20) attachment.resolveMode
  let payload := putU32 payload (output + 24) attachment.resolveImageLayout
  let payload := putU32 payload (output + 28) attachment.loadOp
  let payload := putU32 payload (output + 32) attachment.storeOp
  let payload := putU32 payload (output + 36) attachment.feedbackLoopEnable
  loop 4 (fun index payload => putU32 payload (output + 40 + index * 4) (slot attachment.clearWords index))
    payload

def encodeImageRange (payload : Buffer) (output : Nat) (range : ImageSubresourceRange) : Buffer :=
  let payload := putU32 payload output range.aspectMask
  let payload := putU32 payload (output + 4) range.baseMipLevel
  let payload := putU32 payload (output + 8) range.levelCount
  let payload := putU32 payload (output + 12) range.baseArrayLayer
  let payload := putU32 payload (output + 16) range.layerCount
  putU32 payload (output + 20) 0

def encodeTransferLayers (payload : Buffer) (output : Nat) (layers : ImageSubresourceLayers) : Buffer :=
  let payload := putU32 payload output layers.aspectMask
  let payload := putU32 payload (output + 4) layers.mipLevel
  let payload := putU32 payload (output + 8) layers.baseArrayLayer
  putU32 payload (output + 12) layers.layerCount

namespace BeginRenderingCommand

def isAppendable (command : BeginRenderingCommand) : Bool :=
  !(command.width == 0 || command.height == 0 || command.layerCount == 0 ||
      command.colorAttachmentCount > 8 || command.hasDepthAttachment > 1 ||
      command.hasStencilAttachment > 1 ||
      (command.colorAttachmentCount == 0 && command.hasDepthAttachment == 0 &&
        command.hasStencilAttachment == 0)) &&
    (List.range command.colorAttachmentCount.toNat).all (fun index =>
      renderingAttachmentIsValid (slot command.colorAttachments index) false) &&
    !(command.hasDepthAttachment != 0 && !renderingAttachmentIsValid command.depthAttachment true) &&
    !(command.hasStencilAttachment != 0 && !renderingAttachmentIsValid command.stencilAttachment true)

def payload (command : BeginRenderingCommand) : Buffer :=
  let payload := putU32 zeroed 0 command.flags
  let payload := putU32 payload 4 command.renderOffsetX.toUInt32
  let payload := putU32 payload 8 command.renderOffsetY.toUInt32
  let payload := putU32 payload 12 command.width
  let payload := putU32 payload 16 command.height
  let payload := putU32 payload 20 command.layerCount
  let payload := putU32 payload 24 command.viewMask
  let payload := putU32 payload 28 command.colorAttachmentCount
  let payload := putU32 payload 32 command.hasDepthAttachment
  let payload := putU32 payload 36 command.hasStencilAttachment
  let payload := loop command.colorAttachmentCount.toNat (fun index payload =>
    encodeRenderingAttachment payload (40 + index * 56) (slot command.colorAttachments index)) payload
  let payload :=
    if command.hasDepthAttachment != 0 then
      encodeRenderingAttachment payload (40 + 8 * 56) command.depthAttachment
    else payload
  if command.hasStencilAttachment != 0 then
    encodeRenderingAttachment payload (40 + (8 + 1) * 56) command.stencilAttachment
  else payload

end BeginRenderingCommand

namespace BindGraphicsPipelineCommand

def isAppendable (command : BindGraphicsPipelineCommand) : Bool :=
  handleExpect command.pipelineId .pipeline

def payload (command : BindGraphicsPipelineCommand) : Buffer :=
  let payload := putU64 zeroed 0 command.pipelineId
  let payload := putU32 payload 8 0
  putU32 payload 12 0

end BindGraphicsPipelineCommand

namespace PushRotationCommand

def isAppendable (command : PushRotationCommand) : Bool :=
  !(!handleExpect command.pipelineLayoutId .pipelineLayout ||
      Binary32.lt command.angleRadians floatZero || Binary32.le floatFullTurn command.angleRadians ||
      Binary32.le command.aspectRatio floatZero) &&
    floatWordIsFinite command.angleRadians && floatWordIsFinite command.aspectRatio

def payload (command : PushRotationCommand) : Buffer :=
  let payload := putU64 zeroed 0 command.pipelineLayoutId
  let payload := putU32 payload 8 command.angleRadians
  putU32 payload 12 command.aspectRatio

end PushRotationCommand

namespace SetViewportCommand

def values (command : SetViewportCommand) : List UInt32 :=
  [command.x, command.y, command.width, command.height, command.minimumDepth, command.maximumDepth]

def isAppendable (command : SetViewportCommand) : Bool :=
  (List.range 6).all (fun index => floatWordIsFinite (command.values.getD index 0)) &&
    !(Binary32.eq command.width floatZero || Binary32.eq command.height floatZero ||
      Binary32.lt command.minimumDepth floatZero || Binary32.lt floatOne command.minimumDepth ||
      Binary32.lt command.maximumDepth floatZero || Binary32.lt floatOne command.maximumDepth ||
      Binary32.lt command.maximumDepth command.minimumDepth)

def payload (command : SetViewportCommand) : Buffer :=
  loop 6 (fun index payload => putU32 payload (index * 4) (command.values.getD index 0)) zeroed

end SetViewportCommand

namespace SetScissorCommand

def isAppendable (command : SetScissorCommand) : Bool := !(command.width == 0 || command.height == 0)

def payload (command : SetScissorCommand) : Buffer :=
  let payload := putU32 zeroed 0 command.x.toUInt32
  let payload := putU32 payload 4 command.y.toUInt32
  let payload := putU32 payload 8 command.width
  putU32 payload 12 command.height

end SetScissorCommand

namespace DrawCommand

def isAppendable (command : DrawCommand) : Bool :=
  !(command.vertexCount == 0 || command.instanceCount == 0)

def payload (command : DrawCommand) : Buffer :=
  let payload := putU32 zeroed 0 command.vertexCount
  let payload := putU32 payload 4 command.instanceCount
  let payload := putU32 payload 8 command.firstVertex
  putU32 payload 12 command.firstInstance

end DrawCommand

namespace FillBufferCommand

def isAppendable (command : FillBufferCommand) : Bool :=
  !(command.size == 0 || command.offset &&& 3 != 0 || command.size &&& 3 != 0 ||
    !handleExpect command.bufferId .buffer)

def payload (command : FillBufferCommand) : Buffer :=
  let payload := putU64 zeroed 0 command.bufferId
  let payload := putU64 payload 8 command.offset
  let payload := putU64 payload 16 command.size
  let payload := putU32 payload 24 command.data
  putU32 payload 28 0

end FillBufferCommand

namespace BufferHostReadBarrierCommand

def isAppendable (command : BufferHostReadBarrierCommand) : Bool :=
  !(command.size == 0 || !handleExpect command.bufferId .buffer)

def payload (command : BufferHostReadBarrierCommand) : Buffer :=
  let payload := putU64 zeroed 0 command.bufferId
  let payload := putU64 payload 8 command.offset
  putU64 payload 16 command.size

end BufferHostReadBarrierCommand

namespace VulkanBeginCommand

def isAppendable (command : VulkanBeginCommand) : Bool := command.flags &&& ~~~1 == 0

def payload (command : VulkanBeginCommand) : Buffer :=
  let payload := putU32 zeroed 0 command.flags
  putU32 payload 4 0

end VulkanBeginCommand

namespace ClearColorImageCommand

def isAppendable (command : ClearColorImageCommand) : Bool := handleExpect command.imageId .image

def payload (command : ClearColorImageCommand) : Buffer :=
  let payload := putU64 zeroed 0 command.imageId
  putU64 payload 8 0

end ClearColorImageCommand

namespace InitImageBarrierCommand

def isAppendable (command : InitImageBarrierCommand) : Bool :=
  !(command.imageCount == 0 || command.imageCount > 4) &&
    (List.range command.imageCount.toNat).all (fun index =>
      handleExpect (slot command.imageIds index) .image &&
        (List.range index).all (fun earlier => slot command.imageIds earlier != slot command.imageIds index))

def payload (command : InitImageBarrierCommand) : Buffer :=
  let payload := putU32 zeroed 0 command.imageCount
  loop command.imageCount.toNat (fun index payload =>
    putU64 payload (8 + index * 8) (slot command.imageIds index)) payload

end InitImageBarrierCommand

def encodeMemoryBarrier2 (payload : Buffer) (record : Nat) (barrier : MemoryBarrier2) : Buffer :=
  let payload := putU64 payload record barrier.sourceStageMask
  let payload := putU64 payload (record + 8) barrier.sourceAccessMask
  let payload := putU64 payload (record + 16) barrier.destinationStageMask
  putU64 payload (record + 24) barrier.destinationAccessMask

def encodeBufferBarrier2 (payload : Buffer) (record : Nat) (barrier : BufferBarrier2) : Buffer :=
  let payload := putU64 payload record barrier.sourceStageMask
  let payload := putU64 payload (record + 8) barrier.sourceAccessMask
  let payload := putU64 payload (record + 16) barrier.destinationStageMask
  let payload := putU64 payload (record + 24) barrier.destinationAccessMask
  let payload := putU32 payload (record + 32) barrier.sourceQueueFamilyIndex
  let payload := putU32 payload (record + 36) barrier.destinationQueueFamilyIndex
  let payload := putU64 payload (record + 40) barrier.bufferId
  let payload := putU64 payload (record + 48) barrier.offset
  putU64 payload (record + 56) barrier.size

def encodeImageBarrier2 (payload : Buffer) (record : Nat) (barrier : ImageBarrier2) : Buffer :=
  let payload := putU64 payload record barrier.sourceStageMask
  let payload := putU64 payload (record + 8) barrier.sourceAccessMask
  let payload := putU64 payload (record + 16) barrier.destinationStageMask
  let payload := putU64 payload (record + 24) barrier.destinationAccessMask
  let payload := putU32 payload (record + 32) barrier.oldLayout
  let payload := putU32 payload (record + 36) barrier.newLayout
  let payload := putU32 payload (record + 40) barrier.sourceQueueFamilyIndex
  let payload := putU32 payload (record + 44) barrier.destinationQueueFamilyIndex
  let payload := putU64 payload (record + 48) barrier.imageId
  encodeImageRange payload (record + 56) barrier.range

def barrierPayloadSize (memoryCount bufferCount imageCount : Nat) : Nat :=
  16 + memoryCount * 32 + bufferCount * 64 + imageCount * 80

namespace ImageBarrier2Command

def isAppendable (command : ImageBarrier2Command) : Bool :=
  !(command.dependencyFlags &&& ~~~0x6f != 0 || command.memoryCount > 64 ||
      command.bufferCount > 256 || command.imageCount > 2048) &&
    (List.range command.bufferCount.toNat).all (fun index =>
      !(!handleExpect (slot command.buffers index).bufferId .buffer ||
        (slot command.buffers index).size == 0)) &&
    (List.range command.imageCount.toNat).all (fun index =>
      !(!handleExpect (slot command.images index).imageId .image ||
        !imageRangeIsValid (slot command.images index).range))

def payload (command : ImageBarrier2Command) : Buffer :=
  let payload := putU32 zeroed 0 command.dependencyFlags
  let payload := putU32 payload 4 command.memoryCount
  let payload := putU32 payload 8 command.bufferCount
  let payload := putU32 payload 12 command.imageCount
  let base := 16
  let payload := loop command.memoryCount.toNat (fun index payload =>
    encodeMemoryBarrier2 payload (base + index * 32) (slot command.memory index)) payload
  let base := base + command.memoryCount.toNat * 32
  let payload := loop command.bufferCount.toNat (fun index payload =>
    encodeBufferBarrier2 payload (base + index * 64) (slot command.buffers index)) payload
  let base := base + command.bufferCount.toNat * 64
  loop command.imageCount.toNat (fun index payload =>
    encodeImageBarrier2 payload (base + index * 80) (slot command.images index)) payload

def payloadSize (command : ImageBarrier2Command) : Nat :=
  barrierPayloadSize command.memoryCount.toNat command.bufferCount.toNat command.imageCount.toNat

end ImageBarrier2Command

namespace ClearColorImageGeneralCommand

def isAppendable (command : ClearColorImageGeneralCommand) : Bool :=
  !(command.imageLayout == 0 || command.rangeCount == 0 || command.rangeCount > 4 ||
      !handleExpect command.imageId .image) &&
    (List.range command.rangeCount.toNat).all (fun index => imageRangeIsValid (slot command.ranges index))

def payload (command : ClearColorImageGeneralCommand) : Buffer :=
  let payload := putU64 zeroed 0 command.imageId
  let payload := putU32 payload 8 command.imageLayout
  let payload := putU32 payload 12 command.rangeCount
  let payload := loop 4 (fun index payload =>
    putU32 payload (16 + index * 4) (slot command.colorWords index)) payload
  loop command.rangeCount.toNat (fun index payload =>
    encodeImageRange payload (32 + index * 24) (slot command.ranges index)) payload

end ClearColorImageGeneralCommand

namespace BindDescriptorSetsCommand

def isAppendable (command : BindDescriptorSetsCommand) : Bool :=
  !(!handleExpect command.pipelineLayoutId .pipelineLayout || command.pipelineBindPoint > 1 ||
      command.descriptorSetCount == 0 || command.descriptorSetCount > 8 ||
      command.dynamicOffsetCount > 32) &&
    (List.range command.descriptorSetCount.toNat).all (fun index =>
      handleExpect (slot command.descriptorSetIds index) .descriptorSet)

def payload (command : BindDescriptorSetsCommand) : Buffer :=
  let payload := putU64 zeroed 0 command.pipelineLayoutId
  let payload := putU32 payload 8 command.pipelineBindPoint
  let payload := putU32 payload 12 command.firstSet
  let payload := putU32 payload 16 command.descriptorSetCount
  let payload := putU32 payload 20 command.dynamicOffsetCount
  let payload := loop command.descriptorSetCount.toNat (fun index payload =>
    putU64 payload (24 + index * 8) (slot command.descriptorSetIds index)) payload
  loop command.dynamicOffsetCount.toNat (fun index payload =>
    putU32 payload (24 + 8 * 8 + index * 4) (slot command.dynamicOffsets index)) payload

end BindDescriptorSetsCommand

namespace PushConstantsCommand

def isAppendable (command : PushConstantsCommand) : Bool :=
  !(command.stageFlags == 0 || command.size == 0 || command.size > 256 ||
    command.offset &&& 3 != 0 || command.size &&& 3 != 0 || command.offset > 256 - command.size ||
    !handleExpect command.pipelineLayoutId .pipelineLayout)

def payload (command : PushConstantsCommand) : Buffer :=
  let payload := putU64 zeroed 0 command.pipelineLayoutId
  let payload := putU32 payload 8 command.stageFlags
  let payload := putU32 payload 12 command.offset
  let payload := putU32 payload 16 command.size
  copyInto payload 24 (slot command.data) command.size.toNat

end PushConstantsCommand

def transferOpcodeIsValid (opcode : UInt16) : Bool :=
  Opcode.copyBuffer2.code ≤ opcode && opcode ≤ Opcode.resolveImage2.code

def transferSourceIsBuffer (opcode : UInt16) : Bool :=
  opcode == Opcode.copyBuffer2.code || opcode == Opcode.copyBufferToImage2.code

def transferDestinationIsBuffer (opcode : UInt16) : Bool :=
  opcode == Opcode.copyBuffer2.code || opcode == Opcode.copyImageToBuffer2.code

def transferSourceType (opcode : UInt16) : ObjectType :=
  if transferSourceIsBuffer opcode then .buffer else .image

def transferDestinationType (opcode : UInt16) : ObjectType :=
  if transferDestinationIsBuffer opcode then .buffer else .image

def transferPayloadSize (regionCount : Nat) : Nat := 32 + regionCount * 128

def encodeTransferRegion (payload : Buffer) (wire : Nat) (region : TransferRegion) : Buffer :=
  let payload := putU64 payload wire region.sourceBufferOffset
  let payload := putU64 payload (wire + 8) region.destinationBufferOffset
  let payload := putU64 payload (wire + 16) region.size
  let payload := putU32 payload (wire + 24) region.bufferRowLength
  let payload := putU32 payload (wire + 28) region.bufferImageHeight
  let payload := encodeTransferLayers payload (wire + 32) region.sourceLayers
  let payload := encodeTransferLayers payload (wire + 48) region.destinationLayers
  let payload := loop 2 (fun offset payload =>
    let payload := putU32 payload (wire + 64 + offset * 12) (slot region.sourceOffsets offset).x.toUInt32
    let payload := putU32 payload (wire + 68 + offset * 12) (slot region.sourceOffsets offset).y.toUInt32
    let payload := putU32 payload (wire + 72 + offset * 12) (slot region.sourceOffsets offset).z.toUInt32
    let payload := putU32 payload (wire + 88 + offset * 12) (slot region.destinationOffsets offset).x.toUInt32
    let payload := putU32 payload (wire + 92 + offset * 12) (slot region.destinationOffsets offset).y.toUInt32
    putU32 payload (wire + 96 + offset * 12) (slot region.destinationOffsets offset).z.toUInt32) payload
  let payload := putU32 payload (wire + 112) region.extent.width
  let payload := putU32 payload (wire + 116) region.extent.height
  putU32 payload (wire + 120) region.extent.depth

def transferRegionIsAppendable (opcode : UInt16) (region : TransferRegion) : Bool :=
  let bufferCopy := opcode == Opcode.copyBuffer2.code
  !((bufferCopy && region.size == 0) ||
    (!bufferCopy && (region.extent.width == 0 || region.extent.height == 0 || region.extent.depth == 0)) ||
    (!transferSourceIsBuffer opcode && !transferLayersAreValid region.sourceLayers) ||
    (!transferDestinationIsBuffer opcode && !transferLayersAreValid region.destinationLayers))

namespace TransferCommand

def isAppendable (opcode : UInt16) (command : TransferCommand) : Bool :=
  !(!transferOpcodeIsValid opcode || command.regionCount == 0 || command.regionCount > 16) &&
    !(!handleExpect command.sourceId (transferSourceType opcode) ||
      !handleExpect command.destinationId (transferDestinationType opcode) ||
      (!transferSourceIsBuffer opcode && command.sourceLayout == 0) ||
      (!transferDestinationIsBuffer opcode && command.destinationLayout == 0) ||
      (opcode == Opcode.blitImage2.code && command.filter > 1)) &&
    (List.range command.regionCount.toNat).all (fun index =>
      transferRegionIsAppendable opcode (slot command.regions index))

def payload (command : TransferCommand) : Buffer :=
  let payload := putU64 zeroed 0 command.sourceId
  let payload := putU64 payload 8 command.destinationId
  let payload := putU32 payload 16 command.sourceLayout
  let payload := putU32 payload 20 command.destinationLayout
  let payload := putU32 payload 24 command.filter
  let payload := putU32 payload 28 command.regionCount
  loop command.regionCount.toNat (fun index payload =>
    encodeTransferRegion payload (32 + index * 128) (slot command.regions index)) payload

end TransferCommand

namespace BindVertexBuffersCommand

def isAppendable (opcode : UInt16) (command : BindVertexBuffersCommand) : Bool :=
  !((opcode != Opcode.bindVertexBuffers.code && opcode != Opcode.bindVertexBuffers2.code) ||
      command.bindingCount == 0 || command.bindingCount > 16 || command.hasSizes > 1 ||
      command.hasStrides > 1 ||
      (opcode == Opcode.bindVertexBuffers.code && (command.hasSizes != 0 || command.hasStrides != 0))) &&
    (List.range command.bindingCount.toNat).all (fun index =>
      !(slot command.bufferIds index != 0 && !handleExpect (slot command.bufferIds index) .buffer))

def payload (command : BindVertexBuffersCommand) : Buffer :=
  let payload := putU32 zeroed 0 command.firstBinding
  let payload := putU32 payload 4 command.bindingCount
  let payload := putU32 payload 8 command.hasSizes
  let payload := putU32 payload 12 command.hasStrides
  loop command.bindingCount.toNat (fun index payload =>
    let payload := putU64 payload (16 + index * 8) (slot command.bufferIds index)
    let payload := putU64 payload (144 + index * 8) (slot command.offsets index)
    let payload :=
      if command.hasSizes != 0 then putU64 payload (272 + index * 8) (slot command.sizes index)
      else payload
    if command.hasStrides != 0 then putU64 payload (400 + index * 8) (slot command.strides index)
    else payload) payload

end BindVertexBuffersCommand

namespace BindIndexBufferCommand

def isAppendable (opcode : UInt16) (command : BindIndexBufferCommand) : Bool :=
  !((opcode != Opcode.bindIndexBuffer.code && opcode != Opcode.bindIndexBuffer2.code) ||
    (command.bufferId != 0 && !handleExpect command.bufferId .buffer) ||
    (opcode == Opcode.bindIndexBuffer.code && command.size != 0xffffffffffffffff) ||
    (command.bufferId != 0 && command.size == 0))

def payload (command : BindIndexBufferCommand) : Buffer :=
  let payload := putU64 zeroed 0 command.bufferId
  let payload := putU64 payload 8 command.offset
  let payload := putU64 payload 16 command.size
  putU32 payload 24 command.indexType

end BindIndexBufferCommand

namespace DrawIndexedCommand

def payload (command : DrawIndexedCommand) : Buffer :=
  let payload := putU32 zeroed 0 command.indexCount
  let payload := putU32 payload 4 command.instanceCount
  let payload := putU32 payload 8 command.firstIndex
  let payload := putU32 payload 12 command.vertexOffset.toUInt32
  putU32 payload 16 command.firstInstance

end DrawIndexedCommand

namespace DrawIndirectCommand

def isAppendable (opcode : UInt16) (command : DrawIndirectCommand) : Bool :=
  let indexed := opcode == Opcode.drawIndexedIndirect.code
  !((!indexed && opcode != Opcode.drawIndirect.code) || !handleExpect command.bufferId .buffer ||
    command.stride &&& 3 != 0 ||
    (command.drawCount > 1 && command.stride < (if indexed then 20 else 16)))

def payload (command : DrawIndirectCommand) : Buffer :=
  let payload := putU64 zeroed 0 command.bufferId
  let payload := putU64 payload 8 command.offset
  let payload := putU32 payload 16 command.drawCount
  putU32 payload 20 command.stride

end DrawIndirectCommand

namespace DrawIndirectCountCommand

def isAppendable (opcode : UInt16) (command : DrawIndirectCountCommand) : Bool :=
  let indexed := opcode == Opcode.drawIndexedIndirectCount.code
  !((!indexed && opcode != Opcode.drawIndirectCount.code) || !handleExpect command.bufferId .buffer ||
    !handleExpect command.countBufferId .buffer || command.stride &&& 3 != 0 ||
    (command.maximumDrawCount > 1 && command.stride < (if indexed then 20 else 16)))

def payload (command : DrawIndirectCountCommand) : Buffer :=
  let payload := putU64 zeroed 0 command.bufferId
  let payload := putU64 payload 8 command.offset
  let payload := putU64 payload 16 command.countBufferId
  let payload := putU64 payload 24 command.countBufferOffset
  let payload := putU32 payload 32 command.maximumDrawCount
  putU32 payload 36 command.stride

end DrawIndirectCountCommand

def DynamicStateCommand.payload (command : DynamicStateCommand) : Buffer :=
  let payload := putU32 zeroed 0 command.kind
  let payload := putU32 payload 4 command.valueCount
  loop command.valueCount.toNat (fun index payload =>
    putU32 payload (8 + index * 4) (slot command.values index)) payload

namespace ClearDepthStencilImageCommand

def isAppendable (command : ClearDepthStencilImageCommand) : Bool :=
  !(!handleExpect command.imageId .image || (command.imageLayout != 1 && command.imageLayout != 7) ||
      command.rangeCount == 0 || command.rangeCount > 4 || !floatWordIsFinite command.depthWord) &&
    (List.range command.rangeCount.toNat).all (fun index =>
      !(!imageRangeIsValid (slot command.ranges index) ||
        (slot command.ranges index).aspectMask &&& ~~~6 != 0))

def payload (command : ClearDepthStencilImageCommand) : Buffer :=
  let payload := putU64 zeroed 0 command.imageId
  let payload := putU32 payload 8 command.imageLayout
  let payload := putU32 payload 12 command.rangeCount
  let payload := putU32 payload 16 command.depthWord
  let payload := putU32 payload 20 command.stencil
  loop command.rangeCount.toNat (fun index payload =>
    encodeImageRange payload (24 + index * 24) (slot command.ranges index)) payload

end ClearDepthStencilImageCommand

def encodeClearAttachment (payload : Buffer) (output : Nat) (attachment : ClearAttachment) : Buffer :=
  let payload := putU32 payload output attachment.aspectMask
  let payload := putU32 payload (output + 4) attachment.colorAttachment
  loop 4 (fun word payload => putU32 payload (output + 8 + word * 4) (slot attachment.clearWords word)) payload

def encodeClearRect (payload : Buffer) (output : Nat) (rect : ClearRect) : Buffer :=
  let payload := putU32 payload output rect.offsetX.toUInt32
  let payload := putU32 payload (output + 4) rect.offsetY.toUInt32
  let payload := putU32 payload (output + 8) rect.width
  let payload := putU32 payload (output + 12) rect.height
  let payload := putU32 payload (output + 16) rect.baseArrayLayer
  putU32 payload (output + 20) rect.layerCount

namespace ClearAttachmentsCommand

def isAppendable (command : ClearAttachmentsCommand) : Bool :=
  !(command.attachmentCount == 0 || command.attachmentCount > 8 || command.rectCount == 0 ||
      command.rectCount > 8) &&
    (List.range command.attachmentCount.toNat).all (fun index =>
      !((slot command.attachments index).aspectMask == 0 ||
        (slot command.attachments index).aspectMask &&& ~~~7 != 0)) &&
    (List.range command.rectCount.toNat).all (fun index =>
      !((slot command.rects index).width == 0 || (slot command.rects index).height == 0 ||
        (slot command.rects index).layerCount == 0))

def payload (command : ClearAttachmentsCommand) : Buffer :=
  let payload := putU32 zeroed 0 command.attachmentCount
  let payload := putU32 payload 4 command.rectCount
  let payload := loop command.attachmentCount.toNat (fun index payload =>
    encodeClearAttachment payload (8 + index * 24) (slot command.attachments index)) payload
  loop command.rectCount.toNat (fun index payload =>
    encodeClearRect payload (8 + 8 * 24 + index * 24) (slot command.rects index)) payload

end ClearAttachmentsCommand

namespace UpdateBufferCommand

def isAppendable (command : UpdateBufferCommand) : Bool :=
  !(!handleExpect command.bufferId .buffer || command.dataSize == 0 || command.dataSize > 65536 ||
    command.offset &&& 3 != 0 || command.dataSize &&& 3 != 0)

def payload (command : UpdateBufferCommand) : Buffer :=
  let payload := putU64 zeroed 0 command.bufferId
  let payload := putU64 payload 8 command.offset
  let payload := putU32 payload 16 command.dataSize
  let payload := putU32 payload 20 0
  copyInto payload 24 (slot command.data) command.dataSize.toNat

end UpdateBufferCommand

inductive QueryKind where
  | reset
  | beginQuery
  | endQuery
  | writeTimestamp
  | writeTimestamp2
  | beginIndexed
  | endIndexed
  deriving DecidableEq, Repr

namespace QueryKind

def code : QueryKind → UInt32
  | reset => 1
  | beginQuery => 2
  | endQuery => 3
  | writeTimestamp => 4
  | writeTimestamp2 => 5
  | beginIndexed => 6
  | endIndexed => 7

def all : List QueryKind :=
  [reset, beginQuery, endQuery, writeTimestamp, writeTimestamp2, beginIndexed, endIndexed]

def ofCode (wire : UInt32) : Option QueryKind := all.find? fun kind => kind.code == wire

theorem code_of_ofCode {wire : UInt32} {kind : QueryKind} (found : ofCode wire = some kind) :
    kind.code = wire := by
  simpa using List.find?_some found

end QueryKind

namespace QueryCommand

def isAppendable (command : QueryCommand) : Bool :=
  !(!handleExpect command.queryPoolId .queryPool || command.queryCount == 0) &&
    match QueryKind.ofCode command.kind with
    | none => false
    | some .reset => !(command.stageMask != 0 || command.flags != 0 || command.index != 0)
    | some .beginQuery =>
        !(command.stageMask != 0 || command.queryCount != 1 || command.flags &&& ~~~1 != 0 ||
          command.index != 0)
    | some .endQuery =>
        !(command.stageMask != 0 || command.queryCount != 1 || command.flags != 0 || command.index != 0)
    | some .writeTimestamp | some .writeTimestamp2 =>
        !(command.stageMask == 0 || command.queryCount != 1 || command.flags != 0 || command.index != 0)
    | some .beginIndexed =>
        !(command.stageMask != 0 || command.queryCount != 1 || command.flags &&& ~~~1 != 0)
    | some .endIndexed => !(command.stageMask != 0 || command.queryCount != 1 || command.flags != 0)

def payload (command : QueryCommand) : Buffer :=
  let payload := putU64 zeroed 0 command.queryPoolId
  let payload := putU64 payload 8 command.stageMask
  let payload := putU32 payload 16 command.firstQuery
  let payload := putU32 payload 20 command.queryCount
  let payload := putU32 payload 24 command.flags
  let payload := putU32 payload 28 command.index
  putU32 payload 32 command.kind

end QueryCommand

end VulkanBridge
