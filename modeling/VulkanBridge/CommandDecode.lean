import VulkanBridge.CommandValidate

/-!
The decoders of `command_batch.c`, one for each command structure, and the
dispatch on the opcode of a record.
-/

namespace VulkanBridge

open ByteBuffer

/-- A record as the iterator yields it: the payload is the slice of the batch
that `payload_length` covers. -/
structure CommandRecord where
  opcode : UInt16
  payload : Buffer
  payloadLength : Nat

def decodeImageRange (payload : Buffer) (input : Nat) : ImageSubresourceRange :=
  { aspectMask := getU32 payload input
    baseMipLevel := getU32 payload (input + 4)
    levelCount := getU32 payload (input + 8)
    baseArrayLayer := getU32 payload (input + 12)
    layerCount := getU32 payload (input + 16) }

def decodeTransferLayers (payload : Buffer) (input : Nat) : ImageSubresourceLayers :=
  { aspectMask := getU32 payload input
    mipLevel := getU32 payload (input + 4)
    baseArrayLayer := getU32 payload (input + 8)
    layerCount := getU32 payload (input + 12) }

def BeginRenderingCommand.read (payload : Buffer) : BeginRenderingCommand :=
  { flags := getU32 payload 0
    renderOffsetX := (getU32 payload 4).toInt32
    renderOffsetY := (getU32 payload 8).toInt32
    width := getU32 payload 12
    height := getU32 payload 16
    layerCount := getU32 payload 20
    viewMask := getU32 payload 24
    colorAttachmentCount := getU32 payload 28
    hasDepthAttachment := getU32 payload 32
    hasStencilAttachment := getU32 payload 36
    colorAttachments := fill 8 (getU32 payload 28).toNat fun index =>
      decodeRenderingAttachment payload (40 + index * 56)
    depthAttachment :=
      if getU32 payload 32 != 0 then decodeRenderingAttachment payload (40 + 8 * 56) else default
    stencilAttachment :=
      if getU32 payload 36 != 0 then decodeRenderingAttachment payload (40 + (8 + 1) * 56) else default }

def BindGraphicsPipelineCommand.read (payload : Buffer) : BindGraphicsPipelineCommand :=
  { pipelineId := getU64 payload 0 }

def PushRotationCommand.read (payload : Buffer) : PushRotationCommand :=
  { pipelineLayoutId := getU64 payload 0
    angleRadians := getU32 payload 8
    aspectRatio := getU32 payload 12 }

def SetViewportCommand.read (payload : Buffer) : SetViewportCommand :=
  { x := getU32 payload 0
    y := getU32 payload 4
    width := getU32 payload 8
    height := getU32 payload 12
    minimumDepth := getU32 payload 16
    maximumDepth := getU32 payload 20 }

def SetScissorCommand.read (payload : Buffer) : SetScissorCommand :=
  { x := (getU32 payload 0).toInt32
    y := (getU32 payload 4).toInt32
    width := getU32 payload 8
    height := getU32 payload 12 }

def DrawCommand.read (payload : Buffer) : DrawCommand :=
  { vertexCount := getU32 payload 0
    instanceCount := getU32 payload 4
    firstVertex := getU32 payload 8
    firstInstance := getU32 payload 12 }

def FillBufferCommand.read (payload : Buffer) : FillBufferCommand :=
  { bufferId := getU64 payload 0
    offset := getU64 payload 8
    size := getU64 payload 16
    data := getU32 payload 24 }

def BufferHostReadBarrierCommand.read (payload : Buffer) : BufferHostReadBarrierCommand :=
  { bufferId := getU64 payload 0
    offset := getU64 payload 8
    size := getU64 payload 16 }

def VulkanBeginCommand.read (payload : Buffer) : VulkanBeginCommand :=
  { flags := getU32 payload 0 }

def ClearColorImageCommand.read (payload : Buffer) : ClearColorImageCommand :=
  { imageId := getU64 payload 0 }

def InitImageBarrierCommand.read (payload : Buffer) : InitImageBarrierCommand :=
  { imageCount := getU32 payload 0
    imageIds := fill 4 (getU32 payload 0).toNat fun index => getU64 payload (8 + index * 8) }

def decodeMemoryBarrier2 (payload : Buffer) (input : Nat) : MemoryBarrier2 :=
  { sourceStageMask := getU64 payload input
    sourceAccessMask := getU64 payload (input + 8)
    destinationStageMask := getU64 payload (input + 16)
    destinationAccessMask := getU64 payload (input + 24) }

def decodeBufferBarrier2 (payload : Buffer) (input : Nat) : BufferBarrier2 :=
  { sourceStageMask := getU64 payload input
    sourceAccessMask := getU64 payload (input + 8)
    destinationStageMask := getU64 payload (input + 16)
    destinationAccessMask := getU64 payload (input + 24)
    sourceQueueFamilyIndex := getU32 payload (input + 32)
    destinationQueueFamilyIndex := getU32 payload (input + 36)
    bufferId := getU64 payload (input + 40)
    offset := getU64 payload (input + 48)
    size := getU64 payload (input + 56) }

def decodeImageBarrier2 (payload : Buffer) (input : Nat) : ImageBarrier2 :=
  { sourceStageMask := getU64 payload input
    sourceAccessMask := getU64 payload (input + 8)
    destinationStageMask := getU64 payload (input + 16)
    destinationAccessMask := getU64 payload (input + 24)
    oldLayout := getU32 payload (input + 32)
    newLayout := getU32 payload (input + 36)
    sourceQueueFamilyIndex := getU32 payload (input + 40)
    destinationQueueFamilyIndex := getU32 payload (input + 44)
    imageId := getU64 payload (input + 48)
    range := decodeImageRange payload (input + 56) }

def ImageBarrier2Command.read (payload : Buffer) : ImageBarrier2Command :=
  let memoryCount := getU32 payload 4
  let bufferCount := getU32 payload 8
  let imageCount := getU32 payload 12
  let bufferBase := 16 + memoryCount.toNat * 32
  let imageBase := bufferBase + bufferCount.toNat * 64
  { dependencyFlags := getU32 payload 0
    memoryCount := memoryCount
    bufferCount := bufferCount
    imageCount := imageCount
    memory := fill 64 memoryCount.toNat fun index => decodeMemoryBarrier2 payload (16 + index * 32)
    buffers := fill 256 bufferCount.toNat fun index => decodeBufferBarrier2 payload (bufferBase + index * 64)
    images := fill 2048 imageCount.toNat fun index => decodeImageBarrier2 payload (imageBase + index * 80) }

def ClearColorImageGeneralCommand.read (payload : Buffer) : ClearColorImageGeneralCommand :=
  { imageId := getU64 payload 0
    imageLayout := getU32 payload 8
    rangeCount := getU32 payload 12
    colorWords := fill 4 4 fun index => getU32 payload (16 + index * 4)
    ranges := fill 4 (getU32 payload 12).toNat fun index => decodeImageRange payload (32 + index * 24) }

def BindDescriptorSetsCommand.read (payload : Buffer) : BindDescriptorSetsCommand :=
  { pipelineLayoutId := getU64 payload 0
    pipelineBindPoint := getU32 payload 8
    firstSet := getU32 payload 12
    descriptorSetCount := getU32 payload 16
    dynamicOffsetCount := getU32 payload 20
    descriptorSetIds := fill 8 (getU32 payload 16).toNat fun index => getU64 payload (24 + index * 8)
    dynamicOffsets := fill 32 (getU32 payload 20).toNat fun index =>
      getU32 payload (24 + 8 * 8 + index * 4) }

def PushConstantsCommand.read (payload : Buffer) : PushConstantsCommand :=
  { pipelineLayoutId := getU64 payload 0
    stageFlags := getU32 payload 8
    offset := getU32 payload 12
    size := getU32 payload 16
    data := fill 256 (getU32 payload 16).toNat fun index => payload (24 + index) }

def decodeTransferRegion (payload : Buffer) (wire : Nat) : TransferRegion :=
  { sourceBufferOffset := getU64 payload wire
    destinationBufferOffset := getU64 payload (wire + 8)
    size := getU64 payload (wire + 16)
    bufferRowLength := getU32 payload (wire + 24)
    bufferImageHeight := getU32 payload (wire + 28)
    sourceLayers := decodeTransferLayers payload (wire + 32)
    destinationLayers := decodeTransferLayers payload (wire + 48)
    sourceOffsets := fill 2 2 fun offset =>
      { x := (getU32 payload (wire + 64 + offset * 12)).toInt32
        y := (getU32 payload (wire + 68 + offset * 12)).toInt32
        z := (getU32 payload (wire + 72 + offset * 12)).toInt32 }
    destinationOffsets := fill 2 2 fun offset =>
      { x := (getU32 payload (wire + 88 + offset * 12)).toInt32
        y := (getU32 payload (wire + 92 + offset * 12)).toInt32
        z := (getU32 payload (wire + 96 + offset * 12)).toInt32 }
    extent :=
      { width := getU32 payload (wire + 112)
        height := getU32 payload (wire + 116)
        depth := getU32 payload (wire + 120) } }

def TransferCommand.read (payload : Buffer) : TransferCommand :=
  { sourceId := getU64 payload 0
    destinationId := getU64 payload 8
    sourceLayout := getU32 payload 16
    destinationLayout := getU32 payload 20
    filter := getU32 payload 24
    regionCount := getU32 payload 28
    regions := fill 16 (getU32 payload 28).toNat fun index =>
      decodeTransferRegion payload (32 + index * 128) }

def BindVertexBuffersCommand.read (payload : Buffer) : BindVertexBuffersCommand :=
  let count := (getU32 payload 4).toNat
  { firstBinding := getU32 payload 0
    bindingCount := getU32 payload 4
    hasSizes := getU32 payload 8
    hasStrides := getU32 payload 12
    bufferIds := fill 16 count fun index => getU64 payload (16 + index * 8)
    offsets := fill 16 count fun index => getU64 payload (144 + index * 8)
    sizes := fill 16 count fun index => getU64 payload (272 + index * 8)
    strides := fill 16 count fun index => getU64 payload (400 + index * 8) }

def BindIndexBufferCommand.read (payload : Buffer) : BindIndexBufferCommand :=
  { bufferId := getU64 payload 0
    offset := getU64 payload 8
    size := getU64 payload 16
    indexType := getU32 payload 24 }

def DrawIndexedCommand.read (payload : Buffer) : DrawIndexedCommand :=
  { indexCount := getU32 payload 0
    instanceCount := getU32 payload 4
    firstIndex := getU32 payload 8
    vertexOffset := (getU32 payload 12).toInt32
    firstInstance := getU32 payload 16 }

def DrawIndirectCommand.read (payload : Buffer) : DrawIndirectCommand :=
  { bufferId := getU64 payload 0
    offset := getU64 payload 8
    drawCount := getU32 payload 16
    stride := getU32 payload 20 }

def DrawIndirectCountCommand.read (payload : Buffer) : DrawIndirectCountCommand :=
  { bufferId := getU64 payload 0
    offset := getU64 payload 8
    countBufferId := getU64 payload 16
    countBufferOffset := getU64 payload 24
    maximumDrawCount := getU32 payload 32
    stride := getU32 payload 36 }

def DynamicStateCommand.read (payload : Buffer) : DynamicStateCommand :=
  { kind := getU32 payload 0
    valueCount := getU32 payload 4
    values := fill 8 (getU32 payload 4).toNat fun index => getU32 payload (8 + index * 4) }

def ClearDepthStencilImageCommand.read (payload : Buffer) : ClearDepthStencilImageCommand :=
  { imageId := getU64 payload 0
    imageLayout := getU32 payload 8
    rangeCount := getU32 payload 12
    depthWord := getU32 payload 16
    stencil := getU32 payload 20
    ranges := fill 4 (getU32 payload 12).toNat fun index => decodeImageRange payload (24 + index * 24) }

def decodeClearAttachment (payload : Buffer) (input : Nat) : ClearAttachment :=
  { aspectMask := getU32 payload input
    colorAttachment := getU32 payload (input + 4)
    clearWords := fill 4 4 fun word => getU32 payload (input + 8 + word * 4) }

def decodeClearRect (payload : Buffer) (input : Nat) : ClearRect :=
  { offsetX := (getU32 payload input).toInt32
    offsetY := (getU32 payload (input + 4)).toInt32
    width := getU32 payload (input + 8)
    height := getU32 payload (input + 12)
    baseArrayLayer := getU32 payload (input + 16)
    layerCount := getU32 payload (input + 20) }

def ClearAttachmentsCommand.read (payload : Buffer) : ClearAttachmentsCommand :=
  { attachmentCount := getU32 payload 0
    rectCount := getU32 payload 4
    attachments := fill 8 (getU32 payload 0).toNat fun index => decodeClearAttachment payload (8 + index * 24)
    rects := fill 8 (getU32 payload 4).toNat fun index =>
      decodeClearRect payload (8 + 8 * 24 + index * 24) }

def UpdateBufferCommand.read (payload : Buffer) : UpdateBufferCommand :=
  { bufferId := getU64 payload 0
    offset := getU64 payload 8
    dataSize := getU32 payload 16
    data := fill 65536 (getU32 payload 16).toNat fun index => payload (24 + index) }

def QueryCommand.read (payload : Buffer) : QueryCommand :=
  { queryPoolId := getU64 payload 0
    stageMask := getU64 payload 8
    firstQuery := getU32 payload 16
    queryCount := getU32 payload 20
    flags := getU32 payload 24
    index := getU32 payload 28
    kind := getU32 payload 32 }

def decodeFixed {α : Type} (opcode : Opcode) (read : Buffer → α) (record : CommandRecord) :
    Except Errno α :=
  if record.opcode != opcode.code || record.payloadLength != expectedPayloadSize opcode then
    .error .einval
  else .ok (read record.payload)

def decodeEither {α : Type} (first second : Opcode) (read : Buffer → α) (record : CommandRecord) :
    Except Errno α :=
  if (record.opcode != first.code && record.opcode != second.code) ||
      record.payloadLength != expectedPayloadSize first then .error .einval
  else .ok (read record.payload)

def decodeSized {α : Type} (accepts : UInt16 → Bool) (read : Buffer → α) (record : CommandRecord) :
    Except Errno α :=
  if !accepts record.opcode ||
      !payloadLengthIsValid record.opcode record.payload record.payloadLength then .error .einval
  else .ok (read record.payload)

def commandDecodeBeginRendering := decodeFixed .beginRendering BeginRenderingCommand.read
def commandDecodeBindGraphicsPipeline := decodeFixed .bindGraphicsPipeline BindGraphicsPipelineCommand.read
def commandDecodePushRotation := decodeFixed .pushRotation PushRotationCommand.read
def commandDecodeSetViewport := decodeFixed .setViewport SetViewportCommand.read
def commandDecodeSetScissor := decodeFixed .setScissor SetScissorCommand.read
def commandDecodeDraw := decodeFixed .draw DrawCommand.read
def commandDecodeFillBuffer := decodeFixed .fillBuffer FillBufferCommand.read
def commandDecodeBufferHostReadBarrier := decodeFixed .bufferHostReadBarrier BufferHostReadBarrierCommand.read
def commandDecodeVulkanBegin := decodeFixed .vulkanBegin VulkanBeginCommand.read
def commandDecodeClearColorImage := decodeFixed .clearColorImage ClearColorImageCommand.read
def commandDecodeInitImageBarrier := decodeFixed .initImageBarrier InitImageBarrierCommand.read
def commandDecodeImageBarrier2 := decodeSized (· == Opcode.imageBarrier2.code) ImageBarrier2Command.read
def commandDecodeClearColorImageGeneral :=
  decodeFixed .clearColorImageGeneral ClearColorImageGeneralCommand.read
def commandDecodeBindDescriptorSets := decodeFixed .bindDescriptorSets BindDescriptorSetsCommand.read
def commandDecodePushConstants := decodeFixed .pushConstants PushConstantsCommand.read
def commandDecodeTransfer := decodeSized transferOpcodeIsValid TransferCommand.read
def commandDecodeBindVertexBuffers :=
  decodeEither .bindVertexBuffers .bindVertexBuffers2 BindVertexBuffersCommand.read
def commandDecodeBindIndexBuffer :=
  decodeEither .bindIndexBuffer .bindIndexBuffer2 BindIndexBufferCommand.read
def commandDecodeDrawIndexed := decodeFixed .drawIndexed DrawIndexedCommand.read
def commandDecodeDrawIndirect := decodeEither .drawIndirect .drawIndexedIndirect DrawIndirectCommand.read
def commandDecodeDrawIndirectCount :=
  decodeEither .drawIndirectCount .drawIndexedIndirectCount DrawIndirectCountCommand.read
def commandDecodeUpdateBuffer := decodeSized (· == Opcode.updateBuffer.code) UpdateBufferCommand.read

def commandDecodeDynamicState (record : CommandRecord) : Except Errno DynamicStateCommand := do
  let command ← decodeFixed .dynamicState DynamicStateCommand.read record
  if command.valueCount > 8 then .error .eproto else .ok command

def commandDecodeClearDepthStencilImage (record : CommandRecord) :
    Except Errno ClearDepthStencilImageCommand := do
  let command ← decodeFixed .clearDepthStencilImage ClearDepthStencilImageCommand.read record
  if command.rangeCount > 4 then .error .eproto else .ok command

def commandDecodeClearAttachments (record : CommandRecord) : Except Errno ClearAttachmentsCommand := do
  let command ← decodeFixed .clearAttachments ClearAttachmentsCommand.read record
  if command.attachmentCount > 8 || command.rectCount > 8 then .error .eproto else .ok command

def commandDecodeQuery (record : CommandRecord) : Except Errno QueryCommand := do
  let command ← decodeFixed .query QueryCommand.read record
  if !validatePayload record.opcode record.payload then .error .eproto else .ok command

/-- The decoder that belongs to the opcode of a record. The two records without
payload have none. -/
def commandDecode (record : CommandRecord) : Except Errno Command :=
  match Opcode.ofCode record.opcode with
  | none => .error .eproto
  | some .beginRendering => (commandDecodeBeginRendering record).map .beginRendering
  | some .bindGraphicsPipeline => (commandDecodeBindGraphicsPipeline record).map .bindGraphicsPipeline
  | some .setViewport => (commandDecodeSetViewport record).map .setViewport
  | some .setScissor => (commandDecodeSetScissor record).map .setScissor
  | some .draw => (commandDecodeDraw record).map .draw
  | some .endRendering => .ok .endRendering
  | some .fillBuffer => (commandDecodeFillBuffer record).map .fillBuffer
  | some .bufferHostReadBarrier => (commandDecodeBufferHostReadBarrier record).map .bufferHostReadBarrier
  | some .pushRotation => (commandDecodePushRotation record).map .pushRotation
  | some .imageBarrier2 => (commandDecodeImageBarrier2 record).map .imageBarrier2
  | some .clearColorImageGeneral =>
      (commandDecodeClearColorImageGeneral record).map .clearColorImageGeneral
  | some .bindDescriptorSets => (commandDecodeBindDescriptorSets record).map .bindDescriptorSets
  | some .pushConstants => (commandDecodePushConstants record).map .pushConstants
  | some .copyBuffer2 | some .copyBufferToImage2 | some .copyImageToBuffer2 | some .copyImage2
  | some .blitImage2 | some .resolveImage2 => (commandDecodeTransfer record).map (.transfer record.opcode)
  | some .bindVertexBuffers | some .bindVertexBuffers2 =>
      (commandDecodeBindVertexBuffers record).map (.bindVertexBuffers record.opcode)
  | some .bindIndexBuffer | some .bindIndexBuffer2 =>
      (commandDecodeBindIndexBuffer record).map (.bindIndexBuffer record.opcode)
  | some .drawIndexed => (commandDecodeDrawIndexed record).map .drawIndexed
  | some .drawIndirect | some .drawIndexedIndirect =>
      (commandDecodeDrawIndirect record).map (.drawIndirect record.opcode)
  | some .drawIndirectCount | some .drawIndexedIndirectCount =>
      (commandDecodeDrawIndirectCount record).map (.drawIndirectCount record.opcode)
  | some .dynamicState => (commandDecodeDynamicState record).map .dynamicState
  | some .clearDepthStencilImage =>
      (commandDecodeClearDepthStencilImage record).map .clearDepthStencilImage
  | some .clearAttachments => (commandDecodeClearAttachments record).map .clearAttachments
  | some .updateBuffer => (commandDecodeUpdateBuffer record).map .updateBuffer
  | some .query => (commandDecodeQuery record).map .query
  | some .vulkanBegin => (commandDecodeVulkanBegin record).map .vulkanBegin
  | some .clearColorImage => (commandDecodeClearColorImage record).map .clearColorImage
  | some .initImageBarrier => (commandDecodeInitImageBarrier record).map .initImageBarrier
  | some .vulkanEnd => .ok .vulkanEnd

end VulkanBridge
