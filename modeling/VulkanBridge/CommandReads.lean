import VulkanBridge.CommandBatchRecords
import VulkanBridge.WatchedReads

/-!
The validator and the decoders of a command batch with the bytes they read and the array
slots they fill. A walk makes every read that the code makes, and those that the code skips
once a test has failed.
-/

namespace VulkanBridge

open ByteBuffer Watched

abbrev Walk := Watched Errno

/-- The loop of a decoder: round `index` stores its value in the array at `index`. -/
def stores {α : Type} [Inhabited α] (capacity count : Nat) (round : Nat → Walk α) : Walk (Fin capacity → α) :=
  ⟨.ok (fill capacity count fun index => (round index).result), roundReads count round,
    decide (count ≤ capacity) && roundsExact count round⟩

/-! ## The validator -/

def walkZero (bytes : Buffer) (offset size : Nat) : Walk Bool :=
  every size fun index => return (← byte bytes (offset + index)) == 0

def walkRenderingAttachment (payload : Buffer) (input : Nat) : Walk RenderingAttachment := do
  return {
    imageViewId := ← word64 payload input
    resolveImageViewId := ← word64 payload (input + 8)
    imageLayout := ← word32 payload (input + 16)
    resolveMode := ← word32 payload (input + 20)
    resolveImageLayout := ← word32 payload (input + 24)
    loadOp := ← word32 payload (input + 28)
    storeOp := ← word32 payload (input + 32)
    feedbackLoopEnable := ← word32 payload (input + 36)
    clearWords := ← stores 4 4 fun index => word32 payload (input + 40 + index * 4) }

def walkImageRangeWire (payload : Buffer) (input : Nat) : Walk Bool := do
  let aspectMask ← word32 payload input
  let levelCount ← word32 payload (input + 8)
  let layerCount ← word32 payload (input + 16)
  let reserved ← word32 payload (input + 20)
  return !(aspectMask == 0 || levelCount == 0 || layerCount == 0 || reserved != 0)

def walkRangeIsZero (payload : Buffer) (input : Nat) : Walk Bool :=
  every 6 fun word => return (← word32 payload (input + word * 4)) == 0

def walkBeginRendering (payload : Buffer) : Walk Bool := do
  let colorCount ← word32 payload 28
  let hasDepth ← word32 payload 32
  let hasStencil ← word32 payload 36
  let width ← word32 payload 12
  let height ← word32 payload 16
  let layerCount ← word32 payload 20
  let colors ← every 8 fun index => do
    let idle ← walkZero payload (40 + index * 56) 56
    let attachment ← walkRenderingAttachment payload (40 + index * 56)
    return if index ≥ colorCount.toNat then idle else renderingAttachmentIsValid attachment false
  let depth ← walkRenderingAttachment payload (40 + 8 * 56)
  let noDepth ← walkZero payload (40 + 8 * 56) 56
  let stencil ← walkRenderingAttachment payload (40 + 8 * 56 + 56)
  let noStencil ← walkZero payload (40 + 8 * 56 + 56) 56
  return !(width == 0 || height == 0 || layerCount == 0 || colorCount > 8 || hasDepth > 1 || hasStencil > 1 ||
      (colorCount == 0 && hasDepth == 0 && hasStencil == 0)) &&
    colors && (if hasDepth != 0 then renderingAttachmentIsValid depth true else noDepth) &&
    (if hasStencil != 0 then renderingAttachmentIsValid stencil true else noStencil)

def walkBindGraphicsPipeline (payload : Buffer) : Walk Bool := do
  return !(!handleExpect (← word64 payload 0) .pipeline || (← word32 payload 8) != 0 ||
    (← word32 payload 12) != 0)

def walkSetViewport (payload : Buffer) : Walk Bool := do
  let finite ← every 6 fun index => return floatWordIsFinite (← word32 payload (index * 4))
  let width ← word32 payload 8
  let height ← word32 payload 12
  let minimumDepth ← word32 payload 16
  let maximumDepth ← word32 payload 20
  return finite && !(Binary32.eq width floatZero || Binary32.eq height floatZero ||
    Binary32.lt minimumDepth floatZero || Binary32.lt floatOne minimumDepth ||
    Binary32.lt maximumDepth floatZero || Binary32.lt floatOne maximumDepth ||
    Binary32.lt maximumDepth minimumDepth)

def walkSetScissor (payload : Buffer) : Walk Bool := do
  return !((← word32 payload 8) == 0 || (← word32 payload 12) == 0)

def walkDraw (payload : Buffer) : Walk Bool := do
  return !((← word32 payload 0) == 0 || (← word32 payload 4) == 0)

def walkFillBuffer (payload : Buffer) : Walk Bool := do
  let offset ← word64 payload 8
  let size ← word64 payload 16
  return !(!handleExpect (← word64 payload 0) .buffer || size == 0 || offset &&& 3 != 0 ||
    size &&& 3 != 0 || (← word32 payload 28) != 0)

def walkBufferHostReadBarrier (payload : Buffer) : Walk Bool := do
  return !(!handleExpect (← word64 payload 0) .buffer || (← word64 payload 16) == 0)

def walkPushRotation (payload : Buffer) : Walk Bool := do
  let angle ← word32 payload 8
  let aspect ← word32 payload 12
  return !(!handleExpect (← word64 payload 0) .pipelineLayout || !floatWordIsFinite angle ||
    !floatWordIsFinite aspect || Binary32.lt angle floatZero ||
    Binary32.le floatFullTurn angle || Binary32.le aspect floatZero)

def walkImageBarrier2 (payload : Buffer) : Walk Bool := do
  let memoryCount ← word32 payload 4
  let bufferCount ← word32 payload 8
  let imageCount ← word32 payload 12
  let bufferBase := 16 + memoryCount.toNat * 32
  let imageBase := bufferBase + bufferCount.toNat * 64
  let dependencyFlags ← word32 payload 0
  let buffers ← every bufferCount.toNat fun index => do
    let bufferId ← word64 payload (bufferBase + index * 64 + 40)
    return !(!handleExpect bufferId .buffer || (← word64 payload (bufferBase + index * 64 + 56)) == 0)
  let images ← every imageCount.toNat fun index => do
    let imageId ← word64 payload (imageBase + index * 80 + 48)
    return !(!handleExpect imageId .image || !(← walkImageRangeWire payload (imageBase + index * 80 + 56)))
  return !(dependencyFlags &&& ~~~0x6f != 0 || memoryCount > 64 || bufferCount > 256 || imageCount > 2048) &&
    buffers && images

def walkClearColorImageGeneral (payload : Buffer) : Walk Bool := do
  let count ← word32 payload 12
  let imageId ← word64 payload 0
  let layout ← word32 payload 8
  let ranges ← every 4 fun index => do
    let valid ← walkImageRangeWire payload (32 + index * 24)
    let idle ← walkRangeIsZero payload (32 + index * 24)
    return if index < count.toNat then valid else idle
  return !(!handleExpect imageId .image || layout == 0 || count == 0 || count > 4) && ranges

def walkBindDescriptorSets (payload : Buffer) : Walk Bool := do
  let setCount ← word32 payload 16
  let dynamicCount ← word32 payload 20
  let layoutId ← word64 payload 0
  let bindPoint ← word32 payload 8
  let sets ← every 8 fun index => do
    let setId ← word64 payload (24 + index * 8)
    return if index < setCount.toNat then handleExpect setId .descriptorSet else setId == 0
  let offsets ← every 32 fun index =>
    return index < dynamicCount.toNat || (← word32 payload (24 + 8 * 8 + index * 4)) == 0
  return !(!handleExpect layoutId .pipelineLayout || bindPoint > 1 || setCount == 0 ||
    setCount > 8 || dynamicCount > 32) && sets && offsets

def walkPushConstants (payload : Buffer) : Walk Bool := do
  let size ← word32 payload 16
  let layoutId ← word64 payload 0
  let stageFlags ← word32 payload 8
  let offset ← word32 payload 12
  let reserved ← word32 payload 20
  let idle ← every 256 fun index => return index < size.toNat || (← byte payload (24 + index)) == 0
  return !(!handleExpect layoutId .pipelineLayout || stageFlags == 0 || size == 0 || size > 256 ||
    offset &&& 3 != 0 || size &&& 3 != 0 || offset > 256 - size || reserved != 0) && idle

def walkTransfer (opcode : UInt16) (payload : Buffer) : Walk Bool := do
  let count ← word32 payload 28
  let sourceBuffer := transferSourceIsBuffer opcode
  let destinationBuffer := transferDestinationIsBuffer opcode
  let sourceId ← word64 payload 0
  let destinationId ← word64 payload 8
  let sourceLayout ← word32 payload 16
  let destinationLayout ← word32 payload 20
  let filter ← word32 payload 24
  let regions ← every count.toNat fun index => do
    let wire := 32 + index * 128
    let size ← word64 payload (wire + 16)
    let width ← word32 payload (wire + 112)
    let height ← word32 payload (wire + 116)
    let depth ← word32 payload (wire + 120)
    let sourceAspect ← word32 payload (wire + 32)
    let sourceLayers ← word32 payload (wire + 44)
    let destinationAspect ← word32 payload (wire + 48)
    let destinationLayers ← word32 payload (wire + 60)
    let reserved ← word32 payload (wire + 124)
    return !((opcode == Opcode.copyBuffer2.code && size == 0) ||
      (opcode != Opcode.copyBuffer2.code && (width == 0 || height == 0 || depth == 0)) ||
      (!sourceBuffer && (sourceAspect == 0 || sourceLayers == 0)) ||
      (!destinationBuffer && (destinationAspect == 0 || destinationLayers == 0)) || reserved != 0)
  return !(!handleExpect sourceId (transferSourceType opcode) ||
      !handleExpect destinationId (transferDestinationType opcode) ||
      (!sourceBuffer && sourceLayout == 0) || (!destinationBuffer && destinationLayout == 0) ||
      (opcode == Opcode.blitImage2.code && filter > 1) ||
      (opcode != Opcode.blitImage2.code && filter != 0) || count == 0 || count > 16) && regions

def walkBindVertexBuffers (opcode : UInt16) (payload : Buffer) : Walk Bool := do
  let count ← word32 payload 4
  let hasSizes ← word32 payload 8
  let hasStrides ← word32 payload 12
  let bindings ← every 16 fun index => do
    let id ← word64 payload (16 + index * 8)
    let offset ← word64 payload (144 + index * 8)
    let size ← word64 payload (272 + index * 8)
    let stride ← word64 payload (400 + index * 8)
    return if index ≥ count.toNat then !(id != 0 || offset != 0 || size != 0 || stride != 0)
      else !((id != 0 && !handleExpect id .buffer) || (hasSizes == 0 && size != 0) ||
        (hasStrides == 0 && stride != 0))
  return !(count == 0 || count > 16 || hasSizes > 1 || hasStrides > 1 ||
    (opcode == Opcode.bindVertexBuffers.code && (hasSizes != 0 || hasStrides != 0))) && bindings

def walkBindIndexBuffer (opcode : UInt16) (payload : Buffer) : Walk Bool := do
  let id ← word64 payload 0
  let size ← word64 payload 16
  return !((id != 0 && !handleExpect id .buffer) || (id != 0 && size == 0) ||
    (opcode == Opcode.bindIndexBuffer.code && size != 0xffffffffffffffff) || (← word32 payload 28) != 0)

def walkDrawIndexed (payload : Buffer) : Walk Bool := return (← word32 payload 20) == 0

def walkDrawIndirect (opcode : UInt16) (payload : Buffer) : Walk Bool := do
  let count ← word32 payload 16
  let stride ← word32 payload 20
  return !(!handleExpect (← word64 payload 0) .buffer || stride &&& 3 != 0 ||
    (count > 1 && stride < (if opcode == Opcode.drawIndexedIndirect.code then 20 else 16)) ||
    (← word64 payload 24) != 0)

def walkDrawIndirectCount (opcode : UInt16) (payload : Buffer) : Walk Bool := do
  let count ← word32 payload 32
  let stride ← word32 payload 36
  return !(!handleExpect (← word64 payload 0) .buffer || !handleExpect (← word64 payload 16) .buffer ||
    stride &&& 3 != 0 ||
    (count > 1 && stride < (if opcode == Opcode.drawIndexedIndirectCount.code then 20 else 16)) ||
    (← word64 payload 40) != 0)

def walkDynamicState (payload : Buffer) : Walk Bool := do
  let count ← word32 payload 4
  let kind ← word32 payload 0
  let idle ← every 8 fun index => return index < count.toNat || (← word32 payload (8 + index * 4)) == 0
  let values ← stores 8 8 fun index => word32 payload (8 + index * 4)
  return match DynamicStateKind.ofCode kind with
    | none => false
    | some kind => count == kind.expectedCount && idle && kind.valuesAreValid (slot values)

def walkClearDepthStencilImage (payload : Buffer) : Walk Bool := do
  let layout ← word32 payload 8
  let count ← word32 payload 12
  let imageId ← word64 payload 0
  let depth ← word32 payload 16
  let ranges ← every 4 fun index => do
    let valid ← walkImageRangeWire payload (24 + index * 24)
    let aspectMask ← word32 payload (24 + index * 24)
    let idle ← walkRangeIsZero payload (24 + index * 24)
    return if index < count.toNat then !(!valid || aspectMask &&& ~~~6 != 0) else idle
  return !(!handleExpect imageId .image || (layout != 1 && layout != 7) || count == 0 || count > 4 ||
    !floatWordIsFinite depth) && ranges

def walkClearAttachments (payload : Buffer) : Walk Bool := do
  let attachmentCount ← word32 payload 0
  let rectCount ← word32 payload 4
  let attachments ← every 8 fun index => do
    let aspectMask ← word32 payload (8 + index * 24)
    let idle ← walkZero payload (8 + index * 24) 24
    return if index < attachmentCount.toNat then !(aspectMask == 0 || aspectMask &&& ~~~7 != 0) else idle
  let rects ← every 8 fun index => do
    let width ← word32 payload (8 + 8 * 24 + index * 24 + 8)
    let height ← word32 payload (8 + 8 * 24 + index * 24 + 12)
    let layerCount ← word32 payload (8 + 8 * 24 + index * 24 + 20)
    let idle ← walkZero payload (8 + 8 * 24 + index * 24) 24
    return if index < rectCount.toNat then !(width == 0 || height == 0 || layerCount == 0) else idle
  return !(attachmentCount == 0 || attachmentCount > 8 || rectCount == 0 || rectCount > 8) && attachments &&
    rects

def walkUpdateBuffer (payload : Buffer) : Walk Bool := do
  let dataSize ← word32 payload 16
  return !(!handleExpect (← word64 payload 0) .buffer || (← word64 payload 8) &&& 3 != 0 || dataSize == 0 ||
    dataSize > 65536 || dataSize &&& 3 != 0 || (← word32 payload 20) != 0)

def walkQuery (payload : Buffer) : Walk Bool := do
  let stage ← word64 payload 8
  let count ← word32 payload 20
  let flags ← word32 payload 24
  let index ← word32 payload 28
  let poolId ← word64 payload 0
  let reserved ← word32 payload 36
  let kind ← word32 payload 32
  return !(!handleExpect poolId .queryPool || count == 0 || reserved != 0) &&
    match QueryKind.ofCode kind with
    | none => false
    | some .reset => stage == 0 && flags == 0 && index == 0
    | some .beginQuery => stage == 0 && count == 1 && flags &&& ~~~1 == 0 && index == 0
    | some .endQuery => stage == 0 && count == 1 && flags == 0 && index == 0
    | some .writeTimestamp | some .writeTimestamp2 =>
        stage != 0 && count == 1 && flags == 0 && index == 0
    | some .beginIndexed => stage == 0 && count == 1 && flags &&& ~~~1 == 0
    | some .endIndexed => stage == 0 && count == 1 && flags == 0

def walkVulkanBegin (payload : Buffer) : Walk Bool := do
  return !((← word32 payload 0) &&& ~~~1 != 0 || (← word32 payload 4) != 0)

def walkClearColorImage (payload : Buffer) : Walk Bool := do
  return !(!handleExpect (← word64 payload 0) .image || (← word64 payload 8) != 0)

def walkInitImageBarrier (payload : Buffer) : Walk Bool := do
  let count ← word32 payload 0
  let reserved ← word32 payload 4
  let images ← every 4 fun index => do
    let imageId ← word64 payload (8 + index * 8)
    let distinct ← every index fun earlier => return imageId != (← word64 payload (8 + earlier * 8))
    return if index ≥ count.toNat then imageId == 0 else handleExpect imageId .image && distinct
  return !(count == 0 || count > 4 || reserved != 0) && images

def walkPayload (opcode : UInt16) (payload : Buffer) : Walk Bool :=
  match Opcode.ofCode opcode with
  | none => return false
  | some .beginRendering => walkBeginRendering payload
  | some .bindGraphicsPipeline => walkBindGraphicsPipeline payload
  | some .setViewport => walkSetViewport payload
  | some .setScissor => walkSetScissor payload
  | some .draw => walkDraw payload
  | some .endRendering => return true
  | some .fillBuffer => walkFillBuffer payload
  | some .bufferHostReadBarrier => walkBufferHostReadBarrier payload
  | some .pushRotation => walkPushRotation payload
  | some .imageBarrier2 => walkImageBarrier2 payload
  | some .clearColorImageGeneral => walkClearColorImageGeneral payload
  | some .bindDescriptorSets => walkBindDescriptorSets payload
  | some .pushConstants => walkPushConstants payload
  | some .copyBuffer2 | some .copyBufferToImage2 | some .copyImageToBuffer2 | some .copyImage2
  | some .blitImage2 | some .resolveImage2 => walkTransfer opcode payload
  | some .bindVertexBuffers | some .bindVertexBuffers2 => walkBindVertexBuffers opcode payload
  | some .bindIndexBuffer | some .bindIndexBuffer2 => walkBindIndexBuffer opcode payload
  | some .drawIndexed => walkDrawIndexed payload
  | some .drawIndirect | some .drawIndexedIndirect => walkDrawIndirect opcode payload
  | some .drawIndirectCount | some .drawIndexedIndirectCount => walkDrawIndirectCount opcode payload
  | some .dynamicState => walkDynamicState payload
  | some .clearDepthStencilImage => walkClearDepthStencilImage payload
  | some .clearAttachments => walkClearAttachments payload
  | some .updateBuffer => walkUpdateBuffer payload
  | some .query => walkQuery payload
  | some .vulkanBegin => walkVulkanBegin payload
  | some .clearColorImage => walkClearColorImage payload
  | some .initImageBarrier => walkInitImageBarrier payload
  | some .vulkanEnd => return true

theorem walkDynamicState_value (payload : Buffer) :
    (walkDynamicState payload).value = .ok (validateDynamicState payload) := by
  show Except.ok _ = Except.ok _
  congr 1
  simp only [validateDynamicState]
  cases DynamicStateKind.ofCode (getU32 payload 0) with
  | none => rfl
  | some kind => cases kind <;> rfl

theorem walkPayload_value (opcode : UInt16) (payload : Buffer) :
    (walkPayload opcode payload).value = .ok (validatePayload opcode payload) := by
  simp only [walkPayload, validatePayload]
  cases Opcode.ofCode opcode with
  | none => rfl
  | some known =>
      cases known
      case dynamicState => exact walkDynamicState_value payload
      all_goals rfl

def walkImageBarrier2Length (payload : Buffer) (payloadLength : Nat) : Walk Bool :=
  if payloadLength < 16 then return false
  else do
    let memoryCount ← word32 payload 4
    let bufferCount ← word32 payload 8
    let imageCount ← word32 payload 12
    return memoryCount ≤ 64 && bufferCount ≤ 256 && imageCount ≤ 2048 &&
      payloadLength == barrierPayloadSize memoryCount.toNat bufferCount.toNat imageCount.toNat

def walkUpdateBufferLength (payload : Buffer) (payloadLength : Nat) : Walk Bool :=
  if payloadLength < 24 then return false
  else do
    let dataSize ← word32 payload 16
    return dataSize != 0 && dataSize ≤ 65536 && dataSize &&& 3 == 0 && payloadLength == 24 + dataSize.toNat

def walkTransferLength (payload : Buffer) (payloadLength : Nat) : Walk Bool :=
  if payloadLength < 32 then return false
  else do
    let count ← word32 payload 28
    return count != 0 && count ≤ 16 && payloadLength == transferPayloadSize count.toNat

def walkPayloadLength (opcode : UInt16) (payload : Buffer) (payloadLength : Nat) : Walk Bool :=
  match Opcode.ofCode opcode with
  | none => return false
  | some .imageBarrier2 => walkImageBarrier2Length payload payloadLength
  | some .updateBuffer => walkUpdateBufferLength payload payloadLength
  | some known =>
      if !transferOpcodeIsValid opcode then return payloadLength == expectedPayloadSize known
      else walkTransferLength payload payloadLength

theorem walkPayloadLength_value (opcode : UInt16) (payload : Buffer) (payloadLength : Nat) :
    (walkPayloadLength opcode payload payloadLength).value = .ok
      (payloadLengthIsValid opcode payload payloadLength) := by
  have barrier : (walkImageBarrier2Length payload payloadLength).value = .ok
    (imageBarrier2LengthIsValid payload payloadLength) := by
    simp only [walkImageBarrier2Length, imageBarrier2LengthIsValid]
    split <;> rfl
  have update : (walkUpdateBufferLength payload payloadLength).value = .ok
    (updateBufferLengthIsValid payload payloadLength) := by
    simp only [walkUpdateBufferLength, updateBufferLengthIsValid]
    split <;> rfl
  have transfer : (walkTransferLength payload payloadLength).value = .ok
    (transferLengthIsValid payload payloadLength) := by
    simp only [walkTransferLength, transferLengthIsValid]
    split <;> rfl
  simp only [walkPayloadLength, payloadLengthIsValid]
  cases Opcode.ofCode opcode with
  | none => rfl
  | some known =>
      cases known
      case imageBarrier2 => exact barrier
      case updateBuffer => exact update
      all_goals
        by_cases plain : transferOpcodeIsValid opcode = true
        · simp only [plain, Bool.not_true, Bool.false_eq_true, ↓reduceIte]
          exact transfer
        · simp only [plain, Bool.not_false, ↓reduceIte]
          rfl

/-! ## The decoders -/

def walkImageRange (payload : Buffer) (input : Nat) : Walk ImageSubresourceRange := do
  return {
    aspectMask := ← word32 payload input
    baseMipLevel := ← word32 payload (input + 4)
    levelCount := ← word32 payload (input + 8)
    baseArrayLayer := ← word32 payload (input + 12)
    layerCount := ← word32 payload (input + 16) }

def walkTransferLayers (payload : Buffer) (input : Nat) : Walk ImageSubresourceLayers := do
  return {
    aspectMask := ← word32 payload input
    mipLevel := ← word32 payload (input + 4)
    baseArrayLayer := ← word32 payload (input + 8)
    layerCount := ← word32 payload (input + 12) }

def BeginRenderingCommand.walk (payload : Buffer) : Walk BeginRenderingCommand := do
  let colorCount ← word32 payload 28
  let hasDepth ← word32 payload 32
  let hasStencil ← word32 payload 36
  let depth ← walkRenderingAttachment payload (40 + 8 * 56)
  let stencil ← walkRenderingAttachment payload (40 + (8 + 1) * 56)
  return {
    flags := ← word32 payload 0
    renderOffsetX := (← word32 payload 4).toInt32
    renderOffsetY := (← word32 payload 8).toInt32
    width := ← word32 payload 12
    height := ← word32 payload 16
    layerCount := ← word32 payload 20
    viewMask := ← word32 payload 24
    colorAttachmentCount := colorCount
    hasDepthAttachment := hasDepth
    hasStencilAttachment := hasStencil
    colorAttachments := ← stores 8 colorCount.toNat fun index => walkRenderingAttachment payload
      (40 + index * 56)
    depthAttachment := if hasDepth != 0 then depth else default
    stencilAttachment := if hasStencil != 0 then stencil else default }

def BindGraphicsPipelineCommand.walk (payload : Buffer) : Walk BindGraphicsPipelineCommand := do
  return { pipelineId := ← word64 payload 0 }

def PushRotationCommand.walk (payload : Buffer) : Walk PushRotationCommand := do
  return {
    pipelineLayoutId := ← word64 payload 0
    angleRadians := ← word32 payload 8
    aspectRatio := ← word32 payload 12 }

def SetViewportCommand.walk (payload : Buffer) : Walk SetViewportCommand := do
  return {
    x := ← word32 payload 0
    y := ← word32 payload 4
    width := ← word32 payload 8
    height := ← word32 payload 12
    minimumDepth := ← word32 payload 16
    maximumDepth := ← word32 payload 20 }

def SetScissorCommand.walk (payload : Buffer) : Walk SetScissorCommand := do
  return {
    x := (← word32 payload 0).toInt32
    y := (← word32 payload 4).toInt32
    width := ← word32 payload 8
    height := ← word32 payload 12 }

def DrawCommand.walk (payload : Buffer) : Walk DrawCommand := do
  return {
    vertexCount := ← word32 payload 0
    instanceCount := ← word32 payload 4
    firstVertex := ← word32 payload 8
    firstInstance := ← word32 payload 12 }

def FillBufferCommand.walk (payload : Buffer) : Walk FillBufferCommand := do
  return {
    bufferId := ← word64 payload 0
    offset := ← word64 payload 8
    size := ← word64 payload 16
    data := ← word32 payload 24 }

def BufferHostReadBarrierCommand.walk (payload : Buffer) : Walk BufferHostReadBarrierCommand := do
  return {
    bufferId := ← word64 payload 0
    offset := ← word64 payload 8
    size := ← word64 payload 16 }

def VulkanBeginCommand.walk (payload : Buffer) : Walk VulkanBeginCommand := do
  return { flags := ← word32 payload 0 }

def ClearColorImageCommand.walk (payload : Buffer) : Walk ClearColorImageCommand := do
  return { imageId := ← word64 payload 0 }

def InitImageBarrierCommand.walk (payload : Buffer) : Walk InitImageBarrierCommand := do
  let count ← word32 payload 0
  return {
    imageCount := count
    imageIds := ← stores 4 count.toNat fun index => word64 payload (8 + index * 8) }

def walkMemoryBarrier2 (payload : Buffer) (input : Nat) : Walk MemoryBarrier2 := do
  return {
    sourceStageMask := ← word64 payload input
    sourceAccessMask := ← word64 payload (input + 8)
    destinationStageMask := ← word64 payload (input + 16)
    destinationAccessMask := ← word64 payload (input + 24) }

def walkBufferBarrier2 (payload : Buffer) (input : Nat) : Walk BufferBarrier2 := do
  return {
    sourceStageMask := ← word64 payload input
    sourceAccessMask := ← word64 payload (input + 8)
    destinationStageMask := ← word64 payload (input + 16)
    destinationAccessMask := ← word64 payload (input + 24)
    sourceQueueFamilyIndex := ← word32 payload (input + 32)
    destinationQueueFamilyIndex := ← word32 payload (input + 36)
    bufferId := ← word64 payload (input + 40)
    offset := ← word64 payload (input + 48)
    size := ← word64 payload (input + 56) }

def walkImageBarrierWire (payload : Buffer) (input : Nat) : Walk ImageBarrier2 := do
  return {
    sourceStageMask := ← word64 payload input
    sourceAccessMask := ← word64 payload (input + 8)
    destinationStageMask := ← word64 payload (input + 16)
    destinationAccessMask := ← word64 payload (input + 24)
    oldLayout := ← word32 payload (input + 32)
    newLayout := ← word32 payload (input + 36)
    sourceQueueFamilyIndex := ← word32 payload (input + 40)
    destinationQueueFamilyIndex := ← word32 payload (input + 44)
    imageId := ← word64 payload (input + 48)
    range := ← walkImageRange payload (input + 56) }

def ImageBarrier2Command.walk (payload : Buffer) : Walk ImageBarrier2Command := do
  let memoryCount ← word32 payload 4
  let bufferCount ← word32 payload 8
  let imageCount ← word32 payload 12
  let bufferBase := 16 + memoryCount.toNat * 32
  let imageBase := bufferBase + bufferCount.toNat * 64
  return {
    dependencyFlags := ← word32 payload 0
    memoryCount := memoryCount
    bufferCount := bufferCount
    imageCount := imageCount
    memory := ← stores 64 memoryCount.toNat fun index => walkMemoryBarrier2 payload (16 + index * 32)
    buffers := ← stores 256 bufferCount.toNat fun index => walkBufferBarrier2 payload
      (bufferBase + index * 64)
    images := ← stores 2048 imageCount.toNat fun index => walkImageBarrierWire payload
      (imageBase + index * 80) }

def ClearColorImageGeneralCommand.walk (payload : Buffer) : Walk ClearColorImageGeneralCommand := do
  let count ← word32 payload 12
  return {
    imageId := ← word64 payload 0
    imageLayout := ← word32 payload 8
    rangeCount := count
    colorWords := ← stores 4 4 fun index => word32 payload (16 + index * 4)
    ranges := ← stores 4 count.toNat fun index => walkImageRange payload (32 + index * 24) }

def BindDescriptorSetsCommand.walk (payload : Buffer) : Walk BindDescriptorSetsCommand := do
  let setCount ← word32 payload 16
  let dynamicCount ← word32 payload 20
  return {
    pipelineLayoutId := ← word64 payload 0
    pipelineBindPoint := ← word32 payload 8
    firstSet := ← word32 payload 12
    descriptorSetCount := setCount
    dynamicOffsetCount := dynamicCount
    descriptorSetIds := ← stores 8 setCount.toNat fun index => word64 payload (24 + index * 8)
    dynamicOffsets := ← stores 32 dynamicCount.toNat fun index => word32 payload (24 + 8 * 8 + index * 4) }

def PushConstantsCommand.walk (payload : Buffer) : Walk PushConstantsCommand := do
  let size ← word32 payload 16
  return {
    pipelineLayoutId := ← word64 payload 0
    stageFlags := ← word32 payload 8
    offset := ← word32 payload 12
    size := size
    data := ← stores 256 size.toNat fun index => byte payload (24 + index) }

def walkOffset (payload : Buffer) (x y z : Nat) : Walk Offset3D := do
  return { x := (← word32 payload x).toInt32, y := (← word32 payload y).toInt32, z :=
    (← word32 payload z).toInt32 }

def walkTransferRegion (payload : Buffer) (wire : Nat) : Walk TransferRegion := do
  return {
    sourceBufferOffset := ← word64 payload wire
    destinationBufferOffset := ← word64 payload (wire + 8)
    size := ← word64 payload (wire + 16)
    bufferRowLength := ← word32 payload (wire + 24)
    bufferImageHeight := ← word32 payload (wire + 28)
    sourceLayers := ← walkTransferLayers payload (wire + 32)
    destinationLayers := ← walkTransferLayers payload (wire + 48)
    sourceOffsets := ← stores 2 2 fun offset =>
      walkOffset payload (wire + 64 + offset * 12) (wire + 68 + offset * 12) (wire + 72 + offset * 12)
    destinationOffsets := ← stores 2 2 fun offset =>
      walkOffset payload (wire + 88 + offset * 12) (wire + 92 + offset * 12) (wire + 96 + offset * 12)
    extent := {
      width := ← word32 payload (wire + 112)
      height := ← word32 payload (wire + 116)
      depth := ← word32 payload (wire + 120) } }

def TransferCommand.walk (payload : Buffer) : Walk TransferCommand := do
  let count ← word32 payload 28
  return {
    sourceId := ← word64 payload 0
    destinationId := ← word64 payload 8
    sourceLayout := ← word32 payload 16
    destinationLayout := ← word32 payload 20
    filter := ← word32 payload 24
    regionCount := count
    regions := ← stores 16 count.toNat fun index => walkTransferRegion payload (32 + index * 128) }

def BindVertexBuffersCommand.walk (payload : Buffer) : Walk BindVertexBuffersCommand := do
  let count ← word32 payload 4
  return {
    firstBinding := ← word32 payload 0
    bindingCount := count
    hasSizes := ← word32 payload 8
    hasStrides := ← word32 payload 12
    bufferIds := ← stores 16 count.toNat fun index => word64 payload (16 + index * 8)
    offsets := ← stores 16 count.toNat fun index => word64 payload (144 + index * 8)
    sizes := ← stores 16 count.toNat fun index => word64 payload (272 + index * 8)
    strides := ← stores 16 count.toNat fun index => word64 payload (400 + index * 8) }

def BindIndexBufferCommand.walk (payload : Buffer) : Walk BindIndexBufferCommand := do
  return {
    bufferId := ← word64 payload 0
    offset := ← word64 payload 8
    size := ← word64 payload 16
    indexType := ← word32 payload 24 }

def DrawIndexedCommand.walk (payload : Buffer) : Walk DrawIndexedCommand := do
  return {
    indexCount := ← word32 payload 0
    instanceCount := ← word32 payload 4
    firstIndex := ← word32 payload 8
    vertexOffset := (← word32 payload 12).toInt32
    firstInstance := ← word32 payload 16 }

def DrawIndirectCommand.walk (payload : Buffer) : Walk DrawIndirectCommand := do
  return {
    bufferId := ← word64 payload 0
    offset := ← word64 payload 8
    drawCount := ← word32 payload 16
    stride := ← word32 payload 20 }

def DrawIndirectCountCommand.walk (payload : Buffer) : Walk DrawIndirectCountCommand := do
  return {
    bufferId := ← word64 payload 0
    offset := ← word64 payload 8
    countBufferId := ← word64 payload 16
    countBufferOffset := ← word64 payload 24
    maximumDrawCount := ← word32 payload 32
    stride := ← word32 payload 36 }

def DynamicStateCommand.walk (payload : Buffer) : Walk DynamicStateCommand := do
  let kind ← word32 payload 0
  let count ← word32 payload 4
  refuseIf (count > 8) .eproto
  return {
    kind := kind
    valueCount := count
    values := ← stores 8 count.toNat fun index => word32 payload (8 + index * 4) }

def ClearDepthStencilImageCommand.walk (payload : Buffer) : Walk ClearDepthStencilImageCommand := do
  let imageId ← word64 payload 0
  let layout ← word32 payload 8
  let count ← word32 payload 12
  let depthWord ← word32 payload 16
  let stencil ← word32 payload 20
  refuseIf (count > 4) .eproto
  return {
    imageId := imageId
    imageLayout := layout
    rangeCount := count
    depthWord := depthWord
    stencil := stencil
    ranges := ← stores 4 count.toNat fun index => walkImageRange payload (24 + index * 24) }

def walkClearAttachment (payload : Buffer) (input : Nat) : Walk ClearAttachment := do
  return {
    aspectMask := ← word32 payload input
    colorAttachment := ← word32 payload (input + 4)
    clearWords := ← stores 4 4 fun word => word32 payload (input + 8 + word * 4) }

def walkClearRect (payload : Buffer) (input : Nat) : Walk ClearRect := do
  return {
    offsetX := (← word32 payload input).toInt32
    offsetY := (← word32 payload (input + 4)).toInt32
    width := ← word32 payload (input + 8)
    height := ← word32 payload (input + 12)
    baseArrayLayer := ← word32 payload (input + 16)
    layerCount := ← word32 payload (input + 20) }

def ClearAttachmentsCommand.walk (payload : Buffer) : Walk ClearAttachmentsCommand := do
  let attachmentCount ← word32 payload 0
  let rectCount ← word32 payload 4
  refuseIf (attachmentCount > 8 ∨ rectCount > 8) .eproto
  return {
    attachmentCount := attachmentCount
    rectCount := rectCount
    attachments := ← stores 8 attachmentCount.toNat fun index => walkClearAttachment payload (8 + index * 24)
    rects := ← stores 8 rectCount.toNat fun index => walkClearRect payload (8 + 8 * 24 + index * 24) }

def UpdateBufferCommand.walk (payload : Buffer) : Walk UpdateBufferCommand := do
  let size ← word32 payload 16
  return {
    bufferId := ← word64 payload 0
    offset := ← word64 payload 8
    dataSize := size
    data := ← stores 65536 size.toNat fun index => byte payload (24 + index) }

def QueryCommand.walk (payload : Buffer) : Walk QueryCommand := do
  return {
    queryPoolId := ← word64 payload 0
    stageMask := ← word64 payload 8
    firstQuery := ← word32 payload 16
    queryCount := ← word32 payload 20
    flags := ← word32 payload 24
    index := ← word32 payload 28
    kind := ← word32 payload 32 }

/-- The `bvb_command_decode_*` functions. -/
inductive CommandDecoder where
  | beginRendering
  | bindGraphicsPipeline
  | pushRotation
  | setViewport
  | setScissor
  | draw
  | fillBuffer
  | bufferHostReadBarrier
  | vulkanBegin
  | clearColorImage
  | initImageBarrier
  | imageBarrier2
  | clearColorImageGeneral
  | bindDescriptorSets
  | pushConstants
  | transfer
  | bindVertexBuffers
  | bindIndexBuffer
  | drawIndexed
  | drawIndirect
  | drawIndirectCount
  | dynamicState
  | clearDepthStencilImage
  | clearAttachments
  | updateBuffer
  | query
  deriving DecidableEq, Repr

def walkFixed {α : Type} (opcode : Opcode) (walk : Buffer → Walk α) (record : CommandRecord) : Walk α := do
  refuseIf (record.opcode ≠ opcode.code ∨ record.payloadLength ≠ expectedPayloadSize opcode) .einval
  walk record.payload

def walkEither {α : Type} (first second : Opcode) (walk : Buffer → Walk α) (record : CommandRecord) :
    Walk α := do
  refuseIf ((record.opcode ≠ first.code ∧ record.opcode ≠ second.code) ∨
    record.payloadLength ≠ expectedPayloadSize first) .einval
  walk record.payload

def walkSized {α : Type} (accepts : UInt16 → Bool) (walk : Buffer → Walk α) (record : CommandRecord) :
    Walk α := do
  refuseIf (accepts record.opcode = false) .einval
  let valid ← walkPayloadLength record.opcode record.payload record.payloadLength
  refuseIf (valid = false) .einval
  walk record.payload

def walkDecodeQuery (record : CommandRecord) : Walk QueryCommand := do
  let command ← walkFixed .query QueryCommand.walk record
  let valid ← walkPayload record.opcode record.payload
  refuseIf (valid = false) .eproto
  return command

namespace CommandDecoder

def decode (decoder : CommandDecoder) (record : CommandRecord) : Except Errno Command :=
  match decoder with
  | beginRendering => (commandDecodeBeginRendering record).map .beginRendering
  | bindGraphicsPipeline => (commandDecodeBindGraphicsPipeline record).map .bindGraphicsPipeline
  | pushRotation => (commandDecodePushRotation record).map .pushRotation
  | setViewport => (commandDecodeSetViewport record).map .setViewport
  | setScissor => (commandDecodeSetScissor record).map .setScissor
  | draw => (commandDecodeDraw record).map .draw
  | fillBuffer => (commandDecodeFillBuffer record).map .fillBuffer
  | bufferHostReadBarrier => (commandDecodeBufferHostReadBarrier record).map .bufferHostReadBarrier
  | vulkanBegin => (commandDecodeVulkanBegin record).map .vulkanBegin
  | clearColorImage => (commandDecodeClearColorImage record).map .clearColorImage
  | initImageBarrier => (commandDecodeInitImageBarrier record).map .initImageBarrier
  | imageBarrier2 => (commandDecodeImageBarrier2 record).map .imageBarrier2
  | clearColorImageGeneral => (commandDecodeClearColorImageGeneral record).map .clearColorImageGeneral
  | bindDescriptorSets => (commandDecodeBindDescriptorSets record).map .bindDescriptorSets
  | pushConstants => (commandDecodePushConstants record).map .pushConstants
  | transfer => (commandDecodeTransfer record).map (.transfer record.opcode)
  | bindVertexBuffers => (commandDecodeBindVertexBuffers record).map (.bindVertexBuffers record.opcode)
  | bindIndexBuffer => (commandDecodeBindIndexBuffer record).map (.bindIndexBuffer record.opcode)
  | drawIndexed => (commandDecodeDrawIndexed record).map .drawIndexed
  | drawIndirect => (commandDecodeDrawIndirect record).map (.drawIndirect record.opcode)
  | drawIndirectCount => (commandDecodeDrawIndirectCount record).map (.drawIndirectCount record.opcode)
  | dynamicState => (commandDecodeDynamicState record).map .dynamicState
  | clearDepthStencilImage => (commandDecodeClearDepthStencilImage record).map .clearDepthStencilImage
  | clearAttachments => (commandDecodeClearAttachments record).map .clearAttachments
  | updateBuffer => (commandDecodeUpdateBuffer record).map .updateBuffer
  | query => (commandDecodeQuery record).map .query

def walk (decoder : CommandDecoder) (record : CommandRecord) : Walk Command :=
  match decoder with
  | beginRendering => (walkFixed .beginRendering BeginRenderingCommand.walk record).map .beginRendering
  | bindGraphicsPipeline =>
    (walkFixed .bindGraphicsPipeline BindGraphicsPipelineCommand.walk record).map .bindGraphicsPipeline
  | pushRotation => (walkFixed .pushRotation PushRotationCommand.walk record).map .pushRotation
  | setViewport => (walkFixed .setViewport SetViewportCommand.walk record).map .setViewport
  | setScissor => (walkFixed .setScissor SetScissorCommand.walk record).map .setScissor
  | draw => (walkFixed .draw DrawCommand.walk record).map .draw
  | fillBuffer => (walkFixed .fillBuffer FillBufferCommand.walk record).map .fillBuffer
  | bufferHostReadBarrier =>
      (walkFixed .bufferHostReadBarrier BufferHostReadBarrierCommand.walk record).map .bufferHostReadBarrier
  | vulkanBegin => (walkFixed .vulkanBegin VulkanBeginCommand.walk record).map .vulkanBegin
  | clearColorImage => (walkFixed .clearColorImage ClearColorImageCommand.walk record).map .clearColorImage
  | initImageBarrier =>
    (walkFixed .initImageBarrier InitImageBarrierCommand.walk record).map .initImageBarrier
  | imageBarrier2 => (walkSized
    (· == Opcode.imageBarrier2.code) ImageBarrier2Command.walk record).map .imageBarrier2
  | clearColorImageGeneral =>
      (walkFixed .clearColorImageGeneral ClearColorImageGeneralCommand.walk record).map .clearColorImageGeneral
  | bindDescriptorSets =>
    (walkFixed .bindDescriptorSets BindDescriptorSetsCommand.walk record).map .bindDescriptorSets
  | pushConstants => (walkFixed .pushConstants PushConstantsCommand.walk record).map .pushConstants
  | transfer => (walkSized transferOpcodeIsValid TransferCommand.walk record).map (.transfer record.opcode)
  | bindVertexBuffers =>
      (walkEither .bindVertexBuffers .bindVertexBuffers2 BindVertexBuffersCommand.walk record).map
        (.bindVertexBuffers record.opcode)
  | bindIndexBuffer =>
      (walkEither .bindIndexBuffer .bindIndexBuffer2 BindIndexBufferCommand.walk record).map
        (.bindIndexBuffer record.opcode)
  | drawIndexed => (walkFixed .drawIndexed DrawIndexedCommand.walk record).map .drawIndexed
  | drawIndirect =>
      (walkEither .drawIndirect .drawIndexedIndirect DrawIndirectCommand.walk record).map
        (.drawIndirect record.opcode)
  | drawIndirectCount =>
      (walkEither .drawIndirectCount .drawIndexedIndirectCount DrawIndirectCountCommand.walk record).map
        (.drawIndirectCount record.opcode)
  | dynamicState => (walkFixed .dynamicState DynamicStateCommand.walk record).map .dynamicState
  | clearDepthStencilImage =>
      (walkFixed .clearDepthStencilImage ClearDepthStencilImageCommand.walk record).map .clearDepthStencilImage
  | clearAttachments =>
    (walkFixed .clearAttachments ClearAttachmentsCommand.walk record).map .clearAttachments
  | updateBuffer => (walkSized
    (· == Opcode.updateBuffer.code) UpdateBufferCommand.walk record).map .updateBuffer
  | query => (walkDecodeQuery record).map .query

end CommandDecoder

/-! ### The walks decode -/

section Values

variable {α : Type} {read : Buffer → α} {walk : Buffer → Walk α} (record : CommandRecord)

theorem walkFixed_value (opcode : Opcode) (same : ∀ payload, (walk payload).value = .ok (read payload)) :
    (walkFixed opcode walk record).value = decodeFixed opcode read record := by
  simp only [decodeFixed, Bool.or_eq_true, bne_iff_ne]
  by_cases wrong : record.opcode ≠ opcode.code ∨ record.payloadLength ≠ expectedPayloadSize opcode
  · rw [if_pos wrong]
    exact refuse_stops wrong
  · rw [if_neg wrong, ← same]
    exact refuse_passes wrong

theorem walkFixed_checked (opcode : Opcode) (bad : α → Prop) [DecidablePred bad]
    (same : ∀ payload, (walk payload).value = if bad (read payload) then .error .eproto else .ok
      (read payload)) :
    (walkFixed opcode walk record).value =
      (decodeFixed opcode read record).bind fun command =>
        if bad command then .error .eproto else .ok command := by
  simp only [decodeFixed, Bool.or_eq_true, bne_iff_ne]
  by_cases wrong : record.opcode ≠ opcode.code ∨ record.payloadLength ≠ expectedPayloadSize opcode
  · rw [if_pos wrong]
    exact refuse_stops wrong
  · rw [if_neg wrong]
    exact (refuse_passes wrong).trans (same record.payload)

theorem walkEither_value (first second : Opcode) (same : ∀ payload, (walk payload).value = .ok
    (read payload)) :
    (walkEither first second walk record).value = decodeEither first second read record := by
  simp only [decodeEither, Bool.or_eq_true, Bool.and_eq_true, bne_iff_ne]
  by_cases wrong : (record.opcode ≠ first.code ∧ record.opcode ≠ second.code) ∨
      record.payloadLength ≠ expectedPayloadSize first
  · rw [if_pos wrong]
    exact refuse_stops wrong
  · rw [if_neg wrong, ← same]
    exact refuse_passes wrong

theorem walkSized_value (accepts : UInt16 → Bool) (same : ∀ payload, (walk payload).value = .ok
    (read payload)) :
    (walkSized accepts walk record).value = decodeSized accepts read record := by
  have sized := walkPayloadLength_value record.opcode record.payload record.payloadLength
  simp only [decodeSized, Bool.or_eq_true, Bool.not_eq_true']
  by_cases foreign : accepts record.opcode = false
  · rw [if_pos (.inl foreign)]
    exact refuse_stops foreign
  · by_cases odd : payloadLengthIsValid record.opcode record.payload record.payloadLength = false
    · rw [if_pos (.inr odd)]
      refine (refuse_passes foreign).trans ?_
      rw [bind_value sized]
      exact refuse_stops odd
    · rw [if_neg (not_or.mpr ⟨foreign, odd⟩), ← same]
      refine (refuse_passes foreign).trans ?_
      rw [bind_value sized]
      exact refuse_passes odd

end Values

theorem DynamicStateCommand.walk_value (payload : Buffer) : (walk payload).value =
    if (read payload).valueCount > 8 then .error .eproto else .ok (read payload) := by
  show _ = if getU32 payload 4 > 8 then _ else _
  by_cases many : getU32 payload 4 > 8
  · rw [if_pos many]
    exact refuse_stops many
  · rw [if_neg many]
    exact refuse_passes many

theorem ClearDepthStencilImageCommand.walk_value (payload : Buffer) : (walk payload).value =
    if (read payload).rangeCount > 4 then .error .eproto else .ok (read payload) := by
  show _ = if getU32 payload 12 > 4 then _ else _
  by_cases many : getU32 payload 12 > 4
  · rw [if_pos many]
    exact refuse_stops many
  · rw [if_neg many]
    exact refuse_passes many

theorem ClearAttachmentsCommand.walk_value (payload : Buffer) : (walk payload).value =
    if (read payload).attachmentCount > 8 ∨ (read payload).rectCount > 8 then .error .eproto else .ok
      (read payload) := by
  show _ = if getU32 payload 0 > 8 ∨ getU32 payload 4 > 8 then _ else _
  by_cases many : getU32 payload 0 > 8 ∨ getU32 payload 4 > 8
  · rw [if_pos many]
    exact refuse_stops many
  · rw [if_neg many]
    exact refuse_passes many

theorem walkDecodeQuery_value (record : CommandRecord) :
    (walkDecodeQuery record).value = commandDecodeQuery record := by
  have fixed : (walkFixed .query QueryCommand.walk record).value =
    decodeFixed .query QueryCommand.read record :=
    walkFixed_value record .query fun payload => rfl
  have valid := walkPayload_value record.opcode record.payload
  simp only [commandDecodeQuery]
  cases decoded : decodeFixed .query QueryCommand.read record with
  | error code =>
      rw [decoded] at fixed
      exact bind_error fixed
  | ok command =>
      rw [decoded] at fixed
      refine (bind_value fixed).trans ((bind_value valid).trans ?_)
      by_cases passes : validatePayload record.opcode record.payload = false
      · rw [passes]
        rfl
      · rw [Bool.not_eq_false] at passes
        rw [passes]
        rfl

theorem CommandDecoder.walk_value (decoder : CommandDecoder) (record : CommandRecord) :
    (decoder.walk record).value = decoder.decode record := by
  cases decoder
  case dynamicState =>
    exact congrArg (Except.map _) (walkFixed_checked record _ _ DynamicStateCommand.walk_value)
  case clearDepthStencilImage =>
    exact congrArg (Except.map _) (walkFixed_checked record _ _ ClearDepthStencilImageCommand.walk_value)
  case clearAttachments =>
    have checked := walkFixed_checked record .clearAttachments
      (fun command : ClearAttachmentsCommand => command.attachmentCount > 8 ∨ command.rectCount > 8)
      ClearAttachmentsCommand.walk_value
    refine congrArg (Except.map _) (checked.trans ?_)
    simp only [commandDecodeClearAttachments, Bool.or_eq_true, decide_eq_true_eq]
    rfl
  case query => exact congrArg (Except.map _) (walkDecodeQuery_value record)
  case imageBarrier2 | transfer | updateBuffer =>
    exact congrArg (Except.map _) (walkSized_value record _ fun payload => rfl)
  case bindVertexBuffers | bindIndexBuffer | drawIndirect | drawIndirectCount =>
    exact congrArg (Except.map _) (walkEither_value record _ _ fun payload => rfl)
  all_goals exact congrArg (Except.map _) (walkFixed_value record _ fun payload => rfl)

end VulkanBridge
