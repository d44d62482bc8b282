import VulkanBridge.CommandAppend

/-!
The validator of a command batch: the payload length and the payload of every
record are checked against the opcode, each read at the byte offsets of
`validate_payload`.
-/

namespace VulkanBridge

open ByteBuffer

def expectedPayloadSize : Opcode → Nat
  | .beginRendering => 600
  | .bindGraphicsPipeline => 16
  | .setViewport => 24
  | .setScissor => 16
  | .draw => 16
  | .endRendering => 0
  | .fillBuffer => 32
  | .bufferHostReadBarrier => 24
  | .pushRotation => 16
  | .imageBarrier2 => 182288
  | .clearColorImageGeneral => 128
  | .bindDescriptorSets => 216
  | .pushConstants => 280
  | .copyBuffer2 | .copyBufferToImage2 | .copyImageToBuffer2 | .copyImage2 | .blitImage2
  | .resolveImage2 => 2080
  | .bindVertexBuffers | .bindVertexBuffers2 => 528
  | .bindIndexBuffer | .bindIndexBuffer2 => 32
  | .drawIndexed => 24
  | .drawIndirect | .drawIndexedIndirect => 32
  | .drawIndirectCount | .drawIndexedIndirectCount => 48
  | .dynamicState => 40
  | .clearDepthStencilImage => 120
  | .clearAttachments => 392
  | .updateBuffer => 65560
  | .query => 40
  | .vulkanBegin => 8
  | .clearColorImage => 16
  | .initImageBarrier => 40
  | .vulkanEnd => 0

def imageBarrier2LengthIsValid (payload : Buffer) (payloadLength : Nat) : Bool :=
  if payloadLength < 16 then false
  else
    let memoryCount := getU32 payload 4
    let bufferCount := getU32 payload 8
    let imageCount := getU32 payload 12
    memoryCount ≤ 64 && bufferCount ≤ 256 && imageCount ≤ 2048 &&
      payloadLength == barrierPayloadSize memoryCount.toNat bufferCount.toNat imageCount.toNat

def updateBufferLengthIsValid (payload : Buffer) (payloadLength : Nat) : Bool :=
  if payloadLength < 24 then false
  else
    let dataSize := getU32 payload 16
    dataSize != 0 && dataSize ≤ 65536 && dataSize &&& 3 == 0 && payloadLength == 24 + dataSize.toNat

def transferLengthIsValid (payload : Buffer) (payloadLength : Nat) : Bool :=
  if payloadLength < 32 then false
  else
    let count := getU32 payload 28
    count != 0 && count ≤ 16 && payloadLength == transferPayloadSize count.toNat

def payloadLengthIsValid (opcode : UInt16) (payload : Buffer) (payloadLength : Nat) : Bool :=
  match Opcode.ofCode opcode with
  | none => false
  | some .imageBarrier2 => imageBarrier2LengthIsValid payload payloadLength
  | some .updateBuffer => updateBufferLengthIsValid payload payloadLength
  | some known =>
      if !transferOpcodeIsValid opcode then payloadLength == expectedPayloadSize known
      else transferLengthIsValid payload payloadLength

def bytesAreZero (bytes : Buffer) (offset size : Nat) : Bool :=
  (List.range size).all fun index => bytes (offset + index) == 0

def decodeRenderingAttachment (payload : Buffer) (input : Nat) : RenderingAttachment :=
  { imageViewId := getU64 payload input
    resolveImageViewId := getU64 payload (input + 8)
    imageLayout := getU32 payload (input + 16)
    resolveMode := getU32 payload (input + 20)
    resolveImageLayout := getU32 payload (input + 24)
    loadOp := getU32 payload (input + 28)
    storeOp := getU32 payload (input + 32)
    feedbackLoopEnable := getU32 payload (input + 36)
    clearWords := fill 4 4 fun index => getU32 payload (input + 40 + index * 4) }

def validateImageRangeWire (payload : Buffer) (input : Nat) : Bool :=
  !(getU32 payload input == 0 || getU32 payload (input + 8) == 0 ||
    getU32 payload (input + 16) == 0 || getU32 payload (input + 20) != 0)

def imageRangeWireIsZero (payload : Buffer) (input : Nat) : Bool :=
  (List.range 6).all fun word => getU32 payload (input + word * 4) == 0

def validateBeginRendering (payload : Buffer) : Bool :=
  let colorCount := getU32 payload 28
  let hasDepth := getU32 payload 32
  let hasStencil := getU32 payload 36
  let depth := 40 + 8 * 56
  let stencil := depth + 56
  !(getU32 payload 12 == 0 || getU32 payload 16 == 0 || getU32 payload 20 == 0 || colorCount > 8 ||
      hasDepth > 1 || hasStencil > 1 || (colorCount == 0 && hasDepth == 0 && hasStencil == 0)) &&
    (List.range 8).all (fun index =>
      if index ≥ colorCount.toNat then bytesAreZero payload (40 + index * 56) 56
      else renderingAttachmentIsValid (decodeRenderingAttachment payload (40 + index * 56)) false) &&
    (if hasDepth != 0 then renderingAttachmentIsValid (decodeRenderingAttachment payload depth) true
      else bytesAreZero payload depth 56) &&
    (if hasStencil != 0 then renderingAttachmentIsValid (decodeRenderingAttachment payload stencil) true
      else bytesAreZero payload stencil 56)

def validateBindGraphicsPipeline (payload : Buffer) : Bool :=
  !(!handleExpect (getU64 payload 0) .pipeline || getU32 payload 8 != 0 || getU32 payload 12 != 0)

def validateSetViewport (payload : Buffer) : Bool :=
  (List.range 6).all (fun index => floatWordIsFinite (getU32 payload (index * 4))) &&
    !(Binary32.eq (getU32 payload 8) floatZero || Binary32.eq (getU32 payload 12) floatZero ||
      Binary32.lt (getU32 payload 16) floatZero || Binary32.lt floatOne (getU32 payload 16) ||
      Binary32.lt (getU32 payload 20) floatZero || Binary32.lt floatOne (getU32 payload 20) ||
      Binary32.lt (getU32 payload 20) (getU32 payload 16))

def validateSetScissor (payload : Buffer) : Bool := !(getU32 payload 8 == 0 || getU32 payload 12 == 0)

def validateDraw (payload : Buffer) : Bool := !(getU32 payload 0 == 0 || getU32 payload 4 == 0)

def validateFillBuffer (payload : Buffer) : Bool :=
  !(!handleExpect (getU64 payload 0) .buffer || getU64 payload 16 == 0 || getU64 payload 8 &&& 3 != 0 ||
    getU64 payload 16 &&& 3 != 0 || getU32 payload 28 != 0)

def validateBufferHostReadBarrier (payload : Buffer) : Bool :=
  !(!handleExpect (getU64 payload 0) .buffer || getU64 payload 16 == 0)

def validatePushRotation (payload : Buffer) : Bool :=
  !(!handleExpect (getU64 payload 0) .pipelineLayout || !floatWordIsFinite (getU32 payload 8) ||
    !floatWordIsFinite (getU32 payload 12) || Binary32.lt (getU32 payload 8) floatZero ||
    Binary32.le floatFullTurn (getU32 payload 8) || Binary32.le (getU32 payload 12) floatZero)

def validateImageBarrier2 (payload : Buffer) : Bool :=
  let memoryCount := getU32 payload 4
  let bufferCount := getU32 payload 8
  let imageCount := getU32 payload 12
  let bufferBase := 16 + memoryCount.toNat * 32
  let imageBase := bufferBase + bufferCount.toNat * 64
  !(getU32 payload 0 &&& ~~~0x6f != 0 || memoryCount > 64 || bufferCount > 256 || imageCount > 2048) &&
    (List.range bufferCount.toNat).all (fun index =>
      let barrier := bufferBase + index * 64
      !(!handleExpect (getU64 payload (barrier + 40)) .buffer || getU64 payload (barrier + 56) == 0)) &&
    (List.range imageCount.toNat).all (fun index =>
      let barrier := imageBase + index * 80
      !(!handleExpect (getU64 payload (barrier + 48)) .image ||
        !validateImageRangeWire payload (barrier + 56)))

def validateClearColorImageGeneral (payload : Buffer) : Bool :=
  let count := getU32 payload 12
  !(!handleExpect (getU64 payload 0) .image || getU32 payload 8 == 0 || count == 0 || count > 4) &&
    (List.range 4).all (fun index =>
      if index < count.toNat then validateImageRangeWire payload (32 + index * 24)
      else imageRangeWireIsZero payload (32 + index * 24))

def validateBindDescriptorSets (payload : Buffer) : Bool :=
  let setCount := getU32 payload 16
  let dynamicCount := getU32 payload 20
  !(!handleExpect (getU64 payload 0) .pipelineLayout || getU32 payload 8 > 1 || setCount == 0 ||
      setCount > 8 || dynamicCount > 32) &&
    (List.range 8).all (fun index =>
      let setId := getU64 payload (24 + index * 8)
      if index < setCount.toNat then handleExpect setId .descriptorSet else setId == 0) &&
    (List.range 32).all (fun index =>
      index < dynamicCount.toNat || getU32 payload (24 + 8 * 8 + index * 4) == 0)

def validatePushConstants (payload : Buffer) : Bool :=
  let size := getU32 payload 16
  !(!handleExpect (getU64 payload 0) .pipelineLayout || getU32 payload 8 == 0 || size == 0 ||
      size > 256 || getU32 payload 12 &&& 3 != 0 || size &&& 3 != 0 ||
      getU32 payload 12 > 256 - size || getU32 payload 20 != 0) &&
    (List.range 256).all (fun index => index < size.toNat || payload (24 + index) == 0)

def validateTransfer (opcode : UInt16) (payload : Buffer) : Bool :=
  let count := getU32 payload 28
  let sourceBuffer := transferSourceIsBuffer opcode
  let destinationBuffer := transferDestinationIsBuffer opcode
  !(!handleExpect (getU64 payload 0) (transferSourceType opcode) ||
      !handleExpect (getU64 payload 8) (transferDestinationType opcode) ||
      (!sourceBuffer && getU32 payload 16 == 0) || (!destinationBuffer && getU32 payload 20 == 0) ||
      (opcode == Opcode.blitImage2.code && getU32 payload 24 > 1) ||
      (opcode != Opcode.blitImage2.code && getU32 payload 24 != 0) || count == 0 || count > 16) &&
    (List.range count.toNat).all (fun index =>
      let wire := 32 + index * 128
      !((opcode == Opcode.copyBuffer2.code && getU64 payload (wire + 16) == 0) ||
        (opcode != Opcode.copyBuffer2.code && (getU32 payload (wire + 112) == 0 ||
          getU32 payload (wire + 116) == 0 || getU32 payload (wire + 120) == 0)) ||
        (!sourceBuffer && (getU32 payload (wire + 32) == 0 || getU32 payload (wire + 44) == 0)) ||
        (!destinationBuffer && (getU32 payload (wire + 48) == 0 || getU32 payload (wire + 60) == 0)) ||
        getU32 payload (wire + 124) != 0))

def validateBindVertexBuffers (opcode : UInt16) (payload : Buffer) : Bool :=
  let count := getU32 payload 4
  let hasSizes := getU32 payload 8
  let hasStrides := getU32 payload 12
  !(count == 0 || count > 16 || hasSizes > 1 || hasStrides > 1 ||
      (opcode == Opcode.bindVertexBuffers.code && (hasSizes != 0 || hasStrides != 0))) &&
    (List.range 16).all (fun index =>
      let id := getU64 payload (16 + index * 8)
      let offset := getU64 payload (144 + index * 8)
      let size := getU64 payload (272 + index * 8)
      let stride := getU64 payload (400 + index * 8)
      if index ≥ count.toNat then !(id != 0 || offset != 0 || size != 0 || stride != 0)
      else
        !((id != 0 && !handleExpect id .buffer) || (hasSizes == 0 && size != 0) ||
          (hasStrides == 0 && stride != 0)))

def validateBindIndexBuffer (opcode : UInt16) (payload : Buffer) : Bool :=
  let id := getU64 payload 0
  let size := getU64 payload 16
  !((id != 0 && !handleExpect id .buffer) || (id != 0 && size == 0) ||
    (opcode == Opcode.bindIndexBuffer.code && size != 0xffffffffffffffff) || getU32 payload 28 != 0)

def validateDrawIndexed (payload : Buffer) : Bool := getU32 payload 20 == 0

def validateDrawIndirect (opcode : UInt16) (payload : Buffer) : Bool :=
  let count := getU32 payload 16
  let stride := getU32 payload 20
  !(!handleExpect (getU64 payload 0) .buffer || stride &&& 3 != 0 ||
    (count > 1 && stride < (if opcode == Opcode.drawIndexedIndirect.code then 20 else 16)) ||
    getU64 payload 24 != 0)

def validateDrawIndirectCount (opcode : UInt16) (payload : Buffer) : Bool :=
  let count := getU32 payload 32
  let stride := getU32 payload 36
  !(!handleExpect (getU64 payload 0) .buffer || !handleExpect (getU64 payload 16) .buffer ||
    stride &&& 3 != 0 ||
    (count > 1 && stride < (if opcode == Opcode.drawIndexedIndirectCount.code then 20 else 16)) ||
    getU64 payload 40 != 0)

inductive DynamicStateKind where
  | cullMode
  | frontFace
  | primitiveTopology
  | depthTestEnable
  | depthWriteEnable
  | depthCompareOp
  | depthBoundsTestEnable
  | stencilTestEnable
  | stencilOp
  | rasterizerDiscardEnable
  | depthBiasEnable
  | primitiveRestartEnable
  | depthBias
  | depthBounds
  | stencilCompareMask
  | stencilWriteMask
  | stencilReference
  | lineWidth
  | blendConstants
  deriving DecidableEq, Repr

namespace DynamicStateKind

def code : DynamicStateKind → UInt32
  | cullMode => 1
  | frontFace => 2
  | primitiveTopology => 3
  | depthTestEnable => 4
  | depthWriteEnable => 5
  | depthCompareOp => 6
  | depthBoundsTestEnable => 7
  | stencilTestEnable => 8
  | stencilOp => 9
  | rasterizerDiscardEnable => 10
  | depthBiasEnable => 11
  | primitiveRestartEnable => 12
  | depthBias => 13
  | depthBounds => 14
  | stencilCompareMask => 15
  | stencilWriteMask => 16
  | stencilReference => 17
  | lineWidth => 18
  | blendConstants => 19

def all : List DynamicStateKind :=
  [cullMode, frontFace, primitiveTopology, depthTestEnable, depthWriteEnable, depthCompareOp,
    depthBoundsTestEnable, stencilTestEnable, stencilOp, rasterizerDiscardEnable, depthBiasEnable,
    primitiveRestartEnable, depthBias, depthBounds, stencilCompareMask, stencilWriteMask,
    stencilReference, lineWidth, blendConstants]

def ofCode (wire : UInt32) : Option DynamicStateKind := all.find? fun kind => kind.code == wire

def expectedCount : DynamicStateKind → UInt32
  | cullMode | frontFace | primitiveTopology | depthTestEnable | depthWriteEnable | depthCompareOp
  | depthBoundsTestEnable | stencilTestEnable | rasterizerDiscardEnable | depthBiasEnable
  | primitiveRestartEnable | lineWidth => 1
  | depthBounds | stencilCompareMask | stencilWriteMask | stencilReference => 2
  | depthBias => 3
  | blendConstants => 4
  | stencilOp => 5

def valuesAreValid (kind : DynamicStateKind) (values : Nat → UInt32) : Bool :=
  match kind with
  | cullMode => values 0 &&& ~~~3 == 0
  | frontFace => values 0 ≤ 1
  | primitiveTopology => values 0 ≤ 14
  | depthCompareOp => values 0 ≤ 7
  | depthTestEnable | depthWriteEnable | depthBoundsTestEnable | stencilTestEnable
  | rasterizerDiscardEnable | depthBiasEnable | primitiveRestartEnable => values 0 ≤ 1
  | stencilOp =>
      !(values 0 &&& ~~~3 != 0 || values 0 == 0 || values 1 > 7 || values 2 > 7 || values 3 > 7 ||
        values 4 > 7)
  | stencilCompareMask | stencilWriteMask | stencilReference =>
      !(values 0 &&& ~~~3 != 0 || values 0 == 0)
  | depthBias | blendConstants =>
      (List.range kind.expectedCount.toNat).all fun index => floatWordIsFinite (values index)
  | depthBounds =>
      (List.range kind.expectedCount.toNat).all (fun index => floatWordIsFinite (values index)) &&
        !(Binary32.lt (values 0) floatZero || Binary32.lt floatOne (values 0) ||
          Binary32.lt (values 1) floatZero || Binary32.lt floatOne (values 1) ||
          Binary32.lt (values 1) (values 0))
  | lineWidth =>
      (List.range kind.expectedCount.toNat).all (fun index => floatWordIsFinite (values index)) &&
        !Binary32.le (values 0) floatZero

end DynamicStateKind

def validateDynamicState (payload : Buffer) : Bool :=
  let count := getU32 payload 4
  match DynamicStateKind.ofCode (getU32 payload 0) with
  | none => false
  | some kind =>
      count == kind.expectedCount &&
        (List.range 8).all (fun index => index < count.toNat || getU32 payload (8 + index * 4) == 0) &&
        kind.valuesAreValid fun index => getU32 payload (8 + index * 4)

def validateClearDepthStencilImage (payload : Buffer) : Bool :=
  let layout := getU32 payload 8
  let count := getU32 payload 12
  !(!handleExpect (getU64 payload 0) .image || (layout != 1 && layout != 7) || count == 0 || count > 4 ||
      !floatWordIsFinite (getU32 payload 16)) &&
    (List.range 4).all (fun index =>
      let range := 24 + index * 24
      if index < count.toNat then
        !(!validateImageRangeWire payload range || getU32 payload range &&& ~~~6 != 0)
      else imageRangeWireIsZero payload range)

def validateClearAttachments (payload : Buffer) : Bool :=
  let attachmentCount := getU32 payload 0
  let rectCount := getU32 payload 4
  !(attachmentCount == 0 || attachmentCount > 8 || rectCount == 0 || rectCount > 8) &&
    (List.range 8).all (fun index =>
      let attachment := 8 + index * 24
      if index < attachmentCount.toNat then
        !(getU32 payload attachment == 0 || getU32 payload attachment &&& ~~~7 != 0)
      else bytesAreZero payload attachment 24) &&
    (List.range 8).all (fun index =>
      let rect := 8 + 8 * 24 + index * 24
      if index < rectCount.toNat then
        !(getU32 payload (rect + 8) == 0 || getU32 payload (rect + 12) == 0 ||
          getU32 payload (rect + 20) == 0)
      else bytesAreZero payload rect 24)

def validateUpdateBuffer (payload : Buffer) : Bool :=
  !(!handleExpect (getU64 payload 0) .buffer || getU64 payload 8 &&& 3 != 0 || getU32 payload 16 == 0 ||
    getU32 payload 16 > 65536 || getU32 payload 16 &&& 3 != 0 || getU32 payload 20 != 0)

def validateQuery (payload : Buffer) : Bool :=
  let stage := getU64 payload 8
  let count := getU32 payload 20
  let flags := getU32 payload 24
  let index := getU32 payload 28
  !(!handleExpect (getU64 payload 0) .queryPool || count == 0 || getU32 payload 36 != 0) &&
    match QueryKind.ofCode (getU32 payload 32) with
    | none => false
    | some .reset => stage == 0 && flags == 0 && index == 0
    | some .beginQuery => stage == 0 && count == 1 && flags &&& ~~~1 == 0 && index == 0
    | some .endQuery => stage == 0 && count == 1 && flags == 0 && index == 0
    | some .writeTimestamp | some .writeTimestamp2 =>
        stage != 0 && count == 1 && flags == 0 && index == 0
    | some .beginIndexed => stage == 0 && count == 1 && flags &&& ~~~1 == 0
    | some .endIndexed => stage == 0 && count == 1 && flags == 0

def validateVulkanBegin (payload : Buffer) : Bool :=
  !(getU32 payload 0 &&& ~~~1 != 0 || getU32 payload 4 != 0)

def validateClearColorImage (payload : Buffer) : Bool :=
  !(!handleExpect (getU64 payload 0) .image || getU64 payload 8 != 0)

def validateInitImageBarrier (payload : Buffer) : Bool :=
  let count := getU32 payload 0
  !(count == 0 || count > 4 || getU32 payload 4 != 0) &&
    (List.range 4).all (fun index =>
      let imageId := getU64 payload (8 + index * 8)
      if index ≥ count.toNat then imageId == 0
      else
        handleExpect imageId .image &&
          (List.range index).all (fun earlier => imageId != getU64 payload (8 + earlier * 8)))

/-- `true` where the C function returns 0; its only other result is `-EPROTO`. -/
def validatePayload (opcode : UInt16) (payload : Buffer) : Bool :=
  match Opcode.ofCode opcode with
  | none => false
  | some .beginRendering => validateBeginRendering payload
  | some .bindGraphicsPipeline => validateBindGraphicsPipeline payload
  | some .setViewport => validateSetViewport payload
  | some .setScissor => validateSetScissor payload
  | some .draw => validateDraw payload
  | some .endRendering => true
  | some .fillBuffer => validateFillBuffer payload
  | some .bufferHostReadBarrier => validateBufferHostReadBarrier payload
  | some .pushRotation => validatePushRotation payload
  | some .imageBarrier2 => validateImageBarrier2 payload
  | some .clearColorImageGeneral => validateClearColorImageGeneral payload
  | some .bindDescriptorSets => validateBindDescriptorSets payload
  | some .pushConstants => validatePushConstants payload
  | some .copyBuffer2 | some .copyBufferToImage2 | some .copyImageToBuffer2 | some .copyImage2
  | some .blitImage2 | some .resolveImage2 => validateTransfer opcode payload
  | some .bindVertexBuffers | some .bindVertexBuffers2 => validateBindVertexBuffers opcode payload
  | some .bindIndexBuffer | some .bindIndexBuffer2 => validateBindIndexBuffer opcode payload
  | some .drawIndexed => validateDrawIndexed payload
  | some .drawIndirect | some .drawIndexedIndirect => validateDrawIndirect opcode payload
  | some .drawIndirectCount | some .drawIndexedIndirectCount => validateDrawIndirectCount opcode payload
  | some .dynamicState => validateDynamicState payload
  | some .clearDepthStencilImage => validateClearDepthStencilImage payload
  | some .clearAttachments => validateClearAttachments payload
  | some .updateBuffer => validateUpdateBuffer payload
  | some .query => validateQuery payload
  | some .vulkanBegin => validateVulkanBegin payload
  | some .clearColorImage => validateClearColorImage payload
  | some .initImageBarrier => validateInitImageBarrier payload
  | some .vulkanEnd => true

end VulkanBridge
