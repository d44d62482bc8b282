import VulkanBridge.CommandReplay

/-!
A whole command stream: `validate_command_stream` checks every record of a
batch against the handle table, `replay_command_stream` records it on the
native command buffer. A single record of the strict transport goes through
`execute_immediate_record`.
-/

namespace VulkanBridge

open ByteBuffer

def imageBarrierRangeSupported (range : ImageSubresourceRange) : Bool :=
  range.aspectMask != 0 && range.aspectMask &&& ~~~0x7ff == 0 && range.levelCount != 0 &&
    range.layerCount != 0

def clearColorRangeSupported (range : ImageSubresourceRange) : Bool :=
  imageBarrierRangeSupported range && range.aspectMask == 1

/-- The layouts of `command_stream_image_layout_supported`. -/
def supportedImageLayouts : List UInt32 :=
  [0, 1, 2, 3, 4, 5, 6, 7, 8, 1000117000, 1000117001, 1000241000, 1000241001, 1000241002, 1000241003,
    1000001002, 1000111000, 1000314000, 1000314001, 1000232000, 1000218000, 1000164003, 1000339000,
    1000620000]

def imageLayoutSupported (layout : UInt32) : Bool := supportedImageLayouts.contains layout

def imageBarrierSupported (barrier : ImageBarrier2) : Bool :=
  imageLayoutSupported barrier.oldLayout && imageLayoutSupported barrier.newLayout &&
    barrier.newLayout != 0 && barrier.newLayout != 8 && imageBarrierRangeSupported barrier.range

/-! The requests the records are turned into; each is cleared before the ids are copied. -/

def FillBufferCommand.request (command : FillBufferCommand) (commandBufferId : UInt64) :
    CommandBufferFillRequest :=
  ⟨commandBufferId, command.bufferId, command.offset, command.size, command.data⟩

def BindDescriptorSetsCommand.request (command : BindDescriptorSetsCommand) (commandBufferId : UInt64) :
    BindDescriptorSetsRequest :=
  { commandBufferId := commandBufferId
    pipelineLayoutId := command.pipelineLayoutId
    pipelineBindPoint := command.pipelineBindPoint
    firstSet := command.firstSet
    descriptorSetCount := command.descriptorSetCount
    dynamicOffsetCount := command.dynamicOffsetCount
    descriptorSetIds := keep command.descriptorSetCount.toNat command.descriptorSetIds
    dynamicOffsets := keep command.dynamicOffsetCount.toNat command.dynamicOffsets }

def InitImageBarrierCommand.request (command : InitImageBarrierCommand) (commandBufferId : UInt64) :
    CommandBufferImageBarrierRequest :=
  ⟨commandBufferId, command.imageCount, keep command.imageCount.toNat command.imageIds⟩

namespace ServiceContext

variable (driver : NativeDriver) (context : ServiceContext)

def childMatchesDevice (childId : UInt64) (type : ObjectType) (expectedDeviceId : UInt64) :
    Except Errno Unit := do
  let child ← context.resolveDeviceChild childId type
  if child.deviceId = expectedDeviceId then .ok () else .error .eproto

def descriptorSetMatchesDevice (setId expectedDeviceId : UInt64) : Except Errno Unit := do
  let (poolId, _) ← context.objects.lookup setId .descriptorSet
  let (poolDeviceId, _) ← context.objects.lookup poolId .descriptorPool
  if poolDeviceId = expectedDeviceId then .ok () else .error .eproto

def imageViewMatchesDevice (imageViewId expectedDeviceId : UInt64) : Except Errno Unit := do
  let _ ← context.descriptorTemplateResolveImageView imageViewId expectedDeviceId
  return ()

def optionalBufferMatchesDevice (bufferId expectedDeviceId : UInt64) : Except Errno Unit :=
  if bufferId ≠ 0 then context.childMatchesDevice bufferId .buffer expectedDeviceId else .ok ()

def colorAttachmentMatchesDevice (attachment : RenderingAttachment) (expectedDeviceId : UInt64) :
    Except Errno Unit := do
  if attachment.imageViewId ≠ 0 then
    context.imageViewMatchesDevice attachment.imageViewId expectedDeviceId
  if attachment.resolveImageViewId ≠ 0 then
    context.imageViewMatchesDevice attachment.resolveImageViewId expectedDeviceId

def depthAttachmentMatchesDevice (attachment : RenderingAttachment) (expectedDeviceId : UInt64) :
    Except Errno Unit := do
  context.imageViewMatchesDevice attachment.imageViewId expectedDeviceId
  if attachment.resolveImageViewId ≠ 0 then
    context.imageViewMatchesDevice attachment.resolveImageViewId expectedDeviceId

def validateBeginRenderingRecord (record : CommandRecord) (expectedDeviceId : UInt64) (rendering : Bool) :
    Except Errno Bool := do
  let command ← commandDecodeBeginRendering record
  if rendering then .error .eproto
  (listed command.colorAttachmentCount command.colorAttachments).forM
    (context.colorAttachmentMatchesDevice · expectedDeviceId)
  if command.hasDepthAttachment ≠ 0 then
    context.depthAttachmentMatchesDevice command.depthAttachment expectedDeviceId
  if command.hasStencilAttachment ≠ 0 then
    context.depthAttachmentMatchesDevice command.stencilAttachment expectedDeviceId
  return true

def validateTransferCommandRecord (record : CommandRecord) (expectedDeviceId : UInt64) :
    Except Errno Unit := do
  let command ← commandDecodeTransfer record
  context.childMatchesDevice command.sourceId (transferSourceType record.opcode) expectedDeviceId
  context.childMatchesDevice command.destinationId (transferDestinationType record.opcode) expectedDeviceId

def validatePipelineBarrierRecord (record : CommandRecord) (expectedDeviceId : UInt64) :
    Except Errno Unit := do
  let barrier ← commandDecodeImageBarrier2 record
  if barrier.dependencyFlags &&& ~~~0x6f != 0 then .error .eproto
  (listed barrier.bufferCount barrier.buffers).forM fun entry =>
    if entry.size = 0 then .error .eproto
    else context.childMatchesDevice entry.bufferId .buffer expectedDeviceId
  (listed barrier.imageCount barrier.images).forM fun entry =>
    if !imageBarrierSupported entry then .error .eproto
    else context.childMatchesDevice entry.imageId .image expectedDeviceId

def validateQueryRecord (record : CommandRecord) (expectedDeviceId : UInt64) : Except Errno Unit := do
  let command ← commandDecodeQuery record
  context.queryPoolRangeMatchesDevice command.queryPoolId expectedDeviceId command.firstQuery
    command.queryCount
  if command.kind = QueryKind.writeTimestamp.code ∧ command.stageMask > 0xffffffff then .error .eproto

/-- The new value of `rendering` where the C function returns 0. -/
def validateRenderCommandRecord (record : CommandRecord) (expectedDeviceId : UInt64) (rendering : Bool) :
    Except Errno Bool :=
  match Opcode.ofCode record.opcode with
  | some .beginRendering => context.validateBeginRenderingRecord record expectedDeviceId rendering
  | some .endRendering =>
      if record.payloadLength ≠ 0 || !rendering then .error .eproto else .ok false
  | some .bindGraphicsPipeline => do
      let command ← commandDecodeBindGraphicsPipeline record
      context.childMatchesDevice command.pipelineId .pipeline expectedDeviceId
      return rendering
  | some .pushConstants => do
      let command ← commandDecodePushConstants record
      context.childMatchesDevice command.pipelineLayoutId .pipelineLayout expectedDeviceId
      return rendering
  | some .imageBarrier2 => do
      context.validatePipelineBarrierRecord record expectedDeviceId
      return rendering
  | some .bindVertexBuffers | some .bindVertexBuffers2 => do
      let command ← commandDecodeBindVertexBuffers record
      (listed command.bindingCount command.bufferIds).forM
        (context.optionalBufferMatchesDevice · expectedDeviceId)
      return rendering
  | some .bindIndexBuffer | some .bindIndexBuffer2 => do
      let command ← commandDecodeBindIndexBuffer record
      context.optionalBufferMatchesDevice command.bufferId expectedDeviceId
      return rendering
  | some .drawIndexed => do
      if !rendering then .error .eproto
      let _ ← commandDecodeDrawIndexed record
      return rendering
  | some .drawIndirect | some .drawIndexedIndirect => do
      if !rendering then .error .eproto
      let command ← commandDecodeDrawIndirect record
      context.childMatchesDevice command.bufferId .buffer expectedDeviceId
      return rendering
  | some .drawIndirectCount | some .drawIndexedIndirectCount => do
      if !rendering then .error .eproto
      let command ← commandDecodeDrawIndirectCount record
      context.childMatchesDevice command.bufferId .buffer expectedDeviceId
      context.childMatchesDevice command.countBufferId .buffer expectedDeviceId
      return rendering
  | some .dynamicState => do
      let _ ← commandDecodeDynamicState record
      return rendering
  | some .clearDepthStencilImage => do
      let command ← commandDecodeClearDepthStencilImage record
      context.childMatchesDevice command.imageId .image expectedDeviceId
      return rendering
  | some .clearAttachments => do
      let _ ← commandDecodeClearAttachments record
      return rendering
  | some .updateBuffer => do
      let command ← commandDecodeUpdateBuffer record
      context.childMatchesDevice command.bufferId .buffer expectedDeviceId
      return rendering
  | some .query => do
      context.validateQueryRecord record expectedDeviceId
      return rendering
  | some .copyBuffer2 | some .copyBufferToImage2 | some .copyImageToBuffer2 | some .copyImage2
  | some .blitImage2 | some .resolveImage2 => do
      context.validateTransferCommandRecord record expectedDeviceId
      return rendering
  | some .setViewport => do
      let _ ← commandDecodeSetViewport record
      return rendering
  | some .setScissor => do
      let _ ← commandDecodeSetScissor record
      return rendering
  | some .draw => do
      if !rendering then .error .eproto
      let _ ← commandDecodeDraw record
      return rendering
  | some .fillBuffer | some .bufferHostReadBarrier | some .pushRotation | some .clearColorImageGeneral
  | some .bindDescriptorSets | some .vulkanBegin | some .clearColorImage | some .initImageBarrier
  | some .vulkanEnd | none => .error .eproto

def validateClearColorImageGeneralRecord (record : CommandRecord) (expectedDeviceId : UInt64) :
    Except Errno Unit := do
  let clear ← commandDecodeClearColorImageGeneral record
  if clear.imageLayout ≠ 7 ∧ clear.imageLayout ≠ 1 then .error .eproto
  if !(listed clear.rangeCount clear.ranges).all clearColorRangeSupported then .error .eproto
  context.childMatchesDevice clear.imageId .image expectedDeviceId

def validateBindDescriptorSetsRecord (record : CommandRecord) (expectedDeviceId : UInt64) :
    Except Errno Unit := do
  let bind ← commandDecodeBindDescriptorSets record
  context.childMatchesDevice bind.pipelineLayoutId .pipelineLayout expectedDeviceId
  (listed bind.descriptorSetCount bind.descriptorSetIds).forM
    (context.descriptorSetMatchesDevice · expectedDeviceId)

def validateStreamCommand (record : CommandRecord) (expectedDeviceId : UInt64) (rendering : Bool) :
    Except Errno Bool :=
  match Opcode.ofCode record.opcode with
  | some .fillBuffer => do
      let fill ← commandDecodeFillBuffer record
      context.childMatchesDevice fill.bufferId .buffer expectedDeviceId
      return rendering
  | some .imageBarrier2 => do
      context.validatePipelineBarrierRecord record expectedDeviceId
      return rendering
  | some .clearColorImageGeneral => do
      context.validateClearColorImageGeneralRecord record expectedDeviceId
      return rendering
  | some .clearColorImage => do
      let clear ← commandDecodeClearColorImage record
      context.childMatchesDevice clear.imageId .image expectedDeviceId
      return rendering
  | some .initImageBarrier => do
      let barrier ← commandDecodeInitImageBarrier record
      (listed barrier.imageCount barrier.imageIds).forM
        (context.childMatchesDevice · .image expectedDeviceId)
      return rendering
  | some .bindDescriptorSets => do
      context.validateBindDescriptorSetsRecord record expectedDeviceId
      return rendering
  | some .bufferHostReadBarrier | some .pushRotation | some .vulkanBegin | some .vulkanEnd | none =>
      .error .eproto
  | some _ => context.validateRenderCommandRecord record expectedDeviceId rendering

def validateStreamRecord (expectedDeviceId : UInt64) (count index : Nat) (record : CommandRecord)
    (rendering : Bool) : Except Errno Bool :=
  if index = 0 then do
    let _ ← commandDecodeVulkanBegin record
    return rendering
  else if index + 1 = count then
    if record.opcode = Opcode.vulkanEnd.code ∧ record.payloadLength = 0 then .ok rendering
    else .error .eproto
  else context.validateStreamCommand record expectedDeviceId rendering

def validateStreamRecords (expectedDeviceId : UInt64) (count : Nat) :
    Nat → List CommandRecord → Bool → Except Errno Bool
  | _, [], rendering => .ok rendering
  | index, record :: rest, rendering => do
      let rendering ← context.validateStreamRecord expectedDeviceId count index record rendering
      validateStreamRecords expectedDeviceId count (index + 1) rest rendering

/-- The walk of the iterator is the list `commandBatchRecords`: a failed or an
early exhausted `next` makes that list an error. -/
def validateCommandStream (batch : Buffer) (batchLength : Nat) (expectedDeviceId : UInt64) :
    Except Errno Unit := do
  if !handleExpect expectedDeviceId .device then .error .einval
  let info ← commandBatchValidate batch batchLength
  let owner ← context.resolveCommandBuffer info.commandBufferId
  if owner.deviceId ≠ expectedDeviceId then .error .eproto
  if info.commandCount < 2 then .error .eproto
  let records ← commandBatchRecords batch batchLength
  let rendering ← context.validateStreamRecords expectedDeviceId info.commandCount.toNat 0 records false
  if rendering then .error .eproto

abbrev Replayed := List NativeCall × Except Errno Unit

def Replayed.issue (trace : List NativeCall) : Except Errno (List NativeCall) → Replayed
  | .error code => (trace, .error code)
  | .ok calls => (trace ++ calls, .ok ())

/-- A call that returns a `VkResult` other than success is an error of its own. -/
def Replayed.issueChecked (trace : List NativeCall) : Except Errno NativeCall → Replayed
  | .error code => (trace, .error code)
  | .ok call =>
      if driver.result (trace ++ [call]) ≠ 0 then (trace ++ [call], .error .eio)
      else (trace ++ [call], .ok ())

def replayStreamCommand (commandBufferId : UInt64) (record : CommandRecord) :
    Except Errno (List NativeCall) :=
  match Opcode.ofCode record.opcode with
  | some .fillBuffer => do
      let fill ← commandDecodeFillBuffer record
      context.commandBufferFill driver (fill.request commandBufferId)
  | some .imageBarrier2 => do
      let barrier ← commandDecodeImageBarrier2 record
      context.replayCommandStreamImageBarrier2 driver commandBufferId barrier
  | some .clearColorImageGeneral => do
      let clear ← commandDecodeClearColorImageGeneral record
      context.replayCommandStreamClearColorImageGeneral driver commandBufferId clear
  | some .clearColorImage => do
      let clear ← commandDecodeClearColorImage record
      context.commandBufferClearColorImage driver ⟨commandBufferId, clear.imageId⟩
  | some .initImageBarrier => do
      let barrier ← commandDecodeInitImageBarrier record
      context.commandBufferImageBarrier driver (barrier.request commandBufferId)
  | some .bindDescriptorSets => do
      let bind ← commandDecodeBindDescriptorSets record
      context.commandBufferBindDescriptorSets driver (bind.request commandBufferId)
  | some .bufferHostReadBarrier | some .pushRotation | some .vulkanBegin | some .vulkanEnd | none =>
      .error .eproto
  | some _ => context.replayRenderCommandRecord driver commandBufferId record

def replayStreamRecord (commandBufferId : UInt64) (trace : List NativeCall) (record : CommandRecord) :
    Replayed :=
  if record.opcode = Opcode.vulkanBegin.code then
    Replayed.issueChecked driver trace do
      let begin ← commandDecodeVulkanBegin record
      context.beginCommandBuffer driver ⟨commandBufferId, begin.flags⟩
  else if record.opcode = Opcode.vulkanEnd.code then
    Replayed.issueChecked driver trace (context.endCommandBuffer driver commandBufferId)
  else Replayed.issue trace (context.replayStreamCommand driver commandBufferId record)

def replayStreamRecords (commandBufferId : UInt64) (trace : List NativeCall) :
    List CommandRecord → Replayed
  | [] => (trace, .ok ())
  | record :: rest =>
      match context.replayStreamRecord driver commandBufferId trace record with
      | (trace, .error code) => (trace, .error code)
      | (trace, .ok ()) => replayStreamRecords commandBufferId trace rest

def replayCommandStream (trace : List NativeCall) (batch : Buffer) (batchLength : Nat)
    (expectedDeviceId : UInt64) : Replayed :=
  let opened := do
    context.validateCommandStream batch batchLength expectedDeviceId
    let info ← commandBatchValidate batch batchLength
    let records ← commandBatchRecords batch batchLength
    return (info.commandBufferId, records)
  match opened with
  | .error code => (trace, .error code)
  | .ok (commandBufferId, records) => context.replayStreamRecords driver commandBufferId trace records

def executeImmediateRecord (batch : Buffer) (batchLength : Nat) : Except Errno (List NativeCall) := do
  let info ← commandBatchValidate batch batchLength
  if info.commandCount ≠ 1 then .error .eproto
  let owner ← context.resolveCommandBuffer info.commandBufferId
  let records ← commandBatchRecords batch batchLength
  match records with
  | [] => .error .eproto
  | record :: _ =>
      let rendering := record.opcode != Opcode.beginRendering.code
      let _ ← context.validateRenderCommandRecord record owner.deviceId rendering
      context.replayRenderCommandRecord driver info.commandBufferId record

end ServiceContext

end VulkanBridge
