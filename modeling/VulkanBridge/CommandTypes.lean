import VulkanBridge.Bytes
import VulkanBridge.Handle

/-!
The data of a command batch: opcodes, the fixed-size command structures of
`command_batch.h` and the constants of `command_batch.c`. Floats are kept as
their 32-bit patterns.
-/

namespace VulkanBridge

open ByteBuffer

inductive Opcode where
  | beginRendering
  | bindGraphicsPipeline
  | setViewport
  | setScissor
  | draw
  | endRendering
  | fillBuffer
  | bufferHostReadBarrier
  | pushRotation
  | imageBarrier2
  | clearColorImageGeneral
  | bindDescriptorSets
  | pushConstants
  | copyBuffer2
  | copyBufferToImage2
  | copyImageToBuffer2
  | copyImage2
  | blitImage2
  | resolveImage2
  | vulkanBegin
  | clearColorImage
  | initImageBarrier
  | vulkanEnd
  | bindVertexBuffers
  | bindVertexBuffers2
  | bindIndexBuffer
  | bindIndexBuffer2
  | drawIndexed
  | drawIndirect
  | drawIndexedIndirect
  | drawIndirectCount
  | drawIndexedIndirectCount
  | dynamicState
  | clearDepthStencilImage
  | clearAttachments
  | updateBuffer
  | query
  deriving DecidableEq, Repr

namespace Opcode

def code : Opcode → UInt16
  | beginRendering => 1
  | bindGraphicsPipeline => 2
  | setViewport => 3
  | setScissor => 4
  | draw => 5
  | endRendering => 6
  | fillBuffer => 7
  | bufferHostReadBarrier => 8
  | pushRotation => 9
  | imageBarrier2 => 10
  | clearColorImageGeneral => 11
  | bindDescriptorSets => 12
  | pushConstants => 13
  | copyBuffer2 => 14
  | copyBufferToImage2 => 15
  | copyImageToBuffer2 => 16
  | copyImage2 => 17
  | blitImage2 => 18
  | resolveImage2 => 19
  | vulkanBegin => 20
  | clearColorImage => 21
  | initImageBarrier => 22
  | vulkanEnd => 23
  | bindVertexBuffers => 24
  | bindVertexBuffers2 => 25
  | bindIndexBuffer => 26
  | bindIndexBuffer2 => 27
  | drawIndexed => 28
  | drawIndirect => 29
  | drawIndexedIndirect => 30
  | drawIndirectCount => 31
  | drawIndexedIndirectCount => 32
  | dynamicState => 33
  | clearDepthStencilImage => 34
  | clearAttachments => 35
  | updateBuffer => 36
  | query => 37

def all : List Opcode :=
  [beginRendering, bindGraphicsPipeline, setViewport, setScissor, draw, endRendering, fillBuffer,
    bufferHostReadBarrier, pushRotation, imageBarrier2, clearColorImageGeneral, bindDescriptorSets,
    pushConstants, copyBuffer2, copyBufferToImage2, copyImageToBuffer2, copyImage2, blitImage2,
    resolveImage2, vulkanBegin, clearColorImage, initImageBarrier, vulkanEnd, bindVertexBuffers,
    bindVertexBuffers2, bindIndexBuffer, bindIndexBuffer2, drawIndexed, drawIndirect,
    drawIndexedIndirect, drawIndirectCount, drawIndexedIndirectCount, dynamicState,
    clearDepthStencilImage, clearAttachments, updateBuffer, query]

/-- The case of a `switch (opcode)` a wire value selects, `none` for `default`. -/
def ofCode (wire : UInt16) : Option Opcode := all.find? fun opcode => opcode.code == wire

@[simp] theorem ofCode_code (opcode : Opcode) : ofCode opcode.code = some opcode := by
  cases opcode <;> rfl

theorem code_of_ofCode {wire : UInt16} {opcode : Opcode} (found : ofCode wire = some opcode) :
    opcode.code = wire := by
  simpa using List.find?_some found

end Opcode

/-! Fixed-size arrays of the C structures. -/

def slot {α : Type} [Inhabited α] {size : Nat} (items : Fin size → α) (index : Nat) : α :=
  if bound : index < size then items ⟨index, bound⟩ else default

/-- An array cleared by `memset` whose first `count` elements are then assigned. -/
def fill {α : Type} [Inhabited α] (size count : Nat) (element : Nat → α) : Fin size → α :=
  fun index => if index.val < count then element index.val else default

/-- The array with every element from `count` on cleared. -/
def keep {α : Type} [Inhabited α] {size : Nat} (count : Nat) (items : Fin size → α) : Fin size → α :=
  fun index => if index.val < count then items index else default

theorem slot_val {α : Type} [Inhabited α] {size : Nat} (items : Fin size → α) (index : Fin size) :
    slot items index.val = items index := by
  simp [slot]

theorem slot_fill {α : Type} [Inhabited α] {size count : Nat} (element : Nat → α) {index : Nat}
    (bound : index < size) (inside : index < count) : slot (fill size count element) index = element index := by
  simp [slot, fill, bound, inside]

theorem slot_keep {α : Type} [Inhabited α] {size count index : Nat} (items : Fin size → α)
    (used : index < count) : slot (keep count items) index = slot items index := by
  simp [slot, keep, used]

theorem fill_congr {α : Type} [Inhabited α] {size count : Nat} {left right : Nat → α}
    (same : ∀ index, index < size → index < count → left index = right index) :
    fill size count left = fill size count right := by
  funext index
  by_cases inside : index.val < count
  · simp [fill, inside, same index.val index.isLt inside]
  · simp [fill, inside]

theorem fill_eq_self {α : Type} [Inhabited α] {size : Nat} (element : Nat → α) (items : Fin size → α)
    (same : ∀ index, index < size → element index = slot items index) : fill size size element = items := by
  funext index
  simp [fill, same index.val index.isLt, slot_val]

theorem fill_eq_keep {α : Type} [Inhabited α] {size count : Nat} (element : Nat → α)
    (items : Fin size → α) (same : ∀ index, index < size → index < count → element index = slot items index) :
    fill size count element = keep count items := by
  funext index
  by_cases inside : index.val < count
  · simp [fill, keep, inside, same index.val index.isLt inside, slot_val]
  · simp [fill, keep, inside]

/-! The command structures. -/

structure RenderingAttachment where
  imageViewId : UInt64
  resolveImageViewId : UInt64
  imageLayout : UInt32
  resolveMode : UInt32
  resolveImageLayout : UInt32
  loadOp : UInt32
  storeOp : UInt32
  feedbackLoopEnable : UInt32
  clearWords : Fin 4 → UInt32
  deriving Inhabited

structure BeginRenderingCommand where
  flags : UInt32
  renderOffsetX : Int32
  renderOffsetY : Int32
  width : UInt32
  height : UInt32
  layerCount : UInt32
  viewMask : UInt32
  colorAttachmentCount : UInt32
  hasDepthAttachment : UInt32
  hasStencilAttachment : UInt32
  colorAttachments : Fin 8 → RenderingAttachment
  depthAttachment : RenderingAttachment
  stencilAttachment : RenderingAttachment
  deriving Inhabited

structure BindGraphicsPipelineCommand where
  pipelineId : UInt64
  deriving Inhabited

structure PushRotationCommand where
  pipelineLayoutId : UInt64
  angleRadians : UInt32
  aspectRatio : UInt32
  deriving Inhabited

structure SetViewportCommand where
  x : UInt32
  y : UInt32
  width : UInt32
  height : UInt32
  minimumDepth : UInt32
  maximumDepth : UInt32
  deriving Inhabited

structure SetScissorCommand where
  x : Int32
  y : Int32
  width : UInt32
  height : UInt32
  deriving Inhabited

structure DrawCommand where
  vertexCount : UInt32
  instanceCount : UInt32
  firstVertex : UInt32
  firstInstance : UInt32
  deriving Inhabited

structure FillBufferCommand where
  bufferId : UInt64
  offset : UInt64
  size : UInt64
  data : UInt32
  deriving Inhabited

structure BufferHostReadBarrierCommand where
  bufferId : UInt64
  offset : UInt64
  size : UInt64
  deriving Inhabited

structure VulkanBeginCommand where
  flags : UInt32
  deriving Inhabited

structure ClearColorImageCommand where
  imageId : UInt64
  deriving Inhabited

structure InitImageBarrierCommand where
  imageCount : UInt32
  imageIds : Fin 4 → UInt64
  deriving Inhabited

structure ImageSubresourceRange where
  aspectMask : UInt32
  baseMipLevel : UInt32
  levelCount : UInt32
  baseArrayLayer : UInt32
  layerCount : UInt32
  deriving Inhabited, DecidableEq

structure ImageBarrier2 where
  sourceStageMask : UInt64
  sourceAccessMask : UInt64
  destinationStageMask : UInt64
  destinationAccessMask : UInt64
  oldLayout : UInt32
  newLayout : UInt32
  sourceQueueFamilyIndex : UInt32
  destinationQueueFamilyIndex : UInt32
  imageId : UInt64
  range : ImageSubresourceRange
  deriving Inhabited, DecidableEq

structure MemoryBarrier2 where
  sourceStageMask : UInt64
  sourceAccessMask : UInt64
  destinationStageMask : UInt64
  destinationAccessMask : UInt64
  deriving Inhabited, DecidableEq

structure BufferBarrier2 where
  sourceStageMask : UInt64
  sourceAccessMask : UInt64
  destinationStageMask : UInt64
  destinationAccessMask : UInt64
  sourceQueueFamilyIndex : UInt32
  destinationQueueFamilyIndex : UInt32
  bufferId : UInt64
  offset : UInt64
  size : UInt64
  deriving Inhabited, DecidableEq

structure ImageBarrier2Command where
  dependencyFlags : UInt32
  memoryCount : UInt32
  bufferCount : UInt32
  imageCount : UInt32
  memory : Fin 64 → MemoryBarrier2
  buffers : Fin 256 → BufferBarrier2
  images : Fin 2048 → ImageBarrier2
  deriving Inhabited

structure ClearColorImageGeneralCommand where
  imageId : UInt64
  imageLayout : UInt32
  rangeCount : UInt32
  colorWords : Fin 4 → UInt32
  ranges : Fin 4 → ImageSubresourceRange
  deriving Inhabited

structure BindDescriptorSetsCommand where
  pipelineLayoutId : UInt64
  pipelineBindPoint : UInt32
  firstSet : UInt32
  descriptorSetCount : UInt32
  dynamicOffsetCount : UInt32
  descriptorSetIds : Fin 8 → UInt64
  dynamicOffsets : Fin 32 → UInt32
  deriving Inhabited

structure PushConstantsCommand where
  pipelineLayoutId : UInt64
  stageFlags : UInt32
  offset : UInt32
  size : UInt32
  data : Fin 256 → UInt8
  deriving Inhabited

structure ImageSubresourceLayers where
  aspectMask : UInt32
  mipLevel : UInt32
  baseArrayLayer : UInt32
  layerCount : UInt32
  deriving Inhabited, DecidableEq

structure Offset3D where
  x : Int32
  y : Int32
  z : Int32
  deriving Inhabited, DecidableEq

structure Extent3D where
  width : UInt32
  height : UInt32
  depth : UInt32
  deriving Inhabited, DecidableEq

structure TransferRegion where
  sourceBufferOffset : UInt64
  destinationBufferOffset : UInt64
  size : UInt64
  bufferRowLength : UInt32
  bufferImageHeight : UInt32
  sourceLayers : ImageSubresourceLayers
  destinationLayers : ImageSubresourceLayers
  sourceOffsets : Fin 2 → Offset3D
  destinationOffsets : Fin 2 → Offset3D
  extent : Extent3D
  deriving Inhabited

structure TransferCommand where
  sourceId : UInt64
  destinationId : UInt64
  sourceLayout : UInt32
  destinationLayout : UInt32
  filter : UInt32
  regionCount : UInt32
  regions : Fin 16 → TransferRegion
  deriving Inhabited

structure BindVertexBuffersCommand where
  firstBinding : UInt32
  bindingCount : UInt32
  hasSizes : UInt32
  hasStrides : UInt32
  bufferIds : Fin 16 → UInt64
  offsets : Fin 16 → UInt64
  sizes : Fin 16 → UInt64
  strides : Fin 16 → UInt64
  deriving Inhabited

structure BindIndexBufferCommand where
  bufferId : UInt64
  offset : UInt64
  size : UInt64
  indexType : UInt32
  deriving Inhabited

structure DrawIndexedCommand where
  indexCount : UInt32
  instanceCount : UInt32
  firstIndex : UInt32
  vertexOffset : Int32
  firstInstance : UInt32
  deriving Inhabited

structure DrawIndirectCommand where
  bufferId : UInt64
  offset : UInt64
  drawCount : UInt32
  stride : UInt32
  deriving Inhabited

structure DrawIndirectCountCommand where
  bufferId : UInt64
  offset : UInt64
  countBufferId : UInt64
  countBufferOffset : UInt64
  maximumDrawCount : UInt32
  stride : UInt32
  deriving Inhabited

structure DynamicStateCommand where
  kind : UInt32
  valueCount : UInt32
  values : Fin 8 → UInt32
  deriving Inhabited

structure ClearDepthStencilImageCommand where
  imageId : UInt64
  imageLayout : UInt32
  rangeCount : UInt32
  depthWord : UInt32
  stencil : UInt32
  ranges : Fin 4 → ImageSubresourceRange
  deriving Inhabited

structure ClearAttachment where
  aspectMask : UInt32
  colorAttachment : UInt32
  clearWords : Fin 4 → UInt32
  deriving Inhabited

structure ClearRect where
  offsetX : Int32
  offsetY : Int32
  width : UInt32
  height : UInt32
  baseArrayLayer : UInt32
  layerCount : UInt32
  deriving Inhabited, DecidableEq

structure ClearAttachmentsCommand where
  attachmentCount : UInt32
  rectCount : UInt32
  attachments : Fin 8 → ClearAttachment
  rects : Fin 8 → ClearRect
  deriving Inhabited

structure UpdateBufferCommand where
  bufferId : UInt64
  offset : UInt64
  dataSize : UInt32
  data : Fin 65536 → UInt8
  deriving Inhabited

structure QueryCommand where
  queryPoolId : UInt64
  stageMask : UInt64
  firstQuery : UInt32
  queryCount : UInt32
  flags : UInt32
  index : UInt32
  kind : UInt32
  deriving Inhabited

/-- One call of a typed append function. The functions that serve several
opcodes take the opcode as an argument. -/
inductive Command where
  | beginRendering (command : BeginRenderingCommand)
  | bindGraphicsPipeline (command : BindGraphicsPipelineCommand)
  | pushRotation (command : PushRotationCommand)
  | setViewport (command : SetViewportCommand)
  | setScissor (command : SetScissorCommand)
  | draw (command : DrawCommand)
  | endRendering
  | fillBuffer (command : FillBufferCommand)
  | bufferHostReadBarrier (command : BufferHostReadBarrierCommand)
  | vulkanBegin (command : VulkanBeginCommand)
  | clearColorImage (command : ClearColorImageCommand)
  | initImageBarrier (command : InitImageBarrierCommand)
  | vulkanEnd
  | imageBarrier2 (command : ImageBarrier2Command)
  | clearColorImageGeneral (command : ClearColorImageGeneralCommand)
  | bindDescriptorSets (command : BindDescriptorSetsCommand)
  | pushConstants (command : PushConstantsCommand)
  | transfer (opcode : UInt16) (command : TransferCommand)
  | bindVertexBuffers (opcode : UInt16) (command : BindVertexBuffersCommand)
  | bindIndexBuffer (opcode : UInt16) (command : BindIndexBufferCommand)
  | drawIndexed (command : DrawIndexedCommand)
  | drawIndirect (opcode : UInt16) (command : DrawIndirectCommand)
  | drawIndirectCount (opcode : UInt16) (command : DrawIndirectCountCommand)
  | dynamicState (command : DynamicStateCommand)
  | clearDepthStencilImage (command : ClearDepthStencilImageCommand)
  | clearAttachments (command : ClearAttachmentsCommand)
  | updateBuffer (command : UpdateBufferCommand)
  | query (command : QueryCommand)

end VulkanBridge
