import VulkanBridge.CommandTypes
import VulkanBridge.CommandValidate

/-!
The native calls the service makes on a command buffer. A call is written with
the entry point it was resolved from and its arguments; where the arguments are
command structures, the ids in them are native handles. The null handle is 0.
-/

namespace VulkanBridge

inductive VulkanFunction where
  | vkBeginCommandBuffer
  | vkEndCommandBuffer
  | vkCmdFillBuffer
  | vkCmdPipelineBarrier
  | vkCmdPipelineBarrier2
  | vkCmdClearColorImage
  | vkCmdClearDepthStencilImage
  | vkCmdClearAttachments
  | vkCmdBindDescriptorSets
  | vkCmdResetQueryPool
  | vkCmdBeginQuery
  | vkCmdEndQuery
  | vkCmdWriteTimestamp
  | vkCmdWriteTimestamp2
  | vkCmdBeginQueryIndexed
  | vkCmdEndQueryIndexed
  | vkCmdBindVertexBuffers
  | vkCmdBindVertexBuffers2
  | vkCmdUpdateBuffer
  | vkCmdBindIndexBuffer
  | vkCmdBindIndexBuffer2
  | vkCmdDraw
  | vkCmdDrawIndexed
  | vkCmdDrawIndirect
  | vkCmdDrawIndexedIndirect
  | vkCmdDrawIndirectCount
  | vkCmdDrawIndexedIndirectCount
  | vkCmdSetDynamicState (kind : DynamicStateKind)
  | vkCmdBeginRendering
  | vkCmdEndRendering
  | vkCmdBindPipeline
  | vkCmdPushConstants
  | vkCmdSetViewportWithCount
  | vkCmdSetScissorWithCount
  | vkCmdCopyBuffer2
  | vkCmdCopyBufferToImage2
  | vkCmdCopyImageToBuffer2
  | vkCmdCopyImage2
  | vkCmdBlitImage2
  | vkCmdResolveImage2
  deriving DecidableEq, Repr

inductive Suffix where
  | core
  | khr
  | ext
  deriving DecidableEq, Repr

/-- A name `get_device_proc_addr` is asked for: a function and its suffix. -/
structure EntryPoint where
  function : VulkanFunction
  suffix : Suffix
  deriving DecidableEq, Repr

instance : Inhabited EntryPoint := ⟨.vkBeginCommandBuffer, .core⟩

structure BufferCopy where
  sourceOffset : UInt64
  destinationOffset : UInt64
  size : UInt64
  deriving DecidableEq

structure BufferImageCopy where
  bufferOffset : UInt64
  bufferRowLength : UInt32
  bufferImageHeight : UInt32
  imageSubresource : ImageSubresourceLayers
  imageOffset : Offset3D
  imageExtent : Extent3D
  deriving DecidableEq

structure ImageCopy where
  sourceSubresource : ImageSubresourceLayers
  sourceOffset : Offset3D
  destinationSubresource : ImageSubresourceLayers
  destinationOffset : Offset3D
  extent : Extent3D
  deriving DecidableEq

structure ImageBlit where
  sourceSubresource : ImageSubresourceLayers
  sourceOffsets : Offset3D × Offset3D
  destinationSubresource : ImageSubresourceLayers
  destinationOffsets : Offset3D × Offset3D
  deriving DecidableEq

structure BufferMemoryBarrier where
  sourceAccessMask : UInt32
  destinationAccessMask : UInt32
  sourceQueueFamilyIndex : UInt32
  destinationQueueFamilyIndex : UInt32
  buffer : UInt64
  offset : UInt64
  size : UInt64
  deriving DecidableEq

/-- The values `VkRenderingInfo` carries; an attachment without feedback loop
structure has `feedbackLoopEnable` 0. -/
structure RenderingInfo where
  flags : UInt32
  offset : Int32 × Int32
  extent : UInt32 × UInt32
  layerCount : UInt32
  viewMask : UInt32
  colorAttachments : List RenderingAttachment
  depthAttachment : Option RenderingAttachment
  stencilAttachment : Option RenderingAttachment

/-! The regions of a transfer as each call takes them. -/

def TransferRegion.bufferCopy (region : TransferRegion) : BufferCopy :=
  ⟨region.sourceBufferOffset, region.destinationBufferOffset, region.size⟩

def TransferRegion.bufferToImage (region : TransferRegion) : BufferImageCopy :=
  { bufferOffset := region.sourceBufferOffset
    bufferRowLength := region.bufferRowLength
    bufferImageHeight := region.bufferImageHeight
    imageSubresource := region.destinationLayers
    imageOffset := slot region.destinationOffsets 0
    imageExtent := region.extent }

def TransferRegion.imageToBuffer (region : TransferRegion) : BufferImageCopy :=
  { bufferOffset := region.destinationBufferOffset
    bufferRowLength := region.bufferRowLength
    bufferImageHeight := region.bufferImageHeight
    imageSubresource := region.sourceLayers
    imageOffset := slot region.sourceOffsets 0
    imageExtent := region.extent }

def TransferRegion.imageCopy (region : TransferRegion) : ImageCopy :=
  { sourceSubresource := region.sourceLayers
    sourceOffset := slot region.sourceOffsets 0
    destinationSubresource := region.destinationLayers
    destinationOffset := slot region.destinationOffsets 0
    extent := region.extent }

def TransferRegion.imageBlit (region : TransferRegion) : ImageBlit :=
  { sourceSubresource := region.sourceLayers
    sourceOffsets := (slot region.sourceOffsets 0, slot region.sourceOffsets 1)
    destinationSubresource := region.destinationLayers
    destinationOffsets := (slot region.destinationOffsets 0, slot region.destinationOffsets 1) }

inductive NativeArguments where
  | beginCommandBuffer (flags : UInt32)
  | endCommandBuffer
  | fillBuffer (buffer offset size : UInt64) (data : UInt32)
  | pipelineBarrier (sourceStageMask destinationStageMask dependencyFlags : UInt32)
      (buffers : List BufferMemoryBarrier)
  | pipelineBarrier2 (dependencyFlags : UInt32) (memory : List MemoryBarrier2)
      (buffers : List BufferBarrier2) (images : List ImageBarrier2)
  | clearColorImage (image : UInt64) (layout : UInt32) (color : List UInt32)
      (ranges : List ImageSubresourceRange)
  | clearDepthStencilImage (image : UInt64) (layout depth stencil : UInt32)
      (ranges : List ImageSubresourceRange)
  | clearAttachments (attachments : List ClearAttachment) (rects : List ClearRect)
  | bindDescriptorSets (bindPoint : UInt32) (layout : UInt64) (firstSet : UInt32) (sets : List UInt64)
      (dynamicOffsets : List UInt32)
  | resetQueryPool (pool : UInt64) (firstQuery queryCount : UInt32)
  | beginQuery (pool : UInt64) (query flags : UInt32)
  | endQuery (pool : UInt64) (query : UInt32)
  | writeTimestamp (stageMask : UInt64) (pool : UInt64) (query : UInt32)
  | beginQueryIndexed (pool : UInt64) (query flags index : UInt32)
  | endQueryIndexed (pool : UInt64) (query index : UInt32)
  | bindVertexBuffers (firstBinding : UInt32) (buffers offsets : List UInt64)
      (sizes strides : Option (List UInt64))
  | updateBuffer (buffer offset : UInt64) (data : List UInt8)
  | bindIndexBuffer (buffer offset : UInt64) (size : Option UInt64) (indexType : UInt32)
  | draw (command : DrawCommand)
  | drawIndexed (command : DrawIndexedCommand)
  | drawIndirect (buffer offset : UInt64) (drawCount stride : UInt32)
  | drawIndirectCount (buffer offset countBuffer countBufferOffset : UInt64)
      (maximumDrawCount stride : UInt32)
  | dynamicState (values : List UInt32)
  | beginRendering (info : RenderingInfo)
  | endRendering
  | bindPipeline (bindPoint : UInt32) (pipeline : UInt64)
  | pushConstants (layout : UInt64) (stageFlags offset : UInt32) (data : List UInt8)
  | setViewports (viewports : List SetViewportCommand)
  | setScissors (scissors : List SetScissorCommand)
  | copyBuffer (source destination : UInt64) (regions : List BufferCopy)
  | copyBufferToImage (source destination : UInt64) (layout : UInt32) (regions : List BufferImageCopy)
  | copyImageToBuffer (source : UInt64) (layout : UInt32) (destination : UInt64)
      (regions : List BufferImageCopy)
  | copyImage (source : UInt64) (sourceLayout : UInt32) (destination : UInt64) (destinationLayout : UInt32)
      (regions : List ImageCopy)
  | blitImage (source : UInt64) (sourceLayout : UInt32) (destination : UInt64) (destinationLayout : UInt32)
      (regions : List ImageBlit) (filter : UInt32)
  | resolveImage (source : UInt64) (sourceLayout : UInt32) (destination : UInt64)
      (destinationLayout : UInt32) (regions : List ImageCopy)

structure NativeCall where
  entryPoint : EntryPoint
  commandBuffer : UInt64
  arguments : NativeArguments

/-- The first `count` elements of an array handed over with that count. -/
def listed {α : Type} [Inhabited α] {size : Nat} (count : UInt32) (items : Fin size → α) : List α :=
  (List.range count.toNat).map (slot items)

/-- A handle argument that may be `VK_NULL_HANDLE`. -/
def nullable (type : ObjectType) (bits : UInt64) : List (ObjectType × UInt64) :=
  if bits = 0 then [] else [(type, bits)]

def RenderingAttachment.views (attachment : RenderingAttachment) : List (ObjectType × UInt64) :=
  nullable .imageView attachment.imageViewId ++ nullable .imageView attachment.resolveImageViewId

def RenderingInfo.views (info : RenderingInfo) : List (ObjectType × UInt64) :=
  (info.colorAttachments ++ info.depthAttachment.toList ++ info.stencilAttachment.toList).flatMap
    RenderingAttachment.views

/-- The handles among the arguments, the null handle left out where the call
may take it. -/
def NativeArguments.handles : NativeArguments → List (ObjectType × UInt64)
  | .fillBuffer buffer _ _ _ => [(.buffer, buffer)]
  | .pipelineBarrier _ _ _ buffers => buffers.map fun barrier => (.buffer, barrier.buffer)
  | .pipelineBarrier2 _ _ buffers images =>
      buffers.map (fun barrier => (.buffer, barrier.bufferId)) ++
        images.map fun barrier => (.image, barrier.imageId)
  | .clearColorImage image _ _ _ | .clearDepthStencilImage image _ _ _ _ => [(.image, image)]
  | .bindDescriptorSets _ layout _ sets _ =>
      (.pipelineLayout, layout) :: sets.map fun set => (.descriptorSet, set)
  | .resetQueryPool pool _ _ | .beginQuery pool _ _ | .endQuery pool _ | .writeTimestamp _ pool _
  | .beginQueryIndexed pool _ _ _ | .endQueryIndexed pool _ _ => [(.queryPool, pool)]
  | .bindVertexBuffers _ buffers _ _ _ => buffers.flatMap (nullable .buffer)
  | .updateBuffer buffer _ _ => [(.buffer, buffer)]
  | .bindIndexBuffer buffer _ _ _ => nullable .buffer buffer
  | .drawIndirect buffer _ _ _ => [(.buffer, buffer)]
  | .drawIndirectCount buffer _ countBuffer _ _ _ => [(.buffer, buffer), (.buffer, countBuffer)]
  | .beginRendering info => info.views
  | .bindPipeline _ pipeline => [(.pipeline, pipeline)]
  | .pushConstants layout _ _ _ => [(.pipelineLayout, layout)]
  | .copyBuffer source destination _ => [(.buffer, source), (.buffer, destination)]
  | .copyBufferToImage source destination _ _ => [(.buffer, source), (.image, destination)]
  | .copyImageToBuffer source _ destination _ => [(.image, source), (.buffer, destination)]
  | .copyImage source _ destination _ _ | .blitImage source _ destination _ _ _
  | .resolveImage source _ destination _ _ => [(.image, source), (.image, destination)]
  | .beginCommandBuffer _ | .endCommandBuffer | .clearAttachments _ _ | .draw _ | .drawIndexed _
  | .dynamicState _ | .endRendering | .setViewports _ | .setScissors _ => []

def NativeCall.handles (call : NativeCall) : List (ObjectType × UInt64) :=
  (.commandBuffer, call.commandBuffer) :: call.arguments.handles

def NativeArguments.isDraw : NativeArguments → Bool
  | .draw _ | .drawIndexed _ | .drawIndirect _ _ _ _ | .drawIndirectCount _ _ _ _ _ _ => true
  | _ => false

def NativeArguments.isBeginRendering : NativeArguments → Bool
  | .beginRendering _ => true
  | _ => false

def NativeArguments.isEndRendering : NativeArguments → Bool
  | .endRendering => true
  | _ => false

end VulkanBridge
