import VulkanBridge.NativeCalls

/-!
The `vkCmd*` entry points of the client in `global_dispatch.c`: their arguments,
the shapes each of them supports and the command it makes of its arguments. A
handle is its wire id, a pointer an `Option`, an array a function of the index,
and a float its 32-bit pattern.
-/

namespace VulkanBridge

/-- The values of `sType` the client compares with. -/
inductive StructureType where
  | commandBufferBeginInfo
  | renderingInfo
  | renderingAttachmentInfo
  | attachmentFeedbackLoopInfo
  | dependencyInfo
  | memoryBarrier2
  | bufferMemoryBarrier2
  | imageMemoryBarrier2
  | copyBufferInfo2
  | copyBufferToImageInfo2
  | copyImageToBufferInfo2
  | copyImageInfo2
  | blitImageInfo2
  | resolveImageInfo2
  | bufferCopy2
  | bufferImageCopy2
  | imageCopy2
  | imageBlit2
  | imageResolve2
  | other (value : UInt32)
  deriving DecidableEq, Repr

/-- A Vulkan structure that can be extended; `next` says whether `pNext` is set. -/
structure Chained (Members : Type) where
  sType : StructureType
  next : Bool
  members : Members

def Chained.isPlain {Members : Type} (info : Chained Members) (expected : StructureType) : Bool :=
  info.sType == expected && !info.next

/-! ## Arguments -/

structure RenderingAttachmentInfo where
  sType : StructureType
  feedbackLoop : Option (Chained UInt32)
  imageView : UInt64
  imageLayout : UInt32
  resolveMode : UInt32
  resolveImageView : UInt64
  resolveImageLayout : UInt32
  loadOp : UInt32
  storeOp : UInt32
  clearValue : Fin 4 → UInt32

structure RenderingRequest where
  flags : UInt32
  offsetX : Int32
  offsetY : Int32
  width : UInt32
  height : UInt32
  layerCount : UInt32
  viewMask : UInt32
  colorAttachmentCount : UInt32
  colorAttachments : Option (Nat → RenderingAttachmentInfo)
  depthAttachment : Option RenderingAttachmentInfo
  stencilAttachment : Option RenderingAttachmentInfo

structure CopyBufferInfo where
  source : UInt64
  destination : UInt64
  regionCount : UInt32
  regions : Option (Nat → Chained BufferCopy)

structure CopyBufferToImageInfo where
  source : UInt64
  destination : UInt64
  destinationLayout : UInt32
  regionCount : UInt32
  regions : Option (Nat → Chained BufferImageCopy)

structure CopyImageToBufferInfo where
  source : UInt64
  sourceLayout : UInt32
  destination : UInt64
  regionCount : UInt32
  regions : Option (Nat → Chained BufferImageCopy)

structure CopyImageInfo where
  source : UInt64
  sourceLayout : UInt32
  destination : UInt64
  destinationLayout : UInt32
  regionCount : UInt32
  regions : Option (Nat → Chained ImageCopy)

structure BlitImageInfo where
  source : UInt64
  sourceLayout : UInt32
  destination : UInt64
  destinationLayout : UInt32
  regionCount : UInt32
  regions : Option (Nat → Chained ImageBlit)
  filter : UInt32

structure DependencyInfo where
  dependencyFlags : UInt32
  memoryBarrierCount : UInt32
  memoryBarriers : Option (Nat → Chained MemoryBarrier2)
  bufferMemoryBarrierCount : UInt32
  bufferMemoryBarriers : Option (Nat → Chained BufferBarrier2)
  imageMemoryBarrierCount : UInt32
  imageMemoryBarriers : Option (Nat → Chained ImageBarrier2)

structure ClearDepthStencilValue where
  depth : UInt32
  stencil : UInt32
  deriving DecidableEq, Repr

/-- A call of an implemented `vkCmd*` entry point on a command buffer. -/
inductive ClientCall where
  | vkCmdResetQueryPool (queryPool : UInt64) (firstQuery queryCount : UInt32)
  | vkCmdBeginQuery (queryPool : UInt64) (query flags : UInt32)
  | vkCmdEndQuery (queryPool : UInt64) (query : UInt32)
  | vkCmdWriteTimestamp (stage : UInt32) (queryPool : UInt64) (query : UInt32)
  | vkCmdWriteTimestamp2 (stage queryPool : UInt64) (query : UInt32)
  | vkCmdBeginQueryIndexedEXT (queryPool : UInt64) (query flags index : UInt32)
  | vkCmdEndQueryIndexedEXT (queryPool : UInt64) (query index : UInt32)
  | vkCmdBeginRendering (info : Option (Chained RenderingRequest))
  | vkCmdEndRendering
  | vkCmdBindPipeline (bindPoint : UInt32) (pipeline : UInt64)
  | vkCmdPushConstants (layout : UInt64) (stageFlags offset size : UInt32) (values : Option (Nat → UInt8))
  | vkCmdSetViewportWithCount (viewportCount : UInt32) (viewports : Option (Nat → SetViewportCommand))
  | vkCmdSetScissorWithCount (scissorCount : UInt32) (scissors : Option (Nat → SetScissorCommand))
  | vkCmdDraw (vertexCount instanceCount firstVertex firstInstance : UInt32)
  | vkCmdBindVertexBuffers (firstBinding bindingCount : UInt32) (buffers offsets : Option (Nat → UInt64))
  | vkCmdBindVertexBuffers2 (firstBinding bindingCount : UInt32)
      (buffers offsets sizes strides : Option (Nat → UInt64))
  | vkCmdBindIndexBuffer (buffer offset : UInt64) (indexType : UInt32)
  | vkCmdBindIndexBuffer2 (buffer offset size : UInt64) (indexType : UInt32)
  | vkCmdDrawIndexed (indexCount instanceCount firstIndex : UInt32) (vertexOffset : Int32)
      (firstInstance : UInt32)
  | vkCmdDrawIndirect (buffer offset : UInt64) (drawCount stride : UInt32)
  | vkCmdDrawIndexedIndirect (buffer offset : UInt64) (drawCount stride : UInt32)
  | vkCmdDrawIndirectCount (buffer offset countBuffer countBufferOffset : UInt64)
      (maximumDrawCount stride : UInt32)
  | vkCmdDrawIndexedIndirectCount (buffer offset countBuffer countBufferOffset : UInt64)
      (maximumDrawCount stride : UInt32)
  | vkCmdSetCullMode (cullMode : UInt32)
  | vkCmdSetFrontFace (frontFace : UInt32)
  | vkCmdSetPrimitiveTopology (topology : UInt32)
  | vkCmdSetDepthTestEnable (enable : UInt32)
  | vkCmdSetDepthWriteEnable (enable : UInt32)
  | vkCmdSetDepthCompareOp (compareOp : UInt32)
  | vkCmdSetDepthBoundsTestEnable (enable : UInt32)
  | vkCmdSetStencilTestEnable (enable : UInt32)
  | vkCmdSetStencilOp (faceMask failOp passOp depthFailOp compareOp : UInt32)
  | vkCmdSetRasterizerDiscardEnable (enable : UInt32)
  | vkCmdSetDepthBiasEnable (enable : UInt32)
  | vkCmdSetPrimitiveRestartEnable (enable : UInt32)
  | vkCmdSetDepthBias (constantFactor clamp slopeFactor : UInt32)
  | vkCmdSetDepthBounds (minimum maximum : UInt32)
  | vkCmdSetStencilCompareMask (faceMask compareMask : UInt32)
  | vkCmdSetStencilWriteMask (faceMask writeMask : UInt32)
  | vkCmdSetStencilReference (faceMask reference : UInt32)
  | vkCmdSetLineWidth (lineWidth : UInt32)
  | vkCmdSetBlendConstants (blendConstants : Option (Fin 4 → UInt32))
  | vkCmdClearDepthStencilImage (image : UInt64) (imageLayout : UInt32)
      (value : Option ClearDepthStencilValue) (rangeCount : UInt32)
      (ranges : Option (Nat → ImageSubresourceRange))
  | vkCmdClearAttachments (attachmentCount : UInt32) (attachments : Option (Nat → ClearAttachment))
      (rectCount : UInt32) (rects : Option (Nat → ClearRect))
  | vkCmdCopyBuffer2 (info : Option (Chained CopyBufferInfo))
  | vkCmdCopyBufferToImage2 (info : Option (Chained CopyBufferToImageInfo))
  | vkCmdCopyImageToBuffer2 (info : Option (Chained CopyImageToBufferInfo))
  | vkCmdCopyImage2 (info : Option (Chained CopyImageInfo))
  | vkCmdBlitImage2 (info : Option (Chained BlitImageInfo))
  | vkCmdResolveImage2 (info : Option (Chained CopyImageInfo))
  | vkCmdUpdateBuffer (destinationBuffer destinationOffset dataSize : UInt64) (data : Option (Nat → UInt8))
  | vkCmdCopyBuffer (source destination : UInt64) (regionCount : UInt32)
      (regions : Option (Nat → BufferCopy))
  | vkCmdCopyBufferToImage (source destination : UInt64) (layout regionCount : UInt32)
      (regions : Option (Nat → BufferImageCopy))
  | vkCmdCopyImageToBuffer (source : UInt64) (layout : UInt32) (destination : UInt64)
      (regionCount : UInt32) (regions : Option (Nat → BufferImageCopy))
  | vkCmdCopyImage (source : UInt64) (sourceLayout : UInt32) (destination : UInt64)
      (destinationLayout regionCount : UInt32) (regions : Option (Nat → ImageCopy))
  | vkCmdBlitImage (source : UInt64) (sourceLayout : UInt32) (destination : UInt64)
      (destinationLayout regionCount : UInt32) (regions : Option (Nat → ImageBlit)) (filter : UInt32)
  | vkCmdResolveImage (source : UInt64) (sourceLayout : UInt32) (destination : UInt64)
      (destinationLayout regionCount : UInt32) (regions : Option (Nat → ImageCopy))
  | vkCmdBindDescriptorSets (pipelineBindPoint : UInt32) (layout : UInt64)
      (firstSet descriptorSetCount : UInt32) (descriptorSets : Option (Nat → UInt64))
      (dynamicOffsetCount : UInt32) (dynamicOffsets : Option (Nat → UInt32))
  | vkCmdPipelineBarrier2 (info : Option (Chained DependencyInfo))
  | vkCmdClearColorImage (image : UInt64) (imageLayout : UInt32) (color : Option (Fin 4 → UInt32))
      (rangeCount : UInt32) (ranges : Option (Nat → ImageSubresourceRange))
  | vkCmdFillBuffer (destinationBuffer destinationOffset size : UInt64) (data : UInt32)

/-! ## Supported values -/

def initImageSubresourceRangeSupported (range : ImageSubresourceRange) : Bool :=
  range.aspectMask == 1 && range.baseMipLevel == 0 && range.levelCount == 1 &&
    range.baseArrayLayer == 0 && range.layerCount == 1

def commandImageBarrierRangeSupported (range : ImageSubresourceRange) : Bool :=
  range.aspectMask != 0 && range.aspectMask &&& ~~~0x7ff == 0 && range.levelCount != 0 &&
    range.layerCount != 0

def commandClearColorRangeSupported (range : ImageSubresourceRange) : Bool :=
  commandImageBarrierRangeSupported range && range.aspectMask == 1

/-- The cases of `command_image_layout_supported` in the order of the source. -/
def commandImageLayouts : List UInt32 :=
  [0, 1, 2, 3, 4, 5, 6, 7, 8, 1000117000, 1000117001, 1000241000, 1000241001, 1000241002, 1000241003,
    1000001002, 1000111000, 1000314000, 1000314001, 1000232000, 1000218000, 1000164003, 1000339000,
    1000620000]

def commandImageLayoutSupported (layout : UInt32) : Bool := commandImageLayouts.contains layout

/-! ## From arguments to commands

Each function returns `none` where the source poisons the command buffer for an
unsupported shape. -/

/-- The command of `record_query_command`, which checks nothing itself. -/
def queryCommand (queryPool : UInt64) (firstQuery queryCount flags index : UInt32) (stageMask : UInt64)
    (kind : QueryKind) : Command :=
  .query
    { queryPoolId := queryPool
      stageMask := stageMask
      firstQuery := firstQuery
      queryCount := queryCount
      flags := flags
      index := index
      kind := kind.code }

/-- The feedback-loop word of an attachment's `pNext`. -/
def feedbackLoopEnable : Option (Chained UInt32) → Option UInt32
  | none => some 0
  | some feedback =>
      if !feedback.isPlain .attachmentFeedbackLoopInfo || feedback.members > 1 then none
      else some feedback.members

def renderingAttachmentToCommand (attachment : Option RenderingAttachmentInfo) (required : Bool) :
    Option RenderingAttachment :=
  match attachment with
  | none => if required then none else some default
  | some attachment =>
      if attachment.sType != .renderingAttachmentInfo then none
      else
        match feedbackLoopEnable attachment.feedbackLoop with
        | none => none
        | some feedback =>
            if attachment.imageView == 0 then
              if !required && attachment.resolveMode == 0 && attachment.resolveImageView == 0 then
                some { (default : RenderingAttachment) with feedbackLoopEnable := feedback }
              else none
            else if !commandImageLayoutSupported attachment.imageLayout then none
            else if attachment.resolveMode == 0 then
              if attachment.resolveImageView != 0 then none
              else
                some
                  { imageViewId := attachment.imageView
                    resolveImageViewId := 0
                    imageLayout := attachment.imageLayout
                    resolveMode := attachment.resolveMode
                    resolveImageLayout := 0
                    loadOp := attachment.loadOp
                    storeOp := attachment.storeOp
                    feedbackLoopEnable := feedback
                    clearWords := attachment.clearValue }
            else if attachment.resolveImageView == 0 ||
                !commandImageLayoutSupported attachment.resolveImageLayout then none
            else
              some
                { imageViewId := attachment.imageView
                  resolveImageViewId := attachment.resolveImageView
                  imageLayout := attachment.imageLayout
                  resolveMode := attachment.resolveMode
                  resolveImageLayout := attachment.resolveImageLayout
                  loadOp := attachment.loadOp
                  storeOp := attachment.storeOp
                  feedbackLoopEnable := feedback
                  clearWords := attachment.clearValue }

def optionalAttachmentToCommand : Option RenderingAttachmentInfo → Option RenderingAttachment
  | none => some default
  | some attachment => renderingAttachmentToCommand (some attachment) true

def vkCmdBeginRendering : Option (Chained RenderingRequest) → Option Command
  | none => none
  | some chained =>
      let info := chained.members
      if !chained.isPlain .renderingInfo || info.width == 0 || info.height == 0 || info.layerCount == 0 ||
          info.colorAttachmentCount > 8 ||
          (info.colorAttachmentCount != 0 && info.colorAttachments.isNone) ||
          (info.colorAttachmentCount == 0 && info.depthAttachment.isNone && info.stencilAttachment.isNone) then
        none
      else do
        let colors ← (List.range info.colorAttachmentCount.toNat).mapM fun index =>
          renderingAttachmentToCommand (info.colorAttachments.map (· index)) false
        let depth ← optionalAttachmentToCommand info.depthAttachment
        let stencil ← optionalAttachmentToCommand info.stencilAttachment
        return .beginRendering
          { flags := info.flags
            renderOffsetX := info.offsetX
            renderOffsetY := info.offsetY
            width := info.width
            height := info.height
            layerCount := info.layerCount
            viewMask := info.viewMask
            colorAttachmentCount := info.colorAttachmentCount
            hasDepthAttachment := if info.depthAttachment.isNone then 0 else 1
            hasStencilAttachment := if info.stencilAttachment.isNone then 0 else 1
            colorAttachments := fill 8 info.colorAttachmentCount.toNat fun index => colors.getD index default
            depthAttachment := depth
            stencilAttachment := stencil }

def vkCmdBindPipeline (bindPoint : UInt32) (pipeline : UInt64) : Option Command :=
  if bindPoint != 0 || pipeline == 0 then none else some (.bindGraphicsPipeline ⟨pipeline⟩)

def vkCmdPushConstants (layout : UInt64) (stageFlags offset size : UInt32) :
    Option (Nat → UInt8) → Option Command
  | none => none
  | some values =>
      if layout == 0 || stageFlags == 0 || size == 0 || size > 256 || offset &&& 3 != 0 ||
          size &&& 3 != 0 || offset > 256 - size then none
      else
        some (.pushConstants
          { pipelineLayoutId := layout
            stageFlags := stageFlags
            offset := offset
            size := size
            data := fill 256 size.toNat values })

def vkCmdSetViewportWithCount (viewportCount : UInt32) :
    Option (Nat → SetViewportCommand) → Option Command
  | none => none
  | some viewports => if viewportCount != 1 then none else some (.setViewport (viewports 0))

def vkCmdSetScissorWithCount (scissorCount : UInt32) : Option (Nat → SetScissorCommand) → Option Command
  | none => none
  | some scissors => if scissorCount != 1 then none else some (.setScissor (scissors 0))

/-- The shape both `vkCmdBindVertexBuffers` functions accept. -/
def vertexShapeSupported (firstBinding bindingCount : UInt32) : Bool :=
  !(bindingCount == 0 || bindingCount > 16 || firstBinding > 0xffffffff - bindingCount)

def vertexBuffersCommand (firstBinding bindingCount : UInt32) (buffers offsets : Nat → UInt64)
    (sizes strides : Option (Nat → UInt64)) : BindVertexBuffersCommand :=
  { firstBinding := firstBinding
    bindingCount := bindingCount
    hasSizes := if sizes.isSome then 1 else 0
    hasStrides := if strides.isSome then 1 else 0
    bufferIds := fill 16 bindingCount.toNat buffers
    offsets := fill 16 bindingCount.toNat offsets
    sizes := fill 16 bindingCount.toNat (sizes.getD fun _ => 0)
    strides := fill 16 bindingCount.toNat (strides.getD fun _ => 0) }

def vkCmdBindVertexBuffers (opcode : Opcode) (firstBinding bindingCount : UInt32)
    (buffers offsets sizes strides : Option (Nat → UInt64)) : Option Command :=
  match buffers, offsets with
  | some buffers, some offsets =>
      if !vertexShapeSupported firstBinding bindingCount then none
      else
        some (.bindVertexBuffers opcode.code
          (vertexBuffersCommand firstBinding bindingCount buffers offsets sizes strides))
  | _, _ => none

/-- The command of `submit_dynamic_state_command`. -/
def dynamicStateCommand (kind : DynamicStateKind) (values : List UInt32) : Option Command :=
  if values.length == 0 || values.length > 8 then none
  else
    some (.dynamicState
      { kind := kind.code
        valueCount := UInt32.ofNat values.length
        values := fill 8 values.length fun index => values.getD index 0 })

def vkCmdClearDepthStencilImage (image : UInt64) (imageLayout : UInt32)
    (value : Option ClearDepthStencilValue) (rangeCount : UInt32)
    (ranges : Option (Nat → ImageSubresourceRange)) : Option Command :=
  match value, ranges with
  | some value, some ranges =>
      if (imageLayout != 1 && imageLayout != 7) || rangeCount == 0 || rangeCount > 4 then none
      else if (List.range rangeCount.toNat).any (fun index =>
          (ranges index).aspectMask &&& ~~~6 != 0 || (ranges index).aspectMask &&& 6 == 0 ||
            (ranges index).levelCount == 0 || (ranges index).layerCount == 0) then none
      else
        some (.clearDepthStencilImage
          { imageId := image
            imageLayout := imageLayout
            rangeCount := rangeCount
            depthWord := value.depth
            stencil := value.stencil
            ranges := fill 4 rangeCount.toNat ranges })
  | _, _ => none

def vkCmdClearAttachments (attachmentCount : UInt32) (attachments : Option (Nat → ClearAttachment))
    (rectCount : UInt32) (rects : Option (Nat → ClearRect)) : Option Command :=
  match attachments, rects with
  | some attachments, some rects =>
      if attachmentCount == 0 || attachmentCount > 8 || rectCount == 0 || rectCount > 8 then none
      else if (List.range attachmentCount.toNat).any (fun index =>
          (attachments index).aspectMask == 0 || (attachments index).aspectMask &&& ~~~7 != 0) then none
      else if (List.range rectCount.toNat).any (fun index =>
          (rects index).width == 0 || (rects index).height == 0 || (rects index).layerCount == 0) then none
      else
        some (.clearAttachments
          { attachmentCount := attachmentCount
            rectCount := rectCount
            attachments := fill 8 attachmentCount.toNat attachments
            rects := fill 8 rectCount.toNat rects })
  | _, _ => none

/-! Transfers: the regions of each info, then the info. -/

def transferRegions {Region : Type} (expected : StructureType) (supported : Region → Bool)
    (toWire : Region → TransferRegion) (regionCount : UInt32) (regions : Nat → Chained Region) :
    Option (Fin 16 → TransferRegion) :=
  if (List.range regionCount.toNat).any (fun index =>
      !(regions index).isPlain expected || !supported (regions index).members) then none
  else some (fill 16 regionCount.toNat fun index => toWire (regions index).members)

def layersSupported (layers : ImageSubresourceLayers) : Bool :=
  !(layers.aspectMask == 0 || layers.layerCount == 0)

def extentSupported (extent : Extent3D) : Bool :=
  !(extent.width == 0 || extent.height == 0 || extent.depth == 0)

def firstOffset (offset : Offset3D) : Fin 2 → Offset3D := fill 2 1 fun _ => offset

def bufferCopyToWire (region : BufferCopy) : TransferRegion :=
  { (default : TransferRegion) with
    sourceBufferOffset := region.sourceOffset
    destinationBufferOffset := region.destinationOffset
    size := region.size }

def bufferToImageToWire (region : BufferImageCopy) : TransferRegion :=
  { (default : TransferRegion) with
    sourceBufferOffset := region.bufferOffset
    bufferRowLength := region.bufferRowLength
    bufferImageHeight := region.bufferImageHeight
    destinationLayers := region.imageSubresource
    destinationOffsets := firstOffset region.imageOffset
    extent := region.imageExtent }

def imageToBufferToWire (region : BufferImageCopy) : TransferRegion :=
  { (default : TransferRegion) with
    destinationBufferOffset := region.bufferOffset
    bufferRowLength := region.bufferRowLength
    bufferImageHeight := region.bufferImageHeight
    sourceLayers := region.imageSubresource
    sourceOffsets := firstOffset region.imageOffset
    extent := region.imageExtent }

def imageCopyToWire (region : ImageCopy) : TransferRegion :=
  { (default : TransferRegion) with
    sourceLayers := region.sourceSubresource
    destinationLayers := region.destinationSubresource
    sourceOffsets := firstOffset region.sourceOffset
    destinationOffsets := firstOffset region.destinationOffset
    extent := region.extent }

def imageBlitToWire (region : ImageBlit) : TransferRegion :=
  { (default : TransferRegion) with
    sourceLayers := region.sourceSubresource
    destinationLayers := region.destinationSubresource
    sourceOffsets := fun index => if index = 0 then region.sourceOffsets.1 else region.sourceOffsets.2
    destinationOffsets := fun index =>
      if index = 0 then region.destinationOffsets.1 else region.destinationOffsets.2
    extent := ⟨1, 1, 1⟩ }

def regionCountSupported (regionCount : UInt32) : Bool := !(regionCount == 0 || regionCount > 16)

def bufferImageCopySupported (region : BufferImageCopy) : Bool :=
  layersSupported region.imageSubresource && extentSupported region.imageExtent

def imageCopySupported (region : ImageCopy) : Bool :=
  layersSupported region.sourceSubresource && layersSupported region.destinationSubresource &&
    extentSupported region.extent

def imageBlitSupported (region : ImageBlit) : Bool :=
  layersSupported region.sourceSubresource && layersSupported region.destinationSubresource

def vkCmdCopyBuffer2 : Option (Chained CopyBufferInfo) → Option Command
  | none => none
  | some chained =>
      let info := chained.members
      match info.regions with
      | none => none
      | some regions =>
          if !chained.isPlain .copyBufferInfo2 || info.source == 0 || info.destination == 0 ||
              !regionCountSupported info.regionCount then none
          else do
            let wire ← transferRegions .bufferCopy2 (fun region => region.size != 0) bufferCopyToWire
              info.regionCount regions
            return .transfer Opcode.copyBuffer2.code
              ⟨info.source, info.destination, 0, 0, 0, info.regionCount, wire⟩

def vkCmdCopyBufferToImage2 : Option (Chained CopyBufferToImageInfo) → Option Command
  | none => none
  | some chained =>
      let info := chained.members
      match info.regions with
      | none => none
      | some regions =>
          if !chained.isPlain .copyBufferToImageInfo2 || info.source == 0 || info.destination == 0 ||
              info.destinationLayout == 0 || !regionCountSupported info.regionCount then none
          else do
            let wire ← transferRegions .bufferImageCopy2 bufferImageCopySupported bufferToImageToWire
              info.regionCount regions
            return .transfer Opcode.copyBufferToImage2.code
              ⟨info.source, info.destination, 0, info.destinationLayout, 0, info.regionCount, wire⟩

def vkCmdCopyImageToBuffer2 : Option (Chained CopyImageToBufferInfo) → Option Command
  | none => none
  | some chained =>
      let info := chained.members
      match info.regions with
      | none => none
      | some regions =>
          if !chained.isPlain .copyImageToBufferInfo2 || info.source == 0 || info.destination == 0 ||
              info.sourceLayout == 0 || !regionCountSupported info.regionCount then none
          else do
            let wire ← transferRegions .bufferImageCopy2 bufferImageCopySupported imageToBufferToWire
              info.regionCount regions
            return .transfer Opcode.copyImageToBuffer2.code
              ⟨info.source, info.destination, info.sourceLayout, 0, 0, info.regionCount, wire⟩

/-- The copy and the resolve between images, which differ in the structure
types and the opcode. -/
def imageCopyCommand (infoType regionType : StructureType) (opcode : Opcode) :
    Option (Chained CopyImageInfo) → Option Command
  | none => none
  | some chained =>
      let info := chained.members
      match info.regions with
      | none => none
      | some regions =>
          if !chained.isPlain infoType || info.source == 0 || info.destination == 0 ||
              info.sourceLayout == 0 || info.destinationLayout == 0 ||
              !regionCountSupported info.regionCount then none
          else do
            let wire ← transferRegions regionType imageCopySupported imageCopyToWire info.regionCount regions
            return .transfer opcode.code
              ⟨info.source, info.destination, info.sourceLayout, info.destinationLayout, 0, info.regionCount,
                wire⟩

def vkCmdCopyImage2 : Option (Chained CopyImageInfo) → Option Command :=
  imageCopyCommand .copyImageInfo2 .imageCopy2 .copyImage2

def vkCmdResolveImage2 : Option (Chained CopyImageInfo) → Option Command :=
  imageCopyCommand .resolveImageInfo2 .imageResolve2 .resolveImage2

def vkCmdBlitImage2 : Option (Chained BlitImageInfo) → Option Command
  | none => none
  | some chained =>
      let info := chained.members
      match info.regions with
      | none => none
      | some regions =>
          if !chained.isPlain .blitImageInfo2 || info.source == 0 || info.destination == 0 ||
              info.sourceLayout == 0 || info.destinationLayout == 0 ||
              (info.filter != 0 && info.filter != 1) || !regionCountSupported info.regionCount then none
          else do
            let wire ← transferRegions .imageBlit2 imageBlitSupported imageBlitToWire info.regionCount regions
            return .transfer Opcode.blitImage2.code
              ⟨info.source, info.destination, info.sourceLayout, info.destinationLayout, info.filter,
                info.regionCount, wire⟩

/-- The regions a call without infos converts to chained ones before it calls the
function that takes the info. -/
def convertedRegions {Region : Type} (regionType : StructureType) (regionCount : UInt32) :
    Option (Nat → Region) → Option (Nat → Chained Region)
  | none => none
  | some regions =>
      if !regionCountSupported regionCount then none
      else some fun index => ⟨regionType, false, regions index⟩

def vkCmdCopyBuffer (source destination : UInt64) (regionCount : UInt32)
    (regions : Option (Nat → BufferCopy)) : Option Command := do
  let converted ← convertedRegions .bufferCopy2 regionCount regions
  vkCmdCopyBuffer2 (some ⟨.copyBufferInfo2, false, source, destination, regionCount, some converted⟩)

def vkCmdCopyBufferToImage (source destination : UInt64) (layout regionCount : UInt32)
    (regions : Option (Nat → BufferImageCopy)) : Option Command := do
  let converted ← convertedRegions .bufferImageCopy2 regionCount regions
  vkCmdCopyBufferToImage2
    (some ⟨.copyBufferToImageInfo2, false, source, destination, layout, regionCount, some converted⟩)

def vkCmdCopyImageToBuffer (source : UInt64) (layout : UInt32) (destination : UInt64) (regionCount : UInt32)
    (regions : Option (Nat → BufferImageCopy)) : Option Command := do
  let converted ← convertedRegions .bufferImageCopy2 regionCount regions
  vkCmdCopyImageToBuffer2
    (some ⟨.copyImageToBufferInfo2, false, source, layout, destination, regionCount, some converted⟩)

def vkCmdCopyImage (source : UInt64) (sourceLayout : UInt32) (destination : UInt64)
    (destinationLayout regionCount : UInt32) (regions : Option (Nat → ImageCopy)) : Option Command := do
  let converted ← convertedRegions .imageCopy2 regionCount regions
  vkCmdCopyImage2 (some ⟨.copyImageInfo2, false, source, sourceLayout, destination, destinationLayout,
    regionCount, some converted⟩)

def vkCmdBlitImage (source : UInt64) (sourceLayout : UInt32) (destination : UInt64)
    (destinationLayout regionCount : UInt32) (regions : Option (Nat → ImageBlit)) (filter : UInt32) :
    Option Command := do
  let converted ← convertedRegions .imageBlit2 regionCount regions
  vkCmdBlitImage2 (some ⟨.blitImageInfo2, false, source, sourceLayout, destination, destinationLayout,
    regionCount, some converted, filter⟩)

def vkCmdResolveImage (source : UInt64) (sourceLayout : UInt32) (destination : UInt64)
    (destinationLayout regionCount : UInt32) (regions : Option (Nat → ImageCopy)) : Option Command := do
  let converted ← convertedRegions .imageResolve2 regionCount regions
  vkCmdResolveImage2 (some ⟨.resolveImageInfo2, false, source, sourceLayout, destination,
    destinationLayout, regionCount, some converted⟩)

def vkCmdUpdateBuffer (destinationBuffer destinationOffset dataSize : UInt64) :
    Option (Nat → UInt8) → Option Command
  | none => none
  | some data =>
      if destinationBuffer == 0 || dataSize == 0 || dataSize > 65536 || destinationOffset &&& 3 != 0 ||
          dataSize &&& 3 != 0 then none
      else
        some (.updateBuffer
          { bufferId := destinationBuffer
            offset := destinationOffset
            dataSize := dataSize.toUInt32
            data := fill 65536 dataSize.toNat data })

def vkCmdBindDescriptorSets (pipelineBindPoint : UInt32) (layout : UInt64)
    (firstSet descriptorSetCount : UInt32) (descriptorSets : Option (Nat → UInt64))
    (dynamicOffsetCount : UInt32) (dynamicOffsets : Option (Nat → UInt32)) : Option Command :=
  match descriptorSets with
  | none => none
  | some descriptorSets =>
      if (pipelineBindPoint != 0 && pipelineBindPoint != 1) || layout == 0 || descriptorSetCount == 0 ||
          descriptorSetCount > 8 || dynamicOffsetCount > 32 ||
          (dynamicOffsetCount != 0 && dynamicOffsets.isNone) then none
      else
        some (.bindDescriptorSets
          { pipelineLayoutId := layout
            pipelineBindPoint := pipelineBindPoint
            firstSet := firstSet
            descriptorSetCount := descriptorSetCount
            dynamicOffsetCount := dynamicOffsetCount
            descriptorSetIds := fill 8 descriptorSetCount.toNat descriptorSets
            dynamicOffsets := fill 32 dynamicOffsetCount.toNat (dynamicOffsets.getD fun _ => 0) })

def bufferBarrierSupported (barrier : Chained BufferBarrier2) : Bool :=
  barrier.isPlain .bufferMemoryBarrier2 && barrier.members.bufferId != 0 && barrier.members.size != 0

def imageMemoryBarrierSupported (barrier : Chained ImageBarrier2) : Bool :=
  barrier.isPlain .imageMemoryBarrier2 && commandImageLayoutSupported barrier.members.oldLayout &&
    commandImageLayoutSupported barrier.members.newLayout && barrier.members.newLayout != 0 &&
    barrier.members.newLayout != 8 && commandImageBarrierRangeSupported barrier.members.range

def barriersSupported {Barrier : Type} (count : UInt32) (barriers : Option (Nat → Chained Barrier))
    (supported : Chained Barrier → Bool) : Bool :=
  match barriers with
  | none => count == 0
  | some barriers => (List.range count.toNat).all fun index => supported (barriers index)

def barrierMembers {Barrier : Type} [Inhabited Barrier] (size : Nat) (count : UInt32)
    (barriers : Option (Nat → Chained Barrier)) : Fin size → Barrier :=
  fill size count.toNat fun index =>
    match barriers with
    | none => default
    | some barriers => (barriers index).members

def vkCmdPipelineBarrier2 : Option (Chained DependencyInfo) → Option Command
  | none => none
  | some chained =>
      let info := chained.members
      if !chained.isPlain .dependencyInfo || info.dependencyFlags &&& ~~~0x6f != 0 ||
          info.memoryBarrierCount > 64 || info.bufferMemoryBarrierCount > 256 ||
          info.imageMemoryBarrierCount > 2048 then none
      else if !barriersSupported info.memoryBarrierCount info.memoryBarriers
            (fun barrier => barrier.isPlain .memoryBarrier2) ||
          !barriersSupported info.bufferMemoryBarrierCount info.bufferMemoryBarriers
            bufferBarrierSupported ||
          !barriersSupported info.imageMemoryBarrierCount info.imageMemoryBarriers
            imageMemoryBarrierSupported then none
      else
        some (.imageBarrier2
          { dependencyFlags := info.dependencyFlags
            memoryCount := info.memoryBarrierCount
            bufferCount := info.bufferMemoryBarrierCount
            imageCount := info.imageMemoryBarrierCount
            memory := barrierMembers 64 info.memoryBarrierCount info.memoryBarriers
            buffers := barrierMembers 256 info.bufferMemoryBarrierCount info.bufferMemoryBarriers
            images := barrierMembers 2048 info.imageMemoryBarrierCount info.imageMemoryBarriers })

def fixedClearShape (imageLayout : UInt32) (color : Fin 4 → UInt32) (rangeCount : UInt32)
    (ranges : Nat → ImageSubresourceRange) : Bool :=
  imageLayout == 7 && color 0 == 0 && color 1 == 0 && color 2 == 0 && color 3 == 0 && rangeCount == 1 &&
    initImageSubresourceRangeSupported (ranges 0)

def vkCmdClearColorImage (image : UInt64) (imageLayout : UInt32) (color : Option (Fin 4 → UInt32))
    (rangeCount : UInt32) (ranges : Option (Nat → ImageSubresourceRange)) : Option Command :=
  match color, ranges with
  | some color, some ranges =>
      if (imageLayout != 7 && imageLayout != 1) || rangeCount == 0 || rangeCount > 4 then none
      else if !(List.range rangeCount.toNat).all (fun index =>
          commandClearColorRangeSupported (ranges index)) then none
      else if fixedClearShape imageLayout color rangeCount ranges then some (.clearColorImage ⟨image⟩)
      else
        some (.clearColorImageGeneral
          { imageId := image
            imageLayout := imageLayout
            rangeCount := rangeCount
            colorWords := color
            ranges := fill 4 rangeCount.toNat ranges })
  | _, _ => none

def vkCmdFillBuffer (destinationBuffer destinationOffset size : UInt64) (data : UInt32) : Option Command :=
  if size == 0 || destinationOffset &&& 3 != 0 || size &&& 3 != 0 then none
  else some (.fillBuffer ⟨destinationBuffer, destinationOffset, size, data⟩)

/-- The command an entry point makes of its arguments. -/
def ClientCall.command : ClientCall → Option Command
  | .vkCmdResetQueryPool queryPool firstQuery queryCount =>
      some (queryCommand queryPool firstQuery queryCount 0 0 0 .reset)
  | .vkCmdBeginQuery queryPool query flags => some (queryCommand queryPool query 1 flags 0 0 .beginQuery)
  | .vkCmdEndQuery queryPool query => some (queryCommand queryPool query 1 0 0 0 .endQuery)
  | .vkCmdWriteTimestamp stage queryPool query =>
      some (queryCommand queryPool query 1 0 0 stage.toUInt64 .writeTimestamp)
  | .vkCmdWriteTimestamp2 stage queryPool query =>
      some (queryCommand queryPool query 1 0 0 stage .writeTimestamp2)
  | .vkCmdBeginQueryIndexedEXT queryPool query flags index =>
      some (queryCommand queryPool query 1 flags index 0 .beginIndexed)
  | .vkCmdEndQueryIndexedEXT queryPool query index =>
      some (queryCommand queryPool query 1 0 index 0 .endIndexed)
  | .vkCmdBeginRendering info => VulkanBridge.vkCmdBeginRendering info
  | .vkCmdEndRendering => some .endRendering
  | .vkCmdBindPipeline bindPoint pipeline => VulkanBridge.vkCmdBindPipeline bindPoint pipeline
  | .vkCmdPushConstants layout stageFlags offset size values =>
      VulkanBridge.vkCmdPushConstants layout stageFlags offset size values
  | .vkCmdSetViewportWithCount viewportCount viewports =>
      VulkanBridge.vkCmdSetViewportWithCount viewportCount viewports
  | .vkCmdSetScissorWithCount scissorCount scissors =>
      VulkanBridge.vkCmdSetScissorWithCount scissorCount scissors
  | .vkCmdDraw vertexCount instanceCount firstVertex firstInstance =>
      some (.draw ⟨vertexCount, instanceCount, firstVertex, firstInstance⟩)
  | .vkCmdBindVertexBuffers firstBinding bindingCount buffers offsets =>
      VulkanBridge.vkCmdBindVertexBuffers .bindVertexBuffers firstBinding bindingCount buffers offsets none none
  | .vkCmdBindVertexBuffers2 firstBinding bindingCount buffers offsets sizes strides =>
      VulkanBridge.vkCmdBindVertexBuffers .bindVertexBuffers2 firstBinding bindingCount buffers offsets sizes
        strides
  | .vkCmdBindIndexBuffer buffer offset indexType =>
      some (.bindIndexBuffer Opcode.bindIndexBuffer.code ⟨buffer, offset, 0xffffffffffffffff, indexType⟩)
  | .vkCmdBindIndexBuffer2 buffer offset size indexType =>
      some (.bindIndexBuffer Opcode.bindIndexBuffer2.code ⟨buffer, offset, size, indexType⟩)
  | .vkCmdDrawIndexed indexCount instanceCount firstIndex vertexOffset firstInstance =>
      some (.drawIndexed ⟨indexCount, instanceCount, firstIndex, vertexOffset, firstInstance⟩)
  | .vkCmdDrawIndirect buffer offset drawCount stride =>
      some (.drawIndirect Opcode.drawIndirect.code ⟨buffer, offset, drawCount, stride⟩)
  | .vkCmdDrawIndexedIndirect buffer offset drawCount stride =>
      some (.drawIndirect Opcode.drawIndexedIndirect.code ⟨buffer, offset, drawCount, stride⟩)
  | .vkCmdDrawIndirectCount buffer offset countBuffer countBufferOffset maximumDrawCount stride =>
      some (.drawIndirectCount Opcode.drawIndirectCount.code
        ⟨buffer, offset, countBuffer, countBufferOffset, maximumDrawCount, stride⟩)
  | .vkCmdDrawIndexedIndirectCount buffer offset countBuffer countBufferOffset maximumDrawCount stride =>
      some (.drawIndirectCount Opcode.drawIndexedIndirectCount.code
        ⟨buffer, offset, countBuffer, countBufferOffset, maximumDrawCount, stride⟩)
  | .vkCmdSetCullMode cullMode => dynamicStateCommand .cullMode [cullMode]
  | .vkCmdSetFrontFace frontFace => dynamicStateCommand .frontFace [frontFace]
  | .vkCmdSetPrimitiveTopology topology => dynamicStateCommand .primitiveTopology [topology]
  | .vkCmdSetDepthTestEnable enable => dynamicStateCommand .depthTestEnable [enable]
  | .vkCmdSetDepthWriteEnable enable => dynamicStateCommand .depthWriteEnable [enable]
  | .vkCmdSetDepthCompareOp compareOp => dynamicStateCommand .depthCompareOp [compareOp]
  | .vkCmdSetDepthBoundsTestEnable enable => dynamicStateCommand .depthBoundsTestEnable [enable]
  | .vkCmdSetStencilTestEnable enable => dynamicStateCommand .stencilTestEnable [enable]
  | .vkCmdSetStencilOp faceMask failOp passOp depthFailOp compareOp =>
      dynamicStateCommand .stencilOp [faceMask, failOp, passOp, depthFailOp, compareOp]
  | .vkCmdSetRasterizerDiscardEnable enable => dynamicStateCommand .rasterizerDiscardEnable [enable]
  | .vkCmdSetDepthBiasEnable enable => dynamicStateCommand .depthBiasEnable [enable]
  | .vkCmdSetPrimitiveRestartEnable enable => dynamicStateCommand .primitiveRestartEnable [enable]
  | .vkCmdSetDepthBias constantFactor clamp slopeFactor =>
      dynamicStateCommand .depthBias [constantFactor, clamp, slopeFactor]
  | .vkCmdSetDepthBounds minimum maximum => dynamicStateCommand .depthBounds [minimum, maximum]
  | .vkCmdSetStencilCompareMask faceMask compareMask =>
      dynamicStateCommand .stencilCompareMask [faceMask, compareMask]
  | .vkCmdSetStencilWriteMask faceMask writeMask =>
      dynamicStateCommand .stencilWriteMask [faceMask, writeMask]
  | .vkCmdSetStencilReference faceMask reference =>
      dynamicStateCommand .stencilReference [faceMask, reference]
  | .vkCmdSetLineWidth lineWidth => dynamicStateCommand .lineWidth [lineWidth]
  | .vkCmdSetBlendConstants none => none
  | .vkCmdSetBlendConstants (some constants) =>
      dynamicStateCommand .blendConstants [constants 0, constants 1, constants 2, constants 3]
  | .vkCmdClearDepthStencilImage image imageLayout value rangeCount ranges =>
      VulkanBridge.vkCmdClearDepthStencilImage image imageLayout value rangeCount ranges
  | .vkCmdClearAttachments attachmentCount attachments rectCount rects =>
      VulkanBridge.vkCmdClearAttachments attachmentCount attachments rectCount rects
  | .vkCmdCopyBuffer2 info => VulkanBridge.vkCmdCopyBuffer2 info
  | .vkCmdCopyBufferToImage2 info => VulkanBridge.vkCmdCopyBufferToImage2 info
  | .vkCmdCopyImageToBuffer2 info => VulkanBridge.vkCmdCopyImageToBuffer2 info
  | .vkCmdCopyImage2 info => VulkanBridge.vkCmdCopyImage2 info
  | .vkCmdBlitImage2 info => VulkanBridge.vkCmdBlitImage2 info
  | .vkCmdResolveImage2 info => VulkanBridge.vkCmdResolveImage2 info
  | .vkCmdUpdateBuffer destinationBuffer destinationOffset dataSize data =>
      VulkanBridge.vkCmdUpdateBuffer destinationBuffer destinationOffset dataSize data
  | .vkCmdCopyBuffer source destination regionCount regions =>
      VulkanBridge.vkCmdCopyBuffer source destination regionCount regions
  | .vkCmdCopyBufferToImage source destination layout regionCount regions =>
      VulkanBridge.vkCmdCopyBufferToImage source destination layout regionCount regions
  | .vkCmdCopyImageToBuffer source layout destination regionCount regions =>
      VulkanBridge.vkCmdCopyImageToBuffer source layout destination regionCount regions
  | .vkCmdCopyImage source sourceLayout destination destinationLayout regionCount regions =>
      VulkanBridge.vkCmdCopyImage source sourceLayout destination destinationLayout regionCount regions
  | .vkCmdBlitImage source sourceLayout destination destinationLayout regionCount regions filter =>
      VulkanBridge.vkCmdBlitImage source sourceLayout destination destinationLayout regionCount regions filter
  | .vkCmdResolveImage source sourceLayout destination destinationLayout regionCount regions =>
      VulkanBridge.vkCmdResolveImage source sourceLayout destination destinationLayout regionCount regions
  | .vkCmdBindDescriptorSets pipelineBindPoint layout firstSet descriptorSetCount descriptorSets
      dynamicOffsetCount dynamicOffsets =>
      VulkanBridge.vkCmdBindDescriptorSets pipelineBindPoint layout firstSet descriptorSetCount descriptorSets
        dynamicOffsetCount dynamicOffsets
  | .vkCmdPipelineBarrier2 info => VulkanBridge.vkCmdPipelineBarrier2 info
  | .vkCmdClearColorImage image imageLayout color rangeCount ranges =>
      VulkanBridge.vkCmdClearColorImage image imageLayout color rangeCount ranges
  | .vkCmdFillBuffer destinationBuffer destinationOffset size data =>
      VulkanBridge.vkCmdFillBuffer destinationBuffer destinationOffset size data

end VulkanBridge
