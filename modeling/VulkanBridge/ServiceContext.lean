import VulkanBridge.HandleTable
import VulkanBridge.NativeCalls

/-!
The service side of `vulkan_global.c`: the lookups that resolve wire ids to
native handles, and the functions that record one command on a native command
buffer. Each of them makes all its checks before its native calls, so it
returns the calls it makes or the error it makes none with.
-/

namespace VulkanBridge

/-- What the native driver decides: which names `get_device_proc_addr` knows on
a device, and the `VkResult` of the last call of a trace. -/
structure NativeDriver where
  present : UInt64 → EntryPoint → Bool
  result : List NativeCall → Int32

structure QueryPoolMetadata where
  queryPoolId : UInt64
  deviceId : UInt64
  queryCount : UInt32
  deriving DecidableEq, Repr

structure ServiceContext where
  objects : HandleTable
  queryPoolMetadata : List QueryPoolMetadata

/-- The outputs of `resolve_command_buffer`. -/
structure ResolvedCommandBuffer where
  deviceId : UInt64
  device : UInt64
  commandPool : UInt64
  commandBuffer : UInt64

/-- The outputs of `resolve_device_child`. -/
structure ResolvedChild where
  deviceId : UInt64
  device : UInt64
  nativeBits : UInt64

/-! The requests of the service. -/

structure CommandBufferBeginRequest where
  commandBufferId : UInt64
  flags : UInt32
  deriving DecidableEq, Repr

structure CommandBufferFillRequest where
  commandBufferId : UInt64
  bufferId : UInt64
  offset : UInt64
  size : UInt64
  data : UInt32
  deriving DecidableEq, Repr

structure CommandBufferImageBarrierRequest where
  commandBufferId : UInt64
  imageCount : UInt32
  imageIds : Fin 4 → UInt64

structure CommandBufferClearColorImageRequest where
  commandBufferId : UInt64
  imageId : UInt64
  deriving DecidableEq, Repr

structure BindDescriptorSetsRequest where
  commandBufferId : UInt64
  pipelineLayoutId : UInt64
  pipelineBindPoint : UInt32
  firstSet : UInt32
  descriptorSetCount : UInt32
  dynamicOffsetCount : UInt32
  descriptorSetIds : Fin 8 → UInt64
  dynamicOffsets : Fin 32 → UInt32

def NativeDriver.resolve (driver : NativeDriver) (device : UInt64) (names : List EntryPoint) :
    Except Errno EntryPoint :=
  match names.find? (driver.present device) with
  | some name => .ok name
  | none => .error .enosys

namespace ServiceContext

variable (driver : NativeDriver) (context : ServiceContext)

def resolveCommandPool (commandPoolId : UInt64) : Except Errno (UInt64 × UInt64 × UInt64) := do
  let (deviceId, poolBits) ← context.objects.lookup commandPoolId .commandPool
  let (_, deviceBits) ← context.objects.lookup deviceId .device
  return (deviceId, deviceBits, poolBits)

def resolveCommandBuffer (commandBufferId : UInt64) : Except Errno ResolvedCommandBuffer := do
  let (commandPoolId, commandBufferBits) ← context.objects.lookup commandBufferId .commandBuffer
  let (deviceId, device, commandPool) ← context.resolveCommandPool commandPoolId
  return ⟨deviceId, device, commandPool, commandBufferBits⟩

def resolveDeviceChild (objectId : UInt64) (type : ObjectType) : Except Errno ResolvedChild := do
  let (deviceId, nativeBits) ← context.objects.lookup objectId type
  let (_, deviceBits) ← context.objects.lookup deviceId .device
  return ⟨deviceId, deviceBits, nativeBits⟩

def sameDevice (owner : ResolvedCommandBuffer) (child : ResolvedChild) : Bool :=
  !(child.deviceId != owner.deviceId || child.device != owner.device)

def resolveOwnChild (owner : ResolvedCommandBuffer) (objectId : UInt64) (type : ObjectType) :
    Except Errno UInt64 := do
  let child ← context.resolveDeviceChild objectId type
  if sameDevice owner child then .ok child.nativeBits else .error .eproto

def queryPoolMetadataFind (queryPoolId : UInt64) : Option QueryPoolMetadata :=
  context.queryPoolMetadata.find? fun metadata => metadata.queryPoolId == queryPoolId

def queryPoolRangeMatchesDevice (queryPoolId expectedDeviceId : UInt64) (firstQuery queryCount : UInt32) :
    Except Errno Unit :=
  match context.queryPoolMetadataFind queryPoolId with
  | none => .error .eproto
  | some metadata =>
      if metadata.deviceId != expectedDeviceId || queryCount == 0 || firstQuery > metadata.queryCount ||
          queryCount > metadata.queryCount - firstQuery then .error .eproto
      else
        match context.objects.lookup queryPoolId .queryPool with
        | .error _ => .error .eproto
        | .ok (parentId, nativeBits) =>
            if parentId != expectedDeviceId || nativeBits == 0 then .error .eproto else .ok ()

def descriptorTemplateResolveImageView (imageViewId expectedDeviceId : UInt64) : Except Errno UInt64 :=
  if imageViewId = 0 then .ok 0
  else do
    let (imageId, viewBits) ← context.objects.lookup imageViewId .imageView
    let (imageDeviceId, _) ← context.objects.lookup imageId .image
    if imageDeviceId != expectedDeviceId then .error .eproto else .ok viewBits

def resolveDescriptorSet (deviceId setId : UInt64) : Except Errno UInt64 := do
  let (poolId, setBits) ← context.objects.lookup setId .descriptorSet
  let (poolDeviceId, _) ← context.objects.lookup poolId .descriptorPool
  if poolDeviceId != deviceId then .error .eproto else .ok setBits

/-- The call `vkBeginCommandBuffer` is made with; its `VkResult` is the output. -/
def beginCommandBuffer (request : CommandBufferBeginRequest) : Except Errno NativeCall := do
  if request.flags &&& ~~~1 != 0 then .error .einval
  let owner ← context.resolveCommandBuffer request.commandBufferId
  let name ← driver.resolve owner.device [⟨.vkBeginCommandBuffer, .core⟩]
  return ⟨name, owner.commandBuffer, .beginCommandBuffer request.flags⟩

def endCommandBuffer (commandBufferId : UInt64) : Except Errno NativeCall := do
  let owner ← context.resolveCommandBuffer commandBufferId
  let name ← driver.resolve owner.device [⟨.vkEndCommandBuffer, .core⟩]
  return ⟨name, owner.commandBuffer, .endCommandBuffer⟩

def hostReadBarrier (buffer offset size : UInt64) : BufferMemoryBarrier :=
  { sourceAccessMask := 0x1000
    destinationAccessMask := 0x2000
    sourceQueueFamilyIndex := 0xffffffff
    destinationQueueFamilyIndex := 0xffffffff
    buffer := buffer
    offset := offset
    size := size }

def fillCalls (fill barrier : EntryPoint) (commandBuffer buffer offset size : UInt64) (data : UInt32) :
    List NativeCall :=
  [⟨fill, commandBuffer, .fillBuffer buffer offset size data⟩,
    ⟨barrier, commandBuffer, .pipelineBarrier 0x1000 0x4000 0 [hostReadBarrier buffer offset size]⟩]

def commandBufferFill (request : CommandBufferFillRequest) : Except Errno (List NativeCall) := do
  if request.size == 0 || request.offset &&& 3 != 0 || request.size &&& 3 != 0 then .error .einval
  let owner ← context.resolveCommandBuffer request.commandBufferId
  let buffer ← context.resolveOwnChild owner request.bufferId .buffer
  let fill ← driver.resolve owner.device [⟨.vkCmdFillBuffer, .core⟩]
  let barrier ← driver.resolve owner.device [⟨.vkCmdPipelineBarrier, .core⟩]
  return fillCalls fill barrier owner.commandBuffer buffer request.offset request.size request.data

def baseColorRange : ImageSubresourceRange := ⟨1, 0, 1, 0, 1⟩

def initImageBarrier (image : UInt64) : ImageBarrier2 :=
  { sourceStageMask := 0
    sourceAccessMask := 0
    destinationStageMask := 0x1000
    destinationAccessMask := 0x1000
    oldLayout := 0
    newLayout := 7
    sourceQueueFamilyIndex := 0xffffffff
    destinationQueueFamilyIndex := 0xffffffff
    imageId := image
    range := baseColorRange }

def commandBufferImageBarrier (request : CommandBufferImageBarrierRequest) :
    Except Errno (List NativeCall) := do
  if request.imageCount == 0 || request.imageCount > 4 then .error .einval
  let owner ← context.resolveCommandBuffer request.commandBufferId
  let barriers ← (listed request.imageCount request.imageIds).mapM fun imageId => do
    let image ← context.resolveOwnChild owner imageId .image
    return initImageBarrier image
  let name ← driver.resolve owner.device [⟨.vkCmdPipelineBarrier2, .core⟩]
  return [⟨name, owner.commandBuffer, .pipelineBarrier2 0 [] [] barriers⟩]

def commandBufferClearColorImage (request : CommandBufferClearColorImageRequest) :
    Except Errno (List NativeCall) := do
  let owner ← context.resolveCommandBuffer request.commandBufferId
  let image ← context.resolveOwnChild owner request.imageId .image
  let name ← driver.resolve owner.device [⟨.vkCmdClearColorImage, .core⟩]
  return [⟨name, owner.commandBuffer, .clearColorImage image 7 [0, 0, 0, 0] [baseColorRange]⟩]

def commandBufferBindDescriptorSets (request : BindDescriptorSetsRequest) :
    Except Errno (List NativeCall) := do
  if request.pipelineBindPoint > 1 || request.descriptorSetCount == 0 || request.descriptorSetCount > 8 ||
      request.dynamicOffsetCount > 32 then .error .einval
  let owner ← context.resolveCommandBuffer request.commandBufferId
  let (layoutDeviceId, layout) ← context.objects.lookup request.pipelineLayoutId .pipelineLayout
  if layoutDeviceId != owner.deviceId then .error .eproto
  let sets ← (listed request.descriptorSetCount request.descriptorSetIds).mapM
    (context.resolveDescriptorSet owner.deviceId)
  let name ← driver.resolve owner.device [⟨.vkCmdBindDescriptorSets, .core⟩]
  return [⟨name, owner.commandBuffer, .bindDescriptorSets request.pipelineBindPoint layout request.firstSet
    sets (listed request.dynamicOffsetCount request.dynamicOffsets)⟩]

end ServiceContext

end VulkanBridge
