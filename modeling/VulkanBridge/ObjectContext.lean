import VulkanBridge.LiveHandles

/-!
The objects of a service context (`vulkan_global.c`): the handle table, the
metadata arrays and the swapchain slots, and the functions that create,
allocate, reset and destroy. The driver's answers are inputs of each call. The
native handles it returned and those passed to a destroy function are recorded.
-/

namespace VulkanBridge

def vkErrorOutOfDeviceMemory : VulkanResult := -2
def vkErrorTooManyObjects : VulkanResult := -10

def globalObjectCapacity : Nat := 4096
def descriptorTemplateMetadataCapacity : Nat := 256
def wsiFrameRingMaxSlots : Nat := 4
def memoryMirrorCapacity : Nat := 64
def maxDescriptorSetsPerAllocate : Nat := 16

/-- The driver during one call: which devices have the functions that create
and destroy an object type, and what the teardown of each swapchain slot meets
before and after its handles are removed. -/
structure ObjectDriver where
  creates : UInt64 → ObjectType → Bool
  destroys : UInt64 → ObjectType → Bool
  stopStatus : Nat → Option Errno
  releaseStatus : Nat → Option Errno

structure NativeAnswer where
  result : VulkanResult
  handle : UInt64
  deriving DecidableEq, Repr

abbrev NativeObject := ObjectType × UInt64

structure SwapchainImage where
  imageId : UInt64
  image : UInt64
  memory : UInt64
  deriving DecidableEq, Repr

structure SwapchainMetadata where
  swapchainId : UInt64
  deviceId : UInt64
  device : UInt64
  producerCommandPool : UInt64
  commands : List UInt64
  presentCompletion : UInt64
  images : List SwapchainImage
  deriving DecidableEq, Repr

def SwapchainMetadata.zero : SwapchainMetadata := ⟨0, 0, 0, 0, [], 0, []⟩

structure QueueCreateInfo where
  queueFamilyIndex : UInt32
  queueCount : UInt32
  deriving DecidableEq, Repr

structure MemoryMirrorOwner where
  deviceId : UInt64
  memoryId : UInt64
  generation : UInt64
  deriving DecidableEq, Repr

/-- `metadata` holds the ids of the metadata arrays, 0 in a free slot, and
`queueInfos` the queues of each slot of the device array. -/
structure ObjectContext where
  objects : HandleTable
  nextSerial : ObjectType → UInt64
  metadata : ObjectType → Nat → UInt64
  queueInfos : Nat → List QueueCreateInfo
  mirrors : List MemoryMirrorOwner
  swapchains : List SwapchainMetadata
  hasDestroyInstance : Bool
  hasGetDeviceProcAddr : Bool
  created : List NativeObject
  destroyed : List NativeObject

structure ObjectReply where
  result : VulkanResult
  ids : List UInt64
  deriving DecidableEq, Repr

abbrev Answered := Except Errno ObjectReply × ObjectContext

abbrev Completed := Except Errno Unit × ObjectContext

/-- How a check ends a call, if it does. -/
abbrev Verdict := Option (Except Errno VulkanResult)

def metadataCapacity : ObjectType → Nat
  | .device | .deviceMemory | .buffer | .image | .semaphore | .queryPool => globalObjectCapacity
  | .descriptorUpdateTemplate => descriptorTemplateMetadataCapacity
  | _ => 0

/-- The search of the `*_metadata_slot` functions: the slot of an id, or the
first free one. Those that also test the id for 0 stop at the same slot. -/
def metadataSlot (ids : Nat → UInt64) (wanted : UInt64) : Nat → Nat → Option Nat → Option Nat
  | 0, _, free => free
  | remaining + 1, index, free =>
      if ids index = wanted then some index
      else
        metadataSlot ids wanted remaining (index + 1)
          (if ids index = 0 ∧ free = none then some index else free)

namespace ObjectContext

/-- A new context. The loader may already have `vkGetDeviceProcAddr`. -/
def empty (capacity : Nat) (hasGetDeviceProcAddr : Bool) : ObjectContext where
  objects := ⟨fun _ => .zero, capacity, 0⟩
  nextSerial := fun _ => 1
  metadata := fun _ _ => 0
  queueInfos := fun _ => []
  mirrors := []
  swapchains := List.replicate wsiFrameRingMaxSlots .zero
  hasDestroyInstance := false
  hasGetDeviceProcAddr := hasGetDeviceProcAddr
  created := []
  destroyed := []

variable (driver : ObjectDriver) (context : ObjectContext)

def nativeCreate (type : ObjectType) (native : NativeAnswer) : ObjectContext :=
  if native.result = vkSuccess then { context with created := context.created ++ [(type, native.handle)] }
  else context

def nativeDestroy (type : ObjectType) (handle : UInt64) : ObjectContext :=
  { context with destroyed := context.destroyed ++ [(type, handle)] }

def takeSerial (type : ObjectType) : UInt64 × ObjectContext :=
  (handleId type (context.nextSerial type),
    { context with nextSerial := Function.update context.nextSerial type (context.nextSerial type + 1) })

def slotOf (type : ObjectType) (wanted : UInt64) : Option Nat :=
  metadataSlot (context.metadata type) wanted (metadataCapacity type) 0 none

def setMetadata (type : ObjectType) (slot : Nat) (wireId : UInt64) : ObjectContext :=
  { context with
    metadata := Function.update context.metadata type (Function.update (context.metadata type) slot wireId) }

def clearMetadata (type : ObjectType) (wireId : UInt64) : ObjectContext :=
  match context.slotOf type wireId with
  | none => context
  | some slot => if context.metadata type slot = wireId then context.setMetadata type slot 0 else context

def removeHandle (wireId : UInt64) (type : ObjectType) : Completed :=
  match context.objects.remove wireId type with
  | .error code => (.error code, context)
  | .ok (_, objects) => (.ok (), { context with objects := objects })

def resolvePhysicalDevice (physicalDeviceId : UInt64) : Except Errno (UInt64 × UInt64) :=
  match context.objects.lookup physicalDeviceId .physicalDevice with
  | .error code => .error code
  | .ok (parentId, physicalBits) =>
      match context.objects.lookup parentId .inst with
      | .error code => .error code
      | .ok (_, instanceBits) => .ok (instanceBits, physicalBits)

def resolveDeviceChild (objectId : UInt64) (type : ObjectType) : Except Errno (UInt64 × UInt64 × UInt64) :=
  match context.objects.lookup objectId type with
  | .error code => .error code
  | .ok (deviceId, nativeBits) =>
      match context.objects.lookup deviceId .device with
      | .error code => .error code
      | .ok (_, deviceBits) => .ok (deviceId, deviceBits, nativeBits)

def lineage (objectId : UInt64) (type : ObjectType) (deviceId : UInt64) : Verdict :=
  match context.objects.lookup objectId type with
  | .error code => some (.error code)
  | .ok (ownerId, _) => if ownerId ≠ deviceId then some (.error .eproto) else none

def deviceQueueInfos (deviceId : UInt64) : Option (List QueueCreateInfo) :=
  match context.slotOf .device deviceId with
  | none => none
  | some slot => if context.metadata .device slot ≠ deviceId then none else some (context.queueInfos slot)

def deviceMetadataQueueCount (infos : List QueueCreateInfo) (queueFamilyIndex : UInt32) : UInt32 :=
  match infos.find? fun info => info.queueFamilyIndex == queueFamilyIndex with
  | none => 0
  | some info => info.queueCount

def findObject (selects : HandleEntry → Bool) : Nat → Nat → Option UInt64
  | 0, _ => none
  | remaining + 1, index =>
      if selects (context.objects.entries index) then some (context.objects.entries index).wireId
      else findObject selects remaining (index + 1)

def isChild (type : ObjectType) (parentId : UInt64) (entry : HandleEntry) : Bool :=
  handleType entry.wireId == type && entry.parentId == parentId

def ownsImageView (imageId : UInt64) : Bool :=
  (context.findObject (isChild .imageView imageId) context.objects.capacity 0).isSome

/-- `existing_physical_device_id` and `existing_queue_id`, 0 when there is none. -/
def existingId (type : ObjectType) (parentId nativeBits : UInt64) : UInt64 :=
  (context.findObject (fun entry => isChild type parentId entry && entry.nativeBits == nativeBits)
    context.objects.capacity 0).getD 0

/-- A loop over the entries that acts on those a test selects and stops at the
first error. -/
def sweep (selects : ObjectContext → HandleEntry → Bool) (act : ObjectContext → UInt64 → Completed) :
    Nat → Nat → ObjectContext → Completed
  | 0, _, context => (.ok (), context)
  | remaining + 1, index, context =>
      if selects context (context.objects.entries index) then
        match act context (context.objects.entries index).wireId with
        | (.error code, next) => (.error code, next)
        | (.ok _, next) => sweep selects act remaining (index + 1) next
      else sweep selects act remaining (index + 1) context

def sweepChildren (type : ObjectType) (parentId : UInt64) (act : ObjectContext → UInt64 → Completed) :
    Completed :=
  sweep (fun _ => isChild type parentId) act context.objects.capacity 0 context

inductive SlotOrder where
  | none
  | first
  | beforeInsert
  | afterInsert
  deriving DecidableEq, Repr

def giveUp (type : ObjectType) (native : NativeAnswer) : Answered :=
  (.ok ⟨vkErrorTooManyObjects, []⟩, context.nativeDestroy type native.handle)

def registerChild (type : ObjectType) (order : SlotOrder) (parentId : UInt64) (native : NativeAnswer) :
    Answered :=
  let (wireId, numbered) := context.takeSerial type
  match numbered.objects.insert wireId parentId native.handle with
  | .error _ => numbered.giveUp type native
  | .ok objects =>
      let held := { numbered with objects := objects }
      if order = .none then (.ok ⟨vkSuccess, [wireId]⟩, held)
      else
        match held.slotOf type (if type = .queryPool then wireId else 0) with
        | some slot => (.ok ⟨vkSuccess, [wireId]⟩, held.setMetadata type slot wireId)
        | none => ((held.removeHandle wireId type).2).giveUp type native

/-- The create functions of the objects of a device. `fields` is the verdict on
the request's own fields and `references` that on what else it names, given the
device's physical device. -/
def createDeviceChild (type : ObjectType) (order : SlotOrder) (deviceId : UInt64) (fields : Verdict)
    (references : UInt64 → Verdict) (native : NativeAnswer) : Answered :=
  match fields with
  | some verdict => (verdict.map (⟨·, []⟩), context)
  | none =>
      if order = .first ∧ context.slotOf type 0 = none then (.ok ⟨vkErrorTooManyObjects, []⟩, context)
      else
        match context.objects.lookup deviceId .device with
        | .error code => (.error code, context)
        | .ok (physicalId, device) =>
            match references physicalId with
            | some verdict => (verdict.map (⟨·, []⟩), context)
            | none =>
                if !driver.creates device type || !driver.destroys device type then (.error .enosys, context)
                else if native.result ≠ vkSuccess then (.ok ⟨native.result, []⟩, context)
                else if order = .beforeInsert ∧ context.slotOf type 0 = none then
                  (context.nativeCreate type native).giveUp type native
                else (context.nativeCreate type native).registerChild type order deviceId native

def noReferences (_ : UInt64) : Verdict := none

def createCommandPool (deviceId : UInt64) (queueFamilyIndex : UInt32) (fields : Verdict)
    (native : NativeAnswer) : Answered :=
  context.createDeviceChild driver .commandPool .none deviceId fields
    (fun _ =>
      match context.deviceQueueInfos deviceId with
      | none => some (.error .enoent)
      | some infos =>
          if deviceMetadataQueueCount infos queueFamilyIndex = 0 then some (.ok vkErrorInitializationFailed)
          else none)
    native

def createDescriptorSetLayout (deviceId : UInt64) (fields : Verdict) (native : NativeAnswer) : Answered :=
  context.createDeviceChild driver .descriptorSetLayout .none deviceId fields noReferences native

def createDescriptorUpdateTemplate (deviceId layoutId : UInt64) (fields entries : Verdict)
    (native : NativeAnswer) : Answered :=
  context.createDeviceChild driver .descriptorUpdateTemplate .afterInsert deviceId fields
    (fun _ => context.lineage layoutId .descriptorSetLayout deviceId <|> entries) native

def createDescriptorPool (deviceId : UInt64) (fields : Verdict) (native : NativeAnswer) : Answered :=
  context.createDeviceChild driver .descriptorPool .none deviceId fields noReferences native

def createQueryPool (deviceId : UInt64) (native : NativeAnswer) : Answered :=
  context.createDeviceChild driver .queryPool .afterInsert deviceId none noReferences native

def createSampler (deviceId : UInt64) (fields : Verdict) (native : NativeAnswer) : Answered :=
  context.createDeviceChild driver .sampler .none deviceId fields noReferences native

def createPipelineLayout (deviceId : UInt64) (independentSets : Bool) (setLayoutIds : List UInt64)
    (fields ranges : Verdict) (native : NativeAnswer) : Answered :=
  context.createDeviceChild driver .pipelineLayout .none deviceId fields
    (fun _ =>
      setLayoutIds.findSome? (fun layoutId =>
        if layoutId = 0 then
          if independentSets then none else some (.ok vkErrorFeatureNotPresent)
        else context.lineage layoutId .descriptorSetLayout deviceId) <|> ranges)
    native

def createGraphicsPipeline (deviceId pipelineLayoutId : UInt64) (fields : Verdict) (native : NativeAnswer) :
    Answered :=
  context.createDeviceChild driver .pipeline .none deviceId fields
    (fun _ => context.lineage pipelineLayoutId .pipelineLayout deviceId) native

def createBuffer (deviceId : UInt64) (fields : Verdict) (native : NativeAnswer) : Answered :=
  context.createDeviceChild driver .buffer .beforeInsert deviceId fields noReferences native

/-- `properties` is the verdict on the memory properties of the physical device. -/
def allocateMemory (deviceId : UInt64) (dedicatedImageId : Option UInt64) (fields properties : Verdict)
    (native : NativeAnswer) : Answered :=
  context.createDeviceChild driver .deviceMemory .beforeInsert deviceId fields
    (fun physicalId =>
      match context.resolvePhysicalDevice physicalId with
      | .error code => some (.error code)
      | .ok _ =>
          properties <|> dedicatedImageId.bind fun imageId =>
            match context.resolveDeviceChild imageId .image with
            | .error code => some (.error code)
            | .ok (ownerId, _, _) => if ownerId ≠ deviceId then some (.error .eproto) else none)
    native

def createImage (deviceId : UInt64) (fields : Verdict) (native : NativeAnswer) : Answered :=
  context.createDeviceChild driver .image .beforeInsert deviceId fields noReferences native

def createFence (deviceId : UInt64) (fields : Verdict) (native : NativeAnswer) : Answered :=
  context.createDeviceChild driver .fence .none deviceId fields noReferences native

def createSemaphore (deviceId : UInt64) (fields : Verdict) (native : NativeAnswer) : Answered :=
  context.createDeviceChild driver .semaphore .first deviceId fields noReferences native

def removeChildren (children : Option ObjectType) (objectId : UInt64) : Completed :=
  match children with
  | none => (.ok (), context)
  | some child => context.sweepChildren child objectId fun current childId => current.removeHandle childId child

/-- The destroy functions of the objects of a device: `busy` refuses, and the
handles of type `children` under the object go first. -/
def destroyDeviceChild (type : ObjectType) (busy : Bool) (children : Option ObjectType)
    (objectId : UInt64) : Completed :=
  match context.resolveDeviceChild objectId type with
  | .error code => (.error code, context)
  | .ok (_, device, nativeBits) =>
      if busy then (.error .ebusy, context)
      else if !driver.destroys device type then (.error .enosys, context)
      else
        match context.removeChildren children objectId with
        | (.error code, next) => (.error code, next)
        | (.ok _, next) =>
            match next.removeHandle objectId type with
            | (.error code, last) => (.error code, last)
            | (.ok _, last) => (.ok (), (last.clearMetadata type objectId).nativeDestroy type nativeBits)

def destroyCommandPool (objectId : UInt64) : Completed :=
  context.destroyDeviceChild driver .commandPool false (some .commandBuffer) objectId

def destroyDescriptorSetLayout (objectId : UInt64) : Completed :=
  context.destroyDeviceChild driver .descriptorSetLayout false none objectId

def destroyDescriptorUpdateTemplate (objectId : UInt64) : Completed :=
  context.destroyDeviceChild driver .descriptorUpdateTemplate false none objectId

def destroyDescriptorPool (objectId : UInt64) : Completed :=
  context.destroyDeviceChild driver .descriptorPool false (some .descriptorSet) objectId

def destroyQueryPool (objectId : UInt64) : Completed :=
  context.destroyDeviceChild driver .queryPool false none objectId

def destroySampler (objectId : UInt64) : Completed :=
  context.destroyDeviceChild driver .sampler false none objectId

def destroyPipelineLayout (objectId : UInt64) : Completed :=
  context.destroyDeviceChild driver .pipelineLayout false none objectId

def destroyPipeline (objectId : UInt64) : Completed :=
  context.destroyDeviceChild driver .pipeline false none objectId

def destroyBuffer (objectId : UInt64) : Completed :=
  context.destroyDeviceChild driver .buffer false none objectId

def freeMemory (objectId : UInt64) : Completed :=
  context.destroyDeviceChild driver .deviceMemory
    (context.mirrors.any fun mirror => mirror.memoryId == objectId) none objectId

def destroyImage (objectId : UInt64) : Completed :=
  context.destroyDeviceChild driver .image (context.ownsImageView objectId) none objectId

def destroyFence (objectId : UInt64) : Completed :=
  context.destroyDeviceChild driver .fence false none objectId

def destroySemaphore (objectId : UInt64) : Completed :=
  context.destroyDeviceChild driver .semaphore false none objectId

end ObjectContext

end VulkanBridge
