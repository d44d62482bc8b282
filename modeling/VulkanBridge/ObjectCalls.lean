import VulkanBridge.ObjectContext

/-!
The object functions of a service context that are not about one object of a
device: image views, command buffers and descriptor sets, instances, devices
and queues, swapchains, and the calls a client can make.
-/

namespace VulkanBridge

namespace ObjectContext

variable (driver : ObjectDriver) (context : ObjectContext)

/-- `range` is the verdict on the view against the image's metadata. -/
def createImageView (deviceId imageId : UInt64) (fields range : Verdict) (native : NativeAnswer) : Answered :=
  match fields with
  | some verdict => (verdict.map (⟨·, []⟩), context)
  | none =>
      match context.resolveDeviceChild imageId .image with
      | .error code => (.error code, context)
      | .ok (ownerId, device, _) =>
          if ownerId ≠ deviceId then (.error .eproto, context)
          else
            match context.slotOf .image imageId with
            | none => (.ok ⟨vkErrorFeatureNotPresent, []⟩, context)
            | some slot =>
                if context.metadata .image slot ≠ imageId then (.ok ⟨vkErrorFeatureNotPresent, []⟩, context)
                else
                  match range with
                  | some verdict => (verdict.map (⟨·, []⟩), context)
                  | none =>
                      if !driver.creates device .imageView || !driver.destroys device .imageView then
                        (.error .enosys, context)
                      else if native.result ≠ vkSuccess then (.ok ⟨native.result, []⟩, context)
                      else
                        (context.nativeCreate .imageView native).registerChild .imageView .none imageId native

def destroyImageView (imageViewId : UInt64) : Completed :=
  match context.objects.lookup imageViewId .imageView with
  | .error code => (.error code, context)
  | .ok (imageId, nativeBits) =>
      match context.resolveDeviceChild imageId .image with
      | .error code => (.error code, context)
      | .ok (_, device, _) =>
          if !driver.destroys device .imageView then (.error .enosys, context)
          else
            match context.removeHandle imageViewId .imageView with
            | (.error code, next) => (.error code, next)
            | (.ok _, next) => (.ok (), next.nativeDestroy .imageView nativeBits)

def allocateCommandBuffer (commandPoolId : UInt64) (fields : Verdict) (native : NativeAnswer) : Answered :=
  match fields with
  | some verdict => (verdict.map (⟨·, []⟩), context)
  | none =>
      match context.resolveDeviceChild commandPoolId .commandPool with
      | .error code => (.error code, context)
      | .ok (_, device, _) =>
          if !driver.creates device .commandBuffer || !driver.destroys device .commandBuffer then
            (.error .enosys, context)
          else if native.result ≠ vkSuccess then (.ok ⟨native.result, []⟩, context)
          else
            (context.nativeCreate .commandBuffer native).registerChild .commandBuffer .none commandPoolId native

def freeCommandBuffer (commandPoolId commandBufferId : UInt64) : Completed :=
  match context.objects.lookup commandBufferId .commandBuffer with
  | .error code => (.error code, context)
  | .ok (parentPoolId, nativeBits) =>
      if parentPoolId ≠ commandPoolId then (.error .eproto, context)
      else
        match context.resolveDeviceChild commandPoolId .commandPool with
        | .error code => (.error code, context)
        | .ok (_, device, _) =>
            if !driver.destroys device .commandBuffer then (.error .enosys, context)
            else (context.nativeDestroy .commandBuffer nativeBits).removeHandle commandBufferId .commandBuffer

def insertDescriptorSets (descriptorPoolId : UInt64) : List UInt64 → List UInt64 → ObjectContext → Answered
  | [], ids, context => (.ok ⟨vkSuccess, ids⟩, context)
  | set :: rest, ids, context =>
      let (wireId, numbered) := context.takeSerial .descriptorSet
      match numbered.objects.insert wireId descriptorPoolId set with
      | .error _ => (.ok ⟨vkErrorTooManyObjects, []⟩, numbered)
      | .ok objects =>
          insertDescriptorSets descriptorPoolId rest (ids ++ [wireId]) { numbered with objects := objects }

/-- The driver answers one native set for each layout. -/
def allocateDescriptorSets (descriptorPoolId : UInt64) (setLayoutIds : List UInt64) (result : VulkanResult)
    (sets : Nat → UInt64) : Answered :=
  if setLayoutIds.length = 0 ∨ maxDescriptorSetsPerAllocate < setLayoutIds.length ∨
      context.objects.capacity - context.objects.count < setLayoutIds.length then
    (.ok ⟨vkErrorTooManyObjects, []⟩, context)
  else
    match context.resolveDeviceChild descriptorPoolId .descriptorPool with
    | .error code => (.error code, context)
    | .ok (deviceId, device, _) =>
        match setLayoutIds.findSome? fun layoutId => context.lineage layoutId .descriptorSetLayout deviceId with
        | some verdict => (verdict.map (⟨·, []⟩), context)
        | none =>
            if !driver.creates device .descriptorSet then (.error .enosys, context)
            else if result ≠ vkSuccess then (.ok ⟨result, []⟩, context)
            else
              insertDescriptorSets descriptorPoolId ((List.range setLayoutIds.length).map sets) [] context

/-- `present` says whether the device has `vkResetDescriptorPool`. -/
def resetDescriptorPool (descriptorPoolId : UInt64) (fields : Verdict) (present : Bool)
    (result : VulkanResult) : Answered :=
  match fields with
  | some verdict => (verdict.map (⟨·, []⟩), context)
  | none =>
      match context.resolveDeviceChild descriptorPoolId .descriptorPool with
      | .error code => (.error code, context)
      | .ok _ =>
          if !present then (.error .enosys, context)
          else if result ≠ vkSuccess then (.ok ⟨result, []⟩, context)
          else
            match context.removeChildren (some .descriptorSet) descriptorPoolId with
            | (.error code, next) => (.error code, next)
            | (.ok _, next) => (.ok ⟨vkSuccess, []⟩, next)

def firstStatus (status : Option Errno) : Except Errno Unit → Option Errno
  | .error code => status <|> some code
  | .ok _ => status

def removeSwapchainImage (imageId : UInt64) : Completed :=
  if imageId = 0 then (.ok (), context) else (context.clearMetadata .image imageId).removeHandle imageId .image

def removeSwapchainHandle (swapchainId : UInt64) : Completed :=
  if swapchainId = 0 then (.ok (), context) else context.removeHandle swapchainId .swapchain

def nativeDestroyFound (found : Bool) (type : ObjectType) (handle : UInt64) : ObjectContext :=
  if handle ≠ 0 ∧ found then context.nativeDestroy type handle else context

/-- `loaded` says whether the context has `vkGetDeviceProcAddr` and the slot a
device. -/
def destroySwapchainImages (loaded : Bool) (device : UInt64) :
    List SwapchainImage → Option Errno → ObjectContext → Option Errno × ObjectContext
  | [], status, context => (status, context)
  | image :: rest, status, context =>
      let (removed, handleless) := context.removeSwapchainImage image.imageId
      let imageless := handleless.nativeDestroyFound (loaded && driver.destroys device .image) .image image.image
      destroySwapchainImages loaded device rest (firstStatus status removed)
        (imageless.nativeDestroyFound (loaded && driver.destroys device .deviceMemory) .deviceMemory image.memory)

def destroySwapchainMetadata (slot : Nat) (swapchain : SwapchainMetadata) : Option Errno × ObjectContext :=
  let loaded := context.hasGetDeviceProcAddr && swapchain.device != 0
  let device := swapchain.device
  let unfenced :=
    context.nativeDestroyFound (loaded && driver.destroys device .fence) .fence swapchain.presentCompletion
  let unpooled := unfenced.nativeDestroyFound (loaded && driver.destroys device .commandPool) .commandPool
    swapchain.producerCommandPool
  let (status, imageless) :=
    unpooled.destroySwapchainImages driver loaded device swapchain.images (driver.stopStatus slot)
  let (removed, handleless) := imageless.removeSwapchainHandle swapchain.swapchainId
  (firstStatus status removed <|> driver.releaseStatus slot, handleless)

def setSwapchain (slot : Nat) (swapchain : SwapchainMetadata) : ObjectContext :=
  { context with swapchains := context.swapchains.set slot swapchain }

def destroySwapchainSlot (slot : Nat) : Completed :=
  let (status, next) :=
    context.destroySwapchainMetadata driver slot (context.swapchains.getD slot .zero)
  (match status with
    | some code => .error code
    | none => .ok (),
    next.setSwapchain slot .zero)

/-- What the driver answers while one image of a swapchain is made: `placed` is
false when no memory type or no size fits, `exported` the result of the bind
and the export of the memory. -/
structure SwapchainImageAnswers where
  image : NativeAnswer
  placed : Bool
  memory : NativeAnswer
  bound : VulkanResult
  exported : VulkanResult

/-- What the driver and the kernel answer while a swapchain is prepared. -/
structure SwapchainAnswers where
  ready : Verdict
  control : Option Errno
  entryPoints : Bool
  queue : UInt64
  commandPool : NativeAnswer
  commands : VulkanResult × List UInt64
  fence : NativeAnswer
  images : Nat → SwapchainImageAnswers
  duplicated : Option Errno

/-- The producer's queue, command pool, command buffers and fence. A native
failure here is not reported. -/
def createSwapchainProducerResources (answers : SwapchainAnswers) (swapchain : SwapchainMetadata) :
    Option Errno × SwapchainMetadata × ObjectContext :=
  match context.deviceQueueInfos swapchain.deviceId with
  | none => (some .enodev, swapchain, context)
  | some infos =>
      if infos.head?.all fun info => info.queueCount == 0 then (some .enodev, swapchain, context)
      else if !answers.entryPoints then (some .enosys, swapchain, context)
      else if answers.queue = 0 then (some .enodev, swapchain, context)
      else if answers.commandPool.result ≠ vkSuccess then (none, swapchain, context)
      else
        let pooled := context.nativeCreate .commandPool answers.commandPool
        let held := { swapchain with producerCommandPool := answers.commandPool.handle }
        if answers.commands.1 ≠ vkSuccess then (none, held, pooled)
        else
          let recorded := { held with commands := answers.commands.2 }
          if answers.fence.result ≠ vkSuccess then (none, recorded, pooled)
          else
            (none, { recorded with presentCompletion := answers.fence.handle },
              pooled.nativeCreate .fence answers.fence)

structure SwapchainProgress where
  result : VulkanResult
  images : List SwapchainImage

def prepareSwapchainImages (answers : Nat → SwapchainImageAnswers) (deviceId : UInt64) :
    Nat → Nat → List SwapchainImage → ObjectContext → SwapchainProgress × ObjectContext
  | 0, _, images, context => (⟨vkSuccess, images⟩, context)
  | remaining + 1, index, images, context =>
      let answer := answers index
      if answer.image.result ≠ vkSuccess then (⟨answer.image.result, images⟩, context)
      else
        let imaged := context.nativeCreate .image answer.image
        if !answer.placed then
          (⟨vkErrorOutOfDeviceMemory, images ++ [⟨0, answer.image.handle, 0⟩]⟩, imaged)
        else if answer.memory.result ≠ vkSuccess then
          (⟨answer.memory.result, images ++ [⟨0, answer.image.handle, 0⟩]⟩, imaged)
        else
          let backed := imaged.nativeCreate .deviceMemory answer.memory
          let image : SwapchainImage := ⟨0, answer.image.handle, answer.memory.handle⟩
          if answer.bound ≠ vkSuccess then (⟨answer.bound, images ++ [image]⟩, backed)
          else if answer.exported ≠ vkSuccess then (⟨answer.exported, images ++ [image]⟩, backed)
          else
            let (imageId, numbered) := backed.takeSerial .image
            match numbered.objects.insert imageId deviceId answer.image.handle with
            | .error _ =>
                (⟨vkErrorTooManyObjects, images ++ [{ image with imageId := imageId }]⟩, numbered)
            | .ok objects =>
                let held := { numbered with objects := objects }
                match held.slotOf .image 0 with
                | none =>
                    (⟨vkErrorTooManyObjects, images ++ [image]⟩,
                      (held.removeHandle imageId .image).2)
                | some slot =>
                    prepareSwapchainImages answers deviceId remaining (index + 1)
                      (images ++ [{ image with imageId := imageId }]) (held.setMetadata .image slot imageId)

def abandonSwapchain (slot : Nat) (swapchain : SwapchainMetadata) (reply : Except Errno ObjectReply) :
    Answered :=
  (reply, ((context.destroySwapchainMetadata driver slot swapchain).2).setSwapchain slot .zero)

def registerSwapchain (slot : Nat) (duplicated : Option Errno) (swapchain : SwapchainMetadata) : Answered :=
  match duplicated with
  | some code => context.abandonSwapchain driver slot swapchain (.error code)
  | none =>
      let (swapchainId, numbered) := context.takeSerial .swapchain
      -- The native bits are the address of the slot.
      match numbered.objects.insert swapchainId swapchain.deviceId (UInt64.ofNat (slot + 1)) with
      | .error code =>
          numbered.abandonSwapchain driver slot { swapchain with swapchainId := swapchainId } (.error code)
      | .ok objects =>
          (.ok ⟨vkSuccess, swapchainId :: swapchain.images.map (·.imageId)⟩,
            ({ numbered with objects := objects }).setSwapchain slot { swapchain with swapchainId := swapchainId })

def prepareSwapchain (deviceId : UInt64) (minImageCount : Nat) (fields : Verdict)
    (answers : SwapchainAnswers) : Answered :=
  match fields with
  | some verdict => (verdict.map (⟨·, []⟩), context)
  | none =>
      if context.objects.capacity - context.objects.count < minImageCount + 1 then
        (.ok ⟨vkErrorTooManyObjects, []⟩, context)
      else
        match context.swapchains.findIdx? fun swapchain => swapchain.swapchainId == 0 with
        | none => (.ok ⟨vkErrorTooManyObjects, []⟩, context)
        | some slot =>
            let start := context.setSwapchain slot .zero
            match context.objects.lookup deviceId .device with
            | .error code => (.error code, start)
            | .ok (physicalId, device) =>
                match context.resolvePhysicalDevice physicalId with
                | .error code => (.error code, start)
                | .ok _ =>
                    match answers.ready with
                    | some verdict => (verdict.map (⟨·, []⟩), start)
                    | none =>
                        let swapchain : SwapchainMetadata := ⟨0, deviceId, device, 0, [], 0, []⟩
                        match answers.control with
                        | some code => start.abandonSwapchain driver slot swapchain (.error code)
                        | none =>
                            match start.createSwapchainProducerResources answers swapchain with
                            | (some code, swapchain, next) =>
                                next.abandonSwapchain driver slot swapchain (.error code)
                            | (none, swapchain, next) =>
                                let (progress, next) :=
                                  prepareSwapchainImages answers.images deviceId minImageCount 0 [] next
                                let swapchain := { swapchain with images := progress.images }
                                if progress.result ≠ vkSuccess then
                                  next.abandonSwapchain driver slot swapchain (.ok ⟨progress.result, []⟩)
                                else next.registerSwapchain driver slot answers.duplicated swapchain

def destroySwapchain (swapchainId : UInt64) : Completed :=
  if !handleExpect swapchainId .swapchain then (.error .einval, context)
  else
    match context.swapchains.findIdx? fun swapchain => swapchain.swapchainId == swapchainId with
    | none => (.error .enoent, context)
    | some slot => context.destroySwapchainSlot driver slot

/-- `destroyFound` and `procFound` say whether the new instance has
`vkDestroyInstance` and `vkGetDeviceProcAddr`, asked for only while the context
lacks them. -/
def createInstance (fields : Verdict) (native : NativeAnswer) (destroyFound procFound : Bool) : Answered :=
  match fields with
  | some verdict => (verdict.map (⟨·, []⟩), context)
  | none =>
      if context.objects.count = context.objects.capacity then (.ok ⟨vkErrorTooManyObjects, []⟩, context)
      else if native.result ≠ vkSuccess then (.error .eio, context)
      else
        let created := context.nativeCreate .inst native
        if !(context.hasDestroyInstance || destroyFound) then
          (.ok ⟨vkErrorInitializationFailed, []⟩, created)
        else
          let destroyable := { created with hasDestroyInstance := true }
          if !(context.hasGetDeviceProcAddr || procFound) then
            (.ok ⟨vkErrorInitializationFailed, []⟩, destroyable.nativeDestroy .inst native.handle)
          else ({ destroyable with hasGetDeviceProcAddr := true }).registerChild .inst .none 0 native

def registerBorrowed (type : ObjectType) (parentId nativeBits : UInt64) : Except Errno UInt64 × ObjectContext :=
  let known := context.existingId type parentId nativeBits
  if known ≠ 0 then (.ok known, context)
  else
    let (wireId, numbered) := context.takeSerial type
    match numbered.objects.insert wireId parentId nativeBits with
    | .error code => (.error code, numbered)
    | .ok objects => (.ok wireId, { numbered with objects := objects })

def registerPhysicalDevices (instanceId : UInt64) (result : VulkanResult) :
    List UInt64 → List UInt64 → ObjectContext → Answered
  | [], ids, context => (.ok ⟨result, ids⟩, context)
  | nativeBits :: rest, ids, context =>
      match context.registerBorrowed .physicalDevice instanceId nativeBits with
      | (.error code, next) => (.error code, next)
      | (.ok wireId, next) => registerPhysicalDevices instanceId result rest (ids ++ [wireId]) next

/-- `answer` is the verdict on the two enumeration calls, and `natives` what
the second returned. -/
def enumeratePhysicalDevices (instanceId : UInt64) (answer : Verdict) (result : VulkanResult)
    (natives : List UInt64) : Answered :=
  match context.objects.lookup instanceId .inst with
  | .error code => (.error code, context)
  | .ok _ =>
      match answer with
      | some verdict => (verdict.map (⟨·, []⟩), context)
      | none => registerPhysicalDevices instanceId result natives [] context

/-- `queues` is the verdict on the queues and properties of the physical device. -/
def createDevice (physicalDeviceId : UInt64) (fields queues : Verdict) (infos : List QueueCreateInfo)
    (native : NativeAnswer) : Answered :=
  match fields with
  | some verdict => (verdict.map (⟨·, []⟩), context)
  | none =>
      if context.objects.count = context.objects.capacity then (.ok ⟨vkErrorTooManyObjects, []⟩, context)
      else
        match context.resolvePhysicalDevice physicalDeviceId with
        | .error code => (.error code, context)
        | .ok _ =>
            match queues with
            | some verdict => (verdict.map (⟨·, []⟩), context)
            | none =>
                if native.result ≠ vkSuccess then (.ok ⟨native.result, []⟩, context)
                else
                  let created := context.nativeCreate .device native
                  if !driver.destroys native.handle .device then
                    (.ok ⟨vkErrorInitializationFailed, []⟩, created)
                  else
                    let (wireId, numbered) := created.takeSerial .device
                    match numbered.slotOf .device 0 with
                    | none => numbered.giveUp .device native
                    | some slot =>
                        match numbered.objects.insert wireId physicalDeviceId native.handle with
                        | .error _ => numbered.giveUp .device native
                        | .ok objects =>
                            let held := ({ numbered with objects := objects }).setMetadata .device slot wireId
                            (.ok ⟨vkSuccess, [wireId]⟩,
                              { held with queueInfos := Function.update held.queueInfos slot infos })

def getDeviceQueue (deviceId : UInt64) (queueFamilyIndex queueIndex : UInt32) (present : Bool)
    (queue : UInt64) : Answered :=
  match context.objects.lookup deviceId .device with
  | .error code => (.error code, context)
  | .ok _ =>
      match context.deviceQueueInfos deviceId with
      | none => (.error .enoent, context)
      | some infos =>
          if deviceMetadataQueueCount infos queueFamilyIndex ≤ queueIndex then (.error .erange, context)
          else if !present then (.error .enosys, context)
          else if queue = 0 then (.error .eio, context)
          else
            match context.registerBorrowed .queue deviceId queue with
            | (.error code, next) => (.error code, next)
            | (.ok wireId, next) => (.ok ⟨vkSuccess, [wireId]⟩, next)

def runStages : List (ObjectContext → Completed) → ObjectContext → Completed
  | [], context => (.ok (), context)
  | stage :: rest, context =>
      match stage context with
      | (.error code, next) => (.error code, next)
      | (.ok _, next) => runStages rest next

def destroyDeviceSwapchain (deviceId : UInt64) (slot : Nat) : Completed :=
  let swapchain := context.swapchains.getD slot .zero
  if swapchain.swapchainId ≠ 0 ∧ swapchain.deviceId = deviceId then context.destroySwapchainSlot driver slot
  else (.ok (), context)

def sweepImageViews (deviceId : UInt64) : Completed :=
  sweep
    (fun current entry =>
      handleType entry.wireId == .imageView &&
        match current.objects.lookup entry.parentId .image with
        | .error _ => false
        | .ok (imageDeviceId, _) => imageDeviceId == deviceId)
    (fun current imageViewId => current.destroyImageView driver imageViewId) context.objects.capacity 0 context

/-- The objects that `destroy_device` sweeps before the image views, in order. -/
def sweptBeforeViews : List (ObjectType × (ObjectContext → UInt64 → Completed)) :=
  [(.pipeline, destroyPipeline driver), (.pipelineLayout, destroyPipelineLayout driver),
    (.queryPool, destroyQueryPool driver), (.descriptorPool, destroyDescriptorPool driver),
    (.sampler, destroySampler driver), (.descriptorUpdateTemplate, destroyDescriptorUpdateTemplate driver),
    (.descriptorSetLayout, destroyDescriptorSetLayout driver), (.commandPool, destroyCommandPool driver)]

def sweptAfterViews : List (ObjectType × (ObjectContext → UInt64 → Completed)) :=
  [(.image, destroyImage driver), (.buffer, destroyBuffer driver), (.deviceMemory, freeMemory driver),
    (.fence, destroyFence driver), (.semaphore, destroySemaphore driver),
    (.queue, fun current queueId => current.removeHandle queueId .queue)]

/-- What `destroy_device` does between its checks and the device itself. -/
def destroyDeviceStages (deviceId : UInt64) : List (ObjectContext → Completed) :=
  (List.range wsiFrameRingMaxSlots).map (fun slot current => current.destroyDeviceSwapchain driver deviceId slot) ++
    (sweptBeforeViews driver).map (fun swept current => current.sweepChildren swept.1 deviceId swept.2) ++
    [fun current => current.sweepImageViews driver deviceId] ++
    (sweptAfterViews driver).map (fun swept current => current.sweepChildren swept.1 deviceId swept.2)

/-- The checks of `destroy_device`, and the device when they pass. -/
def destroyDeviceChecks (deviceId : UInt64) : Except Errno UInt64 :=
  if !context.hasGetDeviceProcAddr then .error .einval
  else
    match context.objects.lookup deviceId .device with
    | .error code => .error code
    | .ok (_, device) =>
        if !driver.destroys device .device then .error .enosys
        else if context.mirrors.any fun mirror => mirror.deviceId == deviceId then .error .ebusy
        else .ok device

def destroyDevice (deviceId : UInt64) : Completed :=
  match context.destroyDeviceChecks driver deviceId with
  | .error code => (.error code, context)
  | .ok device =>
      match runStages (destroyDeviceStages driver deviceId) context with
      | (.error code, next) => (.error code, next)
      | (.ok _, next) =>
          match next.removeHandle deviceId .device with
          | (.error code, last) => (.error code, last)
          | (.ok _, last) => (.ok (), (last.clearMetadata .device deviceId).nativeDestroy .device device)

def sweepDevices (instanceId : UInt64) : Completed :=
  sweep
    (fun current entry =>
      handleType entry.wireId == .device &&
        match current.objects.lookup entry.parentId .physicalDevice with
        | .error _ => false
        | .ok (physicalParent, _) => physicalParent == instanceId)
    (fun current deviceId => current.destroyDevice driver deviceId) context.objects.capacity 0 context

def destroyInstance (instanceId : UInt64) : Completed :=
  if !context.hasDestroyInstance then (.error .einval, context)
  else
    match context.objects.lookup instanceId .inst with
    | .error code => (.error code, context)
    | .ok (_, nativeBits) =>
        match context.sweepDevices driver instanceId with
        | (.error code, next) => (.error code, next)
        | (.ok _, deviceless) =>
            match deviceless.sweepChildren .physicalDevice instanceId
                (fun current childId => current.removeHandle childId .physicalDevice) with
            | (.error code, next) => (.error code, next)
            | (.ok _, bare) =>
                match bare.removeHandle instanceId .inst with
                | (.error code, last) => (.error code, last)
                | (.ok _, last) => (.ok (), last.nativeDestroy .inst nativeBits)

/-- `memory` is the verdict on the memory and the range, `mapped` that on the
byte limit and the mapping. -/
def setupMemoryMirror (deviceId memoryId generation : UInt64) (fields memory mapped : Verdict) : Answered :=
  match fields with
  | some verdict => (verdict.map (⟨·, []⟩), context)
  | none =>
      match context.resolveDeviceChild memoryId .deviceMemory with
      | .error code => (.error code, context)
      | .ok (ownerId, _, _) =>
          if ownerId ≠ deviceId then (.error .eproto, context)
          else
            match memory with
            | some verdict => (verdict.map (⟨·, []⟩), context)
            | none =>
                if context.mirrors.any fun mirror => mirror.memoryId == memoryId then (.error .ebusy, context)
                else if memoryMirrorCapacity ≤ context.mirrors.length then (.error .enospc, context)
                else
                  match mapped with
                  | some verdict => (verdict.map (⟨·, []⟩), context)
                  | none =>
                      (.ok ⟨vkSuccess, []⟩,
                        { context with mirrors := context.mirrors ++ [⟨deviceId, memoryId, generation⟩] })

def unmapMemoryMirror (deviceId memoryId generation : UInt64) : Completed :=
  match context.mirrors.find? fun mirror => mirror.memoryId == memoryId with
  | none => (.error .estale, context)
  | some mirror =>
      if mirror.deviceId ≠ deviceId ∨ mirror.generation ≠ generation then (.error .estale, context)
      else
        (.ok (),
          { context with mirrors := context.mirrors.eraseP fun mirror => mirror.memoryId == memoryId })

end ObjectContext

/-- A call with its arguments and the driver's answers to it. -/
inductive ObjectRequest where
  | createInstance (fields : Verdict) (native : NativeAnswer) (destroyFound procFound : Bool)
  | destroyInstance (instanceId : UInt64)
  | enumeratePhysicalDevices (instanceId : UInt64) (answer : Verdict) (result : VulkanResult)
      (natives : List UInt64)
  | createDevice (physicalDeviceId : UInt64) (fields queues : Verdict) (infos : List QueueCreateInfo)
      (native : NativeAnswer)
  | destroyDevice (deviceId : UInt64)
  | getDeviceQueue (deviceId : UInt64) (queueFamilyIndex queueIndex : UInt32) (present : Bool) (queue : UInt64)
  | createCommandPool (deviceId : UInt64) (queueFamilyIndex : UInt32) (fields : Verdict) (native : NativeAnswer)
  | destroyCommandPool (objectId : UInt64)
  | allocateCommandBuffer (commandPoolId : UInt64) (fields : Verdict) (native : NativeAnswer)
  | freeCommandBuffer (commandPoolId commandBufferId : UInt64)
  | createDescriptorSetLayout (deviceId : UInt64) (fields : Verdict) (native : NativeAnswer)
  | destroyDescriptorSetLayout (objectId : UInt64)
  | createDescriptorUpdateTemplate (deviceId layoutId : UInt64) (fields entries : Verdict) (native : NativeAnswer)
  | destroyDescriptorUpdateTemplate (objectId : UInt64)
  | createDescriptorPool (deviceId : UInt64) (fields : Verdict) (native : NativeAnswer)
  | destroyDescriptorPool (objectId : UInt64)
  | resetDescriptorPool (descriptorPoolId : UInt64) (fields : Verdict) (present : Bool) (result : VulkanResult)
  | allocateDescriptorSets (descriptorPoolId : UInt64) (setLayoutIds : List UInt64) (result : VulkanResult)
      (sets : Nat → UInt64)
  | createQueryPool (deviceId : UInt64) (native : NativeAnswer)
  | destroyQueryPool (objectId : UInt64)
  | createSampler (deviceId : UInt64) (fields : Verdict) (native : NativeAnswer)
  | destroySampler (objectId : UInt64)
  | createPipelineLayout (deviceId : UInt64) (independentSets : Bool) (setLayoutIds : List UInt64)
      (fields ranges : Verdict) (native : NativeAnswer)
  | destroyPipelineLayout (objectId : UInt64)
  | createGraphicsPipeline (deviceId pipelineLayoutId : UInt64) (fields : Verdict) (native : NativeAnswer)
  | destroyPipeline (objectId : UInt64)
  | createBuffer (deviceId : UInt64) (fields : Verdict) (native : NativeAnswer)
  | destroyBuffer (objectId : UInt64)
  | allocateMemory (deviceId : UInt64) (dedicatedImageId : Option UInt64) (fields properties : Verdict)
      (native : NativeAnswer)
  | freeMemory (objectId : UInt64)
  | setupMemoryMirror (deviceId memoryId generation : UInt64) (fields memory mapped : Verdict)
  | unmapMemoryMirror (deviceId memoryId generation : UInt64)
  | createImage (deviceId : UInt64) (fields : Verdict) (native : NativeAnswer)
  | destroyImage (objectId : UInt64)
  | createImageView (deviceId imageId : UInt64) (fields range : Verdict) (native : NativeAnswer)
  | destroyImageView (imageViewId : UInt64)
  | createFence (deviceId : UInt64) (fields : Verdict) (native : NativeAnswer)
  | destroyFence (objectId : UInt64)
  | createSemaphore (deviceId : UInt64) (fields : Verdict) (native : NativeAnswer)
  | destroySemaphore (objectId : UInt64)
  | prepareSwapchain (deviceId : UInt64) (minImageCount : Nat) (fields : Verdict)
      (answers : ObjectContext.SwapchainAnswers)
  | destroySwapchain (swapchainId : UInt64)

namespace ObjectContext

def completed (outcome : Completed) : Answered := (outcome.1.map fun _ => ⟨vkSuccess, []⟩, outcome.2)

def call (driver : ObjectDriver) (context : ObjectContext) : ObjectRequest → Answered
  | .createInstance fields native destroyFound procFound =>
      context.createInstance fields native destroyFound procFound
  | .destroyInstance instanceId => completed (context.destroyInstance driver instanceId)
  | .enumeratePhysicalDevices instanceId answer result natives =>
      context.enumeratePhysicalDevices instanceId answer result natives
  | .createDevice physicalDeviceId fields queues infos native =>
      context.createDevice driver physicalDeviceId fields queues infos native
  | .destroyDevice deviceId => completed (context.destroyDevice driver deviceId)
  | .getDeviceQueue deviceId queueFamilyIndex queueIndex present queue =>
      context.getDeviceQueue deviceId queueFamilyIndex queueIndex present queue
  | .createCommandPool deviceId queueFamilyIndex fields native =>
      context.createCommandPool driver deviceId queueFamilyIndex fields native
  | .destroyCommandPool objectId => completed (context.destroyCommandPool driver objectId)
  | .allocateCommandBuffer commandPoolId fields native =>
      context.allocateCommandBuffer driver commandPoolId fields native
  | .freeCommandBuffer commandPoolId commandBufferId =>
      completed (context.freeCommandBuffer driver commandPoolId commandBufferId)
  | .createDescriptorSetLayout deviceId fields native =>
      context.createDescriptorSetLayout driver deviceId fields native
  | .destroyDescriptorSetLayout objectId => completed (context.destroyDescriptorSetLayout driver objectId)
  | .createDescriptorUpdateTemplate deviceId layoutId fields entries native =>
      context.createDescriptorUpdateTemplate driver deviceId layoutId fields entries native
  | .destroyDescriptorUpdateTemplate objectId =>
      completed (context.destroyDescriptorUpdateTemplate driver objectId)
  | .createDescriptorPool deviceId fields native => context.createDescriptorPool driver deviceId fields native
  | .destroyDescriptorPool objectId => completed (context.destroyDescriptorPool driver objectId)
  | .resetDescriptorPool descriptorPoolId fields present result =>
      context.resetDescriptorPool descriptorPoolId fields present result
  | .allocateDescriptorSets descriptorPoolId setLayoutIds result sets =>
      context.allocateDescriptorSets driver descriptorPoolId setLayoutIds result sets
  | .createQueryPool deviceId native => context.createQueryPool driver deviceId native
  | .destroyQueryPool objectId => completed (context.destroyQueryPool driver objectId)
  | .createSampler deviceId fields native => context.createSampler driver deviceId fields native
  | .destroySampler objectId => completed (context.destroySampler driver objectId)
  | .createPipelineLayout deviceId independentSets setLayoutIds fields ranges native =>
      context.createPipelineLayout driver deviceId independentSets setLayoutIds fields ranges native
  | .destroyPipelineLayout objectId => completed (context.destroyPipelineLayout driver objectId)
  | .createGraphicsPipeline deviceId pipelineLayoutId fields native =>
      context.createGraphicsPipeline driver deviceId pipelineLayoutId fields native
  | .destroyPipeline objectId => completed (context.destroyPipeline driver objectId)
  | .createBuffer deviceId fields native => context.createBuffer driver deviceId fields native
  | .destroyBuffer objectId => completed (context.destroyBuffer driver objectId)
  | .allocateMemory deviceId dedicatedImageId fields properties native =>
      context.allocateMemory driver deviceId dedicatedImageId fields properties native
  | .freeMemory objectId => completed (context.freeMemory driver objectId)
  | .setupMemoryMirror deviceId memoryId generation fields memory mapped =>
      context.setupMemoryMirror deviceId memoryId generation fields memory mapped
  | .unmapMemoryMirror deviceId memoryId generation =>
      completed (context.unmapMemoryMirror deviceId memoryId generation)
  | .createImage deviceId fields native => context.createImage driver deviceId fields native
  | .destroyImage objectId => completed (context.destroyImage driver objectId)
  | .createImageView deviceId imageId fields range native =>
      context.createImageView driver deviceId imageId fields range native
  | .destroyImageView imageViewId => completed (context.destroyImageView driver imageViewId)
  | .createFence deviceId fields native => context.createFence driver deviceId fields native
  | .destroyFence objectId => completed (context.destroyFence driver objectId)
  | .createSemaphore deviceId fields native => context.createSemaphore driver deviceId fields native
  | .destroySemaphore objectId => completed (context.destroySemaphore driver objectId)
  | .prepareSwapchain deviceId minImageCount fields answers =>
      context.prepareSwapchain driver deviceId minImageCount fields answers
  | .destroySwapchain swapchainId => completed (context.destroySwapchain driver swapchainId)

def step (context : ObjectContext) (input : ObjectDriver × ObjectRequest) : ObjectContext :=
  (context.call input.1 input.2).2

end ObjectContext

end VulkanBridge
