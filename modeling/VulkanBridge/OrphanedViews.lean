import VulkanBridge.Teardown

/-!
The ownership tree of a service context over whole runs. It stays closed as
long as no swapchain is torn down under live views of its images, and after a
successful teardown of a device or an instance nothing below it is left.
-/

namespace VulkanBridge

open HandleTable

namespace ObjectContext

/-- `ancestorId` is on the chain of parents of a live entry. -/
inductive Ancestor (context : ObjectContext) (ancestorId : UInt64) : UInt64 → Prop where
  | parent {wireId nativeBits : UInt64} : context.Live wireId ancestorId nativeBits →
      Ancestor context ancestorId wireId
  | above {wireId parentId nativeBits : UInt64} : context.Live wireId parentId nativeBits →
      Ancestor context ancestorId parentId → Ancestor context ancestorId wireId

/-- The call tears down no swapchain while a live handle hangs from one of its
images. A preparation that fails tears down the images it numbered. -/
def SparesViews (context : ObjectContext) (input : ObjectDriver × ObjectRequest) : Prop :=
  match input.2 with
  | .destroySwapchain swapchainId => ∀ slot, (context.slotAt slot).swapchainId = swapchainId →
      context.Unviewed (context.slotAt slot).images
  | .destroyDevice deviceId => ∀ device, context.destroyDeviceChecks input.1 deviceId = .ok device →
      UnviewedDevice deviceId context
  | .destroyInstance instanceId => UnviewedInstance instanceId context
  | .prepareSwapchain _ minImageCount _ _ => context.Unclaimed minImageCount
  | _ => True

/-- The object a call is to destroy with all it owns. -/
def destroyedRoot : ObjectRequest → Option UInt64
  | .destroyDevice deviceId => some deviceId
  | .destroyInstance instanceId => some instanceId
  | _ => none

variable {driver : ObjectDriver} {context : ObjectContext}

theorem completed_ok {outcome : Completed} {reply : ObjectReply} (done : (completed outcome).1 = .ok reply) :
    outcome.1 = .ok () := by
  obtain ⟨result, next⟩ := outcome
  cases result with
  | error code => cases done
  | ok nothing => rfl

theorem Closed.not_ancestor (closed : context.Closed) {rootId : UInt64} (some : rootId ≠ 0)
    (gone : ∀ parentId nativeBits, ¬ context.Live rootId parentId nativeBits) (wireId : UInt64) :
    ¬ context.Ancestor rootId wireId := by
  intro ancestor
  induction ancestor with
  | parent live =>
      obtain ⟨upId, upBits, up⟩ := closed _ _ _ live some
      exact gone _ _ up
  | above _ _ ih => exact ih

theorem destroySwapchain_rooted (rooted : context.Rooted) (swapchainId : UInt64)
    (spares : ∀ slot, (context.slotAt slot).swapchainId = swapchainId →
      context.Unviewed (context.slotAt slot).images) :
    (context.destroySwapchain driver swapchainId).2.Rooted := by
  unfold destroySwapchain
  split
  · exact rooted
  split
  · exact rooted
  · rename_i slot found
    obtain ⟨bound, isSlot, -⟩ := List.findIdx?_eq_some_iff_getElem.mp found
    refine (destroySwapchainSlot_rooted driver rooted slot (spares slot ?_)).1
    simpa [slotAt, List.getD_eq_getElem?_getD, bound] using isSlot

theorem setupMemoryMirror_frame (context : ObjectContext) (deviceId memoryId generation : UInt64)
    (fields memory mapped : Verdict) :
    (context.setupMemoryMirror deviceId memoryId generation fields memory mapped).2.objects = context.objects ∧
      (context.setupMemoryMirror deviceId memoryId generation fields memory mapped).2.swapchains =
        context.swapchains := by
  unfold setupMemoryMirror
  repeat' split
  all_goals exact ⟨rfl, rfl⟩

theorem unmapMemoryMirror_frame (context : ObjectContext) (deviceId memoryId generation : UInt64) :
    (context.unmapMemoryMirror deviceId memoryId generation).2.objects = context.objects ∧
      (context.unmapMemoryMirror deviceId memoryId generation).2.swapchains = context.swapchains := by
  unfold unmapMemoryMirror
  repeat' split
  all_goals exact ⟨rfl, rfl⟩

theorem call_rooted (rooted : context.Rooted) (request : ObjectRequest)
    (spares : context.SparesViews (driver, request)) : (context.call driver request).2.Rooted := by
  cases request with
  | createInstance fields native destroyFound procFound =>
      exact createInstance_rooted rooted fields native destroyFound procFound
  | destroyInstance instanceId => exact (destroyInstance_tearsDown rooted spares).rooted
  | enumeratePhysicalDevices instanceId answer result natives =>
      exact enumeratePhysicalDevices_rooted rooted instanceId answer result natives
  | createDevice physicalDeviceId fields queues infos native =>
      exact createDevice_rooted rooted physicalDeviceId fields queues infos native
  | destroyDevice deviceId => exact (destroyDevice_tearsDown rooted spares).rooted
  | getDeviceQueue deviceId queueFamilyIndex queueIndex present queue =>
      exact getDeviceQueue_rooted rooted deviceId queueFamilyIndex queueIndex present queue
  | allocateCommandBuffer commandPoolId fields native =>
      exact allocateCommandBuffer_rooted rooted commandPoolId fields native
  | freeCommandBuffer commandPoolId commandBufferId =>
      exact freeCommandBuffer_rooted rooted commandPoolId commandBufferId
  | resetDescriptorPool descriptorPoolId fields present result =>
      exact resetDescriptorPool_rooted rooted descriptorPoolId fields present result
  | allocateDescriptorSets descriptorPoolId setLayoutIds result sets =>
      exact allocateDescriptorSets_rooted rooted descriptorPoolId setLayoutIds result sets
  | createImageView deviceId imageId fields range native =>
      exact createImageView_rooted rooted deviceId imageId fields range native
  | destroyImageView imageViewId => exact (destroyImageView_tearsDown rooted imageViewId).rooted
  | destroyImage objectId => exact (destroyImage_tearsDown rooted objectId).rooted
  | prepareSwapchain deviceId minImageCount fields answers =>
      exact prepareSwapchain_rooted rooted deviceId minImageCount fields answers spares
  | destroySwapchain swapchainId => exact destroySwapchain_rooted rooted swapchainId spares
  | setupMemoryMirror deviceId memoryId generation fields memory mapped =>
      have frame := setupMemoryMirror_frame context deviceId memoryId generation fields memory mapped
      exact rooted.of_eq frame.1 frame.2
  | unmapMemoryMirror deviceId memoryId generation =>
      have frame := unmapMemoryMirror_frame context deviceId memoryId generation
      exact rooted.of_eq frame.1 frame.2
  | destroyCommandPool objectId =>
      exact (destroyPool_tearsDown rooted objectId (by decide) (owns_nothing (by decide))
        (pool_only _ _ (by decide))).rooted
  | destroyDescriptorPool objectId =>
      exact (destroyPool_tearsDown rooted objectId (by decide) (owns_nothing (by decide))
        (pool_only _ _ (by decide))).rooted
  | createCommandPool | createDescriptorSetLayout | createDescriptorUpdateTemplate | createDescriptorPool
  | createQueryPool | createSampler | createPipelineLayout | createGraphicsPipeline | createBuffer
  | allocateMemory | createImage | createFence | createSemaphore =>
      exact createDeviceChild_rooted rooted _ _ _ _ _ rfl (by decide)
  | destroyDescriptorSetLayout | destroyDescriptorUpdateTemplate | destroyQueryPool | destroySampler
  | destroyPipelineLayout | destroyPipeline | destroyBuffer | freeMemory | destroyFence | destroySemaphore =>
      exact (destroyLeaf_tearsDown rooted _ _ (owns_nothing (by decide))).rooted

theorem empty_rooted {capacity : Nat} (power : ∃ exponent, capacity = 2 ^ exponent) (large : 8 ≤ capacity)
    (found : Bool) : (empty capacity found).Rooted := by
  have blank : ∀ wireId parentId nativeBits, ¬ (empty capacity found).Live wireId parentId nativeBits := by
    rintro wireId parentId nativeBits ⟨index, -, entry⟩
    cases entry
  refine ⟨Sound.init power large, rfl, ?_, ?_, ?_⟩
  · intro wireId parentId nativeBits live
    exact absurd live (blank _ _ _)
  · intro wireId parentId nativeBits live
    exact absurd live (blank _ _ _)
  · intro wireId parentId nativeBits live
    exact absurd live (blank _ _ _)

theorem destroyedRoot_gone (rooted : context.Rooted) {request : ObjectRequest} {rootId : UInt64}
    {reply : ObjectReply} (spares : context.SparesViews (driver, request))
    (isRoot : destroyedRoot request = some rootId) (done : (context.call driver request).1 = .ok reply) :
    rootId ≠ 0 ∧ ∀ parentId nativeBits, ¬ (context.call driver request).2.Live rootId parentId nativeBits := by
  cases request with
  | destroyDevice deviceId =>
      cases isRoot
      have finished := completed_ok done
      refine ⟨?_, (destroyDevice_tearsDown rooted spares).gone finished⟩
      rintro rfl
      simp only [destroyDevice] at finished
      split at finished
      · cases finished
      · rename_i device admitted
        have isDevice := destroyDeviceChecks_device rooted admitted
        rw [handleType_zero] at isDevice
        cases isDevice
  | destroyInstance instanceId =>
      cases isRoot
      have finished := completed_ok done
      refine ⟨?_, (destroyInstance_tearsDown rooted spares).gone finished⟩
      rintro rfl
      simp only [destroyInstance] at finished
      split at finished
      · cases finished
      split at finished
      · cases finished
      · rename_i owner nativeBits found
        have isInstance := (lookup_live rooted found).1
        rw [handleType_zero] at isInstance
        cases isInstance
  | _ => cases isRoot

theorem run_rooted (inputs : List (ObjectDriver × ObjectRequest)) (start : ObjectContext)
    (rooted : start.Rooted) (spares : Runs.EveryStep step SparesViews start inputs) :
    Runs.EveryState step Rooted start inputs :=
  Runs.everyState_of_everyStep (fun _ input holds meets => call_rooted holds input.2 meets) inputs start rooted
    spares

/-- In every run that tears down no swapchain under live views of its images,
every state is closed, and what is destroyed with all it owns leaves nothing. -/
theorem ownership_tree_stays_closed (found : Bool) (inputs : List (ObjectDriver × ObjectRequest))
    (spares : Runs.EveryStep step SparesViews (empty globalObjectCapacity found) inputs) :
    Runs.EveryState step Closed (empty globalObjectCapacity found) inputs ∧
      Runs.EveryStep step
        (fun context input => ∀ rootId reply, destroyedRoot input.2 = some rootId →
          (context.call input.1 input.2).1 = .ok reply →
          ∀ wireId, ¬ (context.step input).Ancestor rootId wireId)
        (empty globalObjectCapacity found) inputs := by
  have start : (empty globalObjectCapacity found).Rooted := empty_rooted ⟨12, rfl⟩ (by decide) found
  have states := run_rooted inputs _ start spares
  refine ⟨states.imp fun _ rooted => rooted.closed, states.everyStep ?_ spares⟩
  intro context input rooted meets rootId reply isRoot done wireId
  obtain ⟨some, gone⟩ := destroyedRoot_gone rooted meets isRoot done
  exact (call_rooted rooted input.2 meets).closed.not_ancestor some gone wireId

/-- A driver that has every function and whose teardowns succeed. -/
def fullDriver : ObjectDriver := ⟨fun _ _ => true, fun _ _ => true, fun _ => none, fun _ => none⟩

def swapchainAnswers : SwapchainAnswers where
  ready := none
  control := none
  entryPoints := true
  queue := 31
  commandPool := ⟨vkSuccess, 71⟩
  commands := (vkSuccess, [72, 73, 74, 75])
  fence := ⟨vkSuccess, 76⟩
  images := fun index =>
    ⟨⟨vkSuccess, 80 + UInt64.ofNat index⟩, true, ⟨vkSuccess, 90 + UInt64.ofNat index⟩, vkSuccess, vkSuccess⟩
  duplicated := none

def swapchainRun : List (ObjectDriver × ObjectRequest) :=
  [(fullDriver, .createInstance none ⟨vkSuccess, 10⟩ true true),
    (fullDriver, .enumeratePhysicalDevices (handleId .inst 1) none vkSuccess [20]),
    (fullDriver, .createDevice (handleId .physicalDevice 1) none none [⟨0, 1⟩] ⟨vkSuccess, 30⟩),
    (fullDriver, .prepareSwapchain (handleId .device 1) 2 none swapchainAnswers)]

/-- No entry has an id of `ids` as its parent. -/
def childless (context : ObjectContext) (ids : List UInt64) : Bool :=
  ids.all fun wireId => (List.range context.objects.capacity).all fun index =>
    (context.objects.entries index).parentId != wireId

theorem childless_live {ids : List UInt64} (checked : context.childless ids = true) {wireId : UInt64}
    (member : wireId ∈ ids) (view bits : UInt64) : ¬ context.Live view wireId bits := by
  rintro ⟨index, bound, entry⟩
  have other := List.all_eq_true.mp (List.all_eq_true.mp checked wireId member) index (List.mem_range.mpr bound)
  rw [entry] at other
  simp at other

theorem childless_slot (checked : context.childless
    (context.swapchains.flatMap fun swapchain => swapchain.images.map (·.imageId)) = true) (slot : Nat) :
    context.Unviewed (context.slotAt slot).images := by
  intro image member _ view bits
  refine childless_live checked ?_ view bits
  by_cases bound : slot < context.swapchains.length
  · rw [slotAt, List.getD_eq_getElem?_getD, List.getElem?_eq_getElem bound] at member
    exact List.mem_flatMap.mpr ⟨_, List.getElem_mem bound, List.mem_map.mpr ⟨image, member, rfl⟩⟩
  · rw [slotAt, List.getD_eq_getElem?_getD, List.getElem?_eq_none (by omega)] at member
    cases member

theorem childless_unclaimed {count : Nat} (checked : context.childless
    ((List.range count).map fun offset => handleId .image (context.nextSerial .image + UInt64.ofNat offset)) =
      true) : context.Unclaimed count := by
  intro offset bound view bits
  exact childless_live checked (List.mem_map.mpr ⟨offset, List.mem_range.mpr bound, rfl⟩) view bits

/-- The swapchain goes, and then its device. -/
def orderlyRun : List (ObjectDriver × ObjectRequest) :=
  swapchainRun ++
    [(fullDriver, .destroySwapchain (handleId .swapchain 1)), (fullDriver, .destroyDevice (handleId .device 1))]

theorem ownership_tree_stays_closed_orderly :
    Runs.EveryState step Closed (empty globalObjectCapacity true) orderlyRun := by
  refine (ownership_tree_stays_closed true orderlyRun ?_).1
  simp only [orderlyRun, swapchainRun, List.cons_append, List.nil_append, Runs.EveryStep]
  refine ⟨trivial, trivial, trivial, ?_, ?_, ?_, trivial⟩
  · exact childless_unclaimed (by decide +kernel)
  · intro slot _
    exact childless_slot (by decide +kernel) slot
  · intro device _ slot _ _
    exact childless_slot (by decide +kernel) slot

/-- A view of the first image, and the swapchain goes. -/
def orphaningRun : List (ObjectDriver × ObjectRequest) :=
  swapchainRun ++
    [(fullDriver, .createImageView (handleId .device 1) (handleId .image 1) none none ⟨vkSuccess, 40⟩),
      (fullDriver, .destroySwapchain (handleId .swapchain 1))]

/-- The view keeps an image that is gone as its parent. -/
theorem destroyed_swapchain_orphans_view :
    ¬ (Runs.final step (empty globalObjectCapacity true) orphaningRun).Closed := by
  intro closed
  have view : (Runs.final step (empty globalObjectCapacity true) orphaningRun).Live (handleId .imageView 1)
      (handleId .image 1) 40 := ⟨157, by decide +kernel, by decide +kernel⟩
  obtain ⟨upId, upBits, index, bound, entry⟩ := closed _ _ _ view (by decide)
  have absent : ((List.range globalObjectCapacity).all fun index =>
      ((Runs.final step (empty globalObjectCapacity true) orphaningRun).objects.entries index).wireId !=
        handleId .image 1) = true := by decide +kernel
  have capacity : (Runs.final step (empty globalObjectCapacity true) orphaningRun).objects.capacity =
      globalObjectCapacity := by decide +kernel
  rw [capacity] at bound
  have other := List.all_eq_true.mp absent index (List.mem_range.mpr bound)
  rw [entry] at other
  simp at other

end ObjectContext

end VulkanBridge
