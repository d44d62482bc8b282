import VulkanBridge.NativeCreation
import VulkanBridge.NativeTeardown
import VulkanBridge.OrphanedViews

/-!
No native object is destroyed twice over a run of calls whose creations return
fresh handles, unless an image of a swapchain is destroyed by its own handle:
its slot still holds it, and the teardown of the swapchain destroys it again.
-/

namespace VulkanBridge

open HandleTable

namespace ObjectContext

variable {driver : ObjectDriver} {context next : ObjectContext} {loose : List Holding}
  {wireId parentId nativeBits deviceId : UInt64} {type : ObjectType}

/-! ## Preparing a swapchain -/

theorem nativeCreate_created (context : ObjectContext) (type : ObjectType) (native : NativeAnswer) :
    context.created <+: (context.nativeCreate type native).created := by
  unfold nativeCreate
  split
  · exact List.prefix_append _ _
  · exact List.prefix_refl _

@[simp] theorem nativeDestroyFound_created (context : ObjectContext) (found : Bool) (type : ObjectType)
    (handle : UInt64) : (context.nativeDestroyFound found type handle).created = context.created := by
  unfold nativeDestroyFound
  split <;> rfl

@[simp] theorem removeSwapchainImage_created (context : ObjectContext) (imageId : UInt64) :
    (context.removeSwapchainImage imageId).2.created = context.created := by
  unfold removeSwapchainImage
  split <;> simp

theorem destroySwapchainImages_created (driver : ObjectDriver) (loaded : Bool) (device : UInt64)
    (images : List SwapchainImage) : ∀ (status : Option Errno) (context : ObjectContext),
      (destroySwapchainImages driver loaded device images status context).2.created = context.created := by
  induction images with
  | nil => intro status context; rfl
  | cons image rest ih =>
      intro status context
      simp only [destroySwapchainImages]
      rw [ih]
      simp

theorem destroySwapchainMetadata_created (driver : ObjectDriver) (context : ObjectContext) (slot : Nat)
    (swapchain : SwapchainMetadata) :
    (context.destroySwapchainMetadata driver slot swapchain).2.created = context.created := by
  unfold destroySwapchainMetadata removeSwapchainHandle
  dsimp only
  split
  · rw [destroySwapchainImages_created]
    simp
  · rw [removeHandle_created, destroySwapchainImages_created]
    simp

theorem abandonSwapchain_settled (driver : ObjectDriver) (slot : Nat) (swapchain : SwapchainMetadata)
    (reply : Except Errno ObjectReply)
    (accounted : context.created.Nodup → context.Accounted (swapchainHoldings swapchain)) :
    Settled (context.abandonSwapchain driver slot swapchain reply) := by
  intro fresh
  change (context.destroySwapchainMetadata driver slot swapchain).2.created.Nodup at fresh
  rw [destroySwapchainMetadata_created] at fresh
  have held := accounted fresh
  rw [← List.append_nil (swapchainHoldings swapchain)] at held
  have torn := (destroySwapchainMetadata_accounted driver slot swapchain held).1
  exact (torn.takeSlot slot).dropAll

theorem prefix_nodup {first second : List NativeObject} (isPrefix : first <+: second) (nodup : second.Nodup) :
    first.Nodup :=
  nodup.sublist isPrefix.sublist

def RecordSettled (outcome : Option Errno × SwapchainMetadata × ObjectContext) : Prop :=
  outcome.2.2.created.Nodup → outcome.2.2.Accounted (swapchainHoldings outcome.2.1)

theorem createSwapchainProducerResources_settled (accounted : context.Accounted []) (answers : SwapchainAnswers)
    (swapchain : SwapchainMetadata) (noPool : swapchain.producerCommandPool = 0)
    (noFence : swapchain.presentCompletion = 0) (noImages : swapchain.images = []) :
    RecordSettled (context.createSwapchainProducerResources answers swapchain) := by
  have nothing : swapchainHoldings swapchain = [] := by
    simp [swapchainHoldings, holdingOf, imageHoldings, noPool, noFence, noImages]
  have unchanged : ∀ status, RecordSettled (status, swapchain, context) := by
    intro status _
    rw [nothing]
    exact accounted
  unfold createSwapchainProducerResources
  split
  · exact unchanged _
  split
  · exact unchanged _
  split
  · exact unchanged _
  split
  · exact unchanged _
  split
  · exact unchanged _
  rename_i success
  have poolMade : answers.commandPool.result = vkSuccess := by simpa using success
  dsimp only
  -- The pool is held before its command buffers are allocated.
  have pooled : ∀ commands, (context.nativeCreate .commandPool answers.commandPool).created.Nodup →
      (context.nativeCreate .commandPool answers.commandPool).Accounted
        (swapchainHoldings { swapchain with
          producerCommandPool := answers.commandPool.handle, commands := commands }) := by
    intro commands fresh
    rw [nativeCreate_success poolMade] at fresh
    have held := (accounted.nativeCreate poolMade swapchain.deviceId fresh).holdOf
    simpa [swapchainHoldings, holdingOf, imageHoldings, noFence, noImages] using held
  split
  · exact pooled _
  split
  · exact pooled _
  rename_i success
  have fenceMade : answers.fence.result = vkSuccess := by simpa using success
  intro fresh
  dsimp only at fresh ⊢
  have before := pooled answers.commands.2 (prefix_nodup (nativeCreate_created _ .fence answers.fence) fresh)
  rw [nativeCreate_success fenceMade] at fresh
  have held := (before.nativeCreate fenceMade swapchain.deviceId fresh).holdOf
  simpa [swapchainHoldings, holdingOf, imageHoldings, noFence, noImages] using held

theorem imageHoldings_append (images : List SwapchainImage) (image : SwapchainImage) (loose : List Holding) :
    (imageHoldings deviceId (images ++ [image]) ++ loose).Perm
      (holdingOf .image image.image image.imageId deviceId ++
        (holdingOf .deviceMemory image.memory 0 deviceId ++ (imageHoldings deviceId images ++ loose))) := by
  have split : imageHoldings deviceId (images ++ [image]) ++ loose = imageHoldings deviceId images ++
      ((holdingOf .image image.image image.imageId deviceId ++
        holdingOf .deviceMemory image.memory 0 deviceId) ++ loose) := by
    simp [imageHoldings]
  rw [split, ← List.append_assoc]
  refine List.Perm.trans ?_ (List.Perm.of_eq (List.append_assoc _ _ _))
  rw [List.append_assoc]
  exact List.perm_append_comm_assoc _ _ _

theorem Accounted.appendImage {images : List SwapchainImage} {imageId image memory : UInt64}
    (accounted : context.Accounted (⟨(.image, image), imageId, deviceId⟩ ::
      (holdingOf .deviceMemory memory 0 deviceId ++ (imageHoldings deviceId images ++ loose)))) :
    context.Accounted (imageHoldings deviceId (images ++ [⟨imageId, image, memory⟩]) ++ loose) :=
  accounted.holdOf.perm (imageHoldings_append images ⟨imageId, image, memory⟩ loose)

theorem prepareSwapchainImages_created (answers : Nat → SwapchainImageAnswers) (deviceId : UInt64) :
    ∀ remaining index images (context : ObjectContext),
      context.created <+: (prepareSwapchainImages answers deviceId remaining index images context).2.created := by
  intro remaining
  induction remaining with
  | zero => intro index images context; exact List.prefix_refl _
  | succ remaining ih =>
      intro index images context
      simp only [prepareSwapchainImages]
      split
      · exact List.prefix_refl _
      have imaged := nativeCreate_created context .image (answers index).image
      split
      · exact imaged
      split
      · exact imaged
      have backed := imaged.trans (nativeCreate_created _ .deviceMemory (answers index).memory)
      split
      · exact backed
      split
      · exact backed
      simp only [takeSerial]
      split
      · exact backed
      split
      · rw [removeHandle_created]
        exact backed
      · refine List.IsPrefix.trans ?_ (ih _ _ _)
        exact backed

theorem prepareSwapchainImages_swapchains (answers : Nat → SwapchainImageAnswers) (deviceId : UInt64) :
    ∀ remaining index images (context : ObjectContext),
      (prepareSwapchainImages answers deviceId remaining index images context).2.swapchains =
        context.swapchains := by
  intro remaining
  induction remaining with
  | zero => intro index images context; rfl
  | succ remaining ih =>
      intro index images context
      simp only [prepareSwapchainImages]
      split
      · rfl
      split
      · simp
      split
      · simp
      split
      · simp
      split
      · simp
      simp only [takeSerial]
      split
      · simp
      split
      · simp
      · rw [ih]
        simp [setMetadata]

def ImagesSettled (deviceId : UInt64) (loose : List Holding) (outcome : SwapchainProgress × ObjectContext) : Prop :=
  outcome.2.created.Nodup → outcome.2.Accounted (imageHoldings deviceId outcome.1.images ++ loose)

theorem prepareSwapchainImages_settled (answers : Nat → SwapchainImageAnswers) :
    ∀ remaining index images (context : ObjectContext),
      context.Accounted (imageHoldings deviceId images ++ loose) →
      ImagesSettled deviceId loose
        (prepareSwapchainImages answers deviceId remaining index images context) := by
  intro remaining
  induction remaining with
  | zero => intro index images context accounted _; exact accounted
  | succ remaining ih =>
      intro index images context accounted
      simp only [prepareSwapchainImages]
      split
      · exact fun _ => accounted
      rename_i success
      have imageMade : (answers index).image.result = vkSuccess := by simpa using success
      have imaged : (context.nativeCreate .image (answers index).image).created.Nodup →
          (context.nativeCreate .image (answers index).image).Accounted
            (⟨(.image, (answers index).image.handle), 0, deviceId⟩ ::
              (imageHoldings deviceId images ++ loose)) := by
        intro fresh
        rw [nativeCreate_success imageMade] at fresh
        exact accounted.nativeCreate imageMade deviceId fresh
      split
      · exact fun fresh => (imaged fresh).appendImage
      split
      · exact fun fresh => (imaged fresh).appendImage
      rename_i success
      have memoryMade : (answers index).memory.result = vkSuccess := by simpa using success
      generalize isBacked : (context.nativeCreate .image (answers index).image).nativeCreate .deviceMemory
        (answers index).memory = backed
      have backing : backed.created.Nodup → backed.Accounted
          (⟨(.image, (answers index).image.handle), 0, deviceId⟩ ::
            (holdingOf .deviceMemory (answers index).memory.handle 0 deviceId ++
              (imageHoldings deviceId images ++ loose))) := by
        rw [← isBacked]
        intro fresh
        have image := imaged (prefix_nodup (nativeCreate_created _ .deviceMemory (answers index).memory) fresh)
        rw [nativeCreate_success memoryMade] at fresh
        have held := (image.nativeCreate memoryMade deviceId fresh).holdOf
        exact held.perm List.perm_middle.symm
      split
      · exact fun fresh => (backing fresh).appendImage
      split
      · exact fun fresh => (backing fresh).appendImage
      simp only [takeSerial]
      split
      · intro fresh
        refine Accounted.appendImage ?_
        exact ((backing fresh).retag _).of_eq rfl rfl rfl rfl
      rename_i objects inserted
      split
      · -- The handle is taken back, and the record keeps the image without it.
        intro fresh
        dsimp only at fresh ⊢
        rw [removeHandle_created] at fresh
        have before := backing fresh
        obtain ⟨left, removed, sound, live⟩ :=
          before.sound.insert_remove (before.insertedType inserted) inserted
        refine Accounted.appendImage ?_
        simp only [removeHandle, removed]
        exact before.of_live sound (fun id parent bits found => (live id parent bits).mp found) rfl rfl rfl
      · rename_i slot free
        intro fresh
        have earlier := prefix_nodup (prepareSwapchainImages_created answers deviceId remaining _ _ _) fresh
        have before := backing earlier
        refine ih _ _ _ ?_ fresh
        refine Accounted.appendImage ?_
        exact (before.insert inserted (before.insertedType inserted) rfl).of_eq rfl rfl rfl rfl

theorem registerSwapchain_settled (driver : ObjectDriver) (slot : Nat) (duplicated : Option Errno)
    (swapchain : SwapchainMetadata) (bound : slot < context.swapchains.length)
    (free : context.slotAt slot = .zero)
    (accounted : context.created.Nodup → context.Accounted (swapchainHoldings swapchain)) :
    Settled (context.registerSwapchain driver slot duplicated swapchain) := by
  unfold registerSwapchain
  split
  · exact abandonSwapchain_settled driver slot swapchain _ accounted
  simp only [takeSerial]
  split
  · exact abandonSwapchain_settled driver slot _ _ fun fresh => (accounted fresh).of_eq rfl rfl rfl rfl
  rename_i objects inserted
  intro fresh
  have held := accounted fresh
  have isSwapchain := held.insertedType inserted
  have formed := (held.sound.insert_ok inserted).2.2.1
  have lent := held.insertLent inserted (by rw [isSwapchain]; rfl)
  have recorded : Accounted { context with objects := objects } (swapchainHoldings { swapchain with
      swapchainId := handleId .swapchain (context.nextSerial .swapchain) } ++ []) := by
    rw [List.append_nil]
    exact lent
  have empty : swapchainHoldings (context.slotAt slot) = [] := by
    rw [free]
    exact Accounted.swapchainHoldings_zero
  exact (recorded.fillSlot bound empty (handleIsWellFormed_ne_zero formed)).of_eq rfl rfl rfl rfl

theorem recordImages_perm {swapchain : SwapchainMetadata} (noImages : swapchain.images = [])
    (images : List SwapchainImage) :
    (swapchainHoldings { swapchain with images := images }).Perm
      (imageHoldings swapchain.deviceId images ++ swapchainHoldings swapchain) := by
  have empty : imageHoldings swapchain.deviceId [] = [] := rfl
  simp only [swapchainHoldings, noImages, empty, List.append_nil]
  rw [← List.append_assoc]
  exact List.perm_append_comm

theorem prepareSwapchain_settled (accounted : context.Accounted []) (deviceId : UInt64) (minImageCount : Nat)
    (fields : Verdict) (answers : SwapchainAnswers) :
    Settled (context.prepareSwapchain driver deviceId minImageCount fields answers) := by
  unfold prepareSwapchain
  split
  · exact fun _ => accounted
  split
  · exact fun _ => accounted
  split
  · exact fun _ => accounted
  rename_i slot found
  obtain ⟨bound, -⟩ := List.findIdx?_eq_some_iff_getElem.mp found
  have start := (accounted.takeSlot slot).dropAll
  have free : (context.setSwapchain slot .zero).slotAt slot = .zero := by rw [slotAt_clear, if_pos rfl]
  have bound : slot < (context.setSwapchain slot .zero).swapchains.length := by
    simpa [setSwapchain] using bound
  generalize context.setSwapchain slot .zero = started at *
  dsimp only
  split
  · exact fun _ => start
  rename_i physicalId device foundDevice
  split
  · exact fun _ => start
  split
  · exact fun _ => start
  split
  · exact abandonSwapchain_settled driver slot _ _ fun _ => start
  have made := createSwapchainProducerResources_settled start answers ⟨0, deviceId, device, 0, [], 0, []⟩
    rfl rfl rfl
  have frame := createSwapchainProducerResources_frame started answers ⟨0, deviceId, device, 0, [], 0, []⟩
  split
  · rename_i code swapchain last outcome
    rw [outcome] at made
    exact abandonSwapchain_settled driver slot swapchain _ made
  · rename_i swapchain last outcome
    rw [outcome] at made frame
    obtain ⟨-, sameSlots, -, ofDevice, noImages⟩ := frame
    dsimp only at ofDevice noImages sameSlots
    have grown := prepareSwapchainImages_created answers.images deviceId minImageCount 0 [] last
    have slots := prepareSwapchainImages_swapchains answers.images deviceId minImageCount 0 [] last
    -- What the record lists when the loop is over.
    have recorded : (prepareSwapchainImages answers.images deviceId minImageCount 0 [] last).2.created.Nodup →
        (prepareSwapchainImages answers.images deviceId minImageCount 0 [] last).2.Accounted
          (swapchainHoldings { swapchain with
            images := (prepareSwapchainImages answers.images deviceId minImageCount 0 [] last).1.images }) := by
      intro fresh
      have before := made (prefix_nodup grown fresh)
      have held := prepareSwapchainImages_settled answers.images minImageCount 0 [] last before fresh
      refine held.perm ?_
      rw [← ofDevice]
      exact recordImages_perm noImages _
    split
    · exact abandonSwapchain_settled driver slot _ _ recorded
    · refine registerSwapchain_settled driver slot _ _ ?_ ?_ recorded
      · rw [slots, sameSlots]
        exact bound
      · rw [slotAt, slots, sameSlots]
        exact free

/-! ## Runs -/

/-- The checks of `destroy_image` in front of the removal of the handle. -/
def acceptsDestroyImage (context : ObjectContext) (driver : ObjectDriver) (objectId : UInt64) : Bool :=
  match context.resolveDeviceChild objectId .image with
  | .error _ => false
  | .ok (_, device, _) => !context.ownsImageView objectId && driver.destroys device .image

theorem destroyImage_refused {objectId : UInt64} (refused : context.acceptsDestroyImage driver objectId = false) :
    (context.destroyImage driver objectId).2 = context := by
  unfold destroyImage destroyDeviceChild
  unfold acceptsDestroyImage at refused
  split
  · rfl
  rename_i resolved
  rw [resolved] at refused
  split
  · rfl
  rename_i free
  split
  · rfl
  rename_i found
  simp_all

/-- A call does not destroy an image by its handle while a slot lists it. -/
def SparesSwapchainImages (context : ObjectContext) (input : ObjectDriver × ObjectRequest) : Prop :=
  match input.2 with
  | .destroyImage objectId => context.acceptsDestroyImage input.1 objectId = true →
      ∀ slot, ∀ image ∈ (context.slotAt slot).images, image.imageId ≠ objectId
  | _ => True

theorem destroySwapchain_settles (driver : ObjectDriver) (accounted : context.Accounted []) (swapchainId : UInt64) :
    Settles context (context.destroySwapchain driver swapchainId) := by
  unfold destroySwapchain
  split
  · exact Settles.refused accounted _
  split
  · exact Settles.refused accounted _
  · exact (destroySwapchainSlot_settles driver accounted _).1

theorem setupMemoryMirror_accounted (accounted : context.Accounted []) (deviceId memoryId generation : UInt64)
    (fields memory mapped : Verdict) :
    (context.setupMemoryMirror deviceId memoryId generation fields memory mapped).2.Accounted [] := by
  unfold setupMemoryMirror
  repeat' split
  all_goals exact accounted.of_eq rfl rfl rfl rfl

theorem unmapMemoryMirror_accounted (accounted : context.Accounted []) (deviceId memoryId generation : UInt64) :
    (context.unmapMemoryMirror deviceId memoryId generation).2.Accounted [] := by
  unfold unmapMemoryMirror
  repeat' split
  all_goals exact accounted.of_eq rfl rfl rfl rfl

theorem call_settled (accounted : context.Accounted []) (request : ObjectRequest)
    (spares : context.SparesSwapchainImages (driver, request)) : Settled (context.call driver request) := by
  cases request with
  | createInstance fields native destroyFound procFound =>
      exact createInstance_settled accounted fields native destroyFound procFound
  | destroyInstance instanceId => exact fun _ => (destroyInstance_settles driver instanceId accounted).accounted
  | enumeratePhysicalDevices instanceId answer result natives =>
      exact fun _ => enumeratePhysicalDevices_accounted accounted instanceId answer result natives
  | createDevice physicalDeviceId fields queues infos native =>
      exact createDevice_settled accounted physicalDeviceId fields queues infos native
  | destroyDevice deviceId => exact fun _ => (destroyDevice_settles driver deviceId accounted).accounted
  | getDeviceQueue deviceId queueFamilyIndex queueIndex present queue =>
      exact fun _ => getDeviceQueue_accounted accounted deviceId queueFamilyIndex queueIndex present queue
  | allocateCommandBuffer commandPoolId fields native =>
      exact allocateCommandBuffer_settled accounted commandPoolId fields native
  | freeCommandBuffer commandPoolId commandBufferId =>
      exact fun _ => (freeCommandBuffer_settles accounted commandPoolId commandBufferId).accounted
  | resetDescriptorPool descriptorPoolId fields present result =>
      exact fun _ => resetDescriptorPool_accounted accounted descriptorPoolId fields present result
  | allocateDescriptorSets descriptorPoolId setLayoutIds result sets =>
      exact fun _ => allocateDescriptorSets_accounted accounted descriptorPoolId setLayoutIds result sets
  | createImageView deviceId imageId fields range native =>
      exact createImageView_settled accounted deviceId imageId fields range native
  | destroyImageView imageViewId => exact fun _ => (destroyImageView_settles accounted imageViewId).accounted
  | destroyImage objectId =>
      intro _
      cases accepted : context.acceptsDestroyImage driver objectId with
      | true =>
          have unlisted := spares accepted
          exact (destroyImage_settles accounted objectId fun _ _ _ slot _ => Or.inr (unlisted slot)).accounted
      | false =>
          change (context.destroyImage driver objectId).2.Accounted []
          rw [destroyImage_refused accepted]
          exact accounted
  | prepareSwapchain deviceId minImageCount fields answers =>
      exact prepareSwapchain_settled accounted deviceId minImageCount fields answers
  | destroySwapchain swapchainId => exact fun _ => (destroySwapchain_settles driver accounted swapchainId).accounted
  | setupMemoryMirror deviceId memoryId generation fields memory mapped =>
      exact fun _ => setupMemoryMirror_accounted accounted deviceId memoryId generation fields memory mapped
  | unmapMemoryMirror deviceId memoryId generation =>
      exact fun _ => unmapMemoryMirror_accounted accounted deviceId memoryId generation
  | createCommandPool | createDescriptorSetLayout | createDescriptorUpdateTemplate | createDescriptorPool
  | createQueryPool | createSampler | createPipelineLayout | createGraphicsPipeline | createBuffer
  | allocateMemory | createImage | createFence | createSemaphore =>
      exact createDeviceChild_settled accounted _ _ _ _ _ rfl
  | destroyCommandPool | destroyDescriptorPool | destroyDescriptorSetLayout | destroyDescriptorUpdateTemplate
  | destroyQueryPool | destroySampler | destroyPipelineLayout | destroyPipeline | destroyBuffer | freeMemory
  | destroyFence | destroySemaphore =>
      exact fun _ => (destroyOther_settles accounted _ _ (by simp) _ rfl (by simp)).accounted

theorem empty_accounted {capacity : Nat} (power : ∃ exponent, capacity = 2 ^ exponent) (large : 8 ≤ capacity)
    (found : Bool) : (empty capacity found).Accounted [] := by
  have vacant : ∀ id parent bits, ¬ (empty capacity found).Live id parent bits := by
    rintro id parent bits ⟨index, _, entry⟩
    cases entry
  have nothing : (empty capacity found).slotHoldings = [] := rfl
  refine ⟨Sound.init power large, ?_, ?_, ?_, ?_, ?_, ?_, rfl, ?_, List.nodup_nil⟩
  · intro id parent bits other otherParent live
    exact absurd live (vacant _ _ _)
  · intro id parent bits live
    exact absurd live (vacant _ _ _)
  · rw [nothing]
    exact List.nodup_nil
  · rw [nothing]
    intro holding member
    cases member
  · intro id parent bits live
    exact absurd live (vacant _ _ _)
  · intro swapchain member _
    rw [List.eq_of_mem_replicate member]
    exact Accounted.swapchainHoldings_zero
  · intro native member
    cases member

/-- The creations of a run up to a state returned fresh handles. -/
def Fresh (context : ObjectContext) : Prop := context.created.Nodup

/-- No native object was destroyed twice. -/
def DestroyedOnce (context : ObjectContext) : Prop := context.destroyed.Nodup

/-- In every run with fresh native handles in which no image of a live
swapchain is destroyed by its own handle, no native object is destroyed twice. -/
theorem natives_destroyed_once (found : Bool) (inputs : List (ObjectDriver × ObjectRequest))
    (fresh : Runs.EveryState step Fresh (empty globalObjectCapacity found) inputs)
    (spares : Runs.EveryStep step SparesSwapchainImages (empty globalObjectCapacity found) inputs) :
    Runs.EveryState step DestroyedOnce (empty globalObjectCapacity found) inputs := by
  have start : (empty globalObjectCapacity found).Accounted [] := empty_accounted ⟨12, rfl⟩ (by decide) found
  have kept : ∀ state input, state.Accounted [] → state.SparesSwapchainImages input ∧ (step state input).Fresh →
      (step state input).Accounted [] := by
    intro state input accounted meets
    exact call_settled accounted input.2 meets.1 meets.2
  refine (Runs.everyState_of_everyStep kept inputs _ start ?_).imp fun _ accounted => accounted.once
  exact spares.and_next fresh

theorem destroyImage_fresh (driver : ObjectDriver) (fresh : context.Fresh) (imageId : UInt64) :
    (step context (driver, .destroyImage imageId)).Fresh := by
  change (context.destroyImage driver imageId).2.created.Nodup
  unfold destroyImage destroyDeviceChild removeChildren
  dsimp only
  split
  · exact fresh
  split
  · exact fresh
  split
  · exact fresh
  have kept : (context.removeHandle imageId .image).2.created = context.created := by simp
  split
  · rename_i code last outcome
    rw [outcome] at kept
    rw [kept]
    exact fresh
  · rename_i nothing last outcome
    rw [outcome] at kept
    rw [nativeDestroy_created, clearMetadata_created, kept]
    exact fresh

theorem destroySwapchain_fresh (driver : ObjectDriver) (fresh : context.Fresh) (swapchainId : UInt64) :
    (step context (driver, .destroySwapchain swapchainId)).Fresh := by
  change (context.destroySwapchain driver swapchainId).2.created.Nodup
  unfold destroySwapchain
  split
  · exact fresh
  split
  · exact fresh
  · rename_i slot found
    change (context.destroySwapchainMetadata driver slot (context.slotAt slot)).2.created.Nodup
    rw [destroySwapchainMetadata_created]
    exact fresh

instance (context : ObjectContext) : Decidable context.Fresh := inferInstanceAs (Decidable context.created.Nodup)

instance (context : ObjectContext) : Decidable context.DestroyedOnce :=
  inferInstanceAs (Decidable context.destroyed.Nodup)

theorem unlisted_slot {objectId : UInt64}
    (checked : (context.swapchains.all fun swapchain => swapchain.images.all fun image =>
      image.imageId != objectId) = true) (slot : Nat) :
    ∀ image ∈ (context.slotAt slot).images, image.imageId ≠ objectId := by
  intro image member
  by_cases bound : slot < context.swapchains.length
  · rw [slotAt, List.getD_eq_getElem?_getD, List.getElem?_eq_getElem bound] at member
    have others := List.all_eq_true.mp checked _ (List.getElem_mem bound)
    simpa using List.all_eq_true.mp others image member
  · rw [slotAt, List.getD_eq_getElem?_getD, List.getElem?_eq_none (by omega)] at member
    cases member

/-- An image of the client goes, and then the swapchain. -/
def imageRun : List (ObjectDriver × ObjectRequest) :=
  swapchainRun ++
    [(fullDriver, .createImage (handleId .device 1) none ⟨vkSuccess, 50⟩),
      (fullDriver, .destroyImage (handleId .image 3)),
      (fullDriver, .destroySwapchain (handleId .swapchain 1))]

theorem swapchainRun_fresh : Runs.EveryState step Fresh (empty globalObjectCapacity true) swapchainRun := by
  simp only [swapchainRun, Runs.EveryState]
  refine ⟨by decide, ?_, ?_, ?_, ?_⟩ <;> decide +kernel

def swapchainContext : ObjectContext := Runs.final step (empty globalObjectCapacity true) swapchainRun

theorem natives_destroyed_once_image :
    Runs.EveryState step DestroyedOnce (empty globalObjectCapacity true) imageRun := by
  refine natives_destroyed_once true imageRun ?_ ?_
  · have imaged : (swapchainContext.step
        (fullDriver, .createImage (handleId .device 1) none ⟨vkSuccess, 50⟩)).Fresh := by decide +kernel
    have destroyed := destroyImage_fresh fullDriver imaged (handleId .image 3)
    exact swapchainRun_fresh.append
      ⟨swapchainRun_fresh.final, imaged, destroyed, destroySwapchain_fresh fullDriver destroyed _⟩
  · simp only [imageRun, swapchainRun, List.cons_append, List.nil_append, Runs.EveryStep]
    refine ⟨trivial, trivial, trivial, trivial, trivial, ?_, trivial, trivial⟩
    exact fun _ => unlisted_slot (by decide +kernel)

/-- The first image of the swapchain goes by its handle, and then the swapchain. -/
def twiceRun : List (ObjectDriver × ObjectRequest) :=
  swapchainRun ++
    [(fullDriver, .destroyImage (handleId .image 1)), (fullDriver, .destroySwapchain (handleId .swapchain 1))]

theorem nativeDestroyFound_destroyed (context : ObjectContext) (found : Bool) (type : ObjectType) (handle : UInt64) :
    ∃ later, (context.nativeDestroyFound found type handle).destroyed = context.destroyed ++ later ∧
      (handle ≠ 0 → found = true → (type, handle) ∈ later) := by
  unfold nativeDestroyFound
  split
  · exact ⟨[(type, handle)], rfl, by simp⟩
  · rename_i other
    exact ⟨[], by simp, fun nonzero isFound => absurd ⟨nonzero, isFound⟩ other⟩

theorem removeSwapchainImage_destroyed (context : ObjectContext) (imageId : UInt64) :
    (context.removeSwapchainImage imageId).2.destroyed = context.destroyed := by
  unfold removeSwapchainImage
  split <;> simp

theorem destroySwapchainImages_destroyed (driver : ObjectDriver) (loaded : Bool) (device : UInt64)
    (images : List SwapchainImage) : ∀ (status : Option Errno) (context : ObjectContext),
      ∃ later, (destroySwapchainImages driver loaded device images status context).2.destroyed =
          context.destroyed ++ later ∧
        ∀ image ∈ images, image.image ≠ 0 → (loaded && driver.destroys device .image) = true →
          (ObjectType.image, image.image) ∈ later := by
  induction images with
  | nil => intro status context; exact ⟨[], by simp [destroySwapchainImages], by simp⟩
  | cons image rest ih =>
      intro status context
      simp only [destroySwapchainImages]
      obtain ⟨first, isFirst, imageFirst⟩ := nativeDestroyFound_destroyed
        (context.removeSwapchainImage image.imageId).2 (loaded && driver.destroys device .image) .image image.image
      obtain ⟨second, isSecond, -⟩ := nativeDestroyFound_destroyed
        ((context.removeSwapchainImage image.imageId).2.nativeDestroyFound
          (loaded && driver.destroys device .image) .image image.image)
        (loaded && driver.destroys device .deviceMemory) .deviceMemory image.memory
      obtain ⟨third, isThird, others⟩ := ih (firstStatus status (context.removeSwapchainImage image.imageId).1)
        (((context.removeSwapchainImage image.imageId).2.nativeDestroyFound
          (loaded && driver.destroys device .image) .image image.image).nativeDestroyFound
            (loaded && driver.destroys device .deviceMemory) .deviceMemory image.memory)
      refine ⟨first ++ (second ++ third), ?_, ?_⟩
      · rw [isThird, isSecond, isFirst, removeSwapchainImage_destroyed]
        simp
      · intro other member nonzero found
        rcases List.mem_cons.mp member with rfl | old
        · exact List.mem_append_left _ (imageFirst nonzero found)
        · exact List.mem_append_right _ (List.mem_append_right _ (others other old nonzero found))

theorem destroySwapchainMetadata_destroyed (driver : ObjectDriver) (context : ObjectContext) (slot : Nat)
    (swapchain : SwapchainMetadata) :
    ∃ later, (context.destroySwapchainMetadata driver slot swapchain).2.destroyed = context.destroyed ++ later ∧
      ∀ image ∈ swapchain.images, image.image ≠ 0 →
        (context.hasGetDeviceProcAddr && swapchain.device != 0 && driver.destroys swapchain.device .image) = true →
        (ObjectType.image, image.image) ∈ later := by
  unfold destroySwapchainMetadata
  dsimp only
  generalize (context.hasGetDeviceProcAddr && swapchain.device != 0) = loaded
  obtain ⟨first, isFirst, -⟩ := nativeDestroyFound_destroyed context
    (loaded && driver.destroys swapchain.device .fence) .fence swapchain.presentCompletion
  obtain ⟨second, isSecond, -⟩ := nativeDestroyFound_destroyed
    (context.nativeDestroyFound (loaded && driver.destroys swapchain.device .fence) .fence
      swapchain.presentCompletion)
    (loaded && driver.destroys swapchain.device .commandPool) .commandPool swapchain.producerCommandPool
  obtain ⟨third, isThird, listed⟩ := destroySwapchainImages_destroyed driver loaded swapchain.device
    swapchain.images (driver.stopStatus slot)
    ((context.nativeDestroyFound (loaded && driver.destroys swapchain.device .fence) .fence
      swapchain.presentCompletion).nativeDestroyFound
        (loaded && driver.destroys swapchain.device .commandPool) .commandPool swapchain.producerCommandPool)
  refine ⟨first ++ (second ++ third), ?_, ?_⟩
  · have kept : ∀ current : ObjectContext,
        (current.removeSwapchainHandle swapchain.swapchainId).2.destroyed = current.destroyed := by
      intro current
      unfold removeSwapchainHandle
      split <;> simp
    rw [kept, isThird, isSecond, isFirst]
    simp
  · intro image member nonzero found
    exact List.mem_append_right _ (List.mem_append_right _ (listed image member nonzero found))

theorem destroySwapchainSlot_twice {slot : Nat} (image : SwapchainImage)
    (listed : image ∈ (context.slotAt slot).images) (nonzero : image.image ≠ 0)
    (found : (context.hasGetDeviceProcAddr && (context.slotAt slot).device != 0 &&
      driver.destroys (context.slotAt slot).device .image) = true)
    (gone : (ObjectType.image, image.image) ∈ context.destroyed) :
    ¬ (context.destroySwapchainSlot driver slot).2.DestroyedOnce := by
  intro once
  obtain ⟨later, isLater, again⟩ :=
    destroySwapchainMetadata_destroyed driver context slot (context.slotAt slot)
  change (context.destroySwapchainMetadata driver slot (context.slotAt slot)).2.destroyed.Nodup at once
  rw [isLater, List.nodup_append] at once
  exact once.2.2 _ gone _ (again image listed nonzero found) rfl

theorem destroyImage_destroyed (driver : ObjectDriver) (context : ObjectContext) (imageId : UInt64)
    {deviceId device bits removedBits : UInt64} {objects : HandleTable}
    (resolved : context.resolveDeviceChild imageId .image = .ok (deviceId, device, bits))
    (free : context.ownsImageView imageId = false) (found : driver.destroys device .image = true)
    (removed : context.objects.remove imageId .image = .ok (removedBits, objects)) :
    (ObjectType.image, bits) ∈ (context.destroyImage driver imageId).2.destroyed ∧
      (context.destroyImage driver imageId).2.swapchains = context.swapchains ∧
      (context.destroyImage driver imageId).2.hasGetDeviceProcAddr = context.hasGetDeviceProcAddr := by
  have cleared : ∀ current : ObjectContext,
      (current.clearMetadata .image imageId).hasGetDeviceProcAddr = current.hasGetDeviceProcAddr := by
    intro current
    unfold clearMetadata
    split
    · rfl
    · split <;> rfl
  simp only [destroyImage, destroyDeviceChild, resolved, free, found, removeChildren, removeHandle, removed]
  simp [nativeDestroy, cleared]

theorem findObject_unselected {selects : HandleEntry → Bool} : ∀ remaining index,
    (∀ position, position < index + remaining → selects (context.objects.entries position) = false) →
      context.findObject selects remaining index = none := by
  intro remaining
  induction remaining with
  | zero => intro index _; rfl
  | succ remaining ih =>
      intro index unselected
      simp only [findObject, unselected index (by omega), Bool.false_eq_true, if_false]
      exact ih (index + 1) fun position bound => unselected position (by omega)

theorem childless_ownsImageView {imageId : UInt64} (checked : context.childless [imageId] = true) :
    context.ownsImageView imageId = false := by
  have none : context.findObject (isChild .imageView imageId) context.objects.capacity 0 = none := by
    refine findObject_unselected _ _ ?_
    intro position bound
    have other := List.all_eq_true.mp (List.all_eq_true.mp checked imageId (by simp)) position
      (List.mem_range.mpr (by omega))
    simp only [bne_iff_ne, ne_eq] at other
    simp [isChild, other]
  simp [ownsImageView, none]

/-- An image that a swapchain lists goes by its handle, and then the swapchain
destroys it again. -/
theorem destroyImage_destroySwapchain_twice {slot : Nat} {swapchainId deviceId device : UInt64}
    (image : SwapchainImage)
    (resolved : context.resolveDeviceChild image.imageId .image = .ok (deviceId, device, image.image))
    (free : context.ownsImageView image.imageId = false) (found : driver.destroys device .image = true)
    (removable : (context.objects.remove image.imageId .image).isOk = true)
    (isSwapchain : handleExpect swapchainId .swapchain = true)
    (home : (context.swapchains.findIdx? fun swapchain => swapchain.swapchainId == swapchainId) = some slot)
    (listed : image ∈ (context.slotAt slot).images) (nonzero : image.image ≠ 0)
    (loaded : (context.hasGetDeviceProcAddr && (context.slotAt slot).device != 0 &&
      driver.destroys (context.slotAt slot).device .image) = true) :
    ¬ (Runs.final step context [(driver, .destroyImage image.imageId),
      (driver, .destroySwapchain swapchainId)]).DestroyedOnce := by
  change ¬ ((context.destroyImage driver image.imageId).2.destroySwapchain driver swapchainId).2.DestroyedOnce
  cases removed : context.objects.remove image.imageId .image with
  | error code =>
      rw [removed] at removable
      cases removable
  | ok outcome =>
      obtain ⟨gone, slots, loads⟩ := destroyImage_destroyed driver context image.imageId resolved free found removed
      generalize (context.destroyImage driver image.imageId).2 = after at *
      have torn : after.destroySwapchain driver swapchainId = after.destroySwapchainSlot driver slot := by
        simp only [destroySwapchain, isSwapchain, slots, home, Bool.not_true, Bool.false_eq_true, if_false]
      have record : after.slotAt slot = context.slotAt slot := by rw [slotAt, slots]
      rw [torn]
      refine destroySwapchainSlot_twice image ?_ nonzero ?_ gone
      · rw [record]
        exact listed
      · rw [record, loads]
        exact loaded

/-- The native handles are fresh and the image is destroyed twice. -/
theorem swapchain_image_destroyed_twice :
    Runs.EveryState step Fresh (empty globalObjectCapacity true) twiceRun ∧
      ¬ (Runs.final step (empty globalObjectCapacity true) twiceRun).DestroyedOnce := by
  have destroyed := destroyImage_fresh fullDriver swapchainRun_fresh.final (handleId .image 1)
  refine ⟨swapchainRun_fresh.append
    ⟨swapchainRun_fresh.final, destroyed, destroySwapchain_fresh fullDriver destroyed _⟩, ?_⟩
  have resolved : swapchainContext.resolveDeviceChild (handleId .image 1) .image =
      .ok (handleId .device 1, 30, 80) := by decide +kernel
  have home : (swapchainContext.swapchains.findIdx? fun swapchain =>
      swapchain.swapchainId == handleId .swapchain 1) = some 0 := by decide +kernel
  have free : swapchainContext.ownsImageView (handleId .image 1) = false :=
    childless_ownsImageView (by decide +kernel)
  rw [twiceRun, Runs.final_append]
  exact destroyImage_destroySwapchain_twice ⟨handleId .image 1, 80, 90⟩ resolved free rfl (by decide +kernel)
    (by decide) home (by decide +kernel) (by decide) (by decide +kernel)

end ObjectContext

end VulkanBridge
