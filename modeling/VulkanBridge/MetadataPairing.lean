import VulkanBridge.MetadataSlots

/-!
Metadata and handles over whole runs. Each call of the service leaves the slots
in use and the live handles paired, whatever the driver answers.
-/

namespace VulkanBridge

open HandleTable

namespace ObjectContext

variable {driver : ObjectDriver} {context next : ObjectContext} {wireId : UInt64} {type : ObjectType}

/-! ## Creation -/

@[simp] theorem nativeCreate_metadata (context : ObjectContext) (native : NativeAnswer) :
    (context.nativeCreate type native).metadata = context.metadata := by
  unfold nativeCreate
  split <;> rfl

theorem Paired.nativeCreate (paired : context.Paired) (type : ObjectType) (native : NativeAnswer) :
    (context.nativeCreate type native).Paired :=
  paired.of_eq (by simp) (by simp)

theorem insert_alive (next : ObjectContext) (sound : context.objects.Sound) {parentId nativeBits : UInt64}
    {objects : HandleTable}
    (inserted : context.objects.insert wireId parentId nativeBits = .ok objects) (held : next.objects = objects) :
    next.objects.Sound ∧ wireId ≠ 0 ∧ ¬ context.Alive wireId ∧
      ∀ id, next.Alive id ↔ context.Alive id ∨ id = wireId := by
  subst held
  obtain ⟨kept, -, formed, -, absent, live⟩ := sound.insert_ok inserted
  refine ⟨kept, handleIsWellFormed_ne_zero formed, ?_, fun id => ?_⟩
  · rintro ⟨parent, bits, old⟩
    exact absent parent bits old
  · constructor
    · rintro ⟨parent, bits, entry⟩
      rcases (live _ _ _).mp entry with old | ⟨same, -, -⟩
      · exact Or.inl ⟨parent, bits, old⟩
      · exact Or.inr same
    · rintro (⟨parent, bits, old⟩ | rfl)
      · exact ⟨parent, bits, (live _ _ _).mpr (Or.inl old)⟩
      · exact ⟨parentId, nativeBits, (live _ _ _).mpr (Or.inr ⟨rfl, rfl, rfl⟩)⟩

theorem Paired.insertNext (paired : context.Paired) {parentId nativeBits : UInt64} {objects : HandleTable}
    (plain : metadataCapacity type = 0) {serials : ObjectType → UInt64}
    (inserted : context.objects.insert (handleId type (context.nextSerial type)) parentId nativeBits = .ok objects) :
    ({ context with nextSerial := serials, objects := objects } : ObjectContext).Paired := by
  obtain ⟨sound, nonzero, -, alive⟩ := insert_alive { context with nextSerial := serials, objects := objects }
    paired.sound inserted rfl
  refine paired.addPlain sound ?_ alive rfl
  rw [handleType_handleId nonzero]
  exact plain

theorem Paired.insertListed (paired : context.Paired) {parentId nativeBits : UInt64} {objects : HandleTable}
    (held : ObjectContext) {slot : Nat} {wanted : UInt64} (isType : wireId ≠ 0 → handleType wireId = type)
    (inserted : context.objects.insert wireId parentId nativeBits = .ok objects) (isHeld : held.objects = objects)
    (metadata : held.metadata = context.metadata) (wants : wanted = wireId ∨ wanted = 0)
    (found : context.slotOf type wanted = some slot) : (held.setMetadata type slot wireId).Paired := by
  obtain ⟨sound, nonzero, absent, alive⟩ := insert_alive held paired.sound inserted isHeld
  obtain ⟨bound, fits⟩ := slotOf_some found
  have free : context.metadata type slot = 0 := by
    by_contra inUse
    rcases fits with same | zero
    · rcases wants with rfl | rfl
      · rw [← same] at absent
        exact absent (paired.held type slot bound inUse).2
      · exact inUse same
    · exact inUse zero
  refine paired.add sound nonzero (isType nonzero) bound free absent alive ?_
  simp only [setMetadata, metadata]

theorem registerChild_paired (paired : context.Paired) (order : SlotOrder) (parentId : UInt64)
    (native : NativeAnswer) (plain : order = .none → metadataCapacity type = 0) :
    (context.registerChild type order parentId native).2.Paired := by
  simp only [registerChild, takeSerial]
  split
  · exact paired.of_eq rfl rfl
  · rename_i objects inserted
    split
    · rename_i unlisted
      exact paired.insertNext (plain unlisted) inserted
    · split
      · rename_i slot found
        refine paired.insertListed _ handleType_handleId inserted rfl rfl ?_ found
        split
        · exact Or.inl rfl
        · exact Or.inr rfl
      · obtain ⟨-, nonzero, -, -⟩ := insert_alive { context with objects := objects } paired.sound inserted rfl
        obtain ⟨left, removed, kept, live⟩ := paired.sound.insert_remove (handleType_handleId nonzero) inserted
        simp only [giveUp, removeHandle, removed]
        refine paired.of_alive kept (fun id => ?_) rfl
        simp only [Alive, Live, nativeDestroy, live]

theorem createDeviceChild_paired (paired : context.Paired) (order : SlotOrder) (deviceId : UInt64)
    (fields : Verdict) (references : UInt64 → Verdict) (native : NativeAnswer)
    (plain : order = .none → metadataCapacity type = 0) :
    (context.createDeviceChild driver type order deviceId fields references native).2.Paired := by
  have created := paired.nativeCreate type native
  unfold createDeviceChild
  split
  · exact paired
  split
  · exact paired
  split
  · exact paired
  split
  · exact paired
  split
  · exact paired
  split
  · exact paired
  split
  · exact created.of_eq rfl rfl
  · exact registerChild_paired created order deviceId native plain

theorem createImageView_paired (paired : context.Paired) (deviceId imageId : UInt64) (fields range : Verdict)
    (native : NativeAnswer) :
    (context.createImageView driver deviceId imageId fields range native).2.Paired := by
  unfold createImageView
  repeat' split
  all_goals first
    | exact paired
    | exact registerChild_paired (paired.nativeCreate _ native) _ _ _ (fun _ => rfl)

theorem allocateCommandBuffer_paired (paired : context.Paired) (commandPoolId : UInt64) (fields : Verdict)
    (native : NativeAnswer) : (context.allocateCommandBuffer driver commandPoolId fields native).2.Paired := by
  unfold allocateCommandBuffer
  repeat' split
  all_goals first
    | exact paired
    | exact registerChild_paired (paired.nativeCreate _ native) _ _ _ (fun _ => rfl)

theorem insertDescriptorSets_paired (descriptorPoolId : UInt64) (sets : List UInt64) : ∀ ids context,
    context.Paired → (insertDescriptorSets descriptorPoolId sets ids context).2.Paired := by
  induction sets with
  | nil => intro ids context paired; exact paired
  | cons set rest ih =>
      intro ids context paired
      simp only [insertDescriptorSets, takeSerial]
      split
      · exact paired.of_eq rfl rfl
      · rename_i objects inserted
        exact ih _ _ (paired.insertNext rfl inserted)

theorem allocateDescriptorSets_paired (paired : context.Paired) (descriptorPoolId : UInt64)
    (setLayoutIds : List UInt64) (result : VulkanResult) (sets : Nat → UInt64) :
    (context.allocateDescriptorSets driver descriptorPoolId setLayoutIds result sets).2.Paired := by
  unfold allocateDescriptorSets
  repeat' split
  all_goals first
    | exact paired
    | exact insertDescriptorSets_paired _ _ _ _ paired

theorem createInstance_paired (paired : context.Paired) (fields : Verdict) (native : NativeAnswer)
    (destroyFound procFound : Bool) :
    (context.createInstance fields native destroyFound procFound).2.Paired := by
  have created := paired.nativeCreate .inst native
  simp only [createInstance]
  split
  · exact paired
  split
  · exact paired
  split
  · exact paired
  split
  · exact created
  split
  · exact created.of_eq rfl rfl
  · refine registerChild_paired ?_ .none 0 native (fun _ => rfl)
    exact created.of_eq rfl rfl

theorem registerBorrowed_paired (paired : context.Paired) (plain : metadataCapacity type = 0)
    (parentId nativeBits : UInt64) : (context.registerBorrowed type parentId nativeBits).2.Paired := by
  simp only [registerBorrowed, takeSerial]
  split
  · exact paired
  split
  · exact paired.of_eq rfl rfl
  · rename_i objects inserted
    exact paired.insertNext plain inserted

theorem registerPhysicalDevices_paired (instanceId : UInt64) (result : VulkanResult) (natives : List UInt64) :
    ∀ ids context, context.Paired →
      (registerPhysicalDevices instanceId result natives ids context).2.Paired := by
  induction natives with
  | nil => intro ids context paired; exact paired
  | cons nativeBits rest ih =>
      intro ids context paired
      have registered : (context.registerBorrowed .physicalDevice instanceId nativeBits).2.Paired :=
        registerBorrowed_paired paired rfl instanceId nativeBits
      simp only [registerPhysicalDevices]
      split
      · rename_i code next outcome
        rw [outcome] at registered
        exact registered
      · rename_i wireId next outcome
        rw [outcome] at registered
        exact ih _ _ registered

theorem enumeratePhysicalDevices_paired (paired : context.Paired) (instanceId : UInt64) (answer : Verdict)
    (result : VulkanResult) (natives : List UInt64) :
    (context.enumeratePhysicalDevices instanceId answer result natives).2.Paired := by
  unfold enumeratePhysicalDevices
  repeat' split
  all_goals first
    | exact paired
    | exact registerPhysicalDevices_paired _ _ _ _ _ paired

theorem getDeviceQueue_paired (paired : context.Paired) (deviceId : UInt64) (queueFamilyIndex queueIndex : UInt32)
    (present : Bool) (queue : UInt64) :
    (context.getDeviceQueue deviceId queueFamilyIndex queueIndex present queue).2.Paired := by
  have registered : (context.registerBorrowed .queue deviceId queue).2.Paired :=
    registerBorrowed_paired paired rfl deviceId queue
  unfold getDeviceQueue
  split
  · exact paired
  split
  · exact paired
  split
  · exact paired
  split
  · exact paired
  split
  · exact paired
  split
  · rename_i code next outcome
    rw [outcome] at registered
    exact registered
  · rename_i queueId next outcome
    rw [outcome] at registered
    exact registered

theorem createDevice_paired (paired : context.Paired) (physicalDeviceId : UInt64) (fields queues : Verdict)
    (infos : List QueueCreateInfo) (native : NativeAnswer) :
    (context.createDevice driver physicalDeviceId fields queues infos native).2.Paired := by
  have created := paired.nativeCreate .device native
  simp only [createDevice, takeSerial]
  split
  · exact paired
  split
  · exact paired
  split
  · exact paired
  split
  · exact paired
  split
  · exact paired
  split
  · exact created
  split
  · exact created.of_eq rfl rfl
  rename_i slot found
  split
  · exact created.of_eq rfl rfl
  · rename_i objects inserted
    have listed := created.insertListed { context.nativeCreate .device native with objects := objects }
      handleType_handleId inserted rfl rfl (Or.inr rfl) found
    exact listed.of_eq rfl rfl

/-! ## Teardown -/

theorem sweep_paired (selects : ObjectContext → HandleEntry → Bool) (act : ObjectContext → UInt64 → Completed)
    (acts : ∀ current wireId, current.Paired → (act current wireId).2.Paired) : ∀ remaining index context,
      context.Paired → (sweep selects act remaining index context).2.Paired := by
  intro remaining
  induction remaining with
  | zero => intro index context paired; exact paired
  | succ remaining ih =>
      intro index context paired
      simp only [sweep]
      split
      · have first := acts context (context.objects.entries index).wireId paired
        split
        · rename_i code last outcome
          rw [outcome] at first
          exact first
        · rename_i nothing last outcome
          rw [outcome] at first
          exact ih (index + 1) last first
      · exact ih (index + 1) context paired

theorem removeChildren_paired (paired : context.Paired) (children : Option ObjectType) (objectId : UInt64)
    (plain : ∀ child, children = some child → metadataCapacity child = 0) :
    (context.removeChildren children objectId).2.Paired := by
  unfold removeChildren
  split
  · exact paired
  · rename_i child
    exact sweep_paired _ _ (fun current childId kept => kept.removePlain childId (plain child rfl)) _ _ _ paired

theorem destroyDeviceChild_paired (paired : context.Paired) (busy : Bool) (children : Option ObjectType)
    (objectId : UInt64) (plain : ∀ child, children = some child → metadataCapacity child = 0) :
    (context.destroyDeviceChild driver type busy children objectId).2.Paired := by
  unfold destroyDeviceChild
  split
  · exact paired
  split
  · exact paired
  split
  · exact paired
  have emptied := removeChildren_paired paired children objectId plain
  split
  · rename_i code next outcome
    rw [outcome] at emptied
    exact emptied
  rename_i nothing next outcome
  rw [outcome] at emptied
  split
  · rename_i code last refused
    rw [removeHandle_refused refused]
    exact emptied
  · rename_i nothing last removed
    exact (emptied.removeClear removed).of_eq rfl rfl

theorem destroyImageView_paired (paired : context.Paired) (imageViewId : UInt64) :
    (context.destroyImageView driver imageViewId).2.Paired := by
  have removed : (context.removeHandle imageViewId .imageView).2.Paired := paired.removePlain imageViewId rfl
  unfold destroyImageView
  split
  · exact paired
  split
  · exact paired
  split
  · exact paired
  split
  · rename_i code next outcome
    rw [outcome] at removed
    exact removed
  · rename_i nothing next outcome
    rw [outcome] at removed
    exact removed.of_eq rfl rfl

theorem freeCommandBuffer_paired (paired : context.Paired) (commandPoolId commandBufferId : UInt64) :
    (context.freeCommandBuffer driver commandPoolId commandBufferId).2.Paired := by
  unfold freeCommandBuffer
  split
  · exact paired
  split
  · exact paired
  split
  · exact paired
  split
  · exact paired
  · refine Paired.removePlain ?_ commandBufferId rfl
    exact paired.of_eq rfl rfl

theorem resetDescriptorPool_paired (paired : context.Paired) (descriptorPoolId : UInt64) (fields : Verdict)
    (present : Bool) (result : VulkanResult) :
    (context.resetDescriptorPool descriptorPoolId fields present result).2.Paired := by
  have emptied := removeChildren_paired paired (some .descriptorSet) descriptorPoolId
    (fun child isChild => by cases isChild; rfl)
  unfold resetDescriptorPool
  split
  · exact paired
  split
  · exact paired
  split
  · exact paired
  split
  · exact paired
  split
  · rename_i code next outcome
    rw [outcome] at emptied
    exact emptied
  · rename_i nothing next outcome
    rw [outcome] at emptied
    exact emptied

theorem nativeDestroyFound_paired (paired : context.Paired) (found : Bool) (type : ObjectType) (handle : UInt64) :
    (context.nativeDestroyFound found type handle).Paired := by
  unfold nativeDestroyFound
  split
  · exact paired.of_eq rfl rfl
  · exact paired

theorem removeSwapchainImage_paired (paired : context.Paired) (imageId : UInt64) :
    (context.removeSwapchainImage imageId).2.Paired := by
  unfold removeSwapchainImage
  split
  · exact paired
  · rename_i nonzero
    exact paired.clearRemove nonzero .image

theorem removeSwapchainHandle_paired (paired : context.Paired) (swapchainId : UInt64) :
    (context.removeSwapchainHandle swapchainId).2.Paired := by
  unfold removeSwapchainHandle
  split
  · exact paired
  · exact paired.removePlain swapchainId rfl

theorem destroySwapchainImages_paired (loaded : Bool) (device : UInt64) (images : List SwapchainImage) :
    ∀ (status : Option Errno) (context : ObjectContext), context.Paired →
      (context.destroySwapchainImages driver loaded device images status).2.Paired := by
  induction images with
  | nil => intro status context paired; exact paired
  | cons image rest ih =>
      intro status context paired
      simp only [destroySwapchainImages]
      apply ih
      apply nativeDestroyFound_paired
      apply nativeDestroyFound_paired
      exact removeSwapchainImage_paired paired image.imageId

theorem destroySwapchainMetadata_paired (driver : ObjectDriver) (paired : context.Paired) (slot : Nat)
    (swapchain : SwapchainMetadata) : (context.destroySwapchainMetadata driver slot swapchain).2.Paired := by
  simp only [destroySwapchainMetadata]
  apply removeSwapchainHandle_paired
  apply destroySwapchainImages_paired
  apply nativeDestroyFound_paired
  exact nativeDestroyFound_paired paired _ _ _

theorem destroySwapchainSlot_paired (paired : context.Paired) (slot : Nat) :
    (context.destroySwapchainSlot driver slot).2.Paired := by
  have torn := destroySwapchainMetadata_paired driver paired slot (context.swapchains.getD slot .zero)
  exact torn.of_eq rfl rfl

theorem abandonSwapchain_paired (paired : context.Paired) (slot : Nat) (swapchain : SwapchainMetadata)
    (reply : Except Errno ObjectReply) : (context.abandonSwapchain driver slot swapchain reply).2.Paired :=
  (destroySwapchainMetadata_paired driver paired slot swapchain).of_eq rfl rfl

theorem destroySwapchain_paired (paired : context.Paired) (swapchainId : UInt64) :
    (context.destroySwapchain driver swapchainId).2.Paired := by
  unfold destroySwapchain
  split
  · exact paired
  split
  · exact paired
  · exact destroySwapchainSlot_paired paired _

theorem prepareSwapchainImages_paired (answers : Nat → SwapchainImageAnswers) (deviceId : UInt64) :
    ∀ remaining index images context, context.Paired →
      (prepareSwapchainImages answers deviceId remaining index images context).2.Paired := by
  intro remaining
  induction remaining with
  | zero => intro index images context paired; exact paired
  | succ remaining ih =>
      intro index images context paired
      have imaged := paired.nativeCreate .image (answers index).image
      have backed := imaged.nativeCreate .deviceMemory (answers index).memory
      simp only [prepareSwapchainImages, takeSerial]
      split
      · exact paired
      split
      · exact imaged
      split
      · exact imaged
      split
      · exact backed
      split
      · exact backed
      split
      · exact backed.of_eq rfl rfl
      rename_i objects inserted
      split
      · obtain ⟨-, nonzero, -, -⟩ := insert_alive { context with objects := objects } backed.sound inserted rfl
        obtain ⟨left, removed, kept, live⟩ := backed.sound.insert_remove (handleType_handleId nonzero) inserted
        simp only [removeHandle, removed]
        refine backed.of_alive kept (fun id => ?_) rfl
        simp only [Alive, Live, live]
      · rename_i slot found
        apply ih
        exact backed.insertListed _ handleType_handleId inserted rfl rfl (Or.inr rfl) found

theorem registerSwapchain_paired (paired : context.Paired) (slot : Nat) (duplicated : Option Errno)
    (swapchain : SwapchainMetadata) : (context.registerSwapchain driver slot duplicated swapchain).2.Paired := by
  simp only [registerSwapchain, takeSerial]
  split
  · exact abandonSwapchain_paired paired slot _ _
  split
  · refine abandonSwapchain_paired ?_ slot _ _
    exact paired.of_eq rfl rfl
  · rename_i objects inserted
    have held : ({ context with objects := objects } : ObjectContext).Paired := paired.insertNext rfl inserted
    exact held.of_eq rfl rfl

theorem createSwapchainProducerResources_paired (paired : context.Paired) (answers : SwapchainAnswers)
    (swapchain : SwapchainMetadata) :
    (context.createSwapchainProducerResources answers swapchain).2.2.Paired := by
  have pooled := paired.nativeCreate .commandPool answers.commandPool
  unfold createSwapchainProducerResources
  split
  · exact paired
  split
  · exact paired
  split
  · exact paired
  split
  · exact paired
  split
  · exact paired
  dsimp only
  split
  · exact pooled
  split
  · exact pooled
  · exact pooled.nativeCreate .fence answers.fence

theorem prepareSwapchain_paired (paired : context.Paired) (deviceId : UInt64) (minImageCount : Nat)
    (fields : Verdict) (answers : SwapchainAnswers) :
    (context.prepareSwapchain driver deviceId minImageCount fields answers).2.Paired := by
  unfold prepareSwapchain
  split
  · exact paired
  split
  · exact paired
  split
  · exact paired
  rename_i slot _
  have start : (context.setSwapchain slot .zero).Paired := paired.of_eq rfl rfl
  split
  · exact start
  rename_i physicalId device _
  split
  · exact start
  split
  · exact start
  split
  · exact abandonSwapchain_paired start slot _ _
  have produced := createSwapchainProducerResources_paired start answers ⟨0, deviceId, device, 0, [], 0, []⟩
  dsimp only
  split
  · rename_i code swapchain next outcome
    rw [outcome] at produced
    exact abandonSwapchain_paired produced slot _ _
  · rename_i swapchain next outcome
    rw [outcome] at produced
    have imaged := prepareSwapchainImages_paired answers.images deviceId minImageCount 0 [] next produced
    split
    · exact abandonSwapchain_paired imaged slot _ _
    · exact registerSwapchain_paired imaged slot _ _

theorem runStages_paired {stages : List (ObjectContext → Completed)}
    (each : ∀ stage ∈ stages, ∀ current : ObjectContext, current.Paired → (stage current).2.Paired) :
    ∀ context : ObjectContext, context.Paired → (runStages stages context).2.Paired := by
  induction stages with
  | nil => intro context paired; exact paired
  | cons stage rest ih =>
      intro context paired
      have first := each stage (by simp) context paired
      simp only [runStages]
      split
      · rename_i code last outcome
        rw [outcome] at first
        exact first
      · rename_i nothing last outcome
        rw [outcome] at first
        exact ih (fun other member => each other (by simp [member])) last first

theorem swept_paired {swept : ObjectType × (ObjectContext → UInt64 → Completed)}
    (member : swept ∈ sweptBeforeViews driver ++ sweptAfterViews driver) (current : ObjectContext)
    (childId : UInt64) (paired : current.Paired) : (swept.2 current childId).2.Paired := by
  have leaf : ∀ (type : ObjectType) (busy : Bool),
      (current.destroyDeviceChild driver type busy none childId).2.Paired :=
    fun type busy => destroyDeviceChild_paired paired busy none childId (fun _ isChild => nomatch isChild)
  simp only [sweptBeforeViews, sweptAfterViews, List.cons_append, List.nil_append, List.mem_cons,
    List.not_mem_nil, or_false] at member
  rcases member with rfl | rfl | rfl | rfl | rfl | rfl | rfl | rfl | rfl | rfl | rfl | rfl | rfl | rfl
  case inr.inr.inr.inl =>
    exact destroyDeviceChild_paired paired false (some .descriptorSet) childId (fun _ isChild => by cases isChild; rfl)
  case inr.inr.inr.inr.inr.inr.inr.inl =>
    exact destroyDeviceChild_paired paired false (some .commandBuffer) childId (fun _ isChild => by cases isChild; rfl)
  case inr.inr.inr.inr.inr.inr.inr.inr.inr.inr.inr.inr.inr => exact paired.removePlain childId rfl
  all_goals exact leaf _ _

theorem destroyDeviceStages_paired (driver : ObjectDriver) (deviceId : UInt64) :
    ∀ stage ∈ destroyDeviceStages driver deviceId, ∀ current : ObjectContext, current.Paired →
      (stage current).2.Paired := by
  intro stage member current paired
  simp only [destroyDeviceStages, List.mem_append, List.mem_map, List.mem_singleton] at member
  rcases member with ((⟨slot, -, rfl⟩ | ⟨swept, before, rfl⟩) | rfl) | ⟨swept, after, rfl⟩
  · dsimp only [destroyDeviceSwapchain]
    split
    · exact destroySwapchainSlot_paired paired slot
    · exact paired
  · exact sweep_paired _ _ (swept_paired (List.mem_append_left _ before)) _ _ _ paired
  · exact sweep_paired _ _ (fun current viewId kept => destroyImageView_paired kept viewId) _ _ _ paired
  · exact sweep_paired _ _ (swept_paired (List.mem_append_right _ after)) _ _ _ paired

theorem destroyDevice_paired (paired : context.Paired) (deviceId : UInt64) :
    (context.destroyDevice driver deviceId).2.Paired := by
  unfold destroyDevice
  split
  · exact paired
  have bare := runStages_paired (destroyDeviceStages_paired driver deviceId) context paired
  split
  · rename_i code next outcome
    rw [outcome] at bare
    exact bare
  rename_i nothing next outcome
  rw [outcome] at bare
  split
  · rename_i code last refused
    rw [removeHandle_refused refused]
    exact bare
  · rename_i nothing last removed
    exact (bare.removeClear removed).of_eq rfl rfl

theorem destroyInstance_paired (paired : context.Paired) (instanceId : UInt64) :
    (context.destroyInstance driver instanceId).2.Paired := by
  unfold destroyInstance
  split
  · exact paired
  split
  · exact paired
  have deviceless : (context.sweepDevices driver instanceId).2.Paired :=
    sweep_paired _ _ (fun current deviceId kept => destroyDevice_paired kept deviceId) _ _ _ paired
  split
  · rename_i code next outcome
    rw [outcome] at deviceless
    exact deviceless
  rename_i nothing next outcome
  rw [outcome] at deviceless
  have bare : (next.sweepChildren .physicalDevice instanceId
      (fun current childId => current.removeHandle childId .physicalDevice)).2.Paired :=
    sweep_paired _ _ (fun current childId kept => kept.removePlain childId rfl) _ _ _ deviceless
  split
  · rename_i code last swept
    rw [swept] at bare
    exact bare
  rename_i nothing last swept
  rw [swept] at bare
  have removed : (last.removeHandle instanceId .inst).2.Paired := bare.removePlain instanceId rfl
  split
  · rename_i code final gone
    rw [gone] at removed
    exact removed
  · rename_i nothing final gone
    rw [gone] at removed
    exact removed.of_eq rfl rfl

/-! ## Runs -/

theorem call_paired (paired : context.Paired) (request : ObjectRequest) :
    (context.call driver request).2.Paired := by
  cases request with
  | createInstance fields native destroyFound procFound =>
      exact createInstance_paired paired fields native destroyFound procFound
  | destroyInstance instanceId => exact destroyInstance_paired paired instanceId
  | enumeratePhysicalDevices instanceId answer result natives =>
      exact enumeratePhysicalDevices_paired paired instanceId answer result natives
  | createDevice physicalDeviceId fields queues infos native =>
      exact createDevice_paired paired physicalDeviceId fields queues infos native
  | destroyDevice deviceId => exact destroyDevice_paired paired deviceId
  | getDeviceQueue deviceId queueFamilyIndex queueIndex present queue =>
      exact getDeviceQueue_paired paired deviceId queueFamilyIndex queueIndex present queue
  | allocateCommandBuffer commandPoolId fields native =>
      exact allocateCommandBuffer_paired paired commandPoolId fields native
  | freeCommandBuffer commandPoolId commandBufferId =>
      exact freeCommandBuffer_paired paired commandPoolId commandBufferId
  | resetDescriptorPool descriptorPoolId fields present result =>
      exact resetDescriptorPool_paired paired descriptorPoolId fields present result
  | allocateDescriptorSets descriptorPoolId setLayoutIds result sets =>
      exact allocateDescriptorSets_paired paired descriptorPoolId setLayoutIds result sets
  | createImageView deviceId imageId fields range native =>
      exact createImageView_paired paired deviceId imageId fields range native
  | destroyImageView imageViewId => exact destroyImageView_paired paired imageViewId
  | prepareSwapchain deviceId minImageCount fields answers =>
      exact prepareSwapchain_paired paired deviceId minImageCount fields answers
  | destroySwapchain swapchainId => exact destroySwapchain_paired paired swapchainId
  | setupMemoryMirror deviceId memoryId generation fields memory mapped =>
      simp only [call, setupMemoryMirror]
      repeat' split
      all_goals exact paired.of_eq rfl rfl
  | unmapMemoryMirror deviceId memoryId generation =>
      simp only [call, completed, unmapMemoryMirror]
      repeat' split
      all_goals exact paired.of_eq rfl rfl
  | destroyCommandPool objectId | destroyDescriptorPool objectId =>
      exact destroyDeviceChild_paired paired _ _ objectId (fun _ isChild => by cases isChild; rfl)
  | createCommandPool | createDescriptorSetLayout | createDescriptorPool | createSampler | createPipelineLayout
  | createGraphicsPipeline | createFence =>
      exact createDeviceChild_paired paired _ _ _ _ _ (fun _ => rfl)
  | createDescriptorUpdateTemplate | createQueryPool | createBuffer | allocateMemory | createImage
  | createSemaphore =>
      exact createDeviceChild_paired paired _ _ _ _ _ (fun unlisted => nomatch unlisted)
  | destroyDescriptorSetLayout | destroyDescriptorUpdateTemplate | destroyQueryPool | destroySampler
  | destroyPipelineLayout | destroyPipeline | destroyBuffer | freeMemory | destroyImage | destroyFence
  | destroySemaphore =>
      exact destroyDeviceChild_paired paired _ _ _ (fun _ isChild => nomatch isChild)

theorem empty_paired {capacity : Nat} (power : ∃ exponent, capacity = 2 ^ exponent) (large : 8 ≤ capacity)
    (found : Bool) : (empty capacity found).Paired := by
  refine ⟨Sound.init power large, ?_, ?_, ?_⟩
  · intro type slot _ inUse
    exact absurd rfl inUse
  · rintro wireId ⟨parentId, nativeBits, index, -, entry⟩
    cases entry
  · intro type first second _ _ inUse
    exact absurd rfl inUse

/-- The live entries of the table that have a type. -/
def EntryOf (context : ObjectContext) (type : ObjectType) (index : Nat) : Prop :=
  index < context.objects.capacity ∧ (context.objects.entries index).state = .occupied ∧
    handleType (context.objects.entries index).wireId = type

/-- The slots in use of a metadata array. -/
def SlotInUse (context : ObjectContext) (type : ObjectType) (slot : Nat) : Prop :=
  slot < metadataCapacity type ∧ context.metadata type slot ≠ 0

/-- The slots in use and the live entries of each type with a metadata array
correspond one to one by their wire id, and the search finds the slot of a
live handle. -/
def MetadataMatches (context : ObjectContext) : Prop :=
  ∀ type, 0 < metadataCapacity type →
    (∀ slot, context.SlotInUse type slot →
      ∃! index, context.EntryOf type index ∧ (context.objects.entries index).wireId = context.metadata type slot) ∧
    (∀ index, context.EntryOf type index →
      ∃! slot, context.SlotInUse type slot ∧ context.metadata type slot = (context.objects.entries index).wireId) ∧
    ∀ index, context.EntryOf type index →
      ∃ slot, context.slotOf type (context.objects.entries index).wireId = some slot ∧
        context.metadata type slot = (context.objects.entries index).wireId

theorem entry_live {index : Nat} (bound : index < context.objects.capacity)
    (occupied : (context.objects.entries index).state = .occupied) :
    context.Alive (context.objects.entries index).wireId := by
  refine ⟨(context.objects.entries index).parentId, (context.objects.entries index).nativeBits, index, bound, ?_⟩
  cases entry : context.objects.entries index with
  | mk storedId storedParent storedBits state =>
      rw [entry] at occupied
      cases occupied
      rfl

theorem entry_unique (sound : context.objects.Sound) {first second : Nat}
    (firstBound : first < context.objects.capacity)
    (secondBound : second < context.objects.capacity)
    (firstLive : (context.objects.entries first).state = .occupied)
    (secondLive : (context.objects.entries second).state = .occupied)
    (same : (context.objects.entries first).wireId = (context.objects.entries second).wireId) : first = second := by
  obtain ⟨map, holds⟩ := sound.holds
  have occupied : ∀ index, (context.objects.entries index).state = .occupied →
      context.objects.slots index = .occupied (context.objects.entries index).wireId
        ((context.objects.entries index).parentId, (context.objects.entries index).nativeBits) := by
    intro index live
    simp only [slots, HandleEntry.slot, live]
  have second' := occupied second secondLive
  rw [← same] at second'
  exact holds.chained.unique first second _ _ _ firstBound secondBound (occupied first firstLive) second'

theorem Paired.metadataMatches (paired : context.Paired) : context.MetadataMatches := by
  intro type some
  have entered : ∀ index, context.EntryOf type index → ∃ slot < metadataCapacity type,
      context.metadata type slot = (context.objects.entries index).wireId ∧ context.metadata type slot ≠ 0 := by
    rintro index ⟨bound, occupied, rfl⟩
    have alive := entry_live bound occupied
    obtain ⟨slot, inside, holds⟩ := paired.listed _ alive some
    refine ⟨slot, inside, holds, ?_⟩
    rw [holds]
    exact paired.alive_ne_zero alive
  refine ⟨?_, ?_, ?_⟩
  · rintro slot ⟨bound, inUse⟩
    obtain ⟨isType, parentId, nativeBits, index, inside, entry⟩ := paired.held type slot bound inUse
    refine ⟨index, ⟨⟨inside, by rw [entry], by rw [entry]; exact isType⟩, by rw [entry]⟩, ?_⟩
    rintro other ⟨⟨otherBound, occupied, -⟩, same⟩
    exact entry_unique paired.sound otherBound inside occupied (by rw [entry]) (by rw [same, entry])
  · intro index isEntry
    obtain ⟨slot, bound, holds, inUse⟩ := entered index isEntry
    refine ⟨slot, ⟨⟨bound, inUse⟩, holds⟩, ?_⟩
    rintro other ⟨⟨otherBound, otherInUse⟩, same⟩
    exact paired.once type other slot otherBound bound otherInUse (same.trans holds.symm)
  · intro index isEntry
    obtain ⟨slot, bound, holds, -⟩ := entered index isEntry
    obtain ⟨found, search, -, stored⟩ := slotOf_listed bound holds
    exact ⟨found, search, stored⟩

theorem run_paired (inputs : List (ObjectDriver × ObjectRequest)) (start : ObjectContext)
    (paired : start.Paired) : Runs.EveryState step Paired start inputs := by
  induction inputs generalizing start with
  | nil => exact paired
  | cons input rest ih => exact ⟨paired, ih _ (call_paired paired input.2)⟩

/-- In every state of every run, whatever the driver answers, metadata and
handles correspond one to one. -/
theorem metadata_matches_handles (found : Bool) (inputs : List (ObjectDriver × ObjectRequest)) :
    Runs.EveryState step MetadataMatches (empty globalObjectCapacity found) inputs :=
  (run_paired inputs _ (empty_paired ⟨12, rfl⟩ (by decide) found)).imp fun _ paired => paired.metadataMatches

end ObjectContext

end VulkanBridge
