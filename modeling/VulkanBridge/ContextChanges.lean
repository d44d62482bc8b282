import VulkanBridge.MetadataPairing
import Mathlib.Logic.Relation

/-!
What a call does to the handle table and the serials, as a sequence of the few
changes every function is made of: a serial is taken, a new id enters the table
under its serial, a handle is removed. What these changes keep, every call keeps.
-/

namespace VulkanBridge

namespace ObjectContext

def Unlists (makes : ObjectType → Prop) (context next : ObjectContext) : Prop :=
  ∀ type, ¬ makes type → ∀ slot, next.metadata type slot = context.metadata type slot ∨ next.metadata type slot = 0

/-- One change. `makes` are the types that may take a serial. -/
inductive Change (makes : ObjectType → Prop) (context next : ObjectContext) : Prop where
  | same (objects : next.objects = context.objects) (serials : next.nextSerial = context.nextSerial)
      (unlists : Unlists makes context next)
  | takes (type : ObjectType) (made : makes type) (objects : next.objects = context.objects)
      (serials : next.nextSerial = (context.takeSerial type).2.nextSerial) (unlists : Unlists makes context next)
  | inserts (type : ObjectType) (made : makes type) (parentId nativeBits : UInt64)
      (inserted : context.objects.insert (context.takeSerial type).1 parentId nativeBits = .ok next.objects)
      (serials : next.nextSerial = (context.takeSerial type).2.nextSerial) (unlists : Unlists makes context next)
  | removes (wireId : UInt64) (type : ObjectType) (nativeBits : UInt64)
      (removed : context.objects.remove wireId type = .ok (nativeBits, next.objects))
      (serials : next.nextSerial = context.nextSerial) (unlists : Unlists makes context next)

abbrev Changes (makes : ObjectType → Prop) : ObjectContext → ObjectContext → Prop :=
  Relation.ReflTransGen (Change makes)

variable {makes : ObjectType → Prop} {driver : ObjectDriver} {context next : ObjectContext} {type : ObjectType}

namespace Unlists

theorem of_eq (same : next.metadata = context.metadata) : Unlists makes context next := by
  intro type _ slot
  rw [same]
  exact .inl rfl

theorem trans {last : ObjectContext} (first : Unlists makes context next) (second : Unlists makes next last) :
    Unlists makes context last := by
  intro type other slot
  rcases second type other slot with same | cleared
  · rcases first type other slot with before | cleared
    · exact .inl (same.trans before)
    · exact .inr (same.trans cleared)
  · exact .inr cleared

theorem setMetadata_zero (context : ObjectContext) (type : ObjectType) (slot : Nat) :
    Unlists makes context (context.setMetadata type slot 0) := by
  intro other _ index
  by_cases same : other = type
  · subst same
    by_cases here : index = slot
    · subst here
      simp [ObjectContext.setMetadata]
    · simp [ObjectContext.setMetadata, here]
  · simp [ObjectContext.setMetadata, same]

theorem clearMetadata (context : ObjectContext) (type : ObjectType) (wireId : UInt64) :
    Unlists makes context (context.clearMetadata type wireId) := by
  unfold ObjectContext.clearMetadata
  split
  · exact .of_eq rfl
  · split
    · exact .setMetadata_zero _ _ _
    · exact .of_eq rfl

theorem setMetadata (made : makes type) (context : ObjectContext) (slot : Nat) (wireId : UInt64) :
    Unlists makes context (context.setMetadata type slot wireId) := by
  intro other foreign index
  have apart : other ≠ type := by
    rintro rfl
    exact foreign made
  simp [ObjectContext.setMetadata, apart]

end Unlists

namespace Changes

theorem same (objects : next.objects = context.objects) (serials : next.nextSerial = context.nextSerial)
    (unlists : Unlists makes context next) : Changes makes context next := .single (.same objects serials unlists)

theorem andThen {last : ObjectContext} (changes : Changes makes context next) (objects : last.objects = next.objects)
    (serials : last.nextSerial = next.nextSerial) (unlists : Unlists makes next last) : Changes makes context last :=
  changes.tail (.same objects serials unlists)

theorem after {last : ObjectContext} (changes : Changes makes next last) (objects : next.objects = context.objects)
    (serials : next.nextSerial = context.nextSerial) (unlists : Unlists makes context next) :
    Changes makes context last :=
  .head (.same objects serials unlists) changes

end Changes

theorem removeHandle_changes (context : ObjectContext) (wireId : UInt64) (type : ObjectType) :
    Changes makes context (context.removeHandle wireId type).2 := by
  unfold removeHandle
  split
  · exact .refl
  · rename_i nativeBits objects removed
    exact .single (.removes wireId type nativeBits removed rfl (.of_eq rfl))

theorem nativeCreate_changes (context : ObjectContext) (type : ObjectType) (native : NativeAnswer) :
    Changes makes context (context.nativeCreate type native) := by
  refine .same ?_ ?_ (.of_eq (nativeCreate_metadata context native))
  · simp
  · simp

theorem clearMetadata_nextSerial (context : ObjectContext) (type : ObjectType) (wireId : UInt64) :
    (context.clearMetadata type wireId).nextSerial = context.nextSerial := by
  unfold clearMetadata
  split
  · rfl
  · split <;> rfl

/-! ## Creation -/

theorem registerChild_changes (made : makes type) (context : ObjectContext) (order : SlotOrder) (parentId : UInt64)
    (native : NativeAnswer) : Changes makes context (context.registerChild type order parentId native).2 := by
  simp only [registerChild]
  split
  · exact .single (.takes type made rfl rfl (.of_eq rfl))
  · rename_i objects inserted
    have held : Changes makes context { (context.takeSerial type).2 with objects := objects } :=
      .single (.inserts type made parentId native.handle inserted rfl (.of_eq rfl))
    split
    · exact held
    · split
      · exact held.andThen rfl rfl (.setMetadata made _ _ _)
      · have removed : Changes makes context
            (({ (context.takeSerial type).2 with objects := objects } : ObjectContext).removeHandle
              (context.takeSerial type).1 type).2 :=
          held.trans (removeHandle_changes _ _ _)
        exact removed.andThen rfl rfl (.of_eq rfl)

theorem createDeviceChild_changes (made : makes type) (context : ObjectContext) (order : SlotOrder) (deviceId : UInt64)
    (fields : Verdict) (references : UInt64 → Verdict) (native : NativeAnswer) :
    Changes makes context (context.createDeviceChild driver type order deviceId fields references native).2 := by
  have created : Changes makes context (context.nativeCreate type native) := nativeCreate_changes context type native
  unfold createDeviceChild
  split
  · exact .refl
  split
  · exact .refl
  split
  · exact .refl
  split
  · exact .refl
  split
  · exact .refl
  split
  · exact .refl
  split
  · exact created.andThen rfl rfl (.of_eq rfl)
  · exact created.trans (registerChild_changes made _ _ _ _)

theorem createImageView_changes (made : makes .imageView) (context : ObjectContext) (deviceId imageId : UInt64)
    (fields range : Verdict) (native : NativeAnswer) :
    Changes makes context (context.createImageView driver deviceId imageId fields range native).2 := by
  unfold createImageView
  repeat' split
  all_goals first
    | exact .refl
    | exact .trans (nativeCreate_changes context .imageView native) (registerChild_changes made _ _ _ _)

theorem allocateCommandBuffer_changes (made : makes .commandBuffer) (context : ObjectContext) (commandPoolId : UInt64)
    (fields : Verdict) (native : NativeAnswer) :
    Changes makes context (context.allocateCommandBuffer driver commandPoolId fields native).2 := by
  unfold allocateCommandBuffer
  repeat' split
  all_goals first
    | exact .refl
    | exact .trans (nativeCreate_changes context .commandBuffer native) (registerChild_changes made _ _ _ _)

theorem insertDescriptorSets_changes (made : makes .descriptorSet) (descriptorPoolId : UInt64) (sets : List UInt64) :
    ∀ ids (context : ObjectContext),
      Changes makes context (insertDescriptorSets descriptorPoolId sets ids context).2 := by
  induction sets with
  | nil => intro ids context; exact .refl
  | cons set rest ih =>
      intro ids context
      simp only [insertDescriptorSets]
      split
      · exact .single (.takes .descriptorSet made rfl rfl (.of_eq rfl))
      · rename_i objects inserted
        have held : Changes makes context { (context.takeSerial .descriptorSet).2 with objects := objects } :=
          .single (.inserts .descriptorSet made descriptorPoolId set inserted rfl (.of_eq rfl))
        exact held.trans (ih _ _)

theorem allocateDescriptorSets_changes (made : makes .descriptorSet) (context : ObjectContext)
    (descriptorPoolId : UInt64) (setLayoutIds : List UInt64) (result : VulkanResult) (sets : Nat → UInt64) :
    Changes makes context (context.allocateDescriptorSets driver descriptorPoolId setLayoutIds result sets).2 := by
  unfold allocateDescriptorSets
  repeat' split
  all_goals first
    | exact .refl
    | exact insertDescriptorSets_changes made _ _ _ _

theorem createInstance_changes (made : makes .inst) (context : ObjectContext) (fields : Verdict) (native : NativeAnswer)
    (destroyFound procFound : Bool) :
    Changes makes context (context.createInstance fields native destroyFound procFound).2 := by
  have created : Changes makes context (context.nativeCreate .inst native) := nativeCreate_changes context .inst native
  simp only [createInstance]
  split
  · exact .refl
  split
  · exact .refl
  split
  · exact .refl
  split
  · exact created
  split
  · exact created.andThen rfl rfl (.of_eq rfl)
  · have found : Changes makes context
        { context.nativeCreate .inst native with hasDestroyInstance := true, hasGetDeviceProcAddr := true } :=
      created.andThen rfl rfl (.of_eq rfl)
    exact found.trans (registerChild_changes made _ _ _ _)

theorem registerBorrowed_changes (made : makes type) (context : ObjectContext) (parentId nativeBits : UInt64) :
    Changes makes context (context.registerBorrowed type parentId nativeBits).2 := by
  simp only [registerBorrowed]
  split
  · exact .refl
  split
  · exact .single (.takes type made rfl rfl (.of_eq rfl))
  · rename_i objects inserted
    exact .single (.inserts type made parentId nativeBits inserted rfl (.of_eq rfl))

theorem registerPhysicalDevices_changes (made : makes .physicalDevice) (instanceId : UInt64) (result : VulkanResult)
    (natives : List UInt64) : ∀ (ids : List UInt64) (context : ObjectContext),
      Changes makes context (registerPhysicalDevices instanceId result natives ids context).2 := by
  induction natives with
  | nil => intro ids context; exact .refl
  | cons nativeBits rest ih =>
      intro ids context
      have registered : Changes makes context (context.registerBorrowed .physicalDevice instanceId nativeBits).2 :=
        registerBorrowed_changes made context instanceId nativeBits
      simp only [registerPhysicalDevices]
      split
      · rename_i outcome
        rw [outcome] at registered
        exact registered
      · rename_i outcome
        rw [outcome] at registered
        exact registered.trans (ih _ _)

theorem enumeratePhysicalDevices_changes (made : makes .physicalDevice) (context : ObjectContext) (instanceId : UInt64)
    (answer : Verdict) (result : VulkanResult) (natives : List UInt64) :
    Changes makes context (context.enumeratePhysicalDevices instanceId answer result natives).2 := by
  unfold enumeratePhysicalDevices
  repeat' split
  all_goals first
    | exact .refl
    | exact registerPhysicalDevices_changes made _ _ _ _ _

theorem getDeviceQueue_changes (made : makes .queue) (context : ObjectContext) (deviceId : UInt64)
    (queueFamilyIndex queueIndex : UInt32) (present : Bool) (queue : UInt64) :
    Changes makes context (context.getDeviceQueue deviceId queueFamilyIndex queueIndex present queue).2 := by
  have registered : Changes makes context (context.registerBorrowed .queue deviceId queue).2 :=
    registerBorrowed_changes made context deviceId queue
  unfold getDeviceQueue
  split
  · exact .refl
  split
  · exact .refl
  split
  · exact .refl
  split
  · exact .refl
  split
  · exact .refl
  split
  · rename_i outcome
    rw [outcome] at registered
    exact registered
  · rename_i outcome
    rw [outcome] at registered
    exact registered

theorem createDevice_changes (made : makes .device) (context : ObjectContext) (physicalDeviceId : UInt64)
    (fields queues : Verdict) (infos : List QueueCreateInfo) (native : NativeAnswer) :
    Changes makes context (context.createDevice driver physicalDeviceId fields queues infos native).2 := by
  have created : Changes makes context (context.nativeCreate .device native) :=
    nativeCreate_changes context .device native
  simp only [createDevice]
  split
  · exact .refl
  split
  · exact .refl
  split
  · exact .refl
  split
  · exact .refl
  split
  · exact .refl
  split
  · exact created
  have taken : Changes makes context ((context.nativeCreate .device native).takeSerial .device).2 :=
    created.tail (.takes .device made rfl rfl (.of_eq rfl))
  split
  · exact taken.andThen rfl rfl (.of_eq rfl)
  split
  · exact taken.andThen rfl rfl (.of_eq rfl)
  · rename_i objects inserted
    exact created.tail (.inserts .device made physicalDeviceId native.handle inserted rfl (.setMetadata made _ _ _))

theorem sweep_changes (selects : ObjectContext → HandleEntry → Bool) (act : ObjectContext → UInt64 → Completed)
    (acts : ∀ (current : ObjectContext) wireId, Changes makes current (act current wireId).2) :
    ∀ remaining index (context : ObjectContext),
      Changes makes context (sweep selects act remaining index context).2 := by
  intro remaining
  induction remaining with
  | zero => intro index context; exact .refl
  | succ remaining ih =>
      intro index context
      simp only [sweep]
      split
      · have acted := acts context (context.objects.entries index).wireId
        split
        · rename_i outcome
          rw [outcome] at acted
          exact acted
        · rename_i outcome
          rw [outcome] at acted
          exact acted.trans (ih _ _)
      · exact ih _ _

theorem removeChildren_changes (context : ObjectContext) (children : Option ObjectType) (objectId : UInt64) :
    Changes makes context (context.removeChildren children objectId).2 := by
  unfold removeChildren
  split
  · exact .refl
  · exact sweep_changes _ _ (fun current childId => removeHandle_changes current childId _) _ _ _

theorem destroyDeviceChild_changes (context : ObjectContext) (type : ObjectType) (busy : Bool)
    (children : Option ObjectType) (objectId : UInt64) :
    Changes makes context (context.destroyDeviceChild driver type busy children objectId).2 := by
  unfold destroyDeviceChild
  split
  · exact .refl
  split
  · exact .refl
  split
  · exact .refl
  have emptied : Changes makes context (context.removeChildren children objectId).2 :=
    removeChildren_changes context children objectId
  split
  · rename_i outcome
    rw [outcome] at emptied
    exact emptied
  rename_i nothing next outcome
  rw [outcome] at emptied
  have removed : Changes makes context (next.removeHandle objectId type).2 :=
    emptied.trans (removeHandle_changes next objectId type)
  split
  · rename_i refused
    rw [refused] at removed
    exact removed
  · rename_i done
    rw [done] at removed
    exact removed.andThen (clearMetadata_objects _) (clearMetadata_nextSerial _ _ _) (.clearMetadata _ _ _)

theorem destroyImageView_changes (context : ObjectContext) (imageViewId : UInt64) :
    Changes makes context (context.destroyImageView driver imageViewId).2 := by
  have removed : Changes makes context (context.removeHandle imageViewId .imageView).2 :=
    removeHandle_changes context imageViewId .imageView
  unfold destroyImageView
  split
  · exact .refl
  split
  · exact .refl
  split
  · exact .refl
  split
  · rename_i refused
    rw [refused] at removed
    exact removed
  · rename_i done
    rw [done] at removed
    exact removed.andThen rfl rfl (.of_eq rfl)

theorem freeCommandBuffer_changes (context : ObjectContext) (commandPoolId commandBufferId : UInt64) :
    Changes makes context (context.freeCommandBuffer driver commandPoolId commandBufferId).2 := by
  unfold freeCommandBuffer
  split
  · exact .refl
  split
  · exact .refl
  split
  · exact .refl
  split
  · exact .refl
  · exact Changes.after (removeHandle_changes _ _ _) rfl rfl (.of_eq rfl)

theorem resetDescriptorPool_changes (context : ObjectContext) (descriptorPoolId : UInt64) (fields : Verdict)
    (present : Bool) (result : VulkanResult) :
    Changes makes context (context.resetDescriptorPool descriptorPoolId fields present result).2 := by
  have emptied : Changes makes context (context.removeChildren (some .descriptorSet) descriptorPoolId).2 :=
    removeChildren_changes context _ descriptorPoolId
  unfold resetDescriptorPool
  split
  · exact .refl
  split
  · exact .refl
  split
  · exact .refl
  split
  · exact .refl
  split
  · rename_i outcome
    rw [outcome] at emptied
    exact emptied
  · rename_i outcome
    rw [outcome] at emptied
    exact emptied

/-! ## Swapchains -/

theorem nativeDestroyFound_changes (context : ObjectContext) (found : Bool) (type : ObjectType) (handle : UInt64) :
    Changes makes context (context.nativeDestroyFound found type handle) := by
  unfold nativeDestroyFound
  split
  · exact .same rfl rfl (.of_eq rfl)
  · exact .refl

theorem removeSwapchainImage_changes (context : ObjectContext) (imageId : UInt64) :
    Changes makes context (context.removeSwapchainImage imageId).2 := by
  unfold removeSwapchainImage
  split
  · exact .refl
  · have cleared : Changes makes context (context.clearMetadata .image imageId) :=
      .same (clearMetadata_objects _) (clearMetadata_nextSerial _ _ _) (.clearMetadata _ _ _)
    exact cleared.trans (removeHandle_changes _ _ _)

theorem removeSwapchainHandle_changes (context : ObjectContext) (swapchainId : UInt64) :
    Changes makes context (context.removeSwapchainHandle swapchainId).2 := by
  unfold removeSwapchainHandle
  split
  · exact .refl
  · exact removeHandle_changes _ _ _

theorem destroySwapchainImages_changes (driver : ObjectDriver) (loaded : Bool) (device : UInt64)
    (images : List SwapchainImage) : ∀ (status : Option Errno) (context : ObjectContext),
      Changes makes context (context.destroySwapchainImages driver loaded device images status).2 := by
  induction images with
  | nil => intro status context; exact .refl
  | cons image rest ih =>
      intro status context
      simp only [destroySwapchainImages]
      exact (((removeSwapchainImage_changes context image.imageId).trans
        (nativeDestroyFound_changes _ _ _ _)).trans (nativeDestroyFound_changes _ _ _ _)).trans (ih _ _)

theorem destroySwapchainMetadata_changes (driver : ObjectDriver) (context : ObjectContext) (slot : Nat)
    (swapchain : SwapchainMetadata) :
    Changes makes context (context.destroySwapchainMetadata driver slot swapchain).2 := by
  simp only [destroySwapchainMetadata]
  exact (((nativeDestroyFound_changes context _ _ _).trans (nativeDestroyFound_changes _ _ _ _)).trans
    (destroySwapchainImages_changes driver _ _ _ _ _)).trans (removeSwapchainHandle_changes _ _)

theorem abandonSwapchain_changes (driver : ObjectDriver) (context : ObjectContext) (slot : Nat)
    (swapchain : SwapchainMetadata) (reply : Except Errno ObjectReply) :
    Changes makes context (context.abandonSwapchain driver slot swapchain reply).2 := by
  have torn : Changes makes context (context.destroySwapchainMetadata driver slot swapchain).2 :=
    destroySwapchainMetadata_changes driver context slot swapchain
  exact torn.andThen rfl rfl (.of_eq rfl)

theorem destroySwapchainSlot_changes (driver : ObjectDriver) (context : ObjectContext) (slot : Nat) :
    Changes makes context (context.destroySwapchainSlot driver slot).2 := by
  have torn : Changes makes context
      (context.destroySwapchainMetadata driver slot (context.swapchains.getD slot .zero)).2 :=
    destroySwapchainMetadata_changes driver context slot _
  exact torn.andThen rfl rfl (.of_eq rfl)

theorem destroySwapchain_changes (context : ObjectContext) (swapchainId : UInt64) :
    Changes makes context (context.destroySwapchain driver swapchainId).2 := by
  unfold destroySwapchain
  split
  · exact .refl
  split
  · exact .refl
  · exact destroySwapchainSlot_changes driver context _

theorem prepareSwapchainImages_changes (made : makes .image) (answers : Nat → SwapchainImageAnswers)
    (deviceId : UInt64) : ∀ remaining index images (context : ObjectContext),
      Changes makes context (prepareSwapchainImages answers deviceId remaining index images context).2 := by
  intro remaining
  induction remaining with
  | zero => intro index images context; exact .refl
  | succ remaining ih =>
      intro index images context
      have imaged : Changes makes context (context.nativeCreate .image (answers index).image) :=
        nativeCreate_changes context .image (answers index).image
      have backed : Changes makes context
          ((context.nativeCreate .image (answers index).image).nativeCreate .deviceMemory (answers index).memory) :=
        imaged.trans (nativeCreate_changes _ .deviceMemory (answers index).memory)
      simp only [prepareSwapchainImages]
      split
      · exact .refl
      split
      · exact imaged
      split
      · exact imaged
      split
      · exact backed
      split
      · exact backed
      split
      · exact backed.tail (.takes .image made rfl rfl (.of_eq rfl))
      rename_i objects inserted
      have held : Changes makes context
          { (((context.nativeCreate .image (answers index).image).nativeCreate .deviceMemory
            (answers index).memory).takeSerial .image).2 with objects := objects } :=
        backed.tail (.inserts .image made deviceId _ inserted rfl (.of_eq rfl))
      split
      · exact held.trans (removeHandle_changes _ _ _)
      · exact held.trans (Changes.after (ih _ _ _) rfl rfl (.setMetadata made _ _ _))

theorem registerSwapchain_changes (made : makes .swapchain) (driver : ObjectDriver) (context : ObjectContext)
    (slot : Nat) (duplicated : Option Errno) (swapchain : SwapchainMetadata) :
    Changes makes context (context.registerSwapchain driver slot duplicated swapchain).2 := by
  simp only [registerSwapchain]
  split
  · exact abandonSwapchain_changes driver context slot _ _
  split
  · have taken : Changes makes context (context.takeSerial .swapchain).2 :=
      .single (.takes .swapchain made rfl rfl (.of_eq rfl))
    exact taken.trans (abandonSwapchain_changes driver _ slot _ _)
  · rename_i objects inserted
    exact .single (.inserts .swapchain made _ _ inserted rfl (.of_eq rfl))

theorem createSwapchainProducerResources_metadata (context : ObjectContext) (answers : SwapchainAnswers)
    (swapchain : SwapchainMetadata) :
    (context.createSwapchainProducerResources answers swapchain).2.2.metadata = context.metadata := by
  unfold createSwapchainProducerResources
  repeat' split
  all_goals simp

theorem prepareSwapchain_changes (image : makes .image) (swapchain : makes .swapchain) (context : ObjectContext)
    (deviceId : UInt64) (minImageCount : Nat) (fields : Verdict) (answers : SwapchainAnswers) :
    Changes makes context (context.prepareSwapchain driver deviceId minImageCount fields answers).2 := by
  unfold prepareSwapchain
  split
  · exact .refl
  split
  · exact .refl
  split
  · exact .refl
  rename_i slot _
  have start : Changes makes context (context.setSwapchain slot .zero) := .same rfl rfl (.of_eq rfl)
  split
  · exact start
  rename_i physicalId device _
  split
  · exact start
  split
  · exact start
  split
  · exact start.trans (abandonSwapchain_changes driver _ slot _ _)
  have frame := createSwapchainProducerResources_frame (context.setSwapchain slot .zero) answers
    ⟨0, deviceId, device, 0, [], 0, []⟩
  have metadata := createSwapchainProducerResources_metadata (context.setSwapchain slot .zero) answers
    ⟨0, deviceId, device, 0, [], 0, []⟩
  dsimp only
  split
  · rename_i code made next outcome
    rw [outcome] at frame metadata
    exact (start.andThen frame.1 frame.2.2.1 (.of_eq metadata)).trans (abandonSwapchain_changes driver next slot _ _)
  · rename_i made next outcome
    rw [outcome] at frame metadata
    have produced : Changes makes context next := start.andThen frame.1 frame.2.2.1 (.of_eq metadata)
    have imaged : Changes makes context
        (prepareSwapchainImages answers.images deviceId minImageCount 0 [] next).2 :=
      produced.trans (prepareSwapchainImages_changes image answers.images deviceId minImageCount 0 [] next)
    split
    · exact imaged.trans (abandonSwapchain_changes driver _ slot _ _)
    · exact imaged.trans (registerSwapchain_changes swapchain driver _ slot _ _)

theorem runStages_changes {stages : List (ObjectContext → Completed)}
    (each : ∀ stage ∈ stages, ∀ current : ObjectContext, Changes makes current (stage current).2) :
    ∀ context : ObjectContext, Changes makes context (runStages stages context).2 := by
  induction stages with
  | nil => intro context; exact .refl
  | cons stage rest ih =>
      intro context
      have first := each stage List.mem_cons_self context
      simp only [runStages]
      split
      · rename_i outcome
        rw [outcome] at first
        exact first
      · rename_i outcome
        rw [outcome] at first
        exact first.trans (ih (fun other member => each other (List.mem_cons_of_mem _ member)) _)

theorem swept_changes {swept : ObjectType × (ObjectContext → UInt64 → Completed)}
    (member : swept ∈ sweptBeforeViews driver ++ sweptAfterViews driver) (current : ObjectContext)
    (childId : UInt64) : Changes makes current (swept.2 current childId).2 := by
  simp only [sweptBeforeViews, sweptAfterViews, List.cons_append, List.nil_append, List.mem_cons,
    List.not_mem_nil, or_false] at member
  rcases member with rfl | rfl | rfl | rfl | rfl | rfl | rfl | rfl | rfl | rfl | rfl | rfl | rfl | rfl
  case inr.inr.inr.inr.inr.inr.inr.inr.inr.inr.inr.inr.inr => exact removeHandle_changes _ _ _
  all_goals exact destroyDeviceChild_changes _ _ _ _ _

theorem destroyDeviceStages_changes (driver : ObjectDriver) (deviceId : UInt64) :
    ∀ stage ∈ destroyDeviceStages driver deviceId, ∀ current : ObjectContext,
      Changes makes current (stage current).2 := by
  intro stage member current
  simp only [destroyDeviceStages, List.mem_append, List.mem_map, List.mem_singleton] at member
  rcases member with ((⟨slot, -, rfl⟩ | ⟨swept, before, rfl⟩) | rfl) | ⟨swept, after, rfl⟩
  · dsimp only [destroyDeviceSwapchain]
    split
    · exact destroySwapchainSlot_changes driver current slot
    · exact .refl
  · exact sweep_changes _ _ (swept_changes (List.mem_append_left _ before)) _ _ _
  · exact sweep_changes _ _ destroyImageView_changes _ _ _
  · exact sweep_changes _ _ (swept_changes (List.mem_append_right _ after)) _ _ _

theorem destroyDevice_changes (context : ObjectContext) (deviceId : UInt64) :
    Changes makes context (context.destroyDevice driver deviceId).2 := by
  unfold destroyDevice
  split
  · exact .refl
  have bare : Changes makes context (runStages (destroyDeviceStages driver deviceId) context).2 :=
    runStages_changes (destroyDeviceStages_changes driver deviceId) context
  split
  · rename_i outcome
    rw [outcome] at bare
    exact bare
  rename_i nothing next outcome
  rw [outcome] at bare
  have removed : Changes makes context (next.removeHandle deviceId .device).2 :=
    bare.trans (removeHandle_changes next deviceId .device)
  split
  · rename_i refused
    rw [refused] at removed
    exact removed
  · rename_i done
    rw [done] at removed
    exact removed.andThen (clearMetadata_objects _) (clearMetadata_nextSerial _ _ _) (.clearMetadata _ _ _)

theorem destroyInstance_changes (context : ObjectContext) (instanceId : UInt64) :
    Changes makes context (context.destroyInstance driver instanceId).2 := by
  unfold destroyInstance
  split
  · exact .refl
  split
  · exact .refl
  have deviceless : Changes makes context (context.sweepDevices driver instanceId).2 :=
    sweep_changes _ _ destroyDevice_changes _ _ _
  split
  · rename_i outcome
    rw [outcome] at deviceless
    exact deviceless
  rename_i nothing between outcome
  rw [outcome] at deviceless
  have bare : Changes makes context (between.sweepChildren .physicalDevice instanceId
      (fun current childId => current.removeHandle childId .physicalDevice)).2 :=
    deviceless.trans (sweep_changes _ _ (fun current childId => removeHandle_changes current childId _) _ _ _)
  split
  · rename_i refused
    rw [refused] at bare
    exact bare
  rename_i nothing last swept
  rw [swept] at bare
  have removed : Changes makes context (last.removeHandle instanceId .inst).2 :=
    bare.trans (removeHandle_changes last instanceId .inst)
  split
  · rename_i refused
    rw [refused] at removed
    exact removed
  · rename_i done
    rw [done] at removed
    exact removed.andThen rfl rfl (.of_eq rfl)

end ObjectContext

/-- The types of the objects a call may make. -/
def ObjectRequest.makes : ObjectRequest → List ObjectType
  | .createInstance .. => [.inst]
  | .enumeratePhysicalDevices .. => [.physicalDevice]
  | .createDevice .. => [.device]
  | .getDeviceQueue .. => [.queue]
  | .createCommandPool .. => [.commandPool]
  | .allocateCommandBuffer .. => [.commandBuffer]
  | .createDescriptorSetLayout .. => [.descriptorSetLayout]
  | .createDescriptorUpdateTemplate .. => [.descriptorUpdateTemplate]
  | .createDescriptorPool .. => [.descriptorPool]
  | .allocateDescriptorSets .. => [.descriptorSet]
  | .createQueryPool .. => [.queryPool]
  | .createSampler .. => [.sampler]
  | .createPipelineLayout .. => [.pipelineLayout]
  | .createGraphicsPipeline .. => [.pipeline]
  | .createBuffer .. => [.buffer]
  | .allocateMemory .. => [.deviceMemory]
  | .createImage .. => [.image]
  | .createImageView .. => [.imageView]
  | .createFence .. => [.fence]
  | .createSemaphore .. => [.semaphore]
  | .prepareSwapchain .. => [.image, .swapchain]
  | _ => []

namespace ObjectContext

theorem call_changes (driver : ObjectDriver) (context : ObjectContext) (request : ObjectRequest) :
    Changes (fun type => type ∈ request.makes) context (context.call driver request).2 := by
  cases request with
  | createInstance fields native destroyFound procFound =>
      exact createInstance_changes (List.mem_singleton.mpr rfl) context fields native destroyFound procFound
  | destroyInstance instanceId => exact destroyInstance_changes context instanceId
  | enumeratePhysicalDevices instanceId answer result natives =>
      exact enumeratePhysicalDevices_changes (List.mem_singleton.mpr rfl) context instanceId answer result natives
  | createDevice physicalDeviceId fields queues infos native =>
      exact createDevice_changes (List.mem_singleton.mpr rfl) context physicalDeviceId fields queues infos native
  | destroyDevice deviceId => exact destroyDevice_changes context deviceId
  | getDeviceQueue deviceId queueFamilyIndex queueIndex present queue =>
      exact getDeviceQueue_changes (List.mem_singleton.mpr rfl) context deviceId queueFamilyIndex queueIndex present
        queue
  | allocateCommandBuffer commandPoolId fields native =>
      exact allocateCommandBuffer_changes (List.mem_singleton.mpr rfl) context commandPoolId fields native
  | freeCommandBuffer commandPoolId commandBufferId =>
      exact freeCommandBuffer_changes context commandPoolId commandBufferId
  | resetDescriptorPool descriptorPoolId fields present result =>
      exact resetDescriptorPool_changes context descriptorPoolId fields present result
  | allocateDescriptorSets descriptorPoolId setLayoutIds result sets =>
      exact allocateDescriptorSets_changes
        (List.mem_singleton.mpr rfl) context descriptorPoolId setLayoutIds result sets
  | createImageView deviceId imageId fields range native =>
      exact createImageView_changes (List.mem_singleton.mpr rfl) context deviceId imageId fields range native
  | destroyImageView imageViewId => exact destroyImageView_changes context imageViewId
  | prepareSwapchain deviceId minImageCount fields answers =>
      exact prepareSwapchain_changes List.mem_cons_self (List.mem_cons_of_mem _ List.mem_cons_self) context deviceId
        minImageCount fields answers
  | destroySwapchain swapchainId => exact destroySwapchain_changes context swapchainId
  | setupMemoryMirror deviceId memoryId generation fields memory mapped =>
      dsimp only [call, setupMemoryMirror]
      repeat' split
      all_goals first
        | exact .refl
        | exact .same rfl rfl (.of_eq rfl)
  | unmapMemoryMirror deviceId memoryId generation =>
      dsimp only [call, completed, unmapMemoryMirror]
      split
      · exact .refl
      · split
        · exact .refl
        · exact .same rfl rfl (.of_eq rfl)
  | createCommandPool | createDescriptorSetLayout | createDescriptorPool | createSampler | createPipelineLayout
  | createGraphicsPipeline | createFence | createDescriptorUpdateTemplate | createQueryPool | createBuffer
  | allocateMemory | createImage | createSemaphore =>
      exact createDeviceChild_changes (List.mem_singleton.mpr rfl) _ _ _ _ _ _
  | destroyCommandPool | destroyDescriptorPool | freeMemory | destroyDescriptorSetLayout
  | destroyDescriptorUpdateTemplate | destroyQueryPool | destroySampler | destroyPipelineLayout | destroyPipeline
  | destroyBuffer | destroyImage | destroyFence | destroySemaphore =>
      exact destroyDeviceChild_changes _ _ _ _ _

theorem Change.sound (change : Change makes context next) (sound : context.objects.Sound) : next.objects.Sound := by
  rcases change with ⟨objects, _⟩ | ⟨_, _, objects, _⟩ | ⟨_, _, _, _, inserted, _⟩ | ⟨_, _, _, removed, _⟩
  · rw [objects]
    exact sound
  · rw [objects]
    exact sound
  · exact (sound.insert_ok inserted).1
  · exact (sound.remove_ok removed).1

theorem Changes.sound (changes : Changes makes context next) (sound : context.objects.Sound) : next.objects.Sound := by
  induction changes with
  | refl => exact sound
  | tail _ change ih => exact change.sound ih

theorem Change.other (change : Change makes context next) (other : ¬ makes type) :
    next.nextSerial type = context.nextSerial type := by
  have taken : ∀ made, makes made → next.nextSerial = (context.takeSerial made).2.nextSerial →
      next.nextSerial type = context.nextSerial type := by
    intro made isMade serials
    rw [serials]
    refine Function.update_of_ne ?_ _ _
    rintro rfl
    exact other isMade
  rcases change with ⟨_, serials⟩ | ⟨made, isMade, _, serials⟩ | ⟨made, isMade, _, _, _, serials⟩ |
    ⟨_, _, _, _, serials⟩
  · rw [serials]
  · exact taken made isMade serials
  · exact taken made isMade serials
  · rw [serials]

theorem Change.live_other (change : Change makes context next) (sound : context.objects.Sound) (other : ¬ makes type)
    {wireId parentId nativeBits : UInt64} (typed : handleType wireId = type)
    (live : next.Live wireId parentId nativeBits) :
    context.Live wireId parentId nativeBits := by
  rcases change with ⟨objects, _⟩ | ⟨_, _, objects, _⟩ | ⟨made, isMade, _, _, inserted, _⟩ | ⟨_, _, _, removed, _⟩
  · rw [Live, objects] at live
    exact live
  · rw [Live, objects] at live
    exact live
  · obtain ⟨_, _, formed, _, _, entries⟩ := sound.insert_ok inserted
    rcases (entries _ _ _).mp live with old | ⟨same, _, _⟩
    · exact old
    · have isType : handleType (context.takeSerial made).1 = made :=
        handleType_handleId (handleIsWellFormed_ne_zero formed)
      rw [same, isType] at typed
      rw [typed] at isMade
      exact absurd isMade other
  · exact ((sound.remove_ok removed).2.2.2.2 _ _ _).mp live |>.1

theorem Changes.other (changes : Changes makes context next) (other : ¬ makes type) :
    next.nextSerial type = context.nextSerial type := by
  induction changes with
  | refl => rfl
  | tail _ change ih => exact (change.other other).trans ih

theorem Change.unlists (change : Change makes context next) : Unlists makes context next := by
  rcases change with ⟨_, _, unlists⟩ | ⟨_, _, _, _, unlists⟩ | ⟨_, _, _, _, _, _, unlists⟩ | ⟨_, _, _, _, _, unlists⟩
  · exact unlists
  · exact unlists
  · exact unlists
  · exact unlists

theorem Changes.unlists (changes : Changes makes context next) : Unlists makes context next := by
  induction changes with
  | refl => exact .of_eq rfl
  | tail _ change ih => exact ih.trans change.unlists

theorem Changes.live_other (changes : Changes makes context next) (sound : context.objects.Sound) (other : ¬ makes type)
    {wireId parentId nativeBits : UInt64} (typed : handleType wireId = type)
    (live : next.Live wireId parentId nativeBits) : context.Live wireId parentId nativeBits := by
  induction changes with
  | refl => exact live
  | tail before change ih => exact ih (change.live_other (Changes.sound before sound) other typed live)

end ObjectContext

end VulkanBridge
