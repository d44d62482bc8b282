import VulkanBridge.MetadataPairing

/-!
Handles that a call keeps. A set of live handles is spared by every call but
those that tear down one of them or its owner, so what the service keeps about
a handle elsewhere can be followed through runs.
-/

namespace VulkanBridge

open HandleTable

def ObjectType.durable : ObjectType → Bool
  | .device | .deviceMemory | .descriptorPool | .descriptorSet => true
  | _ => false

namespace ObjectContext

/-- The handles that `spared` selects, by id and parent, are still live. -/
structure Spares (spared : UInt64 → UInt64 → Prop) (context next : ObjectContext) : Prop where
  sound : next.objects.Sound
  capacity : next.objects.capacity = context.objects.capacity
  kept : ∀ wireId parentId nativeBits, spared wireId parentId → context.Live wireId parentId nativeBits →
    next.Live wireId parentId nativeBits

def Durable (spared : UInt64 → UInt64 → Prop) : Prop :=
  ∀ wireId parentId, spared wireId parentId → (handleType wireId).durable = true

variable {driver : ObjectDriver} {context next : ObjectContext} {spared : UInt64 → UInt64 → Prop}
  {wireId parentId nativeBits : UInt64} {type : ObjectType}

namespace Spares

theorem refl (sound : context.objects.Sound) : Spares spared context context :=
  ⟨sound, rfl, fun _ _ _ _ live => live⟩

theorem trans {between : ObjectContext} (first : Spares spared context between)
    (second : Spares spared between next) : Spares spared context next :=
  ⟨second.sound, second.capacity.trans first.capacity,
    fun wireId parentId nativeBits some live =>
      second.kept wireId parentId nativeBits some (first.kept wireId parentId nativeBits some live)⟩

/-- The live entries stay the same. -/
theorem of_live (sound : next.objects.Sound) (capacity : next.objects.capacity = context.objects.capacity)
    (live : ∀ id parent bits, next.objects.Live id parent bits ↔ context.objects.Live id parent bits) :
    Spares spared context next :=
  ⟨sound, capacity, fun _ _ _ _ held => (live _ _ _).mpr held⟩

theorem of_eq (sound : context.objects.Sound) (objects : next.objects = context.objects) :
    Spares spared context next := by
  refine of_live ?_ ?_ ?_
  · rw [objects]
    exact sound
  · rw [objects]
  · intro id parent bits
    rw [objects]

theorem andThen {last : ObjectContext} (spares : Spares spared context next) (objects : last.objects = next.objects) :
    Spares spared context last :=
  spares.trans (of_eq spares.sound objects)

theorem insert (sound : context.objects.Sound) {objects : HandleTable} (held : next.objects = objects)
    (inserted : context.objects.insert wireId parentId nativeBits = .ok objects) : Spares spared context next := by
  subst held
  obtain ⟨kept, capacity, -, -, -, live⟩ := sound.insert_ok inserted
  exact ⟨kept, capacity, fun _ _ _ _ old => (live _ _ _).mpr (Or.inl old)⟩

theorem removeHandle (sound : context.objects.Sound) (wireId : UInt64) (type : ObjectType)
    (doomed : ∀ parentId nativeBits, handleType wireId = type → context.Live wireId parentId nativeBits →
      ¬ spared wireId parentId) : Spares spared context (context.removeHandle wireId type).2 := by
  unfold ObjectContext.removeHandle
  split
  · exact refl sound
  · rename_i bits objects removed
    obtain ⟨kept, shrinks, expects, -, live⟩ := sound.remove_ok removed
    refine ⟨kept, shrinks.capacity, ?_⟩
    intro id parent held some old
    refine (live _ _ _).mpr ⟨old, ?_⟩
    rintro rfl
    exact doomed parent held ((handleExpect_iff _ _).mp expects).2 old some

theorem removeOther (durable : Durable spared) (sound : context.objects.Sound) (wireId : UInt64)
    (type : ObjectType) (other : type.durable = false) :
    Spares spared context (context.removeHandle wireId type).2 := by
  refine removeHandle sound wireId type ?_
  rintro parentId nativeBits rfl - some
  rw [durable wireId parentId some] at other
  cases other

end Spares

/-! ## Creation -/

theorem registerChild_spares (sound : context.objects.Sound) (type : ObjectType) (order : SlotOrder)
    (parentId : UInt64) (native : NativeAnswer) :
    Spares spared context (context.registerChild type order parentId native).2 := by
  simp only [registerChild, takeSerial]
  split
  · exact .of_eq sound rfl
  · rename_i objects inserted
    split
    · exact .insert sound rfl inserted
    · split
      · exact .insert sound rfl inserted
      · obtain ⟨-, nonzero, -, -⟩ := insert_alive { context with objects := objects } sound inserted rfl
        obtain ⟨left, removed, kept, live⟩ := sound.insert_remove (handleType_handleId nonzero) inserted
        obtain ⟨held, capacity, -⟩ := sound.insert_ok inserted
        simp only [giveUp, ObjectContext.removeHandle, removed]
        exact .of_live kept (((held.remove_ok removed).2.1.capacity).trans capacity) live

theorem nativeCreate_spares (sound : context.objects.Sound) (type : ObjectType) (native : NativeAnswer) :
    Spares spared context (context.nativeCreate type native) :=
  .of_eq sound (by simp)

theorem createDeviceChild_spares (sound : context.objects.Sound) (type : ObjectType) (order : SlotOrder)
    (deviceId : UInt64) (fields : Verdict) (references : UInt64 → Verdict) (native : NativeAnswer) :
    Spares spared context (context.createDeviceChild driver type order deviceId fields references native).2 := by
  have created : Spares spared context (context.nativeCreate type native) := nativeCreate_spares sound type native
  unfold createDeviceChild
  split
  · exact .refl sound
  split
  · exact .refl sound
  split
  · exact .refl sound
  split
  · exact .refl sound
  split
  · exact .refl sound
  split
  · exact .refl sound
  split
  · exact created.andThen rfl
  · exact created.trans (registerChild_spares created.sound type order deviceId native)

theorem createImageView_spares (sound : context.objects.Sound) (deviceId imageId : UInt64) (fields range : Verdict)
    (native : NativeAnswer) :
    Spares spared context (context.createImageView driver deviceId imageId fields range native).2 := by
  have created : Spares spared context (context.nativeCreate .imageView native) :=
    nativeCreate_spares sound .imageView native
  unfold createImageView
  repeat' split
  all_goals first
    | exact .refl sound
    | exact created.trans (registerChild_spares created.sound _ _ _ native)

theorem allocateCommandBuffer_spares (sound : context.objects.Sound) (commandPoolId : UInt64) (fields : Verdict)
    (native : NativeAnswer) :
    Spares spared context (context.allocateCommandBuffer driver commandPoolId fields native).2 := by
  have created : Spares spared context (context.nativeCreate .commandBuffer native) :=
    nativeCreate_spares sound .commandBuffer native
  unfold allocateCommandBuffer
  repeat' split
  all_goals first
    | exact .refl sound
    | exact created.trans (registerChild_spares created.sound _ _ _ native)

theorem insertDescriptorSets_spares (descriptorPoolId : UInt64) (sets : List UInt64) :
    ∀ (ids : List UInt64) (context : ObjectContext), context.objects.Sound →
      Spares spared context (insertDescriptorSets descriptorPoolId sets ids context).2 := by
  induction sets with
  | nil => intro ids context sound; exact .refl sound
  | cons set rest ih =>
      intro ids context sound
      simp only [insertDescriptorSets, takeSerial]
      split
      · exact .of_eq sound rfl
      · rename_i objects inserted
        refine Spares.trans (.insert sound rfl inserted) (ih _ _ ?_)
        exact (sound.insert_ok inserted).1

theorem allocateDescriptorSets_spares (sound : context.objects.Sound) (descriptorPoolId : UInt64)
    (setLayoutIds : List UInt64) (result : VulkanResult) (sets : Nat → UInt64) :
    Spares spared context (context.allocateDescriptorSets driver descriptorPoolId setLayoutIds result sets).2 := by
  unfold allocateDescriptorSets
  repeat' split
  all_goals first
    | exact .refl sound
    | exact insertDescriptorSets_spares _ _ _ _ sound

theorem createInstance_spares (sound : context.objects.Sound) (fields : Verdict) (native : NativeAnswer)
    (destroyFound procFound : Bool) :
    Spares spared context (context.createInstance fields native destroyFound procFound).2 := by
  have created : Spares spared context (context.nativeCreate .inst native) := nativeCreate_spares sound .inst native
  simp only [createInstance]
  split
  · exact .refl sound
  split
  · exact .refl sound
  split
  · exact .refl sound
  split
  · exact created
  split
  · exact created.andThen rfl
  · refine (created.andThen ?_).trans (registerChild_spares ?_ .inst .none 0 native)
    · rfl
    · exact created.sound

theorem registerBorrowed_spares (sound : context.objects.Sound) (type : ObjectType) (parentId nativeBits : UInt64) :
    Spares spared context (context.registerBorrowed type parentId nativeBits).2 := by
  simp only [registerBorrowed, takeSerial]
  split
  · exact .refl sound
  split
  · exact .of_eq sound rfl
  · rename_i objects inserted
    exact .insert sound rfl inserted

theorem registerPhysicalDevices_spares (instanceId : UInt64) (result : VulkanResult) (natives : List UInt64) :
    ∀ (ids : List UInt64) (context : ObjectContext), context.objects.Sound →
      Spares spared context (registerPhysicalDevices instanceId result natives ids context).2 := by
  induction natives with
  | nil => intro ids context sound; exact .refl sound
  | cons nativeBits rest ih =>
      intro ids context sound
      have registered : Spares spared context
          (context.registerBorrowed .physicalDevice instanceId nativeBits).2 :=
        registerBorrowed_spares sound .physicalDevice instanceId nativeBits
      simp only [registerPhysicalDevices]
      split
      · rename_i code next outcome
        rw [outcome] at registered
        exact registered
      · rename_i wireId next outcome
        rw [outcome] at registered
        exact registered.trans (ih _ _ registered.sound)

theorem enumeratePhysicalDevices_spares (sound : context.objects.Sound) (instanceId : UInt64) (answer : Verdict)
    (result : VulkanResult) (natives : List UInt64) :
    Spares spared context (context.enumeratePhysicalDevices instanceId answer result natives).2 := by
  unfold enumeratePhysicalDevices
  repeat' split
  all_goals first
    | exact .refl sound
    | exact registerPhysicalDevices_spares _ _ _ _ _ sound

theorem getDeviceQueue_spares (sound : context.objects.Sound) (deviceId : UInt64)
    (queueFamilyIndex queueIndex : UInt32) (present : Bool) (queue : UInt64) :
    Spares spared context (context.getDeviceQueue deviceId queueFamilyIndex queueIndex present queue).2 := by
  have registered : Spares spared context (context.registerBorrowed .queue deviceId queue).2 :=
    registerBorrowed_spares sound .queue deviceId queue
  unfold getDeviceQueue
  split
  · exact .refl sound
  split
  · exact .refl sound
  split
  · exact .refl sound
  split
  · exact .refl sound
  split
  · exact .refl sound
  split
  · rename_i code next outcome
    rw [outcome] at registered
    exact registered
  · rename_i queueId next outcome
    rw [outcome] at registered
    exact registered

theorem createDevice_spares (sound : context.objects.Sound) (physicalDeviceId : UInt64) (fields queues : Verdict)
    (infos : List QueueCreateInfo) (native : NativeAnswer) :
    Spares spared context (context.createDevice driver physicalDeviceId fields queues infos native).2 := by
  have created : Spares spared context (context.nativeCreate .device native) :=
    nativeCreate_spares sound .device native
  simp only [createDevice, takeSerial]
  split
  · exact .refl sound
  split
  · exact .refl sound
  split
  · exact .refl sound
  split
  · exact .refl sound
  split
  · exact .refl sound
  split
  · exact created
  split
  · exact created.andThen rfl
  split
  · exact created.andThen rfl
  · rename_i objects inserted
    have held : Spares spared (context.nativeCreate .device native)
        { context.nativeCreate .device native with objects := objects } := .insert created.sound rfl inserted
    exact (created.trans held).andThen rfl

/-! ## Teardown -/

/-- A sweep spares what each of its acts does. The acts may rely on a property
that no removal takes away. -/
theorem sweep_spares (selects : ObjectContext → HandleEntry → Bool) (act : ObjectContext → UInt64 → Completed)
    (steady : ObjectContext → Prop)
    (acts : ∀ current index, current.objects.Sound → steady current → index < current.objects.capacity →
      selects current (current.objects.entries index) = true →
      Spares spared current (act current (current.objects.entries index).wireId).2 ∧
        steady (act current (current.objects.entries index).wireId).2) :
    ∀ remaining index (context : ObjectContext), context.objects.Sound → steady context →
      index + remaining ≤ context.objects.capacity →
      Spares spared context (sweep selects act remaining index context).2 := by
  intro remaining
  induction remaining with
  | zero => intro index context sound _ _; exact .refl sound
  | succ remaining ih =>
      intro index context sound calm bound
      simp only [sweep]
      by_cases selected : selects context (context.objects.entries index) = true
      · obtain ⟨first, still⟩ := acts context index sound calm (by omega) selected
        rw [if_pos selected]
        split
        · rename_i code last outcome
          rw [outcome] at first
          exact first
        · rename_i nothing last outcome
          rw [outcome] at first still
          refine first.trans (ih (index + 1) last first.sound still ?_)
          rw [first.capacity]
          omega
      · rw [if_neg selected]
        exact ih (index + 1) context sound calm (by omega)

theorem sweepChildren_spares (sound : context.objects.Sound) (isType : type ≠ .invalid) (parentId : UInt64)
    (act : ObjectContext → UInt64 → Completed) (steady : ObjectContext → Prop) (calm : steady context)
    (acts : ∀ current childId childBits, current.objects.Sound → steady current → handleType childId = type →
      current.Live childId parentId childBits →
      Spares spared current (act current childId).2 ∧ steady (act current childId).2) :
    Spares spared context (context.sweepChildren type parentId act).2 := by
  refine sweep_spares (fun _ => isChild type parentId) act steady ?_ _ _ context sound calm (by omega)
  intro current index kept still bound selected
  have live := kept.live_of_type bound (isChild_typed isType selected)
  simp only [isChild, Bool.and_eq_true, beq_iff_eq] at selected
  rw [selected.2] at live
  exact acts current _ _ kept still selected.1 live

theorem removeChildren_spares (sound : context.objects.Sound) (children : Option ObjectType) (objectId : UInt64)
    (typed : ∀ child, children = some child → child ≠ .invalid)
    (doomed : ∀ child childId childBits, children = some child → handleType childId = child →
      context.Live childId objectId childBits → ¬ spared childId objectId) :
    Spares spared context (context.removeChildren children objectId).2 := by
  unfold removeChildren
  split
  · exact .refl sound
  · rename_i child
    refine sweepChildren_spares sound (typed child rfl) objectId _
      (fun current => Shrinks context.objects current.objects) (Shrinks.refl _) ?_
    intro current childId childBits kept shrinks isChild live
    have receded : Recedes .invalid current (current.removeHandle childId child).2 :=
      .removeHandle current childId (typed child rfl)
    refine ⟨.removeHandle kept childId child ?_, shrinks.trans receded.shrinks⟩
    intro owner bits _ again
    obtain ⟨rfl, -⟩ := kept.live_unique again live
    exact doomed child childId childBits rfl isChild (Live.of_shrinks shrinks live)

theorem destroyDeviceChild_spares (sound : context.objects.Sound) (type : ObjectType) (busy : Bool)
    (children : Option ObjectType) (objectId : UInt64) (typed : ∀ child, children = some child → child ≠ .invalid)
    (unspared : ∀ parentId nativeBits, busy = false → handleType objectId = type →
      context.Live objectId parentId nativeBits → ¬ spared objectId parentId)
    (doomed : ∀ child childId childBits, children = some child → handleType childId = child →
      context.Live childId objectId childBits → ¬ spared childId objectId) :
    Spares spared context (context.destroyDeviceChild driver type busy children objectId).2 := by
  unfold destroyDeviceChild
  split
  · exact .refl sound
  split
  · exact .refl sound
  rename_i free
  split
  · exact .refl sound
  have emptied := removeChildren_spares sound children objectId typed doomed
  have receded : Recedes .invalid context (context.removeChildren children objectId).2 :=
    removeChildren_recedes context children objectId typed
  split
  · rename_i code next outcome
    rw [outcome] at emptied
    exact emptied
  rename_i nothing next outcome
  rw [outcome] at emptied receded
  have removed : Spares spared next (next.removeHandle objectId type).2 := by
    refine .removeHandle emptied.sound objectId type ?_
    intro owner bits isType live
    exact unspared owner bits (by simpa using free) isType (Live.of_shrinks receded.shrinks live)
  split
  · rename_i code last refused
    rw [refused] at removed
    exact emptied.trans removed
  · rename_i nothing last done
    rw [done] at removed
    exact (emptied.trans removed).andThen (by simp)

theorem destroyDeviceChild_other (sound : context.objects.Sound) (busy : Bool) (children : Option ObjectType)
    (objectId : UInt64) (other : handleType objectId ≠ type) :
    (context.destroyDeviceChild driver type busy children objectId).2.objects = context.objects := by
  unfold destroyDeviceChild
  split
  · rfl
  · rename_i deviceId device bits resolved
    unfold resolveDeviceChild at resolved
    split at resolved
    · cases resolved
    · rename_i found
      exact absurd ((handleExpect_iff _ _).mp (sound.lookup_eq_ok.mp found).1).2 other

theorem destroyOther_spares (durable : Durable spared) (sound : context.objects.Sound) (type : ObjectType)
    (busy : Bool) (children : Option ObjectType) (objectId : UInt64) (other : type.durable = false)
    (others : ∀ child, children = some child → child ≠ .invalid ∧ child.durable = false) :
    Spares spared context (context.destroyDeviceChild driver type busy children objectId).2 := by
  refine destroyDeviceChild_spares sound type busy children objectId (fun child isChild => (others child isChild).1)
    ?_ ?_
  · rintro owner bits - rfl - some
    rw [durable objectId owner some] at other
    cases other
  · rintro child childId bits isChild rfl - some
    have never := (others _ isChild).2
    rw [durable childId objectId some] at never
    cases never

theorem destroyImageView_spares (durable : Durable spared) (sound : context.objects.Sound) (imageViewId : UInt64) :
    Spares spared context (context.destroyImageView driver imageViewId).2 := by
  have removed : Spares spared context (context.removeHandle imageViewId .imageView).2 :=
    .removeOther durable sound imageViewId .imageView rfl
  unfold destroyImageView
  split
  · exact .refl sound
  split
  · exact .refl sound
  split
  · exact .refl sound
  split
  · rename_i code next outcome
    rw [outcome] at removed
    exact removed
  · rename_i nothing next outcome
    rw [outcome] at removed
    exact removed.andThen rfl

theorem freeCommandBuffer_spares (durable : Durable spared) (sound : context.objects.Sound)
    (commandPoolId commandBufferId : UInt64) :
    Spares spared context (context.freeCommandBuffer driver commandPoolId commandBufferId).2 := by
  unfold freeCommandBuffer
  split
  · exact .refl sound
  split
  · exact .refl sound
  split
  · exact .refl sound
  split
  · exact .refl sound
  · rename_i bits _ _ _ _ _ _ _ _
    have freed : Spares spared context (context.nativeDestroy .commandBuffer bits) := .of_eq sound rfl
    exact freed.trans (.removeOther durable freed.sound commandBufferId .commandBuffer rfl)

theorem resetDescriptorPool_spares (sound : context.objects.Sound) (descriptorPoolId : UInt64) (fields : Verdict)
    (present : Bool) (result : VulkanResult)
    (doomed : ∀ setId setBits, handleType setId = .descriptorSet → context.Live setId descriptorPoolId setBits →
      ¬ spared setId descriptorPoolId) :
    Spares spared context (context.resetDescriptorPool descriptorPoolId fields present result).2 := by
  have emptied : Spares spared context (context.removeChildren (some .descriptorSet) descriptorPoolId).2 := by
    refine removeChildren_spares sound _ descriptorPoolId ?_ ?_
    · rintro child ⟨⟩
      decide
    · rintro child childId bits ⟨⟩ isSet live
      exact doomed childId bits isSet live
  unfold resetDescriptorPool
  split
  · exact .refl sound
  split
  · exact .refl sound
  split
  · exact .refl sound
  split
  · exact .refl sound
  split
  · rename_i code next outcome
    rw [outcome] at emptied
    exact emptied
  · rename_i nothing next outcome
    rw [outcome] at emptied
    exact emptied

theorem nativeDestroyFound_spares (sound : context.objects.Sound) (found : Bool) (type : ObjectType) (handle : UInt64) :
    Spares spared context (context.nativeDestroyFound found type handle) := by
  unfold nativeDestroyFound
  split
  · exact .of_eq sound rfl
  · exact .refl sound

theorem removeSwapchainImage_spares (durable : Durable spared) (sound : context.objects.Sound) (imageId : UInt64) :
    Spares spared context (context.removeSwapchainImage imageId).2 := by
  unfold removeSwapchainImage
  split
  · exact .refl sound
  · have cleared : Spares spared context (context.clearMetadata .image imageId) := .of_eq sound (by simp)
    exact cleared.trans (.removeOther durable cleared.sound imageId .image rfl)

theorem removeSwapchainHandle_spares (durable : Durable spared) (sound : context.objects.Sound)
    (swapchainId : UInt64) : Spares spared context (context.removeSwapchainHandle swapchainId).2 := by
  unfold removeSwapchainHandle
  split
  · exact .refl sound
  · exact .removeOther durable sound swapchainId .swapchain rfl

theorem destroySwapchainImages_spares (driver : ObjectDriver) (durable : Durable spared) (loaded : Bool)
    (device : UInt64)
    (images : List SwapchainImage) : ∀ (status : Option Errno) (context : ObjectContext), context.objects.Sound →
      Spares spared context (context.destroySwapchainImages driver loaded device images status).2 := by
  induction images with
  | nil => intro status context sound; exact .refl sound
  | cons image rest ih =>
      intro status context sound
      simp only [destroySwapchainImages]
      have removed := removeSwapchainImage_spares durable sound image.imageId
      have imageless := removed.trans (nativeDestroyFound_spares removed.sound
        (loaded && driver.destroys device .image) .image image.image)
      have bare := imageless.trans (nativeDestroyFound_spares imageless.sound
        (loaded && driver.destroys device .deviceMemory) .deviceMemory image.memory)
      exact bare.trans (ih _ _ bare.sound)

theorem destroySwapchainMetadata_spares (driver : ObjectDriver) (durable : Durable spared)
    (sound : context.objects.Sound) (slot : Nat) (swapchain : SwapchainMetadata) :
    Spares spared context (context.destroySwapchainMetadata driver slot swapchain).2 := by
  simp only [destroySwapchainMetadata]
  generalize (context.hasGetDeviceProcAddr && swapchain.device != 0) = loaded
  have unfenced : Spares spared context (context.nativeDestroyFound
      (loaded && driver.destroys swapchain.device .fence) .fence swapchain.presentCompletion) :=
    nativeDestroyFound_spares sound _ _ _
  have unpooled := unfenced.trans (nativeDestroyFound_spares unfenced.sound
    (loaded && driver.destroys swapchain.device .commandPool) .commandPool swapchain.producerCommandPool)
  have imageless := unpooled.trans (destroySwapchainImages_spares driver durable loaded swapchain.device
    swapchain.images (driver.stopStatus slot) _ unpooled.sound)
  exact imageless.trans (removeSwapchainHandle_spares durable imageless.sound swapchain.swapchainId)

theorem destroySwapchainSlot_spares (driver : ObjectDriver) (durable : Durable spared)
    (sound : context.objects.Sound) (slot : Nat) :
    Spares spared context (context.destroySwapchainSlot driver slot).2 := by
  have torn := destroySwapchainMetadata_spares driver durable sound slot (context.swapchains.getD slot .zero)
  exact torn.andThen rfl

theorem abandonSwapchain_spares (driver : ObjectDriver) (durable : Durable spared) (sound : context.objects.Sound)
    (slot : Nat) (swapchain : SwapchainMetadata) (reply : Except Errno ObjectReply) :
    Spares spared context (context.abandonSwapchain driver slot swapchain reply).2 :=
  (destroySwapchainMetadata_spares driver durable sound slot swapchain).andThen rfl

theorem destroySwapchain_spares (durable : Durable spared) (sound : context.objects.Sound) (swapchainId : UInt64) :
    Spares spared context (context.destroySwapchain driver swapchainId).2 := by
  unfold destroySwapchain
  split
  · exact .refl sound
  split
  · exact .refl sound
  · exact destroySwapchainSlot_spares driver durable sound _

theorem prepareSwapchainImages_spares (answers : Nat → SwapchainImageAnswers) (deviceId : UInt64) :
    ∀ remaining index images (context : ObjectContext), context.objects.Sound →
      Spares spared context (prepareSwapchainImages answers deviceId remaining index images context).2 := by
  intro remaining
  induction remaining with
  | zero => intro index images context sound; exact .refl sound
  | succ remaining ih =>
      intro index images context sound
      have imaged : Spares spared context (context.nativeCreate .image (answers index).image) :=
        nativeCreate_spares sound .image (answers index).image
      have backed := imaged.trans (nativeCreate_spares imaged.sound .deviceMemory (answers index).memory)
      simp only [prepareSwapchainImages, takeSerial]
      split
      · exact .refl sound
      split
      · exact imaged
      split
      · exact imaged
      split
      · exact backed
      split
      · exact backed
      split
      · exact backed.andThen rfl
      rename_i objects inserted
      obtain ⟨held, capacity, -⟩ := backed.sound.insert_ok inserted
      split
      · obtain ⟨-, nonzero, -, -⟩ := insert_alive { context with objects := objects } backed.sound inserted rfl
        obtain ⟨left, removed, kept, live⟩ := backed.sound.insert_remove (handleType_handleId nonzero) inserted
        simp only [ObjectContext.removeHandle, removed]
        exact backed.trans (.of_live kept (((held.remove_ok removed).2.1.capacity).trans capacity) live)
      · refine backed.trans (.trans (.insert backed.sound rfl inserted) (ih _ _ _ ?_))
        exact held

theorem registerSwapchain_spares (durable : Durable spared) (sound : context.objects.Sound) (slot : Nat)
    (duplicated : Option Errno) (swapchain : SwapchainMetadata) :
    Spares spared context (context.registerSwapchain driver slot duplicated swapchain).2 := by
  simp only [registerSwapchain, takeSerial]
  split
  · exact abandonSwapchain_spares driver durable sound slot _ _
  split
  · refine Spares.trans ?_ (abandonSwapchain_spares driver durable ?_ slot _ _)
    · exact .of_eq sound rfl
    · exact sound
  · rename_i objects inserted
    exact .insert sound rfl inserted

theorem prepareSwapchain_spares (durable : Durable spared) (sound : context.objects.Sound) (deviceId : UInt64)
    (minImageCount : Nat) (fields : Verdict) (answers : SwapchainAnswers) :
    Spares spared context (context.prepareSwapchain driver deviceId minImageCount fields answers).2 := by
  unfold prepareSwapchain
  split
  · exact .refl sound
  split
  · exact .refl sound
  split
  · exact .refl sound
  rename_i slot _
  have start : Spares spared context (context.setSwapchain slot .zero) := .of_eq sound rfl
  split
  · exact start
  rename_i physicalId device _
  split
  · exact start
  split
  · exact start
  split
  · exact start.trans (abandonSwapchain_spares driver durable start.sound slot _ _)
  have frame := createSwapchainProducerResources_frame (context.setSwapchain slot .zero) answers
    ⟨0, deviceId, device, 0, [], 0, []⟩
  dsimp only
  split
  · rename_i code swapchain next outcome
    rw [outcome] at frame
    have produced : Spares spared context next := start.andThen frame.1
    exact produced.trans (abandonSwapchain_spares driver durable produced.sound slot _ _)
  · rename_i swapchain next outcome
    rw [outcome] at frame
    have produced : Spares spared context next := start.andThen frame.1
    have imaged := produced.trans
      (prepareSwapchainImages_spares answers.images deviceId minImageCount 0 [] next produced.sound)
    split
    · exact imaged.trans (abandonSwapchain_spares driver durable imaged.sound slot _ _)
    · exact imaged.trans (registerSwapchain_spares durable imaged.sound slot _ _)

/-! ## Devices and instances -/

/-- A device that owns none of the spared handles. -/
def Apart (spared : UInt64 → UInt64 → Prop) (deviceId : UInt64) (context : ObjectContext) : Prop :=
  ∀ wireId parentId nativeBits, spared wireId parentId → context.Live wireId parentId nativeBits →
    wireId ≠ deviceId ∧
      (handleType wireId = .descriptorPool ∨ handleType wireId = .deviceMemory → parentId ≠ deviceId) ∧
      (handleType wireId = .descriptorSet → ∀ upId upBits, context.Live parentId upId upBits → upId ≠ deviceId)

theorem Apart.of_shrinks {deviceId : UInt64} (apart : Apart spared deviceId context)
    (shrinks : Shrinks context.objects next.objects) : Apart spared deviceId next := by
  intro wireId parentId nativeBits some live
  obtain ⟨other, outside, above⟩ := apart wireId parentId nativeBits some (Live.of_shrinks shrinks live)
  exact ⟨other, outside, fun isSet upId upBits up => above isSet upId upBits (Live.of_shrinks shrinks up)⟩

theorem runStages_spares {stages : List (ObjectContext → Completed)} (steady : ObjectContext → Prop)
    (each : ∀ stage ∈ stages, ∀ current : ObjectContext, current.objects.Sound → steady current →
      Spares spared current (stage current).2 ∧ steady (stage current).2) :
    ∀ context : ObjectContext, context.objects.Sound → steady context →
      Spares spared context (runStages stages context).2 := by
  induction stages with
  | nil => intro context sound _; exact .refl sound
  | cons stage rest ih =>
      intro context sound calm
      obtain ⟨first, still⟩ := each stage (by simp) context sound calm
      simp only [runStages]
      split
      · rename_i code last outcome
        rw [outcome] at first
        exact first
      · rename_i nothing last outcome
        rw [outcome] at first still
        exact first.trans (ih (fun other member => each other (by simp [member])) last first.sound still)

theorem destroyPool_spares (sound : context.objects.Sound) (poolId : UInt64)
    (doomed : ∀ wireId parentId nativeBits, spared wireId parentId → context.Live wireId parentId nativeBits →
      wireId ≠ poolId ∧ (handleType wireId = .descriptorSet → parentId ≠ poolId)) :
    Spares spared context (context.destroyDescriptorPool driver poolId).2 := by
  refine destroyDeviceChild_spares sound .descriptorPool false _ poolId ?_ ?_ ?_
  · rintro child ⟨⟩
    decide
  · intro parentId nativeBits _ _ live some
    exact (doomed poolId parentId nativeBits some live).1 rfl
  · rintro child childId childBits ⟨⟩ isSet live some
    exact (doomed childId poolId childBits some live).2 isSet rfl

theorem swept_spares (durable : Durable spared) {swept : ObjectType × (ObjectContext → UInt64 → Completed)}
    (member : swept ∈ sweptBeforeViews driver ++ sweptAfterViews driver) {deviceId childId childBits : UInt64}
    {current : ObjectContext} (sound : current.objects.Sound) (apart : Apart spared deviceId current)
    (isChild : handleType childId = swept.1) (live : current.Live childId deviceId childBits) :
    Spares spared current (swept.2 current childId).2 := by
  have leaf : ∀ (type : ObjectType) (busy : Bool), type.durable = false →
      Spares spared current (current.destroyDeviceChild driver type busy none childId).2 :=
    fun type busy other => destroyOther_spares durable sound type busy none childId other
      (fun _ isChild => nomatch isChild)
  have unspared : ∀ {type : ObjectType}, handleType childId = type → type = .descriptorPool ∨ type = .deviceMemory →
      ∀ parentId nativeBits, current.Live childId parentId nativeBits → ¬ spared childId parentId := by
    rintro type rfl isOwned parentId nativeBits again some
    obtain ⟨rfl, -⟩ := sound.live_unique again live
    exact (apart childId parentId nativeBits some again).2.1 isOwned rfl
  simp only [sweptBeforeViews, sweptAfterViews, List.cons_append, List.nil_append, List.mem_cons,
    List.not_mem_nil, or_false] at member
  rcases member with rfl | rfl | rfl | rfl | rfl | rfl | rfl | rfl | rfl | rfl | rfl | rfl | rfl | rfl
  case inr.inr.inr.inl =>
    refine destroyPool_spares sound childId ?_
    intro wireId parentId nativeBits some held
    refine ⟨?_, ?_⟩
    · rintro rfl
      exact unspared isChild (Or.inl rfl) parentId nativeBits held some
    · rintro isSet rfl
      exact (apart wireId parentId nativeBits some held).2.2 isSet deviceId childBits live rfl
  case inr.inr.inr.inr.inr.inr.inr.inl =>
    refine destroyOther_spares durable sound .commandPool false _ childId rfl ?_
    rintro child ⟨⟩
    exact ⟨by simp, rfl⟩
  case inr.inr.inr.inr.inr.inr.inr.inr.inr.inr.inl =>
    refine destroyDeviceChild_spares sound .deviceMemory _ none childId (fun _ isChild => nomatch isChild) ?_
      (fun _ _ _ isChild => nomatch isChild)
    intro parentId nativeBits _ isType again
    exact unspared isType (Or.inr rfl) parentId nativeBits again
  case inr.inr.inr.inr.inr.inr.inr.inr.inr.inr.inr.inr.inr =>
    exact .removeOther durable sound childId .queue rfl
  all_goals exact leaf _ _ rfl

theorem destroyDeviceStages_spares (driver : ObjectDriver) (durable : Durable spared) (deviceId : UInt64) :
    ∀ stage ∈ destroyDeviceStages driver deviceId, ∀ current : ObjectContext, current.objects.Sound →
      Apart spared deviceId current → Spares spared current (stage current).2 ∧
        Apart spared deviceId (stage current).2 := by
  intro stage member current sound apart
  have receded : Recedes .inst current (stage current).2 :=
    destroyDeviceStages_recedes driver (Or.inr rfl) deviceId stage member current
  refine ⟨?_, apart.of_shrinks receded.shrinks⟩
  have children : ∀ swept ∈ sweptBeforeViews driver ++ sweptAfterViews driver,
      Spares spared current (current.sweepChildren swept.1 deviceId swept.2).2 := by
    intro swept listed
    refine sweepChildren_spares sound (swept_tearsDown listed).1 deviceId swept.2 (Apart spared deviceId) apart ?_
    intro later childId childBits kept still isChild live
    have between : Recedes .inst later (swept.2 later childId).2 := swept_recedes (Or.inr rfl) listed later childId
    exact ⟨swept_spares durable listed kept still isChild live, still.of_shrinks between.shrinks⟩
  simp only [destroyDeviceStages, List.mem_append, List.mem_map, List.mem_singleton] at member
  rcases member with ((⟨slot, -, rfl⟩ | ⟨swept, before, rfl⟩) | rfl) | ⟨swept, after, rfl⟩
  · dsimp only [destroyDeviceSwapchain]
    split
    · exact destroySwapchainSlot_spares driver durable sound slot
    · exact .refl sound
  · exact children swept (List.mem_append_left _ before)
  · refine sweep_spares _ _ (fun _ => True) ?_ _ _ current sound trivial (by omega)
    intro later index kept _ _ _
    exact ⟨destroyImageView_spares durable kept _, trivial⟩
  · exact children swept (List.mem_append_right _ after)

theorem destroyDevice_spares (durable : Durable spared) (sound : context.objects.Sound) (deviceId : UInt64)
    (apart : ∀ device, context.destroyDeviceChecks driver deviceId = .ok device → Apart spared deviceId context) :
    Spares spared context (context.destroyDevice driver deviceId).2 := by
  unfold destroyDevice
  split
  · exact .refl sound
  rename_i device admitted
  have outside := apart device admitted
  have bare := runStages_spares (Apart spared deviceId) (destroyDeviceStages_spares driver durable deviceId)
    context sound outside
  have receded : Recedes .inst context (runStages (destroyDeviceStages driver deviceId) context).2 :=
    runStages_recedes (destroyDeviceStages_recedes driver (Or.inr rfl) deviceId) context
  split
  · rename_i code next outcome
    rw [outcome] at bare
    exact bare
  rename_i nothing next outcome
  rw [outcome] at bare receded
  have removed : Spares spared next (next.removeHandle deviceId .device).2 := by
    refine .removeHandle bare.sound deviceId .device ?_
    intro parentId nativeBits _ live some
    exact (outside.of_shrinks receded.shrinks deviceId parentId nativeBits some live).1 rfl
  split
  · rename_i code last refused
    rw [refused] at removed
    exact bare.trans removed
  · rename_i nothing last done
    rw [done] at removed
    exact (bare.trans removed).andThen (by simp)

theorem destroyDeviceChecks_recedes {kept : ObjectType} {deviceId device : UInt64} (sound : context.objects.Sound)
    (later : next.objects.Sound) (receded : Recedes kept context next)
    (admitted : next.destroyDeviceChecks driver deviceId = .ok device) :
    context.destroyDeviceChecks driver deviceId = .ok device := by
  unfold destroyDeviceChecks at admitted ⊢
  rw [receded.loaded, receded.mirrors] at admitted
  split at admitted
  · cases admitted
  · rename_i loaded
    rw [if_neg loaded]
    split at admitted
    · cases admitted
    · rename_i physicalId bits found
      obtain ⟨expects, live⟩ := later.lookup_eq_ok.mp found
      rw [sound.lookup_eq_ok.mpr ⟨expects, Live.of_shrinks receded.shrinks live⟩]
      exact admitted

def InstanceApart (spared : UInt64 → UInt64 → Prop) (driver : ObjectDriver) (instanceId : UInt64)
    (context : ObjectContext) : Prop :=
  ∀ deviceId physicalId device deviceBits physicalBits, context.Live deviceId physicalId deviceBits →
    handleType physicalId = .physicalDevice → context.Live physicalId instanceId physicalBits →
    context.destroyDeviceChecks driver deviceId = .ok device → Apart spared deviceId context

theorem sweepDevices_spares (durable : Durable spared) (sound : context.objects.Sound) (instanceId : UInt64)
    (apart : InstanceApart spared driver instanceId context) :
    Spares spared context (context.sweepDevices driver instanceId).2 := by
  refine sweep_spares _ _ (Recedes .inst context) ?_ _ _ context sound (Recedes.refl _ context) (by omega)
  intro current index kept receded bound selected
  have owned : current.ownsDevice instanceId (current.objects.entries index) = true := selected
  simp only [ownsDevice, Bool.and_eq_true, beq_iff_eq] at owned
  obtain ⟨isDevice, isOwner⟩ := owned
  have live := kept.live_of_type bound (by rw [isDevice]; decide)
  refine ⟨destroyDevice_spares durable kept _ ?_, receded.trans (destroyDevice_recedes current _).1⟩
  intro device admitted
  split at isOwner
  · cases isOwner
  · rename_i physicalParent physicalBits found
    simp only [beq_iff_eq] at isOwner
    subst isOwner
    obtain ⟨expects, physical⟩ := kept.lookup_eq_ok.mp found
    have outside := apart _ _ device _ _ (Live.of_shrinks receded.shrinks live) ((handleExpect_iff _ _).mp expects).2
      (Live.of_shrinks receded.shrinks physical) (destroyDeviceChecks_recedes sound kept receded admitted)
    exact outside.of_shrinks receded.shrinks

theorem destroyInstance_spares (durable : Durable spared) (sound : context.objects.Sound) (instanceId : UInt64)
    (apart : InstanceApart spared driver instanceId context) :
    Spares spared context (context.destroyInstance driver instanceId).2 := by
  unfold destroyInstance
  split
  · exact .refl sound
  split
  · exact .refl sound
  have deviceless := sweepDevices_spares durable sound instanceId apart
  split
  · rename_i code next outcome
    rw [outcome] at deviceless
    exact deviceless
  rename_i nothing next outcome
  rw [outcome] at deviceless
  have bare : Spares spared next (next.sweepChildren .physicalDevice instanceId
      (fun current childId => current.removeHandle childId .physicalDevice)).2 := by
    refine sweepChildren_spares deviceless.sound (by decide) instanceId _ (fun _ => True) trivial ?_
    intro current childId childBits kept _ _ _
    exact ⟨.removeOther durable kept childId .physicalDevice rfl, trivial⟩
  split
  · rename_i code last swept
    rw [swept] at bare
    exact deviceless.trans bare
  rename_i nothing last swept
  rw [swept] at bare
  have removed : Spares spared last (last.removeHandle instanceId .inst).2 :=
    .removeOther durable bare.sound instanceId .inst rfl
  split
  · rename_i code final gone
    rw [gone] at removed
    exact (deviceless.trans bare).trans removed
  · rename_i nothing final gone
    rw [gone] at removed
    exact ((deviceless.trans bare).trans removed).andThen rfl

def Sparing (spared : UInt64 → UInt64 → Prop) (context : ObjectContext) (driver : ObjectDriver) :
    ObjectRequest → Prop
  | .destroyInstance instanceId => InstanceApart spared driver instanceId context
  | .destroyDevice deviceId => ∀ device, context.destroyDeviceChecks driver deviceId = .ok device →
      Apart spared deviceId context
  | .destroyDescriptorPool poolId => handleType poolId = .descriptorPool →
      ∀ wireId parentId nativeBits, spared wireId parentId → context.Live wireId parentId nativeBits →
        wireId ≠ poolId ∧ (handleType wireId = .descriptorSet → parentId ≠ poolId)
  | .resetDescriptorPool poolId _ _ _ => ∀ wireId nativeBits, handleType wireId = .descriptorSet →
      context.Live wireId poolId nativeBits → ¬ spared wireId poolId
  | .freeMemory memoryId => handleType memoryId = .deviceMemory →
      (context.mirrors.any fun mirror => mirror.memoryId == memoryId) = false →
      ∀ parentId nativeBits, context.Live memoryId parentId nativeBits → ¬ spared memoryId parentId
  | _ => True

theorem call_spares (durable : Durable spared) (sound : context.objects.Sound) (request : ObjectRequest)
    (sparing : Sparing spared context driver request) : Spares spared context (context.call driver request).2 := by
  cases request with
  | createInstance fields native destroyFound procFound =>
      exact createInstance_spares sound fields native destroyFound procFound
  | destroyInstance instanceId => exact destroyInstance_spares durable sound instanceId sparing
  | enumeratePhysicalDevices instanceId answer result natives =>
      exact enumeratePhysicalDevices_spares sound instanceId answer result natives
  | createDevice physicalDeviceId fields queues infos native =>
      exact createDevice_spares sound physicalDeviceId fields queues infos native
  | destroyDevice deviceId => exact destroyDevice_spares durable sound deviceId sparing
  | getDeviceQueue deviceId queueFamilyIndex queueIndex present queue =>
      exact getDeviceQueue_spares sound deviceId queueFamilyIndex queueIndex present queue
  | allocateCommandBuffer commandPoolId fields native =>
      exact allocateCommandBuffer_spares sound commandPoolId fields native
  | freeCommandBuffer commandPoolId commandBufferId =>
      exact freeCommandBuffer_spares durable sound commandPoolId commandBufferId
  | resetDescriptorPool descriptorPoolId fields present result =>
      exact resetDescriptorPool_spares sound descriptorPoolId fields present result sparing
  | allocateDescriptorSets descriptorPoolId setLayoutIds result sets =>
      exact allocateDescriptorSets_spares sound descriptorPoolId setLayoutIds result sets
  | createImageView deviceId imageId fields range native =>
      exact createImageView_spares sound deviceId imageId fields range native
  | destroyImageView imageViewId => exact destroyImageView_spares durable sound imageViewId
  | prepareSwapchain deviceId minImageCount fields answers =>
      exact prepareSwapchain_spares durable sound deviceId minImageCount fields answers
  | destroySwapchain swapchainId => exact destroySwapchain_spares durable sound swapchainId
  | setupMemoryMirror deviceId memoryId generation fields memory mapped =>
      exact .of_eq sound (setupMemoryMirror_frame context deviceId memoryId generation fields memory mapped).1
  | unmapMemoryMirror deviceId memoryId generation =>
      exact .of_eq sound (unmapMemoryMirror_frame context deviceId memoryId generation).1
  | destroyCommandPool objectId =>
      refine destroyOther_spares durable sound _ _ _ objectId rfl ?_
      rintro child ⟨⟩
      exact ⟨by decide, rfl⟩
  | destroyDescriptorPool objectId =>
      by_cases isPool : handleType objectId = .descriptorPool
      · exact destroyPool_spares sound objectId (sparing isPool)
      · exact .of_eq sound (destroyDeviceChild_other sound _ _ objectId isPool)
  | freeMemory objectId =>
      refine destroyDeviceChild_spares sound _ _ _ objectId (fun _ isChild => nomatch isChild) ?_
        (fun _ _ _ isChild => nomatch isChild)
      intro parentId nativeBits free isMemory live
      exact sparing isMemory free parentId nativeBits live
  | createCommandPool | createDescriptorSetLayout | createDescriptorPool | createSampler | createPipelineLayout
  | createGraphicsPipeline | createFence | createDescriptorUpdateTemplate | createQueryPool | createBuffer
  | allocateMemory | createImage | createSemaphore =>
      exact createDeviceChild_spares sound _ _ _ _ _ _
  | destroyDescriptorSetLayout | destroyDescriptorUpdateTemplate | destroyQueryPool | destroySampler
  | destroyPipelineLayout | destroyPipeline | destroyBuffer | destroyImage | destroyFence | destroySemaphore =>
      exact destroyOther_spares durable sound _ _ _ _ rfl (fun _ isChild => nomatch isChild)

end ObjectContext

end VulkanBridge
