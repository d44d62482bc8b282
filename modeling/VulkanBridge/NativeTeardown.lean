import VulkanBridge.NativeHoldings
import VulkanBridge.Teardown

/-!
The destroy functions of a service context destroy only what they hold: the
native object of a handle they removed, or what they took over from a slot.
-/

namespace VulkanBridge

open HandleTable

namespace ObjectContext

variable {driver : ObjectDriver} {context next : ObjectContext} {loose : List Holding} {holding : Holding}
  {wireId parentId nativeBits : UInt64} {type : ObjectType}

theorem mem_slotHoldings :
    holding ∈ context.slotHoldings ↔ ∃ slot, holding ∈ swapchainHoldings (context.slotAt slot) := by
  constructor
  · intro member
    obtain ⟨swapchain, isSlot, held⟩ := List.mem_flatMap.mp member
    obtain ⟨slot, bound, rfl⟩ := List.mem_iff_getElem.mp isSlot
    refine ⟨slot, ?_⟩
    rwa [slotAt, List.getD_eq_getElem?_getD, List.getElem?_eq_getElem bound]
  · rintro ⟨slot, held⟩
    by_cases bound : slot < context.swapchains.length
    · rw [slotAt, List.getD_eq_getElem?_getD, List.getElem?_eq_getElem bound] at held
      exact List.mem_flatMap.mpr ⟨_, List.getElem_mem bound, held⟩
    · rw [slotAt, List.getD_eq_getElem?_getD, List.getElem?_eq_none (by omega)] at held
      change holding ∈ swapchainHoldings .zero at held
      rw [Accounted.swapchainHoldings_zero] at held
      cases held

theorem Subsides.slotHoldings (subsides : Subsides context next) (member : holding ∈ next.slotHoldings) :
    holding ∈ context.slotHoldings := by
  obtain ⟨slot, held⟩ := mem_slotHoldings.mp member
  rcases subsides.slots slot with same | zero
  · rw [same] at held
    exact mem_slotHoldings.mpr ⟨slot, held⟩
  · rw [zero, Accounted.swapchainHoldings_zero] at held
    cases held

theorem mem_holdingOf {handle : UInt64} (member : holding ∈ holdingOf type handle wireId parentId) :
    holding = ⟨(type, handle), wireId, parentId⟩ := by
  unfold holdingOf at member
  split at member
  · cases member
  · exact List.mem_singleton.mp member

theorem swapchainHoldings_shared {swapchain : SwapchainMetadata} (member : holding ∈ swapchainHoldings swapchain)
    (tagged : holding.wireId ≠ 0) :
    holding.native.1 = .image ∧ holding.parentId = swapchain.deviceId ∧
      ∃ image ∈ swapchain.images, image.imageId = holding.wireId := by
  simp only [swapchainHoldings, imageHoldings, List.mem_append, List.mem_flatMap] at member
  rcases member with fence | pool | ⟨image, isImage, ofImage | memory⟩
  · rw [mem_holdingOf fence] at tagged
    exact absurd rfl tagged
  · rw [mem_holdingOf pool] at tagged
    exact absurd rfl tagged
  · rw [mem_holdingOf ofImage]
    exact ⟨rfl, rfl, image, isImage, rfl⟩
  · rw [mem_holdingOf memory] at tagged
    exact absurd rfl tagged

def Unheld (context : ObjectContext) (type : ObjectType) (nativeBits : UInt64) : Prop :=
  ∀ holding ∈ context.slotHoldings, holding.native ≠ (type, nativeBits)

theorem Unheld.of_subsides (unheld : context.Unheld type nativeBits) (subsides : Subsides context next) :
    next.Unheld type nativeBits :=
  fun holding member => unheld holding (subsides.slotHoldings member)

/-- The object of a live handle is held by no slot unless it is an image that
a slot of the same device lists. -/
theorem Accounted.unheld (accounted : context.Accounted []) (live : context.Live wireId parentId nativeBits)
    (isType : handleType wireId = type) (isOwned : type.owned = true)
    (unlisted : type = .image → ∀ slot, (context.slotAt slot).deviceId = parentId →
      swapchainHoldings (context.slotAt slot) = [] ∨
        ∀ image ∈ (context.slotAt slot).images, image.imageId ≠ wireId) :
    context.Unheld type nativeBits := by
  subst isType
  intro holding member same
  obtain ⟨isHandle, isParent⟩ := accounted.shared _ _ _ live isOwned holding member same
  obtain ⟨slot, held⟩ := mem_slotHoldings.mp member
  have shared := swapchainHoldings_shared held (by rw [isHandle]; exact accounted.live_ne_zero live)
  obtain ⟨isImage, ofDevice, image, listed, isTag⟩ := shared
  rw [same] at isImage
  rcases unlisted isImage slot (ofDevice.symm.trans isParent) with empty | other
  · rw [empty] at held
    cases held
  · exact other image listed (isTag.trans isHandle)

/-! ## Handles -/

structure Settles (context : ObjectContext) (outcome : Completed) : Prop where
  accounted : outcome.2.Accounted []
  subsides : Subsides context outcome.2

theorem Settles.refused (accounted : context.Accounted []) (code : Errno) :
    Settles context (.error code, context) :=
  ⟨accounted, Subsides.refl context⟩

theorem Settles.after {between : ObjectContext} {outcome : Completed} (subsides : Subsides context between)
    (settles : Settles between outcome) : Settles context outcome :=
  ⟨settles.accounted, subsides.trans settles.subsides⟩

theorem Settles.removeHandle (accounted : context.Accounted []) (wireId : UInt64) (type : ObjectType) :
    Settles context (context.removeHandle wireId type) := by
  obtain ⟨less, subsides⟩ := accounted.removeHandle wireId type
  exact ⟨less, subsides⟩

theorem sweep_settles (selects : ObjectContext → HandleEntry → Bool)
    (act : ObjectContext → UInt64 → Completed) (steady : ObjectContext → Prop)
    (steadies : ∀ current later, Subsides current later → steady current → steady later)
    (acts : ∀ current index, current.Accounted [] → steady current → index < current.objects.capacity →
      selects current (current.objects.entries index) = true →
      Settles current (act current (current.objects.entries index).wireId)) :
    ∀ remaining index (context : ObjectContext), context.Accounted [] → steady context →
      index + remaining ≤ context.objects.capacity →
      Settles context (sweep selects act remaining index context) := by
  intro remaining
  induction remaining with
  | zero =>
      intro index context accounted _ _
      exact ⟨accounted, Subsides.refl context⟩
  | succ remaining ih =>
      intro index context accounted calm bound
      simp only [sweep]
      by_cases selected : selects context (context.objects.entries index) = true
      · have first := acts context index accounted calm (by omega) selected
        rw [if_pos selected]
        split
        · rename_i code last outcome
          rw [outcome] at first
          exact ⟨first.accounted, first.subsides⟩
        · rename_i nothing last outcome
          rw [outcome] at first
          have capacity := first.subsides.shrinks.capacity
          exact Settles.after first.subsides (ih (index + 1) last first.accounted
            (steadies _ _ first.subsides calm) (by rw [capacity]; omega))
      · rw [if_neg selected]
        exact ih (index + 1) context accounted calm (by omega)

theorem sweepChildren_settles (type : ObjectType) (parentId : UInt64) (steady : ObjectContext → Prop)
    (act : ObjectContext → UInt64 → Completed) (isType : type ≠ .invalid)
    (steadies : ∀ current later, Subsides current later → steady current → steady later)
    (acts : ∀ current childId childBits, current.Accounted [] → steady current → handleType childId = type →
      current.Live childId parentId childBits → Settles current (act current childId))
    (accounted : context.Accounted []) (calm : steady context) :
    Settles context (context.sweepChildren type parentId act) := by
  refine sweep_settles (fun _ => isChild type parentId) act steady steadies ?_ context.objects.capacity 0
    context accounted calm (by omega)
  intro current index kept still bound selected
  have live := kept.sound.live_of_type bound (isChild_typed isType selected)
  simp only [isChild, Bool.and_eq_true, beq_iff_eq] at selected
  rw [selected.2] at live
  exact acts current _ _ kept still selected.1 live

theorem removeChildren_settles (accounted : context.Accounted []) (children : Option ObjectType)
    (isType : children ≠ some .invalid) (wireId : UInt64) :
    Settles context (context.removeChildren children wireId) := by
  unfold removeChildren
  split
  · exact ⟨accounted, Subsides.refl context⟩
  · rename_i child
    refine sweepChildren_settles child wireId (fun _ => True) _ ?_ (fun _ _ _ _ => trivial) ?_ accounted trivial
    · rintro rfl
      exact isType rfl
    · intro current childId _ kept _ _ _
      exact Settles.removeHandle kept childId child

theorem removeHandle_live (sound : context.objects.Sound)
    (done : (context.removeHandle wireId type).1 = .ok ()) :
    ∃ parentId nativeBits, context.Live wireId parentId nativeBits := by
  unfold removeHandle at done
  split at done
  · cases done
  · rename_i removedBits objects removed
    obtain ⟨-, -, -, ⟨parent, live⟩, -⟩ := sound.remove_ok removed
    exact ⟨parent, removedBits, live⟩

theorem settles_destroyed {between : ObjectContext} (subsides : Subsides context between)
    (sound : context.objects.Sound) (accounted : between.Accounted [])
    (live : context.Live wireId parentId nativeBits) (isType : handleType wireId = type)
    (isOwned : type.owned = true) (unheld : context.Unheld type nativeBits) (tidy : ObjectContext → ObjectContext)
    (objects : ∀ last, (tidy last).objects = last.objects)
    (swapchains : ∀ last, (tidy last).swapchains = last.swapchains)
    (created : ∀ last, (tidy last).created = last.created)
    (destroyed : ∀ last, (tidy last).destroyed = last.destroyed) :
    Settles context
      (match between.removeHandle wireId type with
        | (.error code, last) => (.error code, last)
        | (.ok _, last) => (.ok (), (tidy last).nativeDestroy type nativeBits)) := by
  have less := accounted.removeHandle wireId type
  split
  · rename_i code last outcome
    rw [outcome] at less
    exact ⟨less.1, subsides.trans less.2⟩
  · rename_i nothing last outcome
    have done : (between.removeHandle wireId type).1 = .ok () := by rw [outcome]
    obtain ⟨owner, bits, found⟩ := removeHandle_live accounted.sound done
    obtain ⟨rfl, rfl⟩ := sound.live_unique live (subsides.live found)
    have taken := accounted.take found isType isOwned
      (fun holding member => (unheld.of_subsides subsides) holding member) done
    rw [outcome] at less taken
    have tidied := taken.of_eq (objects last) (swapchains last) (created last) (destroyed last)
    have same : Subsides last ((tidy last).nativeDestroy type nativeBits) :=
      Subsides.of_eq (objects last) (swapchains last)
    refine ⟨tidied.destroy (tidied.unshared_of_zero (by simp) rfl), (subsides.trans less.2).trans same⟩

theorem resolveDeviceChild_held (accounted : context.Accounted []) {deviceId device : UInt64}
    (found : context.resolveDeviceChild wireId type = .ok (deviceId, device, nativeBits)) :
    handleType wireId = type ∧ context.Live wireId deviceId nativeBits := by
  unfold resolveDeviceChild at found
  split at found
  · cases found
  · rename_i owner bits object
    split at found
    · cases found
    · cases found
      obtain ⟨expects, live⟩ := accounted.sound.lookup_eq_ok.mp object
      exact ⟨((handleExpect_iff _ _).mp expects).2, live⟩

theorem destroyDeviceChild_settles (accounted : context.Accounted []) (busy : Bool)
    (children : Option ObjectType) (isChild : children ≠ some .invalid) (wireId : UInt64)
    (isOwned : type.owned = true)
    (unheld : ∀ deviceId bits, handleType wireId = type → context.Live wireId deviceId bits →
      context.Unheld type bits) :
    Settles context (context.destroyDeviceChild driver type busy children wireId) := by
  unfold destroyDeviceChild
  split
  · exact Settles.refused accounted _
  rename_i deviceId device bits found
  obtain ⟨isType, live⟩ := resolveDeviceChild_held accounted found
  split
  · exact Settles.refused accounted _
  split
  · exact Settles.refused accounted _
  have swept := removeChildren_settles accounted children isChild wireId
  split
  · rename_i code last outcome
    rw [outcome] at swept
    exact swept
  · rename_i nothing last outcome
    rw [outcome] at swept
    exact settles_destroyed swept.subsides accounted.sound swept.accounted live isType isOwned
      (unheld deviceId bits isType live) (fun last => last.clearMetadata type wireId) (fun _ => by simp)
      (fun _ => by simp) (fun _ => by simp) (fun _ => by simp)

theorem destroyOther_settles (accounted : context.Accounted []) (busy : Bool)
    (children : Option ObjectType) (isChild : children ≠ some .invalid) (wireId : UInt64)
    (isOwned : type.owned = true) (other : type ≠ .image) :
    Settles context (context.destroyDeviceChild driver type busy children wireId) := by
  refine destroyDeviceChild_settles accounted busy children isChild wireId isOwned ?_
  intro deviceId bits isType live
  exact accounted.unheld live isType isOwned fun isImage => absurd isImage other

theorem destroyImage_settles (accounted : context.Accounted []) (wireId : UInt64)
    (unlisted : ∀ deviceId bits, context.Live wireId deviceId bits → ∀ slot,
      (context.slotAt slot).deviceId = deviceId → swapchainHoldings (context.slotAt slot) = [] ∨
        ∀ image ∈ (context.slotAt slot).images, image.imageId ≠ wireId) :
    Settles context (context.destroyImage driver wireId) := by
  refine destroyDeviceChild_settles accounted _ none (by simp) wireId rfl ?_
  intro deviceId bits isType live
  exact accounted.unheld live isType rfl fun _ => unlisted deviceId bits live

theorem destroyImageView_settles (accounted : context.Accounted []) (imageViewId : UInt64) :
    Settles context (context.destroyImageView driver imageViewId) := by
  unfold destroyImageView
  split
  · exact Settles.refused accounted _
  rename_i imageId bits found
  obtain ⟨expects, live⟩ := accounted.sound.lookup_eq_ok.mp found
  have isView := ((handleExpect_iff _ _).mp expects).2
  split
  · exact Settles.refused accounted _
  split
  · exact Settles.refused accounted _
  · exact settles_destroyed (Subsides.refl context) accounted.sound accounted live isView rfl
      (accounted.unheld live isView rfl (by simp)) (fun last => last) (fun _ => rfl) (fun _ => rfl)
      (fun _ => rfl) (fun _ => rfl)

/-- The handle is live, so that its removal cannot fail after the native call. -/
theorem freeCommandBuffer_settles (accounted : context.Accounted []) (commandPoolId commandBufferId : UInt64) :
    Settles context (context.freeCommandBuffer driver commandPoolId commandBufferId) := by
  unfold freeCommandBuffer
  split
  · exact Settles.refused accounted _
  rename_i poolId bits found
  obtain ⟨expects, live⟩ := accounted.sound.lookup_eq_ok.mp found
  have isBuffer := ((handleExpect_iff _ _).mp expects).2
  split
  · exact Settles.refused accounted _
  split
  · exact Settles.refused accounted _
  split
  · exact Settles.refused accounted _
  obtain ⟨objects, removed⟩ := accounted.sound.remove_live expects live
  have done : context.removeHandle commandBufferId .commandBuffer = (.ok (), { context with objects := objects }) := by
    simp [removeHandle, removed]
  have taken := accounted.take live isBuffer rfl (accounted.unheld live isBuffer rfl (by simp)) (by rw [done])
  have subsides := (accounted.removeHandle commandBufferId .commandBuffer).2
  rw [done] at taken subsides
  have freed : (context.nativeDestroy .commandBuffer bits).removeHandle commandBufferId .commandBuffer =
      (.ok (), ({ context with objects := objects } : ObjectContext).nativeDestroy .commandBuffer bits) := by
    simp [removeHandle, removed, nativeDestroy]
  rw [freed]
  exact ⟨taken.destroy (taken.unshared_of_zero (by simp) rfl), subsides.trans (Subsides.of_eq rfl rfl)⟩

theorem resetDescriptorPool_accounted (accounted : context.Accounted []) (descriptorPoolId : UInt64)
    (fields : Verdict) (present : Bool) (result : VulkanResult) :
    (context.resetDescriptorPool descriptorPoolId fields present result).2.Accounted [] := by
  unfold resetDescriptorPool
  split
  · exact accounted
  split
  · exact accounted
  split
  · exact accounted
  split
  · exact accounted
  have swept := removeChildren_settles accounted (some .descriptorSet) (by simp) descriptorPoolId
  split
  · rename_i code last outcome
    rw [outcome] at swept
    exact swept.accounted
  · rename_i nothing last outcome
    rw [outcome] at swept
    exact swept.accounted

/-! ## Swapchains -/

section commute

variable (context) (slot : Nat) (swapchain : SwapchainMetadata)

theorem setSwapchain_removeHandle :
    (context.setSwapchain slot swapchain).removeHandle wireId type =
      ((context.removeHandle wireId type).1, (context.removeHandle wireId type).2.setSwapchain slot swapchain) := by
  unfold removeHandle setSwapchain
  cases context.objects.remove wireId type <;> rfl

theorem setSwapchain_clearMetadata :
    (context.setSwapchain slot swapchain).clearMetadata type wireId =
      (context.clearMetadata type wireId).setSwapchain slot swapchain := by
  unfold clearMetadata slotOf setMetadata setSwapchain
  dsimp only
  split
  · rfl
  · split <;> rfl

theorem setSwapchain_removeSwapchainImage (imageId : UInt64) :
    (context.setSwapchain slot swapchain).removeSwapchainImage imageId =
      ((context.removeSwapchainImage imageId).1,
        (context.removeSwapchainImage imageId).2.setSwapchain slot swapchain) := by
  unfold removeSwapchainImage
  split
  · rfl
  · rw [setSwapchain_clearMetadata, setSwapchain_removeHandle]

theorem setSwapchain_removeSwapchainHandle (swapchainId : UInt64) :
    (context.setSwapchain slot swapchain).removeSwapchainHandle swapchainId =
      ((context.removeSwapchainHandle swapchainId).1,
        (context.removeSwapchainHandle swapchainId).2.setSwapchain slot swapchain) := by
  unfold removeSwapchainHandle
  split
  · rfl
  · rw [setSwapchain_removeHandle]

theorem setSwapchain_nativeDestroyFound (found : Bool) (handle : UInt64) :
    (context.setSwapchain slot swapchain).nativeDestroyFound found type handle =
      (context.nativeDestroyFound found type handle).setSwapchain slot swapchain := by
  unfold nativeDestroyFound
  split <;> rfl

end commute

theorem setSwapchain_destroySwapchainImages (driver : ObjectDriver) (slot : Nat) (swapchain : SwapchainMetadata)
    (loaded : Bool) (device : UInt64) (images : List SwapchainImage) :
    ∀ (status : Option Errno) (context : ObjectContext),
      destroySwapchainImages driver loaded device images status (context.setSwapchain slot swapchain) =
        ((destroySwapchainImages driver loaded device images status context).1,
          (destroySwapchainImages driver loaded device images status context).2.setSwapchain slot swapchain) := by
  induction images with
  | nil => intro status context; rfl
  | cons image rest ih =>
      intro status context
      simp only [destroySwapchainImages]
      rw [setSwapchain_removeSwapchainImage, setSwapchain_nativeDestroyFound, setSwapchain_nativeDestroyFound, ih]

theorem setSwapchain_destroySwapchainMetadata (driver : ObjectDriver) (context : ObjectContext)
    (slot position : Nat) (swapchain filled : SwapchainMetadata) :
    (context.setSwapchain slot filled).destroySwapchainMetadata driver position swapchain =
      ((context.destroySwapchainMetadata driver position swapchain).1,
        (context.destroySwapchainMetadata driver position swapchain).2.setSwapchain slot filled) := by
  have loads : (context.setSwapchain slot filled).hasGetDeviceProcAddr = context.hasGetDeviceProcAddr := rfl
  unfold destroySwapchainMetadata
  dsimp only
  rw [loads, setSwapchain_nativeDestroyFound, setSwapchain_nativeDestroyFound,
    setSwapchain_destroySwapchainImages, setSwapchain_removeSwapchainHandle]

theorem removeHandle_gone (sound : context.objects.Sound) (isType : handleType wireId = type) :
    ¬ (context.removeHandle wireId type).2.Live wireId parentId nativeBits := by
  intro live
  unfold removeHandle at live
  split at live
  · rename_i code refused
    have expects := (handleExpect_iff _ _).mpr ⟨(sound.live_formed live).1, isType⟩
    obtain ⟨objects, removed⟩ := sound.remove_live expects live
    rw [removed] at refused
    cases refused
  · rename_i removedBits objects removed
    exact ((sound.remove_ok removed).2.2.2.2 _ _ _).mp live |>.2 rfl

theorem removeSwapchainImage_gone (accounted : context.Accounted loose) {imageId : UInt64}
    (isImage : handleType imageId = .image) :
    ¬ (context.removeSwapchainImage imageId).2.Live imageId parentId nativeBits := by
  intro live
  unfold removeSwapchainImage at live
  split at live
  · rename_i none
    exact accounted.live_ne_zero live none
  · exact removeHandle_gone (by rw [clearMetadata_objects]; exact accounted.sound) isImage live

theorem Accounted.removeSwapchainImage (accounted : context.Accounted loose) (imageId : UInt64) :
    (context.removeSwapchainImage imageId).2.Accounted loose ∧
      Subsides context (context.removeSwapchainImage imageId).2 := by
  unfold ObjectContext.removeSwapchainImage
  split
  · exact ⟨accounted, Subsides.refl context⟩
  · have cleared : (context.clearMetadata .image imageId).Accounted loose :=
      accounted.of_eq (by simp) (by simp) (by simp) (by simp)
    have same : Subsides context (context.clearMetadata .image imageId) := Subsides.of_eq (by simp) (by simp)
    obtain ⟨less, subsides⟩ := cleared.removeHandle imageId .image
    exact ⟨less, same.trans subsides⟩

theorem nativeDestroyFound_subsides (context : ObjectContext) (found : Bool) (type : ObjectType) (handle : UInt64) :
    Subsides context (context.nativeDestroyFound found type handle) := by
  unfold nativeDestroyFound
  split
  · exact Subsides.of_eq rfl rfl
  · exact Subsides.refl context

theorem destroySwapchainImages_accounted (driver : ObjectDriver) (loaded : Bool) (deviceId device : UInt64)
    (images : List SwapchainImage) :
    ∀ (status : Option Errno) (context : ObjectContext), context.Accounted (imageHoldings deviceId images ++ loose) →
      (destroySwapchainImages driver loaded device images status context).2.Accounted loose ∧
        Subsides context (destroySwapchainImages driver loaded device images status context).2 := by
  induction images with
  | nil => intro status context accounted; exact ⟨accounted, Subsides.refl context⟩
  | cons image rest ih =>
      intro status context accounted
      simp only [imageHoldings, List.flatMap_cons, List.append_assoc] at accounted
      obtain ⟨removed, first⟩ := accounted.removeSwapchainImage image.imageId
      -- The handle that shared the image is gone.
      have imageless := removed.destroyFound (loaded && driver.destroys device .image) ?_
      · have freed := imageless.destroyFound_untagged (loaded && driver.destroys device .deviceMemory)
        have second := nativeDestroyFound_subsides (context.removeSwapchainImage image.imageId).2
          (loaded && driver.destroys device .image) .image image.image
        have third := second.trans (nativeDestroyFound_subsides _
          (loaded && driver.destroys device .deviceMemory) .deviceMemory image.memory)
        obtain ⟨rest, last⟩ := ih (firstStatus status (context.removeSwapchainImage image.imageId).1) _ freed
        exact ⟨rest, (first.trans third).trans last⟩
      · intro id parent bits live isOwned same
        obtain ⟨isType, isBits⟩ := Prod.mk.inj same
        have nonzero : image.image ≠ 0 := by
          rw [isBits]
          exact (removed.sound.live_formed live).2
        have shares := removed.shared _ _ _ live isOwned ⟨(.image, image.image), image.imageId, deviceId⟩
          (by simp [holdingOf, nonzero]) same
        have isImage : id = image.imageId := shares.1.symm
        subst isImage
        exact removeSwapchainImage_gone accounted isType.symm live

theorem Accounted.removeSwapchainHandle (accounted : context.Accounted loose) (swapchainId : UInt64) :
    (context.removeSwapchainHandle swapchainId).2.Accounted loose ∧
      Subsides context (context.removeSwapchainHandle swapchainId).2 := by
  unfold ObjectContext.removeSwapchainHandle
  split
  · exact ⟨accounted, Subsides.refl context⟩
  · exact accounted.removeHandle swapchainId .swapchain

theorem destroySwapchainMetadata_accounted (driver : ObjectDriver) (slot : Nat) (swapchain : SwapchainMetadata)
    (accounted : context.Accounted (swapchainHoldings swapchain ++ loose)) :
    (context.destroySwapchainMetadata driver slot swapchain).2.Accounted loose ∧
      Subsides context (context.destroySwapchainMetadata driver slot swapchain).2 := by
  simp only [swapchainHoldings, List.append_assoc] at accounted
  unfold destroySwapchainMetadata
  dsimp only
  generalize (context.hasGetDeviceProcAddr && swapchain.device != 0) = loaded
  have unfenced := accounted.destroyFound_untagged (loaded && driver.destroys swapchain.device .fence)
  have unpooled := unfenced.destroyFound_untagged (loaded && driver.destroys swapchain.device .commandPool)
  have first := (nativeDestroyFound_subsides context (loaded && driver.destroys swapchain.device .fence) .fence
    swapchain.presentCompletion).trans (nativeDestroyFound_subsides _
      (loaded && driver.destroys swapchain.device .commandPool) .commandPool swapchain.producerCommandPool)
  obtain ⟨imageless, second⟩ := destroySwapchainImages_accounted driver loaded swapchain.deviceId
    swapchain.device swapchain.images (driver.stopStatus slot) _ unpooled
  obtain ⟨handleless, third⟩ := imageless.removeSwapchainHandle swapchain.swapchainId
  exact ⟨handleless, (first.trans second).trans third⟩

theorem clearSlot_subsides (context : ObjectContext) (slot : Nat) :
    Subsides context (context.setSwapchain slot .zero) := by
  refine ⟨Shrinks.refl _, ?_⟩
  intro other
  rw [slotAt_clear]
  split
  · exact Or.inr rfl
  · exact Or.inl rfl

theorem destroySwapchainSlot_settles (driver : ObjectDriver) (accounted : context.Accounted []) (slot : Nat) :
    Settles context (context.destroySwapchainSlot driver slot) ∧
      (context.destroySwapchainSlot driver slot).2.slotAt slot = .zero := by
  obtain ⟨taken, subsides⟩ :=
    destroySwapchainMetadata_accounted driver slot (context.slotAt slot) (accounted.takeSlot slot)
  have cleared := (clearSlot_subsides context slot).trans subsides
  rw [setSwapchain_destroySwapchainMetadata] at taken cleared
  refine ⟨⟨taken, cleared⟩, ?_⟩
  unfold destroySwapchainSlot
  dsimp only
  rw [slotAt_clear, if_pos rfl]

/-! ## Devices -/

variable {deviceId : UInt64}

theorem runStages_append (first second : List (ObjectContext → Completed)) : ∀ context : ObjectContext,
    runStages (first ++ second) context =
      match runStages first context with
      | (.error code, last) => (.error code, last)
      | (.ok _, last) => runStages second last := by
  induction first with
  | nil => intro context; rfl
  | cons stage rest ih =>
      intro context
      simp only [List.cons_append, runStages]
      split
      · rfl
      · rename_i nothing last outcome
        exact ih last

theorem runStages_settles {stages : List (ObjectContext → Completed)} (steady : ObjectContext → Prop)
    (steadies : ∀ current later, Subsides current later → steady current → steady later)
    (each : ∀ stage ∈ stages, ∀ current : ObjectContext, current.Accounted [] → steady current →
      Settles current (stage current)) :
    ∀ context : ObjectContext, context.Accounted [] → steady context →
      Settles context (runStages stages context) := by
  induction stages with
  | nil => intro context accounted _; exact ⟨accounted, Subsides.refl context⟩
  | cons stage rest ih =>
      intro context accounted calm
      have first := each stage (by simp) context accounted calm
      simp only [runStages]
      split
      · rename_i code last outcome
        rw [outcome] at first
        exact first
      · rename_i nothing last outcome
        rw [outcome] at first
        exact Settles.after first.subsides (ih (fun stage member => each stage (List.mem_cons_of_mem _ member))
          last first.accounted (steadies _ _ first.subsides calm))

/-- No slot below `count` has a swapchain of the device. -/
def Vacated (deviceId : UInt64) (count : Nat) (context : ObjectContext) : Prop :=
  ∀ slot, slot < count → (context.slotAt slot).swapchainId = 0 ∨ (context.slotAt slot).deviceId ≠ deviceId

theorem Vacated.of_subsides {count : Nat} (current later : ObjectContext) (subsides : Subsides current later)
    (vacated : Vacated deviceId count current) : Vacated deviceId count later := by
  intro slot bound
  rcases subsides.slots slot with same | zero
  · rw [same]
    exact vacated slot bound
  · rw [zero]
    exact Or.inl rfl

theorem destroyDeviceSwapchain_settles (driver : ObjectDriver) (deviceId : UInt64)
    (accounted : context.Accounted []) (slot : Nat) :
    Settles context (context.destroyDeviceSwapchain driver deviceId slot) ∧
      (((context.destroyDeviceSwapchain driver deviceId slot).2.slotAt slot).swapchainId = 0 ∨
        ((context.destroyDeviceSwapchain driver deviceId slot).2.slotAt slot).deviceId ≠ deviceId) := by
  unfold destroyDeviceSwapchain
  dsimp only
  split
  · obtain ⟨settles, zero⟩ := destroySwapchainSlot_settles driver accounted slot
    refine ⟨settles, ?_⟩
    rw [zero]
    exact Or.inl rfl
  · rename_i other
    refine ⟨⟨accounted, Subsides.refl context⟩, ?_⟩
    by_cases idle : (context.slotAt slot).swapchainId = 0
    · exact Or.inl idle
    · exact Or.inr fun mine => other ⟨idle, mine⟩

theorem slotStages_settles (driver : ObjectDriver) (deviceId : UInt64) (accounted : context.Accounted [])
    (count : Nat) :
    Settles context (runStages ((List.range count).map fun slot current =>
        current.destroyDeviceSwapchain driver deviceId slot) context) ∧
      ((runStages ((List.range count).map fun slot current =>
          current.destroyDeviceSwapchain driver deviceId slot) context).1 = .ok () →
        Vacated deviceId count (runStages ((List.range count).map fun slot current =>
          current.destroyDeviceSwapchain driver deviceId slot) context).2) := by
  induction count with
  | zero => exact ⟨⟨accounted, Subsides.refl context⟩, fun _ slot bound => by omega⟩
  | succ count ih =>
      rw [List.range_succ, List.map_append, runStages_append]
      split
      · rename_i code last outcome
        rw [outcome] at ih
        exact ⟨ih.1, fun done => by cases done⟩
      · rename_i nothing last outcome
        rw [outcome] at ih
        obtain ⟨settles, vacated⟩ := ih
        obtain ⟨step, here⟩ := destroyDeviceSwapchain_settles driver deviceId settles.accounted count
        simp only [List.map_cons, List.map_nil, runStages]
        split
        · rename_i code after ended
          rw [ended] at step
          exact ⟨step.after settles.subsides, fun done => by cases done⟩
        · rename_i nothing after ended
          rw [ended] at step here
          refine ⟨step.after settles.subsides, ?_⟩
          intro _ slot bound
          by_cases isLast : slot = count
          · subst isLast
            exact here
          · exact Vacated.of_subsides _ _ step.subsides (vacated rfl) slot (by omega)

theorem Accounted.idleSlot (accounted : context.Accounted loose) (slot : Nat)
    (idle : slot < wsiFrameRingMaxSlots → (context.slotAt slot).swapchainId = 0) :
    swapchainHoldings (context.slotAt slot) = [] := by
  by_cases bound : slot < context.swapchains.length
  · have isIdle := idle (by rw [← accounted.slotCount]; exact bound)
    rw [slotAt, List.getD_eq_getElem?_getD, List.getElem?_eq_getElem bound] at isIdle ⊢
    exact accounted.idle _ (List.getElem_mem bound) isIdle
  · rw [slotAt, List.getD_eq_getElem?_getD, List.getElem?_eq_none (by omega)]
    exact Accounted.swapchainHoldings_zero

theorem destroySweptImage_settles (accounted : context.Accounted [])
    (vacated : Vacated deviceId wsiFrameRingMaxSlots context) (live : context.Live wireId deviceId nativeBits) :
    Settles context (context.destroyImage driver wireId) := by
  refine destroyImage_settles accounted wireId ?_
  intro owner bits found slot isOwner
  obtain ⟨rfl, -⟩ := accounted.sound.live_unique live found
  refine Or.inl (accounted.idleSlot slot fun bound => ?_)
  rcases vacated slot bound with idle | other
  · exact idle
  · exact absurd isOwner other

theorem swept_settles {swept : ObjectType × (ObjectContext → UInt64 → Completed)}
    (member : swept ∈ sweptBeforeViews driver ++ sweptAfterViews driver) (deviceId : UInt64) :
    swept.1 ≠ .invalid ∧ ∀ current childId childBits, current.Accounted [] →
      Vacated deviceId wsiFrameRingMaxSlots current → handleType childId = swept.1 →
      current.Live childId deviceId childBits → Settles current (swept.2 current childId) := by
  simp only [sweptBeforeViews, sweptAfterViews, List.cons_append, List.nil_append, List.mem_cons,
    List.not_mem_nil, or_false] at member
  have other : ∀ (type : ObjectType) (busy : ObjectContext → UInt64 → Bool) (children : Option ObjectType),
      type.owned = true → type ≠ .image → children ≠ some .invalid → ∀ (current : ObjectContext)
        (childId childBits : UInt64), current.Accounted [] → Vacated deviceId wsiFrameRingMaxSlots current →
        handleType childId = type → current.Live childId deviceId childBits →
        Settles current (current.destroyDeviceChild driver type (busy current childId) children childId) :=
    fun type busy children isOwned isOther isChild current childId _ accounted _ _ _ =>
      destroyOther_settles accounted (busy current childId) children isChild childId isOwned isOther
  rcases member with rfl | rfl | rfl | rfl | rfl | rfl | rfl | rfl | rfl | rfl | rfl | rfl | rfl | rfl
  · exact ⟨by simp, other .pipeline (fun _ _ => false) none rfl (by simp) (by simp)⟩
  · exact ⟨by simp, other .pipelineLayout (fun _ _ => false) none rfl (by simp) (by simp)⟩
  · exact ⟨by simp, other .queryPool (fun _ _ => false) none rfl (by simp) (by simp)⟩
  · exact ⟨by simp, other .descriptorPool (fun _ _ => false) (some .descriptorSet) rfl (by simp) (by simp)⟩
  · exact ⟨by simp, other .sampler (fun _ _ => false) none rfl (by simp) (by simp)⟩
  · exact ⟨by simp, other .descriptorUpdateTemplate (fun _ _ => false) none rfl (by simp) (by simp)⟩
  · exact ⟨by simp, other .descriptorSetLayout (fun _ _ => false) none rfl (by simp) (by simp)⟩
  · exact ⟨by simp, other .commandPool (fun _ _ => false) (some .commandBuffer) rfl (by simp) (by simp)⟩
  · exact ⟨by simp, fun _ _ _ accounted vacated _ live => destroySweptImage_settles accounted vacated live⟩
  · exact ⟨by simp, other .buffer (fun _ _ => false) none rfl (by simp) (by simp)⟩
  · exact ⟨by simp, other .deviceMemory
      (fun current childId => current.mirrors.any fun mirror => mirror.memoryId == childId) none rfl (by simp)
      (by simp)⟩
  · exact ⟨by simp, other .fence (fun _ _ => false) none rfl (by simp) (by simp)⟩
  · exact ⟨by simp, other .semaphore (fun _ _ => false) none rfl (by simp) (by simp)⟩
  · exact ⟨by simp, fun _ childId _ accounted _ _ _ => Settles.removeHandle accounted childId .queue⟩

theorem sweptStage_settles {swept : ObjectType × (ObjectContext → UInt64 → Completed)}
    (member : swept ∈ sweptBeforeViews driver ++ sweptAfterViews driver) (deviceId : UInt64)
    (accounted : context.Accounted []) (vacated : Vacated deviceId wsiFrameRingMaxSlots context) :
    Settles context (context.sweepChildren swept.1 deviceId swept.2) := by
  obtain ⟨isType, acts⟩ := swept_settles member deviceId
  exact sweepChildren_settles swept.1 deviceId (Vacated deviceId wsiFrameRingMaxSlots) swept.2 isType
    Vacated.of_subsides acts accounted vacated

theorem sweepImageViews_settles (driver : ObjectDriver) (deviceId : UInt64) (accounted : context.Accounted []) :
    Settles context (context.sweepImageViews driver deviceId) :=
  sweep_settles _ _ (fun _ => True) (fun _ _ _ _ => trivial)
    (fun _ _ kept _ _ _ => destroyImageView_settles kept _) context.objects.capacity 0 context accounted trivial
    (by omega)

theorem destroyDeviceStages_settles (driver : ObjectDriver) (deviceId : UInt64) (accounted : context.Accounted []) :
    Settles context (runStages (destroyDeviceStages driver deviceId) context) := by
  unfold destroyDeviceStages
  rw [List.append_assoc, List.append_assoc, runStages_append]
  obtain ⟨slots, vacated⟩ := slotStages_settles driver deviceId accounted wsiFrameRingMaxSlots
  split
  · rename_i code last outcome
    rw [outcome] at slots
    exact slots
  · rename_i nothing last outcome
    rw [outcome] at slots vacated
    refine Settles.after slots.subsides (runStages_settles (Vacated deviceId wsiFrameRingMaxSlots)
      Vacated.of_subsides ?_ last slots.accounted (vacated rfl))
    intro stage member current kept calm
    simp only [List.mem_append, List.mem_map, List.mem_singleton] at member
    rcases member with ⟨swept, before, rfl⟩ | rfl | ⟨swept, after, rfl⟩
    · exact sweptStage_settles (List.mem_append_left _ before) deviceId kept calm
    · exact sweepImageViews_settles driver deviceId kept
    · exact sweptStage_settles (List.mem_append_right _ after) deviceId kept calm

theorem destroyDeviceChecks_live (accounted : context.Accounted []) {device : UInt64}
    (admitted : context.destroyDeviceChecks driver deviceId = .ok device) :
    handleType deviceId = .device ∧ ∃ physicalId, context.Live deviceId physicalId device := by
  unfold destroyDeviceChecks at admitted
  split at admitted
  · cases admitted
  split at admitted
  · cases admitted
  rename_i physicalId bits found
  obtain ⟨expects, live⟩ := accounted.sound.lookup_eq_ok.mp found
  split at admitted
  · cases admitted
  split at admitted
  · cases admitted
  · cases admitted
    exact ⟨((handleExpect_iff _ _).mp expects).2, physicalId, live⟩

theorem destroyDevice_settles (driver : ObjectDriver) (deviceId : UInt64) (accounted : context.Accounted []) :
    Settles context (context.destroyDevice driver deviceId) := by
  unfold destroyDevice
  split
  · exact Settles.refused accounted _
  rename_i device admitted
  obtain ⟨isDevice, physicalId, live⟩ := destroyDeviceChecks_live accounted admitted
  have stages := destroyDeviceStages_settles driver deviceId accounted
  split
  · rename_i code last outcome
    rw [outcome] at stages
    exact stages
  · rename_i nothing last outcome
    rw [outcome] at stages
    exact settles_destroyed stages.subsides accounted.sound stages.accounted live isDevice rfl
      (accounted.unheld live isDevice rfl (by simp)) (fun last => last.clearMetadata .device deviceId)
      (fun _ => by simp) (fun _ => by simp) (fun _ => by simp) (fun _ => by simp)

theorem destroyInstance_settles (driver : ObjectDriver) (instanceId : UInt64) (accounted : context.Accounted []) :
    Settles context (context.destroyInstance driver instanceId) := by
  unfold destroyInstance
  split
  · exact Settles.refused accounted _
  split
  · exact Settles.refused accounted _
  rename_i owner bits found
  obtain ⟨expects, live⟩ := accounted.sound.lookup_eq_ok.mp found
  have isInstance := ((handleExpect_iff _ _).mp expects).2
  have devices : Settles context (context.sweepDevices driver instanceId) :=
    sweep_settles _ _ (fun _ => True) (fun _ _ _ _ => trivial)
      (fun _ _ kept _ _ _ => destroyDevice_settles driver _ kept) context.objects.capacity 0 context accounted
      trivial (by omega)
  split
  · rename_i code last outcome
    rw [outcome] at devices
    exact devices
  rename_i nothing deviceless outcome
  rw [outcome] at devices
  have physicals := sweepChildren_settles .physicalDevice instanceId (fun _ => True)
    (fun current childId => current.removeHandle childId .physicalDevice) (by simp) (fun _ _ _ _ => trivial)
    (fun _ childId _ kept _ _ _ => Settles.removeHandle kept childId .physicalDevice) devices.accounted trivial
  split
  · rename_i code last ended
    rw [ended] at physicals
    exact physicals.after devices.subsides
  · rename_i nothing bare ended
    rw [ended] at physicals
    exact settles_destroyed (devices.subsides.trans physicals.subsides) accounted.sound physicals.accounted live
      isInstance rfl (accounted.unheld live isInstance rfl (by simp)) (fun last => last) (fun _ => rfl)
      (fun _ => rfl) (fun _ => rfl) (fun _ => rfl)

end ObjectContext

end VulkanBridge
