import VulkanBridge.OwnershipTree

/-!
The teardowns of a service context keep its ownership tree, unless a swapchain
goes while views of its images are live: the handles of the images are removed
and the views keep a parent that is gone.
-/

namespace VulkanBridge

open HandleTable

namespace ObjectContext

variable {driver : ObjectDriver} {context next : ObjectContext} {wireId parentId nativeBits : UInt64}
  {type : ObjectType}

/-! ## Objects of a device -/

theorem TearsDown.refused (rooted : context.Rooted) (code : Errno) :
    TearsDown context wireId (.error code, context) :=
  ⟨rooted, Subsides.refl context, fun done => by cases done⟩

theorem tearsDown_removed {between : ObjectContext} (subsides : Subsides context between)
    (rooted : between.Rooted) (type : ObjectType) (finish : ObjectContext → ObjectContext)
    (objects : ∀ last, (finish last).objects = last.objects)
    (swapchains : ∀ last, (finish last).swapchains = last.swapchains)
    (childless : ∀ child bits, ¬ between.Live child wireId bits) :
    TearsDown context wireId
      (match between.removeHandle wireId type with
        | (.error code, last) => (.error code, last)
        | (.ok _, last) => (.ok (), finish last)) := by
  have torn := rooted.tearsDown_removeHandle type childless
  split
  · rename_i code last outcome
    rw [outcome] at torn
    exact ⟨torn.rooted, subsides.trans torn.subsides, fun done => by cases done⟩
  · rename_i nothing last outcome
    rw [outcome] at torn
    have same : Subsides last (finish last) := Subsides.of_eq (objects last) (swapchains last)
    refine ⟨torn.rooted.of_eq (objects last) (swapchains last), (subsides.trans torn.subsides).trans same, ?_⟩
    intro _ parentId bits live
    exact torn.gone rfl _ _ (same.live live)

theorem tearsDown_destroyed {between : ObjectContext} (subsides : Subsides context between)
    (rooted : between.Rooted) (type : ObjectType) (nativeBits : UInt64)
    (childless : ∀ child bits, ¬ between.Live child wireId bits) :
    TearsDown context wireId
      (match between.removeHandle wireId type with
        | (.error code, last) => (.error code, last)
        | (.ok _, last) => (.ok (), (last.clearMetadata type wireId).nativeDestroy type nativeBits)) :=
  tearsDown_removed subsides rooted type
    (fun last => (last.clearMetadata type wireId).nativeDestroy type nativeBits) (fun _ => by simp)
    (fun _ => by simp) childless

theorem removeHandle_child_tearsDown (leaf : ∀ child, parentType child ≠ type) (current : ObjectContext)
    (childId : UInt64) (rooted : current.Rooted) (isType : handleType childId = type) :
    TearsDown current childId (current.removeHandle childId type) :=
  rooted.tearsDown_removeHandle type (rooted.childless_of_leaf isType leaf)

theorem removeChildren_subsides (rooted : context.Rooted) (children : Option ObjectType) (wireId : UInt64)
    (leaf : ∀ child, children = some child → child ≠ .invalid ∧ ∀ type, parentType type ≠ child) :
    (context.removeChildren children wireId).2.Rooted ∧
      Subsides context (context.removeChildren children wireId).2 ∧
      ((context.removeChildren children wireId).1 = .ok () →
        ∀ child bits, children = some (handleType child) →
          ¬ (context.removeChildren children wireId).2.Live child wireId bits) := by
  unfold removeChildren
  split
  · exact ⟨rooted, Subsides.refl context, fun _ child bits isNone => by cases isNone⟩
  · rename_i child
    obtain ⟨isType, isLeaf⟩ := leaf child rfl
    have swept := sweepChildren_tearsDown child wireId (fun _ => True)
      (fun current childId => current.removeHandle childId child) isType (fun _ _ _ _ => trivial)
      (fun current childId _ kept _ isChild _ => removeHandle_child_tearsDown isLeaf current childId kept isChild)
      rooted trivial
    refine ⟨swept.1, swept.2.1, ?_⟩
    intro done other bits same live
    exact swept.2.2 done other bits (Option.some.inj same).symm live

theorem destroyDeviceChild_tearsDown (rooted : context.Rooted) (busy : Bool) (children : Option ObjectType)
    (wireId : UInt64)
    (leaf : ∀ child, children = some child → child ≠ .invalid ∧ ∀ type, parentType type ≠ child)
    (covered : busy = false → handleType wireId = type → ∀ child bits, context.Live child wireId bits →
      children = some (handleType child)) :
    TearsDown context wireId (context.destroyDeviceChild driver type busy children wireId) := by
  unfold destroyDeviceChild
  split
  · exact TearsDown.refused rooted _
  rename_i deviceId device bits found
  obtain ⟨isType, -, -⟩ := resolveDeviceChild_live rooted found
  split
  · exact TearsDown.refused rooted _
  rename_i free
  split
  · exact TearsDown.refused rooted _
  have swept := removeChildren_subsides rooted children wireId leaf
  split
  · rename_i code last outcome
    rw [outcome] at swept
    exact ⟨swept.1, swept.2.1, fun done => by cases done⟩
  · rename_i nothing last outcome
    rw [outcome] at swept
    refine tearsDown_destroyed swept.2.1 swept.1 type bits ?_
    intro child childBits live
    exact swept.2.2 rfl child childBits
      (covered (by simpa using free) isType child childBits (swept.2.1.live live)) live

theorem destroyLeaf_tearsDown (rooted : context.Rooted) (busy : Bool) (wireId : UInt64)
    (leaf : ∀ child, parentType child ≠ type) :
    TearsDown context wireId (context.destroyDeviceChild driver type busy none wireId) := by
  refine destroyDeviceChild_tearsDown rooted busy none wireId (fun child some => by cases some) ?_
  intro _ isType child bits live
  exact absurd live (rooted.childless_of_leaf isType leaf child bits)

theorem destroyPool_tearsDown (rooted : context.Rooted) (wireId : UInt64) {children : ObjectType}
    (isType : children ≠ .invalid) (leaf : ∀ child, parentType child ≠ children)
    (only : ∀ child, parentType child = type → child = children) :
    TearsDown context wireId (context.destroyDeviceChild driver type false (some children) wireId) := by
  refine destroyDeviceChild_tearsDown rooted false (some children) wireId ?_ ?_
  · intro child same
    cases same
    exact ⟨isType, leaf⟩
  · intro _ isPool child bits live
    have owned := rooted.typed _ _ _ live
    rw [isPool] at owned
    rw [only _ owned.symm]

theorem findObject_none {selects : HandleEntry → Bool} : ∀ remaining index,
    context.findObject selects remaining index = none →
      ∀ position, index ≤ position → position < index + remaining →
        selects (context.objects.entries position) = false := by
  intro remaining
  induction remaining with
  | zero => intro index _ position lower upper; omega
  | succ remaining ih =>
      intro index missing position lower upper
      simp only [findObject] at missing
      split at missing
      · cases missing
      · rename_i skipped
        by_cases here : position = index
        · subst here
          simpa using skipped
        · exact ih (index + 1) missing position (by omega) (by omega)

theorem ownsImageView_false {imageId : UInt64} (free : context.ownsImageView imageId = false)
    (view bits : UInt64) (isView : handleType view = .imageView) : ¬ context.Live view imageId bits := by
  rintro ⟨index, bound, entry⟩
  have skipped := findObject_none _ _ (by simpa [ownsImageView] using free) index (by omega) (by omega)
  rw [entry] at skipped
  simp [isChild, isView] at skipped

theorem imageView_of_image {child : ObjectType} (owned : parentType child = .image) : child = .imageView := by
  cases child <;> first | rfl | cases owned

theorem destroyImage_tearsDown (rooted : context.Rooted) (wireId : UInt64) :
    TearsDown context wireId (context.destroyImage driver wireId) := by
  refine destroyDeviceChild_tearsDown rooted _ none wireId (fun child some => by cases some) ?_
  intro free isImage child bits live
  have owned := rooted.typed _ _ _ live
  rw [isImage] at owned
  exact absurd live (ownsImageView_false free child bits (imageView_of_image owned.symm))

theorem destroyImageView_tearsDown (rooted : context.Rooted) (wireId : UInt64) :
    TearsDown context wireId (context.destroyImageView driver wireId) := by
  unfold destroyImageView
  split
  · exact TearsDown.refused rooted _
  rename_i imageId bits found
  have isView := (lookup_live rooted found).1
  split
  · exact TearsDown.refused rooted _
  split
  · exact TearsDown.refused rooted _
  exact tearsDown_removed (Subsides.refl context) rooted .imageView (fun last => last.nativeDestroy .imageView bits)
    (fun _ => rfl) (fun _ => rfl) (rooted.childless_of_leaf isView (owns_nothing (by decide)))

theorem freeCommandBuffer_rooted (rooted : context.Rooted) (poolId wireId : UInt64) :
    (context.freeCommandBuffer driver poolId wireId).2.Rooted := by
  unfold freeCommandBuffer
  split
  · exact rooted
  rename_i parentId bits found
  have isBuffer := (lookup_live rooted found).1
  split
  · exact rooted
  split
  · exact rooted
  split
  · exact rooted
  · have freed : (context.nativeDestroy .commandBuffer bits).Rooted := rooted.of_eq rfl rfl
    exact (removeHandle_child_tearsDown (owns_nothing (by decide)) _ wireId freed isBuffer).rooted

theorem resetDescriptorPool_rooted (rooted : context.Rooted) (poolId : UInt64) (fields : Verdict)
    (present : Bool) (result : VulkanResult) :
    (context.resetDescriptorPool poolId fields present result).2.Rooted := by
  unfold resetDescriptorPool
  split
  · exact rooted
  split
  · exact rooted
  split
  · exact rooted
  split
  · exact rooted
  have swept := removeChildren_subsides rooted (some .descriptorSet) poolId (by
    intro child same
    cases same
    exact ⟨by decide, owns_nothing (by decide)⟩)
  split
  · rename_i code last outcome
    rw [outcome] at swept
    exact swept.1
  · rename_i nothing last outcome
    rw [outcome] at swept
    exact swept.1

/-! ## Swapchains -/

/-- No live handle hangs from an image of the swapchain. -/
def Unviewed (context : ObjectContext) (images : List SwapchainImage) : Prop :=
  ∀ image ∈ images, image.imageId ≠ 0 → ∀ view bits, ¬ context.Live view image.imageId bits

theorem Unviewed.of_subsides {images : List SwapchainImage} (unviewed : context.Unviewed images)
    (subsides : Subsides context next) : next.Unviewed images := by
  intro image member some view bits live
  exact unviewed image member some view bits (subsides.live live)

theorem removeSwapchainImage_rooted (rooted : context.Rooted) (imageId : UInt64)
    (unviewed : imageId ≠ 0 → ∀ view bits, ¬ context.Live view imageId bits) :
    (context.removeSwapchainImage imageId).2.Rooted ∧
      Subsides context (context.removeSwapchainImage imageId).2 ∧
      (context.removeSwapchainImage imageId).2.swapchains = context.swapchains := by
  unfold removeSwapchainImage
  split
  · exact ⟨rooted, Subsides.refl context, rfl⟩
  · rename_i some
    have cleared : (context.clearMetadata .image imageId).Rooted := rooted.of_eq (by simp) (by simp)
    have same : Subsides context (context.clearMetadata .image imageId) := Subsides.of_eq (by simp) (by simp)
    obtain ⟨kept, subsides⟩ := cleared.removeHandle .image fun child bits live =>
      unviewed some child bits (same.live live)
    exact ⟨kept, same.trans subsides, by simp⟩

theorem nativeDestroyFound_rooted (rooted : context.Rooted) (found : Bool) (type : ObjectType)
    (handle : UInt64) :
    (context.nativeDestroyFound found type handle).Rooted ∧
      Subsides context (context.nativeDestroyFound found type handle) ∧
      (context.nativeDestroyFound found type handle).swapchains = context.swapchains := by
  unfold nativeDestroyFound
  split
  · exact ⟨rooted.of_eq rfl rfl, Subsides.of_eq rfl rfl, rfl⟩
  · exact ⟨rooted, Subsides.refl context, rfl⟩

theorem destroySwapchainImages_rooted (driver : ObjectDriver) (loaded : Bool) (device : UInt64)
    (images : List SwapchainImage) :
    ∀ (status : Option Errno) (context : ObjectContext), context.Rooted → context.Unviewed images →
      (destroySwapchainImages driver loaded device images status context).2.Rooted ∧
        Subsides context (destroySwapchainImages driver loaded device images status context).2 ∧
        (destroySwapchainImages driver loaded device images status context).2.swapchains = context.swapchains := by
  induction images with
  | nil => intro status context rooted _; exact ⟨rooted, Subsides.refl context, rfl⟩
  | cons image rest ih =>
      intro status context rooted unviewed
      simp only [destroySwapchainImages]
      obtain ⟨removed, first, firstSlots⟩ :=
        removeSwapchainImage_rooted rooted image.imageId (unviewed image (by simp))
      obtain ⟨imageless, second, secondSlots⟩ := nativeDestroyFound_rooted removed
        (loaded && driver.destroys device .image) .image image.image
      obtain ⟨freed, third, thirdSlots⟩ := nativeDestroyFound_rooted imageless
        (loaded && driver.destroys device .deviceMemory) .deviceMemory image.memory
      have subsides := (first.trans second).trans third
      have others : context.Unviewed rest := fun other member => unviewed other (by simp [member])
      obtain ⟨kept, fourth, fourthSlots⟩ := ih (firstStatus status (context.removeSwapchainImage image.imageId).1)
        _ freed (others.of_subsides subsides)
      exact ⟨kept, subsides.trans fourth,
        fourthSlots.trans (thirdSlots.trans (secondSlots.trans firstSlots))⟩

theorem removeHandle_unexpected (unexpected : handleExpect wireId type = false) :
    (context.removeHandle wireId type).2 = context := by
  simp [removeHandle, HandleTable.remove, unexpected]

theorem removeSwapchainHandle_rooted (rooted : context.Rooted) (swapchainId : UInt64) :
    (context.removeSwapchainHandle swapchainId).2.Rooted ∧
      Subsides context (context.removeSwapchainHandle swapchainId).2 ∧
      (context.removeSwapchainHandle swapchainId).2.swapchains = context.swapchains ∧
      ∀ wireId parentId nativeBits,
        (context.removeSwapchainHandle swapchainId).2.Live wireId parentId nativeBits →
        handleType wireId = .swapchain → wireId ≠ swapchainId := by
  unfold removeSwapchainHandle
  split
  · rename_i none
    refine ⟨rooted, Subsides.refl context, rfl, ?_⟩
    intro wireId parentId nativeBits live _
    rw [none]
    exact rooted.live_ne_zero live
  · cases expects : handleExpect swapchainId .swapchain with
    | false =>
        rw [removeHandle_unexpected expects]
        refine ⟨rooted, Subsides.refl context, rfl, ?_⟩
        rintro wireId parentId nativeBits live isSwapchain rfl
        have formed := (rooted.sound.live_formed live).1
        rw [(handleExpect_iff _ _).mpr ⟨formed, isSwapchain⟩] at expects
        cases expects
    | true =>
        have isSwapchain := ((handleExpect_iff _ _).mp expects).2
        obtain ⟨kept, subsides⟩ := rooted.removeHandle .swapchain
          (rooted.childless_of_leaf isSwapchain (owns_nothing (by decide)))
        refine ⟨kept, subsides, by simp, ?_⟩
        rintro wireId parentId nativeBits live _ rfl
        rw [rooted.gone_of_removeHandle live] at expects
        cases expects

theorem destroySwapchainMetadata_rooted (driver : ObjectDriver) (rooted : context.Rooted) (slot : Nat)
    (swapchain : SwapchainMetadata) (unviewed : context.Unviewed swapchain.images) :
    (context.destroySwapchainMetadata driver slot swapchain).2.Rooted ∧
      Subsides context (context.destroySwapchainMetadata driver slot swapchain).2 ∧
      (context.destroySwapchainMetadata driver slot swapchain).2.swapchains = context.swapchains ∧
      ∀ wireId parentId nativeBits,
        (context.destroySwapchainMetadata driver slot swapchain).2.Live wireId parentId nativeBits →
        handleType wireId = .swapchain → wireId ≠ swapchain.swapchainId := by
  unfold destroySwapchainMetadata
  dsimp only
  generalize (context.hasGetDeviceProcAddr && swapchain.device != 0) = loaded
  obtain ⟨unfenced, first, firstSlots⟩ := nativeDestroyFound_rooted rooted
    (loaded && driver.destroys swapchain.device .fence) .fence swapchain.presentCompletion
  obtain ⟨unpooled, second, secondSlots⟩ := nativeDestroyFound_rooted unfenced
    (loaded && driver.destroys swapchain.device .commandPool) .commandPool swapchain.producerCommandPool
  have images := destroySwapchainImages_rooted driver loaded swapchain.device swapchain.images
    (driver.stopStatus slot) _ unpooled (unviewed.of_subsides (first.trans second))
  obtain ⟨imageless, third, thirdSlots⟩ := images
  obtain ⟨handleless, fourth, fourthSlots, gone⟩ :=
    removeSwapchainHandle_rooted imageless swapchain.swapchainId
  exact ⟨handleless, ((first.trans second).trans third).trans fourth,
    fourthSlots.trans (thirdSlots.trans (secondSlots.trans firstSlots)), gone⟩

theorem Rooted.clearSlot (rooted : context.Rooted) (slot : Nat)
    (gone : ∀ wireId parentId nativeBits, context.Live wireId parentId nativeBits →
      handleType wireId = .swapchain → wireId ≠ (context.slotAt slot).swapchainId) :
    (context.setSwapchain slot .zero).Rooted ∧ Subsides context (context.setSwapchain slot .zero) := by
  have slotCount : (context.setSwapchain slot .zero).swapchains.length = wsiFrameRingMaxSlots := by
    simpa [setSwapchain] using rooted.slotCount
  refine ⟨⟨rooted.sound, slotCount, rooted.closed, rooted.typed, ?_⟩, ⟨Shrinks.refl _, ?_⟩⟩
  · intro wireId parentId nativeBits live isSwapchain
    obtain ⟨home, isHome, owner⟩ := rooted.slotted _ _ _ live isSwapchain
    have other : home ≠ slot := by
      rintro rfl
      exact gone _ _ _ live isSwapchain isHome.symm
    refine ⟨home, ?_⟩
    rw [slotAt_clear, if_neg other]
    exact ⟨isHome, owner⟩
  · intro other
    rw [slotAt_clear]
    split
    · exact Or.inr rfl
    · exact Or.inl rfl

theorem destroySwapchainSlot_rooted (driver : ObjectDriver) (rooted : context.Rooted) (slot : Nat)
    (unviewed : context.Unviewed (context.slotAt slot).images) :
    (context.destroySwapchainSlot driver slot).2.Rooted ∧
      Subsides context (context.destroySwapchainSlot driver slot).2 ∧
      (context.destroySwapchainSlot driver slot).2.slotAt slot = .zero := by
  unfold destroySwapchainSlot
  dsimp only
  obtain ⟨kept, subsides, slots, gone⟩ :=
    destroySwapchainMetadata_rooted driver rooted slot (context.slotAt slot) unviewed
  have same : ∀ other, (context.destroySwapchainMetadata driver slot (context.slotAt slot)).2.slotAt other =
      context.slotAt other := by
    intro other
    rw [slotAt, slots]
  obtain ⟨cleared, trimmed⟩ := kept.clearSlot slot (by rw [same]; exact gone)
  refine ⟨cleared, subsides.trans trimmed, ?_⟩
  rw [slotAt_clear, if_pos rfl]

theorem abandonSwapchain_rooted (rooted : context.Rooted) (slot : Nat) (swapchain : SwapchainMetadata)
    (reply : Except Errno ObjectReply) (free : (context.slotAt slot).swapchainId = 0)
    (unviewed : context.Unviewed swapchain.images) :
    (context.abandonSwapchain driver slot swapchain reply).2.Rooted := by
  unfold abandonSwapchain
  obtain ⟨kept, -, slots, -⟩ := destroySwapchainMetadata_rooted driver rooted slot swapchain unviewed
  refine (kept.clearSlot slot ?_).1
  intro wireId parentId nativeBits live _
  rw [slotAt, slots, free]
  exact kept.live_ne_zero live

/-- No live handle hangs from an id that one of the next images would get. -/
def Unclaimed (context : ObjectContext) (count : Nat) : Prop :=
  ∀ offset, offset < count → ∀ view bits,
    ¬ context.Live view (handleId .image (context.nextSerial .image + UInt64.ofNat offset)) bits

structure Preparing (context : ObjectContext) (deviceId : UInt64) (images : List SwapchainImage) : Prop where
  rooted : context.Rooted
  owner : handleType deviceId = .device ∧ ∃ physicalId device, context.Live deviceId physicalId device
  unviewed : context.Unviewed images
  typed : ∀ image ∈ images, image.imageId ≠ 0 → handleType image.imageId = .image

variable {deviceId : UInt64} {images : List SwapchainImage}

theorem Preparing.of_live (preparing : context.Preparing deviceId images) (sound : next.objects.Sound)
    (live : ∀ wireId parentId nativeBits,
      next.Live wireId parentId nativeBits ↔ context.Live wireId parentId nativeBits)
    (swapchains : next.swapchains = context.swapchains) : next.Preparing deviceId images := by
  refine ⟨preparing.rooted.of_live sound live swapchains, ?_, ?_, preparing.typed⟩
  · obtain ⟨isDevice, physicalId, device, owner⟩ := preparing.owner
    exact ⟨isDevice, physicalId, device, (live _ _ _).mpr owner⟩
  · intro image member some view bits found
    exact preparing.unviewed image member some view bits ((live _ _ _).mp found)

theorem Preparing.of_eq (preparing : context.Preparing deviceId images)
    (objects : next.objects = context.objects) (swapchains : next.swapchains = context.swapchains) :
    next.Preparing deviceId images := by
  refine preparing.of_live ?_ ?_ swapchains
  · rw [objects]
    exact preparing.rooted.sound
  · intro wireId parentId nativeBits
    rw [Live, objects]

theorem Preparing.append (preparing : context.Preparing deviceId images) (image : SwapchainImage)
    (unviewed : image.imageId ≠ 0 → ∀ view bits, ¬ context.Live view image.imageId bits)
    (typed : image.imageId ≠ 0 → handleType image.imageId = .image) :
    context.Preparing deviceId (images ++ [image]) := by
  refine ⟨preparing.rooted, preparing.owner, ?_, ?_⟩
  · intro other member
    rcases List.mem_append.mp member with old | new
    · exact preparing.unviewed other old
    · rw [List.mem_singleton.mp new]
      exact unviewed
  · intro other member
    rcases List.mem_append.mp member with old | new
    · exact preparing.typed other old
    · rw [List.mem_singleton.mp new]
      exact typed

theorem Preparing.nameless (preparing : context.Preparing deviceId images) (image memory : UInt64) :
    context.Preparing deviceId (images ++ [⟨0, image, memory⟩]) :=
  preparing.append _ (fun some => absurd rfl some) (fun some => absurd rfl some)

theorem handleId_image_ne_device (isDevice : handleType deviceId = .device) (serial : UInt64) :
    handleId .image serial ≠ deviceId := by
  rintro rfl
  by_cases none : handleId .image serial = 0
  · rw [none] at isDevice
    revert isDevice
    decide
  · rw [handleType_handleId none] at isDevice
    cases isDevice

theorem Preparing.insert (preparing : context.Preparing deviceId images) {objects : HandleTable}
    {imageBits : UInt64} (memory : UInt64)
    (inserted : context.objects.insert (handleId .image (context.nextSerial .image)) deviceId imageBits =
      .ok objects) :
    Preparing { (context.takeSerial .image).2 with objects := objects } deviceId
      (images ++ [⟨handleId .image (context.nextSerial .image), imageBits, memory⟩]) := by
  obtain ⟨isDevice, physicalId, device, owner⟩ := preparing.owner
  obtain ⟨-, -, formed, -, absent, live⟩ := preparing.rooted.sound.insert_ok inserted
  have isImage := handleType_takeSerial preparing.rooted inserted
  have rooted := preparing.rooted.insertNext inserted (Or.inr ⟨_, _, owner⟩) isDevice (by decide)
  have others : Preparing { (context.takeSerial .image).2 with objects := objects } deviceId images := by
    refine ⟨rooted, ⟨isDevice, physicalId, device, (live _ _ _).mpr (Or.inl owner)⟩, ?_, preparing.typed⟩
    intro image member some view bits found
    rcases (live _ _ _).mp found with old | ⟨-, same, -⟩
    · exact preparing.unviewed image member some view bits old
    · have isOther := preparing.typed image member some
      rw [same, isDevice] at isOther
      cases isOther
  refine others.append _ ?_ (fun _ => isImage)
  intro some view bits found
  rcases (live _ _ _).mp found with old | ⟨-, same, -⟩
  · obtain ⟨upId, upBits, up⟩ := preparing.rooted.closed _ _ _ old some
    exact absent _ _ up
  · exact handleId_image_ne_device isDevice _ same

theorem Unclaimed.afterInsert {count : Nat} (unclaimed : context.Unclaimed (count + 1))
    (preparing : context.Preparing deviceId images) {objects : HandleTable} {imageBits : UInt64}
    (inserted : context.objects.insert (handleId .image (context.nextSerial .image)) deviceId imageBits =
      .ok objects) : Unclaimed { (context.takeSerial .image).2 with objects := objects } count := by
  intro offset bound view bits found
  have serial : context.nextSerial .image + 1 + UInt64.ofNat offset =
      context.nextSerial .image + UInt64.ofNat (offset + 1) := by
    rw [UInt64.ofNat_add, UInt64.add_assoc, UInt64.add_comm 1]
    rfl
  simp only [takeSerial, Function.update_self, serial] at found
  rcases ((preparing.rooted.sound.insert_ok inserted).2.2.2.2.2 _ _ _).mp found with old | ⟨-, same, -⟩
  · exact unclaimed (offset + 1) (by omega) view bits old
  · exact handleId_image_ne_device preparing.owner.1 _ same

theorem Unclaimed.of_eq {count : Nat} (unclaimed : context.Unclaimed count)
    (objects : next.objects = context.objects) (serials : next.nextSerial = context.nextSerial) :
    next.Unclaimed count := by
  simpa only [Unclaimed, Live, objects, serials] using unclaimed

theorem prepareSwapchainImages_preparing (answers : Nat → SwapchainImageAnswers) : ∀ remaining index images
    (context : ObjectContext), context.Preparing deviceId images → context.Unclaimed remaining →
      (prepareSwapchainImages answers deviceId remaining index images context).2.Preparing deviceId
          (prepareSwapchainImages answers deviceId remaining index images context).1.images ∧
        (prepareSwapchainImages answers deviceId remaining index images context).2.swapchains =
          context.swapchains := by
  intro remaining
  induction remaining with
  | zero => intro index images context preparing _; exact ⟨preparing, rfl⟩
  | succ remaining ih =>
      intro index images context preparing unclaimed
      simp only [prepareSwapchainImages]
      split
      · exact ⟨preparing, rfl⟩
      have imaged : (context.nativeCreate .image (answers index).image).Preparing deviceId images :=
        preparing.of_eq (by simp) (by simp)
      split
      · exact ⟨imaged.nameless _ _, by simp⟩
      split
      · exact ⟨imaged.nameless _ _, by simp⟩
      generalize isBacked : (context.nativeCreate .image (answers index).image).nativeCreate .deviceMemory
        (answers index).memory = backed
      have slots : backed.swapchains = context.swapchains := by rw [← isBacked]; simp
      have held : backed.Preparing deviceId images := by
        rw [← isBacked]
        exact imaged.of_eq (by simp) (by simp)
      have claims : backed.Unclaimed (remaining + 1) := by
        rw [← isBacked]
        exact unclaimed.of_eq (by simp) (by simp)
      split
      · exact ⟨held.nameless _ _, slots⟩
      split
      · exact ⟨held.nameless _ _, slots⟩
      have claimed := claims 0 (by omega)
      have first : backed.nextSerial .image + UInt64.ofNat 0 = backed.nextSerial .image := by simp
      rw [first] at claimed
      simp only [takeSerial]
      split
      · refine ⟨Preparing.of_eq (held.append ⟨handleId .image (backed.nextSerial .image), _, _⟩
          (fun _ => claimed) (fun some => handleType_handleId some)) rfl rfl, slots⟩
      · rename_i objects inserted
        have grown := held.insert (answers index).memory.handle inserted
        split
        · obtain ⟨left, removed, sound, live⟩ := held.rooted.sound.insert_remove
            (handleType_takeSerial held.rooted inserted) inserted
          simp only [removeHandle, removed]
          exact ⟨Preparing.of_live (held.nameless _ _) sound live rfl, slots⟩
        · refine And.imp_right (fun rest => rest.trans slots) (ih _ _ _ ?_ ?_)
          · exact grown.of_eq rfl rfl
          · exact (claims.afterInsert held inserted).of_eq rfl rfl

theorem Rooted.insertSwapchain (rooted : context.Rooted) {objects : HandleTable} {swapchain : SwapchainMetadata}
    {slot : Nat} (bound : slot < context.swapchains.length) (free : (context.slotAt slot).swapchainId = 0)
    (inserted : context.objects.insert wireId swapchain.deviceId nativeBits = .ok objects)
    (isSwapchain : handleType wireId = .swapchain) (isDevice : handleType swapchain.deviceId = .device)
    (owner : ∃ upId upBits, context.Live swapchain.deviceId upId upBits) :
    ({ context with objects := objects }.setSwapchain slot { swapchain with swapchainId := wireId }).Rooted := by
  obtain ⟨sound, -, -, -, -, live⟩ := rooted.sound.insert_ok inserted
  obtain ⟨upId, upBits, up⟩ := owner
  refine ⟨sound, by simpa [setSwapchain] using rooted.slotCount, ?_, ?_, ?_⟩
  · intro id parent bits found owned
    rcases (live _ _ _).mp found with old | ⟨rfl, rfl, rfl⟩
    · obtain ⟨ownerId, ownerBits, owner⟩ := rooted.closed _ _ _ old owned
      exact ⟨ownerId, ownerBits, (live _ _ _).mpr (Or.inl owner)⟩
    · exact ⟨upId, upBits, (live _ _ _).mpr (Or.inl up)⟩
  · intro id parent bits found
    rcases (live _ _ _).mp found with old | ⟨rfl, rfl, rfl⟩
    · exact rooted.typed _ _ _ old
    · rw [isSwapchain, isDevice]
      rfl
  · intro id parent bits found isSlot
    have placed := slotAt_setSwapchain { context with objects := objects } slot
    rcases (live _ _ _).mp found with old | ⟨rfl, rfl, rfl⟩
    · obtain ⟨home, isHome, isOwner⟩ := rooted.slotted _ _ _ old isSlot
      have other : home ≠ slot := by
        rintro rfl
        exact rooted.live_ne_zero old (isHome.symm.trans free)
      refine ⟨home, ?_⟩
      rw [placed home _ bound, if_neg other]
      exact ⟨isHome, isOwner⟩
    · refine ⟨slot, ?_⟩
      rw [placed slot _ bound, if_pos rfl]
      exact ⟨rfl, rfl⟩

theorem registerSwapchain_rooted (preparing : context.Preparing deviceId images) (slot : Nat)
    (duplicated : Option Errno) (swapchain : SwapchainMetadata) (isDevice : swapchain.deviceId = deviceId)
    (isImages : swapchain.images = images) (bound : slot < context.swapchains.length)
    (free : (context.slotAt slot).swapchainId = 0) :
    (context.registerSwapchain driver slot duplicated swapchain).2.Rooted := by
  subst isDevice isImages
  obtain ⟨ofDevice, physicalId, device, owner⟩ := preparing.owner
  unfold registerSwapchain
  split
  · exact abandonSwapchain_rooted preparing.rooted slot swapchain _ free preparing.unviewed
  · simp only [takeSerial]
    have numbered : (context.takeSerial .swapchain).2.Rooted := preparing.rooted.of_eq rfl rfl
    split
    · exact abandonSwapchain_rooted numbered slot { swapchain with swapchainId := _ } _ free preparing.unviewed
    · rename_i objects inserted
      exact numbered.insertSwapchain bound free inserted
        (handleType_takeSerial preparing.rooted inserted) ofDevice ⟨_, _, owner⟩

theorem createSwapchainProducerResources_frame (context : ObjectContext) (answers : SwapchainAnswers)
    (swapchain : SwapchainMetadata) :
    (context.createSwapchainProducerResources answers swapchain).2.2.objects = context.objects ∧
      (context.createSwapchainProducerResources answers swapchain).2.2.swapchains = context.swapchains ∧
      (context.createSwapchainProducerResources answers swapchain).2.2.nextSerial = context.nextSerial ∧
      (context.createSwapchainProducerResources answers swapchain).2.1.deviceId = swapchain.deviceId ∧
      (context.createSwapchainProducerResources answers swapchain).2.1.images = swapchain.images := by
  unfold createSwapchainProducerResources
  split
  · exact ⟨rfl, rfl, rfl, rfl, rfl⟩
  split
  · exact ⟨rfl, rfl, rfl, rfl, rfl⟩
  split
  · exact ⟨rfl, rfl, rfl, rfl, rfl⟩
  split
  · exact ⟨rfl, rfl, rfl, rfl, rfl⟩
  split
  · exact ⟨rfl, rfl, rfl, rfl, rfl⟩
  dsimp only
  split
  · simp
  split
  · simp
  · simp

theorem prepareSwapchain_rooted (rooted : context.Rooted) (deviceId : UInt64) (minImageCount : Nat)
    (fields : Verdict) (answers : SwapchainAnswers) (unclaimed : context.Unclaimed minImageCount) :
    (context.prepareSwapchain driver deviceId minImageCount fields answers).2.Rooted := by
  unfold prepareSwapchain
  split
  · exact rooted
  split
  · exact rooted
  split
  · exact rooted
  rename_i slot found
  obtain ⟨bound, isFree, -⟩ := List.findIdx?_eq_some_iff_getElem.mp found
  have free : (context.slotAt slot).swapchainId = 0 := by
    simpa [slotAt, List.getD_eq_getElem?_getD, bound] using isFree
  have start := (rooted.clearSlot slot fun wireId parentId nativeBits live _ => by
    rw [free]
    exact rooted.live_ne_zero live).1
  generalize isStart : context.setSwapchain slot .zero = started at *
  have objects : started.objects = context.objects := by rw [← isStart]; rfl
  have serials : started.nextSerial = context.nextSerial := by rw [← isStart]; rfl
  have bound : slot < started.swapchains.length := by
    rw [← isStart]
    simpa [setSwapchain] using bound
  have free : (started.slotAt slot).swapchainId = 0 := by
    rw [← isStart, slotAt_clear, if_pos rfl]
    rfl
  dsimp only
  split
  · exact start
  rename_i physicalId device foundDevice
  split
  · exact start
  split
  · exact start
  have owner := lookup_live rooted foundDevice
  have preparing : started.Preparing deviceId [] := by
    refine ⟨start, ⟨owner.1, physicalId, device, ?_⟩, ?_, ?_⟩
    · rw [Live, objects]
      exact owner.2
    · intro image member
      cases member
    · intro image member
      cases member
  split
  · exact abandonSwapchain_rooted start slot _ _ free preparing.unviewed
  have frame := createSwapchainProducerResources_frame started answers
    ⟨0, deviceId, device, 0, [], 0, []⟩
  split
  · rename_i code swapchain last outcome
    rw [outcome] at frame
    obtain ⟨sameObjects, sameSlots, -, -, noImages⟩ := frame
    refine abandonSwapchain_rooted (start.of_eq sameObjects sameSlots) slot swapchain _ ?_ ?_
    · rw [slotAt, sameSlots]
      exact free
    · intro image member
      rw [noImages] at member
      cases member
  · rename_i swapchain last outcome
    rw [outcome] at frame
    obtain ⟨sameObjects, sameSlots, sameSerials, ofDevice, -⟩ := frame
    have made := prepareSwapchainImages_preparing answers.images minImageCount 0 [] last
      (preparing.of_eq sameObjects sameSlots)
      (unclaimed.of_eq (sameObjects.trans objects) (sameSerials.trans serials))
    have slots := made.2.trans sameSlots
    split
    · refine abandonSwapchain_rooted made.1.rooted slot _ _ ?_ made.1.unviewed
      rw [slotAt, slots]
      exact free
    · refine registerSwapchain_rooted made.1 slot _ _ ofDevice rfl ?_ ?_
      · rw [slots]
        exact bound
      · rw [slotAt, slots]
        exact free

/-! ## Devices -/

/-- No live handle hangs from an image of a swapchain of the device. -/
def UnviewedDevice (deviceId : UInt64) (context : ObjectContext) : Prop :=
  ∀ slot, (context.slotAt slot).swapchainId ≠ 0 → (context.slotAt slot).deviceId = deviceId →
    context.Unviewed (context.slotAt slot).images

theorem UnviewedDevice.of_subsides (current later : ObjectContext) (subsides : Subsides current later)
    (unviewed : UnviewedDevice deviceId current) : UnviewedDevice deviceId later := by
  intro slot inUse isDevice
  rcases subsides.slots slot with same | zero
  · rw [same] at inUse isDevice ⊢
    exact (unviewed slot inUse isDevice).of_subsides subsides
  · rw [zero] at inUse
    exact absurd rfl inUse

/-- One stage of a teardown: it keeps the tree, and what it removes is gone
when it succeeds. -/
structure Stage (deviceId : UInt64) (removes : ObjectContext → Prop) (stage : ObjectContext → Completed) :
    Prop where
  keeps : ∀ current, current.Rooted → UnviewedDevice deviceId current →
    (stage current).2.Rooted ∧ Subsides current (stage current).2
  removes : ∀ current, current.Rooted → UnviewedDevice deviceId current → (stage current).1 = .ok () →
    ∀ later, later.Rooted → Subsides (stage current).2 later → removes later

theorem runStages_keeps {stages : List (ObjectContext → Completed)}
    (each : ∀ stage ∈ stages, ∃ removes, Stage deviceId removes stage) : ∀ context : ObjectContext,
      context.Rooted → UnviewedDevice deviceId context →
      (runStages stages context).2.Rooted ∧ Subsides context (runStages stages context).2 := by
  induction stages with
  | nil => intro context rooted _; exact ⟨rooted, Subsides.refl context⟩
  | cons stage rest ih =>
      intro context rooted unviewed
      obtain ⟨removes, first⟩ := each stage (by simp)
      have kept := first.keeps context rooted unviewed
      simp only [runStages]
      split
      · rename_i code last outcome
        rw [outcome] at kept
        exact kept
      · rename_i nothing last outcome
        rw [outcome] at kept
        have later := ih (fun other member => each other (by simp [member])) last kept.1
          (UnviewedDevice.of_subsides _ _ kept.2 unviewed)
        exact ⟨later.1, kept.2.trans later.2⟩

theorem runStages_removes {stages : List (ObjectContext → Completed)}
    (each : ∀ stage ∈ stages, ∃ removes, Stage deviceId removes stage) : ∀ context : ObjectContext,
      context.Rooted → UnviewedDevice deviceId context → (runStages stages context).1 = .ok () →
      ∀ stage ∈ stages, ∀ removes, Stage deviceId removes stage → removes (runStages stages context).2 := by
  induction stages with
  | nil => intro context _ _ _ stage member; cases member
  | cons first rest ih =>
      intro context rooted unviewed done stage member removes isStage
      have others : ∀ other ∈ rest, ∃ removes, Stage deviceId removes other :=
        fun other inside => each other (by simp [inside])
      obtain ⟨ofFirst, isFirst⟩ := each first (by simp)
      have kept := isFirst.keeps context rooted unviewed
      simp only [runStages] at done ⊢
      split at done
      · cases done
      · rename_i nothing last outcome
        rw [outcome] at kept
        have calm := UnviewedDevice.of_subsides _ _ kept.2 unviewed
        rcases List.mem_cons.mp member with rfl | inside
        · have later := runStages_keeps others last kept.1 calm
          refine isStage.removes context rooted unviewed (by rw [outcome]) _ later.1 ?_
          rw [outcome]
          exact later.2
        · exact ih others last kept.1 calm done stage inside removes isStage

def Childless (type : ObjectType) (deviceId : UInt64) (context : ObjectContext) : Prop :=
  ∀ childId bits, handleType childId = type → ¬ context.Live childId deviceId bits

theorem stage_sweepChildren (isType : type ≠ .invalid) (act : ObjectContext → UInt64 → Completed)
    (acts : ∀ current childId, current.Rooted → handleType childId = type →
      TearsDown current childId (act current childId)) :
    Stage deviceId (Childless type deviceId) fun current => current.sweepChildren type deviceId act := by
  have swept := fun (current : ObjectContext) (rooted : current.Rooted) =>
    sweepChildren_tearsDown type deviceId (fun _ => True) act isType (fun _ _ _ _ => trivial)
      (fun current childId _ kept _ isChild _ => acts current childId kept isChild) rooted trivial
  refine ⟨fun current rooted _ => ⟨(swept current rooted).1, (swept current rooted).2.1⟩, ?_⟩
  intro current rooted _ done later _ subsides childId bits isChild live
  exact (swept current rooted).2.2 done childId bits isChild (subsides.live live)

theorem stage_swapchain (slot : Nat) :
    Stage deviceId (fun context => (context.slotAt slot).swapchainId ≠ 0 → (context.slotAt slot).deviceId ≠ deviceId)
      fun current => current.destroyDeviceSwapchain driver deviceId slot := by
  refine ⟨?_, ?_⟩
  · intro current rooted unviewed
    unfold destroyDeviceSwapchain
    dsimp only
    split
    · rename_i inUse
      have torn := destroySwapchainSlot_rooted driver rooted slot (unviewed slot inUse.1 inUse.2)
      exact ⟨torn.1, torn.2.1⟩
    · exact ⟨rooted, Subsides.refl current⟩
  · intro current rooted unviewed _ later _ subsides inUse isDevice
    have zero : (later.slotAt slot).swapchainId = 0 := by
      unfold destroyDeviceSwapchain at subsides
      dsimp only at subsides
      split at subsides
      · rename_i mine
        have torn := destroySwapchainSlot_rooted driver rooted slot (unviewed slot mine.1 mine.2)
        rcases subsides.slots slot with same | zero
        · rw [same, torn.2.2]
          rfl
        · rw [zero]
          rfl
      · rename_i other
        rcases subsides.slots slot with same | zero
        · rw [same] at inUse isDevice
          exact absurd ⟨inUse, isDevice⟩ other
        · rw [zero]
          rfl
    exact inUse zero

theorem stage_imageViews : Stage deviceId (fun _ => True) fun current => current.sweepImageViews driver deviceId := by
  refine ⟨?_, fun _ _ _ _ _ _ _ => trivial⟩
  intro current rooted _
  have swept : (current.sweepImageViews driver deviceId).2.Rooted ∧
      Subsides current (current.sweepImageViews driver deviceId).2 ∧ _ :=
    sweep_tearsDown _ _ (fun _ => True) (fun _ _ _ _ => trivial)
      (by
        intro current entry selected
        simp only [Bool.and_eq_true, beq_iff_eq] at selected
        rw [selected.1]
        decide)
      (fun current index kept _ _ _ => destroyImageView_tearsDown kept _)
      current.objects.capacity 0 current rooted trivial (by omega)
  exact ⟨swept.1, swept.2.1⟩

theorem pool_only (pool children : ObjectType)
    (checked : (ObjectType.all.all fun child => parentType child != pool || child == children) = true)
    (child : ObjectType) (owned : parentType child = pool) : child = children := by
  have listed : child ∈ ObjectType.all := by cases child <;> decide
  simpa [owned] using List.all_eq_true.mp checked child listed

theorem swept_tearsDown {swept : ObjectType × (ObjectContext → UInt64 → Completed)}
    (member : swept ∈ sweptBeforeViews driver ++ sweptAfterViews driver) :
    swept.1 ≠ .invalid ∧ ∀ current childId, current.Rooted → handleType childId = swept.1 →
      TearsDown current childId (swept.2 current childId) := by
  simp only [sweptBeforeViews, sweptAfterViews, List.cons_append, List.nil_append, List.mem_cons,
    List.not_mem_nil, or_false] at member
  have leaf : ∀ {type : ObjectType} (busy : ObjectContext → UInt64 → Bool),
      (∀ child, parentType child ≠ type) → ∀ (current : ObjectContext) (childId : UInt64), current.Rooted →
        handleType childId = type →
        TearsDown current childId (current.destroyDeviceChild driver type (busy current childId) none childId) :=
    fun busy nothing current childId rooted _ =>
      destroyLeaf_tearsDown rooted (busy current childId) childId nothing
  rcases member with rfl | rfl | rfl | rfl | rfl | rfl | rfl | rfl | rfl | rfl | rfl | rfl | rfl | rfl
  · exact ⟨by simp, leaf (fun _ _ => false) (owns_nothing rfl)⟩
  · exact ⟨by simp, leaf (fun _ _ => false) (owns_nothing rfl)⟩
  · exact ⟨by simp, leaf (fun _ _ => false) (owns_nothing rfl)⟩
  · exact ⟨by simp, fun current childId rooted _ => destroyPool_tearsDown rooted childId (by decide)
      (owns_nothing rfl) (pool_only _ _ rfl)⟩
  · exact ⟨by simp, leaf (fun _ _ => false) (owns_nothing rfl)⟩
  · exact ⟨by simp, leaf (fun _ _ => false) (owns_nothing rfl)⟩
  · exact ⟨by simp, leaf (fun _ _ => false) (owns_nothing rfl)⟩
  · exact ⟨by simp, fun current childId rooted _ => destroyPool_tearsDown rooted childId (by decide)
      (owns_nothing rfl) (pool_only _ _ rfl)⟩
  · exact ⟨by simp, fun current childId rooted _ => destroyImage_tearsDown rooted childId⟩
  · exact ⟨by simp, leaf (fun _ _ => false) (owns_nothing rfl)⟩
  · exact ⟨by simp, leaf (fun current childId => current.mirrors.any fun mirror => mirror.memoryId == childId)
      (owns_nothing rfl)⟩
  · exact ⟨by simp, leaf (fun _ _ => false) (owns_nothing rfl)⟩
  · exact ⟨by simp, leaf (fun _ _ => false) (owns_nothing rfl)⟩
  · exact ⟨by simp, removeHandle_child_tearsDown (owns_nothing rfl)⟩

theorem swept_of_device (driver : ObjectDriver) (owned : parentType type = .device) (other : type ≠ .swapchain) :
    ∃ act, (type, act) ∈ sweptBeforeViews driver ++ sweptAfterViews driver := by
  cases type <;> first
    | exact absurd rfl other
    | exact ObjectType.noConfusion owned
    | simp [sweptBeforeViews, sweptAfterViews]

theorem destroyDeviceStages_sweep (deviceId : UInt64)
    {swept : ObjectType × (ObjectContext → UInt64 → Completed)}
    (member : swept ∈ sweptBeforeViews driver ++ sweptAfterViews driver) :
    (fun current => current.sweepChildren swept.1 deviceId swept.2) ∈ destroyDeviceStages driver deviceId ∧
      Stage deviceId (Childless swept.1 deviceId) fun current => current.sweepChildren swept.1 deviceId swept.2 := by
  obtain ⟨isType, acts⟩ := swept_tearsDown member
  refine ⟨?_, stage_sweepChildren isType swept.2 acts⟩
  simp only [destroyDeviceStages, List.mem_append, List.mem_map]
  rcases List.mem_append.mp member with before | after
  · exact Or.inl (Or.inl (Or.inr ⟨swept, before, rfl⟩))
  · exact Or.inr ⟨swept, after, rfl⟩

theorem destroyDeviceStages_each (driver : ObjectDriver) (deviceId : UInt64) :
    ∀ stage ∈ destroyDeviceStages driver deviceId, ∃ removes, Stage deviceId removes stage := by
  intro stage member
  simp only [destroyDeviceStages, List.mem_append, List.mem_map, List.mem_singleton] at member
  rcases member with ((⟨slot, -, rfl⟩ | ⟨swept, before, rfl⟩) | rfl) | ⟨swept, after, rfl⟩
  · exact ⟨_, stage_swapchain slot⟩
  · exact ⟨_, (destroyDeviceStages_sweep deviceId (List.mem_append_left _ before)).2⟩
  · exact ⟨_, stage_imageViews⟩
  · exact ⟨_, (destroyDeviceStages_sweep deviceId (List.mem_append_right _ after)).2⟩

theorem destroyDeviceStages_childless (driver : ObjectDriver) (rooted : context.Rooted)
    (unviewed : UnviewedDevice deviceId context) (isDevice : handleType deviceId = .device)
    (done : (runStages (destroyDeviceStages driver deviceId) context).1 = .ok ()) (child bits : UInt64) :
    ¬ (runStages (destroyDeviceStages driver deviceId) context).2.Live child deviceId bits := by
  intro live
  have kept := runStages_keeps (destroyDeviceStages_each driver deviceId) context rooted unviewed
  have owned := (kept.1.typed _ _ _ live).symm.trans isDevice
  have removed := runStages_removes (destroyDeviceStages_each driver deviceId) context rooted unviewed done
  by_cases isSwapchain : handleType child = .swapchain
  · obtain ⟨slot, isSlot, isOwner⟩ := kept.1.slotted _ _ _ live isSwapchain
    have inUse : ((runStages (destroyDeviceStages driver deviceId) context).2.slotAt slot).swapchainId ≠ 0 := by
      rw [isSlot]
      exact kept.1.live_ne_zero live
    have bound : slot < wsiFrameRingMaxSlots := by
      by_contra outside
      rcases kept.2.slots slot with same | zero
      · have beyond : context.slotAt slot = .zero := by
          have short := rooted.slotCount
          rw [slotAt, List.getD_eq_getElem?_getD, List.getElem?_eq_none (by omega)]
          rfl
        rw [same, beyond] at inUse
        exact inUse rfl
      · rw [zero] at inUse
        exact inUse rfl
    have listed : (fun current => current.destroyDeviceSwapchain driver deviceId slot) ∈
        destroyDeviceStages driver deviceId := by
      simp only [destroyDeviceStages, List.mem_append, List.mem_map, List.mem_range]
      exact Or.inl (Or.inl (Or.inl ⟨slot, bound, rfl⟩))
    exact removed _ listed _ (stage_swapchain slot) inUse isOwner
  · obtain ⟨act, member⟩ := swept_of_device driver owned isSwapchain
    obtain ⟨listed, isStage⟩ := destroyDeviceStages_sweep deviceId member
    exact removed _ listed _ isStage child bits rfl live

theorem destroyDeviceChecks_device (rooted : context.Rooted) {device : UInt64}
    (admitted : context.destroyDeviceChecks driver deviceId = .ok device) : handleType deviceId = .device := by
  unfold destroyDeviceChecks at admitted
  split at admitted
  · cases admitted
  split at admitted
  · cases admitted
  · rename_i found
    exact (lookup_live rooted found).1

theorem destroyDevice_tearsDown (rooted : context.Rooted)
    (unviewed : ∀ device, context.destroyDeviceChecks driver deviceId = .ok device →
      UnviewedDevice deviceId context) :
    TearsDown context deviceId (context.destroyDevice driver deviceId) := by
  unfold destroyDevice
  split
  · exact TearsDown.refused rooted _
  rename_i device admitted
  have isDevice := destroyDeviceChecks_device rooted admitted
  have calm := unviewed device admitted
  have kept := runStages_keeps (destroyDeviceStages_each driver deviceId) context rooted calm
  split
  · rename_i code last outcome
    rw [outcome] at kept
    exact ⟨kept.1, kept.2, fun done => by cases done⟩
  · rename_i nothing last outcome
    have childless := destroyDeviceStages_childless driver rooted calm isDevice (by rw [outcome])
    rw [outcome] at kept childless
    exact tearsDown_destroyed kept.2 kept.1 .device device childless

/-- No live handle hangs from an image of a swapchain of the instance. -/
def UnviewedInstance (instanceId : UInt64) (context : ObjectContext) : Prop :=
  ∀ deviceId physicalId device physicalBits, context.Live deviceId physicalId device →
    context.Live physicalId instanceId physicalBits → UnviewedDevice deviceId context

theorem UnviewedInstance.of_subsides {instanceId : UInt64} (current later : ObjectContext)
    (subsides : Subsides current later) (unviewed : UnviewedInstance instanceId current) :
    UnviewedInstance instanceId later := by
  intro deviceId physicalId device physicalBits owned parent
  exact UnviewedDevice.of_subsides _ _ subsides
    (unviewed deviceId physicalId device physicalBits (subsides.live owned) (subsides.live parent))

def Deviceless (instanceId : UInt64) (context : ObjectContext) : Prop :=
  ∀ deviceId physicalId device physicalBits, handleType deviceId = .device →
    context.Live deviceId physicalId device → ¬ context.Live physicalId instanceId physicalBits

theorem Deviceless.of_subsides {instanceId : UInt64} (current later : ObjectContext)
    (subsides : Subsides current later) (deviceless : Deviceless instanceId current) :
    Deviceless instanceId later := by
  intro deviceId physicalId device physicalBits isDevice owned parent
  exact deviceless deviceId physicalId device physicalBits isDevice (subsides.live owned) (subsides.live parent)

theorem sweepDevices_subsides (driver : ObjectDriver) {instanceId : UInt64}
    (rooted : context.Rooted) (unviewed : UnviewedInstance instanceId context) :
    (context.sweepDevices driver instanceId).2.Rooted ∧
      Subsides context (context.sweepDevices driver instanceId).2 ∧
      ((context.sweepDevices driver instanceId).1 = .ok () →
        Deviceless instanceId (context.sweepDevices driver instanceId).2) := by
  have swept : (context.sweepDevices driver instanceId).2.Rooted ∧
      Subsides context (context.sweepDevices driver instanceId).2 ∧
      ((context.sweepDevices driver instanceId).1 = .ok () → ∀ position, 0 ≤ position →
        position < 0 + context.objects.capacity → Passed _ (context.sweepDevices driver instanceId).2 position) :=
    sweep_tearsDown _ _ (UnviewedInstance instanceId) UnviewedInstance.of_subsides
      (by
        intro current entry selected
        simp only [Bool.and_eq_true, beq_iff_eq] at selected
        rw [selected.1]
        decide)
      (by
        intro current index kept calm bound selected
        simp only [Bool.and_eq_true, beq_iff_eq] at selected
        have live := kept.sound.live_of_type bound (by rw [selected.1]; decide)
        refine destroyDevice_tearsDown kept fun device _ => ?_
        have physical := selected.2
        split at physical
        · cases physical
        · rename_i physicalParent physicalBits found
          rw [beq_iff_eq] at physical
          subst physical
          exact calm _ _ _ _ live (lookup_live kept found).2)
      context.objects.capacity 0 context rooted unviewed (by omega)
  refine ⟨swept.1, swept.2.1, ?_⟩
  intro done deviceId physicalId device physicalBits isDevice live parent
  have bound := swept.2.1.shrinks.capacity
  obtain ⟨current, subsides, kept, skipped⟩ := left_of_sweep
    (fun position inside => swept.2.2 done position (by omega) (by rw [bound] at inside; omega)) live
  have isPhysical : handleType physicalId = .physicalDevice := by
    rw [swept.1.typed _ _ _ live, isDevice]
    rfl
  have found : current.objects.lookup physicalId .physicalDevice = .ok (instanceId, physicalBits) := by
    have alive := subsides.live parent
    exact kept.sound.lookup_eq_ok.mpr
      ⟨(handleExpect_iff _ _).mpr ⟨(kept.sound.live_formed alive).1, isPhysical⟩, alive⟩
  simp [isDevice, found] at skipped

theorem destroyInstance_tearsDown {instanceId : UInt64} (rooted : context.Rooted)
    (unviewed : UnviewedInstance instanceId context) :
    TearsDown context instanceId (context.destroyInstance driver instanceId) := by
  unfold destroyInstance
  split
  · exact TearsDown.refused rooted _
  split
  · exact TearsDown.refused rooted _
  rename_i owner nativeBits found
  have isInstance := (lookup_live rooted found).1
  have devices := sweepDevices_subsides driver rooted unviewed
  split
  · rename_i code last outcome
    rw [outcome] at devices
    exact ⟨devices.1, devices.2.1, fun done => by cases done⟩
  rename_i nothing bare outcome
  rw [outcome] at devices
  obtain ⟨kept, subsides, deviceless⟩ := devices
  have physicals := sweepChildren_tearsDown .physicalDevice instanceId (Deviceless instanceId)
    (fun current childId => current.removeHandle childId .physicalDevice) (by decide)
    Deviceless.of_subsides
    (by
      intro current childId childBits rooted deviceless isPhysical live
      refine rooted.tearsDown_removeHandle .physicalDevice ?_
      intro child bits owned
      have isDevice := rooted.typed _ _ _ owned
      rw [isPhysical] at isDevice
      exact deviceless child childId bits childBits (pool_only _ .device (by decide) _ isDevice.symm) owned live)
    kept (deviceless rfl)
  split
  · rename_i code last ended
    rw [ended] at physicals
    exact ⟨physicals.1, subsides.trans physicals.2.1, fun done => by cases done⟩
  rename_i nothing last ended
  rw [ended] at physicals
  refine tearsDown_removed (subsides.trans physicals.2.1) physicals.1 .inst
    (fun last => last.nativeDestroy .inst nativeBits) (fun _ => rfl) (fun _ => rfl) ?_
  intro child bits live
  have isPhysical := physicals.1.typed _ _ _ live
  rw [isInstance] at isPhysical
  exact physicals.2.2 rfl child bits (pool_only _ .physicalDevice (by decide) _ isPhysical.symm) live

end ObjectContext

end VulkanBridge
