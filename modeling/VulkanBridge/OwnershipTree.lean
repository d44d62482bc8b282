import VulkanBridge.ObjectCalls
import VulkanBridge.Runs

/-!
The ownership tree of a service context: every live handle has a live parent of
the type its own type asks for, and every live swapchain a slot.
-/

namespace VulkanBridge

open HandleTable

def parentType : ObjectType → ObjectType
  | .physicalDevice => .inst
  | .device => .physicalDevice
  | .imageView => .image
  | .commandBuffer => .commandPool
  | .descriptorSet => .descriptorPool
  | .queue | .swapchain | .image | .deviceMemory | .commandPool | .pipelineLayout | .pipeline | .semaphore
  | .fence | .buffer | .descriptorSetLayout | .descriptorPool | .sampler | .descriptorUpdateTemplate
  | .queryPool => .device
  | .invalid | .inst | .surface | .shaderModule | .renderPass | .framebuffer => .invalid

theorem owns_nothing {type : ObjectType}
    (checked : (ObjectType.all.all fun child => parentType child != type) = true) (child : ObjectType) :
    parentType child ≠ type := by
  have listed : child ∈ ObjectType.all := by cases child <;> decide
  simpa using List.all_eq_true.mp checked child listed

namespace ObjectContext

abbrev Live (context : ObjectContext) (wireId parentId nativeBits : UInt64) : Prop :=
  context.objects.Live wireId parentId nativeBits

/-- The swapchain in a slot. -/
abbrev slotAt (context : ObjectContext) (slot : Nat) : SwapchainMetadata := context.swapchains.getD slot .zero

/-- Each live entry with a parent has it live in the table. -/
def Closed (context : ObjectContext) : Prop :=
  ∀ wireId parentId nativeBits, context.Live wireId parentId nativeBits → parentId ≠ 0 →
    ∃ upId upBits, context.Live parentId upId upBits

structure Rooted (context : ObjectContext) : Prop where
  sound : context.objects.Sound
  slotCount : context.swapchains.length = wsiFrameRingMaxSlots
  closed : context.Closed
  typed : ∀ wireId parentId nativeBits, context.Live wireId parentId nativeBits →
    handleType parentId = parentType (handleType wireId)
  slotted : ∀ wireId parentId nativeBits, context.Live wireId parentId nativeBits →
    handleType wireId = .swapchain →
    ∃ slot, (context.slotAt slot).swapchainId = wireId ∧ (context.slotAt slot).deviceId = parentId

/-- A teardown only removes entries and clears slots. -/
structure Subsides (context next : ObjectContext) : Prop where
  shrinks : Shrinks context.objects next.objects
  slots : ∀ slot, next.slotAt slot = context.slotAt slot ∨ next.slotAt slot = .zero

variable {driver : ObjectDriver} {context next : ObjectContext} {wireId parentId nativeBits : UInt64}
  {type : ObjectType}

/-! ## What the small functions leave alone -/

section frames

variable (context)

@[simp] theorem nativeCreate_objects (native : NativeAnswer) :
    (context.nativeCreate type native).objects = context.objects := by
  unfold nativeCreate
  split <;> rfl

@[simp] theorem nativeCreate_swapchains (native : NativeAnswer) :
    (context.nativeCreate type native).swapchains = context.swapchains := by
  unfold nativeCreate
  split <;> rfl

@[simp] theorem nativeCreate_destroyed (native : NativeAnswer) :
    (context.nativeCreate type native).destroyed = context.destroyed := by
  unfold nativeCreate
  split <;> rfl

@[simp] theorem nativeCreate_nextSerial (native : NativeAnswer) :
    (context.nativeCreate type native).nextSerial = context.nextSerial := by
  unfold nativeCreate
  split <;> rfl

@[simp] theorem nativeDestroy_objects (handle : UInt64) :
    (context.nativeDestroy type handle).objects = context.objects := rfl

@[simp] theorem nativeDestroy_swapchains (handle : UInt64) :
    (context.nativeDestroy type handle).swapchains = context.swapchains := rfl

@[simp] theorem nativeDestroy_created (handle : UInt64) :
    (context.nativeDestroy type handle).created = context.created := rfl

@[simp] theorem clearMetadata_objects : (context.clearMetadata type wireId).objects = context.objects := by
  unfold clearMetadata
  split
  · rfl
  · split <;> rfl

@[simp] theorem clearMetadata_swapchains :
    (context.clearMetadata type wireId).swapchains = context.swapchains := by
  unfold clearMetadata
  split
  · rfl
  · split <;> rfl

@[simp] theorem clearMetadata_created : (context.clearMetadata type wireId).created = context.created := by
  unfold clearMetadata
  split
  · rfl
  · split <;> rfl

@[simp] theorem clearMetadata_destroyed :
    (context.clearMetadata type wireId).destroyed = context.destroyed := by
  unfold clearMetadata
  split
  · rfl
  · split <;> rfl

@[simp] theorem removeHandle_swapchains :
    (context.removeHandle wireId type).2.swapchains = context.swapchains := by
  unfold removeHandle
  split <;> rfl

@[simp] theorem removeHandle_created : (context.removeHandle wireId type).2.created = context.created := by
  unfold removeHandle
  split <;> rfl

@[simp] theorem removeHandle_destroyed :
    (context.removeHandle wireId type).2.destroyed = context.destroyed := by
  unfold removeHandle
  split <;> rfl

end frames

theorem slotAt_setSwapchain (context : ObjectContext) (slot other : Nat) (swapchain : SwapchainMetadata)
    (bound : slot < context.swapchains.length) :
    (context.setSwapchain slot swapchain).slotAt other = if other = slot then swapchain else context.slotAt other := by
  simp only [slotAt, setSwapchain, List.getD_eq_getElem?_getD, List.getElem?_set]
  by_cases same : slot = other
  · subst same
    simp [bound]
  · simp [same, Ne.symm same]

theorem slotAt_clear (slot other : Nat) :
    (context.setSwapchain slot .zero).slotAt other = if other = slot then .zero else context.slotAt other := by
  by_cases bound : slot < context.swapchains.length
  · exact slotAt_setSwapchain context slot other .zero bound
  · simp only [slotAt, setSwapchain, List.getD_eq_getElem?_getD, List.getElem?_set]
    by_cases same : slot = other
    · subst same
      simp [bound]
    · simp [same, Ne.symm same]

theorem Subsides.refl (context : ObjectContext) : Subsides context context :=
  ⟨Shrinks.refl _, fun _ => Or.inl rfl⟩

theorem Subsides.trans {between : ObjectContext} (first : Subsides context between)
    (second : Subsides between next) : Subsides context next := by
  refine ⟨first.shrinks.trans second.shrinks, fun slot => ?_⟩
  rcases second.slots slot with same | zero
  · rw [same]
    exact first.slots slot
  · exact Or.inr zero

theorem Subsides.live (subsides : Subsides context next) (live : next.Live wireId parentId nativeBits) :
    context.Live wireId parentId nativeBits :=
  Live.of_shrinks subsides.shrinks live

theorem Subsides.of_eq (objects : next.objects = context.objects) (swapchains : next.swapchains = context.swapchains) :
    Subsides context next := by
  refine ⟨?_, fun slot => Or.inl ?_⟩
  · rw [objects]
    exact Shrinks.refl _
  · rw [slotAt, swapchains]

namespace Rooted

/-- The invariant is about the live entries and the slots. -/
theorem of_live (rooted : context.Rooted) (sound : next.objects.Sound)
    (live : ∀ wireId parentId nativeBits,
      next.Live wireId parentId nativeBits ↔ context.Live wireId parentId nativeBits)
    (swapchains : next.swapchains = context.swapchains) : next.Rooted := by
  refine ⟨sound, by rw [swapchains, rooted.slotCount], ?_, ?_, ?_⟩
  · intro wireId parentId nativeBits found owned
    obtain ⟨upId, upBits, up⟩ := rooted.closed _ _ _ ((live _ _ _).mp found) owned
    exact ⟨upId, upBits, (live _ _ _).mpr up⟩
  · intro wireId parentId nativeBits found
    exact rooted.typed _ _ _ ((live _ _ _).mp found)
  · intro wireId parentId nativeBits found isSwapchain
    simpa only [slotAt, swapchains] using rooted.slotted _ _ _ ((live _ _ _).mp found) isSwapchain

theorem of_eq (rooted : context.Rooted) (objects : next.objects = context.objects)
    (swapchains : next.swapchains = context.swapchains) : next.Rooted := by
  refine rooted.of_live ?_ ?_ swapchains
  · rw [objects]
    exact rooted.sound
  · intro wireId parentId nativeBits
    rw [Live, objects]

theorem live_ne_zero (rooted : context.Rooted) (live : context.Live wireId parentId nativeBits) : wireId ≠ 0 :=
  handleIsWellFormed_ne_zero (rooted.sound.live_formed live).1

theorem insert (rooted : context.Rooted) {objects : HandleTable}
    (inserted : context.objects.insert wireId parentId nativeBits = .ok objects)
    (parent : parentId = 0 ∨ ∃ upId upBits, context.Live parentId upId upBits)
    (typed : handleType parentId = parentType (handleType wireId)) (other : handleType wireId ≠ .swapchain) :
    Rooted { context with objects := objects } := by
  obtain ⟨sound, -, -, -, -, live⟩ := rooted.sound.insert_ok inserted
  refine ⟨sound, rooted.slotCount, ?_, ?_, ?_⟩
  · intro id owner bits found owned
    rcases (live _ _ _).mp found with old | ⟨rfl, rfl, rfl⟩
    · obtain ⟨upId, upBits, up⟩ := rooted.closed _ _ _ old owned
      exact ⟨upId, upBits, (live _ _ _).mpr (Or.inl up)⟩
    · rcases parent with zero | ⟨upId, upBits, up⟩
      · exact absurd zero owned
      · exact ⟨upId, upBits, (live _ _ _).mpr (Or.inl up)⟩
  · intro id owner bits found
    rcases (live _ _ _).mp found with old | ⟨rfl, rfl, rfl⟩
    · exact rooted.typed _ _ _ old
    · exact typed
  · intro id owner bits found isSwapchain
    rcases (live _ _ _).mp found with old | ⟨rfl, rfl, rfl⟩
    · exact rooted.slotted _ _ _ old isSwapchain
    · exact absurd isSwapchain other

theorem removeHandle_ok (rooted : context.Rooted)
    (done : (context.removeHandle wireId type).1 = .ok ()) (id owner bits : UInt64) :
    (context.removeHandle wireId type).2.Live id owner bits ↔ context.Live id owner bits ∧ id ≠ wireId := by
  unfold removeHandle at done ⊢
  split at done
  · cases done
  · rename_i removedBits objects removed
    exact (rooted.sound.remove_ok removed).2.2.2.2 id owner bits

theorem removeHandle (rooted : context.Rooted) (type : ObjectType)
    (childless : ∀ child bits, ¬ context.Live child wireId bits) :
    (context.removeHandle wireId type).2.Rooted ∧ Subsides context (context.removeHandle wireId type).2 := by
  unfold ObjectContext.removeHandle
  split
  · exact ⟨rooted, Subsides.refl context⟩
  · rename_i removedBits objects removed
    obtain ⟨sound, shrinks, -, -, live⟩ := rooted.sound.remove_ok removed
    refine ⟨⟨sound, rooted.slotCount, ?_, ?_, ?_⟩, ⟨shrinks, fun _ => Or.inl rfl⟩⟩
    · intro id owner bits found owned
      have old := ((live _ _ _).mp found).1
      obtain ⟨upId, upBits, up⟩ := rooted.closed _ _ _ old owned
      refine ⟨upId, upBits, (live _ _ _).mpr ⟨up, ?_⟩⟩
      rintro rfl
      exact childless _ _ old
    · intro id owner bits found
      exact rooted.typed _ _ _ ((live _ _ _).mp found).1
    · intro id owner bits found isSwapchain
      exact rooted.slotted _ _ _ ((live _ _ _).mp found).1 isSwapchain

theorem childless_of_leaf (rooted : context.Rooted) (expects : handleType wireId = type)
    (leaf : ∀ child, parentType child ≠ type) (child bits : UInt64) : ¬ context.Live child wireId bits := by
  intro live
  exact leaf _ ((rooted.typed _ _ _ live).symm.trans expects)

theorem gone_of_removeHandle (rooted : context.Rooted)
    (live : (context.removeHandle wireId type).2.Live wireId parentId nativeBits) :
    handleExpect wireId type = false := by
  cases expects : handleExpect wireId type with
  | false => rfl
  | true =>
      exfalso
      have old : ∃ owner bits, context.Live wireId owner bits := by
        unfold ObjectContext.removeHandle at live
        split at live
        · exact ⟨_, _, live⟩
        · rename_i removed
          exact ⟨_, _, ((rooted.sound.remove_ok removed).2.2.2.2 _ _ _).mp live |>.1⟩
      obtain ⟨owner, bits, old⟩ := old
      obtain ⟨objects, removed⟩ := rooted.sound.remove_live expects old
      have done : (context.removeHandle wireId type).1 = .ok () := by
        simp [ObjectContext.removeHandle, removed]
      exact ((rooted.removeHandle_ok done _ _ _).mp live).2 rfl

end Rooted

/-! ## Creation -/

theorem lookup_live (rooted : context.Rooted)
    (found : context.objects.lookup wireId type = .ok (parentId, nativeBits)) :
    handleType wireId = type ∧ context.Live wireId parentId nativeBits := by
  obtain ⟨expects, live⟩ := rooted.sound.lookup_eq_ok.mp found
  exact ⟨((handleExpect_iff _ _).mp expects).2, live⟩

theorem resolveDeviceChild_live (rooted : context.Rooted) {deviceId device : UInt64}
    (found : context.resolveDeviceChild wireId type = .ok (deviceId, device, nativeBits)) :
    handleType wireId = type ∧ context.Live wireId deviceId nativeBits ∧
      ∃ physicalId, context.Live deviceId physicalId device := by
  unfold resolveDeviceChild at found
  split at found
  · cases found
  · rename_i owner bits object
    split at found
    · cases found
    · rename_i physicalId deviceBits owned
      cases found
      obtain ⟨expects, live⟩ := lookup_live rooted object
      exact ⟨expects, live, physicalId, (lookup_live rooted owned).2⟩

theorem handleType_takeSerial (rooted : context.Rooted) {objects : HandleTable}
    (inserted : context.objects.insert (handleId type nativeBits) parentId wireId = .ok objects) :
    handleType (handleId type nativeBits) = type := by
  obtain ⟨-, -, formed, -⟩ := rooted.sound.insert_ok inserted
  exact handleType_handleId (handleIsWellFormed_ne_zero formed)

theorem live_nativeCreate (native : NativeAnswer) (live : context.Live wireId parentId nativeBits) :
    (context.nativeCreate type native).Live wireId parentId nativeBits := by
  rw [Live, nativeCreate_objects]
  exact live

theorem registerChild_rooted (rooted : context.Rooted) (order : SlotOrder) (native : NativeAnswer)
    (parent : parentId = 0 ∨ ∃ upId upBits, context.Live parentId upId upBits)
    (typed : handleType parentId = parentType type) (other : type ≠ .swapchain) :
    (context.registerChild type order parentId native).2.Rooted := by
  unfold registerChild takeSerial
  dsimp only
  split
  · exact rooted.of_eq rfl rfl
  · rename_i objects inserted
    have isType := handleType_takeSerial rooted inserted
    have held := rooted.insert inserted parent (by rw [isType]; exact typed) (by rw [isType]; exact other)
    split
    · exact held.of_eq rfl rfl
    · split
      · exact held.of_eq rfl rfl
      · -- The handle is taken back, and the entries are those from before.
        obtain ⟨left, removed, sound, live⟩ := rooted.sound.insert_remove isType inserted
        simp only [giveUp, removeHandle, removed]
        exact rooted.of_live sound live rfl

theorem createDeviceChild_rooted (rooted : context.Rooted) (order : SlotOrder) (deviceId : UInt64)
    (fields : Verdict) (references : UInt64 → Verdict) (native : NativeAnswer)
    (typed : parentType type = .device) (other : type ≠ .swapchain) :
    (context.createDeviceChild driver type order deviceId fields references native).2.Rooted := by
  unfold createDeviceChild
  split
  · exact rooted
  split
  · exact rooted
  split
  · exact rooted
  rename_i physicalId device found
  obtain ⟨isDevice, live⟩ := lookup_live rooted found
  split
  · exact rooted
  split
  · exact rooted
  split
  · exact rooted
  have created : (context.nativeCreate type native).Rooted := rooted.of_eq (by simp) (by simp)
  split
  · exact created.of_eq rfl rfl
  · exact registerChild_rooted created order native (Or.inr ⟨_, _, live_nativeCreate native live⟩)
      (isDevice.trans typed.symm) other

theorem createImageView_rooted (rooted : context.Rooted) (deviceId imageId : UInt64)
    (fields range : Verdict) (native : NativeAnswer) :
    (context.createImageView driver deviceId imageId fields range native).2.Rooted := by
  unfold createImageView
  split
  · exact rooted
  split
  · exact rooted
  rename_i ownerId device bits found
  obtain ⟨isImage, live, -⟩ := resolveDeviceChild_live rooted found
  split
  · exact rooted
  split
  · exact rooted
  split
  · exact rooted
  split
  · exact rooted
  split
  · exact rooted
  split
  · exact rooted
  · exact registerChild_rooted (rooted.of_eq (by simp) (by simp)) .none native
      (Or.inr ⟨_, _, live_nativeCreate native live⟩) isImage (by decide)

theorem allocateCommandBuffer_rooted (rooted : context.Rooted) (commandPoolId : UInt64) (fields : Verdict)
    (native : NativeAnswer) : (context.allocateCommandBuffer driver commandPoolId fields native).2.Rooted := by
  unfold allocateCommandBuffer
  split
  · exact rooted
  split
  · exact rooted
  rename_i deviceId device bits found
  obtain ⟨isPool, live, -⟩ := resolveDeviceChild_live rooted found
  split
  · exact rooted
  split
  · exact rooted
  · exact registerChild_rooted (rooted.of_eq (by simp) (by simp)) .none native
      (Or.inr ⟨_, _, live_nativeCreate native live⟩) isPool (by decide)

theorem Rooted.insertNext (rooted : context.Rooted) {objects : HandleTable}
    (inserted : context.objects.insert (handleId type (context.nextSerial type)) parentId nativeBits = .ok objects)
    (parent : parentId = 0 ∨ ∃ upId upBits, context.Live parentId upId upBits)
    (typed : handleType parentId = parentType type) (other : type ≠ .swapchain) :
    Rooted { (context.takeSerial type).2 with objects := objects } := by
  have isType := handleType_takeSerial rooted inserted
  have held := rooted.insert inserted parent (by rw [isType]; exact typed) (by rw [isType]; exact other)
  exact held.of_eq rfl rfl

theorem insertDescriptorSets_rooted {poolId : UInt64} (isPool : handleType poolId = .descriptorPool)
    (sets : List UInt64) : ∀ (ids : List UInt64) (context : ObjectContext), context.Rooted →
      (∃ upId upBits, context.Live poolId upId upBits) →
      (insertDescriptorSets poolId sets ids context).2.Rooted := by
  induction sets with
  | nil => intro ids context rooted _; exact rooted
  | cons set rest ih =>
      intro ids context rooted owned
      obtain ⟨upId, upBits, live⟩ := owned
      simp only [insertDescriptorSets, takeSerial]
      split
      · exact rooted.of_eq rfl rfl
      · rename_i objects inserted
        refine ih _ _ (rooted.insertNext inserted (Or.inr ⟨_, _, live⟩) isPool (by decide)) ⟨upId, upBits, ?_⟩
        exact ((rooted.sound.insert_ok inserted).2.2.2.2.2 _ _ _).mpr (Or.inl live)

theorem allocateDescriptorSets_rooted (rooted : context.Rooted) (poolId : UInt64) (setLayoutIds : List UInt64)
    (result : VulkanResult) (sets : Nat → UInt64) :
    (context.allocateDescriptorSets driver poolId setLayoutIds result sets).2.Rooted := by
  unfold allocateDescriptorSets
  split
  · exact rooted
  split
  · exact rooted
  rename_i deviceId device bits found
  obtain ⟨isPool, live, -⟩ := resolveDeviceChild_live rooted found
  split
  · exact rooted
  split
  · exact rooted
  split
  · exact rooted
  · exact insertDescriptorSets_rooted isPool _ _ _ rooted ⟨_, _, live⟩

theorem createInstance_rooted (rooted : context.Rooted) (fields : Verdict) (native : NativeAnswer)
    (destroyFound procFound : Bool) :
    (context.createInstance fields native destroyFound procFound).2.Rooted := by
  unfold createInstance
  split
  · exact rooted
  split
  · exact rooted
  split
  · exact rooted
  split
  · exact rooted.of_eq (by simp) (by simp)
  split
  · exact rooted.of_eq (by simp) (by simp)
  · exact registerChild_rooted (rooted.of_eq (by simp) (by simp)) .none native (Or.inl rfl) (by decide) (by decide)

theorem registerBorrowed_rooted (rooted : context.Rooted) (nativeBits : UInt64)
    (parent : ∃ upId upBits, context.Live parentId upId upBits)
    (typed : handleType parentId = parentType type) (other : type ≠ .swapchain) :
    (context.registerBorrowed type parentId nativeBits).2.Rooted ∧
      ∃ upId upBits, (context.registerBorrowed type parentId nativeBits).2.Live parentId upId upBits := by
  obtain ⟨upId, upBits, live⟩ := parent
  unfold registerBorrowed takeSerial
  dsimp only
  split
  · exact ⟨rooted, upId, upBits, live⟩
  split
  · exact ⟨rooted.of_eq rfl rfl, upId, upBits, live⟩
  · rename_i objects inserted
    refine ⟨rooted.insertNext inserted (Or.inr ⟨upId, upBits, live⟩) typed other, upId, upBits, ?_⟩
    exact ((rooted.sound.insert_ok inserted).2.2.2.2.2 _ _ _).mpr (Or.inl live)

theorem registerPhysicalDevices_rooted {instanceId : UInt64} (isInstance : handleType instanceId = .inst)
    (result : VulkanResult) (natives : List UInt64) : ∀ (ids : List UInt64) (context : ObjectContext),
      context.Rooted → (∃ upId upBits, context.Live instanceId upId upBits) →
      (registerPhysicalDevices instanceId result natives ids context).2.Rooted := by
  induction natives with
  | nil => intro ids context rooted _; exact rooted
  | cons native rest ih =>
      intro ids context rooted owned
      have next := registerBorrowed_rooted rooted native owned
        (show handleType instanceId = parentType .physicalDevice from isInstance) (by decide)
      simp only [registerPhysicalDevices]
      split
      · rename_i code after outcome
        rw [outcome] at next
        exact next.1
      · rename_i known after outcome
        rw [outcome] at next
        exact ih _ _ next.1 next.2

theorem enumeratePhysicalDevices_rooted (rooted : context.Rooted) (instanceId : UInt64) (answer : Verdict)
    (result : VulkanResult) (natives : List UInt64) :
    (context.enumeratePhysicalDevices instanceId answer result natives).2.Rooted := by
  unfold enumeratePhysicalDevices
  split
  · exact rooted
  rename_i owner found
  obtain ⟨isInstance, live⟩ := lookup_live rooted found
  split
  · exact rooted
  · exact registerPhysicalDevices_rooted isInstance _ _ _ _ rooted ⟨_, _, live⟩

theorem resolvePhysicalDevice_live (rooted : context.Rooted) {physicalId : UInt64} {bits : UInt64 × UInt64}
    (found : context.resolvePhysicalDevice physicalId = .ok bits) :
    handleType physicalId = .physicalDevice ∧ ∃ instanceId, context.Live physicalId instanceId bits.2 := by
  unfold resolvePhysicalDevice at found
  split at found
  · cases found
  · rename_i instanceId physicalBits object
    split at found
    · cases found
    · cases found
      obtain ⟨isPhysical, live⟩ := lookup_live rooted object
      exact ⟨isPhysical, instanceId, live⟩

theorem createDevice_rooted (rooted : context.Rooted) (physicalId : UInt64) (fields queues : Verdict)
    (infos : List QueueCreateInfo) (native : NativeAnswer) :
    (context.createDevice driver physicalId fields queues infos native).2.Rooted := by
  unfold createDevice
  split
  · exact rooted
  split
  · exact rooted
  split
  · exact rooted
  rename_i found
  obtain ⟨isPhysical, instanceId, live⟩ := resolvePhysicalDevice_live rooted found
  split
  · exact rooted
  split
  · exact rooted
  have created : (context.nativeCreate .device native).Rooted := rooted.of_eq (by simp) (by simp)
  dsimp only
  split
  · exact created
  unfold takeSerial
  dsimp only
  split
  · exact created.of_eq rfl rfl
  split
  · exact created.of_eq rfl rfl
  · rename_i objects inserted
    exact (created.insertNext inserted (Or.inr ⟨_, _, live_nativeCreate native live⟩) isPhysical
      (by decide)).of_eq rfl rfl

theorem getDeviceQueue_rooted (rooted : context.Rooted) (deviceId : UInt64)
    (queueFamilyIndex queueIndex : UInt32) (present : Bool) (queue : UInt64) :
    (context.getDeviceQueue deviceId queueFamilyIndex queueIndex present queue).2.Rooted := by
  unfold getDeviceQueue
  split
  · exact rooted
  rename_i owner found
  obtain ⟨isDevice, live⟩ := lookup_live rooted found
  split
  · exact rooted
  split
  · exact rooted
  split
  · exact rooted
  split
  · exact rooted
  have next := registerBorrowed_rooted rooted queue ⟨_, _, live⟩
    (show handleType deviceId = parentType .queue from isDevice) (by decide)
  split
  · rename_i code after outcome
    rw [outcome] at next
    exact next.1
  · rename_i known after outcome
    rw [outcome] at next
    exact next.1

/-! ## Sweeps -/

structure TearsDown (context : ObjectContext) (wireId : UInt64) (outcome : Completed) : Prop where
  rooted : outcome.2.Rooted
  subsides : Subsides context outcome.2
  gone : outcome.1 = .ok () → ∀ parentId nativeBits, ¬ outcome.2.Live wireId parentId nativeBits

theorem Rooted.tearsDown_removeHandle (rooted : context.Rooted) (type : ObjectType)
    (childless : ∀ child bits, ¬ context.Live child wireId bits) :
    TearsDown context wireId (context.removeHandle wireId type) := by
  obtain ⟨kept, subsides⟩ := rooted.removeHandle type childless
  refine ⟨kept, subsides, ?_⟩
  intro done parentId nativeBits live
  exact ((rooted.removeHandle_ok done _ _ _).mp live).2 rfl

section sweep

variable {selects : ObjectContext → HandleEntry → Bool}

/-- What is known of an entry a successful sweep has passed. -/
def Passed (selects : ObjectContext → HandleEntry → Bool) (last : ObjectContext) (index : Nat) : Prop :=
  last.objects.entries index = cleared ∨
    ∃ current, Subsides current last ∧ current.Rooted ∧
      selects current (last.objects.entries index) = false

theorem Passed.of_subsides {index : Nat} (passed : Passed selects context index)
    (subsides : Subsides context next) : Passed selects next index := by
  rcases subsides.shrinks.entries index with same | gone
  · rw [Passed, same]
    rcases passed with gone | ⟨current, between, rooted, skipped⟩
    · exact Or.inl gone
    · exact Or.inr ⟨current, between.trans subsides, rooted, skipped⟩
  · exact Or.inl gone

theorem sweep_tearsDown (selects : ObjectContext → HandleEntry → Bool)
    (act : ObjectContext → UInt64 → Completed) (steady : ObjectContext → Prop)
    (steadies : ∀ current later, Subsides current later → steady current → steady later)
    (typed : ∀ current entry, selects current entry = true → handleType entry.wireId ≠ .invalid)
    (acts : ∀ current index, current.Rooted → steady current → index < current.objects.capacity →
      selects current (current.objects.entries index) = true →
      TearsDown current (current.objects.entries index).wireId
        (act current (current.objects.entries index).wireId)) :
    ∀ remaining index (context : ObjectContext), context.Rooted → steady context →
      index + remaining ≤ context.objects.capacity →
      (sweep selects act remaining index context).2.Rooted ∧
        Subsides context (sweep selects act remaining index context).2 ∧
        ((sweep selects act remaining index context).1 = .ok () →
          ∀ position, index ≤ position → position < index + remaining →
            Passed selects (sweep selects act remaining index context).2 position) := by
  intro remaining
  induction remaining with
  | zero =>
      intro index context rooted _ _
      exact ⟨rooted, Subsides.refl context, fun _ position lower upper => by omega⟩
  | succ remaining ih =>
      intro index context rooted calm bound
      simp only [sweep]
      by_cases selected : selects context (context.objects.entries index) = true
      · have torn := acts context index rooted calm (by omega) selected
        rw [if_pos selected]
        split
        · rename_i code last outcome
          rw [outcome] at torn
          exact ⟨torn.rooted, torn.subsides, fun done => by cases done⟩
        · rename_i nothing last outcome
          rw [outcome] at torn
          have capacity := torn.subsides.shrinks.capacity
          have later := ih (index + 1) last torn.rooted (steadies _ _ torn.subsides calm)
            (by rw [capacity]; omega)
          refine ⟨later.1, torn.subsides.trans later.2.1, ?_⟩
          intro done position lower upper
          by_cases here : position = index
          · subst here
            have inside : position < last.objects.capacity := by
              rw [capacity]
              omega
            -- The entry acted on was live, and the act removed it.
            have emptied : last.objects.entries position = cleared := by
              rcases torn.subsides.shrinks.entries position with same | gone
              · have live := torn.rooted.sound.live_of_type inside (by rw [same]; exact typed _ _ selected)
                rw [same] at live
                exact absurd live (torn.gone rfl _ _)
              · exact gone
            exact Passed.of_subsides (Or.inl emptied) later.2.1
          · exact later.2.2 done position (by omega) (by omega)
      · have skipped : selects context (context.objects.entries index) = false := by
          simpa using selected
        rw [if_neg selected]
        have later := ih (index + 1) context rooted calm (by omega)
        refine ⟨later.1, later.2.1, ?_⟩
        intro done position lower upper
        by_cases here : position = index
        · subst here
          rcases later.2.1.shrinks.entries position with same | gone
          · refine Or.inr ⟨context, later.2.1, rooted, ?_⟩
            rw [same]
            exact skipped
          · exact Or.inl gone
        · exact later.2.2 done position (by omega) (by omega)

theorem left_of_sweep {last : ObjectContext}
    (passed : ∀ position, position < last.objects.capacity → Passed selects last position)
    (live : last.Live wireId parentId nativeBits) :
    ∃ current, Subsides current last ∧ current.Rooted ∧
      selects current ⟨wireId, parentId, nativeBits, .occupied⟩ = false := by
  obtain ⟨index, bound, entry⟩ := live
  rcases passed index bound with gone | left
  · rw [gone] at entry
    cases entry
  · rwa [entry] at left

end sweep

theorem isChild_typed {entry : HandleEntry} (isType : type ≠ .invalid)
    (selected : isChild type parentId entry = true) : handleType entry.wireId ≠ .invalid := by
  simp only [isChild, Bool.and_eq_true, beq_iff_eq] at selected
  rw [selected.1]
  exact isType

theorem sweepChildren_tearsDown (type : ObjectType) (parentId : UInt64) (steady : ObjectContext → Prop)
    (act : ObjectContext → UInt64 → Completed) (isType : type ≠ .invalid)
    (steadies : ∀ current later, Subsides current later → steady current → steady later)
    (acts : ∀ current childId childBits, current.Rooted → steady current → handleType childId = type →
      current.Live childId parentId childBits → TearsDown current childId (act current childId))
    (rooted : context.Rooted) (calm : steady context) :
    (context.sweepChildren type parentId act).2.Rooted ∧
      Subsides context (context.sweepChildren type parentId act).2 ∧
      ((context.sweepChildren type parentId act).1 = .ok () → ∀ childId childBits, handleType childId = type →
        ¬ (context.sweepChildren type parentId act).2.Live childId parentId childBits) := by
  have swept := sweep_tearsDown (fun _ => isChild type parentId) act steady steadies
    (fun _ _ selected => isChild_typed isType selected)
    (fun current index kept still bound selected => by
      have live := kept.sound.live_of_type bound (isChild_typed isType selected)
      simp only [isChild, Bool.and_eq_true, beq_iff_eq] at selected
      rw [selected.2] at live
      exact acts current _ _ kept still selected.1 live)
    context.objects.capacity 0 context rooted calm (by omega)
  refine ⟨swept.1, swept.2.1, ?_⟩
  intro done childId childBits isChildType live
  have bound := swept.2.1.shrinks.capacity
  obtain ⟨current, -, -, skipped⟩ := left_of_sweep
    (fun position inside => swept.2.2 done position (by omega) (by rw [bound] at inside; omega)) live
  simp [isChild, isChildType] at skipped

end ObjectContext

end VulkanBridge
