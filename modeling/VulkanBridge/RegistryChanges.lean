import VulkanBridge.CommandBufferProxy

/-!
What other threads do to the object registry of the client, and which answers of
the ownership search a change leaves as they were.
-/

namespace VulkanBridge

inductive RegistryChange where
  | createResource (resource : ResourceProxy)
  | createSwapchain (swapchain : SwapchainProxy)
  | destroyResource (wireId : UInt64) (type : ObjectType)
  | resetDescriptorPool (poolId : UInt64)
  | removeResources (deviceId : UInt64)
  | destroySwapchain (index : Nat)
  | removeSwapchains (deviceId : UInt64)

/-- `remove_descriptor_sets_for_pool_locked` -/
def removeDescriptorSets (poolId : UInt64) (resources : List ResourceProxy) : List ResourceProxy :=
  resources.filter fun resource => !(resource.type == .descriptorSet && resource.parentId == poolId)

def devicePools (deviceId : UInt64) (resources : List ResourceProxy) : List UInt64 :=
  (resources.filter fun resource => resource.type == .descriptorPool && resource.parentId == deviceId).map (·.wireId)

/-- `remove_resources_for_device_locked` -/
def removeDeviceResources (deviceId : UInt64) (resources : List ResourceProxy) : List ResourceProxy :=
  ((devicePools deviceId resources).foldl (fun left poolId => removeDescriptorSets poolId left) resources).filter
    fun resource => resource.parentId != deviceId

namespace ClientRegistry

variable (registry : ClientRegistry)

def apply : RegistryChange → ClientRegistry
  | .createResource resource => { registry with resources := resource :: registry.resources }
  | .createSwapchain swapchain => { registry with swapchains := swapchain :: registry.swapchains }
  | .destroyResource wireId type =>
      match registry.resourceProxy wireId type with
      | none => registry
      | some _ =>
          let resources :=
            if type = .descriptorPool then removeDescriptorSets wireId registry.resources else registry.resources
          { registry with resources := resources.eraseP fun resource => resource.wireId == wireId }
  | .resetDescriptorPool poolId =>
      { registry with resources := removeDescriptorSets poolId registry.resources }
  | .removeResources deviceId =>
      { registry with resources := removeDeviceResources deviceId registry.resources }
  | .destroySwapchain index => { registry with swapchains := registry.swapchains.eraseIdx index }
  | .removeSwapchains deviceId =>
      { registry with swapchains := registry.swapchains.filter fun swapchain => swapchain.parentId != deviceId }

/-- No two objects have the same id. -/
structure Distinct (registry : ClientRegistry) : Prop where
  resources : ∀ first ∈ registry.resources, ∀ second ∈ registry.resources,
    first.wireId = second.wireId → first = second
  images : ∀ first ∈ registry.swapchains, ∀ second ∈ registry.swapchains, ∀ imageId,
    imageId ∈ first.imageIds → imageId ∈ second.imageIds → first = second
  apart : ∀ resource ∈ registry.resources, ∀ swapchain ∈ registry.swapchains,
    resource.wireId ∉ swapchain.imageIds

def Listed (wireId : UInt64) (type : ObjectType) : Prop :=
  (∃ resource ∈ registry.resources, resource.wireId = wireId ∧ resource.type = type) ∨
    type = .image ∧ ∃ swapchain ∈ registry.swapchains, wireId ∈ swapchain.imageIds

/-- The id the service gives a new object is not in use. -/
def Fresh : RegistryChange → Prop
  | .createResource resource =>
      (∀ other ∈ registry.resources, other.wireId ≠ resource.wireId) ∧
        ∀ swapchain ∈ registry.swapchains, resource.wireId ∉ swapchain.imageIds
  | .createSwapchain swapchain =>
      (∀ resource ∈ registry.resources, resource.wireId ∉ swapchain.imageIds) ∧
        ∀ other ∈ registry.swapchains, ∀ imageId ∈ swapchain.imageIds, imageId ∉ other.imageIds
  | _ => True

variable {registry} {change : RegistryChange} {wireId deviceId : UInt64} {type : ObjectType}

theorem mem_removeDescriptorSets {poolId : UInt64} {resources : List ResourceProxy} {resource : ResourceProxy} :
    resource ∈ removeDescriptorSets poolId resources ↔
      resource ∈ resources ∧ ¬ (resource.type = .descriptorSet ∧ resource.parentId = poolId) := by
  simp only [removeDescriptorSets, List.mem_filter, Bool.not_eq_true', Bool.and_eq_false_iff, beq_eq_false_iff_ne]
  tauto

theorem mem_removedPools {pools : List UInt64} {resource : ResourceProxy} : ∀ {resources : List ResourceProxy},
    resource ∈ pools.foldl (fun left poolId => removeDescriptorSets poolId left) resources ↔
      resource ∈ resources ∧ ¬ (resource.type = .descriptorSet ∧ resource.parentId ∈ pools) := by
  induction pools with
  | nil => intro resources; simp
  | cons pool rest ih =>
      intro resources
      rw [List.foldl_cons, ih, mem_removeDescriptorSets, List.mem_cons]
      tauto

theorem mem_removeDeviceResources {resources : List ResourceProxy} {resource : ResourceProxy} :
    resource ∈ removeDeviceResources deviceId resources ↔
      resource ∈ resources ∧ resource.parentId ≠ deviceId ∧
        ¬ (resource.type = .descriptorSet ∧ ∃ pool ∈ resources, pool.type = .descriptorPool ∧
          pool.parentId = deviceId ∧ pool.wireId = resource.parentId) := by
  simp only [removeDeviceResources, List.mem_filter, mem_removedPools, devicePools, List.mem_map, bne_iff_ne,
    Bool.and_eq_true, beq_iff_eq]
  constructor
  · rintro ⟨⟨member, kept⟩, other⟩
    refine ⟨member, other, ?_⟩
    rintro ⟨isSet, pool, known, isPool, owner, parent⟩
    exact kept ⟨isSet, pool, ⟨known, isPool, owner⟩, parent⟩
  · rintro ⟨member, other, kept⟩
    refine ⟨⟨member, ?_⟩, other⟩
    rintro ⟨isSet, pool, ⟨known, isPool, owner⟩, parent⟩
    exact kept ⟨isSet, pool, known, isPool, owner, parent⟩

theorem resourceProxy_eq_some (distinct : registry.Distinct) {resource : ResourceProxy} :
    registry.resourceProxy wireId type = some resource ↔
      handleExpect wireId type = true ∧ resource ∈ registry.resources ∧ resource.wireId = wireId ∧
        resource.type = type := by
  unfold resourceProxy
  by_cases expected : handleExpect wireId type = true
  · simp only [expected, Bool.not_true, Bool.false_eq_true, if_false, true_and]
    cases found : registry.resources.find? fun proxy => proxy.wireId == wireId with
    | none =>
        constructor
        · intro none
          cases none
        · rintro ⟨member, named, _⟩
          have other := List.find?_eq_none.mp found resource member
          simp [named] at other
    | some first =>
        have member := List.mem_of_find?_eq_some found
        have named : first.wireId = wireId := by simpa using List.find?_some found
        dsimp only
        by_cases typed : first.type = type
        · simp only [typed, beq_self_eq_true, if_true, Option.some.injEq]
          constructor
          · intro same
            subst same
            exact ⟨member, named, typed⟩
          · rintro ⟨other, alike, _⟩
            exact distinct.resources first member resource other (named.trans alike.symm)
        · have differs : (first.type == type) = false := by simpa using typed
          simp only [differs, Bool.false_eq_true, if_false]
          constructor
          · intro none
            cases none
          · rintro ⟨other, alike, isType⟩
            have same := distinct.resources first member resource other (named.trans alike.symm)
            rw [same] at typed
            exact absurd isType typed
  · have refused : handleExpect wireId type = false := by simpa using expected
    simp [refused]

/-- What makes an object the device's, said by membership. -/
def Owns (registry : ClientRegistry) (wireId : UInt64) (type : ObjectType) (deviceId : UInt64) : Prop :=
  (type ≠ .descriptorSet ∧ ∃ resource ∈ registry.resources,
      resource.wireId = wireId ∧ resource.type = type ∧ resource.parentId = deviceId) ∨
    (type = .descriptorSet ∧ ∃ set ∈ registry.resources, set.wireId = wireId ∧ set.type = type ∧
      ∃ pool ∈ registry.resources, pool.wireId = set.parentId ∧ pool.type = .descriptorPool ∧
        pool.parentId = deviceId ∧ handleExpect set.parentId .descriptorPool = true) ∨
    (type = .image ∧ ∃ swapchain ∈ registry.swapchains, swapchain.parentId = deviceId ∧ wireId ∈ swapchain.imageIds)

theorem resourceOwnedByDevice_iff (distinct : registry.Distinct) :
    registry.resourceOwnedByDevice wireId type deviceId = true ↔
      handleExpect wireId type = true ∧ ∃ resource ∈ registry.resources,
        resource.wireId = wireId ∧ resource.type = type ∧ resource.parentId = deviceId := by
  unfold resourceOwnedByDevice
  cases found : registry.resourceProxy wireId type with
  | none =>
      constructor
      · intro wrong
        cases wrong
      · rintro ⟨expected, resource, member, named, typed, _⟩
        have other := (resourceProxy_eq_some distinct).mpr ⟨expected, member, named, typed⟩
        rw [found] at other
        cases other
  | some proxy =>
      obtain ⟨expected, member, named, typed⟩ := (resourceProxy_eq_some distinct).mp found
      simp only [beq_iff_eq]
      constructor
      · intro owned
        exact ⟨expected, proxy, member, named, typed, owned⟩
      · rintro ⟨_, resource, known, alike, _, owned⟩
        rw [distinct.resources proxy member resource known (named.trans alike.symm)]
        exact owned

theorem imageOwnedByDevice_iff (distinct : registry.Distinct) :
    registry.imageOwnedByDevice wireId deviceId = true ↔
      handleExpect wireId .image = true ∧
        ((∃ resource ∈ registry.resources,
            resource.wireId = wireId ∧ resource.type = .image ∧ resource.parentId = deviceId) ∨
          ∃ swapchain ∈ registry.swapchains, swapchain.parentId = deviceId ∧ wireId ∈ swapchain.imageIds) := by
  unfold imageOwnedByDevice
  cases found : registry.resourceProxy wireId .image with
  | none =>
      simp only [Bool.and_eq_true, List.any_eq_true, beq_iff_eq, List.contains_iff_mem]
      constructor
      · rintro ⟨expected, owner⟩
        exact ⟨expected, .inr owner⟩
      · rintro ⟨expected, ⟨resource, member, named, typed, _⟩ | owner⟩
        · have other := (resourceProxy_eq_some distinct).mpr ⟨expected, member, named, typed⟩
          rw [found] at other
          cases other
        · exact ⟨expected, owner⟩
  | some proxy =>
      obtain ⟨expected, member, named, typed⟩ := (resourceProxy_eq_some distinct).mp found
      simp only [beq_iff_eq]
      constructor
      · intro owned
        exact ⟨expected, .inl ⟨proxy, member, named, typed, owned⟩⟩
      · rintro ⟨_, ⟨resource, known, alike, _, owned⟩ | ⟨swapchain, known, _, inside⟩⟩
        · rw [distinct.resources proxy member resource known (named.trans alike.symm)]
          exact owned
        · rw [← named] at inside
          exact absurd inside (distinct.apart proxy member swapchain known)

theorem descriptorSetOwnedByDevice_iff (distinct : registry.Distinct) :
    registry.descriptorSetOwnedByDevice wireId deviceId = true ↔
      handleExpect wireId .descriptorSet = true ∧
        ∃ set ∈ registry.resources, set.wireId = wireId ∧ set.type = .descriptorSet ∧
          ∃ pool ∈ registry.resources, pool.wireId = set.parentId ∧ pool.type = .descriptorPool ∧
            pool.parentId = deviceId ∧ handleExpect set.parentId .descriptorPool = true := by
  unfold descriptorSetOwnedByDevice
  cases found : registry.resourceProxy wireId .descriptorSet with
  | none =>
      constructor
      · intro wrong
        cases wrong
      · rintro ⟨expected, set, member, named, typed, _⟩
        have other := (resourceProxy_eq_some distinct).mpr ⟨expected, member, named, typed⟩
        rw [found] at other
        cases other
  | some proxy =>
      obtain ⟨expected, member, named, typed⟩ := (resourceProxy_eq_some distinct).mp found
      simp only [resourceOwnedByDevice_iff distinct]
      constructor
      · rintro ⟨handle, pool, known, isParent, isPool, owned⟩
        exact ⟨expected, proxy, member, named, typed, pool, known, isParent, isPool, owned, handle⟩
      · rintro ⟨_, set, present, alike, _, pool, known, isParent, isPool, owned, handle⟩
        have same := distinct.resources set present proxy member (alike.trans named.symm)
        subst same
        exact ⟨handle, pool, known, isParent, isPool, owned⟩

theorem ownedByDevice_iff (distinct : registry.Distinct) :
    registry.ownedByDevice wireId type deviceId = true ↔
      handleExpect wireId type = true ∧ registry.Owns wireId type deviceId := by
  by_cases image : type = .image
  · subst image
    simp only [ownedByDevice, imageOwnedByDevice_iff distinct, Owns, ne_eq, reduceCtorEq, not_false_eq_true,
      true_and, false_and, false_or]
  by_cases set : type = .descriptorSet
  · subst set
    simp only [ownedByDevice, descriptorSetOwnedByDevice_iff distinct, Owns, ne_eq, reduceCtorEq, not_true_eq_false,
      true_and, false_and, false_or, or_false]
  have direct : registry.ownedByDevice wireId type deviceId = registry.resourceOwnedByDevice wireId type deviceId := by
    cases type <;> first | rfl | contradiction
  rw [direct, resourceOwnedByDevice_iff distinct]
  simp only [Owns, image, set, ne_eq, not_false_eq_true, true_and, false_and, or_false]

theorem Owns.listed (owns : registry.Owns wireId type deviceId) : registry.Listed wireId type := by
  rcases owns with ⟨_, resource, member, named, typed, _⟩ | ⟨_, set, member, named, typed, _⟩ |
    ⟨isImage, swapchain, member, _, inside⟩
  · exact .inl ⟨resource, member, named, typed⟩
  · exact .inl ⟨set, member, named, typed⟩
  · exact .inr ⟨isImage, swapchain, member, inside⟩

/-! ### What a change keeps -/

/-- A change adds objects or takes some away, never both. -/
structure Grows (registry next : ClientRegistry) : Prop where
  resources : ∀ resource ∈ registry.resources, resource ∈ next.resources
  swapchains : ∀ swapchain ∈ registry.swapchains, swapchain ∈ next.swapchains

/-- A set that stays keeps its pool. -/
structure Shrinks (registry next : ClientRegistry) : Prop where
  resources : ∀ resource ∈ next.resources, resource ∈ registry.resources
  swapchains : ∀ swapchain ∈ next.swapchains, swapchain ∈ registry.swapchains
  pools : ∀ set ∈ next.resources, set.type = .descriptorSet → ∀ pool ∈ registry.resources,
    pool.type = .descriptorPool → pool.wireId = set.parentId → pool ∈ next.resources

theorem Grows.owns {next : ClientRegistry} (grows : registry.Grows next) (owns : registry.Owns wireId type deviceId) :
    next.Owns wireId type deviceId := by
  rcases owns with ⟨notSet, resource, member, named, typed, owner⟩ |
    ⟨isSet, set, member, named, typed, pool, known, parent, isPool, owner, handle⟩ |
    ⟨isImage, swapchain, member, owner, inside⟩
  · exact .inl ⟨notSet, resource, grows.resources resource member, named, typed, owner⟩
  · exact .inr (.inl ⟨isSet, set, grows.resources set member, named, typed, pool, grows.resources pool known, parent,
      isPool, owner, handle⟩)
  · exact .inr (.inr ⟨isImage, swapchain, grows.swapchains swapchain member, owner, inside⟩)

theorem Shrinks.kept {next : ClientRegistry} (shrinks : registry.Shrinks next) (distinct : registry.Distinct)
    {resource : ResourceProxy} (member : resource ∈ registry.resources) (named : resource.wireId = wireId)
    (listed : next.Listed wireId type) : resource ∈ next.resources := by
  rcases listed with ⟨left, stays, alike, _⟩ | ⟨_, swapchain, stays, inside⟩
  · have same := distinct.resources left (shrinks.resources left stays) resource member (alike.trans named.symm)
    rw [← same]
    exact stays
  · rw [← named] at inside
    exact absurd inside (distinct.apart resource member swapchain (shrinks.swapchains swapchain stays))

theorem Shrinks.owns {next : ClientRegistry} (shrinks : registry.Shrinks next) (distinct : registry.Distinct)
    (listed : next.Listed wireId type) (owns : registry.Owns wireId type deviceId) :
    next.Owns wireId type deviceId := by
  rcases owns with ⟨notSet, resource, member, named, typed, owner⟩ |
    ⟨isSet, set, member, named, typed, pool, known, parent, isPool, owner, handle⟩ |
    ⟨isImage, swapchain, member, owner, inside⟩
  · exact .inl ⟨notSet, resource, shrinks.kept distinct member named listed, named, typed, owner⟩
  · have stays := shrinks.kept distinct member named listed
    exact .inr (.inl ⟨isSet, set, stays, named, typed, pool,
      shrinks.pools set stays (typed.trans isSet) pool known isPool parent, parent, isPool, owner, handle⟩)
  · refine .inr (.inr ⟨isImage, swapchain, ?_, owner, inside⟩)
    rcases listed with ⟨left, stays, alike, _⟩ | ⟨_, other, stays, holds⟩
    · rw [← alike] at inside
      exact absurd inside (distinct.apart left (shrinks.resources left stays) swapchain member)
    · have same := distinct.images other (shrinks.swapchains other stays) swapchain member wireId holds inside
      rw [← same]
      exact stays

theorem Shrinks.distinct {next : ClientRegistry} (shrinks : registry.Shrinks next) (distinct : registry.Distinct) :
    next.Distinct := by
  constructor
  · intro first known second other same
    exact distinct.resources first (shrinks.resources first known) second (shrinks.resources second other) same
  · intro first known second other imageId inside
    exact distinct.images first (shrinks.swapchains first known) second (shrinks.swapchains second other) imageId inside
  · intro resource known swapchain other
    exact distinct.apart resource (shrinks.resources resource known) swapchain (shrinks.swapchains swapchain other)

theorem Grows.of_createResource {resource : ResourceProxy} :
    registry.Grows (registry.apply (.createResource resource)) :=
  ⟨fun _ member => List.mem_cons_of_mem _ member, fun _ member => member⟩

theorem Grows.of_createSwapchain {swapchain : SwapchainProxy} :
    registry.Grows (registry.apply (.createSwapchain swapchain)) :=
  ⟨fun _ member => member, fun _ member => List.mem_cons_of_mem _ member⟩

theorem Shrinks.of_swapchains {left : List SwapchainProxy}
    (fewer : ∀ swapchain ∈ left, swapchain ∈ registry.swapchains) :
    registry.Shrinks { registry with swapchains := left } :=
  ⟨fun _ member => member, fewer, fun _ _ _ _ known _ _ => known⟩

theorem Shrinks.of_resetDescriptorPool {poolId : UInt64} :
    registry.Shrinks (registry.apply (.resetDescriptorPool poolId)) := by
  constructor
  · intro resource member
    exact (mem_removeDescriptorSets.mp member).1
  · intro swapchain member
    exact member
  · intro set _ _ pool known isPool _
    refine mem_removeDescriptorSets.mpr ⟨known, ?_⟩
    rintro ⟨isSet, _⟩
    rw [isPool] at isSet
    cases isSet

theorem Shrinks.of_removeResources : registry.Shrinks (registry.apply (.removeResources deviceId)) := by
  constructor
  · intro resource member
    exact (mem_removeDeviceResources.mp member).1
  · intro swapchain member
    exact member
  · intro set stays isSet pool known isPool parent
    obtain ⟨_, _, outside⟩ := mem_removeDeviceResources.mp stays
    refine mem_removeDeviceResources.mpr ⟨known, ?_, ?_⟩
    · intro owner
      exact outside ⟨isSet, pool, known, isPool, owner, parent⟩
    · rintro ⟨wrong, _⟩
      rw [isPool] at wrong
      cases wrong

theorem mem_destroyed {resource : ResourceProxy}
    (member : resource ∈ (registry.apply (.destroyResource wireId type)).resources) :
    resource ∈ registry.resources ∧ (registry.resourceProxy wireId type ≠ none → type = .descriptorPool →
      ¬ (resource.type = .descriptorSet ∧ resource.parentId = wireId)) := by
  simp only [apply] at member
  split at member
  · rename_i missing
    exact ⟨member, fun known => absurd missing known⟩
  · have before := List.mem_of_mem_eraseP member
    split at before
    · obtain ⟨known, outside⟩ := mem_removeDescriptorSets.mp before
      exact ⟨known, fun _ _ => outside⟩
    · rename_i other
      exact ⟨before, fun _ isPool => absurd isPool other⟩

theorem Shrinks.of_destroyResource (distinct : registry.Distinct) :
    registry.Shrinks (registry.apply (.destroyResource wireId type)) := by
  constructor
  · intro resource member
    exact (mem_destroyed member).1
  · intro swapchain member
    simp only [apply] at member
    split at member <;> exact member
  · intro set stays isSet pool known isPool parent
    have outside := (mem_destroyed stays).2
    simp only [apply] at stays ⊢
    cases found : registry.resourceProxy wireId type with
    | none => exact known
    | some target =>
        obtain ⟨_, present, named, typed⟩ := (resourceProxy_eq_some distinct).mp found
        have other : pool.wireId ≠ wireId := by
          intro same
          have alike := distinct.resources pool known target present (same.trans named.symm)
          have poolDies : type = .descriptorPool := by rw [← typed, ← alike, isPool]
          exact outside (by rw [found]; exact Option.some_ne_none _) poolDies ⟨isSet, parent.symm.trans same⟩
        refine (List.mem_eraseP_of_neg (by simpa using other)).mpr ?_
        split
        · refine mem_removeDescriptorSets.mpr ⟨known, ?_⟩
          rintro ⟨wrong, _⟩
          rw [isPool] at wrong
          cases wrong
        · exact known

theorem apply_grows_or_shrinks (distinct : registry.Distinct) :
    registry.Grows (registry.apply change) ∨ registry.Shrinks (registry.apply change) := by
  cases change with
  | createResource resource => exact .inl .of_createResource
  | createSwapchain swapchain => exact .inl .of_createSwapchain
  | destroyResource wireId type => exact .inr (.of_destroyResource distinct)
  | resetDescriptorPool poolId => exact .inr .of_resetDescriptorPool
  | removeResources deviceId => exact .inr .of_removeResources
  | destroySwapchain index => exact .inr (.of_swapchains fun _ member => List.mem_of_mem_eraseIdx member)
  | removeSwapchains deviceId => exact .inr (.of_swapchains fun _ member => (List.mem_filter.mp member).1)

theorem apply_distinct (distinct : registry.Distinct) (fresh : registry.Fresh change) :
    (registry.apply change).Distinct := by
  cases change with
  | createResource resource =>
      obtain ⟨unused, apart⟩ := fresh
      constructor
      · intro first known second other same
        rcases List.mem_cons.mp known with rfl | old <;> rcases List.mem_cons.mp other with rfl | older
        · rfl
        · exact absurd same.symm (unused second older)
        · exact absurd same (unused first old)
        · exact distinct.resources first old second older same
      · exact distinct.images
      · intro first known swapchain member
        rcases List.mem_cons.mp known with rfl | known
        · exact apart swapchain member
        · exact distinct.apart first known swapchain member
  | createSwapchain swapchain =>
      obtain ⟨unused, apart⟩ := fresh
      constructor
      · exact distinct.resources
      · intro first known second other imageId inFirst inSecond
        rcases List.mem_cons.mp known with rfl | old <;> rcases List.mem_cons.mp other with rfl | older
        · rfl
        · exact absurd inSecond (apart second older imageId inFirst)
        · exact absurd inFirst (apart first old imageId inSecond)
        · exact distinct.images first old second older imageId inFirst inSecond
      · intro resource known other member
        rcases List.mem_cons.mp member with rfl | member
        · exact unused resource known
        · exact distinct.apart resource known other member
  | destroyResource wireId type => exact (Shrinks.of_destroyResource distinct).distinct distinct
  | resetDescriptorPool poolId => exact Shrinks.of_resetDescriptorPool.distinct distinct
  | removeResources deviceId => exact Shrinks.of_removeResources.distinct distinct
  | destroySwapchain index =>
      exact Shrinks.distinct (.of_swapchains fun _ member => List.mem_of_mem_eraseIdx member) distinct
  | removeSwapchains deviceId =>
      exact Shrinks.distinct (.of_swapchains fun _ member => (List.mem_filter.mp member).1) distinct

theorem ownedByDevice_apply (distinct : registry.Distinct) (fresh : registry.Fresh change)
    (owned : registry.ownedByDevice wireId type deviceId = true)
    (listed : registry.Listed wireId type → (registry.apply change).Listed wireId type) :
    (registry.apply change).ownedByDevice wireId type deviceId = true := by
  obtain ⟨expected, owns⟩ := (ownedByDevice_iff distinct).mp owned
  refine (ownedByDevice_iff (apply_distinct distinct fresh)).mpr ⟨expected, ?_⟩
  have moved : registry.Grows (registry.apply change) ∨ registry.Shrinks (registry.apply change) :=
    apply_grows_or_shrinks distinct
  rcases moved with grows | shrinks
  · exact grows.owns owns
  · exact shrinks.owns distinct (listed owns.listed) owns

end ClientRegistry

end VulkanBridge
