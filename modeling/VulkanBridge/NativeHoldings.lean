import VulkanBridge.OwnershipTree

/-!
Who holds each native object of a service context: a handle of the table, a
swapchain slot, or the call that is running. Only the image of a swapchain has
two holders, its slot and its handle.
-/

namespace VulkanBridge

open HandleTable

/-- A native object a swapchain or a running call holds, with the handle that
shares it and that handle's parent. The id is 0 when no handle does. -/
structure Holding where
  native : NativeObject
  wireId : UInt64
  parentId : UInt64

/-- A handle holds its native object, except those of objects the driver lends. -/
def ObjectType.owned : ObjectType → Bool
  | .physicalDevice | .queue | .swapchain | .descriptorSet => false
  | _ => true

namespace ObjectContext

def holdingOf (type : ObjectType) (handle wireId parentId : UInt64) : List Holding :=
  if handle = 0 then [] else [⟨(type, handle), wireId, parentId⟩]

def imageHoldings (deviceId : UInt64) (images : List SwapchainImage) : List Holding :=
  images.flatMap fun image =>
    holdingOf .image image.image image.imageId deviceId ++ holdingOf .deviceMemory image.memory 0 deviceId

def swapchainHoldings (swapchain : SwapchainMetadata) : List Holding :=
  holdingOf .fence swapchain.presentCompletion 0 swapchain.deviceId ++
    (holdingOf .commandPool swapchain.producerCommandPool 0 swapchain.deviceId ++
      imageHoldings swapchain.deviceId swapchain.images)

def slotHoldings (context : ObjectContext) : List Holding := context.swapchains.flatMap swapchainHoldings

/-- Every native object is held once, was created and was not destroyed. The
running call holds `loose`. -/
structure Accounted (context : ObjectContext) (loose : List Holding) : Prop where
  sound : context.objects.Sound
  distinct : ∀ wireId parentId nativeBits otherId otherParent, context.Live wireId parentId nativeBits →
    context.Live otherId otherParent nativeBits → handleType wireId = handleType otherId →
    (handleType wireId).owned = true → wireId = otherId
  held : ∀ wireId parentId nativeBits, context.Live wireId parentId nativeBits →
    (handleType wireId).owned = true →
    (handleType wireId, nativeBits) ∈ context.created ∧ (handleType wireId, nativeBits) ∉ context.destroyed
  nodup : ((loose ++ context.slotHoldings).map (·.native)).Nodup
  kept : ∀ holding ∈ loose ++ context.slotHoldings,
    holding.native ∈ context.created ∧ holding.native ∉ context.destroyed
  shared : ∀ wireId parentId nativeBits, context.Live wireId parentId nativeBits →
    (handleType wireId).owned = true → ∀ holding ∈ loose ++ context.slotHoldings,
    holding.native = (handleType wireId, nativeBits) → holding.wireId = wireId ∧ holding.parentId = parentId
  idle : ∀ swapchain ∈ context.swapchains, swapchain.swapchainId = 0 → swapchainHoldings swapchain = []
  slotCount : context.swapchains.length = wsiFrameRingMaxSlots
  past : ∀ native ∈ context.destroyed, native ∈ context.created
  once : context.destroyed.Nodup

variable {context next : ObjectContext} {loose : List Holding} {holding : Holding}
  {wireId parentId nativeBits : UInt64} {type : ObjectType}

namespace Accounted

theorem live_ne_zero (accounted : context.Accounted loose) (live : context.Live wireId parentId nativeBits) :
    wireId ≠ 0 :=
  handleIsWellFormed_ne_zero (accounted.sound.live_formed live).1

/-- Handles that go leave the account as it is. -/
theorem of_live (accounted : context.Accounted loose) (sound : next.objects.Sound)
    (live : ∀ wireId parentId nativeBits, next.Live wireId parentId nativeBits →
      context.Live wireId parentId nativeBits)
    (swapchains : next.swapchains = context.swapchains) (created : next.created = context.created)
    (destroyed : next.destroyed = context.destroyed) : next.Accounted loose := by
  have holdings : next.slotHoldings = context.slotHoldings := by
    rw [slotHoldings, swapchains, slotHoldings]
  refine ⟨sound, ?_, ?_, ?_, ?_, ?_, ?_, ?_, ?_, ?_⟩
  · intro wireId parentId nativeBits otherId otherParent found other
    exact accounted.distinct _ _ _ _ _ (live _ _ _ found) (live _ _ _ other)
  · intro wireId parentId nativeBits found
    rw [created, destroyed]
    exact accounted.held _ _ _ (live _ _ _ found)
  · rw [holdings]
    exact accounted.nodup
  · rw [holdings, created, destroyed]
    exact accounted.kept
  · intro wireId parentId nativeBits found
    rw [holdings]
    exact accounted.shared _ _ _ (live _ _ _ found)
  · rw [swapchains]
    exact accounted.idle
  · rw [swapchains]
    exact accounted.slotCount
  · rw [created, destroyed]
    exact accounted.past
  · rw [destroyed]
    exact accounted.once

theorem of_eq (accounted : context.Accounted loose) (objects : next.objects = context.objects)
    (swapchains : next.swapchains = context.swapchains) (created : next.created = context.created)
    (destroyed : next.destroyed = context.destroyed) : next.Accounted loose := by
  refine accounted.of_live ?_ ?_ swapchains created destroyed
  · rw [objects]
    exact accounted.sound
  · intro wireId parentId nativeBits live
    rwa [Live, objects] at live

theorem regroup {other : List Holding} (accounted : context.Accounted loose)
    (swapchains : List SwapchainMetadata) (slots : swapchains.length = context.swapchains.length)
    (perm : (other ++ swapchains.flatMap swapchainHoldings).Perm (loose ++ context.slotHoldings))
    (idle : ∀ swapchain ∈ swapchains, swapchain.swapchainId = 0 → swapchainHoldings swapchain = []) :
    Accounted { context with swapchains := swapchains } other := by
  refine ⟨accounted.sound, accounted.distinct, accounted.held, ?_, ?_, ?_, idle,
    slots.trans accounted.slotCount, accounted.past, accounted.once⟩
  · exact ((perm.map _).nodup_iff).mpr accounted.nodup
  · intro holding member
    exact accounted.kept holding (perm.subset member)
  · intro wireId parentId nativeBits live isOwned holding member
    exact accounted.shared _ _ _ live isOwned holding (perm.subset member)

theorem perm {other : List Holding} (accounted : context.Accounted loose) (same : other.Perm loose) :
    context.Accounted other :=
  accounted.regroup context.swapchains rfl (same.append_right _) accounted.idle

theorem drop (accounted : context.Accounted (holding :: loose)) : context.Accounted loose := by
  refine ⟨accounted.sound, accounted.distinct, accounted.held, ?_, ?_, ?_, accounted.idle,
    accounted.slotCount, accounted.past, accounted.once⟩
  · have nodup := accounted.nodup
    rw [List.cons_append, List.map_cons, List.nodup_cons] at nodup
    exact nodup.2
  · intro other member
    exact accounted.kept other (List.mem_cons_of_mem _ member)
  · intro wireId parentId nativeBits live isOwned other member
    exact accounted.shared _ _ _ live isOwned other (List.mem_cons_of_mem _ member)

theorem dropAll (holdings : List Holding) (accounted : context.Accounted (holdings ++ loose)) :
    context.Accounted loose := by
  induction holdings with
  | nil => exact accounted
  | cons holding rest ih => exact ih accounted.drop

theorem retag {native : NativeObject} (accounted : context.Accounted (⟨native, 0, parentId⟩ :: loose))
    (wireId : UInt64) : context.Accounted (⟨native, wireId, parentId⟩ :: loose) := by
  have rest := accounted.drop
  refine ⟨rest.sound, rest.distinct, rest.held, accounted.nodup, ?_, ?_, rest.idle, rest.slotCount, rest.past,
    rest.once⟩
  · intro other member
    rcases List.mem_cons.mp member with rfl | old
    · exact accounted.kept ⟨native, 0, parentId⟩ (by simp)
    · exact rest.kept other old
  · intro id parent bits live isOwned other member same
    rcases List.mem_cons.mp member with rfl | old
    · have tagged := accounted.shared _ _ _ live isOwned ⟨native, 0, parentId⟩ (by simp) same
      exact absurd tagged.1.symm (accounted.live_ne_zero live)
    · exact rest.shared _ _ _ live isOwned other old same

theorem destroy (accounted : context.Accounted (holding :: loose))
    (unshared : ∀ wireId parentId nativeBits, context.Live wireId parentId nativeBits →
      (handleType wireId).owned = true → holding.native ≠ (handleType wireId, nativeBits)) :
    (context.nativeDestroy holding.native.1 holding.native.2).Accounted loose := by
  have mine := accounted.kept holding (by simp)
  have nodup := accounted.nodup
  rw [List.cons_append, List.map_cons, List.nodup_cons] at nodup
  have rest := accounted.drop
  refine ⟨rest.sound, rest.distinct, ?_, rest.nodup, ?_, rest.shared, rest.idle, rest.slotCount, ?_, ?_⟩
  · intro wireId parentId nativeBits live isOwned
    refine ⟨(rest.held _ _ _ live isOwned).1, ?_⟩
    simp only [nativeDestroy, List.mem_append, List.mem_singleton, not_or]
    exact ⟨(rest.held _ _ _ live isOwned).2, fun same => unshared _ _ _ live isOwned same.symm⟩
  · intro other member
    refine ⟨(rest.kept other member).1, ?_⟩
    simp only [nativeDestroy, List.mem_append, List.mem_singleton, not_or]
    refine ⟨(rest.kept other member).2, ?_⟩
    intro same
    exact nodup.1 (List.mem_map.mpr ⟨other, member, same⟩)
  · intro native member
    simp only [nativeDestroy, List.mem_append, List.mem_singleton] at member
    rcases member with old | rfl
    · exact rest.past native old
    · exact mine.1
  · simp only [nativeDestroy]
    rw [List.nodup_append]
    refine ⟨rest.once, by simp, ?_⟩
    intro native old other new
    rw [List.mem_singleton] at new
    rintro rfl
    rw [new] at old
    exact mine.2 old

theorem create (accounted : context.Accounted loose) (native : NativeObject) (parentId : UInt64)
    (fresh : (context.created ++ [native]).Nodup) :
    Accounted { context with created := context.created ++ [native] } (⟨native, 0, parentId⟩ :: loose) := by
  have new : native ∉ context.created := by
    rw [List.nodup_append] at fresh
    intro old
    exact fresh.2.2 native old native (by simp) rfl
  refine ⟨accounted.sound, accounted.distinct, ?_, ?_, ?_, ?_, accounted.idle, accounted.slotCount, ?_,
    accounted.once⟩
  · intro wireId parentId nativeBits live isOwned
    obtain ⟨old, alive⟩ := accounted.held _ _ _ live isOwned
    exact ⟨List.mem_append_left _ old, alive⟩
  · rw [List.cons_append, List.map_cons, List.nodup_cons]
    refine ⟨?_, accounted.nodup⟩
    intro member
    obtain ⟨other, isOther, same⟩ := List.mem_map.mp member
    have old := (accounted.kept other isOther).1
    rw [same] at old
    exact new old
  · intro holding member
    rw [List.cons_append, List.mem_cons] at member
    rcases member with rfl | old
    · refine ⟨by simp, ?_⟩
      intro destroyed
      exact new (accounted.past _ destroyed)
    · obtain ⟨created, alive⟩ := accounted.kept holding old
      exact ⟨List.mem_append_left _ created, alive⟩
  · intro wireId parentId nativeBits live isOwned holding member same
    rw [List.cons_append, List.mem_cons] at member
    rcases member with rfl | old
    · have old := (accounted.held _ _ _ live isOwned).1
      rw [← same] at old
      exact absurd old new
    · exact accounted.shared _ _ _ live isOwned holding old same
  · intro other destroyed
    exact List.mem_append_left _ (accounted.past other destroyed)

theorem insert {objects : HandleTable} (accounted : context.Accounted (⟨(type, nativeBits), 0, parentId⟩ :: loose))
    (inserted : context.objects.insert wireId parentId nativeBits = .ok objects)
    (isType : handleType wireId = type) (isOwned : type.owned = true) :
    Accounted { context with objects := objects } (⟨(type, nativeBits), wireId, parentId⟩ :: loose) := by
  subst isType
  obtain ⟨sound, -, -, -, -, live⟩ := accounted.sound.insert_ok inserted
  -- No handle of the table shared the object before.
  have unshared : ∀ id parent, context.Live id parent nativeBits → handleType id = handleType wireId → False := by
    intro id parent found same
    have tagged := accounted.shared _ _ _ found (by rw [same]; exact isOwned)
      ⟨(handleType wireId, nativeBits), 0, parentId⟩ (by simp) (by rw [same])
    exact accounted.live_ne_zero found tagged.1.symm
  have nodup := accounted.nodup
  simp only [List.cons_append, List.map_cons, List.nodup_cons] at nodup
  have mine := accounted.kept ⟨(handleType wireId, nativeBits), 0, parentId⟩ (by simp)
  refine ⟨sound, ?_, ?_, ?_, ?_, ?_, accounted.idle, accounted.slotCount, accounted.past, accounted.once⟩
  · intro id parent bits otherId otherParent found other same owned
    rcases (live _ _ _).mp found with old | ⟨rfl, -, rfl⟩
    · rcases (live _ _ _).mp other with otherOld | ⟨rfl, -, rfl⟩
      · exact accounted.distinct _ _ _ _ _ old otherOld same owned
      · exact (unshared _ _ old same).elim
    · rcases (live _ _ _).mp other with otherOld | ⟨rfl, -, -⟩
      · exact (unshared _ _ otherOld same.symm).elim
      · rfl
  · intro id parent bits found owned
    rcases (live _ _ _).mp found with old | ⟨rfl, -, rfl⟩
    · exact accounted.held _ _ _ old owned
    · exact mine
  · simp only [List.cons_append, List.map_cons, List.nodup_cons]
    exact nodup
  · intro holding member
    rcases List.mem_cons.mp member with rfl | old
    · exact mine
    · exact accounted.kept holding (List.mem_cons_of_mem _ old)
  · intro id parent bits found owned holding member same
    rcases List.mem_cons.mp member with rfl | others
    · rcases (live _ _ _).mp found with old | ⟨rfl, rfl, rfl⟩
      · obtain ⟨sameType, sameBits⟩ := Prod.mk.inj same
        exact (unshared _ _ (sameBits ▸ old) sameType.symm).elim
      · exact ⟨rfl, rfl⟩
    · rcases (live _ _ _).mp found with old | ⟨rfl, rfl, rfl⟩
      · exact accounted.shared _ _ _ old owned holding (List.mem_cons_of_mem _ others) same
      · exact absurd (List.mem_map.mpr ⟨holding, others, same⟩) nodup.1

theorem insertLent {objects : HandleTable} (accounted : context.Accounted loose)
    (inserted : context.objects.insert wireId parentId nativeBits = .ok objects)
    (lent : (handleType wireId).owned = false) : Accounted { context with objects := objects } loose := by
  obtain ⟨sound, -, -, -, -, live⟩ := accounted.sound.insert_ok inserted
  have before : ∀ id parent bits, objects.Live id parent bits → (handleType id).owned = true →
      context.Live id parent bits := by
    intro id parent bits found isOwned
    rcases (live _ _ _).mp found with old | ⟨rfl, -, -⟩
    · exact old
    · rw [lent] at isOwned
      cases isOwned
  refine ⟨sound, ?_, ?_, accounted.nodup, accounted.kept, ?_, accounted.idle, accounted.slotCount,
    accounted.past, accounted.once⟩
  · intro id parent bits otherId otherParent found other same isOwned
    exact accounted.distinct _ _ _ _ _ (before _ _ _ found isOwned)
      (before _ _ _ other (by rw [← same]; exact isOwned)) same isOwned
  · intro id parent bits found isOwned
    exact accounted.held _ _ _ (before _ _ _ found isOwned) isOwned
  · intro id parent bits found isOwned
    exact accounted.shared _ _ _ (before _ _ _ found isOwned) isOwned

theorem removeHandle (accounted : context.Accounted loose) (wireId : UInt64) (type : ObjectType) :
    (context.removeHandle wireId type).2.Accounted loose ∧ Subsides context (context.removeHandle wireId type).2 := by
  unfold ObjectContext.removeHandle
  split
  · exact ⟨accounted, Subsides.refl context⟩
  · rename_i removedBits objects removed
    obtain ⟨sound, shrinks, -, -, live⟩ := accounted.sound.remove_ok removed
    refine ⟨accounted.of_live sound ?_ rfl rfl rfl, ⟨shrinks, fun _ => Or.inl rfl⟩⟩
    intro id parent bits found
    exact ((live _ _ _).mp found).1

theorem take (accounted : context.Accounted loose) (live : context.Live wireId parentId nativeBits)
    (isType : handleType wireId = type) (isOwned : type.owned = true)
    (unheld : ∀ holding ∈ loose ++ context.slotHoldings, holding.native ≠ (type, nativeBits))
    (done : (context.removeHandle wireId type).1 = .ok ()) :
    (context.removeHandle wireId type).2.Accounted (⟨(type, nativeBits), 0, parentId⟩ :: loose) := by
  subst isType
  obtain ⟨created, alive⟩ := accounted.held _ _ _ live isOwned
  unfold ObjectContext.removeHandle at done ⊢
  split at done
  · cases done
  · rename_i removedBits objects removed
    obtain ⟨sound, -, -, -, left⟩ := accounted.sound.remove_ok removed
    have less : Accounted { context with objects := objects } loose :=
      accounted.of_live sound (fun id parent bits found => ((left _ _ _).mp found).1) rfl rfl rfl
    refine ⟨sound, less.distinct, less.held, ?_, ?_, ?_, accounted.idle, accounted.slotCount, accounted.past,
      accounted.once⟩
    · simp only [List.cons_append, List.map_cons, List.nodup_cons]
      refine ⟨?_, accounted.nodup⟩
      intro member
      obtain ⟨holding, isHolding, same⟩ := List.mem_map.mp member
      exact unheld holding isHolding same
    · intro holding member
      rcases List.mem_cons.mp member with rfl | old
      · exact ⟨created, alive⟩
      · exact accounted.kept holding old
    · intro id parent bits found owned holding member same
      rcases List.mem_cons.mp member with rfl | old
      · obtain ⟨sameType, sameBits⟩ := Prod.mk.inj same
        have before := (left _ _ _).mp found
        have isSame := accounted.distinct _ _ _ _ _ (sameBits ▸ live) before.1 sameType isOwned
        exact absurd isSame.symm before.2
      · exact less.shared _ _ _ found owned holding old same

/-! Slots -/

theorem slotHoldings_perm (context : ObjectContext) (slot : Nat) :
    context.slotHoldings.Perm (swapchainHoldings (context.slotAt slot) ++
      (context.swapchains.eraseIdx slot).flatMap swapchainHoldings) := by
  by_cases bound : slot < context.swapchains.length
  · rw [slotAt, List.getD_eq_getElem?_getD, List.getElem?_eq_getElem bound]
    exact (List.getElem_cons_eraseIdx_perm bound).symm.flatMap_right swapchainHoldings
  · rw [slotAt, List.getD_eq_getElem?_getD, List.getElem?_eq_none (by omega),
      List.eraseIdx_of_length_le (by omega)]
    exact List.Perm.refl _

theorem setSlot_perm (context : ObjectContext) {slot : Nat} (swapchain : SwapchainMetadata)
    (bound : slot < context.swapchains.length) :
    ((context.swapchains.set slot swapchain).flatMap swapchainHoldings).Perm (swapchainHoldings swapchain ++
      (context.swapchains.eraseIdx slot).flatMap swapchainHoldings) :=
  (List.set_perm_cons_eraseIdx bound swapchain).flatMap_right swapchainHoldings

theorem swapchainHoldings_zero : swapchainHoldings .zero = [] := by
  simp [swapchainHoldings, holdingOf, imageHoldings, SwapchainMetadata.zero]

theorem takeSlot (accounted : context.Accounted loose) (slot : Nat) :
    (context.setSwapchain slot .zero).Accounted (swapchainHoldings (context.slotAt slot) ++ loose) := by
  refine accounted.regroup (context.swapchains.set slot .zero) (List.length_set ..) ?_ ?_
  · have whole := slotHoldings_perm context slot
    have rest : ((context.swapchains.set slot .zero).flatMap swapchainHoldings).Perm
        ((context.swapchains.eraseIdx slot).flatMap swapchainHoldings) := by
      by_cases bound : slot < context.swapchains.length
      · have placed := setSlot_perm context .zero bound
        rwa [swapchainHoldings_zero, List.nil_append] at placed
      · rw [List.set_eq_of_length_le (by omega), List.eraseIdx_of_length_le (by omega)]
    rw [List.append_assoc]
    refine List.Perm.trans ?_ (whole.symm.append_left loose)
    refine List.Perm.trans ((rest.append_left loose).append_left _) ?_
    rw [← List.append_assoc, ← List.append_assoc]
    exact List.perm_append_comm.append_right _
  · intro swapchain member isIdle
    rcases List.mem_or_eq_of_mem_set member with old | rfl
    · exact accounted.idle swapchain old isIdle
    · exact swapchainHoldings_zero

theorem fillSlot {slot : Nat} {swapchain : SwapchainMetadata}
    (accounted : context.Accounted (swapchainHoldings swapchain ++ loose))
    (bound : slot < context.swapchains.length) (free : swapchainHoldings (context.slotAt slot) = [])
    (inUse : swapchain.swapchainId ≠ 0) : (context.setSwapchain slot swapchain).Accounted loose := by
  refine accounted.regroup (context.swapchains.set slot swapchain) (List.length_set ..) ?_ ?_
  · have whole := slotHoldings_perm context slot
    rw [free, List.nil_append] at whole
    refine List.Perm.trans ((setSlot_perm context swapchain bound).append_left loose) ?_
    refine List.Perm.trans ?_ (whole.symm.append_left _)
    rw [← List.append_assoc]
    exact List.perm_append_comm.append_right _
  · intro other member isIdle
    rcases List.mem_or_eq_of_mem_set member with old | rfl
    · exact accounted.idle other old isIdle
    · exact absurd isIdle inUse

/-! Holdings of handles that may be null -/

theorem holdOf (accounted : context.Accounted (⟨(type, nativeBits), wireId, parentId⟩ :: loose)) :
    context.Accounted (holdingOf type nativeBits wireId parentId ++ loose) := by
  unfold holdingOf
  split
  · exact accounted.drop
  · exact accounted

theorem destroyFound (accounted : context.Accounted (holdingOf type nativeBits wireId parentId ++ loose))
    (found : Bool)
    (unshared : ∀ id parent bits, context.Live id parent bits → (handleType id).owned = true →
      (type, nativeBits) ≠ (handleType id, bits)) :
    (context.nativeDestroyFound found type nativeBits).Accounted loose := by
  unfold holdingOf at accounted
  unfold nativeDestroyFound
  split at accounted
  · rename_i null
    rw [if_neg (by simp [null])]
    exact accounted
  · split
    · exact accounted.destroy unshared
    · exact accounted.drop

theorem unshared_of_zero (accounted : context.Accounted loose) (member : holding ∈ loose)
    (untagged : holding.wireId = 0) (id parent bits : UInt64) (live : context.Live id parent bits)
    (isOwned : (handleType id).owned = true) : holding.native ≠ (handleType id, bits) := by
  intro same
  have tagged := accounted.shared _ _ _ live isOwned holding (List.mem_append_left _ member) same
  exact accounted.live_ne_zero live (tagged.1.symm.trans untagged)

theorem destroyFound_untagged (accounted : context.Accounted (holdingOf type nativeBits 0 parentId ++ loose))
    (found : Bool) : (context.nativeDestroyFound found type nativeBits).Accounted loose := by
  by_cases null : nativeBits = 0
  · rw [holdingOf, if_pos null, List.nil_append] at accounted
    rw [nativeDestroyFound, if_neg (by simp [null])]
    exact accounted
  · refine accounted.destroyFound found ?_
    have member : ⟨(type, nativeBits), 0, parentId⟩ ∈ holdingOf type nativeBits 0 parentId ++ loose := by
      simp [holdingOf, null]
    exact accounted.unshared_of_zero member rfl

end Accounted

end ObjectContext

end VulkanBridge
