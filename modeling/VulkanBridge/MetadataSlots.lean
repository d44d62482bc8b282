import VulkanBridge.PartialTeardown

/-!
The metadata arrays of a service context and the handles they belong to. The
search of an array, and what entering and clearing a slot together with its
handle does to their correspondence.
-/

namespace VulkanBridge

open HandleTable

section search

variable {ids : Nat → UInt64} {wanted : UInt64}

theorem metadataSlot_some : ∀ remaining index free slot,
    metadataSlot ids wanted remaining index free = some slot →
      free = some slot ∨ slot < index + remaining ∧ (ids slot = wanted ∨ ids slot = 0) := by
  intro remaining
  induction remaining with
  | zero => intro index free slot found; exact Or.inl found
  | succ remaining ih =>
      intro index free slot found
      simp only [metadataSlot] at found
      split at found
      · rename_i here
        cases found
        exact Or.inr ⟨by omega, Or.inl here⟩
      · rcases ih _ _ _ found with kept | ⟨bound, fits⟩
        · split at kept
          · rename_i blank
            cases kept
            exact Or.inr ⟨by omega, Or.inr blank.1⟩
          · exact Or.inl kept
        · exact Or.inr ⟨by omega, fits⟩

theorem metadataSlot_wanted : ∀ remaining index free position, index ≤ position → position < index + remaining →
    ids position = wanted →
      ∃ slot, metadataSlot ids wanted remaining index free = some slot ∧ slot < index + remaining ∧
        ids slot = wanted := by
  intro remaining
  induction remaining with
  | zero => intro index free position lower upper _; omega
  | succ remaining ih =>
      intro index free position lower upper present
      by_cases here : ids index = wanted
      · exact ⟨index, by simp only [metadataSlot, if_pos here], by omega, here⟩
      · have later : index ≠ position := by
          rintro rfl
          exact here present
        obtain ⟨slot, found, bound, holds⟩ := ih (index + 1)
          (if ids index = 0 ∧ free = none then some index else free) position (by omega) (by omega) present
        exact ⟨slot, by simp only [metadataSlot, if_neg here, found], by omega, holds⟩

end search

namespace ObjectContext

def Alive (context : ObjectContext) (wireId : UInt64) : Prop :=
  ∃ parentId nativeBits, context.Live wireId parentId nativeBits

/-- The slots in use and the live handles of the types with a metadata array
are the same ids, each in one slot. -/
structure Paired (context : ObjectContext) : Prop where
  sound : context.objects.Sound
  held : ∀ (type : ObjectType) (slot : Nat), slot < metadataCapacity type → context.metadata type slot ≠ 0 →
    handleType (context.metadata type slot) = type ∧ context.Alive (context.metadata type slot)
  listed : ∀ wireId, context.Alive wireId → 0 < metadataCapacity (handleType wireId) →
    ∃ slot < metadataCapacity (handleType wireId), context.metadata (handleType wireId) slot = wireId
  once : ∀ (type : ObjectType) (first second : Nat), first < metadataCapacity type →
    second < metadataCapacity type → context.metadata type first ≠ 0 →
    context.metadata type first = context.metadata type second → first = second

variable {context next : ObjectContext} {wireId : UInt64} {type : ObjectType}

theorem slotOf_some {slot : Nat} (found : context.slotOf type wireId = some slot) :
    slot < metadataCapacity type ∧ (context.metadata type slot = wireId ∨ context.metadata type slot = 0) := by
  rcases metadataSlot_some _ _ _ _ found with impossible | ⟨bound, fits⟩
  · cases impossible
  · exact ⟨by omega, fits⟩

theorem slotOf_listed {position : Nat} (bound : position < metadataCapacity type)
    (present : context.metadata type position = wireId) :
    ∃ slot, context.slotOf type wireId = some slot ∧ slot < metadataCapacity type ∧
      context.metadata type slot = wireId := by
  obtain ⟨slot, found, inside, holds⟩ := metadataSlot_wanted (metadataCapacity type) 0 none position
    (by omega) (by omega) present
  exact ⟨slot, found, by omega, holds⟩

theorem setMetadata_apply (context : ObjectContext) (type other : ObjectType) (slot index : Nat) (wireId : UInt64) :
    (context.setMetadata type slot wireId).metadata other index =
      if other = type ∧ index = slot then wireId else context.metadata other index := by
  simp only [setMetadata, Function.update_apply]
  by_cases isType : other = type
  · subst isType
    by_cases here : index = slot
    · simp [here]
    · simp [here]
  · simp [isType]

namespace Paired

theorem of_alive (paired : context.Paired) (sound : next.objects.Sound)
    (alive : ∀ id, next.Alive id ↔ context.Alive id) (metadata : next.metadata = context.metadata) :
    next.Paired := by
  refine ⟨sound, ?_, ?_, ?_⟩
  · simpa only [metadata, alive] using paired.held
  · simpa only [metadata, alive] using paired.listed
  · simpa only [metadata] using paired.once

theorem of_eq (paired : context.Paired) (objects : next.objects = context.objects)
    (metadata : next.metadata = context.metadata) : next.Paired := by
  refine paired.of_alive ?_ (fun id => ?_) metadata
  · rw [objects]
    exact paired.sound
  · simp only [Alive, Live, objects]

theorem addPlain (paired : context.Paired) (sound : next.objects.Sound)
    (plain : metadataCapacity (handleType wireId) = 0)
    (alive : ∀ id, next.Alive id ↔ context.Alive id ∨ id = wireId) (metadata : next.metadata = context.metadata) :
    next.Paired := by
  refine ⟨sound, ?_, ?_, ?_⟩
  · intro type slot bound inUse
    rw [metadata] at inUse ⊢
    obtain ⟨isType, living⟩ := paired.held type slot bound inUse
    exact ⟨isType, (alive _).mpr (Or.inl living)⟩
  · intro id living some
    rw [metadata]
    rcases (alive id).mp living with old | rfl
    · exact paired.listed id old some
    · omega
  · simpa only [metadata] using paired.once

theorem add (paired : context.Paired) (sound : next.objects.Sound) {slot : Nat}
    (nonzero : wireId ≠ 0) (isType : handleType wireId = type) (bound : slot < metadataCapacity type)
    (free : context.metadata type slot = 0) (absent : ¬ context.Alive wireId)
    (alive : ∀ id, next.Alive id ↔ context.Alive id ∨ id = wireId)
    (metadata : next.metadata = (context.setMetadata type slot wireId).metadata) : next.Paired := by
  have entered : ∀ other index, next.metadata other index =
      if other = type ∧ index = slot then wireId else context.metadata other index := by
    intro other index
    rw [metadata]
    exact setMetadata_apply context type other slot index wireId
  have unlisted : ∀ index, index < metadataCapacity type → context.metadata type index ≠ wireId := by
    rintro index inside rfl
    exact absent (paired.held type index inside nonzero).2
  refine ⟨sound, ?_, ?_, ?_⟩
  · intro other index inside inUse
    rw [entered] at inUse ⊢
    by_cases here : other = type ∧ index = slot
    · rw [if_pos here]
      exact ⟨isType.trans here.1.symm, (alive wireId).mpr (Or.inr rfl)⟩
    · rw [if_neg here] at inUse ⊢
      obtain ⟨typed, living⟩ := paired.held other index inside inUse
      exact ⟨typed, (alive _).mpr (Or.inl living)⟩
  · intro id living some
    rcases (alive id).mp living with old | rfl
    · obtain ⟨index, inside, holds⟩ := paired.listed id old some
      refine ⟨index, inside, ?_⟩
      rw [entered, if_neg, holds]
      rintro ⟨sameType, rfl⟩
      rw [sameType, free] at holds
      rw [← holds] at old
      obtain ⟨parentId, bits, live⟩ := old
      exact handleIsWellFormed_ne_zero (paired.sound.live_formed live).1 rfl
    · rw [isType]
      exact ⟨slot, bound, by rw [entered, if_pos ⟨rfl, rfl⟩]⟩
  · intro other first second firstBound secondBound inUse same
    rw [entered] at inUse same
    rw [entered] at same
    by_cases isFirst : other = type ∧ first = slot
    · rw [if_pos isFirst] at same
      by_cases isSecond : other = type ∧ second = slot
      · rw [isFirst.2, isSecond.2]
      · rw [if_neg isSecond, isFirst.1] at same
        exact absurd same.symm (unlisted second (isFirst.1 ▸ secondBound))
    · rw [if_neg isFirst] at inUse same
      by_cases isSecond : other = type ∧ second = slot
      · rw [if_pos isSecond, isSecond.1] at same
        exact absurd same (unlisted first (isSecond.1 ▸ firstBound))
      · rw [if_neg isSecond] at same
        exact paired.once other first second firstBound secondBound inUse same

theorem drop (paired : context.Paired) (wireId : UInt64) (sound : next.objects.Sound)
    (alive : ∀ id, next.Alive id ↔ context.Alive id ∧ id ≠ wireId)
    (metadata : ∀ (type : ObjectType) (slot : Nat), slot < metadataCapacity type →
      next.metadata type slot = if context.metadata type slot = wireId then 0 else context.metadata type slot) :
    next.Paired := by
  have left : ∀ (type : ObjectType) (slot : Nat), slot < metadataCapacity type → next.metadata type slot ≠ 0 →
      context.metadata type slot ≠ wireId ∧ next.metadata type slot = context.metadata type slot := by
    intro type slot bound inUse
    have entry := metadata type slot bound
    by_cases gone : context.metadata type slot = wireId
    · rw [if_pos gone] at entry
      exact absurd entry inUse
    · rw [if_neg gone] at entry
      exact ⟨gone, entry⟩
  refine ⟨sound, ?_, ?_, ?_⟩
  · intro type slot bound inUse
    obtain ⟨other, same⟩ := left type slot bound inUse
    rw [same] at inUse ⊢
    obtain ⟨typed, living⟩ := paired.held type slot bound inUse
    exact ⟨typed, (alive _).mpr ⟨living, other⟩⟩
  · intro id living some
    obtain ⟨old, other⟩ := (alive id).mp living
    obtain ⟨slot, bound, holds⟩ := paired.listed id old some
    refine ⟨slot, bound, ?_⟩
    rw [metadata _ slot bound, if_neg, holds]
    rw [holds]
    exact other
  · intro type first second firstBound secondBound inUse same
    have inUseToo : next.metadata type second ≠ 0 := by
      rw [← same]
      exact inUse
    have isFirst := (left type first firstBound inUse).2
    have isSecond := (left type second secondBound inUseToo).2
    rw [isFirst] at inUse same
    rw [isSecond] at same
    exact paired.once type first second firstBound secondBound inUse same

theorem alive_ne_zero (paired : context.Paired) (alive : context.Alive wireId) : wireId ≠ 0 := by
  obtain ⟨parentId, nativeBits, live⟩ := alive
  exact handleIsWellFormed_ne_zero (paired.sound.live_formed live).1

end Paired

theorem clearMetadata_unlisted
    (unlisted : ∀ slot < metadataCapacity type, context.metadata type slot ≠ wireId) :
    context.clearMetadata type wireId = context := by
  unfold clearMetadata
  split
  · rfl
  · rename_i slot found
    obtain ⟨bound, -⟩ := slotOf_some found
    rw [if_neg (unlisted slot bound)]

theorem Paired.clearMetadata_apply (paired : context.Paired) (same : next.metadata = context.metadata)
    (nonzero : wireId ≠ 0) (isType : handleType wireId = type) (other : ObjectType) (index : Nat)
    (inside : index < metadataCapacity other) :
    (next.clearMetadata type wireId).metadata other index =
      if context.metadata other index = wireId then 0 else context.metadata other index := by
  by_cases present : ∃ position < metadataCapacity type, context.metadata type position = wireId
  · obtain ⟨position, bound, holds⟩ := present
    rw [← same] at holds
    obtain ⟨slot, found, slotBound, stored⟩ := slotOf_listed bound holds
    have cleared : next.clearMetadata type wireId = next.setMetadata type slot 0 := by
      simp only [clearMetadata, found, stored, if_true]
    rw [cleared, setMetadata_apply, same]
    rw [same] at stored
    by_cases here : other = type ∧ index = slot
    · rw [if_pos here, if_pos]
      rw [here.1, here.2]
      exact stored
    · rw [if_neg here, if_neg]
      intro again
      have inUse : context.metadata other index ≠ 0 := by
        rw [again]
        exact nonzero
      have sameType : other = type := by
        rw [← isType, ← again]
        exact (paired.held other index inside inUse).1.symm
      subst sameType
      exact here ⟨rfl, paired.once other index slot inside slotBound inUse (again.trans stored.symm)⟩
  · have unlisted : ∀ slot < metadataCapacity type, next.metadata type slot ≠ wireId := by
      intro slot bound holds
      rw [same] at holds
      exact present ⟨slot, bound, holds⟩
    rw [clearMetadata_unlisted unlisted, same, if_neg]
    intro again
    have inUse : context.metadata other index ≠ 0 := by
      rw [again]
      exact nonzero
    have sameType : other = type := by
      rw [← isType, ← again]
      exact (paired.held other index inside inUse).1.symm
    subst sameType
    exact present ⟨index, inside, again⟩

@[simp] theorem removeHandle_metadata (context : ObjectContext) (wireId : UInt64) (type : ObjectType) :
    (context.removeHandle wireId type).2.metadata = context.metadata := by
  unfold removeHandle
  split <;> rfl

theorem removeHandle_alive (sound : context.objects.Sound)
    (removed : context.removeHandle wireId type = (.ok (), next)) :
    next.objects.Sound ∧ handleType wireId = type ∧ context.Alive wireId ∧ next.metadata = context.metadata ∧
      ∀ id, next.Alive id ↔ context.Alive id ∧ id ≠ wireId := by
  unfold removeHandle at removed
  split at removed
  · cases congrArg Prod.fst removed
  · rename_i bits objects taken
    cases congrArg Prod.snd removed
    obtain ⟨kept, -, expects, ⟨parent, live⟩, rest⟩ := sound.remove_ok taken
    refine ⟨kept, ((handleExpect_iff _ _).mp expects).2, ⟨parent, bits, live⟩, rfl, fun id => ?_⟩
    constructor
    · rintro ⟨parentId, nativeBits, held⟩
      obtain ⟨old, other⟩ := (rest _ _ _).mp held
      exact ⟨⟨parentId, nativeBits, old⟩, other⟩
    · rintro ⟨⟨parentId, nativeBits, old⟩, other⟩
      exact ⟨parentId, nativeBits, (rest _ _ _).mpr ⟨old, other⟩⟩

namespace Paired

theorem removeClear (paired : context.Paired) (removed : context.removeHandle wireId type = (.ok (), next)) :
    (next.clearMetadata type wireId).Paired := by
  obtain ⟨sound, isType, alive, metadata, rest⟩ := removeHandle_alive paired.sound removed
  refine paired.drop wireId ?_ ?_ ?_
  · rw [clearMetadata_objects]
    exact sound
  · intro id
    simp only [Alive, Live, clearMetadata_objects]
    exact rest id
  · exact paired.clearMetadata_apply metadata (paired.alive_ne_zero alive) isType

theorem removePlain (paired : context.Paired) (wireId : UInt64) (plain : metadataCapacity type = 0) :
    (context.removeHandle wireId type).2.Paired := by
  cases outcome : context.removeHandle wireId type with
  | mk result next =>
      cases result with
      | error code =>
          rw [removeHandle_refused outcome]
          exact paired
      | ok nothing =>
          obtain ⟨sound, isType, alive, metadata, rest⟩ := removeHandle_alive paired.sound outcome
          refine paired.drop wireId sound rest ?_
          intro other slot bound
          rw [metadata, if_neg]
          intro holds
          have typed := (paired.held other slot bound (by rw [holds]; exact paired.alive_ne_zero alive)).1
          rw [holds, isType] at typed
          rw [← typed, plain] at bound
          omega

/-- A swapchain clears the slot of an image and then removes its handle. An id
that is dead by then is in no slot. -/
theorem clearRemove (paired : context.Paired) (nonzero : wireId ≠ 0) (type : ObjectType) :
    ((context.clearMetadata type wireId).removeHandle wireId type).2.Paired := by
  cases outcome : (context.clearMetadata type wireId).removeHandle wireId type with
  | mk result last =>
      have objects : (context.clearMetadata type wireId).objects = context.objects := by simp
      cases result with
      | ok nothing =>
          obtain ⟨sound, isType, -, metadata, rest⟩ := removeHandle_alive (objects ▸ paired.sound) outcome
          refine paired.drop wireId sound ?_ ?_
          · simpa only [Alive, Live, objects] using rest
          · rw [metadata]
            exact paired.clearMetadata_apply rfl nonzero isType
      | error code =>
          rw [removeHandle_refused outcome, clearMetadata_unlisted]
          · exact paired
          · intro slot bound holds
            obtain ⟨isType, parentId, nativeBits, live⟩ :=
              paired.held type slot bound (by rw [holds]; exact nonzero)
            rw [holds] at isType live
            have expects := (handleExpect_iff wireId type).mpr ⟨(paired.sound.live_formed live).1, isType⟩
            obtain ⟨after, removable⟩ := paired.sound.remove_live expects live
            rw [← objects] at removable
            simp only [ObjectContext.removeHandle, removable] at outcome
            cases congrArg Prod.fst outcome

end Paired

end ObjectContext

end VulkanBridge
