import VulkanBridge.HandleTableMap

/-!
The live entries of a handle table, as the loops over its array see them, and
what one insertion and one removal do to them.
-/

namespace VulkanBridge

open LinearProbing

namespace HandleTable

/-- An occupied entry of the array. -/
def Live (table : HandleTable) (wireId parentId nativeBits : UInt64) : Prop :=
  ∃ index, index < table.capacity ∧ table.entries index = ⟨wireId, parentId, nativeBits, .occupied⟩

def cleared : HandleEntry := ⟨0, 0, 0, .tombstone⟩

/-- A table that only its own functions have changed. -/
structure Sound (table : HandleTable) : Prop where
  holds : ∃ map, Holds table map
  blank : ∀ index, (table.entries index).state ≠ .occupied → (table.entries index).wireId = 0
  formed : ∀ index, (table.entries index).state = .occupied →
    handleIsWellFormed (table.entries index).wireId = true ∧ (table.entries index).nativeBits ≠ 0

/-- Entries were removed and nothing else. -/
structure Shrinks (table after : HandleTable) : Prop where
  capacity : after.capacity = table.capacity
  entries : ∀ index, after.entries index = table.entries index ∨ after.entries index = cleared

variable {table after : HandleTable} {wireId parentId nativeBits : UInt64}

theorem slot_eq_occupied {entry : HandleEntry} {value : UInt64 × UInt64} :
    entry.slot = .occupied wireId value ↔ entry = ⟨wireId, value.1, value.2, .occupied⟩ := by
  obtain ⟨storedId, storedParent, storedBits, state⟩ := entry
  cases state with
  | empty => simp [HandleEntry.slot]
  | tombstone => simp [HandleEntry.slot]
  | occupied =>
      simp only [HandleEntry.slot, Slot.occupied.injEq, HandleEntry.mk.injEq, and_true]
      constructor
      · rintro ⟨rfl, rfl⟩
        exact ⟨rfl, rfl, rfl⟩
      · rintro ⟨rfl, rfl, rfl⟩
        exact ⟨rfl, rfl⟩

theorem Holds.live_iff {map : HandleMap} (holds : Holds table map) :
    table.Live wireId parentId nativeBits ↔ map wireId = some (parentId, nativeBits) := by
  rw [holds.represents wireId (parentId, nativeBits)]
  constructor
  · rintro ⟨index, bound, entry⟩
    exact ⟨index, bound, slot_eq_occupied.mpr entry⟩
  · rintro ⟨index, bound, slot⟩
    exact ⟨index, bound, slot_eq_occupied.mp slot⟩

namespace Sound

theorem live_unique (sound : table.Sound) {otherParent otherBits : UInt64}
    (live : table.Live wireId parentId nativeBits) (other : table.Live wireId otherParent otherBits) :
    parentId = otherParent ∧ nativeBits = otherBits := by
  obtain ⟨map, holds⟩ := sound.holds
  have same := (holds.live_iff.mp live).symm.trans (holds.live_iff.mp other)
  cases same
  exact ⟨rfl, rfl⟩

theorem live_formed (sound : table.Sound) (live : table.Live wireId parentId nativeBits) :
    handleIsWellFormed wireId = true ∧ nativeBits ≠ 0 := by
  obtain ⟨index, _, entry⟩ := live
  have formed := sound.formed index (by rw [entry])
  rwa [entry] at formed

theorem live_of_type (sound : table.Sound) {index : Nat} (bound : index < table.capacity)
    (typed : handleType (table.entries index).wireId ≠ .invalid) :
    table.Live (table.entries index).wireId (table.entries index).parentId
      (table.entries index).nativeBits := by
  refine ⟨index, bound, ?_⟩
  have occupied : (table.entries index).state = .occupied := by
    by_contra free
    rw [sound.blank index free] at typed
    exact typed handleType_zero
  cases entry : table.entries index with
  | mk storedId storedParent storedBits state =>
      rw [entry] at occupied
      cases occupied
      rfl

theorem lookup_eq_ok (sound : table.Sound) {expected : ObjectType} :
    table.lookup wireId expected = .ok (parentId, nativeBits) ↔
      handleExpect wireId expected = true ∧ table.Live wireId parentId nativeBits := by
  obtain ⟨map, holds⟩ := sound.holds
  rw [holds.live_iff]
  cases expects : handleExpect wireId expected with
  | false => simp [HandleTable.lookup, expects]
  | true =>
      rw [holds.lookup expects]
      cases map wireId with
      | none => simp
      | some binding => simp

theorem setEntry (sound : table.Sound) {map : HandleMap} {index count : Nat} {entry : HandleEntry}
    (holds : Holds (table.setEntry index entry count) map)
    (blank : entry.state ≠ .occupied → entry.wireId = 0)
    (formed : entry.state = .occupied →
      handleIsWellFormed entry.wireId = true ∧ entry.nativeBits ≠ 0) :
    (table.setEntry index entry count).Sound := by
  refine ⟨⟨map, holds⟩, ?_, ?_⟩
  · intro other
    by_cases here : other = index
    · simpa [HandleTable.setEntry, here] using blank
    · simpa [HandleTable.setEntry, here] using sound.blank other
  · intro other
    by_cases here : other = index
    · simpa [HandleTable.setEntry, here] using formed
    · simpa [HandleTable.setEntry, here] using sound.formed other

theorem insert_ok (sound : table.Sound) (inserted : table.insert wireId parentId nativeBits = .ok after) :
    after.Sound ∧ after.capacity = table.capacity ∧ handleIsWellFormed wireId = true ∧ nativeBits ≠ 0 ∧
      (∀ parent bits, ¬ table.Live wireId parent bits) ∧
      ∀ id parent bits, after.Live id parent bits ↔
        table.Live id parent bits ∨ id = wireId ∧ parent = parentId ∧ bits = nativeBits := by
  obtain ⟨map, holds⟩ := sound.holds
  rw [insert_eq holds.isValid] at inserted
  by_cases refused : handleIsWellFormed wireId = false ∨ nativeBits = 0 ∨
      (parentId ≠ 0 ∧ handleIsWellFormed parentId = false)
  · simp [if_pos refused] at inserted
  rw [if_neg refused] at inserted
  by_cases full : table.count = table.capacity
  · simp [if_pos full] at inserted
  rw [if_neg full] at inserted
  rcases holds.insertIndex_cases wireId full with ⟨result, _⟩ | ⟨index, result, fits, absent⟩
  · simp [result] at inserted
  simp only [result, Except.ok.injEq] at inserted
  subst inserted
  have next := holds.insert_absent parentId nativeBits fits
  have formed : handleIsWellFormed wireId = true ∧ nativeBits ≠ 0 := by
    cases known : handleIsWellFormed wireId with
    | false => exact absurd (Or.inl known) refused
    | true => exact ⟨rfl, fun zero => refused (Or.inr (Or.inl zero))⟩
  refine ⟨sound.setEntry next (by simp) (fun _ => formed), rfl, formed.1, formed.2, ?_, ?_⟩
  · intro parent bits live
    rw [holds.live_iff, absent] at live
    cases live
  · intro id parent bits
    rw [next.live_iff, holds.live_iff, insertMap]
    by_cases same : id = wireId
    · subst same
      simp [absent, eq_comm]
    · simp [same]

theorem remove_ok (sound : table.Sound) {expected : ObjectType} {removedBits : UInt64}
    (removed : table.remove wireId expected = .ok (removedBits, after)) :
    after.Sound ∧ Shrinks table after ∧ handleExpect wireId expected = true ∧
      (∃ parent, table.Live wireId parent removedBits) ∧
      ∀ id parent bits, after.Live id parent bits ↔ table.Live id parent bits ∧ id ≠ wireId := by
  obtain ⟨map, holds⟩ := sound.holds
  simp only [HandleTable.remove, holds.isValid, Bool.not_true, Bool.false_or] at removed
  cases expects : handleExpect wireId expected with
  | false => simp [expects] at removed
  | true =>
      simp only [expects, Bool.not_true, Bool.false_eq_true, if_false] at removed
      cases found : table.findIndex wireId table.capacity (hashWireId wireId table.capacity) with
      | none => simp [found] at removed
      | some index =>
          simp only [found, Except.ok.injEq, Prod.mk.injEq] at removed
          obtain ⟨rfl, rfl⟩ := removed
          have next := holds.remove_present found
          obtain ⟨bound, stored, binding⟩ := holds.find_some found
          refine ⟨sound.setEntry next (by simp) (by simp), ⟨rfl, ?_⟩, rfl, ⟨_, holds.live_iff.mpr binding⟩, ?_⟩
          · intro other
            by_cases here : other = index
            · exact Or.inr (by simp [HandleTable.setEntry, here, cleared])
            · exact Or.inl (by simp [HandleTable.setEntry, here])
          · intro id parent bits
            rw [next.live_iff, holds.live_iff, eraseMap]
            by_cases same : id = wireId
            · simp [same]
            · simp [same]

theorem remove_live (sound : table.Sound) {expected : ObjectType} (expects : handleExpect wireId expected = true)
    (live : table.Live wireId parentId nativeBits) :
    ∃ next, table.remove wireId expected = .ok (nativeBits, next) := by
  obtain ⟨map, holds⟩ := sound.holds
  have bound := holds.live_iff.mp live
  simp only [HandleTable.remove, holds.isValid, expects, Bool.not_true, Bool.or_self, Bool.false_eq_true,
    if_false]
  cases found : table.findIndex wireId table.capacity (hashWireId wireId table.capacity) with
  | none =>
      rw [holds.find_none found] at bound
      cases bound
  | some index =>
      have binding := (holds.find_some found).2.2
      rw [bound] at binding
      simp only [Option.some.injEq, Prod.mk.injEq] at binding
      exact ⟨_, by rw [binding.2]⟩

theorem insert_remove (sound : table.Sound) {expected : ObjectType} (isType : handleType wireId = expected)
    (inserted : table.insert wireId parentId nativeBits = .ok after) :
    ∃ left, after.remove wireId expected = .ok (nativeBits, left) ∧ left.Sound ∧
      ∀ id parent bits, left.Live id parent bits ↔ table.Live id parent bits := by
  obtain ⟨held, -, formed, -, absent, live⟩ := sound.insert_ok inserted
  have expects : handleExpect wireId expected = true := (handleExpect_iff _ _).mpr ⟨formed, isType⟩
  obtain ⟨left, removed⟩ := held.remove_live expects ((live _ _ _).mpr (Or.inr ⟨rfl, rfl, rfl⟩))
  obtain ⟨kept, -, -, -, rest⟩ := held.remove_ok removed
  refine ⟨left, removed, kept, ?_⟩
  intro id parent bits
  rw [rest, live]
  constructor
  · rintro ⟨old | ⟨rfl, -⟩, different⟩
    · exact old
    · exact absurd rfl different
  · intro old
    refine ⟨Or.inl old, ?_⟩
    rintro rfl
    exact absent _ _ old

theorem init {capacity : Nat} (power : ∃ exponent, capacity = 2 ^ exponent) (large : 8 ≤ capacity) :
    (⟨fun _ => .zero, capacity, 0⟩ : HandleTable).Sound := by
  refine ⟨⟨_, Holds.init power large⟩, ?_, ?_⟩
  · intro index _
    rfl
  · intro index occupied
    cases occupied

end Sound

theorem Live.of_shrinks (shrinks : Shrinks table after) (live : after.Live wireId parentId nativeBits) :
    table.Live wireId parentId nativeBits := by
  obtain ⟨index, bound, entry⟩ := live
  rw [shrinks.capacity] at bound
  rcases shrinks.entries index with same | gone
  · exact ⟨index, bound, same.symm.trans entry⟩
  · rw [gone] at entry
    cases entry

theorem Shrinks.refl (table : HandleTable) : Shrinks table table := ⟨rfl, fun _ => Or.inl rfl⟩

theorem Shrinks.trans {between : HandleTable} (first : Shrinks table between) (second : Shrinks between after) :
    Shrinks table after := by
  refine ⟨second.capacity.trans first.capacity, ?_⟩
  intro index
  rcases second.entries index with same | gone
  · rw [same]
    exact first.entries index
  · exact Or.inr gone

end HandleTable

end VulkanBridge
