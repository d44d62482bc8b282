import VulkanBridge.FrameRing
import Mathlib.Data.Set.Function

/-!
What the slots of a frame ring hold, told by the frames published so far: frame
`index` was published from the slot `slots[index]` under the sequence `index + 1`.
Each exchange and each store of a slot word moves one of the counts.
-/

namespace VulkanBridge

/-- The frames below `released` have given their slot back, those below `cleared`
have lost their sequence, and those below `written` have had it stored. -/
structure FrameSlots (ring : FrameRing) (held slots : List Nat) (released cleared written : Nat) : Prop where
  heldInside : ∀ slot ∈ held, slot < ring.slotCount
  queuedInside : ∀ (index slot : Nat), slots[index]? = some slot → slot < ring.slotCount
  heldOnce : held.Nodup
  queuedOnce : ∀ (first second slot : Nat), released ≤ first → released ≤ second →
    slots[first]? = some slot → slots[second]? = some slot → first = second
  acquired : ∀ slot, ring.slotState slot = .acquired ↔ slot ∈ held
  presented : ∀ slot, ring.slotState slot = .presented ↔ ∃ index : Nat, released ≤ index ∧ slots[index]? = some slot
  sequence : ∀ (slot index : Nat), ring.slotSequence slot = index + 1 ↔
    cleared ≤ index ∧ index < written ∧ slots[index]? = some slot
  clearedAfter : released ≤ cleared
  writtenAfter : cleared ≤ written
  published : written ≤ slots.length

def frames (slots : List Nat) : List (Nat × Nat) := slots.zipIdx 1

theorem frames_concat (slots : List Nat) (slot : Nat) :
    frames (slots ++ [slot]) = frames slots ++ [(slot, slots.length + 1)] := by
  simp [frames, List.zipIdx_append, Nat.add_comm]

theorem frames_length (slots : List Nat) : (frames slots).length = slots.length := List.length_zipIdx

theorem getElem?_frames (slots : List Nat) (index : Nat) :
    (frames slots)[index]? = slots[index]?.map fun slot => (slot, index + 1) := by
  simp [frames, List.getElem?_zipIdx, Nat.add_comm]

theorem frames_sequences (slots : List Nat) : (frames slots).map Prod.snd = List.range' 1 slots.length := by
  simp [frames, List.zipIdx_map_snd]

theorem getElem?_concat {slots : List Nat} {slot other index : Nat} :
    (slots ++ [slot])[index]? = some other ↔
      slots[index]? = some other ∨ index = slots.length ∧ other = slot := by
  by_cases inside : index < slots.length
  · rw [List.getElem?_append_left inside]
    constructor
    · exact .inl
    · rintro (found | ⟨rfl, -⟩)
      · exact found
      · omega
  · rw [List.getElem?_append_right (by omega), List.getElem?_eq_none (by omega : slots.length ≤ index)]
    by_cases last : index = slots.length
    · simp [last, eq_comm]
    · have beyond : ([slot] : List Nat)[index - slots.length]? = none :=
        List.getElem?_eq_none (by simp; omega)
      simp [beyond, last]

namespace FrameSlots

variable {ring : FrameRing} {held slots : List Nat} {released cleared written slot : Nat}

theorem presented_of_queued {index : Nat} (holds : FrameSlots ring held slots released cleared written)
    (after : released ≤ index) (queued : slots[index]? = some slot) : ring.slotState slot = .presented :=
  (holds.presented slot).mpr ⟨index, after, queued⟩

theorem claim (holds : FrameSlots ring held slots released cleared written) (inside : slot < ring.slotCount)
    (available : ring.slotState slot = .available) :
    FrameSlots { ring with slotState := Function.update ring.slotState slot .acquired }
      (slot :: held) slots released cleared written := by
  have unheld : slot ∉ held := by
    intro member
    exact nomatch available.symm.trans ((holds.acquired slot).mpr member)
  have unqueued : ¬∃ index, released ≤ index ∧ slots[index]? = some slot := by
    intro queued
    exact nomatch available.symm.trans ((holds.presented slot).mpr queued)
  refine { holds with
    heldInside := ?_
    heldOnce := List.nodup_cons.mpr ⟨unheld, holds.heldOnce⟩
    acquired := ?_
    presented := ?_ }
  · intro other member
    rcases List.mem_cons.mp member with rfl | member
    · exact inside
    · exact holds.heldInside other member
  · intro other
    by_cases same : other = slot
    · subst same
      simp
    · simp [same, holds.acquired other]
  · intro other
    by_cases same : other = slot
    · subst same
      simpa using unqueued
    · simp [Function.update_of_ne same, holds.presented other]

theorem publish (holds : FrameSlots ring held slots released cleared written) (owned : slot ∈ held) :
    FrameSlots { ring with slotState := Function.update ring.slotState slot .presented }
      (held.erase slot) (slots ++ [slot]) released cleared written := by
  have acquired := (holds.acquired slot).mpr owned
  have unqueued : ∀ index, released ≤ index → slots[index]? ≠ some slot := by
    intro index after queued
    exact nomatch acquired.symm.trans (holds.presented_of_queued after queued)
  have room : released ≤ slots.length := by
    have := holds.clearedAfter
    have := holds.writtenAfter
    have := holds.published
    omega
  refine { holds with
    heldInside := fun other member => holds.heldInside other (List.mem_of_mem_erase member)
    heldOnce := holds.heldOnce.erase slot
    queuedInside := ?_
    queuedOnce := ?_
    acquired := ?_
    presented := ?_
    sequence := ?_
    published := ?_ }
  · intro index other queued
    rcases getElem?_concat.mp queued with queued | ⟨-, rfl⟩
    · exact holds.queuedInside index other queued
    · exact holds.heldInside other owned
  · intro first second other afterFirst afterSecond one two
    rcases getElem?_concat.mp one with before | ⟨atEnd, rfl⟩
    · rcases getElem?_concat.mp two with alsoBefore | ⟨-, rfl⟩
      · exact holds.queuedOnce first second other afterFirst afterSecond before alsoBefore
      · exact absurd before (unqueued first afterFirst)
    · rcases getElem?_concat.mp two with alsoBefore | ⟨alsoAtEnd, -⟩
      · exact absurd alsoBefore (unqueued second afterSecond)
      · omega
  · intro other
    by_cases same : other = slot
    · subst same
      simp [holds.heldOnce.not_mem_erase]
    · simp [Function.update_of_ne same, holds.acquired other, List.mem_erase_of_ne same]
  · intro other
    by_cases same : other = slot
    · subst same
      simp only [Function.update_self, true_iff]
      exact ⟨slots.length, room, getElem?_concat.mpr (.inr ⟨rfl, rfl⟩)⟩
    · simp [holds.presented other, getElem?_concat, same]
  · intro other index
    rw [holds.sequence other index, getElem?_concat]
    have := holds.published
    constructor
    · rintro ⟨after, before, queued⟩
      exact ⟨after, before, .inl queued⟩
    · rintro ⟨after, before, queued | ⟨rfl, -⟩⟩
      · exact ⟨after, before, queued⟩
      · omega
  · have := holds.published
    simp only [List.length_append, List.length_singleton]
    omega

theorem write (holds : FrameSlots ring held slots released cleared written)
    (next : slots[written]? = some slot) :
    FrameSlots { ring with slotSequence := Function.update ring.slotSequence slot (written + 1) }
      held slots released cleared (written + 1) := by
  have inside : written < slots.length := (List.getElem?_eq_some_iff.mp next).1
  have clearedAfter := holds.clearedAfter
  have writtenAfter := holds.writtenAfter
  refine { holds with sequence := ?_, writtenAfter := by omega, published := inside }
  intro other index
  by_cases same : other = slot
  · subst same
    simp only [Function.update_self]
    constructor
    · intro stored
      obtain rfl : written = index := by omega
      exact ⟨writtenAfter, by omega, next⟩
    · rintro ⟨after, -, queued⟩
      rw [holds.queuedOnce written index other (by omega) (by omega) next queued]
  · simp only [Function.update_of_ne same, holds.sequence other index]
    constructor
    · rintro ⟨after, before, queued⟩
      exact ⟨after, by omega, queued⟩
    · rintro ⟨after, before, queued⟩
      have apart : index ≠ written := by
        rintro rfl
        exact same (Option.some.inj (queued.symm.trans next))
      exact ⟨after, by omega, queued⟩

theorem clear (holds : FrameSlots ring held slots released cleared written) (first : cleared = released)
    (stored : released < written) (queued : slots[released]? = some slot) :
    FrameSlots { ring with slotSequence := Function.update ring.slotSequence slot 0 }
      held slots released (cleared + 1) written := by
  subst first
  refine { holds with sequence := ?_, clearedAfter := by omega, writtenAfter := stored }
  intro other index
  by_cases same : other = slot
  · subst same
    simp only [Function.update_self]
    constructor
    · intro impossible
      omega
    · rintro ⟨after, -, found⟩
      have := holds.queuedOnce cleared index other (by omega) (by omega) queued found
      omega
  · simp only [Function.update_of_ne same, holds.sequence other index]
    constructor
    · rintro ⟨after, before, found⟩
      have apart : index ≠ cleared := by
        rintro rfl
        exact same (Option.some.inj (found.symm.trans queued))
      exact ⟨by omega, before, found⟩
    · rintro ⟨after, before, found⟩
      exact ⟨by omega, before, found⟩

theorem free (holds : FrameSlots ring held slots released cleared written) (last : cleared = released + 1)
    (queued : slots[released]? = some slot) :
    FrameSlots { ring with slotState := Function.update ring.slotState slot .available }
      held slots (released + 1) cleared written := by
  have presented := holds.presented_of_queued (Nat.le_refl _) queued
  refine { holds with
    queuedOnce := fun one two other afterOne afterTwo =>
      holds.queuedOnce one two other (by omega) (by omega)
    acquired := ?_
    presented := ?_
    clearedAfter := by omega }
  · intro other
    by_cases same : other = slot
    · subst same
      have unheld : other ∉ held := by
        intro member
        exact nomatch presented.symm.trans ((holds.acquired other).mpr member)
      simpa using unheld
    · simp [Function.update_of_ne same, holds.acquired other]
  · intro other
    by_cases same : other = slot
    · subst same
      simp only [Function.update_self, reduceCtorEq, false_iff, not_exists, not_and]
      intro index after found
      have := holds.queuedOnce released index other (by omega) (by omega) queued found
      omega
    · simp only [Function.update_of_ne same, holds.presented other]
      constructor
      · rintro ⟨index, after, found⟩
        have apart : index ≠ released := by
          rintro rfl
          exact same (Option.some.inj (found.symm.trans queued))
        exact ⟨index, by omega, found⟩
      · rintro ⟨index, after, found⟩
        exact ⟨index, by omega, found⟩

end FrameSlots

end VulkanBridge
