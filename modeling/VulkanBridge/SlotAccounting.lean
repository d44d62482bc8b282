import Mathlib.Algebra.BigOperators.Group.List.Basic
import Mathlib.Algebra.GroupWithZero.Nat
import Mathlib.Data.List.Nodup
import Mathlib.Data.List.Perm.Basic

/-!
A table of slots, some of them in use, with the sum of the weights of those kept beside it.
-/

namespace SlotAccounting

variable {α κ : Type} {used : α → Bool} {key : α → κ} {weight : α → Nat} {slots : List α} {index total : Nat}
  {old fresh : α}

theorem split_at (found : slots[index]? = some old) :
    ∃ before after, slots = before ++ old :: after ∧ ∀ fresh, slots.set index fresh = before ++ fresh :: after := by
  obtain ⟨bound, here⟩ := List.getElem?_eq_some_iff.mp found
  refine ⟨slots.take index, slots.drop (index + 1), ?_, ?_⟩
  · rw [← here, List.cons_getElem_drop_succ, List.take_append_drop]
  · intro fresh
    exact List.set_eq_take_append_cons_drop.trans (if_pos bound)

theorem fill_perm (found : slots[index]? = some old) (free : used old = false) (taken : used fresh = true) :
    ((slots.set index fresh).filter used).Perm (fresh :: slots.filter used) := by
  obtain ⟨before, after, rfl, filled⟩ := split_at found
  rw [filled, List.filter_append, List.filter_append, List.filter_cons_of_pos taken,
    List.filter_cons_of_neg (by simp [free])]
  exact List.perm_middle

theorem clear_perm (found : slots[index]? = some old) (taken : used old = true) (blank : used fresh = false) :
    (slots.filter used).Perm (old :: (slots.set index fresh).filter used) := by
  obtain ⟨before, after, rfl, cleared⟩ := split_at found
  rw [cleared, List.filter_append, List.filter_append, List.filter_cons_of_pos taken,
    List.filter_cons_of_neg (by simp [blank])]
  exact List.perm_middle

/-- The slots in use have different keys, and `total` is the sum of their weights. -/
structure Counts (used : α → Bool) (key : α → κ) (weight : α → Nat) (slots : List α) (total : Nat) : Prop where
  once : ((slots.filter used).map key).Nodup
  sum : total = ((slots.filter used).map weight).sum

namespace Counts

theorem empty (free : ∀ entry ∈ slots, used entry = false) : Counts used key weight slots 0 := by
  have none : slots.filter used = [] := by
    rw [List.filter_eq_nil_iff]
    intro entry member
    rw [free entry member]
    exact Bool.false_ne_true
  refine ⟨?_, ?_⟩
  · rw [none]
    exact List.nodup_nil
  · rw [none]
    rfl

theorem fill (counts : Counts used key weight slots total) (found : slots[index]? = some old)
    (free : used old = false) (taken : used fresh = true)
    (unknown : ∀ entry ∈ slots, used entry = true → key entry ≠ key fresh) :
    Counts used key weight (slots.set index fresh) (total + weight fresh) := by
  have perm : ((slots.set index fresh).filter used).Perm (fresh :: slots.filter used) := fill_perm found free taken
  refine ⟨?_, ?_⟩
  · rw [(perm.map key).nodup_iff, List.map_cons, List.nodup_cons]
    refine ⟨?_, counts.once⟩
    intro member
    obtain ⟨entry, present, same⟩ := List.mem_map.mp member
    obtain ⟨inside, isUsed⟩ := List.mem_filter.mp present
    exact unknown entry inside isUsed same
  · rw [(perm.map weight).sum_eq, List.map_cons, List.sum_cons, ← counts.sum, Nat.add_comm]

theorem clear (counts : Counts used key weight slots total) (found : slots[index]? = some old)
    (taken : used old = true) (blank : used fresh = false) :
    weight old ≤ total ∧ Counts used key weight (slots.set index fresh) (total - weight old) := by
  have perm : (slots.filter used).Perm (old :: (slots.set index fresh).filter used) := clear_perm found taken blank
  have sum := counts.sum
  rw [(perm.map weight).sum_eq, List.map_cons, List.sum_cons] at sum
  have once := counts.once
  rw [(perm.map key).nodup_iff, List.map_cons, List.nodup_cons] at once
  exact ⟨by omega, once.2, by omega⟩

end Counts

end SlotAccounting
