import VulkanBridge.Bytes
import Mathlib.Data.List.Induction

/-!
Several writes to one buffer, made in order. Where they overlap the later one stays.
-/

open ByteBuffer

structure Placement where
  position : Nat
  size : Nat
  bytes : Buffer

namespace Placement

def Covers (placement : Placement) (index : Nat) : Prop :=
  placement.position ≤ index ∧ index < placement.position + placement.size

instance (placement : Placement) (index : Nat) : Decidable (placement.Covers index) := by
  unfold Covers
  infer_instance

def write (buffer : Buffer) (placement : Placement) : Buffer :=
  copyInto buffer placement.position placement.bytes placement.size

def writeAll (buffer : Buffer) (placements : List Placement) : Buffer := placements.foldl write buffer

def lastOn (placements : List Placement) (index : Nat) : Option Placement :=
  placements.reverse.find? fun placement => decide (placement.Covers index)

variable {placements : List Placement} {placement : Placement} {buffer : Buffer} {index : Nat}

theorem write_covered (covered : placement.Covers index) :
    write buffer placement index = placement.bytes (index - placement.position) := if_pos covered

theorem write_apart (apart : ¬ placement.Covers index) : write buffer placement index = buffer index := if_neg apart

theorem lastOn_append (placements : List Placement) (placement : Placement) (index : Nat) :
    lastOn (placements ++ [placement]) index =
      if placement.Covers index then some placement else lastOn placements index := by
  simp only [lastOn, List.reverse_append, List.reverse_singleton, List.singleton_append, List.find?_cons]
  by_cases covered : placement.Covers index
  · simp [covered]
  · simp [covered]

theorem writeAll_apply (placements : List Placement) (buffer : Buffer) (index : Nat) :
    writeAll buffer placements index =
      match lastOn placements index with
      | some placement => placement.bytes (index - placement.position)
      | none => buffer index := by
  induction placements using List.reverseRecOn with
  | nil => rfl
  | append_singleton earlier placement ih =>
      have last : writeAll buffer (earlier ++ [placement]) = write (writeAll buffer earlier) placement := by
        simp only [writeAll, List.foldl_append, List.foldl_cons, List.foldl_nil]
      rw [last, lastOn_append]
      by_cases covered : placement.Covers index
      · rw [write_covered covered, if_pos covered]
      · rw [write_apart covered, if_neg covered]
        exact ih

theorem lastOn_eq_none : lastOn placements index = none ↔ ∀ placement ∈ placements, ¬ placement.Covers index := by
  simp [lastOn, List.find?_eq_none]

theorem lastOn_mem (last : lastOn placements index = some placement) :
    placement ∈ placements ∧ placement.Covers index := by
  have member := List.mem_of_find?_eq_some last
  have covers := List.find?_some last
  exact ⟨List.mem_reverse.mp member, of_decide_eq_true covers⟩

theorem writeAll_only (member : placement ∈ placements) (covered : placement.Covers index)
    (only : ∀ other ∈ placements, other.Covers index → other = placement) :
    writeAll buffer placements index = placement.bytes (index - placement.position) := by
  rw [writeAll_apply]
  cases last : lastOn placements index with
  | none => exact absurd covered (lastOn_eq_none.mp last placement member)
  | some other =>
      obtain ⟨known, covers⟩ := lastOn_mem last
      rw [only other known covers]

end Placement
