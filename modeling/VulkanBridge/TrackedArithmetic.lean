import Mathlib.Algebra.Group.Nat.Defs
import Mathlib.Tactic.Common

/-!
64-bit machine arithmetic that remembers whether it agreed with the integers: a
value together with the answer to whether no sum and no difference on the way to
it has wrapped.
-/

structure Tracked (α : Type) where
  value : α
  exact : Bool

namespace Tracked

def pure {α : Type} (value : α) : Tracked α where
  value := value
  exact := true

def bind {α β : Type} (first : Tracked α) (next : α → Tracked β) : Tracked β where
  value := (next first.value).value
  exact := first.exact && (next first.value).exact

instance : Monad Tracked where
  pure := pure
  bind := bind

def add (left right : UInt64) : Tracked UInt64 where
  value := left + right
  exact := decide (left.toNat + right.toNat < 2 ^ 64)

def sub (left right : UInt64) : Tracked UInt64 where
  value := left - right
  exact := decide (right ≤ left)

@[simp] theorem pure_value {α : Type} (value : α) : (Pure.pure value : Tracked α).value = value := rfl

@[simp] theorem pure_exact {α : Type} (value : α) : (Pure.pure value : Tracked α).exact = true := rfl

@[simp] theorem bind_value {α β : Type} (first : Tracked α) (next : α → Tracked β) :
    (first >>= next).value = (next first.value).value := rfl

@[simp] theorem bind_exact {α β : Type} (first : Tracked α) (next : α → Tracked β) :
    (first >>= next).exact = (first.exact && (next first.value).exact) := rfl

@[simp] theorem add_exact (left right : UInt64) :
    (add left right).exact = decide (left.toNat + right.toNat < 2 ^ 64) := rfl

@[simp] theorem sub_exact (left right : UInt64) : (sub left right).exact = decide (right ≤ left) := rfl

theorem add_toNat {left right : UInt64} (fits : left.toNat + right.toNat < 2 ^ 64) :
    (add left right).value.toNat = left.toNat + right.toNat := by
  show (left + right).toNat = _
  rw [UInt64.toNat_add]
  exact Nat.mod_eq_of_lt fits

theorem sub_toNat {left right : UInt64} (ordered : right.toNat ≤ left.toNat) :
    (sub left right).value.toNat = left.toNat - right.toNat :=
  UInt64.toNat_sub_of_le _ _ (UInt64.le_iff_toNat_le.mpr ordered)

theorem sub_toNat_of_lt {left right : UInt64} (below : left.toNat < right.toNat) :
    (sub left right).value.toNat = 2 ^ 64 + left.toNat - right.toNat := by
  show (left - right).toNat = _
  have first := left.toNat_lt
  have second := right.toNat_lt
  rw [UInt64.toNat_sub]
  have folded : 2 ^ 64 - right.toNat + left.toNat = 2 ^ 64 + left.toNat - right.toNat := by omega
  rw [folded]
  exact Nat.mod_eq_of_lt (by omega)

end Tracked
