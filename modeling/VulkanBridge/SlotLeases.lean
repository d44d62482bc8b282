import Mathlib.Tactic.Common
import Mathlib.Logic.Function.Basic

/-!
Slots leased to holders, and a word with one bit for each slot. A slot is in use
exactly where one holder has it.
-/

namespace WordBits

def bit (index : Nat) : UInt64 := 1 <<< UInt64.ofNat index

def has (word : UInt64) (index : Nat) : Bool := word.toBitVec.getLsbD index

variable {word : UInt64} {index other : Nat}

theorem has_zero : has 0 index = false := BitVec.getLsbD_zero

theorem has_lt (set : has word index = true) : index < 64 := BitVec.lt_of_getLsbD set

theorem bit_toNat (inside : index < 64) : (bit index).toNat = 1 <<< index := by
  have small : (UInt64.ofNat index).toNat = index := UInt64.toNat_ofNat_of_lt' (by simp only [UInt64.size]; omega)
  have below : 1 <<< index < 2 ^ 64 := by
    rw [Nat.one_shiftLeft]
    exact Nat.pow_lt_pow_right (by omega) inside
  rw [bit, UInt64.toNat_shiftLeft, small, Nat.mod_eq_of_lt inside, UInt64.toNat_one, Nat.mod_eq_of_lt below]

theorem has_bit (inside : index < 64) : has (bit index) other = decide (index = other) := by
  rw [has, BitVec.getLsbD, UInt64.toNat_toBitVec, bit_toNat inside, Nat.one_shiftLeft, Nat.testBit_two_pow]

theorem has_set (inside : index < 64) :
    has (word ||| bit index) other = (has word other || decide (index = other)) := by
  rw [← has_bit inside]
  exact BitVec.getLsbD_or

theorem has_clear (inside : index < 64) :
    has (word &&& ~~~bit index) other = (has word other && decide (index ≠ other)) := by
  have both : has (word &&& ~~~bit index) other = (has word other && has (~~~bit index) other) :=
    BitVec.getLsbD_and
  cases set : has word other with
  | false => rw [both, set, Bool.false_and, Bool.false_and]
  | true =>
      have small := has_lt set
      have inverted : has (~~~bit index) other = !has (bit index) other := by
        simp only [has, UInt64.toBitVec_not, BitVec.getLsbD_not, small, decide_true, Bool.true_and]
      rw [both, set, inverted, has_bit inside, decide_not]

theorem and_bit_eq_zero_iff (inside : index < 64) : word &&& bit index = 0 ↔ has word index = false := by
  have both : ∀ other, has (word &&& bit index) other = (has word other && has (bit index) other) :=
    fun _ => BitVec.getLsbD_and
  constructor
  · intro none
    have here := both index
    rw [none, has_zero, has_bit inside, decide_eq_true rfl, Bool.and_true] at here
    exact here.symm
  · intro clear
    rw [← UInt64.toBitVec_inj]
    apply BitVec.eq_of_getLsbD_eq
    intro other _
    have there := both other
    rw [has_bit inside] at there
    by_cases same : index = other
    · rw [← same, clear, Bool.false_and] at there
      rw [← same]
      exact there.trans has_zero.symm
    · rw [decide_eq_false same, Bool.and_false] at there
      exact there.trans has_zero.symm

end WordBits

namespace SlotLeases

variable {ι : Type}

/-- The slots in use are those a holder has, each by one holder. -/
structure Leased (used : Nat → Prop) (slotOf : ι → Option Nat) : Prop where
  used_iff : ∀ slot, used slot ↔ ∃ holder, slotOf holder = some slot
  exclusive : ∀ first second slot, slotOf first = some slot → slotOf second = some slot → first = second

variable {used next : Nat → Prop} {slotOf : ι → Option Nat} {holder : ι} {slot : Nat}

variable [DecidableEq ι]

theorem Leased.lease (leased : Leased used slotOf) (idle : slotOf holder = none) (free : ¬used slot)
    (taken : ∀ other, next other ↔ used other ∨ other = slot) :
    Leased next (Function.update slotOf holder (some slot)) := by
  constructor
  · intro other
    rw [taken, leased.used_iff]
    constructor
    · rintro (⟨owner, held⟩ | rfl)
      · have different : owner ≠ holder := by
          rintro rfl
          rw [idle] at held
          contradiction
        exact ⟨owner, by rw [Function.update_of_ne different, held]⟩
      · exact ⟨holder, Function.update_self ..⟩
    · rintro ⟨owner, held⟩
      by_cases same : owner = holder
      · rw [same, Function.update_self] at held
        exact .inr (Option.some.inj held).symm
      · rw [Function.update_of_ne same] at held
        exact .inl ⟨owner, held⟩
  · intro first second other firstHeld secondHeld
    have apart (owner : ι) (different : owner ≠ holder) (held : slotOf owner = some other) : other ≠ slot := by
      rintro rfl
      exact free ((leased.used_iff _).mpr ⟨owner, held⟩)
    by_cases sameFirst : first = holder
    · by_cases sameSecond : second = holder
      · rw [sameFirst, sameSecond]
      · rw [sameFirst, Function.update_self] at firstHeld
        rw [Function.update_of_ne sameSecond] at secondHeld
        exact absurd (Option.some.inj firstHeld).symm (apart second sameSecond secondHeld)
    · rw [Function.update_of_ne sameFirst] at firstHeld
      by_cases sameSecond : second = holder
      · rw [sameSecond, Function.update_self] at secondHeld
        exact absurd (Option.some.inj secondHeld).symm (apart first sameFirst firstHeld)
      · rw [Function.update_of_ne sameSecond] at secondHeld
        exact leased.exclusive first second other firstHeld secondHeld

theorem Leased.release (leased : Leased used slotOf) (held : slotOf holder = some slot)
    (given : ∀ other, next other ↔ used other ∧ other ≠ slot) :
    Leased next (Function.update slotOf holder none) := by
  constructor
  · intro other
    rw [given, leased.used_iff]
    constructor
    · rintro ⟨⟨owner, has⟩, different⟩
      have another : owner ≠ holder := by
        rintro rfl
        rw [held] at has
        exact different (Option.some.inj has).symm
      exact ⟨owner, by rw [Function.update_of_ne another, has]⟩
    · rintro ⟨owner, has⟩
      by_cases same : owner = holder
      · rw [same, Function.update_self] at has
        contradiction
      · rw [Function.update_of_ne same] at has
        refine ⟨⟨owner, has⟩, ?_⟩
        rintro rfl
        exact same (leased.exclusive owner holder other has held)
  · intro first second other firstHeld secondHeld
    have kept (owner : ι) (has : Function.update slotOf holder none owner = some other) :
        slotOf owner = some other := by
      by_cases same : owner = holder
      · rw [same, Function.update_self] at has
        contradiction
      · rwa [Function.update_of_ne same] at has
    exact leased.exclusive first second other (kept first firstHeld) (kept second secondHeld)

end SlotLeases
