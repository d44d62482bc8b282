import Mathlib.Data.List.Forall2
import Mathlib.Tactic.Common

/-!
Sequences of fallible steps: when a chain of `Except` computations succeeds.
-/

namespace CheckedLoops

variable {ε α β : Type}

theorem bind_eq_ok {first : Except ε α} {next : α → Except ε β} {result : β} :
    (first >>= next) = .ok result ↔ ∃ value, first = .ok value ∧ next value = .ok result := by
  cases first with
  | error code =>
      constructor
      · intro impossible
        cases impossible
      · rintro ⟨value, impossible, _⟩
        cases impossible
  | ok value =>
      constructor
      · intro done
        exact ⟨value, rfl, done⟩
      · rintro ⟨other, same, done⟩
        cases same
        exact done

theorem map_eq_ok {first : Except ε α} {function : α → β} {result : β} :
    first.map function = .ok result ↔ ∃ value, first = .ok value ∧ function value = result := by
  cases first with
  | error code =>
      constructor
      · intro impossible
        cases impossible
      · rintro ⟨value, impossible, _⟩
        cases impossible
  | ok value =>
      constructor
      · intro done
        exact ⟨value, rfl, Except.ok.inj done⟩
      · rintro ⟨other, same, done⟩
        cases same
        exact congrArg Except.ok done

@[simp] theorem pure_eq_ok {value result : α} :
    (pure value : Except ε α) = .ok result ↔ value = result :=
  Except.ok.injEq value result ▸ Iff.rfl

theorem unit_bind_eq_ok {step : Except ε PUnit} {next : PUnit → Except ε β} {result : β} :
    (step >>= next) = .ok result ↔ step = .ok () ∧ next () = .ok result := by
  rw [bind_eq_ok]
  constructor
  · rintro ⟨_, first, rest⟩
    exact ⟨first, rest⟩
  · rintro ⟨first, rest⟩
    exact ⟨(), first, rest⟩

theorem guarded_eq_ok {condition : Prop} [Decidable condition] {step : Except ε PUnit}
    {next : PUnit → Except ε β} {result : β} :
    (if condition then step >>= next else next ()) = .ok result ↔
      (condition → step = .ok ()) ∧ next () = .ok result := by
  by_cases holds : condition
  · simp only [holds, ↓reduceIte, unit_bind_eq_ok, forall_const]
  · simp [holds]

theorem refused_eq_ok {condition : Prop} [Decidable condition] {code : ε} {step : Except ε β} {result : β} :
    (if condition then .error code else step) = .ok result ↔ ¬condition ∧ step = .ok result := by
  by_cases holds : condition
  · simp [holds]
  · simp [holds]

theorem accepted_eq_ok {condition : Prop} [Decidable condition] {code : ε} {step : Except ε β} {result : β} :
    (if condition then step else .error code) = .ok result ↔ condition ∧ step = .ok result := by
  by_cases holds : condition
  · simp [holds]
  · simp [holds]

theorem when_eq_ok {condition : Prop} [Decidable condition] {step : Except ε PUnit} {result : PUnit} :
    (if condition then step else pure ()) = .ok result ↔ condition → step = .ok () := by
  by_cases holds : condition
  · simp [holds]
  · simp [holds]

theorem forM_eq_ok {items : List α} {check : α → Except ε PUnit} {result : PUnit} :
    forM items check = .ok result ↔ ∀ item ∈ items, check item = .ok () := by
  induction items with
  | nil => simp
  | cons item rest ih => rw [List.forM_cons, unit_bind_eq_ok, ih, List.forall_mem_cons]

theorem mapM_eq_ok {items : List α} {step : α → Except ε β} {function : α → β}
    (succeeds : ∀ item ∈ items, step item = .ok (function item)) :
    items.mapM step = .ok (items.map function) := by
  induction items with
  | nil => rfl
  | cons item rest ih =>
      obtain ⟨first, others⟩ := List.forall_mem_cons.mp succeeds
      rw [List.mapM_cons, first, ih others]
      rfl

theorem ok_bind (value : α) (next : α → Except ε β) : (Except.ok value >>= next) = next value := rfl

theorem mapM_ok_iff {items : List α} {step : α → Except ε β} :
    (∃ values, items.mapM step = .ok values) ↔ ∀ item ∈ items, ∃ value, step item = .ok value := by
  induction items with
  | nil => simp [pure, Except.pure]
  | cons item rest ih =>
      rw [List.forall_mem_cons, ← ih]
      constructor
      · rintro ⟨values, done⟩
        rw [List.mapM_cons] at done
        obtain ⟨value, first, later⟩ := bind_eq_ok.mp done
        obtain ⟨others, done, -⟩ := bind_eq_ok.mp later
        exact ⟨⟨value, first⟩, others, done⟩
      · rintro ⟨⟨value, first⟩, others, done⟩
        exact ⟨value :: others, by rw [List.mapM_cons, first, done]; rfl⟩

theorem mem_of_mapM_ok {step : α → Except ε β} {value : β} : ∀ {items : List α} {values : List β},
    items.mapM step = .ok values → value ∈ values → ∃ item ∈ items, step item = .ok value := by
  intro items
  induction items with
  | nil =>
      intro values done member
      obtain rfl := pure_eq_ok.mp done
      cases member
  | cons item rest ih =>
      intro values done member
      rw [List.mapM_cons] at done
      obtain ⟨first, head, later⟩ := bind_eq_ok.mp done
      obtain ⟨others, tail, same⟩ := bind_eq_ok.mp later
      obtain rfl := pure_eq_ok.mp same
      rcases List.mem_cons.mp member with rfl | member
      · exact ⟨item, List.mem_cons_self, head⟩
      · obtain ⟨other, listed, found⟩ := ih tail member
        exact ⟨other, List.mem_cons_of_mem _ listed, found⟩

theorem mapM_forall₂ {step : α → Except ε β} : ∀ {items : List α} {values : List β},
    items.mapM step = .ok values ↔ List.Forall₂ (fun item value => step item = .ok value) items values := by
  intro items
  induction items with
  | nil =>
      intro values
      rw [List.forall₂_nil_left_iff]
      exact pure_eq_ok.trans eq_comm
  | cons item rest ih =>
      intro values
      rw [List.mapM_cons]
      constructor
      · intro done
        obtain ⟨value, first, later⟩ := bind_eq_ok.mp done
        obtain ⟨others, tail, same⟩ := bind_eq_ok.mp later
        obtain rfl := pure_eq_ok.mp same
        exact .cons first (ih.mp tail)
      · intro each
        cases each with
        | cons first others =>
            rw [first, ih.mpr others]
            rfl

end CheckedLoops
