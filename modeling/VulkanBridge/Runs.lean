import Mathlib.Tactic.Common

/-!
Runs of a deterministic step function over a list of inputs, and properties of
all the states and all the steps of a run.
-/

namespace Runs

variable {σ ι : Type} (step : σ → ι → σ)

def final (start : σ) (inputs : List ι) : σ := inputs.foldl step start

def EveryState (property : σ → Prop) : σ → List ι → Prop
  | state, [] => property state
  | state, input :: rest => property state ∧ EveryState property (step state input) rest

def EveryStep (condition : σ → ι → Prop) : σ → List ι → Prop
  | _, [] => True
  | state, input :: rest => condition state input ∧ EveryStep condition (step state input) rest

variable {step}

theorem final_append (start : σ) (first second : List ι) :
    final step start (first ++ second) = final step (final step start first) second :=
  List.foldl_append

theorem EveryState.final {property : σ → Prop} : ∀ {inputs : List ι} {start : σ},
    EveryState step property start inputs → property (final step start inputs) := by
  intro inputs
  induction inputs with
  | nil => intro start every; exact every
  | cons input rest ih => intro start every; exact ih every.2

theorem EveryState.append {property : σ → Prop} {second : List ι} : ∀ {first : List ι} {start : σ},
    EveryState step property start first →
      EveryState step property (Runs.final step start first) second →
      EveryState step property start (first ++ second) := by
  intro first
  induction first with
  | nil => intro start _ later; exact later
  | cons input rest ih => intro start every later; exact ⟨every.1, ih every.2 later⟩

theorem EveryState.final_snoc {property : σ → Prop} {inputs : List ι} {input : ι} {start : σ}
    (states : EveryState step property start (inputs ++ [input])) :
    property (step (Runs.final step start inputs) input) := by
  have last := states.final
  rw [final_append] at last
  exact last

/-- When a step keeps the property exactly under a condition, the runs that
keep it throughout are those whose steps all meet the condition. -/
theorem everyState_iff_everyStep {property : σ → Prop} {condition : σ → ι → Prop}
    (exact : ∀ state input, property state → (property (step state input) ↔ condition state input)) :
    ∀ (inputs : List ι) (start : σ), property start →
      (EveryState step property start inputs ↔ EveryStep step condition start inputs) := by
  intro inputs
  induction inputs with
  | nil => intro start holds; exact ⟨fun _ => trivial, fun _ => holds⟩
  | cons input rest ih =>
      intro start holds
      simp only [EveryState, EveryStep, holds, true_and]
      constructor
      · intro every
        have next : property (step start input) := by
          cases rest with
          | nil => exact every
          | cons => exact every.1
        exact ⟨(exact start input holds).mp next, (ih _ next).mp every⟩
      · rintro ⟨meets, every⟩
        have next := (exact start input holds).mpr meets
        exact (ih _ next).mpr every

theorem everyState_of_everyStep {property : σ → Prop} {condition : σ → ι → Prop}
    (keeps : ∀ state input, property state → condition state input → property (step state input)) :
    ∀ (inputs : List ι) (start : σ), property start → EveryStep step condition start inputs →
      EveryState step property start inputs := by
  intro inputs
  induction inputs with
  | nil => intro start holds _; exact holds
  | cons input rest ih =>
      intro start holds every
      exact ⟨holds, ih _ (keeps start input holds every.1) every.2⟩

theorem everyState_of_step {property : σ → Prop}
    (keeps : ∀ state input, property state → property (step state input)) :
    ∀ (inputs : List ι) (start : σ), property start → EveryState step property start inputs := by
  intro inputs
  induction inputs with
  | nil => intro start holds; exact holds
  | cons input rest ih => intro start holds; exact ⟨holds, ih _ (keeps start input holds)⟩

theorem everyStep_of_all {condition : σ → ι → Prop} (every : ∀ state input, condition state input) :
    ∀ (inputs : List ι) (start : σ), EveryStep step condition start inputs := by
  intro inputs
  induction inputs with
  | nil => intro start; exact trivial
  | cons input rest ih => intro start; exact ⟨every start input, ih _⟩

theorem EveryState.imp {property weaker : σ → Prop} (implies : ∀ state, property state → weaker state) :
    ∀ {inputs : List ι} {start : σ}, EveryState step property start inputs →
      EveryState step weaker start inputs := by
  intro inputs
  induction inputs with
  | nil => intro start holds; exact implies start holds
  | cons input rest ih => intro start every; exact ⟨implies start every.1, ih every.2⟩

theorem EveryState.and {first second : σ → Prop} : ∀ {inputs : List ι} {start : σ},
    EveryState step first start inputs → EveryState step second start inputs →
      EveryState step (fun state => first state ∧ second state) start inputs := by
  intro inputs
  induction inputs with
  | nil => intro start one other; exact ⟨one, other⟩
  | cons input rest ih => intro start one other; exact ⟨⟨one.1, other.1⟩, ih one.2 other.2⟩

theorem EveryState.everyStep {property : σ → Prop} {condition result : σ → ι → Prop}
    (gives : ∀ state input, property state → condition state input → result state input) :
    ∀ {inputs : List ι} {start : σ}, EveryState step property start inputs →
      EveryStep step condition start inputs → EveryStep step result start inputs := by
  intro inputs
  induction inputs with
  | nil => intro start _ _; exact trivial
  | cons input rest ih =>
      intro start states every
      exact ⟨gives start input states.1 every.1, ih states.2 every.2⟩

theorem EveryStep.and_next {property : σ → Prop} {condition : σ → ι → Prop} :
    ∀ {inputs : List ι} {start : σ}, EveryStep step condition start inputs →
      EveryState step property start inputs →
      EveryStep step (fun state input => condition state input ∧ property (step state input)) start inputs := by
  intro inputs
  induction inputs with
  | nil => intro start _ _; exact trivial
  | cons input rest ih =>
      intro start every states
      refine ⟨⟨every.1, ?_⟩, ih every.2 states.2⟩
      cases rest with
      | nil => exact states.2
      | cons => exact states.2.1

theorem EveryState.next {property : σ → Prop} : ∀ {inputs : List ι} {start : σ},
    EveryState step property start inputs →
      EveryStep step (fun state input => property (step state input)) start inputs := by
  intro inputs
  induction inputs with
  | nil => intro start _; exact trivial
  | cons input rest ih =>
      intro start states
      refine ⟨?_, ih states.2⟩
      cases rest with
      | nil => exact states.2
      | cons => exact states.2.1

instance EveryStep.decidable {condition : σ → ι → Prop} [decides : ∀ state input, Decidable (condition state input)] :
    ∀ (inputs : List ι) (start : σ), Decidable (EveryStep step condition start inputs)
  | [], _ => .isTrue trivial
  | input :: rest, start =>
      @instDecidableAnd _ _ (decides start input) (EveryStep.decidable rest (step start input))

instance EveryState.decidable {property : σ → Prop} [decides : ∀ state, Decidable (property state)] :
    ∀ (inputs : List ι) (start : σ), Decidable (EveryState step property start inputs)
  | [], start => decides start
  | input :: rest, start =>
      @instDecidableAnd _ _ (decides start) (EveryState.decidable rest (step start input))

end Runs
