/-
Runs of a deterministic system: conditions met whenever a step is taken, and
properties that hold in every state on the way.
-/
import Mathlib.Init

namespace StateRun

universe u v

variable {S : Type u} {A : Type v} (step : S → A → S)

/-- Every action meets the condition in the state in which it is taken. -/
def Along (condition : S → A → Prop) : S → List A → Prop
  | _, [] => True
  | state, action :: rest =>
      condition state action ∧ Along condition (step state action) rest

instance Along.decidable {condition : S → A → Prop}
    [∀ state action, Decidable (condition state action)] :
    (state : S) → (actions : List A) → Decidable (Along step condition state actions)
  | _, [] => inferInstanceAs (Decidable True)
  | state, action :: rest =>
      have : Decidable (Along step condition (step state action) rest) :=
        Along.decidable (step state action) rest
      inferInstanceAs (Decidable
        (condition state action ∧ Along step condition (step state action) rest))

/-- Every state of the run, first and last included, has the property. -/
def Throughout (holds : S → Prop) : S → List A → Prop
  | state, [] => holds state
  | state, action :: rest =>
      holds state ∧ Throughout holds (step state action) rest

variable {step} {condition admits : S → A → Prop} {holds inv : S → Prop}

theorem Throughout.first {state : S} {actions : List A}
    (h : Throughout step holds state actions) : holds state := by
  cases actions with
  | nil => exact h
  | cons action rest => exact h.1

theorem Throughout.last {state : S} {actions : List A}
    (h : Throughout step holds state actions) : holds (actions.foldl step state) := by
  induction actions generalizing state with
  | nil => exact h
  | cons action rest ih => exact ih h.2

theorem Throughout.mono {holds' : S → Prop} {state : S} {actions : List A}
    (h : Throughout step holds state actions) (himp : ∀ state, holds state → holds' state) :
    Throughout step holds' state actions := by
  induction actions generalizing state with
  | nil => exact himp state h
  | cons action rest ih => exact ⟨himp state h.1, ih h.2⟩

theorem along_append {state : S} {actions more : List A} :
    Along step condition state (actions ++ more) ↔ Along step condition state actions ∧
      Along step condition (actions.foldl step state) more := by
  induction actions generalizing state with
  | nil => simp [Along]
  | cons action rest ih =>
      rw [List.cons_append, Along, Along, ih, and_assoc, List.foldl_cons]

/-- A condition on the actions alone. -/
theorem along_of_forall {p : A → Prop} {state : S} {actions : List A}
    (h : ∀ action ∈ actions, p action) : Along step (fun _ => p) state actions := by
  induction actions generalizing state with
  | nil => trivial
  | cons action rest ih =>
      exact ⟨h action List.mem_cons_self, ih fun other hmem =>
        h other (List.mem_cons_of_mem _ hmem)⟩

theorem Along.and {state : S} {actions : List A}
    (hcondition : Along step condition state actions)
    (hadmits : Along step admits state actions) :
    Along step (fun state action => condition state action ∧ admits state action) state
      actions := by
  induction actions generalizing state with
  | nil => trivial
  | cons action rest ih =>
      exact ⟨⟨hcondition.1, hadmits.1⟩, ih hcondition.2 hadmits.2⟩

/-- An invariant of the admitted steps holds throughout. -/
theorem throughout_of_step
    (hstep : ∀ {state action}, holds state → admits state action →
      holds (step state action))
    {state : S} {actions : List A} (hfirst : holds state)
    (hadmits : Along step admits state actions) :
    Throughout step holds state actions := by
  induction actions generalizing state with
  | nil => exact hfirst
  | cons action rest ih =>
      exact ⟨hfirst, ih (hstep hfirst hadmits.1) hadmits.2⟩

/-- Where a step keeps a property exactly under a condition, a run keeps it
exactly when all its steps meet the condition. -/
theorem throughout_iff_along
    (hinv : ∀ {state action}, inv state → admits state action →
      inv (step state action))
    (hstep : ∀ {state action}, inv state → holds state → admits state action →
      (holds (step state action) ↔ condition state action))
    {state : S} {actions : List A} (hstart : inv state) (hfirst : holds state)
    (hadmits : Along step admits state actions) :
    Throughout step holds state actions ↔ Along step condition state actions := by
  induction actions generalizing state with
  | nil =>
      constructor
      · intro _
        trivial
      · intro _
        exact hfirst
  | cons action rest ih =>
      have hkept := hstep hstart hfirst hadmits.1
      constructor
      · rintro ⟨_, hrest⟩
        have hnext := hrest.first
        exact ⟨hkept.mp hnext, (ih (hinv hstart hadmits.1) hnext hadmits.2).mp hrest⟩
      · rintro ⟨hcondition, hrest⟩
        have hnext := hkept.mpr hcondition
        exact ⟨hfirst, (ih (hinv hstart hadmits.1) hnext hadmits.2).mpr hrest⟩

/-- Either every step meets the condition, or the run ends in what a step
against it leads to and no step leads out of. -/
theorem along_or_broken {broken : S → Prop}
    (hinv : ∀ {state action}, inv state → inv (step state action))
    (hbreak : ∀ {state action}, inv state → ¬ condition state action →
      broken (step state action))
    (hkeep : ∀ {state action}, inv state → broken state → broken (step state action))
    {state : S} (hstart : inv state) (actions : List A) :
    Along step condition state actions ∨ broken (actions.foldl step state) := by
  have hlast : ∀ {state : S} (actions : List A), inv state → broken state →
      broken (actions.foldl step state) := by
    intro state actions hstate hbroken
    induction actions generalizing state with
    | nil => exact hbroken
    | cons action rest ih => exact ih (hinv hstate) (hkeep hstate hbroken)
  induction actions generalizing state with
  | nil => exact Or.inl trivial
  | cons action rest ih =>
      by_cases hcondition : condition state action
      · rcases ih (hinv hstart) with hrest | hrest
        · exact Or.inl ⟨hcondition, hrest⟩
        · exact Or.inr hrest
      · exact Or.inr (hlast rest (hinv hstart) (hbreak hstart hcondition))

end StateRun
