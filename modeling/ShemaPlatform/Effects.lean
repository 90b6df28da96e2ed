/-
Computations that change a state and may fail, where what was done before a
failure stays done.  Rules of pre- and postconditions for them.
-/
import Mathlib.Init

namespace Effects

/-- From a state to an outcome and the state that is left. -/
structure Effect (S ε α : Type) where
  run : S → Except ε α × S

namespace Effect

variable {S ε α β : Type}

instance : Monad (Effect S ε) where
  pure value := ⟨fun state => (.ok value, state)⟩
  bind first rest := ⟨fun state =>
    match first.run state with
    | (.ok value, between) => (rest value).run between
    | (.error error, between) => (.error error, between)⟩

/-- A computation that does not touch the state. -/
def lift (computed : Except ε α) : Effect S ε α := ⟨fun state => (computed, state)⟩

def fail (error : ε) : Effect S ε α := lift (.error error)

def read (f : S → α) : Effect S ε α := ⟨fun state => (.ok (f state), state)⟩

def modify (f : S → S) : Effect S ε Unit := ⟨fun state => (.ok (), f state)⟩

/-- `try … finally` -/
def ensuring (body : Effect S ε α) (cleanup : S → S) : Effect S ε α := ⟨fun state =>
  match body.run state with
  | (outcome, after) => (outcome, cleanup after)⟩

/-- From every state as required, what is returned or raised fits the state
that is left. -/
def Meets (before : S → Prop) (effect : Effect S ε α) (returns : α → S → Prop)
    (raises : ε → S → Prop) : Prop :=
  ∀ state, before state →
    match effect.run state with
    | (.ok value, after) => returns value after
    | (.error error, after) => raises error after

variable {before : S → Prop} {returns : α → S → Prop} {raises : ε → S → Prop}

theorem meets_pure {value : α} (h : ∀ state, before state → returns value state) :
    Meets before (pure value : Effect S ε α) returns raises :=
  h

theorem meets_bind {first : Effect S ε β} {rest : β → Effect S ε α}
    (between : β → S → Prop) (hfirst : Meets before first between raises)
    (hrest : ∀ value, Meets (between value) (rest value) returns raises) :
    Meets before (first >>= rest) returns raises := by
  intro state hstate
  have hmiddle := hfirst state hstate
  simp only [bind]
  cases hrun : first.run state with
  | mk outcome after =>
      rw [hrun] at hmiddle
      cases outcome with
      | ok value => exact hrest value after hmiddle
      | error error => exact hmiddle

theorem meets_lift {computed : Except ε α}
    (hok : ∀ value state, computed = .ok value → before state → returns value state)
    (herror : ∀ error state, computed = .error error → before state →
      raises error state) :
    Meets before (lift computed) returns raises := by
  intro state hstate
  cases computed with
  | ok value => exact hok value state rfl hstate
  | error error => exact herror error state rfl hstate

theorem meets_fail {error : ε} (h : ∀ state, before state → raises error state) :
    Meets before (fail error : Effect S ε α) returns raises :=
  h

theorem meets_read {f : S → α} (h : ∀ state, before state → returns (f state) state) :
    Meets before (read f : Effect S ε α) returns raises :=
  h

theorem meets_modify {f : S → S} {returns : Unit → S → Prop}
    (h : ∀ state, before state → returns () (f state)) :
    Meets before (modify f : Effect S ε Unit) returns raises :=
  h

theorem meets_ensuring {body : Effect S ε α} {cleanup : S → S}
    (h : Meets before body (fun value after => returns value (cleanup after))
      (fun error after => raises error (cleanup after))) :
    Meets before (body.ensuring cleanup) returns raises := by
  intro state hstate
  have hbody := h state hstate
  cases hrun : body.run state with
  | mk outcome after =>
      rw [hrun] at hbody
      simp only [ensuring, hrun]
      cases outcome with
      | ok value => exact hbody
      | error error => exact hbody

/-- The rule of consequence. -/
theorem Meets.mono {effect : Effect S ε α} {before' : S → Prop}
    {returns' : α → S → Prop} {raises' : ε → S → Prop}
    (h : Meets before effect returns raises)
    (hbefore : ∀ state, before' state → before state)
    (hreturns : ∀ value after, returns value after → returns' value after)
    (hraises : ∀ error after, raises error after → raises' error after) :
    Meets before' effect returns' raises' := by
  intro state hstate
  have hrun := h state (hbefore state hstate)
  split at hrun
  · exact hreturns _ _ hrun
  · exact hraises _ _ hrun

end Effect

end Effects
