/-
Transactions that read at one moment and write at a later one, with others in
between: a run of them is the serial run of those that were committed, when no
accepted write depends on a reading that is out of date.
-/
import Mathlib.Init

namespace EarlyReads

universe u

variable {C S T R A E : Type u}

/-- What one client does next. -/
inductive Action (C T : Type u) where
  | reads (client : C) (request : T)
  | commits (client : C)
  | givesUp (client : C)

/-- The committed state, what each client has read in its open transaction, and the
transactions that were committed, in order. -/
structure System (C S T R A : Type u) where
  state : S
  reading : C → Option (T × R)
  committed : List (T × A)

/-- A system in which no transaction is open. -/
def System.idle (state : S) : System C S T R A := ⟨state, fun _ => none, []⟩

section Step

variable [DecidableEq C] (read : T → S → R) (write : T → R → S → Except E (A × S))

def System.set (system : System C S T R A) (client : C) (value : Option (T × R)) :
    System C S T R A :=
  { system with
    reading := fun other => if other = client then value else system.reading other }

/-- A transaction whose write is refused leaves the state alone. -/
def step (system : System C S T R A) : Action C T → System C S T R A
  | .reads client request =>
      system.set client (some (request, read request system.state))
  | .commits client =>
      match system.reading client with
      | none => system
      | some (request, found) =>
          match write request found system.state with
          | .error _ => system.set client none
          | .ok (answer, state) =>
              { system.set client none with
                state
                committed := system.committed ++ [(request, answer)] }
  | .givesUp client => system.set client none

def run (system : System C S T R A) (actions : List (Action C T)) : System C S T R A :=
  actions.foldl (step read write) system

/-- Transactions one after the other, each of them at one moment. -/
def serially (state : S) : List T → Except E (List A × S)
  | [] => .ok ([], state)
  | request :: rest => do
      let (answer, state) ← write request (read request state) state
      let (answers, state) ← serially state rest
      return (answer :: answers, state)

variable {read write}

theorem serially_concat {state reached last : S} {requests : List T} {request : T}
    {answers : List A} {answer : A}
    (hbefore : serially read write state requests = .ok (answers, reached))
    (hlast : write request (read request reached) reached = .ok (answer, last)) :
    serially read write state (requests ++ [request]) =
      .ok (answers ++ [answer], last) := by
  induction requests generalizing state answers with
  | nil =>
      cases hbefore
      simp only [List.nil_append, serially, hlast, bind, Except.bind, pure, Except.pure]
  | cons first rest ih =>
      simp only [serially, bind, Except.bind] at hbefore
      cases hfirst : write first (read first state) state with
      | error error =>
          rw [hfirst] at hbefore
          cases hbefore
      | ok next =>
          simp only [hfirst] at hbefore
          cases hrest : serially read write next.2 rest with
          | error error =>
              rw [hrest] at hbefore
              cases hbefore
          | ok found =>
              rw [hrest] at hbefore
              cases hbefore
              simp only [List.cons_append, serially, hfirst, ih hrest, bind, Except.bind, pure,
                Except.pure]

/-- A property of the state and of what was committed, that each of the
transactions keeps, holds after all of them. -/
theorem serially_induction {holds : S → List (T × A) → Prop} {state last : S}
    {requests : List T} {answers : List A}
    (hstep : ∀ {state committed request answer next}, holds state committed →
      write request (read request state) state = .ok (answer, next) →
        holds next (committed ++ [(request, answer)]))
    {before : List (T × A)} (hfirst : holds state before)
    (hserial : serially read write state requests = .ok (answers, last)) :
    holds last (before ++ requests.zip answers) := by
  induction requests generalizing state answers before with
  | nil =>
      cases hserial
      simpa using hfirst
  | cons first rest ih =>
      simp only [serially, bind, Except.bind] at hserial
      cases hwrite : write first (read first state) state with
      | error error =>
          rw [hwrite] at hserial
          cases hserial
      | ok next =>
          simp only [hwrite] at hserial
          cases hrest : serially read write next.2 rest with
          | error error =>
              rw [hrest] at hserial
              cases hserial
          | ok found =>
              rw [hrest] at hserial
              cases hserial
              have hlast := ih (hstep hfirst hwrite) hrest
              rwa [List.append_assoc] at hlast

/-- States grow, and a write that is accepted on an early reading would be accepted,
with the same outcome, on a reading of its own moment. -/
structure Stable (read : T → S → R) (write : T → R → S → Except E (A × S))
    (Later : S → S → Prop) : Prop where
  refl : ∀ state, Later state state
  trans : ∀ {first second third}, Later first second → Later second third →
    Later first third
  grows : ∀ {request early state answer next}, Later early state →
    write request (read request early) state = .ok (answer, next) → Later state next
  current : ∀ {request early state answer next}, Later early state →
    write request (read request early) state = .ok (answer, next) →
      write request (read request state) state = .ok (answer, next)

/-- What is open was read in an earlier state, and what is committed is a serial run. -/
structure Serial (read : T → S → R) (write : T → R → S → Except E (A × S))
    (Later : S → S → Prop) (first : S) (system : System C S T R A) : Prop where
  reading : ∀ {client request found}, system.reading client = some (request, found) →
    ∃ early, Later early system.state ∧ found = read request early
  committed : serially read write first (system.committed.map Prod.fst) =
    .ok (system.committed.map Prod.snd, system.state)

variable {Later : S → S → Prop} {first : S} {system : System C S T R A}

theorem Serial.set_none (h : Serial read write Later first system) (client : C) :
    Serial read write Later first (system.set client none) := by
  constructor
  · intro other request found hother
    simp only [System.set] at hother
    split at hother
    · cases hother
    · exact h.reading hother
  · exact h.committed

theorem Serial.step (hstable : Stable read write Later)
    (h : Serial read write Later first system) (action : Action C T) :
    Serial read write Later first (step read write system action) := by
  cases action with
  | reads client request =>
      constructor
      · intro other wanted found hother
        simp only [EarlyReads.step, System.set] at hother
        split at hother
        · cases hother
          exact ⟨system.state, hstable.refl system.state, rfl⟩
        · exact h.reading hother
      · exact h.committed
  | givesUp client => exact h.set_none client
  | commits client =>
      simp only [EarlyReads.step]
      cases hreading : system.reading client with
      | none => exact h
      | some pending =>
          rcases pending with ⟨request, found⟩
          simp only
          cases hwrite : write request found system.state with
          | error error => exact h.set_none client
          | ok outcome =>
              rcases outcome with ⟨answer, next⟩
              obtain ⟨early, hearly, rfl⟩ := h.reading hreading
              have hgrown := hstable.grows hearly hwrite
              constructor
              · intro other wanted read' hother
                obtain ⟨before, hbefore, hread⟩ := (h.set_none client).reading hother
                exact ⟨before, hstable.trans hbefore hgrown, hread⟩
              · have hserial := serially_concat h.committed (hstable.current hearly hwrite)
                simpa using hserial

/-- A run from an idle system is the serial run of what it has committed. -/
theorem serial_of_run (hstable : Stable read write Later) (first : S)
    (actions : List (Action C T)) :
    Serial read write Later first (run read write (System.idle first) actions) := by
  have hrun : ∀ {system : System C S T R A} (actions : List (Action C T)),
      Serial read write Later first system →
        Serial read write Later first (run read write system actions) := by
    intro system actions h
    induction actions generalizing system with
    | nil => exact h
    | cons action rest ih => exact ih (h.step hstable action)
  apply hrun actions
  constructor
  · intro client request found hnone
    cases hnone
  · rfl

/-- What each of the transactions keeps, one after the other, holds after a run. -/
theorem holds_of_run (hstable : Stable read write Later) {holds : S → List (T × A) → Prop}
    (hstep : ∀ {state committed request answer next}, holds state committed →
      write request (read request state) state = .ok (answer, next) →
        holds next (committed ++ [(request, answer)]))
    {first : S} (hfirst : holds first []) (actions : List (Action C T)) :
    holds (run read write (System.idle first) actions).state
      (run read write (System.idle first) actions).committed := by
  have hserial := (serial_of_run hstable first actions).committed
  have hlast := serially_induction hstep hfirst hserial
  rwa [List.nil_append, ← List.zip_of_prod rfl rfl] at hlast

end Step

end EarlyReads
