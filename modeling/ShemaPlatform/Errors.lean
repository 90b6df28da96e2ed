/-
The exceptions the platform raises, as one type.  Each carries the message its
handler may show; database errors stand for whatever the driver raises.
-/
import Mathlib.Init

namespace ShemaPlatform

inductive Failure where
  | valueError (message : String)
  | keyError (message : String)
  | overflowError (message : String)
  | runtimeError (message : String)
  | invalidOperation
  | authorizationError (message : String)
  | policyDenied (message : String)
  | integrityViolation (message : String)
  | idempotencyConflict (message : String)
  | externalEffectUnknown (message : String)
  | quarantineRequired (message : String)
  | rateLimited (message budget : String)
  | securityRejected (message : String)
  | uniqueViolation (constraint : String)
  | checkViolation (constraint : String)
  | foreignKeyViolation (constraint : String)
  | numericOverflow (column : String)
  | connectionLost
deriving DecidableEq, Repr

/-- The errors the database may raise at any statement: a lost connection, or
a deadlock resolved against this transaction. -/
def Failure.infrastructure : Failure → Prop
  | .connectionLost => True
  | _ => False

/-- `if not condition: raise error` -/
def require (condition : Bool) (error : Failure) : Except Failure Unit :=
  if condition then .ok () else .error error

/-- A sequenced computation succeeds when both parts do. -/
theorem bind_eq_ok {α β : Type} {first : Except Failure α}
    {rest : α → Except Failure β} {result : β} :
    first >>= rest = .ok result ↔
      ∃ middle, first = .ok middle ∧ rest middle = .ok result := by
  cases first with
  | ok middle => simp [bind, Except.bind]
  | error error => simp [bind, Except.bind]

/-- It fails when one of them does. -/
theorem bind_eq_error {α β : Type} {first : Except Failure α}
    {rest : α → Except Failure β} {error : Failure} :
    first >>= rest = .error error ↔
      first = .error error ∨ ∃ middle, first = .ok middle ∧ rest middle = .error error := by
  cases first with
  | ok middle => simp [bind, Except.bind]
  | error raised => simp [bind, Except.bind]

@[simp] theorem pure_eq_ok {α : Type} {value result : α} :
    (pure value : Except Failure α) = .ok result ↔ value = result := by
  simp [pure, Except.pure]

@[simp] theorem require_eq_ok {condition : Bool} {error : Failure}
    {result : Unit} : require condition error = .ok result ↔ condition = true := by
  unfold require
  split <;> simp_all

theorem require_eq_error {condition : Bool} {error raised : Failure} :
    require condition error = .error raised ↔ condition = false ∧ error = raised := by
  cases condition with
  | true => simp [require]
  | false => simp [require]

end ShemaPlatform
