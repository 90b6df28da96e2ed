/-
Computations that may fail, whatever they fail with: how a sequence of them succeeds.
-/
import Mathlib.Init

namespace Fallible

variable {ε α β : Type}

/-- A sequence succeeds when both parts do. -/
theorem bind_eq_ok {first : Except ε α} {rest : α → Except ε β} {result : β} :
    first >>= rest = .ok result ↔
      ∃ middle, first = .ok middle ∧ rest middle = .ok result := by
  cases first with
  | ok middle => simp [bind, Except.bind]
  | error error => simp [bind, Except.bind]

theorem pure_eq_ok {value result : α} :
    (pure value : Except ε α) = .ok result ↔ value = result := by
  simp [pure, Except.pure]

end Fallible
