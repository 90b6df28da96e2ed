/-
Sequences of calls to something that answers and changes: what the answers are,
and when two such things answer alike.
-/
import Mathlib.Init

namespace AnswerRun

universe u v w x

variable {S : Type u} {S' : Type v} {A : Type w} {R : Type x}

/-- The state after some calls. -/
def state (answer : S → A → R × S) (start : S) (calls : List A) : S :=
  calls.foldl (fun state call => (answer state call).2) start

def answers (answer : S → A → R × S) : S → List A → List R
  | _, [] => []
  | start, call :: rest =>
      (answer start call).1 :: answers answer (answer start call).2 rest

section One

variable {answer : S → A → R × S} {start : S} {calls later : List A} {call : A}

theorem state_append : state answer start (calls ++ later) =
    state answer (state answer start calls) later :=
  List.foldl_append

/-- What every admitted call keeps holds after any number of them. -/
theorem state_of_step {holds : S → Prop} {admits : A → Prop}
    (hstep : ∀ {state call}, holds state → admits call → holds (answer state call).2)
    (hstart : holds start) (hadmits : ∀ call ∈ calls, admits call) :
    holds (state answer start calls) := by
  induction calls generalizing start with
  | nil => exact hstart
  | cons call rest ih =>
      exact ih (hstep hstart (hadmits call List.mem_cons_self))
        fun other hother => hadmits other (List.mem_cons_of_mem _ hother)

end One

/-- Whatever is related gives the same answer to an admitted call and stays
related. -/
structure Simulates (answer : S → A → R × S) (answer' : S' → A → R × S')
    (related : S → S' → Prop) (admits : A → Prop) : Prop where
  same : ∀ {state state' call}, related state state' → admits call →
    (answer state call).1 = (answer' state' call).1
  kept : ∀ {state state' call}, related state state' → admits call →
    related (answer state call).2 (answer' state' call).2

namespace Simulates

variable {answer : S → A → R × S} {answer' : S' → A → R × S'} {related : S → S' → Prop}
  {admits : A → Prop} (simulates : Simulates answer answer' related admits)
  {start : S} {start' : S'} {calls : List A}

include simulates

theorem related_state (hstart : related start start') (hadmits : ∀ call ∈ calls, admits call) :
    related (state answer start calls) (state answer' start' calls) := by
  induction calls generalizing start start' with
  | nil => exact hstart
  | cons call rest ih =>
      exact ih (simulates.kept hstart (hadmits call List.mem_cons_self))
        fun other hother => hadmits other (List.mem_cons_of_mem _ hother)

theorem answers_eq (hstart : related start start') (hadmits : ∀ call ∈ calls, admits call) :
    answers answer start calls = answers answer' start' calls := by
  induction calls generalizing start start' with
  | nil => rfl
  | cons call rest ih =>
      have hcall := hadmits call List.mem_cons_self
      rw [answers, answers, simulates.same hstart hcall,
        ih (simulates.kept hstart hcall) fun other hother =>
          hadmits other (List.mem_cons_of_mem _ hother)]

end Simulates

end AnswerRun
