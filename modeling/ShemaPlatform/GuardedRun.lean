/-
Runs whose commits all start from a world that meets a condition, and what such
runs keep.
-/
import ShemaPlatform.WorkflowRun

namespace ReadCommitted

variable {E K : Type} {V : K → Type} {ε σ α ι : Type} [DecidableEq K] [DecidableEq ι]

/-- A run in which what is committed is allowed in the world it is committed to. -/
inductive GuardedRun (flow : Workflow E V ε σ α) (allowed : World E V → σ → σ → Prop)
    (first : Sys ι E V ε σ) : List (Event ι V ε σ α) → Sys ι E V ε σ → Prop where
  | start : GuardedRun flow allowed first [] first
  | step {events recorded : List (Event ι V ε σ α)} {sys sys' : Sys ι E V ε σ}
      (hrun : GuardedRun flow allowed first events sys)
      (hstep : Step flow sys recorded sys')
      (hallowed : ∀ client before after own,
        Event.committed client before after own ∈ recorded → allowed sys.world before after) :
      GuardedRun flow allowed first (events ++ recorded) sys'

variable {flow : Workflow E V ε σ α} {allowed : World E V → σ → σ → Prop}
  {first last : Sys ι E V ε σ} {events : List (Event ι V ε σ α)}

theorem GuardedRun.run (hrun : GuardedRun flow allowed first events last) :
    Run flow first events last := by
  induction hrun with
  | start => exact .start
  | step _ hstep _ ih => exact ih.step hstep

/-- A run whose commits are allowed in every world. -/
theorem Run.guarded (hrun : Run flow first events last)
    (hallowed : ∀ client before after own world,
      Event.committed client before after own ∈ events → allowed world before after) :
    GuardedRun flow allowed first events last := by
  induction hrun with
  | start => exact .start
  | step _ hstep ih =>
      apply (ih _).step hstep
      · intro client before after own hmem
        exact hallowed client before after own _ (List.mem_append_right _ hmem)
      · intro client before after own world hmem
        exact hallowed client before after own world (List.mem_append_left _ hmem)

/-- What every allowed commit keeps and no environment matters to, such a run
keeps. -/
theorem Certificate.keeps_of_commits {evolution : Evolution E V}
    (cert : Certificate flow evolution) (holds : Rows V → Prop)
    (hgood : cert.Good first) (hfirst : holds first.world.rows)
    (hcommit : ∀ {world before after own}, cert.knows before world →
      cert.does before after own world → allowed world before after →
      holds world.rows → holds (own ++ world.rows))
    (hrun : GuardedRun flow allowed first events last) : holds last.world.rows := by
  induction hrun with
  | start => exact hfirst
  | @step events recorded sys sys' hbefore hstep hallowed ih =>
      have hsys := hgood.run hbefore.run
      cases hstep with
      | commit client before after own held hphase =>
          have hknows := (hsys.sound client).knows
          rw [hphase] at hknows
          exact hcommit hknows (hsys.commit hphase).1
            (hallowed client before after own (List.mem_singleton_self _)) ih
      | _ => exact ih

/-- The induction rule over such runs. -/
theorem Certificate.guarded_induction {evolution : Evolution E V}
    (cert : Certificate flow evolution)
    (holds : World E V → (ι → σ) → List (Event ι V ε σ α) → Prop)
    (hgood : cert.Good first) (hfirst : holds first.world first.states [])
    (hcommit : ∀ {world state events client after own},
      allowed world (state client) after → cert.does (state client) after own world →
      holds world state events →
      holds (world.commit own) (Function.update state client after)
        (events ++ [.committed client (state client) after own]))
    (hrollback : ∀ {world state events client error}, holds world state events →
      holds world (Function.update state client (flow.recover (state client) error))
        (events ++ [.rolledBack client (state client) error]))
    (hact : ∀ {world state events client action after env},
      flow.outside (state client) world.env action after env → holds world state events →
      holds ⟨env, world.rows⟩ (Function.update state client after)
        (events ++ [.acted client (state client) action after]))
    (hdrift : ∀ {world state events env}, flow.drift world.env env →
      holds world state events → holds ⟨env, world.rows⟩ state events)
    (hrun : GuardedRun flow allowed first events last) :
    holds last.world last.states events := by
  induction hrun with
  | start => exact hfirst
  | @step events recorded sys sys' hbefore hstep hallowed ih =>
      apply (hgood.run hbefore.run).holds_step hstep ih
      · exact fun hmem _ hdoes => hcommit (hallowed _ _ _ _ hmem) hdoes ih
      · exact fun _ => hrollback ih
      · exact fun _ houtside => hact houtside ih
      · exact fun hdrift' => hdrift hdrift' ih

end ReadCommitted
