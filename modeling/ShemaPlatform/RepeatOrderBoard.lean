/-
The plans and orders of the database as an abstract board.  Every commit of
the service is a step of that board, so whatever holds of its traces holds of
the runs of the service.
-/
import ShemaPlatform.OccurrenceBoard
import ShemaPlatform.RepeatOrderRuns

namespace ShemaPlatform

open Calendar ReadCommitted Recurrence Function

def OrderStatus.stage : OrderStatus → Stage
  | .draft => .opened
  | .confirmed => .closed
  | _ => .foreign

theorem OrderStatus.stage_eq_opened {status : OrderStatus} :
    status.stage = .opened ↔ status = .draft := by
  cases status <;> simp [stage]

theorem OrderStatus.stage_eq_closed {status : OrderStatus} :
    status.stage = .closed ↔ status = .confirmed := by
  cases status <;> simp [stage]

namespace RepeatOrderService

/-- The board the committed rows show. -/
def view (rows : Rows Row) : Board String String DateTime where
  due planId := (rows.get (Key.repeatOrderPlan planId)).map
    RepeatPlanRow.scheduledFor
  pending planId := (rows.get (Key.repeatOrderPlan planId)).bind
    RepeatPlanRow.pendingOrderId
  stage orderId := (rows.get (Key.orderHeader orderId)).map
    fun (header : OrderHeader) => header.status.stage

/-- The plan row an application wrote. -/
def Application.planRow (applied : Application) : Option RepeatPlanRow :=
  applied.own.get (Key.repeatOrderPlan applied.call.operation.planId)

/-- Of the mutations only an edit is logged. -/
def mutationEntry (planId : String) :
    PlanMutation → Option (Entry String String DateTime)
  | .editContext _ => some (.edited planId)
  | _ => none

/-- What an application adds to the log of the board. -/
def Application.entry (applied : Application) :
    Option (Entry String String DateTime) :=
  match applied.call.operation with
  | .createPlan .. => none
  | .createNext planId => applied.planRow.map fun row =>
      .made planId applied.call.service.newOrderId row.scheduledFor
  | .confirm planId orderId => some (.closed planId orderId
      (applied.planRow.any fun row => row.status == .active))
  | .mutate mutation planId => mutationEntry planId mutation

def log (applied : List Application) : List (Entry String String DateTime) :=
  applied.filterMap Application.entry

section View

variable {before after : Rows Row} {planId orderId : String}
  {new : RepeatPlanRow} {header : OrderHeader}

/-- The board after one plan has changed. -/
theorem view_plan
    (hplan : after.get (Key.repeatOrderPlan planId) = some new)
    (hplans : ∀ other, other ≠ planId →
      after.get (Key.repeatOrderPlan other) =
        before.get (Key.repeatOrderPlan other)) :
    view after =
      ⟨update (view before).due planId (some new.scheduledFor),
        update (view before).pending planId new.pendingOrderId,
        (view after).stage⟩ := by
  refine Board.ext ?_ ?_ rfl
  · funext other
    by_cases hother : other = planId
    · subst hother
      simp [view, hplan]
    · simp [view, hother, hplans other hother]
  · funext other
    by_cases hother : other = planId
    · subst hother
      simp [view, hplan]
    · simp [view, hother, hplans other hother]

theorem stage_kept (hheaders : ∀ other, after.get (Key.orderHeader other) =
      before.get (Key.orderHeader other)) :
    (view after).stage = (view before).stage := by
  funext other
  simp [view, hheaders other]

theorem stage_order
    (hheader : after.get (Key.orderHeader orderId) = some header)
    (hheaders : ∀ other, other ≠ orderId →
      after.get (Key.orderHeader other) = before.get (Key.orderHeader other)) :
    (view after).stage =
      update (view before).stage orderId (some header.status.stage) := by
  funext other
  by_cases hother : other = orderId
  · subst hother
    simp [view, hheader]
  · simp [view, hother, hheaders other hother]

end View

section Refinement

variable {planId : String} {plan changed : RepeatOrderPlan}
  {row new : RepeatPlanRow} {own rows after : Rows Row}

theorem PlanSaved.own_get
    (h : PlanSaved planId plan changed row new rows (own ++ rows)) :
    own.get (Key.repeatOrderPlan planId) = some new := by
  by_cases hkey : Key.repeatOrderPlan planId ∈ own.keys
  · rw [← Rows.get_append_of_mem hkey rows]
    exact h.after
  · -- a row that was not written still has its revision
    have hsame := h.after
    rw [Rows.get_append_of_not_mem hkey, h.before] at hsame
    obtain rfl := Option.some.inj hsame
    have hrevision := h.revision
    omega

theorem PlanSaved.planRow {call : RepeatCall} {answer : RepeatAnswer}
    (h : PlanSaved planId plan changed row new rows (own ++ rows))
    (hplan : call.operation.planId = planId) :
    Application.planRow ⟨call, answer, own⟩ = some new := by
  subst hplan
  exact h.own_get

/-- The columns of the board before and after a save. -/
theorem PlanSaved.columns (h : PlanSaved planId plan changed row new rows after) :
    (view rows).due planId = some plan.context.scheduledFor ∧
      (view rows).pending planId = plan.pendingOrderId ∧
      new.scheduledFor = changed.context.scheduledFor ∧
      new.pendingOrderId = changed.pendingOrderId ∧
      new.status = changed.status := by
  have hold := (RepeatOrders.shows_of_toPlan h.shown).2
  have hnew := RepeatOrders.shows_of_updated h.changed
  refine ⟨?_, ?_, hnew.scheduledFor.symm, hnew.pendingOrderId.symm,
    hnew.status.symm⟩
  · simp [view, h.before, hold.scheduledFor]
  · simp [view, h.before, hold.pendingOrderId]

/-- A mutation that leaves the due moment and the open order of its plan alone
does not show on the board. -/
theorem view_unmoved (h : PlanSaved planId plan changed row new rows after)
    (hview : view after =
      ⟨update (view rows).due planId (some new.scheduledFor),
        update (view rows).pending planId new.pendingOrderId,
        (view rows).stage⟩)
    (hdue : changed.context.scheduledFor = plan.context.scheduledFor)
    (hpending : changed.pendingOrderId = plan.pendingOrderId) :
    view after = view rows := by
  obtain ⟨hdue', hpending', hnew, hnew', _⟩ := h.columns
  rw [hview, hnew, hnew', hdue, hpending, ← hdue', ← hpending',
    update_eq_self, update_eq_self]

/-- A mutation of a plan on the board. -/
theorem mutation_step {mutation : PlanMutation}
    (hchanged : mutation.transition plan = .ok changed)
    (hsaved : PlanSaved planId plan changed row new rows after)
    (hplans : ∀ other, other ≠ planId →
      after.get (Key.repeatOrderPlan other) =
        rows.get (Key.repeatOrderPlan other))
    (hheaders : ∀ orderId, after.get (Key.orderHeader orderId) =
      rows.get (Key.orderHeader orderId)) :
    Recurrence.Step (view rows) (mutationEntry planId mutation) (view after) := by
  obtain ⟨hdue, hpending, hnew, hnew', _⟩ := hsaved.columns
  have hview := view_plan hsaved.after hplans
  rw [stage_kept hheaders] at hview
  cases mutation with
  | pause =>
      obtain ⟨_, rfl⟩ := RepeatOrderPlan.pause_eq_ok.mp hchanged
      rw [view_unmoved hsaved hview rfl rfl]
      exact .stay
  | resume =>
      obtain ⟨_, rfl⟩ := RepeatOrderPlan.resume_eq_ok.mp hchanged
      rw [view_unmoved hsaved hview rfl rfl]
      exact .stay
  | cancel =>
      obtain ⟨_, rfl⟩ := RepeatOrderPlan.cancel_eq_ok.mp hchanged
      rw [view_unmoved hsaved hview rfl rfl]
      exact .stay
  | skipOnce =>
      obtain ⟨_, hfree, scheduledFor, hnext, rfl⟩ :=
        RepeatOrderPlan.skipOnce_eq_ok.mp hchanged
      rw [hview, hnew, hnew', RepeatOrderPlan.reschedule_pendingOrderId,
        ← hpending, update_eq_self]
      exact .move hdue (hpending.trans hfree)
        (RepeatCadence.lt_nextAfter hnext)
  | editContext context =>
      obtain ⟨_, hfree, rfl⟩ := RepeatOrderPlan.editContext_eq_ok.mp hchanged
      rw [hview, hnew, hnew', ← hpending, update_eq_self]
      exact .edit hdue (hpending.trans hfree)

variable {uuid5 : String → String} {evolution : Evolution Instant Row}
  {call : RepeatCall} {answer : RepeatAnswer} {world : World Instant Row}

/-- Every commit that writes is a step of the board, and logs what the board
logs. -/
theorem Effect.board_step (h : Effect uuid5 evolution call answer own world)
    (hown : own ≠ []) :
    Recurrence.Step (view world.rows) (Application.entry ⟨call, answer, own⟩)
      (view (own ++ world.rows)) := by
  cases h with
  | planReplayed hkind hreplayed => exact absurd rfl hown
  | orderReplayed hkind hreplayed => exact absurd rfl hown
  | @planCreated planId _ _ _ plan row own world hcall happlied hfresh _ _
      hpending hrow hafter =>
      have hshows := RepeatOrders.shows_of_ofPlan hrow
      have hplans : ∀ other, other ≠ planId →
          Rows.get (own ++ world.rows) (Key.repeatOrderPlan other) =
            world.rows.get (Key.repeatOrderPlan other) :=
        fun other hother => happlied.get_untouched (by simp) (by simp [hother])
      have hheaders : ∀ orderId,
          Rows.get (own ++ world.rows) (Key.orderHeader orderId) =
            world.rows.get (Key.orderHeader orderId) :=
        fun orderId => happlied.get_untouched (by simp) (by simp)
      have hfree : (view world.rows).pending planId = none := by
        simp [view, hfresh]
      rw [view_plan hafter hplans, stage_kept hheaders, ← hshows.pendingOrderId,
        hpending, ← hfree, update_eq_self, Application.entry, hcall]
      exact .begin (by simp [view, hfresh]) hfree
  | @orderCreated planId plan changed row new _ _ order _ own world hcall
      happlied _ _ _ _ horder hfresh hheader hchanged hsaved =>
      have hplans : ∀ other, other ≠ planId →
          Rows.get (own ++ world.rows) (Key.repeatOrderPlan other) =
            world.rows.get (Key.repeatOrderPlan other) :=
        fun other hother => happlied.get_untouched (by simp)
          (by simp [hother, Orders.ofOrder])
      have hheaders : ∀ other, other ≠ call.service.newOrderId →
          Rows.get (own ++ world.rows) (Key.orderHeader other) =
            world.rows.get (Key.orderHeader other) :=
        fun other hother => happlied.get_untouched (by simp)
          (by simp [hother, Orders.ofOrder])
      obtain ⟨hdue, hpending, hnew, hnew', _⟩ := hsaved.columns
      obtain ⟨_, _, hfree, rfl⟩ :=
        RepeatOrderPlan.attachPendingOrder_eq_ok.mp hchanged
      have hentry : Application.entry ⟨call, .order order, own⟩ =
          some (.made planId call.service.newOrderId plan.context.scheduledFor) := by
        simp [Application.entry, hcall, hnew,
          hsaved.planRow (by rw [hcall, RepeatOperation.planId])]
      rw [view_plan hsaved.after hplans, stage_order hheader hheaders, hnew, hnew',
        ← hdue, update_eq_self, hentry, horder]
      exact .make hdue (hpending.trans hfree) (by simp [view, hfresh])
  | @orderConfirmed planId orderId plan changed row new _ _ order _ _ _ own world
      hcall happlied _ _ _ _ _ _ _ _ _ hheader _ _ _ _ _ hchanged hsaved =>
      have hplans : ∀ other, other ≠ planId →
          Rows.get (own ++ world.rows) (Key.repeatOrderPlan other) =
            world.rows.get (Key.repeatOrderPlan other) :=
        fun other hother => happlied.get_untouched (by simp)
          (by simp [hother, Orders.ofOrder])
      have hheaders : ∀ other, other ≠ orderId →
          Rows.get (own ++ world.rows) (Key.orderHeader other) =
            world.rows.get (Key.orderHeader other) :=
        fun other hother => happlied.get_untouched (by simp)
          (by simp [hother, Orders.ofOrder])
      obtain ⟨hdue, hpending, hnew, hnew', hstatus⟩ := hsaved.columns
      obtain ⟨hopen, scheduledFor, hnext, rfl⟩ :=
        RepeatOrderPlan.markOrderConfirmed_eq_ok.mp hchanged
      have hentry : Application.entry
            ⟨call, .order { order with status := .confirmed }, own⟩ =
          some (.closed planId orderId (plan.status == .active)) := by
        simp [Application.entry, hcall, hstatus,
          hsaved.planRow (by rw [hcall, RepeatOperation.planId])]
      rw [view_plan hsaved.after hplans, stage_order hheader hheaders, hnew, hnew',
        hentry]
      refine .close hdue (hpending.trans hopen) ?_
      unfold RepeatOrderPlan.confirmedSchedule at hnext
      by_cases hactive : plan.status = .active
      · rw [if_pos hactive] at hnext
        simpa [hactive] using RepeatCadence.lt_nextAfter hnext
      · rw [if_neg hactive] at hnext
        simpa [hactive] using (Except.ok.inj hnext).symm
  | @planMutated mutation planId _ changed saved row new own world hcall happlied
      _ hchanged hsaved _ =>
      rw [Application.entry, hcall]
      exact mutation_step hchanged hsaved
        (fun other hother => happlied.get_untouched (by simp) (by simp [hother]))
        fun orderId => happlied.get_untouched (by simp) (by simp)

end Refinement

section Runs

variable {ι : Type} [DecidableEq ι] {uuid5 : String → String}
  {calls : ι → RepeatCall} {world : World Instant Row}
  {last : Sys ι Instant Row Failure (Session RepeatCall Failure RepeatAnswer)}
  {events : List (RunEvent ι)}

/-- Every run of the service is a trace of the board. -/
theorem run_trace
    (hrun : Run (flow uuid5) (Sys.ofCalls world calls) events last) :
    Trace (view world.rows) (log (history events)) (view last.world.rows) := by
  refine history_induction (rule uuid5)
    (fun now applied => Trace (view world.rows) (log applied) (view now.rows))
    (fun _ => trivial) trivial .start ?_ (fun htrace => htrace) hrun
  intro now applied call answer own _ _ heffect hown htrace
  have hstep := htrace.step (heffect.board_step hown)
  rwa [log, List.filterMap_append, List.filterMap_cons, List.filterMap_nil,
    ← log]

end Runs

end RepeatOrderService

end ShemaPlatform
