/-
The recurrence plan behind repeat orders: its cadence, its editable context and
the transitions an operator may apply to it.
-/
import ShemaPlatform.Order

namespace ShemaPlatform

open Calendar

inductive RepeatPlanStatus where
  | active | paused | cancelled
deriving DecidableEq, Repr

def RepeatPlanStatus.value : RepeatPlanStatus → String
  | .active => "active"
  | .paused => "paused"
  | .cancelled => "cancelled"

inductive RepeatCadenceUnit where
  | day | week | month
deriving DecidableEq, Repr

def RepeatCadenceUnit.value : RepeatCadenceUnit → String
  | .day => "day"
  | .week => "week"
  | .month => "month"

/-- A cadence; the constructor refuses an interval below one. -/
structure RepeatCadence where
  unit : RepeatCadenceUnit
  interval : Nat
  interval_valid : 1 ≤ interval
deriving DecidableEq

namespace RepeatCadence

def new (unit : RepeatCadenceUnit) (interval : Nat) :
    Except Failure RepeatCadence :=
  if h : 1 ≤ interval then .ok ⟨unit, interval, h⟩
  else .error (.valueError "repeat cadence interval must be >= 1")

/-- The date the cadence leads to, before the year is checked. -/
def advance (cadence : RepeatCadence) (date : Date) : Date :=
  match cadence.unit with
  | .day => date.plusDays cadence.interval
  | .week => date.plusDays (7 * cadence.interval)
  | .month => date.plusMonths cadence.interval

/-- Days go through `timedelta`, months through `replace(year=…)`. -/
def outOfRange (cadence : RepeatCadence) (date : Date) : Failure :=
  match cadence.unit with
  | .day | .week => .overflowError "date value out of range"
  | .month => .valueError s!"year {date.year} is out of range"

def nextAfter (cadence : RepeatCadence) (value : DateTime) :
    Except Failure DateTime := do
  require value.zoned
    (.valueError "repeat schedule timestamps must be timezone-aware")
  let date := cadence.advance value.date
  require (decide (date.year ≤ 9999)) (cadence.outOfRange date)
  return value.atDate date

theorem before_advance (cadence : RepeatCadence) (date : Date) :
    date.before (cadence.advance date) := by
  have hinterval := cadence.interval_valid
  unfold advance
  cases cadence.unit with
  | day => exact date.before_plusDays hinterval
  | week => exact date.before_plusDays (by omega)
  | month => exact date.before_plusMonths hinterval

/-- An advance is strictly later. -/
theorem lt_nextAfter {cadence : RepeatCadence} {value next : DateTime}
    (h : cadence.nextAfter value = .ok next) : value < next := by
  simp only [nextAfter, bind, Except.bind, pure, Except.pure] at h
  split at h
  · simp at h
  · split at h
    · simp at h
    · obtain rfl := Except.ok.inj h
      exact DateTime.before_atDate (cadence.before_advance value.date)

end RepeatCadence

structure RepeatOrderContext where
  scheduledFor : DateTime
  serviceScope : String
  capacityUnits : Decimal
deriving DecidableEq

/-- What `RepeatOrderContext.__post_init__` accepts. -/
def RepeatOrderContext.new (context : RepeatOrderContext) :
    Except Failure RepeatOrderContext := do
  require context.scheduledFor.zoned
    (.valueError "scheduled_for must be timezone-aware")
  require (!PyText.blank context.serviceScope)
    (.valueError "service_scope is required")
  require (!(← context.capacityUnits.nonPositive))
    (.valueError "capacity_units must be positive")
  return context

theorem RepeatOrderContext.new_eq_ok {context result : RepeatOrderContext}
    (h : context.new = .ok result) : result = context := by
  simp only [new, bind_eq_ok, require_eq_ok, pure_eq_ok] at h
  obtain ⟨_, _, _, _, _, _, _, _, rfl⟩ := h
  rfl

structure RepeatOrderPlan where
  planId : String
  sourceOrderId : String
  identityId : String
  cadence : RepeatCadence
  context : RepeatOrderContext
  ownerActorId : Option String
  status : RepeatPlanStatus
  lastOrderId : Option String
  pendingOrderId : Option String
  skippedOccurrences : Nat
  revision : Nat
deriving DecidableEq

namespace RepeatOrderPlan

/-- What `RepeatOrderPlan.__post_init__` accepts. -/
def new (plan : RepeatOrderPlan) : Except Failure RepeatOrderPlan := do
  require (!PyText.blank plan.planId) (.valueError "plan_id is required")
  require (!PyText.blank plan.sourceOrderId)
    (.valueError "source_order_id is required")
  require (!PyText.blank plan.identityId) (.valueError "identity_id is required")
  require (decide (1 ≤ plan.revision))
    (.valueError "repeat plan revision must be >= 1")
  return plan

theorem new_eq_ok {plan result : RepeatOrderPlan} (h : plan.new = .ok result) :
    result = plan := by
  simp only [new, bind_eq_ok, require_eq_ok, pure_eq_ok] at h
  obtain ⟨_, _, _, _, _, _, _, _, rfl⟩ := h
  rfl

/-- `replace(self, context=replace(self.context, scheduled_for=…))` -/
def reschedule (plan : RepeatOrderPlan) (scheduledFor : DateTime) :
    RepeatOrderPlan :=
  { plan with context := { plan.context with scheduledFor } }

@[simp] theorem reschedule_planId (plan : RepeatOrderPlan)
    (scheduledFor : DateTime) :
    (plan.reschedule scheduledFor).planId = plan.planId := rfl

@[simp] theorem reschedule_status (plan : RepeatOrderPlan)
    (scheduledFor : DateTime) :
    (plan.reschedule scheduledFor).status = plan.status := rfl

@[simp] theorem reschedule_pendingOrderId (plan : RepeatOrderPlan)
    (scheduledFor : DateTime) :
    (plan.reschedule scheduledFor).pendingOrderId = plan.pendingOrderId := rfl

@[simp] theorem reschedule_scheduledFor (plan : RepeatOrderPlan)
    (scheduledFor : DateTime) :
    (plan.reschedule scheduledFor).context.scheduledFor = scheduledFor := rfl

def pause (plan : RepeatOrderPlan) : Except Failure RepeatOrderPlan := do
  require (plan.status == .active)
    (.valueError "only active repeat plan can be paused")
  return { plan with status := .paused }

def resume (plan : RepeatOrderPlan) : Except Failure RepeatOrderPlan := do
  require (plan.status == .paused)
    (.valueError "only paused repeat plan can be resumed")
  return { plan with status := .active }

def skipOnce (plan : RepeatOrderPlan) : Except Failure RepeatOrderPlan := do
  require (plan.status == .active)
    (.valueError "only active repeat plan can skip an occurrence")
  require plan.pendingOrderId.isNone
    (.valueError "cannot skip while a repeat order is pending")
  let scheduledFor ← plan.cadence.nextAfter plan.context.scheduledFor
  return { plan.reschedule scheduledFor with
    skippedOccurrences := plan.skippedOccurrences + 1 }

def cancel (plan : RepeatOrderPlan) : Except Failure RepeatOrderPlan := do
  require (plan.status != .cancelled)
    (.valueError "repeat plan is already cancelled")
  return { plan with status := .cancelled }

def editContext (context : RepeatOrderContext) (plan : RepeatOrderPlan) :
    Except Failure RepeatOrderPlan := do
  require (plan.status != .cancelled)
    (.valueError "cancelled repeat plan cannot be edited")
  require plan.pendingOrderId.isNone
    (.valueError "cannot edit repeat context while an order is pending")
  return { plan with context }

def attachPendingOrder (plan : RepeatOrderPlan) (orderId : String) :
    Except Failure RepeatOrderPlan := do
  require (!PyText.blank orderId) (.valueError "pending order id is required")
  require (plan.status != .cancelled)
    (.valueError "cancelled repeat plan cannot create a pending order")
  require plan.pendingOrderId.isNone
    (.valueError "repeat plan already has a pending order")
  return { plan with pendingOrderId := some orderId }

/-- The schedule after a confirmation: only an active plan moves on. -/
def confirmedSchedule (plan : RepeatOrderPlan) : Except Failure DateTime :=
  if plan.status = .active then plan.cadence.nextAfter plan.context.scheduledFor
  else .ok plan.context.scheduledFor

def markOrderConfirmed (plan : RepeatOrderPlan) (orderId : String) :
    Except Failure RepeatOrderPlan := do
  require (plan.pendingOrderId == some orderId)
    (.valueError "confirmed order does not match the pending repeat order")
  let scheduledFor ← plan.confirmedSchedule
  return { plan.reschedule scheduledFor with
    lastOrderId := some orderId, pendingOrderId := none }

section Transitions

variable {plan result : RepeatOrderPlan}

theorem pause_eq_ok : plan.pause = .ok result ↔
    plan.status = .active ∧ { plan with status := .paused } = result := by
  simp only [pause, bind_eq_ok, require_eq_ok, pure_eq_ok, exists_const,
    beq_iff_eq]

theorem resume_eq_ok : plan.resume = .ok result ↔
    plan.status = .paused ∧ { plan with status := .active } = result := by
  simp only [resume, bind_eq_ok, require_eq_ok, pure_eq_ok, exists_const,
    beq_iff_eq]

theorem skipOnce_eq_ok : plan.skipOnce = .ok result ↔
    plan.status = .active ∧ plan.pendingOrderId = none ∧ ∃ scheduledFor,
      plan.cadence.nextAfter plan.context.scheduledFor = .ok scheduledFor ∧
      { plan.reschedule scheduledFor with
        skippedOccurrences := plan.skippedOccurrences + 1 } = result := by
  simp only [skipOnce, bind_eq_ok, require_eq_ok, pure_eq_ok, exists_const,
    beq_iff_eq, Option.isNone_iff_eq_none]

theorem cancel_eq_ok : plan.cancel = .ok result ↔
    plan.status ≠ .cancelled ∧ { plan with status := .cancelled } = result := by
  simp only [cancel, bind_eq_ok, require_eq_ok, pure_eq_ok, exists_const,
    bne_iff_ne, ne_eq]

theorem editContext_eq_ok {context : RepeatOrderContext} :
    plan.editContext context = .ok result ↔
      plan.status ≠ .cancelled ∧ plan.pendingOrderId = none ∧
        { plan with context } = result := by
  simp only [editContext, bind_eq_ok, require_eq_ok, pure_eq_ok, exists_const,
    bne_iff_ne, ne_eq, Option.isNone_iff_eq_none]

theorem attachPendingOrder_eq_ok {orderId : String} :
    plan.attachPendingOrder orderId = .ok result ↔
      PyText.blank orderId = false ∧ plan.status ≠ .cancelled ∧
        plan.pendingOrderId = none ∧
        { plan with pendingOrderId := some orderId } = result := by
  simp only [attachPendingOrder, bind_eq_ok, require_eq_ok, pure_eq_ok,
    exists_const, bne_iff_ne, ne_eq, Option.isNone_iff_eq_none,
    Bool.not_eq_true']

theorem markOrderConfirmed_eq_ok {orderId : String} :
    plan.markOrderConfirmed orderId = .ok result ↔
      plan.pendingOrderId = some orderId ∧ ∃ scheduledFor,
        plan.confirmedSchedule = .ok scheduledFor ∧
        { plan.reschedule scheduledFor with
          lastOrderId := some orderId, pendingOrderId := none } = result := by
  simp only [markOrderConfirmed, bind_eq_ok, require_eq_ok, pure_eq_ok,
    exists_const, beq_iff_eq]

end Transitions

end RepeatOrderPlan

end ShemaPlatform
