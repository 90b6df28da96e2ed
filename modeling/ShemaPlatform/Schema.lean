/-
The tables of the platform database as keyed rows.  Columns hold what the
database keeps: enumerations by name, decimals as counts of the smallest unit
of their column.
-/
import Mathlib.Data.List.Sort
import ShemaPlatform.CommercialAction
import ShemaPlatform.Foundation
import ShemaPlatform.Interference
import ShemaPlatform.RepeatPlan

namespace ShemaPlatform

open Calendar ReadCommitted

/-- A row of `order_header`, apart from its key. -/
structure OrderHeader where
  identityId : String
  sourceActionId : String
  status : OrderStatus
  ownerActorId : Option String
deriving DecidableEq

/-- A row of `order_line`; both numbers are `numeric(20,8)`. -/
structure OrderLineRow where
  lineId : String
  description : String
  quantity : ℤ
  unitPrice : ℤ
  currency : String
deriving DecidableEq

/-- A row of `repeat_order_plan`, apart from its key; the capacity is
`numeric(18,3)`. -/
structure RepeatPlanRow where
  sourceOrderId : String
  ownerActorId : Option String
  identityId : String
  status : RepeatPlanStatus
  cadenceUnit : RepeatCadenceUnit
  cadenceInterval : Nat
  scheduledFor : DateTime
  serviceScope : String
  capacityUnits : ℤ
  lastOrderId : Option String
  pendingOrderId : Option String
  skippedOccurrences : Nat
  revision : Nat
deriving DecidableEq

/-- A row of `quarantine_record`. -/
structure QuarantineRecord where
  objectType : String
  objectRef : String
  reasonCode : String
  payload : Payload
deriving DecidableEq

/-- How far a piece of evidence is trusted. -/
inductive TrustLevel where
  | T0 | T1 | T2 | T3 | T4
deriving DecidableEq, Repr

def TrustLevel.level : TrustLevel → ℤ
  | .T0 => 0
  | .T1 => 1
  | .T2 => 2
  | .T3 => 3
  | .T4 => 4

inductive EvidenceLifecycle where
  | active | expired | superseded | quarantined
deriving DecidableEq, Repr

/-- A row of `evidence`, as far as it decides what may rest on it. -/
structure EvidenceRow where
  subjectRef : String
  trustLevel : TrustLevel
  expiresAt : Option Instant
  lifecycle : EvidenceLifecycle
deriving DecidableEq

/-- A row of `ai_run`, apart from its key; the cost and the duration are
`numeric(20,8)`. -/
structure AIRunRow where
  taskId : String
  providerId : String
  model : String
  modelVersion : String
  promptVersion : String
  inputRefs : List String
  evidenceRefs : List String
  output : String
  tokens : ℤ
  cost : ℤ
  durationSeconds : ℤ
deriving DecidableEq

/-- Row keys.  The lines of an order are selected, deleted and rewritten
together, so `orderLines` keeps them by order; `orderLine` is the primary key
of that table and says which order has the line. -/
inductive Key where
  | identity (identityId : String)
  | idempotencyKey (key : String)
  | auditLog (auditId : String)
  | outboxEvent (eventId : String)
  | commercialAction (actionId : String)
  | orderHeader (orderId : String)
  | orderLine (lineId : String)
  | orderLines (orderId : String)
  | economicEntry (entryId : String)
  | repeatOrderPlan (planId : String)
  | quarantineRecord (quarantineId : String)
  | evidence (evidenceId : String)
  | aiRun (runId : String)
deriving DecidableEq

@[reducible] def Row : Key → Type
  | .identity _ => Identity
  | .idempotencyKey _ => IdempotencyRecord
  | .auditLog _ => AuditRecord
  | .outboxEvent _ => OutboxEvent
  | .commercialAction _ => CommercialAction
  | .orderHeader _ => OrderHeader
  | .orderLine _ => String
  | .orderLines _ => List OrderLineRow
  | .economicEntry _ => EconomicEntry
  | .repeatOrderPlan _ => RepeatPlanRow
  | .quarantineRecord _ => QuarantineRecord
  | .evidence _ => EvidenceRow
  | .aiRun _ => AIRunRow

/-- Database statements of the platform. -/
abbrev Tx (E : Type) := Prog E Row Failure

namespace OrderLineRow

/-- The row an order line is stored as. -/
def ofLine (line : OrderLine) : Except Failure OrderLineRow := do
  let quantity ← line.quantity.toNumeric 20 8 "quantity"
  require (decide (0 < quantity)) (.checkViolation "order_line_quantity_check")
  let unitPrice ← (Decimal.finite line.unitPrice.amount).toNumeric 20 8
    "unit_price"
  require (decide (0 ≤ unitPrice)) (.checkViolation "order_line_unit_price_check")
  require (line.unitPrice.currency.length == 3)
    (.checkViolation "order_line_currency_check")
  return ⟨line.lineId, line.description, quantity, unitPrice,
    line.unitPrice.currency⟩

/-- The order line a row is read as. -/
def toLine (row : OrderLineRow) : Except Failure OrderLine := do
  let unitPrice ← Money.new (.finite (row.unitPrice / 10 ^ 8)) row.currency
  OrderLine.new ⟨row.lineId, row.description,
    .finite (row.quantity / 10 ^ 8), unitPrice⟩

/-- The rows of one order as lines, `order by line_id`. -/
def readLines (rows : Option (List OrderLineRow)) :
    Except Failure (List OrderLine) :=
  ((rows.getD []).insertionSort fun a b => a.lineId ≤ b.lineId).mapM toLine

end OrderLineRow

def OrderHeader.ofOrder (order : Order) : OrderHeader :=
  ⟨order.identityId, order.sourceActionId, order.status, order.ownerActorId⟩

def OrderHeader.toOrder (orderId : String) (header : OrderHeader)
    (lines : List OrderLine) : Except Failure Order :=
  Order.new ⟨orderId, header.identityId, header.sourceActionId, lines,
    header.ownerActorId, header.status⟩

namespace RepeatPlanRow

def ofPlan (plan : RepeatOrderPlan) : Except Failure RepeatPlanRow := do
  require (decide (plan.cadence.interval ≤ 2147483647))
    (.numericOverflow "cadence_interval")
  let capacityUnits ← plan.context.capacityUnits.toNumeric 18 3 "capacity_units"
  require (decide (0 < capacityUnits))
    (.checkViolation "repeat_order_plan_capacity_units_check")
  return ⟨plan.sourceOrderId, plan.ownerActorId, plan.identityId, plan.status,
    plan.cadence.unit, plan.cadence.interval, plan.context.scheduledFor,
    plan.context.serviceScope, capacityUnits, plan.lastOrderId,
    plan.pendingOrderId, plan.skippedOccurrences, plan.revision⟩

/-- `PostgresRepeatOrderRepository._to_plan` -/
def toPlan (planId : String) (row : RepeatPlanRow) :
    Except Failure RepeatOrderPlan := do
  let cadence ← RepeatCadence.new row.cadenceUnit row.cadenceInterval
  let context ← RepeatOrderContext.new ⟨row.scheduledFor, row.serviceScope,
    .finite (row.capacityUnits / 10 ^ 3)⟩
  RepeatOrderPlan.new ⟨planId, row.sourceOrderId, row.identityId, cadence,
    context, row.ownerActorId, row.status, row.lastOrderId, row.pendingOrderId,
    row.skippedOccurrences, row.revision⟩

end RepeatPlanRow

end ShemaPlatform
