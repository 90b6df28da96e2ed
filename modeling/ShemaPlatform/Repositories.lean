/-
The repositories as database programs: the statements each of them sends and
the checks it makes on what comes back.
-/
import ShemaPlatform.Schema

namespace ShemaPlatform

open Calendar ReadCommitted ReadCommitted.Prog

variable {E : Type}

/-- The check behind a foreign key. -/
def references (key : Key) (constraint : String) : Tx E Unit := do
  let row ← select key
  lift (require row.isSome (.foreignKeyViolation constraint))

namespace Identities

def get (identityId : String) : Tx E (Option Identity) :=
  select (Key.identity identityId)

end Identities

namespace Idempotency

def get (key : String) : Tx E (Option IdempotencyRecord) :=
  select (Key.idempotencyKey key)

def reserve (key requestHash resultRef : String) : Tx E IdempotencyRecord := do
  let inserted ← insertNew (Key.idempotencyKey key) ⟨key, requestHash, resultRef⟩
  if inserted then
    return ⟨key, requestHash, resultRef⟩
  else
    match ← get key with
    | none => raise (.integrityViolation "idempotency reservation disappeared")
    | some existing => do
        lift (require (existing.requestHash == requestHash)
          (.idempotencyConflict "idempotency key reused with different request"))
        return existing

/-- A record whose result is still to come. -/
def pending (record : IdempotencyRecord) : Bool :=
  record.resultRef == "" || PyText.startsWith record.resultRef "pending:"

def complete (key requestHash resultRef : String) : Tx E IdempotencyRecord := do
  lift (require (!PyText.blank resultRef) (.valueError "result_ref is required"))
  match ← selectForUpdate (Key.idempotencyKey key) with
  | none =>
      raise (.idempotencyConflict "idempotency completion has no reservation")
  | some existing => do
      lift (require (existing.requestHash == requestHash)
        (.idempotencyConflict "idempotency key reused with different request"))
      if !pending existing then
        return existing
      else
        match ← updateWhere (Key.idempotencyKey key) fun (row : IdempotencyRecord) =>
            if row.requestHash = requestHash then some { row with resultRef }
            else none with
        | none => raise (.integrityViolation "idempotency completion disappeared")
        | some updated => return updated

end Idempotency

namespace Audits

/-- A plain insert: a second record of one id is refused. -/
def append (record : AuditRecord) : Tx E Unit := do
  let record ← lift record.new
  insert (Key.auditLog record.auditId) record (.uniqueViolation "audit_log_pkey")

end Audits

namespace Outbox

def append (event : OutboxEvent) : Tx E OutboxEvent := do
  let inserted ← insertNew (Key.outboxEvent event.eventId) event
  if inserted then
    return event
  else
    match ← select (Key.outboxEvent event.eventId) with
    | none => raise (.integrityViolation "outbox event disappeared")
    | some existing => do
        lift (require (existing == event) (.integrityViolation
          "outbox event_id collision with different event"))
        return existing

end Outbox

namespace Quarantine

/-- The record id is a fresh `uuid4()`. -/
def add (quarantineId : String) (record : QuarantineRecord) : Tx E Unit :=
  insert (Key.quarantineRecord quarantineId) record
    (.uniqueViolation "quarantine_record_pkey")

end Quarantine

namespace Economics

def add (entry : EconomicEntry) : Tx E Unit := do
  let _ ← lift ((Decimal.finite entry.amount.amount).toNumeric 20 8 "amount")
  lift (require (entry.amount.currency.length == 3)
    (.checkViolation "economic_entry_currency_check"))
  insert (Key.economicEntry entry.entryId) entry
    (.uniqueViolation "economic_entry_pkey")

end Economics

namespace Orders

def insertLine (orderId : String) (line : OrderLine) : Tx E Unit := do
  let row ← lift (OrderLineRow.ofLine line)
  insert (Key.orderLine row.lineId) orderId (.uniqueViolation "order_line_pkey")
  store (Key.orderLines orderId) fun (rows : Option (List OrderLineRow)) =>
    some (rows.getD [] ++ [row])

/-- `_insert_lines` -/
def insertLines (orderId : String) : List OrderLine → Tx E Unit
  | [] => return ()
  | line :: rest => do
      insertLine orderId line
      insertLines orderId rest

def add (order : Order) : Tx E Unit := do
  references (Key.commercialAction order.sourceActionId)
    "order_header_source_action_id_fkey"
  insert (Key.orderHeader order.orderId) (OrderHeader.ofOrder order)
    (.uniqueViolation "order_header_pkey")
  insertLines order.orderId order.lines

/-- `select … from order_line where order_id = … order by line_id` -/
def selectLines (orderId : String) : Tx E (List OrderLine) := do
  let rows ← select (Key.orderLines orderId)
  lift (OrderLineRow.readLines rows)

def get (orderId : String) : Tx E (Option Order) := do
  match ← select (Key.orderHeader orderId) with
  | none => return none
  | some header => do
      let lines ← selectLines orderId
      let order ← lift (OrderHeader.toOrder orderId header lines)
      return some order

/-- The transition `save` lets a stored order make towards a status. -/
def expected (current : Order) : OrderStatus → Option (Except Failure Order)
  | .confirmed => some current.confirm
  | .inProgress => some current.start
  | .completed => some current.complete
  | _ => none

def notPermitted : Failure :=
  .integrityViolation "order status transition is not permitted by domain"

/-- The guard of `save` on what may change in a stored order. -/
def permits (current order : Order) : Except Failure Unit :=
  if current.status = order.status then
    require (current.status == .draft || current.lines == order.lines)
      (.integrityViolation "order lines are immutable after draft state")
  else
    match expected current order.status with
    | none => .error notPermitted
    | some (.ok next) => require (next == order) notPermitted
    | some (.error (.valueError message)) =>
        .error (.integrityViolation
          s!"order status transition rejected: {message}")
    | some (.error error) => .error error

/-- The primary keys of deleted lines. -/
def deleteKeys : List OrderLineRow → Tx E Unit
  | [] => return ()
  | row :: rest => do
      let _ ← delete (Key.orderLine row.lineId)
      deleteKeys rest

/-- `delete from order_line where order_id = …`; whoever writes the lines of an
order holds its header, so the lines themselves are never waited for. -/
def deleteLines (orderId : String) : Tx E Unit := do
  let rows ← delete (Key.orderLines orderId)
  deleteKeys (rows.getD [])

def save (order : Order) : Tx E Unit := do
  match ← selectForUpdate (Key.orderHeader order.orderId) with
  | none => raise (.keyError s!"unknown order: {order.orderId}")
  | some header => do
      lift (require (OrderHeader.ownerActorId header == order.ownerActorId)
        (.integrityViolation "order owner scope is immutable"))
      let lines ← selectLines order.orderId
      let current ← lift (OrderHeader.toOrder order.orderId header lines)
      lift (require (current.identityId == order.identityId &&
          current.sourceActionId == order.sourceActionId)
        (.integrityViolation
          "order identity and source action lineage are immutable"))
      lift (permits current order)
      let _ ← updateWhere (Key.orderHeader order.orderId) fun _ =>
        some (OrderHeader.ofOrder order)
      deleteLines order.orderId
      insertLines order.orderId order.lines

end Orders

namespace RepeatOrders

/-- A nullable reference to an order. -/
def referencesOrder (orderId : Option String) (constraint : String) :
    Tx E Unit :=
  match orderId with
  | none => return ()
  | some orderId => references (Key.orderHeader orderId) constraint

def add (plan : RepeatOrderPlan) : Tx E Unit := do
  let row ← lift (RepeatPlanRow.ofPlan plan)
  references (Key.orderHeader plan.sourceOrderId)
    "repeat_order_plan_source_order_id_fkey"
  references (Key.identity plan.identityId) "repeat_order_plan_identity_id_fkey"
  referencesOrder plan.lastOrderId "repeat_order_plan_last_order_id_fkey"
  referencesOrder plan.pendingOrderId "repeat_order_plan_pending_order_id_fkey"
  insert (Key.repeatOrderPlan plan.planId) row
    (.uniqueViolation "repeat_order_plan_pkey")

def get (planId : String) : Tx E (Option RepeatOrderPlan) := do
  match ← select (Key.repeatOrderPlan planId) with
  | none => return none
  | some row => do
      let plan ← lift (RepeatPlanRow.toPlan planId row)
      return some plan

/-- The columns `save` sets, with the next revision. -/
def updated (plan : RepeatOrderPlan) (nextRevision : Nat) (row : RepeatPlanRow) :
    Except Failure RepeatPlanRow := do
  let new ← RepeatPlanRow.ofPlan plan
  return { row with
    status := new.status
    scheduledFor := new.scheduledFor
    serviceScope := new.serviceScope
    capacityUnits := new.capacityUnits
    lastOrderId := new.lastOrderId
    pendingOrderId := new.pendingOrderId
    skippedOccurrences := new.skippedOccurrences
    revision := nextRevision }

def save (plan : RepeatOrderPlan) (expectedRevision : Nat) :
    Tx E RepeatOrderPlan := do
  lift (require (decide (1 ≤ expectedRevision))
    (.valueError "expected_revision must be >= 1"))
  match ← selectForUpdate (Key.repeatOrderPlan plan.planId) with
  | none => raise (.keyError s!"unknown repeat plan: {plan.planId}")
  | some row => do
      let current ← lift (RepeatPlanRow.toPlan plan.planId row)
      lift (require (current.revision == expectedRevision)
        (.integrityViolation
          "repeat plan revision conflict: stale operator state"))
      lift (require (current.ownerActorId == plan.ownerActorId)
        (.integrityViolation "repeat order plan owner scope is immutable"))
      lift (require (current.sourceOrderId == plan.sourceOrderId &&
          current.identityId == plan.identityId &&
          current.cadence == plan.cadence)
        (.integrityViolation "repeat plan lineage and cadence are immutable"))
      let new ← lift (updated plan (current.revision + 1) row)
      referencesOrder plan.lastOrderId "repeat_order_plan_last_order_id_fkey"
      referencesOrder plan.pendingOrderId
        "repeat_order_plan_pending_order_id_fkey"
      match ← updateWhere (Key.repeatOrderPlan plan.planId)
          fun (row : RepeatPlanRow) =>
            if row.revision = expectedRevision then some new else none with
      | none => raise (.integrityViolation "repeat plan changed concurrently")
      | some saved => lift (RepeatPlanRow.toPlan plan.planId saved)

end RepeatOrders

namespace CommercialActions

def add (action : CommercialAction) : Tx E Unit :=
  insert (Key.commercialAction action.actionId) action
    (.uniqueViolation "commercial_action_pkey")

def get (actionId : String) : Tx E (Option CommercialAction) :=
  select (Key.commercialAction actionId)

end CommercialActions

end ShemaPlatform
