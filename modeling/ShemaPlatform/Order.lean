/-
Orders, their lines and their status machine, together with the economic
entries recorded against them.
-/
import ShemaPlatform.Calendar
import ShemaPlatform.Money

namespace ShemaPlatform

inductive OrderStatus where
  | draft | confirmed | inProgress | completed | cancelled | failed
deriving DecidableEq, Repr

/-- The stored spelling of a status. -/
def OrderStatus.value : OrderStatus → String
  | .draft => "draft"
  | .confirmed => "confirmed"
  | .inProgress => "in_progress"
  | .completed => "completed"
  | .cancelled => "cancelled"
  | .failed => "failed"

structure OrderLine where
  lineId : String
  description : String
  quantity : Decimal
  unitPrice : Money
deriving DecidableEq

/-- What `OrderLine.__post_init__` accepts. -/
def OrderLine.new (line : OrderLine) : Except Failure OrderLine := do
  require (!PyText.blank line.lineId && !PyText.blank line.description)
    (.valueError "order line identifiers and description are required")
  require (!(← line.quantity.nonPositive))
    (.valueError "quantity must be positive")
  require (decide (0 ≤ line.unitPrice.cents))
    (.valueError "unit price cannot be negative")
  return line

def OrderLine.total (line : OrderLine) : Except Failure Money :=
  line.unitPrice.multiply line.quantity

structure Order where
  orderId : String
  identityId : String
  sourceActionId : String
  lines : List OrderLine
  ownerActorId : Option String
  status : OrderStatus
deriving DecidableEq

namespace Order

/-- What `Order.__post_init__` accepts. -/
def new (order : Order) : Except Failure Order := do
  require (!PyText.blank order.orderId) (.valueError "order_id is required")
  require (!PyText.blank order.identityId) (.valueError "identity_id is required")
  require (!PyText.blank order.sourceActionId)
    (.valueError "source_action_id is required")
  require (!order.lines.isEmpty)
    (.valueError "order must contain at least one line")
  return order

/-- The sum of the line totals, left to right. -/
def totalOf : List OrderLine → Except Failure Money
  | [] => .error (.valueError "order must contain at least one line")
  | first :: rest => do
      let start ← first.total
      rest.foldlM (fun sum line => do sum.add (← line.total)) start

def total (order : Order) : Except Failure Money :=
  totalOf order.lines

/-- A status change that rebuilds the order with its other fields. -/
def moveTo (order : Order) (expected next : OrderStatus) (message : String) :
    Except Failure Order :=
  if order.status = expected then ({ order with status := next } : Order).new
  else .error (.valueError message)

def confirm (order : Order) : Except Failure Order :=
  order.moveTo .draft .confirmed "only draft order can be confirmed"

def start (order : Order) : Except Failure Order :=
  order.moveTo .confirmed .inProgress "only confirmed order can start"

def complete (order : Order) : Except Failure Order :=
  order.moveTo .inProgress .completed "only in-progress order can complete"

theorem new_eq_ok {order result : Order} (h : order.new = .ok result) :
    result = order := by
  simp only [new, bind, Except.bind, pure, Except.pure] at h
  repeat' (split at h; · simp at h)
  exact (Except.ok.inj h).symm

theorem moveTo_eq_ok {order result : Order} {expected next : OrderStatus}
    {message : String} (h : order.moveTo expected next message = .ok result) :
    order.status = expected ∧ ({ order with status := next } : Order).new =
      .ok { order with status := next } ∧ result = { order with status := next } := by
  unfold moveTo at h
  split at h
  · obtain rfl := new_eq_ok h
    exact ⟨‹_›, h, rfl⟩
  · simp at h

end Order

inductive EconomicKind where
  | providerCost | aiCost | orderCost | revenue | adjustment
deriving DecidableEq, Repr

structure EconomicEntry where
  entryId : String
  entityRef : String
  kind : EconomicKind
  amount : Money
  sourceRef : String
  occurredAt : Calendar.Instant
deriving DecidableEq

/-- What `EconomicEntry.__post_init__` accepts. -/
def EconomicEntry.new (entry : EconomicEntry) : Except Failure EconomicEntry := do
  require (!PyText.blank entry.entryId && !PyText.blank entry.entityRef &&
      !PyText.blank entry.sourceRef)
    (.valueError "economic entry references are required")
  require (entry.kind == .adjustment || decide (0 ≤ entry.amount.cents))
    (.valueError "revenue and cost amounts cannot be negative")
  return entry

theorem EconomicEntry.new_eq_ok {entry result : EconomicEntry}
    (h : entry.new = .ok result) : result = entry := by
  simp only [new, bind, Except.bind, pure, Except.pure] at h
  repeat' (split at h; · simp at h)
  exact (Except.ok.inj h).symm

end ShemaPlatform
