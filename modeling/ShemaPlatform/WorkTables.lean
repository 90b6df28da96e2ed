/-
The tables background workers share, and the statements their repositories
send: durable jobs, the outbox with its delivery leases, and the audit log.
-/
import Mathlib.Data.List.Sort
import ShemaPlatform.Jobs
import ShemaPlatform.Transaction

namespace ShemaPlatform

open Calendar ReadCommitted ReadCommitted.Prog

/-- Who delivers an event; the columns `delivery_worker_id` and
`delivery_lease_until` are set and cleared together. -/
structure DeliveryLease where
  workerId : String
  leaseUntil : Instant
deriving DecidableEq

/-- A row of `outbox_event`. -/
structure OutboxRow where
  event : OutboxEvent
  publishedAt : Option Instant
  deliveryAttempt : ℕ
  delivery : Option DeliveryLease
deriving DecidableEq

/-- A claimed event with the lease of its deliverer. -/
structure OutboxDelivery where
  event : OutboxEvent
  attempt : ℕ
  workerId : String
  leaseUntil : Instant
deriving DecidableEq

inductive WorkKey where
  | jobExecution (jobId : String)
  | jobIdempotencyKey (idempotencyKey : String)
  | outboxEvent (eventId : String)
  | auditLog (auditId : String)
deriving DecidableEq

/-- The unique column `idempotency_key` keeps which job has it. -/
@[reducible] def WorkRow : WorkKey → Type
  | .jobExecution _ => JobRow
  | .jobIdempotencyKey _ => String
  | .outboxEvent _ => OutboxRow
  | .auditLog _ => AuditRecord

/-- What `skip locked` passes over: the rows other transactions hold. -/
abbrev LockedRows := WorkKey → Bool

abbrev WorkTx := Prog LockedRows WorkRow Failure

namespace AuditRepository

def append (record : AuditRecord) : WorkTx Unit := do
  let record ← lift record.new
  insert (WorkKey.auditLog record.auditId) record
    (.uniqueViolation "audit_log_pkey")

end AuditRepository

namespace JobRepository

def get (jobId : String) : WorkTx (Option JobRecord) := do
  let row ← select (WorkKey.jobExecution jobId)
  return row.map (JobRow.toRecord jobId)

def enqueue (record : JobRecord) (createdAt : Instant) : WorkTx JobRecord := do
  let jobId := record.execution.jobId
  let inserted ← insertNew (WorkKey.jobExecution jobId)
    (JobRow.ofRecord record createdAt)
  if inserted then
    insert (WorkKey.jobIdempotencyKey record.execution.idempotencyKey) jobId
      (.uniqueViolation "job_execution_idempotency_key_key")
    return record
  else
    match ← get jobId with
    | none => raise (.integrityViolation "job disappeared after enqueue collision")
    | some existing => do
        lift (require (existing == record)
          (.integrityViolation "job_id collision with different execution"))
        return existing

/-- Every job with its row. -/
def all (rows : Rows WorkRow) : List (String × JobRow) :=
  rows.live.filterMap fun
    | ⟨.jobExecution jobId, row⟩ => some (jobId, row)
    | _ => none

/-- `order by available_at, created_at, job_id` -/
def ordered (a b : String × JobRow) : Prop :=
  a.2.availableAt < b.2.availableAt ∨ (a.2.availableAt = b.2.availableAt ∧
    (a.2.createdAt < b.2.createdAt ∨
      (a.2.createdAt = b.2.createdAt ∧ a.1 ≤ b.1)))

instance : DecidableRel ordered := fun _ _ =>
  inferInstanceAs (Decidable (_ ∨ (_ ∧ (_ ∨ (_ ∧ _)))))

/-- `for update skip locked limit 1` -/
def candidate (now : Instant) (locked : LockedRows) (rows : Rows WorkRow) :
    Option String :=
  let jobs := (all rows).filter fun job =>
    job.2.claimable now && !locked (WorkKey.jobExecution job.1)
  (jobs.insertionSort ordered).head?.map Prod.fst

def claimNext (workerId : String) (leaseSeconds : ℤ) (now : Instant) :
    WorkTx (Option JobRecord) := do
  lift (require (!PyText.blank workerId) (.valueError "worker_id is required"))
  lift (require (decide (0 < leaseSeconds))
    (.valueError "lease_seconds must be > 0"))
  match ← query fun locked rows => .pure (candidate now locked rows) with
  | none => return none
  | some jobId => do
      let row ← updateWhere (WorkKey.jobExecution jobId) fun (row : JobRow) =>
        some (row.claimed workerId (now + seconds leaseSeconds))
      return row.map (JobRow.toRecord jobId)

def renew (jobId workerId : String) (leaseSeconds : ℤ) (now : Instant) :
    WorkTx JobRecord := do
  lift (require (!PyText.blank workerId) (.valueError "worker_id is required"))
  lift (require (decide (0 < leaseSeconds))
    (.valueError "lease_seconds must be > 0"))
  match ← updateWhere (WorkKey.jobExecution jobId) fun (row : JobRow) =>
      if row.heldBy workerId now then
        some (row.renewed workerId (now + seconds leaseSeconds))
      else none with
  | none =>
      raise (.integrityViolation
        "job lease renewal rejected: missing or expired lease")
  | some row => return row.toRecord jobId

def complete (jobId workerId : String) (now : Instant) : WorkTx JobRecord := do
  match ← updateWhere (WorkKey.jobExecution jobId) fun (row : JobRow) =>
      if row.heldBy workerId now then some row.completed else none with
  | none =>
      raise (.integrityViolation
        "job completion rejected: missing or expired lease")
  | some row => return row.toRecord jobId

def fail (jobId workerId : String) (retryable : Bool) (error : String)
    (availableAt now : Instant) : WorkTx JobRecord := do
  lift (require (!PyText.blank error) (.valueError "error is required"))
  match ← updateWhere (WorkKey.jobExecution jobId) fun (row : JobRow) =>
      if row.heldBy workerId now then
        some (row.failed retryable error availableAt)
      else none with
  | none =>
      raise (.integrityViolation "job failure rejected: missing or expired lease")
  | some row => return row.toRecord jobId

end JobRepository

namespace OutboxRepository

def get (eventId : String) : WorkTx (Option OutboxRow) :=
  select (WorkKey.outboxEvent eventId)

def append (event : OutboxEvent) : WorkTx OutboxRow := do
  let row : OutboxRow := ⟨event, none, 0, none⟩
  let inserted ← insertNew (WorkKey.outboxEvent event.eventId) row
  if inserted then
    return row
  else
    match ← get event.eventId with
    | none => raise (.integrityViolation "outbox event disappeared")
    | some existing => do
        lift (require (existing.event == event) (.integrityViolation
          "outbox event_id collision with different event"))
        return existing

/-- Every event with its row. -/
def all (rows : Rows WorkRow) : List (String × OutboxRow) :=
  rows.live.filterMap fun
    | ⟨.outboxEvent eventId, row⟩ => some (eventId, row)
    | _ => none

/-- `order by occurred_at, event_id` -/
def ordered (a b : String × OutboxRow) : Prop :=
  a.2.event.occurredAt < b.2.event.occurredAt ∨
    (a.2.event.occurredAt = b.2.event.occurredAt ∧ a.1 ≤ b.1)

instance : DecidableRel ordered := fun _ _ =>
  inferInstanceAs (Decidable (_ ∨ (_ ∧ _)))

def pending : WorkTx (List OutboxRow) :=
  scan fun rows => (((all rows).filter fun entry => entry.2.publishedAt.isNone)
    |>.insertionSort ordered).map Prod.snd

/-- Unpublished, due, and not on an unexpired lease. -/
def claimable (now : Instant) (row : OutboxRow) : Bool :=
  row.publishedAt.isNone && decide (row.event.occurredAt ≤ now) &&
    match row.delivery with
    | none => true
    | some lease => decide (lease.leaseUntil ≤ now)

/-- `for update skip locked limit …` -/
def candidates (now : Instant) (limit : ℕ) (locked : LockedRows)
    (rows : Rows WorkRow) : List String :=
  let events := (all rows).filter fun entry =>
    claimable now entry.2 && !locked (WorkKey.outboxEvent entry.1)
  ((events.insertionSort ordered).take limit).map Prod.fst

def claimed (workerId : String) (leaseUntil : Instant) (row : OutboxRow) :
    OutboxRow :=
  { row with
    deliveryAttempt := row.deliveryAttempt + 1
    delivery := some ⟨workerId, leaseUntil⟩ }

/-- The update of every candidate, with the claimed deliveries. -/
def claimEach (workerId : String) (leaseUntil : Instant) :
    List String → WorkTx (List OutboxDelivery)
  | [] => return []
  | eventId :: rest => do
      let row ← updateWhere (WorkKey.outboxEvent eventId) fun (row : OutboxRow) =>
        some (claimed workerId leaseUntil row)
      let deliveries ← claimEach workerId leaseUntil rest
      return (row.map fun row => OutboxDelivery.mk row.event row.deliveryAttempt
        workerId leaseUntil).toList ++ deliveries

def claimPending (workerId : String) (leaseSeconds : ℤ) (now : Instant)
    (limit : ℕ) : WorkTx (List OutboxDelivery) := do
  lift (require (!PyText.blank workerId) (.valueError "worker_id is required"))
  lift (require (decide (0 < leaseSeconds))
    (.valueError "lease_seconds must be > 0"))
  lift (require (decide (1 ≤ limit)) (.valueError "limit must be >= 1"))
  let eventIds ← query fun locked rows =>
    .pure (candidates now limit locked rows)
  claimEach workerId (now + seconds leaseSeconds) eventIds

/-- On an unexpired delivery lease of this worker and not published. -/
def heldBy (workerId : String) (now : Instant) (row : OutboxRow) : Bool :=
  row.publishedAt.isNone &&
    match row.delivery with
    | none => false
    | some lease => lease.workerId == workerId && decide (now < lease.leaseUntil)

def published (now : Instant) (row : OutboxRow) : OutboxRow :=
  { row with publishedAt := some now, delivery := none }

def markPublished (eventId workerId : String) (now : Instant) :
    WorkTx OutboxRow := do
  lift (require (!PyText.blank workerId) (.valueError "worker_id is required"))
  match ← updateWhere (WorkKey.outboxEvent eventId) fun (row : OutboxRow) =>
      if heldBy workerId now row then
        some (published now row)
      else none with
  | none =>
      raise (.integrityViolation
        "outbox publication rejected: missing or expired delivery lease")
  | some row => return row

end OutboxRepository

end ShemaPlatform
