/-
The tables of counterparty monitoring and the statements sent to them: the
monitors with their snapshots and change events, and the records kept beside.
-/
import Mathlib.Data.List.Sort
import ShemaPlatform.Jobs
import ShemaPlatform.Monitoring
import ShemaPlatform.Transaction

namespace ShemaPlatform

open Calendar ReadCommitted ReadCommitted.Prog

inductive BatchStatus where
  | collecting | running | completed
deriving DecidableEq, Repr

inductive BatchItemState where
  | pending | running | retryable | completed | failed
deriving DecidableEq, Repr

def BatchItemState.value : BatchItemState → String
  | .pending => "pending"
  | .running => "running"
  | .retryable => "retryable"
  | .completed => "completed"
  | .failed => "failed"

/-- A row of `counterparty_monitoring_batch`. -/
structure CounterpartyMonitoringBatch where
  batchId : String
  batchKey : String
  scheduledAt : Instant
  status : BatchStatus
  nextCursor : Option String
  collectionComplete : Bool
  completedAt : Option Instant
deriving DecidableEq

/-- The columns `lease_worker_id` and `lease_until`, set and cleared together. -/
structure ItemLease where
  workerId : String
  leaseUntil : Instant
deriving DecidableEq

/-- A row of `counterparty_monitoring_batch_item`. -/
structure CounterpartyMonitoringBatchItem where
  batchId : String
  monitorId : String
  state : BatchItemState
  attempt : ℕ
  availableAt : Instant
  lease : Option ItemLease
  lastErrorCode : Option String
  lastErrorAt : Option Instant
  completedAt : Option Instant
deriving DecidableEq

inductive MonitoringKey where
  | monitor (monitorId : String)
  | snapshot (snapshotId : String)
  | snapshotContent (monitorId : String) (observedAt : Instant)
      (payloadHash : String)
  | changeEvent (changeId : String)
  | changePair (monitorId beforeSnapshotId afterSnapshotId : String)
  | notification (notificationId : String)
  | idempotencyKey (key : String)
  | outboxEvent (eventId : String)
  | auditLog (auditId : String)
  | batchKey (batchKey : String)
  | batch (batchId : String)
  | batchItem (batchId monitorId : String)
deriving DecidableEq

/-- The unique columns `(monitor_id, observed_at, payload_hash)`,
`(monitor_id, before_snapshot_id, after_snapshot_id)`, `notification_id` and
`batch_key` keep which row has their value. -/
@[reducible] def MonitoringRow : MonitoringKey → Type
  | .monitor _ => CounterpartyMonitor
  | .snapshot _ => CounterpartySnapshot
  | .snapshotContent _ _ _ => String
  | .changeEvent _ => CounterpartyChangeEvent
  | .changePair _ _ _ => String
  | .notification _ => String
  | .idempotencyKey _ => IdempotencyRecord
  | .outboxEvent _ => OutboxEvent
  | .auditLog _ => AuditRecord
  | .batchKey _ => String
  | .batch _ => CounterpartyMonitoringBatch
  | .batchItem _ _ => CounterpartyMonitoringBatchItem

abbrev MonitoringRows := Rows MonitoringRow

/-- What `skip locked` passes over: the items other transactions hold. -/
abbrev LockedItems := MonitoringKey → Bool

abbrev MonitoringTx := Prog LockedItems MonitoringRow Failure

namespace MonitoringIdempotency

def reserve (key requestHash resultRef : String) :
    MonitoringTx IdempotencyRecord := do
  let inserted ←
    insertNew (MonitoringKey.idempotencyKey key) ⟨key, requestHash, resultRef⟩
  if inserted then
    return ⟨key, requestHash, resultRef⟩
  else
    match ← select (MonitoringKey.idempotencyKey key) with
    | none => raise (.integrityViolation "idempotency reservation disappeared")
    | some existing => do
        lift (require (existing.requestHash == requestHash)
          (.idempotencyConflict "idempotency key reused with different request"))
        return existing

/-- The row of `key` must be pending, or is left as it is. -/
def complete (key requestHash resultRef : String) :
    MonitoringTx IdempotencyRecord := do
  lift (require (!PyText.blank resultRef) (.valueError "result_ref is required"))
  match ← selectForUpdate (MonitoringKey.idempotencyKey key) with
  | none =>
      raise (.idempotencyConflict "idempotency completion has no reservation")
  | some existing => do
      lift (require (existing.requestHash == requestHash)
        (.idempotencyConflict "idempotency key reused with different request"))
      if !(existing.resultRef == "" ||
          PyText.startsWith existing.resultRef "pending:") then
        return existing
      else
        match ← updateWhere (MonitoringKey.idempotencyKey key)
            fun (row : IdempotencyRecord) =>
              if row.requestHash = requestHash then some { row with resultRef }
              else none with
        | none => raise (.integrityViolation "idempotency completion disappeared")
        | some updated => return updated

end MonitoringIdempotency

namespace MonitoringAudits

def append (record : AuditRecord) : MonitoringTx Unit := do
  let record ← lift record.new
  insert (MonitoringKey.auditLog record.auditId) record
    (.uniqueViolation "audit_log_pkey")

end MonitoringAudits

namespace MonitoringOutbox

def append (event : OutboxEvent) : MonitoringTx OutboxEvent := do
  let inserted ← insertNew (MonitoringKey.outboxEvent event.eventId) event
  if inserted then
    return event
  else
    match ← select (MonitoringKey.outboxEvent event.eventId) with
    | none => raise (.integrityViolation "outbox event disappeared")
    | some existing => do
        lift (require (existing == event) (.integrityViolation
          "outbox event_id collision with different event"))
        return existing

end MonitoringOutbox

namespace MonitoringRepository

def getMonitor (monitorId : String) : MonitoringTx (Option CounterpartyMonitor) :=
  select (MonitoringKey.monitor monitorId)

def getMonitorForActor (monitorId actorId : String) :
    MonitoringTx (Option CounterpartyMonitor) := do
  let monitor ← getMonitor monitorId
  return monitor.filter fun monitor => monitor.actorId == actorId

/-- The snapshots of a monitor. -/
def snapshotsOf (rows : MonitoringRows) (monitorId : String) :
    List CounterpartySnapshot :=
  (rows.live.filterMap fun
    | ⟨.snapshot _, row⟩ => some row
    | _ => none).filter fun row => row.monitorId == monitorId

/-- `order by observed_at desc, snapshot_id desc` -/
def latestFirst (a b : CounterpartySnapshot) : Prop :=
  b.observedAt < a.observedAt ∨
    (a.observedAt = b.observedAt ∧ b.snapshotId ≤ a.snapshotId)

instance : DecidableRel latestFirst := fun _ _ =>
  inferInstanceAs (Decidable (_ ∨ (_ ∧ _)))

def latestSnapshot (rows : MonitoringRows) (monitorId : String) :
    Option CounterpartySnapshot :=
  ((snapshotsOf rows monitorId).insertionSort latestFirst).head?

def getLatestSnapshot (monitorId : String) :
    MonitoringTx (Option CounterpartySnapshot) :=
  scan fun rows => latestSnapshot rows monitorId

def getSnapshot (snapshotId : String) : MonitoringTx (Option CounterpartySnapshot) :=
  select (MonitoringKey.snapshot snapshotId)

/-- Insertion unless the content is there already, and what then is there. -/
def addSnapshot (snapshot : CounterpartySnapshot) :
    MonitoringTx CounterpartySnapshot := do
  let content := MonitoringKey.snapshotContent snapshot.monitorId
    snapshot.observedAt snapshot.payloadHash
  let inserted ← insertNew content snapshot.snapshotId
  if inserted then
    insert (MonitoringKey.snapshot snapshot.snapshotId) snapshot
      (.uniqueViolation "counterparty_snapshot_pkey")
  let disappeared : Failure :=
    .integrityViolation "counterparty snapshot disappeared after insert"
  match ← select content with
  | none => raise disappeared
  | some (snapshotId : String) =>
      match ← select (MonitoringKey.snapshot snapshotId) with
      | none => raise disappeared
      | some stored => return stored

def setLastSnapshot (monitorId snapshotId : String)
    (checkedAt nextCheckAt : Instant) : MonitoringTx Unit := do
  match ← updateWhere (MonitoringKey.monitor monitorId)
      fun (row : CounterpartyMonitor) => some { row with
        lastSnapshotId := some snapshotId
        lastCheckedAt := some checkedAt
        nextCheckAt := nextCheckAt
        lastErrorCode := none
        lastErrorAt := none } with
  | none => raise (.integrityViolation "counterparty monitor update rejected")
  | some _ => return ()

def addChangeEvent (event : CounterpartyChangeEvent) : MonitoringTx Unit := do
  let inserted ← insertNew (MonitoringKey.changePair event.monitorId
    event.beforeSnapshotId event.afterSnapshotId) event.changeId
  if inserted then
    insert (MonitoringKey.notification event.notificationId) event.changeId
      (.uniqueViolation "counterparty_change_event_notification_id_key")
    insert (MonitoringKey.changeEvent event.changeId) event
      (.uniqueViolation "counterparty_change_event_pkey")
  else
    return ()

/-- `set_monitor_error` of the batch repository -/
def setMonitorError (monitorId errorCode : String) (now nextCheckAt : Instant) :
    MonitoringTx Unit := do
  match ← updateWhere (MonitoringKey.monitor monitorId)
      fun (row : CounterpartyMonitor) => some { row with
        lastErrorCode := some errorCode
        lastErrorAt := some now
        nextCheckAt := nextCheckAt } with
  | none => raise (.integrityViolation "counterparty monitor error update rejected")
  | some _ => return ()

end MonitoringRepository

end ShemaPlatform
