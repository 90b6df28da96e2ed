/-
`record_observation`: one transaction that keeps an observation as a snapshot
and announces what has changed since the latest one.
-/
import ShemaPlatform.MonitoringTables

namespace ShemaPlatform

open Calendar ReadCommitted ReadCommitted.Prog

/-- The arguments of a call, with the ids that `uuid4` hands out in it. -/
structure ObservationCall where
  monitorId : String
  actorId : String
  permissions : List Permission
  observation : CounterpartyObservation
  correlationId : String
  now : Instant
  idempotencyKey : Option String
  changeId : String
  auditId : String

namespace ObservationCall

variable (sha256 uuid5 : String → String) (call : ObservationCall)

/-- `_authorize` -/
def authorize : Except Failure Unit :=
  RBACAuthorizer.require ⟨[(call.actorId, call.permissions)]⟩ call.actorId
    .counterpartyMonitorManage

/-- An empty key counts as none. -/
def key : Option String :=
  call.idempotencyKey.filter (· ≠ "")

def reservationKey (key : String) : String :=
  s!"counterparty.observation:{call.monitorId}:{key}"

def observationHash : String :=
  sha256 (String.intercalate "|"
    ["counterparty.observation", call.monitorId, call.key.getD "none"])

/-- The stored snapshot, when the key was used before. -/
def replayed (snapshot : CounterpartySnapshot) :
    MonitoringTx (Option CounterpartySnapshot) :=
  match call.key with
  | none => return none
  | some key => do
      let pendingRef := "pending:" ++ snapshot.snapshotId
      let reservation ← MonitoringIdempotency.reserve (call.reservationKey key)
        (call.observationHash sha256) pendingRef
      if reservation.resultRef = pendingRef then
        return none
      else do
        lift (require (!PyText.startsWith reservation.resultRef "pending:")
          (.idempotencyConflict
            "counterparty observation request is already in progress"))
        match ← MonitoringRepository.getSnapshot reservation.resultRef with
        | none =>
            raise (.integrityViolation
              "completed observation reservation references missing snapshot")
        | some stored => return some stored

def notificationId (previous stored : CounterpartySnapshot) : String :=
  s!"counterparty-change:{call.monitorId}:{previous.snapshotId}:{stored.snapshotId}"

/-- The change event, and what its outbox event and audit record say. -/
def changeEvent (previous stored : CounterpartySnapshot)
    (changed : List ParameterChange) (severity : ChangeSeverity) :
    CounterpartyChangeEvent where
  changeId := call.changeId
  monitorId := call.monitorId
  beforeSnapshotId := previous.snapshotId
  afterSnapshotId := stored.snapshotId
  changedParameters := changed
  severity := severity
  sourceRef := stored.sourceRef
  freshness := if call.now ≤ call.observation.expiresAt then "FRESH" else "EXPIRED"
  correlationId := call.correlationId
  notificationId := call.notificationId previous stored
  detectedAt := call.now

def outboxEvent (event : CounterpartyChangeEvent) : OutboxEvent where
  eventId := uuid5 event.notificationId
  eventType := "counterparty.change.detected"
  aggregateType := "counterparty_monitor"
  aggregateId := call.monitorId
  payload := [("monitor_id", .text call.monitorId),
    ("change_id", .text event.changeId),
    ("before_snapshot_id", .text event.beforeSnapshotId),
    ("after_snapshot_id", .text event.afterSnapshotId),
    ("changed_parameters", .text (changedText event.changedParameters)),
    ("severity", .text event.severity.value),
    ("source_ref", .text event.sourceRef),
    ("freshness", .text event.freshness),
    ("notification_id", .text event.notificationId)]
  occurredAt := call.now

def auditRecord (event : CounterpartyChangeEvent) : AuditRecord where
  auditId := call.auditId
  actorId := call.actorId
  action := "counterparty.monitor.changed"
  resourceType := "counterparty_monitor"
  resourceId := call.monitorId
  outcome := "change_detected"
  occurredAt := call.now
  metadata := [("changed_parameters", .text (changedText event.changedParameters)),
    ("severity", .text event.severity.value),
    ("before_snapshot_id", .text event.beforeSnapshotId),
    ("after_snapshot_id", .text event.afterSnapshotId)]
  correlationId := some call.correlationId

/-- What follows when there was a snapshot before. -/
def announce (stored : CounterpartySnapshot) :
    Option CounterpartySnapshot → MonitoringTx Unit
  | none => return ()
  | some previous => do
      let (changed, severity) ← lift (detectCounterpartyChanges previous stored)
      if changed.isEmpty then
        return ()
      else do
        let event := call.changeEvent previous stored changed severity
        MonitoringRepository.addChangeEvent event
        let _ ← MonitoringOutbox.append (call.outboxEvent uuid5 event)
        MonitoringAudits.append (call.auditRecord event)

def complete (stored : CounterpartySnapshot) : MonitoringTx Unit :=
  match call.key with
  | none => return ()
  | some key => do
      let _ ← MonitoringIdempotency.complete (call.reservationKey key)
        (call.observationHash sha256) stored.snapshotId

/-- What is done with an observation that is not a replay. -/
def keep (monitor : CounterpartyMonitor) (snapshot : CounterpartySnapshot) :
    MonitoringTx CounterpartySnapshot := do
  let previous ← MonitoringRepository.getLatestSnapshot call.monitorId
  let stored ← MonitoringRepository.addSnapshot snapshot
  MonitoringRepository.setLastSnapshot call.monitorId stored.snapshotId call.now
    (call.now + seconds monitor.frequencySeconds)
  call.announce uuid5 stored previous
  call.complete sha256 stored
  return stored

/-- `record_observation` -/
def record : MonitoringTx CounterpartySnapshot := do
  lift call.authorize
  match ← MonitoringRepository.getMonitorForActor call.monitorId call.actorId with
  | none =>
      raise (.integrityViolation "monitor is missing or outside actor scope")
  | some monitor => do
      let snapshot ← lift (snapshotFromObservation sha256 monitor call.observation)
      match ← call.replayed sha256 snapshot with
      | some stored => return stored
      | none => call.keep sha256 uuid5 monitor snapshot

end ObservationCall

end ShemaPlatform
