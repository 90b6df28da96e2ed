/-
The transactions of the monitoring worker: a batch is opened and items of it
are claimed, every item is observed and then completed or failed, and the
batch is finalized.
-/
import ShemaPlatform.MonitoringBatches
import ShemaPlatform.MonitoringService

namespace ShemaPlatform

open Calendar ReadCommitted ReadCommitted.Prog

/-- One worker with its settings; the backoff is in microseconds. -/
structure CounterpartyMonitoringWorker where
  workerId : String
  permissions : List Permission
  maxParallelism : ℕ
  leaseSeconds : ℤ
  maxAttempts : ℕ
  backoff : ℤ
  maxBackoff : ℤ
  materializationLimit : ℕ
  valid : PyText.blank workerId = false ∧ (1 ≤ maxParallelism ∧ maxParallelism ≤ 16) ∧
    0 < leaseSeconds ∧ (1 ≤ maxAttempts ∧ maxAttempts ≤ 5) ∧ 0 ≤ backoff ∧
    backoff ≤ maxBackoff ∧ 1 ≤ materializationLimit ∧ materializationLimit ≤ 1000

namespace CounterpartyMonitoringWorker

def dailyKey (scheduledAt : Instant) : String :=
  s!"counterparty-monitor:{PyText.isodate scheduledAt}"

variable (uuid5 : String → String) (worker : CounterpartyMonitoringWorker)

/-- The first transaction of `run_once`. -/
def openBatch (batchKey : String) (scheduledAt now : Instant) :
    MonitoringTx (CounterpartyMonitoringBatch × List CounterpartyMonitoringBatchItem) := do
  let batch ←
    MonitoringBatchRepository.startOrResumeDailyBatch uuid5 batchKey scheduledAt
  let batch ← MonitoringBatchRepository.materializeDueItems batch.batchId scheduledAt
    worker.materializationLimit
  let items ← MonitoringBatchRepository.claimItems batch.batchId worker.workerId
    worker.leaseSeconds now worker.maxParallelism
  return (batch, items)

/-- Why an item is failed before it is observed. -/
def refusal (item : CounterpartyMonitoringBatchItem) :
    Option CounterpartyMonitor → Option String
  | none =>
      if worker.maxAttempts < item.attempt then some "MAX_ATTEMPTS_EXCEEDED"
      else some "MONITOR_NOT_ACTIVE"
  | some monitor =>
      if worker.maxAttempts < item.attempt then some "MAX_ATTEMPTS_EXCEEDED"
      else if monitor.status = .active then none
      else some "MONITOR_NOT_ACTIVE"

/-- `_correlation_id_from` -/
def correlationId (batchId monitorId : String) : String :=
  s!"counterparty-monitor:{batchId}:{monitorId}"

/-- What is recorded for an item, with the ids that `uuid4` hands out. -/
def observationCall (item : CounterpartyMonitoringBatchItem)
    (monitor : CounterpartyMonitor) (observation : CounterpartyObservation)
    (now : Instant) (changeId auditId : String) : ObservationCall where
  monitorId := monitor.monitorId
  actorId := monitor.actorId
  permissions := worker.permissions
  observation := observation
  correlationId := correlationId item.batchId item.monitorId
  now := now
  idempotencyKey := some s!"{item.batchId}:{item.monitorId}"
  changeId := changeId
  auditId := auditId

/-- `_complete` -/
def complete (item : CounterpartyMonitoringBatchItem) (now : Instant) :
    MonitoringTx CounterpartyMonitoringBatchItem :=
  MonitoringBatchRepository.completeItem item.batchId item.monitorId worker.workerId now

/-- Whether a failed item is tried again, and when it is available. -/
def shouldRetry (item : CounterpartyMonitoringBatchItem) (retryable : Bool) : Bool :=
  retryable && decide (item.attempt < worker.maxAttempts)

def availableAt (item : CounterpartyMonitoringBatchItem) (retryable : Bool)
    (now : Instant) : Instant :=
  if worker.shouldRetry item retryable then
    now + min worker.maxBackoff (worker.backoff * 2 ^ (item.attempt - 1))
  else now

/-- `_audit_for` -/
def auditFor (item : CounterpartyMonitoringBatchItem) (outcome errorCode : String)
    (occurredAt : Instant) : AuditRecord where
  auditId := uuid5 ("counterparty-monitor-worker:" ++
    s!"{item.batchId}:{item.monitorId}:{errorCode}:{PyText.isoformat occurredAt}")
  actorId := worker.workerId
  action := "counterparty.monitor.worker"
  resourceType := "counterparty_monitor"
  resourceId := item.monitorId
  outcome := outcome
  occurredAt := occurredAt
  metadata := [("batch_id", .text item.batchId), ("error_code", .text errorCode)]
  correlationId := some (correlationId item.batchId item.monitorId)

/-- `_fail` -/
def fail (item : CounterpartyMonitoringBatchItem) (retryable : Bool)
    (errorCode : String) (now : Instant) :
    MonitoringTx CounterpartyMonitoringBatchItem := do
  let availableAt := worker.availableAt item retryable now
  let result ← MonitoringBatchRepository.failItem item.batchId item.monitorId
    worker.workerId (worker.shouldRetry item retryable) errorCode availableAt now
  MonitoringRepository.setMonitorError item.monitorId errorCode now availableAt
  MonitoringAudits.append (worker.auditFor uuid5 item result.state.value errorCode now)
  return result

end CounterpartyMonitoringWorker

end ShemaPlatform
