/-
The runner's transactions: completion and failure of a claimed job, each with
its outbox event and its audit record.
-/
import ShemaPlatform.PyValueText
import ShemaPlatform.WorkTables

namespace ShemaPlatform

open Calendar ReadCommitted ReadCommitted.Prog

/-- One runner; `handlers` are the job types it has a handler for. -/
structure JobRunner where
  handlers : List String
  retryPolicy : RetryPolicy
  leaseSeconds : ℤ
  workerId : String
  valid : 0 < leaseSeconds ∧ PyText.blank workerId = false

namespace JobRunner

variable (uuid5 : String → String)

/-- The event of a completion; the handler's output is kept as JSON text. -/
def completionEvent (completed : JobRecord) (output : Option String)
    (now : Instant) : OutboxEvent where
  eventId := uuid5
    s!"job.completed:{completed.execution.jobId}:{completed.execution.attempt}"
  eventType := "job.completed"
  aggregateType := "job"
  aggregateId := completed.execution.jobId
  payload := [("job_id", .text completed.execution.jobId),
    ("job_type", .text completed.execution.jobType),
    ("attempt", .number completed.execution.attempt),
    ("state", .text completed.execution.state.value)] ++
      output.toList.map fun text => ("output", .text text)
  occurredAt := now

/-- `_event_for` -/
def eventFor (claimed : JobRecord) (state : JobState) (error : String)
    (availableAt occurredAt : Instant) : OutboxEvent :=
  let eventType :=
    if state = .retryableFailure then "job.retry_scheduled" else "job.failed"
  { eventId := uuid5
      s!"{eventType}:{claimed.execution.jobId}:{claimed.execution.attempt}"
    eventType := eventType
    aggregateType := "job"
    aggregateId := claimed.execution.jobId
    payload := [("job_id", .text claimed.execution.jobId),
      ("job_type", .text claimed.execution.jobType),
      ("attempt", .number claimed.execution.attempt), ("error", .text error),
      ("available_at", .text (PyText.isoformat availableAt))]
    occurredAt := occurredAt }

/-- `_audit_for` -/
def auditFor (claimed : JobRecord) (outcome error : String)
    (occurredAt : Instant) : AuditRecord where
  auditId := uuid5
    s!"audit:job.failure:{claimed.execution.jobId}:{claimed.execution.attempt}"
  actorId := (claimed.execution.lease.map JobLease.workerId).getD "worker"
  action := "job.failure"
  resourceType := "job"
  resourceId := claimed.execution.jobId
  outcome := outcome
  occurredAt := occurredAt
  metadata := [("attempt", .number claimed.execution.attempt),
    ("error", .text error)]
  correlationId := none

/-- `_complete` -/
def complete (jobId workerId : String) (now : Instant) (output : Option String) :
    WorkTx JobRecord := do
  let completed ← JobRepository.complete jobId workerId now
  let _ ← OutboxRepository.append (completionEvent uuid5 completed output now)
  AuditRepository.append
    { auditId := uuid5
        s!"audit:job.completed:{jobId}:{completed.execution.attempt}"
      actorId := workerId
      action := "job.completed"
      resourceType := "job"
      resourceId := jobId
      outcome := "success"
      occurredAt := now
      metadata := [("attempt", .number completed.execution.attempt)]
      correlationId := none }
  return completed

/-- `_record_failure` -/
def recordFailure (policy : RetryPolicy) (workerId : String)
    (claimed : JobRecord) (error : String) (retryable : Bool) (now : Instant) :
    WorkTx JobRecord := do
  let attempt := claimed.execution.attempt
  let shouldRetry := retryable && policy.isRetryable attempt
  let availableAt ← lift
    (if shouldRetry then policy.nextAvailableAt attempt now else .ok now)
  let failed ← JobRepository.fail claimed.execution.jobId workerId shouldRetry
    error availableAt now
  let _ ← OutboxRepository.append
    (eventFor uuid5 claimed failed.execution.state error availableAt now)
  AuditRepository.append
    (auditFor uuid5 claimed failed.execution.state.value error now)
  return failed

end JobRunner

/-- The job and attempt an event reports on. -/
def OutboxEvent.reports (event : OutboxEvent) : Option (String × ℕ) :=
  if event.eventType ∈ ["job.completed", "job.retry_scheduled", "job.failed"]
  then match event.payload.lookup "attempt" with
    | some (.number attempt) => some (event.aggregateId, attempt.toNat)
    | _ => none
  else none

@[simp] theorem JobRunner.reports_completionEvent (uuid5 : String → String)
    (completed : JobRecord) (output : Option String) (now : Instant) :
    (completionEvent uuid5 completed output now).reports =
      some (completed.execution.jobId, completed.execution.attempt) := by
  simp [OutboxEvent.reports, completionEvent, List.lookup_cons]

@[simp] theorem JobRunner.reports_eventFor (uuid5 : String → String)
    (claimed : JobRecord) (state : JobState) (error : String)
    (availableAt occurredAt : Instant) :
    (eventFor uuid5 claimed state error availableAt occurredAt).reports =
      some (claimed.execution.jobId, claimed.execution.attempt) := by
  unfold eventFor
  split_ifs <;> simp [OutboxEvent.reports, List.lookup_cons]

end ShemaPlatform
