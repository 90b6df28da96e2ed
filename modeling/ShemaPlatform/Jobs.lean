/-
Durable jobs: their records, the policy for retries, and what a row of the job
table keeps and becomes.
-/
import ShemaPlatform.Foundation

namespace ShemaPlatform

open Calendar

/-- `interval '1 second'` -/
def seconds (count : ℤ) : Instant := count * 1000000

inductive JobState where
  | queued | running | succeeded | retryableFailure | failed | cancelled
deriving DecidableEq, Repr

def JobState.value : JobState → String
  | .queued => "queued"
  | .running => "running"
  | .succeeded => "succeeded"
  | .retryableFailure => "retryable_failure"
  | .failed => "failed"
  | .cancelled => "cancelled"

/-- A lease on the job it is kept with. -/
structure JobLease where
  workerId : String
  leasedUntil : Instant
deriving DecidableEq

/-- One execution of a job; a running one has a lease. -/
structure JobExecution where
  jobId : String
  jobType : String
  attempt : ℕ
  state : JobState
  idempotencyKey : String
  lease : Option JobLease
  valid : 1 ≤ attempt ∧ (state = .running → lease.isSome)
deriving DecidableEq

structure JobRecord where
  execution : JobExecution
  payload : Payload
  availableAt : Instant
  lastError : Option String
deriving DecidableEq

/-- A job as it is first enqueued. -/
def JobRecord.queued (jobId jobType idempotencyKey : String) (payload : Payload)
    (availableAt : Instant) : JobRecord :=
  ⟨⟨jobId, jobType, 1, .queued, idempotencyKey, none, le_refl 1, nofun⟩, payload,
    availableAt, none⟩

/-- Bounded retries with doubling delays, in microseconds. -/
structure RetryPolicy where
  maxAttempts : ℕ
  initialDelay : ℤ
  maxDelay : ℤ
  valid : 1 ≤ maxAttempts ∧ 0 < initialDelay ∧ 0 < maxDelay

namespace RetryPolicy

def delayFor (policy : RetryPolicy) (attempt : ℕ) : ℤ :=
  min (policy.initialDelay * 2 ^ (attempt - 1)) policy.maxDelay

def isRetryable (policy : RetryPolicy) (attempt : ℕ) : Bool :=
  decide (attempt < policy.maxAttempts)

def nextAvailableAt (policy : RetryPolicy) (attempt : ℕ) (now : Instant) :
    Except Failure Instant := do
  require (policy.isRetryable attempt) (.valueError "retry limit reached")
  return now + policy.delayFor attempt

theorem delayFor_pos (policy : RetryPolicy) (attempt : ℕ) :
    0 < policy.delayFor attempt := by
  have hinitial := policy.valid.2.1
  have hmax := policy.valid.2.2
  rw [delayFor, lt_min_iff]
  constructor
  · exact Int.mul_pos hinitial (Int.pow_pos (by decide))
  · exact hmax

/-- A retry is always scheduled in the future. -/
theorem nextAvailableAt_eq_ok {policy : RetryPolicy} {attempt : ℕ}
    {now availableAt : Instant}
    (h : policy.nextAvailableAt attempt now = .ok availableAt) :
    attempt < policy.maxAttempts ∧ now < availableAt := by
  simp only [nextAvailableAt, bind_eq_ok, require_eq_ok, isRetryable,
    decide_eq_true_eq, pure_eq_ok] at h
  obtain ⟨_, hattempt, rfl⟩ := h
  have hdelay := policy.delayFor_pos attempt
  exact ⟨hattempt, by simpa using hdelay⟩

end RetryPolicy

/-- A row of `job_execution`, apart from its key.  The columns `worker_id` and
`lease_until` are set and cleared together. -/
structure JobRow where
  jobType : String
  attempt : ℕ
  state : JobState
  idempotencyKey : String
  payload : Payload
  availableAt : Instant
  lease : Option JobLease
  lastError : Option String
  createdAt : Instant
  valid : 1 ≤ attempt ∧ (state = .running → lease.isSome)

namespace JobRow

def ofRecord (record : JobRecord) (createdAt : Instant) : JobRow where
  jobType := record.execution.jobType
  attempt := record.execution.attempt
  state := record.execution.state
  idempotencyKey := record.execution.idempotencyKey
  payload := record.payload
  availableAt := record.availableAt
  lease := record.execution.lease
  lastError := record.lastError
  createdAt
  valid := record.execution.valid

/-- `_to_record` -/
def toRecord (jobId : String) (row : JobRow) : JobRecord where
  execution := ⟨jobId, row.jobType, row.attempt, row.state, row.idempotencyKey,
    row.lease, row.valid⟩
  payload := row.payload
  availableAt := row.availableAt
  lastError := row.lastError

/-- Due and not started, or running on a lease that has lapsed. -/
def claimable (now : Instant) (row : JobRow) : Bool :=
  match row.state with
  | .queued | .retryableFailure => decide (row.availableAt ≤ now)
  | .running =>
      match row.lease with
      | some lease => decide (lease.leasedUntil ≤ now)
      | none => false
  | _ => false

/-- The first claim of a new job keeps its attempt number. -/
def nextAttempt (row : JobRow) : ℕ :=
  if row.state = .queued ∧ row.attempt = 1 then row.attempt else row.attempt + 1

theorem nextAttempt_pos (row : JobRow) : 1 ≤ row.nextAttempt := by
  unfold nextAttempt
  split
  · exact row.valid.1
  · omega

def claimed (row : JobRow) (workerId : String) (leasedUntil : Instant) : JobRow :=
  { row with
    state := .running
    attempt := row.nextAttempt
    lease := some ⟨workerId, leasedUntil⟩
    lastError := none
    valid := ⟨row.nextAttempt_pos, fun _ => rfl⟩ }

/-- Running on an unexpired lease of this worker. -/
def heldBy (row : JobRow) (workerId : String) (now : Instant) : Bool :=
  match row.state, row.lease with
  | .running, some lease =>
      lease.workerId == workerId && decide (now < lease.leasedUntil)
  | _, _ => false

def renewed (row : JobRow) (workerId : String) (leasedUntil : Instant) : JobRow :=
  { row with
    lease := some ⟨workerId, leasedUntil⟩
    valid := ⟨row.valid.1, fun _ => rfl⟩ }

def completed (row : JobRow) : JobRow :=
  { row with
    state := .succeeded
    lease := none
    valid := ⟨row.valid.1, fun h => by simp at h⟩ }

def failed (row : JobRow) (retryable : Bool) (error : String)
    (availableAt : Instant) : JobRow :=
  { row with
    state := if retryable then .retryableFailure else .failed
    lease := none
    lastError := some error
    availableAt
    valid := ⟨row.valid.1, fun h => by cases retryable <;> simp at h⟩ }

theorem heldBy_eq_true {row : JobRow} {workerId : String} {now : Instant} :
    row.heldBy workerId now = true ↔ row.state = .running ∧
      ∃ leasedUntil, row.lease = some ⟨workerId, leasedUntil⟩ ∧
        now < leasedUntil := by
  unfold heldBy
  split
  · rename_i lease hstate hlease
    rw [hstate, hlease]
    simp only [Bool.and_eq_true, beq_iff_eq, decide_eq_true_eq, true_and]
    constructor
    · rintro ⟨rfl, hlive⟩
      exact ⟨lease.leasedUntil, rfl, hlive⟩
    · rintro ⟨leasedUntil, heq, hlive⟩
      obtain rfl := Option.some.inj heq
      exact ⟨rfl, hlive⟩
  · rename_i hnot
    simp only [Bool.false_eq_true, false_iff, not_and, not_exists]
    intro hstate leasedUntil hlease
    exact absurd hlease (hnot _ hstate)

/-- A running job may be claimed exactly when its lease no longer holds. -/
theorem claimable_running {row : JobRow} {lease : JobLease} {now : Instant}
    (hstate : row.state = .running) (hlease : row.lease = some lease) :
    row.claimable now = true ↔ lease.leasedUntil ≤ now := by
  simp [claimable, hstate, hlease]

theorem claimable_state {row : JobRow} {now : Instant}
    (h : row.claimable now = true) : row.state = .queued ∨
      row.state = .retryableFailure ∨ row.state = .running := by
  unfold claimable at h
  split at h
  · exact Or.inl ‹_›
  · exact Or.inr (Or.inl ‹_›)
  · exact Or.inr (Or.inr ‹_›)
  · simp at h

end JobRow

end ShemaPlatform
