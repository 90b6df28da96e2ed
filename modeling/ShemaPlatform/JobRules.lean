/-
What the job calls write.  An accepted call is one step of the lease on its
job, changes no other job, and adds at most its own event to the outbox.
-/
import ShemaPlatform.JobRunner
import ShemaPlatform.Lease
import ShemaPlatform.WorkRules

namespace ShemaPlatform

open Calendar ReadCommitted ReadCommitted.Prog

/-- The lease on a job.  A job that was never started is still at turn zero. -/
def JobRow.slot (row : JobRow) : Lease.Slot String Instant where
  turn := if row.state = .queued ∧ row.attempt = 1 then 0 else row.attempt
  held :=
    if row.state = .running then
      row.lease.map fun lease => (lease.workerId, lease.leasedUntil)
    else none

namespace JobRow

variable {row : JobRow} {workerId : String} {now leasedUntil : Instant}

theorem slot_claimed (row : JobRow) (workerId : String) (leasedUntil : Instant) :
    (row.claimed workerId leasedUntil).slot =
      ⟨row.nextAttempt, some (workerId, leasedUntil)⟩ := by
  simp [slot, claimed]

theorem slot_turn_lt (row : JobRow) : row.slot.turn < row.nextAttempt := by
  unfold slot nextAttempt
  split
  · exact row.valid.1
  · exact Nat.lt_succ_self _

theorem slot_heldBy (hheld : row.heldBy workerId now = true) :
    row.slot.turn = row.attempt ∧ ∃ leasedUntil,
      row.slot.held = some (workerId, leasedUntil) ∧ now < leasedUntil := by
  obtain ⟨hstate, leasedUntil, hlease, hlive⟩ := heldBy_eq_true.mp hheld
  constructor
  · simp [slot, hstate]
  · exact ⟨leasedUntil, by simp [slot, hstate, hlease], hlive⟩

theorem slot_eq_of_heldBy (hheld : row.heldBy workerId now = true) :
    ∃ leasedUntil, row.slot = ⟨row.attempt, some (workerId, leasedUntil)⟩ ∧
      now < leasedUntil := by
  obtain ⟨hturn, leasedUntil, hslot, hlive⟩ := slot_heldBy hheld
  exact ⟨leasedUntil, by rw [← hturn, ← hslot], hlive⟩

/-- A claim is a grant. -/
theorem step_claimed (hclaimable : row.claimable now = true) :
    Lease.Step row.slot (.grant workerId row.nextAttempt now leasedUntil)
      (row.claimed workerId leasedUntil).slot := by
  rw [slot_claimed]
  apply Lease.Step.grant
  · intro holder hholder
    unfold slot at hholder
    simp only [Option.mem_def, Option.ite_none_right_eq_some,
      Option.map_eq_some_iff] at hholder
    obtain ⟨hstate, lease, hlease, rfl⟩ := hholder
    exact (claimable_running hstate hlease).mp hclaimable
  · exact row.slot_turn_lt

/-- A renewal is an extension. -/
theorem step_renewed (hheld : row.heldBy workerId now = true) :
    Lease.Step row.slot (.extend workerId now leasedUntil)
      (row.renewed workerId leasedUntil).slot := by
  have hstate := (heldBy_eq_true.mp hheld).1
  obtain ⟨_, hslot, hlive⟩ := slot_eq_of_heldBy hheld
  have hslot' : (row.renewed workerId leasedUntil).slot =
      ⟨row.attempt, some (workerId, leasedUntil)⟩ := by
    simp [slot, renewed, hstate]
  rw [hslot, hslot']
  exact Lease.Step.extend hlive

theorem step_completed (hheld : row.heldBy workerId now = true) :
    Lease.Step row.slot (.release workerId row.attempt now) row.completed.slot := by
  obtain ⟨_, hslot, hlive⟩ := slot_eq_of_heldBy hheld
  have hslot' : row.completed.slot = ⟨row.attempt, none⟩ := by
    simp [slot, completed]
  rw [hslot, hslot']
  exact Lease.Step.release hlive

theorem step_failed (retryable : Bool) (error : String) (availableAt : Instant)
    (hheld : row.heldBy workerId now = true) :
    Lease.Step row.slot (.release workerId row.attempt now)
      (row.failed retryable error availableAt).slot := by
  obtain ⟨_, hslot, hlive⟩ := slot_eq_of_heldBy hheld
  have hslot' : (row.failed retryable error availableAt).slot =
      ⟨row.attempt, none⟩ := by
    cases retryable <;> simp [slot, failed]
  rw [hslot, hslot']
  exact Lease.Step.release hlive

end JobRow

/-- The lease on a job by name; an unknown job was never leased. -/
def slotAt (rows : WorkRows) (jobId : String) : Lease.Slot String Instant :=
  match jobAt rows jobId with
  | some row => row.slot
  | none => ⟨0, none⟩

theorem slotAt_eq {rows : WorkRows} {jobId : String} {row : JobRow}
    (hrow : jobAt rows jobId = some row) : slotAt rows jobId = row.slot := by
  simp [slotAt, hrow]

section Calls

variable {locked : LockedRows} {rows rows' own own' : WorkRows}

namespace JobRepository

/-- An accepted job is on record as it was enqueued. -/
theorem enqueue_eq_ok {record answer : JobRecord} {createdAt : Instant}
    (h : (enqueue record createdAt).atomically locked rows = .ok (answer, rows')) :
    ∃ row, jobAt rows' record.execution.jobId = some row ∧
      row.toRecord record.execution.jobId = record := by
  rw [atomically_eq_ok] at h
  obtain ⟨own, h, rfl⟩ := h
  simp only [enqueue, execute_bind_eq_ok, execute_insertNew] at h
  obtain ⟨inserted, between, hinsert, h⟩ := h
  cases hseen : Rows.get ([] ++ rows)
      (WorkKey.jobExecution record.execution.jobId) with
  | none =>
      simp only [hseen, Option.isNone_none, ↓reduceIte, Except.ok.injEq,
        Prod.mk.injEq] at hinsert
      obtain ⟨rfl, rfl⟩ := hinsert
      simp only [↓reduceIte, execute_bind_eq_ok, execute_insert_eq_ok,
        execute_pure_eq_ok] at h
      obtain ⟨_, _, ⟨_, rfl⟩, _, rfl⟩ := h
      refine ⟨JobRow.ofRecord record createdAt, ?_, rfl⟩
      exact (jobAt_key _ _ _).trans ((jobAt_job _ _ _).trans (if_pos rfl))
  | some existing =>
      simp only [hseen, Option.isNone_some, Bool.false_eq_true, ↓reduceIte,
        Except.ok.injEq, Prod.mk.injEq] at hinsert
      obtain ⟨rfl, rfl⟩ := hinsert
      simp only [Bool.false_eq_true, ↓reduceIte, get, execute_bind_eq_ok,
        execute_select, execute_pure_eq_ok, Except.ok.injEq, Prod.mk.injEq] at h
      obtain ⟨_, _, ⟨_, _, ⟨rfl, rfl⟩, rfl, rfl⟩, h⟩ := h
      simp only [hseen, Option.map_some, execute_bind_eq_ok, execute_lift_eq_ok,
        require_eq_ok, execute_pure_eq_ok] at h
      obtain ⟨_, _, ⟨hsame, rfl⟩, _, rfl⟩ := h
      exact ⟨existing, hseen, beq_iff_eq.mp hsame⟩

theorem mem_all {jobId : String} {row : JobRow} :
    (jobId, row) ∈ all rows ↔ jobAt rows jobId = some row := by
  rw [jobAt, ← Rows.mem_live, all, List.mem_filterMap]
  constructor
  · rintro ⟨⟨key, found⟩, hmem, heq⟩
    cases key with
    | jobExecution other =>
        simp only [Option.some.injEq, Prod.mk.injEq] at heq
        obtain ⟨rfl, rfl⟩ := heq
        exact hmem
    | jobIdempotencyKey _ => simp at heq
    | outboxEvent _ => simp at heq
    | auditLog _ => simp at heq
  · intro hmem
    exact ⟨_, hmem, rfl⟩

theorem candidate_eq_some {now : Instant} {jobId : String}
    (h : candidate now locked rows = some jobId) :
    ∃ row, jobAt rows jobId = some row ∧ row.claimable now = true := by
  simp only [candidate, Option.map_eq_some_iff] at h
  obtain ⟨⟨_, row⟩, hhead, rfl⟩ := h
  have hmem := List.mem_of_mem_head? hhead
  rw [List.mem_insertionSort, List.mem_filter, mem_all] at hmem
  simp only [Bool.and_eq_true] at hmem
  exact ⟨row, hmem.1, hmem.2.1⟩

theorem claimNext_eq_ok {workerId : String} {leaseSeconds : ℤ} {now : Instant}
    {answer : Option JobRecord}
    (h : (claimNext workerId leaseSeconds now).atomically locked rows =
      .ok (answer, rows')) :
    (answer = none ∧ rows' = rows) ∨ ∃ jobId row,
      candidate now locked rows = some jobId ∧ jobAt rows jobId = some row ∧
      row.claimable now = true ∧
      answer = some
        ((row.claimed workerId (now + seconds leaseSeconds)).toRecord jobId) ∧
      rows' = ⟨WorkKey.jobExecution jobId,
        some (row.claimed workerId (now + seconds leaseSeconds))⟩ :: rows := by
  rw [atomically_eq_ok] at h
  obtain ⟨own, h, rfl⟩ := h
  simp only [claimNext, execute_bind_eq_ok, execute_lift_eq_ok] at h
  obtain ⟨_, _, ⟨_, rfl⟩, _, _, ⟨_, rfl⟩, found, _, hquery, h⟩ := h
  obtain ⟨rfl, rfl⟩ := Prod.mk.inj (Except.ok.inj hquery)
  cases hcandidate : candidate now locked ([] ++ rows) with
  | none =>
      simp only [hcandidate, execute_pure_eq_ok] at h
      obtain ⟨rfl, rfl⟩ := h
      exact Or.inl ⟨rfl, rfl⟩
  | some jobId =>
      obtain ⟨row, hrow, hclaimable⟩ := candidate_eq_some hcandidate
      simp only [hcandidate, execute_bind_eq_ok, execute_updateWhere,
        execute_pure_eq_ok] at h
      obtain ⟨_, _, hupdate, rfl, rfl⟩ := h
      simp only [jobAt] at hrow
      simp only [hrow, Option.bind_some, Except.ok.injEq, Prod.mk.injEq] at hupdate
      obtain ⟨rfl, rfl⟩ := hupdate
      exact Or.inr ⟨jobId, row, hcandidate, hrow, hclaimable, rfl, rfl⟩

/-- An update of a job the worker holds. -/
theorem updateHeld_eq_ok {jobId workerId : String} {now : Instant}
    {change : JobRow → JobRow} {rejected : Failure} {record : JobRecord}
    (h : (updateWhere (WorkKey.jobExecution jobId) (fun (row : JobRow) =>
        if row.heldBy workerId now then some (change row) else none) >>= fun
          | none => raise rejected
          | some row => Pure.pure (row.toRecord jobId) :
        WorkTx JobRecord).execute locked rows own = .ok (record, own')) :
    ∃ row, jobAt (own ++ rows) jobId = some row ∧
      row.heldBy workerId now = true ∧ record = (change row).toRecord jobId ∧
      own' = ⟨WorkKey.jobExecution jobId, some (change row)⟩ :: own := by
  simp only [execute_bind_eq_ok, execute_updateWhere] at h
  obtain ⟨updated, _, hupdate, h⟩ := h
  cases hrow : Rows.get (own ++ rows) (WorkKey.jobExecution jobId) with
  | none =>
      simp only [hrow, Option.bind_none, Except.ok.injEq, Prod.mk.injEq] at hupdate
      obtain ⟨rfl, rfl⟩ := hupdate
      simp [execute] at h
  | some row =>
      by_cases hheld : row.heldBy workerId now = true
      · simp only [hrow, Option.bind_some, hheld, ↓reduceIte, Except.ok.injEq,
          Prod.mk.injEq] at hupdate
        obtain ⟨rfl, rfl⟩ := hupdate
        simp only [execute_pure_eq_ok] at h
        obtain ⟨rfl, rfl⟩ := h
        exact ⟨row, hrow, hheld, rfl, rfl⟩
      · simp only [hrow, Option.bind_some, hheld, Bool.false_eq_true, ↓reduceIte,
          Except.ok.injEq, Prod.mk.injEq] at hupdate
        obtain ⟨rfl, rfl⟩ := hupdate
        simp [execute] at h

theorem renew_eq_ok {jobId workerId : String} {leaseSeconds : ℤ} {now : Instant}
    {record : JobRecord}
    (h : (renew jobId workerId leaseSeconds now).atomically locked rows =
      .ok (record, rows')) :
    ∃ row, jobAt rows jobId = some row ∧ row.heldBy workerId now = true ∧
      record =
        (row.renewed workerId (now + seconds leaseSeconds)).toRecord jobId ∧
      rows' = ⟨WorkKey.jobExecution jobId,
        some (row.renewed workerId (now + seconds leaseSeconds))⟩ :: rows := by
  rw [atomically_eq_ok] at h
  obtain ⟨own, h, rfl⟩ := h
  simp only [renew, execute_bind_eq_ok, execute_lift_eq_ok] at h
  obtain ⟨_, _, ⟨_, rfl⟩, _, _, ⟨_, rfl⟩, h⟩ := h
  rw [← execute_bind_eq_ok] at h
  obtain ⟨row, hrow, hheld, hrecord, rfl⟩ := updateHeld_eq_ok h
  exact ⟨row, hrow, hheld, hrecord, rfl⟩

end JobRepository

/-- One job changed, and one event on record that was added now or before. -/
structure Reported (rows rows' : WorkRows) (jobId : String) (row : JobRow)
    (event : OutboxEvent) : Prop where
  job_eq : ∀ other, jobAt rows' other =
    if jobId = other then some row else jobAt rows other
  event_mem : ∃ kept, eventAt rows' event.eventId = some kept ∧ kept.event = event
  event_eq : ∀ eventId, eventAt rows' eventId = eventAt rows eventId ∨
    eventId = event.eventId

namespace JobRunner

variable {uuid5 : String → String}

/-- What follows the update of the job in both reports. -/
theorem reported_of_execute {jobId : String} {row : JobRow} {event : OutboxEvent}
    {audit : AuditRecord} {record result : JobRecord}
    (h : (OutboxRepository.append event >>= fun _ =>
        AuditRepository.append audit >>= fun _ => Pure.pure record :
        WorkTx JobRecord).execute locked rows
          [⟨WorkKey.jobExecution jobId, some row⟩] = .ok (result, own')) :
    result = record ∧ Reported rows (own' ++ rows) jobId row event := by
  simp only [execute_bind_eq_ok, execute_pure_eq_ok] at h
  obtain ⟨kept, between, hevent, _, _, haudit, rfl, rfl⟩ := h
  obtain rfl := AuditRepository.append_eq_ok haudit
  obtain ⟨hkept, ⟨_, _, rfl⟩ | ⟨hold, rfl⟩⟩ :=
    OutboxRepository.append_eq_ok hevent
  · constructor
    · rfl
    · constructor
      · intro other
        simp
      · exact ⟨kept, by simp, hkept⟩
      · intro eventId
        by_cases hsame : event.eventId = eventId
        · exact Or.inr hsame.symm
        · simp [hsame]
  · constructor
    · rfl
    · constructor
      · intro other
        simp
      · exact ⟨kept, by simpa using hold, hkept⟩
      · intro eventId
        simp

theorem complete_eq_ok {jobId workerId : String} {now : Instant}
    {output : Option String} {record : JobRecord}
    (h : (complete uuid5 jobId workerId now output).atomically locked rows =
      .ok (record, rows')) :
    ∃ row, jobAt rows jobId = some row ∧ row.heldBy workerId now = true ∧
      record = row.completed.toRecord jobId ∧
      Reported rows rows' jobId row.completed
        (completionEvent uuid5 record output now) := by
  rw [atomically_eq_ok] at h
  obtain ⟨own, h, rfl⟩ := h
  rw [complete, execute_bind_eq_ok] at h
  obtain ⟨completed, between, hcomplete, h⟩ := h
  obtain ⟨row, hrow, hheld, rfl, rfl⟩ := JobRepository.updateHeld_eq_ok hcomplete
  obtain ⟨rfl, hreported⟩ := reported_of_execute h
  exact ⟨row, hrow, hheld, rfl, hreported⟩

theorem recordFailure_eq_ok {policy : RetryPolicy} {workerId : String}
    {claimed : JobRecord} {error : String} {retryable : Bool} {now : Instant}
    {record : JobRecord}
    (h : (recordFailure uuid5 policy workerId claimed error retryable
      now).atomically locked rows = .ok (record, rows')) :
    ∃ row availableAt, jobAt rows claimed.execution.jobId = some row ∧
      row.heldBy workerId now = true ∧
      record = (row.failed
        (retryable && policy.isRetryable claimed.execution.attempt) error
        availableAt).toRecord claimed.execution.jobId ∧
      Reported rows rows' claimed.execution.jobId
        (row.failed (retryable && policy.isRetryable claimed.execution.attempt)
          error availableAt)
        (eventFor uuid5 claimed record.execution.state error availableAt now) := by
  rw [atomically_eq_ok] at h
  obtain ⟨own, h, rfl⟩ := h
  simp only [recordFailure] at h
  rw [execute_bind_eq_ok] at h
  obtain ⟨availableAt, _, havailable, h⟩ := h
  obtain ⟨_, rfl⟩ := execute_lift_eq_ok.mp havailable
  rw [execute_bind_eq_ok] at h
  obtain ⟨failed, between, hfail, h⟩ := h
  rw [JobRepository.fail, execute_bind_eq_ok] at hfail
  obtain ⟨_, _, herror, hfail⟩ := hfail
  obtain ⟨_, rfl⟩ := execute_lift_eq_ok.mp herror
  obtain ⟨row, hrow, hheld, rfl, rfl⟩ := JobRepository.updateHeld_eq_ok hfail
  obtain ⟨rfl, hreported⟩ := reported_of_execute h
  exact ⟨row, availableAt, hrow, hheld, rfl, hreported⟩

end JobRunner

end Calls

end ShemaPlatform
