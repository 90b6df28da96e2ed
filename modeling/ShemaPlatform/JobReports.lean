/-
What the report of a run writes: a finished job, an event and an audit record,
under ids made from the job and its attempt; and when the report is accepted.
-/
import ShemaPlatform.HandlerOutcomes

namespace ShemaPlatform

open Calendar ReadCommitted ReadCommitted.Prog SafeErrors DigitText

/-- The job and attempt an audit record is about. -/
def AuditRecord.reports (record : AuditRecord) : Option (String × ℕ) :=
  if record.action ∈ ["job.completed", "job.failure"] then
    match record.metadata.lookup "attempt" with
    | some (.number attempt) => some (record.resourceId, attempt.toNat)
    | _ => none
  else none

def auditAt (rows : WorkRows) (auditId : String) : Option AuditRecord :=
  rows.get (WorkKey.auditLog auditId)

section Names

/-- What the ids of events about an attempt are made from. -/
def eventNames (jobId : String) (attempt : ℕ) : List String :=
  [s!"job.completed:{jobId}:{attempt}", s!"job.retry_scheduled:{jobId}:{attempt}",
    s!"job.failed:{jobId}:{attempt}"]

def auditNames (jobId : String) (attempt : ℕ) : List String :=
  [s!"audit:job.completed:{jobId}:{attempt}", s!"audit:job.failure:{jobId}:{attempt}"]

/-- The end of a name. -/
def attemptLabel (jobId : String) (attempt : ℕ) : List Char :=
  jobId.toList ++ ':' :: Nat.toDigits 10 attempt

theorem attemptLabel_inj {jobId jobId' : String} {attempt attempt' : ℕ}
    (h : attemptLabel jobId attempt = attemptLabel jobId' attempt') :
    jobId = jobId' ∧ attempt = attempt' := by
  have hreverse := congrArg List.reverse h
  simp only [attemptLabel, List.reverse_append, List.reverse_cons, List.append_assoc,
    List.singleton_append] at hreverse
  have hdigits : ∀ n, ∀ c ∈ (Nat.toDigits 10 n).reverse, c.isDigit = true :=
    fun n c hc => isDigit_of_mem (List.mem_reverse.mp hc)
  obtain ⟨hattempt, hjob⟩ := digits_append_inj (hdigits attempt) (hdigits attempt')
    (by simp) (by simp) hreverse
  constructor
  · exact String.toList_inj.mp (List.reverse_injective (List.cons.inj hjob).2)
  · have hsame := List.reverse_injective hattempt
    exact (toDigits_append_inj stops_nil stops_nil (by rw [hsame])).1

theorem eventNames_inj {name jobId jobId' : String} {attempt attempt' : ℕ}
    (h : name ∈ eventNames jobId attempt) (h' : name ∈ eventNames jobId' attempt') :
    jobId = jobId' ∧ attempt = attempt' := by
  simp only [eventNames, List.mem_cons, List.not_mem_nil, or_false] at h h'
  apply attemptLabel_inj
  rcases h with rfl | rfl | rfl <;> rcases h' with h' | h' | h' <;>
    simpa [toString, Nat.repr, attemptLabel] using congrArg String.toList h'

theorem auditNames_inj {name jobId jobId' : String} {attempt attempt' : ℕ}
    (h : name ∈ auditNames jobId attempt) (h' : name ∈ auditNames jobId' attempt') :
    jobId = jobId' ∧ attempt = attempt' := by
  simp only [auditNames, List.mem_cons, List.not_mem_nil, or_false] at h h'
  apply attemptLabel_inj
  rcases h with rfl | rfl <;> rcases h' with h' | h' <;>
    simpa [toString, Nat.repr, attemptLabel] using congrArg String.toList h'

end Names

/-- An event or an audit record about an attempt. -/
def OnRecord (rows : WorkRows) (jobId : String) (attempt : ℕ) : Prop :=
  (∃ eventId row, eventAt rows eventId = some row ∧
    row.event.reports = some (jobId, attempt)) ∨
  ∃ auditId record, auditAt rows auditId = some record ∧
    record.reports = some (jobId, attempt)

/-- An event and an audit record about an attempt, under ids made from it. -/
structure Tells (uuid5 : String → String) (jobId : String) (attempt : ℕ)
    (event : OutboxEvent) (audit : AuditRecord) : Prop where
  event_id : ∃ name ∈ eventNames jobId attempt, event.eventId = uuid5 name
  audit_id : ∃ name ∈ auditNames jobId attempt, audit.auditId = uuid5 name
  event_reports : event.reports = some (jobId, attempt)
  audit_reports : audit.reports = some (jobId, attempt)

/-- What a report writes. -/
def reportRows (jobId : String) (row : JobRow) (event : OutboxEvent) (audit : AuditRecord) :
    WorkRows :=
  [⟨WorkKey.auditLog audit.auditId, some audit⟩,
    ⟨WorkKey.outboxEvent event.eventId, some ⟨event, none, 0, none⟩⟩,
    ⟨WorkKey.jobExecution jobId, some row⟩]

/-- A finished job with its report, whose event may have been there. -/
inductive Written (jobId : String) (row : JobRow) (event : OutboxEvent)
    (audit : AuditRecord) (rows : WorkRows) : WorkRows → Prop where
  | added : Written jobId row event audit rows (reportRows jobId row event audit ++ rows)
  | present (kept : OutboxRow) (hkept : eventAt rows event.eventId = some kept)
      (hsame : kept.event = event) : Written jobId row event audit rows
        (⟨WorkKey.auditLog audit.auditId, some audit⟩ ::
          ⟨WorkKey.jobExecution jobId, some row⟩ :: rows)

section Reading

variable {rows : WorkRows}

@[simp] theorem auditAt_audit (auditId other : String) (row : Option AuditRecord) :
    auditAt (⟨WorkKey.auditLog auditId, row⟩ :: rows) other =
      if auditId = other then row else auditAt rows other := by
  by_cases hsame : auditId = other
  · subst hsame
    simp [auditAt]
  · simp [auditAt, hsame]

@[simp] theorem auditAt_job (jobId auditId : String) (row : Option JobRow) :
    auditAt (⟨WorkKey.jobExecution jobId, row⟩ :: rows) auditId = auditAt rows auditId := by
  simp [auditAt]

@[simp] theorem auditAt_event (eventId auditId : String) (row : Option OutboxRow) :
    auditAt (⟨WorkKey.outboxEvent eventId, row⟩ :: rows) auditId = auditAt rows auditId := by
  simp [auditAt]

end Reading

section Written

variable {jobId : String} {row : JobRow} {event : OutboxEvent} {audit : AuditRecord}
  {rows rows' : WorkRows}

theorem Written.jobAt_eq (h : Written jobId row event audit rows rows') (other : String) :
    jobAt rows' other = if jobId = other then some row else jobAt rows other := by
  cases h with
  | added => simp [reportRows]
  | present kept hkept hsame => simp

theorem Written.auditAt_eq (h : Written jobId row event audit rows rows') (auditId : String) :
    auditAt rows' auditId =
      if audit.auditId = auditId then some audit else auditAt rows auditId := by
  cases h with
  | added => simp [reportRows]
  | present kept hkept hsame => simp

theorem Written.eventAt_self (h : Written jobId row event audit rows rows') :
    ∃ kept, eventAt rows' event.eventId = some kept ∧ kept.event = event := by
  cases h with
  | added => exact ⟨⟨event, none, 0, none⟩, by simp [reportRows], rfl⟩
  | present kept hkept hsame => exact ⟨kept, by simpa using hkept, hsame⟩

theorem Written.eventAt_other (h : Written jobId row event audit rows rows')
    {eventId : String} (hother : event.eventId ≠ eventId) :
    eventAt rows' eventId = eventAt rows eventId := by
  cases h with
  | added => simp [reportRows, hother]
  | present kept hkept hsame => simp

/-- A report puts no other attempt on record. -/
theorem Written.onRecord {uuid5 : String → String} {attempt other : ℕ} {otherId : String}
    (h : Written jobId row event audit rows rows')
    (htells : Tells uuid5 jobId attempt event audit) (hrecord : OnRecord rows' otherId other) :
    OnRecord rows otherId other ∨ (jobId = otherId ∧ attempt = other) := by
  rcases hrecord with ⟨eventId, found, hfound, hreports⟩ | ⟨auditId, found, hfound, hreports⟩
  · by_cases hid : event.eventId = eventId
    · subst hid
      obtain ⟨kept, hkept, hsame⟩ := h.eventAt_self
      obtain rfl := Option.some.inj (hkept.symm.trans hfound)
      rw [hsame, htells.event_reports] at hreports
      exact Or.inr (by simpa using hreports)
    · rw [h.eventAt_other hid] at hfound
      exact Or.inl (Or.inl ⟨eventId, found, hfound, hreports⟩)
  · rw [h.auditAt_eq] at hfound
    split_ifs at hfound
    · obtain rfl := Option.some.inj hfound
      rw [htells.audit_reports] at hreports
      exact Or.inr (by simpa using hreports)
    · exact Or.inl (Or.inr ⟨auditId, found, hfound, hreports⟩)

end Written

section Reports

variable {uuid5 : String → String} {dumps : PyMapping → String}
  {urlsplit : PyStr → Option SplitUrl} {rows rows' own' : WorkRows} {locked : LockedRows}

theorem tells_completion (uuid5 : String → String) (completed : JobRecord)
    (text : Option String) (workerId : String) (now : Instant) : Tells uuid5 completed.execution.jobId completed.execution.attempt
      (JobRunner.completionEvent uuid5 completed text now)
      (JobRunner.completionAudit uuid5 completed workerId now) := by
  constructor
  · exact ⟨_, List.mem_cons_self, rfl⟩
  · exact ⟨_, List.mem_cons_self, rfl⟩
  · exact JobRunner.reports_completionEvent uuid5 completed text now
  · simp [AuditRecord.reports, JobRunner.completionAudit]

theorem tells_failure (uuid5 : String → String) (claimed : JobRecord) (state : JobState)
    (error : String) (availableAt now : Instant) : Tells uuid5 claimed.execution.jobId
      claimed.execution.attempt
      (JobRunner.eventFor uuid5 claimed state error availableAt now)
      (JobRunner.auditFor uuid5 claimed state.value error now) := by
  constructor
  · by_cases hretry : state = .retryableFailure
    · refine ⟨s!"job.retry_scheduled:{claimed.execution.jobId}:{claimed.execution.attempt}",
        by simp [eventNames], ?_⟩
      rw [JobRunner.eventFor, if_pos hretry]
      rfl
    · refine ⟨s!"job.failed:{claimed.execution.jobId}:{claimed.execution.attempt}",
        by simp [eventNames], ?_⟩
      rw [JobRunner.eventFor, if_neg hretry]
      rfl
  · exact ⟨s!"audit:job.failure:{claimed.execution.jobId}:{claimed.execution.attempt}",
      by simp [auditNames], rfl⟩
  · exact JobRunner.reports_eventFor uuid5 claimed state error availableAt now
  · simp [AuditRecord.reports, JobRunner.auditFor]

/-- What follows the update of the job, where it succeeds. -/
theorem written_of_execute {jobId : String} {row : JobRow} {event : OutboxEvent}
    {audit : AuditRecord} {record result : JobRecord}
    (h : (OutboxRepository.append event >>= fun _ =>
        AuditRepository.append audit >>= fun _ => Pure.pure record :
        WorkTx JobRecord).execute locked rows
          [⟨WorkKey.jobExecution jobId, some row⟩] = .ok (result, own')) :
    Written jobId row event audit rows (own' ++ rows) := by
  simp only [execute_bind_eq_ok, execute_pure_eq_ok] at h
  obtain ⟨kept, between, hevent, _, _, haudit, _, rfl⟩ := h
  obtain rfl := AuditRepository.append_eq_ok haudit
  obtain ⟨hkept, ⟨_, rfl, rfl⟩ | ⟨hold, rfl⟩⟩ := OutboxRepository.append_eq_ok hevent
  · exact .added
  · exact .present kept (by simpa using hold) hkept

/-- It succeeds under ids that are free. -/
theorem execute_report {jobId : String} {row : JobRow} {event : OutboxEvent}
    {audit : AuditRecord} {record : JobRecord}
    (hevent : eventAt rows event.eventId = none) (haudit : auditAt rows audit.auditId = none)
    (hnew : audit.new = .ok audit) :
    (OutboxRepository.append event >>= fun _ =>
        AuditRepository.append audit >>= fun _ => Pure.pure record :
        WorkTx JobRecord).execute locked rows
          [⟨WorkKey.jobExecution jobId, some row⟩] =
      .ok (record, reportRows jobId row event audit) := by
  have hinsert : (OutboxRepository.append event).execute locked rows
      [⟨WorkKey.jobExecution jobId, some row⟩] = .ok (⟨event, none, 0, none⟩,
        [⟨WorkKey.outboxEvent event.eventId, some ⟨event, none, 0, none⟩⟩,
          ⟨WorkKey.jobExecution jobId, some row⟩]) := by
    have hfree : Rows.get ([⟨WorkKey.jobExecution jobId, some row⟩] ++ rows)
        (WorkKey.outboxEvent event.eventId) = none := by
      rw [List.singleton_append, Rows.get_cons_ne (by simp)]
      exact hevent
    rw [OutboxRepository.append, execute_bind, execute_insertNew, hfree]
    rfl
  have hrecord : (AuditRepository.append audit).execute locked rows
      [⟨WorkKey.outboxEvent event.eventId, some ⟨event, none, 0, none⟩⟩,
        ⟨WorkKey.jobExecution jobId, some row⟩] =
        .ok ((), reportRows jobId row event audit) := by
    rw [AuditRepository.append, hnew, execute_bind, execute_lift_ok]
    apply execute_insert_eq_ok.mpr
    constructor
    · simpa [auditAt] using haudit
    · rfl
  rw [execute_bind, hinsert]
  simp only
  rw [execute_bind, hrecord]
  rfl

/-- A job that the worker holds is updated. -/
theorem completeJob_execute {jobId workerId : String} {now : Instant} {row : JobRow}
    (hrow : jobAt rows jobId = some row) (hheld : row.heldBy workerId now = true) :
    (JobRepository.complete jobId workerId now).execute locked rows [] =
      .ok (row.completed.toRecord jobId,
        [⟨WorkKey.jobExecution jobId, some row.completed⟩]) := by
  have hget : Rows.get ([] ++ rows) (WorkKey.jobExecution jobId) = some row := hrow
  rw [JobRepository.complete, execute_bind, execute_updateWhere, hget, Option.bind_some,
    if_pos hheld]
  rfl

theorem failJob_execute {jobId workerId error : String} {retryable : Bool}
    {availableAt now : Instant} {row : JobRow} (herror : PyText.blank error = false)
    (hrow : jobAt rows jobId = some row) (hheld : row.heldBy workerId now = true) :
    (JobRepository.fail jobId workerId retryable error availableAt now).execute locked
        rows [] = .ok ((row.failed retryable error availableAt).toRecord jobId,
          [⟨WorkKey.jobExecution jobId, some (row.failed retryable error availableAt)⟩]) := by
  have hget : Rows.get ([] ++ rows) (WorkKey.jobExecution jobId) = some row := hrow
  rw [JobRepository.fail, herror, execute_bind]
  simp only [require, Bool.not_false, ↓reduceIte, execute_lift_ok]
  rw [execute_bind, execute_updateWhere, hget, Option.bind_some, if_pos hheld]
  rfl

theorem atomically_of_execute {p : WorkTx JobRecord} {record : JobRecord}
    (h : p.execute locked rows [] = .ok (record, own')) :
    p.atomically locked rows = .ok (record, own' ++ rows) :=
  atomically_eq_ok.mpr ⟨own', h, rfl⟩

/-- Rows under which a report about an attempt is not in the way of another one. -/
def Free (uuid5 : String → String) (rows : WorkRows) (jobId : String) (attempt : ℕ) : Prop :=
  ∀ event audit, Tells uuid5 jobId attempt event audit →
    eventAt rows event.eventId = none ∧ auditAt rows audit.auditId = none

theorem audit_accepted {record : AuditRecord} (hid : PyText.blank record.auditId = false)
    (hactor : PyText.blank record.actorId = false)
    (haction : PyText.blank record.action = false)
    (hresource : PyText.blank record.resourceType = false)
    (houtcome : PyText.blank record.outcome = false) : record.new = .ok record := by
  rw [AuditRecord.new, hid, hactor, haction, hresource, houtcome]
  rfl

/-- The words of the audit records. -/
theorem blank_of_mem {word : String} (hword : word ∈ ["job", "job.completed", "job.failure",
    "success", "retryable_failure", "failed"]) : PyText.blank word = false := by
  have hwords : ∀ word ∈ ["job", "job.completed", "job.failure", "success",
      "retryable_failure", "failed"], PyText.blank word = false := by
    decide
  exact hwords word hword

variable (hids : ∀ name, PyText.blank (uuid5 name) = false)

include hids

/-- A completion of a job that is held, under ids that are free. -/
theorem completeWith_atomically {jobId workerId : String} {now : Instant} {row : JobRow}
    {output : Option PyMapping} {text : Option String}
    (hworker : PyText.blank workerId = false) (hrow : jobAt rows jobId = some row)
    (hheld : row.heldBy workerId now = true) (hfree : Free uuid5 rows jobId row.attempt)
    (htext : JobRunner.encodeOutput dumps output = .ok text) :
    ∃ event audit rows', Tells uuid5 jobId row.attempt event audit ∧
      Written jobId row.completed event audit rows rows' ∧
      (JobRunner.completeWith uuid5 dumps jobId workerId now output).atomically locked rows =
        .ok (row.completed.toRecord jobId, rows') := by
  have htells := tells_completion uuid5 (row.completed.toRecord jobId) text workerId now
  obtain ⟨hevent, haudit⟩ := hfree _ _ htells
  have hnew : (JobRunner.completionAudit uuid5 (row.completed.toRecord jobId) workerId
      now).new = .ok (JobRunner.completionAudit uuid5 (row.completed.toRecord jobId) workerId
        now) :=
    audit_accepted (hids _) hworker (blank_of_mem (by simp [JobRunner.completionAudit]))
      (blank_of_mem (by simp [JobRunner.completionAudit]))
      (blank_of_mem (by simp [JobRunner.completionAudit]))
  refine ⟨_, _, _, htells, .added, ?_⟩
  apply atomically_of_execute
  rw [JobRunner.completeWith, execute_bind, completeJob_execute hrow hheld]
  simp only [htext]
  rw [execute_bind, execute_lift_ok]
  exact execute_report hevent haudit hnew

/-- A failure of a job that is held, under ids that are free. -/
theorem recordFailure_atomically {policy : RetryPolicy} {workerId text : String}
    {claimed : JobRecord} {retryable : Bool} {now leasedUntil : Instant} {row : JobRow}
    (hworker : PyText.blank workerId = false)
    (hclaimed : claimed.execution.lease = some ⟨workerId, leasedUntil⟩)
    (hrow : jobAt rows claimed.execution.jobId = some row)
    (hheld : row.heldBy workerId now = true)
    (hfree : Free uuid5 rows claimed.execution.jobId claimed.execution.attempt)
    (htext : PyText.blank text = false) :
    ∃ event audit rows' availableAt, Tells uuid5 claimed.execution.jobId
        claimed.execution.attempt event audit ∧
      Written claimed.execution.jobId (row.failed (retryable &&
        policy.isRetryable claimed.execution.attempt) text availableAt) event audit rows rows' ∧
      (JobRunner.recordFailure uuid5 policy workerId claimed text retryable now).atomically
        locked rows = .ok ((row.failed (retryable &&
          policy.isRetryable claimed.execution.attempt) text availableAt).toRecord
            claimed.execution.jobId, rows') := by
  obtain ⟨availableAt, havailable⟩ : ∃ availableAt,
      (if retryable && policy.isRetryable claimed.execution.attempt then
        policy.nextAvailableAt claimed.execution.attempt now else .ok now) =
          .ok availableAt := by
    by_cases hretry : (retryable && policy.isRetryable claimed.execution.attempt) = true
    · have hleft := (Bool.and_eq_true_iff.mp hretry).2
      rw [if_pos hretry, RetryPolicy.nextAvailableAt, hleft]
      exact ⟨_, rfl⟩
    · exact ⟨now, if_neg hretry⟩
  have htells := tells_failure uuid5 claimed (if retryable &&
    policy.isRetryable claimed.execution.attempt then .retryableFailure else .failed) text
      availableAt now
  obtain ⟨hevent, haudit⟩ := hfree _ _ htells
  refine ⟨_, _, _, availableAt, htells, .added, ?_⟩
  apply atomically_of_execute
  have hactor : PyText.blank ((claimed.execution.lease.map JobLease.workerId).getD "worker") =
      false := by
    rw [hclaimed]
    exact hworker
  have haccepted : PyText.blank (if retryable && policy.isRetryable claimed.execution.attempt
      then JobState.retryableFailure else .failed).value = false := by
    split_ifs
    · exact blank_of_mem (by simp [JobState.value])
    · exact blank_of_mem (by simp [JobState.value])
  have hnew : (JobRunner.auditFor uuid5 claimed _ text now).new = .ok _ :=
    audit_accepted (hids _) hactor (blank_of_mem (by simp [JobRunner.auditFor]))
      (blank_of_mem (by simp [JobRunner.auditFor])) haccepted
  simp only [JobRunner.recordFailure, havailable]
  rw [execute_bind, execute_lift_ok]
  simp only
  rw [execute_bind, failJob_execute htext hrow hheld]
  exact execute_report hevent haudit hnew

end Reports

section Rejected

variable {uuid5 : String → String} {dumps : PyMapping → String} {rows rows' : WorkRows}
  {locked : LockedRows}

theorem ofList_blank (chars : List Char) :
    PyText.blank (String.ofList chars) = chars.all PyText.isSpace := by
  rw [PyText.blank, String.toList_ofList]

theorem blank_encode {text : PyStr} {chars : List Char} (h : text.encode = .ok chars) :
    chars.all PyText.isSpace = text.blank := by
  induction text generalizing chars with
  | nil =>
      obtain rfl := Except.ok.inj h
      rfl
  | cons c rest ih =>
      cases c with
      | scalar c =>
          simp only [PyStr.encode, bind_eq_ok, pure_eq_ok] at h
          obtain ⟨tail, htail, rfl⟩ := h
          rw [List.all_cons, ih htail]
          rfl
      | surrogate unit => cases h

theorem blank_stored {text : PyStr} {kept : String} (h : text.stored = .ok kept) :
    PyText.blank kept = text.blank := by
  simp only [PyStr.stored, bind_eq_ok, pure_eq_ok] at h
  obtain ⟨_, _, chars, hchars, rfl⟩ := h
  rw [ofList_blank, blank_encode hchars]

/-- A text that `jobs.fail` accepts and that can be stored. -/
def PyStr.kept (text : PyStr) : Bool := !text.blank && text.storable

theorem storable_iff {text : PyStr} : text.storable = true ↔ ∃ kept, text.stored = .ok kept := by
  rw [PyStr.storable]
  cases text.stored with
  | error failure => simp [Except.toBool]
  | ok kept => simp [Except.toBool]

/-- A failure is recorded where its text can be kept and the job can be scheduled. -/
theorem failWith_eq_ok {policy : RetryPolicy} {workerId : String} {claimed record : JobRecord}
    {error : PyStr} {retryable : Bool} {now : Instant} :
    (JobRunner.failWith uuid5 policy workerId claimed error retryable now).atomically locked
        rows = .ok (record, rows') ↔
      ((retryable && policy.isRetryable claimed.execution.attempt) = true →
        policy.schedulable claimed.execution.attempt now = true) ∧ error.blank = false ∧
      ∃ text, error.stored = .ok text ∧
        (JobRunner.recordFailure uuid5 policy workerId claimed text retryable now).atomically
          locked rows = .ok (record, rows') := by
  simp only [atomically_eq_ok, JobRunner.failWith, execute_bind_eq_ok, execute_lift_eq_ok,
    require_eq_ok]
  constructor
  · rintro ⟨own, ⟨_, _, ⟨hschedule, rfl⟩, _, _, ⟨hblank, rfl⟩, text, _, ⟨htext, rfl⟩,
      hdone⟩, hrows⟩
    refine ⟨?_, by simpa using hblank, text, htext, own, hdone, hrows⟩
    intro hretry
    rw [hretry] at hschedule
    simpa using hschedule
  · rintro ⟨hschedule, hblank, text, htext, own, hdone, hrows⟩
    refine ⟨own, ⟨(), [], ⟨?_, rfl⟩, (), [], ⟨by rw [hblank]; rfl, rfl⟩, text, [],
      ⟨htext, rfl⟩, hdone⟩, hrows⟩
    cases hretry : (retryable && policy.isRetryable claimed.execution.attempt) with
    | false => rfl
    | true =>
        rw [hschedule hretry]
        rfl

/-- A completion is recorded where its output is a value of JSON. -/
theorem completeWith_eq_ok {jobId workerId : String} {now : Instant}
    {output : Option PyMapping} {record : JobRecord}
    (h : (JobRunner.completeWith uuid5 dumps jobId workerId now output).atomically locked rows =
      .ok (record, rows')) :
    (∃ text, JobRunner.encodeOutput dumps output = .ok text) ∧
    ∃ row event audit, jobAt rows jobId = some row ∧ row.heldBy workerId now = true ∧
      Tells uuid5 jobId row.attempt event audit ∧
      Written jobId row.completed event audit rows rows' := by
  rw [atomically_eq_ok] at h
  obtain ⟨own, h, rfl⟩ := h
  rw [JobRunner.completeWith, execute_bind_eq_ok] at h
  obtain ⟨completed, between, hcomplete, h⟩ := h
  obtain ⟨row, hrow, hheld, rfl, rfl⟩ := JobRepository.updateHeld_eq_ok hcomplete
  rw [execute_bind_eq_ok] at h
  obtain ⟨text, _, htext, h⟩ := h
  obtain ⟨hencoded, rfl⟩ := execute_lift_eq_ok.mp htext
  constructor
  · exact ⟨text, hencoded⟩
  · exact ⟨row, _, _, hrow, hheld, tells_completion uuid5 (row.completed.toRecord jobId) text
      workerId now, written_of_execute h⟩

/-- What a failure leaves behind, its texts included. -/
theorem recordFailure_report {policy : RetryPolicy} {workerId text : String}
    {claimed record : JobRecord} {retryable : Bool} {now : Instant}
    (h : (JobRunner.recordFailure uuid5 policy workerId claimed text retryable
      now).atomically locked rows = .ok (record, rows')) :
    ∃ row availableAt, jobAt rows claimed.execution.jobId = some row ∧
      row.heldBy workerId now = true ∧
      Written claimed.execution.jobId (row.failed (retryable &&
          policy.isRetryable claimed.execution.attempt) text availableAt)
        (JobRunner.eventFor uuid5 claimed record.execution.state text availableAt now)
        (JobRunner.auditFor uuid5 claimed record.execution.state.value text now) rows rows' := by
  rw [atomically_eq_ok] at h
  obtain ⟨own, h, rfl⟩ := h
  simp only [JobRunner.recordFailure] at h
  rw [execute_bind_eq_ok] at h
  obtain ⟨availableAt, _, hdelay, h⟩ := h
  obtain ⟨-, rfl⟩ := execute_lift_eq_ok.mp hdelay
  rw [execute_bind_eq_ok] at h
  obtain ⟨failed, between, hfail, h⟩ := h
  rw [JobRepository.fail, execute_bind_eq_ok] at hfail
  obtain ⟨_, _, hrequire, hfail⟩ := hfail
  obtain ⟨-, rfl⟩ := execute_lift_eq_ok.mp hrequire
  obtain ⟨row, hrow, hheld, rfl, rfl⟩ := JobRepository.updateHeld_eq_ok hfail
  obtain ⟨rfl, _⟩ := JobRunner.reported_of_execute h
  exact ⟨row, availableAt, hrow, hheld, written_of_execute h⟩

theorem recordFailure_written {policy : RetryPolicy} {workerId text : String}
    {claimed record : JobRecord} {retryable : Bool} {now : Instant}
    (h : (JobRunner.recordFailure uuid5 policy workerId claimed text retryable
      now).atomically locked rows = .ok (record, rows')) :
    ∃ row availableAt event audit, jobAt rows claimed.execution.jobId = some row ∧
      row.heldBy workerId now = true ∧
      Tells uuid5 claimed.execution.jobId claimed.execution.attempt event audit ∧
      Written claimed.execution.jobId (row.failed (retryable &&
        policy.isRetryable claimed.execution.attempt) text availableAt) event audit rows
          rows' := by
  obtain ⟨row, availableAt, hrow, hheld, hwritten⟩ := recordFailure_report h
  exact ⟨row, availableAt, _, _, hrow, hheld, tells_failure uuid5 claimed _ text availableAt
    now, hwritten⟩

end Rejected

end ShemaPlatform
