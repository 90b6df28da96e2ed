/-
Which ends of a handler leave their job finished, with one event and one audit
record of the attempt.
-/
import ShemaPlatform.JobReports

namespace ShemaPlatform

open Calendar ReadCommitted ReadCommitted.Prog SafeErrors

/-- Attempts that may have been reported. -/
def JobRow.Past (row : JobRow) (attempt : ℕ) : Prop :=
  attempt ≤ row.slot.turn ∧ (row.state = .running → attempt < row.attempt)

/-- What becomes of a row: no attempt is given up. -/
structure JobRow.Grows (row row' : JobRow) : Prop where
  turn : row.slot.turn ≤ row'.slot.turn
  past : ∀ attempt, row.Past attempt → row'.Past attempt

namespace JobRow

variable {row : JobRow} {workerId : String} {now : Instant}

theorem Grows.refl (row : JobRow) : row.Grows row :=
  ⟨le_refl _, fun _ h => h⟩

theorem grows_claimed (row : JobRow) (workerId : String) (leasedUntil : Instant) :
    row.Grows (row.claimed workerId leasedUntil) := by
  have hslot := slot_claimed row workerId leasedUntil
  have hturn := row.slot_turn_lt
  constructor
  · rw [hslot]
    exact hturn.le
  · intro attempt hpast
    have hlt : attempt < row.nextAttempt := hpast.1.trans_lt hturn
    constructor
    · rw [hslot]
      exact hlt.le
    · exact fun _ => hlt

theorem grows_renewed (row : JobRow) (workerId : String) (leasedUntil : Instant) :
    row.Grows (row.renewed workerId leasedUntil) :=
  ⟨le_refl _, fun _ h => h⟩

/-- A job that is finished keeps its attempt. -/
theorem grows_finished {row' : JobRow} (hheld : row.heldBy workerId now = true)
    (hattempt : row'.attempt = row.attempt) (hqueued : row'.state ≠ .queued)
    (hrunning : row'.state ≠ .running) :
    row.Grows row' ∧ row'.slot.turn = row.attempt := by
  have hturn := (slot_heldBy hheld).1
  have hturn' : row'.slot.turn = row.attempt := by
    simp [slot, hqueued, hattempt]
  constructor
  · constructor
    · rw [hturn, hturn']
    · intro attempt hpast
      constructor
      · rw [hturn', ← hturn]
        exact hpast.1
      · exact fun h => absurd h hrunning
  · exact hturn'

end JobRow

/-- What the rows tell of attempts, and of the claims of the runs. -/
structure Ledger (uuid5 : String → String) (rows : WorkRows) (runs : List JobRuns.JobRun) :
    Prop where
  claimed : ∀ run ∈ runs, ∃ row, jobAt rows run.jobId = some row ∧
    run.claimed.execution.attempt ≤ row.slot.turn
  lease : ∀ run ∈ runs, ∃ leasedUntil,
    run.claimed.execution.lease = some ⟨run.runner.workerId, leasedUntil⟩
  behind : ∀ jobId attempt, OnRecord rows jobId attempt →
    ∃ row, jobAt rows jobId = some row ∧ row.Past attempt
  events : ∀ jobId attempt, ∀ name ∈ eventNames jobId attempt, ∀ row,
    eventAt rows (uuid5 name) = some row → row.event.reports = some (jobId, attempt)
  audits : ∀ jobId attempt, ∀ name ∈ auditNames jobId attempt, ∀ record,
    auditAt rows (uuid5 name) = some record → record.reports = some (jobId, attempt)

namespace Ledger

variable {uuid5 : String → String} {rows rows' : WorkRows} {runs : List JobRuns.JobRun}

/-- Jobs that keep their attempts. -/
def Kept (rows rows' : WorkRows) : Prop :=
  ∀ jobId row, jobAt rows jobId = some row →
    ∃ row', jobAt rows' jobId = some row' ∧ row.Grows row'

theorem kept_of_update {jobId : String} {row row' : JobRow} (hrow : jobAt rows jobId = some row)
    (hgrows : row.Grows row') (hjobs : ∀ other, jobAt rows' other =
      if jobId = other then some row' else jobAt rows other) : Kept rows rows' := by
  intro other found hfound
  by_cases hsame : jobId = other
  · subst hsame
    obtain rfl := Option.some.inj (hrow.symm.trans hfound)
    exact ⟨row', by rw [hjobs, if_pos rfl], hgrows⟩
  · exact ⟨found, by rw [hjobs, if_neg hsame, hfound], .refl found⟩

/-- Rows whose events and audit records are the same. -/
theorem quiet (h : Ledger uuid5 rows runs) (hkept : Kept rows rows')
    (hevents : ∀ eventId, eventAt rows' eventId = eventAt rows eventId)
    (haudits : ∀ auditId, auditAt rows' auditId = auditAt rows auditId) :
    Ledger uuid5 rows' runs := by
  constructor
  · intro run hrun
    obtain ⟨row, hrow, hle⟩ := h.claimed run hrun
    obtain ⟨row', hrow', hgrows⟩ := hkept _ _ hrow
    exact ⟨row', hrow', hle.trans hgrows.turn⟩
  · exact h.lease
  · intro jobId attempt hrecord
    have hold : OnRecord rows jobId attempt := by
      simpa only [OnRecord, hevents, haudits] using hrecord
    obtain ⟨row, hrow, hpast⟩ := h.behind jobId attempt hold
    obtain ⟨row', hrow', hgrows⟩ := hkept _ _ hrow
    exact ⟨row', hrow', hgrows.past attempt hpast⟩
  · intro jobId attempt name hname row hrow
    exact h.events jobId attempt name hname row (hevents _ ▸ hrow)
  · intro jobId attempt name hname record hrecord
    exact h.audits jobId attempt name hname record (haudits _ ▸ hrecord)

/-- A run that claimed its job last. -/
theorem append (h : Ledger uuid5 rows runs) {run : JobRuns.JobRun} {row : JobRow}
    {leasedUntil : Instant} (hrow : jobAt rows run.jobId = some row)
    (hturn : run.claimed.execution.attempt ≤ row.slot.turn)
    (hlease : run.claimed.execution.lease = some ⟨run.runner.workerId, leasedUntil⟩) :
    Ledger uuid5 rows (runs ++ [run]) := by
  constructor
  · intro other hother
    rcases List.mem_append.mp hother with hold | hnew
    · exact h.claimed other hold
    · obtain rfl := List.mem_singleton.mp hnew
      exact ⟨row, hrow, hturn⟩
  · intro other hother
    rcases List.mem_append.mp hother with hold | hnew
    · exact h.lease other hold
    · obtain rfl := List.mem_singleton.mp hnew
      exact ⟨leasedUntil, hlease⟩
  · exact h.behind
  · exact h.events
  · exact h.audits

/-- A job that was held is finished, and an attempt of it reported. -/
theorem reported (huuid : Function.Injective uuid5) (h : Ledger uuid5 rows runs)
    {jobId : String} {row row' : JobRow} {attempt : ℕ}
    {event : OutboxEvent} {audit : AuditRecord} (hrow : jobAt rows jobId = some row)
    (hgrows : row.Grows row') (hturn : attempt ≤ row'.slot.turn)
    (hrunning : row'.state ≠ .running) (htells : Tells uuid5 jobId attempt event audit)
    (hwritten : Written jobId row' event audit rows rows') : Ledger uuid5 rows' runs := by
  have hkept := kept_of_update hrow hgrows hwritten.jobAt_eq
  constructor
  · intro run hrun
    obtain ⟨found, hfound, hle⟩ := h.claimed run hrun
    obtain ⟨found', hfound', hgrown⟩ := hkept _ _ hfound
    exact ⟨found', hfound', hle.trans hgrown.turn⟩
  · exact h.lease
  · intro other count hrecord
    rcases hwritten.onRecord htells hrecord with hold | ⟨rfl, rfl⟩
    · obtain ⟨found, hfound, hpast⟩ := h.behind other count hold
      obtain ⟨found', hfound', hgrown⟩ := hkept _ _ hfound
      exact ⟨found', hfound', hgrown.past count hpast⟩
    · exact ⟨row', by rw [hwritten.jobAt_eq, if_pos rfl], hturn, fun h => absurd h hrunning⟩
  · intro other count name hname found hfound
    by_cases hid : event.eventId = uuid5 name
    · obtain ⟨made, hmade, hevent⟩ := htells.event_id
      obtain rfl := huuid (hevent.symm.trans hid)
      obtain ⟨rfl, rfl⟩ := eventNames_inj hmade hname
      obtain ⟨kept, hkeep, hsame⟩ := hwritten.eventAt_self
      rw [hevent] at hkeep
      obtain rfl := Option.some.inj (hkeep.symm.trans hfound)
      rw [hsame]
      exact htells.event_reports
    · rw [hwritten.eventAt_other hid] at hfound
      exact h.events other count name hname found hfound
  · intro other count name hname found hfound
    rw [hwritten.auditAt_eq] at hfound
    split_ifs at hfound with hid
    · obtain ⟨made, hmade, haudit⟩ := htells.audit_id
      obtain rfl := huuid (haudit.symm.trans hid)
      obtain ⟨rfl, rfl⟩ := auditNames_inj hmade hname
      obtain rfl := Option.some.inj hfound
      exact htells.audit_reports
    · exact h.audits other count name hname found hfound

/-- Nothing is on record of a job that is held. -/
theorem free (h : Ledger uuid5 rows runs) {jobId workerId : String} {now : Instant}
    {row : JobRow} (hrow : jobAt rows jobId = some row)
    (hheld : row.heldBy workerId now = true) : ¬ OnRecord rows jobId row.attempt := by
  intro hrecord
  obtain ⟨found, hfound, hpast⟩ := h.behind _ _ hrecord
  obtain rfl := Option.some.inj (hrow.symm.trans hfound)
  exact lt_irrefl _ (hpast.2 (JobRow.heldBy_eq_true.mp hheld).1)

theorem free_names (h : Ledger uuid5 rows runs) {jobId : String} {attempt : ℕ}
    (hfree : ¬ OnRecord rows jobId attempt) : Free uuid5 rows jobId attempt := by
  intro event audit htells
  obtain ⟨eventName, hevent, hevent_id⟩ := htells.event_id
  obtain ⟨auditName, haudit, haudit_id⟩ := htells.audit_id
  constructor
  · rw [hevent_id, Option.eq_none_iff_forall_not_mem]
    intro row hrow
    exact hfree (Or.inl ⟨_, row, hrow, h.events _ _ _ hevent row hrow⟩)
  · rw [haudit_id, Option.eq_none_iff_forall_not_mem]
    intro record hrecord
    exact hfree (Or.inr ⟨_, record, hrecord, h.audits _ _ _ haudit record hrecord⟩)

end Ledger

/-- A job is enqueued under an id that is new, or nothing happens. -/
theorem enqueue_rows {locked : LockedRows} {rows rows' : WorkRows} {record answer : JobRecord}
    {createdAt : Instant}
    (h : (JobRepository.enqueue record createdAt).atomically locked rows =
      .ok (answer, rows')) :
    rows' = rows ∨ jobAt rows record.execution.jobId = none ∧
      rows' = ⟨WorkKey.jobIdempotencyKey record.execution.idempotencyKey,
          some record.execution.jobId⟩ ::
        ⟨WorkKey.jobExecution record.execution.jobId,
          some (JobRow.ofRecord record createdAt)⟩ :: rows := by
  rw [atomically_eq_ok] at h
  obtain ⟨own, h, rfl⟩ := h
  simp only [JobRepository.enqueue] at h
  rw [execute_bind_eq_ok] at h
  obtain ⟨inserted, between, hinsert, h⟩ := h
  rcases execute_insertNew_eq_ok.mp hinsert with ⟨hnone, rfl, rfl⟩ | ⟨hsome, rfl, rfl⟩
  · rw [if_pos rfl, execute_bind_eq_ok] at h
    obtain ⟨_, _, hkey, h⟩ := h
    obtain ⟨_, rfl⟩ := execute_insert_eq_ok.mp hkey
    obtain ⟨_, rfl⟩ := execute_pure_eq_ok.mp h
    exact Or.inr ⟨hnone, rfl⟩
  · rw [if_neg (by simp), execute_bind_eq_ok] at h
    obtain ⟨existing, _, hget, h⟩ := h
    rw [JobRepository.get, execute_bind_eq_ok] at hget
    obtain ⟨seen, _, hselect, hget⟩ := hget
    obtain ⟨_, rfl⟩ := execute_select_eq_ok.mp hselect
    obtain ⟨_, rfl⟩ := execute_pure_eq_ok.mp hget
    cases existing with
    | none => cases h
    | some existing =>
        simp only at h
        rw [execute_bind_eq_ok] at h
        obtain ⟨_, _, hrequire, h⟩ := h
        obtain ⟨_, rfl⟩ := execute_lift_eq_ok.mp hrequire
        obtain ⟨_, rfl⟩ := execute_pure_eq_ok.mp h
        exact Or.inl rfl

namespace JobRuns

variable {uuid5 : String → String} {urlsplit : PyStr → Option SplitUrl}
  {dumps : PyMapping → String} {world : World}

theorem ledger_enqueue (h : Ledger uuid5 world.rows world.runs) (record : JobRecord)
    (createdAt : Instant) : Ledger uuid5 (world.enqueue record createdAt).rows world.runs := by
  have hcommit : (world.enqueue record createdAt).rows =
    world.commit (JobRepository.enqueue record createdAt) := rfl
  rw [hcommit]
  rcases world.commit_eq (JobRepository.enqueue record createdAt) with hsame | ⟨answer, hdone⟩
  · rw [hsame]
    exact h
  · rcases enqueue_rows hdone with hsame | ⟨hnew, hrows⟩
    · rw [hsame]
      exact h
    · apply h.quiet
      · intro jobId row hrow
        have hother : record.execution.jobId ≠ jobId := by
          rintro rfl
          rw [hnew] at hrow
          cases hrow
        exact ⟨row, by simpa [hrows, hother] using hrow, .refl row⟩
      · intro eventId
        simp [hrows, eventAt]
      · intro auditId
        simp [hrows, auditAt]

theorem ledger_claim (h : Ledger uuid5 world.rows world.runs) (runner : JobRunner)
    (locked : LockedRows) (survives : Bool) (now : Instant) :
    Ledger uuid5 (world.claim runner locked survives now).rows
      (world.claim runner locked survives now).runs := by
  unfold World.claim
  split
  · rename_i record rows hclaim
    rcases JobRepository.claimNext_eq_ok hclaim with ⟨hnone, _⟩ |
      ⟨jobId, row, _, hrow, _, hrecord, hrows⟩
    · cases hnone
    · obtain rfl := Option.some.inj hrecord
      subst hrows
      have hgrows := row.grows_claimed runner.workerId (now + seconds runner.leaseSeconds)
      have hkept := h.quiet (Ledger.kept_of_update hrow hgrows fun other => jobAt_job _ _ _)
        (fun _ => eventAt_job _ _ _) fun _ => auditAt_job _ _ _
      apply hkept.append ((jobAt_job _ _ _).trans (if_pos rfl)) ?_ rfl
      rw [row.slot_claimed]
      exact le_refl _
  · rename_i rows hclaim
    rcases JobRepository.claimNext_eq_ok hclaim with ⟨_, hrows⟩ | ⟨_, _, _, _, _, hrecord, _⟩
    · exact hrows ▸ h
    · cases hrecord
  · exact h

theorem ledger_renew (h : Ledger uuid5 world.rows world.runs) (index : ℕ) (now : Instant) :
    Ledger uuid5 (world.renew index now).rows (world.renew index now).runs := by
  unfold World.renew
  split
  · rename_i run _ _
    rcases world.commit_eq (JobRepository.renew run.jobId run.runner.workerId
      run.runner.leaseSeconds now) with hsame | ⟨record, hrenew⟩
    · rw [hsame]
      exact h
    · obtain ⟨row, hrow, _, _, hrows⟩ := JobRepository.renew_eq_ok hrenew
      rw [hrows]
      exact h.quiet (Ledger.kept_of_update hrow (row.grows_renewed _ _)
        fun other => jobAt_job _ _ _) (fun _ => eventAt_job _ _ _) fun _ => auditAt_job _ _ _
  · exact h

theorem ledger_failWith (huuid : Function.Injective uuid5)
    (h : Ledger uuid5 world.rows world.runs) {run : JobRun} (hrun : run ∈ world.runs)
    (error : PyStr) (retryable : Bool) (now : Instant) :
    Ledger uuid5 (world.commit (JobRunner.failWith uuid5 run.runner.retryPolicy
      run.runner.workerId run.claimed error retryable now)) world.runs := by
  rcases world.commit_eq (JobRunner.failWith uuid5 run.runner.retryPolicy run.runner.workerId
    run.claimed error retryable now) with hsame | ⟨record, hdone⟩
  · rw [hsame]
    exact h
  · obtain ⟨_, _, text, _, hfailed⟩ := failWith_eq_ok.mp hdone
    obtain ⟨row, availableAt, event, audit, hrow, hheld, htells, hwritten⟩ :=
      recordFailure_written hfailed
    have hends : ∀ retry : Bool, (row.failed retry text availableAt).state ≠ .queued ∧
        (row.failed retry text availableAt).state ≠ .running := by
      intro retry
      cases retry <;> constructor <;> exact nofun
    obtain ⟨hqueued, hrunning⟩ := hends (retryable &&
      run.runner.retryPolicy.isRetryable run.claimed.execution.attempt)
    have hattempt : (row.failed (retryable && run.runner.retryPolicy.isRetryable
      run.claimed.execution.attempt) text availableAt).attempt = row.attempt := rfl
    obtain ⟨hgrows, _⟩ := JobRow.grows_finished hheld hattempt hqueued hrunning
    obtain ⟨found, hfound, hturn⟩ := h.claimed run hrun
    obtain rfl := Option.some.inj (hrow.symm.trans hfound)
    exact h.reported huuid hrow hgrows (hturn.trans hgrows.turn) hrunning htells hwritten

theorem ledger_report (huuid : Function.Injective uuid5)
    (h : Ledger uuid5 world.rows world.runs) {run : JobRun} (hrun : run ∈ world.runs)
    (now : Instant) (ended : HandlerEnd) :
    Ledger uuid5 ((run.conclude uuid5 urlsplit dumps now ended).elim world.rows world.commit)
      world.runs := by
  cases ended with
  | returned output =>
      change Ledger uuid5 (world.commit (JobRunner.completeWith uuid5 dumps run.jobId
        run.runner.workerId now output)) world.runs
      rcases world.commit_eq (JobRunner.completeWith uuid5 dumps run.jobId run.runner.workerId
        now output) with hsame | ⟨record, hdone⟩
      · rw [hsame]
        exact h
      · obtain ⟨_, row, event, audit, hrow, hheld, htells, hwritten⟩ :=
          completeWith_eq_ok hdone
        have hattempt : row.completed.attempt = row.attempt := rfl
        have hqueued : row.completed.state ≠ .queued := nofun
        have hrunning : row.completed.state ≠ .running := nofun
        obtain ⟨hgrows, hturn⟩ := JobRow.grows_finished hheld hattempt hqueued hrunning
        exact h.reported huuid hrow hgrows hturn.ge hrunning htells hwritten
  | retryable message => exact ledger_failWith huuid h hrun _ true now
  | permanent message => exact ledger_failWith huuid h hrun _ false now
  | raised message => exact ledger_failWith huuid h hrun _ true now
  | exited => exact h

theorem ledger_conclude (huuid : Function.Injective uuid5)
    (h : Ledger uuid5 world.rows world.runs) (index : ℕ) (ended : HandlerEnd) (now : Instant) :
    Ledger uuid5 (world.conclude uuid5 urlsplit dumps index ended now).rows
      (world.conclude uuid5 urlsplit dumps index ended now).runs := by
  unfold World.conclude
  split
  · exact h
  · rename_i run hrun
    split
    · exact h
    · exact ledger_report huuid h (List.mem_of_getElem? hrun) now _

/-- Rows that tell nothing of attempts. -/
structure Silent (uuid5 : String → String) (rows : WorkRows) : Prop where
  off : ∀ jobId attempt, ¬ OnRecord rows jobId attempt
  events : ∀ jobId attempt, ∀ name ∈ eventNames jobId attempt,
    eventAt rows (uuid5 name) = none
  audits : ∀ jobId attempt, ∀ name ∈ auditNames jobId attempt,
    auditAt rows (uuid5 name) = none

theorem ledger_start {rows : WorkRows} (h : Silent uuid5 rows) : Ledger uuid5 rows [] := by
  constructor
  · exact fun run hrun => absurd hrun (List.not_mem_nil)
  · exact fun run hrun => absurd hrun (List.not_mem_nil)
  · exact fun jobId attempt hrecord => absurd hrecord (h.off jobId attempt)
  · intro jobId attempt name hname row hrow
    rw [h.events jobId attempt name hname] at hrow
    cases hrow
  · intro jobId attempt name hname record hrecord
    rw [h.audits jobId attempt name hname] at hrecord
    cases hrecord

theorem ledger_reached (huuid : Function.Injective uuid5) {first : WorkRows}
    (hfirst : Silent uuid5 first) (h : Reached uuid5 urlsplit dumps first world) :
    Ledger uuid5 world.rows world.runs := by
  induction h with
  | start => exact ledger_start hfirst
  | enqueue record createdAt _ ih => exact ledger_enqueue ih record createdAt
  | claim runner locked survives now _ ih => exact ledger_claim ih runner locked survives now
  | renew index now _ ih => exact ledger_renew ih index now
  | conclude index ended now _ ih => exact ledger_conclude huuid ih index ended now

/-- Raised to say that the job is not to be tried again. -/
def HandlerEnd.isPermanent : HandlerEnd → Bool
  | .permanent _ => true
  | _ => false

/-- The text of an exception that may be tried again can be recorded, and the time
of the next try too. -/
def Retriable (urlsplit : PyStr → Option SplitUrl) (policy : RetryPolicy) (attempt : ℕ)
    (now : Instant) (message : PyStr) : Prop :=
  (message.all fun c => c.isSpace || c.isNul) = false ∧
    (safeErrorDetail urlsplit message).storable = true ∧
    (policy.isRetryable attempt = true → policy.schedulable attempt now = true)

/-- An end of a handler that can be recorded. -/
def HandlerEnd.Recordable (urlsplit : PyStr → Option SplitUrl) (policy : RetryPolicy)
    (attempt : ℕ) (now : Instant) : HandlerEnd → Prop
  | .returned none => True
  | .returned (some output) => (PyValue.dict output).encodable = true
  | .permanent message => message.kept = true
  | .retryable message => Retriable urlsplit policy attempt now message
  | .raised message => Retriable urlsplit policy attempt now message
  | .exited => False

/-- The job is finished, with one event and one audit record of the attempt. -/
structure Recorded (rows : WorkRows) (jobId : String) (attempt : ℕ) (permanent : Bool) :
    Prop where
  finished : ∃ row, jobAt rows jobId = some row ∧
    row.state ∈ [.succeeded, .retryableFailure, .failed] ∧
    (permanent = true → row.state = .failed)
  event : ∃! eventId, ∃ row, eventAt rows eventId = some row ∧
    row.event.reports = some (jobId, attempt)
  audit : ∃! auditId, ∃ record, auditAt rows auditId = some record ∧
    record.reports = some (jobId, attempt)

theorem recorded_of_written {rows rows' : WorkRows} {jobId : String} {attempt : ℕ}
    {permanent : Bool} {row : JobRow} {event : OutboxEvent} {audit : AuditRecord}
    (hsilent : ¬ OnRecord rows jobId attempt)
    (hstate : row.state ∈ [.succeeded, .retryableFailure, .failed])
    (hpermanent : permanent = true → row.state = .failed)
    (htells : Tells uuid5 jobId attempt event audit)
    (hwritten : Written jobId row event audit rows rows') :
    Recorded rows' jobId attempt permanent := by
  constructor
  · exact ⟨row, by rw [hwritten.jobAt_eq, if_pos rfl], hstate, hpermanent⟩
  · obtain ⟨kept, hkept, hsame⟩ := hwritten.eventAt_self
    refine ⟨event.eventId, ⟨kept, hkept, by rw [hsame]; exact htells.event_reports⟩, ?_⟩
    rintro eventId ⟨found, hfound, hreports⟩
    by_contra hother
    rw [hwritten.eventAt_other (Ne.symm hother)] at hfound
    exact hsilent (Or.inl ⟨eventId, found, hfound, hreports⟩)
  · refine ⟨audit.auditId, ⟨audit, by rw [hwritten.auditAt_eq, if_pos rfl],
      htells.audit_reports⟩, ?_⟩
    rintro auditId ⟨found, hfound, hreports⟩
    by_contra hother
    rw [hwritten.auditAt_eq, if_neg (Ne.symm hother)] at hfound
    exact hsilent (Or.inr ⟨auditId, found, hfound, hreports⟩)

theorem commit_of_ok {tx : WorkTx JobRecord} {record : JobRecord} {rows : WorkRows}
    (h : tx.atomically (fun _ => false) world.rows = .ok (record, rows)) :
    world.commit tx = rows := by
  rw [World.commit, h]

/-- A transaction of a job that is held either fails or is recorded. -/
def Settles (world : World) (jobId : String) (attempt : ℕ) (permanent : Bool)
    (tx : WorkTx JobRecord) (recordable : Prop) : Prop :=
  (recordable → Recorded (world.commit tx) jobId attempt permanent) ∧
    (¬ recordable → world.commit tx = world.rows)

section Held

variable {run : JobRun} {now : Instant} {row : JobRow}
  (hids : ∀ name, PyText.blank (uuid5 name) = false)
  (hledger : Ledger uuid5 world.rows world.runs) (hrun : run ∈ world.runs)
  (hrow : jobAt world.rows run.jobId = some row)
  (hheld : row.heldBy run.runner.workerId now = true)

include hids hledger hrow hheld

theorem settles_completeWith (output : Option PyMapping) :
    Settles world run.jobId row.attempt false
      (JobRunner.completeWith uuid5 dumps run.jobId run.runner.workerId now output)
      ((HandlerEnd.returned output).Recordable urlsplit run.runner.retryPolicy row.attempt
        now) := by
  have hsilent := hledger.free hrow hheld
  constructor
  · intro hrecordable
    obtain ⟨text, htext⟩ : ∃ text, JobRunner.encodeOutput dumps output = .ok text := by
      cases output with
      | none => exact ⟨none, rfl⟩
      | some output =>
          have hencodable : (PyValue.dict output).encodable = true := hrecordable
          rw [JobRunner.encodeOutput, hencodable]
          exact ⟨some (dumps output), rfl⟩
    obtain ⟨event, audit, rows', htells, hwritten, hdone⟩ := completeWith_atomically hids
      run.runner.valid.2 hrow hheld (hledger.free_names hsilent) htext
    rw [commit_of_ok hdone]
    exact recorded_of_written hsilent (by simp [JobRow.completed]) nofun htells hwritten
  · intro hrecordable
    rcases world.commit_eq (JobRunner.completeWith uuid5 dumps run.jobId run.runner.workerId
      now output) with hsame | ⟨record, hdone⟩
    · exact hsame
    · obtain ⟨⟨text, htext⟩, _⟩ := completeWith_eq_ok hdone
      exfalso
      apply hrecordable
      cases output with
      | none => trivial
      | some output =>
          rw [JobRunner.encodeOutput, bind_eq_ok] at htext
          obtain ⟨_, hencodable, _⟩ := htext
          exact require_eq_ok.mp hencodable

include hrun

theorem settles_failWith (hattempt : row.attempt = run.claimed.execution.attempt)
    (error : PyStr) (retryable : Bool) :
    Settles world run.jobId row.attempt (!retryable)
      (JobRunner.failWith uuid5 run.runner.retryPolicy run.runner.workerId run.claimed error
        retryable now)
      (error.kept = true ∧ ((retryable && run.runner.retryPolicy.isRetryable row.attempt) =
        true → run.runner.retryPolicy.schedulable row.attempt now = true)) := by
  have hsilent := hledger.free hrow hheld
  rw [hattempt] at hsilent ⊢
  constructor
  · rintro ⟨hkept, hschedule⟩
    rw [PyStr.kept, Bool.and_eq_true, storable_iff, Bool.not_eq_true'] at hkept
    obtain ⟨hblank, text, htext⟩ := hkept
    obtain ⟨leasedUntil, hlease⟩ := hledger.lease run hrun
    obtain ⟨event, audit, rows', availableAt, htells, hwritten, hdone⟩ :=
      recordFailure_atomically hids run.runner.valid.2 hlease hrow hheld
        (hledger.free_names hsilent) ((blank_stored htext).trans hblank)
    rw [commit_of_ok (failWith_eq_ok.mpr ⟨hschedule, hblank, text, htext, hdone⟩)]
    apply recorded_of_written hsilent _ _ htells hwritten
    · cases (retryable && run.runner.retryPolicy.isRetryable run.claimed.execution.attempt)
      · simp [JobRow.failed]
      · simp [JobRow.failed]
    · intro hpermanent
      rw [Bool.not_eq_true'] at hpermanent
      rw [hpermanent]
      rfl
  · intro hrecordable
    rcases world.commit_eq (JobRunner.failWith uuid5 run.runner.retryPolicy
      run.runner.workerId run.claimed error retryable now) with hsame | ⟨record, hdone⟩
    · exact hsame
    · obtain ⟨hschedule, hblank, text, htext, _⟩ := failWith_eq_ok.mp hdone
      exfalso
      apply hrecordable
      constructor
      · rw [PyStr.kept, hblank, storable_iff.mpr ⟨text, htext⟩]
        rfl
      · exact hschedule

theorem settles_conclude (hscheme : HasScheme urlsplit)
    (hattempt : row.attempt = run.claimed.execution.attempt) {ended : HandlerEnd}
    {tx : WorkTx JobRecord} (htx : run.conclude uuid5 urlsplit dumps now ended = some tx) :
    Settles world run.jobId row.attempt ended.isPermanent tx
      (ended.Recordable urlsplit run.runner.retryPolicy row.attempt now) := by
  have hretried : ∀ message : PyStr, Settles world run.jobId row.attempt false
      (JobRunner.failWith uuid5 run.runner.retryPolicy run.runner.workerId run.claimed
        (safeErrorDetail urlsplit message) true now)
      (Retriable urlsplit run.runner.retryPolicy row.attempt now message) := by
    intro message
    have hsettles := settles_failWith hids hledger hrun hrow hheld hattempt
      (safeErrorDetail urlsplit message) true
    simpa only [PyStr.kept, Bool.and_eq_true, Bool.not_eq_true', Bool.not_true, Bool.true_and,
      blank_safeErrorDetail hscheme, and_assoc, Retriable] using hsettles
  cases ended with
  | returned output =>
      obtain rfl := Option.some.inj htx
      exact settles_completeWith hids hledger hrow hheld output
  | retryable message =>
      obtain rfl := Option.some.inj htx
      exact hretried message
  | raised message =>
      obtain rfl := Option.some.inj htx
      exact hretried message
  | permanent message =>
      obtain rfl := Option.some.inj htx
      have hsettles := settles_failWith hids hledger hrun hrow hheld hattempt
        message false
      simpa only [Bool.false_and, Bool.false_eq_true, false_implies, and_true, Bool.not_false,
        HandlerEnd.Recordable, HandlerEnd.isPermanent] using hsettles
  | exited => cases htx

end Held

theorem conclude_rows {index : ℕ} {run : JobRun} {ended effective : HandlerEnd} {now : Instant}
    (hrun : world.runs[index]? = some run)
    (hends : run.ends ended (world.stage index) = some effective) :
    (world.conclude uuid5 urlsplit dumps index ended now).rows =
      (run.conclude uuid5 urlsplit dumps now effective).elim world.rows world.commit := by
  rw [World.conclude, hrun]
  simp only [hends]

theorem threeTimes_valid : 1 ≤ 3 ∧ (0 : ℤ) < 1000000 ∧ (0 : ℤ) < 60000000 := by decide

theorem reportRunner_valid : (0 : ℤ) < 60 ∧ PyText.blank "worker" = false := by decide

/-- A runner that tries a job three times. -/
def reportRunner : JobRunner where
  handlers := ["report"]
  retryPolicy := ⟨3, 1000000, 60000000, threeTimes_valid⟩
  leaseSeconds := 60
  workerId := "worker"
  valid := reportRunner_valid

/-- One job, enqueued and claimed. -/
def claimedWorld : World :=
  ((World.start []).enqueue (.queued "job-1" "report" "key-1" [] 0) 0).claim reportRunner
    (fun _ => false) true 0

def prefixed (name : String) : String := "u" ++ name

theorem reached_claimedWorld :
    Reached prefixed (fun _ => none) (fun _ => "\x7b\x7d") [] claimedWorld :=
  .claim _ _ _ _ (.enqueue _ _ .start)

theorem prefixed_injective : Function.Injective prefixed := by
  intro name name' h
  have hchars : 'u' :: name.toList = 'u' :: name'.toList := by
    simpa [prefixed] using congrArg String.toList h
  exact String.toList_inj.mp (List.cons.inj hchars).2

theorem blank_prefixed (name : String) : PyText.blank (prefixed name) = false := by
  simp [PyText.blank, prefixed, PyText.isSpace]

theorem silent_nil : Silent prefixed [] := by
  constructor
  · rintro jobId attempt (⟨_, _, hevent, _⟩ | ⟨_, _, haudit, _⟩)
    · cases hevent
    · cases haudit
  · exact fun _ _ _ _ => rfl
  · exact fun _ _ _ _ => rfl

def claimedRow : JobRow :=
  (JobRow.ofRecord (.queued "job-1" "report" "key-1" [] 0) 0).claimed "worker" (seconds 60)

def claimedRun : JobRun := ⟨reportRunner, claimedRow.toRecord "job-1", true⟩

theorem runs_claimedWorld : claimedWorld.runs[0]? = some claimedRun := by
  with_unfolding_all rfl

theorem stage_claimedWorld : claimedWorld.stage 0 = .handling := by
  with_unfolding_all rfl

theorem jobAt_claimedWorld : jobAt claimedWorld.rows "job-1" = some claimedRow := by
  with_unfolding_all rfl

end JobRuns

end ShemaPlatform
