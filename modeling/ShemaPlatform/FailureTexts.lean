/-
The texts of exceptions that a runner and a dispatcher leave in the tables: which of them
have gone through `safe_error_detail`.
-/
import ShemaPlatform.OutboxDispatch
import ShemaPlatform.OutcomesRecorded

namespace ShemaPlatform

open Calendar ReadCommitted ReadCommitted.Prog SafeErrors

/-- The text under `error` in a payload or in metadata. -/
def Payload.errorText (payload : Payload) : Option String :=
  match payload.lookup "error" with
  | some (.text text) => some text
  | _ => none

section Texts

variable {urlsplit : PyStr → Option SplitUrl} {text : PyStr} {kept : String}

theorem of_encode {chars : List Char} (h : text.encode = .ok chars) :
    chars.map PyChar.scalar = text := by
  induction text generalizing chars with
  | nil =>
      obtain rfl := Except.ok.inj h
      rfl
  | cons c rest ih =>
      cases c with
      | scalar c =>
          simp only [PyStr.encode, bind_eq_ok, pure_eq_ok] at h
          obtain ⟨tail, htail, rfl⟩ := h
          rw [List.map_cons, ih htail]
      | surrogate unit => cases h

/-- A text is stored as it is, and without NUL. -/
theorem of_stored (h : text.stored = .ok kept) :
    PyStr.of kept = text ∧ text.any PyChar.isNul = false := by
  simp only [PyStr.stored, bind_eq_ok, require_eq_ok, pure_eq_ok] at h
  obtain ⟨_, hnul, chars, hchars, rfl⟩ := h
  constructor
  · rw [PyStr.of, String.toList_ofList]
    exact of_encode hchars
  · simpa using hnul

theorem length_bounded (value : PyStr) : (bounded value).length ≤ maxErrorChars := by
  unfold bounded
  split
  · rename_i hlong
    have hdots : (PyStr.of "...").length = 3 := rfl
    rw [List.length_append, List.length_take, hdots]
    simp only [maxErrorChars] at hlong ⊢
    omega
  · rename_i hshort
    exact not_lt.mp hshort

theorem length_safeErrorDetail (urlsplit : PyStr → Option SplitUrl) (error : PyStr) :
    (safeErrorDetail urlsplit error).length ≤ maxErrorChars :=
  length_bounded _

end Texts

/-- Texts that are the safe detail of an exception. -/
def Sanitised (urlsplit : PyStr → Option SplitUrl) (message : PyStr) (texts : List PyStr) :
    Prop :=
  ∀ text ∈ texts, text = safeErrorDetail urlsplit message ∧ text.length ≤ 1024 ∧
    text.any PyChar.isNul = false

theorem sanitised_replicate_iff {urlsplit : PyStr → Option SplitUrl} {message text : PyStr}
    {count : ℕ} (hcount : 0 < count) (hnul : text.any PyChar.isNul = false) :
    Sanitised urlsplit message (List.replicate count text) ↔
      text = safeErrorDetail urlsplit message := by
  constructor
  · intro h
    exact (h text (List.mem_replicate.mpr ⟨hcount.ne', rfl⟩)).1
  · intro hsafe other hother
    rw [List.eq_of_mem_replicate hother]
    constructor
    · exact hsafe
    · constructor
      · rw [hsafe]
        exact length_safeErrorDetail urlsplit message
      · exact hnul

namespace OutboxDispatch

/-- `_audit_delivery_failure` of what a publisher raised. -/
def auditRaised (uuid5 : String → String) (urlsplit : PyStr → Option SplitUrl)
    (workerId : String) (delivery : OutboxDelivery) (raised : PyStr) (now : Instant) :
    WorkTx Unit := do
  let text ← lift (safeErrorDetail urlsplit raised).stored
  auditFailure uuid5 workerId delivery text now

/-- The text that the audit record of a failed delivery has. -/
def failureTexts (uuid5 : String → String) (delivery : OutboxDelivery) (rows : WorkRows) :
    List PyStr :=
  ((auditAt rows (uuid5 s!"audit:outbox.failed:{delivery.event.eventId}:{delivery.attempt}")
    ).bind fun record => Payload.errorText record.metadata).toList.map PyStr.of

theorem auditRaised_sanitised {uuid5 : String → String} {urlsplit : PyStr → Option SplitUrl}
    {workerId : String} {delivery : OutboxDelivery} {raised : PyStr} {now : Instant}
    {locked : LockedRows} {rows rows' : WorkRows}
    (h : (auditRaised uuid5 urlsplit workerId delivery raised now).atomically locked rows =
      .ok ((), rows')) :
    Sanitised urlsplit raised (failureTexts uuid5 delivery rows') := by
  rw [atomically_eq_ok] at h
  obtain ⟨own, h, rfl⟩ := h
  rw [auditRaised, execute_bind_eq_ok] at h
  obtain ⟨kept, _, hkept, h⟩ := h
  obtain ⟨hstored, rfl⟩ := execute_lift_eq_ok.mp hkept
  obtain rfl := AuditRepository.append_eq_ok h
  obtain ⟨hof, hnul⟩ := of_stored hstored
  have htexts : ∀ record : AuditRecord, record.auditId =
        uuid5 s!"audit:outbox.failed:{delivery.event.eventId}:{delivery.attempt}" →
      Payload.errorText record.metadata = some kept →
      failureTexts uuid5 delivery ([⟨WorkKey.auditLog record.auditId, some record⟩] ++ rows) =
        List.replicate 1 (PyStr.of kept) := by
    intro record hid herror
    rw [failureTexts, List.singleton_append, auditAt_audit, if_pos hid, Option.bind_some, herror]
    rfl
  rw [htexts _ rfl rfl, sanitised_replicate_iff Nat.zero_lt_one (hof ▸ hnul)]
  exact hof

end OutboxDispatch

namespace JobRuns

/-- The text of the exception that a handler ends with. -/
def HandlerEnd.message : HandlerEnd → Option PyStr
  | .retryable message => some message
  | .permanent message => some message
  | .raised message => some message
  | .returned _ => none
  | .exited => none

/-- What `run_next` hands to `_record_failure` as the error. -/
def HandlerEnd.error (urlsplit : PyStr → Option SplitUrl) : HandlerEnd → Option PyStr
  | .retryable message => some (safeErrorDetail urlsplit message)
  | .permanent message => some message
  | .raised message => some (safeErrorDetail urlsplit message)
  | .returned _ => none
  | .exited => none

/-- `JobRunResult` of a failure. -/
structure JobRunResult where
  jobId : String
  state : JobState
  attempt : ℕ
  error : Option PyStr

def HandlerEnd.result (urlsplit : PyStr → Option SplitUrl) (failed : JobRecord)
    (ended : HandlerEnd) : JobRunResult :=
  ⟨failed.execution.jobId, failed.execution.state, failed.execution.attempt,
    ended.error urlsplit⟩

/-- The error texts in the job's row, in the event and the audit record of the failure, and
in the result of the run. -/
def JobRun.failureTexts (uuid5 : String → String) (run : JobRun) (failed : JobRecord)
    (result : JobRunResult) (rows : WorkRows) : List PyStr :=
  let event := JobRunner.eventFor uuid5 run.claimed failed.execution.state "" 0 0
  let audit := JobRunner.auditFor uuid5 run.claimed failed.execution.state.value "" 0
  (((jobAt rows run.jobId).bind JobRow.lastError).toList ++
    ((eventAt rows event.eventId).bind fun row =>
      Payload.errorText row.event.payload).toList ++
    ((auditAt rows audit.auditId).bind fun record =>
      Payload.errorText record.metadata).toList).map PyStr.of ++
    result.error.toList

section Failures

variable {uuid5 : String → String} {urlsplit : PyStr → Option SplitUrl}
  {dumps : PyMapping → String} {run : JobRun} {ended : HandlerEnd}
  {message error : PyStr} {now : Instant} {tx : WorkTx JobRecord} {locked : LockedRows}
  {rows rows' : WorkRows} {failed : JobRecord}

/-- The error is in all four places. -/
theorem failureTexts_eq {retryable : Bool} {result : JobRunResult}
    (hresult : result.error = some error)
    (hcommit : (JobRunner.failWith uuid5 run.runner.retryPolicy run.runner.workerId run.claimed
      error retryable now).atomically locked rows = .ok (failed, rows')) :
    run.failureTexts uuid5 failed result rows' = List.replicate 4 error ∧
      error.any PyChar.isNul = false := by
  obtain ⟨_, _, kept, hstored, hfailure⟩ := failWith_eq_ok.mp hcommit
  obtain ⟨hof, hnul⟩ := of_stored hstored
  obtain ⟨row, availableAt, _, _, hwritten⟩ := recordFailure_report hfailure
  constructor
  · have hjob := hwritten.jobAt_eq run.jobId
    have hid : run.claimed.execution.jobId = run.jobId := rfl
    rw [if_pos hid] at hjob
    obtain ⟨event, hevent, hsame⟩ := hwritten.eventAt_self
    have haudit := hwritten.auditAt_eq
      (JobRunner.auditFor uuid5 run.claimed failed.execution.state.value "" 0).auditId
    have hauditId :
        (JobRunner.auditFor uuid5 run.claimed failed.execution.state.value kept now).auditId =
          (JobRunner.auditFor uuid5 run.claimed failed.execution.state.value "" 0).auditId := rfl
    rw [if_pos hauditId] at haudit
    have heventId : (JobRunner.eventFor uuid5 run.claimed failed.execution.state "" 0 0).eventId =
        (JobRunner.eventFor uuid5 run.claimed failed.execution.state kept availableAt
          now).eventId := rfl
    have hpayload : Payload.errorText event.event.payload = some kept := by
      rw [hsame]
      rfl
    rw [JobRun.failureTexts, hjob, haudit, heventId, hevent, hresult]
    simp only [Option.bind_some, hpayload]
    rw [← hof]
    rfl
  · exact hnul

/-- A failed run hands its error to the transaction that records it. -/
theorem conclude_error (hmessage : ended.message = some message)
    (htx : run.conclude uuid5 urlsplit dumps now ended = some tx) :
    ∃ error retryable, ended.error urlsplit = some error ∧
      tx = JobRunner.failWith uuid5 run.runner.retryPolicy run.runner.workerId run.claimed
        error retryable now ∧
      (error = safeErrorDetail urlsplit message ↔
        (ended.isPermanent = true → safeErrorDetail urlsplit message = message)) := by
  cases ended with
  | returned output => cases hmessage
  | exited => cases hmessage
  | retryable text =>
      obtain rfl := Option.some.inj hmessage
      exact ⟨_, true, rfl, (Option.some.inj htx).symm,
        iff_of_true rfl fun hpermanent => absurd hpermanent Bool.false_ne_true⟩
  | raised text =>
      obtain rfl := Option.some.inj hmessage
      exact ⟨_, true, rfl, (Option.some.inj htx).symm,
        iff_of_true rfl fun hpermanent => absurd hpermanent Bool.false_ne_true⟩
  | permanent text =>
      obtain rfl := Option.some.inj hmessage
      refine ⟨_, false, rfl, (Option.some.inj htx).symm, ?_⟩
      constructor
      · intro hsafe _
        exact hsafe.symm
      · intro hsafe
        exact (hsafe rfl).symm

/-- A failure that is recorded has the safe detail of the exception in the job's row, the
event, the audit record and the result exactly when the exception is not a permanent one, or
is one whose text is safe; what a dispatcher records of a publisher's exception is safe. -/
theorem failure_texts_sanitised_iff (uuid5 : String → String)
    (urlsplit : PyStr → Option SplitUrl) (dumps : PyMapping → String) (run : JobRun)
    (ended : HandlerEnd) (message : PyStr) (now : Instant)
    (tx : WorkTx JobRecord) (locked : LockedRows) (rows rows' : WorkRows) (failed : JobRecord)
    (hmessage : ended.message = some message)
    (htx : run.conclude uuid5 urlsplit dumps now ended = some tx)
    (hcommit : tx.atomically locked rows = .ok (failed, rows')) :
    (Sanitised urlsplit message (run.failureTexts uuid5 failed
        (ended.result urlsplit failed) rows') ∧
      ∀ (workerId : String) (delivery : OutboxDelivery) (raised : PyStr) (now : Instant)
        (locked : LockedRows) (rows rows' : WorkRows),
        (OutboxDispatch.auditRaised uuid5 urlsplit workerId delivery raised
          now).atomically locked rows = .ok ((), rows') →
        Sanitised urlsplit raised (OutboxDispatch.failureTexts uuid5 delivery rows')) ↔
      (ended.isPermanent = true → safeErrorDetail urlsplit message = message) := by
  obtain ⟨error, retryable, herror, rfl, hsafe⟩ := conclude_error hmessage htx
  obtain ⟨htexts, hnul⟩ := @failureTexts_eq uuid5 run error now locked rows rows' failed
    retryable (ended.result urlsplit failed) herror hcommit
  rw [htexts, sanitised_replicate_iff (by decide) hnul, hsafe]
  constructor
  · exact And.left
  · intro hpermanent
    constructor
    · exact hpermanent
    · intro workerId delivery raised now locked rows rows' hrecorded
      exact OutboxDispatch.auditRaised_sanitised hrecorded

/-- A claimed job whose handler raises a permanent error. -/
def claimedFailure (message : PyStr) : WorkTx JobRecord :=
  JobRunner.failWith prefixed reportRunner.retryPolicy "worker" claimedRun.claimed message
    false 1

theorem claimedFailure_eq (message : PyStr) :
    claimedRun.conclude prefixed (fun _ => none) (fun _ => "\x7b\x7d") 1 (.permanent message) =
      some (claimedFailure message) := rfl

theorem committed_of_toBool {outcome : Except Failure (JobRecord × WorkRows)}
    (h : outcome.toBool = true) : ∃ failed rows', outcome = .ok (failed, rows') := by
  cases outcome with
  | error failure => cases h
  | ok result => exact ⟨result.1, result.2, rfl⟩

theorem claimedFailure_commits : ∃ failed rows',
    (claimedFailure (PyStr.of "lost")).atomically (fun _ => false) claimedWorld.rows =
      .ok (failed, rows') := by
  apply committed_of_toBool
  with_unfolding_all rfl

theorem failure_texts_sanitised_iff_lost : ∃ failed rows', Sanitised (fun _ => none)
    (PyStr.of "lost") (claimedRun.failureTexts prefixed failed
      ((HandlerEnd.permanent (PyStr.of "lost")).result (fun _ => none) failed) rows') := by
  obtain ⟨failed, rows', hcommit⟩ := claimedFailure_commits
  have hsafe : safeErrorDetail (fun _ => none) (PyStr.of "lost") = PyStr.of "lost" := by
    decide
  exact ⟨failed, rows', ((failure_texts_sanitised_iff prefixed (fun _ => none)
    (fun _ => "\x7b\x7d") claimedRun (.permanent (PyStr.of "lost")) _ 1 _ (fun _ => false) _ _
    failed rfl (claimedFailure_eq _) hcommit).mpr fun _ => hsafe).1⟩

theorem claimedLeak_commits : ∃ failed rows',
    (claimedFailure (PyStr.of "token abc")).atomically (fun _ => false) claimedWorld.rows =
      .ok (failed, rows') := by
  apply committed_of_toBool
  with_unfolding_all rfl

/-- The text of a permanent error is stored with its token. -/
theorem permanent_error_leaks : ¬ ∀ (run : JobRun) (ended : HandlerEnd) (message : PyStr)
    (now : Instant) (tx : WorkTx JobRecord) (rows rows' : WorkRows) (failed : JobRecord),
    ended.message = some message →
    run.conclude prefixed (fun _ => none) (fun _ => "\x7b\x7d") now ended = some tx →
    tx.atomically (fun _ => false) rows = .ok (failed, rows') →
    Sanitised (fun _ => none) message (run.failureTexts prefixed failed
      (ended.result (fun _ => none) failed) rows') := by
  intro hclaim
  obtain ⟨failed, rows', hcommit⟩ := claimedLeak_commits
  have hsanitised := hclaim claimedRun (.permanent (PyStr.of "token abc")) _ 1 _ _ _ failed rfl
    (claimedFailure_eq _) hcommit
  rw [(failureTexts_eq rfl hcommit).1] at hsanitised
  have hsafe := (hsanitised _ (List.mem_replicate.mpr ⟨by decide, rfl⟩)).1
  exact absurd hsafe (by decide)

end Failures

end JobRuns

end ShemaPlatform
