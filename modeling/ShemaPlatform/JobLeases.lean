/-
Any number of workers call the job repository, each under a worker id of its
own and with clock readings that never go back.  A job then has at most one
worker at a time, whatever the order of the calls.
-/
import ShemaPlatform.JobRules

namespace ShemaPlatform

open Calendar ReadCommitted ReadCommitted.Prog
open Lease (believed lastGrant)

namespace JobLeases

/-- A call of a worker.  Completion and failure are the runner's transactions
around the repository's; a failure brings the record its claim returned. -/
inductive Call where
  | claimNext (workerId : String) (leaseSeconds : ℤ)
  | renew (jobId workerId : String) (leaseSeconds : ℤ)
  | complete (jobId workerId : String) (output : Option String)
  | fail (claimed : JobRecord) (workerId : String) (policy : RetryPolicy)
      (error : String) (retryable : Bool)

namespace Call

def program (uuid5 : String → String) (now : Instant) :
    Call → WorkTx (Option JobRecord)
  | .claimNext workerId leaseSeconds =>
      JobRepository.claimNext workerId leaseSeconds now
  | .renew jobId workerId leaseSeconds => do
      let record ← JobRepository.renew jobId workerId leaseSeconds now
      return some record
  | .complete jobId workerId output => do
      let record ← JobRunner.complete uuid5 jobId workerId now output
      return some record
  | .fail claimed workerId policy error retryable => do
      let record ← JobRunner.recordFailure uuid5 policy workerId claimed error
        retryable now
      return some record

/-- The job and the worker of a call that needs a lease. -/
def holder : Call → Option (String × String)
  | .claimNext _ _ => none
  | .renew jobId workerId _ => some (jobId, workerId)
  | .complete jobId workerId _ => some (jobId, workerId)
  | .fail claimed workerId _ _ _ => some (claimed.execution.jobId, workerId)

/-- What an accepted call does to the lease of its job. -/
def act (now : Instant) (record : JobRecord) : Call → Lease.Act String Instant
  | .claimNext workerId leaseSeconds =>
      .grant workerId record.execution.attempt now (now + seconds leaseSeconds)
  | .renew _ workerId leaseSeconds =>
      .extend workerId now (now + seconds leaseSeconds)
  | .complete _ workerId _ => .release workerId record.execution.attempt now
  | .fail _ workerId _ _ _ => .release workerId record.execution.attempt now

/-- The attempt an accepted call reports on. -/
def reportedAttempt (record : JobRecord) : Call → ℕ
  | .fail claimed _ _ _ _ => claimed.execution.attempt
  | _ => record.execution.attempt

/-- What a worker receives from a claim. -/
def receipt (record : JobRecord) : Call → List (String × JobRecord)
  | .claimNext workerId _ => [(workerId, record)]
  | _ => []

end Call

/-- The database, the last clock reading, the accepted calls by job, and the
records claims returned, both newest first. -/
structure World where
  rows : WorkRows
  clock : Instant
  log : List (String × Lease.Act String Instant)
  received : List (String × JobRecord)

namespace World

def acts (world : World) (jobId : String) : List (Lease.Act String Instant) :=
  world.log.filterMap fun entry => if entry.1 = jobId then some entry.2 else none

/-- The record of a worker's latest claim of a job. -/
def lastClaim (world : World) (workerId jobId : String) : Option JobRecord :=
  (world.received.find? fun receipt =>
    receipt.1 == workerId && receipt.2.execution.jobId == jobId).map Prod.snd

def step (uuid5 : String → String) (world : World) (call : Call) (now : Instant)
    (locked : LockedRows) : World :=
  match (call.program uuid5 now).atomically locked world.rows with
  | .ok (some record, rows) =>
      ⟨rows, now, (record.execution.jobId, call.act now record) :: world.log,
        call.receipt record ++ world.received⟩
  | .ok (none, rows) => ⟨rows, now, world.log, world.received⟩
  | .error _ => ⟨world.rows, now, world.log, world.received⟩

@[simp] theorem clock_step (uuid5 : String → String) (world : World) (call : Call)
    (now : Instant) (locked : LockedRows) :
    (world.step uuid5 call now locked).clock = now := by
  unfold step
  split <;> rfl

end World

/-- A worker reports a failure of the claim it made last. -/
def Call.Own (world : World) : Call → Prop
  | .fail claimed workerId _ _ _ => ∀ record,
      world.lastClaim workerId claimed.execution.jobId = some record →
        claimed = record
  | _ => True

/-- Jobs nobody has claimed or reported on yet. -/
structure Fresh (world : World) : Prop where
  log_eq : world.log = []
  idle : ∀ {jobId row}, jobAt world.rows jobId = some row → row.state ≠ .running
  silent : ∀ {eventId row}, eventAt world.rows eventId = some row →
    row.event.reports = none

inductive Run (uuid5 : String → String) (first : World) : World → Prop where
  | start : Run uuid5 first first
  | step {world : World} (call : Call) (now : Instant) (locked : LockedRows)
      (hrun : Run uuid5 first world) (hclock : world.clock ≤ now)
      (hown : call.Own world) : Run uuid5 first (world.step uuid5 call now locked)

/-- What an accepted call does: one step of the lease on one job, and a report
of that job when the call is one. -/
structure Effect (call : Call) (now : Instant) (record : JobRecord)
    (rows rows' : WorkRows) (row row' : JobRow) : Prop where
  before : jobAt rows record.execution.jobId = some row
  after : ∀ other, jobAt rows' other =
    if record.execution.jobId = other then some row' else jobAt rows other
  step : Lease.Step row.slot (call.act now record) row'.slot
  unfinished : row.state ≠ .succeeded ∧ row.state ≠ .failed
  held : ∀ jobId workerId, call.holder = some (jobId, workerId) →
    jobId = record.execution.jobId ∧
      ∃ expiry, row.slot.held = some (workerId, expiry) ∧ now < expiry
  attempt_eq : row'.attempt = record.execution.attempt
  receipt_eq : call.receipt record = [] → row'.attempt = row.attempt
  events : (∀ eventId, eventAt rows' eventId = eventAt rows eventId) ∨
    ∃ event workerId, call.act now record = .release workerId row.attempt now ∧
      event.reports = some (record.execution.jobId, call.reportedAttempt record) ∧
      Reported rows rows' record.execution.jobId row' event

section Effects

variable {uuid5 : String → String} {call : Call} {now : Instant}
  {locked : LockedRows} {rows rows' : WorkRows} {record : JobRecord}

theorem atomically_some {p : WorkTx JobRecord}
    (h : (p >>= fun record => Pure.pure (some record) :
      WorkTx (Option JobRecord)).atomically locked rows =
        .ok (some record, rows')) :
    p.atomically locked rows = .ok (record, rows') := by
  rw [atomically_eq_ok] at h ⊢
  obtain ⟨own, h, rfl⟩ := h
  simp only [execute_bind_eq_ok, execute_pure_eq_ok, Option.some.injEq] at h
  obtain ⟨_, _, h, rfl, rfl⟩ := h
  exact ⟨_, h, rfl⟩

theorem unfinished_of_claimable {row : JobRow}
    (hclaimable : row.claimable now = true) :
    row.state ≠ .succeeded ∧ row.state ≠ .failed := by
  rcases JobRow.claimable_state hclaimable with hstate | hstate | hstate <;>
    simp [hstate]

theorem unfinished_of_heldBy {row : JobRow} {workerId : String}
    (hheld : row.heldBy workerId now = true) :
    row.state ≠ .succeeded ∧ row.state ≠ .failed := by
  simp [(JobRow.heldBy_eq_true.mp hheld).1]

theorem held_of_heldBy {row : JobRow} {jobId by' : String}
    (hheld : row.heldBy by' now = true) :
    ∀ other workerId, some (jobId, by') = some (other, workerId) →
      other = jobId ∧
        ∃ expiry, row.slot.held = some (workerId, expiry) ∧ now < expiry := by
  intro other workerId hholder
  obtain ⟨rfl, rfl⟩ := Prod.mk.inj (Option.some.inj hholder)
  exact ⟨rfl, (JobRow.slot_heldBy hheld).2⟩

/-- Every accepted call has its effect. -/
theorem Call.effect
    (h : (call.program uuid5 now).atomically locked rows =
      .ok (some record, rows')) :
    ∃ row row', Effect call now record rows rows' row row' := by
  cases call with
  | claimNext workerId leaseSeconds =>
      rcases JobRepository.claimNext_eq_ok h with ⟨hnone, _⟩ |
        ⟨jobId, row, _, hrow, hclaimable, hrecord, rfl⟩
      · simp at hnone
      · obtain rfl := Option.some.inj hrecord
        refine ⟨row, _, hrow, ?_, JobRow.step_claimed hclaimable,
          unfinished_of_claimable hclaimable, ?_, rfl, ?_, Or.inl ?_⟩
        · intro other
          exact jobAt_job _ _ _
        · simp [Call.holder]
        · simp [Call.receipt]
        · intro eventId
          simp
  | renew jobId workerId leaseSeconds =>
      obtain ⟨row, hrow, hheld, rfl, rfl⟩ :=
        JobRepository.renew_eq_ok (atomically_some h)
      refine ⟨row, _, hrow, ?_, JobRow.step_renewed hheld,
        unfinished_of_heldBy hheld, held_of_heldBy hheld, rfl, fun _ => rfl,
        Or.inl ?_⟩
      · intro other
        exact jobAt_job _ _ _
      · intro eventId
        simp
  | complete jobId workerId output =>
      obtain ⟨row, hrow, hheld, rfl, hreported⟩ :=
        JobRunner.complete_eq_ok (atomically_some h)
      refine ⟨row, _, hrow, hreported.job_eq, JobRow.step_completed hheld,
        unfinished_of_heldBy hheld, held_of_heldBy hheld, rfl, fun _ => rfl,
        Or.inr ?_⟩
      exact ⟨_, workerId, rfl, JobRunner.reports_completionEvent _ _ _ _, hreported⟩
  | fail claimed workerId policy error retryable =>
      obtain ⟨row, availableAt, hrow, hheld, rfl, hreported⟩ :=
        JobRunner.recordFailure_eq_ok (atomically_some h)
      refine ⟨row, _, hrow, hreported.job_eq, JobRow.step_failed _ _ _ hheld,
        unfinished_of_heldBy hheld, held_of_heldBy hheld, rfl, fun _ => rfl,
        Or.inr ?_⟩
      exact ⟨_, workerId, rfl, JobRunner.reports_eventFor _ _ _ _ _ _, hreported⟩

/-- A claim that finds nothing writes nothing. -/
theorem Call.effect_none
    (h : (call.program uuid5 now).atomically locked rows = .ok (none, rows')) :
    rows' = rows := by
  have hnever : ∀ p : WorkTx JobRecord,
      (p >>= fun record => Pure.pure (some record) :
        WorkTx (Option JobRecord)).atomically locked rows ≠ .ok (none, rows') := by
    intro p hp
    rw [atomically_eq_ok] at hp
    obtain ⟨own, hp, _⟩ := hp
    simp [execute_bind_eq_ok] at hp
  cases call with
  | claimNext workerId leaseSeconds =>
      rcases JobRepository.claimNext_eq_ok h with ⟨_, hrows⟩ |
        ⟨_, _, _, _, _, hrecord, _⟩
      · exact hrows
      · simp at hrecord
  | renew _ _ _ => exact absurd h (hnever _)
  | complete _ _ _ => exact absurd h (hnever _)
  | fail _ _ _ _ _ => exact absurd h (hnever _)

end Effects

/-- What every reachable world keeps. -/
structure Tracked (world : World) : Prop where
  history : ∀ jobId, Lease.History (world.acts jobId) (slotAt world.rows jobId)
  clock : ∀ entry ∈ world.log, entry.2.now ≤ world.clock
  received : ∀ {jobId row workerId expiry}, jobAt world.rows jobId = some row →
    row.slot.held = some (workerId, expiry) →
      ∃ record, world.lastClaim workerId jobId = some record ∧
        record.execution.attempt = row.attempt
  released : ∀ {eventId kept jobId attempt},
    eventAt world.rows eventId = some kept →
      kept.event.reports = some (jobId, attempt) →
        attempt ∈ (world.acts jobId).filterMap Lease.Act.released
  unique : ∀ {eventId eventId' kept kept' report},
    eventAt world.rows eventId = some kept →
    eventAt world.rows eventId' = some kept' →
    kept.event.reports = some report → kept'.event.reports = some report →
      eventId = eventId'

theorem Fresh.tracked {world : World} (hfresh : Fresh world) : Tracked world where
  history := by
    intro jobId
    have hslot : slotAt world.rows jobId = ⟨(slotAt world.rows jobId).turn, none⟩ := by
      cases hrow : jobAt world.rows jobId with
      | none => simp [slotAt, hrow]
      | some row => simp [slotAt, hrow, JobRow.slot, hfresh.idle hrow]
    rw [World.acts, hfresh.log_eq, hslot]
    exact Lease.History.start _
  clock := by simp [hfresh.log_eq]
  received := by
    intro jobId row workerId expiry hrow hheld
    simp [JobRow.slot, hfresh.idle hrow] at hheld
  released := by
    intro eventId kept jobId attempt hkept hreports
    simp [hfresh.silent hkept] at hreports
  unique := by
    intro eventId eventId' kept kept' report hkept _ hreports _
    simp [hfresh.silent hkept] at hreports

namespace Tracked

variable {uuid5 : String → String} {world : World} {call : Call}
  {now : Instant} {locked : LockedRows} {record : JobRecord} {rows' : WorkRows}
  {row row' : JobRow}

/-- The world after an accepted call. -/
def accepted (world : World) (call : Call) (now : Instant) (record : JobRecord)
    (rows' : WorkRows) : World :=
  ⟨rows', now, (record.execution.jobId, call.act now record) :: world.log,
    call.receipt record ++ world.received⟩

theorem acts_accepted (jobId : String) :
    (accepted world call now record rows').acts jobId =
      if record.execution.jobId = jobId then
        call.act now record :: world.acts jobId
      else world.acts jobId := by
  unfold accepted World.acts
  by_cases hsame : record.execution.jobId = jobId
  · simp [hsame]
  · simp [hsame]

theorem history_accepted (htracked : Tracked world)
    (heffect : Effect call now record world.rows rows' row row')
    (jobId : String) :
    Lease.History ((accepted world call now record rows').acts jobId)
      (slotAt rows' jobId) := by
  rw [acts_accepted, slotAt, heffect.after]
  by_cases hsame : record.execution.jobId = jobId
  · subst hsame
    simp only [↓reduceIte]
    have hhistory := htracked.history record.execution.jobId
    rw [slotAt_eq heffect.before] at hhistory
    exact hhistory.step heffect.step
  · simp only [hsame, ↓reduceIte]
    exact htracked.history jobId

theorem clock_accepted (htracked : Tracked world) (hclock : world.clock ≤ now) :
    ∀ entry ∈ (accepted world call now record rows').log,
      entry.2.now ≤ now := by
  intro entry hentry
  rcases List.mem_cons.mp hentry with rfl | hentry
  · cases call <;> exact le_refl _
  · exact (htracked.clock entry hentry).trans hclock

theorem lastClaim_eq (workerId : String) {jobId : String}
    (hother : call.receipt record = [] ∨ record.execution.jobId ≠ jobId) :
    (accepted world call now record rows').lastClaim workerId jobId =
      world.lastClaim workerId jobId := by
  cases call with
  | claimNext by' leaseSeconds =>
      rcases hother with hnone | hne
      · simp [Call.receipt] at hnone
      · simp [accepted, World.lastClaim, Call.receipt, hne]
  | renew _ _ _ => rfl
  | complete _ _ _ => rfl
  | fail _ _ _ _ _ => rfl

/-- The record of the last claim keeps up with the row of a held job. -/
theorem received_accepted (htracked : Tracked world)
    (heffect : Effect call now record world.rows rows' row row')
    {jobId workerId : String} {found : JobRow} {expiry : Instant}
    (hfound : jobAt rows' jobId = some found)
    (hheld : found.slot.held = some (workerId, expiry)) :
    ∃ claim, (accepted world call now record rows').lastClaim workerId jobId =
        some claim ∧ claim.execution.attempt = found.attempt := by
  rw [heffect.after] at hfound
  by_cases hsame : record.execution.jobId = jobId
  · simp only [hsame, ↓reduceIte, Option.some.injEq] at hfound
    subst hfound
    have hbefore := heffect.before
    have hstep := heffect.step
    have hattempt := heffect.receipt_eq
    rw [hsame] at hbefore
    cases call with
    | claimNext by' leaseSeconds =>
        rw [hstep.after_grant] at hheld
        obtain ⟨rfl, _⟩ := Prod.mk.inj (Option.some.inj hheld)
        refine ⟨record, ?_, heffect.attempt_eq.symm⟩
        simp [accepted, World.lastClaim, Call.receipt, hsame]
    | renew _ by' _ =>
        obtain ⟨hslot', before, hslot, _⟩ := hstep.around_extend
        rw [hslot'] at hheld
        obtain ⟨rfl, _⟩ := Prod.mk.inj (Option.some.inj hheld)
        rw [lastClaim_eq _ (Or.inl rfl), hattempt rfl]
        exact htracked.received hbefore hslot
    | complete _ _ _ =>
        rw [hstep.around_release.1] at hheld
        simp at hheld
    | fail _ _ _ _ _ =>
        rw [hstep.around_release.1] at hheld
        simp at hheld
  · simp only [hsame, ↓reduceIte] at hfound
    rw [lastClaim_eq _ (Or.inr hsame)]
    exact htracked.received hfound hheld

/-- A report is on the attempt the worker holds. -/
theorem reportedAttempt_eq (htracked : Tracked world) (hown : call.Own world)
    (heffect : Effect call now record world.rows rows' row row')
    (hreceipt : call.receipt record = []) :
    call.reportedAttempt record = row.attempt := by
  have hattempt : record.execution.attempt = row.attempt :=
    heffect.attempt_eq.symm.trans (heffect.receipt_eq hreceipt)
  cases call with
  | claimNext _ _ => exact hattempt
  | renew _ _ _ => exact hattempt
  | complete _ _ _ => exact hattempt
  | fail claimed workerId _ _ _ =>
      obtain ⟨hjob, expiry, hslot, _⟩ := heffect.held _ _ rfl
      obtain ⟨claim, hclaim, hclaimed⟩ := htracked.received heffect.before hslot
      rw [← hjob] at hclaim
      rw [Call.reportedAttempt, hown claim hclaim, hclaimed]

theorem receipt_of_release {workerId : String} {attempt : ℕ}
    (hact : call.act now record = .release workerId attempt now) :
    call.receipt record = [] := by
  cases call with
  | claimNext _ _ => simp [Call.act] at hact
  | renew _ _ _ => rfl
  | complete _ _ _ => rfl
  | fail _ _ _ _ _ => rfl

theorem mem_released_accepted {jobId : String} {attempt : ℕ}
    (hmem : attempt ∈ (world.acts jobId).filterMap Lease.Act.released) :
    attempt ∈ ((accepted world call now record rows').acts jobId).filterMap
      Lease.Act.released := by
  rw [acts_accepted]
  split_ifs with hsame
  · rw [List.filterMap_cons]
    split
    · exact hmem
    · exact List.mem_cons_of_mem _ hmem
  · exact hmem

/-- An event of the outbox was there before or reports the held attempt. -/
theorem event_accepted (htracked : Tracked world) (hown : call.Own world)
    (heffect : Effect call now record world.rows rows' row row')
    {eventId : String} {kept : OutboxRow}
    (hkept : eventAt rows' eventId = some kept) :
    eventAt world.rows eventId = some kept ∨
      kept.event.reports = some (record.execution.jobId, row.attempt) ∧
        eventId = kept.event.eventId ∧
        ∃ workerId, call.act now record = .release workerId row.attempt now := by
  rcases heffect.events with hsame |
    ⟨event, workerId, hact, hreports, hreported⟩
  · left
    rw [← hsame]
    exact hkept
  · rcases hreported.event_eq eventId with hsame | rfl
    · left
      rw [← hsame]
      exact hkept
    · right
      obtain ⟨found, hfound, rfl⟩ := hreported.event_mem
      obtain rfl := Option.some.inj (hkept.symm.trans hfound)
      rw [reportedAttempt_eq htracked hown heffect (receipt_of_release hact)]
        at hreports
      exact ⟨hreports, rfl, workerId, hact⟩

theorem released_accepted (htracked : Tracked world) (hown : call.Own world)
    (heffect : Effect call now record world.rows rows' row row')
    {eventId jobId : String} {kept : OutboxRow} {attempt : ℕ}
    (hkept : eventAt rows' eventId = some kept)
    (hreports : kept.event.reports = some (jobId, attempt)) :
    attempt ∈ ((accepted world call now record rows').acts jobId).filterMap
      Lease.Act.released := by
  rcases htracked.event_accepted hown heffect hkept with hold |
    ⟨hnew, _, workerId, hact⟩
  · exact mem_released_accepted (htracked.released hold hreports)
  · rw [hreports] at hnew
    obtain ⟨rfl, rfl⟩ := Prod.mk.inj (Option.some.inj hnew)
    rw [acts_accepted, if_pos rfl, hact]
    simp [Lease.Act.released]

/-- Nothing has reported on the attempt that is still held. -/
theorem unreported (htracked : Tracked world)
    (heffect : Effect call now record world.rows rows' row row')
    {workerId eventId : String} {kept : OutboxRow}
    (hact : call.act now record = .release workerId row.attempt now)
    (hkept : eventAt world.rows eventId = some kept) :
    kept.event.reports ≠ some (record.execution.jobId, row.attempt) := by
  intro hreports
  have hstep := heffect.step
  rw [hact] at hstep
  obtain ⟨_, hturn, expiry, hslot, _⟩ := hstep.around_release
  have hhistory := htracked.history record.execution.jobId
  rw [slotAt_eq heffect.before] at hhistory
  have hbehind := (hhistory.released_lt _
    (htracked.released hkept hreports)).2 (by simp [hslot])
  omega

theorem unique_accepted (htracked : Tracked world) (hown : call.Own world)
    (heffect : Effect call now record world.rows rows' row row')
    {eventId eventId' : String} {kept kept' : OutboxRow} {report : String × ℕ}
    (hkept : eventAt rows' eventId = some kept)
    (hkept' : eventAt rows' eventId' = some kept')
    (hreports : kept.event.reports = some report)
    (hreports' : kept'.event.reports = some report) : eventId = eventId' := by
  rcases heffect.events with hsame |
    ⟨event, workerId, hact, hevent, hreported⟩
  · rw [hsame] at hkept hkept'
    exact htracked.unique hkept hkept' hreports hreports'
  · have hold : ∀ {other : String} {found : OutboxRow},
        eventAt rows' other = some found → found.event.reports = some report →
          event.reports = some report → other = event.eventId := by
      intro other found hfound hother hreport
      rcases hreported.event_eq other with hunchanged | hnew
      · rw [hunchanged] at hfound
        rw [reportedAttempt_eq htracked hown heffect (receipt_of_release hact)]
          at hevent
        exact absurd (hother.trans (hreport.symm.trans hevent))
          (htracked.unreported heffect hact hfound)
      · exact hnew
    obtain ⟨found, hfound, hfoundEvent⟩ := hreported.event_mem
    rcases hreported.event_eq eventId with hunchanged | rfl
    · rcases hreported.event_eq eventId' with hunchanged' | rfl
      · rw [hunchanged] at hkept
        rw [hunchanged'] at hkept'
        exact htracked.unique hkept hkept' hreports hreports'
      · obtain rfl := Option.some.inj (hkept'.symm.trans hfound)
        rw [hfoundEvent] at hreports'
        exact hold hkept hreports hreports'
    · obtain rfl := Option.some.inj (hkept.symm.trans hfound)
      rw [hfoundEvent] at hreports
      exact (hold hkept' hreports' hreports).symm

theorem step_accepted (htracked : Tracked world) (hclock : world.clock ≤ now)
    (hown : call.Own world)
    (heffect : Effect call now record world.rows rows' row row') :
    Tracked (accepted world call now record rows') where
  history := htracked.history_accepted heffect
  clock := htracked.clock_accepted hclock
  received := htracked.received_accepted heffect
  released := htracked.released_accepted hown heffect
  unique := htracked.unique_accepted hown heffect

/-- A later clock reading alone changes nothing. -/
theorem wait (htracked : Tracked world) (hclock : world.clock ≤ now) :
    Tracked ⟨world.rows, now, world.log, world.received⟩ where
  history := htracked.history
  clock := fun entry hentry => (htracked.clock entry hentry).trans hclock
  received := htracked.received
  released := htracked.released
  unique := htracked.unique

theorem step (htracked : Tracked world) (hclock : world.clock ≤ now)
    (hown : call.Own world) : Tracked (world.step uuid5 call now locked) := by
  unfold World.step
  split
  · rename_i record rows hcall
    obtain ⟨row, row', heffect⟩ := Call.effect hcall
    exact htracked.step_accepted hclock hown heffect
  · rename_i rows hcall
    rw [Call.effect_none hcall]
    exact htracked.wait hclock
  · exact htracked.wait hclock

end Tracked

variable {uuid5 : String → String} {first world later : World}

theorem Run.tracked (hfresh : Fresh first) (hrun : Run uuid5 first world) :
    Tracked world := by
  induction hrun with
  | start => exact hfresh.tracked
  | step call now locked _ hclock hown ih => exact ih.step hclock hown

/-- A finished job stays as it is. -/
theorem finished_step (call : Call) (now : Instant) (locked : LockedRows)
    {jobId : String} {row : JobRow} (hrow : jobAt world.rows jobId = some row)
    (hstate : row.state = .succeeded ∨ row.state = .failed) :
    jobAt (world.step uuid5 call now locked).rows jobId = some row := by
  unfold World.step
  split
  · rename_i record rows hcall
    obtain ⟨before, after, heffect⟩ := Call.effect hcall
    have hother : record.execution.jobId ≠ jobId := by
      rintro rfl
      obtain rfl := Option.some.inj (hrow.symm.trans heffect.before)
      exact hstate.elim heffect.unfinished.1 heffect.unfinished.2
    change jobAt rows jobId = some row
    rw [heffect.after, if_neg hother, hrow]
  · rename_i rows hcall
    rw [Call.effect_none hcall]
    exact hrow
  · exact hrow

theorem Run.finished (hrun : Run uuid5 world later) {jobId : String}
    {row : JobRow} (hrow : jobAt world.rows jobId = some row)
    (hstate : row.state = .succeeded ∨ row.state = .failed) :
    jobAt later.rows jobId = some row := by
  induction hrun with
  | start => exact hrow
  | step call now locked _ _ _ ih => exact finished_step call now locked ih hstate

/-- What holds of the leases in a world and of every call made in it. -/
structure Exclusive (uuid5 : String → String) (world : World) : Prop where
  one_holder : ∀ {jobId workerId workerId' : String}
    {now expiry expiry' : Instant}, world.clock ≤ now →
    believed (world.acts jobId) workerId = some expiry → now < expiry →
    believed (world.acts jobId) workerId' = some expiry' → now < expiry' →
      workerId = workerId'
  accepted_from_holder : ∀ {call : Call} {now : Instant} {locked : LockedRows}
    {record : JobRecord} {rows : WorkRows} {jobId workerId : String},
    (call.program uuid5 now).atomically locked world.rows =
      .ok (some record, rows) →
    call.holder = some (jobId, workerId) →
      (∃ attempt, lastGrant (world.acts jobId) = some (workerId, attempt)) ∧
        ∃ expiry, believed (world.acts jobId) workerId = some expiry ∧
          now < expiry
  rejected_unchanged : ∀ {call : Call} {now : Instant} {locked : LockedRows},
    (∀ record rows, (call.program uuid5 now).atomically locked world.rows ≠
      .ok (some record, rows)) →
      (world.step uuid5 call now locked).rows = world.rows
  finished_final : ∀ {later : World} {jobId : String} {row : JobRow},
    Run uuid5 world later →
    jobAt world.rows jobId = some row →
    row.state = .succeeded ∨ row.state = .failed →
      jobAt later.rows jobId = some row
  attempts_increasing : ∀ jobId : String,
    ((world.acts jobId).filterMap Lease.Act.granted).Pairwise (· > ·)
  reported_once : ∀ {eventId eventId' : String} {kept kept' : OutboxRow}
    {report : String × ℕ},
    eventAt world.rows eventId = some kept →
    eventAt world.rows eventId' = some kept' →
    kept.event.reports = some report → kept'.event.reports = some report →
      eventId = eventId'

/-- Job leases are exclusive, whatever the workers call and in which order. -/
theorem exclusive_of_run (hfresh : Fresh first) (hrun : Run uuid5 first world) :
    Exclusive uuid5 world := by
  have htracked := hrun.tracked hfresh
  constructor
  · intro jobId workerId workerId' now expiry expiry' hclock hbelieved hlive
      hbelieved' hlive'
    apply (htracked.history jobId).exclusive ?_ hbelieved hlive hbelieved' hlive'
    intro act hact
    simp only [World.acts, List.mem_filterMap, Option.ite_none_right_eq_some,
      Option.some.injEq] at hact
    obtain ⟨entry, hentry, _, rfl⟩ := hact
    exact (htracked.clock entry hentry).trans hclock
  · intro call now locked record rows jobId workerId hcall hholder
    obtain ⟨row, row', heffect⟩ := Call.effect hcall
    obtain ⟨rfl, expiry, hslot, hlive⟩ := heffect.held jobId workerId hholder
    have hhistory := htracked.history record.execution.jobId
    rw [slotAt_eq heffect.before] at hhistory
    exact ⟨⟨_, hhistory.lastGrant_of_held hslot⟩, expiry,
      hhistory.believed_of_held hslot, hlive⟩
  · intro call now locked hrejected
    unfold World.step
    split
    · rename_i record rows hcall
      exact absurd hcall (hrejected record rows)
    · rename_i rows hcall
      exact Call.effect_none hcall
    · rfl
  · intro later jobId row hrun hrow hstate
    exact hrun.finished hrow hstate
  · intro jobId
    exact (htracked.history jobId).granted_increasing
  · intro eventId eventId' kept kept' report
    exact htracked.unique

/-- One new job. -/
def sampleRows : WorkRows :=
  [⟨WorkKey.jobExecution "job-1",
    some (JobRow.ofRecord (JobRecord.queued "job-1" "report" "key-1" [] 0) 0)⟩]

def sampleWorld : World := ⟨sampleRows, 0, [], []⟩

theorem fresh_sample : Fresh sampleWorld where
  log_eq := rfl
  idle := by
    intro jobId row hrow
    rw [sampleWorld, sampleRows, jobAt_job] at hrow
    split at hrow
    · obtain rfl := Option.some.inj hrow
      simp [JobRow.ofRecord, JobRecord.queued]
    · simp [jobAt] at hrow
  silent := by
    intro eventId row hrow
    rw [sampleWorld, sampleRows, eventAt_job] at hrow
    simp [eventAt] at hrow

/-- A claim, and another worker's claim once it has lapsed. -/
theorem exclusive_of_run_reclaim :
    Exclusive id ((sampleWorld.step id (.claimNext "worker-1" 60) 0
      fun _ => false).step id (.claimNext "worker-2" 60) (seconds 60)
        fun _ => false) := by
  have hclaimed : Run id sampleWorld _ :=
    Run.start.step (.claimNext "worker-1" 60) 0 (fun _ => false) (le_refl 0) trivial
  apply exclusive_of_run fresh_sample
  apply hclaimed.step
  · rw [World.clock_step]
    decide
  · trivial

end JobLeases

end ShemaPlatform
