/-
What a run can still do once its job was claimed again.  Ownership is checked
by worker id and lease, so it can do nothing unless the later claim was made
under its own worker id.
-/
import ShemaPlatform.BoundedAttempts

namespace ShemaPlatform

open Calendar ReadCommitted ReadCommitted.Prog

namespace JobRuns

/-- The holder of a claimed job is the worker of its last claim. -/
structure Owned (world : World) : Prop where
  holder : ∀ {jobId : String} {latest : JobRun} {row : JobRow}
    {workerId : String} {expiry : Instant},
    world.lastClaim jobId = some latest → jobAt world.rows jobId = some row →
    row.slot.held = some (workerId, expiry) → latest.runner.workerId = workerId

theorem owned_start (rows : WorkRows) : Owned (World.start rows) := by
  constructor
  intro jobId latest row workerId expiry hlatest _ _
  simp [World.lastClaim, World.start] at hlatest

section Steps

variable {uuid5 : String → String} {world world' : World} {action : Action}

theorem lastClaim_append {run : JobRun} (hruns : world'.runs = world.runs ++ [run])
    (jobId : String) : world'.lastClaim jobId =
      if run.jobId = jobId then some run else world.lastClaim jobId := by
  unfold World.lastClaim
  rw [hruns, List.filter_append]
  by_cases hsame : run.jobId = jobId
  · simp [hsame]
  · simp [hsame]

theorem lastClaim_eq_of_runs (hruns : world'.runs = world.runs) (jobId : String) :
    world'.lastClaim jobId = world.lastClaim jobId := by
  unfold World.lastClaim
  rw [hruns]

/-- A run that is on the list has a last claim of its job. -/
theorem lastClaim_of_run {index : ℕ} {run : JobRun}
    (hrun : world.runs[index]? = some run) :
    ∃ latest, world.lastClaim run.jobId = some latest := by
  have hmem : run ∈ world.runs.filter fun other => other.jobId == run.jobId := by
    simp [List.mem_of_getElem? hrun]
  obtain ⟨latest, hlatest⟩ :=
    Option.isSome_iff_exists.mp (List.getLast?_isSome.mpr (List.ne_nil_of_mem hmem))
  exact ⟨latest, hlatest⟩

/-- A change of a held job by a run leaves it with the same holder, if any. -/
theorem Owned.kept (howned : Owned world) (hruns : world'.runs = world.runs)
    {run : JobRun} {row row' : JobRow}
    (hrow : jobAt world.rows run.jobId = some row)
    (hjobs : ∀ other, jobAt world'.rows other =
      if run.jobId = other then some row' else jobAt world.rows other)
    (hheld : ∀ {workerId expiry}, row'.slot.held = some (workerId, expiry) →
      ∃ before, row.slot.held = some (workerId, before)) : Owned world' := by
  constructor
  intro jobId latest found workerId expiry hlatest hfound hslot
  rw [lastClaim_eq_of_runs hruns] at hlatest
  rw [hjobs] at hfound
  by_cases hsame : run.jobId = jobId
  · subst hsame
    obtain rfl : row' = found := by simpa using hfound
    obtain ⟨before, hbefore⟩ := hheld hslot
    exact howned.holder hlatest hrow hbefore
  · rw [if_neg hsame] at hfound
    exact howned.holder hlatest hfound hslot

theorem Owned.step (howned : Owned world) (action : Action) :
    Owned (world.step uuid5 action) := by
  cases world.effect uuid5 action with
  | idle hrows hruns =>
      constructor
      intro jobId latest row workerId expiry hlatest hrow hslot
      rw [lastClaim_eq_of_runs hruns] at hlatest
      rw [hrows] at hrow
      exact howned.holder hlatest hrow hslot
  | claimed runner locked survives started now claimedId row haction hcandidate
      hrow hclaimable hrows hruns =>
      constructor
      intro jobId latest found workerId expiry hlatest hfound hslot
      rw [lastClaim_append hruns] at hlatest
      rw [hrows, jobAt_job] at hfound
      by_cases hsame : claimedId = jobId
      · subst hsame
        obtain rfl := Option.some.inj ((if_pos rfl).symm.trans hlatest)
        obtain rfl := Option.some.inj ((if_pos rfl).symm.trans hfound)
        rw [JobRow.slot_claimed] at hslot
        exact (Prod.mk.inj (Option.some.inj hslot)).1
      · rw [if_neg hsame] at hfound
        have hother : ¬ JobRun.jobId ⟨runner, (row.claimed runner.workerId
            (now + seconds runner.leaseSeconds)).toRecord claimedId, started⟩ =
            jobId := hsame
        rw [if_neg hother] at hlatest
        exact howned.holder hlatest hfound hslot
  | renewed index run row row' haction hrun hrow hheld hrenewed hjobs hruns =>
      obtain ⟨leasedUntil, rfl⟩ := hrenewed
      apply howned.kept hruns hrow hjobs
      intro workerId expiry hslot
      have hstate := (JobRow.heldBy_eq_true.mp hheld).1
      obtain ⟨_, before, hbefore, _⟩ := JobRow.slot_heldBy hheld
      simp only [JobRow.slot, JobRow.renewed, hstate, ↓reduceIte, Option.map_some,
        Option.some.injEq, Prod.mk.injEq] at hslot
      rw [← hslot.1]
      exact ⟨before, hbefore⟩
  | reported index run row row' haction hrun hrow hheld hreport hjobs hruns =>
      apply howned.kept hruns hrow hjobs
      intro workerId expiry hslot
      rcases hreport with rfl | ⟨retryable, error, availableAt, rfl, _⟩
      · simp [JobRow.slot, JobRow.completed] at hslot
      · cases retryable <;> simp [JobRow.slot, JobRow.failed] at hslot

theorem Owned.run (howned : Owned world) (actions : List Action) :
    Owned (actions.foldl (World.step uuid5) world) := by
  induction actions generalizing world with
  | nil => exact howned
  | cons action rest ih => exact ih (howned.step action)

/-- A superseded run acts while the job is on an unexpired lease that a later
claim took under the same worker id. -/
def World.Impersonates (world : World) (action : Action) : Prop :=
  ∃ index run latest row lease, action.run = some index ∧
    world.runs[index]? = some run ∧ world.Superseded index ∧
    world.lastClaim run.jobId = some latest ∧
    latest.runner.workerId = run.runner.workerId ∧
    jobAt world.rows run.jobId = some row ∧ row.state = .running ∧
    row.lease = some lease ∧ action.now < lease.leasedUntil

theorem Owned.fenced (howned : Owned world) {index : ℕ}
    (hrun : action.run = some index) (hsuperseded : world.Superseded index)
    (hhonest : ¬ world.Impersonates action) :
    (world.step uuid5 action).rows = world.rows := by
  have hlive : ∀ {other : ℕ} {run : JobRun} {row : JobRow},
      action.run = some other → world.runs[other]? = some run →
      jobAt world.rows run.jobId = some row →
        ¬ row.heldBy run.runner.workerId action.now = true := by
    intro other run row hother hget hrow hheld
    obtain rfl := Option.some.inj (hrun.symm.trans hother)
    obtain ⟨hstate, leasedUntil, hlease, hnow⟩ := JobRow.heldBy_eq_true.mp hheld
    obtain ⟨_, before, hslot, _⟩ := JobRow.slot_heldBy hheld
    obtain ⟨latest, hlatest⟩ := lastClaim_of_run hget
    exact hhonest ⟨index, run, latest, row, _, hrun, hget, hsuperseded, hlatest,
      howned.holder hlatest hrow hslot, hrow, hstate, hlease, hnow⟩
  cases world.effect uuid5 action with
  | idle hrows _ => exact hrows
  | claimed _ _ _ _ _ _ _ haction _ _ _ _ _ =>
      rw [haction] at hrun
      simp [Action.run] at hrun
  | renewed other run row _ haction hget hrow hheld _ _ _ =>
      exact absurd hheld (hlive haction hget hrow)
  | reported other run row _ haction hget hrow hheld _ _ _ =>
      exact absurd hheld (hlive haction hget hrow)

end Steps

/-- In every run in which no superseded run acts under the id of a live claim,
superseded runs change nothing. -/
theorem superseded_fenced {uuid5 : String → String} {rows : WorkRows}
    {actions : List Action}
    (hhonest : ∀ before action after, actions = before ++ action :: after →
      ¬ (before.foldl (World.step uuid5) (World.start rows)).Impersonates action) :
    ∀ before action after index, actions = before ++ action :: after →
      action.run = some index →
      (before.foldl (World.step uuid5) (World.start rows)).Superseded index →
        ((before ++ [action]).foldl (World.step uuid5) (World.start rows)).rows =
          (before.foldl (World.step uuid5) (World.start rows)).rows := by
  intro before action after index hactions hrun hsuperseded
  rw [List.foldl_append]
  apply ((owned_start rows).run before).fenced hrun hsuperseded
  exact hhonest before action after hactions

/-- A runner with a worker id, and the others' settings. -/
def namedRunner (workerId : String) (hvalid : PyText.blank workerId = false) :
    JobRunner :=
  { onceRunner with workerId, valid := ⟨onceRunner.valid.1, hvalid⟩ }

/-- A slow run whose job is claimed again when its lease is over. -/
def overtaken (first second : JobRunner) : List Action :=
  [.claim first (fun _ => false) true 0,
    .claim second (fun _ => false) true (seconds 60)]

def lateReport : Action := .finish 0 (.returned none) (seconds 61)

theorem superseded_of_jobs {world : World} {jobId : String}
    (hjobs : world.runs.map JobRun.jobId = [jobId, jobId]) : world.Superseded 0 := by
  obtain ⟨run, rest, hruns, hrun, hrest⟩ := List.map_eq_cons_iff.mp hjobs
  obtain ⟨later, rest, rfl, hlater, hnil⟩ := List.map_eq_cons_iff.mp hrest
  refine ⟨run, by simp [hruns], later, ?_, hlater.trans hrun.symm⟩
  simp [hruns]

/-- With worker ids of their own the late report of the first runner is
refused. -/
theorem superseded_fenced_late :
    (((overtaken (namedRunner "worker-1" (by decide))
      (namedRunner "worker-2" (by decide))) ++ [lateReport]).foldl (World.step id)
        (World.start queuedRows)).rows =
      ((overtaken (namedRunner "worker-1" (by decide))
        (namedRunner "worker-2" (by decide))).foldl (World.step id)
          (World.start queuedRows)).rows := by
  apply superseded_fenced ?_ _ _ [] 0 rfl rfl
  · apply @superseded_of_jobs _ "job-1"
    decide +kernel
  · intro before action after hactions
    rintro ⟨index, run, latest, row, lease, hindex, hget, _, hlatest, hsame, _⟩
    rcases before with _ | ⟨_, _ | ⟨_, _ | ⟨_, _⟩⟩⟩
    · obtain ⟨rfl, _⟩ := List.cons.inj hactions
      simp [Action.run] at hindex
    · obtain ⟨_, htail⟩ := List.cons.inj hactions
      obtain ⟨rfl, _⟩ := List.cons.inj htail
      simp [Action.run] at hindex
    · simp only [overtaken, List.cons_append, List.nil_append,
        List.cons.injEq] at hactions
      obtain ⟨rfl, rfl, rfl, _⟩ := hactions
      obtain rfl : 0 = index := Option.some.inj hindex
      have hrun := congrArg (Option.map fun run : JobRun =>
        (run.jobId, run.runner.workerId)) hget
      have hfirst : some ("job-1", "worker-1") =
          some (run.jobId, run.runner.workerId) := by
        rw [Option.map_some] at hrun
        rw [← hrun]
        decide +kernel
      obtain ⟨hjob, hworker⟩ := Prod.mk.inj (Option.some.inj hfirst)
      have hlast := congrArg (Option.map fun run : JobRun => run.runner.workerId)
        hlatest
      rw [← hjob, Option.map_some, hsame, ← hworker] at hlast
      revert hlast
      decide +kernel
    · simp [overtaken] at hactions

/-- Both runners keep the default worker id: the late report of the first is
recorded as the completion of the second attempt. -/
theorem stale_report_recorded :
    let world := (overtaken onceRunner onceRunner).foldl (World.step id)
      (World.start queuedRows)
    let world' := world.step id lateReport
    world.Superseded 0 ∧
      (jobAt world.rows "job-1").map JobRow.state = some .running ∧
      (jobAt world'.rows "job-1").map JobRow.state = some .succeeded ∧
      (eventAt world.rows "job.completed:job-1:2").isNone ∧
      (eventAt world'.rows "job.completed:job-1:2").isSome := by
  constructor
  · apply @superseded_of_jobs _ "job-1"
    decide +kernel
  · decide +kernel

end JobRuns

end ShemaPlatform
