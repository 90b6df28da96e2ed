/-
Any number of runners over one job table.  A run claims a job, starts its
handler, may renew the lease and reports once; it may crash or be overtaken
anywhere, and clocks are arbitrary.
-/
import ShemaPlatform.JobRules

namespace ShemaPlatform

open Calendar ReadCommitted ReadCommitted.Prog

namespace JobRuns

/-- A run of `run_next` that claimed a job; `started` says whether it got as
far as calling the handler. -/
structure JobRun where
  runner : JobRunner
  claimed : JobRecord
  started : Bool

def JobRun.jobId (run : JobRun) : String := run.claimed.execution.jobId

inductive Stage where
  | crashed | unresolved | handling | ended
deriving DecidableEq, Repr

/-- The database, the runs in the order of their claims, and how far each of
them is. -/
structure World where
  rows : WorkRows
  runs : List JobRun
  stage : ℕ → Stage

/-- How a handler ends; `raised` stands for every exception that is not a
permanent one. -/
inductive Outcome where
  | returned (output : Option String)
  | raised (error : String)
  | permanent (error : String)

inductive Action where
  | claim (runner : JobRunner) (locked : LockedRows) (survives : Bool)
      (now : Instant)
  | renew (run : ℕ) (now : Instant)
  | finish (run : ℕ) (outcome : Outcome) (now : Instant)

/-- The run an action belongs to, unless it begins one. -/
def Action.run : Action → Option ℕ
  | .claim _ _ _ _ => none
  | .renew run _ => some run
  | .finish run _ _ => some run

def Action.now : Action → Instant
  | .claim _ _ _ now => now
  | .renew _ now => now
  | .finish _ _ now => now

/-- The transaction a finished handler leads to. -/
def JobRun.report (uuid5 : String → String) (run : JobRun) (now : Instant) :
    Outcome → WorkTx JobRecord
  | .returned output =>
      JobRunner.complete uuid5 run.jobId run.runner.workerId now output
  | .raised error =>
      JobRunner.recordFailure uuid5 run.runner.retryPolicy run.runner.workerId
        run.claimed error true now
  | .permanent error =>
      JobRunner.recordFailure uuid5 run.runner.retryPolicy run.runner.workerId
        run.claimed error false now

namespace World

def start (rows : WorkRows) : World := ⟨rows, [], fun _ => .crashed⟩

/-- A transaction of a run; a failed one leaves the rows alone. -/
def commit (world : World) (tx : WorkTx JobRecord) : WorkRows :=
  match tx.atomically (fun _ => false) world.rows with
  | .ok (_, rows) => rows
  | .error _ => world.rows

/-- Nothing is asked of the database between the claim and the handler's call,
so that both are one step. -/
def claim (world : World) (runner : JobRunner) (locked : LockedRows)
    (survives : Bool) (now : Instant) : World :=
  match (JobRepository.claimNext runner.workerId runner.leaseSeconds
      now).atomically locked world.rows with
  | .ok (some record, rows) =>
      let resolves := runner.handlers.contains record.execution.jobType
      ⟨rows, world.runs ++ [⟨runner, record, survives && resolves⟩],
        Function.update world.stage world.runs.length
          (if !survives then .crashed
            else if resolves then .handling else .unresolved)⟩
  | .ok (none, rows) => ⟨rows, world.runs, world.stage⟩
  | .error _ => world

def renew (world : World) (index : ℕ) (now : Instant) : World :=
  match world.runs[index]?, world.stage index with
  | some run, .handling =>
      ⟨world.commit (JobRepository.renew run.jobId run.runner.workerId
        run.runner.leaseSeconds now), world.runs, world.stage⟩
  | _, _ => world

/-- `resolve` raises a permanent error for a job type without a handler. -/
def finish (uuid5 : String → String) (world : World) (index : ℕ)
    (outcome : Outcome) (now : Instant) : World :=
  match world.runs[index]?, world.stage index with
  | some run, .handling =>
      ⟨world.commit (run.report uuid5 now outcome), world.runs,
        Function.update world.stage index .ended⟩
  | some run, .unresolved =>
      ⟨world.commit (run.report uuid5 now (.permanent
          s!"no handler registered for job type: {run.claimed.execution.jobType}")),
        world.runs, Function.update world.stage index .ended⟩
  | _, _ => world

def step (uuid5 : String → String) (world : World) : Action → World
  | .claim runner locked survives now => world.claim runner locked survives now
  | .renew index now => world.renew index now
  | .finish index outcome now => world.finish uuid5 index outcome now

/-- How often the handler of a job was started. -/
def starts (world : World) (jobId : String) : ℕ :=
  world.runs.countP fun run => run.started && run.jobId == jobId

/-- The run that claimed a job last. -/
def lastClaim (world : World) (jobId : String) : Option JobRun :=
  (world.runs.filter fun run => run.jobId == jobId).getLast?

end World

/-- A run whose job was claimed again. -/
def World.Superseded (world : World) (index : ℕ) : Prop :=
  ∃ run, world.runs[index]? = some run ∧
    ∃ later ∈ world.runs.drop (index + 1), later.jobId = run.jobId

/-- What one action can do: nothing, a claim, or a change of a job that is on
an unexpired lease under the worker id of the run. -/
inductive Effect (world : World) (action : Action) (rows' : WorkRows)
    (runs' : List JobRun) : Prop where
  | idle (hrows : rows' = world.rows) (hruns : runs' = world.runs)
  | claimed (runner : JobRunner) (locked : LockedRows) (survives started : Bool)
      (now : Instant) (jobId : String) (row : JobRow)
      (haction : action = .claim runner locked survives now)
      (hcandidate : JobRepository.candidate now locked world.rows = some jobId)
      (hrow : jobAt world.rows jobId = some row)
      (hclaimable : row.claimable now = true)
      (hrows : rows' = ⟨WorkKey.jobExecution jobId, some (row.claimed
        runner.workerId (now + seconds runner.leaseSeconds))⟩ :: world.rows)
      (hruns : runs' = world.runs ++ [⟨runner, (row.claimed runner.workerId
        (now + seconds runner.leaseSeconds)).toRecord jobId, started⟩])
  | renewed (index : ℕ) (run : JobRun) (row row' : JobRow)
      (haction : action.run = some index) (hrun : world.runs[index]? = some run)
      (hrow : jobAt world.rows run.jobId = some row)
      (hheld : row.heldBy run.runner.workerId action.now = true)
      (hrenewed : ∃ leasedUntil, row' = row.renewed run.runner.workerId leasedUntil)
      (hjobs : ∀ other, jobAt rows' other =
        if run.jobId = other then some row' else jobAt world.rows other)
      (hruns : runs' = world.runs)
  | reported (index : ℕ) (run : JobRun) (row row' : JobRow)
      (haction : action.run = some index) (hrun : world.runs[index]? = some run)
      (hrow : jobAt world.rows run.jobId = some row)
      (hheld : row.heldBy run.runner.workerId action.now = true)
      (hreport : row' = row.completed ∨ ∃ retryable error availableAt,
        row' = row.failed retryable error availableAt ∧
        (retryable = true → (∃ reason now, action = .finish index (.raised reason)
          now) ∧ run.runner.retryPolicy.isRetryable
            run.claimed.execution.attempt = true))
      (hjobs : ∀ other, jobAt rows' other =
        if run.jobId = other then some row' else jobAt world.rows other)
      (hruns : runs' = world.runs)

section Effects

variable {uuid5 : String → String} {world : World} {action : Action}
  {index : ℕ} {run : JobRun} {now : Instant}

theorem World.commit_eq (world : World) (tx : WorkTx JobRecord) :
    world.commit tx = world.rows ∨ ∃ record,
      tx.atomically (fun _ => false) world.rows = .ok (record, world.commit tx) := by
  unfold commit
  split
  · rename_i record rows hcommit
    exact Or.inr ⟨record, hcommit⟩
  · exact Or.inl rfl

theorem effect_claim (runner : JobRunner) (locked : LockedRows) (survives : Bool)
    (now : Instant) :
    Effect world (.claim runner locked survives now)
      (world.claim runner locked survives now).rows
      (world.claim runner locked survives now).runs := by
  unfold World.claim
  split
  · rename_i record rows hclaim
    rcases JobRepository.claimNext_eq_ok hclaim with ⟨hnone, _⟩ |
      ⟨jobId, row, hcandidate, hrow, hclaimable, hrecord, hrows⟩
    · simp at hnone
    · obtain rfl := Option.some.inj hrecord
      apply Effect.claimed runner locked survives _ now jobId row rfl hcandidate
        hrow hclaimable hrows rfl
  · rename_i rows hclaim
    rcases JobRepository.claimNext_eq_ok hclaim with ⟨_, hrows⟩ |
      ⟨_, _, _, _, _, hrecord, _⟩
    · exact .idle hrows rfl
    · simp at hrecord
  · exact .idle rfl rfl

theorem effect_renew (haction : action = .renew index now)
    (hrun : world.runs[index]? = some run) :
    Effect world action (world.commit (JobRepository.renew run.jobId
      run.runner.workerId run.runner.leaseSeconds now)) world.runs := by
  subst haction
  rcases world.commit_eq (JobRepository.renew run.jobId run.runner.workerId
    run.runner.leaseSeconds now) with hsame | ⟨record, hrenew⟩
  · exact .idle hsame rfl
  · obtain ⟨row, hrow, hheld, _, hrows⟩ := JobRepository.renew_eq_ok hrenew
    rw [hrows]
    exact .renewed index run row _ rfl hrun hrow hheld ⟨_, rfl⟩
      (fun other => jobAt_job _ _ _) rfl

/-- A failure can bring a retry only of what the handler raised. -/
theorem effect_failure (haction : action.run = some index)
    (hnow : action.now = now) (hrun : world.runs[index]? = some run)
    {error : String} {retryable : Bool}
    (hretryable : retryable = true →
      ∃ reason now, action = .finish index (.raised reason) now) :
    Effect world action (world.commit (JobRunner.recordFailure uuid5
      run.runner.retryPolicy run.runner.workerId run.claimed error retryable
        now)) world.runs := by
  subst hnow
  rcases world.commit_eq (JobRunner.recordFailure uuid5 run.runner.retryPolicy
    run.runner.workerId run.claimed error retryable action.now) with
      hsame | ⟨record, hfail⟩
  · exact .idle hsame rfl
  · obtain ⟨row, availableAt, hrow, hheld, _, hreported⟩ :=
      JobRunner.recordFailure_eq_ok hfail
    apply Effect.reported index run row _ haction hrun hrow hheld (Or.inr
      ⟨_, error, availableAt, rfl, ?_⟩) hreported.job_eq rfl
    intro hretry
    rw [Bool.and_eq_true] at hretry
    exact ⟨hretryable hretry.1, hretry.2⟩

theorem effect_report (outcome : Outcome)
    (haction : action = .finish index outcome now)
    (hrun : world.runs[index]? = some run) :
    Effect world action (world.commit (run.report uuid5 now outcome))
      world.runs := by
  subst haction
  cases outcome with
  | returned output =>
      rcases world.commit_eq (JobRunner.complete uuid5 run.jobId
        run.runner.workerId now output) with hsame | ⟨record, hcomplete⟩
      · exact .idle hsame rfl
      · obtain ⟨row, hrow, hheld, _, hreported⟩ :=
          JobRunner.complete_eq_ok hcomplete
        exact .reported index run row _ rfl hrun hrow hheld (Or.inl rfl)
          hreported.job_eq rfl
  | raised error =>
      exact effect_failure rfl rfl hrun fun _ => ⟨error, now, rfl⟩
  | permanent error =>
      exact effect_failure rfl rfl hrun fun hnever => by simp at hnever

/-- Every action has one of the effects. -/
theorem World.effect (uuid5 : String → String) (world : World) (action : Action) :
    Effect world action (world.step uuid5 action).rows
      (world.step uuid5 action).runs := by
  cases action with
  | claim runner locked survives now =>
      exact effect_claim runner locked survives now
  | renew index now =>
      change Effect world _ (world.renew index now).rows (world.renew index now).runs
      unfold World.renew
      split
      · rename_i run hrun _
        exact effect_renew rfl hrun
      · exact .idle rfl rfl
  | finish index outcome now =>
      change Effect world _ (world.finish uuid5 index outcome now).rows
        (world.finish uuid5 index outcome now).runs
      unfold World.finish
      split
      · rename_i run hrun _
        exact effect_report outcome rfl hrun
      · rename_i run hrun _
        exact effect_failure rfl rfl hrun fun hnever => by simp at hnever
      · exact .idle rfl rfl

end Effects

end JobRuns

end ShemaPlatform
