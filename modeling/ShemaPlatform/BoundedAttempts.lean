/-
How often the handler of a job is started.  The retry policy bounds the
retries, but the claim of an expired job does not ask it.
-/
import ShemaPlatform.JobRuns

namespace ShemaPlatform

open Calendar ReadCommitted ReadCommitted.Prog

namespace JobRuns

def World.claims (world : World) (jobId : String) : ℕ :=
  world.runs.countP fun run => run.jobId == jobId

theorem World.starts_le_claims (world : World) (jobId : String) :
    world.starts jobId ≤ world.claims jobId := by
  apply List.countP_mono_left
  intro run _ hrun
  exact (Bool.and_eq_true_iff.mp hrun).2

/-- The action does not carry a job past its last attempt: a claim that takes
it over from an expired run finds an attempt left, and so does a retry that is
recorded. -/
def World.Spares (world : World) (maxAttempts : ℕ) (jobId : String) :
    Action → Prop
  | .claim _ locked _ now =>
      JobRepository.candidate now locked world.rows = some jobId →
        ∀ row, jobAt world.rows jobId = some row → row.state = .running →
          row.attempt < maxAttempts
  | .finish index (.raised _) now =>
      ∀ run row, world.runs[index]? = some run → run.jobId = jobId →
        jobAt world.rows jobId = some row →
        row.heldBy run.runner.workerId now = true →
        run.runner.retryPolicy.isRetryable run.claimed.execution.attempt = true →
          row.attempt < maxAttempts
  | _ => True

/-- Every action of the run spares the job. -/
def Spared (uuid5 : String → String) (maxAttempts : ℕ) (jobId : String) :
    World → List Action → Prop
  | _, [] => True
  | world, action :: rest => world.Spares maxAttempts jobId action ∧
      Spared uuid5 maxAttempts jobId (world.step uuid5 action) rest

/-- The runner of a claim follows a policy with this many attempts. -/
def Action.Follows (maxAttempts : ℕ) : Action → Prop
  | .claim runner _ _ _ => runner.retryPolicy.maxAttempts = maxAttempts
  | _ => True

/-- The claims of a job stay behind its attempt, and the attempt within the
bound. -/
structure WithinBound (maxAttempts : ℕ) (jobId : String) (world : World)
    (row : JobRow) : Prop where
  row_eq : jobAt world.rows jobId = some row
  claims_le : world.claims jobId ≤ row.slot.turn
  turn_le : row.slot.turn ≤ maxAttempts
  queued_first : row.state = .queued → row.attempt = 1
  retry_left : row.state = .retryableFailure → row.attempt < maxAttempts

section Steps

variable {uuid5 : String → String} {maxAttempts : ℕ} {jobId : String}
  {world : World} {row : JobRow} {action : Action}

theorem slot_turn_eq {row : JobRow} (hstate : row.state ≠ .queued) :
    row.slot.turn = row.attempt := by
  simp [JobRow.slot, hstate]

/-- The attempt a claim hands out is within the bound. -/
theorem WithinBound.nextAttempt_le (hbound : WithinBound maxAttempts jobId world row)
    (hpositive : 1 ≤ maxAttempts) {now : Instant}
    (hclaimable : row.claimable now = true)
    (hspares : row.state = .running → row.attempt < maxAttempts) :
    row.nextAttempt ≤ maxAttempts := by
  rcases JobRow.claimable_state hclaimable with hstate | hstate | hstate
  · have hattempt := hbound.queued_first hstate
    simp [JobRow.nextAttempt, hstate, hattempt, hpositive]
  · have hleft := hbound.retry_left hstate
    simp [JobRow.nextAttempt, hstate]
    omega
  · have hleft := hspares hstate
    simp [JobRow.nextAttempt, hstate]
    omega

theorem WithinBound.step_claimed {world' : World} {run : JobRun}
    {workerId : String} {leasedUntil : Instant}
    (hbound : WithinBound maxAttempts jobId world row)
    (hnext : row.nextAttempt ≤ maxAttempts) (hrun : run.jobId = jobId)
    (hruns : world'.runs = world.runs ++ [run])
    (hrow : jobAt world'.rows jobId = some (row.claimed workerId leasedUntil)) :
    WithinBound maxAttempts jobId world' (row.claimed workerId leasedUntil) where
  row_eq := hrow
  claims_le := by
    have hclaims := hbound.claims_le
    have hturn := row.slot_turn_lt
    simp only [World.claims] at hclaims
    simp only [World.claims, hruns, List.countP_append, List.countP_singleton, hrun,
      beq_self_eq_true, ↓reduceIte, JobRow.slot_claimed]
    omega
  turn_le := by
    rw [JobRow.slot_claimed]
    exact hnext
  queued_first := fun hstate => by simp [JobRow.claimed] at hstate
  retry_left := fun hstate => by simp [JobRow.claimed] at hstate

/-- A renewal or a report keeps the attempt. -/
theorem WithinBound.step_kept {world' : World} {row' : JobRow}
    (hbound : WithinBound maxAttempts jobId world row)
    (hruns : world'.runs = world.runs)
    (hrow : jobAt world'.rows jobId = some row') (hrunning : row.state = .running)
    (hattempt : row'.attempt = row.attempt) (hstate : row'.state ≠ .queued)
    (hretry : row'.state = .retryableFailure → row.attempt < maxAttempts) :
    WithinBound maxAttempts jobId world' row' := by
  have hturn : row'.slot.turn = row.slot.turn := by
    rw [slot_turn_eq hstate, hattempt, slot_turn_eq (by simp [hrunning])]
  constructor
  · exact hrow
  · rw [hturn, World.claims, hruns]
    exact hbound.claims_le
  · rw [hturn]
    exact hbound.turn_le
  · exact fun hqueued => absurd hqueued hstate
  · rw [hattempt]
    exact hretry

theorem WithinBound.step_other {world' : World}
    (hbound : WithinBound maxAttempts jobId world row)
    (hrow : jobAt world'.rows jobId = jobAt world.rows jobId)
    (hclaims : world'.claims jobId = world.claims jobId) :
    WithinBound maxAttempts jobId world' row where
  row_eq := hrow.trans hbound.row_eq
  claims_le := by
    rw [hclaims]
    exact hbound.claims_le
  turn_le := hbound.turn_le
  queued_first := hbound.queued_first
  retry_left := hbound.retry_left

/-- One action keeps the job within its bound. -/
theorem WithinBound.step (hbound : WithinBound maxAttempts jobId world row)
    (hspares : world.Spares maxAttempts jobId action)
    (hfollows : action.Follows maxAttempts) :
    ∃ row', WithinBound maxAttempts jobId (world.step uuid5 action) row' := by
  cases world.effect uuid5 action with
  | idle hrows hruns =>
      exact ⟨row, hbound.step_other (by rw [hrows]) (by rw [World.claims, hruns]; rfl)⟩
  | claimed runner locked survives started now claimedId found haction hcandidate
      hrow hclaimable hrows hruns =>
      subst haction
      by_cases hsame : claimedId = jobId
      · subst hsame
        obtain rfl := Option.some.inj (hrow.symm.trans hbound.row_eq)
        have hpositive : 1 ≤ maxAttempts := by
          rw [← hfollows]
          exact runner.retryPolicy.valid.1
        have hnext := hbound.nextAttempt_le hpositive hclaimable
          (hspares hcandidate found hrow)
        have hrow' := (congrArg (jobAt · claimedId) hrows).trans
          ((jobAt_job _ _ _).trans (if_pos rfl))
        exact ⟨_, hbound.step_claimed hnext rfl hruns hrow'⟩
      · refine ⟨row, hbound.step_other ?_ ?_⟩
        · rw [hrows, jobAt_job, if_neg hsame]
        · simp [World.claims, hruns, JobRun.jobId, JobRow.toRecord, hsame]
  | renewed index run found row' haction hrun hrow hheld hrenewed hjobs hruns =>
      have hrunning := (JobRow.heldBy_eq_true.mp hheld).1
      by_cases hsame : run.jobId = jobId
      · subst hsame
        obtain rfl := Option.some.inj (hrow.symm.trans hbound.row_eq)
        obtain ⟨leasedUntil, rfl⟩ := hrenewed
        have hrow' := (hjobs run.jobId).trans (if_pos rfl)
        refine ⟨_, hbound.step_kept hruns hrow' hrunning rfl ?_ ?_⟩
        · simp [JobRow.renewed, hrunning]
        · simp [JobRow.renewed, hrunning]
      · exact ⟨row, hbound.step_other ((hjobs _).trans (if_neg hsame))
          (by rw [World.claims, hruns]; rfl)⟩
  | reported index run found row' haction hrun hrow hheld hreport hjobs hruns =>
      have hrunning := (JobRow.heldBy_eq_true.mp hheld).1
      by_cases hsame : run.jobId = jobId
      · subst hsame
        obtain rfl := Option.some.inj (hrow.symm.trans hbound.row_eq)
        have hrow' := (hjobs run.jobId).trans (if_pos rfl)
        rcases hreport with rfl | ⟨retryable, error, availableAt, rfl, hretry⟩
        · refine ⟨_, hbound.step_kept hruns hrow' hrunning rfl ?_ ?_⟩
          · simp [JobRow.completed]
          · simp [JobRow.completed]
        · refine ⟨_, hbound.step_kept hruns hrow' hrunning rfl ?_ ?_⟩
          · cases retryable <;> simp [JobRow.failed]
          · intro hstate
            have hretryable : retryable = true := by
              cases retryable
              · simp [JobRow.failed] at hstate
              · rfl
            obtain ⟨⟨reason, now, rfl⟩, hleft⟩ := hretry hretryable
            exact hspares run found hrun rfl hrow hheld hleft
      · exact ⟨row, hbound.step_other ((hjobs _).trans (if_neg hsame))
          (by rw [World.claims, hruns]; rfl)⟩

/-- And so does every run of such actions. -/
theorem WithinBound.run {actions : List Action}
    (hbound : WithinBound maxAttempts jobId world row)
    (hspared : Spared uuid5 maxAttempts jobId world actions)
    (hfollows : ∀ action ∈ actions, action.Follows maxAttempts) :
    ∃ row', WithinBound maxAttempts jobId
      (actions.foldl (World.step uuid5) world) row' := by
  induction actions generalizing world row with
  | nil => exact ⟨row, hbound⟩
  | cons action rest ih =>
      have hfollow := hfollows action List.mem_cons_self
      obtain ⟨row', hstep⟩ : ∃ row', WithinBound maxAttempts jobId
          (world.step uuid5 action) row' := hbound.step hspared.1 hfollow
      exact ih hstep hspared.2 fun later hlater =>
        hfollows later (List.mem_cons_of_mem _ hlater)

end Steps

/-- A job enqueued as new is started at most as often as the policy allows, in
every run that spares it. -/
theorem starts_le_maxAttempts {uuid5 : String → String} {maxAttempts : ℕ}
    {record answer : JobRecord} {createdAt : Instant} {locked : LockedRows}
    {rows rows' : WorkRows} {actions : List Action}
    (henqueue : (JobRepository.enqueue record createdAt).atomically locked rows =
      .ok (answer, rows'))
    (hqueued : record.execution.state = .queued)
    (hattempt : record.execution.attempt = 1)
    (hfollows : ∀ action ∈ actions, action.Follows maxAttempts)
    (hspared : Spared uuid5 maxAttempts record.execution.jobId
      (World.start rows') actions) :
    (actions.foldl (World.step uuid5) (World.start rows')).starts
      record.execution.jobId ≤ maxAttempts := by
  obtain ⟨row, hrow, hrecord⟩ := JobRepository.enqueue_eq_ok henqueue
  rw [← hrecord] at hqueued hattempt
  have hslot : row.slot.turn = 0 := if_pos ⟨hqueued, hattempt⟩
  have hstart : WithinBound maxAttempts record.execution.jobId
      (World.start rows') row := by
    constructor
    · exact hrow
    · exact Nat.zero_le _
    · rw [hslot]
      exact Nat.zero_le _
    · exact fun _ => hattempt
    · intro hstate
      exact absurd (hqueued.symm.trans hstate) (by simp)
  obtain ⟨last, hlast⟩ := hstart.run hspared hfollows
  calc
    _ ≤ World.claims _ record.execution.jobId := World.starts_le_claims _ _
    _ ≤ last.slot.turn := hlast.claims_le
    _ ≤ maxAttempts := hlast.turn_le

/-- A runner that allows one attempt. -/
def onceRunner : JobRunner where
  handlers := ["report"]
  retryPolicy := ⟨1, 1000000, 60000000, by decide⟩
  leaseSeconds := 60
  workerId := "worker"
  valid := by decide

/-- One job, just enqueued. -/
def queuedRows : WorkRows :=
  [⟨WorkKey.jobIdempotencyKey "key-1", some "job-1"⟩,
    ⟨WorkKey.jobExecution "job-1",
      some (JobRow.ofRecord (JobRecord.queued "job-1" "report" "key-1" [] 0) 0)⟩]

/-- A run that ends well, and a claim that finds nothing to do. -/
def soundRun : List Action :=
  [.claim onceRunner (fun _ => false) true 0, .finish 0 (.returned none) 1,
    .claim onceRunner (fun _ => false) true (seconds 60)]

theorem spares_claim {world : World} {maxAttempts : ℕ} {jobId : String}
    (runner : JobRunner) (locked : LockedRows) (survives : Bool) (now : Instant)
    (hstate : (jobAt world.rows jobId).map JobRow.state ≠ some .running) :
    world.Spares maxAttempts jobId (.claim runner locked survives now) := by
  intro _ row hrow hrunning
  rw [hrow, Option.map_some, hrunning] at hstate
  exact absurd rfl hstate

theorem starts_le_maxAttempts_sound :
    (soundRun.foldl (World.step id) (World.start queuedRows)).starts "job-1" ≤ 1 := by
  have henqueue : (JobRepository.enqueue (JobRecord.queued "job-1" "report" "key-1"
      [] 0) 0).atomically (fun _ => false) [] =
        .ok (JobRecord.queued "job-1" "report" "key-1" [] 0, queuedRows) := rfl
  apply starts_le_maxAttempts henqueue rfl rfl
  · intro action haction
    simp only [soundRun, List.mem_cons, List.not_mem_nil, or_false] at haction
    rcases haction with rfl | rfl | rfl
    · rfl
    · trivial
    · rfl
  · constructor
    · apply spares_claim
      decide +kernel
    · constructor
      · trivial
      · constructor
        · apply spares_claim
          decide +kernel
        · trivial

/-- The worker crashes and the job is claimed again when its lease is over. -/
def crashRun : List Action :=
  [.claim onceRunner (fun _ => false) true 0,
    .claim onceRunner (fun _ => false) true (seconds 60)]

/-- One attempt is allowed and the handler is started twice. -/
theorem crash_starts_twice :
    ¬ ∀ actions : List Action, (∀ action ∈ actions, action.Follows 1) →
      (actions.foldl (World.step id) (World.start queuedRows)).starts "job-1" ≤ 1 := by
  intro hbound
  have hstarts := hbound crashRun (by
    intro action haction
    simp only [crashRun, List.mem_cons, List.not_mem_nil, or_false] at haction
    rcases haction with rfl | rfl <;> rfl)
  have htwice : (crashRun.foldl (World.step id) (World.start queuedRows)).starts
      "job-1" = 2 := by
    decide +kernel
  omega

end JobRuns

end ShemaPlatform
