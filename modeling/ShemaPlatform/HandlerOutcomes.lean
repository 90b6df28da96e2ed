/-
How a handler ends and what the runner makes of it: the values and texts that can
be recorded, and the transaction that records them.
-/
import ShemaPlatform.JobRuns
import ShemaPlatform.SafeErrors

namespace ShemaPlatform

open Calendar ReadCommitted ReadCommitted.Prog SafeErrors

/-- A `float`, with what tells whether JSON has it. -/
inductive PyFloat where
  | finite (value : ℚ)
  | infinite (negative : Bool)
  | nan
deriving DecidableEq

/-- A key of a `dict`. -/
inductive PyKey where
  | none
  | bool (value : Bool)
  | int (value : ℤ)
  | float (value : PyFloat)
  | text (value : PyStr)
  | other
deriving DecidableEq

/-- A value as `json.dumps` tells them apart. -/
inductive PyValue where
  | none
  | bool (value : Bool)
  | int (value : ℤ)
  | float (value : PyFloat)
  | text (value : PyStr)
  | list (items : List PyValue)
  | dict (entries : List (PyKey × PyValue))
  | other

abbrev PyMapping := List (PyKey × PyValue)

/-- `sys.get_int_max_str_digits()` -/
def maxIntDigits : ℕ := 4300

def shortInt (value : ℤ) : Bool :=
  decide ((Nat.toDigits 10 value.natAbs).length ≤ maxIntDigits)

/-- A text inside a `jsonb` value, which has no `\\u0000`. -/
def PyStr.storable (text : PyStr) : Bool := text.stored.toBool

namespace PyKey

def isText : PyKey → Bool
  | .text _ => true
  | _ => false

def isNumber : PyKey → Bool
  | .bool _ => true
  | .int _ => true
  | .float _ => true
  | _ => false

/-- The key becomes a text. -/
def encodable : PyKey → Bool
  | .int value => shortInt value
  | .text value => value.storable
  | .other => false
  | _ => true

/-- `sort_keys=True` compares them. -/
def sortable (keys : List PyKey) : Bool :=
  decide (keys.length ≤ 1) || keys.all isText || keys.all isNumber

end PyKey

namespace PyValue

mutual

/-- `json.dumps(…, ensure_ascii=False, sort_keys=True)` makes a text of the value
that `jsonb` takes. -/
def encodable : PyValue → Bool
  | .int value => shortInt value
  | .float (.finite _) => true
  | .float _ => false
  | .text value => value.storable
  | .list items => encodableItems items
  | .dict entries => PyKey.sortable (entries.map Prod.fst) && encodableEntries entries
  | .other => false
  | _ => true

def encodableItems : List PyValue → Bool
  | [] => true
  | item :: items => item.encodable && encodableItems items

def encodableEntries : List (PyKey × PyValue) → Bool
  | [] => true
  | entry :: entries =>
      entry.1.encodable && entry.2.encodable && encodableEntries entries

end

end PyValue

/-- The last instant a `datetime` can be. -/
def maxInstant : Instant := 253402300799999999

/-- `next_available_at` does not raise: the factor of the delay is a `float`, and
the sum is a `datetime`. -/
def RetryPolicy.schedulable (policy : RetryPolicy) (attempt : ℕ) (now : Instant) : Bool :=
  decide (attempt ≤ 1024) && decide (now + policy.delayFor attempt ≤ maxInstant)

namespace JobRunner

variable (uuid5 : String → String) (dumps : PyMapping → String)

def completionAudit (completed : JobRecord) (workerId : String) (now : Instant) :
    AuditRecord where
  auditId := uuid5
    s!"audit:job.completed:{completed.execution.jobId}:{completed.execution.attempt}"
  actorId := workerId
  action := "job.completed"
  resourceType := "job"
  resourceId := completed.execution.jobId
  outcome := "success"
  occurredAt := now
  metadata := [("attempt", .number completed.execution.attempt)]
  correlationId := none

/-- The output of a handler as a text of JSON. -/
def encodeOutput : Option PyMapping → Except Failure (Option String)
  | none => .ok none
  | some output => do
      require (PyValue.dict output).encodable
        (.valueError "output is not a value of JSON")
      return some (dumps output)

/-- `_complete` of what the handler returned. -/
def completeWith (jobId workerId : String) (now : Instant) (output : Option PyMapping) :
    WorkTx JobRecord := do
  let completed ← JobRepository.complete jobId workerId now
  let text ← lift (encodeOutput dumps output)
  let _ ← OutboxRepository.append (completionEvent uuid5 completed text now)
  AuditRepository.append (completionAudit uuid5 completed workerId now)
  return completed

/-- `_record_failure` of what the handler raised. -/
def failWith (policy : RetryPolicy) (workerId : String) (claimed : JobRecord)
    (error : PyStr) (retryable : Bool) (now : Instant) : WorkTx JobRecord := do
  let attempt := claimed.execution.attempt
  lift (require (!(retryable && policy.isRetryable attempt) || policy.schedulable attempt now)
    (.overflowError "date value out of range"))
  lift (require (!error.blank) (.valueError "error is required"))
  let text ← lift error.stored
  recordFailure uuid5 policy workerId claimed text retryable now

end JobRunner

namespace JobRuns

/-- How a handler ends: with a value, with one of the three kinds of `Exception`, or
with something that is none, such as `SystemExit`. -/
inductive HandlerEnd where
  | returned (output : Option PyMapping)
  | retryable (message : PyStr)
  | permanent (message : PyStr)
  | raised (message : PyStr)
  | exited

section Conclude

variable (uuid5 : String → String) (urlsplit : PyStr → Option SplitUrl)
  (dumps : PyMapping → String)

/-- The transaction that `run_next` opens once the handler has ended. -/
def JobRun.conclude (run : JobRun) (now : Instant) : HandlerEnd → Option (WorkTx JobRecord)
  | .returned output =>
      some (JobRunner.completeWith uuid5 dumps run.jobId run.runner.workerId now output)
  | .retryable message => some (JobRunner.failWith uuid5 run.runner.retryPolicy
      run.runner.workerId run.claimed (safeErrorDetail urlsplit message) true now)
  | .permanent message => some (JobRunner.failWith uuid5 run.runner.retryPolicy
      run.runner.workerId run.claimed message false now)
  | .raised message => some (JobRunner.failWith uuid5 run.runner.retryPolicy
      run.runner.workerId run.claimed (safeErrorDetail urlsplit message) true now)
  | .exited => none

/-- How a run ends whose handler ends so, if it has one. -/
def JobRun.ends (run : JobRun) (ended : HandlerEnd) : Stage → Option HandlerEnd
  | .handling => some ended
  | .unresolved => some (.permanent (PyStr.of
      s!"no handler registered for job type: {run.claimed.execution.jobType}"))
  | _ => none

/-- The rest of `run_next`. -/
def World.conclude (world : World) (index : ℕ) (ended : HandlerEnd) (now : Instant) : World :=
  match world.runs[index]? with
  | none => world
  | some run =>
      match run.ends ended (world.stage index) with
      | none => world
      | some ended =>
          ⟨(run.conclude uuid5 urlsplit dumps now ended).elim world.rows world.commit,
            world.runs, Function.update world.stage index .ended⟩

/-- A job that is enqueued. -/
def World.enqueue (world : World) (record : JobRecord) (createdAt : Instant) : World :=
  ⟨world.commit (JobRepository.enqueue record createdAt), world.runs, world.stage⟩

/-- Worlds that runs of any number of runners lead to. -/
inductive Reached (first : WorkRows) : World → Prop where
  | start : Reached first (World.start first)
  | enqueue {world : World} (record : JobRecord) (createdAt : Instant)
      (h : Reached first world) : Reached first (world.enqueue record createdAt)
  | claim {world : World} (runner : JobRunner) (locked : LockedRows) (survives : Bool)
      (now : Instant) (h : Reached first world) :
      Reached first (world.claim runner locked survives now)
  | renew {world : World} (index : ℕ) (now : Instant) (h : Reached first world) :
      Reached first (world.renew index now)
  | conclude {world : World} (index : ℕ) (ended : HandlerEnd) (now : Instant)
      (h : Reached first world) :
      Reached first (world.conclude uuid5 urlsplit dumps index ended now)

end Conclude

end JobRuns

end ShemaPlatform
