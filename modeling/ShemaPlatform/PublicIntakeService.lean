/-
Calls of the public intake, each a chain of transactions with a lookup and a
projection in between, beside the dispatchers of its outbox.
-/
import ShemaPlatform.PublicIntakeRules
import ShemaPlatform.PublicPreflight
import ShemaPlatform.WorkflowRun

namespace ShemaPlatform

open Calendar ReadCommitted ReadCommitted.Prog

/-- What the constructor accepts, with the preflight as the composition wires it. -/
structure PublicIntakeService where
  preflight : PublicCounterpartyPreflightService
  submissionLimit : ℕ
  lookupLimit : ℕ
  windowSeconds : ℤ
  globalSubmissionLimit : ℕ
  maxPendingOutbox : ℕ
  enforceEdgeProof : Bool
  allowedOrigins : List String
  valid : 1 ≤ submissionLimit ∧ 1 ≤ lookupLimit ∧ 1 ≤ globalSubmissionLimit ∧
    1 ≤ maxPendingOutbox ∧ 1 ≤ windowSeconds

structure PublicIntakeResult where
  record : PublicIntakeRecord
  projectionStatus : String
  deduplicated : Bool
deriving DecidableEq

/-- A call of `submit` with what its `uuid4` draws and its clock reads. -/
structure Submission where
  payload : PublicIntakePayload
  idempotencyKey : String
  publicClientKey : String
  origin : Option String
  botChallengePassed : Bool
  correlationId : String
  honeypotValue : String
  requestId : String
  eventId : String
  reservedAt : Instant
  submittedAt : Instant
  completedAt : Instant
  projectedAt : Instant
deriving DecidableEq

namespace Submission

def key (call : Submission) : String := PyText.strip call.idempotencyKey

def notifyOperator (call : Submission) : Bool := PyText.blank call.honeypotValue

def status (call : Submission) : IntakeStatus :=
  if call.notifyOperator then .accepted else .quarantinedSpam

def record (sha256 : String → String) (call : Submission)
    (preflight : CounterpartyPreflightSnapshot) : PublicIntakeRecord where
  requestId := call.requestId
  correlationId := call.correlationId
  idempotencyKey := call.key
  requestHash := call.payload.requestHash sha256
  status := call.status
  payload := call.payload
  preflight := preflight
  createdAt := call.submittedAt

/-- The event that every recorded request appends. -/
def event (call : Submission) (preflight : CounterpartyPreflightSnapshot) :
    PublicIntakeOutboxEvent where
  eventId := call.eventId
  requestId := call.requestId
  eventType := if call.notifyOperator then "new_client_request"
    else "spam_or_abuse_quarantined"
  payload := [("request_id", .text call.requestId),
    ("correlation_id", .text call.correlationId),
    ("status", .text call.status.value),
    ("preflight_snapshot_id", .text preflight.snapshotId),
    ("preflight_decision", .text preflight.decision.value),
    ("entry_surface", .text call.payload.entrySurface)]
  occurredAt := call.submittedAt
  notifyOperator := call.notifyOperator

/-- What a second event is about: the end of its id, and its type. -/
def concern (preflight : CounterpartyPreflightSnapshot) : Option (String × String) :=
  if preflight.decision = .attention then some ("attention", "counterparty_attention")
  else if preflight.decision = .blockingFact then
    some ("blocking", "counterparty_blocking_fact")
  else if "PROVIDER_UNAVAILABLE" ∈ preflight.flags then
    some ("provider", "provider_unavailable")
  else none

/-- The event that some requests append besides. -/
def secondEvent (call : Submission) (preflight : CounterpartyPreflightSnapshot) :
    Option PublicIntakeOutboxEvent :=
  if call.notifyOperator then
    (concern preflight).map fun about =>
      { eventId := s!"{call.eventId}:{about.1}"
        requestId := call.requestId
        eventType := about.2
        payload := [("request_id", .text call.requestId),
          ("preflight_snapshot_id", .text preflight.snapshotId)]
        occurredAt := call.submittedAt
        notifyOperator := true }
  else none

end Submission

namespace PublicIntakeService

/-- Where a call of `submit` stands. -/
inductive Stage where
  | waiting
  | reserved
  | lookingUp (lookup : PreflightLookup)
  | budgeting (lookup : PreflightLookup)
  | asking (lookup : PreflightLookup)
  | caching (lookup : PreflightLookup) (preflight : CounterpartyPreflightSnapshot)
  | assessed (preflight : CounterpartyPreflightSnapshot)
  | recorded (record : PublicIntakeRecord)
  | projected (record : PublicIntakeRecord)
  | returned (result : PublicIntakeResult)
  | raised (error : Failure)
deriving DecidableEq

/-- `item.rstrip("/")` -/
def withoutSlash (item : String) : String :=
  String.ofList (item.toList.reverse.dropWhile (· == '/')).reverse

section Transactions

variable (sha256 : String → String) (service : PublicIntakeService) (call : Submission)

/-- `_validate_edge_proof` -/
@[irreducible] def validateEdgeProof : Except Failure Unit := do
  let ample (text : String) : Bool :=
    let length := (PyText.strip text).toList.length
    decide (8 ≤ length) && decide (length ≤ 128)
  require (ample call.key) (.securityRejected "Idempotency-Key must be 8-128 characters")
  require (ample call.publicClientKey)
    (.securityRejected "public client key must be 8-128 characters")
  if service.enforceEdgeProof then do
    require (!service.allowedOrigins.isEmpty)
      (.securityRejected "public origin allowlist is not configured")
    require ((service.allowedOrigins.map withoutSlash).contains
      (withoutSlash (call.origin.getD ""))) (.securityRejected "origin is not allowed")
    require call.botChallengePassed (.securityRejected "bot challenge is required")

/-- The result for a request that is on record. -/
def known (record : PublicIntakeRecord) : PublicIntakeResult where
  record := record
  projectionStatus := if record.projectedAt.isSome then "PROJECTED" else "PENDING_PROJECTION"
  deduplicated := true

/-- The first transaction: the key is reserved for this call, or its request is
returned. -/
def reserve : IntakeTx Stage := do
  lift (service.validateEdgeProof call)
  let reservation ← PublicIntakeRepository.reserveIdempotency call.key
    (call.payload.requestHash sha256) call.requestId call.reservedAt 120
  if reservation.state = "COMPLETE" then
    match ← PublicIntakeRepository.getByIdempotencyKey call.key with
    | none => raise (.idempotencyConflict
        "completed public-intake reservation references missing request")
    | some existing => return .returned (known existing)
  else if reservation.state = "IN_PROGRESS" then
    raise (.idempotencyConflict
      "public intake request with this idempotency key is already in progress")
  else
    return .reserved

/-- A request with this key is returned if it has the same payload. -/
def deduplicate (existing : PublicIntakeRecord) : IntakeTx Stage := do
  lift (require (existing.requestHash == call.payload.requestHash sha256)
    (.idempotencyConflict "idempotency key reused with different payload"))
  return .returned (known existing)

/-- Where the preflight starts. -/
def preflighted : Stage :=
  match PublicPreflight.begin service.preflight call.payload call.requestId
      call.submittedAt with
  | .ok (.inl preflight) => .assessed preflight
  | .ok (.inr lookup) => .lookingUp lookup
  | .error error => .raised error

/-- The second transaction, of `_submit_reserved`. -/
def admitCall : IntakeTx Stage := do
  lift (service.validateEdgeProof call)
  PublicIntakeRepository.consumeGlobalCircuit service.globalSubmissionLimit
    service.windowSeconds call.submittedAt
  PublicIntakeRepository.ensureOutboxCapacity service.maxPendingOutbox
  match ← PublicIntakeRepository.getByIdempotencyKey call.key with
  | some existing => deduplicate sha256 call existing
  | none => do
      PublicIntakeRepository.consumeBudget sha256 call.publicClientKey "submission"
        service.submissionLimit service.windowSeconds call.submittedAt
      return service.preflighted call

/-- `cache_lookup` -/
def lookUp (lookup : PreflightLookup) : IntakeTx Stage := do
  match ← PublicIntakeRepository.getPreflightCache lookup.cacheKey call.submittedAt with
  | some preflight => return .assessed preflight
  | none => return .budgeting lookup

/-- `consume_lookup_budget` -/
def budget (lookup : PreflightLookup) : IntakeTx Stage := do
  PublicIntakeRepository.consumeBudget sha256 call.publicClientKey "registry_lookup"
    service.lookupLimit service.windowSeconds call.submittedAt
  return .asking lookup

/-- `cache_store` -/
def cache (lookup : PreflightLookup) (preflight : CounterpartyPreflightSnapshot) :
    IntakeTx Stage := do
  PublicIntakeRepository.savePreflightCache lookup.cacheKey preflight
  return .assessed preflight

def appendSecond (preflight : CounterpartyPreflightSnapshot) : IntakeTx Unit :=
  match call.secondEvent preflight with
  | some event => PublicIntakeRepository.appendOutbox event
  | none => return ()

/-- The transaction that records the request. -/
def record (preflight : CounterpartyPreflightSnapshot) : IntakeTx Stage := do
  match ← PublicIntakeRepository.getByIdempotencyKey call.key with
  | some existing => deduplicate sha256 call existing
  | none => do
      PublicIntakeRepository.ensureOutboxCapacity service.maxPendingOutbox
      PublicIntakeRepository.savePreflightSnapshot preflight
      PublicIntakeRepository.add (call.record sha256 preflight)
      PublicIntakeRepository.appendOutbox (call.event preflight)
      PublicIntakeRepository.completeIdempotency call.key call.requestId call.completedAt
      appendSecond call preflight
      return .recorded (call.record sha256 preflight)

def markProjected (record : PublicIntakeRecord) : IntakeTx Stage := do
  PublicIntakeRepository.markProjected call.requestId call.projectedAt
  return .returned ⟨record, "PROJECTED", false⟩

/-- The transaction that a call opens next. -/
def transaction : Stage → Option (IntakeTx Stage)
  | .waiting => some (reserve sha256 service call)
  | .reserved => some (admitCall sha256 service call)
  | .lookingUp lookup => some (lookUp call lookup)
  | .budgeting lookup => some (budget sha256 service call lookup)
  | .caching lookup preflight => some (cache lookup preflight)
  | .assessed preflight => some (record sha256 service call preflight)
  | .projected record => some (markProjected call record)
  | _ => none

/-- Where an error of a transaction leaves the call; one after the request is on
record leaves it to the dispatcher, and outside a transaction there is none. -/
def recover : Stage → Failure → Stage
  | .recorded record, _ => .recorded record
  | .projected record, _ => .returned ⟨record, "PENDING_PROJECTION", false⟩
  | .returned result, _ => .returned result
  | _, error => .raised error

end Transactions

/-- What a call does outside the database: the provider answers each attempt, or
the projector runs. -/
inductive Action where
  | asked (answer : ℕ → LookupAnswer)
  | projects (outcome : Except Failure Unit)

/-- Where what was done outside leads to. -/
inductive Acts (service : PublicIntakeService) (call : Submission) :
    Stage → Action → Stage → Prop where
  | found (lookup : PreflightLookup) (answer : ℕ → LookupAnswer)
      (preflight : CounterpartyPreflightSnapshot) (record : CounterpartyProviderRecord)
      (hask : PublicPreflight.ask service.preflight call.payload.companyName call.requestId
        call.submittedAt lookup answer = .ok (preflight, some record)) :
      Acts service call (.asking lookup) (.asked answer) (.caching lookup preflight)
  | unavailable (lookup : PreflightLookup) (answer : ℕ → LookupAnswer)
      (preflight : CounterpartyPreflightSnapshot)
      (hask : PublicPreflight.ask service.preflight call.payload.companyName call.requestId
        call.submittedAt lookup answer = .ok (preflight, none)) :
      Acts service call (.asking lookup) (.asked answer) (.assessed preflight)
  | failed (lookup : PreflightLookup) (answer : ℕ → LookupAnswer) (error : Failure)
      (hask : PublicPreflight.ask service.preflight call.payload.companyName call.requestId
        call.submittedAt lookup answer = .error error) :
      Acts service call (.asking lookup) (.asked answer) (.raised error)
  | projects (record : PublicIntakeRecord) :
      Acts service call (.recorded record) (.projects (.ok ())) (.projected record)
  | fails (record : PublicIntakeRecord) (error : Failure) :
      Acts service call (.recorded record) (.projects (.error error))
        (.returned ⟨record, "PENDING_PROJECTION", false⟩)

end PublicIntakeService

/-- A call of `dispatch_pending` with what its clock reads. -/
structure Dispatch where
  dispatcher : PublicIntakeOutboxDispatcher
  now : Instant
  limit : ℕ
  projectedAt : String → Instant
  clock : String → Instant

namespace Dispatch

/-- Where a call of `dispatch_pending` stands, with the events it has still to
deliver. -/
inductive Stage where
  | claiming
  | delivering (events : List PublicIntakeOutboxEvent)
  | projecting (record : PublicIntakeRecord) (eventId : String)
      (rest : List PublicIntakeOutboxEvent)
  | marking (record : PublicIntakeRecord) (eventId : String)
      (rest : List PublicIntakeOutboxEvent)
  | raised (error : Failure)
deriving DecidableEq

variable (call : Dispatch)

def claim : IntakeTx Stage := do
  let events ← PublicIntakeRepository.claimPending call.dispatcher.workerId
    call.dispatcher.leaseSeconds call.now call.limit
  return .delivering events

/-- An event without a projection is published, and the request of any other one
is read. -/
def deliver (event : PublicIntakeOutboxEvent) (rest : List PublicIntakeOutboxEvent) :
    IntakeTx Stage :=
  if event.notifyOperator then do
    match ← PublicIntakeRepository.getByRequestId event.requestId with
    | none => raise (.integrityViolation "intake outbox event references missing request")
    | some record => return .projecting record event.eventId rest
  else do
    PublicIntakeRepository.markOutboxPublished event.eventId call.dispatcher.workerId
      (call.clock event.eventId)
    return .delivering rest

def mark (record : PublicIntakeRecord) (eventId : String)
    (rest : List PublicIntakeOutboxEvent) : IntakeTx Stage := do
  PublicIntakeOutboxDispatcher.mark call.dispatcher record.requestId eventId
    (call.projectedAt eventId) (call.clock eventId)
  return .delivering rest

def transaction : Stage → Option (IntakeTx Stage)
  | .claiming => some (claim call)
  | .delivering (event :: rest) => some (deliver call event rest)
  | .marking record eventId rest => some (mark call record eventId rest)
  | _ => none

/-- Where a projection leads to. -/
inductive Acts : Stage → Except Failure Unit → Stage → Prop where
  | projects (record : PublicIntakeRecord) (eventId : String)
      (rest : List PublicIntakeOutboxEvent) :
      Acts (.projecting record eventId rest) (.ok ()) (.marking record eventId rest)
  | fails (record : PublicIntakeRecord) (eventId : String)
      (rest : List PublicIntakeOutboxEvent) (error : Failure) :
      Acts (.projecting record eventId rest) (.error error) (.raised error)

end Dispatch

namespace PublicIntakeService

/-- A client of the intake database. -/
inductive Session where
  | submit (call : Submission) (stage : Stage)
  | dispatch (call : Dispatch) (stage : Dispatch.Stage)

/-- What a client does outside the database. -/
inductive Outside where
  | submission (action : Action)
  | projection (outcome : Except Failure Unit)

inductive Session.Acts (service : PublicIntakeService) :
    Session → Outside → Session → Prop where
  | submit {call : Submission} {stage after : Stage} {action : Action}
      (hacts : PublicIntakeService.Acts service call stage action after) :
      Session.Acts service (.submit call stage) (.submission action) (.submit call after)
  | dispatch {call : Dispatch} {stage after : Dispatch.Stage}
      {outcome : Except Failure Unit} (hacts : Dispatch.Acts stage outcome after) :
      Session.Acts service (.dispatch call stage) (.projection outcome)
        (.dispatch call after)

/-- Any number of submissions and dispatchers; what other transactions have locked
may be anything. -/
def flow (sha256 : String → String) (service : PublicIntakeService) :
    Workflow (IntakeKey → Bool) IntakeRow Failure Session Outside where
  code
    | .submit call stage => (transaction sha256 service call stage).map fun body =>
        body >>= fun after => Pure.pure (.submit call after)
    | .dispatch call stage => (Dispatch.transaction call stage).map fun body =>
        body >>= fun after => Pure.pure (.dispatch call after)
  recover
    | .submit call stage, error => .submit call (recover stage error)
    | .dispatch call _, error => .dispatch call (.raised error)
  outside session locked action after locked' :=
    locked' = locked ∧ Session.Acts service session action after
  aborts := Failure.infrastructure
  drift _ _ := True

/-- What a run of the intake records. -/
abbrev IntakeEvent (ι : Type) := Event ι IntakeRow Failure Session Outside

abbrev IntakeSys (ι : Type) := Sys ι (IntakeKey → Bool) IntakeRow Failure Session

/-- A client that has not done anything yet. -/
def Session.fresh : Session → Prop
  | .submit _ stage => stage = .waiting
  | .dispatch _ stage => stage = .claiming

end PublicIntakeService

end ShemaPlatform
