/-
The database of the public intake and the statements its repository sends.
-/
import Mathlib.Data.List.Sort
import ShemaPlatform.Foundation
import ShemaPlatform.PublicIntake
import ShemaPlatform.Transaction
import ShemaPlatform.WorkTables

namespace ShemaPlatform

open Calendar ReadCommitted ReadCommitted.Prog

structure PublicIntakeOutboxEvent where
  eventId : String
  requestId : String
  eventType : String
  payload : Payload
  occurredAt : Instant
  notifyOperator : Bool
deriving DecidableEq

/-- A row of `intake_outbox_event`. -/
structure IntakeOutboxRow where
  event : PublicIntakeOutboxEvent
  publishedAt : Option Instant
  deliveryAttempt : ℕ
  delivery : Option DeliveryLease
deriving DecidableEq

/-- A row of `intake_request`, apart from its key. -/
structure IntakeRequestRow where
  correlationId : String
  idempotencyKey : String
  requestHash : String
  status : IntakeStatus
  payload : PublicIntakePayload
  preflightSnapshotId : String
  createdAt : Instant
  projectedAt : Option Instant
deriving DecidableEq

/-- A row of `intake_preflight_snapshot`. -/
structure IntakeSnapshotRow where
  cacheKey : Option String
  snapshot : CounterpartyPreflightSnapshot
deriving DecidableEq

/-- A row of `intake_idempotency_reservation`. -/
structure IntakeReservationRow where
  requestHash : String
  requestId : String
  leasedUntil : Instant
  completedAt : Option Instant
deriving DecidableEq

structure IntakeCircuitRow where
  windowStartedAt : Instant
  usedCount : ℕ
  trippedUntil : Option Instant
deriving DecidableEq

/-- Row keys; the unique columns `idempotency_key` and `cache_key` keep which row
has them, and `outboxCapacity` is the advisory lock. -/
inductive IntakeKey where
  | request (requestId : String)
  | requestKey (idempotencyKey : String)
  | preflightSnapshot (snapshotId : String)
  | preflightCache (cacheKey : String)
  | outboxEvent (eventId : String)
  | rateLimit (clientKeyHash budget : String) (windowStartedAt : Instant)
  | reservation (idempotencyKey : String)
  | globalCircuit
  | outboxCapacity
deriving DecidableEq

@[reducible] def IntakeRow : IntakeKey → Type
  | .request _ => IntakeRequestRow
  | .requestKey _ => String
  | .preflightSnapshot _ => IntakeSnapshotRow
  | .preflightCache _ => String
  | .outboxEvent _ => IntakeOutboxRow
  | .rateLimit _ _ _ => ℕ
  | .reservation _ => IntakeReservationRow
  | .globalCircuit => IntakeCircuitRow
  | .outboxCapacity => ℕ

abbrev IntakeRows := Rows IntakeRow

/-- What `skip locked` passes over. -/
abbrev IntakeTx := Prog (IntakeKey → Bool) IntakeRow Failure

structure PublicIdempotencyReservation where
  requestId : String
  state : String
deriving DecidableEq

namespace PublicIntakeRepository

def snapshotOf (snapshotId : String) : IntakeTx (Option CounterpartyPreflightSnapshot) := do
  let row ← select (IntakeKey.preflightSnapshot snapshotId)
  return row.map IntakeSnapshotRow.snapshot

def toRecord (requestId : String) (row : IntakeRequestRow)
    (preflight : CounterpartyPreflightSnapshot) : PublicIntakeRecord where
  requestId := requestId
  correlationId := row.correlationId
  idempotencyKey := row.idempotencyKey
  requestHash := row.requestHash
  status := row.status
  payload := row.payload
  preflight := preflight
  createdAt := row.createdAt
  projectedAt := row.projectedAt

/-- The row of a request with its snapshot. -/
def load (requestId : String) : IntakeTx (Option PublicIntakeRecord) := do
  match ← select (IntakeKey.request requestId) with
  | none => return none
  | some row =>
      match ← snapshotOf row.preflightSnapshotId with
      | none => raise (.integrityViolation
          "intake request references missing preflight snapshot")
      | some snapshot => return some (toRecord requestId row snapshot)

def getByIdempotencyKey (key : String) : IntakeTx (Option PublicIntakeRecord) := do
  match ← select (IntakeKey.requestKey key) with
  | none => return none
  | some requestId => load requestId

/-- First the key of the request, then the request by its key. -/
def getByRequestId (requestId : String) : IntakeTx (Option PublicIntakeRecord) := do
  match ← select (IntakeKey.request requestId) with
  | none => return none
  | some row => getByIdempotencyKey row.idempotencyKey

def consumeGlobalCircuit (limit : ℕ) (windowSeconds : ℤ) (now : Instant) :
    IntakeTx Unit := do
  lift (require (decide (0 < limit)) (.valueError "global circuit limit must be positive"))
  lift (require (decide (0 < windowSeconds))
    (.valueError "global circuit window must be positive"))
  match ← selectForUpdate IntakeKey.globalCircuit with
  | none =>
      insert IntakeKey.globalCircuit
        ⟨now, 1, if limit = 1 then some (now + seconds windowSeconds) else none⟩
        (.uniqueViolation "intake_global_circuit_pkey")
  | some row => do
      lift (require (!row.trippedUntil.any fun tripped => decide (now < tripped))
        (.rateLimited "global public-intake circuit is open" "global_circuit"))
      let fresh := row.windowStartedAt + seconds windowSeconds ≤ now
      let nextCount := (if fresh then 0 else row.usedCount) + 1
      let _ ← updateWhere IntakeKey.globalCircuit fun (_ : IntakeCircuitRow) =>
        some ⟨if fresh then now else row.windowStartedAt, nextCount,
          if limit ≤ nextCount then some (now + seconds windowSeconds) else none⟩

/-- An event with its row, where the row is one of `intake_outbox_event`. -/
def outboxEntry : (Σ key, IntakeRow key) → Option (String × IntakeOutboxRow)
  | ⟨.outboxEvent eventId, row⟩ => some (eventId, row)
  | _ => none

def events (rows : IntakeRows) : List (String × IntakeOutboxRow) :=
  rows.live.filterMap outboxEntry

/-- The advisory lock is a row that counts its holders; it keeps other counts out until
the transaction ends. -/
def ensureOutboxCapacity (maxPending : ℕ) : IntakeTx Unit := do
  lift (require (decide (0 < maxPending)) (.valueError "max_pending must be positive"))
  store IntakeKey.outboxCapacity fun (holders : Option ℕ) => some (holders.getD 0 + 1)
  let count ← scan fun rows =>
    ((events rows).filter fun entry => entry.2.publishedAt.isNone).length
  lift (require (decide (count < maxPending))
    (.rateLimited "public-intake outbox backlog is at capacity" "outbox_queue"))

/-- `insert … on conflict … do update … where …  returning` -/
def reserveIdempotency (key requestHash requestId : String) (now : Instant)
    (leaseSeconds : ℤ) : IntakeTx PublicIdempotencyReservation := do
  lift (require (!PyText.blank key && !PyText.blank requestHash && !PyText.blank requestId)
    (.valueError "idempotency reservation identifiers are required"))
  lift (require (decide (0 < leaseSeconds)) (.valueError "lease_seconds must be positive"))
  let reserved : IntakeReservationRow :=
    ⟨requestHash, requestId, now + seconds leaseSeconds, none⟩
  match ← upsertWhere (IntakeKey.reservation key) reserved
      fun (row : IntakeReservationRow) =>
        if row.completedAt = none ∧ row.leasedUntil ≤ now then some reserved else none with
  | some row => return ⟨row.requestId, "PENDING"⟩
  | none =>
      match ← select (IntakeKey.reservation key) with
      | none => raise (.integrityViolation
          "public intake idempotency reservation disappeared")
      | some existing => do
          lift (require (existing.requestHash == requestHash)
            (.idempotencyConflict "idempotency key reused with different payload"))
          if existing.completedAt.isSome then
            return ⟨existing.requestId, "COMPLETE"⟩
          else if now < existing.leasedUntil then
            return ⟨existing.requestId, "IN_PROGRESS"⟩
          else
            raise (.integrityViolation
              "expired public intake reservation could not be acquired")

def completeIdempotency (key requestId : String) (now : Instant) : IntakeTx Unit := do
  match ← updateWhere (IntakeKey.reservation key) fun (row : IntakeReservationRow) =>
      if row.requestId = requestId ∧ row.completedAt = none then
        some { row with completedAt := some now }
      else none with
  | some _ => return ()
  | none =>
      match ← select (IntakeKey.reservation key) with
      | none => raise (.integrityViolation
          "public intake idempotency completion rejected")
      | some existing => do
          lift (require (existing.requestId == requestId) (.integrityViolation
            "public intake idempotency completion rejected"))
          lift (require existing.completedAt.isSome (.integrityViolation
            "public intake idempotency completion lost"))

/-- A second request under a key is not inserted. -/
def add (record : PublicIntakeRecord) : IntakeTx Unit := do
  let inserted ← insertNew (IntakeKey.requestKey record.idempotencyKey) record.requestId
  if inserted then
    insert (IntakeKey.request record.requestId)
      ⟨record.correlationId, record.idempotencyKey, record.requestHash, record.status,
        record.payload, record.preflight.snapshotId, record.createdAt, none⟩
      (.uniqueViolation "intake_request_pkey")
  match ← getByIdempotencyKey record.idempotencyKey with
  | none => raise (.integrityViolation "public intake request disappeared after insert")
  | some existing =>
      lift (require (existing.requestHash == record.requestHash)
        (.idempotencyConflict "idempotency key reused with different payload"))

def appendOutbox (event : PublicIntakeOutboxEvent) : IntakeTx Unit := do
  let _ ← insertNew (IntakeKey.outboxEvent event.eventId) ⟨event, none, 0, none⟩

/-- `order by occurred_at, event_id` -/
def ordered (a b : String × IntakeOutboxRow) : Prop :=
  a.2.event.occurredAt < b.2.event.occurredAt ∨
    (a.2.event.occurredAt = b.2.event.occurredAt ∧ a.1 ≤ b.1)

instance : DecidableRel ordered := fun _ _ =>
  inferInstanceAs (Decidable (_ ∨ (_ ∧ _)))

/-- Unpublished and not on an unexpired lease. -/
def claimable (now : Instant) (row : IntakeOutboxRow) : Bool :=
  row.publishedAt.isNone && !row.delivery.any fun lease => decide (now < lease.leaseUntil)

def candidates (now : Instant) (limit : ℕ) (locked : IntakeKey → Bool)
    (rows : IntakeRows) : List String :=
  let free := (events rows).filter fun entry =>
    claimable now entry.2 && !locked (IntakeKey.outboxEvent entry.1)
  ((free.insertionSort ordered).take limit).map Prod.fst

def claimed (workerId : String) (leaseUntil : Instant) (row : IntakeOutboxRow) :
    IntakeOutboxRow :=
  { row with
    deliveryAttempt := row.deliveryAttempt + 1
    delivery := some ⟨workerId, leaseUntil⟩ }

def claimEach (workerId : String) (leaseUntil : Instant) :
    List String → IntakeTx (List PublicIntakeOutboxEvent)
  | [] => return []
  | eventId :: rest => do
      let row ← updateWhere (IntakeKey.outboxEvent eventId) fun (row : IntakeOutboxRow) =>
        some (claimed workerId leaseUntil row)
      let events ← claimEach workerId leaseUntil rest
      return (row.map IntakeOutboxRow.event).toList ++ events

def claimPending (workerId : String) (leaseSeconds : ℤ) (now : Instant) (limit : ℕ) :
    IntakeTx (List PublicIntakeOutboxEvent) := do
  lift (require (!PyText.blank workerId) (.valueError "worker_id is required"))
  lift (require (decide (0 < leaseSeconds)) (.valueError "lease_seconds must be positive"))
  lift (require (decide (1 ≤ limit)) (.valueError "limit must be positive"))
  let eventIds ← query fun locked rows => .pure (candidates now limit locked rows)
  claimEach workerId (now + seconds leaseSeconds) eventIds

/-- On an unexpired delivery lease of this worker and not published. -/
def heldBy (workerId : String) (now : Instant) (row : IntakeOutboxRow) : Bool :=
  row.publishedAt.isNone && row.delivery.any fun lease =>
    lease.workerId == workerId && decide (now < lease.leaseUntil)

def published (now : Instant) (row : IntakeOutboxRow) : IntakeOutboxRow :=
  { row with publishedAt := some now, delivery := none }

def markOutboxPublished (eventId workerId : String) (now : Instant) : IntakeTx Unit := do
  match ← updateWhere (IntakeKey.outboxEvent eventId) fun (row : IntakeOutboxRow) =>
      if heldBy workerId now row then some (published now row) else none with
  | none => raise (.integrityViolation "intake outbox publication rejected")
  | some _ => return ()

/-- `projected_at = coalesce(projected_at, now)` -/
def markProjected (requestId : String) (now : Instant) : IntakeTx Unit := do
  match ← updateWhere (IntakeKey.request requestId) fun (row : IntakeRequestRow) =>
      some { row with projectedAt := some (row.projectedAt.getD now) } with
  | none => raise (.integrityViolation "intake request projection marker missing")
  | some _ => return ()

/-- The start of the window the clock reading falls into. -/
def windowStart (windowSeconds : ℤ) (now : Instant) : Instant :=
  let epoch := Int.tdiv now 1000000
  seconds (epoch - Int.fmod epoch windowSeconds)

def consumeBudget (sha256 : String → String) (publicClientKey budget : String) (limit : ℕ)
    (windowSeconds : ℤ) (now : Instant) : IntakeTx Unit := do
  lift (require (decide (1 ≤ limit)) (.valueError "limit must be positive"))
  match ← upsertWhere (IntakeKey.rateLimit (sha256 (PyText.strip publicClientKey)) budget
      (windowStart windowSeconds now)) 1 fun (used : ℕ) =>
        if used < limit then some (used + 1) else none with
  | none => raise (.rateLimited s!"{budget} rate limit exceeded" budget)
  | some _ => return ()

/-- The unexpired snapshot under a cache key. -/
def getPreflightCache (cacheKey : String) (now : Instant) :
    IntakeTx (Option CounterpartyPreflightSnapshot) := do
  match ← select (IntakeKey.preflightCache cacheKey) with
  | none => return none
  | some snapshotId => do
      let snapshot ← snapshotOf snapshotId
      return snapshot.filter fun snapshot => decide (now < snapshot.expiresAt)

/-- What the row under a cache key was named before. -/
def renamed : Option String → IntakeTx Unit
  | none => return ()
  | some snapshotId => do
      let _ ← delete (IntakeKey.preflightSnapshot snapshotId)

/-- `insert … on conflict (cache_key) do update`; the update renames the row. -/
def savePreflightCache (cacheKey : String) (snapshot : CounterpartyPreflightSnapshot) :
    IntakeTx Unit := do
  let earlier ← select (IntakeKey.preflightCache cacheKey)
  renamed earlier
  insert (IntakeKey.preflightSnapshot snapshot.snapshotId) ⟨some cacheKey, snapshot⟩
    (.uniqueViolation "intake_preflight_snapshot_pkey")
  store (IntakeKey.preflightCache cacheKey) fun _ => some snapshot.snapshotId

def savePreflightSnapshot (snapshot : CounterpartyPreflightSnapshot) : IntakeTx Unit := do
  let _ ← insertNew (IntakeKey.preflightSnapshot snapshot.snapshotId) ⟨none, snapshot⟩

end PublicIntakeRepository

end ShemaPlatform
