/-
Which tables of the intake database each of its transactions writes.
-/
import ShemaPlatform.PublicIntakeService
import ShemaPlatform.RepositoryRules
import ShemaPlatform.WriteFrame

namespace ShemaPlatform

open Calendar ReadCommitted ReadCommitted.Prog

inductive IntakeTable where
  | requests | snapshots | outbox | rateLimits | reservations | circuit | capacity
deriving DecidableEq

def IntakeKey.table : IntakeKey → IntakeTable
  | .request _ => .requests
  | .requestKey _ => .requests
  | .preflightSnapshot _ => .snapshots
  | .preflightCache _ => .snapshots
  | .outboxEvent _ => .outbox
  | .rateLimit _ _ _ => .rateLimits
  | .reservation _ => .reservations
  | .globalCircuit => .circuit
  | .outboxCapacity => .capacity

/-- The transaction writes rows of these tables only. -/
structure WritesTables {ρ : Type} (tables : List IntakeTable) (p : IntakeTx ρ) : Prop where
  only : p.WritesOnly fun key => key.table ∈ tables

namespace WritesTables

variable {ρ ρ' : Type} {tables tables' : List IntakeTable} {p : IntakeTx ρ}

theorem mono (hp : WritesTables tables p) (htables : ∀ table ∈ tables, table ∈ tables') :
    WritesTables tables' p :=
  ⟨hp.only.mono fun _ hkey => htables _ hkey⟩

theorem bind {rest : ρ → IntakeTx ρ'} (hp : WritesTables tables p)
    (hrest : ∀ result, WritesTables tables (rest result)) :
    WritesTables tables (p >>= rest) :=
  ⟨hp.only.bind fun result => (hrest result).only⟩

theorem pure (result : ρ) : WritesTables tables (Pure.pure result : IntakeTx ρ) :=
  ⟨WritesOnly.pure result⟩

theorem raise (error : Failure) : WritesTables tables (raise error : IntakeTx ρ) :=
  ⟨WritesOnly.raise error⟩

theorem lift (outcome : Except Failure ρ) : WritesTables tables (lift outcome : IntakeTx ρ) :=
  ⟨WritesOnly.lift outcome⟩

theorem scan (f : IntakeRows → ρ) : WritesTables tables (scan f : IntakeTx ρ) :=
  ⟨WritesOnly.scan f⟩

theorem select (key : IntakeKey) : WritesTables tables (select key : IntakeTx _) :=
  ⟨WritesOnly.select key⟩

theorem atCommit_written {evolution : Evolution (IntakeKey → Bool) IntakeRow}
    {own : IntakeRows} {world : World (IntakeKey → Bool) IntakeRow}
    {post : ρ → IntakeRows → World (IntakeKey → Bool) IntakeRow → Prop}
    (hp : WritesTables tables p)
    (h : ∀ result (written : IntakeRows), (written.Only fun key => key.table ∈ tables) →
      post result (written ++ own) world) : p.atCommit evolution post own world :=
  hp.only.atCommit_written h

theorem atCommit_reads {evolution : Evolution (IntakeKey → Bool) IntakeRow}
    {own : IntakeRows} {world : World (IntakeKey → Bool) IntakeRow}
    {post : ρ → IntakeRows → World (IntakeKey → Bool) IntakeRow → Prop}
    (hp : WritesTables [] p) (h : ∀ result, post result own world) :
    p.atCommit evolution post own world :=
  WritesOnly.atCommit_reads (hp.only.mono (by simp)) h

variable {key : IntakeKey} (hkey : key.table ∈ tables)

include hkey

theorem selectForUpdate : WritesTables tables (selectForUpdate key : IntakeTx _) :=
  ⟨WritesOnly.selectForUpdate (by exact hkey)⟩

theorem insertNew (row : IntakeRow key) :
    WritesTables tables (insertNew key row : IntakeTx Bool) :=
  ⟨WritesOnly.insertNew (by exact hkey) row⟩

theorem insert (row : IntakeRow key) (duplicate : Failure) :
    WritesTables tables (insert key row duplicate : IntakeTx Unit) :=
  ⟨WritesOnly.insert (by exact hkey) row duplicate⟩

theorem updateWhere (change : IntakeRow key → Option (IntakeRow key)) :
    WritesTables tables (updateWhere key change : IntakeTx _) :=
  ⟨WritesOnly.updateWhere (by exact hkey) change⟩

theorem upsertWhere (row : IntakeRow key) (change : IntakeRow key → Option (IntakeRow key)) :
    WritesTables tables (upsertWhere key row change : IntakeTx _) :=
  ⟨WritesOnly.upsertWhere (by exact hkey) row change⟩

theorem delete : WritesTables tables (delete key : IntakeTx _) :=
  ⟨WritesOnly.delete (by exact hkey)⟩

theorem store (row : Option (IntakeRow key) → Option (IntakeRow key)) :
    WritesTables tables (store key row : IntakeTx Unit) :=
  ⟨WritesOnly.store (by exact hkey) row⟩

end WritesTables

namespace PublicIntakeRepository

variable {tables : List IntakeTable}

theorem writes_getByIdempotencyKey (key : String) :
    WritesTables tables (getByIdempotencyKey key) := by
  apply WritesTables.bind (WritesTables.select _)
  rintro (_ | requestId)
  · exact WritesTables.pure _
  · apply WritesTables.bind (WritesTables.select _)
    rintro (_ | row)
    · exact WritesTables.pure _
    · apply WritesTables.bind
      · exact WritesTables.bind (WritesTables.select _) fun _ => WritesTables.pure _
      · rintro (_ | snapshot)
        · exact WritesTables.raise _
        · exact WritesTables.pure _

theorem writes_getByRequestId (requestId : String) :
    WritesTables tables (getByRequestId requestId) := by
  apply WritesTables.bind (WritesTables.select _)
  rintro (_ | row)
  · exact WritesTables.pure _
  · exact writes_getByIdempotencyKey row.idempotencyKey

theorem writes_consumeGlobalCircuit (limit : ℕ) (windowSeconds : ℤ) (now : Instant) :
    WritesTables [.circuit] (consumeGlobalCircuit limit windowSeconds now) := by
  have hkey : IntakeKey.globalCircuit.table ∈ [IntakeTable.circuit] := by decide
  apply WritesTables.bind (WritesTables.lift _)
  intro _
  apply WritesTables.bind (WritesTables.lift _)
  intro _
  apply WritesTables.bind (WritesTables.selectForUpdate hkey)
  rintro (_ | row)
  · exact WritesTables.insert hkey _ _
  · apply WritesTables.bind (WritesTables.lift _)
    intro _
    exact WritesTables.bind (WritesTables.updateWhere hkey _) fun _ => WritesTables.pure _

theorem writes_ensureOutboxCapacity (maxPending : ℕ) :
    WritesTables [.capacity] (ensureOutboxCapacity maxPending) := by
  have hkey : IntakeKey.outboxCapacity.table ∈ [IntakeTable.capacity] := by decide
  apply WritesTables.bind (WritesTables.lift _)
  intro _
  apply WritesTables.bind (WritesTables.store hkey _)
  intro _
  exact WritesTables.bind (WritesTables.scan _) fun _ => WritesTables.lift _

theorem writes_reserveIdempotency (key requestHash requestId : String) (now : Instant)
    (leaseSeconds : ℤ) : WritesTables [.reservations]
      (reserveIdempotency key requestHash requestId now leaseSeconds) := by
  have hkey : (IntakeKey.reservation key).table ∈ [IntakeTable.reservations] := by
    simp [IntakeKey.table]
  apply WritesTables.bind (WritesTables.lift _)
  intro _
  apply WritesTables.bind (WritesTables.lift _)
  intro _
  apply WritesTables.bind (WritesTables.upsertWhere hkey _ _)
  rintro (_ | row)
  · apply WritesTables.bind (WritesTables.select _)
    rintro (_ | existing)
    · exact WritesTables.raise _
    · apply WritesTables.bind (WritesTables.lift _)
      intro _
      split
      · exact WritesTables.pure _
      · split
        · exact WritesTables.pure _
        · exact WritesTables.raise _
  · exact WritesTables.pure _

theorem writes_completeIdempotency (key requestId : String) (now : Instant) :
    WritesTables [.reservations] (completeIdempotency key requestId now) := by
  have hkey : (IntakeKey.reservation key).table ∈ [IntakeTable.reservations] := by
    simp [IntakeKey.table]
  apply WritesTables.bind (WritesTables.updateWhere hkey _)
  rintro (_ | row)
  · apply WritesTables.bind (WritesTables.select _)
    rintro (_ | existing)
    · exact WritesTables.raise _
    · exact WritesTables.bind (WritesTables.lift _) fun _ => WritesTables.lift _
  · exact WritesTables.pure _

theorem writes_add (record : PublicIntakeRecord) :
    WritesTables [.requests] (add record) := by
  have hkey : (IntakeKey.requestKey record.idempotencyKey).table ∈ [IntakeTable.requests] := by
    simp [IntakeKey.table]
  have hrequest : (IntakeKey.request record.requestId).table ∈ [IntakeTable.requests] := by
    simp [IntakeKey.table]
  have hread : ∀ {rest : Option PublicIntakeRecord → IntakeTx Unit},
      WritesTables [.requests] (rest none) →
      (∀ existing, WritesTables [.requests] (rest (some existing))) →
      WritesTables [.requests] (getByIdempotencyKey record.idempotencyKey >>= rest) := by
    intro rest hnone hsome
    apply WritesTables.bind (writes_getByIdempotencyKey _)
    rintro (_ | existing)
    · exact hnone
    · exact hsome existing
  apply WritesTables.bind (WritesTables.insertNew hkey _)
  rintro (_ | _)
  · exact hread (WritesTables.raise _) fun _ => WritesTables.lift _
  · apply WritesTables.bind (WritesTables.insert hrequest _ _)
    exact fun _ => hread (WritesTables.raise _) fun _ => WritesTables.lift _

theorem writes_appendOutbox (event : PublicIntakeOutboxEvent) :
    WritesTables [.outbox] (appendOutbox event) := by
  have hkey : (IntakeKey.outboxEvent event.eventId).table ∈ [IntakeTable.outbox] := by
    simp [IntakeKey.table]
  exact WritesTables.bind (WritesTables.insertNew hkey _) fun _ => WritesTables.pure _

theorem writes_consumeBudget (sha256 : String → String) (publicClientKey budget : String)
    (limit : ℕ) (windowSeconds : ℤ) (now : Instant) : WritesTables [.rateLimits]
      (consumeBudget sha256 publicClientKey budget limit windowSeconds now) := by
  apply WritesTables.bind (WritesTables.lift _)
  intro _
  apply WritesTables.bind (WritesTables.upsertWhere (by simp [IntakeKey.table]) _ _)
  rintro (_ | row)
  · exact WritesTables.raise _
  · exact WritesTables.pure _

theorem writes_getPreflightCache (cacheKey : String) (now : Instant) :
    WritesTables tables (getPreflightCache cacheKey now) := by
  apply WritesTables.bind (WritesTables.select _)
  rintro (_ | snapshotId)
  · exact WritesTables.pure _
  · apply WritesTables.bind
    · exact WritesTables.bind (WritesTables.select _) fun _ => WritesTables.pure _
    · exact fun _ => WritesTables.pure _

theorem writes_savePreflightCache (cacheKey : String)
    (snapshot : CounterpartyPreflightSnapshot) :
    WritesTables [.snapshots] (savePreflightCache cacheKey snapshot) := by
  have hrenamed : ∀ earlier, WritesTables [.snapshots] (renamed earlier) := by
    rintro (_ | snapshotId)
    · exact WritesTables.pure _
    · exact WritesTables.bind (WritesTables.delete (by simp [IntakeKey.table]))
        fun _ => WritesTables.pure _
  apply WritesTables.bind (WritesTables.select _)
  intro earlier
  apply WritesTables.bind (hrenamed earlier)
  intro _
  apply WritesTables.bind (WritesTables.insert (by simp [IntakeKey.table]) _ _)
  intro _
  exact WritesTables.store (by simp [IntakeKey.table]) _

theorem writes_savePreflightSnapshot (snapshot : CounterpartyPreflightSnapshot) :
    WritesTables [.snapshots] (savePreflightSnapshot snapshot) := by
  exact WritesTables.bind (WritesTables.insertNew (by simp [IntakeKey.table]) _)
    fun _ => WritesTables.pure _

theorem writes_markProjected (requestId : String) (now : Instant) :
    WritesTables [.requests] (markProjected requestId now) := by
  apply WritesTables.bind (WritesTables.updateWhere (by simp [IntakeKey.table]) _)
  rintro (_ | row)
  · exact WritesTables.raise _
  · exact WritesTables.pure _

theorem writes_markOutboxPublished (eventId workerId : String) (now : Instant) :
    WritesTables [.outbox] (markOutboxPublished eventId workerId now) := by
  apply WritesTables.bind (WritesTables.updateWhere (by simp [IntakeKey.table]) _)
  rintro (_ | row)
  · exact WritesTables.raise _
  · exact WritesTables.pure _

theorem writes_claimPending (workerId : String) (leaseSeconds : ℤ) (now : Instant)
    (limit : ℕ) : WritesTables [.outbox] (claimPending workerId leaseSeconds now limit) := by
  have heach : ∀ eventIds leaseUntil,
      WritesTables [.outbox] (claimEach workerId leaseUntil eventIds) := by
    intro eventIds leaseUntil
    induction eventIds with
    | nil => exact WritesTables.pure _
    | cons eventId rest ih =>
        apply WritesTables.bind (WritesTables.updateWhere (by simp [IntakeKey.table]) _)
        intro _
        exact WritesTables.bind ih fun _ => WritesTables.pure _
  apply WritesTables.bind (WritesTables.lift _)
  intro _
  apply WritesTables.bind (WritesTables.lift _)
  intro _
  apply WritesTables.bind (WritesTables.lift _)
  intro _
  exact ⟨fun _ _ => (heach _ _).only⟩

end PublicIntakeRepository

namespace PublicIntakeService

open PublicIntakeRepository

/-- The tables that the next transaction of a client may write. -/
def Session.tables : Session → List IntakeTable
  | .submit _ .waiting => [.reservations]
  | .submit _ .reserved => [.circuit, .capacity, .rateLimits]
  | .submit _ (.budgeting _) => [.rateLimits]
  | .submit _ (.caching _ _) => [.snapshots]
  | .submit _ (.assessed _) => [.requests, .snapshots, .outbox, .reservations, .capacity]
  | .submit _ (.projected _) => [.requests]
  | .submit _ _ => []
  | .dispatch _ _ => [.outbox, .requests]

variable {sha256 : String → String} {service : PublicIntakeService} {call : Submission}
  {tables : List IntakeTable}

theorem writes_deduplicate (existing : PublicIntakeRecord) :
    WritesTables tables (deduplicate sha256 call existing) :=
  WritesTables.bind (WritesTables.lift _) fun _ => WritesTables.pure _

theorem writes_reserve : WritesTables [.reservations] (reserve sha256 service call) := by
  apply WritesTables.bind (WritesTables.lift _)
  intro _
  apply WritesTables.bind (writes_reserveIdempotency _ _ _ _ _)
  intro reservation
  split
  · apply WritesTables.bind (writes_getByIdempotencyKey _)
    rintro (_ | existing)
    · exact WritesTables.raise _
    · exact WritesTables.pure _
  · split
    · exact WritesTables.raise _
    · exact WritesTables.pure _

theorem writes_admitCall : WritesTables [.circuit, .capacity, .rateLimits]
    (admitCall sha256 service call) := by
  apply WritesTables.bind (WritesTables.lift _)
  intro _
  apply WritesTables.bind ((writes_consumeGlobalCircuit _ _ _).mono (by simp))
  intro _
  apply WritesTables.bind ((writes_ensureOutboxCapacity _).mono (by simp))
  intro _
  apply WritesTables.bind (writes_getByIdempotencyKey _)
  rintro (_ | existing)
  · exact WritesTables.bind ((writes_consumeBudget _ _ _ _ _ _).mono (by simp))
      fun _ => WritesTables.pure _
  · exact writes_deduplicate existing

theorem writes_record (preflight : CounterpartyPreflightSnapshot) :
    WritesTables [.requests, .snapshots, .outbox, .reservations, .capacity]
      (record sha256 service call preflight) := by
  have hsecond : WritesTables [.outbox] (appendSecond call preflight) := by
    rw [appendSecond]
    split
    · exact writes_appendOutbox _
    · exact WritesTables.pure _
  apply WritesTables.bind (writes_getByIdempotencyKey _)
  rintro (_ | existing)
  · apply WritesTables.bind ((writes_ensureOutboxCapacity _).mono (by simp))
    intro _
    apply WritesTables.bind ((writes_savePreflightSnapshot _).mono (by simp))
    intro _
    apply WritesTables.bind ((writes_add _).mono (by simp))
    intro _
    apply WritesTables.bind ((writes_appendOutbox _).mono (by simp))
    intro _
    apply WritesTables.bind ((writes_completeIdempotency _ _ _).mono (by simp))
    intro _
    exact WritesTables.bind (hsecond.mono (by simp)) fun _ => WritesTables.pure _
  · exact writes_deduplicate existing

theorem writes_transaction {stage : Stage} {body : IntakeTx Stage}
    (hbody : transaction sha256 service call stage = some body) :
    WritesTables (Session.submit call stage).tables body := by
  cases stage with
  | waiting =>
      obtain rfl := Option.some.inj hbody
      exact writes_reserve
  | reserved =>
      obtain rfl := Option.some.inj hbody
      exact writes_admitCall
  | lookingUp lookup =>
      obtain rfl := Option.some.inj hbody
      apply WritesTables.bind (writes_getPreflightCache _ _)
      rintro (_ | preflight)
      · exact WritesTables.pure _
      · exact WritesTables.pure _
  | budgeting lookup =>
      obtain rfl := Option.some.inj hbody
      exact WritesTables.bind (writes_consumeBudget _ _ _ _ _ _) fun _ => WritesTables.pure _
  | caching lookup preflight =>
      obtain rfl := Option.some.inj hbody
      exact WritesTables.bind (writes_savePreflightCache _ _) fun _ => WritesTables.pure _
  | assessed preflight =>
      obtain rfl := Option.some.inj hbody
      exact writes_record preflight
  | projected record =>
      obtain rfl := Option.some.inj hbody
      exact WritesTables.bind (writes_markProjected _ _) fun _ => WritesTables.pure _
  | _ => cases hbody

theorem writes_dispatch {dispatch : Dispatch} {stage : Dispatch.Stage}
    {body : IntakeTx Dispatch.Stage} (hbody : dispatch.transaction stage = some body) :
    WritesTables [.outbox, .requests] body := by
  cases stage with
  | claiming =>
      obtain rfl := Option.some.inj hbody
      exact WritesTables.bind ((writes_claimPending _ _ _ _).mono (by simp))
        fun _ => WritesTables.pure _
  | delivering events =>
      cases events with
      | nil => cases hbody
      | cons event rest =>
          obtain rfl := Option.some.inj hbody
          rw [Dispatch.deliver]
          split
          · apply WritesTables.bind (writes_getByRequestId _)
            rintro (_ | record)
            · exact WritesTables.raise _
            · exact WritesTables.pure _
          · exact WritesTables.bind ((writes_markOutboxPublished _ _ _).mono (by simp))
              fun _ => WritesTables.pure _
  | marking record eventId rest =>
      obtain rfl := Option.some.inj hbody
      apply WritesTables.bind
      · exact WritesTables.bind ((writes_markProjected _ _).mono (by simp))
          fun _ => (writes_markOutboxPublished _ _ _).mono (by simp)
      · exact fun _ => WritesTables.pure _
  | _ => cases hbody

/-- The transactions of a client write its tables only. -/
theorem writes_code {session : Session} {p : IntakeTx Session}
    (hcode : (flow sha256 service).code session = some p) :
    WritesTables session.tables p := by
  cases session with
  | submit call stage =>
      obtain ⟨body, hbody, rfl⟩ := Option.map_eq_some_iff.mp hcode
      exact WritesTables.bind (writes_transaction hbody) fun _ => WritesTables.pure _
  | dispatch call stage =>
      obtain ⟨body, hbody, rfl⟩ := Option.map_eq_some_iff.mp hcode
      exact WritesTables.bind (writes_dispatch hbody) fun _ => WritesTables.pure _

end PublicIntakeService

end ShemaPlatform
