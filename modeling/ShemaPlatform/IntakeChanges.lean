/-
What each transaction of the public intake makes of a request, of an event and of
a snapshot.
-/
import ShemaPlatform.IntakeEffects
import ShemaPlatform.RowChanges

namespace ShemaPlatform

open Calendar ReadCommitted ReadCommitted.Prog PublicIntakeRepository

/-- What a transaction may store: a request, its events, a snapshot, the publication of
an event. -/
structure Permit where
  record : Option PublicIntakeRecord := none
  events : List PublicIntakeOutboxEvent := []
  published : Option String := none
  snapshot : Option CounterpartyPreflightSnapshot := none

namespace Permit

variable (permit : Permit)

/-- A request changes in its projection only, unless it is the new one. -/
def Request (requestId : String) (seen written : Option IntakeRequestRow) : Prop :=
  ∀ row', written = some row' →
    (∃ row, seen = some row ∧ ∃ projectedAt, row' = { row with projectedAt }) ∨
      ∃ record ∈ permit.record, record.requestId = requestId ∧
        ∃ projectedAt, row' = { requestRow record with projectedAt }

/-- An event stays what it is, unless it is a new one, and only one is published. -/
def OutboxEvent (eventId : String) (seen written : Option IntakeOutboxRow) : Prop :=
  ∀ row', written = some row' →
    ((∃ row, seen = some row ∧ row'.event = row.event ∧
        (row'.publishedAt ≠ none → row.publishedAt ≠ none ∨ permit.published = some eventId)) ∨
      row'.event ∈ permit.events ∧ row'.event.eventId = eventId ∧
        (row'.publishedAt ≠ none → permit.published = some eventId))

def Snapshot (snapshotId : String) (seen written : Option IntakeSnapshotRow) : Prop :=
  ∀ row', written = some row' →
    (∃ row, seen = some row ∧ row'.snapshot = row.snapshot) ∨
      row'.snapshot ∈ permit.snapshot ∧ row'.snapshot.snapshotId = snapshotId

/-- What may become of a row. -/
def Change : (key : IntakeKey) → Option (IntakeRow key) → Option (IntakeRow key) → Prop
  | .request requestId => permit.Request requestId
  | .outboxEvent eventId => permit.OutboxEvent eventId
  | .preflightSnapshot snapshotId => permit.Snapshot snapshotId
  | _ => fun _ _ => True

theorem Change.refl (key : IntakeKey) (row : Option (IntakeRow key)) :
    permit.Change key row row := by
  cases key with
  | request requestId =>
      exact fun (row' : IntakeRequestRow) hrow => Or.inl ⟨row', hrow, row'.projectedAt, rfl⟩
  | outboxEvent eventId =>
      exact fun row' hrow => Or.inl ⟨row', hrow, rfl, fun hdone => Or.inl hdone⟩
  | preflightSnapshot snapshotId => exact fun row' hrow => Or.inl ⟨row', hrow, rfl⟩
  | _ => trivial

theorem Change.trans (key : IntakeKey) (a b c : Option (IntakeRow key))
    (hab : permit.Change key a b) (hbc : permit.Change key b c) : permit.Change key a c := by
  cases key with
  | request requestId =>
      intro last hlast
      rcases hbc last hlast with ⟨middle, hmiddle, projectedAt, rfl⟩ | hnew
      · rcases hab middle hmiddle with ⟨row, hrow, _, rfl⟩ | ⟨record, hmem, hsame, _, rfl⟩
        · exact Or.inl ⟨row, hrow, projectedAt, rfl⟩
        · exact Or.inr ⟨record, hmem, hsame, projectedAt, rfl⟩
      · exact Or.inr hnew
  | outboxEvent eventId =>
      intro last hlast
      rcases hbc last hlast with ⟨middle, hmiddle, hsame, hdone⟩ | hnew
      · rcases hab middle hmiddle with ⟨row, hrow, hbefore, hearlier⟩ | ⟨hmem, hid, hearlier⟩
        · left
          refine ⟨row, hrow, hsame.trans hbefore, fun hpublished => ?_⟩
          rcases hdone hpublished with hmid | hnow
          · exact hearlier hmid
          · exact Or.inr hnow
        · right
          refine ⟨hsame ▸ hmem, hsame ▸ hid, fun hpublished => ?_⟩
          rcases hdone hpublished with hmid | hnow
          · exact hearlier hmid
          · exact hnow
      · exact Or.inr hnew
  | preflightSnapshot snapshotId =>
      intro last hlast
      rcases hbc last hlast with ⟨middle, hmiddle, hsame⟩ | hnew
      · rcases hab middle hmiddle with ⟨row, hrow, hbefore⟩ | ⟨hmem, hid⟩
        · exact Or.inl ⟨row, hrow, hsame.trans hbefore⟩
        · exact Or.inr ⟨hsame ▸ hmem, hsame ▸ hid⟩
      · exact Or.inr hnew
  | _ => trivial

/-- What is written elsewhere is not restricted. -/
theorem of_tables {tables : List IntakeTable} {ρ : Type} {p : IntakeTx ρ}
    (hp : WritesTables tables p)
    (htables : ∀ table ∈ tables, table ∉ [IntakeTable.requests, .outbox, .snapshots]) :
    p.Changes permit.Change := by
  apply Changes.of_writesOnly hp.only
  intro key hkey seen row
  have hother := htables _ hkey
  cases key with
  | request requestId => simp [IntakeKey.table] at hother
  | outboxEvent eventId => simp [IntakeKey.table] at hother
  | preflightSnapshot snapshotId => simp [IntakeKey.table] at hother
  | _ => trivial

/-- What only reads. -/
theorem of_reads {ρ : Type} {p : IntakeTx ρ} (hp : WritesTables [] p) :
    p.Changes permit.Change :=
  of_tables permit hp (by simp)

end Permit

section Statements

variable {permit : Permit}

theorem changes_add {record : PublicIntakeRecord} (h : record ∈ permit.record) :
    (add record).Changes permit.Change := by
  have hread : ∀ rest : Option PublicIntakeRecord → IntakeTx Unit,
      (rest none).Changes permit.Change →
      (∀ existing, (rest (some existing)).Changes permit.Change) →
      (getByIdempotencyKey record.idempotencyKey >>= rest).Changes permit.Change := by
    intro rest hnone hsome
    apply Changes.bind (permit.of_reads (writes_getByIdempotencyKey _))
    rintro (_ | existing)
    · exact hnone
    · exact hsome existing
  apply Changes.bind
  · exact Changes.insertNew trivial
  · rintro (_ | _)
    · exact hread _ trivial fun _ => Changes.lift _
    · apply Changes.bind
      · apply Changes.insert
        intro row' hrow
        obtain rfl := Option.some.inj hrow
        exact Or.inr ⟨record, h, rfl, none, rfl⟩
      · exact fun _ => hread _ trivial fun _ => Changes.lift _

theorem changes_appendOutbox {event : PublicIntakeOutboxEvent} (h : event ∈ permit.events) :
    (appendOutbox event).Changes permit.Change := by
  apply Changes.bind
  · apply Changes.insertNew
    intro row' hrow
    obtain rfl := Option.some.inj hrow
    exact Or.inr ⟨h, rfl, fun hdone => absurd rfl hdone⟩
  · exact fun _ => trivial

theorem changes_savePreflightSnapshot {snapshot : CounterpartyPreflightSnapshot}
    (h : snapshot ∈ permit.snapshot) :
    (savePreflightSnapshot snapshot).Changes permit.Change := by
  apply Changes.bind
  · apply Changes.insertNew
    intro row' hrow
    obtain rfl := Option.some.inj hrow
    exact Or.inr ⟨h, rfl⟩
  · exact fun _ => trivial

theorem changes_savePreflightCache {cacheKey : String}
    {snapshot : CounterpartyPreflightSnapshot} (h : snapshot ∈ permit.snapshot) :
    (savePreflightCache cacheKey snapshot).Changes permit.Change := by
  apply Changes.bind (permit.of_reads (WritesTables.select _))
  intro earlier
  apply Changes.bind
  · cases earlier with
    | none => trivial
    | some snapshotId =>
        apply Changes.bind
        · apply Changes.delete
          intro seen row' hrow
          cases hrow
        · exact fun _ => trivial
  · intro _
    apply Changes.bind
    · apply Changes.insert
      intro row' hrow
      obtain rfl := Option.some.inj hrow
      exact Or.inr ⟨h, rfl⟩
    · exact fun _ => ⟨fun _ _ _ => trivial, fun _ => trivial⟩

theorem changes_markProjected {requestId : String} {now : Instant} :
    (markProjected requestId now).Changes permit.Change := by
  apply Changes.bind
  · apply Changes.updateWhere
    intro row row' halter written hwritten
    obtain rfl := Option.some.inj halter
    obtain rfl := Option.some.inj hwritten
    exact Or.inl ⟨row, rfl, _, rfl⟩
  · rintro (_ | row)
    · trivial
    · trivial

theorem changes_markOutboxPublished {eventId workerId : String} {now : Instant}
    (h : permit.published = some eventId) :
    (markOutboxPublished eventId workerId now).Changes permit.Change := by
  apply Changes.bind
  · apply Changes.updateWhere
    intro row row' halter written hwritten
    obtain rfl := Option.some.inj hwritten
    split at halter
    · obtain rfl := Option.some.inj halter
      exact Or.inl ⟨row, rfl, rfl, fun _ => Or.inr h⟩
    · cases halter
  · rintro (_ | row)
    · trivial
    · trivial

theorem changes_claimPending {workerId : String} {leaseSeconds : ℤ} {now : Instant}
    {limit : ℕ} : (claimPending workerId leaseSeconds now limit).Changes permit.Change := by
  have heach : ∀ leaseUntil (eventIds : List String),
      (claimEach workerId leaseUntil eventIds).Changes permit.Change := by
    intro leaseUntil eventIds
    induction eventIds with
    | nil => trivial
    | cons eventId rest ih =>
        apply Changes.bind
        · apply Changes.updateWhere
          intro row row' halter written hwritten
          obtain rfl := Option.some.inj halter
          obtain rfl := Option.some.inj hwritten
          exact Or.inl ⟨row, rfl, rfl, fun hdone => Or.inl hdone⟩
        · intro _
          exact Changes.bind ih fun _ => trivial
  apply Changes.bind (Changes.lift _)
  intro _
  apply Changes.bind (Changes.lift _)
  intro _
  apply Changes.bind (Changes.lift _)
  intro _
  exact Changes.bind (Changes.query _) fun eventIds => heach _ eventIds

end Statements

namespace PublicIntakeService

/-- What the next transaction of a session may store. -/
def Session.permit (sha256 : String → String) : Session → Permit
  | .submit call (.assessed preflight) =>
      { record := some (call.record sha256 preflight)
        events := call.events preflight
        snapshot := some preflight }
  | .submit _ (.caching _ preflight) => { snapshot := some preflight }
  | .dispatch _ (.delivering (event :: _)) =>
      if event.notifyOperator then {} else { published := some event.eventId }
  | .dispatch _ (.marking _ eventId _) => { published := some eventId }
  | _ => {}

variable {sha256 : String → String} {service : PublicIntakeService} {call : Submission}
  {preflight : CounterpartyPreflightSnapshot}

theorem changes_deduplicate {permit : Permit} (existing : PublicIntakeRecord) :
    (deduplicate sha256 call existing).Changes permit.Change :=
  Changes.bind (Changes.lift _) fun _ => trivial

theorem changes_record : (record sha256 service call preflight).Changes
    ((Session.submit call (.assessed preflight)).permit sha256).Change := by
  have hfirst : call.event preflight ∈ call.events preflight := List.mem_cons_self
  apply Changes.bind (Permit.of_reads _ (writes_getByIdempotencyKey _))
  rintro (_ | existing)
  · apply Changes.bind (Permit.of_tables _ (writes_ensureOutboxCapacity _) (by simp))
    intro _
    apply Changes.bind (changes_savePreflightSnapshot rfl)
    intro _
    apply Changes.bind (changes_add rfl)
    intro _
    apply Changes.bind (changes_appendOutbox hfirst)
    intro _
    apply Changes.bind (Permit.of_tables _ (writes_completeIdempotency _ _ _) (by simp))
    intro _
    apply Changes.bind
    · rw [appendSecond]
      cases hsecond : call.secondEvent preflight with
      | none => trivial
      | some event =>
          apply changes_appendOutbox
          change event ∈ call.events preflight
          rw [Submission.events, hsecond]
          exact List.mem_cons_of_mem _ (List.mem_singleton_self _)
    · exact fun _ => trivial
  · exact changes_deduplicate existing

theorem changes_submission {stage : Stage} {body : IntakeTx Stage}
    (hbody : transaction sha256 service call stage = some body) :
    body.Changes ((Session.submit call stage).permit sha256).Change := by
  cases stage with
  | waiting =>
      obtain rfl := Option.some.inj hbody
      exact Permit.of_tables _ writes_reserve (by simp)
  | reserved =>
      obtain rfl := Option.some.inj hbody
      exact Permit.of_tables _ writes_admitCall (by simp)
  | caching lookup preflight =>
      obtain rfl := Option.some.inj hbody
      exact Changes.bind (changes_savePreflightCache rfl) fun _ => trivial
  | assessed preflight =>
      obtain rfl := Option.some.inj hbody
      exact changes_record
  | projected record =>
      obtain rfl := Option.some.inj hbody
      exact Changes.bind changes_markProjected fun _ => trivial
  | lookingUp lookup =>
      have hwrites := writes_transaction hbody
      exact Permit.of_tables _ hwrites (by simp [Session.tables])
  | budgeting lookup =>
      have hwrites := writes_transaction hbody
      exact Permit.of_tables _ hwrites (by simp [Session.tables])
  | _ => cases hbody

theorem changes_dispatch {dispatch : Dispatch} {stage : Dispatch.Stage}
    {body : IntakeTx Dispatch.Stage} (hbody : dispatch.transaction stage = some body) :
    body.Changes ((Session.dispatch dispatch stage).permit sha256).Change := by
  cases stage with
  | claiming =>
      obtain rfl := Option.some.inj hbody
      exact Changes.bind changes_claimPending fun _ => trivial
  | delivering events =>
      cases events with
      | nil => cases hbody
      | cons event rest =>
          obtain rfl := Option.some.inj hbody
          rw [Dispatch.deliver]
          cases hnotify : event.notifyOperator with
          | true =>
              rw [if_pos rfl]
              apply Changes.bind (Permit.of_reads _ (writes_getByRequestId _))
              rintro (_ | record)
              · trivial
              · trivial
          | false =>
              rw [if_neg (by simp)]
              apply Changes.bind
              · apply changes_markOutboxPublished
                simp [Session.permit, hnotify]
              · exact fun _ => trivial
  | marking record eventId rest =>
      obtain rfl := Option.some.inj hbody
      apply Changes.bind
      · exact Changes.bind changes_markProjected fun _ => changes_markOutboxPublished rfl
      · exact fun _ => trivial
  | _ => cases hbody

/-- Every transaction stores what its session is permitted. -/
theorem changes_code {session : Session} {p : IntakeTx Session}
    (hcode : (flow sha256 service).code session = some p) :
    p.Changes (session.permit sha256).Change := by
  cases session with
  | submit call stage =>
      obtain ⟨body, hbody, rfl⟩ := Option.map_eq_some_iff.mp hcode
      exact Changes.bind (changes_submission hbody) fun _ => trivial
  | dispatch call stage =>
      obtain ⟨body, hbody, rfl⟩ := Option.map_eq_some_iff.mp hcode
      exact Changes.bind (changes_dispatch hbody) fun _ => trivial

end PublicIntakeService

end ShemaPlatform
