/-
What the repository of the public intake does to its outbox, and the dispatcher
that delivers it.
-/
import Mathlib.Data.String.Basic
import ShemaPlatform.BatchQueue
import ShemaPlatform.PublicIntakeTables

namespace ShemaPlatform

open Calendar ReadCommitted ReadCommitted.Prog

def intakeEventAt (rows : IntakeRows) (eventId : String) : Option IntakeOutboxRow :=
  rows.get (IntakeKey.outboxEvent eventId)

namespace PublicIntakeRepository

variable {rows own : IntakeRows} {row : IntakeOutboxRow} {eventId workerId : String}
  {now leaseUntil : Instant} {limit : ℕ} {locked : IntakeKey → Bool}

theorem lists_events : Rows.Lists IntakeKey.outboxEvent
    (fun _ (row : IntakeOutboxRow) => row) outboxEntry := by
  constructor
  · exact fun _ _ => rfl
  · rintro ⟨key, stored⟩ index row hentry
    cases key with
    | outboxEvent eventId =>
        simp only [outboxEntry, Option.some.injEq, Prod.mk.injEq] at hentry
        rw [hentry.1]
    | _ => simp [outboxEntry] at hentry

theorem mem_events : (eventId, row) ∈ events rows ↔ intakeEventAt rows eventId = some row := by
  rw [events, lists_events.mem_iff]
  simp [intakeEventAt]

theorem nodup_events (rows : IntakeRows) : ((events rows).map Prod.fst).Nodup :=
  lists_events.nodup

theorem claimable_eq_true : claimable now row = true ↔ row.publishedAt = none ∧
    ∀ lease ∈ row.delivery, lease.leaseUntil ≤ now := by
  cases hdelivery : row.delivery with
  | none => simp [claimable, hdelivery]
  | some lease => simp [claimable, hdelivery]

theorem heldBy_of_leased (hpending : row.publishedAt = none)
    (hlease : row.delivery = some ⟨workerId, leaseUntil⟩) (hlive : now < leaseUntil) :
    heldBy workerId now row = true := by
  simp [heldBy, hpending, hlease, hlive]

instance : Std.Total ordered :=
  ⟨fun a b => BatchQueue.InOrder.total (a.2.event.occurredAt, a.1) (b.2.event.occurredAt, b.1)⟩

instance : IsTrans (String × IntakeOutboxRow) ordered :=
  ⟨fun a b c hab hbc => @BatchQueue.InOrder.trans _ _ _ _ (a.2.event.occurredAt, a.1)
    (b.2.event.occurredAt, b.1) (c.2.event.occurredAt, c.1) hab hbc⟩

theorem candidates_nodup (now : Instant) (limit : ℕ) (locked : IntakeKey → Bool)
    (rows : IntakeRows) : (candidates now limit locked rows).Nodup := by
  simp only [candidates]
  apply List.Nodup.sublist ((List.take_sublist _ _).map Prod.fst)
  rw [((List.perm_insertionSort ordered _).map Prod.fst).nodup_iff]
  exact (List.filter_sublist.map Prod.fst).nodup (nodup_events rows)

/-- The number of events that are not published. -/
def pendingCount (rows : IntakeRows) : ℕ :=
  ((events rows).filter fun entry => entry.2.publishedAt.isNone).length

theorem mem_candidates (hample : pendingCount rows ≤ limit) :
    eventId ∈ candidates now limit (fun _ => false) rows ↔
      ∃ row, intakeEventAt rows eventId = some row ∧ claimable now row = true := by
  have hfew : ((events rows).filter fun entry => claimable now entry.2).length ≤ limit := by
    apply le_trans (List.Sublist.length_le _) hample
    apply List.monotone_filter_right
    intro entry hclaimable
    rw [(claimable_eq_true.mp hclaimable).1]
    rfl
  simp only [candidates, Bool.not_false, Bool.and_true]
  rw [List.take_of_length_le (by rw [List.length_insertionSort]; exact hfew)]
  simp [List.mem_insertionSort, mem_events]

/-- One event comes before another in the order of their claims. -/
def Precedes (rows : IntakeRows) (first second : String) : Prop :=
  ∃ row row', intakeEventAt rows first = some row ∧ intakeEventAt rows second = some row' ∧
    ordered (first, row) (second, row')

theorem candidates_sorted (now : Instant) (limit : ℕ) (locked : IntakeKey → Bool)
    (rows : IntakeRows) : (candidates now limit locked rows).Pairwise (Precedes rows) := by
  simp only [candidates]
  apply List.pairwise_map.mpr
  have hsorted := List.Pairwise.sublist (List.take_sublist limit _)
    (List.pairwise_insertionSort ordered ((events rows).filter fun entry =>
      claimable now entry.2 && !locked (IntakeKey.outboxEvent entry.1)))
  apply hsorted.imp_of_mem
  have hmem : ∀ {entry}, entry ∈ (List.insertionSort ordered ((events rows).filter
      fun entry => claimable now entry.2 &&
        !locked (IntakeKey.outboxEvent entry.1))).take limit →
      intakeEventAt rows entry.1 = some entry.2 := by
    intro entry hentry
    have hall := List.mem_of_mem_take hentry
    rw [List.mem_insertionSort, List.mem_filter] at hall
    exact mem_events.mp hall.1
  intro first second hfirst hsecond hordered
  exact ⟨first.2, second.2, hmem hfirst, hmem hsecond, hordered⟩

theorem Precedes.antisymm {first second : String} (h : Precedes rows first second)
    (h' : Precedes rows second first) : first = second := by
  obtain ⟨row, row', hrow, hrow', hordered⟩ := h
  obtain ⟨other', other, hother', hother, hreverse⟩ := h'
  obtain rfl := Option.some.inj (hrow.symm.trans hother)
  obtain rfl := Option.some.inj (hrow'.symm.trans hother')
  exact @BatchQueue.InOrder.antisymm _ _ _ _ (row.event.occurredAt, first)
    (row'.event.occurredAt, second) hordered hreverse

theorem claimEach_execute {eventIds : List String} (hnodup : eventIds.Nodup) :
    ∃ own', (claimEach workerId leaseUntil eventIds).execute locked rows own =
        .ok (eventIds.filterMap fun eventId =>
          (intakeEventAt (own ++ rows) eventId).map IntakeOutboxRow.event, own') ∧
      (∀ eventId, intakeEventAt (own' ++ rows) eventId =
        if eventId ∈ eventIds then
          (intakeEventAt (own ++ rows) eventId).map (claimed workerId leaseUntil)
        else intakeEventAt (own ++ rows) eventId) ∧
      ∀ key, (∀ eventId, IntakeKey.outboxEvent eventId ≠ key) →
        Rows.get (own' ++ rows) key = Rows.get (own ++ rows) key :=
  execute_updateEach IntakeKey.outboxEvent (fun _ row => claimed workerId leaseUntil row)
    (fun _ row => IntakeOutboxRow.event row) (claimEach workerId leaseUntil)
    (fun _ _ => IntakeKey.outboxEvent.inj) rfl (fun _ _ => rfl) hnodup

/-- With nothing locked a claim takes the candidates in order. -/
theorem claimPending_taken {leaseSeconds : ℤ} (hworker : PyText.blank workerId = false)
    (hlease : 0 < leaseSeconds) (hlimit : 1 ≤ limit) :
    ∃ rows', (claimPending workerId leaseSeconds now limit).atomically
        (fun _ => false) rows =
          .ok ((candidates now limit (fun _ => false) rows).filterMap fun eventId =>
            (intakeEventAt rows eventId).map IntakeOutboxRow.event, rows') ∧
      (∀ eventId, intakeEventAt rows' eventId =
        if eventId ∈ candidates now limit (fun _ => false) rows then
          (intakeEventAt rows eventId).map (claimed workerId (now + seconds leaseSeconds))
        else intakeEventAt rows eventId) ∧
      ∀ key, (∀ eventId, IntakeKey.outboxEvent eventId ≠ key) →
        rows'.get key = rows.get key := by
  obtain ⟨own', hexecute, hrows, hother⟩ := @claimEach_execute rows [] workerId
    (now + seconds leaseSeconds) (fun _ => false) _
    (candidates_nodup now limit (fun _ => false) rows)
  refine ⟨own' ++ rows, ?_, hrows, hother⟩
  rw [atomically_eq_ok]
  exact ⟨own', by simpa [claimPending, execute_bind, require, hworker, hlease,
    hlimit, execute] using hexecute, rfl⟩

end PublicIntakeRepository

/-- What the constructor accepts. -/
structure PublicIntakeOutboxDispatcher where
  workerId : String
  leaseSeconds : ℤ
  valid : PyText.blank workerId = false ∧ 0 < leaseSeconds

namespace PublicIntakeOutboxDispatcher

/-- A call with what the clock reads: at the start, and for each event when its
request is marked as projected and when it is marked as published, the lease
still running. -/
structure Call (dispatcher : PublicIntakeOutboxDispatcher) where
  now : Instant
  limit : ℕ
  projectedAt : String → Instant
  clock : String → Instant
  timely : ∀ eventId, clock eventId < now + seconds dispatcher.leaseSeconds

variable (project : PublicIntakeRecord → Except Failure Unit)
  (dispatcher : PublicIntakeOutboxDispatcher)

/-- The two marks after a projection, in one transaction. -/
def mark (requestId eventId : String) (projectedAt now : Instant) : IntakeTx Unit := do
  PublicIntakeRepository.markProjected requestId projectedAt
  PublicIntakeRepository.markOutboxPublished eventId dispatcher.workerId now

/-- A transaction of the loop body that ends it, with what it counts for. -/
def conclude (transaction : IntakeTx Unit) (count : ℕ) (rows : IntakeRows) :
    Except Failure ℕ × IntakeRows :=
  match transaction.atomically (fun _ => false) rows with
  | .ok (_, rows) => (.ok count, rows)
  | .error error => (.error error, rows)

/-- The loop body of `dispatch_pending`. -/
def deliver (call : dispatcher.Call) (event : PublicIntakeOutboxEvent) (rows : IntakeRows) :
    Except Failure ℕ × IntakeRows :=
  if event.notifyOperator then
    match (PublicIntakeRepository.getByRequestId event.requestId).atomically
        (fun _ => false) rows with
    | .error error => (.error error, rows)
    | .ok (none, _) => (.error (.integrityViolation
        "intake outbox event references missing request"), rows)
    | .ok (some record, _) =>
        match project record with
        | .error error => (.error error, rows)
        | .ok _ => conclude (mark dispatcher record.requestId event.eventId
            (call.projectedAt event.eventId) (call.clock event.eventId)) 1 rows
  else
    conclude (PublicIntakeRepository.markOutboxPublished event.eventId dispatcher.workerId
      (call.clock event.eventId)) 0 rows

def dispatchPending (call : dispatcher.Call) (rows : IntakeRows) :
    Except Failure ℕ × IntakeRows :=
  match (PublicIntakeRepository.claimPending dispatcher.workerId dispatcher.leaseSeconds
      call.now call.limit).atomically (fun _ => false) rows with
  | .ok (events, rows) => BatchQueue.each (deliver project dispatcher call) events rows
  | .error error => (.error error, rows)

/-- The rows after so many calls. -/
def rowsAfter (calls : ℕ → dispatcher.Call) (rows : IntakeRows) : ℕ → IntakeRows
  | 0 => rows
  | n + 1 => (dispatchPending project dispatcher (calls n) (rowsAfter calls rows n)).2

end PublicIntakeOutboxDispatcher

end ShemaPlatform
