/-
One dispatcher that is called again and again while the publication of one event
always raises: which of the other events it publishes.
-/
import Mathlib.Data.String.Basic
import ShemaPlatform.BatchQueue
import ShemaPlatform.OutboxDispatch

namespace ShemaPlatform

open Calendar ReadCommitted ReadCommitted.Prog

/-- What the constructor accepts. -/
structure OutboxDispatcher where
  workerId : String
  leaseSeconds : ℤ
  valid : PyText.blank workerId = false ∧ 0 < leaseSeconds

namespace OutboxDispatcher

/-- A call with what the clock reads: at the start, and after the publication of
an event, when the lease still runs. -/
structure Call (dispatcher : OutboxDispatcher) where
  now : Instant
  limit : ℕ
  clock : String → Instant
  timely : ∀ eventId, clock eventId < now + seconds dispatcher.leaseSeconds

variable (uuid5 : String → String) (safeErrorDetail : Failure → String)
  (publish : OutboxEvent → Except Failure Unit) (dispatcher : OutboxDispatcher)

/-- The loop body of `dispatch_pending`; an audit record that cannot be written
is given up. -/
def deliver (clock : String → Instant) (delivery : OutboxDelivery) (rows : WorkRows) :
    Except Failure ℕ × WorkRows :=
  let now := clock delivery.event.eventId
  match publish delivery.event with
  | .error error =>
      (.error error, match (OutboxDispatch.auditFailure uuid5 dispatcher.workerId delivery
          (safeErrorDetail error) now).atomically (fun _ => false) rows with
        | .ok (_, rows) => rows
        | .error _ => rows)
  | .ok _ =>
      match (OutboxDispatch.mark uuid5 dispatcher.workerId delivery now).atomically
          (fun _ => false) rows with
      | .ok (_, rows) => (.ok 1, rows)
      | .error error => (.error error, rows)

def dispatchPending (call : dispatcher.Call) (rows : WorkRows) :
    Except Failure ℕ × WorkRows :=
  match (OutboxRepository.claimPending dispatcher.workerId dispatcher.leaseSeconds
      call.now call.limit).atomically (fun _ => false) rows with
  | .ok (deliveries, rows) =>
      BatchQueue.each (deliver uuid5 safeErrorDetail publish dispatcher call.clock)
        deliveries rows
  | .error error => (.error error, rows)

/-- The rows after so many calls. -/
def rowsAfter (calls : ℕ → dispatcher.Call) (rows : WorkRows) : ℕ → WorkRows
  | 0 => rows
  | n + 1 => (dispatchPending uuid5 safeErrorDetail publish dispatcher (calls n)
      (rowsAfter calls rows n)).2

end OutboxDispatcher

/-- The pending events, of which one can never be published.  Events stand under
their own ids, and a publication is audited together with its mark. -/
structure Poisoned (uuid5 : String → String) (publish : OutboxEvent → Except Failure Unit)
    (failing : String) (rows : WorkRows) : Prop where
  keyed : ∀ {eventId row}, eventAt rows eventId = some row → row.event.eventId = eventId
  unaudited : ∀ {eventId row}, eventAt rows eventId = some row → row.publishedAt = none →
    rows.get (WorkKey.auditLog (uuid5 s!"audit:outbox.published:{eventId}")) = none
  raises : ∀ {row}, eventAt rows failing = some row → row.publishedAt = none →
    ∃ error, publish row.event = .error error
  succeeds : ∀ {eventId row}, eventAt rows eventId = some row → row.publishedAt = none →
    eventId ≠ failing → publish row.event = .ok ()

/-- What a delivery does to the outbox: an event stays as it is or is published. -/
structure Delivers (uuid5 : String → String) (publish : OutboxEvent → Except Failure Unit)
    (failing : String) (rows rows' : WorkRows) : Prop where
  events : ∀ eventId, eventAt rows' eventId = eventAt rows eventId ∨
    ∃ row time, eventAt rows eventId = some row ∧ row.publishedAt = none ∧
      eventAt rows' eventId = some (OutboxRepository.published time row)
  poisoned : Poisoned uuid5 publish failing rows → Poisoned uuid5 publish failing rows'

/-- An event is published. -/
def EventPublished (rows : WorkRows) (eventId : String) : Prop :=
  ∃ row, eventAt rows eventId = some row ∧ row.publishedAt.isSome = true

/-- An event can be claimed. -/
def EventDue (rows : WorkRows) (eventId : String) (now : Instant) : Prop :=
  ∃ row, eventAt rows eventId = some row ∧ OutboxRepository.claimable now row = true

namespace Delivers

variable {uuid5 : String → String} {publish : OutboxEvent → Except Failure Unit}
  {failing eventId : String} {rows rows' rows'' : WorkRows}

theorem refl (rows : WorkRows) : Delivers uuid5 publish failing rows rows :=
  ⟨fun _ => Or.inl rfl, id⟩

theorem trans (h : Delivers uuid5 publish failing rows rows')
    (h' : Delivers uuid5 publish failing rows' rows'') :
    Delivers uuid5 publish failing rows rows'' := by
  constructor
  · intro eventId
    rcases h.events eventId with hsame | ⟨row, time, hrow, hpending, hpublished⟩
    · rw [← hsame]
      exact h'.events eventId
    · right
      refine ⟨row, time, hrow, hpending, ?_⟩
      rcases h'.events eventId with hsame | ⟨found, _, hfound, hunpublished, _⟩
      · rw [hsame]
        exact hpublished
      · obtain rfl := Option.some.inj (hpublished.symm.trans hfound)
        cases hunpublished
  · exact fun hpoisoned => h'.poisoned (h.poisoned hpoisoned)

/-- What is not published stays as it was. -/
theorem unpublished (h : Delivers uuid5 publish failing rows rows')
    (hpending : ¬ EventPublished rows' eventId) :
    eventAt rows' eventId = eventAt rows eventId := by
  rcases h.events eventId with hsame | ⟨row, time, _, _, hpublished⟩
  · exact hsame
  · exact absurd ⟨_, hpublished, rfl⟩ hpending

theorem published_iff (h : Delivers uuid5 publish failing rows rows')
    (hpublished : EventPublished rows' eventId → EventPublished rows eventId) :
    EventPublished rows' eventId ↔ EventPublished rows eventId := by
  constructor
  · exact hpublished
  · rintro ⟨row, hrow, hdone⟩
    rcases h.events eventId with hsame | ⟨found, _, hfound, hpending, _⟩
    · exact ⟨row, hsame.trans hrow, hdone⟩
    · obtain rfl := Option.some.inj (hrow.symm.trans hfound)
      simp [hpending] at hdone

end Delivers

namespace OutboxDispatcher

section Delivery

variable {uuid5 : String → String} {rows : WorkRows} {row : OutboxRow}
  {delivery : OutboxDelivery} {workerId : String} {now : Instant}
  {locked : LockedRows}

theorem auditAppend_execute {record : AuditRecord} {own : WorkRows}
    (hnew : record.new = .ok record)
    (hfree : Rows.get (own ++ rows) (WorkKey.auditLog record.auditId) = none) :
    (AuditRepository.append record).execute locked rows own =
      .ok ((), ⟨WorkKey.auditLog record.auditId, some record⟩ :: own) := by
  simp only [AuditRepository.append, execute_bind_eq_ok, execute_lift_eq_ok]
  exact ⟨record, own, ⟨hnew, rfl⟩, execute_insert_eq_ok.mpr ⟨hfree, rfl⟩⟩

theorem markPublished_execute {eventId : String} (hworker : PyText.blank workerId = false)
    (hrow : eventAt rows eventId = some row)
    (hheld : OutboxRepository.heldBy workerId now row = true) :
    (OutboxRepository.markPublished eventId workerId now).execute locked rows [] =
      .ok (OutboxRepository.published now row,
        [⟨WorkKey.outboxEvent eventId, some (OutboxRepository.published now row)⟩]) := by
  have hget : Rows.get rows (WorkKey.outboxEvent eventId) = some row := hrow
  simp [OutboxRepository.markPublished, execute_bind, execute_updateWhere, hget, hheld,
    hworker, require]

/-- The mark of a delivery that is still leased succeeds. -/
theorem mark_isOk (hworker : PyText.blank workerId = false)
    (hnamed : ∀ text, PyText.blank (uuid5 text) = false)
    (hrow : eventAt rows delivery.event.eventId = some row)
    (hheld : OutboxRepository.heldBy workerId now row = true)
    (hfree : rows.get (WorkKey.auditLog
      (uuid5 s!"audit:outbox.published:{delivery.event.eventId}")) = none) :
    ∃ record, (OutboxDispatch.mark uuid5 workerId delivery now).atomically locked rows =
      .ok (OutboxRepository.published now row,
        ⟨WorkKey.auditLog (uuid5 s!"audit:outbox.published:{delivery.event.eventId}"),
          some record⟩ ::
        ⟨WorkKey.outboxEvent delivery.event.eventId,
          some (OutboxRepository.published now row)⟩ :: rows) := by
  simp only [OutboxDispatch.mark, atomically, execute_bind,
    markPublished_execute hworker hrow hheld]
  rw [auditAppend_execute]
  · exact ⟨_, rfl⟩
  · simp only [AuditRecord.new, bind_eq_ok, require_eq_ok, pure_eq_ok, exists_const,
      hnamed, hworker]
    exact ⟨rfl, by decide, by decide, trivial⟩
  · rw [List.cons_append, List.nil_append, Rows.get_cons_ne (by simp)]
    exact hfree

/-- Texts of two kinds of audit records are different, and two texts of one kind
are when their events are. -/
theorem published_text_inj {first second : String}
    (h : s!"audit:outbox.published:{first}" = s!"audit:outbox.published:{second}") :
    first = second := by
  have hchars := congrArg String.toList h
  rw [String.toList_append, String.toList_append] at hchars
  exact String.toList_inj.mp (List.append_cancel_left hchars)

theorem published_text_ne {first second : String} {attempt : ℕ} :
    s!"audit:outbox.failed:{second}:{attempt}" ≠ s!"audit:outbox.published:{first}" := by
  intro h
  have hchar := congrArg (fun text : String => text.toList[13]?) h
  simp only [String.toList_append, List.append_assoc] at hchar
  rw [List.getElem?_append_left (by decide), List.getElem?_append_left (by decide)] at hchar
  exact absurd hchar (by decide)

end Delivery

section Works

variable {uuid5 : String → String} {safeErrorDetail : Failure → String}
  {publish : OutboxEvent → Except Failure Unit} {failing : String}
  {dispatcher : OutboxDispatcher} {rows : WorkRows}

/-- A record of another kind leaves the outbox as it is. -/
theorem delivers_audit (huuid5 : Function.Injective uuid5) {text : String}
    (htext : ∀ eventId : String, text ≠ s!"audit:outbox.published:{eventId}")
    (record : Option AuditRecord) :
    Delivers uuid5 publish failing rows (⟨WorkKey.auditLog (uuid5 text), record⟩ :: rows) := by
  constructor
  · exact fun eventId => Or.inl (eventAt_audit _ _ _)
  · intro hpoisoned
    constructor
    · intro eventId row hrow
      rw [eventAt_audit] at hrow
      exact hpoisoned.keyed hrow
    · intro eventId row hrow hpending
      rw [eventAt_audit] at hrow
      rw [Rows.get_cons_ne]
      · exact hpoisoned.unaudited hrow hpending
      · intro hsame
        exact htext eventId (huuid5 (WorkKey.auditLog.inj hsame))
    · intro row hrow
      rw [eventAt_audit] at hrow
      exact hpoisoned.raises hrow
    · intro eventId row hrow
      rw [eventAt_audit] at hrow
      exact hpoisoned.succeeds hrow

/-- An event is marked together with its audit record. -/
theorem delivers_mark (huuid5 : Function.Injective uuid5) {eventId : String} {row : OutboxRow}
    (hrow : eventAt rows eventId = some row) (hpending : row.publishedAt = none)
    (time : Instant) (record : AuditRecord) :
    Delivers uuid5 publish failing rows
      (⟨WorkKey.auditLog (uuid5 s!"audit:outbox.published:{eventId}"), some record⟩ ::
        ⟨WorkKey.outboxEvent eventId, some (OutboxRepository.published time row)⟩ ::
          rows) := by
  have hevent : ∀ {other found}, eventAt
      (⟨WorkKey.auditLog (uuid5 s!"audit:outbox.published:{eventId}"), some record⟩ ::
        ⟨WorkKey.outboxEvent eventId, some (OutboxRepository.published time row)⟩ ::
          rows) other = some found →
      found = OutboxRepository.published time row ∧ other = eventId ∨
        other ≠ eventId ∧ eventAt rows other = some found := by
    intro other found hfound
    rw [eventAt_audit, eventAt_event] at hfound
    by_cases hother : eventId = other
    · rw [if_pos hother] at hfound
      exact Or.inl ⟨(Option.some.inj hfound).symm, hother.symm⟩
    · rw [if_neg hother] at hfound
      exact Or.inr ⟨Ne.symm hother, hfound⟩
  constructor
  · intro other
    rw [eventAt_audit, eventAt_event]
    by_cases hother : eventId = other
    · subst hother
      right
      exact ⟨row, time, hrow, hpending, if_pos rfl⟩
    · exact Or.inl (if_neg hother)
  · intro hpoisoned
    constructor
    · intro other found hfound
      rcases hevent hfound with ⟨rfl, rfl⟩ | ⟨_, hfound⟩
      · have hkeyed := hpoisoned.keyed hrow
        exact hkeyed
      · exact hpoisoned.keyed hfound
    · intro other found hfound hunpublished
      rcases hevent hfound with ⟨rfl, _⟩ | ⟨hother, hfound⟩
      · cases hunpublished
      · rw [Rows.get_cons_ne, Rows.get_cons_ne (by simp)]
        · exact hpoisoned.unaudited hfound hunpublished
        · intro hsame
          exact hother (published_text_inj (huuid5 (WorkKey.auditLog.inj hsame))).symm
    · intro found hfound hunpublished
      rcases hevent hfound with ⟨rfl, _⟩ | ⟨_, hfound⟩
      · cases hunpublished
      · exact hpoisoned.raises hfound hunpublished
    · intro other found hfound hunpublished hother
      rcases hevent hfound with ⟨rfl, _⟩ | ⟨_, hfound⟩
      · cases hunpublished
      · exact hpoisoned.succeeds hfound hunpublished hother

/-- The deliveries at hand are leased to this dispatcher, each for another event. -/
structure Ready (uuid5 : String → String) (publish : OutboxEvent → Except Failure Unit)
    (failing : String) (dispatcher : OutboxDispatcher) (leaseUntil : Instant)
    (deliveries : List OutboxDelivery) (rows : WorkRows) : Prop where
  nodup : (deliveries.map fun delivery => delivery.event.eventId).Nodup
  poisoned : Poisoned uuid5 publish failing rows
  leased : ∀ delivery ∈ deliveries, ∃ row, eventAt rows delivery.event.eventId = some row ∧
    row.event = delivery.event ∧ row.publishedAt = none ∧
    row.delivery = some ⟨dispatcher.workerId, leaseUntil⟩

/-- The delivery of an event that can be published. -/
theorem deliver_publishes (huuid5 : Function.Injective uuid5)
    (hnamed : ∀ text, PyText.blank (uuid5 text) = false) {clock : String → Instant}
    {leaseUntil : Instant} (htimely : ∀ eventId, clock eventId < leaseUntil)
    {delivery : OutboxDelivery} {rest : List OutboxDelivery}
    (hne : delivery.event.eventId ≠ failing)
    (hready : Ready uuid5 publish failing dispatcher leaseUntil (delivery :: rest) rows) :
    ∃ row rows', eventAt rows delivery.event.eventId = some row ∧ row.publishedAt = none ∧
      deliver uuid5 safeErrorDetail publish dispatcher clock delivery rows =
        (.ok 1, rows') ∧
      Delivers uuid5 publish failing rows rows' ∧
      ∀ other, eventAt rows' other = if delivery.event.eventId = other then
        some (OutboxRepository.published (clock delivery.event.eventId) row)
          else eventAt rows other := by
  obtain ⟨row, hrow, hevent, hpending, hlease⟩ :=
    hready.leased delivery List.mem_cons_self
  have hpublish := hready.poisoned.succeeds hrow hpending hne
  rw [hevent] at hpublish
  have hheld : OutboxRepository.heldBy dispatcher.workerId (clock delivery.event.eventId)
      row = true :=
    OutboxRepository.heldBy_eq_true.mpr ⟨hpending, leaseUntil, hlease, htimely _⟩
  obtain ⟨record, hmark⟩ := @mark_isOk uuid5 rows row delivery dispatcher.workerId
    (clock delivery.event.eventId) (fun _ => false) dispatcher.valid.1 hnamed hrow hheld
    (hready.poisoned.unaudited hrow hpending)
  refine ⟨row, _, hrow, hpending, ?_,
    delivers_mark huuid5 hrow hpending (clock delivery.event.eventId) record, ?_⟩
  · simp only [deliver, hpublish, hmark]
  · intro other
    rw [eventAt_audit, eventAt_event]

/-- The delivery of the one that cannot. -/
theorem deliver_raises (huuid5 : Function.Injective uuid5) {clock : String → Instant}
    {leaseUntil : Instant} {delivery : OutboxDelivery} {rest : List OutboxDelivery}
    (hfailing : delivery.event.eventId = failing)
    (hready : Ready uuid5 publish failing dispatcher leaseUntil (delivery :: rest) rows) :
    ∃ error rows', deliver uuid5 safeErrorDetail publish dispatcher clock delivery rows =
        (.error error, rows') ∧ Delivers uuid5 publish failing rows rows' ∧
      ∀ other, eventAt rows' other = eventAt rows other := by
  obtain ⟨row, hrow, hevent, hpending, _⟩ := hready.leased delivery List.mem_cons_self
  rw [hfailing] at hrow
  obtain ⟨error, hpublish⟩ := hready.poisoned.raises hrow hpending
  rw [hevent] at hpublish
  cases haudit : (OutboxDispatch.auditFailure uuid5 dispatcher.workerId delivery
      (safeErrorDetail error) (clock delivery.event.eventId)).atomically (fun _ => false)
        rows with
  | error failure =>
      refine ⟨error, rows, ?_, Delivers.refl rows, fun _ => rfl⟩
      simp only [deliver, hpublish, haudit]
  | ok outcome =>
      obtain ⟨_, rows'⟩ := outcome
      refine ⟨error, rows', ?_, ?_, OutboxDispatch.auditFailure_eq_ok haudit⟩
      · simp only [deliver, hpublish, haudit]
      · obtain ⟨own, hrun, rfl⟩ := atomically_eq_ok.mp haudit
        obtain rfl := AuditRepository.append_eq_ok hrun
        exact delivers_audit huuid5 (fun _ => published_text_ne) _

theorem works (huuid5 : Function.Injective uuid5)
    (hnamed : ∀ text, PyText.blank (uuid5 text) = false) {clock : String → Instant}
    {leaseUntil : Instant} (htimely : ∀ eventId, clock eventId < leaseUntil) :
    BatchQueue.Works (deliver uuid5 safeErrorDetail publish dispatcher clock)
      (fun delivery => delivery.event.eventId) failing EventPublished
      (Ready uuid5 publish failing dispatcher leaseUntil)
      (Delivers uuid5 publish failing) := by
  constructor
  · exact Delivers.refl
  · exact fun h h' => h.trans h'
  · intro delivery rest rows hne hready
    obtain ⟨row, rows', hrow, hpending, hdeliver, hdelivers, hevents⟩ :=
      @deliver_publishes uuid5 safeErrorDetail publish failing dispatcher rows huuid5 hnamed
        clock leaseUntil htimely delivery rest hne hready
    rw [hdeliver]
    obtain ⟨hnew, hnodup⟩ := List.nodup_cons.mp hready.nodup
    refine ⟨⟨1, rfl⟩, ⟨hnodup, hdelivers.poisoned hready.poisoned, ?_⟩, hdelivers, ?_⟩
    · intro other hother
      have hdifferent : delivery.event.eventId ≠ other.event.eventId := by
        intro hsame
        exact hnew (List.mem_map.mpr ⟨other, hother, hsame.symm⟩)
      rw [hevents, if_neg hdifferent]
      exact hready.leased other (List.mem_cons_of_mem _ hother)
    · intro other
      rw [EventPublished, hevents]
      by_cases hother : delivery.event.eventId = other
      · rw [if_pos hother]
        exact iff_of_true ⟨_, rfl, rfl⟩ (Or.inr hother.symm)
      · rw [if_neg hother, or_iff_left (Ne.symm hother), EventPublished]
  · intro delivery rest rows hfailing hready
    obtain ⟨error, rows', hdeliver, hdelivers, hevents⟩ :=
      @deliver_raises uuid5 safeErrorDetail publish failing dispatcher rows huuid5 clock
        leaseUntil delivery rest hfailing hready
    rw [hdeliver]
    refine ⟨⟨error, rfl⟩, hdelivers, fun other => ?_⟩
    rw [EventPublished, hevents, EventPublished]

end Works

section Round

variable {uuid5 : String → String} {safeErrorDetail : Failure → String}
  {publish : OutboxEvent → Except Failure Unit} {failing : String}
  {dispatcher : OutboxDispatcher} {rows : WorkRows} {now : Instant} {limit : ℕ}

instance : Std.Total OutboxRepository.ordered :=
  ⟨fun a b => BatchQueue.InOrder.total (a.2.event.occurredAt, a.1) (b.2.event.occurredAt, b.1)⟩

instance : IsTrans (String × OutboxRow) OutboxRepository.ordered :=
  ⟨fun a b c hab hbc => @BatchQueue.InOrder.trans _ _ _ _ (a.2.event.occurredAt, a.1)
    (b.2.event.occurredAt, b.1) (c.2.event.occurredAt, c.1) hab hbc⟩

/-- One event comes before another in the order of their claims. -/
def Precedes (rows : WorkRows) (first second : String) : Prop :=
  ∃ row row', eventAt rows first = some row ∧ eventAt rows second = some row' ∧
    OutboxRepository.ordered (first, row) (second, row')

theorem candidates_sorted (now : Instant) (limit : ℕ) (locked : LockedRows)
    (rows : WorkRows) :
    (OutboxRepository.candidates now limit locked rows).Pairwise (Precedes rows) := by
  simp only [OutboxRepository.candidates]
  apply List.pairwise_map.mpr
  have hsorted := List.Pairwise.sublist (List.take_sublist limit _)
    (List.pairwise_insertionSort OutboxRepository.ordered
      ((OutboxRepository.all rows).filter fun entry =>
        OutboxRepository.claimable now entry.2 && !locked (WorkKey.outboxEvent entry.1)))
  apply hsorted.imp_of_mem
  have hmem : ∀ {entry}, entry ∈ (List.insertionSort OutboxRepository.ordered
      ((OutboxRepository.all rows).filter fun entry =>
        OutboxRepository.claimable now entry.2 &&
          !locked (WorkKey.outboxEvent entry.1))).take limit →
      eventAt rows entry.1 = some entry.2 := by
    intro entry hentry
    have hall := List.mem_of_mem_take hentry
    rw [List.mem_insertionSort, List.mem_filter] at hall
    exact OutboxRepository.mem_all.mp hall.1
  intro first second hfirst hsecond hordered
  exact ⟨first.2, second.2, hmem hfirst, hmem hsecond, hordered⟩

theorem Precedes.antisymm {first second : String} (h : Precedes rows first second)
    (h' : Precedes rows second first) : first = second := by
  obtain ⟨row, row', hrow, hrow', hordered⟩ := h
  obtain ⟨other', other, hother', hother, hreverse⟩ := h'
  obtain rfl := Option.some.inj (hrow.symm.trans hother)
  obtain rfl := Option.some.inj (hrow'.symm.trans hother')
  exact @BatchQueue.InOrder.antisymm _ _ _ _ (row.event.occurredAt, first)
    (row'.event.occurredAt, second) hordered hreverse

/-- The number of events that are not published. -/
def pendingCount (rows : WorkRows) : ℕ :=
  ((OutboxRepository.all rows).filter fun entry => entry.2.publishedAt.isNone).length

theorem mem_pending {rows : WorkRows} {eventId : String} :
    eventId ∈ ((OutboxRepository.all rows).filter fun entry =>
        entry.2.publishedAt.isNone).map Prod.fst ↔
      ∃ row, eventAt rows eventId = some row ∧ row.publishedAt = none := by
  simp [OutboxRepository.mem_all]

theorem pendingCount_le {rows rows' : WorkRows}
    (hpending : ∀ eventId row', eventAt rows' eventId = some row' →
      row'.publishedAt = none →
      ∃ row, eventAt rows eventId = some row ∧ row.publishedAt = none) :
    pendingCount rows' ≤ pendingCount rows := by
  have hnodup : (((OutboxRepository.all rows').filter fun entry =>
      entry.2.publishedAt.isNone).map Prod.fst).Nodup :=
    (List.filter_sublist.map Prod.fst).nodup (OutboxRepository.nodup_all rows')
  have hsubset : (((OutboxRepository.all rows').filter fun entry =>
      entry.2.publishedAt.isNone).map Prod.fst) ⊆
        ((OutboxRepository.all rows).filter fun entry =>
          entry.2.publishedAt.isNone).map Prod.fst := by
    intro eventId hmem
    obtain ⟨row', hrow', hunpublished⟩ := mem_pending.mp hmem
    exact mem_pending.mpr (hpending eventId row' hrow' hunpublished)
  have hlength := (List.subperm_of_subset hnodup hsubset).length_le
  rw [List.length_map, List.length_map] at hlength
  exact hlength

/-- With an ample limit the candidates are what is due. -/
theorem mem_candidates_iff {eventId : String} (hample : pendingCount rows ≤ limit) :
    eventId ∈ OutboxRepository.candidates now limit (fun _ => false) rows ↔
      EventDue rows eventId now := by
  apply OutboxRepository.mem_candidates
  apply le_trans (List.Sublist.length_le _) hample
  apply List.monotone_filter_right
  intro entry hclaimable
  rw [(OutboxRepository.claimable_eq_true.mp hclaimable).1]
  rfl

/-- The claim takes what is due, in order, and leases it to the dispatcher. -/
theorem claim_spec (hpoisoned : Poisoned uuid5 publish failing rows) (hlimit : 1 ≤ limit)
    (hample : pendingCount rows ≤ limit) :
    ∃ deliveries claimed, (OutboxRepository.claimPending dispatcher.workerId
        dispatcher.leaseSeconds now limit).atomically (fun _ => false) rows =
          .ok (deliveries, claimed) ∧
      (deliveries.map fun delivery => delivery.event.eventId) =
        OutboxRepository.candidates now limit (fun _ => false) rows ∧
      Ready uuid5 publish failing dispatcher (now + seconds dispatcher.leaseSeconds)
        deliveries claimed ∧
      ∀ eventId, (EventDue rows eventId now → eventAt claimed eventId =
          (eventAt rows eventId).map (OutboxRepository.claimed dispatcher.workerId
            (now + seconds dispatcher.leaseSeconds))) ∧
        (¬ EventDue rows eventId now → eventAt claimed eventId = eventAt rows eventId) := by
  obtain ⟨claimed, hclaim, hrows, hother⟩ :=
    @OutboxRepository.claimPending_taken dispatcher.workerId now rows dispatcher.leaseSeconds
      limit dispatcher.valid.1 dispatcher.valid.2 hlimit
  have hmem : ∀ eventId, eventId ∈ OutboxRepository.candidates now limit
      (fun _ => false) rows ↔ EventDue rows eventId now :=
    fun eventId => mem_candidates_iff hample
  have hclaimed : ∀ eventId, (EventDue rows eventId now → eventAt claimed eventId =
        (eventAt rows eventId).map (OutboxRepository.claimed dispatcher.workerId
          (now + seconds dispatcher.leaseSeconds))) ∧
      (¬ EventDue rows eventId now → eventAt claimed eventId = eventAt rows eventId) := by
    intro eventId
    rw [hrows]
    constructor
    · intro hdue
      rw [if_pos ((hmem eventId).mpr hdue)]
    · intro hnot
      rw [if_neg fun h => hnot ((hmem eventId).mp h)]
  have hback : ∀ {eventId row}, eventAt claimed eventId = some row →
      ∃ before, eventAt rows eventId = some before ∧ row.event = before.event ∧
        row.publishedAt = before.publishedAt := by
    intro eventId row hrow
    by_cases hdue : EventDue rows eventId now
    · rw [(hclaimed eventId).1 hdue] at hrow
      obtain ⟨before, hbefore, rfl⟩ := Option.map_eq_some_iff.mp hrow
      exact ⟨before, hbefore, rfl, rfl⟩
    · rw [(hclaimed eventId).2 hdue] at hrow
      exact ⟨row, hrow, rfl, rfl⟩
  have hnames : (((OutboxRepository.candidates now limit (fun _ => false) rows).filterMap
      fun eventId => (eventAt rows eventId).map (OutboxRepository.delivered
        dispatcher.workerId (now + seconds dispatcher.leaseSeconds))).map
          fun delivery => delivery.event.eventId) =
        OutboxRepository.candidates now limit (fun _ => false) rows := by
    rw [List.map_filterMap]
    have hname : ∀ eventId ∈ OutboxRepository.candidates now limit (fun _ => false) rows,
        ((eventAt rows eventId).map (OutboxRepository.delivered dispatcher.workerId
          (now + seconds dispatcher.leaseSeconds))).map
            (fun delivery => delivery.event.eventId) = some eventId := by
      intro eventId hcandidate
      obtain ⟨row, hrow, _⟩ := (hmem eventId).mp hcandidate
      rw [hrow, Option.map_some, Option.map_some]
      exact congrArg some (hpoisoned.keyed hrow)
    rw [List.filterMap_congr hname, List.filterMap_some]
  refine ⟨_, claimed, hclaim, hnames, ⟨?_, ?_, ?_⟩, hclaimed⟩
  · rw [hnames]
    exact OutboxRepository.candidates_nodup now limit _ rows
  · constructor
    · intro eventId row hrow
      obtain ⟨before, hbefore, hevent, _⟩ := hback hrow
      rw [hevent]
      exact hpoisoned.keyed hbefore
    · intro eventId row hrow hunpublished
      obtain ⟨before, hbefore, _, hsame⟩ := hback hrow
      rw [hother _ (by simp)]
      exact hpoisoned.unaudited hbefore (hsame ▸ hunpublished)
    · intro row hrow hunpublished
      obtain ⟨before, hbefore, hevent, hsame⟩ := hback hrow
      rw [hevent]
      exact hpoisoned.raises hbefore (hsame ▸ hunpublished)
    · intro eventId row hrow hunpublished hne
      obtain ⟨before, hbefore, hevent, hsame⟩ := hback hrow
      rw [hevent]
      exact hpoisoned.succeeds hbefore (hsame ▸ hunpublished) hne
  · intro delivery hdelivery
    obtain ⟨eventId, hcandidate, hfound⟩ := List.mem_filterMap.mp hdelivery
    obtain ⟨row, hrow, rfl⟩ := Option.map_eq_some_iff.mp hfound
    obtain ⟨found, hfoundRow, hclaimable⟩ := (hmem eventId).mp hcandidate
    obtain rfl := Option.some.inj (hrow.symm.trans hfoundRow)
    have hkeyed : row.event.eventId = eventId := hpoisoned.keyed hrow
    refine ⟨OutboxRepository.claimed dispatcher.workerId
      (now + seconds dispatcher.leaseSeconds) row, ?_, rfl,
      (OutboxRepository.claimable_eq_true.mp hclaimable).1, rfl⟩
    change eventAt claimed row.event.eventId = _
    rw [hkeyed, (hclaimed eventId).1 ((hmem eventId).mp hcandidate), hrow]
    rfl

def outboxTable : BatchQueue.Table WorkRows String OutboxRow Instant where
  row := eventAt
  done row := row.publishedAt.isSome
  free := OutboxRepository.claimable

theorem Precedes.of_events {rows rows' : WorkRows} {first second : String}
    (hevents : ∀ eventId, (eventAt rows' eventId).map OutboxRow.event =
      (eventAt rows eventId).map OutboxRow.event) (h : Precedes rows first second) :
    Precedes rows' first second := by
  obtain ⟨row, row', hrow, hrow', hordered⟩ := h
  have hkept : ∀ {eventId row}, eventAt rows eventId = some row →
      ∃ after, eventAt rows' eventId = some after ∧ after.event = row.event := by
    intro eventId row hrow
    have hevent := hevents eventId
    rw [hrow, Option.map_some, Option.map_eq_some_iff] at hevent
    exact hevent
  obtain ⟨after, hafter, hevent⟩ := hkept hrow
  obtain ⟨after', hafter', hevent'⟩ := hkept hrow'
  refine ⟨after, after', hafter, hafter', ?_⟩
  simp only [OutboxRepository.ordered, hevent, hevent']
  exact hordered

/-- What a call leaves for the calls after it. -/
structure Called (uuid5 : String → String) (publish : OutboxEvent → Except Failure Unit)
    (failing : String) (rows rows' : WorkRows) : Prop where
  poisoned : Poisoned uuid5 publish failing rows'
  events : ∀ eventId, (eventAt rows' eventId).map OutboxRow.event =
    (eventAt rows eventId).map OutboxRow.event
  pending : pendingCount rows' ≤ pendingCount rows

/-- One call, as a round over the queue. -/
theorem dispatchPending_round (huuid5 : Function.Injective uuid5)
    (hnamed : ∀ text, PyText.blank (uuid5 text) = false)
    (hpoisoned : Poisoned uuid5 publish failing rows) (call : dispatcher.Call)
    (hlimit : 1 ≤ call.limit) (hample : pendingCount rows ≤ call.limit) :
    Called uuid5 publish failing rows
        (dispatchPending uuid5 safeErrorDetail publish dispatcher call rows).2 ∧
      BatchQueue.Round (Precedes rows) failing
        (fun time => call.now + seconds dispatcher.leaseSeconds ≤ time) call.now
        (outboxTable.view rows) (outboxTable.view (dispatchPending uuid5 safeErrorDetail publish dispatcher
          call rows).2) := by
  obtain ⟨deliveries, claimed, hclaim, hnames, hready, hclaimed⟩ :=
    @claim_spec uuid5 publish failing dispatcher rows call.now call.limit hpoisoned hlimit
      hample
  obtain ⟨hdelivers, hfinished⟩ := (@works uuid5 safeErrorDetail publish failing dispatcher
    huuid5 hnamed call.clock _ call.timely).each hready
  have hdispatch : dispatchPending uuid5 safeErrorDetail publish dispatcher call rows =
      BatchQueue.each (deliver uuid5 safeErrorDetail publish dispatcher call.clock)
        deliveries claimed := by
    simp only [dispatchPending, hclaim]
  rw [hdispatch]
  generalize (BatchQueue.each (deliver uuid5 safeErrorDetail publish dispatcher call.clock)
    deliveries claimed).2 = rows' at hdelivers hfinished ⊢
  rw [hnames] at hfinished
  have hback : ∀ {eventId row}, eventAt claimed eventId = some row →
      ∃ before, eventAt rows eventId = some before ∧ row.event = before.event ∧
        row.publishedAt = before.publishedAt := by
    intro eventId row hrow
    by_cases hdue : EventDue rows eventId call.now
    · rw [(hclaimed eventId).1 hdue] at hrow
      obtain ⟨before, hbefore, rfl⟩ := Option.map_eq_some_iff.mp hrow
      exact ⟨before, hbefore, rfl, rfl⟩
    · rw [(hclaimed eventId).2 hdue] at hrow
      exact ⟨row, hrow, rfl, rfl⟩
  have hevents : ∀ eventId, (eventAt claimed eventId).map OutboxRow.event =
      (eventAt rows eventId).map OutboxRow.event := by
    intro eventId
    by_cases hdue : EventDue rows eventId call.now
    · rw [(hclaimed eventId).1 hdue, Option.map_map]
      rfl
    · rw [(hclaimed eventId).2 hdue]
  constructor
  · constructor
    · exact hdelivers.poisoned hready.poisoned
    · intro eventId
      rw [← hevents eventId]
      rcases hdelivers.events eventId with hsame | ⟨row, time, hrow, _, hdone⟩
      · rw [hsame]
      · rw [hrow, hdone]
        rfl
    · apply pendingCount_le
      intro eventId row hrow hunpublished
      have hnot : ¬ EventPublished rows' eventId := by
        rintro ⟨found, hfound, hdone⟩
        obtain rfl := Option.some.inj (hrow.symm.trans hfound)
        simp [hunpublished] at hdone
      rw [hdelivers.unpublished hnot] at hrow
      obtain ⟨before, hbefore, _, hsame⟩ := hback hrow
      exact ⟨before, hbefore, hsame ▸ hunpublished⟩
  · have hlease : call.now ≤ call.now + seconds dispatcher.leaseSeconds :=
      (Int.lt_add_of_pos_right _ (Int.mul_pos dispatcher.valid.2 (by decide))).le
    apply outboxTable.round
    · intro row hfree
      change row.publishedAt.isSome = false
      rw [(OutboxRepository.claimable_eq_true.mp hfree).1]
      rfl
    · intro row time hlater hfree
      obtain ⟨hunpublished, hoccurred, hlapsed⟩ :=
        OutboxRepository.claimable_eq_true.mp hfree
      exact OutboxRepository.claimable_eq_true.mpr ⟨hunpublished,
        hoccurred.trans (hlease.trans hlater),
        fun lease hmem => (hlapsed lease hmem).trans (hlease.trans hlater)⟩
    · intro eventId row hrow hfree
      obtain ⟨hunpublished, hoccurred, _⟩ := OutboxRepository.claimable_eq_true.mp hfree
      refine ⟨_, ((hclaimed eventId).1 ⟨row, hrow, hfree⟩).trans
        (congrArg (Option.map _) hrow), ?_, ?_⟩
      · change row.publishedAt.isSome = false
        rw [hunpublished]
        rfl
      · intro time hlater
        refine OutboxRepository.claimable_eq_true.mpr ⟨hunpublished,
          hoccurred.trans (hlease.trans hlater), ?_⟩
        rintro lease hmem
        obtain rfl := Option.some.inj hmem
        exact hlater
    · exact fun hdue => (hclaimed _).2 hdue
    · exact candidates_sorted call.now call.limit (fun _ => false) rows
    · exact fun h h' => h.antisymm h'
    · exact fun _ => mem_candidates_iff hample
    · exact hfinished
    · exact fun hnot => hdelivers.unpublished hnot

end Round

section Calls

variable {uuid5 : String → String} {safeErrorDetail : Failure → String}
  {publish : OutboxEvent → Except Failure Unit} {failing : String}
  {dispatcher : OutboxDispatcher} {calls : ℕ → dispatcher.Call} {rows : WorkRows}

/-- An event is on record and not published. -/
def Pending (rows : WorkRows) (eventId : String) : Prop :=
  ∃ row, eventAt rows eventId = some row ∧ row.publishedAt = none

/-- Calls that are spaced by more than the lease and take all that is pending. -/
structure Spaced (dispatcher : OutboxDispatcher) (calls : ℕ → dispatcher.Call)
    (rows : WorkRows) : Prop where
  later : ∀ n, (calls n).now + seconds dispatcher.leaseSeconds < (calls (n + 1)).now
  ample : ∀ n, pendingCount rows ≤ (calls n).limit

theorem Pending.not_published {eventId : String} (h : Pending rows eventId) :
    ¬ EventPublished rows eventId := by
  obtain ⟨row, hrow, hunpublished⟩ := h
  rintro ⟨found, hfound, hdone⟩
  obtain rfl := Option.some.inj (hrow.symm.trans hfound)
  simp [hunpublished] at hdone

theorem pendingCount_pos {eventId : String} (hpending : Pending rows eventId) :
    1 ≤ pendingCount rows := by
  have hmem := mem_pending.mpr hpending
  have hpos := List.length_pos_of_mem hmem
  rw [List.length_map] at hpos
  exact hpos

theorem called_rowsAfter (huuid5 : Function.Injective uuid5)
    (hnamed : ∀ text, PyText.blank (uuid5 text) = false)
    (hpoisoned : Poisoned uuid5 publish failing rows) (hpending : Pending rows failing)
    (hspaced : Spaced dispatcher calls rows) (n : ℕ) :
    Called uuid5 publish failing rows
      (rowsAfter uuid5 safeErrorDetail publish dispatcher calls rows n) := by
  induction n with
  | zero => exact ⟨hpoisoned, fun _ => rfl, le_refl _⟩
  | succ n ih =>
      have hlimit := (pendingCount_pos hpending).trans (hspaced.ample n)
      have hnext := (@dispatchPending_round uuid5 safeErrorDetail publish failing dispatcher _
        huuid5 hnamed ih.poisoned (calls n) hlimit (ih.pending.trans (hspaced.ample n))).1
      exact ⟨hnext.poisoned, fun eventId => (hnext.events eventId).trans (ih.events eventId),
        hnext.pending.trans ih.pending⟩

theorem rounds (huuid5 : Function.Injective uuid5)
    (hnamed : ∀ text, PyText.blank (uuid5 text) = false)
    (hpoisoned : Poisoned uuid5 publish failing rows) (hpending : Pending rows failing)
    (hspaced : Spaced dispatcher calls rows) :
    BatchQueue.Rounds (Precedes rows) failing
      (fun time time' => time + seconds dispatcher.leaseSeconds ≤ time')
      (fun n => (calls n).now)
      fun n => outboxTable.view (rowsAfter uuid5 safeErrorDetail publish dispatcher calls rows n) := by
  constructor
  · intro n
    have hcalled := @called_rowsAfter uuid5 safeErrorDetail publish failing dispatcher calls
      rows huuid5 hnamed hpoisoned hpending hspaced n
    have hlimit := (pendingCount_pos hpending).trans (hspaced.ample n)
    have hround := (@dispatchPending_round uuid5 safeErrorDetail publish failing dispatcher _
      huuid5 hnamed hcalled.poisoned (calls n) hlimit
      (hcalled.pending.trans (hspaced.ample n))).2
    have hprecedes : ∀ {eventId}, Precedes (rowsAfter uuid5 safeErrorDetail publish
        dispatcher calls rows n) eventId failing ↔ Precedes rows eventId failing := by
      intro eventId
      constructor
      · exact fun h => h.of_events fun other => (hcalled.events other).symm
      · exact fun h => h.of_events hcalled.events
    constructor
    · intro eventId hne
      rw [← hprecedes]
      exact hround.finished eventId hne
    · exact hround.failing
    · exact hround.due
  · exact fun hlt => BatchQueue.le_of_spaced (Int.mul_pos dispatcher.valid.2 (by decide)).le
      hspaced.later hlt
  · exact hpending.not_published

/-- The other pending events all get published exactly when each of them comes
before the failing one, or is due at a call at which the failing one is not. -/
theorem all_published_iff (huuid5 : Function.Injective uuid5)
    (hnamed : ∀ text, PyText.blank (uuid5 text) = false)
    (hpoisoned : Poisoned uuid5 publish failing rows) (hpending : Pending rows failing)
    (hspaced : Spaced dispatcher calls rows) :
    (∃ n, ∀ eventId, Pending rows eventId → eventId ≠ failing →
      EventPublished (rowsAfter uuid5 safeErrorDetail publish dispatcher calls rows n)
        eventId) ↔
      ∀ eventId, Pending rows eventId → eventId ≠ failing →
        Precedes rows eventId failing ∨ ∃ n, EventDue rows eventId (calls n).now ∧
          ¬ EventDue rows failing (calls n).now := by
  have hlist := (@rounds uuid5 safeErrorDetail publish failing dispatcher calls rows huuid5
    hnamed hpoisoned hpending hspaced).all_finished_iff
      (((OutboxRepository.all rows).filter fun entry =>
        entry.2.publishedAt.isNone).map Prod.fst) ?_ ?_
  · simp only [mem_pending] at hlist
    exact hlist
  · intro eventId hmem
    exact Pending.not_published (mem_pending.mp hmem)
  · intro eventId hmem
    obtain ⟨row, hrow, hunpublished⟩ := mem_pending.mp hmem
    obtain ⟨n, hn⟩ := BatchQueue.reaches_of_spaced
      (Int.mul_pos dispatcher.valid.2 (by decide)) hspaced.later (max row.event.occurredAt
        ((row.delivery.map DeliveryLease.leaseUntil).getD row.event.occurredAt))
    refine ⟨n, row, hrow, OutboxRepository.claimable_eq_true.mpr ⟨hunpublished,
      (le_max_left _ _).trans hn, ?_⟩⟩
    intro lease hlease
    have hright := (le_max_right _ _).trans hn
    rw [Option.mem_def.mp hlease] at hright
    exact hright

end Calls

end OutboxDispatcher

end ShemaPlatform
