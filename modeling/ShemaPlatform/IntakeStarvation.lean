/-
The dispatcher of the public intake, called again and again while the projection
of one event always raises: which of the other events it publishes.
-/
import ShemaPlatform.PublicIntakeRules

namespace ShemaPlatform

open Calendar ReadCommitted ReadCommitted.Prog

/-- A request can be read: it is on record under its key and has its snapshot. -/
def Loadable (rows : IntakeRows) (requestId : String) : Prop :=
  ∃ (request : IntakeRequestRow) (snapshot : IntakeSnapshotRow),
    rows.get (IntakeKey.request requestId) = some request ∧
      rows.get (IntakeKey.requestKey request.idempotencyKey) = some requestId ∧
      rows.get (IntakeKey.preflightSnapshot request.preflightSnapshotId) = some snapshot

/-- Requests are on record under their keys. -/
def RequestsKeyed (rows : IntakeRows) : Prop :=
  ∀ requestId (request : IntakeRequestRow),
    rows.get (IntakeKey.request requestId) = some request →
      rows.get (IntakeKey.requestKey request.idempotencyKey) = some requestId

/-- The pending events, of which one can never be projected while every other one
can, or is none that is to be. -/
structure IntakePoisoned (project : PublicIntakeRecord → Except Failure Unit)
    (failing : String) (rows : IntakeRows) : Prop where
  requests : RequestsKeyed rows
  keyed : ∀ {eventId row}, intakeEventAt rows eventId = some row →
    row.event.eventId = eventId
  raises : ∀ {row}, intakeEventAt rows failing = some row → row.publishedAt = none →
    row.event.notifyOperator = true ∧ ∀ record : PublicIntakeRecord,
      record.requestId = row.event.requestId → ∃ error, project record = .error error
  succeeds : ∀ {eventId row}, intakeEventAt rows eventId = some row →
    row.publishedAt = none → eventId ≠ failing → row.event.notifyOperator = true →
      Loadable rows row.event.requestId ∧ ∀ record : PublicIntakeRecord,
        record.requestId = row.event.requestId → project record = .ok ()

/-- What a delivery does: an event stays as it is or is published, and requests
can be read as before. -/
structure IntakeDelivers (rows rows' : IntakeRows) : Prop where
  events : ∀ eventId, intakeEventAt rows' eventId = intakeEventAt rows eventId ∨
    ∃ row time, intakeEventAt rows eventId = some row ∧ row.publishedAt = none ∧
      intakeEventAt rows' eventId = some (PublicIntakeRepository.published time row)
  loadable : ∀ requestId, Loadable rows requestId → Loadable rows' requestId
  requests : RequestsKeyed rows → RequestsKeyed rows'

/-- An event is published. -/
def IntakePublished (rows : IntakeRows) (eventId : String) : Prop :=
  ∃ row, intakeEventAt rows eventId = some row ∧ row.publishedAt.isSome = true

/-- An event can be claimed. -/
def IntakeDue (rows : IntakeRows) (eventId : String) (now : Instant) : Prop :=
  ∃ row, intakeEventAt rows eventId = some row ∧
    PublicIntakeRepository.claimable now row = true

namespace IntakeDelivers

variable {project : PublicIntakeRecord → Except Failure Unit} {failing eventId : String}
  {rows rows' rows'' : IntakeRows}

theorem refl (rows : IntakeRows) : IntakeDelivers rows rows :=
  ⟨fun _ => Or.inl rfl, fun _ => id, id⟩

theorem trans (h : IntakeDelivers rows rows') (h' : IntakeDelivers rows' rows'') :
    IntakeDelivers rows rows'' := by
  constructor
  · intro eventId
    rcases h.events eventId with hsame | ⟨row, time, hrow, hpending, hpublished⟩
    · rw [← hsame]
      exact h'.events eventId
    · right
      refine ⟨row, time, hrow, hpending, ?_⟩
      rcases h'.events eventId with hsame | ⟨found, _, hfound, hunpublished, _⟩
      · rw [hsame]
        exact hpublished
      · obtain rfl := Option.some.inj (hpublished.symm.trans hfound)
        cases hunpublished
  · exact fun requestId hload => h'.loadable requestId (h.loadable requestId hload)
  · exact fun hrequests => h'.requests (h.requests hrequests)

/-- What is not published stays as it was. -/
theorem unpublished (h : IntakeDelivers rows rows')
    (hpending : ¬ IntakePublished rows' eventId) :
    intakeEventAt rows' eventId = intakeEventAt rows eventId := by
  rcases h.events eventId with hsame | ⟨row, time, _, _, hpublished⟩
  · exact hsame
  · exact absurd ⟨_, hpublished, rfl⟩ hpending

theorem poisoned (h : IntakeDelivers rows rows')
    (hpoisoned : IntakePoisoned project failing rows) :
    IntakePoisoned project failing rows' := by
  have hsame : ∀ {eventId row}, intakeEventAt rows' eventId = some row →
      row.publishedAt = none → intakeEventAt rows eventId = some row := by
    intro eventId row hrow hunpublished
    rw [← h.unpublished]
    · exact hrow
    · rintro ⟨found, hfound, hdone⟩
      obtain rfl := Option.some.inj (hrow.symm.trans hfound)
      simp [hunpublished] at hdone
  constructor
  · exact h.requests hpoisoned.requests
  · intro eventId row hrow
    rcases h.events eventId with hkept | ⟨before, time, hbefore, _, hpublished⟩
    · exact hpoisoned.keyed (hkept.symm.trans hrow)
    · obtain rfl := Option.some.inj (hpublished.symm.trans hrow)
      have hkeyed := hpoisoned.keyed hbefore
      exact hkeyed
  · exact fun hrow hunpublished => hpoisoned.raises (hsame hrow hunpublished) hunpublished
  · intro eventId row hrow hunpublished hne hnotify
    obtain ⟨hload, hproject⟩ :=
      hpoisoned.succeeds (hsame hrow hunpublished) hunpublished hne hnotify
    exact ⟨h.loadable _ hload, hproject⟩

end IntakeDelivers

section Deliveries

variable {rows : IntakeRows} {row : IntakeOutboxRow} {eventId workerId : String}
  {now : Instant}

/-- A pending event is marked as published. -/
theorem intakeDelivers_published (hrow : intakeEventAt rows eventId = some row)
    (hpending : row.publishedAt = none) (time : Instant) :
    IntakeDelivers rows (⟨IntakeKey.outboxEvent eventId,
      some (PublicIntakeRepository.published time row)⟩ :: rows) := by
  constructor
  · intro other
    by_cases hother : eventId = other
    · subst hother
      exact Or.inr ⟨row, time, hrow, hpending, Rows.get_cons_self _ _ _⟩
    · left
      apply Rows.get_cons_ne
      simpa using hother
  · rintro requestId ⟨request, snapshot, hrequest, hkey, hsnapshot⟩
    refine ⟨request, snapshot, ?_, ?_, ?_⟩
    · rw [Rows.get_cons_ne (by simp)]
      exact hrequest
    · rw [Rows.get_cons_ne (by simp)]
      exact hkey
    · rw [Rows.get_cons_ne (by simp)]
      exact hsnapshot
  · intro hrequests requestId request hrequest
    rw [Rows.get_cons_ne (by simp)] at hrequest ⊢
    exact hrequests requestId request hrequest

/-- A request is marked as projected. -/
theorem intakeDelivers_projected {requestId : String} {request : IntakeRequestRow}
    (hrequest : rows.get (IntakeKey.request requestId) = some request)
    (projectedAt : Option Instant) :
    IntakeDelivers rows (⟨IntakeKey.request requestId,
      some { request with projectedAt := projectedAt }⟩ :: rows) := by
  constructor
  · intro other
    left
    exact Rows.get_cons_ne (by simp) _ _
  · rintro other ⟨found, snapshot, hfound, hkey, hsnapshot⟩
    by_cases hother : requestId = other
    · subst hother
      obtain rfl := Option.some.inj (hrequest.symm.trans hfound)
      refine ⟨{ request with projectedAt := projectedAt }, snapshot, ?_, ?_, ?_⟩
      · exact Rows.get_cons_self _ _ _
      · rw [Rows.get_cons_ne (by simp)]
        exact hkey
      · rw [Rows.get_cons_ne (by simp)]
        exact hsnapshot
    · refine ⟨found, snapshot, ?_, ?_, ?_⟩
      · rw [Rows.get_cons_ne (by simpa using hother)]
        exact hfound
      · rw [Rows.get_cons_ne (by simp)]
        exact hkey
      · rw [Rows.get_cons_ne (by simp)]
        exact hsnapshot
  · intro hrequests other found hfound
    rw [Rows.get_cons_ne (by simp)]
    by_cases hother : requestId = other
    · subst hother
      rw [Rows.get_cons_self] at hfound
      obtain rfl := Option.some.inj hfound
      exact hrequests requestId request hrequest
    · rw [Rows.get_cons_ne (by simpa using hother)] at hfound
      exact hrequests other found hfound

theorem getByRequestId_isOk {requestId : String} (hload : Loadable rows requestId) :
    ∃ record, (PublicIntakeRepository.getByRequestId requestId).atomically
        (fun _ => false) rows = .ok (some record, rows) ∧
      record.requestId = requestId := by
  obtain ⟨request, snapshot, hrequest, hkey, hsnapshot⟩ := hload
  refine ⟨PublicIntakeRepository.toRecord requestId request snapshot.snapshot, ?_, rfl⟩
  simp [PublicIntakeRepository.getByRequestId, PublicIntakeRepository.getByIdempotencyKey,
    PublicIntakeRepository.load, PublicIntakeRepository.snapshotOf, atomically,
    execute_bind, hrequest, hkey, hsnapshot]

/-- A request that is read is the one that was asked for. -/
theorem requestId_of_getByRequestId (hrequests : RequestsKeyed rows) {requestId : String}
    {record : PublicIntakeRecord} {rows' : IntakeRows}
    (h : (PublicIntakeRepository.getByRequestId requestId).atomically (fun _ => false) rows =
      .ok (some record, rows')) : record.requestId = requestId := by
  obtain ⟨own, hrun, _⟩ := atomically_eq_ok.mp h
  cases hrequest : rows.get (IntakeKey.request requestId) with
  | none => simp [PublicIntakeRepository.getByRequestId, execute_bind, hrequest] at hrun
  | some request =>
      have hkey := hrequests requestId request hrequest
      cases hsnapshot : rows.get (IntakeKey.preflightSnapshot request.preflightSnapshotId) with
      | none =>
          simp [PublicIntakeRepository.getByRequestId,
            PublicIntakeRepository.getByIdempotencyKey, PublicIntakeRepository.load,
            PublicIntakeRepository.snapshotOf, execute_bind, hrequest, hkey, hsnapshot] at hrun
      | some snapshot =>
          simp [PublicIntakeRepository.getByRequestId,
            PublicIntakeRepository.getByIdempotencyKey, PublicIntakeRepository.load,
            PublicIntakeRepository.snapshotOf, execute_bind, hrequest, hkey, hsnapshot] at hrun
          rw [← hrun.1]
          rfl

theorem markOutboxPublished_execute {own : IntakeRows}
    (hrow : Rows.get (own ++ rows) (IntakeKey.outboxEvent eventId) = some row)
    (hheld : PublicIntakeRepository.heldBy workerId now row = true) :
    (PublicIntakeRepository.markOutboxPublished eventId workerId now).execute
        (fun _ => false) rows own =
      .ok ((), ⟨IntakeKey.outboxEvent eventId,
        some (PublicIntakeRepository.published now row)⟩ :: own) := by
  simp [PublicIntakeRepository.markOutboxPublished, execute_bind, execute_updateWhere, hrow,
    hheld]

theorem markProjected_execute {requestId : String} {request : IntakeRequestRow}
    (hrequest : rows.get (IntakeKey.request requestId) = some request) (now : Instant) :
    (PublicIntakeRepository.markProjected requestId now).execute (fun _ => false) rows [] =
      .ok ((), [⟨IntakeKey.request requestId,
        some { request with projectedAt := some (request.projectedAt.getD now) }⟩]) := by
  simp [PublicIntakeRepository.markProjected, execute_bind, execute_updateWhere, hrequest]

end Deliveries

namespace PublicIntakeOutboxDispatcher

theorem conclude_eq {transaction : IntakeTx Unit} {rows rows' : IntakeRows}
    (h : transaction.atomically (fun _ => false) rows = .ok ((), rows')) (count : ℕ) :
    conclude transaction count rows = (.ok count, rows') := by
  simp only [conclude, h]

section Works

variable {project : PublicIntakeRecord → Except Failure Unit} {failing : String}
  {dispatcher : PublicIntakeOutboxDispatcher} {call : dispatcher.Call} {rows : IntakeRows}

/-- The events at hand are leased to this dispatcher, each one once. -/
structure Ready (project : PublicIntakeRecord → Except Failure Unit) (failing : String)
    (dispatcher : PublicIntakeOutboxDispatcher) (leaseUntil : Instant)
    (events : List PublicIntakeOutboxEvent) (rows : IntakeRows) : Prop where
  nodup : (events.map PublicIntakeOutboxEvent.eventId).Nodup
  poisoned : IntakePoisoned project failing rows
  leased : ∀ event ∈ events, ∃ row, intakeEventAt rows event.eventId = some row ∧
    row.event = event ∧ row.publishedAt = none ∧
    row.delivery = some ⟨dispatcher.workerId, leaseUntil⟩

/-- The delivery of an event that can be projected, or is not to be. -/
theorem deliver_publishes {event : PublicIntakeOutboxEvent}
    {rest : List PublicIntakeOutboxEvent} (hne : event.eventId ≠ failing)
    (hready : Ready project failing dispatcher
      (call.now + seconds dispatcher.leaseSeconds) (event :: rest) rows) :
    ∃ row count rows', intakeEventAt rows event.eventId = some row ∧
      deliver project dispatcher call event rows = (.ok count, rows') ∧
      IntakeDelivers rows rows' ∧
      ∀ other, intakeEventAt rows' other = if event.eventId = other then
        some (PublicIntakeRepository.published (call.clock event.eventId) row)
          else intakeEventAt rows other := by
  obtain ⟨row, hrow, hevent, hpending, hlease⟩ := hready.leased event List.mem_cons_self
  have hheld : PublicIntakeRepository.heldBy dispatcher.workerId (call.clock event.eventId)
      row = true :=
    PublicIntakeRepository.heldBy_of_leased hpending hlease (call.timely _)
  cases hnotify : event.notifyOperator with
  | false =>
      have hmark := @markOutboxPublished_execute rows row event.eventId dispatcher.workerId
        (call.clock event.eventId) [] hrow hheld
      refine ⟨row, 0, _, hrow, ?_,
        intakeDelivers_published hrow hpending (call.clock event.eventId), ?_⟩
      · rw [deliver, if_neg (by simp [hnotify])]
        apply conclude_eq
        rw [atomically, hmark]
        rfl
      · intro other
        by_cases hother : event.eventId = other
        · subst hother
          rw [if_pos rfl]
          exact Rows.get_cons_self _ _ _
        · rw [if_neg hother]
          exact Rows.get_cons_ne (by simpa using hother) _ _
  | true =>
      have hsucceeds := hready.poisoned.succeeds hrow hpending hne
      rw [hevent] at hsucceeds
      obtain ⟨hload, hproject⟩ := hsucceeds hnotify
      obtain ⟨record, hrecord, hid⟩ := getByRequestId_isOk hload
      obtain ⟨request, _, hrequest, _⟩ := hload
      rw [← hid] at hrequest
      have hprojected := markProjected_execute hrequest (call.projectedAt event.eventId)
      have hmark := @markOutboxPublished_execute rows row event.eventId dispatcher.workerId
        (call.clock event.eventId) [⟨IntakeKey.request record.requestId,
          some { request with projectedAt := some (request.projectedAt.getD
            (call.projectedAt event.eventId)) }⟩]
        (by rw [List.cons_append, Rows.get_cons_ne (by simp)]; exact hrow) hheld
      have hfirst := intakeDelivers_projected hrequest
        (some (request.projectedAt.getD (call.projectedAt event.eventId)))
      have hrow' : intakeEventAt (⟨IntakeKey.request record.requestId,
          some { request with projectedAt := some (request.projectedAt.getD
            (call.projectedAt event.eventId)) }⟩ :: rows) event.eventId = some row := by
        rw [intakeEventAt, Rows.get_cons_ne (by simp)]
        exact hrow
      refine ⟨row, 1, _, hrow, ?_, hfirst.trans
        (intakeDelivers_published hrow' hpending (call.clock event.eventId)), ?_⟩
      · rw [deliver, if_pos hnotify, hrecord]
        simp only [hproject record hid]
        apply conclude_eq
        simp only [mark, atomically, execute_bind, hprojected, hmark]
        rfl
      · intro other
        by_cases hother : event.eventId = other
        · subst hother
          rw [if_pos rfl]
          exact Rows.get_cons_self _ _ _
        · rw [if_neg hother, intakeEventAt, Rows.get_cons_ne (by simpa using hother),
            Rows.get_cons_ne (by simp)]
          rfl

/-- The delivery of the one that cannot be projected. -/
theorem deliver_raises {event : PublicIntakeOutboxEvent}
    {rest : List PublicIntakeOutboxEvent} {leaseUntil : Instant}
    (hfailing : event.eventId = failing)
    (hready : Ready project failing dispatcher leaseUntil (event :: rest) rows) :
    ∃ error, deliver project dispatcher call event rows = (.error error, rows) := by
  obtain ⟨row, hrow, hevent, hpending, _⟩ := hready.leased event List.mem_cons_self
  rw [hfailing] at hrow
  obtain ⟨hnotify, hproject⟩ := hready.poisoned.raises hrow hpending
  rw [hevent] at hnotify hproject
  rw [deliver, if_pos hnotify]
  cases hread : (PublicIntakeRepository.getByRequestId event.requestId).atomically
      (fun _ => false) rows with
  | error error => exact ⟨error, rfl⟩
  | ok outcome =>
      obtain ⟨found, rows'⟩ := outcome
      cases found with
      | none => exact ⟨_, rfl⟩
      | some record =>
          obtain ⟨error, herror⟩ := hproject record
            (requestId_of_getByRequestId hready.poisoned.requests hread)
          simp only [herror]
          exact ⟨error, rfl⟩

theorem works : BatchQueue.Works (deliver project dispatcher call)
    PublicIntakeOutboxEvent.eventId failing IntakePublished
    (Ready project failing dispatcher (call.now + seconds dispatcher.leaseSeconds))
    IntakeDelivers := by
  constructor
  · exact IntakeDelivers.refl
  · exact fun h h' => h.trans h'
  · intro event rest rows hne hready
    obtain ⟨row, count, rows', hrow, hdeliver, hdelivers, hevents⟩ :=
      deliver_publishes hne hready
    rw [hdeliver]
    obtain ⟨hnew, hnodup⟩ := List.nodup_cons.mp hready.nodup
    refine ⟨⟨count, rfl⟩, ⟨hnodup, hdelivers.poisoned hready.poisoned, ?_⟩, hdelivers, ?_⟩
    · intro other hother
      have hdifferent : event.eventId ≠ other.eventId := by
        intro hsame
        exact hnew (List.mem_map.mpr ⟨other, hother, hsame.symm⟩)
      rw [hevents, if_neg hdifferent]
      exact hready.leased other (List.mem_cons_of_mem _ hother)
    · intro other
      rw [IntakePublished, hevents]
      by_cases hother : event.eventId = other
      · rw [if_pos hother]
        exact iff_of_true ⟨_, rfl, rfl⟩ (Or.inr hother.symm)
      · rw [if_neg hother, or_iff_left (Ne.symm hother), IntakePublished]
  · intro event rest rows hfailing hready
    obtain ⟨error, hdeliver⟩ := @deliver_raises project failing dispatcher call rows event rest
      _ hfailing hready
    rw [hdeliver]
    exact ⟨⟨error, rfl⟩, IntakeDelivers.refl rows, fun _ => Iff.rfl⟩

end Works

section Round

variable {project : PublicIntakeRecord → Except Failure Unit} {failing : String}
  {dispatcher : PublicIntakeOutboxDispatcher} {rows : IntakeRows} {now : Instant} {limit : ℕ}

open PublicIntakeRepository (Precedes pendingCount candidates)

theorem mem_pending {rows : IntakeRows} {eventId : String} :
    eventId ∈ ((PublicIntakeRepository.events rows).filter fun entry =>
        entry.2.publishedAt.isNone).map Prod.fst ↔
      ∃ row, intakeEventAt rows eventId = some row ∧ row.publishedAt = none := by
  simp [PublicIntakeRepository.mem_events]

theorem pendingCount_le {rows rows' : IntakeRows}
    (hpending : ∀ eventId row', intakeEventAt rows' eventId = some row' →
      row'.publishedAt = none →
      ∃ row, intakeEventAt rows eventId = some row ∧ row.publishedAt = none) :
    pendingCount rows' ≤ pendingCount rows := by
  have hnodup : (((PublicIntakeRepository.events rows').filter fun entry =>
      entry.2.publishedAt.isNone).map Prod.fst).Nodup :=
    (List.filter_sublist.map Prod.fst).nodup (PublicIntakeRepository.nodup_events rows')
  have hsubset : (((PublicIntakeRepository.events rows').filter fun entry =>
      entry.2.publishedAt.isNone).map Prod.fst) ⊆
        ((PublicIntakeRepository.events rows).filter fun entry =>
          entry.2.publishedAt.isNone).map Prod.fst := by
    intro eventId hmem
    obtain ⟨row', hrow', hunpublished⟩ := mem_pending.mp hmem
    exact mem_pending.mpr (hpending eventId row' hrow' hunpublished)
  have hlength := (List.subperm_of_subset hnodup hsubset).length_le
  rw [List.length_map, List.length_map] at hlength
  exact hlength

/-- What a claim does to the rows: each event that is due gets leased, and
everything else stays. -/
structure Claimed (dispatcher : PublicIntakeOutboxDispatcher) (now : Instant)
    (rows claimed : IntakeRows) : Prop where
  due : ∀ {eventId}, IntakeDue rows eventId now → intakeEventAt claimed eventId =
    (intakeEventAt rows eventId).map (PublicIntakeRepository.claimed dispatcher.workerId
      (now + seconds dispatcher.leaseSeconds))
  left : ∀ {eventId}, ¬ IntakeDue rows eventId now →
    intakeEventAt claimed eventId = intakeEventAt rows eventId
  other : ∀ key, (∀ eventId, IntakeKey.outboxEvent eventId ≠ key) →
    claimed.get key = rows.get key

namespace Claimed

variable {claimed : IntakeRows}

/-- An event is after the claim what it was before, but for its lease. -/
theorem before (h : Claimed dispatcher now rows claimed) {eventId : String}
    {row : IntakeOutboxRow} (hrow : intakeEventAt claimed eventId = some row) :
    ∃ before, intakeEventAt rows eventId = some before ∧ row.event = before.event ∧
      row.publishedAt = before.publishedAt := by
  by_cases hdue : IntakeDue rows eventId now
  · rw [h.due hdue] at hrow
    obtain ⟨before, hbefore, rfl⟩ := Option.map_eq_some_iff.mp hrow
    exact ⟨before, hbefore, rfl, rfl⟩
  · rw [h.left hdue] at hrow
    exact ⟨row, hrow, rfl, rfl⟩

theorem events (h : Claimed dispatcher now rows claimed) (eventId : String) :
    (intakeEventAt claimed eventId).map IntakeOutboxRow.event =
      (intakeEventAt rows eventId).map IntakeOutboxRow.event := by
  by_cases hdue : IntakeDue rows eventId now
  · rw [h.due hdue, Option.map_map]
    rfl
  · rw [h.left hdue]

theorem poisoned (h : Claimed dispatcher now rows claimed)
    (hpoisoned : IntakePoisoned project failing rows) :
    IntakePoisoned project failing claimed := by
  constructor
  · intro requestId request hrequest
    rw [h.other _ (by simp)] at hrequest ⊢
    exact hpoisoned.requests requestId request hrequest
  · intro eventId row hrow
    obtain ⟨before, hbefore, hevent, _⟩ := h.before hrow
    rw [hevent]
    exact hpoisoned.keyed hbefore
  · intro row hrow hunpublished
    obtain ⟨before, hbefore, hevent, hsame⟩ := h.before hrow
    rw [hevent]
    exact hpoisoned.raises hbefore (hsame ▸ hunpublished)
  · intro eventId row hrow hunpublished hne hnotify
    obtain ⟨before, hbefore, hevent, hsame⟩ := h.before hrow
    rw [hevent] at hnotify ⊢
    obtain ⟨⟨request, snapshot, hrequest, hkey, hsnapshot⟩, hproject⟩ :=
      hpoisoned.succeeds hbefore (hsame ▸ hunpublished) hne hnotify
    refine ⟨⟨request, snapshot, ?_, ?_, ?_⟩, hproject⟩
    · rw [h.other _ (by simp)]
      exact hrequest
    · rw [h.other _ (by simp)]
      exact hkey
    · rw [h.other _ (by simp)]
      exact hsnapshot

end Claimed

/-- The claim takes what is due, in order, and leases it to the dispatcher. -/
theorem claim_spec (hpoisoned : IntakePoisoned project failing rows) (hlimit : 1 ≤ limit)
    (hample : pendingCount rows ≤ limit) :
    ∃ events claimed, (PublicIntakeRepository.claimPending dispatcher.workerId
        dispatcher.leaseSeconds now limit).atomically (fun _ => false) rows =
          .ok (events, claimed) ∧
      events.map PublicIntakeOutboxEvent.eventId =
        candidates now limit (fun _ => false) rows ∧
      Ready project failing dispatcher (now + seconds dispatcher.leaseSeconds) events
        claimed ∧
      Claimed dispatcher now rows claimed := by
  obtain ⟨claimed, hclaim, hrows, hother⟩ :=
    @PublicIntakeRepository.claimPending_taken rows dispatcher.workerId now limit
      dispatcher.leaseSeconds dispatcher.valid.1 dispatcher.valid.2 hlimit
  have hmem : ∀ {eventId}, eventId ∈ candidates now limit (fun _ => false) rows ↔
      IntakeDue rows eventId now := PublicIntakeRepository.mem_candidates hample
  have hclaimed : Claimed dispatcher now rows claimed := by
    constructor
    · intro eventId hdue
      rw [hrows, if_pos (hmem.mpr hdue)]
    · intro eventId hnot
      rw [hrows, if_neg fun h => hnot (hmem.mp h)]
    · exact hother
  have hnames : ((candidates now limit (fun _ => false) rows).filterMap fun eventId =>
      (intakeEventAt rows eventId).map IntakeOutboxRow.event).map
        PublicIntakeOutboxEvent.eventId = candidates now limit (fun _ => false) rows := by
    rw [List.map_filterMap]
    have hname : ∀ eventId ∈ candidates now limit (fun _ => false) rows,
        ((intakeEventAt rows eventId).map IntakeOutboxRow.event).map
          PublicIntakeOutboxEvent.eventId = some eventId := by
      intro eventId hcandidate
      obtain ⟨row, hrow, _⟩ := hmem.mp hcandidate
      rw [hrow, Option.map_some, Option.map_some]
      exact congrArg some (hpoisoned.keyed hrow)
    rw [List.filterMap_congr hname, List.filterMap_some]
  refine ⟨_, claimed, hclaim, hnames, ⟨?_, hclaimed.poisoned hpoisoned, ?_⟩, hclaimed⟩
  · rw [hnames]
    exact PublicIntakeRepository.candidates_nodup now limit _ rows
  · intro event hevent
    obtain ⟨eventId, hcandidate, hfound⟩ := List.mem_filterMap.mp hevent
    obtain ⟨row, hrow, rfl⟩ := Option.map_eq_some_iff.mp hfound
    obtain ⟨found, hfoundRow, hclaimable⟩ := hmem.mp hcandidate
    obtain rfl := Option.some.inj (hrow.symm.trans hfoundRow)
    have hkeyed : row.event.eventId = eventId := hpoisoned.keyed hrow
    refine ⟨PublicIntakeRepository.claimed dispatcher.workerId
      (now + seconds dispatcher.leaseSeconds) row, ?_, rfl,
      (PublicIntakeRepository.claimable_eq_true.mp hclaimable).1, rfl⟩
    rw [hkeyed, hclaimed.due (hmem.mp hcandidate), hrow]
    rfl

def intakeTable : BatchQueue.Table IntakeRows String IntakeOutboxRow Instant where
  row := intakeEventAt
  done row := row.publishedAt.isSome
  free := PublicIntakeRepository.claimable

theorem Precedes.of_events {rows rows' : IntakeRows} {first second : String}
    (hevents : ∀ eventId, (intakeEventAt rows' eventId).map IntakeOutboxRow.event =
      (intakeEventAt rows eventId).map IntakeOutboxRow.event)
    (h : Precedes rows first second) : Precedes rows' first second := by
  obtain ⟨row, row', hrow, hrow', hordered⟩ := h
  have hkept : ∀ {eventId row}, intakeEventAt rows eventId = some row →
      ∃ after, intakeEventAt rows' eventId = some after ∧ after.event = row.event := by
    intro eventId row hrow
    have hevent := hevents eventId
    rw [hrow, Option.map_some, Option.map_eq_some_iff] at hevent
    exact hevent
  obtain ⟨after, hafter, hevent⟩ := hkept hrow
  obtain ⟨after', hafter', hevent'⟩ := hkept hrow'
  refine ⟨after, after', hafter, hafter', ?_⟩
  simp only [PublicIntakeRepository.ordered, hevent, hevent']
  exact hordered

/-- What a call leaves for the calls after it. -/
structure Called (project : PublicIntakeRecord → Except Failure Unit) (failing : String)
    (rows rows' : IntakeRows) : Prop where
  poisoned : IntakePoisoned project failing rows'
  events : ∀ eventId, (intakeEventAt rows' eventId).map IntakeOutboxRow.event =
    (intakeEventAt rows eventId).map IntakeOutboxRow.event
  pending : pendingCount rows' ≤ pendingCount rows

/-- One call, as a round over the queue. -/
theorem dispatchPending_round (hpoisoned : IntakePoisoned project failing rows)
    (call : dispatcher.Call) (hlimit : 1 ≤ call.limit)
    (hample : pendingCount rows ≤ call.limit) :
    Called project failing rows (dispatchPending project dispatcher call rows).2 ∧
      BatchQueue.Round (Precedes rows) failing
        (fun time => call.now + seconds dispatcher.leaseSeconds ≤ time) call.now
        (intakeTable.view rows)
        (intakeTable.view (dispatchPending project dispatcher call rows).2) := by
  obtain ⟨events, claimed, hclaim, hnames, hready, hclaimed⟩ :=
    @claim_spec project failing dispatcher rows call.now call.limit hpoisoned hlimit hample
  obtain ⟨hdelivers, hfinished⟩ :=
    (@works project failing dispatcher call).each hready
  have hdispatch : dispatchPending project dispatcher call rows =
      BatchQueue.each (deliver project dispatcher call) events claimed := by
    simp only [dispatchPending, hclaim]
  rw [hdispatch]
  generalize (BatchQueue.each (deliver project dispatcher call) events claimed).2 = rows'
    at hdelivers hfinished ⊢
  rw [hnames] at hfinished
  constructor
  · constructor
    · exact hdelivers.poisoned hready.poisoned
    · intro eventId
      rw [← hclaimed.events eventId]
      rcases hdelivers.events eventId with hsame | ⟨row, time, hrow, _, hdone⟩
      · rw [hsame]
      · rw [hrow, hdone]
        rfl
    · apply pendingCount_le
      intro eventId row hrow hunpublished
      have hnot : ¬ IntakePublished rows' eventId := by
        rintro ⟨found, hfound, hdone⟩
        obtain rfl := Option.some.inj (hrow.symm.trans hfound)
        simp [hunpublished] at hdone
      rw [hdelivers.unpublished hnot] at hrow
      obtain ⟨before, hbefore, _, hsame⟩ := hclaimed.before hrow
      exact ⟨before, hbefore, hsame ▸ hunpublished⟩
  · have hlease : call.now ≤ call.now + seconds dispatcher.leaseSeconds :=
      (Int.lt_add_of_pos_right _ (Int.mul_pos dispatcher.valid.2 (by decide))).le
    apply intakeTable.round
    · intro row hfree
      change row.publishedAt.isSome = false
      rw [(PublicIntakeRepository.claimable_eq_true.mp hfree).1]
      rfl
    · intro row time hlater hfree
      obtain ⟨hunpublished, hlapsed⟩ := PublicIntakeRepository.claimable_eq_true.mp hfree
      exact PublicIntakeRepository.claimable_eq_true.mpr ⟨hunpublished,
        fun lease hmem => (hlapsed lease hmem).trans (hlease.trans hlater)⟩
    · intro eventId row hrow hfree
      obtain ⟨hunpublished, _⟩ := PublicIntakeRepository.claimable_eq_true.mp hfree
      refine ⟨_, (hclaimed.due ⟨row, hrow, hfree⟩).trans
        (congrArg (Option.map _) hrow), ?_, ?_⟩
      · change row.publishedAt.isSome = false
        rw [hunpublished]
        rfl
      · intro time hlater
        refine PublicIntakeRepository.claimable_eq_true.mpr ⟨hunpublished, ?_⟩
        rintro lease hmem
        obtain rfl := Option.some.inj hmem
        exact hlater
    · exact hclaimed.left
    · exact PublicIntakeRepository.candidates_sorted call.now call.limit (fun _ => false)
        rows
    · exact fun h h' => h.antisymm h'
    · exact fun _ => PublicIntakeRepository.mem_candidates hample
    · exact hfinished
    · exact fun hnot => hdelivers.unpublished hnot

end Round

section Calls

variable {project : PublicIntakeRecord → Except Failure Unit} {failing : String}
  {dispatcher : PublicIntakeOutboxDispatcher} {calls : ℕ → dispatcher.Call}
  {rows : IntakeRows}

open PublicIntakeRepository (Precedes pendingCount)

/-- An event is on record and not published. -/
def Pending (rows : IntakeRows) (eventId : String) : Prop :=
  ∃ row, intakeEventAt rows eventId = some row ∧ row.publishedAt = none

/-- Calls that are spaced by more than the lease and take all that is pending. -/
structure Spaced (dispatcher : PublicIntakeOutboxDispatcher) (calls : ℕ → dispatcher.Call)
    (rows : IntakeRows) : Prop where
  later : ∀ n, (calls n).now + seconds dispatcher.leaseSeconds < (calls (n + 1)).now
  ample : ∀ n, pendingCount rows ≤ (calls n).limit

theorem Pending.not_published {eventId : String} (h : Pending rows eventId) :
    ¬ IntakePublished rows eventId := by
  obtain ⟨row, hrow, hunpublished⟩ := h
  rintro ⟨found, hfound, hdone⟩
  obtain rfl := Option.some.inj (hrow.symm.trans hfound)
  simp [hunpublished] at hdone

theorem pendingCount_pos {eventId : String} (hpending : Pending rows eventId) :
    1 ≤ pendingCount rows := by
  have hmem := mem_pending.mpr hpending
  have hpos := List.length_pos_of_mem hmem
  rw [List.length_map] at hpos
  exact hpos

theorem called_rowsAfter (hpoisoned : IntakePoisoned project failing rows)
    (hpending : Pending rows failing) (hspaced : Spaced dispatcher calls rows) (n : ℕ) :
    Called project failing rows (rowsAfter project dispatcher calls rows n) := by
  induction n with
  | zero => exact ⟨hpoisoned, fun _ => rfl, le_refl _⟩
  | succ n ih =>
      have hlimit := (pendingCount_pos hpending).trans (hspaced.ample n)
      have hnext := (dispatchPending_round ih.poisoned (calls n) hlimit
        (ih.pending.trans (hspaced.ample n))).1
      exact ⟨hnext.poisoned, fun eventId => (hnext.events eventId).trans (ih.events eventId),
        hnext.pending.trans ih.pending⟩

theorem rounds (hpoisoned : IntakePoisoned project failing rows)
    (hpending : Pending rows failing) (hspaced : Spaced dispatcher calls rows) :
    BatchQueue.Rounds (Precedes rows) failing
      (fun time time' => time + seconds dispatcher.leaseSeconds ≤ time')
      (fun n => (calls n).now)
      fun n => intakeTable.view (rowsAfter project dispatcher calls rows n) := by
  constructor
  · intro n
    have hcalled := called_rowsAfter hpoisoned hpending hspaced n
    have hlimit := (pendingCount_pos hpending).trans (hspaced.ample n)
    have hround := (dispatchPending_round hcalled.poisoned (calls n) hlimit
      (hcalled.pending.trans (hspaced.ample n))).2
    have hprecedes : ∀ {eventId}, Precedes (rowsAfter project dispatcher calls rows n)
        eventId failing ↔ Precedes rows eventId failing := by
      intro eventId
      constructor
      · exact Precedes.of_events fun other => (hcalled.events other).symm
      · exact Precedes.of_events hcalled.events
    constructor
    · intro eventId hne
      rw [← hprecedes]
      exact hround.finished eventId hne
    · exact hround.failing
    · exact hround.due
  · exact fun hlt => BatchQueue.le_of_spaced (Int.mul_pos dispatcher.valid.2 (by decide)).le
      hspaced.later hlt
  · exact hpending.not_published

/-- The other pending events all get published exactly when each of them comes
before the failing one, or is due at a call at which the failing one is not. -/
theorem all_published_iff (hpoisoned : IntakePoisoned project failing rows)
    (hpending : Pending rows failing) (hspaced : Spaced dispatcher calls rows) :
    (∃ n, ∀ eventId, Pending rows eventId → eventId ≠ failing →
      IntakePublished (rowsAfter project dispatcher calls rows n) eventId) ↔
      ∀ eventId, Pending rows eventId → eventId ≠ failing →
        Precedes rows eventId failing ∨ ∃ n, IntakeDue rows eventId (calls n).now ∧
          ¬ IntakeDue rows failing (calls n).now := by
  have hlist := (rounds hpoisoned hpending hspaced).all_finished_iff
    (((PublicIntakeRepository.events rows).filter fun entry =>
      entry.2.publishedAt.isNone).map Prod.fst) ?_ ?_
  · simp only [mem_pending] at hlist
    exact hlist
  · intro eventId hmem
    exact Pending.not_published (mem_pending.mp hmem)
  · intro eventId hmem
    obtain ⟨row, hrow, hunpublished⟩ := mem_pending.mp hmem
    obtain ⟨n, hn⟩ := BatchQueue.reaches_of_spaced
      (Int.mul_pos dispatcher.valid.2 (by decide)) hspaced.later
      ((row.delivery.map DeliveryLease.leaseUntil).getD (calls 0).now)
    refine ⟨n, row, hrow, PublicIntakeRepository.claimable_eq_true.mpr ⟨hunpublished, ?_⟩⟩
    intro lease hlease
    rw [Option.mem_def.mp hlease] at hn
    exact hn

end Calls

end PublicIntakeOutboxDispatcher

end ShemaPlatform
