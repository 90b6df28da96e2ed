/-
How the transactions of the public intake develop its requests, reservations and
outbox, and what each of them does at its commit.
-/
import ShemaPlatform.IntakeFrames

namespace ShemaPlatform

open Calendar ReadCommitted ReadCommitted.Prog

/-- How often the advisory lock has been taken. -/
def capacityHolders (rows : IntakeRows) : ℕ :=
  (rows.get IntakeKey.outboxCapacity).getD 0

namespace PublicIntakeRepository

/-- The ids of the events that are not published. -/
def pendingIds (rows : IntakeRows) : List String :=
  ((events rows).filter fun entry => entry.2.publishedAt.isNone).map Prod.fst

theorem length_pendingIds (rows : IntakeRows) :
    (pendingIds rows).length = pendingCount rows :=
  List.length_map _

theorem nodup_pendingIds (rows : IntakeRows) : (pendingIds rows).Nodup :=
  (List.filter_sublist.map Prod.fst).nodup (nodup_events rows)

theorem mem_pendingIds {rows : IntakeRows} {eventId : String} : eventId ∈ pendingIds rows ↔
    ∃ row, intakeEventAt rows eventId = some row ∧ row.publishedAt = none := by
  simp only [pendingIds, List.mem_map, List.mem_filter, Option.isNone_iff_eq_none]
  constructor
  · rintro ⟨⟨_, row⟩, ⟨hevent, hpending⟩, rfl⟩
    exact ⟨row, mem_events.mp hevent, hpending⟩
  · rintro ⟨row, hrow, hpending⟩
    exact ⟨(eventId, row), ⟨mem_events.mpr hrow, hpending⟩, rfl⟩

end PublicIntakeRepository

/-- How the intake develops: a key keeps its request, a request changes in its
projection only, a completed reservation stays and so do events, and nothing is
appended while nobody else takes the lock. -/
structure IntakeKeeps (rows rows' : IntakeRows) : Prop where
  requestKey : ∀ key requestId, rows.get (IntakeKey.requestKey key) = some requestId →
    rows'.get (IntakeKey.requestKey key) = some requestId
  request : ∀ requestId (row : IntakeRequestRow),
    rows.get (IntakeKey.request requestId) = some row →
      ∃ projectedAt, rows'.get (IntakeKey.request requestId) = some { row with projectedAt }
  completed : ∀ key (row : IntakeReservationRow),
    rows.get (IntakeKey.reservation key) = some row → row.completedAt ≠ none →
      rows'.get (IntakeKey.reservation key) = some row
  event : ∀ eventId row, intakeEventAt rows eventId = some row →
    ∃ row', intakeEventAt rows' eventId = some row' ∧ row'.event = row.event
  holders : capacityHolders rows ≤ capacityHolders rows'
  pending : capacityHolders rows = capacityHolders rows' → ∀ eventId row',
    intakeEventAt rows' eventId = some row' → row'.publishedAt = none →
      ∃ row, intakeEventAt rows eventId = some row ∧ row.publishedAt = none

namespace IntakeKeeps

variable {rows rows' rows'' : IntakeRows}

theorem refl (rows : IntakeRows) : IntakeKeeps rows rows :=
  ⟨fun _ _ h => h, fun _ row h => ⟨row.projectedAt, h⟩, fun _ _ h _ => h,
    fun _ row h => ⟨row, h, rfl⟩, le_rfl, fun _ _ row h hpending => ⟨row, h, hpending⟩⟩

theorem trans (h : IntakeKeeps rows rows') (h' : IntakeKeeps rows' rows'') :
    IntakeKeeps rows rows'' := by
  constructor
  · exact fun key requestId hkey => h'.requestKey key requestId (h.requestKey key requestId hkey)
  · intro requestId row hrow
    obtain ⟨projectedAt, hmiddle⟩ := h.request requestId row hrow
    obtain ⟨projectedAt', hlast⟩ := h'.request requestId _ hmiddle
    exact ⟨projectedAt', hlast⟩
  · exact fun key row hrow hdone => h'.completed key row (h.completed key row hrow hdone) hdone
  · intro eventId row hrow
    obtain ⟨middle, hmiddle, hsame⟩ := h.event eventId row hrow
    obtain ⟨last, hlast, hsame'⟩ := h'.event eventId middle hmiddle
    exact ⟨last, hlast, hsame'.trans hsame⟩
  · exact h.holders.trans h'.holders
  · intro hholders eventId row' hrow' hpending
    have hfirst := h.holders
    have hsecond := h'.holders
    obtain ⟨middle, hmiddle, hopen⟩ := h'.pending (by omega) eventId row' hrow' hpending
    exact h.pending (by omega) eventId middle hmiddle hopen

/-- Without new events there are no more of them pending. -/
theorem pendingCount_le (h : IntakeKeeps rows rows')
    (hholders : capacityHolders rows = capacityHolders rows') :
    PublicIntakeRepository.pendingCount rows' ≤ PublicIntakeRepository.pendingCount rows := by
  rw [← PublicIntakeRepository.length_pendingIds, ← PublicIntakeRepository.length_pendingIds]
  apply (List.Nodup.subperm (PublicIntakeRepository.nodup_pendingIds rows') _).length_le
  intro eventId hmem
  obtain ⟨row', hrow', hopen⟩ := PublicIntakeRepository.mem_pendingIds.mp hmem
  exact PublicIntakeRepository.mem_pendingIds.mpr (h.pending hholders eventId row' hrow' hopen)

end IntakeKeeps

def intakeEvolution : Evolution (IntakeKey → Bool) IntakeRow where
  rel world world' := IntakeKeeps world.rows world'.rows
  refl world := .refl world.rows
  trans hab hbc := hab.trans hbc

section Statements

variable {own : IntakeRows} {world : World (IntakeKey → Bool) IntakeRow} {ρ : Type}

namespace PublicIntakeRepository

/-- A request that is read under a key is and stays the one under it. -/
theorem atCommit_getByIdempotencyKey {key : String}
    {post : Option PublicIntakeRecord → IntakeRows →
      World (IntakeKey → Bool) IntakeRow → Prop}
    (hown : IntakeKey.requestKey key ∉ own.keys) (hnone : post none own world)
    (hsome : ∀ record : PublicIntakeRecord,
      world.rows.get (IntakeKey.requestKey key) = some record.requestId →
        post (some record) own world) :
    (getByIdempotencyKey key).atCommit intakeEvolution post own world := by
  rw [getByIdempotencyKey, atCommit_bind, atCommit_select]
  intro earlier hearlier
  rw [Rows.get_append_of_not_mem hown]
  cases hkey : earlier.rows.get (IntakeKey.requestKey key) with
  | none => exact hnone
  | some requestId =>
      have hnow := hearlier.evolved.requestKey key requestId hkey
      simp only [load, atCommit_bind, atCommit_select]
      intro later _
      cases Rows.get (own ++ later.rows) (IntakeKey.request requestId) with
      | none => exact hnone
      | some row =>
          simp only [snapshotOf, atCommit_bind, atCommit_select, atCommit_pure]
          intro latest _
          cases Rows.get (own ++ latest.rows)
              (IntakeKey.preflightSnapshot row.preflightSnapshotId) with
          | none => trivial
          | some snapshot => exact hsome _ hnow

/-- What is written elsewhere does not change the listing of the outbox. -/
theorem events_append (hown : own.Only fun key => key.table ≠ .outbox) (rows : IntakeRows) :
    events (own ++ rows) = events rows := by
  induction own with
  | nil => rfl
  | cons entry own ih =>
      obtain ⟨key, row⟩ := entry
      obtain ⟨hkey, hown⟩ := Rows.only_cons.mp hown
      rw [List.cons_append, events, Rows.filterMap_live_cons]
      · exact ih hown
      · intro row
        cases key with
        | outboxEvent eventId => exact absurd rfl hkey
        | _ => rfl

/-- The backlog that was counted under the lock has not grown since. -/
theorem atCommit_ensureOutboxCapacity_lt {maxPending : ℕ}
    {post : Unit → IntakeRows → World (IntakeKey → Bool) IntakeRow → Prop}
    (hown : own.Only fun key => key.table ≠ .outbox ∧ key.table ≠ .capacity)
    (h : pendingCount world.rows < maxPending →
      post () (⟨IntakeKey.outboxCapacity, some (capacityHolders world.rows + 1)⟩ :: own)
        world) :
    (ensureOutboxCapacity maxPending).atCommit intakeEvolution post own world := by
  have hlock : Rows.get (own ++ world.rows) IntakeKey.outboxCapacity =
      world.rows.get IntakeKey.outboxCapacity :=
    hown.get_append (fun hkey => hkey.2 rfl) _
  have hevents : ∀ rows : IntakeRows, events (⟨IntakeKey.outboxCapacity,
      some (capacityHolders world.rows + 1)⟩ :: own ++ rows) = events rows := by
    intro rows
    apply events_append
    rw [Rows.only_cons]
    exact ⟨(fun htable => nomatch htable), hown.mono fun _ hkey => hkey.1⟩
  simp only [ensureOutboxCapacity, atCommit_bind, atCommit_require]
  intro _
  rw [atCommit_store, hlock, atCommit_scan]
  intro earlier hearlier hfree
  have hsame : capacityHolders earlier.rows = capacityHolders world.rows := by
    rw [capacityHolders, capacityHolders,
      hearlier.locked IntakeKey.outboxCapacity List.mem_cons_self]
  change decide (((events (⟨IntakeKey.outboxCapacity, some (capacityHolders world.rows + 1)⟩ ::
    own ++ earlier.rows)).filter fun entry => entry.2.publishedAt.isNone).length <
      maxPending) = true at hfree
  rw [hevents, decide_eq_true_eq] at hfree
  exact h (lt_of_le_of_lt (hearlier.evolved.pendingCount_le hsame) hfree)

theorem atCommit_reserveIdempotency {key requestHash requestId : String} {now : Instant}
    {leaseSeconds : ℤ}
    {post : PublicIdempotencyReservation → IntakeRows →
      World (IntakeKey → Bool) IntakeRow → Prop}
    (hreserved : (∀ row : IntakeReservationRow,
        world.rows.get (IntakeKey.reservation key) = some row →
          row.completedAt = none ∧ row.leasedUntil ≤ now) →
      post ⟨requestId, "PENDING"⟩ [⟨IntakeKey.reservation key,
        some ⟨requestHash, requestId, now + seconds leaseSeconds, none⟩⟩] world)
    (hother : ∀ requestId state, state = "COMPLETE" ∨ state = "IN_PROGRESS" →
      post ⟨requestId, state⟩ [] world) :
    (reserveIdempotency key requestHash requestId now leaseSeconds).atCommit intakeEvolution
      post [] world := by
  simp only [reserveIdempotency, atCommit_bind, atCommit_require]
  intro _ _
  apply atCommit_upsertWhere
  · intro earlier existing _ _ _
    simp only [atCommit_bind, atCommit_select]
    intro later _
    cases Rows.get ([] ++ later.rows) (IntakeKey.reservation key) with
    | none => trivial
    | some found =>
        simp only [atCommit_bind, atCommit_require]
        intro _
        split
        · exact hother found.requestId _ (Or.inl rfl)
        · split
          · exact hother found.requestId _ (Or.inr rfl)
          · trivial
  · intro hnone
    apply hreserved
    intro row hrow
    rw [List.nil_append, hrow] at hnone
    cases hnone
  · intro existing row' hexisting hchange
    split at hchange
    · rename_i hfree
      obtain rfl := Option.some.inj hchange
      apply hreserved
      intro row hrow
      obtain rfl := Option.some.inj (hexisting.symm.trans hrow)
      exact hfree
    · cases hchange

theorem atCommit_completeIdempotency {key requestId : String} {now : Instant}
    {post : Unit → IntakeRows → World (IntakeKey → Bool) IntakeRow → Prop}
    (hown : IntakeKey.reservation key ∉ own.keys)
    (hcompleted : ∀ row : IntakeReservationRow,
      world.rows.get (IntakeKey.reservation key) = some row → row.requestId = requestId →
        row.completedAt = none →
          post () (⟨IntakeKey.reservation key, some { row with completedAt := some now }⟩ ::
            own) world)
    (hkept : ∀ row : IntakeReservationRow,
      world.rows.get (IntakeKey.reservation key) = some row → row.requestId = requestId →
        row.completedAt ≠ none → post () own world) :
    (completeIdempotency key requestId now).atCommit intakeEvolution post own world := by
  rw [completeIdempotency, atCommit_bind, atCommit_updateWhere]
  constructor
  · intro earlier _ _
    simp only [atCommit_bind, atCommit_select]
    intro later hlater
    rw [Rows.get_append_of_not_mem hown]
    cases hrow : later.rows.get (IntakeKey.reservation key) with
    | none => trivial
    | some row =>
        simp only [atCommit_bind, atCommit_require, beq_iff_eq]
        intro hmine hdone
        have hcompletedAt : row.completedAt ≠ none := Option.isSome_iff_ne_none.mp hdone
        exact hkept row (hlater.evolved.completed key row hrow hcompletedAt) hmine hcompletedAt
  · intro row row' hrow hchange
    rw [Rows.get_append_of_not_mem hown] at hrow
    split at hchange
    · rename_i hopen
      obtain rfl := Option.some.inj hchange
      exact hcompleted row hrow hopen.1 hopen.2
    · cases hchange

def requestRow (record : PublicIntakeRecord) : IntakeRequestRow :=
  ⟨record.correlationId, record.idempotencyKey, record.requestHash, record.status,
    record.payload, record.preflight.snapshotId, record.createdAt, none⟩

theorem atCommit_add {record : PublicIntakeRecord}
    {post : Unit → IntakeRows → World (IntakeKey → Bool) IntakeRow → Prop}
    (hown : own.Only fun key => key.table ≠ .requests)
    (hnew : world.rows.get (IntakeKey.requestKey record.idempotencyKey) = none →
      world.rows.get (IntakeKey.request record.requestId) = none →
        post () (⟨IntakeKey.request record.requestId, some (requestRow record)⟩ ::
          ⟨IntakeKey.requestKey record.idempotencyKey, some record.requestId⟩ :: own) world)
    (hold : ∀ requestId,
      world.rows.get (IntakeKey.requestKey record.idempotencyKey) = some requestId →
        post () own world) :
    (add record).atCommit intakeEvolution post own world := by
  have hread : ∀ {own : IntakeRows} {rest : Option PublicIntakeRecord → IntakeTx Unit},
      (rest none).atCommit intakeEvolution post own world →
      (∀ existing, (rest (some existing)).atCommit intakeEvolution post own world) →
      (getByIdempotencyKey record.idempotencyKey >>= rest).atCommit intakeEvolution post own
        world := by
    intro own rest hnone hsome
    rw [atCommit_bind]
    apply (writes_getByIdempotencyKey _).atCommit_reads
    rintro (_ | existing)
    · exact hnone
    · exact hsome existing
  rw [add, atCommit_bind, atCommit_insertNew]
  constructor
  · intro earlier existing hearlier hexisting
    rw [hown.get_append (fun hkey => hkey rfl)] at hexisting
    apply hread
    · trivial
    · exact fun _ => atCommit_require.mpr fun _ =>
        hold existing (hearlier.evolved.requestKey _ _ hexisting)
  · intro hnone
    rw [hown.get_append (fun hkey => hkey rfl)] at hnone
    rw [if_pos rfl, atCommit_bind, atCommit_insert]
    intro hfree
    rw [List.cons_append, Rows.get_cons_ne (by simp),
      hown.get_append (fun hkey => hkey rfl)] at hfree
    apply hread
    · trivial
    · exact fun _ => atCommit_require.mpr fun _ => hnew hnone hfree

theorem atCommit_appendOutbox {event : PublicIntakeOutboxEvent}
    {post : Unit → IntakeRows → World (IntakeKey → Bool) IntakeRow → Prop}
    (hnew : intakeEventAt (own ++ world.rows) event.eventId = none →
      post () (⟨IntakeKey.outboxEvent event.eventId, some ⟨event, none, 0, none⟩⟩ :: own)
        world)
    (hold : post () own world) :
    (appendOutbox event).atCommit intakeEvolution post own world := by
  rw [appendOutbox, atCommit_bind, atCommit_insertNew]
  exact ⟨fun _ _ _ _ => hold, hnew⟩

theorem atCommit_savePreflightSnapshot {snapshot : CounterpartyPreflightSnapshot}
    {post : Unit → IntakeRows → World (IntakeKey → Bool) IntakeRow → Prop}
    (hnew : Rows.get (own ++ world.rows) (IntakeKey.preflightSnapshot snapshot.snapshotId) =
        none →
      post () (⟨IntakeKey.preflightSnapshot snapshot.snapshotId, some ⟨none, snapshot⟩⟩ ::
        own) world)
    (hold : post () own world) :
    (savePreflightSnapshot snapshot).atCommit intakeEvolution post own world := by
  rw [savePreflightSnapshot, atCommit_bind, atCommit_insertNew]
  exact ⟨fun _ _ _ _ => hold, hnew⟩

end PublicIntakeRepository

end Statements

/-- Nothing but projections and deliveries happens to requests, reservations and
events. -/
structure IntakeSame (rows rows' : IntakeRows) : Prop where
  requestKey : ∀ key, rows'.get (IntakeKey.requestKey key) =
    rows.get (IntakeKey.requestKey key)
  request : ∀ requestId (row : IntakeRequestRow),
    rows.get (IntakeKey.request requestId) = some row →
      ∃ projectedAt, rows'.get (IntakeKey.request requestId) = some { row with projectedAt }
  noRequest : ∀ requestId, rows.get (IntakeKey.request requestId) = none →
    rows'.get (IntakeKey.request requestId) = none
  reservation : ∀ key, rows'.get (IntakeKey.reservation key) =
    rows.get (IntakeKey.reservation key)
  event : ∀ eventId row, intakeEventAt rows eventId = some row →
    ∃ row', intakeEventAt rows' eventId = some row' ∧ row'.event = row.event ∧
      (row'.publishedAt = none → row.publishedAt = none)
  noEvent : ∀ eventId, intakeEventAt rows eventId = none → intakeEventAt rows' eventId = none
  holders : capacityHolders rows ≤ capacityHolders rows'

namespace IntakeSame

variable {rows rows' rows'' own : IntakeRows}

theorem refl (rows : IntakeRows) : IntakeSame rows rows :=
  ⟨fun _ => rfl, fun _ row h => ⟨row.projectedAt, h⟩, fun _ h => h, fun _ => rfl,
    fun _ row h => ⟨row, h, rfl, id⟩, fun _ h => h, le_rfl⟩

theorem trans (h : IntakeSame rows rows') (h' : IntakeSame rows' rows'') :
    IntakeSame rows rows'' := by
  constructor
  · exact fun key => (h'.requestKey key).trans (h.requestKey key)
  · intro requestId row hrow
    obtain ⟨projectedAt, hmiddle⟩ := h.request requestId row hrow
    obtain ⟨projectedAt', hlast⟩ := h'.request requestId _ hmiddle
    exact ⟨projectedAt', hlast⟩
  · exact fun requestId hnone => h'.noRequest requestId (h.noRequest requestId hnone)
  · exact fun key => (h'.reservation key).trans (h.reservation key)
  · intro eventId row hrow
    obtain ⟨middle, hmiddle, hsame, hopen⟩ := h.event eventId row hrow
    obtain ⟨last, hlast, hsame', hopen'⟩ := h'.event eventId middle hmiddle
    exact ⟨last, hlast, hsame'.trans hsame, fun hpending => hopen (hopen' hpending)⟩
  · exact fun eventId hnone => h'.noEvent eventId (h.noEvent eventId hnone)
  · exact h.holders.trans h'.holders

/-- An event that was found afterwards was there before. -/
theorem event_before (h : IntakeSame rows rows') {eventId : String} {row' : IntakeOutboxRow}
    (hrow' : intakeEventAt rows' eventId = some row') :
    ∃ row, intakeEventAt rows eventId = some row ∧ row'.event = row.event ∧
      (row'.publishedAt = none → row.publishedAt = none) := by
  cases hrow : intakeEventAt rows eventId with
  | none =>
      rw [h.noEvent eventId hrow] at hrow'
      cases hrow'
  | some row =>
      obtain ⟨found, hfound, hsame, hopen⟩ := h.event eventId row hrow
      obtain rfl := Option.some.inj (hrow'.symm.trans hfound)
      exact ⟨row, rfl, hsame, hopen⟩

theorem keeps (h : IntakeSame rows rows') : IntakeKeeps rows rows' := by
  constructor
  · exact fun key requestId hkey => (h.requestKey key).trans hkey
  · exact h.request
  · exact fun key row hrow _ => (h.reservation key).trans hrow
  · intro eventId row hrow
    obtain ⟨row', hrow', hsame, _⟩ := h.event eventId row hrow
    exact ⟨row', hrow', hsame⟩
  · exact h.holders
  · intro _ eventId row' hrow' hpending
    obtain ⟨row, hrow, _, hopen⟩ := h.event_before hrow'
    exact ⟨row, hrow, hopen hpending⟩

/-- What is written elsewhere leaves them alone. -/
theorem of_only (hown : own.Only fun key =>
      key.table ∈ [IntakeTable.circuit, .rateLimits, .snapshots, .capacity])
    (hholders : capacityHolders rows ≤ capacityHolders (own ++ rows)) :
    IntakeSame rows (own ++ rows) := by
  have hsame : ∀ key, key.table ∉ [IntakeTable.circuit, .rateLimits, .snapshots, .capacity] →
      Rows.get (own ++ rows) key = rows.get key := fun key hkey => hown.get_append hkey rows
  constructor
  · exact fun key => hsame _ (by simp [IntakeKey.table])
  · intro requestId row hrow
    exact ⟨row.projectedAt, (hsame _ (by simp [IntakeKey.table])).trans hrow⟩
  · exact fun requestId hnone => (hsame _ (by simp [IntakeKey.table])).trans hnone
  · exact fun key => hsame _ (by simp [IntakeKey.table])
  · intro eventId row hrow
    exact ⟨row, (hsame _ (by simp [IntakeKey.table])).trans hrow, rfl, id⟩
  · exact fun eventId hnone => (hsame _ (by simp [IntakeKey.table])).trans hnone
  · exact hholders

/-- A request is projected. -/
theorem of_projected {requestId : String} {row : IntakeRequestRow}
    (hrow : rows.get (IntakeKey.request requestId) = some row) (projectedAt : Option Instant) :
    IntakeSame rows (⟨IntakeKey.request requestId, some { row with projectedAt }⟩ :: rows) := by
  constructor
  · exact fun key => Rows.get_cons_ne (by simp) _ _
  · intro other found hfound
    by_cases hother : requestId = other
    · subst hother
      obtain rfl := Option.some.inj (hrow.symm.trans hfound)
      exact ⟨projectedAt, Rows.get_cons_self _ _ _⟩
    · refine ⟨found.projectedAt, ?_⟩
      rw [Rows.get_cons_ne (by simpa using hother)]
      exact hfound
  · intro other hnone
    by_cases hother : requestId = other
    · subst hother
      rw [hrow] at hnone
      cases hnone
    · rw [Rows.get_cons_ne (by simpa using hother)]
      exact hnone
  · exact fun key => Rows.get_cons_ne (by simp) _ _
  · exact fun eventId row hrow => ⟨row, (Rows.get_cons_ne (by simp) _ _).trans hrow, rfl, id⟩
  · exact fun eventId hnone => (Rows.get_cons_ne (by simp) _ _).trans hnone
  · rw [capacityHolders, capacityHolders, Rows.get_cons_ne (by simp)]

/-- A row of the outbox is rewritten, its event staying what it is. -/
theorem of_event {eventId : String} {row row' : IntakeOutboxRow}
    (hrow : intakeEventAt rows eventId = some row) (hevent : row'.event = row.event)
    (hpending : row'.publishedAt = none → row.publishedAt = none) :
    IntakeSame rows (⟨IntakeKey.outboxEvent eventId, some row'⟩ :: rows) := by
  constructor
  · exact fun key => Rows.get_cons_ne (by simp) _ _
  · intro requestId found hfound
    exact ⟨found.projectedAt, (Rows.get_cons_ne (by simp) _ _).trans hfound⟩
  · exact fun requestId hnone => (Rows.get_cons_ne (by simp) _ _).trans hnone
  · exact fun key => Rows.get_cons_ne (by simp) _ _
  · intro other found hfound
    by_cases hother : eventId = other
    · subst hother
      obtain rfl := Option.some.inj (hrow.symm.trans hfound)
      exact ⟨row', Rows.get_cons_self _ _ _, hevent, hpending⟩
    · exact ⟨found, (Rows.get_cons_ne (by simpa using hother) _ _).trans hfound, rfl, id⟩
  · intro other hnone
    by_cases hother : eventId = other
    · subst hother
      rw [hrow] at hnone
      cases hnone
    · exact (Rows.get_cons_ne (by simpa using hother) _ _).trans hnone
  · rw [capacityHolders, capacityHolders, Rows.get_cons_ne (by simp)]

end IntakeSame

section Deliveries

variable {own : IntakeRows} {world : World (IntakeKey → Bool) IntakeRow}

namespace PublicIntakeRepository

theorem atCommit_markProjected {requestId : String} {now : Instant}
    {post : Unit → IntakeRows → World (IntakeKey → Bool) IntakeRow → Prop}
    (h : ∀ written, IntakeSame (own ++ world.rows) (written ++ (own ++ world.rows)) →
      post () (written ++ own) world) :
    (markProjected requestId now).atCommit intakeEvolution post own world := by
  rw [markProjected, atCommit_bind, atCommit_updateWhere]
  constructor
  · intro _ _ _
    trivial
  · intro row row' hrow hchange
    obtain rfl := Option.some.inj hchange
    exact h [_] (IntakeSame.of_projected hrow (some (row.projectedAt.getD now)))

theorem atCommit_markOutboxPublished {eventId workerId : String} {now : Instant}
    {post : Unit → IntakeRows → World (IntakeKey → Bool) IntakeRow → Prop}
    (h : ∀ written, IntakeSame (own ++ world.rows) (written ++ (own ++ world.rows)) →
      post () (written ++ own) world) :
    (markOutboxPublished eventId workerId now).atCommit intakeEvolution post own world := by
  rw [markOutboxPublished, atCommit_bind, atCommit_updateWhere]
  constructor
  · intro _ _ _
    trivial
  · intro row row' hrow hchange
    split at hchange
    · obtain rfl := Option.some.inj hchange
      exact h [_] (IntakeSame.of_event hrow rfl fun hpending => nomatch hpending)
    · cases hchange

theorem atCommit_claimPending {workerId : String} {leaseSeconds : ℤ} {now : Instant}
    {limit : ℕ} {post : List PublicIntakeOutboxEvent → IntakeRows →
      World (IntakeKey → Bool) IntakeRow → Prop}
    (h : ∀ events written, IntakeSame world.rows (written ++ world.rows) →
      post events written world) :
    (claimPending workerId leaseSeconds now limit).atCommit intakeEvolution post [] world := by
  have heach : ∀ eventIds leaseUntil {own : IntakeRows} {post : List PublicIntakeOutboxEvent →
      IntakeRows → World (IntakeKey → Bool) IntakeRow → Prop},
      (∀ events written, IntakeSame (own ++ world.rows) (written ++ (own ++ world.rows)) →
        post events (written ++ own) world) →
      (claimEach workerId leaseUntil eventIds).atCommit intakeEvolution post own world := by
    intro eventIds leaseUntil
    induction eventIds with
    | nil =>
        intro own post hpost
        exact hpost [] [] (.refl _)
    | cons eventId rest ih =>
        intro own post hpost
        rw [claimEach, atCommit_bind, atCommit_updateWhere]
        constructor
        · intro _ _ _
          rw [atCommit_bind]
          apply ih
          intro events written hsame
          exact hpost events written hsame
        · intro row row' hrow hchange
          obtain rfl := Option.some.inj hchange
          rw [atCommit_bind]
          apply ih
          intro events written hsame
          have hclaimed : IntakeSame (own ++ world.rows) (⟨IntakeKey.outboxEvent eventId,
              some (claimed workerId leaseUntil row)⟩ :: (own ++ world.rows)) :=
            IntakeSame.of_event hrow rfl id
          have hboth := hpost (row.event :: events) (written ++ [⟨IntakeKey.outboxEvent eventId,
            some (claimed workerId leaseUntil row)⟩])
          rw [List.append_assoc, List.append_assoc] at hboth
          exact hboth (hclaimed.trans hsame)
  simp only [claimPending, atCommit_bind, atCommit_require]
  intro _ _ _ earlier _
  apply heach
  intro events written hsame
  rw [List.append_nil]
  exact h events written hsame

end PublicIntakeRepository

end Deliveries

end ShemaPlatform
