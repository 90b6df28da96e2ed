/-
What the outbox calls write.  A claim is a series of grants on different
events, a publication releases one, and no call loses or alters an event.
-/
import ShemaPlatform.Lease
import ShemaPlatform.WorkRules

namespace ShemaPlatform

open Calendar ReadCommitted ReadCommitted.Prog

/-- Events stay as they were appended, published ones for good. -/
structure Grown (rows rows' : WorkRows) : Prop where
  kept : ∀ {eventId : String} {row : OutboxRow}, eventAt rows eventId = some row →
    ∃ row', eventAt rows' eventId = some row' ∧ row'.event = row.event ∧
      (row.publishedAt.isSome → row' = row)

theorem Grown.refl (rows : WorkRows) : Grown rows rows where
  kept := fun {_ row} hrow => ⟨row, hrow, rfl, fun _ => rfl⟩

theorem Grown.trans {rows rows' rows'' : WorkRows} (h : Grown rows rows')
    (h' : Grown rows' rows'') : Grown rows rows'' := by
  constructor
  intro eventId row hrow
  obtain ⟨row', hrow', hevent', hfinal'⟩ := h.kept hrow
  obtain ⟨row'', hrow'', hevent'', hfinal''⟩ := h'.kept hrow'
  refine ⟨row'', hrow'', hevent''.trans hevent', fun hpublished => ?_⟩
  obtain rfl := hfinal' hpublished
  exact hfinal'' hpublished

/-- The delivery lease of an event; a published event has none. -/
def OutboxRow.slot (row : OutboxRow) : Lease.Slot String Instant where
  turn := row.deliveryAttempt
  held :=
    if row.publishedAt.isNone then
      row.delivery.map fun lease => (lease.workerId, lease.leaseUntil)
    else none

/-- The delivery lease of an event by name. -/
def deliveryAt (rows : WorkRows) (eventId : String) : Lease.Slot String Instant :=
  match eventAt rows eventId with
  | some row => row.slot
  | none => ⟨0, none⟩

theorem deliveryAt_eq {rows : WorkRows} {eventId : String} {row : OutboxRow}
    (hrow : eventAt rows eventId = some row) : deliveryAt rows eventId = row.slot := by
  simp [deliveryAt, hrow]

namespace OutboxRepository

variable {row : OutboxRow} {workerId : String} {now leaseUntil : Instant}

theorem claimable_eq_true : claimable now row = true ↔ row.publishedAt = none ∧
    row.event.occurredAt ≤ now ∧
      ∀ lease ∈ row.delivery, lease.leaseUntil ≤ now := by
  cases hdelivery : row.delivery <;> simp [claimable, hdelivery, and_assoc]

theorem heldBy_eq_true : heldBy workerId now row = true ↔
    row.publishedAt = none ∧ ∃ leaseUntil,
      row.delivery = some ⟨workerId, leaseUntil⟩ ∧ now < leaseUntil := by
  cases hdelivery : row.delivery with
  | none => simp [heldBy, hdelivery]
  | some lease =>
      simp only [heldBy, hdelivery, Bool.and_eq_true, Option.isNone_iff_eq_none,
        beq_iff_eq, decide_eq_true_eq, Option.some.injEq]
      constructor
      · rintro ⟨hpublished, rfl, hlive⟩
        exact ⟨hpublished, lease.leaseUntil, rfl, hlive⟩
      · rintro ⟨hpublished, _, rfl, hlive⟩
        exact ⟨hpublished, rfl, hlive⟩

theorem step_claimed (hclaimable : claimable now row = true) :
    Lease.Step row.slot (.grant workerId (row.deliveryAttempt + 1) now leaseUntil)
      (claimed workerId leaseUntil row).slot := by
  obtain ⟨hpublished, _, hlapsed⟩ := claimable_eq_true.mp hclaimable
  have hslot : (claimed workerId leaseUntil row).slot =
      ⟨row.deliveryAttempt + 1, some (workerId, leaseUntil)⟩ := by
    simp [OutboxRow.slot, claimed, hpublished]
  rw [hslot]
  apply Lease.Step.grant
  · intro holder hholder
    simp only [OutboxRow.slot, hpublished, Option.isNone_none, ↓reduceIte,
      Option.mem_def, Option.map_eq_some_iff] at hholder
    obtain ⟨lease, hlease, rfl⟩ := hholder
    exact hlapsed lease hlease
  · exact Nat.lt_succ_self _

theorem step_published (hheld : heldBy workerId now row = true) :
    Lease.Step row.slot (.release workerId row.deliveryAttempt now)
      (published now row).slot := by
  obtain ⟨hpublished, leaseUntil, hdelivery, hlive⟩ := heldBy_eq_true.mp hheld
  have hslot : row.slot = ⟨row.deliveryAttempt, some (workerId, leaseUntil)⟩ := by
    simp [OutboxRow.slot, hpublished, hdelivery]
  have hslot' : (published now row).slot = ⟨row.deliveryAttempt, none⟩ := by
    simp [OutboxRow.slot, published]
  rw [hslot, hslot']
  exact Lease.Step.release hlive

/-- Claims of different events, one after another. -/
inductive Claims (workerId : String) (now leaseUntil : Instant) :
    WorkRows → List OutboxDelivery → WorkRows → Prop where
  | done (rows : WorkRows) : Claims workerId now leaseUntil rows [] rows
  | next {rows rows' : WorkRows} {eventId : String} {row : OutboxRow}
      {rest : List OutboxDelivery} (hrow : eventAt rows eventId = some row)
      (hclaimable : claimable now row = true)
      (hrest : Claims workerId now leaseUntil
        (⟨WorkKey.outboxEvent eventId, some (claimed workerId leaseUntil row)⟩ ::
          rows) rest rows') :
      Claims workerId now leaseUntil rows
        (⟨row.event, row.deliveryAttempt + 1, workerId, leaseUntil⟩ :: rest) rows'

variable {locked : LockedRows} {rows rows' own own' : WorkRows}

theorem mem_all {eventId : String} {row : OutboxRow} :
    (eventId, row) ∈ all rows ↔ eventAt rows eventId = some row := by
  rw [eventAt, ← Rows.mem_live, all, List.mem_filterMap]
  constructor
  · rintro ⟨⟨key, found⟩, hmem, heq⟩
    cases key with
    | outboxEvent other =>
        simp only [Option.some.injEq, Prod.mk.injEq] at heq
        obtain ⟨rfl, rfl⟩ := heq
        exact hmem
    | jobExecution _ => simp at heq
    | jobIdempotencyKey _ => simp at heq
    | auditLog _ => simp at heq
  · intro hmem
    exact ⟨_, hmem, rfl⟩

/-- No event is listed twice. -/
theorem nodup_all (rows : WorkRows) : ((all rows).map Prod.fst).Nodup := by
  have hkeys : (all rows).map Prod.fst =
      (rows.live.map Sigma.fst).filterMap WorkKey.eventId? := by
    unfold all
    induction rows.live with
    | nil => rfl
    | cons entry rest ih =>
        obtain ⟨key, row⟩ := entry
        cases key <;> simp_all [WorkKey.eventId?, List.filterMap_cons]
  rw [hkeys]
  apply (Rows.nodup_live_keys rows).filterMap
  intro key key' eventId hkey hkey'
  cases key <;> cases key' <;> simp_all [WorkKey.eventId?]

theorem candidates_nodup (now : Instant) (limit : ℕ) (locked : LockedRows)
    (rows : WorkRows) : (candidates now limit locked rows).Nodup := by
  simp only [candidates]
  apply List.Nodup.sublist ((List.take_sublist _ _).map Prod.fst)
  rw [((List.perm_insertionSort ordered _).map Prod.fst).nodup_iff]
  exact (List.filter_sublist.map Prod.fst).nodup (nodup_all rows)

theorem candidates_claimable {limit : ℕ} {eventId : String}
    (h : eventId ∈ candidates now limit locked rows) :
    ∃ row, eventAt rows eventId = some row ∧ claimable now row = true := by
  simp only [candidates, List.mem_map] at h
  obtain ⟨⟨_, row⟩, hmem, rfl⟩ := h
  have hsorted := List.mem_of_mem_take hmem
  rw [List.mem_insertionSort, List.mem_filter, mem_all] at hsorted
  simp only [Bool.and_eq_true] at hsorted
  exact ⟨row, hsorted.1, hsorted.2.1⟩

/-- The updates of a claim take the events one by one. -/
theorem claimEach_eq_ok {eventIds : List String} {deliveries : List OutboxDelivery}
    (h : (claimEach workerId leaseUntil eventIds).execute locked rows own =
      .ok (deliveries, own'))
    (hnodup : eventIds.Nodup)
    (hclaimable : ∀ eventId ∈ eventIds, ∃ row,
      eventAt (own ++ rows) eventId = some row ∧ claimable now row = true) :
    Claims workerId now leaseUntil (own ++ rows) deliveries (own' ++ rows) := by
  induction eventIds generalizing own deliveries with
  | nil =>
      simp only [claimEach, execute_pure_eq_ok] at h
      obtain ⟨rfl, rfl⟩ := h
      exact .done _
  | cons eventId rest ih =>
      obtain ⟨hnew, hnodup⟩ := List.nodup_cons.mp hnodup
      obtain ⟨row, hrow, hdue⟩ := hclaimable eventId List.mem_cons_self
      simp only [claimEach, execute_bind_eq_ok, execute_updateWhere,
        execute_pure_eq_ok] at h
      obtain ⟨updated, between, hupdate, later, _, hrest, rfl, rfl⟩ := h
      simp only [eventAt] at hrow
      simp only [hrow, Option.bind_some, Except.ok.injEq, Prod.mk.injEq] at hupdate
      obtain ⟨rfl, rfl⟩ := hupdate
      apply Claims.next hrow hdue
      apply ih hrest hnodup
      intro other hother
      obtain ⟨found, hfound, hlater⟩ :=
        hclaimable other (List.mem_cons_of_mem _ hother)
      refine ⟨found, ?_, hlater⟩
      have hdifferent : eventId ≠ other := by
        rintro rfl
        exact hnew hother
      rw [List.cons_append, eventAt_event, if_neg hdifferent]
      exact hfound

theorem claimPending_eq_ok {leaseSeconds : ℤ} {limit : ℕ}
    {deliveries : List OutboxDelivery}
    (h : (claimPending workerId leaseSeconds now limit).atomically locked rows =
      .ok (deliveries, rows')) :
    Claims workerId now (now + seconds leaseSeconds) rows deliveries rows' := by
  rw [atomically_eq_ok] at h
  obtain ⟨own, h, rfl⟩ := h
  simp only [claimPending, execute_bind_eq_ok, execute_lift_eq_ok] at h
  obtain ⟨_, _, ⟨_, rfl⟩, _, _, ⟨_, rfl⟩, _, _, ⟨_, rfl⟩, _, _, hquery, h⟩ := h
  obtain ⟨rfl, rfl⟩ := Prod.mk.inj (Except.ok.inj hquery)
  apply claimEach_eq_ok h (candidates_nodup now limit locked _)
  intro eventId hmem
  exact candidates_claimable hmem

theorem markPublished_eq_ok {eventId : String}
    (h : (markPublished eventId workerId now).execute locked rows own =
      .ok (row, own')) :
    ∃ before, eventAt (own ++ rows) eventId = some before ∧
      heldBy workerId now before = true ∧ row = published now before ∧
      own' = ⟨WorkKey.outboxEvent eventId, some row⟩ :: own := by
  simp only [markPublished, execute_bind_eq_ok, execute_lift_eq_ok,
    execute_updateWhere] at h
  obtain ⟨_, _, ⟨_, rfl⟩, updated, _, hupdate, h⟩ := h
  cases hrow : Rows.get (own ++ rows) (WorkKey.outboxEvent eventId) with
  | none =>
      simp only [hrow, Option.bind_none, Except.ok.injEq, Prod.mk.injEq] at hupdate
      obtain ⟨rfl, rfl⟩ := hupdate
      simp [execute] at h
  | some before =>
      by_cases hheld : heldBy workerId now before = true
      · simp only [hrow, Option.bind_some, hheld, ↓reduceIte, Except.ok.injEq,
          Prod.mk.injEq] at hupdate
        obtain ⟨rfl, rfl⟩ := hupdate
        simp only [execute_pure_eq_ok] at h
        obtain ⟨rfl, rfl⟩ := h
        exact ⟨before, hrow, hheld, rfl, rfl⟩
      · simp only [hrow, Option.bind_some, hheld, Bool.false_eq_true, ↓reduceIte,
          Except.ok.injEq, Prod.mk.injEq] at hupdate
        obtain ⟨rfl, rfl⟩ := hupdate
        simp [execute] at h

/-- A row that replaces one of the same event, unless it was published. -/
theorem grown_update {eventId : String} {row row' : OutboxRow}
    (hrow : eventAt rows eventId = some row) (hevent : row'.event = row.event)
    (hunpublished : row.publishedAt = none) :
    Grown rows (⟨WorkKey.outboxEvent eventId, some row'⟩ :: rows) := by
  constructor
  intro other found hfound
  rw [eventAt_event]
  by_cases hsame : eventId = other
  · subst hsame
    obtain rfl := Option.some.inj (hrow.symm.trans hfound)
    refine ⟨row', if_pos rfl, hevent, fun hpublished => ?_⟩
    simp [hunpublished] at hpublished
  · exact ⟨found, (if_neg hsame).trans hfound, rfl, fun _ => rfl⟩

theorem Claims.grown {deliveries : List OutboxDelivery}
    (hclaims : Claims workerId now leaseUntil rows deliveries rows') :
    Grown rows rows' := by
  induction hclaims with
  | done rows => exact Grown.refl rows
  | @next _ _ _ row _ hrow hclaimable _ ih =>
      have hevent : (claimed workerId leaseUntil row).event = row.event := rfl
      have hunpublished := (claimable_eq_true.mp hclaimable).1
      exact (grown_update hrow hevent hunpublished).trans ih

/-- An appended event is on record and changes no other. -/
theorem append_grown {event : OutboxEvent}
    (h : (append event).atomically locked rows = .ok (row, rows')) :
    Grown rows rows' ∧ eventAt rows' event.eventId = some row ∧
      row.event = event ∧ (rows' = rows ∨ eventAt rows event.eventId = none ∧
        rows' = ⟨WorkKey.outboxEvent event.eventId,
          some ⟨event, none, 0, none⟩⟩ :: rows) := by
  rw [atomically_eq_ok] at h
  obtain ⟨own, h, rfl⟩ := h
  obtain ⟨hevent, ⟨hnew, rfl, rfl⟩ | ⟨hold, rfl⟩⟩ := append_eq_ok h
  · refine ⟨?_, (eventAt_event _ _ _).trans (if_pos rfl), hevent,
      Or.inr ⟨hnew, rfl⟩⟩
    constructor
    intro other found hfound
    have hdifferent : event.eventId ≠ other := by
      rintro rfl
      exact absurd (hfound.symm.trans hnew) (by simp)
    exact ⟨found, ((eventAt_event _ _ _).trans (if_neg hdifferent)).trans hfound,
      rfl, fun _ => rfl⟩
  · exact ⟨Grown.refl rows, hold, hevent, Or.inl rfl⟩

section Outcomes

theorem append_atomically (event : OutboxEvent) (locked : LockedRows)
    (rows : WorkRows) : (append event).atomically locked rows =
      match eventAt rows event.eventId with
      | none => .ok (⟨event, none, 0, none⟩,
          ⟨WorkKey.outboxEvent event.eventId, some ⟨event, none, 0, none⟩⟩ :: rows)
      | some existing =>
          if existing.event = event then .ok (existing, rows)
          else .error (.integrityViolation
            "outbox event_id collision with different event") := by
  cases hrow : eventAt rows event.eventId with
  | none =>
      have hget : Rows.get rows (WorkKey.outboxEvent event.eventId) = none :=
        hrow
      simp [atomically, append, execute_bind, execute_insertNew, hget]
  | some existing =>
      have hget : Rows.get rows (WorkKey.outboxEvent event.eventId) =
        some existing := hrow
      by_cases hsame : existing.event = event
      · simp [atomically, append, execute_bind, execute_insertNew, hget, get, hsame,
          require]
      · simp [atomically, append, execute_bind, execute_insertNew, hget, get, hsame,
          require]

theorem markPublished_atomically (eventId : String) {workerId : String}
    (hworker : PyText.blank workerId = false) (now : Instant) (locked : LockedRows)
    (rows : WorkRows) : (markPublished eventId workerId now).atomically locked rows =
      match (eventAt rows eventId).filter (heldBy workerId now) with
      | none => .error (.integrityViolation
          "outbox publication rejected: missing or expired delivery lease")
      | some row => .ok (published now row,
          ⟨WorkKey.outboxEvent eventId, some (published now row)⟩ :: rows) := by
  cases hrow : eventAt rows eventId with
  | none =>
      have hget : Rows.get rows (WorkKey.outboxEvent eventId) = none := hrow
      simp [atomically, markPublished, execute_bind, execute_updateWhere, hget,
        hworker, require, execute]
  | some row =>
      have hget : Rows.get rows (WorkKey.outboxEvent eventId) = some row :=
        hrow
      by_cases hheld : heldBy workerId now row = true
      · simp [atomically, markPublished, execute_bind, execute_updateWhere, hget,
          hworker, hheld, require, Option.filter]
      · simp [atomically, markPublished, execute_bind, execute_updateWhere, hget,
          hworker, hheld, require, execute, Option.filter]

/-- The delivery of a claimed row. -/
def delivered (workerId : String) (leaseUntil : Instant) (row : OutboxRow) :
    OutboxDelivery :=
  ⟨row.event, row.deliveryAttempt + 1, workerId, leaseUntil⟩

theorem claimEach_execute {eventIds : List String} (hnodup : eventIds.Nodup) :
    ∃ own', (claimEach workerId leaseUntil eventIds).execute locked rows own =
        .ok (eventIds.filterMap fun eventId =>
          (eventAt (own ++ rows) eventId).map (delivered workerId leaseUntil), own') ∧
      (∀ eventId, eventAt (own' ++ rows) eventId =
        if eventId ∈ eventIds then
          (eventAt (own ++ rows) eventId).map (claimed workerId leaseUntil)
        else eventAt (own ++ rows) eventId) ∧
      ∀ key, (∀ eventId, WorkKey.outboxEvent eventId ≠ key) →
        Rows.get (own' ++ rows) key = Rows.get (own ++ rows) key :=
  execute_updateEach WorkKey.outboxEvent (fun _ row => claimed workerId leaseUntil row)
    (fun _ row => OutboxDelivery.mk row.event row.deliveryAttempt workerId leaseUntil)
    (claimEach workerId leaseUntil) (fun _ _ => WorkKey.outboxEvent.inj) rfl
    (fun _ _ => rfl) hnodup

/-- With nothing locked a claim takes the candidates in order. -/
theorem claimPending_taken {leaseSeconds : ℤ} {limit : ℕ}
    (hworker : PyText.blank workerId = false) (hlease : 0 < leaseSeconds)
    (hlimit : 1 ≤ limit) :
    ∃ rows', (claimPending workerId leaseSeconds now limit).atomically
        (fun _ => false) rows =
          .ok ((candidates now limit (fun _ => false) rows).filterMap fun eventId =>
            (eventAt rows eventId).map (delivered workerId (now + seconds leaseSeconds)),
            rows') ∧
      (∀ eventId, eventAt rows' eventId =
        if eventId ∈ candidates now limit (fun _ => false) rows then
          (eventAt rows eventId).map (claimed workerId (now + seconds leaseSeconds))
        else eventAt rows eventId) ∧
      ∀ key, (∀ eventId, WorkKey.outboxEvent eventId ≠ key) →
        rows'.get key = rows.get key := by
  obtain ⟨own', hexecute, hrows, hother⟩ := @claimEach_execute workerId
    (now + seconds leaseSeconds) (fun _ => false) rows [] _
    (candidates_nodup now limit (fun _ => false) rows)
  refine ⟨own' ++ rows, ?_, hrows, hother⟩
  rw [atomically_eq_ok]
  exact ⟨own', by simpa [claimPending, execute_bind, require, hworker, hlease,
    hlimit, execute] using hexecute, rfl⟩

theorem mem_candidates {limit : ℕ} {eventId : String}
    (hample : ((all rows).filter fun entry => claimable now entry.2).length ≤ limit) :
    eventId ∈ candidates now limit (fun _ => false) rows ↔
      ∃ row, eventAt rows eventId = some row ∧ claimable now row = true := by
  simp only [candidates, Bool.not_false, Bool.and_true]
  rw [List.take_of_length_le (by rw [List.length_insertionSort]; exact hample)]
  simp [List.mem_insertionSort, mem_all]

/-- With nothing locked and an ample limit a claim takes all that is due. -/
theorem claimPending_atomically {leaseSeconds : ℤ} {limit : ℕ}
    (hworker : PyText.blank workerId = false) (hlease : 0 < leaseSeconds)
    (hlimit : 1 ≤ limit)
    (hample : ((all rows).filter fun entry => claimable now entry.2).length ≤ limit) :
    ∃ deliveries rows', (claimPending workerId leaseSeconds now limit).atomically
        (fun _ => false) rows = .ok (deliveries, rows') ∧
      (∀ delivery, delivery ∈ deliveries ↔ ∃ eventId row,
        eventAt rows eventId = some row ∧ claimable now row = true ∧
          delivery = delivered workerId (now + seconds leaseSeconds) row) ∧
      ∀ eventId, eventAt rows' eventId = (eventAt rows eventId).map fun row =>
        if claimable now row then claimed workerId (now + seconds leaseSeconds) row
        else row := by
  obtain ⟨rows', hclaim, hrows, _⟩ :=
    @claimPending_taken workerId now rows leaseSeconds limit hworker hlease hlimit
  refine ⟨_, rows', hclaim, ?_, ?_⟩
  · intro delivery
    simp only [List.mem_filterMap, Option.map_eq_some_iff]
    constructor
    · rintro ⟨eventId, hcandidate, row, hrow, rfl⟩
      obtain ⟨found, hfound, hclaimable⟩ := (mem_candidates hample).mp hcandidate
      obtain rfl := Option.some.inj (hfound.symm.trans hrow)
      exact ⟨eventId, found, hrow, hclaimable, rfl⟩
    · rintro ⟨eventId, row, hrow, hclaimable, rfl⟩
      exact ⟨eventId, (mem_candidates hample).mpr ⟨row, hrow, hclaimable⟩, row, hrow, rfl⟩
  · intro eventId
    rw [hrows]
    cases hrow : eventAt rows eventId with
    | none => simp
    | some row =>
        by_cases hclaimable : claimable now row = true
        · simp [(mem_candidates hample).mpr ⟨row, hrow, hclaimable⟩, hclaimable]
        · have hnot : eventId ∉ candidates now limit (fun _ => false) rows := by
            intro hcandidate
            obtain ⟨found, hfound, hfoundClaimable⟩ := (mem_candidates hample).mp hcandidate
            obtain rfl := Option.some.inj (hfound.symm.trans hrow)
            exact hclaimable hfoundClaimable
          rw [if_neg hnot]
          simp [hclaimable]

end Outcomes

end OutboxRepository

end ShemaPlatform
