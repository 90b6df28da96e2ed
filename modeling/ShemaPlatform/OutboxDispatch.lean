/-
Any number of dispatchers over one outbox, each with a worker id of its own.
A dispatcher claims a batch, publishes its events one after another and marks
each; publishers fail, dispatchers crash anywhere, and anybody appends.
-/
import ShemaPlatform.OutboxRules

namespace ShemaPlatform

open Calendar ReadCommitted ReadCommitted.Prog
open Lease (believed)

namespace OutboxDispatch

/-- The transaction after a publication. -/
def mark (uuid5 : String → String) (workerId : String) (delivery : OutboxDelivery)
    (now : Instant) : WorkTx OutboxRow := do
  let row ← OutboxRepository.markPublished delivery.event.eventId workerId now
  AuditRepository.append
    { auditId := uuid5 s!"audit:outbox.published:{delivery.event.eventId}"
      actorId := workerId
      action := "outbox.published"
      resourceType := "outbox_event"
      resourceId := delivery.event.eventId
      outcome := "success"
      occurredAt := now
      metadata := [("event_type", .text delivery.event.eventType),
        ("aggregate_type", .text delivery.event.aggregateType),
        ("aggregate_id", .text delivery.event.aggregateId),
        ("delivery_attempt", .number delivery.attempt)]
      correlationId := none }
  return row

/-- `_audit_delivery_failure` -/
def auditFailure (uuid5 : String → String) (workerId : String)
    (delivery : OutboxDelivery) (error : String) (now : Instant) : WorkTx Unit :=
  AuditRepository.append
    { auditId := uuid5
        s!"audit:outbox.failed:{delivery.event.eventId}:{delivery.attempt}"
      actorId := workerId
      action := "outbox.publish_failed"
      resourceType := "outbox_event"
      resourceId := delivery.event.eventId
      outcome := "failure"
      occurredAt := now
      metadata := [("event_type", .text delivery.event.eventType),
        ("aggregate_type", .text delivery.event.aggregateType),
        ("aggregate_id", .text delivery.event.aggregateId),
        ("delivery_attempt", .number delivery.attempt), ("error", .text error)]
      correlationId := none }

/-- Where a dispatcher is: between two batches, about to publish the first of
some deliveries, or about to mark one it has published. -/
inductive Phase where
  | idle
  | publishing (deliveries : List OutboxDelivery)
  | marking (delivery : OutboxDelivery) (rest : List OutboxDelivery)

/-- The deliveries a dispatcher has in hand. -/
def Phase.deliveries : Phase → List OutboxDelivery
  | .idle => []
  | .publishing deliveries => deliveries
  | .marking delivery rest => delivery :: rest

/-- The accepted claims and marks by event, newest first. -/
abbrev Log := List (String × Lease.Act String Instant)

def Log.acts (log : Log) (eventId : String) : List (Lease.Act String Instant) :=
  log.filterMap fun entry => if entry.1 = eventId then some entry.2 else none

/-- The log after a claim. -/
def Log.grants (now : Instant) (deliveries : List OutboxDelivery) (log : Log) : Log :=
  deliveries.foldl (fun log delivery =>
    (delivery.event.eventId,
      .grant delivery.workerId delivery.attempt now delivery.leaseUntil) :: log) log

/-- The database, the last clock reading, the dispatchers by worker id, the
events some publish call returned normally for, and the log. -/
structure World where
  rows : WorkRows
  clock : Instant
  phase : String → Phase
  published : List OutboxEvent
  log : Log

inductive Action where
  | append (event : OutboxEvent)
  | dispatch (workerId : String) (leaseSeconds : ℤ) (limit : ℕ)
      (locked : LockedRows)
  | publish (workerId : String)
  | publishFails (workerId error : String)
  | mark (workerId : String)
  | crash (workerId : String)

namespace World

def setPhase (world : World) (workerId : String) (phase : Phase) : World :=
  { world with phase := Function.update world.phase workerId phase }

def append (world : World) (event : OutboxEvent) : World :=
  match (OutboxRepository.append event).atomically (fun _ => false) world.rows with
  | .ok (_, rows) => { world with rows }
  | .error _ => world

/-- The claim at the start of `dispatch_pending`. -/
def dispatch (world : World) (workerId : String) (leaseSeconds : ℤ) (limit : ℕ)
    (locked : LockedRows) (now : Instant) : World :=
  match world.phase workerId with
  | .publishing (_ :: _) => world
  | .marking _ _ => world
  | _ =>
      match (OutboxRepository.claimPending workerId leaseSeconds now
          limit).atomically locked world.rows with
      | .ok (deliveries, rows) =>
          { world.setPhase workerId (.publishing deliveries) with
            rows
            log := Log.grants now deliveries world.log }
      | .error _ => world

def publish (world : World) (workerId : String) : World :=
  match world.phase workerId with
  | .publishing (delivery :: rest) =>
      { world.setPhase workerId (.marking delivery rest) with
        published := delivery.event :: world.published }
  | _ => world

/-- The failure is audited if that succeeds, and ends the batch. -/
def publishFails (uuid5 : String → String) (world : World)
    (workerId error : String) (now : Instant) : World :=
  match world.phase workerId with
  | .publishing (delivery :: _) =>
      match (auditFailure uuid5 workerId delivery error now).atomically
          (fun _ => false) world.rows with
      | .ok (_, rows) => { world.setPhase workerId .idle with rows }
      | .error _ => world.setPhase workerId .idle
  | _ => world

/-- A refused mark ends the batch, too. -/
def mark (uuid5 : String → String) (world : World) (workerId : String)
    (now : Instant) : World :=
  match world.phase workerId with
  | .marking delivery rest =>
      match (OutboxDispatch.mark uuid5 workerId delivery now).atomically
          (fun _ => false) world.rows with
      | .ok (row, rows) =>
          { world.setPhase workerId (.publishing rest) with
            rows
            log := (delivery.event.eventId,
              .release workerId row.deliveryAttempt now) :: world.log }
      | .error _ => world.setPhase workerId .idle
  | _ => world

def act (uuid5 : String → String) (world : World) (now : Instant) :
    Action → World
  | .append event => world.append event
  | .dispatch workerId leaseSeconds limit locked =>
      world.dispatch workerId leaseSeconds limit locked now
  | .publish workerId => world.publish workerId
  | .publishFails workerId error => world.publishFails uuid5 workerId error now
  | .mark workerId => world.mark uuid5 workerId now
  | .crash workerId => world.setPhase workerId .idle

def step (uuid5 : String → String) (world : World) (action : Action)
    (now : Instant) : World :=
  { world.act uuid5 now action with clock := now }

end World

/-- No events and no dispatcher at work. -/
structure Fresh (world : World) : Prop where
  empty : ∀ eventId, eventAt world.rows eventId = none
  idle : ∀ workerId, world.phase workerId = .idle
  log_eq : world.log = []

/-- Every interleaving, with clock readings that never go back. -/
inductive Run (uuid5 : String → String) (first : World) : World → Prop where
  | start : Run uuid5 first first
  | step {world : World} (action : Action) (now : Instant)
      (hrun : Run uuid5 first world) (hclock : world.clock ≤ now) :
      Run uuid5 first (world.step uuid5 action now)

/-- The log is the history of the leases in the database. -/
structure Leased (rows : WorkRows) (log : Log) (now : Instant) : Prop where
  history : ∀ eventId, Lease.History (log.acts eventId) (deliveryAt rows eventId)
  clock : ∀ entry ∈ log, entry.2.now ≤ now
  keyed : ∀ {eventId row}, eventAt rows eventId = some row →
    row.event.eventId = eventId

namespace Leased

variable {rows rows' : WorkRows} {log : Log} {now now' : Instant}

theorem wait (hleased : Leased rows log now) (hnow : now ≤ now') :
    Leased rows log now' where
  history := hleased.history
  clock := fun entry hentry => (hleased.clock entry hentry).trans hnow
  keyed := hleased.keyed

/-- Rows of other tables do not matter. -/
theorem frame (hleased : Leased rows log now)
    (hsame : ∀ eventId, eventAt rows' eventId = eventAt rows eventId) :
    Leased rows' log now where
  history := by
    intro eventId
    rw [deliveryAt, hsame]
    exact hleased.history eventId
  clock := hleased.clock
  keyed := fun hrow => hleased.keyed ((hsame _).symm.trans hrow)

/-- One step of the lease of one event. -/
theorem update (hleased : Leased rows log now) {eventId : String}
    {row row' : OutboxRow} {act : Lease.Act String Instant}
    (hrow : eventAt rows eventId = some row) (hevent : row'.event = row.event)
    (hstep : Lease.Step row.slot act row'.slot) (hact : act.now ≤ now) :
    Leased (⟨WorkKey.outboxEvent eventId, some row'⟩ :: rows)
      ((row.event.eventId, act) :: log) now := by
  have hkey := hleased.keyed hrow
  constructor
  · intro other
    have hhistory := hleased.history other
    unfold deliveryAt Log.acts
    rw [eventAt_event, List.filterMap_cons, hkey]
    by_cases hsame : eventId = other
    · subst hsame
      rw [deliveryAt_eq hrow] at hhistory
      simp only [↓reduceIte]
      exact hhistory.step hstep
    · simp only [hsame, ↓reduceIte]
      exact hhistory
  · intro entry hentry
    rcases List.mem_cons.mp hentry with rfl | hentry
    · exact hact
    · exact hleased.clock entry hentry
  · intro other found hfound
    rw [eventAt_event] at hfound
    by_cases hsame : eventId = other
    · obtain rfl := Option.some.inj ((if_pos hsame).symm.trans hfound)
      rw [hevent, hkey, hsame]
    · exact hleased.keyed ((if_neg hsame).symm.trans hfound)

/-- A new event was never leased. -/
theorem append (hleased : Leased rows log now) {event : OutboxEvent}
    (hnew : eventAt rows event.eventId = none) :
    Leased (⟨WorkKey.outboxEvent event.eventId, some ⟨event, none, 0, none⟩⟩ ::
      rows) log now := by
  constructor
  · intro other
    have hhistory := hleased.history other
    unfold deliveryAt at hhistory ⊢
    rw [eventAt_event]
    by_cases hsame : event.eventId = other
    · subst hsame
      rw [hnew] at hhistory
      simpa [OutboxRow.slot] using hhistory
    · rw [if_neg hsame]
      exact hhistory
  · exact hleased.clock
  · intro other found hfound
    rw [eventAt_event] at hfound
    by_cases hsame : event.eventId = other
    · obtain rfl := Option.some.inj ((if_pos hsame).symm.trans hfound)
      exact hsame
    · exact hleased.keyed ((if_neg hsame).symm.trans hfound)

open OutboxRepository in
theorem claim (hleased : Leased rows log now) {eventId : String} {row : OutboxRow}
    (hrow : eventAt rows eventId = some row) (hclaimable : claimable now row = true)
    (workerId : String) (leaseUntil : Instant) :
    Leased (⟨WorkKey.outboxEvent eventId, some (claimed workerId leaseUntil row)⟩ ::
        rows) ((row.event.eventId,
          .grant workerId (row.deliveryAttempt + 1) now leaseUntil) :: log) now := by
  have hevent : (claimed workerId leaseUntil row).event = row.event := rfl
  exact hleased.update hrow hevent (step_claimed hclaimable) (le_refl now)

open OutboxRepository in
theorem publish (hleased : Leased rows log now) {eventId workerId : String}
    {row : OutboxRow} (hrow : eventAt rows eventId = some row)
    (hheld : heldBy workerId now row = true) :
    Leased (⟨WorkKey.outboxEvent eventId, some (published now row)⟩ :: rows)
      ((row.event.eventId, .release workerId row.deliveryAttempt now) :: log)
        now := by
  have hevent : (published now row).event = row.event := rfl
  exact hleased.update hrow hevent (step_published hheld) (le_refl now)

open OutboxRepository in
theorem claims {workerId : String} {leaseUntil : Instant}
    {deliveries : List OutboxDelivery}
    (hclaims : Claims workerId now leaseUntil rows deliveries rows')
    (hleased : Leased rows log now) :
    Leased rows' (log.grants now deliveries) now := by
  induction hclaims generalizing log with
  | done rows => exact hleased
  | next hrow hclaimable _ ih =>
      apply ih
      exact hleased.claim hrow hclaimable workerId leaseUntil

end Leased

open OutboxRepository in
/-- A claim publishes nothing. -/
theorem claims_backward {rows rows' : WorkRows} {workerId : String}
    {now leaseUntil : Instant} {deliveries : List OutboxDelivery}
    (hclaims : Claims workerId now leaseUntil rows deliveries rows')
    {eventId : String} {row' : OutboxRow} (hrow' : eventAt rows' eventId = some row') :
    ∃ row, eventAt rows eventId = some row ∧ row.event = row'.event ∧
      row.publishedAt = row'.publishedAt := by
  induction hclaims with
  | done rows => exact ⟨row', hrow', rfl, rfl⟩
  | @next rows _ claimedId row _ hrow _ _ ih =>
      obtain ⟨found, hfound, hevent, hpublished⟩ := ih hrow'
      rw [eventAt_event] at hfound
      by_cases hsame : claimedId = eventId
      · subst hsame
        obtain rfl := Option.some.inj ((if_pos rfl).symm.trans hfound)
        exact ⟨row, hrow, hevent, hpublished⟩
      · exact ⟨found, (if_neg hsame).symm.trans hfound, hevent, hpublished⟩

open OutboxRepository in
/-- What a claim returns is on record. -/
theorem claims_recorded {rows rows' : WorkRows} {workerId : String}
    {now leaseUntil : Instant} {deliveries : List OutboxDelivery} {log : Log}
    (hclaims : Claims workerId now leaseUntil rows deliveries rows')
    (hleased : Leased rows log now) :
    ∀ delivery ∈ deliveries, ∃ row,
      eventAt rows' delivery.event.eventId = some row ∧
        row.event = delivery.event := by
  induction hclaims generalizing log with
  | done rows => simp
  | @next rows _ eventId row rest hrow hclaimable hrest ih =>
      have hnext := hleased.claim hrow hclaimable workerId leaseUntil
      intro delivery hdelivery
      rcases List.mem_cons.mp hdelivery with rfl | hdelivery
      · have hclaimed : eventAt (⟨WorkKey.outboxEvent eventId,
            some (claimed workerId leaseUntil row)⟩ :: rows) eventId =
              some (claimed workerId leaseUntil row) := by
          rw [eventAt_event, if_pos rfl]
        obtain ⟨found, hfound, hevent, _⟩ := hrest.grown.kept hclaimed
        rw [← hleased.keyed hrow] at hfound
        exact ⟨found, hfound, hevent⟩
      · exact ih hnext delivery hdelivery

section Steps

variable {uuid5 : String → String} {world world' : World} {workerId : String}
  {now : Instant} {rows rows' : WorkRows} {locked : LockedRows}

theorem mark_eq_ok {delivery : OutboxDelivery} {row : OutboxRow}
    (h : (mark uuid5 workerId delivery now).atomically locked rows =
      .ok (row, rows')) :
    ∃ before, eventAt rows delivery.event.eventId = some before ∧
      OutboxRepository.heldBy workerId now before = true ∧
      row = OutboxRepository.published now before ∧
      ∀ eventId, eventAt rows' eventId = eventAt
        (⟨WorkKey.outboxEvent delivery.event.eventId, some row⟩ :: rows) eventId := by
  rw [atomically_eq_ok] at h
  obtain ⟨own, h, rfl⟩ := h
  simp only [mark, execute_bind_eq_ok, execute_pure_eq_ok] at h
  obtain ⟨updated, between, hmark, _, _, haudit, rfl, rfl⟩ := h
  obtain ⟨before, hbefore, hheld, hrow, rfl⟩ :=
    OutboxRepository.markPublished_eq_ok hmark
  obtain rfl := AuditRepository.append_eq_ok haudit
  refine ⟨before, hbefore, hheld, hrow, ?_⟩
  intro eventId
  exact eventAt_audit _ _ _

theorem auditFailure_eq_ok {delivery : OutboxDelivery} {error : String}
    {result : Unit}
    (h : (auditFailure uuid5 workerId delivery error now).atomically locked rows =
      .ok (result, rows')) :
    ∀ eventId, eventAt rows' eventId = eventAt rows eventId := by
  rw [atomically_eq_ok] at h
  obtain ⟨own, h, rfl⟩ := h
  obtain rfl := AuditRepository.append_eq_ok h
  intro eventId
  exact eventAt_audit _ _ _

theorem grown_of_same
    (hsame : ∀ eventId, eventAt rows' eventId = eventAt rows eventId) :
    Grown rows rows' where
  kept := fun hrow => ⟨_, (hsame _).trans hrow, rfl, fun _ => rfl⟩

theorem grown_mark {delivery : OutboxDelivery} {row : OutboxRow}
    (h : (mark uuid5 workerId delivery now).atomically locked rows =
      .ok (row, rows')) : Grown rows rows' := by
  obtain ⟨before, hbefore, hheld, rfl, hsame⟩ := mark_eq_ok h
  have hevent : (OutboxRepository.published now before).event = before.event := rfl
  have hunpublished := (OutboxRepository.heldBy_eq_true.mp hheld).1
  exact (OutboxRepository.grown_update hbefore hevent hunpublished).trans
    (grown_of_same hsame)

/-- No action loses or alters an event. -/
theorem grown_act (uuid5 : String → String) (world : World) (now : Instant)
    (action : Action) : Grown world.rows (world.act uuid5 now action).rows := by
  cases action with
  | append event =>
      change Grown world.rows (world.append event).rows
      unfold World.append
      split
      · rename_i happend
        exact (OutboxRepository.append_grown happend).1
      · exact Grown.refl _
  | dispatch workerId leaseSeconds limit locked =>
      change Grown world.rows
        (world.dispatch workerId leaseSeconds limit locked now).rows
      unfold World.dispatch
      split
      · exact Grown.refl _
      · exact Grown.refl _
      · split
        · rename_i hclaim
          exact (OutboxRepository.claimPending_eq_ok hclaim).grown
        · exact Grown.refl _
  | publish workerId =>
      change Grown world.rows (world.publish workerId).rows
      unfold World.publish
      split <;> exact Grown.refl _
  | publishFails workerId error =>
      change Grown world.rows (world.publishFails uuid5 workerId error now).rows
      unfold World.publishFails
      split
      · split
        · rename_i haudit
          exact grown_of_same (auditFailure_eq_ok haudit)
        · exact Grown.refl _
      · exact Grown.refl _
  | mark workerId =>
      change Grown world.rows (world.mark uuid5 workerId now).rows
      unfold World.mark
      split
      · split
        · rename_i hmark
          exact grown_mark hmark
        · exact Grown.refl _
      · exact Grown.refl _
  | crash workerId => exact Grown.refl _

end Steps

/-- What every reachable world keeps. -/
structure Tracked (world : World) : Prop where
  leased : Leased world.rows world.log world.clock
  published : ∀ {eventId row}, eventAt world.rows eventId = some row →
    row.publishedAt.isSome → row.event ∈ world.published
  recorded : ∀ workerId, ∀ delivery ∈ (world.phase workerId).deliveries, ∃ row,
    eventAt world.rows delivery.event.eventId = some row ∧
      row.event = delivery.event
  marking : ∀ {workerId delivery rest},
    world.phase workerId = .marking delivery rest → delivery.event ∈ world.published

theorem Fresh.tracked {world : World} (hfresh : Fresh world) : Tracked world where
  leased := by
    constructor
    · intro eventId
      rw [deliveryAt, hfresh.empty, hfresh.log_eq]
      exact Lease.History.start 0
    · simp [hfresh.log_eq]
    · intro eventId row hrow
      simp [hfresh.empty] at hrow
  published := by
    intro eventId row hrow
    simp [hfresh.empty] at hrow
  recorded := by
    intro workerId delivery hdelivery
    simp [hfresh.idle, Phase.deliveries] at hdelivery
  marking := by
    intro workerId delivery rest hphase
    simp [hfresh.idle] at hphase

namespace Tracked

variable {uuid5 : String → String} {world : World} {workerId : String}
  {now : Instant}

/-- A later clock reading alone. -/
theorem wait (htracked : Tracked world) (hclock : world.clock ≤ now) :
    Tracked { world with clock := now } where
  leased := htracked.leased.wait hclock
  published := htracked.published
  recorded := htracked.recorded
  marking := htracked.marking

/-- The rows grow, and one dispatcher moves on with deliveries on record. -/
theorem move (htracked : Tracked world) {rows' : WorkRows} {log' : Log}
    {phase : Phase} {published' : List OutboxEvent}
    (hleased : Leased rows' log' now) (hgrown : Grown world.rows rows')
    (hpublished : ∀ {eventId row}, eventAt rows' eventId = some row →
      row.publishedAt.isSome → row.event ∈ published')
    (hmore : ∀ event ∈ world.published, event ∈ published')
    (hrecorded : ∀ delivery ∈ phase.deliveries, ∃ row,
      eventAt rows' delivery.event.eventId = some row ∧ row.event = delivery.event)
    (hmarking : ∀ {delivery rest}, phase = .marking delivery rest →
      delivery.event ∈ published') :
    Tracked ⟨rows', now, Function.update world.phase workerId phase, published',
      log'⟩ where
  leased := hleased
  published := hpublished
  recorded := by
    intro other delivery hdelivery
    by_cases hsame : other = workerId
    · subst hsame
      simp only [Function.update_self] at hdelivery
      exact hrecorded delivery hdelivery
    · simp only [Function.update_of_ne hsame] at hdelivery
      obtain ⟨row, hrow, hevent⟩ := htracked.recorded other delivery hdelivery
      obtain ⟨row', hrow', hevent', _⟩ := hgrown.kept hrow
      exact ⟨row', hrow', hevent'.trans hevent⟩
  marking := by
    intro other delivery rest hphase
    by_cases hsame : other = workerId
    · subst hsame
      simp only [Function.update_self] at hphase
      exact hmarking hphase
    · simp only [Function.update_of_ne hsame] at hphase
      exact hmore _ (htracked.marking hphase)

/-- A dispatcher goes idle, perhaps after an audit record. -/
theorem stop (htracked : Tracked world) (hclock : world.clock ≤ now)
    {rows' : WorkRows}
    (hsame : ∀ eventId, eventAt rows' eventId = eventAt world.rows eventId) :
    Tracked ⟨rows', now, Function.update world.phase workerId .idle,
      world.published, world.log⟩ := by
  apply htracked.move
  · exact (htracked.leased.wait hclock).frame hsame
  · exact grown_of_same hsame
  · intro eventId row hrow
    exact htracked.published ((hsame _).symm.trans hrow)
  · exact fun _ hevent => hevent
  · simp [Phase.deliveries]
  · intro delivery rest hphase
    simp at hphase

theorem append (htracked : Tracked world) (hclock : world.clock ≤ now)
    (event : OutboxEvent) : Tracked { world.append event with clock := now } := by
  unfold World.append
  split
  · rename_i row rows' happend
    obtain ⟨hgrown, _, hevent, hrows⟩ := OutboxRepository.append_grown happend
    rcases hrows with rfl | ⟨hnew, rfl⟩
    · exact htracked.wait hclock
    · constructor
      · exact (htracked.leased.wait hclock).append hnew
      · intro eventId found hfound hpublished
        rw [eventAt_event] at hfound
        by_cases hsame : event.eventId = eventId
        · obtain rfl := Option.some.inj ((if_pos hsame).symm.trans hfound)
          simp at hpublished
        · exact htracked.published ((if_neg hsame).symm.trans hfound) hpublished
      · intro other delivery hdelivery
        obtain ⟨found, hfound, hsame⟩ := htracked.recorded other delivery hdelivery
        obtain ⟨kept, hkept, hkeptEvent, _⟩ := hgrown.kept hfound
        exact ⟨kept, hkept, hkeptEvent.trans hsame⟩
      · exact htracked.marking
  · exact htracked.wait hclock

theorem dispatch (htracked : Tracked world) (hclock : world.clock ≤ now)
    (leaseSeconds : ℤ) (limit : ℕ) (locked : LockedRows) :
    Tracked { world.dispatch workerId leaseSeconds limit locked now with
      clock := now } := by
  unfold World.dispatch
  split
  · exact htracked.wait hclock
  · exact htracked.wait hclock
  · split
    · rename_i deliveries rows' hclaim
      have hclaims := OutboxRepository.claimPending_eq_ok hclaim
      have hleased := htracked.leased.wait hclock
      apply htracked.move (hleased.claims hclaims) hclaims.grown
      · intro eventId row' hrow' hpublished
        obtain ⟨row, hrow, hevent, hsame⟩ := claims_backward hclaims hrow'
        rw [← hevent]
        exact htracked.published hrow (hsame ▸ hpublished)
      · exact fun _ hevent => hevent
      · exact claims_recorded hclaims hleased
      · intro delivery rest hphase
        simp at hphase
    · exact htracked.wait hclock

theorem publish (htracked : Tracked world) (hclock : world.clock ≤ now) :
    Tracked { world.publish workerId with clock := now } := by
  unfold World.publish
  split
  · rename_i delivery rest hphase
    apply htracked.move (htracked.leased.wait hclock) (Grown.refl _)
    · intro eventId row hrow hpublished
      exact List.mem_cons_of_mem _ (htracked.published hrow hpublished)
    · exact fun _ hevent => List.mem_cons_of_mem _ hevent
    · intro other hother
      apply htracked.recorded workerId
      rw [hphase]
      exact hother
    · intro other rest' hmarking
      obtain ⟨rfl, _⟩ := Phase.marking.inj hmarking
      exact List.mem_cons_self
  · exact htracked.wait hclock

theorem publishFails (htracked : Tracked world) (hclock : world.clock ≤ now)
    (error : String) :
    Tracked { world.publishFails uuid5 workerId error now with clock := now } := by
  unfold World.publishFails
  split
  · split
    · rename_i haudit
      exact htracked.stop hclock (auditFailure_eq_ok haudit)
    · exact htracked.stop hclock fun _ => rfl
  · exact htracked.wait hclock

/-- Only an event that was published can be marked. -/
theorem mark (htracked : Tracked world) (hclock : world.clock ≤ now) :
    Tracked { world.mark uuid5 workerId now with clock := now } := by
  unfold World.mark
  split
  · rename_i delivery rest hphase
    split
    · rename_i row rows' hmark
      obtain ⟨before, hbefore, hheld, rfl, hsame⟩ := mark_eq_ok hmark
      have hleased := htracked.leased.wait hclock
      have hmember : delivery ∈ (world.phase workerId).deliveries := by
        simp [hphase, Phase.deliveries]
      obtain ⟨found, hfound, hevent⟩ := htracked.recorded workerId delivery hmember
      obtain rfl := Option.some.inj (hbefore.symm.trans hfound)
      have hreleased := (hleased.publish hbefore hheld).frame hsame
      rw [hevent] at hreleased
      apply htracked.move hreleased (grown_mark hmark)
      · intro eventId row hrow hpublished
        rw [hsame, eventAt_event] at hrow
        by_cases hmarked : delivery.event.eventId = eventId
        · obtain rfl := Option.some.inj ((if_pos hmarked).symm.trans hrow)
          have hmarking := htracked.marking hphase
          rw [← hevent] at hmarking
          exact hmarking
        · exact htracked.published ((if_neg hmarked).symm.trans hrow) hpublished
      · exact fun _ hevent => hevent
      · intro other hother
        have hold : other ∈ (world.phase workerId).deliveries := by
          rw [hphase]
          exact List.mem_cons_of_mem _ hother
        obtain ⟨kept, hkept, hkeptEvent⟩ := htracked.recorded workerId other hold
        obtain ⟨row, hrow, hrowEvent, _⟩ := (grown_mark hmark).kept hkept
        exact ⟨row, hrow, hrowEvent.trans hkeptEvent⟩
      · intro other rest' hmarking
        simp at hmarking
    · exact htracked.stop hclock fun _ => rfl
  · exact htracked.wait hclock

theorem step (htracked : Tracked world) (hclock : world.clock ≤ now)
    (action : Action) : Tracked (world.step uuid5 action now) := by
  cases action with
  | append event => exact htracked.append hclock event
  | dispatch workerId leaseSeconds limit locked =>
      exact htracked.dispatch hclock leaseSeconds limit locked
  | publish workerId => exact htracked.publish hclock
  | publishFails workerId error => exact htracked.publishFails hclock error
  | mark workerId => exact htracked.mark hclock
  | crash workerId => exact htracked.stop hclock fun _ => rfl

end Tracked

variable {uuid5 : String → String} {first world later : World}

theorem Run.tracked (hfresh : Fresh first) (hrun : Run uuid5 first world) :
    Tracked world := by
  induction hrun with
  | start => exact hfresh.tracked
  | step action now _ hclock ih => exact ih.step hclock action

theorem Run.grown (hrun : Run uuid5 world later) : Grown world.rows later.rows := by
  induction hrun with
  | start => exact Grown.refl _
  | step action now _ _ ih => exact ih.trans (grown_act uuid5 _ now action)

/-- What holds of the outbox in a world and from there on. -/
structure Reliable (uuid5 : String → String) (world : World) : Prop where
  appended : ∀ {event : OutboxEvent} {row : OutboxRow} {rows : WorkRows},
    (OutboxRepository.append event).atomically (fun _ => false) world.rows =
      .ok (row, rows) →
      ∃ kept, eventAt (world.append event).rows event.eventId = some kept ∧
        kept.event = event
  kept : ∀ {later : World} {eventId : String} {row : OutboxRow},
    Run uuid5 world later → eventAt world.rows eventId = some row →
      ∃ row', eventAt later.rows eventId = some row' ∧ row'.event = row.event
  published_first : ∀ {eventId : String} {row : OutboxRow},
    eventAt world.rows eventId = some row → row.publishedAt.isSome →
      row.event ∈ world.published
  published_final : ∀ {later : World} {eventId : String} {row : OutboxRow},
    Run uuid5 world later → eventAt world.rows eventId = some row →
    row.publishedAt.isSome → eventAt later.rows eventId = some row
  one_holder : ∀ {eventId workerId workerId' : String}
    {now expiry expiry' : Instant}, world.clock ≤ now →
    believed (world.log.acts eventId) workerId = some expiry → now < expiry →
    believed (world.log.acts eventId) workerId' = some expiry' → now < expiry' →
      workerId = workerId'
  rejected_unchanged : ∀ {workerId : String} {delivery : OutboxDelivery}
    {rest : List OutboxDelivery} {now : Instant},
    world.phase workerId = .marking delivery rest →
    (∀ row rows, (mark uuid5 workerId delivery now).atomically (fun _ => false)
      world.rows ≠ .ok (row, rows)) →
      (world.step uuid5 (.mark workerId) now).rows = world.rows

/-- The outbox is reliable, whatever the dispatchers do and in which order. -/
theorem reliable_of_run (hfresh : Fresh first) (hrun : Run uuid5 first world) :
    Reliable uuid5 world := by
  have htracked := hrun.tracked hfresh
  constructor
  · intro event row rows happend
    have hrows : (world.append event).rows = rows := by
      simp only [World.append, happend]
    obtain ⟨_, hrow, hevent, _⟩ := OutboxRepository.append_grown happend
    exact ⟨row, by rw [hrows]; exact hrow, hevent⟩
  · intro later eventId row hlater hrow
    obtain ⟨row', hrow', hevent, _⟩ := hlater.grown.kept hrow
    exact ⟨row', hrow', hevent⟩
  · exact htracked.published
  · intro later eventId row hlater hrow hpublished
    obtain ⟨row', hrow', _, hfinal⟩ := hlater.grown.kept hrow
    rw [hrow', hfinal hpublished]
  · intro eventId workerId workerId' now expiry expiry' hclock hbelieved hlive
      hbelieved' hlive'
    apply (htracked.leased.history eventId).exclusive ?_ hbelieved hlive hbelieved'
      hlive'
    intro act hact
    simp only [Log.acts, List.mem_filterMap, Option.ite_none_right_eq_some,
      Option.some.injEq] at hact
    obtain ⟨entry, hentry, _, rfl⟩ := hact
    exact (htracked.leased.clock entry hentry).trans hclock
  · intro workerId delivery rest now hphase hrejected
    change (world.mark uuid5 workerId now).rows = world.rows
    simp only [World.mark, hphase]
    split
    · rename_i row rows hmark
      exact absurd hmark (hrejected row rows)
    · rfl

def sampleEvent : OutboxEvent := ⟨"event-1", "job.completed", "job", "job-1", [], 0⟩

def emptyWorld : World := ⟨[], 0, fun _ => .idle, [], []⟩

/-- A slow dispatcher loses its lease before it can mark what it published. -/
theorem reliable_of_run_slow :
    Reliable id ((((emptyWorld.step id (.append sampleEvent) 0).step id
      (.dispatch "worker-1" 60 1 fun _ => false) 0).step id (.publish "worker-1")
        (seconds 60)).step id (.mark "worker-1") (seconds 61)) := by
  apply @reliable_of_run id emptyWorld
  · exact ⟨fun _ => rfl, fun _ => rfl, rfl⟩
  · apply Run.step (.mark "worker-1")
    · apply Run.step (.publish "worker-1")
      · apply Run.step (.dispatch "worker-1" 60 1 fun _ => false)
        · exact Run.start.step (.append sampleEvent) 0 (le_refl 0)
        · exact le_refl 0
      · change (0 : ℤ) ≤ seconds 60
        decide
    · change seconds 60 ≤ seconds 61
      decide

end OutboxDispatch

end ShemaPlatform
