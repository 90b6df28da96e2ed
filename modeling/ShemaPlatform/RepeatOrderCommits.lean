/-
What one call of the repeat-order workflow commits.  A call either answers
from a stored result and writes nothing, or applies its operation once to the
plan as committed, whatever the other calls did between its statements.
-/
import ShemaPlatform.RepeatOrderService
import ShemaPlatform.RepositoryRules

namespace ShemaPlatform

open Calendar ReadCommitted ReadCommitted.Prog

namespace RepeatOrderService

/-- What the calls rely on while others commit: a reserved key keeps its
record, and a plan only changes together with its revision. -/
structure Respects (evolution : Evolution Instant Row) : Prop where
  records : ∀ {before after key record}, evolution.rel before after →
    before.rows.get (Key.idempotencyKey key) = some record →
    after.rows.get (Key.idempotencyKey key) = some record
  plans : ∀ {before after planId row}, evolution.rel before after →
    before.rows.get (Key.repeatOrderPlan planId) = some row →
    ∃ row', after.rows.get (Key.repeatOrderPlan planId) = some row' ∧
      (row' = row ∨ RepeatPlanRow.revision row < RepeatPlanRow.revision row')

variable {evolution : Evolution Instant Row} {world : World Instant Row}
  {caller : Caller}

/-- A plan row that still has the revision it was read with is unchanged. -/
theorem Respects.plan_eq (hrespects : Respects evolution)
    {before after : World Instant Row} {planId : String}
    {row row' : RepeatPlanRow} (hrel : evolution.rel before after)
    (hbefore : before.rows.get (Key.repeatOrderPlan planId) = some row)
    (hafter : after.rows.get (Key.repeatOrderPlan planId) = some row')
    (hrevision : row'.revision = row.revision) : row' = row := by
  obtain ⟨found, hfound, hchange⟩ := hrespects.plans hrel hbefore
  obtain rfl := Option.some.inj (hfound.symm.trans hafter)
  rcases hchange with heq | hlt
  · exact heq
  · rw [hrevision] at hlt
    exact absurd hlt (Nat.lt_irrefl _)

/-- The plan a save finds is the plan the call read. -/
theorem Respects.plan_current (hrespects : Respects evolution)
    {earlier : World Instant Row} {planId : String}
    {plan current : RepeatOrderPlan} {row : RepeatPlanRow}
    (hrel : evolution.rel earlier world)
    (hread : RepeatOrders.read earlier.rows planId = .ok (some plan))
    (hrow : world.rows.get (Key.repeatOrderPlan planId) = some row)
    (hcurrent : row.toPlan planId = .ok current)
    (hrevision : current.revision = plan.revision) :
    row.toPlan planId = .ok plan := by
  obtain ⟨seen, hseen, hplan⟩ := RepeatOrders.read_eq_some hread
  have hsame : row = seen := hrespects.plan_eq hrel hseen hrow (by
    rw [← (RepeatOrders.shows_of_toPlan hcurrent).2.revision, hrevision,
      (RepeatOrders.shows_of_toPlan hplan).2.revision])
  rw [hsame]
  exact hplan

/-- The caller's key already has a record for this request. -/
def Recorded (caller : Caller) (world : World Instant Row)
    (resultRef : String) : Prop :=
  ∃ record : IdempotencyRecord,
    world.rows.get (Key.idempotencyKey caller.idempotencyKey) = some record ∧
      record.requestHash = caller.requestHash ∧ record.resultRef = resultRef

/-- The answer is the plan recorded under the key, as it was at some point. -/
def PlanReplayed (evolution : Evolution Instant Row) (caller : Caller)
    (plan : RepeatOrderPlan) (world : World Instant Row) : Prop :=
  ∃ resultRef, Recorded caller world resultRef ∧
    ∃ earlier, evolution.rel earlier world ∧
      RepeatOrders.read earlier.rows resultRef = .ok (some plan)

/-- The answer is the order recorded under the key, as it was at some point. -/
def OrderReplayed (evolution : Evolution Instant Row) (caller : Caller)
    (order : Order) (world : World Instant Row) : Prop :=
  ∃ resultRef, Recorded caller world resultRef ∧
    ∃ first second, evolution.rel first world ∧ evolution.rel second world ∧
      Orders.read first.rows second.rows resultRef = .ok (some order)

/-- Some earlier look at the key found no record. -/
def Unseen (evolution : Evolution Instant Row) (caller : Caller)
    (world : World Instant Row) : Prop :=
  ∃ earlier, evolution.rel earlier world ∧
    Rows.get earlier.rows (Key.idempotencyKey caller.idempotencyKey) = none

theorem found_eq_ok {α : Type} {resource : Option α} {message : String}
    {value : α} : found resource message = .ok value ↔ resource = some value := by
  cases resource with
  | none => simp [found]
  | some stored => simp [found]

theorem atCommit_existingRecord (hrespects : Respects evolution)
    {post : Option IdempotencyRecord → Rows Row → World Instant Row → Prop}
    (hnone : Unseen evolution caller world → post none [] world)
    (hsome : ∀ record, Recorded caller world record.resultRef →
      post (some record) [] world) :
    atCommit evolution (existingRecord caller) post [] world := by
  rw [existingRecord, atCommit_bind, Idempotency.get, atCommit_select]
  intro earlier hearlier
  cases hrecord : Rows.get ([] ++ earlier.rows)
      (Key.idempotencyKey caller.idempotencyKey) with
  | none => exact hnone ⟨earlier, hearlier.evolved, hrecord⟩
  | some record =>
      rw [atCommit_bind, atCommit_require, beq_iff_eq]
      intro hhash
      exact hsome record ⟨record, hrespects.records hearlier.evolved hrecord,
        hhash, rfl⟩

theorem atCommit_existingPlan (hrespects : Respects evolution)
    {post : Option RepeatOrderPlan → Rows Row → World Instant Row → Prop}
    (hnone : Unseen evolution caller world → post none [] world)
    (hsome : ∀ plan, PlanReplayed evolution caller plan world →
      post (some plan) [] world) :
    atCommit evolution (existingPlan caller) post [] world := by
  rw [existingPlan, atCommit_bind]
  refine atCommit_existingRecord hrespects hnone fun record hrecorded => ?_
  rw [atCommit_bind]
  refine RepeatOrders.atCommit_get fun earlier result hearlier hread => ?_
  simp only [atCommit_bind, atCommit_lift, found_eq_ok, atCommit_pure]
  rintro plan rfl
  exact hsome plan ⟨_, hrecorded, earlier, hearlier.evolved, hread⟩

theorem atCommit_existingOrder (hrespects : Respects evolution)
    {post : Option Order → Rows Row → World Instant Row → Prop}
    (hnone : Unseen evolution caller world → post none [] world)
    (hsome : ∀ order, OrderReplayed evolution caller order world →
      post (some order) [] world) :
    atCommit evolution (existingOrder caller) post [] world := by
  rw [existingOrder, atCommit_bind]
  refine atCommit_existingRecord hrespects hnone fun record hrecorded => ?_
  rw [atCommit_bind]
  refine Orders.atCommit_get fun first second result hfirst hsecond hread => ?_
  simp only [atCommit_bind, atCommit_lift, found_eq_ok, atCommit_pure]
  rintro order rfl
  exact hsome order ⟨_, hrecorded, first, second, hfirst.evolved,
    hsecond.evolved, hread⟩

theorem atCommit_requirePlan {planId : String} {own : Rows Row}
    {post : RepeatOrderPlan → Rows Row → World Instant Row → Prop}
    (h : ∀ earlier plan, Meanwhile evolution own.keys earlier world →
      RepeatOrders.read (own ++ earlier.rows) planId = .ok (some plan) →
      post plan own world) :
    atCommit evolution (requirePlan planId) post own world := by
  rw [requirePlan, atCommit_bind]
  refine RepeatOrders.atCommit_get fun earlier result hearlier hread => ?_
  cases result with
  | none => trivial
  | some plan => exact h earlier plan hearlier hread

theorem atCommit_verifiedIdentity {identityId : String} {own : Rows Row}
    {post : Identity → Rows Row → World Instant Row → Prop}
    (h : ∀ identity, post identity own world) :
    atCommit evolution (verifiedIdentity identityId) post own world := by
  rw [verifiedIdentity, atCommit_bind, Identities.get, atCommit_select]
  intro earlier _
  cases hidentity : Rows.get (own ++ earlier.rows) (Key.identity identityId) with
  | none => trivial
  | some identity =>
      rw [atCommit_bind, atCommit_lift]
      exact fun _ _ => h identity

theorem allowed_of_authorize {service : RepeatOrderService} {actor : Actor}
    {identity : Identity} {evidenceLevel : Int} {result : Unit}
    (h : service.authorize actor identity evidenceLevel = .ok result) :
    service.authorizer.isAllowed actor.actorId .orderCreate = true := by
  rw [authorize, bind_eq_ok] at h
  obtain ⟨_, hrequire, _⟩ := h
  exact require_eq_ok.mp hrequire

theorem owner_of_requireOwner {owner : Option String} {actor : Actor}
    {result : Unit} (h : requireOwner owner actor = .ok result) :
    owner = some actor.actorId := by
  rw [requireOwner, require_eq_ok, Bool.and_eq_true, beq_iff_eq] at h
  exact h.2

/-- The key is reserved for the request, newly or since before. -/
structure Reservation (caller : Caller) (ref : String)
    (record : IdempotencyRecord) (reservation : Rows Row)
    (world : World Instant Row) : Prop where
  touched : reservation.Only (· = Key.idempotencyKey caller.idempotencyKey)
  held : Rows.get (reservation ++ world.rows)
    (Key.idempotencyKey caller.idempotencyKey) = some record
  hash : record.requestHash = caller.requestHash
  kept : ∀ old, world.rows.get (Key.idempotencyKey caller.idempotencyKey) =
    some old → old = record
  foreign : record.resultRef ≠ ref → reservation = []

theorem Reservation.recorded {ref : String} {record : IdempotencyRecord}
    {reservation : Rows Row} (h : Reservation caller ref record reservation world)
    (hforeign : record.resultRef ≠ ref) :
    reservation = [] ∧ Recorded caller world record.resultRef := by
  have hheld := h.held
  rw [h.foreign hforeign] at hheld
  exact ⟨h.foreign hforeign, record, hheld, h.hash, rfl⟩

theorem atCommit_reserve (hrespects : Respects evolution) {ref : String}
    {post : IdempotencyRecord → Rows Row → World Instant Row → Prop}
    (h : ∀ record reservation, Reservation caller ref record reservation world →
      post record reservation world) :
    atCommit evolution
      (Idempotency.reserve caller.idempotencyKey caller.requestHash ref :
        Tx Instant IdempotencyRecord) post [] world := by
  refine Idempotency.atCommit_reserve (fun hnone => ?_)
    fun earlier record hearlier hrecord hhash => ?_
  · refine h _ _ ⟨by simp, by simp, rfl, fun old hold => ?_, fun hne => ?_⟩
    · rw [List.nil_append] at hnone
      rw [hnone] at hold
      simp at hold
    · exact absurd rfl hne
  · have hheld := hrespects.records hearlier.evolved hrecord
    exact h record [] ⟨by simp, hheld, hhash,
      fun old hold => Option.some.inj (hold.symm.trans hheld), fun _ => rfl⟩

section Journal

variable {uuid5 : String → String} {action resourceId : String}

/-- The audit record and the event of one operation. -/
structure Journal (uuid5 : String → String) (caller : Caller)
    (action resourceId : String) (journal base : Rows Row) : Prop where
  touched : journal.Only fun key =>
    key = Key.auditLog (auditId uuid5 action resourceId caller.idempotencyKey) ∨
      ∃ id, key = Key.outboxEvent id
  fresh : Rows.get base
    (Key.auditLog (auditId uuid5 action resourceId caller.idempotencyKey)) = none
  kept : ∃ record, Rows.get (journal ++ base)
    (Key.auditLog (auditId uuid5 action resourceId caller.idempotencyKey)) =
      some record

theorem atCommit_event {eventType aggregateType aggregateId : String}
    {payload : Payload} {own : Rows Row}
    {post : Unit → Rows Row → World Instant Row → Prop}
    (h : ∀ written, Rows.Only (fun key => ∃ id, key = Key.outboxEvent id) written →
      post () (written ++ own) world) :
    atCommit evolution
      (event uuid5 caller eventType aggregateType aggregateId payload)
      post own world := by
  rw [event, atCommit_bind, clock, atCommit_observe]
  intro earlier _
  rw [atCommit_bind]
  refine Outbox.atCommit_append (fun _ => ?_) fun _ _ _ => h [] (by simp)
  exact h [_] (by simp)

/-- A second record of the same audit id is refused. -/
theorem atCommit_record {resourceType : String} {metadata : Payload}
    {own : Rows Row} {post : Unit → Rows Row → World Instant Row → Prop}
    (h : ∀ audit : AuditRecord, Rows.get (own ++ world.rows) (Key.auditLog
        (auditId uuid5 action resourceId caller.idempotencyKey)) = none →
      post () (⟨Key.auditLog (auditId uuid5 action resourceId
        caller.idempotencyKey), some audit⟩ :: own) world) :
    atCommit evolution
      (record uuid5 caller action resourceType resourceId metadata)
      post own world := by
  rw [record, atCommit_bind, clock, atCommit_observe]
  exact fun earlier _ => Audits.atCommit_append fun hfresh => h _ hfresh

theorem atCommit_journal {resourceType eventType aggregateType aggregateId : String}
    {metadata payload : Payload} {own : Rows Row}
    {post : Unit → Rows Row → World Instant Row → Prop}
    (h : ∀ journal, Journal uuid5 caller action resourceId journal
      (own ++ world.rows) → post () (journal ++ own) world) :
    atCommit evolution
      (record uuid5 caller action resourceType resourceId metadata)
      (fun _ own world => atCommit evolution
        (event uuid5 caller eventType aggregateType aggregateId payload)
        post own world) own world := by
  refine atCommit_record fun audit hfresh => ?_
  refine atCommit_event fun written hwritten => ?_
  have hall := h (written ++ [⟨Key.auditLog (auditId uuid5 action resourceId
    caller.idempotencyKey), some audit⟩]) ⟨?_, hfresh, audit, ?_⟩
  · simpa using hall
  · rw [Rows.only_append]
    exact ⟨hwritten.mono fun _ => Or.inr, by simp⟩
  · rw [List.append_assoc, hwritten.get_append (by simp)]
    simp

end Journal

/-- Rows other than the records kept beside every operation. -/
@[simp] def business : Key → Prop
  | .idempotencyKey _ | .auditLog _ | .outboxEvent _ => False
  | _ => True

/-- What every applied operation leaves behind: its reservation, its audit
record, and otherwise only rows it `touches`. -/
structure Applied (uuid5 : String → String) (evolution : Evolution Instant Row)
    (call : RepeatCall) (touches : Key → Prop) (own : Rows Row)
    (world : World Instant Row) : Prop where
  unseen : Unseen evolution call.caller world
  allowed : call.service.authorizer.isAllowed call.caller.actor.actorId
    .orderCreate = true
  touched : own.Only fun key =>
    key = Key.idempotencyKey call.caller.idempotencyKey ∨
      key = Key.auditLog (auditId uuid5 call.operation.action call.resultRef
        call.caller.idempotencyKey) ∨
      (∃ id, key = Key.outboxEvent id) ∨ touches key
  reserved : ∃ record : IdempotencyRecord,
    Rows.get (own ++ world.rows)
        (Key.idempotencyKey call.caller.idempotencyKey) = some record ∧
      record.requestHash = call.caller.requestHash ∧
      record.resultRef = call.resultRef ∧
      ∀ old, world.rows.get (Key.idempotencyKey call.caller.idempotencyKey) =
        some old → old = record
  fresh : world.rows.get (Key.auditLog (auditId uuid5 call.operation.action
    call.resultRef call.caller.idempotencyKey)) = none
  audited : ∃ audit : AuditRecord,
    Rows.get (own ++ world.rows) (Key.auditLog (auditId uuid5
      call.operation.action call.resultRef call.caller.idempotencyKey)) =
        some audit

section Assembly

variable {uuid5 : String → String} {call : RepeatCall} {touches : Key → Prop}
  {record : IdempotencyRecord} {reservation middle journal : Rows Row}

theorem Reservation.get_business {ref : String}
    (h : Reservation caller ref record reservation world) {key : Key}
    (hkey : business key) :
    Rows.get (reservation ++ world.rows) key = world.rows.get key :=
  h.touched.get_append (by rintro rfl; exact hkey) world.rows

theorem Journal.get_business {action resourceId : String} {base : Rows Row}
    (h : Journal uuid5 caller action resourceId journal base) {key : Key}
    (hkey : business key) : Rows.get (journal ++ base) key = base.get key :=
  h.touched.get_append (by rintro (rfl | ⟨id, rfl⟩) <;> exact hkey) base

theorem Applied.of {action ref : String}
    (haction : call.operation.action = action) (hresult : call.resultRef = ref)
    (hunseen : Unseen evolution call.caller world)
    (hallowed : call.service.authorizer.isAllowed call.caller.actor.actorId
      .orderCreate = true)
    (hreservation : Reservation call.caller ref record reservation world)
    (href : record.resultRef = ref) (hmiddle : middle.Only touches)
    (hbusiness : ∀ key, touches key → business key)
    (hjournal : Journal uuid5 call.caller action ref journal
      (middle ++ reservation ++ world.rows)) :
    Applied uuid5 evolution call touches (journal ++ (middle ++ reservation))
      world := by
  subst haction hresult
  have hskip : ∀ key, ¬ business key → ¬ touches key :=
    fun key hkey htouches => hkey (hbusiness key htouches)
  refine ⟨hunseen, hallowed, ?_,
    ⟨record, ?_, hreservation.hash, href, hreservation.kept⟩, ?_, ?_⟩
  · simp only [Rows.only_append]
    refine ⟨hjournal.touched.mono ?_, hmiddle.mono ?_, hreservation.touched.mono ?_⟩
    · rintro key (rfl | houtbox)
      · exact Or.inr (Or.inl rfl)
      · exact Or.inr (Or.inr (Or.inl houtbox))
    · exact fun key hkey => Or.inr (Or.inr (Or.inr hkey))
    · exact fun key hkey => Or.inl hkey
  · rw [List.append_assoc, hjournal.touched.get_append (by simp),
      List.append_assoc, hmiddle.get_append (hskip _ (by simp))]
    exact hreservation.held
  · have hfresh := hjournal.fresh
    rwa [List.append_assoc, hmiddle.get_append (hskip _ (by simp)),
      hreservation.touched.get_append (by simp)] at hfresh
  · obtain ⟨audit, haudit⟩ := hjournal.kept
    exact ⟨audit, by rwa [List.append_assoc]⟩

end Assembly

/-- An applied operation has written its audit record at least. -/
theorem Applied.ne_nil {uuid5 : String → String} {call : RepeatCall}
    {touches : Key → Prop} {own : Rows Row}
    (h : Applied uuid5 evolution call touches own world) : own ≠ [] := by
  rintro rfl
  obtain ⟨_, haudit⟩ := h.audited
  rw [List.nil_append, h.fresh] at haudit
  simp at haudit

section Effects

variable (uuid5 : String → String) (evolution : Evolution Instant Row)
  (call : RepeatCall)

/-- The row of a plan replaced by a changed plan under the next revision. -/
structure PlanSaved (planId : String) (plan changed : RepeatOrderPlan)
    (row new : RepeatPlanRow) (before after : Rows Row) : Prop where
  before : before.get (Key.repeatOrderPlan planId) = some row
  shown : row.toPlan planId = .ok plan
  changed : RepeatOrders.updated changed (plan.revision + 1) row = .ok new
  after : after.get (Key.repeatOrderPlan planId) = some new

variable {evolution} in
theorem Respects.saved (hrespects : Respects evolution)
    {earlier world : World Instant Row} {planId : String}
    {plan current changed : RepeatOrderPlan} {row new : RepeatPlanRow}
    {after : Rows Row} (hrel : evolution.rel earlier world)
    (hread : RepeatOrders.read earlier.rows planId = .ok (some plan))
    (hrow : world.rows.get (Key.repeatOrderPlan planId) = some row)
    (hcurrent : row.toPlan planId = .ok current)
    (hrevision : current.revision = plan.revision)
    (hnew : RepeatOrders.updated changed (current.revision + 1) row = .ok new)
    (hafter : after.get (Key.repeatOrderPlan planId) = some new) :
    PlanSaved planId plan changed row new world.rows after :=
  ⟨hrow, hrespects.plan_current hrel hread hrow hcurrent hrevision,
    by rw [← hrevision]; exact hnew, hafter⟩

/-- What a call answers and commits. -/
inductive Effect : RepeatAnswer → Rows Row → World Instant Row → Prop where
  | planReplayed {plan : RepeatOrderPlan} {world : World Instant Row}
      (hkind : call.operation.returnsPlan = true)
      (hreplayed : PlanReplayed evolution call.caller plan world) :
      Effect (.plan plan) [] world
  | orderReplayed {order : Order} {world : World Instant Row}
      (hkind : call.operation.returnsPlan = false)
      (hreplayed : OrderReplayed evolution call.caller order world) :
      Effect (.order order) [] world
  | planCreated {planId sourceOrderId : String} {cadence : RepeatCadence}
      {context : RepeatOrderContext} {plan : RepeatOrderPlan}
      {row : RepeatPlanRow} {own : Rows Row} {world : World Instant Row}
      (hcall : call.operation =
        .createPlan planId sourceOrderId cadence context)
      (happlied : Applied uuid5 evolution call
        (· = Key.repeatOrderPlan planId) own world)
      (hfresh : world.rows.get (Key.repeatOrderPlan planId) = none)
      (howner : plan.ownerActorId = some call.caller.actor.actorId)
      (hstatus : plan.status = .active) (hpending : plan.pendingOrderId = none)
      (hrow : RepeatPlanRow.ofPlan plan = .ok row)
      (hafter : Rows.get (own ++ world.rows) (Key.repeatOrderPlan planId) =
        some row) :
      Effect (.plan plan) own world
  | orderCreated {planId : String} {plan changed : RepeatOrderPlan}
      {row new : RepeatPlanRow} {identity : Identity} {source order : Order}
      {validation : RepeatOrderValidation} {own : Rows Row}
      {world : World Instant Row}
      (hcall : call.operation = .createNext planId)
      (happlied : Applied uuid5 evolution call (fun key =>
        key = Key.repeatOrderPlan planId ∨
          Orders.ofOrder call.service.newOrderId key) own world)
      (hactive : plan.status = .active)
      (howner : plan.ownerActorId = some call.caller.actor.actorId)
      (hvalidation : call.service.revalidate identity source plan =
        .ok validation)
      (happroved : validation.approved = true)
      (horder : order = ⟨call.service.newOrderId, source.identityId,
        source.sourceActionId, validation.resolvedLines,
        some call.caller.actor.actorId, .draft⟩)
      (hfresh : world.rows.get (Key.orderHeader call.service.newOrderId) = none)
      (hheader : Rows.get (own ++ world.rows)
        (Key.orderHeader call.service.newOrderId) =
          some (OrderHeader.ofOrder order))
      (hchanged : plan.attachPendingOrder call.service.newOrderId = .ok changed)
      (hsaved : PlanSaved planId plan changed row new world.rows
        (own ++ world.rows)) :
      Effect (.order order) own world
  | orderConfirmed {planId orderId : String} {plan changed : RepeatOrderPlan}
      {row new : RepeatPlanRow} {header : OrderHeader} {identity : Identity}
      {order : Order} {validation : RepeatOrderValidation}
      {entry : EconomicEntry} {rows : List OrderLineRow} {own : Rows Row}
      {world : World Instant Row}
      (hcall : call.operation = .confirm planId orderId)
      (happlied : Applied uuid5 evolution call (fun key =>
        key = Key.repeatOrderPlan planId ∨ Orders.ofOrder orderId key ∨
          key = Key.economicEntry entry.entryId) own world)
      (howner : plan.ownerActorId = some call.caller.actor.actorId)
      (hpending : plan.pendingOrderId = some orderId)
      (horder : order.orderId = orderId)
      (hread : ∃ earlier, evolution.rel earlier world ∧
        OrderLineRow.readLines (earlier.rows.get (Key.orderLines orderId)) =
          .ok order.lines)
      (hvalidation : call.service.revalidate identity order plan =
        .ok validation)
      (hlines : validation.resolvedLines = order.lines)
      (hvalid : ({ order with status := .confirmed } : Order).new =
        .ok { order with status := .confirmed })
      (hstored : world.rows.get (Key.orderHeader orderId) = some header)
      (howned : header.ownerActorId = order.ownerActorId)
      (hheader : Rows.get (own ++ world.rows) (Key.orderHeader orderId) =
        some (OrderHeader.ofOrder { order with status := .confirmed }))
      (hrows : order.lines.mapM OrderLineRow.ofLine = .ok rows)
      (hwritten : (Rows.get (own ++ world.rows) (Key.orderLines orderId)).getD [] =
        rows)
      (hentry : entry.entryId = s!"economics:repeat-order:{orderId}:revenue" ∧
        entry.entityRef = orderId ∧ entry.kind = .revenue ∧
        Order.totalOf order.lines = .ok entry.amount)
      (hunpaid : world.rows.get (Key.economicEntry entry.entryId) = none)
      (hpaid : Rows.get (own ++ world.rows) (Key.economicEntry entry.entryId) =
        some entry)
      (hchanged : plan.markOrderConfirmed orderId = .ok changed)
      (hsaved : PlanSaved planId plan changed row new world.rows
        (own ++ world.rows)) :
      Effect (.order { order with status := .confirmed }) own world
  | planMutated {mutation : PlanMutation} {planId : String}
      {plan changed saved : RepeatOrderPlan} {row new : RepeatPlanRow}
      {own : Rows Row} {world : World Instant Row}
      (hcall : call.operation = .mutate mutation planId)
      (happlied : Applied uuid5 evolution call
        (· = Key.repeatOrderPlan planId) own world)
      (howner : plan.ownerActorId = some call.caller.actor.actorId)
      (hchanged : mutation.transition plan = .ok changed)
      (hsaved : PlanSaved planId plan changed row new world.rows
        (own ++ world.rows))
      (hanswer : new.toPlan planId = .ok saved) :
      Effect (.plan saved) own world

end Effects

section Walks

variable {uuid5 : String → String} {call : RepeatCall}

theorem atCommit_reservedPlan {resultRef : String}
    (hkind : call.operation.returnsPlan = true)
    (hrecorded : Recorded call.caller world resultRef) :
    atCommit evolution (reservedPlan resultRef)
      (fun plan own world => Effect uuid5 evolution call (.plan plan) own world)
      [] world := by
  rw [reservedPlan, atCommit_bind]
  refine RepeatOrders.atCommit_get fun earlier result hearlier hread => ?_
  simp only [atCommit_lift, found_eq_ok]
  rintro plan rfl
  exact .planReplayed hkind ⟨resultRef, hrecorded, earlier, hearlier.evolved, hread⟩

theorem atCommit_reservedOrder {resultRef message : String}
    (hkind : call.operation.returnsPlan = false)
    (hrecorded : Recorded call.caller world resultRef) :
    atCommit evolution (reservedOrder resultRef message)
      (fun order own world => Effect uuid5 evolution call (.order order) own world)
      [] world := by
  rw [reservedOrder, atCommit_bind]
  refine Orders.atCommit_get fun first second result hfirst hsecond hread => ?_
  simp only [atCommit_lift, found_eq_ok]
  rintro order rfl
  exact .orderReplayed hkind ⟨resultRef, hrecorded, first, second, hfirst.evolved,
    hsecond.evolved, hread⟩

theorem business_plan {planId : String} (key : Key)
    (hkey : key = Key.repeatOrderPlan planId) : business key := by
  subst hkey
  trivial

theorem atCommit_applyMutation (hrespects : Respects evolution)
    {mutation : PlanMutation} {planId : String}
    (hcall : call.operation = .mutate mutation planId)
    {record : IdempotencyRecord} {reservation : Rows Row}
    {earlier : World Instant Row} {plan : RepeatOrderPlan}
    (hunseen : Unseen evolution call.caller world)
    (hallowed : call.service.authorizer.isAllowed call.caller.actor.actorId
      .orderCreate = true)
    (howner : plan.ownerActorId = some call.caller.actor.actorId)
    (hearlier : evolution.rel earlier world)
    (hread : RepeatOrders.read earlier.rows planId = .ok (some plan))
    (hreservation : Reservation call.caller planId record reservation world)
    (href : record.resultRef = planId) :
    atCommit evolution
      (applyMutation uuid5 call.caller mutation.transition mutation.action planId
        plan)
      (fun plan own world => Effect uuid5 evolution call (.plan plan) own world)
      reservation world := by
  simp only [applyMutation, atCommit_bind, atCommit_lift]
  intro changed hchanged
  obtain ⟨_, _, hplan⟩ := RepeatOrders.read_eq_some hread
  obtain rfl : changed.planId = planId :=
    (PlanMutation.planId_of_transition hchanged).trans
      (RepeatOrders.shows_of_toPlan hplan).1
  refine RepeatOrders.atCommit_save
    fun row new current saved hrow hcurrent hrevision hnew hsaved => ?_
  rw [hreservation.get_business (by simp)] at hrow
  refine atCommit_journal fun journal hjournal => ?_
  have haction : call.operation.action = mutation.action := by
    rw [hcall, RepeatOperation.action]
  have hresult : call.resultRef = changed.planId := by
    rw [RepeatCall.resultRef, hcall]
  have happlied : Applied uuid5 evolution call
      (· = Key.repeatOrderPlan changed.planId)
      (journal ++ ([⟨Key.repeatOrderPlan changed.planId, some new⟩,
        ⟨Key.repeatOrderPlan changed.planId, some row⟩] ++ reservation)) world :=
    .of haction hresult hunseen hallowed hreservation href (by simp)
      business_plan hjournal
  refine .planMutated hcall happlied howner hchanged
    (hrespects.saved hearlier hread hrow hcurrent hrevision hnew ?_) hsaved
  rw [List.append_assoc, hjournal.get_business (by simp)]
  simp

theorem atCommit_mutatePlan (hrespects : Respects evolution)
    {mutation : PlanMutation} {planId : String}
    (hcall : call.operation = .mutate mutation planId) :
    atCommit evolution
      (mutatePlan uuid5 call.service call.caller mutation.transition
        mutation.action planId)
      (fun plan own world => Effect uuid5 evolution call (.plan plan) own world)
      [] world := by
  rw [mutatePlan, atCommit_bind]
  refine atCommit_existingPlan hrespects (fun hunseen => ?_)
    fun plan hreplayed => .planReplayed (by rw [hcall]; rfl) hreplayed
  simp only [atCommit_bind, atCommit_lift]
  refine atCommit_requirePlan fun earlier plan hearlier hread _ howner => ?_
  refine atCommit_verifiedIdentity fun identity _ hauthorized => ?_
  refine atCommit_reserve hrespects fun record reservation hreservation => ?_
  by_cases href : record.resultRef = planId
  · rw [if_neg (not_not.mpr href)]
    exact atCommit_applyMutation hrespects hcall hunseen
      (allowed_of_authorize hauthorized) (owner_of_requireOwner howner)
      hearlier.evolved hread hreservation href
  · rw [if_pos href]
    obtain ⟨rfl, hrecorded⟩ := hreservation.recorded href
    exact atCommit_reservedPlan (by rw [hcall]; rfl) hrecorded

theorem atCommit_createPlan (hrespects : Respects evolution)
    {planId sourceOrderId : String} {cadence : RepeatCadence}
    {context : RepeatOrderContext}
    (hcall : call.operation = .createPlan planId sourceOrderId cadence context) :
    atCommit evolution
      (createPlan uuid5 call.service call.caller planId sourceOrderId cadence
        context)
      (fun plan own world => Effect uuid5 evolution call (.plan plan) own world)
      [] world := by
  rw [createPlan, atCommit_bind]
  refine atCommit_existingPlan hrespects (fun hunseen => ?_)
    fun plan hreplayed => .planReplayed (by rw [hcall]; rfl) hreplayed
  rw [atCommit_bind]
  refine Orders.atCommit_get fun _ _ source _ _ _ => ?_
  cases source with
  | none => trivial
  | some source =>
      simp only [atCommit_bind, atCommit_lift]
      intro _ howner _ _
      refine atCommit_verifiedIdentity fun identity _ hauthorized => ?_
      refine atCommit_reserve hrespects fun record reservation hreservation => ?_
      by_cases href : record.resultRef = planId
      · rw [if_neg (not_not.mpr href)]
        simp only [applyCreatePlan, atCommit_bind, atCommit_lift]
        intro plan hplan
        obtain rfl := RepeatOrderPlan.new_eq_ok hplan
        refine RepeatOrders.atCommit_add fun row hrow hfresh => ?_
        rw [hreservation.get_business (by simp)] at hfresh
        refine atCommit_journal fun journal hjournal => ?_
        have haction : call.operation.action = "repeat_order.plan_created" := by
          rw [hcall, RepeatOperation.action]
        have hresult : call.resultRef = planId := by
          rw [RepeatCall.resultRef, hcall]
        have happlied : Applied uuid5 evolution call
            (· = Key.repeatOrderPlan planId)
            (journal ++ ([⟨Key.repeatOrderPlan planId, some row⟩] ++
              reservation)) world :=
          .of haction hresult hunseen (allowed_of_authorize hauthorized)
            hreservation href (by simp) business_plan hjournal
        refine .planCreated hcall happlied hfresh rfl rfl rfl hrow ?_
        rw [List.append_assoc, hjournal.get_business (by simp)]
        simp
      · rw [if_pos href]
        obtain ⟨rfl, hrecorded⟩ := hreservation.recorded href
        exact atCommit_reservedPlan (by rw [hcall]; rfl) hrecorded

theorem business_ofOrder {orderId : String} {key : Key}
    (hkey : Orders.ofOrder orderId key) : business key := by
  cases key with
  | idempotencyKey _ => exact hkey
  | auditLog _ => exact hkey
  | outboxEvent _ => exact hkey
  | _ => trivial

theorem atCommit_applyCreateNext (hrespects : Respects evolution)
    {planId : String} (hcall : call.operation = .createNext planId)
    {record : IdempotencyRecord} {reservation : Rows Row}
    {earlier : World Instant Row} {plan : RepeatOrderPlan} {source : Order}
    {identity : Identity} {validation : RepeatOrderValidation}
    (hunseen : Unseen evolution call.caller world)
    (hallowed : call.service.authorizer.isAllowed call.caller.actor.actorId
      .orderCreate = true)
    (howner : plan.ownerActorId = some call.caller.actor.actorId)
    (hearlier : evolution.rel earlier world)
    (hread : RepeatOrders.read earlier.rows planId = .ok (some plan))
    (hactive : plan.status = .active)
    (hvalidation : call.service.revalidate identity source plan = .ok validation)
    (happroved : validation.approved = true)
    (hreservation : Reservation call.caller call.service.newOrderId record
      reservation world)
    (href : record.resultRef = call.service.newOrderId) :
    atCommit evolution
      (applyCreateNext uuid5 call.service call.caller plan source
        validation.resolvedLines)
      (fun order own world =>
        Effect uuid5 evolution call (.order order) own world)
      reservation world := by
  simp only [applyCreateNext, atCommit_bind, atCommit_lift]
  intro order horder
  obtain rfl := Order.new_eq_ok horder
  refine Orders.atCommit_add fun written hfresh hwritten => ?_
  rw [hreservation.get_business (by simp)] at hfresh
  intro attached hattached
  obtain ⟨_, _, _, rfl⟩ := RepeatOrderPlan.attachPendingOrder_eq_ok.mp hattached
  obtain ⟨_, _, hplan⟩ := RepeatOrders.read_eq_some hread
  obtain rfl : plan.planId = planId := (RepeatOrders.shows_of_toPlan hplan).1
  refine RepeatOrders.atCommit_save
    fun row new current saved hrow hcurrent hrevision hnew hsaved => ?_
  rw [List.append_assoc, hwritten.get_other (by simp [Orders.ofOrder]),
    hreservation.get_business (by simp)] at hrow
  refine atCommit_journal fun journal hjournal => ?_
  have haction : call.operation.action = "repeat_order.created" := by
    rw [hcall, RepeatOperation.action]
  have hresult : call.resultRef = call.service.newOrderId := by
    rw [RepeatCall.resultRef, hcall]
  have happlied : Applied uuid5 evolution call
      (fun key => key = Key.repeatOrderPlan plan.planId ∨
        Orders.ofOrder call.service.newOrderId key)
      (journal ++ ([⟨Key.repeatOrderPlan plan.planId, some new⟩,
        ⟨Key.repeatOrderPlan plan.planId, some row⟩] ++ written ++ reservation))
      world := by
    refine .of haction hresult hunseen hallowed hreservation href ?_ ?_ ?_
    · simpa using hwritten.touched.mono fun _ => Or.inr
    · rintro key (hkey | hkey)
      · exact business_plan key hkey
      · exact business_ofOrder hkey
    · simpa using hjournal
  refine .orderCreated hcall happlied hactive howner hvalidation happroved
    rfl hfresh ?_ hattached
    (hrespects.saved hearlier hread hrow hcurrent hrevision hnew ?_)
  · rw [List.append_assoc, hjournal.get_business (by simp)]
    simpa using hwritten.header
  · rw [List.append_assoc, hjournal.get_business (by simp)]
    simp

theorem atCommit_createNextRepeatOrder (hrespects : Respects evolution)
    {planId : String} (hcall : call.operation = .createNext planId) :
    atCommit evolution
      (createNextRepeatOrder uuid5 call.service call.caller planId)
      (fun order own world =>
        Effect uuid5 evolution call (.order order) own world)
      [] world := by
  rw [createNextRepeatOrder, atCommit_bind]
  refine atCommit_existingOrder hrespects (fun hunseen => ?_)
    fun order hreplayed => .orderReplayed (by rw [hcall]; rfl) hreplayed
  simp only [atCommit_bind, atCommit_lift, require_eq_ok, beq_iff_eq,
    Option.isNone_iff_eq_none, found_eq_ok]
  refine atCommit_requirePlan
    fun earlier plan hearlier hread _ howner _ hactive _ _ => ?_
  refine Orders.atCommit_get fun _ _ result _ _ _ source _ _ _ => ?_
  refine atCommit_verifiedIdentity
    fun identity validation hvalidation _ hauthorized _ happroved => ?_
  refine atCommit_reserve hrespects fun record reservation hreservation => ?_
  by_cases href : record.resultRef = call.service.newOrderId
  · rw [if_neg (not_not.mpr href)]
    exact atCommit_applyCreateNext hrespects hcall hunseen
      (allowed_of_authorize hauthorized) (owner_of_requireOwner howner)
      hearlier.evolved hread hactive hvalidation
      (require_eq_ok.mp happroved) hreservation href
  · rw [if_pos href]
    obtain ⟨rfl, hrecorded⟩ := hreservation.recorded href
    exact atCommit_reservedOrder (by rw [hcall]; rfl) hrecorded

theorem atCommit_applyConfirm (hrespects : Respects evolution)
    {planId orderId : String} (hcall : call.operation = .confirm planId orderId)
    {record : IdempotencyRecord} {reservation : Rows Row}
    {earlier : World Instant Row} {plan : RepeatOrderPlan} {order : Order}
    {identity : Identity} {validation : RepeatOrderValidation}
    (hunseen : Unseen evolution call.caller world)
    (hallowed : call.service.authorizer.isAllowed call.caller.actor.actorId
      .orderCreate = true)
    (howner : plan.ownerActorId = some call.caller.actor.actorId)
    (hearlier : evolution.rel earlier world)
    (hread : RepeatOrders.read earlier.rows planId = .ok (some plan))
    (hpending : plan.pendingOrderId = some orderId)
    (horder : order.orderId = orderId)
    (hseen : ∃ earlier, evolution.rel earlier world ∧
      OrderLineRow.readLines (earlier.rows.get (Key.orderLines orderId)) =
        .ok order.lines)
    (hvalidation : call.service.revalidate identity order plan = .ok validation)
    (hlines : validation.resolvedLines = order.lines)
    (hreservation : Reservation call.caller orderId record reservation world)
    (href : record.resultRef = orderId) :
    atCommit evolution
      (applyConfirm uuid5 call.caller planId orderId plan order)
      (fun order own world =>
        Effect uuid5 evolution call (.order order) own world)
      reservation world := by
  subst horder
  simp only [applyConfirm, atCommit_bind, atCommit_lift]
  intro confirmed hconfirmed
  obtain ⟨_, hvalid, rfl⟩ := Order.moveTo_eq_ok hconfirmed
  refine Orders.atCommit_save
    fun written header _ lines current hheader howned _ _ hcurrent _ hpermits hwritten => ?_
  rw [hreservation.get_business (by simp)] at hheader
  intro revenue hrevenue
  rw [clock, atCommit_observe]
  intro _ _ entry hentry
  have hfields : entry.entryId =
        s!"economics:repeat-order:{order.orderId}:revenue" ∧
      entry.entityRef = order.orderId ∧ entry.kind = .revenue ∧
      Order.totalOf order.lines = .ok entry.amount := by
    rw [EconomicEntry.new_eq_ok hentry]
    exact ⟨rfl, rfl, rfl, hrevenue⟩
  refine Economics.atCommit_add fun hunpaid changed hchanged => ?_
  rw [List.append_assoc, hwritten.get_other (by simp [Orders.ofOrder]),
    hreservation.get_business (by simp)] at hunpaid
  obtain ⟨_, scheduledFor, _, rfl⟩ :=
    RepeatOrderPlan.markOrderConfirmed_eq_ok.mp hchanged
  obtain ⟨_, _, hplan⟩ := RepeatOrders.read_eq_some hread
  obtain rfl : plan.planId = planId := (RepeatOrders.shows_of_toPlan hplan).1
  refine RepeatOrders.atCommit_save
    fun row new saved _ hrow hsaved hrevision hnew _ => ?_
  rw [List.cons_append, Rows.get_cons_ne (by simp), List.append_assoc,
    hwritten.get_other (by simp [Orders.ofOrder]),
    hreservation.get_business (by simp)] at hrow
  refine atCommit_journal fun journal hjournal => ?_
  have haction : call.operation.action = "repeat_order.confirmed" := by
    rw [hcall, RepeatOperation.action]
  have hresult : call.resultRef = order.orderId := by
    rw [RepeatCall.resultRef, hcall]
  obtain ⟨rows, hrows, hstoredLines⟩ := hwritten.lines
  have happlied : Applied uuid5 evolution call
      (fun key => key = Key.repeatOrderPlan plan.planId ∨
        Orders.ofOrder order.orderId key ∨ key = Key.economicEntry entry.entryId)
      (journal ++ ([⟨Key.repeatOrderPlan plan.planId, some new⟩,
        ⟨Key.repeatOrderPlan plan.planId, some row⟩,
        ⟨Key.economicEntry entry.entryId, some entry⟩] ++ written ++
          reservation)) world := by
    refine .of haction hresult hunseen hallowed hreservation href ?_ ?_ ?_
    · simpa using hwritten.touched.mono fun _ hkey => Or.inr (Or.inl hkey)
    · rintro key (hkey | hkey | rfl)
      · exact business_plan key hkey
      · exact business_ofOrder hkey
      · trivial
    · simpa using hjournal
  refine .orderConfirmed hcall happlied howner hpending rfl hseen hvalidation
    hlines hvalid hheader howned ?_ hrows ?_ hfields hunpaid ?_ hchanged
    (hrespects.saved hearlier hread hrow hsaved hrevision hnew ?_)
  · rw [List.append_assoc, hjournal.get_business (by simp)]
    simpa using hwritten.header
  · rw [List.append_assoc, hjournal.get_business (by simp)]
    simpa using hstoredLines
  · rw [List.append_assoc, hjournal.get_business (by simp)]
    simp
  · rw [List.append_assoc, hjournal.get_business (by simp)]
    simp

theorem atCommit_confirmRepeatOrder (hrespects : Respects evolution)
    {planId orderId : String} (hcall : call.operation = .confirm planId orderId) :
    atCommit evolution
      (confirmRepeatOrder uuid5 call.service call.caller planId orderId)
      (fun order own world =>
        Effect uuid5 evolution call (.order order) own world)
      [] world := by
  rw [confirmRepeatOrder, atCommit_bind]
  refine atCommit_existingOrder hrespects (fun hunseen => ?_)
    fun order hreplayed => .orderReplayed (by rw [hcall]; rfl) hreplayed
  simp only [atCommit_bind, atCommit_lift, require_eq_ok, beq_iff_eq,
    found_eq_ok]
  refine atCommit_requirePlan
    fun earlier plan hearlier hread _ howner _ hpending => ?_
  refine Orders.atCommit_get fun first second result hfirst hsecond hfound
    order horder _ hstatus => ?_
  subst horder
  obtain ⟨header, _, hseen, hshape⟩ := Orders.read_eq_some hfound
  refine atCommit_verifiedIdentity
    fun identity validation hvalidation _ hauthorized _ happroved _ hlines => ?_
  refine atCommit_reserve hrespects fun record reservation hreservation => ?_
  by_cases href : record.resultRef = orderId
  · rw [if_neg (not_not.mpr href)]
    exact atCommit_applyConfirm hrespects hcall hunseen
      (allowed_of_authorize hauthorized) (owner_of_requireOwner howner)
      hearlier.evolved hread hpending (by rw [hshape])
      ⟨second, hsecond.evolved, hseen⟩ hvalidation hlines hreservation href
  · rw [if_pos href]
    obtain ⟨rfl, hrecorded⟩ := hreservation.recorded href
    exact atCommit_reservedOrder (by rw [hcall]; rfl) hrecorded

/-- Whatever the other calls do in between, a call that commits has either
answered from a stored result or applied its operation. -/
theorem atCommit_program (hrespects : Respects evolution) :
    atCommit evolution (call.program uuid5) (Effect uuid5 evolution call) []
      world := by
  unfold RepeatCall.program
  cases hcall : call.operation with
  | createPlan planId sourceOrderId cadence context =>
      rw [atCommit_bind]
      exact atCommit_createPlan hrespects hcall
  | createNext planId =>
      rw [atCommit_bind]
      exact atCommit_createNextRepeatOrder hrespects hcall
  | confirm planId orderId =>
      rw [atCommit_bind]
      exact atCommit_confirmRepeatOrder hrespects hcall
  | mutate mutation planId =>
      rw [atCommit_bind, RepeatCall.mutation_eq]
      exact atCommit_mutatePlan hrespects hcall

end Walks

end RepeatOrderService

end ShemaPlatform
