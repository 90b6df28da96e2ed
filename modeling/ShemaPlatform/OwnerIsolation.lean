/-
Whose resources a call may answer with.  Every workflow looks up a stored
result before it looks at the caller, so the answer is the caller's own exactly
when the resource recorded under the caller's key is.
-/
import ShemaPlatform.CriticalWorkflows
import ShemaPlatform.RepeatOrderConsistency

namespace ShemaPlatform

open Calendar ReadCommitted ReadCommitted.Prog Recurrence
open RepeatOrderService

/-- The owner column of the tables that have one. -/
def ownerOf (rows : Rows Row) : Key → Option (Option String)
  | .repeatOrderPlan planId =>
      (rows.get (Key.repeatOrderPlan planId)).map RepeatPlanRow.ownerActorId
  | .orderHeader orderId =>
      (rows.get (Key.orderHeader orderId)).map OrderHeader.ownerActorId
  | .commercialAction actionId =>
      (rows.get (Key.commercialAction actionId)).map CommercialAction.ownerActorId
  | _ => none

theorem ownerOf_congr {before after : Rows Row} {key : Key}
    (h : after.get key = before.get key) : ownerOf after key = ownerOf before key := by
  cases key <;> simp [ownerOf, h]

/-- Rows that have an owner keep it. -/
def OwnersKept (before after : Rows Row) : Prop :=
  ∀ key owner, ownerOf before key = some owner → ownerOf after key = some owner

/-- The open order of a plan has the owner of the plan. -/
def PendingOwned (rows : Rows Row) : Prop :=
  ∀ planId orderId owner, (view rows).pending planId = some orderId →
    ownerOf rows (Key.repeatOrderPlan planId) = some owner →
    ownerOf rows (Key.orderHeader orderId) = some owner

/-- Calls of all workflows, each with the permissions granted at that time. -/
inductive PlatformCall where
  | repeatOrder (call : RepeatCall)
  | commercialAction (authorizer : RBACAuthorizer) (caller : Caller)
      (request : CommercialActionCreate)
  | order (authorizer : RBACAuthorizer) (caller : Caller) (request : OrderCreate)

inductive PlatformAnswer where
  | plan (plan : RepeatOrderPlan)
  | order (order : Order)
  | commercialAction (action : CommercialAction)

def PlatformAnswer.ownerActorId : PlatformAnswer → Option String
  | .plan stored => stored.ownerActorId
  | .order stored => stored.ownerActorId
  | .commercialAction stored => stored.ownerActorId

def RepeatAnswer.toPlatform : RepeatAnswer → PlatformAnswer
  | .plan stored => .plan stored
  | .order stored => .order stored

namespace PlatformCall

def caller : PlatformCall → Caller
  | .repeatOrder call => call.caller
  | .commercialAction _ caller _ => caller
  | .order _ caller _ => caller

/-- Whether the caller holds the permission the workflow requires. -/
def permitted : PlatformCall → Bool
  | .repeatOrder call =>
      call.service.authorizer.isAllowed call.caller.actor.actorId .orderCreate
  | .commercialAction authorizer caller _ =>
      authorizer.isAllowed caller.actor.actorId .commercialActionCreate
  | .order authorizer caller _ =>
      authorizer.isAllowed caller.actor.actorId .orderCreate

/-- The row a recorded result of the call refers to. -/
def resource (call : PlatformCall) (resultRef : String) : Key :=
  match call with
  | .repeatOrder call =>
      if call.operation.returnsPlan then .repeatOrderPlan resultRef
      else .orderHeader resultRef
  | .commercialAction .. => .commercialAction resultRef
  | .order .. => .orderHeader resultRef

def program (uuid5 : String → String) : PlatformCall → Tx Instant PlatformAnswer
  | .repeatOrder call => do
      let answer ← call.program uuid5
      return answer.toPlatform
  | .commercialAction authorizer caller request => do
      let action ← request.execute uuid5 authorizer caller
      return .commercialAction action
  | .order authorizer caller request => do
      let order ← request.execute uuid5 authorizer caller
      return .order order

/-- The answer belongs to the caller, who held the permission. -/
def Isolated (call : PlatformCall) (answer : PlatformAnswer) : Prop :=
  answer.ownerActorId = some call.caller.actor.actorId ∧ call.permitted = true

/-- Any resource recorded under the caller's key belongs to the caller, who
holds the permission. -/
def Cleared (call : PlatformCall) (rows : Rows Row) : Prop :=
  ∀ (record : IdempotencyRecord) owner,
    rows.get (Key.idempotencyKey call.caller.idempotencyKey) = some record →
    ownerOf rows (call.resource record.resultRef) = some owner →
    owner = some call.caller.actor.actorId ∧ call.permitted = true

end PlatformCall

namespace OwnerIsolation

/-- How the workflows change the database for each other: keys, plans and
owners stay. -/
def evolution : Evolution Instant Row where
  rel before after := RepeatOrderService.evolution.rel before after ∧
    OwnersKept before.rows after.rows ∧
    (PendingOwned before.rows → PendingOwned after.rows)
  refl world := ⟨RepeatOrderService.evolution.refl world, fun _ _ h => h, id⟩
  trans hab hbc := ⟨RepeatOrderService.evolution.trans hab.1 hbc.1,
    fun key owner h => hbc.2.1 key owner (hab.2.1 key owner h),
    fun h => hbc.2.2 (hab.2.2 h)⟩

theorem respects_evolution : Respects evolution :=
  ⟨fun hrel => hrel.1.1 _ _, fun hrel => hrel.1.2 _ _⟩

/-- What a commit establishes about its call. -/
structure Secured (call : PlatformCall) (answer : PlatformAnswer)
    (own : Rows Row) (world : World Instant Row) : Prop where
  rel : evolution.rel world (world.commit own)
  isolated : call.Isolated answer ↔ call.Cleared world.rows

section Secured

variable {call : PlatformCall} {answer : PlatformAnswer} {own : Rows Row}
  {world : World Instant Row}

/-- A replay is the caller's if the recorded resource is. -/
theorem Secured.replayed {resultRef : String}
    (hrecorded : Recorded call.caller world resultRef)
    (howner : ownerOf world.rows (call.resource resultRef) =
      some answer.ownerActorId) : Secured call answer [] world := by
  obtain ⟨record, hrecord, _, rfl⟩ := hrecorded
  refine ⟨evolution.refl world, fun hisolated => ?_,
    fun hcleared => hcleared record _ hrecord howner⟩
  intro found owner hfound howner'
  obtain rfl := Option.some.inj (hrecord.symm.trans hfound)
  obtain rfl := Option.some.inj (howner.symm.trans howner')
  exact hisolated

/-- An applied operation answers with the caller's own, and so does whatever is
recorded for it. -/
theorem Secured.applied (hrel : evolution.rel world (world.commit own))
    (hisolated : call.Isolated answer)
    (hrecorded : ∀ (record : IdempotencyRecord) owner, world.rows.get
        (Key.idempotencyKey call.caller.idempotencyKey) = some record →
      ownerOf world.rows (call.resource record.resultRef) = some owner →
      owner = some call.caller.actor.actorId) :
    Secured call answer own world :=
  ⟨hrel, fun _ record owner hrecord howner =>
    ⟨hrecorded record owner hrecord howner, hisolated.2⟩, fun _ => hisolated⟩

end Secured

section Repeat

variable {uuid5 : String → String} {base : Evolution Instant Row}
  {call : RepeatCall} {answer : RepeatAnswer} {own : Rows Row}
  {world : World Instant Row} {planId orderId : String}

/-- A save keeps the owner of the plan. -/
theorem saved_owner {plan changed : RepeatOrderPlan} {row new : RepeatPlanRow}
    {before after : Rows Row}
    (h : PlanSaved planId plan changed row new before after) :
    ownerOf before (Key.repeatOrderPlan planId) = some plan.ownerActorId ∧
      ownerOf after (Key.repeatOrderPlan planId) = some plan.ownerActorId := by
  have hold := (RepeatOrders.shows_of_toPlan h.shown).2.ownerActorId
  have hnew := (RepeatOrders.shows_of_updated h.changed).ownerActorId
  rw [ownerOf, ownerOf, h.before, h.after, Option.map_some, Option.map_some, hold,
    ← hnew]
  exact ⟨rfl, rfl⟩

/-- A confirmation answers with the stored order, under its stored owner. -/
theorem confirmed_owner (h : Effect uuid5 base call answer own world)
    (hown : own ≠ []) (hop : call.operation = .confirm planId orderId) :
    ∃ owner, answer.toPlatform.ownerActorId = owner ∧
      ownerOf world.rows (Key.orderHeader orderId) = some owner ∧
      ownerOf (own ++ world.rows) (Key.orderHeader orderId) = some owner ∧
      ownerOf world.rows (Key.repeatOrderPlan planId) =
        some (some call.caller.actor.actorId) := by
  cases h with
  | planReplayed hkind hreplayed => exact absurd rfl hown
  | orderReplayed hkind hreplayed => exact absurd rfl hown
  | planCreated hcall => simp [hop] at hcall
  | planMutated hcall => simp [hop] at hcall
  | orderCreated hcall => simp [hop] at hcall
  | @orderConfirmed planId' orderId' plan changed row new header identity order
      validation entry lineRows own world hcall _ howner _ _ _ _ _ _ hstored howned
      hheader _ _ _ _ _ _ hsaved =>
      rw [hop] at hcall
      obtain ⟨rfl, rfl⟩ := RepeatOperation.confirm.inj hcall
      refine ⟨order.ownerActorId, rfl, ?_, ?_, ?_⟩
      · rw [ownerOf, hstored, ← howned]
        rfl
      · rw [ownerOf, hheader]
        rfl
      · rw [(saved_owner hsaved).1, howner]

/-- A created order and its plan belong to the caller. -/
theorem created_owner (h : Effect uuid5 base call answer own world)
    (hown : own ≠ []) (hop : call.operation = .createNext planId) :
    answer.toPlatform.ownerActorId = some call.caller.actor.actorId ∧
      ownerOf world.rows (Key.orderHeader call.service.newOrderId) = none ∧
      ownerOf (own ++ world.rows) (Key.orderHeader call.service.newOrderId) =
        some (some call.caller.actor.actorId) ∧
      ownerOf world.rows (Key.repeatOrderPlan planId) =
        some (some call.caller.actor.actorId) := by
  cases h with
  | planReplayed hkind hreplayed => exact absurd rfl hown
  | orderReplayed hkind hreplayed => exact absurd rfl hown
  | planCreated hcall => simp [hop] at hcall
  | planMutated hcall => simp [hop] at hcall
  | orderConfirmed hcall => simp [hop] at hcall
  | orderCreated hcall _ _ howner _ _ horder hfresh hheader _ hsaved =>
      rw [hop] at hcall
      obtain rfl := RepeatOperation.createNext.inj hcall
      refine ⟨?_, ?_, ?_, ?_⟩
      · rw [horder]
        rfl
      · rw [ownerOf, hfresh]
        rfl
      · rw [ownerOf, hheader, horder]
        rfl
      · rw [(saved_owner hsaved).1, howner]

theorem ownersKept (h : Effect uuid5 base call answer own world) :
    OwnersKept world.rows (own ++ world.rows) := by
  intro key owner howner
  by_cases hown : own = []
  · rw [hown]
    exact howner
  cases key with
  | repeatOrderPlan other =>
      obtain ⟨hothers, hplan⟩ := h.revised hown
      by_cases heq : other = call.operation.planId
      · subst heq
        rcases hplan with ⟨hnone, _⟩ | ⟨_, _, _, _, _, hsaved, _⟩
        · simp [ownerOf, hnone] at howner
        · rw [(saved_owner hsaved).2, ← (saved_owner hsaved).1]
          exact howner
      · rw [ownerOf_congr (hothers other heq)]
        exact howner
  | orderHeader other =>
      rcases h.order_cases other with hkept | ⟨hfresh, _⟩ | ⟨planId, hop, _⟩
      · rw [ownerOf_congr hkept.header]
        exact howner
      · simp [ownerOf, hfresh] at howner
      · obtain ⟨found, _, hbefore, hafter, _⟩ := confirmed_owner h hown hop
        rw [hafter, ← hbefore]
        exact howner
  | commercialAction other =>
      rw [ownerOf_congr (h.commercialAction_kept other)]
      exact howner
  | _ => simp [ownerOf] at howner

theorem pendingOwned_kept (h : Effect uuid5 base call answer own world)
    (hpending : PendingOwned world.rows) : PendingOwned (own ++ world.rows) := by
  by_cases hown : own = []
  · rw [hown]
    exact hpending
  intro planId orderId owner hopen howner
  rcases (h.board_step hown).pending_cases hopen with hbefore | ⟨_, due, hentry⟩
  · obtain ⟨row, hrow, _⟩ := Option.bind_eq_some_iff.mp hbefore
    have hold : ownerOf world.rows (Key.repeatOrderPlan planId) =
        some row.ownerActorId := by
      rw [ownerOf, hrow]
      rfl
    have hsame := ownersKept h _ _ hold
    rw [howner] at hsame
    obtain rfl := Option.some.inj hsame
    exact ownersKept h _ _ (hpending planId orderId _ hbefore hold)
  · obtain ⟨hop, rfl⟩ := Application.creates_of_entry hentry
    obtain ⟨_, _, hheader, hplan⟩ := created_owner h hown hop
    have hsame := ownersKept h _ _ hplan
    rw [howner] at hsame
    rw [hsame]
    exact hheader

/-- The record an applied call finds or leaves is for its own result. -/
theorem recorded_ref {touches : Key → Prop}
    (h : Applied uuid5 base call touches own world) {record : IdempotencyRecord}
    (hrecord : world.rows.get (Key.idempotencyKey call.caller.idempotencyKey) =
      some record) : record.resultRef = call.resultRef := by
  obtain ⟨reserved, _, _, href, hsame⟩ := h.reserved
  rw [hsame record hrecord, href]

theorem secured_applied {touches : Key → Prop}
    (h : Effect uuid5 evolution call answer own world)
    (happlied : Applied uuid5 evolution call touches own world)
    (howner : answer.toPlatform.ownerActorId = some call.caller.actor.actorId)
    (hresource : ∀ owner, ownerOf world.rows
        (PlatformCall.resource (.repeatOrder call) call.resultRef) = some owner →
      owner = some call.caller.actor.actorId) :
    Secured (.repeatOrder call) answer.toPlatform own world := by
  apply @Secured.applied (.repeatOrder call) _ own world
    ⟨h.rel, ownersKept h, pendingOwned_kept h⟩
    ⟨howner, happlied.allowed⟩
  intro record owner hrecord hfound
  rw [recorded_ref happlied hrecord] at hfound
  exact hresource owner hfound

theorem secured_repeatOrder (h : Effect uuid5 evolution call answer own world)
    (hpending : PendingOwned world.rows) :
    Secured (.repeatOrder call) answer.toPlatform own world := by
  have heffect := h
  cases h with
  | planReplayed hkind hreplayed =>
      obtain ⟨resultRef, hrecorded, earlier, hearlier, hread⟩ := hreplayed
      apply @Secured.replayed (.repeatOrder call) _ _ resultRef hrecorded
      rw [PlatformCall.resource, if_pos hkind]
      apply hearlier.2.1
      obtain ⟨row, hrow, hplan⟩ := RepeatOrders.read_eq_some hread
      rw [ownerOf, hrow, Option.map_some,
        ← (RepeatOrders.shows_of_toPlan hplan).2.ownerActorId]
      rfl
  | orderReplayed hkind hreplayed =>
      obtain ⟨resultRef, hrecorded, first, _, hfirst, _, hread⟩ := hreplayed
      apply @Secured.replayed (.repeatOrder call) _ _ resultRef hrecorded
      rw [PlatformCall.resource, if_neg (by simp [hkind])]
      apply hfirst.2.1
      obtain ⟨header, hheader, _, horder⟩ := Orders.read_eq_some hread
      rw [ownerOf, hheader, horder]
      rfl
  | planCreated hcall happlied hfresh howner =>
      apply secured_applied heffect happlied howner
      intro owner hfound
      simp [PlatformCall.resource, RepeatCall.resultRef, hcall, ownerOf, hfresh,
        RepeatOperation.returnsPlan] at hfound
  | planMutated hcall happlied howner _ hsaved hanswer =>
      have hsame := saved_owner hsaved
      apply secured_applied heffect happlied
      · have hnew : ownerOf (own ++ world.rows) _ = some _ := hsame.2
        rw [ownerOf, hsaved.after, Option.map_some, howner, Option.some.injEq] at hnew
        rw [RepeatAnswer.toPlatform, PlatformAnswer.ownerActorId,
          (RepeatOrders.shows_of_toPlan hanswer).2.ownerActorId, hnew]
      · intro owner hfound
        simp only [PlatformCall.resource, RepeatCall.resultRef, hcall,
          RepeatOperation.returnsPlan, if_true] at hfound
        rw [hsame.1, howner] at hfound
        exact (Option.some.inj hfound).symm
  | orderCreated hcall happlied =>
      have hown : own ≠ [] := happlied.ne_nil
      obtain ⟨howner, hfresh, _⟩ := created_owner heffect hown hcall
      apply secured_applied heffect happlied howner
      intro owner hfound
      simp [PlatformCall.resource, RepeatCall.resultRef, hcall, hfresh,
        RepeatOperation.returnsPlan] at hfound
  | orderConfirmed hcall happlied =>
      have hown : own ≠ [] := happlied.ne_nil
      obtain ⟨owner, howner, hheader, _, hplan⟩ :=
        confirmed_owner heffect hown hcall
      have hsame := hpending _ _ _ (heffect.settles hown hcall).1 hplan
      rw [hheader] at hsame
      obtain rfl := Option.some.inj hsame
      apply secured_applied heffect happlied howner
      intro owner hfound
      simp only [PlatformCall.resource, RepeatCall.resultRef, hcall,
        RepeatOperation.returnsPlan, Bool.false_eq_true, if_false] at hfound
      rw [hheader] at hfound
      exact (Option.some.inj hfound).symm

end Repeat

section Create

variable {uuid5 : String → String} {world : World Instant Row} {caller : Caller}
  {record : IdempotencyRecord} {reservation middle journal own : Rows Row}
  {touches : Key → Prop} {ref : String}

/-- The rows kept beside a creation. -/
def beside : Key → Prop
  | .auditLog _ | .outboxEvent _ => True
  | _ => False

/-- A creation leaves every business row it does not touch. -/
theorem created_untouched
    (hreservation : Reservation caller ref record reservation world)
    (hmiddle : middle.Only touches) (hjournal : journal.Only beside) {key : Key}
    (hbusiness : business key) (htouches : ¬ touches key) :
    Rows.get (journal ++ (middle ++ reservation) ++ world.rows) key =
      world.rows.get key := by
  rw [List.append_assoc, hjournal.get_append (by cases key <;> simp_all [beside]),
    List.append_assoc, hmiddle.get_append htouches,
    hreservation.get_business hbusiness]

/-- A creation keeps every reservation. -/
theorem created_record
    (hreservation : Reservation caller ref record reservation world)
    (hmiddle : middle.Only touches) (hjournal : journal.Only beside)
    (hbusiness : ∀ key, touches key → business key) {key : String}
    {old : IdempotencyRecord}
    (hold : world.rows.get (Key.idempotencyKey key) = some old) :
    Rows.get (journal ++ (middle ++ reservation) ++ world.rows)
      (Key.idempotencyKey key) = some old := by
  have hskip : ¬ touches (Key.idempotencyKey key) := fun htouches =>
    hbusiness _ htouches
  rw [List.append_assoc, hjournal.get_append (by simp [beside]), List.append_assoc,
    hmiddle.get_append hskip]
  by_cases hkey : key = caller.idempotencyKey
  · subst hkey
    rw [hreservation.held, hreservation.kept old hold]
  · rw [hreservation.touched.get_append (by simpa using hkey)]
    exact hold

theorem secured_created {call : PlatformCall} {answer : PlatformAnswer}
    (hreservation : Reservation call.caller ref record reservation world)
    (href : record.resultRef = ref) (hmiddle : middle.Only touches)
    (hjournal : journal.Only beside)
    (hbusiness : ∀ key, touches key → business key)
    (hplans : ∀ planId, ¬ touches (Key.repeatOrderPlan planId))
    (hfresh : ∀ key, touches key → ownerOf world.rows key = none)
    (hresource : ownerOf world.rows (call.resource ref) = none)
    (hisolated : call.Isolated answer) :
    Secured call answer (journal ++ (middle ++ reservation)) world := by
  have hsame : ∀ {key}, business key → ¬ touches key →
      Rows.get (journal ++ (middle ++ reservation) ++ world.rows) key =
        world.rows.get key :=
    fun hkey htouches =>
      created_untouched hreservation hmiddle hjournal hkey htouches
  have howners : OwnersKept world.rows
      (journal ++ (middle ++ reservation) ++ world.rows) := by
    intro key owner howner
    by_cases htouches : touches key
    · rw [hfresh key htouches] at howner
      simp at howner
    · rw [ownerOf_congr (hsame (by cases key <;> simp_all [ownerOf]) htouches)]
      exact howner
  apply Secured.applied ⟨⟨?_, ?_⟩, howners, ?_⟩ hisolated
  · intro found owner hfound howner
    rw [← hreservation.kept found hfound] at href
    rw [href, hresource] at howner
    simp at howner
  · exact fun key old hold =>
      created_record hreservation hmiddle hjournal hbusiness hold
  · exact fun planId row hrow =>
      ⟨row, (hsame (by simp) (hplans planId)).trans hrow, Or.inl rfl⟩
  · intro hpending planId orderId owner hopen howner
    have hplan := hsame (by simp) (hplans planId)
    rw [World.commit_rows] at hopen howner ⊢
    rw [ownerOf_congr hplan] at howner
    apply howners
    apply hpending planId orderId owner ?_ howner
    rw [← hopen]
    simp only [view, hplan]

theorem atCommit_recordCreation {action resourceType resourceId eventKey : String}
    {payload metadata : Payload}
    {post : Unit → Rows Row → World Instant Row → Prop}
    (h : ∀ journal, Rows.Only beside journal → post () (journal ++ own) world) :
    atCommit evolution
      (recordCreation uuid5 caller action resourceType resourceId eventKey payload
        metadata) post own world := by
  rw [recordCreation, atCommit_bind, clock, atCommit_observe]
  intro earlier _
  rw [atCommit_bind]
  apply Outbox.atCommit_append
  · intro _
    apply Audits.atCommit_append
    intro _
    exact h [_, _] (by simp [beside])
  · intro _ _ _
    apply Audits.atCommit_append
    intro _
    exact h [_] (by simp [beside])

variable {authorizer : RBACAuthorizer}

theorem atCommit_storedAction {request : CommercialActionCreate}
    {resultRef message : String} (hrecorded : Recorded caller world resultRef) :
    atCommit evolution (CommercialActionCreate.stored resultRef message)
      (fun action own world =>
        Secured (.commercialAction authorizer caller request)
          (.commercialAction action) own world) [] world := by
  rw [CommercialActionCreate.stored, atCommit_bind, CommercialActions.get,
    atCommit_select]
  intro earlier hearlier
  rw [atCommit_lift]
  intro action haction
  apply @Secured.replayed (.commercialAction authorizer caller request) _ _ resultRef
    hrecorded
  apply hearlier.evolved.2.1
  have hrow : earlier.rows.get (Key.commercialAction resultRef) = some action :=
    found_eq_ok.mp haction
  rw [PlatformCall.resource, ownerOf, hrow]
  rfl

theorem atCommit_createAction {request : CommercialActionCreate} :
    atCommit evolution (request.execute uuid5 authorizer caller)
      (fun action own world =>
        Secured (.commercialAction authorizer caller request)
          (.commercialAction action) own world) [] world := by
  rw [CommercialActionCreate.execute, atCommit_bind]
  apply atCommit_existingRecord respects_evolution
  · intro _
    rw [atCommit_bind, Identities.get, atCommit_select]
    intro earlier _
    cases Rows.get ([] ++ earlier.rows) (Key.identity request.identityId) with
    | none => trivial
    | some identity =>
        rw [atCommit_bind]
        apply atCommit_reserve respects_evolution
        intro record reservation hreservation
        by_cases href : record.resultRef = request.actionId
        · rw [if_neg (not_not.mpr href), CommercialActionCreate.create, atCommit_bind,
            atCommit_lift]
          intro action haction
          obtain ⟨hallowed, hid, howner⟩ :=
            CommercialActionCreate.createReady_eq_ok haction
          rw [atCommit_bind, CommercialActions.add, atCommit_insert, hid]
          intro hfresh
          rw [hreservation.get_business (by simp)] at hfresh
          rw [atCommit_bind]
          apply atCommit_recordCreation
          intro journal hjournal
          have hnone : ownerOf world.rows
              (Key.commercialAction request.actionId) = none := by
            rw [ownerOf, hfresh]
            rfl
          exact @secured_created world record reservation
            [⟨Key.commercialAction request.actionId, some action⟩] journal
            (· = Key.commercialAction request.actionId) request.actionId
            (.commercialAction authorizer caller request) (.commercialAction action)
            hreservation href (by simp) hjournal (by simp) (by simp) (by simpa)
            hnone ⟨howner, hallowed⟩
        · rw [if_pos href]
          obtain ⟨rfl, hrecorded⟩ := hreservation.recorded href
          exact atCommit_storedAction hrecorded
  · intro record hrecorded
    exact atCommit_storedAction hrecorded

theorem atCommit_storedOrder {request : OrderCreate} {resultRef message : String}
    (hrecorded : Recorded caller world resultRef) :
    atCommit evolution (OrderCreate.stored resultRef message)
      (fun order own world =>
        Secured (.order authorizer caller request) (.order order) own world)
      [] world := by
  rw [OrderCreate.stored, atCommit_bind]
  apply Orders.atCommit_get
  intro first second result hfirst _ hread
  rw [atCommit_lift]
  intro order horder
  obtain rfl := found_eq_ok.mp horder
  apply @Secured.replayed (.order authorizer caller request) _ _ resultRef
    hrecorded
  apply hfirst.evolved.2.1
  obtain ⟨header, hheader, _, hshape⟩ := Orders.read_eq_some hread
  have hrow : first.rows.get (Key.orderHeader resultRef) = some header := hheader
  rw [PlatformCall.resource, ownerOf, hrow, hshape]
  rfl

theorem atCommit_createOrder {request : OrderCreate} :
    atCommit evolution (request.execute uuid5 authorizer caller)
      (fun order own world =>
        Secured (.order authorizer caller request) (.order order) own world)
      [] world := by
  rw [OrderCreate.execute, atCommit_bind]
  apply atCommit_existingRecord respects_evolution
  · intro _
    rw [atCommit_bind, CommercialActions.get, atCommit_select]
    intro earlier _
    cases Rows.get ([] ++ earlier.rows)
        (Key.commercialAction request.actionId) with
    | none => trivial
    | some action =>
        rw [atCommit_bind]
        apply atCommit_reserve respects_evolution
        intro record reservation hreservation
        by_cases href : record.resultRef = request.orderId
        · rw [if_neg (not_not.mpr href), OrderCreate.create, atCommit_bind,
            atCommit_lift]
          intro order horder
          obtain ⟨hallowed, hid, howner⟩ := OrderCreate.createFromAction_eq_ok horder
          rw [atCommit_bind]
          apply Orders.atCommit_add
          intro written hfresh hwritten
          rw [hreservation.get_business (by simp), hid] at hfresh
          have htouched := hwritten.touched
          rw [hid] at htouched
          rw [atCommit_bind]
          apply atCommit_recordCreation
          intro journal hjournal
          have hnone : ownerOf world.rows (Key.orderHeader request.orderId) =
              none := by
            rw [ownerOf, hfresh]
            rfl
          apply @secured_created world record reservation written journal
            (Orders.ofOrder request.orderId) request.orderId
            (.order authorizer caller request) (.order order) hreservation href
            htouched hjournal (fun _ => business_ofOrder) (by simp [Orders.ofOrder])
            ?_ hnone ⟨howner, hallowed⟩
          intro key htouches
          cases key with
          | orderHeader owner =>
              obtain rfl : owner = request.orderId := htouches
              exact hnone
          | orderLines owner => rfl
          | orderLine lineId => rfl
          | _ => exact htouches.elim
        · rw [if_pos href]
          obtain ⟨rfl, hrecorded⟩ := hreservation.recorded href
          exact atCommit_storedOrder hrecorded
  · intro record hrecorded
    exact atCommit_storedOrder hrecorded

end Create

theorem atCommit_program {uuid5 : String → String} {call : PlatformCall}
    {world : World Instant Row} (hpending : PendingOwned world.rows) :
    atCommit evolution (call.program uuid5) (Secured call) [] world := by
  cases call with
  | repeatOrder call =>
      rw [PlatformCall.program, atCommit_bind]
      apply atCommit_mono ?_ (RepeatOrderService.atCommit_program respects_evolution)
      exact fun answer own heffect => secured_repeatOrder heffect hpending
  | commercialAction authorizer caller request =>
      rw [PlatformCall.program, atCommit_bind]
      exact atCommit_createAction
  | order authorizer caller request =>
      rw [PlatformCall.program, atCommit_bind]
      exact atCommit_createOrder

/-- The rule of the platform: any call, any world where open orders belong to
the owners of their plans. -/
def rule (uuid5 : String → String) :
    CallRule (PlatformCall.program uuid5) (fun _ _ => True) evolution where
  inv world := PendingOwned world.rows
  admits _ := True
  effect := Secured
  stable hrel := hrel.2.2
  body_ok _ hpending := atCommit_program hpending
  commit_ok _ heffect _ := heffect.rel
  drift_ok _ := evolution.refl _

/-- The platform under any number of clients. -/
def flow (uuid5 : String → String) : Workflow Instant Row Failure
    (Session PlatformCall Failure PlatformAnswer) Empty :=
  callFlow (PlatformCall.program uuid5) Failure.infrastructure fun _ _ => True

section Runs

variable {ι : Type} [DecidableEq ι] {uuid5 : String → String}
  {calls : ι → PlatformCall} {world : World Instant Row}
  {last sys' : Sys ι Instant Row Failure
    (Session PlatformCall Failure PlatformAnswer)}
  {events : List (Event ι Row Failure
    (Session PlatformCall Failure PlatformAnswer) Empty)}

theorem pendingOwned_of_no_plan {rows : Rows Row}
    (h : ∀ planId, rows.get (Key.repeatOrderPlan planId) = none) :
    PendingOwned rows := by
  intro planId orderId owner hopen
  simp [view, h] at hopen

/-- Along every run from a platform without plans, a call that returns is
isolated exactly when the resource recorded under its key, if any, is the
caller's and the caller holds the permission. -/
theorem isolated_iff_cleared
    (hfirst : ∀ planId, world.rows.get (Key.repeatOrderPlan planId) = none)
    (hrun : Run (flow uuid5) (Sys.ofCalls world calls) events last) {client : ι}
    {before after : Session PlatformCall Failure PlatformAnswer} {own : Rows Row}
    (hstep : Step (flow uuid5) last [.committed client before after own] sys') :
    ∃ call answer, before = .waiting call ∧ after = .returned call answer ∧
      (call.Isolated answer ↔ call.Cleared last.world.rows) := by
  obtain ⟨call, answer, hbefore, hafter, hsecured, _⟩ :=
    (rule uuid5).commit_effect (fun _ => trivial) (pendingOwned_of_no_plan hfirst)
      hrun hstep
  exact ⟨call, answer, hbefore, hafter, hsecured.isolated⟩

end Runs

/-- The operator creates a plan; a stranger without permissions sends a pause
under the operator's key and request hash. -/
def sampleStranger : ℕ → PlatformCall
  | 0 => .repeatOrder (sampleCall "create" "" samplePlan)
  | _ => .repeatOrder
      { sampleCall "create" "" (.mutate .pause "plan") with
        caller := ⟨⟨"stranger", 0⟩, "create", "create", none⟩ }

/-- The owner of the answer and the permission, of every call that returned. -/
def returned {ι : Type} : Event ι Row Failure
    (Session PlatformCall Failure PlatformAnswer) Empty →
      Option (Option String × String × Bool)
  | .committed _ _ (.returned call answer) _ =>
      some (answer.ownerActorId, call.caller.actor.actorId, call.permitted)
  | _ => none

theorem sampleStranger_run : ∃ events last,
    Run (flow id) (Sys.ofCalls sampleWorld sampleStranger) events last ∧
      events.map returned = [some (some "operator", "operator", true),
        some (some "operator", "stranger", false)] :=
  run_of_serially (fun result => result.1.map returned)
    (show (serially (PlatformCall.program id) sampleStranger sampleWorld 2).map
      (fun result => result.1.map returned) = .ok
        [some (some "operator", "operator", true),
          some (some "operator", "stranger", false)] by decide +kernel)

theorem sampleStranger_answer : ∃ events last client before call answer own,
    Run (flow id) (Sys.ofCalls sampleWorld sampleStranger) events last ∧
      .committed client before (.returned call answer) own ∈ events ∧
      ¬ call.Isolated answer := by
  obtain ⟨events, last, hrun, hreturned⟩ := sampleStranger_run
  have hmem : some (some "operator", "stranger", false) ∈ events.map returned := by
    rw [hreturned]
    simp
  obtain ⟨event, hevent, heq⟩ := List.mem_map.mp hmem
  unfold returned at heq
  split at heq
  · refine ⟨events, last, _, _, _, _, _, hrun, hevent, ?_⟩
    rintro ⟨_, hpermitted⟩
    simp [hpermitted] at heq
  · simp at heq

/-- A stranger is answered with the operator's plan. -/
theorem stranger_answered : ¬ ∀ (calls : ℕ → PlatformCall)
    (events : List (Event ℕ Row Failure
      (Session PlatformCall Failure PlatformAnswer) Empty))
    (last : Sys ℕ Instant Row Failure
      (Session PlatformCall Failure PlatformAnswer)),
    Run (flow id) (Sys.ofCalls sampleWorld calls) events last →
    ∀ client before call answer own,
      .committed client before (.returned call answer) own ∈ events →
      call.Isolated answer := by
  intro hisolated
  obtain ⟨events, last, client, before, call, answer, own, hrun, hevent, hnot⟩ :=
    sampleStranger_answer
  exact hnot (hisolated _ events last hrun client before call answer own hevent)

theorem isolated_iff_cleared_stranger : ∃ (call : PlatformCall) (answer : _)
    (rows : Rows Row), ¬ call.Isolated answer ∧
      (call.Isolated answer ↔ call.Cleared rows) := by
  obtain ⟨events, last, client, before, call, answer, own, hrun, hevent, hnot⟩ :=
    sampleStranger_answer
  obtain ⟨_, sys, _, hearlier, hstep⟩ := hrun.step_of_mem hevent
  obtain ⟨call', answer', _, hreturned, hiff⟩ :=
    isolated_iff_cleared (by simp [sampleWorld, sampleRows]) hearlier hstep
  obtain ⟨rfl, rfl⟩ := Session.returned.inj hreturned
  exact ⟨call, answer, sys.world.rows, hnot, hiff⟩

end OwnerIsolation

end ShemaPlatform
