/-
The workflows that create a ready commercial action, and an order from a sent
one.  Each is one transaction that first looks for a stored result under the
caller's idempotency key.
-/
import ShemaPlatform.RepeatOrderService

namespace ShemaPlatform

open Calendar ReadCommitted ReadCommitted.Prog
open RepeatOrderService (clock existingRecord found)

/-- The outbox event and the audit record of a creation, at one moment. -/
def recordCreation (uuid5 : String → String) (caller : Caller)
    (action resourceType resourceId eventKey : String)
    (payload metadata : Payload) : Tx Instant Unit := do
  let occurredAt ← clock
  let _ ← Outbox.append
    { eventId := uuid5 eventKey
      eventType := action
      aggregateType := resourceType
      aggregateId := resourceId
      payload := payload
      occurredAt := occurredAt }
  Audits.append
    { auditId := uuid5 s!"audit:{eventKey}"
      actorId := caller.actor.actorId
      action := action
      resourceType := resourceType
      resourceId := resourceId
      outcome := "success"
      occurredAt := occurredAt
      metadata := metadata
      correlationId := caller.correlationId }

/-- The policy check of both services. -/
def requireAllowed (actor : Actor) (action identityId : String)
    (evidenceRefs : List String) : Except Failure Unit := do
  let decision ← PolicyContext.evaluate
    { actorId := actor.actorId
      action := action
      resourceType := "identity"
      resourceId := some identityId
      actorTrustLevel := actor.trustLevel
      resourceTrustLevel := 2
      evidenceLevel := if evidenceRefs.isEmpty then 0 else 2
      evidenceRequired := false }
  require (decision.decision == .allow) (.policyDenied decision.reason)

structure CommercialActionCreate where
  actionId : String
  identityId : String
  contactRef : String
  channel : String
  evidenceRefs : List String

namespace CommercialActionCreate

/-- `CommercialActionService.create_ready` -/
def createReady (request : CommercialActionCreate) (authorizer : RBACAuthorizer)
    (actor : Actor) (identity : Identity) : Except Failure CommercialAction := do
  authorizer.require actor.actorId .commercialActionCreate
  identity.requireVerified
  requireAllowed actor "commercial_action" identity.identityId
    request.evidenceRefs
  CommercialAction.markReady
    { actionId := request.actionId
      identityId := identity.identityId
      contactRef := request.contactRef
      channel := request.channel
      evidenceRefs := request.evidenceRefs
      ownerActorId := some actor.actorId
      status := .draft
      sendAttempt := 0
      sendWorkerId := none
      sendLeaseUntil := none }

theorem createReady_eq_ok {request : CommercialActionCreate}
    {authorizer : RBACAuthorizer} {actor : Actor} {identity : Identity}
    {action : CommercialAction}
    (h : request.createReady authorizer actor identity = .ok action) :
    authorizer.isAllowed actor.actorId .commercialActionCreate = true ∧
      action.actionId = request.actionId ∧
      action.ownerActorId = some actor.actorId := by
  simp only [createReady, bind_eq_ok] at h
  obtain ⟨_, hallowed, _, _, _, _, hready⟩ := h
  exact ⟨require_eq_ok.mp hallowed, CommercialAction.markReady_eq_ok hready⟩

variable (uuid5 : String → String) (authorizer : RBACAuthorizer)
  (caller : Caller) (request : CommercialActionCreate)

/-- The action a record or a reservation says exists. -/
def stored (resultRef message : String) : Tx Instant CommercialAction := do
  let action ← CommercialActions.get resultRef
  lift (found action message)

/-- The workflow once its key is reserved. -/
def create (identity : Identity) : Tx Instant CommercialAction := do
  let action ← lift (request.createReady authorizer caller.actor identity)
  CommercialActions.add action
  recordCreation uuid5 caller "commercial_action.created" "commercial_action"
    request.actionId s!"commercial-action.created:{request.actionId}"
    [("action_id", .text request.actionId),
      ("identity_id", .text action.identityId),
      ("channel", .text action.channel),
      ("status", .text action.status.value)]
    [("identity_id", .text action.identityId),
      ("channel", .text action.channel)]
  return action

/-- `CommercialActionCreateWorkflow.execute` -/
def execute : Tx Instant CommercialAction := do
  match ← existingRecord caller with
  | some existing =>
      stored existing.resultRef
        "idempotency record references missing commercial action"
  | none => do
      match ← Identities.get request.identityId with
      | none => raise (.keyError s!"unknown identity: {request.identityId}")
      | some identity => do
          let reservation ← Idempotency.reserve caller.idempotencyKey
            caller.requestHash request.actionId
          if reservation.resultRef ≠ request.actionId then
            stored reservation.resultRef
              "idempotency reservation references missing commercial action"
          else
            create uuid5 authorizer caller request identity

end CommercialActionCreate

structure OrderCreate where
  orderId : String
  actionId : String
  lines : List OrderLine

namespace OrderCreate

/-- `OrderService.create_from_action` -/
def createFromAction (request : OrderCreate) (authorizer : RBACAuthorizer)
    (actor : Actor) (action : CommercialAction) : Except Failure Order := do
  authorizer.require actor.actorId .orderCreate
  require (action.ownerActorId == some actor.actorId) (.quarantineRequired
    "order creation is forbidden for a commercial action owned by another actor")
  require (action.status == .sent || action.status == .completed)
    (.quarantineRequired "order requires a sent or completed commercial action")
  action.validateForSend
  requireAllowed actor "order_create" action.identityId action.evidenceRefs
  Order.new
    { orderId := request.orderId
      identityId := action.identityId
      sourceActionId := action.actionId
      lines := request.lines
      ownerActorId := some actor.actorId
      status := .draft }

theorem createFromAction_eq_ok {request : OrderCreate}
    {authorizer : RBACAuthorizer} {actor : Actor} {action : CommercialAction}
    {order : Order}
    (h : request.createFromAction authorizer actor action = .ok order) :
    authorizer.isAllowed actor.actorId .orderCreate = true ∧
      order.orderId = request.orderId ∧
      order.ownerActorId = some actor.actorId := by
  simp only [createFromAction, bind_eq_ok] at h
  obtain ⟨_, hallowed, _, _, _, _, _, _, _, _, horder⟩ := h
  obtain rfl := Order.new_eq_ok horder
  exact ⟨require_eq_ok.mp hallowed, rfl, rfl⟩

variable (uuid5 : String → String) (authorizer : RBACAuthorizer)
  (caller : Caller) (request : OrderCreate)

/-- The order a record or a reservation says exists. -/
def stored (resultRef message : String) : Tx Instant Order := do
  let order ← Orders.get resultRef
  lift (found order message)

/-- The workflow once its key is reserved. -/
def create (action : CommercialAction) : Tx Instant Order := do
  let order ← lift (request.createFromAction authorizer caller.actor action)
  Orders.add order
  recordCreation uuid5 caller "order.created" "order" request.orderId
    s!"order.created:{request.orderId}"
    [("order_id", .text request.orderId),
      ("identity_id", .text order.identityId),
      ("source_action_id", .text order.sourceActionId),
      ("status", .text order.status.value)]
    [("identity_id", .text order.identityId),
      ("source_action_id", .text order.sourceActionId)]
  return order

/-- `OrderCreateWorkflow.execute` -/
def execute : Tx Instant Order := do
  match ← existingRecord caller with
  | some existing =>
      stored existing.resultRef
        "idempotency record references missing order"
  | none => do
      match ← CommercialActions.get request.actionId with
      | none => raise (.keyError s!"unknown commercial action: {request.actionId}")
      | some action => do
          let reservation ← Idempotency.reserve caller.idempotencyKey
            caller.requestHash request.orderId
          if reservation.resultRef ≠ request.orderId then
            stored reservation.resultRef
              "idempotency reservation references missing order"
          else
            create uuid5 authorizer caller request action

end OrderCreate

end ShemaPlatform
