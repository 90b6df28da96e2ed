/-
The repeat-order workflow: eight operations on a plan, each one transaction
with its checks, its idempotency reservation and its audit and outbox records.
-/
import ShemaPlatform.Repositories

namespace ShemaPlatform

open Calendar ReadCommitted ReadCommitted.Prog

structure RepeatOrderValidation where
  counterpartyOk : Bool
  serviceScopeOk : Bool
  pricingOk : Bool
  dateCapacityOk : Bool
  evidenceFreshOk : Bool
  resolvedLines : List OrderLine
  failureReasons : List String
deriving DecidableEq

namespace RepeatOrderValidation

def approved (validation : RepeatOrderValidation) : Bool :=
  validation.counterpartyOk && validation.serviceScopeOk &&
    validation.pricingOk && validation.dateCapacityOk &&
    validation.evidenceFreshOk && !validation.resolvedLines.isEmpty

def describeFailure (validation : RepeatOrderValidation) : String :=
  let failures := validation.failureReasons ++
    (if validation.counterpartyOk then [] else ["counterparty_identity_or_status"]) ++
    (if validation.serviceScopeOk then [] else ["service_scope"]) ++
    (if validation.pricingOk then [] else ["current_pricing_or_policy"]) ++
    (if validation.dateCapacityOk then [] else ["date_or_capacity_assumptions"]) ++
    (if validation.evidenceFreshOk then [] else ["evidence_freshness"]) ++
    (if validation.resolvedLines.isEmpty then ["resolved_order_lines"] else [])
  let described := ", ".intercalate failures.eraseDups
  if described = "" then "repeat_order_validation_failed" else described

/-- `_require_validation` -/
def requireApproved (validation : RepeatOrderValidation) : Except Failure Unit :=
  require validation.approved
    (.quarantineRequired
      s!"repeat order validation failed: {validation.describeFailure}")

end RepeatOrderValidation

/-- What the service was built with, as it behaves during one call: the
permissions then granted, the answers of the revalidator, and the id the id
factory hands out. -/
structure RepeatOrderService where
  authorizer : RBACAuthorizer
  revalidate : Identity → Order → RepeatOrderPlan →
    Except Failure RepeatOrderValidation
  newOrderId : String

/-- Who calls, and with which idempotency key and request hash. -/
structure Caller where
  actor : Actor
  requestHash : String
  idempotencyKey : String
  correlationId : Option String
deriving DecidableEq

namespace RepeatOrderService

def clock : Tx Instant Instant := observe id

def requireOwner (ownerActorId : Option String) (actor : Actor) :
    Except Failure Unit :=
  require (ownerActorId != some "" && ownerActorId == some actor.actorId)
    (.quarantineRequired
      "repeat-order resource is outside the actor resource scope")

def requirePlan (planId : String) : Tx Instant RepeatOrderPlan := do
  match ← RepeatOrders.get planId with
  | none => raise (.keyError s!"unknown repeat plan: {planId}")
  | some plan => return plan

def verifiedIdentity (identityId : String) : Tx Instant Identity := do
  match ← Identities.get identityId with
  | none =>
      raise (.integrityViolation
        "repeat order references missing counterparty identity")
  | some identity => do
      lift identity.requireVerified
      return identity

def authorize (service : RepeatOrderService) (actor : Actor)
    (identity : Identity) (evidenceLevel : Int) : Except Failure Unit := do
  service.authorizer.require actor.actorId .orderCreate
  let decision ← PolicyContext.evaluate
    { actorId := actor.actorId
      action := "order_create"
      resourceType := "identity"
      resourceId := some identity.identityId
      actorTrustLevel := actor.trustLevel
      resourceTrustLevel := 2
      evidenceLevel := evidenceLevel
      evidenceRequired := false }
  require (decision.decision != .deny) (.policyDenied decision.reason)
  require (decision.decision == .allow) (.quarantineRequired decision.reason)

def reusedKey : Failure :=
  .idempotencyConflict "idempotency key reused with different request"

/-- The record under the caller's key, if it is for the same request. -/
def existingRecord (caller : Caller) : Tx Instant (Option IdempotencyRecord) := do
  match ← Idempotency.get caller.idempotencyKey with
  | none => return none
  | some existing => do
      lift (require (existing.requestHash == caller.requestHash) reusedKey)
      return some existing

/-- A resource that a record or a reservation says exists. -/
def found {α : Type} (resource : Option α) (message : String) :
    Except Failure α :=
  match resource with
  | none => .error (.integrityViolation message)
  | some value => .ok value

def existingPlan (caller : Caller) : Tx Instant (Option RepeatOrderPlan) := do
  match ← existingRecord caller with
  | none => return none
  | some existing => do
      let plan ← RepeatOrders.get existing.resultRef
      let plan ← lift (found plan
        "idempotency record references missing repeat plan")
      return some plan

def existingOrder (caller : Caller) : Tx Instant (Option Order) := do
  match ← existingRecord caller with
  | none => return none
  | some existing => do
      let order ← Orders.get existing.resultRef
      let order ← lift (found order
        "idempotency record references missing repeat order")
      return some order

/-- The result another holder of the key left behind. -/
def reservedPlan (resultRef : String) : Tx Instant RepeatOrderPlan := do
  let stored ← RepeatOrders.get resultRef
  lift (found stored "idempotency reservation references missing repeat plan")

def reservedOrder (resultRef message : String) : Tx Instant Order := do
  let stored ← Orders.get resultRef
  lift (found stored message)

section Records

variable (uuid5 : String → String)

def auditId (action resourceId idempotencyKey : String) : String :=
  uuid5 s!"audit:{action}:{resourceId}:{idempotencyKey}"

def eventId (eventType aggregateType aggregateId idempotencyKey : String) :
    String :=
  uuid5 s!"{eventType}:{aggregateType}:{aggregateId}:{idempotencyKey}"

/-- `_record` -/
def record (caller : Caller) (action resourceType resourceId : String)
    (metadata : Payload) : Tx Instant Unit := do
  let occurredAt ← clock
  Audits.append
    { auditId := auditId uuid5 action resourceId caller.idempotencyKey
      actorId := caller.actor.actorId
      action := action
      resourceType := resourceType
      resourceId := resourceId
      outcome := "success"
      occurredAt := occurredAt
      metadata := metadata
      correlationId := caller.correlationId }

/-- `_event` -/
def event (caller : Caller) (eventType aggregateType aggregateId : String)
    (payload : Payload) : Tx Instant Unit := do
  let occurredAt ← clock
  let _ ← Outbox.append
    { eventId := eventId uuid5 eventType aggregateType aggregateId
        caller.idempotencyKey
      eventType := eventType
      aggregateType := aggregateType
      aggregateId := aggregateId
      payload := payload
      occurredAt := occurredAt }
  return ()

end Records

section Operations

variable (uuid5 : String → String) (service : RepeatOrderService)
  (caller : Caller)

/-- `create_plan` once its key is reserved. -/
def applyCreatePlan (planId : String) (source : Order) (cadence : RepeatCadence)
    (context : RepeatOrderContext) : Tx Instant RepeatOrderPlan := do
  let plan ← lift (RepeatOrderPlan.new
    { planId := planId
      sourceOrderId := source.orderId
      identityId := source.identityId
      cadence := cadence
      context := context
      ownerActorId := some caller.actor.actorId
      status := .active
      lastOrderId := none
      pendingOrderId := none
      skippedOccurrences := 0
      revision := 1 })
  RepeatOrders.add plan
  record uuid5 caller "repeat_order.plan_created" "repeat_order_plan" plan.planId
    [("source_order_id", .text plan.sourceOrderId),
      ("identity_id", .text plan.identityId),
      ("cadence", .text plan.cadence.unit.value),
      ("interval", .number plan.cadence.interval)]
  event uuid5 caller "repeat_order.plan_created" "repeat_order_plan" plan.planId
    [("plan_id", .text plan.planId),
      ("source_order_id", .text plan.sourceOrderId),
      ("identity_id", .text plan.identityId)]
  return plan

def createPlan (planId sourceOrderId : String) (cadence : RepeatCadence)
    (context : RepeatOrderContext) : Tx Instant RepeatOrderPlan := do
  match ← existingPlan caller with
  | some existing => return existing
  | none => do
      match ← Orders.get sourceOrderId with
      | none => raise (.keyError s!"unknown source order: {sourceOrderId}")
      | some source => do
          lift (requireOwner source.ownerActorId caller.actor)
          lift (require (source.status == .completed) (.quarantineRequired
            "repeat plan requires a completed source order"))
          let identity ← verifiedIdentity source.identityId
          lift (service.authorize caller.actor identity 2)
          let reservation ← Idempotency.reserve caller.idempotencyKey
            caller.requestHash planId
          if reservation.resultRef ≠ planId then
            reservedPlan reservation.resultRef
          else
            applyCreatePlan uuid5 caller planId source cadence context

/-- `create_next_repeat_order` once its key is reserved. -/
def applyCreateNext (plan : RepeatOrderPlan) (source : Order)
    (lines : List OrderLine) : Tx Instant Order := do
  let order ← lift (Order.new
    { orderId := service.newOrderId
      identityId := source.identityId
      sourceActionId := source.sourceActionId
      lines := lines
      ownerActorId := some caller.actor.actorId
      status := .draft })
  Orders.add order
  let updatedPlan ← lift (plan.attachPendingOrder order.orderId)
  let _ ← RepeatOrders.save updatedPlan plan.revision
  record uuid5 caller "repeat_order.created" "order" order.orderId
    [("plan_id", .text plan.planId),
      ("source_order_id", .text plan.sourceOrderId),
      ("identity_id", .text order.identityId)]
  event uuid5 caller "repeat_order.created" "order" order.orderId
    [("order_id", .text order.orderId),
      ("plan_id", .text plan.planId),
      ("source_order_id", .text plan.sourceOrderId),
      ("status", .text order.status.value)]
  return order

def createNextRepeatOrder (planId : String) : Tx Instant Order := do
  match ← existingOrder caller with
  | some existing => return existing
  | none => do
      let plan ← requirePlan planId
      lift (requireOwner plan.ownerActorId caller.actor)
      lift (require (plan.status == .active)
        (.quarantineRequired "repeat plan is not active"))
      lift (require plan.pendingOrderId.isNone
        (.integrityViolation "repeat plan already has a pending order"))
      let source ← Orders.get plan.sourceOrderId
      let source ← lift (found source "repeat plan references missing source order")
      lift (require (source.status == .completed)
        (.quarantineRequired "repeat source order is no longer completed"))
      let identity ← verifiedIdentity plan.identityId
      let validation ← lift (service.revalidate identity source plan)
      lift (service.authorize caller.actor identity
        (if validation.evidenceFreshOk then 2 else 0))
      lift validation.requireApproved
      let reservation ← Idempotency.reserve caller.idempotencyKey
        caller.requestHash service.newOrderId
      if reservation.resultRef ≠ service.newOrderId then
        reservedOrder reservation.resultRef
          "idempotency reservation references missing repeat order"
      else
        applyCreateNext uuid5 service caller plan source validation.resolvedLines

/-- `confirm_repeat_order` once its key is reserved. -/
def applyConfirm (planId orderId : String) (plan : RepeatOrderPlan)
    (order : Order) : Tx Instant Order := do
  let confirmed ← lift order.confirm
  Orders.save confirmed
  let revenue ← lift confirmed.total
  let occurredAt ← clock
  let entry ← lift (EconomicEntry.new
    { entryId := s!"economics:repeat-order:{orderId}:revenue"
      entityRef := orderId
      kind := .revenue
      amount := revenue
      sourceRef := s!"repeat-order:{planId}:confirm"
      occurredAt := occurredAt })
  Economics.add entry
  let updatedPlan ← lift (plan.markOrderConfirmed orderId)
  let _ ← RepeatOrders.save updatedPlan plan.revision
  record uuid5 caller "repeat_order.confirmed" "order" orderId
    [("plan_id", .text planId),
      ("identity_id", .text confirmed.identityId),
      ("status", .text confirmed.status.value),
      ("revenue", .text revenue.amountText)]
  event uuid5 caller "repeat_order.confirmed" "order" orderId
    [("order_id", .text orderId),
      ("plan_id", .text planId),
      ("status", .text confirmed.status.value),
      ("revenue", .text revenue.amountText)]
  return confirmed

def confirmRepeatOrder (planId orderId : String) : Tx Instant Order := do
  match ← existingOrder caller with
  | some existing => return existing
  | none => do
      let plan ← requirePlan planId
      lift (requireOwner plan.ownerActorId caller.actor)
      lift (require (plan.pendingOrderId == some orderId) (.integrityViolation
        "order is not the pending repeat order for this plan"))
      -- a cancelled recurrence still confirms the order it created
      let order ← Orders.get orderId
      let order ← lift (found order "repeat plan references missing pending order")
      lift (require (order.status == .draft)
        (.quarantineRequired "only a draft repeat order can be confirmed"))
      let identity ← verifiedIdentity plan.identityId
      let validation ← lift (service.revalidate identity order plan)
      lift (service.authorize caller.actor identity
        (if validation.evidenceFreshOk then 2 else 0))
      lift validation.requireApproved
      lift (require (validation.resolvedLines == order.lines) (.quarantineRequired
        ("current pricing or repeat context changed; " ++
          "recreate the draft before confirmation")))
      let reservation ← Idempotency.reserve caller.idempotencyKey
        caller.requestHash orderId
      if reservation.resultRef ≠ orderId then
        reservedOrder reservation.resultRef
          "idempotency reservation references missing confirmed order"
      else
        applyConfirm uuid5 caller planId orderId plan order

/-- `_mutate_plan` once its key is reserved. -/
def applyMutation
    (transition : RepeatOrderPlan → Except Failure RepeatOrderPlan)
    (action planId : String) (plan : RepeatOrderPlan) :
    Tx Instant RepeatOrderPlan := do
  let changed ← lift (transition plan)
  let updated ← RepeatOrders.save changed plan.revision
  record uuid5 caller action "repeat_order_plan" planId
    [("previous_revision", .number plan.revision),
      ("new_status", .text updated.status.value),
      ("pending_order_id", .ofOption updated.pendingOrderId),
      ("new_revision", .number updated.revision)]
  event uuid5 caller action "repeat_order_plan" planId
    [("plan_id", .text planId),
      ("status", .text updated.status.value),
      ("revision", .number updated.revision)]
  return updated

/-- `_mutate_plan` -/
def mutatePlan (transition : RepeatOrderPlan → Except Failure RepeatOrderPlan)
    (action planId : String) : Tx Instant RepeatOrderPlan := do
  match ← existingPlan caller with
  | some existing => return existing
  | none => do
      let plan ← requirePlan planId
      lift (requireOwner plan.ownerActorId caller.actor)
      let identity ← verifiedIdentity plan.identityId
      lift (service.authorize caller.actor identity 2)
      let reservation ← Idempotency.reserve caller.idempotencyKey
        caller.requestHash planId
      if reservation.resultRef ≠ planId then
        reservedPlan reservation.resultRef
      else
        applyMutation uuid5 caller transition action planId plan

def pausePlan (planId : String) : Tx Instant RepeatOrderPlan :=
  mutatePlan uuid5 service caller RepeatOrderPlan.pause
    "repeat_order.plan_paused" planId

def resumePlan (planId : String) : Tx Instant RepeatOrderPlan :=
  mutatePlan uuid5 service caller RepeatOrderPlan.resume
    "repeat_order.plan_resumed" planId

def skipOnce (planId : String) : Tx Instant RepeatOrderPlan :=
  mutatePlan uuid5 service caller RepeatOrderPlan.skipOnce
    "repeat_order.plan_skipped" planId

def cancelPlan (planId : String) : Tx Instant RepeatOrderPlan :=
  mutatePlan uuid5 service caller RepeatOrderPlan.cancel
    "repeat_order.plan_cancelled" planId

def editContext (context : RepeatOrderContext) (planId : String) :
    Tx Instant RepeatOrderPlan :=
  mutatePlan uuid5 service caller (RepeatOrderPlan.editContext context)
    "repeat_order.plan_context_edited" planId

end Operations

end RepeatOrderService

/-- The operations that only move a plan from one state to another. -/
inductive PlanMutation where
  | pause | resume | skipOnce | cancel
  | editContext (context : RepeatOrderContext)
deriving DecidableEq

namespace PlanMutation

def transition : PlanMutation → RepeatOrderPlan → Except Failure RepeatOrderPlan
  | .pause => RepeatOrderPlan.pause
  | .resume => RepeatOrderPlan.resume
  | .skipOnce => RepeatOrderPlan.skipOnce
  | .cancel => RepeatOrderPlan.cancel
  | .editContext context => RepeatOrderPlan.editContext context

def action : PlanMutation → String
  | .pause => "repeat_order.plan_paused"
  | .resume => "repeat_order.plan_resumed"
  | .skipOnce => "repeat_order.plan_skipped"
  | .cancel => "repeat_order.plan_cancelled"
  | .editContext _ => "repeat_order.plan_context_edited"

/-- No mutation renames a plan. -/
theorem planId_of_transition {mutation : PlanMutation}
    {plan changed : RepeatOrderPlan}
    (h : mutation.transition plan = .ok changed) :
    changed.planId = plan.planId := by
  cases mutation with
  | pause =>
      obtain ⟨_, rfl⟩ := RepeatOrderPlan.pause_eq_ok.mp h
      rfl
  | resume =>
      obtain ⟨_, rfl⟩ := RepeatOrderPlan.resume_eq_ok.mp h
      rfl
  | skipOnce =>
      obtain ⟨_, _, _, _, rfl⟩ := RepeatOrderPlan.skipOnce_eq_ok.mp h
      rfl
  | cancel =>
      obtain ⟨_, rfl⟩ := RepeatOrderPlan.cancel_eq_ok.mp h
      rfl
  | editContext context =>
      obtain ⟨_, _, rfl⟩ := RepeatOrderPlan.editContext_eq_ok.mp h
      rfl

end PlanMutation

inductive RepeatOperation where
  | createPlan (planId sourceOrderId : String) (cadence : RepeatCadence)
      (context : RepeatOrderContext)
  | createNext (planId : String)
  | confirm (planId orderId : String)
  | mutate (mutation : PlanMutation) (planId : String)
deriving DecidableEq

/-- The action an operation records in the audit log. -/
def RepeatOperation.action : RepeatOperation → String
  | .createPlan .. => "repeat_order.plan_created"
  | .createNext _ => "repeat_order.created"
  | .confirm .. => "repeat_order.confirmed"
  | .mutate mutation _ => mutation.action

def RepeatOperation.planId : RepeatOperation → String
  | .createPlan planId .. => planId
  | .createNext planId => planId
  | .confirm planId _ => planId
  | .mutate _ planId => planId

/-- Whether an operation returns its plan; the others return an order. -/
def RepeatOperation.returnsPlan : RepeatOperation → Bool
  | .createPlan .. | .mutate .. => true
  | .createNext _ | .confirm .. => false

/-- One call of the service. -/
structure RepeatCall where
  service : RepeatOrderService
  caller : Caller
  operation : RepeatOperation

/-- What a call returns. -/
inductive RepeatAnswer where
  | plan (plan : RepeatOrderPlan)
  | order (order : Order)
deriving DecidableEq

namespace RepeatCall

/-- The plan or order a call reserves its key for. -/
def resultRef (call : RepeatCall) : String :=
  match call.operation with
  | .createPlan planId .. => planId
  | .createNext _ => call.service.newOrderId
  | .confirm _ orderId => orderId
  | .mutate _ planId => planId

/-- The transition a call makes on a stored plan. -/
def Moves (call : RepeatCall) (plan changed : RepeatOrderPlan) : Prop :=
  match call.operation with
  | .createPlan .. => False
  | .createNext _ =>
      plan.attachPendingOrder call.service.newOrderId = .ok changed
  | .confirm _ orderId => plan.markOrderConfirmed orderId = .ok changed
  | .mutate mutation _ => mutation.transition plan = .ok changed

open RepeatOrderService

def mutation (uuid5 : String → String) (service : RepeatOrderService)
    (caller : Caller) (planId : String) :
    PlanMutation → Tx Instant RepeatOrderPlan
  | .pause => pausePlan uuid5 service caller planId
  | .resume => resumePlan uuid5 service caller planId
  | .skipOnce => skipOnce uuid5 service caller planId
  | .cancel => cancelPlan uuid5 service caller planId
  | .editContext context => editContext uuid5 service caller context planId

theorem mutation_eq (uuid5 : String → String) (service : RepeatOrderService)
    (caller : Caller) (planId : String) (change : PlanMutation) :
    mutation uuid5 service caller planId change =
      mutatePlan uuid5 service caller change.transition change.action planId := by
  cases change with
  | _ => rfl

def program (uuid5 : String → String) (call : RepeatCall) :
    Tx Instant RepeatAnswer :=
  match call.operation with
  | .createPlan planId sourceOrderId cadence context => do
      let plan ← createPlan uuid5 call.service call.caller planId sourceOrderId
        cadence context
      return .plan plan
  | .createNext planId => do
      let order ← createNextRepeatOrder uuid5 call.service call.caller planId
      return .order order
  | .confirm planId orderId => do
      let order ← confirmRepeatOrder uuid5 call.service call.caller planId orderId
      return .order order
  | .mutate change planId => do
      let plan ← mutation uuid5 call.service call.caller planId change
      return .plan plan

end RepeatCall

end ShemaPlatform
