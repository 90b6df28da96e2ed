/-
What every workflow rests on: permissions and the policy engine, verified
identities, and the records kept beside the business rows.
-/
import ShemaPlatform.Calendar
import ShemaPlatform.Errors
import ShemaPlatform.PyText

namespace ShemaPlatform

inductive Permission where
  | commercialActionCreate | commercialActionSend | orderCreate | orderRead
  | economicsRead | diagnosticsRead | searchRun | discoveryRun | researchRun
  | counterpartyCheck | counterpartyMonitorManage | counterpartyFavoriteManage
  | intelligenceRun | intelligenceProviderActivate | intelligenceProviderLookup
  | intelligenceProviderRollback | aiRun | publicIntakeReview
deriving DecidableEq, Repr

def Permission.value : Permission → String
  | .commercialActionCreate => "commercial_action.create"
  | .commercialActionSend => "commercial_action.send"
  | .orderCreate => "order.create"
  | .orderRead => "order.read"
  | .economicsRead => "economics.read"
  | .diagnosticsRead => "diagnostics.read"
  | .searchRun => "search.run"
  | .discoveryRun => "discovery.run"
  | .researchRun => "research.run"
  | .counterpartyCheck => "counterparty.check"
  | .counterpartyMonitorManage => "counterparty.monitor.manage"
  | .counterpartyFavoriteManage => "counterparty.favorite.manage"
  | .intelligenceRun => "intelligence.run"
  | .intelligenceProviderActivate => "intelligence.provider.activate"
  | .intelligenceProviderLookup => "intelligence.provider.lookup"
  | .intelligenceProviderRollback => "intelligence.provider.rollback"
  | .aiRun => "ai.run"
  | .publicIntakeReview => "public_intake.review"

/-- The subjects the authorizer knows, with their permissions. -/
structure RBACAuthorizer where
  subjects : List (String × List Permission)

namespace RBACAuthorizer

/-- A later subject of one name replaces an earlier one. -/
def subject (authorizer : RBACAuthorizer) (actorId : String) :
    Option (List Permission) :=
  authorizer.subjects.reverse.lookup actorId

def isAllowed (authorizer : RBACAuthorizer) (actorId : String)
    (permission : Permission) : Bool :=
  match authorizer.subject actorId with
  | some permissions => permissions.contains permission
  | none => false

def require (authorizer : RBACAuthorizer) (actorId : String)
    (permission : Permission) : Except Failure Unit :=
  ShemaPlatform.require (authorizer.isAllowed actorId permission)
    (.authorizationError
      s!"permission denied: actor={actorId} permission={permission.value}")

end RBACAuthorizer

inductive Decision where
  | allow | deny | review
deriving DecidableEq, Repr

structure PolicyContext where
  actorId : String
  action : String
  resourceType : String
  resourceId : Option String
  actorTrustLevel : Int
  resourceTrustLevel : Int
  evidenceLevel : Int
  evidenceRequired : Bool
deriving DecidableEq

structure PolicyDecision where
  decision : Decision
  reason : String
deriving DecidableEq

/-- The AI-run rules; `none` falls through to the later rules. -/
def PolicyContext.aiRunDecision (context : PolicyContext) :
    Option PolicyDecision :=
  if context.action ≠ "ai_run" then none
  else if context.actorTrustLevel < 1 then some ⟨.deny, "actor_not_trusted"⟩
  else if context.resourceTrustLevel < 1 then
    some ⟨.deny, "resource_not_verified"⟩
  else if context.evidenceRequired && decide (context.evidenceLevel < 2) then
    some ⟨.review, "ai_task_needs_evidence"⟩
  else none

def PolicyContext.criticalDecision (context : PolicyContext) :
    Option PolicyDecision :=
  if ¬ context.action ∈ ["commercial_action", "commercial_action_send",
      "order_create"] then none
  else if context.actorTrustLevel < 2 then some ⟨.deny, "actor_not_trusted"⟩
  else if context.resourceTrustLevel < 2 then
    some ⟨.deny, "resource_not_verified"⟩
  else if context.evidenceLevel < 2 then
    some ⟨.review, "critical_claims_need_evidence"⟩
  else none

/-- `PolicyEngine.evaluate` -/
def PolicyContext.evaluate (context : PolicyContext) :
    Except Failure PolicyDecision := do
  ShemaPlatform.require (context.actorId != "")
    (.policyDenied "actor_id is required")
  return (context.aiRunDecision <|> context.criticalDecision).getD
    ⟨.allow, "policy_ok"⟩

inductive IdentityState where
  | raw | candidate | identified | verified | active | inactive | unknown
deriving DecidableEq, Repr

structure Identity where
  identityId : String
  canonicalName : String
  state : IdentityState
  taxId : Option String
  registrationId : Option String
deriving DecidableEq

def Identity.requireVerified (identity : Identity) : Except Failure Unit :=
  require (identity.state == .verified || identity.state == .active)
    (.quarantineRequired "critical action requires verified identity")

/-- The caller of a workflow; its permissions live in the authorizer. -/
structure Actor where
  actorId : String
  trustLevel : Int
deriving DecidableEq

structure IdempotencyRecord where
  key : String
  requestHash : String
  resultRef : String
deriving DecidableEq

/-- A value inside an event payload or audit metadata. -/
inductive Field where
  | text (value : String)
  | number (value : Int)
  | real (value : ℚ)
  | absent
deriving DecidableEq

def Field.ofOption : Option String → Field
  | some value => .text value
  | none => .absent

/-- A JSON object with its fields in the order the source writes them. -/
abbrev Payload := List (String × Field)

structure AuditRecord where
  auditId : String
  actorId : String
  action : String
  resourceType : String
  resourceId : String
  outcome : String
  occurredAt : Calendar.Instant
  metadata : Payload
  correlationId : Option String
  configurationVersion : Option String := none
deriving DecidableEq

/-- What `AuditRecord.__post_init__` accepts. -/
def AuditRecord.new (record : AuditRecord) : Except Failure AuditRecord := do
  require (!PyText.blank record.auditId && !PyText.blank record.actorId)
    (.valueError "audit_id and actor_id are required")
  require (!PyText.blank record.action && !PyText.blank record.resourceType)
    (.valueError "action and resource_type are required")
  require (!PyText.blank record.outcome) (.valueError "outcome is required")
  return record

theorem AuditRecord.new_eq_ok {record result : AuditRecord}
    (h : record.new = .ok result) : result = record := by
  simp only [new, bind, Except.bind, pure, Except.pure] at h
  repeat' (split at h; · simp at h)
  exact (Except.ok.inj h).symm

structure OutboxEvent where
  eventId : String
  eventType : String
  aggregateType : String
  aggregateId : String
  payload : Payload
  occurredAt : Calendar.Instant
deriving DecidableEq

end ShemaPlatform
