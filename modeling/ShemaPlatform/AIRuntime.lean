/-
The execution of an AI run: what the request rests on is read, the gateway
calls the provider in the scope of the request, and a run that passes every
check is stored together with its audit record.
-/
import Mathlib.Data.List.MinMax
import ShemaPlatform.AIProvider
import ShemaPlatform.Effects
import ShemaPlatform.Repositories

namespace ShemaPlatform

open Calendar Effects ReadCommitted ReadCommitted.Prog

/-- How a float is kept in a `numeric(20,8)` column, and read from it. -/
structure FloatColumn where
  write : ℚ → Except Failure ℤ
  read : ℤ → ℚ

section Repositories

variable (column : FloatColumn)

/-- The columns a run is stored in. -/
def AIRunRow.ofRun (run : AIRun) : Except Failure AIRunRow := do
  require (decide (run.tokens < 2 ^ 63)) (.numericOverflow "tokens")
  require (decide (0 ≤ run.tokens)) (.checkViolation "ai_run_tokens_check")
  let cost ← column.write run.cost
  require (decide (0 ≤ cost)) (.checkViolation "ai_run_cost_check")
  let durationSeconds ← column.write run.durationSeconds
  require (decide (0 ≤ durationSeconds))
    (.checkViolation "ai_run_duration_seconds_check")
  return ⟨run.taskId, run.providerId, run.model, run.modelVersion, run.promptVersion,
    run.inputRefs, run.evidenceRefs, run.output, run.tokens, cost, durationSeconds⟩

/-- The run a row is read as. -/
def AIRunRow.toRun (runId : String) (row : AIRunRow) : Except Failure AIRun :=
  AIRun.new ⟨runId, row.taskId, row.providerId, row.model, row.modelVersion,
    row.promptVersion, row.inputRefs, row.evidenceRefs, row.output, row.tokens,
    column.read row.cost, column.read row.durationSeconds⟩

namespace AIRuns

def add (run : AIRun) : Tx Instant Unit := do
  let row ← lift (AIRunRow.ofRun column run)
  insert (Key.aiRun run.runId) row (.uniqueViolation "ai_run_pkey")

def get (runId : String) : Tx Instant (Option AIRun) := do
  match ← select (Key.aiRun runId) with
  | none => return none
  | some row => do
      let run ← lift (AIRunRow.toRun column runId row)
      return some run

end AIRuns

end Repositories

/-- What the state of an identity counts for. -/
def IdentityState.aiTrust : IdentityState → ℤ
  | .identified => 1
  | .verified => 2
  | .active => 2
  | _ => 0

namespace AIExecutionTrustResolver

/-- `_resource_trust` -/
def resourceTrust (resourceRef : String) : Tx Instant ℤ := do
  match ← select (Key.identity resourceRef) with
  | none => raise (.keyError s!"unknown AI resource: {resourceRef}")
  | some identity => return identity.state.aiTrust

/-- The level of one piece of evidence, if it may be used now. -/
def admittedLevel (resourceRef : String) (row : EvidenceRow) : Tx Instant ℤ := do
  lift (require (row.subjectRef == resourceRef) (.quarantineRequired
    "AI execution evidence does not belong to the requested resource"))
  lift (require (row.lifecycle == .active)
    (.quarantineRequired "AI execution evidence is not active"))
  match row.expiresAt with
  | none => return row.trustLevel.level
  | some expiresAt => do
      let now ← observe id
      lift (require (decide (now < expiresAt))
        (.quarantineRequired "AI execution evidence is expired"))
      return row.trustLevel.level

def evidenceLevels (resourceRef : String) (records : List (String × EvidenceRow)) :
    List String → Tx Instant (List ℤ)
  | [] => return []
  | evidenceRef :: rest =>
      match records.lookup evidenceRef with
      | none => raise (.keyError evidenceRef)
      | some row => do
          let level ← admittedLevel resourceRef row
          let levels ← evidenceLevels resourceRef records rest
          return level :: levels

/-- `where evidence_id in (…)` -/
def evidenceRecords (evidenceRefs : List String) (rows : Rows Row) :
    List (String × EvidenceRow) :=
  evidenceRefs.dedup.filterMap fun evidenceRef =>
    (rows.get (Key.evidence evidenceRef)).map fun row => (evidenceRef, row)

/-- `_evidence_level` -/
def evidenceLevel (resourceRef : String) (evidenceRefs : List String) :
    Tx Instant ℤ := do
  if evidenceRefs.isEmpty then
    return 0
  else do
    let records ← scan (evidenceRecords evidenceRefs)
    lift (require (records.length == evidenceRefs.length)
      (.quarantineRequired "AI execution references missing evidence"))
    let levels ← evidenceLevels resourceRef records evidenceRefs
    match levels.min? with
    | none => raise (.valueError "min() iterable argument is empty")
    | some level => return level

def resolve (resourceRef : String) (evidenceRefs : List String) :
    Tx Instant AIExecutionTrust := do
  let resource ← resourceTrust resourceRef
  let evidence ← evidenceLevel resourceRef evidenceRefs
  lift (AIExecutionTrust.new ⟨resource, evidence⟩)

end AIExecutionTrustResolver

/-- What the gateway cannot pass to the provider. -/
structure AIExecutionScope where
  evidenceRefs : List String
  context : AIExecutionContext
  budget : AIBudget
  deadlineSeconds : ℚ
deriving DecidableEq

/-- What `AIExecutionScope.__post_init__` accepts. -/
def AIExecutionScope.new (scope : AIExecutionScope) : Except Failure AIExecutionScope := do
  require (scope.context.correlationId.any fun correlationId =>
      !PyText.blank correlationId)
    (.valueError "AI provider composition requires a correlation_id")
  require (decide (0 < scope.deadlineSeconds))
    (.valueError "AI provider composition deadline must be positive")
  require (decide (0 < scope.budget.maxDurationSeconds ∧
      scope.deadlineSeconds ≤ scope.budget.maxDurationSeconds))
    (.valueError "AI provider composition deadline must fit the AI budget")
  require (decide scope.evidenceRefs.Nodup) (.valueError "evidence_refs must be unique")
  return scope

/-- The database, the scope of the current context, and the requests that have
reached the adapter. -/
structure AIWorld where
  rows : Rows Row
  scope : Option AIExecutionScope
  invoked : List AIProviderRequest

abbrev AIEffect := Effect AIWorld Failure

/-- A transaction of its own, which a failure leaves without a trace. -/
def AIEffect.transaction {ρ : Type} (body : Tx Instant ρ) (now : Instant) :
    AIEffect ρ := ⟨fun world =>
  match body.atomically now world.rows with
  | .ok (result, rows) => (.ok result, { world with rows := rows })
  | .error error => (.error error, world)⟩

structure ScopedAIProvider where
  adapter : AIProviderAdapter
  providerId : String

namespace ScopedAIProvider

def new (adapter : AIProviderAdapter) : Except Failure ScopedAIProvider := do
  let descriptor ← adapter.initialDescriptor
  let checked ← adapter.checkedDescriptor
  let activation ← adapter.initialActivation
  validateProviderActivation checked activation
  return ⟨adapter, descriptor.providerId⟩

/-- `AIProviderCompositionError` -/
def compositionError (failure : AIProviderFailure) : Failure :=
  .runtimeError failure.message

def transportFailure : AIProviderFailure :=
  ⟨.transport, "AI provider adapter execution failed"⟩

/-- The adapter is called, and the call is on record whatever it does. -/
def invoke (provider : ScopedAIProvider) (request : AIProviderRequest) :
    AIEffect AIProviderResponse := do
  Effect.modify fun world => { world with invoked := world.invoked ++ [request] }
  Effect.lift <| match provider.adapter.invoke request with
    | .ok response => .ok response
    | .error failure => .error (compositionError (failure.getD transportFailure))

/-- The scope in which the provider is asked; outside of one it is not. -/
def currentScope : AIEffect AIExecutionScope := do
  match ← Effect.read AIWorld.scope with
  | some scope => return scope
  | none => Effect.fail (compositionError
      ⟨.notReady, "AI provider invocation is outside a composition scope"⟩)

/-- Whether the adapter is active and ready, with its descriptor. -/
def ready (provider : ScopedAIProvider) : Except Failure AIProviderDescriptor := do
  let descriptor ← provider.adapter.descriptor
  let activation ← provider.adapter.activation
  match validateProviderActivation descriptor activation with
  | .error _ => .error (compositionError
      ⟨.policyDenied, "AI provider activation policy rejected the provider"⟩)
  | .ok () => do
      require (activation.enabled && activation.explicit) (compositionError
        ⟨.notReady, "AI provider activation is not explicitly enabled"⟩)
      let readiness ← provider.adapter.readiness
      require (readiness.state == .ready) (compositionError ⟨.notReady,
        if readiness.errorCode.all (· == "") then "AI provider is not ready"
        else "AI provider readiness is blocked"⟩)
      return descriptor

/-- What the adapter is asked; the correlation id of a scope is never absent. -/
def requestFor (scope : AIExecutionScope) (task : AITask) (inputRefs : List String) :
    AIProviderRequest where
  operationId := scope.context.correlationId.getD "None" ++ ":" ++ task.taskId
  task := task
  inputRefs := inputRefs
  evidenceRefs := scope.evidenceRefs
  context := scope.context
  budget := scope.budget
  deadlineSeconds := scope.deadlineSeconds

def run (provider : ScopedAIProvider) (task : AITask) (inputRefs : List String) :
    AIEffect AIRun := do
  let scope ← currentScope
  let descriptor ← Effect.lift provider.ready
  let request ← Effect.lift (AIProviderRequest.new (requestFor scope task inputRefs))
  let response ← provider.invoke request
  Effect.lift <| match validateProviderResponse descriptor request response with
    | .ok () => .ok response.run
    | .error _ => .error (compositionError transportFailure)

end ScopedAIProvider

structure AIGateway where
  provider : ScopedAIProvider
  authorizer : RBACAuthorizer

namespace AIGateway

/-- What the gateway requires before it calls the provider. -/
def permit (gateway : AIGateway) (task : AITask) (evidenceRefs : List String)
    (context : AIExecutionContext) : Except Failure Unit := do
  gateway.authorizer.require context.actorId .aiRun
  require (!(task.evidenceRequired && evidenceRefs.isEmpty))
    (.valueError "evidence is required for this AI task")
  let decision ← PolicyContext.evaluate {
    actorId := context.actorId
    action := "ai_run"
    resourceType := "ai_task"
    resourceId := some context.resourceRef
    actorTrustLevel := context.actorTrustLevel
    resourceTrustLevel := context.resourceTrustLevel
    evidenceLevel := context.evidenceLevel
    evidenceRequired := task.evidenceRequired }
  require (decision.decision == .allow) (.policyDenied decision.reason)

/-- What the gateway requires of the run that comes back. -/
def release (gateway : AIGateway) (task : AITask) (inputRefs evidenceRefs : List String)
    (budget : AIBudget) (run : AIRun) : Except Failure Unit := do
  require (run.providerId == gateway.provider.providerId)
    (.valueError "AI provider returned mismatched provider_id")
  require (run.taskId == task.taskId)
    (.valueError "AI provider returned mismatched task_id")
  require (run.promptVersion == task.promptVersion)
    (.valueError "AI provider returned mismatched prompt_version")
  require (run.inputRefs == inputRefs)
    (.valueError "AI provider returned mismatched input references")
  require (!(task.evidenceRequired && run.evidenceRefs.isEmpty))
    (.valueError "AI provider returned no evidence references")
  require (!(task.evidenceRequired && !run.evidenceRefs.all evidenceRefs.contains))
    (.valueError "AI provider returned unsupported evidence references")
  require (!decide (run.tokens < 0 ∨ run.cost < 0 ∨ run.durationSeconds < 0))
    (.valueError "AI provider returned invalid usage metrics")
  require (!decide (budget.maxTokens < run.tokens))
    (.valueError "AI provider exceeded token budget")
  require (!decide (budget.maxCost < run.cost))
    (.valueError "AI provider exceeded cost budget")
  require (!decide (budget.maxDurationSeconds < run.durationSeconds))
    (.valueError "AI provider exceeded duration budget")

def auditFor (auditId : String) (context : AIExecutionContext) (task : AITask)
    (run : AIRun) (occurredAt : Instant) : AuditRecord where
  auditId := auditId
  actorId := context.actorId
  action := "ai.run"
  resourceType := "ai_task"
  resourceId := context.resourceRef
  outcome := "success"
  occurredAt := occurredAt
  metadata := [("task_id", .text task.taskId), ("provider_id", .text run.providerId),
    ("model", .text run.model), ("model_version", .text run.modelVersion),
    ("prompt_version", .text run.promptVersion), ("tokens", .number run.tokens),
    ("cost", .real run.cost), ("duration_seconds", .real run.durationSeconds),
    ("input_ref_count", .number run.inputRefs.length),
    ("evidence_ref_count", .number run.evidenceRefs.length)]
  correlationId := context.correlationId
  configurationVersion := context.configurationVersion

/-- The unit of work that stores a released run. -/
def store (column : FloatColumn) (run : AIRun) (audit : AuditRecord) :
    Tx Instant Unit := do
  AIRuns.add column run
  Audits.append audit

end AIGateway

/-- What one execution draws: two ids of `uuid4`, and the clock when the trust
is resolved and when the run is stored. -/
structure AIDraws where
  taskId : String
  auditId : String
  resolvedAt : Instant
  storedAt : Instant

def AIGateway.execute (gateway : AIGateway) (column : FloatColumn) (task : AITask)
    (inputRefs evidenceRefs : List String) (context : AIExecutionContext)
    (budget : AIBudget) (draws : AIDraws) : AIEffect AIRun := do
  Effect.lift (gateway.permit task evidenceRefs context)
  let run ← gateway.provider.run task inputRefs
  Effect.lift (gateway.release task inputRefs evidenceRefs budget run)
  AIEffect.transaction (AIGateway.store column run
    (AIGateway.auditFor draws.auditId context task run draws.storedAt)) draws.storedAt
  return run

/-- `bind_ai_execution_scope` around the gateway; the former scope is restored
whatever happens. -/
def executeScopedAI (gateway : AIGateway) (column : FloatColumn) (task : AITask)
    (inputRefs evidenceRefs : List String) (context : AIExecutionContext)
    (budget : AIBudget) (draws : AIDraws) : AIEffect AIRun := do
  let scope ← Effect.lift (AIExecutionScope.new
    ⟨evidenceRefs, context, budget, budget.maxDurationSeconds⟩)
  let former ← Effect.read AIWorld.scope
  Effect.modify fun world => { world with scope := some scope }
  (gateway.execute column task inputRefs evidenceRefs context budget draws).ensuring
    fun world => { world with scope := former }

/-- The service over one adapter, with the version that its configuration
provider answers. -/
structure AIExecutionService where
  adapter : AIProviderAdapter
  configurationVersion : Except Failure String

namespace AIExecutionService

def authorizer (request : AIExecutionRequest) : RBACAuthorizer :=
  ⟨[(request.actorId, request.permissions)]⟩

def execute (service : AIExecutionService) (column : FloatColumn)
    (request : AIExecutionRequest) (draws : AIDraws) : AIEffect AIRun := do
  Effect.lift ((authorizer request).require request.actorId .aiRun)
  let trust ← AIEffect.transaction (AIExecutionTrustResolver.resolve request.resourceRef
    request.evidenceRefs) draws.resolvedAt
  let configurationVersion ← Effect.lift service.configurationVersion
  Effect.lift (require (!PyText.blank configurationVersion)
    (.runtimeError "AI provider configuration is not active"))
  let provider ← Effect.lift (ScopedAIProvider.new service.adapter)
  let task ← Effect.lift (AITask.new ⟨draws.taskId, request.taskType,
    request.promptVersion, request.evidenceRequired⟩)
  let budget ← Effect.lift (AIBudget.new request.maxTokens request.maxCost
    request.maxDurationSeconds)
  let context ← Effect.lift (AIExecutionContext.new ⟨request.actorId,
    request.resourceRef, request.actorTrustLevel, trust.resourceTrustLevel,
    trust.evidenceLevel, some request.correlationId, some configurationVersion⟩)
  executeScopedAI ⟨provider, authorizer request⟩ column task request.inputRefs
    request.evidenceRefs context budget draws

end AIExecutionService

end ShemaPlatform
