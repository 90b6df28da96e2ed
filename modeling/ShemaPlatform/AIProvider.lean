/-
AI runs, what is asked for one, and the contract with a provider adapter.
Floats are exact rationals; `none` stands for an infinity or NaN.
-/
import ShemaPlatform.Foundation

namespace ShemaPlatform

open Calendar

structure AITask where
  taskId : String
  taskType : String
  promptVersion : String
  evidenceRequired : Bool
deriving DecidableEq

/-- What `AITask.__post_init__` accepts. -/
def AITask.new (task : AITask) : Except Failure AITask := do
  require (!PyText.blank task.taskId && !PyText.blank task.taskType)
    (.valueError "task_id and task_type are required")
  require (!PyText.blank task.promptVersion)
    (.valueError "prompt_version is required")
  return task

structure AIBudget where
  maxTokens : ℤ
  maxCost : ℚ
  maxDurationSeconds : ℚ
deriving DecidableEq

/-- What `AIBudget.__post_init__` accepts. -/
def AIBudget.new (maxTokens : ℤ) (maxCost maxDurationSeconds : Option ℚ) :
    Except Failure AIBudget := do
  require (decide (0 ≤ maxTokens)) (.valueError "max_tokens cannot be negative")
  match maxCost, maxDurationSeconds with
  | some cost, some duration => do
      require (decide (0 ≤ cost) && decide (0 ≤ duration))
        (.valueError "AI budget values must be finite and non-negative")
      return ⟨maxTokens, cost, duration⟩
  | _, _ => .error (.valueError "AI budget values must be finite and non-negative")

structure AIExecutionContext where
  actorId : String
  resourceRef : String
  actorTrustLevel : ℤ
  resourceTrustLevel : ℤ
  evidenceLevel : ℤ
  correlationId : Option String
  configurationVersion : Option String
deriving DecidableEq

/-- What `AIExecutionContext.__post_init__` accepts. -/
def AIExecutionContext.new (context : AIExecutionContext) :
    Except Failure AIExecutionContext := do
  require (!PyText.blank context.actorId && !PyText.blank context.resourceRef)
    (.valueError "actor_id and resource_ref are required")
  require (decide (0 ≤ min (min context.actorTrustLevel context.resourceTrustLevel)
      context.evidenceLevel))
    (.valueError "trust and evidence levels cannot be negative")
  return context

structure AIRun where
  runId : String
  taskId : String
  providerId : String
  model : String
  modelVersion : String
  promptVersion : String
  inputRefs : List String
  evidenceRefs : List String
  output : String
  tokens : ℤ
  cost : ℚ
  durationSeconds : ℚ
deriving DecidableEq

/-- What `AIRun.__post_init__` accepts. -/
def AIRun.new (run : AIRun) : Except Failure AIRun := do
  require ([run.runId, run.taskId, run.providerId, run.model, run.modelVersion,
      run.promptVersion].all fun value => !PyText.blank value)
    (.valueError "AI run identifiers and model versions are required")
  require (decide (0 ≤ run.tokens)) (.valueError "AI run tokens cannot be negative")
  require (decide (0 ≤ run.cost) && decide (0 ≤ run.durationSeconds))
    (.valueError "AI run usage metrics are invalid")
  return run

structure AIExecutionTrust where
  resourceTrustLevel : ℤ
  evidenceLevel : ℤ
deriving DecidableEq

/-- What `AIExecutionTrust.__post_init__` accepts. -/
def AIExecutionTrust.new (trust : AIExecutionTrust) : Except Failure AIExecutionTrust := do
  require (!decide (trust.resourceTrustLevel < 0 ∨ trust.evidenceLevel < 0))
    (.valueError "trust levels cannot be negative")
  return trust

/-- Between one and 64 references, all different and none blank. -/
def References (refs : List String) : Prop :=
  refs ≠ [] ∧ refs.length ≤ 64 ∧ refs.Nodup ∧ ∀ ref ∈ refs, PyText.blank ref = false

instance (refs : List String) : Decidable (References refs) :=
  inferInstanceAs (Decidable (_ ∧ _ ∧ _ ∧ _))

/-- A request for a run; only what `__post_init__` accepts is one. -/
structure AIExecutionRequest where
  taskType : String
  promptVersion : String
  resourceRef : String
  inputRefs : List String
  evidenceRefs : List String
  evidenceRequired : Bool
  maxTokens : ℤ
  maxCost : Option ℚ
  maxDurationSeconds : Option ℚ
  actorId : String
  actorTrustLevel : ℤ
  permissions : List Permission
  correlationId : String
  idempotencyKey : String
  valid : (PyText.blank taskType = false ∧ PyText.blank promptVersion = false) ∧
    (PyText.blank resourceRef = false ∧ PyText.blank actorId = false) ∧
    PyText.blank correlationId = false ∧
    (8 ≤ (PyText.strip idempotencyKey).length ∧
      (PyText.strip idempotencyKey).length ≤ 128) ∧
    References inputRefs ∧ References evidenceRefs ∧ 0 ≤ actorTrustLevel

inductive AIProviderKind where
  | cloud | localSelfHosted
deriving DecidableEq, Repr

inductive AIProviderReadinessState where
  | disabled | ready | notConfigured | unhealthy
deriving DecidableEq, Repr

inductive AIProviderFailureCode where
  | configuration | notReady | authentication | authorization | licenseUnverified
  | modelUnavailable | rateLimited | resourceExhausted | deadlineExceeded
  | transport | invalidResponse | policyDenied | securityBlocked
deriving DecidableEq, Repr

def AIProviderFailureCode.value : AIProviderFailureCode → String
  | .configuration => "configuration"
  | .notReady => "not_ready"
  | .authentication => "authentication"
  | .authorization => "authorization"
  | .licenseUnverified => "license_unverified"
  | .modelUnavailable => "model_unavailable"
  | .rateLimited => "rate_limited"
  | .resourceExhausted => "resource_exhausted"
  | .deadlineExceeded => "deadline_exceeded"
  | .transport => "transport"
  | .invalidResponse => "invalid_response"
  | .policyDenied => "policy_denied"
  | .securityBlocked => "security_blocked"

structure AIProviderFailure where
  code : AIProviderFailureCode
  message : String
deriving DecidableEq

structure AIProviderResourceLimits where
  maxDurationSeconds : ℚ
  maxResponseBytes : ℤ
deriving DecidableEq

structure AIModelProvenance where
  licenseCheckedAt : Option Instant
  artifactDigest : Option String
  freeCommercialUseVerified : Bool
deriving DecidableEq

structure AIProviderDescriptor where
  providerId : String
  kind : AIProviderKind
  modelId : String
  modelVersion : String
  configurationVersion : String
  resourceLimits : AIProviderResourceLimits
  provenance : AIModelProvenance
deriving DecidableEq

structure AIProviderActivation where
  enabled : Bool
  explicit : Bool
deriving DecidableEq

structure AIProviderReadiness where
  state : AIProviderReadinessState
  errorCode : Option String
deriving DecidableEq

structure AIProviderRequest where
  operationId : String
  task : AITask
  inputRefs : List String
  evidenceRefs : List String
  context : AIExecutionContext
  budget : AIBudget
  deadlineSeconds : ℚ
deriving DecidableEq

/-- What `AIProviderRequest.__post_init__` accepts. -/
def AIProviderRequest.new (request : AIProviderRequest) :
    Except Failure AIProviderRequest := do
  require (!PyText.blank request.operationId) (.valueError "operation_id is required")
  require (decide (0 < request.deadlineSeconds))
    (.valueError "deadline_seconds must be finite and positive")
  require (decide request.inputRefs.Nodup) (.valueError "input_refs must be unique")
  require (decide request.evidenceRefs.Nodup)
    (.valueError "evidence_refs must be unique")
  return request

structure AIProviderResponse where
  run : AIRun
  configurationVersion : String
deriving DecidableEq

/-- How an adapter answers each call that one execution makes, in their order.
An exception of `invoke` may carry a failure of the provider. -/
structure AIProviderAdapter where
  initialDescriptor : Except Failure AIProviderDescriptor
  checkedDescriptor : Except Failure AIProviderDescriptor
  initialActivation : Except Failure AIProviderActivation
  descriptor : Except Failure AIProviderDescriptor
  activation : Except Failure AIProviderActivation
  readiness : Except Failure AIProviderReadiness
  invoke : AIProviderRequest → Except (Option AIProviderFailure) AIProviderResponse

def approvedCloudProviderIds : List String := ["yandexgpt", "gigachat"]

def validateProviderActivation (descriptor : AIProviderDescriptor)
    (activation : AIProviderActivation) : Except Failure Unit := do
  let provenance := descriptor.provenance
  if descriptor.kind = .cloud then do
    require (approvedCloudProviderIds.contains descriptor.providerId)
      (.valueError "cloud AI provider is outside the approved allowlist")
    require (!provenance.freeCommercialUseVerified)
      (.valueError ("cloud provider provenance cannot be treated as local-model " ++
        "free-commercial-use certification"))
  if descriptor.kind = .localSelfHosted then do
    require provenance.freeCommercialUseVerified
      (.valueError "local/self-hosted model requires verified free commercial use")
    require provenance.licenseCheckedAt.isSome
      (.valueError "local/self-hosted model requires license verification date")
    require (provenance.artifactDigest.any (· ≠ ""))
      (.valueError "local/self-hosted model requires artifact digest")
  require (!(activation.enabled && !activation.explicit))
    (.valueError "provider activation must be explicit")

def validateProviderResponse (descriptor : AIProviderDescriptor)
    (request : AIProviderRequest) (response : AIProviderResponse) :
    Except Failure Unit := do
  let run := response.run
  require (run.providerId == descriptor.providerId)
    (.valueError "provider response has mismatched provider_id")
  require (run.taskId == request.task.taskId)
    (.valueError "provider response has mismatched task_id")
  require (run.promptVersion == request.task.promptVersion)
    (.valueError "provider response has mismatched prompt_version")
  require (run.model == descriptor.modelId)
    (.valueError "provider response has mismatched model_id")
  require (run.modelVersion == descriptor.modelVersion)
    (.valueError "provider response has mismatched model_version")
  require (run.inputRefs == request.inputRefs)
    (.valueError "provider response has mismatched input_refs")
  require (run.evidenceRefs.all request.evidenceRefs.contains)
    (.valueError "provider response contains unsupported evidence_refs")
  require (response.configurationVersion == descriptor.configurationVersion)
    (.valueError "provider response has mismatched configuration_version")
  require (!decide (request.budget.maxTokens < run.tokens))
    (.valueError "provider response exceeded token budget")
  require (!decide (request.budget.maxCost < run.cost))
    (.valueError "provider response exceeded cost budget")
  require (!decide (min (min request.budget.maxDurationSeconds
      descriptor.resourceLimits.maxDurationSeconds) request.deadlineSeconds <
        run.durationSeconds))
    (.valueError "provider response exceeded duration budget")
  require (!decide (descriptor.resourceLimits.maxResponseBytes <
      run.output.utf8ByteSize))
    (.valueError "provider response exceeded response-size limit")

end ShemaPlatform
