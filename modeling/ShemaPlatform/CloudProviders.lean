/-
The YandexGPT and GigaChat adapters: one call of the remote service, and what
a failed one leaves behind.  What is sent is left out; a reply is a status with
a body, and the body is what `json.loads` makes of it.
-/
import Mathlib.Algebra.Order.Floor.Ring
import Mathlib.Data.Rat.Floor
import ShemaPlatform.AIRuntime

namespace ShemaPlatform

open Effects

/-- A value that `json.loads` returns; the float of `real` is absent when it is
not finite. -/
inductive JsonValue where
  | null
  | bool (value : Bool)
  | int (value : ℤ)
  | real (value : Option ℚ)
  | text (value : String)
  | list (items : List JsonValue)
  | dict (fields : List (String × JsonValue))

namespace JsonValue

/-- `value.get(name) if isinstance(value, dict) else None` -/
def get (name : String) : JsonValue → JsonValue
  | .dict fields => (fields.lookup name).getD .null
  | _ => .null

def isDict : JsonValue → Bool
  | .dict _ => true
  | _ => false

/-- A value that is an `int`; a `bool` is one. -/
def asInt : JsonValue → Option ℤ
  | .int value => some value
  | .bool value => some (if value then 1 else 0)
  | _ => none

def asText : JsonValue → Option String
  | .text value => some value
  | _ => none

/-- `bool(value)` -/
def truthy : JsonValue → Bool
  | .null => false
  | .bool value => value
  | .int value => value != 0
  | .real value => value != some 0
  | .text value => value != ""
  | .list items => !items.isEmpty
  | .dict fields => !fields.isEmpty

end JsonValue

/-- An exception, with the failure that an execution error carries. -/
abbrev Raised := Option AIProviderFailure

/-- `if not condition: raise …ExecutionError(failure)` -/
def demand (condition : Bool) (failure : AIProviderFailure) : Except Raised Unit :=
  if condition then .ok () else .error (some failure)

/-- A computation none of whose exceptions is an execution error. -/
def unrecorded {α : Type} : Except Failure α → Except Raised α
  | .ok value => .ok value
  | .error _ => .error none

/-- Why `json.loads` fails: a `JSONDecodeError`, or anything else it raises. -/
inductive JsonFailure where
  | decode | other
deriving DecidableEq, Repr

/-- The status of a reply and its body, by its size in bytes and its content. -/
structure Reply where
  status : ℤ
  size : ℕ
  loaded : Except JsonFailure JsonValue

/-- How one request ends: an injected requester answers or raises; otherwise
`secure_urlopen` returns, or raises an `HTTPError`, with a reply, or raises a
`TimeoutError`, an `URLError` or any other exception. -/
inductive Exchange where
  | requested (outcome : Except Raised Reply)
  | opened (reply : Reply)
  | timedOut
  | unreachable
  | raised

/-- What both configurations bound a call by. -/
structure CloudLimits where
  timeoutSeconds : ℚ
  maxResponseBytes : ℤ
  maxInputChars : ℤ
  maxOutputTokens : ℤ
  maxCost : ℚ
  configurationVersion : String
  activationVersion : String
  bounded : (0 < timeoutSeconds ∧ timeoutSeconds ≤ 30) ∧
    (0 < maxResponseBytes ∧ maxResponseBytes ≤ 4194304) ∧
    (0 < maxInputChars ∧ maxInputChars ≤ 131072) ∧
    (0 < maxOutputTokens ∧ maxOutputTokens ≤ 16384) ∧ 0 < maxCost
  versioned : configurationVersion ≠ "" ∧ activationVersion ≠ ""

/-- What `YandexGPTConfiguration.__post_init__` accepts. -/
structure YandexGPTConfiguration extends CloudLimits where
  modelUri : String
  scheme : PyText.startsWith modelUri "gpt://" = true
  parts : 4 ≤ (modelUri.toList.splitOn '/').length

def allowedScopes : List String :=
  ["GIGACHAT_API_PERS", "GIGACHAT_API_B2B", "GIGACHAT_API_CORP"]

/-- What `GigaChatConfiguration.__post_init__` accepts. -/
structure GigaChatConfiguration extends CloudLimits where
  model : String
  scope : String
  named : PyText.blank model = false
  scopeAllowed : scope ∈ allowedScopes

/-- What the composition hands to an adapter; the estimate may raise, and it
is absent when it is not finite. -/
structure AIMaterials where
  promptRenderer : AIProviderRequest → Except Raised String
  costEstimator : ℤ → ℤ → Except Unit (Option ℚ)

section Invocation

-- the name of the service, as the messages spell it
variable (name : String)

/-- `_request` of one adapter and `_request_json` of the other -/
def requestBounded (maxResponseBytes : ℤ) : Exchange → Except Raised Reply
  | .requested outcome => outcome
  | .opened reply => do
      demand (decide (reply.size ≤ maxResponseBytes)) ⟨.invalidResponse,
        s!"{name} response exceeded configured response-size limit"⟩
      return reply
  | .timedOut => .error (some ⟨.deadlineExceeded, s!"{name} request timed out"⟩)
  | .unreachable =>
      .error (some ⟨.transport, s!"{name} request failed at transport level"⟩)
  | .raised => .error none

/-- What is checked before the `try` block; the time the call may take. -/
def prepare (limits : CloudLimits) (request : AIProviderRequest)
    (rendered : Except Raised String) : Except Raised ℚ := do
  let prompt ← rendered
  demand (!PyText.blank prompt)
    ⟨.configuration, s!"{name} prompt renderer returned an empty prompt"⟩
  demand (decide (prompt.length ≤ limits.maxInputChars))
    ⟨.resourceExhausted, s!"{name} prompt exceeds configured input limit"⟩
  let timeout := min (min limits.timeoutSeconds request.deadlineSeconds)
    request.budget.maxDurationSeconds
  demand (decide (0 < timeout))
    ⟨.deadlineExceeded, s!"{name} deadline is already exhausted"⟩
  return timeout

def loadJson (message : String) (reply : Reply) : Except Raised JsonValue :=
  match reply.loaded with
  | .ok value => .ok value
  | .error .decode => .error (some ⟨.invalidResponse, message⟩)
  | .error .other => .error none

/-- The text of the first choice. -/
def textContent (choice : JsonValue) : Except Raised String :=
  match ((choice.get "message").get "content").asText with
  | some output => do
      demand (!PyText.blank output)
        ⟨.invalidResponse, s!"{name} response has no usable text content"⟩
      return output
  | none =>
      .error (some ⟨.invalidResponse, s!"{name} response has no usable text content"⟩)

structure TokenUsage where
  input : ℤ
  output : ℤ
  total : ℤ

/-- The tokens a reply reports, within the budget for the output. -/
def tokenUsage (usage : JsonValue) (maxTokens : ℤ) : Except Raised TokenUsage :=
  match (usage.get "prompt_tokens").asInt, (usage.get "completion_tokens").asInt,
      (usage.get "total_tokens").asInt with
  | some input, some output, some total => do
      demand (decide (0 ≤ input ∧ 0 ≤ output ∧ 0 ≤ total))
        ⟨.invalidResponse, s!"{name} response has invalid token usage"⟩
      demand (decide (total = input + output))
        ⟨.invalidResponse, s!"{name} token usage is internally inconsistent"⟩
      demand (decide (output ≤ maxTokens)) ⟨.resourceExhausted,
        s!"{name} completion exceeded configured token budget"⟩
      return ⟨input, output, total⟩
  | _, _, _ =>
      .error (some ⟨.invalidResponse, s!"{name} response has invalid token usage"⟩)

def estimatedCost : Except Unit (Option ℚ) → Except Raised ℚ
  | .ok (some cost) => do
      demand (decide (0 ≤ cost))
        ⟨.configuration, s!"{name} cost estimator returned an invalid amount"⟩
      return cost
  | .ok none => .error
      (some ⟨.configuration, s!"{name} cost estimator returned an invalid amount"⟩)
  | .error _ => .error (some ⟨.configuration, s!"{name} cost estimator failed"⟩)

/-- What one call may spend on its completion. -/
def outputLimit (limits : CloudLimits) (request : AIProviderRequest) : ℤ :=
  min request.budget.maxTokens limits.maxOutputTokens

end Invocation

/-- The descriptor of a cloud adapter; its versions are not blank. -/
def cloudDescriptor (providerId modelId : String) (limits : CloudLimits) :
    AIProviderDescriptor where
  providerId := providerId
  kind := .cloud
  modelId := modelId
  modelVersion := "latest"
  configurationVersion := limits.configurationVersion
  resourceLimits := ⟨limits.timeoutSeconds, limits.maxResponseBytes⟩
  provenance := ⟨none, none, false⟩

/-- An adapter whose calls change its state, which each call meets with other
surroundings. -/
structure CloudAdapter (S M : Type) where
  descriptor : AIProviderDescriptor
  approved : validateProviderActivation descriptor ⟨true, true⟩ = .ok ()
  lastFailureCode : S → Option String
  invoke : S → M → AIProviderRequest → Except Raised AIProviderResponse × S

namespace CloudAdapter

variable {S M : Type} (adapter : CloudAdapter S M)

/-- `readiness` of both adapters -/
def readiness (state : S) : AIProviderReadiness :=
  match adapter.lastFailureCode state with
  | some code => ⟨.unhealthy, some code⟩
  | none => ⟨.ready, none⟩

/-- The adapter as one call finds it. -/
def found (state : S) (met : M) : AIProviderAdapter where
  initialDescriptor := .ok adapter.descriptor
  checkedDescriptor := .ok adapter.descriptor
  initialActivation := .ok ⟨true, true⟩
  descriptor := .ok adapter.descriptor
  activation := .ok ⟨true, true⟩
  readiness := .ok (adapter.readiness state)
  invoke request := (adapter.invoke state met request).1

end CloudAdapter

/-- One call of `ScopedAIProvider.run`, in the scope that is bound. -/
structure ScopedCall (M : Type) where
  scope : Option AIExecutionScope
  task : AITask
  inputRefs : List String
  met : M

namespace CloudAdapter

variable {S M : Type} (adapter : CloudAdapter S M)

/-- `ScopedAIProvider.run` over the adapter, and the state it leaves: that of
the requests which have reached the adapter. -/
def run (state : S) (call : ScopedCall M) : Except Failure AIRun × S :=
  let provider : ScopedAIProvider :=
    ⟨adapter.found state call.met, adapter.descriptor.providerId⟩
  let (outcome, world) := (provider.run call.task call.inputRefs).run ⟨[], call.scope, []⟩
  (outcome, world.invoked.foldl
    (fun state request => (adapter.invoke state call.met request).2) state)

/-- The state after some calls. -/
def after (state : S) (calls : List (ScopedCall M)) : S :=
  calls.foldl (fun state call => (adapter.run state call).2) state

end CloudAdapter

theorem cloudDescriptor_approved {providerId : String}
    (happroved : providerId ∈ approvedCloudProviderIds) (modelId : String)
    (limits : CloudLimits) :
    validateProviderActivation (cloudDescriptor providerId modelId limits)
      ⟨true, true⟩ = .ok () := by
  have hcontains := List.contains_iff_mem.mpr happroved
  simp only [validateProviderActivation, cloudDescriptor, hcontains]
  rfl

/-- What one call of YandexGPT meets: the request's outcome, and the clock
before the prompt is rendered and after the reply is read. -/
structure YandexGPTMet where
  exchange : Exchange
  started : ℚ
  finished : ℚ

/-- `str` of a JSON value that is not a text is left open. -/
structure YandexGPTProvider where
  configuration : YandexGPTConfiguration
  materials : AIMaterials
  str : JsonValue → String
  named : PyText.blank configuration.configurationVersion = false ∧
    PyText.blank configuration.activationVersion = false

namespace YandexGPTProvider

variable (provider : YandexGPTProvider)

def descriptor : AIProviderDescriptor :=
  cloudDescriptor "yandexgpt" provider.configuration.modelUri
    provider.configuration.toCloudLimits

def checkStatus (status : ℤ) : Except Raised Unit := do
  demand (!decide (status = 401 ∨ status = 403))
    ⟨if status = 401 then .authentication else .authorization,
      s!"YandexGPT authentication/authorization failed ({status})"⟩
  demand (status != 429) ⟨.rateLimited, "YandexGPT rate limit reached"⟩
  demand (decide (status < 500))
    ⟨.transport, s!"YandexGPT service returned HTTP {status}"⟩
  demand (status == 200)
    ⟨.invalidResponse, s!"YandexGPT request returned unexpected HTTP {status}"⟩

/-- `payload_json.get("choices", [None])[0]`; indexing anything but a list or a
text that is not empty raises. -/
def firstChoice : JsonValue → Except Raised JsonValue
  | .dict fields =>
      match (fields.lookup "choices").getD (.list [.null]) with
      | .list (choice :: _) => .ok choice
      | .text value =>
          if value = "" then .error none else .ok (.text (String.ofList (value.toList.take 1)))
      | _ => .error none
  | _ => .ok .null

/-- `str(response_id or request.operation_id)` -/
def runId (responseId : JsonValue) (request : AIProviderRequest) : String :=
  if responseId.truthy then responseId.asText.getD (provider.str responseId)
  else request.operationId

/-- The `try` block of `invoke`. -/
def attempt (met : YandexGPTMet) (request : AIProviderRequest) (timeout : ℚ) :
    Except Raised AIProviderResponse := do
  let configuration := provider.configuration
  let reply ← requestBounded "YandexGPT" configuration.maxResponseBytes met.exchange
  demand (decide (reply.size ≤ configuration.maxResponseBytes)) ⟨.invalidResponse,
    "YandexGPT response exceeded configured response-size limit"⟩
  checkStatus reply.status
  let payload ← loadJson "YandexGPT returned invalid JSON" reply
  let choice ← firstChoice payload
  let output ← textContent "YandexGPT" choice
  demand (payload.get "usage").isDict
    ⟨.invalidResponse, "YandexGPT response omitted token usage"⟩
  let usage ← tokenUsage "YandexGPT" (payload.get "usage")
    (outputLimit configuration.toCloudLimits request)
  let cost ← estimatedCost "YandexGPT"
    (provider.materials.costEstimator usage.input usage.output)
  let duration := met.finished - met.started
  demand (decide (duration ≤ timeout))
    ⟨.deadlineExceeded, "YandexGPT execution exceeded the bounded deadline"⟩
  let run ← unrecorded (AIRun.new {
    runId := provider.runId (payload.get "id") request
    taskId := request.task.taskId
    providerId := "yandexgpt"
    model := configuration.modelUri
    modelVersion := "latest"
    promptVersion := request.task.promptVersion
    inputRefs := request.inputRefs
    evidenceRefs := request.evidenceRefs
    output := output
    tokens := usage.total
    cost := cost
    durationSeconds := duration })
  let response : AIProviderResponse := ⟨run, configuration.configurationVersion⟩
  unrecorded (validateProviderResponse provider.descriptor request response)
  return response

/-- The last failure code is the state; only an execution error of the `try`
block sets it, and only an accepted response clears it. -/
def invoke (lastFailureCode : Option String) (met : YandexGPTMet)
    (request : AIProviderRequest) : Except Raised AIProviderResponse × Option String :=
  match prepare "YandexGPT" provider.configuration.toCloudLimits request
      (provider.materials.promptRenderer request) with
  | .error raised => (.error raised, lastFailureCode)
  | .ok timeout =>
      match provider.attempt met request timeout with
      | .ok response => (.ok response, none)
      | .error (some failure) => (.error (some failure), some failure.code.value)
      | .error none => (.error none, lastFailureCode)

def adapter : CloudAdapter (Option String) YandexGPTMet where
  descriptor := provider.descriptor
  approved := cloudDescriptor_approved (by simp [approvedCloudProviderIds]) _ _
  lastFailureCode := id
  invoke := provider.invoke

end YandexGPTProvider

/-- What one call of GigaChat meets: how the requests for a token and for the
completion end, the clocks, and the id drawn for the run. -/
structure GigaChatMet where
  token : Exchange
  exchange : Exchange
  now : ℚ
  started : ℚ
  beforeAuthorization : ℚ
  beforeGeneration : ℚ
  finished : ℚ
  runId : String

structure AccessToken where
  value : String
  expiresAt : ℚ
deriving DecidableEq

structure GigaChatState where
  token : Option AccessToken
  lastFailureCode : Option String
deriving DecidableEq

structure GigaChatProvider where
  configuration : GigaChatConfiguration
  materials : AIMaterials
  named : PyText.blank configuration.configurationVersion = false ∧
    PyText.blank configuration.activationVersion = false

namespace GigaChatProvider

def tokenSafetyWindowSeconds : ℤ := 30

/-- `int(value)` of a float -/
def truncate (value : ℚ) : ℤ :=
  if 0 ≤ value then ⌊value⌋ else ⌈value⌉

/-- `float(value)`, which overflows from the largest float on. -/
def float (value : ℤ) : Except Raised ℚ :=
  if value.natAbs < 2 ^ 1024 - 2 ^ 970 then .ok value else .error none

def checkTokenStatus (status : ℤ) : Except Raised Unit := do
  demand (status != 401)
    ⟨.authentication, "GigaChat authorization key was rejected"⟩
  demand (status != 429) ⟨.rateLimited, "GigaChat token rate limit reached"⟩
  demand (decide (status < 500))
    ⟨.transport, s!"GigaChat token service returned HTTP {status}"⟩
  demand (status == 200)
    ⟨.invalidResponse, s!"GigaChat token request returned HTTP {status}"⟩

/-- When a granted token is no longer used. -/
def cachedExpiry (data : JsonValue) (now : ℚ) : Except Raised ℚ :=
  match (data.get "expires_at").asInt with
  | some expiresAt => do
      demand (decide (truncate now < expiresAt))
        ⟨.invalidResponse, "GigaChat token response has invalid expires_at"⟩
      let early ← float (expiresAt - tokenSafetyWindowSeconds)
      if early ≤ now then float expiresAt else return early
  | none =>
      .error (some ⟨.invalidResponse, "GigaChat token response has invalid expires_at"⟩)

/-- The token a reply grants. -/
def grantedToken (data : JsonValue) (now : ℚ) : Except Raised AccessToken :=
  match (data.get "access_token").asText with
  | some value => do
      demand (!PyText.blank value)
        ⟨.invalidResponse, "GigaChat token response omitted access_token"⟩
      let expiresAt ← cachedExpiry data now
      return ⟨value, expiresAt⟩
  | none =>
      .error (some ⟨.invalidResponse, "GigaChat token response omitted access_token"⟩)

variable (provider : GigaChatProvider)

def descriptor : AIProviderDescriptor :=
  cloudDescriptor "gigachat" provider.configuration.model
    provider.configuration.toCloudLimits

/-- The request for another token. -/
def renewToken (met : GigaChatMet) : Except Raised AccessToken := do
  let reply ← requestBounded "GigaChat" provider.configuration.maxResponseBytes met.token
  checkTokenStatus reply.status
  let data ← loadJson "GigaChat token endpoint returned invalid JSON" reply
  grantedToken data met.now

/-- A token that is kept is used until it expires. -/
def keptToken (kept : Option AccessToken) (now : ℚ) : Option AccessToken :=
  kept.filter fun token => decide (now < token.expiresAt)

def getAccessToken (met : GigaChatMet) : Effect (Option AccessToken) Raised String := do
  match ← Effect.read fun kept => keptToken kept met.now with
  | some token => return token.value
  | none => do
      let token ← Effect.lift (provider.renewToken met)
      Effect.modify fun _ => some token
      return token.value

def checkStatus (status : ℤ) : Except Raised Unit := do
  demand (status != 401) ⟨.authentication, "GigaChat access token was rejected"⟩
  demand (status != 403) ⟨.authorization, "GigaChat request was not authorized"⟩
  demand (status != 404) ⟨.modelUnavailable, "GigaChat model was not found"⟩
  demand (status != 422)
    ⟨.invalidResponse, "GigaChat rejected request parameters"⟩
  demand (status != 429) ⟨.rateLimited, "GigaChat request rate limit reached"⟩
  demand (decide (status < 500))
    ⟨.transport, s!"GigaChat service returned HTTP {status}"⟩
  demand (status == 200)
    ⟨.invalidResponse, s!"GigaChat request returned unexpected HTTP {status}"⟩

def firstChoice (payload : JsonValue) : JsonValue :=
  match payload.get "choices" with
  | .list (choice :: _) => choice
  | _ => .null

/-- The model a reply names is the one asked for, or a version of it. -/
def sameModel (model : String) (response : JsonValue) : Bool :=
  response.asText.any fun responseModel => !PyText.blank responseModel &&
    (responseModel == model || PyText.startsWith responseModel (model ++ ":"))

/-- The `try` block of `invoke` once there is an access token. -/
def generate (met : GigaChatMet) (request : AIProviderRequest) (timeout : ℚ) :
    Except Raised AIProviderResponse := do
  let configuration := provider.configuration
  demand (decide (0 < met.started + timeout - met.beforeGeneration))
    ⟨.deadlineExceeded, "GigaChat deadline expired before generation"⟩
  let reply ← requestBounded "GigaChat" configuration.maxResponseBytes met.exchange
  checkStatus reply.status
  let payload ← loadJson "GigaChat returned invalid JSON" reply
  let output ← textContent "GigaChat" (firstChoice payload)
  demand (payload.get "usage").isDict
    ⟨.invalidResponse, "GigaChat response omitted token usage"⟩
  demand (sameModel configuration.model (payload.get "model"))
    ⟨.invalidResponse, "GigaChat response has mismatched model identity"⟩
  let usage ← tokenUsage "GigaChat" (payload.get "usage")
    (outputLimit configuration.toCloudLimits request)
  let cost ← estimatedCost "GigaChat"
    (provider.materials.costEstimator usage.input usage.output)
  let duration := met.finished - met.started
  demand (decide (duration ≤ timeout))
    ⟨.deadlineExceeded, "GigaChat execution exceeded the bounded deadline"⟩
  let run ← unrecorded (AIRun.new {
    runId := met.runId
    taskId := request.task.taskId
    providerId := "gigachat"
    model := configuration.model
    modelVersion := "latest"
    promptVersion := request.task.promptVersion
    inputRefs := request.inputRefs
    evidenceRefs := request.evidenceRefs
    output := output
    tokens := usage.total
    cost := cost
    durationSeconds := duration })
  let response : AIProviderResponse := ⟨run, configuration.configurationVersion⟩
  unrecorded (validateProviderResponse provider.descriptor request response)
  return response

/-- The `try` block of `invoke`, over the token that is kept. -/
def attempt (met : GigaChatMet) (request : AIProviderRequest) (timeout : ℚ) :
    Effect (Option AccessToken) Raised AIProviderResponse := do
  Effect.lift (demand (decide (0 < met.started + timeout - met.beforeAuthorization))
    ⟨.deadlineExceeded, "GigaChat deadline expired before authorization"⟩)
  let _ ← provider.getAccessToken met
  Effect.lift (provider.generate met request timeout)

def invoke (state : GigaChatState) (met : GigaChatMet) (request : AIProviderRequest) :
    Except Raised AIProviderResponse × GigaChatState :=
  match prepare "GigaChat" provider.configuration.toCloudLimits request
      (provider.materials.promptRenderer request) with
  | .error raised => (.error raised, state)
  | .ok timeout =>
      match (provider.attempt met request timeout).run state.token with
      | (.ok response, token) => (.ok response, ⟨token, none⟩)
      | (.error (some failure), token) =>
          (.error (some failure), ⟨token, some failure.code.value⟩)
      | (.error none, token) => (.error none, ⟨token, state.lastFailureCode⟩)

def adapter : CloudAdapter GigaChatState GigaChatMet where
  descriptor := provider.descriptor
  approved := cloudDescriptor_approved (by simp [approvedCloudProviderIds]) _ _
  lastFailureCode := GigaChatState.lastFailureCode
  invoke := provider.invoke

end GigaChatProvider

end ShemaPlatform
