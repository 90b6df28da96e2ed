/-
The production gates of YandexGPT and GigaChat.  They share their checks and
differ in what they read of a snapshot and in how they bound a request: one asks
the store again for the ceilings, the other its own copy of the activation.
-/
import ShemaPlatform.AIRuntime
import ShemaPlatform.CloudProviders
import ShemaPlatform.ProviderActivation
import ShemaPlatform.PyUnicode

namespace ShemaPlatform

open Calendar Effects

/-- A value of a snapshot, by what `str`, `float` and `int` make of it; the float
is absent when it is not finite. -/
structure SnapshotValue where
  str : String
  float : Except Failure (Option ℚ)
  int : Except Failure ℤ

structure ConfigurationSnapshot where
  environment : String
  values : List (String × SnapshotValue)
  featureFlags : List (String × Bool)

namespace ConfigurationSnapshot

/-- `snapshot.values[key]` -/
def value (snapshot : ConfigurationSnapshot) (key : String) :
    Except Failure SnapshotValue :=
  match snapshot.values.lookup key with
  | some value => .ok value
  | none => .error (.keyError key)

/-- `snapshot.feature_flags.get(name, False)` -/
def flag (snapshot : ConfigurationSnapshot) (name : String) : Bool :=
  (snapshot.featureFlags.lookup name).getD false

def missing (snapshot : ConfigurationSnapshot) (keys : List String) : List String :=
  keys.filter fun key => (snapshot.values.lookup key).isNone

end ConfigurationSnapshot

/-- What a replica is composed with, and the secret in its environment. -/
structure CloudRuntime where
  snapshot : ConfigurationSnapshot
  environmentSecret : String

/-- The arguments of `activate`. -/
structure ActivationOrder where
  activatedBy : String
  secret : Option String
deriving DecidableEq

/-- A condition that has been checked. -/
def checked (condition : Prop) [Decidable condition] (error : Failure) :
    Except Failure (PLift condition) :=
  if h : condition then .ok ⟨h⟩ else .error error

/-- `if not isfinite(value) or value <= 0: raise ValueError(message)` -/
def finitePositive (message : String) : Option ℚ → Except Failure { value : ℚ // 0 < value }
  | some value => if h : 0 < value then .ok ⟨value, h⟩ else .error (.valueError message)
  | none => .error (.valueError message)

/-- What `__post_init__` of both configurations checks last. -/
def CloudLimits.new (timeoutSeconds : Option ℚ)
    (maxResponseBytes maxInputChars maxOutputTokens : ℤ) (maxCost : Option ℚ)
    (configurationVersion activationVersion : String) : Except Failure CloudLimits := do
  let timeout ← finitePositive "timeout_seconds must be finite and positive" timeoutSeconds
  let timely ← checked (timeout.val ≤ 30)
    (.valueError "timeout_seconds must not exceed 30 seconds")
  let bytes ← checked (0 < maxResponseBytes ∧ maxResponseBytes ≤ 4194304)
    (.valueError "max_response_bytes is outside the allowed range")
  let chars ← checked (0 < maxInputChars ∧ maxInputChars ≤ 131072)
    (.valueError "max_input_chars is outside the allowed range")
  let tokens ← checked (0 < maxOutputTokens ∧ maxOutputTokens ≤ 16384)
    (.valueError "max_output_tokens is outside the allowed range")
  let cost ← finitePositive "max_cost must be finite and positive" maxCost
  let configured ← checked (configurationVersion ≠ "")
    (.valueError "configuration_version is required")
  let activated ← checked (activationVersion ≠ "")
    (.valueError "activation_version is required")
  return {
    timeoutSeconds := timeout.val, maxResponseBytes, maxInputChars, maxOutputTokens
    maxCost := cost.val, configurationVersion, activationVersion
    bounded := ⟨⟨timeout.property, timely.down⟩, bytes.down, chars.down, tokens.down,
      cost.property⟩
    versioned := ⟨configured.down, activated.down⟩ }

/-- What `urlsplit` finds in a URL; its port may not be a number. -/
structure SplitResult where
  scheme : String
  hostname : Option String
  port : Except Failure (Option ℕ)
  query : String
  fragment : String

/-- The checks of a URL of a service. -/
def pinnedUrl (title host : String) (port : Option ℕ) (url : SplitResult) :
    Except Failure Unit := do
  let elsewhere := Failure.valueError s!"{title} must target the pinned official host"
  require (url.scheme == "https") (.valueError s!"{title} must use HTTPS")
  require (url.hostname == some host) elsewhere
  let found ← url.port
  require (found == port && url.query == "" && url.fragment == "") elsewhere

/-- `text.rstrip("/")` -/
def withoutSlashes (text : String) : String :=
  String.ofList (text.toList.reverse.dropWhile (· == '/')).reverse

/-- The version that a composition hands to its gate, which it reads at once. -/
def configurationVersionOf (title : String) (snapshot : ConfigurationSnapshot) : String :=
  ((snapshot.values.lookup s!"{title}.configuration_version").map SnapshotValue.str).getD ""

/-- What both configurations read of a snapshot for their last checks. -/
def limitsOf (title : String) (snapshot : ConfigurationSnapshot) :
    Except Failure (Except Failure CloudLimits) := do
  let timeout ← (← snapshot.value s!"{title}.timeout_seconds").float
  let bytes ← (← snapshot.value s!"{title}.max_response_bytes").int
  let chars ← (← snapshot.value s!"{title}.max_input_chars").int
  let tokens ← (← snapshot.value s!"{title}.max_output_tokens").int
  let cost ← (← snapshot.value s!"{title}.max_cost").float
  let configurationVersion ← snapshot.value s!"{title}.configuration_version"
  let activationVersion ← snapshot.value s!"{title}.activation_version"
  return CloudLimits.new timeout bytes chars tokens cost configurationVersion.str
    activationVersion.str

/-- What the descriptor and the activation of a new provider check. -/
def describable (model : String) (limits : CloudLimits) : Except Failure Unit := do
  require (!PyText.blank model) (.valueError "model_id is required")
  require (!PyText.blank limits.configurationVersion)
    (.valueError "configuration_version is required")
  require (!PyText.blank limits.activationVersion)
    (.valueError "activation_version is required")

theorem value_eq_ok {snapshot : ConfigurationSnapshot} {key : String}
    {value : SnapshotValue} :
    snapshot.value key = .ok value ↔ snapshot.values.lookup key = some value := by
  unfold ConfigurationSnapshot.value
  split
  · rename_i found hfound
    rw [hfound]
    simp
  · rename_i hnone
    rw [hnone]
    simp

theorem CloudLimits.new_version {timeoutSeconds : Option ℚ}
    {maxResponseBytes maxInputChars maxOutputTokens : ℤ} {maxCost : Option ℚ}
    {configurationVersion activationVersion : String} {limits : CloudLimits}
    (h : CloudLimits.new timeoutSeconds maxResponseBytes maxInputChars maxOutputTokens
      maxCost configurationVersion activationVersion = .ok limits) :
    limits.configurationVersion = configurationVersion := by
  simp only [CloudLimits.new, bind_eq_ok, pure_eq_ok] at h
  obtain ⟨_, _, _, _, _, _, _, _, _, _, _, _, _, _, _, _, rfl⟩ := h
  rfl

theorem limitsOf_version {title : String} {snapshot : ConfigurationSnapshot}
    {read : Except Failure CloudLimits} {limits : CloudLimits}
    (hread : limitsOf title snapshot = .ok read) (hlimits : read = .ok limits) :
    limits.configurationVersion = configurationVersionOf title snapshot := by
  simp only [limitsOf, bind_eq_ok, pure_eq_ok, value_eq_ok] at hread
  obtain ⟨_, _, _, _, _, _, _, _, _, _, _, _, _, _, _, _, _, _, _, _, version, hversion,
    _, _, rfl⟩ := hread
  rw [CloudLimits.new_version hlimits, configurationVersionOf, hversion]
  rfl

section Services

variable (urlsplit : String → Except Failure SplitResult)

def configureYandexGPT (snapshot : ConfigurationSnapshot) (apiKey : String) :
    Except Failure CloudLimits := do
  let modelUri ← snapshot.value "ai.yandexgpt.model_uri"
  let baseUrl ← snapshot.value "ai.yandexgpt.base_url"
  let checkedLimits ← limitsOf "ai.yandexgpt" snapshot
  require (!PyText.blank apiKey) (.valueError "YANDEXGPT_API_KEY is required")
  require (PyText.startsWith modelUri.str "gpt://")
    (.valueError "model_uri must use the gpt:// scheme")
  require (decide (4 ≤ (modelUri.str.toList.splitOn '/').length))
    (.valueError "model_uri must identify a folder and model")
  let url ← urlsplit (withoutSlashes baseUrl.str)
  pinnedUrl "YandexGPT base_url" "ai.api.cloud.yandex.net" none url
  let limits ← checkedLimits
  describable modelUri.str limits
  return limits

def yandexGPTKeys : List String :=
  ["ai.yandexgpt.model_uri", "ai.yandexgpt.base_url", "ai.yandexgpt.timeout_seconds",
    "ai.yandexgpt.max_response_bytes", "ai.yandexgpt.max_input_chars",
    "ai.yandexgpt.max_output_tokens", "ai.yandexgpt.max_cost",
    "ai.yandexgpt.configuration_version", "ai.yandexgpt.activation_version"]

def configureGigaChat (snapshot : ConfigurationSnapshot) (authorizationKey : String) :
    Except Failure CloudLimits := do
  let model ← snapshot.value "ai.gigachat.model"
  let scope ← snapshot.value "ai.gigachat.scope"
  let baseUrl ← snapshot.value "ai.gigachat.base_url"
  let tokenUrl ← snapshot.value "ai.gigachat.token_url"
  let checkedLimits ← limitsOf "ai.gigachat" snapshot
  require (!PyText.blank authorizationKey)
    (.valueError "GIGACHAT_AUTHORIZATION_KEY is required")
  require (!PyText.blank model.str) (.valueError "GIGACHAT_MODEL is required")
  require (allowedScopes.contains scope.str) (.valueError "GIGACHAT_SCOPE is invalid")
  let base ← urlsplit (withoutSlashes baseUrl.str)
  pinnedUrl "GigaChat base_url" "api.giga.chat" none base
  let token ← urlsplit (withoutSlashes tokenUrl.str)
  pinnedUrl "GigaChat token_url" "ngw.devices.sberbank.ru" (some 9443) token
  let limits ← checkedLimits
  describable model.str limits
  return limits

def gigaChatKeys : List String :=
  ["ai.gigachat.model", "ai.gigachat.scope", "ai.gigachat.base_url",
    "ai.gigachat.token_url", "ai.gigachat.timeout_seconds",
    "ai.gigachat.max_response_bytes", "ai.gigachat.max_input_chars",
    "ai.gigachat.max_output_tokens", "ai.gigachat.max_cost",
    "ai.gigachat.configuration_version", "ai.gigachat.activation_version"]

def productionScopes : List String := ["GIGACHAT_API_B2B", "GIGACHAT_API_CORP"]

theorem configureYandexGPT_version {snapshot : ConfigurationSnapshot} {secret : String}
    {limits : CloudLimits} (h : configureYandexGPT urlsplit snapshot secret = .ok limits) :
    limits.configurationVersion = configurationVersionOf "ai.yandexgpt" snapshot := by
  simp only [configureYandexGPT, bind_eq_ok, pure_eq_ok] at h
  obtain ⟨_, _, _, _, read, hread, _, _, _, _, _, _, _, _, _, _, _, hlimits, _, _, rfl⟩ := h
  exact limitsOf_version hread hlimits

theorem configureGigaChat_version {snapshot : ConfigurationSnapshot} {secret : String}
    {limits : CloudLimits} (h : configureGigaChat urlsplit snapshot secret = .ok limits) :
    limits.configurationVersion = configurationVersionOf "ai.gigachat" snapshot := by
  simp only [configureGigaChat, bind_eq_ok, pure_eq_ok] at h
  obtain ⟨_, _, _, _, _, _, _, _, read, hread, _, _, _, _, _, _, _, _, _, _, _, _, _, _, _,
    hlimits, _, _, rfl⟩ := h
  exact limitsOf_version hread hlimits

end Services

/-- What the two services differ in. -/
structure CloudService where
  name : String
  /-- the first part of the keys in a snapshot -/
  title : String
  secretName : String
  requiredKeys : List String
  /-- what `activate` asks of the values of a snapshot, once they are all there -/
  admitsValues : ConfigurationSnapshot → Except Failure Unit
  /-- the configuration, and the provider that is built from it -/
  configure : ConfigurationSnapshot → String → Except Failure CloudLimits
  versioned : ∀ {snapshot secret limits}, configure snapshot secret = .ok limits →
    limits.configurationVersion = configurationVersionOf title snapshot

def yandexGPT (urlsplit : String → Except Failure SplitResult) : CloudService where
  name := "YandexGPT"
  title := "ai.yandexgpt"
  secretName := "YANDEXGPT_API_KEY"
  requiredKeys := yandexGPTKeys
  admitsValues _ := .ok ()
  configure := configureYandexGPT urlsplit
  versioned := configureYandexGPT_version urlsplit

def gigaChat (urlsplit : String → Except Failure SplitResult) : CloudService where
  name := "GigaChat"
  title := "ai.gigachat"
  secretName := "GIGACHAT_AUTHORIZATION_KEY"
  requiredKeys := gigaChatKeys
  admitsValues snapshot := do
    let scope ← snapshot.value "ai.gigachat.scope"
    require (productionScopes.contains scope.str)
      (.runtimeError "GigaChat production activation requires a B2B or CORP scope")
  configure := configureGigaChat urlsplit
  versioned := configureGigaChat_version urlsplit

namespace CloudService

variable (service : CloudService)

/-- The flag that `activate` asks for. -/
def productionEnabled (snapshot : ConfigurationSnapshot) : Bool :=
  PyText.lower (PyText.strip snapshot.environment) == "production" &&
    snapshot.flag s!"{service.title}.production.enabled"

/-- `(given or os.getenv(…, "")).strip()` -/
def secretOf (runtime : CloudRuntime) (order : Option String) : String :=
  PyText.strip ((order.filter fun secret => secret != "").getD runtime.environmentSecret)

/-- The checks of `activate`, and the row that it stores. -/
def prepare (runtime : CloudRuntime) (order : ActivationOrder) :
    Except Failure (Instant → ProviderActivationState) := do
  let snapshot := runtime.snapshot
  require (PyText.lower (PyText.strip snapshot.environment) == "production")
    (.runtimeError s!"{service.name} production activation requires production environment")
  require (snapshot.flag s!"{service.title}.production.enabled")
    (.runtimeError s!"{service.name} production activation is disabled by configuration")
  require (!PyText.blank order.activatedBy)
    (.runtimeError s!"{service.name} production activation requires an explicit operator")
  let missing := ", ".intercalate (snapshot.missing service.requiredKeys)
  require (snapshot.missing service.requiredKeys).isEmpty (.runtimeError
    s!"{service.name} production snapshot is missing required values: {missing}")
  service.admitsValues snapshot
  let secret := secretOf runtime order.secret
  require (secret != "")
    (.runtimeError s!"{service.name} production activation requires {service.secretName}")
  let limits ← service.configure snapshot secret
  return fun now => { ProviderActivationState.disabled with
    enabled := true
    configurationVersion := some limits.configurationVersion
    activationVersion := some limits.activationVersion
    activatedBy := some order.activatedBy
    activatedAt := some now
    maxCost := some limits.maxCost
    maxDurationSeconds := some limits.timeoutSeconds }

/-- `_build_provider` of the composition, on the snapshot of the replica. -/
def rebuild (runtime : CloudRuntime) : Except Failure CloudRuntime := do
  let secret := secretOf runtime none
  require (secret != "") (.valueError s!"{service.secretName} is required")
  let _ ← service.configure runtime.snapshot secret
  return runtime

/-- What `__post_init__` of an enabled production state asks for. -/
def productionState (canonical : ProviderActivationState) :
    Except Failure ProviderActivationState := do
  require (canonical.configurationVersion.any (· != "") &&
      canonical.activationVersion.any (· != ""))
    (.valueError "enabled production state requires configuration versions")
  require (canonical.activatedBy.any fun activatedBy => !PyText.blank activatedBy)
    (.valueError "enabled production state requires activated_by")
  require canonical.activatedAt.isSome
    (.valueError "enabled production state requires activated_at")
  require (canonical.maxCost.any fun maxCost => decide (0 < maxCost))
    (.valueError "enabled production state requires max_cost")
  require (canonical.maxDurationSeconds.any fun maxDurationSeconds =>
      decide (0 < maxDurationSeconds))
    (.valueError "enabled production state requires max_duration_seconds")
  return { canonical with enabled := true, rollbackFromConfigurationVersion := none }

/-- `budget_allows`, on the state that it looks at. -/
def budgetAllows (scope : AIExecutionScope) (state : ProviderActivationState) : Bool :=
  state.enabled &&
    state.maxCost.any (fun maxCost => decide (scope.budget.maxCost ≤ maxCost)) &&
    state.maxDurationSeconds.any fun maxDurationSeconds =>
      decide (scope.deadlineSeconds ≤ maxDurationSeconds)

/-- The gate, but for the ceilings. -/
def gate : ActivationGate ActivationOrder CloudRuntime AIExecutionScope where
  prepare := service.prepare
  inactive := .runtimeError
    s!"{service.name} production activation is not enabled in canonical state"
  accepts runtime canonical :=
    require (canonical.configurationVersion ==
        some (configurationVersionOf service.title runtime.snapshot)) (.runtimeError
      s!"{service.name} canonical activation configuration does not match runtime")
  compose runtime _ := service.rebuild runtime
  remember _ canonical := productionState canonical
  operator rolledBackBy := rolledBackBy
  disable _ rolledBackBy rolledBackAt reason := { ProviderActivationState.disabled with
    rollbackBy := some rolledBackBy
    rollbackAt := some rolledBackAt
    rollbackReason := some (String.ofList (reason.toList.take 256)) }
  admits scope state := scope.context.configurationVersion.any fun version =>
    version != "" && state.configurationVersion == some version
  localBudget _ _ := true
  storeBudget := none

end CloudService

section Gates

variable (urlsplit : String → Except Failure SplitResult)

/-- `YandexGPTProductionGate`: the ceilings are read from the store again. -/
def yandexGPTGate : ActivationGate ActivationOrder CloudRuntime AIExecutionScope :=
  { (yandexGPT urlsplit).gate with
    storeBudget := some fun scope row => row.any (CloudService.budgetAllows scope) }

/-- `GigaChatProductionGate`: the ceilings are those of `_state`. -/
def gigaChatGate : ActivationGate ActivationOrder CloudRuntime AIExecutionScope :=
  { (gigaChat urlsplit).gate with localBudget := CloudService.budgetAllows }

end Gates

end ShemaPlatform
