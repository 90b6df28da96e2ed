/-
The controlled activation of DaData.  A replica that did not activate binds its
provider again with a configuration that it is handed.
-/
import ShemaPlatform.AIProductionGates

namespace ShemaPlatform

open Calendar Effects

structure DaDataConfiguration where
  apiKey : String
  endpoint : String
  timeoutSeconds : ℚ
  maxResponseBytes : ℤ
  enabled : Bool
  minConnectionIntervalSeconds : ℚ
deriving DecidableEq

/-- What `DaDataConfiguration.__post_init__` accepts. -/
def DaDataConfiguration.new (urlsplit : String → Except Failure SplitResult)
    (configuration : DaDataConfiguration) : Except Failure DaDataConfiguration := do
  require (!configuration.enabled || !PyText.blank configuration.apiKey)
    (.valueError "DADATA_API_KEY is required when DaData execution is enabled")
  let elsewhere := Failure.valueError "DaData endpoint must target the pinned official host"
  let url ← urlsplit configuration.endpoint
  require (url.scheme == "https" && url.hostname == some "suggestions.dadata.ru") elsewhere
  let port ← url.port
  require (port.isNone && url.query == "" && url.fragment == "") elsewhere
  require (decide (0 < configuration.timeoutSeconds ∧ configuration.timeoutSeconds ≤ 30))
    (.valueError "timeout_seconds must be in (0, 30]")
  require (decide (0 < configuration.maxResponseBytes ∧
      configuration.maxResponseBytes ≤ 4194304))
    (.valueError "max_response_bytes is out of bounds")
  require (decide (0 < configuration.minConnectionIntervalSeconds))
    (.valueError "min_connection_interval_seconds must be positive")
  return configuration

structure DaDataActivationReadiness where
  sourceRegistryEntry : Bool
  authoritativeProviderContractEvidence : Bool
  providerNeutralCounterpartyLookupPort : Bool
  deterministicPositiveFixture : Bool
  deterministicNegativeFixtureMatrix : Bool
  boundedRetryPolicy : Bool
  applicationTimeoutPolicy : Bool
  credentialBoundary : Bool
  redactedObservability : Bool
  killSwitch : Bool
  rollbackWithoutSchemaChange : Bool
  fullReleaseCi : Bool
deriving DecidableEq

namespace DaDataActivationReadiness

variable (readiness : DaDataActivationReadiness)

/-- The fields by their names. -/
def fields : List (String × Bool) :=
  [("source_registry_entry", readiness.sourceRegistryEntry),
    ("authoritative_provider_contract_evidence",
      readiness.authoritativeProviderContractEvidence),
    ("provider_neutral_counterparty_lookup_port",
      readiness.providerNeutralCounterpartyLookupPort),
    ("deterministic_positive_fixture", readiness.deterministicPositiveFixture),
    ("deterministic_negative_fixture_matrix", readiness.deterministicNegativeFixtureMatrix),
    ("bounded_retry_policy", readiness.boundedRetryPolicy),
    ("application_timeout_policy", readiness.applicationTimeoutPolicy),
    ("credential_boundary", readiness.credentialBoundary),
    ("redacted_observability", readiness.redactedObservability),
    ("kill_switch", readiness.killSwitch),
    ("rollback_without_schema_change", readiness.rollbackWithoutSchemaChange),
    ("full_release_ci", readiness.fullReleaseCi)]

def ready : Bool := readiness.fields.all Prod.snd

def requireReady : Except Failure Unit :=
  let failed := ", ".intercalate ((readiness.fields.filter fun item => !item.2).map Prod.fst)
  require readiness.ready
    (.runtimeError s!"DaData activation readiness is incomplete: {failed}")

end DaDataActivationReadiness

/-- The arguments of `activate`, but for the configuration. -/
structure DaDataActivationOrder where
  readiness : DaDataActivationReadiness
  activatedBy : String
  activationVersion : String
  correlationId : String
deriving DecidableEq

/-- The checks of `activate`, and the row that it stores. -/
def prepareDaData (configuration : DaDataConfiguration) (order : DaDataActivationOrder) :
    Except Failure (Instant → ProviderActivationState) := do
  require (!PyText.blank order.activatedBy)
    (.runtimeError "DaData activation requires an explicit operator")
  require (!PyText.blank order.activationVersion)
    (.runtimeError "DaData activation requires activation_version")
  require (!PyText.blank order.correlationId)
    (.runtimeError "DaData activation requires correlation_id")
  order.readiness.requireReady
  require configuration.enabled
    (.runtimeError "DaData provider execution remains disabled by configuration")
  return fun now => { ProviderActivationState.disabled with
    enabled := true
    configurationVersion := some configuration.endpoint
    activationVersion := some (PyText.strip order.activationVersion)
    activatedBy := some (PyText.strip order.activatedBy)
    activatedAt := some now }

/-- `DaDataControlledActivationGate`; a query is let through unread. -/
def daDataGate (Q : Type) : ActivationGate DaDataActivationOrder DaDataConfiguration Q where
  prepare := prepareDaData
  inactive := .runtimeError "DaData provider execution is not active"
  accepts _ _ := .ok ()
  compose _
    | some configuration => .ok configuration
    | none => .error (.runtimeError
        ("DaData provider composition is stale on this replica; " ++
          "explicit configuration is required to rebind"))
  remember former _ := .ok former
  operator rolledBackBy := PyText.strip rolledBackBy
  disable former rolledBackBy rolledBackAt reason := { ProviderActivationState.disabled with
    configurationVersion := former.configurationVersion
    activationVersion := former.activationVersion
    rollbackBy := some (PyText.strip rolledBackBy)
    rollbackAt := some rolledBackAt
    rollbackReason := some (String.ofList ((PyText.strip reason).toList.take 256)) }
  admits _ _ := true
  localBudget _ _ := true
  storeBudget := none

theorem prepareDaData_eq_ok {configuration : DaDataConfiguration}
    {order : DaDataActivationOrder} {row : Instant → ProviderActivationState}
    (h : prepareDaData configuration order = .ok row) :
    configuration.enabled = true ∧
      ∀ now, (row now).configurationVersion = some configuration.endpoint := by
  simp only [prepareDaData, bind_eq_ok, require_eq_ok, pure_eq_ok] at h
  obtain ⟨_, _, _, _, _, _, _, _, _, henabled, rfl⟩ := h
  exact ⟨henabled, fun _ => rfl⟩

end ShemaPlatform
