/-
The configurations that the gates of several replicas use.  Only `activate`
checks that a configuration is enabled, and a replica that binds its provider
again does so with a configuration of its own.
-/
import ShemaPlatform.ActivationCeilings
import ShemaPlatform.DaDataActivation

namespace ShemaPlatform

open Calendar Effects StateRun

/-- Every call that was made uses a provider whose configuration fits the
canonical state that its request was admitted under. -/
def UsesActivated {C Q : Type} (fit : C → ProviderActivationState → Prop)
    (cluster : Cluster C Q) : Prop :=
  ∀ call ∈ cluster.calls, fit call.binding.configuration call.admitted

instance UsesActivated.decidable {C Q : Type} {fit : C → ProviderActivationState → Prop}
    [∀ configuration activation, Decidable (fit configuration activation)]
    (cluster : Cluster C Q) : Decidable (UsesActivated fit cluster) :=
  inferInstanceAs (Decidable (∀ call ∈ cluster.calls, _))

/-- `provider` on a replica has to build its provider again. -/
def Cluster.Rebinds {C Q : Type} (cluster : Cluster C Q) (index : ℕ)
    (canonical : ProviderActivationState) : Prop :=
  canonical.enabled = true ∧
    ∀ kept ∈ (cluster.replicas index).provider, kept.bindingMatches canonical = false

instance Cluster.Rebinds.decidable {C Q : Type} (cluster : Cluster C Q) (index : ℕ)
    (canonical : ProviderActivationState) : Decidable (cluster.Rebinds index canonical) :=
  inferInstanceAs (Decidable (_ ∧ _))

namespace CloudService

variable (service : CloudService)

/-- A gate of the service, whatever it asks of a budget. -/
structure Gates (gate : ActivationGate ActivationOrder CloudRuntime AIExecutionScope) :
    Prop where
  prepare : gate.prepare = service.prepare
  accepts : gate.accepts = service.gate.accepts
  compose : gate.compose = service.gate.compose

/-- A production snapshot with the flag of the service, of the canonical version. -/
def Activated (runtime : CloudRuntime) (canonical : ProviderActivationState) : Prop :=
  service.productionEnabled runtime.snapshot = true ∧
    canonical.configurationVersion =
      some (configurationVersionOf service.title runtime.snapshot)

instance Activated.decidable (runtime : CloudRuntime) (canonical : ProviderActivationState) :
    Decidable (service.Activated runtime canonical) :=
  inferInstanceAs (Decidable (_ ∧ _))

/-- A replica with the canonical version that has to build its provider again has
a production snapshot with the flag of the service. -/
def EnabledRebinds (cluster : Cluster CloudRuntime AIExecutionScope) :
    GateStep ActivationOrder CloudRuntime AIExecutionScope → Prop
  | .resolve _ index _ _ => ∀ canonical ∈ cluster.row, cluster.Rebinds index canonical →
      canonical.configurationVersion = some (configurationVersionOf service.title
        (cluster.replicas index).configuration.snapshot) →
        service.productionEnabled (cluster.replicas index).configuration.snapshot = true
  | _ => True

instance EnabledRebinds.decidable (cluster : Cluster CloudRuntime AIExecutionScope) :
    (action : GateStep ActivationOrder CloudRuntime AIExecutionScope) →
      Decidable (service.EnabledRebinds cluster action)
  | .resolve _ index _ _ => inferInstanceAs (Decidable
      (∀ canonical ∈ cluster.row, cluster.Rebinds index canonical →
        canonical.configurationVersion = some (configurationVersionOf service.title
          (cluster.replicas index).configuration.snapshot) →
          service.productionEnabled (cluster.replicas index).configuration.snapshot = true))
  | .startActivation .. | .storeActivation .. | .startRollback .. | .storeRollback ..
  | .allow _ | .check _ => inferInstanceAs (Decidable True)

end CloudService

namespace DaDataConfiguration

/-- An enabled configuration whose endpoint is the canonical version. -/
def Activated (configuration : DaDataConfiguration) (canonical : ProviderActivationState) :
    Prop :=
  configuration.enabled = true ∧
    canonical.configurationVersion = some configuration.endpoint

instance Activated.decidable (configuration : DaDataConfiguration)
    (canonical : ProviderActivationState) : Decidable (configuration.Activated canonical) :=
  inferInstanceAs (Decidable (_ ∧ _))

/-- A replica that has to build its provider again is handed the activated
configuration, or none. -/
def ActivatedRebinds {Q : Type} (cluster : Cluster DaDataConfiguration Q) :
    GateStep DaDataActivationOrder DaDataConfiguration Q → Prop
  | .resolve _ index given _ => ∀ canonical ∈ cluster.row, cluster.Rebinds index canonical →
      ∀ configuration ∈ given, configuration.Activated canonical
  | _ => True

instance ActivatedRebinds.decidable {Q : Type} (cluster : Cluster DaDataConfiguration Q) :
    (action : GateStep DaDataActivationOrder DaDataConfiguration Q) →
      Decidable (ActivatedRebinds cluster action)
  | .resolve _ index given _ => inferInstanceAs (Decidable
      (∀ canonical ∈ cluster.row, cluster.Rebinds index canonical →
        ∀ configuration ∈ given, configuration.Activated canonical))
  | .startActivation .. | .storeActivation .. | .startRollback .. | .storeRollback ..
  | .allow _ | .check _ => inferInstanceAs (Decidable True)

end DaDataConfiguration

section Runs

open Cluster ActivationGate

/-- What fits at every activation and at every rebinding fits at every call. -/
theorem uses_throughout {O C Q : Type} {gate : ActivationGate O C Q} {configuration : ℕ → C}
    {fit : C → ProviderActivationState → Prop} (hactivates : gate.Activates fit)
    {condition : Cluster C Q → GateStep O C Q → Prop}
    (hcondition : ∀ {cluster action}, condition cluster action →
      gate.Composes fit cluster action)
    {actions : List (GateStep O C Q)}
    (hactions : Along gate.step (fun cluster action =>
      Fresh cluster action ∧ condition cluster action) (start configuration) actions) :
    Throughout gate.step (UsesActivated fit) (start configuration) actions := by
  have hknown : Throughout gate.step (Known gate configuration fit) (start configuration)
      actions := by
    apply known_throughout hactivates _ hactions
    intro cluster action _ hadmits
    exact ⟨hadmits.1, hcondition hadmits.2⟩
  exact hknown.mono fun cluster h call hcall => (h.called call hcall).2

theorem CloudService.rebuild_eq_ok {service : CloudService} {runtime composed : CloudRuntime}
    (h : service.rebuild runtime = .ok composed) : composed = runtime := by
  simp only [rebuild, bind_eq_ok, require_eq_ok, pure_eq_ok] at h
  obtain ⟨_, _, _, _, rfl⟩ := h
  rfl

/-- An activation has the version of the snapshot that it was made from. -/
theorem CloudService.activates {service : CloudService}
    {gate : ActivationGate ActivationOrder CloudRuntime AIExecutionScope}
    (hgate : service.Gates gate) : gate.Activates service.Activated := by
  intro runtime order row now previous stored hprepare hstored
  rw [hgate.prepare] at hprepare
  obtain ⟨henabled, _, _, limits, hlimits, rfl⟩ := prepare_eq_ok hprepare
  obtain ⟨_, _, rfl⟩ := activate_eq_ok hstored
  exact ⟨henabled, congrArg some (service.versioned hlimits)⟩

/-- A provider is built again from the snapshot whose version has been compared. -/
theorem CloudService.composes {service : CloudService}
    {gate : ActivationGate ActivationOrder CloudRuntime AIExecutionScope}
    (hgate : service.Gates gate) {cluster : Cluster CloudRuntime AIExecutionScope}
    {action : GateStep ActivationOrder CloudRuntime AIExecutionScope}
    (h : service.EnabledRebinds cluster action) :
    gate.Composes service.Activated cluster action := by
  cases action with
  | resolve thread index given request =>
      intro canonical composed hrow henabled haccepts hstale hcompose
      rw [hgate.accepts] at haccepts
      rw [hgate.compose] at hcompose
      have hversion : canonical.configurationVersion = some (configurationVersionOf
          service.title (cluster.replicas index).configuration.snapshot) :=
        beq_iff_eq.mp (require_eq_ok.mp haccepts)
      rw [rebuild_eq_ok hcompose]
      exact ⟨h canonical hrow ⟨henabled, hstale⟩ hversion, hversion⟩
  | _ => trivial

theorem gates_yandexGPT (urlsplit : String → Except Failure SplitResult) :
    (yandexGPT urlsplit).Gates (yandexGPTGate urlsplit) :=
  ⟨rfl, rfl, rfl⟩

theorem gates_gigaChat (urlsplit : String → Except Failure SplitResult) :
    (gigaChat urlsplit).Gates (gigaChatGate urlsplit) :=
  ⟨rfl, rfl, rfl⟩

theorem daData_activates {Q : Type} :
    (daDataGate Q).Activates DaDataConfiguration.Activated := by
  intro configuration order row now previous stored hprepare hstored
  obtain ⟨henabled, hversion⟩ := prepareDaData_eq_ok hprepare
  obtain ⟨_, _, rfl⟩ := activate_eq_ok hstored
  exact ⟨henabled, hversion now⟩

theorem daData_composes {Q : Type} {cluster : Cluster DaDataConfiguration Q}
    {action : GateStep DaDataActivationOrder DaDataConfiguration Q}
    (h : DaDataConfiguration.ActivatedRebinds cluster action) :
    (daDataGate Q).Composes DaDataConfiguration.Activated cluster action := by
  cases action with
  | resolve thread index given request =>
      intro canonical composed hrow henabled _ hstale hcompose
      cases given with
      | none => cases hcompose
      | some configuration =>
          obtain rfl := Except.ok.inj hcompose
          exact h canonical hrow ⟨henabled, hstale⟩ configuration rfl
  | _ => trivial

end Runs

/-- Every call uses an enabled configuration of the canonical version in every run
in which the providers that are built again are built from such: the AI gates
compare the version themselves, and the DaData gate neither. -/
theorem calls_use_activated (urlsplit : String → Except Failure SplitResult)
    (runtimes : ℕ → CloudRuntime)
    (cloudActions : List (GateStep ActivationOrder CloudRuntime AIExecutionScope))
    (Q : Type) (configurations : ℕ → DaDataConfiguration)
    (actions : List (GateStep DaDataActivationOrder DaDataConfiguration Q)) :
    (StateRun.Along (yandexGPTGate urlsplit).step (fun cluster action =>
        ActivationGate.Fresh cluster action ∧
          (yandexGPT urlsplit).EnabledRebinds cluster action)
        (Cluster.start runtimes) cloudActions →
      Throughout (yandexGPTGate urlsplit).step (UsesActivated (yandexGPT urlsplit).Activated)
        (Cluster.start runtimes) cloudActions) ∧
    (StateRun.Along (gigaChatGate urlsplit).step (fun cluster action =>
        ActivationGate.Fresh cluster action ∧
          (gigaChat urlsplit).EnabledRebinds cluster action)
        (Cluster.start runtimes) cloudActions →
      Throughout (gigaChatGate urlsplit).step (UsesActivated (gigaChat urlsplit).Activated)
        (Cluster.start runtimes) cloudActions) ∧
    (StateRun.Along (daDataGate Q).step (fun cluster action =>
        ActivationGate.Fresh cluster action ∧
          DaDataConfiguration.ActivatedRebinds cluster action)
        (Cluster.start configurations) actions →
      Throughout (daDataGate Q).step (UsesActivated DaDataConfiguration.Activated)
        (Cluster.start configurations) actions) :=
  ⟨uses_throughout (CloudService.activates (gates_yandexGPT urlsplit))
      (CloudService.composes (gates_yandexGPT urlsplit)),
    uses_throughout (CloudService.activates (gates_gigaChat urlsplit))
      (CloudService.composes (gates_gigaChat urlsplit)),
    uses_throughout daData_activates daData_composes⟩

section Samples

def sampleReadiness : DaDataActivationReadiness :=
  ⟨true, true, true, true, true, true, true, true, true, true, true, true⟩

def sampleDaData (endpoint : String) : DaDataConfiguration where
  apiKey := "key"
  endpoint := endpoint
  timeoutSeconds := 5
  maxResponseBytes := 2097152
  enabled := true
  minConnectionIntervalSeconds := 1

def partyEndpoint : String :=
  "https://suggestions.dadata.ru/suggestions/api/4_1/rs/findById/party"

/-- A path that only the second replica uses. -/
def otherEndpoint : String :=
  "https://suggestions.dadata.ru/suggestions/api/4_1/rs/suggest/party"

def sampleConfigurations (index : ℕ) : DaDataConfiguration :=
  sampleDaData (if index = 0 then partyEndpoint else otherEndpoint)

/-- The first replica activates, and the second one looks a company up with a
configuration. -/
def lookupRun (configuration : DaDataConfiguration) :
    List (GateStep DaDataActivationOrder DaDataConfiguration Unit) :=
  [.startActivation 0 0 ⟨sampleReadiness, "operator", "activation:v1", "corr:1"⟩,
    .storeActivation 0 0, .resolve 1 1 (some configuration) (), .allow 1]

/-- The second replica has the same version, and the flags of the services off. -/
def flaggedRuntimes (index : ℕ) : CloudRuntime :=
  if index = 0 then sampleRuntime 1
  else { sampleRuntime 1 with
    snapshot := { (sampleRuntime 1).snapshot with featureFlags := [] } }

/-- The first replica activates, and the second one runs a request. -/
def elsewhereRun : List (GateStep ActivationOrder CloudRuntime AIExecutionScope) :=
  [.startActivation 0 0 ⟨"operator", none⟩, .storeActivation 0 0,
    .resolve 1 1 none (boundedScope 1), .allow 1, .check 1]

/-- `urlsplit` on the endpoints of the configurations. -/
def endpointSplit (_ : String) : Except Failure SplitResult :=
  .ok ⟨"https", some "suggestions.dadata.ru", .ok none, "", ""⟩

end Samples

theorem calls_use_activated_sample :
    Throughout (yandexGPTGate sampleSplit).step (UsesActivated (yandexGPT sampleSplit).Activated)
      (Cluster.start sampleRuntimes) elsewhereRun ∧
    Throughout (gigaChatGate sampleSplit).step (UsesActivated (gigaChat sampleSplit).Activated)
      (Cluster.start sampleRuntimes) elsewhereRun ∧
    Throughout (daDataGate Unit).step (UsesActivated DaDataConfiguration.Activated)
      (Cluster.start sampleConfigurations) (lookupRun (sampleDaData partyEndpoint)) :=
  have h := calls_use_activated sampleSplit sampleRuntimes elsewhereRun Unit
    sampleConfigurations (lookupRun (sampleDaData partyEndpoint))
  ⟨h.1 (by decide +kernel), h.2.1 (by decide +kernel), h.2.2 (by decide +kernel)⟩

/-- A DaData lookup is sent to an endpoint that was not activated, and a request
is run on a replica whose snapshot does not enable the service. -/
theorem provider_of_another_configuration :
    ((DaDataConfiguration.new endpointSplit (sampleConfigurations 1)).toOption =
        some (sampleConfigurations 1) ∧
      StateRun.Along (daDataGate Unit).step ActivationGate.Fresh
        (Cluster.start sampleConfigurations) (lookupRun (sampleConfigurations 1)) ∧
      ¬ Throughout (daDataGate Unit).step (UsesActivated DaDataConfiguration.Activated)
        (Cluster.start sampleConfigurations) (lookupRun (sampleConfigurations 1))) ∧
    (StateRun.Along (yandexGPTGate sampleSplit).step ActivationGate.Fresh
        (Cluster.start flaggedRuntimes) elsewhereRun ∧
      ¬ Throughout (yandexGPTGate sampleSplit).step
        (UsesActivated (yandexGPT sampleSplit).Activated) (Cluster.start flaggedRuntimes)
        elsewhereRun) := by
  have hlookup : ¬ UsesActivated DaDataConfiguration.Activated
      ((lookupRun (sampleConfigurations 1)).foldl (daDataGate Unit).step
        (Cluster.start sampleConfigurations)) := by
    decide +kernel
  have hrequest : ¬ UsesActivated (yandexGPT sampleSplit).Activated
      (elsewhereRun.foldl (yandexGPTGate sampleSplit).step
        (Cluster.start flaggedRuntimes)) := by
    decide +kernel
  constructor
  · exact ⟨by decide +kernel, by decide +kernel, fun h => hlookup h.last⟩
  · exact ⟨by decide +kernel, fun h => hrequest h.last⟩

end ShemaPlatform
