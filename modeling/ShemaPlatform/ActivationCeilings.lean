/-
Requests and the ceilings of the activation that their provider is bound to.
One gate compares a request with its own copy of that activation.  The other
asks the store once more, which may by then hold another activation.
-/
import ShemaPlatform.AIProductionGates
import ShemaPlatform.ActivationRuns

namespace ShemaPlatform

open Calendar Effects StateRun

/-- The budget of a request is at most the ceilings of an activation. -/
def Within (scope : AIExecutionScope) (activation : ProviderActivationState) : Prop :=
  (∃ maxCost ∈ activation.maxCost, scope.budget.maxCost ≤ maxCost) ∧
    ∃ maxDuration ∈ activation.maxDurationSeconds, scope.deadlineSeconds ≤ maxDuration

instance Within.decidable (scope : AIExecutionScope) (activation : ProviderActivationState) :
    Decidable (Within scope activation) :=
  inferInstanceAs (Decidable (_ ∧ _))

/-- Every call that was made is within the ceilings of the activation that its
provider is bound to, by version and time. -/
def WithinCeilings (cluster : Cluster CloudRuntime AIExecutionScope) : Prop :=
  ∀ call ∈ cluster.calls,
    (∃ activation ∈ cluster.activations, activation.stamp = call.binding.stamp) ∧
    ∀ activation ∈ cluster.activations, activation.stamp = call.binding.stamp →
      Within call.request activation

instance WithinCeilings.decidable (cluster : Cluster CloudRuntime AIExecutionScope) :
    Decidable (WithinCeilings cluster) :=
  inferInstanceAs (Decidable (∀ call ∈ cluster.calls, _ ∧ _))

/-- No ceiling of the one is above that of the other. -/
def NoHigher (current admitted : ProviderActivationState) : Prop :=
  ∀ maxCost ∈ current.maxCost, ∀ maxDuration ∈ current.maxDurationSeconds,
    (∃ bound ∈ admitted.maxCost, maxCost ≤ bound) ∧
      ∃ bound ∈ admitted.maxDurationSeconds, maxDuration ≤ bound

instance NoHigher.decidable (current admitted : ProviderActivationState) :
    Decidable (NoHigher current admitted) :=
  inferInstanceAs (Decidable (∀ maxCost ∈ current.maxCost, ∀ maxDuration ∈
    current.maxDurationSeconds, _ ∧ _))

/-- The activation under which the request of a thread was admitted. -/
def Thread.admitted? {C Q : Type} : Thread C Q → Option ProviderActivationState
  | .allowed _ _ _ admitted => some admitted
  | _ => none

/-- When a budget is checked against the store, no activation with higher ceilings
has taken the place of the one that was just admitted. -/
def SteadyCeilings (cluster : Cluster CloudRuntime AIExecutionScope) :
    GateStep ActivationOrder CloudRuntime AIExecutionScope → Prop
  | .check thread => ∀ admitted ∈ (cluster.threads thread).admitted?,
      ∀ current ∈ cluster.row, current.enabled = true → NoHigher current admitted
  | _ => True

instance SteadyCeilings.decidable (cluster : Cluster CloudRuntime AIExecutionScope) :
    (action : GateStep ActivationOrder CloudRuntime AIExecutionScope) →
      Decidable (SteadyCeilings cluster action)
  | .check thread => inferInstanceAs (Decidable
      (∀ admitted ∈ (cluster.threads thread).admitted?,
        ∀ current ∈ cluster.row, current.enabled = true → NoHigher current admitted))
  | .startActivation .. | .storeActivation .. | .startRollback .. | .storeRollback ..
  | .resolve .. | .allow _ => inferInstanceAs (Decidable True)

/-- A row that `provider` can take over. -/
def Production (activation : ProviderActivationState) : Prop :=
  ∃ state, CloudService.productionState activation = .ok state

namespace CloudService

variable {service : CloudService}

theorem prepare_eq_ok {runtime : CloudRuntime} {order : ActivationOrder}
    {row : Instant → ProviderActivationState} (h : service.prepare runtime order = .ok row) :
    service.productionEnabled runtime.snapshot = true ∧
    PyText.blank order.activatedBy = false ∧
    ∃ secret limits, service.configure runtime.snapshot secret = .ok limits ∧
      row = fun now => { ProviderActivationState.disabled with
        enabled := true
        configurationVersion := some limits.configurationVersion
        activationVersion := some limits.activationVersion
        activatedBy := some order.activatedBy
        activatedAt := some now
        maxCost := some limits.maxCost
        maxDurationSeconds := some limits.timeoutSeconds } := by
  simp only [prepare, bind_eq_ok, require_eq_ok, pure_eq_ok] at h
  obtain ⟨_, henvironment, _, hflag, _, hoperator, _, _, _, _, _, _, limits, hlimits, rfl⟩ := h
  refine ⟨?_, by simpa using hoperator, _, limits, hlimits, rfl⟩
  simp only [productionEnabled, henvironment, hflag, Bool.and_self]

theorem productionState_eq_ok {canonical state : ProviderActivationState}
    (h : productionState canonical = .ok state) :
    state = { canonical with enabled := true, rollbackFromConfigurationVersion := none } := by
  simp only [productionState, bind_eq_ok, require_eq_ok, pure_eq_ok] at h
  obtain ⟨_, _, _, _, _, _, _, _, _, _, rfl⟩ := h
  rfl

/-- An activation that was prepared can be taken over by another replica. -/
theorem production_of_prepare {runtime : CloudRuntime} {order : ActivationOrder}
    {row : Instant → ProviderActivationState} {now : Instant}
    {previous : Option ProviderActivationState} {stored : ProviderActivationState}
    (h : service.prepare runtime order = .ok row)
    (hstored : ProviderActivationStore.activate (row now) previous = .ok stored) :
    Production stored := by
  obtain ⟨_, hoperator, _, limits, _, rfl⟩ := prepare_eq_ok h
  obtain ⟨_, _, rfl⟩ := activate_eq_ok hstored
  have hconfigured : (limits.configurationVersion != "") = true :=
    bne_iff_ne.mpr limits.versioned.1
  have hactivated : (limits.activationVersion != "") = true :=
    bne_iff_ne.mpr limits.versioned.2
  obtain ⟨⟨htimeout, _⟩, _, _, _, hcost⟩ := limits.bounded
  simp only [Production, productionState, Option.any_some, hconfigured, hactivated,
    hoperator, htimeout, hcost, Bool.and_self, Bool.not_false, Option.isSome_some,
    decide_true, require, if_true]
  exact ⟨_, rfl⟩

theorem budgetAllows_iff {scope : AIExecutionScope} {state : ProviderActivationState} :
    budgetAllows scope state = true ↔ state.enabled = true ∧ Within scope state := by
  simp only [budgetAllows, Within, Bool.and_eq_true, Option.any_eq_true, decide_eq_true_eq,
    Option.mem_def, and_assoc]

end CloudService

/-- Ceilings that are no higher are those that admit no other budgets. -/
theorem noHigher_iff {current admitted : ProviderActivationState}
    (henabled : current.enabled = true) :
    NoHigher current admitted ↔ ∀ scope : AIExecutionScope,
      CloudService.budgetAllows scope current = true → Within scope admitted := by
  constructor
  · intro h scope hbudget
    obtain ⟨_, ⟨maxCost, hcost, hwithin⟩, maxDuration, hduration, hshort⟩ :=
      CloudService.budgetAllows_iff.mp hbudget
    obtain ⟨⟨bound, hbound, hle⟩, limit, hlimit, hleLimit⟩ :=
      h maxCost hcost maxDuration hduration
    exact ⟨⟨bound, hbound, hwithin.trans hle⟩, limit, hlimit, hshort.trans hleLimit⟩
  · intro h maxCost hcost maxDuration hduration
    have hbudget : CloudService.budgetAllows
        ⟨[], ⟨"", "", 0, 0, 0, none, none⟩, ⟨0, maxCost, maxDuration⟩, maxDuration⟩
        current = true :=
      CloudService.budgetAllows_iff.mpr ⟨henabled, ⟨maxCost, hcost, le_refl _⟩,
        maxDuration, hduration, le_refl _⟩
    exact h _ hbudget

namespace Cluster

variable {cluster : Cluster CloudRuntime AIExecutionScope}
  {gate : ActivationGate ActivationOrder CloudRuntime AIExecutionScope}
  {runtimes : ℕ → CloudRuntime} {fit : CloudRuntime → ProviderActivationState → Prop}

/-- What a call was admitted under is the activation that its provider is bound to. -/
theorem Known.withinCeilings (h : Known gate runtimes fit cluster)
    (hwithin : ∀ call ∈ cluster.calls, Within call.request call.admitted) :
    WithinCeilings cluster := by
  intro call hcall
  obtain ⟨hmem, hstamp⟩ := (h.called call hcall).1
  constructor
  · exact ⟨call.admitted, hmem, hstamp⟩
  · intro activation hactivation hsame
    rw [h.activation_eq hactivation hmem (hsame.trans hstamp.symm)]
    exact hwithin call hcall

/-- The replica has the ceilings of the canonical state, where a binding is to it. -/
def Mirrored (cluster : Cluster CloudRuntime AIExecutionScope) (index : ℕ)
    (binding : Binding CloudRuntime) : Prop :=
  ∀ canonical, cluster.row = some canonical → canonical.enabled = true →
    canonical.stamp = binding.stamp →
      (cluster.replicas index).state.maxCost = canonical.maxCost ∧
      (cluster.replicas index).state.maxDurationSeconds = canonical.maxDurationSeconds

def Mirrors (cluster : Cluster CloudRuntime AIExecutionScope) : Prop :=
  ∀ index binding, cluster.Binds index binding → Mirrored cluster index binding

theorem mirrors_start : Mirrors (start runtimes) := by
  intro index binding _ canonical hrow
  cases hrow

theorem Mirrors.resume (h : Mirrors cluster) {thread : ℕ}
    {next : Thread CloudRuntime AIExecutionScope}
    (hnext : ∀ index binding, next.binding? = some (index, binding) →
      Mirrored cluster index binding) : Mirrors (cluster.resume thread next) := by
  rintro index binding (hprovider | ⟨other, hother⟩)
  · exact h index binding (Or.inl hprovider)
  · rw [resume_threads] at hother
    split at hother
    · exact hnext index binding hother
    · exact h index binding (Or.inr ⟨other, hother⟩)

/-- A thread that goes on without a provider. -/
theorem Mirrors.unbound (h : Mirrors cluster) (thread : ℕ)
    {next : Thread CloudRuntime AIExecutionScope} (hnext : next.binding? = none) :
    Mirrors (cluster.resume thread next) := by
  apply h.resume
  intro index binding hbinding
  rw [hnext] at hbinding
  cases hbinding

theorem Mirrors.setReplica (h : Mirrors cluster) {index : ℕ}
    {replica : Replica CloudRuntime}
    (hreplica : ∀ binding, (replica.provider = some binding ∨ ∃ thread,
        (cluster.threads thread).binding? = some (index, binding)) →
      ∀ canonical, cluster.row = some canonical → canonical.enabled = true →
        canonical.stamp = binding.stamp →
          replica.state.maxCost = canonical.maxCost ∧
          replica.state.maxDurationSeconds = canonical.maxDurationSeconds) :
    Mirrors (cluster.setReplica index replica) := by
  intro other binding hbinds canonical hrow henabled hstamp
  by_cases hother : other = index
  · subst hother
    rw [setReplica_replicas, if_pos rfl]
    apply hreplica binding _ canonical hrow henabled hstamp
    rcases hbinds with hprovider | hthread
    · rw [setReplica_replicas, if_pos rfl] at hprovider
      exact Or.inl hprovider
    · exact Or.inr hthread
  · rw [setReplica_replicas, if_neg hother]
    apply h other binding _ canonical hrow henabled hstamp
    rcases hbinds with hprovider | hthread
    · rw [setReplica_replicas, if_neg hother] at hprovider
      exact Or.inl hprovider
    · exact Or.inr hthread

/-- A row to which no provider is bound. -/
theorem Mirrors.of_unbound (h : ∀ canonical, cluster.row = some canonical →
    canonical.enabled = true → ∀ index binding, cluster.Binds index binding →
      canonical.stamp ≠ binding.stamp) : Mirrors cluster := by
  intro index binding hbinds canonical hrow henabled hstamp
  exact absurd hstamp (h canonical hrow henabled index binding hbinds)

end Cluster

section Runs

open Cluster ActivationGate

variable {urlsplit : String → Except Failure SplitResult} {runtimes : ℕ → CloudRuntime}
  {cluster : Cluster CloudRuntime AIExecutionScope}

/-- What is known of every activation of the gate. -/
abbrev KnownProduction (gate : ActivationGate ActivationOrder CloudRuntime AIExecutionScope)
    (runtimes : ℕ → CloudRuntime) (cluster : Cluster CloudRuntime AIExecutionScope) : Prop :=
  Known gate runtimes (fun _ => Production) cluster

theorem mirrors_storeActivation
    (hknown : KnownProduction (gigaChatGate urlsplit) runtimes cluster)
    (h : Mirrors cluster) {thread index : ℕ} {row : ProviderActivationState}
    (hfresh : row.stamp ∉ cluster.activations.map ProviderActivationState.stamp) :
    Mirrors (storeActivation cluster thread index row) := by
  unfold storeActivation
  split
  · exact h.unbound thread rfl
  · rename_i stored hstored
    obtain ⟨_, _, rfl⟩ := activate_eq_ok hstored
    apply Mirrors.unbound _ thread rfl
    apply Mirrors.setReplica
    · apply Mirrors.of_unbound
      intro canonical hrow _ other binding hbinds hstamp
      obtain rfl := Option.some.inj hrow
      obtain ⟨activation, ⟨hmem, hbound⟩, _⟩ := hknown.bound other binding hbinds
      exact hfresh (List.mem_map.mpr ⟨activation, hmem, hbound.trans hstamp.symm⟩)
    · intro binding _ canonical hrow _ _
      obtain rfl := Option.some.inj hrow
      exact ⟨rfl, rfl⟩

theorem mirrors_storeRollback (h : Mirrors cluster) {thread index : ℕ}
    {canonical : ProviderActivationState} {rolledBackBy reason : String} {now : Instant} :
    Mirrors ((gigaChatGate urlsplit).storeRollback cluster thread index canonical
      rolledBackBy reason now) := by
  unfold storeRollback
  split
  · exact h.unbound thread rfl
  · rename_i row hrow
    have hdisabled := rollback_eq_ok hrow
    apply Mirrors.unbound _ thread rfl
    apply Mirrors.of_unbound
    intro found hfound henabled
    obtain rfl := Option.some.inj hfound
    rw [hdisabled] at henabled
    cases henabled

/-- `provider` takes the ceilings over with every provider that it returns. -/
theorem mirrors_resolve (hknown : KnownProduction (gigaChatGate urlsplit) runtimes cluster)
    (h : Mirrors cluster) {thread index : ℕ} {given : Option CloudRuntime}
    {request : AIExecutionScope} :
    Mirrors ((gigaChatGate urlsplit).resolve cluster thread index given request) := by
  unfold resolve
  cases hrun : ((gigaChatGate urlsplit).provider given cluster.row).run
      (cluster.replicas index) with
  | mk outcome after =>
      obtain ⟨_, hkept, hreturned, hfailed⟩ := provider_run _ hrun
      have hreplica : Mirrors (cluster.setReplica index after) := by
        apply h.setReplica
        intro binding hbinds canonical hrow henabled hstamp
        cases outcome with
        | ok returned =>
            obtain ⟨_, found, hfound, _, hremember⟩ := hreturned returned rfl
            rw [hrow] at hfound
            obtain rfl := Option.some.inj hfound
            rw [CloudService.productionState_eq_ok hremember]
            exact ⟨rfl, rfl⟩
        | error error =>
            rw [hfailed error rfl]
            apply h index binding _ canonical hrow henabled hstamp
            rcases hbinds with hprovider | hthread
            · rcases hkept binding hprovider with hkept |
                ⟨found, _, hfound, hactive, _, _, _, _, hraised⟩
              · exact Or.inl hkept
              · -- every enabled row is an activation, which can be taken over
                have hmem := hknown.row found hfound hactive
                obtain ⟨_, _, state, hstate⟩ := hknown.valid found hmem
                have hremember := hraised error rfl
                rw [show (gigaChatGate urlsplit).remember (cluster.replicas index).state
                  found = CloudService.productionState found from rfl, hstate] at hremember
                cases hremember
            · exact Or.inr hthread
      apply hreplica.resume
      intro other binding hbinding
      cases outcome with
      | ok returned =>
          obtain ⟨rfl, rfl⟩ := Prod.mk.inj (Option.some.inj hbinding)
          apply hreplica
          apply Or.inl
          rw [setReplica_replicas, if_pos rfl]
          exact (hreturned returned rfl).1
      | error error => cases hbinding

theorem mirrors_allow (h : Mirrors cluster) {thread index : ℕ}
    {binding : Binding CloudRuntime} {request : AIExecutionScope} :
    Mirrors ((gigaChatGate urlsplit).allow cluster thread index binding request) := by
  unfold allow
  split
  · exact h.unbound thread rfl
  · split
    · exact Mirrors.unbound h thread rfl
    · exact h.unbound thread rfl

/-- One operation of the store. -/
theorem mirrors_step (hknown : KnownProduction (gigaChatGate urlsplit) runtimes cluster)
    (h : Mirrors cluster)
    {action : GateStep ActivationOrder CloudRuntime AIExecutionScope}
    (hfresh : Fresh cluster action) :
    Mirrors ((gigaChatGate urlsplit).step cluster action) := by
  cases action with
  | startActivation thread index order =>
      simp only [step]
      split
      · exact h.unbound thread rfl
      · split
        · exact h.unbound thread rfl
        · exact h.unbound thread rfl
  | storeActivation thread now =>
      simp only [step]
      split
      · rename_i index row hthread
        apply mirrors_storeActivation hknown h
        apply hfresh row
        rw [hthread]
        rfl
      · exact h
  | startRollback thread index rolledBackBy reason =>
      simp only [step]
      split
      · exact h.unbound thread rfl
      · split
        · exact h.unbound thread rfl
        · exact h.unbound thread rfl
  | storeRollback thread now =>
      simp only [step]
      split
      · exact mirrors_storeRollback h
      · exact h
  | resolve thread index given request => exact mirrors_resolve hknown h
  | allow thread =>
      simp only [step]
      split
      · exact mirrors_allow h
      · exact h
  | check thread =>
      simp only [step]
      split
      · unfold check
        split
        · exact Mirrors.unbound h thread rfl
        · exact h.unbound thread rfl
      · exact h

/-- A call that is let through by the copy of the activation on its replica. -/
theorem within_gigaChat (h : Mirrors cluster)
    (hwithin : ∀ call ∈ cluster.calls, Within call.request call.admitted)
    {action : GateStep ActivationOrder CloudRuntime AIExecutionScope} :
    ∀ call ∈ ((gigaChatGate urlsplit).step cluster action).calls,
      Within call.request call.admitted := by
  intro call hcall
  rcases reaches_of_step hcall with hcall | hreaches
  · exact hwithin call hcall
  · cases hreaches with
    | @allow thread index holding allowed budget checks =>
        obtain ⟨hrow, henabled, hstamp⟩ := allowsRequest_eq_some allowed
        have hbinds : cluster.Binds index call.binding := by
          refine Or.inr ⟨thread, ?_⟩
          rw [holding]
          rfl
        obtain ⟨hcost, hduration⟩ := h index call.binding hbinds call.admitted hrow henabled
          hstamp
        have hstate := (CloudService.budgetAllows_iff.mp budget).2
        rw [Within, hcost, hduration] at hstate
        exact hstate
    | check allowed checks budget => cases checks

theorem composes_production
    {gate : ActivationGate ActivationOrder CloudRuntime AIExecutionScope}
    (hknown : KnownProduction gate runtimes cluster)
    (action : GateStep ActivationOrder CloudRuntime AIExecutionScope) :
    gate.Composes (fun _ => Production) cluster action := by
  cases action with
  | resolve thread index given request =>
      intro canonical composed hrow henabled _ _ _
      exact (hknown.valid canonical (hknown.row canonical hrow henabled)).2.choose_spec
  | _ => trivial

/-- Every call of a run of the GigaChat gate is within its ceilings. -/
theorem gigaChat_throughout
    {actions : List (GateStep ActivationOrder CloudRuntime AIExecutionScope)}
    (hactions : Along (gigaChatGate urlsplit).step Fresh (start runtimes) actions) :
    Throughout (gigaChatGate urlsplit).step WithinCeilings (start runtimes) actions := by
  have hkept : Throughout (gigaChatGate urlsplit).step (fun cluster =>
      KnownProduction (gigaChatGate urlsplit) runtimes cluster ∧ Mirrors cluster ∧
        ∀ call ∈ cluster.calls, Within call.request call.admitted)
      (start runtimes) actions := by
    apply throughout_of_step _ ⟨known_start, mirrors_start, by simp [start]⟩ hactions
    intro cluster action hkept hfresh
    obtain ⟨hknown, hmirrors, hwithin⟩ := hkept
    exact ⟨known_step hknown (fun _ _ _ _ _ _ => CloudService.production_of_prepare)
      hfresh (composes_production hknown action), mirrors_step hknown hmirrors hfresh,
      within_gigaChat hmirrors hwithin⟩
  exact hkept.mono fun cluster h => h.1.withinCeilings h.2.2

/-- A call that is let through by the activation in the store. -/
theorem within_yandexGPT
    (hwithin : ∀ call ∈ cluster.calls, Within call.request call.admitted)
    {action : GateStep ActivationOrder CloudRuntime AIExecutionScope}
    (hsteady : SteadyCeilings cluster action) :
    ∀ call ∈ ((yandexGPTGate urlsplit).step cluster action).calls,
      Within call.request call.admitted := by
  intro call hcall
  rcases reaches_of_step hcall with hcall | hreaches
  · exact hwithin call hcall
  · cases hreaches with
    | allow holding allowed budget checks => cases checks
    | @check thread index budgetAllows allowed checks budget =>
        obtain rfl := Option.some.inj checks
        obtain ⟨current, hcurrent, hbudget⟩ := (Option.any_eq_true _ _).mp budget
        have henabled := (CloudService.budgetAllows_iff.mp hbudget).1
        apply (noHigher_iff henabled).mp _ call.request hbudget
        apply hsteady call.admitted _ current hcurrent henabled
        rw [allowed]
        rfl

/-- Every call of a run of the YandexGPT gate is within its ceilings, where these
are steady. -/
theorem yandexGPT_throughout
    {actions : List (GateStep ActivationOrder CloudRuntime AIExecutionScope)}
    (hactions : Along (yandexGPTGate urlsplit).step (fun cluster action =>
      Fresh cluster action ∧ SteadyCeilings cluster action) (start runtimes) actions) :
    Throughout (yandexGPTGate urlsplit).step WithinCeilings (start runtimes) actions := by
  have hkept : Throughout (yandexGPTGate urlsplit).step (fun cluster =>
      KnownProduction (yandexGPTGate urlsplit) runtimes cluster ∧
        ∀ call ∈ cluster.calls, Within call.request call.admitted)
      (start runtimes) actions := by
    apply throughout_of_step _ ⟨known_start, by simp [start]⟩ hactions
    intro cluster action hkept hadmits
    obtain ⟨hknown, hwithin⟩ := hkept
    exact ⟨known_step hknown (fun _ _ _ _ _ _ => CloudService.production_of_prepare)
      hadmits.1 (composes_production hknown action),
      within_yandexGPT hwithin hadmits.2⟩
  exact hkept.mono fun cluster h => h.1.withinCeilings h.2

end Runs

/-- Where no two activations share a version and a time, every call of GigaChat
is within the ceilings of the activation that its provider is bound to, and so is
every call of YandexGPT unless an activation with a higher ceiling replaces that
one between the two reads; some budget is then let through beyond its ceilings. -/
theorem requests_within_ceilings (urlsplit : String → Except Failure SplitResult)
    (runtimes : ℕ → CloudRuntime)
    (actions : List (GateStep ActivationOrder CloudRuntime AIExecutionScope)) :
    (StateRun.Along (gigaChatGate urlsplit).step ActivationGate.Fresh (Cluster.start runtimes)
        actions →
      Throughout (gigaChatGate urlsplit).step WithinCeilings (Cluster.start runtimes)
        actions) ∧
    (StateRun.Along (yandexGPTGate urlsplit).step (fun cluster action =>
        ActivationGate.Fresh cluster action ∧ SteadyCeilings cluster action)
        (Cluster.start runtimes) actions →
      Throughout (yandexGPTGate urlsplit).step WithinCeilings (Cluster.start runtimes)
        actions) ∧
    ∀ current admitted : ProviderActivationState, current.enabled = true →
      (NoHigher current admitted ↔ ∀ scope : AIExecutionScope,
        CloudService.budgetAllows scope current = true → Within scope admitted) :=
  ⟨gigaChat_throughout, yandexGPT_throughout, fun _ _ => noHigher_iff⟩

section Samples

/-- A value that a snapshot holds as a text. -/
def textValue (text : String) : SnapshotValue where
  str := text
  float := .error (.valueError "could not convert string to float")
  int := .error (.valueError "invalid literal for int()")

def numberValue (number : ℤ) : SnapshotValue where
  str := toString number
  float := .ok (some number)
  int := .ok number

/-- The values of one service, with a cost ceiling. -/
def sampleValues (title : String) (maxCost : ℤ) : List (String × SnapshotValue) :=
  [(s!"{title}.timeout_seconds", numberValue 10),
    (s!"{title}.max_response_bytes", numberValue 1048576),
    (s!"{title}.max_input_chars", numberValue 1000),
    (s!"{title}.max_output_tokens", numberValue 100),
    (s!"{title}.max_cost", numberValue maxCost),
    (s!"{title}.configuration_version", textValue "config:v1"),
    (s!"{title}.activation_version", textValue "activation:v1")]

/-- A production snapshot for both services. -/
def sampleRuntime (maxCost : ℤ) : CloudRuntime where
  snapshot := {
    environment := "production"
    values := [("ai.yandexgpt.model_uri", textValue "gpt://folder/yandexgpt/latest"),
        ("ai.yandexgpt.base_url", textValue "https://ai.api.cloud.yandex.net/v1"),
        ("ai.gigachat.model", textValue "GigaChat"),
        ("ai.gigachat.scope", textValue "GIGACHAT_API_CORP"),
        ("ai.gigachat.base_url", textValue "https://api.giga.chat/v1"),
        ("ai.gigachat.token_url",
          textValue "https://ngw.devices.sberbank.ru:9443/api/v2/oauth")] ++
      sampleValues "ai.yandexgpt" maxCost ++ sampleValues "ai.gigachat" maxCost
    featureFlags := [("ai.yandexgpt.production.enabled", true),
      ("ai.gigachat.production.enabled", true)] }
  environmentSecret := "key"

/-- `urlsplit` on the URLs of the snapshot. -/
def sampleSplit (url : String) : Except Failure SplitResult :=
  if url = "https://ai.api.cloud.yandex.net/v1" then
    .ok ⟨"https", some "ai.api.cloud.yandex.net", .ok none, "", ""⟩
  else if url = "https://api.giga.chat/v1" then
    .ok ⟨"https", some "api.giga.chat", .ok none, "", ""⟩
  else .ok ⟨"https", some "ngw.devices.sberbank.ru", .ok (some 9443), "", ""⟩

/-- The second replica has a higher ceiling. -/
def sampleRuntimes (index : ℕ) : CloudRuntime :=
  sampleRuntime (if index = 0 then 1 else 5)

def boundedScope (maxCost : ℚ) : AIExecutionScope where
  evidenceRefs := []
  context := ⟨"operator", "identity:1", 2, 2, 2, some "corr:1", some "config:v1"⟩
  budget := ⟨100, maxCost, 5⟩
  deadlineSeconds := 5

/-- An activation on the first replica, and a request up to its first check. -/
def sampleRequests (maxCost : ℚ) :
    List (GateStep ActivationOrder CloudRuntime AIExecutionScope) :=
  [.startActivation 0 0 ⟨"operator", none⟩, .storeActivation 0 0,
    .resolve 0 0 none (boundedScope maxCost), .allow 0]


/-- The first replica checks its request after the second has rolled back and
activated with the higher ceiling. -/
def replacedRun (maxCost : ℚ) :
    List (GateStep ActivationOrder CloudRuntime AIExecutionScope) :=
  sampleRequests maxCost ++ [.startRollback 1 1 "operator" "new ceilings",
    .storeRollback 1 1, .startActivation 1 1 ⟨"operator", none⟩, .storeActivation 1 2,
    .check 0]

end Samples

theorem requests_within_ceilings_sample :
    Throughout (gigaChatGate sampleSplit).step WithinCeilings (Cluster.start sampleRuntimes)
        (replacedRun 1) ∧
    Throughout (yandexGPTGate sampleSplit).step WithinCeilings
        (Cluster.start sampleRuntimes) (sampleRequests 1 ++ [GateStep.check 0]) :=
  ⟨(requests_within_ceilings sampleSplit sampleRuntimes (replacedRun 1)).1
      (by decide +kernel),
    (requests_within_ceilings sampleSplit sampleRuntimes
      (sampleRequests 1 ++ [GateStep.check 0])).2.1 (by decide +kernel)⟩

/-- The request of a provider that is bound to a ceiling of 1 costs up to 3. -/
theorem ceiling_of_another_activation :
    (∃ scope, AIExecutionScope.new (boundedScope 3) = .ok scope) ∧
    StateRun.Along (yandexGPTGate sampleSplit).step ActivationGate.Fresh
      (Cluster.start sampleRuntimes) (replacedRun 3) ∧
    ¬ Throughout (yandexGPTGate sampleSplit).step WithinCeilings
      (Cluster.start sampleRuntimes) (replacedRun 3) := by
  have hlast : ¬ WithinCeilings ((replacedRun 3).foldl (yandexGPTGate sampleSplit).step
      (Cluster.start sampleRuntimes)) := by
    decide +kernel
  refine ⟨⟨boundedScope 3, ?_⟩, by decide +kernel, fun h => hlast h.last⟩
  simp only [AIExecutionScope.new, bind_eq_ok, require_eq_ok, pure_eq_ok]
  exact ⟨(), by decide, (), by decide, (), by decide, (), by decide, trivial⟩

end ShemaPlatform
