/-
What every run of the gates keeps: the enabled row is the last activation, no
two activations share a stamp, and every provider is bound to one of them.
-/
import Mathlib.Data.List.Nodup
import ShemaPlatform.ProviderActivation
import ShemaPlatform.StateRun

namespace ShemaPlatform

open Calendar Effects StateRun

/-- The binding that a thread holds, with its replica. -/
def Thread.binding? {C Q : Type} : Thread C Q → Option (ℕ × Binding C)
  | .holding index binding _ => some (index, binding)
  | .allowed index binding _ _ => some (index, binding)
  | _ => none

/-- The activation that a thread is about to store. -/
def Thread.pending? {C Q : Type} : Thread C Q → Option (Instant → ProviderActivationState)
  | .activating _ row => some row
  | _ => none

theorem ProviderActivationState.isSome_of_valid {state : ProviderActivationState}
    (h : state.valid = true) : ∃ version, state.activationVersion = some version := by
  simp only [valid, Bool.and_eq_true] at h
  exact Option.isSome_iff_exists.mp h.1.1.1.2

theorem Binding.ofRow_stamp {C : Type} (configuration : C) {row : ProviderActivationState}
    (h : row.valid = true) : (Binding.ofRow configuration row).stamp = row.stamp := by
  obtain ⟨version, hversion⟩ := row.isSome_of_valid h
  simp only [Binding.stamp, Binding.ofRow, ProviderActivationState.stamp, hversion,
    Option.getD_some]

theorem Binding.stamp_of_matches {C : Type} {binding : Binding C}
    {row : ProviderActivationState} (hvalid : row.valid = true)
    (h : binding.bindingMatches row = true) : row.stamp = binding.stamp := by
  obtain ⟨version, hversion⟩ := row.isSome_of_valid hvalid
  simp only [Binding.bindingMatches, hversion, Option.getD_some, Bool.and_eq_true,
    beq_iff_eq] at h
  simp only [Binding.stamp, ProviderActivationState.stamp, hversion, h.1, h.2]

theorem activate_eq_ok {state stored : ProviderActivationState}
    {row : Option ProviderActivationState}
    (h : ProviderActivationStore.activate state row = .ok stored) :
    state.enabled = true ∧ state.valid = true ∧
      stored = { state with
        rollbackBy := none
        rollbackAt := none
        rollbackReason := none
        rollbackFromConfigurationVersion := none } := by
  simp only [ProviderActivationStore.activate, bind_eq_ok, require_eq_ok, pure_eq_ok] at h
  obtain ⟨_, henabled, _, hvalid, _, _, rfl⟩ := h
  exact ⟨henabled, hvalid, rfl⟩

theorem rollback_eq_ok {rolledBackBy reason : String} {now : Instant}
    {expected stored : ProviderActivationState} {row : Option ProviderActivationState}
    (h : ProviderActivationStore.rollback rolledBackBy now reason expected row =
      .ok stored) : stored.enabled = false := by
  unfold ProviderActivationStore.rollback at h
  split at h
  · obtain rfl := Except.ok.inj h
    rfl
  · cases h

namespace ActivationGate

variable {O C Q : Type} (gate : ActivationGate O C Q)

/-- What `provider` leaves on the replica, and what it returns. -/
theorem provider_run {given : Option C} {row : Option ProviderActivationState}
    {replica after : Replica C} {outcome : Except Failure (Binding C)}
    (h : (gate.provider given row).run replica = (outcome, after)) :
    after.configuration = replica.configuration ∧
    (∀ binding, after.provider = some binding →
      replica.provider = some binding ∨
      ∃ canonical composed, row = some canonical ∧ canonical.enabled = true ∧
        gate.accepts replica.configuration canonical = .ok () ∧
        (∀ kept, replica.provider = some kept → kept.bindingMatches canonical = false) ∧
        gate.compose replica.configuration given = .ok composed ∧
        binding = Binding.ofRow composed canonical ∧
        ∀ error, outcome = .error error →
          gate.remember replica.state canonical = .error error) ∧
    (∀ binding, outcome = .ok binding → after.provider = some binding ∧
      ∃ canonical, row = some canonical ∧ canonical.enabled = true ∧
        gate.remember replica.state canonical = .ok after.state) ∧
    (∀ error, outcome = .error error → after.state = replica.state) := by
  simp only [provider, active, bind, Effect.lift, Effect.read, Effect.modify, pure] at h
  cases hrow : row.filter ProviderActivationState.enabled with
  | none =>
      simp only [hrow] at h
      obtain ⟨rfl, rfl⟩ := Prod.mk.inj h
      exact ⟨rfl, fun _ hkept => Or.inl hkept, by simp, by simp⟩
  | some canonical =>
      simp only [hrow] at h
      obtain ⟨hcanonical, henabled⟩ := Option.filter_eq_some_iff.mp hrow
      cases haccepts : gate.accepts replica.configuration canonical with
      | error error =>
          simp only [haccepts] at h
          obtain ⟨rfl, rfl⟩ := Prod.mk.inj h
          exact ⟨rfl, fun _ hkept => Or.inl hkept, by simp, by simp⟩
      | ok _ =>
          simp only [haccepts] at h
          cases hbound : replica.provider.filter fun binding =>
              binding.bindingMatches canonical with
          | some bound =>
              simp only [hbound] at h
              have hkept := (Option.filter_eq_some_iff.mp hbound).1
              cases hremember : gate.remember replica.state canonical with
              | error error =>
                  simp only [hremember] at h
                  obtain ⟨rfl, rfl⟩ := Prod.mk.inj h
                  exact ⟨rfl, fun _ hprovider => Or.inl (hkept.trans hprovider), by simp,
                    by simp⟩
              | ok state =>
                  simp only [hremember] at h
                  obtain ⟨rfl, rfl⟩ := Prod.mk.inj h
                  refine ⟨rfl, fun _ hprovider => Or.inl (hkept.trans hprovider), ?_,
                    by simp⟩
                  intro binding hbinding
                  exact ⟨congrArg some (Except.ok.inj hbinding), canonical, hcanonical,
                    henabled, hremember⟩
          | none =>
              simp only [hbound] at h
              have hstale : ∀ kept, replica.provider = some kept →
                  kept.bindingMatches canonical = false := by
                simpa [Option.filter_eq_none_iff] using hbound
              cases hcompose : gate.compose replica.configuration given with
              | error error =>
                  simp only [hcompose] at h
                  obtain ⟨rfl, rfl⟩ := Prod.mk.inj h
                  exact ⟨rfl, by simp, by simp, by simp⟩
              | ok composed =>
                  simp only [hcompose] at h
                  cases hremember : gate.remember replica.state canonical with
                  | error error =>
                      simp only [hremember] at h
                      obtain ⟨rfl, rfl⟩ := Prod.mk.inj h
                      refine ⟨rfl, ?_, by simp, by simp⟩
                      intro binding hbinding
                      refine Or.inr ⟨canonical, composed, hcanonical, henabled, haccepts,
                        hstale, rfl, (Option.some.inj hbinding).symm, ?_⟩
                      intro raised hraised
                      rw [hremember, Except.error.inj hraised]
                  | ok state =>
                      simp only [hremember] at h
                      obtain ⟨rfl, rfl⟩ := Prod.mk.inj h
                      refine ⟨rfl, ?_, ?_, by simp⟩
                      · intro binding hbinding
                        exact Or.inr ⟨canonical, composed, hcanonical, henabled, haccepts,
                          hstale, rfl, (Option.some.inj hbinding).symm, by simp⟩
                      · intro binding hbinding
                        exact ⟨congrArg some (Except.ok.inj hbinding), canonical,
                          hcanonical, henabled, hremember⟩

end ActivationGate

namespace Cluster

variable {C Q : Type}

/-- A provider that is bound on a replica: kept by it or held by a thread. -/
def Binds (cluster : Cluster C Q) (index : ℕ) (binding : Binding C) : Prop :=
  (cluster.replicas index).provider = some binding ∨
    ∃ thread, (cluster.threads thread).binding? = some (index, binding)

/-- The activation that a binding names. -/
def BoundTo (activations : List ProviderActivationState) (binding : Binding C)
    (activation : ProviderActivationState) : Prop :=
  activation ∈ activations ∧ activation.stamp = binding.stamp

/-- `fit` relates the configuration of a bound provider to its activation, and
every replica has the configuration it was started with. -/
structure Known {O : Type} (gate : ActivationGate O C Q) (configuration : ℕ → C)
    (fit : C → ProviderActivationState → Prop) (cluster : Cluster C Q) : Prop where
  configured : ∀ index, (cluster.replicas index).configuration = configuration index
  preparing : ∀ thread index row, cluster.threads thread = .activating index row →
    ∃ order, gate.prepare (configuration index) order = .ok row
  row : ∀ canonical, cluster.row = some canonical → canonical.enabled = true →
    canonical ∈ cluster.activations
  stamped : (cluster.activations.map ProviderActivationState.stamp).Nodup
  valid : ∀ activation ∈ cluster.activations, activation.valid = true ∧
    ∃ configuration, fit configuration activation
  bound : ∀ index binding, cluster.Binds index binding →
    ∃ activation, BoundTo cluster.activations binding activation ∧
      fit binding.configuration activation
  admitted : ∀ thread index binding request activation,
    cluster.threads thread = .allowed index binding request activation →
      BoundTo cluster.activations binding activation
  called : ∀ call ∈ cluster.calls, BoundTo cluster.activations call.binding call.admitted ∧
    fit call.binding.configuration call.admitted

variable {O : Type} {gate : ActivationGate O C Q} {configuration : ℕ → C}
  {fit : C → ProviderActivationState → Prop} {cluster : Cluster C Q}

theorem known_start : Known gate configuration fit (start configuration) where
  configured _ := rfl
  preparing := by simp [start]
  row := by simp [start]
  stamped := by simp [start]
  valid := by simp [start]
  bound := by simp [start, Binds, Thread.binding?]
  admitted := by simp [start]
  called := by simp [start]

/-- An activation is known by its stamp. -/
theorem Known.activation_eq (h : Known gate configuration fit cluster)
    {a b : ProviderActivationState} (ha : a ∈ cluster.activations)
    (hb : b ∈ cluster.activations)
    (hstamp : a.stamp = b.stamp) : a = b :=
  List.inj_on_of_nodup_map h.stamped ha hb hstamp

theorem BoundTo.append {activations : List ProviderActivationState} {binding : Binding C}
    {activation : ProviderActivationState} (h : BoundTo activations binding activation)
    (more : List ProviderActivationState) :
    BoundTo (activations ++ more) binding activation :=
  ⟨List.mem_append_left more h.1, h.2⟩

/-- The thread goes on with what is known. -/
theorem Known.resume (h : Known gate configuration fit cluster) {thread : ℕ}
    {next : Thread C Q}
    (hpreparing : ∀ index row, next = .activating index row →
      ∃ order, gate.prepare (configuration index) order = .ok row)
    (hbound : ∀ index binding, next.binding? = some (index, binding) →
      ∃ activation, BoundTo cluster.activations binding activation ∧
        fit binding.configuration activation)
    (hadmitted : ∀ index binding request activation,
      next = .allowed index binding request activation →
        BoundTo cluster.activations binding activation) :
    Known gate configuration fit (cluster.resume thread next) where
  configured := h.configured
  preparing := by
    intro other index row hother
    rw [resume_threads] at hother
    split at hother
    · exact hpreparing index row hother
    · exact h.preparing other index row hother
  row := h.row
  stamped := h.stamped
  valid := h.valid
  bound := by
    rintro index binding (hprovider | ⟨other, hother⟩)
    · exact h.bound index binding (Or.inl hprovider)
    · rw [resume_threads] at hother
      split at hother
      · exact hbound index binding hother
      · exact h.bound index binding (Or.inr ⟨other, hother⟩)
  admitted := by
    intro other index binding request activation hother
    rw [resume_threads] at hother
    split at hother
    · exact hadmitted index binding request activation hother
    · exact h.admitted other index binding request activation hother
  called := h.called

/-- A thread that holds nothing any more. -/
theorem Known.leave (h : Known gate configuration fit cluster) (thread : ℕ) :
    Known gate configuration fit (cluster.resume thread .idle) := by
  apply h.resume
  · intro index row hnext
    cases hnext
  · intro index binding hbinding
    cases hbinding
  · intro index binding request activation hnext
    cases hnext

theorem Known.setReplica (h : Known gate configuration fit cluster) {index : ℕ}
    {replica : Replica C} (hconfigured : replica.configuration = configuration index)
    (hbound : ∀ binding, replica.provider = some binding →
      ∃ activation, BoundTo cluster.activations binding activation ∧
        fit binding.configuration activation) :
    Known gate configuration fit (cluster.setReplica index replica) where
  configured := by
    intro other
    rw [setReplica_replicas]
    split
    · rename_i hother
      rw [hother, hconfigured]
    · exact h.configured other
  preparing := h.preparing
  row := h.row
  stamped := h.stamped
  valid := h.valid
  bound := by
    rintro other binding (hprovider | hthread)
    · rw [setReplica_replicas] at hprovider
      split at hprovider
      · exact hbound binding hprovider
      · exact h.bound other binding (Or.inl hprovider)
    · exact h.bound other binding (Or.inr hthread)
  admitted := h.admitted
  called := h.called

/-- A call of a bound provider that was admitted under its activation. -/
theorem Known.call (h : Known gate configuration fit cluster) {index : ℕ}
    {binding : Binding C} {request : Q} {admitted : ProviderActivationState}
    (hbinds : cluster.Binds index binding)
    (hadmitted : BoundTo cluster.activations binding admitted) :
    Known gate configuration fit (cluster.call ⟨binding, request, admitted⟩) where
  configured := h.configured
  preparing := h.preparing
  row := h.row
  stamped := h.stamped
  valid := h.valid
  bound := h.bound
  admitted := h.admitted
  called := by
    intro call hcall
    rcases List.mem_append.mp hcall with hcall | hcall
    · exact h.called call hcall
    · obtain rfl := List.mem_singleton.mp hcall
      obtain ⟨activation, hactivation, hfit⟩ := h.bound index binding hbinds
      obtain rfl := h.activation_eq hadmitted.1 hactivation.1
        (hadmitted.2.trans hactivation.2.symm)
      exact ⟨hadmitted, hfit⟩

/-- Another activation, whose stamp is new. -/
theorem Known.activated (h : Known gate configuration fit cluster)
    {row : ProviderActivationState} {composed : C} (hvalid : row.valid = true)
    (hfit : fit composed row)
    (hfresh : row.stamp ∉ cluster.activations.map ProviderActivationState.stamp) :
    Known gate configuration fit (cluster.activated row) where
  configured := h.configured
  preparing := h.preparing
  row := by
    rintro canonical hcanonical _
    obtain rfl := Option.some.inj hcanonical
    exact List.mem_append_right _ List.mem_cons_self
  stamped := by
    show ((cluster.activations ++ [row]).map ProviderActivationState.stamp).Nodup
    rw [List.map_append, List.nodup_append]
    refine ⟨h.stamped, List.nodup_singleton _, ?_⟩
    rintro stamp hstamp other hother rfl
    obtain rfl := List.mem_singleton.mp hother
    exact hfresh hstamp
  valid := by
    intro activation hmem
    rcases List.mem_append.mp hmem with hmem | hmem
    · exact h.valid activation hmem
    · obtain rfl := List.mem_singleton.mp hmem
      exact ⟨hvalid, composed, hfit⟩
  bound := by
    intro index binding hbinds
    obtain ⟨activation, hactivation, hfit⟩ := h.bound index binding hbinds
    exact ⟨activation, hactivation.append _, hfit⟩
  admitted := by
    intro thread index binding request activation hthread
    exact (h.admitted thread index binding request activation hthread).append _
  called := by
    intro call hcall
    exact ⟨(h.called call hcall).1.append _, (h.called call hcall).2⟩

/-- A row that is not enabled. -/
theorem Known.rolledBack (h : Known gate configuration fit cluster)
    {row : ProviderActivationState} (hdisabled : row.enabled = false) :
    Known gate configuration fit (cluster.rolledBack row) where
  configured := h.configured
  preparing := h.preparing
  row := by
    rintro canonical hcanonical henabled
    obtain rfl := Option.some.inj hcanonical
    rw [hdisabled] at henabled
    cases henabled
  stamped := h.stamped
  valid := h.valid
  bound := h.bound
  admitted := h.admitted
  called := h.called

end Cluster

namespace ActivationGate

open Cluster

variable {O C Q : Type} (gate : ActivationGate O C Q)

/-- An activation that is stored has a version and a time of its own. -/
def Fresh (cluster : Cluster C Q) : GateStep O C Q → Prop
  | .storeActivation thread now => ∀ row ∈ (cluster.threads thread).pending?,
      (row now).stamp ∉ cluster.activations.map ProviderActivationState.stamp
  | _ => True

instance Fresh.decidable (cluster : Cluster C Q) :
    (action : GateStep O C Q) → Decidable (Fresh cluster action)
  | .storeActivation thread now => inferInstanceAs (Decidable
      (∀ row ∈ (cluster.threads thread).pending?,
        (row now).stamp ∉ cluster.activations.map ProviderActivationState.stamp))
  | .startActivation .. | .startRollback .. | .storeRollback .. | .resolve .. | .allow _
  | .check _ => inferInstanceAs (Decidable True)

/-- A provider that is built again is built from a configuration that fits the
canonical state. -/
def Composes (fit : C → ProviderActivationState → Prop) (cluster : Cluster C Q) :
    GateStep O C Q → Prop
  | .resolve _ index given _ => ∀ canonical composed,
      cluster.row = some canonical → canonical.enabled = true →
      gate.accepts (cluster.replicas index).configuration canonical = .ok () →
      (∀ kept, (cluster.replicas index).provider = some kept →
        kept.bindingMatches canonical = false) →
      gate.compose (cluster.replicas index).configuration given = .ok composed →
        fit composed canonical
  | _ => True

/-- What is activated fits the configuration of its replica. -/
def Activates (fit : C → ProviderActivationState → Prop) : Prop :=
  ∀ configuration order row now previous stored,
    gate.prepare configuration order = .ok row →
    ProviderActivationStore.activate (row now) previous = .ok stored →
      fit configuration stored

/-- How a call can come about. -/
inductive Reaches (cluster : Cluster C Q) (call : GatedCall C Q) : GateStep O C Q → Prop
  | allow {thread index : ℕ}
      (holding : cluster.threads thread = .holding index call.binding call.request)
      (allowed : gate.allowsRequest call.binding call.request cluster.row =
        some call.admitted)
      (budget : gate.localBudget call.request (cluster.replicas index).state = true)
      (checks : gate.storeBudget = none) : Reaches cluster call (.allow thread)
  | check {thread index : ℕ} {budgetAllows : Q → Option ProviderActivationState → Bool}
      (allowed : cluster.threads thread =
        .allowed index call.binding call.request call.admitted)
      (checks : gate.storeBudget = some budgetAllows)
      (budget : budgetAllows call.request cluster.row = true) :
      Reaches cluster call (.check thread)

variable {gate} {configuration : ℕ → C} {fit : C → ProviderActivationState → Prop}
  {cluster : Cluster C Q}

theorem known_storeActivation (h : Known gate configuration fit cluster)
    (hactivates : gate.Activates fit) {thread index : ℕ}
    {row : Instant → ProviderActivationState} {now : Instant}
    (hthread : cluster.threads thread = .activating index row)
    (hfresh : (row now).stamp ∉ cluster.activations.map ProviderActivationState.stamp) :
    Known gate configuration fit (storeActivation cluster thread index (row now)) := by
  unfold storeActivation
  split
  · exact h.leave thread
  · rename_i stored hstored
    obtain ⟨order, hprepare⟩ := h.preparing thread index row hthread
    obtain ⟨_, hvalid, hrow⟩ := activate_eq_ok hstored
    have hstamp : stored.stamp = (row now).stamp := by
      rw [hrow]
      rfl
    have hfit := hactivates _ order row now cluster.row stored hprepare hstored
    have hactivated : Known gate configuration fit (cluster.activated stored) := by
      apply h.activated _ hfit
      · rw [hstamp]
        exact hfresh
      · rw [hrow]
        exact hvalid
    apply Known.leave
    apply hactivated.setReplica
    · exact h.configured index
    · intro binding hbinding
      obtain rfl := Option.some.inj hbinding
      refine ⟨stored, ⟨List.mem_append_right _ List.mem_cons_self, ?_⟩, ?_⟩
      · rw [Binding.ofRow_stamp _ hvalid, hstamp]
      · rw [Binding.ofRow, h.configured index]
        exact hfit

theorem known_storeRollback (h : Known gate configuration fit cluster)
    {thread index : ℕ} {canonical : ProviderActivationState}
    {rolledBackBy reason : String} {now : Instant} :
    Known gate configuration fit
      (gate.storeRollback cluster thread index canonical rolledBackBy reason now) := by
  unfold storeRollback
  split
  · exact h.leave thread
  · rename_i row hrow
    apply Known.leave
    apply (h.rolledBack (rollback_eq_ok hrow)).setReplica
    · exact h.configured index
    · intro binding hbinding
      cases hbinding

theorem known_resolve (h : Known gate configuration fit cluster) {thread index : ℕ}
    {given : Option C} {request : Q}
    (hcomposes : gate.Composes fit cluster (.resolve thread index given request)) :
    Known gate configuration fit (gate.resolve cluster thread index given request) := by
  unfold resolve
  cases hrun : (gate.provider given cluster.row).run (cluster.replicas index) with
  | mk outcome after =>
      obtain ⟨hconfigured, hkept, hreturned, _⟩ := gate.provider_run hrun
      have hbound : ∀ binding, after.provider = some binding →
          ∃ activation, BoundTo cluster.activations binding activation ∧
            fit binding.configuration activation := by
        intro binding hbinding
        rcases hkept binding hbinding with hkept |
          ⟨canonical, composed, hrow, henabled, haccepts, hstale, hcompose, rfl, _⟩
        · exact h.bound index binding (Or.inl hkept)
        · have hmem := h.row canonical hrow henabled
          refine ⟨canonical, ⟨hmem, ?_⟩, ?_⟩
          · exact (Binding.ofRow_stamp composed (h.valid canonical hmem).1).symm
          · exact hcomposes canonical composed hrow henabled haccepts hstale hcompose
      have hreplica : Known gate configuration fit (cluster.setReplica index after) :=
        h.setReplica (hconfigured.trans (h.configured index)) hbound
      cases outcome with
      | error error => exact hreplica.leave thread
      | ok binding =>
          apply hreplica.resume
          · intro index row hnext
            cases hnext
          · intro other found hfound
            obtain ⟨rfl, rfl⟩ := Prod.mk.inj (Option.some.inj hfound)
            exact hbound binding (hreturned binding rfl).1
          · intro index binding request activation hnext
            cases hnext

/-- What `allows_request` has found. -/
theorem allowsRequest_eq_some {binding : Binding C} {request : Q}
    {row : Option ProviderActivationState} {admitted : ProviderActivationState}
    (h : gate.allowsRequest binding request row = some admitted) :
    row = some admitted ∧ admitted.enabled = true ∧ admitted.stamp = binding.stamp := by
  obtain ⟨hrow, hallowed⟩ := Option.filter_eq_some_iff.mp h
  simp only [Bool.and_eq_true, beq_iff_eq] at hallowed
  exact ⟨hrow, hallowed.1.1, hallowed.2⟩

theorem known_allow (h : Known gate configuration fit cluster) {thread index : ℕ}
    {binding : Binding C} {request : Q}
    (hthread : cluster.threads thread = .holding index binding request) :
    Known gate configuration fit (gate.allow cluster thread index binding request) := by
  have hbinds : cluster.Binds index binding := by
    refine Or.inr ⟨thread, ?_⟩
    rw [hthread]
    rfl
  unfold allow
  split
  · exact h.leave thread
  · rename_i admitted hadmitted
    obtain ⟨hrow, henabled, hstamp⟩ := allowsRequest_eq_some hadmitted
    have hbound : BoundTo cluster.activations binding admitted :=
      ⟨h.row admitted hrow henabled, hstamp⟩
    split
    · split
      · apply h.resume
        · intro index row hnext
          cases hnext
        · intro other found hfound
          obtain ⟨rfl, rfl⟩ := Prod.mk.inj (Option.some.inj hfound)
          exact h.bound index binding hbinds
        · intro index found request activation hnext
          obtain ⟨rfl, rfl, rfl, rfl⟩ := Thread.allowed.inj hnext
          exact hbound
      · exact (h.call hbinds hbound).leave thread
    · exact h.leave thread

theorem known_check (h : Known gate configuration fit cluster) {thread index : ℕ}
    {binding : Binding C} {request : Q} {admitted : ProviderActivationState}
    (hthread : cluster.threads thread = .allowed index binding request admitted) :
    Known gate configuration fit (gate.check cluster thread binding request admitted) := by
  unfold check
  split
  · have hbinds : cluster.Binds index binding := by
      refine Or.inr ⟨thread, ?_⟩
      rw [hthread]
      rfl
    exact (h.call hbinds
      (h.admitted thread index binding request admitted hthread)).leave thread
  · exact h.leave thread

/-- One operation of the store. -/
theorem known_step (h : Known gate configuration fit cluster)
    (hactivates : gate.Activates fit) {action : GateStep O C Q}
    (hfresh : Fresh cluster action) (hcomposes : gate.Composes fit cluster action) :
    Known gate configuration fit (gate.step cluster action) := by
  cases action with
  | startActivation thread index order =>
      simp only [step]
      split
      · exact h.leave thread
      · split
        · rename_i row hprepare
          apply h.resume
          · intro other found hnext
            obtain ⟨rfl, rfl⟩ := Thread.activating.inj hnext
            rw [h.configured index] at hprepare
            exact ⟨order, hprepare⟩
          · intro index binding hbinding
            cases hbinding
          · intro index binding request activation hnext
            cases hnext
        · exact h.leave thread
  | storeActivation thread now =>
      simp only [step]
      split
      · rename_i index row hthread
        apply known_storeActivation h hactivates hthread
        apply hfresh row
        rw [hthread]
        rfl
      · exact h
  | startRollback thread index rolledBackBy reason =>
      simp only [step]
      split
      · exact h.leave thread
      · split
        · apply h.resume
          · intro other found hnext
            cases hnext
          · intro index binding hbinding
            cases hbinding
          · intro index binding request activation hnext
            cases hnext
        · exact h.leave thread
  | storeRollback thread now =>
      simp only [step]
      split
      · exact known_storeRollback h
      · exact h
  | resolve thread index given request => exact known_resolve h hcomposes
  | allow thread =>
      simp only [step]
      split
      · rename_i index binding request hthread
        exact known_allow h hthread
      · exact h
  | check thread =>
      simp only [step]
      split
      · rename_i index binding request admitted hthread
        exact known_check h hthread
      · exact h

/-- Every state of a run. -/
theorem known_throughout (hactivates : gate.Activates fit)
    {admits : Cluster C Q → GateStep O C Q → Prop}
    (hadmits : ∀ {cluster action}, Known gate configuration fit cluster →
      admits cluster action → Fresh cluster action ∧ gate.Composes fit cluster action)
    {actions : List (GateStep O C Q)}
    (hactions : Along gate.step admits (start configuration) actions) :
    Throughout gate.step (Known gate configuration fit) (start configuration) actions := by
  apply throughout_of_step _ known_start hactions
  intro cluster action hknown haction
  exact known_step hknown hactivates (hadmits hknown haction).1 (hadmits hknown haction).2

variable {call : GatedCall C Q}

theorem reaches_of_allow {thread index : ℕ} {binding : Binding C} {request : Q}
    (hthread : cluster.threads thread = .holding index binding request)
    (h : call ∈ (gate.allow cluster thread index binding request).calls) :
    call ∈ cluster.calls ∨ gate.Reaches cluster call (.allow thread) := by
  unfold allow at h
  split at h
  · exact Or.inl h
  · rename_i admitted hadmitted
    split at h
    · rename_i hbudget
      split at h
      · exact Or.inl h
      · rename_i hchecks
        rcases List.mem_append.mp h with h | h
        · exact Or.inl h
        · obtain rfl := List.mem_singleton.mp h
          exact Or.inr (.allow hthread hadmitted hbudget (by simpa using hchecks))
    · exact Or.inl h

theorem reaches_of_check {thread index : ℕ} {binding : Binding C} {request : Q}
    {admitted : ProviderActivationState}
    (hthread : cluster.threads thread = .allowed index binding request admitted)
    (h : call ∈ (gate.check cluster thread binding request admitted).calls) :
    call ∈ cluster.calls ∨ gate.Reaches cluster call (.check thread) := by
  unfold check at h
  split at h
  · rename_i hbudget
    obtain ⟨budgetAllows, hchecks, hallows⟩ := (Option.any_eq_true _ _).mp hbudget
    rcases List.mem_append.mp h with h | h
    · exact Or.inl h
    · obtain rfl := List.mem_singleton.mp h
      exact Or.inr (.check hthread hchecks hallows)
  · exact Or.inl h

/-- A call is there already, or one of the two checks has let it through. -/
theorem reaches_of_step {action : GateStep O C Q}
    (h : call ∈ (gate.step cluster action).calls) :
    call ∈ cluster.calls ∨ gate.Reaches cluster call action := by
  cases action with
  | startActivation thread index order =>
      simp only [step] at h
      split at h
      · exact Or.inl h
      · split at h <;> exact Or.inl h
  | storeActivation thread now =>
      simp only [step] at h
      split at h
      · unfold storeActivation at h
        split at h <;> exact Or.inl h
      · exact Or.inl h
  | startRollback thread index rolledBackBy reason =>
      simp only [step] at h
      split at h
      · exact Or.inl h
      · split at h <;> exact Or.inl h
  | storeRollback thread now =>
      simp only [step] at h
      split at h
      · unfold storeRollback at h
        split at h <;> exact Or.inl h
      · exact Or.inl h
  | resolve thread index given request => exact Or.inl h
  | allow thread =>
      simp only [step] at h
      split at h
      · rename_i index binding request hthread
        exact reaches_of_allow hthread h
      · exact Or.inl h
  | check thread =>
      simp only [step] at h
      split at h
      · rename_i index binding request admitted hthread
        exact reaches_of_check hthread h
      · exact Or.inl h

end ActivationGate

end ShemaPlatform
