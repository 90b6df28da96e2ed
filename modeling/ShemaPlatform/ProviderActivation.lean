/-
The shared activation of a provider, and the gates of several replicas over it.
A gate binds its provider to one activation and asks the store again at every
request.  One step is one operation of the store, with the local code around it.
-/
import Mathlib.Logic.Function.Basic
import ShemaPlatform.Calendar
import ShemaPlatform.Effects
import ShemaPlatform.Errors
import ShemaPlatform.PyText

namespace ShemaPlatform

open Calendar Effects

/-- The row of one provider. -/
structure ProviderActivationState where
  enabled : Bool
  configurationVersion : Option String
  activationVersion : Option String
  activatedBy : Option String
  activatedAt : Option Instant
  maxCost : Option ℚ
  maxDurationSeconds : Option ℚ
  rollbackBy : Option String
  rollbackAt : Option Instant
  rollbackReason : Option String
  rollbackFromConfigurationVersion : Option String
deriving DecidableEq

namespace ProviderActivationState

/-- What a binding is compared with. -/
def stamp (state : ProviderActivationState) : Option String × Option Instant :=
  (state.activationVersion, state.activatedAt)

/-- The `check` constraint on enabled rows. -/
def valid (state : ProviderActivationState) : Bool :=
  state.configurationVersion.isSome && state.activationVersion.isSome &&
    state.activatedBy.isSome && state.activatedAt.isSome &&
    state.maxCost.all fun maxCost => decide (0 < maxCost) &&
      state.maxDurationSeconds.any fun maxDurationSeconds =>
        decide (0 < maxDurationSeconds)

/-- A row that says nothing but that the provider is not enabled. -/
def disabled : ProviderActivationState :=
  ⟨false, none, none, none, none, none, none, none, none, none, none⟩

end ProviderActivationState

namespace ProviderActivationStore

/-- The row after an activation; one that is enabled is not replaced. -/
def activate (state : ProviderActivationState) (row : Option ProviderActivationState) :
    Except Failure ProviderActivationState := do
  require state.enabled (.valueError "activation state must be enabled")
  require state.valid (.checkViolation "provider_activation_state_check")
  require (!row.any ProviderActivationState.enabled)
    (.integrityViolation "provider activation already enabled on another runtime")
  return { state with
    rollbackBy := none
    rollbackAt := none
    rollbackReason := none
    rollbackFromConfigurationVersion := none }

/-- The row after a rollback, a compare-and-set on the expected activation. -/
def rollback (rolledBackBy : String) (rolledBackAt : Instant) (reason : String)
    (expected : ProviderActivationState) (row : Option ProviderActivationState) :
    Except Failure ProviderActivationState :=
  match row.filter fun current => current.enabled && current.stamp == expected.stamp with
  | some current => .ok { current with
      enabled := false
      rollbackBy := some rolledBackBy
      rollbackAt := some rolledBackAt
      rollbackReason := some (String.ofList (reason.toList.take 256))
      rollbackFromConfigurationVersion := current.configurationVersion }
  | none => .error (.integrityViolation
      "provider activation rollback lost its compare-and-set target")

end ProviderActivationStore

/-- A gated provider: the wrapped provider by its configuration, and the
activation it is bound to. -/
structure Binding (C : Type) where
  configuration : C
  activationVersion : String
  activatedAt : Option Instant

namespace Binding

variable {C : Type}

/-- A binding to the activation of a row, whose version is read with `str`. -/
def ofRow (configuration : C) (row : ProviderActivationState) : Binding C :=
  ⟨configuration, row.activationVersion.getD "None", row.activatedAt⟩

def stamp (binding : Binding C) : Option String × Option Instant :=
  (some binding.activationVersion, binding.activatedAt)

/-- `binding_matches` -/
def bindingMatches (binding : Binding C) (row : ProviderActivationState) : Bool :=
  binding.activationVersion == row.activationVersion.getD "None" &&
    binding.activatedAt == row.activatedAt

end Binding

/-- The local state of a gate: the configuration of its replica, `_state` and
`_provider`. -/
structure Replica (C : Type) where
  configuration : C
  state : ProviderActivationState
  provider : Option (Binding C)

/-- What distinguishes the gates: orders of activation, configurations, and
requests are their own. -/
structure ActivationGate (O C Q : Type) where
  /-- the checks of `activate`, and the row that it stores at some time -/
  prepare : C → O → Except Failure (Instant → ProviderActivationState)
  /-- what `provider` says where the canonical state is not enabled -/
  inactive : Failure
  /-- the check of `provider` before it looks at the binding -/
  accepts : C → ProviderActivationState → Except Failure Unit
  /-- the configuration that another provider is built from -/
  compose : C → Option C → Except Failure C
  /-- `_state` after `provider`, from the former one and the canonical state -/
  remember : ProviderActivationState → ProviderActivationState →
    Except Failure ProviderActivationState
  /-- who has rolled back, as the store keeps it -/
  operator : String → String
  /-- `_state` after a rollback by someone at some time for a reason, from the
  former one -/
  disable : ProviderActivationState → String → Instant → String → ProviderActivationState
  /-- what `allows_request` asks besides the binding -/
  admits : Q → ProviderActivationState → Bool
  /-- a budget check on `_state`, without the store -/
  localBudget : Q → ProviderActivationState → Bool
  /-- a budget check that reads the store again -/
  storeBudget : Option (Q → Option ProviderActivationState → Bool)

namespace ActivationGate

variable {O C Q : Type} (gate : ActivationGate O C Q)

/-- The canonical state, when it is enabled. -/
def active (row : Option ProviderActivationState) : Except Failure ProviderActivationState :=
  match row.filter ProviderActivationState.enabled with
  | some canonical => .ok canonical
  | none => .error gate.inactive

/-- `provider` on one replica, with the row it reads: a provider bound to
another activation is dropped, and built again where that is possible. -/
def provider (given : Option C) (row : Option ProviderActivationState) :
    Effect (Replica C) Failure (Binding C) := do
  let canonical ← Effect.lift (gate.active row)
  let configuration ← Effect.read Replica.configuration
  Effect.lift (gate.accepts configuration canonical)
  Effect.modify fun replica => { replica with
    provider := replica.provider.filter fun binding => binding.bindingMatches canonical }
  let bound ← Effect.read Replica.provider
  let binding ← match bound with
    | some binding => pure binding
    | none => do
        let composed ← Effect.lift (gate.compose configuration given)
        Effect.modify fun replica =>
          { replica with provider := some (Binding.ofRow composed canonical) }
        pure (Binding.ofRow composed canonical)
  let former ← Effect.read Replica.state
  let state ← Effect.lift (gate.remember former canonical)
  Effect.modify fun replica => { replica with state := state }
  return binding

/-- `allows_request` -/
def allowsRequest (binding : Binding C) (request : Q)
    (row : Option ProviderActivationState) : Option ProviderActivationState :=
  row.filter fun state => state.enabled && gate.admits request state &&
    state.stamp == binding.stamp

end ActivationGate

/-- Where one thread stands between two operations of the store. -/
inductive Thread (C Q : Type) where
  | idle
  | activating (replica : ℕ) (row : Instant → ProviderActivationState)
  | rollingBack (replica : ℕ) (canonical : ProviderActivationState)
      (rolledBackBy reason : String)
  | holding (replica : ℕ) (binding : Binding C) (request : Q)
  | allowed (replica : ℕ) (binding : Binding C) (request : Q)
      (admitted : ProviderActivationState)

/-- A call that has reached the wrapped provider, with the canonical state that
its request was admitted under. -/
structure GatedCall (C Q : Type) where
  binding : Binding C
  request : Q
  admitted : ProviderActivationState

/-- The store, the replicas and their threads; and what has happened: the rows
that were activated and the calls that were made. -/
structure Cluster (C Q : Type) where
  row : Option ProviderActivationState
  replicas : ℕ → Replica C
  threads : ℕ → Thread C Q
  activations : List ProviderActivationState
  calls : List (GatedCall C Q)

namespace Cluster

variable {C Q : Type}

/-- Replicas that have just been started, over a store without a row. -/
def start (configuration : ℕ → C) : Cluster C Q where
  row := none
  replicas index := ⟨configuration index, .disabled, none⟩
  threads _ := .idle
  activations := []
  calls := []

def resume (cluster : Cluster C Q) (thread : ℕ) (next : Thread C Q) : Cluster C Q :=
  { cluster with threads := Function.update cluster.threads thread next }

def setReplica (cluster : Cluster C Q) (index : ℕ) (replica : Replica C) :
    Cluster C Q :=
  { cluster with replicas := Function.update cluster.replicas index replica }

/-- An activation is stored. -/
def activated (cluster : Cluster C Q) (row : ProviderActivationState) : Cluster C Q :=
  { cluster with row := some row, activations := cluster.activations ++ [row] }

/-- The row after a rollback. -/
def rolledBack (cluster : Cluster C Q) (row : ProviderActivationState) : Cluster C Q :=
  { cluster with row := some row }

theorem resume_threads (cluster : Cluster C Q) (thread : ℕ) (next : Thread C Q)
    (other : ℕ) : (cluster.resume thread next).threads other =
      if other = thread then next else cluster.threads other :=
  Function.update_apply cluster.threads thread next other

theorem setReplica_replicas (cluster : Cluster C Q) (index : ℕ) (replica : Replica C)
    (other : ℕ) : (cluster.setReplica index replica).replicas other =
      if other = index then replica else cluster.replicas other :=
  Function.update_apply cluster.replicas index replica other

/-- The wrapped provider is called. -/
def call (cluster : Cluster C Q) (made : GatedCall C Q) : Cluster C Q :=
  { cluster with calls := cluster.calls ++ [made] }

end Cluster

/-- One operation of the store: an activation reads and then stores, and so does
a rollback; a request resolves its provider and is checked once or twice. -/
inductive GateStep (O C Q : Type) where
  | startActivation (thread replica : ℕ) (order : O)
  | storeActivation (thread : ℕ) (now : Instant)
  | startRollback (thread replica : ℕ) (rolledBackBy reason : String)
  | storeRollback (thread : ℕ) (now : Instant)
  | resolve (thread replica : ℕ) (given : Option C) (request : Q)
  | allow (thread : ℕ)
  | check (thread : ℕ)

namespace ActivationGate

variable {O C Q : Type} (gate : ActivationGate O C Q)

/-- The last operation of `activate`, and what the replica keeps of it. -/
def storeActivation (cluster : Cluster C Q) (thread index : ℕ)
    (state : ProviderActivationState) : Cluster C Q :=
  match ProviderActivationStore.activate state cluster.row with
  | .error _ => cluster.resume thread .idle
  | .ok row =>
      ((cluster.activated row).setReplica index { cluster.replicas index with
        state := state
        provider := some (Binding.ofRow (cluster.replicas index).configuration state)
        }).resume thread .idle

/-- The last operation of `rollback`, and what the replica keeps of it. -/
def storeRollback (cluster : Cluster C Q) (thread index : ℕ)
    (canonical : ProviderActivationState) (rolledBackBy reason : String)
    (now : Instant) : Cluster C Q :=
  match ProviderActivationStore.rollback (gate.operator rolledBackBy) now reason canonical
      cluster.row with
  | .error _ => cluster.resume thread .idle
  | .ok row =>
      ((cluster.rolledBack row).setReplica index { cluster.replicas index with
        state := gate.disable (cluster.replicas index).state rolledBackBy now reason
        provider := none }).resume thread .idle

/-- `allows_request`, and a budget check that needs no store. -/
def allow (cluster : Cluster C Q) (thread index : ℕ) (binding : Binding C)
    (request : Q) : Cluster C Q :=
  match gate.allowsRequest binding request cluster.row with
  | none => cluster.resume thread .idle
  | some admitted =>
      if gate.localBudget request (cluster.replicas index).state then
        if gate.storeBudget.isSome then
          cluster.resume thread (.allowed index binding request admitted)
        else (cluster.call ⟨binding, request, admitted⟩).resume thread .idle
      else cluster.resume thread .idle

/-- A budget check that reads the store again. -/
def check (cluster : Cluster C Q) (thread : ℕ) (binding : Binding C) (request : Q)
    (admitted : ProviderActivationState) : Cluster C Q :=
  if gate.storeBudget.any fun budgetAllows => budgetAllows request cluster.row then
    (cluster.call ⟨binding, request, admitted⟩).resume thread .idle
  else cluster.resume thread .idle

/-- `provider`, and the request that is then held. -/
def resolve (cluster : Cluster C Q) (thread index : ℕ) (given : Option C)
    (request : Q) : Cluster C Q :=
  let (outcome, replica) :=
    (gate.provider given cluster.row).run (cluster.replicas index)
  (cluster.setReplica index replica).resume thread (match outcome with
    | .ok binding => .holding index binding request
    | .error _ => .idle)

def step (cluster : Cluster C Q) : GateStep O C Q → Cluster C Q
  | .startActivation thread index order =>
      if cluster.row.any ProviderActivationState.enabled then cluster.resume thread .idle
      else match gate.prepare (cluster.replicas index).configuration order with
        | .ok row => cluster.resume thread (.activating index row)
        | .error _ => cluster.resume thread .idle
  | .storeActivation thread now =>
      match cluster.threads thread with
      | .activating index row => storeActivation cluster thread index (row now)
      | _ => cluster
  | .startRollback thread index rolledBackBy reason =>
      if PyText.blank rolledBackBy || PyText.blank reason then cluster.resume thread .idle
      else match cluster.row.filter ProviderActivationState.enabled with
        | some canonical =>
            cluster.resume thread (.rollingBack index canonical rolledBackBy reason)
        | none => cluster.resume thread .idle
  | .storeRollback thread now =>
      match cluster.threads thread with
      | .rollingBack index canonical rolledBackBy reason =>
          gate.storeRollback cluster thread index canonical rolledBackBy reason now
      | _ => cluster
  | .resolve thread index given request => gate.resolve cluster thread index given request
  | .allow thread =>
      match cluster.threads thread with
      | .holding index binding request => gate.allow cluster thread index binding request
      | _ => cluster
  | .check thread =>
      match cluster.threads thread with
      | .allowed _ binding request admitted =>
          gate.check cluster thread binding request admitted
      | _ => cluster

end ActivationGate

end ShemaPlatform
