/-
The kill switch of a provider across replicas: activations and rollbacks of its row take
turns, and no request is admitted under an activation that has been rolled back.
-/
import ShemaPlatform.ActivationCeilings
import ShemaPlatform.Histories

namespace ShemaPlatform

open Calendar Effects Histories StateRun

/-- What has been written to the row of a provider. -/
inductive RowWrite where
  | activated (row : ProviderActivationState)
  | rolledBack (row : ProviderActivationState)

namespace RowWrite

/-- The activation with this stamp has been rolled back. -/
def Ended (writes : List RowWrite) (stamp : Option String × Option Instant) : Prop :=
  ∃ row, .rolledBack row ∈ writes ∧ row.stamp = stamp

/-- An activation is new and comes when all earlier ones are rolled back; a rollback is of
an activation that is not. -/
def TakesTurn (earlier : List RowWrite) : RowWrite → Prop
  | .activated row => (∀ first, .activated first ∈ earlier → first.stamp ≠ row.stamp) ∧
      ∀ first, .activated first ∈ earlier → Ended earlier first.stamp
  | .rolledBack row => (∃ first, .activated first ∈ earlier ∧ first.stamp = row.stamp) ∧
      ¬ Ended earlier row.stamp

variable {writes : List RowWrite} {stamp : Option String × Option Instant}
  {row : ProviderActivationState}

theorem ended_activated : Ended (writes ++ [.activated row]) stamp ↔ Ended writes stamp := by
  simp [Ended]

theorem ended_rolledBack : Ended (writes ++ [.rolledBack row]) stamp ↔
    Ended writes stamp ∨ row.stamp = stamp := by
  simp [Ended, or_and_right, exists_or]

/-- What has ended had been activated. -/
theorem activated_of_ended (hturns : Preceded TakesTurn writes) (h : Ended writes stamp) :
    ∃ first, .activated first ∈ writes ∧ first.stamp = stamp := by
  rcases h with ⟨row, hmem, rfl⟩
  rcases List.append_of_mem hmem with ⟨before, after, rfl⟩
  rcases (hturns before _ after rfl).1 with ⟨first, hfirst, hstamp⟩
  exact ⟨first, List.mem_append_left _ hfirst, hstamp⟩

end RowWrite

namespace ActivationGate

open Cluster RowWrite

variable {O C Q : Type} (gate : ActivationGate O C Q)

/-- What an operation writes to the row. -/
def written (cluster : Cluster C Q) : GateStep O C Q → Option RowWrite
  | .storeActivation thread now =>
      match cluster.threads thread with
      | .activating _ row =>
          (ProviderActivationStore.activate (row now) cluster.row).toOption.map .activated
      | _ => none
  | .storeRollback thread now =>
      match cluster.threads thread with
      | .rollingBack _ canonical rolledBackBy reason =>
          (ProviderActivationStore.rollback (gate.operator rolledBackBy) now reason canonical
            cluster.row).toOption.map .rolledBack
      | _ => none
  | _ => none

/-- What a run writes to the row, oldest first. -/
def writes : Cluster C Q → List (GateStep O C Q) → List RowWrite
  | _, [] => []
  | cluster, action :: rest =>
      (gate.written cluster action).toList ++ writes (gate.step cluster action) rest

theorem writes_append (cluster : Cluster C Q) (actions more : List (GateStep O C Q)) :
    gate.writes cluster (actions ++ more) = gate.writes cluster actions ++
      gate.writes (actions.foldl gate.step cluster) more := by
  induction actions generalizing cluster with
  | nil => rfl
  | cons action rest ih =>
      rw [List.cons_append, writes, writes, ih, List.append_assoc, List.foldl_cons]

theorem writes_concat (cluster : Cluster C Q) (actions : List (GateStep O C Q))
    (action : GateStep O C Q) :
    gate.writes cluster (actions ++ [action]) = gate.writes cluster actions ++
      (gate.written (actions.foldl gate.step cluster) action).toList := by
  rw [writes_append, writes, writes, List.append_nil]

variable {gate} {cluster : Cluster C Q} {action : GateStep O C Q}

/-- An operation that writes nothing leaves the row and the activations. -/
theorem row_of_unwritten (h : gate.written cluster action = none) :
    (gate.step cluster action).row = cluster.row ∧
      (gate.step cluster action).activations = cluster.activations := by
  cases action with
  | startActivation thread index order =>
      simp only [step]
      split
      · exact ⟨rfl, rfl⟩
      · split <;> exact ⟨rfl, rfl⟩
  | storeActivation thread now =>
      simp only [step]
      split
      · rename_i index row hthread
        simp only [written, hthread, Option.map_eq_none_iff] at h
        unfold storeActivation
        split
        · exact ⟨rfl, rfl⟩
        · rename_i stored hstored
          rw [hstored] at h
          cases h
      · exact ⟨rfl, rfl⟩
  | startRollback thread index rolledBackBy reason =>
      simp only [step]
      split
      · exact ⟨rfl, rfl⟩
      · split <;> exact ⟨rfl, rfl⟩
  | storeRollback thread now =>
      simp only [step]
      split
      · rename_i index canonical rolledBackBy reason hthread
        simp only [written, hthread, Option.map_eq_none_iff] at h
        unfold storeRollback
        split
        · exact ⟨rfl, rfl⟩
        · rename_i stored hstored
          rw [hstored] at h
          cases h
      · exact ⟨rfl, rfl⟩
  | resolve thread index given request => exact ⟨rfl, rfl⟩
  | allow thread =>
      simp only [step]
      split
      · unfold allow
        split
        · exact ⟨rfl, rfl⟩
        · split
          · split <;> exact ⟨rfl, rfl⟩
          · exact ⟨rfl, rfl⟩
      · exact ⟨rfl, rfl⟩
  | check thread =>
      simp only [step]
      split
      · unfold check
        split <;> exact ⟨rfl, rfl⟩
      · exact ⟨rfl, rfl⟩

/-- What an activation has found and left. -/
theorem written_activated {row : ProviderActivationState}
    (h : gate.written cluster action = some (.activated row)) :
    (gate.step cluster action).row = some row ∧
      (gate.step cluster action).activations = cluster.activations ++ [row] ∧
      row.enabled = true ∧ cluster.row.any ProviderActivationState.enabled = false ∧
      (Fresh cluster action →
        row.stamp ∉ cluster.activations.map ProviderActivationState.stamp) := by
  cases action with
  | storeActivation thread now =>
      simp only [written] at h
      split at h
      · rename_i index prepared hthread
        rcases Option.map_eq_some_iff.mp h with ⟨stored, hstored, hsame⟩
        obtain rfl := RowWrite.activated.inj hsame
        cases hactivate : ProviderActivationStore.activate (prepared now) cluster.row with
        | error error =>
            rw [hactivate] at hstored
            cases hstored
        | ok found =>
            rw [hactivate] at hstored
            obtain rfl := Option.some.inj hstored
            rcases activate_eq_ok hactivate with ⟨henabled, _, hfound⟩
            simp only [step, hthread, storeActivation, hactivate]
            constructor
            · rfl
            · constructor
              · rfl
              · constructor
                · rw [hfound]
                  exact henabled
                · constructor
                  · simp only [ProviderActivationStore.activate, bind_eq_ok, require_eq_ok,
                      pure_eq_ok, Bool.not_eq_true'] at hactivate
                    rcases hactivate with ⟨_, _, _, _, _, hfree, _⟩
                    exact hfree
                  · intro hfresh
                    have hstamp : found.stamp = (prepared now).stamp := by
                      rw [hfound]
                      rfl
                    rw [hstamp]
                    exact hfresh prepared (by rw [hthread]; rfl)
      · cases h
  | storeRollback thread now =>
      simp only [written] at h
      split at h
      · rcases Option.map_eq_some_iff.mp h with ⟨stored, _, hsame⟩
        cases hsame
      · cases h
  | _ => cases h

/-- What a rollback has found and left. -/
theorem written_rolledBack {row : ProviderActivationState}
    (h : gate.written cluster action = some (.rolledBack row)) :
    (gate.step cluster action).row = some row ∧
      (gate.step cluster action).activations = cluster.activations ∧ row.enabled = false ∧
      ∃ current, cluster.row = some current ∧ current.enabled = true ∧
        current.stamp = row.stamp := by
  cases action with
  | storeRollback thread now =>
      simp only [written] at h
      split at h
      · rename_i index canonical rolledBackBy reason hthread
        rcases Option.map_eq_some_iff.mp h with ⟨stored, hstored, hsame⟩
        obtain rfl := RowWrite.rolledBack.inj hsame
        cases hrollback : ProviderActivationStore.rollback (gate.operator rolledBackBy) now
            reason canonical cluster.row with
        | error error =>
            rw [hrollback] at hstored
            cases hstored
        | ok found =>
            rw [hrollback] at hstored
            obtain rfl := Option.some.inj hstored
            simp only [step, hthread, storeRollback, hrollback]
            constructor
            · rfl
            · constructor
              · rfl
              · constructor
                · exact rollback_eq_ok hrollback
                · unfold ProviderActivationStore.rollback at hrollback
                  split at hrollback
                  · rename_i current hcurrent
                    rcases Option.filter_eq_some_iff.mp hcurrent with ⟨hrow, henabled⟩
                    obtain rfl := Except.ok.inj hrollback
                    rw [Bool.and_eq_true] at henabled
                    exact ⟨current, hrow, henabled.1, rfl⟩
                  · cases hrollback
      · cases h
  | storeActivation thread now =>
      simp only [written] at h
      split at h
      · rcases Option.map_eq_some_iff.mp h with ⟨stored, _, hsame⟩
        cases hsame
      · cases h
  | _ => cases h

/-- The row and the activations of a cluster, by what has been written. -/
structure Ledger (cluster : Cluster C Q) (writes : List RowWrite) : Prop where
  turns : Preceded TakesTurn writes
  live : ∀ first, .activated first ∈ writes →
    Ended writes first.stamp ∨ cluster.row = some first ∧ first.enabled = true
  row : ∀ canonical, cluster.row = some canonical → canonical.enabled = true →
    .activated canonical ∈ writes ∧ ¬ Ended writes canonical.stamp
  activated : ∀ row, .activated row ∈ writes ↔ row ∈ cluster.activations

theorem Ledger.activate {writes : List RowWrite} (h : Ledger cluster writes)
    {row : ProviderActivationState} (hfresh : Fresh cluster action)
    (hwritten : gate.written cluster action = some (.activated row)) :
    Ledger (gate.step cluster action) (writes ++ [.activated row]) := by
  rcases written_activated hwritten with ⟨hrow, hactivations, henabled, hfree, hnew⟩
  have hdisabled : ∀ found, cluster.row = some found → found.enabled = false := by
    intro found hfound
    rw [hfound] at hfree
    exact hfree
  have hother : ∀ first, .activated first ∈ writes → first.stamp ≠ row.stamp := by
    intro first hfirst hsame
    apply hnew hfresh
    rw [← hsame]
    exact List.mem_map_of_mem ((h.activated first).mp hfirst)
  constructor
  · apply h.turns.concat
    constructor
    · exact hother
    · intro first hfirst
      rcases h.live first hfirst with hended | ⟨hlive, hon⟩
      · exact hended
      · rw [hdisabled first hlive] at hon
        cases hon
  · intro first hfirst
    rw [ended_activated]
    rcases List.mem_append.mp hfirst with hfirst | hfirst
    · rcases h.live first hfirst with hended | ⟨hlive, hon⟩
      · exact Or.inl hended
      · rw [hdisabled first hlive] at hon
        cases hon
    · obtain rfl := RowWrite.activated.inj (List.mem_singleton.mp hfirst)
      exact Or.inr ⟨hrow, henabled⟩
  · intro canonical hcanonical _
    obtain rfl := Option.some.inj (hrow.symm.trans hcanonical)
    constructor
    · exact List.mem_append_right _ (List.mem_singleton_self _)
    · rw [ended_activated]
      intro hended
      rcases activated_of_ended h.turns hended with ⟨first, hfirst, hsame⟩
      exact hother first hfirst hsame
  · intro other
    rw [hactivations, List.mem_append, List.mem_append, h.activated other, List.mem_singleton,
      List.mem_singleton, RowWrite.activated.injEq]

theorem Ledger.rollback {writes : List RowWrite} (h : Ledger cluster writes)
    {row : ProviderActivationState}
    (hwritten : gate.written cluster action = some (.rolledBack row)) :
    Ledger (gate.step cluster action) (writes ++ [.rolledBack row]) := by
  rcases written_rolledBack hwritten with
    ⟨hrow, hactivations, hdisabled, current, hcurrent, henabled, hstamp⟩
  rcases h.row current hcurrent henabled with ⟨hactivated, hlive⟩
  constructor
  · apply h.turns.concat
    exact ⟨⟨current, hactivated, hstamp⟩, hstamp ▸ hlive⟩
  · intro first hfirst
    rw [ended_rolledBack]
    left
    have hfirst : .activated first ∈ writes := by simpa using hfirst
    rcases h.live first hfirst with hended | ⟨hfound, _⟩
    · exact Or.inl hended
    · obtain rfl := Option.some.inj (hcurrent.symm.trans hfound)
      exact Or.inr hstamp.symm
  · intro canonical hcanonical hon
    obtain rfl := Option.some.inj (hrow.symm.trans hcanonical)
    rw [hdisabled] at hon
    cases hon
  · intro other
    rw [hactivations, ← h.activated other]
    simp

theorem Ledger.step {writes : List RowWrite} (h : Ledger cluster writes)
    (hfresh : Fresh cluster action) : Ledger (gate.step cluster action)
      (writes ++ (gate.written cluster action).toList) := by
  cases hwritten : gate.written cluster action with
  | none =>
      rw [Option.toList_none, List.append_nil]
      rcases row_of_unwritten hwritten with ⟨hrow, hactivations⟩
      constructor
      · exact h.turns
      · rw [hrow]
        exact h.live
      · rw [hrow]
        exact h.row
      · rw [hactivations]
        exact h.activated
  | some write =>
      rw [Option.toList_some]
      cases write with
      | activated row => exact h.activate hfresh hwritten
      | rolledBack row => exact h.rollback hwritten

/-- A thread past the first check has just made it, or was past it before. -/
theorem allowed_of_step {thread index : ℕ} {binding : Binding C} {request : Q}
    {admitted : ProviderActivationState}
    (h : (gate.step cluster action).threads thread =
      .allowed index binding request admitted) :
    cluster.threads thread = .allowed index binding request admitted ∨
      action = .allow thread ∧ cluster.threads thread = .holding index binding request ∧
        gate.allowsRequest binding request cluster.row = some admitted := by
  have hleave : ∀ {other : ℕ}, (cluster.resume other .idle).threads thread =
      .allowed index binding request admitted →
        cluster.threads thread = .allowed index binding request admitted := by
    intro other hother
    rw [resume_threads] at hother
    split at hother
    · cases hother
    · exact hother
  cases action with
  | startActivation other replica order =>
      left
      simp only [step] at h
      split at h
      · exact hleave h
      · split at h
        · rw [resume_threads] at h
          split at h
          · cases h
          · exact h
        · exact hleave h
  | storeActivation other now =>
      left
      simp only [step] at h
      split at h
      · unfold storeActivation at h
        split at h
        · exact hleave h
        · exact hleave h
      · exact h
  | startRollback other replica rolledBackBy reason =>
      left
      simp only [step] at h
      split at h
      · exact hleave h
      · split at h
        · rw [resume_threads] at h
          split at h
          · cases h
          · exact h
        · exact hleave h
  | storeRollback other now =>
      left
      simp only [step] at h
      split at h
      · unfold storeRollback at h
        split at h
        · exact hleave h
        · exact hleave h
      · exact h
  | resolve other replica given asked =>
      left
      simp only [step, resolve, resume_threads] at h
      split at h
      · split at h <;> cases h
      · exact h
  | allow other =>
      simp only [step] at h
      split at h
      · rename_i replica held asked hthread
        unfold allow at h
        split at h
        · exact Or.inl (hleave h)
        · rename_i found hfound
          split at h
          · split at h
            · rw [resume_threads] at h
              split at h
              · rename_i hsame
                subst hsame
                obtain ⟨rfl, rfl, rfl, rfl⟩ := Thread.allowed.inj h
                exact Or.inr ⟨rfl, hthread, hfound⟩
              · exact Or.inl h
            · exact Or.inl (hleave h)
          · exact Or.inl (hleave h)
      · exact Or.inl h
  | check other =>
      left
      simp only [step] at h
      split at h
      · unfold check at h
        split at h
        · exact hleave h
        · exact hleave h
      · exact h

section Runs

variable (gate) (configuration : ℕ → C)

/-- The cluster after some operations of freshly started replicas. -/
def after (actions : List (GateStep O C Q)) : Cluster C Q :=
  actions.foldl gate.step (start configuration)

/-- What a run of freshly started replicas has written to the row. -/
def history (actions : List (GateStep O C Q)) : List RowWrite :=
  gate.writes (start configuration) actions

/-- The request of a call was checked at some point of the run, where the row was enabled
by the very activation that the call's provider is bound to, and which had not ended. -/
def CheckedAlive (actions : List (GateStep O C Q)) (call : GatedCall C Q) : Prop :=
  ∃ before rest thread, actions = before ++ .allow thread :: rest ∧
    (gate.after configuration before).row = some call.admitted ∧
    call.admitted.enabled = true ∧ call.admitted.stamp = call.binding.stamp ∧
    ¬ Ended (gate.history configuration before) call.binding.stamp

variable {gate configuration} {actions : List (GateStep O C Q)} {call : GatedCall C Q}

theorem CheckedAlive.append {more : List (GateStep O C Q)}
    (h : gate.CheckedAlive configuration actions call) :
    gate.CheckedAlive configuration (actions ++ more) call := by
  rcases h with ⟨before, rest, thread, rfl, hchecked⟩
  exact ⟨before, rest ++ more, thread, by simp, hchecked⟩

theorem after_concat : gate.after configuration (actions ++ [action]) =
    gate.step (gate.after configuration actions) action := by
  rw [after, List.foldl_append, List.foldl_cons, List.foldl_nil, after]

theorem ledger_of_run
    (hfresh : Along gate.step Fresh (start configuration) actions) :
    Ledger (gate.after configuration actions) (gate.history configuration actions) := by
  induction actions using List.reverseRecOn with
  | nil =>
      constructor
      · exact preceded_nil
      · exact fun _ hmem => by cases hmem
      · exact fun _ hrow => by cases hrow
      · exact fun _ => by simp [history, writes, after, start]
  | append_singleton actions action ih =>
      rw [along_append] at hfresh
      rw [after_concat, history, writes_concat]
      exact (ih hfresh.1).step hfresh.2.1

/-- A request that is let through is checked alive. -/
theorem checkedAlive_of_allow (hledger : Ledger (gate.after configuration actions)
      (gate.history configuration actions)) {thread : ℕ}
    (hallows : gate.allowsRequest call.binding call.request
      (gate.after configuration actions).row = some call.admitted) :
    gate.CheckedAlive configuration (actions ++ [.allow thread]) call := by
  rcases allowsRequest_eq_some hallows with ⟨hrow, henabled, hstamp⟩
  use actions, [], thread, rfl, hrow, henabled, hstamp
  rw [← hstamp]
  exact (hledger.row _ hrow henabled).2

/-- Every call, and every request that is past its first check, was checked alive. -/
theorem checkedAlive_of_run
    (hfresh : Along gate.step Fresh (start configuration) actions) :
    (∀ call ∈ (gate.after configuration actions).calls,
      gate.CheckedAlive configuration actions call) ∧
    ∀ thread index (call : GatedCall C Q),
      (gate.after configuration actions).threads thread =
        .allowed index call.binding call.request call.admitted →
          gate.CheckedAlive configuration actions call := by
  induction actions using List.reverseRecOn with
  | nil =>
      constructor
      · exact fun _ hmem => by cases hmem
      · exact fun _ _ _ hthread => by cases hthread
  | append_singleton actions action ih =>
      rw [along_append] at hfresh
      have hledger := ledger_of_run hfresh.1
      rcases ih hfresh.1 with ⟨hcalls, hallowed⟩
      rw [after_concat]
      constructor
      · intro call hcall
        rcases reaches_of_step hcall with hold | hreaches
        · exact (hcalls call hold).append
        · cases hreaches with
          | allow holding allowed budget checks => exact checkedAlive_of_allow hledger allowed
          | check allowed checks budget => exact (hallowed _ _ call allowed).append
      · intro thread index call hthread
        rcases allowed_of_step hthread with hold | ⟨rfl, _, hallows⟩
        · exact (hallowed thread index call hold).append
        · exact checkedAlive_of_allow hledger hallows

/-- A rollback whose target has been rolled back already leaves the row as it is. -/
theorem row_of_ended (hledger : Ledger (gate.after configuration actions)
      (gate.history configuration actions)) {thread index : ℕ}
    {canonical : ProviderActivationState} {rolledBackBy reason : String}
    (hthread : (gate.after configuration actions).threads thread =
      .rollingBack index canonical rolledBackBy reason)
    (hended : Ended (gate.history configuration actions) canonical.stamp) (now : Instant) :
    (gate.step (gate.after configuration actions) (.storeRollback thread now)).row =
      (gate.after configuration actions).row := by
  cases hwritten : gate.written (gate.after configuration actions)
      (.storeRollback thread now) with
  | none => exact (row_of_unwritten hwritten).1
  | some write =>
      -- only the activation that the thread has read could be rolled back
      simp only [written, hthread] at hwritten
      rcases Option.map_eq_some_iff.mp hwritten with ⟨stored, hstored, _⟩
      cases hrollback : ProviderActivationStore.rollback (gate.operator rolledBackBy) now
          reason canonical (gate.after configuration actions).row with
      | error error =>
          rw [hrollback] at hstored
          cases hstored
      | ok found =>
          unfold ProviderActivationStore.rollback at hrollback
          split at hrollback
          · rename_i current hcurrent
            rcases Option.filter_eq_some_iff.mp hcurrent with ⟨hrow, hmatches⟩
            rw [Bool.and_eq_true, beq_iff_eq] at hmatches
            rw [← hmatches.2] at hended
            exact absurd hended (hledger.row current hrow hmatches.1).2
          · cases hrollback

/-- For replicas of any gate, whose activations have stamps of their own: an activation is
stored only when every earlier one has been rolled back, and a rollback only of one that
has not; a call reaches the provider only if it was checked while the row was enabled by
the activation its provider is bound to; and a rollback that comes too late changes
nothing. -/
theorem kill_switch {O C Q : Type} (gate : ActivationGate O C Q) (configuration : ℕ → C)
    (actions : List (GateStep O C Q))
    (hfresh : Along gate.step Fresh (start configuration) actions) :
    Preceded TakesTurn (gate.history configuration actions) ∧
    (∀ call ∈ (gate.after configuration actions).calls,
      gate.CheckedAlive configuration actions call) ∧
    ∀ thread index canonical rolledBackBy reason now,
      (gate.after configuration actions).threads thread =
        .rollingBack index canonical rolledBackBy reason →
          Ended (gate.history configuration actions) canonical.stamp →
            (gate.step (gate.after configuration actions) (.storeRollback thread now)).row =
              (gate.after configuration actions).row := by
  have hledger := ledger_of_run hfresh
  constructor
  · exact hledger.turns
  · constructor
    · exact (checkedAlive_of_run hfresh).1
    · intro thread index canonical rolledBackBy reason now hthread hended
      exact row_of_ended hledger hthread hended now

end Runs

/-- A request that is let through before a rollback and a second activation. -/
theorem kill_switch_sample : ∃ call ∈ ((gigaChatGate sampleSplit).after sampleRuntimes
      (replacedRun 1)).calls,
    (gigaChatGate sampleSplit).CheckedAlive sampleRuntimes (replacedRun 1) call ∧
    ((gigaChatGate sampleSplit).history sampleRuntimes (replacedRun 1)).length = 3 ∧
    Preceded TakesTurn ((gigaChatGate sampleSplit).history sampleRuntimes (replacedRun 1)) := by
  have h := kill_switch (gigaChatGate sampleSplit) sampleRuntimes (replacedRun 1)
    (by decide +kernel)
  have hcalls : ((gigaChatGate sampleSplit).after sampleRuntimes
      (replacedRun 1)).calls.isEmpty = false := by
    decide +kernel
  have hwrites : ((gigaChatGate sampleSplit).history sampleRuntimes
      (replacedRun 1)).length = 3 := by
    decide +kernel
  rcases List.isEmpty_eq_false_iff_exists_mem.mp hcalls with ⟨call, hcall⟩
  exact ⟨call, hcall, h.2.1 call hcall, hwrites, h.1⟩

end ActivationGate

end ShemaPlatform
