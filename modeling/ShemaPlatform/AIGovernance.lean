/-
What holds of every execution of an AI run, whatever the provider adapter
answers: when the adapter is called, what is returned, and what is stored.
-/
import ShemaPlatform.AIRuntime

namespace ShemaPlatform

open Calendar Effects Effects.Effect ReadCommitted ReadCommitted.Prog

namespace AIGovernance

/-- A piece of evidence that may be used for the resource. -/
structure Usable (rows : Rows Row) (now : Instant) (resourceRef evidenceRef : String)
    (level : ℤ) : Prop where
  stored : ∃ row, rows.get (Key.evidence evidenceRef) = some row ∧
    row.subjectRef = resourceRef ∧ row.lifecycle = .active ∧
    (∀ expiresAt, row.expiresAt = some expiresAt → now < expiresAt) ∧
    level ≤ row.trustLevel.level

/-- What the resolved trust rests on. -/
structure Trusted (rows : Rows Row) (now : Instant) (resourceRef : String)
    (evidenceRefs : List String) (trust : AIExecutionTrust) : Prop where
  resource : ∃ identity, rows.get (Key.identity resourceRef) = some identity ∧
    trust.resourceTrustLevel = identity.state.aiTrust
  evidence : ∀ evidenceRef ∈ evidenceRefs,
    Usable rows now resourceRef evidenceRef trust.evidenceLevel

/-- What the request and the store must say before the adapter is called. -/
structure Governed (request : AIExecutionRequest) (rows : Rows Row) (now : Instant) :
    Prop where
  permitted : Permission.aiRun ∈ request.permissions
  actor : 1 ≤ request.actorTrustLevel
  resource : ∃ identity, rows.get (Key.identity request.resourceRef) = some identity ∧
    (identity.state = .identified ∨ identity.state = .verified ∨
      identity.state = .active)
  evidence : ∀ evidenceRef ∈ request.evidenceRefs, ∃ level,
    Usable rows now request.resourceRef evidenceRef level ∧
      (request.evidenceRequired = true → 2 ≤ level)

/-- A run as the request asks for it. -/
structure Fits (request : AIExecutionRequest) (taskId : String) (run : AIRun) : Prop where
  task : run.taskId = taskId
  promptVersion : run.promptVersion = request.promptVersion
  inputRefs : run.inputRefs = request.inputRefs
  evidenceRefs : ∀ evidenceRef ∈ run.evidenceRefs, evidenceRef ∈ request.evidenceRefs
  tokens : 0 ≤ run.tokens ∧ run.tokens ≤ request.maxTokens
  cost : ∃ maxCost, request.maxCost = some maxCost ∧ 0 ≤ run.cost ∧ run.cost ≤ maxCost
  duration : ∃ maxDuration, request.maxDurationSeconds = some maxDuration ∧
    0 ≤ run.durationSeconds ∧ run.durationSeconds ≤ maxDuration

/-- The run and its audit record, both new, are all that has been stored. -/
def Stored (column : FloatColumn) (run : AIRun) (audit : AuditRecord)
    (rows rows' : Rows Row) : Prop :=
  ∃ row, AIRunRow.ofRun column run = .ok row ∧
    rows.get (Key.aiRun run.runId) = none ∧
    rows.get (Key.auditLog audit.auditId) = none ∧
    rows' = ⟨Key.auditLog audit.auditId, some audit⟩ ::
      ⟨Key.aiRun run.runId, some row⟩ :: rows

section Trust

variable {rows own own' : Rows Row} {now : Instant} {resourceRef : String}

theorem resourceTrust_eq_ok {level : ℤ}
    (h : (AIExecutionTrustResolver.resourceTrust resourceRef).execute now rows own =
      .ok (level, own')) :
    own' = own ∧ ∃ identity, Rows.get (own ++ rows) (Key.identity resourceRef) =
      some identity ∧ level = identity.state.aiTrust := by
  simp only [AIExecutionTrustResolver.resourceTrust, execute_bind_eq_ok,
    execute_select_eq_ok] at h
  obtain ⟨found, _, ⟨hfound, rfl⟩, h⟩ := h
  cases found with
  | none => simp at h
  | some identity =>
      obtain ⟨rfl, rfl⟩ := execute_pure_eq_ok.mp h
      exact ⟨rfl, identity, hfound.symm, rfl⟩

theorem admittedLevel_eq_ok {row : EvidenceRow} {level : ℤ}
    (h : (AIExecutionTrustResolver.admittedLevel resourceRef row).execute now rows own =
      .ok (level, own')) :
    own' = own ∧ row.subjectRef = resourceRef ∧ row.lifecycle = .active ∧
      (∀ expiresAt, row.expiresAt = some expiresAt → now < expiresAt) ∧
      level = row.trustLevel.level := by
  simp only [AIExecutionTrustResolver.admittedLevel, execute_bind_eq_ok,
    execute_lift_eq_ok, require_eq_ok, beq_iff_eq] at h
  obtain ⟨_, _, ⟨hsubject, rfl⟩, _, _, ⟨hlifecycle, rfl⟩, h⟩ := h
  cases hexpires : row.expiresAt with
  | none =>
      rw [hexpires] at h
      obtain ⟨rfl, rfl⟩ := execute_pure_eq_ok.mp h
      exact ⟨rfl, hsubject, hlifecycle, by simp, rfl⟩
  | some expiresAt =>
      rw [hexpires] at h
      simp only [execute_bind_eq_ok, execute_observe, execute_lift_eq_ok, require_eq_ok,
        decide_eq_true_eq, Except.ok.injEq, Prod.mk.injEq] at h
      obtain ⟨_, _, ⟨rfl, rfl⟩, _, _, ⟨hcurrent, rfl⟩, h⟩ := h
      obtain ⟨rfl, rfl⟩ := execute_pure_eq_ok.mp h
      refine ⟨rfl, hsubject, hlifecycle, ?_, rfl⟩
      intro other hother
      obtain rfl := Option.some.inj hother
      exact hcurrent

theorem evidenceLevels_eq_ok {records : List (String × EvidenceRow)}
    {evidenceRefs : List String} {levels : List ℤ}
    (h : (AIExecutionTrustResolver.evidenceLevels resourceRef records
      evidenceRefs).execute now rows own = .ok (levels, own')) :
    own' = own ∧ ∀ evidenceRef ∈ evidenceRefs, ∃ row,
      records.lookup evidenceRef = some row ∧ row.subjectRef = resourceRef ∧
      row.lifecycle = .active ∧
      (∀ expiresAt, row.expiresAt = some expiresAt → now < expiresAt) ∧
      row.trustLevel.level ∈ levels := by
  induction evidenceRefs generalizing own own' levels with
  | nil =>
      obtain ⟨_, rfl⟩ := execute_pure_eq_ok.mp h
      exact ⟨rfl, by simp⟩
  | cons evidenceRef rest ih =>
      unfold AIExecutionTrustResolver.evidenceLevels at h
      cases hrecord : records.lookup evidenceRef with
      | none => simp [hrecord] at h
      | some row =>
          simp only [hrecord, execute_bind_eq_ok] at h
          obtain ⟨level, _, hlevel, others, _, hothers, h⟩ := h
          obtain ⟨rfl, hsubject, hlifecycle, hcurrent, rfl⟩ := admittedLevel_eq_ok hlevel
          obtain ⟨rfl, hrest⟩ := ih hothers
          obtain ⟨rfl, rfl⟩ := execute_pure_eq_ok.mp h
          refine ⟨rfl, ?_⟩
          intro other hother
          rcases List.mem_cons.mp hother with rfl | hother
          · exact ⟨row, hrecord, hsubject, hlifecycle, hcurrent, List.mem_cons_self⟩
          · obtain ⟨found, hfound, hsubject, hlifecycle, hcurrent, hmem⟩ :=
              hrest other hother
            exact ⟨found, hfound, hsubject, hlifecycle, hcurrent,
              List.mem_cons_of_mem _ hmem⟩

/-- The records that are read are rows of the store. -/
theorem get_of_lookup {evidenceRefs : List String} {evidenceRef : String}
    {row : EvidenceRow}
    (h : (AIExecutionTrustResolver.evidenceRecords evidenceRefs rows).lookup
      evidenceRef = some row) : rows.get (Key.evidence evidenceRef) = some row := by
  have hmem : (evidenceRef, row) ∈
      AIExecutionTrustResolver.evidenceRecords evidenceRefs rows := by
    rw [List.lookup_eq_some_iff] at h
    obtain ⟨before, after, hsplit, _⟩ := h
    rw [hsplit]
    simp
  obtain ⟨other, _, hrow⟩ := List.mem_filterMap.mp hmem
  obtain ⟨found, hfound, heq⟩ := Option.map_eq_some_iff.mp hrow
  obtain ⟨rfl, rfl⟩ := Prod.mk.inj heq
  exact hfound

theorem resolve_eq_ok {evidenceRefs : List String} {trust : AIExecutionTrust}
    (h : (AIExecutionTrustResolver.resolve resourceRef evidenceRefs).execute now rows
      [] = .ok (trust, own')) :
    own' = [] ∧ Trusted rows now resourceRef evidenceRefs trust := by
  simp only [AIExecutionTrustResolver.resolve, execute_bind_eq_ok,
    execute_lift_eq_ok] at h
  obtain ⟨resource, _, hresource, level, between, hlevel, htrust, rfl⟩ := h
  obtain ⟨rfl, hidentity⟩ := resourceTrust_eq_ok hresource
  simp only [AIExecutionTrust.new, bind_eq_ok, require_eq_ok, pure_eq_ok] at htrust
  obtain ⟨_, _, rfl⟩ := htrust
  unfold AIExecutionTrustResolver.evidenceLevel at hlevel
  split at hlevel
  · rename_i hempty
    obtain ⟨_, rfl⟩ := execute_pure_eq_ok.mp hlevel
    rw [List.isEmpty_iff.mp hempty]
    exact ⟨rfl, hidentity, by simp⟩
  · simp only [execute_bind_eq_ok, execute_scan, execute_lift_eq_ok, Except.ok.injEq,
      Prod.mk.injEq] at hlevel
    obtain ⟨_, _, ⟨rfl, rfl⟩, _, _, ⟨_, rfl⟩, levels, _, hlevels, hmin⟩ := hlevel
    obtain ⟨rfl, hrecords⟩ := evidenceLevels_eq_ok hlevels
    cases hminimum : levels.min? with
    | none => simp [hminimum] at hmin
    | some least =>
        rw [hminimum] at hmin
        obtain ⟨rfl, rfl⟩ := execute_pure_eq_ok.mp hmin
        refine ⟨rfl, hidentity, ?_⟩
        intro evidenceRef hmem
        obtain ⟨row, hrow, hsubject, hlifecycle, hcurrent, hlevel⟩ :=
          hrecords evidenceRef hmem
        exact ⟨row, get_of_lookup hrow, hsubject, hlifecycle, hcurrent,
          (List.min?_eq_some_iff.mp hminimum).2 _ hlevel⟩

end Trust

/-- The world after a call of the adapter. -/
def asked (world : AIWorld) (scope : AIExecutionScope) (task : AITask)
    (inputRefs : List String) : AIWorld :=
  { world with
    invoked := world.invoked ++ [ScopedAIProvider.requestFor scope task inputRefs] }

theorem evidenceRefs_of_validate {descriptor : AIProviderDescriptor}
    {request : AIProviderRequest} {response : AIProviderResponse}
    (h : validateProviderResponse descriptor request response = .ok ()) :
    ∀ evidenceRef ∈ response.run.evidenceRefs, evidenceRef ∈ request.evidenceRefs := by
  simp only [validateProviderResponse, bind_eq_ok, require_eq_ok, List.all_eq_true,
    List.contains_iff_mem] at h
  obtain ⟨_, _, _, _, _, _, _, _, _, _, _, _, _, hevidence, _⟩ := h
  exact hevidence

theorem new_eq_ok {request result : AIProviderRequest}
    (h : request.new = .ok result) : result = request := by
  simp only [AIProviderRequest.new, bind_eq_ok, pure_eq_ok] at h
  obtain ⟨_, _, _, _, _, _, _, _, rfl⟩ := h
  rfl

theorem meets_currentScope {world : AIWorld} {scope : AIExecutionScope}
    {raises : Failure → AIWorld → Prop} (hscope : world.scope = some scope) :
    Meets (· = world) ScopedAIProvider.currentScope
      (fun found after => found = scope ∧ after = world) raises := by
  apply meets_bind (fun found after => found = some scope ∧ after = world)
  · apply meets_read
    rintro _ rfl
    exact ⟨hscope, rfl⟩
  · rintro _ _ ⟨rfl, rfl⟩
    exact ⟨rfl, rfl⟩

theorem meets_invoke (provider : ScopedAIProvider) (request : AIProviderRequest)
    (world : AIWorld) :
    Meets (· = world) (provider.invoke request)
      (fun response after =>
        after = { world with invoked := world.invoked ++ [request] } ∧
          provider.adapter.invoke request = .ok response)
      (fun _ after => after = { world with invoked := world.invoked ++ [request] }) := by
  apply meets_bind
    (fun _ after => after = { world with invoked := world.invoked ++ [request] })
  · apply meets_modify
    rintro _ rfl
    rfl
  · intro _
    apply meets_lift
    · rintro response _ hresponse rfl
      refine ⟨rfl, ?_⟩
      split at hresponse
      · rename_i answer hanswer
        obtain rfl := Except.ok.inj hresponse
        exact hanswer
      · cases hresponse
    · rintro _ _ _ rfl
      rfl

/-- The provider asks the adapter at most once, in the scope it runs in. -/
theorem meets_providerRun (provider : ScopedAIProvider) (task : AITask)
    (inputRefs : List String) {world : AIWorld} {scope : AIExecutionScope}
    (hscope : world.scope = some scope) :
    Meets (· = world) (provider.run task inputRefs)
      (fun run after => after = asked world scope task inputRefs ∧
        ∀ evidenceRef ∈ run.evidenceRefs, evidenceRef ∈ scope.evidenceRefs)
      (fun _ after => after = world ∨ after = asked world scope task inputRefs) := by
  apply meets_bind _ (meets_currentScope hscope)
  rintro found
  apply meets_bind (fun _ after => found = scope ∧ after = world)
  · apply meets_lift
    · exact fun _ _ _ h => h
    · exact fun _ _ _ h => Or.inl h.2
  intro descriptor
  apply meets_bind (fun request after =>
    request = ScopedAIProvider.requestFor scope task inputRefs ∧ after = world)
  · apply meets_lift
    · rintro request _ hrequest ⟨rfl, rfl⟩
      exact ⟨new_eq_ok hrequest, rfl⟩
    · exact fun _ _ _ h => Or.inl h.2
  intro request
  apply meets_bind (fun _ after =>
    request = ScopedAIProvider.requestFor scope task inputRefs ∧
      after = asked world scope task inputRefs)
  · rintro state ⟨rfl, hstate⟩
    exact (meets_invoke provider _ world).mono (fun _ h => h)
      (fun _ _ h => ⟨rfl, h.1⟩) (fun _ _ h => Or.inr h) state hstate
  intro response
  apply meets_lift
  · rintro run _ hrun ⟨rfl, rfl⟩
    split at hrun
    · rename_i hvalid
      obtain rfl := Except.ok.inj hrun
      exact ⟨rfl, evidenceRefs_of_validate hvalid⟩
    · cases hrun
  · exact fun _ _ _ h => Or.inr h.2

/-- What the policy asks before a run. -/
structure Admitted (context : AIExecutionContext) (task : AITask) : Prop where
  actor : 1 ≤ context.actorTrustLevel
  resource : 1 ≤ context.resourceTrustLevel
  evidence : task.evidenceRequired = true → 2 ≤ context.evidenceLevel

theorem admitted_of_allow {context : PolicyContext} {decision : PolicyDecision}
    (haction : context.action = "ai_run") (h : context.evaluate = .ok decision)
    (hallow : decision.decision = .allow) :
    1 ≤ context.actorTrustLevel ∧ 1 ≤ context.resourceTrustLevel ∧
      (context.evidenceRequired = true → 2 ≤ context.evidenceLevel) := by
  simp only [PolicyContext.evaluate, bind_eq_ok, pure_eq_ok] at h
  obtain ⟨_, _, rfl⟩ := h
  unfold PolicyContext.aiRunDecision at hallow
  rw [if_neg (not_not.mpr haction)] at hallow
  split at hallow
  · simp at hallow
  · rename_i hactor
    split at hallow
    · simp at hallow
    · rename_i hresource
      split at hallow
      · simp at hallow
      · rename_i hevidence
        refine ⟨by omega, by omega, ?_⟩
        intro hrequired
        by_contra hlow
        apply hevidence
        simp only [hrequired, Bool.true_and, decide_eq_true_eq]
        omega

theorem permit_eq_ok {gateway : AIGateway} {task : AITask} {evidenceRefs : List String}
    {context : AIExecutionContext}
    (h : gateway.permit task evidenceRefs context = .ok ()) : Admitted context task := by
  simp only [AIGateway.permit, bind_eq_ok, require_eq_ok] at h
  obtain ⟨_, _, _, _, decision, hdecision, hallow⟩ := h
  obtain ⟨hactor, hresource, hevidence⟩ :=
    admitted_of_allow rfl hdecision (beq_iff_eq.mp hallow)
  exact ⟨hactor, hresource, hevidence⟩

/-- What the gateway has checked of a run it releases. -/
structure Checked (ordered : AITask) (inputRefs : List String) (budget : AIBudget)
    (run : AIRun) : Prop where
  task : run.taskId = ordered.taskId
  promptVersion : run.promptVersion = ordered.promptVersion
  inputRefs : run.inputRefs = inputRefs
  tokens : 0 ≤ run.tokens ∧ run.tokens ≤ budget.maxTokens
  cost : 0 ≤ run.cost ∧ run.cost ≤ budget.maxCost
  duration : 0 ≤ run.durationSeconds ∧ run.durationSeconds ≤ budget.maxDurationSeconds

theorem release_eq_ok {gateway : AIGateway} {task : AITask}
    {inputRefs evidenceRefs : List String} {budget : AIBudget} {run : AIRun}
    (h : gateway.release task inputRefs evidenceRefs budget run = .ok ()) :
    Checked task inputRefs budget run := by
  simp only [AIGateway.release, bind_eq_ok, require_eq_ok, beq_iff_eq,
    Bool.not_eq_true', decide_eq_false_iff_not, not_or, not_lt] at h
  obtain ⟨_, _, _, htask, _, hprompt, _, hinput, _, _, _, _, _, husage, _, htokens, _,
    hcost, hduration⟩ := h
  exact ⟨htask, hprompt, hinput, ⟨husage.1, htokens⟩, ⟨husage.2.1, hcost⟩,
    ⟨husage.2.2, hduration⟩⟩

theorem meets_transaction {ρ : Type} (body : Tx Instant ρ) (now : Instant)
    (world : AIWorld) :
    Meets (· = world) (AIEffect.transaction body now)
      (fun result after => ∃ own, body.execute now world.rows [] = .ok (result, own) ∧
        after = { world with rows := own ++ world.rows })
      (fun _ after => after = world) := by
  rintro state rfl
  simp only [AIEffect.transaction]
  cases hatomically : body.atomically now state.rows with
  | error error => rfl
  | ok outcome =>
      obtain ⟨own, hexecute, hrows⟩ := atomically_eq_ok.mp hatomically
      exact ⟨own, hexecute, by rw [hrows]⟩

/-- The run and its audit record are inserted, or nothing is. -/
theorem meets_store (column : FloatColumn) (run : AIRun) (audit : AuditRecord)
    (now : Instant) (world : AIWorld) :
    Meets (· = world) (AIEffect.transaction (AIGateway.store column run audit) now)
      (fun _ after => ∃ rows', Stored column run audit world.rows rows' ∧
        after = { world with rows := rows' })
      (fun _ after => after = world) := by
  apply (meets_transaction _ now world).mono (fun _ h => h) _ (fun _ _ h => h)
  rintro _ _ ⟨own, hexecute, rfl⟩
  simp only [AIGateway.store, AIRuns.add, Audits.append, execute_bind_eq_ok,
    execute_lift_eq_ok, execute_insert_eq_ok] at hexecute
  obtain ⟨_, _, ⟨row, _, ⟨hrow, rfl⟩, hrun, rfl⟩, record, _, ⟨hrecord, rfl⟩, haudit,
    rfl⟩ := hexecute
  obtain rfl := AuditRecord.new_eq_ok hrecord
  simp only [List.nil_append, List.cons_append, ne_eq, reduceCtorEq,
    not_false_eq_true, Rows.get_cons_ne] at haudit hrun
  exact ⟨_, ⟨row, hrow, hrun, haudit, rfl⟩, rfl⟩

section Execution

variable (column : FloatColumn) (task : AITask) (inputRefs evidenceRefs : List String)
  (context : AIExecutionContext) (budget : AIBudget) (draws : AIDraws)

/-- A run that is released: admitted, checked, and stored with its audit record. -/
def ReleasedRun (rows : Rows Row) (run : AIRun) (rows' : Rows Row) : Prop :=
  Checked task inputRefs budget run ∧
    (∀ evidenceRef ∈ run.evidenceRefs, evidenceRef ∈ evidenceRefs) ∧
    Stored column run
      (AIGateway.auditFor draws.auditId context task run draws.storedAt) rows rows'

/-- The gateway calls the adapter for what the policy admits only, and what it
returns is checked and stored. -/
theorem meets_gateway (gateway : AIGateway) (world : AIWorld)
    {scope : AIExecutionScope} (hscope : world.scope = some scope)
    (hevidence : scope.evidenceRefs = evidenceRefs) :
    Meets (· = world)
      (gateway.execute column task inputRefs evidenceRefs context budget draws)
      (fun run after => Admitted context task ∧ ∃ rows', ReleasedRun column task inputRefs
        evidenceRefs context budget draws world.rows run rows' ∧
          after = { asked world scope task inputRefs with rows := rows' })
      (fun _ after => after = world ∨
        Admitted context task ∧ after = asked world scope task inputRefs) := by
  apply meets_bind (fun _ after => Admitted context task ∧ after = world)
  · apply meets_lift
    · rintro _ _ hpermit rfl
      exact ⟨permit_eq_ok hpermit, rfl⟩
    · exact fun _ _ _ h => Or.inl h
  intro _
  apply meets_bind (fun run after => Admitted context task ∧
    after = asked world scope task inputRefs ∧
      ∀ evidenceRef ∈ run.evidenceRefs, evidenceRef ∈ evidenceRefs)
  · rintro state ⟨hadmitted, hstate⟩
    apply (meets_providerRun gateway.provider task inputRefs hscope).mono
      (fun _ h => h) _ _ state hstate
    · rintro _ _ ⟨hasked, hrefs⟩
      exact ⟨hadmitted, hasked, hevidence ▸ hrefs⟩
    · rintro _ _ (h | h)
      · exact Or.inl h
      · exact Or.inr ⟨hadmitted, h⟩
  intro run
  apply meets_bind (fun _ after => Admitted context task ∧
    after = asked world scope task inputRefs ∧ Checked task inputRefs budget run ∧
      ∀ evidenceRef ∈ run.evidenceRefs, evidenceRef ∈ evidenceRefs)
  · apply meets_lift
    · rintro _ _ hrelease ⟨hadmitted, hstate, hrefs⟩
      exact ⟨hadmitted, hstate, release_eq_ok hrelease, hrefs⟩
    · exact fun _ _ _ h => Or.inr ⟨h.1, h.2.1⟩
  intro _
  apply meets_bind (fun _ after => Admitted context task ∧
    ∃ rows', ReleasedRun column task inputRefs evidenceRefs context budget draws
      world.rows run rows' ∧ after = { asked world scope task inputRefs with rows := rows' })
  · rintro state ⟨hadmitted, hstate, hchecked, hrefs⟩
    apply (meets_store column run _ draws.storedAt
      (asked world scope task inputRefs)).mono (fun _ h => h) _ _ state hstate
    · rintro _ _ ⟨rows', hstored, hafter⟩
      exact ⟨hadmitted, rows', ⟨hchecked, hrefs, hstored⟩, hafter⟩
    · exact fun _ _ h => Or.inr ⟨hadmitted, h⟩
  · exact fun _ => meets_pure fun _ h => h

/-- The scope in which a request is executed. -/
def scopeOf : AIExecutionScope :=
  ⟨evidenceRefs, context, budget, budget.maxDurationSeconds⟩

theorem meets_scoped (gateway : AIGateway) (world : AIWorld) :
    Meets (· = world)
      (executeScopedAI gateway column task inputRefs evidenceRefs context budget draws)
      (fun run after => Admitted context task ∧ ∃ rows', ReleasedRun column task inputRefs
        evidenceRefs context budget draws world.rows run rows' ∧
          after = { asked world (scopeOf evidenceRefs context budget) task inputRefs with
            rows := rows' })
      (fun _ after => after = world ∨ Admitted context task ∧
        after = asked world (scopeOf evidenceRefs context budget) task inputRefs) := by
  apply meets_bind (fun scope after =>
    scope = scopeOf evidenceRefs context budget ∧ after = world)
  · apply meets_lift
    · rintro scope _ hscope rfl
      simp only [AIExecutionScope.new, bind_eq_ok, pure_eq_ok] at hscope
      obtain ⟨_, _, _, _, _, _, _, _, rfl⟩ := hscope
      exact ⟨rfl, rfl⟩
    · exact fun _ _ _ h => Or.inl h
  intro scope
  apply meets_bind (fun former after => former = world.scope ∧
    scope = scopeOf evidenceRefs context budget ∧ after = world)
  · apply meets_read
    rintro _ ⟨hscope, rfl⟩
    exact ⟨rfl, hscope, rfl⟩
  intro former
  apply meets_bind (fun _ after => former = world.scope ∧
    after = { world with scope := some (scopeOf evidenceRefs context budget) })
  · apply meets_modify
    rintro _ ⟨hformer, rfl, rfl⟩
    exact ⟨hformer, rfl⟩
  intro _
  apply meets_ensuring
  rintro state ⟨rfl, hstate⟩
  have hgateway := meets_gateway column task inputRefs evidenceRefs context budget draws
    gateway { world with scope := some (scopeOf evidenceRefs context budget) } rfl rfl
  apply hgateway.mono (fun _ h => h) _ _ state hstate
  · rintro run after ⟨hadmitted, rows', hreleased, rfl⟩
    exact ⟨hadmitted, rows', hreleased, rfl⟩
  · rintro _ after (rfl | ⟨hadmitted, rfl⟩)
    · exact Or.inl rfl
    · exact Or.inr ⟨hadmitted, rfl⟩

end Execution

theorem isAllowed_authorizer {request : AIExecutionRequest}
    (h : (AIExecutionService.authorizer request).require request.actorId .aiRun =
      .ok ()) : Permission.aiRun ∈ request.permissions := by
  simp only [RBACAuthorizer.require, require_eq_ok, RBACAuthorizer.isAllowed,
    RBACAuthorizer.subject, AIExecutionService.authorizer, List.reverse_singleton,
    List.lookup_cons_self] at h
  exact List.contains_iff_mem.mp h

theorem aiTrust_pos {state : IdentityState} (h : 1 ≤ state.aiTrust) :
    state = .identified ∨ state = .verified ∨ state = .active := by
  cases state <;> simp [IdentityState.aiTrust] at h ⊢

/-- The request may ask for a run, and its trust is resolved. -/
def Resolved (request : AIExecutionRequest) (rows : Rows Row) (now : Instant)
    (trust : AIExecutionTrust) : Prop :=
  Permission.aiRun ∈ request.permissions ∧
    Trusted rows now request.resourceRef request.evidenceRefs trust

/-- The task that is made for a request. -/
def taskOf (request : AIExecutionRequest) (taskId : String) : AITask :=
  ⟨taskId, request.taskType, request.promptVersion, request.evidenceRequired⟩

/-- What the policy admits of a resolved trust is governed. -/
theorem governed_of_admitted {request : AIExecutionRequest} {rows : Rows Row}
    {now : Instant} {trust : AIExecutionTrust} {context : AIExecutionContext}
    {task : AITask} (hpermitted : Permission.aiRun ∈ request.permissions)
    (htrusted : Trusted rows now request.resourceRef request.evidenceRefs trust)
    (hadmitted : Admitted context task)
    (hactor : context.actorTrustLevel = request.actorTrustLevel)
    (hresource : context.resourceTrustLevel = trust.resourceTrustLevel)
    (hlevel : context.evidenceLevel = trust.evidenceLevel)
    (hrequired : task.evidenceRequired = request.evidenceRequired) :
    Governed request rows now := by
  obtain ⟨identity, hidentity, htrust⟩ := htrusted.resource
  constructor
  · exact hpermitted
  · exact hactor ▸ hadmitted.actor
  · have hpositive := hadmitted.resource
    rw [hresource, htrust] at hpositive
    exact ⟨identity, hidentity, aiTrust_pos hpositive⟩
  · intro evidenceRef hmem
    refine ⟨_, htrusted.evidence evidenceRef hmem, ?_⟩
    intro hneeded
    exact hlevel ▸ hadmitted.evidence (hrequired.trans hneeded)

/-- A checked run fits the request whose task and budget it was checked against. -/
theorem fits_of_checked {request : AIExecutionRequest} {taskId : String} {task : AITask}
    {budget : AIBudget} {run : AIRun}
    (htask : task = taskOf request taskId)
    (hbudget : AIBudget.new request.maxTokens request.maxCost
      request.maxDurationSeconds = .ok budget)
    (hchecked : Checked task request.inputRefs budget run)
    (hevidence : ∀ evidenceRef ∈ run.evidenceRefs, evidenceRef ∈ request.evidenceRefs) :
    Fits request taskId run := by
  subst htask
  simp only [AIBudget.new, bind_eq_ok] at hbudget
  obtain ⟨_, _, hbudget⟩ := hbudget
  split at hbudget
  · rename_i cost duration hcost hduration
    simp only [bind_eq_ok, pure_eq_ok] at hbudget
    obtain ⟨_, _, rfl⟩ := hbudget
    exact ⟨hchecked.task, hchecked.promptVersion, hchecked.inputRefs, hevidence,
      hchecked.tokens, ⟨cost, hcost, hchecked.cost⟩, ⟨duration, hduration,
      hchecked.duration⟩⟩
  · cases hbudget

/-- What one execution does to the world, step by step. -/
theorem meets_execute (service : AIExecutionService) (column : FloatColumn)
    (request : AIExecutionRequest) (draws : AIDraws) (world : AIWorld) :
    Meets (· = world) (service.execute column request draws)
      (fun run after => Governed request world.rows draws.resolvedAt ∧
        Fits request draws.taskId run ∧
        (∃ provided, after.invoked = world.invoked ++ [provided]) ∧
        ∃ audit, audit.action = "ai.run" ∧ audit.actorId = request.actorId ∧
          audit.resourceId = request.resourceRef ∧
          Stored column run audit world.rows after.rows)
      (fun _ after => after.rows = world.rows ∧ (after.invoked = world.invoked ∨
        Governed request world.rows draws.resolvedAt ∧
          ∃ provided, after.invoked = world.invoked ++ [provided])) := by
  have hunchanged : ∀ after : AIWorld, after = world →
      after.rows = world.rows ∧ (after.invoked = world.invoked ∨
        Governed request world.rows draws.resolvedAt ∧
          ∃ provided, after.invoked = world.invoked ++ [provided]) := by
    rintro _ rfl
    exact ⟨rfl, Or.inl rfl⟩
  apply meets_bind (fun _ after =>
    Permission.aiRun ∈ request.permissions ∧ after = world)
  · apply meets_lift
    · exact fun _ _ hallowed h => ⟨isAllowed_authorizer hallowed, h⟩
    · exact fun _ _ _ h => hunchanged _ h
  intro _
  apply meets_bind (fun trust after =>
    Resolved request world.rows draws.resolvedAt trust ∧ after = world)
  · rintro state ⟨hpermitted, hstate⟩
    apply (meets_transaction _ draws.resolvedAt world).mono (fun _ h => h) _ _ state hstate
    · rintro trust after ⟨own, hexecute, rfl⟩
      obtain ⟨rfl, htrusted⟩ := resolve_eq_ok hexecute
      exact ⟨⟨hpermitted, htrusted⟩, rfl⟩
    · exact fun _ _ h => hunchanged _ h
  intro trust
  -- nothing touches the world until the scoped execution
  apply meets_bind (fun _ after =>
    Resolved request world.rows draws.resolvedAt trust ∧ after = world)
  · exact meets_lift (fun _ _ _ h => h) fun _ _ _ h => hunchanged _ h.2
  intro configurationVersion
  apply meets_bind (fun _ after =>
    Resolved request world.rows draws.resolvedAt trust ∧ after = world)
  · exact meets_lift (fun _ _ _ h => h) fun _ _ _ h => hunchanged _ h.2
  intro _
  apply meets_bind (fun _ after =>
    Resolved request world.rows draws.resolvedAt trust ∧ after = world)
  · exact meets_lift (fun _ _ _ h => h) fun _ _ _ h => hunchanged _ h.2
  intro provider
  apply meets_bind (fun task after =>
    (Resolved request world.rows draws.resolvedAt trust ∧
        task = taskOf request draws.taskId) ∧ after = world)
  · apply meets_lift
    · rintro task _ htask ⟨htrusted, hstate⟩
      simp only [AITask.new, bind_eq_ok, pure_eq_ok] at htask
      obtain ⟨_, _, _, _, rfl⟩ := htask
      exact ⟨⟨htrusted, rfl⟩, hstate⟩
    · exact fun _ _ _ h => hunchanged _ h.2
  intro task
  apply meets_bind (fun budget after =>
    ((Resolved request world.rows draws.resolvedAt trust ∧
        task = taskOf request draws.taskId) ∧
      AIBudget.new request.maxTokens request.maxCost request.maxDurationSeconds =
        .ok budget) ∧ after = world)
  · exact meets_lift (fun _ _ hbudget h => ⟨⟨h.1, hbudget⟩, h.2⟩)
      fun _ _ _ h => hunchanged _ h.2
  intro budget
  apply meets_bind (fun context after =>
    (((Resolved request world.rows draws.resolvedAt trust ∧
        task = taskOf request draws.taskId) ∧
      AIBudget.new request.maxTokens request.maxCost request.maxDurationSeconds =
        .ok budget) ∧
      context = ⟨request.actorId, request.resourceRef, request.actorTrustLevel,
        trust.resourceTrustLevel, trust.evidenceLevel, some request.correlationId,
        some configurationVersion⟩) ∧ after = world)
  · apply meets_lift
    · rintro context _ hcontext ⟨hbudget, hstate⟩
      simp only [AIExecutionContext.new, bind_eq_ok, pure_eq_ok] at hcontext
      obtain ⟨_, _, _, _, rfl⟩ := hcontext
      exact ⟨⟨hbudget, rfl⟩, hstate⟩
    · exact fun _ _ _ h => hunchanged _ h.2
  intro context
  rintro state ⟨⟨⟨⟨⟨hpermitted, htrusted⟩, htask⟩, hbudget⟩, rfl⟩, hstate⟩
  have hgoverned : ∀ {context : AIExecutionContext}, Admitted context task →
      context.actorTrustLevel = request.actorTrustLevel →
      context.resourceTrustLevel = trust.resourceTrustLevel →
      context.evidenceLevel = trust.evidenceLevel →
      Governed request world.rows draws.resolvedAt := by
    intro context hadmitted hactor hresource hlevel
    exact governed_of_admitted hpermitted htrusted hadmitted hactor hresource hlevel
      (by rw [htask, taskOf])
  apply (meets_scoped column task request.inputRefs request.evidenceRefs _ budget draws
    _ world).mono (fun _ h => h) _ _ state hstate
  · rintro run after ⟨hadmitted, rows', ⟨hchecked, hevidence, hstored⟩, rfl⟩
    exact ⟨hgoverned hadmitted rfl rfl rfl,
      fits_of_checked htask hbudget hchecked hevidence, ⟨_, rfl⟩, _, rfl, rfl, rfl, hstored⟩
  · rintro _ after (rfl | ⟨hadmitted, rfl⟩)
    · exact hunchanged _ rfl
    · exact ⟨rfl, Or.inr ⟨hgoverned hadmitted rfl rfl rfl, _, rfl⟩⟩

/-- The adapter is called at most once and only for a governed request, what is
returned fits the request and has been stored with one audit record, and what
fails stores nothing. -/
theorem execution_governed (service : AIExecutionService) (column : FloatColumn)
    (request : AIExecutionRequest) (draws : AIDraws) (world : AIWorld) :
    let (outcome, after) := (service.execute column request draws).run world
    (after.invoked = world.invoked ∨ Governed request world.rows draws.resolvedAt ∧
      ∃ provided, after.invoked = world.invoked ++ [provided]) ∧
    (∀ run, outcome = .ok run → Fits request draws.taskId run ∧
      ∃ audit, audit.action = "ai.run" ∧ audit.actorId = request.actorId ∧
        audit.resourceId = request.resourceRef ∧
        Stored column run audit world.rows after.rows) ∧
    (∀ error, outcome = .error error → after.rows = world.rows) := by
  have hmeets := meets_execute service column request draws world world rfl
  cases hrun : (service.execute column request draws).run world with
  | mk outcome after =>
      rw [hrun] at hmeets
      cases outcome with
      | ok run =>
          obtain ⟨hgoverned, hfits, hinvoked, hstored⟩ := hmeets
          refine ⟨Or.inr ⟨hgoverned, hinvoked⟩, ?_, by simp⟩
          rintro _ ⟨⟩
          exact ⟨hfits, hstored⟩
      | error error =>
          obtain ⟨hrows, hinvoked⟩ := hmeets
          exact ⟨hinvoked, by simp, fun _ _ => hrows⟩

section Sample

/-- Columns that round to eight places and are read as they are. -/
def sampleColumn : FloatColumn where
  write value := (Decimal.finite value).toNumeric 20 8 "cost"
  read units := units / 10 ^ 8

def sampleRequest : AIExecutionRequest where
  taskType := "qualification"
  promptVersion := "prompt:v1"
  resourceRef := "identity-1"
  inputRefs := ["identity-1"]
  evidenceRefs := ["evidence-1"]
  evidenceRequired := true
  maxTokens := 100
  maxCost := some 1
  maxDurationSeconds := some 5
  actorId := "operator-1"
  actorTrustLevel := 2
  permissions := [.aiRun]
  correlationId := "corr-1"
  idempotencyKey := "ai-test-key-1"
  valid := by decide

def sampleRun (taskId : String) : AIRun where
  runId := "run-1"
  taskId := taskId
  providerId := "yandexgpt"
  model := "gpt://folder/yandexgpt/latest"
  modelVersion := "latest"
  promptVersion := "prompt:v1"
  inputRefs := ["identity-1"]
  evidenceRefs := ["evidence-1"]
  output := "bounded output"
  tokens := 10
  cost := 1 / 100
  durationSeconds := 1 / 10

def sampleDescriptor : AIProviderDescriptor where
  providerId := "yandexgpt"
  kind := .cloud
  modelId := "gpt://folder/yandexgpt/latest"
  modelVersion := "latest"
  configurationVersion := "yandexgpt-config:v1"
  resourceLimits := ⟨30, 65536⟩
  provenance := ⟨none, none, false⟩

def sampleService : AIExecutionService where
  adapter := {
    initialDescriptor := .ok sampleDescriptor
    checkedDescriptor := .ok sampleDescriptor
    initialActivation := .ok ⟨true, true⟩
    descriptor := .ok sampleDescriptor
    activation := .ok ⟨true, true⟩
    readiness := .ok ⟨.ready, none⟩
    invoke := fun request =>
      .ok ⟨sampleRun request.task.taskId, "yandexgpt-config:v1"⟩ }
  configurationVersion := .ok "yandexgpt-config:v1"

def sampleWorld (trustLevel : TrustLevel) : AIWorld where
  rows := [⟨Key.identity "identity-1",
      some ⟨"identity-1", "Acme", .verified, none, none⟩⟩,
    ⟨Key.evidence "evidence-1", some ⟨"identity-1", trustLevel, some 20, .active⟩⟩]
  scope := none
  invoked := []

/-- Whether a run is returned, and how often the adapter was called. -/
def sampleOutcome (trustLevel : TrustLevel) : Bool × ℕ :=
  let (outcome, after) := (sampleService.execute sampleColumn sampleRequest
    ⟨"task-1", "audit-1", 10, 11⟩).run (sampleWorld trustLevel)
  (outcome.isOk, after.invoked.length)

example : sampleOutcome .T2 = (true, 1) ∧ sampleOutcome .T1 = (false, 0) := by
  decide +kernel

end Sample

end AIGovernance

end ShemaPlatform
