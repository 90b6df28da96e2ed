/-
Which calls of the cloud adapters record a failure, told by what they meet.
-/
import ShemaPlatform.AdapterHealth

namespace ShemaPlatform

open Effects StateRun

/-- It ends in an execution error, which the adapter records. -/
def Executes {α : Type} (computed : Except Raised α) : Prop :=
  ∃ failure, computed = .error (some failure)

/-- Where at most one value fits, it is refused or something follows from it
exactly when none fits from which it does not follow. -/
theorem refused_or_iff {α : Type} {fits follows : α → Prop}
    (hunique : ∀ a b, fits a → fits b → a = b) :
    ((¬ ∃ a, fits a) ∨ ∃ a, fits a ∧ follows a) ↔ ¬ ∃ a, fits a ∧ ¬ follows a := by
  constructor
  · rintro (hnone | ⟨a, ha, hfollows⟩) ⟨b, hb, hnot⟩
    · exact hnone ⟨b, hb⟩
    · exact hnot (hunique a b ha hb ▸ hfollows)
  · intro h
    by_cases hfits : ∃ a, fits a
    · obtain ⟨a, ha⟩ := hfits
      exact Or.inr ⟨a, ha, not_not.mp fun hnot => h ⟨a, ha, hnot⟩⟩
    · exact Or.inl hfits

/-- A check after which something fails. -/
theorem failed_or_iff {checked fails : Prop} :
    (¬ checked ∨ checked ∧ fails) ↔ (¬ checked ∨ fails) := by
  tauto

theorem unfit_or_iff {α : Type} {fits : α → Prop} {usable : Bool} {affords : Prop} :
    ((¬ ∃ a, fits a) ∨ ∃ a, fits a ∧ (usable = false ∨ usable = true ∧ ¬ affords)) ↔
      ¬ ((∃ a, fits a) ∧ usable = true ∧ affords) := by
  rw [exists_and_right]
  cases usable with
  | true =>
      simp only [true_and, reduceCtorEq, false_or]
      tauto
  | false =>
      simp only [true_or, and_true, reduceCtorEq, false_and, and_false, not_false_eq_true,
        iff_true]
      exact em' _

theorem both_or_iff {a b : Bool} {fails : Prop} :
    (a = false ∨ a = true ∧ (b = false ∨ b = true ∧ fails)) ↔
      ((a && b) = false ∨ (a && b) = true ∧ fails) := by
  cases a with
  | true => simp
  | false => simp

section Checks

variable {α β : Type}

theorem executes_bind {first : Except Raised α} {rest : α → Except Raised β} :
    Executes (first >>= rest) ↔
      Executes first ∨ ∃ value, first = .ok value ∧ Executes (rest value) := by
  cases first with
  | ok value => simp [Executes, bind, Except.bind]
  | error raised => simp [Executes, bind, Except.bind]

theorem raised_bind_eq_ok {first : Except Raised α} {rest : α → Except Raised β}
    {result : β} :
    first >>= rest = .ok result ↔ ∃ value, first = .ok value ∧ rest value = .ok result := by
  cases first with
  | ok value => simp [bind, Except.bind]
  | error raised => simp [bind, Except.bind]

@[simp] theorem not_executes_pure (value : α) :
    ¬ Executes (pure value : Except Raised α) := by
  rintro ⟨failure, h⟩
  cases h

@[simp] theorem not_executes_ok (value : α) : ¬ Executes (.ok value : Except Raised α) :=
  not_executes_pure value

@[simp] theorem not_executes_unrecorded (computed : Except Failure α) :
    ¬ Executes (unrecorded computed) := by
  rintro ⟨failure, h⟩
  cases computed with
  | ok value => cases h
  | error error => cases h

@[simp] theorem executes_error {failure : AIProviderFailure} :
    Executes (.error (some failure) : Except Raised α) :=
  ⟨failure, rfl⟩

@[simp] theorem not_executes_other : ¬ Executes (.error none : Except Raised α) := by
  rintro ⟨failure, h⟩
  cases h

@[simp] theorem executes_demand {condition : Bool} {failure : AIProviderFailure} :
    Executes (demand condition failure) ↔ condition = false := by
  cases condition with
  | true => simp [demand]
  | false => simp [demand]

@[simp] theorem demand_eq_ok {condition : Bool} {failure : AIProviderFailure}
    {result : Unit} : demand condition failure = .ok result ↔ condition = true := by
  cases condition with
  | true => simp [demand]
  | false => simp [demand]

@[simp] theorem raised_pure_eq_ok {value result : α} :
    (pure value : Except Raised α) = .ok result ↔ value = result := by
  simp [pure, Except.pure]

end Checks

namespace Exchange

/-- The request ends in an execution error. -/
def Fails (maxResponseBytes : ℤ) : Exchange → Prop
  | .requested outcome => Executes outcome
  | .opened reply => maxResponseBytes < reply.size
  | .timedOut => True
  | .unreachable => True
  | .raised => False

/-- The request ends with a reply. -/
def Delivers (maxResponseBytes : ℤ) (reply : Reply) : Exchange → Prop
  | .requested outcome => outcome = .ok reply
  | .opened other => other = reply ∧ (reply.size : ℤ) ≤ maxResponseBytes
  | .timedOut => False
  | .unreachable => False
  | .raised => False

end Exchange

/-- A choice with a text that is not blank. -/
def HasText (choice : JsonValue) (output : String) : Prop :=
  ((choice.get "message").get "content").asText = some output ∧
    PyText.blank output = false

/-- Token counts that add up and keep within the budget. -/
structure Counts (usage : JsonValue) (maxTokens : ℤ) (counts : TokenUsage) : Prop where
  input : (usage.get "prompt_tokens").asInt = some counts.input
  output : (usage.get "completion_tokens").asInt = some counts.output
  total : (usage.get "total_tokens").asInt = some counts.total
  nonneg : 0 ≤ counts.input ∧ 0 ≤ counts.output ∧ 0 ≤ counts.total
  sum : counts.total = counts.input + counts.output
  bounded : counts.output ≤ maxTokens

section Steps

variable {name : String} {maxResponseBytes : ℤ} {exchange : Exchange} {reply : Reply}

theorem executes_requestBounded :
    Executes (requestBounded name maxResponseBytes exchange) ↔
      exchange.Fails maxResponseBytes := by
  cases exchange with
  | requested outcome => exact Iff.rfl
  | opened reply =>
      simp only [requestBounded, executes_bind, executes_demand, decide_eq_false_iff_not,
        not_le, not_executes_pure, and_false, exists_false, or_false, Exchange.Fails]
  | timedOut => simp [requestBounded, Exchange.Fails]
  | unreachable => simp [requestBounded, Exchange.Fails]
  | raised => simp [requestBounded, Exchange.Fails]

theorem requestBounded_eq_ok :
    requestBounded name maxResponseBytes exchange = .ok reply ↔
      exchange.Delivers maxResponseBytes reply := by
  cases exchange with
  | requested outcome => exact Iff.rfl
  | opened other =>
      simp only [requestBounded, raised_bind_eq_ok, demand_eq_ok, decide_eq_true_eq,
        raised_pure_eq_ok, exists_const, Exchange.Delivers]
      constructor
      · rintro ⟨hsize, rfl⟩
        exact ⟨rfl, hsize⟩
      · rintro ⟨rfl, hsize⟩
        exact ⟨hsize, rfl⟩
  | timedOut => simp [requestBounded, Exchange.Delivers]
  | unreachable => simp [requestBounded, Exchange.Delivers]
  | raised => simp [requestBounded, Exchange.Delivers]

theorem executes_loadJson {message : String} :
    Executes (loadJson message reply) ↔ reply.loaded = .error .decode := by
  unfold loadJson
  split
  · rename_i value hloaded
    simp [hloaded]
  · rename_i hloaded
    simp [hloaded]
  · rename_i hloaded
    simp [hloaded]

theorem loadJson_eq_ok {message : String} {value : JsonValue} :
    loadJson message reply = .ok value ↔ reply.loaded = .ok value := by
  unfold loadJson
  split
  · rename_i found hloaded
    simp [hloaded]
  · rename_i hloaded
    simp [hloaded]
  · rename_i hloaded
    simp [hloaded]

theorem textContent_eq_ok {choice : JsonValue} {output : String} :
    textContent name choice = .ok output ↔ HasText choice output := by
  unfold textContent HasText
  cases ((choice.get "message").get "content").asText with
  | none => simp
  | some found =>
      simp only [raised_bind_eq_ok, demand_eq_ok, Bool.not_eq_true', raised_pure_eq_ok,
        exists_const, Option.some.injEq]
      constructor
      · rintro ⟨hblank, rfl⟩
        exact ⟨rfl, hblank⟩
      · rintro ⟨rfl, hblank⟩
        exact ⟨hblank, rfl⟩

theorem executes_textContent {choice : JsonValue} :
    Executes (textContent name choice) ↔ ¬ ∃ output, HasText choice output := by
  unfold textContent HasText
  cases ((choice.get "message").get "content").asText with
  | none => simp
  | some found =>
      simp only [executes_bind, executes_demand, not_executes_pure, and_false,
        exists_false, or_false]
      simp

theorem tokenUsage_eq_ok {usage : JsonValue} {maxTokens : ℤ} {counts : TokenUsage} :
    tokenUsage name usage maxTokens = .ok counts ↔ Counts usage maxTokens counts := by
  unfold tokenUsage
  constructor
  · intro h
    split at h
    · rename_i input output total hinput houtput htotal
      simp only [raised_bind_eq_ok, demand_eq_ok, decide_eq_true_eq, raised_pure_eq_ok,
        exists_const] at h
      obtain ⟨hnonneg, hsum, hbounded, rfl⟩ := h
      exact ⟨hinput, houtput, htotal, hnonneg, hsum, hbounded⟩
    · cases h
  · intro h
    rw [h.input, h.output, h.total]
    simp only [raised_bind_eq_ok, demand_eq_ok, decide_eq_true_eq, raised_pure_eq_ok,
      exists_const]
    exact ⟨h.nonneg, h.sum, h.bounded, trivial⟩

theorem executes_tokenUsage {usage : JsonValue} {maxTokens : ℤ} :
    Executes (tokenUsage name usage maxTokens) ↔
      ¬ ∃ counts, Counts usage maxTokens counts := by
  have hcases : Executes (tokenUsage name usage maxTokens) ∨
      ∃ counts, tokenUsage name usage maxTokens = .ok counts := by
    unfold tokenUsage
    split
    · rename_i input output total _ _ _
      simp only [executes_bind, executes_demand, demand_eq_ok, raised_bind_eq_ok,
        exists_const, not_executes_pure, and_false, or_false, raised_pure_eq_ok,
        decide_eq_true_eq, decide_eq_false_iff_not]
      by_cases hnonneg : 0 ≤ input ∧ 0 ≤ output ∧ 0 ≤ total
      · by_cases hsum : total = input + output
        · by_cases hbounded : output ≤ maxTokens
          · exact Or.inr ⟨⟨input, output, total⟩, hnonneg, hsum, hbounded, rfl⟩
          · exact Or.inl (Or.inr ⟨hnonneg, Or.inr ⟨hsum, hbounded⟩⟩)
        · exact Or.inl (Or.inr ⟨hnonneg, Or.inl hsum⟩)
      · exact Or.inl (Or.inl hnonneg)
    · exact Or.inl executes_error
  simp only [← @tokenUsage_eq_ok name]
  constructor
  · rintro ⟨failure, hfailure⟩ ⟨counts, hcounts⟩
    rw [hfailure] at hcounts
    cases hcounts
  · intro hnone
    exact hcases.resolve_right hnone

theorem estimatedCost_eq_ok {estimate : Except Unit (Option ℚ)} {cost : ℚ} :
    estimatedCost name estimate = .ok cost ↔ estimate = .ok (some cost) ∧ 0 ≤ cost := by
  unfold estimatedCost
  split
  · rename_i found
    simp only [raised_bind_eq_ok, demand_eq_ok, decide_eq_true_eq, raised_pure_eq_ok,
      exists_const, Except.ok.injEq, Option.some.injEq]
    constructor
    · rintro ⟨hcost, rfl⟩
      exact ⟨rfl, hcost⟩
    · rintro ⟨rfl, hcost⟩
      exact ⟨hcost, rfl⟩
  · simp
  · simp

theorem executes_estimatedCost {estimate : Except Unit (Option ℚ)} :
    Executes (estimatedCost name estimate) ↔
      ¬ ∃ cost, estimate = .ok (some cost) ∧ 0 ≤ cost := by
  unfold estimatedCost
  split
  · rename_i cost
    simp only [executes_bind, executes_demand, not_executes_pure, and_false,
      exists_false, or_false]
    simp
  · simp
  · simp

theorem HasText.unique {choice : JsonValue} (a b : String) (ha : HasText choice a)
    (hb : HasText choice b) : a = b :=
  Option.some.inj (ha.1.symm.trans hb.1)

theorem Counts.unique {usage : JsonValue} {maxTokens : ℤ} (a b : TokenUsage)
    (ha : Counts usage maxTokens a) (hb : Counts usage maxTokens b) : a = b := by
  have hinput := ha.input.symm.trans hb.input
  have houtput := ha.output.symm.trans hb.output
  have htotal := ha.total.symm.trans hb.total
  cases a
  cases b
  simp_all

end Steps

/-- Usage that is within the budgets of the call, in time. -/
def Affords (materials : AIMaterials) (maxTokens : ℤ) (usage : JsonValue)
    (duration timeout : ℚ) : Prop :=
  ∃ counts, Counts usage maxTokens counts ∧
    ∃ cost, (materials.costEstimator counts.input counts.output = .ok (some cost) ∧
      0 ≤ cost) ∧ duration ≤ timeout

theorem not_affords_iff {materials : AIMaterials} {maxTokens : ℤ} {usage : JsonValue}
    {duration timeout : ℚ} :
    ((¬ ∃ counts, Counts usage maxTokens counts) ∨
      ∃ counts, Counts usage maxTokens counts ∧
        ((¬ ∃ cost, materials.costEstimator counts.input counts.output = .ok (some cost) ∧
            0 ≤ cost) ∨
          ∃ cost, (materials.costEstimator counts.input counts.output = .ok (some cost) ∧
            0 ≤ cost) ∧ ¬ duration ≤ timeout)) ↔
      ¬ Affords materials maxTokens usage duration timeout := by
  have hcost : ∀ (counts : TokenUsage) (a b : ℚ),
      (materials.costEstimator counts.input counts.output = .ok (some a) ∧ 0 ≤ a) →
      (materials.costEstimator counts.input counts.output = .ok (some b) ∧ 0 ≤ b) →
        a = b := by
    intro counts a b ha hb
    exact Option.some.inj (Except.ok.inj (ha.1.symm.trans hb.1))
  simp only [refused_or_iff (hcost _), refused_or_iff Counts.unique, not_not, Affords]

/-- The prompt and the time that a call is made with. -/
def Prepared (limits : CloudLimits) (materials : AIMaterials)
    (request : AIProviderRequest) (timeout : ℚ) : Prop :=
  ∃ prompt, materials.promptRenderer request = .ok prompt ∧
    PyText.blank prompt = false ∧ (prompt.length : ℤ) ≤ limits.maxInputChars ∧
    timeout = min (min limits.timeoutSeconds request.deadlineSeconds)
      request.budget.maxDurationSeconds ∧ 0 < timeout

theorem prepare_eq_ok {name : String} {limits : CloudLimits} {materials : AIMaterials}
    {request : AIProviderRequest} {timeout : ℚ} :
    prepare name limits request (materials.promptRenderer request) = .ok timeout ↔
      Prepared limits materials request timeout := by
  simp only [prepare, raised_bind_eq_ok, demand_eq_ok, Bool.not_eq_true',
    decide_eq_true_eq, raised_pure_eq_ok, exists_const, Prepared]
  constructor
  · rintro ⟨prompt, hprompt, hblank, hlength, htimeout, rfl⟩
    exact ⟨prompt, hprompt, hblank, hlength, rfl, htimeout⟩
  · rintro ⟨prompt, hprompt, hblank, hlength, rfl, htimeout⟩
    exact ⟨prompt, hprompt, hblank, hlength, htimeout, rfl⟩

namespace YandexGPTProvider

variable (provider : YandexGPTProvider)

/-- A reply that the call takes for a failure: it is too large, its status is
not 200, it is not JSON, or what it holds cannot be used in time. -/
def Faulty (_lastFailureCode : Option String) (met : YandexGPTMet)
    (request : AIProviderRequest) : Prop :=
  ∃ timeout, Prepared provider.configuration.toCloudLimits provider.materials request
      timeout ∧
    (met.exchange.Fails provider.configuration.maxResponseBytes ∨
      ∃ reply, met.exchange.Delivers provider.configuration.maxResponseBytes reply ∧
        (provider.configuration.maxResponseBytes < reply.size ∨ reply.status ≠ 200 ∨
          reply.loaded = .error .decode ∨
          ∃ payload choice, reply.loaded = .ok payload ∧ firstChoice payload = .ok choice ∧
            ¬ ((∃ output, HasText choice output) ∧ (payload.get "usage").isDict = true ∧
              Affords provider.materials
                (outputLimit provider.configuration.toCloudLimits request)
                (payload.get "usage") (met.finished - met.started) timeout)))

theorem checkStatus_eq_ok {status : ℤ} {result : Unit} :
    checkStatus status = .ok result ↔ status = 200 := by
  simp only [checkStatus, raised_bind_eq_ok, demand_eq_ok, exists_const, bne_iff_ne, ne_eq,
    Bool.not_eq_true', decide_eq_false_iff_not, decide_eq_true_eq, beq_iff_eq]
  omega

theorem executes_checkStatus {status : ℤ} :
    Executes (checkStatus status) ↔ status ≠ 200 := by
  simp only [checkStatus, executes_bind, executes_demand, demand_eq_ok, exists_const,
    bne_iff_ne, ne_eq, bne_eq_false_iff_eq, Bool.not_eq_true', Bool.not_eq_false',
    decide_eq_false_iff_not, decide_eq_true_eq, beq_eq_false_iff_ne]
  omega

theorem not_executes_firstChoice (payload : JsonValue) :
    ¬ Executes (firstChoice payload) := by
  unfold firstChoice
  split
  · split
    · simp
    · split
      · simp
      · simp
    · simp
  · simp

theorem executes_attempt {met : YandexGPTMet} {request : AIProviderRequest} {timeout : ℚ} :
    Executes (provider.attempt met request timeout) ↔
      met.exchange.Fails provider.configuration.maxResponseBytes ∨
      ∃ reply, met.exchange.Delivers provider.configuration.maxResponseBytes reply ∧
        (provider.configuration.maxResponseBytes < reply.size ∨ reply.status ≠ 200 ∨
          reply.loaded = .error .decode ∨
          ∃ payload choice, reply.loaded = .ok payload ∧ firstChoice payload = .ok choice ∧
            ¬ ((∃ output, HasText choice output) ∧ (payload.get "usage").isDict = true ∧
              Affords provider.materials
                (outputLimit provider.configuration.toCloudLimits request)
                (payload.get "usage") (met.finished - met.started) timeout)) := by
  simp only [attempt, executes_bind, executes_requestBounded, requestBounded_eq_ok,
    executes_demand, demand_eq_ok, exists_const, executes_checkStatus, checkStatus_eq_ok,
    executes_loadJson, loadJson_eq_ok, not_executes_firstChoice, executes_textContent,
    textContent_eq_ok, executes_tokenUsage, tokenUsage_eq_ok, executes_estimatedCost, estimatedCost_eq_ok,
    not_executes_unrecorded, not_executes_pure, and_false, exists_false, or_false,
    false_or, decide_eq_false_iff_not, decide_eq_true_eq, not_affords_iff]
  apply or_congr_right
  apply exists_congr
  intro reply
  apply and_congr_right
  intro _
  simp only [failed_or_iff, unfit_or_iff, not_le]
  by_cases hsize : provider.configuration.maxResponseBytes < (reply.size : ℤ)
  · exact iff_of_true (Or.inl hsize) (Or.inl hsize)
  · simp only [hsize, not_lt.mp hsize, false_or, true_and, exists_and_left, ne_eq]

theorem invoke_ready_iff {lastFailureCode : Option String} (met : YandexGPTMet)
    (request : AIProviderRequest)
    (hready : provider.adapter.lastFailureCode lastFailureCode = none) :
    provider.adapter.lastFailureCode
        (provider.adapter.invoke lastFailureCode met request).2 = none ↔
      ¬ provider.Faulty lastFailureCode met request := by
  simp only [adapter, id_eq, invoke] at hready ⊢
  simp only [Faulty, ← @prepare_eq_ok "YandexGPT", ← executes_attempt]
  cases prepare "YandexGPT" provider.configuration.toCloudLimits request
      (provider.materials.promptRenderer request) with
  | error raised => simp [hready]
  | ok timeout =>
      simp only [Except.ok.injEq, exists_eq_left']
      cases provider.attempt met request timeout with
      | ok response => simp
      | error raised =>
          cases raised with
          | none => simp [hready]
          | some failure => simp

end YandexGPTProvider

namespace GigaChatProvider

variable (provider : GigaChatProvider)

/-- A reply that grants a token which has not expired. -/
def Grants (data : JsonValue) (now : ℚ) : Prop :=
  ∃ value, (data.get "access_token").asText = some value ∧ PyText.blank value = false ∧
    ∃ expiresAt, (data.get "expires_at").asInt = some expiresAt ∧ truncate now < expiresAt

/-- The request for a token fails: the status is not 200, the reply is not JSON,
or it grants no token. -/
def TokenFaulty (met : GigaChatMet) : Prop :=
  met.token.Fails provider.configuration.maxResponseBytes ∨
    ∃ reply, met.token.Delivers provider.configuration.maxResponseBytes reply ∧
      (reply.status ≠ 200 ∨ reply.loaded = .error .decode ∨
        ∃ data, reply.loaded = .ok data ∧ ¬ Grants data met.now)

/-- The request for a token is answered with one. -/
def TokenGranted (met : GigaChatMet) : Prop :=
  ∃ reply data token, met.token.Delivers provider.configuration.maxResponseBytes reply ∧
    reply.status = 200 ∧ reply.loaded = .ok data ∧ grantedToken data met.now = .ok token

/-- The request for the completion fails: there is no time for it, the status is
not 200, the reply is not JSON, or what it holds cannot be used in time. -/
def GenerationFaulty (met : GigaChatMet) (request : AIProviderRequest) (timeout : ℚ) :
    Prop :=
  met.started + timeout ≤ met.beforeGeneration ∨
    met.exchange.Fails provider.configuration.maxResponseBytes ∨
      ∃ reply, met.exchange.Delivers provider.configuration.maxResponseBytes reply ∧
        (reply.status ≠ 200 ∨ reply.loaded = .error .decode ∨
          ∃ payload, reply.loaded = .ok payload ∧
            ¬ ((∃ output, HasText (firstChoice payload) output) ∧
              ((payload.get "usage").isDict &&
                sameModel provider.configuration.model (payload.get "model")) = true ∧
              Affords provider.materials
                (outputLimit provider.configuration.toCloudLimits request)
                (payload.get "usage") (met.finished - met.started) timeout))

/-- The call fails before the request for the completion or in it; a token that
is kept and has not expired is used as it is. -/
def Faulty (state : GigaChatState) (met : GigaChatMet) (request : AIProviderRequest) :
    Prop :=
  ∃ timeout, Prepared provider.configuration.toCloudLimits provider.materials request
      timeout ∧
    (met.started + timeout ≤ met.beforeAuthorization ∨
      (keptToken state.token met.now = none ∧ provider.TokenFaulty met) ∨
      ((keptToken state.token met.now ≠ none ∨ provider.TokenGranted met) ∧
        provider.GenerationFaulty met request timeout))

theorem checkTokenStatus_eq_ok {status : ℤ} {result : Unit} :
    checkTokenStatus status = .ok result ↔ status = 200 := by
  simp only [checkTokenStatus, raised_bind_eq_ok, demand_eq_ok, exists_const, bne_iff_ne,
    ne_eq, decide_eq_true_eq, beq_iff_eq]
  omega

theorem executes_checkTokenStatus {status : ℤ} :
    Executes (checkTokenStatus status) ↔ status ≠ 200 := by
  simp only [checkTokenStatus, executes_bind, executes_demand, demand_eq_ok, exists_const,
    bne_iff_ne, ne_eq, bne_eq_false_iff_eq, decide_eq_false_iff_not, decide_eq_true_eq,
    beq_eq_false_iff_ne]
  omega

theorem checkStatus_eq_ok {status : ℤ} {result : Unit} :
    checkStatus status = .ok result ↔ status = 200 := by
  simp only [checkStatus, raised_bind_eq_ok, demand_eq_ok, exists_const, bne_iff_ne, ne_eq,
    decide_eq_true_eq, beq_iff_eq]
  omega

theorem executes_checkStatus {status : ℤ} :
    Executes (checkStatus status) ↔ status ≠ 200 := by
  simp only [checkStatus, executes_bind, executes_demand, demand_eq_ok, exists_const,
    bne_iff_ne, ne_eq, bne_eq_false_iff_eq, decide_eq_false_iff_not, decide_eq_true_eq,
    beq_eq_false_iff_ne]
  omega

theorem not_executes_float (value : ℤ) : ¬ Executes (float value) := by
  unfold float
  split
  · simp
  · simp

theorem executes_cachedExpiry {data : JsonValue} {now : ℚ} :
    Executes (cachedExpiry data now) ↔
      ¬ ∃ expiresAt, (data.get "expires_at").asInt = some expiresAt ∧
        truncate now < expiresAt := by
  unfold cachedExpiry
  cases (data.get "expires_at").asInt with
  | none => simp
  | some expiresAt =>
      simp only [executes_bind, executes_demand, demand_eq_ok, not_executes_float,
        false_or, exists_const, Option.some.injEq, exists_eq_left', decide_eq_false_iff_not,
        or_iff_left_iff_imp]
      rintro ⟨_, early, _, hlate⟩
      split at hlate
      · exact absurd hlate (not_executes_float _)
      · exact absurd hlate (not_executes_pure _)

theorem executes_grantedToken {data : JsonValue} {now : ℚ} :
    Executes (grantedToken data now) ↔ ¬ Grants data now := by
  unfold grantedToken Grants
  cases (data.get "access_token").asText with
  | none => simp
  | some value =>
      simp only [executes_bind, executes_demand, demand_eq_ok, exists_const,
        executes_cachedExpiry, not_executes_pure, and_false, or_false,
        Option.some.injEq, exists_eq_left']
      cases PyText.blank value with
      | true => simp
      | false => simp

theorem executes_renewToken {met : GigaChatMet} :
    Executes (provider.renewToken met) ↔ provider.TokenFaulty met := by
  simp only [renewToken, executes_bind, executes_requestBounded, requestBounded_eq_ok,
    executes_checkTokenStatus, checkTokenStatus_eq_ok, exists_const, executes_loadJson,
    loadJson_eq_ok, executes_grantedToken, TokenFaulty, ne_eq, failed_or_iff]

theorem renewToken_eq_ok {met : GigaChatMet} :
    (∃ token, provider.renewToken met = .ok token) ↔ provider.TokenGranted met := by
  simp only [renewToken, raised_bind_eq_ok, requestBounded_eq_ok, checkTokenStatus_eq_ok,
    exists_const, loadJson_eq_ok, TokenGranted]
  constructor
  · rintro ⟨token, reply, hreply, hstatus, data, hdata, htoken⟩
    exact ⟨reply, data, token, hreply, hstatus, hdata, htoken⟩
  · rintro ⟨reply, data, token, hreply, hstatus, hdata, htoken⟩
    exact ⟨token, reply, hreply, hstatus, data, hdata, htoken⟩

theorem executes_generate {met : GigaChatMet} {request : AIProviderRequest} {timeout : ℚ} :
    Executes (provider.generate met request timeout) ↔
      provider.GenerationFaulty met request timeout := by
  simp only [generate, executes_bind, executes_requestBounded, requestBounded_eq_ok,
    executes_demand, demand_eq_ok, exists_const, executes_checkStatus, checkStatus_eq_ok,
    executes_loadJson, loadJson_eq_ok, executes_textContent, textContent_eq_ok,
    executes_tokenUsage, tokenUsage_eq_ok, executes_estimatedCost, estimatedCost_eq_ok,
    not_executes_unrecorded, not_executes_pure, and_false, exists_false, or_false,
    decide_eq_false_iff_not, decide_eq_true_eq, not_affords_iff, ne_eq, failed_or_iff,
    both_or_iff, unfit_or_iff, GenerationFaulty]
  rw [not_lt, sub_nonpos]

section Attempt

variable {met : GigaChatMet} {request : AIProviderRequest} {timeout : ℚ}
  {kept : Option AccessToken}

theorem attempt_late (h : met.started + timeout ≤ met.beforeAuthorization) :
    Executes ((provider.attempt met request timeout).run kept).1 := by
  have hlate : decide (0 < met.started + timeout - met.beforeAuthorization) = false := by
    rw [decide_eq_false_iff_not, not_lt, sub_nonpos]
    exact h
  simp only [attempt, bind, Effect.lift, demand, hlate, Bool.false_eq_true, if_false,
    executes_error]

variable (hearly : met.beforeAuthorization < met.started + timeout)

include hearly

/-- A token that is kept is used. -/
theorem attempt_kept {token : AccessToken} (hkept : keptToken kept met.now = some token) :
    (provider.attempt met request timeout).run kept =
      (provider.generate met request timeout, kept) := by
  have htime : decide (0 < met.started + timeout - met.beforeAuthorization) = true := by
    rw [decide_eq_true_eq, sub_pos]
    exact hearly
  simp only [attempt, getAccessToken, bind, Effect.lift, Effect.read, demand, htime,
    if_true, hkept, pure]

/-- Otherwise another one is requested. -/
theorem attempt_renewed (hkept : keptToken kept met.now = none) :
    (provider.attempt met request timeout).run kept =
      (provider.renewToken met >>= fun _ => provider.generate met request timeout,
        (provider.renewToken met).toOption.or kept) := by
  have htime : decide (0 < met.started + timeout - met.beforeAuthorization) = true := by
    rw [decide_eq_true_eq, sub_pos]
    exact hearly
  simp only [attempt, getAccessToken, bind, Effect.lift, Effect.read, Effect.modify, demand,
    htime, if_true, hkept, pure]
  cases provider.renewToken met with
  | ok token => rfl
  | error raised => rfl

end Attempt

theorem executes_attempt {met : GigaChatMet} {request : AIProviderRequest} {timeout : ℚ}
    {kept : Option AccessToken} :
    Executes ((provider.attempt met request timeout).run kept).1 ↔
      met.started + timeout ≤ met.beforeAuthorization ∨
      (keptToken kept met.now = none ∧ provider.TokenFaulty met) ∨
      ((keptToken kept met.now ≠ none ∨ provider.TokenGranted met) ∧
        provider.GenerationFaulty met request timeout) := by
  rw [← executes_renewToken, ← renewToken_eq_ok, ← executes_generate]
  by_cases hlate : met.started + timeout ≤ met.beforeAuthorization
  · exact iff_of_true (provider.attempt_late hlate) (Or.inl hlate)
  · rw [not_le] at hlate
    simp only [not_le.mpr hlate, false_or]
    cases hkept : keptToken kept met.now with
    | some token =>
        rw [provider.attempt_kept hlate hkept]
        simp
    | none =>
        rw [provider.attempt_renewed hlate hkept, executes_bind, exists_and_right]
        simp

theorem invoke_ready_iff {state : GigaChatState} (met : GigaChatMet)
    (request : AIProviderRequest)
    (hready : provider.adapter.lastFailureCode state = none) :
    provider.adapter.lastFailureCode (provider.adapter.invoke state met request).2 = none ↔
      ¬ provider.Faulty state met request := by
  simp only [adapter, invoke] at hready ⊢
  simp only [Faulty, ← @prepare_eq_ok "GigaChat", ← executes_attempt]
  cases prepare "GigaChat" provider.configuration.toCloudLimits request
      (provider.materials.promptRenderer request) with
  | error raised => simp [hready]
  | ok timeout =>
      simp only [Except.ok.injEq, exists_eq_left']
      cases (provider.attempt met request timeout).run state.token with
      | mk outcome token =>
          cases outcome with
          | ok response => simp
          | error raised =>
              cases raised with
              | none => simp [hready]
              | some failure => simp

end GigaChatProvider

end ShemaPlatform
