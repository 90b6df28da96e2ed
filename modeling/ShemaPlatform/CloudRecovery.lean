/-
An adapter answers a later call, when the service does, exactly as long as no
call before it has recorded a failure: one that has is never left again.
-/
import ShemaPlatform.CloudFailures

namespace ShemaPlatform

open StateRun

/-- A call that may be made: its task, scope and prompt are accepted. -/
structure AdmissibleCall {M : Type} (limits : CloudLimits) (materials : AIMaterials)
    (call : ScopedCall M) (request : AIProviderRequest) : Prop where
  orderable : AITask.new call.task = .ok call.task
  inScope : ∃ scope, call.scope = some scope ∧ AIExecutionScope.new scope = .ok scope
  asks : call.request = some request
  prompted : ∃ prompt, materials.promptRenderer request = .ok prompt ∧
    PyText.blank prompt = false ∧ (prompt.length : ℤ) ≤ limits.maxInputChars

/-- The time a call may take. -/
def callTimeout (limits : CloudLimits) (request : AIProviderRequest) : ℚ :=
  min (min limits.timeoutSeconds request.deadlineSeconds) request.budget.maxDurationSeconds

/-- A completion with a text, within every budget of the request. -/
structure Fits (limits : CloudLimits) (materials : AIMaterials)
    (request : AIProviderRequest) (choice usage : JsonValue) (duration : ℚ)
    (output : String) (counts : TokenUsage) : Prop where
  said : HasText choice output
  size : (output.utf8ByteSize : ℤ) ≤ limits.maxResponseBytes
  reported : usage.isDict = true
  counted : Counts usage (outputLimit limits request) counts
  total : counts.total ≤ request.budget.maxTokens
  priced : ∃ cost, materials.costEstimator counts.input counts.output = .ok (some cost) ∧
    0 ≤ cost ∧ cost ≤ request.budget.maxCost
  timely : 0 ≤ duration ∧ duration ≤ callTimeout limits request

/-- The run that a completion is returned as. -/
def cloudRun (runId providerId modelId : String) (request : AIProviderRequest)
    (output : String) (total : ℤ) (cost duration : ℚ) : AIRun where
  runId := runId
  taskId := request.task.taskId
  providerId := providerId
  model := modelId
  modelVersion := "latest"
  promptVersion := request.task.promptVersion
  inputRefs := request.inputRefs
  evidenceRefs := request.evidenceRefs
  output := output
  tokens := total
  cost := cost
  durationSeconds := duration

section Requests

variable {M : Type} {limits : CloudLimits} {materials : AIMaterials}
  {call : ScopedCall M} {request : AIProviderRequest}

/-- What a request says of the call that makes it. -/
theorem AdmissibleCall.request_eq (h : AdmissibleCall limits materials call request) :
    request.task = call.task ∧ PyText.blank request.operationId = false ∧
      0 < request.deadlineSeconds ∧ 0 < request.budget.maxDurationSeconds := by
  obtain ⟨scope, hscope, hvalid⟩ := h.inScope
  have hrequest := h.asks
  rw [ScopedCall.request, hscope, Option.bind_some] at hrequest
  simp only [AIExecutionScope.new, bind_eq_ok, require_eq_ok, decide_eq_true_eq] at hvalid
  obtain ⟨_, _, _, _, _, hduration, _⟩ := hvalid
  cases hnew : AIProviderRequest.new
      (ScopedAIProvider.requestFor scope call.task call.inputRefs) with
  | error failure => simp [hnew, Except.toOption] at hrequest
  | ok found =>
      rw [hnew] at hrequest
      obtain rfl := Option.some.inj hrequest
      simp only [AIProviderRequest.new, bind_eq_ok, require_eq_ok, Bool.not_eq_true',
        decide_eq_true_eq, pure_eq_ok] at hnew
      obtain ⟨_, hoperation, _, hdeadline, _, _, _, _, rfl⟩ := hnew
      exact ⟨rfl, hoperation, hdeadline, hduration.1⟩

theorem AdmissibleCall.timeout_pos (h : AdmissibleCall limits materials call request) :
    0 < callTimeout limits request := by
  obtain ⟨_, _, hdeadline, hbudget⟩ := h.request_eq
  exact lt_min (lt_min limits.bounded.1.1 hdeadline) hbudget

theorem AdmissibleCall.prepared (h : AdmissibleCall limits materials call request) :
    Prepared limits materials request (callTimeout limits request) := by
  obtain ⟨prompt, hprompt, hblank, hlength⟩ := h.prompted
  exact ⟨prompt, hprompt, hblank, hlength, rfl, h.timeout_pos⟩

variable {runId providerId modelId output : String} {choice usage : JsonValue}
  {duration cost : ℚ} {counts : TokenUsage}

theorem new_cloudRun (hadmits : AdmissibleCall limits materials call request)
    (hfits : Fits limits materials request choice usage duration output counts)
    (hcost : 0 ≤ cost) (hrun : PyText.blank runId = false)
    (hprovider : PyText.blank providerId = false) (hmodel : PyText.blank modelId = false) :
    AIRun.new (cloudRun runId providerId modelId request output counts.total cost duration) =
      .ok (cloudRun runId providerId modelId request output counts.total cost duration) := by
  obtain ⟨htask, _⟩ := hadmits.request_eq
  have hlatest : PyText.blank "latest" = false := by decide
  have horderable := hadmits.orderable
  simp only [AITask.new, bind_eq_ok, require_eq_ok, Bool.and_eq_true, Bool.not_eq_true',
    pure_eq_ok] at horderable
  obtain ⟨_, hnames, _, hprompt, _⟩ := horderable
  simp only [AIRun.new, bind_eq_ok, require_eq_ok, pure_eq_ok, cloudRun, List.all_cons,
    List.all_nil, Bool.and_true, Bool.and_eq_true, Bool.not_eq_true', decide_eq_true_eq,
    htask]
  exact ⟨(), ⟨hrun, hnames.1, hprovider, hmodel, hlatest, hprompt⟩, (),
    hfits.counted.nonneg.2.2, (), ⟨hcost, hfits.timely.1⟩, trivial⟩

/-- The response is accepted, here and by the composition. -/
theorem validate_cloudRun
    (hfits : Fits limits materials request choice usage duration output counts)
    (hcost : cost ≤ request.budget.maxCost) :
    validateProviderResponse (cloudDescriptor providerId modelId limits) request
      ⟨cloudRun runId providerId modelId request output counts.total cost duration,
        limits.configurationVersion⟩ = .ok () := by
  have htime := hfits.timely.2
  simp only [callTimeout, le_min_iff] at htime
  have hduration : duration ≤ min (min request.budget.maxDurationSeconds
      limits.timeoutSeconds) request.deadlineSeconds :=
    le_min (le_min htime.2 htime.1.1) htime.1.2
  simp only [validateProviderResponse, bind_eq_ok, require_eq_ok, cloudRun,
    cloudDescriptor, beq_self_eq_true, Bool.not_eq_true', List.all_eq_true,
    List.contains_iff_mem, exists_const, true_and]
  exact ⟨fun _ hmem => hmem, decide_eq_false (not_lt.mpr hfits.total),
    decide_eq_false (not_lt.mpr hcost), decide_eq_false (not_lt.mpr hduration),
    decide_eq_false (not_lt.mpr hfits.size)⟩

theorem unrecorded_eq_ok {α : Type} {computed : Except Failure α} {value : α} :
    unrecorded computed = .ok value ↔ computed = .ok value := by
  cases computed with
  | ok found => simp [unrecorded]
  | error error => simp [unrecorded]

end Requests

namespace YandexGPTProvider

variable (provider : YandexGPTProvider)

/-- The service answers the request with a completion that fits it. -/
def Answered (met : YandexGPTMet) (request : AIProviderRequest) (output : String)
    (counts : TokenUsage) : Prop :=
  ∃ reply payload choice,
    met.exchange.Delivers provider.configuration.maxResponseBytes reply ∧
    (reply.size : ℤ) ≤ provider.configuration.maxResponseBytes ∧ reply.status = 200 ∧
    reply.loaded = .ok payload ∧ firstChoice payload = .ok choice ∧
    ((payload.get "id").truthy = false ∨ ∃ responseId,
      (payload.get "id").asText = some responseId ∧ PyText.blank responseId = false) ∧
    Fits provider.configuration.toCloudLimits provider.materials request choice
      (payload.get "usage") (met.finished - met.started) output counts

theorem blank_modelUri : PyText.blank provider.configuration.modelUri = false :=
  PyText.blank_of_startsWith provider.configuration.scheme (by decide)

variable {call : ScopedCall YandexGPTMet} {request : AIProviderRequest} {output : String}
  {counts : TokenUsage}

theorem blank_runId {payload : JsonValue}
    (hadmits : AdmissibleCall provider.configuration.toCloudLimits provider.materials call request)
    (hid : (payload.get "id").truthy = false ∨ ∃ responseId,
      (payload.get "id").asText = some responseId ∧ PyText.blank responseId = false) :
    PyText.blank (provider.runId (payload.get "id") request) = false := by
  obtain ⟨_, hoperation, _⟩ := hadmits.request_eq
  unfold runId
  rcases hid with hfalsy | ⟨responseId, hresponse, hblank⟩
  · simp only [hfalsy, Bool.false_eq_true, if_false, hoperation]
  · split
    · rw [hresponse]
      exact hblank
    · exact hoperation

theorem invoke_accepted {lastFailureCode : Option String} {met : YandexGPTMet}
    {timeout : ℚ} {response : AIProviderResponse}
    (hprepared : Prepared provider.configuration.toCloudLimits provider.materials request
      timeout) (hattempt : provider.attempt met request timeout = .ok response) :
    (provider.adapter.invoke lastFailureCode met request).1 = .ok response := by
  simp only [adapter, invoke, prepare_eq_ok.mpr hprepared, hattempt]

/-- A ready adapter returns what the service answers. -/
theorem run_answered {lastFailureCode : Option String}
    (hadmits : AdmissibleCall provider.configuration.toCloudLimits provider.materials call request)
    (hanswered : provider.Answered call.met request output counts)
    (hready : provider.adapter.lastFailureCode lastFailureCode = none) :
    ∃ run, (provider.adapter.run lastFailureCode call).1 = .ok run ∧ run.output = output ∧
      run.tokens = counts.total := by
  obtain ⟨reply, payload, choice, hreply, hsize, hstatus, hpayload, hchoice, hid, hfits⟩ :=
    hanswered
  obtain ⟨cost, hcost, hnonneg, hbudget⟩ := hfits.priced
  have hprovider : PyText.blank "yandexgpt" = false := by decide
  have hrun := new_cloudRun hadmits hfits hnonneg (provider.blank_runId hadmits hid)
    hprovider provider.blank_modelUri
  have hattempt : provider.attempt call.met request
      (callTimeout provider.configuration.toCloudLimits request) = .ok
        ⟨cloudRun (provider.runId (payload.get "id") request) "yandexgpt"
          provider.configuration.modelUri request output counts.total cost
          (call.met.finished - call.met.started),
          provider.configuration.configurationVersion⟩ := by
    simp only [attempt, raised_bind_eq_ok, requestBounded_eq_ok, demand_eq_ok,
      checkStatus_eq_ok, loadJson_eq_ok, textContent_eq_ok, tokenUsage_eq_ok,
      estimatedCost_eq_ok, unrecorded_eq_ok, raised_pure_eq_ok, exists_const,
      decide_eq_true_eq]
    exact ⟨reply, hreply, hsize, hstatus, payload, hpayload, choice, hchoice, output,
      hfits.said, hfits.reported, counts, hfits.counted, cost, ⟨hcost, hnonneg⟩,
      hfits.timely.2, _, hrun, (), validate_cloudRun hfits hbudget, rfl⟩
  exact ⟨_, provider.adapter.run_released hready hadmits.asks
    (provider.invoke_accepted hadmits.prepared hattempt)
    (validate_cloudRun hfits hbudget), rfl, rfl⟩

end YandexGPTProvider

namespace GigaChatProvider

variable (provider : GigaChatProvider)

/-- The service grants a token, and answers the request with a completion that
fits it, both in time. -/
def Answered (met : GigaChatMet) (request : AIProviderRequest) (output : String)
    (counts : TokenUsage) : Prop :=
  provider.TokenGranted met ∧ ∃ reply payload,
    met.beforeAuthorization <
      met.started + callTimeout provider.configuration.toCloudLimits request ∧
    met.beforeGeneration <
      met.started + callTimeout provider.configuration.toCloudLimits request ∧
    met.exchange.Delivers provider.configuration.maxResponseBytes reply ∧
    reply.status = 200 ∧ reply.loaded = .ok payload ∧
    sameModel provider.configuration.model (payload.get "model") = true ∧
    PyText.blank met.runId = false ∧
    Fits provider.configuration.toCloudLimits provider.materials request
      (firstChoice payload) (payload.get "usage") (met.finished - met.started) output
      counts

variable {call : ScopedCall GigaChatMet} {request : AIProviderRequest} {output : String}
  {counts : TokenUsage}

theorem invoke_accepted {state : GigaChatState} {met : GigaChatMet} {timeout : ℚ}
    {response : AIProviderResponse}
    (hprepared : Prepared provider.configuration.toCloudLimits provider.materials request
      timeout)
    (hattempt : ((provider.attempt met request timeout).run state.token).1 = .ok response) :
    (provider.adapter.invoke state met request).1 = .ok response := by
  simp only [adapter, invoke, prepare_eq_ok.mpr hprepared]
  cases houtcome : (provider.attempt met request timeout).run state.token with
  | mk outcome token =>
      rw [houtcome] at hattempt
      obtain rfl := hattempt
      rfl

/-- A ready adapter returns what the service answers, whichever token is used. -/
theorem run_answered {state : GigaChatState}
    (hadmits : AdmissibleCall provider.configuration.toCloudLimits provider.materials call request)
    (hanswered : provider.Answered call.met request output counts)
    (hready : provider.adapter.lastFailureCode state = none) :
    ∃ run, (provider.adapter.run state call).1 = .ok run ∧ run.output = output ∧
      run.tokens = counts.total := by
  obtain ⟨htoken, reply, payload, hauthorized, htime, hreply, hstatus, hpayload, hmodel,
    hid, hfits⟩ := hanswered
  obtain ⟨cost, hcost, hnonneg, hbudget⟩ := hfits.priced
  have hprovider : PyText.blank "gigachat" = false := by decide
  have hrun := new_cloudRun hadmits hfits hnonneg hid hprovider
    provider.configuration.named
  have hgenerate : provider.generate call.met request
      (callTimeout provider.configuration.toCloudLimits request) = .ok
        ⟨cloudRun call.met.runId "gigachat" provider.configuration.model request output
          counts.total cost (call.met.finished - call.met.started),
          provider.configuration.configurationVersion⟩ := by
    simp only [generate, raised_bind_eq_ok, requestBounded_eq_ok, demand_eq_ok,
      checkStatus_eq_ok, loadJson_eq_ok, textContent_eq_ok, tokenUsage_eq_ok,
      estimatedCost_eq_ok, unrecorded_eq_ok, raised_pure_eq_ok, exists_const,
      decide_eq_true_eq, sub_pos]
    exact ⟨htime, reply, hreply, hstatus, payload, hpayload, output, hfits.said,
      hfits.reported, hmodel, counts, hfits.counted, cost, ⟨hcost, hnonneg⟩,
      hfits.timely.2, _, hrun, (), validate_cloudRun hfits hbudget, rfl⟩
  have hattempt : ((provider.attempt call.met request
      (callTimeout provider.configuration.toCloudLimits request)).run state.token).1 = .ok
        ⟨cloudRun call.met.runId "gigachat" provider.configuration.model request output
          counts.total cost (call.met.finished - call.met.started),
          provider.configuration.configurationVersion⟩ := by
    cases hkept : keptToken state.token call.met.now with
    | some token =>
        rw [provider.attempt_kept hauthorized hkept]
        exact hgenerate
    | none =>
        obtain ⟨token, hrenewed⟩ := provider.renewToken_eq_ok.mpr htoken
        rw [provider.attempt_renewed hauthorized hkept, hrenewed]
        exact hgenerate
  exact ⟨_, provider.adapter.run_released hready hadmits.asks
    (provider.invoke_accepted hadmits.prepared hattempt)
    (validate_cloudRun hfits hbudget), rfl, rfl⟩

end GigaChatProvider

/-- A call that the service answers is answered, after any calls, exactly when
none of them has recorded a failure: then no request timed out or failed, every
reply was of the size, the status and the shape that is expected, and nothing
exceeded its budget or its time. -/
theorem cloud_answers_iff (yandexGPT : YandexGPTProvider) (gigaChat : GigaChatProvider) :
    (∀ (calls : List (ScopedCall YandexGPTMet)) (call : ScopedCall YandexGPTMet)
      (request : AIProviderRequest) (output : String) (counts : TokenUsage),
      AdmissibleCall yandexGPT.configuration.toCloudLimits yandexGPT.materials call request →
      yandexGPT.Answered call.met request output counts →
      ((∃ run, (yandexGPT.adapter.run (yandexGPT.adapter.after none calls) call).1 =
            .ok run ∧ run.output = output ∧ run.tokens = counts.total) ↔
        Along (fun state call => (yandexGPT.adapter.run state call).2)
          (CloudAdapter.Quiet yandexGPT.Faulty) none calls)) ∧
    (∀ (calls : List (ScopedCall GigaChatMet)) (call : ScopedCall GigaChatMet)
      (request : AIProviderRequest) (output : String) (counts : TokenUsage),
      AdmissibleCall gigaChat.configuration.toCloudLimits gigaChat.materials call request →
      gigaChat.Answered call.met request output counts →
      ((∃ run, (gigaChat.adapter.run (gigaChat.adapter.after ⟨none, none⟩ calls) call).1 =
            .ok run ∧ run.output = output ∧ run.tokens = counts.total) ↔
        Along (fun state call => (gigaChat.adapter.run state call).2)
          (CloudAdapter.Quiet gigaChat.Faulty) ⟨none, none⟩ calls)) := by
  constructor
  · intro calls call request output counts hadmits hanswered
    apply yandexGPT.adapter.answered_iff yandexGPT.invoke_ready_iff rfl calls call
    intro between hready
    exact yandexGPT.run_answered hadmits hanswered hready
  · intro calls call request output counts hadmits hanswered
    apply gigaChat.adapter.answered_iff gigaChat.invoke_ready_iff rfl calls call
    intro between hready
    exact gigaChat.run_answered hadmits hanswered hready

section Samples

theorem sampleLimits_bounded : ((0 : ℚ) < 10 ∧ (10 : ℚ) ≤ 30) ∧
    ((0 : ℤ) < 1048576 ∧ (1048576 : ℤ) ≤ 4194304) ∧
    ((0 : ℤ) < 1000 ∧ (1000 : ℤ) ≤ 131072) ∧ ((0 : ℤ) < 100 ∧ (100 : ℤ) ≤ 16384) ∧
    (0 : ℚ) < 1 := by
  norm_num

theorem sampleLimits_versioned : "config:v1" ≠ "" ∧ "activation:v1" ≠ "" := by
  decide

def sampleLimits : CloudLimits where
  timeoutSeconds := 10
  maxResponseBytes := 1048576
  maxInputChars := 1000
  maxOutputTokens := 100
  maxCost := 1
  configurationVersion := "config:v1"
  activationVersion := "activation:v1"
  bounded := sampleLimits_bounded
  versioned := sampleLimits_versioned

def sampleMaterials : AIMaterials where
  promptRenderer _ := .ok "Do the bounded task."
  costEstimator input output := .ok (some ((input + output) / 100))

theorem sampleLimits_named : PyText.blank sampleLimits.configurationVersion = false ∧
    PyText.blank sampleLimits.activationVersion = false := by
  decide

theorem sampleUri_scheme :
    PyText.startsWith "gpt://folder/yandexgpt/latest" "gpt://" = true := by
  decide

theorem sampleUri_parts :
    4 ≤ ("gpt://folder/yandexgpt/latest".toList.splitOn '/').length := by
  decide

def sampleYandexGPT : YandexGPTProvider where
  configuration := ⟨sampleLimits, "gpt://folder/yandexgpt/latest", sampleUri_scheme,
    sampleUri_parts⟩
  materials := sampleMaterials
  str _ := ""
  named := sampleLimits_named

theorem sampleModel_named : PyText.blank "GigaChat" = false := by
  decide

theorem sampleScope_allowed : "GIGACHAT_API_CORP" ∈ allowedScopes := by
  decide

def sampleGigaChat : GigaChatProvider where
  configuration := ⟨sampleLimits, "GigaChat", "GIGACHAT_API_CORP", sampleModel_named,
    sampleScope_allowed⟩
  materials := sampleMaterials
  named := sampleLimits_named

def sampleScope : AIExecutionScope where
  evidenceRefs := ["evidence:1"]
  context := ⟨"operator", "identity:1", 2, 2, 2, some "corr:1", some "config:v1"⟩
  budget := ⟨100, 1, 5⟩
  deadlineSeconds := 5

def sampleTask : AITask := ⟨"task:1", "qualification", "prompt:v1", true⟩

/-- A call outside of a scope, and one in the scope. -/
def sampleScopedCall {M : Type} (scope : Option AIExecutionScope) (met : M) : ScopedCall M :=
  ⟨scope, sampleTask, ["identity:1"], met⟩

def sampleScopedRequest : AIProviderRequest :=
  ScopedAIProvider.requestFor sampleScope sampleTask ["identity:1"]

def samplePayload : JsonValue := .dict [
  ("id", .text "resp:1"), ("model", .text "GigaChat:2"),
  ("choices", .list [.dict [("message", .dict [("content", .text "approved")])]]),
  ("usage", .dict [("prompt_tokens", .int 10), ("completion_tokens", .int 5),
    ("total_tokens", .int 15)])]

def sampleExchange : Exchange := .opened ⟨200, 200, .ok samplePayload⟩

def sampleGrant : JsonValue :=
  .dict [("access_token", .text "token"), ("expires_at", .int 1800000120)]

def sampleToken : Exchange := .opened ⟨200, 80, .ok sampleGrant⟩

def sampleYandexGPTMet : YandexGPTMet := ⟨sampleExchange, 0, 1⟩

def sampleGigaChatMet : GigaChatMet :=
  ⟨sampleToken, sampleExchange, 1800000000, 0, 0, 1, 2, "run:1"⟩

def sampleCounts : TokenUsage := ⟨10, 5, 15⟩

theorem sampleRequest_new :
    AIProviderRequest.new sampleScopedRequest = .ok sampleScopedRequest := by
  simp only [AIProviderRequest.new, bind_eq_ok, require_eq_ok, pure_eq_ok]
  exact ⟨(), by decide, (), by decide, (), by decide, (), by decide, trivial⟩

theorem sampleScope_new : AIExecutionScope.new sampleScope = .ok sampleScope := by
  simp only [AIExecutionScope.new, bind_eq_ok, require_eq_ok, pure_eq_ok]
  exact ⟨(), by decide, (), by decide, (), by decide, (), by decide, trivial⟩

theorem sampleTask_new : AITask.new sampleTask = .ok sampleTask := by
  simp only [AITask.new, bind_eq_ok, require_eq_ok, pure_eq_ok]
  exact ⟨(), by decide, (), by decide, trivial⟩

theorem sample_asks {M : Type} (met : M) :
    (sampleScopedCall (some sampleScope) met).request = some sampleScopedRequest := by
  simp only [ScopedCall.request, sampleScopedCall, Option.bind_some]
  rw [show ScopedAIProvider.requestFor sampleScope sampleTask ["identity:1"] =
    sampleScopedRequest from rfl, sampleRequest_new]
  rfl

theorem sample_admits {M : Type} (met : M) :
    AdmissibleCall sampleLimits sampleMaterials (sampleScopedCall (some sampleScope) met)
      sampleScopedRequest where
  orderable := sampleTask_new
  inScope := ⟨sampleScope, rfl, sampleScope_new⟩
  asks := sample_asks met
  prompted := ⟨"Do the bounded task.", rfl, by decide, by decide⟩

theorem sample_fits {choice : JsonValue} {duration : ℚ}
    (hchoice : ((choice.get "message").get "content").asText = some "approved")
    (hduration : 0 ≤ duration ∧ duration ≤ 5) :
    Fits sampleLimits sampleMaterials sampleScopedRequest choice (samplePayload.get "usage")
      duration "approved" sampleCounts where
  said := ⟨hchoice, by decide⟩
  size := by decide
  reported := rfl
  counted := ⟨rfl, rfl, rfl, by decide, rfl, by decide⟩
  total := by decide
  priced := ⟨15 / 100, by simp [sampleMaterials, sampleCounts]; norm_num, by norm_num,
    by simp [sampleScopedRequest, ScopedAIProvider.requestFor, sampleScope]; norm_num⟩
  timely := ⟨hduration.1, le_min (le_min (hduration.2.trans (by norm_num [sampleLimits]))
    hduration.2) hduration.2⟩

theorem sample_yandexGPT_answered :
    sampleYandexGPT.Answered sampleYandexGPTMet sampleScopedRequest "approved" sampleCounts :=
  ⟨_, samplePayload, _, ⟨rfl, by decide⟩, by decide, rfl, rfl, rfl,
    Or.inr ⟨"resp:1", rfl, by decide⟩, sample_fits rfl (by norm_num [sampleYandexGPTMet])⟩

theorem sampleGrant_granted :
    GigaChatProvider.grantedToken sampleGrant 1800000000 = .ok ⟨"token", 1800000090⟩ := by
  have hvalue : (sampleGrant.get "access_token").asText = some "token" := rfl
  have hexpires : (sampleGrant.get "expires_at").asInt = some 1800000120 := rfl
  have hfloat : GigaChatProvider.float (1800000120 - 30) = .ok 1800000090 :=
    if_pos (by decide +kernel)
  have hnow : GigaChatProvider.truncate 1800000000 < 1800000120 := by
    norm_num [GigaChatProvider.truncate]
  have hlater : ¬ (1800000090 : ℚ) ≤ 1800000000 := by norm_num
  simp only [GigaChatProvider.grantedToken, GigaChatProvider.cachedExpiry, hvalue, hexpires,
    GigaChatProvider.tokenSafetyWindowSeconds, hfloat, raised_bind_eq_ok, demand_eq_ok,
    decide_eq_true_eq, Except.ok.injEq, exists_eq_left', if_neg hlater, exists_const]
  exact ⟨by decide, 1800000090, ⟨hnow, rfl⟩, rfl⟩

theorem sample_gigaChat_answered :
    sampleGigaChat.Answered sampleGigaChatMet sampleScopedRequest "approved" sampleCounts :=
  ⟨⟨_, _, ⟨"token", 1800000090⟩, ⟨rfl, by decide⟩, rfl, rfl, sampleGrant_granted⟩,
    _, samplePayload, by with_unfolding_all decide, by with_unfolding_all decide,
    ⟨rfl, by decide⟩, rfl, rfl, by decide, by decide,
    sample_fits rfl (by norm_num [sampleGigaChatMet])⟩

/-- After calls outside of any scope both adapters answer. -/
theorem cloud_answers_unscoped :
    (∃ run, (sampleYandexGPT.adapter.run
        (sampleYandexGPT.adapter.after none [sampleScopedCall none sampleYandexGPTMet])
        (sampleScopedCall (some sampleScope) sampleYandexGPTMet)).1 = .ok run ∧
      run.output = "approved" ∧ run.tokens = 15) ∧
    (∃ run, (sampleGigaChat.adapter.run
        (sampleGigaChat.adapter.after ⟨none, none⟩ [sampleScopedCall none sampleGigaChatMet])
        (sampleScopedCall (some sampleScope) sampleGigaChatMet)).1 = .ok run ∧
      run.output = "approved" ∧ run.tokens = 15) := by
  constructor
  · apply ((cloud_answers_iff sampleYandexGPT sampleGigaChat).1 _ _ sampleScopedRequest
      "approved" sampleCounts (sample_admits _) sample_yandexGPT_answered).mpr
    refine ⟨?_, trivial⟩
    intro request hrequest
    cases hrequest
  · apply ((cloud_answers_iff sampleYandexGPT sampleGigaChat).2 _ _ sampleScopedRequest
      "approved" sampleCounts (sample_admits _) sample_gigaChat_answered).mpr
    refine ⟨?_, trivial⟩
    intro request hrequest
    cases hrequest

/-- One reply with the status 429, and the adapter refuses every later call,
whatever the service answers. -/
theorem rate_limit_is_final :
    AdmissibleCall sampleLimits sampleMaterials
        (sampleScopedCall (some sampleScope) sampleYandexGPTMet) sampleScopedRequest ∧
      sampleYandexGPT.Answered sampleYandexGPTMet sampleScopedRequest "approved" sampleCounts ∧
      ∀ later run, (sampleYandexGPT.adapter.run
        (sampleYandexGPT.adapter.after none
          (sampleScopedCall (some sampleScope) ⟨.opened ⟨429, 2, .ok (.dict [])⟩, 0, 1⟩ ::
            later))
        (sampleScopedCall (some sampleScope) sampleYandexGPTMet)).1 ≠ .ok run := by
  refine ⟨sample_admits _, sample_yandexGPT_answered, ?_⟩
  intro later run hrun
  have hlimited : (sampleYandexGPT.adapter.run none
      (sampleScopedCall (some sampleScope) ⟨.opened ⟨429, 2, .ok (.dict [])⟩, 0, 1⟩)).2 =
        some "rate_limited" := by
    rw [sampleYandexGPT.adapter.run_asked rfl (sample_asks _)]
    with_unfolding_all rfl
  have hblocked : sampleYandexGPT.adapter.lastFailureCode (some "rate_limited") =
      some "rate_limited" := rfl
  rw [CloudAdapter.after_cons, hlimited,
    sampleYandexGPT.adapter.after_blocked hblocked] at hrun
  obtain ⟨failure, hrefused⟩ := sampleYandexGPT.adapter.run_blocked hblocked
    (sampleScopedCall (some sampleScope) sampleYandexGPTMet)
  rw [hrefused] at hrun
  cases hrun

end Samples

end ShemaPlatform
