/-
Which replies of DaData are classified: the requester bounds a body with an exception of its
own, and the provider catches one of the exceptions that reading and decoding may raise.
-/
import ShemaPlatform.DaDataLookup

namespace ShemaPlatform

namespace DaData

variable {α β : Type} {str : JsonValue → String}

/-- A value, or an error of the provider that is not retried. -/
def Settled (answer : Except LookupFailure α) : Prop :=
  (∃ value, answer = .ok value) ∨
    ∃ error, answer = .error (.provider error) ∧ error.retryable = false

@[simp] theorem settled_ok (value : α) : Settled (.ok value) := Or.inl ⟨value, rfl⟩

theorem settled_error {failure : LookupFailure} : Settled (.error failure : Except _ α) ↔
    ∃ error, failure = .provider error ∧ error.retryable = false := by
  simp [Settled]

theorem settled_provider {error : CounterpartyLookupProviderError}
    (h : error.retryable = false) : Settled (.error (.provider error) : Except _ α) :=
  settled_error.mpr ⟨error, rfl, h⟩

@[simp] theorem not_settled_other (failure : Failure) :
    ¬ Settled (.error (.other failure) : Except LookupFailure α) := by
  rw [settled_error]
  rintro ⟨error, herror, _⟩
  cases herror

theorem settled_bind {first : Except LookupFailure α} {rest : α → Except LookupFailure β} :
    Settled (first >>= rest) ↔
      Settled first ∧ ∀ value, first = .ok value → Settled (rest value) := by
  cases first with
  | ok value => simp [bind, Except.bind]
  | error failure => simp [bind, Except.bind, settled_error]

theorem demand_eq_ok {condition : Bool} {failure : LookupFailure} {result : Unit} :
    demand condition failure = .ok result ↔ condition = true := by
  cases condition with
  | true => simp [demand]
  | false => simp [demand]

theorem settled_malformed (message : String) :
    Settled (.error (malformed message) : Except LookupFailure α) :=
  settled_provider rfl

theorem settled_demand_malformed (condition : Bool) (message : String) :
    Settled (demand condition (malformed message)) := by
  cases condition with
  | true => exact settled_ok ()
  | false => exact settled_malformed message

/-- A number of the company is given. -/
def Numbered (str : JsonValue → String) (data : JsonValue) : Prop :=
  (strippedText str (data.get "inn")).getD "" ≠ "" ∨
    (strippedText str (data.get "ogrn")).getD "" ≠ ""

theorem settled_record {name : String} {hname : PyText.blank name = false} {data : JsonValue} :
    Settled (record str name hname data) ↔ Numbered str data := by
  unfold record
  dsimp only
  split
  · rename_i hnumbered
    exact iff_of_true (settled_ok _) hnumbered
  · rename_i hnumbered
    exact iff_of_false (not_settled_other _) hnumbered

/-- A suggestion whose company has a name has a number, too. -/
def Identified (str : JsonValue → String) (suggestion : JsonValue) : Prop :=
  suggestion.isDict = true → (suggestion.get "data").isDict = true →
    ∀ name, (canonicalName suggestion (suggestion.get "data")).asText = some name →
      PyText.blank name = false → Numbered str (suggestion.get "data")

theorem settled_decodeSuggestion {suggestion : JsonValue} :
    Settled (decodeSuggestion str suggestion) ↔ Identified str suggestion := by
  simp only [decodeSuggestion, settled_bind, settled_demand_malformed, true_and, demand_eq_ok,
    Identified]
  constructor
  · intro h hsuggestion hdata name hname hnamed
    have hsettled := h () hsuggestion () hdata
    rw [hname] at hsettled
    simp only [hnamed, dite_true] at hsettled
    exact settled_record.mp hsettled
  · intro h _ hsuggestion _ hdata
    cases hname : (canonicalName suggestion (suggestion.get "data")).asText with
    | none => exact settled_malformed _
    | some name =>
        by_cases hnamed : PyText.blank name = false
        · simp only [hnamed, dite_true]
          exact settled_record.mpr (h hsuggestion hdata name hname hnamed)
        · simp only [hnamed]
          exact settled_malformed _

theorem settled_firstOf (suggestions : JsonValue) : Settled (firstOf suggestions) := by
  unfold firstOf
  split
  · exact settled_error.mpr ⟨_, rfl, rfl⟩
  · exact settled_ok _
  · exact settled_malformed _

theorem firstOf_eq_ok {suggestions suggestion : JsonValue} :
    firstOf suggestions = .ok suggestion ↔
      ∃ others, suggestions = .list (suggestion :: others) := by
  unfold firstOf
  split
  · simp
  · simp
  · rename_i hother
    constructor
    · intro h
      cases h
    · rintro ⟨others, hothers⟩
      exact absurd hothers (hother suggestion others)

theorem settled_firstSuggestion {body : JsonValue} :
    Settled (firstSuggestion body) ↔ body.isDict = true := by
  simp only [firstSuggestion, settled_bind, settled_firstOf, implies_true, and_true]
  cases body.isDict with
  | true => exact iff_of_true (settled_ok ()) rfl
  | false => exact iff_of_false (not_settled_other _) Bool.false_ne_true

theorem firstSuggestion_eq_ok {body suggestion : JsonValue} :
    firstSuggestion body = .ok suggestion ↔ body.isDict = true ∧
      ∃ others, body.get "suggestions" = .list (suggestion :: others) := by
  rw [firstSuggestion]
  cases body.isDict with
  | true =>
      rw [← firstOf_eq_ok]
      exact (and_iff_right rfl).symm
  | false =>
      constructor
      · intro h
        cases h
      · intro h
        cases h.1

theorem settled_loadBody {reply : Reply} :
    Settled (loadBody reply) ↔ reply.loaded ≠ .error .other := by
  unfold loadBody
  cases reply.loaded with
  | ok value => simp
  | error failure =>
      cases failure with
      | decode => exact iff_of_true (settled_malformed _) (by simp)
      | other => simp

theorem loadBody_eq_ok {reply : Reply} {body : JsonValue} :
    loadBody reply = .ok body ↔ reply.loaded = .ok body := by
  unfold loadBody
  cases reply.loaded with
  | ok value => simp
  | error failure => cases failure <;> simp

/-- A body that is read to an object, or is no JSON, and whose first suggestion has a number
with its name. -/
structure Readable (str : JsonValue → String) (reply : Reply) : Prop where
  loads : reply.loaded ≠ .error .other
  object : ∀ body, reply.loaded = .ok body → body.isDict = true
  identified : ∀ body suggestion others, reply.loaded = .ok body →
    body.get "suggestions" = .list (suggestion :: others) → Identified str suggestion

/-- What `lookup` makes of a body within its bound and of status 200. -/
def decodeReply (str : JsonValue → String) (reply : Reply) :
    Except LookupFailure CounterpartyProviderRecord := do
  let body ← loadBody reply
  let suggestion ← firstSuggestion body
  decodeSuggestion str suggestion

/-- What `lookup` makes of a reply that the requester returns. -/
def checkReply (str : JsonValue → String) (maxResponseBytes : ℤ) (reply : Reply) :
    Except LookupFailure CounterpartyProviderRecord := do
  demand (decide (reply.size ≤ maxResponseBytes)) (.provider
    ⟨"RESPONSE_TOO_LARGE", "DaData response exceeds configured max_response_bytes", false⟩)
  checkStatus reply.status
  decodeReply str reply

theorem settled_decodeReply {reply : Reply} :
    Settled (decodeReply str reply) ↔ Readable str reply := by
  simp only [decodeReply, settled_bind, settled_loadBody, loadBody_eq_ok,
    settled_firstSuggestion, firstSuggestion_eq_ok, settled_decodeSuggestion]
  constructor
  · intro h
    constructor
    · exact h.1
    · intro body hbody
      exact (h.2 body hbody).1
    · intro body suggestion others hbody hothers
      have hobject := h.2 body hbody
      exact hobject.2 suggestion ⟨hobject.1, others, hothers⟩
  · intro h
    constructor
    · exact h.loads
    · intro body hbody
      constructor
      · exact h.object body hbody
      · rintro suggestion ⟨_, others, hothers⟩
        exact h.identified body suggestion others hbody hothers

/-- The transport failed, or the body is within its bound and the status says so. -/
def Transient (maxResponseBytes : ℤ) : HttpOutcome → Prop
  | .answered reply =>
      reply.size ≤ maxResponseBytes ∧ (reply.status = 429 ∨ 500 ≤ reply.status)
  | _ => True

/-- A record, or an error of the provider that is retried when it should be. -/
def Classified (maxResponseBytes : ℤ) (outcome : HttpOutcome)
    (answer : Except LookupFailure CounterpartyProviderRecord) : Prop :=
  (∃ record, answer = .ok record) ∨ ∃ error, answer = .error (.provider error) ∧
    (error.retryable = true ↔ Transient maxResponseBytes outcome)

/-- What the provider can classify. -/
def Classifiable (str : JsonValue → String) (maxResponseBytes : ℤ) : HttpOutcome → Prop
  | .answered reply =>
      reply.size ≤ maxResponseBytes ∧ (reply.status = 200 → Readable str reply)
  | .raised _ => False
  | _ => True

theorem checkStatus_cases (status : ℤ) :
    (status = 200 ∧ checkStatus status = .ok ()) ∨
      (status ≠ 200 ∧ ∃ error, checkStatus status = .error (.provider error) ∧
        (error.retryable = true ↔ status = 429 ∨ 500 ≤ status)) := by
  unfold checkStatus
  cases hmap : errorMap.lookup status with
  | some entry =>
      right
      obtain ⟨before, rest, hsplit, _⟩ := List.lookup_eq_some_iff.mp hmap
      have hmem : (status, entry) ∈ errorMap := by
        rw [hsplit]
        exact List.mem_append_right _ List.mem_cons_self
      simp only [errorMap, List.mem_cons, Prod.mk.injEq, List.not_mem_nil, or_false] at hmem
      rcases hmem with ⟨rfl, rfl⟩ | ⟨rfl, rfl⟩ | ⟨rfl, rfl⟩ | ⟨rfl, rfl⟩ | ⟨rfl, rfl⟩ | ⟨rfl, rfl⟩
      all_goals exact ⟨by decide, _, rfl, by decide⟩
  | none =>
      have hlimit : status ≠ 429 := by
        rintro rfl
        cases hmap
      simp only
      by_cases hserver : 500 ≤ status
      · right
        rw [if_pos hserver]
        exact ⟨by omega, _, rfl, iff_of_true rfl (Or.inr hserver)⟩
      · rw [if_neg hserver]
        by_cases hfine : status = 200
        · left
          rw [if_neg (not_not.mpr hfine)]
          exact ⟨hfine, rfl⟩
        · right
          rw [if_pos hfine]
          refine ⟨hfine, _, rfl, iff_of_false Bool.false_ne_true ?_⟩
          omega

/-- Every exchange ends with a record or a classified error exactly when a reply has a body
within the bound that is readable where it is decoded, and no other exception is raised. -/
theorem lookup_classified_iff (str : JsonValue → String) (configuration : DaDataConfiguration)
    (query : CounterpartyLookupQuery) (http : Payload → HttpOutcome)
    (henabled : configuration.enabled = true)
    (hkey : PyText.blank configuration.apiKey = false) :
    Classified configuration.maxResponseBytes (http (payload query))
        (lookup str configuration query http) ↔
      Classifiable str configuration.maxResponseBytes (http (payload query)) := by
  have hlookup : lookup str configuration query http =
      requestJson configuration.maxResponseBytes (http (payload query)) >>=
        checkReply str configuration.maxResponseBytes := by
    rw [lookup, henabled, hkey]
    rfl
  rw [hlookup]
  cases http (payload query) with
  | raised failure =>
      apply iff_of_false
      · rintro (⟨record, hrecord⟩ | ⟨error, herror, _⟩)
        · cases hrecord
        · cases herror
      · exact id
  | timedOut => exact iff_of_true (Or.inr ⟨_, rfl, iff_of_true rfl trivial⟩) trivial
  | unreachable => exact iff_of_true (Or.inr ⟨_, rfl, iff_of_true rfl trivial⟩) trivial
  | answered reply =>
      by_cases hsize : reply.size ≤ configuration.maxResponseBytes
      · have hbound : decide (reply.size ≤ configuration.maxResponseBytes) = true :=
          decide_eq_true hsize
        have hanswer : (requestJson configuration.maxResponseBytes (.answered reply) >>=
            checkReply str configuration.maxResponseBytes) =
              (checkStatus reply.status >>= fun _ => decodeReply str reply) := by
          rw [requestJson, hbound]
          change checkReply str configuration.maxResponseBytes reply = _
          rw [checkReply, hbound]
          rfl
        have hclassifiable : Classifiable str configuration.maxResponseBytes
            (.answered reply) ↔ (reply.status = 200 → Readable str reply) :=
          and_iff_right hsize
        rw [hanswer, hclassifiable]
        rcases checkStatus_cases reply.status with
          ⟨hfine, hstatus⟩ | ⟨hbad, error, hstatus, hretry⟩
        · -- the errors of a reply of status 200 must not be retried
          have hlasting : ¬ Transient configuration.maxResponseBytes (.answered reply) := by
            rintro ⟨_, hlimit | hserver⟩
            · omega
            · omega
          rw [hstatus]
          change Classified _ _ (decodeReply str reply) ↔ _
          simp only [hfine, true_imp_iff, ← settled_decodeReply, Classified, Settled, hlasting,
            iff_false, Bool.not_eq_true]
        · rw [hstatus]
          apply iff_of_true
          · right
            use error
            constructor
            · rfl
            · rw [hretry, Transient, and_iff_right hsize]
          · exact fun hfine => absurd hfine hbad
      · apply iff_of_false
        · have hlarge : requestJson configuration.maxResponseBytes (.answered reply) = .error
              (.other (.valueError "DaData response exceeds configured max_response_bytes")) := by
            rw [requestJson, decide_eq_false hsize]
            rfl
          rw [hlarge]
          rintro (⟨record, hrecord⟩ | ⟨error, herror, _⟩)
          · cases hrecord
          · cases herror
        · exact fun h => hsize h.1

/-- An enabled configuration. -/
def enabledConfiguration : DaDataConfiguration where
  apiKey := "key"
  endpoint := "https://suggestions.dadata.ru/suggestions/api/4_1/rs/findById/party"
  timeoutSeconds := 10
  maxResponseBytes := 262144
  enabled := true
  minConnectionIntervalSeconds := 1 / 20

theorem innQuery_valid :
    counterpartyLookupQuery .inn "7707083893" = .ok "7707083893" := by
  decide

def innQuery : CounterpartyLookupQuery := ⟨.inn, "7707083893", innQuery_valid⟩

theorem enabledConfiguration_key : PyText.blank enabledConfiguration.apiKey = false := by
  decide

/-- A body that is no JSON is a classified error. -/
theorem lookup_classified_iff_no_json :
    Classified 262144 (.answered ⟨200, 12, .error .decode⟩)
      (lookup (fun _ => "") enabledConfiguration innQuery
        fun _ => .answered ⟨200, 12, .error .decode⟩) := by
  apply (lookup_classified_iff (fun _ => "") enabledConfiguration innQuery
    (fun _ => .answered ⟨200, 12, .error .decode⟩) rfl enabledConfiguration_key).mpr
  constructor
  · exact Int.le.intro 262132 rfl
  · intro _
    constructor
    · intro h
      cases h
    · intro body hbody
      cases hbody
    · intro body suggestion others hbody
      cases hbody

/-- A reply of status 200 whose body is an empty array raises an `AttributeError`. -/
theorem array_body_not_classified :
    ¬ ∀ (str : JsonValue → String) (configuration : DaDataConfiguration)
      (query : CounterpartyLookupQuery) (http : Payload → HttpOutcome),
      configuration.enabled = true → PyText.blank configuration.apiKey = false →
        (∀ failure, http (payload query) ≠ .raised failure) →
          Classified configuration.maxResponseBytes (http (payload query))
            (lookup str configuration query http) := by
  intro h
  have hanswer := h (fun _ => "") enabledConfiguration innQuery
    (fun _ => .answered ⟨200, 2, .ok (.list [])⟩) rfl enabledConfiguration_key
    (fun failure hfailure => by cases hfailure)
  rcases hanswer with ⟨record, hrecord⟩ | ⟨error, herror, _⟩
  · cases hrecord
  · cases herror

end DaData

end ShemaPlatform
