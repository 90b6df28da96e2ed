/-
The DaData lookup: what the built-in requester makes of an exchange, and what the provider
makes of a reply whose body may be anything.
-/
import ShemaPlatform.DaDataActivation
import ShemaPlatform.ProviderEvidence

namespace ShemaPlatform

/-- How one request of DaData ends: `secure_urlopen` returns or raises an `HTTPError`, with
a reply, or it raises a `TimeoutError`, an `URLError` or a `ConnectionError`, or something
else. -/
inductive HttpOutcome where
  | answered (reply : Reply)
  | timedOut
  | unreachable
  | raised (failure : Failure)

structure CounterpartyLookupProviderError where
  code : String
  message : String
  retryable : Bool := false
deriving DecidableEq

/-- What a lookup raises. -/
inductive LookupFailure where
  | provider (error : CounterpartyLookupProviderError)
  | other (failure : Failure)
deriving DecidableEq

namespace DaData

/-- `if not condition: raise error` -/
def demand (condition : Bool) (error : LookupFailure) : Except LookupFailure Unit :=
  if condition then .ok () else .error error

def malformed (message : String) : LookupFailure :=
  .provider ⟨"MALFORMED_PROVIDER_PAYLOAD", message, false⟩

/-- The payload of a request. -/
def payload (query : CounterpartyLookupQuery) : Payload :=
  [("query", .text query.identifier), ("count", .number 1)] ++
    if query.identifierType = .ogrnip then [("type", .text "INDIVIDUAL")] else []

/-- `_request_json` and the `try` block around it. -/
def requestJson (maxResponseBytes : ℤ) : HttpOutcome → Except LookupFailure Reply
  | .answered reply => do
      demand (decide (reply.size ≤ maxResponseBytes))
        (.other (.valueError "DaData response exceeds configured max_response_bytes"))
      return reply
  | .timedOut =>
      .error (.provider ⟨"TRANSPORT_TIMEOUT", "DaData request timed out", true⟩)
  | .unreachable => .error (.provider ⟨"TRANSPORT_ERROR", "DaData transport failed", true⟩)
  | .raised failure => .error (.other failure)

def errorMap : List (ℤ × String × Bool) :=
  [(400, "INVALID_REQUEST", false), (401, "MISSING_OR_INVALID_API_KEY", false),
    (403, "ACCOUNT_OR_QUOTA_FORBIDDEN", false), (405, "METHOD_NOT_ALLOWED", false),
    (413, "REQUEST_TOO_LARGE", false), (429, "PROVIDER_RATE_LIMIT", true)]

def checkStatus (status : ℤ) : Except LookupFailure Unit :=
  match errorMap.lookup status with
  | some (code, retryable) =>
      .error (.provider ⟨code, s!"DaData returned HTTP {status}", retryable⟩)
  | none =>
      if 500 ≤ status then .error (.provider
        ⟨"PROVIDER_INTERNAL_ERROR", s!"DaData returned HTTP {status}", true⟩)
      else if status ≠ 200 then .error (.provider
        ⟨"UNEXPECTED_HTTP_STATUS", s!"DaData returned HTTP {status}", false⟩)
      else .ok ()

/-- `json.loads` of the body; only a `JSONDecodeError` is caught. -/
def loadBody (reply : Reply) : Except LookupFailure JsonValue :=
  match reply.loaded with
  | .ok value => .ok value
  | .error .decode => .error (malformed "DaData returned invalid JSON")
  | .error .other => .error (.other (.valueError "DaData body cannot be read"))

/-- The first of the suggestions. -/
def firstOf : JsonValue → Except LookupFailure JsonValue
  | .list [] =>
      .error (.provider ⟨"NOT_FOUND", "DaData returned no matching organization", false⟩)
  | .list (suggestion :: _) => .ok suggestion
  | _ => .error (malformed "DaData response has no valid suggestions array")

/-- What has no `get` raises an `AttributeError`. -/
def firstSuggestion (body : JsonValue) : Except LookupFailure JsonValue := do
  demand body.isDict (.other (.runtimeError "object has no attribute 'get'"))
  firstOf (body.get "suggestions")

/-- `a or b or c` -/
def firstTruthy (values : List JsonValue) : JsonValue :=
  (values.find? JsonValue.truthy).getD (values.getLastD .null)

/-- What a suggestion calls the company. -/
def canonicalName (suggestion data : JsonValue) : JsonValue :=
  firstTruthy [(data.get "name").get "full_with_opf", suggestion.get "unrestricted_value",
    suggestion.get "value"]

variable (str : JsonValue → String)

/-- `str(value).strip() if value else None`; `str` of a value that is no text is left
open. -/
def strippedText (value : JsonValue) : Option String :=
  if value.truthy then some (PyText.strip (value.asText.getD (str value))) else none

theorem source_valid : PyText.blank "dadata_organization_api" = false ∧
    PyText.startsWith "https://dadata.ru/api/find-party/" "https://" = true := by
  decide

/-- The record that a suggestion with a name is taken for. -/
def record (name : String) (hname : PyText.blank name = false) (data : JsonValue) :
    Except LookupFailure CounterpartyProviderRecord :=
  let taxId := strippedText str (data.get "inn")
  let registrationId := strippedText str (data.get "ogrn")
  if hidentified : taxId.getD "" ≠ "" ∨ registrationId.getD "" ≠ "" then
    .ok {
      providerId := "dadata_organization_api"
      sourceRef := "https://dadata.ru/api/find-party/"
      canonicalName := PyText.strip name
      taxId := taxId
      registrationId := registrationId
      legalStatus := strippedText str ((data.get "state").get "status")
      observedAtMs := ((data.get "state").get "actuality_date").asInt
      named := ⟨source_valid.1, source_valid.2, (PyText.blank_strip name).trans hname⟩
      identified := hidentified }
  else .error (.other (.valueError "tax_id or registration_id is required"))

/-- What a suggestion is decoded to. -/
def decodeSuggestion (suggestion : JsonValue) :
    Except LookupFailure CounterpartyProviderRecord := do
  demand suggestion.isDict (malformed "DaData suggestion item is invalid")
  let data := suggestion.get "data"
  demand data.isDict (malformed "DaData suggestion data object is invalid")
  match (canonicalName suggestion data).asText with
  | some name =>
      if hname : PyText.blank name = false then record str name hname data
      else .error (malformed "DaData response does not contain a company name")
  | none => .error (malformed "DaData response does not contain a company name")

/-- `DaDataCounterpartyLookupProvider.lookup` with the built-in requester. -/
def lookup (configuration : DaDataConfiguration) (query : CounterpartyLookupQuery)
    (http : Payload → HttpOutcome) : Except LookupFailure CounterpartyProviderRecord := do
  demand configuration.enabled (.provider
    ⟨"PROVIDER_DISABLED", "DaData execution is disabled by configuration", false⟩)
  demand (!PyText.blank configuration.apiKey)
    (.provider ⟨"MISSING_API_KEY", "DaData API key is missing", false⟩)
  let reply ← requestJson configuration.maxResponseBytes (http (payload query))
  demand (decide (reply.size ≤ configuration.maxResponseBytes)) (.provider
    ⟨"RESPONSE_TOO_LARGE", "DaData response exceeds configured max_response_bytes", false⟩)
  checkStatus reply.status
  let body ← loadBody reply
  let suggestion ← firstSuggestion body
  decodeSuggestion str suggestion

end DaData

end ShemaPlatform
