/-
Research at OpenCorporates: the companies of a reply, each of which may be any JSON value,
become claims with the pages they are taken from.
-/
import ShemaPlatform.CloudProviders
import ShemaPlatform.Firsts
import ShemaPlatform.Research
import ShemaPlatform.UrlText

namespace ShemaPlatform

/-- What `research` raises; `other` is what a requester may raise besides. -/
inductive ResearchFailure where
  | valueError (message : String)
  | attributeError
  | timeoutError (message : String)
  | connectionError (message : String)
  | other
deriving DecidableEq

/-- What `OpenCorporatesConfiguration.__post_init__` accepts. -/
structure OpenCorporatesConfiguration where
  timeoutSeconds : ℚ
  maxResponseBytes : ℤ
  maxQueryChars : ℤ
  maxRequestUrlBytes : ℤ
  costPerCall : ℚ
  confidence : ℚ
  bounded : (0 < timeoutSeconds ∧ timeoutSeconds ≤ 30) ∧
    (0 < maxResponseBytes ∧ maxResponseBytes ≤ 4194304) ∧
    (0 < maxQueryChars ∧ maxQueryChars ≤ 4096) ∧
    (0 < maxRequestUrlBytes ∧ maxRequestUrlBytes ≤ 16384)
  priced : 0 ≤ costPerCall ∧ 0 ≤ confidence ∧ confidence ≤ 1

/-- A call of `research`: its arguments, the bytes that the URL of a request takes, the
seconds until the rate limit admits it and those that have then passed. -/
structure ResearchCall where
  query : String
  maxSources : ℤ
  timeoutSeconds : Option ℚ
  urlBytes : String → ℤ → ℤ
  delay : ℚ
  elapsed : ℚ

/-- What a company is observed to be, and where. -/
structure Observation where
  sourceRef : String
  name : String
  jurisdiction : String
  companyNumber : String
  currentStatus : String
deriving DecidableEq

def Observation.claim (observation : Observation) : String :=
  "OpenCorporates company observation: " ++ "name=" ++ observation.name ++
    "; company_number=" ++ observation.companyNumber ++
    "; jurisdiction=" ++ observation.jurisdiction ++
    "; current_status=" ++ observation.currentStatus

namespace OpenCorporates

open UrlText (NetlocChecks urlsplit)

/-- `if not condition: raise failure` -/
def demand (condition : Bool) (failure : ResearchFailure) : Except ResearchFailure Unit :=
  if condition then .ok () else .error failure

/-- The page of a company. -/
def companyUrl (jurisdiction companyNumber : String) : String :=
  "https://opencorporates.com/companies/" ++ jurisdiction ++ "/" ++ companyNumber

/-- The page that the segments of a path lead to. -/
def pageOf : List (List Char) → Option String
  | [first, companies, jurisdiction, companyNumber] =>
      if first ≠ [] ∨ companies ≠ "companies".toList ∨ jurisdiction = [] ∨
          companyNumber = [] then none
      else some (companyUrl (String.ofList jurisdiction) (String.ofList companyNumber))
  | _ => none

section Items

variable (checks : NetlocChecks)

/-- `_canonicalize_provenance_url`; the port is read outside of the `try` block. -/
def canonicalizeProvenanceUrl (sourceRef : String) : Except ResearchFailure (Option String) :=
  match urlsplit checks sourceRef.toList with
  | .error _ => .ok none
  | .ok parsed =>
      if parsed.scheme ≠ "https".toList ∨
          parsed.hostname ≠ some "opencorporates.com".toList then .ok none
      else match parsed.port with
        | .error message => .error (.valueError message)
        | .ok port =>
            if port ≠ none ∨ parsed.query ≠ [] ∨ parsed.fragment ≠ [] then .ok none
            else .ok (pageOf ((parsed.path.rdropWhile (· == '/')).splitOn '/'))

/-- What the segments of a page name. -/
def identityOf : List (List Char) → Option (String × String)
  | [_, companies, jurisdiction, companyNumber] =>
      if companies = "companies".toList then
        some (String.ofList jurisdiction, String.ofList companyNumber)
      else none
  | _ => none

/-- `_provenance_identity` -/
def provenanceIdentity (canonicalSourceRef : String) :
    Except ResearchFailure (Option (String × String)) :=
  match urlsplit checks canonicalSourceRef.toList with
  | .error message => .error (.valueError message)
  | .ok parsed => .ok (identityOf (parsed.path.splitOn '/'))

/-- `_bounded_observation_text` -/
def boundedObservationText (maxChars : ℕ) (default : String) : JsonValue → Option String
  | .null => some default
  | .text value =>
      let cleaned := PyText.strip value
      if cleaned = "" ∨ maxChars < cleaned.length then none else some cleaned
  | _ => none

/-- The observation of a company whose page names its identity. -/
def observationOf (company : JsonValue) (sourceRef : String) (identity : String × String) :
    Option Observation := do
  let name ← boundedObservationText 512 "" (company.get "name")
  let jurisdiction ← boundedObservationText 32 "unknown" (company.get "jurisdiction_code")
  let companyNumber ← boundedObservationText 128 "unknown" (company.get "company_number")
  let currentStatus ← boundedObservationText 64 "unknown" (company.get "current_status")
  if name = "" ∨ (jurisdiction, companyNumber) ≠ identity then none
  else some ⟨sourceRef, name, jurisdiction, companyNumber, currentStatus⟩

/-- The page of a company, when its URL is a text. -/
def sourceRefOf : JsonValue → Except ResearchFailure (Option String)
  | .text sourceRef => canonicalizeProvenanceUrl checks sourceRef
  | _ => .ok none

/-- What the loop makes of an item before it looks for a duplicate. -/
def observe (item : JsonValue) : Except ResearchFailure (Option Observation) :=
  let company := item.get "company"
  if company.isDict = false then .ok none
  else do
    match ← sourceRefOf checks (company.get "opencorporates_url") with
    | none => return none
    | some sourceRef =>
        match ← provenanceIdentity checks sourceRef with
        | none => return none
        | some identity => return observationOf company sourceRef identity

/-- The claims and the pages that have been collected, and the pages that were seen. -/
structure Page where
  claims : List String
  sourceRefs : List String
  seen : List String

def Page.add (page : Page) (observation : Observation) : Page :=
  if observation.sourceRef ∈ page.seen then page
  else ⟨page.claims ++ [observation.claim], page.sourceRefs ++ [observation.sourceRef],
    observation.sourceRef :: page.seen⟩

/-- The loop over the companies. -/
def collect : List JsonValue → Page → Except ResearchFailure Page
  | [], page => .ok page
  | item :: rest, page => do
      let observed ← observe checks item
      collect rest (observed.elim page page.add)

end Items

/-- `value.get(name, default)` -/
def field (name : String) (default : JsonValue) : JsonValue → Except ResearchFailure JsonValue
  | .dict fields => .ok ((fields.lookup name).getD default)
  | _ => .error .attributeError

/-- The companies of a body. -/
def companiesOf (payload : JsonValue) : Except ResearchFailure (List JsonValue) := do
  match ← field "companies" (.list []) (← field "results" (.dict []) payload) with
  | .list companies => return companies
  | _ => .error (.valueError "OpenCorporates response has invalid companies payload")

/-- `json.loads` of the body; only a `JSONDecodeError` is caught. -/
def loadBody (reply : Reply) : Except ResearchFailure JsonValue :=
  match reply.loaded with
  | .ok payload => .ok payload
  | .error .decode => .error (.valueError "OpenCorporates returned invalid JSON")
  | .error .other => .error .other

theorem result_valid (configuration : OpenCorporatesConfiguration)
    {claims sourceRefs : List String} (hrefs : ∀ ref ∈ sourceRefs, PyText.blank ref = false)
    (hclaims : claims ≠ [] → sourceRefs ≠ []) :
    PyText.blank "opencorporates" = false ∧
      PyText.blank "corporate_registry_aggregator" = false ∧
      (0 ≤ configuration.confidence ∧ configuration.confidence ≤ 1) ∧
      (0 ≤ configuration.costPerCall ∧ 0 ≤ configuration.timeoutSeconds ∧ (0 : ℤ) ≤ 0) ∧
      (∀ ref ∈ sourceRefs, PyText.blank ref = false) ∧ (claims ≠ [] → sourceRefs ≠ []) := by
  have hnamed : PyText.blank "opencorporates" = false ∧
      PyText.blank "corporate_registry_aggregator" = false := by
    decide
  have hmetrics : 0 ≤ configuration.costPerCall ∧ 0 ≤ configuration.timeoutSeconds ∧
      (0 : ℤ) ≤ 0 :=
    ⟨configuration.priced.1, configuration.bounded.1.1.le, le_refl 0⟩
  exact ⟨hnamed.1, hnamed.2, configuration.priced.2, hmetrics, hrefs, hclaims⟩

/-- The result that is built of a page, with the checks that its lists may fail. -/
def resultOf (configuration : OpenCorporatesConfiguration) (page : Page) :
    Except ResearchFailure ProviderResult :=
  let sourceRefs := Firsts.firstsBy id [] page.sourceRefs
  if hrefs : ∀ ref ∈ sourceRefs, PyText.blank ref = false then
    if hclaims : page.claims ≠ [] → sourceRefs ≠ [] then
      .ok {
        providerId := "opencorporates"
        sourceClass := "corporate_registry_aggregator"
        claims := page.claims
        sourceRefs := sourceRefs
        confidence := configuration.confidence
        cost := configuration.costPerCall
        latencySeconds := configuration.timeoutSeconds
        tokens := 0
        valid := result_valid configuration hrefs hclaims }
    else .error (.valueError "claims require at least one source reference")
  else .error (.valueError "source references cannot be empty")

/-- What `research` checks of its arguments; it returns how long the call may take. -/
def boundedTimeout (configuration : OpenCorporatesConfiguration) (call : ResearchCall) :
    Except ResearchFailure ℚ := do
  let query := PyText.strip call.query
  demand (query != "") (.valueError "OpenCorporates query is required")
  demand (decide (query.length ≤ configuration.maxQueryChars))
    (.valueError "OpenCorporates query exceeds configured max_query_chars")
  demand (decide (0 < call.maxSources)) (.valueError "max_sources must be positive")
  demand (decide (call.urlBytes query (min call.maxSources 50) ≤ configuration.maxRequestUrlBytes))
    (.valueError "OpenCorporates request URL exceeds configured max_request_url_bytes")
  demand (call.timeoutSeconds.all fun timeout => decide (0 < timeout))
    (.valueError "timeout_seconds override must be positive")
  let timeout := call.timeoutSeconds.elim configuration.timeoutSeconds
    (min configuration.timeoutSeconds)
  demand (decide (call.delay ≤ 0 ∨ call.delay < timeout)) (.timeoutError
    "OpenCorporates execution deadline would expire during rate-limit wait")
  demand (decide (0 < timeout - call.elapsed)) (.timeoutError
    "OpenCorporates execution deadline expired before external I/O")
  return timeout - call.elapsed

/-- What `research` makes of a reply. -/
def readReply (checks : NetlocChecks) (configuration : OpenCorporatesConfiguration)
    (maxSources : ℤ) (reply : Reply) : Except ResearchFailure ProviderResult := do
  demand (decide (reply.size ≤ configuration.maxResponseBytes))
    (.valueError "OpenCorporates response exceeds configured max_response_bytes")
  demand (reply.status == 200)
    (.connectionError s!"OpenCorporates request failed with HTTP {reply.status}")
  let payload ← loadBody reply
  let companies ← companiesOf payload
  let page ← collect checks (companies.take (min maxSources 50).toNat) ⟨[], [], []⟩
  resultOf configuration page

/-- `OpenCorporatesProvider.research`; the requester is given the time that is left. -/
def research (checks : NetlocChecks) (configuration : OpenCorporatesConfiguration)
    (requester : ℚ → Except ResearchFailure Reply) (call : ResearchCall) :
    Except ResearchFailure ProviderResult := do
  let timeout ← boundedTimeout configuration call
  let reply ← requester timeout
  readReply checks configuration call.maxSources reply

end OpenCorporates

end ShemaPlatform
