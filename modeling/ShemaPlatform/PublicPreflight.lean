/-
The preflight of a public request: which company it names, what the registry
says of it, and the snapshot that is made of both.
-/
import ShemaPlatform.Identifiers
import ShemaPlatform.Jobs
import ShemaPlatform.PublicIntake

namespace ShemaPlatform

open Calendar

/-- What the registry says of a company, as its constructor accepts it. -/
structure CounterpartyProviderRecord where
  providerId : String
  sourceRef : String
  canonicalName : String
  taxId : Option String
  registrationId : Option String
  legalStatus : Option String
  observedAtMs : Option ℤ := none
  named : PyText.blank providerId = false ∧ PyText.startsWith sourceRef "https://" = true ∧
    PyText.blank canonicalName = false
  identified : taxId.getD "" ≠ "" ∨ registrationId.getD "" ≠ ""
deriving DecidableEq

/-- What a lookup raises: an error of the provider, one of the network, or any
other one. -/
inductive LookupError where
  | provider (code : String) (retryable : Bool)
  | timeout
  | connection
  | other (error : Failure)
deriving DecidableEq

/-- Whether an attempt that raised is the last one. -/
def LookupError.final (last : Bool) : LookupError → Bool
  | .provider _ retryable => !retryable || last
  | .timeout => last
  | .connection => last
  | .other _ => true

abbrev LookupAnswer := Except LookupError CounterpartyProviderRecord

/-- `BoundedCounterpartyLookup.lookup` with so many attempts left, given what the
provider answers to each. -/
def boundedLookup (answer : ℕ → LookupAnswer) (attempt : ℕ) : ℕ → LookupAnswer
  | 0 => .error (.other (.runtimeError "counterparty lookup exhausted retry budget"))
  | left + 1 =>
      match answer attempt with
      | .ok record => .ok record
      | .error error =>
          if error.final (decide (left = 0)) then .error error
          else boundedLookup answer (attempt + 1) left

/-- `CounterpartyLookupQuery`, with its checks. -/
def counterpartyLookupQuery (identifierType : CounterpartyLookupIdentifierType)
    (identifier : String) : Except Failure String := do
  let normalized := PyText.strip identifier
  let lengths := match identifierType with
    | .inn => [10, 12]
    | .ogrn => [13]
    | .ogrnip => [15]
  require (normalized.toList.all PyText.isDigit && !normalized.toList.isEmpty)
    (.valueError "counterparty identifier must contain digits only")
  require (lengths.contains normalized.toList.length)
    (.valueError s!"{identifierType.value} has invalid length")
  return normalized

/-- What a lookup provider says of itself. -/
structure LookupProvider where
  providerId : String
  sourceVersion : String
  sourceAuthority : String
deriving DecidableEq

/-- A company whose registry record is to be looked up. -/
structure PreflightLookup where
  identifierType : CounterpartyLookupIdentifierType
  identifier : String
  cacheKey : String
deriving DecidableEq

structure PublicCounterpartyPreflightService where
  provider : Option LookupProvider
  cacheTtlSeconds : ℤ
  operatorReuseSeconds : ℤ
  valid : 1 ≤ cacheTtlSeconds ∧ cacheTtlSeconds ≤ operatorReuseSeconds

namespace PublicPreflight

/-- `_digits` -/
def digits (value : Option String) : String :=
  String.ofList ((value.getD "").toList.filter PyText.isDigit)

/-- `re.sub(r"[^0-9а-яa-z]+", "", (value or "").lower())` -/
def normalizeName (value : String) : String :=
  String.ofList ((PyText.lower value).toList.filter fun c =>
    ('0' ≤ c && c ≤ '9') || ('а' ≤ c && c ≤ 'я') || ('a' ≤ c && c ≤ 'z'))

/-- `_resolve_identifier` -/
def resolveIdentifier (payload : PublicIntakePayload) :
    Option (CounterpartyLookupIdentifierType × String) :=
  let inn := digits payload.inn
  let registration := digits payload.ogrnOrOgrnip
  if inn ≠ "" then some (.inn, inn)
  else if registration ≠ "" then
    some (if registration.toList.length = 15 then .ogrnip else .ogrn, registration)
  else none

/-- `_snapshot` of a run that asked nobody. -/
def unchecked (requestId : String) (now : Instant)
    (company : Option (CounterpartyLookupIdentifierType × String))
    (decision : PreflightDecision) (flag : String) (errorCode : Option String) :
    CounterpartyPreflightSnapshot where
  snapshotId := s!"preflight:{requestId}"
  identifierType := company.map fun company => company.1.value
  normalizedIdentifier := company.map Prod.snd
  decision := decision
  identityMatch := .notChecked
  canonicalName := none
  legalStatus := none
  sourceRef := none
  providerId := none
  observedAt := now
  expiresAt := now + seconds 900
  flags := [flag]
  errorCode := errorCode

/-- `getattr(exc, "code", …)` of what the run catches; anything else escapes. -/
def errorCode : LookupError → Except Failure String
  | .provider code _ => .ok code
  | .timeout => .ok "UNKNOWN_PROVIDER_UNAVAILABLE"
  | .connection => .ok "UNKNOWN_PROVIDER_UNAVAILABLE"
  | .other error => .error error

/-- How the name that was given compares with the one on record. -/
def identityMatch (companyName : Option String) (canonicalName : String) : IdentityMatch :=
  let supplied := companyName.getD ""
  if supplied = "" then .notChecked
  else if normalizeName supplied = normalizeName canonicalName then .matched
  else .nameMismatch

def normalizedStatus (legalStatus : Option String) : String :=
  PyText.lower (PyText.strip (legalStatus.getD ""))

def blockingStatuses : List String := ["liquidated", "terminated", "not_registered"]

/-- The decision on a record, with the flag it adds. -/
def decision (status : String) (identity : IdentityMatch) :
    PreflightDecision × List String :=
  if status ∈ blockingStatuses then (.blockingFact, ["ENTITY_STATUS_BLOCKING"])
  else if "reorgan".toList <:+: status.toList then (.attention, ["REORGANIZATION_SIGNAL"])
  else if identity = .nameMismatch then (.conflicting, [])
  else (.normal, [])

/-- `datetime.fromtimestamp(observed_at_ms / 1000, tz=UTC)`, which knows the years
from 1 to 9999. -/
def fromTimestampMs (observedAtMs : ℤ) : Option Instant :=
  if -62135596800000 ≤ observedAtMs ∧ observedAtMs < 253402300800000 then
    some (observedAtMs * 1000)
  else none

/-- The snapshot of a record that was found. -/
def assess (service : PublicCounterpartyPreflightService) (companyName : Option String)
    (requestId : String) (now : Instant) (lookup : PreflightLookup)
    (record : CounterpartyProviderRecord) : CounterpartyPreflightSnapshot :=
  let identity := identityMatch companyName record.canonicalName
  let decided := decision (normalizedStatus record.legalStatus) identity
  let observed := record.observedAtMs.map fromTimestampMs
  { snapshotId := s!"preflight:{requestId}"
    identifierType := some lookup.identifierType.value
    normalizedIdentifier := some lookup.identifier
    decision := decided.1
    identityMatch := identity
    canonicalName := some record.canonicalName
    legalStatus := record.legalStatus
    sourceRef := some record.sourceRef
    providerId := some record.providerId
    observedAt := (observed.getD none).getD now
    expiresAt := now + seconds service.operatorReuseSeconds
    flags := (if identity = .nameMismatch then ["LEGAL_NAME_MISMATCH"] else []) ++
      decided.2 ++ (if observed = some none then ["INVALID_PROVIDER_TIMESTAMP"] else [])
    errorCode := none }

/-- `run` up to the cache: a snapshot without a lookup, or what to look up. -/
def begin (service : PublicCounterpartyPreflightService) (payload : PublicIntakePayload)
    (requestId : String) (now : Instant) :
    Except Failure (CounterpartyPreflightSnapshot ⊕ PreflightLookup) :=
  match resolveIdentifier payload with
  | none => .ok (.inl (unchecked requestId now none .unknown "IDENTIFIER_NOT_PROVIDED" none))
  | some company => do
      let valid ← checksumValid company.1 company.2
      if !valid then
        return .inl (unchecked requestId now (some company) .blockingFact
          "INVALID_IDENTIFIER_CHECKSUM" (some "INVALID_IDENTIFIER"))
      match service.provider with
      | none => return .inl (unchecked requestId now (some company) .unknown
          "PROVIDER_UNAVAILABLE" (some "UNKNOWN_PROVIDER_UNAVAILABLE"))
      | some provider =>
          let providerId := PyText.strip provider.providerId
          let sourceVersion := PyText.strip provider.sourceVersion
          if PyText.strip provider.sourceAuthority ≠ "official_registry" ∨ providerId = "" ∨
              sourceVersion = "" then
            return .inl (unchecked requestId now (some company) .unknown
              "NON_AUTHORITATIVE_PROVIDER" (some "NON_AUTHORITATIVE_PROVIDER"))
          else
            return .inr ⟨company.1, company.2,
              s!"preflight:v2:{providerId}:{sourceVersion}:{company.1.value}:{company.2}"⟩

/-- The lookup of a run that found nothing in the cache, with at most two attempts;
the snapshot is one of a record if there is one. -/
def ask (service : PublicCounterpartyPreflightService) (companyName : Option String)
    (requestId : String) (now : Instant) (lookup : PreflightLookup)
    (answer : ℕ → LookupAnswer) :
    Except Failure (CounterpartyPreflightSnapshot × Option CounterpartyProviderRecord) := do
  let _ ← counterpartyLookupQuery lookup.identifierType lookup.identifier
  match boundedLookup answer 1 2 with
  | .ok record => return (assess service companyName requestId now lookup record, some record)
  | .error error => do
      let code ← errorCode error
      return (unchecked requestId now (some (lookup.identifierType, lookup.identifier))
        .unknown "PROVIDER_UNAVAILABLE" (some code), none)

end PublicPreflight

end ShemaPlatform
