/-
Requests of the public: what a client submits, the preflight of the company it
names, and the record that is kept.
-/
import ShemaPlatform.Calendar
import ShemaPlatform.JsonText
import ShemaPlatform.PyText

namespace ShemaPlatform

open Calendar

inductive PreflightDecision where
  | normal | attention | blockingFact | unknown | conflicting
deriving DecidableEq, Repr

def PreflightDecision.value : PreflightDecision → String
  | .normal => "NORMAL"
  | .attention => "ATTENTION"
  | .blockingFact => "BLOCKING_FACT"
  | .unknown => "UNKNOWN"
  | .conflicting => "CONFLICTING"

inductive IdentityMatch where
  | matched | nameMismatch | notChecked
deriving DecidableEq, Repr

def IdentityMatch.value : IdentityMatch → String
  | .matched => "MATCH"
  | .nameMismatch => "NAME_MISMATCH"
  | .notChecked => "NOT_CHECKED"

inductive IntakeStatus where
  | accepted | quarantinedSpam
deriving DecidableEq, Repr

def IntakeStatus.value : IntakeStatus → String
  | .accepted => "ACCEPTED"
  | .quarantinedSpam => "QUARANTINED_SPAM"

structure PublicIntakePayload where
  serviceType : String
  location : String
  preferredDateOrPeriod : String
  workOrCargoDescription : String
  contactName : String
  contactChannel : String
  approximateVolumeOrWeight : Option String := none
  accessOrLiftingConstraints : Option String := none
  companyName : Option String := none
  inn : Option String := none
  ogrnOrOgrnip : Option String := none
  comments : Option String := none
  utmSource : Option String := none
  utmMedium : Option String := none
  utmCampaign : Option String := none
  referrer : Option String := none
  entrySurface : String := "public_web"
deriving DecidableEq

namespace PublicIntakePayload

def canonicalFields (payload : PublicIntakePayload) : List (String × String) :=
  let given (value : Option String) : String := PyText.strip (value.getD "")
  [("service_type", PyText.strip payload.serviceType),
    ("location", PyText.strip payload.location),
    ("preferred_date_or_period", PyText.strip payload.preferredDateOrPeriod),
    ("work_or_cargo_description", PyText.strip payload.workOrCargoDescription),
    ("contact_name", PyText.strip payload.contactName),
    ("contact_channel", PyText.strip payload.contactChannel),
    ("approximate_volume_or_weight", given payload.approximateVolumeOrWeight),
    ("access_or_lifting_constraints", given payload.accessOrLiftingConstraints),
    ("company_name", given payload.companyName),
    ("inn", given payload.inn),
    ("ogrn_or_ogrnip", given payload.ogrnOrOgrnip),
    ("comments", given payload.comments),
    ("utm_source", given payload.utmSource),
    ("utm_medium", given payload.utmMedium),
    ("utm_campaign", given payload.utmCampaign),
    ("referrer", given payload.referrer),
    ("entry_surface", PyText.strip payload.entrySurface)]

/-- `json.dumps(…, ensure_ascii=False, sort_keys=True, separators=(",", ":"))` -/
def canonicalJson (payload : PublicIntakePayload) : String :=
  let fields := payload.canonicalFields.insertionSort fun a b => a.1 ≤ b.1
  let members := fields.map fun field =>
    JsonText.quoteUnicode field.1 ++ ':' :: JsonText.quoteUnicode field.2
  String.ofList ('\x7b' :: (members.intersperse [',']).flatten ++ ['\x7d'])

def requestHash (sha256 : String → String) (payload : PublicIntakePayload) : String :=
  sha256 payload.canonicalJson

end PublicIntakePayload

structure CounterpartyPreflightSnapshot where
  snapshotId : String
  identifierType : Option String
  normalizedIdentifier : Option String
  decision : PreflightDecision
  identityMatch : IdentityMatch
  canonicalName : Option String
  legalStatus : Option String
  sourceRef : Option String
  providerId : Option String
  observedAt : Instant
  expiresAt : Instant
  flags : List String := []
  errorCode : Option String := none
deriving DecidableEq

structure PublicIntakeRecord where
  requestId : String
  correlationId : String
  idempotencyKey : String
  requestHash : String
  status : IntakeStatus
  payload : PublicIntakePayload
  preflight : CounterpartyPreflightSnapshot
  createdAt : Instant
  projectedAt : Option Instant := none
deriving DecidableEq

end ShemaPlatform
