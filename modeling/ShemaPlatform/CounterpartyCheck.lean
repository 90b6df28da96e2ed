/-
The manual check of a company: the observation of an official source is laid beside
the stored identities, its claims are kept as evidence, and contradictions are
quarantined.
-/
import ShemaPlatform.Foundation
import ShemaPlatform.Monitoring
import ShemaPlatform.PyStrip

namespace ShemaPlatform

open Calendar

def CounterpartyIdentifierType.value : CounterpartyIdentifierType → String
  | .inn => "INN"
  | .ogrn => "OGRN"
  | .ogrnip => "OGRNIP"

/-- The lengths of the numbers of each kind. -/
def CounterpartyIdentifierType.expectedLengths : CounterpartyIdentifierType → List ℕ
  | .inn => [10, 12]
  | .ogrn => [13]
  | .ogrnip => [15]

namespace CounterpartyCheck

inductive SourceReliability where
  | authoritative | primary | trustedSecondary | unverified
deriving DecidableEq, Repr

def SourceReliability.value : SourceReliability → String
  | .authoritative => "authoritative"
  | .primary => "primary"
  | .trustedSecondary => "trusted_secondary"
  | .unverified => "unverified"

inductive FreshnessState where
  | fresh | expired
deriving DecidableEq, Repr

def FreshnessState.value : FreshnessState → String
  | .fresh => "fresh"
  | .expired => "expired"

structure CounterpartyObservation where
  identifierType : CounterpartyIdentifierType
  identifier : String
  canonicalName : String
  taxId : Option String
  registrationId : Option String
  legalStatus : Option String
  sourceRef : String
  sourceReliability : SourceReliability
  claimConfidence : ℚ
  observedAt : Instant
  expiresAt : Instant
deriving DecidableEq

/-- The scheme and the host of a URL, as `urlsplit` finds them. -/
structure ParsedUrl where
  scheme : String
  hostname : Option String
deriving DecidableEq

def officialSourceHosts : List String :=
  ["nalog.ru", "pb.nalog.ru", "service.nalog.ru", "www.nalog.ru"]

/-- A text that is given: neither missing nor empty. -/
def given (value : Option String) : Option String :=
  value.filter fun text => text != ""

/-- What is given, stripped. -/
def stripped (value : Option String) : Option String :=
  (given value).map PyText.strip

def isOfficial (hostname : String) : Bool :=
  officialSourceHosts.contains hostname || hostname.endsWith ".nalog.ru"

/-- What `CounterpartyObservation.__post_init__` makes of its arguments. -/
def CounterpartyObservation.new (urlsplit : String → Except Failure ParsedUrl)
    (fields : CounterpartyObservation) : Except Failure CounterpartyObservation := do
  let identifier := PyText.strip fields.identifier
  let canonicalName := PyText.strip fields.canonicalName
  let taxId := stripped fields.taxId
  let registrationId := stripped fields.registrationId
  require (identifier != "" && identifier.toList.all PyText.isDigit)
    (.valueError "counterparty identifier must contain digits only")
  require (fields.identifierType.expectedLengths.contains identifier.length)
    (.valueError s!"{fields.identifierType.value} has invalid length")
  require (canonicalName != "") (.valueError "canonical_name is required")
  require ((given taxId).isSome || (given registrationId).isSome)
    (.valueError "tax_id or registration_id is required")
  let parsed ← urlsplit (PyText.strip fields.sourceRef)
  let hostname := PyText.lower (parsed.hostname.getD "")
  require (parsed.scheme == "https" && (given parsed.hostname).isSome)
    (.valueError "source_ref must be an HTTPS URL")
  require (isOfficial hostname)
    (.valueError "counterparty source must be an official nalog.ru URL")
  require (fields.sourceReliability == .authoritative)
    (.valueError "manual counterparty checks require an authoritative source")
  require (decide (0 ≤ fields.claimConfidence) && decide (fields.claimConfidence ≤ 1))
    (.valueError "claim_confidence must be between 0 and 1")
  require (decide (fields.observedAt ≤ fields.expiresAt))
    (.valueError "expires_at cannot precede observed_at")
  return { fields with
    identifier, canonicalName, taxId, registrationId
    legalStatus := stripped fields.legalStatus
    sourceRef := PyText.strip fields.sourceRef }

structure CounterpartyContradiction where
  field : String
  existingValue : String
  observedValue : String
deriving DecidableEq

/-- Two rows of `identity` that its primary key and its two unique indexes allow. -/
def Apart (a b : Identity) : Prop :=
  a.identityId ≠ b.identityId ∧ (a.taxId = none ∨ a.taxId ≠ b.taxId) ∧
    (a.registrationId = none ∨ a.registrationId ≠ b.registrationId)

instance (a b : Identity) : Decidable (Apart a b) :=
  inferInstanceAs (Decidable (_ ∧ (_ ∨ _) ∧ (_ ∨ _)))

/-- The stored identities; an id is never blank, the column holds UUIDs only. -/
structure IdentityTable where
  rows : List Identity
  ids : ∀ row ∈ rows, PyText.blank row.identityId = false
  unique : rows.Pairwise Apart

namespace IdentityTable

/-- `where tax_id = …`; the unique index leaves at most one row. -/
def findByTaxId (table : IdentityTable) (taxId : String) : Option Identity :=
  table.rows.find? fun row => row.taxId == some (PyText.strip taxId)

/-- The constraint that a new row violates. -/
def violated (table : IdentityTable) (identity : Identity) : String :=
  if table.rows.any fun row => row.identityId == identity.identityId then "identity_pkey"
  else if table.rows.any fun row => row.taxId.isSome && row.taxId == identity.taxId then
    "ux_identity_tax_id"
  else "ux_identity_registration_id"

def add (table : IdentityTable) (identity : Identity)
    (hid : PyText.blank identity.identityId = false) : Except Failure IdentityTable :=
  if h : ∀ row ∈ table.rows, Apart row identity then
    .ok ⟨table.rows ++ [identity],
      List.forall_mem_append.mpr ⟨table.ids, List.forall_mem_singleton.mpr hid⟩,
      List.pairwise_append.mpr ⟨table.unique, List.pairwise_singleton _ _,
        fun row hrow _ hnew => List.mem_singleton.mp hnew ▸ h row hrow⟩⟩
  else .error (.uniqueViolation (table.violated identity))

end IdentityTable

/-- A piece of evidence as it is stored; its provenance has no blank entries. -/
structure Evidence where
  evidenceId : String
  subjectRef : String
  claim : String
  sourceRef : String
  observedAt : Instant
  capturedAt : Instant
  confidence : ℚ
  provenance : List (String × String)
  expiresAt : Option Instant
deriving DecidableEq

/-- What `Evidence.__post_init__` makes of its arguments. -/
def Evidence.new (evidence : Evidence) : Except Failure Evidence := do
  require (!PyText.blank evidence.evidenceId && !PyText.blank evidence.subjectRef)
    (.valueError "evidence_id and subject_ref are required")
  require (!PyText.blank evidence.claim) (.valueError "claim must not be empty")
  require (!PyText.blank evidence.sourceRef) (.valueError "source_ref must not be empty")
  require (decide (0 ≤ evidence.confidence) && decide (evidence.confidence ≤ 1))
    (.valueError "confidence must be between 0 and 1")
  require (decide (evidence.observedAt ≤ evidence.capturedAt))
    (.valueError "captured_at cannot precede observed_at")
  require (evidence.expiresAt.all fun expiresAt => decide (evidence.observedAt ≤ expiresAt))
    (.valueError "expires_at cannot precede observed_at")
  return { evidence with
    provenance := (evidence.provenance.filter fun entry =>
      !PyText.blank entry.1 && !PyText.blank entry.2).map fun entry =>
        (PyText.strip entry.1, PyText.strip entry.2) }

/-- What `Evidence.__post_init__` accepts. -/
theorem Evidence.new_isOk {evidence : Evidence} :
    (∃ kept, evidence.new = .ok kept) ↔ PyText.blank evidence.evidenceId = false ∧
      PyText.blank evidence.subjectRef = false ∧ PyText.blank evidence.claim = false ∧
      PyText.blank evidence.sourceRef = false ∧
      (0 ≤ evidence.confidence ∧ evidence.confidence ≤ 1) ∧
      evidence.observedAt ≤ evidence.capturedAt ∧
      ∀ expiresAt ∈ evidence.expiresAt, evidence.observedAt ≤ expiresAt := by
  simp only [Evidence.new, bind_eq_ok, require_eq_ok, pure_eq_ok, exists_const,
    Bool.and_eq_true, decide_eq_true_eq, Bool.not_eq_true', Option.all_eq_true]
  constructor
  · rintro ⟨_, ⟨hid, hsubject⟩, hclaim, hsource, hconfidence, hobserved, hexpires, _⟩
    exact ⟨hid, hsubject, hclaim, hsource, hconfidence, hobserved, hexpires⟩
  · rintro ⟨hid, hsubject, hclaim, hsource, hconfidence, hobserved, hexpires⟩
    exact ⟨_, ⟨hid, hsubject⟩, hclaim, hsource, hconfidence, hobserved, hexpires, rfl⟩

theorem Evidence.evidenceId_of_new {evidence kept : Evidence} (h : evidence.new = .ok kept) :
    kept.evidenceId = evidence.evidenceId := by
  simp only [Evidence.new, bind_eq_ok, pure_eq_ok] at h
  obtain ⟨_, _, _, _, _, _, _, _, _, _, _, _, rfl⟩ := h
  rfl

/-- A row of `quarantine_record` of a check. -/
structure Quarantined where
  objectType : String
  objectRef : String
  reasonCode : String
  identifierType : String
  identifier : String
  contradictions : List CounterpartyContradiction
deriving DecidableEq

structure Tables where
  identities : IdentityTable
  evidence : List Evidence
  quarantine : List (String × Quarantined)
  audits : List AuditRecord

/-- The `uuid4` ids that one check draws. -/
structure Ids where
  identityId : String
  evidenceId : ℕ → String
  quarantineId : String
  auditId : String
  valid : PyText.blank identityId = false

structure CounterpartyCheckResult where
  subjectRef : String
  identity : Option Identity
  freshness : FreshnessState
  evidenceIds : List String
  contradictions : List CounterpartyContradiction
  quarantined : Bool
  operatorBrief : String

def freshness (expiresAt at' : Instant) : FreshnessState :=
  if at' ≤ expiresAt then .fresh else .expired

section Check

variable (observation : CounterpartyObservation)

/-- The contradictions of the observation to the identity with its tax id. -/
def contradictions (identity : Identity) : List CounterpartyContradiction :=
  (if PyText.strip identity.canonicalName != "" &&
      PyText.strip identity.canonicalName != observation.canonicalName then
    [⟨"canonical_name", identity.canonicalName, observation.canonicalName⟩] else []) ++
  match given identity.registrationId, given observation.registrationId with
  | some existing, some observed =>
      if existing != observed then [⟨"registration_id", existing, observed⟩] else []
  | _, _ => []

/-- The identity with the observation's tax id, stored now if there was none; without a
tax id nothing is looked up. -/
def resolve (ids : Ids) (table : IdentityTable) :
    Except Failure (Option Identity × List CounterpartyContradiction × IdentityTable) :=
  match given observation.taxId with
  | none => .ok (none, [], table)
  | some taxId =>
      match table.findByTaxId taxId with
      | some identity => .ok (some identity, contradictions observation identity, table)
      | none => do
          let identity : Identity := ⟨ids.identityId, observation.canonicalName, .identified,
            some taxId, observation.registrationId⟩
          let table ← table.add identity ids.valid
          return (some identity, [], table)

/-- The claims of the observation, those that are given. -/
def claims : List String :=
  [("canonical_name", some observation.canonicalName), ("tax_id", observation.taxId),
    ("registration_id", observation.registrationId),
    ("legal_status", observation.legalStatus)].filterMap fun entry =>
      (given entry.2).map fun value => entry.1 ++ "=" ++ value

def evidenceFor (ids : Ids) (subjectRef : String) (now : Instant) (place : ℕ)
    (claim : String) : Evidence where
  evidenceId := ids.evidenceId place
  subjectRef := subjectRef
  claim := claim
  sourceRef := observation.sourceRef
  observedAt := observation.observedAt
  capturedAt := now
  confidence := observation.claimConfidence
  provenance := [("source_reliability", observation.sourceReliability.value),
    ("identifier_type", observation.identifierType.value),
    ("identifier", observation.identifier)]
  expiresAt := some observation.expiresAt

/-- One piece of evidence for each claim. -/
def addEvidence (ids : Ids) (subjectRef : String) (now : Instant) :
    ℕ → List String → List Evidence → Except Failure (List Evidence)
  | _, [], stored => .ok stored
  | place, claim :: rest, stored => do
      let evidence ← (evidenceFor observation ids subjectRef now place claim).new
      require (!stored.any fun row => row.evidenceId == evidence.evidenceId)
        (.uniqueViolation "evidence_pkey")
      addEvidence ids subjectRef now (place + 1) rest (stored ++ [evidence])

def subjectKey : String :=
  s!"counterparty:{PyText.lower observation.identifierType.value}:{observation.identifier}"

/-- The row that a check with contradictions is quarantined as. -/
def quarantineFor (subjectRef : String) (found : List CounterpartyContradiction) :
    Quarantined where
  objectType := "counterparty_check"
  objectRef := subjectRef
  reasonCode := "counterparty_observation_conflict"
  identifierType := observation.identifierType.value
  identifier := observation.identifier
  contradictions := found

def auditFor (ids : Ids) (actorId subjectRef : String) (evidenceCount : ℕ)
    (found : List CounterpartyContradiction) (correlationId : Option String) (now : Instant) :
    AuditRecord where
  auditId := ids.auditId
  actorId := actorId
  action := "counterparty.check"
  resourceType := "counterparty_check"
  resourceId := subjectRef
  outcome := if found.isEmpty then "success" else "quarantined"
  occurredAt := now
  metadata := [("identifier_type", .text observation.identifierType.value),
    ("identifier", .text observation.identifier), ("source_ref", .text observation.sourceRef),
    ("source_reliability", .text observation.sourceReliability.value),
    ("evidence_count", .number evidenceCount), ("contradiction_count", .number found.length)]
  correlationId := correlationId

/-- What the operator reads; the confidence is formatted to two places. -/
def operatorBrief (twoPlaces : ℚ → String) (found : List CounterpartyContradiction)
    (now : Instant) : String :=
  let taxId := (given observation.taxId).getD "не указан"
  let registrationId := (given observation.registrationId).getD "не указан"
  let fields := String.intercalate ", " (found.map CounterpartyContradiction.field)
  s!"{observation.canonicalName}; ИНН {taxId}; регистрационный номер {registrationId}. " ++
  s!"Источник: {observation.sourceRef}. " ++
  s!"Надёжность источника: {observation.sourceReliability.value}; " ++
  s!"уверенность утверждений: {twoPlaces observation.claimConfidence}. " ++
  s!"Свежесть: {(freshness observation.expiresAt now).value}." ++
  (if found.isEmpty then " Конфликтов с текущей canonical identity не выявлено."
    else s!" Конфликты: {fields}.") ++
  (if found.isEmpty then
      " Следующий безопасный шаг: независимая проверка материала по другому источнику."
    else " Требуется ручная сверка конфликта до квалификации.")

/-- `CounterpartyCheckService.check`, one transaction; an error leaves the tables alone. -/
def check (twoPlaces : ℚ → String) (actorId : String) (correlationId : Option String)
    (now : Instant) (ids : Ids) (tables : Tables) :
    Except Failure (CounterpartyCheckResult × Tables) := do
  let actorId := PyText.strip actorId
  require (actorId != "") (.valueError "actor_id is required")
  let (identity, found, identities) ← resolve observation ids tables.identities
  let subjectRef := (identity.map (·.identityId)).getD (subjectKey observation)
  let evidence ← addEvidence observation ids subjectRef now 0 (claims observation)
    tables.evidence
  let quarantine := if found.isEmpty then tables.quarantine
    else tables.quarantine ++ [(ids.quarantineId, quarantineFor observation subjectRef found)]
  require (found.isEmpty || !tables.quarantine.any fun row => row.1 == ids.quarantineId)
    (.uniqueViolation "quarantine_record_pkey")
  let audit ← (auditFor observation ids actorId subjectRef (claims observation).length found
    correlationId now).new
  require (!tables.audits.any fun record => record.auditId == ids.auditId)
    (.uniqueViolation "audit_log_pkey")
  return (⟨subjectRef, identity, freshness observation.expiresAt now,
    (List.range (claims observation).length).map ids.evidenceId, found, !found.isEmpty,
    operatorBrief observation twoPlaces found now⟩,
    ⟨identities, evidence, quarantine, tables.audits ++ [audit]⟩)

end Check

end CounterpartyCheck

end ShemaPlatform
