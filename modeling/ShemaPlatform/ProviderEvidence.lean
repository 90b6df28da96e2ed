/-
What a provider's record is taken for: the preflight decides on it, and the
evidence service keeps its claims.
-/
import ShemaPlatform.CounterpartyConflicts
import ShemaPlatform.PreflightOutages

namespace ShemaPlatform

open Calendar

/-- A query as its constructor leaves it. -/
structure CounterpartyLookupQuery where
  identifierType : CounterpartyLookupIdentifierType
  identifier : String
  valid : counterpartyLookupQuery identifierType identifier = .ok identifier

/-- The number of a record that a query of this type asks for. -/
def CounterpartyProviderRecord.number (record : CounterpartyProviderRecord) :
    CounterpartyLookupIdentifierType → Option String
  | .inn => record.taxId
  | .ogrn => record.registrationId
  | .ogrnip => record.registrationId

namespace ProviderEvidence

open CounterpartyCheck (IdentityTable Evidence CounterpartyContradiction given given_eq_some)

/-- A row of `quarantine_record` of a provider's record. -/
structure Quarantined where
  objectType : String
  objectRef : String
  reasonCode : String
  providerId : String
  contradictions : List CounterpartyContradiction
deriving DecidableEq

structure Tables where
  identities : IdentityTable
  evidence : List Evidence
  quarantine : List (String × Quarantined)
  audits : List AuditRecord

/-- The `uuid4` ids that one intake draws. -/
structure Ids where
  evidenceId : ℕ → String
  quarantineId : String
  auditId : String
  distinct : Function.Injective evidenceId
  named : ∀ place, PyText.blank (evidenceId place) = false
  auditNamed : PyText.blank auditId = false

/-- The keyword arguments of `ingest`. -/
structure Intake where
  actorId : String
  claimConfidence : ℚ
  expiresAt : Instant
  observedAt : Option Instant := none
  correlationId : Option String := none
deriving DecidableEq

structure CounterpartyProviderEvidenceResult where
  subjectRef : String
  identityRef : Option String
  evidenceIds : List String
  contradictions : List CounterpartyContradiction
  quarantined : Bool
deriving DecidableEq

/-- Each piece of evidence is constructed and stored before the next one. -/
def addEvidence : List Evidence → List Evidence → Except Failure (List Evidence)
  | [], stored => .ok stored
  | evidence :: rest, stored => do
      let kept ← evidence.new
      require (!stored.any fun row => row.evidenceId == kept.evidenceId)
        (.uniqueViolation "evidence_pkey")
      addEvidence rest (stored ++ [kept])

section Ingest

variable (record : CounterpartyProviderRecord) (intake : Intake) (now : Instant) (ids : Ids)

/-- `observed_at or now` -/
def observed : Instant :=
  intake.observedAt.getD now

/-- `record.tax_id or record.registration_id` -/
def identifierOf : String :=
  (given record.taxId).getD (record.registrationId.getD "")

def identityOf (identities : IdentityTable) : Option Identity :=
  (given record.taxId).bind identities.findByTaxId

def subjectRef (identity : Option Identity) : String :=
  (identity.map (·.identityId)).getD
    s!"counterparty:provider:{record.providerId}:{identifierOf record}"

/-- The contradictions of the record to the identity with its tax id. -/
def contradictions (identity : Identity) : List CounterpartyContradiction :=
  (if PyText.strip identity.canonicalName != "" &&
      PyText.strip identity.canonicalName != PyText.strip record.canonicalName then
    [⟨"canonical_name", identity.canonicalName, record.canonicalName⟩] else []) ++
  match given identity.registrationId, given record.registrationId with
  | some existing, some observed =>
      if existing != observed then [⟨"registration_id", existing, observed⟩] else []
  | _, _ => []

/-- The contradictions to whatever identity there is. -/
def found (identities : IdentityTable) : List CounterpartyContradiction :=
  ((identityOf record identities).map (contradictions record)).getD []

/-- The claims of the record, those that are given. -/
def claims : List String :=
  [("canonical_name", some record.canonicalName), ("tax_id", record.taxId),
    ("registration_id", record.registrationId),
    ("legal_status", record.legalStatus)].filterMap fun entry =>
      (given entry.2).map fun value => entry.1 ++ "=" ++ value

def evidenceFor (subject : String) (place : ℕ) (claim : String) : Evidence where
  evidenceId := ids.evidenceId place
  subjectRef := subject
  claim := claim
  sourceRef := record.sourceRef
  observedAt := observed intake now
  capturedAt := now
  confidence := intake.claimConfidence
  provenance := [("provider_id", record.providerId),
    ("source_reliability", "trusted_secondary"), ("identifier", identifierOf record),
    ("provider_actuality_ms", (record.observedAtMs.map toString).getD "")]
  expiresAt := some intake.expiresAt

/-- One piece of evidence for each claim. -/
def evidenceOf (subject : String) : List Evidence :=
  (claims record).zipIdx.map fun entry =>
    evidenceFor record intake now ids subject entry.2 entry.1

/-- The row that a record with contradictions is quarantined as. -/
def quarantineFor (subject : String) (found : List CounterpartyContradiction) :
    Quarantined where
  objectType := "counterparty_provider_evidence"
  objectRef := subject
  reasonCode := "provider_observation_conflict"
  providerId := record.providerId
  contradictions := found

def auditFor (actorId subject : String) (found : List CounterpartyContradiction) :
    AuditRecord where
  auditId := ids.auditId
  actorId := actorId
  action := "counterparty.provider_evidence"
  resourceType := "counterparty_provider_evidence"
  resourceId := subject
  outcome := if found.isEmpty then "success" else "quarantined"
  occurredAt := now
  metadata := [("provider_id", .text record.providerId),
    ("source_ref", .text record.sourceRef),
    ("evidence_count", .number (claims record).length),
    ("contradiction_count", .number found.length)]
  correlationId := intake.correlationId

/-- `CounterpartyProviderEvidenceService.ingest`, one transaction; an error leaves the
tables alone. -/
def ingest (tables : Tables) :
    Except Failure (CounterpartyProviderEvidenceResult × Tables) := do
  let actorId := PyText.strip intake.actorId
  require (actorId != "") (.valueError "actor_id is required")
  require (decide (0 ≤ intake.claimConfidence) && decide (intake.claimConfidence ≤ 1))
    (.valueError "claim_confidence must be between 0 and 1")
  require (decide (observed intake now ≤ intake.expiresAt))
    (.valueError "expires_at cannot precede observed_at")
  let identity := identityOf record tables.identities
  let subject := subjectRef record identity
  let found := found record tables.identities
  let evidence ← addEvidence (evidenceOf record intake now ids subject) tables.evidence
  require (found.isEmpty || !tables.quarantine.any fun row => row.1 == ids.quarantineId)
    (.uniqueViolation "quarantine_record_pkey")
  let quarantine := if found.isEmpty then tables.quarantine
    else tables.quarantine ++ [(ids.quarantineId, quarantineFor record subject found)]
  let audit ← (auditFor record intake now ids actorId subject found).new
  require (!tables.audits.any fun row => row.auditId == ids.auditId)
    (.uniqueViolation "audit_log_pkey")
  return (⟨subject, identity.map (·.identityId),
    (List.range (claims record).length).map ids.evidenceId, found, !found.isEmpty⟩,
    ⟨tables.identities, evidence, quarantine, tables.audits ++ [audit]⟩)

end Ingest

structure CounterpartyProviderLookupResult where
  providerRecord : CounterpartyProviderRecord
  evidenceResult : CounterpartyProviderEvidenceResult
deriving DecidableEq

/-- What `CounterpartyProviderLookupService.execute` raises: an error of the lookup, or
one of the intake. -/
abbrev Outcome :=
  Except (LookupError ⊕ Failure) (CounterpartyProviderLookupResult × Tables)

/-- `CounterpartyProviderLookupService.execute`, given what the provider answers to each
attempt of the query. -/
def execute (provider : CounterpartyLookupQuery → ℕ → LookupAnswer) (maxAttempts : ℕ)
    (query : CounterpartyLookupQuery) (intake : Intake) (now : Instant) (ids : Ids)
    (tables : Tables) : Outcome :=
  match boundedLookup (provider query) 1 maxAttempts with
  | .error error => .error (.inl error)
  | .ok record =>
      match ingest record intake now ids tables with
      | .error error => .error (.inr error)
      | .ok (result, stored) => .ok (⟨record, result⟩, stored)

/-- Nothing in the way of an intake of this record. -/
structure Ingestible (record : CounterpartyProviderRecord) (intake : Intake) (now : Instant)
    (ids : Ids) (tables : Tables) : Prop where
  actor : PyText.blank intake.actorId = false
  confidence : 0 ≤ intake.claimConfidence ∧ intake.claimConfidence ≤ 1
  expires : observed intake now ≤ intake.expiresAt
  observed : observed intake now ≤ now
  evidence : ∀ place < (claims record).length, ∀ row ∈ tables.evidence,
    row.evidenceId ≠ ids.evidenceId place
  quarantine : found record tables.identities ≠ [] → ∀ row ∈ tables.quarantine,
    row.1 ≠ ids.quarantineId
  audit : ∀ row ∈ tables.audits, row.auditId ≠ ids.auditId

section Evidence

variable {record : CounterpartyProviderRecord} {intake : Intake} {now : Instant} {ids : Ids}
  {subject : String}

theorem blank_claim {claim : String} (h : claim ∈ claims record) :
    PyText.blank claim = false := by
  rw [claims, List.mem_filterMap] at h
  obtain ⟨entry, _, hclaim⟩ := h
  rw [Option.map_eq_some_iff] at hclaim
  obtain ⟨value, _, rfl⟩ := hclaim
  rw [Bool.eq_false_iff]
  intro hblank
  rw [PyText.blank, String.toList_append, String.toList_append, List.all_append,
    List.all_append] at hblank
  simp [PyText.isSpace] at hblank

theorem claims_ne_nil : claims record ≠ [] := by
  have hname : given (some record.canonicalName) = some record.canonicalName := by
    apply given_eq_some.mpr
    constructor
    · rfl
    · intro hempty
      have hblank := record.named.2.2
      rw [hempty] at hblank
      cases hblank
  simp [claims, hname]

/-- New evidence under ids of its own is stored as a whole exactly when each piece is
accepted under an id that is not taken. -/
theorem addEvidence_isOk {pieces stored : List Evidence}
    (hdistinct : (pieces.map (·.evidenceId)).Nodup) :
    (∃ stored', addEvidence pieces stored = .ok stored') ↔
      ∀ evidence ∈ pieces, (∃ kept, evidence.new = .ok kept) ∧
        ∀ row ∈ stored, row.evidenceId ≠ evidence.evidenceId := by
  induction pieces generalizing stored with
  | nil => simp [addEvidence]
  | cons evidence rest ih =>
      rw [List.map_cons, List.nodup_cons] at hdistinct
      have happly := @ih
      simp only [addEvidence, bind_eq_ok, require_eq_ok, exists_const, List.forall_mem_cons,
        Bool.not_eq_true', List.any_eq_false, beq_iff_eq]
      constructor
      · rintro ⟨stored', kept, hkept, hfree, hrest⟩
        have hid := CounterpartyCheck.Evidence.evidenceId_of_new hkept
        constructor
        · rw [← hid]
          exact ⟨⟨kept, hkept⟩, hfree⟩
        · intro later hlater
          obtain ⟨hnew, hrows⟩ := (ih hdistinct.2).mp ⟨stored', hrest⟩ later hlater
          exact ⟨hnew, fun row hrow => hrows row (List.mem_append_left _ hrow)⟩
      · rintro ⟨⟨⟨kept, hkept⟩, hfree⟩, hrest⟩
        have hid := CounterpartyCheck.Evidence.evidenceId_of_new hkept
        have hlater : ∀ later ∈ rest, (∃ kept, later.new = .ok kept) ∧
            ∀ row ∈ stored ++ [kept], row.evidenceId ≠ later.evidenceId := by
          intro later hlater
          constructor
          · exact (hrest later hlater).1
          · intro row hrow
            rcases List.mem_append.mp hrow with hold | hlast
            · exact (hrest later hlater).2 row hold
            · rw [List.mem_singleton.mp hlast, hid]
              intro hsame
              exact hdistinct.1 (List.mem_map.mpr ⟨later, hlater, hsame.symm⟩)
        obtain ⟨stored', hstored⟩ := (ih hdistinct.2).mpr hlater
        rw [← hid] at hfree
        exact ⟨stored', kept, hkept, hfree, hstored⟩

theorem length_addEvidence {pieces stored stored' : List Evidence}
    (h : addEvidence pieces stored = .ok stored') :
    stored'.length = stored.length + pieces.length := by
  induction pieces generalizing stored with
  | nil =>
      obtain rfl := Except.ok.inj h
      rfl
  | cons evidence rest ih =>
      simp only [addEvidence, bind_eq_ok, require_eq_ok, exists_const] at h
      obtain ⟨kept, _, _, hrest⟩ := h
      rw [ih hrest, List.length_append, List.length_singleton, List.length_cons]
      omega

theorem map_evidenceId_evidenceOf :
    (evidenceOf record intake now ids subject).map (·.evidenceId) =
      (List.range (claims record).length).map ids.evidenceId := by
  rw [evidenceOf, List.map_map, List.range_eq_range', ← List.zipIdx_map_snd 0 (claims record),
    List.map_map]
  rfl

theorem nodup_evidenceOf :
    ((evidenceOf record intake now ids subject).map (·.evidenceId)).Nodup := by
  rw [map_evidenceId_evidenceOf]
  exact List.nodup_range.map ids.distinct

theorem blank_subjectRef {identities : IdentityTable} :
    PyText.blank (subjectRef record (identityOf record identities)) = false := by
  cases hidentity : identityOf record identities with
  | none =>
      rw [subjectRef, Option.map_none, Option.getD_none, Bool.eq_false_iff]
      intro hblank
      simp [PyText.blank, PyText.isSpace, toString] at hblank
  | some identity =>
      rw [subjectRef, Option.map_some, Option.getD_some]
      rw [identityOf, Option.bind_eq_some_iff] at hidentity
      obtain ⟨taxId, _, hfound⟩ := hidentity
      exact identities.ids identity (List.mem_of_find?_eq_some hfound)

/-- Evidence of a record is accepted when it was not observed after now. -/
theorem evidenceOf_isOk {identities : IdentityTable}
    (hconfidence : 0 ≤ intake.claimConfidence ∧ intake.claimConfidence ≤ 1)
    (hexpires : observed intake now ≤ intake.expiresAt) {evidence : Evidence}
    (h : evidence ∈ evidenceOf record intake now ids
      (subjectRef record (identityOf record identities))) :
    (∃ kept, evidence.new = .ok kept) ↔ observed intake now ≤ now := by
  rw [evidenceOf, List.mem_map] at h
  obtain ⟨entry, hentry, rfl⟩ := h
  have hclaim := blank_claim (List.fst_mem_of_mem_zipIdx hentry)
  have hsource := PyText.blank_of_startsWith record.named.2.1 (by decide)
  simp only [CounterpartyCheck.Evidence.new_isOk, evidenceFor, ids.named, blank_subjectRef,
    hclaim, hsource, hconfidence, hexpires, Option.mem_some_iff, forall_eq', and_true, true_and, and_self]

/-- The evidence of a record is stored when it was observed by now, and the ids of its
pieces are not taken. -/
theorem addEvidence_evidenceOf_isOk {identities : IdentityTable} {stored : List Evidence}
    (hconfidence : 0 ≤ intake.claimConfidence ∧ intake.claimConfidence ≤ 1)
    (hexpires : observed intake now ≤ intake.expiresAt) :
    (∃ stored', addEvidence (evidenceOf record intake now ids
        (subjectRef record (identityOf record identities))) stored = .ok stored') ↔
      observed intake now ≤ now ∧ ∀ place < (claims record).length, ∀ row ∈ stored,
        row.evidenceId ≠ ids.evidenceId place := by
  rw [addEvidence_isOk nodup_evidenceOf]
  have hplace : ∀ place (hlt : place < (claims record).length),
      evidenceFor record intake now ids (subjectRef record (identityOf record identities))
        place (claims record)[place] ∈ evidenceOf record intake now ids
          (subjectRef record (identityOf record identities)) := by
    intro place hlt
    exact List.mem_map.mpr ⟨((claims record)[place], place),
      List.mk_mem_zipIdx_iff_getElem?.mpr (List.getElem?_eq_getElem hlt), rfl⟩
  constructor
  · intro h
    constructor
    · have hfirst := hplace 0 (List.length_pos_of_ne_nil claims_ne_nil)
      exact (evidenceOf_isOk hconfidence hexpires hfirst).mp (h _ hfirst).1
    · intro place hlt
      exact (h _ (hplace place hlt)).2
  · rintro ⟨hobserved, hfree⟩ evidence hevidence
    constructor
    · exact (evidenceOf_isOk hconfidence hexpires hevidence).mpr hobserved
    · rw [evidenceOf, List.mem_map] at hevidence
      obtain ⟨⟨claim, place⟩, hentry, rfl⟩ := hevidence
      have hlt : place < (claims record).length :=
        (List.getElem?_eq_some_iff.mp (List.mk_mem_zipIdx_iff_getElem?.mp hentry)).1
      exact hfree place hlt

end Evidence

section Ingest

variable {record : CounterpartyProviderRecord} {intake : Intake} {now : Instant} {ids : Ids}
  {tables : Tables}

theorem audit_new_isOk {subject : String} {found : List CounterpartyContradiction}
    (hactor : PyText.blank intake.actorId = false) :
    ∃ audit, (auditFor record intake now ids (PyText.strip intake.actorId) subject
      found).new = .ok audit := by
  have hstrip : PyText.blank (PyText.strip intake.actorId) = false := by
    rw [PyText.blank_strip, hactor]
  have houtcome : PyText.blank (if found.isEmpty then "success" else "quarantined") =
      false := by
    split <;> decide
  have haction : PyText.blank "counterparty.provider_evidence" = false := by decide
  have hresource : PyText.blank "counterparty_provider_evidence" = false := by decide
  simp only [AuditRecord.new, auditFor, ids.auditNamed, hstrip, houtcome, haction, hresource,
    bind_eq_ok, require_eq_ok, pure_eq_ok, exists_const, Bool.not_false, Bool.and_self,
    true_and]
  exact ⟨_, rfl⟩

/-- A record is taken in exactly when nothing is in the way; its claims are not compared
with any query. -/
theorem ingest_isOk :
    (∃ result, ingest record intake now ids tables = .ok result) ↔
      Ingestible record intake now ids tables := by
  have hactor : PyText.strip intake.actorId ≠ "" ↔ PyText.blank intake.actorId = false := by
    rw [ne_eq, PyText.strip_eq_empty, Bool.not_eq_true]
  simp only [ingest, bind_eq_ok, require_eq_ok, pure_eq_ok, exists_const, Bool.and_eq_true,
    decide_eq_true_eq, bne_iff_ne, hactor, Bool.or_eq_true, Bool.not_eq_true',
    List.any_eq_false, beq_iff_eq]
  constructor
  · rintro ⟨_, hactor, hconfidence, hexpires, stored, hstored, hquarantine, _, _, haudit, _⟩
    obtain ⟨hobserved, hevidence⟩ :=
      (addEvidence_evidenceOf_isOk hconfidence hexpires).mp ⟨stored, hstored⟩
    constructor
    · exact hactor
    · exact hconfidence
    · exact hexpires
    · exact hobserved
    · exact hevidence
    · intro hfound
      rcases hquarantine with hempty | hfree
      · exact absurd (List.isEmpty_iff.mp hempty) hfound
      · exact hfree
    · exact haudit
  · intro h
    obtain ⟨stored, hstored⟩ := (addEvidence_evidenceOf_isOk h.confidence h.expires).mpr
      ⟨h.observed, h.evidence⟩
    obtain ⟨audit, haudit⟩ := @audit_new_isOk record intake now ids
      (subjectRef record (identityOf record tables.identities))
      (found record tables.identities) h.actor
    have hquarantine : (found record tables.identities).isEmpty = true ∨
        ∀ row ∈ tables.quarantine, ¬ row.1 = ids.quarantineId := by
      by_cases hfound : found record tables.identities = []
      · exact Or.inl (List.isEmpty_iff.mpr hfound)
      · exact Or.inr (h.quarantine hfound)
    exact ⟨_, h.actor, h.confidence, h.expires, stored, hstored, hquarantine, audit, haudit,
      h.audit, rfl⟩

/-- What is taken in leaves at least its name as evidence. -/
theorem evidence_of_ingest {result : CounterpartyProviderEvidenceResult} {stored : Tables}
    (h : ingest record intake now ids tables = .ok (result, stored)) :
    stored.evidence ≠ tables.evidence := by
  simp only [ingest, bind_eq_ok, require_eq_ok, pure_eq_ok, exists_const] at h
  obtain ⟨_, _, _, evidence, hevidence, _, _, _, _, hresult⟩ := h
  obtain ⟨rfl, rfl⟩ := Prod.mk.inj hresult
  intro hsame
  have hlength := length_addEvidence hevidence
  have hpos := List.length_pos_of_ne_nil (@claims_ne_nil record)
  rw [show evidence = tables.evidence from hsame, evidenceOf, List.length_map,
    List.length_zipIdx] at hlength
  omega

end Ingest

section Attribution

variable {provider : CounterpartyLookupQuery → ℕ → LookupAnswer} {maxAttempts : ℕ}
  {query : CounterpartyLookupQuery} {intake : Intake} {now : Instant} {ids : Ids}
  {tables stored : Tables} {record : CounterpartyProviderRecord}

theorem execute_eq_ok {result : CounterpartyProviderLookupResult} :
    execute provider maxAttempts query intake now ids tables = .ok (result, stored) ↔
      boundedLookup (provider query) 1 maxAttempts = .ok result.providerRecord ∧
        ingest result.providerRecord intake now ids tables =
          .ok (result.evidenceResult, stored) := by
  unfold execute
  cases hlookup : boundedLookup (provider query) 1 maxAttempts with
  | error error => simp
  | ok found =>
      simp only [Except.ok.injEq]
      constructor
      · intro h
        cases hingest : ingest found intake now ids tables with
        | error error =>
            simp only [hingest] at h
            cases h
        | ok outcome =>
            simp only [hingest, Except.ok.injEq, Prod.mk.injEq] at h
            obtain ⟨rfl, rfl⟩ := h
            exact ⟨rfl, hingest⟩
      · rintro ⟨rfl, hingest⟩
        simp only [hingest]

/-- Evidence is kept of a record of the number that was asked for only. -/
def Attributes (provider : CounterpartyLookupQuery → ℕ → LookupAnswer) (maxAttempts : ℕ)
    (query : CounterpartyLookupQuery) (intake : Intake) (now : Instant) (ids : Ids)
    (tables : Tables) : Prop :=
  ∀ result stored, execute provider maxAttempts query intake now ids tables =
    .ok (result, stored) → stored.evidence ≠ tables.evidence →
      result.providerRecord.number query.identifierType = some query.identifier

/-- Evidence is attributed to the number that was asked for exactly when the provider
answers with that number, or the intake is refused. -/
theorem attributes_iff : Attributes provider maxAttempts query intake now ids tables ↔
    ∀ record, boundedLookup (provider query) 1 maxAttempts = .ok record →
      Ingestible record intake now ids tables →
        record.number query.identifierType = some query.identifier := by
  constructor
  · intro h record hlookup hingestible
    obtain ⟨⟨result, stored⟩, hingest⟩ := ingest_isOk.mpr hingestible
    exact h ⟨record, result⟩ stored (execute_eq_ok.mpr ⟨hlookup, hingest⟩)
      (evidence_of_ingest hingest)
  · intro h result stored hexecute _
    obtain ⟨hlookup, hingest⟩ := execute_eq_ok.mp hexecute
    exact h result.providerRecord hlookup (ingest_isOk.mp ⟨_, hingest⟩)

end Attribution

end ProviderEvidence

namespace PublicPreflight

variable {service : PublicCounterpartyPreflightService} {payload : PublicIntakePayload}
  {requestId : String} {now : Instant} {setting : PreflightSetting}
  {lookup : PreflightLookup}

/-- What a run asks its provider for, if it comes to that. -/
def asked (service : PublicCounterpartyPreflightService) (payload : PublicIntakePayload)
    (requestId : String) (now : Instant) (setting : PreflightSetting) :
    Option PreflightLookup :=
  match begin service payload requestId now with
  | .ok (.inr lookup) =>
      if setting.cached lookup.cacheKey = none ∧ setting.exhausted = false then some lookup
      else none
  | _ => none

theorem asked_eq_some : asked service payload requestId now setting = some lookup ↔
    begin service payload requestId now = .ok (.inr lookup) ∧
      setting.cached lookup.cacheKey = none ∧ setting.exhausted = false := by
  unfold asked
  cases hbegin : begin service payload requestId now with
  | error error => simp
  | ok outcome =>
      cases outcome with
      | inl snapshot => simp
      | inr found =>
          simp only [Option.ite_none_right_eq_some, Option.some.injEq, Except.ok.injEq,
            Sum.inr.injEq]
          constructor
          · rintro ⟨hfree, rfl⟩
            exact ⟨rfl, hfree⟩
          · rintro ⟨rfl, hfree⟩
            exact ⟨hfree, rfl⟩

/-- A record always leads to a decision. -/
theorem decision_ne_unknown (status : String) (identity : IdentityMatch) :
    (decision status identity).1 ≠ .unknown := by
  unfold decision
  split
  · simp
  · split
    · simp
    · split <;> simp

/-- A run that is answered with a record assesses it, whatever its numbers are. -/
theorem run_of_record {record : CounterpartyProviderRecord}
    (hasked : asked service payload requestId now setting = some lookup)
    (hrecord : boundedLookup setting.answer 1 2 = .ok record) :
    (run service payload requestId now setting).1 =
      .ok (assess service payload.companyName requestId now lookup record) := by
  obtain ⟨hbegin, hcached, hbudget⟩ := asked_eq_some.mp hasked
  rw [run_of_begin hbegin hcached hbudget]
  simp only [ask, query_of_begin hbegin, hrecord, bind, Except.bind, pure, Except.pure,
    Except.map]

/-- A run decides on a record of the number that was asked for only. -/
def Attributes (service : PublicCounterpartyPreflightService) (payload : PublicIntakePayload)
    (requestId : String) (now : Instant) (setting : PreflightSetting) : Prop :=
  ∀ lookup record snapshot, asked service payload requestId now setting = some lookup →
    boundedLookup setting.answer 1 2 = .ok record →
    (run service payload requestId now setting).1 = .ok snapshot →
    snapshot.decision ≠ .unknown →
      record.number lookup.identifierType = some lookup.identifier

theorem attributes_iff : Attributes service payload requestId now setting ↔
    ∀ lookup record, asked service payload requestId now setting = some lookup →
      boundedLookup setting.answer 1 2 = .ok record →
        record.number lookup.identifierType = some lookup.identifier := by
  constructor
  · intro h lookup record hasked hrecord
    have hdecision : (assess service payload.companyName requestId now lookup record).decision ≠
        .unknown := by
      simp only [assess]
      exact decision_ne_unknown _ _
    exact h lookup record _ hasked hrecord (run_of_record hasked hrecord) hdecision
  · intro h lookup record _ hasked hrecord _ _
    exact h lookup record hasked hrecord

end PublicPreflight

namespace ProviderEvidence

theorem otherCompany_named : PyText.blank "registry" = false ∧
    PyText.startsWith "https://registry.example/7728168971" "https://" = true ∧
    PyText.blank "Other" = false := by
  decide

theorem otherCompany_identified :
    (some "7728168971").getD "" ≠ "" ∨ (none : Option String).getD "" ≠ "" := by
  decide

/-- The record of another company than the one with the INN 7707083893. -/
def otherCompany : CounterpartyProviderRecord where
  providerId := "registry"
  sourceRef := "https://registry.example/7728168971"
  canonicalName := "Other"
  taxId := some "7728168971"
  registrationId := none
  legalStatus := some "liquidated"
  named := otherCompany_named
  identified := otherCompany_identified

theorem sberQuery_valid : counterpartyLookupQuery .inn "7707083893" = .ok "7707083893" := by
  decide +kernel

def sampleQuery : CounterpartyLookupQuery where
  identifierType := .inn
  identifier := "7707083893"
  valid := sberQuery_valid

/-- The registry answers every query with the record of another company. -/
def otherSetting : PreflightSetting where
  cached _ := none
  exhausted := false
  answer _ := .ok otherCompany

theorem evidenceId_injective :
    Function.Injective fun place : ℕ => "e" ++ String.ofList (List.replicate place 'e') := by
  intro first second hsame
  have hlists := congrArg String.toList hsame
  simp only [String.toList_append, String.toList_ofList] at hlists
  have hlengths := congrArg List.length (List.append_cancel_left hlists)
  simpa using hlengths

theorem evidenceId_named (place : ℕ) :
    PyText.blank ("e" ++ String.ofList (List.replicate place 'e')) = false := by
  rw [Bool.eq_false_iff]
  intro hblank
  simp [PyText.blank, PyText.isSpace] at hblank

theorem auditId_named : PyText.blank "a" = false := by
  decide

def intakeIds : Ids where
  evidenceId place := "e" ++ String.ofList (List.replicate place 'e')
  quarantineId := "q"
  auditId := "a"
  distinct := evidenceId_injective
  named := evidenceId_named
  auditNamed := auditId_named

theorem noIdentities_ids : ∀ row ∈ ([] : List Identity),
    PyText.blank row.identityId = false := by
  simp

def noTables : Tables where
  identities := ⟨[], noIdentities_ids, List.Pairwise.nil⟩
  evidence := []
  quarantine := []
  audits := []

def sampleIntake : Intake where
  actorId := "operator"
  claimConfidence := 1
  expiresAt := 1

theorem sampleIntake_ingestible : Ingestible otherCompany sampleIntake 0 intakeIds noTables := by
  constructor
  · decide
  · decide
  · decide
  · decide
  · simp [noTables]
  · simp [noTables]
  · simp [noTables]

end ProviderEvidence

end ShemaPlatform
