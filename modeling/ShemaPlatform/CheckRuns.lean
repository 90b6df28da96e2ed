/-
Checks of companies by any number of operators at once.  A check looks the identity
up at one moment and writes at a later one; all the same the checks take place as
if one after the other, and their results are what the stored identities go on to
say.
-/
import ShemaPlatform.CounterpartyConflicts
import ShemaPlatform.EarlyReads

namespace ShemaPlatform

open Calendar

namespace CounterpartyCheck

/-- The arguments of one call of `check`; its observation comes from the constructor. -/
structure Request (urlsplit : String → Except Failure ParsedUrl) where
  fields : CounterpartyObservation
  observation : CounterpartyObservation
  actorId : String
  correlationId : Option String
  now : Instant
  ids : Ids
  constructed : CounterpartyObservation.new urlsplit fields = .ok observation

variable {urlsplit : String → Except Failure ParsedUrl}

namespace Request

section Write

variable (request : Request urlsplit)

/-- `find_by_tax_id`, which is called when there is a tax id. -/
def lookUp (tables : Tables) : Option Identity :=
  (given request.observation.taxId).bind tables.identities.findByTaxId

/-- `resolve` after the lookup: what was found is compared, else an identity is stored. -/
def resolveWith (found : Option Identity) (table : IdentityTable) :
    Except Failure (Option Identity × List CounterpartyContradiction × IdentityTable) :=
  match given request.observation.taxId with
  | none => .ok (none, [], table)
  | some taxId =>
      match found with
      | some identity =>
          .ok (some identity, contradictions request.observation identity, table)
      | none => do
          let identity : Identity := ⟨request.ids.identityId,
            request.observation.canonicalName, .identified, some taxId,
            request.observation.registrationId⟩
          let table ← table.add identity request.ids.valid
          return (some identity, [], table)

/-- The result for an identity with these contradictions. -/
def resultFor (twoPlaces : ℚ → String) (identity : Option Identity)
    (found : List CounterpartyContradiction) : CounterpartyCheckResult :=
  ⟨(identity.map (·.identityId)).getD (subjectKey request.observation), identity,
    freshness request.observation.expiresAt request.now,
    (List.range (claims request.observation).length).map request.ids.evidenceId, found,
    !found.isEmpty, operatorBrief request.observation twoPlaces found request.now⟩

/-- What `check` does after its lookup.  The inserts are one step with the commit: where
an open transaction has inserted a unique key, the insert of the same key waits for the
end of that transaction. -/
def write (twoPlaces : ℚ → String) (looked : Option Identity) (tables : Tables) :
    Except Failure (CounterpartyCheckResult × Tables) := do
  let actorId := PyText.strip request.actorId
  require (actorId != "") (.valueError "actor_id is required")
  let (identity, found, identities) ← request.resolveWith looked tables.identities
  let subjectRef := (identity.map (·.identityId)).getD (subjectKey request.observation)
  let evidence ← addEvidence request.observation request.ids subjectRef request.now 0
    (claims request.observation) tables.evidence
  let quarantine := if found.isEmpty then tables.quarantine
    else tables.quarantine ++
      [(request.ids.quarantineId, quarantineFor request.observation subjectRef found)]
  require (found.isEmpty ||
      !tables.quarantine.any fun row => row.1 == request.ids.quarantineId)
    (.uniqueViolation "quarantine_record_pkey")
  let audit ← (auditFor request.observation request.ids actorId subjectRef
    (claims request.observation).length found request.correlationId request.now).new
  require (!tables.audits.any fun record => record.auditId == request.ids.auditId)
    (.uniqueViolation "audit_log_pkey")
  return (request.resultFor twoPlaces identity found,
    ⟨identities, evidence, quarantine, tables.audits ++ [audit]⟩)

/-- A check at one moment. -/
def checkNow (twoPlaces : ℚ → String) (tables : Tables) :
    Except Failure (CounterpartyCheckResult × Tables) :=
  check request.observation twoPlaces request.actorId request.correlationId request.now
    request.ids tables

theorem resolve_eq (tables : Tables) :
    resolve request.observation request.ids tables.identities =
      request.resolveWith (request.lookUp tables) tables.identities := by
  rw [resolve.eq_def, resolveWith.eq_def, lookUp]
  cases given request.observation.taxId with
  | none => rfl
  | some taxId => rfl

/-- A check is its writes upon a lookup of the same moment. -/
theorem checkNow_eq (twoPlaces : ℚ → String) (tables : Tables) :
    request.checkNow twoPlaces tables =
      request.write twoPlaces (request.lookUp tables) tables := by
  rw [checkNow, check, request.resolve_eq]
  rfl

end Write

section Observation

variable (request : Request urlsplit)

/-- What the constructor leaves of the texts that are compared and stored. -/
structure Clean (observation : CounterpartyObservation) : Prop where
  taxId : ∀ taxId ∈ observation.taxId, PyText.strip taxId = taxId
  name : PyText.strip observation.canonicalName = observation.canonicalName
  identifier : PyText.strip observation.identifier = observation.identifier
  identified : PyText.blank observation.identifier = false

theorem clean : Clean request.observation := by
  have h := request.constructed
  simp only [CounterpartyObservation.new, bind_eq_ok, require_eq_ok, pure_eq_ok, exists_const,
    Bool.and_eq_true, Bool.or_eq_true, bne_iff_ne, beq_iff_eq, decide_eq_true_eq] at h
  obtain ⟨⟨hidentifier, _⟩, _, _, _, _, _, _, _, _, _, _, hobservation⟩ := h
  rw [← hobservation]
  constructor
  · exact fun _ hmem => given_stripped hmem
  · exact PyText.strip_strip _
  · exact PyText.strip_strip _
  · rw [PyText.blank_strip, Bool.eq_false_iff]
    exact fun hblank => hidentifier (PyText.strip_eq_empty.mpr hblank)

theorem strip_taxId {taxId : String} (h : given request.observation.taxId = some taxId) :
    PyText.strip taxId = taxId :=
  request.clean.taxId taxId (given_eq_some.mp h).1

/-- The evidence of a check is stored as it is made. -/
theorem evidence_new_eq {subjectRef claim : String} {place : ℕ} {kept : Evidence}
    (h : (evidenceFor request.observation request.ids subjectRef request.now place
      claim).new = .ok kept) :
    kept = evidenceFor request.observation request.ids subjectRef request.now place claim := by
  have hclean := request.clean
  have hreliability : PyText.blank request.observation.sourceReliability.value = false ∧
      PyText.strip request.observation.sourceReliability.value =
        request.observation.sourceReliability.value := by
    cases request.observation.sourceReliability with
    | authoritative => decide
    | primary => decide
    | trustedSecondary => decide
    | unverified => decide
  have htype : PyText.blank request.observation.identifierType.value = false ∧
      PyText.strip request.observation.identifierType.value =
        request.observation.identifierType.value := by
    cases request.observation.identifierType with
    | inn => decide
    | ogrn => decide
    | ogrnip => decide
  have hfirst : PyText.blank "source_reliability" = false ∧
      PyText.strip "source_reliability" = "source_reliability" := by decide
  have hsecond : PyText.blank "identifier_type" = false ∧
      PyText.strip "identifier_type" = "identifier_type" := by decide
  have hthird : PyText.blank "identifier" = false ∧
      PyText.strip "identifier" = "identifier" := by decide
  simp only [Evidence.new, bind_eq_ok, pure_eq_ok] at h
  obtain ⟨_, _, _, _, _, _, _, _, _, _, _, _, rfl⟩ := h
  simp only [evidenceFor, List.filter_cons, List.filter_nil, hfirst.1, hsecond.1, hthird.1,
    hreliability.1, htype.1, hclean.identified, Bool.not_false, Bool.and_self, ↓reduceIte,
    List.map_cons, List.map_nil, hfirst.2, hsecond.2, hthird.2, hreliability.2, htype.2,
    hclean.identifier]

/-- The evidence rows of a check about a subject, one for each claim. -/
def evidenceRows (subjectRef : String) : List Evidence :=
  (claims request.observation).zipIdx.map fun entry =>
    evidenceFor request.observation request.ids subjectRef request.now entry.2 entry.1

theorem addEvidence_eq_ok {subjectRef : String} {texts : List String} {place : ℕ}
    {stored stored' : List Evidence}
    (h : addEvidence request.observation request.ids subjectRef request.now place texts
      stored = .ok stored') :
    stored' = stored ++ (texts.zipIdx place).map fun entry =>
      evidenceFor request.observation request.ids subjectRef request.now entry.2 entry.1 := by
  induction texts generalizing place stored with
  | nil =>
      cases h
      simp
  | cons claim rest ih =>
      simp only [addEvidence, bind_eq_ok, require_eq_ok] at h
      obtain ⟨kept, hkept, _, _, hrest⟩ := h
      rw [request.evidence_new_eq hkept] at hrest
      rw [ih hrest, List.append_assoc]
      rfl

end Observation

end Request

section Runs

variable {twoPlaces : ℚ → String}

/-- The identities of one state are there, in their order, in a later one. -/
def Later (tables tables' : Tables) : Prop :=
  ∃ more, tables'.identities.rows = tables.identities.rows ++ more

theorem lookUp_of_later {tables tables' : Tables} (h : Later tables tables')
    {request : Request urlsplit} {identity : Identity}
    (hfound : request.lookUp tables = some identity) :
    request.lookUp tables' = some identity := by
  obtain ⟨more, hmore⟩ := h
  rw [Request.lookUp, Option.bind_eq_some_iff] at hfound ⊢
  obtain ⟨taxId, hgiven, hidentity⟩ := hfound
  refine ⟨taxId, hgiven, ?_⟩
  rw [IdentityTable.findByTaxId] at hidentity ⊢
  rw [hmore, List.find?_append, hidentity]
  rfl

/-- What the resolution of a check does: nothing without a tax id, nothing to the table
where the identity is stored, and else the identity is stored. -/
inductive Resolves (request : Request urlsplit) (table : IdentityTable) :
    Option Identity → IdentityTable → Prop where
  | unidentified (hgiven : given request.observation.taxId = none) :
      Resolves request table none table
  | known {taxId : String} {identity : Identity}
      (hgiven : given request.observation.taxId = some taxId)
      (hfound : table.findByTaxId taxId = some identity) :
      Resolves request table (some identity) table
  | stored {taxId : String} {table' : IdentityTable}
      (hgiven : given request.observation.taxId = some taxId)
      (hmissing : table.findByTaxId taxId = none)
      (hrows : table'.rows = table.rows ++ [⟨request.ids.identityId,
        request.observation.canonicalName, .identified, some taxId,
        request.observation.registrationId⟩]) :
      Resolves request table (some ⟨request.ids.identityId,
        request.observation.canonicalName, .identified, some taxId,
        request.observation.registrationId⟩) table'

/-- An identity that was stored for the observation is not contradicted by it. -/
theorem contradictions_stored (request : Request urlsplit) (identityId taxId : String) :
    contradictions request.observation ⟨identityId, request.observation.canonicalName,
      .identified, some taxId, request.observation.registrationId⟩ = [] := by
  have hname := request.clean.name
  rw [contradictions, hname]
  cases given request.observation.registrationId with
  | none => simp
  | some registrationId => simp

/-- The resolution of a check that was accepted on what an earlier state said. -/
theorem resolveWith_eq_ok {request : Request urlsplit} {early tables : Tables}
    (hlater : Later early tables) {identity : Option Identity}
    {found : List CounterpartyContradiction} {table' : IdentityTable}
    (h : request.resolveWith (request.lookUp early) tables.identities =
      .ok (identity, found, table')) :
    Resolves request tables.identities identity table' ∧
      found = identity.elim [] (contradictions request.observation) ∧
        request.resolveWith (request.lookUp tables) tables.identities =
          .ok (identity, found, table') := by
  cases hgiven : given request.observation.taxId with
  | none =>
      simp only [Request.resolveWith, hgiven] at h ⊢
      cases h
      exact ⟨.unidentified hgiven, rfl, rfl⟩
  | some taxId =>
      cases hlooked : request.lookUp early with
      | some known =>
          have hnow := lookUp_of_later hlater hlooked
          rw [hlooked] at h
          rw [hnow]
          have hfound : tables.identities.findByTaxId taxId = some known := by
            rw [Request.lookUp, hgiven] at hnow
            exact hnow
          refine ⟨?_, ?_, h⟩
          · simp only [Request.resolveWith, hgiven] at h
            cases h
            exact .known hgiven hfound
          · simp only [Request.resolveWith, hgiven] at h
            cases h
            rfl
      | none =>
          rw [hlooked] at h
          have hadded := h
          simp only [Request.resolveWith, hgiven, bind_eq_ok, pure_eq_ok, Prod.mk.injEq]
            at hadded
          obtain ⟨added, hadd, rfl, rfl, rfl⟩ := hadded
          obtain ⟨hapart, hrows⟩ := (IdentityTable.add_eq_ok request.ids.valid).mp hadd
          have hmissing : tables.identities.findByTaxId taxId = none := by
            rw [IdentityTable.findByTaxId_eq_none (request.strip_taxId hgiven)]
            intro row hrow hsame
            rcases (hapart row hrow).2.1 with hnone | hdiffers
            · rw [hsame] at hnone
              cases hnone
            · exact hdiffers hsame
          have hnow : request.lookUp tables = none := by
            rw [Request.lookUp, hgiven]
            exact hmissing
          refine ⟨.stored hgiven hmissing hrows, ?_, ?_⟩
          · exact (contradictions_stored request _ taxId).symm
          · rw [hnow]
            exact h

theorem Resolves.later {request : Request urlsplit} {table table' : IdentityTable}
    {identity : Option Identity} (h : Resolves request table identity table') :
    ∃ more, table'.rows = table.rows ++ more := by
  cases h with
  | unidentified hgiven => exact ⟨[], (List.append_nil _).symm⟩
  | known hgiven hfound => exact ⟨[], (List.append_nil _).symm⟩
  | stored hgiven hmissing hrows => exact ⟨_, hrows⟩

/-- After its check the identity is what the lookup finds. -/
theorem Resolves.found {request : Request urlsplit} {table table' : IdentityTable}
    {identity : Option Identity} (h : Resolves request table identity table') :
    (given request.observation.taxId).bind table'.findByTaxId = identity := by
  cases h with
  | unidentified hgiven =>
      rw [hgiven]
      rfl
  | known hgiven hfound =>
      rw [hgiven]
      exact hfound
  | @stored taxId table' hgiven hmissing hrows =>
      rw [hgiven, Option.bind_some, IdentityTable.findByTaxId, hrows, List.find?_append]
      rw [IdentityTable.findByTaxId] at hmissing
      rw [hmissing, request.strip_taxId hgiven]
      simp

/-- The result of a check of an identity. -/
def Request.report (request : Request urlsplit) (twoPlaces : ℚ → String)
    (identity : Option Identity) : CounterpartyCheckResult :=
  request.resultFor twoPlaces identity
    (identity.elim [] (contradictions request.observation))

/-- The audit record of a check with this result. -/
def Request.auditRow (request : Request urlsplit) (result : CounterpartyCheckResult) :
    AuditRecord :=
  auditFor request.observation request.ids (PyText.strip request.actorId) result.subjectRef
    (claims request.observation).length result.contradictions request.correlationId request.now

/-- The quarantine record of a check, if it has found contradictions. -/
def Request.quarantineRow (request : Request urlsplit) (result : CounterpartyCheckResult) :
    Option (String × Quarantined) :=
  if result.quarantined then some (request.ids.quarantineId,
    quarantineFor request.observation result.subjectRef result.contradictions) else none

/-- What a committed check has written, and what it has answered. -/
structure Written (twoPlaces : ℚ → String) (request : Request urlsplit)
    (result : CounterpartyCheckResult) (tables next : Tables) : Prop where
  resolves : Resolves request tables.identities result.identity next.identities
  answer : result = request.report twoPlaces (request.lookUp next)
  evidence : next.evidence = tables.evidence ++ request.evidenceRows result.subjectRef
  quarantine : next.quarantine = tables.quarantine ++ (request.quarantineRow result).toList
  audits : next.audits = tables.audits ++ [request.auditRow result]

theorem write_eq_ok {request : Request urlsplit} {early tables next : Tables}
    {result : CounterpartyCheckResult} (hlater : Later early tables)
    (h : request.write twoPlaces (request.lookUp early) tables = .ok (result, next)) :
    Written twoPlaces request result tables next ∧
      request.write twoPlaces (request.lookUp tables) tables = .ok (result, next) := by
  simp only [Request.write, bind_eq_ok, require_eq_ok, exists_const] at h
  obtain ⟨hactor, ⟨identity, found, identities⟩, hresolve, evidence, hevidence, hquarantine,
    audit, haudit, hfresh, hlast⟩ := h
  obtain ⟨hresolves, rfl, hnow⟩ := resolveWith_eq_ok hlater hresolve
  have hwritten := hlast
  simp only [pure_eq_ok, Prod.mk.injEq] at hwritten
  obtain ⟨rfl, rfl⟩ := hwritten
  constructor
  · constructor
    · exact hresolves
    · rw [Request.report, Request.lookUp, hresolves.found]
    · exact request.addEvidence_eq_ok hevidence
    · simp only [Request.quarantineRow, Request.resultFor]
      cases identity.elim [] (contradictions request.observation) with
      | nil => simp
      | cons first rest => simp
    · rw [AuditRecord.new_eq_ok haudit]
      rfl
  · simp only [Request.write, bind_eq_ok, require_eq_ok, exists_const]
    exact ⟨hactor, _, hnow, evidence, hevidence, hquarantine, audit, haudit, hfresh, rfl⟩

theorem Written.later {request : Request urlsplit} {tables next : Tables}
    {result : CounterpartyCheckResult} (h : Written twoPlaces request result tables next) :
    Later tables next :=
  h.resolves.later

theorem Later.refl (tables : Tables) : Later tables tables :=
  ⟨[], (List.append_nil _).symm⟩

theorem Later.trans {first second third : Tables} (hfirst : Later first second)
    (hsecond : Later second third) : Later first third := by
  obtain ⟨more, hmore⟩ := hfirst
  obtain ⟨rest, hrest⟩ := hsecond
  exact ⟨more ++ rest, by rw [hrest, hmore, List.append_assoc]⟩

theorem Written.agrees {request : Request urlsplit} {tables next : Tables}
    {result : CounterpartyCheckResult} (h : Written twoPlaces request result tables next) :
    result.identity = request.lookUp next := by
  rw [h.answer]
  rfl

theorem stable : EarlyReads.Stable (@Request.lookUp urlsplit)
    (fun request => request.write twoPlaces) Later := by
  constructor
  · exact Later.refl
  · exact Later.trans
  · exact fun hlater h => (write_eq_ok hlater h).1.later
  · exact fun hlater h => (write_eq_ok hlater h).2

/-- Checks one after the other, each of them at one moment. -/
def oneByOne (twoPlaces : ℚ → String) (tables : Tables) :
    List (Request urlsplit) → Except Failure (List CounterpartyCheckResult × Tables)
  | [] => .ok ([], tables)
  | request :: rest => do
      let (result, tables) ← request.checkNow twoPlaces tables
      let (results, tables) ← oneByOne twoPlaces tables rest
      return (result :: results, tables)

theorem oneByOne_eq (tables : Tables) (requests : List (Request urlsplit)) :
    oneByOne twoPlaces tables requests = EarlyReads.serially (@Request.lookUp urlsplit)
      (fun request => request.write twoPlaces) tables requests := by
  induction requests generalizing tables with
  | nil => rfl
  | cons request rest ih =>
      simp only [oneByOne, EarlyReads.serially, request.checkNow_eq, ih]

variable {Operator : Type} [DecidableEq Operator]

/-- The tables, the checks under way and those that were committed, after some actions of
the operators. -/
def checksAfter (twoPlaces : ℚ → String) (start : Tables)
    (actions : List (EarlyReads.Action Operator (Request urlsplit))) :
    EarlyReads.System Operator Tables (Request urlsplit) (Option Identity)
      CounterpartyCheckResult :=
  EarlyReads.run (@Request.lookUp urlsplit) (fun request => request.write twoPlaces)
    (EarlyReads.System.idle start) actions

/-- However the checks of the operators interleave, those that were committed have the
results and leave the tables of checks made one after the other, in that order. -/
theorem checks_serializable (twoPlaces : ℚ → String) (start : Tables)
    (actions : List (EarlyReads.Action Operator (Request urlsplit))) :
    oneByOne twoPlaces start ((checksAfter twoPlaces start actions).committed.map Prod.fst) =
      .ok ((checksAfter twoPlaces start actions).committed.map Prod.snd,
        (checksAfter twoPlaces start actions).state) := by
  rw [oneByOne_eq]
  exact (EarlyReads.serial_of_run stable start actions).committed

/-- What the committed checks have left: their rows, one after the other, and results
that are those of a check of the tables as they are now. -/
structure Standing (twoPlaces : ℚ → String) (start tables : Tables)
    (committed : List (Request urlsplit × CounterpartyCheckResult)) : Prop where
  answers : ∀ entry ∈ committed,
    entry.2 = entry.1.report twoPlaces (entry.1.lookUp tables)
  identified : ∀ entry ∈ committed, (given entry.1.observation.taxId).isSome = true →
    (entry.1.lookUp tables).isSome = true
  identities : ∃ more, tables.identities.rows = start.identities.rows ++ more ∧
    ∀ row ∈ more, ∃ entry ∈ committed, entry.1.lookUp tables = some row ∧
      row = ⟨entry.1.ids.identityId, entry.1.observation.canonicalName, .identified,
        entry.1.observation.taxId, entry.1.observation.registrationId⟩
  evidence : tables.evidence = start.evidence ++
    committed.flatMap fun entry => entry.1.evidenceRows entry.2.subjectRef
  quarantine : tables.quarantine = start.quarantine ++
    committed.filterMap fun entry => entry.1.quarantineRow entry.2
  audits : tables.audits = start.audits ++
    committed.map fun entry => entry.1.auditRow entry.2

theorem Standing.append {start tables next : Tables}
    {committed : List (Request urlsplit × CounterpartyCheckResult)}
    {request : Request urlsplit} {result : CounterpartyCheckResult}
    (h : Standing twoPlaces start tables committed)
    (hwritten : Written twoPlaces request result tables next) :
    Standing twoPlaces start next (committed ++ [(request, result)]) := by
  -- a lookup without a tax id finds nothing, any other one goes on to find what it found
  have hkept : ∀ entry ∈ committed, entry.1.lookUp next = entry.1.lookUp tables := by
    intro entry hentry
    cases hgiven : given entry.1.observation.taxId with
    | none =>
        rw [Request.lookUp, Request.lookUp, hgiven]
        rfl
    | some taxId =>
        have hsome := h.identified entry hentry (by rw [hgiven]; rfl)
        obtain ⟨identity, hidentity⟩ := Option.isSome_iff_exists.mp hsome
        rw [hidentity]
        exact lookUp_of_later hwritten.later hidentity
  constructor
  · intro entry hentry
    rcases List.mem_append.mp hentry with hold | hnew
    · rw [hkept entry hold]
      exact h.answers entry hold
    · rw [List.mem_singleton.mp hnew]
      exact hwritten.answer
  · intro entry hentry hgiven
    rcases List.mem_append.mp hentry with hold | hnew
    · rw [hkept entry hold]
      exact h.identified entry hold hgiven
    · rw [List.mem_singleton.mp hnew] at hgiven ⊢
      rw [← hwritten.agrees]
      have hresolves := hwritten.resolves
      generalize result.identity = identity at hresolves ⊢
      generalize next.identities = table' at hresolves
      cases hresolves with
      | unidentified hnone =>
          rw [hnone] at hgiven
          cases hgiven
      | known _ _ => rfl
      | stored _ _ _ => rfl
  · obtain ⟨more, hmore, hfounded⟩ := h.identities
    have holder : ∀ row ∈ more, ∃ entry ∈ committed ++ [(request, result)],
        entry.1.lookUp next = some row ∧ row = ⟨entry.1.ids.identityId,
          entry.1.observation.canonicalName, .identified, entry.1.observation.taxId,
          entry.1.observation.registrationId⟩ := by
      intro row hrow
      obtain ⟨entry, hentry, hlooked, hsame⟩ := hfounded row hrow
      exact ⟨entry, List.mem_append_left _ hentry, (hkept entry hentry).trans hlooked, hsame⟩
    have hresolves := hwritten.resolves
    have hagrees := hwritten.agrees
    generalize result.identity = identity at hresolves hagrees
    generalize next.identities = table' at hresolves ⊢
    cases hresolves with
    | unidentified _ => exact ⟨more, hmore, holder⟩
    | known _ _ => exact ⟨more, hmore, holder⟩
    | stored hgiven _ hrows =>
        refine ⟨more ++ [_], by rw [hrows, hmore, List.append_assoc], ?_⟩
        intro row hrow
        rcases List.mem_append.mp hrow with hold | hnew
        · exact holder row hold
        · refine ⟨(request, result), List.mem_append_right _ (List.mem_singleton.mpr rfl),
            hagrees.symm.trans ?_, ?_⟩
          · rw [List.mem_singleton.mp hnew]
          · rw [List.mem_singleton.mp hnew, (given_eq_some.mp hgiven).1]
  · rw [hwritten.evidence, h.evidence, List.flatMap_append, List.append_assoc,
      List.flatMap_singleton]
  · rw [hwritten.quarantine, h.quarantine, List.filterMap_append, List.append_assoc]
    cases hrow : request.quarantineRow result with
    | none => simp [hrow]
    | some row => simp [hrow]
  · rw [hwritten.audits, h.audits, List.map_append, List.append_assoc]
    rfl

/-- However the checks interleave, every result that one has given is what a check of the
tables would say at the end, and the rows that were added are those of the checks. -/
theorem results_stand (twoPlaces : ℚ → String) (start : Tables)
    (actions : List (EarlyReads.Action Operator (Request urlsplit))) :
    Standing twoPlaces start (checksAfter twoPlaces start actions).state
      (checksAfter twoPlaces start actions).committed := by
  apply EarlyReads.holds_of_run stable
  · intro tables committed request result next h hwrite
    exact h.append (write_eq_ok (Later.refl tables) hwrite).1
  · constructor
    · intro entry hentry
      cases hentry
    · intro entry hentry
      cases hentry
    · exact ⟨[], (List.append_nil _).symm, fun row hrow => by cases hrow⟩
    · exact (List.append_nil _).symm
    · exact (List.append_nil _).symm
    · exact (List.append_nil _).symm

end Runs

end CounterpartyCheck

end ShemaPlatform
