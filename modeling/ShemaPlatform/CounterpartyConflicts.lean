/-
When a check of a company completes and quarantines exactly the observations that
conflict with a stored identity.
-/
import ShemaPlatform.CounterpartyCheck

namespace ShemaPlatform

open Calendar

namespace CounterpartyCheck

/-- The stored name is not blank and another than the observed one. -/
def NameDiffers (observation : CounterpartyObservation) (identity : Identity) : Prop :=
  PyText.blank identity.canonicalName = false ∧
    PyText.strip identity.canonicalName ≠ observation.canonicalName

/-- Two ids, neither of them blank, that are not the same. -/
def Differs (existing observed : Option String) : Prop :=
  ∃ a b, existing = some a ∧ observed = some b ∧ PyText.blank a = false ∧
    PyText.blank b = false ∧ a ≠ b

/-- A stored identity shares one of the observation's ids. -/
def Shares (observation : CounterpartyObservation) (identity : Identity) : Prop :=
  (∃ taxId, given observation.taxId = some taxId ∧ identity.taxId = some taxId) ∨
    ∃ registrationId, given observation.registrationId = some registrationId ∧
      identity.registrationId = some registrationId

/-- It shares one of the ids and disagrees elsewhere. -/
structure Conflicts (observation : CounterpartyObservation) (identity : Identity) : Prop where
  shares : Shares observation identity
  disagrees : NameDiffers observation identity ∨ Differs identity.taxId observation.taxId ∨
    Differs identity.registrationId observation.registrationId

/-- A registration id of white space only, which is compared all the same. -/
def BlankRegistration (observation : CounterpartyObservation) (identity : Identity) : Prop :=
  (given observation.registrationId).isSome = true ∧ ∃ existing,
    identity.registrationId = some existing ∧ existing ≠ "" ∧ PyText.blank existing = true

/-- The check completes, writes a quarantine record exactly if some stored identity
conflicts, and then leaves the identities alone. -/
def Meets (twoPlaces : ℚ → String) (observation : CounterpartyObservation) (actorId : String)
    (correlationId : Option String) (now : Instant) (ids : Ids) (tables : Tables) : Prop :=
  ∃ result tables', check observation twoPlaces actorId correlationId now ids tables =
      .ok (result, tables') ∧
    ((∃ record, tables'.quarantine = tables.quarantine ++ [record]) ↔
      ∃ identity ∈ tables.identities.rows, Conflicts observation identity) ∧
    ((∃ identity ∈ tables.identities.rows, Conflicts observation identity) →
      tables'.identities = tables.identities)

/-- What the lookup by the tax id alone does not miss: without a tax id, the identity with
the registration id has no other name; with a new tax id, the registration id is new too;
and the identity with the tax id conflicts itself, or no other one does. -/
def Resolvable (observation : CounterpartyObservation) (table : IdentityTable) : Prop :=
  match given observation.taxId with
  | none => ∀ other ∈ table.rows, other.registrationId = observation.registrationId →
      ¬NameDiffers observation other
  | some taxId =>
      match table.findByTaxId taxId with
      | none => ∀ other ∈ table.rows,
          other.registrationId = none ∨ other.registrationId ≠ observation.registrationId
      | some identity => Conflicts observation identity ∨
          (BlankRegistration observation identity ↔
            ∃ other ∈ table.rows, Conflicts observation other)

/-- The ids that `uuid4` draws are new. -/
structure Fresh (ids : Ids) (tables : Tables) : Prop where
  identity : ∀ row ∈ tables.identities.rows, row.identityId ≠ ids.identityId
  evidence : ∀ place, ∀ row ∈ tables.evidence, row.evidenceId ≠ ids.evidenceId place
  distinct : Function.Injective ids.evidenceId
  named : ∀ place, PyText.blank (ids.evidenceId place) = false
  quarantine : ∀ row ∈ tables.quarantine, row.1 ≠ ids.quarantineId
  audit : ∀ record ∈ tables.audits, record.auditId ≠ ids.auditId
  auditNamed : PyText.blank ids.auditId = false

/-- What the constructor leaves of an observation. -/
structure Accepted (observation : CounterpartyObservation) : Prop where
  name : observation.canonicalName ≠ ""
  taxId : ∀ taxId ∈ observation.taxId, PyText.strip taxId = taxId
  registrationId : ∀ registrationId ∈ observation.registrationId,
    PyText.strip registrationId = registrationId
  identified : (given observation.taxId).isSome = true ∨
    (given observation.registrationId).isSome = true
  source : PyText.blank observation.sourceRef = false
  confidence : 0 ≤ observation.claimConfidence ∧ observation.claimConfidence ≤ 1
  expires : observation.observedAt ≤ observation.expiresAt

section Given

variable {value : Option String} {text : String}

theorem given_eq_some : given value = some text ↔ value = some text ∧ text ≠ "" := by
  rw [given, Option.filter_eq_some_iff]
  simp

theorem given_stripped (h : text ∈ stripped value) : PyText.strip text = text := by
  rw [stripped, Option.mem_def, Option.map_eq_some_iff] at h
  obtain ⟨raw, _, rfl⟩ := h
  exact PyText.strip_strip raw

/-- A given id that is stripped is not blank. -/
theorem blank_of_given (h : given value = some text)
    (hstripped : ∀ text ∈ value, PyText.strip text = text) : PyText.blank text = false := by
  obtain ⟨hvalue, hne⟩ := given_eq_some.mp h
  rw [Bool.eq_false_iff]
  intro hblank
  exact hne ((hstripped text hvalue).symm.trans (PyText.strip_eq_empty.mpr hblank))

end Given

theorem accepted_of_new {urlsplit : String → Except Failure ParsedUrl}
    {fields observation : CounterpartyObservation}
    (hempty : ∀ parsed, urlsplit "" = .ok parsed → parsed.scheme ≠ "https")
    (h : CounterpartyObservation.new urlsplit fields = .ok observation) :
    Accepted observation := by
  simp only [CounterpartyObservation.new, bind_eq_ok, require_eq_ok, pure_eq_ok, exists_const,
    Bool.and_eq_true, Bool.or_eq_true, bne_iff_ne, beq_iff_eq, decide_eq_true_eq] at h
  obtain ⟨_, _, hname, hidentified, parsed, hparsed, ⟨hscheme, _⟩, _, _, hconfidence, hexpires,
    rfl⟩ := h
  constructor
  · exact hname
  · exact fun _ hmem => given_stripped hmem
  · exact fun _ hmem => given_stripped hmem
  · exact hidentified
  · rw [PyText.blank_strip, Bool.eq_false_iff]
    intro hblank
    rw [PyText.strip_eq_empty.mpr hblank] at hparsed
    exact hempty parsed hparsed hscheme
  · exact hconfidence
  · exact hexpires

section Evidence

variable {observation : CounterpartyObservation} {ids : Ids} {subjectRef : String}
  {now : Instant} {tables : Tables}

theorem blank_claim {claim : String} (h : claim ∈ claims observation) :
    PyText.blank claim = false := by
  rw [claims, List.mem_filterMap] at h
  obtain ⟨entry, _, hclaim⟩ := h
  rw [Option.map_eq_some_iff] at hclaim
  obtain ⟨value, _, rfl⟩ := hclaim
  rw [Bool.eq_false_iff]
  intro hblank
  rw [PyText.blank, String.toList_append, String.toList_append, List.all_append,
    List.all_append] at hblank
  simp [PyText.isSpace] at hblank

/-- A claim is turned into evidence exactly when it was observed by now. -/
theorem evidence_new_iff (haccepted : Accepted observation) (hids : ∀ place,
      PyText.blank (ids.evidenceId place) = false) (hsubject : PyText.blank subjectRef = false)
    {place : ℕ} {claim : String} (hclaim : claim ∈ claims observation) :
    (∃ evidence, (evidenceFor observation ids subjectRef now place claim).new = .ok evidence ∧
        evidence.evidenceId = ids.evidenceId place) ↔ observation.observedAt ≤ now := by
  simp only [Evidence.new, bind_eq_ok, require_eq_ok, pure_eq_ok, exists_const,
    Bool.and_eq_true, decide_eq_true_eq, evidenceFor, hids, hsubject, blank_claim hclaim,
    haccepted.source, haccepted.confidence, haccepted.expires, Option.all_some, Bool.not_false,
    and_self, true_and]
  constructor
  · rintro ⟨_, ⟨hobserved, _⟩, _⟩
    exact of_decide_eq_true hobserved
  · intro hobserved
    exact ⟨_, ⟨decide_eq_true hobserved, rfl⟩, rfl⟩

/-- All claims become evidence exactly when they were observed by now. -/
theorem addEvidence_iff (haccepted : Accepted observation) (hids : ∀ place,
      PyText.blank (ids.evidenceId place) = false) (hdistinct : Function.Injective ids.evidenceId)
    (hsubject : PyText.blank subjectRef = false) {texts : List String}
    (htexts : ∀ claim ∈ texts, claim ∈ claims observation) {place : ℕ} {stored : List Evidence}
    (hnew : ∀ later, place ≤ later → ∀ row ∈ stored, row.evidenceId ≠ ids.evidenceId later) :
    (∃ stored', addEvidence observation ids subjectRef now place texts stored = .ok stored') ↔
      texts = [] ∨ observation.observedAt ≤ now := by
  induction texts generalizing place stored with
  | nil => exact iff_of_true ⟨stored, rfl⟩ (Or.inl rfl)
  | cons claim rest ih =>
      obtain ⟨hclaim, hrest⟩ := List.forall_mem_cons.mp htexts
      have hone := @evidence_new_iff observation ids subjectRef now haccepted hids hsubject place
        claim hclaim
      simp only [addEvidence, bind_eq_ok, require_eq_ok, exists_const, reduceCtorEq, false_or]
      constructor
      · rintro ⟨_, evidence, hevidence, _⟩
        apply hone.mp
        have hid : evidence.evidenceId = ids.evidenceId place := by
          simp only [Evidence.new, bind_eq_ok, pure_eq_ok] at hevidence
          obtain ⟨_, _, _, _, _, _, _, _, _, _, _, _, rfl⟩ := hevidence
          rfl
        exact ⟨evidence, hevidence, hid⟩
      · intro hobserved
        obtain ⟨evidence, hevidence, hid⟩ := hone.mpr hobserved
        have hlater : ∀ later, place + 1 ≤ later → ∀ row ∈ stored ++ [evidence],
            row.evidenceId ≠ ids.evidenceId later := by
          intro later hle row hrow
          rcases List.mem_append.mp hrow with hold | hlast
          · exact hnew later (by omega) row hold
          · rw [List.mem_singleton.mp hlast, hid]
            intro hsame
            have := hdistinct hsame
            omega
        obtain ⟨stored', hstored⟩ := (ih hrest hlater).mpr (Or.inr hobserved)
        refine ⟨stored', evidence, hevidence, ?_, hstored⟩
        simp only [Bool.not_eq_true', List.any_eq_false, beq_iff_eq, hid]
        exact hnew place le_rfl

theorem claims_ne_nil (haccepted : Accepted observation) : claims observation ≠ [] := by
  have hname : given (some observation.canonicalName) = some observation.canonicalName :=
    given_eq_some.mpr ⟨rfl, haccepted.name⟩
  simp [claims, hname]

end Evidence

section Resolve

variable {observation : CounterpartyObservation} {ids : Ids} {table table' : IdentityTable}
  {identity : Identity} {taxId : String}

theorem IdentityTable.findByTaxId_eq_some (hstripped : PyText.strip taxId = taxId)
    (h : table.findByTaxId taxId = some identity) :
    identity ∈ table.rows ∧ identity.taxId = some taxId := by
  have hfound := List.find?_some h
  rw [hstripped, beq_iff_eq] at hfound
  exact ⟨List.mem_of_find?_eq_some h, hfound⟩

theorem IdentityTable.findByTaxId_eq_none (hstripped : PyText.strip taxId = taxId) :
    table.findByTaxId taxId = none ↔ ∀ row ∈ table.rows, row.taxId ≠ some taxId := by
  rw [findByTaxId, hstripped, List.find?_eq_none]
  simp

theorem IdentityTable.add_eq_ok (hid : PyText.blank identity.identityId = false) :
    table.add identity hid = .ok table' ↔ (∀ row ∈ table.rows, Apart row identity) ∧
      table'.rows = table.rows ++ [identity] := by
  rw [add]
  split
  · rename_i hapart
    rw [and_iff_right hapart]
    constructor
    · intro h
      rw [← Except.ok.inj h]
    · intro hrows
      rw [Except.ok.injEq, IdentityTable.mk.injEq, hrows]
  · rename_i hapart
    exact iff_of_false (fun h => nomatch h) fun h => hapart h.1

theorem contradictions_ne_nil_iff :
    contradictions observation identity ≠ [] ↔ NameDiffers observation identity ∨
      ∃ existing observed, given identity.registrationId = some existing ∧
        given observation.registrationId = some observed ∧ existing ≠ observed := by
  have hblank : PyText.strip identity.canonicalName ≠ "" ↔
      PyText.blank identity.canonicalName = false := by
    rw [ne_eq, PyText.strip_eq_empty, Bool.not_eq_true]
  rw [contradictions, ne_eq, List.append_eq_nil_iff, not_and_or, NameDiffers, ← hblank]
  apply or_congr
  · split
    · rename_i h
      rw [Bool.and_eq_true, bne_iff_ne, bne_iff_ne] at h
      exact iff_of_true (List.cons_ne_nil _ _) h
    · rename_i h
      rw [Bool.and_eq_true, bne_iff_ne, bne_iff_ne] at h
      exact iff_of_false (not_not.mpr rfl) h
  · cases given identity.registrationId with
    | none => simp
    | some existing =>
        cases given observation.registrationId with
        | none => simp
        | some observed => simp

/-- The check sees a contradiction to the identity with the tax id exactly when that one
conflicts, or has a registration id of white space only. -/
theorem contradictions_of_found (haccepted : Accepted observation)
    (hgiven : given observation.taxId = some taxId) (hfound : identity.taxId = some taxId) :
    contradictions observation identity ≠ [] ↔
      Conflicts observation identity ∨ BlankRegistration observation identity := by
  have hshares : Shares observation identity := Or.inl ⟨taxId, hgiven, hfound⟩
  rw [contradictions_ne_nil_iff]
  constructor
  · rintro (hname | ⟨existing, observed, hexisting, hobserved, hne⟩)
    · exact Or.inl ⟨hshares, Or.inl hname⟩
    · obtain ⟨hregistration, hsome⟩ := given_eq_some.mp hexisting
      cases hblank : PyText.blank existing with
      | true =>
          right
          exact ⟨by rw [hobserved]; rfl, existing, hregistration, hsome, hblank⟩
      | false =>
          left
          refine ⟨hshares, Or.inr (Or.inr ⟨existing, observed, hregistration,
            (given_eq_some.mp hobserved).1, hblank, ?_, hne⟩)⟩
          exact blank_of_given hobserved haccepted.registrationId
  · have hnonempty : ∀ {text : String}, PyText.blank text = false → text ≠ "" := by
      rintro _ hblank rfl
      cases hblank
    rintro (⟨_, hname | ⟨a, b, ha, hb, _, _, hne⟩ | ⟨a, b, ha, hb, haBlank, hbBlank, hne⟩⟩ |
      ⟨hobserved, existing, hexisting, hsome, hblank⟩)
    · exact Or.inl hname
    · rw [hfound] at ha
      rw [(given_eq_some.mp hgiven).1] at hb
      exact absurd (Option.some.inj ha ▸ Option.some.inj hb) hne
    · right
      exact ⟨a, b, given_eq_some.mpr ⟨ha, hnonempty haBlank⟩,
        given_eq_some.mpr ⟨hb, hnonempty hbBlank⟩, hne⟩
    · right
      obtain ⟨observed, hobserved⟩ := Option.isSome_iff_exists.mp hobserved
      refine ⟨existing, observed, given_eq_some.mpr ⟨hexisting, hsome⟩, hobserved, ?_⟩
      rintro rfl
      rw [blank_of_given hobserved haccepted.registrationId] at hblank
      cases hblank

/-- What becomes of the identities and the contradictions that are found. -/
structure Resolved (observation : CounterpartyObservation) (table : IdentityTable)
    (found : List CounterpartyContradiction) (table' : IdentityTable) : Prop where
  quarantines : found ≠ [] ↔ ∃ other ∈ table.rows, Conflicts observation other
  untouched : (∃ other ∈ table.rows, Conflicts observation other) → table' = table

/-- Without a tax id, the identity with the registration id conflicts by its name only. -/
theorem conflicts_iff_of_no_taxId {other : Identity} {registrationId : String}
    (hgiven : given observation.taxId = none)
    (hregistration : given observation.registrationId = some registrationId) :
    Conflicts observation other ↔
      other.registrationId = observation.registrationId ∧ NameDiffers observation other := by
  have hobserved := (given_eq_some.mp hregistration).1
  constructor
  · rintro ⟨⟨taxId, htaxId, _⟩ | ⟨found, hfound, hother⟩, hdisagrees⟩
    · rw [hgiven] at htaxId
      cases htaxId
    · obtain rfl := Option.some.inj (hregistration.symm.trans hfound)
      refine ⟨hother.trans hobserved.symm, ?_⟩
      rcases hdisagrees with hname | ⟨_, b, _, hb, _, hblank, _⟩ | ⟨a, b, ha, hb, _, _, hne⟩
      · exact hname
      · have hsome : given observation.taxId = some b := by
          refine given_eq_some.mpr ⟨hb, ?_⟩
          rintro rfl
          cases hblank
        rw [hgiven] at hsome
        cases hsome
      · rw [hother] at ha
        rw [hobserved] at hb
        exact absurd (Option.some.inj (ha.symm.trans hb)) hne
  · rintro ⟨hother, hname⟩
    exact ⟨Or.inr ⟨registrationId, hregistration, hother.trans hobserved⟩, Or.inl hname⟩

/-- Looking the identity up leads to the right outcome exactly when the observation is
resolvable. -/
theorem resolve_iff (haccepted : Accepted observation)
    (hfresh : ∀ row ∈ table.rows, row.identityId ≠ ids.identityId) :
    (∃ identity found table', resolve observation ids table = .ok (identity, found, table') ∧
      Resolved observation table found table') ↔ Resolvable observation table := by
  rw [resolve.eq_def, Resolvable.eq_def]
  cases hgiven : given observation.taxId with
  | none =>
      obtain ⟨registrationId, hregistration⟩ : ∃ registrationId,
          given observation.registrationId = some registrationId := by
        have hidentified := haccepted.identified
        rw [hgiven] at hidentified
        exact Option.isSome_iff_exists.mp (hidentified.resolve_left (by simp))
      have hconflicts := fun other => @conflicts_iff_of_no_taxId observation other
        registrationId hgiven hregistration
      dsimp only
      constructor
      · rintro ⟨_, found, table', hresolve, hresolved⟩ other hmem hother hname
        cases hresolve
        exact hresolved.quarantines.mpr ⟨other, hmem, (hconflicts other).mpr ⟨hother, hname⟩⟩
          rfl
      · intro hresolvable
        have hnone : ¬∃ other ∈ table.rows, Conflicts observation other := by
          rintro ⟨other, hmem, hconflict⟩
          obtain ⟨hother, hname⟩ := (hconflicts other).mp hconflict
          exact hresolvable other hmem hother hname
        exact ⟨none, [], table, rfl, iff_of_false (fun h => h rfl) hnone, fun _ => rfl⟩
  | some taxId =>
      have hstripped : PyText.strip taxId = taxId :=
        haccepted.taxId taxId (given_eq_some.mp hgiven).1
      cases hfind : table.findByTaxId taxId with
      | none =>
          have hother := (IdentityTable.findByTaxId_eq_none hstripped).mp hfind
          simp only [hfind, bind_eq_ok, pure_eq_ok, Prod.mk.injEq]
          constructor
          · rintro ⟨_, _, table', ⟨added, hadd, _⟩, _⟩ other hmem
            exact (((IdentityTable.add_eq_ok ids.valid).mp hadd).1 other hmem).2.2
          · intro hnew
            obtain ⟨added, hadd⟩ : ∃ added, table.add ⟨ids.identityId,
                observation.canonicalName, .identified, some taxId,
                observation.registrationId⟩ ids.valid = .ok added := by
              rw [IdentityTable.add, dif_pos fun row hmem =>
                ⟨hfresh row hmem, Or.inr (hother row hmem), hnew row hmem⟩]
              exact ⟨_, rfl⟩
            have hnone : ¬∃ other ∈ table.rows, Conflicts observation other := by
              rintro ⟨other, hmem, ⟨found, hfound, hsame⟩ | ⟨found, hfound, hsame⟩, _⟩
              · obtain rfl := Option.some.inj (hgiven.symm.trans hfound)
                exact hother other hmem hsame
              · have hobserved := (given_eq_some.mp hfound).1
                rcases hnew other hmem with hmissing | hdiffers
                · rw [hsame] at hmissing
                  cases hmissing
                · exact hdiffers (hsame.trans hobserved.symm)
            exact ⟨_, _, added, ⟨added, hadd, rfl, rfl, rfl⟩,
              iff_of_false (fun h => h rfl) hnone, fun h => absurd h hnone⟩
      | some identity =>
          obtain ⟨hmem, htaxId⟩ := IdentityTable.findByTaxId_eq_some hstripped hfind
          have hseen := contradictions_of_found haccepted hgiven htaxId
          simp only [hfind]
          constructor
          · rintro ⟨_, found, table', hresolve, hresolved⟩
            cases hresolve
            have hiff := hseen.symm.trans hresolved.quarantines
            by_cases hself : Conflicts observation identity
            · exact Or.inl hself
            · right
              rw [or_iff_right hself] at hiff
              exact hiff
          · intro hresolvable
            refine ⟨some identity, _, table, rfl, hseen.trans ?_, fun _ => rfl⟩
            rcases hresolvable with hself | hiff
            · exact iff_of_true (Or.inl hself) ⟨identity, hmem, hself⟩
            · rw [hiff]
              exact or_iff_right_of_imp fun hself => ⟨identity, hmem, hself⟩

theorem subject_not_blank {found : List CounterpartyContradiction} {identity : Option Identity}
    (h : resolve observation ids table = .ok (identity, found, table')) :
    PyText.blank ((identity.map (·.identityId)).getD (subjectKey observation)) = false := by
  rw [resolve.eq_def] at h
  cases hgiven : given observation.taxId with
  | none =>
      rw [hgiven] at h
      cases h
      rw [Bool.eq_false_iff]
      intro hblank
      have hfirst : 'c' ∈ (subjectKey observation).toList := by
        simp [subjectKey, toString]
      exact absurd (List.all_eq_true.mp hblank 'c' hfirst) (by decide)
  | some taxId =>
      cases hfind : table.findByTaxId taxId with
      | none =>
          simp only [hgiven, hfind, bind_eq_ok, pure_eq_ok, Prod.mk.injEq] at h
          obtain ⟨_, _, rfl, _⟩ := h
          exact ids.valid
      | some found =>
          simp only [hgiven, hfind] at h
          cases h
          exact table.ids found (List.mem_of_find?_eq_some hfind)

end Resolve

section Check

variable {twoPlaces : ℚ → String} {observation : CounterpartyObservation} {actorId : String}
  {correlationId : Option String} {now : Instant} {ids : Ids} {tables tables' : Tables}
  {result : CounterpartyCheckResult}

/-- The quarantine after a check with these contradictions. -/
structure Quarantines (tables tables' : Tables) (found : List CounterpartyContradiction) :
    Prop where
  quiet : found = [] → tables'.quarantine = tables.quarantine
  written : found ≠ [] → ∃ record, tables'.quarantine = tables.quarantine ++ [record]

theorem Quarantines.iff {found : List CounterpartyContradiction}
    (h : Quarantines tables tables' found) :
    (∃ record, tables'.quarantine = tables.quarantine ++ [record]) ↔ found ≠ [] := by
  constructor
  · rintro ⟨record, hrecord⟩ hquiet
    rw [h.quiet hquiet] at hrecord
    exact absurd hrecord.symm (by simp)
  · exact h.written

/-- What a check that completes has resolved and written. -/
theorem of_check_ok (haccepted : Accepted observation) (hfresh : Fresh ids tables)
    (h : check observation twoPlaces actorId correlationId now ids tables =
      .ok (result, tables')) :
    observation.observedAt ≤ now ∧ ∃ identity found,
      resolve observation ids tables.identities = .ok (identity, found, tables'.identities) ∧
        Quarantines tables tables' found := by
  simp only [check, bind_eq_ok, pure_eq_ok] at h
  obtain ⟨_, _, ⟨identity, found, identities⟩, hresolve, evidence, hevidence, _, _, audit, _, _,
    _, hlast⟩ := h
  obtain ⟨_, rfl⟩ := Prod.mk.inj hlast
  have hobserved := (addEvidence_iff haccepted hfresh.named hfresh.distinct
    (subject_not_blank hresolve) (fun _ hclaim => hclaim)
    (fun later _ => hfresh.evidence later)).mp ⟨evidence, hevidence⟩
  refine ⟨hobserved.resolve_left (claims_ne_nil haccepted), identity, found, hresolve, ?_⟩
  constructor
  · rintro rfl
    rfl
  · intro hfound
    exact ⟨_, if_neg (by simpa using hfound)⟩

/-- A check completes whose identity is resolved in time. -/
theorem check_ok (haccepted : Accepted observation) (hfresh : Fresh ids tables)
    (hactor : PyText.blank actorId = false) (hobserved : observation.observedAt ≤ now)
    {identity : Option Identity} {found : List CounterpartyContradiction}
    {identities : IdentityTable}
    (hresolve : resolve observation ids tables.identities = .ok (identity, found, identities)) :
    ∃ outcome, check observation twoPlaces actorId correlationId now ids tables =
      .ok outcome := by
  obtain ⟨evidence, hevidence⟩ := (@addEvidence_iff observation ids _ now haccepted
    hfresh.named hfresh.distinct (subject_not_blank hresolve) (claims observation)
    (fun _ hclaim => hclaim) 0 tables.evidence
    (fun later _ => hfresh.evidence later)).mpr (Or.inr hobserved)
  have hname : PyText.strip actorId ≠ "" := by
    rw [ne_eq, PyText.strip_eq_empty, Bool.not_eq_true]
    exact hactor
  have hquarantine : (found.isEmpty ||
      !tables.quarantine.any fun row => row.1 == ids.quarantineId) = true := by
    simp only [Bool.or_eq_true, Bool.not_eq_true', List.any_eq_false, beq_iff_eq]
    exact Or.inr hfresh.quarantine
  have haudits : (!tables.audits.any fun record => record.auditId == ids.auditId) = true := by
    simp only [Bool.not_eq_true', List.any_eq_false, beq_iff_eq]
    exact hfresh.audit
  have haudit : ∀ subjectRef count, (auditFor observation ids (PyText.strip actorId) subjectRef
      count found correlationId now).new = .ok (auditFor observation ids (PyText.strip actorId)
        subjectRef count found correlationId now) := by
    intro subjectRef count
    have houtcome : PyText.blank (if found.isEmpty then "success" else "quarantined") =
        false := by
      split
      · decide
      · decide
    have haction : PyText.blank "counterparty.check" = false := by decide
    have htype : PyText.blank "counterparty_check" = false := by decide
    simp only [AuditRecord.new, bind_eq_ok, require_eq_ok, pure_eq_ok, exists_const, auditFor,
      hfresh.auditNamed, PyText.blank_strip, hactor, houtcome, haction, htype, Bool.not_false,
      Bool.and_self, true_and]
  simp only [check, bind_eq_ok, pure_eq_ok, require_eq_ok, exists_const, bne_iff_ne]
  exact ⟨_, hname, _, hresolve, evidence, hevidence, hquarantine, _, haudit _ _, haudits, rfl⟩

end Check

section Sample

/-- As it splits the one address that is used here. -/
def sampleUrlsplit (url : String) : Except Failure ParsedUrl :=
  .ok (if url == "https://www.nalog.ru/" then ⟨"https", some "www.nalog.ru"⟩ else ⟨"", none⟩)

theorem sampleUrlsplit_empty : ∀ parsed, sampleUrlsplit "" = .ok parsed →
    parsed.scheme ≠ "https" := by
  rintro parsed h
  obtain rfl := Except.ok.inj h
  decide

def sampleObservation : CounterpartyObservation where
  identifierType := .inn
  identifier := "7700000000"
  canonicalName := "Company"
  taxId := some "7700000000"
  registrationId := some "1027700000000"
  legalStatus := none
  sourceRef := "https://www.nalog.ru/"
  sourceReliability := .authoritative
  claimConfidence := 1
  observedAt := 10
  expiresAt := 20

theorem sampleObservation_new :
    CounterpartyObservation.new sampleUrlsplit sampleObservation = .ok sampleObservation := by
  decide +kernel

/-- Ids that are told apart by their lengths. -/
def sampleIds : Ids where
  identityId := "identity-2"
  evidenceId place := String.ofList (List.replicate (place + 1) 'e')
  quarantineId := "quarantine-1"
  auditId := "audit-1"
  valid := by decide

def sampleTables (identities : IdentityTable) : Tables := ⟨identities, [], [], []⟩

theorem fresh_sampleIds {identities : IdentityTable}
    (h : ∀ row ∈ identities.rows, row.identityId ≠ "identity-2") :
    Fresh sampleIds (sampleTables identities) := by
  constructor
  · exact h
  · intro place row hrow
    cases hrow
  · intro place place' hsame
    have hlength := congrArg String.length hsame
    simpa [sampleIds] using hlength
  · intro place
    simp [sampleIds, PyText.blank, PyText.isSpace]
  · intro row hrow
    cases hrow
  · intro record hrecord
    cases hrecord
  · decide

def noIdentities : IdentityTable := ⟨[], by simp, List.Pairwise.nil⟩

/-- A company that is stored with the registration id and another tax id. -/
def storedIdentity : IdentityTable where
  rows := [⟨"identity-1", "Other company", .identified, some "7800000000",
    some "1027700000000"⟩]
  ids := List.forall_mem_singleton.mpr (by decide)
  unique := List.pairwise_singleton _ _

end Sample

end CounterpartyCheck

end ShemaPlatform
