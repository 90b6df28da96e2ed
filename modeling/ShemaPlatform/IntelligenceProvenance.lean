/-
Which source a claim is recorded with: the first one of its result, which is its own when
the result has no other.
-/
import ShemaPlatform.IntelligenceSources

namespace ShemaPlatform

open Calendar ReadCommitted ReadCommitted.Prog
open CounterpartyCheck (Evidence)
open ProviderGateway (keptResults)

/-- Lists put together from pieces of the same lengths are the same when their pieces
are. -/
theorem flatMap_eq_flatMap_iff {α β : Type} {f g : α → List β} {l : List α}
    (hlength : ∀ a ∈ l, (f a).length = (g a).length) :
    l.flatMap f = l.flatMap g ↔ ∀ a ∈ l, f a = g a := by
  induction l with
  | nil => simp
  | cons first rest ih =>
      obtain ⟨hfirst, hrest⟩ := List.forall_mem_cons.mp hlength
      rw [List.flatMap_cons, List.flatMap_cons, List.forall_mem_cons]
      constructor
      · intro hsame
        obtain ⟨hhead, htail⟩ := List.append_inj hsame hfirst
        exact ⟨hhead, (ih hrest).mp htail⟩
      · rintro ⟨hhead, htail⟩
        rw [hhead, (ih hrest).mpr htail]

/-- Each item is paired with one and the same exactly if the partners are all the same. -/
theorem map_pair_eq_zip_iff {α β : Type} {items : List α} {partners : List β} {partner : β}
    (hlength : items.length = partners.length) :
    (items.map fun item => (item, partner)) = items.zip partners ↔
      ∀ other ∈ partners, other = partner := by
  constructor
  · intro hsame other hother
    have hsecond := congrArg (List.map Prod.snd) hsame
    rw [List.map_snd_zip (le_of_eq hlength.symm), List.map_map] at hsecond
    rw [← hsecond] at hother
    obtain ⟨_, _, rfl⟩ := List.mem_map.mp hother
    rfl
  · intro hsame
    rw [List.eq_replicate_of_mem hsame, ← hlength, ← List.map_const',
      ← List.map_prod_left_eq_zip]

/-- The sources of a result are all the one that its claims are recorded with. -/
def ProviderResult.OneSource (result : ProviderResult) : Prop :=
  ∀ ref ∈ result.sourceRefs, result.sourceRefs.head? = some ref

namespace IntelligenceService

/-- The claims of the results with their own sources. -/
def sourcesOf (results : List ProviderResult) : List (String × String) :=
  results.flatMap fun result => result.claims.zip result.sourceRefs

/-- The claims that are recorded, with the sources they are recorded with. -/
def recordedSources (evidence : List Evidence) : List (String × String) :=
  evidence.map fun record => (record.claim, record.sourceRef)

theorem source_of_new {evidence kept : Evidence} (h : evidence.new = .ok kept) :
    (kept.claim, kept.sourceRef) = (evidence.claim, evidence.sourceRef) := by
  simp only [Evidence.new, bind_eq_ok, pure_eq_ok] at h
  obtain ⟨_, _, _, _, _, _, _, _, _, _, _, _, rfl⟩ := h
  rfl

section Sources

variable {policy : ResearchRoutingPolicy} {world : IntelligenceWorld}
  {request : IntelligenceRequest} {rows : EvidenceRows} {run : IntelligenceRun}
  {result : ProviderResult}

/-- What a claim of a result is recorded with. -/
def firstSource (result : ProviderResult) : String :=
  result.sourceRefs.head?.getD s!"provider:{result.providerId}"

theorem recordedSources_of_made {subjectRef : String} {now : Instant}
    {claims : List (ProviderResult × String)} {records : List Evidence}
    (h : List.Forall₂ (fun entry record => ∃ evidenceId,
      (evidenceFor subjectRef now evidenceId entry.1 entry.2).new = .ok record) claims records) :
    recordedSources records = claims.map fun entry => (entry.2, firstSource entry.1) := by
  induction h with
  | nil => rfl
  | cons hfirst hrest ih =>
      obtain ⟨_, hfirst⟩ := hfirst
      rw [recordedSources, List.map_cons, ← recordedSources, List.map_cons, ih,
        source_of_new hfirst]
      rfl

theorem recordedSources_eq (h : Prepared policy world request run) :
    recordedSources run.evidence = run.results.flatMap fun result =>
      result.claims.map fun claim => (claim, firstSource result) := by
  rw [recordedSources_of_made (materialize_made h.evidence), claimsOf, List.map_flatMap]
  simp only [List.map_map]
  rfl

theorem oneSource_iff (haligned : result.claims.length = result.sourceRefs.length) :
    (result.claims.map fun claim => (claim, firstSource result)) =
      result.claims.zip result.sourceRefs ↔ result.OneSource := by
  rw [map_pair_eq_zip_iff haligned]
  apply forall₂_congr
  intro ref href
  cases hrefs : result.sourceRefs with
  | nil =>
      rw [hrefs] at href
      cases href
  | cons first rest =>
      rw [firstSource, hrefs, List.head?_cons, Option.getD_some, Option.some_inj]
      exact eq_comm

end Sources

/-- A run that returns stores a record for every claim, under its id, and nothing else; and
each is recorded with its own source exactly if no kept result has two. -/
theorem own_source_iff (policy : ResearchRoutingPolicy) (world : IntelligenceWorld)
    (request : IntelligenceRequest) (rows : EvidenceRows) (route : ResearchRoute)
    (hroute : policy.route world.repr request.companyType request.depth = .ok route)
    (haligned : ∀ result ∈ keptResults (researched world request route).calls,
      result.claims.length = result.sourceRefs.length)
    (run : IntelligenceRun)
    (hrun : (IntelligenceService.run policy world request rows).outcome = .ok run) :
    run.results = keptResults (researched world request route).calls ∧
    (∀ record ∈ run.evidence, (IntelligenceService.run policy world request rows).rows.get
      record.evidenceId = some record) ∧
    (∀ key record, (IntelligenceService.run policy world request rows).rows.get key =
      some record → rows.get key = some record ∨ record ∈ run.evidence) ∧
    (recordedSources run.evidence = sourcesOf run.results ↔
      ∀ result ∈ keptResults (researched world request route).calls, result.OneSource) := by
  have hdone := run_eq_ok hrun
  have houtcome := hdone.outcome
  rw [Except.ok.inj (hdone.route.symm.trans hroute)] at houtcome
  have hkept := (results_kept houtcome).1
  refine ⟨hkept, hdone.stored, hdone.only, ?_⟩
  rw [recordedSources_eq hdone.toPrepared, sourcesOf, hkept, flatMap_eq_flatMap_iff]
  · apply forall₂_congr
    exact fun result hresult => oneSource_iff (haligned result hresult)
  · intro result hresult
    rw [List.length_map, List.length_zip, ← haligned result hresult, min_self]

theorem registry_named : PyText.blank "registry" = false := by decide

theorem paired_valid : PyText.blank "registry" = false ∧ PyText.blank "registry" = false ∧
    ((0 : ℚ) ≤ 1 ∧ (1 : ℚ) ≤ 1) ∧ ((0 : ℚ) ≤ 0 ∧ (0 : ℚ) ≤ 0 ∧ (0 : ℤ) ≤ 0) ∧
    (∀ ref ∈ ["https://one", "https://two"], PyText.blank ref = false) ∧
    (["first", "second"] ≠ [] → ["https://one", "https://two"] ≠ []) := by
  refine ⟨registry_named, registry_named, by norm_num, by norm_num, by decide, by decide⟩

/-- Two claims, each with a source of its own. -/
def pairedResult : ProviderResult where
  providerId := "registry"
  sourceClass := "registry"
  claims := ["first", "second"]
  sourceRefs := ["https://one", "https://two"]
  confidence := 1
  cost := 0
  latencySeconds := 0
  valid := paired_valid

def pairedWorld : IntelligenceWorld where
  research :=
    { monotonic := fun _ => 0
      research := fun _ _ _ => .ok pairedResult
      forward := ResearchWorld.forward_still }
  now := 0
  evidenceId place := toString place
  repr := id
  raises _ := none

def pairedRoute : ResearchRoute :=
  ⟨"logistics", .r1Identity, [⟨"registry", .required⟩]⟩

theorem paired_budget : (0 : ℤ) ≤ 1 ∧ (0 : ℤ) ≤ 2 ∧ (0 : ℤ) ≤ 0 ∧ (0 : Seconds) ≤ ⊤ ∧
    (0 : ℚ) ≤ 0 := by
  refine ⟨by norm_num, by norm_num, le_refl _, le_top, le_refl _⟩

def pairedRequest : IntelligenceRequest where
  subjectRef := "subject"
  companyType := "logistics"
  depth := .r1Identity
  query := "query"
  providers := [offering "logistics" "registry" "registry" registry_named]
  budget := ⟨1, 2, 0, 0, ⊤, paired_budget⟩

/-- Both claims are recorded with the first source. -/
theorem paired_run : ∃ run,
    (IntelligenceService.run ⟨[pairedRoute]⟩ pairedWorld pairedRequest []).outcome = .ok run ∧
      recordedSources run.evidence ≠ sourcesOf run.results ∧
      ∀ result ∈ keptResults (researched pairedWorld pairedRequest pairedRoute).calls,
        result.claims.length = result.sourceRefs.length := by
  have hran : ((IntelligenceService.run ⟨[pairedRoute]⟩ pairedWorld pairedRequest
      []).outcome.map fun run => (recordedSources run.evidence, sourcesOf run.results)) =
      .ok ([("first", "https://one"), ("second", "https://one")],
        [("first", "https://one"), ("second", "https://two")]) := by
    decide +kernel
  have hkept : ((keptResults (researched pairedWorld pairedRequest pairedRoute).calls).map
      fun result => (result.claims.length, result.sourceRefs.length)) = [(2, 2)] := by
    decide +kernel
  cases hrun : (IntelligenceService.run ⟨[pairedRoute]⟩ pairedWorld pairedRequest
      []).outcome with
  | error error =>
      rw [hrun] at hran
      cases hran
  | ok run =>
      rw [hrun] at hran
      obtain ⟨hrecorded, hsources⟩ := Prod.mk.inj (Except.ok.inj hran)
      refine ⟨run, rfl, ?_, ?_⟩
      · rw [hrecorded, hsources]
        decide
      · intro result hresult
        have hmem := List.mem_map_of_mem (f := fun result : ProviderResult =>
          (result.claims.length, result.sourceRefs.length)) hresult
        rw [hkept, List.mem_singleton] at hmem
        obtain ⟨hclaims, hrefs⟩ := Prod.mk.inj hmem
        rw [hclaims, hrefs]

theorem own_source_iff_sample : ∃ run,
    (IntelligenceService.run ⟨[pairedRoute]⟩ pairedWorld pairedRequest []).outcome = .ok run ∧
      ¬ ∀ result ∈ keptResults (researched pairedWorld pairedRequest pairedRoute).calls,
        result.OneSource := by
  obtain ⟨run, hrun, hne, haligned⟩ := paired_run
  refine ⟨run, hrun, fun hsources => hne ?_⟩
  exact (own_source_iff ⟨[pairedRoute]⟩ pairedWorld pairedRequest [] pairedRoute
    (route_offering id) haligned run hrun).2.2.2.mpr hsources

/-- So a claim may be recorded with a source that is not its own. -/
theorem source_of_another :
    ¬ ∀ (policy : ResearchRoutingPolicy) (world : IntelligenceWorld)
      (request : IntelligenceRequest) (rows : EvidenceRows) (route : ResearchRoute),
      policy.route world.repr request.companyType request.depth = .ok route →
      (∀ result ∈ keptResults (researched world request route).calls,
        result.claims.length = result.sourceRefs.length) →
      ∀ run, (IntelligenceService.run policy world request rows).outcome = .ok run →
        recordedSources run.evidence = sourcesOf run.results := by
  intro h
  obtain ⟨run, hrun, hne, haligned⟩ := paired_run
  exact hne (h ⟨[pairedRoute]⟩ pairedWorld pairedRequest [] pairedRoute (route_offering id)
    haligned run hrun)

end IntelligenceService

end ShemaPlatform
