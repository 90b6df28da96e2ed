/-
Which searches of an operator are answered, and what an answer accounts for: each
source that was asked for, once and in its place, with what the registry says of it,
what was kept of its hits, and the providers that were called.
-/
import ShemaPlatform.OperatorSearch

namespace ShemaPlatform

namespace OperatorSearchService

variable {service : OperatorSearchService} {repr : String → String} {criteria : SearchCriteria}

/-- The sources of a search: those of the request or else the default ones, stripped. -/
def sourceIds (service : OperatorSearchService) (request : SearchRequest) : List String :=
  normalizedIds (service.selected request.sourceIds)

/-- A search that can be run: it has criteria, and its sources are some, different,
registered, and each of them has an adapter that can search. -/
structure Runnable (service : OperatorSearchService) (request : SearchRequest) : Prop where
  region : PyText.blank request.region = false
  industry : ∃ item ∈ request.industries, PyText.blank item = false
  sources : service.sourceIds request ≠ []
  distinct : (service.sourceIds request).Nodup
  registered : ∀ sourceId ∈ service.sourceIds request, ∃ source ∈ service.registry.sources,
    source.sourceId = sourceId
  adapted : ∀ sourceId ∈ service.sourceIds request, ∃ search,
    service.adapters sourceId = some ⟨some search⟩

/-- The hits of a source, if its adapter returns any. -/
def found (service : OperatorSearchService) (criteria : SearchCriteria) (sourceId : String) :
    List SearchHit :=
  match service.adapters sourceId with
  | some ⟨some search⟩ => (search criteria).toOption.getD []
  | _ => []

/-- Every adapter returns hits, or raises one of the two errors of a source. -/
def Answers (service : OperatorSearchService) (criteria : SearchCriteria) : Prop :=
  ∀ sourceId search, service.adapters sourceId = some ⟨some search⟩ →
    ∀ error, search criteria ≠ .error (.other error)

/-- The sources with adapters that can search, one for each planned source. -/
inductive Adapted (adapters : String → Option SearchAdapter) :
    List SearchRegistrySource → List SearchSource → Prop where
  | nil : Adapted adapters [] []
  | cons {planned : SearchRegistrySource} {rest : List SearchRegistrySource}
      {source : SearchSource} {sources : List SearchSource}
      (hadapter : adapters planned.sourceId = some ⟨some source.provider⟩)
      (hsourceRef : source.sourceRef = planned.sourceId)
      (hrest : Adapted adapters rest sources) :
      Adapted adapters (planned :: rest) (source :: sources)

section Gather

variable {adapters : String → Option SearchAdapter} {planned : List SearchRegistrySource}
  {sources : List SearchSource}

theorem Adapted.sourceRefs (h : Adapted adapters planned sources) :
    sources.map SearchSource.sourceRef = planned.map SearchRegistrySource.sourceId := by
  induction h with
  | nil => rfl
  | cons _ hsourceRef _ ih => rw [List.map_cons, List.map_cons, ih, hsourceRef]

theorem Adapted.searchable (h : Adapted adapters planned sources) :
    ∀ source ∈ planned, ∃ search, adapters source.sourceId = some ⟨some search⟩ := by
  induction h with
  | nil => exact fun source hsource => absurd hsource List.not_mem_nil
  | cons hadapter _ _ ih =>
      rw [List.forall_mem_cons]
      exact ⟨⟨_, hadapter⟩, ih⟩

theorem Adapted.adapter (h : Adapted adapters planned sources) :
    ∀ source ∈ sources, adapters source.sourceRef = some ⟨some source.provider⟩ := by
  induction h with
  | nil => exact fun source hsource => absurd hsource List.not_mem_nil
  | cons hadapter hsourceRef _ ih =>
      rw [List.forall_mem_cons, hsourceRef]
      exact ⟨hadapter, ih⟩

theorem adapted_of_gather
    (h : gather repr adapters planned = .ok (sources, [])) :
    Adapted adapters planned sources := by
  induction planned generalizing sources with
  | nil =>
      cases h
      exact .nil
  | cons first rest ih =>
      rw [gather.eq_def] at h
      cases hadapter : adapters first.sourceId with
      | none =>
          simp only [hadapter] at h
          cases hrest : gather repr adapters rest with
          | error error =>
              rw [hrest] at h
              cases h
          | ok found =>
              rw [hrest] at h
              cases h
      | some adapter =>
          rcases adapter with ⟨search⟩
          simp only [hadapter] at h
          cases search with
          | none => cases h
          | some search =>
              simp only at h
              split at h
              · cases h
              · cases hrest : gather repr adapters rest with
                | error error =>
                    rw [hrest] at h
                    cases h
                | ok found =>
                    rcases found with ⟨others, missing⟩
                    rw [hrest] at h
                    cases h
                    exact .cons hadapter rfl (ih hrest)

theorem gather_of_adapters
    (hnamed : ∀ source ∈ planned, PyText.blank source.sourceId = false)
    (hadapters : ∀ source ∈ planned, ∃ search,
      adapters source.sourceId = some ⟨some search⟩) :
    ∃ sources, gather repr adapters planned = .ok (sources, []) := by
  induction planned with
  | nil => exact ⟨[], rfl⟩
  | cons first rest ih =>
      rw [List.forall_mem_cons] at hnamed hadapters
      rcases hadapters.1 with ⟨search, hsearch⟩
      rcases ih hnamed.2 hadapters.2 with ⟨sources, hsources⟩
      rw [gather.eq_def]
      simp only [hsearch, hnamed.1, Bool.false_eq_true, ↓reduceDIte, hsources]
      exact ⟨_, rfl⟩

end Gather

theorem sequenced_eq_ok {α β : Type} {first : Except OperatorSearchError α}
    {rest : α → Except OperatorSearchError β} {result : β} :
    first >>= rest = .ok result ↔
      ∃ middle, first = .ok middle ∧ rest middle = .ok result := by
  cases first with
  | ok middle => simp [bind, Except.bind]
  | error error => simp [bind, Except.bind]

theorem failing_eq_ok {α : Type} {computed : Except Failure α} {value : α} :
    failing computed = .ok value ↔ computed = .ok value := by
  cases computed with
  | ok found => simp [failing]
  | error failure => simp [failing]

end OperatorSearchService

namespace SearchOnlyAPIApplication

/-- A value of the second list alone, for each pair of two lists. -/
theorem map_zipWith_right {α β γ δ : Type} {f : α → β → γ} {g : γ → δ} {h : β → δ}
    (hg : ∀ a b, g (f a b) = h b) {as : List α} {bs : List β}
    (hlength : as.length = bs.length) : (List.zipWith f as bs).map g = bs.map h := by
  induction as generalizing bs with
  | nil =>
      rw [List.eq_nil_of_length_eq_zero hlength.symm]
      rfl
  | cons a as ih =>
      cases bs with
      | nil => cases hlength
      | cons b bs =>
          rw [List.zipWith_cons_cons, List.map_cons, List.map_cons, hg,
            ih (Nat.succ.inj hlength)]

section Attempts

variable {planned : List SearchRegistrySource} {attempts part : List SearchSourceAttempt}

theorem attemptById_of_mem (hnodup : (attempts.map SearchSourceAttempt.sourceRef).Nodup)
    {attempt : SearchSourceAttempt} (hattempt : attempt ∈ attempts) :
    attemptById attempts attempt.sourceRef = .ok attempt := by
  have hsome : (attempts.reverse.find? fun other =>
      other.sourceRef == attempt.sourceRef).isSome = true := by
    rw [List.find?_isSome]
    exact ⟨attempt, List.mem_reverse.mpr hattempt, beq_self_eq_true _⟩
  rcases Option.isSome_iff_exists.mp hsome with ⟨found, hfound⟩
  have hsame := List.find?_some hfound
  rw [beq_iff_eq] at hsame
  have hmem := List.mem_reverse.mp (List.mem_of_find?_eq_some hfound)
  rw [attemptById, hfound, List.inj_on_of_nodup_map hnodup hmem hattempt hsame]

/-- The lookups of the attempts pair each planned source with the attempt in its place. -/
theorem mapM_attempts (hnodup : (attempts.map SearchSourceAttempt.sourceRef).Nodup)
    (hpart : ∀ attempt ∈ part, attempt ∈ attempts)
    (hplanned : part.map SearchSourceAttempt.sourceRef =
      planned.map SearchRegistrySource.sourceId) :
    (planned.mapM fun source => do
      let attempt ← attemptById attempts source.sourceId
      return attemptResponse source attempt : Except Failure _) =
        .ok (List.zipWith attemptResponse planned part) := by
  induction planned generalizing part with
  | nil =>
      rw [List.map_nil, List.map_eq_nil_iff] at hplanned
      subst hplanned
      rfl
  | cons source rest ih =>
      cases part with
      | nil => cases hplanned
      | cons attempt part =>
          rw [List.map_cons, List.map_cons, List.cons.injEq] at hplanned
          rw [List.forall_mem_cons] at hpart
          have hfound := attemptById_of_mem hnodup hpart.1
          rw [hplanned.1] at hfound
          rw [List.mapM_cons, hfound, ih hpart.2 hplanned.2]
          rfl

theorem planned_attempts (hlength : planned.length = part.length) :
    (List.zipWith attemptResponse planned part).map SearchSourceAttemptResponse.sourceId =
      planned.map SearchRegistrySource.sourceId := by
  induction planned generalizing part with
  | nil => rfl
  | cons source rest ih =>
      cases part with
      | nil => cases hlength
      | cons attempt part =>
          rw [List.zipWith_cons_cons, List.map_cons, List.map_cons, ih (Nat.succ.inj hlength),
            attemptResponse_sourceId]

theorem filter_attempts (hplanned : part.map SearchSourceAttempt.sourceRef =
      planned.map SearchRegistrySource.sourceId) :
    ((List.zipWith attemptResponse planned part).filter fun attempt =>
        attempt.status ≠ .budgetLimited).map SearchSourceAttemptResponse.sourceId =
      (part.filter fun attempt => attempt.status ≠ .budgetLimited).map
        SearchSourceAttempt.sourceRef := by
  induction planned generalizing part with
  | nil =>
      rw [List.map_nil, List.map_eq_nil_iff] at hplanned
      subst hplanned
      rfl
  | cons source rest ih =>
      cases part with
      | nil => cases hplanned
      | cons attempt part =>
          rw [List.map_cons, List.map_cons, List.cons.injEq] at hplanned
          have hrest := ih hplanned.2
          rw [List.zipWith_cons_cons]
          by_cases hstatus : attempt.status = .budgetLimited
          · rw [List.filter_cons_of_neg (by simp [hstatus]),
              List.filter_cons_of_neg (by simp [hstatus]), hrest]
          · rw [List.filter_cons_of_pos (by simp [hstatus]),
              List.filter_cons_of_pos (by simp [hstatus]),
              List.map_cons, List.map_cons, hrest, hplanned.1]
            rfl

theorem attempts_described {response : SearchSourceAttemptResponse}
    (h : response ∈ List.zipWith attemptResponse planned part) :
    ∃ source ∈ planned, ∃ attempt ∈ part, response = attemptResponse source attempt := by
  induction planned generalizing part with
  | nil =>
      rw [List.zipWith_nil_left] at h
      cases h
  | cons source rest ih =>
      cases part with
      | nil => cases h
      | cons attempt part =>
          rw [List.zipWith_cons_cons] at h
          rcases List.mem_cons.mp h with hfirst | hrest
          · exact ⟨source, List.mem_cons_self, attempt, List.mem_cons_self, hfirst⟩
          · rcases ih hrest with ⟨other, hother, found, hfound, hsame⟩
            exact ⟨other, List.mem_cons_of_mem _ hother, found, List.mem_cons_of_mem _ hfound,
              hsame⟩

end Attempts

/-- What the response says, and which providers were called for it. -/
structure Answered (service : OperatorSearchService) (request : SearchRequest)
    (criteria : SearchCriteria) (response : SearchResponse) (called : List String) :
    Prop where
  criteria_new : SearchCriteria.new request.region request.industries.toFinset request.limit
    request.selectionLevel = .ok criteria
  planned : response.sourceAttempts.map SearchSourceAttemptResponse.sourceId =
    service.sourceIds request
  described : ∀ attempt ∈ response.sourceAttempts, ∃ source ∈ service.registry.sources,
    source.networkAutomation = false ∧ attempt.sourceId = source.sourceId ∧
      attempt.sourceClass = source.sourceClass ∧
      attempt.reliability = source.reliability ∧ attempt.accessMode = source.accessMode
  asked : called = (response.sourceAttempts.filter fun attempt =>
    attempt.status ≠ .budgetLimited).map SearchSourceAttemptResponse.sourceId
  once : called.Nodup
  withinSources : called.length ≤ request.maxSources
  withinCandidates : (response.sourceAttempts.map
    SearchSourceAttemptResponse.candidateCount).sum ≤ request.maxCandidates
  limited : response.sourceAttempts.Pairwise fun first later =>
    first.status = .budgetLimited → later.status = .budgetLimited
  counts : ∀ before attempt after, response.sourceAttempts = before ++ attempt :: after →
    attempt.status ≠ .budgetLimited →
      attempt.candidateCount = min (service.found criteria attempt.sourceId).length
        (request.maxCandidates -
          (before.map SearchSourceAttemptResponse.candidateCount).sum)
  results : response.results = (SearchService.execute criteria
    (response.sourceAttempts.flatMap fun attempt =>
      (service.found criteria attempt.sourceId).take attempt.candidateCount)).map hitResponse
  verdict : response.completeness = .complete ∨ response.completeness = .searchedNotFound ↔
    ∀ attempt ∈ response.sourceAttempts,
      attempt.status = .searched ∨ attempt.status = .searchedNotFound

section Search

variable {service : OperatorSearchService} {criteria : SearchCriteria} {budget : SearchBudget}
  {planned : List SearchRegistrySource} {sources : List SearchSource}
  {attempts : List SearchSourceAttempt}

theorem found_eq {source : SearchSource}
    (h : service.adapters source.sourceRef = some ⟨some source.provider⟩) :
    service.found criteria source.sourceRef = source.found criteria := by
  rw [OperatorSearchService.found, h, SearchSource.found]

theorem kept_eq (hadapted : OperatorSearchService.Adapted service.adapters planned sources) :
    (List.zipWith attemptResponse planned attempts).flatMap (fun attempt =>
        (service.found criteria attempt.sourceId).take attempt.candidateCount) =
      (sources.zip attempts).flatMap fun pair =>
        (pair.1.found criteria).take pair.2.candidateCount := by
  induction hadapted generalizing attempts with
  | nil => simp
  | @cons source rest other others hadapter hsourceRef hrest ih =>
      cases attempts with
      | nil => simp
      | cons attempt attempts =>
          rw [← hsourceRef] at hadapter
          rw [List.zipWith_cons_cons, List.zip_cons_cons, List.flatMap_cons, List.flatMap_cons,
            ih, attemptResponse_sourceId, ← hsourceRef, found_eq hadapter]
          rfl

/-- An attempt in its place among the responses is one in its place among the attempts. -/
theorem place_eq (hadapted : OperatorSearchService.Adapted service.adapters planned sources)
    {before after : List SearchSourceAttemptResponse} {response : SearchSourceAttemptResponse}
    (h : List.zipWith attemptResponse planned attempts = before ++ response :: after) :
    ∃ first source attempt last, sources.zip attempts = first ++ (source, attempt) :: last ∧
      service.found criteria response.sourceId = source.found criteria ∧
      response.status = attempt.status ∧
      response.candidateCount = attempt.candidateCount ∧
      before.map SearchSourceAttemptResponse.candidateCount =
        first.map fun pair => pair.2.candidateCount := by
  induction hadapted generalizing attempts before with
  | nil =>
      rw [List.zipWith_nil_left] at h
      cases before with
      | nil => cases h
      | cons _ _ => cases h
  | @cons source rest other others hadapter hsourceRef hrest ih =>
      cases attempts with
      | nil =>
          rw [List.zipWith_nil_right] at h
          cases before with
          | nil => cases h
          | cons _ _ => cases h
      | cons attempt attempts =>
          rw [List.zipWith_cons_cons] at h
          cases before with
          | nil =>
              rw [List.nil_append, List.cons.injEq] at h
              rw [← hsourceRef] at hadapter
              refine ⟨[], other, attempt, others.zip attempts, rfl, ?_, ?_, ?_, rfl⟩
              · rw [← h.1, attemptResponse_sourceId, ← hsourceRef, found_eq hadapter]
              · rw [← h.1, attemptResponse_status]
              · rw [← h.1, attemptResponse_candidateCount]
          | cons head before =>
              rw [List.cons_append, List.cons.injEq] at h
              rcases ih h.2 with ⟨first, found, kept, last, hzip, hfound, hstatus, hcount,
                hbefore⟩
              refine ⟨(other, attempt) :: first, found, kept, last, ?_, hfound, hstatus,
                hcount, ?_⟩
              · rw [List.zip_cons_cons, hzip, List.cons_append]
              · rw [List.map_cons, List.map_cons, hbefore, ← h.1,
                  attemptResponse_candidateCount]

/-- The responses that are made of the attempts of a run account for the search. -/
theorem answered_of_visited {request : SearchRequest} {hits : List SearchHit}
    {called : List String} {run : SearchRun} {response : SearchResponse}
    (hcriteria : SearchCriteria.new request.region request.industries.toFinset request.limit
      request.selectionLevel = .ok criteria)
    (hresolve : service.registry.resolve (service.selected request.sourceIds) = .ok planned)
    (hadapted : OperatorSearchService.Adapted service.adapters planned sources)
    (hbudget : budget.maxSources = request.maxSources ∧
      budget.maxCandidates = request.maxCandidates)
    (hvisited : SearchRunService.Visited criteria budget 0 budget.maxCandidates sources
      run.attempts hits called)
    (hhits : run.hits = SearchService.execute criteria hits)
    (hcompleteness : run.completeness = SearchRunService.verdict run.attempts run.hits)
    (hresults : response.results = run.hits.map hitResponse)
    (hverdict : response.completeness = run.completeness)
    (hattempts : response.sourceAttempts = List.zipWith attemptResponse planned run.attempts) :
    Answered service request criteria response called := by
  rw [SearchSourceRegistry.resolve_eq_ok] at hresolve
  obtain ⟨_, hdistinct, hregistered, rfl⟩ := hresolve
  have hids := SearchSourceRegistry.map_filterMap_find hregistered
  have hrefs := hvisited.sourceRefs.trans hadapted.sourceRefs
  have hlength : (List.filterMap service.registry.find
      (normalizedIds (service.selected request.sourceIds))).length = run.attempts.length := by
    have hsame := congrArg List.length hrefs
    rw [List.length_map, List.length_map] at hsame
    exact hsame.symm
  have hstatuses := map_zipWith_right attemptResponse_status hlength
  have hcounts := map_zipWith_right attemptResponse_candidateCount hlength
  rw [← hattempts] at hstatuses hcounts
  have hasked : called = (response.sourceAttempts.filter fun attempt =>
      attempt.status ≠ .budgetLimited).map SearchSourceAttemptResponse.sourceId := by
    rw [hattempts, filter_attempts hrefs]
    exact hvisited.called_eq
  have hplanned : response.sourceAttempts.map SearchSourceAttemptResponse.sourceId =
      service.sourceIds request := by
    rw [hattempts, planned_attempts hlength]
    exact hids
  constructor
  · exact hcriteria
  · exact hplanned
  · intro attempt hattempt
    rw [hattempts] at hattempt
    rcases attempts_described hattempt with ⟨source, hsource, found, _, rfl⟩
    rw [List.mem_filterMap] at hsource
    rcases hsource with ⟨sourceId, _, hfind⟩
    have hmem := (SearchSourceRegistry.find_eq_some hfind).1
    exact ⟨source, hmem, service.registry.offline source hmem, rfl, rfl, rfl, rfl⟩
  · exact hasked
  · rw [hasked]
    apply (List.filter_sublist.map SearchSourceAttemptResponse.sourceId).nodup
    rw [hplanned]
    exact hdistinct
  · rw [← hbudget.1]
    exact hvisited.called_length
  · rw [hcounts, ← hbudget.2]
    exact hvisited.candidates_le
  · have hlimited := hvisited.limited_after
    rw [← List.pairwise_map (f := SearchSourceAttempt.status)
      (R := fun first later => first = .budgetLimited → later = .budgetLimited),
      ← hstatuses, List.pairwise_map] at hlimited
    exact hlimited
  · intro before attempt after hsplit hstatus
    rw [hattempts] at hsplit
    rcases place_eq hadapted hsplit with ⟨first, source, kept, last, hzip, hfound, hsame,
      hcount, hbefore⟩
    rw [hsame] at hstatus
    rw [hcount, hfound, hbefore, ← hbudget.2]
    exact hvisited.count_eq hzip hstatus
  · rw [hresults, hhits, hattempts, kept_eq hadapted, hvisited.hits_eq]
    rfl
  · rw [hverdict, hcompleteness, SearchRunService.verdict_searched_iff]
    have hsearched : (∀ attempt ∈ run.attempts, attempt.Searched) ↔
        ∀ status ∈ run.attempts.map SearchSourceAttempt.status,
          status = .searched ∨ status = .searchedNotFound := by
      rw [List.forall_mem_map]
      rfl
    rw [hsearched, ← hstatuses, List.forall_mem_map]

theorem criteria_new_iff (request : SearchRequest) :
    (∃ criteria, SearchCriteria.new request.region request.industries.toFinset request.limit
        request.selectionLevel = .ok criteria) ↔
      PyText.blank request.region = false ∧
        ∃ item ∈ request.industries, PyText.blank item = false := by
  have hregion : PyText.strip request.region = "" ↔ ¬ PyText.blank request.region = false := by
    rw [PyText.strip_eq_empty, Bool.not_eq_false]
  have hindustries : normalizedIndustries request.industries.toFinset = ∅ ↔
      ¬ ∃ item ∈ request.industries, PyText.blank item = false := by
    rw [normalizedIndustries, Finset.image_eq_empty, Finset.filter_eq_empty_iff]
    simp only [List.mem_toFinset, not_exists, not_and]
  rw [SearchCriteria.new]
  split
  · rename_i hblank
    apply iff_of_false
    · rintro ⟨criteria, hcriteria⟩
      cases hcriteria
    · exact fun h => hregion.mp hblank h.1
  · rename_i hnamed
    split
    · rename_i hempty
      apply iff_of_false
      · rintro ⟨criteria, hcriteria⟩
        cases hcriteria
      · exact fun h => hindustries.mp hempty h.2
    · rename_i hsome
      rw [dif_pos request.valid.2.1]
      apply iff_of_true
      · exact ⟨_, rfl⟩
      · exact ⟨not_not.mp (hregion.not.mp hnamed), not_not.mp (hindustries.not.mp hsome)⟩

end Search

section Sample

def sampleEntry (sourceId : String) : SearchRegistrySource where
  sourceId := sourceId
  name := sourceId
  sourceClass := "official_registry"
  reliability := "high"
  accessMode := "manual"
  networkAutomation := false

def sampleRegistry : SearchSourceRegistry where
  sources := [sampleEntry "fns", sampleEntry "egrul", sampleEntry "site"]
  lawfulAccessRequired := true
  unique := by decide
  named := by decide
  offline := by decide

/-- A registry source that returns two hits, and a site that is never available. -/
def sampleService : OperatorSearchService where
  registry := sampleRegistry
  adapters sourceId :=
    if sourceId = "fns" then some ⟨some fun _ => .ok [SearchService.sampleHit "ref-1" none,
      SearchService.sampleHit "ref-2" none]⟩
    else if sourceId = "site" then some ⟨some fun _ => .error .timeoutError⟩
    else none
  defaultSourceIds := ["fns"]

def sampleRequest : SearchRequest where
  region := "Moscow"
  industries := ["Logistics"]
  sourceIds := [" site ", "", "fns"]
  valid := by decide

theorem sample_answers (criteria : SearchCriteria) : sampleService.Answers criteria := by
  intro sourceId search hadapter error hother
  simp only [sampleService] at hadapter
  split at hadapter
  · cases hadapter
    cases hother
  · split at hadapter
    · cases hadapter
      cases hother
    · cases hadapter

theorem sample_runnable : sampleService.Runnable sampleRequest := by
  have hids : sampleService.sourceIds sampleRequest = ["site", "fns"] := by decide +kernel
  constructor
  · decide
  · exact ⟨"Logistics", by decide⟩
  · rw [hids]
    decide
  · rw [hids]
    decide
  · rw [hids]
    decide
  · rw [hids]
    intro sourceId hmem
    rcases List.mem_cons.mp hmem with rfl | hmem
    · exact ⟨_, rfl⟩
    · rw [List.mem_singleton] at hmem
      subst hmem
      exact ⟨_, rfl⟩

end Sample

end SearchOnlyAPIApplication

end ShemaPlatform
