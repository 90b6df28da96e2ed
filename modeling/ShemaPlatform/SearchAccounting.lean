/-
What a search run says about its sources: which were searched, what was kept of
their hits, and whether its verdict is honest.
-/
import ShemaPlatform.SearchRun

namespace ShemaPlatform

namespace SearchSource

variable (source : SearchSource) (criteria : SearchCriteria)

/-- The provider returns hits, or raises one of the two errors of a source. -/
def Answers : Prop :=
  ∀ error, source.provider criteria ≠ .error (.other error)

def Succeeds : Prop :=
  ∃ hits, source.provider criteria = .ok hits

/-- The hits a provider returns, if it does. -/
def found : List SearchHit :=
  (source.provider criteria).toOption.getD []

variable {source criteria}

theorem found_of_ok {hits : List SearchHit} (h : source.provider criteria = .ok hits) :
    source.found criteria = hits := by
  rw [found, h]
  rfl

theorem found_of_error {error : SearchProviderError}
    (h : source.provider criteria = .error error) : source.found criteria = [] := by
  rw [found, h]
  rfl

theorem not_succeeds_of_error {error : SearchProviderError}
    (h : source.provider criteria = .error error) : ¬ source.Succeeds criteria := by
  rintro ⟨hits, hhits⟩
  rw [h] at hhits
  cases hhits

end SearchSource

namespace SearchSourceAttempt

/-- The source was searched, with or without a result. -/
def Searched (attempt : SearchSourceAttempt) : Prop :=
  attempt.status = .searched ∨ attempt.status = .searchedNotFound

theorem searched_searched (source : SearchSource) (hits : List SearchHit) :
    (searched source hits).Searched := by
  cases hits with
  | nil => exact Or.inr rfl
  | cons hit rest => exact Or.inl rfl

theorem searched_iff {attempt : SearchSourceAttempt} :
    attempt.Searched ↔ attempt.status ≠ .budgetLimited ∧
      attempt.status ≠ .sourceUnavailable := by
  rw [Searched]
  cases attempt.status with
  | searched => simp
  | searchedNotFound => simp
  | sourceUnavailable => simp
  | budgetLimited => simp

end SearchSourceAttempt

namespace SearchRunService

section Loop

variable {criteria : SearchCriteria} {budget : SearchBudget}

/-- What the loop adds from a source on: the attempts, the hits it collects and
the sources whose provider it calls. -/
inductive Visited (criteria : SearchCriteria) (budget : SearchBudget) :
    ℕ → ℕ → List SearchSource → List SearchSourceAttempt → List SearchHit →
      List String → Prop where
  | done {index remaining : ℕ} : Visited criteria budget index remaining [] [] [] []
  | limited {index remaining : ℕ} {source : SearchSource} {rest : List SearchSource}
      (hbudget : budget.maxSources ≤ index ∨ remaining = 0) :
      Visited criteria budget index remaining (source :: rest)
        ((source :: rest).map SearchSourceAttempt.budgetLimited) [] []
  | unavailable {index remaining : ℕ} {source : SearchSource} {rest : List SearchSource}
      {error : SearchProviderError} {typeName : String} {hname : typeName ≠ ""}
      {attempts : List SearchSourceAttempt} {hits : List SearchHit} {called : List String}
      (hindex : index < budget.maxSources) (hremaining : 0 < remaining)
      (hprovider : source.provider criteria = .error error)
      (hrest : Visited criteria budget (index + 1) remaining rest attempts hits called) :
      Visited criteria budget index remaining (source :: rest)
        (.unavailable source typeName hname :: attempts) hits (source.sourceRef :: called)
  | searched {index remaining : ℕ} {source : SearchSource} {rest : List SearchSource}
      {found : List SearchHit} {attempts : List SearchSourceAttempt}
      {hits : List SearchHit} {called : List String}
      (hindex : index < budget.maxSources) (hremaining : 0 < remaining)
      (hprovider : source.provider criteria = .ok found)
      (hrest : Visited criteria budget (index + 1)
        (remaining - (found.take remaining).length) rest attempts hits called) :
      Visited criteria budget index remaining (source :: rest)
        (.searched source (found.take remaining) :: attempts)
        (found.take remaining ++ hits) (source.sourceRef :: called)

/-- With the budget used up the loop adds the rest as limited. -/
theorem Visited.limited_rest {index : ℕ} (rest : List SearchSource) :
    Visited criteria budget index 0 rest (rest.map SearchSourceAttempt.budgetLimited)
      [] [] := by
  cases rest with
  | nil => exact .done
  | cons source rest => exact .limited (Or.inr rfl)

theorem visit_spec {sources : List SearchSource} {index : ℕ} {progress : Progress}
    (hanswers : ∀ source ∈ sources, source.Answers criteria) :
    ∃ progress' attempts hits called,
      visit criteria budget index sources progress = .ok progress' ∧
        progress'.attempts = progress.attempts ++ attempts ∧
        progress'.collectedHits = progress.collectedHits ++ hits ∧
        progress'.called = progress.called ++ called ∧
        Visited criteria budget index progress.remainingCandidates sources attempts hits
          called := by
  induction sources generalizing index progress with
  | nil => exact ⟨progress, [], [], [], rfl, by simp, by simp, by simp, .done⟩
  | cons source rest ih =>
      have hrest : ∀ other ∈ rest, other.Answers criteria :=
        fun other hother => hanswers other (List.mem_cons_of_mem _ hother)
      have hsource := hanswers source List.mem_cons_self
      simp only [visit]
      by_cases hbudget : budget.maxSources ≤ index ∨ progress.remainingCandidates = 0
      · rw [if_pos hbudget]
        exact ⟨_, _, [], [], rfl, rfl, by simp [Progress.limit], by simp [Progress.limit],
          .limited hbudget⟩
      · rw [if_neg hbudget]
        have hindex : index < budget.maxSources := by omega
        have hremaining : 0 < progress.remainingCandidates := by omega
        have hunavailable : ∀ (error : SearchProviderError) (typeName : String)
            (hname : typeName ≠ ""), source.provider criteria = .error error →
            ∃ progress' attempts hits called,
              visit criteria budget (index + 1) rest (progress.attempt source
                (.unavailable source typeName hname) []) = .ok progress' ∧
              progress'.attempts = progress.attempts ++ attempts ∧
              progress'.collectedHits = progress.collectedHits ++ hits ∧
              progress'.called = progress.called ++ called ∧
              Visited criteria budget index progress.remainingCandidates (source :: rest)
                attempts hits called := by
          intro error typeName hname hprovider
          obtain ⟨progress', attempts, hits, called, hvisit, hattempts, hhits, hcalled,
            hvisited⟩ := @ih (index + 1) (progress.attempt source
              (.unavailable source typeName hname) []) hrest
          refine ⟨progress', .unavailable source typeName hname :: attempts, hits,
            source.sourceRef :: called, hvisit, ?_, ?_, ?_,
            .unavailable hindex hremaining hprovider hvisited⟩
          · rw [hattempts]
            simp [Progress.attempt]
          · rw [hhits]
            simp [Progress.attempt]
          · rw [hcalled]
            simp [Progress.attempt]
        cases hprovider : source.provider criteria with
        | error error =>
            cases error with
            | searchSourceUnavailable =>
                exact hunavailable _ "SearchSourceUnavailable" (by decide) hprovider
            | timeoutError => exact hunavailable _ "TimeoutError" (by decide) hprovider
            | other error => exact absurd hprovider (hsource error)
        | ok found =>
            let cappedHits := found.take progress.remainingCandidates
            by_cases hfull : (progress.attempt source (.searched source cappedHits)
                cappedHits).remainingCandidates = 0 ∧ rest ≠ []
            · have hzero : progress.remainingCandidates - cappedHits.length = 0 := hfull.1
              refine ⟨_, .searched source cappedHits :: rest.map
                SearchSourceAttempt.budgetLimited, cappedHits ++ [], [source.sourceRef],
                if_pos hfull, ?_, ?_, ?_, .searched hindex hremaining hprovider ?_⟩
              · simp [Progress.limit, Progress.attempt, cappedHits]
              · simp [Progress.limit, Progress.attempt, cappedHits]
              · simp [Progress.limit, Progress.attempt]
              · rw [hzero]
                exact Visited.limited_rest rest
            · obtain ⟨progress', attempts, hits, called, hvisit, hattempts, hhits, hcalled,
                hvisited⟩ := @ih (index + 1) (progress.attempt source
                  (.searched source cappedHits) cappedHits) hrest
              refine ⟨progress', .searched source cappedHits :: attempts, cappedHits ++ hits,
                source.sourceRef :: called, ?_, ?_, ?_, ?_,
                .searched hindex hremaining hprovider hvisited⟩
              · change (if _ then _ else _) = _
                rw [if_neg hfull]
                exact hvisit
              · rw [hattempts]
                simp [Progress.attempt, cappedHits]
              · rw [hhits]
                simp [Progress.attempt, cappedHits]
              · rw [hcalled]
                simp [Progress.attempt, cappedHits]

end Loop

namespace Visited

variable {criteria : SearchCriteria} {budget : SearchBudget} {index remaining : ℕ}
  {sources : List SearchSource} {attempts : List SearchSourceAttempt}
  {hits : List SearchHit} {called : List String}

theorem sourceRefs (h : Visited criteria budget index remaining sources attempts hits called) :
    attempts.map SearchSourceAttempt.sourceRef = sources.map SearchSource.sourceRef := by
  induction h with
  | done => rfl
  | limited hbudget =>
      rw [List.map_map]
      rfl
  | unavailable hindex hremaining hprovider hrest ih =>
      rw [List.map_cons, List.map_cons, ih]
      rfl
  | searched hindex hremaining hprovider hrest ih =>
      rw [List.map_cons, List.map_cons, ih]
      rfl

theorem limited_not_called (sources : List SearchSource) :
    (sources.map SearchSourceAttempt.budgetLimited).filter
      (fun attempt => attempt.status ≠ .budgetLimited) = [] := by
  induction sources with
  | nil => rfl
  | cons source rest ih =>
      rw [List.map_cons, List.filter_cons_of_neg, ih]
      simp [SearchSourceAttempt.budgetLimited]

/-- The providers called are those of the attempts that are not limited. -/
theorem called_eq (h : Visited criteria budget index remaining sources attempts hits called) :
    called = (attempts.filter fun attempt => attempt.status ≠ .budgetLimited).map
      SearchSourceAttempt.sourceRef := by
  induction h with
  | done => rfl
  | limited hbudget =>
      rw [limited_not_called]
      rfl
  | unavailable hindex hremaining hprovider hrest ih =>
      rw [List.filter_cons_of_pos (by simp [SearchSourceAttempt.unavailable]), List.map_cons,
        ← ih]
      rfl
  | @searched index remaining source rest found attempts hits called hindex hremaining
      hprovider hrest ih =>
      have hstatus := SearchSourceAttempt.searched_iff.mp
        (SearchSourceAttempt.searched_searched source (found.take remaining))
      rw [List.filter_cons_of_pos (by simpa using hstatus.1), List.map_cons, ← ih]
      rfl

theorem called_length (h : Visited criteria budget index remaining sources attempts hits called) :
    called.length ≤ budget.maxSources - index := by
  induction h with
  | done => exact Nat.zero_le _
  | limited hbudget => exact Nat.zero_le _
  | unavailable hindex hremaining hprovider hrest ih =>
      rw [List.length_cons]
      omega
  | searched hindex hremaining hprovider hrest ih =>
      rw [List.length_cons]
      omega

theorem limited_counts (sources : List SearchSource) :
    ((sources.map SearchSourceAttempt.budgetLimited).map
      SearchSourceAttempt.candidateCount).sum = 0 := by
  induction sources with
  | nil => rfl
  | cons source rest ih =>
      rw [List.map_cons, List.map_cons, List.sum_cons, ih]
      rfl

theorem candidates_le (h : Visited criteria budget index remaining sources attempts hits called) :
    (attempts.map SearchSourceAttempt.candidateCount).sum ≤ remaining := by
  induction h with
  | done => exact Nat.zero_le _
  | limited hbudget =>
      rw [limited_counts]
      exact Nat.zero_le _
  | unavailable hindex hremaining hprovider hrest ih =>
      rw [List.map_cons, List.sum_cons]
      change 0 + _ ≤ _
      omega
  | @searched index remaining source rest found attempts hits called hindex hremaining
      hprovider hrest ih =>
      have hcapped := List.length_take_le remaining found
      rw [List.map_cons, List.sum_cons]
      change (found.take remaining).length + _ ≤ _
      omega

/-- After a limited source every source is limited. -/
theorem limited_after (h : Visited criteria budget index remaining sources attempts hits called) :
    attempts.Pairwise fun first later =>
      first.status = .budgetLimited → later.status = .budgetLimited := by
  induction h with
  | done => exact List.Pairwise.nil
  | limited hbudget =>
      rw [List.pairwise_map]
      exact List.pairwise_of_forall fun _ _ _ => rfl
  | unavailable hindex hremaining hprovider hrest ih =>
      apply List.Pairwise.cons _ ih
      intro later _ hlimited
      cases hlimited
  | @searched index remaining source rest found attempts hits called hindex hremaining
      hprovider hrest ih =>
      apply List.Pairwise.cons _ ih
      intro later _ hlimited
      exact absurd hlimited (SearchSourceAttempt.searched_iff.mp
        (SearchSourceAttempt.searched_searched source (found.take remaining))).1

/-- What is kept of the hits of each source, one after the other. -/
def kept (criteria : SearchCriteria) (sources : List SearchSource)
    (attempts : List SearchSourceAttempt) : List SearchHit :=
  (sources.zip attempts).flatMap fun pair =>
    (pair.1.found criteria).take pair.2.candidateCount

theorem kept_limited (sources : List SearchSource) :
    kept criteria sources (sources.map SearchSourceAttempt.budgetLimited) = [] := by
  induction sources with
  | nil => rfl
  | cons source rest ih =>
      rw [kept, List.map_cons, List.zip_cons_cons, List.flatMap_cons]
      exact ih

theorem hits_eq (h : Visited criteria budget index remaining sources attempts hits called) :
    hits = kept criteria sources attempts := by
  induction h with
  | done => rfl
  | limited hbudget => exact (kept_limited _).symm
  | unavailable hindex hremaining hprovider hrest ih =>
      rw [kept, List.zip_cons_cons, List.flatMap_cons,
        SearchSource.found_of_error hprovider, List.take_nil, List.nil_append]
      exact ih
  | @searched index remaining source rest found attempts hits called hindex hremaining
      hprovider hrest ih =>
      have htake : found.take remaining = found.take (found.take remaining).length := by
        rw [List.length_take, ← List.take_take, List.take_length]
      rw [kept, List.zip_cons_cons, List.flatMap_cons, SearchSource.found_of_ok hprovider, ih]
      exact congrArg (· ++ _) htake

/-- Each attempt that is not limited keeps what is left of the budget. -/
theorem count_eq (h : Visited criteria budget index remaining sources attempts hits called)
    {before after : List (SearchSource × SearchSourceAttempt)} {source : SearchSource}
    {attempt : SearchSourceAttempt}
    (hsplit : sources.zip attempts = before ++ (source, attempt) :: after)
    (hcalled : attempt.status ≠ .budgetLimited) :
    attempt.candidateCount = min (source.found criteria).length
      (remaining - (before.map fun pair => pair.2.candidateCount).sum) := by
  induction h generalizing before with
  | done =>
      rw [List.zip_nil_left] at hsplit
      exact absurd hsplit (by simp)
  | @limited index remaining first rest hbudget =>
      have hmem : (source, attempt) ∈ (first :: rest).zip
          ((first :: rest).map SearchSourceAttempt.budgetLimited) := by
        rw [hsplit]
        simp
      obtain ⟨other, _, hother⟩ := List.mem_map.mp (List.of_mem_zip hmem).2
      rw [← hother] at hcalled
      exact absurd rfl hcalled
  | unavailable hindex hremaining hprovider hrest ih =>
      rw [List.zip_cons_cons] at hsplit
      cases before with
      | nil =>
          obtain ⟨hpair, _⟩ := List.cons.inj hsplit
          obtain ⟨rfl, rfl⟩ := Prod.mk.inj hpair
          rw [SearchSource.found_of_error hprovider]
          exact (Nat.zero_min _).symm
      | cons pair before =>
          obtain ⟨rfl, hrestSplit⟩ := List.cons.inj hsplit
          rw [ih hrestSplit, List.map_cons, List.sum_cons]
          change _ = min _ (_ - (0 + _))
          rw [Nat.zero_add]
  | @searched index remaining first rest found attempts hits called hindex hremaining
      hprovider hrest ih =>
      rw [List.zip_cons_cons] at hsplit
      cases before with
      | nil =>
          obtain ⟨hpair, _⟩ := List.cons.inj hsplit
          obtain ⟨rfl, rfl⟩ := Prod.mk.inj hpair
          rw [SearchSource.found_of_ok hprovider, List.map_nil, List.sum_nil, Nat.sub_zero,
            Nat.min_comm]
          exact List.length_take
      | cons pair before =>
          obtain ⟨rfl, hrestSplit⟩ := List.cons.inj hsplit
          rw [ih hrestSplit, List.map_cons, List.sum_cons]
          change _ = min _ (_ - ((found.take remaining).length + _))
          rw [Nat.sub_sub]

/-- Every source is searched when all succeed within the budget. -/
theorem all_searched_iff
    (h : Visited criteria budget index remaining sources attempts hits called) :
    (∀ attempt ∈ attempts, attempt.Searched) ↔
      (∀ source ∈ sources, source.Succeeds criteria) ∧
        (sources = [] ∨ index + sources.length ≤ budget.maxSources ∧
          (sources.dropLast.map fun source => (source.found criteria).length).sum <
            remaining) := by
  induction h with
  | done => simp
  | @limited index remaining source rest hbudget =>
      apply iff_of_false
      · intro hall
        have hfirst := hall (.budgetLimited source) List.mem_cons_self
        rw [SearchSourceAttempt.searched_iff] at hfirst
        exact hfirst.1 rfl
      · rintro ⟨_, hempty | ⟨hindex, hremaining⟩⟩
        · cases hempty
        · rw [List.length_cons] at hindex
          omega
  | @unavailable index remaining source rest error typeName hname attempts hits called hindex
      hremaining hprovider hrest ih =>
      apply iff_of_false
      · intro hall
        have hfirst := hall (.unavailable source typeName hname) List.mem_cons_self
        rw [SearchSourceAttempt.searched_iff] at hfirst
        exact hfirst.2 rfl
      · rintro ⟨hall, _⟩
        exact SearchSource.not_succeeds_of_error hprovider (hall source List.mem_cons_self)
  | @searched index remaining source rest found attempts hits called hindex hremaining
      hprovider hrest ih =>
      rw [List.forall_mem_cons, List.forall_mem_cons,
        and_iff_right (SearchSourceAttempt.searched_searched source _), ih]
      have hsucceeds : source.Succeeds criteria := ⟨found, hprovider⟩
      rw [and_iff_right hsucceeds]
      apply and_congr_right
      intro _
      rw [List.length_take, List.length_cons]
      cases rest with
      | nil =>
          apply iff_of_true (Or.inl rfl)
          right
          constructor
          · exact hindex
          · exact hremaining
      | cons next rest =>
          rw [List.dropLast_cons_cons, List.map_cons, List.sum_cons,
            SearchSource.found_of_ok hprovider]
          simp only [reduceCtorEq, false_or]
          omega

/-- When every source is searched, no hit is left out exactly when all of them fit
the budget. -/
theorem all_kept_iff
    (h : Visited criteria budget index remaining sources attempts hits called)
    (hall : ∀ attempt ∈ attempts, attempt.Searched) :
    (∀ pair ∈ sources.zip attempts,
        pair.2.candidateCount = (pair.1.found criteria).length) ↔
      (sources.map fun source => (source.found criteria).length).sum ≤ remaining := by
  induction h with
  | done => simp
  | @limited index remaining source rest hbudget =>
      have hfirst := hall (.budgetLimited source) List.mem_cons_self
      rw [SearchSourceAttempt.searched_iff] at hfirst
      exact absurd rfl hfirst.1
  | @unavailable index remaining source rest error typeName hname attempts hits called hindex
      hremaining hprovider hrest ih =>
      have hfirst := hall (.unavailable source typeName hname) List.mem_cons_self
      rw [SearchSourceAttempt.searched_iff] at hfirst
      exact absurd rfl hfirst.2
  | @searched index remaining source rest found attempts hits called hindex hremaining
      hprovider hrest ih =>
      rw [List.zip_cons_cons, List.forall_mem_cons,
        ih fun attempt hattempt => hall attempt (List.mem_cons_of_mem _ hattempt),
        List.map_cons, List.sum_cons, SearchSource.found_of_ok hprovider]
      change (found.take remaining).length = found.length ∧ _ ↔ _
      rw [List.length_take]
      omega

end Visited

section Execute

variable {runId : String} {criteria : SearchCriteria} {sources : List SearchSource}
  {budget : SearchBudget}

/-- What `execute` returns: nothing searched, or what the loop has visited. -/
theorem execute_spec (hrunId : PyText.blank runId = false)
    (hdistinct : (sources.map SearchSource.sourceRef).Nodup)
    (hanswers : ∀ source ∈ sources, source.Answers criteria) :
    ∃ run called, execute runId criteria sources budget = .ok (run, called) ∧
      ∃ hits, Visited criteria budget 0 budget.maxCandidates sources run.attempts hits
          called ∧
        run.hits = SearchService.execute criteria hits ∧
        run.completeness = if sources.isEmpty then .notSearched
          else verdict run.attempts run.hits := by
  rw [execute, dif_pos hdistinct]
  cases sources with
  | nil =>
      exact ⟨⟨runId, ⟨"search-run:v1", criteria, [], budget, by decide, hdistinct⟩, [], [],
        .notSearched, hrunId, le_refl _⟩, [], by simp [newRun, hrunId, bind, Except.bind,
          pure, Except.pure], [], .done, rfl, rfl⟩
  | cons source rest =>
      obtain ⟨progress, attempts, hits, called, hvisit, hattempts, hhits, hcalled,
        hvisited⟩ := @visit_spec criteria budget (source :: rest) 0
          { remainingCandidates := budget.maxCandidates } hanswers
      rw [List.nil_append] at hattempts hhits hcalled
      subst hattempts hhits hcalled
      have hlength : progress.attempts.length ≤
          ((source :: rest).map SearchSource.sourceRef).length := by
        rw [← hvisited.sourceRefs, List.length_map]
      refine ⟨⟨runId, ⟨"search-run:v1", criteria, _, budget, by decide, hdistinct⟩,
        SearchService.execute criteria progress.collectedHits, progress.attempts,
        verdict progress.attempts (SearchService.execute criteria progress.collectedHits),
        hrunId, hlength⟩, progress.called, ?_, progress.collectedHits, hvisited, rfl, rfl⟩
      rw [List.isEmpty_cons, if_neg Bool.false_ne_true]
      simp only [hvisit, newRun, hrunId, Bool.false_eq_true, dite_false, hlength, dite_true,
        bind, Except.bind, pure, Except.pure]

/-- What a run has to say about its sources. -/
structure Accounted (criteria : SearchCriteria) (sources : List SearchSource)
    (budget : SearchBudget) (run : SearchRun) (called : List String) : Prop where
  planned : run.attempts.map SearchSourceAttempt.sourceRef =
    sources.map SearchSource.sourceRef
  attempted : called = (run.attempts.filter fun attempt =>
    attempt.status ≠ .budgetLimited).map SearchSourceAttempt.sourceRef
  once : called.Nodup
  withinSources : called.length ≤ budget.maxSources
  withinCandidates : (run.attempts.map SearchSourceAttempt.candidateCount).sum ≤
    budget.maxCandidates
  limited : run.attempts.Pairwise fun first later =>
    first.status = .budgetLimited → later.status = .budgetLimited
  counts : ∀ before source attempt after,
    sources.zip run.attempts = before ++ (source, attempt) :: after →
      attempt.status ≠ .budgetLimited →
        attempt.candidateCount = min (source.found criteria).length
          (budget.maxCandidates - (before.map fun pair => pair.2.candidateCount).sum)
  hits : run.hits = SearchService.execute criteria
    ((sources.zip run.attempts).flatMap fun pair =>
      (pair.1.found criteria).take pair.2.candidateCount)

/-- A verdict that all was searched has every source searched, and every hit of
every source kept. -/
def Honest (criteria : SearchCriteria) (sources : List SearchSource) (run : SearchRun) :
    Prop :=
  run.completeness = .complete ∨ run.completeness = .searchedNotFound →
    (∀ attempt ∈ run.attempts, attempt.Searched) ∧
      ∀ pair ∈ sources.zip run.attempts,
        pair.2.candidateCount = (pair.1.found criteria).length

/-- All sources are to be searched, and it is the last one at which the budget of
candidates runs over. -/
def Overruns (criteria : SearchCriteria) (sources : List SearchSource)
    (budget : SearchBudget) : Prop :=
  (∀ source ∈ sources, source.Succeeds criteria) ∧ sources.length ≤ budget.maxSources ∧
    (sources.dropLast.map fun source => (source.found criteria).length).sum <
      budget.maxCandidates ∧
    budget.maxCandidates <
      (sources.map fun source => (source.found criteria).length).sum

theorem verdict_searched_iff {attempts : List SearchSourceAttempt} {hits : List SearchHit} :
    verdict attempts hits = .complete ∨ verdict attempts hits = .searchedNotFound ↔
      ∀ attempt ∈ attempts, attempt.Searched := by
  simp only [verdict, List.mem_map]
  constructor
  · intro hverdict attempt hattempt
    rw [SearchSourceAttempt.searched_iff]
    constructor
    · intro hlimited
      rw [if_pos ⟨attempt, hattempt, hlimited⟩] at hverdict
      rcases hverdict with h | h
      · cases h
      · cases h
    · intro hunavailable
      by_cases hlimited : ∃ attempt ∈ attempts, attempt.status = .budgetLimited
      · rw [if_pos hlimited] at hverdict
        rcases hverdict with h | h
        · cases h
        · cases h
      · rw [if_neg hlimited, if_pos ⟨attempt, hattempt, hunavailable⟩] at hverdict
        rcases hverdict with h | h
        · cases h
        · cases h
  · intro hall
    rw [if_neg, if_neg]
    · split
      · exact Or.inr rfl
      · exact Or.inl rfl
    · rintro ⟨attempt, hattempt, hunavailable⟩
      exact (SearchSourceAttempt.searched_iff.mp (hall attempt hattempt)).2 hunavailable
    · rintro ⟨attempt, hattempt, hlimited⟩
      exact (SearchSourceAttempt.searched_iff.mp (hall attempt hattempt)).1 hlimited

theorem honest_unless_overruns {run : SearchRun} {hits : List SearchHit} {called : List String}
    (hvisited : Visited criteria budget 0 budget.maxCandidates sources run.attempts hits called)
    (hcompleteness : run.completeness = if sources.isEmpty then .notSearched
      else verdict run.attempts run.hits) :
    Honest criteria sources run ↔ ¬ Overruns criteria sources budget := by
  cases sources with
  | nil =>
      apply iff_of_true
      · intro hverdict
        rw [hcompleteness] at hverdict
        rcases hverdict with h | h
        · cases h
        · cases h
      · rintro ⟨_, _, _, hover⟩
        exact absurd hover (Nat.not_lt_zero _)
  | cons source rest =>
      rw [List.isEmpty_cons, if_neg Bool.false_ne_true] at hcompleteness
      rw [Honest, hcompleteness, verdict_searched_iff]
      have hsearched := hvisited.all_searched_iff
      simp only [reduceCtorEq, false_or, Nat.zero_add] at hsearched
      constructor
      · rintro hhonest ⟨hsucceeds, hsources, hbefore, hover⟩
        have hall := hsearched.mpr ⟨hsucceeds, hsources, hbefore⟩
        have hkept := (hvisited.all_kept_iff hall).mp (hhonest hall).2
        omega
      · intro hnot hall
        refine ⟨hall, (hvisited.all_kept_iff hall).mpr ?_⟩
        obtain ⟨hsucceeds, hsources, hbefore⟩ := hsearched.mp hall
        by_contra hover
        exact hnot ⟨hsucceeds, hsources, hbefore, Nat.lt_of_not_le hover⟩

/-- The verdict is honest unless the last source runs over the budget. -/
theorem honest_iff (hrunId : PyText.blank runId = false)
    (hdistinct : (sources.map SearchSource.sourceRef).Nodup)
    (hanswers : ∀ source ∈ sources, source.Answers criteria) :
    ∃ run called, execute runId criteria sources budget = .ok (run, called) ∧
      (Honest criteria sources run ↔ ¬ Overruns criteria sources budget) := by
  obtain ⟨run, called, hexecute, hits, hvisited, _, hcompleteness⟩ :=
    @execute_spec runId criteria sources budget hrunId hdistinct hanswers
  exact ⟨run, called, hexecute, honest_unless_overruns hvisited hcompleteness⟩

def sampleSource (sourceRef : String) (hits : List SearchHit)
    (hvalid : PyText.blank sourceRef = false) : SearchSource :=
  ⟨sourceRef, fun _ => .ok hits, hvalid⟩

def sampleSources : List SearchSource :=
  [sampleSource "source:1" [SearchService.sampleHit "ref-1" (some "1655000001")] (by decide),
    sampleSource "source:2" [SearchService.sampleHit "ref-2" none,
      SearchService.sampleHit "ref-3" none] (by decide)]

theorem sample_answers (criteria : SearchCriteria) :
    ∀ source ∈ sampleSources, source.Answers criteria := by
  simp [sampleSources, SearchSource.Answers, sampleSource]

theorem honest_iff_sample : ∃ run called,
    execute "run-1" SearchService.sampleCriteria sampleSources ⟨2, 3, by decide⟩ =
        .ok (run, called) ∧ Honest SearchService.sampleCriteria sampleSources run := by
  obtain ⟨run, called, hexecute, hiff⟩ :=
    @honest_iff "run-1" SearchService.sampleCriteria sampleSources ⟨2, 3, by decide⟩
      (by decide) (by decide) (sample_answers _)
  refine ⟨run, called, hexecute, hiff.mpr ?_⟩
  rintro ⟨_, _, _, hover⟩
  revert hover
  decide +kernel

/-- The last source returns two hits with room for one. -/
theorem truncated_run_dishonest : ∃ run called,
    execute "run-1" SearchService.sampleCriteria sampleSources ⟨2, 2, by decide⟩ =
        .ok (run, called) ∧ ¬ Honest SearchService.sampleCriteria sampleSources run := by
  obtain ⟨run, called, hexecute, hits, hvisited, _, hcompleteness⟩ :=
    @execute_spec "run-1" SearchService.sampleCriteria sampleSources ⟨2, 2, by decide⟩
      (by decide) (by decide) (sample_answers _)
  refine ⟨run, called, hexecute, ?_⟩
  rw [honest_unless_overruns hvisited hcompleteness, not_not]
  refine ⟨?_, by decide, by decide +kernel, by decide +kernel⟩
  simp [sampleSources, sampleSource, SearchSource.Succeeds]

end Execute

end SearchRunService

end ShemaPlatform
