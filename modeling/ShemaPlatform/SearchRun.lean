/-
A search over several sources, within a budget of sources and candidates.
-/
import Mathlib.Algebra.BigOperators.Group.List.Basic
import ShemaPlatform.Search

namespace ShemaPlatform

inductive SearchCompleteness where
  | notSearched | searchedNotFound | sourceUnavailable | budgetLimited | complete
deriving DecidableEq, Repr

inductive SearchSourceStatus where
  | searched | searchedNotFound | sourceUnavailable | budgetLimited
deriving DecidableEq, Repr

/-- What a provider raises instead of its hits. -/
inductive SearchProviderError where
  | searchSourceUnavailable
  | timeoutError
  | other (error : Failure)

structure SearchBudget where
  maxSources : ℕ := 8
  maxCandidates : ℕ := 500
  valid : 1 ≤ maxSources ∧ 1 ≤ maxCandidates

structure SearchSource where
  sourceRef : String
  provider : SearchCriteria → Except SearchProviderError (List SearchHit)
  valid : PyText.blank sourceRef = false

structure SearchPlan where
  planVersion : String
  criteria : SearchCriteria
  sourceRefs : List String
  budget : SearchBudget
  valid : PyText.blank planVersion = false ∧ sourceRefs.Nodup

structure SearchSourceAttempt where
  sourceRef : String
  status : SearchSourceStatus
  candidateCount : ℕ := 0
  errorCode : Option String := none
  valid : PyText.blank sourceRef = false ∧
    (status = .sourceUnavailable ↔ ∃ code ∈ errorCode, code ≠ "")
deriving DecidableEq

structure SearchRun where
  runId : String
  plan : SearchPlan
  hits : List SearchHit
  attempts : List SearchSourceAttempt
  completeness : SearchCompleteness
  valid : PyText.blank runId = false ∧ attempts.length ≤ plan.sourceRefs.length

namespace SearchSourceAttempt

def budgetLimited (source : SearchSource) : SearchSourceAttempt where
  sourceRef := source.sourceRef
  status := .budgetLimited
  valid := ⟨source.valid, by simp⟩

/-- `error_code=type(exc).__name__` -/
def unavailable (source : SearchSource) (typeName : String) (hname : typeName ≠ "") :
    SearchSourceAttempt where
  sourceRef := source.sourceRef
  status := .sourceUnavailable
  errorCode := some typeName
  valid := ⟨source.valid, by simp [hname]⟩

def searched (source : SearchSource) (cappedHits : List SearchHit) :
    SearchSourceAttempt where
  sourceRef := source.sourceRef
  status := if cappedHits.isEmpty then .searchedNotFound else .searched
  candidateCount := cappedHits.length
  valid := ⟨source.valid, by cases cappedHits with
    | nil => simp
    | cons hit rest => simp⟩

end SearchSourceAttempt

namespace SearchRunService

/-- What the loop of `execute` has at hand, with the sources whose provider it
has called. -/
structure Progress where
  attempts : List SearchSourceAttempt := []
  collectedHits : List SearchHit := []
  remainingCandidates : ℕ
  called : List String := []

/-- An attempt at a source that was called. -/
def Progress.attempt (progress : Progress) (source : SearchSource)
    (attempt : SearchSourceAttempt) (cappedHits : List SearchHit) : Progress where
  attempts := progress.attempts ++ [attempt]
  collectedHits := progress.collectedHits ++ cappedHits
  remainingCandidates := progress.remainingCandidates - cappedHits.length
  called := progress.called ++ [source.sourceRef]

/-- The sources that are left when the budget is used up. -/
def Progress.limit (progress : Progress) (sources : List SearchSource) : Progress :=
  { progress with
    attempts := progress.attempts ++ sources.map SearchSourceAttempt.budgetLimited }

/-- The loop of `execute` from a source on. -/
def visit (criteria : SearchCriteria) (budget : SearchBudget) :
    ℕ → List SearchSource → Progress → Except Failure Progress
  | _, [], progress => .ok progress
  | index, source :: rest, progress =>
      if budget.maxSources ≤ index ∨ progress.remainingCandidates = 0 then
        .ok (progress.limit (source :: rest))
      else
        match source.provider criteria with
        | .error .searchSourceUnavailable =>
            visit criteria budget (index + 1) rest (progress.attempt source
              (.unavailable source "SearchSourceUnavailable" (by decide)) [])
        | .error .timeoutError =>
            visit criteria budget (index + 1) rest (progress.attempt source
              (.unavailable source "TimeoutError" (by decide)) [])
        | .error (.other error) => .error error
        | .ok hits =>
            let cappedHits := hits.take progress.remainingCandidates
            let progress := progress.attempt source (.searched source cappedHits) cappedHits
            if progress.remainingCandidates = 0 ∧ rest ≠ [] then .ok (progress.limit rest)
            else visit criteria budget (index + 1) rest progress

def verdict (attempts : List SearchSourceAttempt) (hits : List SearchHit) :
    SearchCompleteness :=
  let statuses := attempts.map SearchSourceAttempt.status
  if SearchSourceStatus.budgetLimited ∈ statuses then .budgetLimited
  else if SearchSourceStatus.sourceUnavailable ∈ statuses then .sourceUnavailable
  else if hits.isEmpty then .searchedNotFound
  else .complete

/-- What the constructor of a run accepts. -/
def newRun (runId : String) (plan : SearchPlan) (hits : List SearchHit)
    (attempts : List SearchSourceAttempt) (completeness : SearchCompleteness) :
    Except Failure SearchRun :=
  if hrunId : PyText.blank runId = true then .error (.valueError "run_id is required")
  else if hattempts : attempts.length ≤ plan.sourceRefs.length then
    .ok ⟨runId, plan, hits, attempts, completeness,
      by simpa using hrunId, hattempts⟩
  else .error (.valueError "attempt count cannot exceed planned source count")

/-- The run, with the sources whose provider was called. -/
def execute (runId : String) (criteria : SearchCriteria) (sources : List SearchSource)
    (budget : SearchBudget) : Except Failure (SearchRun × List String) :=
  if hunique : (sources.map SearchSource.sourceRef).Nodup then
    let plan : SearchPlan :=
      ⟨"search-run:v1", criteria, sources.map SearchSource.sourceRef, budget,
        by decide, hunique⟩
    if sources.isEmpty then do
      let run ← newRun runId plan [] [] .notSearched
      return (run, [])
    else do
      let progress ← visit criteria budget 0 sources
        { remainingCandidates := budget.maxCandidates }
      let hits := SearchService.execute criteria progress.collectedHits
      let run ← newRun runId plan hits progress.attempts (verdict progress.attempts hits)
      return (run, progress.called)
  else .error (.valueError "source_refs must be unique")

end SearchRunService

end ShemaPlatform
