/-
The search of an operator, from the request to the response: the sources of the
request or the default ones are planned with the registry, searched through their
adapters within the budget, and reported with what the registry says of them.
-/
import Mathlib.Data.String.Basic
import ShemaPlatform.Intelligence
import ShemaPlatform.SearchAccounting
import ShemaPlatform.SearchPlanning

namespace ShemaPlatform

/-- An exception of the search: a failure, or a `TypeError`. -/
inductive OperatorSearchError where
  | failure (failure : Failure)
  | typeError (message : String)

/-- An adapter by its `search` method, if it has one. -/
structure SearchAdapter where
  search : Option (SearchCriteria → Except SearchProviderError (List SearchHit))

structure OperatorSearchService where
  registry : SearchSourceRegistry
  adapters : String → Option SearchAdapter
  defaultSourceIds : List String

structure OperatorSearchResult where
  plan : RegistrySearchPlan
  run : SearchRun

namespace OperatorSearchService

/-- A computation whose exceptions are failures. -/
def failing {α : Type} : Except Failure α → Except OperatorSearchError α
  | .ok value => .ok value
  | .error failure => .error (.failure failure)

/-- `requested or self._default_source_ids` -/
def selected (service : OperatorSearchService) (sourceIds : List String) : List String :=
  let requested := normalizedIds sourceIds
  if requested.isEmpty then service.defaultSourceIds else requested

/-- The loop over the planned sources: those with an adapter, and the ids of the others. -/
def gather (repr : String → String) (adapters : String → Option SearchAdapter) :
    List SearchRegistrySource →
      Except OperatorSearchError (List SearchSource × List String)
  | [] => .ok ([], [])
  | planned :: rest =>
      match adapters planned.sourceId with
      | none => do
          let (sources, missing) ← gather repr adapters rest
          return (sources, planned.sourceId :: missing)
      | some adapter =>
          match adapter.search with
          | none => .error (.typeError
              ("search adapter for " ++ repr planned.sourceId ++ " has no search method"))
          | some search =>
              if hblank : PyText.blank planned.sourceId = true then
                .error (.failure (.valueError "source_ref is required"))
              else do
                let (sources, missing) ← gather repr adapters rest
                return (⟨planned.sourceId, search, by simpa using hblank⟩ :: sources, missing)

/-- The result of a search, with the sources whose provider was called. -/
def execute (service : OperatorSearchService) (repr : String → String) (runId : String)
    (criteria : SearchCriteria) (sourceIds : List String) (budget : Option SearchBudget) :
    Except OperatorSearchError (OperatorSearchResult × List String) := do
  let plan ← failing (service.registry.plan criteria (service.selected sourceIds) budget)
  let (sources, missing) ← gather repr service.adapters plan.sources
  failing (require missing.isEmpty (.valueError
    ("search source adapter not configured: " ++ String.intercalate ", " missing)))
  let (run, called) ← failing (SearchRunService.execute runId criteria sources plan.budget)
  return (⟨plan, run⟩, called)

end OperatorSearchService

/-- The fields of a search request, within the bounds of its model. -/
structure SearchRequest where
  region : String
  industries : List String
  limit : ℕ := 50
  selectionLevel : SelectionLevel := .candidate
  sourceIds : List String := []
  maxSources : ℕ := 8
  maxCandidates : ℕ := 500
  valid : industries ≠ [] ∧ (1 ≤ limit ∧ limit ≤ 500) ∧ sourceIds.length ≤ 50 ∧
    (1 ≤ maxSources ∧ maxSources ≤ 50) ∧ 1 ≤ maxCandidates ∧ maxCandidates ≤ 5000

structure SearchHitResponse where
  candidateRef : String
  name : String
  region : String
  industries : List String
  sourceRef : String
  taxId : Option String
  registrationId : Option String
  contactRefs : List String
  selectionLevel : SelectionLevel

structure SearchSourceAttemptResponse where
  sourceId : String
  sourceClass : String
  reliability : String
  accessMode : String
  status : SearchSourceStatus
  candidateCount : ℕ
  errorCode : Option String

structure SearchResponse where
  results : List SearchHitResponse
  correlationId : String
  completeness : SearchCompleteness
  planVersion : String
  sourceAttempts : List SearchSourceAttemptResponse

namespace SearchOnlyAPIApplication

def hitResponse (hit : SearchHit) : SearchHitResponse where
  candidateRef := hit.candidateRef
  name := hit.name
  region := hit.region
  industries := IntelligenceService.sortedClasses hit.industries
  sourceRef := hit.sourceRef
  taxId := hit.taxId
  registrationId := hit.registrationId
  contactRefs := hit.contactRefs
  selectionLevel := hit.selectionLevel

def attemptResponse (source : SearchRegistrySource) (attempt : SearchSourceAttempt) :
    SearchSourceAttemptResponse where
  sourceId := source.sourceId
  sourceClass := source.sourceClass
  reliability := source.reliability
  accessMode := source.accessMode
  status := attempt.status
  candidateCount := attempt.candidateCount
  errorCode := attempt.errorCode

section AttemptResponse

variable (source : SearchRegistrySource) (attempt : SearchSourceAttempt)

@[simp] theorem attemptResponse_sourceId :
    (attemptResponse source attempt).sourceId = source.sourceId :=
  rfl

@[simp] theorem attemptResponse_status :
    (attemptResponse source attempt).status = attempt.status :=
  rfl

@[simp] theorem attemptResponse_candidateCount :
    (attemptResponse source attempt).candidateCount = attempt.candidateCount :=
  rfl

end AttemptResponse

/-- `attempt_by_id[source_id]`; of two attempts with one id the later one is kept. -/
def attemptById (attempts : List SearchSourceAttempt) (sourceId : String) :
    Except Failure SearchSourceAttempt :=
  match attempts.reverse.find? fun attempt => attempt.sourceRef == sourceId with
  | some attempt => .ok attempt
  | none => .error (.keyError sourceId)

/-- `SearchOnlyAPIApplication.search`, with the sources whose provider was called. -/
def search (service : OperatorSearchService) (repr : String → String) (runId : String)
    (request : SearchRequest) (correlationId : String) :
    Except OperatorSearchError (SearchResponse × List String) := do
  let criteria ← OperatorSearchService.failing (SearchCriteria.new request.region
    request.industries.toFinset request.limit request.selectionLevel)
  let (result, called) ← service.execute repr runId criteria request.sourceIds
    (some ⟨request.maxSources, request.maxCandidates,
      request.valid.2.2.2.1.1, request.valid.2.2.2.2.1⟩)
  let sourceAttempts ← OperatorSearchService.failing (result.plan.sources.mapM fun source => do
    let attempt ← attemptById result.run.attempts source.sourceId
    return attemptResponse source attempt)
  return (⟨result.run.hits.map hitResponse, correlationId, result.run.completeness,
    result.plan.planVersion, sourceAttempts⟩, called)

end SearchOnlyAPIApplication

end ShemaPlatform
