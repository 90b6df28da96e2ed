/-
The sources that may be searched: the registry that is read from its contract, and
the plan of a search over some of them.
-/
import ShemaPlatform.CloudProviders
import ShemaPlatform.PyStrip
import ShemaPlatform.SearchRun

namespace ShemaPlatform

structure SearchRegistrySource where
  sourceId : String
  name : String
  sourceClass : String
  reliability : String
  accessMode : String
  networkAutomation : Bool
deriving DecidableEq

structure RegistrySearchPlan where
  planVersion : String
  criteria : SearchCriteria
  sources : List SearchRegistrySource
  budget : SearchBudget
  lawfulAccessRequired : Bool

def RegistrySearchPlan.sourceIds (plan : RegistrySearchPlan) : List String :=
  plan.sources.map SearchRegistrySource.sourceId

/-- Sources with ids of their own, none of which the platform calls by itself. -/
structure SearchSourceRegistry where
  sources : List SearchRegistrySource
  lawfulAccessRequired : Bool
  unique : (sources.map SearchRegistrySource.sourceId).Nodup
  named : ∀ source ∈ sources, PyText.blank source.sourceId = false
  offline : ∀ source ∈ sources, source.networkAutomation = false

/-- `tuple(item.strip() for item in source_ids if item.strip())` -/
def normalizedIds (sourceIds : List String) : List String :=
  (sourceIds.filter fun item => PyText.blank item = false).map PyText.strip

namespace SearchSourceRegistry

def new (sources : List SearchRegistrySource) (lawfulAccessRequired : Bool) :
    Except Failure SearchSourceRegistry :=
  if hunique : (sources.map SearchRegistrySource.sourceId).Nodup then
    if hnamed : ∀ source ∈ sources, PyText.blank source.sourceId = false then
      if hoffline : ∀ source ∈ sources, source.networkAutomation = false then
        .ok ⟨sources, lawfulAccessRequired, hunique, hnamed, hoffline⟩
      else .error (.valueError "network automation is disabled by the registry policy")
    else .error (.valueError "source_id is required")
  else .error (.valueError "source_id values must be unique")

/-- One entry of the contract; `str(raw.get(name, ""))` of what is not a text is left
open. -/
def sourceFrom (str : JsonValue → String) (raw : JsonValue) :
    Except Failure SearchRegistrySource :=
  match raw with
  | .dict fields =>
      let text (name : String) := str ((fields.lookup name).getD (.text ""))
      .ok ⟨text "source_id", text "name", text "source_class", text "default_reliability",
        text "access_mode", (raw.get "network_automation").truthy⟩
  | _ => .error (.valueError "registry source entry is malformed")

/-- `value is expected` for a constant of the language. -/
def isBool (expected : Bool) : JsonValue → Bool
  | .bool value => value == expected
  | _ => false

def fromContract (str : JsonValue → String) (contract : JsonValue) :
    Except Failure SearchSourceRegistry :=
  let policy := contract.get "policy"
  match policy.isDict, contract.get "sources" with
  | true, .list sources => do
      require (isBool false (policy.get "network_execution_enabled"))
        (.valueError "registry policy must keep network execution disabled")
      require (isBool true (policy.get "source_provenance_operator_visible"))
        (.valueError "registry policy must expose source provenance")
      require (isBool true (policy.get "source_reliability_separate_from_claim_confidence"))
        (.valueError "registry policy must separate reliability from claim confidence")
      let parsed ← sources.mapM (sourceFrom str)
      new parsed (policy.get "lawful_access_required").truthy
  | _, _ => .error (.valueError "source registry contract is malformed")

/-- `self._sources.get(source_id)` -/
def find (registry : SearchSourceRegistry) (sourceId : String) : Option SearchRegistrySource :=
  registry.sources.find? fun source => source.sourceId == sourceId

def resolve (registry : SearchSourceRegistry) (sourceIds : List String) :
    Except Failure (List SearchRegistrySource) := do
  let normalized := normalizedIds sourceIds
  require (!normalized.isEmpty) (.valueError "at least one source_id is required")
  require (decide normalized.Nodup)
    (.valueError "source_id values must be unique in a search plan")
  let missing := normalized.filter fun item => (registry.find item).isNone
  require missing.isEmpty
    (.valueError ("unknown search source: " ++ String.intercalate ", " missing))
  return normalized.filterMap registry.find

/-- The plan of `RegistryBackedSearchPlanner`. -/
def plan (registry : SearchSourceRegistry) (criteria : SearchCriteria)
    (sourceIds : List String) (budget : Option SearchBudget) :
    Except Failure RegistrySearchPlan := do
  let sources ← registry.resolve sourceIds
  return ⟨"search-plan:v1", criteria, sources,
    budget.getD { valid := by decide }, registry.lawfulAccessRequired⟩

section Resolve

variable {registry : SearchSourceRegistry} {sourceIds : List String}

theorem find_eq_some {sourceId : String} {source : SearchRegistrySource}
    (h : registry.find sourceId = some source) :
    source ∈ registry.sources ∧ source.sourceId = sourceId := by
  have hfound := List.find?_some h
  rw [beq_iff_eq] at hfound
  exact ⟨List.mem_of_find?_eq_some h, hfound⟩

theorem find_isSome {sourceId : String} :
    (registry.find sourceId).isSome = true ↔
      ∃ source ∈ registry.sources, source.sourceId = sourceId := by
  rw [find, List.find?_isSome]
  simp only [beq_iff_eq]

/-- Ids that are all registered are found one by one. -/
theorem map_filterMap_find {ids : List String}
    (h : ∀ sourceId ∈ ids, (registry.find sourceId).isSome = true) :
    (ids.filterMap registry.find).map SearchRegistrySource.sourceId = ids := by
  induction ids with
  | nil => rfl
  | cons first rest ih =>
      rw [List.forall_mem_cons] at h
      rcases Option.isSome_iff_exists.mp h.1 with ⟨source, hsource⟩
      rw [List.filterMap_cons, hsource, List.map_cons, ih h.2, (find_eq_some hsource).2]

/-- A list of ids is resolved exactly when some are left of it, no two of them the same
and all of them registered. -/
theorem resolve_eq_ok {sources : List SearchRegistrySource} :
    registry.resolve sourceIds = .ok sources ↔ normalizedIds sourceIds ≠ [] ∧
      (normalizedIds sourceIds).Nodup ∧
      (∀ sourceId ∈ normalizedIds sourceIds, (registry.find sourceId).isSome = true) ∧
      sources = (normalizedIds sourceIds).filterMap registry.find := by
  simp only [resolve, bind_eq_ok, require_eq_ok, pure_eq_ok, exists_const, Bool.not_eq_true',
    List.isEmpty_eq_false_iff, decide_eq_true_eq, List.isEmpty_iff, List.filter_eq_nil_iff,
    Option.isNone_iff_eq_none, Option.isSome_iff_ne_none, ne_eq]
  constructor
  · rintro ⟨hsome, hnodup, hfound, hsources⟩
    exact ⟨hsome, hnodup, hfound, hsources.symm⟩
  · rintro ⟨hsome, hnodup, hfound, hsources⟩
    exact ⟨hsome, hnodup, hfound, hsources.symm⟩

end Resolve

end SearchSourceRegistry

end ShemaPlatform
