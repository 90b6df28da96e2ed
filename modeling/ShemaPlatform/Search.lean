/-
Search for companies: what a provider finds, and which of it is kept.
-/
import Mathlib.Data.Finset.Image
import ShemaPlatform.Calendar
import ShemaPlatform.Firsts
import ShemaPlatform.PyUnicode

namespace ShemaPlatform

open Calendar

inductive SelectionLevel where
  | candidate | identified | verified
deriving DecidableEq, Repr

def SelectionLevel.rank : SelectionLevel → ℕ
  | .candidate => 1
  | .identified => 2
  | .verified => 3

/-- `frozenset(item.strip().lower() for item in industries if item.strip())` -/
def normalizedIndustries (industries : Finset String) : Finset String :=
  (industries.filter fun item => PyText.blank item = false).image fun item =>
    PyText.lower (PyText.strip item)

structure SearchCriteria where
  region : String
  industries : Finset String
  limit : ℕ
  selectionLevel : SelectionLevel
  valid : region ≠ "" ∧ industries ≠ ∅ ∧ 1 ≤ limit ∧ limit ≤ 500

def SearchCriteria.new (region : String) (industries : Finset String) (limit : ℕ)
    (selectionLevel : SelectionLevel) : Except Failure SearchCriteria :=
  let normalizedRegion := PyText.strip region
  let industries := normalizedIndustries industries
  if hregion : normalizedRegion = "" then .error (.valueError "region is required")
  else if hindustries : industries = ∅ then
    .error (.valueError "at least one industry is required")
  else if hlimit : 1 ≤ limit ∧ limit ≤ 500 then
    .ok ⟨normalizedRegion, industries, limit, selectionLevel, hregion, hindustries, hlimit⟩
  else .error (.valueError "limit must be between 1 and 500")

structure SearchHit where
  candidateRef : String
  name : String
  region : String
  industries : Finset String
  sourceRef : String
  taxId : Option String := none
  registrationId : Option String := none
  contactRefs : List String := []
  selectionLevel : SelectionLevel := .candidate
  observedAt : Instant
  capturedAt : Instant
  captured : observedAt ≤ capturedAt
deriving DecidableEq

namespace SearchHit

/-- `value.strip() if value else None` -/
def stripped (value : Option String) : Option String :=
  (value.filter fun value => value ≠ "").map PyText.strip

def normalized (hit : SearchHit) : SearchHit :=
  { hit with
    candidateRef := PyText.strip hit.candidateRef
    name := PyText.strip hit.name
    region := PyText.strip hit.region
    industries := normalizedIndustries hit.industries
    sourceRef := PyText.strip hit.sourceRef
    taxId := stripped hit.taxId
    registrationId := stripped hit.registrationId
    contactRefs := (hit.contactRefs.map PyText.strip).filter fun ref => ref ≠ "" }

/-- `tax_id or candidate_ref` -/
def dedupeKey (hit : SearchHit) : String :=
  (hit.taxId.filter fun taxId => taxId ≠ "").getD hit.candidateRef

/-- What a company is known by: its tax id or, without one, its reference. -/
def company (hit : SearchHit) : String ⊕ String :=
  ((hit.taxId.filter fun taxId => taxId ≠ "").map Sum.inl).getD (.inr hit.candidateRef)

end SearchHit

namespace SearchService

/-- The checks that a normalized hit has to pass. -/
def eligible (criteria : SearchCriteria) (hit : SearchHit) : Bool :=
  hit.candidateRef ≠ "" && hit.name ≠ "" && hit.sourceRef ≠ "" &&
    hit.region = criteria.region && hit.industries ∩ criteria.industries ≠ ∅ &&
    criteria.selectionLevel.rank ≤ hit.selectionLevel.rank

/-- The loop of `execute`, with the keys that have been seen. -/
def collect (criteria : SearchCriteria) :
    List SearchHit → List String → List SearchHit → List SearchHit
  | [], _, accepted => accepted
  | found :: rest, seen, accepted =>
      let hit := found.normalized
      if !eligible criteria hit then collect criteria rest seen accepted
      else if hit.dedupeKey ∈ seen then collect criteria rest seen accepted
      else if criteria.limit ≤ (accepted ++ [hit]).length then accepted ++ [hit]
      else collect criteria rest (hit.dedupeKey :: seen) (accepted ++ [hit])

/-- Applied to what the provider has found. -/
def execute (criteria : SearchCriteria) (hits : List SearchHit) : List SearchHit :=
  collect criteria hits [] []

/-- The eligible hits in the provider's order, normalized. -/
def eligibleHits (criteria : SearchCriteria) (hits : List SearchHit) : List SearchHit :=
  (hits.map SearchHit.normalized).filter (eligible criteria)

/-- The first so many of them, each the first of its company. -/
def companies (criteria : SearchCriteria) (hits : List SearchHit) : List SearchHit :=
  (Firsts.firstsBy SearchHit.company [] (eligibleHits criteria hits)).take criteria.limit

section Execute

variable {criteria : SearchCriteria}

theorem dedupeKey_eq (hit : SearchHit) :
    hit.dedupeKey = Sum.elim id id hit.company := by
  rw [SearchHit.dedupeKey, SearchHit.company]
  cases hit.taxId.filter fun taxId => taxId ≠ "" with
  | none => rfl
  | some taxId => rfl

theorem collect_eq (hits : List SearchHit) (seen : List String) (accepted : List SearchHit)
    (hroom : accepted.length < criteria.limit) :
    collect criteria hits seen accepted = accepted ++
      (Firsts.firstsBy SearchHit.dedupeKey seen (eligibleHits criteria hits)).take
        (criteria.limit - accepted.length) := by
  induction hits generalizing seen accepted with
  | nil => simp [collect, eligibleHits, Firsts.firstsBy]
  | cons found rest ih =>
      rw [collect]
      cases heligible : eligible criteria found.normalized with
      | false =>
          rw [Bool.not_false, if_pos rfl, ih seen accepted hroom]
          simp [eligibleHits, heligible]
      | true =>
          have hlist : eligibleHits criteria (found :: rest) =
              found.normalized :: eligibleHits criteria rest := by
            simp [eligibleHits, heligible]
          rw [Bool.not_true, if_neg Bool.false_ne_true, hlist, Firsts.firstsBy]
          by_cases hseen : found.normalized.dedupeKey ∈ seen
          · rw [if_pos hseen, if_pos hseen]
            exact ih seen accepted hroom
          · rw [if_neg hseen, if_neg hseen]
            have hlength : (accepted ++ [found.normalized]).length = accepted.length + 1 := by
              simp
            have hone : criteria.limit - accepted.length =
                (criteria.limit - (accepted.length + 1)) + 1 := by omega
            rw [hlength, hone, List.take_succ_cons]
            by_cases hfull : criteria.limit ≤ accepted.length + 1
            · rw [if_pos hfull, Nat.sub_eq_zero_of_le hfull, List.take_zero]
            · rw [if_neg hfull, ih _ _ (by rw [hlength]; omega), hlength, List.append_assoc]
              rfl

def sampleCriteria : SearchCriteria :=
  ⟨"Kazan", {"transport"}, 50, .candidate, by decide⟩

def sampleHit (candidateRef : String) (taxId : Option String) : SearchHit where
  candidateRef
  name := "Company " ++ candidateRef
  region := "Kazan"
  industries := {"transport"}
  sourceRef := "source:1"
  taxId
  observedAt := 0
  capturedAt := 0
  captured := le_refl _

end Execute

end SearchService

end ShemaPlatform
