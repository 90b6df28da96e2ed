/-
Searching again among the hits that a search has returned.
-/
import ShemaPlatform.PyStrip
import ShemaPlatform.Search

namespace ShemaPlatform

/-- Every industry of a normalized set is kept as it is. -/
theorem normalizedIndustries_again (industries : Finset String) :
    normalizedIndustries (normalizedIndustries industries) =
      normalizedIndustries industries := by
  have hkept : ∀ item ∈ normalizedIndustries industries,
      PyText.blank item = false ∧ PyText.lower (PyText.strip item) = item := by
    intro item hitem
    obtain ⟨found, hfound, rfl⟩ := Finset.mem_image.mp hitem
    have hinked := (Finset.mem_filter.mp hfound).2
    rw [PyText.strip_lower_strip, PyText.lower_lower]
    refine ⟨?_, rfl⟩
    rw [← Bool.not_eq_true, ← PyText.strip_eq_empty, PyText.strip_lower_strip,
      PyText.lower_eq_empty, PyText.strip_eq_empty, hinked]
    exact Bool.false_ne_true
  rw [normalizedIndustries, Finset.filter_true_of_mem fun item hitem => (hkept item hitem).1]
  exact (Finset.image_congr fun item hitem => (hkept item hitem).2).trans Finset.image_id

namespace SearchHit

/-- White space alone, which stripping makes an empty text and not none. -/
def onlySpace (value : Option String) : Bool :=
  value.any fun text => text ≠ "" && PyText.blank text

theorem stripped_stripped (value : Option String) :
    stripped (stripped value) = (stripped value).filter fun text => text ≠ "" := by
  cases value with
  | none => rfl
  | some text =>
      by_cases hempty : text = ""
      · subst hempty
        rfl
      · have hfirst : stripped (some text) = some (PyText.strip text) := by
          simp [stripped, hempty]
        rw [hfirst, stripped]
        by_cases hblank : PyText.strip text = ""
        · rw [hblank]
          rfl
        · rw [Option.filter_some_pos (by simpa using hblank), Option.map_some,
            PyText.strip_strip]

theorem filter_stripped (value : Option String) :
    ((stripped value).filter fun text => text ≠ "") = stripped value ↔
      onlySpace value = false := by
  cases value with
  | none => exact iff_of_true rfl rfl
  | some text =>
      by_cases hempty : text = ""
      · subst hempty
        exact iff_of_true rfl rfl
      · have hfirst : stripped (some text) = some (PyText.strip text) := by
          simp [stripped, hempty]
        rw [hfirst]
        simp [onlySpace, hempty, Option.filter_eq_some_iff]

theorem normalized_contactRefs (hit : SearchHit) :
    (hit.normalized.contactRefs.map PyText.strip).filter (fun ref => ref ≠ "") =
      hit.normalized.contactRefs := by
  have hkept : ∀ ref ∈ hit.normalized.contactRefs, PyText.strip ref = ref ∧ ref ≠ "" := by
    intro ref href
    obtain ⟨hmem, hne⟩ := List.mem_filter.mp href
    obtain ⟨found, _, rfl⟩ := List.mem_map.mp hmem
    exact ⟨PyText.strip_strip found, by simpa using hne⟩
  rw [List.map_congr_left fun ref href => (hkept ref href).1, List.map_id']
  exact List.filter_eq_self.mpr fun ref href => by simpa using (hkept ref href).2

/-- Normalizing again only turns an empty tax or registration id into none. -/
theorem normalized_normalized (hit : SearchHit) : hit.normalized.normalized =
    { hit.normalized with
      taxId := hit.normalized.taxId.filter fun text => text ≠ ""
      registrationId := hit.normalized.registrationId.filter fun text => text ≠ "" } := by
  rw [normalized, normalized_contactRefs]
  simp only [normalized, PyText.strip_strip, normalizedIndustries_again, stripped_stripped]

theorem normalized_again_iff (hit : SearchHit) : hit.normalized.normalized = hit.normalized ↔
    onlySpace hit.taxId = false ∧ onlySpace hit.registrationId = false := by
  rw [normalized_normalized, ← filter_stripped, ← filter_stripped]
  constructor
  · intro h
    exact ⟨congrArg taxId h, congrArg registrationId h⟩
  · rintro ⟨htax, hregistration⟩
    change { hit.normalized with
      taxId := (stripped hit.taxId).filter fun text => text ≠ ""
      registrationId := (stripped hit.registrationId).filter fun text => text ≠ "" } = _
    rw [htax, hregistration]
    rfl

theorem dedupeKey_again (hit : SearchHit) :
    hit.normalized.normalized.dedupeKey = hit.normalized.dedupeKey := by
  rw [normalized_normalized, dedupeKey, dedupeKey]
  simp only [Option.filter_filter, Bool.and_self]

end SearchHit

namespace SearchService

variable {criteria : SearchCriteria}

theorem eligible_again (hit : SearchHit) :
    eligible criteria hit.normalized.normalized = eligible criteria hit.normalized := by
  rw [SearchHit.normalized_normalized]
  rfl

theorem execute_eq (criteria : SearchCriteria) (hits : List SearchHit) :
    execute criteria hits = (Firsts.firstsBy SearchHit.dedupeKey []
      (eligibleHits criteria hits)).take criteria.limit := by
  rw [execute, collect_eq hits [] [] criteria.valid.2.2.1]
  rfl

/-- The provider's hit is eligible and the first one with its key, and there is still
room for it. -/
def Leads (criteria : SearchCriteria) (hits : List SearchHit) (found : SearchHit) : Prop :=
  ∃ before after, hits = before ++ found :: after ∧
    eligible criteria found.normalized = true ∧
    found.normalized.dedupeKey ∉ (eligibleHits criteria before).map SearchHit.dedupeKey ∧
    ((eligibleHits criteria before).map SearchHit.dedupeKey).toFinset.card < criteria.limit

theorem eligibleHits_append (before after : List SearchHit) :
    eligibleHits criteria (before ++ after) =
      eligibleHits criteria before ++ eligibleHits criteria after := by
  rw [eligibleHits, List.map_append, List.filter_append]
  rfl

theorem eligibleHits_eq_append_cons {hits : List SearchHit} {before after : List SearchHit}
    {hit : SearchHit} (h : eligibleHits criteria hits = before ++ hit :: after) :
    ∃ first found rest, hits = first ++ found :: rest ∧ found.normalized = hit ∧
      eligible criteria hit = true ∧ eligibleHits criteria first = before := by
  induction hits generalizing before with
  | nil => simp [eligibleHits] at h
  | cons head tail ih =>
      cases hhead : eligible criteria head.normalized with
      | false =>
          have htail : eligibleHits criteria tail = before ++ hit :: after := by
            rw [← h]
            simp [eligibleHits, hhead]
          obtain ⟨first, found, rest, rfl, hfound, heligible, hfirst⟩ := ih htail
          refine ⟨head :: first, found, rest, rfl, hfound, heligible, ?_⟩
          rw [← hfirst]
          simp [eligibleHits, hhead]
      | true =>
          have hlist : eligibleHits criteria (head :: tail) =
              head.normalized :: eligibleHits criteria tail := by
            simp [eligibleHits, hhead]
          rw [hlist] at h
          cases before with
          | nil =>
              obtain ⟨rfl, _⟩ := List.cons.inj h
              exact ⟨[], head, tail, rfl, rfl, hhead, rfl⟩
          | cons next before =>
              obtain ⟨rfl, htail⟩ := List.cons.inj h
              obtain ⟨first, found, rest, rfl, hfound, heligible, hfirst⟩ := ih htail
              refine ⟨head :: first, found, rest, rfl, hfound, heligible, ?_⟩
              rw [← hfirst]
              simp [eligibleHits, hhead]

/-- The hits that a search returns are the leading ones, normalized. -/
theorem mem_execute {hits : List SearchHit} {hit : SearchHit} :
    hit ∈ execute criteria hits ↔ ∃ found, Leads criteria hits found ∧
      found.normalized = hit := by
  rw [execute_eq, Firsts.mem_take_firstsBy]
  constructor
  · rintro ⟨before, after, heq, hnew, hroom⟩
    obtain ⟨first, found, rest, hhits, rfl, heligible, rfl⟩ := eligibleHits_eq_append_cons heq
    exact ⟨found, ⟨first, rest, hhits, heligible, hnew, hroom⟩, rfl⟩
  · rintro ⟨found, ⟨before, after, rfl, heligible, hnew, hroom⟩, rfl⟩
    refine ⟨eligibleHits criteria before, eligibleHits criteria after, ?_, hnew, hroom⟩
    rw [eligibleHits_append]
    simp [eligibleHits, heligible]

/-- Searching again normalizes the hits again and keeps them all. -/
theorem execute_execute (criteria : SearchCriteria) (hits : List SearchHit) :
    execute criteria (execute criteria hits) =
      (execute criteria hits).map SearchHit.normalized := by
  have hagain : ∀ hit ∈ execute criteria hits, eligible criteria hit.normalized = true ∧
      hit.normalized.dedupeKey = hit.dedupeKey := by
    intro hit hhit
    obtain ⟨found, ⟨_, _, _, heligible, _⟩, rfl⟩ := mem_execute.mp hhit
    exact ⟨(eligible_again found).trans heligible, SearchHit.dedupeKey_again found⟩
  have hkeys : ((execute criteria hits).map SearchHit.normalized).map SearchHit.dedupeKey =
      (execute criteria hits).map SearchHit.dedupeKey := by
    rw [List.map_map]
    exact List.map_congr_left fun hit hhit => (hagain hit hhit).2
  have hnodup : ((execute criteria hits).map SearchHit.dedupeKey).Nodup := by
    rw [execute_eq]
    exact (Firsts.nodup_firstsBy _ _ _).sublist ((List.take_sublist _ _).map _)
  have hlength : (execute criteria hits).length ≤ criteria.limit := by
    rw [execute_eq]
    exact List.length_take_le _ _
  have heligible : eligibleHits criteria (execute criteria hits) =
      (execute criteria hits).map SearchHit.normalized := by
    apply List.filter_eq_self.mpr
    intro hit hhit
    obtain ⟨kept, hkept, rfl⟩ := List.mem_map.mp hhit
    exact (hagain kept hkept).1
  rw [execute_eq criteria (execute criteria hits), heligible,
    Firsts.firstsBy_eq_self (hkeys ▸ hnodup) (by simp),
    List.take_of_length_le (by rw [List.length_map]; exact hlength)]

end SearchService

end ShemaPlatform
