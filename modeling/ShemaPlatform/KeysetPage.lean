/-
Collecting keys page by page: a page takes the least keys beyond the last one seen,
and the first page that is not full ends the scan.  The keys that are found may be
different at every query.
-/
import Mathlib.Data.Finset.Card
import Mathlib.Data.List.Sort

namespace KeysetPage

universe u

variable {α : Type u} [LinearOrder α]

/-- The keys that are found, and how many of them a page takes. -/
structure Query (α : Type u) where
  found : List α
  limit : ℕ

/-- The keys of all pages so far, and whether the last page was not full. -/
structure Scan (α : Type u) where
  seen : List α
  complete : Bool

/-- The keys beyond the cursor, in order. -/
def beyond (cursor : Option α) (found : List α) : List α :=
  (found.filter fun key => cursor.all (· < key)).insertionSort (· ≤ ·)

def page (cursor : Option α) (query : Query α) : List α :=
  (beyond cursor query.found).take query.limit

namespace Scan

def next (scan : Scan α) (query : Query α) : Scan α :=
  if scan.complete then scan
  else ⟨scan.seen ++ page scan.seen.getLast? query,
    decide ((page scan.seen.getLast? query).length < query.limit)⟩

def run (queries : List (Query α)) : Scan α := queries.foldl next ⟨[], false⟩

end Scan

section Page

variable {cursor : Option α} {query : Query α} {key last : α}

theorem mem_beyond {found : List α} :
    key ∈ beyond cursor found ↔ key ∈ found ∧ ∀ before ∈ cursor, before < key := by
  rw [beyond, List.mem_insertionSort, List.mem_filter, Option.all_eq_true]
  simp

theorem sorted_beyond {found : List α} (hnodup : found.Nodup) :
    (beyond cursor found).Pairwise (· < ·) := by
  have hsorted : (beyond cursor found).Pairwise (· ≤ ·) := List.pairwise_insertionSort _ _
  have hdistinct : (beyond cursor found).Nodup :=
    (List.perm_insertionSort _ _).nodup_iff.mpr (hnodup.filter _)
  exact hsorted.imp₂ (fun _ _ hle hne => lt_of_le_of_ne hle hne) hdistinct

theorem mem_of_mem_page (h : key ∈ page cursor query) :
    key ∈ query.found ∧ ∀ before ∈ cursor, before < key :=
  mem_beyond.mp (List.mem_of_mem_take h)

theorem sorted_page (hnodup : query.found.Nodup) : (page cursor query).Pairwise (· < ·) :=
  (sorted_beyond hnodup).sublist (List.take_sublist _ _)

/-- A page that is not full has every key. -/
theorem mem_page_of_short (hshort : (page cursor query).length < query.limit)
    (hkey : key ∈ beyond cursor query.found) : key ∈ page cursor query := by
  rw [page, List.length_take, min_lt_iff] at hshort
  rcases hshort with hless | hless
  · exact absurd hless (lt_irrefl _)
  · rw [page, List.take_of_length_le hless.le]
    exact hkey

/-- A page has every key up to its last one. -/
theorem mem_page_of_le (hnodup : query.found.Nodup)
    (hlast : last ∈ (page cursor query).getLast?) (hkey : key ∈ beyond cursor query.found)
    (hle : key ≤ last) : key ∈ page cursor query := by
  have hsorted : (beyond cursor query.found).Pairwise (· < ·) := sorted_beyond hnodup
  rw [← List.take_append_drop query.limit (beyond cursor query.found)] at hkey hsorted
  rcases List.mem_append.mp hkey with htaken | hdropped
  · exact htaken
  · have hless := (List.pairwise_append.mp hsorted).2.2 last
      (List.mem_of_getLast? hlast) key hdropped
    exact absurd hle (not_le.mpr hless)

end Page

section Scan

variable {queries : List (Query α)} {query : Query α}

@[simp] theorem run_nil : Scan.run ([] : List (Query α)) = ⟨[], false⟩ := rfl

@[simp] theorem run_append (queries : List (Query α)) (query : Query α) :
    Scan.run (queries ++ [query]) = (Scan.run queries).next query := by
  rw [Scan.run, List.foldl_append]
  rfl

theorem next_complete {scan : Scan α} (h : scan.complete = true) : scan.next query = scan :=
  if_pos h

theorem next_open {scan : Scan α} (h : scan.complete = false) : scan.next query =
    ⟨scan.seen ++ page scan.seen.getLast? query,
      decide ((page scan.seen.getLast? query).length < query.limit)⟩ := by
  rw [Scan.next, h]
  rfl

theorem le_getLast {keys : List α} (hsorted : keys.Pairwise (· < ·)) {key last : α}
    (hkey : key ∈ keys) (hlast : last ∈ keys.getLast?) : key ≤ last := by
  obtain ⟨init, rfl⟩ := List.getLast?_eq_some_iff.mp hlast
  rcases List.mem_append.mp hkey with hinit | hsame
  · exact ((List.pairwise_append.mp hsorted).2.2 key hinit last List.mem_cons_self).le
  · exact (List.mem_singleton.mp hsame).le

/-- The keys of all pages are in order, so that none is taken twice. -/
theorem sorted_run (hnodup : ∀ query ∈ queries, query.found.Nodup) :
    (Scan.run queries).seen.Pairwise (· < ·) := by
  induction queries using List.reverseRecOn with
  | nil => exact List.Pairwise.nil
  | append_singleton queries query ih =>
      have hseen := ih fun other hmem => hnodup other (List.mem_append_left _ hmem)
      rw [run_append]
      cases hcomplete : (Scan.run queries).complete with
      | true => rwa [next_complete hcomplete]
      | false =>
          rw [next_open hcomplete, List.pairwise_append]
          refine ⟨hseen, sorted_page (hnodup query (by simp)), ?_⟩
          intro before hbefore key hkey
          have hne : (Scan.run queries).seen ≠ [] := List.ne_nil_of_mem hbefore
          obtain ⟨last, hlast⟩ : ∃ last, last ∈ (Scan.run queries).seen.getLast? :=
            Option.isSome_iff_exists.mp (List.getLast?_isSome.mpr hne)
          exact (le_getLast hseen hbefore hlast).trans_lt ((mem_of_mem_page hkey).2 last hlast)

omit [LinearOrder α] in
theorem getLast?_append_mem {keys page : List α} {last : α}
    (h : last ∈ (keys ++ page).getLast?) :
    last ∈ page.getLast? ∨ (page = [] ∧ last ∈ keys.getLast?) := by
  rw [List.getLast?_append] at h
  cases hpage : page.getLast? with
  | none =>
      rw [hpage] at h
      exact Or.inr ⟨List.getLast?_eq_none_iff.mp hpage, h⟩
  | some found =>
      rw [hpage] at h
      exact Or.inl h

/-- A key that every query has found is seen, once the scan is beyond it or complete. -/
theorem mem_run (hnodup : ∀ query ∈ queries, query.found.Nodup) {key : α}
    (hfound : ∀ query ∈ queries, key ∈ query.found)
    (hpassed : (Scan.run queries).complete = true ∨
      ∃ last ∈ (Scan.run queries).seen.getLast?, key ≤ last) :
    key ∈ (Scan.run queries).seen := by
  induction queries using List.reverseRecOn with
  | nil => simp at hpassed
  | append_singleton queries query ih =>
      have hnodup' : ∀ query ∈ queries, query.found.Nodup := fun other hmem =>
        hnodup other (List.mem_append_left _ hmem)
      have hseen := ih hnodup' fun other hmem => hfound other (List.mem_append_left _ hmem)
      rw [run_append] at hpassed ⊢
      cases hcomplete : (Scan.run queries).complete with
      | true =>
          rw [next_complete hcomplete]
          exact hseen (Or.inl hcomplete)
      | false =>
          rw [next_open hcomplete] at hpassed ⊢
          simp only [decide_eq_true_eq] at hpassed
          rw [List.mem_append]
          by_cases hbeyond : ∀ before ∈ (Scan.run queries).seen.getLast?, before < key
          · have hkey := mem_beyond.mpr ⟨hfound query (by simp), hbeyond⟩
            right
            rcases hpassed with hshort | ⟨last, hlast, hle⟩
            · exact mem_page_of_short hshort hkey
            · rcases getLast?_append_mem hlast with hpage | ⟨_, hold⟩
              · exact mem_page_of_le (hnodup query (by simp)) hpage hkey hle
              · exact absurd hle (not_le.mpr (hbeyond last hold))
          · simp only [not_forall, not_lt] at hbeyond
            obtain ⟨last, hlast, hle⟩ := hbeyond
            exact Or.inl (hseen (Or.inr ⟨last, hlast, hle⟩))

/-- Until the scan is complete every page is full. -/
theorem length_le_seen (hlimit : ∀ query ∈ queries, 1 ≤ query.limit)
    (hopen : (Scan.run queries).complete = false) :
    queries.length ≤ (Scan.run queries).seen.length := by
  induction queries using List.reverseRecOn with
  | nil => exact Nat.zero_le _
  | append_singleton queries query ih =>
      rw [run_append] at hopen ⊢
      cases hcomplete : (Scan.run queries).complete with
      | true =>
          rw [next_complete hcomplete, hcomplete] at hopen
          cases hopen
      | false =>
          rw [next_open hcomplete] at hopen ⊢
          have hbefore := ih (fun other hmem => hlimit other (List.mem_append_left _ hmem))
            hcomplete
          have hpositive := hlimit query (by simp)
          have hfull := of_decide_eq_false hopen
          simp only [List.length_append, List.length_singleton]
          omega

theorem found_of_seen {key : α} (hkey : key ∈ (Scan.run queries).seen) :
    ∃ query ∈ queries, key ∈ query.found := by
  induction queries using List.reverseRecOn with
  | nil => simp at hkey
  | append_singleton queries query ih =>
      rw [run_append] at hkey
      have hlater : (∃ query ∈ queries, key ∈ query.found) →
          ∃ found ∈ queries ++ [query], key ∈ found.found := fun ⟨found, hmem, hin⟩ =>
        ⟨found, List.mem_append_left _ hmem, hin⟩
      cases hcomplete : (Scan.run queries).complete with
      | true =>
          rw [next_complete hcomplete] at hkey
          exact hlater (ih hkey)
      | false =>
          rw [next_open hcomplete] at hkey
          rcases List.mem_append.mp hkey with hold | hnew
          · exact hlater (ih hold)
          · exact ⟨query, by simp, (mem_of_mem_page hnew).1⟩

/-- A scan of finitely many keys is complete after more queries than there are keys. -/
theorem complete_of_card_lt (hnodup : ∀ query ∈ queries, query.found.Nodup)
    (hlimit : ∀ query ∈ queries, 1 ≤ query.limit) {keys : Finset α}
    (hkeys : ∀ query ∈ queries, ∀ key ∈ query.found, key ∈ keys)
    (hcard : keys.card < queries.length) : (Scan.run queries).complete = true := by
  by_contra hopen
  have hlength := length_le_seen hlimit (Bool.eq_false_iff.mpr hopen)
  have hdistinct : (Scan.run queries).seen.Nodup :=
    (sorted_run hnodup).imp fun hlt => ne_of_lt hlt
  have hsubset : (Scan.run queries).seen.toFinset ⊆ keys := by
    intro key hkey
    obtain ⟨query, hmem, hfound⟩ := found_of_seen (List.mem_toFinset.mp hkey)
    exact hkeys query hmem key hfound
  have hle := Finset.card_le_card hsubset
  rw [List.toFinset_card_of_nodup hdistinct] at hle
  omega

end Scan

end KeysetPage
