/-
The entries of a list that are the first with their key, and when a coarser key
keeps the same ones.
-/
import Mathlib.Data.Finset.Card
import Mathlib.Data.List.Induction

namespace Firsts

universe u v w

variable {α : Type u} {κ : Type v} {ν : Type w}

/-- The entries whose key neither has been seen nor is that of an earlier one. -/
def firstsBy [DecidableEq κ] (key : α → κ) : List κ → List α → List α
  | _, [] => []
  | seen, entry :: rest =>
      if key entry ∈ seen then firstsBy key seen rest
      else entry :: firstsBy key (key entry :: seen) rest

section One

variable [DecidableEq κ] {key : α → κ} {seen : List κ} {entries : List α} {entry : α}

theorem firstsBy_sublist : (firstsBy key seen entries).Sublist entries := by
  induction entries generalizing seen with
  | nil => exact List.Sublist.refl _
  | cons first rest ih =>
      rw [firstsBy]
      split
      · exact (ih).cons first
      · exact (ih).cons_cons first

/-- The last entry is kept when no earlier one has its key. -/
theorem firstsBy_append (key : α → κ) (seen : List κ) (entries : List α) (entry : α) :
    firstsBy key seen (entries ++ [entry]) = firstsBy key seen entries ++
      if key entry ∈ seen ∨ key entry ∈ entries.map key then [] else [entry] := by
  induction entries generalizing seen with
  | nil => simp [firstsBy]
  | cons first rest ih =>
      rw [List.cons_append, firstsBy, firstsBy]
      by_cases hfirst : key first ∈ seen
      · rw [if_pos hfirst, if_pos hfirst, ih]
        have hsame : (key entry ∈ seen ∨ key entry ∈ rest.map key) ↔
            (key entry ∈ seen ∨ key entry ∈ (first :: rest).map key) := by
          rw [List.map_cons, List.mem_cons]
          constructor
          · rintro (h | h)
            · exact Or.inl h
            · exact Or.inr (Or.inr h)
          · rintro (h | h | h)
            · exact Or.inl h
            · exact Or.inl (h ▸ hfirst)
            · exact Or.inr h
        simp only [hsame]
      · rw [if_neg hfirst, if_neg hfirst, ih, List.cons_append]
        simp only [List.mem_cons, List.map_cons, or_assoc, or_left_comm]

theorem mem_of_mem_firstsBy (h : entry ∈ firstsBy key seen entries) : entry ∈ entries :=
  firstsBy_sublist.subset h

theorem key_not_mem_seen (h : entry ∈ firstsBy key seen entries) : key entry ∉ seen := by
  induction entries generalizing seen with
  | nil => simp [firstsBy] at h
  | cons first rest ih =>
      rw [firstsBy] at h
      split_ifs at h with hfirst
      · exact ih h
      · rcases List.mem_cons.mp h with rfl | hrest
        · exact hfirst
        · exact fun hmem => ih hrest (List.mem_cons_of_mem _ hmem)

/-- No key is kept twice. -/
theorem nodup_firstsBy (key : α → κ) (seen : List κ) (entries : List α) :
    ((firstsBy key seen entries).map key).Nodup := by
  induction entries generalizing seen with
  | nil => exact List.nodup_nil
  | cons first rest ih =>
      rw [firstsBy]
      split
      · exact ih seen
      · rw [List.map_cons, List.nodup_cons]
        constructor
        · intro hmem
          obtain ⟨entry, hentry, hsame⟩ := List.mem_map.mp hmem
          apply key_not_mem_seen hentry
          rw [hsame]
          exact List.mem_cons_self
        · exact ih _

/-- Entries that all have keys of their own are all kept. -/
theorem firstsBy_eq_self (hnodup : (entries.map key).Nodup)
    (hseen : ∀ entry ∈ entries, key entry ∉ seen) : firstsBy key seen entries = entries := by
  induction entries generalizing seen with
  | nil => rfl
  | cons first rest ih =>
      rw [List.map_cons, List.nodup_cons] at hnodup
      rw [firstsBy, if_neg (hseen first List.mem_cons_self), ih hnodup.2]
      intro entry hentry hmem
      rcases List.mem_cons.mp hmem with hsame | hmem
      · exact hnodup.1 (List.mem_map.mpr ⟨entry, hentry, hsame⟩)
      · exact hseen entry (List.mem_cons_of_mem first hentry) hmem

theorem length_firstsBy (key : α → κ) (entries : List α) :
    (firstsBy key [] entries).length = (entries.map key).toFinset.card := by
  induction entries using List.reverseRecOn with
  | nil => rfl
  | append_singleton entries entry ih =>
      rw [firstsBy_append, List.length_append, ih, List.map_append, List.toFinset_append,
        List.map_singleton, List.toFinset_cons, List.toFinset_nil, insert_empty_eq,
        Finset.union_singleton]
      by_cases hmem : key entry ∈ entries.map key
      · rw [if_pos (Or.inr hmem), List.length_nil, Nat.add_zero,
          Finset.insert_eq_of_mem (List.mem_toFinset.mpr hmem)]
      · rw [if_neg (by simpa using hmem), List.length_singleton,
          Finset.card_insert_of_notMem (by simpa using hmem)]

/-- The first so many entries that are kept are those with a key of their own, while
fewer keys have been seen. -/
theorem mem_take_firstsBy {limit : ℕ} : entry ∈ (firstsBy key [] entries).take limit ↔
    ∃ before after, entries = before ++ entry :: after ∧ key entry ∉ before.map key ∧
      (before.map key).toFinset.card < limit := by
  induction entries using List.reverseRecOn with
  | nil => simp [firstsBy]
  | append_singleton entries last ih =>
      rw [firstsBy_append, List.take_append, List.mem_append, ih, length_firstsBy]
      simp only [List.not_mem_nil, false_or]
      constructor
      · rintro (⟨before, after, rfl, hnew, hroom⟩ | hlast)
        · exact ⟨before, after ++ [last], by simp, hnew, hroom⟩
        · split_ifs at hlast with hmem
          · simp at hlast
          · have hroom := List.length_pos_of_mem hlast
            rw [List.length_take] at hroom
            obtain rfl := List.mem_singleton.mp (List.mem_of_mem_take hlast)
            exact ⟨entries, [], rfl, hmem, by omega⟩
      · rintro ⟨before, after, heq, hnew, hroom⟩
        rcases List.eq_nil_or_concat after with rfl | ⟨rest, other, rfl⟩
        · obtain ⟨rfl, hlast⟩ := List.append_inj' heq rfl
          obtain rfl := List.head_eq_of_cons_eq hlast
          right
          rw [if_neg hnew, List.take_of_length_le (by rw [List.length_singleton]; omega)]
          exact List.mem_singleton_self _
        · have hsplit : entries ++ [last] = (before ++ entry :: rest) ++ [other] := by
            rw [heq]
            simp
          obtain ⟨rfl, _⟩ := List.append_inj' hsplit rfl
          exact Or.inl ⟨before, rest, rfl, hnew, hroom⟩

end One

section Coarser

variable [DecidableEq κ] [DecidableEq ν] {fine : α → κ} {coarse : κ → ν} {limit : ℕ}

/-- None of the first so many entries with a key of their own has the coarser key
of an earlier entry. -/
def Distinct (fine : α → κ) (coarse : κ → ν) (limit : ℕ) (entries : List α) : Prop :=
  ∀ before entry after, entries = before ++ entry :: after →
    fine entry ∉ before.map fine → (firstsBy fine [] before).length < limit →
      coarse (fine entry) ∉ before.map (coarse ∘ fine)

omit [DecidableEq ν] in
theorem Distinct.append_iff {entries : List α} {entry : α} :
    Distinct fine coarse limit (entries ++ [entry]) ↔
      Distinct fine coarse limit entries ∧
        (fine entry ∉ entries.map fine → (firstsBy fine [] entries).length < limit →
          coarse (fine entry) ∉ entries.map (coarse ∘ fine)) := by
  constructor
  · intro h
    constructor
    · intro before other after heq
      exact h before other (after ++ [entry]) (by rw [heq]; simp)
    · exact h entries entry [] rfl
  · rintro ⟨hentries, hentry⟩ before other after heq
    rcases List.eq_nil_or_concat after with rfl | ⟨rest, last, rfl⟩
    · obtain ⟨rfl, hlast⟩ := List.append_inj' heq rfl
      obtain rfl := List.head_eq_of_cons_eq hlast
      exact hentry
    · have hsplit : entries ++ [entry] = (before ++ other :: rest) ++ [last] := by
        rw [heq]
        simp
      obtain ⟨rfl, _⟩ := List.append_inj' hsplit rfl
      exact hentries before other rest rfl

omit [DecidableEq κ] [DecidableEq ν] in
theorem coarse_mem {entries : List α} {entry : α} (h : fine entry ∈ entries.map fine) :
    coarse (fine entry) ∈ entries.map (coarse ∘ fine) := by
  obtain ⟨other, hother, hsame⟩ := List.mem_map.mp h
  exact List.mem_map.mpr ⟨other, hother, congrArg coarse hsame⟩

theorem firstsBy_coarse_sublist (entries : List α) :
    (firstsBy (coarse ∘ fine) [] entries).Sublist (firstsBy fine [] entries) := by
  induction entries using List.reverseRecOn with
  | nil => exact List.Sublist.refl _
  | append_singleton entries entry ih =>
      rw [firstsBy_append, firstsBy_append]
      apply ih.append
      simp only [List.not_mem_nil, false_or, Function.comp_apply]
      by_cases hfine : fine entry ∈ entries.map fine
      · rw [if_pos (coarse_mem hfine)]
        exact List.nil_sublist _
      · rw [if_neg hfine]
        split
        · exact List.nil_sublist _
        · exact List.Sublist.refl _

theorem take_append_append_iff {kept all : List α} {entry : α} (hsub : kept.Sublist all)
    (hnew : entry ∉ all) :
    (kept ++ [entry]).take limit = (all ++ [entry]).take limit ↔
      kept.take limit = all.take limit := by
  have hlength := hsub.length_le
  rcases Nat.lt_or_ge kept.length limit with hkept | hkept
  · rw [List.take_of_length_le (l := kept ++ [entry]) (by rw [List.length_append]; exact hkept),
      List.take_of_length_le (Nat.le_of_lt hkept)]
    rcases Nat.lt_or_ge all.length limit with hall | hall
    · rw [List.take_of_length_le (l := all ++ [entry]) (by rw [List.length_append]; exact hall),
        List.take_of_length_le (Nat.le_of_lt hall)]
      exact List.append_left_inj [entry]
    · rw [List.take_append_of_le_length hall]
      apply iff_of_false
      · intro hsame
        apply hnew
        apply List.mem_of_mem_take
        rw [← hsame]
        exact List.mem_append_right kept (List.mem_singleton.mpr rfl)
      · intro hsame
        have hlengths := congrArg List.length hsame
        rw [List.length_take, Nat.min_eq_left hall] at hlengths
        omega
  · rw [List.take_append_of_le_length hkept, List.take_append_of_le_length
      (Nat.le_trans hkept hlength)]

theorem take_append_iff {kept all : List α} {entry : α} (hsub : kept.Sublist all)
    (hnew : entry ∉ all) :
    kept.take limit = (all ++ [entry]).take limit ↔
      kept.take limit = all.take limit ∧ ¬ all.length < limit := by
  rcases Nat.lt_or_ge all.length limit with hall | hall
  · apply iff_of_false
    · intro hsame
      apply hnew
      apply hsub.subset
      apply List.mem_of_mem_take
      rw [hsame, List.take_of_length_le (l := all ++ [entry]) (by rw [List.length_append]; exact hall)]
      exact List.mem_append_right all (List.mem_singleton.mpr rfl)
    · exact fun h => h.2 hall
  · rw [List.take_append_of_le_length hall]
    exact (and_iff_left (Nat.not_lt.mpr hall)).symm

/-- The coarser key keeps the same entries, up to the limit, exactly when they
are distinct under it. -/
theorem take_firstsBy_eq_iff (entries : List α) :
    (firstsBy (coarse ∘ fine) [] entries).take limit =
        (firstsBy fine [] entries).take limit ↔
      Distinct fine coarse limit entries := by
  induction entries using List.reverseRecOn with
  | nil =>
      apply iff_of_true rfl
      intro before entry after heq
      exact absurd heq (by simp)
  | append_singleton entries entry ih =>
      rw [Distinct.append_iff, firstsBy_append, firstsBy_append, ← ih]
      simp only [List.not_mem_nil, false_or, Function.comp_apply]
      by_cases hfine : fine entry ∈ entries.map fine
      · rw [if_pos hfine, if_pos (coarse_mem hfine), List.append_nil, List.append_nil]
        exact (and_iff_left fun hnew => absurd hfine hnew).symm
      · have hnew : entry ∉ firstsBy fine [] entries :=
          fun hmem => hfine (List.mem_map_of_mem (mem_of_mem_firstsBy hmem))
        rw [if_neg hfine]
        by_cases hcoarse : coarse (fine entry) ∈ entries.map (coarse ∘ fine)
        · rw [if_pos hcoarse, List.append_nil,
            take_append_iff (firstsBy_coarse_sublist entries) hnew]
          apply and_congr_right
          intro _
          constructor
          · exact fun hfull _ hless => absurd hless hfull
          · exact fun h hless => h hfine hless hcoarse
        · rw [if_neg hcoarse, take_append_append_iff (firstsBy_coarse_sublist entries) hnew]
          exact (and_iff_left fun _ _ => hcoarse).symm

end Coarser

end Firsts
