/-
The words of a text, read off how the text is spaced.
-/
import ShemaPlatform.PatternText

namespace PatternText

variable {α : Type} {space : α → Bool} {text rest trail word : List α} {found : List (List α)}

/-- A text with these words: each has no space in it, and spaces stand between them. -/
inductive Spaced (space : α → Bool) : List (List α) → List α → Prop
  | blank (text : List α) (hblank : ∀ c ∈ text, space c = true) : Spaced space [] text
  | word (lead word rest : List α) (others : List (List α))
      (hlead : ∀ c ∈ lead, space c = true) (hword : ∀ c ∈ word, space c = false)
      (hnonempty : word ≠ []) (hends : ∀ c ∈ rest.head?, space c = true)
      (hrest : Spaced space others rest) : Spaced space (word :: others) (lead ++ word ++ rest)

theorem words_space_append (hlead : ∀ c ∈ text, space c = true) (rest : List α) :
    words space (text ++ rest) = words space rest := by
  induction text with
  | nil => rfl
  | cons c others ih =>
      have hspace := hlead c List.mem_cons_self
      have hothers := ih fun other hother => hlead other (List.mem_cons_of_mem c hother)
      rw [← hothers, words, words, List.cons_append, List.splitOnP_cons_eq_if_modifyHead,
        if_pos hspace, List.filter_cons_of_neg (by simp)]

theorem words_word_append (hword : ∀ c ∈ word, space c = false) (hnonempty : word ≠ [])
    (hends : ∀ c ∈ rest.head?, space c = true) :
    words space (word ++ rest) = word :: words space rest := by
  cases rest with
  | nil =>
      rw [List.append_nil, words, List.splitOnP_eq_singleton hword,
        List.filter_cons_of_pos (by simpa using hnonempty)]
      rfl
  | cons c others =>
      have hspace := hends c rfl
      have halone : ∀ other ∈ [c], space other = true := by
        intro other hother
        obtain rfl := List.mem_singleton.mp hother
        exact hspace
      rw [words, List.splitOnP_append_cons_of_forall_mem hword c hspace,
        List.filter_cons_of_pos (by simpa using hnonempty), ← words,
        ← words_space_append halone others]
      rfl

/-- Such a text has such words. -/
theorem Spaced.words (h : Spaced space found text) : words space text = found := by
  induction h with
  | blank text hblank =>
      have hnothing := words_space_append hblank []
      rw [List.append_nil] at hnothing
      exact hnothing
  | word lead word rest others hlead hword hnonempty hends _ ih =>
      rw [List.append_assoc, words_space_append hlead,
        words_word_append hword hnonempty hends, ih]

theorem Spaced.cons_space {c : α} (h : Spaced space found text) (hc : space c = true) :
    Spaced space found (c :: text) := by
  cases h with
  | blank text hblank =>
      apply Spaced.blank
      intro other hother
      rcases List.mem_cons.mp hother with rfl | hother
      · exact hc
      · exact hblank other hother
  | word lead word rest others hlead hword hnonempty hends hrest =>
      apply Spaced.word (c :: lead) word rest others _ hword hnonempty hends hrest
      intro other hother
      rcases List.mem_cons.mp hother with rfl | hother
      · exact hc
      · exact hlead other hother

/-- A character of a word begins a word of its own, or the one that follows at once. -/
theorem Spaced.cons_letter {c : α} (h : Spaced space found text) (hc : space c = false) :
    ∃ longer, Spaced space longer (c :: text) := by
  have hletter : ∀ other ∈ [c], space other = false := by
    intro other hother
    obtain rfl := List.mem_singleton.mp hother
    exact hc
  have hnothing : ∀ other ∈ ([] : List α), space other = true := by
    intro other hother
    cases hother
  cases h with
  | blank text hblank =>
      refine ⟨[[c]], Spaced.word [] [c] text [] hnothing hletter (List.cons_ne_nil c []) ?_
        (.blank text hblank)⟩
      intro other hother
      exact hblank other (List.mem_of_mem_head? hother)
  | word lead word rest others hlead hword hnonempty hends hrest =>
      cases lead with
      | nil =>
          refine ⟨(c :: word) :: others, Spaced.word [] (c :: word) rest others hnothing ?_
            (List.cons_ne_nil c word) hends hrest⟩
          intro other hother
          rcases List.mem_cons.mp hother with rfl | hother
          · exact hc
          · exact hword other hother
      | cons first spaces =>
          refine ⟨[c] :: word :: others, Spaced.word [] [c] _ (word :: others) hnothing hletter
            (List.cons_ne_nil c []) ?_
            (.word (first :: spaces) word rest others hlead hword hnonempty hends hrest)⟩
          intro other hother
          obtain rfl := Option.some.inj hother
          exact hlead first List.mem_cons_self

/-- Every text has some words. -/
theorem exists_spaced (space : α → Bool) (text : List α) : ∃ found, Spaced space found text := by
  induction text with
  | nil => exact ⟨[], .blank [] fun c hc => absurd hc List.not_mem_nil⟩
  | cons c rest ih =>
      obtain ⟨found, hspaced⟩ := ih
      cases hc : space c with
      | true => exact ⟨found, hspaced.cons_space hc⟩
      | false => exact hspaced.cons_letter hc

theorem words_eq_iff : words space text = found ↔ Spaced space found text := by
  constructor
  · intro hwords
    obtain ⟨others, hspaced⟩ := exists_spaced space text
    rw [← hwords, hspaced.words]
    exact hspaced
  · intro hspaced
    exact hspaced.words

/-- Spaces at the end make no difference. -/
theorem Spaced.append_space (h : Spaced space found text) (htrail : ∀ c ∈ trail, space c = true) :
    Spaced space found (text ++ trail) := by
  induction h with
  | blank text hblank =>
      apply Spaced.blank
      intro c hc
      rcases List.mem_append.mp hc with hfirst | hlast
      · exact hblank c hfirst
      · exact htrail c hlast
  | word lead word rest others hlead hword hnonempty hends _ ih =>
      rw [List.append_assoc]
      apply Spaced.word lead word (rest ++ trail) others hlead hword hnonempty _ ih
      intro c hc
      cases rest with
      | nil => exact htrail c (List.mem_of_mem_head? hc)
      | cons first others => exact hends c hc

end PatternText
