/-
Texts in which parts are replaced by a marker: what keeps apart from the marker is there
afterwards only if it was there before.  The replacement of matches is of this kind, and a
part of a text that no match leaves is replaced by itself.
-/
import ShemaPlatform.PatternText

namespace PatternText

variable {α : Type} {hidden : α → Bool} {marker secret text kept : List α}

/-- Parts of the text, all of hidden characters, are replaced by the marker. -/
inductive Redacts (hidden : α → Bool) (marker : List α) : List α → List α → Prop where
  | nil : Redacts hidden marker [] []
  | keep (c : α) {text kept : List α} (h : Redacts hidden marker text kept) :
      Redacts hidden marker (c :: text) (c :: kept)
  | mark (part : List α) {text kept : List α} (hpart : part.all hidden = true)
      (h : Redacts hidden marker text kept) :
      Redacts hidden marker (part ++ text) (marker ++ kept)

/-- What is found around the marker is found on one side of it. -/
def Apart (marker secret : List α) : Prop :=
  ∀ before after, secret <:+: before ++ (marker ++ after) →
    secret <:+: before ∨ secret <:+: after

namespace Redacts

theorem refl (text : List α) : Redacts hidden marker text text := by
  induction text with
  | nil => exact .nil
  | cons c rest ih => exact .keep c ih

theorem marked (part : List α) (hpart : part.all hidden = true) :
    Redacts hidden marker part marker := by
  have hmark : Redacts hidden marker (part ++ []) (marker ++ []) := .mark part hpart .nil
  rwa [List.append_nil, List.append_nil] at hmark

theorem append {first second first' second' : List α} (h : Redacts hidden marker first first')
    (h' : Redacts hidden marker second second') :
    Redacts hidden marker (first ++ second) (first' ++ second') := by
  induction h with
  | nil => exact h'
  | keep c _ ih => exact .keep c ih
  | mark part hpart _ ih =>
      rw [List.append_assoc, List.append_assoc]
      exact .mark part hpart ih

theorem infix_after (h : Redacts hidden marker text kept) (hapart : Apart marker secret)
    (before : List α) (hsecret : secret <:+: before ++ kept) : secret <:+: before ++ text := by
  induction h generalizing before with
  | nil => exact hsecret
  | keep c _ ih =>
      rw [List.append_cons] at hsecret ⊢
      exact ih (before ++ [c]) hsecret
  | mark part _ _ ih =>
      rcases hapart _ _ hsecret with hbefore | hafter
      · exact List.infix_append_of_infix_left hbefore
      · rw [← List.append_assoc]
        exact List.infix_append_of_infix_right (ih [] hafter)

/-- Nothing that keeps apart from the marker is new. -/
theorem infix_of (h : Redacts hidden marker text kept) (hapart : Apart marker secret)
    (hsecret : secret <:+: kept) : secret <:+: text :=
  h.infix_after hapart [] hsecret

/-- The last character is the one before, or that of the marker. -/
theorem getLast? (h : Redacts hidden marker text kept) (hmarker : marker ≠ []) :
    kept.getLast? = text.getLast? ∨ kept.getLast? = marker.getLast? := by
  induction h with
  | nil => exact Or.inl rfl
  | @keep c text kept _ ih =>
      rw [List.getLast?_cons, List.getLast?_cons]
      rcases ih with hsame | hmark
      · exact Or.inl (by rw [hsame])
      · right
        rw [hmark, List.getLast?_eq_some_getLast hmarker, Option.getD_some]
  | @mark part text kept _ _ ih =>
      rw [List.getLast?_append, List.getLast?_append]
      cases hlast : kept.getLast? with
      | none => exact Or.inr rfl
      | some last =>
          rw [hlast] at ih
          rcases ih with hsame | hmark
          · exact Or.inl (by rw [← hsame]; rfl)
          · exact Or.inr hmark

end Redacts

/-- A text without a character of the marker keeps apart from it. -/
theorem apart_of_disjoint (hmarker : marker ≠ []) (hdisjoint : ∀ c ∈ secret, c ∉ marker) :
    Apart marker secret := by
  rintro before after ⟨start, rest, heq⟩
  rw [List.append_assoc] at heq
  rcases List.append_eq_append_iff.mp heq with ⟨gap, hbefore, hgap⟩ | ⟨gap, hstart, hgap⟩
  · rcases List.append_eq_append_iff.mp hgap with ⟨gap', hgap', _⟩ | ⟨gap', hsecret, hmark⟩
    · left
      exact ⟨start, gap', by rw [hbefore, hgap', List.append_assoc]⟩
    · cases gap' with
      | nil =>
          left
          exact ⟨start, [], by rw [hbefore, hsecret, List.append_nil, List.append_nil]⟩
      | cons c others =>
          cases marker with
          | nil => exact absurd rfl hmarker
          | cons m marks =>
              rw [List.cons_append, List.cons_append] at hmark
              have hsame := (List.cons.inj hmark).1
              have hmem : c ∈ secret := by
                rw [hsecret]
                exact List.mem_append_right gap List.mem_cons_self
              exact absurd (hsame ▸ List.mem_cons_self) (hdisjoint c hmem)
  · rcases List.append_eq_append_iff.mp hgap with ⟨gap', _, hafter⟩ | ⟨gap', hgap', hmark⟩
    · right
      exact ⟨gap', rest, by rw [hafter, List.append_assoc]⟩
    · cases gap' with
      | nil =>
          right
          exact ⟨[], rest, hmark⟩
      | cons c others =>
          cases secret with
          | nil => exact Or.inl List.nil_infix
          | cons d letters =>
              have hsame := (List.cons.inj hmark).1
              have hmem : c ∈ marker := by
                rw [hgap']
                exact List.mem_append_right gap List.mem_cons_self
              exact absurd (hsame ▸ hmem) (hdisjoint d List.mem_cons_self)

/-- A text with two parts on both sides of a character that a secret does not have. -/
theorem infix_append_cons {c : α} (hc : c ∉ secret) {before after : List α}
    (h : secret <:+: before ++ c :: after) : secret <:+: before ∨ secret <:+: after := by
  by_cases hempty : secret = []
  · left
    rw [hempty]
    exact List.nil_infix
  · apply apart_of_disjoint (List.cons_ne_nil c []) _ before after h
    intro d hd hmem
    rw [List.mem_singleton] at hmem
    exact hc (hmem ▸ hd)

theorem prefix_append_cons {c : α} (hc : c ∉ secret) {before after : List α}
    (h : secret <+: before ++ c :: after) : secret <+: before := by
  rcases h with ⟨rest, heq⟩
  rcases List.append_eq_append_iff.mp heq with ⟨gap, hbefore, _⟩ | ⟨gap, hsecret, hgap⟩
  · exact ⟨gap, hbefore.symm⟩
  · cases gap with
    | nil => exact ⟨[], by rw [hsecret, List.append_nil, List.append_nil]⟩
    | cons d others =>
        have hsame := (List.cons.inj hgap).1
        apply absurd _ hc
        rw [hsecret, hsame]
        exact List.mem_append_right before List.mem_cons_self

section Replacements

variable {find : List α → Option (List α × ℕ)} {skip : ℕ}

/-- A match is not empty, and is replaced by a text with markers. -/
def Marks (hidden : α → Bool) (marker : List α) (find : List α → Option (List α × ℕ)) : Prop :=
  ∀ text replaced length, find text = some (replaced, length) →
    0 < length ∧ length ≤ text.length ∧ Redacts hidden marker (text.take length) replaced

theorem replaceMatches_none {c : α} {rest : List α} (h : find (c :: rest) = none) :
    replaceMatches find 0 (c :: rest) = c :: replaceMatches find 0 rest := by
  rw [replaceMatches, h]

theorem replaceMatches_some {c : α} {rest replaced : List α} {length : ℕ}
    (h : find (c :: rest) = some (replaced, length)) :
    replaceMatches find 0 (c :: rest) = replaced ++ replaceMatches find (length - 1) rest := by
  rw [replaceMatches, h]

/-- The replacement of the matches that lie in the first of two texts. -/
theorem replaceMatches_append (hfind : Marks hidden marker find) (first second : List α)
    (hends : ∀ before part, first = before ++ part → part ≠ [] → ∀ replaced length,
      find (part ++ second) = some (replaced, length) → length ≤ part.length)
    (hskip : skip ≤ first.length) : ∃ kept, Redacts hidden marker (first.drop skip) kept ∧
      replaceMatches find skip (first ++ second) = kept ++ replaceMatches find 0 second := by
  induction first generalizing skip with
  | nil =>
      rw [List.length_nil, Nat.le_zero] at hskip
      rw [hskip]
      exact ⟨[], .nil, rfl⟩
  | cons c rest ih =>
      have hrest : ∀ before part, rest = before ++ part → part ≠ [] → ∀ replaced length,
          find (part ++ second) = some (replaced, length) → length ≤ part.length := by
        intro before part hsplit
        exact hends (c :: before) part (by rw [hsplit]; rfl)
      cases skip with
      | succ skip => exact ih hrest (Nat.le_of_succ_le_succ hskip)
      | zero =>
          cases hfound : find (c :: (rest ++ second)) with
          | none =>
              rcases ih hrest (Nat.zero_le _) with ⟨kept, hkept, heq⟩
              use c :: kept
              constructor
              · exact .keep c hkept
              · rw [List.cons_append, replaceMatches_none hfound, heq]
                rfl
          | some found =>
              have hlength := hends [] (c :: rest) rfl (List.cons_ne_nil c rest) found.1 found.2
                hfound
              rcases hfind _ _ _ hfound with ⟨hpos, _, hredacts⟩
              have hskip' : found.2 - 1 ≤ rest.length := by
                rw [List.length_cons] at hlength
                omega
              rcases ih hrest hskip' with ⟨kept, hkept, heq⟩
              use found.1 ++ kept
              constructor
              · have htake : (c :: (rest ++ second)).take found.2 = (c :: rest).take found.2 :=
                  List.take_append_of_le_length hlength
                have hdrop : rest.drop (found.2 - 1) = (c :: rest).drop found.2 := by
                  rw [← Nat.succ_pred_eq_of_pos hpos]
                  rfl
                rw [htake] at hredacts
                rw [hdrop] at hkept
                rw [List.drop_zero, ← List.take_append_drop found.2 (c :: rest)]
                exact hredacts.append hkept
              · rw [List.cons_append, replaceMatches_some hfound, heq, List.append_assoc]

/-- The characters of the last match are passed over. -/
theorem replaceMatches_drop (skip : ℕ) (text : List α) :
    replaceMatches find skip text = replaceMatches find 0 (text.drop skip) := by
  induction text generalizing skip with
  | nil =>
      rw [List.drop_nil]
      cases skip <;> rfl
  | cons c rest ih =>
      cases skip with
      | zero => rfl
      | succ skip => exact ih skip

theorem replaceMatches_found {replaced : List α} {length : ℕ} (hpos : 0 < length)
    (hne : text ≠ []) (h : find text = some (replaced, length)) :
    replaceMatches find 0 text = replaced ++ replaceMatches find 0 (text.drop length) := by
  cases text with
  | nil => exact absurd rfl hne
  | cons c rest =>
      rw [replaceMatches_some h, replaceMatches_drop, ← Nat.succ_pred_eq_of_pos hpos]
      rfl

/-- All the matches of a text are replaced. -/
theorem replaceMatches_redacts (hfind : Marks hidden marker find) (text : List α) :
    Redacts hidden marker text (replaceMatches find 0 text) := by
  have hends : ∀ before part, text = before ++ part → part ≠ [] → ∀ replaced length,
      find (part ++ []) = some (replaced, length) → length ≤ part.length := by
    intro before part _ _ replaced length hfound
    rw [List.append_nil] at hfound
    exact (hfind _ _ _ hfound).2.1
  rcases replaceMatches_append hfind text [] hends (Nat.zero_le _) with ⟨kept, hkept, heq⟩
  rw [List.append_nil, replaceMatches, List.append_nil] at heq
  rw [heq]
  exact hkept

/-- Where no match begins, the text is kept. -/
theorem replaceMatches_append_none (first second : List α)
    (hnone : ∀ before part, first = before ++ part → part ≠ [] → find (part ++ second) = none) :
    replaceMatches find 0 (first ++ second) = first ++ replaceMatches find 0 second := by
  induction first with
  | nil => rfl
  | cons c rest ih =>
      have hfirst : find (c :: (rest ++ second)) = none :=
        hnone [] (c :: rest) rfl (List.cons_ne_nil c rest)
      rw [List.cons_append, replaceMatches_none hfirst, ih, List.cons_append]
      intro before part hsplit
      exact hnone (c :: before) part (by rw [hsplit]; rfl)

/-- Only what is found in the text and its ends matters. -/
theorem replaceMatches_congr {find' : List α → Option (List α × ℕ)} (text : List α)
    (hsame : ∀ before rest, text = before ++ rest → find rest = find' rest) (skip : ℕ) :
    replaceMatches find skip text = replaceMatches find' skip text := by
  induction text generalizing skip with
  | nil => cases skip <;> rfl
  | cons c rest ih =>
      have hrest : ∀ skip, replaceMatches find skip rest = replaceMatches find' skip rest := by
        apply ih
        intro before others hsplit
        exact hsame (c :: before) others (by rw [hsplit]; rfl)
      cases skip with
      | succ skip => exact hrest skip
      | zero =>
          rw [replaceMatches, replaceMatches, hsame [] (c :: rest) rfl]
          simp only [hrest]

end Replacements

section Words

variable {space : α → Bool} {separator : α} {texts : List (List α)}

theorem prefix_of_splitOnP {first : List α} (h : text.splitOnP space = first :: texts) :
    first <+: text := by
  induction text generalizing first texts with
  | nil =>
      rw [List.splitOnP_nil] at h
      obtain rfl := (List.cons.inj h).1
      exact List.nil_prefix
  | cons c rest ih =>
      rw [List.splitOnP_cons_eq_if_modifyHead] at h
      split at h
      · rw [← (List.cons.inj h).1]
        exact List.nil_prefix
      · cases hrest : rest.splitOnP space with
        | nil => exact absurd hrest (List.splitOnP_ne_nil space rest)
        | cons word others =>
            rw [hrest] at h
            rw [← (List.cons.inj h).1]
            exact (List.prefix_cons_inj c).mpr (ih hrest)

theorem infix_of_mem_splitOnP {word : List α} (h : word ∈ text.splitOnP space) :
    word <:+: text := by
  induction text generalizing word with
  | nil =>
      rw [List.splitOnP_nil, List.mem_singleton] at h
      obtain rfl := h
      exact List.nil_infix
  | cons c rest ih =>
      rw [List.splitOnP_cons_eq_if_modifyHead] at h
      split at h
      · rcases List.mem_cons.mp h with rfl | hrest
        · exact List.nil_infix
        · exact List.infix_cons (ih hrest)
      · cases hrest : rest.splitOnP space with
        | nil => exact absurd hrest (List.splitOnP_ne_nil space rest)
        | cons first others =>
            rw [hrest] at h ih
            rcases List.mem_cons.mp h with rfl | hothers
            · exact ((List.prefix_cons_inj c).mpr (prefix_of_splitOnP hrest)).isInfix
            · exact List.infix_cons (ih (List.mem_cons_of_mem first hothers))

theorem infix_of_intercalate (hseparator : separator ∉ secret) (hne : secret ≠ [])
    (h : secret <:+: [separator].intercalate texts) : ∃ word ∈ texts, secret <:+: word := by
  induction texts with
  | nil =>
      rw [List.intercalate_nil, List.infix_nil] at h
      exact absurd h hne
  | cons word others ih =>
      cases others with
      | nil => exact ⟨word, List.mem_singleton_self word, by simpa using h⟩
      | cons other others =>
          rw [List.intercalate_cons_cons, List.append_assoc, List.singleton_append] at h
          rcases infix_append_cons hseparator h with hword | hothers
          · exact ⟨word, List.mem_cons_self, hword⟩
          · rcases ih hothers with ⟨found, hmem, hfound⟩
            exact ⟨found, List.mem_cons_of_mem word hmem, hfound⟩

/-- What has no separator and is in the joined words of a text is in the text. -/
theorem infix_of_words (hseparator : separator ∉ secret) (hne : secret ≠ [])
    (h : secret <:+: [separator].intercalate (words space text)) : secret <:+: text := by
  rcases infix_of_intercalate hseparator hne h with ⟨word, hmem, hword⟩
  have hsplit : word ∈ text.splitOnP space := (List.mem_filter.mp hmem).1
  exact hword.trans (infix_of_mem_splitOnP hsplit)

end Words

section Matched

variable {accepts : α → Bool} {items rest : List (Item α)} {length : ℕ}

theorem matched_append (items rest : List (Item α)) (text : List α) :
    matched (items ++ rest) text = (matched items text).bind fun first =>
      (matched rest (text.drop first)).map fun second => first + second := by
  induction items generalizing text with
  | nil => simp [matched]
  | cons item items ih =>
      simp only [List.cons_append, matched, ih]
      cases item.takes text with
      | none => rfl
      | some taken =>
          simp only [Option.bind_eq_bind, Option.bind_some, Option.pure_def]
          cases matched items (text.drop taken) with
          | none => rfl
          | some first =>
              simp only [Option.bind_some, List.drop_drop, Option.map_eq_bind, Function.comp_def,
                Option.bind_assoc, Nat.add_assoc]

theorem takes_le {item : Item α} (h : item.takes text = some length) :
    length ≤ text.length := by
  cases item with
  | one accepts =>
      cases text with
      | nil => cases h
      | cons c rest =>
          rw [Item.takes] at h
          split at h
          · cases h
            exact Nat.succ_le_succ (Nat.zero_le _)
          · cases h
  | optional accepts =>
      cases text with
      | nil =>
          cases h
          exact Nat.le_refl 0
      | cons c rest =>
          rw [Item.takes, Option.some.injEq] at h
          rw [← h, List.length_cons]
          split <;> omega
  | many accepts =>
      cases h
      exact (List.takeWhile_prefix accepts).length_le

/-- A match lies in the text. -/
theorem matched_le (h : matched items text = some length) : length ≤ text.length := by
  induction items generalizing text length with
  | nil =>
      cases h
      exact Nat.zero_le _
  | cons item items ih =>
      simp only [matched, Option.bind_eq_bind, Option.bind_eq_some_iff, Option.pure_def,
        Option.some.injEq] at h
      rcases h with ⟨taken, htaken, others, hothers, rfl⟩
      have hitem := takes_le htaken
      have hrest := ih hothers
      rw [List.length_drop] at hrest
      omega

theorem matched_pos (h : matched (.one accepts :: items) text = some length) : 0 < length := by
  cases text with
  | nil => cases h
  | cons c rest =>
      simp only [matched, Option.bind_eq_bind, Option.bind_eq_some_iff, Option.pure_def,
        Option.some.injEq, Item.takes] at h
      rcases h with ⟨taken, htaken, others, _, rfl⟩
      split at htaken
      · cases htaken
        omega
      · cases htaken

/-- One character of a kind, and as many more as there are. -/
theorem matched_many : matched [.one accepts, .many accepts] text = some length ↔
    length = (text.takeWhile accepts).length ∧ length ≠ 0 := by
  cases text with
  | nil => simp [matched, Item.takes]
  | cons c rest =>
      by_cases hc : accepts c = true
      · simp only [matched, Item.takes, hc, if_true, Option.bind_eq_bind, Option.bind_some,
          Option.pure_def, List.drop_succ_cons, List.drop_zero, Option.some.injEq,
          List.takeWhile_cons_of_pos hc, List.length_cons]
        omega
      · simp [matched, Item.takes, hc]

/-- The letters of a word. -/
theorem matched_letters {letters : List Char} {isLetter : Char → α → Bool} :
    matched (letters.map fun letter => .one (isLetter letter)) text = some length ↔
      ∃ spelled rest, text = spelled ++ rest ∧ length = spelled.length ∧
        List.Forall₂ (fun letter c => isLetter letter c = true) letters spelled := by
  induction letters generalizing text length with
  | nil =>
      rw [List.map_nil, matched, Option.some.injEq]
      constructor
      · rintro rfl
        exact ⟨[], text, rfl, rfl, .nil⟩
      · rintro ⟨spelled, rest, _, rfl, hspelled⟩
        cases hspelled
        rfl
  | cons letter letters ih =>
      cases text with
      | nil =>
          apply iff_of_false
          · simp [matched, Item.takes]
          · rintro ⟨spelled, rest, heq, _, hspelled⟩
            cases hspelled
            cases heq
      | cons c rest =>
          by_cases hc : isLetter letter c = true
          · simp only [List.map_cons, matched, Item.takes, hc, if_true, Option.bind_eq_bind,
              Option.bind_some, Option.pure_def, List.drop_succ_cons, List.drop_zero,
              Option.bind_eq_some_iff, Option.some.injEq]
            constructor
            · rintro ⟨taken, htaken, rfl⟩
              rcases ih.mp htaken with ⟨spelled, rest', rfl, rfl, hspelled⟩
              exact ⟨c :: spelled, rest', rfl, Nat.add_comm _ _, .cons hc hspelled⟩
            · rintro ⟨spelled, rest', heq, rfl, hspelled⟩
              cases hspelled with
              | @cons _ d _ others _ hothers =>
                  cases heq
                  use others.length
                  constructor
                  · exact ih.mpr ⟨others, rest', rfl, rfl, hothers⟩
                  · exact Nat.add_comm _ _
          · apply iff_of_false
            · simp [matched, Item.takes, hc]
            · rintro ⟨spelled, rest', heq, _, hspelled⟩
              cases hspelled with
              | cons hletter _ =>
                  cases heq
                  exact hc hletter

end Matched

end PatternText
