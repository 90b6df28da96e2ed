/-
Patterns that are matched without going back, the replacement of their matches,
and the words of a text.
-/
import Mathlib.Data.List.Basic

namespace PatternText

variable {α : Type}

/-- A place of a pattern: one character, one that may be missing, or as many as
there are. -/
inductive Item (α : Type) where
  | one (accepts : α → Bool)
  | optional (accepts : α → Bool)
  | many (accepts : α → Bool)

/-- How many characters the place takes.  It takes all it can, which is right in
front of a place that accepts none of them. -/
def Item.takes : Item α → List α → Option ℕ
  | .one accepts, c :: _ => if accepts c then some 1 else none
  | .one _, [] => none
  | .optional accepts, c :: _ => some (if accepts c then 1 else 0)
  | .optional _, [] => some 0
  | .many accepts, text => some (text.takeWhile accepts).length

/-- The length of the match at the start of a text. -/
def matched : List (Item α) → List α → Option ℕ
  | [], _ => some 0
  | item :: items, text => do
      let length ← item.takes text
      let rest ← matched items (text.drop length)
      return length + rest

/-- The matches of `find` replaced, which gives the replacement and the length of
a match; the first characters of the text may still belong to the last one. -/
def replaceMatches (find : List α → Option (List α × ℕ)) : ℕ → List α → List α
  | _, [] => []
  | skip + 1, _ :: rest => replaceMatches find skip rest
  | 0, c :: rest =>
      match find (c :: rest) with
      | some (text, length) => text ++ replaceMatches find (length - 1) rest
      | none => c :: replaceMatches find 0 rest

/-- Characters that every match and every replacement has are there before if and
only if they are there afterwards. -/
theorem any_replaceMatches {find : List α → Option (List α × ℕ)} {p : α → Bool}
    (hfind : ∀ text replaced length, find text = some (replaced, length) →
      text.any p = true ∧ replaced.any p = true) (skip : ℕ) (text : List α) :
    (replaceMatches find skip text).any p = (text.drop skip).any p := by
  induction text generalizing skip with
  | nil =>
      rw [List.drop_nil]
      cases skip <;> rfl
  | cons c rest ih =>
      cases skip with
      | succ skip => exact ih skip
      | zero =>
          rw [replaceMatches, List.drop_zero]
          split
          · rename_i replaced length hfound
            obtain ⟨hbefore, hafter⟩ := hfind _ _ _ hfound
            rw [List.any_append, hafter, hbefore, Bool.true_or]
          · rw [List.any_cons, ih 0, List.drop_zero, List.any_cons]

/-- `text.split()` -/
def words (space : α → Bool) (text : List α) : List (List α) :=
  (text.splitOnP space).filter fun word => !word.isEmpty

theorem flatten_splitOnP (space : α → Bool) (text : List α) :
    (text.splitOnP space).flatten = text.filter fun c => !space c := by
  induction text with
  | nil => rfl
  | cons c rest ih =>
      rw [List.splitOnP_cons_eq_if_modifyHead]
      cases hc : space c with
      | true => simpa [hc] using ih
      | false =>
          cases hsplit : rest.splitOnP space with
          | nil => exact absurd hsplit (List.splitOnP_ne_nil space rest)
          | cons word others =>
              rw [hsplit] at ih
              simp only [Bool.false_eq_true, ↓reduceIte, List.modifyHead_cons,
                List.flatten_cons, List.cons_append, hc, Bool.not_false, List.filter_cons_of_pos]
              rw [← List.flatten_cons, ih]

theorem flatten_words (space : α → Bool) (text : List α) :
    (words space text).flatten = text.filter fun c => !space c := by
  rw [← flatten_splitOnP, words]
  induction text.splitOnP space with
  | nil => rfl
  | cons word others ih =>
      cases word with
      | nil => simpa using ih
      | cons c rest => simpa using ih

theorem words_eq_nil {space : α → Bool} {text : List α}
    (h : text.any (fun c => !space c) = false) : words space text = [] := by
  have hflat : (words space text).flatten = [] := by
    rw [flatten_words, List.filter_eq_nil_iff]
    intro c hc
    rw [List.any_eq_false] at h
    exact h c hc
  rw [List.flatten_eq_nil_iff] at hflat
  rw [List.eq_nil_iff_forall_not_mem]
  intro word hword
  obtain rfl := hflat word hword
  simp [words] at hword

/-- A separator without such characters adds none. -/
theorem any_intercalate {p : α → Bool} {separator : List α}
    (hseparator : separator.any p = false) (texts : List (List α)) :
    (separator.intercalate texts).any p = texts.flatten.any p := by
  induction texts with
  | nil => rfl
  | cons text others ih =>
      cases others with
      | nil => simp [List.intercalate]
      | cons other others =>
          rw [List.intercalate, List.intersperse_cons_cons, List.flatten_cons,
            List.flatten_cons, ← List.intercalate, List.any_append, List.any_append, ih,
            hseparator, Bool.false_or, ← List.any_append]
          rfl

end PatternText
