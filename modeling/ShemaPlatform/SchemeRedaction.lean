/-
What the first patterns of `safe_error_detail` make of a credential after a scheme: one that
follows the word of the pattern is replaced, any other is kept with its scheme.
-/
import Mathlib.Data.List.Forall2
import Mathlib.Data.List.TakeWhile
import ShemaPlatform.PatternMarks
import ShemaPlatform.SafeErrors

namespace ShemaPlatform

open PatternText

namespace SafeErrors

/-- What a secret is replaced by. -/
def marker : PyStr := PyStr.of "<redacted>"

def space : PyChar := .scalar ' '

/-- The letters of a word, whatever their case. -/
def Spells (letters : String) (text : PyStr) : Prop :=
  List.Forall₂ (fun letter c => PyChar.isLetter letter c = true) letters.toList text

/-- A text without whitespace. -/
def Solid (text : PyStr) : Prop :=
  ∀ c ∈ text, c.isSpace = false

section Secrets

theorem solid_of_ofSecret {c : PyChar} (h : ofSecret c = true) : c.isSpace = false := by
  simp only [ofSecret, Bool.not_eq_true', Bool.or_eq_false_iff] at h
  exact h.1

variable {introduction : List (Item PyChar)} {text replaced : PyStr} {length : ℕ}

theorem findSecret_eq_some : findSecret introduction text = some (replaced, length) ↔
    ∃ introduced, matched introduction text = some introduced ∧
      ((text.drop introduced).takeWhile ofSecret).length ≠ 0 ∧
      replaced = text.take introduced ++ marker ∧
      length = introduced + ((text.drop introduced).takeWhile ofSecret).length := by
  simp only [findSecret, Option.bind_eq_bind, Option.bind_eq_some_iff, Option.pure_def,
    Option.some.injEq, Prod.mk.injEq, matched_many]
  constructor
  · rintro ⟨introduced, hmatched, secret, ⟨rfl, hsecret⟩, rfl, rfl⟩
    exact ⟨introduced, hmatched, hsecret, rfl, rfl⟩
  · rintro ⟨introduced, hmatched, hsecret, rfl, rfl⟩
    exact ⟨introduced, hmatched, _, ⟨rfl, hsecret⟩, rfl, rfl⟩

/-- A secret is replaced by the marker, and its introduction is kept. -/
theorem marks_findSecret (introduction : List (Item PyChar)) :
    Marks inked marker (findSecret introduction) := by
  intro text replaced length hfound
  rcases findSecret_eq_some.mp hfound with ⟨introduced, _, hsecret, rfl, rfl⟩
  have hprefix : (text.drop introduced).takeWhile ofSecret <+: text.drop introduced :=
    List.takeWhile_prefix ofSecret
  have hlength := hprefix.length_le
  rw [List.length_drop] at hlength
  constructor
  · omega
  · constructor
    · omega
    · rw [List.take_add, ← List.prefix_iff_eq_take.mp hprefix]
      apply (Redacts.refl (text.take introduced)).append
      have hall : ((text.drop introduced).takeWhile ofSecret).all inked = true := by
        rw [List.all_eq_true]
        intro c hc
        rw [inked, solid_of_ofSecret (List.mem_takeWhile_imp hc)]
        rfl
      exact Redacts.marked _ hall

/-- What keeps apart from the marker is not written anew by a pattern. -/
theorem infix_of_pattern {secret : PyStr} (hapart : Apart marker secret)
    (h : secret <:+: replaceMatches (findSecret introduction) 0 text) : secret <:+: text :=
  (replaceMatches_redacts (marks_findSecret introduction) text).infix_of hapart h

end Secrets

section Spaced

variable {letters : String} {text replaced part after : PyStr} {length : ℕ} {z : PyChar}

/-- An ASCII letter is matched by no whitespace. -/
theorem isSpace_of_isLetter {letter : Char} {c : PyChar} (hletter : letter.isAlpha = true)
    (h : PyChar.isLetter letter c = true) : c.isSpace = false := by
  cases c with
  | surrogate unit => rfl
  | scalar c =>
      simp only [PyChar.isLetter, PyChar.folded, beq_iff_eq] at h
      split_ifs at h with hlong hkelvin hdotted
      · subst hlong
        decide
      · subst hkelvin
        decide
      · rcases hdotted with rfl | rfl
        · decide
        · decide
      · apply PyText.isSpace_of_isAlpha
        by_cases hupper : c.isUpper = true
        · change (c.isUpper || c.isLower) = true
          rw [hupper, Bool.true_or]
        · have hsame : c.toLower = c := by
            delta Char.toLower
            apply dif_neg
            intro hrange
            exact hupper (decide_eq_true hrange)
          rwa [← hsame, h]

theorem exists_of_takeWhile {p : PyChar → Bool} {place : ℕ}
    (h : place < (text.takeWhile p).length) : ∃ c, text[place]? = some c ∧ p c = true := by
  have hstart : text.takeWhile p <+: text := List.takeWhile_prefix p
  use (text.takeWhile p)[place]
  constructor
  · rw [hstart.getElem h]
    exact List.getElem?_eq_getElem (Nat.lt_of_lt_of_le h hstart.length_le)
  · exact List.mem_takeWhile_imp (List.getElem_mem h)

/-- The places of a match: the letters, whitespace, and a secret. -/
structure SpacedMatch (letters : String) (text : PyStr) (stop length : ℕ) : Prop where
  after_word : letters.toList.length < stop
  before_secret : stop < length
  letter : ∃ spelled rest, text = spelled ++ rest ∧ Spells letters spelled
  spaces : ∀ place, letters.toList.length ≤ place → place < stop →
    ∃ c, text[place]? = some c ∧ c.isSpace = true
  secret : ∀ place, stop ≤ place → place < length →
    ∃ c, text[place]? = some c ∧ c.isSpace = false

theorem spacedMatch_of_found
    (h : findSecret (word letters ++ spaced) text = some (replaced, length)) :
    ∃ stop, SpacedMatch letters text stop length ∧ replaced = text.take stop ++ marker := by
  rcases findSecret_eq_some.mp h with ⟨introduced, hmatched, hsecret, hreplaced, rfl⟩
  rw [matched_append, Option.bind_eq_some_iff] at hmatched
  rcases hmatched with ⟨first, hletters, hrest⟩
  rcases matched_letters.mp hletters with ⟨spelled, rest, rfl, rfl, hspelled⟩
  rw [List.drop_left, Option.map_eq_some_iff] at hrest
  rcases hrest with ⟨spaces, hspaces, rfl⟩
  rcases matched_many.mp hspaces with ⟨rfl, hsome⟩
  have hlength := hspelled.length_eq
  use spelled.length + (rest.takeWhile PyChar.isSpace).length
  apply And.intro _ hreplaced
  constructor
  · omega
  · omega
  · exact ⟨spelled, rest, rfl, hspelled⟩
  · intro place hfrom hto
    rw [List.getElem?_append_right (by omega)]
    exact exists_of_takeWhile (by omega)
  · intro place hfrom hto
    have hplace : (spelled ++ rest)[place]? = ((spelled ++ rest).drop
        (spelled.length + (rest.takeWhile PyChar.isSpace).length))[place -
          (spelled.length + (rest.takeWhile PyChar.isSpace).length)]? := by
      rw [List.getElem?_drop]
      congr 1
      omega
    have hwithin : place - (spelled.length + (rest.takeWhile PyChar.isSpace).length) <
        (((spelled ++ rest).drop
          (spelled.length + (rest.takeWhile PyChar.isSpace).length)).takeWhile ofSecret).length := by
      omega
    rcases exists_of_takeWhile hwithin with ⟨c, hc, hs⟩
    use c
    rw [hplace]
    constructor
    · exact hc
    · exact solid_of_ofSecret hs

/-- ASCII letters, of which there is one. -/
structure Letters (letters : String) : Prop where
  alpha : ∀ letter ∈ letters.toList, letter.isAlpha = true
  named : letters.toList ≠ []

theorem solid_of_spells (hletters : Letters letters) {spelled : PyStr}
    (h : Spells letters spelled) : Solid spelled := by
  intro c hc
  rcases List.forall₂_iff_get.mp h with ⟨hlength, hget⟩
  rcases List.get_of_mem hc with ⟨place, rfl⟩
  have hplace : place < letters.toList.length := by
    rw [hlength]
    exact place.isLt
  exact isSpace_of_isLetter (hletters.alpha _ (List.get_mem _ ⟨place, hplace⟩))
    (hget place hplace place.isLt)

/-- Before the whitespace of a match there is no whitespace. -/
theorem SpacedMatch.solid {stop : ℕ} (hletters : Letters letters)
    (h : SpacedMatch letters text stop length) {place : ℕ}
    (hplace : place < letters.toList.length) :
    ∃ c, text[place]? = some c ∧ c.isSpace = false := by
  rcases h.letter with ⟨spelled, rest, rfl, hspelled⟩
  have hlength := List.Forall₂.length_eq hspelled
  have hwithin : place < spelled.length := by omega
  use spelled[place]
  constructor
  · rw [List.getElem?_append_left hwithin]
    exact List.getElem?_eq_getElem hwithin
  · exact solid_of_spells hletters hspelled _ (List.getElem_mem hwithin)

/-- The last letter of a match. -/
theorem SpacedMatch.last {stop : ℕ} (hletters : Letters letters)
    (h : SpacedMatch letters text stop length) :
    ∃ letter c, letters.toList.getLast? = some letter ∧
      text[letters.toList.length - 1]? = some c ∧ PyChar.isLetter letter c = true := by
  rcases h.letter with ⟨spelled, rest, rfl, hspelled⟩
  rcases List.forall₂_iff_get.mp hspelled with ⟨hlength, hget⟩
  have hpos := List.length_pos_of_ne_nil hletters.named
  have hplace : letters.toList.length - 1 < spelled.length := by omega
  have hplace' : letters.toList.length - 1 < letters.toList.length := by omega
  use letters.toList[letters.toList.length - 1], spelled[letters.toList.length - 1]
  constructor
  · rw [List.getLast?_eq_getElem?]
    exact List.getElem?_eq_getElem hplace'
  · constructor
    · rw [List.getElem?_append_left hplace]
      exact List.getElem?_eq_getElem hplace
    · exact hget _ hplace' hplace

theorem getElem?_space (first rest : PyStr) : (first ++ space :: rest)[first.length]? =
    some space := by
  rw [List.getElem?_append_right (Nat.le_refl _), Nat.sub_self]
  rfl

/-- Whether a word may end with a character, in a match of the word. -/
def EndsWord (letters : String) (z : PyChar) : Prop :=
  ∃ letter, letters.toList.getLast? = some letter ∧ PyChar.isLetter letter z = true

/-- A match does not go on over a space after a character that does not end the word. -/
theorem ends_before_space (hletters : Letters letters) (hz : z.isSpace = false)
    (hlast : ¬ EndsWord letters z)
    (hfound : findSecret (word letters ++ spaced) ((part ++ [z]) ++ space :: after) =
      some (replaced, length)) : length ≤ (part ++ [z]).length := by
  rcases spacedMatch_of_found hfound with ⟨stop, hmatch, _⟩
  by_contra hover
  rw [not_le, List.length_append, List.length_singleton] at hover
  have hspace := getElem?_space (part ++ [z]) after
  rw [List.length_append, List.length_singleton] at hspace
  have hbefore : ((part ++ [z]) ++ space :: after)[part.length]? = some z := by
    rw [List.append_assoc, List.getElem?_append_right (Nat.le_refl _), Nat.sub_self]
    rfl
  -- the space can only be the first one of the match
  have hword : letters.toList.length ≤ part.length + 1 := by
    by_contra hless
    rcases hmatch.solid hletters (Nat.lt_of_not_le hless) with ⟨c, hc, hsolid⟩
    rw [hspace, Option.some.injEq] at hc
    rw [← hc] at hsolid
    cases hsolid
  have hstop : part.length + 1 < stop := by
    by_contra hless
    rcases hmatch.secret _ (Nat.le_of_not_lt hless) hover with ⟨c, hc, hsolid⟩
    rw [hspace, Option.some.injEq] at hc
    rw [← hc] at hsolid
    cases hsolid
  rcases Nat.lt_or_ge part.length letters.toList.length with hfirst | hlater
  · rcases hmatch.last hletters with ⟨letter, c, hletter, hc, hmatched⟩
    have hsame : letters.toList.length - 1 = part.length := by omega
    rw [hsame, hbefore, Option.some.injEq] at hc
    exact hlast ⟨letter, hletter, hc ▸ hmatched⟩
  · rcases hmatch.spaces _ hlater (Nat.lt_of_succ_lt hstop) with ⟨c, hc, hblank⟩
    rw [hbefore, Option.some.injEq] at hc
    rw [← hc, hz] at hblank
    cases hblank

/-- No match begins in a word, or at the space after it, when the word ends otherwise. -/
theorem none_in_token (hletters : Letters letters) {token : PyStr} (htoken : Solid token)
    (hends : ∀ start spelled, token = start ++ spelled → ¬ Spells letters spelled)
    {before : PyStr} (hsplit : token ++ [space] = before ++ part) (hne : part ≠ []) :
    findSecret (word letters ++ spaced) (part ++ after) = none := by
  rcases List.eq_nil_or_concat part with rfl | ⟨tail, last, rfl⟩
  · exact absurd rfl hne
  · rw [List.concat_eq_append] at hsplit ⊢
    rw [← List.append_assoc] at hsplit
    rcases List.append_inj' hsplit rfl with ⟨rfl, hlast⟩
    obtain rfl : space = last := List.head_eq_of_cons_eq hlast
    rw [List.append_assoc, List.singleton_append]
    cases hfound : findSecret (word letters ++ spaced) (tail ++ space :: after) with
    | none => rfl
    | some found =>
        rcases spacedMatch_of_found hfound with ⟨stop, hmatch, _⟩
        have hspace := getElem?_space tail after
        have hle : letters.toList.length ≤ tail.length := by
          by_contra hless
          rcases hmatch.solid hletters (Nat.lt_of_not_le hless) with ⟨c, hc, hsolid⟩
          rw [hspace, Option.some.injEq] at hc
          rw [← hc] at hsolid
          cases hsolid
        have hge : tail.length ≤ letters.toList.length := by
          by_contra hless
          rw [not_le] at hless
          rcases hmatch.spaces _ (Nat.le_refl _) hmatch.after_word with ⟨c, hc, hblank⟩
          rw [List.getElem?_append_left hless, List.getElem?_eq_getElem hless,
            Option.some.injEq] at hc
          have hsolid := htoken _ (List.mem_append_right before (List.getElem_mem hless))
          rw [hc, hblank] at hsolid
          cases hsolid
        rcases hmatch.letter with ⟨spelled, rest, heq, hspelled⟩
        have hlength : tail.length = spelled.length := by
          rw [← List.Forall₂.length_eq hspelled]
          omega
        rcases List.append_inj heq hlength with ⟨rfl, _⟩
        exact absurd hspelled (hends before tail rfl)

theorem none_at_space (hletters : Letters letters) :
    findSecret (word letters ++ spaced) (space :: after) = none := by
  cases hfound : findSecret (word letters ++ spaced) (space :: after) with
  | none => rfl
  | some found =>
      rcases spacedMatch_of_found hfound with ⟨stop, hmatch, _⟩
      rcases hmatch.solid hletters (List.length_pos_of_ne_nil hletters.named) with
        ⟨c, hc, hsolid⟩
      rw [List.getElem?_cons_zero, Option.some.injEq] at hc
      rw [← hc] at hsolid
      cases hsolid

/-- No match begins before the word that a token ends with. -/
theorem none_before_word (hletters : Letters letters) {start spelled : PyStr}
    (hstart : Solid start) (hspelled : Spells letters spelled) {before : PyStr}
    (hsplit : space :: start = before ++ part) (hne : part ≠ []) :
    findSecret (word letters ++ spaced) (part ++ (spelled ++ space :: after)) = none := by
  cases hfound : findSecret (word letters ++ spaced) (part ++ (spelled ++ space :: after)) with
  | none => rfl
  | some found =>
      rcases spacedMatch_of_found hfound with ⟨stop, hmatch, _⟩
      have hpart := List.length_pos_of_ne_nil hne
      have hlength := List.Forall₂.length_eq hspelled
      -- the first character is a letter, so the part is one of the token
      have hsolid : Solid part := by
        cases before with
        | nil =>
            rw [List.nil_append] at hsplit
            rw [← hsplit, List.cons_append, none_at_space hletters] at hfound
            cases hfound
        | cons first others =>
            have hrest := (List.cons.inj hsplit).2
            intro c hc
            apply hstart
            rw [hrest]
            exact List.mem_append_right others hc
      rcases hmatch.spaces _ (Nat.le_refl _) hmatch.after_word with ⟨c, hc, hblank⟩
      have hmem : c ∈ part ++ spelled := by
        rw [← List.append_assoc, List.getElem?_append_left (by
          rw [List.length_append]
          omega)] at hc
        exact List.mem_of_getElem? hc
      rcases List.mem_append.mp hmem with hmem | hmem
      · rw [hsolid c hmem] at hblank
        cases hblank
      · rw [solid_of_spells hletters hspelled c hmem] at hblank
        cases hblank

/-- What follows the word and a space is found. -/
theorem found_at_word {spelled secret : PyStr}
    (hspelled : Spells letters spelled) (hsecret : ∀ c ∈ secret, ofSecret c = true)
    (hne : secret ≠ []) :
    findSecret (word letters ++ spaced) (spelled ++ space :: (secret ++ after)) =
      some ((spelled ++ [space]) ++ marker,
        (spelled ++ space :: secret).length + (after.takeWhile ofSecret).length) := by
  have hspaces : (space :: (secret ++ after)).takeWhile PyChar.isSpace = [space] := by
    rw [List.takeWhile_cons_of_pos rfl]
    cases secret with
    | nil => exact absurd rfl hne
    | cons c rest =>
        have hc := solid_of_ofSecret (hsecret c List.mem_cons_self)
        rw [List.cons_append, List.takeWhile_cons_of_neg (by simp [hc])]
  have hdrop : (spelled ++ space :: (secret ++ after)).drop (spelled.length + 1) =
      secret ++ after := by
    rw [← List.drop_drop, List.drop_left]
    rfl
  have htake : (spelled ++ space :: (secret ++ after)).take (spelled.length + 1) =
      spelled ++ [space] := by
    rw [List.take_length_add_append]
    rfl
  have hrun : (secret ++ after).takeWhile ofSecret = secret ++ after.takeWhile ofSecret :=
    List.takeWhile_append_of_pos hsecret
  have hfirst : matched (word letters) (spelled ++ space :: (secret ++ after)) =
      some spelled.length :=
    matched_letters.mpr ⟨spelled, _, rfl, rfl, hspelled⟩
  have hrest : matched spaced (space :: (secret ++ after)) = some 1 :=
    matched_many.mpr ⟨by rw [hspaces]; rfl, Nat.one_ne_zero⟩
  rw [findSecret_eq_some]
  use spelled.length + 1
  constructor
  · rw [matched_append, hfirst, Option.bind_some, List.drop_left, hrest]
    rfl
  · rw [hdrop, htake, hrun, List.length_append, List.length_append, List.length_cons]
    constructor
    · have hpos := List.length_pos_of_ne_nil hne
      omega
    · constructor
      · rfl
      · omega

/-- The pattern is no further than its whitespace. -/
theorem keeps_token {token : PyStr} (htoken : Solid token) :
    ∃ rest, replaceMatches (findSecret (word letters ++ spaced)) 0 (token ++ after) =
        token ++ rest ∧ Redacts inked marker after rest := by
  induction token with
  | nil => exact ⟨_, rfl, replaceMatches_redacts (marks_findSecret _) after⟩
  | cons c token ih =>
      rw [List.cons_append]
      cases hfound : findSecret (word letters ++ spaced) (c :: (token ++ after)) with
      | none =>
          rcases ih fun d hd => htoken d (List.mem_cons_of_mem c hd) with ⟨rest, heq, hrest⟩
          exact ⟨rest, by rw [replaceMatches_none hfound, heq, List.cons_append], hrest⟩
      | some found =>
          rcases spacedMatch_of_found hfound with ⟨stop, hmatch, hreplaced⟩
          -- the whitespace of the match is not in the token
          have hword : (c :: token).length ≤ letters.toList.length := by
            by_contra hless
            rw [not_le] at hless
            rcases hmatch.spaces _ (Nat.le_refl _) hmatch.after_word with ⟨d, hd, hblank⟩
            rw [← List.cons_append, List.getElem?_append_left hless,
              List.getElem?_eq_getElem hless, Option.some.injEq] at hd
            have hsolid := htoken _ (List.getElem_mem hless)
            rw [hd, hblank] at hsolid
            cases hsolid
          have hstop : (c :: token).length ≤ stop := hword.trans hmatch.after_word.le
          have hlength := hmatch.before_secret
          have hshort : found.2 - (c :: token).length =
              (stop - (c :: token).length) + (found.2 - stop) := by
            omega
          have htake : (c :: (token ++ after)).take stop =
              (c :: token) ++ after.take (stop - (c :: token).length) := by
            rw [← List.cons_append, List.take_append, List.take_of_length_le hstop]
          have hdrop : (c :: (token ++ after)).drop found.2 =
              after.drop (found.2 - (c :: token).length) := by
            rw [← List.cons_append, List.drop_append, List.drop_of_length_le (by omega)]
            rfl
          have hhidden : ((after.drop (stop - (c :: token).length)).take
              (found.2 - stop)).all inked = true := by
            rw [List.all_eq_true]
            intro d hd
            rcases List.mem_iff_getElem?.mp hd with ⟨place, hplace⟩
            rw [List.getElem?_take] at hplace
            split at hplace
            · rename_i hwithin
              rw [List.getElem?_drop] at hplace
              rcases hmatch.secret (stop + place) (Nat.le_add_right _ _) (by omega) with
                ⟨e, he, hsolid⟩
              rw [← List.cons_append, List.getElem?_append_right (by omega)] at he
              have hsame : stop + place - (c :: token).length =
                  stop - (c :: token).length + place := by
                omega
              rw [hsame, hplace, Option.some.injEq] at he
              rw [inked, he, hsolid]
              rfl
            · cases hplace
          use after.take (stop - (c :: token).length) ++ (marker ++
            replaceMatches (findSecret (word letters ++ spaced)) 0
              (after.drop (found.2 - (c :: token).length)))
          constructor
          · rw [replaceMatches_found (Nat.zero_lt_of_lt hlength) (List.cons_ne_nil _ _) hfound,
              hreplaced, htake, hdrop]
            simp only [List.append_assoc, List.cons_append]
          · have hrest := replaceMatches_redacts (marks_findSecret (word letters ++ spaced))
              (after.drop (found.2 - (c :: token).length))
            have hmark := Redacts.mark _ hhidden hrest
            rw [hshort, ← List.drop_drop, List.take_append_drop] at hmark
            have happend := (Redacts.refl (after.take (stop - (c :: token).length))).append hmark
            rwa [List.take_append_drop, List.drop_drop, ← hshort] at happend

/-- The part before a space, when it does not end with the word. -/
theorem before_space (hletters : Letters letters) (hz : z.isSpace = false)
    (hlast : ¬ EndsWord letters z) (part after : PyStr) :
    ∃ kept, Redacts inked marker (part ++ [z]) kept ∧
      replaceMatches (findSecret (word letters ++ spaced)) 0 ((part ++ [z]) ++ space :: after) =
        kept ++ replaceMatches (findSecret (word letters ++ spaced)) 0 (space :: after) := by
  apply replaceMatches_append (marks_findSecret _) (part ++ [z]) (space :: after) _
    (Nat.zero_le _)
  intro before rest hsplit hne replaced length hfound
  rcases List.eq_nil_or_concat rest with rfl | ⟨tail, last, rfl⟩
  · exact absurd rfl hne
  · rw [List.concat_eq_append] at hsplit hfound ⊢
    rw [← List.append_assoc] at hsplit
    rcases List.append_inj' hsplit rfl with ⟨_, hsame⟩
    obtain rfl : z = last := List.head_eq_of_cons_eq hsame
    exact ends_before_space hletters hz hlast hfound

/-- A credential after the word of the pattern is replaced. -/
theorem credential_replaced (hletters : Letters letters) (hz : z.isSpace = false)
    (hlast : ¬ EndsWord letters z) {start spelled credential : PyStr} (hstart : Solid start)
    (hspelled : Spells letters spelled) (hcredential : ∀ c ∈ credential, ofSecret c = true)
    (hne : credential ≠ []) (part after : PyStr) :
    ∃ kept rest, Redacts inked marker (part ++ [z]) kept ∧
      Redacts inked marker (after.dropWhile ofSecret) rest ∧
      replaceMatches (findSecret (word letters ++ spaced)) 0
          ((part ++ [z]) ++ space :: (start ++ (spelled ++ space :: (credential ++ after)))) =
        kept ++ space :: (start ++ (spelled ++ space :: (marker ++ rest))) := by
  rcases before_space hletters hz hlast part
    (start ++ (spelled ++ space :: (credential ++ after))) with ⟨kept, hkept, heq⟩
  have hnone : ∀ before rest, space :: start = before ++ rest → rest ≠ [] →
      findSecret (word letters ++ spaced)
        (rest ++ (spelled ++ space :: (credential ++ after))) = none := by
    intro before rest hsplit hrest
    exact none_before_word hletters hstart hspelled hsplit hrest
  have hskip := replaceMatches_append_none (space :: start)
    (spelled ++ space :: (credential ++ after)) hnone
  have hfound : findSecret (word letters ++ spaced)
      (spelled ++ space :: (credential ++ after)) = some ((spelled ++ [space]) ++ marker,
        (spelled ++ space :: credential).length + (after.takeWhile ofSecret).length) :=
    found_at_word hspelled hcredential hne
  have hpos : 0 < (spelled ++ space :: credential).length + (after.takeWhile ofSecret).length := by
    rw [List.length_append, List.length_cons]
    omega
  have htext : spelled ++ space :: (credential ++ after) ≠ [] := by simp
  have hdrop : (spelled ++ space :: (credential ++ after)).drop
      ((spelled ++ space :: credential).length + (after.takeWhile ofSecret).length) =
        after.dropWhile ofSecret := by
    have hsplit : spelled ++ space :: (credential ++ after) =
        (spelled ++ space :: credential) ++
          (after.takeWhile ofSecret ++ after.dropWhile ofSecret) := by
      rw [List.takeWhile_append_dropWhile, List.append_assoc, List.cons_append]
    rw [hsplit, ← List.drop_drop, List.drop_left, List.drop_left]
  use kept, replaceMatches (findSecret (word letters ++ spaced)) 0 (after.dropWhile ofSecret)
  constructor
  · exact hkept
  · constructor
    · exact replaceMatches_redacts (marks_findSecret _) _
    · rw [List.cons_append] at hskip
      rw [heq, hskip, replaceMatches_found hpos htext hfound, hdrop]
      simp only [List.append_assoc, List.cons_append, List.nil_append]

/-- A scheme that does not end with the word is kept with its credential. -/
theorem credential_kept (hletters : Letters letters) (hz : z.isSpace = false)
    (hlast : ¬ EndsWord letters z) {scheme credential : PyStr} (hscheme : Solid scheme)
    (hends : ∀ start spelled, scheme = start ++ spelled → ¬ Spells letters spelled)
    (hcredential : Solid credential) (part after : PyStr) :
    ∃ kept rest, Redacts inked marker (part ++ [z]) kept ∧ Redacts inked marker after rest ∧
      replaceMatches (findSecret (word letters ++ spaced)) 0
          ((part ++ [z]) ++ space :: (scheme ++ space :: (credential ++ after))) =
        kept ++ space :: (scheme ++ space :: (credential ++ rest)) := by
  rcases before_space hletters hz hlast part (scheme ++ space :: (credential ++ after)) with
    ⟨kept, hkept, heq⟩
  have htoken : ∃ rest, replaceMatches (findSecret (word letters ++ spaced)) 0
      (credential ++ after) = credential ++ rest ∧ Redacts inked marker after rest :=
    keeps_token hcredential
  rcases htoken with ⟨rest, hrest, hafter⟩
  have hnone : ∀ before rest, scheme ++ [space] = before ++ rest → rest ≠ [] →
      findSecret (word letters ++ spaced) (rest ++ (credential ++ after)) = none := by
    intro before rest hsplit hne
    exact none_in_token hletters hscheme hends hsplit hne
  have hskip := replaceMatches_append_none (scheme ++ [space]) (credential ++ after) hnone
  rw [List.append_assoc, List.singleton_append] at hskip
  use kept, rest
  constructor
  · exact hkept
  · constructor
    · exact hafter
    · rw [heq, replaceMatches_none (none_at_space hletters), hskip, hrest]
      simp only [List.append_assoc, List.singleton_append]

end Spaced

end SafeErrors

end ShemaPlatform
