/-
`safe_error_detail` with a bound of the caller's, on texts with the header of a request: what
it leaves is in the text, and a credential after a scheme of the first patterns is not left.
-/
import ShemaPlatform.SchemeRedaction

namespace ShemaPlatform

open PatternText

namespace SafeErrors

/-- `value[: max_chars - 3] + "..."` of a text that is longer. -/
def boundedTo (maxChars : ℕ) (value : PyStr) : PyStr :=
  if maxChars < value.length then value.take (maxChars - 3) ++ PyStr.of "..." else value

/-- `safe_error_detail` with `max_chars`. -/
def safeErrorDetailWithin (urlsplit : PyStr → Option SplitUrl) (maxChars : ℤ) (error : PyStr) :
    Except Failure PyStr :=
  if maxChars < 64 then .error (.valueError "max_chars must be >= 64")
  else .ok (boundedTo maxChars.toNat
    (oneLine (redacted urlsplit (error.filter fun c => !c.isNul))))

theorem safeErrorDetailWithin_default (urlsplit : PyStr → Option SplitUrl) (error : PyStr) :
    safeErrorDetailWithin urlsplit maxErrorChars error = .ok (safeErrorDetail urlsplit error) :=
  rfl

/-- A `@` in a word, after `://`. -/
def carriesUser : PyStr → Bool
  | [] => false
  | c :: rest =>
      ((PyStr.of "://").isPrefixOf (c :: rest) && (rest.takeWhile inked).contains (.scalar '@')) ||
        carriesUser rest

/-- `urlsplit` finds a user only in a URL that carries one. -/
def FindsCarried (urlsplit : PyStr → Option SplitUrl) : Prop :=
  ∀ text length parsed, matched url text = some length →
    urlsplit (text.take length) = some parsed →
      (parsed.username.isNone && parsed.password.isNone) = false →
        carriesUser (text.take length) = true

/-- What a URL that cannot be split is replaced by. -/
def urlMarker : PyStr := PyStr.of "<redacted-url>"

section Carried

variable {text kept part : PyStr}

theorem carriesUser_append (part : PyStr) (h : carriesUser text = true) :
    carriesUser (part ++ text) = true := by
  induction part with
  | nil => exact h
  | cons c rest ih => rw [List.cons_append, carriesUser, ih, Bool.or_true]

theorem carriesUser_take {count : ℕ} (h : carriesUser (text.take count) = true) :
    carriesUser text = true := by
  induction text generalizing count with
  | nil =>
      rw [List.take_nil] at h
      exact h
  | cons c rest ih =>
      cases count with
      | zero => cases h
      | succ count =>
          rw [List.take_succ_cons, carriesUser, Bool.or_eq_true, Bool.and_eq_true] at h
          rw [carriesUser, Bool.or_eq_true, Bool.and_eq_true]
          rcases h with ⟨hstart, huser⟩ | hrest
          · left
            constructor
            · rw [List.isPrefixOf_iff_prefix] at hstart ⊢
              exact hstart.trans ((List.prefix_cons_inj c).mpr (List.take_prefix count rest))
            · rw [List.contains_iff_mem] at huser ⊢
              rw [← List.take_takeWhile] at huser
              exact (List.take_prefix count _).subset huser
          · exact Or.inr (ih hrest)

/-- A character that is not of the marker is kept from the text. -/
theorem Redacts_cons {c : PyChar} (hc : c ≠ .scalar '<')
    (h : Redacts inked marker text (c :: kept)) :
    ∃ rest, text = c :: rest ∧ Redacts inked marker rest kept := by
  generalize hwhole : c :: kept = whole at h
  cases h with
  | nil => cases hwhole
  | @keep d rest others h =>
      cases hwhole
      exact ⟨rest, rfl, h⟩
  | mark part _ _ => exact absurd (List.head_eq_of_cons_eq hwhole) hc

theorem mem_word_of_redacts {c : PyChar} (hc : c ∉ marker)
    (h : Redacts inked marker text kept) (hmem : c ∈ kept.takeWhile inked) :
    c ∈ text.takeWhile inked := by
  induction h with
  | nil => exact hmem
  | keep d _ ih =>
      by_cases hd : inked d = true
      · rw [List.takeWhile_cons_of_pos hd, List.mem_cons] at hmem ⊢
        exact hmem.imp_right ih
      · rw [List.takeWhile_cons_of_neg hd] at hmem
        cases hmem
  | mark part hpart _ ih =>
      have hinked : ∀ d ∈ marker, inked d = true := by decide
      rw [List.takeWhile_append_of_pos hinked, List.mem_append] at hmem
      rw [List.takeWhile_append_of_pos (List.all_eq_true.mp hpart), List.mem_append]
      exact Or.inr (ih (hmem.resolve_left hc))

/-- No pattern writes a URL that carries a user. -/
theorem carriesUser_of_redacts (h : Redacts inked marker text kept)
    (hcarries : carriesUser kept = true) : carriesUser text = true := by
  induction h with
  | nil => exact hcarries
  | @keep c text kept h ih =>
      rw [carriesUser, Bool.or_eq_true, Bool.and_eq_true] at hcarries ⊢
      rcases hcarries with ⟨hstart, huser⟩ | hrest
      · left
        rw [List.isPrefixOf_iff_prefix] at hstart ⊢
        rcases hstart with ⟨others, hothers⟩
        have hhead : PyChar.scalar ':' = c := List.head_eq_of_cons_eq hothers
        have htail : PyChar.scalar '/' :: PyChar.scalar '/' :: others = kept :=
          (List.cons.inj hothers).2
        rw [← htail] at h
        rcases Redacts_cons (by decide) h with ⟨rest, rfl, hrest⟩
        rcases Redacts_cons (by decide) hrest with ⟨rest', rfl, _⟩
        constructor
        · exact ⟨rest', by rw [← hhead]; rfl⟩
        · rw [List.contains_iff_mem] at huser ⊢
          rw [← htail] at huser
          exact mem_word_of_redacts (by decide) h huser
      · exact Or.inr (ih hrest)
  | mark part _ _ ih =>
      apply carriesUser_append
      exact ih hcarries

/-- Where no URL carries a user, a URL is kept, or replaced by a marker of its own. -/
theorem infix_of_urls {urlsplit : PyStr → Option SplitUrl} {secret : PyStr}
    (huser : FindsCarried urlsplit) (hquiet : carriesUser text = false)
    (hapart : Apart urlMarker secret)
    (h : secret <:+: replaceMatches (findUrl urlsplit) 0 text) : secret <:+: text := by
  have hsame : ∀ before rest, text = before ++ rest → findUrl urlsplit rest =
      if carriesUser rest then none else findUrl urlsplit rest := by
    intro before rest hsplit
    have hrest : carriesUser rest = false := by
      rw [Bool.eq_false_iff]
      intro hcarries
      rw [hsplit, carriesUser_append before hcarries] at hquiet
      cases hquiet
    rw [hrest]
    rfl
  have hmarks : Marks (fun _ => true) urlMarker
      (fun rest => if carriesUser rest then none else findUrl urlsplit rest) := by
    intro rest replaced length hfound
    dsimp only at hfound
    split at hfound
    · cases hfound
    · rename_i hrest
      simp only [findUrl, Option.bind_eq_bind, Option.bind_eq_some_iff, Option.pure_def,
        Option.some.injEq, Prod.mk.injEq] at hfound
      rcases hfound with ⟨taken, hmatched, rfl, rfl⟩
      constructor
      · exact matched_pos hmatched
      · constructor
        · exact matched_le hmatched
        · rw [redactUrl]
          cases hparsed : urlsplit (rest.take taken) with
          | none => exact Redacts.marked _ (by simp)
          | some parsed =>
              have hnone : (parsed.username.isNone && parsed.password.isNone) = true := by
                by_contra hsome
                rw [Bool.not_eq_true] at hsome
                exact hrest (carriesUser_take (huser _ _ _ hmatched hparsed hsome))
              simp only [Option.bind_eq_bind, Option.bind_some, hnone, if_true, Option.pure_def,
                Option.getD_some]
              exact Redacts.refl _
  rw [replaceMatches_congr text hsame] at h
  exact (replaceMatches_redacts hmarks text).infix_of hapart h

end Carried

section Lines

variable {value secret : PyStr}

theorem infix_of_oneLine (hsecret : Solid secret) (hne : secret ≠ [])
    (h : secret <:+: oneLine value) : secret <:+: value := by
  have hspace : PyChar.scalar ' ' ∉ secret := by
    intro hmem
    have hsolid := hsecret _ hmem
    cases hsolid
  exact infix_of_words hspace hne h

theorem infix_of_boundedTo {maxChars : ℕ}
    (hdots : ∀ start, secret <:+: start ++ PyStr.of "..." → secret <:+: start)
    (h : secret <:+: boundedTo maxChars value) : secret <:+: value := by
  rw [boundedTo] at h
  split at h
  · exact (hdots _ h).trans (List.take_prefix _ value).isInfix
  · exact h

theorem length_boundedTo {maxChars : ℕ} (hmax : 3 ≤ maxChars) :
    (boundedTo maxChars value).length ≤ maxChars := by
  rw [boundedTo]
  split
  · have hdots : (PyStr.of "...").length = 3 := rfl
    rw [List.length_append, List.length_take, hdots]
    omega
  · omega

end Lines

section Patterns

variable {introductions : List (List (Item PyChar))} {value secret : PyStr}

/-- The patterns, one after the other. -/
def applied (introductions : List (List (Item PyChar))) (value : PyStr) : PyStr :=
  introductions.foldl (fun value introduction =>
    replaceMatches (findSecret introduction) 0 value) value

theorem redacted_eq (urlsplit : PyStr → Option SplitUrl) (value : PyStr) :
    redacted urlsplit value =
      replaceMatches (findUrl urlsplit) 0 (applied secretIntroductions value) :=
  rfl

theorem infix_of_applied (hapart : Apart marker secret)
    (h : secret <:+: applied introductions value) : secret <:+: value := by
  induction introductions generalizing value with
  | nil => exact h
  | cons introduction others ih => exact infix_of_pattern hapart (ih h)

theorem quiet_applied (h : carriesUser value = false) :
    carriesUser (applied introductions value) = false := by
  induction introductions generalizing value with
  | nil => exact h
  | cons introduction others ih =>
      apply ih
      rw [Bool.eq_false_iff] at h ⊢
      intro hcarries
      exact h (carriesUser_of_redacts
        (replaceMatches_redacts (marks_findSecret introduction) value) hcarries)

end Patterns

/-- The text up to the space in front of a scheme. -/
def headed (before : PyStr) : PyStr :=
  (before ++ PyStr.of "Authorization") ++ [.scalar ':']

/-- A text whose header has a scheme with a credential, as it is without the NUL characters.
The credential is there once, and it is not put together of a marker or the final dots. -/
structure Exposes (text before scheme credential after : PyStr) : Prop where
  contains : text.filter (fun c => !c.isNul) =
    before ++ (PyStr.of "Authorization: " ++ (scheme ++ space :: (credential ++ after)))
  secret : ∀ c ∈ credential, ofSecret c = true
  long : 8 < credential.length
  once : ∀ first second, text.filter (fun c => !c.isNul) = first ++ (credential ++ second) →
    first = before ++ (PyStr.of "Authorization: " ++ (scheme ++ [space]))
  unmarked : Apart marker credential ∧ Apart urlMarker credential
  undotted : ∀ start, credential <:+: start ++ PyStr.of "..." → credential <:+: start
  quiet : carriesUser (text.filter fun c => !c.isNul) = false

/-- A scheme ends with a word, whatever the case of its letters. -/
def EndsWith (letters : String) (scheme : PyStr) : Prop :=
  ∃ start spelled, scheme = start ++ spelled ∧ Spells letters spelled

namespace Exposes

variable {text before scheme credential after : PyStr}

theorem text_eq (h : Exposes text before scheme credential after) :
    text.filter (fun c => !c.isNul) =
      headed before ++ space :: (scheme ++ space :: (credential ++ after)) := by
  rw [h.contains, headed]
  have hheader : PyStr.of "Authorization: " =
      PyStr.of "Authorization" ++ ([.scalar ':'] ++ [space]) := rfl
  rw [hheader]
  simp only [List.append_assoc, List.cons_append, List.nil_append]

theorem ne_nil (h : Exposes text before scheme credential after) : credential ≠ [] := by
  rintro rfl
  exact Nat.not_lt_zero _ h.long

theorem solid (h : Exposes text before scheme credential after) : Solid credential :=
  fun c hc => solid_of_ofSecret (h.secret c hc)

theorem space_not_mem (h : Exposes text before scheme credential after) :
    space ∉ credential := by
  intro hmem
  have hsolid := h.solid _ hmem
  cases hsolid

/-- The credential is at no other place. -/
theorem elsewhere (h : Exposes text before scheme credential after) :
    ¬ credential <:+: headed before ∧ ¬ credential <:+: scheme ∧ ¬ credential <:+: after := by
  have hpos := h.long
  have hplace : ∀ first second, text.filter (fun c => !c.isNul) = first ++ (credential ++ second) →
      first.length = before.length + 15 + scheme.length + 1 := by
    intro first second hsplit
    have hheader : (PyStr.of "Authorization: ").length = 15 := rfl
    rw [h.once first second hsplit]
    simp only [List.length_append, hheader, List.length_singleton]
    omega
  have hhead : (headed before).length = before.length + 14 := by
    have hheader : (PyStr.of "Authorization").length = 13 := rfl
    simp only [headed, List.length_append, hheader, List.length_singleton]
  constructor
  · rintro ⟨first, second, hsplit⟩
    have hlength := congrArg List.length hsplit
    have hfirst := hplace first
      (second ++ space :: (scheme ++ space :: (credential ++ after)))
      (by rw [h.text_eq, ← hsplit]; simp only [List.append_assoc])
    simp only [List.length_append] at hlength
    omega
  · constructor
    · rintro ⟨first, second, hsplit⟩
      have hlength := congrArg List.length hsplit
      have hfirst := hplace (headed before ++ space :: first)
        (second ++ space :: (credential ++ after))
        (by
          rw [h.text_eq]
          nth_rewrite 1 [← hsplit]
          simp only [List.append_assoc, List.cons_append])
      simp only [List.length_append, List.length_cons] at hlength hfirst
      omega
    · rintro ⟨first, second, hsplit⟩
      have hfirst := hplace
        (headed before ++ space :: (scheme ++ space :: (credential ++ first))) second
        (by
          rw [h.text_eq]
          nth_rewrite 1 [← hsplit]
          simp only [List.append_assoc, List.cons_append])
      simp only [List.length_append, List.length_cons] at hfirst
      omega

/-- When the credential is replaced, it is not left at all. -/
theorem not_infix_replaced (h : Exposes text before scheme credential after)
    {kept rest : PyStr} (hkept : credential <:+: kept → credential <:+: headed before)
    (hrest : credential <:+: rest → credential <:+: after) :
    ¬ credential <:+: kept ++ space :: (scheme ++ space :: (marker ++ rest)) := by
  intro hinfix
  rcases infix_append_cons h.space_not_mem hinfix with hhead | htail
  · exact h.elsewhere.1 (hkept hhead)
  · rcases infix_append_cons h.space_not_mem htail with hscheme | hmarked
    · exact h.elsewhere.2.1 hscheme
    · rcases h.unmarked.1 [] rest hmarked with hnil | hinfix'
      · exact h.ne_nil (List.infix_nil.mp hnil)
      · exact h.elsewhere.2.2 (hrest hinfix')

end Exposes

section Schemes

variable {text before scheme credential after : PyStr}

theorem letters_bearer : Letters "bearer" := by
  constructor
  · exact List.all_eq_true.mp (by decide)
  · decide

theorem letters_basic : Letters "basic" := by
  constructor
  · exact List.all_eq_true.mp (by decide)
  · decide

/-- After the header neither the colon nor the marker ends the word. -/
theorem last_of_headed {kept : PyStr}
    (hkept : Redacts inked marker (headed before) kept) :
    ∃ part z, kept = part ++ [z] ∧ (z = .scalar ':' ∨ z = .scalar '>') := by
  have hhead : (headed before).getLast? = some (.scalar ':') := by
    rw [headed, List.getLast?_concat]
  have hmarker : marker ≠ [] := by decide
  rcases List.eq_nil_or_concat kept with rfl | ⟨part, z, rfl⟩
  · rcases hkept.getLast? hmarker with hlast | hlast
    · rw [hhead] at hlast
      cases hlast
    · cases hlast
  · rw [List.concat_eq_append] at hkept ⊢
    use part, z
    constructor
    · rfl
    · have hlast := hkept.getLast? hmarker
      rw [hhead, List.getLast?_concat] at hlast
      rcases hlast with hlast | hlast
      · exact Or.inl (Option.some.inj hlast)
      · exact Or.inr (Option.some.inj hlast)

theorem not_endsWord {letters : String} {z : PyChar}
    (hz : z = .scalar ':' ∨ z = .scalar '>')
    (hletters : ∀ letter ∈ letters.toList, letter.isAlpha = true) : ¬ EndsWord letters z := by
  rintro ⟨letter, hlast, hletter⟩
  have halpha := hletters letter (List.mem_of_getLast? hlast)
  rcases hz with rfl | rfl
  · have hcolon : letter = ':' := (beq_iff_eq.mp hletter).symm
    rw [hcolon] at halpha
    cases halpha
  · have hcolon : letter = '>' := (beq_iff_eq.mp hletter).symm
    rw [hcolon] at halpha
    cases halpha

theorem solid_of_last {z : PyChar} (hz : z = .scalar ':' ∨ z = .scalar '>') :
    z.isSpace = false := by
  rcases hz with rfl | rfl
  · rfl
  · rfl

/-- The first two patterns replace what follows their words. -/
theorem credential_not_applied (h : Exposes text before scheme credential after)
    (hscheme : Solid scheme) (hends : EndsWith "bearer" scheme ∨ EndsWith "basic" scheme) :
    ¬ credential <:+: applied secretIntroductions (text.filter fun c => !c.isNul) := by
  have hapart := h.unmarked.1
  have hcolon : (PyChar.scalar ':') = .scalar ':' ∨ (PyChar.scalar ':') = .scalar '>' :=
    Or.inl rfl
  rw [h.text_eq]
  by_cases hbearer : EndsWith "bearer" scheme
  · rcases hbearer with ⟨start, spelled, rfl, hspelled⟩
    have hstart : Solid start := fun c hc => hscheme c (List.mem_append_left spelled hc)
    rcases credential_replaced letters_bearer rfl (not_endsWord hcolon letters_bearer.alpha)
      hstart hspelled h.secret h.ne_nil (before ++ PyStr.of "Authorization") after with
      ⟨kept, rest, hkept, hrest, heq⟩
    intro hinfix
    have hlater : credential <:+: applied secretIntroductions.tail
        (replaceMatches (findSecret (word "bearer" ++ spaced)) 0
          (headed before ++ space :: ((start ++ spelled) ++ space :: (credential ++ after)))) :=
      hinfix
    have hfirst := infix_of_applied hapart hlater
    rw [List.append_assoc, headed, heq] at hfirst
    have hnot := h.not_infix_replaced (hkept.infix_of hapart) fun hinfix' =>
      (hrest.infix_of hapart hinfix').trans (List.dropWhile_suffix ofSecret).isInfix
    rw [List.append_assoc] at hnot
    exact hnot hfirst
  · have hother : ∀ start spelled, scheme = start ++ spelled → ¬ Spells "bearer" spelled :=
      fun start spelled hsplit hspelled => hbearer ⟨start, spelled, hsplit, hspelled⟩
    rcases credential_kept letters_bearer rfl (not_endsWord hcolon letters_bearer.alpha) hscheme
      hother h.solid (before ++ PyStr.of "Authorization") after with
      ⟨kept, rest, hkept, hrest, heq⟩
    rcases last_of_headed hkept with ⟨part, z, rfl, hz⟩
    rcases hends.resolve_left hbearer with ⟨start, spelled, rfl, hspelled⟩
    have hstart : Solid start := fun c hc => hscheme c (List.mem_append_left spelled hc)
    rcases credential_replaced letters_basic (solid_of_last hz)
      (not_endsWord hz letters_basic.alpha) hstart hspelled h.secret h.ne_nil part rest with
      ⟨kept', rest', hkept', hrest', heq'⟩
    intro hinfix
    have hlater : credential <:+: applied (secretIntroductions.drop 2)
        (replaceMatches (findSecret (word "basic" ++ spaced)) 0
          (replaceMatches (findSecret (word "bearer" ++ spaced)) 0
            (headed before ++ space :: ((start ++ spelled) ++ space :: (credential ++ after))))) :=
      hinfix
    have hsecond := infix_of_applied hapart hlater
    rw [headed, heq, List.append_assoc start, heq'] at hsecond
    have hnot := h.not_infix_replaced
      (fun hinfix' => hkept.infix_of hapart (hkept'.infix_of hapart hinfix'))
      fun hinfix' => hrest.infix_of hapart
        ((hrest'.infix_of hapart hinfix').trans (List.dropWhile_suffix ofSecret).isInfix)
    rw [List.append_assoc] at hnot
    exact hnot hsecond

/-- A credential after such a scheme is not left. -/
theorem credential_redacted {urlsplit : PyStr → Option SplitUrl} (huser : FindsCarried urlsplit)
    (h : Exposes text before scheme credential after) (hscheme : Solid scheme)
    (hends : EndsWith "bearer" scheme ∨ EndsWith "basic" scheme) (maxChars : ℕ) :
    ¬ credential <:+: boundedTo maxChars
      (oneLine (redacted urlsplit (text.filter fun c => !c.isNul))) := by
  intro hinfix
  have hline := infix_of_boundedTo h.undotted hinfix
  have hvalue := infix_of_oneLine h.solid h.ne_nil hline
  rw [redacted_eq] at hvalue
  exact credential_not_applied h hscheme hends
    (infix_of_urls huser (quiet_applied h.quiet) h.unmarked.2 hvalue)

end Schemes

end SafeErrors

end ShemaPlatform
