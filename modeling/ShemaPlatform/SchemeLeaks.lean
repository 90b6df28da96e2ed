/-
After which schemes a credential is redacted: after any other one, the pattern for the header
takes the scheme for the secret.
-/
import ShemaPlatform.CredentialRedaction

namespace ShemaPlatform

open PatternText

namespace SafeErrors

/-- A credential that no scheme has. -/
def fill (count : ℕ) : PyStr := List.replicate count (.scalar 'x')

/-- A header with a scheme and such a credential. -/
def header (scheme : PyStr) (count : ℕ) : PyStr :=
  PyStr.of "Authorization: " ++ (scheme ++ space :: fill count)

/-- What is made of it. -/
def leaked (count : ℕ) : PyStr :=
  PyStr.of "Authorization: <redacted> " ++ fill count

section Passes

variable {introduction : List (Item PyChar)} {scheme : PyStr} {count : ℕ}

theorem findSecret_fill (h : introduction ∈ secretIntroductions) (rest : PyStr) :
    findSecret introduction (.scalar 'x' :: rest) = none := by
  simp only [secretIntroductions, List.mem_cons, List.not_mem_nil, or_false] at h
  rcases h with rfl | rfl | rfl | rfl | rfl | rfl | rfl | rfl <;> rfl

theorem pass_fill (h : introduction ∈ secretIntroductions) (count : ℕ) :
    replaceMatches (findSecret introduction) 0 (fill count) = fill count := by
  induction count with
  | zero => rfl
  | succ count ih =>
      rw [fill, List.replicate_succ, replaceMatches_none (findSecret_fill h _)]
      rw [fill] at ih
      rw [ih]

theorem pass_spaced (h : introduction ∈ secretIntroductions) (count : ℕ) :
    replaceMatches (findSecret introduction) 0 (space :: fill count) = space :: fill count := by
  have hspace : findSecret introduction (space :: fill count) = none := by
    simp only [secretIntroductions, List.mem_cons, List.not_mem_nil, or_false] at h
    rcases h with rfl | rfl | rfl | rfl | rfl | rfl | rfl | rfl <;> rfl
  rw [replaceMatches_none hspace, pass_fill h]

/-- A pattern after that for the header finds no secret. -/
theorem pass_leaked (h : introduction ∈ secretIntroductions.drop 3) (count : ℕ) :
    replaceMatches (findSecret introduction) 0 (leaked count) = leaked count := by
  have hliteral : replaceMatches (findSecret introduction) 0
      (PyStr.of "Authorization: <redacted> " ++ fill count) =
        PyStr.of "Authorization: <redacted> " ++
          replaceMatches (findSecret introduction) 0 (fill count) := by
    simp only [secretIntroductions, List.drop, List.mem_cons, List.not_mem_nil, or_false] at h
    rcases h with rfl | rfl | rfl | rfl | rfl <;> rfl
  rw [leaked, hliteral, pass_fill (List.mem_of_mem_drop h)]

theorem pass_urls (urlsplit : PyStr → Option SplitUrl) (count : ℕ) :
    replaceMatches (findUrl urlsplit) 0 (leaked count) = leaked count := by
  have hfill : replaceMatches (findUrl urlsplit) 0 (fill count) = fill count := by
    induction count with
    | zero => rfl
    | succ count ih =>
        have hnone : findUrl urlsplit (.scalar 'x' :: fill count) = none := rfl
        rw [fill] at ih hnone
        rw [fill, List.replicate_succ, replaceMatches_none hnone, ih]
  have hliteral : replaceMatches (findUrl urlsplit) 0
      (PyStr.of "Authorization: <redacted> " ++ fill count) =
        PyStr.of "Authorization: <redacted> " ++
          replaceMatches (findUrl urlsplit) 0 (fill count) := rfl
  rw [leaked, hliteral, hfill]

/-- The patterns of the words find nothing when the scheme ends otherwise. -/
theorem pass_scheme {letters : String} (hletters : Letters letters)
    (h : word letters ++ spaced ∈ secretIntroductions) (hscheme : Solid scheme)
    (hends : ¬ EndsWith letters scheme)
    (hliteral : ∀ rest, replaceMatches (findSecret (word letters ++ spaced)) 0
      (PyStr.of "Authorization: " ++ rest) = PyStr.of "Authorization: " ++
        replaceMatches (findSecret (word letters ++ spaced)) 0 rest) :
    replaceMatches (findSecret (word letters ++ spaced)) 0 (header scheme count) =
      header scheme count := by
  have hnone : ∀ before rest, scheme ++ [space] = before ++ rest → rest ≠ [] →
      findSecret (word letters ++ spaced) (rest ++ fill count) = none := by
    intro before rest hsplit hne
    exact none_in_token hletters hscheme
      (fun start spelled heq hspelled => hends ⟨start, spelled, heq, hspelled⟩) hsplit hne
  have hskip := replaceMatches_append_none (scheme ++ [space]) (fill count) hnone
  rw [List.append_assoc, List.singleton_append, pass_fill h] at hskip
  rw [header, hliteral, hskip, List.append_assoc, List.singleton_append]

/-- The pattern for the header takes the scheme. -/
theorem pass_header (hsecret : ∀ c ∈ scheme, ofSecret c = true) (hne : scheme ≠ []) :
    replaceMatches (findSecret (word "authorization" ++ assigned)) 0 (header scheme count) =
      leaked count := by
  have hmem : word "authorization" ++ assigned ∈ secretIntroductions :=
    List.mem_cons_of_mem _ (List.mem_cons_of_mem _ List.mem_cons_self)
  have hmatched : matched (word "authorization" ++ assigned) (header scheme count) =
      some 15 := by
    have hheader : header scheme count = PyStr.of "Authorization" ++
        (.scalar ':' :: space :: (scheme ++ space :: fill count)) := rfl
    have hletters : matched (word "authorization") (PyStr.of "Authorization" ++
        (.scalar ':' :: space :: (scheme ++ space :: fill count))) = some 13 := rfl
    have hdrop : (PyStr.of "Authorization" ++ (.scalar ':' :: space ::
        (scheme ++ space :: fill count))).drop 13 =
          .scalar ':' :: space :: (scheme ++ space :: fill count) := rfl
    have hrest : matched assigned (.scalar ':' :: space :: (scheme ++ space :: fill count)) =
        some 2 := by
      cases scheme with
      | nil => exact absurd rfl hne
      | cons c rest =>
          have hc := solid_of_ofSecret (hsecret c List.mem_cons_self)
          have hspace : space.isSpace = true := rfl
          have hcolon : (PyChar.scalar ':').isSpace = false := rfl
          have hassigned : PyChar.isOf ":=" (.scalar ':') = true := rfl
          simp [assigned, matched, Item.takes, hc, hspace, hcolon, hassigned]
    rw [hheader, matched_append, hletters, Option.bind_some, hdrop, hrest]
    rfl
  have hdrop : (header scheme count).drop 15 = scheme ++ space :: fill count := rfl
  have hrun : (scheme ++ space :: fill count).takeWhile ofSecret = scheme := by
    rw [List.takeWhile_append_of_pos hsecret, List.takeWhile_cons_of_neg (by decide),
      List.append_nil]
  have hfound : findSecret (word "authorization" ++ assigned) (header scheme count) =
      some (PyStr.of "Authorization: " ++ marker, 15 + scheme.length) := by
    rw [findSecret_eq_some]
    use 15
    rw [hdrop, hrun]
    constructor
    · exact hmatched
    · constructor
      · exact fun hnil => hne (List.length_eq_zero_iff.mp hnil)
      · exact ⟨rfl, rfl⟩
  have hpos : 0 < 15 + scheme.length := by omega
  have htext : header scheme count ≠ [] := List.cons_ne_nil _ _
  rw [replaceMatches_found hpos htext hfound, ← List.drop_drop, hdrop, List.drop_left,
    pass_spaced hmem]
  rfl

theorem applied_cons (introduction : List (Item PyChar))
    (introductions : List (List (Item PyChar))) (value : PyStr) :
    applied (introduction :: introductions) value =
      applied introductions (replaceMatches (findSecret introduction) 0 value) :=
  rfl

theorem applied_leaked {introductions : List (List (Item PyChar))}
    (h : ∀ introduction ∈ introductions, introduction ∈ secretIntroductions.drop 3) :
    applied introductions (leaked count) = leaked count := by
  induction introductions with
  | nil => rfl
  | cons introduction others ih =>
      rw [applied_cons, pass_leaked (h introduction List.mem_cons_self)]
      exact ih fun other hother => h other (List.mem_cons_of_mem introduction hother)

/-- All the patterns leave the credential. -/
theorem applied_header (hsecret : ∀ c ∈ scheme, ofSecret c = true) (hne : scheme ≠ [])
    (hbearer : ¬ EndsWith "bearer" scheme) (hbasic : ¬ EndsWith "basic" scheme) :
    applied secretIntroductions (header scheme count) = leaked count := by
  have hsolid : Solid scheme := fun c hc => solid_of_ofSecret (hsecret c hc)
  have hbearerPass : replaceMatches (findSecret (word "bearer" ++ spaced)) 0
      (header scheme count) = header scheme count :=
    pass_scheme letters_bearer List.mem_cons_self hsolid hbearer fun rest => rfl
  have hbasicPass : replaceMatches (findSecret (word "basic" ++ spaced)) 0
      (header scheme count) = header scheme count :=
    pass_scheme letters_basic (List.mem_cons_of_mem _ List.mem_cons_self) hsolid hbasic
      fun rest => rfl
  have hlist : secretIntroductions = (word "bearer" ++ spaced) :: (word "basic" ++ spaced) ::
      (word "authorization" ++ assigned) :: secretIntroductions.drop 3 := rfl
  rw [hlist, applied_cons, hbearerPass, applied_cons, hbasicPass, applied_cons,
    pass_header hsecret hne]
  exact applied_leaked fun introduction hmem => hmem

theorem oneLine_leaked (hcount : 0 < count) : oneLine (leaked count) = leaked count := by
  have hfirst : ∀ c ∈ PyStr.of "Authorization:", c.isSpace = false := by decide
  have hsecond : ∀ c ∈ PyStr.of "<redacted>", c.isSpace = false := by decide
  have hthird : ∀ c ∈ fill count, c.isSpace = false := by
    intro c hc
    rw [List.eq_of_mem_replicate hc]
    rfl
  have hsplit : (leaked count).splitOnP PyChar.isSpace =
      [PyStr.of "Authorization:", PyStr.of "<redacted>", fill count] := by
    have hleaked : leaked count = PyStr.of "Authorization:" ++ space ::
        (PyStr.of "<redacted>" ++ space :: fill count) := rfl
    rw [hleaked, List.splitOnP_append_cons_of_forall_mem hfirst space rfl,
      List.splitOnP_append_cons_of_forall_mem hsecond space rfl,
      List.splitOnP_eq_singleton hthird]
  have hfill : (fill count).isEmpty = false := by
    cases count with
    | zero => cases hcount
    | succ count => rfl
  have hwords : words PyChar.isSpace (leaked count) =
      [PyStr.of "Authorization:", PyStr.of "<redacted>", fill count] := by
    rw [words, hsplit, List.filter_eq_self]
    intro word hmem
    simp only [List.mem_cons, List.not_mem_nil, or_false] at hmem
    rcases hmem with rfl | rfl | rfl
    · rfl
    · rfl
    · rw [hfill]
      rfl
  rw [oneLine, hwords, List.intercalate_cons_cons, List.intercalate_cons_cons,
    List.intercalate_singleton]
  rfl

end Passes

section Exposed

variable {scheme : PyStr} {count : ℕ}

/-- A word without whitespace, comma or semicolon, and without a URL that carries a user. -/
structure Word (scheme : PyStr) : Prop where
  named : scheme ≠ []
  secret : ∀ c ∈ scheme, ofSecret c = true
  printed : ∀ c ∈ scheme, c.isNul = false
  quiet : carriesUser scheme = false

theorem once_header {first second : PyStr} (hcount : scheme.length + 16 ≤ count)
    (h : header scheme count = first ++ (fill count ++ second)) :
    first = PyStr.of "Authorization: " ++ (scheme ++ [space]) := by
  have hheader : header scheme count =
      (PyStr.of "Authorization: " ++ (scheme ++ [space])) ++ fill count := by
    simp only [header, List.append_assoc, List.singleton_append]
  have hlength : (PyStr.of "Authorization: " ++ (scheme ++ [space])).length =
      scheme.length + 16 := by
    have hliteral : (PyStr.of "Authorization: ").length = 15 := rfl
    rw [List.length_append, List.length_append, hliteral, List.length_singleton]
    omega
  have hfill : (fill count).length = count := List.length_replicate
  have hsum := congrArg List.length h
  have hparts := hlength
  rw [hheader] at hsum
  simp only [List.length_append] at hsum hparts
  rcases Nat.lt_or_ge first.length (scheme.length + 16) with hless | hge
  · -- the space in front of the credential would be one of its characters
    have hspace : (header scheme count)[scheme.length + 15]? = some space := by
      have hplace := getElem?_space (PyStr.of "Authorization: " ++ scheme) (fill count)
      have hliteral : (PyStr.of "Authorization: " ++ scheme).length = scheme.length + 15 :=
        (List.length_append).trans (Nat.add_comm _ _)
      rwa [hliteral, List.append_assoc] at hplace
    rw [h, List.getElem?_append_right (by omega), List.getElem?_append_left (by omega),
      fill, List.getElem?_replicate] at hspace
    split at hspace
    · cases hspace
    · cases hspace
  · rw [hheader] at h
    exact (List.append_inj h (by omega)).1.symm

theorem quiet_fill (count : ℕ) : carriesUser (fill count) = false := by
  induction count with
  | zero => rfl
  | succ count ih =>
      rw [fill] at ih
      rw [fill, List.replicate_succ, carriesUser, ih]
      rfl

theorem quiet_header (hscheme : Word scheme) : carriesUser (header scheme count) = false := by
  have hliteral : carriesUser (header scheme count) =
      carriesUser (scheme ++ space :: fill count) := rfl
  have hquiet := hscheme.quiet
  have hsecret := hscheme.secret
  rw [hliteral, Bool.eq_false_iff]
  rw [Bool.eq_false_iff] at hquiet
  intro hcarries
  apply hquiet
  clear hquiet hliteral hscheme
  induction scheme with
  | nil =>
      have hspaced : carriesUser ([] ++ space :: fill count) = carriesUser (fill count) := rfl
      rw [hspaced, quiet_fill] at hcarries
      cases hcarries
  | cons c rest ih =>
      have hinked : ∀ d ∈ rest, inked d = true := by
        intro d hd
        rw [inked, solid_of_ofSecret (hsecret d (List.mem_cons_of_mem c hd))]
        rfl
      have hword : (rest ++ space :: fill count).takeWhile inked = rest.takeWhile inked := by
        rw [List.takeWhile_append_of_pos hinked, List.takeWhile_cons_of_neg (by decide),
          List.append_nil, List.takeWhile_eq_self_iff.mpr hinked]
      rw [List.cons_append, carriesUser, hword, Bool.or_eq_true, Bool.and_eq_true] at hcarries
      rw [carriesUser, Bool.or_eq_true, Bool.and_eq_true]
      rcases hcarries with ⟨hstart, huser⟩ | hrest
      · left
        constructor
        · rw [List.isPrefixOf_iff_prefix] at hstart ⊢
          rw [← List.cons_append] at hstart
          exact prefix_append_cons (by decide) hstart
        · exact huser
      · exact Or.inr (ih (fun d hd => hsecret d (List.mem_cons_of_mem c hd)) hrest)

theorem printed_header (hscheme : Word scheme) :
    (header scheme count).filter (fun c => !c.isNul) = header scheme count := by
  rw [List.filter_eq_self]
  intro c hc
  have hliteral : ∀ d ∈ PyStr.of "Authorization: ", (!d.isNul) = true := by decide
  rcases List.mem_append.mp hc with hc | hc
  · exact hliteral c hc
  · rcases List.mem_append.mp hc with hc | hc
    · rw [hscheme.printed c hc]
      rfl
    · rcases List.mem_cons.mp hc with rfl | hc
      · rfl
      · rw [List.eq_of_mem_replicate hc]
        rfl

/-- The header exposes its credential, when that is long enough. -/
theorem exposes_header (hscheme : Word scheme) (hcount : scheme.length + 16 ≤ count) :
    Exposes (header scheme count) [] scheme (fill count) [] := by
  have hfill : ∀ {text : PyStr}, .scalar 'x' ∉ text → ∀ c ∈ fill count, c ∉ text := by
    intro text htext c hc
    rwa [List.eq_of_mem_replicate hc]
  have hne : fill count ≠ [] := by
    rw [fill, Ne, List.replicate_eq_nil_iff]
    omega
  constructor
  · rw [printed_header hscheme, List.append_nil]
    rfl
  · intro c hc
    rw [List.eq_of_mem_replicate hc]
    rfl
  · rw [fill, List.length_replicate]
    omega
  · intro first second h
    rw [printed_header hscheme] at h
    exact once_header hcount h
  · constructor
    · exact apart_of_disjoint (by decide) (hfill (by decide))
    · exact apart_of_disjoint (by decide) (hfill (by decide))
  · intro start h
    have hdots : PyStr.of "..." ≠ [] := by decide
    rcases apart_of_disjoint hdots (hfill (by decide)) start [] (by simpa using h) with
      hstart | hnil
    · exact hstart
    · exact absurd (List.infix_nil.mp hnil) hne
  · rw [printed_header hscheme]
    exact quiet_header hscheme

/-- A credential after any other scheme is left. -/
theorem detail_header (urlsplit : PyStr → Option SplitUrl) (hscheme : Word scheme)
    (hbearer : ¬ EndsWith "bearer" scheme) (hbasic : ¬ EndsWith "basic" scheme) {maxChars : ℤ}
    (hmax : 64 ≤ maxChars) (hroom : (leaked count).length ≤ maxChars.toNat) (hcount : 0 < count) :
    safeErrorDetailWithin urlsplit maxChars (header scheme count) = .ok (leaked count) := by
  rw [safeErrorDetailWithin, if_neg (by omega), printed_header hscheme, redacted_eq,
    applied_header hscheme.secret hscheme.named hbearer hbasic, pass_urls,
    oneLine_leaked hcount, boundedTo, if_neg (by omega)]

theorem fill_infix_leaked (count : ℕ) : fill count <:+: leaked count :=
  (List.suffix_append _ _).isInfix

end Exposed

/-- In every text that has a header with the scheme, a credential that keeps apart from what is
written in place of another is redacted exactly when the scheme ends with one of two words. -/
theorem credential_redacted_iff (urlsplit : PyStr → Option SplitUrl)
    (huser : FindsCarried urlsplit) (scheme : PyStr) (hscheme : Word scheme) :
    (∀ (text before credential after : PyStr) (maxChars : ℤ),
      Exposes text before scheme credential after → 64 ≤ maxChars →
        ∃ detail, safeErrorDetailWithin urlsplit maxChars text = .ok detail ∧
          ¬ credential <:+: detail ∧ (detail.length : ℤ) ≤ maxChars) ↔
      EndsWith "bearer" scheme ∨ EndsWith "basic" scheme := by
  constructor
  · intro h
    by_contra hends
    rw [not_or] at hends
    rcases h (header scheme (scheme.length + 16)) [] (fill (scheme.length + 16)) []
      (64 + (leaked (scheme.length + 16)).length) (exposes_header hscheme (Nat.le_refl _))
      (by omega) with ⟨detail, hdetail, hnot, _⟩
    have hroom : (leaked (scheme.length + 16)).length ≤
        (64 + ((leaked (scheme.length + 16)).length : ℤ)).toNat := by
      omega
    rw [detail_header urlsplit hscheme hends.1 hends.2 (by omega) hroom
      (Nat.succ_pos _)] at hdetail
    cases hdetail
    exact hnot (fill_infix_leaked _)
  · intro hends text before credential after maxChars hexposes hmax
    have hdetail : safeErrorDetailWithin urlsplit maxChars text =
        .ok (boundedTo maxChars.toNat
          (oneLine (redacted urlsplit (text.filter fun c => !c.isNul)))) := by
      rw [safeErrorDetailWithin, if_neg (by omega)]
    have hsolid : Solid scheme := fun c hc => solid_of_ofSecret (hscheme.secret c hc)
    have hlength : (boundedTo maxChars.toNat (oneLine (redacted urlsplit
        (text.filter fun c => !c.isNul)))).length ≤ maxChars.toNat :=
      length_boundedTo (by omega)
    use boundedTo maxChars.toNat (oneLine (redacted urlsplit (text.filter fun c => !c.isNul)))
    constructor
    · exact hdetail
    · constructor
      · exact credential_redacted huser hexposes hsolid hends maxChars.toNat
      · omega

section Samples

theorem word_bearer : Word (PyStr.of "Bearer") := by
  constructor <;> decide

theorem word_token : Word (PyStr.of "Token") := by
  constructor <;> decide

theorem endsWith_bearer : EndsWith "bearer" (PyStr.of "Bearer") := by
  use [], PyStr.of "Bearer"
  constructor
  · rfl
  · unfold Spells
    decide

theorem token_otherwise :
    ¬ EndsWith "bearer" (PyStr.of "Token") ∧ ¬ EndsWith "basic" (PyStr.of "Token") := by
  constructor
  · rintro ⟨start, spelled, hsplit, hspelled⟩
    have hlength := congrArg List.length hsplit
    have hsix : 6 = spelled.length := List.Forall₂.length_eq hspelled
    have hfive : (PyStr.of "Token").length = 5 := rfl
    rw [List.length_append, hfive] at hlength
    omega
  · rintro ⟨start, spelled, hsplit, hspelled⟩
    have hlength := congrArg List.length hsplit
    have hfive : 5 = spelled.length := List.Forall₂.length_eq hspelled
    have htoken : (PyStr.of "Token").length = 5 := rfl
    rw [List.length_append, htoken] at hlength
    have hstart : start = [] := List.length_eq_zero_iff.mp (by omega)
    rw [hstart, List.nil_append] at hsplit
    rw [← hsplit] at hspelled
    exact absurd hspelled (by unfold Spells; decide)

/-- No text is split. -/
def unsplit (_ : PyStr) : Option SplitUrl :=
  none

theorem findsCarried_unsplit : FindsCarried unsplit := by
  intro text length parsed _ hparsed
  cases hparsed

/-- A credential after `Bearer` is redacted. -/
theorem credential_redacted_iff_bearer :
    ∃ detail, safeErrorDetailWithin unsplit 1024 (header (PyStr.of "Bearer") 22) = .ok detail ∧
      ¬ fill 22 <:+: detail ∧ (detail.length : ℤ) ≤ 1024 :=
  (credential_redacted_iff unsplit findsCarried_unsplit (PyStr.of "Bearer") word_bearer).mpr
    (Or.inl endsWith_bearer) (header (PyStr.of "Bearer") 22) [] (fill 22) [] 1024
    (exposes_header word_bearer (Nat.le_refl 22)) (by decide)

/-- One after `Token` is not. -/
theorem token_credential_left :
    ¬ ∀ (urlsplit : PyStr → Option SplitUrl), FindsCarried urlsplit →
      ∀ (text before scheme credential after : PyStr) (maxChars : ℤ), Word scheme →
        Exposes text before scheme credential after → 64 ≤ maxChars →
          ∃ detail, safeErrorDetailWithin urlsplit maxChars text = .ok detail ∧
            ¬ credential <:+: detail ∧ (detail.length : ℤ) ≤ maxChars := by
  intro h
  rcases h unsplit findsCarried_unsplit (header (PyStr.of "Token") 21) [] (PyStr.of "Token")
    (fill 21) [] 1024 word_token (exposes_header word_token (Nat.le_refl 21)) (by decide) with
    ⟨detail, hdetail, hnot, _⟩
  rw [detail_header unsplit word_token token_otherwise.1 token_otherwise.2 (by decide)
    (by decide) (by decide)] at hdetail
  cases hdetail
  exact hnot (fill_infix_leaked 21)

end Samples

end SafeErrors

end ShemaPlatform
