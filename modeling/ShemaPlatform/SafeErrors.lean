/-
Texts of exceptions: what is kept of them, without credentials, and which texts the
database takes.
-/
import ShemaPlatform.Errors
import ShemaPlatform.PatternText
import ShemaPlatform.PyText

namespace ShemaPlatform

open PatternText

/-- A character of a `str`: a lone surrogate may be one. -/
inductive PyChar where
  | scalar (c : Char)
  | surrogate (unit : Fin 2048)
deriving DecidableEq

abbrev PyStr := List PyChar

namespace PyChar

def isSpace : PyChar → Bool
  | .scalar c => PyText.isSpace c
  | .surrogate _ => false

def isNul (c : PyChar) : Bool := c == .scalar '\x00'

/-- One of these characters. -/
def isOf (chars : String) : PyChar → Bool
  | .scalar c => chars.toList.contains c
  | .surrogate _ => false

/-- The ASCII letter that a character matches where case is ignored. -/
def folded (c : Char) : Char :=
  if c = 'ſ' then 's'
  else if c = '\u212A' then 'k'
  else if c = 'İ' ∨ c = 'ı' then 'i'
  else c.toLower

def isLetter (letter : Char) : PyChar → Bool
  | .scalar c => folded c == letter
  | .surrogate _ => false

end PyChar

namespace PyStr

def of (text : String) : PyStr := text.toList.map .scalar

/-- `not text.strip()` -/
def blank (text : PyStr) : Bool := text.all PyChar.isSpace

/-- `text.encode()` -/
def encode : PyStr → Except Failure (List Char)
  | [] => .ok []
  | .scalar c :: rest => do
      let tail ← encode rest
      return c :: tail
  | .surrogate _ :: _ =>
      .error (.valueError "'utf-8' codec can't encode character: surrogates not allowed")

/-- A text as a parameter of a statement. -/
def stored (text : PyStr) : Except Failure String := do
  require (!text.any PyChar.isNul)
    (.valueError "PostgreSQL text fields cannot contain NUL (0x00) bytes")
  let chars ← encode text
  return String.ofList chars

end PyStr

/-- What `urlsplit` finds in a URL; there is no port where reading it raises. -/
structure SplitUrl where
  scheme : PyStr
  path : PyStr
  query : PyStr
  fragment : PyStr
  username : Option PyStr
  password : Option PyStr
  hostname : Option PyStr
  port : Option (Option ℕ)

namespace SafeErrors

/-- The letters of a word, whatever their case. -/
def word (letters : String) : List (Item PyChar) :=
  letters.toList.map fun letter => .one (PyChar.isLetter letter)

/-- `\s*[:=]\s*` -/
def assigned : List (Item PyChar) :=
  [.many PyChar.isSpace, .one (PyChar.isOf ":="), .many PyChar.isSpace]

/-- `\s+` -/
def spaced : List (Item PyChar) := [.one PyChar.isSpace, .many PyChar.isSpace]

/-- `[^\s,;]` -/
def ofSecret (c : PyChar) : Bool := !(c.isSpace || c.isOf ",;")

/-- What introduces a secret, in `_SECRET_PATTERNS`. -/
def secretIntroductions : List (List (Item PyChar)) :=
  [word "bearer" ++ spaced,
    word "basic" ++ spaced,
    word "authorization" ++ assigned,
    word "token" ++ spaced,
    word "api" ++ .optional (PyChar.isOf "-_ ") :: word "key" ++ assigned,
    word "secret" ++ assigned,
    word "password" ++ assigned,
    word "client" ++ .one (PyChar.isOf "_") :: word "secret" ++ assigned]

/-- A secret with its introduction, and what replaces them. -/
def findSecret (introduction : List (Item PyChar)) (text : PyStr) : Option (PyStr × ℕ) := do
  let length ← matched introduction text
  let secret ← matched [.one ofSecret, .many ofSecret] (text.drop length)
  return (text.take length ++ PyStr.of "<redacted>", length + secret)

/-- `https?://[^\s]+` -/
def url : List (Item PyChar) :=
  let exactly (c : Char) : Item PyChar := .one (PyChar.isOf (String.ofList [c]))
  let rest (c : PyChar) : Bool := !c.isSpace
  "http".toList.map exactly ++ .optional (PyChar.isOf "s") :: "://".toList.map exactly ++
    [.one rest, .many rest]

/-- `urlunsplit` of a URL whose scheme goes with a host. -/
def urlunsplit (scheme netloc path query fragment : PyStr) : PyStr :=
  let rooted := if path.isEmpty || path.head? == some (.scalar '/') then path
    else .scalar '/' :: path
  let located :=
    if !netloc.isEmpty || (!scheme.isEmpty && path.take 2 != PyStr.of "//") then
      PyStr.of "//" ++ netloc ++ rooted
    else path
  let schemed := if scheme.isEmpty then located else scheme ++ .scalar ':' :: located
  let queried := if query.isEmpty then schemed else schemed ++ .scalar '?' :: query
  if fragment.isEmpty then queried else queried ++ .scalar '#' :: fragment

variable (urlsplit : PyStr → Option SplitUrl)

/-- `redact_url` -/
def redactUrl (raw : PyStr) : PyStr :=
  let redacted : Option PyStr := do
    let parsed ← urlsplit raw
    if parsed.username.isNone && parsed.password.isNone then
      return raw
    else do
      let port ← parsed.port
      let netloc := parsed.hostname.getD [] ++
        (port.elim [] fun port => PyStr.of s!":{port}")
      return urlunsplit parsed.scheme netloc parsed.path parsed.query parsed.fragment
  redacted.getD (PyStr.of "<redacted-url>")

def findUrl (text : PyStr) : Option (PyStr × ℕ) := do
  let length ← matched url text
  return (redactUrl urlsplit (text.take length), length)

/-- The text without credentials. -/
def redacted (value : PyStr) : PyStr :=
  let value := secretIntroductions.foldl (fun value introduction =>
    replaceMatches (findSecret introduction) 0 value) value
  replaceMatches (findUrl urlsplit) 0 value

/-- `" ".join(value.split())` -/
def oneLine (value : PyStr) : PyStr :=
  (PyStr.of " ").intercalate (words PyChar.isSpace value)

def maxErrorChars : ℕ := 1024

def bounded (value : PyStr) : PyStr :=
  if maxErrorChars < value.length then value.take (maxErrorChars - 3) ++ PyStr.of "..."
  else value

/-- `safe_error_detail` of the text of an exception. -/
def safeErrorDetail (error : PyStr) : PyStr :=
  bounded (oneLine (redacted urlsplit (error.filter fun c => !c.isNul)))

section Blank

variable {urlsplit} {text : PyStr}

/-- Not whitespace. -/
def inked (c : PyChar) : Bool := !c.isSpace

theorem blank_eq (text : PyStr) : text.blank = !text.any inked := by
  rw [PyStr.blank, List.all_eq_not_any_not]
  rfl

theorem any_of_take {length : ℕ} (h : (text.take length).any inked = true) :
    text.any inked = true := by
  rw [List.any_eq_true] at h ⊢
  obtain ⟨c, hmem, hc⟩ := h
  exact ⟨c, List.mem_of_mem_take hmem, hc⟩

theorem any_of_drop {length : ℕ} (h : (text.drop length).any inked = true) :
    text.any inked = true := by
  rw [List.any_eq_true] at h ⊢
  obtain ⟨c, hmem, hc⟩ := h
  exact ⟨c, List.mem_of_mem_drop hmem, hc⟩

/-- A match that starts with a character that is not whitespace. -/
theorem any_take_of_matched {accepts : PyChar → Bool} {items : List (Item PyChar)}
    {length : ℕ} (haccepts : ∀ c, accepts c = true → inked c = true)
    (h : matched (.one accepts :: items) text = some length) :
    (text.take length).any inked = true := by
  cases text with
  | nil => cases h
  | cons c rest =>
      by_cases hc : accepts c = true
      · simp only [matched, Item.takes, hc, ↓reduceIte, Option.bind_eq_bind, Option.bind_some,
          Option.bind_eq_some_iff, Option.pure_def, Option.some.injEq] at h
        obtain ⟨others, _, rfl⟩ := h
        rw [Nat.add_comm, List.take_succ_cons, List.any_cons, haccepts c hc, Bool.true_or]
      · simp [matched, Item.takes, hc] at h

theorem any_findSecret {introduction : List (Item PyChar)} {replaced : PyStr} {length : ℕ}
    (h : findSecret introduction text = some (replaced, length)) :
    text.any inked = true ∧ replaced.any inked = true := by
  simp only [findSecret, Option.bind_eq_bind, Option.bind_eq_some_iff, Option.pure_def,
    Option.some.injEq, Prod.mk.injEq] at h
  obtain ⟨introduced, _, secret, hsecret, rfl, _⟩ := h
  constructor
  · apply any_of_drop (any_of_take (any_take_of_matched _ hsecret))
    intro c hc
    simp only [ofSecret, Bool.not_eq_true', Bool.or_eq_false_iff] at hc
    simp [inked, hc.1]
  · rw [List.any_append, Bool.or_eq_true]
    exact Or.inr rfl

theorem any_urlunsplit {scheme netloc path query fragment : PyStr}
    (h : scheme.any inked = true) :
    (urlunsplit scheme netloc path query fragment).any inked = true := by
  have hscheme : scheme.isEmpty = false := by
    cases scheme with
    | nil => cases h
    | cons c rest => rfl
  have hschemed : ∀ located : PyStr,
      (scheme ++ .scalar ':' :: located).any inked = true := by
    intro located
    rw [List.any_append, h, Bool.true_or]
  simp only [urlunsplit, hscheme, Bool.false_eq_true, ↓reduceIte]
  split_ifs <;> simp [List.any_append, h]

/-- A URL that `urlsplit` accepts has a scheme. -/
def HasScheme (urlsplit : PyStr → Option SplitUrl) : Prop :=
  ∀ text length parsed, matched url text = some length →
    urlsplit (text.take length) = some parsed → parsed.scheme.blank = false

theorem any_findUrl (hscheme : HasScheme urlsplit) {replaced : PyStr} {length : ℕ}
    (h : findUrl urlsplit text = some (replaced, length)) :
    text.any inked = true ∧ replaced.any inked = true := by
  simp only [findUrl, Option.bind_eq_bind, Option.bind_eq_some_iff, Option.pure_def,
    Option.some.injEq, Prod.mk.injEq] at h
  obtain ⟨taken, hmatched, rfl, _⟩ := h
  have hraw : (text.take taken).any inked = true := by
    apply any_take_of_matched _ hmatched
    intro c hc
    cases c with
    | scalar c =>
        simp [PyChar.isOf] at hc
        subst hc
        rfl
    | surrogate unit => rfl
  constructor
  · exact any_of_take hraw
  · rw [redactUrl]
    cases hsplit : urlsplit (text.take taken) with
    | none => rfl
    | some parsed =>
        have hparsed := hscheme text taken parsed hmatched hsplit
        rw [blank_eq, Bool.not_eq_false'] at hparsed
        simp only [Option.bind_eq_bind, Option.bind_some, Option.pure_def]
        split
        · exact hraw
        · cases parsed.port with
          | none => rfl
          | some port => exact any_urlunsplit hparsed

theorem any_redacted (hscheme : HasScheme urlsplit) (value : PyStr) :
    (redacted urlsplit value).any inked = value.any inked := by
  rw [redacted, any_replaceMatches fun _ _ _ => any_findUrl hscheme, List.drop_zero]
  induction secretIntroductions generalizing value with
  | nil => rfl
  | cons introduction rest ih =>
      rw [List.foldl_cons, ih, any_replaceMatches fun _ _ _ => any_findSecret, List.drop_zero]

theorem any_oneLine (value : PyStr) : (oneLine value).any inked = value.any inked := by
  have hspace : (PyStr.of " ").any inked = false := rfl
  rw [oneLine, any_intercalate hspace, flatten_words, List.any_filter]
  simp only [inked, Bool.and_self]
  rfl

/-- A line that is cut is not blank, and was not. -/
theorem any_bounded (value : PyStr) :
    (bounded (oneLine value)).any inked = (oneLine value).any inked := by
  rw [bounded]
  split
  · rename_i hlong
    have hdots : (PyStr.of "...").any inked = true := rfl
    rw [List.any_append, hdots, Bool.or_true, any_oneLine]
    by_contra hblank
    rw [oneLine, words_eq_nil (Bool.eq_false_iff.mpr (Ne.symm hblank))] at hlong
    simp [List.intercalate] at hlong
  · rfl

/-- What is kept of a text is blank only where there is nothing to keep. -/
theorem blank_safeErrorDetail (hscheme : HasScheme urlsplit) (error : PyStr) :
    (safeErrorDetail urlsplit error).blank = error.all fun c => c.isSpace || c.isNul := by
  rw [blank_eq, safeErrorDetail, any_bounded, any_oneLine, any_redacted hscheme,
    List.any_filter, List.not_any_eq_all_not]
  congr 1
  funext c
  simp [inked, Bool.or_comm]

example : safeErrorDetail (fun _ => none) (PyStr.of "api key = 123,  TOKEN x\n") =
    PyStr.of "api key = <redacted>, TOKEN <redacted>" := by
  decide

end Blank

end SafeErrors

end ShemaPlatform
