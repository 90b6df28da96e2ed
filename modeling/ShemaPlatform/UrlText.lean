/-
`urllib.parse.urlsplit` on code points: the parts of a URL, the host and the port of its
network location, and what splitting a URL that is put together from such parts gives back.
-/
import Mathlib.Data.List.DropRight
import Mathlib.Data.List.TakeWhile
import ShemaPlatform.DigitText
import ShemaPlatform.PyUnicode

namespace UrlText

/-- What comes before the first separator, and what comes after it. -/
def partition (separator : Char) (text : List Char) : List Char × List Char :=
  (text.takeWhile (· != separator), (text.dropWhile (· != separator)).drop 1)

/-- Which network locations pass the checks of a bracketed host and of the characters that
Unicode normalisation leads to. -/
structure NetlocChecks where
  bracketed : List Char → Bool
  normalized : List Char → Bool

/-- `SplitResult` -/
structure Parts where
  scheme : List Char
  netloc : List Char
  path : List Char
  query : List Char
  fragment : List Char
deriving DecidableEq

/-- A control character or a space, which a URL is stripped of at its start. -/
def isControlOrSpace (c : Char) : Bool :=
  c.toNat ≤ 32

/-- The characters that are removed wherever they stand. -/
def isRemoved (c : Char) : Bool :=
  c == '\t' || c == '\r' || c == '\n'

def isSchemeChar (c : Char) : Bool :=
  c.isAlphanum || c == '+' || c == '-' || c == '.'

def inNetloc (c : Char) : Bool :=
  c != '/' && c != '?' && c != '#'

/-- The scheme, and what follows it. -/
def splitScheme (url : List Char) : List Char × List Char :=
  let scheme := (partition ':' url).1
  if url.contains ':' && scheme.head?.any Char.isAlpha && scheme.all isSchemeChar then
    (scheme.map Char.toLower, (partition ':' url).2)
  else ([], url)

/-- The network location after two slashes, and what follows it. -/
def splitNetloc (url : List Char) : List Char × List Char :=
  if ['/', '/'].isPrefixOf url then
    ((url.drop 2).takeWhile inNetloc, (url.drop 2).dropWhile inNetloc)
  else ([], url)

def checkNetloc (checks : NetlocChecks) (netloc : List Char) : Except String Unit :=
  if netloc.contains '[' != netloc.contains ']' then .error "Invalid IPv6 URL"
  else if netloc.contains '[' && !checks.bracketed netloc then .error "invalid bracketed host"
  else if netloc.any (fun c => 128 ≤ c.toNat) && !checks.normalized netloc then
    .error "netloc contains invalid characters under NFKC normalization"
  else .ok ()

/-- `urlsplit(text)`; an error is the `ValueError` that it raises. -/
def urlsplit (checks : NetlocChecks) (text : List Char) : Except String Parts := do
  let url := (text.dropWhile isControlOrSpace).filter fun c => !isRemoved c
  let (scheme, rest) := splitScheme url
  let (netloc, rest) := splitNetloc rest
  checkNetloc checks netloc
  let (rest, fragment) := partition '#' rest
  let (path, query) := partition '?' rest
  return ⟨scheme, netloc, path, query, fragment⟩

/-- The host and the port as they are written. -/
def Parts.hostinfo (parts : Parts) : List Char × List Char :=
  let hostinfo := parts.netloc.rtakeWhile (· != '@')
  if hostinfo.contains '[' then
    let (host, rest) := partition ']' (partition '[' hostinfo).2
    (host, (partition ':' rest).2)
  else partition ':' hostinfo

/-- A zone after `%` keeps its case. -/
def Parts.hostname (parts : Parts) : Option (List Char) :=
  let host := parts.hostinfo.1
  if host = [] then none
  else some ((host.takeWhile (· != '%')).flatMap PyText.lowerChar ++ host.dropWhile (· != '%'))

/-- The port as a number; `int` reads no more than 4300 digits. -/
def Parts.port (parts : Parts) : Except String (Option ℕ) :=
  let port := parts.hostinfo.2
  if port = [] then .ok none
  else if !port.all Char.isDigit then .error "Port could not be cast to integer value"
  else if 4300 < port.length then
    .error "Exceeds the limit (4300 digits) for integer string conversion"
  else if 65535 < DigitText.value 10 port then .error "Port out of range 0-65535"
  else .ok (some (DigitText.value 10 port))

section Partition

variable {separator c : Char} {text first second : List Char}

theorem not_mem_takeWhile_ne : separator ∉ text.takeWhile (· != separator) := by
  intro h
  have hne := List.mem_takeWhile_imp h
  simp at hne

theorem dropWhile_ne_of_not_mem (h : separator ∉ text) :
    text.dropWhile (· != separator) = [] := by
  rw [List.dropWhile_eq_nil_iff]
  intro c hc
  have hne : c ≠ separator := fun heq => h (heq ▸ hc)
  simpa using hne

theorem takeWhile_ne_of_not_mem (h : separator ∉ text) :
    text.takeWhile (· != separator) = text := by
  rw [List.takeWhile_eq_self_iff]
  intro c hc
  have hne : c ≠ separator := fun heq => h (heq ▸ hc)
  simpa using hne

/-- A text without the separator is all before it. -/
theorem partition_of_not_mem (h : separator ∉ text) : partition separator text = (text, []) := by
  rw [partition, dropWhile_ne_of_not_mem h, takeWhile_ne_of_not_mem h, List.drop_nil]

theorem partition_append (h : separator ∉ first) :
    partition separator (first ++ separator :: second) = (first, second) := by
  have hkeep : ∀ c ∈ first, (c != separator) = true := by
    intro c hc
    have hne : c ≠ separator := fun heq => h (heq ▸ hc)
    simpa using hne
  rw [partition, List.takeWhile_append_of_pos hkeep, List.dropWhile_append_of_pos hkeep]
  simp

end Partition

section Segments

variable {α : Type} [DecidableEq α] {x : α} {xs segment : List α} {segments : List (List α)}

/-- No segment has the separator. -/
theorem not_mem_of_mem_splitOn (h : segment ∈ xs.splitOn x) : x ∉ segment := by
  induction xs generalizing segment with
  | nil =>
      rw [List.splitOn_nil, List.mem_singleton] at h
      rw [h]
      exact List.not_mem_nil
  | cons y rest ih =>
      rw [List.splitOn_cons_eq_if_modifyHead] at h
      split at h
      · rcases List.mem_cons.mp h with rfl | hrest
        · exact List.not_mem_nil
        · exact ih hrest
      · rename_i hy
        cases hsplit : rest.splitOn x with
        | nil => exact absurd hsplit (List.splitOn_ne_nil x rest)
        | cons first others =>
            rw [hsplit] at h ih
            rcases List.mem_cons.mp h with rfl | hothers
            · intro hmem
              rcases List.mem_cons.mp hmem with rfl | hmem
              · simp at hy
              · exact ih List.mem_cons_self hmem
            · exact ih (List.mem_cons_of_mem _ hothers)

theorem splitOn_eq_iff (hne : segments ≠ []) : xs.splitOn x = segments ↔
    xs = [x].intercalate segments ∧ ∀ segment ∈ segments, x ∉ segment := by
  constructor
  · intro h
    rw [← h]
    exact ⟨(List.intercalate_splitOn x).symm, fun segment => not_mem_of_mem_splitOn⟩
  · rintro ⟨rfl, hfree⟩
    exact List.splitOn_intercalate x hfree hne

/-- What is left when the last elements of one kind are dropped. -/
theorem rdropWhile_eq_iff {kept : List α} (hne : kept ≠ []) (hlast : kept.getLast hne ≠ x) :
    xs.rdropWhile (· == x) = kept ↔ ∃ count, xs = kept ++ List.replicate count x := by
  constructor
  · intro h
    use (xs.rtakeWhile (· == x)).length
    have hends : xs.rtakeWhile (· == x) =
        List.replicate (xs.rtakeWhile (· == x)).length x := by
      rw [List.eq_replicate_iff]
      constructor
      · rfl
      · intro y hy
        have hsame : (y == x) = true := List.mem_rtakeWhile_imp (p := (· == x)) hy
        exact beq_iff_eq.mp hsame
    rw [← hends, ← h, List.rdropWhile_append_rtakeWhile]
  · rintro ⟨count, rfl⟩
    induction count with
    | zero =>
        rw [List.replicate_zero, List.append_nil, List.rdropWhile_eq_self_iff]
        intro _
        simpa using hlast
    | succ count ih =>
        rw [List.replicate_succ', ← List.append_assoc, List.rdropWhile_concat_pos _ _ _ (by simp)]
        exact ih

end Segments

section Split

variable {checks : NetlocChecks} {text host path : List Char} {parts : Parts}

/-- Characters that a path of a split URL does not have. -/
def InPath (c : Char) : Prop :=
  isRemoved c = false ∧ c ≠ '?' ∧ c ≠ '#'

instance (c : Char) : Decidable (InPath c) :=
  inferInstanceAs (Decidable (_ ∧ _ ∧ _))

theorem splitNetloc_subset {url : List Char} : (splitNetloc url).2 ⊆ url := by
  rw [splitNetloc]
  split
  · exact List.Subset.trans (List.dropWhile_suffix _).subset (List.drop_subset 2 url)
  · exact List.Subset.refl url

theorem splitScheme_subset {url : List Char} : (splitScheme url).2 ⊆ url := by
  unfold splitScheme
  dsimp only
  split
  · exact List.Subset.trans (List.drop_subset 1 _) (List.dropWhile_suffix _).subset
  · exact List.Subset.refl url

/-- The path of a URL that is split. -/
theorem inPath_of_urlsplit (h : urlsplit checks text = .ok parts) :
    ∀ c ∈ parts.path, InPath c := by
  intro c hc
  simp only [urlsplit] at h
  generalize hurl : (text.dropWhile isControlOrSpace).filter (fun c => !isRemoved c) = url at h
  cases hcheck : checkNetloc checks (splitNetloc (splitScheme url).2).1 with
  | error message =>
      rw [hcheck] at h
      cases h
  | ok result =>
      rw [hcheck] at h
      cases h
      have hbefore : c ∈ (splitNetloc (splitScheme url).2).2.takeWhile (· != '#') :=
        (List.takeWhile_prefix _).subset hc
      have hmem : c ∈ url :=
        splitScheme_subset (splitNetloc_subset ((List.takeWhile_prefix _).subset hbefore))
      constructor
      · rw [← hurl, List.mem_filter] at hmem
        simpa using hmem.2
      · constructor
        · rintro rfl
          exact not_mem_takeWhile_ne hc
        · rintro rfl
          exact not_mem_takeWhile_ne hbefore

/-- Characters of a host that is kept as it is. -/
def InHost (c : Char) : Prop :=
  isRemoved c = false ∧ inNetloc c = true ∧ c ≠ '[' ∧ c ≠ ']' ∧ c.toNat < 128

instance (c : Char) : Decidable (InHost c) :=
  inferInstanceAs (Decidable (_ ∧ _ ∧ _ ∧ _ ∧ _))

theorem checkNetloc_host (hhost : ∀ c ∈ host, InHost c) : checkNetloc checks host = .ok () := by
  have hopen : host.contains '[' = false := by
    rw [List.contains_eq_mem, decide_eq_false_iff_not]
    exact fun hmem => (hhost _ hmem).2.2.1 rfl
  have hclose : host.contains ']' = false := by
    rw [List.contains_eq_mem, decide_eq_false_iff_not]
    exact fun hmem => (hhost _ hmem).2.2.2.1 rfl
  have hascii : host.any (fun c => decide (128 ≤ c.toNat)) = false := by
    rw [List.any_eq_false]
    intro c hc
    have hsmall := (hhost c hc).2.2.2.2
    simpa using hsmall
  rw [checkNetloc, hopen, hclose, hascii]
  rfl

theorem splitNetloc_host (hhost : ∀ c ∈ host, InHost c) :
    splitNetloc ("//".toList ++ (host ++ '/' :: path)) = (host, '/' :: path) := by
  have hkeep : ∀ c ∈ host, inNetloc c = true := fun c hc => (hhost c hc).2.1
  have hdrop : ("//".toList ++ (host ++ '/' :: path)).drop 2 = host ++ '/' :: path := rfl
  have hslashes : ['/', '/'].isPrefixOf ("//".toList ++ (host ++ '/' :: path)) = true := by
    rw [List.isPrefixOf_iff_prefix]
    exact List.prefix_append _ _
  have hslash : ¬ inNetloc '/' = true := by decide
  rw [splitNetloc, if_pos hslashes, hdrop, List.takeWhile_append_of_pos hkeep,
    List.dropWhile_append_of_pos hkeep, List.takeWhile_cons_of_neg hslash,
    List.dropWhile_cons_of_neg hslash, List.append_nil]

theorem splitScheme_https (rest : List Char) :
    splitScheme ("https:".toList ++ rest) = ("https".toList, rest) := by
  have hletters : ':' ∉ "https".toList := by decide
  have hpartition : partition ':' ("https:".toList ++ rest) = ("https".toList, rest) :=
    partition_append hletters
  have hcolon : ("https:".toList ++ rest).contains ':' = true := by simp
  rw [splitScheme, hpartition, hcolon]
  rfl

/-- Splitting a URL of `https`, a plain host and a path gives the host and the path. -/
theorem urlsplit_https (hhost : ∀ c ∈ host, InHost c) (hpath : ∀ c ∈ path, InPath c) :
    urlsplit checks ("https:".toList ++ ("//".toList ++ (host ++ '/' :: path))) =
      .ok ⟨"https".toList, host, '/' :: path, [], []⟩ := by
  have hstart : ("https:".toList ++ ("//".toList ++ (host ++ '/' :: path))).dropWhile
      isControlOrSpace = "https:".toList ++ ("//".toList ++ (host ++ '/' :: path)) := rfl
  have hkept : ("https:".toList ++ ("//".toList ++ (host ++ '/' :: path))).filter
      (fun c => !isRemoved c) = "https:".toList ++ ("//".toList ++ (host ++ '/' :: path)) := by
    have hscheme : ∀ c ∈ "https:".toList, (!isRemoved c) = true :=
      List.all_eq_true.mp (by decide)
    have hslashes : ∀ c ∈ "//".toList, (!isRemoved c) = true := List.all_eq_true.mp (by decide)
    rw [List.filter_eq_self]
    intro c hc
    rcases List.mem_append.mp hc with hc | hc
    · exact hscheme c hc
    · rcases List.mem_append.mp hc with hc | hc
      · exact hslashes c hc
      · rcases List.mem_append.mp hc with hc | hc
        · rw [(hhost c hc).1]
          rfl
        · rcases List.mem_cons.mp hc with rfl | hc
          · rfl
          · rw [(hpath c hc).1]
            rfl
  have hquery : '?' ∉ '/' :: path := by
    intro hmem
    rcases List.mem_cons.mp hmem with hmem | hmem
    · cases hmem
    · exact (hpath _ hmem).2.1 rfl
  have hfragment : '#' ∉ '/' :: path := by
    intro hmem
    rcases List.mem_cons.mp hmem with hmem | hmem
    · cases hmem
    · exact (hpath _ hmem).2.2 rfl
  simp only [urlsplit, hstart, hkept, splitScheme_https, splitNetloc_host hhost,
    checkNetloc_host hhost, partition_of_not_mem hfragment, partition_of_not_mem hquery]
  rfl

end Split

end UrlText
