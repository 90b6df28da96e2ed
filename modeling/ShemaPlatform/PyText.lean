/-
The string operations of the Python standard library that the platform leans
on: whitespace stripping, prefix tests and blank tests, on code points.
-/
import Mathlib.Data.List.Basic

namespace PyText

/-- The code points `str.isspace` and `str.strip` treat as whitespace. -/
def isSpace (c : Char) : Bool :=
  let n := c.toNat
  (9 ≤ n && n ≤ 13) || (28 ≤ n && n ≤ 32) || n == 0x85 || n == 0xA0 ||
    n == 0x1680 || (0x2000 ≤ n && n ≤ 0x200A) || n == 0x2028 || n == 0x2029 ||
    n == 0x202F || n == 0x205F || n == 0x3000

def strip (s : String) : String :=
  String.ofList
    ((s.toList.dropWhile isSpace).reverse.dropWhile isSpace).reverse

/-- `not s.strip()` -/
def blank (s : String) : Bool :=
  s.toList.all isSpace

/-- The upper-case form of a code point, as far as it is ASCII; any other form
is left as the code point itself. -/
def upperChar (c : Char) : List Char :=
  match c.toNat with
  | 0xDF => ['S', 'S']
  | 0x131 => ['I']
  | 0x17F => ['S']
  | 0xFB00 => ['F', 'F']
  | 0xFB01 => ['F', 'I']
  | 0xFB02 => ['F', 'L']
  | 0xFB03 => ['F', 'F', 'I']
  | 0xFB04 => ['F', 'F', 'L']
  | 0xFB05 => ['S', 'T']
  | 0xFB06 => ['S', 'T']
  | _ => [c.toUpper]

def upper (s : String) : String :=
  String.ofList (s.toList.flatMap upperChar)

/-- `s.startswith(pre)` -/
def startsWith (s pre : String) : Bool :=
  pre.toList.isPrefixOf s.toList

section Letters

theorem toNat_of_isAlpha {c : Char} (h : c.isAlpha = true) :
    65 ≤ c.toNat ∧ c.toNat ≤ 122 := by
  have hval : c.val.toNat = c.toNat := rfl
  delta Char.isAlpha Char.isUpper Char.isLower at h
  simp only [Bool.or_eq_true, decide_eq_true_eq, Bool.and_eq_true, ge_iff_le,
    UInt32.le_iff_toNat_le, hval, Char.reduceVal, UInt32.reduceToNat] at h
  omega

theorem isSpace_of_isAlpha {c : Char} (h : c.isAlpha = true) :
    isSpace c = false := by
  have hrange := toNat_of_isAlpha h
  simp only [isSpace, Bool.or_eq_false_iff, Bool.and_eq_false_iff,
    decide_eq_false_iff_not, beq_eq_false_iff_ne, ne_eq]
  omega

theorem upperChar_of_isAlpha {c : Char} (h : c.isAlpha = true) :
    upperChar c = [c.toUpper] := by
  have hrange := toNat_of_isAlpha h
  unfold upperChar
  split <;> first | rfl | omega

theorem toUpper_toUpper (c : Char) : c.toUpper.toUpper = c.toUpper := by
  by_cases h : 'a'.val ≤ c.val ∧ c.val ≤ 'z'.val
  · have hval : c.toUpper.val = c.val + ('A'.val - 'a'.val) := by
      delta Char.toUpper
      rw [dif_pos h]
    have hnot : ¬ ('a'.val ≤ c.toUpper.val ∧ c.toUpper.val ≤ 'z'.val) := by
      rw [hval]
      simp only [UInt32.le_iff_toNat_le, UInt32.toNat_add, UInt32.toNat_sub] at h ⊢
      simp at h ⊢
      omega
    exact dif_neg hnot
  · have hsame : c.toUpper = c := dif_neg h
    rw [hsame, hsame]

theorem toUpper_of_mem_upperChar {c d : Char} (h : d ∈ upperChar c) :
    d.toUpper = d := by
  have hcase : d = c.toUpper ∨ d ∈ ['F', 'I', 'L', 'S', 'T'] := by
    unfold upperChar at h
    split at h <;> simp_all <;> tauto
  rcases hcase with rfl | hletter
  · exact toUpper_toUpper c
  · simp only [List.mem_cons, List.not_mem_nil, or_false] at hletter
    rcases hletter with rfl | rfl | rfl | rfl | rfl <;> rfl

theorem strip_of_isAlpha {s : String} (h : s.toList.all Char.isAlpha = true) :
    strip s = s := by
  have hkeep : ∀ l : List Char, l.all Char.isAlpha = true →
      l.dropWhile isSpace = l := by
    intro l hl
    cases l with
    | nil => rfl
    | cons c rest =>
        rw [List.all_cons, Bool.and_eq_true] at hl
        rw [List.dropWhile_cons, isSpace_of_isAlpha hl.1]
        rfl
  rw [strip, hkeep _ h, hkeep _ (by simpa using h)]
  simp

/-- Upper-casing twice is upper-casing once, when only letters result. -/
theorem upper_upper {s : String}
    (h : (upper s).toList.all Char.isAlpha = true) :
    upper (upper s) = upper s := by
  have hkeep : ∀ l : List Char, (∀ d ∈ l, d.isAlpha = true ∧ d.toUpper = d) →
      l.flatMap upperChar = l := by
    intro l hl
    induction l with
    | nil => rfl
    | cons d rest ih =>
        have hd := hl d List.mem_cons_self
        rw [List.flatMap_cons, upperChar_of_isAlpha hd.1, hd.2,
          ih fun e he => hl e (List.mem_cons_of_mem d he)]
        rfl
  rw [List.all_eq_true] at h
  have hletters := hkeep (upper s).toList fun d hd => ⟨h d hd, by
    rw [upper, String.toList_ofList, List.mem_flatMap] at hd
    obtain ⟨c, _, hc⟩ := hd
    exact toUpper_of_mem_upperChar hc⟩
  rw [upper, hletters, String.ofList_toList]

end Letters

@[simp] theorem startsWith_append (pre rest : String) :
    startsWith (pre ++ rest) pre = true := by
  simp [startsWith, List.isPrefixOf_iff_prefix]

theorem blank_of_startsWith {text pre : String} (h : startsWith text pre = true)
    (hpre : blank pre = false) : blank text = false := by
  rw [startsWith, List.isPrefixOf_iff_prefix] at h
  obtain ⟨rest, hrest⟩ := h
  rw [blank, ← hrest, List.all_append]
  simp only [blank] at hpre
  rw [hpre, Bool.false_and]

/-- A text starts with two prefixes only when one of them starts the other. -/
theorem startsWith_other {text pre other : String} (h : startsWith text pre = true)
    (hpre : startsWith pre other = false) (hother : startsWith other pre = false) :
    startsWith text other = false := by
  by_contra hboth
  rw [Bool.not_eq_false] at hboth
  simp only [startsWith, List.isPrefixOf_iff_prefix] at h hboth
  rcases List.prefix_or_prefix_of_prefix h hboth with hprefix | hprefix
  · rw [startsWith, List.isPrefixOf_iff_prefix.mpr hprefix] at hother
    cases hother
  · rw [startsWith, List.isPrefixOf_iff_prefix.mpr hprefix] at hpre
    cases hpre

end PyText
