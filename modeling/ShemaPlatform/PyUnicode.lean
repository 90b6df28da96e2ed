/-
Lower case and digits of the Python standard library, on code points beyond
ASCII.
-/
import ShemaPlatform.Errors
import ShemaPlatform.PyText

namespace PyText

open ShemaPlatform

/-- First and last code point of runs of capital letters (Latin, Greek, Cyrillic
and Armenian) and the distance to their lower case; letters of further scripts
are left as they are. -/
def capitals : List (ℕ × ℕ × ℕ) :=
  [(0x41, 0x5A, 32), (0xC0, 0xD6, 32), (0xD8, 0xDE, 32), (0x391, 0x3A1, 32),
    (0x3A3, 0x3AB, 32), (0x400, 0x40F, 80), (0x410, 0x42F, 32), (0x531, 0x556, 48)]

def lowerChar (c : Char) : List Char :=
  let n := c.toNat
  if n = 0x130 then ['i', Char.ofNat 0x307]
  else if n = 0x212A then ['k']
  else match capitals.find? fun run => run.1 ≤ n && n ≤ run.2.1 with
    | some run => [Char.ofNat (n + run.2.2)]
    | none => [c]

/-- `s.lower()` -/
def lower (s : String) : String :=
  String.ofList (s.toList.flatMap lowerChar)

/-- The zeros of the runs of ten decimal digits. -/
def decimalZeros : List ℕ :=
  [0x30, 0x660, 0x6F0, 0x7C0, 0x966, 0x9E6, 0xA66, 0xAE6, 0xB66, 0xBE6, 0xC66, 0xCE6,
    0xD66, 0xDE6, 0xE50, 0xED0, 0xF20, 0x1040, 0x1090, 0x17E0, 0x1810, 0x1946, 0x19D0,
    0x1A80, 0x1A90, 0x1B50, 0x1BB0, 0x1C40, 0x1C50, 0xA620, 0xA8D0, 0xA900, 0xA9D0,
    0xA9F0, 0xAA50, 0xABF0, 0xFF10, 0x104A0, 0x10D30, 0x11066, 0x110F0, 0x11136,
    0x111D0, 0x112F0, 0x11450, 0x114D0, 0x11650, 0x116C0, 0x11730, 0x118E0, 0x11950,
    0x11C50, 0x11D50, 0x11DA0, 0x11F50, 0x16A60, 0x16AC0, 0x16B50, 0x1D7CE, 0x1D7D8,
    0x1D7E2, 0x1D7EC, 0x1D7F6, 0x1E140, 0x1E2F0, 0x1E4F0, 0x1E950, 0x1FBF0]

/-- First and last code point of the digits that are not decimal, such as the
superscripts. -/
def otherDigits : List (ℕ × ℕ) :=
  [(0xB2, 0xB3), (0xB9, 0xB9), (0x1369, 0x1371), (0x19DA, 0x19DA), (0x2070, 0x2070),
    (0x2074, 0x2079), (0x2080, 0x2089), (0x2460, 0x2468), (0x2474, 0x247C),
    (0x2488, 0x2490), (0x24EA, 0x24EA), (0x24F5, 0x24FD), (0x24FF, 0x24FF),
    (0x2776, 0x277E), (0x2780, 0x2788), (0x278A, 0x2792), (0x10A40, 0x10A43),
    (0x10E60, 0x10E68), (0x11052, 0x1105A), (0x1F100, 0x1F10A)]

def decimalOf (code : ℕ) : Option ℕ :=
  (decimalZeros.find? fun first => first ≤ code && code < first + 10).map
    fun first => code - first

/-- What a decimal digit counts for. -/
def decimal (c : Char) : Option ℕ :=
  decimalOf c.toNat

def isDigitOf (code : ℕ) : Bool :=
  (decimalOf code).isSome || otherDigits.any fun run => run.1 ≤ code && code ≤ run.2

/-- `c.isdigit()` -/
def isDigit (c : Char) : Bool :=
  isDigitOf c.toNat

/-- `int(s)` of digits -/
def int (digits : List Char) : Except Failure ℕ :=
  match digits.mapM decimal with
  | some values => .ok (values.foldl (fun number value => number * 10 + value) 0)
  | none => .error (.valueError
      s!"invalid literal for int() with base 10: '{String.ofList digits}'")

/-- What a digit counts for, if it is decimal. -/
def digitValue (c : Char) : ℕ :=
  (decimal c).getD 0

def Decimal (digits : List Char) : Prop :=
  ∀ c ∈ digits, (decimal c).isSome = true

instance (digits : List Char) : Decidable (Decimal digits) :=
  List.decidableBAll (fun c => (decimal c).isSome = true) digits

section Digits

variable {digits rest : List Char}

theorem decimal_append : Decimal (digits ++ rest) ↔ Decimal digits ∧ Decimal rest := by
  simp only [Decimal, List.mem_append, or_imp, forall_and]

theorem mapM_decimal (digits : List Char) :
    digits.mapM decimal = if Decimal digits then some (digits.map digitValue) else none := by
  induction digits with
  | nil => rfl
  | cons c rest ih =>
      rw [List.mapM_cons, ih]
      cases hc : decimal c with
      | none => simp [Decimal, hc]
      | some value =>
          by_cases hrest : Decimal rest
          · have hall : Decimal (c :: rest) :=
              List.forall_mem_cons.mpr ⟨by rw [hc]; rfl, hrest⟩
            simp [hrest, hall, digitValue, hc]
          · have hnot : ¬ Decimal (c :: rest) :=
              fun hall => hrest (List.forall_mem_cons.mp hall).2
            simp [hrest, hnot]

/-- The number that digits stand for. -/
def number (values : List ℕ) : ℕ :=
  values.foldl (fun number value => number * 10 + value) 0

theorem int_eq_ok {n : ℕ} :
    int digits = .ok n ↔ Decimal digits ∧ n = number (digits.map digitValue) := by
  rw [int, mapM_decimal]
  by_cases hall : Decimal digits
  · simp [hall, number, eq_comm]
  · simp [hall]

theorem isSpace_codes {c : Char} (h : isSpace c = true) :
    c.toNat ∈ List.range' 9 5 ++ List.range' 28 5 ++ [0x85, 0xA0, 0x1680] ++
      List.range' 0x2000 11 ++ [0x2028, 0x2029, 0x202F, 0x205F, 0x3000] := by
  simp only [isSpace, Bool.or_eq_true, Bool.and_eq_true, decide_eq_true_eq,
    beq_iff_eq] at h
  simp only [List.mem_append, List.mem_range'_1, List.mem_cons, List.not_mem_nil, or_false]
  omega

/-- A digit is not whitespace. -/
theorem isSpace_of_isDigit {c : Char} (h : isDigit c = true) : isSpace c = false := by
  by_contra hspace
  rw [Bool.not_eq_false] at hspace
  have hnone : ∀ code ∈ List.range' 9 5 ++ List.range' 28 5 ++ [0x85, 0xA0, 0x1680] ++
      List.range' 0x2000 11 ++ [0x2028, 0x2029, 0x202F, 0x205F, 0x3000],
      isDigitOf code = false := by decide +kernel
  rw [isDigit, hnone c.toNat (isSpace_codes hspace)] at h
  cases h

theorem strip_of_not_space {s : String} (h : ∀ c ∈ s.toList, isSpace c = false) :
    strip s = s := by
  have hkeep : ∀ l : List Char, (∀ c ∈ l, isSpace c = false) → l.dropWhile isSpace = l := by
    intro l hl
    cases l with
    | nil => rfl
    | cons c rest =>
        rw [List.dropWhile_cons, hl c List.mem_cons_self]
        rfl
  rw [strip, hkeep _ h, hkeep _ (by simpa using h)]
  simp

end Digits

end PyText
