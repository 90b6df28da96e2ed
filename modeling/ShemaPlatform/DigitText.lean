/-
Numbers written as digits: in a fixed width, or as long as they need to be
before something that is not a digit.  Either way the text gives the number
back.
-/
import Mathlib.Data.List.Basic
import Mathlib.Tactic.NormNum

namespace DigitText

section Fixed

/-- The last `width` digits of a number, most significant first. -/
def pad (base : ℕ) : ℕ → ℕ → List Char
  | 0, _ => []
  | width + 1, n => pad base width (n / base) ++ [Nat.digitChar (n % base)]

/-- What a digit below sixteen stands for. -/
def digitValue (c : Char) : ℕ :=
  if c.toNat < 97 then c.toNat - 48 else c.toNat - 87

def value (base : ℕ) (text : List Char) : ℕ :=
  text.foldl (fun sum c => sum * base + digitValue c) 0

theorem digitValue_digitChar {n : ℕ} (hn : n < 16) :
    digitValue (Nat.digitChar n) = n := by
  have hall : ∀ k : Fin 16, digitValue (Nat.digitChar k) = k := by decide
  exact hall ⟨n, hn⟩

@[simp] theorem length_pad (base width n : ℕ) :
    (pad base width n).length = width := by
  induction width generalizing n with
  | zero => rfl
  | succ width ih => simp [pad, ih]

theorem value_pad {base width n : ℕ} (hbase : 0 < base) (hsmall : base ≤ 16)
    (hn : n < base ^ width) : value base (pad base width n) = n := by
  induction width generalizing n with
  | zero =>
      rw [pow_zero] at hn
      rw [pad, Nat.lt_one_iff.mp hn]
      rfl
  | succ width ih =>
      have hquot : n / base < base ^ width := by
        apply Nat.div_lt_of_lt_mul
        rwa [Nat.mul_comm, ← pow_succ]
      have hdigit := digitValue_digitChar (Nat.lt_of_lt_of_le
        (Nat.mod_lt n hbase) hsmall)
      have hrest := ih hquot
      rw [value] at hrest
      rw [value, pad, List.foldl_append, hrest, List.foldl_cons, hdigit,
        List.foldl_nil, Nat.mul_comm]
      exact Nat.div_add_mod n base

/-- A number that fits the width is determined by its digits. -/
theorem pad_inj {base width n m : ℕ} (hbase : 0 < base) (hsmall : base ≤ 16)
    (hn : n < base ^ width) (hm : m < base ^ width)
    (h : pad base width n = pad base width m) : n = m := by
  have hvalue := congrArg (value base) h
  rwa [value_pad hbase hsmall hn, value_pad hbase hsmall hm] at hvalue

theorem pad_append_inj {width n m : ℕ} {rest rest' : List Char}
    (hn : n < 10 ^ width) (hm : m < 10 ^ width)
    (h : pad 10 width n ++ rest = pad 10 width m ++ rest') :
    n = m ∧ rest = rest' := by
  obtain ⟨hdigits, hrest⟩ := List.append_inj h (by simp)
  exact ⟨pad_inj (by decide) (by decide) hn hm hdigits, hrest⟩

end Fixed

section Free

/-- A text that does not go on with a digit. -/
def Stops (rest : List Char) : Prop :=
  ∀ c ∈ rest.head?, c.isDigit = false

@[simp] theorem stops_nil : Stops [] := by
  simp [Stops]

@[simp] theorem stops_cons {c : Char} {rest : List Char} :
    Stops (c :: rest) ↔ c.isDigit = false := by
  simp [Stops]

theorem digits_append_inj {digits digits' rest rest' : List Char}
    (hdigits : ∀ c ∈ digits, c.isDigit = true)
    (hdigits' : ∀ c ∈ digits', c.isDigit = true)
    (hrest : Stops rest) (hrest' : Stops rest')
    (h : digits ++ rest = digits' ++ rest') : digits = digits' ∧ rest = rest' := by
  induction digits generalizing digits' with
  | nil =>
      cases digits' with
      | nil => exact ⟨rfl, h⟩
      | cons c digits' =>
          rw [List.nil_append] at h
          rw [h, List.cons_append, stops_cons, hdigits' c List.mem_cons_self] at hrest
          simp at hrest
  | cons c digits ih =>
      cases digits' with
      | nil =>
          rw [List.nil_append] at h
          rw [← h, List.cons_append, stops_cons, hdigits c List.mem_cons_self] at hrest'
          simp at hrest'
      | cons c' digits' =>
          obtain ⟨rfl, htail⟩ := List.cons.inj h
          obtain ⟨rfl, hsame⟩ := ih (fun d hd => hdigits d (List.mem_cons_of_mem _ hd))
            (fun d hd => hdigits' d (List.mem_cons_of_mem _ hd)) htail
          exact ⟨rfl, hsame⟩

theorem isDigit_of_mem {n : ℕ} {c : Char} (hc : c ∈ Nat.toDigits 10 n) :
    c.isDigit = true :=
  Nat.isDigit_of_mem_toDigits (by decide) (by decide) hc

/-- A number is determined by its decimal digits. -/
theorem toDigits_append_inj {n m : ℕ} {rest rest' : List Char}
    (hrest : Stops rest) (hrest' : Stops rest')
    (h : Nat.toDigits 10 n ++ rest = Nat.toDigits 10 m ++ rest') :
    n = m ∧ rest = rest' := by
  obtain ⟨hdigits, hsame⟩ := digits_append_inj (fun _ => isDigit_of_mem)
    (fun _ => isDigit_of_mem) hrest hrest' h
  have hvalue := congrArg (fun digits => Nat.ofDigitChars 10 digits 0) hdigits
  simp only [Nat.ofDigitChars_ten_toDigits] at hvalue
  exact ⟨hvalue, hsame⟩

end Free

end DigitText
