/-
Texts that stripping and lower-casing leave as they are.
-/
import Mathlib.Data.List.TakeWhile
import ShemaPlatform.PyUnicode

namespace PyText

/-- No white space at either end. -/
def Trimmed (chars : List Char) : Prop :=
  (∀ c ∈ chars.head?, isSpace c = false) ∧ ∀ c ∈ chars.getLast?, isSpace c = false

section Strip

variable {s : String} {chars : List Char}

theorem dropWhile_of_head (h : ∀ c ∈ chars.head?, isSpace c = false) :
    chars.dropWhile isSpace = chars := by
  cases chars with
  | nil => rfl
  | cons c rest =>
      rw [List.dropWhile_cons, h c rfl]
      rfl

theorem head_dropWhile {c : Char} (h : c ∈ (chars.dropWhile isSpace).head?) :
    isSpace c = false := by
  have hhead := List.head?_dropWhile_not isSpace chars
  rw [Option.mem_def.mp h] at hhead
  exact hhead

theorem strip_of_trimmed (h : Trimmed s.toList) : strip s = s := by
  have hlast : s.toList.reverse.dropWhile isSpace = s.toList.reverse := by
    apply dropWhile_of_head
    rw [List.head?_reverse]
    exact h.2
  rw [strip, dropWhile_of_head h.1, hlast, List.reverse_reverse, String.ofList_toList]

theorem trimmed_strip (s : String) : Trimmed (strip s).toList := by
  rw [strip, String.toList_ofList]
  constructor
  · intro c hc
    have hprefix : ((s.toList.dropWhile isSpace).reverse.dropWhile isSpace).reverse <+:
        s.toList.dropWhile isSpace := by
      rw [← List.reverse_reverse (s.toList.dropWhile isSpace), List.reverse_prefix,
        List.reverse_reverse]
      exact List.dropWhile_suffix _
    obtain ⟨rest, hrest⟩ := hprefix
    have hhead : c ∈ (s.toList.dropWhile isSpace).head? := by
      rw [← hrest, List.head?_append, Option.mem_def.mp hc]
      rfl
    exact head_dropWhile hhead
  · intro c hc
    rw [List.getLast?_reverse] at hc
    exact head_dropWhile hc

@[simp] theorem strip_strip (s : String) : strip (strip s) = strip s :=
  strip_of_trimmed (trimmed_strip s)

@[simp] theorem strip_eq_empty : strip s = "" ↔ blank s = true := by
  have hinner : (∀ c ∈ s.toList.dropWhile isSpace, isSpace c = true) ↔
      s.toList.dropWhile isSpace = [] := by
    rw [← List.dropWhile_eq_nil_iff, dropWhile_of_head fun c hc => head_dropWhile hc]
  rw [strip, blank, ← String.toList_inj, String.toList_ofList, String.toList_empty,
    List.reverse_eq_nil_iff, List.dropWhile_eq_nil_iff]
  simp only [List.mem_reverse]
  rw [hinner, List.dropWhile_eq_nil_iff, List.all_eq_true]

theorem blank_strip (s : String) : blank (strip s) = blank s := by
  rw [Bool.eq_iff_iff, ← strip_eq_empty, ← strip_eq_empty, strip_strip]

end Strip

section Lower

variable {c d : Char}

/-- A letter in lower case is not white space and stays as it is. -/
def Lowered (d : Char) : Prop := isSpace d = false ∧ lowerChar d = [d]

theorem toNat_ofNat {code : ℕ} (hcode : code < 0xD800) : (Char.ofNat code).toNat = code := by
  have hvalid : code.isValidChar := Or.inl hcode
  rw [Char.ofNat, dif_pos hvalid]
  rfl

theorem lowered_ofNat {code : ℕ}
    (hcode : (0x61 ≤ code ∧ code ≤ 0x7A) ∨ (0xE0 ≤ code ∧ code ≤ 0xFE) ∨
      code = 0x307 ∨ (0x3B1 ≤ code ∧ code ≤ 0x3CB) ∨ (0x430 ≤ code ∧ code ≤ 0x45F) ∨
      (0x561 ≤ code ∧ code ≤ 0x586)) : Lowered (Char.ofNat code) := by
  have hnat : (Char.ofNat code).toNat = code := toNat_ofNat (by omega)
  constructor
  · simp only [isSpace, hnat, Bool.or_eq_false_iff, Bool.and_eq_false_iff,
      decide_eq_false_iff_not, beq_eq_false_iff_ne, ne_eq]
    omega
  · have hnone : capitals.find? (fun run => run.1 ≤ code && code ≤ run.2.1) = none := by
      simp only [capitals, List.find?_eq_none, List.forall_mem_cons, Bool.and_eq_true,
        decide_eq_true_eq, List.not_mem_nil, IsEmpty.forall_iff, implies_true, and_true]
      omega
    simp only [lowerChar, hnat, hnone]
    rw [if_neg (by omega), if_neg (by omega)]

theorem lowerChar_cases (c : Char) :
    lowerChar c = [c] ∨ (lowerChar c ≠ [] ∧ ∀ d ∈ lowerChar c, Lowered d) := by
  have hword : ∀ letters : List Char, letters ≠ [] → (∀ d ∈ letters, Lowered d) →
      lowerChar c = letters → lowerChar c = [c] ∨
        (lowerChar c ≠ [] ∧ ∀ d ∈ lowerChar c, Lowered d) := by
    rintro letters hne hletters rfl
    exact Or.inr ⟨hne, hletters⟩
  by_cases hdotted : c.toNat = 0x130
  · apply hword ['i', Char.ofNat 0x307] (by simp)
    · intro d hd
      simp only [List.mem_cons, List.not_mem_nil, or_false] at hd
      rcases hd with rfl | rfl
      · exact @lowered_ofNat 0x69 (by omega)
      · exact lowered_ofNat (by omega)
    · rw [lowerChar, if_pos hdotted]
  by_cases hkelvin : c.toNat = 0x212A
  · apply hword ['k'] (by simp)
    · intro d hd
      obtain rfl := List.mem_singleton.mp hd
      exact @lowered_ofNat 0x6B (by omega)
    · rw [lowerChar, if_neg hdotted, if_pos hkelvin]
  cases hfind : capitals.find? fun run => run.1 ≤ c.toNat && c.toNat ≤ run.2.1 with
  | none =>
      left
      simp only [lowerChar, hfind]
      rw [if_neg hdotted, if_neg hkelvin]
  | some run =>
      apply hword [Char.ofNat (c.toNat + run.2.2)] (by simp)
      · intro d hd
        obtain rfl := List.mem_singleton.mp hd
        have hmem := List.mem_of_find?_eq_some hfind
        have hrange := List.find?_some hfind
        simp only [Bool.and_eq_true, decide_eq_true_eq] at hrange
        apply lowered_ofNat
        simp only [capitals, List.mem_cons, List.not_mem_nil, or_false] at hmem
        rcases hmem with rfl | rfl | rfl | rfl | rfl | rfl | rfl | rfl <;>
          simp only at hrange ⊢ <;> omega
      · simp only [lowerChar, hfind]
        rw [if_neg hdotted, if_neg hkelvin]

theorem lowerChar_ne_nil (c : Char) : lowerChar c ≠ [] := by
  rcases lowerChar_cases c with hsame | ⟨hne, _⟩
  · simp [hsame]
  · exact hne

theorem lowerChar_lowerChar (hd : d ∈ lowerChar c) : lowerChar d = [d] := by
  rcases lowerChar_cases c with hsame | ⟨_, hletters⟩
  · rw [hsame, List.mem_singleton] at hd
    rw [hd, hsame]
  · exact (hletters d hd).2

theorem isSpace_lowerChar (hc : isSpace c = false) (hd : d ∈ lowerChar c) :
    isSpace d = false := by
  rcases lowerChar_cases c with hsame | ⟨_, hletters⟩
  · rw [hsame, List.mem_singleton] at hd
    rw [hd, hc]
  · exact (hletters d hd).1

@[simp] theorem lower_lower (s : String) : lower (lower s) = lower s := by
  have hkeep : ∀ chars : List Char, (∀ d ∈ chars, lowerChar d = [d]) →
      chars.flatMap lowerChar = chars := by
    intro chars h
    induction chars with
    | nil => rfl
    | cons d rest ih =>
        rw [List.flatMap_cons, h d List.mem_cons_self,
          ih fun e he => h e (List.mem_cons_of_mem d he)]
        rfl
  rw [lower, hkeep _ ?_, String.ofList_toList]
  intro d hd
  rw [lower, String.toList_ofList, List.mem_flatMap] at hd
  obtain ⟨c, _, hc⟩ := hd
  exact lowerChar_lowerChar hc

/-- Lower case has white space at neither end, when there was none. -/
theorem trimmed_lower {s : String} (h : Trimmed s.toList) : Trimmed (lower s).toList := by
  rw [lower, String.toList_ofList]
  constructor
  · intro d hd
    cases hchars : s.toList with
    | nil =>
        rw [hchars] at hd
        cases hd
    | cons c rest =>
        rw [hchars, List.flatMap_cons, List.head?_append_of_ne_nil _ (lowerChar_ne_nil c)] at hd
        exact isSpace_lowerChar (h.1 c (by rw [hchars]; rfl)) (List.mem_of_head? hd)
  · intro d hd
    rcases List.eq_nil_or_concat s.toList with hchars | ⟨rest, c, hchars⟩
    · rw [hchars] at hd
      cases hd
    · rw [List.concat_eq_append] at hchars
      rw [hchars, List.flatMap_append, List.flatMap_singleton,
        List.getLast?_append_of_ne_nil _ (lowerChar_ne_nil c)] at hd
      exact isSpace_lowerChar (h.2 c (by rw [hchars]; simp)) (List.mem_of_getLast? hd)

@[simp] theorem strip_lower_strip (s : String) :
    strip (lower (strip s)) = lower (strip s) :=
  strip_of_trimmed (trimmed_lower (trimmed_strip s))

theorem lower_eq_empty {s : String} : lower s = "" ↔ s = "" := by
  rw [lower, ← String.toList_inj, String.toList_ofList, String.toList_empty,
    List.flatMap_eq_nil_iff, ← String.toList_eq_nil_iff]
  constructor
  · intro h
    apply List.eq_nil_iff_forall_not_mem.mpr
    exact fun c hc => lowerChar_ne_nil c (h c hc)
  · intro h c hc
    rw [h] at hc
    cases hc

end Lower

end PyText
