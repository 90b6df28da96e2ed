/-
Texts of JSON values as `json.dumps` writes them, in ASCII and with sorted
keys.  A text is the text of one value only, also in front of other text.
-/
import Mathlib.Data.List.Sort
import ShemaPlatform.DigitText

namespace JsonText

open DigitText

section Quoted

/-- `'\\u{0:04x}'.format(unit)` -/
def escapeUnit (unit : ℕ) : List Char :=
  '\\' :: 'u' :: pad 16 4 unit

/-- What a code point becomes inside a string. -/
def escape (c : Char) : List Char :=
  if c = '"' then ['\\', '"']
  else if c = '\\' then ['\\', '\\']
  else if c = '\n' then ['\\', 'n']
  else if c = '\r' then ['\\', 'r']
  else if c = '\t' then ['\\', 't']
  else if c = '\x0c' then ['\\', 'f']
  else if c = '\x08' then ['\\', 'b']
  else if 32 ≤ c.toNat ∧ c.toNat ≤ 126 then [c]
  else if c.toNat < 0x10000 then escapeUnit c.toNat
  else escapeUnit (0xD800 + (c.toNat - 0x10000) / 1024) ++
    escapeUnit (0xDC00 + (c.toNat - 0x10000) % 1024)

def quote (s : String) : List Char :=
  '"' :: (s.toList.flatMap escape ++ ['"'])

/-- A string under `ensure_ascii=False`: only what has to be is escaped. -/
def quoteUnicode (s : String) : List Char :=
  '"' :: (s.toList.flatMap (fun c =>
    if 32 ≤ c.toNat ∧ c ≠ '"' ∧ c ≠ '\\' then [c] else escape c) ++ ['"'])

/-- The code point a short escape stands for. -/
def unescape (c : Char) : Char :=
  if c = 'n' then '\n'
  else if c = 'r' then '\r'
  else if c = 't' then '\t'
  else if c = 'f' then '\x0c'
  else if c = 'b' then '\x08'
  else c

/-- The first code point of the inside of a string, and what follows it. -/
def readChar : List Char → Option (Char × List Char)
  | '\\' :: 'u' :: rest =>
      let unit := value 16 (rest.take 4)
      if unit < 0xD800 ∨ 0xE000 ≤ unit then some (Char.ofNat unit, rest.drop 4)
      else
        let low := value 16 ((rest.drop 6).take 4)
        some (Char.ofNat (0x10000 + (unit - 0xD800) * 1024 + (low - 0xDC00)),
          rest.drop 10)
  | '\\' :: c :: rest => some (unescape c, rest)
  | c :: rest => some (c, rest)
  | [] => none

/-- The scalar values that are not in the surrogate range. -/
theorem toNat_valid (c : Char) :
    c.toNat < 0xD800 ∨ (0xE000 ≤ c.toNat ∧ c.toNat < 0x110000) := by
  have hvalid := c.valid
  have hval : c.val.toNat = c.toNat := rfl
  simp only [UInt32.isValidChar, Nat.isValidChar, hval] at hvalid
  omega

theorem readChar_unit {unit : ℕ} (hunit : unit < 0xD800 ∨ 0xE000 ≤ unit)
    (hsmall : unit < 0x10000) (rest : List Char) :
    readChar (escapeUnit unit ++ rest) = some (Char.ofNat unit, rest) := by
  have hvalue : value 16 (pad 16 4 unit) = unit :=
    value_pad (by decide) (by decide) hsmall
  simp only [escapeUnit, List.cons_append, readChar]
  rw [List.take_left' (length_pad 16 4 unit), List.drop_left' (length_pad 16 4 unit),
    hvalue, if_pos hunit]

theorem readChar_pair {high low : ℕ} (hhigh : high < 1024) (hlow : low < 1024)
    (rest : List Char) :
    readChar (escapeUnit (0xD800 + high) ++ (escapeUnit (0xDC00 + low) ++ rest)) =
      some (Char.ofNat (0x10000 + high * 1024 + low), rest) := by
  have hfirst : value 16 (pad 16 4 (0xD800 + high)) = 0xD800 + high :=
    value_pad (by decide) (by decide) (by omega)
  have hsecond : value 16 (pad 16 4 (0xDC00 + low)) = 0xDC00 + low :=
    value_pad (by decide) (by decide) (by omega)
  have hdrop : ∀ tail : List Char,
      (pad 16 4 (0xD800 + high) ++ tail).drop 6 = tail.drop 2 := by
    intro tail
    rw [List.drop_append, List.drop_of_length_le (by simp), length_pad]
    rfl
  have hdrop' : ∀ tail : List Char,
      (pad 16 4 (0xD800 + high) ++ tail).drop 10 = tail.drop 6 := by
    intro tail
    rw [List.drop_append, List.drop_of_length_le (by simp), length_pad]
    rfl
  simp only [escapeUnit, List.cons_append, readChar]
  rw [List.take_left' (length_pad 16 4 _), hfirst, hdrop, hdrop', if_neg (by omega)]
  simp only [List.drop_succ_cons, List.drop_zero]
  rw [List.take_left' (length_pad 16 4 _), List.drop_left' (length_pad 16 4 _), hsecond,
    Nat.add_sub_cancel_left, Nat.add_sub_cancel_left]

theorem readChar_plain {c : Char} (hc : c ≠ '\\') (rest : List Char) :
    readChar (c :: rest) = some (c, rest) := by
  unfold readChar
  split
  · rename_i heq
    exact absurd (List.cons.inj heq).1 hc
  · rename_i heq
    exact absurd (List.cons.inj heq).1 hc
  · rename_i heq
    obtain ⟨rfl, rfl⟩ := List.cons.inj heq
    rfl
  · simp at *

/-- An escaped code point is read back. -/
theorem readChar_escape (c : Char) (rest : List Char) :
    readChar (escape c ++ rest) = some (c, rest) := by
  unfold escape
  split_ifs with hquote hslash hn hr ht hf hb hplain hsmall
  · subst hquote; rfl
  · subst hslash; rfl
  · subst hn; rfl
  · subst hr; rfl
  · subst ht; rfl
  · subst hf; rfl
  · subst hb; rfl
  · exact readChar_plain hslash rest
  · rw [readChar_unit (by have := toNat_valid c; omega) hsmall, Char.ofNat_toNat]
  · have hvalid := toNat_valid c
    rw [List.append_assoc, readChar_pair (by omega) (Nat.mod_lt _ (by decide)),
      Nat.add_assoc, Nat.div_add_mod', Nat.add_sub_cancel' (by omega), Char.ofNat_toNat]

/-- The inside of a string never ends by accident. -/
theorem escape_head (c : Char) (rest rest' : List Char) :
    escape c ++ rest ≠ '"' :: rest' := by
  intro h
  by_cases hquote : c = '"'
  · simp [hquote, escape] at h
  · have hread := readChar_escape c rest
    rw [h, readChar_plain (by decide)] at hread
    exact hquote (Prod.mk.inj (Option.some.inj hread)).1.symm

/-- A quoted string ends where it says. -/
theorem quote_append_inj {s t : String} {rest rest' : List Char}
    (h : quote s ++ rest = quote t ++ rest') : s = t ∧ rest = rest' := by
  have hlists : ∀ {l l' : List Char},
      l.flatMap escape ++ '"' :: rest = l'.flatMap escape ++ '"' :: rest' →
      l = l' ∧ rest = rest' := by
    intro l l' hl
    induction l generalizing l' with
    | nil =>
        cases l' with
        | nil => exact ⟨rfl, (List.cons.inj hl).2⟩
        | cons c l' =>
            rw [List.flatMap_cons, List.append_assoc] at hl
            exact absurd hl.symm (escape_head c _ _)
    | cons c l ih =>
        cases l' with
        | nil =>
            rw [List.flatMap_cons, List.append_assoc] at hl
            exact absurd hl (escape_head c _ _)
        | cons c' l' =>
            rw [List.flatMap_cons, List.append_assoc, List.flatMap_cons,
              List.append_assoc] at hl
            have hread := congrArg readChar hl
            rw [readChar_escape, readChar_escape] at hread
            obtain ⟨rfl, htail⟩ := Prod.mk.inj (Option.some.inj hread)
            obtain ⟨rfl, hsame⟩ := ih htail
            exact ⟨rfl, hsame⟩
  simp only [quote, List.cons_append, List.append_assoc, List.nil_append,
    List.cons.injEq, true_and] at h
  obtain ⟨hchars, hrest⟩ := hlists h
  exact ⟨String.toList_inj.mp hchars, hrest⟩

end Quoted

mutual

inductive Json where
  | text (value : String)
  | number (value : ℕ)
  | object (fields : Fields)

inductive Fields where
  | none
  | field (key : String) (value : Json) (rest : Fields)

end

/-- The fields of a dictionary, in the order of their keys. -/
def Fields.sorted (entries : List (String × Json)) : Fields :=
  (entries.insertionSort fun a b => a.1 ≤ b.1).foldr
    (fun entry rest => .field entry.1 entry.2 rest) .none

/-- A dictionary, under `sort_keys=True`. -/
def Json.dict (entries : List (String × Json)) : Json :=
  .object (.sorted entries)

def Fields.keys : Fields → List String
  | .none => []
  | .field key _ rest => key :: rest.keys

/-- The keys of a dictionary, as they are written. -/
def Json.keys : Json → List String
  | .object fields => fields.keys
  | _ => []

mutual

def Json.chars : Json → List Char
  | .text value => quote value
  | .number value => Nat.toDigits 10 value
  | .object fields => '{' :: fields.chars []

/-- The fields up to the closing brace, each behind the separator. -/
def Fields.chars (separator : List Char) : Fields → List Char
  | .none => ['}']
  | .field key value rest =>
      separator ++ (quote key ++ ([':', ' '] ++ (value.chars ++
        rest.chars [',', ' '])))

end

def Json.dumps (value : Json) : String :=
  String.ofList value.chars

theorem Fields.stops_chars (fields : Fields) (rest : List Char) :
    Stops (fields.chars [',', ' '] ++ rest) := by
  cases fields with
  | none =>
      rw [Fields.chars, List.cons_append, stops_cons]
      rfl
  | field key value tail =>
      rw [Fields.chars, List.cons_append, List.cons_append, stops_cons]
      rfl

/-- The kind of a value shows in the first character of its text. -/
theorem Json.head_chars (value : Json) : ∃ c rest, value.chars = c :: rest ∧
    (c = '"' ↔ ∃ s, value = .text s) ∧ (c = '{' ↔ ∃ fields, value = .object fields) := by
  cases value with
  | text s => exact ⟨'"', _, rfl, by simp, by simp⟩
  | number n =>
      cases hdigits : Nat.toDigits 10 n with
      | nil => exact absurd hdigits Nat.toDigits_ne_nil
      | cons c rest =>
          have hdigit := isDigit_of_mem (hdigits ▸ List.mem_cons_self :
            c ∈ Nat.toDigits 10 n)
          refine ⟨c, rest, hdigits, ?_, ?_⟩
          · simp only [reduceCtorEq, exists_false, iff_false]
            rintro rfl
            simp at hdigit
          · simp only [reduceCtorEq, exists_false, iff_false]
            rintro rfl
            simp at hdigit
  | object fields => exact ⟨'{', _, rfl, by simp, by simp⟩

/-- A closing brace is not the start of a further field. -/
theorem Fields.closing_ne {separator rest rest' : List Char} {key : String}
    {value : Json} {tail : Fields} (hseparator : '}' ∉ separator.head?) :
    Fields.none.chars separator ++ rest ≠
      (Fields.field key value tail).chars separator ++ rest' := by
  intro h
  cases separator with
  | nil =>
      have hhead := (List.cons.inj h).1
      simp at hhead
  | cons c separator =>
      have hhead := (List.cons.inj h).1
      simp [← hhead] at hseparator

mutual

/-- Two values whose texts start the same text are the same. -/
theorem Json.chars_append_inj {v w : Json} {rest rest' : List Char}
    (hrest : Stops rest) (hrest' : Stops rest')
    (h : v.chars ++ rest = w.chars ++ rest') : v = w ∧ rest = rest' := by
  obtain ⟨c, tail, hv, htext, hobject⟩ := v.head_chars
  obtain ⟨c', tail', hw, htext', hobject'⟩ := w.head_chars
  have hc : c = c' := by
    rw [hv, hw] at h
    exact (List.cons.inj h).1
  subst hc
  cases v with
  | text s =>
      obtain ⟨t, rfl⟩ := htext'.mp (htext.mpr ⟨s, rfl⟩)
      obtain ⟨rfl, hsame⟩ := quote_append_inj h
      exact ⟨rfl, hsame⟩
  | object fields =>
      obtain ⟨fields', rfl⟩ := hobject'.mp (hobject.mpr ⟨fields, rfl⟩)
      simp only [Json.chars, List.cons_append, List.cons.injEq, true_and] at h
      obtain ⟨rfl, hsame⟩ := Fields.chars_append_inj (by simp) h
      exact ⟨rfl, hsame⟩
  | number n =>
      cases w with
      | text t => simpa using htext.mp (htext'.mpr ⟨t, rfl⟩)
      | object fields => simpa using hobject.mp (hobject'.mpr ⟨fields, rfl⟩)
      | number m =>
          obtain ⟨rfl, hsame⟩ := toDigits_append_inj hrest hrest' h
          exact ⟨rfl, hsame⟩

theorem Fields.chars_append_inj {separator : List Char} {fields fields' : Fields}
    {rest rest' : List Char} (hseparator : '}' ∉ separator.head?)
    (h : fields.chars separator ++ rest = fields'.chars separator ++ rest') :
    fields = fields' ∧ rest = rest' := by
  cases fields with
  | none =>
      cases fields' with
      | none => exact ⟨rfl, (List.cons.inj h).2⟩
      | field key' value' tail' => exact absurd h (Fields.closing_ne hseparator)
  | field key value tail =>
      cases fields' with
      | none => exact absurd h.symm (Fields.closing_ne hseparator)
      | field key' value' tail' =>
          simp only [Fields.chars, List.append_assoc, List.append_cancel_left_eq] at h
          obtain ⟨rfl, hvalue⟩ := quote_append_inj h
          rw [List.append_cancel_left_eq] at hvalue
          obtain ⟨rfl, htail⟩ := Json.chars_append_inj (tail.stops_chars rest)
            (tail'.stops_chars rest') hvalue
          obtain ⟨rfl, hsame⟩ := Fields.chars_append_inj (by simp) htail
          exact ⟨rfl, hsame⟩

end

theorem Json.dumps_injective : Function.Injective Json.dumps := by
  intro v w h
  have hchars := congrArg (· ++ ([] : List Char)) (String.ofList_inj.mp h)
  exact (Json.chars_append_inj stops_nil stops_nil hchars).1

/-- Dictionaries with different keys have different texts. -/
theorem Json.dumps_ne {v w : Json} (hkeys : v.keys ≠ w.keys) :
    v.dumps ≠ w.dumps :=
  fun h => hkeys (congrArg keys (Json.dumps_injective h))

end JsonText
