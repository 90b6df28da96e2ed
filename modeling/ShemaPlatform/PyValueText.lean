/-
Times and decimal numbers as a request body carries them, with the texts that
`str` gives them.  The texts tell the values apart.
-/
import Mathlib.Tactic.Linarith
import ShemaPlatform.Calendar
import ShemaPlatform.DigitText

namespace PyText

open Calendar DigitText

/-- A `datetime`: a wall-clock time, with its offset from UTC in minutes unless
it is naive. -/
structure Timestamp where
  date : Date
  micros : ℕ
  offset : Option ℤ
  year_valid : 1 ≤ date.year ∧ date.year ≤ 9999
  micros_valid : micros < 24 * 60 * 60 * 1000000
  offset_valid : ∀ minutes ∈ offset, minutes.natAbs < 1440
deriving DecidableEq

namespace Timestamp

/-- The value on the UTC clock of the sessions. -/
def toDateTime (time : Timestamp) : DateTime :=
  match hoffset : time.offset with
  | none => ⟨time.date, time.micros, false, Nat.lt_of_lt_of_eq time.micros_valid rfl⟩
  | some minutes =>
      .ofMicros time.date (time.micros - minutes * 60000000) (by
        have hminutes := time.offset_valid minutes hoffset
        have hmicros := time.micros_valid
        omega)

theorem zoned_toDateTime (time : Timestamp) :
    time.toDateTime.zoned = time.offset.isSome := by
  unfold toDateTime
  split
  · rename_i hoffset
    exact (congrArg Option.isSome hoffset).symm
  · rename_i minutes hoffset
    rw [DateTime.zoned_ofMicros]
    exact (congrArg Option.isSome hoffset).symm

/-- Everything up to the whole second. -/
def clock (time : Timestamp) : List Char :=
  pad 10 4 time.date.year ++ ('-' :: (pad 10 2 time.date.month ++
    ('-' :: (pad 10 2 time.date.day ++ (' ' ::
      (pad 10 2 (time.micros / 3600000000) ++ (':' ::
        (pad 10 2 (time.micros / 60000000 % 60) ++ (':' ::
          pad 10 2 (time.micros / 1000000 % 60))))))))))

def fraction (time : Timestamp) : List Char :=
  if time.micros % 1000000 = 0 then []
  else '.' :: pad 10 6 (time.micros % 1000000)

def zone (time : Timestamp) : List Char :=
  match time.offset with
  | none => []
  | some minutes =>
      (if minutes < 0 then '-' else '+') :: (pad 10 2 (minutes.natAbs / 60) ++
        (':' :: pad 10 2 (minutes.natAbs % 60)))

/-- `str(value)`, which is `value.isoformat(" ")` -/
def chars (time : Timestamp) : List Char :=
  time.clock ++ (time.fraction ++ time.zone)

variable {time time' : Timestamp}

theorem clock_append_inj {rest rest' : List Char}
    (h : time.clock ++ rest = time'.clock ++ rest') :
    time.date = time'.date ∧ time.micros / 1000000 = time'.micros / 1000000 ∧
      rest = rest' := by
  have hmicros := time.micros_valid
  have hmicros' := time'.micros_valid
  have hyear := time.year_valid
  have hyear' := time'.year_valid
  have hmonth := time.date.month_valid
  have hmonth' := time'.date.month_valid
  have hday := Nat.le_trans time.date.day_valid.2 (daysIn_le _ _)
  have hday' := Nat.le_trans time'.date.day_valid.2 (daysIn_le _ _)
  simp only [clock, List.append_assoc, List.cons_append] at h
  obtain ⟨hyears, h⟩ := pad_append_inj (by omega) (by omega) h
  obtain ⟨hmonths, h⟩ := pad_append_inj (by omega) (by omega) (List.cons.inj h).2
  obtain ⟨hdays, h⟩ := pad_append_inj (by omega) (by omega) (List.cons.inj h).2
  obtain ⟨hhours, h⟩ := pad_append_inj (by omega) (by omega) (List.cons.inj h).2
  obtain ⟨hminutes, h⟩ := pad_append_inj (by omega) (by omega) (List.cons.inj h).2
  obtain ⟨hseconds, h⟩ := pad_append_inj (by omega) (by omega) (List.cons.inj h).2
  exact ⟨Date.ext hyears hmonths hdays, by omega, h⟩

theorem zone_inj (h : time.zone = time'.zone) : time.offset = time'.offset := by
  have hvalid := time.offset_valid
  have hvalid' := time'.offset_valid
  unfold zone at h
  cases hoffset : time.offset with
  | none =>
      cases hoffset' : time'.offset with
      | none => rfl
      | some minutes' => simp [hoffset, hoffset'] at h
  | some minutes =>
      cases hoffset' : time'.offset with
      | none => simp [hoffset, hoffset'] at h
      | some minutes' =>
          have hminutes := hvalid minutes hoffset
          have hminutes' := hvalid' minutes' hoffset'
          simp only [hoffset, hoffset', List.cons.injEq] at h
          obtain ⟨hsign, h⟩ := h
          obtain ⟨hhours, h⟩ := pad_append_inj (by omega) (by omega) h
          have hrest := pad_inj (by decide) (by decide) (by omega) (by omega)
            (List.cons.inj h).2
          have hsame : minutes < 0 ↔ minutes' < 0 := by
            constructor
            · intro hneg
              by_contra hpos
              simp [hneg, hpos] at hsign
            · intro hneg
              by_contra hpos
              simp [hneg, hpos] at hsign
          rw [Option.some.injEq]
          omega

theorem head_zone (time : Timestamp) (rest : List Char) :
    time.zone ≠ '.' :: rest := by
  unfold zone
  intro h
  split at h
  · simp at h
  · have hsign := (List.cons.inj h).1
    split_ifs at hsign <;> simp at hsign

theorem fraction_append_inj
    (h : time.fraction ++ time.zone = time'.fraction ++ time'.zone) :
    time.micros % 1000000 = time'.micros % 1000000 ∧ time.zone = time'.zone := by
  unfold fraction at h
  split_ifs at h with hzero hzero' hzero'
  · exact ⟨hzero.trans hzero'.symm, h⟩
  · exact absurd h (head_zone time _)
  · exact absurd h.symm (head_zone time' _)
  · exact pad_append_inj (by omega) (by omega) (List.cons.inj h).2

/-- The text of a time tells everything about it. -/
theorem chars_injective : Function.Injective chars := by
  intro time time' h
  obtain ⟨hdate, hseconds, hrest⟩ := clock_append_inj h
  obtain ⟨hmicros, hzone⟩ := fraction_append_inj hrest
  have hoffset := zone_inj hzone
  have hsame : time.micros = time'.micros := by omega
  cases time
  cases time'
  simp only [mk.injEq] at hdate hsame hoffset ⊢
  exact ⟨hdate, hsame, hoffset⟩

end Timestamp

/-- A positive `Decimal`: its digits as a whole number, and its exponent. -/
structure PositiveDecimal where
  coefficient : ℕ
  exponent : ℤ
  coefficient_pos : 0 < coefficient
deriving DecidableEq

namespace PositiveDecimal

def value (number : PositiveDecimal) : ℚ :=
  number.coefficient * 10 ^ number.exponent

theorem value_pos (number : PositiveDecimal) : 0 < number.value := by
  have hcoefficient : (0 : ℚ) < number.coefficient := by
    exact_mod_cast number.coefficient_pos
  exact mul_pos hcoefficient (zpow_pos (by norm_num) _)

def digits (number : PositiveDecimal) : List Char :=
  Nat.toDigits 10 number.coefficient

/-- `'%+d' % n` -/
def signed (n : ℤ) : List Char :=
  (if n < 0 then '-' else '+') :: Nat.toDigits 10 n.natAbs

/-- Digits with a decimal point after the first `place` of them. -/
def pointed (digits : List Char) (place : ℤ) : List Char :=
  if place ≤ 0 then '0' :: '.' :: (List.replicate (-place).toNat '0' ++ digits)
  else if digits.length ≤ place then
    digits ++ List.replicate (place - digits.length).toNat '0'
  else digits.take place.toNat ++ '.' :: digits.drop place.toNat

/-- How many digits would stand before the point if there were no exponent. -/
def leftDigits (number : PositiveDecimal) : ℤ :=
  number.exponent + number.digits.length

/-- Where the point goes: a small exponent is written out. -/
def dotPlace (number : PositiveDecimal) : ℤ :=
  if number.exponent ≤ 0 ∧ -6 < number.leftDigits then number.leftDigits else 1

/-- `str(value)` -/
def chars (number : PositiveDecimal) : List Char :=
  pointed number.digits number.dotPlace ++
    (if number.leftDigits = number.dotPlace then []
    else 'E' :: signed (number.leftDigits - number.dotPlace))

section Reading

/-- The whole number behind the digits of a mantissa. -/
def coefficientOf (mantissa : List Char) : ℕ :=
  Nat.ofDigitChars 10 (mantissa.filter (· ≠ '.')) 0

/-- The digits behind the point. -/
def fractionOf (mantissa : List Char) : List Char :=
  (mantissa.dropWhile (· ≠ '.')).tail

def signedValue : List Char → ℤ
  | '-' :: digits => -Nat.ofDigitChars 10 digits 0
  | _ :: digits => Nat.ofDigitChars 10 digits 0
  | [] => 0

/-- The coefficient and the exponent behind a text. -/
def read (text : List Char) : ℕ × ℤ :=
  let mantissa := text.takeWhile (· ≠ 'E')
  (coefficientOf mantissa, signedValue (text.dropWhile (· ≠ 'E')).tail -
    (fractionOf mantissa).length)

theorem signedValue_signed (n : ℤ) : signedValue (signed n) = n := by
  unfold signed
  split_ifs with hneg
  · rw [signedValue, Nat.ofDigitChars_ten_toDigits]
    omega
  · rw [signedValue, Nat.ofDigitChars_ten_toDigits]
    · omega
    · simp

section Pointed

variable {digits : List Char} {place : ℤ}

theorem filter_digits (hdigits : ∀ c ∈ digits, c.isDigit = true) :
    digits.filter (· ≠ '.') = digits := by
  apply List.filter_eq_self.mpr
  intro c hc
  rw [decide_eq_true_eq]
  rintro rfl
  simpa using hdigits '.' hc

theorem dropWhile_digits (hdigits : ∀ c ∈ digits, c.isDigit = true)
    (rest : List Char) :
    (digits ++ rest).dropWhile (· ≠ '.') = rest.dropWhile (· ≠ '.') := by
  apply List.dropWhile_append_of_pos
  intro c hc
  rw [decide_eq_true_eq]
  rintro rfl
  simpa using hdigits '.' hc

theorem mem_pointed (hdigits : ∀ c ∈ digits, c.isDigit = true) {c : Char}
    (hc : c ∈ pointed digits place) : c ≠ 'E' := by
  rintro rfl
  unfold pointed at hc
  split_ifs at hc with hzero hall
  · simp only [List.mem_cons, List.mem_append, List.mem_replicate] at hc
    rcases hc with hc | hc | ⟨_, hc⟩ | hc
    · simp at hc
    · simp at hc
    · simp at hc
    · simpa using hdigits 'E' hc
  · rw [List.mem_append, List.mem_replicate] at hc
    rcases hc with hc | ⟨_, hc⟩
    · simpa using hdigits 'E' hc
    · simp at hc
  · rw [List.mem_append, List.mem_cons] at hc
    rcases hc with hc | hc | hc
    · simpa using hdigits 'E' (List.mem_of_mem_take hc)
    · simp at hc
    · simpa using hdigits 'E' (List.mem_of_mem_drop hc)

theorem coefficientOf_pointed (hdigits : ∀ c ∈ digits, c.isDigit = true)
    (hplace : place ≤ digits.length) :
    coefficientOf (pointed digits place) = Nat.ofDigitChars 10 digits 0 := by
  unfold coefficientOf pointed
  split_ifs with hzero hall
  · have hzeros : (List.replicate (-place).toNat '0').filter (· ≠ '.') =
        List.replicate (-place).toNat '0' := by
      apply filter_digits
      intro c hc
      rw [List.eq_of_mem_replicate hc]
      rfl
    rw [List.filter_cons_of_pos (by decide), List.filter_cons_of_neg (by decide),
      List.filter_append, hzeros, filter_digits hdigits, Nat.ofDigitChars_cons,
      Nat.ofDigitChars_append, Nat.ofDigitChars_replicate_zero]
    simp
  · have hnone : (place - digits.length).toNat = 0 := by omega
    rw [hnone, List.replicate_zero, List.append_nil, filter_digits hdigits]
  · rw [List.filter_append, List.filter_cons_of_neg (by decide), ← List.filter_append,
      List.take_append_drop, filter_digits hdigits]

theorem length_fractionOf_pointed (hdigits : ∀ c ∈ digits, c.isDigit = true)
    (hplace : place ≤ digits.length) :
    ((fractionOf (pointed digits place)).length : ℤ) = digits.length - place := by
  unfold fractionOf pointed
  split_ifs with hzero hall
  · rw [List.dropWhile_cons_of_pos (by decide), List.dropWhile_cons_of_neg (by decide),
      List.tail_cons, List.length_append, List.length_replicate]
    omega
  · have hnone : (place - digits.length).toNat = 0 := by omega
    rw [hnone, List.replicate_zero, dropWhile_digits hdigits]
    simp only [List.dropWhile_nil, List.tail_nil, List.length_nil]
    omega
  · rw [dropWhile_digits fun c hc => hdigits c (List.mem_of_mem_take hc),
      List.dropWhile_cons_of_neg (by decide), List.tail_cons, List.length_drop]
    omega

end Pointed

variable {number : PositiveDecimal}

/-- The point never goes behind the last digit. -/
theorem dotPlace_le : number.dotPlace ≤ number.digits.length := by
  have hpos : 0 < number.digits.length := Nat.length_toDigits_pos
  unfold dotPlace leftDigits
  split_ifs with hplain
  · omega
  · omega

theorem read_append {mantissa : List Char} (hmantissa : ∀ c ∈ mantissa, c ≠ 'E')
    (n : ℤ) : read (mantissa ++ (if n = 0 then [] else 'E' :: signed n)) =
      (coefficientOf mantissa, n - (fractionOf mantissa).length) := by
  have hall : ∀ c ∈ mantissa, decide (c ≠ 'E') = true := by simpa using hmantissa
  unfold read
  rw [List.takeWhile_append_of_pos hall, List.dropWhile_append_of_pos hall]
  split_ifs with hzero
  · simp [hzero, signedValue]
  · rw [List.takeWhile_cons_of_neg (by decide), List.dropWhile_cons_of_neg (by decide),
      List.append_nil, List.tail_cons, signedValue_signed]

/-- A decimal is read back from its text. -/
theorem read_chars (number : PositiveDecimal) :
    read number.chars = (number.coefficient, number.exponent) := by
  have hdigits : ∀ c ∈ number.digits, c.isDigit = true := fun _ => isDigit_of_mem
  have hexponent : (number.leftDigits = number.dotPlace) =
      (number.leftDigits - number.dotPlace = 0) := by
    rw [sub_eq_zero]
  rw [chars, if_congr (iff_of_eq hexponent) rfl rfl,
    read_append fun _ => mem_pointed hdigits, coefficientOf_pointed hdigits dotPlace_le,
    length_fractionOf_pointed hdigits dotPlace_le]
  apply Prod.ext
  · exact Nat.ofDigitChars_ten_toDigits
  · change number.leftDigits - number.dotPlace -
      (number.digits.length - number.dotPlace) = number.exponent
    unfold leftDigits
    omega

theorem chars_injective : Function.Injective chars := by
  intro number number' h
  have hread := congrArg read h
  rw [read_chars, read_chars] at hread
  obtain ⟨hcoefficient, hexponent⟩ := Prod.mk.inj hread
  cases number
  cases number'
  simp only [mk.injEq]
  exact ⟨hcoefficient, hexponent⟩

end Reading

end PositiveDecimal

/-- The civil date of a day counted from 1970-01-01. -/
def civil (days : ℤ) : ℤ × ℕ × ℕ :=
  -- eras of 400 years that begin on the first of March
  let era := (days + 719468) / 146097
  let day := ((days + 719468) % 146097).toNat
  let yearOfEra := (day - day / 1460 + day / 36524 - day / 146096) / 365
  let dayOfYear := day - (365 * yearOfEra + yearOfEra / 4 - yearOfEra / 100)
  let march := (5 * dayOfYear + 2) / 153
  let month := if march < 10 then march + 3 else march - 9
  (yearOfEra + era * 400 + if month ≤ 2 then 1 else 0, month,
    dayOfYear - (153 * march + 2) / 5 + 1)

/-- `moment.date().isoformat()` of a time on the UTC clock. -/
def isodate (moment : Instant) : String :=
  let (year, month, day) := civil (moment / 86400000000)
  String.ofList (pad 10 4 year.toNat ++ '-' :: pad 10 2 month ++ '-' :: pad 10 2 day)

example : isodate 1772323200250000 = "2026-03-01" := by
  decide +kernel

/-- `moment.isoformat()` of a time on the UTC clock. -/
def isoformat (moment : Instant) : String :=
  let (year, month, day) := civil (moment / 86400000000)
  let micros := (moment % 86400000000).toNat
  String.ofList (pad 10 4 year.toNat ++ '-' :: pad 10 2 month ++
    '-' :: pad 10 2 day ++ 'T' :: pad 10 2 (micros / 3600000000) ++
    ':' :: pad 10 2 (micros / 60000000 % 60) ++
    ':' :: pad 10 2 (micros / 1000000 % 60) ++
    (if micros % 1000000 = 0 then [] else '.' :: pad 10 6 (micros % 1000000)) ++
    ['+', '0', '0', ':', '0', '0'])

example : isoformat 1772323200250000 = "2026-03-01T00:00:00.250000+00:00" := by
  decide +kernel

/-- `moment.isoformat()` on a clock so many minutes ahead of UTC. -/
def isoformatAt (minutes : ℤ) (moment : Instant) : String :=
  let wall := (isoformat (moment + minutes * 60000000)).toList
  String.ofList (wall.take (wall.length - 6) ++ (if minutes < 0 then '-' else '+') ::
    (pad 10 2 (minutes.natAbs / 60) ++ ':' :: pad 10 2 (minutes.natAbs % 60)))

example : isoformatAt 180 1772323200250000 = "2026-03-01T03:00:00.250000+03:00" := by
  decide +kernel

end PyText
