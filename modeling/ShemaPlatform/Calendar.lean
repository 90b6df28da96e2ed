/-
Proleptic Gregorian dates with wall-clock times, advanced by days or by whole
months.  A day step is the successor of a date, so that no epoch is needed;
every advance by a positive amount is strictly later.
-/
import Mathlib.Data.Prod.Lex
import Mathlib.Tactic.Ring
import Mathlib.Order.Lattice

namespace Calendar

def isLeap (year : Nat) : Bool :=
  (year % 4 == 0 && year % 100 != 0) || year % 400 == 0

/-- `calendar.monthrange(year, month)[1]` -/
def daysIn (year month : Nat) : Nat :=
  if month == 2 then (if isLeap year then 29 else 28)
  else if month == 4 || month == 6 || month == 9 || month == 11 then 30
  else 31

theorem daysIn_pos (year month : Nat) : 28 ≤ daysIn year month := by
  unfold daysIn
  split
  · split <;> omega
  · split <;> omega

theorem daysIn_le (year month : Nat) : daysIn year month ≤ 31 := by
  unfold daysIn
  split
  · split <;> omega
  · split <;> omega

/-- A calendar date; the month and the day exist. -/
@[ext] structure Date where
  year : Nat
  month : Nat
  day : Nat
  month_valid : 1 ≤ month ∧ month ≤ 12
  day_valid : 1 ≤ day ∧ day ≤ daysIn year month
deriving DecidableEq

/-- Later dates are later in year, then month, then day. -/
def Date.before (a b : Date) : Prop :=
  a.year < b.year ∨ (a.year = b.year ∧
    (a.month < b.month ∨ (a.month = b.month ∧ a.day < b.day)))

instance (a b : Date) : Decidable (a.before b) := by
  unfold Date.before
  infer_instance

theorem Date.before_trans {a b c : Date} (hab : a.before b)
    (hbc : b.before c) : a.before c := by
  unfold Date.before at *
  omega

theorem Date.before_irrefl (a : Date) : ¬ a.before a := by
  unfold Date.before
  omega

/-- The day after. -/
def Date.next (date : Date) : Date :=
  if hday : date.day < daysIn date.year date.month then
    ⟨date.year, date.month, date.day + 1, date.month_valid, by omega⟩
  else if hmonth : date.month < 12 then
    ⟨date.year, date.month + 1, 1, by have := date.month_valid; omega,
      by have := daysIn_pos date.year (date.month + 1); omega⟩
  else
    ⟨date.year + 1, 1, 1, by omega,
      by have := daysIn_pos (date.year + 1) 1; omega⟩

/-- The day before. -/
def Date.previous (date : Date) : Date :=
  if hday : 1 < date.day then
    ⟨date.year, date.month, date.day - 1, date.month_valid, by
      have := date.day_valid; omega⟩
  else if hmonth : 1 < date.month then
    ⟨date.year, date.month - 1, daysIn date.year (date.month - 1),
      by have := date.month_valid; omega,
      by have := daysIn_pos date.year (date.month - 1); omega⟩
  else
    ⟨date.year - 1, 12, 31, by omega, by simp [daysIn]⟩

theorem Date.before_next (date : Date) : date.before date.next := by
  unfold Date.before Date.next
  split
  · exact Or.inr ⟨rfl, Or.inr ⟨rfl, Nat.lt_succ_self _⟩⟩
  · split
    · exact Or.inr ⟨rfl, Or.inl (Nat.lt_succ_self _)⟩
    · exact Or.inl (Nat.lt_succ_self _)

/-- `date + timedelta(days=n)` -/
def Date.plusDays (date : Date) : Nat → Date
  | 0 => date
  | n + 1 => (date.plusDays n).next

theorem Date.before_plusDays (date : Date) {n : Nat} (hn : 1 ≤ n) :
    date.before (date.plusDays n) := by
  induction n, hn using Nat.le_induction with
  | base => exact date.before_next
  | succ n _ ih => exact Date.before_trans ih (Date.before_next _)

/-- The same day `n` months on, or the last day of that month. -/
def Date.plusMonths (date : Date) (n : Nat) : Date :=
  let index := date.month - 1 + n
  let year := date.year + index / 12
  let month := index % 12 + 1
  ⟨year, month, min date.day (daysIn year month), by omega, by
    have hdays := daysIn_pos year month
    have hday := date.day_valid
    omega⟩

theorem Date.before_plusMonths (date : Date) {n : Nat} (hn : 1 ≤ n) :
    date.before (date.plusMonths n) := by
  have hmonth := date.month_valid
  simp only [Date.before, Date.plusMonths]
  omega

/-- A clock reading, in microseconds since a fixed epoch. -/
abbrev Instant := Int

/-- A date and a time of day in microseconds, in the zone of the session; a
naive value has no zone. -/
structure DateTime where
  date : Date
  micros : Nat
  zoned : Bool
  micros_valid : micros < 86400000000
deriving DecidableEq

/-- An aware value so long after the start of a day, or before it. -/
def DateTime.ofMicros (date : Date) (micros : Int)
    (hmicros : -86400000000 ≤ micros ∧ micros < 172800000000) : DateTime :=
  if hbefore : micros < 0 then
    ⟨date.previous, (micros + 86400000000).toNat, true, by omega⟩
  else if hafter : 86400000000 ≤ micros then
    ⟨date.next, (micros - 86400000000).toNat, true, by omega⟩
  else ⟨date, micros.toNat, true, by omega⟩

@[simp] theorem DateTime.zoned_ofMicros (date : Date) (micros : Int)
    (hmicros : -86400000000 ≤ micros ∧ micros < 172800000000) :
    (DateTime.ofMicros date micros hmicros).zoned = true := by
  unfold DateTime.ofMicros
  split
  · rfl
  · split <;> rfl

/-- The order of aware values of one zone. -/
def DateTime.before (a b : DateTime) : Prop :=
  a.date.before b.date ∨ (a.date = b.date ∧ a.micros < b.micros)

theorem DateTime.before_trans {a b c : DateTime} (hab : a.before b)
    (hbc : b.before c) : a.before c := by
  rcases hab with hab | ⟨hab, hmicros⟩
  · rcases hbc with hbc | ⟨hbc, _⟩
    · exact Or.inl (Date.before_trans hab hbc)
    · exact Or.inl (hbc ▸ hab)
  · rcases hbc with hbc | ⟨hbc, hmicros'⟩
    · exact Or.inl (hab ▸ hbc)
    · exact Or.inr ⟨hab.trans hbc, Nat.lt_trans hmicros hmicros'⟩

theorem DateTime.before_irrefl (a : DateTime) : ¬ a.before a := by
  rintro (h | ⟨_, h⟩)
  · exact Date.before_irrefl a.date h
  · exact Nat.lt_irrefl _ h

instance : Preorder DateTime where
  le a b := a = b ∨ a.before b
  lt a b := a.before b
  le_refl _ := Or.inl rfl
  le_trans a b c := by
    rintro (rfl | hab) (rfl | hbc)
    · exact Or.inl rfl
    · exact Or.inr hbc
    · exact Or.inr hab
    · exact Or.inr (DateTime.before_trans hab hbc)
  lt_iff_le_not_ge a b := by
    constructor
    · intro hab
      refine ⟨Or.inr hab, ?_⟩
      rintro (rfl | hba)
      · exact DateTime.before_irrefl _ hab
      · exact DateTime.before_irrefl _ (DateTime.before_trans hab hba)
    · rintro ⟨rfl | hab, hba⟩
      · exact absurd (Or.inl rfl) hba
      · exact hab

def DateTime.atDate (value : DateTime) (date : Date) : DateTime :=
  { value with date }

theorem DateTime.before_atDate {value : DateTime} {date : Date}
    (h : value.date.before date) : value.before (value.atDate date) :=
  Or.inl h

end Calendar
