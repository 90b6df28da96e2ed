/-
An advance of a schedule is strictly later and keeps the order of two schedules, but for
two days that one month is too short for: of these only the times of day are left.
-/
import ShemaPlatform.CadenceDrift

namespace Calendar

namespace Date

/-- The months of a date, counted from the year zero. -/
def monthsOf (date : Date) : Nat := 12 * date.year + (date.month - 1)

/-- Both days are of one month and become the last day of the month that lies so many
months on. -/
def MeetAfter (n : Nat) (a b : Date) : Prop :=
  a.year = b.year ∧ a.month = b.month ∧ a.lengthAfter n ≤ a.day ∧ a.lengthAfter n ≤ b.day

instance (n : Nat) (a b : Date) : Decidable (MeetAfter n a b) := by
  unfold MeetAfter
  infer_instance

variable {a b : Date} {n : Nat}

theorem monthsOf_plusMonths (date : Date) (n : Nat) :
    (date.plusMonths n).monthsOf = date.monthsOf + n := by
  simp only [monthsOf, plusMonths]
  omega

/-- The day after is no later than any day of a later month. -/
theorem next_of_later_month (h : a.before b) (hmonth : ¬ (a.year = b.year ∧ a.month = b.month)) :
    a.next.before b ∨ a.next = b := by
  have hmonths := a.month_valid
  have hmonths' := b.month_valid
  have hdays := b.day_valid
  unfold before at h
  unfold next
  split
  · left
    simp only [before]
    omega
  · split
    · rw [Date.ext_iff]
      simp only [before]
      omega
    · rw [Date.ext_iff]
      simp only [before]
      omega

theorem next_before_next (h : a.before b) : a.next.before b.next := by
  by_cases hmonth : a.year = b.year ∧ a.month = b.month
  · have hday : a.day < b.day := by
      unfold before at h
      omega
    have hvalid := b.day_valid.2
    rw [← hmonth.1, ← hmonth.2] at hvalid
    have hnext : a.next = ⟨a.year, a.month, a.day + 1, a.month_valid, by omega⟩ := by
      unfold next
      rw [dif_pos (hday.trans_le hvalid)]
    rw [hnext]
    unfold before next
    split
    · simp only
      omega
    · split
      · simp only
        omega
      · simp only
        omega
  · rcases next_of_later_month h hmonth with hnext | hnext
    · exact before_trans hnext b.before_next
    · rw [hnext]
      exact b.before_next

theorem plusDays_before_plusDays (h : a.before b) (n : Nat) :
    (a.plusDays n).before (b.plusDays n) := by
  induction n with
  | zero => exact h
  | succ n ih => exact next_before_next ih

/-- Two days of one month that both outlast the month reached become one. -/
theorem MeetAfter.plusMonths_eq (h : MeetAfter n a b) : a.plusMonths n = b.plusMonths n := by
  obtain ⟨hyear, hmonth, ha, hb⟩ := h
  have hlength : a.lengthAfter n = b.lengthAfter n := by
    simp only [lengthAfter, plusMonths, hyear, hmonth]
  rw [Date.ext_iff]
  constructor
  · simp only [plusMonths, hyear, hmonth]
  · constructor
    · simp only [plusMonths, hmonth]
    · rw [day_plusMonths, day_plusMonths, ← hlength]
      omega

theorem plusMonths_before_plusMonths (h : a.before b) (hapart : ¬ MeetAfter n a b) :
    (a.plusMonths n).before (b.plusMonths n) := by
  have hmonths := a.month_valid
  have hmonths' := b.month_valid
  by_cases hsame : a.year = b.year ∧ a.month = b.month
  · have hlength : a.lengthAfter n = b.lengthAfter n := by
      simp only [lengthAfter, plusMonths, hsame.1, hsame.2]
    have hday : a.day < b.day := by
      unfold before at h
      omega
    have hshort : a.day < a.lengthAfter n := by
      unfold MeetAfter at hapart
      omega
    have hdays : (a.plusMonths n).day < (b.plusMonths n).day := by
      rw [day_plusMonths, day_plusMonths, ← hlength]
      omega
    have hyear : (a.plusMonths n).year = (b.plusMonths n).year := by
      simp only [plusMonths, hsame.1, hsame.2]
    have hmonth : (a.plusMonths n).month = (b.plusMonths n).month := by
      simp only [plusMonths, hsame.2]
    exact Or.inr ⟨hyear, Or.inr ⟨hmonth, hdays⟩⟩
  · simp only [before, plusMonths] at h ⊢
    omega

end Date

end Calendar

namespace ShemaPlatform

open Calendar

namespace RepeatCadence

variable {cadence : RepeatCadence} {earlier later next next' : DateTime}

/-- Two months' ends that become one day, with times of day in the other order. -/
def Crossed (cadence : RepeatCadence) (earlier later : DateTime) : Prop :=
  cadence.unit = .month ∧ Date.MeetAfter cadence.interval earlier.date later.date ∧
    later.micros < earlier.micros

theorem advance_before (h : earlier.date.before later.date)
    (hapart : ¬ (cadence.unit = .month ∧
      Date.MeetAfter cadence.interval earlier.date later.date)) :
    (cadence.advance earlier.date).before (cadence.advance later.date) := by
  unfold advance
  cases hunit : cadence.unit with
  | day => exact Date.plusDays_before_plusDays h _
  | week => exact Date.plusDays_before_plusDays h _
  | month => exact Date.plusMonths_before_plusMonths h fun hmeet => hapart ⟨hunit, hmeet⟩

theorem advance_eq (hmonth : cadence.unit = .month)
    (hmeet : Date.MeetAfter cadence.interval earlier.date later.date) :
    cadence.advance earlier.date = cadence.advance later.date := by
  rw [advance, advance, hmonth]
  exact hmeet.plusMonths_eq

/-- The order of two schedules is kept but where two ends of a month cross. -/
theorem atDate_advance_le_iff (hzone : earlier.zoned = later.zoned)
    (h : earlier ≤ later) :
    earlier.atDate (cadence.advance earlier.date) ≤ later.atDate (cadence.advance later.date) ↔
      ¬ cadence.Crossed earlier later := by
  rcases h with rfl | ⟨hdate | ⟨hdate, hmicros⟩⟩
  · exact iff_of_true le_rfl fun hcrossed => Nat.lt_irrefl _ hcrossed.2.2
  · by_cases hmeet : cadence.unit = .month ∧
        Date.MeetAfter cadence.interval earlier.date later.date
    · have hsame := advance_eq hmeet.1 hmeet.2
      constructor
      · intro hle hcrossed
        have hgt : later.atDate (cadence.advance later.date) <
            earlier.atDate (cadence.advance earlier.date) :=
          Or.inr ⟨hsame.symm, hcrossed.2.2⟩
        exact (lt_of_lt_of_le hgt hle).false
      · intro hcrossed
        have hmicros : earlier.micros ≤ later.micros :=
          not_lt.mp fun hless => hcrossed ⟨hmeet.1, hmeet.2, hless⟩
        rcases hmicros.lt_or_eq with hless | heq
        · exact Or.inr (Or.inr ⟨hsame, hless⟩)
        · left
          simp only [DateTime.atDate, hsame, heq, hzone]
    · have hbefore := advance_before hdate hmeet
      apply iff_of_true
      · exact Or.inr (Or.inl hbefore)
      · intro hcrossed
        exact hmeet ⟨hcrossed.1, hcrossed.2.1⟩
  · apply iff_of_true
    · right
      right
      exact ⟨congrArg cadence.advance hdate, hmicros⟩
    · intro hcrossed
      exact Nat.lt_asymm hmicros hcrossed.2.2

/-- What an advance makes of one schedule. -/
structure Lands (cadence : RepeatCadence) (value next : DateTime) : Prop where
  later : value < next
  zoned : next.zoned = true
  year_le : value.date.year ≤ next.date.year ∧ next.date.year ≤ 9999
  micros : next.micros = value.micros
  months : cadence.unit = .month →
    next.date.monthsOf = value.date.monthsOf + cadence.interval ∧
      next.date.day = min value.date.day (daysIn next.date.year next.date.month)

theorem lands (hzoned : earlier.zoned = true)
    (hyear : (cadence.advance earlier.date).year ≤ 9999) :
    cadence.Lands earlier (earlier.atDate (cadence.advance earlier.date)) := by
  have hbefore := cadence.before_advance earlier.date
  constructor
  · exact DateTime.before_atDate hbefore
  · exact hzoned
  · exact ⟨Date.year_le_of_before hbefore, hyear⟩
  · rfl
  · intro hmonth
    have hadvance : cadence.advance earlier.date =
        earlier.date.plusMonths cadence.interval := by
      rw [advance, hmonth]
    change (cadence.advance earlier.date).monthsOf = _ ∧
      (cadence.advance earlier.date).day = _
    simp only [DateTime.atDate, hadvance]
    exact ⟨Date.monthsOf_plusMonths _ _, Date.day_plusMonths _ _⟩

/-- Every advance is later and, in months, lands where it should; two advances keep the
order of their schedules but where two ends of a month cross. -/
theorem next_after_progress (cadence : RepeatCadence) (earlier later : DateTime)
    (hearlier : earlier.zoned = true) (hlater : later.zoned = true)
    (hyear : (cadence.advance earlier.date).year ≤ 9999)
    (hyear' : (cadence.advance later.date).year ≤ 9999) :
    ∃ next next', cadence.nextAfter earlier = .ok next ∧ cadence.nextAfter later = .ok next' ∧
      cadence.Lands earlier next ∧ cadence.Lands later next' ∧
      (earlier ≤ later → (next ≤ next' ↔ ¬ cadence.Crossed earlier later)) := by
  have hzone : earlier.zoned = later.zoned := hearlier.trans hlater.symm
  exact ⟨_, _, nextAfter_of_year hearlier hyear, nextAfter_of_year hlater hyear',
    lands hearlier hyear, lands hlater hyear', atDate_advance_le_iff hzone⟩

theorem monthly_interval_valid : 1 ≤ 1 := le_rfl

theorem january_month_valid : 1 ≤ 1 ∧ 1 ≤ 12 := by
  decide

theorem february_month_valid : 1 ≤ 2 ∧ 2 ≤ 12 := by
  decide

theorem january_thirtieth_valid : 1 ≤ 30 ∧ 30 ≤ daysIn 2025 1 := by
  decide

theorem january_last_valid : 1 ≤ 31 ∧ 31 ≤ daysIn 2025 1 := by
  decide

theorem february_last_valid : 1 ≤ 28 ∧ 28 ≤ daysIn 2025 2 := by
  decide

theorem evening_valid : 64800000000 < 86400000000 := by
  decide

theorem morning_valid : 21600000000 < 86400000000 := by
  decide

def everyMonth : RepeatCadence := ⟨.month, 1, monthly_interval_valid⟩

/-- The evening of 30 January, and the morning of the next day. -/
def lateEvening : DateTime :=
  ⟨⟨2025, 1, 30, january_month_valid, january_thirtieth_valid⟩, 64800000000, true, evening_valid⟩

def nextMorning : DateTime :=
  ⟨⟨2025, 1, 31, january_month_valid, january_last_valid⟩, 21600000000, true, morning_valid⟩

def februaryEvening : DateTime :=
  ⟨⟨2025, 2, 28, february_month_valid, february_last_valid⟩, 64800000000, true, evening_valid⟩

def februaryMorning : DateTime :=
  ⟨⟨2025, 2, 28, february_month_valid, february_last_valid⟩, 21600000000, true, morning_valid⟩

theorem lateEvening_le : lateEvening ≤ nextMorning :=
  Or.inr (Or.inl (by decide))

theorem next_after_progress_month_end :
    ∃ next next', everyMonth.nextAfter lateEvening = .ok next ∧
      everyMonth.nextAfter nextMorning = .ok next' ∧ lateEvening < next ∧
      nextMorning < next' ∧ ¬ next ≤ next' := by
  obtain ⟨next, next', hnext, hnext', hlands, hlands', horder⟩ :=
    next_after_progress everyMonth lateEvening nextMorning rfl rfl (by decide) (by decide)
  have hcrossed : everyMonth.Crossed lateEvening nextMorning :=
    ⟨rfl, by decide, by decide⟩
  exact ⟨next, next', hnext, hnext', hlands.later, hlands'.later,
    fun hle => (horder lateEvening_le).mp hle hcrossed⟩

/-- A month after the evening of 30 January comes later than a month after the morning of
31 January: both are on 28 February. -/
theorem month_ends_cross : ¬ ∀ (cadence : RepeatCadence) (earlier later : DateTime),
    earlier.zoned = true → later.zoned = true →
    (cadence.advance earlier.date).year ≤ 9999 → (cadence.advance later.date).year ≤ 9999 →
    earlier ≤ later → ∀ next next', cadence.nextAfter earlier = .ok next →
      cadence.nextAfter later = .ok next' → next ≤ next' := by
  intro hclaim
  have hle := hclaim everyMonth lateEvening nextMorning rfl rfl (by decide) (by decide)
    lateEvening_le februaryEvening februaryMorning (by decide) (by decide)
  have hgt : februaryMorning < februaryEvening := Or.inr ⟨rfl, by decide⟩
  exact (lt_of_lt_of_le hgt hle).false

end RepeatCadence

end ShemaPlatform
