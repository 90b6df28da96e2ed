/-
Advancing a schedule in steps and at once: a month that is too short for the day of the
schedule takes days from all later ones.
-/
import ShemaPlatform.RepeatPlan

namespace Calendar

namespace Date

/-- How many days the month has that lies so many months on. -/
def lengthAfter (date : Date) (n : Nat) : Nat :=
  daysIn (date.plusMonths n).year (date.plusMonths n).month

variable {date : Date} {m n : Nat}

theorem plusDays_plusDays (date : Date) (m n : Nat) :
    (date.plusDays m).plusDays n = date.plusDays (m + n) := by
  induction n with
  | zero => rfl
  | succ n ih =>
      rw [plusDays, ih]
      rfl

theorem year_plusMonths_plusMonths (date : Date) (m n : Nat) :
    ((date.plusMonths m).plusMonths n).year = (date.plusMonths (m + n)).year := by
  simp only [plusMonths]
  omega

theorem month_plusMonths_plusMonths (date : Date) (m n : Nat) :
    ((date.plusMonths m).plusMonths n).month = (date.plusMonths (m + n)).month := by
  simp only [plusMonths]
  omega

theorem day_plusMonths (date : Date) (n : Nat) :
    (date.plusMonths n).day = min date.day (date.lengthAfter n) := rfl

theorem lengthAfter_plusMonths (date : Date) (m n : Nat) :
    (date.plusMonths m).lengthAfter n = date.lengthAfter (m + n) := by
  rw [lengthAfter, year_plusMonths_plusMonths, month_plusMonths_plusMonths]
  rfl

/-- Two advances are one exactly when the month in between is not shorter than both the
day and the last month. -/
theorem plusMonths_plusMonths_iff :
    (date.plusMonths m).plusMonths n = date.plusMonths (m + n) ↔
      date.day ≤ date.lengthAfter m ∨ date.lengthAfter (m + n) ≤ date.lengthAfter m := by
  rw [Date.ext_iff]
  simp only [year_plusMonths_plusMonths, month_plusMonths_plusMonths, day_plusMonths,
    lengthAfter_plusMonths, true_and]
  omega

theorem year_le_of_before {a b : Date} (h : a.before b) : a.year ≤ b.year := by
  unfold before at h
  omega

/-- Where advances of so many months each lead from a date: to the month that lies as far
on, and to the least of the day and the lengths of all months on the way. -/
structure Clamped (start : Date) (interval count : Nat) (date : Date) : Prop where
  year : date.year = (start.plusMonths (count * interval)).year
  month : date.month = (start.plusMonths (count * interval)).month
  day_le : date.day ≤ start.day
  le_length : ∀ j, 1 ≤ j → j ≤ count → date.day ≤ start.lengthAfter (j * interval)
  attained : date.day = start.day ∨
    ∃ j, 1 ≤ j ∧ j ≤ count ∧ date.day = start.lengthAfter (j * interval)

theorem clamped_start (start : Date) (interval : Nat) : Clamped start interval 0 start := by
  have hmonth := start.month_valid
  constructor
  · simp only [plusMonths]
    omega
  · simp only [plusMonths]
    omega
  · exact le_rfl
  · intro j hone hzero
    omega
  · exact Or.inl rfl

theorem Clamped.next {start date : Date} {interval count : Nat}
    (h : Clamped start interval count date) :
    Clamped start interval (count + 1) (date.plusMonths interval) := by
  have hmonths : ∀ n, (date.plusMonths n).year =
        (start.plusMonths (count * interval + n)).year ∧
      (date.plusMonths n).month = (start.plusMonths (count * interval + n)).month := by
    intro n
    have hyear := year_plusMonths_plusMonths start (count * interval) n
    have hmonth := month_plusMonths_plusMonths start (count * interval) n
    rw [← hyear, ← hmonth]
    simp only [plusMonths, h.year, h.month, and_self]
  have hcount : (count + 1) * interval = count * interval + interval := Nat.succ_mul _ _
  have hlength : date.lengthAfter interval = start.lengthAfter ((count + 1) * interval) := by
    rw [lengthAfter, (hmonths interval).1, (hmonths interval).2, hcount]
    rfl
  have hday : (date.plusMonths interval).day =
      min date.day (start.lengthAfter ((count + 1) * interval)) := by
    rw [day_plusMonths, hlength]
  constructor
  · rw [hcount, (hmonths interval).1]
  · rw [hcount, (hmonths interval).2]
  · rw [hday]
    exact (min_le_left _ _).trans h.day_le
  · intro j hone hle
    rw [hday]
    rcases Nat.lt_or_ge j (count + 1) with hless | hlast
    · exact (min_le_left _ _).trans (h.le_length j hone (Nat.le_of_lt_succ hless))
    · obtain rfl : j = count + 1 := le_antisymm hle hlast
      exact min_le_right _ _
  · rw [hday]
    rcases min_choice date.day (start.lengthAfter ((count + 1) * interval)) with hsame | hlast
    · rw [hsame]
      rcases h.attained with hstart | ⟨j, hone, hle, hj⟩
      · exact Or.inl hstart
      · exact Or.inr ⟨j, hone, Nat.le_succ_of_le hle, hj⟩
    · rw [hlast]
      exact Or.inr ⟨count + 1, by omega, le_rfl, rfl⟩

/-- The day is that of the start or the last of a shorter month exactly when no month on
the way was shorter than both. -/
theorem Clamped.day_eq_iff {start date : Date} {interval count : Nat}
    (h : Clamped start interval count date) :
    date.day = min start.day (daysIn date.year date.month) ↔
      ∀ j, 1 ≤ j → j < count → start.day ≤ start.lengthAfter (j * interval) ∨
        start.lengthAfter (count * interval) ≤ start.lengthAfter (j * interval) := by
  have hlast : daysIn date.year date.month = start.lengthAfter (count * interval) := by
    rw [h.year, h.month]
    rfl
  rw [hlast]
  constructor
  · intro hday j hone hless
    have hle := h.le_length j hone hless.le
    omega
  · intro hkeeps
    have hstart := h.day_le
    have hvalid := date.day_valid.2
    rw [hlast] at hvalid
    rcases h.attained with hsame | ⟨j, hone, hle, hj⟩
    · omega
    · rcases Nat.lt_or_ge j count with hless | hge
      · have := hkeeps j hone hless
        omega
      · obtain rfl : j = count := le_antisymm hle hge
        omega

end Date

end Calendar

namespace ShemaPlatform

open Calendar

namespace RepeatCadence

/-- The month in between leaves the day alone, or the last one is no longer. -/
def Keeps (unit : RepeatCadenceUnit) (m n : Nat) (date : Date) : Prop :=
  unit = .month → date.day ≤ date.lengthAfter m ∨
    date.lengthAfter (m + n) ≤ date.lengthAfter m

theorem advance_advance_iff (unit : RepeatCadenceUnit) {m n : Nat} (hm : 1 ≤ m) (hn : 1 ≤ n)
    (date : Date) :
    advance ⟨unit, n, hn⟩ (advance ⟨unit, m, hm⟩ date) =
        advance ⟨unit, m + n, hm.trans (Nat.le_add_right m n)⟩ date ↔
      Keeps unit m n date := by
  cases unit with
  | day => exact iff_of_true (Date.plusDays_plusDays date m n) (fun h => nomatch h)
  | week =>
      have hweeks : (date.plusDays (7 * m)).plusDays (7 * n) =
          date.plusDays (7 * (m + n)) := by
        rw [Date.plusDays_plusDays, Nat.mul_add]
      exact iff_of_true hweeks (fun h => nomatch h)
  | month => exact Date.plusMonths_plusMonths_iff.trans (by simp [Keeps])

theorem year_advance_advance (unit : RepeatCadenceUnit) {m n : Nat} (hm : 1 ≤ m)
    (hn : 1 ≤ n) (date : Date) :
    (advance ⟨unit, n, hn⟩ (advance ⟨unit, m, hm⟩ date)).year =
      (advance ⟨unit, m + n, hm.trans (Nat.le_add_right m n)⟩ date).year := by
  cases unit with
  | day => exact congrArg Date.year (Date.plusDays_plusDays date m n)
  | week =>
      have hweeks : (date.plusDays (7 * m)).plusDays (7 * n) =
          date.plusDays (7 * (m + n)) := by
        rw [Date.plusDays_plusDays, Nat.mul_add]
      exact congrArg Date.year hweeks
  | month => exact Date.year_plusMonths_plusMonths date m n

theorem nextAfter_of_year {cadence : RepeatCadence} {value : DateTime}
    (hzoned : value.zoned = true) (hyear : (cadence.advance value.date).year ≤ 9999) :
    cadence.nextAfter value = .ok (value.atDate (cadence.advance value.date)) := by
  simp only [nextAfter, hzoned, hyear, decide_true]
  rfl

end RepeatCadence

namespace RepeatOrderPlan

/-- A plan after some of its transitions, of which so many have advanced the schedule;
its context was not edited. -/
inductive Advanced (plan : RepeatOrderPlan) : Nat → RepeatOrderPlan → Prop where
  | start : Advanced plan 0 plan
  | skipped {count : Nat} {current next : RepeatOrderPlan} (h : Advanced plan count current)
      (hskip : current.skipOnce = .ok next) : Advanced plan (count + 1) next
  | confirmed {count : Nat} {current next : RepeatOrderPlan} {orderId : String}
      (h : Advanced plan count current) (hactive : current.status = .active)
      (hconfirm : current.markOrderConfirmed orderId = .ok next) :
      Advanced plan (count + 1) next
  | confirmedLate {count : Nat} {current next : RepeatOrderPlan} {orderId : String}
      (h : Advanced plan count current) (hidle : current.status ≠ .active)
      (hconfirm : current.markOrderConfirmed orderId = .ok next) : Advanced plan count next
  | attached {count : Nat} {current next : RepeatOrderPlan} {orderId : String}
      (h : Advanced plan count current)
      (hattach : current.attachPendingOrder orderId = .ok next) : Advanced plan count next
  | paused {count : Nat} {current next : RepeatOrderPlan} (h : Advanced plan count current)
      (hpause : current.pause = .ok next) : Advanced plan count next
  | resumed {count : Nat} {current next : RepeatOrderPlan} (h : Advanced plan count current)
      (hresume : current.resume = .ok next) : Advanced plan count next
  | cancelled {count : Nat} {current next : RepeatOrderPlan} (h : Advanced plan count current)
      (hcancel : current.cancel = .ok next) : Advanced plan count next

theorem nextAfter_date {cadence : RepeatCadence} {value next : DateTime}
    (h : cadence.nextAfter value = .ok next) : next.date = cadence.advance value.date := by
  simp only [RepeatCadence.nextAfter, bind_eq_ok, require_eq_ok, pure_eq_ok,
    exists_const] at h
  obtain ⟨_, _, rfl⟩ := h
  rfl

/-- A monthly plan is where its advances lead, whatever else happens to it. -/
theorem Advanced.clamped {plan current : RepeatOrderPlan} {count : Nat}
    (h : Advanced plan count current) (hmonth : plan.cadence.unit = .month) :
    current.cadence = plan.cadence ∧
      Date.Clamped plan.context.scheduledFor.date plan.cadence.interval count
        current.context.scheduledFor.date := by
  have hadvance : ∀ {current : RepeatOrderPlan} {next : DateTime} {count : Nat},
      current.cadence = plan.cadence → Date.Clamped plan.context.scheduledFor.date
        plan.cadence.interval count current.context.scheduledFor.date →
      current.cadence.nextAfter current.context.scheduledFor = .ok next →
      Date.Clamped plan.context.scheduledFor.date plan.cadence.interval (count + 1)
        next.date := by
    intro current next count hcadence hclamped hnext
    rw [nextAfter_date hnext, hcadence, RepeatCadence.advance, hmonth]
    exact hclamped.next
  induction h with
  | start => exact ⟨rfl, Date.clamped_start _ _⟩
  | skipped _ hskip ih =>
      obtain ⟨_, _, next, hnext, rfl⟩ := skipOnce_eq_ok.mp hskip
      exact ⟨ih.1, hadvance ih.1 ih.2 hnext⟩
  | confirmed _ hactive hconfirm ih =>
      obtain ⟨_, next, hnext, rfl⟩ := markOrderConfirmed_eq_ok.mp hconfirm
      rw [confirmedSchedule, if_pos hactive] at hnext
      exact ⟨ih.1, hadvance ih.1 ih.2 hnext⟩
  | confirmedLate _ hidle hconfirm ih =>
      obtain ⟨_, next, hnext, rfl⟩ := markOrderConfirmed_eq_ok.mp hconfirm
      rw [confirmedSchedule, if_neg hidle] at hnext
      rw [← Except.ok.inj hnext]
      exact ih
  | attached _ hattach ih =>
      obtain ⟨_, _, _, rfl⟩ := attachPendingOrder_eq_ok.mp hattach
      exact ih
  | paused _ hpause ih =>
      obtain ⟨_, rfl⟩ := pause_eq_ok.mp hpause
      exact ih
  | resumed _ hresume ih =>
      obtain ⟨_, rfl⟩ := resume_eq_ok.mp hresume
      exact ih
  | cancelled _ hcancel ih =>
      obtain ⟨_, rfl⟩ := cancel_eq_ok.mp hcancel
      exact ih

/-- Two advances are one, and a monthly plan stays on its day, exactly when no month on
the way is shorter than both the day and the month that is reached. -/
theorem cadence_keeps (unit : RepeatCadenceUnit) {m n : Nat} (hm : 1 ≤ m) (hn : 1 ≤ n)
    (value : DateTime) (hzoned : value.zoned = true)
    (hyear : (RepeatCadence.advance ⟨unit, m + n, hm.trans (Nat.le_add_right m n)⟩
      value.date).year ≤ 9999) (plan : RepeatOrderPlan) {current : RepeatOrderPlan}
    {count : Nat} (hmonth : plan.cadence.unit = .month) (h : Advanced plan count current) :
    ((RepeatCadence.nextAfter ⟨unit, m, hm⟩ value >>= RepeatCadence.nextAfter ⟨unit, n, hn⟩) =
        RepeatCadence.nextAfter ⟨unit, m + n, hm.trans (Nat.le_add_right m n)⟩ value ↔
      RepeatCadence.Keeps unit m n value.date) ∧
    (current.context.scheduledFor.date.day =
        min plan.context.scheduledFor.date.day (daysIn current.context.scheduledFor.date.year
          current.context.scheduledFor.date.month) ↔
      ∀ j, 1 ≤ j → j < count →
        plan.context.scheduledFor.date.day ≤
            plan.context.scheduledFor.date.lengthAfter (j * plan.cadence.interval) ∨
          plan.context.scheduledFor.date.lengthAfter (count * plan.cadence.interval) ≤
            plan.context.scheduledFor.date.lengthAfter (j * plan.cadence.interval)) := by
  refine ⟨?_, (h.clamped hmonth).2.day_eq_iff⟩
  rw [← RepeatCadence.year_advance_advance unit hm hn] at hyear
  have hbetween : (RepeatCadence.advance ⟨unit, m, hm⟩ value.date).year ≤ 9999 :=
    (Date.year_le_of_before (RepeatCadence.before_advance _ _)).trans hyear
  rw [RepeatCadence.nextAfter_of_year hzoned hbetween,
    RepeatCadence.nextAfter_of_year hzoned
      (RepeatCadence.year_advance_advance unit hm hn value.date ▸ hyear)]
  have hsecond : RepeatCadence.nextAfter ⟨unit, n, hn⟩
      (value.atDate (RepeatCadence.advance ⟨unit, m, hm⟩ value.date)) = .ok (value.atDate
        (RepeatCadence.advance ⟨unit, n, hn⟩ (RepeatCadence.advance ⟨unit, m, hm⟩
          value.date))) :=
    RepeatCadence.nextAfter_of_year hzoned hyear
  change RepeatCadence.nextAfter ⟨unit, n, hn⟩ (value.atDate _) = _ ↔ _
  rw [hsecond, ← RepeatCadence.advance_advance_iff unit hm hn]
  constructor
  · intro hsame
    exact congrArg DateTime.date (Except.ok.inj hsame)
  · intro hsame
    rw [hsame]

theorem january_valid : 1 ≤ 1 ∧ 1 ≤ 12 := by
  decide

theorem mid_january_valid : 1 ≤ 15 ∧ 15 ≤ daysIn 2025 1 := by
  decide

theorem february_valid : 1 ≤ 2 ∧ 2 ≤ 12 := by
  decide

theorem mid_february_valid : 1 ≤ 15 ∧ 15 ≤ daysIn 2025 2 := by
  decide

theorem midnight_valid : 0 < 86400000000 := by
  decide

theorem monthly_valid : 1 ≤ 1 := le_rfl

/-- The middle of a month, which every month has. -/
def midMonth : DateTime :=
  ⟨⟨2025, 1, 15, january_valid, mid_january_valid⟩, 0, true, midnight_valid⟩

/-- A monthly plan that starts there. -/
def midMonthPlan : RepeatOrderPlan :=
  ⟨"plan", "source", "identity", ⟨.month, 1, monthly_valid⟩,
    ⟨midMonth, "scope", .finite 1⟩, none, .active, none, none, 0, 0⟩

def midMonthSkipped : RepeatOrderPlan :=
  { midMonthPlan.reschedule
      ⟨⟨2025, 2, 15, february_valid, mid_february_valid⟩, 0, true, midnight_valid⟩ with
    skippedOccurrences := 1 }

theorem cadence_keeps_mid_month :
    (RepeatCadence.nextAfter ⟨.month, 1, le_rfl⟩ midMonth >>=
        RepeatCadence.nextAfter ⟨.month, 1, le_rfl⟩) =
      RepeatCadence.nextAfter ⟨.month, 2, by decide⟩ midMonth ∧
    midMonthPlan.skipOnce = .ok midMonthSkipped ∧
    midMonthSkipped.context.scheduledFor.date.day = min midMonth.date.day
      (daysIn midMonthSkipped.context.scheduledFor.date.year
        midMonthSkipped.context.scheduledFor.date.month) := by
  have hskip : midMonthPlan.skipOnce = .ok midMonthSkipped := by decide
  have hkeeps := cadence_keeps .month le_rfl le_rfl midMonth rfl (by decide) midMonthPlan rfl
    (.skipped .start hskip)
  exact ⟨hkeeps.1.mpr (fun _ => Or.inl (by decide)), hskip,
    hkeeps.2.mpr fun j hone hless => absurd hone (not_le.mpr hless)⟩

/-- From the last day of January, two single months lead to 28 March and two months at
once to 31 March. -/
theorem month_end_drifts : ¬ ∀ (unit : RepeatCadenceUnit) (m n : Nat) (hm : 1 ≤ m)
    (hn : 1 ≤ n) (value : DateTime), value.zoned = true →
    (RepeatCadence.advance ⟨unit, m + n, hm.trans (Nat.le_add_right m n)⟩
      value.date).year ≤ 9999 →
    (RepeatCadence.nextAfter ⟨unit, m, hm⟩ value >>= RepeatCadence.nextAfter ⟨unit, n, hn⟩) =
      RepeatCadence.nextAfter ⟨unit, m + n, hm.trans (Nat.le_add_right m n)⟩ value := by
  intro hclaim
  have hsame := hclaim .month 1 1 le_rfl le_rfl
    ⟨⟨2025, 1, 31, by decide, by decide⟩, 0, true, by decide⟩ rfl (by decide)
  exact absurd hsame (by decide)

end RepeatOrderPlan

end ShemaPlatform
