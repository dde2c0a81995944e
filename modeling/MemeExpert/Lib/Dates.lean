import MemeExpert.Lib.Periods

/-! Moments are microseconds since 1970. A moment has a year, a month, a day of the month and a
time of the day, and these give it back. -/

namespace Dates

open Periods Calendar

def ticksPerDay : Int := 86400000000

def timeOfDay (t : Int) : Int := t % ticksPerDay

/-- Months since January 1970. -/
def monthIndex (t : Int) : Int := Periods.monthOf (t / ticksPerDay)

def year (t : Int) : Int := 1970 + monthIndex t / 12

def month (t : Int) : Int := monthIndex t % 12 + 1

def dayOfMonth (t : Int) : Int := t / ticksPerDay - daysBefore (monthIndex t) + 1

def isLeap (year : Int) : Bool := year % 4 = 0 && (year % 100 ≠ 0 || year % 400 = 0)

def monthLength (year month : Int) : Int :=
  if month = 2 then (if isLeap year then 29 else 28)
  else if month = 4 ∨ month = 6 ∨ month = 9 ∨ month = 11 then 30
  else 31

/-- The moment with these fields. -/
def ofFields (year month day time : Int) : Int :=
  (daysBefore ((year - 1970) * 12 + (month - 1)) + (day - 1)) * ticksPerDay + time

/-- Days of the month with this index. -/
def lengthOf (index : Int) : Int := monthLength (1970 + index / 12) (index % 12 + 1)

section Fields

variable {index day time t u : Int}

theorem daysInMonth_eq_lengthOf (cycle : Int) (index : Nat) :
    (daysInMonth index : Int) = lengthOf (cycle * monthsPerCycle + index) := by
  have hyear : 1970 + (cycle * monthsPerCycle + (index : Int)) / 12 =
      ((1970 + index / 12 : Nat) : Int) + 400 * cycle := by
    rw [monthsPerCycle]
    omega
  have hmonth : (cycle * monthsPerCycle + (index : Int)) % 12 = ((index % 12 : Nat) : Int) := by
    rw [monthsPerCycle]
    omega
  have hleap : isLeap (((1970 + index / 12 : Nat) : Int) + 400 * cycle) =
      isLeapYear (1970 + index / 12) := by
    rw [Bool.eq_iff_iff]
    simp only [isLeap, isLeapYear, Bool.and_eq_true, Bool.or_eq_true, decide_eq_true_eq]
    generalize 1970 + index / 12 = year
    omega
  have hlt : index % 12 < 12 := Nat.mod_lt _ (by decide)
  rw [lengthOf, hyear, hmonth, monthLength, hleap, daysInMonth]
  generalize isLeapYear (1970 + index / 12) = leap
  generalize index % 12 = place at hlt
  revert leap place
  decide

theorem lengthOf_eq (index : Int) : lengthOf index = daysBefore (index + 1) - daysBefore index := by
  have hindex : index = index / monthsPerCycle * monthsPerCycle +
      ((index % monthsPerCycle).toNat : Int) := by
    rw [monthsPerCycle]
    omega
  have hlt : (index % monthsPerCycle).toNat < 4800 := by
    rw [monthsPerCycle]
    omega
  have hthis := daysBefore_cycle (index / monthsPerCycle) hlt.le
  have hnext := daysBefore_cycle (index / monthsPerCycle) (Nat.succ_le_of_lt hlt)
  have hlength := daysInMonth_eq_lengthOf (index / monthsPerCycle) (index % monthsPerCycle).toNat
  rw [← hindex] at hthis hlength
  rw [Nat.succ_eq_add_one, Nat.cast_add, Nat.cast_one, ← add_assoc, ← hindex] at hnext
  rw [hthis, hnext, ← hlength, daysBeforeMonth]
  push_cast
  ring

theorem lengthOf_bounds (index : Int) : 28 ≤ lengthOf index ∧ lengthOf index ≤ 31 := by
  unfold lengthOf monthLength
  split
  · split <;> decide
  · split <;> decide

theorem dayOfMonth_bounds (t : Int) :
    1 ≤ dayOfMonth t ∧ dayOfMonth t ≤ lengthOf (monthIndex t) := by
  obtain ⟨hstart, hend⟩ := monthOf_spec (t / ticksPerDay)
  rw [lengthOf_eq, dayOfMonth, monthIndex]
  omega

theorem timeOfDay_bounds (t : Int) : 0 ≤ timeOfDay t ∧ timeOfDay t < ticksPerDay := by
  rw [timeOfDay, ticksPerDay]
  omega

theorem eq_of_fields (t : Int) :
    t = (daysBefore (monthIndex t) + (dayOfMonth t - 1)) * ticksPerDay + timeOfDay t := by
  have hday : daysBefore (monthIndex t) + (dayOfMonth t - 1) = t / ticksPerDay := by
    rw [dayOfMonth]
    omega
  rw [hday, timeOfDay, Int.mul_comm]
  exact (Int.mul_ediv_add_emod t ticksPerDay).symm

theorem fields_of_eq (hday : 1 ≤ day ∧ day ≤ lengthOf index) (htime : 0 ≤ time ∧ time < ticksPerDay)
    (h : t = (daysBefore index + (day - 1)) * ticksPerDay + time) :
    monthIndex t = index ∧ dayOfMonth t = day ∧ timeOfDay t = time := by
  have hnumber : t / ticksPerDay = daysBefore index + (day - 1) := by
    rw [h, Int.add_comm, Int.add_mul_ediv_right _ _ (by decide),
      Int.ediv_eq_zero_of_lt htime.1 htime.2, Int.zero_add]
  have hmonth : monthIndex t = index := by
    rw [lengthOf_eq] at hday
    rw [monthIndex, hnumber]
    exact monthOf_eq (by omega) (by omega)
  refine ⟨hmonth, ?_, ?_⟩
  · rw [dayOfMonth, hmonth, hnumber]
    omega
  · rw [timeOfDay, h, Int.add_comm, Int.add_mul_emod_self_right]
    exact Int.emod_eq_of_lt htime.1 htime.2

theorem month_bounds (t : Int) : 1 ≤ month t ∧ month t ≤ 12 := by
  rw [month]
  omega

theorem monthIndex_eq (t : Int) : monthIndex t = (year t - 1970) * 12 + (month t - 1) := by
  rw [year, month]
  omega

theorem monthIndex_mono (h : t ≤ u) : monthIndex t ≤ monthIndex u := by
  by_contra hlt
  rw [not_le] at hlt
  have hdays : t / ticksPerDay ≤ u / ticksPerDay := Int.ediv_le_ediv (by decide) h
  have hend := (monthOf_spec (u / ticksPerDay)).2
  have hstart := (monthOf_spec (t / ticksPerDay)).1
  have hmonths : daysBefore (monthIndex u + 1) ≤ daysBefore (monthIndex t) :=
    daysBefore_strictMono.monotone hlt
  rw [monthIndex] at hmonths
  rw [monthIndex] at hmonths
  omega

theorem lt_of_monthIndex_lt (h : monthIndex t < monthIndex u) : t < u := by
  by_contra hle
  exact absurd (monthIndex_mono (not_lt.mp hle)) (not_le.mpr h)

theorem year_mono (h : t ≤ u) : year t ≤ year u := by
  have hmonths := monthIndex_mono h
  rw [year, year]
  omega

end Fields

/-- The day and the time of `start` in a later month, or the last day of that month. -/
structure IsMonthsAfter (start count t : Int) : Prop where
  month_eq : monthIndex t = monthIndex start + count
  day_eq : dayOfMonth t = min (dayOfMonth start) (lengthOf (monthIndex t))
  time_eq : timeOfDay t = timeOfDay start

def monthsAfter (start count : Int) : Int :=
  let index := monthIndex start + count
  (daysBefore index + (min (dayOfMonth start) (lengthOf index) - 1)) * ticksPerDay + timeOfDay start

section MonthsAfter

variable {start count other t u : Int}

theorem isMonthsAfter_monthsAfter (start count : Int) :
    IsMonthsAfter start count (monthsAfter start count) := by
  have hlength := lengthOf_bounds (monthIndex start + count)
  have hday := dayOfMonth_bounds start
  obtain ⟨hmonth, hdayOf, htime⟩ := @fields_of_eq (monthIndex start + count)
    (min (dayOfMonth start) (lengthOf (monthIndex start + count))) (timeOfDay start)
    (monthsAfter start count) (by omega) (timeOfDay_bounds start) rfl
  exact ⟨hmonth, hmonth.symm ▸ hdayOf, htime⟩

theorem isMonthsAfter_iff : IsMonthsAfter start count t ↔ t = monthsAfter start count := by
  constructor
  · rintro ⟨hmonth, hday, htime⟩
    rw [eq_of_fields t, hday, hmonth, htime]
    rfl
  · rintro rfl
    exact isMonthsAfter_monthsAfter start count

theorem monthIndex_monthsAfter (start count : Int) :
    monthIndex (monthsAfter start count) = monthIndex start + count :=
  (isMonthsAfter_monthsAfter start count).month_eq

theorem monthsAfter_lt (h : count < other) : monthsAfter start count < monthsAfter start other := by
  apply lt_of_monthIndex_lt
  rw [monthIndex_monthsAfter, monthIndex_monthsAfter]
  omega

theorem monthsAfter_le (h : count ≤ other) : monthsAfter start count ≤ monthsAfter start other := by
  rcases Int.lt_or_eq_of_le h with hlt | rfl
  · exact (monthsAfter_lt hlt).le
  · exact le_refl _

theorem add_weeks_le_monthsAfter (h : 1 ≤ count) :
    start + 28 * ticksPerDay ≤ monthsAfter start count := by
  refine le_trans ?_ (monthsAfter_le h)
  have hday := dayOfMonth_bounds start
  have hnext : daysBefore (monthIndex start + 1) =
      daysBefore (monthIndex start) + lengthOf (monthIndex start) := by
    rw [lengthOf_eq]
    omega
  have hlength := lengthOf_bounds (monthIndex start)
  have hlengthNext := lengthOf_bounds (monthIndex start + 1)
  have hstart := eq_of_fields start
  rw [monthsAfter, hnext]
  have hdays : daysBefore (monthIndex start) + (dayOfMonth start - 1) + 28 ≤
      daysBefore (monthIndex start) + lengthOf (monthIndex start) +
        (min (dayOfMonth start) (lengthOf (monthIndex start + 1)) - 1) := by
    omega
  have hscaled := Int.mul_le_mul_of_nonneg_right hdays (by decide : (0 : Int) ≤ ticksPerDay)
  rw [Int.add_mul] at hscaled
  omega

end MonthsAfter

end Dates
