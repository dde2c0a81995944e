import Mathlib.Algebra.Order.Ring.Int
import Mathlib.Data.Int.ConditionallyCompleteOrder
import Mathlib.Order.SuccPred.Archimedean
import Mathlib.Tactic.Ring
import MemeExpert.Lib.Calendar

/-! Days, weeks and months cut the time line into periods, each up to the start of the next. -/

namespace Periods

/-- A moment lies in the period of its start, and the others there have the same start. -/
structure IsPeriods (start next : Int → Int) : Prop where
  start_le : ∀ t, start t ≤ t
  lt_next : ∀ t, t < next (start t)
  start_eq : ∀ t u, start t ≤ u → u < next (start t) → start u = start t

namespace IsPeriods

variable {start next : Int → Int} {t u : Int}

theorem start_start (h : IsPeriods start next) (t : Int) : start (start t) = start t :=
  h.start_eq t (start t) (le_refl _) ((h.start_le t).trans_lt (h.lt_next t))

theorem start_mono (h : IsPeriods start next) (htu : t ≤ u) : start t ≤ start u := by
  by_contra hlt
  rw [not_le] at hlt
  have hsame : start t = start u :=
    h.start_eq u t ((le_of_lt hlt).trans (h.start_le t)) (htu.trans_lt (h.lt_next u))
  exact absurd hlt (hsame ▸ lt_irrefl _)

theorem start_next (h : IsPeriods start next) (t : Int) :
    start (next (start t)) = next (start t) := by
  refine le_antisymm (h.start_le _) (not_lt.mp fun hlt => ?_)
  have hmono : start t ≤ start (next (start t)) := h.start_mono (le_of_lt (h.lt_next t))
  have hsame := h.start_eq t (start (next (start t))) hmono hlt
  rw [h.start_start] at hsame
  have hbeyond := h.lt_next (next (start t))
  rw [hsame] at hbeyond
  exact lt_irrefl _ hbeyond

/-- Periods of days are periods of the moments, of which a day has `ticks`. -/
theorem scale {ticks : Int} (h : IsPeriods start next) (hticks : 0 < ticks) :
    IsPeriods (fun t => start (t / ticks) * ticks) (fun t => next (t / ticks) * ticks) where
  start_le t :=
    (mul_le_mul_of_nonneg_right (h.start_le _) hticks.le).trans (Int.ediv_mul_le t hticks.ne')
  lt_next t := by
    rw [Int.mul_ediv_cancel _ hticks.ne']
    exact Int.lt_mul_of_ediv_lt hticks (h.lt_next _)
  start_eq t u hstart hnext := by
    rw [Int.mul_ediv_cancel _ hticks.ne'] at hnext
    rw [h.start_eq (t / ticks) (u / ticks) ((Int.le_ediv_iff_mul_le hticks).mpr hstart)
      ((Int.ediv_lt_iff_lt_mul hticks).mpr hnext)]

end IsPeriods

section Months

open Calendar

/-- Years repeat after four centuries. -/
def monthsPerCycle : Int := 4800

def daysPerCycle : Int := 146097

/-- Days from the origin to the start of a month. -/
def daysBefore (month : Int) : Int :=
  month / monthsPerCycle * daysPerCycle + daysBeforeMonth (month % monthsPerCycle).toNat

def monthOf (day : Int) : Int :=
  day / daysPerCycle * monthsPerCycle + monthOfDay (day % daysPerCycle).toNat

theorem daysBeforeMonth_cycle : daysBeforeMonth 4800 = 146097 := by
  decide +kernel

theorem daysBefore_cycle (cycle : Int) {month : Nat} (h : month ≤ 4800) :
    daysBefore (cycle * monthsPerCycle + month) =
      cycle * daysPerCycle + daysBeforeMonth month := by
  rcases Nat.lt_or_eq_of_le h with hlt | rfl
  · have hcycle : (cycle * monthsPerCycle + month) / monthsPerCycle = cycle := by
      rw [monthsPerCycle]
      omega
    have hmonth : ((cycle * monthsPerCycle + month) % monthsPerCycle).toNat = month := by
      rw [monthsPerCycle]
      omega
    rw [daysBefore, hcycle, hmonth]
  have hcycle : (cycle * monthsPerCycle + (4800 : Nat)) / monthsPerCycle = cycle + 1 := by
    rw [monthsPerCycle]
    omega
  have hmonth : ((cycle * monthsPerCycle + (4800 : Nat)) % monthsPerCycle).toNat = 0 := by
    rw [monthsPerCycle]
    omega
  rw [daysBefore, hcycle, hmonth, daysBeforeMonth_cycle, daysPerCycle, daysBeforeMonth]
  push_cast
  ring

theorem daysBefore_strictMono : StrictMono daysBefore := by
  refine strictMono_int_of_lt_succ fun month => ?_
  have hmonth : month = month / monthsPerCycle * monthsPerCycle +
      ((month % monthsPerCycle).toNat : Int) := by
    rw [monthsPerCycle]
    omega
  have hlt : (month % monthsPerCycle).toNat < 4800 := by
    rw [monthsPerCycle]
    omega
  have hnext := daysBefore_cycle (month / monthsPerCycle) (Nat.succ_le_of_lt hlt)
  have hthis := daysBefore_cycle (month / monthsPerCycle) hlt.le
  have hdays := daysBeforeMonth_strictMono (Nat.lt_succ_self (month % monthsPerCycle).toNat)
  rw [← hmonth] at hthis
  have hsucc : month / monthsPerCycle * monthsPerCycle +
      (((month % monthsPerCycle).toNat.succ : Nat) : Int) = month + 1 := by
    rw [monthsPerCycle] at *
    omega
  rw [hsucc] at hnext
  rw [hthis, hnext]
  omega

theorem monthOf_spec (day : Int) :
    daysBefore (monthOf day) ≤ day ∧ day < daysBefore (monthOf day + 1) := by
  have hrest : (day % daysPerCycle).toNat < 146097 := by
    rw [daysPerCycle]
    omega
  have hstart := daysBeforeMonth_monthOfDay (day % daysPerCycle).toNat
  have hend := lt_daysBeforeMonth_succ (day % daysPerCycle).toNat
  have hmonth : monthOfDay (day % daysPerCycle).toNat < 4800 := by
    rw [← daysBeforeMonth_strictMono.lt_iff_lt, daysBeforeMonth_cycle]
    exact hstart.trans_lt hrest
  have hthis := daysBefore_cycle (day / daysPerCycle) hmonth.le
  have hnext := daysBefore_cycle (day / daysPerCycle) (Nat.succ_le_of_lt hmonth)
  have hday : day = day / daysPerCycle * daysPerCycle + ((day % daysPerCycle).toNat : Int) := by
    rw [daysPerCycle]
    omega
  rw [Nat.succ_eq_add_one, Nat.cast_add, Nat.cast_one, ← add_assoc] at hnext
  rw [monthOf, hthis, hnext]
  omega

theorem monthOf_eq {day month : Int} (hstart : daysBefore month ≤ day)
    (hend : day < daysBefore (month + 1)) : monthOf day = month := by
  obtain ⟨hfirst, hlast⟩ := monthOf_spec day
  have hle : month < monthOf day + 1 := daysBefore_strictMono.lt_iff_lt.mp (hstart.trans_lt hlast)
  have hge : monthOf day < month + 1 := daysBefore_strictMono.lt_iff_lt.mp (hfirst.trans_lt hend)
  omega

theorem monthOf_daysBefore (month : Int) : monthOf (daysBefore month) = month :=
  monthOf_eq le_rfl (daysBefore_strictMono (Int.lt_succ month))

theorem isPeriods_months :
    IsPeriods (fun day => daysBefore (monthOf day)) fun day => daysBefore (monthOf day + 1) where
  start_le t := (monthOf_spec t).1
  lt_next t := by
    rw [monthOf_daysBefore]
    exact (monthOf_spec t).2
  start_eq t u hstart hnext := by
    rw [monthOf_daysBefore] at hnext
    rw [monthOf_eq hstart hnext]

end Months

end Periods
