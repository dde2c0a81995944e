import Mathlib.Data.Nat.Find
import Mathlib.Order.Monotone.Basic

/-! Days and months are counted from 1970, and the month of a day is the greatest that begins at
or before it. -/

namespace Calendar

def isLeapYear (year : Nat) : Bool := year % 4 = 0 ∧ (year % 100 ≠ 0 ∨ year % 400 = 0)

/-- Days of the month with index `month`. -/
def daysInMonth (month : Nat) : Nat :=
  match month % 12 with
  | 1 => if isLeapYear (1970 + month / 12) then 29 else 28
  | 3 | 5 | 8 | 10 => 30
  | _ => 31

theorem daysInMonth_pos (month : Nat) : 0 < daysInMonth month := by
  unfold daysInMonth
  split
  · split <;> decide
  all_goals decide

/-- Days before the month begins. -/
def daysBeforeMonth : Nat → Nat
  | 0 => 0
  | month + 1 => daysBeforeMonth month + daysInMonth month

theorem daysBeforeMonth_strictMono : StrictMono daysBeforeMonth :=
  strictMono_nat_of_lt_succ fun month => Nat.lt_add_of_pos_right (daysInMonth_pos month)

theorem le_daysBeforeMonth (month : Nat) : month ≤ daysBeforeMonth month := by
  induction month with
  | zero => exact Nat.zero_le _
  | succ month ih =>
    have hlength := daysInMonth_pos month
    rw [daysBeforeMonth]
    omega

def monthOfDay (day : Nat) : Nat := Nat.findGreatest (fun month => daysBeforeMonth month ≤ day) day

theorem daysBeforeMonth_monthOfDay (day : Nat) : daysBeforeMonth (monthOfDay day) ≤ day :=
  Nat.findGreatest_spec (P := fun month => daysBeforeMonth month ≤ day) (m := 0)
    (Nat.zero_le day) (Nat.zero_le day)

theorem lt_daysBeforeMonth_succ (day : Nat) : day < daysBeforeMonth (monthOfDay day + 1) := by
  by_contra hle
  have hbound : monthOfDay day + 1 ≤ day :=
    Nat.le_trans (le_daysBeforeMonth _) (Nat.le_of_not_lt hle)
  have hgreatest := Nat.le_findGreatest (P := fun month => daysBeforeMonth month ≤ day) hbound
    (Nat.le_of_not_lt hle)
  exact Nat.not_succ_le_self _ hgreatest

theorem monthOfDay_eq {day month : Nat} (hstart : daysBeforeMonth month ≤ day)
    (hend : day < daysBeforeMonth (month + 1)) : monthOfDay day = month := by
  have hle : month < monthOfDay day + 1 :=
    daysBeforeMonth_strictMono.lt_iff_lt.mp
      (Nat.lt_of_le_of_lt hstart (lt_daysBeforeMonth_succ day))
  have hge : monthOfDay day < month + 1 :=
    daysBeforeMonth_strictMono.lt_iff_lt.mp
      (Nat.lt_of_le_of_lt (daysBeforeMonth_monthOfDay day) hend)
  omega

end Calendar
