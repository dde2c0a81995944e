import Mathlib.Data.List.DropRight
import Mathlib.Data.Nat.Size
import MemeExpert.Lib.Numerals

/-! A whole number is rounded to 53 bits, to the even side when it lies in the middle. The
decimal text of such a number is the shortest one that rounds to it. -/

namespace Doubles

open Numerals

/-- The distance of the doubles around `n`. -/
def unitOf (n : ℕ) : ℕ := 2 ^ (n.size - 53)

def nearest (n : ℕ) : ℕ :=
  if 2 * (n % unitOf n) < unitOf n ∨
      (2 * (n % unitOf n) = unitOf n ∧ n / unitOf n % 2 = 0) then n / unitOf n * unitOf n
  else (n / unitOf n + 1) * unitOf n

/-- `none` is the infinity that greater numbers are rounded to. -/
def toDouble (n : ℕ) : Option ℕ := if nearest n < 2 ^ 1024 then some (nearest n) else none

theorem unitOf_pos (n : ℕ) : 0 < unitOf n := Nat.two_pow_pos _

variable {m n : ℕ}

theorem unitOf_dvd_of_le (h : m ≤ n) : unitOf m ∣ unitOf n :=
  Nat.pow_dvd_pow 2 (Nat.sub_le_sub_right (Nat.size_le_size h) 53)

theorem nearest_eq_self (h : unitOf n ∣ n) : nearest n = n := by
  have hrest : n % unitOf n = 0 := Nat.mod_eq_zero_of_dvd h
  have hpos := unitOf_pos n
  rw [nearest, if_pos (Or.inl (by omega)), Nat.div_mul_cancel h]

theorem floor_le_nearest (n : ℕ) : n / unitOf n * unitOf n ≤ nearest n := by
  unfold nearest
  split
  · exact le_rfl
  · exact Nat.mul_le_mul_right _ (Nat.le_succ _)

theorem nearest_le_next (n : ℕ) : nearest n ≤ (n / unitOf n + 1) * unitOf n := by
  unfold nearest
  split
  · exact Nat.mul_le_mul_right _ (Nat.le_succ _)
  · exact le_rfl

theorem unitOf_dvd_nearest (n : ℕ) : unitOf n ∣ nearest n := by
  unfold nearest
  split <;> exact Dvd.intro_left _ rfl

theorem le_unit (n : ℕ) : n < 2 ^ 53 * unitOf n := by
  have hsize : n < 2 ^ n.size := Nat.lt_size_self n
  have hle : n.size ≤ 53 + (n.size - 53) := by omega
  calc n < 2 ^ n.size := hsize
    _ ≤ 2 ^ (53 + (n.size - 53)) := Nat.pow_le_pow_right (by decide) hle
    _ = 2 ^ 53 * unitOf n := by rw [pow_add, unitOf]

theorem unitOf_nearest_dvd (n : ℕ) : unitOf (nearest n) ∣ nearest n := by
  have hquotient : n / unitOf n + 1 ≤ 2 ^ 53 :=
    Nat.succ_le_of_lt (Nat.div_lt_of_lt_mul (by rw [mul_comm]; exact le_unit n))
  have hle : nearest n ≤ 2 ^ 53 * unitOf n :=
    (nearest_le_next n).trans (Nat.mul_le_mul_right _ hquotient)
  obtain hlt | heq := hle.lt_or_eq
  · -- the unit is no greater than before
    have hsize : (nearest n).size ≤ 53 + (n.size - 53) := by
      rw [Nat.size_le, pow_add]
      exact hlt
    exact (Nat.pow_dvd_pow 2 (by omega)).trans (unitOf_dvd_nearest n)
  · have hpow : nearest n = 2 ^ (53 + (n.size - 53)) := by rw [heq, pow_add, unitOf]
    rw [hpow, unitOf, Nat.size_pow]
    exact Nat.pow_dvd_pow 2 (by omega)

theorem nearest_nearest (n : ℕ) : nearest (nearest n) = nearest n :=
  nearest_eq_self (unitOf_nearest_dvd n)

theorem unitOf_dvd_of_nearest_eq (h : nearest n = n) : unitOf n ∣ n := by
  have hdvd := unitOf_nearest_dvd n
  rwa [h] at hdvd

theorem nearest_le (hn : nearest n = n) (h : m ≤ n) : nearest m ≤ n := by
  have hdvd : unitOf m ∣ n := (unitOf_dvd_of_le h).trans (unitOf_dvd_of_nearest_eq hn)
  obtain ⟨k, rfl⟩ := hdvd
  have hpos := unitOf_pos m
  have hfloor : m / unitOf m ≤ k := by
    rw [← Nat.mul_div_cancel_left k hpos]
    exact Nat.div_le_div_right h
  obtain hlt | heq := hfloor.lt_or_eq
  · calc nearest m ≤ (m / unitOf m + 1) * unitOf m := nearest_le_next m
      _ ≤ k * unitOf m := Nat.mul_le_mul_right _ hlt
      _ = unitOf m * k := Nat.mul_comm _ _
  have hsame : m = unitOf m * k := by
    have hdiv := Nat.div_mul_le_self m (unitOf m)
    rw [heq, Nat.mul_comm] at hdiv
    exact le_antisymm h hdiv
  rw [nearest_eq_self (Dvd.intro k hsame.symm)]
  exact h

theorem le_nearest (hn : nearest n = n) (h : n ≤ m) : n ≤ nearest m := by
  refine le_trans ?_ (floor_le_nearest m)
  obtain hsize | hsize := (Nat.size_le_size h).eq_or_lt
  · have hunit : unitOf n = unitOf m := by rw [unitOf, unitOf, hsize]
    obtain ⟨k, hk⟩ := unitOf_dvd_of_nearest_eq hn
    rw [hunit, Nat.mul_comm] at hk
    rw [hk] at h ⊢
    exact Nat.mul_le_mul_right _ ((Nat.le_div_iff_mul_le (unitOf_pos m)).mpr h)
  have hbelow : n ≤ 2 ^ (m.size - 1) :=
    (Nat.lt_size_self n).le.trans (Nat.pow_le_pow_right (by decide) (by omega))
  have hpower : 2 ^ (m.size - 1) ≤ m := Nat.lt_size.mp (by omega)
  have hdvd : unitOf m ∣ 2 ^ (m.size - 1) := Nat.pow_dvd_pow 2 (by omega)
  obtain ⟨k, hk⟩ := hdvd
  rw [Nat.mul_comm] at hk
  rw [hk] at hbelow hpower
  exact hbelow.trans
    (Nat.mul_le_mul_right _ ((Nat.le_div_iff_mul_le (unitOf_pos m)).mpr hpower))

theorem nearest_of_toDouble (h : toDouble m = some n) : nearest m = n ∧ n < 2 ^ 1024 := by
  unfold toDouble at h
  split at h
  · next hlt =>
    obtain rfl := Option.some.inj h
    exact ⟨rfl, hlt⟩
  · cases h

theorem toDouble_eq (hround : nearest m = n) (hlt : n < 2 ^ 1024) : toDouble m = some n := by
  rw [toDouble, hround, if_pos hlt]

/-- The nearest number with the most zeros at the end, `zeros` or less, that rounds to `n`. -/
def shortestFrom (n : ℕ) : ℕ → ℕ
  | 0 => n
  | zeros + 1 =>
    let unit := 10 ^ (zeros + 1)
    let below := n / unit * unit
    let above := below + unit
    if nearest below = n ∧ (nearest above ≠ n ∨ n - below < above - n ∨
        (n - below = above - n ∧ n / unit % 2 = 0)) then below
    else if nearest above = n then above
    else shortestFrom n zeros

def shortest (n : ℕ) : ℕ := shortestFrom n (spell 10 1 n).length

theorem nearest_shortest (hn : nearest n = n) : nearest (shortest n) = n := by
  have hfrom : ∀ zeros, nearest (shortestFrom n zeros) = n := by
    intro zeros
    induction zeros with
    | zero => exact hn
    | succ zeros ih =>
      simp only [shortestFrom]
      split
      · next h => exact h.1
      split
      · assumption
      · exact ih
  exact hfrom _

/-- Up to 21 digits a number is written without an exponent. -/
def toText (n : ℕ) : List Char :=
  let digits := spell 10 1 (shortest n)
  if digits.length ≤ 21 then digits
  else
    let significant := digits.rdropWhile (· = '0')
    let exponent := 'e' :: '+' :: spell 10 1 (digits.length - 1)
    match significant with
    | [digit] => digit :: exponent
    | digit :: rest => digit :: '.' :: (rest ++ exponent)
    | [] => exponent

end Doubles
