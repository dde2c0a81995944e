import Mathlib.Algebra.BigOperators.Ring.List
import Mathlib.Data.List.Induction
import Mathlib.Tactic.LinearCombination
import Mathlib.Tactic.Ring

/-! The highest coefficient stands first, so that Horner's rule reads the list from the
left. -/

namespace Remainders

universe u

variable {R : Type u} [CommRing R]

/-- The value at `x`, by Horner's rule. -/
def eval (x : R) (coefficients : List R) : R :=
  coefficients.foldl (fun value coefficient => value * x + coefficient) 0

/-- The product with `x + root`. -/
def timesRoot (coefficients : List R) (root : R) : List R :=
  List.zipWith (· + ·) (coefficients ++ [0]) (0 :: coefficients.map (· * root))

def rootProduct (roots : List R) : List R := roots.foldl timesRoot [1]

/-- The register takes in one more coefficient of the dividend. -/
def pushed (lower register : List R) (coefficient : R) : List R :=
  let factor := coefficient + register.headD 0
  List.zipWith (fun kept divisor => kept + divisor * factor) (register.tail ++ [0]) lower

/-- The remainder by the monic polynomial with these lower coefficients. -/
def remainder (lower data : List R) : List R :=
  data.foldl (pushed lower) (List.replicate lower.length 0)

variable {x root : R} {first second lower register data : List R}

theorem foldl_horner (start : R) :
    first.foldl (fun value coefficient => value * x + coefficient) start =
      start * x ^ first.length + eval x first := by
  induction first generalizing start with
  | nil => simp [eval]
  | cons coefficient rest ih =>
    have hrest : eval x (coefficient :: rest) = coefficient * x ^ rest.length + eval x rest := by
      rw [eval, List.foldl_cons, ih, zero_mul, zero_add]
    rw [List.foldl_cons, ih, hrest, List.length_cons]
    ring

theorem eval_append :
    eval x (first ++ second) = eval x first * x ^ second.length + eval x second := by
  rw [eval, List.foldl_append, foldl_horner]
  rfl

theorem eval_cons (coefficient : R) :
    eval x (coefficient :: first) = coefficient * x ^ first.length + eval x first := by
  rw [eval, List.foldl_cons, foldl_horner, zero_mul, zero_add]

@[simp] theorem eval_singleton (coefficient : R) : eval x [coefficient] = coefficient := by
  simp [eval]

theorem eval_zipWith {factor : R} (h : first.length = second.length) :
    eval x (List.zipWith (fun kept divisor => kept + divisor * factor) first second) =
      eval x first + eval x second * factor := by
  induction first generalizing second with
  | nil =>
    rw [List.length_nil] at h
    rw [List.length_eq_zero_iff.mp h.symm]
    simp [eval]
  | cons kept first ih =>
    cases second with
    | nil => cases h
    | cons divisor second =>
      have hlength : first.length = second.length := Nat.succ.inj h
      rw [List.zipWith_cons_cons, eval_cons, eval_cons, eval_cons, ih hlength,
        List.length_zipWith, hlength, Nat.min_self]
      ring

theorem eval_map_mul (factor : R) : eval x (first.map (· * factor)) = eval x first * factor := by
  induction first with
  | nil => simp [eval]
  | cons coefficient rest ih =>
    rw [List.map_cons, eval_cons, eval_cons, ih, List.length_map]
    ring

theorem eval_replicate (count : Nat) : eval x (List.replicate count 0) = 0 := by
  induction count with
  | zero => rfl
  | succ count ih => rw [List.replicate_succ, eval_cons, ih, zero_mul, zero_add]

theorem length_timesRoot : (timesRoot first root).length = first.length + 1 := by
  simp [timesRoot]

theorem eval_timesRoot : eval x (timesRoot first root) = eval x first * (x + root) := by
  have hsum : timesRoot first root = List.zipWith (fun kept divisor => kept + divisor * 1)
      (first ++ [0]) (0 :: first.map (· * root)) := by
    simp only [timesRoot, mul_one]
  rw [hsum, eval_zipWith (by simp), eval_append, eval_singleton, List.length_singleton, pow_one,
    eval_cons, eval_map_mul]
  ring

theorem headD_timesRoot (h : first ≠ []) : (timesRoot first root).headD 0 = first.headD 0 := by
  cases first with
  | nil => exact (h rfl).elim
  | cons coefficient rest => simp [timesRoot]

theorem rootProduct_append (roots : List R) :
    rootProduct (roots ++ [root]) = timesRoot (rootProduct roots) root := by
  rw [rootProduct, List.foldl_append]
  rfl

theorem rootProduct_spec (roots : List R) :
    (rootProduct roots).length = roots.length + 1 ∧ (rootProduct roots).headD 0 = 1 ∧
      eval x (rootProduct roots) = (roots.map (x + ·)).prod := by
  induction roots using List.reverseRecOn with
  | nil => simp [rootProduct, eval]
  | append_singleton roots root ih =>
    obtain ⟨hlength, hhead, heval⟩ := ih
    have hne : rootProduct roots ≠ [] := by
      rw [← List.length_pos_iff, hlength]
      exact Nat.succ_pos _
    refine ⟨?_, ?_, ?_⟩
    · rw [rootProduct_append, length_timesRoot, hlength, List.length_append, List.length_singleton]
    · rw [rootProduct_append, headD_timesRoot hne, hhead]
    · rw [rootProduct_append, eval_timesRoot, heval, List.map_append, List.prod_append]
      simp

theorem eval_tail_rootProduct (roots : List R) :
    x ^ roots.length + eval x (rootProduct roots).tail = (roots.map (x + ·)).prod := by
  obtain ⟨hlength, hhead, heval⟩ := @rootProduct_spec R _ x roots
  rw [← heval]
  cases hproduct : rootProduct roots with
  | nil =>
    rw [hproduct] at hlength
    cases hlength
  | cons coefficient rest =>
    rw [hproduct] at hlength hhead
    have hrest : rest.length = roots.length := Nat.succ.inj hlength
    have hone : coefficient = 1 := hhead
    rw [eval_cons, hone, one_mul, List.tail_cons, hrest]

theorem eval_tail_of_root (hself : ∀ a : R, a + a = 0) {roots : List R} (h : x ∈ roots) :
    x ^ roots.length + eval x (rootProduct roots).tail = 0 := by
  rw [eval_tail_rootProduct]
  exact List.prod_eq_zero (List.mem_map.mpr ⟨x, h, hself x⟩)

theorem length_pushed (h : register.length = lower.length) (coefficient : R) :
    (pushed lower register coefficient).length = lower.length := by
  cases register with
  | nil =>
    rw [List.length_nil] at h
    rw [List.length_eq_zero_iff.mp h.symm]
    rfl
  | cons head register => simpa [pushed] using h.ge

/-- Pushing a coefficient multiplies the register by `x`, up to a multiple of the divisor. -/
theorem eval_pushed (hlower : lower ≠ []) (h : register.length = lower.length)
    (hroot : x ^ lower.length + eval x lower = 0) (hself : ∀ a : R, a + a = 0) (coefficient : R) :
    eval x (pushed lower register coefficient) =
      eval x register * x + coefficient * x ^ lower.length := by
  cases register with
  | nil => exact (hlower (List.length_eq_zero_iff.mp h.symm)).elim
  | cons head register =>
    have hlength : (register ++ [(0 : R)]).length = lower.length := by simpa using h
    have hpow : x ^ lower.length = x ^ register.length * x := by
      rw [← h, List.length_cons, pow_succ]
    have heval : eval x lower = x ^ lower.length := by
      linear_combination hroot - hself (x ^ lower.length)
    simp only [pushed, List.headD_cons, List.tail_cons]
    rw [eval_zipWith hlength, eval_append, eval_singleton, List.length_singleton, pow_one, heval,
      eval_cons, hpow]
    ring

theorem eval_append_remainder (hlower : lower ≠ [])
    (hroot : x ^ lower.length + eval x lower = 0) (hself : ∀ a : R, a + a = 0) :
    (remainder lower data).length = lower.length ∧ eval x (data ++ remainder lower data) = 0 := by
  induction data using List.reverseRecOn with
  | nil => exact ⟨List.length_replicate, eval_replicate _⟩
  | append_singleton data coefficient ih =>
    obtain ⟨hlength, hzero⟩ := ih
    have hstep : remainder lower (data ++ [coefficient]) =
        pushed lower (remainder lower data) coefficient := by
      rw [remainder, List.foldl_append]
      rfl
    have hpushed := length_pushed hlength coefficient
    rw [hstep]
    refine ⟨hpushed, ?_⟩
    rw [eval_append, hlength] at hzero
    rw [eval_append, hpushed, eval_pushed hlower hlength hroot hself, eval_append,
      eval_singleton, List.length_singleton, pow_one]
    linear_combination x * hzero + hself (coefficient * x ^ lower.length)

end Remainders
