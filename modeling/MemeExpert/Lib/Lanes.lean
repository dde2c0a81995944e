import Mathlib.Algebra.Order.Group.Defs
import Mathlib.Data.List.Basic

/-! Pieces of work are put one after another on `count` lanes, each on
a lane whose load is least. -/

namespace MemeExpert.Lanes

section Scan

variable {α : Type*} [LinearOrder α]

/-- The first lane of least load below `count`, found by one scan from lane zero. -/
def leastLane (load : ℕ → α) (count : ℕ) : ℕ :=
  (List.range' 1 (count - 1)).foldl
    (fun lane candidate => if load candidate < load lane then candidate else lane) 0

theorem scan_le (load : ℕ → α) (candidates : List ℕ) :
    ∀ lane : ℕ,
      let chosen := candidates.foldl
        (fun lane candidate => if load candidate < load lane then candidate else lane) lane
      load chosen ≤ load lane ∧ ∀ candidate ∈ candidates, load chosen ≤ load candidate := by
  induction candidates with
  | nil => simp
  | cons candidate rest ih =>
    intro lane
    simp only [List.foldl_cons, List.mem_cons, forall_eq_or_imp]
    obtain ⟨hstart, hrest⟩ := ih (if load candidate < load lane then candidate else lane)
    have hstep : load (if load candidate < load lane then candidate else lane) ≤ load lane ∧
        load (if load candidate < load lane then candidate else lane) ≤ load candidate := by
      split
      · next hlt => exact ⟨hlt.le, le_rfl⟩
      · next hge => exact ⟨le_rfl, not_lt.mp hge⟩
    exact ⟨hstart.trans hstep.1, hstart.trans hstep.2, hrest⟩

theorem scan_mem (load : ℕ → α) (candidates : List ℕ) :
    ∀ lane : ℕ, candidates.foldl
      (fun lane candidate => if load candidate < load lane then candidate else lane) lane ∈
        lane :: candidates := by
  induction candidates with
  | nil => simp
  | cons candidate rest ih =>
    intro lane
    rw [List.foldl_cons]
    have hmem := ih (if load candidate < load lane then candidate else lane)
    rw [List.mem_cons] at hmem ⊢
    split at hmem <;> grind

theorem leastLane_lt (load : ℕ → α) {count : ℕ} (hcount : 0 < count) :
    leastLane load count < count := by
  have hmem := scan_mem load (List.range' 1 (count - 1)) 0
  rw [List.mem_cons, List.mem_range'_1] at hmem
  unfold leastLane
  omega

theorem leastLane_le (load : ℕ → α) {count lane : ℕ} (hlane : lane < count) :
    load (leastLane load count) ≤ load lane := by
  obtain ⟨hzero, hrest⟩ := scan_le load (List.range' 1 (count - 1)) 0
  obtain rfl | hpos := Nat.eq_zero_or_pos lane
  · exact hzero
  · exact hrest lane (List.mem_range'_1.mpr (by omega))

end Scan

/-- A piece of work on a lane, from `start` on. -/
structure Slot (α : Type*) where
  lane : ℕ
  start : α
  size : α

section Loads

variable {α : Type*} [AddCommGroup α]

/-- Where the last piece on `lane` ends. -/
def loadOf (slots : List (Slot α)) (lane : ℕ) : α :=
  slots.foldl (fun load s => if s.lane = lane then s.start + s.size else load) 0

@[simp] theorem loadOf_snoc (slots : List (Slot α)) (s : Slot α) (lane : ℕ) :
    loadOf (slots ++ [s]) lane =
      if s.lane = lane then s.start + s.size else loadOf slots lane := by
  simp [loadOf]

end Loads

section Greedy

variable {α : Type*} [AddCommGroup α] [LinearOrder α]

/-- Each piece starts where a least loaded lane ends at that moment. -/
inductive Greedy (count : ℕ) : List (Slot α) → Prop where
  | nil : Greedy count []
  | snoc {slots : List (Slot α)} {s : Slot α} (before : Greedy count slots)
      (lane_lt : s.lane < count) (start_eq : s.start = loadOf slots s.lane)
      (least : ∀ lane < count, s.start ≤ loadOf slots lane) (size_nonneg : 0 ≤ s.size) :
      Greedy count (slots ++ [s])

namespace Greedy

variable {count : ℕ} {slots : List (Slot α)}

theorem lane_lt (h : Greedy count slots) : ∀ s ∈ slots, s.lane < count := by
  induction h with
  | nil => simp
  | snoc _ hlane _ _ _ ih =>
    intro t ht
    rw [List.mem_append, List.mem_singleton] at ht
    obtain ht | rfl := ht
    · exact ih t ht
    · exact hlane

theorem at_split (h : Greedy count slots) :
    ∀ before s after, slots = before ++ s :: after →
      s.start = loadOf before s.lane ∧ ∀ lane < count, s.start ≤ loadOf before lane := by
  induction h with
  | nil => simp
  | snoc _ _ hstart hleast _ ih =>
    intro before t after hsplit
    obtain rfl | ⟨rest, last, rfl⟩ := List.eq_nil_or_concat after
    · obtain ⟨rfl, ht⟩ := List.append_inj' hsplit rfl
      obtain rfl := List.singleton_inj.mp ht
      exact ⟨hstart, hleast⟩
    have hinner : before ++ t :: rest.concat last = before ++ t :: rest ++ [last] := by simp
    rw [hinner] at hsplit
    obtain ⟨hslots, -⟩ := List.append_inj' hsplit rfl
    exact ih before t rest hslots

variable [IsOrderedAddMonoid α]

theorem start_le_load (h : Greedy count slots) :
    ∀ s ∈ slots, ∀ lane < count, s.start ≤ loadOf slots lane := by
  induction h with
  | nil => simp
  | @snoc slots new _ hlane hstart hleast hsize ih =>
    intro t ht lane hlt
    have hnew : t.start ≤ new.start := by
      rw [List.mem_append, List.mem_singleton] at ht
      obtain ht | rfl := ht
      · exact (ih t ht new.lane hlane).trans hstart.ge
      · exact le_rfl
    rw [loadOf_snoc]
    split
    · exact hnew.trans (le_add_of_nonneg_right hsize)
    · exact hnew.trans (hleast lane hlt)

theorem end_le_load (h : Greedy count slots) :
    ∀ s ∈ slots, s.start + s.size ≤ loadOf slots s.lane := by
  induction h with
  | nil => simp
  | @snoc slots new _ hlane hstart hleast hsize ih =>
    intro t ht
    rw [loadOf_snoc]
    rw [List.mem_append, List.mem_singleton] at ht
    obtain ht | rfl := ht
    · have hold := ih t ht
      split
      · next heq =>
          rw [← heq, ← hstart] at hold
          exact hold.trans (le_add_of_nonneg_right hsize)
      · exact hold
    · rw [if_pos rfl]

theorem starts_sorted (h : Greedy count slots) : slots.Pairwise (fun s t => s.start ≤ t.start) := by
  induction h with
  | nil => exact List.Pairwise.nil
  | @snoc slots new hslots hlane hstart _ _ ih =>
    refine List.pairwise_append.mpr ⟨ih, List.pairwise_singleton _ _, ?_⟩
    intro s hs t ht
    rw [List.mem_singleton] at ht
    subst ht
    rw [hstart]
    exact hslots.start_le_load s hs t.lane hlane

theorem same_lane_disjoint (h : Greedy count slots) :
    slots.Pairwise (fun s t => s.lane = t.lane → s.start + s.size ≤ t.start) := by
  induction h with
  | nil => exact List.Pairwise.nil
  | @snoc slots new hslots _ hstart _ _ ih =>
    refine List.pairwise_append.mpr ⟨ih, List.pairwise_singleton _ _, ?_⟩
    intro s hs t ht hsame
    rw [List.mem_singleton] at ht
    subst ht
    rw [hstart, ← hsame]
    exact hslots.end_le_load s hs

end Greedy

end Greedy

end MemeExpert.Lanes
