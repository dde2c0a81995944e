import Mathlib.Data.List.Perm.Basic
import Mathlib.Order.Lattice

/-! A value may be missing, and every item that comes in is joined to the value that is
there. -/

namespace Gathering

open scoped List

universe u

variable {α : Type u} {join : α → α → α} {start : Option α} {items more : List α}

def gather (join : α → α → α) (start : Option α) (items : List α) : Option α :=
  items.foldl (fun value item => Option.merge join value (some item)) start

theorem gather_nil : gather join start [] = start := rfl

theorem gather_cons (item : α) :
    gather join start (item :: items) =
      gather join (Option.merge join start (some item)) items := rfl

theorem gather_append :
    gather join start (items ++ more) = gather join (gather join start items) more :=
  List.foldl_append

theorem gather_some (value : α) : ∃ result, gather join (some value) items = some result := by
  induction items generalizing value with
  | nil => exact ⟨value, rfl⟩
  | cons item items ih => exact ih (join value item)

theorem eq_nil_of_gather_eq_none (h : gather join none items = none) : items = [] := by
  cases items with
  | nil => rfl
  | cons item items =>
    obtain ⟨result, hresult⟩ := @gather_some _ join items item
    rw [gather_cons, Option.merge_none_left, hresult] at h
    cases h

theorem eq_or_mem_of_gather (hjoin : ∀ first second, join first second = first ∨
    join first second = second) {value result : α}
    (h : gather join (some value) items = some result) : result = value ∨ result ∈ items := by
  induction items generalizing value with
  | nil => exact .inl (Option.some.inj h).symm
  | cons item items ih =>
    rcases ih h with heq | hmem
    · rcases hjoin value item with hfirst | hsecond
      · exact .inl (heq.trans hfirst)
      · exact .inr (List.mem_cons.mpr (.inl (heq.trans hsecond)))
    · exact .inr (List.mem_cons_of_mem _ hmem)

theorem mem_of_gather (hjoin : ∀ first second, join first second = first ∨
    join first second = second) {result : α} (h : gather join none items = some result) :
    result ∈ items := by
  cases items with
  | nil => cases h
  | cons item items =>
    rcases eq_or_mem_of_gather hjoin h with heq | hmem
    · exact List.mem_cons.mpr (.inl heq)
    · exact List.mem_cons_of_mem _ hmem

theorem gather_eq_merge [Std.Associative join] :
    gather join start items = Option.merge join start (gather join none items) := by
  induction items generalizing start with
  | nil => rw [gather_nil, gather_nil, Option.merge_none_right]
  | cons item items ih =>
    have hassoc := @Std.Associative.assoc _ (Option.merge join) _
    calc gather join start (item :: items)
        = Option.merge join (Option.merge join start (some item)) (gather join none items) := ih
      _ = Option.merge join start (Option.merge join (some item) (gather join none items)) :=
          hassoc _ _ _
      _ = Option.merge join start (gather join (some item) items) := by rw [@ih (some item)]

theorem le_of_gather_max {α : Type u} [LinearOrder α] {start : Option α} {items : List α}
    {result item : α} (h : gather max start items = some result) (hitem : item ∈ items) :
    item ≤ result := by
  induction items generalizing start with
  | nil => cases hitem
  | cons first items ih =>
    rcases List.mem_cons.mp hitem with rfl | hitem
    · rw [gather_cons, gather_eq_merge] at h
      have hfirst : ∃ value, Option.merge max start (some item) = some value ∧ item ≤ value := by
        cases start with
        | none => exact ⟨item, rfl, le_rfl⟩
        | some value => exact ⟨max value item, rfl, le_max_right value item⟩
      obtain ⟨value, hvalue, hle⟩ := hfirst
      rw [hvalue] at h
      cases hrest : gather max none items with
      | none =>
        rw [hrest] at h
        exact hle.trans (Option.some.inj h).le
      | some rest =>
        rw [hrest] at h
        exact hle.trans ((le_max_left value rest).trans (Option.some.inj h).le)
    · exact ih h hitem

theorem gather_perm [Std.Associative join] [Std.Commutative join] (h : items ~ more) :
    gather join start items = gather join start more := by
  have hassoc := @Std.Associative.assoc _ (Option.merge join) _
  have hcomm := @Std.Commutative.comm _ (Option.merge join) _
  refine h.foldl_eq' (fun first _ second _ value => ?_) start
  rw [hassoc, hassoc, hcomm (some first)]

end Gathering
