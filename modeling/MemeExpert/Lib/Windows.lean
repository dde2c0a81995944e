import Mathlib.Data.List.Sublists

/-! Two windows of one list show what they share at the same places and in the same order.
-/

namespace Windows

open scoped List

universe u

variable {α : Type u} {items shown : List α} {limit offset place : Nat} {item first second : α}

def window (items : List α) (limit offset : Nat) : List α := (items.drop offset).take limit

theorem getElem?_window (h : place < limit) :
    (window items limit offset)[place]? = items[offset + place]? := by
  rw [window, List.getElem?_take_of_lt h, List.getElem?_drop]

theorem head?_window (h : 0 < limit) : (window items limit offset).head? = items[offset]? := by
  rw [List.head?_eq_getElem?, getElem?_window h, Nat.add_zero]

theorem window_sublist : window items limit offset <+ items :=
  (List.take_sublist _ _).trans (List.drop_sublist _ _)

theorem mem_window : item ∈ window items limit offset ↔
    ∃ place, offset ≤ place ∧ place < offset + limit ∧ items[place]? = some item := by
  rw [List.mem_iff_getElem?]
  constructor
  · rintro ⟨place, hplace⟩
    have hshort : place < limit := by
      by_contra hlong
      rw [window, List.getElem?_take_eq_none (Nat.le_of_not_lt hlong)] at hplace
      cases hplace
    rw [getElem?_window hshort] at hplace
    exact ⟨offset + place, by omega, by omega, hplace⟩
  rintro ⟨place, hfirst, hlast, hitem⟩
  refine ⟨place - offset, ?_⟩
  rw [getElem?_window (by omega)]
  have hsame : offset + (place - offset) = place := by omega
  rwa [hsame]

theorem not_sublist_of_swapped (hnodup : items.Nodup) (hpair : [first, second] <+ items) :
    ¬ [second, first] <+ items := by
  induction items with
  | nil => exact absurd hpair (by simp)
  | cons head rest ih =>
    obtain ⟨hhead, hrest⟩ := List.nodup_cons.mp hnodup
    intro hswapped
    rcases List.sublist_cons_iff.mp hpair with hrestPair | ⟨_, heq, hsecond⟩
    · rcases List.sublist_cons_iff.mp hswapped with hswapped | ⟨_, heq, -⟩
      · exact ih hrest hrestPair hswapped
      · obtain ⟨rfl, rfl⟩ := List.cons.inj heq
        exact hhead (hrestPair.subset (List.mem_cons_of_mem _ List.mem_cons_self))
    obtain ⟨rfl, rfl⟩ := List.cons.inj heq
    rcases List.sublist_cons_iff.mp hswapped with hswapped | ⟨_, heq, -⟩
    · exact hhead (hswapped.subset (List.mem_cons_of_mem _ List.mem_cons_self))
    · obtain ⟨rfl, -⟩ := List.cons.inj heq
      exact hhead (hsecond.subset List.mem_cons_self)

theorem pair_sublist_or (hfirst : first ∈ items) (hsecond : second ∈ items) (hne : first ≠ second) :
    [first, second] <+ items ∨ [second, first] <+ items := by
  obtain ⟨before, after, rfl⟩ := List.append_of_mem hfirst
  rcases List.mem_append.mp hsecond with hbefore | hafter
  · right
    have hone : [second] <+ before := List.singleton_sublist.mpr hbefore
    exact hone.append (List.singleton_sublist.mpr List.mem_cons_self)
  · left
    have hin : second ∈ after := (List.mem_cons.mp hafter).resolve_left hne.symm
    exact ((List.singleton_sublist.mpr hin).cons_cons first).trans (List.sublist_append_right _ _)

theorem pair_sublist_iff (hnodup : items.Nodup) (hshown : shown <+ items) (hfirst : first ∈ shown)
    (hsecond : second ∈ shown) : [first, second] <+ shown ↔ [first, second] <+ items := by
  constructor
  · exact fun h => h.trans hshown
  intro h
  have hne : first ≠ second := by
    have hpair := hnodup.sublist h
    simpa using hpair
  refine (pair_sublist_or hfirst hsecond hne).resolve_right fun hswapped => ?_
  exact not_sublist_of_swapped hnodup h (hswapped.trans hshown)

end Windows
