import Mathlib.Data.List.Basic

/-! `ORDER BY … LIMIT 1` over a list of rows, with the order given as the test that one row
comes before another. -/

namespace Queries

universe u

variable {α : Type u}

/-- The better of the row chosen so far and the next one; a tie keeps the chosen row. -/
def prefer (before : α → α → Bool) (best : Option α) (row : α) : Option α :=
  match best with
  | none => some row
  | some chosen => if before row chosen then some row else best

def firstBy (before : α → α → Bool) (rows : List α) : Option α := rows.foldl (prefer before) none

theorem prefer_eq_some {before : α → α → Bool} {best : Option α} {row chosen : α}
    (h : prefer before best row = some chosen) : chosen = row ∨ best = some chosen := by
  unfold prefer at h
  split at h
  · exact .inl (Option.some.inj h).symm
  split at h
  · exact .inl (Option.some.inj h).symm
  · exact .inr h

theorem mem_of_foldl_prefer {before : α → α → Bool} {best : Option α} {rows : List α} {chosen : α}
    (h : rows.foldl (prefer before) best = some chosen) : best = some chosen ∨ chosen ∈ rows := by
  induction rows generalizing best with
  | nil => exact .inl h
  | cons row rows ih =>
    rcases ih h with hfirst | hrest
    · rcases prefer_eq_some hfirst with rfl | hbest
      · exact .inr List.mem_cons_self
      · exact .inl hbest
    · exact .inr (List.mem_cons_of_mem _ hrest)

theorem mem_of_firstBy {before : α → α → Bool} {rows : List α} {chosen : α}
    (h : firstBy before rows = some chosen) : chosen ∈ rows := by
  rcases mem_of_foldl_prefer h with hnone | hmem
  · cases hnone
  · exact hmem

theorem foldl_prefer_some (before : α → α → Bool) (best : α) (rows : List α) :
    ∃ chosen, rows.foldl (prefer before) (some best) = some chosen := by
  induction rows generalizing best with
  | nil => exact ⟨best, rfl⟩
  | cons row rows ih =>
    rw [List.foldl_cons, prefer]
    split
    · exact ih row
    · exact ih best

theorem exists_firstBy_of_mem (before : α → α → Bool) {rows : List α} {row : α} (h : row ∈ rows) :
    ∃ chosen, firstBy before rows = some chosen := by
  cases rows with
  | nil => cases h
  | cons first rest => exact foldl_prefer_some before first rest

section Minimal

variable {before : α → α → Bool}
  (hasymm : ∀ a b, before a b = true → before b a = false)
  (hnotBefore : ∀ a b c, before a b = false → before b c = false → before a c = false)

include hasymm hnotBefore

theorem not_before_foldl_prefer {best : Option α} {rows : List α} {chosen : α}
    (h : rows.foldl (prefer before) best = some chosen) :
    (∀ row, best = some row → before row chosen = false) ∧
      ∀ row ∈ rows, before row chosen = false := by
  have hirrefl : ∀ a, before a a = false := by
    intro a
    by_contra htrue
    rw [Bool.not_eq_false] at htrue
    exact absurd (hasymm a a htrue) (by simp [htrue])
  induction rows generalizing best with
  | nil =>
    constructor
    · rintro row rfl
      cases h
      exact hirrefl _
    · intro row hrow
      cases hrow
  | cons row rows ih =>
    obtain ⟨hbest, hrest⟩ := ih h
    cases best with
    | none =>
      refine ⟨by simp, ?_⟩
      intro other hother
      rcases List.mem_cons.mp hother with rfl | hother
      · exact hbest _ rfl
      · exact hrest other hother
    | some old =>
      by_cases hbefore : before row old = true
      · have hrow : before row chosen = false := hbest row (by simp [prefer, hbefore])
        constructor
        · intro other heq
          cases heq
          exact hnotBefore old row chosen (hasymm row old hbefore) hrow
        intro other hother
        rcases List.mem_cons.mp hother with rfl | hother
        · exact hrow
        · exact hrest other hother
      · rw [Bool.not_eq_true] at hbefore
        have hold : before old chosen = false := hbest old (by simp [prefer, hbefore])
        constructor
        · intro other heq
          cases heq
          exact hold
        intro other hother
        rcases List.mem_cons.mp hother with rfl | hother
        · exact hnotBefore other old chosen hbefore hold
        · exact hrest other hother

theorem not_before_firstBy {rows : List α} {chosen row : α} (h : firstBy before rows = some chosen)
    (hrow : row ∈ rows) : before row chosen = false :=
  (not_before_foldl_prefer hasymm hnotBefore h).2 row hrow

end Minimal

end Queries
