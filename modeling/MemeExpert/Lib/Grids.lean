import Mathlib.Data.List.Nodup

/-! A grid is a list of rows. -/

namespace Grids

/-- Column and row. -/
abbrev Place := Nat × Nat

def Inside (size : Nat) (place : Place) : Prop := place.1 < size ∧ place.2 < size

instance {size : Nat} {place : Place} : Decidable (Inside size place) :=
  inferInstanceAs (Decidable (_ ∧ _))

def cell (grid : List (List Bool)) (place : Place) : Bool :=
  ((grid.getD place.2 []).getD place.1 false)

def put (grid : List (List Bool)) (place : Place) (value : Bool) : List (List Bool) :=
  grid.modify place.2 fun row => row.set place.1 value

structure IsSquare (size : Nat) (grid : List (List Bool)) : Prop where
  rows : grid.length = size
  columns : ∀ row ∈ grid, row.length = size

def blank (size : Nat) : List (List Bool) := List.replicate size (List.replicate size false)

/-- The cells are written one after another. -/
def fill (grid : List (List Bool)) (writes : List (Place × Bool)) : List (List Bool) :=
  writes.foldl (fun grid write => put grid write.1 write.2) grid

/-- The cell is turned over if the condition holds of it. -/
def flipCell (condition : Place → Bool) (grid : List (List Bool)) (place : Place) :
    List (List Bool) :=
  if condition place then put grid place (!cell grid place) else grid

def flip (condition : Place → Bool) (grid : List (List Bool)) (places : List Place) :
    List (List Bool) :=
  places.foldl (flipCell condition) grid

variable {size : Nat} {grid : List (List Bool)} {place other : Place} {value : Bool}
  {writes : List (Place × Bool)} {places : List Place} {condition : Place → Bool}

theorem isSquare_blank : IsSquare size (blank size) where
  rows := List.length_replicate
  columns row hrow := by
    rw [List.eq_of_mem_replicate hrow]
    exact List.length_replicate

theorem cell_blank : cell (blank size) place = false := by
  simp only [cell, blank, List.getD_eq_getElem?_getD, List.getElem?_replicate]
  split
  · simp only [Option.getD_some, List.getElem?_replicate]
    split <;> rfl
  · rfl

theorem IsSquare.put (h : IsSquare size grid) : IsSquare size (put grid place value) where
  rows := by rw [Grids.put, List.length_modify, h.rows]
  columns row hrow := by
    rw [Grids.put, List.mem_iff_getElem?] at hrow
    obtain ⟨i, hi⟩ := hrow
    rw [List.getElem?_modify] at hi
    obtain ⟨old, hold, rfl⟩ := Option.map_eq_some_iff.mp hi
    have hlength := h.columns old (List.mem_of_getElem? hold)
    split
    · rw [List.length_set, hlength]
    · exact hlength

theorem cell_put_self (h : IsSquare size grid) (hinside : Inside size place) :
    cell (put grid place value) place = value := by
  obtain ⟨x, y⟩ := place
  obtain ⟨hx, hy⟩ := hinside
  have hrow : y < grid.length := h.rows.symm ▸ hy
  have hcolumn : x < grid[y].length := (h.columns _ (List.getElem_mem hrow)).symm ▸ hx
  simp [cell, put, hrow, hcolumn]

theorem cell_put_of_ne (h : other ≠ place) :
    cell (put grid place value) other = cell grid other := by
  obtain ⟨x, y⟩ := place
  obtain ⟨otherX, otherY⟩ := other
  simp only [cell, put, List.getD_eq_getElem?_getD, List.getElem?_modify]
  by_cases hy : y = otherY
  · subst hy
    have hx : x ≠ otherX := fun heq => h (by rw [heq])
    cases grid[y]? with
    | none => rfl
    | some row => simp [hx]
  · simp [hy]

theorem fill_cons (write : Place × Bool) :
    fill grid (write :: writes) = fill (put grid write.1 write.2) writes := rfl

theorem IsSquare.fill (h : IsSquare size grid) : IsSquare size (fill grid writes) := by
  induction writes generalizing grid with
  | nil => exact h
  | cons write writes ih => exact ih h.put

theorem cell_fill_of_not_mem (h : place ∉ writes.map Prod.fst) :
    cell (fill grid writes) place = cell grid place := by
  induction writes generalizing grid with
  | nil => rfl
  | cons write writes ih =>
    rw [List.map_cons, List.mem_cons, not_or] at h
    rw [fill_cons, ih h.2, cell_put_of_ne h.1]

theorem cell_fill_of_mem (hsquare : IsSquare size grid) (hnodup : (writes.map Prod.fst).Nodup)
    (hmem : (place, value) ∈ writes) (hinside : Inside size place) :
    cell (fill grid writes) place = value := by
  induction writes generalizing grid with
  | nil => cases hmem
  | cons write writes ih =>
    rw [List.map_cons, List.nodup_cons] at hnodup
    rw [fill_cons]
    rcases List.mem_cons.mp hmem with rfl | hmem
    · rw [cell_fill_of_not_mem hnodup.1, cell_put_self hsquare hinside]
    · exact ih hsquare.put hnodup.2 hmem

theorem IsSquare.flipCell (h : IsSquare size grid) :
    IsSquare size (flipCell condition grid place) := by
  unfold Grids.flipCell
  split
  · exact h.put
  · exact h

theorem cell_flipCell_self (h : IsSquare size grid) (hinside : Inside size place) :
    cell (flipCell condition grid place) place = xor (cell grid place) (condition place) := by
  unfold flipCell
  cases condition place with
  | true => rw [if_pos rfl, cell_put_self h hinside, Bool.xor_true]
  | false => rw [if_neg Bool.false_ne_true, Bool.xor_false]

theorem cell_flipCell_of_ne (h : other ≠ place) :
    cell (flipCell condition grid place) other = cell grid other := by
  unfold flipCell
  split
  · exact cell_put_of_ne h
  · rfl

theorem IsSquare.flip (h : IsSquare size grid) : IsSquare size (flip condition grid places) := by
  induction places generalizing grid with
  | nil => exact h
  | cons place places ih => exact ih h.flipCell

theorem cell_flip_of_not_mem (h : place ∉ places) :
    cell (flip condition grid places) place = cell grid place := by
  induction places generalizing grid with
  | nil => rfl
  | cons first places ih =>
    rw [List.mem_cons, not_or] at h
    exact (ih h.2).trans (cell_flipCell_of_ne h.1)

theorem cell_flip_of_mem (hsquare : IsSquare size grid) (hnodup : places.Nodup)
    (hmem : place ∈ places) (hinside : Inside size place) :
    cell (flip condition grid places) place = xor (cell grid place) (condition place) := by
  induction places generalizing grid with
  | nil => cases hmem
  | cons first places ih =>
    rw [List.nodup_cons] at hnodup
    rcases List.mem_cons.mp hmem with rfl | hmem
    · exact (cell_flip_of_not_mem hnodup.1).trans (cell_flipCell_self hsquare hinside)
    have hne : place ≠ first := fun heq => hnodup.1 (heq ▸ hmem)
    exact (ih hsquare.flipCell hnodup.2 hmem).trans
      (congrArg (xor · (condition place)) (cell_flipCell_of_ne hne))

end Grids
