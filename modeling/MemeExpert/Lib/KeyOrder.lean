import Mathlib.Data.List.Sort
import Mathlib.Order.Lattice

/-! Rows are sorted by a key of a linear order. -/

namespace KeyOrder

open scoped List

variable {α κ : Type*} [LinearOrder κ] (key : α → κ)

def KeyLe (a b : α) : Prop := key a ≤ key b

instance : DecidableRel (KeyLe key) := fun a b => inferInstanceAs (Decidable (key a ≤ key b))

def sortedBy (rows : List α) : List α := rows.insertionSort (KeyLe key)

theorem perm_sortedBy (rows : List α) : sortedBy key rows ~ rows := List.perm_insertionSort _ _

end KeyOrder
