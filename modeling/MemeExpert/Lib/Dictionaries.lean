import Mathlib.Data.List.Basic

/-! A dictionary is built by assigning keys one after another: a key stands where it came
first, with the value that was assigned last. -/

namespace Dictionaries

variable {κ α β : Type*} [DecidableEq κ]

/-- The value that was assigned to the key last. -/
def lastOf (assignments : List (κ × α)) (key : κ) : Option α :=
  (assignments.reverse.find? (·.1 = key)).map (·.2)

def dictOf (assignments : List (κ × α)) : List (κ × α) :=
  (assignments.map (·.1)).eraseDups.filterMap fun key =>
    (lastOf assignments key).map fun value => (key, value)

variable {assignments other : List (κ × α)} {key : κ} {value : α}

theorem lastOf_eq_none_iff :
    lastOf assignments key = none ↔ ∀ pair ∈ assignments, pair.1 ≠ key := by
  simp [lastOf]

@[simp] theorem lastOf_snoc (pair : κ × α) :
    lastOf (assignments ++ [pair]) key =
      if pair.1 = key then some pair.2 else lastOf assignments key := by
  unfold lastOf
  rw [List.reverse_append, List.reverse_singleton, List.singleton_append, List.find?_cons]
  by_cases hkey : pair.1 = key <;> simp [hkey]

theorem mem_of_lastOf (h : lastOf assignments key = some value) : (key, value) ∈ assignments := by
  obtain ⟨pair, hpair, rfl⟩ := Option.map_eq_some_iff.mp h
  have hkey : pair.1 = key := by simpa using List.find?_some hpair
  rw [← hkey]
  exact List.mem_reverse.mp (List.mem_of_find?_eq_some hpair)

theorem mem_dictOf : (key, value) ∈ dictOf assignments ↔ lastOf assignments key = some value := by
  unfold dictOf
  rw [List.mem_filterMap]
  constructor
  · rintro ⟨found, -, hfound⟩
    obtain ⟨last, hlast, heq⟩ := Option.map_eq_some_iff.mp hfound
    obtain ⟨rfl, rfl⟩ := Prod.mk.inj heq
    exact hlast
  · intro hlast
    refine ⟨key, ?_, by rw [hlast]; rfl⟩
    exact List.mem_eraseDups.mpr (List.mem_map_of_mem (mem_of_lastOf hlast))

theorem dictOf_congr (hkeys : assignments.map (·.1) = other.map (·.1))
    (hlast : ∀ key, lastOf assignments key = lastOf other key) :
    dictOf assignments = dictOf other := by
  unfold dictOf
  rw [hkeys]
  refine List.filterMap_congr ?_
  intro key _
  rw [hlast]

theorem length_eraseDups_le (keys : List κ) : keys.eraseDups.length ≤ keys.length := by
  induction hlength : keys.length using Nat.strongRecOn generalizing keys with
  | _ n ih =>
    cases keys with
    | nil => exact Nat.zero_le _
    | cons key keys =>
      have hfilter := List.length_filter_le (fun other => !other == key) keys
      rw [List.length_cons] at hlength
      have hrest := ih _ (by omega) (keys.filter fun other => !other == key) rfl
      rw [List.eraseDups_cons, List.length_cons]
      omega

theorem length_dictOf_le : (dictOf assignments).length ≤ assignments.length := by
  calc (dictOf assignments).length
      ≤ (assignments.map (·.1)).eraseDups.length := List.length_filterMap_le _ _
    _ ≤ (assignments.map (·.1)).length := length_eraseDups_le _
    _ = assignments.length := List.length_map _

end Dictionaries
