import Mathlib.Data.List.Sort

/-! A table is a list of rows of which no two have the same key, so that looking a key up
and scanning for it agree. -/

namespace Tables

universe u v

variable {ρ : Type u} {κ : Type v}

theorem nodup_append_singleton {key : ρ → κ} {rows : List ρ} {row : ρ}
    (hunique : (rows.map key).Nodup) (hnew : key row ∉ rows.map key) :
    ((rows ++ [row]).map key).Nodup := by
  rw [List.map_append, List.map_singleton, ← List.concat_eq_append]
  exact hunique.concat hnew

theorem countP_lt_countP {p q : ρ → Bool} {rows : List ρ} {row : ρ} (hrow : row ∈ rows)
    (himp : ∀ other ∈ rows, p other = true → q other = true) (hp : p row = false)
    (hq : q row = true) : rows.countP p < rows.countP q := by
  induction rows with
  | nil => cases hrow
  | cons first rest ih =>
    have hrest : ∀ other ∈ rest, p other = true → q other = true :=
      fun other hother => himp other (List.mem_cons_of_mem _ hother)
    rw [List.countP_cons, List.countP_cons]
    rcases List.mem_cons.mp hrow with rfl | hmem
    · have hle := List.countP_mono_left hrest
      rw [hp, hq, if_pos rfl, if_neg (by simp)]
      omega
    have hlt := ih hmem hrest
    have hfirst := himp first List.mem_cons_self
    split
    · next hpfirst =>
      rw [if_pos (hfirst hpfirst)]
      omega
    · omega

theorem filter_map_of_unseen {p : ρ → Bool} {f : ρ → ρ} {rows : List ρ}
    (h : ∀ row ∈ rows, f row = row ∨ p row = false ∧ p (f row) = false) :
    (rows.map f).filter p = rows.filter p := by
  induction rows with
  | nil => rfl
  | cons first rest ih =>
    have hrest := ih fun row hrow => h row (List.mem_cons_of_mem _ hrow)
    rw [List.map_cons, List.filter_cons, List.filter_cons, hrest]
    obtain heq | ⟨hbefore, hafter⟩ := h first List.mem_cons_self
    · rw [heq]
    · rw [hbefore, hafter]
      simp

section Unique

variable [DecidableEq κ] {key : ρ → κ} {rows : List ρ} {row : ρ} {k : κ}

theorem find_of_mem (hunique : (rows.map key).Nodup) (hrow : row ∈ rows) :
    rows.find? (fun other => key other = key row) = some row := by
  induction rows with
  | nil => cases hrow
  | cons first rest ih =>
    rw [List.map_cons, List.nodup_cons] at hunique
    obtain ⟨hfirst, hrest⟩ := hunique
    rcases List.mem_cons.mp hrow with rfl | hmem
    · simp
    have hne : key first ≠ key row := by
      intro heq
      exact hfirst (heq ▸ List.mem_map_of_mem hmem)
    simp [hne, ih hrest hmem]

theorem find_eq_some_iff (hunique : (rows.map key).Nodup) :
    rows.find? (fun other => key other = k) = some row ↔ row ∈ rows ∧ key row = k := by
  constructor
  · intro hfound
    exact ⟨List.mem_of_find?_eq_some hfound, by simpa using List.find?_some hfound⟩
  · rintro ⟨hrow, rfl⟩
    exact find_of_mem hunique hrow

theorem find_eq_none_iff : rows.find? (fun other => key other = k) = none ↔ k ∉ rows.map key := by
  simp [List.find?_eq_none]

theorem map_key_rewrite (key : ρ → κ) (rows : List ρ) (row : ρ) :
    (rows.map fun other => if key other = key row then row else other).map key = rows.map key := by
  rw [List.map_map]
  apply List.map_congr_left
  intro other _
  by_cases h : key other = key row <;> simp [h]

end Unique

/-- Rows of which no two share a key. -/
structure Table (key : ρ → κ) where
  rows : List ρ := []
  unique : (rows.map key).Nodup := by simp

namespace Table

variable [DecidableEq κ] {key : ρ → κ} {row : ρ} {k : κ}

def get (table : Table key) (k : κ) : Option ρ := table.rows.find? fun row => key row = k

theorem get_eq_some_iff (table : Table key) :
    table.get k = some row ↔ row ∈ table.rows ∧ key row = k :=
  find_eq_some_iff table.unique

theorem get_eq_none_iff (table : Table key) : table.get k = none ↔ k ∉ table.rows.map key :=
  find_eq_none_iff

theorem get_of_mem (table : Table key) (hrow : row ∈ table.rows) : table.get (key row) = some row :=
  find_of_mem table.unique hrow

omit [DecidableEq κ] in
theorem eq_of_key_eq (table : Table key) {other : ρ} (hrow : row ∈ table.rows)
    (hother : other ∈ table.rows) (hkey : key row = key other) : row = other :=
  List.inj_on_of_nodup_map table.unique hrow hother hkey

def insert (table : Table key) (row : ρ) (hnew : table.get (key row) = none) : Table key where
  rows := table.rows ++ [row]
  unique := nodup_append_singleton table.unique (table.get_eq_none_iff.mp hnew)

theorem get_insert_self (table : Table key) (hnew : table.get (key row) = none) :
    (table.insert row hnew).get (key row) = some row :=
  get_of_mem _ (by simp [insert])

/-- Writes the row over the one of its key. -/
def save (table : Table key) (row : ρ) : Table key where
  rows := table.rows.map fun other => if key other = key row then row else other
  unique := (map_key_rewrite key table.rows row).symm ▸ table.unique

theorem get_save_self (table : Table key) (h : key row ∈ table.rows.map key) :
    (table.save row).get (key row) = some row := by
  obtain ⟨other, hother, hkey⟩ := List.mem_map.mp h
  apply get_of_mem
  exact List.mem_map.mpr ⟨other, hother, if_pos hkey⟩

theorem get_save_of_ne (table : Table key) (h : k ≠ key row) :
    (table.save row).get k = table.get k := by
  simp only [get, save]
  induction table.rows with
  | nil => rfl
  | cons first rest ih =>
    rw [List.map_cons, List.find?_cons, List.find?_cons, ih]
    by_cases hfirst : key first = key row
    · simp [hfirst, h.symm]
    · simp [hfirst]

theorem eq_or_mem_of_mem_save (table : Table key) {other : ρ} (h : other ∈ (table.save row).rows) :
    other = row ∨ other ∈ table.rows := by
  obtain ⟨old, hold, heq⟩ := List.mem_map.mp h
  split at heq
  · exact .inl heq.symm
  · exact .inr (heq ▸ hold)

theorem save_of_mem (table : Table key) (h : row ∈ table.rows) : table.save row = table := by
  have hsame : (table.rows.map fun other => if key other = key row then row else other) =
      table.rows.map id := by
    apply List.map_congr_left
    intro other hother
    split
    · next hkey => exact (table.eq_of_key_eq hother h hkey).symm
    · rfl
  simp only [save, hsame, List.map_id]

def saveAll (table : Table key) (rows : List ρ) : Table key := rows.foldl save table

theorem saveAll_of_subset (table : Table key) {rows : List ρ} (h : rows ⊆ table.rows) :
    table.saveAll rows = table := by
  induction rows with
  | nil => rfl
  | cons row rows ih =>
    rw [saveAll, List.foldl_cons, save_of_mem table (h List.mem_cons_self)]
    exact ih fun other hother => h (List.mem_cons_of_mem _ hother)

end Table

section Newest

/-- `ORDER BY stamp DESC LIMIT n`; rows of one stamp keep the order of the table. -/
def newestFirst (stamp : ρ → Nat) (limit : Nat) (rows : List ρ) : List ρ :=
  (rows.insertionSort fun a b => stamp b ≤ stamp a).take limit

theorem mem_of_mem_newestFirst {stamp : ρ → Nat} {limit : Nat} {rows : List ρ} {row : ρ}
    (h : row ∈ newestFirst stamp limit rows) : row ∈ rows :=
  (List.mem_insertionSort _).mp (List.mem_of_mem_take h)

theorem nodup_newestFirst {stamp : ρ → Nat} {limit : Nat} {rows : List ρ} (h : rows.Nodup) :
    (newestFirst stamp limit rows).Nodup :=
  ((List.perm_insertionSort _ rows).nodup_iff.mpr h).sublist (List.take_sublist ..)

end Newest

end Tables
