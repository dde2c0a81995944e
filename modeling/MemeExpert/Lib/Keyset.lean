import Mathlib.Data.List.Sort

/-! Rows in a total order are read page by page. -/

namespace Keyset

universe u v

variable {ρ : Type u} (le : ρ → ρ → Prop) [DecidableRel le]

/-- The row comes strictly after the last one that was read, if there is one. -/
def after (last : Option ρ) (row : ρ) : Bool := last.all fun previous => ¬ le row previous

def page (last : Option ρ) (offset limit : Nat) (rows : List ρ) : List ρ :=
  (((rows.filter (after le last)).insertionSort le).drop offset).take limit

variable {le} {last : Option ρ} {offset limit : Nat} {rows : List ρ} {row final : ρ}

theorem mem_of_mem_page (h : row ∈ page le last offset limit rows) :
    row ∈ rows ∧ after le last row = true :=
  List.mem_filter.mp ((List.mem_insertionSort _).mp (List.mem_of_mem_drop (List.mem_of_mem_take h)))

theorem nodup_map_page {κ : Type v} {key : ρ → κ} (h : (rows.map key).Nodup) :
    ((page le last offset limit rows).map key).Nodup := by
  have hsorted : (((rows.filter (after le last)).insertionSort le).map key).Nodup :=
    ((List.perm_insertionSort _ _).map key).nodup_iff.mpr (h.sublist (List.filter_sublist.map _))
  exact hsorted.sublist (((List.take_sublist ..).trans (List.drop_sublist ..)).map _)

section Ordered

variable [Std.Total le] [IsTrans ρ le]

theorem pairwise_page : (page le last offset limit rows).Pairwise le :=
  (List.pairwise_insertionSort le _).sublist ((List.take_sublist ..).trans (List.drop_sublist ..))

omit [DecidableRel le] [IsTrans ρ le] in
theorem le_getLast {rows : List ρ} (hsorted : rows.Pairwise le) (hlast : rows.getLast? = some final)
    (hrow : row ∈ rows) : le row final := by
  obtain ⟨front, rfl⟩ := List.getLast?_eq_some_iff.mp hlast
  rcases List.mem_append.mp hrow with hfront | heq
  · exact (List.pairwise_append.mp hsorted).2.2 row hfront final (List.mem_singleton.mpr rfl)
  · rw [List.mem_singleton.mp heq]
    exact (Std.Total.total final final).elim id id

theorem le_of_after {previous : ρ} (hbehind : le row previous)
    (hafter : after le (some previous) final = true) : le row final := by
  have hnot : ¬ le final previous := by simpa [after] using hafter
  exact trans_of le hbehind ((Std.Total.total final previous).resolve_left hnot)

end Ordered

section Ends

variable {r : ρ → ρ → Prop} {rows : List ρ} {k : Nat} {m other : ρ}

theorem mem_take_of_rel (hasymm : ∀ a b, r a b → ¬ r b a) (hsorted : rows.Pairwise r)
    (hother : other ∈ rows.take k) (hm : m ∈ rows) (hbefore : r m other) : m ∈ rows.take k := by
  rw [← List.take_append_drop k rows] at hsorted hm
  rcases List.mem_append.mp hm with hfront | hback
  · exact hfront
  · exact absurd ((List.pairwise_append.mp hsorted).2.2 other hother m hback)
      (hasymm m other hbefore)

theorem mem_drop_of_rel (hasymm : ∀ a b, r a b → ¬ r b a) (hsorted : rows.Pairwise r)
    (hother : other ∈ rows.drop k) (hm : m ∈ rows) (hafter : r other m) : m ∈ rows.drop k := by
  rw [← List.take_append_drop k rows] at hsorted hm
  rcases List.mem_append.mp hm with hfront | hback
  · exact absurd ((List.pairwise_append.mp hsorted).2.2 m hfront other hother)
      (hasymm other m hafter)
  · exact hback

end Ends

section Ascending

variable {κ : Type v} [LinearOrder κ] (key : ρ → κ)

/-- The next rows behind the key, of rows in ascending order. -/
def nextPage (last : Option κ) (limit : Nat) (rows : List ρ) : List ρ :=
  (rows.filter fun row => last.all fun previous => decide (previous < key row)).take limit

/-- The rows up to the key. -/
def upTo (last : Option κ) (rows : List ρ) : List ρ :=
  rows.filter fun row => last.any fun previous => decide (key row ≤ previous)

variable {key} {front rest : List ρ}

theorem split_of_ascending (h : (front ++ rest).Pairwise fun a b => key a < key b) :
    (∀ row ∈ front, (front.getLast?.map key).any (fun previous => decide (key row ≤ previous))) ∧
      ∀ row ∈ rest, (front.getLast?.map key).all fun previous => decide (previous < key row) := by
  obtain ⟨hfront, -, hacross⟩ := List.pairwise_append.mp h
  cases hlast : front.getLast? with
  | none =>
    rw [List.getLast?_eq_none_iff.mp hlast]
    exact ⟨fun row hrow => (List.not_mem_nil hrow).elim, fun _ _ => rfl⟩
  | some final =>
    refine ⟨?_, ?_⟩
    · intro row hrow
      have hle : key row ≤ key final := by
        obtain ⟨init, rfl⟩ := List.getLast?_eq_some_iff.mp hlast
        rcases List.mem_append.mp hrow with hinit | heq
        · exact le_of_lt ((List.pairwise_append.mp hfront).2.2 row hinit final
            (List.mem_singleton.mpr rfl))
        · rw [List.mem_singleton.mp heq]
      simpa using hle
    · intro row hrow
      simpa using hacross final (List.mem_of_getLast? hlast) row hrow

theorem nextPage_append (h : (front ++ rest).Pairwise fun a b => key a < key b) (limit : Nat) :
    nextPage key (front.getLast?.map key) limit (front ++ rest) = rest.take limit := by
  obtain ⟨hfront, hrest⟩ := split_of_ascending h
  have hnone : (front.filter fun row =>
      (front.getLast?.map key).all fun previous => decide (previous < key row)) = [] := by
    refine List.filter_eq_nil_iff.mpr ?_
    intro row hrow hall
    have hle := hfront row hrow
    cases hlast : front.getLast? with
    | none => simp [hlast] at hle
    | some final =>
      simp only [hlast, Option.map_some, Option.any_some, Option.all_some,
        decide_eq_true_eq] at hle hall
      exact absurd hall (not_lt.mpr hle)
  rw [nextPage, List.filter_append, hnone, List.nil_append, List.filter_eq_self.mpr hrest]

theorem upTo_append (h : (front ++ rest).Pairwise fun a b => key a < key b) :
    upTo key (front.getLast?.map key) (front ++ rest) = front := by
  obtain ⟨hfront, hrest⟩ := split_of_ascending h
  have hnone : (rest.filter fun row =>
      (front.getLast?.map key).any fun previous => decide (key row ≤ previous)) = [] := by
    refine List.filter_eq_nil_iff.mpr ?_
    intro row hrow hany
    have hlt := hrest row hrow
    cases hlast : front.getLast? with
    | none => simp [hlast] at hany
    | some final =>
      simp only [hlast, Option.map_some, Option.any_some, Option.all_some,
        decide_eq_true_eq] at hlt hany
      exact absurd hlt (not_lt.mpr hany)
  rw [upTo, List.filter_append, hnone, List.append_nil, List.filter_eq_self.mpr hfront]

end Ascending

end Keyset
