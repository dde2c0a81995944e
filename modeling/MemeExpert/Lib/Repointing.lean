import Mathlib.Data.List.Nodup

/-! References to some sources are moved to one target; a row goes when its owner refers to the
target already. -/

namespace Repointing

universe u v w

/-- How the owner and the reference of a row are read and written. -/
structure Columns (ρ : Type u) (κ : Type v) (ν : Type w) where
  owner : ρ → κ
  ref : ρ → ν
  withRef : ν → ρ → ρ
  owner_withRef : ∀ value row, owner (withRef value row) = owner row
  ref_withRef : ∀ value row, ref (withRef value row) = value

variable {ρ : Type u} {κ : Type v} {ν : Type w} [DecidableEq κ] [DecidableEq ν]
  (columns : Columns ρ κ ν)

def holds (rows : List ρ) (k : κ) (value : ν) : Bool :=
  rows.any fun row => columns.owner row = k && columns.ref row = value

def repoint (source target : ν) (rows : List ρ) : List ρ :=
  rows.filterMap fun row =>
    if columns.ref row = source then
      if holds columns rows (columns.owner row) target then none
      else some (columns.withRef target row)
    else some row

def repointAll (target : ν) (sources : List ν) (rows : List ρ) : List ρ :=
  sources.foldl (fun rows source => repoint columns source target rows) rows

/-- The owner of the row refers to the target or to a source before the one of this row. -/
def dropped (target : ν) (sources : List ν) (rows : List ρ) (row : ρ) : Bool :=
  columns.ref row ∈ sources &&
    ((target :: sources).takeWhile fun value => value ≠ columns.ref row).any fun value =>
      holds columns rows (columns.owner row) value

variable {columns} {rows : List ρ} {source target value : ν} {sources : List ν} {k : κ} {row : ρ}

theorem holds_iff : holds columns rows k value = true ↔
    ∃ row ∈ rows, columns.owner row = k ∧ columns.ref row = value := by
  simp [holds]

theorem mem_repoint : row ∈ repoint columns source target rows ↔
    (row ∈ rows ∧ columns.ref row ≠ source) ∨
      ∃ old ∈ rows, columns.ref old = source ∧
        holds columns rows (columns.owner old) target = false ∧ columns.withRef target old = row := by
  simp only [repoint, List.mem_filterMap]
  constructor
  · rintro ⟨old, hold, hrow⟩
    split at hrow
    · next hsource =>
      split at hrow
      · cases hrow
      next hfree =>
      cases hrow
      exact .inr ⟨old, hold, hsource, by simpa using hfree, rfl⟩
    · next hother =>
      cases hrow
      exact .inl ⟨hold, hother⟩
  · rintro (⟨hrow, hother⟩ | ⟨old, hold, hsource, hfree, rfl⟩)
    · exact ⟨row, hrow, if_neg hother⟩
    · exact ⟨old, hold, by rw [if_pos hsource, hfree]; rfl⟩

theorem holds_repoint (hne : source ≠ target) :
    holds columns (repoint columns source target rows) k value = true ↔
      (value ≠ source ∧ holds columns rows k value = true) ∨
        (value = target ∧ holds columns rows k source = true) := by
  rw [holds_iff]
  constructor
  · rintro ⟨row, hrow, rfl, rfl⟩
    rcases mem_repoint.mp hrow with ⟨hmem, hother⟩ | ⟨old, hold, hsource, -, rfl⟩
    · exact .inl ⟨hother, holds_iff.mpr ⟨row, hmem, rfl, rfl⟩⟩
    · rw [columns.owner_withRef, columns.ref_withRef]
      exact .inr ⟨rfl, holds_iff.mpr ⟨old, hold, rfl, hsource⟩⟩
  rintro (⟨hother, hheld⟩ | ⟨rfl, hheld⟩)
  · obtain ⟨row, hrow, rfl, rfl⟩ := holds_iff.mp hheld
    exact ⟨row, mem_repoint.mpr (.inl ⟨hrow, hother⟩), rfl, rfl⟩
  obtain ⟨old, hold, rfl, hsource⟩ := holds_iff.mp hheld
  cases hfree : holds columns rows (columns.owner old) value with
  | true =>
    obtain ⟨row, hrow, howner, rfl⟩ := holds_iff.mp hfree
    exact ⟨row, mem_repoint.mpr (.inl ⟨hrow, Ne.symm hne⟩), howner, rfl⟩
  | false =>
    exact ⟨columns.withRef value old, mem_repoint.mpr (.inr ⟨old, hold, hsource, hfree, rfl⟩),
      columns.owner_withRef .., columns.ref_withRef ..⟩

theorem holds_repointAll (htarget : target ∉ sources) :
    holds columns (repointAll columns target sources rows) k value = true ↔
      (value ∉ sources ∧ holds columns rows k value = true) ∨
        (value = target ∧ ∃ source ∈ sources, holds columns rows k source = true) := by
  induction sources generalizing rows with
  | nil => simp [repointAll]
  | cons source rest ih =>
    rw [List.mem_cons, not_or] at htarget
    obtain ⟨hne, hrest⟩ := htarget
    change holds columns (repointAll columns target rest (repoint columns source target rows)) k
      value = true ↔ _
    rw [ih hrest]
    simp only [holds_repoint (Ne.symm hne), List.mem_cons, not_or, exists_eq_or_imp]
    constructor
    · rintro (⟨hnot, (⟨hother, hheld⟩ | ⟨rfl, hheld⟩)⟩ | ⟨rfl, other, hmem, (⟨hother, hheld⟩ | ⟨rfl, hheld⟩)⟩)
      · exact .inl ⟨⟨hother, hnot⟩, hheld⟩
      · exact .inr ⟨rfl, .inl hheld⟩
      · exact .inr ⟨rfl, .inr ⟨other, hmem, hheld⟩⟩
      · exact (hrest hmem).elim
    rintro (⟨⟨hother, hnot⟩, hheld⟩ | ⟨rfl, (hheld | ⟨other, hmem, hheld⟩)⟩)
    · exact .inl ⟨hnot, .inl ⟨hother, hheld⟩⟩
    · exact .inl ⟨hrest, .inr ⟨rfl, hheld⟩⟩
    · by_cases hsame : other = source
      · exact .inl ⟨hrest, .inr ⟨rfl, hsame ▸ hheld⟩⟩
      · exact .inr ⟨rfl, other, hmem, .inl ⟨hsame, hheld⟩⟩

section Unique

variable (columns) in
theorem ref_ne_of_mem_repoint (hne : source ≠ target)
    (h : row ∈ repoint columns source target rows) : columns.ref row ≠ source := by
  rcases mem_repoint.mp h with ⟨-, hother⟩ | ⟨old, -, -, -, rfl⟩
  · exact hother
  · rw [columns.ref_withRef]
    exact Ne.symm hne

variable (columns) in
theorem filter_repoint_of_ne (hsource : value ≠ source) (htarget : value ≠ target) :
    (repoint columns source target rows).filter (fun row => columns.ref row = value) =
      rows.filter fun row => columns.ref row = value := by
  rw [repoint, List.filter_filterMap, ← List.filterMap_eq_filter]
  apply List.filterMap_congr
  intro row _
  by_cases href : columns.ref row = source
  · have hnot : columns.ref row ≠ value := fun heq => hsource (heq.symm.trans href)
    rw [if_pos href]
    split
    · simp [Option.guard, hnot]
    · simp [Option.guard, Option.filter, columns.ref_withRef, Ne.symm htarget, hnot]
  · rw [if_neg href]
    simp [Option.guard, Option.filter]

variable (columns) in
theorem nodup_repoint
    (hunique : (rows.map fun row => (columns.owner row, columns.ref row)).Nodup) :
    ((repoint columns source target rows).map fun row =>
      (columns.owner row, columns.ref row)).Nodup := by
  have hpairs := List.pairwise_map.mp hunique
  refine List.pairwise_map.mpr ?_
  rw [repoint, List.pairwise_filterMap]
  refine hpairs.imp_of_mem ?_
  intro row other hrow hother hkeys left hleft right hright heq
  obtain ⟨howner, href⟩ := Prod.mk.inj heq
  by_cases hsource : columns.ref row = source
  · rw [if_pos hsource] at hleft
    split at hleft
    · cases hleft
    next hfree =>
    cases hleft
    rw [columns.owner_withRef] at howner
    rw [columns.ref_withRef] at href
    by_cases hothersource : columns.ref other = source
    · rw [if_pos hothersource] at hright
      split at hright
      · cases hright
      cases hright
      rw [columns.owner_withRef] at howner
      exact hkeys (Prod.ext howner (hsource.trans hothersource.symm))
    · rw [if_neg hothersource] at hright
      cases hright
      exact hfree (holds_iff.mpr ⟨other, hother, howner.symm, href.symm⟩)
  · rw [if_neg hsource] at hleft
    cases hleft
    by_cases hothersource : columns.ref other = source
    · rw [if_pos hothersource] at hright
      split at hright
      · cases hright
      next hfree =>
      cases hright
      rw [columns.owner_withRef] at howner
      rw [columns.ref_withRef] at href
      exact hfree (holds_iff.mpr ⟨row, hrow, howner, href⟩)
    · rw [if_neg hothersource] at hright
      cases hright
      exact hkeys heq

theorem countP_of_holds
    (hunique : (rows.map fun row => (columns.owner row, columns.ref row)).Nodup)
    (hheld : holds columns rows k value = true) :
    rows.countP (fun row => columns.owner row = k && columns.ref row = value) = 1 := by
  have hcount : (rows.map fun row => (columns.owner row, columns.ref row)).count (k, value) =
      rows.countP (fun row => columns.owner row = k && columns.ref row = value) := by
    rw [List.count, List.countP_map]
    apply List.countP_congr
    intro row _
    simp [Prod.ext_iff]
  obtain ⟨row, hrow, howner, href⟩ := holds_iff.mp hheld
  rw [← hcount]
  refine List.count_eq_one_of_mem hunique (List.mem_map.mpr ⟨row, hrow, ?_⟩)
  rw [howner, href]

variable (columns) in
theorem countP_repoint (hne : source ≠ target)
    (hunique : (rows.map fun row => (columns.owner row, columns.ref row)).Nodup)
    (hheld : ∃ row ∈ rows, columns.owner row = k ∧
      (columns.ref row = source ∨ columns.ref row = target)) :
    (repoint columns source target rows).countP
      (fun row => columns.owner row = k && columns.ref row = target) = 1 := by
  apply countP_of_holds (nodup_repoint columns hunique)
  rw [holds_repoint hne]
  obtain ⟨row, hrow, howner, href | href⟩ := hheld
  · exact .inr ⟨rfl, holds_iff.mpr ⟨row, hrow, howner, href⟩⟩
  · exact .inl ⟨Ne.symm hne, holds_iff.mpr ⟨row, hrow, howner, href⟩⟩

theorem ref_not_mem_of_mem_repointAll (htarget : target ∉ sources)
    (h : row ∈ repointAll columns target sources rows) : columns.ref row ∉ sources := by
  have hheld : holds columns (repointAll columns target sources rows) (columns.owner row)
      (columns.ref row) = true := holds_iff.mpr ⟨row, h, rfl, rfl⟩
  rcases (holds_repointAll htarget).mp hheld with ⟨hnot, -⟩ | ⟨heq, -⟩
  · exact hnot
  · exact heq ▸ htarget

variable (columns) in
theorem filter_repointAll_of_ne (hsources : value ∉ sources) (hne : value ≠ target) :
    (repointAll columns target sources rows).filter (fun row => columns.ref row = value) =
      rows.filter fun row => columns.ref row = value := by
  induction sources generalizing rows with
  | nil => rfl
  | cons source rest ih =>
    rw [List.mem_cons, not_or] at hsources
    change (repointAll columns target rest (repoint columns source target rows)).filter _ = _
    rw [ih hsources.2, filter_repoint_of_ne columns hsources.1 hne]

variable (columns) in
theorem nodup_repointAll (htarget : target ∉ sources)
    (hunique : (rows.map fun row => (columns.owner row, columns.ref row)).Nodup) :
    ((repointAll columns target sources rows).map fun row =>
      (columns.owner row, columns.ref row)).Nodup := by
  induction sources generalizing rows with
  | nil => exact hunique
  | cons source rest ih =>
    rw [List.mem_cons, not_or] at htarget
    exact ih htarget.2 (nodup_repoint columns hunique)

variable (columns) in
theorem countP_repointAll (htarget : target ∉ sources)
    (hunique : (rows.map fun row => (columns.owner row, columns.ref row)).Nodup)
    (hheld : ∃ row ∈ rows, columns.owner row = k ∧
      (columns.ref row ∈ sources ∨ columns.ref row = target)) :
    (repointAll columns target sources rows).countP
      (fun row => columns.owner row = k && columns.ref row = target) = 1 := by
  apply countP_of_holds (nodup_repointAll columns htarget hunique)
  rw [holds_repointAll htarget]
  obtain ⟨row, hrow, howner, href | href⟩ := hheld
  · exact .inr ⟨rfl, columns.ref row, href, holds_iff.mpr ⟨row, hrow, howner, rfl⟩⟩
  · exact .inl ⟨htarget, holds_iff.mpr ⟨row, hrow, howner, href⟩⟩

end Unique

section Redirection

/-- A reference without a uniqueness key simply follows the move. -/
def redirect (source target value : ν) : ν := if value = source then target else value

def redirectAll (target : ν) (sources : List ν) (value : ν) : ν :=
  if value ∈ sources then target else value

theorem redirectAll_redirect (htarget : target ∉ sources) :
    redirectAll target sources (redirect source target value) =
      redirectAll target (source :: sources) value := by
  by_cases hvalue : value = source
  · simp [redirect, redirectAll, hvalue, htarget]
  · simp [redirect, redirectAll, hvalue]

theorem redirectAll_singleton : redirectAll target [source] value = redirect source target value := by
  simp [redirectAll, redirect]

theorem redirectAll_of_not_mem (hvalue : value ∉ sources) : redirectAll target sources value = value :=
  if_neg hvalue

theorem redirectAll_of_mem (hvalue : value ∈ sources) : redirectAll target sources value = target :=
  if_pos hvalue

theorem redirectAll_not_mem (htarget : target ∉ sources) : redirectAll target sources value ∉ sources := by
  unfold redirectAll
  split
  · exact htarget
  · next hvalue => exact hvalue

end Redirection

theorem dropped_of_ref_target (htarget : target ∉ sources) (href : columns.ref row = target) :
    dropped columns target sources rows row = false := by
  simp [dropped, href, htarget]

theorem dropped_of_ref_source (hne : target ≠ source) (href : columns.ref row = source) :
    dropped columns target (source :: sources) rows row =
      holds columns rows (columns.owner row) target := by
  simp [dropped, href, hne]

theorem dropped_repoint (htarget : target ∉ source :: sources) (hsource : source ∉ sources)
    (hother : columns.ref row ≠ source) :
    dropped columns target sources (repoint columns source target rows) row =
      dropped columns target (source :: sources) rows row := by
  rw [List.mem_cons, not_or] at htarget
  obtain ⟨hne, hrest⟩ := htarget
  by_cases hmem : columns.ref row ∈ sources
  · have htargetref : target ≠ columns.ref row := by
      rintro rfl
      exact hrest hmem
    have hbefore : ∀ value ∈ sources.takeWhile (fun value => value ≠ columns.ref row),
        holds columns (repoint columns source target rows) (columns.owner row) value =
          holds columns rows (columns.owner row) value := by
      intro value hvalue
      have hin : value ∈ sources := (List.takeWhile_sublist _).mem hvalue
      rw [Bool.eq_iff_iff, holds_repoint (Ne.symm hne)]
      constructor
      · rintro (⟨-, hheld⟩ | ⟨rfl, -⟩)
        · exact hheld
        · exact (hrest hin).elim
      intro hheld
      refine .inl ⟨?_, hheld⟩
      rintro rfl
      exact hsource hin
    have htargetheld : holds columns (repoint columns source target rows) (columns.owner row) target =
        (holds columns rows (columns.owner row) target ||
          holds columns rows (columns.owner row) source) := by
      rw [Bool.eq_iff_iff, holds_repoint (Ne.symm hne), Bool.or_eq_true]
      simp [hne]
    have hany : (sources.takeWhile fun value => value ≠ columns.ref row).any (fun value =>
          holds columns (repoint columns source target rows) (columns.owner row) value) =
        (sources.takeWhile fun value => value ≠ columns.ref row).any fun value =>
          holds columns rows (columns.owner row) value := by
      rw [Bool.eq_iff_iff, List.any_eq_true, List.any_eq_true]
      constructor
      · rintro ⟨value, hvalue, hheld⟩
        exact ⟨value, hvalue, (hbefore value hvalue) ▸ hheld⟩
      · rintro ⟨value, hvalue, hheld⟩
        exact ⟨value, hvalue, (hbefore value hvalue).symm ▸ hheld⟩
    simp only [dropped, hmem, List.mem_cons, or_true, decide_true, Bool.true_and, ne_eq, htargetref,
      not_false_eq_true, Ne.symm hother, List.takeWhile_cons_of_pos, List.any_cons, htargetheld]
    rw [hany, Bool.or_assoc]
  · simp [dropped, hmem, hother]

section Marks

variable {μ : Type*} {mark : ρ → μ} {q : μ}

theorem exists_mark_repointAll (hmark : ∀ value row, mark (columns.withRef value row) = mark row)
    (htarget : target ∉ sources) (hnodup : sources.Nodup) :
    (∃ row ∈ repointAll columns target sources rows, columns.owner row = k ∧ mark row = q) ↔
      ∃ row ∈ rows, columns.owner row = k ∧ mark row = q ∧
        dropped columns target sources rows row = false := by
  induction sources generalizing rows with
  | nil => simp [repointAll, dropped]
  | cons source rest ih =>
    obtain ⟨hsource, hrest⟩ := List.nodup_cons.mp hnodup
    have hne : target ≠ source := fun heq => htarget (heq ▸ List.mem_cons_self)
    have htail : target ∉ rest := fun hmem => htarget (List.mem_cons_of_mem _ hmem)
    change (∃ row ∈ repointAll columns target rest (repoint columns source target rows),
      columns.owner row = k ∧ mark row = q) ↔ _
    rw [ih htail hrest]
    constructor
    · rintro ⟨row, hrow, howner, hq, hkept⟩
      rcases mem_repoint.mp hrow with ⟨hmem, hother⟩ | ⟨old, hold, hold_source, hfree, rfl⟩
      · rw [dropped_repoint htarget hsource hother] at hkept
        exact ⟨row, hmem, howner, hq, hkept⟩
      rw [columns.owner_withRef] at howner
      rw [hmark] at hq
      exact ⟨old, hold, howner, hq, (dropped_of_ref_source hne hold_source).trans hfree⟩
    rintro ⟨row, hrow, howner, hq, hkept⟩
    by_cases hrow_source : columns.ref row = source
    · rw [dropped_of_ref_source hne hrow_source] at hkept
      refine ⟨columns.withRef target row,
        mem_repoint.mpr (.inr ⟨row, hrow, hrow_source, hkept, rfl⟩), ?_, ?_, ?_⟩
      · rw [columns.owner_withRef, howner]
      · rw [hmark, hq]
      · exact dropped_of_ref_target htail (columns.ref_withRef ..)
    · refine ⟨row, mem_repoint.mpr (.inl ⟨hrow, hrow_source⟩), howner, hq, ?_⟩
      rw [dropped_repoint htarget hsource hrow_source]
      exact hkept

end Marks

end Repointing
