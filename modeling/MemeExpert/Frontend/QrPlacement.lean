import MemeExpert.Frontend.QrReading

/-! The function modules that the encoder draws are those of the standard, so it scans the
same data modules as the reader. -/

namespace MemeExpert.Frontend

open Bits Grids

section FunctionModules

structure BaseMatrix.Square (size : Nat) (base : BaseMatrix) : Prop where
  modules : IsSquare size base.modules
  functionModules : IsSquare size base.functionModules

/-- Drawing adds the marks, and no other place, to the function modules. -/
structure Adds (size : Nat) (draw : BaseMatrix → BaseMatrix) (marks : Place → Prop) : Prop where
  square : ∀ base, base.Square size → (draw base).Square size
  marked : ∀ base place, base.Square size → Inside size place →
    (cell (draw base).functionModules place = true ↔
      cell base.functionModules place = true ∨ marks place)

variable {size version : Nat} {draw next : BaseMatrix → BaseMatrix} {marks others : Place → Prop}

theorem adds_set (x y : Nat) (dark : Bool) :
    Adds size (fun base => setFunctionModule base x y dark) (fun place => place = (x, y)) where
  square base h := ⟨h.modules.put, h.functionModules.put⟩
  marked base place h hinside := by
    by_cases hplace : place = (x, y)
    · subst hplace
      simp [setFunctionModule, cell_put_self h.functionModules hinside]
    · simp [setFunctionModule, cell_put_of_ne hplace, hplace]

theorem adds_keep : Adds size id (fun _ => False) where
  square _ h := h
  marked _ _ _ _ := (or_iff_left not_false).symm

theorem Adds.congr (h : Adds size draw marks)
    (hmarks : ∀ place, Inside size place → (marks place ↔ others place)) :
    Adds size draw others where
  square := h.square
  marked base place hbase hinside := by
    rw [h.marked base place hbase hinside, hmarks place hinside]

theorem Adds.comp (h : Adds size draw marks) (hnext : Adds size next others) :
    Adds size (fun base => next (draw base)) (fun place => marks place ∨ others place) where
  square base hbase := hnext.square _ (h.square base hbase)
  marked base place hbase hinside := by
    rw [hnext.marked _ place (h.square base hbase) hinside, h.marked base place hbase hinside,
      or_assoc]

theorem Adds.foldl {α : Type} {items : List α} {step : BaseMatrix → α → BaseMatrix}
    {marks : α → Place → Prop} (h : ∀ item ∈ items, Adds size (step · item) (marks item)) :
    Adds size (fun base => items.foldl step base)
      (fun place => ∃ item ∈ items, marks item place) := by
  induction items with
  | nil => exact adds_keep.congr fun place _ => by simp
  | cons item items ih =>
    have hrest := ih fun other hother => h other (List.mem_cons_of_mem _ hother)
    refine ((h item List.mem_cons_self).comp hrest).congr fun place _ => ?_
    simp

theorem adds_unless (x y : Nat) (dark : Bool) :
    Adds size
      (fun base => if cell base.functionModules (x, y) then base
        else setFunctionModule base x y dark)
      (fun place => place = (x, y)) where
  square base h := by
    split
    · exact h
    · exact (adds_set x y dark).square base h
  marked base place h hinside := by
    split
    · next hmarked =>
      refine ⟨.inl, fun hor => hor.elim id ?_⟩
      rintro rfl
      exact hmarked
    · exact (adds_set x y dark).marked base place h hinside

theorem mem_offsets {radius : Nat} {offset : Int × Int} :
    offset ∈ offsets radius ↔
      (-radius ≤ offset.1 ∧ offset.1 ≤ radius) ∧ -radius ≤ offset.2 ∧ offset.2 ≤ radius := by
  have hline : ∀ d : Int, (∃ i ∈ List.range (2 * radius + 1), (i : Int) - radius = d) ↔
      -radius ≤ d ∧ d ≤ radius := by
    intro d
    constructor
    · rintro ⟨i, hi, rfl⟩
      have hlt := List.mem_range.mp hi
      omega
    · rintro ⟨hlow, hhigh⟩
      exact ⟨(d + radius).toNat, List.mem_range.mpr (by omega), by omega⟩
  obtain ⟨dx, dy⟩ := offset
  simp only [offsets, List.mem_flatMap, List.mem_map, Prod.mk.injEq]
  constructor
  · rintro ⟨y, hy, x, hx, rfl, rfl⟩
    exact ⟨(hline _).mp hx, (hline _).mp hy⟩
  · rintro ⟨hx, hy⟩
    exact ⟨dy, (hline _).mpr hy, dx, (hline _).mpr hx, rfl, rfl⟩

def Around (radius : Nat) (center place : Place) : Prop :=
  place.1 ≤ center.1 + radius ∧ center.1 ≤ place.1 + radius ∧
    place.2 ≤ center.2 + radius ∧ center.2 ≤ place.2 + radius

theorem around_iff (radius centerX centerY : Nat) {place : Place} (hinside : Inside size place) :
    (∃ offset ∈ offsets radius,
      isInside size (centerX + offset.1) (centerY + offset.2) = true ∧
        place = (((centerX : Int) + offset.1).toNat, ((centerY : Int) + offset.2).toNat)) ↔
      Around radius (centerX, centerY) place := by
  obtain ⟨x, y⟩ := place
  obtain ⟨hx, hy⟩ := hinside
  simp only [mem_offsets, Around, isInside, Bool.and_eq_true, decide_eq_true_eq, Prod.mk.injEq,
    Prod.exists]
  constructor
  · rintro ⟨dx, dy, ⟨⟨hlow, hhigh⟩, hlow', hhigh'⟩, hin, hplace, hplace'⟩
    omega
  rintro ⟨h1, h2, h3, h4⟩
  refine ⟨(x : Int) - centerX, (y : Int) - centerY, ?_⟩
  simp only at hx hy
  omega

theorem adds_finder (centerX centerY : Nat) :
    Adds size (fun base => drawFinderPattern base centerX centerY)
      (Around 4 (centerX, centerY)) := by
  have hstep : ∀ offset : Int × Int, Adds size
      (fun base =>
        if isInside base.modules.length (centerX + offset.1) (centerY + offset.2) then
          setFunctionModule base (centerX + offset.1).toNat (centerY + offset.2).toNat
            (max offset.1.natAbs offset.2.natAbs ≤ 3 && max offset.1.natAbs offset.2.natAbs ≠ 2)
        else base)
      (fun place => isInside size (centerX + offset.1) (centerY + offset.2) = true ∧
        place = (((centerX : Int) + offset.1).toNat, ((centerY : Int) + offset.2).toNat)) := by
    intro offset
    refine ⟨fun base h => ?_, fun base place h hinside => ?_⟩
    · split
      · exact (adds_set ..).square base h
      · exact h
    rw [h.modules.rows]
    split
    · next hin =>
      rw [(adds_set ..).marked base place h hinside]
      simp only [hin, true_and]
    · next hout => simp [hout]
  exact (Adds.foldl fun offset _ => hstep offset).congr fun place hinside =>
    around_iff 4 centerX centerY hinside

theorem adds_alignment {centerX centerY : Nat} (hx : 2 ≤ centerX ∧ centerX + 2 < size)
    (hy : 2 ≤ centerY ∧ centerY + 2 < size) :
    Adds size (fun base => drawAlignmentPattern base centerX centerY)
      (Around 2 (centerX, centerY)) := by
  have hstep : ∀ offset ∈ offsets 2, Adds size
      (fun base => setFunctionModule base ((centerX : Int) + offset.1).toNat
        ((centerY : Int) + offset.2).toNat (max offset.1.natAbs offset.2.natAbs ≠ 1))
      (fun place => isInside size (centerX + offset.1) (centerY + offset.2) = true ∧
        place = (((centerX : Int) + offset.1).toNat, ((centerY : Int) + offset.2).toNat)) := by
    intro offset hoffset
    obtain ⟨hdx, hdy⟩ := mem_offsets.mp hoffset
    have hin : isInside size (centerX + offset.1) (centerY + offset.2) = true := by
      simp only [isInside, Bool.and_eq_true, decide_eq_true_eq]
      omega
    exact (adds_set ..).congr fun place _ => (and_iff_right hin).symm
  exact (Adds.foldl hstep).congr fun place hinside =>
    around_iff 2 centerX centerY hinside

theorem adds_timing : Adds size drawTimingPatterns (fun place => place.1 = 6 ∨ place.2 = 6) := by
  have hstep : ∀ i ∈ List.range size, Adds size
      (fun base =>
        (fun across : BaseMatrix => if cell across.functionModules (6, i) then across
          else setFunctionModule across 6 i (i % 2 = 0))
        (if cell base.functionModules (i, 6) then base else setFunctionModule base i 6 (i % 2 = 0)))
      (fun place => place = (i, 6) ∨ place = (6, i)) :=
    fun i _ => (adds_unless i 6 _).comp (adds_unless 6 i _)
  have hfold := Adds.foldl hstep
  refine ⟨fun base h => ?_, fun base place h hinside => ?_⟩
  · rw [drawTimingPatterns, h.modules.rows]
    exact hfold.square base h
  rw [drawTimingPatterns, h.modules.rows]
  refine (hfold.marked base place h hinside).trans (or_congr_right ?_)
  obtain ⟨x, y⟩ := place
  obtain ⟨hx, hy⟩ := hinside
  simp only [Prod.mk.injEq, List.mem_range]
  constructor
  · rintro ⟨i, -, ⟨-, rfl⟩ | ⟨rfl, -⟩⟩
    · exact .inr rfl
    · exact .inl rfl
  · rintro (rfl | rfl)
    · exact ⟨y, hy, .inr ⟨rfl, rfl⟩⟩
    · exact ⟨x, hx, .inl ⟨rfl, rfl⟩⟩

/-- The places that the format bits reserve. -/
def FormatArea (size : Nat) (place : Place) : Prop :=
  (place.1 = 8 ∧ (place.2 ≤ 5 ∨ place.2 = 7 ∨ place.2 = 8 ∨ size - 7 ≤ place.2)) ∨
    (place.2 = 8 ∧ (place.1 ≤ 5 ∨ place.1 = 7 ∨ size - 8 ≤ place.1))

theorem adds_formatBits (hsize : 17 ≤ size) :
    Adds size (fun base => reserveFormatBits base size) (FormatArea size) := by
  have hcorner : Adds size _ fun place =>
      ∃ i ∈ List.range 6, place = (8, i) ∨ place = (i, 8) :=
    Adds.foldl fun i _ => (adds_set 8 i false).comp (adds_set i 8 false)
  have hright : Adds size _ fun place => ∃ i ∈ List.range 8, place = (size - 1 - i, 8) :=
    Adds.foldl fun i _ => adds_set (size - 1 - i) 8 false
  have hbelow : Adds size _ fun place => ∃ i ∈ List.range 7, place = (8, size - 1 - i) :=
    Adds.foldl fun i _ => adds_set 8 (size - 1 - i) false
  have hall := ((((hcorner.comp (adds_set 8 7 false)).comp (adds_set 8 8 false)).comp
    (adds_set 7 8 false)).comp hright).comp hbelow
  refine hall.congr fun place hinside => ?_
  obtain ⟨x, y⟩ := place
  obtain ⟨hx, hy⟩ := hinside
  simp only [FormatArea, Prod.mk.injEq, List.mem_range] at hx hy ⊢
  constructor
  · rintro (((((⟨i, hi, h⟩ | h) | h) | h) | ⟨i, hi, h⟩) | ⟨i, hi, h⟩) <;> omega
  rintro (⟨rfl, hlow | hseven | height | hhigh⟩ | ⟨rfl, hlow | hseven | hhigh⟩)
  · exact .inl (.inl (.inl (.inl (.inl ⟨y, by omega, .inl ⟨rfl, rfl⟩⟩))))
  · exact .inl (.inl (.inl (.inl (.inr ⟨rfl, hseven⟩))))
  · exact .inl (.inl (.inl (.inr ⟨rfl, height⟩)))
  · exact .inr ⟨size - 1 - y, by omega, rfl, by omega⟩
  · exact .inl (.inl (.inl (.inl (.inl ⟨x, by omega, .inr ⟨rfl, rfl⟩⟩))))
  · exact .inl (.inl (.inr ⟨hseven, rfl⟩))
  · exact .inl (.inr ⟨size - 1 - x, by omega, by omega, rfl⟩)

theorem adds_alignmentPatterns {spec : QrVersionSpec} {base : BaseMatrix}
    (hversion : 1 ≤ spec.version) (hsize : spec.size = sizeOfVersion spec.version)
    (hbase : base.Square spec.size)
    (htaken : ∀ place, Inside spec.size place → (cell base.functionModules place = true ↔
      Around 4 (3, 3) place ∨ Around 4 (spec.size - 4, 3) place ∨
        Around 4 (3, spec.size - 4) place)) :
    (drawAlignmentPatterns base spec).Square spec.size ∧
    ∀ place, Inside spec.size place →
      (cell (drawAlignmentPatterns base spec).functionModules place = true ↔
        cell base.functionModules place = true ∨
          2 ≤ spec.version ∧ Around 2 (spec.size - 7, spec.size - 7) place) := by
  rw [sizeOfVersion] at hsize
  unfold drawAlignmentPatterns
  by_cases hfirst : spec.version = 1
  · rw [if_pos hfirst]
    refine ⟨hbase, fun place _ => (or_iff_left ?_).symm⟩
    rintro ⟨h, -⟩
    omega
  rw [if_neg hfirst]
  have htopLeft : cell base.functionModules (6, 6) = true :=
    (htaken _ (by constructor <;> dsimp only <;> omega)).mpr
      (.inl (by simp only [Around]; omega))
  have htopRight : cell base.functionModules (spec.size - 7, 6) = true :=
    (htaken _ (by constructor <;> dsimp only <;> omega)).mpr
      (.inr (.inl (by simp only [Around]; omega)))
  have hbottomLeft : cell base.functionModules (6, spec.size - 7) = true :=
    (htaken _ (by constructor <;> dsimp only <;> omega)).mpr
      (.inr (.inr (by simp only [Around]; omega)))
  have hfree : ¬ cell base.functionModules (spec.size - 7, spec.size - 7) = true := by
    rw [htaken _ (by constructor <;> dsimp only <;> omega)]
    simp only [Around]
    omega
  have hdraw : Adds spec.size
      (fun base => drawAlignmentPattern base (spec.size - 7) (spec.size - 7))
      (Around 2 (spec.size - 7, spec.size - 7)) := adds_alignment (by omega) (by omega)
  simp only [List.flatMap_cons, List.flatMap_nil, List.map_cons, List.map_nil, List.cons_append,
    List.nil_append, List.foldl_cons, List.foldl_nil, htopLeft, htopRight, hbottomLeft, hfree,
    Bool.false_eq_true, if_true, if_false]
  refine ⟨hdraw.square base hbase, fun place hinside => ?_⟩
  rw [hdraw.marked base place hbase hinside]
  exact or_congr_right (and_iff_right (by omega)).symm

theorem isFunctionPlace_iff (hversion : 1 ≤ version) {place : Place}
    (hinside : Inside (sizeOfVersion version) place) :
    isFunctionPlace version place = true ↔
      ((Around 4 (3, 3) place ∨ Around 4 (sizeOfVersion version - 4, 3) place ∨
          Around 4 (3, sizeOfVersion version - 4) place) ∨
        2 ≤ version ∧ Around 2 (sizeOfVersion version - 7, sizeOfVersion version - 7) place) ∨
      ((place.1 = 6 ∨ place.2 = 6) ∨ FormatArea (sizeOfVersion version) place) ∨
      place = (8, sizeOfVersion version - 8) := by
  obtain ⟨x, y⟩ := place
  obtain ⟨hx, hy⟩ := hinside
  have hsize : 21 ≤ sizeOfVersion version := by
    rw [sizeOfVersion]
    omega
  simp only [Around, FormatArea, isFunctionPlace, Bool.or_eq_true, Bool.and_eq_true,
    decide_eq_true_eq, Prod.mk.injEq] at hx hy ⊢
  generalize sizeOfVersion version = size at *
  constructor
  · rintro (((((h | h) | h) | h) | h) | h)
    · by_cases hfinder : x ≤ 7 ∧ y ≤ 7
      · exact .inl (.inl (.inl (by omega)))
      · exact .inr (.inl (by omega))
    · by_cases hfinder : y ≤ 7
      · exact .inl (.inl (.inr (.inl (by omega))))
      · exact .inr (.inl (.inr (.inr (by omega))))
    · by_cases hfinder : x ≤ 7
      · exact .inl (.inl (.inr (.inr (by omega))))
      · by_cases hdark : y = size - 8
        · exact .inr (.inr (by omega))
        · exact .inr (.inl (.inr (.inl (by omega))))
    · exact .inr (.inl (.inl (.inl h)))
    · exact .inr (.inl (.inl (.inr h)))
    · exact .inl (.inr (by omega))
  · rintro (((h | h | h) | h) | ((h | h) | h | h) | h)
    · exact .inl (.inl (.inl (.inl (.inl (by omega)))))
    · exact .inl (.inl (.inl (.inl (.inr (by omega)))))
    · exact .inl (.inl (.inl (.inr (by omega))))
    · exact .inr (by omega)
    · exact .inl (.inl (.inr h))
    · exact .inl (.inr h)
    · obtain ⟨hcolumn, h⟩ := h
      by_cases hlow : y ≤ 8
      · exact .inl (.inl (.inl (.inl (.inl (by omega)))))
      · exact .inl (.inl (.inl (.inr (by omega))))
    · obtain ⟨hrow, h⟩ := h
      by_cases hlow : x ≤ 8
      · exact .inl (.inl (.inl (.inl (.inl (by omega)))))
      · exact .inl (.inl (.inl (.inl (.inr (by omega)))))
    · exact .inl (.inl (.inl (.inr (by omega))))

theorem functionModules_iff {spec : QrVersionSpec} (hversion : 1 ≤ spec.version)
    (hsize : spec.size = sizeOfVersion spec.version) :
    (createBaseMatrix spec).Square spec.size ∧
    ∀ place, Inside spec.size place →
      cell (createBaseMatrix spec).functionModules place = isFunctionPlace spec.version place := by
  have hblank : (⟨blank spec.size, blank spec.size⟩ : BaseMatrix).Square spec.size :=
    ⟨isSquare_blank, isSquare_blank⟩
  have hfirst : Adds spec.size _ (Around 4 (3, 3)) := adds_finder 3 3
  have hfinders := (hfirst.comp (adds_finder (spec.size - 4) 3)).comp
    (adds_finder 3 (spec.size - 4))
  have htiming : Adds spec.size drawTimingPatterns _ := adds_timing
  have hformat : Adds spec.size _ (FormatArea spec.size) := adds_formatBits (by
    rw [hsize, sizeOfVersion]
    omega)
  have hrest := (htiming.comp hformat).comp (adds_set 8 (spec.size - 8) true)
  have htaken := fun place hinside => hfinders.marked _ place hblank hinside
  simp only [cell_blank, Bool.false_eq_true, false_or, or_assoc] at htaken
  obtain ⟨hsquare, hmarked⟩ :=
    adds_alignmentPatterns hversion hsize (hfinders.square _ hblank) htaken
  refine ⟨hrest.square _ hsquare, fun place hinside => Bool.eq_iff_iff.mpr ?_⟩
  refine (hrest.marked _ place hsquare hinside).trans ?_
  rw [hmarked place hinside, htaken place hinside]
  rw [hsize] at hinside ⊢
  exact (isFunctionPlace_iff hversion hinside).symm

end FunctionModules

end MemeExpert.Frontend
