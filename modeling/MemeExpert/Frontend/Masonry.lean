import Mathlib.Data.Rat.Floor
import MemeExpert.Lib.Lanes

/-! `calculateMasonryLayout` puts each item on the column whose bottom is highest up.
Numbers are computed exactly: a finite number of the script is a rational. -/

namespace MemeExpert.Frontend.Masonry

open MemeExpert.Lanes

inductive Number where
  | finite (value : ℚ)
  | nan
  | infinite (negative : Bool)

def nonNegativeFinite : Number → ℚ
  | .finite value => max 0 value
  | _ => 0

def positiveFinite (fallback : ℚ) : Number → ℚ
  | .finite value => if 0 < value then value else fallback
  | _ => fallback

def positiveInteger (fallback : ℕ) : Number → ℕ
  | .finite value => if 1 ≤ value then ⌊value⌋₊ else fallback
  | _ => fallback

def defaultMasonryMinColumnWidth : ℚ := 280

def defaultMasonryGap : ℚ := 16

def defaultMasonryMaxColumns : ℕ := 4

structure MasonryLayoutOptions where
  containerWidth : Number
  itemHeights : List Number
  minColumnWidth : Number := .finite defaultMasonryMinColumnWidth
  gap : Number := .finite defaultMasonryGap
  maxColumns : Number := .finite defaultMasonryMaxColumns

structure MasonryPosition where
  index : ℕ
  column : ℕ
  x : ℚ
  y : ℚ
  width : ℚ
  height : ℚ

structure MasonryLayout where
  columnCount : ℕ
  columnWidth : ℚ
  height : ℚ
  positions : List MasonryPosition

def masonryColumnCount (containerWidth minColumnWidth gap maxColumns : Number) : ℕ :=
  let width := nonNegativeFinite containerWidth
  let minimum := positiveFinite defaultMasonryMinColumnWidth minColumnWidth
  let spacing := nonNegativeFinite gap
  let maximum := positiveInteger defaultMasonryMaxColumns maxColumns
  if width = 0 then 1
  else min maximum (max 1 ⌊(width + spacing) / (minimum + spacing)⌋₊)

structure Placing where
  columnBottoms : ℕ → ℚ
  positions : List MasonryPosition
  previousTop : ℚ
  height : ℚ

def Placing.start : Placing where
  columnBottoms _ := 0
  positions := []
  previousTop := 0
  height := 0

def placeItem (columnCount : ℕ) (columnWidth spacing : ℚ) (state : Placing)
    (item : Number × ℕ) : Placing :=
  let itemHeight := nonNegativeFinite item.1
  let column := leastLane state.columnBottoms columnCount
  let y := max (state.columnBottoms column) state.previousTop
  let itemBottom := y + itemHeight
  { columnBottoms := Function.update state.columnBottoms column (itemBottom + spacing)
    positions := state.positions ++
      [{ index := item.2
         column := column
         x := column * (columnWidth + spacing)
         y := y
         width := columnWidth
         height := itemHeight }]
    previousTop := y
    height := max state.height itemBottom }

def calculateMasonryLayout (options : MasonryLayoutOptions) : MasonryLayout :=
  let width := nonNegativeFinite options.containerWidth
  let spacing := nonNegativeFinite options.gap
  let columnCount := masonryColumnCount (.finite width) options.minColumnWidth
    (.finite spacing) options.maxColumns
  let columnWidth := max 0 ((width - spacing * (columnCount - 1)) / columnCount)
  let placed := options.itemHeights.zipIdx.foldl
    (placeItem columnCount columnWidth spacing) Placing.start
  { columnCount := columnCount
    columnWidth := columnWidth
    height := placed.height
    positions := placed.positions }

theorem nonNegativeFinite_nonneg (number : Number) : 0 ≤ nonNegativeFinite number := by
  cases number <;> simp [nonNegativeFinite]

@[simp] theorem nonNegativeFinite_finite_self (number : Number) :
    nonNegativeFinite (.finite (nonNegativeFinite number)) = nonNegativeFinite number :=
  max_eq_right (nonNegativeFinite_nonneg number)

theorem positiveFinite_pos {fallback : ℚ} (hfallback : 0 < fallback) (number : Number) :
    0 < positiveFinite fallback number := by
  cases number with
  | finite value =>
    rw [positiveFinite]
    split
    · assumption
    · exact hfallback
  | nan => exact hfallback
  | infinite => exact hfallback

theorem positiveInteger_pos {fallback : ℕ} (hfallback : 0 < fallback) (number : Number) :
    0 < positiveInteger fallback number := by
  cases number with
  | finite value =>
    rw [positiveInteger]
    split
    · next hvalue => exact Nat.floor_pos.mpr hvalue
    · exact hfallback
  | nan => exact hfallback
  | infinite => exact hfallback

theorem masonryColumnCount_pos (containerWidth minColumnWidth gap maxColumns : Number) :
    0 < masonryColumnCount containerWidth minColumnWidth gap maxColumns := by
  simp only [masonryColumnCount]
  split
  · exact Nat.one_pos
  · exact lt_min (positiveInteger_pos (by decide) maxColumns) (by simp)

/-- With two or more columns the columns and the gaps between them fit into the container,
each column with the minimum width. -/
theorem masonryColumnCount_fits {containerWidth minColumnWidth gap maxColumns : Number}
    (htwo : 2 ≤ masonryColumnCount containerWidth minColumnWidth gap maxColumns) :
    (masonryColumnCount containerWidth minColumnWidth gap maxColumns : ℚ) *
        (positiveFinite defaultMasonryMinColumnWidth minColumnWidth + nonNegativeFinite gap) ≤
      nonNegativeFinite containerWidth + nonNegativeFinite gap := by
  have hminimum := positiveFinite_pos (show 0 < defaultMasonryMinColumnWidth by decide)
    minColumnWidth
  have hspacing := nonNegativeFinite_nonneg gap
  have hwidth := nonNegativeFinite_nonneg containerWidth
  unfold masonryColumnCount at htwo ⊢
  generalize nonNegativeFinite containerWidth = width at *
  generalize positiveFinite defaultMasonryMinColumnWidth minColumnWidth = minimum at *
  generalize nonNegativeFinite gap = spacing at *
  simp only at htwo ⊢
  split at htwo
  · omega
  next hzero =>
  rw [if_neg hzero]
  have hfloor : min (positiveInteger defaultMasonryMaxColumns maxColumns)
      (max 1 ⌊(width + spacing) / (minimum + spacing)⌋₊) ≤
        ⌊(width + spacing) / (minimum + spacing)⌋₊ := by omega
  have hquotient : 0 ≤ (width + spacing) / (minimum + spacing) := by positivity
  rw [← le_div_iff₀ (by positivity)]
  exact (Nat.cast_le.mpr hfloor).trans (Nat.floor_le hquotient)

def MasonryPosition.slot (spacing : ℚ) (position : MasonryPosition) : Slot ℚ where
  lane := position.column
  start := position.y
  size := position.height + spacing

def columnBottom (spacing : ℚ) (positions : List MasonryPosition) (column : ℕ) : ℚ :=
  positions.foldl (fun bottom position =>
    if position.column = column then position.y + position.height + spacing else bottom) 0

theorem loadOf_slots (spacing : ℚ) (positions : List MasonryPosition) (column : ℕ) :
    loadOf (positions.map (·.slot spacing)) column = columnBottom spacing positions column := by
  simp only [loadOf, columnBottom, List.foldl_map, MasonryPosition.slot, add_assoc]

@[simp] theorem columnBottom_snoc (spacing : ℚ) (positions : List MasonryPosition)
    (position : MasonryPosition) (column : ℕ) :
    columnBottom spacing (positions ++ [position]) column =
      if position.column = column then position.y + position.height + spacing
      else columnBottom spacing positions column := by
  simp [columnBottom]

/-- What holds after each pass of the loop. `items` are the items placed so far. -/
structure Placed (columnCount : ℕ) (columnWidth spacing : ℚ) (items : List (Number × ℕ))
    (state : Placing) : Prop where
  bottoms : ∀ column, state.columnBottoms column = columnBottom spacing state.positions column
  greedy : Greedy columnCount (state.positions.map (·.slot spacing))
  reached : ∀ column < columnCount, state.previousTop ≤ state.columnBottoms column
  indices : state.positions.map (·.index) = items.map (·.2)
  heights : state.positions.map (·.height) = (items.map (·.1)).map nonNegativeFinite
  shape : ∀ position ∈ state.positions, position.width = columnWidth ∧
    position.x = position.column * (columnWidth + spacing)
  height_le : ∀ position ∈ state.positions, position.y + position.height ≤ state.height
  height_reached : (state.positions = [] ∧ state.height = 0) ∨
    ∃ position ∈ state.positions, position.y + position.height = state.height
  bottoms_nonneg : ∀ column, 0 ≤ state.columnBottoms column

theorem Placed.start (columnCount : ℕ) (columnWidth spacing : ℚ) :
    Placed columnCount columnWidth spacing [] Placing.start where
  bottoms _ := rfl
  greedy := Greedy.nil
  reached _ _ := le_rfl
  indices := rfl
  heights := rfl
  shape := by simp [Placing.start]
  height_le := by simp [Placing.start]
  height_reached := Or.inl ⟨rfl, rfl⟩
  bottoms_nonneg _ := le_rfl

variable {columnCount : ℕ} {columnWidth spacing : ℚ}

theorem Placed.clamp {items : List (Number × ℕ)}
    {state : Placing} (h : Placed columnCount columnWidth spacing items state)
    (hcount : 0 < columnCount) :
    max (state.columnBottoms (leastLane state.columnBottoms columnCount)) state.previousTop =
      state.columnBottoms (leastLane state.columnBottoms columnCount) :=
  max_eq_left (h.reached _ (leastLane_lt state.columnBottoms hcount))

theorem Placed.step {items : List (Number × ℕ)}
    {state : Placing} (h : Placed columnCount columnWidth spacing items state)
    (hcount : 0 < columnCount) (hspacing : 0 ≤ spacing) (item : Number × ℕ) :
    Placed columnCount columnWidth spacing (items ++ [item])
      (placeItem columnCount columnWidth spacing state item) := by
  have hheight := nonNegativeFinite_nonneg item.1
  have hlane := leastLane_lt state.columnBottoms hcount
  have hleast : ∀ column < columnCount, state.columnBottoms
      (leastLane state.columnBottoms columnCount) ≤ state.columnBottoms column :=
    fun column hcolumn => leastLane_le state.columnBottoms hcolumn
  have hnonneg := h.bottoms_nonneg (leastLane state.columnBottoms columnCount)
  simp only [placeItem]
  rw [h.clamp hcount]
  generalize leastLane state.columnBottoms columnCount = chosen at *
  constructor
  case bottoms =>
    intro column
    simp only [columnBottom_snoc, Function.update_apply, ← h.bottoms, eq_comm]
  case greedy =>
    rw [List.map_append]
    refine Greedy.snoc h.greedy hlane ?_ ?_ (add_nonneg hheight hspacing)
    · exact (h.bottoms chosen).trans (loadOf_slots spacing state.positions chosen).symm
    intro column hcolumn
    rw [loadOf_slots, ← h.bottoms]
    exact hleast column hcolumn
  case reached =>
    intro column hcolumn
    have hold := hleast column hcolumn
    simp only [Function.update_apply]
    split
    · linarith
    · exact hold
  case indices => simp [h.indices]
  case heights => simp [h.heights]
  case shape =>
    intro position hmem
    rw [List.mem_append, List.mem_singleton] at hmem
    obtain hmem | rfl := hmem
    · exact h.shape position hmem
    · exact ⟨rfl, rfl⟩
  case height_le =>
    intro position hmem
    rw [List.mem_append, List.mem_singleton] at hmem
    obtain hmem | rfl := hmem
    · exact (h.height_le position hmem).trans (le_max_left _ _)
    · exact le_max_right _ _
  case height_reached =>
    refine Or.inr ?_
    obtain hless | hmore := le_total state.height
      (state.columnBottoms chosen + nonNegativeFinite item.1)
    · exact ⟨_, List.mem_append_right _ (List.mem_singleton_self _), (max_eq_right hless).symm⟩
    obtain ⟨hnil, hzero⟩ | ⟨position, hmem, hposition⟩ := h.height_reached
    · refine ⟨_, List.mem_append_right _ (List.mem_singleton_self _), ?_⟩
      exact le_antisymm (le_max_right _ _) (max_le (by linarith) le_rfl)
    · exact ⟨position, List.mem_append_left _ hmem, hposition.trans (max_eq_left hmore).symm⟩
  case bottoms_nonneg =>
    intro column
    simp only [Function.update_apply]
    split
    · linarith
    · exact h.bottoms_nonneg column

theorem Placed.run (hcount : 0 < columnCount)
    (hspacing : 0 ≤ spacing) (rest : List (Number × ℕ)) :
    ∀ {items : List (Number × ℕ)} {state : Placing},
      Placed columnCount columnWidth spacing items state →
      Placed columnCount columnWidth spacing (items ++ rest)
        (rest.foldl (placeItem columnCount columnWidth spacing) state) := by
  induction rest with
  | nil =>
    intro items state h
    simpa using h
  | cons item rest ih =>
    intro items state h
    have hnext := ih (h.step hcount hspacing item)
    rwa [List.append_assoc] at hnext

structure Packs (options : MasonryLayoutOptions) (layout : MasonryLayout) : Prop where
  one_position_each : layout.positions.map (·.index) = List.range options.itemHeights.length
  heights : layout.positions.map (·.height) = options.itemHeights.map nonNegativeFinite
  columns : ∀ position ∈ layout.positions,
    position.column < layout.columnCount ∧ position.width = layout.columnWidth ∧
      position.x = position.column * (layout.columnWidth + nonNegativeFinite options.gap)
  vertical : layout.positions.Pairwise fun upper lower => upper.column = lower.column →
    upper.y + upper.height + nonNegativeFinite options.gap ≤ lower.y
  horizontal : ∀ left ∈ layout.positions, ∀ right ∈ layout.positions,
    left.column < right.column →
      left.x + left.width + nonNegativeFinite options.gap ≤ right.x
  tops_sorted : layout.positions.Pairwise fun earlier later => earlier.y ≤ later.y
  shortest : ∀ before position after, layout.positions = before ++ position :: after →
    position.y = columnBottom (nonNegativeFinite options.gap) before position.column ∧
      ∀ column < layout.columnCount,
        position.y ≤ columnBottom (nonNegativeFinite options.gap) before column
  height_le : ∀ position ∈ layout.positions, position.y + position.height ≤ layout.height
  height_reached : (layout.positions = [] ∧ layout.height = 0) ∨
    ∃ position ∈ layout.positions, position.y + position.height = layout.height
  wide : 2 ≤ layout.columnCount →
    positiveFinite defaultMasonryMinColumnWidth options.minColumnWidth ≤ layout.columnWidth
  inside : 2 ≤ layout.columnCount →
    (layout.columnCount - 1) * (layout.columnWidth + nonNegativeFinite options.gap) +
      layout.columnWidth ≤ nonNegativeFinite options.containerWidth
  within : 2 ≤ layout.columnCount → ∀ position ∈ layout.positions,
    0 ≤ position.x ∧ position.x + position.width ≤ nonNegativeFinite options.containerWidth

theorem column_clear (hwidth : 0 ≤ columnWidth)
    (hspacing : 0 ≤ spacing) {left right : ℕ} (hlt : left < right) :
    left * (columnWidth + spacing) + columnWidth + spacing ≤
      right * (columnWidth + spacing) := by
  have hnext : (left : ℚ) + 1 ≤ right := by exact_mod_cast hlt
  calc
    left * (columnWidth + spacing) + columnWidth + spacing
        = (left + 1) * (columnWidth + spacing) := by ring
    _ ≤ right * (columnWidth + spacing) :=
        mul_le_mul_of_nonneg_right hnext (add_nonneg hwidth hspacing)

theorem column_le_last (hwidth : 0 ≤ columnWidth) (hspacing : 0 ≤ spacing) {column : ℕ}
    (hcolumn : column < columnCount) :
    column * (columnWidth + spacing) ≤ (columnCount - 1) * (columnWidth + spacing) := by
  have hlast : (column : ℚ) ≤ columnCount - 1 := by
    have hnext : (column : ℚ) + 1 ≤ columnCount := by exact_mod_cast hcolumn
    linarith
  exact mul_le_mul_of_nonneg_right hlast (add_nonneg hwidth hspacing)

theorem calculateMasonryLayout_fits (options : MasonryLayoutOptions)
    (htwo : 2 ≤ (calculateMasonryLayout options).columnCount) :
    positiveFinite defaultMasonryMinColumnWidth options.minColumnWidth ≤
        (calculateMasonryLayout options).columnWidth ∧
      ((calculateMasonryLayout options).columnCount - 1) *
          ((calculateMasonryLayout options).columnWidth + nonNegativeFinite options.gap) +
        (calculateMasonryLayout options).columnWidth =
          nonNegativeFinite options.containerWidth := by
  have hfits := masonryColumnCount_fits htwo
  have hminimum := positiveFinite_pos (show 0 < defaultMasonryMinColumnWidth by decide)
    options.minColumnWidth
  simp only [nonNegativeFinite_finite_self] at hfits
  simp only [calculateMasonryLayout] at htwo ⊢
  generalize masonryColumnCount _ _ _ _ = columnCount at *
  generalize nonNegativeFinite options.containerWidth = width at *
  generalize positiveFinite defaultMasonryMinColumnWidth options.minColumnWidth = minimum at *
  generalize nonNegativeFinite options.gap = spacing at *
  have hpos : (0 : ℚ) < columnCount := by exact_mod_cast Nat.lt_of_lt_of_le Nat.two_pos htwo
  have hwide : minimum ≤ (width - spacing * (columnCount - 1)) / columnCount := by
    rw [le_div_iff₀ hpos]
    linarith
  rw [max_eq_right (hminimum.le.trans hwide)]
  refine ⟨hwide, ?_⟩
  field_simp
  ring

theorem calculateMasonryLayout_packs (options : MasonryLayoutOptions) :
    Packs options (calculateMasonryLayout options) := by
  have hspacing := nonNegativeFinite_nonneg options.gap
  have hcount := masonryColumnCount_pos (.finite (nonNegativeFinite options.containerWidth))
    options.minColumnWidth (.finite (nonNegativeFinite options.gap)) options.maxColumns
  have hwidth : 0 ≤ (calculateMasonryLayout options).columnWidth := le_max_left _ _
  have hplaced := (Placed.start (calculateMasonryLayout options).columnCount
    (calculateMasonryLayout options).columnWidth (nonNegativeFinite options.gap)).run
      hcount hspacing options.itemHeights.zipIdx
  have hshape := hplaced.shape
  have hfits := calculateMasonryLayout_fits options
  constructor
  case one_position_each =>
    exact hplaced.indices.trans
      (by rw [List.nil_append, List.zipIdx_map_snd, List.range_eq_range'])
  case heights =>
    exact hplaced.heights.trans (by rw [List.nil_append, List.zipIdx_map_fst])
  case columns =>
    intro position hmem
    exact ⟨hplaced.greedy.lane_lt _ (List.mem_map_of_mem hmem), hshape position hmem⟩
  case vertical =>
    have hslots := List.pairwise_map.mp hplaced.greedy.same_lane_disjoint
    refine hslots.imp ?_
    intro upper lower hdisjoint hsame
    have hend := hdisjoint hsame
    simpa only [MasonryPosition.slot, add_assoc] using hend
  case horizontal =>
    intro left hleft right hright hlt
    rw [(hshape left hleft).1, (hshape left hleft).2, (hshape right hright).2]
    exact column_clear hwidth hspacing hlt
  case tops_sorted =>
    have hslots := List.pairwise_map.mp hplaced.greedy.starts_sorted
    exact hslots
  case shortest =>
    intro before position after hsplit
    have hslots : (calculateMasonryLayout options).positions.map
        (·.slot (nonNegativeFinite options.gap)) =
          before.map (·.slot (nonNegativeFinite options.gap)) ++
            position.slot (nonNegativeFinite options.gap) ::
              after.map (·.slot (nonNegativeFinite options.gap)) := by
      rw [hsplit, List.map_append, List.map_cons]
    obtain ⟨hstart, hleast⟩ := hplaced.greedy.at_split _ _ _ hslots
    simp only [loadOf_slots] at hstart hleast
    exact ⟨hstart, hleast⟩
  case height_le => exact hplaced.height_le
  case height_reached => exact hplaced.height_reached
  case wide => exact fun htwo => (hfits htwo).1
  case inside => exact fun htwo => (hfits htwo).2.le
  case within =>
    intro htwo position hmem
    have hlane := hplaced.greedy.lane_lt _ (List.mem_map_of_mem hmem)
    rw [(hshape position hmem).1, (hshape position hmem).2]
    refine ⟨by positivity, ?_⟩
    exact (add_le_add_left (column_le_last hwidth hspacing hlane) _).trans (hfits htwo).2.le

end MemeExpert.Frontend.Masonry
