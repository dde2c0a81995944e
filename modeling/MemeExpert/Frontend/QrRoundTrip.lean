import MemeExpert.Frontend.QrPlacement

/-! The codewords are drawn bit by bit on the data modules in the order in which the reader
walks over them, turned over by the mask and not touched again. -/

namespace MemeExpert.Frontend

open Bits Grids

section Walk

variable {version : Nat} {place : Place}

def rightColumn (version pair : Nat) : Nat :=
  if 6 < sizeOfVersion version - 1 - 2 * pair then sizeOfVersion version - 1 - 2 * pair
  else sizeOfVersion version - 2 - 2 * pair

theorem rightColumn_pos {pair : Nat} (hpair : pair < (sizeOfVersion version - 1) / 2) :
    1 ≤ rightColumn version pair ∧ rightColumn version pair < sizeOfVersion version := by
  rw [rightColumn, sizeOfVersion] at *
  split <;> omega

theorem rightColumn_apart {first second : Nat} (hlt : first < second)
    (hsecond : second < (sizeOfVersion version - 1) / 2) :
    rightColumn version second + 2 ≤ rightColumn version first := by
  rw [rightColumn, rightColumn, sizeOfVersion] at *
  split <;> split <;> omega

def pairPlaces (version pair step : Nat) : List Place :=
  let y := if pair % 2 = 0 then sizeOfVersion version - 1 - step else step
  [(rightColumn version pair, y), (rightColumn version pair - 1, y)]

theorem readingOrder_eq : readingOrder version =
    (List.range ((sizeOfVersion version - 1) / 2)).flatMap fun pair =>
      (List.range (sizeOfVersion version)).flatMap (pairPlaces version pair) := rfl

theorem mem_pairPlaces {pair step : Nat} (h : place ∈ pairPlaces version pair step) :
    (place.1 = rightColumn version pair ∨ place.1 = rightColumn version pair - 1) ∧
      place.2 = if pair % 2 = 0 then sizeOfVersion version - 1 - step else step := by
  simp only [pairPlaces, List.mem_cons, List.not_mem_nil, or_false] at h
  rcases h with rfl | rfl
  · exact ⟨.inl rfl, rfl⟩
  · exact ⟨.inr rfl, rfl⟩

theorem inside_of_mem_readingOrder (h : place ∈ readingOrder version) :
    Inside (sizeOfVersion version) place := by
  rw [readingOrder_eq, List.mem_flatMap] at h
  obtain ⟨pair, hpair, h⟩ := h
  obtain ⟨step, hstep, h⟩ := List.mem_flatMap.mp h
  obtain ⟨hcolumn, hrow⟩ := mem_pairPlaces h
  obtain ⟨hpos, hlt⟩ := rightColumn_pos (List.mem_range.mp hpair)
  have hstepLt := List.mem_range.mp hstep
  refine ⟨by omega, ?_⟩
  rw [hrow]
  split <;> omega

theorem nodup_readingOrder : (readingOrder version).Nodup := by
  rw [readingOrder_eq, List.nodup_flatMap]
  refine ⟨fun pair hpair => ?_, ?_⟩
  · have hpos := (rightColumn_pos (List.mem_range.mp hpair)).1
    rw [List.nodup_flatMap]
    refine ⟨fun step _ => ?_, ?_⟩
    · simp only [pairPlaces, List.nodup_cons, List.mem_singleton, Prod.mk.injEq, List.not_mem_nil,
        not_false_eq_true, List.nodup_nil, and_true]
      omega
    refine List.pairwise_lt_range.imp_of_mem fun hfirst hsecond hlt place hmem hother => ?_
    have hrow := (mem_pairPlaces hmem).2
    have hotherRow := (mem_pairPlaces hother).2
    have hfirstLt := List.mem_range.mp hfirst
    have hsecondLt := List.mem_range.mp hsecond
    rw [hrow] at hotherRow
    split at hotherRow <;> omega
  · refine List.pairwise_lt_range.imp_of_mem fun hfirst hsecond hlt place hmem hother => ?_
    obtain ⟨step, -, hplace⟩ := List.mem_flatMap.mp hmem
    obtain ⟨otherStep, -, hotherPlace⟩ := List.mem_flatMap.mp hother
    have hcolumn := (mem_pairPlaces hplace).1
    have hotherColumn := (mem_pairPlaces hotherPlace).1
    have hapart := rightColumn_apart hlt (List.mem_range.mp hsecond)
    have hpos := (rightColumn_pos (List.mem_range.mp hsecond)).1
    omega

theorem nodup_dataPlaces : (dataPlaces version).Nodup := nodup_readingOrder.filter _

theorem inside_of_mem_dataPlaces (h : place ∈ dataPlaces version) :
    Inside (sizeOfVersion version) place :=
  inside_of_mem_readingOrder (List.mem_of_mem_filter h)

end Walk

structure QrVersionSpec.Standard (spec : QrVersionSpec) : Prop where
  version_pos : 1 ≤ spec.version
  size_eq : spec.size = sizeOfVersion spec.version
  blocks_pos : 0 < spec.blocks
  table : blockTable spec.version = some (spec.blocks, spec.dataCodewords / spec.blocks)
  divides : spec.dataCodewords = spec.blocks * (spec.dataCodewords / spec.blocks)
  columns : scanColumns spec.size (spec.size - 1) true =
    (List.range ((spec.size - 1) / 2)).map fun pair =>
      (rightColumn spec.version pair, decide (pair % 2 = 0))

theorem standard_of_mem {spec : QrVersionSpec} (h : spec ∈ qrVersionSpecs) : spec.Standard := by
  have hall : ∀ spec ∈ qrVersionSpecs, 1 ≤ spec.version ∧
      spec.size = sizeOfVersion spec.version ∧ 0 < spec.blocks ∧
      blockTable spec.version = some (spec.blocks, spec.dataCodewords / spec.blocks) ∧
      spec.dataCodewords = spec.blocks * (spec.dataCodewords / spec.blocks) ∧
      scanColumns spec.size (spec.size - 1) true =
        (List.range ((spec.size - 1) / 2)).map fun pair =>
          (rightColumn spec.version pair, decide (pair % 2 = 0)) := by
    decide +kernel
  obtain ⟨h1, h2, h3, h4, h5, h6⟩ := hall spec h
  exact ⟨h1, h2, h3, h4, h5, h6⟩

theorem codewords_fit {spec : QrVersionSpec} (h : spec ∈ qrVersionSpecs) :
    8 * (spec.dataCodewords + spec.blocks * spec.eccCodewordsPerBlock) ≤
      (dataPlaces spec.version).length := by
  have hall : ∀ spec ∈ qrVersionSpecs,
      8 * (spec.dataCodewords + spec.blocks * spec.eccCodewordsPerBlock) ≤
        ((List.range ((sizeOfVersion spec.version - 1) / 2)).map fun pair =>
          ((List.range (sizeOfVersion spec.version)).map fun step =>
            (pairPlaces spec.version pair step).countP fun place =>
              !isFunctionPlace spec.version place).sum).sum := by
    simp only [qrVersionSpecs, List.forall_mem_cons]
    refine ⟨?_, ?_, ?_, ?_, ?_, ?_, nofun⟩
    all_goals decide +kernel
  rw [dataPlaces, ← List.countP_eq_length_filter, readingOrder_eq, List.countP_flatMap]
  simpa only [List.countP_flatMap, Function.comp_def] using hall spec h

theorem scan_eq {spec : QrVersionSpec} (h : spec.Standard) :
    scan spec.size = readingOrder spec.version := by
  rw [scan, h.columns, List.flatMap_map, readingOrder_eq, ← h.size_eq]
  refine List.flatMap_congr fun pair _ => List.flatMap_congr fun step _ => ?_
  simp only [pairPlaces, decide_eq_true_eq, ← h.size_eq]
  rfl

theorem dataPlaces_eq {spec : QrVersionSpec} (h : spec.Standard) :
    ((scan spec.size).filter fun place =>
      !cell (createBaseMatrix spec).functionModules place) = dataPlaces spec.version := by
  rw [scan_eq h, dataPlaces]
  refine List.filter_congr fun place hplace => ?_
  have hinside := inside_of_mem_readingOrder hplace
  rw [← h.size_eq] at hinside
  rw [(functionModules_iff h.version_pos h.size_eq).2 place hinside]

section Drawing

variable {modules functionModules : List (List Bool)} {bits : List Nat} {codewords : List Nat}
  {found : List Place}

def bitWrites (found : List Place) (bits : List Nat) (start : Nat) : List (Place × Bool) :=
  (found.zipIdx start).map fun place => (place.1, decide (bits[place.2]? = some 1))

theorem drawn_eq_fill (walk : List Place) (start : Nat) :
    (walk.foldl
      (fun drawn place =>
        if cell functionModules place then drawn
        else
          { modules := put drawn.modules place (bits[drawn.bitIndex]? = some 1)
            bitIndex := drawn.bitIndex + 1 })
      (⟨modules, start⟩ : DrawnCodewords)).modules =
      fill modules (bitWrites (walk.filter fun place => !cell functionModules place) bits start) := by
  induction walk generalizing modules start with
  | nil => rfl
  | cons place walk ih =>
    rw [List.foldl_cons]
    by_cases hfunction : cell functionModules place = true
    · rw [if_pos hfunction, ih, List.filter_cons_of_neg (by simp [hfunction])]
    · rw [if_neg hfunction, ih, List.filter_cons_of_pos (by simp [hfunction])]
      rfl

theorem drawCodewords_eq :
    drawCodewords modules functionModules codewords =
      fill modules (bitWrites
        ((scan modules.length).filter fun place => !cell functionModules place)
        (codewords.flatMap byteToBits) 0) :=
  drawn_eq_fill _ 0

theorem map_fst_bitWrites (start : Nat) : (bitWrites found bits start).map Prod.fst = found := by
  rw [bitWrites, List.map_map]
  exact List.zipIdx_map_fst start found

theorem readBits_fill {size : Nat} (hsquare : IsSquare size modules) (hnodup : found.Nodup)
    (hinside : ∀ place ∈ found, Inside size place) (hbits : ∀ bit ∈ bits, bit ≤ 1)
    (hfit : bits.length ≤ found.length) :
    ∃ rest, readBits (fill modules (bitWrites found bits 0)) found = bits ++ rest := by
  refine ⟨List.replicate (found.length - bits.length) 0, List.ext_getElem ?_ fun i hi hi' => ?_⟩
  · rw [readBits, List.length_map, List.length_append, List.length_replicate]
    omega
  rw [readBits, List.length_map] at hi
  have hmem : (found[i], decide (bits[i]? = some 1)) ∈ bitWrites found bits 0 := by
    refine List.mem_map.mpr ⟨(found[i], i), ?_, rfl⟩
    exact List.mk_mem_zipIdx_iff_getElem?.mpr (List.getElem?_eq_getElem hi)
  have hcell := cell_fill_of_mem hsquare (by rwa [map_fst_bitWrites]) hmem
    (hinside _ (List.getElem_mem hi))
  simp only [readBits, List.getElem_map, hcell]
  by_cases hbit : i < bits.length
  · rw [List.getElem_append_left hbit, List.getElem?_eq_getElem hbit]
    have hle := hbits _ (List.getElem_mem hbit)
    rcases Nat.le_one_iff_eq_zero_or_eq_one.mp hle with h | h <;> simp [h]
  · rw [List.getElem_append_right (Nat.le_of_not_lt hbit), List.getElem_replicate,
      List.getElem?_eq_none (Nat.le_of_not_lt hbit)]
    rfl

theorem mem_places {size : Nat} {place : Place} : place ∈ places size ↔ Inside size place := by
  obtain ⟨x, y⟩ := place
  simp only [places, List.mem_flatMap, List.mem_map, List.mem_range, Prod.mk.injEq]
  constructor
  · rintro ⟨row, hrow, column, hcolumn, rfl, rfl⟩
    exact ⟨hcolumn, hrow⟩
  · rintro ⟨hx, hy⟩
    exact ⟨y, hy, x, hx, rfl, rfl⟩

theorem nodup_places (size : Nat) : (places size).Nodup := by
  rw [places, List.nodup_flatMap]
  refine ⟨fun row _ => ?_, ?_⟩
  · refine List.Nodup.map (fun first second heq => ?_) List.nodup_range
    exact congrArg Prod.fst heq
  refine List.nodup_range.imp fun hne place hmem hother => ?_
  obtain ⟨x, -, rfl⟩ := List.mem_map.mp hmem
  obtain ⟨other, -, heq⟩ := List.mem_map.mp hother
  exact hne (congrArg Prod.snd heq).symm

theorem cell_applyMask {size : Nat} (hsquare : IsSquare size modules) {place : Place}
    (hinside : Inside size place) (hdata : cell functionModules place = false) :
    cell (applyMask modules functionModules) place =
      xor (cell modules place) (isMasked 0 place) := by
  rw [applyMask, hsquare.rows,
    cell_flip_of_mem hsquare (nodup_places size) (mem_places.mpr hinside) hinside]
  simp only [hdata, Bool.not_false, Bool.true_and, isMasked, Nat.add_comm]

variable {size : Nat}

def formatWrites (size maskPattern : Nat) : List (Place × Bool) :=
  let bits := formatBits maskPattern
  (List.range 6).map (fun i => ((8, i), getBit bits i)) ++
    [((8, 7), getBit bits 6), ((8, 8), getBit bits 7), ((7, 8), getBit bits 8)] ++
    (List.range' 9 6).map (fun i => ((14 - i, 8), getBit bits i)) ++
    (List.range 8).map (fun i => ((size - 1 - i, 8), getBit bits i)) ++
    (List.range' 8 7).map (fun i => ((8, size - 15 + i), getBit bits i)) ++ [((8, size - 8), true)]

theorem drawFormatBits_eq (maskPattern : Nat) :
    drawFormatBits modules size maskPattern = fill modules (formatWrites size maskPattern) := by
  simp only [drawFormatBits, formatWrites, fill, List.foldl_append, List.foldl_map, List.foldl_cons,
    List.foldl_nil]

def formatValues : List Bool := (List.range 15).map fun i => getBit (formatBits formatMaskPattern) (14 - i)

theorem formatWrites_sound {spec : QrVersionSpec} (h : spec ∈ qrVersionSpecs) :
    ((formatWrites spec.size formatMaskPattern).map Prod.fst).Nodup ∧
    (∀ write ∈ formatWrites spec.size formatMaskPattern,
      Inside spec.size write.1 ∧ isFunctionPlace spec.version write.1 = true) ∧
    formatPlaces.zip formatValues ⊆ formatWrites spec.size formatMaskPattern ∧
    (formatCopyPlaces spec.size).zip formatValues ⊆ formatWrites spec.size formatMaskPattern := by
  revert spec
  simp only [qrVersionSpecs, List.forall_mem_cons]
  refine ⟨?_, ?_, ?_, ?_, ?_, ?_, nofun⟩
  all_goals decide +kernel

theorem readBits_of_zip {writes : List (Place × Bool)} {found : List Place} {values : List Bool}
    (hsquare : IsSquare size modules) (hnodup : (writes.map Prod.fst).Nodup)
    (hinside : ∀ write ∈ writes, Inside size write.1) (hzip : found.zip values ⊆ writes)
    (hlength : found.length = values.length) :
    readBits (fill modules writes) found = values.map Bool.toNat := by
  refine List.ext_getElem (by rw [readBits, List.length_map, List.length_map, hlength]) ?_
  intro i hi hi'
  rw [List.length_map] at hi'
  rw [readBits, List.length_map] at hi
  have hmem : (found[i], values[i]) ∈ writes := by
    refine hzip (List.mem_iff_getElem.mpr ⟨i, ?_, List.getElem_zip⟩)
    rw [List.length_zip]
    omega
  simp only [readBits, List.getElem_map,
    cell_fill_of_mem hsquare hnodup hmem (hinside _ hmem)]

theorem readFormat_drawFormatBits {spec : QrVersionSpec} (h : spec ∈ qrVersionSpecs)
    (hsquare : IsSquare spec.size modules) :
    readFormat (drawFormatBits modules spec.size formatMaskPattern) = some (1, 0) := by
  obtain ⟨hnodup, hplaces, hfirst, hcopy⟩ := formatWrites_sound h
  have hinside := fun write hwrite => (hplaces write hwrite).1
  have hdrawn : IsSquare spec.size (fill modules (formatWrites spec.size formatMaskPattern)) :=
    hsquare.fill
  rw [drawFormatBits_eq, readFormat, hdrawn.rows,
    readBits_of_zip hsquare hnodup hinside hfirst (by decide),
    readBits_of_zip hsquare hnodup hinside hcopy rfl]
  decide +kernel

theorem cell_drawFormatBits {spec : QrVersionSpec} (h : spec ∈ qrVersionSpecs) {place : Place}
    (hdata : isFunctionPlace spec.version place = false) :
    cell (drawFormatBits modules spec.size formatMaskPattern) place = cell modules place := by
  obtain ⟨-, hplaces, -, -⟩ := formatWrites_sound h
  rw [drawFormatBits_eq]
  refine cell_fill_of_not_mem fun hmem => ?_
  obtain ⟨write, hwrite, rfl⟩ := List.mem_map.mp hmem
  have hfunction := (hplaces write hwrite).2
  rw [hdata] at hfunction
  cases hfunction

variable {spec : QrVersionSpec} {payload : List Nat}

theorem drawMatrix_square (h : spec.Standard) : IsSquare spec.size (drawMatrix payload spec) := by
  have hbase := (functionModules_iff h.version_pos h.size_eq).1
  rw [drawMatrix, drawFormatBits_eq, drawCodewords_eq]
  exact (IsSquare.flip hbase.modules.fill).fill

theorem isFunctionPlace_of_mem_dataPlaces {version : Nat} {place : Place}
    (h : place ∈ dataPlaces version) : isFunctionPlace version place = false := by
  simpa using (List.mem_filter.mp h).2

theorem unmasked_drawMatrix (hmem : spec ∈ qrVersionSpecs) {place : Place}
    (hplace : place ∈ dataPlaces spec.version) :
    xor (cell (drawMatrix payload spec) place) (isMasked 0 place) =
      cell (fill (createBaseMatrix spec).modules (bitWrites (dataPlaces spec.version)
        ((addErrorCorrection (encodePayload payload spec) spec).flatMap byteToBits) 0)) place := by
  have hspec := standard_of_mem hmem
  obtain ⟨hbase, hfunction⟩ := functionModules_iff hspec.version_pos hspec.size_eq
  have hdata := isFunctionPlace_of_mem_dataPlaces hplace
  have hinside := inside_of_mem_dataPlaces hplace
  rw [← hspec.size_eq] at hinside
  rw [drawMatrix, cell_drawFormatBits hmem hdata, drawCodewords_eq, hbase.modules.rows,
    dataPlaces_eq hspec,
    cell_applyMask hbase.modules.fill hinside ((hfunction place hinside).trans hdata),
    Bool.xor_assoc, Bool.xor_self, Bool.xor_false]

theorem length_codewordBits {codewords : List Nat} :
    (codewords.flatMap byteToBits).length = 8 * codewords.length :=
  length_flatMap_of_width fun codeword _ => by
    rw [byteToBits, appendBits, List.nil_append, length_bitsOf]

theorem dataBits_drawMatrix (hmem : spec ∈ qrVersionSpecs)
    (hpayload : 12 + 8 * payload.length ≤ 8 * spec.dataCodewords) :
    ∃ rest, ((dataPlaces spec.version).map fun place =>
      (xor (cell (drawMatrix payload spec) place) (isMasked 0 place)).toNat) =
        (addErrorCorrection (encodePayload payload spec) spec).flatMap byteToBits ++ rest := by
  have hspec := standard_of_mem hmem
  have hbase := (functionModules_iff hspec.version_pos hspec.size_eq).1
  obtain ⟨correction, hcodewords, hcorrection⟩ := addErrorCorrection_eq
    ((length_encodePayload hpayload).trans hspec.divides) hspec.blocks_pos
  have hfit : ((addErrorCorrection (encodePayload payload spec) spec).flatMap byteToBits).length ≤
      (dataPlaces spec.version).length := by
    rw [length_codewordBits, hcodewords, List.length_append, length_interleaved, hcorrection,
      ← hspec.divides]
    exact codewords_fit hmem
  have hinside : ∀ place ∈ dataPlaces spec.version, Inside spec.size place := by
    rw [hspec.size_eq]
    exact fun place hplace => inside_of_mem_dataPlaces hplace
  have hbits : ∀ bit ∈ (addErrorCorrection (encodePayload payload spec) spec).flatMap byteToBits,
      bit ≤ 1 := by
    intro bit hbit
    obtain ⟨codeword, -, hbit⟩ := List.mem_flatMap.mp hbit
    exact bit_le_one hbit
  obtain ⟨rest, hrest⟩ := readBits_fill hbase.modules nodup_dataPlaces hinside hbits hfit
  refine ⟨rest, Eq.trans (List.map_congr_left fun place hplace => ?_) hrest⟩
  rw [unmasked_drawMatrix hmem hplace]

theorem readQrMatrix_drawMatrix (hmem : spec ∈ qrVersionSpecs)
    (hpayload : 12 + 8 * payload.length ≤ 8 * spec.dataCodewords) (hlength : payload.length < 256)
    (hbytes : ∀ byte ∈ payload, byte < 256) :
    readQrMatrix (drawMatrix payload spec) = some payload := by
  have hspec := standard_of_mem hmem
  have hdata := (length_encodePayload hpayload).trans hspec.divides
  have hversion : ((drawMatrix payload spec).length - 17) / 4 = spec.version := by
    rw [(drawMatrix_square hspec).rows, hspec.size_eq, sizeOfVersion]
    omega
  have hbase := (functionModules_iff hspec.version_pos hspec.size_eq).1
  have hformat : readFormat (drawMatrix payload spec) = some (1, 0) := by
    rw [drawMatrix, drawCodewords_eq]
    exact readFormat_drawFormatBits hmem (IsSquare.flip hbase.modules.fill)
  obtain ⟨rest, hrest⟩ := dataBits_drawMatrix hmem hpayload
  obtain ⟨correction, hcodewords, -⟩ := addErrorCorrection_eq hdata hspec.blocks_pos
  have hread : (List.range (spec.blocks * (spec.dataCodewords / spec.blocks))).map
      (fun i => ofBits (chunk 8 ((addErrorCorrection (encodePayload payload spec) spec).flatMap
        byteToBits ++ rest) i)) =
      interleaved (encodePayload payload spec) spec.blocks (spec.dataCodewords / spec.blocks) := by
    refine List.ext_getElem ?_ fun i hi hi' => ?_
    · rw [List.length_map, List.length_range, length_interleaved]
    have hplace : i < (addErrorCorrection (encodePayload payload spec) spec).length := by
      rw [hcodewords, List.length_append]
      exact hi'.trans_le (Nat.le_add_right _ _)
    have hcodeword : (addErrorCorrection (encodePayload payload spec) spec)[i] =
        (interleaved (encodePayload payload spec) spec.blocks
          (spec.dataCodewords / spec.blocks))[i] := by
      simp only [hcodewords, List.getElem_append_left hi']
    have hwidth : ∀ codeword ∈ addErrorCorrection (encodePayload payload spec) spec,
        (byteToBits codeword).length = 8 := fun _ _ => length_bitsOf
    rw [List.getElem_map, List.getElem_range, chunk_flatMap hwidth rest hplace, hcodeword]
    refine (ofBits_bitsOf _ 8).trans (Nat.mod_eq_of_lt ?_)
    exact interleaved_lt (fun _ => encodePayload_lt hpayload) (List.getElem_mem hi')
  simp only [readQrMatrix, hversion, hformat, hspec.table, hrest, hread,
    deinterleave_interleaved hdata]
  exact parseByteMode_encodePayload hpayload hlength hbytes

theorem chooseVersionSpec_spec {length : Nat} (h : length ≤ 134) :
    ∃ spec ∈ qrVersionSpecs, chooseVersionSpec length = .ok spec ∧
      12 + 8 * length ≤ 8 * spec.dataCodewords ∧
      ∀ other ∈ qrVersionSpecs, 12 + 8 * length ≤ 8 * other.dataCodewords →
        spec.version ≤ other.version := by
  have hholds : ∀ spec ∈ qrVersionSpecs,
      (length ≤ maxBytePayload spec ↔ 12 + 8 * length ≤ 8 * spec.dataCodewords) := by
    intro spec hspec
    have hlarge : 19 ≤ spec.dataCodewords := by
      revert spec
      decide
    rw [maxBytePayload]
    omega
  have hsorted : qrVersionSpecs.Pairwise fun first second => first.version ≤ second.version := by
    decide
  cases hfind : qrVersionSpecs.find? fun candidate => length ≤ maxBytePayload candidate with
  | none =>
    have hlast := List.find?_eq_none.mp hfind ⟨6, 41, 136, 18, 2⟩ (by decide)
    exact (hlast (decide_eq_true h)).elim
  | some spec =>
    obtain ⟨hfits, before, after, hsplit, hbefore⟩ := List.find?_eq_some_iff_append.mp hfind
    have hmem := List.mem_of_find?_eq_some hfind
    refine ⟨spec, hmem, ?_, (hholds spec hmem).mp (of_decide_eq_true hfits), ?_⟩
    · rw [chooseVersionSpec, hfind]
    intro other hother hotherFits
    have hfitsOther := (hholds other hother).mpr hotherFits
    rw [hsplit] at hother hsorted
    obtain ⟨-, hpair, -⟩ := List.pairwise_append.mp hsorted
    rcases List.mem_append.mp hother with hother | hother
    · have hno := hbefore other hother
      simp [hfitsOther] at hno
    rcases List.mem_cons.mp hother with rfl | hother
    · exact Nat.le_refl _
    · exact (List.pairwise_cons.mp hpair).1 other hother

/-- Every text that is not blank and has at most 134 bytes is drawn in the smallest
version that holds it, and read back from there. -/
theorem createQrMatrix_readable (value : CodeUnits) (hblank : value.all isTrimmed = false)
    (hlength : (encodeText value).length ≤ 134) :
    ∃ spec ∈ qrVersionSpecs, ∃ matrix, createQrMatrix value = .ok matrix ∧
      IsSquare spec.size matrix ∧ readQrMatrix matrix = some (encodeText value) ∧
      12 + 8 * (encodeText value).length ≤ 8 * spec.dataCodewords ∧
      ∀ other ∈ qrVersionSpecs, 12 + 8 * (encodeText value).length ≤ 8 * other.dataCodewords →
        spec.version ≤ other.version := by
  obtain ⟨spec, hmem, hchosen, hfits, hsmallest⟩ := chooseVersionSpec_spec hlength
  refine ⟨spec, hmem, drawMatrix (encodeText value) spec, ?_,
    drawMatrix_square (standard_of_mem hmem), ?_, hfits, hsmallest⟩
  · simp only [createQrMatrix, hblank, Bool.false_eq_true, if_false, hchosen]
  · exact readQrMatrix_drawMatrix hmem hfits (hlength.trans_lt (by decide)) fun _ => encodeText_lt

theorem createQrMatrix_readable_login :
    ∃ spec ∈ qrVersionSpecs, ∃ matrix, createQrMatrix [0x74, 0x67] = .ok matrix ∧
      IsSquare spec.size matrix ∧ readQrMatrix matrix = some (encodeText [0x74, 0x67]) ∧
      12 + 8 * (encodeText [0x74, 0x67]).length ≤ 8 * spec.dataCodewords ∧
      ∀ other ∈ qrVersionSpecs,
        12 + 8 * (encodeText [0x74, 0x67]).length ≤ 8 * other.dataCodewords →
          spec.version ≤ other.version :=
  createQrMatrix_readable [0x74, 0x67] (by decide) (by decide)

end Drawing

end MemeExpert.Frontend
