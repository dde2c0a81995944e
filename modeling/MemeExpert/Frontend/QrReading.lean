import MemeExpert.Frontend.QrMatrix

/-! A reader by the standard: version, level and mask, then the data modules, the blocks and the
segment in byte mode. -/

namespace MemeExpert.Frontend

open Bits Grids

def sizeOfVersion (version : Nat) : Nat := 17 + 4 * version

/-- Finder patterns with their separators and the format areas beside them, the timing
lines, and the alignment pattern of a version above the first. -/
def isFunctionPlace (version : Nat) (place : Place) : Bool :=
  let size := sizeOfVersion version
  let x := place.1
  let y := place.2
  (x ≤ 8 && y ≤ 8) || (size - 8 ≤ x && y ≤ 8) || (x ≤ 8 && size - 8 ≤ y) || x = 6 || y = 6 ||
    (2 ≤ version && size - 9 ≤ x && x ≤ size - 5 && size - 9 ≤ y && y ≤ size - 5)

def readingOrder (version : Nat) : List Place :=
  let size := sizeOfVersion version
  (List.range ((size - 1) / 2)).flatMap fun pair =>
    let right := if 6 < size - 1 - 2 * pair then size - 1 - 2 * pair else size - 2 - 2 * pair
    (List.range size).flatMap fun step =>
      let y := if pair % 2 = 0 then size - 1 - step else step
      [(right, y), (right - 1, y)]

def dataPlaces (version : Nat) : List Place :=
  (readingOrder version).filter fun place => !isFunctionPlace version place

def isMasked (pattern : Nat) (place : Place) : Bool :=
  let x := place.1
  let y := place.2
  match pattern with
  | 0 => (y + x) % 2 = 0
  | 1 => y % 2 = 0
  | 2 => x % 3 = 0
  | 3 => (y + x) % 3 = 0
  | 4 => (y / 2 + x / 3) % 2 = 0
  | 5 => y * x % 2 + y * x % 3 = 0
  | 6 => (y * x % 2 + y * x % 3) % 2 = 0
  | _ => ((y + x) % 2 + y * x % 3) % 2 = 0

/-- The places of the format bits, from the highest to the lowest, around the first finder
and beside the other two. -/
def formatPlaces : List Place :=
  [(0, 8), (1, 8), (2, 8), (3, 8), (4, 8), (5, 8), (7, 8), (8, 8), (8, 7), (8, 5), (8, 4), (8, 3),
    (8, 2), (8, 1), (8, 0)]

def formatCopyPlaces (size : Nat) : List Place :=
  [(8, size - 1), (8, size - 2), (8, size - 3), (8, size - 4), (8, size - 5), (8, size - 6),
    (8, size - 7), (size - 8, 8), (size - 7, 8), (size - 6, 8), (size - 5, 8), (size - 4, 8),
    (size - 3, 8), (size - 2, 8), (size - 1, 8)]

def readBits (matrix : List (List Bool)) (found : List Place) : List Nat :=
  found.map fun place => (cell matrix place).toNat

def formatRemainder (bits : Nat) : Nat :=
  [14, 13, 12, 11, 10].foldl
    (fun remainder i => if remainder.testBit i then remainder ^^^ (0x537 <<< (i - 10)) else remainder)
    bits

def readFormat (matrix : List (List Bool)) : Option (Nat × Nat) :=
  let first := ofBits (readBits matrix formatPlaces)
  let second := ofBits (readBits matrix (formatCopyPlaces matrix.length))
  let format := first ^^^ 0x5412
  if first = second ∧ formatRemainder format = 0 then some (format / 2 ^ 13, format / 2 ^ 10 % 8)
  else none

/-- Number of blocks and data codewords of each, at level L of the versions with blocks of
one length that are read here. -/
def blockTable : Nat → Option (Nat × Nat)
  | 1 => some (1, 19)
  | 2 => some (1, 34)
  | 3 => some (1, 55)
  | 4 => some (1, 80)
  | 5 => some (1, 108)
  | 6 => some (2, 68)
  | _ => none

def deinterleave (codewords : List Nat) (blocks blockLength : Nat) : List Nat :=
  (List.range blocks).flatMap fun block =>
    (List.range blockLength).map fun i => codewords.getD (i * blocks + block) 0

def parseByteMode (data : List Nat) : Option (List Nat) :=
  let bits := data.flatMap fun codeword => bitsOf codeword 8
  let count := ofBits ((bits.drop 4).take 8)
  if ofBits (bits.take 4) = 4 ∧ 12 + 8 * count ≤ bits.length ∧
      ofBits ((bits.drop (12 + 8 * count)).take 4) = 0 then
    some ((List.range count).map fun i => ofBits (chunk 8 (bits.drop 12) i))
  else none

def readQrMatrix (matrix : List (List Bool)) : Option (List Nat) :=
  let version := (matrix.length - 17) / 4
  match readFormat matrix, blockTable version with
  | some (1, pattern), some (blocks, blockLength) =>
    let bits := (dataPlaces version).map fun place =>
      (xor (cell matrix place) (isMasked pattern place)).toNat
    let codewords := (List.range (blocks * blockLength)).map fun i => ofBits (chunk 8 bits i)
    parseByteMode (deinterleave codewords blocks blockLength)
  | _, _ => none

theorem utf8Bytes_lt {scalar byte : Nat} (h : scalar < 0x200000) (hbyte : byte ∈ utf8Bytes scalar) :
    byte < 256 := by
  unfold utf8Bytes at hbyte
  split at hbyte
  · rw [List.mem_singleton.mp hbyte]
    omega
  split at hbyte
  · simp only [List.mem_cons, List.not_mem_nil, or_false] at hbyte
    omega
  split at hbyte
  · simp only [List.mem_cons, List.not_mem_nil, or_false] at hbyte
    omega
  · simp only [List.mem_cons, List.not_mem_nil, or_false] at hbyte
    omega

theorem scalarOf_lt (unit : UInt16) : scalarOf unit.toNat < 0x200000 := by
  have hunit := unit.toNat_lt
  unfold scalarOf
  split <;> omega

theorem encodeText_lt {value : CodeUnits} {byte : Nat} (h : byte ∈ encodeText value) :
    byte < 256 := by
  induction value using encodeText.induct with
  | case1 => cases h
  | case2 unit => exact utf8Bytes_lt (scalarOf_lt unit) h
  | case3 first second rest hpair ih =>
    rw [encodeText, if_pos hpair] at h
    rcases List.mem_append.mp h with h | h
    · refine utf8Bytes_lt ?_ h
      simp only [isHighSurrogate, isLowSurrogate, Bool.and_eq_true, decide_eq_true_eq] at hpair
      omega
    · exact ih h
  | case4 first second rest hpair ih =>
    rw [encodeText, if_neg hpair] at h
    rcases List.mem_append.mp h with h | h
    · exact utf8Bytes_lt (scalarOf_lt first) h
    · exact ih h

section Segment

variable {payload rest : List Nat} {spec : QrVersionSpec}

def segmentBits (payload : List Nat) : List Nat :=
  bitsOf 4 4 ++ (bitsOf payload.length 8 ++ (payload.flatMap (bitsOf · 8) ++ bitsOf 0 4))

theorem segmentBits_le_one {bit : Nat} (h : bit ∈ segmentBits payload) : bit ≤ 1 := by
  simp only [segmentBits, List.mem_append, List.mem_flatMap] at h
  rcases h with h | h | ⟨byte, -, h⟩ | h <;> exact bit_le_one h

theorem length_payloadBits : (payload.flatMap (bitsOf · 8)).length = 8 * payload.length :=
  length_flatMap_of_width fun _ _ => length_bitsOf

theorem length_segmentBits : (segmentBits payload).length = 8 * (payload.length + 2) := by
  simp only [segmentBits, List.length_append, length_bitsOf, length_payloadBits]
  omega

theorem foldl_appendBits (bits : List Nat) :
    payload.foldl (fun bits byte => appendBits bits byte 8) bits =
      bits ++ payload.flatMap (bitsOf · 8) := by
  induction payload generalizing bits with
  | nil => exact (List.append_nil bits).symm
  | cons byte payload ih =>
    rw [List.foldl_cons, ih, appendBits, List.append_assoc]
    rfl

theorem fillLastByte_of_whole {bits : List Nat} (h : bits.length % 8 = 0) :
    fillLastByte bits = bits :=
  List.foldl_fixed' (fun _ => if_neg (not_not.mpr h)) _

theorem length_padCodewords (count pad : Nat) : (padCodewords count pad).length = count := by
  induction count generalizing pad with
  | zero => rfl
  | succ count ih => rw [padCodewords, List.length_cons, ih]

theorem padCodewords_lt {count pad codeword : Nat} (hpad : pad < 256)
    (h : codeword ∈ padCodewords count pad) : codeword < 256 := by
  induction count generalizing pad with
  | zero => cases h
  | succ count ih =>
    rcases List.mem_cons.mp h with rfl | h
    · exact hpad
    · exact ih (Nat.xor_lt_two_pow (n := 8) hpad (by decide)) h

section Fits

variable (h : 12 + 8 * payload.length ≤ 8 * spec.dataCodewords)

include h

theorem encodePayload_eq :
    encodePayload payload spec =
      ((List.range (payload.length + 2)).map fun i => ofBits (chunk 8 (segmentBits payload) i)) ++
        padCodewords (spec.dataCodewords - (payload.length + 2)) 0xec := by
  have hbody : payload.foldl (fun bits byte => appendBits bits byte 8)
      (appendBits (appendBits [] 4 4) payload.length 8) =
      bitsOf 4 4 ++ (bitsOf payload.length 8 ++ payload.flatMap (bitsOf · 8)) := by
    rw [foldl_appendBits, appendBits, appendBits, List.nil_append, List.append_assoc]
  have hlength : (bitsOf 4 4 ++ (bitsOf payload.length 8 ++
      payload.flatMap (bitsOf · 8))).length = 12 + 8 * payload.length := by
    simp only [List.length_append, length_bitsOf, length_payloadBits]
    omega
  have hterminator : min 4 (spec.dataCodewords * 8 - (12 + 8 * payload.length)) = 4 := by omega
  have hbits : appendBits (bitsOf 4 4 ++ (bitsOf payload.length 8 ++
      payload.flatMap (bitsOf · 8))) 0 4 = segmentBits payload := by
    rw [appendBits, segmentBits, List.append_assoc, List.append_assoc]
  have hwhole : (segmentBits payload).length % 8 = 0 := by
    rw [length_segmentBits]
    exact Nat.mul_mod_right 8 _
  have hcount : ((segmentBits payload).length + 7) / 8 = payload.length + 2 := by
    rw [length_segmentBits]
    omega
  simp only [encodePayload, hbody, hlength, hterminator, hbits, fillLastByte_of_whole hwhole,
    hcount, List.length_map, List.length_range]
  rfl

theorem length_encodePayload : (encodePayload payload spec).length = spec.dataCodewords := by
  rw [encodePayload_eq h, List.length_append, List.length_map, List.length_range,
    length_padCodewords]
  omega

theorem encodePayload_lt {codeword : Nat} (hmem : codeword ∈ encodePayload payload spec) :
    codeword < 256 := by
  rw [encodePayload_eq h] at hmem
  rcases List.mem_append.mp hmem with hmem | hmem
  · obtain ⟨i, -, rfl⟩ := List.mem_map.mp hmem
    have hlt : ofBits (chunk 8 (segmentBits payload) i) <
        2 ^ (chunk 8 (segmentBits payload) i).length :=
      ofBits_lt fun bit hbit => segmentBits_le_one
        (List.mem_of_mem_drop (List.mem_of_mem_take hbit))
    exact hlt.trans_le (Nat.pow_le_pow_right (by decide) (List.length_take_le ..))
  · exact padCodewords_lt (by decide) hmem

theorem bits_encodePayload :
    ∃ rest, (encodePayload payload spec).flatMap (bitsOf · 8) = segmentBits payload ++ rest := by
  refine ⟨(padCodewords (spec.dataCodewords - (payload.length + 2)) 0xec).flatMap (bitsOf · 8), ?_⟩
  rw [encodePayload_eq h, List.flatMap_append, List.flatMap_map]
  congr 1
  have hchunk : ∀ i ∈ List.range (payload.length + 2),
      bitsOf (ofBits (chunk 8 (segmentBits payload) i)) 8 = chunk 8 (segmentBits payload) i := by
    intro i hi
    have hlength : (chunk 8 (segmentBits payload) i).length = 8 := by
      have hlt := List.mem_range.mp hi
      rw [chunk, List.length_take, List.length_drop, length_segmentBits]
      omega
    have hback : bitsOf (ofBits (chunk 8 (segmentBits payload) i))
        (chunk 8 (segmentBits payload) i).length = chunk 8 (segmentBits payload) i :=
      bitsOf_ofBits fun bit hbit =>
        segmentBits_le_one (List.mem_of_mem_drop (List.mem_of_mem_take hbit))
    rwa [hlength] at hback
  rw [List.flatMap_congr hchunk]
  exact flatMap_chunk length_segmentBits

end Fits

theorem parseByteMode_of_parts {data mode count body terminator rest : List Nat} {length : Nat}
    (hbits : data.flatMap (bitsOf · 8) = mode ++ (count ++ (body ++ (terminator ++ rest))))
    (hmodeLength : mode.length = 4) (hcountLength : count.length = 8)
    (hbodyLength : body.length = 8 * length) (hterminatorLength : terminator.length = 4)
    (hmode : ofBits mode = 4) (hcount : ofBits count = length) (hterminator : ofBits terminator = 0) :
    parseByteMode data =
      some ((List.range length).map fun i => ofBits (chunk 8 (body ++ (terminator ++ rest)) i)) := by
  have hafterMode : (data.flatMap (bitsOf · 8)).drop 4 =
      count ++ (body ++ (terminator ++ rest)) := by
    rw [hbits, List.drop_left' hmodeLength]
  have hafterCount : (data.flatMap (bitsOf · 8)).drop 12 = body ++ (terminator ++ rest) := by
    rw [show 12 = 4 + 8 from rfl, ← List.drop_drop, hafterMode, List.drop_left' hcountLength]
  have hafterBody : (data.flatMap (bitsOf · 8)).drop (12 + 8 * length) = terminator ++ rest := by
    rw [← List.drop_drop, hafterCount, List.drop_left' hbodyLength]
  have hread : ofBits ((data.flatMap (bitsOf · 8)).take 4) = 4 := by
    rw [hbits, List.take_left' hmodeLength, hmode]
  have hcountRead : ofBits (((data.flatMap (bitsOf · 8)).drop 4).take 8) = length := by
    rw [hafterMode, List.take_left' hcountLength, hcount]
  have hfits : 12 + 8 * length ≤ (data.flatMap (bitsOf · 8)).length := by
    rw [hbits]
    simp only [List.length_append]
    omega
  have hend : ofBits (((data.flatMap (bitsOf · 8)).drop (12 + 8 * length)).take 4) = 0 := by
    rw [hafterBody, List.take_left' hterminatorLength, hterminator]
  simp only [parseByteMode, hcountRead, hread, hfits, hend, and_self, if_true, hafterCount]

theorem parseByteMode_encodePayload (h : 12 + 8 * payload.length ≤ 8 * spec.dataCodewords)
    (hlength : payload.length < 256) (hbytes : ∀ byte ∈ payload, byte < 256) :
    parseByteMode (encodePayload payload spec) = some payload := by
  obtain ⟨rest, hrest⟩ := bits_encodePayload h
  have hparts : (encodePayload payload spec).flatMap (bitsOf · 8) =
      bitsOf 4 4 ++ (bitsOf payload.length 8 ++
        (payload.flatMap (bitsOf · 8) ++ (bitsOf 0 4 ++ rest))) := by
    rw [hrest, segmentBits]
    simp only [List.append_assoc]
  have hcount : ofBits (bitsOf payload.length 8) = payload.length :=
    (ofBits_bitsOf _ _).trans (Nat.mod_eq_of_lt hlength)
  rw [parseByteMode_of_parts hparts length_bitsOf length_bitsOf length_payloadBits length_bitsOf
    (by decide) hcount (by decide)]
  congr 1
  refine List.ext_getElem (by rw [List.length_map, List.length_range]) fun i hi hpayload => ?_
  rw [List.getElem_map, List.getElem_range, chunk_flatMap (fun _ _ => length_bitsOf) _ hpayload,
    ofBits_bitsOf]
  exact Nat.mod_eq_of_lt (hbytes _ (List.getElem_mem hpayload))

variable {data : List Nat} {blocks blockLength : Nat}

def interleaved (data : List Nat) (blocks blockLength : Nat) : List Nat :=
  (List.range blockLength).flatMap fun i =>
    (List.range blocks).map fun block => data.getD (block * blockLength + i) 0

theorem length_interleaved : (interleaved data blocks blockLength).length = blocks * blockLength := by
  rw [interleaved, length_flatMap_of_width fun _ _ => by rw [List.length_map, List.length_range],
    List.length_range]

theorem interleaved_lt (h : ∀ codeword ∈ data, codeword < 256) {codeword : Nat}
    (hmem : codeword ∈ interleaved data blocks blockLength) : codeword < 256 := by
  obtain ⟨i, -, hmem⟩ := List.mem_flatMap.mp hmem
  obtain ⟨block, -, rfl⟩ := List.mem_map.mp hmem
  rw [List.getD_eq_getElem?_getD]
  cases hfound : data[block * blockLength + i]? with
  | none => decide
  | some found => exact h found (List.mem_of_getElem? hfound)

theorem chunk_eq_map (hlength : data.length = blockLength * blocks) {block : Nat}
    (hblock : block < blocks) :
    chunk blockLength data block =
      (List.range blockLength).map fun i => data.getD (block * blockLength + i) 0 := by
  have hfits : blockLength * block + blockLength ≤ data.length := by
    rw [hlength, ← Nat.mul_succ]
    exact Nat.mul_le_mul_left _ hblock
  have hwidth : (chunk blockLength data block).length = blockLength := by
    rw [chunk, List.length_take, List.length_drop]
    omega
  refine List.ext_getElem (by rw [hwidth, List.length_map, List.length_range]) fun i hi _ => ?_
  have hplace : blockLength * block + i < data.length := by omega
  simp only [chunk, List.getElem_take, List.getElem_drop, List.getElem_map, List.getElem_range]
  rw [Nat.mul_comm block, List.getD_eq_getElem _ _ hplace]

theorem deinterleave_interleaved (hlength : data.length = blocks * blockLength) :
    deinterleave (interleaved data blocks blockLength) blocks blockLength = data := by
  have hblock : ∀ block ∈ List.range blocks,
      ((List.range blockLength).map fun i =>
        (interleaved data blocks blockLength).getD (i * blocks + block) 0) =
      chunk blockLength data block := by
    intro block hblock
    have hlt := List.mem_range.mp hblock
    rw [chunk_eq_map (by rw [hlength, Nat.mul_comm]) hlt]
    refine List.map_congr_left fun i hi => ?_
    have hrow := List.mem_range.mp hi
    rw [List.getD_eq_getElem?_getD, interleaved,
      getElem?_flatMap (fun _ _ => by rw [List.length_map, List.length_range]) hlt]
    simp [hrow, hlt]
  rw [deinterleave, List.flatMap_congr hblock]
  exact flatMap_chunk (by rw [hlength, Nat.mul_comm])

theorem length_splitBlocks : (splitBlocks data blocks).length = blocks := by
  rw [splitBlocks, List.length_map, List.length_range]

theorem splitBlocks_eq (hlength : data.length = blocks * blockLength) (hblocks : 0 < blocks) :
    splitBlocks data blocks = (List.range blocks).map (chunk blockLength data) := by
  have hdiv : data.length / blocks = blockLength := by
    rw [hlength, Nat.mul_div_cancel_left _ hblocks]
  rw [splitBlocks, hdiv]
  exact List.map_congr_left fun i _ => by rw [chunk, Nat.mul_comm]

theorem length_of_mem_splitBlocks (hlength : data.length = blocks * blockLength) {block : List Nat}
    (h : block ∈ (List.range blocks).map (chunk blockLength data)) : block.length = blockLength := by
  obtain ⟨i, hi, rfl⟩ := List.mem_map.mp h
  rw [chunk_eq_map (by rw [hlength, Nat.mul_comm]) (List.mem_range.mp hi), List.length_map,
    List.length_range]

theorem foldl_max_of_eq {lengths : List Nat} (h : ∀ length ∈ lengths, length = blockLength)
    (hne : lengths ≠ []) : lengths.foldl max 0 = blockLength := by
  have hrest : ∀ rest : List Nat, (∀ length ∈ rest, length = blockLength) →
      rest.foldl max blockLength = blockLength := by
    intro rest hall
    induction rest with
    | nil => rfl
    | cons length rest ih =>
      rw [List.foldl_cons, hall length List.mem_cons_self, Nat.max_self]
      exact ih fun other hother => hall other (List.mem_cons_of_mem _ hother)
  cases lengths with
  | nil => exact (hne rfl).elim
  | cons length lengths =>
    rw [List.foldl_cons, h length List.mem_cons_self, Nat.zero_max]
    exact hrest lengths fun other hother => h other (List.mem_cons_of_mem _ hother)

def interleavedCorrection (data : List Nat) (spec : QrVersionSpec) (blockLength : Nat) : List Nat :=
  (List.range spec.eccCodewordsPerBlock).flatMap fun i =>
    (List.range spec.blocks).map fun block =>
      (reedSolomonRemainder (chunk blockLength data block) spec.eccCodewordsPerBlock).getD i 0

theorem addErrorCorrection_parts (hlength : data.length = spec.blocks * blockLength)
    (hblocks : 0 < spec.blocks) :
    addErrorCorrection data spec =
      interleaved data spec.blocks blockLength ++ interleavedCorrection data spec blockLength := by
  have hsplit := splitBlocks_eq hlength hblocks
  have hmax : ((splitBlocks data spec.blocks).map List.length).foldl max 0 = blockLength := by
    refine foldl_max_of_eq ?_ ?_
    · intro length hmem
      obtain ⟨block, hblock, rfl⟩ := List.mem_map.mp hmem
      rw [hsplit] at hblock
      exact length_of_mem_splitBlocks hlength hblock
    intro heq
    have hnone := congrArg List.length heq
    rw [List.length_map, length_splitBlocks] at hnone
    exact hblocks.ne' hnone
  have hrow : ∀ i ∈ List.range blockLength,
      ((splitBlocks data spec.blocks).filterMap fun block => block[i]?) =
        (List.range spec.blocks).map fun block => data.getD (block * blockLength + i) 0 := by
    intro i hi
    have hlt := List.mem_range.mp hi
    rw [hsplit, List.filterMap_map, ← List.filterMap_eq_map]
    refine List.filterMap_congr fun block hblock => ?_
    have hchunk := chunk_eq_map (hlength.trans (Nat.mul_comm ..)) (List.mem_range.mp hblock)
    simp only [Function.comp_apply, hchunk]
    simp [hlt]
  rw [addErrorCorrection]
  simp only [hmax]
  rw [List.flatMap_congr hrow, hsplit]
  simp only [List.map_map]
  rfl

theorem length_interleavedCorrection :
    (interleavedCorrection data spec blockLength).length =
      spec.blocks * spec.eccCodewordsPerBlock := by
  rw [interleavedCorrection, length_flatMap_of_width fun _ _ => by
    rw [List.length_map, List.length_range], List.length_range]

theorem addErrorCorrection_eq (hlength : data.length = spec.blocks * blockLength)
    (hblocks : 0 < spec.blocks) :
    ∃ correction, addErrorCorrection data spec =
        interleaved data spec.blocks blockLength ++ correction ∧
      correction.length = spec.blocks * spec.eccCodewordsPerBlock :=
  ⟨_, addErrorCorrection_parts hlength hblocks, length_interleavedCorrection⟩

end Segment

end MemeExpert.Frontend
