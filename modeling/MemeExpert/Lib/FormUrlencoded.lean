import MemeExpert.Lib.Utf8

/-! Pairs of texts are written as bytes of ASCII, with everything but a few characters
escaped, and read back from any text whatever. -/

namespace FormUrlencoded

abbrev Text := List Char

abbrev Bytes := List Nat

def isPlain (byte : Nat) : Bool :=
  byte = 0x2a ∨ byte = 0x2d ∨ byte = 0x2e ∨ byte = 0x5f ∨ (0x30 ≤ byte ∧ byte ≤ 0x39) ∨
    (0x41 ≤ byte ∧ byte ≤ 0x5a) ∨ (0x61 ≤ byte ∧ byte ≤ 0x7a)

def hexDigit (n : Nat) : Nat := if n < 10 then 0x30 + n else 0x37 + n

def escapeByte (byte : Nat) : Bytes :=
  if byte = 0x20 then [0x2b]
  else if isPlain byte then [byte]
  else [0x25, hexDigit (byte / 16), hexDigit (byte % 16)]

def escape (text : Text) : Bytes := (Utf8.encode text).flatMap escapeByte

def writePair (pair : Text × Text) : Bytes := escape pair.1 ++ 0x3d :: escape pair.2

def serialize (pairs : List (Text × Text)) : Text :=
  ([0x26].intercalate (pairs.map writePair)).map Char.ofNat

def hexValue (byte : Nat) : Option Nat :=
  if 0x30 ≤ byte ∧ byte ≤ 0x39 then some (byte - 0x30)
  else if 0x41 ≤ byte ∧ byte ≤ 0x46 then some (byte - 0x37)
  else if 0x61 ≤ byte ∧ byte ≤ 0x66 then some (byte - 0x57)
  else none

/-- A percent sign without two hexadecimal digits stands for itself. -/
def percentDecode : Bytes → Bytes
  | [] => []
  | [byte] => [byte]
  | [byte, next] => [byte, next]
  | byte :: high :: low :: rest =>
    if byte = 0x25 then
      match hexValue high, hexValue low with
      | some h, some l => (16 * h + l) :: percentDecode rest
      | _, _ => byte :: percentDecode (high :: low :: rest)
    else byte :: percentDecode (high :: low :: rest)

/-- A plus sign stands for a blank. -/
def plusToSpace (bytes : Bytes) : Bytes := bytes.map fun byte => if byte = 0x2b then 0x20 else byte

def unescape (bytes : Bytes) : Text := Utf8.decode (percentDecode (plusToSpace bytes))

def readPair (bytes : Bytes) : Text × Text :=
  (unescape (bytes.takeWhile (· ≠ 0x3d)), unescape (bytes.dropWhile (· ≠ 0x3d)).tail)

def parse (text : Text) : List (Text × Text) :=
  (((Utf8.encode text).splitOn 0x26).filter (· ≠ [])).map readPair

theorem percentDecode_cons_of_ne {byte : Nat} (h : byte ≠ 0x25) (rest : Bytes) :
    percentDecode (byte :: rest) = byte :: percentDecode rest := by
  match rest with
  | [] => rfl
  | [_] => rfl
  | _ :: _ :: _ => rw [percentDecode, if_neg h]

theorem hexDigit_bounds {n : Nat} (h : n < 16) :
    0x30 ≤ hexDigit n ∧ hexDigit n ≤ 0x46 ∧ hexDigit n ≠ 0x3d := by
  unfold hexDigit
  split <;> omega

theorem hexValue_hexDigit {n : Nat} (h : n < 16) : hexValue (hexDigit n) = some n := by
  unfold hexDigit hexValue
  split
  · rw [if_pos (by omega)]
    congr 1
    omega
  · rw [if_neg (by omega), if_pos (by omega)]
    congr 1
    omega

theorem isPlain_bounds {byte : Nat} (h : isPlain byte = true) :
    byte < 0x80 ∧ byte ≠ 0x25 ∧ byte ≠ 0x26 ∧ byte ≠ 0x2b ∧ byte ≠ 0x3d := by
  simp only [isPlain, decide_eq_true_eq] at h
  omega

theorem plusToSpace_append (first second : Bytes) :
    plusToSpace (first ++ second) = plusToSpace first ++ plusToSpace second :=
  List.map_append

theorem percentDecode_escapeByte {byte : Nat} (h : byte < 256) (rest : Bytes) :
    percentDecode (plusToSpace (escapeByte byte) ++ rest) = byte :: percentDecode rest := by
  unfold escapeByte
  split
  · next hspace =>
    rw [hspace]
    exact percentDecode_cons_of_ne (by decide) rest
  split
  · next hplain =>
    obtain ⟨-, hpercent, -, hplus, -⟩ := isPlain_bounds hplain
    have hkeep : plusToSpace [byte] = [byte] := by simp [plusToSpace, hplus]
    rw [hkeep]
    exact percentDecode_cons_of_ne hpercent rest
  have hhigh := hexDigit_bounds (show byte / 16 < 16 by omega)
  have hlow := hexDigit_bounds (show byte % 16 < 16 by omega)
  have hkeep : plusToSpace [0x25, hexDigit (byte / 16), hexDigit (byte % 16)] =
      [0x25, hexDigit (byte / 16), hexDigit (byte % 16)] := by
    have hhighNe : hexDigit (byte / 16) ≠ 0x2b := by omega
    have hlowNe : hexDigit (byte % 16) ≠ 0x2b := by omega
    simp [plusToSpace, hhighNe, hlowNe]
  have hvalue : 16 * (byte / 16) + byte % 16 = byte := by omega
  rw [hkeep]
  simp only [List.cons_append, List.nil_append, percentDecode, if_true,
    hexValue_hexDigit (show byte / 16 < 16 by omega),
    hexValue_hexDigit (show byte % 16 < 16 by omega), hvalue]

theorem percentDecode_escapeBytes {bytes : Bytes} (h : ∀ byte ∈ bytes, byte < 256) :
    percentDecode (plusToSpace (bytes.flatMap escapeByte)) = bytes := by
  induction bytes with
  | nil => rfl
  | cons byte bytes ih =>
    rw [List.forall_mem_cons] at h
    rw [List.flatMap_cons, plusToSpace_append, percentDecode_escapeByte h.1, ih h.2]

theorem encode_lt (text : Text) : ∀ byte ∈ Utf8.encode text, byte < 256 := by
  intro byte hbyte
  obtain ⟨c, -, hc⟩ := List.mem_flatMap.mp hbyte
  have hbounds := (Utf8.toNat_bounds c).2
  unfold Utf8.encodeChar at hc
  simp only at hc
  split at hc
  · simp only [List.mem_singleton] at hc
    omega
  split at hc
  · simp only [List.mem_cons, List.not_mem_nil, or_false] at hc
    omega
  split at hc
  · simp only [List.mem_cons, List.not_mem_nil, or_false] at hc
    omega
  · simp only [List.mem_cons, List.not_mem_nil, or_false] at hc
    omega

theorem unescape_escape (text : Text) : unescape (escape text) = text := by
  rw [unescape, escape, percentDecode_escapeBytes (encode_lt text), Utf8.decode_encode]

theorem escape_bounds (text : Text) :
    ∀ byte ∈ escape text, byte < 0x80 ∧ byte ≠ 0x26 ∧ byte ≠ 0x3d := by
  intro byte hbyte
  obtain ⟨source, hsource, hbyte⟩ := List.mem_flatMap.mp hbyte
  have hlt := encode_lt text source hsource
  have hhigh := hexDigit_bounds (show source / 16 < 16 by omega)
  have hlow := hexDigit_bounds (show source % 16 < 16 by omega)
  unfold escapeByte at hbyte
  split at hbyte
  · rw [List.mem_singleton] at hbyte
    omega
  split at hbyte
  · next hplain =>
    obtain ⟨hascii, -, hampersand, -, hequals⟩ := isPlain_bounds hplain
    rw [List.mem_singleton] at hbyte
    rw [hbyte]
    exact ⟨hascii, hampersand, hequals⟩
  · simp only [List.mem_cons, List.not_mem_nil, or_false] at hbyte
    omega

theorem readPair_writePair (pair : Text × Text) : readPair (writePair pair) = pair := by
  have hname : ∀ byte ∈ escape pair.1, decide (byte ≠ 0x3d) = true :=
    fun byte hbyte => decide_eq_true (escape_bounds pair.1 byte hbyte).2.2
  rw [readPair, writePair, List.takeWhile_append_of_pos hname, List.dropWhile_append_of_pos hname,
    List.takeWhile_cons_of_neg (by decide), List.dropWhile_cons_of_neg (by decide),
    List.append_nil, List.tail_cons, unescape_escape, unescape_escape]

theorem writePair_bounds (pair : Text × Text) :
    ∀ byte ∈ writePair pair, byte < 0x80 ∧ byte ≠ 0x26 := by
  intro byte hbyte
  rw [writePair, List.mem_append, List.mem_cons] at hbyte
  obtain hbyte | rfl | hbyte := hbyte
  · exact ⟨(escape_bounds pair.1 byte hbyte).1, (escape_bounds pair.1 byte hbyte).2.1⟩
  · decide
  · exact ⟨(escape_bounds pair.2 byte hbyte).1, (escape_bounds pair.2 byte hbyte).2.1⟩

theorem encode_ascii {bytes : Bytes} (h : ∀ byte ∈ bytes, byte < 0x80) :
    Utf8.encode (bytes.map Char.ofNat) = bytes := by
  induction bytes with
  | nil => rfl
  | cons byte bytes ih =>
    rw [List.forall_mem_cons] at h
    have hvalid : byte.isValidChar := Or.inl (by omega)
    have hnat : (Char.ofNat byte).toNat = byte := by
      unfold Char.ofNat
      rw [dif_pos hvalid]
      rfl
    have hone : Utf8.encodeChar (Char.ofNat byte) = [byte] := by
      simp [Utf8.encodeChar, hnat, h.1]
    have hrest := ih h.2
    unfold Utf8.encode at hrest ⊢
    rw [List.map_cons, List.flatMap_cons, hone, hrest, List.singleton_append]

theorem mem_intercalate {separator : Bytes} {parts : List Bytes} {byte : Nat} :
    byte ∈ separator.intercalate parts → byte ∈ separator ∨ ∃ part ∈ parts, byte ∈ part := by
  induction parts with
  | nil => simp
  | cons part parts ih =>
    intro hbyte
    cases parts with
    | nil =>
      rw [List.intercalate_singleton] at hbyte
      exact Or.inr ⟨part, List.mem_cons_self, hbyte⟩
    | cons next rest =>
      rw [List.intercalate_cons_cons, List.mem_append, List.mem_append] at hbyte
      obtain (hbyte | hbyte) | hbyte := hbyte
      · exact Or.inr ⟨part, List.mem_cons_self, hbyte⟩
      · exact Or.inl hbyte
      obtain hbyte | ⟨other, hother, hbyte⟩ := ih hbyte
      · exact Or.inl hbyte
      · exact Or.inr ⟨other, List.mem_cons_of_mem _ hother, hbyte⟩

theorem intercalate_bounds (pairs : List (Text × Text)) :
    ∀ byte ∈ [0x26].intercalate (pairs.map writePair), byte < 0x80 := by
  intro byte hbyte
  obtain hbyte | ⟨part, hpart, hbyte⟩ := mem_intercalate hbyte
  · rw [List.mem_singleton] at hbyte
    omega
  · obtain ⟨pair, -, rfl⟩ := List.mem_map.mp hpart
    exact (writePair_bounds pair byte hbyte).1

theorem parse_serialize (pairs : List (Text × Text)) : parse (serialize pairs) = pairs := by
  rw [parse, serialize, encode_ascii (intercalate_bounds pairs)]
  obtain rfl | hpairs := eq_or_ne pairs []
  · rfl
  have hsplit : ([0x26].intercalate (pairs.map writePair)).splitOn 0x26 =
      pairs.map writePair := by
    apply List.splitOn_intercalate
    · intro part hpart hampersand
      obtain ⟨pair, -, rfl⟩ := List.mem_map.mp hpart
      exact (writePair_bounds pair 0x26 hampersand).2 rfl
    · simpa using hpairs
  have hall : (pairs.map writePair).filter (· ≠ []) = pairs.map writePair := by
    rw [List.filter_eq_self]
    intro part hpart
    obtain ⟨pair, -, rfl⟩ := List.mem_map.mp hpart
    simp [writePair]
  rw [hsplit, hall, List.map_map]
  calc pairs.map (readPair ∘ writePair)
      = pairs.map id := List.map_congr_left fun pair _ => readPair_writePair pair
    _ = pairs := List.map_id pairs

end FormUrlencoded
