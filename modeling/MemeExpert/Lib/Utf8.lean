import Mathlib.Tactic.NormNum

/-! Encoding of a character, and the decoder that never fails: what is no character is read
as the replacement character, one for each cut or wrong sequence. -/

namespace Utf8

def encodeChar (c : Char) : List Nat :=
  let n := c.toNat
  if n < 0x80 then [n]
  else if n < 0x800 then [0xc0 + n / 64, 0x80 + n % 64]
  else if n < 0x10000 then [0xe0 + n / 4096, 0x80 + n / 64 % 64, 0x80 + n % 64]
  else [0xf0 + n / 262144, 0x80 + n / 4096 % 64, 0x80 + n / 64 % 64, 0x80 + n % 64]

def encode (text : List Char) : List Nat := text.flatMap encodeChar

def replacement : Char := '\ufffd'

/-- A sequence that has begun: `needed` bytes are missing, the next one within the bounds. -/
structure Pending where
  needed : Nat
  codePoint : Nat
  lower : Nat
  upper : Nat

def start (byte : Nat) : List Char × Option Pending :=
  if byte < 0x80 then ([Char.ofNat byte], none)
  else if 0xc2 ≤ byte ∧ byte ≤ 0xdf then ([], some ⟨1, byte - 0xc0, 0x80, 0xbf⟩)
  else if 0xe0 ≤ byte ∧ byte ≤ 0xef then
    ([], some ⟨2, byte - 0xe0, if byte = 0xe0 then 0xa0 else 0x80,
      if byte = 0xed then 0x9f else 0xbf⟩)
  else if 0xf0 ≤ byte ∧ byte ≤ 0xf4 then
    ([], some ⟨3, byte - 0xf0, if byte = 0xf0 then 0x90 else 0x80,
      if byte = 0xf4 then 0x8f else 0xbf⟩)
  else ([replacement], none)

/-- A byte out of bounds ends the sequence and is read again as a first byte. -/
def step (byte : Nat) : Option Pending → List Char × Option Pending
  | none => start byte
  | some pending =>
    if pending.lower ≤ byte ∧ byte ≤ pending.upper then
      let codePoint := pending.codePoint * 64 + (byte - 0x80)
      if pending.needed = 1 then ([Char.ofNat codePoint], none)
      else ([], some ⟨pending.needed - 1, codePoint, 0x80, 0xbf⟩)
    else (replacement :: (start byte).1, (start byte).2)

def decodeFrom (pending : Option Pending) : List Nat → List Char
  | [] => if pending.isSome then [replacement] else []
  | byte :: bytes => (step byte pending).1 ++ decodeFrom (step byte pending).2 bytes

def decode (bytes : List Nat) : List Char := decodeFrom none bytes

theorem toNat_bounds (c : Char) : (c.toNat < 0xd800 ∨ 0xdfff < c.toNat) ∧ c.toNat < 0x110000 := by
  obtain h | ⟨hlow, hhigh⟩ := c.valid
  · exact ⟨Or.inl h, lt_trans (show c.toNat < 0xd800 from h) (by norm_num)⟩
  · exact ⟨Or.inr hlow, hhigh⟩

section Steps

variable {byte codePoint lower upper : Nat} {bytes : List Nat}

theorem decodeFrom_last (h : lower ≤ byte ∧ byte ≤ upper) :
    decodeFrom (some ⟨1, codePoint, lower, upper⟩) (byte :: bytes) =
      Char.ofNat (codePoint * 64 + (byte - 0x80)) :: decodeFrom none bytes := by
  simp [decodeFrom, step, h]

theorem decodeFrom_more {needed : Nat} (h : lower ≤ byte ∧ byte ≤ upper) :
    decodeFrom (some ⟨needed + 2, codePoint, lower, upper⟩) (byte :: bytes) =
      decodeFrom (some ⟨needed + 1, codePoint * 64 + (byte - 0x80), 0x80, 0xbf⟩) bytes := by
  simp [decodeFrom, step, h]

end Steps

theorem decodeFrom_encodeChar (c : Char) (bytes : List Nat) :
    decodeFrom none (encodeChar c ++ bytes) = c :: decodeFrom none bytes := by
  obtain ⟨hsurrogate, hbound⟩ := toNat_bounds c
  have hchar : Char.ofNat c.toNat = c := Char.ofNat_toNat c
  unfold encodeChar
  generalize c.toNat = n at *
  simp only
  split
  · next hone =>
    simp [decodeFrom, step, start, hone, hchar]
  next hone =>
  split
  · next htwo =>
    have hlead : ¬0xc0 + n / 64 < 0x80 := by omega
    have hrange : 0xc2 ≤ 0xc0 + n / 64 ∧ 0xc0 + n / 64 ≤ 0xdf := by omega
    have hvalue : (0xc0 + n / 64 - 0xc0) * 64 + (0x80 + n % 64 - 0x80) = n := by omega
    have hnext : 0x80 ≤ 0x80 + n % 64 ∧ 0x80 + n % 64 ≤ 0xbf := by omega
    rw [List.cons_append, decodeFrom, step, start, if_neg hlead, if_pos hrange,
      List.nil_append, List.cons_append, List.nil_append, decodeFrom_last hnext, hvalue, hchar]
  next htwo =>
  split
  · next hthree =>
    have hlead : ¬0xe0 + n / 4096 < 0x80 := by omega
    have htwo : ¬(0xc2 ≤ 0xe0 + n / 4096 ∧ 0xe0 + n / 4096 ≤ 0xdf) := by omega
    have hrange : 0xe0 ≤ 0xe0 + n / 4096 ∧ 0xe0 + n / 4096 ≤ 0xef := by omega
    have hsecond : (if 0xe0 + n / 4096 = 0xe0 then 0xa0 else 0x80) ≤ 0x80 + n / 64 % 64 ∧
        0x80 + n / 64 % 64 ≤ (if 0xe0 + n / 4096 = 0xed then 0x9f else 0xbf) := by
      constructor
      · split <;> omega
      · split <;> omega
    have hthird : 0x80 ≤ 0x80 + n % 64 ∧ 0x80 + n % 64 ≤ 0xbf := by omega
    have hvalue : ((0xe0 + n / 4096 - 0xe0) * 64 + (0x80 + n / 64 % 64 - 0x80)) * 64 +
        (0x80 + n % 64 - 0x80) = n := by omega
    rw [List.cons_append, decodeFrom, step, start, if_neg hlead, if_neg htwo, if_pos hrange,
      List.nil_append, List.cons_append, decodeFrom_more hsecond, List.cons_append,
      List.nil_append, decodeFrom_last hthird, hvalue, hchar]
  · next hthree =>
    have hlead : ¬0xf0 + n / 262144 < 0x80 := by omega
    have htwo : ¬(0xc2 ≤ 0xf0 + n / 262144 ∧ 0xf0 + n / 262144 ≤ 0xdf) := by omega
    have hthree : ¬(0xe0 ≤ 0xf0 + n / 262144 ∧ 0xf0 + n / 262144 ≤ 0xef) := by omega
    have hrange : 0xf0 ≤ 0xf0 + n / 262144 ∧ 0xf0 + n / 262144 ≤ 0xf4 := by omega
    have hsecond :
        (if 0xf0 + n / 262144 = 0xf0 then 0x90 else 0x80) ≤ 0x80 + n / 4096 % 64 ∧
          0x80 + n / 4096 % 64 ≤ (if 0xf0 + n / 262144 = 0xf4 then 0x8f else 0xbf) := by
      constructor
      · split <;> omega
      · split <;> omega
    have hthird : 0x80 ≤ 0x80 + n / 64 % 64 ∧ 0x80 + n / 64 % 64 ≤ 0xbf := by omega
    have hfourth : 0x80 ≤ 0x80 + n % 64 ∧ 0x80 + n % 64 ≤ 0xbf := by omega
    have hvalue : (((0xf0 + n / 262144 - 0xf0) * 64 + (0x80 + n / 4096 % 64 - 0x80)) * 64 +
        (0x80 + n / 64 % 64 - 0x80)) * 64 + (0x80 + n % 64 - 0x80) = n := by omega
    rw [List.cons_append, decodeFrom, step, start, if_neg hlead, if_neg htwo, if_neg hthree,
      if_pos hrange, List.nil_append, List.cons_append, decodeFrom_more hsecond,
      List.cons_append, decodeFrom_more hthird, List.cons_append, List.nil_append,
      decodeFrom_last hfourth, hvalue, hchar]

theorem decode_encode (text : List Char) : decode (encode text) = text := by
  unfold decode encode
  induction text with
  | nil => rfl
  | cons c text ih => rw [List.flatMap_cons, decodeFrom_encodeChar, ih]

end Utf8
