import Mathlib.Data.List.DropRight
import MemeExpert.Lib.Numerals

/-! Three bytes are four digits of base 64, padded to whole groups, with the alphabet for URLs. -/

namespace Base64

open Numerals

def toSextets : List Nat → List Nat
  | a :: b :: c :: rest => write 64 4 (read 256 [a, b, c]) ++ toSextets rest
  | [a, b] => write 64 3 (read 256 [a, b] * 4)
  | [a] => write 64 2 (read 256 [a] * 16)
  | [] => []

/-- The fill of the last group is not looked at. -/
def ofSextets : List Nat → Option (List Nat)
  | a :: b :: c :: d :: rest =>
    (ofSextets rest).map fun bytes => write 256 3 (read 64 [a, b, c, d]) ++ bytes
  | [a, b, c] => some (write 256 2 (read 64 [a, b, c] / 4))
  | [a, b] => some (write 256 1 (read 64 [a, b] / 16))
  | [_] => none
  | [] => some []

/-- The sextets that a number of bytes takes. -/
def sextetCount (count : Nat) : Nat := (4 * count + 2) / 3

section Sextets

variable {bytes sextets : List Nat} {n : Nat}

theorem lt_pow_of_bytes (hbytes : ∀ b ∈ bytes, b < 256) (hlength : bytes.length = n) :
    read 256 bytes < 256 ^ n := by
  have hlt : read 256 bytes < 256 ^ bytes.length := read_lt (by decide) hbytes
  rwa [hlength] at hlt

theorem exists_four (hlength : sextets.length = 4) : ∃ a b c d, sextets = [a, b, c, d] := by
  match sextets, hlength with
  | [a, b, c, d], _ => exact ⟨a, b, c, d, rfl⟩

theorem exists_three (hlength : sextets.length = 3) : ∃ a b c, sextets = [a, b, c] := by
  match sextets, hlength with
  | [a, b, c], _ => exact ⟨a, b, c, rfl⟩

theorem exists_two (hlength : sextets.length = 2) : ∃ a b, sextets = [a, b] := by
  match sextets, hlength with
  | [a, b], _ => exact ⟨a, b, rfl⟩

theorem ofSextets_toSextets (hbytes : ∀ b ∈ bytes, b < 256) :
    ofSextets (toSextets bytes) = some bytes := by
  induction bytes using toSextets.induct with
  | case1 a b c rest ih =>
    have hgroup : ∀ x ∈ [a, b, c], x < 256 := by
      intro x hx
      apply hbytes
      simp only [List.mem_cons, List.not_mem_nil, or_false] at hx ⊢
      tauto
    have hrest : ∀ x ∈ rest, x < 256 := by
      intro x hx
      apply hbytes
      simp only [List.mem_cons, hx, or_true]
    have hlt : read 256 [a, b, c] < 256 ^ 3 := lt_pow_of_bytes hgroup rfl
    have hlength : (write 64 4 (read 256 [a, b, c])).length = 4 :=
      length_write (by decide) (hlt.trans_le (by decide))
    obtain ⟨p, q, r, s, hwrite⟩ := exists_four hlength
    have hread : read 64 [p, q, r, s] = read 256 [a, b, c] := by
      rw [← hwrite, read_write]
    rw [toSextets, hwrite]
    simp only [List.cons_append, List.nil_append, ofSextets]
    have hback : write 256 3 (read 256 [a, b, c]) = [a, b, c] := write_read (by decide) rfl hgroup
    rw [ih hrest, Option.map_some, hread, hback]
    rfl
  | case2 a b =>
    have hlt : read 256 [a, b] < 256 ^ 2 := lt_pow_of_bytes hbytes rfl
    have hlength : (write 64 3 (read 256 [a, b] * 4)).length = 3 :=
      length_write (by decide) (by omega)
    obtain ⟨p, q, r, hwrite⟩ := exists_three hlength
    have hread : read 64 [p, q, r] = read 256 [a, b] * 4 := by
      rw [← hwrite, read_write]
    have hback : write 256 2 (read 256 [a, b]) = [a, b] := write_read (by decide) rfl hbytes
    rw [toSextets, hwrite, ofSextets, hread, Nat.mul_div_cancel _ (by decide), hback]
  | case3 a =>
    have hlt : read 256 [a] < 256 ^ 1 := lt_pow_of_bytes hbytes rfl
    have hlength : (write 64 2 (read 256 [a] * 16)).length = 2 :=
      length_write (by decide) (by omega)
    obtain ⟨p, q, hwrite⟩ := exists_two hlength
    have hread : read 64 [p, q] = read 256 [a] * 16 := by
      rw [← hwrite, read_write]
    have hback : write 256 1 (read 256 [a]) = [a] := write_read (by decide) rfl hbytes
    rw [toSextets, hwrite, ofSextets, hread, Nat.mul_div_cancel _ (by decide), hback]
  | case4 => rfl

theorem length_toSextets (hbytes : ∀ b ∈ bytes, b < 256) :
    (toSextets bytes).length = sextetCount bytes.length := by
  induction bytes using toSextets.induct with
  | case1 a b c rest ih =>
    have hgroup : ∀ x ∈ [a, b, c], x < 256 := by
      intro x hx
      apply hbytes
      simp only [List.mem_cons, List.not_mem_nil, or_false] at hx ⊢
      tauto
    have hrest : ∀ x ∈ rest, x < 256 := by
      intro x hx
      apply hbytes
      simp only [List.mem_cons, hx, or_true]
    have hlt : read 256 [a, b, c] < 256 ^ 3 := lt_pow_of_bytes hgroup rfl
    rw [toSextets, List.length_append, ih hrest,
      length_write (by decide) (hlt.trans_le (by decide))]
    simp only [sextetCount, List.length_cons]
    omega
  | case2 a b =>
    have hlt : read 256 [a, b] < 256 ^ 2 := lt_pow_of_bytes hbytes rfl
    rw [toSextets, length_write (by decide) (by omega)]
    simp [sextetCount]
  | case3 a =>
    have hlt : read 256 [a] < 256 ^ 1 := lt_pow_of_bytes hbytes rfl
    rw [toSextets, length_write (by decide) (by omega)]
    simp [sextetCount]
  | case4 => rfl

theorem lt_of_mem_toSextets {s : Nat} (hs : s ∈ toSextets bytes) : s < 64 := by
  induction bytes using toSextets.induct with
  | case1 a b c rest ih =>
    rw [toSextets, List.mem_append] at hs
    rcases hs with hs | hs
    · exact lt_of_mem_write (by decide) hs
    · exact ih hs
  | case2 a b => exact lt_of_mem_write (by decide) hs
  | case3 a => exact lt_of_mem_write (by decide) hs
  | case4 => cases hs

end Sextets

def symbol (sextet : Nat) : Char :=
  if sextet < 26 then Char.ofNat ('A'.toNat + sextet)
  else if sextet < 52 then Char.ofNat ('a'.toNat + (sextet - 26))
  else if sextet < 62 then Char.ofNat ('0'.toNat + (sextet - 52))
  else if sextet = 62 then '-'
  else '_'

/-- The letters of the alphabet that is not for URLs are read too. -/
def sextetOf (c : Char) : Option Nat :=
  if 'A' ≤ c ∧ c ≤ 'Z' then some (c.toNat - 'A'.toNat)
  else if 'a' ≤ c ∧ c ≤ 'z' then some (c.toNat - 'a'.toNat + 26)
  else if '0' ≤ c ∧ c ≤ '9' then some (c.toNat - '0'.toNat + 52)
  else if c = '-' ∨ c = '+' then some 62
  else if c = '_' ∨ c = '/' then some 63
  else none

theorem symbol_spec {s : Nat} (hs : s < 64) : sextetOf (symbol s) = some s ∧ symbol s ≠ '=' := by
  have hall : ∀ s < 64, sextetOf (symbol s) = some s ∧ symbol s ≠ '=' := by
    decide +kernel
  exact hall s hs

theorem mapM_symbol {sextets : List Nat} (hsextets : ∀ s ∈ sextets, s < 64) :
    (sextets.map symbol).mapM sextetOf = some sextets := by
  induction sextets with
  | nil => rfl
  | cons s sextets ih =>
    have hs := (symbol_spec (hsextets s List.mem_cons_self)).1
    have hrest := ih fun t ht => hsextets t (List.mem_cons_of_mem s ht)
    rw [List.map_cons, List.mapM_cons, hs, hrest]
    rfl

/-- What the padding fills up. -/
def missing (length : Nat) : Nat := (4 - length % 4) % 4

/-- Without the padding. -/
def encode (bytes : List Nat) : List Char := (toSextets bytes).map symbol

/-- Only padded text of the alphabet is read. -/
def decode (text : List Char) : Option (List Nat) :=
  let data := text.rdropWhile (· = '=')
  if text.length % 4 ≠ 0 ∨ text.length - data.length > 2 then none
  else (data.mapM sextetOf).bind ofSextets

def decodeUnpadded (text : List Char) : Option (List Nat) :=
  decode (text ++ List.replicate (missing text.length) '=')

variable {bytes : List Nat} {text : List Char}

theorem rdropWhile_padding {count : Nat} (h : ∀ c ∈ text, c ≠ '=') :
    (text ++ List.replicate count '=').rdropWhile (· = '=') = text := by
  induction count with
  | zero =>
    rw [List.replicate_zero, List.append_nil, List.rdropWhile_eq_self_iff]
    intro hne
    have hlast := h _ (List.getLast_mem hne)
    simpa using hlast
  | succ count ih =>
    rw [List.replicate_succ', ← List.append_assoc, List.rdropWhile_concat_pos _ _ _ (by decide), ih]

theorem decodeUnpadded_encode (hbytes : ∀ b ∈ bytes, b < 256) :
    decodeUnpadded (encode bytes) = some bytes := by
  have hsextets : ∀ s ∈ toSextets bytes, s < 64 := fun s hs => lt_of_mem_toSextets hs
  have hpad : ∀ c ∈ encode bytes, c ≠ '=' := by
    intro c hc
    obtain ⟨s, hs, rfl⟩ := List.mem_map.mp hc
    exact (symbol_spec (hsextets s hs)).2
  have hlength : (encode bytes).length = sextetCount bytes.length := by
    rw [encode, List.length_map, length_toSextets hbytes]
  have hfill : missing (sextetCount bytes.length) ≤ 2 := by
    simp only [missing, sextetCount]
    omega
  have hwhole : (sextetCount bytes.length + missing (sextetCount bytes.length)) % 4 = 0 := by
    simp only [missing]
    omega
  have hread : ¬ ((encode bytes ++ List.replicate (missing (encode bytes).length) '=').length % 4
        ≠ 0 ∨ (encode bytes ++ List.replicate (missing (encode bytes).length) '=').length -
        (encode bytes).length > 2) := by
    rw [List.length_append, List.length_replicate, hlength, hwhole]
    omega
  rw [decodeUnpadded, decode, rdropWhile_padding hpad, if_neg hread, encode, mapM_symbol hsextets]
  exact ofSextets_toSextets hbytes

end Base64
