import Mathlib.Data.Nat.Digits.Lemmas

/-! A number is written in a base with the highest digit first and zeros in front up to a
width, and read back. As text the digits are those of hexadecimal numbers. -/

namespace Numerals

def write (base width n : Nat) : List Nat := (Nat.digitsAppend base width n).reverse

def read (base : Nat) (digits : List Nat) : Nat := Nat.ofDigits base digits.reverse

section Digits

variable {base width n : Nat} {digits : List Nat}

@[simp] theorem read_write : read base (write base width n) = n := by
  rw [read, write, List.reverse_reverse, Nat.digitsAppend, Nat.ofDigits_append_replicate_zero,
    Nat.ofDigits_digits]

theorem write_read (hbase : 1 < base) (hlength : digits.length = width)
    (hdigits : ∀ d ∈ digits, d < base) : write base width (read base digits) = digits := by
  have hreverse : digits.reverse ∈ {L : List Nat | L.length = width ∧ ∀ x ∈ L, x < base} := by
    refine ⟨?_, ?_⟩
    · rw [List.length_reverse, hlength]
    · intro d hd
      exact hdigits d (List.mem_reverse.mp hd)
  have hinverse := (Nat.setInvOn_digitsAppend_ofDigits hbase width).1 hreverse
  rw [write, read, hinverse, List.reverse_reverse]

theorem length_write (hbase : 1 < base) (hn : n < base ^ width) :
    (write base width n).length = width := by
  rw [write, List.length_reverse, Nat.length_digitsAppend hbase width hn]

theorem lt_of_mem_write (hbase : 1 < base) {d : Nat} (hd : d ∈ write base width n) : d < base := by
  rw [write, List.mem_reverse] at hd
  exact Nat.lt_of_mem_digitsAppend hbase width d hd

theorem read_lt (hbase : 1 < base) (hdigits : ∀ d ∈ digits, d < base) :
    read base digits < base ^ digits.length := by
  have hlt := Nat.ofDigits_lt_base_pow_length hbase (l := digits.reverse) (fun d hd =>
    hdigits d (List.mem_reverse.mp hd))
  rwa [List.length_reverse] at hlt

theorem write_ne_nil (hwidth : 0 < width) : write base width n ≠ [] := by
  intro h
  have hlength : (write base width n).length = 0 := by
    rw [h, List.length_nil]
  rw [write, List.length_reverse, Nat.digitsAppend, List.length_append, List.length_replicate]
    at hlength
  omega

theorem head_write_ne_zero (hbase : 1 < base) (hn : n ≠ 0) :
    ∃ d rest, write base 1 n = d :: rest ∧ d ≠ 0 ∧ d < base := by
  have hne : base.digits n ≠ [] := Nat.digits_ne_nil_iff_ne_zero.mpr hn
  have hone : 1 - (base.digits n).length = 0 := by
    have hpos := List.length_pos_of_ne_nil hne
    omega
  have hwrite : write base 1 n = (base.digits n).reverse := by
    rw [write, Nat.digitsAppend, hone, List.replicate_zero, List.append_nil]
  have hlast := Nat.getLast_digit_ne_zero base hn
  refine ⟨(base.digits n).getLast hne, (base.digits n).dropLast.reverse, ?_, hlast, ?_⟩
  · rw [hwrite]
    conv_lhs => rw [← List.dropLast_append_getLast hne]
    rw [List.reverse_append, List.reverse_singleton, List.singleton_append]
  · exact Nat.digits_lt_base hbase (List.getLast_mem hne)

end Digits

def digitOf (base : Nat) (c : Char) : Option Nat :=
  let value :=
    if '0' ≤ c ∧ c ≤ '9' then c.toNat - '0'.toNat
    else if 'a' ≤ c ∧ c ≤ 'f' then c.toNat - 'a'.toNat + 10
    else if 'A' ≤ c ∧ c ≤ 'F' then c.toNat - 'A'.toNat + 10
    else base
  if value < base then some value else none

def spell (base width n : Nat) : List Char := (write base width n).map Nat.digitChar

def readText (base : Nat) (text : List Char) : Option Nat :=
  (text.mapM (digitOf base)).map (read base)

/-- A number of exactly this many digits, and what follows it. -/
def takeNumber (base width : Nat) (text : List Char) : Option (Nat × List Char) :=
  if text.length < width then none
  else (readText base (text.take width)).map fun n => (n, text.drop width)

section Text

variable {base width n d : Nat} {text : List Char}

theorem digitOf_digitChar (hbase : base ≤ 16) (hd : d < base) :
    digitOf base (Nat.digitChar d) = some d := by
  have hvalue : ∀ d < 16, ∀ base ≤ 16, d < base → digitOf base (Nat.digitChar d) = some d := by
    decide +kernel
  exact hvalue d (hd.trans_le hbase) base hbase hd

theorem mapM_digitOf {digits : List Nat} (hbase : base ≤ 16) (hdigits : ∀ d ∈ digits, d < base) :
    (digits.map Nat.digitChar).mapM (digitOf base) = some digits := by
  induction digits with
  | nil => rfl
  | cons d digits ih =>
    have hd : digitOf base (Nat.digitChar d) = some d :=
      digitOf_digitChar hbase (hdigits d List.mem_cons_self)
    have hrest := ih fun e he => hdigits e (List.mem_cons_of_mem d he)
    rw [List.map_cons, List.mapM_cons, hd, hrest]
    rfl

@[simp] theorem readText_spell (hbase : 1 < base) (hsmall : base ≤ 16) :
    readText base (spell base width n) = some n := by
  have hdigits : ∀ d ∈ write base width n, d < base := fun d hd => lt_of_mem_write hbase hd
  rw [readText, spell, mapM_digitOf hsmall hdigits, Option.map_some, read_write]

theorem length_spell (hbase : 1 < base) (hn : n < base ^ width) :
    (spell base width n).length = width := by
  rw [spell, List.length_map, length_write hbase hn]

theorem takeNumber_spell (hbase : 1 < base) (hsmall : base ≤ 16) (hn : n < base ^ width)
    (rest : List Char) : takeNumber base width (spell base width n ++ rest) = some (n, rest) := by
  have hlength := length_spell hbase hn
  have hlong : ¬ (spell base width n ++ rest).length < width := by
    rw [List.length_append, hlength]
    omega
  rw [takeNumber, if_neg hlong, List.take_left' hlength, List.drop_left' hlength,
    readText_spell hbase hsmall]
  rfl

theorem digitOf_of_mem_spell (hbase : 1 < base) (hsmall : base ≤ 16) {c : Char}
    (hc : c ∈ spell base width n) : (digitOf base c).isSome := by
  obtain ⟨d, hd, rfl⟩ := List.mem_map.mp hc
  rw [digitOf_digitChar hsmall (lt_of_mem_write hbase hd)]
  rfl

end Text

end Numerals
