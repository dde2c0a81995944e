import Mathlib.Data.List.Basic
import Mathlib.Data.Nat.Bitwise
import Mathlib.Tactic.Linarith
import Mathlib.Tactic.Ring

/-! Numbers are written with their highest bit first, and lists are cut into chunks of one
width. -/

namespace Bits

universe u v

section Numbers

/-- The lowest `length` bits of a number, the highest of them first. -/
def bitsOf (value : Nat) : Nat → List Nat
  | 0 => []
  | i + 1 => ((value >>> i) &&& 1) :: bitsOf value i

def ofBits (bits : List Nat) : Nat := bits.foldl (fun acc bit => (acc <<< 1) ||| bit) 0

variable {value length acc bit : Nat} {bits : List Nat}

@[simp] theorem length_bitsOf : (bitsOf value length).length = length := by
  induction length with
  | zero => rfl
  | succ i ih => rw [bitsOf, List.length_cons, ih]

theorem bit_eq_mod : (value >>> length) &&& 1 = value / 2 ^ length % 2 := by
  rw [Nat.and_one_is_mod, Nat.shiftRight_eq_div_pow]

theorem bit_le_one (h : bit ∈ bitsOf value length) : bit ≤ 1 := by
  induction length with
  | zero => cases h
  | succ i ih =>
    rcases List.mem_cons.mp h with rfl | h
    · exact Nat.and_le_right
    · exact ih h

theorem shiftLeft_or_bit (h : bit ≤ 1) : (acc <<< 1) ||| bit = 2 * acc + bit := by
  rw [Nat.shiftLeft_eq, Nat.pow_one, Nat.mul_comm]
  exact (Nat.two_pow_add_eq_or_of_lt (i := 1) (by omega) acc).symm

theorem foldl_bits (h : ∀ bit ∈ bits, bit ≤ 1) :
    bits.foldl (fun acc bit => (acc <<< 1) ||| bit) acc = acc * 2 ^ bits.length + ofBits bits := by
  induction bits generalizing acc with
  | nil => simp [ofBits]
  | cons bit bits ih =>
    have hbit := h bit List.mem_cons_self
    have hrest : ∀ other ∈ bits, other ≤ 1 := fun other hother =>
      h other (List.mem_cons_of_mem _ hother)
    rw [ofBits, List.foldl_cons, List.foldl_cons, ih hrest, ih hrest, shiftLeft_or_bit hbit,
      shiftLeft_or_bit hbit, List.length_cons, Nat.pow_succ]
    ring

theorem ofBits_cons (hbit : bit ≤ 1) (h : ∀ bit ∈ bits, bit ≤ 1) :
    ofBits (bit :: bits) = bit * 2 ^ bits.length + ofBits bits := by
  rw [ofBits, List.foldl_cons, foldl_bits h, shiftLeft_or_bit hbit, Nat.mul_zero, Nat.zero_add]

theorem ofBits_lt (h : ∀ bit ∈ bits, bit ≤ 1) : ofBits bits < 2 ^ bits.length := by
  induction bits with
  | nil => exact Nat.one_pos
  | cons bit bits ih =>
    have hbit := h bit List.mem_cons_self
    have hrest : ∀ other ∈ bits, other ≤ 1 := fun other hother =>
      h other (List.mem_cons_of_mem _ hother)
    have hlt := ih hrest
    rw [ofBits_cons hbit hrest, List.length_cons, Nat.pow_succ]
    nlinarith

theorem ofBits_bitsOf (value length : Nat) : ofBits (bitsOf value length) = value % 2 ^ length := by
  induction length with
  | zero => rw [Nat.pow_zero, Nat.mod_one]; rfl
  | succ i ih =>
    rw [bitsOf, ofBits_cons Nat.and_le_right fun _ => bit_le_one, ih, length_bitsOf, bit_eq_mod,
      Nat.mod_pow_succ]
    ring

theorem bitsOf_add_mul {high place : Nat} (h : length ≤ place) :
    bitsOf (high * 2 ^ place + value) length = bitsOf value length := by
  induction length with
  | zero => rfl
  | succ i ih =>
    have hplace : high * 2 ^ place = 2 ^ i * (2 * (high * 2 ^ (place - i - 1))) := by
      have hpow : 2 ^ place = 2 ^ i * 2 * 2 ^ (place - i - 1) := by
        rw [← Nat.pow_succ, ← Nat.pow_add]
        congr 1
        omega
      rw [hpow]
      ring
    have hbit : (high * 2 ^ place + value) / 2 ^ i % 2 = value / 2 ^ i % 2 := by
      rw [hplace, Nat.add_comm, Nat.add_mul_div_left _ _ (Nat.two_pow_pos i),
        Nat.add_mul_mod_self_left]
    rw [bitsOf, bitsOf, bit_eq_mod, bit_eq_mod, hbit, ih (Nat.le_of_succ_le h)]

theorem bitsOf_ofBits (h : ∀ bit ∈ bits, bit ≤ 1) : bitsOf (ofBits bits) bits.length = bits := by
  induction bits with
  | nil => rfl
  | cons bit bits ih =>
    have hbit := h bit List.mem_cons_self
    have hrest : ∀ other ∈ bits, other ≤ 1 := fun other hother =>
      h other (List.mem_cons_of_mem _ hother)
    have hlow : ofBits bits / 2 ^ bits.length = 0 := Nat.div_eq_of_lt (ofBits_lt hrest)
    rw [ofBits_cons hbit hrest, List.length_cons, bitsOf, bitsOf_add_mul (Nat.le_refl _), ih hrest,
      bit_eq_mod, Nat.mul_comm, Nat.mul_add_div (Nat.two_pow_pos _), hlow]
    congr 1
    omega

variable {α : Type u} {β : Type v} {width count index : Nat} {items : List α}

/-- The chunk of the given width at an index. -/
def chunk (width : Nat) (items : List α) (index : Nat) : List α :=
  (items.drop (width * index)).take width

theorem length_flatMap_of_width {f : α → List β} (h : ∀ item ∈ items, (f item).length = width) :
    (items.flatMap f).length = width * items.length := by
  induction items with
  | nil => rfl
  | cons item items ih =>
    rw [List.flatMap_cons, List.length_append, h item List.mem_cons_self,
      ih fun other hother => h other (List.mem_cons_of_mem _ hother), List.length_cons,
      Nat.mul_succ, Nat.add_comm]

theorem chunk_succ : chunk width items (index + 1) = chunk width (items.drop width) index := by
  rw [chunk, chunk, List.drop_drop, Nat.mul_succ, Nat.add_comm]

theorem flatMap_chunk (h : items.length = width * count) :
    (List.range count).flatMap (chunk width items) = items := by
  induction count generalizing items with
  | zero =>
    rw [Nat.mul_zero] at h
    rw [List.length_eq_zero_iff.mp h]
    rfl
  | succ count ih =>
    have hrest : (items.drop width).length = width * count := by
      rw [List.length_drop, h, Nat.mul_succ, Nat.add_sub_cancel]
    rw [List.range_succ_eq_map, List.flatMap_cons, List.flatMap_map]
    calc chunk width items 0 ++ (List.range count).flatMap (fun i => chunk width items (i + 1))
        = items.take width ++ (List.range count).flatMap (chunk width (items.drop width)) := by
          simp only [chunk_succ]
          rfl
      _ = items.take width ++ items.drop width := by rw [ih hrest]
      _ = items := List.take_append_drop ..

theorem chunk_flatMap {f : α → List β} (hwidth : ∀ item ∈ items, (f item).length = width)
    (rest : List β) (hindex : index < items.length) :
    chunk width (items.flatMap f ++ rest) index = f items[index] := by
  induction items generalizing index with
  | nil => exact (Nat.not_lt_zero _ hindex).elim
  | cons item items ih =>
    have hitem := hwidth item List.mem_cons_self
    rw [List.flatMap_cons, List.append_assoc]
    cases index with
    | zero =>
      rw [chunk, Nat.mul_zero, List.drop_zero, ← hitem, List.take_left]
      rfl
    | succ index =>
      rw [chunk_succ, ← hitem, List.drop_left, hitem]
      exact ih (fun other hother => hwidth other (List.mem_cons_of_mem _ hother))
        (Nat.lt_of_succ_lt_succ hindex)

theorem getElem?_flatMap {f : α → List β} (hwidth : ∀ item ∈ items, (f item).length = width)
    (hindex : index < width) (row : Nat) :
    (items.flatMap f)[row * width + index]? = items[row]?.bind fun item => (f item)[index]? := by
  induction items generalizing row with
  | nil => rfl
  | cons item items ih =>
    have hitem := hwidth item List.mem_cons_self
    rw [List.flatMap_cons]
    cases row with
    | zero =>
      rw [Nat.zero_mul, Nat.zero_add, List.getElem?_append_left (hitem ▸ hindex)]
      rfl
    | succ row =>
      have hle : width ≤ (row + 1) * width + index :=
        (Nat.le_mul_of_pos_left _ row.succ_pos).trans (Nat.le_add_right _ _)
      have hsub : (row + 1) * width + index - width = row * width + index := by
        rw [Nat.succ_mul]
        omega
      rw [List.getElem?_append_right (hitem ▸ hle), hitem, hsub,
        ih fun other hother => hwidth other (List.mem_cons_of_mem _ hother)]
      rfl

end Numbers

end Bits
