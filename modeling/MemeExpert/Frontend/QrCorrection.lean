import MemeExpert.Frontend.QrRoundTrip
import MemeExpert.Lib.Remainders

/-! The tables of the encoder hold the powers of a generator of the field with 256 elements.
-/

namespace MemeExpert.Frontend

open Bits Grids Remainders

section Tables

variable {left right : Nat}

theorem gfNext_eq (value : Nat) :
    gfNext value = value <<< 1 ^^^ if value.testBit 7 then 0x11d else 0 := by
  have hbit : value <<< 1 &&& 0x100 = (value.testBit 7).toNat * 0x100 := by
    have htop := Nat.and_two_pow (value <<< 1) 8
    rwa [Nat.testBit_shiftLeft] at htop
  unfold gfNext
  simp only [hbit]
  cases value.testBit 7 <;> simp

theorem gfNext_xor (first second : Nat) :
    gfNext (first ^^^ second) = gfNext first ^^^ gfNext second := by
  have hswap : ∀ a b c d : Nat, a ^^^ b ^^^ (c ^^^ d) = a ^^^ c ^^^ (b ^^^ d) :=
    fun a b c d => by ac_rfl
  have hcarry : (if (first ^^^ second).testBit 7 then 0x11d else 0) =
      (if first.testBit 7 then 0x11d else 0) ^^^ if second.testBit 7 then 0x11d else 0 := by
    rw [Nat.testBit_xor]
    cases first.testBit 7 <;> cases second.testBit 7 <;> rfl
  rw [gfNext_eq, gfNext_eq, gfNext_eq, hcarry, Nat.shiftLeft_xor_distrib, hswap]

theorem gfNext_lt {value : Nat} (h : value < 256) : gfNext value < 256 := by
  have hall : ∀ value < 256, gfNext value < 256 := by decide +kernel
  exact hall value h

def gfShift (i value : Nat) : Nat := gfNext^[i] value

theorem gfPowers_eq (count value : Nat) :
    gfPowers count value = (List.range count).map fun i => gfShift i value := by
  induction count generalizing value with
  | zero => rfl
  | succ count ih =>
    rw [gfPowers, ih, List.range_succ_eq_map, List.map_cons, List.map_map]
    rfl

theorem gfShift_add (i j value : Nat) : gfShift (i + j) value = gfShift i (gfShift j value) :=
  Function.iterate_add_apply gfNext i j value

theorem foldl_copies (count start : Nat) (hstart : 255 ≤ start) :
    (List.range' start count).foldl (fun table i => table ++ [table.getD (i - 255) 0])
      ((List.range start).map fun i => gfShift i 1) =
      (List.range (start + count)).map fun i => gfShift i 1 := by
  have hperiod : gfShift 255 1 = 1 := by decide +kernel
  induction count generalizing start with
  | zero => rfl
  | succ count ih =>
    have hcopied : ((List.range start).map fun i => gfShift i 1).getD (start - 255) 0 =
        gfShift start 1 := by
      have hplace : start - 255 < ((List.range start).map fun i => gfShift i 1).length := by
        rw [List.length_map, List.length_range]
        omega
      have hsplit : start = start - 255 + 255 := by omega
      rw [List.getD_eq_getElem _ _ hplace, List.getElem_map, List.getElem_range]
      conv => rhs; rw [hsplit, gfShift_add, hperiod]
    have hnext : ((List.range start).map fun i => gfShift i 1) ++ [gfShift start 1] =
        (List.range (start + 1)).map fun i => gfShift i 1 := by
      rw [List.range_succ, List.map_append]
      rfl
    have hcount : start + 1 + count = start + (count + 1) := by omega
    rw [List.range'_succ, List.foldl_cons, hcopied, hnext, ih (start + 1) (by omega), hcount]

theorem gfExp_eq : gfExp = (List.range 512).map fun i => gfShift i 1 := by
  rw [gfExp, gfPowers_eq]
  exact foldl_copies 257 255 (Nat.le_refl _)

theorem length_foldl_set (entries : List (Nat × Nat)) (table : List Nat) :
    (entries.foldl (fun table entry => table.set entry.1 entry.2) table).length = table.length := by
  induction entries generalizing table with
  | nil => rfl
  | cons entry entries ih => rw [List.foldl_cons, ih, List.length_set]

/-- A place that was written has the value of one of its writes. -/
theorem getD_foldl_set {entries : List (Nat × Nat)} {table : List Nat} {place : Nat}
    (hplace : place < table.length) (hmem : place ∈ entries.map Prod.fst) :
    (place, (entries.foldl (fun table entry => table.set entry.1 entry.2) table).getD place 0) ∈
      entries := by
  induction entries using List.reverseRecOn with
  | nil => cases hmem
  | append_singleton entries last ih =>
    rw [List.foldl_append, List.foldl_cons, List.foldl_nil]
    by_cases hlast : last.1 = place
    · rw [← hlast] at hplace ⊢
      rw [List.getD_eq_getElem _ _ (by rwa [List.length_set, length_foldl_set]),
        List.getElem_set_self]
      exact List.mem_append_right _ List.mem_cons_self
    · have hbefore : place ∈ entries.map Prod.fst := by
        rw [List.map_append, List.mem_append] at hmem
        exact hmem.resolve_right fun h => hlast (List.mem_singleton.mp h).symm
      rw [List.getD_eq_getElem?_getD, List.getElem?_set_ne hlast, ← List.getD_eq_getElem?_getD]
      exact List.mem_append_left _ (ih hbefore)

theorem testBit_foldl_or (powers : List Nat) (bits value : Nat) :
    (powers.foldl (fun bits power => bits ||| 2 ^ power) bits).testBit value =
      (bits.testBit value || decide (value ∈ powers)) := by
  induction powers generalizing bits with
  | nil => simp
  | cons power powers ih =>
    rw [List.foldl_cons, ih, Nat.testBit_or, Nat.testBit_two_pow, Bool.or_assoc]
    congr 1
    simp only [List.mem_cons, Bool.decide_or, eq_comm]

/-- The powers of two take every value but zero. -/
theorem mem_gfPowers {value : Nat} (h : value < 256) (hne : value ≠ 0) : value ∈ gfPowers 255 1 := by
  have hbits : (gfPowers 255 1).foldl (fun bits power => bits ||| 2 ^ power) 0 = 2 ^ 256 - 2 := by
    decide +kernel
  have hset : ∀ value < 256, value ≠ 0 → (2 ^ 256 - 2).testBit value = true := by decide +kernel
  have hbit := testBit_foldl_or (gfPowers 255 1) 0 value
  rw [hbits, hset value h hne, Nat.zero_testBit, Bool.false_or] at hbit
  exact of_decide_eq_true hbit.symm

theorem gfLog_spec {value : Nat} (h : value < 256) (hne : value ≠ 0) :
    gfLog.getD value 0 < 255 ∧ gfShift (gfLog.getD value 0) 1 = value := by
  have hwritten : value ∈ (gfPowers 255 1).zipIdx.map Prod.fst := by
    rw [List.zipIdx_map_fst]
    exact mem_gfPowers h hne
  have hplace : value < (List.replicate 256 0).length := by rwa [List.length_replicate]
  have hentry := getD_foldl_set hplace hwritten
  rw [List.mk_mem_zipIdx_iff_getElem?, gfPowers_eq, List.getElem?_map,
    Option.map_eq_some_iff] at hentry
  obtain ⟨power, hpower, hvalue⟩ := hentry
  obtain ⟨hlt, rfl⟩ := List.getElem?_eq_some_iff.mp hpower
  rw [List.length_range] at hlt
  rw [List.getElem_range] at hvalue
  rw [gfLog, gfPowers_eq]
  exact ⟨hlt, hvalue⟩

theorem gfExp_getD {i : Nat} (h : i < 512) : gfExp.getD i 0 = gfShift i 1 := by
  rw [gfExp_eq, List.getD_eq_getElem _ _ (by simpa using h), List.getElem_map, List.getElem_range]

theorem gfShift_zero (i : Nat) : gfShift i 0 = 0 := Function.iterate_fixed rfl i

theorem gfShift_comm (i j value : Nat) :
    gfShift i (gfShift j value) = gfShift j (gfShift i value) := by
  rw [← gfShift_add, Nat.add_comm, gfShift_add]

theorem gfShift_xor (i first second : Nat) :
    gfShift i (first ^^^ second) = gfShift i first ^^^ gfShift i second := by
  induction i generalizing first second with
  | zero => rfl
  | succ i ih => exact (congrArg (gfShift i) (gfNext_xor first second)).trans (ih _ _)

theorem gfShift_lt {value : Nat} (h : value < 256) (i : Nat) : gfShift i value < 256 := by
  induction i generalizing value with
  | zero => exact h
  | succ i ih => exact ih (gfNext_lt h)

theorem gfMultiply_zero (left : Nat) : gfMultiply left 0 = 0 := if_pos (.inr rfl)

theorem zero_gfMultiply (right : Nat) : gfMultiply 0 right = 0 := if_pos (.inl rfl)

theorem gfMultiply_comm (left right : Nat) : gfMultiply left right = gfMultiply right left := by
  simp only [gfMultiply, or_comm, Nat.add_comm]

theorem gfMultiply_eq_gfShift (hleft : left < 256) (hne : left ≠ 0) (hright : right < 256) :
    gfMultiply left right = gfShift (gfLog.getD left 0) right := by
  by_cases hzero : right = 0
  · rw [hzero, gfMultiply_zero, gfShift_zero]
  obtain ⟨hleftLog, -⟩ := gfLog_spec hleft hne
  obtain ⟨hrightLog, hrightPower⟩ := gfLog_spec hright hzero
  have hplace : gfLog.getD left 0 + gfLog.getD right 0 < 512 := by omega
  rw [gfMultiply, if_neg (not_or.mpr ⟨hne, hzero⟩), gfExp_getD hplace, gfShift_add, hrightPower]

theorem gfMultiply_lt (hleft : left < 256) (hright : right < 256) : gfMultiply left right < 256 := by
  by_cases hne : left = 0
  · rw [hne, zero_gfMultiply]
    decide
  · rw [gfMultiply_eq_gfShift hleft hne hright]
    exact gfShift_lt hright _

theorem gfMultiply_xor {factor : Nat} (hfactor : factor < 256) (hleft : left < 256)
    (hright : right < 256) :
    gfMultiply factor (left ^^^ right) = gfMultiply factor left ^^^ gfMultiply factor right := by
  by_cases hne : factor = 0
  · rw [hne, zero_gfMultiply, zero_gfMultiply, zero_gfMultiply]
    rfl
  have hsum : left ^^^ right < 256 := Nat.xor_lt_two_pow (n := 8) hleft hright
  rw [gfMultiply_eq_gfShift hfactor hne hsum, gfMultiply_eq_gfShift hfactor hne hleft,
    gfMultiply_eq_gfShift hfactor hne hright, gfShift_xor]

theorem gfMultiply_assoc {factor : Nat} (hfactor : factor < 256) (hleft : left < 256)
    (hright : right < 256) :
    gfMultiply (gfMultiply factor left) right = gfMultiply factor (gfMultiply left right) := by
  by_cases hfactorZero : factor = 0
  · rw [hfactorZero, zero_gfMultiply, zero_gfMultiply, zero_gfMultiply]
  by_cases hrightZero : right = 0
  · rw [hrightZero, gfMultiply_zero, gfMultiply_zero, gfMultiply_zero]
  have hproduct := gfMultiply_lt hleft hright
  rw [gfMultiply_comm _ right, gfMultiply_eq_gfShift hfactor hfactorZero hleft,
    gfMultiply_eq_gfShift hright hrightZero (gfShift_lt hleft _),
    gfMultiply_eq_gfShift hfactor hfactorZero hproduct, gfShift_comm,
    ← gfMultiply_eq_gfShift hright hrightZero hleft, gfMultiply_comm right]

theorem one_gfMultiply (hright : right < 256) : gfMultiply 1 right = right := by
  have hlog : gfLog.getD 1 0 = 0 := by decide +kernel
  rw [gfMultiply_eq_gfShift (by decide) (by decide) hright, hlog]
  rfl

end Tables

/-- A byte under the arithmetic of the tables. -/
@[ext]
structure Gf256 where
  value : Nat
  isLt : value < 256

namespace Gf256

instance : Add Gf256 where
  add a b := ⟨a.value ^^^ b.value, Nat.xor_lt_two_pow (n := 8) a.isLt b.isLt⟩

instance : Mul Gf256 where
  mul a b := ⟨gfMultiply a.value b.value, gfMultiply_lt a.isLt b.isLt⟩

instance : Zero Gf256 where
  zero := ⟨0, by decide⟩

instance : One Gf256 where
  one := ⟨1, by decide⟩

/-- Every element is its own opposite. -/
instance : Neg Gf256 where
  neg a := a

@[simp] theorem value_add (a b : Gf256) : (a + b).value = a.value ^^^ b.value := rfl

@[simp] theorem value_mul (a b : Gf256) : (a * b).value = gfMultiply a.value b.value := rfl

@[simp] theorem value_zero : (0 : Gf256).value = 0 := rfl

@[simp] theorem value_one : (1 : Gf256).value = 1 := rfl

instance : CommRing Gf256 where
  add_assoc a b c := Gf256.ext (Nat.xor_assoc _ _ _)
  zero_add a := Gf256.ext (Nat.zero_xor _)
  add_zero a := Gf256.ext (Nat.xor_zero _)
  add_comm a b := Gf256.ext (Nat.xor_comm _ _)
  neg_add_cancel a := Gf256.ext (Nat.xor_self a.value)
  nsmul := nsmulRec
  zsmul := zsmulRec
  zero_mul a := Gf256.ext (zero_gfMultiply a.value)
  mul_zero a := Gf256.ext (gfMultiply_zero a.value)
  mul_comm a b := Gf256.ext (gfMultiply_comm _ _)
  mul_assoc a b c := Gf256.ext (gfMultiply_assoc a.isLt b.isLt c.isLt)
  one_mul a := Gf256.ext (one_gfMultiply a.isLt)
  mul_one a := Gf256.ext ((gfMultiply_comm a.value 1).trans (one_gfMultiply a.isLt))
  left_distrib a b c := Gf256.ext (gfMultiply_xor a.isLt b.isLt c.isLt)
  right_distrib a b c := by
    refine Gf256.ext ?_
    simp only [value_mul, value_add, gfMultiply_comm _ c.value]
    exact gfMultiply_xor c.isLt a.isLt b.isLt

theorem add_self (a : Gf256) : a + a = 0 := Gf256.ext (Nat.xor_self _)

def bytes (list : List Gf256) : List Nat := list.map value

theorem exists_bytes {list : List Nat} (h : ∀ byte ∈ list, byte < 256) :
    ∃ lifted, bytes lifted = list := by
  induction list with
  | nil => exact ⟨[], rfl⟩
  | cons byte list ih =>
    obtain ⟨lifted, rfl⟩ := ih fun other hother => h other (List.mem_cons_of_mem _ hother)
    exact ⟨⟨byte, h byte List.mem_cons_self⟩ :: lifted, rfl⟩

@[simp] theorem length_bytes (list : List Gf256) : (bytes list).length = list.length :=
  List.length_map _

theorem bytes_append (first second : List Gf256) :
    bytes (first ++ second) = bytes first ++ bytes second := List.map_append

theorem zipWith_bytes {f : Nat → Nat → Nat} {g : Gf256 → Gf256 → Gf256}
    (h : ∀ a b, f a.value b.value = (g a b).value) (first second : List Gf256) :
    List.zipWith f (bytes first) (bytes second) = bytes (List.zipWith g first second) := by
  simp only [bytes, List.zipWith_map, List.map_zipWith, h]

end Gf256

section Correction

open Gf256

def gfEvaluate (codewords : List Nat) (point : Nat) : Nat :=
  codewords.foldl (fun value codeword => gfMultiply value point ^^^ codeword) 0

def gfRoot (i : Nat) : Gf256 := ⟨gfShift i 1, gfShift_lt (by decide) i⟩

theorem gfEvaluate_bytes (list : List Gf256) (point : Gf256) :
    gfEvaluate (bytes list) point.value = (eval point list).value := by
  have hfold : ∀ start : Gf256,
      (bytes list).foldl (fun value codeword => gfMultiply value point.value ^^^ codeword)
        start.value =
      (list.foldl (fun value coefficient => value * point + coefficient) start).value := by
    induction list with
    | nil => exact fun _ => rfl
    | cons first list ih => exact fun start => ih (start * point + first)
  exact hfold 0

theorem reedSolomonGenerator_eq {degree : Nat} (h : degree ≤ 512) :
    reedSolomonGenerator degree = bytes (rootProduct ((List.range degree).map gfRoot)).tail := by
  have hstep : ∀ (list : List Gf256) (i : Nat), i < 512 →
      List.zipWith (· ^^^ ·) (bytes list ++ [0])
        (0 :: (bytes list).map fun coefficient => gfMultiply coefficient (gfExp.getD i 0)) =
      bytes (timesRoot list (gfRoot i)) := by
    intro list i hi
    have hshifted : 0 :: (bytes list).map (fun coefficient =>
        gfMultiply coefficient (gfExp.getD i 0)) = bytes (0 :: list.map (· * gfRoot i)) := by
      simp only [bytes, List.map_map, List.map_cons, gfExp_getD hi]
      rfl
    have hpadded : bytes list ++ [0] = bytes (list ++ [0]) := by
      rw [bytes_append]
      rfl
    rw [hshifted, hpadded]
    exact zipWith_bytes (fun _ _ => rfl) _ _
  have hfold : ∀ (indices : List Nat) (list : List Gf256), (∀ i ∈ indices, i < 512) →
      indices.foldl
        (fun result i =>
          List.zipWith (· ^^^ ·) (result ++ [0])
            (0 :: result.map fun coefficient => gfMultiply coefficient (gfExp.getD i 0)))
        (bytes list) = bytes ((indices.map gfRoot).foldl timesRoot list) := by
    intro indices
    induction indices with
    | nil => exact fun _ _ => rfl
    | cons i indices ih =>
      intro list hindices
      rw [List.foldl_cons, hstep list i (hindices i List.mem_cons_self), List.map_cons,
        List.foldl_cons]
      exact ih _ fun other hother => hindices other (List.mem_cons_of_mem _ hother)
  have hproduct := hfold (List.range degree) [1] fun i hi => (List.mem_range.mp hi).trans_le h
  rw [reedSolomonGenerator, rootProduct, ← List.drop_one, bytes, List.map_drop]
  exact congrArg (List.drop 1) hproduct

theorem length_lower (degree : Nat) :
    (rootProduct ((List.range degree).map gfRoot)).tail.length = degree := by
  obtain ⟨hlength, -⟩ := @rootProduct_spec Gf256 _ 0 ((List.range degree).map gfRoot)
  rw [List.length_tail, hlength, List.length_map, List.length_range, Nat.add_sub_cancel]

theorem map_range_eq_zipWith {f : Nat → Nat → Nat} {first second : List Nat} {count : Nat}
    (hfirst : first.length = count) (hsecond : second.length = count) :
    (List.range count).map (fun i => f (first.getD i 0) (second.getD i 0)) =
      List.zipWith f first second := by
  refine List.ext_getElem (by simp [hfirst, hsecond]) fun i hi _ => ?_
  rw [List.length_map, List.length_range] at hi
  rw [List.getElem_map, List.getElem_range, List.getElem_zipWith,
    List.getD_eq_getElem _ _ (hfirst.symm ▸ hi), List.getD_eq_getElem _ _ (hsecond.symm ▸ hi)]

theorem reedSolomonRemainder_bytes {degree : Nat} (h : degree ≤ 512) (hpos : 0 < degree)
    (list : List Gf256) :
    reedSolomonRemainder (bytes list) degree =
      bytes (remainder (rootProduct ((List.range degree).map gfRoot)).tail list) := by
  have hlower := length_lower degree
  have hgenerator := reedSolomonGenerator_eq h
  generalize (rootProduct ((List.range degree).map gfRoot)).tail = lower at hlower hgenerator
  have hstep : ∀ (register : List Gf256) (byte : Gf256), register.length = degree →
      ((List.range degree).map fun i =>
        ((bytes register).tail ++ [0]).getD i 0 ^^^
          gfMultiply ((bytes lower).getD i 0) (byte.value ^^^ (bytes register).headD 0)) =
      bytes (pushed lower register byte) := by
    intro register byte hregister
    cases register with
    | nil => exact (hpos.ne hregister).elim
    | cons head rest =>
      have hshifted : ((bytes (head :: rest)).tail ++ [0]) = bytes (rest ++ [0]) := by
        rw [bytes_append]
        rfl
      have hlength : (bytes (rest ++ [0])).length = degree := by
        simpa using hregister
      have hzip := map_range_eq_zipWith (f := fun kept divisor =>
        kept ^^^ gfMultiply divisor (byte.value ^^^ head.value)) hlength
        ((length_bytes lower).trans hlower)
      rw [hshifted]
      exact hzip.trans (zipWith_bytes (fun _ _ => rfl) _ _)
  have hfold : ∀ register : List Gf256, register.length = degree →
      (bytes list).foldl
        (fun result byte => (List.range degree).map fun i =>
          (result.tail ++ [0]).getD i 0 ^^^
            gfMultiply ((bytes lower).getD i 0) (byte ^^^ result.headD 0))
        (bytes register) = bytes (list.foldl (pushed lower) register) := by
    induction list with
    | nil => exact fun _ _ => rfl
    | cons byte list ih =>
      intro register hregister
      have hnext := hstep register byte hregister
      rw [List.foldl_cons, ← ih _ ((length_pushed (hregister.trans hlower.symm) byte).trans hlower)]
      rw [← hnext]
      rfl
  have hstart : List.replicate degree 0 = bytes (List.replicate degree 0) := by
    rw [bytes, List.map_replicate]
    rfl
  rw [reedSolomonRemainder, remainder, hgenerator, hlower, hstart]
  exact hfold _ List.length_replicate

theorem gfEvaluate_block {block : List Nat} {degree i : Nat} (hblock : ∀ byte ∈ block, byte < 256)
    (hdegree : degree ≤ 255) (hi : i < degree) :
    gfEvaluate (block ++ reedSolomonRemainder block degree) (gfExp.getD i 0) = 0 := by
  have hsmall : degree ≤ 512 := hdegree.trans (by decide)
  have hpos : 0 < degree := Nat.zero_lt_of_lt hi
  obtain ⟨list, rfl⟩ := exists_bytes hblock
  have hlength := length_lower degree
  have hroot : gfRoot i ^ degree +
      eval (gfRoot i) (rootProduct ((List.range degree).map gfRoot)).tail = 0 := by
    have hmem : gfRoot i ∈ (List.range degree).map gfRoot :=
      List.mem_map_of_mem (List.mem_range.mpr hi)
    have hzero := eval_tail_of_root Gf256.add_self hmem
    rwa [List.length_map, List.length_range] at hzero
  have hne : (rootProduct ((List.range degree).map gfRoot)).tail ≠ [] := by
    rw [← List.length_pos_iff, hlength]
    exact hpos
  rw [reedSolomonRemainder_bytes hsmall hpos, ← bytes_append, gfExp_getD (hi.trans_le hsmall)]
  refine (gfEvaluate_bytes _ (gfRoot i)).trans ?_
  rw [(eval_append_remainder hne (by rw [hlength, hroot]) Gf256.add_self).2]
  rfl

/-- The codewords of a block: its data and then its correction, each laid out in turn with
those of the other blocks. -/
def emittedBlock (codewords : List Nat) (spec : QrVersionSpec) (block : Nat) : List Nat :=
  ((List.range (spec.dataCodewords / spec.blocks)).map fun i =>
      codewords.getD (i * spec.blocks + block) 0) ++
    (List.range spec.eccCodewordsPerBlock).map fun i =>
      codewords.getD (spec.dataCodewords + i * spec.blocks + block) 0

theorem length_reedSolomonRemainder (data : List Nat) (degree : Nat) :
    (reedSolomonRemainder data degree).length = degree := by
  have hfold : ∀ (step : List Nat → Nat → List Nat) (start : List Nat),
      (∀ result byte, (step result byte).length = degree) → start.length = degree →
        (data.foldl step start).length = degree := by
    intro step start hstep
    induction data generalizing start with
    | nil => exact id
    | cons byte data ih => exact fun _ => ih _ (hstep start byte)
  refine hfold _ _ (fun result byte => ?_) List.length_replicate
  rw [List.length_map, List.length_range]

theorem emittedBlock_eq {data : List Nat} {spec : QrVersionSpec} (h : spec.Standard)
    (hlength : data.length = spec.dataCodewords) {block : Nat} (hblock : block < spec.blocks) :
    emittedBlock (addErrorCorrection data spec) spec block =
      chunk (spec.dataCodewords / spec.blocks) data block ++
        reedSolomonRemainder (chunk (spec.dataCodewords / spec.blocks) data block)
          spec.eccCodewordsPerBlock := by
  have hdata : data.length = spec.blocks * (spec.dataCodewords / spec.blocks) :=
    hlength.trans h.divides
  rw [emittedBlock, addErrorCorrection_parts hdata h.blocks_pos]
  congr 1
  · rw [chunk_eq_map (hdata.trans (Nat.mul_comm ..)) hblock]
    refine List.map_congr_left fun i hi => ?_
    have hrow := List.mem_range.mp hi
    have hplace : i * spec.blocks + block <
        (interleaved data spec.blocks (spec.dataCodewords / spec.blocks)).length := by
      rw [length_interleaved]
      nlinarith
    rw [List.getD_append _ _ _ _ hplace, List.getD_eq_getElem?_getD, interleaved,
      getElem?_flatMap (fun _ _ => by rw [List.length_map, List.length_range]) hblock]
    simp [hrow, hblock]
  · refine List.ext_getElem ?_ fun i hi _ => ?_
    · rw [List.length_map, List.length_range, length_reedSolomonRemainder]
    · rw [List.length_map, List.length_range] at hi
      have hbehind : (interleaved data spec.blocks (spec.dataCodewords / spec.blocks)).length ≤
          spec.dataCodewords + i * spec.blocks + block := by
        rw [length_interleaved, ← h.divides]
        omega
      have hplace : spec.dataCodewords + i * spec.blocks + block -
          (interleaved data spec.blocks (spec.dataCodewords / spec.blocks)).length =
            i * spec.blocks + block := by
        rw [length_interleaved, ← h.divides]
        omega
      rw [List.getElem_map, List.getElem_range, List.getD_append_right _ _ _ _ hbehind, hplace,
        List.getD_eq_getElem?_getD, interleavedCorrection,
        getElem?_flatMap (fun _ _ => by rw [List.length_map, List.length_range]) hblock]
      have hlast : i < (reedSolomonRemainder
          (chunk (spec.dataCodewords / spec.blocks) data block)
          spec.eccCodewordsPerBlock).length := by
        rw [length_reedSolomonRemainder]
        exact hi
      simp [hi, hblock, hlast]

/-- Every codeword belongs to one block: its part of the data and as many correction codewords
as the version asks for, which make it vanish at the first powers of the generator. -/
structure IsCorrected (data codewords : List Nat) (spec : QrVersionSpec) : Prop where
  data_length : data.length = spec.dataCodewords
  length : codewords.length = spec.dataCodewords + spec.blocks * spec.eccCodewordsPerBlock
  bytes : ∀ codeword ∈ data, codeword < 256
  blocks : ∀ block < spec.blocks, ∃ correction,
    correction.length = spec.eccCodewordsPerBlock ∧
      emittedBlock codewords spec block =
        chunk (spec.dataCodewords / spec.blocks) data block ++ correction
  vanishes : ∀ block < spec.blocks, ∀ i < spec.eccCodewordsPerBlock,
    gfEvaluate (emittedBlock codewords spec block) (gfExp.getD i 0) = 0

theorem isCorrected_addErrorCorrection {data : List Nat} {spec : QrVersionSpec} (h : spec.Standard)
    (hdegree : spec.eccCodewordsPerBlock ≤ 255) (hlength : data.length = spec.dataCodewords)
    (hdata : ∀ codeword ∈ data, codeword < 256) :
    IsCorrected data (addErrorCorrection data spec) spec where
  data_length := hlength
  length := by
    rw [addErrorCorrection_parts (hlength.trans h.divides) h.blocks_pos, List.length_append,
      length_interleaved, length_interleavedCorrection, ← h.divides]
  bytes := hdata
  blocks block hblock := ⟨_, length_reedSolomonRemainder _ _, emittedBlock_eq h hlength hblock⟩
  vanishes block hblock i hi := by
    rw [emittedBlock_eq h hlength hblock]
    refine gfEvaluate_block (fun byte hbyte => ?_) hdegree hi
    exact hdata byte (List.mem_of_mem_drop (List.mem_of_mem_take hbyte))

end Correction

section Patterns

variable {spec : QrVersionSpec}

/-- The finder patterns with their separators, the alignment pattern, the timing lines, the
format areas and the dark module. -/
def IsFunctionPattern (version : Nat) (place : Place) : Prop :=
  let size := sizeOfVersion version
  (Around 4 (3, 3) place ∨ Around 4 (size - 4, 3) place ∨ Around 4 (3, size - 4) place) ∨
    (2 ≤ version ∧ Around 2 (size - 7, size - 7) place) ∨ (place.1 = 6 ∨ place.2 = 6) ∨
    FormatArea size place ∨ place = (8, size - 8)

theorem isFunctionPlace_of_pattern {version : Nat} (hversion : 1 ≤ version) {place : Place}
    (hinside : Inside (sizeOfVersion version) place) (h : IsFunctionPattern version place) :
    isFunctionPlace version place = true := by
  rw [isFunctionPlace_iff hversion hinside]
  rcases h with hfinder | halignment | htiming | hformat | hdark
  · exact .inl (.inl hfinder)
  · exact .inl (.inr halignment)
  · exact .inr (.inl (.inl htiming))
  · exact .inr (.inl (.inr hformat))
  · exact .inr (.inr hdark)

theorem cell_masked {modules functionModules : List (List Bool)} {size : Nat}
    (hsquare : IsSquare size modules) {place : Place}
    (hfunction : cell functionModules place = true) (codewords : List Nat) :
    cell (applyMask (drawCodewords modules functionModules codewords) functionModules) place =
      cell modules place := by
  have hdrawn : cell (drawCodewords modules functionModules codewords) place =
      cell modules place := by
    rw [drawCodewords_eq]
    refine cell_fill_of_not_mem ?_
    rw [map_fst_bitWrites]
    intro hmem
    have hdata := (List.mem_filter.mp hmem).2
    rw [hfunction] at hdata
    cases hdata
  have hsize : IsSquare size (drawCodewords modules functionModules codewords) := by
    rw [drawCodewords_eq]
    exact hsquare.fill
  rw [← hdrawn, applyMask, hsize.rows]
  by_cases hinside : Inside size place
  · rw [cell_flip_of_mem hsize (nodup_places size) (mem_places.mpr hinside) hinside]
    simp [hfunction]
  · exact cell_flip_of_not_mem fun hmem => hinside (mem_places.mp hmem)

theorem chooseVersionSpec_ok {length : Nat} (h : chooseVersionSpec length = .ok spec) :
    spec ∈ qrVersionSpecs ∧ 12 + 8 * length ≤ 8 * spec.dataCodewords := by
  unfold chooseVersionSpec at h
  split at h
  · next found hfind =>
    cases h
    have hmem := List.mem_of_find?_eq_some hfind
    have hfits : length ≤ maxBytePayload spec := by simpa using List.find?_some hfind
    have hlarge : 19 ≤ spec.dataCodewords := by
      revert hmem
      clear hfits hfind
      revert spec
      decide
    refine ⟨hmem, ?_⟩
    rw [maxBytePayload] at hfits
    omega
  · cases h

/-- Each block of a drawn text is a codeword of its Reed-Solomon code, and the function
patterns stay as they were drawn first. -/
theorem createQrMatrix_corrected {value : CodeUnits} {matrix : List (List Bool)}
    (h : createQrMatrix value = .ok matrix) :
    ∃ spec ∈ qrVersionSpecs,
      let base := createBaseMatrix spec
      let data := encodePayload (encodeText value) spec
      let codewords := addErrorCorrection data spec
      let masked := applyMask (drawCodewords base.modules base.functionModules codewords)
        base.functionModules
      matrix = drawFormatBits masked spec.size formatMaskPattern ∧
      IsCorrected data codewords spec ∧
      ∀ place, Inside spec.size place → IsFunctionPattern spec.version place →
        cell masked place = cell base.modules place := by
  unfold createQrMatrix at h
  split at h
  · cases h
  dsimp only at h
  split at h
  · cases h
  next spec hchosen =>
  cases h
  obtain ⟨hmem, hfits⟩ := chooseVersionSpec_ok hchosen
  have hspec := standard_of_mem hmem
  have hdegree : spec.eccCodewordsPerBlock ≤ 255 := by
    clear hfits hspec hchosen
    revert spec
    decide
  obtain ⟨hbase, hfunction⟩ := functionModules_iff hspec.version_pos hspec.size_eq
  refine ⟨spec, hmem, rfl, ?_, ?_⟩
  · exact isCorrected_addErrorCorrection hspec hdegree (length_encodePayload hfits)
      fun _ => encodePayload_lt hfits
  intro place hinside hpattern
  have hstandard : Inside (sizeOfVersion spec.version) place := hspec.size_eq ▸ hinside
  refine cell_masked hbase.modules ((hfunction place hinside).trans ?_) _
  exact isFunctionPlace_of_pattern hspec.version_pos hstandard hpattern

theorem createQrMatrix_corrected_login :
    ∃ spec ∈ qrVersionSpecs,
      let base := createBaseMatrix spec
      let data := encodePayload (encodeText [0x74, 0x67]) spec
      let codewords := addErrorCorrection data spec
      let masked := applyMask (drawCodewords base.modules base.functionModules codewords)
        base.functionModules
      drawMatrix (encodeText [0x74, 0x67]) ⟨1, 21, 19, 7, 1⟩ =
        drawFormatBits masked spec.size formatMaskPattern ∧
      IsCorrected data codewords spec ∧
      ∀ place, Inside spec.size place → IsFunctionPattern spec.version place →
        cell masked place = cell base.modules place :=
  @createQrMatrix_corrected [0x74, 0x67] _ rfl

end Patterns

end MemeExpert.Frontend
