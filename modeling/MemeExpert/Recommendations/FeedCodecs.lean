import MemeExpert.Lib.Base64
import MemeExpert.Lib.Json
import MemeExpert.Recommendations.Candidates

/-! An identifier is written as text with hyphens, or as sixteen bytes. The set of memes
that a session has served travels as packed bytes in unpadded base64. -/

namespace MemeExpert.Recommendations.FeedWire

open Json Numerals

structure UUID where
  int : Nat
  int_lt : int < 2 ^ 128
  deriving DecidableEq

def hyphenated : List Nat → Text → Text
  | [], text => text
  | group :: groups, text => text.take group ++ ('-' :: hyphenated groups (text.drop group))

/-- `str`. -/
def UUID.str (id : UUID) : Text := hyphenated [8, 4, 4, 4] (spell 16 32 id.int)

/-- The hyphens stand where they like; texts with other characters are left to `other`. -/
def UUID.ofText (other : Text → Option UUID) (text : Text) : Option UUID :=
  let hex := text.filter (· ≠ '-')
  let read : Option UUID :=
    if hex.length = 32 then
      (readText 16 hex).bind fun int => if h : int < 2 ^ 128 then some ⟨int, h⟩ else none
    else none
  read.or (other text)

def UUID.bytes (id : UUID) : List Nat := write 256 16 id.int

theorem read_lt_of_bytes {bytes : List Nat} (h : bytes.length = 16 ∧ ∀ b ∈ bytes, b < 256) :
    read 256 bytes < 2 ^ 128 := by
  have hlt : read 256 bytes < 256 ^ bytes.length := read_lt (by decide) h.2
  rw [h.1] at hlt
  exact hlt.trans_le (by decide)

def UUID.ofBytes (bytes : List Nat) : Option UUID :=
  if h : bytes.length = 16 ∧ ∀ b ∈ bytes, b < 256 then some ⟨read 256 bytes, read_lt_of_bytes h⟩
  else none

def encodeUuidSet (memeIds : List UUID) : Text := Base64.encode (memeIds.flatMap UUID.bytes)

def unpackUuids : Nat → List Nat → Option (List UUID)
  | 0, _ => some []
  | count + 1, packed =>
    (UUID.ofBytes (packed.take 16)).bind fun memeId =>
      (unpackUuids count (packed.drop 16)).map fun memeIds => memeId :: memeIds

/-- None stands for a `ValueError`. -/
def decodeUuidSet {φ : Type} (raw : Option (Value φ)) (maxCount : Nat) : Option (List UUID) :=
  match raw with
  | none | some .null | some (.string []) => some []
  | some (.string encoded) =>
    (Base64.decodeUnpadded encoded).bind fun packed =>
      if packed.length % 16 ≠ 0 ∨ packed.length / 16 > maxCount then none
      else
        (unpackUuids (packed.length / 16) packed).bind fun memeIds =>
          if memeIds.Nodup then some memeIds else none
  | some _ => none

section Codecs

variable {φ : Type} {memeIds : List UUID} {packed : List Nat} {maxCount : Nat}

theorem filter_hex (id : UUID) : (spell 16 32 id.int).filter (· ≠ '-') = spell 16 32 id.int := by
  rw [List.filter_eq_self]
  intro c hc
  have hdigit : (digitOf 16 c).isSome := digitOf_of_mem_spell (by decide) (by decide) hc
  have hne : c ≠ '-' := by
    rintro rfl
    revert hdigit
    decide
  simpa using hne

theorem filter_hyphenated (groups : List Nat) (text : Text) :
    (hyphenated groups text).filter (· ≠ '-') = text.filter (· ≠ '-') := by
  induction groups generalizing text with
  | nil => rfl
  | cons group groups ih =>
    have hhyphen : ('-' :: hyphenated groups (text.drop group)).filter (· ≠ '-') =
        (hyphenated groups (text.drop group)).filter (· ≠ '-') :=
      List.filter_cons_of_neg (by decide)
    rw [hyphenated, List.filter_append, hhyphen, ih, ← List.filter_append, List.take_append_drop]

theorem ofText_str (other : Text → Option UUID) (id : UUID) :
    UUID.ofText other id.str = some id := by
  have hhex : id.str.filter (· ≠ '-') = spell 16 32 id.int := by
    rw [UUID.str, filter_hyphenated, filter_hex]
  have hread : readText 16 (spell 16 32 id.int) = some id.int :=
    readText_spell (by decide) (by decide)
  have hlength : (spell 16 32 id.int).length = 32 :=
    length_spell (by decide) (id.int_lt.trans_le (by decide))
  simp only [UUID.ofText, hhex, hlength, if_true, hread, Option.bind_some, dif_pos id.int_lt,
    Option.some_or]

theorem bytes_spec (id : UUID) : id.bytes.length = 16 ∧ ∀ b ∈ id.bytes, b < 256 := by
  refine ⟨length_write (by decide) (id.int_lt.trans_le (by decide)), ?_⟩
  intro b hb
  exact lt_of_mem_write (by decide) hb

theorem ofBytes_bytes (id : UUID) : UUID.ofBytes id.bytes = some id := by
  rw [UUID.ofBytes, dif_pos (bytes_spec id)]
  simp only [UUID.bytes, read_write]

theorem bytes_of_ofBytes {bytes : List Nat} {id : UUID} (h : UUID.ofBytes bytes = some id) :
    id.bytes = bytes := by
  unfold UUID.ofBytes at h
  split at h
  · next hvalid =>
    cases h
    exact write_read (by decide) hvalid.1 hvalid.2
  · cases h

theorem length_packed (memeIds : List UUID) :
    (memeIds.flatMap UUID.bytes).length = 16 * memeIds.length := by
  induction memeIds with
  | nil => rfl
  | cons memeId memeIds ih =>
    rw [List.flatMap_cons, List.length_append, ih, (bytes_spec memeId).1, List.length_cons]
    omega

theorem unpackUuids_flatMap (memeIds : List UUID) :
    unpackUuids memeIds.length (memeIds.flatMap UUID.bytes) = some memeIds := by
  induction memeIds with
  | nil => rfl
  | cons memeId memeIds ih =>
    have hlength := (bytes_spec memeId).1
    rw [List.flatMap_cons, List.length_cons, unpackUuids, List.take_left' hlength,
      List.drop_left' hlength, ofBytes_bytes, ih]
    rfl

theorem packed_of_unpackUuids {count : Nat} (h : unpackUuids count packed = some memeIds)
    (hlength : packed.length = 16 * count) :
    memeIds.flatMap UUID.bytes = packed ∧ memeIds.length = count := by
  induction count generalizing packed memeIds with
  | zero =>
    cases h
    rw [Nat.mul_zero, List.length_eq_zero_iff] at hlength
    rw [hlength]
    exact ⟨rfl, rfl⟩
  | succ count ih =>
    obtain ⟨memeId, hfirst, h⟩ := Option.bind_eq_some_iff.mp h
    obtain ⟨others, hothers, rfl⟩ := Option.map_eq_some_iff.mp h
    have hrest : (packed.drop 16).length = 16 * count := by
      rw [List.length_drop, hlength]
      omega
    obtain ⟨hpacked, hcount⟩ := ih hothers hrest
    refine ⟨?_, ?_⟩
    · rw [List.flatMap_cons, bytes_of_ofBytes hfirst, hpacked, List.take_append_drop]
    · rw [List.length_cons, hcount]

theorem decodeUuidSet_string {encoded : Text} (h : encoded ≠ []) :
    decodeUuidSet (some (.string encoded : Value φ)) maxCount =
      (Base64.decodeUnpadded encoded).bind fun packed =>
        if packed.length % 16 ≠ 0 ∨ packed.length / 16 > maxCount then none
        else
          (unpackUuids (packed.length / 16) packed).bind fun memeIds =>
            if memeIds.Nodup then some memeIds else none := by
  cases encoded with
  | nil => exact (h rfl).elim
  | cons c encoded => rfl

theorem decodeUuidSet_encodeUuidSet (hnodup : memeIds.Nodup) (hcount : memeIds.length ≤ maxCount) :
    decodeUuidSet (some (.string (encodeUuidSet memeIds) : Value φ)) maxCount = some memeIds := by
  have hbytes : ∀ b ∈ memeIds.flatMap UUID.bytes, b < 256 := by
    intro b hb
    obtain ⟨memeId, -, hmem⟩ := List.mem_flatMap.mp hb
    exact (bytes_spec memeId).2 b hmem
  have hread : Base64.decodeUnpadded (encodeUuidSet memeIds) = some (memeIds.flatMap UUID.bytes) :=
    Base64.decodeUnpadded_encode hbytes
  rcases Classical.em (encodeUuidSet memeIds = []) with hempty | hne
  · -- no text is no bytes, and these are of no identifiers
    rw [hempty] at hread ⊢
    have hpacked : memeIds.flatMap UUID.bytes = [] := by
      have hnil : Base64.decodeUnpadded [] = some [] := rfl
      rw [hnil] at hread
      exact (Option.some.inj hread).symm
    have hlength := length_packed memeIds
    rw [hpacked, List.length_nil] at hlength
    have hnone : memeIds = [] := List.length_eq_zero_iff.mp (by omega)
    rw [hnone]
    rfl
  · have hlength := length_packed memeIds
    have hfit : ¬ ((memeIds.flatMap UUID.bytes).length % 16 ≠ 0 ∨
        (memeIds.flatMap UUID.bytes).length / 16 > maxCount) := by
      omega
    have hdiv : (memeIds.flatMap UUID.bytes).length / 16 = memeIds.length := by
      omega
    rw [decodeUuidSet_string hne, hread, Option.bind_some, if_neg hfit, hdiv, unpackUuids_flatMap,
      Option.bind_some, if_pos hnodup]

/-- A set of served memes as it is accepted: distinct, bounded, and just what the text holds. -/
structure IsServedSet (raw : Option (Value φ)) (maxCount : Nat) (memeIds : List UUID) : Prop where
  nodup : memeIds.Nodup
  bounded : memeIds.length ≤ maxCount
  packed : memeIds ≠ [] → ∃ encoded, raw = some (.string encoded) ∧
    Base64.decodeUnpadded encoded = some (memeIds.flatMap UUID.bytes)

theorem decodeUuidSet_isServedSet {raw : Option (Value φ)}
    (h : decodeUuidSet raw maxCount = some memeIds) : IsServedSet raw maxCount memeIds := by
  have hnone : IsServedSet raw maxCount [] :=
    ⟨List.nodup_nil, Nat.zero_le maxCount, fun hne => (hne rfl).elim⟩
  unfold decodeUuidSet at h
  split at h
  · cases h
    exact hnone
  · cases h
    exact hnone
  · cases h
    exact hnone
  · next encoded _ =>
    obtain ⟨packed, hpacked, h⟩ := Option.bind_eq_some_iff.mp h
    split at h
    · cases h
    next hfit =>
    obtain ⟨found, hfound, h⟩ := Option.bind_eq_some_iff.mp h
    split at h
    · next hnodup =>
      cases h
      have hlength : packed.length = 16 * (packed.length / 16) := by omega
      obtain ⟨hbytes, hcount⟩ := packed_of_unpackUuids hfound hlength
      refine ⟨hnodup, ?_, fun _ => ⟨encoded, rfl, ?_⟩⟩
      · rw [hcount]
        omega
      · rw [hbytes, hpacked]
    · cases h
  · cases h

end Codecs

end MemeExpert.Recommendations.FeedWire
