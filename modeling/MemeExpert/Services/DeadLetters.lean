import Mathlib.Data.List.Infix
import Mathlib.Order.MinMax
import MemeExpert.Lib.Dictionaries
import MemeExpert.Models.Enums

/-! `record_pipeline_dead_letter` keeps a copy of every delivery that the broker gave up on.
-/

namespace MemeExpert.Services.DeadLetters

open Dictionaries

abbrev Text := List Char

/-- The objects a payload is made of. The keys of a mapping are as `str` gives them, `bytes`
holds its lossy decoding, a sequence is a list, a tuple or a set, and `other` is any further
object by its `str`. -/
inductive Payload (φ : Type) where
  | none
  | bool (b : Bool)
  | int (n : Int)
  | float (x : φ)
  | text (value : Text)
  | bytes (decoded : Text)
  | mapping (entries : List (Text × Payload φ))
  | sequence (items : List (Payload φ))
  | other (str : Text)

def safeTextLimit : ℕ := 4000

def safeCollectionLimit : ℕ := 100

def safeKeyLimit : ℕ := 255

def safeDepthLimit : ℕ := 4

def sensitiveKeyParts : List Text :=
  ["authorization", "cookie", "password", "secret", "session", "token"].map String.toList

def truncatedKey : Text := "_truncated".toList

variable {φ : Type} (lower : Text → Text)

def isSensitive (key : Text) : Bool := sensitiveKeyParts.any fun part => part <:+: lower key

def normalizedKey (key : Text) : Text := key.take safeKeyLimit

mutual

def safeValue (depth : ℕ) (value : Payload φ) : Payload φ :=
  if safeDepthLimit ≤ depth then .text "[truncated]".toList
  else match value with
    | .none => .none
    | .bool b => .bool b
    | .int n => .int n
    | .float x => .float x
    | .text value => .text (value.take safeTextLimit)
    | .bytes decoded => .text (decoded.take safeTextLimit)
    | .mapping entries => .mapping (dictOf (safeEntries safeCollectionLimit entries))
    | .sequence items => .sequence (safeItems (depth + 1) safeCollectionLimit items)
    | .other str => .text (str.take safeTextLimit)
termination_by structural value

/-- The copies of the first `room` items. -/
def safeItems (depth room : ℕ) : List (Payload φ) → List (Payload φ)
  | [] => []
  | item :: items =>
    match room with
    | 0 => []
    | room + 1 => safeValue depth item :: safeItems depth room items
termination_by structural items => items

/-- The assignments that the loop of `_safe_mapping` makes, with `room` entries to go. The copy
of a nested value starts at depth zero again. -/
def safeEntries (room : ℕ) : List (Text × Payload φ) → List (Text × Payload φ)
  | [] => []
  | (key, item) :: entries =>
    match room with
    | 0 => [(truncatedKey, .bool true)]
    | room + 1 =>
      (normalizedKey key,
        if isSensitive lower (normalizedKey key) then .text "[redacted]".toList
        else safeValue 0 item) :: safeEntries room entries
termination_by structural entries => entries

end

def safeMapping (entries : List (Text × Payload φ)) : List (Text × Payload φ) :=
  dictOf (safeEntries lower safeCollectionLimit entries)

structure Readings (φ : Type) where
  loads : Text → Option (Payload φ)
  dumps : List (Text × Payload φ) → Text
  sha256 : Text → Text
  str : Payload φ → Text
  strip : Text → Text
  toInt : Payload φ → Option Int
  parseUuid : Text → Option ℕ

structure WorkIndex where
  snapshotOf : ℕ → SyncTargetKind → Option ℕ
  journalOf : ℕ → ContentPipelineStage → Option ℕ

structure DeadLetterRow (φ : Type) where
  id : ℕ
  deduplicationKey : Text
  brokerMessageId : Option Text
  payloadHash : Text
  eventType : Option Text
  workKind : Option RecoveryWorkKind
  workId : Option ℕ
  normalizedReason : Text
  deathCount : Int
  safePayload : List (Text × Payload φ)
  safeHeaders : List (Text × Payload φ)
  status : RecoveryDeadLetterStatus := .unresolved
  recoveryItemId : Option ℕ := none
  resolvedAt : Option ℕ := none
  resolutionNote : Option Text := none
  createdAt : ℕ
  updatedAt : ℕ

section Recording

variable (readings : Readings φ)

def decodePayload : Payload φ → List (Text × Payload φ)
  | .mapping entries => entries
  | .text raw => decodeText raw
  | .bytes raw => decodeText raw
  | payload => [("raw".toList, payload)]
where
  decodeText (raw : Text) : List (Text × Payload φ) :=
    match readings.loads raw with
    | some (.mapping entries) => entries
    | some decoded => [("raw".toList, decoded)]
    | none => [("raw".toList, .text (raw.take safeTextLimit))]

def getEntry (entries : List (Text × Payload φ)) (key : String) : Payload φ :=
  (lastOf entries key.toList).getD .none

def optionalText (limit : ℕ) : Payload φ → Option Text
  | .none => none
  | value =>
    let normalized := (readings.strip (readings.str value)).take limit
    if normalized = [] then none else some normalized

def deathCount : Option (List (Text × Payload φ)) → Int
  | none => 1
  | some headers =>
    match getEntry headers "x-death" with
    | .sequence entries =>
      let counts := entries.map fun
        | .mapping entry => match getEntry entry "count" with
          | .text value => (readings.toInt (.text value)).getD 0
          | .int n => n
          | .float x => (readings.toInt (.float x)).getD 0
          | _ => 0
        | _ => 0
      max (counts.foldl max 0 + 1) 1
    | _ => 1

def stageOf (raw : Text) : Option ContentPipelineStage :=
  [ContentPipelineStage.ingest, .transcode, .ocr, .embed, .classify, .syncQdrant,
    .syncMeili].find? (·.value.toList = raw)

def syncTargetByStage : ContentPipelineStage → Option SyncTargetKind
  | .syncQdrant => some .qdrant
  | .syncMeili => some .meilisearch
  | _ => none

def resolveDeadLetterWork (index : WorkIndex) (payload : List (Text × Payload φ)) :
    Option (RecoveryWorkKind × ℕ) :=
  match readings.parseUuid (readings.str (getEntry payload "ingest_request_id")) with
  | some request => some (.ingestRequest, request)
  | none => do
    let memeFileId ← readings.parseUuid (readings.str (getEntry payload "meme_file_id"))
    let raw ← match getEntry payload "stage" with
      | .text raw => some raw
      | _ => none
    let stage ← stageOf raw
    let snapshot := (syncTargetByStage stage).bind (index.snapshotOf memeFileId)
    match snapshot with
    | some snapshotId => some (.syncTarget, snapshotId)
    | none => (index.journalOf memeFileId stage).map fun journalId => (.pipelineStage, journalId)

structure Delivery (φ : Type) where
  payload : Payload φ
  headers : Option (List (Text × Payload φ))
  brokerMessageId : Option Text
  normalizedReason : Text

def deadLetterValues (index : WorkIndex) (deadLetterId now : ℕ) (delivery : Delivery φ) :
    DeadLetterRow φ :=
  let decoded := decodePayload readings delivery.payload
  let payloadHash := readings.sha256 (readings.dumps decoded)
  let work := resolveDeadLetterWork readings index decoded
  { id := deadLetterId
    deduplicationKey := readings.sha256 (delivery.brokerMessageId.getD [] ++
      ':' :: (delivery.normalizedReason ++ ':' :: payloadHash))
    brokerMessageId := delivery.brokerMessageId.bind fun messageId =>
      optionalText readings 255 (.text messageId)
    payloadHash := payloadHash
    eventType := optionalText readings 128 (getEntry decoded "event_type")
    workKind := work.map (·.1)
    workId := work.map (·.2)
    normalizedReason := delivery.normalizedReason.take 128
    deathCount := deathCount readings delivery.headers
    safePayload := safeMapping lower decoded
    safeHeaders := safeMapping lower (delivery.headers.getD [])
    createdAt := now
    updatedAt := now }

end Recording

def Payload.isAtom : Payload φ → Bool
  | .mapping _ => false
  | .sequence _ => false
  | _ => true

theorem Payload.nestedInduction {motive : Payload φ → Prop}
    (atom : ∀ value : Payload φ, value.isAtom = true → motive value)
    (mapping : ∀ entries : List (Text × Payload φ),
      (∀ entry ∈ entries, motive entry.2) → motive (.mapping entries))
    (sequence : ∀ items : List (Payload φ),
      (∀ item ∈ items, motive item) → motive (.sequence items)) (value : Payload φ) :
    motive value :=
  @Payload.rec φ motive (fun entries => ∀ entry ∈ entries, motive entry.2)
    (fun items => ∀ item ∈ items, motive item) (fun entry => motive entry.2)
    (atom .none rfl) (fun b => atom (.bool b) rfl) (fun n => atom (.int n) rfl)
    (fun x => atom (.float x) rfl) (fun value => atom (.text value) rfl)
    (fun decoded => atom (.bytes decoded) rfl) mapping sequence
    (fun str => atom (.other str) rfl) (by simp)
    (fun _ _ hentry hentries => List.forall_mem_cons.mpr ⟨hentry, hentries⟩) (by simp)
    (fun _ _ hitem hitems => List.forall_mem_cons.mpr ⟨hitem, hitems⟩)
    (fun _ _ hitem => hitem) value

/-- The assignment that the loop of `_safe_mapping` makes for one entry. -/
def safeEntry (entry : Text × Payload φ) : Text × Payload φ :=
  (normalizedKey entry.1,
    if isSensitive lower (normalizedKey entry.1) then .text "[redacted]".toList
    else safeValue lower 0 entry.2)

theorem safeItems_eq (depth : ℕ) (items : List (Payload φ)) :
    ∀ room, safeItems lower depth room items =
      (items.take room).map (safeValue lower depth) := by
  induction items with
  | nil => simp [safeItems]
  | cons item items ih =>
    intro room
    cases room with
    | zero => simp [safeItems]
    | succ room => rw [safeItems, ih, List.take_succ_cons, List.map_cons]

theorem safeEntries_eq (entries : List (Text × Payload φ)) :
    ∀ room, safeEntries lower room entries = (entries.take room).map (safeEntry lower) ++
      if room < entries.length then [(truncatedKey, .bool true)] else [] := by
  induction entries with
  | nil => simp [safeEntries]
  | cons entry entries ih =>
    intro room
    cases room with
    | zero => simp [safeEntries]
    | succ room =>
      rw [safeEntries, ih, List.take_succ_cons, List.map_cons, List.cons_append]
      simp only [List.length_cons, Nat.add_lt_add_iff_right, safeEntry]

variable {lower} {depth : ℕ}

theorem safeValue_of_limit_le (h : safeDepthLimit ≤ depth) (value : Payload φ) :
    safeValue lower depth value = .text "[truncated]".toList := by
  unfold safeValue
  rw [if_pos h]

theorem safeValue_mapping (h : depth < safeDepthLimit) (entries : List (Text × Payload φ)) :
    safeValue lower depth (.mapping entries) = .mapping (safeMapping lower entries) := by
  rw [safeValue, if_neg (not_le.mpr h), safeMapping]

theorem safeValue_sequence (h : depth < safeDepthLimit) (items : List (Payload φ)) :
    safeValue lower depth (.sequence items) =
      .sequence ((items.take safeCollectionLimit).map (safeValue lower (depth + 1))) := by
  rw [safeValue, if_neg (not_le.mpr h), safeItems_eq]

def lastEntry (entries : List (Text × Payload φ)) (key : Text) : Option (Text × Payload φ) :=
  (entries.take safeCollectionLimit).reverse.find? fun entry => normalizedKey entry.1 = key

def Kept (entries : List (Text × Payload φ)) (entry : Text × Payload φ) : Prop :=
  lastEntry entries (normalizedKey entry.1) = some entry ∧
    (entries.length ≤ safeCollectionLimit ∨ normalizedKey entry.1 ≠ truncatedKey)

theorem Kept.mem {entries : List (Text × Payload φ)} {entry : Text × Payload φ}
    (h : Kept entries entry) : entry ∈ entries :=
  List.mem_of_mem_take (List.mem_reverse.mp (List.mem_of_find?_eq_some h.1))

theorem lastOf_safeEntries (entries : List (Text × Payload φ)) (key : Text) :
    lastOf (safeEntries lower safeCollectionLimit entries) key =
      if safeCollectionLimit < entries.length ∧ truncatedKey = key then some (.bool true)
      else (lastEntry entries key).map fun entry => (safeEntry lower entry).2 := by
  have hcopies : lastOf ((entries.take safeCollectionLimit).map (safeEntry lower)) key =
      (lastEntry entries key).map fun entry => (safeEntry lower entry).2 := by
    rw [lastOf, lastEntry, ← List.map_reverse, List.find?_map, Option.map_map]
    rfl
  rw [safeEntries_eq]
  by_cases hlong : safeCollectionLimit < entries.length
  · rw [if_pos hlong, lastOf_snoc, hcopies]
    simp [hlong]
  · rw [if_neg hlong, List.append_nil, hcopies]
    simp [hlong]

theorem mem_safeMapping {entries : List (Text × Payload φ)} {key : Text} {copy : Payload φ} :
    (key, copy) ∈ safeMapping lower entries ↔
      (safeCollectionLimit < entries.length ∧ truncatedKey = key ∧ .bool true = copy) ∨
        ∃ entry, Kept entries entry ∧ safeEntry lower entry = (key, copy) := by
  have hkey : ∀ entry, lastEntry entries key = some entry → normalizedKey entry.1 = key := by
    intro entry hentry
    simpa using List.find?_some hentry
  rw [safeMapping, mem_dictOf, lastOf_safeEntries]
  split
  · next hmarker =>
    constructor
    · intro h
      exact Or.inl ⟨hmarker.1, hmarker.2, Option.some.inj h⟩
    rintro (⟨-, -, rfl⟩ | ⟨entry, hkept, hentry⟩)
    · rfl
    have hsame : normalizedKey entry.1 = key := congrArg Prod.fst hentry
    obtain hshort | hother := hkept.2
    · omega
    · exact absurd (hsame.trans hmarker.2.symm) hother
  · next hmarker =>
    constructor
    · intro h
      obtain ⟨entry, hlast, hcopy⟩ := Option.map_eq_some_iff.mp h
      have hsame := hkey entry hlast
      refine Or.inr ⟨entry, ⟨hsame ▸ hlast, ?_⟩, Prod.ext hsame hcopy⟩
      rw [hsame]
      by_contra hboth
      simp only [not_or, not_le, not_not] at hboth
      exact hmarker ⟨hboth.1, hboth.2.symm⟩
    rintro (⟨hlong, hsame, -⟩ | ⟨entry, hkept, hentry⟩)
    · exact absurd ⟨hlong, hsame⟩ hmarker
    · have hsame : normalizedKey entry.1 = key := congrArg Prod.fst hentry
      rw [← hsame, hkept.1, Option.map_some, hentry]

mutual

def nesting : Payload φ → ℕ
  | .mapping entries => nestingEntries entries + 1
  | .sequence items => nestingItems items + 1
  | _ => 0

def nestingItems : List (Payload φ) → ℕ
  | [] => 0
  | item :: items => max (nesting item) (nestingItems items)

def nestingEntries : List (Text × Payload φ) → ℕ
  | [] => 0
  | (_, item) :: entries => max (nesting item) (nestingEntries entries)

end

theorem le_nestingItems_iff (n : ℕ) (items : List (Payload φ)) :
    n ≤ nestingItems items ↔ n = 0 ∨ ∃ item ∈ items, n ≤ nesting item := by
  induction items with
  | nil => simp [nestingItems]
  | cons item items ih =>
    rw [nestingItems, le_max_iff, ih]
    grind

theorem le_nestingEntries_iff (n : ℕ) (entries : List (Text × Payload φ)) :
    n ≤ nestingEntries entries ↔ n = 0 ∨ ∃ entry ∈ entries, n ≤ nesting entry.2 := by
  induction entries with
  | nil => simp [nestingEntries]
  | cons entry entries ih =>
    rw [nestingEntries, le_max_iff, ih]
    grind

variable (lower) in
/-- `n` nested collections that are all copied: each is one of the first items of the one
around it, or a kept entry under a key that is not redacted. The list budget is `depth`. -/
def Chain : ℕ → ℕ → Payload φ → Prop
  | 0, _, _ => True
  | n + 1, depth, value => depth < safeDepthLimit ∧
    ((∃ items, value = .sequence items ∧
        (n = 0 ∨ ∃ item ∈ items.take safeCollectionLimit, Chain n (depth + 1) item)) ∨
      ∃ entries, value = .mapping entries ∧
        (n = 0 ∨ ∃ entry, Kept entries entry ∧
          isSensitive lower (normalizedKey entry.1) = false ∧ Chain n 0 entry.2))

theorem nesting_atom {value : Payload φ} (h : value.isAtom = true) :
    nesting (safeValue lower depth value) = 0 := by
  unfold safeValue
  split
  · rfl
  · cases value <;> first | rfl | cases h

theorem le_nesting_safeMapping_iff {n : ℕ} {entries : List (Text × Payload φ)}
    (hcopy : ∀ entry : Text × Payload φ,
      n ≤ nesting (safeValue lower 0 entry.2) ↔ Chain lower n 0 entry.2) :
    n ≤ nestingEntries (safeMapping lower entries) ↔
      n = 0 ∨ ∃ entry, Kept entries entry ∧
        isSensitive lower (normalizedKey entry.1) = false ∧ Chain lower n 0 entry.2 := by
  rw [le_nestingEntries_iff]
  refine or_congr_right' ?_
  intro hpos
  constructor
  · rintro ⟨⟨key, copy⟩, hmem, hle⟩
    obtain ⟨-, -, rfl⟩ | ⟨entry, hkept, hentry⟩ := mem_safeMapping.mp hmem
    · exact absurd (Nat.le_zero.mp hle) hpos
    have hsame : (safeEntry lower entry).2 = copy := congrArg Prod.snd hentry
    unfold safeEntry at hsame
    cases hsensitive : isSensitive lower (normalizedKey entry.1) with
    | true =>
      rw [hsensitive, if_pos rfl] at hsame
      rw [← hsame] at hle
      exact absurd (Nat.le_zero.mp hle) hpos
    | false =>
      rw [hsensitive, if_neg Bool.false_ne_true] at hsame
      rw [← hsame] at hle
      exact ⟨entry, hkept, hsensitive, (hcopy entry).mp hle⟩
  · rintro ⟨entry, hkept, hsensitive, hchain⟩
    refine ⟨safeEntry lower entry, mem_safeMapping.mpr (Or.inr ⟨entry, hkept, rfl⟩), ?_⟩
    unfold safeEntry
    rw [hsensitive, if_neg Bool.false_ne_true]
    exact (hcopy entry).mpr hchain

theorem le_nesting_iff (n : ℕ) : ∀ (depth : ℕ) (value : Payload φ),
    n ≤ nesting (safeValue lower depth value) ↔ Chain lower n depth value := by
  induction n with
  | zero => simp [Chain]
  | succ n ih =>
    intro depth value
    rw [Chain]
    obtain hdeep | hdepth := Nat.lt_or_ge depth safeDepthLimit |>.symm
    · rw [safeValue_of_limit_le hdeep]
      simp [nesting, not_lt.mpr hdeep]
    cases value with
    | mapping entries =>
      rw [safeValue_mapping hdepth, nesting, Nat.add_le_add_iff_right,
        le_nesting_safeMapping_iff fun entry => ih 0 entry.2]
      simp [hdepth]
    | sequence items =>
      rw [safeValue_sequence hdepth, nesting, Nat.add_le_add_iff_right,
        le_nestingItems_iff]
      simp only [List.mem_map, exists_exists_and_eq_and, ih, hdepth, true_and,
        Payload.sequence.injEq, exists_eq_left', reduceCtorEq, false_and, exists_false,
        or_false]
    | _ =>
      rw [nesting_atom rfl]
      simp

theorem map_eq_of_map_eq {α β γ : Type*} {f : α → β} {g : α → γ} {others items : List α}
    (h : others.map f = items.map f)
    (hsame : ∀ item ∈ items, ∀ value, f value = f item → g value = g item) :
    others.map g = items.map g := by
  induction items generalizing others with
  | nil =>
    rw [List.map_nil, List.map_eq_nil_iff] at h
    rw [h]
  | cons item items ih =>
    obtain ⟨value, rest, rfl, hvalue, hrest⟩ := List.map_eq_cons_iff.mp h
    rw [List.map_cons, List.map_cons, hsame item List.mem_cons_self value hvalue,
      ih hrest fun item hitem => hsame item (List.mem_cons_of_mem _ hitem)]

section Masking

variable (lower)

mutual

def mask : Payload φ → Payload φ
  | .mapping entries => .mapping (maskEntries entries)
  | .sequence items => .sequence (maskItems items)
  | value => value

def maskItems : List (Payload φ) → List (Payload φ)
  | [] => []
  | item :: items => mask item :: maskItems items

def maskEntries : List (Text × Payload φ) → List (Text × Payload φ)
  | [] => []
  | (key, item) :: entries =>
    (key, if isSensitive lower key then .none else mask item) :: maskEntries entries

end

def maskEntry (entry : Text × Payload φ) : Text × Payload φ :=
  (entry.1, if isSensitive lower entry.1 then .none else mask lower entry.2)

end Masking

theorem maskItems_eq (items : List (Payload φ)) :
    maskItems lower items = items.map (mask lower) := by
  induction items with
  | nil => rfl
  | cons item items ih => rw [maskItems, ih, List.map_cons]

theorem maskEntries_eq (entries : List (Text × Payload φ)) :
    maskEntries lower entries = entries.map (maskEntry lower) := by
  induction entries with
  | nil => rfl
  | cons entry entries ih => rw [maskEntries, ih, List.map_cons, maskEntry]

theorem mask_atom {value : Payload φ} (h : value.isAtom = true) : mask lower value = value := by
  cases value <;> first | rfl | cases h

variable (lower) in
/-- A value under a sensitive key is copied, since the key is cut before it is looked at. -/
inductive Leaks : ℕ → Payload φ → Prop where
  | entry {depth : ℕ} {entries : List (Text × Payload φ)} {entry : Text × Payload φ}
      (depth_lt : depth < safeDepthLimit) (kept : Kept entries entry)
      (shown : isSensitive lower (normalizedKey entry.1) = false)
      (sensitive : isSensitive lower entry.1 = true) : Leaks depth (.mapping entries)
  | inner {depth : ℕ} {entries : List (Text × Payload φ)} {entry : Text × Payload φ}
      (depth_lt : depth < safeDepthLimit) (kept : Kept entries entry)
      (shown : isSensitive lower (normalizedKey entry.1) = false)
      (below : Leaks 0 entry.2) : Leaks depth (.mapping entries)
  | item {depth : ℕ} {items : List (Payload φ)} {item : Payload φ}
      (depth_lt : depth < safeDepthLimit) (first : item ∈ items.take safeCollectionLimit)
      (below : Leaks (depth + 1) item) : Leaks depth (.sequence items)

section Sealed

variable {entries other : List (Text × Payload φ)}

section Masked

variable (h : other.map (maskEntry lower) = entries.map (maskEntry lower))

include h

theorem keys_of_masked : other.map (·.1) = entries.map (·.1) := by
  have hkeys := congrArg (List.map (·.1)) h
  rwa [List.map_map, List.map_map] at hkeys

theorem lastEntry_of_masked (key : Text) :
    (lastEntry other key).map (maskEntry lower) =
      (lastEntry entries key).map (maskEntry lower) := by
  have hfind : ∀ entries : List (Text × Payload φ),
      (lastEntry entries key).map (maskEntry lower) =
        ((entries.map (maskEntry lower)).take safeCollectionLimit).reverse.find?
          fun entry => normalizedKey entry.1 = key := by
    intro entries
    rw [lastEntry, ← List.map_take, ← List.map_reverse, List.find?_map]
    rfl
  rw [hfind, hfind, h]

theorem safeMapping_of_masked
    (hcopy : ∀ entry : Text × Payload φ, Kept entries entry →
      isSensitive lower (normalizedKey entry.1) = false → ∀ value : Payload φ,
        maskEntry lower (entry.1, value) = maskEntry lower entry →
          safeValue lower 0 value = safeValue lower 0 entry.2) :
    safeMapping lower other = safeMapping lower entries := by
  have hkeys := keys_of_masked h
  have hlength : other.length = entries.length := by
    simpa using congrArg List.length hkeys
  refine dictOf_congr ?_ ?_
  · have hcut : ∀ entries : List (Text × Payload φ),
        ((entries.take safeCollectionLimit).map (safeEntry lower)).map (·.1) =
          ((entries.map (·.1)).take safeCollectionLimit).map normalizedKey := by
      intro entries
      rw [List.map_map, ← List.map_take, List.map_map]
      rfl
    rw [safeEntries_eq, safeEntries_eq, List.map_append, List.map_append, hcut, hcut, hkeys,
      hlength]
  intro key
  rw [lastOf_safeEntries, lastOf_safeEntries, hlength]
  split
  · rfl
  next hmarker =>
  have hfound := lastEntry_of_masked h key
  cases hentry : lastEntry entries key with
  | none =>
    rw [hentry, Option.map_none, Option.map_eq_none_iff] at hfound
    rw [hfound, Option.map_none]
  | some entry =>
    rw [hentry, Option.map_some] at hfound
    obtain ⟨found, hother, hmasked⟩ := Option.map_eq_some_iff.mp hfound
    have hsame : normalizedKey entry.1 = key := by simpa using List.find?_some hentry
    have hname : (maskEntry lower found).1 = (maskEntry lower entry).1 := by rw [hmasked]
    simp only [maskEntry] at hname
    rw [hother, Option.map_some, Option.map_some, safeEntry, safeEntry, hname]
    cases hshown : isSensitive lower (normalizedKey entry.1) with
    | true => rfl
    | false =>
      have hkept : Kept entries entry := by
        refine ⟨hsame ▸ hentry, ?_⟩
        rw [hsame]
        by_contra hboth
        simp only [not_or, not_le, not_not] at hboth
        exact hmarker ⟨hboth.1, hboth.2.symm⟩
      have hvalue := hcopy entry hkept hshown found.2 (by rw [← hname]; exact hmasked)
      rw [if_neg Bool.false_ne_true, if_neg Bool.false_ne_true, hvalue]

end Masked

end Sealed

theorem safeValue_of_masked (value : Payload φ) : ∀ (other : Payload φ) (depth : ℕ),
    mask lower other = mask lower value → ¬Leaks lower depth value →
      safeValue lower depth other = safeValue lower depth value := by
  induction value using Payload.nestedInduction with
  | atom value hatom =>
    intro other depth hmask _
    rw [mask_atom hatom] at hmask
    have hother : other.isAtom = true := by
      cases other with
      | mapping entries =>
        rw [mask] at hmask
        rw [← hmask] at hatom
        exact hatom
      | sequence items =>
        rw [mask] at hmask
        rw [← hmask] at hatom
        exact hatom
      | _ => rfl
    rw [mask_atom hother] at hmask
    rw [hmask]
  | mapping entries ih =>
    intro other depth hmask hleaks
    obtain hdeep | hdepth := Nat.lt_or_ge depth safeDepthLimit |>.symm
    · rw [safeValue_of_limit_le hdeep, safeValue_of_limit_le hdeep]
    cases other with
    | mapping others =>
      rw [mask, mask, Payload.mapping.injEq, maskEntries_eq, maskEntries_eq] at hmask
      rw [safeValue_mapping hdepth, safeValue_mapping hdepth,
        safeMapping_of_masked hmask]
      intro entry hkept hshown value hvalue
      cases hsensitive : isSensitive lower entry.1 with
      | true => exact absurd (Leaks.entry hdepth hkept hshown hsensitive) hleaks
      | false =>
        refine ih entry hkept.mem value 0 ?_ fun hbelow =>
          hleaks (Leaks.inner hdepth hkept hshown hbelow)
        have hsecond := congrArg Prod.snd hvalue
        simpa only [maskEntry, hsensitive, if_neg Bool.false_ne_true] using hsecond
    | sequence items =>
      rw [mask, mask] at hmask
      cases hmask
    | _ => simp [mask] at hmask
  | sequence items ih =>
    intro other depth hmask hleaks
    obtain hdeep | hdepth := Nat.lt_or_ge depth safeDepthLimit |>.symm
    · rw [safeValue_of_limit_le hdeep, safeValue_of_limit_le hdeep]
    cases other with
    | sequence others =>
      rw [mask, mask, Payload.sequence.injEq, maskItems_eq, maskItems_eq] at hmask
      rw [safeValue_sequence hdepth, safeValue_sequence hdepth, Payload.sequence.injEq]
      have hfirst := congrArg (List.take safeCollectionLimit) hmask
      rw [← List.map_take, ← List.map_take] at hfirst
      refine map_eq_of_map_eq hfirst ?_
      intro item hitem value hvalue
      exact ih item (List.mem_of_mem_take hitem) value (depth + 1) hvalue fun hbelow =>
        hleaks (Leaks.item hdepth hitem hbelow)
    | mapping entries =>
      rw [mask, mask] at hmask
      cases hmask
    | _ => simp [mask] at hmask

theorem Kept.exchange (lower : Text → Text) {entries : List (Text × Payload φ)}
    {entry : Text × Payload φ}
    (h : Kept entries entry) (value : Payload φ) :
    ∃ other : List (Text × Payload φ), Kept other (entry.1, value) ∧
      (maskEntry lower (entry.1, value) = maskEntry lower entry →
        other.map (maskEntry lower) = entries.map (maskEntry lower)) := by
  obtain ⟨-, after, before, hsplit, hafter⟩ := List.find?_eq_some_iff_append.mp h.1
  have hfirst : entries.take safeCollectionLimit = before.reverse ++ entry :: after.reverse := by
    rw [← List.reverse_reverse (entries.take safeCollectionLimit), hsplit]
    simp
  have hentries : entries =
      before.reverse ++ entry :: after.reverse ++ entries.drop safeCollectionLimit := by
    rw [← hfirst, List.take_append_drop]
  have htake : (before.reverse ++ (entry.1, value) :: after.reverse ++
      entries.drop safeCollectionLimit).take safeCollectionLimit =
        before.reverse ++ (entry.1, value) :: after.reverse := by
    have hcount : (before.reverse ++ (entry.1, value) :: after.reverse).length =
        min safeCollectionLimit entries.length := by
      rw [← List.length_take, hfirst]
      simp
    obtain hshort | hlong := le_total entries.length safeCollectionLimit
    · rw [List.drop_of_length_le hshort, List.append_nil, List.take_of_length_le]
      exact hcount.le.trans (min_le_left _ _)
    · rw [min_eq_left hlong] at hcount
      rw [List.take_append_of_le_length hcount.ge, List.take_of_length_le hcount.le]
  have hlength : (before.reverse ++ (entry.1, value) :: after.reverse ++
      entries.drop safeCollectionLimit).length = entries.length := by
    conv_rhs => rw [hentries]
    simp
  refine ⟨before.reverse ++ (entry.1, value) :: after.reverse ++
    entries.drop safeCollectionLimit, ⟨?_, ?_⟩, ?_⟩
  · rw [lastEntry, htake]
    refine List.find?_eq_some_iff_append.mpr ⟨by simp, after, before, by simp, hafter⟩
  · rw [hlength]
    exact h.2
  intro hmask
  conv_rhs => rw [hentries]
  simp [hmask]

theorem safeMapping_ne {entries other : List (Text × Payload φ)} {entry : Text × Payload φ}
    {value : Payload φ} (hkept : Kept entries entry) (hother : Kept other (entry.1, value))
    (hshown : isSensitive lower (normalizedKey entry.1) = false)
    (hne : safeValue lower 0 value ≠ safeValue lower 0 entry.2) :
    safeMapping lower other ≠ safeMapping lower entries := by
  intro hsame
  have hthere : safeEntry lower entry ∈ safeMapping lower entries :=
    mem_safeMapping.mpr (Or.inr ⟨entry, hkept, rfl⟩)
  have hhere : safeEntry lower (entry.1, value) ∈ safeMapping lower other :=
    mem_safeMapping.mpr (Or.inr ⟨(entry.1, value), hother, rfl⟩)
  rw [hsame] at hhere
  have hunique := (mem_dictOf.mp hhere).symm.trans (mem_dictOf.mp hthere)
  simp only [hshown, if_neg Bool.false_ne_true, Option.some.injEq] at hunique
  exact hne hunique

theorem Leaks.shows {depth : ℕ} {value : Payload φ} (h : Leaks lower depth value) :
    ∃ other : Payload φ, mask lower other = mask lower value ∧
      safeValue lower depth other ≠ safeValue lower depth value := by
  induction h with
  | @entry depth entries entry hdepth hkept hshown hsensitive =>
    have hother : ∃ b : Bool,
        safeValue lower 0 (.bool b) ≠ safeValue lower 0 entry.2 := by
      by_contra hall
      simp only [not_exists, not_not] at hall
      have hboth := (hall true).trans (hall false).symm
      rw [safeValue, safeValue] at hboth
      simp [safeDepthLimit] at hboth
    obtain ⟨b, hb⟩ := hother
    obtain ⟨other, hkeptOther, hmask⟩ := hkept.exchange lower (.bool b)
    refine ⟨.mapping other, ?_, ?_⟩
    · rw [mask, mask, maskEntries_eq, maskEntries_eq,
        hmask (by simp only [maskEntry, hsensitive, if_pos])]
    · rw [safeValue_mapping hdepth, safeValue_mapping hdepth, ne_eq, Payload.mapping.injEq]
      exact safeMapping_ne hkept hkeptOther hshown hb
  | @inner depth entries entry hdepth hkept hshown _ ih =>
    obtain ⟨value, hmaskValue, hne⟩ := ih
    obtain ⟨other, hkeptOther, hmask⟩ := hkept.exchange lower value
    refine ⟨.mapping other, ?_, ?_⟩
    · rw [mask, mask, maskEntries_eq, maskEntries_eq,
        hmask (by simp only [maskEntry, hmaskValue])]
    · rw [safeValue_mapping hdepth, safeValue_mapping hdepth, ne_eq, Payload.mapping.injEq]
      exact safeMapping_ne hkept hkeptOther hshown hne
  | @item depth items item hdepth hfirst _ ih =>
    obtain ⟨value, hmaskValue, hne⟩ := ih
    obtain ⟨before, after, hsplit⟩ := List.append_of_mem hfirst
    have hitems : items = before ++ item :: (after ++ items.drop safeCollectionLimit) := by
      conv_lhs => rw [← List.take_append_drop safeCollectionLimit items, hsplit]
      simp
    have hplace : before.length < safeCollectionLimit := by
      have hlength := congrArg List.length hsplit
      rw [List.length_take, List.length_append, List.length_cons] at hlength
      omega
    refine ⟨.sequence (before ++ value :: (after ++ items.drop safeCollectionLimit)), ?_, ?_⟩
    · conv_rhs => rw [hitems]
      rw [mask, mask, maskItems_eq, maskItems_eq]
      simp [hmaskValue]
    conv_rhs => rw [hitems]
    rw [safeValue_sequence hdepth, safeValue_sequence hdepth, ne_eq,
      Payload.sequence.injEq]
    intro hsame
    have hat := congrArg (·[before.length]?) hsame
    simp [hplace, hne] at hat

/-- No text is long and no collection has many entries. A mapping may have one more, which
says that it was cut. -/
inductive Bounded : Payload φ → Prop where
  | none : Bounded .none
  | bool (b : Bool) : Bounded (.bool b)
  | int (n : Int) : Bounded (.int n)
  | float (x : φ) : Bounded (.float x)
  | text {value : Text} (short : value.length ≤ safeTextLimit) : Bounded (.text value)
  | mapping {entries : List (Text × Payload φ)}
      (few : entries.length ≤ safeCollectionLimit + 1)
      (keys : ∀ entry ∈ entries, entry.1.length ≤ safeKeyLimit)
      (values : ∀ entry ∈ entries, Bounded entry.2) : Bounded (.mapping entries)
  | sequence {items : List (Payload φ)} (few : items.length ≤ safeCollectionLimit)
      (values : ∀ item ∈ items, Bounded item) : Bounded (.sequence items)

theorem length_safeMapping_le (entries : List (Text × Payload φ)) :
    (safeMapping lower entries).length ≤ safeCollectionLimit + 1 := by
  refine length_dictOf_le.trans ?_
  rw [safeEntries_eq, List.length_append, List.length_map]
  have hmarker : (if safeCollectionLimit < entries.length
      then [(truncatedKey, (.bool true : Payload φ))] else []).length ≤ 1 := by
    split <;> simp
  exact Nat.add_le_add (List.length_take_le _ _) hmarker

theorem bounded_safeValue (value : Payload φ) : ∀ depth : ℕ,
    Bounded (safeValue lower depth value) := by
  have hcut : ∀ text : Text, Bounded (.text (text.take safeTextLimit) : Payload φ) :=
    fun text => Bounded.text (List.length_take_le _ _)
  have hmarker : ∀ text : Text, text.length ≤ 20 → Bounded (.text text : Payload φ) :=
    fun text hshort => Bounded.text (hshort.trans (by decide))
  induction value using Payload.nestedInduction with
  | atom value hatom =>
    intro depth
    unfold safeValue
    split
    · exact hmarker _ (by decide)
    cases value with
    | none => exact Bounded.none
    | bool b => exact Bounded.bool b
    | int n => exact Bounded.int n
    | float x => exact Bounded.float x
    | text value => exact hcut value
    | bytes decoded => exact hcut decoded
    | other str => exact hcut str
    | mapping entries => cases hatom
    | sequence items => cases hatom
  | mapping entries ih =>
    intro depth
    obtain hdeep | hdepth := Nat.lt_or_ge depth safeDepthLimit |>.symm
    · rw [safeValue_of_limit_le hdeep]
      exact hmarker _ (by decide)
    rw [safeValue_mapping hdepth]
    refine Bounded.mapping (length_safeMapping_le entries) ?_ ?_
    · rintro ⟨key, copy⟩ hmem
      obtain ⟨-, rfl, -⟩ | ⟨entry, -, hentry⟩ := mem_safeMapping.mp hmem
      · show truncatedKey.length ≤ safeKeyLimit
        decide
      have hkey : normalizedKey entry.1 = key := congrArg Prod.fst hentry
      rw [← hkey]
      exact List.length_take_le _ _
    rintro ⟨key, copy⟩ hmem
    obtain ⟨-, -, rfl⟩ | ⟨entry, hkept, hentry⟩ := mem_safeMapping.mp hmem
    · exact Bounded.bool true
    have hcopy : (safeEntry lower entry).2 = copy := congrArg Prod.snd hentry
    rw [← hcopy]
    unfold safeEntry
    split
    · exact hmarker _ (by decide)
    · exact ih entry hkept.mem 0
  | sequence items ih =>
    intro depth
    obtain hdeep | hdepth := Nat.lt_or_ge depth safeDepthLimit |>.symm
    · rw [safeValue_of_limit_le hdeep]
      exact hmarker _ (by decide)
    rw [safeValue_sequence hdepth]
    refine Bounded.sequence ?_ ?_
    · rw [List.length_map]
      exact List.length_take_le _ _
    intro copy hmem
    obtain ⟨item, hitem, rfl⟩ := List.mem_map.mp hmem
    exact ih item (List.mem_of_mem_take hitem) (depth + 1)

/-- What the copy of these entries is for: it is nested no deeper than the limit below its top,
it says nothing of what stands under a sensitive key, and its size is bounded. -/
structure Sanitised (lower : Text → Text) (entries copy : List (Text × Payload φ)) : Prop where
  depth : nesting (.mapping copy) ≤ safeDepthLimit + 1
  secrets : ∀ other : List (Text × Payload φ),
    maskEntries lower other = maskEntries lower entries → safeMapping lower other = copy
  bounded : Bounded (.mapping copy)

/-- The stored copy is sanitised unless more collections than the limit are nested and copied,
or a sensitive key is cut to one that does not look so. -/
theorem sanitised_iff (lower : Text → Text) (readings : Readings φ) (index : WorkIndex)
    (deadLetterId now : ℕ) (delivery : Delivery φ) :
    Sanitised lower (decodePayload readings delivery.payload)
        (deadLetterValues lower readings index deadLetterId now delivery).safePayload ↔
      ¬Chain lower (safeDepthLimit + 2) 0
          (.mapping (decodePayload readings delivery.payload)) ∧
        ¬Leaks lower 0 (.mapping (decodePayload readings delivery.payload)) := by
  have hcopy : (deadLetterValues lower readings index deadLetterId now delivery).safePayload =
      safeMapping lower (decodePayload readings delivery.payload) := rfl
  rw [hcopy]
  generalize decodePayload readings delivery.payload = entries
  have hzero : 0 < safeDepthLimit := by decide
  have hvalue : ∀ entries : List (Text × Payload φ),
      safeValue lower 0 (.mapping entries) = .mapping (safeMapping lower entries) :=
    safeValue_mapping hzero
  have hdepth := @le_nesting_iff φ lower (safeDepthLimit + 2) 0 (.mapping entries)
  rw [hvalue] at hdepth
  constructor
  · intro h
    refine ⟨fun hchain => ?_, fun hleaks => ?_⟩
    · exact absurd (hdepth.mpr hchain) (by have := h.depth; omega)
    obtain ⟨other, hmask, hne⟩ := hleaks.shows
    cases other with
    | mapping others =>
      rw [mask, mask, Payload.mapping.injEq] at hmask
      rw [hvalue, hvalue, h.secrets others hmask] at hne
      exact hne rfl
    | sequence items =>
      rw [mask, mask] at hmask
      cases hmask
    | _ => simp [mask] at hmask
  · rintro ⟨hchain, hleaks⟩
    constructor
    case depth =>
      by_contra hdeep
      exact hchain (hdepth.mp (by omega))
    case secrets =>
      intro other hmask
      have hsame := safeValue_of_masked (.mapping entries) (.mapping other) 0
        (by rw [mask, mask, hmask]) hleaks
      rw [hvalue, hvalue, Payload.mapping.injEq] at hsame
      exact hsame
    case bounded =>
      rw [← hvalue]
      exact bounded_safeValue _ 0

def nested : ℕ → Payload φ
  | 0 => .mapping []
  | n + 1 => .mapping [(['a'], nested n)]

theorem chain_nested (hplain : isSensitive lower ['a'] = false) (n : ℕ) :
    Chain lower (n + 1) 0 (nested n : Payload φ) := by
  have hkept : ∀ value : Payload φ, Kept [(['a'], value)] (['a'], value) :=
    fun value => ⟨rfl, Or.inl (by simp [safeCollectionLimit])⟩
  induction n with
  | zero => exact ⟨by decide, Or.inr ⟨[], rfl, Or.inl rfl⟩⟩
  | succ n ih => exact ⟨by decide, Or.inr ⟨_, rfl, Or.inr ⟨_, hkept (nested n), hplain, ih⟩⟩⟩

def asciiLower (text : Text) : Text := text.map Char.toLower

/-- Six nested mappings are all copied. -/
theorem not_sanitised_nested :
    ¬∀ (readings : Readings Int) (index : WorkIndex) (deadLetterId now : ℕ)
        (delivery : Delivery Int),
      Sanitised asciiLower (decodePayload readings delivery.payload)
        (deadLetterValues asciiLower readings index deadLetterId now delivery).safePayload := by
  intro h
  let readings : Readings Int :=
    ⟨fun _ => none, fun _ => [], id, fun _ => [], id, fun _ => none, fun _ => none⟩
  have hplain : isSensitive asciiLower ['a'] = false := by decide +kernel
  have hdeep := (le_nesting_iff 6 0 (nested 5)).mpr (@chain_nested Int _ hplain 5)
  rw [nested, safeValue_mapping (by decide)] at hdeep
  have hbound :=
    (h readings ⟨fun _ _ => none, fun _ _ => none⟩ 0 0 ⟨nested 5, none, none, []⟩).depth
  exact absurd (hdeep.trans hbound) (by decide)

end MemeExpert.Services.DeadLetters
