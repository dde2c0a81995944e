import MemeExpert.Lib.Results
import MemeExpert.Recommendations.FeedPools
import MemeExpert.Services.SearchSynonymCompiler

/-! Telegram's offsets are short, so the continuation of an inline feed is kept in Redis as
JSON under a compact cursor. -/

namespace MemeExpert.Recommendations.InlineSessions

open FeedWire (UUID Readings iterated mapM_map_sortKeys ofText_str iterated_array)
open IsoDates (Stamp)
open Json Numerals

/-- How an attribution goes to JSON and back, and what the inline results make of one. The
impression id, which is drawn anew for every result, is no part of it. -/
structure Attributions (φ α : Type) where
  dump : α → Value φ
  validate : Value φ → Option α
  validate_dump : ∀ attribution, validate (dump attribution).sortKeys = some attribution
  pinned : Text → α
  stamped : Text → ℕ → Option (Text × Text) → α → α
  rank : α → ℕ
  rank_stamped : ∀ requestId place origin attribution,
    rank (stamped requestId place origin attribution) = place

structure PendingHomeRecommendation (α : Type) where
  memeId : UUID
  attribution : α

structure TelegramInlineFeedState (α : Type) where
  telegramUserId : Int
  viewerUserId : UUID
  includeNsfw : Bool
  isPersonal : Bool
  requestId : Text
  pinnedMemeIds : List UUID
  nextPinnedIndex : ℕ
  pendingHomeItems : List (PendingHomeRecommendation α)
  homeCursor : Option Text
  homeStarted : Bool
  homeExhausted : Bool
  homeTotal : ℕ
  nextRank : ℕ
  expiresAt : Stamp

structure Viewer where
  telegramUserId : Int
  viewerUserId : UUID
  includeNsfw : Bool
  isPersonal : Bool

def newTelegramInlineFeedState {α : Type} (viewer : Viewer) (requestId : Text)
    (pinnedMemeIds : List UUID) (expiresAt : Stamp) : TelegramInlineFeedState α where
  telegramUserId := viewer.telegramUserId
  viewerUserId := viewer.viewerUserId
  includeNsfw := viewer.includeNsfw
  isPersonal := viewer.isPersonal
  requestId := requestId
  pinnedMemeIds := pinnedMemeIds
  nextPinnedIndex := 0
  pendingHomeItems := []
  homeCursor := none
  homeStarted := false
  homeExhausted := false
  homeTotal := 0
  nextRank := 1
  expiresAt := expiresAt

def maxPendingItems : ℕ := 200

def ticksPerSecond : Int := 1000000

section Codec

variable {φ α : Type} (floats : Floats φ) (readings : Readings φ) (attributions : Attributions φ α)

def PendingHomeRecommendation.members (item : PendingHomeRecommendation α) :
    List (Text × Value φ) :=
  [("meme_id".toList, .string item.memeId.str),
    ("attribution".toList, attributions.dump item.attribution)]

def PendingHomeRecommendation.payload (item : PendingHomeRecommendation α) : Value φ :=
  .object (item.members attributions)

def TelegramInlineFeedState.members (state : TelegramInlineFeedState α) : List (Text × Value φ) :=
  [("v".toList, .int 1),
    ("telegram_user_id".toList, .int state.telegramUserId),
    ("viewer_user_id".toList, .string state.viewerUserId.str),
    ("include_nsfw".toList, .bool state.includeNsfw),
    ("is_personal".toList, .bool state.isPersonal),
    ("request_id".toList, .string state.requestId),
    ("pinned_meme_ids".toList, .array (state.pinnedMemeIds.map fun id => .string id.str)),
    ("next_pinned_index".toList, .int state.nextPinnedIndex),
    ("pending_home_items".toList,
      .array (state.pendingHomeItems.map (·.payload attributions))),
    ("home_cursor".toList, state.homeCursor.elim .null .string),
    ("home_started".toList, .bool state.homeStarted),
    ("home_exhausted".toList, .bool state.homeExhausted),
    ("home_total".toList, .int state.homeTotal),
    ("next_rank".toList, .int state.nextRank),
    ("expires_at".toList, .string state.expiresAt.isoformat)]

def TelegramInlineFeedState.payload (state : TelegramInlineFeedState α) : Value φ :=
  .object (state.members attributions)

def encodeState (state : TelegramInlineFeedState α) : Text :=
  dumps floats (state.payload attributions)

def decodePendingItem (raw : Value φ) : Option (PendingHomeRecommendation α) := do
  let memeId ← (raw.get? "meme_id".toList).bind readings.uuid
  let attribution ← (raw.get? "attribution".toList).bind attributions.validate
  pure ⟨memeId, attribution⟩

structure Positions (α : Type) where
  pinnedMemeIds : List UUID
  nextPinnedIndex : ℕ
  pendingHomeItems : List (PendingHomeRecommendation α)
  homeTotal : ℕ
  nextRank : ℕ

def decodePositions (payload : Value φ) : Option (Positions α) := do
  let rawPinned ← (payload.get? "pinned_meme_ids".toList).bind iterated
  let pinnedMemeIds ← rawPinned.mapM readings.uuid
  let rawPending ← (payload.get? "pending_home_items".toList).bind iterated
  let pendingHomeItems ← rawPending.mapM (decodePendingItem readings attributions)
  let nextPinnedIndex ← (payload.get? "next_pinned_index".toList).bind readings.int
  let nextRank ← (payload.get? "next_rank".toList).bind readings.int
  let homeTotal ← (payload.get? "home_total".toList).bind readings.int
  if 0 ≤ nextPinnedIndex ∧ nextPinnedIndex ≤ pinnedMemeIds.length ∧
      ¬(nextRank < 1 ∨ homeTotal < 0 ∨ maxPendingItems < pendingHomeItems.length) then
    some ⟨pinnedMemeIds, nextPinnedIndex.toNat, pendingHomeItems, homeTotal.toNat,
      nextRank.toNat⟩
  else none

def decodeViewer (payload : Value φ) : Option Viewer := do
  let telegramUserId ← (payload.get? "telegram_user_id".toList).bind readings.int
  let viewerUserId ← (payload.get? "viewer_user_id".toList).bind readings.uuid
  let includeNsfw ← (payload.get? "include_nsfw".toList).map readings.bool
  let isPersonal ← (payload.get? "is_personal".toList).map readings.bool
  pure ⟨telegramUserId, viewerUserId, includeNsfw, isPersonal⟩

def decodeHomeCursor (payload : Value φ) : Option Text :=
  ((payload.get? "home_cursor".toList).filter readings.bool).map readings.str

def decodeState (raw : Text) : Option (TelegramInlineFeedState α) := do
  let payload ← loads floats raw
  if (payload.get? "v".toList).any readings.equalsOne then
    let positions ← decodePositions readings attributions payload
    let viewer ← decodeViewer readings payload
    let requestId ← (payload.get? "request_id".toList).map readings.str
    let homeStarted ← (payload.get? "home_started".toList).map readings.bool
    let homeExhausted ← (payload.get? "home_exhausted".toList).map readings.bool
    let expiresAt ← (payload.get? "expires_at".toList).bind readings.stamp
    pure ⟨viewer.telegramUserId, viewer.viewerUserId, viewer.includeNsfw, viewer.isPersonal,
      requestId, positions.pinnedMemeIds, positions.nextPinnedIndex, positions.pendingHomeItems,
      decodeHomeCursor readings payload, homeStarted, homeExhausted, positions.homeTotal,
      positions.nextRank, expiresAt⟩
  else none

end Codec

inductive InlineFailure where
  | cursor (text : String)
  | expired (text : String)
  | unavailable (text : String)

def cursorPrefix : Text := "ti1_".toList

def newCursor (id : UUID) : Text := cursorPrefix ++ spell 16 32 id.int

def isLowerHex (c : Char) : Bool := ('0' ≤ c ∧ c ≤ '9') ∨ ('a' ≤ c ∧ c ≤ 'f')

def isCursor (text : Text) : Bool :=
  text.take 4 = cursorPrefix ∧ (text.drop 4).length = 32 ∧ (text.drop 4).all isLowerHex

/-- The texts in Redis; a key that is set again counts from then on. -/
abbrev Entries := List (Text × Text)

def Entries.get (entries : Entries) (cursor : Text) : Option Text :=
  (entries.find? (·.1 = cursor)).map (·.2)

section Store

variable {φ α : Type} (floats : Floats φ) (readings : Readings φ) (attributions : Attributions φ α)

def save (ttlSeconds : Int) (state : TelegramInlineFeedState α) (now : Int) (id : UUID)
    (available : Bool) (entries : Entries) : Except InlineFailure (Text × Entries) :=
  if min ttlSeconds ((state.expiresAt.moment - now).tdiv ticksPerSecond) ≤ 0 then
    .error (.expired "The Telegram inline feed has expired.")
  else if available then
    .ok (newCursor id, (newCursor id, encodeState floats attributions state) :: entries)
  else .error (.unavailable "Unable to persist the Telegram inline continuation.")

def load (viewer : Viewer) (cursor : Text) (now : Int) (available : Bool) (entries : Entries) :
    Except InlineFailure (TelegramInlineFeedState α) :=
  let normalized := Services.stripText cursor
  if isCursor normalized then
    if available then
      match entries.get normalized with
      | none => .error (.expired "The Telegram inline feed has expired.")
      | some raw =>
        match decodeState floats readings attributions raw with
        | none => .error (.expired "The Telegram inline continuation is unavailable.")
        | some state =>
          if state.expiresAt.moment ≤ now then
            .error (.expired "The Telegram inline feed has expired.")
          else if state.telegramUserId ≠ viewer.telegramUserId ∨
              state.viewerUserId ≠ viewer.viewerUserId ∨
              state.includeNsfw ≠ viewer.includeNsfw ∨ state.isPersonal ≠ viewer.isPersonal then
            .error (.cursor "The Telegram inline cursor does not match the active viewer.")
          else .ok state
    else .error (.unavailable "Unable to load the Telegram inline continuation.")
  else .error (.cursor "The Telegram inline cursor is invalid.")

end Store

structure Resumable {α : Type} (state : TelegramInlineFeedState α) : Prop where
  index_le : state.nextPinnedIndex ≤ state.pinnedMemeIds.length
  rank_pos : 1 ≤ state.nextRank
  pending_le : state.pendingHomeItems.length ≤ maxPendingItems
  cursor_ne : state.homeCursor ≠ some []

section RoundTrip

variable {φ α : Type} {floats : Floats φ} {readings : Readings φ}
  {attributions : Attributions φ α}

theorem decodePendingItem_payload (item : PendingHomeRecommendation α) :
    decodePendingItem readings attributions (item.payload attributions).sortKeys = some item := by
  have hkeys : ((item.members attributions).map (·.1)).Nodup := by
    change (["meme_id", "attribution"].map String.toList).Nodup
    decide
  have hmemeId : (item.payload attributions).sortKeys.get? "meme_id".toList =
      some (.string item.memeId.str) := get?_of_place hkeys 0 rfl
  have hattribution : (item.payload attributions).sortKeys.get? "attribution".toList =
      some (attributions.dump item.attribution).sortKeys := get?_of_place hkeys 1 rfl
  rw [decodePendingItem, hmemeId, hattribution]
  simp only [Option.bind_eq_bind, Option.bind_some, Readings.uuid, ofText_str,
    attributions.validate_dump]
  rfl

theorem keys_members (state : TelegramInlineFeedState α) :
    ((state.members attributions).map (·.1)).Nodup := by
  change (["v", "telegram_user_id", "viewer_user_id", "include_nsfw", "is_personal",
    "request_id", "pinned_meme_ids", "next_pinned_index", "pending_home_items", "home_cursor",
    "home_started", "home_exhausted", "home_total", "next_rank", "expires_at"].map
      String.toList).Nodup
  decide

theorem decodePositions_payload {state : TelegramInlineFeedState α} (h : Resumable state) :
    decodePositions readings attributions (state.payload attributions).sortKeys =
      some ⟨state.pinnedMemeIds, state.nextPinnedIndex, state.pendingHomeItems, state.homeTotal,
        state.nextRank⟩ := by
  have hkeys := @keys_members φ α attributions state
  have hpinned : (state.payload attributions).sortKeys.get? "pinned_meme_ids".toList =
      some (Value.array (state.pinnedMemeIds.map fun id => .string id.str)).sortKeys :=
    get?_of_place hkeys 6 rfl
  have hindex : (state.payload attributions).sortKeys.get? "next_pinned_index".toList =
      some (.int state.nextPinnedIndex) := get?_of_place hkeys 7 rfl
  have hpending : (state.payload attributions).sortKeys.get? "pending_home_items".toList =
      some (Value.array (state.pendingHomeItems.map (·.payload attributions))).sortKeys :=
    get?_of_place hkeys 8 rfl
  have htotal : (state.payload attributions).sortKeys.get? "home_total".toList =
      some (.int state.homeTotal) := get?_of_place hkeys 12 rfl
  have hrank : (state.payload attributions).sortKeys.get? "next_rank".toList =
      some (.int state.nextRank) := get?_of_place hkeys 13 rfl
  have hids := @mapM_map_sortKeys φ UUID readings.uuid (fun id => .string id.str)
    (fun id => ofText_str readings.uuidOf id) state.pinnedMemeIds
  have hitems := @mapM_map_sortKeys φ (PendingHomeRecommendation α)
    (decodePendingItem readings attributions) (·.payload attributions) decodePendingItem_payload
    state.pendingHomeItems
  have hbounds : 0 ≤ (state.nextPinnedIndex : Int) ∧
      (state.nextPinnedIndex : Int) ≤ state.pinnedMemeIds.length ∧
      ¬((state.nextRank : Int) < 1 ∨ (state.homeTotal : Int) < 0 ∨
        maxPendingItems < state.pendingHomeItems.length) := by
    have hindexLe := h.index_le
    have hrankPos := h.rank_pos
    have hpendingLe := h.pending_le
    omega
  rw [decodePositions, hpinned, hindex, hpending, htotal, hrank]
  simp only [Option.bind_eq_bind, Option.bind_some, iterated_array, hids, hitems, Readings.int,
    if_pos hbounds, Int.toNat_natCast]

theorem decodeViewer_payload (state : TelegramInlineFeedState α) :
    decodeViewer readings (state.payload attributions).sortKeys =
      some ⟨state.telegramUserId, state.viewerUserId, state.includeNsfw, state.isPersonal⟩ := by
  have hkeys := @keys_members φ α attributions state
  have htelegram : (state.payload attributions).sortKeys.get? "telegram_user_id".toList =
      some (.int state.telegramUserId) := get?_of_place hkeys 1 rfl
  have hviewer : (state.payload attributions).sortKeys.get? "viewer_user_id".toList =
      some (.string state.viewerUserId.str) := get?_of_place hkeys 2 rfl
  have hnsfw : (state.payload attributions).sortKeys.get? "include_nsfw".toList =
      some (.bool state.includeNsfw) := get?_of_place hkeys 3 rfl
  have hpersonal : (state.payload attributions).sortKeys.get? "is_personal".toList =
      some (.bool state.isPersonal) := get?_of_place hkeys 4 rfl
  rw [decodeViewer, htelegram, hviewer, hnsfw, hpersonal]
  simp only [Option.bind_eq_bind, Option.bind_some, Option.map_some, Readings.int, Readings.uuid,
    ofText_str, Readings.bool]
  rfl

theorem decodeHomeCursor_payload {state : TelegramInlineFeedState α} (h : Resumable state) :
    decodeHomeCursor readings (state.payload attributions).sortKeys = state.homeCursor := by
  have hcursor : (state.payload attributions).sortKeys.get? "home_cursor".toList =
      some (state.homeCursor.elim .null .string) := by
    rw [TelegramInlineFeedState.payload, get?_of_place (keys_members state) 9 rfl]
    cases state.homeCursor <;> rfl
  have hne := h.cursor_ne
  rw [decodeHomeCursor, hcursor]
  cases hhome : state.homeCursor with
  | none => rfl
  | some text =>
    cases text with
    | nil => exact absurd hhome hne
    | cons c text => rfl

theorem decodeState_encodeState {state : TelegramInlineFeedState α} (h : Resumable state) :
    decodeState floats readings attributions (encodeState floats attributions state) =
      some state := by
  have hkeys := @keys_members φ α attributions state
  have hversion : (state.payload attributions).sortKeys.get? "v".toList = some (.int 1) :=
    get?_of_place hkeys 0 rfl
  have hrequest : (state.payload attributions).sortKeys.get? "request_id".toList =
      some (.string state.requestId) := get?_of_place hkeys 5 rfl
  have hstarted : (state.payload attributions).sortKeys.get? "home_started".toList =
      some (.bool state.homeStarted) := get?_of_place hkeys 10 rfl
  have hexhausted : (state.payload attributions).sortKeys.get? "home_exhausted".toList =
      some (.bool state.homeExhausted) := get?_of_place hkeys 11 rfl
  have hexpires : (state.payload attributions).sortKeys.get? "expires_at".toList =
      some (.string state.expiresAt.isoformat) := get?_of_place hkeys 14 rfl
  rw [decodeState, encodeState, loads_dumps]
  simp only [Option.bind_eq_bind, Option.bind_some, hversion, hrequest, hstarted, hexhausted,
    hexpires, decodePositions_payload h, decodeViewer_payload, decodeHomeCursor_payload h,
    Option.map_some, Readings.str, Readings.stamp, Readings.bool,
    IsoDates.fromisoformat_isoformat, Option.any_some, Readings.equalsOne]
  rfl

theorem isLowerHex_digitChar {d : ℕ} (h : d < 16) : isLowerHex (Nat.digitChar d) = true := by
  have hall : ∀ d < 16, isLowerHex (Nat.digitChar d) = true := by decide
  exact hall d h

theorem isSpace_of_isLowerHex {c : Char} (h : isLowerHex c = true) : isSpace c = false := by
  have hbounds : ('0' ≤ c ∧ c ≤ '9') ∨ ('a' ≤ c ∧ c ≤ 'f') := by simpa [isLowerHex] using h
  have hcode : (48 ≤ c.toNat ∧ c.toNat ≤ 57) ∨ (97 ≤ c.toNat ∧ c.toNat ≤ 102) := hbounds
  simp only [isSpace, Bool.or_eq_false_iff, Bool.and_eq_false_iff, decide_eq_false_iff_not,
    beq_eq_false_iff_ne]
  omega

theorem stripText_of_spaceless {text : Text} (h : ∀ c ∈ text, isSpace c = false) :
    Services.stripText text = text := by
  have hhead : text.dropWhile isSpace = text := by
    cases text with
    | nil => rfl
    | cons c rest => rw [List.dropWhile_cons, h c List.mem_cons_self]; rfl
  have hlast : text.rdropWhile isSpace = text := by
    apply List.rdropWhile_eq_self_iff.mpr
    intro hne
    rw [h _ (List.getLast_mem hne)]
    exact Bool.false_ne_true
  rw [Services.stripText, hhead, hlast]

theorem isLowerHex_of_mem_spell {width n : ℕ} {c : Char} (h : c ∈ spell 16 width n) :
    isLowerHex c = true := by
  obtain ⟨d, hd, rfl⟩ := List.mem_map.mp h
  exact isLowerHex_digitChar (lt_of_mem_write (by decide) hd)

theorem stripText_newCursor (id : UUID) : Services.stripText (newCursor id) = newCursor id := by
  apply stripText_of_spaceless
  intro c hc
  rcases List.mem_append.mp hc with hprefix | hdigit
  · have hall : (cursorPrefix.all fun c => !isSpace c) = true := by decide
    simpa using List.all_eq_true.mp hall c hprefix
  · exact isSpace_of_isLowerHex (isLowerHex_of_mem_spell hdigit)

theorem isCursor_newCursor (id : UUID) : isCursor (newCursor id) = true := by
  have hlength : (spell 16 32 id.int).length = 32 := length_spell (by decide) id.int_lt
  have hall : (spell 16 32 id.int).all isLowerHex = true :=
    List.all_eq_true.mpr fun c hc => isLowerHex_of_mem_spell hc
  have hprefix : (newCursor id).take 4 = cursorPrefix := rfl
  have hrest : (newCursor id).drop 4 = spell 16 32 id.int := rfl
  simp only [isCursor, hprefix, hrest, hlength, hall, and_self, decide_true]

section Handles

variable {state loaded : TelegramInlineFeedState α} {viewer : Viewer} {ttlSeconds now later : Int}
  {id : UUID} {available : Bool} {cursor : Text} {entries saved : Entries}

section Saved

variable (h : save floats attributions ttlSeconds state now id available entries = .ok (cursor, saved))

include h

theorem of_save :
    available = true ∧ cursor = newCursor id ∧
      saved = (newCursor id, encodeState floats attributions state) :: entries := by
  unfold save at h
  split_ifs at h with hexpired havailable
  obtain ⟨rfl, rfl⟩ := Prod.mk.inj (Except.ok.inj h)
  exact ⟨havailable, rfl, rfl⟩

theorem get_of_save : saved.get cursor = some (encodeState floats attributions state) := by
  obtain ⟨-, rfl, rfl⟩ := of_save h
  simp [Entries.get]

theorem normalized_of_save : Services.stripText cursor = cursor ∧ isCursor cursor = true := by
  obtain ⟨-, rfl, -⟩ := of_save h
  exact ⟨stripText_newCursor id, isCursor_newCursor id⟩

end Saved

theorem load_of_get (hnormal : Services.stripText cursor = cursor) (h : Resumable state)
    (hget : entries.get cursor = some (encodeState floats attributions state))
    (hload : load floats readings attributions viewer cursor later available entries =
      .ok loaded) :
    loaded = state := by
  simp only [load, hnormal, hget, decodeState_encodeState h] at hload
  split_ifs at hload
  exact (Except.ok.inj hload).symm

end Handles

end RoundTrip

end MemeExpert.Recommendations.InlineSessions
