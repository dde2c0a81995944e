import MemeExpert.Lib.Dictionaries
import MemeExpert.Lib.Paging
import MemeExpert.Recommendations.FeedCursors
import MemeExpert.Recommendations.InlineSessions
import MemeExpert.Services.IndexFreshness

/-! An inline query without text answers the viewer's pins first and then the home feed. -/

namespace MemeExpert.Services.InlinePaging

open IsoDates (Stamp)
open Paging
open Recommendations.FeedWire (UUID)
open Recommendations.InlineSessions

inductive TelegramMediaFormat where
  | animation | photo

structure MemeFile where
  id : UUID
  mimeType : Option Text
  s3OriginalKey : Text

structure MemeCard where
  id : UUID
  mediaType : ContentKind
  primaryFile : Option MemeFile

structure InlineAttributedMeme (α : Type) where
  meme : MemeCard
  attribution : α

structure InlineCandidate (α : Type) where
  meme : MemeCard
  file : MemeFile
  mediaFormat : TelegramMediaFormat
  attribution : α

structure TelegramInlineMediaResult (α : Type) where
  meme : MemeCard
  file : MemeFile
  mediaFormat : TelegramMediaFormat
  cachedFileId : Option Text
  mediaUrl : Option Text
  attribution : α

structure Media where
  fileIdCache : UUID → TelegramMediaFormat → Option Text
  getMediaUrl : MemeFile → Option Text
  isHttps : Text → Bool

structure Catalogue where
  visible : UUID → Option MemeCard
  published : UUID → Option MemeCard
  id_of_visible : ∀ {id meme}, visible id = some meme → meme.id = id
  id_of_published : ∀ {id meme}, published id = some meme → meme.id = id
  media : Media

def mpeg4GifMimeType : Text := "video/mp4".toList

def resolveTelegramMediaFormat (meme : MemeCard) (file : MemeFile) : Option TelegramMediaFormat :=
  if meme.mediaType = .gif ∨ file.mimeType = some "image/gif".toList ∨
      file.mimeType = some mpeg4GifMimeType then some .animation
  else if meme.mediaType = .image then some .photo
  else none

section Sendability

variable {α : Type} (media : Media)

def toInlineCandidate (item : InlineAttributedMeme α) : Option (InlineCandidate α) := do
  let file ← item.meme.primaryFile
  let mediaFormat ← resolveTelegramMediaFormat item.meme file
  pure ⟨item.meme, file, mediaFormat, item.attribution⟩

def publicHttpsUrl (value : Option Text) : Option Text := value.filter media.isHttps

def resolveInlineMediaUrl (file : MemeFile) : Option Text :=
  (publicHttpsUrl media (some file.s3OriginalKey)).or (publicHttpsUrl media (media.getMediaUrl file))

def buildSendableResult (item : InlineAttributedMeme α) : Option (TelegramInlineMediaResult α) := do
  let candidate ← toInlineCandidate item
  match media.fileIdCache candidate.file.id candidate.mediaFormat with
  | some fileId =>
    pure ⟨candidate.meme, candidate.file, candidate.mediaFormat, some fileId, none,
      candidate.attribution⟩
  | none =>
    let url ← resolveInlineMediaUrl media candidate.file
    pure ⟨candidate.meme, candidate.file, candidate.mediaFormat, none, some url,
      candidate.attribution⟩

def buildSendableResults (memes : List (InlineAttributedMeme α)) :
    List (TelegramInlineMediaResult α) :=
  memes.filterMap (buildSendableResult media)

def sendableById (sendable : List (TelegramInlineMediaResult α)) (id : UUID) :
    Option (TelegramInlineMediaResult α) :=
  Dictionaries.lastOf (sendable.map fun item => (item.meme.id, item)) id

end Sendability

structure HomeItem (α : Type) where
  memeId : UUID
  attribution : α

structure HomePage (α : Type) where
  items : List (HomeItem α)
  hasMore : Bool
  nextCursor : Option Text
  total : ℕ
  expiresAt : Stamp

/-- What the home feed answers to the calls of one request, by number, cursor and limit. -/
structure HomeFeed (α : Type) where
  answer : ℕ → Option Text → ℕ → HomePage α
  length_le : ∀ call cursor limit, (answer call cursor limit).items.length ≤ limit
  cursor_ne : ∀ call cursor limit, (answer call cursor limit).nextCursor ≠ some []

structure FeedCall (α : Type) where
  cursor : Option Text
  limit : ℕ
  page : HomePage α

structure InlineSettings where
  recommendationFeedPoolLimit : ℕ
  recommendationFeedPoolTtlSeconds : Int

structure Consumption (α : Type) where
  items : List (TelegramInlineMediaResult α)
  state : TelegramInlineFeedState α
  calls : List (FeedCall α)

section Consuming

variable {φ α : Type} (attributions : Attributions φ α) (catalogue : Catalogue)

def withInlineAttribution (requestId : Text) (origin : Option (Text × Text)) (place : ℕ)
    (item : TelegramInlineMediaResult α) : TelegramInlineMediaResult α :=
  { item with attribution := attributions.stamped requestId place origin item.attribution }

def explicitPins : Option (Text × Text) := some ("explicit_pins".toList, "pinned".toList)

def pinnedLoop (sendable : UUID → Option (TelegramInlineMediaResult α))
    (stamp : ℕ → TelegramInlineMediaResult α → TelegramInlineMediaResult α) (limit : ℕ) :
    List UUID → ℕ → ℕ → List (TelegramInlineMediaResult α) →
      List (TelegramInlineMediaResult α) × ℕ × ℕ
  | [], nextIndex, nextRank, items => (items, nextIndex, nextRank)
  | memeId :: rest, nextIndex, nextRank, items =>
    match sendable memeId with
    | none => pinnedLoop sendable stamp limit rest (nextIndex + 1) nextRank items
    | some candidate =>
      if limit ≤ items.length then (items, nextIndex, nextRank)
      else pinnedLoop sendable stamp limit rest (nextIndex + 1) (nextRank + 1)
        (items ++ [stamp nextRank candidate])

def sendablePinned (state : TelegramInlineFeedState α) : List (TelegramInlineMediaResult α) :=
  buildSendableResults catalogue.media
    (((state.pinnedMemeIds.drop state.nextPinnedIndex).filterMap catalogue.visible).map
      fun meme => ⟨meme, attributions.pinned state.requestId⟩)

def consumePinnedCandidates (state : TelegramInlineFeedState α)
    (items : List (TelegramInlineMediaResult α)) (limit : ℕ) :
    List (TelegramInlineMediaResult α) × TelegramInlineFeedState α :=
  if state.pinnedMemeIds.length ≤ state.nextPinnedIndex ∨ limit ≤ items.length then (items, state)
  else
    let (items, nextIndex, nextRank) :=
      pinnedLoop (sendableById (sendablePinned attributions catalogue state))
        (withInlineAttribution attributions state.requestId explicitPins) limit
        (state.pinnedMemeIds.drop state.nextPinnedIndex) state.nextPinnedIndex state.nextRank items
    (items, { state with nextPinnedIndex := nextIndex, nextRank := nextRank })

def pendingLoop (sendable : UUID → Option (TelegramInlineMediaResult α))
    (stamp : ℕ → TelegramInlineMediaResult α → TelegramInlineMediaResult α) (limit : ℕ) :
    List (PendingHomeRecommendation α) → ℕ → List (TelegramInlineMediaResult α) →
      List (TelegramInlineMediaResult α) × List (PendingHomeRecommendation α) × ℕ
  | [], nextRank, items => (items, [], nextRank)
  | pendingItem :: rest, nextRank, items =>
    match sendable pendingItem.memeId with
    | none => pendingLoop sendable stamp limit rest nextRank items
    | some candidate =>
      if limit ≤ items.length then
        (items, (pendingItem :: rest).filter fun item => (sendable item.memeId).isSome, nextRank)
      else pendingLoop sendable stamp limit rest (nextRank + 1)
        (items ++ [stamp nextRank candidate])

def sendablePending (state : TelegramInlineFeedState α) : List (TelegramInlineMediaResult α) :=
  buildSendableResults catalogue.media
    (state.pendingHomeItems.filterMap fun item =>
      if item.memeId ∈ state.pinnedMemeIds then none
      else (catalogue.published item.memeId).map fun meme => ⟨meme, item.attribution⟩)

def consumePendingHomeCandidates (state : TelegramInlineFeedState α)
    (items : List (TelegramInlineMediaResult α)) (limit : ℕ) :
    List (TelegramInlineMediaResult α) × TelegramInlineFeedState α :=
  if state.pendingHomeItems = [] ∨ limit ≤ items.length then (items, state)
  else
    let (items, remaining, nextRank) :=
      pendingLoop (sendableById (sendablePending catalogue state))
        (withInlineAttribution attributions state.requestId none) limit
        state.pendingHomeItems state.nextRank items
    (items, { state with pendingHomeItems := remaining, nextRank := nextRank })

def earlier (first second : Stamp) : Stamp := if second.moment < first.moment then second else first

def fetchHomeCandidates (feed : HomeFeed α) (consumption : Consumption α) (requestedLimit : ℕ) :
    Consumption α :=
  let state := consumption.state
  let cursor := if state.homeStarted then state.homeCursor else none
  let page := feed.answer consumption.calls.length cursor requestedLimit
  let pending := page.items.map fun item => ⟨item.memeId, item.attribution⟩
  { consumption with
    state :=
      { state with
        pendingHomeItems := pending
        homeCursor := page.nextCursor
        homeStarted := true
        homeExhausted := !page.hasMore || page.nextCursor.isNone ||
          (state.homeStarted && decide (page.nextCursor = state.homeCursor) && pending.isEmpty)
        homeTotal := max state.homeTotal page.total
        expiresAt := earlier state.expiresAt page.expiresAt }
    calls := consumption.calls ++ [⟨cursor, requestedLimit, page⟩] }

def giveUp (state : TelegramInlineFeedState α) : TelegramInlineFeedState α :=
  { state with homeExhausted := true, homeCursor := none }

def homeLoop (feed : HomeFeed α) (limit fetches : ℕ) (consumption : Consumption α) :
    Consumption α :=
  if consumption.items.length < limit ∧
      (consumption.state.pendingHomeItems ≠ [] ∨ consumption.state.homeExhausted = false) then
    let (items, state) := consumePendingHomeCandidates attributions catalogue consumption.state
      consumption.items limit
    let consumed := { consumption with items := items, state := state }
    if limit ≤ items.length ∨ state.pendingHomeItems ≠ [] then consumed
    else if state.homeExhausted then consumed
    else
      match fetches with
      | 0 => { consumed with state := giveUp state }
      | fetches + 1 =>
        homeLoop feed limit fetches
          (fetchHomeCandidates feed consumed (min 100 (max 20 (limit - items.length))))
  else consumption

def maxFetchAttempts (settings : InlineSettings) (limit : ℕ) : ℕ :=
  max 2 (settings.recommendationFeedPoolLimit / min 20 limit + 2)

def consumeEmptyQueryCandidates (settings : InlineSettings) (feed : HomeFeed α) (limit : ℕ)
    (state : TelegramInlineFeedState α) (calls : List (FeedCall α)) : Consumption α :=
  if limit = 0 then ⟨[], state, calls⟩
  else
    let (items, state) := consumePinnedCandidates attributions catalogue state [] limit
    let consumed := homeLoop attributions catalogue feed limit (maxFetchAttempts settings limit)
      ⟨items, state, calls⟩
    -- the home pool is frozen on the first request even when pins fill the page
    if consumed.state.homeStarted then consumed else fetchHomeCandidates feed consumed 20

end Consuming

def emptyQueryHasMore {α : Type} (state : TelegramInlineFeedState α) : Bool :=
  decide (state.nextPinnedIndex < state.pinnedMemeIds.length) || !state.pendingHomeItems.isEmpty ||
    !state.homeExhausted

structure PinnedMeme where
  memeId : UUID
  position : ℕ
  pinnedAt : Int

def PinnedMeme.Before (first second : PinnedMeme) : Prop :=
  first.position < second.position ∨ first.position = second.position ∧
    (second.pinnedAt < first.pinnedAt ∨ first.pinnedAt = second.pinnedAt ∧
      first.memeId.int ≤ second.memeId.int)

instance : DecidableRel PinnedMeme.Before := fun first second =>
  inferInstanceAs (Decidable (first.position < second.position ∨
    first.position = second.position ∧ (second.pinnedAt < first.pinnedAt ∨
      first.pinnedAt = second.pinnedAt ∧ first.memeId.int ≤ second.memeId.int)))

def loadPinnedMemes (catalogue : Catalogue) (pins : List PinnedMeme) : List PinnedMeme :=
  (pins.filter fun pin => (catalogue.visible pin.memeId).isSome).insertionSort PinnedMeme.Before

structure TelegramInlineSearchPage (α : Type) where
  items : List (TelegramInlineMediaResult α)
  limit : ℕ
  offset : ℕ
  total : ℕ
  hasMore : Bool
  isPersonal : Bool
  requestId : Text
  nextCursor : Option Text

structure Request (α : Type) where
  limit : Int
  offset : Int
  now : Int
  requestId : Text
  expiresAt : Stamp
  cursorId : UUID
  canLoad : Bool
  canSave : Bool
  feed : HomeFeed α

structure InlineViewer extends Viewer where
  pins : List PinnedMeme
  distinct : (pins.map PinnedMeme.memeId).Nodup

/-- A page with the position behind it, what an offset passed over and the calls it took. -/
structure Served (α : Type) where
  page : TelegramInlineSearchPage α
  skipped : List (TelegramInlineMediaResult α)
  calls : List (FeedCall α)
  left : TelegramInlineFeedState α

def clampLimit (limit : Int) : ℕ := (min 100 (max 1 limit)).toNat

section Requests

variable {φ α : Type} (floats : Json.Floats φ) (readings : Recommendations.FeedWire.Readings φ)
  (attributions : Attributions φ α) (catalogue : Catalogue) (settings : InlineSettings)
  (viewer : InlineViewer)

def openFeed (request : Request α) : TelegramInlineFeedState α :=
  newTelegramInlineFeedState viewer.toViewer request.requestId
    (if viewer.isPersonal then (loadPinnedMemes catalogue viewer.pins).map PinnedMeme.memeId else [])
    request.expiresAt

def startOf (request : Request α) (entries : Entries) :
    Option Text → Except InlineFailure (TelegramInlineFeedState α × ℕ)
  | some cursor => do
    let state ← load floats readings attributions viewer.toViewer cursor request.now
      request.canLoad entries
    pure (state, 0)
  | none => pure (openFeed catalogue viewer request, request.offset.toNat)

def pageOf (request : Request α) (start : ℕ) (consumed : Consumption α)
    (nextCursor : Option Text) : TelegramInlineSearchPage α where
  items := consumed.items
  limit := clampLimit request.limit
  offset := start
  total := max (start + consumed.items.length + nextCursor.isSome.toNat)
    (consumed.state.pinnedMemeIds.length + consumed.state.homeTotal)
  hasMore := nextCursor.isSome
  isPersonal := viewer.isPersonal
  requestId := consumed.state.requestId
  nextCursor := nextCursor

def continuation (request : Request α) (state : TelegramInlineFeedState α) (entries : Entries) :
    Except InlineFailure (Option Text × Entries) :=
  if emptyQueryHasMore state then
    match save floats attributions settings.recommendationFeedPoolTtlSeconds state request.now
      request.cursorId request.canSave entries with
    | .ok (cursor, entries) => .ok (some cursor, entries)
    | .error (.unavailable _) => .ok (none, entries)
    | .error failure => .error failure
  else .ok (none, entries)

def searchEmptyQuery (request : Request α) (cursor : Option Text) (entries : Entries) :
    Except InlineFailure (Served α × Entries) := do
  let (state, legacySkip) ←
    startOf floats readings attributions catalogue viewer request entries cursor
  let skipped := consumeEmptyQueryCandidates attributions catalogue settings request.feed
    legacySkip state []
  let consumed := consumeEmptyQueryCandidates attributions catalogue settings request.feed
    (clampLimit request.limit) skipped.state skipped.calls
  let (nextCursor, entries) ←
    continuation floats attributions settings request consumed.state entries
  pure (⟨pageOf viewer request (skipped.state.nextRank - 1) consumed nextCursor,
    skipped.items, consumed.calls, consumed.state⟩, entries)

/-- A viewer who follows the cursors: what was served, and where to ask next. -/
structure Walk (α : Type) where
  served : List (Served α)
  entries : Entries

def Walk.begin : Walk α := ⟨[], []⟩

def Walk.cursor (walk : Walk α) : Option Text := walk.served.getLast?.bind (·.page.nextCursor)

def Walk.ended (walk : Walk α) : Bool := walk.served.getLast?.any (·.page.nextCursor.isNone)

def Walk.visit (walk : Walk α) (request : Request α) : Walk α :=
  if walk.ended then walk
  else
    match searchEmptyQuery floats readings attributions catalogue settings viewer request
      walk.cursor walk.entries with
    | .error _ => walk
    | .ok (served, entries) => ⟨walk.served ++ [served], entries⟩

end Requests

def canSend (media : Media) (meme : MemeCard) : Bool :=
  (buildSendableResult media (⟨meme, ()⟩ : InlineAttributedMeme Unit)).isSome

def sendsPin (catalogue : Catalogue) (id : UUID) : Bool :=
  (catalogue.visible id).any (canSend catalogue.media)

def sendsHome (catalogue : Catalogue) (pinnedMemeIds : List UUID) (id : UUID) : Bool :=
  decide (id ∉ pinnedMemeIds) && (catalogue.published id).any (canSend catalogue.media)

section Lookups

variable {φ α : Type} {attributions : Attributions φ α} {catalogue : Catalogue} {media : Media}
  {state : TelegramInlineFeedState α} {id : UUID} {result : TelegramInlineMediaResult α}

theorem isSome_buildSendableResult (media : Media) (item : InlineAttributedMeme α) :
    (buildSendableResult media item).isSome = canSend media item.meme := by
  unfold canSend buildSendableResult toInlineCandidate
  cases item.meme.primaryFile with
  | none => rfl
  | some file =>
    cases hformat : resolveTelegramMediaFormat item.meme file with
    | none => simp [hformat]
    | some format =>
      cases hcached : media.fileIdCache file.id format with
      | some fileId => simp [hformat, hcached]
      | none => cases hurl : resolveInlineMediaUrl media file <;> simp [hformat, hcached, hurl]

theorem meme_of_buildSendableResult {item : InlineAttributedMeme α}
    (h : buildSendableResult media item = some result) : result.meme = item.meme := by
  unfold buildSendableResult toInlineCandidate at h
  cases hfile : item.meme.primaryFile with
  | none => simp [hfile] at h
  | some file =>
    cases hformat : resolveTelegramMediaFormat item.meme file with
    | none => simp [hfile, hformat] at h
    | some format =>
      cases hcached : media.fileIdCache file.id format with
      | some fileId =>
        simp [hfile, hformat, hcached] at h
        rw [← h]
      | none =>
        cases hurl : resolveInlineMediaUrl media file with
        | none => simp [hfile, hformat, hcached, hurl] at h
        | some url =>
          simp [hfile, hformat, hcached, hurl] at h
          rw [← h]

theorem id_of_sendableById {sendable : List (TelegramInlineMediaResult α)}
    (h : sendableById sendable id = some result) : result.meme.id = id := by
  obtain ⟨found, -, hfound⟩ := List.mem_map.mp (Dictionaries.mem_of_lastOf h)
  obtain ⟨hid, rfl⟩ := Prod.mk.inj hfound
  exact hid

theorem isSome_sendableById {sendable : List (TelegramInlineMediaResult α)} :
    (sendableById sendable id).isSome = true ↔ ∃ result ∈ sendable, result.meme.id = id := by
  rw [Option.isSome_iff_ne_none, ne_eq, sendableById, Dictionaries.lastOf_eq_none_iff]
  simp

theorem mem_buildSendableResults {memes : List (InlineAttributedMeme α)} :
    (∃ result ∈ buildSendableResults media memes, result.meme.id = id) ↔
      ∃ item ∈ memes, item.meme.id = id ∧ canSend media item.meme = true := by
  constructor
  · rintro ⟨result, hresult, hid⟩
    obtain ⟨item, hitem, hbuild⟩ := List.mem_filterMap.mp hresult
    refine ⟨item, hitem, by rw [← meme_of_buildSendableResult hbuild, hid], ?_⟩
    rw [← isSome_buildSendableResult, hbuild, Option.isSome_some]
  rintro ⟨item, hitem, hid, hsend⟩
  rw [← isSome_buildSendableResult] at hsend
  obtain ⟨result, hbuild⟩ := Option.isSome_iff_exists.mp hsend
  exact ⟨result, List.mem_filterMap.mpr ⟨item, hitem, hbuild⟩,
    by rw [meme_of_buildSendableResult hbuild, hid]⟩

theorem isSome_sendablePinned (h : id ∈ state.pinnedMemeIds.drop state.nextPinnedIndex) :
    (sendableById (sendablePinned attributions catalogue state) id).isSome =
      sendsPin catalogue id := by
  rw [Bool.eq_iff_iff, isSome_sendableById, sendablePinned, mem_buildSendableResults, sendsPin,
    Option.any_eq_true]
  constructor
  · rintro ⟨item, hitem, hid, hsend⟩
    obtain ⟨meme, hmeme, rfl⟩ := List.mem_map.mp hitem
    obtain ⟨found, -, hfound⟩ := List.mem_filterMap.mp hmeme
    obtain rfl : found = id := (catalogue.id_of_visible hfound).symm.trans hid
    exact ⟨meme, hfound, hsend⟩
  · rintro ⟨meme, hmeme, hsend⟩
    exact ⟨_, List.mem_map_of_mem (List.mem_filterMap.mpr ⟨id, h, hmeme⟩),
      catalogue.id_of_visible hmeme, hsend⟩

theorem isSome_sendablePending {item : PendingHomeRecommendation α}
    (h : item ∈ state.pendingHomeItems) :
    (sendableById (sendablePending catalogue state) item.memeId).isSome =
      sendsHome catalogue state.pinnedMemeIds item.memeId := by
  rw [Bool.eq_iff_iff, isSome_sendableById, sendablePending, mem_buildSendableResults, sendsHome,
    Bool.and_eq_true, decide_eq_true_eq, Option.any_eq_true]
  constructor
  · rintro ⟨attributed, hattributed, hid, hsend⟩
    obtain ⟨found, -, hfound⟩ := List.mem_filterMap.mp hattributed
    split_ifs at hfound with hpinned
    obtain ⟨meme, hmeme, rfl⟩ := Option.map_eq_some_iff.mp hfound
    have heq : found.memeId = item.memeId := (catalogue.id_of_published hmeme).symm.trans hid
    rw [heq] at hpinned hmeme
    exact ⟨hpinned, meme, hmeme, hsend⟩
  rintro ⟨hpinned, meme, hmeme, hsend⟩
  refine ⟨⟨meme, item.attribution⟩, List.mem_filterMap.mpr ⟨item, h, ?_⟩,
    catalogue.id_of_published hmeme, hsend⟩
  rw [if_neg hpinned, hmeme, Option.map_some]

variable {sendable : UUID → Option (TelegramInlineMediaResult α)}
  {stamp : ℕ → TelegramInlineMediaResult α → TelegramInlineMediaResult α} {limit : ℕ}

theorem exists_room {items : List (TelegramInlineMediaResult α)} (last : TelegramInlineMediaResult α) (h : items.length < limit) :
    ∃ room, limit - items.length = room + 1 ∧ limit - (items ++ [last]).length = room := by
  refine ⟨limit - items.length - 1, by omega, ?_⟩
  rw [List.length_append, List.length_singleton]
  omega

theorem pinnedLoop_eq_fill (ids : List UUID) (nextIndex nextRank : ℕ)
    (items : List (TelegramInlineMediaResult α)) :
    pinnedLoop sendable stamp limit ids nextIndex nextRank items =
      (items ++ numbered stamp nextRank (fill sendable (limit - items.length) ids).1,
        nextIndex + (ids.length - (fill sendable (limit - items.length) ids).2.length),
        nextRank + (fill sendable (limit - items.length) ids).1.length) := by
  induction ids generalizing nextIndex nextRank items with
  | nil => simp [pinnedLoop, fill, numbered]
  | cons id rest ih =>
    have hrest (room : ℕ) : (fill sendable room rest).2.length ≤ rest.length :=
      (fill_left_suffix sendable room rest).length_le
    cases hid : sendable id with
    | none =>
      simp only [pinnedLoop, fill, hid, ih, List.length_cons, Prod.mk.injEq, true_and,
        and_true]
      have := hrest (limit - items.length)
      omega
    | some candidate =>
      rcases Nat.lt_or_ge items.length limit with hroom | hfull
      · obtain ⟨room, hroomEq, hnext⟩ := exists_room (stamp nextRank candidate) hroom
        simp only [pinnedLoop, hid, if_neg (Nat.not_le.mpr hroom), ih, hnext, hroomEq, fill,
          numbered, List.append_assoc, List.singleton_append, List.length_cons, Prod.mk.injEq,
          true_and]
        have := hrest room
        omega
      · have hnone : limit - items.length = 0 := by omega
        simp [pinnedLoop, hid, if_pos hfull, hnone, fill, numbered]

theorem pendingLoop_eq_fill (pending : List (PendingHomeRecommendation α)) (nextRank : ℕ)
    (items : List (TelegramInlineMediaResult α)) :
    pendingLoop sendable stamp limit pending nextRank items =
      (items ++ numbered stamp nextRank
          (fill (fun item => sendable item.memeId) (limit - items.length) pending).1,
        (fill (fun item => sendable item.memeId) (limit - items.length) pending).2.filter
          (fun item => (sendable item.memeId).isSome),
        nextRank +
          (fill (fun item => sendable item.memeId) (limit - items.length) pending).1.length) := by
  induction pending generalizing nextRank items with
  | nil => simp [pendingLoop, fill, numbered]
  | cons item rest ih =>
    cases hitem : sendable item.memeId with
    | none => simp only [pendingLoop, fill, hitem, ih]
    | some candidate =>
      rcases Nat.lt_or_ge items.length limit with hroom | hfull
      · obtain ⟨room, hroomEq, hnext⟩ := exists_room (stamp nextRank candidate) hroom
        simp only [pendingLoop, hitem, if_neg (Nat.not_le.mpr hroom), ih, hnext, hroomEq, fill,
          numbered, List.append_assoc, List.singleton_append, List.length_cons, Prod.mk.injEq,
          true_and]
        omega
      · have hnone : limit - items.length = 0 := by omega
        simp [pendingLoop, hitem, if_pos hfull, hnone, fill, numbered]

end Lookups

def leftPins {α : Type} (catalogue : Catalogue) (state : TelegramInlineFeedState α) : List UUID :=
  (state.pinnedMemeIds.drop state.nextPinnedIndex).filter (sendsPin catalogue)

def leftHome {α : Type} (catalogue : Catalogue) (state : TelegramInlineFeedState α) : List UUID :=
  (state.pendingHomeItems.map (·.memeId)).filter (sendsHome catalogue state.pinnedMemeIds)

section Parts

variable {φ α : Type} {attributions : Attributions φ α} {catalogue : Catalogue}
  {state : TelegramInlineFeedState α} {items : List (TelegramInlineMediaResult α)} {limit : ℕ}

theorem map_id_filterMap {κ : Type} {candidate : κ → Option (TelegramInlineMediaResult α)}
    {idOf : κ → UUID} (hid : ∀ key result, candidate key = some result → result.meme.id = idOf key)
    (keys : List κ) :
    (keys.filterMap candidate).map (·.meme.id) =
      (keys.filter fun key => (candidate key).isSome).map idOf := by
  induction keys with
  | nil => rfl
  | cons key rest ih =>
    cases hkey : candidate key with
    | none => simpa [hkey] using ih
    | some result => simpa [hkey, hid key result hkey] using ih

theorem consumePinnedCandidates_spec (hindex : state.nextPinnedIndex ≤ state.pinnedMemeIds.length)
    (hroom : items.length < limit) :
    ∃ taken nextIndex,
      consumePinnedCandidates attributions catalogue state items limit =
        (items ++ numbered (withInlineAttribution attributions state.requestId explicitPins)
            state.nextRank taken,
          { state with
            nextPinnedIndex := nextIndex
            nextRank := state.nextRank + taken.length }) ∧
      taken.map (·.meme.id) ++
          (state.pinnedMemeIds.drop nextIndex).filter (sendsPin catalogue) =
        leftPins catalogue state ∧
      nextIndex ≤ state.pinnedMemeIds.length ∧ items.length + taken.length ≤ limit ∧
      (nextIndex < state.pinnedMemeIds.length →
        items.length + taken.length = limit ∧
          (state.pinnedMemeIds.drop nextIndex).filter (sendsPin catalogue) ≠ []) := by
  rcases Nat.lt_or_ge state.nextPinnedIndex state.pinnedMemeIds.length with hlt | hge
  · let remaining := state.pinnedMemeIds.drop state.nextPinnedIndex
    let candidate := sendableById (sendablePinned attributions catalogue state)
    have hsends : ∀ id ∈ remaining, (candidate id).isSome = sendsPin catalogue id :=
      fun id hid => isSome_sendablePinned hid
    let taken := (fill candidate (limit - items.length) remaining).1
    let rest := (fill candidate (limit - items.length) remaining).2
    have hsuffix : rest <:+ remaining := fill_left_suffix candidate _ remaining
    have hdrop : state.pinnedMemeIds.drop
        (state.nextPinnedIndex + (remaining.length - rest.length)) = rest := by
      rw [← List.drop_drop]
      exact (List.suffix_iff_eq_drop.mp hsuffix).symm
    have hlength : remaining.length = state.pinnedMemeIds.length - state.nextPinnedIndex :=
      List.length_drop
    have htaken : taken.length ≤ limit - items.length := length_fill_le candidate _ remaining
    have hfilter : ∀ ids : List UUID, (∀ id ∈ ids, id ∈ remaining) →
        (ids.filterMap candidate).map (·.meme.id) = ids.filter (sendsPin catalogue) := by
      intro ids hids
      rw [map_id_filterMap (fun id result => id_of_sendableById), List.map_id']
      exact List.filter_congr fun id hid => hsends id (hids id hid)
    refine ⟨taken, state.nextPinnedIndex + (remaining.length - rest.length), ?_, ?_, ?_, ?_, ?_⟩
    · rw [consumePinnedCandidates, if_neg (by omega), pinnedLoop_eq_fill]
    · rw [hdrop, leftPins, ← hfilter rest (fun id hid => hsuffix.subset hid),
        ← hfilter remaining (fun id hid => hid), ← List.map_append,
        fill_append_left candidate (limit - items.length) remaining]
    · omega
    · omega
    intro hmore
    rw [hdrop]
    rcases fill_left candidate (limit - items.length) remaining with hnil | ⟨hfull, key, tail,
      hleft, hkey⟩
    · have hzero : rest.length = 0 := List.length_eq_zero_iff.mpr hnil
      omega
    have hrest : rest = key :: tail := hleft
    have hmem : key ∈ remaining := hsuffix.subset (hrest ▸ List.mem_cons_self)
    rw [hsends key hmem] at hkey
    refine ⟨?_, ?_⟩
    · change taken.length = _ at hfull
      omega
    · rw [hrest, List.filter_cons_of_pos hkey]
      exact List.cons_ne_nil _ _
  · refine ⟨[], state.nextPinnedIndex, ?_, rfl, hindex, ?_, ?_⟩
    · rw [consumePinnedCandidates, if_pos (.inl hge), numbered, List.append_nil]
      rfl
    · rw [List.length_nil]
      omega
    · intro hlt
      omega

theorem consumePendingHomeCandidates_spec (hroom : items.length < limit) :
    ∃ taken remaining,
      consumePendingHomeCandidates attributions catalogue state items limit =
        (items ++ numbered (withInlineAttribution attributions state.requestId none)
            state.nextRank taken,
          { state with
            pendingHomeItems := remaining
            nextRank := state.nextRank + taken.length }) ∧
      taken.map (·.meme.id) ++ remaining.map (·.memeId) = leftHome catalogue state ∧
      (∀ item ∈ remaining, sendsHome catalogue state.pinnedMemeIds item.memeId = true) ∧
      remaining.length ≤ state.pendingHomeItems.length ∧ items.length + taken.length ≤ limit ∧
      (remaining ≠ [] → items.length + taken.length = limit) := by
  rcases eq_or_ne state.pendingHomeItems [] with hnil | hpending
  · refine ⟨[], [], ?_, ?_, ?_, ?_, ?_, ?_⟩
    · rw [consumePendingHomeCandidates, if_pos (.inl hnil), numbered, List.append_nil]
      cases state
      simp_all
    · rw [leftHome, hnil]
      rfl
    · exact fun item hitem => absurd hitem List.not_mem_nil
    · exact Nat.zero_le _
    · rw [List.length_nil]
      omega
    · exact fun hne => absurd rfl hne
  · let candidate := fun item : PendingHomeRecommendation α =>
      sendableById (sendablePending catalogue state) item.memeId
    let taken := (fill candidate (limit - items.length) state.pendingHomeItems).1
    let rest := (fill candidate (limit - items.length) state.pendingHomeItems).2
    have hsuffix : rest <:+ state.pendingHomeItems := fill_left_suffix candidate _ _
    have hsends : ∀ item ∈ state.pendingHomeItems, (candidate item).isSome =
        sendsHome catalogue state.pinnedMemeIds item.memeId :=
      fun item hitem => isSome_sendablePending hitem
    have htaken : taken.length ≤ limit - items.length := length_fill_le candidate _ _
    have hfill : taken ++ rest.filterMap candidate = state.pendingHomeItems.filterMap candidate :=
      fill_append_left candidate _ _
    have hids (found : List (PendingHomeRecommendation α)) :
        (found.filterMap candidate).map (·.meme.id) =
          (found.filter fun item => (candidate item).isSome).map (·.memeId) :=
      map_id_filterMap (fun item result => id_of_sendableById) found
    refine ⟨taken, rest.filter fun item => (candidate item).isSome, ?_, ?_, ?_, ?_, ?_, ?_⟩
    · rw [consumePendingHomeCandidates, if_neg (by simp [hpending]; omega), pendingLoop_eq_fill]
    · rw [← hids rest, ← List.map_append, hfill, hids, leftHome, List.filter_map]
      exact congrArg _ (List.filter_congr hsends)
    · intro item hitem
      obtain ⟨hrest, hsome⟩ := List.mem_filter.mp hitem
      rw [← hsends item (hsuffix.subset hrest)]
      exact hsome
    · exact ((List.filter_sublist).length_le).trans hsuffix.length_le
    · omega
    intro hne
    rcases fill_left candidate (limit - items.length) state.pendingHomeItems with hempty |
      ⟨hfull, -⟩
    · exact absurd (by change rest = [] at hempty; rw [hempty]; rfl) hne
    · change taken.length = _ at hfull
      omega

end Parts

def cursorAfter {α : Type} (calls : List (FeedCall α)) : Option Text :=
  calls.getLast?.bind (·.page.nextCursor)

def Linked {α : Type} (calls : List (FeedCall α)) : Prop :=
  ∀ earlier call, earlier ++ [call] <+: calls → call.cursor = cursorAfter earlier

def FeedCall.Closes {α : Type} (call : FeedCall α) : Prop :=
  call.page.hasMore = false ∨ call.page.nextCursor = none ∨
    call.page.nextCursor = call.cursor ∧ call.page.items = []

def Closed {α : Type} (calls : List (FeedCall α)) : Prop :=
  ∃ call, calls.getLast? = some call ∧ call.Closes

def dueHome {α : Type} (catalogue : Catalogue) (pinnedMemeIds : List UUID)
    (calls : List (FeedCall α)) : List UUID :=
  ((calls.flatMap (·.page.items)).map (·.memeId)).filter (sendsHome catalogue pinnedMemeIds)

def duePins (catalogue : Catalogue) (pinnedMemeIds : List UUID) : List UUID :=
  pinnedMemeIds.filter (sendsPin catalogue)

/-- What was delivered from the pins and from the home feed, and what is left of either. -/
structure Accounts {φ α : Type} (attributions : Attributions φ α) (catalogue : Catalogue)
    (gaveUp : Prop) (state : TelegramInlineFeedState α) (calls : List (FeedCall α))
    (delivered : List (TelegramInlineMediaResult α)) (fromPins fromHome : List UUID) : Prop where
  resumable : Resumable state
  ids : delivered.map (·.meme.id) = fromPins ++ fromHome
  pins : fromPins ++ leftPins catalogue state = duePins catalogue state.pinnedMemeIds
  home : fromHome ++ leftHome catalogue state = dueHome catalogue state.pinnedMemeIds calls
  order : fromHome = [] ∨ leftPins catalogue state = []
  rank : state.nextRank = delivered.length + 1
  ranks : delivered.map (fun item => attributions.rank item.attribution) =
    List.range' 1 delivered.length
  fresh : state.homeStarted = false →
    calls = [] ∧ state.pendingHomeItems = [] ∧ state.homeExhausted = false
  linked : Linked calls
  cursor : state.homeStarted = true → state.homeExhausted = false →
    state.homeCursor = cursorAfter calls
  closed : state.homeExhausted = true → Closed calls ∨ gaveUp

def Examined {α : Type} (catalogue : Catalogue) (state : TelegramInlineFeedState α)
    (fromHome : List UUID) : Prop :=
  fromHome = [] ∨
    ∀ item ∈ state.pendingHomeItems, sendsHome catalogue state.pinnedMemeIds item.memeId = true

section Steps

variable {φ α : Type} {attributions : Attributions φ α} {catalogue : Catalogue} {gaveUp : Prop}
  {state : TelegramInlineFeedState α} {calls earlier : List (FeedCall α)}
  {delivered before items : List (TelegramInlineMediaResult α)} {fromPins fromHome : List UUID}
  {limit : ℕ} {feed : HomeFeed α}

theorem linked_nil : Linked ([] : List (FeedCall α)) := fun before call hprefix =>
  absurd (List.prefix_nil.mp hprefix)
    (List.append_ne_nil_of_right_ne_nil before (List.cons_ne_nil call []))

theorem Linked.snoc {call : FeedCall α} (h : Linked calls) (hcall : call.cursor = cursorAfter calls) :
    Linked (calls ++ [call]) := by
  intro before last hprefix
  rcases List.prefix_concat_iff.mp hprefix with heq | hprefix
  · obtain ⟨rfl, rfl⟩ := List.append_singleton_inj.mp heq
    exact hcall
  · exact h before last hprefix

theorem Accounts.mono {gaveUp' : Prop}
    (h : Accounts attributions catalogue gaveUp state calls delivered fromPins fromHome)
    (hgave : gaveUp → gaveUp') :
    Accounts attributions catalogue gaveUp' state calls delivered fromPins fromHome :=
  { h with closed := fun hover => (h.closed hover).imp_right hgave }

theorem ranks_append {origin : Option (Text × Text)} {requestId : Text}
    {taken : List (TelegramInlineMediaResult α)}
    (h : delivered.map (fun item => attributions.rank item.attribution) =
      List.range' 1 delivered.length) :
    (delivered ++ numbered (withInlineAttribution attributions requestId origin)
        (delivered.length + 1) taken).map (fun item => attributions.rank item.attribution) =
      List.range' 1 (delivered.length + taken.length) := by
  have hplaces : (numbered (withInlineAttribution attributions requestId origin)
      (delivered.length + 1) taken).map (fun item => attributions.rank item.attribution) =
      List.range' (delivered.length + 1) taken.length := by
    apply places_numbered
    intro start first
    exact attributions.rank_stamped requestId start origin first.attribution
  rw [List.map_append, h, hplaces, Nat.add_comm delivered.length 1, List.range'_append_1]

theorem ids_numbered (origin : Option (Text × Text)) (requestId : Text) (start : ℕ)
    (taken : List (TelegramInlineMediaResult α)) :
    (numbered (withInlineAttribution attributions requestId origin) start taken).map
      (·.meme.id) = taken.map (·.meme.id) := by
  apply map_numbered
  intro start first
  rfl

theorem Accounts.pinned
    (h : Accounts attributions catalogue gaveUp state calls (before ++ items) fromPins fromHome)
    (hroom : items.length < limit) :
    ∃ page next fromPins',
      consumePinnedCandidates attributions catalogue state items limit = (page, next) ∧
      Accounts attributions catalogue gaveUp next calls (before ++ page) fromPins' fromHome ∧
      page.length ≤ limit ∧ next.pendingHomeItems = state.pendingHomeItems ∧
      next.pinnedMemeIds = state.pinnedMemeIds ∧
      (next.nextPinnedIndex < next.pinnedMemeIds.length →
        page.length = limit ∧ leftPins catalogue next ≠ []) := by
  obtain ⟨taken, nextIndex, heq, hleft, hindex, hlength, hmore⟩ :=
    @consumePinnedCandidates_spec φ α attributions catalogue state items limit
      h.resumable.index_le hroom
  have hpinned : leftPins catalogue state = [] → taken = [] := by
    intro hnil
    rw [hnil, List.append_eq_nil_iff, List.map_eq_nil_iff] at hleft
    exact hleft.1
  refine ⟨_, _, fromPins ++ taken.map (·.meme.id), heq, ?_, ?_, rfl, rfl, ?_⟩
  · have hranks := @ranks_append φ α attributions (before ++ items) explicitPins state.requestId
      taken h.ranks
    rw [← h.rank, List.append_assoc] at hranks
    constructor
    · exact ⟨hindex, Nat.le_add_right_of_le h.resumable.rank_pos, h.resumable.pending_le,
        h.resumable.cursor_ne⟩
    · rw [← List.append_assoc, List.map_append, h.ids, ids_numbered]
      rcases h.order with hnil | hnil
      · rw [hnil, List.append_nil, List.append_nil]
      · rw [hpinned hnil]
        simp
    · rw [List.append_assoc]
      exact (congrArg _ hleft).trans h.pins
    · exact h.home
    · rcases h.order with hnil | hnil
      · exact .inl hnil
      · refine .inr ?_
        rw [hnil, List.append_eq_nil_iff] at hleft
        exact hleft.2
    · rw [h.rank]
      simp
      omega
    · rw [hranks]
      simp [Nat.add_assoc]
    · exact h.fresh
    · exact h.linked
    · exact h.cursor
    · exact h.closed
  · simpa using hlength
  · intro hlt
    obtain ⟨hfull, hne⟩ := hmore hlt
    exact ⟨by simpa using hfull, hne⟩

theorem Accounts.pending
    (h : Accounts attributions catalogue gaveUp state calls (before ++ items) fromPins fromHome)
    (hroom : items.length < limit) (hpins : leftPins catalogue state = []) :
    ∃ page next fromHome',
      consumePendingHomeCandidates attributions catalogue state items limit = (page, next) ∧
      Accounts attributions catalogue gaveUp next calls (before ++ page) fromPins fromHome' ∧
      page.length ≤ limit ∧ Examined catalogue next fromHome' ∧
      leftPins catalogue next = [] ∧ next.nextPinnedIndex = state.nextPinnedIndex ∧
      next.pinnedMemeIds = state.pinnedMemeIds ∧ next.homeStarted = state.homeStarted ∧
      next.homeExhausted = state.homeExhausted ∧ items.length ≤ page.length ∧
      (next.pendingHomeItems ≠ [] → page.length = limit) := by
  obtain ⟨taken, remaining, heq, hleft, hsends, hremaining, hlength, hfull⟩ :=
    @consumePendingHomeCandidates_spec φ α attributions catalogue state items limit hroom
  have hfilter : (remaining.map (·.memeId)).filter (sendsHome catalogue state.pinnedMemeIds) =
      remaining.map (·.memeId) := by
    apply List.filter_eq_self.mpr
    intro id hid
    obtain ⟨item, hitem, rfl⟩ := List.mem_map.mp hid
    exact hsends item hitem
  refine ⟨_, _, fromHome ++ taken.map (·.meme.id), heq, ?_, ?_, .inr hsends, hpins, rfl, rfl, rfl,
    rfl, ?_, ?_⟩
  · have hranks := @ranks_append φ α attributions (before ++ items) none state.requestId taken
      h.ranks
    rw [← h.rank, List.append_assoc] at hranks
    constructor
    · exact ⟨h.resumable.index_le, Nat.le_add_right_of_le h.resumable.rank_pos,
        hremaining.trans h.resumable.pending_le, h.resumable.cursor_ne⟩
    · rw [← List.append_assoc, List.map_append, h.ids, ids_numbered, List.append_assoc]
    · exact h.pins
    · rw [List.append_assoc, ← h.home, ← hleft]
      exact congrArg (fun ids => fromHome ++ (taken.map (·.meme.id) ++ ids)) hfilter
    · exact .inr hpins
    · rw [h.rank]
      simp
      omega
    · rw [hranks]
      simp [Nat.add_assoc]
    · intro hstarted
      obtain ⟨hcalls, hpending, hexhausted⟩ := h.fresh hstarted
      refine ⟨hcalls, ?_, hexhausted⟩
      rw [hpending] at hremaining
      exact List.length_eq_zero_iff.mp (Nat.le_zero.mp hremaining)
    · exact h.linked
    · exact h.cursor
    · exact h.closed
  · simpa using hlength
  · rw [List.length_append]
    exact Nat.le_add_right _ _
  · intro hne
    simpa using hfull hne

theorem closes_iff {page : HomePage α} {cursor : Option Text} {requestedLimit : ℕ}
    {started : Bool} (hcursor : cursor = if started then state.homeCursor else none) :
    (!page.hasMore || page.nextCursor.isNone ||
      (started && decide (page.nextCursor = state.homeCursor) &&
        (page.items.map fun item => (⟨item.memeId, item.attribution⟩ :
          PendingHomeRecommendation α)).isEmpty)) = true ↔
      (⟨cursor, requestedLimit, page⟩ : FeedCall α).Closes := by
  cases started with
  | true =>
    rw [if_pos rfl] at hcursor
    simp [FeedCall.Closes, hcursor, or_assoc]
  | false =>
    simp only [Bool.false_eq_true, if_false] at hcursor
    simp only [FeedCall.Closes, hcursor, Bool.false_and, Bool.or_false, Bool.or_eq_true,
      Bool.not_eq_true', Option.isNone_iff_eq_none]
    constructor
    · rintro (hmore | hnone)
      · exact .inl hmore
      · exact .inr (.inl hnone)
    rintro (hmore | hnone | ⟨hnone, -⟩)
    · exact .inl hmore
    · exact .inr hnone
    · exact .inr hnone

theorem Accounts.fetch {consumption : Consumption α} {requestedLimit : ℕ}
    (h : Accounts attributions catalogue gaveUp consumption.state (earlier ++ consumption.calls)
      (before ++ consumption.items) fromPins fromHome)
    (hpending : consumption.state.pendingHomeItems = [])
    (hopen : consumption.state.homeExhausted = false) (hlimit : requestedLimit ≤ maxPendingItems) :
    Accounts attributions catalogue gaveUp
      (fetchHomeCandidates feed consumption requestedLimit).state
      (earlier ++ (fetchHomeCandidates feed consumption requestedLimit).calls)
      (before ++ (fetchHomeCandidates feed consumption requestedLimit).items) fromPins fromHome := by
  let cursor := if consumption.state.homeStarted then consumption.state.homeCursor else none
  let page := feed.answer consumption.calls.length cursor requestedLimit
  have hcalls : earlier ++ (fetchHomeCandidates feed consumption requestedLimit).calls =
      (earlier ++ consumption.calls) ++ [⟨cursor, requestedLimit, page⟩] :=
    (List.append_assoc _ _ _).symm
  have hasked : cursor = cursorAfter (earlier ++ consumption.calls) := by
    change (if consumption.state.homeStarted then consumption.state.homeCursor else none) = _
    cases hstarted : consumption.state.homeStarted with
    | false =>
      rw [(h.fresh hstarted).1]
      rfl
    | true =>
      rw [if_pos rfl]
      exact h.cursor hstarted hopen
  have hitems : fromHome = dueHome catalogue consumption.state.pinnedMemeIds
      (earlier ++ consumption.calls) := by
    have hleft : leftHome catalogue consumption.state = [] := by
      rw [leftHome, hpending]
      rfl
    rw [← h.home, hleft, List.append_nil]
  constructor
  · refine ⟨h.resumable.index_le, h.resumable.rank_pos, ?_, feed.cursor_ne _ _ _⟩
    refine le_trans ?_ hlimit
    rw [fetchHomeCandidates]
    simp only [List.length_map]
    exact feed.length_le _ _ _
  · exact h.ids
  · exact h.pins
  · rw [hcalls, hitems]
    simp only [dueHome, leftHome, fetchHomeCandidates, List.flatMap_append, List.map_append,
      List.filter_append, List.flatMap_singleton, List.map_map]
    rfl
  · exact h.order
  · exact h.rank
  · exact h.ranks
  · exact fun hstarted => Bool.noConfusion hstarted
  · rw [hcalls]
    exact h.linked.snoc hasked
  · intro _ _
    rw [hcalls, cursorAfter, List.getLast?_concat]
    rfl
  intro hover
  refine .inl ⟨⟨cursor, requestedLimit, page⟩, ?_, ?_⟩
  · rw [hcalls, List.getLast?_concat]
  · exact (closes_iff rfl).mp hover

theorem Accounts.giveUp
    (h : Accounts attributions catalogue gaveUp state calls delivered fromPins fromHome)
    (hstarted : state.homeStarted = true) (hgave : gaveUp) :
    Accounts attributions catalogue gaveUp (giveUp state) calls delivered fromPins fromHome :=
  { h with
    resumable := ⟨h.resumable.index_le, h.resumable.rank_pos, h.resumable.pending_le, nofun⟩
    fresh := fun hfresh => Bool.noConfusion (hstarted.symm.trans hfresh)
    cursor := fun _ hopen => Bool.noConfusion hopen
    closed := fun _ => .inr hgave }

variable {bound : ℕ}

structure Round (attributions : Attributions φ α) (catalogue : Catalogue) (gaveUp : Prop)
    (earlier : List (FeedCall α)) (before : List (TelegramInlineMediaResult α))
    (fromPins fromHome : List UUID) (limit : ℕ) (consumption next : Consumption α) : Prop where
  accounts : Accounts attributions catalogue gaveUp next.state (earlier ++ next.calls)
    (before ++ next.items) fromPins fromHome
  examined : Examined catalogue next.state fromHome
  length_le : next.items.length ≤ limit
  index : next.state.nextPinnedIndex = consumption.state.nextPinnedIndex
  pinned : next.state.pinnedMemeIds = consumption.state.pinnedMemeIds
  started : consumption.state.homeStarted = true → next.state.homeStarted = true
  items : consumption.items.length ≤ next.items.length
  calls : consumption.calls.length ≤ next.calls.length

theorem Accounts.round (fetches : ℕ) {consumption : Consumption α}
    (h : Accounts attributions catalogue gaveUp consumption.state (earlier ++ consumption.calls)
      (before ++ consumption.items) fromPins fromHome)
    (hexamined : consumption.items.length < limit ∨ Examined catalogue consumption.state fromHome)
    (hpins : consumption.items.length < limit → leftPins catalogue consumption.state = [])
    (hlength : consumption.items.length ≤ limit) :
    ∃ next fromHome', Round attributions catalogue gaveUp earlier before fromPins fromHome' limit
        consumption next ∧ next.calls = consumption.calls ∧
      (homeLoop attributions catalogue feed limit fetches consumption = next ∧
          (next.items.length < limit →
            next.state.pendingHomeItems = [] ∧ next.state.homeExhausted = true) ∨
        homeLoop attributions catalogue feed limit fetches consumption =
          (match fetches with
            | 0 => { next with state := InlinePaging.giveUp next.state }
            | fetches + 1 => homeLoop attributions catalogue feed limit fetches
                (fetchHomeCandidates feed next (min 100 (max 20 (limit - next.items.length))))) ∧
          next.items.length < limit ∧ leftPins catalogue next.state = [] ∧
          next.state.pendingHomeItems = [] ∧ next.state.homeExhausted = false) := by
  rw [homeLoop.eq_def]
  split_ifs with hround
  · obtain ⟨page, state, fromHome', heq, haccounts, hpage, hexamined', hleft, hindex, hpinned,
      hstarted, hexhausted, hgrows, hfull⟩ := h.pending hround.1 (hpins hround.1)
    have hnext : Round attributions catalogue gaveUp earlier before fromPins fromHome' limit
        consumption { consumption with items := page, state := state } :=
      ⟨haccounts, hexamined', hpage, hindex, hpinned, fun hs => hstarted.trans hs, hgrows, le_rfl⟩
    refine ⟨_, fromHome', hnext, rfl, ?_⟩
    simp only [heq]
    split_ifs with hstop hover
    · refine .inl ⟨rfl, fun hlt => ?_⟩
      rcases hstop with hge | hne
      · exact absurd hlt (Nat.not_lt.mpr hge)
      · exact absurd (hfull hne) (Nat.ne_of_lt hlt)
    · push Not at hstop
      exact .inl ⟨rfl, fun _ => ⟨hstop.2, hover⟩⟩
    · push Not at hstop
      exact .inr ⟨rfl, hstop.1, hleft, hstop.2, Bool.not_eq_true _ ▸ hover⟩
  · have hstop : consumption.items.length < limit →
        consumption.state.pendingHomeItems = [] ∧ consumption.state.homeExhausted = true := by
      intro hlt
      by_contra hne
      apply hround
      refine ⟨hlt, ?_⟩
      cases hexhausted : consumption.state.homeExhausted with
      | false => exact .inr rfl
      | true => exact .inl fun hpending => hne ⟨hpending, hexhausted⟩
    have hexamined' : Examined catalogue consumption.state fromHome := by
      rcases hexamined with hlt | hexamined
      · right
        rw [(hstop hlt).1]
        exact fun item hitem => absurd hitem List.not_mem_nil
      · exact hexamined
    exact ⟨consumption, fromHome, ⟨h, hexamined', hlength, rfl, rfl, id, le_rfl, le_rfl⟩, rfl,
      .inl ⟨rfl, hstop⟩⟩

theorem Accounts.homeLoop (fetches : ℕ) (consumption : Consumption α)
    (h : Accounts attributions catalogue gaveUp consumption.state (earlier ++ consumption.calls)
      (before ++ consumption.items) fromPins fromHome)
    (hexamined : consumption.items.length < limit ∨ Examined catalogue consumption.state fromHome)
    (hpins : consumption.items.length < limit → leftPins catalogue consumption.state = [])
    (hlength : consumption.items.length ≤ limit) (hbound : bound ≤ consumption.calls.length + fetches)
    (hstarted : 0 < fetches ∨ consumption.state.homeStarted = true) :
    ∃ fromHome', Round attributions catalogue
        (gaveUp ∨ bound ≤ (homeLoop attributions catalogue feed limit fetches
          consumption).calls.length) earlier before fromPins fromHome' limit consumption
        (homeLoop attributions catalogue feed limit fetches consumption) ∧
      ((homeLoop attributions catalogue feed limit fetches consumption).items.length < limit →
        (homeLoop attributions catalogue feed limit fetches
            consumption).state.pendingHomeItems = [] ∧
          (homeLoop attributions catalogue feed limit fetches
            consumption).state.homeExhausted = true) := by
  induction fetches generalizing consumption fromHome with
  | zero =>
    obtain ⟨next, fromHome', hnext, hcalls, hcase⟩ :=
      @Accounts.round φ α attributions catalogue gaveUp earlier before fromPins fromHome limit
        feed 0 consumption h hexamined hpins hlength
    rcases hcase with ⟨heq, hstop⟩ | ⟨heq, hlt, hleft, hpending, hopen⟩
    · rw [heq]
      exact ⟨fromHome', { hnext with accounts := hnext.accounts.mono .inl }, hstop⟩
    rw [heq]
    have hgave : bound ≤ next.calls.length := by
      rw [hcalls]
      exact hbound
    have hbegun : next.state.homeStarted = true :=
      hnext.started (hstarted.resolve_left (Nat.lt_irrefl 0))
    refine ⟨fromHome', ⟨?_, ?_, hnext.length_le, hnext.index, hnext.pinned, fun _ => hbegun,
      hnext.items, hnext.calls⟩, fun _ => ⟨hpending, rfl⟩⟩
    · exact (hnext.accounts.mono .inl).giveUp hbegun (.inr hgave)
    · exact hnext.examined
  | succ fetches ih =>
    obtain ⟨next, fromHome', hnext, hcalls, hcase⟩ :=
      @Accounts.round φ α attributions catalogue gaveUp earlier before fromPins fromHome limit
        feed (fetches + 1) consumption h hexamined hpins hlength
    rcases hcase with ⟨heq, hstop⟩ | ⟨heq, hlt, hleft, hpending, hopen⟩
    · rw [heq]
      exact ⟨fromHome', { hnext with accounts := hnext.accounts.mono .inl }, hstop⟩
    let fetched := fetchHomeCandidates feed next (min 100 (max 20 (limit - next.items.length)))
    have hfetched : Accounts attributions catalogue gaveUp fetched.state
        (earlier ++ fetched.calls) (before ++ fetched.items) fromPins fromHome' := by
      apply hnext.accounts.fetch hpending hopen
      exact (Nat.min_le_left _ _).trans (by decide)
    have hcount : fetched.calls.length = consumption.calls.length + 1 := by
      rw [← hcalls]
      exact List.length_append
    obtain ⟨fromHome'', hround, hstop⟩ := ih fetched hfetched (.inl hlt) (fun _ => hleft)
      hnext.length_le (by omega) (.inr rfl)
    rw [heq]
    exact ⟨fromHome'', ⟨hround.accounts, hround.examined, hround.length_le,
      hround.index.trans hnext.index, hround.pinned.trans hnext.pinned,
      fun _ => hround.started rfl, hnext.items.trans hround.items,
      (Nat.le_of_lt (by omega : consumption.calls.length < fetched.calls.length)).trans
        hround.calls⟩, hstop⟩

end Steps

def fewestFetchAttempts (settings : InlineSettings) : ℕ :=
  max 2 (settings.recommendationFeedPoolLimit / 20 + 2)

theorem fewestFetchAttempts_le (settings : InlineSettings) {limit : ℕ} (h : 0 < limit) :
    fewestFetchAttempts settings ≤ maxFetchAttempts settings limit := by
  have hdiv : settings.recommendationFeedPoolLimit / 20 ≤
      settings.recommendationFeedPoolLimit / min 20 limit :=
    Nat.div_le_div_left (Nat.min_le_left 20 limit) (Nat.lt_min.mpr ⟨by decide, h⟩)
  exact max_le_max le_rfl (Nat.add_le_add_right hdiv 2)

def Settled {α : Type} (catalogue : Catalogue) (state : TelegramInlineFeedState α) : Prop :=
  state.nextPinnedIndex < state.pinnedMemeIds.length → leftPins catalogue state ≠ []

structure PageEnd {α : Type} (catalogue : Catalogue) (limit : ℕ) (next : Consumption α) : Prop where
  settled : Settled catalogue next.state
  started : next.state.homeStarted = true
  short : next.items.length < limit → leftPins catalogue next.state = [] ∧
    next.state.pendingHomeItems = [] ∧ next.state.homeExhausted = true

section Page

variable {φ α : Type} {attributions : Attributions φ α} {catalogue : Catalogue} {gaveUp : Prop}
  {earlier calls : List (FeedCall α)} {before : List (TelegramInlineMediaResult α)}
  {state : TelegramInlineFeedState α} {fromPins fromHome : List UUID} {limit : ℕ}

theorem freeze {feed : HomeFeed α} {consumption : Consumption α}
    (h : Accounts attributions catalogue gaveUp consumption.state (earlier ++ consumption.calls)
      (before ++ consumption.items) fromPins fromHome)
    (hexamined : Examined catalogue consumption.state fromHome)
    (hsettled : Settled catalogue consumption.state)
    (hshort : consumption.items.length < limit → leftPins catalogue consumption.state = [] ∧
      consumption.state.pendingHomeItems = [] ∧ consumption.state.homeExhausted = true) :
    ∃ next, (if consumption.state.homeStarted then consumption
        else fetchHomeCandidates feed consumption 20) = next ∧
      Accounts attributions catalogue gaveUp next.state (earlier ++ next.calls)
        (before ++ next.items) fromPins fromHome ∧
      Examined catalogue next.state fromHome ∧ PageEnd catalogue limit next ∧
      next.items = consumption.items ∧
      next.state.pinnedMemeIds = consumption.state.pinnedMemeIds ∧
      consumption.calls.length ≤ next.calls.length := by
  cases hstarted : consumption.state.homeStarted with
  | true =>
    exact ⟨consumption, if_pos rfl, h, hexamined, ⟨hsettled, hstarted, hshort⟩, rfl, rfl, le_rfl⟩
  | false =>
    obtain ⟨hcalls, hpending, hopen⟩ := h.fresh hstarted
    have hnone : fromHome = [] := by
      have hhome := h.home
      rw [hcalls] at hhome
      exact (List.append_eq_nil_iff.mp hhome).1
    refine ⟨_, if_neg Bool.false_ne_true, h.fetch hpending hopen (by decide), .inl hnone,
      ⟨hsettled, rfl, fun hlt => ?_⟩, rfl, rfl, ?_⟩
    · exact Bool.noConfusion (hopen.symm.trans (hshort hlt).2.2)
    · rw [fetchHomeCandidates, List.length_append]
      exact Nat.le_add_right _ _

theorem Accounts.consume (settings : InlineSettings) (feed : HomeFeed α) (limit : ℕ)
    (h : Accounts attributions catalogue gaveUp state (earlier ++ calls) before fromPins fromHome)
    (hexamined : Examined catalogue state fromHome) :
    ∃ next fromPins' fromHome',
      consumeEmptyQueryCandidates attributions catalogue settings feed limit state calls = next ∧
      Accounts attributions catalogue
        (gaveUp ∨ fewestFetchAttempts settings ≤ next.calls.length) next.state
        (earlier ++ next.calls) (before ++ next.items) fromPins' fromHome' ∧
      Examined catalogue next.state fromHome' ∧ next.items.length ≤ limit ∧
      next.state.pinnedMemeIds = state.pinnedMemeIds ∧ calls.length ≤ next.calls.length ∧
      (0 < limit → PageEnd catalogue limit next) := by
  rcases Nat.eq_zero_or_pos limit with rfl | hlimit
  · refine ⟨_, fromPins, fromHome, rfl, ?_, hexamined, Nat.zero_le _, rfl, le_rfl,
      fun hlt => absurd hlt (Nat.lt_irrefl 0)⟩
    rw [consumeEmptyQueryCandidates, if_pos rfl, List.append_nil]
    exact h.mono .inl
  have hbegin : Accounts attributions catalogue gaveUp state (earlier ++ calls) (before ++ [])
      fromPins fromHome := by
    rw [List.append_nil]
    exact h
  obtain ⟨page, pinned, fromPins', heq, hpinned, hpage, hpending, hids, hmore⟩ :=
    hbegin.pinned hlimit
  have hleft : page.length < limit → leftPins catalogue pinned = [] := by
    intro hlt
    have hend : pinned.pinnedMemeIds.length ≤ pinned.nextPinnedIndex := by
      by_contra hlt'
      exact absurd (hmore (Nat.lt_of_not_le hlt')).1 (Nat.ne_of_lt hlt)
    rw [leftPins, List.drop_eq_nil_of_le hend, List.filter_nil]
  have hexamined' : Examined catalogue pinned fromHome := by
    unfold Examined
    rw [hpending, hids]
    exact hexamined
  have hfetches : fewestFetchAttempts settings ≤
      calls.length + maxFetchAttempts settings limit :=
    (fewestFetchAttempts_le settings hlimit).trans (Nat.le_add_left _ _)
  have hallowed : 0 < maxFetchAttempts settings limit :=
    lt_of_lt_of_le Nat.two_pos (le_max_left 2 _)
  let looped := InlinePaging.homeLoop attributions catalogue feed limit (maxFetchAttempts settings limit)
    ⟨page, pinned, calls⟩
  obtain ⟨fromHome', hround, hstop⟩ := Accounts.homeLoop (maxFetchAttempts settings limit)
    ⟨page, pinned, calls⟩ hpinned (.inr hexamined') hleft hpage hfetches (.inl hallowed)
  have hsettled : Settled catalogue looped.state := by
    intro hlt
    rw [hround.index, hround.pinned] at hlt
    rw [leftPins, hround.index, hround.pinned]
    exact (hmore hlt).2
  have hshort : looped.items.length < limit → leftPins catalogue looped.state = [] ∧
      looped.state.pendingHomeItems = [] ∧ looped.state.homeExhausted = true := by
    intro hlt
    refine ⟨?_, hstop hlt⟩
    rw [leftPins, hround.index, hround.pinned]
    exact hleft (lt_of_le_of_lt hround.items hlt)
  obtain ⟨next, hnext, haccounts, hexaminedNext, hend, hitems, hpinnedNext, hcalls⟩ :=
    @freeze φ α attributions catalogue _ earlier before fromPins' fromHome' limit feed looped
      hround.accounts hround.examined hsettled hshort
  refine ⟨next, fromPins', fromHome', ?_, ?_, hexaminedNext, ?_, ?_, hround.calls.trans hcalls,
    fun _ => hend⟩
  · rw [consumeEmptyQueryCandidates, if_neg (Nat.ne_of_gt hlimit), heq]
    exact hnext
  · exact haccounts.mono (Or.imp_right fun hmany => hmany.trans hcalls)
  · rw [hitems]
    exact hround.length_le
  · exact hpinnedNext.trans (hround.pinned.trans hids)

end Page

def Walk.delivered {α : Type} (walk : Walk α) : List (TelegramInlineMediaResult α) :=
  walk.served.flatMap fun served => served.skipped ++ served.page.items

def Walk.calls {α : Type} (walk : Walk α) : List (FeedCall α) := walk.served.flatMap (·.calls)

def Walk.GaveUp {α : Type} (settings : InlineSettings) (walk : Walk α) : Prop :=
  ∃ served ∈ walk.served, fewestFetchAttempts settings ≤ served.calls.length

def pinnedIds (catalogue : Catalogue) (viewer : InlineViewer) : List UUID :=
  if viewer.isPersonal then (loadPinnedMemes catalogue viewer.pins).map PinnedMeme.memeId else []

section Following

variable {φ α : Type} {floats : Json.Floats φ} {readings : Recommendations.FeedWire.Readings φ}
  {attributions : Attributions φ α} {catalogue : Catalogue} {settings : InlineSettings}
  {viewer : InlineViewer} {request : Request α} {cursor : Option Text} {entries saved : Entries}
  {served : Served α} {state : TelegramInlineFeedState α} {walk : Walk α} {gaveUp : Prop}
  {earlier : List (FeedCall α)} {before : List (TelegramInlineMediaResult α)}
  {fromPins fromHome : List UUID} {limit : ℕ}

theorem clampLimit_pos (limit : Int) : 0 < clampLimit limit := by
  unfold clampLimit
  omega

theorem emptyQueryHasMore_iff (h : Settled catalogue state) :
    emptyQueryHasMore state = true ↔
      leftPins catalogue state ≠ [] ∨ state.pendingHomeItems ≠ [] ∨
        state.homeExhausted = false := by
  have hpins : state.nextPinnedIndex < state.pinnedMemeIds.length ↔
      leftPins catalogue state ≠ [] := by
    constructor
    · exact h
    intro hne
    by_contra hge
    apply hne
    rw [leftPins, List.drop_eq_nil_of_le (Nat.le_of_not_lt hge), List.filter_nil]
  rw [emptyQueryHasMore, Bool.or_eq_true, Bool.or_eq_true, decide_eq_true_eq, hpins,
    Bool.not_eq_true', Bool.not_eq_true', List.isEmpty_eq_false_iff, or_assoc]

theorem continuation_spec {nextCursor : Option Text}
    (h : continuation floats attributions settings request state entries =
      .ok (nextCursor, saved)) :
    (nextCursor.isSome = true ↔ request.canSave = true ∧ emptyQueryHasMore state = true) ∧
      ∀ next, nextCursor = some next → Services.stripText next = next ∧
        saved.get next = some (encodeState floats attributions state) := by
  unfold continuation at h
  split_ifs at h with hmore
  · cases hsave : save floats attributions settings.recommendationFeedPoolTtlSeconds state
      request.now request.cursorId request.canSave entries with
    | ok stored =>
      obtain ⟨next, later⟩ := stored
      rw [hsave] at h
      obtain ⟨rfl, rfl⟩ := Prod.mk.inj (Except.ok.inj h)
      refine ⟨?_, ?_⟩
      · simp [hmore, (of_save hsave).1]
      · rintro _ ⟨⟩
        exact ⟨(normalized_of_save hsave).1, get_of_save hsave⟩
    | error failure =>
      cases failure with
      | unavailable text =>
        rw [hsave] at h
        obtain ⟨rfl, rfl⟩ := Prod.mk.inj (Except.ok.inj h)
        have hoff : request.canSave = false := by
          unfold save at hsave
          split_ifs at hsave with hexpired hsaved
          · cases hsave
          · exact Bool.not_eq_true _ ▸ hsaved
        simp [hoff]
      | cursor text =>
        rw [hsave] at h
        cases h
      | expired text =>
        rw [hsave] at h
        cases h
  · obtain ⟨rfl, rfl⟩ := Prod.mk.inj (Except.ok.inj h)
    simp [hmore]

structure Answers (floats : Json.Floats φ) (attributions : Attributions φ α)
    (catalogue : Catalogue) (settings : InlineSettings) (request : Request α) (gaveUp : Prop)
    (earlier : List (FeedCall α)) (before : List (TelegramInlineMediaResult α))
    (served : Served α) (saved : Entries) (fromPins fromHome : List UUID) : Prop where
  accounts : Accounts attributions catalogue
    (gaveUp ∨ fewestFetchAttempts settings ≤ served.calls.length) served.left
    (earlier ++ served.calls) (before ++ (served.skipped ++ served.page.items)) fromPins fromHome
  examined : Examined catalogue served.left fromHome
  offset : served.page.offset = before.length + served.skipped.length
  length_le : served.page.items.length ≤ clampLimit request.limit
  hasMore : served.page.hasMore = true ↔ request.canSave = true ∧
    (leftPins catalogue served.left ≠ [] ∨ served.left.pendingHomeItems ≠ [] ∨
      served.left.homeExhausted = false)
  short : served.page.items.length < clampLimit request.limit →
    leftPins catalogue served.left = [] ∧ served.left.pendingHomeItems = [] ∧
      served.left.homeExhausted = true
  cursor : served.page.nextCursor.isSome = served.page.hasMore
  saved : ∀ next, served.page.nextCursor = some next → Services.stripText next = next ∧
    saved.get next = some (encodeState floats attributions served.left)

theorem Accounts.search {legacySkip : ℕ}
    (h : Accounts attributions catalogue gaveUp state earlier before fromPins fromHome)
    (hexamined : Examined catalogue state fromHome)
    (hstart : startOf floats readings attributions catalogue viewer request entries cursor =
      .ok (state, legacySkip))
    (hsearch : searchEmptyQuery floats readings attributions catalogue settings viewer request
      cursor entries = .ok (served, saved)) :
    served.left.pinnedMemeIds = state.pinnedMemeIds ∧
      ∃ fromPins' fromHome', Answers floats attributions catalogue settings request gaveUp earlier
        before served saved fromPins' fromHome' := by
  have hbegin : Accounts attributions catalogue gaveUp state (earlier ++ []) before fromPins
      fromHome := by
    rw [List.append_nil]
    exact h
  obtain ⟨skipped, pins, home, hskipped, hskippedAccounts, hskippedExamined, -, hskippedIds, -,
    -⟩ :=
    hbegin.consume settings request.feed legacySkip hexamined
  obtain ⟨consumed, fromPins', fromHome', hconsumed, haccounts, hconsumedExamined, hlength, hids,
    hcalls, hend⟩ := hskippedAccounts.consume settings request.feed (clampLimit request.limit)
      hskippedExamined
  have hpage := hend (clampLimit_pos request.limit)
  simp only [searchEmptyQuery, hstart, hskipped, hconsumed, bind, Except.bind] at hsearch
  cases hcontinuation : continuation floats attributions settings request consumed.state entries with
  | error failure =>
    rw [hcontinuation] at hsearch
    cases hsearch
  | ok stored =>
    obtain ⟨nextCursor, later⟩ := stored
    rw [hcontinuation] at hsearch
    obtain ⟨rfl, rfl⟩ := Prod.mk.inj (Except.ok.inj hsearch)
    obtain ⟨hmore, hsaved⟩ := continuation_spec hcontinuation
    refine ⟨hids.trans hskippedIds, fromPins', fromHome', ?_, hconsumedExamined, ?_, hlength, ?_,
      hpage.short, rfl, hsaved⟩
    · rw [← List.append_assoc]
      refine haccounts.mono ?_
      rintro ((hgave | hmany) | hmany)
      · exact .inl hgave
      · exact .inr (hmany.trans hcalls)
      · exact .inr hmany
    · change skipped.state.nextRank - 1 = _
      rw [hskippedAccounts.rank, List.length_append]
      rfl
    · rw [← emptyQueryHasMore_iff hpage.settled]
      exact hmore

def Walk.Kept (floats : Json.Floats φ) (attributions : Attributions φ α) (catalogue : Catalogue)
    (settings : InlineSettings) (viewer : InlineViewer) (walk : Walk α) : Prop :=
  walk = Walk.begin ∨ ∃ last fromPins fromHome, walk.served.getLast? = some last ∧
    last.left.pinnedMemeIds = pinnedIds catalogue viewer ∧
    Accounts attributions catalogue (walk.GaveUp settings) last.left walk.calls walk.delivered
      fromPins fromHome ∧
    Examined catalogue last.left fromHome ∧
    ∀ next, last.page.nextCursor = some next → Services.stripText next = next ∧
      walk.entries.get next = some (encodeState floats attributions last.left)

theorem accounts_openFeed (attributions : Attributions φ α) (catalogue : Catalogue)
    (viewer : InlineViewer) (request : Request α) (gaveUp : Prop) :
    Accounts attributions catalogue gaveUp (openFeed catalogue viewer request) [] [] [] [] where
  resumable := ⟨Nat.zero_le _, le_rfl, Nat.zero_le _, nofun⟩
  ids := rfl
  pins := rfl
  home := rfl
  order := .inl rfl
  rank := rfl
  ranks := rfl
  fresh _ := ⟨rfl, rfl, rfl⟩
  linked := linked_nil
  cursor hstarted := Bool.noConfusion hstarted
  closed hover := Bool.noConfusion hover

theorem Walk.Kept.start {legacySkip : ℕ}
    (h : walk.Kept floats attributions catalogue settings viewer) (hopen : walk.ended = false)
    (hstart : startOf floats readings attributions catalogue viewer request walk.entries
      walk.cursor = .ok (state, legacySkip)) :
    state.pinnedMemeIds = pinnedIds catalogue viewer ∧ ∃ fromPins fromHome,
      Accounts attributions catalogue (walk.GaveUp settings) state walk.calls walk.delivered
        fromPins fromHome ∧ Examined catalogue state fromHome := by
  rcases h with rfl | ⟨last, fromPins, fromHome, hlast, hpinned, haccounts, hexamined, hsaved⟩
  · obtain ⟨rfl, -⟩ := Prod.mk.inj (Except.ok.inj hstart)
    exact ⟨rfl, [], [], accounts_openFeed attributions catalogue viewer request _, .inl rfl⟩
  obtain ⟨next, hnext⟩ : ∃ next, last.page.nextCursor = some next := by
    apply Option.ne_none_iff_exists'.mp
    intro hnone
    rw [Walk.ended, hlast, Option.any_some, hnone] at hopen
    cases hopen
  have hcursor : walk.cursor = some next := by
    rw [Walk.cursor, hlast, Option.bind_some, hnext]
  obtain ⟨hnormal, hget⟩ := hsaved next hnext
  rw [hcursor] at hstart
  simp only [startOf, bind, Except.bind] at hstart
  cases hload : load floats readings attributions viewer.toViewer next request.now
    request.canLoad walk.entries with
  | error failure =>
    rw [hload] at hstart
    cases hstart
  | ok loaded =>
    rw [hload] at hstart
    obtain ⟨rfl, -⟩ := Prod.mk.inj (Except.ok.inj hstart)
    obtain rfl := load_of_get hnormal haccounts.resumable hget hload
    exact ⟨hpinned, fromPins, fromHome, haccounts, hexamined⟩

theorem Walk.Kept.search (h : walk.Kept floats attributions catalogue settings viewer)
    (hopen : walk.ended = false)
    (hsearch : searchEmptyQuery floats readings attributions catalogue settings viewer request
      walk.cursor walk.entries = .ok (served, saved)) :
    served.left.pinnedMemeIds = pinnedIds catalogue viewer ∧ ∃ fromPins fromHome,
      Answers floats attributions catalogue settings request (walk.GaveUp settings) walk.calls
        walk.delivered served saved fromPins fromHome := by
  cases hstart : startOf floats readings attributions catalogue viewer request walk.entries
    walk.cursor with
  | error failure =>
    rw [searchEmptyQuery, hstart] at hsearch
    cases hsearch
  | ok start =>
    obtain ⟨state, legacySkip⟩ := start
    obtain ⟨hpinned, fromPins, fromHome, haccounts, hexamined⟩ := h.start hopen hstart
    obtain ⟨hids, hanswers⟩ := haccounts.search hexamined hstart hsearch
    exact ⟨hids.trans hpinned, hanswers⟩

theorem Walk.Kept.visit (h : walk.Kept floats attributions catalogue settings viewer)
    (request : Request α) :
    (walk.visit floats readings attributions catalogue settings viewer request).Kept floats
      attributions catalogue settings viewer := by
  unfold Walk.visit
  split_ifs with hended
  · exact h
  have hopen : walk.ended = false := Bool.not_eq_true _ ▸ hended
  cases hsearch : searchEmptyQuery floats readings attributions catalogue settings viewer request
    walk.cursor walk.entries with
  | error failure => exact h
  | ok answer =>
    obtain ⟨served, saved⟩ := answer
    obtain ⟨hpinned, fromPins, fromHome, hanswers⟩ := h.search hopen hsearch
    refine .inr ⟨served, fromPins, fromHome, List.getLast?_concat, hpinned, ?_,
      hanswers.examined, hanswers.saved⟩
    have haccounts := hanswers.accounts
    simp only [Walk.calls, Walk.delivered, List.flatMap_append, List.flatMap_singleton]
    refine haccounts.mono ?_
    rintro (⟨gave, hgave, hmany⟩ | hmany)
    · exact ⟨gave, List.mem_append_left _ hgave, hmany⟩
    · exact ⟨served, List.mem_append_right _ List.mem_cons_self, hmany⟩

def follow (floats : Json.Floats φ) (readings : Recommendations.FeedWire.Readings φ)
    (attributions : Attributions φ α) (catalogue : Catalogue) (settings : InlineSettings)
    (viewer : InlineViewer) (requests : List (Request α)) : Walk α :=
  requests.foldl (Walk.visit floats readings attributions catalogue settings viewer) Walk.begin

theorem kept_follow (requests : List (Request α)) :
    (follow floats readings attributions catalogue settings viewer requests).Kept floats
      attributions catalogue settings viewer := by
  induction requests using List.reverseRecOn with
  | nil => exact .inl rfl
  | append_singleton earlier request ih =>
    rw [follow, List.foldl_append, List.foldl_cons, List.foldl_nil]
    exact ih.visit request

end Following

def due {α : Type} (catalogue : Catalogue) (viewer : InlineViewer) (calls : List (FeedCall α)) :
    List UUID :=
  duePins catalogue (pinnedIds catalogue viewer) ++
    dueHome catalogue (pinnedIds catalogue viewer) calls

section Yields

variable {φ α : Type} {attributions : Attributions φ α} {catalogue : Catalogue}
  {viewer : InlineViewer} {gaveUp : Prop} {state : TelegramInlineFeedState α}
  {calls : List (FeedCall α)} {delivered : List (TelegramInlineMediaResult α)}
  {fromPins fromHome : List UUID}

instance : Std.Total PinnedMeme.Before where
  total first second := by
    unfold PinnedMeme.Before
    omega

instance : IsTrans PinnedMeme PinnedMeme.Before where
  trans first second third := by
    unfold PinnedMeme.Before
    omega

theorem pairwise_loadPinnedMemes (catalogue : Catalogue) (pins : List PinnedMeme) :
    (loadPinnedMemes catalogue pins).Pairwise fun first second =>
      first.position ≤ second.position := by
  refine (List.pairwise_insertionSort PinnedMeme.Before _).imp ?_
  intro first second hbefore
  rcases hbefore with hlt | ⟨heq, -⟩
  · exact Nat.le_of_lt hlt
  · exact Nat.le_of_eq heq

theorem nodup_pinnedIds (catalogue : Catalogue) (viewer : InlineViewer) :
    (pinnedIds catalogue viewer).Nodup := by
  unfold pinnedIds
  split_ifs
  · rw [loadPinnedMemes, ((List.perm_insertionSort PinnedMeme.Before _).map _).nodup_iff]
    exact viewer.distinct.sublist (List.filter_sublist.map _)
  · exact List.nodup_nil

theorem nodup_due (h : ((calls.flatMap (·.page.items)).map (·.memeId)).Nodup) :
    (due catalogue viewer calls).Nodup := by
  refine List.nodup_append.mpr ⟨(nodup_pinnedIds catalogue viewer).filter _, h.filter _, ?_⟩
  rintro id hpin _ hhome rfl
  have hpinned : id ∈ pinnedIds catalogue viewer := (List.mem_filter.mp hpin).1
  have hsends := (List.mem_filter.mp hhome).2
  rw [sendsHome, Bool.and_eq_true, decide_eq_true_eq] at hsends
  exact hsends.1 hpinned

section Due

variable (h : Accounts attributions catalogue gaveUp state calls delivered fromPins fromHome)
  (hpinned : state.pinnedMemeIds = pinnedIds catalogue viewer)

include h hpinned

theorem Accounts.due :
    delivered.map (·.meme.id) ++ (leftPins catalogue state ++ leftHome catalogue state) =
      InlinePaging.due catalogue viewer calls := by
  rw [InlinePaging.due, ← hpinned, ← h.pins, ← h.home, h.ids]
  rcases h.order with hnil | hnil
  · simp [hnil]
  · simp [hnil]

theorem Accounts.length_lt_iff :
    delivered.length < (InlinePaging.due catalogue viewer calls).length ↔
      leftPins catalogue state ≠ [] ∨ leftHome catalogue state ≠ [] := by
  rw [← h.due hpinned, List.length_append, List.length_map, ← List.length_pos_iff,
    ← List.length_pos_iff, List.length_append]
  omega

theorem Accounts.hasMore_iff :
    (leftPins catalogue state ≠ [] ∨ state.pendingHomeItems ≠ [] ∨ state.homeExhausted = false) ↔
      delivered.length < (InlinePaging.due catalogue viewer calls).length ∨
        state.pendingHomeItems ≠ [] ∨ state.homeExhausted = false := by
  rw [h.length_lt_iff hpinned]
  have hhome : leftHome catalogue state ≠ [] → state.pendingHomeItems ≠ [] := by
    intro hne hnil
    apply hne
    rw [leftHome, hnil]
    rfl
  tauto

theorem Accounts.due_of_left
    (hpins : leftPins catalogue state = []) (hpending : state.pendingHomeItems = []) :
    delivered.map (·.meme.id) = InlinePaging.due catalogue viewer calls := by
  have hhome : leftHome catalogue state = [] := by
    rw [leftHome, hpending]
    rfl
  rw [← h.due hpinned, hpins, hhome, List.append_nil, List.append_nil]

theorem Accounts.examined_or (hexamined : Examined catalogue state fromHome) :
    delivered.length ≤ (duePins catalogue (pinnedIds catalogue viewer)).length ∨
      ∀ item ∈ state.pendingHomeItems,
        sendsHome catalogue (pinnedIds catalogue viewer) item.memeId = true := by
  rcases hexamined with hnil | hsends
  · left
    have hlength := congrArg List.length h.ids
    have hpins := congrArg List.length h.pins
    rw [hnil, List.append_nil, List.length_map] at hlength
    rw [List.length_append, hpinned] at hpins
    omega
  · right
    rw [← hpinned]
    exact hsends

end Due

variable {floats : Json.Floats φ} {readings : Recommendations.FeedWire.Readings φ}
  {settings : InlineSettings} {request again : Request α} {entries entries' saved saved' : Entries}
  {served served' : Served α} {cursor : Text}

theorem load_unchanged {state state' : TelegramInlineFeedState α} {now now' : Int}
    {canLoad canLoad' : Bool}
    (hget : entries'.get (Services.stripText cursor) = entries.get (Services.stripText cursor))
    (h : load floats readings attributions viewer.toViewer cursor now canLoad entries = .ok state)
    (h' : load floats readings attributions viewer.toViewer cursor now' canLoad' entries' =
      .ok state') :
    state' = state := by
  simp only [load, hget] at h h'
  split_ifs at h h'
  cases hraw : entries.get (Services.stripText cursor) with
  | none => simp [hraw] at h
  | some raw =>
    cases hdecode : decodeState floats readings attributions raw with
    | none => simp [hraw, hdecode] at h
    | some decoded =>
      simp only [hraw, hdecode] at h h'
      split_ifs at h h'
      exact (Except.ok.inj h').symm.trans (Except.ok.inj h)

theorem search_unchanged
    (hget : entries'.get (Services.stripText cursor) = entries.get (Services.stripText cursor))
    (hlimit : again.limit = request.limit) (hfeed : again.feed = request.feed)
    (h : searchEmptyQuery floats readings attributions catalogue settings viewer request
      (some cursor) entries = .ok (served, saved))
    (h' : searchEmptyQuery floats readings attributions catalogue settings viewer again
      (some cursor) entries' = .ok (served', saved')) :
    served'.page.offset = served.page.offset ∧ served'.page.items = served.page.items ∧
      served'.left = served.left := by
  simp only [searchEmptyQuery, startOf, bind, Except.bind] at h h'
  cases hload : load floats readings attributions viewer.toViewer cursor request.now
    request.canLoad entries with
  | error failure => simp [hload] at h
  | ok state =>
    cases hload' : load floats readings attributions viewer.toViewer cursor again.now
      again.canLoad entries' with
    | error failure => simp [hload'] at h'
    | ok state' =>
      obtain rfl := load_unchanged hget hload hload'
      simp only [hload, hload', hlimit, hfeed, pure, Except.pure] at h h'
      split at h <;> try cases h
      split at h' <;> try cases h'
      exact ⟨rfl, rfl, rfl⟩

end Yields

structure Reported {α : Type} (catalogue : Catalogue) (settings : InlineSettings)
    (viewer : InlineViewer) (walk : Walk α) (request : Request α) (served : Served α)
    (delivered : List (TelegramInlineMediaResult α)) (calls : List (FeedCall α)) : Prop where
  offset : served.page.offset = walk.delivered.length + served.skipped.length
  length_le : served.page.items.length ≤ clampLimit request.limit
  cursor : served.page.nextCursor.isSome = served.page.hasMore
  hasMore : served.page.hasMore = true ↔ request.canSave = true ∧
    (delivered.length < (due catalogue viewer calls).length ∨ served.left.pendingHomeItems ≠ [] ∨
      served.left.homeExhausted = false)
  full : served.page.hasMore = true → served.page.items.length = clampLimit request.limit
  last : served.page.items.length < clampLimit request.limit ∨
      request.canSave = true ∧ served.page.hasMore = false →
    delivered.map (·.meme.id) = due catalogue viewer calls ∧
      served.left.pendingHomeItems = [] ∧ served.left.homeExhausted = true
  pending : delivered.length ≤ (duePins catalogue (pinnedIds catalogue viewer)).length ∨
    ∀ item ∈ served.left.pendingHomeItems,
      sendsHome catalogue (pinnedIds catalogue viewer) item.memeId = true
  closed : served.left.homeExhausted = true → Closed calls ∨ walk.GaveUp settings ∨
    fewestFetchAttempts settings ≤ served.calls.length

/-- Pins by position and then the home items that are not pinned, each once and with the next
rank; a page with more behind it is full, and the last one leaves nothing due; more is promised
while something is due, unexamined or not fetched; a cursor stands for one position. -/
theorem following_cursors {φ α : Type} (floats : Json.Floats φ)
    (readings : Recommendations.FeedWire.Readings φ) (attributions : Attributions φ α)
    (catalogue : Catalogue) (settings : InlineSettings) (viewer : InlineViewer)
    (requests : List (Request α)) :
    let walk := follow floats readings attributions catalogue settings viewer requests
    ((loadPinnedMemes catalogue viewer.pins).Pairwise fun first second =>
      first.position ≤ second.position) ∧
    walk.delivered.map (·.meme.id) <+: due catalogue viewer walk.calls ∧
    (walk.delivered.map fun item => attributions.rank item.attribution) =
      List.range' 1 walk.delivered.length ∧
    Linked walk.calls ∧
    (((walk.calls.flatMap (·.page.items)).map (·.memeId)).Nodup →
      (walk.delivered.map (·.meme.id)).Nodup) ∧
    (∀ request served saved, walk.ended = false →
      searchEmptyQuery floats readings attributions catalogue settings viewer request walk.cursor
        walk.entries = .ok (served, saved) →
      Reported catalogue settings viewer walk request served
        (walk.delivered ++ (served.skipped ++ served.page.items)) (walk.calls ++ served.calls)) ∧
    ∀ cursor request again entries entries' served served' saved saved',
      entries'.get (Services.stripText cursor) = entries.get (Services.stripText cursor) →
      again.limit = request.limit → again.feed = request.feed →
      searchEmptyQuery floats readings attributions catalogue settings viewer request (some cursor)
        entries = .ok (served, saved) →
      searchEmptyQuery floats readings attributions catalogue settings viewer again (some cursor)
        entries' = .ok (served', saved') →
      served'.page.offset = served.page.offset ∧ served'.page.items = served.page.items := by
  intro walk
  have hkept : walk.Kept floats attributions catalogue settings viewer := kept_follow requests
  have hdelivered : walk.delivered.map (·.meme.id) <+: due catalogue viewer walk.calls ∧
      (walk.delivered.map fun item => attributions.rank item.attribution) =
        List.range' 1 walk.delivered.length ∧ Linked walk.calls := by
    rcases hkept with hbegin | ⟨last, fromPins, fromHome, -, hpinned, haccounts, -, -⟩
    · rw [hbegin]
      exact ⟨List.nil_prefix, rfl, linked_nil⟩
    · exact ⟨⟨_, haccounts.due hpinned⟩, haccounts.ranks, haccounts.linked⟩
  obtain ⟨hinitial, hranks, hlinked⟩ := hdelivered
  refine ⟨pairwise_loadPinnedMemes catalogue viewer.pins, hinitial, hranks, hlinked, ?_, ?_, ?_⟩
  · intro hnodup
    exact (nodup_due hnodup).sublist hinitial.sublist
  · intro request served saved hopen hsearch
    obtain ⟨hpinned, fromPins, fromHome, hanswers⟩ := hkept.search hopen hsearch
    constructor
    · exact hanswers.offset
    · exact hanswers.length_le
    · exact hanswers.cursor
    · rw [hanswers.hasMore, hanswers.accounts.hasMore_iff hpinned]
    · intro hmore
      by_contra hne
      have hleft := hanswers.short (lt_of_le_of_ne hanswers.length_le hne)
      rcases (hanswers.hasMore.mp hmore).2 with hpins | hpending | hopen
      · exact hpins hleft.1
      · exact hpending hleft.2.1
      · exact Bool.noConfusion (hopen.symm.trans hleft.2.2)
    · intro hlast
      have hleft : leftPins catalogue served.left = [] ∧ served.left.pendingHomeItems = [] ∧
          served.left.homeExhausted = true := by
        rcases hlast with hshort | ⟨hsave, hover⟩
        · exact hanswers.short hshort
        have hnone := hanswers.hasMore.not.mp (Bool.not_eq_true _ ▸ hover)
        simpa [hsave] using hnone
      exact ⟨hanswers.accounts.due_of_left hpinned hleft.1 hleft.2.1, hleft.2⟩
    · exact hanswers.accounts.examined_or hpinned hanswers.examined
    · intro hover
      exact (hanswers.accounts.closed hover).imp_right id
  · intro cursor request again entries entries' served served' saved saved' hget hlimit hfeed h h'
    obtain ⟨hoffset, hitems, -⟩ := search_unchanged hget hlimit hfeed h h'
    exact ⟨hoffset, hitems⟩

def plainAttributions : Attributions Int ℕ where
  dump place := .int place
  validate
    | .int place => some place.toNat
    | _ => none
  validate_dump _ := rfl
  pinned _ := 0
  stamped _ place _ _ := place
  rank place := place
  rank_stamped _ _ _ _ := rfl

def pinnedCard : MemeCard where
  id := Recommendations.FeedWire.someUuid
  mediaType := .image
  primaryFile := some ⟨Recommendations.FeedWire.otherUuid, none, []⟩

def oneMeme : Catalogue where
  visible id := if id = pinnedCard.id then some pinnedCard else none
  published id := if id = pinnedCard.id then some pinnedCard else none
  id_of_visible h := by
    split_ifs at h with hid
    rw [hid, Option.some.inj h]
  id_of_published h := by
    split_ifs at h with hid
    rw [hid, Option.some.inj h]
  media := ⟨fun _ _ => some "file".toList, fun _ => none, fun _ => false⟩

def onePin : InlineViewer where
  telegramUserId := 1
  viewerUserId := Recommendations.FeedWire.otherUuid
  includeNsfw := false
  isPersonal := true
  pins := [⟨pinnedCard.id, 1, 0⟩]
  distinct := List.nodup_singleton _

def laterStamp : Stamp where
  clock := 3600000000
  offset := some 0
  year_bounds := by decide +kernel
  offset_bounds := IsoDates.offset_bounds_zero

def onlyPinned : HomeFeed ℕ where
  answer _ _ limit := ⟨[⟨pinnedCard.id, 0⟩].take limit, false, none, 1, laterStamp⟩
  length_le _ _ _ := List.length_take_le _ _
  cursor_ne _ _ _ := nofun

def oneResult : Request ℕ where
  limit := 1
  offset := 0
  now := 0
  requestId := []
  expiresAt := laterStamp
  cursorId := Recommendations.FeedWire.otherUuid
  canLoad := true
  canSave := true
  feed := onlyPinned

/-- The pin fills the page; the frozen home item is that pin, and more is reported. -/
theorem more_reported_behind_last : ¬ ∀ served saved,
    searchEmptyQuery Recommendations.FeedWire.wholeFloats
      Recommendations.FeedWire.plainStore.readings plainAttributions oneMeme ⟨200, 7200⟩ onePin
      oneResult none [] = .ok (served, saved) →
    (served.page.hasMore = true ↔ (served.skipped ++ served.page.items).length <
      (due oneMeme onePin served.calls).length) := by
  intro hclaim
  have hserved : ((searchEmptyQuery Recommendations.FeedWire.wholeFloats
      Recommendations.FeedWire.plainStore.readings plainAttributions oneMeme ⟨200, 7200⟩ onePin
      oneResult none []).toOption.map fun answer => (answer.1.page.hasMore,
        (answer.1.skipped ++ answer.1.page.items).length,
        (due oneMeme onePin answer.1.calls).length)) = some (true, 1, 1) := by
    decide +kernel
  obtain ⟨⟨served, saved⟩, hsearch, hfacts⟩ := Option.map_eq_some_iff.mp hserved
  have hok := hclaim served saved (by
    cases hresult : searchEmptyQuery Recommendations.FeedWire.wholeFloats
      Recommendations.FeedWire.plainStore.readings plainAttributions oneMeme ⟨200, 7200⟩ onePin
      oneResult none [] with
    | error failure =>
      rw [hresult] at hsearch
      cases hsearch
    | ok answer =>
      rw [hresult] at hsearch
      rw [Option.some.inj hsearch])
  obtain ⟨hmore, hfacts⟩ := Prod.mk.inj hfacts
  obtain ⟨hdelivered, hdue⟩ := Prod.mk.inj hfacts
  have hlt := hok.mp hmore
  rw [hdelivered, hdue] at hlt
  exact Nat.lt_irrefl 1 hlt

end MemeExpert.Services.InlinePaging
