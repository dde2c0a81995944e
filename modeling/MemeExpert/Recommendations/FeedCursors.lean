import MemeExpert.Recommendations.FeedPools
import MemeExpert.Recommendations.FeedSessions
import MemeExpert.Recommendations.InteractionState

/-! A cursor is a signed token. The signing is a parameter: what was signed is read back. -/

namespace MemeExpert.Recommendations.FeedWire

open IsoDates (Stamp)
open Json Results

/-- A moment in microseconds since 1970. -/
abbrev Moment := Int

def ticksPerSecond : Int := 1000000

structure SignedTokens (φ : Type) where
  sign : Value φ → Text
  read : Text → Option (Value φ)
  read_sign : ∀ payload, read (sign payload) = some payload
  strip_sign : ∀ payload, Services.stripText (sign payload) = sign payload
  sign_ne_nil : ∀ payload, sign payload ≠ []

structure FeedCursorClaims (φ : Type) where
  mode : FeedCursorMode
  viewerKey : Text
  filterKey : Text
  algorithmVersion : Text
  nextIndex : Int := 0
  poolId : Option UUID := none
  lastScore : Option φ := none
  lastMemeId : Option UUID := none
  servedMemeIds : List UUID := []
  expiresAt : Option Stamp := none

def isAscii (text : Text) : Bool := text.all fun c => c.toNat < 128

/-- The settings, the keys of viewers (hexadecimal digests), and what is made of an expiry that
is not an integer. -/
structure FeedSessionStore (φ : Type) where
  algorithmVersion : Text
  feedPoolLimit : Nat := 200
  feedPoolTtlSeconds : Nat := 7200
  viewerKey : UUID → Text
  viewerKey_ascii : ∀ user, isAscii (viewerKey user)
  tokens : SignedTokens φ
  readings : Readings φ
  timestampOf : Value φ → Option Stamp

/-- A cursor that is refused, a cursor that has expired, a caller's mistake, and an exception
that nothing expects. -/
inductive CursorFailure where
  | invalid (text : String)
  | expired (text : String)
  | value (text : String)
  | unexpected

/-- `int(expires_at.timestamp())`. -/
def wholeSeconds (stamp : Stamp) : Int := stamp.moment.tdiv ticksPerSecond

def utcStamp (moment : Moment) : Option Stamp :=
  if h : 1 ≤ Dates.year moment ∧ Dates.year moment ≤ 9999 then
    some ⟨moment, some 0, h, by rintro o ⟨⟩; decide⟩
  else none

section Store

variable {φ : Type} (store : FeedSessionStore φ)

def FeedSessionStore.timestamp : Value φ → Option Stamp
  | .int n => utcStamp (n * ticksPerSecond)
  | value => store.timestampOf value

def freeze (viewerUserId : UUID) (filterKey requestId algorithmVersion : Text)
    (profileVersion : Option Text) (candidates : List (CachedFeedCandidate φ)) (poolId : UUID)
    (now : Moment) : Option (FrozenFeedPool φ) :=
  (utcStamp now).bind fun createdAt =>
    (utcStamp (now + store.feedPoolTtlSeconds * ticksPerSecond)).map fun expiresAt =>
      { poolId := poolId
        requestId := requestId
        viewerKey := store.viewerKey viewerUserId
        filterKey := filterKey
        algorithmVersion := algorithmVersion
        profileVersion := profileVersion
        candidates := candidates.take store.feedPoolLimit
        createdAt := createdAt
        expiresAt := expiresAt }

/-- A pool as the store freezes it for this viewer, in its own version of the algorithm. -/
structure IsFrozenFor (viewerUserId : UUID) (pool : FrozenFeedPool φ) : Prop where
  viewer : pool.viewerKey = store.viewerKey viewerUserId
  algorithm : pool.algorithmVersion = store.algorithmVersion
  utc : pool.expiresAt.offset = some 0

def cursorKind : Text := "recommendation_feed".toList

def modeText : FeedCursorMode → Text
  | .pool => "pool".toList
  | .trending => "trending".toList

def optionalString (text : Option Text) : Value φ := text.elim .null .string

def FeedCursorClaims.members (claims : FeedCursorClaims φ) (issuedAt expirySeconds : Int) :
    List (Text × Value φ) :=
  [("kind".toList, .string cursorKind),
    ("version".toList, .int 1),
    ("mode".toList, .string (modeText claims.mode)),
    ("viewer_key".toList, .string claims.viewerKey),
    ("filter_key".toList, .string claims.filterKey),
    ("algorithm_version".toList, .string claims.algorithmVersion),
    ("next_index".toList, .int claims.nextIndex),
    ("pool_id".toList, optionalString (claims.poolId.map UUID.str)),
    ("last_score".toList, claims.lastScore.elim .null .float),
    ("last_meme_id".toList, optionalString (claims.lastMemeId.map UUID.str)),
    ("iat".toList, .int (issuedAt / ticksPerSecond)),
    ("exp".toList, .int expirySeconds)]

def FeedCursorClaims.payload (claims : FeedCursorClaims φ) (issuedAt expirySeconds : Int) :
    Value φ :=
  .object (claims.members issuedAt expirySeconds ++
    if claims.servedMemeIds = [] then []
    else [("served".toList, .string (encodeUuidSet claims.servedMemeIds))])

def issue (claims : FeedCursorClaims φ) (issuedAt : Moment) : Except CursorFailure Text :=
  match claims.expiresAt with
  | none => .error (.value "cursor expiry is required")
  | some expiresAt =>
    let cursor := store.tokens.sign (claims.payload issuedAt (wholeSeconds expiresAt))
    if cursor.length > maxFeedCursorLength then
      .error (.value "feed cursor exceeds its bounded wire size")
    else .ok cursor

def normalizeServedMemeIds (memeIds : List UUID) : Except CursorFailure (List UUID) :=
  let normalized := memeIds.eraseDups
  if normalized.length > store.feedPoolLimit then
    .error (.value "served meme IDs exceed the bounded feed pool")
  else .ok normalized

def issuePoolCursor (pool : FrozenFeedPool φ) (nextIndex : Int) (servedMemeIds : List UUID)
    (issuedAt : Moment) : Except CursorFailure Text := do
  let served ← normalizeServedMemeIds store servedMemeIds
  issue store
    { mode := .pool
      poolId := some pool.poolId
      viewerKey := pool.viewerKey
      filterKey := pool.filterKey
      algorithmVersion := pool.algorithmVersion
      nextIndex := max 0 nextIndex
      servedMemeIds := served
      expiresAt := some pool.expiresAt } issuedAt

/-- `expiresAt` is some seconds from now, in UTC. -/
def issueTrendingCursor (viewerUserId : UUID) (filterKey algorithmVersion : Text) (lastScore : φ)
    (lastMemeId : UUID) (nextIndex : Int) (servedMemeIds : List UUID) (issuedAt : Moment) :
    Except CursorFailure Text := do
  let served ← normalizeServedMemeIds store servedMemeIds
  match utcStamp (issuedAt + store.feedPoolTtlSeconds * ticksPerSecond) with
  | none => .error .unexpected
  | some expiresAt =>
    issue store
      { mode := .trending
        viewerKey := store.viewerKey viewerUserId
        filterKey := filterKey
        algorithmVersion := algorithmVersion
        lastScore := some lastScore
        lastMemeId := some lastMemeId
        nextIndex := max 0 nextIndex
        servedMemeIds := served
        expiresAt := some expiresAt } issuedAt

def invalidCursor : CursorFailure := .invalid "The feed cursor is invalid."

def invalidClaims : CursorFailure := .invalid "The feed cursor claims are invalid."

def orFail {α : Type} (failure : CursorFailure) : Option α → Except CursorFailure α
  | some x => .ok x
  | none => .error failure

def requiredClaims : List Text :=
  ["kind", "version", "mode", "viewer_key", "filter_key", "exp"].map String.toList

def isNull : Value φ → Bool
  | .null => true
  | _ => false

/-- `jwt.decode`: the claims that are required are there, the token is not from the future, and
it has not expired. -/
def jwtDecode (token : Text) (now : Moment) : Except CursorFailure (Value φ) := do
  let payload ← orFail invalidCursor (store.tokens.read token)
  if requiredClaims.any fun claim => (payload.get? claim).all isNull then
    throw invalidCursor
  let issuedAt ← orFail invalidCursor
    (((payload.get? "iat".toList).map store.readings.int).getD (some 0))
  if (payload.get? "iat".toList).isSome ∧ issuedAt * ticksPerSecond > now then
    throw invalidCursor
  let expiry ← orFail invalidCursor ((payload.get? "exp".toList).bind store.readings.int)
  if expiry * ticksPerSecond ≤ now then
    throw (.expired "The feed cursor has expired.")
  pure payload

def readMode : Option (Value φ) → Option FeedCursorMode
  | some (.string text) =>
    if text = modeText .pool then some .pool
    else if text = modeText .trending then some .trending
    else none
  | _ => none

/-- `uuid.UUID(x) if x else None`; only a text has what the constructor asks of it. -/
def readOptionalUuid (raw : Option (Value φ)) : Except CursorFailure (Option UUID) :=
  match raw.filter store.readings.bool with
  | none => .ok none
  | some (.string text) =>
    (orFail invalidClaims (store.readings.uuid (.string text : Value φ))).map some
  | some _ => .error .unexpected

def readOptionalScore (raw : Option (Value φ)) : Option (Option φ) :=
  match raw.filter fun value => !isNull value with
  | none => some none
  | some value => (store.readings.float value).map some

def readClaims (payload : Value φ) : Except CursorFailure (FeedCursorClaims φ) := do
  let mode ← orFail invalidClaims (readMode (payload.get? "mode".toList))
  let viewerKey ← orFail invalidClaims
    ((payload.get? "viewer_key".toList).map store.readings.str)
  let filterKey ← orFail invalidClaims
    ((payload.get? "filter_key".toList).map store.readings.str)
  let algorithmVersion ← orFail invalidClaims
    ((payload.get? "algorithm_version".toList).map store.readings.str)
  let nextIndex ← orFail invalidClaims
    (((payload.get? "next_index".toList).map store.readings.int).getD (some 0))
  let poolId ← readOptionalUuid store (payload.get? "pool_id".toList)
  let lastScore ← orFail invalidClaims (readOptionalScore store (payload.get? "last_score".toList))
  let lastMemeId ← readOptionalUuid store (payload.get? "last_meme_id".toList)
  let servedMemeIds ← orFail invalidClaims
    (decodeUuidSet (payload.get? "served".toList) store.feedPoolLimit)
  let expiresAt ← orFail invalidClaims ((payload.get? "exp".toList).bind store.timestamp)
  pure
    { mode := mode
      viewerKey := viewerKey
      filterKey := filterKey
      algorithmVersion := algorithmVersion
      nextIndex := nextIndex
      poolId := poolId
      lastScore := lastScore
      lastMemeId := lastMemeId
      servedMemeIds := servedMemeIds
      expiresAt := some expiresAt }

/-- `hmac.compare_digest` takes only texts in ASCII. -/
def compareDigest (a b : Text) : Except CursorFailure Bool :=
  if isAscii a && isAscii b then .ok (a = b) else .error .unexpected

def verifyBinding (claims : FeedCursorClaims φ) (viewerUserId : UUID) (filterKey : Text) :
    Except CursorFailure Unit := do
  let sameViewer ← compareDigest claims.viewerKey (store.viewerKey viewerUserId)
  if sameViewer = false then
    throw (.invalid "The feed cursor belongs to another viewer.")
  let sameFilter ← compareDigest claims.filterKey filterKey
  if sameFilter = false then
    throw (.invalid "The feed cursor does not match the active filters.")
  if claims.algorithmVersion ≠ store.algorithmVersion then
    throw (.invalid "The feed cursor uses another algorithm version.")
  pure ()

def isText (text : Text) : Option (Value φ) → Bool
  | some (.string found) => found = text
  | _ => false

def verifyCursor (cursor : Text) (viewerUserId : UUID) (filterKey : Text) (now : Moment) :
    Except CursorFailure (FeedCursorClaims φ) := do
  if ¬ (1 ≤ cursor.length ∧ cursor.length ≤ maxFeedCursorLength) then
    throw invalidCursor
  let payload ← jwtDecode store (Services.stripText cursor) now
  if isText cursorKind (payload.get? "kind".toList) = false ∨
      (payload.get? "version".toList).any store.readings.equalsOne = false then
    throw (.invalid "The feed cursor kind or version is invalid.")
  let claims ← readClaims store payload
  if claims.nextIndex < 0 then
    throw (.invalid "The feed cursor index is invalid.")
  if claims.mode = .pool ∧ claims.poolId = none then
    throw (.invalid "The feed cursor does not identify a pool.")
  if claims.mode = .trending ∧ (claims.lastScore.isNone ∨ claims.lastMemeId = none) then
    throw (.invalid "The trending cursor is incomplete.")
  verifyBinding store claims viewerUserId filterKey
  pure claims

end Store

section Verify

variable {φ : Type} {store : FeedSessionStore φ} {claims : FeedCursorClaims φ}
  {issuedAt expirySeconds : Int} {now : Moment}

structure FeedCursorClaims.IsIssued (store : FeedSessionStore φ) (claims : FeedCursorClaims φ)
    (viewerUserId : UUID) (filterKey : Text) : Prop where
  index : 0 ≤ claims.nextIndex
  pool : claims.mode = .pool → claims.poolId ≠ none
  trending : claims.mode = .trending → claims.lastScore.isSome ∧ claims.lastMemeId ≠ none
  served : claims.servedMemeIds.Nodup ∧ claims.servedMemeIds.length ≤ store.feedPoolLimit
  viewer : claims.viewerKey = store.viewerKey viewerUserId
  filter : claims.filterKey = filterKey
  algorithm : claims.algorithmVersion = store.algorithmVersion

theorem keys_payload (claims : FeedCursorClaims φ) :
    ((claims.members issuedAt expirySeconds ++
      if claims.servedMemeIds = [] then []
      else [("served".toList, (.string (encodeUuidSet claims.servedMemeIds) : Value φ))]).map
        (·.1)).Nodup := by
  have hkeys : (["kind", "version", "mode", "viewer_key", "filter_key", "algorithm_version",
      "next_index", "pool_id", "last_score", "last_meme_id", "iat", "exp", "served"].map
        String.toList).Nodup := by
    decide
  split
  · exact hkeys.sublist (List.sublist_append_left _ ["served".toList])
  · exact hkeys

theorem readOptionalUuid_map (id : Option UUID) :
    readOptionalUuid store (some (optionalString (id.map UUID.str))) = .ok id := by
  cases id with
  | none => rfl
  | some id =>
    have hne : id.str ≠ [] := by
      intro hempty
      have hread := ofText_str (fun _ => none) id
      rw [hempty] at hread
      cases hread
    have htruth : (some (Value.string id.str)).filter store.readings.bool =
        some (.string id.str) := by
      simp [Option.filter, Readings.bool, hne]
    rw [Option.map_some, optionalString, Option.elim_some, readOptionalUuid, htruth]
    simp only [Readings.uuid, ofText_str]
    rfl

theorem readOptionalScore_elim (score : Option φ) :
    readOptionalScore store (some (score.elim .null .float)) = some score := by
  cases score <;> rfl

theorem get?_payload (i : Nat) {key : Text} {value : Value φ}
    (h : (claims.members issuedAt expirySeconds ++
      if claims.servedMemeIds = [] then []
      else [("served".toList, (.string (encodeUuidSet claims.servedMemeIds) : Value φ))])[i]? =
        some (key, value)) :
    (claims.payload issuedAt expirySeconds).get? key = some value :=
  lookup_of_place (keys_payload claims) i h

theorem decodeUuidSet_payload (hnodup : claims.servedMemeIds.Nodup)
    (hcount : claims.servedMemeIds.length ≤ store.feedPoolLimit) :
    decodeUuidSet ((claims.payload issuedAt expirySeconds).get? "served".toList)
      store.feedPoolLimit = some claims.servedMemeIds := by
  rcases Classical.em (claims.servedMemeIds = []) with hempty | hne
  · have hget : (claims.payload issuedAt expirySeconds).get? "served".toList = none := by
      rw [FeedCursorClaims.payload, if_pos hempty]
      rfl
    rw [hget, hempty]
    rfl
  have hget : (claims.payload issuedAt expirySeconds).get? "served".toList =
      some (.string (encodeUuidSet claims.servedMemeIds)) := by
    rw [FeedCursorClaims.payload, if_neg hne]
    rfl
  rw [hget, decodeUuidSet_encodeUuidSet hnodup hcount]

theorem get?_context (claims : FeedCursorClaims φ) (issuedAt expirySeconds : Int) :
    (claims.payload issuedAt expirySeconds).get? "mode".toList =
        some (.string (modeText claims.mode)) ∧
      (claims.payload issuedAt expirySeconds).get? "viewer_key".toList =
        some (.string claims.viewerKey) ∧
      (claims.payload issuedAt expirySeconds).get? "filter_key".toList =
        some (.string claims.filterKey) :=
  ⟨get?_payload 2 rfl, get?_payload 3 rfl, get?_payload 4 rfl⟩

theorem jwtDecode_payload (hissued : issuedAt ≤ now)
    (hfresh : now < expirySeconds * ticksPerSecond) :
    jwtDecode store (store.tokens.sign (claims.payload issuedAt expirySeconds)) now =
      .ok (claims.payload issuedAt expirySeconds) := by
  have hkind : (claims.payload issuedAt expirySeconds).get? "kind".toList =
      some (.string cursorKind) := get?_payload 0 rfl
  have hversion : (claims.payload issuedAt expirySeconds).get? "version".toList =
      some (.int 1) := get?_payload 1 rfl
  obtain ⟨hmode, hviewer, hfilter⟩ := get?_context claims issuedAt expirySeconds
  have hiat : (claims.payload issuedAt expirySeconds).get? "iat".toList =
      some (.int (issuedAt / ticksPerSecond)) := get?_payload 10 rfl
  have hexp : (claims.payload issuedAt expirySeconds).get? "exp".toList =
      some (.int expirySeconds) := get?_payload 11 rfl
  have hrequired : requiredClaims.any (fun claim =>
      ((claims.payload issuedAt expirySeconds).get? claim).all isNull) = false := by
    simp only [requiredClaims, List.map_cons, List.map_nil, List.any_cons, List.any_nil, hkind,
      hversion, hmode, hviewer, hfilter, hexp]
    rfl
  have hpast : ¬ issuedAt / ticksPerSecond * ticksPerSecond > now := by
    simp only [ticksPerSecond]
    omega
  have hlive : ¬ expirySeconds * ticksPerSecond ≤ now := Int.not_le.mpr hfresh
  simp only [jwtDecode, store.tokens.read_sign, bind_eq_ok, guard_eq_ok, pure_eq_ok]
  refine ⟨claims.payload issuedAt expirySeconds, rfl, ?_, issuedAt / ticksPerSecond, ?_, ?_,
    expirySeconds, ?_, hlive, rfl⟩
  · rw [hrequired]
    exact Bool.false_ne_true
  · rw [hiat]
    rfl
  · exact fun hfuture => hpast hfuture.2
  · rw [hexp]
    rfl

theorem readMode_modeText (mode : FeedCursorMode) :
    readMode (some (.string (modeText mode) : Value φ)) = some mode := by
  cases mode <;> rfl

variable {stamp : Stamp}

theorem readClaims_payload (hnodup : claims.servedMemeIds.Nodup)
    (hcount : claims.servedMemeIds.length ≤ store.feedPoolLimit)
    (hstamp : utcStamp (expirySeconds * ticksPerSecond) = some stamp) :
    readClaims store (claims.payload issuedAt expirySeconds) =
      .ok { claims with expiresAt := some stamp } := by
  obtain ⟨hmode, hviewer, hfilter⟩ := get?_context claims issuedAt expirySeconds
  have halgorithm : (claims.payload issuedAt expirySeconds).get? "algorithm_version".toList =
      some (.string claims.algorithmVersion) := get?_payload 5 rfl
  have hindex : (claims.payload issuedAt expirySeconds).get? "next_index".toList =
      some (.int claims.nextIndex) := get?_payload 6 rfl
  have hpoolId : (claims.payload issuedAt expirySeconds).get? "pool_id".toList =
      some (optionalString (claims.poolId.map UUID.str)) := get?_payload 7 rfl
  have hscore : (claims.payload issuedAt expirySeconds).get? "last_score".toList =
      some (claims.lastScore.elim .null .float) := get?_payload 8 rfl
  have hmemeId : (claims.payload issuedAt expirySeconds).get? "last_meme_id".toList =
      some (optionalString (claims.lastMemeId.map UUID.str)) := get?_payload 9 rfl
  have hexp : (claims.payload issuedAt expirySeconds).get? "exp".toList =
      some (.int expirySeconds) := get?_payload 11 rfl
  simp only [readClaims, hmode, readMode_modeText, hviewer, hfilter, halgorithm, hindex, hpoolId,
    hscore, hmemeId, hexp, decodeUuidSet_payload hnodup hcount, readOptionalUuid_map,
    readOptionalScore_elim, Option.map_some, Option.getD_some, Option.bind_some, Readings.str,
    Readings.int, FeedSessionStore.timestamp, hstamp, orFail]
  rfl

variable {filterKey : Text} {viewerUserId : UUID}

theorem verifyBinding_ok
    (h : claims.IsIssued store viewerUserId filterKey) (hascii : isAscii filterKey = true) :
    verifyBinding store claims viewerUserId filterKey = .ok () := by
  have hviewer : compareDigest claims.viewerKey (store.viewerKey viewerUserId) = .ok true := by
    simp [compareDigest, h.viewer, store.viewerKey_ascii]
  have hfilter : compareDigest claims.filterKey filterKey = .ok true := by
    simp [compareDigest, h.filter, hascii]
  simp only [verifyBinding, hviewer, hfilter, bind_eq_ok, guard_eq_ok, pure_eq_ok]
  exact ⟨true, rfl, nofun, true, rfl, nofun, fun hne => hne h.algorithm, trivial⟩

variable {cursor : Text}

theorem verifyCursor_issue {expiresAt : Stamp}
    (hexpires : claims.expiresAt = some expiresAt)
    (hissue : issue store claims issuedAt = .ok cursor)
    (h : claims.IsIssued store viewerUserId filterKey) (hascii : isAscii filterKey = true)
    (hissued : issuedAt ≤ now) (hfresh : now < wholeSeconds expiresAt * ticksPerSecond)
    (hstamp : utcStamp (wholeSeconds expiresAt * ticksPerSecond) = some stamp) :
    verifyCursor store cursor viewerUserId filterKey now =
      .ok { claims with expiresAt := some stamp } := by
  obtain ⟨hcursor, hlength⟩ : cursor = store.tokens.sign (claims.payload issuedAt
      (wholeSeconds expiresAt)) ∧ cursor.length ≤ maxFeedCursorLength := by
    simp only [issue, hexpires] at hissue
    split at hissue
    · cases hissue
    next hshort =>
    cases hissue
    exact ⟨rfl, Nat.not_lt.mp hshort⟩
  have hpos : 1 ≤ cursor.length := by
    rw [hcursor]
    exact List.length_pos_of_ne_nil (store.tokens.sign_ne_nil _)
  have hdecode : jwtDecode store (Services.stripText cursor) now =
      .ok (claims.payload issuedAt (wholeSeconds expiresAt)) := by
    rw [hcursor, store.tokens.strip_sign]
    exact jwtDecode_payload hissued hfresh
  have hkind : (claims.payload issuedAt (wholeSeconds expiresAt)).get? "kind".toList =
      some (.string cursorKind) := get?_payload 0 rfl
  have hversion : (claims.payload issuedAt (wholeSeconds expiresAt)).get? "version".toList =
      some (.int 1) := get?_payload 1 rfl
  have hclaims : readClaims store (claims.payload issuedAt (wholeSeconds expiresAt)) =
      .ok { claims with expiresAt := some stamp } :=
    readClaims_payload h.served.1 h.served.2 hstamp
  have hverified : FeedCursorClaims.IsIssued store { claims with expiresAt := some stamp }
      viewerUserId filterKey :=
    ⟨h.index, h.pool, h.trending, h.served, h.viewer, h.filter, h.algorithm⟩
  have hbinding := verifyBinding_ok hverified hascii
  have hpool : ¬ (claims.mode = .pool ∧ claims.poolId = none) := fun hboth => h.pool hboth.1 hboth.2
  have htrending : ¬ (claims.mode = .trending ∧ (claims.lastScore.isNone ∨
      claims.lastMemeId = none)) := by
    rintro ⟨hmode, hnone | hnone⟩
    · have hsome := (h.trending hmode).1
      rw [Option.isNone_iff_eq_none] at hnone
      rw [hnone] at hsome
      cases hsome
    · exact (h.trending hmode).2 hnone
  simp only [verifyCursor, hdecode, bind_eq_ok, guard_eq_ok, pure_eq_ok]
  refine ⟨fun hlong => hlong ⟨hpos, hlength⟩, _, rfl, ?_, _, hclaims, Int.not_lt.mpr h.index,
    hpool, htrending, (), ?_, rfl⟩
  · have hsame : isText cursorKind (some (.string cursorKind : Value φ)) = true := rfl
    have hone : (some (.int 1 : Value φ)).any store.readings.equalsOne = true := rfl
    rw [hkind, hversion, hsame, hone]
    rintro (hbad | hbad) <;> cases hbad
  · exact hbinding

theorem moment_utcStamp {moment : Moment} (h : utcStamp moment = some stamp) :
    stamp.moment = moment ∧ stamp.offset = some 0 := by
  unfold utcStamp at h
  split at h
  · cases h
    exact ⟨Int.sub_zero moment, rfl⟩
  · cases h

theorem exists_wholeSecond {expiresAt : Stamp} (hutc : expiresAt.offset = some 0) :
    ∃ stamp, utcStamp (wholeSeconds expiresAt * ticksPerSecond) = some stamp := by
  have hclock : expiresAt.moment = expiresAt.clock := by
    rw [Stamp.moment, hutc]
    exact Int.sub_zero _
  have hepoch : Dates.year 0 = 1970 := by decide +kernel
  have hbounds := expiresAt.year_bounds
  have hyear : 1 ≤ Dates.year (wholeSeconds expiresAt * ticksPerSecond) ∧
      Dates.year (wholeSeconds expiresAt * ticksPerSecond) ≤ 9999 := by
    rw [wholeSeconds, hclock]
    rcases Int.le_total 0 expiresAt.clock with hpos | hneg
    · have hlow : 0 ≤ expiresAt.clock.tdiv ticksPerSecond * ticksPerSecond := by
        have hdiv : 0 ≤ expiresAt.clock.tdiv ticksPerSecond := Int.tdiv_nonneg hpos (by decide)
        simp only [ticksPerSecond] at hdiv ⊢
        omega
      have hhigh : expiresAt.clock.tdiv ticksPerSecond * ticksPerSecond ≤ expiresAt.clock := by
        rw [Int.tdiv_eq_ediv_of_nonneg hpos]
        simp only [ticksPerSecond]
        omega
      have hfirst := Dates.year_mono hlow
      have hlast := Dates.year_mono hhigh
      omega
    · have hhigh : expiresAt.clock.tdiv ticksPerSecond * ticksPerSecond ≤ 0 ∧
          expiresAt.clock ≤ expiresAt.clock.tdiv ticksPerSecond * ticksPerSecond := by
        have hneg' : 0 ≤ -expiresAt.clock := by omega
        have hdiv : expiresAt.clock.tdiv ticksPerSecond =
            -(-expiresAt.clock / ticksPerSecond) := by
          rw [← Int.tdiv_eq_ediv_of_nonneg hneg', Int.neg_tdiv, Int.neg_neg]
        rw [hdiv]
        simp only [ticksPerSecond]
        omega
      have hfirst := Dates.year_mono hhigh.2
      have hlast := Dates.year_mono hhigh.1
      omega
  exact ⟨_, dif_pos hyear⟩

theorem normalizeServedMemeIds_ok {memeIds served : List UUID}
    (h : normalizeServedMemeIds store memeIds = .ok served) :
    served = memeIds.eraseDups ∧ served.length ≤ store.feedPoolLimit := by
  simp only [normalizeServedMemeIds] at h
  split at h
  · cases h
  next hfit =>
  cases h
  exact ⟨rfl, Nat.not_lt.mp hfit⟩

end Verify

/-- A cursor comes back with the values it was issued for, and its expiry down to the second;
served sets and pools are read as they were written. -/
structure FeedCodecs {φ : Type} (store : FeedSessionStore φ) (floats : Floats φ) : Prop where
  poolCursors : ∀ viewerUserId pool nextIndex servedMemeIds issuedAt now cursor,
    IsFrozenFor store viewerUserId pool → isAscii pool.filterKey = true →
    issuePoolCursor store pool nextIndex servedMemeIds issuedAt = .ok cursor →
    issuedAt ≤ now → now < wholeSeconds pool.expiresAt * ticksPerSecond →
    ∃ stamp, utcStamp (wholeSeconds pool.expiresAt * ticksPerSecond) = some stamp ∧
      verifyCursor store cursor viewerUserId pool.filterKey now =
        .ok
          { mode := .pool
            poolId := some pool.poolId
            viewerKey := store.viewerKey viewerUserId
            filterKey := pool.filterKey
            algorithmVersion := store.algorithmVersion
            nextIndex := max 0 nextIndex
            servedMemeIds := servedMemeIds.eraseDups
            expiresAt := some stamp }
  trendingCursors : ∀ viewerUserId filterKey lastScore lastMemeId nextIndex servedMemeIds issuedAt
      now cursor, isAscii filterKey = true →
    issueTrendingCursor store viewerUserId filterKey store.algorithmVersion lastScore lastMemeId
      nextIndex servedMemeIds issuedAt = .ok cursor →
    issuedAt ≤ now →
    (∀ expiresAt, utcStamp (issuedAt + store.feedPoolTtlSeconds * ticksPerSecond) =
      some expiresAt → now < wholeSeconds expiresAt * ticksPerSecond) →
    ∃ expiresAt stamp, utcStamp (issuedAt + store.feedPoolTtlSeconds * ticksPerSecond) =
        some expiresAt ∧ utcStamp (wholeSeconds expiresAt * ticksPerSecond) = some stamp ∧
      verifyCursor store cursor viewerUserId filterKey now =
        .ok
          { mode := .trending
            viewerKey := store.viewerKey viewerUserId
            filterKey := filterKey
            algorithmVersion := store.algorithmVersion
            lastScore := some lastScore
            lastMemeId := some lastMemeId
            nextIndex := max 0 nextIndex
            servedMemeIds := servedMemeIds.eraseDups
            expiresAt := some stamp }
  servedSets : ∀ memeIds maxCount, memeIds.Nodup → memeIds.length ≤ maxCount →
    decodeUuidSet (some (.string (encodeUuidSet memeIds) : Value φ)) maxCount = some memeIds
  acceptedSets : ∀ (raw : Option (Value φ)) maxCount memeIds,
    decodeUuidSet raw maxCount = some memeIds → IsServedSet raw maxCount memeIds
  pools : ∀ pool, decodePool floats store.readings (encodePool floats pool) =
    some { pool with profileVersion := pool.profileVersion.filter (· ≠ []) }

theorem feedCodecs {φ : Type} (store : FeedSessionStore φ) (floats : Floats φ) :
    FeedCodecs store floats where
  poolCursors := by
    intro viewerUserId pool nextIndex _ _ _ _ hpool hascii hissue hissued hfresh
    obtain ⟨stamp, hstamp⟩ := exists_wholeSecond hpool.utc
    obtain ⟨served, hserved, hissue⟩ := bind_eq_ok.mp hissue
    obtain ⟨rfl, hcount⟩ := normalizeServedMemeIds_ok hserved
    refine ⟨stamp, hstamp, ?_⟩
    rw [← hpool.viewer, ← hpool.algorithm]
    refine verifyCursor_issue rfl hissue ?_ hascii hissued hfresh hstamp
    exact ⟨Int.le_max_left 0 nextIndex, fun _ => nofun, nofun, ⟨nodup_eraseDups _, hcount⟩,
      hpool.viewer, rfl, hpool.algorithm⟩
  trendingCursors := by
    intro _ _ _ _ nextIndex _ _ _ _ hascii hissue hissued hfresh
    obtain ⟨served, hserved, hissue⟩ := bind_eq_ok.mp hissue
    obtain ⟨rfl, hcount⟩ := normalizeServedMemeIds_ok hserved
    split at hissue
    · cases hissue
    next expiresAt hexpires =>
    obtain ⟨stamp, hstamp⟩ := exists_wholeSecond (moment_utcStamp hexpires).2
    refine ⟨expiresAt, stamp, hexpires, hstamp, ?_⟩
    refine verifyCursor_issue rfl hissue ?_ hascii hissued (hfresh expiresAt hexpires) hstamp
    exact ⟨Int.le_max_left 0 nextIndex, nofun, fun _ => ⟨rfl, nofun⟩, ⟨nodup_eraseDups _, hcount⟩,
      rfl, rfl, rfl⟩
  servedSets _ _ hnodup hcount := decodeUuidSet_encodeUuidSet hnodup hcount
  acceptedSets _ _ _ h := decodeUuidSet_isServedSet h
  pools := decodePool_encodePool

def wholeToken (x : Int) : NumberToken := { intToken x with fraction := ".0".toList }

theorem wholeToken_isValid (x : Int) : (wholeToken x).IsValid :=
  { intToken_isValid x with
    fraction := by
      refine Or.inr ⟨['0'], rfl, List.cons_ne_nil _ _, ?_⟩
      intro d hd
      rw [List.mem_singleton.mp hd]
      rfl }

def wholeFloats : Floats Int where
  write x := (wholeToken x).text
  read text := (((scanNumber text).map Prod.fst).bind NumberToken.toInt).getD 0
  isFloatText x := Or.inr ⟨wholeToken x, wholeToken_isValid x, rfl, rfl⟩
  read_write x := by
    have hends : Ends [] := by rintro c ⟨⟩
    have hscan := scanNumber_text (wholeToken_isValid x) hends
    have hint : (wholeToken x).toInt = some x := toInt_intToken x
    rw [List.append_nil] at hscan
    rw [hscan, Option.map_some, Option.bind_some, hint, Option.getD_some]

def plainTokens : SignedTokens Int where
  sign payload := '.' :: (payload.write wholeFloats ++ ['.'])
  read token := loads wholeFloats token.tail.dropLast
  read_sign payload := by
    rw [List.tail_cons, List.dropLast_concat, loads_write]
  strip_sign payload := by
    have hpoint : ¬ isSpace '.' = true := by decide
    rw [Services.stripText, List.dropWhile_cons_of_neg hpoint, ← List.cons_append,
      List.rdropWhile_concat_neg _ _ _ hpoint]
  sign_ne_nil _ := List.cons_ne_nil _ _

theorem isAscii_hex (n : Nat) : isAscii (Numerals.spell 16 32 n) = true := by
  have hdigits : ∀ d < 16, (Nat.digitChar d).toNat < 128 := by decide
  rw [isAscii, List.all_eq_true]
  intro c hc
  obtain ⟨d, hd, rfl⟩ := List.mem_map.mp hc
  exact decide_eq_true (hdigits d (Numerals.lt_of_mem_write (by decide) hd))

def plainStore : FeedSessionStore Int where
  algorithmVersion := "personalized_v2".toList
  viewerKey user := Numerals.spell 16 32 user.int
  viewerKey_ascii user := isAscii_hex user.int
  tokens := plainTokens
  readings :=
    { strOf := fun _ => []
      floatOf := fun _ => none
      intOf := fun _ => none
      uuidOf := fun _ => none
      stampOf := fun _ => none
      truth := fun x => x ≠ 0
      isOne := fun x => x = 1 }
  timestampOf := fun _ => none

def someUuid : UUID := ⟨7, by decide⟩

def otherUuid : UUID := ⟨8, by decide⟩

def somePool : FrozenFeedPool Int where
  poolId := otherUuid
  requestId := "request".toList
  viewerKey := plainStore.viewerKey someUuid
  filterKey := "0f".toList
  algorithmVersion := "personalized_v2".toList
  profileVersion := some "v1".toList
  candidates := []
  createdAt := ⟨500000, some 0, by decide +kernel, by rintro o ⟨⟩; decide⟩
  expiresAt := ⟨7200500000, some 0, by decide +kernel, by rintro o ⟨⟩; decide⟩

theorem feedCodecs_page : ∃ cursor claims,
    issuePoolCursor plainStore somePool 3 [someUuid, otherUuid, someUuid] 500000 = .ok cursor ∧
      verifyCursor plainStore cursor someUuid somePool.filterKey 600000 = .ok claims ∧
      claims.nextIndex = 3 ∧ claims.servedMemeIds = [someUuid, otherUuid] := by
  obtain ⟨cursor, hcursor⟩ : ∃ cursor, issuePoolCursor plainStore somePool 3
      [someUuid, otherUuid, someUuid] 500000 = .ok cursor := by
    have hissued : (issuePoolCursor plainStore somePool 3 [someUuid, otherUuid, someUuid]
        500000).toOption.isSome = true := by
      decide +kernel
    cases hissue : issuePoolCursor plainStore somePool 3 [someUuid, otherUuid, someUuid] 500000 with
    | error failure =>
      rw [hissue] at hissued
      cases hissued
    | ok cursor => exact ⟨cursor, rfl⟩
  obtain ⟨stamp, -, hverify⟩ := (feedCodecs plainStore wholeFloats).poolCursors someUuid somePool 3
    [someUuid, otherUuid, someUuid] 500000 600000 cursor ⟨rfl, rfl, rfl⟩ rfl hcursor (by decide)
    (by decide +kernel)
  have hserved : [someUuid, otherUuid, someUuid].eraseDups = [someUuid, otherUuid] := by decide
  exact ⟨cursor, _, hcursor, hverify, rfl, hserved⟩

/-- A pool whose profile has an empty version. -/
theorem not_pools_empty_version :
    ¬ ∀ pool, decodePool wholeFloats plainStore.readings (encodePool wholeFloats pool) =
      some pool := by
  intro h
  have hpool := h { somePool with profileVersion := some [] }
  rw [decodePool_encodePool] at hpool
  have hversion := congrArg (Option.map FrozenFeedPool.profileVersion) hpool
  cases hversion

end MemeExpert.Recommendations.FeedWire
