import MemeExpert.Lib.Results
import MemeExpert.Recommendations.Candidates

/-! A frozen pool is kept in Redis and continued by cursors. -/

namespace MemeExpert.Recommendations

structure MemeSearchFilters where
  language : Option String := none
  mediaType : Option String := none
  includeNsfw : Bool := false
  tags : List String := []

structure CachedFeedCandidate (σ : Type) where
  memeId : Uuid
  score : σ
  contributions : List (CandidateContribution σ) := []
  reason : String
  isExploration : Bool := false

structure FrozenFeedPool (σ : Type) where
  poolId : Uuid
  requestId : String
  viewerKey : String
  filterKey : String
  algorithmVersion : String
  profileVersion : Option String
  candidates : List (CachedFeedCandidate σ)
  createdAt : Time
  expiresAt : Time

def FrozenFeedPool.memeIds {σ : Type} (pool : FrozenFeedPool σ) : List Uuid :=
  pool.candidates.map CachedFeedCandidate.memeId

inductive FeedCursorMode where
  | pool | trending
  deriving DecidableEq

structure FeedCursorClaims (σ : Type) where
  mode : FeedCursorMode
  viewerKey : String
  filterKey : String
  algorithmVersion : String
  nextIndex : Nat := 0
  poolId : Option Uuid := none
  lastScore : Option σ := none
  lastMemeId : Option Uuid := none
  servedMemeIds : List Uuid := []
  expiresAt : Time

inductive FeedError where
  | cursor (text : String)
  | cursorExpired (text : String)
  | cacheUnavailable (text : String)
  | value (text : String)

structure FeedSettings (σ : Type) where
  algorithmVersion : String := "personalized_v2"
  feedPoolTtlSeconds : Nat := 7200
  feedPoolLimit : Nat := 200
  feedCandidateLimit : Nat := 600
  feedRerankLimit : Nat := 200
  trendingCandidateLimit : Nat := 80
  impressionCooldownHours : Nat := 72
  strongPositiveCooldownHours : Nat := 168
  servingEnabled : Uuid → Bool
  viewerKey : Uuid → String
  filterKey : MemeSearchFilters → String
  cursorLength : FeedCursorClaims σ → Nat
  formulas : ScoreFormulas σ
  diversityPolicy : DiversityPolicy := {}

def maxFeedCursorLength : Nat := 8192

/-- What Redis answers to `GET`: an error, no value, or the value that was stored. -/
inductive RedisReply where
  | unavailable | missing | found
  deriving DecidableEq

section Sessions

variable {σ : Type} (settings : FeedSettings σ)

def freeze (viewerUserId : Uuid) (filters : MemeSearchFilters) (requestId : String) (poolId : Uuid)
    (profileVersion : Option String) (candidates : List (CachedFeedCandidate σ)) (now : Time)
    (stored : Bool) : Except FeedError (FrozenFeedPool σ) :=
  if stored then
    .ok
      { poolId := poolId
        requestId := requestId
        viewerKey := settings.viewerKey viewerUserId
        filterKey := settings.filterKey filters
        algorithmVersion := settings.algorithmVersion
        profileVersion := profileVersion
        candidates := candidates.take settings.feedPoolLimit
        createdAt := now
        expiresAt := now + settings.feedPoolTtlSeconds }
  else .error (.cacheUnavailable "Unable to freeze a personalized feed pool.")

def verifyBinding (claims : FeedCursorClaims σ) (viewerUserId : Uuid) (filters : MemeSearchFilters) :
    Except FeedError Unit :=
  if claims.viewerKey ≠ settings.viewerKey viewerUserId then
    .error (.cursor "The feed cursor belongs to another viewer.")
  else if claims.filterKey ≠ settings.filterKey filters then
    .error (.cursor "The feed cursor does not match the active filters.")
  else if claims.algorithmVersion ≠ settings.algorithmVersion then
    .error (.cursor "The feed cursor uses another algorithm version.")
  else .ok ()

/-- `stored` is what was frozen under the session's key, `reply` what Redis does about it. -/
def loadPool (claims : FeedCursorClaims σ) (viewerUserId : Uuid) (filters : MemeSearchFilters)
    (stored : Option (FrozenFeedPool σ)) (reply : RedisReply) (now : Time) :
    Except FeedError (FrozenFeedPool σ) := do
  if claims.mode ≠ .pool ∨ claims.poolId = none then
    throw (.cursor "Cursor does not reference a personalized pool.")
  verifyBinding settings claims viewerUserId filters
  if reply = .unavailable then
    throw (.cacheUnavailable "Unable to load the personalized feed pool.")
  match stored with
  | none => throw (.cursorExpired "The personalized feed pool has expired.")
  | some pool =>
    if reply = .missing ∨ claims.poolId ≠ some pool.poolId then
      throw (.cursorExpired "The personalized feed pool has expired.")
    if pool.expiresAt ≤ now then
      throw (.cursorExpired "The personalized feed pool has expired.")
    if pool.viewerKey ≠ claims.viewerKey ∨ pool.filterKey ≠ claims.filterKey ∨
        pool.algorithmVersion ≠ claims.algorithmVersion then
      throw (.cursor "Feed pool binding does not match its cursor.")
    pure pool

/-- `dict.fromkeys`, bounded by the size of a pool. -/
def normalizeServedMemeIds (memeIds : List Uuid) : Except FeedError (List Uuid) :=
  let normalized := memeIds.eraseDups
  if normalized.length > settings.feedPoolLimit then
    .error (.value "served meme IDs exceed the bounded feed pool")
  else .ok normalized

def issue (claims : FeedCursorClaims σ) : Except FeedError (FeedCursorClaims σ) :=
  if settings.cursorLength claims > maxFeedCursorLength then
    .error (.value "feed cursor exceeds its bounded wire size")
  else .ok claims

def issuePoolCursor (pool : FrozenFeedPool σ) (nextIndex : Nat) (servedMemeIds : List Uuid) :
    Except FeedError (FeedCursorClaims σ) := do
  let served ← normalizeServedMemeIds settings servedMemeIds
  issue settings
    { mode := .pool
      poolId := some pool.poolId
      viewerKey := pool.viewerKey
      filterKey := pool.filterKey
      algorithmVersion := pool.algorithmVersion
      nextIndex := nextIndex
      servedMemeIds := served
      expiresAt := pool.expiresAt }

def issueTrendingCursor (viewerUserId : Uuid) (filters : MemeSearchFilters) (lastScore : σ)
    (lastMemeId : Uuid) (nextIndex : Nat) (servedMemeIds : List Uuid) (now : Time) :
    Except FeedError (FeedCursorClaims σ) := do
  let served ← normalizeServedMemeIds settings servedMemeIds
  issue settings
    { mode := .trending
      viewerKey := settings.viewerKey viewerUserId
      filterKey := settings.filterKey filters
      algorithmVersion := settings.algorithmVersion
      lastScore := some lastScore
      lastMemeId := some lastMemeId
      nextIndex := nextIndex
      servedMemeIds := served
      expiresAt := now + settings.feedPoolTtlSeconds }

def verifyCursor (claims : FeedCursorClaims σ) (viewerUserId : Uuid) (filters : MemeSearchFilters)
    (now : Time) : Except FeedError (FeedCursorClaims σ) := do
  if settings.cursorLength claims < 1 ∨ settings.cursorLength claims > maxFeedCursorLength then
    throw (.cursor "The feed cursor is invalid.")
  if claims.expiresAt ≤ now then
    throw (.cursorExpired "The feed cursor has expired.")
  if claims.servedMemeIds.length > settings.feedPoolLimit ∨ ¬ claims.servedMemeIds.Nodup then
    throw (.cursor "The feed cursor claims are invalid.")
  if claims.mode = .pool ∧ claims.poolId = none then
    throw (.cursor "The feed cursor does not identify a pool.")
  if claims.mode = .trending ∧ (claims.lastScore.isNone ∨ claims.lastMemeId = none) then
    throw (.cursor "The trending cursor is incomplete.")
  verifyBinding settings claims viewerUserId filters
  pure claims

end Sessions

section Specs

open Results

variable {σ : Type} {settings : FeedSettings σ} {viewerUserId : Uuid} {filters : MemeSearchFilters}
  {now : Time}

theorem freeze_ok {requestId : String} {poolId : Uuid} {profileVersion : Option String}
    {candidates : List (CachedFeedCandidate σ)} {stored : Bool} {pool : FrozenFeedPool σ}
    (h : freeze settings viewerUserId filters requestId poolId profileVersion candidates now stored =
      .ok pool) :
    stored = true ∧ pool.candidates = candidates.take settings.feedPoolLimit := by
  unfold freeze at h
  split at h
  · next hstored =>
    cases h
    exact ⟨hstored, rfl⟩
  · cases h

theorem loadPool_ok {claims : FeedCursorClaims σ} {stored : Option (FrozenFeedPool σ)}
    {reply : RedisReply} {pool : FrozenFeedPool σ}
    (h : loadPool settings claims viewerUserId filters stored reply now = .ok pool) :
    stored = some pool := by
  simp only [loadPool, guard_eq_ok, bind_eq_ok] at h
  obtain ⟨-, -, -, -, h⟩ := h
  split at h
  · exact (throw_ne_ok h).elim
  simp only [guard_eq_ok] at h
  obtain ⟨-, -, -, h⟩ := h
  cases h
  rfl

theorem loadPool_cacheUnavailable {claims : FeedCursorClaims σ} {stored : Option (FrozenFeedPool σ)}
    {reply : RedisReply} {text : String}
    (h : loadPool settings claims viewerUserId filters stored reply now =
      .error (.cacheUnavailable text)) : reply = .unavailable := by
  have hbinding : ∀ text, verifyBinding settings claims viewerUserId filters ≠
      .error (.cacheUnavailable text) := by
    intro text
    unfold verifyBinding
    split_ifs <;> simp
  simp only [loadPool, guard_eq_error, bind_eq_error, reduceCtorEq, and_false, false_or] at h
  obtain ⟨-, hbound | ⟨-, -, hreply | ⟨-, h⟩⟩⟩ := h
  · exact (hbinding text hbound).elim
  · exact hreply.1
  split at h
  · simp [throw_eq_error] at h
  · simp [guard_eq_error, pure, Except.pure] at h

theorem issuePoolCursor_ok {pool : FrozenFeedPool σ} {nextIndex : Nat} {servedMemeIds : List Uuid}
    {claims : FeedCursorClaims σ}
    (h : issuePoolCursor settings pool nextIndex servedMemeIds = .ok claims) :
    claims.mode = .pool ∧ claims.nextIndex = nextIndex ∧ claims.lastScore = none ∧
      claims.lastMemeId = none ∧ ∀ memeId, memeId ∈ claims.servedMemeIds ↔ memeId ∈ servedMemeIds := by
  simp only [issuePoolCursor, bind_eq_ok, normalizeServedMemeIds, issue] at h
  obtain ⟨served, hserved, h⟩ := h
  split at hserved
  · cases hserved
  cases hserved
  split at h
  · cases h
  · cases h
    exact ⟨rfl, rfl, rfl, rfl, fun memeId => List.mem_eraseDups⟩

theorem issueTrendingCursor_ok {lastScore : σ} {lastMemeId : Uuid} {nextIndex : Nat}
    {servedMemeIds : List Uuid} {claims : FeedCursorClaims σ}
    (h : issueTrendingCursor settings viewerUserId filters lastScore lastMemeId nextIndex
      servedMemeIds now = .ok claims) :
    claims.mode = .trending ∧ claims.lastScore = some lastScore ∧
      claims.lastMemeId = some lastMemeId ∧
      ∀ memeId, memeId ∈ claims.servedMemeIds ↔ memeId ∈ servedMemeIds := by
  simp only [issueTrendingCursor, bind_eq_ok, normalizeServedMemeIds, issue] at h
  obtain ⟨served, hserved, h⟩ := h
  split at hserved
  · cases hserved
  cases hserved
  split at h
  · cases h
  · cases h
    exact ⟨rfl, rfl, rfl, fun memeId => List.mem_eraseDups⟩

theorem verifyCursor_ok {claims verified : FeedCursorClaims σ}
    (h : verifyCursor settings claims viewerUserId filters now = .ok verified) :
    verified = claims ∧ claims.expiresAt > now := by
  simp only [verifyCursor, guard_eq_ok, bind_eq_ok] at h
  obtain ⟨-, hexpiry, -, -, -, -, -, h⟩ := h
  cases h
  exact ⟨rfl, Nat.not_le.mp hexpiry⟩

end Specs

end MemeExpert.Recommendations
