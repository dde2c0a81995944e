import MemeExpert.Lib.Keyset
import MemeExpert.Recommendations.FeedSessions

/-! The first page freezes a pool, or falls back to the trending list when Redis cannot be
reached. -/

namespace MemeExpert.Recommendations

structure CatalogueMeme where
  id : Uuid
  isPublic : Bool := true
  isNsfw : Bool := false
  language : Option String := none
  mediaType : Option String := none
  tags : List String := []

structure TrendingCandidate (σ : Type) where
  memeId : Uuid
  score : σ

/-- The memes and their trending scores; both have one row for a meme. -/
structure Catalogue (σ : Type) where
  memes : List CatalogueMeme
  trends : List (TrendingCandidate σ)
  memes_unique : (memes.map CatalogueMeme.id).Nodup
  trends_unique : (trends.map TrendingCandidate.memeId).Nodup

structure UserMemeRecommendationState where
  userId : Uuid
  memeId : Uuid
  latestImpressionAt : Option Time := none
  latestStrongActionAt : Option Time := none

structure FeedRequest (σ : Type) where
  limit : Int
  offset : Int := 0
  now : Time
  requestId : String
  states : List UserMemeRecommendationState := []
  preflight : Bool := true
  freezes : Bool := true
  reply : RedisReply := .found
  poolId : Uuid
  profileVersion : Option String := none
  rankings : List (CandidateRanking σ) := []
  exploration : List (CandidateHit σ) := []
  features : Uuid → Option RecommendationItemFeatures := fun _ => some {}

structure FeedItem where
  memeId : Uuid
  requestId : String
  rank : Nat
  reason : String

structure FeedPage (σ : Type) where
  items : List FeedItem
  requestId : String
  feedSessionId : String
  nextCursor : Option (FeedCursorClaims σ)
  expiresAt : Time
  hasMore : Bool
  limit : Nat
  offset : Nat
  total : Nat

def FeedPage.memeIds {σ : Type} (page : FeedPage σ) : List Uuid := page.items.map FeedItem.memeId

section Reads

variable {σ : Type} [LinearOrder σ] (settings : FeedSettings σ) (catalogue : Catalogue σ)
  (viewerUserId : Uuid) (filters : MemeSearchFilters)

def passesFilters (meme : CatalogueMeme) : Bool :=
  meme.isPublic && (filters.includeNsfw || !meme.isNsfw) &&
    filters.language.all (fun language => meme.language = some language) &&
    filters.mediaType.all (fun mediaType => meme.mediaType = some mediaType) &&
    filters.tags.all fun tag => tag ∈ meme.tags

def currentlyVisible (memeId : Uuid) : Bool :=
  catalogue.memes.any fun meme => meme.id = memeId && passesFilters filters meme

def loadCurrentlyVisibleIds (memeIds : List Uuid) : List Uuid :=
  memeIds.filter (currentlyVisible catalogue filters)

def publicMemeCards (memeIds : List Uuid) : List Uuid :=
  memeIds.filter fun memeId => catalogue.memes.any fun meme =>
    meme.id = memeId && meme.isPublic && (filters.includeNsfw || !meme.isNsfw)

def coolingDown (now : Time) (state : UserMemeRecommendationState) : Bool :=
  state.latestImpressionAt.any (fun at_ => now ≤ at_ + 3600 * settings.impressionCooldownHours) ||
    state.latestStrongActionAt.any fun at_ => now ≤ at_ + 3600 * settings.strongPositiveCooldownHours

def loadExactExcludedMemeIds (request : FeedRequest σ) : List Uuid :=
  (request.states.filter fun state => state.userId = viewerUserId &&
    coolingDown settings request.now state).map UserMemeRecommendationState.memeId

/-- `ORDER BY trending_score DESC, meme_id ASC`. -/
def trendLe (a b : TrendingCandidate σ) : Prop :=
  b.score < a.score ∨ (b.score = a.score ∧ a.memeId ≤ b.memeId)

instance : DecidableRel (trendLe (σ := σ)) :=
  fun a b => inferInstanceAs
    (Decidable (b.score < a.score ∨ (b.score = a.score ∧ a.memeId ≤ b.memeId)))

def pastCursor (lastScore : Option σ) (lastMemeId : Option Uuid) (row : TrendingCandidate σ) : Bool :=
  match lastScore with
  | none => true
  | some score => row.score < score || (row.score = score && lastMemeId.any fun last => last < row.memeId)

def loadTrendingCandidates (request : FeedRequest σ) (limit : Nat) (lastScore : Option σ)
    (lastMemeId : Option Uuid) (offset : Nat) (excludedMemeIds : List Uuid) :
    List (TrendingCandidate σ) :=
  let rows := catalogue.trends.filter fun row =>
    currentlyVisible catalogue filters row.memeId &&
      row.memeId ∉ loadExactExcludedMemeIds settings viewerUserId request &&
      row.memeId ∉ excludedMemeIds && pastCursor lastScore lastMemeId row
  ((rows.insertionSort trendLe).drop offset).take limit

def generatePoolCandidates (request : FeedRequest σ) : List (CachedFeedCandidate σ) :=
  let trending := loadTrendingCandidates settings catalogue viewerUserId filters request
    settings.trendingCandidateLimit none none 0 []
  let rankings := request.rankings ++
    [{ source := .trending, hits := trending.map fun row => ⟨row.memeId, row.score⟩ },
      { source := .exploration, hits := request.exploration }]
  let fused := fuseCandidateRankings settings.formulas rankings settings.feedCandidateLimit
  let excluded := loadExactExcludedMemeIds settings viewerUserId request
  let rankable := (fused.filter fun candidate => candidate.memeId ∉ excluded).filterMap
    fun candidate => (request.features candidate.memeId).map fun features =>
      { memeId := candidate.memeId
        fusedScore := candidate.fusedScore
        totalScore := settings.formulas.zero
        features := features
        contributions := candidate.contributions
        isExploration := request.exploration.any fun hit => hit.memeId = candidate.memeId }
  let scored := (scoreHomeCandidates settings.formulas rankable).take settings.feedRerankLimit
  (diversityRerank settings.formulas settings.diversityPolicy scored settings.feedPoolLimit).map
    fun candidate =>
      { memeId := candidate.memeId
        score := candidate.totalScore
        contributions := candidate.contributions
        reason := if candidate.isExploration then "quality_exploration" else "multi_source_personalized"
        isExploration := candidate.isExploration }

/-- The loop over the rest of the pool: candidates that are shown are selected with their index
until the page is full; the index after the last one looked at comes with them. -/
def selectFromPool (shown : Uuid → Bool) (limit : Nat) :
    List (Nat × CachedFeedCandidate σ) → Nat → List (CachedFeedCandidate σ) →
      List (Nat × CachedFeedCandidate σ) × Nat
  | selected, index, [] => (selected, index)
  | selected, index, candidate :: rest =>
    if ¬ shown candidate.memeId then selectFromPool shown limit selected (index + 1) rest
    else if selected.length + 1 ≥ limit then (selected ++ [(index, candidate)], index + 1)
    else selectFromPool shown limit (selected ++ [(index, candidate)]) (index + 1) rest

/-- What a page takes from the pool: the selected candidates, the index to read on from and
whether anything is shown from there on. -/
structure PoolSelection (σ : Type) where
  selected : List (Nat × CachedFeedCandidate σ)
  nextIndex : Nat
  hasMore : Bool

def selectPoolPage (pool : FrozenFeedPool σ) (request : FeedRequest σ) (limit startIndex : Nat) :
    PoolSelection σ :=
  let excluded := loadExactExcludedMemeIds settings viewerUserId request
  let firstIndex := min startIndex pool.candidates.length
  let remaining := pool.candidates.drop firstIndex
  let visibleIds := loadCurrentlyVisibleIds catalogue filters
    ((remaining.map CachedFeedCandidate.memeId).filter fun memeId => memeId ∉ excluded)
  let shown := fun memeId => decide (memeId ∉ excluded) && decide (memeId ∈ visibleIds)
  let (selected, nextIndex) := selectFromPool shown limit [] firstIndex remaining
  { selected := selected
    nextIndex := nextIndex
    hasMore := (pool.candidates.drop nextIndex).any fun candidate => shown candidate.memeId }

def poolItems (pool : FrozenFeedPool σ) (selected : List (Nat × CachedFeedCandidate σ)) :
    List FeedItem :=
  let cards := publicMemeCards catalogue filters (selected.map fun (_, candidate) => candidate.memeId)
  (selected.filter fun (_, candidate) => candidate.memeId ∈ cards).map fun (index, candidate) =>
    { memeId := candidate.memeId
      requestId := pool.requestId
      rank := index + 1
      reason := candidate.reason }

def poolPage (pool : FrozenFeedPool σ) (request : FeedRequest σ) (limit startIndex : Nat)
    (servedMemeIds : List Uuid) : Except FeedError (FeedPage σ) :=
  let selection := selectPoolPage settings catalogue viewerUserId filters pool request limit startIndex
  let items := poolItems catalogue filters pool selection.selected
  let continuedServedMemeIds := (servedMemeIds ++ items.map FeedItem.memeId).eraseDups
  let nextCursor : Except FeedError (Option (FeedCursorClaims σ)) :=
    if selection.hasMore then
      (issuePoolCursor settings pool selection.nextIndex continuedServedMemeIds).map some
    else .ok none
  nextCursor.map fun nextCursor =>
    { items := items
      requestId := pool.requestId
      feedSessionId := toString pool.poolId
      nextCursor := nextCursor
      expiresAt := pool.expiresAt
      hasMore := selection.hasMore
      limit := limit
      offset := startIndex
      total := pool.candidates.length }

def trendingItems (requestId : String) (startRank : Nat) (pageRows : List (TrendingCandidate σ)) :
    List FeedItem :=
  let cards := publicMemeCards catalogue filters (pageRows.map TrendingCandidate.memeId)
  ((pageRows.zipIdx (startRank + 1)).filter fun (row, _) => row.memeId ∈ cards).map fun (row, index) =>
    { memeId := row.memeId
      requestId := requestId
      rank := index
      reason := "redis_or_personalization_fallback" }

def trendingFallbackPage (request : FeedRequest σ) (limit : Nat) (claims : Option (FeedCursorClaims σ))
    (legacyOffset : Nat) : Except FeedError (FeedPage σ) :=
  let requestId := request.requestId
  let served := (claims.map FeedCursorClaims.servedMemeIds).getD []
  let rows := loadTrendingCandidates settings catalogue viewerUserId filters request (limit + 1)
    (claims.bind FeedCursorClaims.lastScore) (claims.bind FeedCursorClaims.lastMemeId)
    (if claims.isNone then legacyOffset else 0) served
  let pageRows := rows.take limit
  let startRank := (claims.map FeedCursorClaims.nextIndex).getD legacyOffset
  let hasMore := decide (rows.length > limit)
  let nextCursor : Except FeedError (Option (FeedCursorClaims σ)) :=
    match pageRows.getLast? with
    | some last =>
      if hasMore then
        (issueTrendingCursor settings viewerUserId filters last.score last.memeId
          (startRank + pageRows.length) served request.now).map some
      else .ok none
    | none => .ok none
  nextCursor.map fun nextCursor =>
    { items := trendingItems catalogue filters requestId startRank pageRows
      requestId := requestId
      feedSessionId := s!"fallback:{requestId}"
      nextCursor := nextCursor
      expiresAt := request.now + settings.feedPoolTtlSeconds
      hasMore := hasMore
      limit := limit
      offset := startRank
      total := startRank + rows.length }

def resolvedLimit (limit : Int) : Nat := (min 100 (max 1 limit)).toNat

def homeFeed (stored : Option (FrozenFeedPool σ)) (request : FeedRequest σ)
    (cursor : Option (FeedCursorClaims σ)) :
    Except FeedError (Option (FrozenFeedPool σ) × FeedPage σ) := do
  let limit := resolvedLimit request.limit
  let offset := (max 0 request.offset).toNat
  let fallback := trendingFallbackPage settings catalogue viewerUserId filters request limit
  match cursor with
  | some cursor =>
    let claims ← verifyCursor settings cursor viewerUserId filters request.now
    if claims.mode = .trending then
      let page ← fallback (some claims) 0
      pure (stored, page)
    else
      match loadPool settings claims viewerUserId filters stored request.reply request.now with
      | .error (.cacheUnavailable _) =>
        let page ← fallback (some claims) 0
        pure (stored, page)
      | .error e => throw e
      | .ok pool =>
        let page ← poolPage settings catalogue viewerUserId filters pool request limit
          claims.nextIndex claims.servedMemeIds
        pure (stored, page)
  | none =>
    if ¬ settings.servingEnabled viewerUserId ∨ ¬ request.preflight then
      let page ← fallback none offset
      pure (stored, page)
    else
      let candidates := generatePoolCandidates settings catalogue viewerUserId filters request
      match freeze settings viewerUserId filters request.requestId request.poolId
          request.profileVersion candidates request.now request.freezes with
      | .error (.cacheUnavailable _) =>
        let page ← fallback none offset
        pure (stored, page)
      | .error e => throw e
      | .ok pool =>
        let page ← poolPage settings catalogue viewerUserId filters pool request limit offset []
        pure (some pool, page)

end Reads

end MemeExpert.Recommendations
