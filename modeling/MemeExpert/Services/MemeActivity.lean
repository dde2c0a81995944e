import Mathlib.Algebra.BigOperators.Group.List.Basic
import MemeExpert.Lib.Periods
import MemeExpert.Recommendations.InteractionState

/-! What the source posts of a meme gained between snapshots, the daily counts of its events, and
the buckets of both. -/

namespace MemeExpert.MemeInsights

open Periods Gathering

def microsecondsPerDay : Int := 86400000000

def days (count : Int) : Int := count * microsecondsPerDay

def midnightUtc (t : Int) : Int := days (t / microsecondsPerDay)

def weekday (t : Int) : Int := (t / microsecondsPerDay + 3) % 7

def startOfWeek (t : Int) : Int := midnightUtc t - days (weekday (midnightUtc t))

def startOfMonth (t : Int) : Int := days (daysBefore (monthOf (t / microsecondsPerDay)))

def nextMonth (t : Int) : Int := days (daysBefore (monthOf (t / microsecondsPerDay) + 1))

inductive AnalyticsWindow where
  | sevenDays | thirtyDays | ninetyDays | all
  deriving DecidableEq

def fixedWindowDays : AnalyticsWindow → Option Int
  | .sevenDays => some 7
  | .thirtyDays => some 30
  | .ninetyDays => some 90
  | .all => none

inductive AnalyticsGranularity where
  | day | week | month

structure Bucket where
  start : Int
  endAt : Int
  granularity : AnalyticsGranularity

def adaptiveCutoffs (now : Int) : Int × Int :=
  (midnightUtc (now - days 119), startOfWeek (now - days 729))

def dayBucket (observedAt endAt : Int) : Bucket where
  start := midnightUtc observedAt
  endAt := min (midnightUtc observedAt + days 1) endAt
  granularity := .day

def bucketFor (observedAt : Int) (window : AnalyticsWindow) (now endAt : Int) : Bucket :=
  if window ≠ .all then dayBucket observedAt endAt
  else
    let (dailyStart, weeklyStart) := adaptiveCutoffs now
    if dailyStart ≤ observedAt then dayBucket observedAt endAt
    else if weeklyStart ≤ observedAt then
      { start := startOfWeek observedAt
        endAt := min (min (startOfWeek observedAt + days 7) dailyStart) endAt
        granularity := .week }
    else
      { start := startOfMonth observedAt
        endAt := min (min (nextMonth (startOfMonth observedAt)) weeklyStart) endAt
        granularity := .month }

def analyticsStart (window : AnalyticsWindow) (now : Int) (historyStart : Option Int) : Int :=
  match fixedWindowDays window, historyStart with
  | some count, _ => midnightUtc now - days (count - 1)
  | none, none => midnightUtc now
  | none, some historyStart => (bucketFor historyStart window now now).start

def analyticsBuckets (cursor endAt : Int) (window : AnalyticsWindow) (now : Int) : List Bucket :=
  if hmore : cursor < endAt then
    let bucket := bucketFor cursor window now endAt
    if hmoves : bucket.endAt ≤ cursor then []
    else
      { start := cursor, endAt := bucket.endAt, granularity := bucket.granularity } ::
        analyticsBuckets bucket.endAt endAt window now
  else []
termination_by (endAt - cursor).toNat
decreasing_by
  have hnext : cursor < (bucketFor cursor window now endAt).endAt := not_le.mp hmoves
  omega

@[ext]
structure ActivityCounts where
  sourceViews : Int := 0
  sourceReactions : Int := 0
  sourceReposts : Int := 0
  memeexpertViews : Int := 0
  memeexpertSends : Int := 0
  memeexpertSaves : Int := 0
  memeexpertFavorites : Int := 0
  downloads : Int := 0
  deriving DecidableEq

namespace ActivityCounts

def recordedActivity (counts : ActivityCounts) : Int :=
  counts.sourceViews + counts.sourceReactions + counts.sourceReposts + counts.memeexpertViews +
    counts.memeexpertSends + counts.memeexpertSaves + counts.memeexpertFavorites

def add (counts other : ActivityCounts) : ActivityCounts where
  sourceViews := counts.sourceViews + other.sourceViews
  sourceReactions := counts.sourceReactions + other.sourceReactions
  sourceReposts := counts.sourceReposts + other.sourceReposts
  memeexpertViews := counts.memeexpertViews + other.memeexpertViews
  memeexpertSends := counts.memeexpertSends + other.memeexpertSends
  memeexpertSaves := counts.memeexpertSaves + other.memeexpertSaves
  memeexpertFavorites := counts.memeexpertFavorites + other.memeexpertFavorites
  downloads := counts.downloads + other.downloads

instance : Zero ActivityCounts := ⟨{}⟩

instance : Add ActivityCounts := ⟨add⟩

end ActivityCounts

structure TimedActivity where
  observedAt : Int
  counts : ActivityCounts
  deriving DecidableEq

structure EngagementObservation where
  id : Uuid
  sourceId : Uuid
  capturedAt : Int
  views : Option Nat
  reactions : Option Nat
  reposts : Option Nat

inductive SourceMetric where
  | views | reactions | reposts

def EngagementObservation.value (observation : EngagementObservation) : SourceMetric → Option Nat
  | .views => observation.views
  | .reactions => observation.reactions
  | .reposts => observation.reposts

def ActivityCounts.gained (counts : ActivityCounts) : SourceMetric → Int
  | .views => counts.sourceViews
  | .reactions => counts.sourceReactions
  | .reposts => counts.sourceReposts

abbrev HighWatermarks := Uuid → SourceMetric → Option Nat

def gain (previousHigh value : Option Nat) : Int :=
  match previousHigh, value with
  | some previousHigh, some value => if previousHigh < value then value - previousHigh else 0
  | _, _ => 0

def raisedMark (previousHigh value : Option Nat) : Option Nat :=
  match value with
  | none => previousHigh
  | some value => some (max value (previousHigh.getD 0))

def observeMetrics (marks : HighWatermarks) (observation : EngagementObservation) :
    HighWatermarks × ActivityCounts :=
  let previousHigh := marks observation.sourceId
  (fun sourceId metric =>
    if sourceId = observation.sourceId then
      raisedMark (previousHigh metric) (observation.value metric)
    else marks sourceId metric,
  { sourceViews := gain (previousHigh .views) observation.views
    sourceReactions := gain (previousHigh .reactions) observation.reactions
    sourceReposts := gain (previousHigh .reposts) observation.reposts })

def observedCounts (marks : HighWatermarks) :
    List EngagementObservation → List (EngagementObservation × ActivityCounts)
  | [] => []
  | observation :: rest =>
    let (raised, counts) := observeMetrics marks observation
    (observation, counts) :: observedCounts raised rest

def sourceTimedActivity (observations : List EngagementObservation) (startAt : Int) :
    List TimedActivity :=
  (observedCounts (fun _ _ => none) observations).filterMap fun observed =>
    if startAt ≤ observed.1.capturedAt ∧ observed.2.recordedActivity ≠ 0 then
      some ⟨observed.1.capturedAt, observed.2⟩
    else none

def viewEvents : List AnalyticsEventType := [.memeView, .view]

def sendEvents : List AnalyticsEventType := [.memeSend, .memeShare, .share]

def saveEvents : List AnalyticsEventType := [.memeSave, .save]

def favoriteEvents : List AnalyticsEventType := [.memeLike, .favorite]

def activityEventTypes : List AnalyticsEventType :=
  viewEvents ++ sendEvents ++ saveEvents ++ favoriteEvents ++ [.memeDownload]

def webHighIntentEvents : List AnalyticsEventType :=
  [.favorite, .memeDownload, .memeLike, .memeSave, .memeSend, .memeShare, .save, .share]

def funnelEventTypes : List AnalyticsEventType :=
  [.impression, .memeImpression, .click, .memeDetailClick, .inlineServed, .inlineChosen,
    .inlineSent] ++ webHighIntentEvents

def eventActivity (eventType : AnalyticsEventType) (count : Nat) : ActivityCounts :=
  if eventType ∈ viewEvents then { memeexpertViews := count }
  else if eventType ∈ sendEvents then { memeexpertSends := count }
  else if eventType ∈ saveEvents then { memeexpertSaves := count }
  else if eventType ∈ favoriteEvents then { memeexpertFavorites := count }
  else if eventType = .memeDownload then { downloads := count }
  else {}

structure MemeEvent where
  eventType : AnalyticsEventType
  occurredAt : Int

def loadEngagementObservations (snapshots : List EngagementObservation) (cutoff : Int) :
    List EngagementObservation :=
  (snapshots.filter fun row => row.capturedAt ≤ cutoff).insertionSort fun row other =>
    row.capturedAt < other.capturedAt ∨ row.capturedAt = other.capturedAt ∧ row.id ≤ other.id

def loadEventHistoryStart (events : List MemeEvent) (endAt : Int) : Option Int :=
  gather min none ((events.filter fun event =>
    event.occurredAt ≤ endAt ∧ event.eventType ∈ activityEventTypes ++ funnelEventTypes).map
      MemeEvent.occurredAt)

def loadEventDailyActivity (events : List MemeEvent) (startAt endAt : Int) : List TimedActivity :=
  let loaded := events.filter fun event =>
    event.eventType ∈ activityEventTypes ∧ startAt ≤ event.occurredAt ∧ event.occurredAt ≤ endAt
  let groups := loaded.map fun event => (midnightUtc event.occurredAt, event.eventType)
  groups.dedup.map fun group => ⟨group.1, eventActivity group.2 (groups.count group)⟩

structure ActivityPoint where
  bucketStart : Int
  bucketEnd : Int
  granularity : AnalyticsGranularity
  counts : ActivityCounts

def activityPoints (buckets : List Bucket) (activity : List TimedActivity)
    (window : AnalyticsWindow) (now : Int) : List ActivityPoint :=
  let endAt := (buckets.getLast?.map Bucket.endAt).getD now
  let byStart := activity.foldl
    (fun byStart item =>
      let start := (bucketFor item.observedAt window now endAt).start
      Function.update byStart start (byStart start + item.counts))
    fun _ => (0 : ActivityCounts)
  buckets.map fun bucket =>
    ⟨bucket.start, bucket.endAt, bucket.granularity, byStart bucket.start⟩

def sumActivityPoints (points : List ActivityPoint) : ActivityCounts :=
  points.foldl (fun counts point => counts + point.counts) 0

section Analytics

variable (window : AnalyticsWindow) (now : Int) (snapshots : List EngagementObservation)
  (events : List MemeEvent)

def historyStart : Option Int :=
  Option.merge min (loadEventHistoryStart events now)
    ((loadEngagementObservations snapshots now).head?.map EngagementObservation.capturedAt)

def windowStart : Int := analyticsStart window now (historyStart now snapshots events)

def activityLoadStart : Int :=
  min (windowStart window now snapshots events) (midnightUtc now - days 13)

def timedActivity : List TimedActivity :=
  let startAt := activityLoadStart window now snapshots events
  (sourceTimedActivity (loadEngagementObservations snapshots now) startAt ++
    loadEventDailyActivity events startAt now).insertionSort fun item other =>
      item.observedAt ≤ other.observedAt

def windowBuckets : List Bucket :=
  analyticsBuckets (windowStart window now snapshots events) now window now

def analyticsPoints : List ActivityPoint :=
  activityPoints (windowBuckets window now snapshots events)
    (timedActivity window now snapshots events) window now

end Analytics

/-- `max(...) OVER (PARTITION BY meme_source_id ... ROWS UNBOUNDED PRECEDING)`, from the rows
before. -/
def previousHigh (before : List EngagementObservation) (sourceId : Uuid) (metric : SourceMetric) :
    Option Nat :=
  gather max none ((before.filter fun row => row.sourceId = sourceId).filterMap (·.value metric))

def gainOfRow (before : List EngagementObservation) (row : EngagementObservation)
    (metric : SourceMetric) : Int :=
  match previousHigh before row.sourceId metric, row.value metric with
  | some previousHigh, some value => max ((value : Int) - previousHigh) 0
  | _, _ => 0

/-- The rows of `successful_source_snapshots` in their order, each with what it gained. -/
def successfulSourceSnapshots (metric : SourceMetric) :
    List EngagementObservation → List EngagementObservation → List (EngagementObservation × Int)
  | _, [] => []
  | before, row :: rest =>
    (row, gainOfRow before row metric) :: successfulSourceSnapshots metric (before ++ [row]) rest

/-- The sum of a day in `source_daily`. -/
def sourceDaily (observations : List EngagementObservation) (day : Int) (metric : SourceMetric) :
    Int :=
  (((successfulSourceSnapshots metric [] observations).filter fun row =>
    row.1.capturedAt / microsecondsPerDay = day).map Prod.snd).sum

end MemeExpert.MemeInsights
