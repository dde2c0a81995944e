import Mathlib.Algebra.Order.Ring.Int
import Mathlib.Data.List.Pairwise
import MemeExpert.Crawlers.SourcePosts
import MemeExpert.Lib.Calls
import MemeExpert.Lib.Results
import MemeExpert.Lib.Runs
import MemeExpert.Models.Content
import MemeExpert.Services.EngagementSchedule

/-! A sweep leases the source that is due and asks for its slot, and a delivery looks for a
finished snapshot of the slot before and after it asks Telegram. -/

namespace MemeExpert

open Runs

inductive SourceEngagementFetchStatus where
  | success | notFound | notAccessible | failed
  deriving DecidableEq

inductive SourceEngagementCaptureReason where
  | ingestInitial | scheduled | manualRefresh
  deriving DecidableEq

inductive SourceEngagementCommentsState where
  | unknown | enabled | disabled | notExposed
  deriving DecidableEq

structure EngagementSource where
  platform : SourcePlatform := .telegram
  sourceId : String
  postId : String
  sourceAlive : Bool := true
  publishedAt : Option Time := none
  lastEngagementCheckAt : Option Time := none
  nextEngagementCheckAt : Option Time := none
  engagementCheckLockedAt : Option Time := none
  engagementCheckLockOwner : Option String := none
  engagementCheckAttemptCount : Nat := 0
  lastEngagementErrorCode : Option String := none

structure MemeSourceEngagementSnapshot where
  id : Uuid
  capturedAt : Time
  scheduledFor : Option Time := none
  captureReason : SourceEngagementCaptureReason
  scheduleLabel : Option SourceEngagementScheduleLabel := none
  viewCount : Option Int := none
  reactions : Option (List (String × Int)) := none
  reactionCount : Option Int := none
  commentCount : Option Int := none
  forwardCount : Option Int := none
  commentsState : SourceEngagementCommentsState := .unknown
  fetchStatus : SourceEngagementFetchStatus
  sourceAlive : Bool := true
  errorCode : Option String := none
  deriving DecidableEq

namespace Services

open Crawlers

/-! The rows hold their moments in microseconds of universal time. -/

def EngagementSchedule.RangeError.className : RangeError → String
  | overflow => "OverflowError"
  | year _ => "ValueError"

section Schedule

open EngagementSchedule

variable {publishedAt now t : Time} {next : Option Time}

theorem utc_lt_day :
    ∀ offset ∈ some (0 : Int), -Dates.ticksPerDay < offset ∧ offset < Dates.ticksPerDay := by
  simp [Dates.ticksPerDay]

def datetimeAt (t : Time) : Except RangeError Datetime :=
  if h : IsDatetime t then .ok ⟨t, some 0, h, utc_lt_day⟩ else .error .overflow

def nextSlotAt : Option Time → Time → Except RangeError (Option Time)
  | none, _ => .ok none
  | some publishedAt, now => do
    let publishedAt ← datetimeAt publishedAt
    let now ← datetimeAt now
    let slot ← nextSourceEngagementScheduleSlot (some publishedAt) (some now) now
    return slot.map fun slot => slot.scheduledFor.toNat

def labelAt : Option Time → Option Time → Except RangeError (Option SourceEngagementScheduleLabel)
  | some publishedAt, some scheduledFor => do
    let publishedAt ← datetimeAt publishedAt
    let scheduledFor ← datetimeAt scheduledFor
    sourceEngagementScheduleLabelFor (some publishedAt) (some scheduledFor)
  | _, _ => .ok none

theorem asUtc_datetimeAt {moment : Datetime} (h : datetimeAt t = .ok moment) :
    asUtc moment = .ok (t : Int) := by
  unfold datetimeAt at h
  split at h
  · next hin =>
    cases h
    simp [asUtc, hin]
  · cases h

theorem lt_of_nextSlotAt (h : nextSlotAt (some publishedAt) now = .ok next) :
    ∃ later, next = some later ∧ now < later := by
  obtain ⟨published, hpublished, h⟩ := Results.bind_eq_ok.mp h
  obtain ⟨moment, hmoment, h⟩ := Results.bind_eq_ok.mp h
  obtain ⟨slot, hslot, h⟩ := Results.bind_eq_ok.mp h
  cases Results.pure_eq_ok.mp h
  obtain ⟨found, hfinds⟩ : ∃ found, Finds published (some moment) moment publishedAt now found :=
    exists_finds (asUtc_datetimeAt hpublished) (asUtc_datetimeAt hmoment)
  by_cases hin : IsDatetime found.scheduledFor
  · rw [hfinds.found hin] at hslot
    cases hslot
    exact ⟨_, rfl, Int.lt_toNat.mpr hfinds.next.later⟩
  · obtain ⟨failure, hfailure⟩ := hfinds.raises hin
    rw [hfailure] at hslot
    cases hslot

end Schedule

/-- The metrics of one capture, without the raw values that are stored beside them. -/
structure SourceEngagementMetrics where
  viewCount : Option Int := none
  reactions : Option (List (String × Int)) := none
  reactionCount : Option Int := none
  commentCount : Option Int := none
  forwardCount : Option Int := none
  commentsState : SourceEngagementCommentsState := .unknown
  sourceAlive : Bool := true
  errorCode : Option String := none

def reactionCountFromReactions (reactions : Option (List (String × Int))) : Option Int :=
  reactions.map fun counts => (counts.map Prod.snd).sum

/-- A negative count is a `ValueError`. -/
def nonNegativeOrNone (value : Option Int) : Except String (Option Int) :=
  if value.any (· < 0) then .error "ValueError" else .ok value

def applySnapshotMetrics (id : Uuid) (metrics : SourceEngagementMetrics)
    (captureReason : SourceEngagementCaptureReason) (fetchStatus : SourceEngagementFetchStatus)
    (capturedAt : Time) (scheduledFor : Option Time)
    (scheduleLabel : Option SourceEngagementScheduleLabel) :
    Except String MemeSourceEngagementSnapshot := do
  let viewCount ← nonNegativeOrNone metrics.viewCount
  let reactionCount ← nonNegativeOrNone
    (metrics.reactionCount <|> reactionCountFromReactions metrics.reactions)
  let commentCount ← nonNegativeOrNone metrics.commentCount
  let forwardCount ← nonNegativeOrNone metrics.forwardCount
  return {
    id := id
    capturedAt := capturedAt
    scheduledFor := scheduledFor
    captureReason := captureReason
    scheduleLabel := scheduleLabel
    viewCount := viewCount
    reactions := metrics.reactions
    reactionCount := reactionCount
    commentCount := commentCount
    forwardCount := forwardCount
    commentsState := metrics.commentsState
    fetchStatus := fetchStatus
    sourceAlive := metrics.sourceAlive
    errorCode := metrics.errorCode }

def updateSourceAfterEngagementCapture (source : EngagementSource)
    (metrics : SourceEngagementMetrics) (fetchStatus : SourceEngagementFetchStatus)
    (capturedAt : Time) (scheduledFor : Option Time) : Except String EngagementSource := do
  let next ← (if fetchStatus = .failed then .ok (scheduledFor <|> source.nextEngagementCheckAt)
    else (nextSlotAt source.publishedAt capturedAt).mapError EngagementSchedule.RangeError.className)
  return { source with
    sourceAlive := metrics.sourceAlive
    lastEngagementCheckAt := some capturedAt
    nextEngagementCheckAt := next
    engagementCheckLockedAt := none
    engagementCheckLockOwner := none
    lastEngagementErrorCode := if fetchStatus = .success then none else metrics.errorCode }

structure SourceEngagementCaptureRequestedEvent where
  sourcePlatform : SourcePlatform
  sourceId : String
  postId : String
  scheduledFor : Time
  scheduleLabel : SourceEngagementScheduleLabel
  deriving DecidableEq

structure SourceEngagementCaptureResult where
  fetchStatus : Option SourceEngagementFetchStatus
  snapshotId : Option Uuid
  duplicate : Bool
  errorCode : Option String := none

def metricsForCaptureError (error : CrawlerException) : SourceEngagementMetrics where
  sourceAlive :=
    match error with
    | .malformedMessage _ | .sessionBanned _ => false
    | _ => true
  errorCode := some (cap 128 error.className)

def fetchStatusForCaptureError : CrawlerException → SourceEngagementFetchStatus
  | .malformedMessage _ => .notFound
  | .sessionBanned _ => .notAccessible
  | _ => .failed

def eventMatchesSource (event : SourceEngagementCaptureRequestedEvent)
    (source : EngagementSource) : Bool :=
  event.sourcePlatform = .telegram ∧ source.platform = .telegram ∧
    source.sourceId = event.sourceId ∧ source.postId = event.postId

def clearMatchingLease (source : EngagementSource)
    (event : SourceEngagementCaptureRequestedEvent) : EngagementSource :=
  if source.nextEngagementCheckAt = some event.scheduledFor then
    { source with engagementCheckLockedAt := none, engagementCheckLockOwner := none }
  else source

def slotSnapshot (snapshots : List MemeSourceEngagementSnapshot)
    (event : SourceEngagementCaptureRequestedEvent) : Option MemeSourceEngagementSnapshot :=
  snapshots.find? fun snapshot =>
    snapshot.scheduledFor = some event.scheduledFor ∧
      snapshot.scheduleLabel = some event.scheduleLabel

def staleCaptureRequest : SourceEngagementCaptureResult :=
  ⟨none, none, false, some "stale_capture_request"⟩

def duplicateResult (snapshot : MemeSourceEngagementSnapshot) : SourceEngagementCaptureResult :=
  ⟨some snapshot.fetchStatus, some snapshot.id, true, snapshot.errorCode⟩

/-- `_short_circuit_existing_terminal_snapshot`: without a result the delivery goes on. -/
def shortCircuitExistingTerminalSnapshot (source : EngagementSource)
    (snapshots : List MemeSourceEngagementSnapshot)
    (event : SourceEngagementCaptureRequestedEvent) :
    EngagementSource × Option SourceEngagementCaptureResult :=
  if eventMatchesSource event source then
    match slotSnapshot snapshots event with
    | some snapshot =>
      if snapshot.fetchStatus = .failed then (source, none)
      else (clearMatchingLease source event, some (duplicateResult snapshot))
    | none => (source, none)
  else
    ({ clearMatchingLease source event with
        lastEngagementErrorCode := some "stale_capture_request" }, some staleCaptureRequest)

structure EngagementCaptured where
  source : EngagementSource
  snapshots : List MemeSourceEngagementSnapshot
  result : SourceEngagementCaptureResult

def recordedMetrics (source : EngagementSource) (metrics : SourceEngagementMetrics)
    (fetchStatus : SourceEngagementFetchStatus) : SourceEngagementMetrics :=
  if fetchStatus = .failed then { metrics with sourceAlive := source.sourceAlive } else metrics

def writeSnapshot (source : EngagementSource) (snapshots : List MemeSourceEngagementSnapshot)
    (event : SourceEngagementCaptureRequestedEvent) (snapshotId : Uuid) (capturedAt : Time)
    (metrics : SourceEngagementMetrics) (fetchStatus : SourceEngagementFetchStatus)
    (existing : Option MemeSourceEngagementSnapshot) : Except String EngagementCaptured := do
  let snapshot ← applySnapshotMetrics ((existing.map (·.id)).getD snapshotId)
    (recordedMetrics source metrics fetchStatus) .scheduled fetchStatus capturedAt
    (some event.scheduledFor) (some event.scheduleLabel)
  let source ← updateSourceAfterEngagementCapture source
    (recordedMetrics source metrics fetchStatus) fetchStatus capturedAt (some event.scheduledFor)
  let others := snapshots.filter fun other => existing ≠ some other
  if others.any fun other => other.capturedAt = capturedAt then .error "IntegrityError"
  else
    .ok
      { source := source
        snapshots := others ++ [snapshot]
        result := ⟨some fetchStatus, some snapshot.id, existing.isSome, metrics.errorCode⟩ }

/-- The second transaction of `capture`. -/
def recordCapture (source : EngagementSource) (snapshots : List MemeSourceEngagementSnapshot)
    (event : SourceEngagementCaptureRequestedEvent) (snapshotId : Uuid) (capturedAt : Time)
    (metrics : SourceEngagementMetrics) (fetchStatus : SourceEngagementFetchStatus) :
    Except String EngagementCaptured :=
  match shortCircuitExistingTerminalSnapshot source snapshots event with
  | (source, some result) => .ok ⟨source, snapshots, result⟩
  | (source, none) =>
    writeSnapshot source snapshots event snapshotId capturedAt metrics fetchStatus
      (slotSnapshot snapshots event)

inductive EngagementCall where
  | received (event : SourceEngagementCaptureRequestedEvent)
  | fetching (event : SourceEngagementCaptureRequestedEvent)
  | flooded (event : SourceEngagementCaptureRequestedEvent)
  | fetched (event : SourceEngagementCaptureRequestedEvent) (capturedAt : Time)
      (metrics : SourceEngagementMetrics) (fetchStatus : SourceEngagementFetchStatus)

def EngagementCall.event : EngagementCall → SourceEngagementCaptureRequestedEvent
  | received event | fetching event | flooded event | fetched event .. => event

/-- The scheduler and the workers read clocks of their own. -/
structure EngagementState where
  source : EngagementSource
  snapshots : List MemeSourceEngagementSnapshot := []
  events : List SourceEngagementCaptureRequestedEvent := []
  calls : Nat → Option EngagementCall := fun _ => none

inductive EngagementLabel where
  | sweep (capturedNow : Time) (lockOwner : String)
  | deliver (callId : Nat) (event : SourceEngagementCaptureRequestedEvent)
  | shortCircuit (callId : Nat)
  | fetch (callId : Nat) (now : Time) (outcome : Except CrawlerException SourceEngagementMetrics)
  | handleFloodWait (callId : Nat)
  | record (callId : Nat) (snapshotId : Uuid)
  | stop (callId : Nat)

section Step

variable (leaseTimeout : Time)

def engagementDue (source : EngagementSource) (capturedNow : Time) : Bool :=
  source.platform = .telegram ∧ source.sourceAlive ∧
    source.nextEngagementCheckAt.any (· ≤ capturedNow) ∧
    source.engagementCheckLockedAt.all (· + leaseTimeout ≤ capturedNow)

def claimDueSource (source : EngagementSource) (capturedNow : Time) (lockOwner : String) :
    Except EngagementSchedule.RangeError
      (EngagementSource × Option SourceEngagementCaptureRequestedEvent) := do
  let claimed := { source with
    engagementCheckLockedAt := some capturedNow
    engagementCheckLockOwner := some lockOwner
    engagementCheckAttemptCount := source.engagementCheckAttemptCount + 1 }
  match ← labelAt source.publishedAt source.nextEngagementCheckAt,
      source.nextEngagementCheckAt with
  | some label, some scheduledFor =>
    pure (claimed, some ⟨source.platform, source.sourceId, source.postId, scheduledFor, label⟩)
  | _, _ =>
    pure ({ claimed with
        engagementCheckLockedAt := none, engagementCheckLockOwner := none
        lastEngagementErrorCode := some "schedule_label_unresolved" }, none)

namespace EngagementState

variable (s : EngagementState) (callId : Nat)

def setCall (call : EngagementCall) : EngagementState :=
  { s with calls := Function.update s.calls callId (some call) }

def endCall : EngagementState := { s with calls := Function.update s.calls callId none }

end EngagementState

def fetchedCall (event : SourceEngagementCaptureRequestedEvent) (now : Time) :
    Except CrawlerException SourceEngagementMetrics → EngagementCall
  | .ok metrics => .fetched event now { metrics with sourceAlive := true } .success
  | .error (.floodWait ..) => .flooded event
  | .error error =>
    .fetched event now (metricsForCaptureError error) (fetchStatusForCaptureError error)

def engagementResult (s : EngagementState) :
    EngagementLabel → Option (SourceEngagementCaptureRequestedEvent × SourceEngagementCaptureResult)
  | .shortCircuit callId =>
    match s.calls callId with
    | some (.received event) =>
      (shortCircuitExistingTerminalSnapshot s.source s.snapshots event).2.map fun result =>
        (event, result)
    | _ => none
  | .handleFloodWait callId =>
    match s.calls callId with
    | some (.flooded event) =>
      some (event, ⟨none, none, false, some "PipelineTelegramFloodWaitError"⟩)
    | _ => none
  | .record callId snapshotId =>
    match s.calls callId with
    | some (.fetched event capturedAt metrics fetchStatus) =>
      (recordCapture s.source s.snapshots event snapshotId capturedAt metrics
        fetchStatus).toOption.map fun captured => (event, captured.result)
    | _ => none
  | _ => none

def engagementStep (s : EngagementState) : EngagementLabel → Option EngagementState
  | .sweep capturedNow lockOwner =>
    if engagementDue leaseTimeout s.source capturedNow then
      (claimDueSource s.source capturedNow lockOwner).toOption.map fun claimed =>
        { s with source := claimed.1, events := claimed.2.toList ++ s.events }
    else none
  | .deliver callId event =>
    if s.calls callId = none ∧ event ∈ s.events then some (s.setCall callId (.received event))
    else none
  | .shortCircuit callId =>
    match s.calls callId with
    | some (.received event) =>
      match shortCircuitExistingTerminalSnapshot s.source s.snapshots event with
      | (source, some _) => some { s.endCall callId with source := source }
      | (source, none) => some { s.setCall callId (.fetching event) with source := source }
    | _ => none
  | .fetch callId now outcome =>
    match s.calls callId with
    | some (.fetching event) => some (s.setCall callId (fetchedCall event now outcome))
    | _ => none
  | .handleFloodWait callId =>
    match s.calls callId with
    | some (.flooded event) =>
      some
        { s.endCall callId with
          source :=
            if eventMatchesSource event s.source then clearMatchingLease s.source event
            else s.source }
    | _ => none
  | .record callId snapshotId =>
    match s.calls callId with
    | some (.fetched event capturedAt metrics fetchStatus) =>
      (recordCapture s.source s.snapshots event snapshotId capturedAt metrics
        fetchStatus).toOption.map fun captured =>
          { s.endCall callId with source := captured.source, snapshots := captured.snapshots }
    | _ => none
  | .stop callId => some (s.endCall callId)

end Step

/-- Neither a flood wait nor a failure. -/
def EngagementLabel.endsWell (label : EngagementLabel)
    (result : SourceEngagementCaptureResult) : Bool :=
  match label with
  | .handleFloodWait _ => false
  | _ => result.fetchStatus ≠ some .failed

def SameSlot (first second : MemeSourceEngagementSnapshot) : Prop :=
  ∃ slot label, first.scheduledFor = some slot ∧ first.scheduleLabel = some label ∧
    second.scheduledFor = some slot ∧ second.scheduleLabel = some label

def IsFinished (snapshots : List MemeSourceEngagementSnapshot)
    (event : SourceEngagementCaptureRequestedEvent) : Prop :=
  ∃ snapshot ∈ snapshots, snapshot.scheduledFor = some event.scheduledFor ∧
    snapshot.scheduleLabel = some event.scheduleLabel ∧ snapshot.fetchStatus ≠ .failed

/-- What is recorded for the slot that is due fails, or was captured once the slot had come. -/
def capturedInTime (s : EngagementState) : EngagementLabel → Bool
  | .record callId _ =>
    match s.calls callId with
    | some (.fetched event capturedAt _ fetchStatus) =>
      s.source.nextEngagementCheckAt = some event.scheduledFor → fetchStatus ≠ .failed →
        event.scheduledFor ≤ capturedAt
    | _ => true
  | _ => true

/-- A request is for the slot that is due or for a finished one, and finished slots lie behind the
next one. -/
structure SlotsInOrder (s : EngagementState) : Prop where
  asked : ∀ event ∈ s.events, eventMatchesSource event s.source = true ∧
    labelAt s.source.publishedAt (some event.scheduledFor) = .ok (some event.scheduleLabel) ∧
    (s.source.nextEngagementCheckAt = some event.scheduledFor ∨ IsFinished s.snapshots event)
  calls : ∀ callId call, s.calls callId = some call → call.event ∈ s.events
  distinct : s.snapshots.Pairwise fun first second => ¬ SameSlot first second
  behind : ∀ snapshot ∈ s.snapshots, snapshot.fetchStatus ≠ .failed →
    ∀ slot, snapshot.scheduledFor = some slot → snapshot.scheduleLabel ≠ none →
    ∀ next, s.source.nextEngagementCheckAt = some next → slot < next

structure SamePost (before after : EngagementSource) : Prop where
  platform : after.platform = before.platform
  sourceId : after.sourceId = before.sourceId
  postId : after.postId = before.postId
  publishedAt : after.publishedAt = before.publishedAt

structure SameSchedule (before after : EngagementSource) : Prop extends SamePost before after where
  next : after.nextEngagementCheckAt = before.nextEngagementCheckAt

section Specs

variable {source : EngagementSource} {snapshots : List MemeSourceEngagementSnapshot}
  {event : SourceEngagementCaptureRequestedEvent} {leaseTimeout capturedNow : Time}
  {lockOwner : String}

theorem sameSchedule_refl (source : EngagementSource) : SameSchedule source source :=
  ⟨⟨rfl, rfl, rfl, rfl⟩, rfl⟩

theorem sameSchedule_clearMatchingLease (source : EngagementSource)
    (event : SourceEngagementCaptureRequestedEvent) :
    SameSchedule source (clearMatchingLease source event) := by
  unfold clearMatchingLease
  split
  · exact ⟨⟨rfl, rfl, rfl, rfl⟩, rfl⟩
  · exact sameSchedule_refl source

theorem sameSchedule_shortCircuit :
    SameSchedule source (shortCircuitExistingTerminalSnapshot source snapshots event).1 := by
  unfold shortCircuitExistingTerminalSnapshot
  split
  · split
    · split
      · exact sameSchedule_refl source
      · exact sameSchedule_clearMatchingLease source event
    · exact sameSchedule_refl source
  · obtain ⟨⟨hplatform, hsource, hpost, hpublished⟩, hnext⟩ :=
      sameSchedule_clearMatchingLease source event
    exact ⟨⟨hplatform, hsource, hpost, hpublished⟩, hnext⟩

/-- The request is for the slot that is due, under its label. -/
theorem eq_of_claimDueSource
    {claimed : EngagementSource × Option SourceEngagementCaptureRequestedEvent}
    (h : claimDueSource source capturedNow lockOwner = .ok claimed) :
    SameSchedule source claimed.1 ∧
      ∀ event, claimed.2 = some event → event.sourcePlatform = source.platform ∧
        event.sourceId = source.sourceId ∧ event.postId = source.postId ∧
        source.nextEngagementCheckAt = some event.scheduledFor ∧
        labelAt source.publishedAt (some event.scheduledFor) = .ok (some event.scheduleLabel) := by
  obtain ⟨label, hlabel, h⟩ := Results.bind_eq_ok.mp h
  dsimp only at h
  split at h
  · next label scheduledFor hnext =>
    cases Results.pure_eq_ok.mp h
    refine ⟨⟨⟨rfl, rfl, rfl, rfl⟩, rfl⟩, ?_⟩
    rintro event ⟨⟩
    rw [hnext] at hlabel
    exact ⟨rfl, rfl, rfl, hnext, hlabel⟩
  · cases Results.pure_eq_ok.mp h
    exact ⟨⟨⟨rfl, rfl, rfl, rfl⟩, rfl⟩, fun event hevent => (Option.some_ne_none _ hevent.symm).elim⟩

variable {snapshot : MemeSourceEngagementSnapshot}

theorem slotSnapshot_eq_some (h : slotSnapshot snapshots event = some snapshot) :
    snapshot ∈ snapshots ∧ snapshot.scheduledFor = some event.scheduledFor ∧
      snapshot.scheduleLabel = some event.scheduleLabel := by
  have hslot := List.find?_some h
  simp only [decide_eq_true_eq] at hslot
  exact ⟨List.mem_of_find?_eq_some h, hslot⟩

theorem shortCircuit_of_matches (snapshots : List MemeSourceEngagementSnapshot)
    (hmatches : eventMatchesSource event source = true) :
    (∃ snapshot, slotSnapshot snapshots event = some snapshot ∧ snapshot.fetchStatus ≠ .failed ∧
        shortCircuitExistingTerminalSnapshot source snapshots event =
          (clearMatchingLease source event, some (duplicateResult snapshot))) ∨
      (∀ snapshot, slotSnapshot snapshots event = some snapshot →
          snapshot.fetchStatus = .failed) ∧
        shortCircuitExistingTerminalSnapshot source snapshots event = (source, none) := by
  simp only [shortCircuitExistingTerminalSnapshot, hmatches, if_true]
  cases hslot : slotSnapshot snapshots event with
  | none => exact .inr ⟨fun _ hnone => (Option.some_ne_none _ hnone.symm).elim, rfl⟩
  | some snapshot =>
    by_cases hfailed : snapshot.fetchStatus = .failed
    · refine .inr ⟨?_, by simp [hfailed]⟩
      intro other hother
      rw [← Option.some.inj hother]
      exact hfailed
    · exact .inl ⟨snapshot, rfl, hfailed, by simp [hfailed]⟩

theorem eq_of_applySnapshotMetrics {id : Uuid} {metrics : SourceEngagementMetrics}
    {captureReason : SourceEngagementCaptureReason} {fetchStatus : SourceEngagementFetchStatus}
    {capturedAt : Time} {scheduledFor : Option Time}
    {scheduleLabel : Option SourceEngagementScheduleLabel}
    (h : applySnapshotMetrics id metrics captureReason fetchStatus capturedAt scheduledFor
      scheduleLabel = .ok snapshot) :
    snapshot.scheduledFor = scheduledFor ∧ snapshot.scheduleLabel = scheduleLabel ∧
      snapshot.fetchStatus = fetchStatus := by
  obtain ⟨_, -, h⟩ := Results.bind_eq_ok.mp h
  obtain ⟨_, -, h⟩ := Results.bind_eq_ok.mp h
  obtain ⟨_, -, h⟩ := Results.bind_eq_ok.mp h
  obtain ⟨_, -, h⟩ := Results.bind_eq_ok.mp h
  cases Results.pure_eq_ok.mp h
  exact ⟨rfl, rfl, rfl⟩

theorem eq_of_writeSnapshot {snapshotId : Uuid} {capturedAt : Time}
    {metrics : SourceEngagementMetrics} {fetchStatus : SourceEngagementFetchStatus}
    {existing : Option MemeSourceEngagementSnapshot} {captured : EngagementCaptured}
    (h : writeSnapshot source snapshots event snapshotId capturedAt metrics fetchStatus existing =
      .ok captured) :
    ∃ snapshot metrics', snapshot.scheduledFor = some event.scheduledFor ∧
      snapshot.scheduleLabel = some event.scheduleLabel ∧ snapshot.fetchStatus = fetchStatus ∧
      captured.snapshots = snapshots.filter (fun other => existing ≠ some other) ++ [snapshot] ∧
      updateSourceAfterEngagementCapture source metrics' fetchStatus capturedAt
        (some event.scheduledFor) = .ok captured.source ∧
      captured.result.fetchStatus = some fetchStatus := by
  obtain ⟨snapshot, hsnapshot, h⟩ := Results.bind_eq_ok.mp h
  obtain ⟨updated, hupdated, h⟩ := Results.bind_eq_ok.mp h
  obtain ⟨hslot, hlabel, hstatus⟩ := eq_of_applySnapshotMetrics hsnapshot
  dsimp only at h
  split at h
  · cases h
  · cases h
    exact ⟨snapshot, _, hslot, hlabel, hstatus, rfl, hupdated, rfl⟩

variable {s t : EngagementState} {label : EngagementLabel}

theorem eventMatchesSource_congr {before after : EngagementSource}
    (h : SamePost before after) (event : SourceEngagementCaptureRequestedEvent) :
    eventMatchesSource event after = eventMatchesSource event before := by
  simp only [eventMatchesSource, h.platform, h.sourceId, h.postId]

theorem SlotsInOrder.of_same (hs : SlotsInOrder s) (hsource : SameSchedule s.source t.source)
    (hsnapshots : t.snapshots = s.snapshots) (hevents : t.events = s.events)
    (hcalls : ∀ callId call, t.calls callId = some call → call.event ∈ s.events) :
    SlotsInOrder t where
  asked := by
    rw [hevents, hsource.publishedAt, hsource.next, hsnapshots]
    intro event hevent
    rw [eventMatchesSource_congr hsource.toSamePost]
    exact hs.asked event hevent
  calls := by
    rw [hevents]
    exact hcalls
  distinct := by
    rw [hsnapshots]
    exact hs.distinct
  behind := by
    rw [hsnapshots, hsource.next]
    exact hs.behind

theorem SlotsInOrder.setCall (hs : SlotsInOrder s) {callId : Nat} {call : EngagementCall}
    (hevent : call.event ∈ s.events) : SlotsInOrder (s.setCall callId call) :=
  hs.of_same (sameSchedule_refl _) rfl rfl (Calls.forall_update_some hs.calls hevent)

theorem SlotsInOrder.endCall (hs : SlotsInOrder s) (callId : Nat) :
    SlotsInOrder (s.endCall callId) :=
  hs.of_same (sameSchedule_refl _) rfl rfl (Calls.forall_update_none hs.calls)

theorem SlotsInOrder.setSource (hs : SlotsInOrder s) {source : EngagementSource}
    (hsource : SameSchedule s.source source) : SlotsInOrder { s with source := source } :=
  hs.of_same hsource rfl rfl hs.calls

theorem SlotsInOrder.sweep (hs : SlotsInOrder s) {capturedNow : Time} {lockOwner : String}
    (hdue : engagementDue leaseTimeout s.source capturedNow = true)
    {claimed : EngagementSource × Option SourceEngagementCaptureRequestedEvent}
    (hclaimed : claimDueSource s.source capturedNow lockOwner = .ok claimed) :
    SlotsInOrder { s with source := claimed.1, events := claimed.2.toList ++ s.events } := by
  obtain ⟨hsource, hrequest⟩ := eq_of_claimDueSource hclaimed
  obtain ⟨hasked, hcalls, hdistinct, hbehind⟩ := hs.setSource hsource
  refine ⟨?_, ?_, hdistinct, hbehind⟩
  · intro event hevent
    rcases List.mem_append.mp hevent with hnew | hold
    · obtain ⟨hplatform, hid, hpost, hnext, hlabel⟩ := hrequest event (Option.mem_toList.mp hnew)
      simp only [engagementDue, decide_eq_true_eq] at hdue
      rw [eventMatchesSource_congr hsource.toSamePost, hsource.publishedAt, hsource.next]
      refine ⟨?_, hlabel, .inl hnext⟩
      simp [eventMatchesSource, hplatform, hid, hpost, hdue.1]
    · exact hasked event hold
  · exact fun callId call hcall => List.mem_append_right _ (hcalls callId call hcall)

theorem sameSlot_symm {first second : MemeSourceEngagementSnapshot} (h : SameSlot first second) :
    SameSlot second first := by
  obtain ⟨slot, label, hfirst, hfirstLabel, hsecond, hsecondLabel⟩ := h
  exact ⟨slot, label, hsecond, hsecondLabel, hfirst, hfirstLabel⟩

theorem SlotsInOrder.eq_of_sameSlot (hs : SlotsInOrder s)
    {first second : MemeSourceEngagementSnapshot} (hfirst : first ∈ s.snapshots)
    (hsecond : second ∈ s.snapshots) (h : SameSlot first second) : first = second := by
  by_contra hne
  have hsymm : Std.Symm fun first second => ¬ SameSlot first second :=
    ⟨fun _ _ hdistinct hsame => hdistinct (sameSlot_symm hsame)⟩
  exact hs.distinct.forall hfirst hsecond hne h

variable {event : SourceEngagementCaptureRequestedEvent} {snapshotId : Uuid} {capturedAt : Time}
  {metrics : SourceEngagementMetrics} {fetchStatus : SourceEngagementFetchStatus}
  {captured : EngagementCaptured}

def IsOpen (snapshots : List MemeSourceEngagementSnapshot)
    (event : SourceEngagementCaptureRequestedEvent) : Prop :=
  ∀ snapshot, slotSnapshot snapshots event = some snapshot → snapshot.fetchStatus = .failed

variable {snapshot : MemeSourceEngagementSnapshot}

theorem SlotsInOrder.slotSnapshot_eq (hs : SlotsInOrder s) (hmem : snapshot ∈ s.snapshots)
    (hslot : snapshot.scheduledFor = some event.scheduledFor)
    (hlabel : snapshot.scheduleLabel = some event.scheduleLabel) :
    slotSnapshot s.snapshots event = some snapshot := by
  cases hfound : slotSnapshot s.snapshots event with
  | none =>
    have hnone := List.find?_eq_none.mp hfound snapshot hmem
    simp [hslot, hlabel] at hnone
  | some found =>
    obtain ⟨hfoundMem, hfoundSlot, hfoundLabel⟩ := slotSnapshot_eq_some hfound
    rw [hs.eq_of_sameSlot hfoundMem hmem
      ⟨_, _, hfoundSlot, hfoundLabel, hslot, hlabel⟩]

theorem SlotsInOrder.not_finished (hs : SlotsInOrder s) (hopen : IsOpen s.snapshots event) :
    ¬ IsFinished s.snapshots event := by
  rintro ⟨snapshot, hmem, hslot, hlabel, hstatus⟩
  exact hstatus (hopen snapshot (hs.slotSnapshot_eq hmem hslot hlabel))

theorem SlotsInOrder.next_of_open (hs : SlotsInOrder s) (hevent : event ∈ s.events)
    (hopen : IsOpen s.snapshots event) :
    s.source.nextEngagementCheckAt = some event.scheduledFor :=
  (hs.asked event hevent).2.2.resolve_right (hs.not_finished hopen)

variable {source updated : EngagementSource}

/-- A failure keeps the slot, and a capture in time leaves it behind. -/
theorem next_of_updateSource
    (h : updateSourceAfterEngagementCapture source metrics fetchStatus capturedAt
      (some event.scheduledFor) = .ok updated)
    (hlabel : labelAt source.publishedAt (some event.scheduledFor) = .ok (some event.scheduleLabel))
    (hpast : fetchStatus ≠ .failed → event.scheduledFor ≤ capturedAt) :
    SamePost source updated ∧
      (fetchStatus = .failed → updated.nextEngagementCheckAt = some event.scheduledFor) ∧
      (fetchStatus ≠ .failed →
        ∃ next, updated.nextEngagementCheckAt = some next ∧ event.scheduledFor < next) := by
  obtain ⟨next, hnext, h⟩ := Results.bind_eq_ok.mp h
  cases Results.pure_eq_ok.mp h
  refine ⟨⟨rfl, rfl, rfl, rfl⟩, fun hfailed => ?_, fun hstatus => ?_⟩
  · rw [if_pos hfailed] at hnext
    cases hnext
    rfl
  rw [if_neg hstatus] at hnext
  cases hpublished : source.publishedAt with
  | none =>
    rw [hpublished] at hlabel
    cases hlabel
  | some publishedAt =>
    rw [hpublished] at hnext
    obtain ⟨later, hlater, hlt⟩ := lt_of_nextSlotAt (Results.mapError_eq_ok.mp hnext)
    exact ⟨later, hlater, Nat.lt_of_le_of_lt (hpast hstatus) hlt⟩

theorem mem_of_finished {existing : Option MemeSourceEngagementSnapshot}
    {snapshots added : List MemeSourceEngagementSnapshot}
    (hfailed : ∀ snapshot, existing = some snapshot → snapshot.fetchStatus = .failed)
    (hmem : snapshot ∈ snapshots)
    (hstatus : snapshot.fetchStatus ≠ .failed) :
    snapshot ∈ snapshots.filter (fun other => existing ≠ some other) ++ added := by
  refine List.mem_append_left _ (List.mem_filter.mpr ⟨hmem, ?_⟩)
  rw [decide_eq_true_eq]
  intro hexisting
  exact hstatus (hfailed snapshot hexisting)

theorem SlotsInOrder.distinct_write (hs : SlotsInOrder s)
    (hslot : snapshot.scheduledFor = some event.scheduledFor)
    (hlabel : snapshot.scheduleLabel = some event.scheduleLabel) :
    (s.snapshots.filter (fun other => slotSnapshot s.snapshots event ≠ some other) ++
      [snapshot]).Pairwise fun first second => ¬ SameSlot first second := by
  rw [List.pairwise_append]
  refine ⟨hs.distinct.filter _, List.pairwise_singleton _ _, ?_⟩
  intro other hother added hadded hsame
  cases List.mem_singleton.mp hadded
  obtain ⟨hmem, hkept⟩ := List.mem_filter.mp hother
  obtain ⟨slot, label, hotherSlot, hotherLabel, hslot', hlabel'⟩ := hsame
  rw [hslot] at hslot'
  rw [hlabel] at hlabel'
  cases hslot'
  cases hlabel'
  rw [decide_eq_true_eq] at hkept
  exact hkept (hs.slotSnapshot_eq hmem hotherSlot hotherLabel)

theorem SlotsInOrder.write (hs : SlotsInOrder s) (hevent : event ∈ s.events)
    (hpast : fetchStatus ≠ .failed → event.scheduledFor ≤ capturedAt)
    (hopen : IsOpen s.snapshots event)
    (hslot : snapshot.scheduledFor = some event.scheduledFor)
    (hlabel : snapshot.scheduleLabel = some event.scheduleLabel)
    (hstatus : snapshot.fetchStatus = fetchStatus)
    (hupdated : updateSourceAfterEngagementCapture s.source metrics fetchStatus capturedAt
      (some event.scheduledFor) = .ok updated) :
    SlotsInOrder
      { s with
        source := updated
        snapshots :=
          s.snapshots.filter (fun other => slotSnapshot s.snapshots event ≠ some other) ++
            [snapshot] } := by
  have hnext := hs.next_of_open hevent hopen
  obtain ⟨-, heventLabel, -⟩ := hs.asked event hevent
  obtain ⟨hpost, hkept, hmoved⟩ := next_of_updateSource hupdated heventLabel hpast
  have hfinished : ∀ other, IsFinished s.snapshots other →
      IsFinished (s.snapshots.filter (fun old => slotSnapshot s.snapshots event ≠ some old) ++
        [snapshot]) other := by
    rintro other ⟨old, hold, hrest⟩
    exact ⟨old, mem_of_finished hopen hold hrest.2.2, hrest⟩
  refine ⟨?_, hs.calls, hs.distinct_write hslot hlabel, ?_⟩
  · intro other hother
    obtain ⟨hmatches, hotherLabel, hwhere⟩ := hs.asked other hother
    dsimp only
    rw [eventMatchesSource_congr hpost, hpost.publishedAt]
    refine ⟨hmatches, hotherLabel, ?_⟩
    rcases hwhere with hdue | hdone
    · rw [hnext] at hdue
      have hsame : event.scheduledFor = other.scheduledFor := Option.some.inj hdue
      by_cases hfailed : fetchStatus = .failed
      · exact .inl (hsame ▸ hkept hfailed)
      right
      rw [← hsame, heventLabel] at hotherLabel
      have hsameLabel : event.scheduleLabel = other.scheduleLabel :=
        Option.some.inj (Except.ok.inj hotherLabel)
      refine ⟨snapshot, List.mem_append_right _ List.mem_cons_self, ?_, ?_, ?_⟩
      · rw [hslot, hsame]
      · rw [hlabel, hsameLabel]
      · rw [hstatus]
        exact hfailed
    · exact .inr (hfinished other hdone)
  · intro old hold holdStatus slot holdSlot holdLabel next hafter
    by_cases hfailed : fetchStatus = .failed
    · rw [hkept hfailed] at hafter
      rcases List.mem_append.mp hold with hold | hadded
      · exact hs.behind old (List.mem_filter.mp hold).1 holdStatus slot holdSlot holdLabel next
          (hnext.trans hafter)
      · cases List.mem_singleton.mp hadded
        exact (holdStatus (hstatus.trans hfailed)).elim
    · obtain ⟨later, hlater, hlt⟩ := hmoved hfailed
      rw [hlater] at hafter
      cases hafter
      rcases List.mem_append.mp hold with hold | hadded
      · have hbefore := hs.behind old (List.mem_filter.mp hold).1 holdStatus slot holdSlot
          holdLabel event.scheduledFor hnext
        exact Nat.lt_trans hbefore hlt
      cases List.mem_singleton.mp hadded
      rw [hslot] at holdSlot
      cases holdSlot
      exact hlt

structure IsQuiet (s t : EngagementState) : Prop where
  source : SameSchedule s.source t.source
  snapshots : t.snapshots = s.snapshots
  asked : ∀ event ∈ t.events, event ∈ s.events ∨ s.source.nextEngagementCheckAt = some event.scheduledFor

structure IsWritten (s t : EngagementState) (event : SourceEngagementCaptureRequestedEvent)
    (fetchStatus : SourceEngagementFetchStatus) : Prop where
  due : s.source.nextEngagementCheckAt = some event.scheduledFor
  failed : fetchStatus = .failed → t.source.nextEngagementCheckAt = some event.scheduledFor
  moved : fetchStatus ≠ .failed →
    ∃ next, t.source.nextEngagementCheckAt = some next ∧ event.scheduledFor < next
  immutable : ∀ snapshot ∈ s.snapshots, snapshot.fetchStatus ≠ .failed → snapshot ∈ t.snapshots
  events : t.events = s.events

theorem SlotsInOrder.not_due_of_finished (hs : SlotsInOrder s)
    (hfinished : IsFinished s.snapshots event) :
    s.source.nextEngagementCheckAt ≠ some event.scheduledFor := by
  obtain ⟨snapshot, hmem, hslot, hlabel, hstatus⟩ := hfinished
  intro hnext
  have hbehind := hs.behind snapshot hmem hstatus event.scheduledFor hslot (by simp [hlabel])
    event.scheduledFor hnext
  exact Nat.lt_irrefl _ hbehind

theorem SlotsInOrder.record_cases (hs : SlotsInOrder s) (hevent : event ∈ s.events)
    (hpast : s.source.nextEngagementCheckAt = some event.scheduledFor → fetchStatus ≠ .failed →
      event.scheduledFor ≤ capturedAt)
    (h : recordCapture s.source s.snapshots event snapshotId capturedAt metrics fetchStatus =
      .ok captured) :
    (IsFinished s.snapshots event ∧ captured.source = clearMatchingLease s.source event ∧
        captured.snapshots = s.snapshots) ∨
      (captured.result.fetchStatus = some fetchStatus ∧
        SlotsInOrder { s with source := captured.source, snapshots := captured.snapshots } ∧
        IsWritten s { s with source := captured.source, snapshots := captured.snapshots } event
          fetchStatus) := by
  obtain ⟨hmatches, hlabel, -⟩ := hs.asked event hevent
  rcases shortCircuit_of_matches s.snapshots hmatches with
    ⟨snapshot, hfound, hstatus, hresult⟩ | ⟨hopen, hresult⟩
  · left
    simp only [recordCapture, hresult] at h
    cases h
    obtain ⟨hmem, hslot, hsnapshotLabel⟩ := slotSnapshot_eq_some hfound
    exact ⟨⟨snapshot, hmem, hslot, hsnapshotLabel, hstatus⟩, rfl, rfl⟩
  right
  simp only [recordCapture, hresult] at h
  obtain ⟨snapshot, recorded, hslot, hsnapshotLabel, hstatus, hsnapshots, hupdated, hfetch⟩ :=
    eq_of_writeSnapshot h
  have hdue := hs.next_of_open hevent hopen
  obtain ⟨-, hkept, hmoved⟩ := next_of_updateSource hupdated hlabel (hpast hdue)
  rw [hsnapshots]
  refine ⟨hfetch, hs.write hevent (hpast hdue) hopen hslot hsnapshotLabel hstatus hupdated, ?_⟩
  refine ⟨hdue, hkept, hmoved, ?_, rfl⟩
  exact fun old hold holdStatus => mem_of_finished hopen hold holdStatus

theorem engagementStep_cases (hs : SlotsInOrder s) (htime : capturedInTime s label = true)
    (h : engagementStep leaseTimeout s label = some t) :
    SlotsInOrder t ∧ (IsQuiet s t ∨ ∃ event fetchStatus, IsWritten s t event fetchStatus) := by
  have hquiet : ∀ {u : EngagementState}, SameSchedule s.source u.source →
      u.snapshots = s.snapshots → u.events = s.events →
      IsQuiet s u ∨ ∃ event fetchStatus, IsWritten s u event fetchStatus := by
    intro u hsource hsnapshots hevents
    refine .inl ⟨hsource, hsnapshots, ?_⟩
    rw [hevents]
    exact fun event hevent => .inl hevent
  cases label with
  | sweep capturedNow lockOwner =>
    obtain ⟨hdue, ht⟩ := Option.ite_none_right_eq_some.mp h
    obtain ⟨claimed, hclaimed, rfl⟩ := Option.map_eq_some_iff.mp ht
    rw [Results.toOption_eq_some] at hclaimed
    obtain ⟨hsource, hrequest⟩ := eq_of_claimDueSource hclaimed
    refine ⟨hs.sweep hdue hclaimed, .inl ⟨hsource, rfl, ?_⟩⟩
    intro event hevent
    rcases List.mem_append.mp hevent with hnew | hold
    · exact .inr (hrequest event (Option.mem_toList.mp hnew)).2.2.2.1
    · exact .inl hold
  | deliver callId event =>
    obtain ⟨⟨-, hevent⟩, ht⟩ := Option.ite_none_right_eq_some.mp h
    cases ht
    exact ⟨hs.setCall hevent, hquiet (sameSchedule_refl _) rfl rfl⟩
  | shortCircuit callId =>
    simp only [engagementStep] at h
    split at h
    · next event hcall =>
      have hsource : SameSchedule s.source
          (shortCircuitExistingTerminalSnapshot s.source s.snapshots event).1 :=
        sameSchedule_shortCircuit
      split at h
      · next source result hresult =>
        rw [hresult] at hsource
        cases h
        exact ⟨(hs.endCall callId).setSource hsource, hquiet hsource rfl rfl⟩
      next source hresult =>
      rw [hresult] at hsource
      cases h
      have hset : SlotsInOrder (s.setCall callId (.fetching event)) :=
        hs.setCall (hs.calls callId (.received event) hcall)
      exact ⟨hset.setSource hsource, hquiet hsource rfl rfl⟩
    · cases h
  | fetch callId now outcome =>
    simp only [engagementStep] at h
    split at h
    · next event hcall =>
      cases h
      refine ⟨hs.setCall ?_, hquiet (sameSchedule_refl _) rfl rfl⟩
      unfold fetchedCall
      split <;> exact hs.calls callId (.fetching event) hcall
    · cases h
  | handleFloodWait callId =>
    simp only [engagementStep] at h
    split at h
    · next event hcall =>
      cases h
      have hsource : SameSchedule s.source
          (if eventMatchesSource event s.source then clearMatchingLease s.source event
            else s.source) := by
        split
        · exact sameSchedule_clearMatchingLease s.source event
        · exact sameSchedule_refl s.source
      exact ⟨(hs.endCall callId).setSource hsource, hquiet hsource rfl rfl⟩
    · cases h
  | record callId snapshotId =>
    simp only [engagementStep] at h
    split at h
    · next event capturedAt metrics fetchStatus hcall =>
      obtain ⟨captured, hcaptured, rfl⟩ := Option.map_eq_some_iff.mp h
      simp only [capturedInTime, hcall, decide_eq_true_eq] at htime
      rcases hs.record_cases (hs.calls callId _ hcall) htime
          (Results.toOption_eq_some.mp hcaptured) with
        ⟨-, hsource, hsnapshots⟩ | ⟨-, hwritten, hmoved⟩
      · have hsame : SameSchedule s.source captured.source := by
          rw [hsource]
          exact sameSchedule_clearMatchingLease s.source event
        refine ⟨?_, hquiet hsame hsnapshots rfl⟩
        exact hs.of_same hsame hsnapshots rfl (Calls.forall_update_none hs.calls)
      · refine ⟨hwritten.endCall callId, .inr ⟨event, fetchStatus, ?_⟩⟩
        exact ⟨hmoved.due, hmoved.failed, hmoved.moved, hmoved.immutable, rfl⟩
    · cases h
  | stop callId =>
    cases h
    exact ⟨hs.endCall callId, hquiet (sameSchedule_refl _) rfl rfl⟩

/-- A delivery that did not meet a flood wait found its slot finished, or wrote it. -/
theorem engagementResult_cases (hs : SlotsInOrder s) (htime : capturedInTime s label = true)
    (h : engagementStep leaseTimeout s label = some t)
    {result : SourceEngagementCaptureResult}
    (hresult : engagementResult s label = some (event, result))
    (hwell : label.endsWell result = true) :
    IsFinished s.snapshots event ∨
      ∃ fetchStatus, fetchStatus ≠ .failed ∧ IsWritten s t event fetchStatus := by
  cases label with
  | shortCircuit callId =>
    simp only [engagementResult] at hresult
    split at hresult
    · next found hcall =>
      obtain ⟨ended, hended, heq⟩ := Option.map_eq_some_iff.mp hresult
      obtain ⟨hmatches, -⟩ := hs.asked found (hs.calls callId _ hcall)
      cases heq
      rcases shortCircuit_of_matches s.snapshots hmatches with
        ⟨snapshot, hfound, hfinished, -⟩ | ⟨-, hgoes⟩
      · obtain ⟨hmem, hslot, hlabel⟩ := slotSnapshot_eq_some hfound
        exact .inl ⟨snapshot, hmem, hslot, hlabel, hfinished⟩
      · rw [hgoes] at hended
        cases hended
    · cases hresult
  | handleFloodWait callId =>
    cases hwell
  | record callId snapshotId =>
    simp only [engagementResult] at hresult
    simp only [engagementStep] at h
    split at hresult
    · next found capturedAt metrics foundStatus hcall =>
      simp only [hcall] at h
      obtain ⟨captured, hcaptured, rfl⟩ := Option.map_eq_some_iff.mp h
      obtain ⟨_, hsame, heq⟩ := Option.map_eq_some_iff.mp hresult
      rw [hcaptured] at hsame
      cases hsame
      cases heq
      simp only [capturedInTime, hcall, decide_eq_true_eq] at htime
      rcases hs.record_cases (hs.calls callId _ hcall) htime
          (Results.toOption_eq_some.mp hcaptured) with
        ⟨hfinished, -⟩ | ⟨hfetch, -, hmoved⟩
      · exact .inl hfinished
      refine .inr ⟨foundStatus, ?_, hmoved.due, hmoved.failed, hmoved.moved, hmoved.immutable, rfl⟩
      rintro rfl
      simp [EngagementLabel.endsWell, hfetch] at hwell
    · cases hresult
  | _ => cases hresult

end Specs

abbrev EngagementTransition := Transition EngagementState EngagementLabel

structure KeepsEngagementSchedule (leaseTimeout : Time) (x : EngagementTransition) : Prop where
  distinct : x.after.snapshots.Pairwise fun first second => ¬ SameSlot first second
  immutable : ∀ snapshot ∈ x.before.snapshots, snapshot.fetchStatus ≠ .failed →
    snapshot ∈ x.after.snapshots
  notEarlier : ∀ next, x.before.source.nextEngagementCheckAt = some next →
    ∃ later, x.after.source.nextEngagementCheckAt = some later ∧ next ≤ later
  advanced : ∀ event result, engagementResult x.before x.label = some (event, result) →
    x.label.endsWell result = true → x.before.source.nextEngagementCheckAt = some event.scheduledFor →
    ∃ later, x.after.source.nextEngagementCheckAt = some later ∧ event.scheduledFor < later
  notAskedAgain : ∀ event result, engagementResult x.before x.label = some (event, result) →
    x.label.endsWell result = true → x.before.source.nextEngagementCheckAt = some event.scheduledFor →
    ∀ labels, (∀ y ∈ transitions (engagementStep leaseTimeout) x.after labels,
        capturedInTime y.before y.label = true) →
      ∀ asked ∈ (final (engagementStep leaseTimeout) x.after labels).events,
        asked.scheduledFor = event.scheduledFor → asked ∈ x.after.events

structure InitialEngagement (s : EngagementState) : Prop where
  unscheduled : ∀ snapshot ∈ s.snapshots, snapshot.scheduledFor = none
  unasked : s.events = []
  idle : ∀ callId, s.calls callId = none

section Run

variable {leaseTimeout : Time} {s t : EngagementState} {label : EngagementLabel}

theorem slotsInOrder_of_initial (hs : InitialEngagement s) : SlotsInOrder s where
  asked := by
    rw [hs.unasked]
    intro event hevent
    cases hevent
  calls := by
    intro callId call hcall
    rw [hs.idle callId] at hcall
    cases hcall
  distinct := by
    refine List.pairwise_of_forall_mem_list ?_
    rintro first hfirst second - ⟨slot, label, hslot, -⟩
    rw [hs.unscheduled first hfirst] at hslot
    cases hslot
  behind := by
    intro snapshot hmem _ slot hslot
    rw [hs.unscheduled snapshot hmem] at hslot
    cases hslot

section Advance

variable (hs : SlotsInOrder s) (htime : capturedInTime s label = true)
  (h : engagementStep leaseTimeout s label = some t)

include hs htime h

theorem immutable_step :
    ∀ snapshot ∈ s.snapshots, snapshot.fetchStatus ≠ .failed → snapshot ∈ t.snapshots := by
  obtain ⟨-, hquiet | ⟨event, fetchStatus, hwritten⟩⟩ := engagementStep_cases hs htime h
  · rw [hquiet.snapshots]
    exact fun snapshot hmem _ => hmem
  · exact hwritten.immutable

theorem notEarlier_step {next : Time} (hnext : s.source.nextEngagementCheckAt = some next) :
    ∃ later, t.source.nextEngagementCheckAt = some later ∧ next ≤ later := by
  obtain ⟨-, hquiet | ⟨event, fetchStatus, hwritten⟩⟩ := engagementStep_cases hs htime h
  · exact ⟨next, hquiet.source.next.trans hnext, Nat.le_refl _⟩
  rw [hwritten.due] at hnext
  cases hnext
  by_cases hfailed : fetchStatus = .failed
  · exact ⟨event.scheduledFor, hwritten.failed hfailed, Nat.le_refl _⟩
  · obtain ⟨later, hlater, hlt⟩ := hwritten.moved hfailed
    exact ⟨later, hlater, Nat.le_of_lt hlt⟩

theorem engagement_advanced
    {event : SourceEngagementCaptureRequestedEvent} {result : SourceEngagementCaptureResult}
    (hresult : engagementResult s label = some (event, result))
    (hwell : label.endsWell result = true)
    (hdue : s.source.nextEngagementCheckAt = some event.scheduledFor) :
    ∃ later, t.source.nextEngagementCheckAt = some later ∧ event.scheduledFor < later := by
  rcases engagementResult_cases hs htime h hresult hwell with
    hfinished | ⟨fetchStatus, hstatus, hwritten⟩
  · exact (hs.not_due_of_finished hfinished hdue).elim
  · exact hwritten.moved hstatus

end Advance

/-- The slot lies behind, and its requests are those of `published`. -/
structure SlotPassed (slot : Time) (published : List SourceEngagementCaptureRequestedEvent)
    (s : EngagementState) : Prop where
  order : SlotsInOrder s
  passed : ∃ next, s.source.nextEngagementCheckAt = some next ∧ slot < next
  asked : ∀ event ∈ s.events, event.scheduledFor = slot → event ∈ published

theorem slotPassed_step {slot : Time} {published : List SourceEngagementCaptureRequestedEvent}
    (hs : SlotPassed slot published s) (htime : capturedInTime s label = true)
    (h : engagementStep leaseTimeout s label = some t) : SlotPassed slot published t := by
  obtain ⟨next, hnext, hlt⟩ := hs.passed
  obtain ⟨later, hlater, hle⟩ := notEarlier_step hs.order htime h hnext
  obtain ⟨horder, hcases⟩ := engagementStep_cases hs.order htime h
  refine ⟨horder, ⟨later, hlater, Nat.lt_of_lt_of_le hlt hle⟩, ?_⟩
  intro event hevent hslot
  rcases hcases with hquiet | ⟨written, fetchStatus, hwritten⟩
  · rcases hquiet.asked event hevent with hold | hnew
    · exact hs.asked event hold hslot
    · rw [hnext] at hnew
      cases hnew
      exact (Nat.ne_of_gt hlt hslot).elim
  · rw [hwritten.events] at hevent
    exact hs.asked event hevent hslot

theorem engagement_schedule_kept (hs : InitialEngagement s) (labels : List EngagementLabel)
    (htime : ∀ x ∈ transitions (engagementStep leaseTimeout) s labels,
      capturedInTime x.before x.label = true) :
    ∀ x ∈ transitions (engagementStep leaseTimeout) s labels,
      KeepsEngagementSchedule leaseTimeout x := by
  intro x hx
  have hbefore : SlotsInOrder x.before :=
    invariant_before (slotsInOrder_of_initial hs)
      (fun y hy hy' => (engagementStep_cases hy' (htime y hy) (step_of_mem_transitions hy)).1) hx
  have hstep := step_of_mem_transitions hx
  obtain ⟨hafter, -⟩ := engagementStep_cases hbefore (htime x hx) hstep
  refine ⟨hafter.distinct, immutable_step hbefore (htime x hx) hstep,
    fun next hnext => notEarlier_step hbefore (htime x hx) hstep hnext,
    fun event result => engagement_advanced hbefore (htime x hx) hstep, ?_⟩
  intro event result hresult hwell hdue labels hlater
  have hmoved := engagement_advanced hbefore (htime x hx) hstep hresult hwell hdue
  have hpassed : SlotPassed event.scheduledFor x.after.events
      (final (engagementStep leaseTimeout) x.after labels) :=
    invariant_final ⟨hafter, hmoved, fun _ hasked _ => hasked⟩
      fun y hy hy' => slotPassed_step hy' (hlater y hy) (step_of_mem_transitions hy)
  exact hpassed.asked

end Run

end Services

end MemeExpert
