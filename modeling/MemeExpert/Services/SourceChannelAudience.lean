import MemeExpert.Services.SourceEngagement

/-! A capture is bound to the slot that is due: before and after it asks Telegram the
delivery compares the moment it was asked for with the schedule of the channel. -/

namespace MemeExpert

open Runs

inductive SourceChannelAudienceCaptureReason where
  | initialResolution | crawlerRefresh | scheduled
  deriving DecidableEq

inductive SourceChannelAudienceFetchStatus where
  | success | notExposed | failed
  deriving DecidableEq

structure AudienceChannel where
  platform : SourcePlatform := .telegram
  platformId : String
  telegramSessionId : Option Uuid := none
  isActive : Bool := true
  isPaused : Bool := false
  engagementEnabled : Bool := true
  nextAudienceCaptureAt : Option Time := none
  audienceCaptureLockedAt : Option Time := none
  audienceCaptureLockOwner : Option String := none
  audienceCaptureAttemptCount : Nat := 0
  lastAudienceCaptureAt : Option Time := none
  lastAudienceErrorCode : Option String := none
  subscriberCount : Option Nat := none
  subscriberCountUpdatedAt : Option Time := none

structure SourceChannelAudienceSnapshot where
  id : Uuid
  telegramSessionId : Option Uuid := none
  capturedAt : Time
  captureSlot : Nat
  captureReason : SourceChannelAudienceCaptureReason
  fetchStatus : SourceChannelAudienceFetchStatus
  subscriberCount : Option Nat := none
  errorCode : Option String := none
  deriving DecidableEq

namespace Services

open Crawlers

structure SourceChannelAudienceObservation where
  fetchStatus : SourceChannelAudienceFetchStatus
  subscriberCount : Option Nat := none
  errorCode : Option String := none
  counted : subscriberCount.isSome = decide (fetchStatus = .success) := by rfl

/-- A negative count is a `ValueError`. -/
def sourceChannelAudienceObservationFromCount :
    Option Int → Except String SourceChannelAudienceObservation
  | none => .ok { fetchStatus := .notExposed }
  | some (.ofNat count) => .ok { fetchStatus := .success, subscriberCount := some count }
  | some (.negSucc _) => .error "ValueError"

def failedObservation (errorCode : String) : SourceChannelAudienceObservation :=
  { fetchStatus := .failed, errorCode := some (cap 128 errorCode) }

def ticksPerSecond : Nat := 1000000

def secondsPerDay : Nat := 86400

def dayOf (t : Time) : Nat := t / (secondsPerDay * ticksPerSecond)

def nextDailySourceChannelAudienceCaptureAt (digest after : Nat) : Time :=
  ((dayOf after + 1) * secondsPerDay + digest % secondsPerDay) * ticksPerSecond

theorem dayOf_nextDaily (digest after : Nat) :
    dayOf (nextDailySourceChannelAudienceCaptureAt digest after) = dayOf after + 1 := by
  have hsecond : digest % secondsPerDay < secondsPerDay := Nat.mod_lt _ (by decide)
  rw [dayOf, nextDailySourceChannelAudienceCaptureAt, Nat.mul_div_mul_right _ _ (by decide),
    Nat.mul_comm, Nat.mul_add_div (by decide), Nat.div_eq_of_lt hsecond, Nat.add_zero]

theorem lt_of_dayOf_lt {t later : Time} (h : dayOf t < dayOf later) : t < later := by
  by_contra hle
  exact Nat.not_le_of_lt h (Nat.div_le_div_right (Nat.le_of_not_lt hle))

def audienceSnapshot (snapshots : List SourceChannelAudienceSnapshot) (captureSlot : Nat)
    (captureReason : SourceChannelAudienceCaptureReason) : Option SourceChannelAudienceSnapshot :=
  snapshots.find? fun snapshot =>
    snapshot.captureSlot = captureSlot ∧ snapshot.captureReason = captureReason

def advanceDailySchedule (digest : Nat) (channel : AudienceChannel) (capturedAt : Time) :
    AudienceChannel :=
  { channel with
    nextAudienceCaptureAt := some (nextDailySourceChannelAudienceCaptureAt digest capturedAt)
    audienceCaptureLockedAt := none
    audienceCaptureLockOwner := none }

structure AudienceRecorded where
  channel : AudienceChannel
  snapshots : List SourceChannelAudienceSnapshot
  snapshot : SourceChannelAudienceSnapshot

section Record

variable (digest : Nat) (channel : AudienceChannel)
  (snapshots : List SourceChannelAudienceSnapshot)

/-- The upsert of `record_source_channel_audience_observation` past a finished snapshot. -/
def replaceSnapshot (observation : SourceChannelAudienceObservation)
    (captureReason : SourceChannelAudienceCaptureReason) (telegramSessionId : Option Uuid)
    (snapshotId : Uuid) (capturedAt : Time) (captureSlot : Nat) (advance : Bool) :
    AudienceRecorded :=
  let existing := audienceSnapshot snapshots captureSlot captureReason
  let snapshot : SourceChannelAudienceSnapshot :=
    { id := (existing.map (·.id)).getD snapshotId
      telegramSessionId := telegramSessionId <|> channel.telegramSessionId
      capturedAt := capturedAt
      captureSlot := captureSlot
      captureReason := captureReason
      fetchStatus := observation.fetchStatus
      subscriberCount := observation.subscriberCount
      errorCode := observation.errorCode }
  let observed : AudienceChannel :=
    { channel with
      lastAudienceCaptureAt := some capturedAt
      lastAudienceErrorCode := observation.errorCode
      subscriberCount :=
        if observation.fetchStatus = .success then observation.subscriberCount
        else channel.subscriberCount
      subscriberCountUpdatedAt :=
        if observation.fetchStatus = .success then some capturedAt
        else channel.subscriberCountUpdatedAt }
  { channel := if advance then advanceDailySchedule digest observed capturedAt else observed
    snapshots := snapshots.filter (fun other => existing ≠ some other) ++ [snapshot]
    snapshot := snapshot }

def recordSourceChannelAudienceObservation (observation : SourceChannelAudienceObservation)
    (captureReason : SourceChannelAudienceCaptureReason) (telegramSessionId : Option Uuid)
    (snapshotId : Uuid) (capturedAt : Time) (captureSlot : Nat) (advance : Bool) :
    AudienceRecorded :=
  let written := replaceSnapshot digest channel snapshots observation captureReason
    telegramSessionId snapshotId capturedAt captureSlot advance
  match audienceSnapshot snapshots captureSlot captureReason with
  | some snapshot =>
    if snapshot.fetchStatus ≠ .failed then
      { channel := if advance then advanceDailySchedule digest channel capturedAt else channel
        snapshots := snapshots
        snapshot := snapshot }
    else written
  | none => written

end Record

structure SourceChannelAudienceCaptureRequestedEvent where
  sourcePlatform : SourcePlatform
  platformId : String
  scheduledFor : Time
  captureSlot : Nat
  captureReason : SourceChannelAudienceCaptureReason
  telegramSessionId : Uuid
  deriving DecidableEq

structure SourceChannelAudienceCaptureResult where
  fetchStatus : Option SourceChannelAudienceFetchStatus
  snapshotId : Option Uuid
  duplicate : Bool
  errorCode : Option String := none

def eventIsCurrentForChannel (event : SourceChannelAudienceCaptureRequestedEvent)
    (channel : AudienceChannel) : Bool :=
  event.sourcePlatform = .telegram ∧ channel.platform = .telegram ∧
    channel.platformId = event.platformId ∧
    channel.telegramSessionId = some event.telegramSessionId ∧ channel.isActive ∧
    ¬ channel.isPaused ∧ channel.engagementEnabled ∧
    channel.nextAudienceCaptureAt = some event.scheduledFor

def clearMatchingAudienceLease (channel : AudienceChannel)
    (event : SourceChannelAudienceCaptureRequestedEvent) : AudienceChannel :=
  if channel.nextAudienceCaptureAt = some event.scheduledFor then
    { channel with audienceCaptureLockedAt := none, audienceCaptureLockOwner := none }
  else channel

/-- `_short_circuit_existing_terminal_snapshot` of the audience capture. -/
def shortCircuitAudienceCapture (channel : AudienceChannel)
    (snapshots : List SourceChannelAudienceSnapshot)
    (event : SourceChannelAudienceCaptureRequestedEvent) :
    AudienceChannel × Option SourceChannelAudienceCaptureResult :=
  if eventIsCurrentForChannel event channel then
    match audienceSnapshot snapshots event.captureSlot event.captureReason with
    | some snapshot =>
      if snapshot.fetchStatus = .failed then (channel, none)
      else
        (clearMatchingAudienceLease channel event,
          some ⟨some snapshot.fetchStatus, some snapshot.id, true, snapshot.errorCode⟩)
    | none => (channel, none)
  else (channel, some ⟨none, none, false, some "stale_audience_capture_request"⟩)

structure AudienceCaptured where
  channel : AudienceChannel
  snapshots : List SourceChannelAudienceSnapshot
  result : SourceChannelAudienceCaptureResult

/-- The second transaction of `capture`: a failure keeps the slot. -/
def recordAudienceCapture (digest : Nat) (channel : AudienceChannel)
    (snapshots : List SourceChannelAudienceSnapshot)
    (event : SourceChannelAudienceCaptureRequestedEvent) (snapshotId : Uuid) (capturedAt : Time)
    (observation : SourceChannelAudienceObservation) : AudienceCaptured :=
  match shortCircuitAudienceCapture channel snapshots event with
  | (channel, some result) => ⟨channel, snapshots, result⟩
  | (channel, none) =>
    let existing := audienceSnapshot snapshots event.captureSlot event.captureReason
    let recorded := recordSourceChannelAudienceObservation digest channel snapshots observation
      event.captureReason (some event.telegramSessionId) snapshotId capturedAt event.captureSlot
      (observation.fetchStatus ≠ .failed)
    { channel :=
        if observation.fetchStatus = .failed then
          { recorded.channel with
            nextAudienceCaptureAt := some event.scheduledFor
            audienceCaptureLockedAt := none
            audienceCaptureLockOwner := none }
        else recorded.channel
      snapshots := recorded.snapshots
      result := ⟨some observation.fetchStatus, some recorded.snapshot.id, existing.isSome,
        observation.errorCode⟩ }

inductive AudienceCall where
  | received (event : SourceChannelAudienceCaptureRequestedEvent)
  | fetching (event : SourceChannelAudienceCaptureRequestedEvent)
  | refused (event : SourceChannelAudienceCaptureRequestedEvent) (errorCode : String)
  | fetched (event : SourceChannelAudienceCaptureRequestedEvent) (capturedAt : Time)
      (observation : SourceChannelAudienceObservation)

def AudienceCall.event : AudienceCall → SourceChannelAudienceCaptureRequestedEvent
  | received event | fetching event | refused event _ | fetched event .. => event

/-- One channel with its snapshots, and every request that was ever published for it. The
scheduler and the workers read clocks of their own. -/
structure AudienceState where
  channel : AudienceChannel
  snapshots : List SourceChannelAudienceSnapshot := []
  events : List SourceChannelAudienceCaptureRequestedEvent := []
  calls : Nat → Option AudienceCall := fun _ => none

inductive AudienceLabel where
  | operator (telegramSessionId : Option Uuid) (isActive isPaused engagementEnabled : Bool)
  | sweep (capturedNow : Time) (lockOwner : String)
  | deliver (callId : Nat) (event : SourceChannelAudienceCaptureRequestedEvent)
  | shortCircuit (callId : Nat)
  | fetch (callId : Nat) (now : Time) (outcome : Except CrawlerException (Option Int))
  | handleSessionError (callId : Nat)
  | record (callId : Nat) (snapshotId : Uuid)
  | refresh (refreshedAt capturedAt : Time) (snapshotId : Uuid)
      (observation : SourceChannelAudienceObservation)
  | stop (callId : Nat)

section Step

variable (leaseTimeout digest : Nat)

def audienceDue (channel : AudienceChannel) (capturedNow : Time) : Bool :=
  channel.platform = .telegram ∧ channel.isActive ∧ ¬ channel.isPaused ∧
    channel.engagementEnabled ∧ channel.nextAudienceCaptureAt.all (· ≤ capturedNow) ∧
    channel.audienceCaptureLockedAt.all (· + leaseTimeout ≤ capturedNow)

def claimDueChannel (channel : AudienceChannel) (telegramSessionId : Uuid) (capturedNow : Time)
    (lockOwner : String) : AudienceChannel × SourceChannelAudienceCaptureRequestedEvent :=
  let scheduledFor := channel.nextAudienceCaptureAt.getD capturedNow
  ({ channel with
      nextAudienceCaptureAt := some scheduledFor
      audienceCaptureLockedAt := some capturedNow
      audienceCaptureLockOwner := some lockOwner
      audienceCaptureAttemptCount := channel.audienceCaptureAttemptCount + 1 },
    ⟨channel.platform, channel.platformId, scheduledFor, dayOf scheduledFor, .scheduled,
      telegramSessionId⟩)

namespace AudienceState

variable (s : AudienceState) (callId : Nat)

def setCall (call : AudienceCall) : AudienceState :=
  { s with calls := Function.update s.calls callId (some call) }

def endCall : AudienceState := { s with calls := Function.update s.calls callId none }

end AudienceState

def fetchedAudienceCall (event : SourceChannelAudienceCaptureRequestedEvent) (now : Time) :
    Except CrawlerException (Option Int) → AudienceCall
  | .ok count =>
    match sourceChannelAudienceObservationFromCount count with
    | .ok observation => .fetched event now observation
    | .error errorCode => .fetched event now (failedObservation errorCode)
  | .error error =>
    match error with
    | .floodWait .. | .sessionBanned _ | .sessionAuthRequired _ => .refused event error.className
    | _ => .fetched event now (failedObservation error.className)

def audienceResult (s : AudienceState) : AudienceLabel →
    Option (SourceChannelAudienceCaptureRequestedEvent × SourceChannelAudienceCaptureResult)
  | .shortCircuit callId =>
    match s.calls callId with
    | some (.received event) =>
      (shortCircuitAudienceCapture s.channel s.snapshots event).2.map fun result => (event, result)
    | _ => none
  | .handleSessionError callId =>
    match s.calls callId with
    | some (.refused event errorCode) => some (event, ⟨none, none, false, some errorCode⟩)
    | _ => none
  | .record callId snapshotId =>
    match s.calls callId with
    | some (.fetched event capturedAt observation) =>
      some (event, (recordAudienceCapture digest s.channel s.snapshots event snapshotId capturedAt
        observation).result)
    | _ => none
  | _ => none

def audienceStep (s : AudienceState) : AudienceLabel → Option AudienceState
  | .operator telegramSessionId isActive isPaused engagementEnabled =>
    some
      { s with
        channel :=
          { s.channel with
            telegramSessionId := telegramSessionId
            isActive := isActive
            isPaused := isPaused
            engagementEnabled := engagementEnabled } }
  | .sweep capturedNow lockOwner =>
    if audienceDue leaseTimeout s.channel capturedNow then
      s.channel.telegramSessionId.map fun telegramSessionId =>
        let claimed := claimDueChannel s.channel telegramSessionId capturedNow lockOwner
        { s with channel := claimed.1, events := claimed.2 :: s.events }
    else none
  | .deliver callId event =>
    if s.calls callId = none ∧ event ∈ s.events then some (s.setCall callId (.received event))
    else none
  | .shortCircuit callId =>
    match s.calls callId with
    | some (.received event) =>
      match shortCircuitAudienceCapture s.channel s.snapshots event with
      | (channel, some _) => some { s.endCall callId with channel := channel }
      | (channel, none) => some { s.setCall callId (.fetching event) with channel := channel }
    | _ => none
  | .fetch callId now outcome =>
    match s.calls callId with
    | some (.fetching event) => some (s.setCall callId (fetchedAudienceCall event now outcome))
    | _ => none
  | .handleSessionError callId =>
    match s.calls callId with
    | some (.refused event _) =>
      some
        { s.endCall callId with
          channel :=
            if eventIsCurrentForChannel event s.channel then
              clearMatchingAudienceLease s.channel event
            else s.channel }
    | _ => none
  | .record callId snapshotId =>
    match s.calls callId with
    | some (.fetched event capturedAt observation) =>
      let captured := recordAudienceCapture digest s.channel s.snapshots event snapshotId
        capturedAt observation
      some { s.endCall callId with channel := captured.channel, snapshots := captured.snapshots }
    | _ => none
  | .refresh refreshedAt capturedAt snapshotId observation =>
    let recorded := recordSourceChannelAudienceObservation digest s.channel s.snapshots
      observation .crawlerRefresh none snapshotId capturedAt (dayOf refreshedAt) false
    some { s with channel := recorded.channel, snapshots := recorded.snapshots }
  | .stop callId => some (s.endCall callId)

end Step

def SameAudienceSlot (first second : SourceChannelAudienceSnapshot) : Prop :=
  first.captureSlot = second.captureSlot ∧ first.captureReason = second.captureReason

/-- What is recorded for the slot that is due fails, or was captured no day before the slot. -/
def audienceCapturedInTime (s : AudienceState) : AudienceLabel → Bool
  | .record callId _ =>
    match s.calls callId with
    | some (.fetched event capturedAt observation) =>
      s.channel.nextAudienceCaptureAt = some event.scheduledFor →
        observation.fetchStatus ≠ .failed → dayOf event.scheduledFor ≤ dayOf capturedAt
    | _ => true
  | _ => true

/-- Neither a flood wait nor another failure. -/
def AudienceLabel.endsWell (label : AudienceLabel)
    (result : SourceChannelAudienceCaptureResult) : Bool :=
  match label with
  | .handleSessionError _ => false
  | _ => result.fetchStatus ≠ some .failed

/-- A request is for the day of its moment, and finished days lie behind the next one. -/
structure DaysInOrder (s : AudienceState) : Prop where
  asked : ∀ event ∈ s.events, event.captureSlot = dayOf event.scheduledFor ∧
    event.captureReason = .scheduled
  calls : ∀ callId call, s.calls callId = some call → call.event ∈ s.events
  distinct : s.snapshots.Pairwise fun first second => ¬ SameAudienceSlot first second
  behind : ∀ snapshot ∈ s.snapshots, snapshot.captureReason = .scheduled →
    snapshot.fetchStatus ≠ .failed →
    ∃ next, s.channel.nextAudienceCaptureAt = some next ∧ snapshot.captureSlot < dayOf next

structure KeepsDays (s t : AudienceState) : Prop where
  order : DaysInOrder t
  immutable : ∀ snapshot ∈ s.snapshots, snapshot.fetchStatus ≠ .failed → snapshot ∈ t.snapshots
  notEarlier : ∀ next, s.channel.nextAudienceCaptureAt = some next →
    ∃ later, t.channel.nextAudienceCaptureAt = some later ∧ next ≤ later
  asked : ∀ event ∈ t.events, event ∈ s.events ∨
    ∀ next, s.channel.nextAudienceCaptureAt = some next → event.scheduledFor = next

section Step

variable {leaseTimeout digest : Nat} {s t : AudienceState} {label : AudienceLabel}
  {event : SourceChannelAudienceCaptureRequestedEvent} {snapshotId : Uuid} {capturedAt : Time}
  {observation : SourceChannelAudienceObservation}

theorem keepsDays_of_same (hs : DaysInOrder s)
    (hnext : t.channel.nextAudienceCaptureAt = s.channel.nextAudienceCaptureAt)
    (hsnapshots : t.snapshots = s.snapshots) (hevents : t.events = s.events)
    (hcalls : ∀ callId call, t.calls callId = some call → call.event ∈ s.events) :
    KeepsDays s t where
  order :=
    { asked := by
        rw [hevents]
        exact hs.asked
      calls := by
        rw [hevents]
        exact hcalls
      distinct := by
        rw [hsnapshots]
        exact hs.distinct
      behind := by
        rw [hsnapshots, hnext]
        exact hs.behind }
  immutable := by
    rw [hsnapshots]
    exact fun snapshot hmem _ => hmem
  notEarlier := fun next hdue => ⟨next, hnext.trans hdue, Nat.le_refl _⟩
  asked := by
    rw [hevents]
    exact fun event hevent => .inl hevent

theorem next_clearMatchingAudienceLease (channel : AudienceChannel)
    (event : SourceChannelAudienceCaptureRequestedEvent) :
    (clearMatchingAudienceLease channel event).nextAudienceCaptureAt =
      channel.nextAudienceCaptureAt := by
  unfold clearMatchingAudienceLease
  split <;> rfl

theorem next_shortCircuitAudienceCapture (channel : AudienceChannel)
    (snapshots : List SourceChannelAudienceSnapshot)
    (event : SourceChannelAudienceCaptureRequestedEvent) :
    (shortCircuitAudienceCapture channel snapshots event).1.nextAudienceCaptureAt =
      channel.nextAudienceCaptureAt := by
  unfold shortCircuitAudienceCapture
  split
  · split
    · split
      · rfl
      · exact next_clearMatchingAudienceLease channel event
    · rfl
  · rfl

variable {captureReason : SourceChannelAudienceCaptureReason} {captureSlot : Nat}
  {snapshot : SourceChannelAudienceSnapshot}

theorem audienceSnapshot_eq_some {snapshots : List SourceChannelAudienceSnapshot}
    (h : audienceSnapshot snapshots captureSlot captureReason = some snapshot) :
    snapshot ∈ snapshots ∧ snapshot.captureSlot = captureSlot ∧
      snapshot.captureReason = captureReason := by
  have hslot := List.find?_some h
  simp only [decide_eq_true_eq] at hslot
  exact ⟨List.mem_of_find?_eq_some h, hslot⟩

theorem DaysInOrder.audienceSnapshot_eq (hs : DaysInOrder s) (hmem : snapshot ∈ s.snapshots) :
    audienceSnapshot s.snapshots snapshot.captureSlot snapshot.captureReason = some snapshot := by
  cases hfound : audienceSnapshot s.snapshots snapshot.captureSlot snapshot.captureReason with
  | none =>
    have hnone := List.find?_eq_none.mp hfound snapshot hmem
    simp at hnone
  | some found =>
    obtain ⟨hfoundMem, hslot, hreason⟩ := audienceSnapshot_eq_some hfound
    have hsymm : Std.Symm fun first second => ¬ SameAudienceSlot first second :=
      ⟨fun _ _ hdistinct hsame => hdistinct ⟨hsame.1.symm, hsame.2.symm⟩⟩
    by_contra hne
    exact hs.distinct.forall hfoundMem hmem (fun heq => hne (congrArg some heq)) ⟨hslot, hreason⟩

theorem DaysInOrder.distinct_replace (hs : DaysInOrder s)
    (snapshot : SourceChannelAudienceSnapshot) :
    (s.snapshots.filter (fun other =>
        audienceSnapshot s.snapshots snapshot.captureSlot snapshot.captureReason ≠ some other) ++
      [snapshot]).Pairwise fun first second => ¬ SameAudienceSlot first second := by
  rw [List.pairwise_append]
  refine ⟨hs.distinct.filter _, List.pairwise_singleton _ _, ?_⟩
  intro other hother added hadded hsame
  cases List.mem_singleton.mp hadded
  obtain ⟨hmem, hkept⟩ := List.mem_filter.mp hother
  rw [decide_eq_true_eq, ← hsame.1, ← hsame.2] at hkept
  exact hkept (hs.audienceSnapshot_eq hmem)

theorem mem_replace_of_finished {snapshots added : List SourceChannelAudienceSnapshot}
    {existing : Option SourceChannelAudienceSnapshot}
    (hfailed : ∀ snapshot, existing = some snapshot → snapshot.fetchStatus = .failed)
    (hmem : snapshot ∈ snapshots)
    (hstatus : snapshot.fetchStatus ≠ .failed) :
    snapshot ∈ snapshots.filter (fun other => existing ≠ some other) ++ added := by
  refine List.mem_append_left _ (List.mem_filter.mpr ⟨hmem, ?_⟩)
  rw [decide_eq_true_eq]
  exact fun hexisting => hstatus (hfailed snapshot hexisting)

/-- A written observation keeps the order where the schedule it leaves is no earlier, and where a
finished scheduled day lies behind it. -/
theorem keepsDays_replace (hs : DaysInOrder s) (snapshot : SourceChannelAudienceSnapshot)
    {channel : AudienceChannel}
    (hfailed : ∀ old,
      audienceSnapshot s.snapshots snapshot.captureSlot snapshot.captureReason = some old →
      old.fetchStatus = .failed)
    (hnext : ∀ next, s.channel.nextAudienceCaptureAt = some next →
      ∃ later, channel.nextAudienceCaptureAt = some later ∧ next ≤ later)
    (hbehind : snapshot.captureReason = .scheduled → snapshot.fetchStatus ≠ .failed →
      ∃ next, channel.nextAudienceCaptureAt = some next ∧ snapshot.captureSlot < dayOf next) :
    KeepsDays s
      { s with
        channel := channel
        snapshots := s.snapshots.filter (fun other =>
          audienceSnapshot s.snapshots snapshot.captureSlot snapshot.captureReason ≠ some other) ++
            [snapshot] } where
  order :=
    { asked := hs.asked
      calls := hs.calls
      distinct := hs.distinct_replace snapshot
      behind := by
        intro old hold hreason hstatus
        rcases List.mem_append.mp hold with hkept | hadded
        · obtain ⟨next, hdue, hlt⟩ := hs.behind old (List.mem_filter.mp hkept).1 hreason hstatus
          obtain ⟨later, hlater, hle⟩ := hnext next hdue
          exact ⟨later, hlater, Nat.lt_of_lt_of_le hlt (Nat.div_le_div_right hle)⟩
        · cases List.mem_singleton.mp hadded
          exact hbehind hreason hstatus }
  immutable := fun old hold hstatus => mem_replace_of_finished hfailed hold hstatus
  notEarlier := hnext
  asked := fun event hevent => .inl hevent

theorem record_of_open {channel : AudienceChannel} {snapshots : List SourceChannelAudienceSnapshot}
    {telegramSessionId : Option Uuid} {advance : Bool}
    (hopen : ∀ old, audienceSnapshot snapshots captureSlot captureReason = some old →
      old.fetchStatus = .failed) :
    recordSourceChannelAudienceObservation digest channel snapshots observation captureReason
        telegramSessionId snapshotId capturedAt captureSlot advance =
      replaceSnapshot digest channel snapshots observation captureReason telegramSessionId
        snapshotId capturedAt captureSlot advance := by
  unfold recordSourceChannelAudienceObservation
  cases hfound : audienceSnapshot snapshots captureSlot captureReason with
  | none => rfl
  | some old => simp [hopen old hfound]

theorem record_of_finished {channel : AudienceChannel}
    {snapshots : List SourceChannelAudienceSnapshot} {telegramSessionId : Option Uuid}
    {old : SourceChannelAudienceSnapshot}
    (hfound : audienceSnapshot snapshots captureSlot captureReason = some old)
    (hstatus : old.fetchStatus ≠ .failed) :
    recordSourceChannelAudienceObservation digest channel snapshots observation captureReason
      telegramSessionId snapshotId capturedAt captureSlot false = ⟨channel, snapshots, old⟩ := by
  simp [recordSourceChannelAudienceObservation, hfound, hstatus]

def IsFinishedDay (snapshots : List SourceChannelAudienceSnapshot)
    (event : SourceChannelAudienceCaptureRequestedEvent) : Prop :=
  ∃ snapshot ∈ snapshots, snapshot.captureSlot = event.captureSlot ∧
    snapshot.captureReason = event.captureReason ∧ snapshot.fetchStatus ≠ .failed

theorem shortCircuit_of_current {channel : AudienceChannel}
    (snapshots : List SourceChannelAudienceSnapshot)
    (hcurrent : eventIsCurrentForChannel event channel = true) :
    (IsFinishedDay snapshots event ∧
        ∃ result, shortCircuitAudienceCapture channel snapshots event =
          (clearMatchingAudienceLease channel event, some result)) ∨
      (channel.nextAudienceCaptureAt = some event.scheduledFor ∧
        (∀ old, audienceSnapshot snapshots event.captureSlot event.captureReason = some old →
          old.fetchStatus = .failed) ∧
        shortCircuitAudienceCapture channel snapshots event = (channel, none)) := by
  unfold shortCircuitAudienceCapture
  rw [if_pos hcurrent]
  simp only [eventIsCurrentForChannel, decide_eq_true_eq] at hcurrent
  have hdue := hcurrent.2.2.2.2.2.2.2
  cases hfound : audienceSnapshot snapshots event.captureSlot event.captureReason with
  | none => exact .inr ⟨hdue, fun old hold => (Option.some_ne_none _ hold.symm).elim, rfl⟩
  | some snapshot =>
    by_cases hfailed : snapshot.fetchStatus = .failed
    · refine .inr ⟨hdue, ?_, by simp [hfailed]⟩
      intro old hold
      rw [← Option.some.inj hold]
      exact hfailed
    obtain ⟨hmem, hslot, hreason⟩ := audienceSnapshot_eq_some hfound
    refine .inl ⟨⟨snapshot, hmem, hslot, hreason, hfailed⟩, ?_⟩
    simp only [if_neg hfailed]
    exact ⟨_, rfl⟩

theorem shortCircuit_of_not_current {channel : AudienceChannel}
    (snapshots : List SourceChannelAudienceSnapshot)
    (hcurrent : eventIsCurrentForChannel event channel ≠ true) :
    ∃ result, shortCircuitAudienceCapture channel snapshots event = (channel, some result) := by
  unfold shortCircuitAudienceCapture
  rw [if_neg hcurrent]
  exact ⟨_, rfl⟩

section Recorded

variable (hopen : shortCircuitAudienceCapture s.channel s.snapshots event = (s.channel, none))
  (hfailed : ∀ old, audienceSnapshot s.snapshots event.captureSlot event.captureReason = some old →
    old.fetchStatus = .failed)

include hopen hfailed

theorem next_of_recorded :
    (recordAudienceCapture digest s.channel s.snapshots event snapshotId capturedAt
        observation).channel.nextAudienceCaptureAt =
      if observation.fetchStatus = .failed then some event.scheduledFor
      else some (nextDailySourceChannelAudienceCaptureAt digest capturedAt) := by
  simp only [recordAudienceCapture, hopen, record_of_open hfailed, replaceSnapshot]
  split
  · rfl
  · next hstatus => simp [hstatus, advanceDailySchedule]

theorem snapshots_of_recorded :
    ∃ snapshot : SourceChannelAudienceSnapshot, snapshot.captureSlot = event.captureSlot ∧
      snapshot.captureReason = event.captureReason ∧
      snapshot.fetchStatus = observation.fetchStatus ∧
      (recordAudienceCapture digest s.channel s.snapshots event snapshotId capturedAt
          observation).snapshots =
        s.snapshots.filter (fun other =>
          audienceSnapshot s.snapshots event.captureSlot event.captureReason ≠ some other) ++
            [snapshot] := by
  simp only [recordAudienceCapture, hopen, record_of_open hfailed, replaceSnapshot]
  exact ⟨_, rfl, rfl, rfl, rfl⟩

end Recorded

theorem day_lt_nextDaily {slot : Time} (hpast : dayOf slot ≤ dayOf capturedAt) :
    dayOf slot < dayOf (nextDailySourceChannelAudienceCaptureAt digest capturedAt) := by
  rw [dayOf_nextDaily]
  exact Nat.lt_succ_of_le hpast

theorem keepsDays_record (hs : DaysInOrder s) (hevent : event ∈ s.events)
    (hpast : s.channel.nextAudienceCaptureAt = some event.scheduledFor →
      observation.fetchStatus ≠ .failed → dayOf event.scheduledFor ≤ dayOf capturedAt) :
    KeepsDays s
      { s with
        channel := (recordAudienceCapture digest s.channel s.snapshots event snapshotId capturedAt
          observation).channel
        snapshots := (recordAudienceCapture digest s.channel s.snapshots event snapshotId
          capturedAt observation).snapshots } := by
  by_cases hcurrent : eventIsCurrentForChannel event s.channel = true
  case neg =>
    obtain ⟨result, hrefused⟩ := shortCircuit_of_not_current s.snapshots hcurrent
    simp only [recordAudienceCapture, hrefused]
    exact keepsDays_of_same hs rfl rfl rfl hs.calls
  rcases shortCircuit_of_current s.snapshots hcurrent with
    ⟨-, result, hfinished⟩ | ⟨hdue, hfailed, hopen⟩
  · simp only [recordAudienceCapture, hfinished]
    exact keepsDays_of_same hs (next_clearMatchingAudienceLease _ _) rfl rfl hs.calls
  obtain ⟨hslot, -⟩ := hs.asked event hevent
  obtain ⟨snapshot, hsnapshotSlot, hsnapshotReason, hstatus, hsnapshots⟩ :=
    snapshots_of_recorded hopen hfailed
  rw [hsnapshots, ← hsnapshotSlot, ← hsnapshotReason]
  rw [← hsnapshotSlot, ← hsnapshotReason] at hfailed
  refine keepsDays_replace hs snapshot hfailed ?_ ?_
  · intro next hnext
    rw [hdue] at hnext
    cases hnext
    rw [hsnapshotSlot, hsnapshotReason] at hfailed
    rw [next_of_recorded hopen hfailed]
    split
    · exact ⟨_, rfl, Nat.le_refl _⟩
    · next hstatus =>
      exact ⟨_, rfl, Nat.le_of_lt (lt_of_dayOf_lt (day_lt_nextDaily (hpast hdue hstatus)))⟩
  intro _ hfinished
  rw [hsnapshotSlot, hsnapshotReason] at hfailed
  rw [hstatus] at hfinished
  rw [next_of_recorded hopen hfailed, if_neg hfinished, hsnapshotSlot, hslot]
  exact ⟨_, rfl, day_lt_nextDaily (hpast hdue hfinished)⟩

theorem keepsDays_refresh (hs : DaysInOrder s) (captureSlot : Nat) :
    KeepsDays s
      { s with
        channel := (recordSourceChannelAudienceObservation digest s.channel s.snapshots observation
          .crawlerRefresh none snapshotId capturedAt captureSlot false).channel
        snapshots := (recordSourceChannelAudienceObservation digest s.channel s.snapshots
          observation .crawlerRefresh none snapshotId capturedAt captureSlot false).snapshots } := by
  by_cases hfinished : ∃ old,
      audienceSnapshot s.snapshots captureSlot .crawlerRefresh = some old ∧
        old.fetchStatus ≠ .failed
  · obtain ⟨old, hfound, hstatus⟩ := hfinished
    rw [record_of_finished hfound hstatus]
    exact keepsDays_of_same hs rfl rfl rfl hs.calls
  have hfailed : ∀ old, audienceSnapshot s.snapshots captureSlot .crawlerRefresh = some old →
      old.fetchStatus = .failed := by
    intro old hfound
    by_contra hstatus
    exact hfinished ⟨old, hfound, hstatus⟩
  rw [record_of_open hfailed]
  refine keepsDays_replace hs (replaceSnapshot digest s.channel s.snapshots observation
    .crawlerRefresh none snapshotId capturedAt captureSlot false).snapshot hfailed ?_ ?_
  · exact fun next hnext => ⟨next, hnext, Nat.le_refl _⟩
  · intro hreason
    cases hreason

theorem KeepsDays.setCalls {u : AudienceState} (h : KeepsDays s t)
    (hchannel : u.channel = t.channel) (hsnapshots : u.snapshots = t.snapshots)
    (hevents : u.events = t.events)
    (hcalls : ∀ callId call, u.calls callId = some call → call.event ∈ t.events) :
    KeepsDays s u where
  order :=
    { asked := by
        rw [hevents]
        exact h.order.asked
      calls := by
        rw [hevents]
        exact hcalls
      distinct := by
        rw [hsnapshots]
        exact h.order.distinct
      behind := by
        rw [hsnapshots, hchannel]
        exact h.order.behind }
  immutable := by
    rw [hsnapshots]
    exact h.immutable
  notEarlier := by
    rw [hchannel]
    exact h.notEarlier
  asked := by
    rw [hevents]
    exact h.asked

theorem keepsDays_sweep (hs : DaysInOrder s) {telegramSessionId : Uuid} {capturedNow : Time}
    {lockOwner : String} :
    KeepsDays s
      { s with
        channel := (claimDueChannel s.channel telegramSessionId capturedNow lockOwner).1
        events :=
          (claimDueChannel s.channel telegramSessionId capturedNow lockOwner).2 :: s.events } := by
  have hkept : ∀ next, s.channel.nextAudienceCaptureAt = some next →
      s.channel.nextAudienceCaptureAt.getD capturedNow = next := by
    intro next hnext
    rw [hnext, Option.getD_some]
  refine ⟨⟨?_, ?_, hs.distinct, ?_⟩, fun _ hmem _ => hmem, ?_, ?_⟩
  · intro event hevent
    rcases List.mem_cons.mp hevent with rfl | hold
    · exact ⟨rfl, rfl⟩
    · exact hs.asked event hold
  · exact fun callId call hcall => List.mem_cons_of_mem _ (hs.calls callId call hcall)
  · intro snapshot hmem hreason hstatus
    obtain ⟨next, hnext, hlt⟩ := hs.behind snapshot hmem hreason hstatus
    exact ⟨next, congrArg some (hkept next hnext), hlt⟩
  · intro next hnext
    exact ⟨next, congrArg some (hkept next hnext), Nat.le_refl _⟩
  · intro event hevent
    rcases List.mem_cons.mp hevent with rfl | hold
    · exact .inr hkept
    · exact .inl hold

theorem keepsDays_step (hs : DaysInOrder s) (htime : audienceCapturedInTime s label = true)
    (h : audienceStep leaseTimeout digest s label = some t) : KeepsDays s t := by
  cases label with
  | operator telegramSessionId isActive isPaused engagementEnabled =>
    cases h
    exact keepsDays_of_same hs rfl rfl rfl hs.calls
  | sweep capturedNow lockOwner =>
    obtain ⟨-, ht⟩ := Option.ite_none_right_eq_some.mp h
    obtain ⟨telegramSessionId, -, rfl⟩ := Option.map_eq_some_iff.mp ht
    exact keepsDays_sweep hs
  | deliver callId event =>
    obtain ⟨⟨-, hevent⟩, ht⟩ := Option.ite_none_right_eq_some.mp h
    cases ht
    exact keepsDays_of_same hs rfl rfl rfl
      (Calls.forall_update_some hs.calls hevent)
  | shortCircuit callId =>
    simp only [audienceStep] at h
    split at h
    · next event hcall =>
      have hevent : event ∈ s.events := hs.calls callId _ hcall
      have hnext := next_shortCircuitAudienceCapture s.channel s.snapshots event
      split at h
      · next channel result hresult =>
        rw [hresult] at hnext
        cases h
        exact keepsDays_of_same hs hnext rfl rfl
          (Calls.forall_update_none hs.calls)
      next channel hresult =>
      rw [hresult] at hnext
      cases h
      exact keepsDays_of_same hs hnext rfl rfl
        (Calls.forall_update_some hs.calls hevent)
    · cases h
  | fetch callId now outcome =>
    simp only [audienceStep] at h
    split at h
    · next event hcall =>
      cases h
      have hevent : event ∈ s.events := hs.calls callId _ hcall
      refine keepsDays_of_same hs rfl rfl rfl (Calls.forall_update_some hs.calls ?_)
      unfold fetchedAudienceCall
      split
      · split <;> exact hevent
      · split <;> exact hevent
    · cases h
  | handleSessionError callId =>
    simp only [audienceStep] at h
    split at h
    · next event errorCode hcall =>
      cases h
      refine keepsDays_of_same hs ?_ rfl rfl (Calls.forall_update_none hs.calls)
      dsimp only
      split
      · exact next_clearMatchingAudienceLease s.channel event
      · rfl
    · cases h
  | record callId snapshotId =>
    simp only [audienceStep] at h
    split at h
    · next event capturedAt observation hcall =>
      cases h
      simp only [audienceCapturedInTime, hcall, decide_eq_true_eq] at htime
      exact (keepsDays_record hs (hs.calls callId _ hcall) htime).setCalls rfl rfl rfl
        (Calls.forall_update_none hs.calls)
    · cases h
  | refresh refreshedAt capturedAt snapshotId observation =>
    cases h
    exact keepsDays_refresh hs (dayOf refreshedAt)
  | stop callId =>
    cases h
    exact keepsDays_of_same hs rfl rfl rfl (Calls.forall_update_none hs.calls)

end Step

abbrev AudienceTransition := Transition AudienceState AudienceLabel

structure KeepsAudienceSchedule (leaseTimeout digest : Nat) (x : AudienceTransition) : Prop where
  distinct : x.after.snapshots.Pairwise fun first second => ¬ SameAudienceSlot first second
  immutable : ∀ snapshot ∈ x.before.snapshots, snapshot.fetchStatus ≠ .failed →
    snapshot ∈ x.after.snapshots
  notEarlier : ∀ next, x.before.channel.nextAudienceCaptureAt = some next →
    ∃ later, x.after.channel.nextAudienceCaptureAt = some later ∧ next ≤ later
  advanced : ∀ event result, audienceResult digest x.before x.label = some (event, result) →
    x.label.endsWell result = true → eventIsCurrentForChannel event x.before.channel = true →
    ∃ later, x.after.channel.nextAudienceCaptureAt = some later ∧ event.scheduledFor < later
  notAskedAgain : ∀ event result, audienceResult digest x.before x.label = some (event, result) →
    x.label.endsWell result = true → eventIsCurrentForChannel event x.before.channel = true →
    ∀ labels, (∀ y ∈ transitions (audienceStep leaseTimeout digest) x.after labels,
        audienceCapturedInTime y.before y.label = true) →
      ∀ asked ∈ (final (audienceStep leaseTimeout digest) x.after labels).events,
        asked.scheduledFor = event.scheduledFor → asked ∈ x.after.events

/-- A channel as it is added, without a scheduled snapshot. -/
structure InitialAudience (s : AudienceState) : Prop where
  distinct : s.snapshots.Pairwise fun first second => ¬ SameAudienceSlot first second
  unscheduled : ∀ snapshot ∈ s.snapshots, snapshot.captureReason ≠ .scheduled
  unasked : s.events = []
  idle : ∀ callId, s.calls callId = none

section Run

variable {leaseTimeout digest : Nat} {s t : AudienceState} {label : AudienceLabel}

theorem daysInOrder_of_initial (hs : InitialAudience s) : DaysInOrder s where
  asked := by
    rw [hs.unasked]
    intro event hevent
    cases hevent
  calls := by
    intro callId call hcall
    rw [hs.idle callId] at hcall
    cases hcall
  distinct := hs.distinct
  behind := fun snapshot hmem hreason => (hs.unscheduled snapshot hmem hreason).elim

theorem DaysInOrder.not_current_of_finished (hs : DaysInOrder s)
    {event : SourceChannelAudienceCaptureRequestedEvent} (hevent : event ∈ s.events)
    (hfinished : IsFinishedDay s.snapshots event) :
    eventIsCurrentForChannel event s.channel ≠ true := by
  obtain ⟨snapshot, hmem, hslot, hreason, hstatus⟩ := hfinished
  obtain ⟨heventSlot, heventReason⟩ := hs.asked event hevent
  obtain ⟨next, hnext, hlt⟩ := hs.behind snapshot hmem (hreason.trans heventReason) hstatus
  intro hcurrent
  simp only [eventIsCurrentForChannel, decide_eq_true_eq, hnext] at hcurrent
  cases hcurrent.2.2.2.2.2.2.2
  rw [hslot, heventSlot] at hlt
  exact Nat.lt_irrefl _ hlt

theorem audience_advanced (hs : DaysInOrder s) (htime : audienceCapturedInTime s label = true)
    (h : audienceStep leaseTimeout digest s label = some t)
    {event : SourceChannelAudienceCaptureRequestedEvent}
    {result : SourceChannelAudienceCaptureResult}
    (hresult : audienceResult digest s label = some (event, result))
    (hwell : label.endsWell result = true)
    (hcurrent : eventIsCurrentForChannel event s.channel = true) :
    ∃ later, t.channel.nextAudienceCaptureAt = some later ∧ event.scheduledFor < later := by
  cases label with
  | shortCircuit callId =>
    simp only [audienceResult] at hresult
    split at hresult
    · next found hcall =>
      obtain ⟨ended, hended, heq⟩ := Option.map_eq_some_iff.mp hresult
      have hevent : found ∈ s.events := hs.calls callId _ hcall
      cases heq
      rcases shortCircuit_of_current s.snapshots hcurrent with
        ⟨hfinished, -⟩ | ⟨hdue, -, hopen⟩
      · exact (hs.not_current_of_finished hevent hfinished hcurrent).elim
      · rw [hopen] at hended
        cases hended
    · cases hresult
  | handleSessionError callId => cases hwell
  | record callId snapshotId =>
    simp only [audienceResult] at hresult
    simp only [audienceStep] at h
    split at hresult
    · next found capturedAt observation hcall =>
      simp only [hcall] at h
      simp only [audienceCapturedInTime, hcall, decide_eq_true_eq] at htime
      cases h
      cases hresult
      rcases shortCircuit_of_current s.snapshots hcurrent with
        ⟨hfinished, -⟩ | ⟨hdue, hfailed, hopen⟩
      · exact (hs.not_current_of_finished (hs.calls callId _ hcall) hfinished hcurrent).elim
      have hstatus : observation.fetchStatus ≠ .failed := by
        intro hstatus
        simp [recordAudienceCapture, hopen, AudienceLabel.endsWell, hstatus] at hwell
      dsimp only
      rw [next_of_recorded hopen hfailed, if_neg hstatus]
      exact ⟨_, rfl, lt_of_dayOf_lt (day_lt_nextDaily (htime hdue hstatus))⟩
    · cases hresult
  | _ => cases hresult

/-- The moment lies behind, and its requests are those of `published`. -/
structure MomentPassed (moment : Time)
    (published : List SourceChannelAudienceCaptureRequestedEvent) (s : AudienceState) : Prop where
  order : DaysInOrder s
  passed : ∃ next, s.channel.nextAudienceCaptureAt = some next ∧ moment < next
  asked : ∀ event ∈ s.events, event.scheduledFor = moment → event ∈ published

theorem momentPassed_step {moment : Time}
    {published : List SourceChannelAudienceCaptureRequestedEvent}
    (hs : MomentPassed moment published s) (htime : audienceCapturedInTime s label = true)
    (h : audienceStep leaseTimeout digest s label = some t) : MomentPassed moment published t := by
  obtain ⟨next, hnext, hlt⟩ := hs.passed
  obtain ⟨horder, -, hnotEarlier, hasked⟩ := keepsDays_step hs.order htime h
  obtain ⟨later, hlater, hle⟩ := hnotEarlier next hnext
  refine ⟨horder, ⟨later, hlater, Nat.lt_of_lt_of_le hlt hle⟩, ?_⟩
  intro event hevent hmoment
  rcases hasked event hevent with hold | hnew
  · exact hs.asked event hold hmoment
  · rw [hnew next hnext] at hmoment
    exact (Nat.ne_of_gt hlt hmoment).elim

theorem audience_schedule_kept (hs : InitialAudience s) (labels : List AudienceLabel)
    (htime : ∀ x ∈ transitions (audienceStep leaseTimeout digest) s labels,
      audienceCapturedInTime x.before x.label = true) :
    ∀ x ∈ transitions (audienceStep leaseTimeout digest) s labels,
      KeepsAudienceSchedule leaseTimeout digest x := by
  intro x hx
  have hbefore : DaysInOrder x.before :=
    invariant_before (daysInOrder_of_initial hs)
      (fun y hy hy' => (keepsDays_step hy' (htime y hy) (step_of_mem_transitions hy)).order) hx
  have hstep := step_of_mem_transitions hx
  obtain ⟨hafter, himmutable, hnotEarlier, -⟩ := keepsDays_step hbefore (htime x hx) hstep
  refine ⟨hafter.distinct, himmutable, hnotEarlier,
    fun event result => audience_advanced hbefore (htime x hx) hstep, ?_⟩
  intro event result hresult hwell hcurrent labels hlater
  have hmoved := audience_advanced hbefore (htime x hx) hstep hresult hwell hcurrent
  have hpassed : MomentPassed event.scheduledFor x.after.events
      (final (audienceStep leaseTimeout digest) x.after labels) :=
    invariant_final ⟨hafter, hmoved, fun _ hasked _ => hasked⟩
      fun y hy hy' => momentPassed_step hy' (hlater y hy) (step_of_mem_transitions hy)
  exact hpassed.asked

end Run

/-- Both capture services keep one snapshot a slot, the finished ones as they are, and a schedule
that moves on past every slot that was captured, as long as no slot is captured before it came. -/
theorem scheduled_captures_move_on (leaseTimeout audienceLeaseTimeout digest : Nat) :
    (∀ source, InitialEngagement source → ∀ labels,
      (∀ x ∈ transitions (engagementStep leaseTimeout) source labels,
        capturedInTime x.before x.label = true) →
      ∀ x ∈ transitions (engagementStep leaseTimeout) source labels,
        KeepsEngagementSchedule leaseTimeout x) ∧
      ∀ channel, InitialAudience channel → ∀ labels,
        (∀ x ∈ transitions (audienceStep audienceLeaseTimeout digest) channel labels,
          audienceCapturedInTime x.before x.label = true) →
        ∀ x ∈ transitions (audienceStep audienceLeaseTimeout digest) channel labels,
          KeepsAudienceSchedule audienceLeaseTimeout digest x :=
  ⟨fun _ hsource labels => engagement_schedule_kept hsource labels,
    fun _ hchannel labels => audience_schedule_kept hchannel labels⟩

section Runs

def ingestedPost : EngagementState where
  source :=
    { sourceId := "channel", postId := "7", publishedAt := some 0
      nextEngagementCheckAt := some 3600000000 }

def hourlyCapture : SourceEngagementCaptureRequestedEvent :=
  ⟨.telegram, "channel", "7", 3600000000, .plus1H⟩

def capturedTwice : List EngagementLabel :=
  [.sweep 4000000000 "scheduler", .deliver 0 hourlyCapture, .deliver 1 hourlyCapture,
    .shortCircuit 0, .shortCircuit 1, .fetch 0 4001000000 (.ok {}),
    .fetch 1 4002000000 (.error (.malformedMessage "")), .record 0 11, .record 1 12]

theorem ingestedPost_initial : InitialEngagement ingestedPost where
  unscheduled := by
    intro snapshot hmem
    cases hmem
  unasked := rfl
  idle := fun _ => rfl

example : (final (engagementStep 60000000) ingestedPost
    capturedTwice).source.nextEngagementCheckAt = some 10800000000 := by
  decide +kernel

def dueChannel : AudienceState where
  channel :=
    { platformId := "channel", telegramSessionId := some 1
      nextAudienceCaptureAt := some 86400000000 }

def dailyCapture : SourceChannelAudienceCaptureRequestedEvent :=
  ⟨.telegram, "channel", 86400000000, 1, .scheduled, 1⟩

def countedTwice : List AudienceLabel :=
  [.sweep 86500000000 "scheduler", .deliver 0 dailyCapture, .deliver 1 dailyCapture,
    .shortCircuit 0, .shortCircuit 1, .fetch 0 86501000000 (.ok (some 10)),
    .fetch 1 86502000000 (.ok none), .record 0 21, .record 1 22]

theorem dueChannel_initial : InitialAudience dueChannel where
  distinct := List.Pairwise.nil
  unscheduled := by
    intro snapshot hmem
    cases hmem
  unasked := rfl
  idle := fun _ => rfl

theorem scheduled_captures_move_on_twice :
    (∀ x ∈ transitions (engagementStep 60000000) ingestedPost capturedTwice,
      KeepsEngagementSchedule 60000000 x) ∧
      ∀ x ∈ transitions (audienceStep 60000000 7) dueChannel countedTwice,
        KeepsAudienceSchedule 60000000 7 x := by
  have hkept := scheduled_captures_move_on 60000000 60000000 7
  exact ⟨hkept.1 ingestedPost ingestedPost_initial capturedTwice (by decide +kernel),
    hkept.2 dueChannel dueChannel_initial countedTwice (by decide +kernel)⟩

/-- The clock of the worker is a second behind that of the scheduler. -/
def capturedBeforeSlot : List EngagementLabel :=
  [.sweep 3600000000 "scheduler", .deliver 0 hourlyCapture, .shortCircuit 0,
    .fetch 0 3599000000 (.ok {}), .record 0 11, .sweep 3601000000 "scheduler",
    .deliver 1 hourlyCapture, .shortCircuit 1]

theorem captured_before_slot_stays :
    ¬ ∀ x ∈ transitions (engagementStep 60000000) ingestedPost capturedBeforeSlot,
      KeepsEngagementSchedule 60000000 x := by
  intro hkept
  have hstays : ∃ x ∈ transitions (engagementStep 60000000) ingestedPost capturedBeforeSlot,
      (engagementResult x.before x.label).any (fun ended =>
        ended.1 = hourlyCapture ∧ ended.2.duplicate ∧ x.label.endsWell ended.2) = true ∧
      x.before.source.nextEngagementCheckAt = some hourlyCapture.scheduledFor ∧
      x.after.source.nextEngagementCheckAt = some hourlyCapture.scheduledFor := by
    decide +kernel
  obtain ⟨x, hx, hended, hdue, hsame⟩ := hstays
  rw [Option.any_eq_true] at hended
  obtain ⟨⟨event, result⟩, hresult, hended⟩ := hended
  obtain ⟨rfl, -, hwell⟩ := of_decide_eq_true hended
  obtain ⟨later, hlater, hlt⟩ := (hkept x hx).advanced hourlyCapture result hresult hwell hdue
  rw [hsame] at hlater
  cases hlater
  exact Nat.lt_irrefl _ hlt

end Runs

end Services

end MemeExpert
