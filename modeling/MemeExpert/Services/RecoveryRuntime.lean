import MemeExpert.Pipeline.Replay

/-! What the recovery loop does to one stage row and to one recovery item. -/

namespace MemeExpert.Services

open Pipeline Messaging

def reclaimedEntry (entry : PipelineStageJournal) (now : Time) : PipelineStageJournal :=
  { entry with
    status := .failed
    normalizedReason := some "stale_stage_reclaimed"
    lastErrorText :=
      some "The automatic reconciler recovered a stage whose worker lease made no progress."
    isRetryable := true
    retryAfter := none
    finishedAt := some now }

/-- `_reclaim_next_stuck_stage` on the row it selected and locked. A row at the broker's attempt
limit is only failed; otherwise its replay is reserved in the same transaction. -/
def reclaimStuckStage (settings : PipelineSettings) (store : StageStore)
    (stage : ContentPipelineStage) (entry : PipelineStageJournal) (item : Option RecoveryJobItem)
    (eventId : Uuid) (now : Time) :
    Except PipelineError (StageStore × Option ContentPipelineReplayAccepted) :=
  let failed := store.setEntry stage (reclaimedEntry entry now)
  if settings.brokerRetryMaxAttempts ≤ entry.attemptCount then .ok (failed, none)
  else (replayItem failed (some stage) item eventId now).map fun result => (result.1, some result.2)

theorem reclaimStuckStage_spec {settings : PipelineSettings} {store result : StageStore}
    {stage : ContentPipelineStage} {entry : PipelineStageJournal} {item : Option RecoveryJobItem}
    {eventId : Uuid} {now : Time} {accepted : Option ContentPipelineReplayAccepted}
    (hstage : entry.stage = stage)
    (h : reclaimStuckStage settings store stage entry item eventId now = .ok (result, accepted)) :
    (accepted = none ∧ result.journal stage = some (reclaimedEntry entry now)) ∨
      ∃ replay, accepted = some replay ∧ replay.replayEventId = eventId ∧
        replay.attempt = nextAttempt entry ∧
        result.journal stage =
          some (reserveReplay (reclaimedEntry entry now) eventId (nextAttempt entry)) := by
  have hfailed : isRetryableFailure (reclaimedEntry entry now) = true := by
    simp [isRetryableFailure, reclaimedEntry]
  simp only [reclaimStuckStage] at h
  split at h
  · cases h
    exact .inl ⟨rfl, StageStore.journal_setEntry ..⟩
  rw [replayItem_of_failed item eventId now
    (StageStore.journal_setEntry store stage (reclaimedEntry entry now)) hfailed] at h
  split at h
  · cases h
  cases h
  subst hstage
  exact .inr ⟨_, rfl, rfl, rfl, journal_reserveStage ..⟩

def restoreStageSnapshot (entry : PipelineStageJournal) (state : PreviousStageState) :
    Option PipelineStageJournal :=
  state.stageSnapshot.map fun snapshot =>
    { entry with
      status := snapshot.status
      attemptCount := snapshot.attemptCount
      lastEventId := snapshot.lastEventId
      normalizedReason := snapshot.normalizedReason
      lastErrorText := snapshot.lastErrorText
      isRetryable := snapshot.isRetryable
      retryAfter := snapshot.retryAfter
      startedAt := snapshot.startedAt
      finishedAt := snapshot.finishedAt }

def releasedEntry (entry : PipelineStageJournal) (state : PreviousStageState)
    (outboxError : Option String) (now : Time) : PipelineStageJournal :=
  (restoreStageSnapshot entry state).getD
    { entry with
      status := .failed
      normalizedReason := some "outbox_publish_failed"
      lastErrorText := outboxError
      isRetryable := true
      retryAfter := none
      startedAt := none
      finishedAt := some now }

def terminalItemStatuses : List RecoveryJobItemStatus :=
  [.succeeded, .failed, .skippedStale, .skippedDependency, .cancelled]

def successfulItemStatuses : List RecoveryJobItemStatus := [.succeeded, .cancelled]

def activeItemStatuses : List RecoveryJobItemStatus :=
  [.queued, .waitingDependency, .waitingCapacity, .dispatched]

/-- `reason[:128] if reason else None`. -/
def capReason (reason : Option String) : Option String :=
  (reason.filter (· ≠ "")).map fun text => String.ofList (text.toList.take 128)

def finishItem (item : RecoveryJobItem) (status : RecoveryJobItemStatus) (reason error : Option String)
    (now : Time) : RecoveryJobItem :=
  { item with
    status := status
    normalizedReason := capReason reason
    safeErrorText := error
    finishedAt := some now
    reservationActive := false }

def waitForCapacity (item : RecoveryJobItem) (reason error : String) : RecoveryJobItem :=
  { item with
    status := .waitingCapacity
    normalizedReason := some reason
    safeErrorText := some error }

def dispatchNonStage (item : RecoveryJobItem) (attemptBudgetStart : Nat) (now : Time) :
    RecoveryJobItem :=
  { item with
    attemptBudgetStart := some attemptBudgetStart
    previousStageState :=
      { item.previousStageState with
        nonStageBudgetConsumedAtDispatch := some item.retryableFailuresConsumed }
    status := .dispatched
    dispatchedAt := some now
    normalizedReason := none
    safeErrorText := none }

def reinspectIngest (item : RecoveryJobItem) (eventId : Uuid) (now : Time) : RecoveryJobItem :=
  { dispatchNonStage item 1 now with dispatchEventId := some eventId }

def rebuildOutbox (item : RecoveryJobItem) (outbox : RabbitMQOutboxMessage) (now : Time) :
    RecoveryJobItem :=
  { dispatchNonStage item (item.attemptBudgetStart.getD (max (outbox.attemptCount + 1) 1)) now with
    dispatchEventId := some outbox.messageId
    finishedAt := none }

/-- `_queue_backfill` and `_replay_source_post`, with the attempts of the job or the post. -/
def dispatchTelegram (item : RecoveryJobItem) (attemptCount : Nat) (now : Time) : RecoveryJobItem :=
  dispatchNonStage item (item.attemptBudgetStart.getD (max (attemptCount + 1) 1)) now

/-- `_ensure_planned_stage_row` names the row that it found or created. -/
def nameStageRow (item : RecoveryJobItem) (rowId : Uuid) : RecoveryJobItem :=
  match item.workId with
  | .row _ => item
  | .planned .. => { item with workKind := .pipelineStage, workId := .row rowId }

def relinkedItem (item : RecoveryJobItem) (eventId : Uuid) (now : Time) : RecoveryJobItem :=
  { item with dispatchEventId := some eventId, dispatchedAt := some now }

def observeOutboxRetryBudget (item : RecoveryJobItem) (outbox : RabbitMQOutboxMessage) :
    RecoveryJobItem :=
  if item.stage.isSome then
    observeRecoveryStagePublicationOutcome item outbox
  else
    let based : RecoveryJobItem :=
      match item.previousStageState.nonStageBudgetConsumedAtDispatch with
      | some _ =>
        { item with
          attemptBudgetStart := item.attemptBudgetStart <|> some (max outbox.attemptCount 1) }
      | none => item
    let start := match item.previousStageState.nonStageBudgetConsumedAtDispatch with
      | some _ => based.attemptBudgetStart.getD 1
      | none => 1
    let base := item.previousStageState.nonStageBudgetConsumedAtDispatch.getD 0
    match outbox.status with
    | .failed =>
      { based with
        retryableFailuresConsumed :=
          max item.retryableFailuresConsumed (base + (outbox.attemptCount + 1 - start)) }
    | .published =>
      { based with
        retryableFailuresConsumed :=
          max item.retryableFailuresConsumed (base + (outbox.attemptCount - start)) }
    | .pending | .publishing => based

/-- The canonical work as a second look finds it: its version, or the reason it is gone. -/
inductive WorkLookup where
  | found (version : RecoveryVersion)
  | missing (error : String)

def schedulingJobStatuses : List RecoveryJobStatus := [.queued, .running]

def requeueAsyncFailure (item : RecoveryJobItem) (jobStatus : Option RecoveryJobStatus)
    (work : WorkLookup) (reason error : Option String) (retryable consumeFailure : Bool)
    (now : Time) : RecoveryJobItem :=
  match work with
  | .missing cause => finishItem item .skippedStale (some "canonical_state_changed") (some cause) now
  | .found version =>
    let counted : RecoveryJobItem :=
      { item with
        retryableFailuresConsumed :=
          if retryable && consumeFailure && decide (item.canonicalVersion ≠ some version) then
            item.retryableFailuresConsumed + 1
          else item.retryableFailuresConsumed
        canonicalVersion := some version }
    if retryable && decide (counted.retryableFailuresConsumed < (item.retryLimit : Nat)) &&
        jobStatus.any fun status => decide (status ∈ schedulingJobStatuses) then
      { counted with
        status := .queued
        expectedVersion := version
        dispatchEventId := none
        dispatchedAt := none
        finishedAt := none
        attemptBudgetStart := none
        normalizedReason := capReason reason
        safeErrorText := error }
    else finishItem counted .failed reason error now

/-- `_record_dispatch_failure` on an item that is not terminal. -/
def recordDispatchFailure (item : RecoveryJobItem) (jobStatus : RecoveryJobStatus)
    (work : WorkLookup) (reason error : String) (retryable : Bool) (now : Time) : RecoveryJobItem :=
  let counted : RecoveryJobItem :=
    { item with
      retryableFailuresConsumed :=
        if retryable then item.retryableFailuresConsumed + 1 else item.retryableFailuresConsumed }
  if retryable && decide (counted.retryableFailuresConsumed < (item.retryLimit : Nat)) &&
      decide (jobStatus ∈ schedulingJobStatuses) then
    match work with
    | .missing cause =>
      finishItem counted .skippedStale (some "canonical_state_changed") (some cause) now
    | .found version =>
      { counted with
        status := .queued
        expectedVersion := version
        canonicalVersion := some version
        dispatchEventId := none
        dispatchedAt := none
        finishedAt := none
        normalizedReason := capReason (some reason)
        safeErrorText := some error }
  else finishItem counted .failed (some reason) (some error) now

def jobCounts (statuses : List RecoveryJobItemStatus) : RecoveryJobCounts where
  completedCount := statuses.countP (· ∈ terminalItemStatuses)
  failedCount := statuses.count .failed
  queuedCount := statuses.count .queued
  waitingCount := statuses.count .waitingDependency + statuses.count .waitingCapacity
  dispatchedCount := statuses.count .dispatched
  succeededCount := statuses.count .succeeded
  staleCount := statuses.count .skippedStale
  skippedCount := statuses.count .skippedDependency
  cancelledCount := statuses.count .cancelled

def unsuccessfulCount (statuses : List RecoveryJobItemStatus) : Nat :=
  (statuses.filter (· ∈ terminalItemStatuses)).countP (· ∉ successfulItemStatuses)

/-- `_reconcile_jobs` on one job with the statuses of its items. -/
def reconcileJob (job : RecoveryJob) (statuses : List RecoveryJobItemStatus) (now : Time) :
    RecoveryJob :=
  let counted := { job with counts := jobCounts statuses }
  if statuses ≠ [] ∧ statuses.countP (· ∈ terminalItemStatuses) = statuses.length then
    { counted with
      status :=
        if job.status = .cancelling then .cancelled
        else if 0 < unsuccessfulCount statuses then .completedWithFailures
        else .completed
      completedAt := some now }
  else counted

theorem mem_terminalItemStatuses_iff_not_active (status : RecoveryJobItemStatus) :
    status ∈ terminalItemStatuses ↔ status ∉ activeItemStatuses := by
  cases status <;> decide

end MemeExpert.Services
