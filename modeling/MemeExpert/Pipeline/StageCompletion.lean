import MemeExpert.Pipeline.Dispatch

/-! The transactions a worker runs on one stage row: start, success, failure, and the
disposition of a delivery whose worker was cancelled. -/

namespace MemeExpert.Pipeline

open Messaging

structure PipelineStageWorkContext where
  memeId : Uuid
  memeFileId : Uuid
  stage : ContentPipelineStage
  mimeType : Option String
  originalObjectKey : String
  webVideoObjectKey : Option String
  recoveryItemId : Option Uuid := none
  preserveReady : Bool := false
  retryLimit : Nat := 3

structure StageWorker where
  workerRole : Option String := none
  workerInstanceId : Option String := none

/-- The delivery a stage transaction works for: one event at its effective attempt. -/
structure StageDelivery where
  stage : ContentPipelineStage
  eventId : Uuid
  attempt : Nat

inductive CancelledStageDisposition where
  | acknowledge | deadLetter | requeue
  deriving DecidableEq

structure CancelledStageResolution where
  disposition : CancelledStageDisposition
  normalizedReason : Option String := none

def StageStore.loadRecoveryItem (store : StageStore) (eventId : Uuid) : Option RecoveryJobItem :=
  store.recoveryItems.find? fun item => item.dispatchEventId = some eventId

def StageStore.saveRecoveryItem (store : StageStore) (item : RecoveryJobItem) : StageStore :=
  { store with
    recoveryItems :=
      store.recoveryItems.map fun other => if other.id = item.id then item else other }

def StageStore.setEntry (store : StageStore) (stage : ContentPipelineStage)
    (entry : PipelineStageJournal) : StageStore :=
  { store with journal := Function.update store.journal stage (some entry) }

def shouldPreserveFileStatus (recoveryItem : Option RecoveryJobItem) (memeFile : MemeFile) : Bool :=
  match recoveryItem with
  | none => false
  | some item =>
    item.action = .regenerateDerivatives ∨ (item.preserveReady ∧ memeFile.status = .ready)

section AttemptLedger

def isAttemptOf (memeFileId : Uuid) (delivery : StageDelivery) (row : PipelineStageAttempt) : Bool :=
  row.memeFileId = memeFileId ∧ row.stage = delivery.stage ∧ row.eventId = delivery.eventId ∧
    row.attemptNumber = delivery.attempt

def newAttempt (store : StageStore) (worker : StageWorker) (delivery : StageDelivery)
    (startedAt : Time) : PipelineStageAttempt where
  memeFileId := store.memeFile.id
  stage := delivery.stage
  eventId := delivery.eventId
  attemptNumber := delivery.attempt
  recoveryItemId := (store.loadRecoveryItem delivery.eventId).map (·.id)
  workerRole := worker.workerRole
  workerInstanceId := worker.workerInstanceId
  startedAt := startedAt

def recordAttempt (store : StageStore) (delivery : StageDelivery) (added : PipelineStageAttempt)
    (update : PipelineStageAttempt → PipelineStageAttempt) : List PipelineStageAttempt :=
  if store.attempts.any (isAttemptOf store.memeFile.id delivery) then
    store.attempts.map fun row =>
      if isAttemptOf store.memeFile.id delivery row then update row else row
  else
    store.attempts ++ [added]

def recordAttemptStarted (store : StageStore) (worker : StageWorker) (delivery : StageDelivery)
    (startedAt : Time) : List PipelineStageAttempt :=
  recordAttempt store delivery (newAttempt store worker delivery startedAt) fun row =>
    { row with
      outcome := .processing
      normalizedReason := none
      safeErrorText := none
      finishedAt := none
      workerRole := worker.workerRole <|> row.workerRole
      workerInstanceId := worker.workerInstanceId <|> row.workerInstanceId }

def recordAttemptFinished (store : StageStore) (worker : StageWorker) (delivery : StageDelivery)
    (outcome : PipelineAttemptOutcome) (normalizedReason safeErrorText : Option String)
    (finishedAt : Time) : List PipelineStageAttempt :=
  let finish (row : PipelineStageAttempt) : PipelineStageAttempt :=
    { row with
      outcome := outcome
      normalizedReason := normalizedReason.map trimReason
      safeErrorText := safeErrorText.map trimErrorText
      finishedAt := some finishedAt }
  recordAttempt store delivery (finish (newAttempt store worker delivery finishedAt)) finish

end AttemptLedger

def processingEntry (entry : PipelineStageJournal) (delivery : StageDelivery) (now : Time) :
    PipelineStageJournal :=
  { entry with
    status := .processing
    attemptCount := max entry.attemptCount delivery.attempt
    lastEventId := some delivery.eventId
    normalizedReason := none
    lastErrorText := none
    isRetryable := true
    retryAfter := none
    startedAt := some now
    finishedAt := none }

def alreadyTaken (entry : PipelineStageJournal) (delivery : StageDelivery) : Bool :=
  entry.lastEventId = some delivery.eventId ∧
    (entry.status = .processing ∨ entry.status = .succeeded)

/-- The file after a start: a heavy stage takes it to `PROCESSING` unless a recovery item
preserves its status. -/
def startedFile (store : StageStore) (delivery : StageDelivery) : MemeFile :=
  if delivery.stage ∉ syncStages ∧
      shouldPreserveFileStatus (store.loadRecoveryItem delivery.eventId) store.memeFile = false then
    { store.memeFile with status := .processing }
  else store.memeFile

def stageWorkContext (store : StageStore) (delivery : StageDelivery) : PipelineStageWorkContext :=
  let recoveryItem := store.loadRecoveryItem delivery.eventId
  { memeId := store.memeFile.memeId
    memeFileId := store.memeFile.id
    stage := delivery.stage
    mimeType := store.memeFile.mimeType
    originalObjectKey := store.memeFile.s3OriginalKey
    webVideoObjectKey := store.memeFile.s3WebVideoKey
    recoveryItemId := recoveryItem.map (·.id)
    preserveReady := shouldPreserveFileStatus recoveryItem store.memeFile
    retryLimit := recoveryItem.elim 3 fun item => (item.retryLimit : Nat) }

def startedStore (worker : StageWorker) (store : StageStore) (entry : PipelineStageJournal)
    (delivery : StageDelivery) (now : Time) : StageStore :=
  { store.setEntry delivery.stage (processingEntry entry delivery now) with
    memeFile := startedFile store delivery
    attempts := recordAttemptStarted store worker delivery now }

def startStageProcessing (worker : StageWorker) (store : StageStore) (delivery : StageDelivery)
    (now : Time) : Except PipelineError (StageStore × Option PipelineStageWorkContext) :=
  match store.journal delivery.stage with
  | none => .error (.missingJournalState store.memeFile.id delivery.stage)
  | some entry =>
    if alreadyTaken entry delivery then
      .ok (store, none)
    else
      match ensureStageAttemptIsCurrent entry delivery.attempt with
      | .error error => .error error
      | .ok () =>
        .ok (startedStore worker store entry delivery now, some (stageWorkContext store delivery))

structure StageFailure where
  normalizedReason : String
  lastErrorText : String
  retryable : Bool

def failedEntry (settings : PipelineSettings) (entry : PipelineStageJournal)
    (delivery : StageDelivery) (failure : StageFailure) (now : Time) : PipelineStageJournal :=
  { entry with
    status := .failed
    attemptCount := max entry.attemptCount delivery.attempt
    lastEventId := some delivery.eventId
    normalizedReason := some (trimReason failure.normalizedReason)
    lastErrorText := some (trimErrorText failure.lastErrorText)
    isRetryable := failure.retryable
    retryAfter :=
      if failure.retryable then some (now + settings.brokerRetryBackoffSeconds) else none
    startedAt := entry.startedAt <|> some now
    finishedAt := some now }

def consumeRetryBudget (item : RecoveryJobItem) (attempt : Nat) : RecoveryJobItem :=
  let budgetStart := (item.attemptBudgetStart.filter (· ≠ 0)).getD attempt
  { item with
    attemptBudgetStart := some budgetStart
    retryableFailuresConsumed :=
      max item.retryableFailuresConsumed
        (recoveryStagePublicationFailures item + attempt + 1 - budgetStart) }

def snapshotOptionalText (value : Option String) : Option String := value.filter (· ≠ "")

def restoreStageStateAfterDerivativeFailure (entry : PipelineStageJournal)
    (state : PreviousStageState) (fallbackAttempt : Nat) : PipelineStageJournal :=
  match state.stageSnapshot with
  | none =>
    { entry with
      status := .succeeded
      attemptCount := fallbackAttempt
      lastEventId := none
      normalizedReason := none
      lastErrorText := none
      isRetryable := false
      retryAfter := none
      startedAt := none
      finishedAt := none }
  | some snapshot =>
    { entry with
      status := snapshot.status
      attemptCount := snapshot.attemptCount
      lastEventId := snapshot.lastEventId
      normalizedReason := snapshotOptionalText snapshot.normalizedReason
      lastErrorText := snapshotOptionalText snapshot.lastErrorText
      isRetryable := snapshot.isRetryable
      retryAfter := snapshot.retryAfter
      startedAt := snapshot.startedAt
      finishedAt := snapshot.finishedAt }

def isDerivativeMaintenance (recoveryItem : Option RecoveryJobItem) : Bool :=
  recoveryItem.any fun item => item.action = .regenerateDerivatives

def failDerivativeItem (item : RecoveryJobItem) (failure : StageFailure) (now : Time) :
    RecoveryJobItem :=
  { item with
    status := .failed
    normalizedReason := some (trimReason failure.normalizedReason)
    safeErrorText := some (trimErrorText failure.lastErrorText)
    finishedAt := some now
    reservationActive := false }

def failedRecoveryItem (item : RecoveryJobItem) (delivery : StageDelivery) (failure : StageFailure)
    (consumesBudget : Bool) (now : Time) : RecoveryJobItem :=
  let counted :=
    if failure.retryable && consumesBudget then consumeRetryBudget item delivery.attempt else item
  if item.action = .regenerateDerivatives ∧
      (failure.retryable = false ∨
        (counted.retryLimit : Nat) ≤ counted.retryableFailuresConsumed) then
    failDerivativeItem counted failure now
  else counted

def failedFile (store : StageStore) (delivery : StageDelivery) : MemeFile :=
  let recoveryItem := store.loadRecoveryItem delivery.eventId
  if delivery.stage ∉ syncStages ∧ shouldPreserveFileStatus recoveryItem store.memeFile = false ∧
      isDerivativeMaintenance recoveryItem = false then
    { store.memeFile with status := .failed }
  else store.memeFile

def entryAfterFailure (settings : PipelineSettings) (recoveryItem : Option RecoveryJobItem)
    (entry : PipelineStageJournal) (delivery : StageDelivery) (failure : StageFailure) (now : Time) :
    PipelineStageJournal :=
  let failed := failedEntry settings entry delivery failure now
  match recoveryItem with
  | none => failed
  | some item =>
    if item.action = .regenerateDerivatives then
      restoreStageStateAfterDerivativeFailure failed item.previousStageState (delivery.attempt - 1)
    else failed

def failureOutcome (failure : StageFailure) (consumesBudget : Bool) : PipelineAttemptOutcome :=
  if !consumesBudget then .skipped
  else if failure.retryable then .failedRetryable
  else .failedTerminal

def applyStageFailure (settings : PipelineSettings) (worker : StageWorker) (store : StageStore)
    (entry : PipelineStageJournal) (delivery : StageDelivery) (failure : StageFailure)
    (consumesBudget : Bool) (now : Time) : StageStore :=
  let recoveryItem := store.loadRecoveryItem delivery.eventId
  let written :=
    { store.setEntry delivery.stage
        (entryAfterFailure settings recoveryItem entry delivery failure now) with
      memeFile := failedFile store delivery
      attempts := recordAttemptFinished store worker delivery
        (failureOutcome failure consumesBudget) (some failure.normalizedReason)
        (some failure.lastErrorText) now }
  match recoveryItem with
  | none => written
  | some item =>
    written.saveRecoveryItem (failedRecoveryItem item delivery failure consumesBudget now)

def markStageFailed (settings : PipelineSettings) (worker : StageWorker) (store : StageStore)
    (delivery : StageDelivery) (failure : StageFailure) (now : Time) :
    Except PipelineError StageStore :=
  match store.journal delivery.stage with
  | none => .error (.missingJournalState store.memeFile.id delivery.stage)
  | some entry =>
    match ensureStageAttemptIsCurrent entry delivery.attempt with
    | .error error => .error error
    | .ok () => .ok (applyStageFailure settings worker store entry delivery failure true now)

def succeededEntry (entry : PipelineStageJournal) (delivery : StageDelivery) (now : Time) :
    PipelineStageJournal :=
  { entry with
    status := .succeeded
    attemptCount := max entry.attemptCount delivery.attempt
    lastEventId := some delivery.eventId
    normalizedReason := none
    lastErrorText := none
    isRetryable := false
    retryAfter := none
    startedAt := entry.startedAt <|> some now
    finishedAt := some now }

def succeededFile (store : StageStore) (delivery : StageDelivery) : MemeFile :=
  if shouldPreserveFileStatus (store.loadRecoveryItem delivery.eventId) store.memeFile then
    store.memeFile
  else if delivery.stage = .classify then
    { store.memeFile with status := .ready }
  else if delivery.stage ∉ syncStages then
    { store.memeFile with status := .processing }
  else store.memeFile

def suppressesFanout (store : StageStore) (eventId : Uuid) : Bool :=
  (store.loadRecoveryItem eventId).any fun item => item.suppressFanout

def downstreamOf (store : StageStore) (delivery : StageDelivery) (uuids : Nat → Uuid) (now : Time)
    (journal : Journal) : Journal × List DownstreamStageDispatch :=
  if suppressesFanout store delivery.eventId then (journal, [])
  else prepareDownstreamDispatches store.memeFile delivery.stage now uuids journal

def finalizeStageSuccess (worker : StageWorker) (store : StageStore) (entry : PipelineStageJournal)
    (delivery : StageDelivery) (extraDispatchEvents : List ContentPipelineDispatchEvent)
    (uuids : Nat → Uuid) (now : Time) : StageStore :=
  let written := store.setEntry delivery.stage (succeededEntry entry delivery now)
  let downstream := downstreamOf store delivery uuids now written.journal
  { written with
    journal := downstream.1
    memeFile := succeededFile store delivery
    attempts := recordAttemptFinished store worker delivery .succeeded none none now
    outbox := enqueueDispatchEvents store.outbox
      (downstream.2.map (·.event) ++ extraDispatchEvents) }

def markStageSucceeded (worker : StageWorker) (store : StageStore) (delivery : StageDelivery)
    (uuids : Nat → Uuid) (now : Time) : Except PipelineError StageStore :=
  match store.journal delivery.stage with
  | none => .error (.missingJournalState store.memeFile.id delivery.stage)
  | some entry =>
    match ensureStageAttemptIsCurrent entry delivery.attempt with
    | .error error => .error error
    | .ok () => .ok (finalizeStageSuccess worker store entry delivery [] uuids now)

def workerShutdownFailure : StageFailure where
  normalizedReason := "worker_shutdown"
  lastErrorText := "Worker shutdown interrupted this stage before RabbitMQ acknowledgement."
  retryable := true

def idleDisposition (settings : PipelineSettings) (entry : PipelineStageJournal)
    (delivery : StageDelivery) : CancelledStageDisposition :=
  if entry.status = .failed ∧
      (entry.isRetryable = false ∨ settings.brokerRetryMaxAttempts ≤ delivery.attempt) then
    .deadLetter
  else if entry.status = .pending ∨ (entry.status = .failed ∧ entry.isRetryable) then
    .requeue
  else .acknowledge

def abandonStageProcessing (settings : PipelineSettings) (worker : StageWorker)
    (store : StageStore) (delivery : StageDelivery) (now : Time) :
    Except PipelineError (StageStore × CancelledStageResolution) :=
  match store.journal delivery.stage with
  | none => .error (.missingJournalState store.memeFile.id delivery.stage)
  | some entry =>
    if entry.lastEventId ≠ some delivery.eventId ∨ delivery.attempt < entry.attemptCount then
      .ok (store, { disposition := .acknowledge })
    else if entry.status ≠ .processing then
      let disposition := idleDisposition settings entry delivery
      .ok (store, {
        disposition := disposition
        normalizedReason := if disposition = .deadLetter then entry.normalizedReason else none })
    else
      match ensureStageAttemptIsCurrent entry delivery.attempt with
      | .error error => .error error
      | .ok () =>
        .ok (applyStageFailure settings worker store entry delivery workerShutdownFailure false now,
          { disposition := .requeue })

section Specifications

variable {settings : PipelineSettings} {worker : StageWorker} {store : StageStore}
  {delivery : StageDelivery} {entry : PipelineStageJournal} {now : Time}

theorem StageStore.journal_setEntry (store : StageStore) (stage : ContentPipelineStage)
    (entry : PipelineStageJournal) : (store.setEntry stage entry).journal stage = some entry :=
  Function.update_self ..

theorem ensureStageAttemptIsCurrent_of_lt (h : delivery.attempt < entry.attemptCount) :
    ensureStageAttemptIsCurrent entry delivery.attempt =
      .error (.staleStageTransition entry.stage delivery.attempt entry.attemptCount) :=
  if_pos h

theorem ensureStageAttemptIsCurrent_of_le (h : entry.attemptCount ≤ delivery.attempt) :
    ensureStageAttemptIsCurrent entry delivery.attempt = .ok () :=
  if_neg (Nat.not_lt.mpr h)

theorem startStageProcessing_of_taken (hentry : store.journal delivery.stage = some entry)
    (htaken : alreadyTaken entry delivery = true) :
    startStageProcessing worker store delivery now = .ok (store, none) := by
  simp only [startStageProcessing, hentry, htaken, if_true]

theorem startStageProcessing_of_lt (hentry : store.journal delivery.stage = some entry)
    (htaken : alreadyTaken entry delivery = false) (h : delivery.attempt < entry.attemptCount) :
    startStageProcessing worker store delivery now =
      .error (.staleStageTransition entry.stage delivery.attempt entry.attemptCount) := by
  simp only [startStageProcessing, hentry, htaken, ensureStageAttemptIsCurrent_of_lt h]
  rfl

theorem startStageProcessing_of_le (hentry : store.journal delivery.stage = some entry)
    (htaken : alreadyTaken entry delivery = false) (h : entry.attemptCount ≤ delivery.attempt) :
    startStageProcessing worker store delivery now =
      .ok (startedStore worker store entry delivery now, some (stageWorkContext store delivery)) := by
  simp only [startStageProcessing, hentry, htaken, ensureStageAttemptIsCurrent_of_le h]
  rfl

theorem markStageFailed_of_lt (failure : StageFailure)
    (hentry : store.journal delivery.stage = some entry) (h : delivery.attempt < entry.attemptCount) :
    markStageFailed settings worker store delivery failure now =
      .error (.staleStageTransition entry.stage delivery.attempt entry.attemptCount) := by
  simp only [markStageFailed, hentry, ensureStageAttemptIsCurrent_of_lt h]

theorem markStageFailed_of_le (failure : StageFailure)
    (hentry : store.journal delivery.stage = some entry) (h : entry.attemptCount ≤ delivery.attempt) :
    markStageFailed settings worker store delivery failure now =
      .ok (applyStageFailure settings worker store entry delivery failure true now) := by
  simp only [markStageFailed, hentry, ensureStageAttemptIsCurrent_of_le h]

theorem markStageSucceeded_of_lt (uuids : Nat → Uuid)
    (hentry : store.journal delivery.stage = some entry) (h : delivery.attempt < entry.attemptCount) :
    markStageSucceeded worker store delivery uuids now =
      .error (.staleStageTransition entry.stage delivery.attempt entry.attemptCount) := by
  simp only [markStageSucceeded, hentry, ensureStageAttemptIsCurrent_of_lt h]

theorem markStageSucceeded_of_le (uuids : Nat → Uuid)
    (hentry : store.journal delivery.stage = some entry) (h : entry.attemptCount ≤ delivery.attempt) :
    markStageSucceeded worker store delivery uuids now =
      .ok (finalizeStageSuccess worker store entry delivery [] uuids now) := by
  simp only [markStageSucceeded, hentry, ensureStageAttemptIsCurrent_of_le h]

theorem journal_startedStore :
    (startedStore worker store entry delivery now).journal delivery.stage =
      some (processingEntry entry delivery now) :=
  StageStore.journal_setEntry ..

theorem journal_applyStageFailure (failure : StageFailure) (consumesBudget : Bool) :
    (applyStageFailure settings worker store entry delivery failure consumesBudget now).journal
        delivery.stage =
      some (entryAfterFailure settings (store.loadRecoveryItem delivery.eventId) entry delivery
        failure now) := by
  unfold applyStageFailure
  cases store.loadRecoveryItem delivery.eventId with
  | none => exact StageStore.journal_setEntry ..
  | some item => exact StageStore.journal_setEntry ..

theorem entryAfterFailure_of_not_derivative {recoveryItem : Option RecoveryJobItem}
    (hitem : isDerivativeMaintenance recoveryItem = false) (failure : StageFailure) :
    entryAfterFailure settings recoveryItem entry delivery failure now =
      failedEntry settings entry delivery failure now := by
  cases recoveryItem with
  | none => rfl
  | some item =>
    simp only [isDerivativeMaintenance, Option.any_some, decide_eq_false_iff_not] at hitem
    simp only [entryAfterFailure, hitem, if_false]

theorem journal_finalizeStageSuccess (extra : List ContentPipelineDispatchEvent)
    (uuids : Nat → Uuid) :
    (finalizeStageSuccess worker store entry delivery extra uuids now).journal delivery.stage =
      some (succeededEntry entry delivery now) := by
  unfold finalizeStageSuccess downstreamOf
  simp only
  split
  · exact StageStore.journal_setEntry ..
  · rw [prepareDownstreamDispatches_self]
    exact StageStore.journal_setEntry ..

end Specifications

inductive StageAction where
  | start
  | succeed (uuids : Nat → Uuid)
  | fail (failure : StageFailure)
  | abandon

def runStageAction (settings : PipelineSettings) (worker : StageWorker) (store : StageStore)
    (delivery : StageDelivery) (now : Time) : StageAction → Except PipelineError StageStore
  | .start => (startStageProcessing worker store delivery now).map (·.1)
  | .succeed uuids => markStageSucceeded worker store delivery uuids now
  | .fail failure => markStageFailed settings worker store delivery failure now
  | .abandon => (abandonStageProcessing settings worker store delivery now).map (·.1)

def StageAction.outcome : StageAction → ContentPipelineStageStatus
  | .start => .processing
  | .succeed _ => .succeeded
  | .fail _ | .abandon => .failed

def StageAction.restores (store : StageStore) (eventId : Uuid) : StageAction → Bool
  | .start | .succeed _ => false
  | .fail _ | .abandon => isDerivativeMaintenance (store.loadRecoveryItem eventId)

/-- The action writes the row when its attempt is current: a start of an event that was taken
already, and an abandonment of an event that is not running, write nothing. -/
def StageAction.writes (entry : PipelineStageJournal) (delivery : StageDelivery) :
    StageAction → Bool
  | .start => !alreadyTaken entry delivery
  | .succeed _ | .fail _ => true
  | .abandon =>
    entry.lastEventId = some delivery.eventId ∧ entry.attemptCount ≤ delivery.attempt ∧
      entry.status = .processing

def StageAction.written (settings : PipelineSettings) (store : StageStore)
    (entry : PipelineStageJournal) (delivery : StageDelivery) (now : Time) :
    StageAction → PipelineStageJournal
  | .start => processingEntry entry delivery now
  | .succeed _ => succeededEntry entry delivery now
  | .fail failure =>
    entryAfterFailure settings (store.loadRecoveryItem delivery.eventId) entry delivery failure now
  | .abandon =>
    entryAfterFailure settings (store.loadRecoveryItem delivery.eventId) entry delivery
      workerShutdownFailure now

structure WrittenFor (entry : PipelineStageJournal) (delivery : StageDelivery)
    (action : StageAction) (written : PipelineStageJournal) : Prop where
  current : entry.attemptCount ≤ delivery.attempt
  lastEventId : written.lastEventId = some delivery.eventId
  attemptCount : written.attemptCount = delivery.attempt
  status : written.status = action.outcome
  unreserved : isReplayReserved written = false

section Actions

variable {settings : PipelineSettings} {worker : StageWorker} {store store' : StageStore}
  {delivery : StageDelivery} {entry : PipelineStageJournal} {now : Time}

theorem WrittenFor.start (h : entry.attemptCount ≤ delivery.attempt) :
    WrittenFor entry delivery .start (processingEntry entry delivery now) :=
  ⟨h, rfl, Nat.max_eq_right h, rfl, by simp [isReplayReserved, processingEntry]⟩

theorem WrittenFor.succeed (h : entry.attemptCount ≤ delivery.attempt) (uuids : Nat → Uuid) :
    WrittenFor entry delivery (.succeed uuids) (succeededEntry entry delivery now) :=
  ⟨h, rfl, Nat.max_eq_right h, rfl, by simp [isReplayReserved, succeededEntry]⟩

variable {action : StageAction}

theorem WrittenFor.failure (h : entry.attemptCount ≤ delivery.attempt)
    (haction : action.outcome = .failed) (failure : StageFailure) :
    WrittenFor entry delivery action (failedEntry settings entry delivery failure now) :=
  ⟨h, rfl, Nat.max_eq_right h, haction.symm, by simp [isReplayReserved, failedEntry]⟩

theorem journal_applyStageFailure_of_not_derivative
    (hitem : isDerivativeMaintenance (store.loadRecoveryItem delivery.eventId) = false)
    (failure : StageFailure) (consumesBudget : Bool) :
    (applyStageFailure settings worker store entry delivery failure consumesBudget now).journal
        delivery.stage = some (failedEntry settings entry delivery failure now) := by
  rw [journal_applyStageFailure, entryAfterFailure_of_not_derivative hitem]

theorem abandonStageProcessing_of_running (settings : PipelineSettings) (worker : StageWorker)
    (now : Time) (hentry : store.journal delivery.stage = some entry)
    (hevent : entry.lastEventId = some delivery.eventId)
    (hle : entry.attemptCount ≤ delivery.attempt) (hrunning : entry.status = .processing) :
    abandonStageProcessing settings worker store delivery now =
      .ok (applyStageFailure settings worker store entry delivery workerShutdownFailure false now,
        { disposition := .requeue }) := by
  simp [abandonStageProcessing, hentry, hevent, Nat.not_lt.mpr hle, hrunning,
    ensureStageAttemptIsCurrent_of_le hle]

theorem abandonStageProcessing_cases (settings : PipelineSettings) (worker : StageWorker)
    (now : Time) (hentry : store.journal delivery.stage = some entry) :
    (∃ resolution, abandonStageProcessing settings worker store delivery now =
        .ok (store, resolution)) ∨
      (entry.lastEventId = some delivery.eventId ∧ entry.attemptCount ≤ delivery.attempt ∧
        entry.status = .processing ∧
        abandonStageProcessing settings worker store delivery now =
          .ok (applyStageFailure settings worker store entry delivery workerShutdownFailure false
            now, { disposition := .requeue })) := by
  simp only [abandonStageProcessing, hentry]
  by_cases hreplaced : entry.lastEventId ≠ some delivery.eventId ∨
      delivery.attempt < entry.attemptCount
  · rw [if_pos hreplaced]
    exact .inl ⟨_, rfl⟩
  rw [if_neg hreplaced]
  rw [not_or, not_not, Nat.not_lt] at hreplaced
  by_cases hidle : entry.status ≠ .processing
  · rw [if_pos hidle]
    exact .inl ⟨_, rfl⟩
  · rw [if_neg hidle, ensureStageAttemptIsCurrent_of_le hreplaced.2]
    exact .inr ⟨hreplaced.1, hreplaced.2, not_not.mp hidle, rfl⟩

theorem runStageAction_of_idle (hentry : store.journal delivery.stage = some entry)
    (hidle : action.writes entry delivery = false)
    (hrun : runStageAction settings worker store delivery now action = .ok store') :
    store' = store := by
  cases action with
  | start =>
    have htaken : alreadyTaken entry delivery = true := by
      simpa [StageAction.writes] using hidle
    simp only [runStageAction, startStageProcessing_of_taken hentry htaken, Except.map] at hrun
    exact (Except.ok.inj hrun).symm
  | succeed uuids => cases hidle
  | fail failure => cases hidle
  | abandon =>
    rcases abandonStageProcessing_cases settings worker now hentry with
      ⟨resolution, heq⟩ | ⟨hevent, hle, hrunning, -⟩
    · simp only [runStageAction, heq, Except.map] at hrun
      exact (Except.ok.inj hrun).symm
    · simp [StageAction.writes, hevent, hle, hrunning] at hidle

theorem runStageAction_of_writes (hentry : store.journal delivery.stage = some entry)
    (hwrites : action.writes entry delivery = true)
    (hrun : runStageAction settings worker store delivery now action = .ok store') :
    entry.attemptCount ≤ delivery.attempt ∧
      store'.journal delivery.stage = some (action.written settings store entry delivery now) := by
  rcases Nat.lt_or_ge delivery.attempt entry.attemptCount with hlt | hge
  · cases action with
    | start =>
      have htaken : alreadyTaken entry delivery = false := by
        simpa [StageAction.writes] using hwrites
      simp [runStageAction, startStageProcessing_of_lt hentry htaken hlt, Except.map] at hrun
    | succeed uuids => simp [runStageAction, markStageSucceeded_of_lt uuids hentry hlt] at hrun
    | fail failure => simp [runStageAction, markStageFailed_of_lt failure hentry hlt] at hrun
    | abandon =>
      have hcurrent : entry.attemptCount ≤ delivery.attempt := by
        simp only [StageAction.writes, decide_eq_true_eq] at hwrites
        exact hwrites.2.1
      omega
  · refine ⟨hge, ?_⟩
    cases action with
    | start =>
      have htaken : alreadyTaken entry delivery = false := by
        simpa [StageAction.writes] using hwrites
      simp only [runStageAction, startStageProcessing_of_le hentry htaken hge, Except.map] at hrun
      cases hrun
      exact journal_startedStore
    | succeed uuids =>
      simp only [runStageAction, markStageSucceeded_of_le uuids hentry hge] at hrun
      cases hrun
      exact journal_finalizeStageSuccess ..
    | fail failure =>
      simp only [runStageAction, markStageFailed_of_le failure hentry hge] at hrun
      cases hrun
      exact journal_applyStageFailure ..
    | abandon =>
      simp only [StageAction.writes, decide_eq_true_eq] at hwrites
      simp only [runStageAction, abandonStageProcessing_of_running settings worker now hentry
        hwrites.1 hge hwrites.2.2, Except.map] at hrun
      cases hrun
      exact journal_applyStageFailure ..

theorem writtenFor_of_writes (hge : entry.attemptCount ≤ delivery.attempt)
    (hkeeps : action.restores store delivery.eventId = false) :
    WrittenFor entry delivery action (action.written settings store entry delivery now) := by
  cases action with
  | start => exact .start hge
  | succeed uuids => exact .succeed hge uuids
  | fail failure =>
    simp only [StageAction.written, entryAfterFailure_of_not_derivative hkeeps]
    exact .failure hge rfl failure
  | abandon =>
    simp only [StageAction.written, entryAfterFailure_of_not_derivative hkeeps]
    exact .failure hge rfl workerShutdownFailure

theorem runStageAction_of_none (hentry : store.journal delivery.stage = none)
    (action : StageAction) :
    runStageAction settings worker store delivery now action =
      .error (.missingJournalState store.memeFile.id delivery.stage) := by
  cases action <;>
    simp [runStageAction, startStageProcessing, markStageSucceeded, markStageFailed,
      abandonStageProcessing, hentry, Except.map]

end Actions

end MemeExpert.Pipeline
