import MemeExpert.Pipeline.StageCompletion

/-! The three entry points that reserve a replay of a stage. -/

namespace MemeExpert.Pipeline

open Messaging

structure ContentPipelineReplayAccepted where
  memeFileId : Uuid
  replayEventId : Uuid
  stage : ContentPipelineStage
  attempt : Nat

/-- What a replay call decides on the tables it read. A row that is reserved new is written over
the row read, or inserted where none was read. -/
inductive ReplayPlan where
  | attach (entry : PipelineStageJournal) (eventId : Uuid)
  | reserve (stage : ContentPipelineStage) (loaded : Option PipelineStageJournal)

def isRetryableFailure (entry : PipelineStageJournal) : Bool :=
  entry.status = .failed ∧ entry.isRetryable

def selectReplayEntry (journal : Journal) :
    Option ContentPipelineStage → Except PipelineError PipelineStageJournal
  | some stage =>
    match journal stage with
    | none => .error (.replayStageRowMissing stage)
    | some entry =>
      if isReplayReserved entry then .ok entry
      else if isRetryableFailure entry then .ok entry
      else .error (.replayStageNotRetryable stage)
  | none =>
    match (sortedStageEntries journal).reverse.find? fun entry =>
        isReplayReserved entry || isRetryableFailure entry with
    | some entry => .ok entry
    | none => .error .replayNothingFailed

def planOnEntry (store : StageStore) (stage : ContentPipelineStage)
    (entry : PipelineStageJournal) (loaded : Option PipelineStageJournal) :
    Except PipelineError ReplayPlan :=
  if isReplayReserved entry then
    match entry.lastEventId with
    | none => .error (.replayReservationWithoutEvent store.memeFile.id)
    | some eventId => .ok (.attach entry eventId)
  else .ok (.reserve stage loaded)

def planReplayItem (store : StageStore) (stage : Option ContentPipelineStage) :
    Except PipelineError ReplayPlan :=
  if store.memeFile.s3OriginalKey = "" then
    .error (.replayMissingOriginal store.memeFile.id)
  else
    match selectReplayEntry store.journal stage with
    | .error error => .error error
    | .ok entry => planOnEntry store entry.stage entry (some entry)

def unmaterializedEntry (store : StageStore) (stage : ContentPipelineStage) (rowId : Uuid) :
    PipelineStageJournal where
  id := rowId
  memeFileId := store.memeFile.id
  stage := stage
  status := .failed
  attemptCount := 0
  normalizedReason := some "orchestrated_stage_not_materialized"
  isRetryable := true

def planReplayAdminStage (store : StageStore) (stage : ContentPipelineStage)
    (terminalOverrideAcknowledged : Bool) (rowId : Uuid) : Except PipelineError ReplayPlan :=
  if stage = .ingest then .error .replayIngestStage
  else if store.memeFile.s3OriginalKey = "" then
    .error (.replayMissingOriginal store.memeFile.id)
  else
    let entry := (store.journal stage).getD (unmaterializedEntry store stage rowId)
    if isReplayReserved entry then planOnEntry store stage entry (store.journal stage)
    else if entry.status = .pending ∨ entry.status = .processing ∨ entry.status = .duplicate then
      .error (.replayStageActive stage entry.status)
    else if entry.status = .failed ∧ entry.isRetryable = false ∧
        terminalOverrideAcknowledged = false then
      .error (.replayTerminalUnacknowledged stage)
    else planOnEntry store stage entry (store.journal stage)

def planReplaySyncTarget (store : StageStore) (target : SyncTargetKind) :
    Except PipelineError ReplayPlan :=
  let stage := syncStageByTarget target
  if (store.journal .classify).all fun entry => entry.status ≠ .succeeded then
    .error (.replaySyncBeforeClassify store.memeFile.id)
  else if store.memeFile.s3OriginalKey = "" then
    .error (.replayMissingOriginal store.memeFile.id)
  else
    match store.journal stage with
    | none => .error (.replayStageRowMissing stage)
    | some entry => planOnEntry store stage entry (some entry)

def nextAttempt (entry : PipelineStageJournal) : Nat := max (entry.attemptCount + 1) 1

def replayEvent (store : StageStore) (stage : ContentPipelineStage) (entry : PipelineStageJournal)
    (eventId : Uuid) (now : Time) : ContentPipelineDispatchEvent where
  eventId := eventId
  eventType := .stageReplayRequested
  memeId := store.memeFile.memeId
  memeFileId := store.memeFile.id
  stage := stage
  originalObjectKey := store.memeFile.s3OriginalKey
  attempt := nextAttempt entry
  attempt_pos := Nat.le_max_right ..
  createdAt := now

def attachRecoveryItem (item : RecoveryJobItem) (eventId : Uuid) (attempt : Nat) (now : Time) :
    RecoveryJobItem :=
  { item with
    status := .dispatched
    dispatchEventId := some eventId
    dispatchedAt := some now
    normalizedReason := none
    safeErrorText := none
    reservationActive := true
    attemptBudgetStart := item.attemptBudgetStart <|> some attempt }

def StageStore.saveOptionalItem (store : StageStore) : Option RecoveryJobItem → StageStore
  | none => store
  | some item => store.saveRecoveryItem item

def adminReplayItem (item : RecoveryJobItem) (entry : PipelineStageJournal) (eventId : Uuid)
    (now : Time) : RecoveryJobItem :=
  { attachRecoveryItem { item with
      previousStageState := { stageSnapshot := some (snapshotStage entry) } }
      eventId (nextAttempt entry) now with
    canonicalVersion := some (.row now (some eventId)) }

def upsertSyncTargetSnapshot (store : StageStore) (target : SyncTargetKind)
    (status : SyncTargetStatus) (eventId : Option Uuid)
    (normalizedReason lastErrorText : Option String) (bumpAttempt recordSuccess : Bool)
    (rowId : Uuid) (now : Time) : StageStore :=
  let existing : MemeFileSyncTargetSnapshot := (store.syncTargets target).getD
    { id := rowId, memeFileId := store.memeFile.id, syncTarget := target, status := status }
  let row : MemeFileSyncTargetSnapshot :=
    { existing with
      status := status
      lastEventId := eventId
      normalizedReason := normalizedReason.map trimReason
      lastErrorText := lastErrorText.map trimErrorText
      lastSuccessAt := if recordSuccess then some now else existing.lastSuccessAt
      lastAttemptAt := some now
      attemptCount := if bumpAttempt then existing.attemptCount + 1 else existing.attemptCount }
  { store with syncTargets := Function.update store.syncTargets target (some row) }

def syncTargetOf : ContentPipelineStage → Option SyncTargetKind
  | .syncQdrant => some .qdrant
  | .syncMeili => some .meilisearch
  | _ => none

def markSyncReplayRequested (store : StageStore) (target : Option SyncTargetKind) (eventId : Uuid)
    (rowId : Uuid) (now : Time) : StageStore :=
  match target with
  | none => store
  | some target =>
    upsertSyncTargetSnapshot store target .pending (some eventId)
      (some pipelineReasonSyncReplayRequested) none false false rowId now

def attachReplay (store : StageStore) (entry : PipelineStageJournal) (eventId : Uuid)
    (item : Option RecoveryJobItem) (now : Time) : StageStore × ContentPipelineReplayAccepted :=
  (store.saveOptionalItem
      (item.map fun owner => attachRecoveryItem owner eventId (max entry.attemptCount 1) now),
    ⟨store.memeFile.id, eventId, entry.stage, max entry.attemptCount 1⟩)

def reserveStage (store : StageStore) (stage : ContentPipelineStage) (entry : PipelineStageJournal)
    (item : Option RecoveryJobItem) (target : Option SyncTargetKind) (eventId rowId : Uuid)
    (now : Time) : StageStore × ContentPipelineReplayAccepted :=
  let event := replayEvent store stage entry eventId now
  let reserved := (store.setEntry stage (reserveReplay entry eventId event.attempt)).saveOptionalItem
    item
  let marked := markSyncReplayRequested reserved target eventId rowId now
  ({ marked with outbox := enqueueDispatchEvent marked.outbox event },
    ⟨store.memeFile.id, eventId, stage, event.attempt⟩)

def replayItem (store : StageStore) (stage : Option ContentPipelineStage)
    (item : Option RecoveryJobItem) (eventId : Uuid) (now : Time) :
    Except PipelineError (StageStore × ContentPipelineReplayAccepted) :=
  match planReplayItem store stage with
  | .error error => .error error
  | .ok (.attach entry reserved) => .ok (attachReplay store entry reserved item now)
  | .ok (.reserve _ none) => .error .replayNothingFailed
  | .ok (.reserve target (some entry)) =>
    .ok (reserveStage store target entry
      (item.map fun owner => attachRecoveryItem owner eventId (nextAttempt entry) now) none eventId
      eventId now)

def replayAdminStage (store : StageStore) (stage : ContentPipelineStage) (item : RecoveryJobItem)
    (eventId rowId : Uuid) (now : Time) :
    Except PipelineError (StageStore × ContentPipelineReplayAccepted) :=
  match planReplayAdminStage store stage item.terminalOverrideAcknowledged rowId with
  | .error error => .error error
  | .ok (.attach entry reserved) => .ok (attachReplay store entry reserved (some item) now)
  | .ok (.reserve _ loaded) =>
    let entry := loaded.getD (unmaterializedEntry store stage rowId)
    let named :=
      if loaded.isNone ∧ item.workId = .planned store.memeFile.id stage then
        { item with workId := .row rowId }
      else item
    .ok (reserveStage store stage entry (some (adminReplayItem named entry eventId now))
      (syncTargetOf stage) eventId (rowId + 1) now)

def replaySyncTarget (store : StageStore) (target : SyncTargetKind) (item : Option RecoveryJobItem)
    (eventId rowId : Uuid) (now : Time) :
    Except PipelineError (StageStore × ContentPipelineReplayAccepted) :=
  match planReplaySyncTarget store target with
  | .error error => .error error
  | .ok (.attach entry reserved) => .ok (attachReplay store entry reserved item now)
  | .ok (.reserve _ none) => .error (.replayStageRowMissing (syncStageByTarget target))
  | .ok (.reserve stage (some entry)) =>
    .ok (reserveStage store stage entry
      (item.map fun owner => attachRecoveryItem owner eventId (nextAttempt entry) now)
      (some target) eventId rowId now)

section Specifications

variable {store : StageStore} {stage : ContentPipelineStage} {entry : PipelineStageJournal}

theorem journal_saveOptionalItem (store : StageStore) (item : Option RecoveryJobItem) :
    (store.saveOptionalItem item).journal = store.journal := by
  cases item <;> rfl

theorem journal_markSyncReplayRequested (store : StageStore) (target : Option SyncTargetKind)
    (eventId rowId : Uuid) (now : Time) :
    (markSyncReplayRequested store target eventId rowId now).journal = store.journal := by
  cases target <;> rfl

theorem journal_reserveStage (item : Option RecoveryJobItem) (target : Option SyncTargetKind)
    (eventId rowId : Uuid) (now : Time) :
    (reserveStage store stage entry item target eventId rowId now).1.journal stage =
      some (reserveReplay entry eventId (nextAttempt entry)) := by
  simp only [reserveStage, journal_markSyncReplayRequested, journal_saveOptionalItem,
    StageStore.journal_setEntry]
  rfl

theorem replayItem_of_failed (item : Option RecoveryJobItem) (eventId : Uuid) (now : Time)
    (hentry : store.journal stage = some entry) (hfailed : isRetryableFailure entry = true) :
    replayItem store (some stage) item eventId now =
      if store.memeFile.s3OriginalKey = "" then .error (.replayMissingOriginal store.memeFile.id)
      else .ok (reserveStage store entry.stage entry
        (item.map fun owner => attachRecoveryItem owner eventId (nextAttempt entry) now) none
        eventId eventId now) := by
  have hunreserved : isReplayReserved entry = false := by
    simp only [isRetryableFailure, decide_eq_true_eq] at hfailed
    simp [isReplayReserved, hfailed.1]
  by_cases hkey : store.memeFile.s3OriginalKey = "" <;>
    simp [replayItem, planReplayItem, selectReplayEntry, planOnEntry, hkey, hentry, hunreserved,
      hfailed]

theorem outbox_reserveStage (item : Option RecoveryJobItem) (eventId rowId : Uuid) (now : Time) :
    (reserveStage store stage entry item none eventId rowId now).1.outbox =
      enqueueDispatchEvent store.outbox (replayEvent store stage entry eventId now) := by
  cases item <;> rfl

theorem replayItem_reserves (item : Option RecoveryJobItem) (eventId : Uuid) (now : Time)
    (hentry : store.journal stage = some entry) (hfailed : isRetryableFailure entry = true)
    (hkey : store.memeFile.s3OriginalKey ≠ "") :
    ∃ result accepted, replayItem store (some stage) item eventId now = .ok (result, accepted) ∧
      result.journal entry.stage = some (reserveReplay entry eventId (nextAttempt entry)) ∧
      result.outbox =
        enqueueDispatchEvent store.outbox (replayEvent store entry.stage entry eventId now) := by
  have hreserved := replayItem_of_failed item eventId now hentry hfailed
  rw [if_neg hkey] at hreserved
  exact ⟨_, _, hreserved, journal_reserveStage .., outbox_reserveStage ..⟩

end Specifications

end MemeExpert.Pipeline
