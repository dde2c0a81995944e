import MemeExpert.Pipeline.Replay

/-! The completion and the failure of a sync stage write the snapshot of the target beside
the row of the stage. -/

namespace MemeExpert.Pipeline

open Messaging

def syncMalformedReasonByTarget : SyncTargetKind → String
  | .qdrant => "sync_qdrant_malformed_payload"
  | .meilisearch => "sync_meili_malformed_payload"

def syncSuccessEventTypeByTarget : SyncTargetKind → ContentPipelineEventType
  | .qdrant => .memeQdrantSynced
  | .meilisearch => .memeMeiliSynced

def buildSyncSuccessEvent (store : StageStore) (target : SyncTargetKind)
    (entry : PipelineStageJournal) (attempt : Nat) (eventId : Uuid) (now : Time) :
    ContentPipelineDispatchEvent where
  eventId := eventId
  eventType := syncSuccessEventTypeByTarget target
  memeId := store.memeFile.memeId
  memeFileId := store.memeFile.id
  stage := syncStageByTarget target
  originalObjectKey := store.memeFile.s3OriginalKey
  attempt := max (max entry.attemptCount attempt) 1
  attempt_pos := Nat.le_max_right ..
  createdAt := now

/-- `_complete_sync_target_stage`. A repeated completion bumps no attempt and announces nothing. -/
def completeSyncTargetStage (worker : StageWorker) (store : StageStore) (target : SyncTargetKind)
    (eventId : Uuid) (attempt : Nat) (uuids : Nat → Uuid) (now : Time) :
    Except PipelineError StageStore :=
  let stage := syncStageByTarget target
  match store.journal stage with
  | none => .error (.missingJournalState store.memeFile.id stage)
  | some entry =>
    match ensureStageAttemptIsCurrent entry attempt with
    | .error error => .error error
    | .ok () =>
      let alreadySucceeded : Bool := entry.status = .succeeded ∧ entry.lastEventId = some eventId
      let synced := upsertSyncTargetSnapshot store target .synced (some eventId) none none
        (!alreadySucceeded) true (uuids 0) now
      let announced := if alreadySucceeded then []
        else [buildSyncSuccessEvent store target entry attempt (uuids 1) now]
      .ok (finalizeStageSuccess worker synced entry ⟨stage, eventId, attempt⟩ announced
        (fun n => uuids (n + 2)) now)

/-- `_fail_sync_target_stage`. A stale attempt takes the snapshot back with its transaction. -/
def failSyncTargetStage (settings : PipelineSettings) (worker : StageWorker) (store : StageStore)
    (target : SyncTargetKind) (eventId : Uuid) (attempt : Nat)
    (normalizedReason lastErrorText : String) (rowId : Uuid) (now : Time) :
    Except PipelineError StageStore :=
  let failed := upsertSyncTargetSnapshot store target .failed (some eventId) (some normalizedReason)
    (some lastErrorText) true false rowId now
  markStageFailed settings worker failed ⟨syncStageByTarget target, eventId, attempt⟩
    ⟨normalizedReason, lastErrorText, normalizedReason ≠ syncMalformedReasonByTarget target⟩ now

section Copies

variable {settings : PipelineSettings} {worker : StageWorker} {store store' : StageStore}
  {target : SyncTargetKind} {stage : ContentPipelineStage} {entry : PipelineStageJournal}
  {delivery : StageDelivery} {now : Time}

theorem syncStageByTarget_mem (target : SyncTargetKind) : syncStageByTarget target ∈ syncStages := by
  cases target <;> decide

theorem syncTargetOf_eq_some_iff :
    syncTargetOf stage = some target ↔ stage = syncStageByTarget target := by
  cases stage <;> cases target <;> decide

theorem syncStageByTarget_injective {other : SyncTargetKind}
    (h : syncStageByTarget other = syncStageByTarget target) : other = target := by
  revert h
  cases other <;> cases target <;> decide

theorem syncTargets_upsert (status : SyncTargetStatus) (eventId : Option Uuid)
    (reason error : Option String) (bump success : Bool) (rowId : Uuid) :
    ∃ row, (upsertSyncTargetSnapshot store target status eventId reason error bump success rowId
        now).syncTargets target = some row ∧ row.status = status ∧ row.lastEventId = eventId :=
  ⟨_, Function.update_self .., rfl, rfl⟩

theorem syncTargets_upsert_of_ne {other : SyncTargetKind} (hne : target ≠ other)
    (status : SyncTargetStatus) (eventId : Option Uuid) (reason error : Option String)
    (bump success : Bool) (rowId : Uuid) :
    (upsertSyncTargetSnapshot store other status eventId reason error bump success rowId
      now).syncTargets target = store.syncTargets target :=
  Function.update_of_ne hne ..

theorem syncTargets_saveOptionalItem (store : StageStore) (item : Option RecoveryJobItem) :
    (store.saveOptionalItem item).syncTargets = store.syncTargets := by
  cases item <;> rfl

theorem syncTargets_applyStageFailure (failure : StageFailure) (consumesBudget : Bool) :
    (applyStageFailure settings worker store entry delivery failure consumesBudget
      now).syncTargets = store.syncTargets := by
  unfold applyStageFailure
  cases store.loadRecoveryItem delivery.eventId <;> rfl

theorem syncTargets_runStageAction {action : StageAction}
    (hrun : runStageAction settings worker store delivery now action = .ok store') :
    store'.syncTargets = store.syncTargets := by
  cases hentry : store.journal delivery.stage with
  | none =>
    rw [runStageAction_of_none hentry] at hrun
    cases hrun
  | some entry =>
    cases hwrites : action.writes entry delivery with
    | false => rw [runStageAction_of_idle hentry hwrites hrun]
    | true =>
      obtain ⟨hge, -⟩ := runStageAction_of_writes hentry hwrites hrun
      cases action with
      | start =>
        have htaken : alreadyTaken entry delivery = false := by
          simpa [StageAction.writes] using hwrites
        simp only [runStageAction, startStageProcessing_of_le hentry htaken hge, Except.map] at hrun
        cases hrun
        rfl
      | succeed uuids =>
        simp only [runStageAction, markStageSucceeded_of_le uuids hentry hge] at hrun
        cases hrun
        rfl
      | fail failure =>
        simp only [runStageAction, markStageFailed_of_le failure hentry hge] at hrun
        cases hrun
        exact syncTargets_applyStageFailure ..
      | abandon =>
        simp only [StageAction.writes, decide_eq_true_eq] at hwrites
        simp only [runStageAction, abandonStageProcessing_of_running settings worker now hentry
          hwrites.1 hge hwrites.2.2, Except.map] at hrun
        cases hrun
        exact syncTargets_applyStageFailure ..

theorem journal_markStageSucceeded_of_ne {other : ContentPipelineStage} {uuids : Nat → Uuid}
    (h : markStageSucceeded worker store delivery uuids now = .ok store')
    (hne : other ≠ delivery.stage) (hother : (store.journal other).isSome) :
    store'.journal other = store.journal other := by
  unfold markStageSucceeded at h
  split at h
  · cases h
  next entry hentry =>
  split at h
  · cases h
  cases h
  have hkept : (store.setEntry delivery.stage (succeededEntry entry delivery now)).journal other =
      store.journal other :=
    Function.update_of_ne hne ..
  unfold finalizeStageSuccess downstreamOf
  dsimp only
  split
  · exact hkept
  · rw [prepareDownstreamDispatches_of_isSome _ _ _ _ (by rw [hkept]; exact hother), hkept]

theorem completeSyncTargetStage_spec {eventId : Uuid} {attempt : Nat} {uuids : Nat → Uuid}
    (h : completeSyncTargetStage worker store target eventId attempt uuids now = .ok store') :
    (∃ row, store'.journal (syncStageByTarget target) = some row ∧ row.status = .succeeded ∧
        row.lastEventId = some eventId) ∧
      ∃ snapshot, store'.syncTargets target = some snapshot ∧ snapshot.status = .synced ∧
        snapshot.lastEventId = some eventId := by
  unfold completeSyncTargetStage at h
  dsimp only at h
  split at h
  · cases h
  split at h
  · cases h
  cases h
  refine ⟨⟨_, journal_finalizeStageSuccess .., rfl, rfl⟩, ?_⟩
  exact syncTargets_upsert ..

theorem failSyncTargetStage_spec {eventId rowId : Uuid} {attempt : Nat} {reason error : String}
    (hitem : isDerivativeMaintenance (store.loadRecoveryItem eventId) = false)
    (h : failSyncTargetStage settings worker store target eventId attempt reason error rowId now =
      .ok store') :
    (∃ row, store'.journal (syncStageByTarget target) = some row ∧ row.status = .failed ∧
        row.lastEventId = some eventId) ∧
      ∃ snapshot, store'.syncTargets target = some snapshot ∧ snapshot.status = .failed ∧
        snapshot.lastEventId = some eventId := by
  unfold failSyncTargetStage markStageFailed at h
  dsimp only at h
  split at h
  · cases h
  split at h
  · cases h
  cases h
  refine ⟨⟨_, journal_applyStageFailure_of_not_derivative hitem .., rfl, rfl⟩, ?_⟩
  rw [syncTargets_applyStageFailure]
  exact syncTargets_upsert ..

variable {item : Option RecoveryJobItem} {eventId rowId : Uuid}

theorem syncTargets_reserveStage :
    (reserveStage store stage entry item none eventId rowId now).1.syncTargets =
      store.syncTargets :=
  syncTargets_saveOptionalItem ..

theorem journal_reserveStage_of_ne {other : ContentPipelineStage} (hne : other ≠ stage)
    (marked : Option SyncTargetKind) :
    (reserveStage store stage entry item marked eventId rowId now).1.journal other =
      store.journal other := by
  simp only [reserveStage, journal_markSyncReplayRequested, journal_saveOptionalItem,
    StageStore.setEntry, Function.update_of_ne hne]

theorem syncTargets_reserveStage_marked :
    ∃ snapshot, (reserveStage store stage entry item (some target) eventId rowId
        now).1.syncTargets target = some snapshot ∧ snapshot.status = .pending ∧
      snapshot.lastEventId = some eventId :=
  syncTargets_upsert ..

theorem syncTargets_reserveStage_of_ne {marked : Option SyncTargetKind} (hne : marked ≠ some target) :
    (reserveStage store stage entry item marked eventId rowId now).1.syncTargets target =
      store.syncTargets target := by
  cases marked with
  | none => rw [syncTargets_reserveStage]
  | some other =>
    refine (syncTargets_upsert_of_ne (fun heq => hne (congrArg some heq.symm)) ..).trans ?_
    exact congrFun (syncTargets_saveOptionalItem ..) target

/-- The tables after a replay that marks its target, as one target reads them: untouched, or both
copies reserved for the event. -/
inductive ReplayedSync (store : StageStore) (target : SyncTargetKind) (eventId : Uuid)
    (store' : StageStore) : Prop where
  | untouched
      (row : store'.journal (syncStageByTarget target) = store.journal (syncStageByTarget target))
      (snapshot : store'.syncTargets target = store.syncTargets target)
  | reserved (entry : PipelineStageJournal) (attempt : Nat)
      (row : store'.journal (syncStageByTarget target) =
        some (reserveReplay entry eventId attempt))
      (snapshot : ∃ marked, store'.syncTargets target = some marked ∧ marked.status = .pending ∧
        marked.lastEventId = some eventId)

theorem replayedSync_attach (item : Option RecoveryJobItem) {reserved : Uuid} :
    ReplayedSync store target eventId (attachReplay store entry reserved item now).1 :=
  .untouched (congrFun (journal_saveOptionalItem ..) _) (congrFun (syncTargets_saveOptionalItem ..) _)

theorem replayItem_sync (target : SyncTargetKind) {requested : Option ContentPipelineStage} {accepted}
    (h : replayItem store requested item eventId now = .ok (store', accepted)) :
    store'.syncTargets = store.syncTargets ∧
      (store'.journal (syncStageByTarget target) = store.journal (syncStageByTarget target) ∨
        ∃ entry, planReplayItem store requested =
            .ok (.reserve (syncStageByTarget target) (some entry)) ∧
          store'.journal (syncStageByTarget target) =
            some (reserveReplay entry eventId (nextAttempt entry))) := by
  unfold replayItem at h
  split at h
  · cases h
  · cases h
    exact ⟨syncTargets_saveOptionalItem .., .inl (congrFun (journal_saveOptionalItem ..) _)⟩
  · cases h
  next selected entry hplan =>
  cases h
  refine ⟨syncTargets_reserveStage, ?_⟩
  by_cases hsame : syncStageByTarget target = selected
  · subst hsame
    exact .inr ⟨entry, hplan, journal_reserveStage ..⟩
  · exact .inl (journal_reserveStage_of_ne hsame _)

theorem replayAdminStage_sync {owner : RecoveryJobItem} {accepted}
    (h : replayAdminStage store stage owner eventId rowId now = .ok (store', accepted)) :
    ReplayedSync store target eventId store' := by
  unfold replayAdminStage at h
  split at h
  · cases h
  · cases h
    exact replayedSync_attach (some owner)
  next loaded hplan =>
  cases h
  by_cases hsame : syncStageByTarget target = stage
  · have htarget : syncTargetOf stage = some target := syncTargetOf_eq_some_iff.mpr hsame.symm
    rw [htarget]
    subst hsame
    exact .reserved _ _ (journal_reserveStage ..) syncTargets_reserveStage_marked
  · refine .untouched (journal_reserveStage_of_ne hsame _) (syncTargets_reserveStage_of_ne ?_)
    intro htarget
    exact hsame (syncTargetOf_eq_some_iff.mp htarget).symm

theorem planReplaySyncTarget_stage {loaded : Option PipelineStageJournal}
    (h : planReplaySyncTarget store target = .ok (.reserve stage loaded)) :
    stage = syncStageByTarget target := by
  unfold planReplaySyncTarget planOnEntry at h
  dsimp only at h
  split at h
  · cases h
  split at h
  · cases h
  split at h
  · cases h
  split at h
  · split at h <;> cases h
  · cases h
    rfl

theorem replaySyncTarget_sync {other : SyncTargetKind} {accepted}
    (h : replaySyncTarget store other item eventId rowId now = .ok (store', accepted)) :
    ReplayedSync store target eventId store' := by
  unfold replaySyncTarget at h
  split at h
  · cases h
  · cases h
    exact replayedSync_attach item
  · cases h
  next selected entry hplan =>
  cases h
  obtain rfl := planReplaySyncTarget_stage hplan
  by_cases hsame : other = target
  · subst hsame
    exact .reserved entry _ (journal_reserveStage ..) syncTargets_reserveStage_marked
  refine .untouched (journal_reserveStage_of_ne ?_ _) (syncTargets_reserveStage_of_ne ?_)
  · exact fun heq => hsame (syncStageByTarget_injective heq.symm)
  · exact fun heq => hsame (Option.some.inj heq)

end Copies

end MemeExpert.Pipeline
