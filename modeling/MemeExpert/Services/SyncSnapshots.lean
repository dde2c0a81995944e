import MemeExpert.Lib.Results
import MemeExpert.Lib.Runs
import MemeExpert.Pipeline.SyncTargets
import MemeExpert.Services.RecoveryRuntime

/-! The row of a sync stage and the snapshot of its target record the same work. The
completion, the failure of the target and the replays that mark it write both. -/

namespace MemeExpert.Services

open Runs Pipeline

inductive SyncLabel where
  | fanOut (delivery : StageDelivery) (uuids : Nat → Uuid) (now : Time)
  | materialize (rowId : Uuid)
  | work (delivery : StageDelivery) (action : StageAction) (now : Time)
  | complete (eventId : Uuid) (attempt : Nat) (uuids : Nat → Uuid) (now : Time)
  | fail (eventId : Uuid) (attempt : Nat) (normalizedReason lastErrorText : String) (rowId : Uuid)
      (now : Time)
  | replayItem (requested : Option ContentPipelineStage) (item : Option RecoveryJobItem)
      (eventId : Uuid) (now : Time)
  | replayAdminStage (requested : ContentPipelineStage) (item : RecoveryJobItem)
      (eventId rowId : Uuid) (now : Time)
  | replaySyncTarget (requested : SyncTargetKind) (item : Option RecoveryJobItem)
      (eventId rowId : Uuid) (now : Time)
  | reclaim (item : Option RecoveryJobItem) (eventId : Uuid) (now : Time)
  | release (state : PreviousStageState) (outboxError : Option String) (now : Time)
  | environment (store : StageStore)

section Machine

variable (settings : PipelineSettings) (worker : StageWorker) (target : SyncTargetKind)

def isFreshEvent (s : StageStore) (eventId : Uuid) : Bool :=
  ((s.journal (syncStageByTarget target)).all fun row => row.lastEventId ≠ some eventId) ∧
    ((s.syncTargets target).all fun snapshot => snapshot.lastEventId ≠ some eventId)

def syncStep (s : StageStore) : SyncLabel → Option StageStore
  | .fanOut delivery uuids now =>
    if delivery.stage ∉ syncStages then (markStageSucceeded worker s delivery uuids now).toOption
    else none
  | .materialize rowId =>
    let stage := syncStageByTarget target
    if s.journal stage = none then some (s.setEntry stage (unmaterializedEntry s stage rowId))
    else none
  | .work delivery action now =>
    -- a sync stage succeeds with its target, and no derivative regeneration owns its events
    if delivery.stage = syncStageByTarget target ∧ action.outcome ≠ .succeeded ∧
        action.restores s delivery.eventId = false then
      (runStageAction settings worker s delivery now action).toOption
    else none
  | .complete eventId attempt uuids now =>
    (completeSyncTargetStage worker s target eventId attempt uuids now).toOption
  | .fail eventId attempt normalizedReason lastErrorText rowId now =>
    if isDerivativeMaintenance (s.loadRecoveryItem eventId) = false then
      (failSyncTargetStage settings worker s target eventId attempt normalizedReason lastErrorText
        rowId now).toOption
    else none
  | .replayItem requested item eventId now =>
    if isFreshEvent target s eventId then
      ((replayItem s requested item eventId now).map (·.1)).toOption
    else none
  | .replayAdminStage requested item eventId rowId now =>
    if isFreshEvent target s eventId then
      ((replayAdminStage s requested item eventId rowId now).map (·.1)).toOption
    else none
  | .replaySyncTarget requested item eventId rowId now =>
    if isFreshEvent target s eventId then
      ((replaySyncTarget s requested item eventId rowId now).map (·.1)).toOption
    else none
  | .reclaim item eventId now =>
    match s.journal (syncStageByTarget target) with
    | none => none
    | some entry =>
      -- the journal files every row under its own stage
      if entry.stage = syncStageByTarget target ∧ entry.status = .processing ∧
          isFreshEvent target s eventId then
        ((reclaimStuckStage settings s (syncStageByTarget target) entry item eventId now).map
          (·.1)).toOption
      else none
  | .release state outboxError now =>
    match s.journal (syncStageByTarget target) with
    | none => none
    | some entry =>
      if entry.status = .pending then
        some (s.setEntry (syncStageByTarget target) (releasedEntry entry state outboxError now))
      else none
  | .environment store =>
    if store.journal (syncStageByTarget target) = s.journal (syncStageByTarget target) ∧
        store.syncTargets target = s.syncTargets target then some store
    else none

end Machine

def statusesMatch : ContentPipelineStageStatus → SyncTargetStatus → Bool
  | .pending, .pending | .pending, .processing => true
  | .processing, .pending | .processing, .processing => true
  | .succeeded, .synced | .failed, .failed => true
  | _, _ => false

/-- The outcome a snapshot holds for an event, at a row of the event: a row that runs, is run again
or was interrupted has not been recorded yet. -/
def outcomeMatches : ContentPipelineStageStatus → SyncTargetStatus → Bool
  | .pending, .pending | .processing, .pending | .failed, .pending => true
  | .processing, .failed | .failed, .failed => true
  | .succeeded, .synced => true
  | _, _ => false

section Agreement

variable (target : SyncTargetKind)

def CopiesAgree (s : StageStore) : Prop :=
  ∀ row snapshot, s.journal (syncStageByTarget target) = some row →
    s.syncTargets target = some snapshot →
    snapshot.lastEventId = row.lastEventId ∧ statusesMatch row.status snapshot.status = true

def SameEvent (s : StageStore) : Prop :=
  ∀ row snapshot, s.journal (syncStageByTarget target) = some row →
    s.syncTargets target = some snapshot → snapshot.lastEventId = row.lastEventId

structure OutcomesMatch (s : StageStore) : Prop where
  row_of_snapshot : (s.syncTargets target).isSome → (s.journal (syncStageByTarget target)).isSome
  outcome : ∀ row snapshot, s.journal (syncStageByTarget target) = some row →
    s.syncTargets target = some snapshot → snapshot.lastEventId = row.lastEventId →
    outcomeMatches row.status snapshot.status = true

def Unsynced (s : StageStore) : Prop :=
  s.journal (syncStageByTarget target) = none ∧ s.syncTargets target = none

def ownsOrBehind (s : StageStore) (delivery : StageDelivery) : Bool :=
  (s.journal (syncStageByTarget target)).all fun row =>
    row.lastEventId = some delivery.eventId ∨ delivery.attempt < row.attemptCount

/-- The step records no failure over a success, takes no row from its event, and puts back no row
that contradicts the snapshot. -/
def keepsOutcome (s : StageStore) (snapshot : MemeFileSyncTargetSnapshot) : SyncLabel → Bool
  | .work delivery action _ =>
    ownsOrBehind target s delivery ∧
      (action.outcome = .failed →
        (s.journal (syncStageByTarget target)).all fun row => row.status ≠ .succeeded)
  | .release state _ _ => state.stageSnapshot.all fun restored =>
    restored.lastEventId = snapshot.lastEventId →
      outcomeMatches restored.status snapshot.status
  | _ => true

def keepsEvent (settings : PipelineSettings) (s : StageStore)
    (snapshot : MemeFileSyncTargetSnapshot) : SyncLabel → Bool
  | .replayItem requested _ _ _ =>
    match planReplayItem s requested with
    | .ok (.reserve stage _) => stage ≠ syncStageByTarget target
    | _ => true
  | .reclaim .. => (s.journal (syncStageByTarget target)).all fun row =>
    settings.brokerRetryMaxAttempts ≤ row.attemptCount
  | .release state _ _ => state.stageSnapshot.all fun restored =>
    restored.lastEventId = snapshot.lastEventId
  | _ => true

def KeepsOutcome (x : Transition StageStore SyncLabel) : Prop :=
  (x.before.syncTargets target).all fun snapshot => keepsOutcome target x.before snapshot x.label

def KeepsEvent (settings : PipelineSettings) (x : Transition StageStore SyncLabel) : Prop :=
  (x.before.syncTargets target).all fun snapshot =>
    keepsEvent target settings x.before snapshot x.label

instance (x : Transition StageStore SyncLabel) : Decidable (KeepsOutcome target x) :=
  inferInstanceAs (Decidable (Option.all _ _ = true))

instance (settings : PipelineSettings) (x : Transition StageStore SyncLabel) :
    Decidable (KeepsEvent target settings x) :=
  inferInstanceAs (Decidable (Option.all _ _ = true))

def writesBoth : SyncLabel → Bool
  | .complete .. | .fail .. | .replayAdminStage .. | .replaySyncTarget .. => true
  | _ => false

def LeavesCopies (s t : StageStore) : Prop :=
  t.journal (syncStageByTarget target) = s.journal (syncStageByTarget target) ∧
    t.syncTargets target = s.syncTargets target

inductive SyncEffect (settings : PipelineSettings) (s : StageStore) (label : SyncLabel)
    (t : StageStore) : Prop where
  | untouched (same : LeavesCopies target s t)
  | inserted (absent : s.journal (syncStageByTarget target) = none)
      (single : writesBoth label = false) (snapshot : t.syncTargets target = s.syncTargets target)
  | recorded (row : PipelineStageJournal) (snapshot : MemeFileSyncTargetSnapshot)
      (hrow : t.journal (syncStageByTarget target) = some row)
      (hsnapshot : t.syncTargets target = some snapshot)
      (event : snapshot.lastEventId = row.lastEventId)
      (agree : statusesMatch row.status snapshot.status = true)
      (outcome : outcomeMatches row.status snapshot.status = true)
  | worked (delivery : StageDelivery) (action : StageAction) (now : Time)
      (hlabel : label = .work delivery action now) (entry row : PipelineStageJournal)
      (hentry : s.journal (syncStageByTarget target) = some entry)
      (hrow : t.journal (syncStageByTarget target) = some row)
      (snapshot : t.syncTargets target = s.syncTargets target)
      (success : action.outcome ≠ .succeeded)
      (writes : action.writes entry delivery = true)
      (written : WrittenFor entry delivery action row)
  | reserved (row : PipelineStageJournal) (eventId : Uuid)
      (fresh : isFreshEvent target s eventId = true) (single : writesBoth label = false)
      (hrow : t.journal (syncStageByTarget target) = some row)
      (hevent : row.lastEventId = some eventId)
      (snapshot : t.syncTargets target = s.syncTargets target)
      (moves : ∀ held, keepsEvent target settings s held label = false)
  | interrupted (entry row : PipelineStageJournal) (single : writesBoth label = false)
      (hentry : s.journal (syncStageByTarget target) = some entry)
      (unfinished : entry.status = .processing ∨ entry.status = .pending)
      (hrow : t.journal (syncStageByTarget target) = some row)
      (hevent : row.lastEventId = entry.lastEventId) (failed : row.status = .failed)
      (snapshot : t.syncTargets target = s.syncTargets target)
  | restored (state : PreviousStageState) (outboxError : Option String) (now : Time)
      (hlabel : label = .release state outboxError now) (held : StageJournalSnapshot)
      (hheld : state.stageSnapshot = some held) (row : PipelineStageJournal)
      (hrow : t.journal (syncStageByTarget target) = some row)
      (hevent : row.lastEventId = held.lastEventId) (hstatus : row.status = held.status)
      (snapshot : t.syncTargets target = s.syncTargets target)

end Agreement

section Steps

variable {settings : PipelineSettings} {worker : StageWorker} {target : SyncTargetKind}
  {s t : StageStore} {eventId : Uuid} {now : Time}

variable {delivery : StageDelivery}

theorem SyncEffect.fanOut {uuids : Nat → Uuid}
    (hstage : delivery.stage ∉ syncStages)
    (h : markStageSucceeded worker s delivery uuids now = .ok t) :
    SyncEffect target settings s (.fanOut delivery uuids now) t := by
  have hrun : runStageAction settings worker s delivery now (.succeed uuids) = .ok t := h
  have hsnapshot := syncTargets_runStageAction hrun
  cases hrow : s.journal (syncStageByTarget target) with
  | none => exact .inserted hrow rfl (congrFun hsnapshot target)
  | some row =>
    have hne : syncStageByTarget target ≠ delivery.stage := by
      intro heq
      exact hstage (heq ▸ syncStageByTarget_mem target)
    have hkept := journal_markStageSucceeded_of_ne h hne (by rw [hrow]; rfl)
    exact .untouched ⟨hkept, congrFun hsnapshot target⟩

variable {action : StageAction}

theorem SyncEffect.work
    (hstage : delivery.stage = syncStageByTarget target) (hsuccess : action.outcome ≠ .succeeded)
    (hkeeps : action.restores s delivery.eventId = false)
    (h : runStageAction settings worker s delivery now action = .ok t) :
    SyncEffect target settings s (.work delivery action now) t := by
  have hsnapshot := congrFun (syncTargets_runStageAction h) target
  cases hentry : s.journal delivery.stage with
  | none =>
    rw [runStageAction_of_none hentry] at h
    cases h
  | some entry =>
    cases hwrites : action.writes entry delivery with
    | false =>
      rw [runStageAction_of_idle hentry hwrites h]
      exact .untouched ⟨rfl, rfl⟩
    | true =>
      obtain ⟨hge, hrow⟩ := runStageAction_of_writes hentry hwrites h
      rw [hstage] at hentry hrow
      exact .worked delivery action now rfl entry _ hentry hrow hsnapshot hsuccess hwrites
        (writtenFor_of_writes hge hkeeps)

variable {row : PipelineStageJournal} {snapshot : MemeFileSyncTargetSnapshot}

theorem SyncEffect.recorded_of (status : ContentPipelineStageStatus) (held : SyncTargetStatus)
    {label : SyncLabel}
    (hmatch : statusesMatch status held = true)
    (houtcome : outcomeMatches status held = true)
    (hrow : t.journal (syncStageByTarget target) = some row ∧ row.status = status ∧
      row.lastEventId = some eventId)
    (hsnapshot : t.syncTargets target = some snapshot ∧ snapshot.status = held ∧
      snapshot.lastEventId = some eventId) :
    SyncEffect target settings s label t := by
  obtain ⟨hrow, rfl, hevent⟩ := hrow
  obtain ⟨hsnapshot, rfl, hsame⟩ := hsnapshot
  exact .recorded row snapshot hrow hsnapshot (hsame.trans hevent.symm) hmatch houtcome

theorem SyncEffect.of_replayed {label : SyncLabel} (h : ReplayedSync s target eventId t) :
    SyncEffect target settings s label t := by
  cases h with
  | untouched row snapshot => exact .untouched ⟨row, snapshot⟩
  | reserved entry attempt row snapshot =>
    obtain ⟨marked, hmarked⟩ := snapshot
    exact .recorded_of .pending .pending rfl rfl ⟨row, rfl, rfl⟩ hmarked

theorem SyncEffect.replayItem {requested : Option ContentPipelineStage}
    {item : Option RecoveryJobItem} {accepted : ContentPipelineReplayAccepted}
    (hfresh : isFreshEvent target s eventId = true)
    (h : Pipeline.replayItem s requested item eventId now = .ok (t, accepted)) :
    SyncEffect target settings s (.replayItem requested item eventId now) t := by
  obtain ⟨hsnapshot, hrow⟩ := replayItem_sync target h
  rcases hrow with hrow | ⟨entry, hplan, hrow⟩
  · exact .untouched ⟨hrow, congrFun hsnapshot target⟩
  refine .reserved _ eventId hfresh rfl hrow rfl (congrFun hsnapshot target) ?_
  intro held
  simp [keepsEvent, hplan]

variable {entry : PipelineStageJournal}

theorem SyncEffect.reclaim {item : Option RecoveryJobItem}
    {accepted : Option ContentPipelineReplayAccepted}
    (hentry : s.journal (syncStageByTarget target) = some entry)
    (hstage : entry.stage = syncStageByTarget target) (hrunning : entry.status = .processing)
    (hfresh : isFreshEvent target s eventId = true)
    (h : reclaimStuckStage settings s (syncStageByTarget target) entry item eventId now =
      .ok (t, accepted)) :
    SyncEffect target settings s (.reclaim item eventId now) t := by
  have hspec := reclaimStuckStage_spec hstage h
  unfold reclaimStuckStage at h
  dsimp only at h
  split at h
  · cases h
    exact .interrupted entry _ rfl hentry (.inl hrunning) (StageStore.journal_setEntry ..) rfl rfl rfl
  next hlimit =>
  obtain ⟨⟨store, replay⟩, hreplay, hresult⟩ := Results.map_eq_ok.mp h
  obtain ⟨rfl, rfl⟩ := Prod.mk.inj hresult
  obtain ⟨habsurd, -⟩ | ⟨-, -, -, -, hrow⟩ := hspec
  · cases habsurd
  have hsnapshot := (replayItem_sync target hreplay).1
  refine .reserved _ eventId hfresh rfl hrow rfl (congrFun hsnapshot target) ?_
  intro held
  simpa [keepsEvent, hentry] using hlimit

theorem SyncEffect.release {state : PreviousStageState} {outboxError : Option String}
    (hentry : s.journal (syncStageByTarget target) = some entry)
    (hpending : entry.status = .pending) :
    SyncEffect target settings s (.release state outboxError now)
      (s.setEntry (syncStageByTarget target) (releasedEntry entry state outboxError now)) := by
  have hrow := StageStore.journal_setEntry s (syncStageByTarget target)
    (releasedEntry entry state outboxError now)
  cases hheld : state.stageSnapshot with
  | none =>
    refine .interrupted entry _ rfl hentry (.inr hpending) hrow ?_ ?_ rfl <;>
      simp [releasedEntry, restoreStageSnapshot, hheld]
  | some held =>
    refine .restored state outboxError now rfl held hheld _ hrow ?_ ?_ rfl <;>
      simp [releasedEntry, restoreStageSnapshot, hheld]

theorem syncEffect_of_step {label : SyncLabel}
    (h : syncStep settings worker target s label = some t) :
    SyncEffect target settings s label t := by
  cases label <;> simp only [syncStep, Option.ite_none_right_eq_some, Results.toOption_eq_some,
    Results.map_eq_ok] at h
  case fanOut delivery uuids now => exact .fanOut h.1 h.2
  case materialize rowId =>
    obtain ⟨habsent, rfl⟩ : _ ∧ _ := by simpa using h
    exact .inserted habsent rfl rfl
  case work delivery action now => exact .work h.1.1 h.1.2.1 h.1.2.2 h.2
  case complete eventId attempt uuids now =>
    obtain ⟨⟨row, hrow⟩, snapshot, hsnapshot⟩ := completeSyncTargetStage_spec h
    exact .recorded_of .succeeded .synced rfl rfl hrow hsnapshot
  case fail eventId attempt normalizedReason lastErrorText rowId now =>
    obtain ⟨⟨row, hrow⟩, snapshot, hsnapshot⟩ := failSyncTargetStage_spec h.1 h.2
    exact .recorded_of .failed .failed rfl rfl hrow hsnapshot
  case replayItem requested item eventId now =>
    obtain ⟨hfresh, ⟨store, accepted⟩, hreplay, rfl⟩ := h
    exact .replayItem hfresh hreplay
  case replayAdminStage requested item eventId rowId now =>
    obtain ⟨-, ⟨store, accepted⟩, hreplay, rfl⟩ := h
    exact .of_replayed (replayAdminStage_sync hreplay)
  case replaySyncTarget requested item eventId rowId now =>
    obtain ⟨-, ⟨store, accepted⟩, hreplay, rfl⟩ := h
    exact .of_replayed (replaySyncTarget_sync hreplay)
  case reclaim item eventId now =>
    split at h
    · cases h
    next entry hentry =>
    simp only [Option.ite_none_right_eq_some, Results.toOption_eq_some, Results.map_eq_ok] at h
    obtain ⟨⟨hstage, hrunning, hfresh⟩, ⟨store, accepted⟩, hreclaim, rfl⟩ := h
    exact .reclaim hentry hstage hrunning hfresh hreclaim
  case release state outboxError now =>
    split at h
    · cases h
    next entry hentry =>
    simp only [Option.ite_none_right_eq_some, Option.some.injEq] at h
    obtain ⟨hpending, rfl⟩ := h
    exact .release hentry hpending
  case environment store =>
    obtain ⟨hsame, rfl⟩ : _ ∧ _ := by simpa using h
    exact .untouched hsame

variable {label : SyncLabel}

theorem outcomeMatches_of_unfinished {status : ContentPipelineStageStatus} {held : SyncTargetStatus}
    (h : outcomeMatches status held = true) (hstatus : status ≠ .succeeded) :
    outcomeMatches .processing held = true ∧ outcomeMatches .failed held = true := by
  cases status <;> cases held <;> simp_all [outcomeMatches]

theorem OutcomesMatch.of_unsynced (h : Unsynced target s) : OutcomesMatch target s where
  row_of_snapshot hsome := by
    rw [h.2] at hsome
    cases hsome
  outcome _ _ hrow := by
    rw [h.1] at hrow
    cases hrow

variable {snapshot : MemeFileSyncTargetSnapshot}

theorem isFreshEvent_snapshot {eventId : Uuid}
    (h : isFreshEvent target s eventId = true) (hsnapshot : s.syncTargets target = some snapshot) :
    snapshot.lastEventId ≠ some eventId := by
  simp only [isFreshEvent, hsnapshot, Option.all_some, decide_eq_true_eq] at h
  exact h.2

variable {action : StageAction} {delivery : StageDelivery} {entry row : PipelineStageJournal}

theorem owns_of_keepsOutcome {now : Time}
    (hkeeps : keepsOutcome target s snapshot (.work delivery action now) = true)
    (hentry : s.journal (syncStageByTarget target) = some entry)
    (hwritten : WrittenFor entry delivery action row) :
    row.lastEventId = entry.lastEventId ∧ (action.outcome = .failed → entry.status ≠ .succeeded) := by
  simp only [keepsOutcome, ownsOrBehind, hentry, Option.all_some, decide_eq_true_eq] at hkeeps
  obtain ⟨howns | hbehind, hfailed⟩ := hkeeps
  · exact ⟨hwritten.lastEventId.trans howns.symm, hfailed⟩
  · exact absurd hwritten.current (Nat.not_le.mpr hbehind)

theorem outcomeMatches_worked (houtcome : outcomeMatches entry.status snapshot.status = true)
    (hevent : row.lastEventId = entry.lastEventId)
    (hfailed : action.outcome = .failed → entry.status ≠ .succeeded)
    (hsuccess : action.outcome ≠ .succeeded) (hwrites : action.writes entry delivery = true)
    (hwritten : WrittenFor entry delivery action row) :
    outcomeMatches row.status snapshot.status = true := by
  rw [hwritten.status]
  cases action with
  | start =>
    have hunfinished : entry.status ≠ .succeeded := by
      intro hdone
      have howns : entry.lastEventId = some delivery.eventId := hevent.symm.trans hwritten.lastEventId
      simp [StageAction.writes, alreadyTaken, howns, hdone] at hwrites
    exact (outcomeMatches_of_unfinished houtcome hunfinished).1
  | succeed uuids => exact absurd rfl hsuccess
  | fail failure => exact (outcomeMatches_of_unfinished houtcome (hfailed rfl)).2
  | abandon => exact (outcomeMatches_of_unfinished houtcome (hfailed rfl)).2

theorem OutcomesMatch.step (h : OutcomesMatch target s) (heffect : SyncEffect target settings s label t)
    (hkeeps : ∀ snapshot, s.syncTargets target = some snapshot →
      keepsOutcome target s snapshot label = true) : OutcomesMatch target t := by
  cases heffect with
  | untouched same =>
    obtain ⟨hrow, hsnapshot⟩ := same
    exact ⟨by rw [hrow, hsnapshot]; exact h.1, by rw [hrow, hsnapshot]; exact h.2⟩
  | inserted absent single snapshot =>
    have hnone : t.syncTargets target = none := by
      have hrow := h.row_of_snapshot
      rw [absent] at hrow
      rw [snapshot]
      exact Option.not_isSome_iff_eq_none.mp fun hsome => nomatch hrow hsome
    exact ⟨fun hsome => by simp [hnone] at hsome, fun _ _ _ hsome => by simp [hnone] at hsome⟩
  | recorded row snapshot hrow hsnapshot event agree outcome =>
    refine ⟨fun _ => by simp [hrow], ?_⟩
    intro row' snapshot' hrow' hsnapshot' _
    obtain rfl := Option.some.inj (hrow.symm.trans hrow')
    obtain rfl := Option.some.inj (hsnapshot.symm.trans hsnapshot')
    exact outcome
  | worked delivery action now hlabel entry row hentry hrow snapshot success writes written =>
    subst hlabel
    refine ⟨fun _ => by simp [hrow], ?_⟩
    intro row' held hrow' hheld hsame
    obtain rfl := Option.some.inj (hrow.symm.trans hrow')
    rw [snapshot] at hheld
    obtain ⟨hevent, hfailed⟩ := owns_of_keepsOutcome (hkeeps held hheld) hentry written
    have houtcome := h.outcome entry held hentry hheld (hsame.trans hevent)
    exact outcomeMatches_worked houtcome hevent hfailed success writes written
  | reserved row eventId fresh single hrow hevent snapshot moves =>
    refine ⟨fun _ => by simp [hrow], ?_⟩
    intro row' held hrow' hheld hsame
    obtain rfl := Option.some.inj (hrow.symm.trans hrow')
    rw [snapshot] at hheld
    exact absurd (hsame.trans hevent) (isFreshEvent_snapshot fresh hheld)
  | interrupted entry row single hentry unfinished hrow hevent failed snapshot =>
    refine ⟨fun _ => by simp [hrow], ?_⟩
    intro row' held hrow' hheld hsame
    obtain rfl := Option.some.inj (hrow.symm.trans hrow')
    rw [snapshot] at hheld
    have houtcome := h.outcome entry held hentry hheld (hsame.trans hevent)
    have hstatus : entry.status ≠ .succeeded := by
      rcases unfinished with hstatus | hstatus <;> simp [hstatus]
    rw [failed]
    exact (outcomeMatches_of_unfinished houtcome hstatus).2
  | restored state outboxError now hlabel held hheld row hrow hevent hstatus snapshot =>
    subst hlabel
    refine ⟨fun _ => by simp [hrow], ?_⟩
    intro row' kept hrow' hkept hsame
    obtain rfl := Option.some.inj (hrow.symm.trans hrow')
    rw [snapshot] at hkept
    have hputBack := hkeeps kept hkept
    simp only [keepsOutcome, hheld, Option.all_some, decide_eq_true_eq] at hputBack
    rw [hstatus]
    exact hputBack (hevent.symm.trans hsame.symm)

theorem SameEvent.step (h : SameEvent target s) (hmatch : OutcomesMatch target s)
    (heffect : SyncEffect target settings s label t)
    (hkeeps : ∀ snapshot, s.syncTargets target = some snapshot →
      keepsOutcome target s snapshot label = true)
    (hevents : ∀ snapshot, s.syncTargets target = some snapshot →
      keepsEvent target settings s snapshot label = true) : SameEvent target t := by
  intro row' held hrow' hheld
  cases heffect with
  | untouched same =>
    rw [same.1] at hrow'
    rw [same.2] at hheld
    exact h row' held hrow' hheld
  | inserted absent single snapshot =>
    rw [snapshot] at hheld
    have hrow := hmatch.row_of_snapshot (by simp [hheld])
    simp [absent] at hrow
  | recorded row snapshot hrow hsnapshot event agree outcome =>
    obtain rfl := Option.some.inj (hrow.symm.trans hrow')
    obtain rfl := Option.some.inj (hsnapshot.symm.trans hheld)
    exact event
  | worked delivery action now hlabel entry row hentry hrow snapshot success writes written =>
    subst hlabel
    obtain rfl := Option.some.inj (hrow.symm.trans hrow')
    rw [snapshot] at hheld
    obtain ⟨hevent, -⟩ := owns_of_keepsOutcome (hkeeps held hheld) hentry written
    exact (h entry held hentry hheld).trans hevent.symm
  | reserved row eventId fresh single hrow hevent snapshot moves =>
    rw [snapshot] at hheld
    have hmoved := hevents held hheld
    rw [moves held] at hmoved
    cases hmoved
  | interrupted entry row single hentry unfinished hrow hevent failed snapshot =>
    obtain rfl := Option.some.inj (hrow.symm.trans hrow')
    rw [snapshot] at hheld
    exact (h entry held hentry hheld).trans hevent.symm
  | restored state outboxError now hlabel kept hkept row hrow hevent hstatus snapshot =>
    subst hlabel
    obtain rfl := Option.some.inj (hrow.symm.trans hrow')
    rw [snapshot] at hheld
    have hputBack := hevents held hheld
    simp only [keepsEvent, hkept, Option.all_some, decide_eq_true_eq] at hputBack
    exact hputBack.symm.trans hevent.symm

theorem copiesAgree_of_writesBoth (heffect : SyncEffect target settings s label t)
    (hwrites : writesBoth label = true) : LeavesCopies target s t ∨ CopiesAgree target t := by
  cases heffect with
  | untouched same => exact .inl same
  | inserted absent single | reserved row eventId fresh single | interrupted entry row single =>
    rw [single] at hwrites
    cases hwrites
  | worked delivery action now hlabel | restored state outboxError now hlabel =>
    subst hlabel
    cases hwrites
  | recorded row snapshot hrow hsnapshot event agree outcome =>
    refine .inr ?_
    intro row' snapshot' hrow' hsnapshot'
    obtain rfl := Option.some.inj (hrow.symm.trans hrow')
    obtain rfl := Option.some.inj (hsnapshot.symm.trans hsnapshot')
    exact ⟨event, agree⟩

end Steps

section Runs

variable (settings : PipelineSettings) (worker : StageWorker) (target : SyncTargetKind)

theorem outcomesMatch_of_run {s : StageStore} (hinit : Unsynced target s) (labels : List SyncLabel)
    (hkeeps : ∀ x ∈ transitions (syncStep settings worker target) s labels,
      KeepsOutcome target x) :
    OutcomesMatch target (final (syncStep settings worker target) s labels) :=
  invariant_final (.of_unsynced hinit) fun x hx hbefore =>
    hbefore.step (syncEffect_of_step (step_of_mem_transitions hx))
      ((Option.all_eq_true _ _).mp (hkeeps x hx))

theorem sameEvent_of_run {s : StageStore} (hinit : Unsynced target s) (labels : List SyncLabel)
    (hkeeps : ∀ x ∈ transitions (syncStep settings worker target) s labels,
      KeepsOutcome target x ∧ KeepsEvent target settings x) :
    SameEvent target (final (syncStep settings worker target) s labels) := by
  have hrun : OutcomesMatch target (final (syncStep settings worker target) s labels) ∧
      SameEvent target (final (syncStep settings worker target) s labels) :=
    invariant_final (P := fun u => OutcomesMatch target u ∧ SameEvent target u)
    ⟨.of_unsynced hinit, fun _ _ hrow => by simp [hinit.1] at hrow⟩ fun x hx hbefore =>
      have heffect := syncEffect_of_step (step_of_mem_transitions hx)
      have houtcomes := (Option.all_eq_true _ _).mp (hkeeps x hx).1
      ⟨hbefore.1.step heffect houtcomes,
        hbefore.2.step hbefore.1 heffect houtcomes ((Option.all_eq_true _ _).mp (hkeeps x hx).2)⟩
  exact hrun.2

/-- A call that writes both copies leaves them in agreement. In a run that keeps the recorded
outcomes, copies at one event hold one outcome; where the row keeps to its event as well, they are
at one event. -/
theorem syncCopies_of_run {s : StageStore} (hinit : Unsynced target s) (labels : List SyncLabel) :
    (∀ x ∈ transitions (syncStep settings worker target) s labels, writesBoth x.label = true →
        LeavesCopies target x.before x.after ∨ CopiesAgree target x.after) ∧
      ((∀ x ∈ transitions (syncStep settings worker target) s labels, KeepsOutcome target x) →
        OutcomesMatch target (final (syncStep settings worker target) s labels)) ∧
      ((∀ x ∈ transitions (syncStep settings worker target) s labels,
          KeepsOutcome target x ∧ KeepsEvent target settings x) →
        SameEvent target (final (syncStep settings worker target) s labels)) := by
  refine ⟨?_, outcomesMatch_of_run settings worker target hinit labels,
    sameEvent_of_run settings worker target hinit labels⟩
  intro x hx hwrites
  exact copiesAgree_of_writesBoth (syncEffect_of_step (step_of_mem_transitions hx)) hwrites

end Runs

def classifying : StageStore where
  memeFile := { id := 1, memeId := 1, status := .processing, s3OriginalKey := "original" }
  journal := fun stage =>
    if stage = .classify then
      some { id := 1, memeFileId := 1, stage := .classify, status := .processing, attemptCount := 1
             lastEventId := some 1 }
    else none

def qdrantSync (attempt : Nat) : StageDelivery := ⟨.syncQdrant, 10, attempt⟩

def failedSync : List SyncLabel :=
  [.fanOut ⟨.classify, 1, 1⟩ (· + 10) 5, .work (qdrantSync 1) .start 6,
    .fail 10 1 "qdrant_unavailable" "refused" 40 7]

def replayedSync : List SyncLabel :=
  failedSync ++ [.replaySyncTarget .qdrant none 50 51 8, .work ⟨.syncQdrant, 50, 2⟩ .start 9,
    .complete 50 2 (· + 60) 10]

theorem syncCopies_of_run_replayed :
    ((final (syncStep {} {} .qdrant) classifying replayedSync).syncTargets .qdrant).map
        (·.status) = some .synced ∧
      OutcomesMatch .qdrant (final (syncStep {} {} .qdrant) classifying replayedSync) ∧
      SameEvent .qdrant (final (syncStep {} {} .qdrant) classifying replayedSync) := by
  have hinit : Unsynced .qdrant classifying := ⟨rfl, rfl⟩
  have hkeeps : ∀ x ∈ transitions (syncStep {} {} .qdrant) classifying replayedSync,
      KeepsOutcome .qdrant x ∧ KeepsEvent .qdrant {} x := by
    decide
  obtain ⟨-, houtcomes, hevents⟩ := syncCopies_of_run {} {} .qdrant hinit replayedSync
  exact ⟨by decide, houtcomes fun x hx => (hkeeps x hx).1, hevents hkeeps⟩

/-- The retry of a failed sync runs while the snapshot holds the failure. -/
theorem not_copiesAgree_retried :
    ¬ ∀ (settings : PipelineSettings) (worker : StageWorker) (target : SyncTargetKind)
      (s : StageStore), Unsynced target s → ∀ labels,
        CopiesAgree target (final (syncStep settings worker target) s labels) := by
  intro h
  have hagree := h {} {} .qdrant classifying ⟨rfl, rfl⟩
    (failedSync ++ [.work (qdrantSync 2) .start 8])
  obtain ⟨-, hmatch⟩ := hagree _ _ rfl rfl
  revert hmatch
  decide

end MemeExpert.Services
