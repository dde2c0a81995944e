import MemeExpert.Services.RecoveryLifeCycle
import MemeExpert.Services.RecoveryWork
import MemeExpert.Services.StuckIngest

/-! A pass of the recovery loop looks at every dispatched item and judges it by the row it
was dispatched for. -/

namespace MemeExpert.Services

open Messaging Pipeline Tables

/-- The tables the recovery loops read and write. `files` gives the file that a row refers to. -/
structure RecoveryTables where
  files : Uuid → MemeFile
  stages : Table (fun entry : Stamped PipelineStageJournal => entry.row.id) := {}
  syncTargets : List MemeFileSyncTargetSnapshot := []
  generations : List MediaGeneration := []
  ingestRequests : List PipelineIngestRequest := []
  backfills : List SourceChannelBackfillJob := []
  backfillAttempts : List SourceChannelBackfillAttempt := []
  sourcePosts : List SourceChannelPost := []
  deadLetters : List PipelineDeadLetter := []
  outbox : List RabbitMQOutboxMessage := []
  items : Table RecoveryJobItem.id := {}
  jobs : Uuid → Option RecoveryJob := fun _ => none
  stageSlots :
    (stages.rows.map fun entry => (entry.row.memeFileId, entry.row.stage)).Nodup := by simp

def writeStage (loaded updated : PipelineStageJournal) (now : Time)
    (entry : Stamped PipelineStageJournal) : Stamped PipelineStageJournal :=
  if entry.row.id = loaded.id then
    { row := PipelineStageJournal.writeBack loaded updated entry.row, updatedAt := now }
  else entry

section WriteStage

variable (loaded updated : PipelineStageJournal) (now : Time) (entry : Stamped PipelineStageJournal)

theorem id_writeStage :
    ((fun entry : Stamped PipelineStageJournal => entry.row.id) ∘ writeStage loaded updated now)
      entry = entry.row.id := by
  simp only [Function.comp, writeStage]
  split <;> rfl

theorem slot_writeStage :
    ((fun entry : Stamped PipelineStageJournal => (entry.row.memeFileId, entry.row.stage)) ∘
      writeStage loaded updated now) entry = (entry.row.memeFileId, entry.row.stage) := by
  simp only [Function.comp, writeStage]
  split <;> rfl

end WriteStage

/-- `_try_parse_uuid` on the id of a work. -/
def workRowId : RecoveryWorkId → Option Uuid
  | .row id => some id
  | .planned .. => none

/-- What a second look at the work of an item finds. -/
abbrev WorkLookups := WorkKey → WorkLookup

namespace RecoveryTables

variable (t : RecoveryTables)

def stageRow (memeFileId : Uuid) (stage : ContentPipelineStage) : Option PipelineStageJournal :=
  (t.stages.rows.find? fun entry =>
    (entry.row.memeFileId, entry.row.stage) = (memeFileId, stage)).map (·.row)

def stageOf (workId : RecoveryWorkId) : Option PipelineStageJournal :=
  (workRowId workId).bind fun id => (t.stages.get id).map (·.row)

def syncTargetOf (workId : RecoveryWorkId) : Option MemeFileSyncTargetSnapshot :=
  (workRowId workId).bind fun id => t.syncTargets.find? fun row => row.id = id

def ingestRequestOf (workId : RecoveryWorkId) : Option PipelineIngestRequest :=
  (workRowId workId).bind fun id => t.ingestRequests.find? fun row => row.id = id

def backfillOf (workId : RecoveryWorkId) : Option SourceChannelBackfillJob :=
  (workRowId workId).bind fun id => t.backfills.find? fun row => row.id = id

def sourcePostOf (workId : RecoveryWorkId) : Option SourceChannelPost :=
  (workRowId workId).bind fun id => t.sourcePosts.find? fun row => row.id = id

def outboxOf (workId : RecoveryWorkId) : Option RabbitMQOutboxMessage :=
  (workRowId workId).bind fun id => t.outbox.find? fun row => row.id = id

def deadLetterOf (workId : RecoveryWorkId) : Option PipelineDeadLetter :=
  (workRowId workId).bind fun id => t.deadLetters.find? fun row => row.id = id

def generationOf (itemId : Uuid) : Option MediaGeneration :=
  Queries.firstBy (fun a b => decide (b.createdAt < a.createdAt))
    (t.generations.filter fun generation => generation.recoveryItemId = some itemId)

def dispatchOutboxForItem (item : RecoveryJobItem) : Option RabbitMQOutboxMessage :=
  item.dispatchEventId.bind fun eventId => t.outbox.find? fun row => row.messageId = eventId

def saveItem (item : RecoveryJobItem) : RecoveryTables := { t with items := t.items.save item }

def saveStage (loaded updated : PipelineStageJournal) (now : Time) : RecoveryTables :=
  { t with
    stages :=
      { rows := t.stages.rows.map (writeStage loaded updated now)
        unique := by
          rw [List.map_map, funext (id_writeStage loaded updated now)]
          exact t.stages.unique }
    stageSlots := by
      rw [List.map_map, funext (slot_writeStage loaded updated now)]
      exact t.stageSlots }

def resolveLinkedDeadLetter (itemId : Uuid) (succeeded : Bool) (now : Time) : RecoveryTables :=
  { t with
    deadLetters := t.deadLetters.map fun row =>
      if row.recoveryItemId = some itemId then
        if succeeded then { row with status := .resolved, updatedAt := now }
        else { row with status := .unresolved, recoveryItemId := none, updatedAt := now }
      else row }

end RecoveryTables

def budgetSpent (item : RecoveryJobItem) : Bool :=
  (item.retryLimit : Nat) ≤ item.retryableFailuresConsumed

def canonicalStateChanged : ReconcileOutcome :=
  .finish .skippedStale (some "canonical_state_changed") none

def stageOutcome (row : Option PipelineStageJournal) (item : RecoveryJobItem) : ReconcileOutcome :=
  match row with
  | none => canonicalStateChanged
  | some row =>
    if item.dispatchEventId = none ∨ row.lastEventId ≠ item.dispatchEventId then
      canonicalStateChanged
    else if row.status = .succeeded then .finish .succeeded none none
    else if row.status = .failed ∧ (row.isRetryable = false ∨ budgetSpent item) then
      .finish .failed row.normalizedReason row.lastErrorText
    else .undecided

def syncOutcome (row : Option MemeFileSyncTargetSnapshot) (item : RecoveryJobItem) :
    ReconcileOutcome :=
  match row with
  | none => canonicalStateChanged
  | some row =>
    if item.dispatchEventId = none ∨ row.lastEventId ≠ item.dispatchEventId then
      canonicalStateChanged
    else if row.status = .synced then .finish .succeeded none none
    else if row.status = .failed ∧
        (row.normalizedReason.any (· ∈ malformedSyncReasons) ∨ budgetSpent item) then
      .finish .failed row.normalizedReason row.lastErrorText
    else .undecided

def generationOutcome (generation : Option MediaGeneration) (item : RecoveryJobItem) :
    ReconcileOutcome :=
  match generation with
  | none => .undecided
  | some generation =>
    match generation.status with
    | .generating | .verified | .uploaded => .undecided
    | .active | .superseded => .finish .succeeded none none
    | .failed | .stale =>
      if budgetSpent item then
        .finish .failed generation.safeFailureReason generation.safeFailureText
      else .undecided

def ingestOutcome (row : Option PipelineIngestRequest) (work : WorkLookup) : ReconcileOutcome :=
  match row with
  | none => canonicalStateChanged
  | some row =>
    match row.status with
    | .materialized | .resolvedShaDuplicate => .finish .succeeded none none
    | .failedInvalidMedia | .failedBlockedPhash => .finish .failed row.failureCode row.failureDetail
    | .publishFailed => .requeue work row.failureCode row.failureDetail true true
    | .accepted | .mediaInspectPending | .mediaInspecting => .undecided

def judgeIngest (dispatch : Option RabbitMQOutboxMessage) (row : Option PipelineIngestRequest)
    (work : WorkLookup) (item : RecoveryJobItem) : RecoveryJobItem × ReconcileOutcome :=
  match dispatch with
  | none => (item, ingestOutcome row work)
  | some message =>
    let observed := observeOutboxRetryBudget item message
    match message.status with
    | .failed =>
      (observed,
        if budgetSpent observed then
          .finish .failed (some "outbox_publish_failed") message.lastErrorText
        else .undecided)
    | .pending | .publishing => (observed, .undecided)
    | .published => (observed, ingestOutcome row work)

def nonStageBudgetBase (item : RecoveryJobItem) : Nat :=
  item.previousStageState.nonStageBudgetConsumedAtDispatch.getD 0

def finishedAttempts (attempts : List SourceChannelBackfillAttempt) (itemId : Uuid) :
    List SourceChannelBackfillAttempt :=
  attempts.filter fun attempt => attempt.recoveryItemId = some itemId ∧ attempt.finishedAt.isSome

def laterAttempt (a b : SourceChannelBackfillAttempt) : Bool :=
  b.attemptNumber < a.attemptNumber || (a.attemptNumber == b.attemptNumber && b.id < a.id)

def observeBackfillRetryBudget (attempts : List SourceChannelBackfillAttempt)
    (item : RecoveryJobItem) : RecoveryJobItem × Bool :=
  let finished := finishedAttempts attempts item.id
  ({ item with
      retryableFailuresConsumed :=
        max item.retryableFailuresConsumed
          (nonStageBudgetBase item + finished.countP (·.isRetryable)) },
    (Queries.firstBy laterAttempt finished).any fun attempt => attempt.isRetryable = false)

def judgeBackfill (attempts : List SourceChannelBackfillAttempt)
    (row : Option SourceChannelBackfillJob) (work : WorkLookup) (item : RecoveryJobItem) :
    RecoveryJobItem × ReconcileOutcome :=
  let (observed, terminalAttempt) := observeBackfillRetryBudget attempts item
  (observed,
    match row with
    | none => canonicalStateChanged
    | some row =>
      match row.status with
      | .completed | .completedWithFailures => .finish .succeeded none none
      | .failed =>
        if row.isRetryable ∧ terminalAttempt = false ∧ budgetSpent observed = false then
          .requeue work row.lastErrorCode row.lastErrorText true false
        else .finish .failed row.lastErrorCode row.lastErrorText
      | .cancelled => .finish .failed row.lastErrorCode row.lastErrorText
      | .queued | .running | .waitingRetry | .waitingCapacity => .undecided)

def sourcePostOutcome (row : Option SourceChannelPost) (work : WorkLookup) : ReconcileOutcome :=
  match row with
  | none => canonicalStateChanged
  | some row =>
    match row.status with
    | .accepted => .finish .succeeded none none
    | .failed =>
      if row.isRetryable then .requeue work row.lastErrorCode row.lastErrorText true true
      else .finish .failed row.lastErrorCode row.lastErrorText
    | .unsupported => .finish .failed row.lastErrorCode row.lastErrorText
    | .observed => .undecided

def judgeOutbox (row : Option RabbitMQOutboxMessage) (item : RecoveryJobItem) :
    RecoveryJobItem × ReconcileOutcome :=
  match row with
  | none => (item, canonicalStateChanged)
  | some row =>
    let observed := observeOutboxRetryBudget item row
    match row.status with
    | .published => (observed, .finish .succeeded none none)
    | .failed =>
      (observed,
        if budgetSpent observed then
          .finish .failed (some "outbox_publish_failed") row.lastErrorText
        else .undecided)
    | .pending | .publishing => (item, .undecided)

section Judging

variable (t : RecoveryTables)

/-- `_linked_recovery_outcome` on a request: it is never queued again from here. -/
def judgeLinkedIngest (dispatch : Option RabbitMQOutboxMessage) (row : Option PipelineIngestRequest)
    (item : RecoveryJobItem) : RecoveryJobItem × ReconcileOutcome :=
  let judged (observed : RecoveryJobItem) : ReconcileOutcome :=
    if budgetSpent observed ∧ observed.normalizedReason.isSome then
      .finish .failed observed.normalizedReason observed.safeErrorText
    else
      match row with
      | none => canonicalStateChanged
      | some row =>
        match row.status with
        | .materialized | .resolvedShaDuplicate => .finish .succeeded none none
        | .failedInvalidMedia | .failedBlockedPhash | .publishFailed =>
          .finish .failed row.failureCode row.failureDetail
        | .accepted | .mediaInspectPending | .mediaInspecting => .undecided
  match dispatch with
  | none => (item, judged item)
  | some message =>
    let observed := observeOutboxRetryBudget item message
    (observed,
      if message.status = .failed ∧ budgetSpent observed then
        .finish .failed (some "outbox_publish_failed") message.lastErrorText
      else if message.status ≠ .published then .undecided
      else judged observed)

def judgeLinkedBackfill (attempts : List SourceChannelBackfillAttempt)
    (row : Option SourceChannelBackfillJob) (item : RecoveryJobItem) :
    RecoveryJobItem × ReconcileOutcome :=
  let (observed, terminalAttempt) := observeBackfillRetryBudget attempts item
  (observed,
    match row with
    | none => canonicalStateChanged
    | some row =>
      match row.status with
      | .completed | .completedWithFailures => .finish .succeeded none none
      | .failed =>
        if terminalAttempt ∨ budgetSpent observed then
          .finish .failed row.lastErrorCode row.lastErrorText
        else .undecided
      | .cancelled => .finish .failed row.lastErrorCode row.lastErrorText
      | .queued | .running | .waitingRetry | .waitingCapacity => .undecided)

def linkedSourcePostOutcome (row : Option SourceChannelPost) : ReconcileOutcome :=
  match row with
  | none => canonicalStateChanged
  | some row =>
    match row.status with
    | .accepted => .finish .succeeded none none
    | .failed | .unsupported => .finish .failed row.lastErrorCode row.lastErrorText
    | .observed => .undecided

def linkedRecoveryOutcome (item : RecoveryJobItem) (kind : RecoveryWorkKind)
    (workId : RecoveryWorkId) : RecoveryJobItem × ReconcileOutcome :=
  match kind with
  | .pipelineStage => (item, stageOutcome (t.stageOf workId) item)
  | .syncTarget => (item, syncOutcome (t.syncTargetOf workId) item)
  | .ingestRequest =>
    judgeLinkedIngest (t.dispatchOutboxForItem item) (t.ingestRequestOf workId) item
  | .backfill => judgeLinkedBackfill t.backfillAttempts (t.backfillOf workId) item
  | .sourcePost => (item, linkedSourcePostOutcome (t.sourcePostOf workId))
  | .outbox => judgeOutbox (t.outboxOf workId) item
  | .deadLetter => (item, .undecided)

def judgeDeadLetter (item : RecoveryJobItem) : RecoveryJobItem × ReconcileOutcome :=
  match t.deadLetterOf item.workId with
  | none => (item, canonicalStateChanged)
  | some row =>
    match row.status, row.workKind, row.workId with
    | .resolved, _, _ | .archived, _, _ => (item, .finish .succeeded none none)
    | .recoveryQueued, some kind, some workId => linkedRecoveryOutcome t item kind workId
    | _, _, _ => (item, .undecided)

/-- The branches of `_reconcile_item` after the exhausted dispatches: the item with its budget
charged, and the verdict. -/
def judgeItem (lookup : WorkLookups) (item : RecoveryJobItem) :
    RecoveryJobItem × ReconcileOutcome :=
  let work := lookup (item.workKind, item.workId)
  if item.action = .regenerateDerivatives then (item, generationOutcome (t.generationOf item.id) item)
  else
    match item.action, item.memeFileId, item.stage with
    | .replayStage, some memeFileId, some stage =>
      (item, stageOutcome (t.stageRow memeFileId stage) item)
    | _, _, _ =>
      match item.workKind with
      | .pipelineStage => (item, stageOutcome (t.stageOf item.workId) item)
      | .syncTarget => (item, syncOutcome (t.syncTargetOf item.workId) item)
      | .ingestRequest =>
        judgeIngest (t.dispatchOutboxForItem item) (t.ingestRequestOf item.workId) work item
      | .backfill => judgeBackfill t.backfillAttempts (t.backfillOf item.workId) work item
      | .sourcePost => (item, sourcePostOutcome (t.sourcePostOf item.workId) work)
      | .outbox => judgeOutbox (t.outboxOf item.workId) item
      | .deadLetter => judgeDeadLetter t item

end Judging

def ReconcileOutcome.apply (outcome : ReconcileOutcome) (item : RecoveryJobItem)
    (jobStatus : Option RecoveryJobStatus) (now : Time) : RecoveryJobItem :=
  match outcome with
  | .undecided => item
  | .finish status reason error => finishItem item status reason error now
  | .requeue work reason error retryable consumeFailure =>
    requeueAsyncFailure item jobStatus work reason error retryable consumeFailure now

namespace RecoveryTables

variable (t : RecoveryTables)

def chargedItem (item : RecoveryJobItem) : RecoveryJobItem :=
  (t.dispatchOutboxForItem item).elim item (observeOutboxRetryBudget item)

/-- `_reconcile_exhausted_stage_dispatch_outbox`: the charged item, and the stage row to release
with the error of the message when the dispatch of the item will never be published. -/
def exhaustedDispatch (item : RecoveryJobItem) :
    RecoveryJobItem × Option (PipelineStageJournal × Option String) :=
  match item.memeFileId, item.stage with
  | some memeFileId, some stage =>
    match t.dispatchOutboxForItem item with
    | none => (item, none)
    | some message =>
      let observed := observeOutboxRetryBudget item message
      (observed,
        if message.status = .failed ∧ budgetSpent observed then
          ((t.stageRow memeFileId stage).filter fun row =>
            row.lastEventId = item.dispatchEventId ∧ row.status = .pending).map fun row =>
              (row, message.lastErrorText)
        else none)
  | _, _ => (item, none)

def settleItem (item : RecoveryJobItem) (now : Time) : RecoveryTables :=
  if item.status ∈ terminalItemStatuses then
    (t.saveItem item).resolveLinkedDeadLetter item.id (item.status = .succeeded) now
  else t.saveItem item

def reconcileItem (lookup : WorkLookups) (item : RecoveryJobItem) (now : Time) : RecoveryTables :=
  match t.exhaustedDispatch item with
  | (observed, some (row, error)) =>
    (t.saveStage row (releasedEntry row observed.previousStageState error now) now).settleItem
      (finishItem observed .failed (some "outbox_publish_failed") error now) now
  | (observed, none) =>
    if observed.workKind = .ingestRequest ∧ budgetSpent observed ∧
        observed.normalizedReason.isSome then
      t.settleItem (finishItem observed .failed observed.normalizedReason observed.safeErrorText now)
        now
    else
      let (judged, outcome) := judgeItem t lookup observed
      t.settleItem
        (outcome.apply judged ((t.jobs item.recoveryJobId).map (·.status)) now) now

def reconcileCandidate (lookup : WorkLookups) (now : Time) (itemId : Uuid) : RecoveryTables :=
  match t.items.get itemId with
  | none => t
  | some item => if item.status = .dispatched then t.reconcileItem lookup item now else t

/-- `reconcile` over the candidates it locked, in its order. -/
def reconcile (lookup : WorkLookups) (candidates : List Uuid) (now : Time) : RecoveryTables :=
  candidates.foldl (fun tables itemId => tables.reconcileCandidate lookup now itemId) t

theorem reconcile_cons (lookup : WorkLookups) (itemId : Uuid) (rest : List Uuid) (now : Time) :
    t.reconcile lookup (itemId :: rest) now =
      (t.reconcileCandidate lookup now itemId).reconcile lookup rest now :=
  rfl

end RecoveryTables

section Evidence

variable {t u v : RecoveryTables} {lookup : WorkLookups} {item : RecoveryJobItem} {itemId : Uuid}
  {now : Time} {entry : Stamped PipelineStageJournal}

/-- What the verdicts on stage work read: the reconciler writes none of it, except that it takes
back reservations that no worker has touched. -/
structure KeepsEvidence (t u : RecoveryTables) : Prop where
  outbox : u.outbox = t.outbox
  syncTargets : u.syncTargets = t.syncTargets
  generations : u.generations = t.generations
  jobs : u.jobs = t.jobs
  stages : ∀ {entry : Stamped PipelineStageJournal}, entry.row.status ≠ .pending →
    t.stages.get entry.row.id = some entry → u.stages.get entry.row.id = some entry

theorem KeepsEvidence.refl (t : RecoveryTables) : KeepsEvidence t t :=
  ⟨rfl, rfl, rfl, rfl, fun _ h => h⟩

theorem KeepsEvidence.trans (htu : KeepsEvidence t u) (huv : KeepsEvidence u v) :
    KeepsEvidence t v where
  outbox := huv.outbox.trans htu.outbox
  syncTargets := huv.syncTargets.trans htu.syncTargets
  generations := huv.generations.trans htu.generations
  jobs := huv.jobs.trans htu.jobs
  stages := fun hstatus h => huv.stages hstatus (htu.stages hstatus h)

theorem writeStage_self (loaded updated : PipelineStageJournal) (now : Time)
    (hentry : entry.row = loaded) :
    writeStage loaded updated now entry =
      { row := PipelineStageJournal.writeBack loaded updated loaded, updatedAt := now } := by
  subst hentry
  exact if_pos rfl

theorem get_saveStage_of_ne {loaded : PipelineStageJournal} (updated : PipelineStageJournal)
    (now : Time) {id : Uuid} (hne : id ≠ loaded.id) :
    (t.saveStage loaded updated now).stages.get id = t.stages.get id := by
  simp only [RecoveryTables.saveStage, Table.get]
  induction t.stages.rows with
  | nil => rfl
  | cons first rest ih =>
    rw [List.map_cons, List.find?_cons, List.find?_cons, ih]
    by_cases hfirst : first.row.id = loaded.id
    · simp [writeStage, PipelineStageJournal.writeBack, hfirst, hne.symm]
    · simp [writeStage, hfirst]

theorem get_saveStage_self {loaded : PipelineStageJournal} (updated : PipelineStageJournal)
    (now : Time) (hentry : t.stages.get loaded.id = some entry) :
    (t.saveStage loaded updated now).stages.get loaded.id =
      some (writeStage loaded updated now entry) := by
  obtain ⟨hmem, hid⟩ := (t.stages.get_eq_some_iff).mp hentry
  have hwritten : (writeStage loaded updated now entry).row.id = loaded.id :=
    (id_writeStage loaded updated now entry).trans hid
  rw [← hwritten]
  apply Table.get_of_mem
  exact List.mem_map_of_mem hmem

theorem RecoveryTables.get_of_stageRow {memeFileId : Uuid} {stage : ContentPipelineStage}
    {row : PipelineStageJournal} (h : t.stageRow memeFileId stage = some row) :
    ∃ entry, t.stages.get row.id = some entry ∧ entry.row = row := by
  obtain ⟨entry, hfound, rfl⟩ := Option.map_eq_some_iff.mp h
  exact ⟨entry, t.stages.get_of_mem (List.mem_of_find?_eq_some hfound), rfl⟩

theorem RecoveryTables.stageRow_of_get (h : t.stages.get entry.row.id = some entry) :
    t.stageRow entry.row.memeFileId entry.row.stage = some entry.row := by
  have hmem := ((t.stages.get_eq_some_iff).mp h).1
  simp only [RecoveryTables.stageRow, find_of_mem t.stageSlots hmem, Option.map_some]

theorem RecoveryTables.settleItem_items (t : RecoveryTables) (item : RecoveryJobItem)
    (now : Time) : (t.settleItem item now).items = t.items.save item := by
  unfold RecoveryTables.settleItem
  split <;> rfl

theorem keepsEvidence_settleItem (t : RecoveryTables) (item : RecoveryJobItem) (now : Time) :
    KeepsEvidence t (t.settleItem item now) := by
  unfold RecoveryTables.settleItem
  split <;> exact ⟨rfl, rfl, rfl, rfl, fun _ h => h⟩

theorem exhaustedDispatch_eq_some {observed : RecoveryJobItem} {row : PipelineStageJournal}
    {error : Option String} (h : t.exhaustedDispatch item = (observed, some (row, error))) :
    row.status = .pending ∧ ∃ memeFileId stage, t.stageRow memeFileId stage = some row := by
  unfold RecoveryTables.exhaustedDispatch at h
  split at h
  · next memeFileId stage _ _ =>
    split at h
    · cases h
    simp only [Prod.mk.injEq] at h
    obtain ⟨-, h⟩ := h
    split at h
    · obtain ⟨found, hfound, heq⟩ := Option.map_eq_some_iff.mp h
      cases heq
      rw [Option.filter_eq_some_iff] at hfound
      obtain ⟨hrow, hpending⟩ := hfound
      simp only [decide_eq_true_eq] at hpending
      exact ⟨hpending.2, memeFileId, stage, hrow⟩
    · cases h
  · cases h

theorem keepsEvidence_saveStage {loaded : PipelineStageJournal} (updated : PipelineStageJournal)
    (now : Time) (hloaded : t.stages.get loaded.id = some entry) (hentry : entry.row = loaded)
    (hpending : loaded.status = .pending) : KeepsEvidence t (t.saveStage loaded updated now) where
  outbox := rfl
  syncTargets := rfl
  generations := rfl
  jobs := rfl
  stages := by
    intro other hstatus hother
    rw [get_saveStage_of_ne updated now, hother]
    intro hid
    rw [hid, hloaded] at hother
    cases hother
    exact hstatus (hentry ▸ hpending)

theorem keepsEvidence_reconcileItem (t : RecoveryTables) (lookup : WorkLookups)
    (item : RecoveryJobItem) (now : Time) :
    KeepsEvidence t (t.reconcileItem lookup item now) := by
  unfold RecoveryTables.reconcileItem
  split
  · next observed row error hexhausted =>
    obtain ⟨hpending, memeFileId, stage, hrow⟩ := exhaustedDispatch_eq_some hexhausted
    obtain ⟨entry, hentry, heq⟩ := RecoveryTables.get_of_stageRow hrow
    exact (keepsEvidence_saveStage _ now hentry heq hpending).trans
      (keepsEvidence_settleItem _ _ now)
  · split
    · exact keepsEvidence_settleItem ..
    · exact keepsEvidence_settleItem ..

theorem keepsEvidence_reconcileCandidate (t : RecoveryTables) (lookup : WorkLookups) (now : Time)
    (itemId : Uuid) : KeepsEvidence t (t.reconcileCandidate lookup now itemId) := by
  unfold RecoveryTables.reconcileCandidate
  split
  · exact .refl t
  split
  · exact keepsEvidence_reconcileItem ..
  · exact .refl t

theorem keepsEvidence_reconcile (t : RecoveryTables) (lookup : WorkLookups)
    (candidates : List Uuid) (now : Time) : KeepsEvidence t (t.reconcile lookup candidates now) := by
  induction candidates generalizing t with
  | nil => exact .refl t
  | cons itemId rest ih => exact (keepsEvidence_reconcileCandidate t lookup now itemId).trans (ih _)

end Evidence

section Written

variable (t : RecoveryTables) (lookup : WorkLookups) (item : RecoveryJobItem) (now : Time)

theorem annotates_judgeIngest (dispatch : Option RabbitMQOutboxMessage)
    (row : Option PipelineIngestRequest) (work : WorkLookup) :
    Annotates item (judgeIngest dispatch row work item).1 := by
  unfold judgeIngest
  split
  · exact .refl item
  · split <;> exact annotates_observeOutboxRetryBudget ..

theorem annotates_judgeBackfill (attempts : List SourceChannelBackfillAttempt)
    (row : Option SourceChannelBackfillJob) (work : WorkLookup) :
    Annotates item (judgeBackfill attempts row work item).1 :=
  ⟨rfl, rfl, rfl, rfl, rfl⟩

theorem annotates_judgeOutbox (row : Option RabbitMQOutboxMessage) :
    Annotates item (judgeOutbox row item).1 := by
  unfold judgeOutbox
  split
  · exact .refl item
  split
  · exact annotates_observeOutboxRetryBudget ..
  · exact annotates_observeOutboxRetryBudget ..
  all_goals exact .refl item

theorem annotates_linkedRecoveryOutcome (kind : RecoveryWorkKind) (workId : RecoveryWorkId) :
    Annotates item (linkedRecoveryOutcome t item kind workId).1 := by
  cases kind with
  | ingestRequest =>
    simp only [linkedRecoveryOutcome, judgeLinkedIngest]
    split
    · exact .refl item
    · exact annotates_observeOutboxRetryBudget ..
  | backfill => exact ⟨rfl, rfl, rfl, rfl, rfl⟩
  | outbox => exact annotates_judgeOutbox ..
  | pipelineStage => exact .refl item
  | syncTarget => exact .refl item
  | sourcePost => exact .refl item
  | deadLetter => exact .refl item

theorem annotates_judgeDeadLetter : Annotates item (judgeDeadLetter t item).1 := by
  unfold judgeDeadLetter
  split
  · exact .refl item
  split
  · exact .refl item
  · exact .refl item
  · exact annotates_linkedRecoveryOutcome ..
  · exact .refl item

theorem annotates_judgeItem : Annotates item (judgeItem t lookup item).1 := by
  unfold judgeItem
  split
  · exact .refl item
  split
  · exact .refl item
  cases hkind : item.workKind with
  | ingestRequest => exact annotates_judgeIngest ..
  | backfill => exact annotates_judgeBackfill ..
  | outbox => exact annotates_judgeOutbox ..
  | deadLetter => exact annotates_judgeDeadLetter ..
  | pipelineStage => exact .refl item
  | syncTarget => exact .refl item
  | sourcePost => exact .refl item

theorem ReconcileOutcome.id_apply (outcome : ReconcileOutcome)
    (jobStatus : Option RecoveryJobStatus) : (outcome.apply item jobStatus now).id = item.id := by
  cases outcome with
  | undecided => rfl
  | finish status reason error => rfl
  | requeue work reason error retryable consumeFailure =>
    simp only [ReconcileOutcome.apply, requeueAsyncFailure]
    cases work with
    | missing cause => rfl
    | found version => simp [finishItem, apply_ite RecoveryJobItem.id]

theorem RecoveryTables.annotates_exhaustedDispatch :
    Annotates item (t.exhaustedDispatch item).1 := by
  unfold RecoveryTables.exhaustedDispatch
  split
  · split
    · exact .refl item
    · exact annotates_observeOutboxRetryBudget ..
  · exact .refl item

theorem RecoveryTables.reconcileItem_items :
    ∃ saved, saved.id = item.id ∧ (t.reconcileItem lookup item now).items = t.items.save saved := by
  have hobserved := (t.annotates_exhaustedDispatch item).id
  unfold RecoveryTables.reconcileItem
  split
  · next observed row error hexhausted =>
    rw [hexhausted] at hobserved
    refine ⟨_, ?_, RecoveryTables.settleItem_items ..⟩
    exact hobserved
  next observed hexhausted =>
  rw [hexhausted] at hobserved
  split
  · refine ⟨_, ?_, RecoveryTables.settleItem_items ..⟩
    exact hobserved
  refine ⟨_, ?_, RecoveryTables.settleItem_items ..⟩
  exact ((ReconcileOutcome.id_apply ..).trans (annotates_judgeItem t lookup observed).id).trans
    hobserved

theorem RecoveryTables.reconcileCandidate_items {itemId id : Uuid} (hne : id ≠ itemId) :
    (t.reconcileCandidate lookup now itemId).items.get id = t.items.get id := by
  unfold RecoveryTables.reconcileCandidate
  split
  · rfl
  next candidate hget =>
  split
  · obtain ⟨saved, hid, heq⟩ := t.reconcileItem_items lookup candidate now
    rw [heq]
    apply Table.get_save_of_ne
    rw [hid, ((t.items.get_eq_some_iff).mp hget).2]
    exact hne
  · rfl

theorem RecoveryTables.reconcile_items {candidates : List Uuid} {id : Uuid}
    (hnot : id ∉ candidates) : (t.reconcile lookup candidates now).items.get id = t.items.get id := by
  induction candidates generalizing t with
  | nil => rfl
  | cons itemId rest ih =>
    rw [List.mem_cons, not_or] at hnot
    obtain ⟨hne, hrest⟩ := hnot
    exact (ih _ hrest).trans (t.reconcileCandidate_items lookup now hne)

end Written

end MemeExpert.Services
