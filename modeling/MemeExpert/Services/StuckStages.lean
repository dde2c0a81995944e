import MemeExpert.Services.Reconciliation

/-! The reclaimer takes the oldest stage row whose worker made no progress. -/

namespace MemeExpert.Services

open Messaging Pipeline Tables

def isStuckStage (settings : PipelineSettings) (isLocked : Uuid → Bool) (now : Time)
    (entry : Stamped PipelineStageJournal) : Bool :=
  entry.row.status = .processing ∧ entry.updatedAt < now - settings.stuckReclaimAfterSeconds ∧
    isLocked entry.row.id = false

def stageBefore (a b : Stamped PipelineStageJournal) : Bool :=
  a.updatedAt < b.updatedAt || (a.updatedAt == b.updatedAt && a.row.id < b.row.id)

def nextStuckStage (settings : PipelineSettings) (isLocked : Uuid → Bool) (t : RecoveryTables)
    (now : Time) : Option (Stamped PipelineStageJournal) :=
  Queries.firstBy stageBefore (t.stages.rows.filter (isStuckStage settings isLocked now))

def linkedStageItem (t : RecoveryTables) (entry : PipelineStageJournal) : Option RecoveryJobItem :=
  entry.lastEventId.bind fun eventId => t.items.rows.find? fun item =>
    item.dispatchEventId = some eventId ∧ item.status = .dispatched

namespace RecoveryTables

variable (t : RecoveryTables)

def stageStore (memeFileId : Uuid) : StageStore where
  memeFile := { t.files memeFileId with id := memeFileId }
  journal := t.stageRow memeFileId
  syncTargets := fun target => t.syncTargets.find? fun row =>
    row.memeFileId = memeFileId ∧ row.syncTarget = target
  recoveryItems := t.items.rows
  outbox := t.outbox

def saveStageStore (loaded : PipelineStageJournal) (store : StageStore) (now : Time) :
    RecoveryTables :=
  { t.saveStage loaded ((store.journal loaded.stage).getD loaded) now with
    items := t.items.saveAll store.recoveryItems
    outbox := store.outbox }

def ingestStore : IngestStore where
  requests := t.ingestRequests
  outbox := t.outbox
  recoveryItems := t.items.rows

def saveIngestStore (store : IngestStore) : RecoveryTables :=
  { t with
    ingestRequests := store.requests
    outbox := store.outbox
    items := t.items.saveAll store.recoveryItems }

end RecoveryTables

/-- One call: `none` when no stage is stuck, `some false` when the replay was refused and the
transaction rolled back. -/
def reclaimNextStuckStage (settings : PipelineSettings) (isLocked : Uuid → Bool)
    (t : RecoveryTables) (eventId : Uuid) (now : Time) : RecoveryTables × Option Bool :=
  match nextStuckStage settings isLocked t now with
  | none => (t, none)
  | some entry =>
    match reclaimStuckStage settings (t.stageStore entry.row.memeFileId) entry.row.stage entry.row
        (linkedStageItem t entry.row) eventId now with
    | .error _ => (t, some false)
    | .ok (store, _) => (t.saveStageStore entry.row store now, some true)

structure ReclaimTurn where
  eventId : Uuid
  now : Time

/-- `reclaim_stuck_work` with a batch of as many turns. -/
def reclaimStuckWork (settings : PipelineSettings) (isLocked : Uuid → Bool) :
    RecoveryTables → List ReclaimTurn → RecoveryTables
  | t, [] => t
  | t, turn :: turns =>
    match reclaimNextStuckStage settings isLocked t turn.eventId turn.now with
    | (u, some true) => reclaimStuckWork settings isLocked u turns
    | (u, some false) => u
    | (_, none) =>
      match reclaimNextStuckIngest settings isLocked t.ingestStore turn.eventId turn.now with
      | .ok (store, some true) => reclaimStuckWork settings isLocked (t.saveIngestStore store) turns
      | .ok _ | .error _ => t

/-- The dispatched item waits for the outcome of the row: it names the row or its sync target,
and was dispatched with the event the row is at. -/
def waitsFor (entry : PipelineStageJournal) (item : RecoveryJobItem) : Bool :=
  item.status = .dispatched ∧ item.dispatchEventId.isSome ∧
    item.dispatchEventId = entry.lastEventId ∧ item.memeFileId = some entry.memeFileId ∧
    item.stage = some entry.stage ∧
    (item.workKind = .pipelineStage ∧ item.workId = .row entry.id ∨ item.workKind = .syncTarget)

def ReservedAnew (t : RecoveryTables) (loaded : PipelineStageJournal) (eventId : Uuid) : Prop :=
  ∃ entry ∈ t.stages.rows, entry.row.id = loaded.id ∧ entry.row.status = .pending ∧
    entry.row.lastEventId = some eventId ∧
    ∃ message ∈ t.outbox, message.messageId = eventId ∧ message.status = .pending ∧
      message.routingKey = .stage loaded.stage ∧ message.aggregateId = loaded.memeFileId

/-- The row is terminal, and the items that waited for it before are done and have released
their reservations. -/
def NothingWaits (before after : RecoveryTables) (loaded : PipelineStageJournal) : Prop :=
  (∃ entry ∈ after.stages.rows, entry.row.id = loaded.id ∧
    (entry.row.status = .succeeded ∨ entry.row.status = .failed)) ∧
    ∀ item ∈ before.items.rows, waitsFor loaded item = true →
      ∃ done ∈ after.items.rows, done.id = item.id ∧ done.status ∈ terminalItemStatuses ∧
        done.reservationActive = false

/-- The candidates of a reconciliation that reaches every item that waits for the row. -/
structure ReachesWaiting (t : RecoveryTables) (loaded : PipelineStageJournal)
    (candidates : List Uuid) : Prop where
  nodup : candidates.Nodup
  reaches : ∀ item ∈ t.items.rows, waitsFor loaded item = true → item.id ∈ candidates

def ReclaimSettles (settings : PipelineSettings) (isLocked : Uuid → Bool) (lookup : WorkLookups)
    (t : RecoveryTables) (loaded : PipelineStageJournal) (eventId : Uuid)
    (candidates : List Uuid) (now : Time) : Prop :=
  let reclaimed := (reclaimNextStuckStage settings isLocked t eventId now).1
  ReservedAnew reclaimed loaded eventId ∨
    NothingWaits t (reclaimed.reconcile lookup candidates now) loaded

def Reclaimable (settings : PipelineSettings) (t : RecoveryTables) (entry : PipelineStageJournal) :
    Prop :=
  settings.brokerRetryMaxAttempts ≤ entry.attemptCount ∨
    (t.files entry.memeFileId).s3OriginalKey ≠ ""

/-- An item that waits for a stage failed at the limit comes to an end: the generation it
regenerates has ended, its sync target has, or its budget is spent. -/
def itemEnds (t : RecoveryTables) (item : RecoveryJobItem) : Bool :=
  let spent := budgetSpent (t.chargedItem item)
  if item.action = .regenerateDerivatives then
    (t.generationOf item.id).any fun generation =>
      generation.status ∈ [MediaGenerationStatus.active, .superseded] ||
        (generation.status ∈ [MediaGenerationStatus.failed, .stale] && spent)
  else if item.action = .replayStage ∨ item.workKind = .pipelineStage then spent
  else
    (t.syncTargetOf item.workId).all fun row =>
      row.lastEventId ≠ item.dispatchEventId || row.status = .synced ||
        (row.status = .failed &&
          (row.normalizedReason.any (· ∈ malformedSyncReasons) || spent))

def upTo (settings : PipelineSettings) (isLocked : Uuid → Bool) (now : Time)
    (entry other : Stamped PipelineStageJournal) : Bool :=
  isStuckStage settings isLocked now other && !stageBefore entry other

def LeftProcessing (t : RecoveryTables) (rowId : Uuid) : Prop :=
  ∀ entry ∈ t.stages.rows, entry.row.id = rowId → entry.row.status ≠ .processing

/-- What the reclaim of the row needs, said before it: below the limit an original of the file,
at the limit an end for every item that waits. -/
def StageSettles (settings : PipelineSettings) (t : RecoveryTables)
    (entry : PipelineStageJournal) : Prop :=
  if settings.brokerRetryMaxAttempts ≤ entry.attemptCount then
    ∀ item ∈ t.items.rows, waitsFor entry item = true → itemEnds t item = true
  else (t.files entry.memeFileId).s3OriginalKey ≠ ""

section Judging

variable {t u : RecoveryTables} {lookup : WorkLookups} {item : RecoveryJobItem} {now : Time}
  {entry : Stamped PipelineStageJournal}

theorem chargedItem_eq (t : RecoveryTables) (item : RecoveryJobItem) (hstage : item.stage.isSome = true) :
    ∃ state consumed, t.chargedItem item =
      { item with previousStageState := state, retryableFailuresConsumed := consumed } := by
  unfold RecoveryTables.chargedItem
  cases t.dispatchOutboxForItem item with
  | none => exact ⟨_, _, rfl⟩
  | some message =>
    have hnone : item.stage.isNone = false := by simpa using hstage
    simp only [Option.elim_some, observeOutboxRetryBudget, hstage, if_true,
      observeRecoveryStagePublicationOutcome, hnone]
    cases message.status <;> exact ⟨_, _, rfl⟩

theorem exhaustedDispatch_of_stage {memeFileId : Uuid} {stage : ContentPipelineStage}
    (hfile : item.memeFileId = some memeFileId) (hstage : item.stage = some stage)
    (hrow : ∀ row, t.stageRow memeFileId stage = some row → row.status ≠ .pending) :
    t.exhaustedDispatch item = (t.chargedItem item, none) := by
  unfold RecoveryTables.exhaustedDispatch RecoveryTables.chargedItem
  rw [hfile, hstage]
  dsimp only
  cases hdispatch : t.dispatchOutboxForItem item with
  | none => rfl
  | some message =>
    simp only [Option.elim_some, Prod.mk.injEq, true_and]
    split
    · have hfiltered : (t.stageRow memeFileId stage).filter (fun row =>
          row.lastEventId = item.dispatchEventId ∧ row.status = .pending) = none := by
        rw [Option.filter_eq_none_iff]
        intro row hfound
        simp [hrow row hfound]
      rw [hfiltered, Option.map_none]
    · rfl

structure EndsExactly (ends : Bool) (outcome : ReconcileOutcome) : Prop where
  finishes : ends = true → ∃ status reason error, status ∈ terminalItemStatuses ∧
    outcome = .finish status reason error
  waits : ends = false → outcome = .undecided

theorem endsExactly_finish {status : RecoveryJobItemStatus} (hterminal : status ∈ terminalItemStatuses)
    (reason error : Option String) : EndsExactly true (.finish status reason error) :=
  ⟨fun _ => ⟨status, reason, error, hterminal, rfl⟩, (fun h => by cases h)⟩

theorem endsExactly_undecided : EndsExactly false .undecided :=
  ⟨(fun h => by cases h), fun _ => rfl⟩

theorem endsExactly_spent (item : RecoveryJobItem) (reason error : Option String) :
    EndsExactly (budgetSpent item)
      (if budgetSpent item = true then .finish .failed reason error else .undecided) := by
  cases budgetSpent item with
  | true => exact endsExactly_finish mem_terminal_failed reason error
  | false => exact endsExactly_undecided

theorem endsExactly_generation (generation : Option MediaGeneration) (item : RecoveryJobItem) :
    EndsExactly
      (generation.any fun generation =>
        generation.status ∈ [MediaGenerationStatus.active, .superseded] ||
          (generation.status ∈ [MediaGenerationStatus.failed, .stale] && budgetSpent item))
      (generationOutcome generation item) := by
  cases generation with
  | none => exact endsExactly_undecided
  | some generation =>
    simp only [generationOutcome, Option.any_some]
    cases generation.status with
    | active => exact endsExactly_finish (by decide) ..
    | superseded => exact endsExactly_finish (by decide) ..
    | failed => exact endsExactly_spent ..
    | stale => exact endsExactly_spent ..
    | generating => exact endsExactly_undecided
    | verified => exact endsExactly_undecided
    | uploaded => exact endsExactly_undecided

theorem endsExactly_stage (item : RecoveryJobItem) (row : PipelineStageJournal)
    (hsome : item.dispatchEventId.isSome = true)
    (hevent : item.dispatchEventId = row.lastEventId) (hfailed : row.status = .failed)
    (hretryable : row.isRetryable = true) :
    EndsExactly (budgetSpent item) (stageOutcome (some row) item) := by
  have hne : item.dispatchEventId ≠ none := Option.isSome_iff_ne_none.mp hsome
  have hsame : ¬(item.dispatchEventId = none ∨ row.lastEventId ≠ item.dispatchEventId) := by
    rintro (hnone | hother)
    · exact hne hnone
    · exact hother hevent.symm
  simp only [stageOutcome, if_neg hsame, hfailed, hretryable, reduceCtorEq, if_false, false_or,
    true_and, Bool.true_eq_false]
  exact endsExactly_spent ..

theorem endsExactly_sync (row : Option MemeFileSyncTargetSnapshot)
    (hsome : item.dispatchEventId.isSome = true) :
    EndsExactly
      (row.all fun row =>
        row.lastEventId ≠ item.dispatchEventId || row.status = .synced ||
          (row.status = .failed &&
            (row.normalizedReason.any (· ∈ malformedSyncReasons) || budgetSpent item)))
      (syncOutcome row item) := by
  have hne : item.dispatchEventId ≠ none := Option.isSome_iff_ne_none.mp hsome
  cases row with
  | none => exact endsExactly_finish mem_terminal_skippedStale ..
  | some row =>
    by_cases hevent : row.lastEventId = item.dispatchEventId
    · simp only [syncOutcome, Option.all_some, hevent, hne, ne_eq, not_true_eq_false, or_self,
        if_false, decide_false, Bool.false_or]
      cases row.status with
      | synced => exact endsExactly_finish (by decide) ..
      | failed =>
        cases hreason : row.normalizedReason.any (· ∈ malformedSyncReasons) with
        | true => simpa [hreason] using endsExactly_finish mem_terminal_failed ..
        | false => simpa [hreason] using endsExactly_spent item ..
      | pending => exact endsExactly_undecided
      | processing => exact endsExactly_undecided
    · simpa [syncOutcome, hevent, canonicalStateChanged] using
        endsExactly_finish mem_terminal_skippedStale ..

/-- The stage row failed retryably and the item waits for it: the verdict ends the item exactly
when `itemEnds` says so, and otherwise leaves it. -/
theorem judgeItem_of_waits (lookup : WorkLookups) (hget : t.stages.get entry.row.id = some entry)
    (hfailed : entry.row.status = .failed) (hretryable : entry.row.isRetryable = true)
    (hwaits : waitsFor entry.row item = true) :
    (judgeItem t lookup (t.chargedItem item)).1 = t.chargedItem item ∧
      EndsExactly (itemEnds t item) (judgeItem t lookup (t.chargedItem item)).2 := by
  simp only [waitsFor, decide_eq_true_eq] at hwaits
  obtain ⟨-, hsome, hevent, hfile, hstage, hwork⟩ := hwaits
  have hslot := t.stageRow_of_get hget
  obtain ⟨state, consumed, hcharged⟩ := chargedItem_eq t item (by rw [hstage]; rfl)
  have hjudged := endsExactly_stage (t.chargedItem item) entry.row
    (by rw [hcharged]; exact hsome) (by rw [hcharged]; exact hevent) hfailed hretryable
  unfold judgeItem itemEnds
  by_cases hregenerate : item.action = .regenerateDerivatives
  · have haction : (t.chargedItem item).action = .regenerateDerivatives := by rw [hcharged, hregenerate]
    have hid : (t.chargedItem item).id = item.id := by rw [hcharged]
    rw [if_pos haction, if_pos hregenerate, hid]
    exact ⟨rfl, endsExactly_generation ..⟩
  have haction : (t.chargedItem item).action = item.action := by rw [hcharged]
  rw [if_neg (haction ▸ hregenerate), if_neg hregenerate]
  by_cases hreplay : item.action = .replayStage
  · rw [if_pos (.inl hreplay)]
    have hfile' : (t.chargedItem item).memeFileId = some entry.row.memeFileId := by
      rw [hcharged, hfile]
    have hstage' : (t.chargedItem item).stage = some entry.row.stage := by rw [hcharged, hstage]
    simp only [haction, hreplay, hfile', hstage', hslot]
    exact ⟨trivial, hjudged⟩
  split
  · next h _ _ => exact absurd (haction.symm.trans h) hreplay
  have hkind' : (t.chargedItem item).workKind = item.workKind := by rw [hcharged]
  have hid' : (t.chargedItem item).workId = item.workId := by rw [hcharged]
  rcases hwork with ⟨hkind, hwork⟩ | hkind
  · rw [if_pos (.inr hkind), hkind', hkind, hid', hwork]
    have hrow : t.stageOf (.row entry.row.id) = some entry.row := by
      simp [RecoveryTables.stageOf, workRowId, hget]
    rw [hrow]
    exact ⟨rfl, hjudged⟩
  have hneither : ¬(item.action = .replayStage ∨ item.workKind = .pipelineStage) := by
    simp [hreplay, hkind]
  have hevent' : (t.chargedItem item).dispatchEventId = item.dispatchEventId := by
    rw [hcharged]
  rw [if_neg hneither, hkind', hkind, hid']
  refine ⟨rfl, ?_⟩
  rw [← hevent']
  exact endsExactly_sync _ (by rw [hevent']; exact hsome)

def IsDone (done : RecoveryJobItem) : Prop :=
  done.status ∈ terminalItemStatuses ∧ done.reservationActive = false

theorem reconcileCandidate_waiting (hget : t.stages.get entry.row.id = some entry)
    (hfailed : entry.row.status = .failed) (hretryable : entry.row.isRetryable = true)
    (hwaits : waitsFor entry.row item = true) (hitem : t.items.get item.id = some item) :
    (itemEnds t item = true → ∃ done,
      (t.reconcileCandidate lookup now item.id).items.get item.id = some done ∧ IsDone done) ∧
    (itemEnds t item = false →
      (t.reconcileCandidate lookup now item.id).items.get item.id = some (t.chargedItem item)) := by
  obtain ⟨hjudged, hends⟩ := judgeItem_of_waits lookup hget hfailed hretryable hwaits
  simp only [waitsFor, decide_eq_true_eq] at hwaits
  obtain ⟨hstatus, -, -, hfile, hstage, hwork⟩ := hwaits
  obtain ⟨state, consumed, hcharged⟩ := chargedItem_eq t item (by rw [hstage]; rfl)
  have hid : (t.chargedItem item).id = item.id := by rw [hcharged]
  have hkind : (t.chargedItem item).workKind ≠ .ingestRequest := by
    rw [hcharged]
    rcases hwork with ⟨hkind, -⟩ | hkind <;> simp [hkind]
  have hexhausted := exhaustedDispatch_of_stage (t := t) hfile hstage (by
    intro row hrow
    rw [t.stageRow_of_get hget] at hrow
    cases hrow
    simp [hfailed])
  have hmem : item.id ∈ t.items.rows.map RecoveryJobItem.id :=
    List.mem_map_of_mem ((t.items.get_eq_some_iff).mp hitem).1
  have hitems : (t.reconcileCandidate lookup now item.id).items =
      t.items.save ((judgeItem t lookup (t.chargedItem item)).2.apply (t.chargedItem item)
        ((t.jobs item.recoveryJobId).map (·.status)) now) := by
    simp only [RecoveryTables.reconcileCandidate, hitem, hstatus, if_true,
      RecoveryTables.reconcileItem, hexhausted, hkind, false_and, if_false,
      RecoveryTables.settleItem_items, hjudged]
  have hsaved : ∀ saved : RecoveryJobItem, saved.id = item.id →
      (t.items.save saved).get item.id = some saved := by
    intro saved hsame
    rw [← hsame]
    exact Table.get_save_self _ (hsame ▸ hmem)
  rw [hitems]
  constructor
  · intro htrue
    obtain ⟨status, reason, error, hterminal, houtcome⟩ := hends.finishes htrue
    rw [houtcome]
    exact ⟨_, hsaved _ hid, hterminal, rfl⟩
  · intro hfalse
    rw [hends.waits hfalse]
    exact hsaved _ hid

theorem chargedItem_of_keepsEvidence (h : KeepsEvidence t u) (item : RecoveryJobItem) :
    u.chargedItem item = t.chargedItem item := by
  simp only [RecoveryTables.chargedItem, RecoveryTables.dispatchOutboxForItem, h.outbox]

theorem itemEnds_of_keepsEvidence (h : KeepsEvidence t u) (item : RecoveryJobItem) :
    itemEnds u item = itemEnds t item := by
  simp only [itemEnds, chargedItem_of_keepsEvidence h, RecoveryTables.generationOf, h.generations,
    RecoveryTables.syncTargetOf, h.syncTargets]

variable {candidates : List Uuid}

theorem reconcile_waiting (hnodup : candidates.Nodup)
    (hcandidate : item.id ∈ candidates) (hget : t.stages.get entry.row.id = some entry)
    (hfailed : entry.row.status = .failed) (hretryable : entry.row.isRetryable = true)
    (hwaits : waitsFor entry.row item = true) (hitem : t.items.get item.id = some item) :
    (itemEnds t item = true → ∃ done,
      (t.reconcile lookup candidates now).items.get item.id = some done ∧ IsDone done) ∧
    (itemEnds t item = false →
      (t.reconcile lookup candidates now).items.get item.id = some (t.chargedItem item)) := by
  induction candidates generalizing t with
  | nil => cases hcandidate
  | cons first rest ih =>
    rw [List.nodup_cons] at hnodup
    obtain ⟨hfirst, hrest⟩ := hnodup
    rw [RecoveryTables.reconcile_cons]
    by_cases hsame : item.id = first
    · subst hsame
      rw [RecoveryTables.reconcile_items _ lookup now hfirst]
      exact reconcileCandidate_waiting hget hfailed hretryable hwaits hitem
    have hkept := keepsEvidence_reconcileCandidate t lookup now first
    have hmem : item.id ∈ rest := by
      rcases List.mem_cons.mp hcandidate with heq | hmem
      · exact absurd heq hsame
      · exact hmem
    have hnext := ih hrest hmem (hkept.stages (by simp [hfailed]) hget)
      ((t.reconcileCandidate_items lookup now hsame).trans hitem)
    rw [itemEnds_of_keepsEvidence hkept, chargedItem_of_keepsEvidence hkept] at hnext
    exact hnext

variable {settings : PipelineSettings} {isLocked : Uuid → Bool} {eventId : Uuid}

theorem writeBack_self {loaded updated : PipelineStageJournal} (hid : updated.id = loaded.id)
    (hfile : updated.memeFileId = loaded.memeFileId) (hstage : updated.stage = loaded.stage) :
    PipelineStageJournal.writeBack loaded updated loaded = updated := by
  simp [PipelineStageJournal.writeBack, ← hid, ← hfile, ← hstage]

theorem get_reclaimed (hmem : entry ∈ t.stages.rows) (updated : PipelineStageJournal) (now : Time)
    (hid : updated.id = entry.row.id) (hfile : updated.memeFileId = entry.row.memeFileId)
    (hstage : updated.stage = entry.row.stage) :
    (t.saveStage entry.row updated now).stages.get entry.row.id =
      some { row := updated, updatedAt := now } := by
  rw [get_saveStage_self updated now (t.stages.get_of_mem hmem), writeStage_self _ _ _ rfl,
    writeBack_self hid hfile hstage]

variable {row : Stamped PipelineStageJournal}

theorem eq_of_get {id : Uuid} (hget : t.stages.get id = some row)
    (hmem : entry ∈ t.stages.rows) (hid : entry.row.id = id) : entry = row := by
  subst hid
  rw [t.stages.get_of_mem hmem] at hget
  exact Option.some.inj hget

variable {candidates : List Uuid}

theorem status_of_reconcile {lookup : WorkLookups} (hget : t.stages.get row.row.id = some row)
    (hstatus : row.row.status ≠ .pending) (hid : row.row.id = entry.row.id)
    (hmem : entry ∈ (t.reconcile lookup candidates now).stages.rows) : entry = row :=
  eq_of_get ((keepsEvidence_reconcile t lookup candidates now).stages hstatus hget) hmem hid.symm

theorem not_reservedAnew {loaded : PipelineStageJournal}
    (hget : t.stages.get loaded.id = some row) (hstatus : row.row.status ≠ .pending) :
    ¬ ReservedAnew t loaded eventId := by
  rintro ⟨entry, hmem, hid, hpending, -⟩
  rw [eq_of_get hget hmem hid] at hpending
  exact hstatus hpending

section Next

variable (hnext : nextStuckStage settings isLocked t now = some entry)

include hnext

theorem mem_of_nextStuckStage :
    entry ∈ t.stages.rows ∧ isStuckStage settings isLocked now entry = true :=
  List.mem_filter.mp (Queries.mem_of_firstBy hnext)

theorem reclaim_of_limit (hlimit : settings.brokerRetryMaxAttempts ≤ entry.row.attemptCount) :
    reclaimNextStuckStage settings isLocked t eventId now =
      (t.saveStage entry.row (reclaimedEntry entry.row now) now, some true) := by
  have hitems : t.items.saveAll t.items.rows = t.items :=
    t.items.saveAll_of_subset (List.Subset.refl _)
  simp only [reclaimNextStuckStage, hnext, reclaimStuckStage, if_pos hlimit,
    RecoveryTables.saveStageStore, Option.getD_some, StageStore.setEntry,
    RecoveryTables.stageStore, hitems, Function.update_self]
  rfl

section Retries

variable (hlimit : ¬ settings.brokerRetryMaxAttempts ≤ entry.row.attemptCount)

include hlimit

theorem reclaim_of_missingOriginal (hkey : (t.files entry.row.memeFileId).s3OriginalKey = "") :
    reclaimNextStuckStage settings isLocked t eventId now = (t, some false) := by
  have hretryable : isRetryableFailure (reclaimedEntry entry.row now) = true := by
    simp [isRetryableFailure, reclaimedEntry]
  have hrefused := replayItem_of_failed (linkedStageItem t entry.row) eventId now
    (StageStore.journal_setEntry (t.stageStore entry.row.memeFileId) entry.row.stage
      (reclaimedEntry entry.row now)) hretryable
  rw [if_pos (by exact hkey)] at hrefused
  simp only [reclaimNextStuckStage, hnext, reclaimStuckStage, if_neg hlimit, hrefused, Except.map]

theorem reclaim_of_original (hkey : (t.files entry.row.memeFileId).s3OriginalKey ≠ "") :
    ∃ store, reclaimNextStuckStage settings isLocked t eventId now =
        (t.saveStageStore entry.row store now, some true) ∧
      store.journal entry.row.stage = some (reserveReplay (reclaimedEntry entry.row now) eventId
        (nextAttempt entry.row)) ∧
      ∃ message ∈ store.outbox, message.messageId = eventId ∧ message.status = .pending ∧
        message.routingKey = .stage entry.row.stage ∧
        message.aggregateId = entry.row.memeFileId := by
  have hretryable : isRetryableFailure (reclaimedEntry entry.row now) = true := by
    simp [isRetryableFailure, reclaimedEntry]
  obtain ⟨store, accepted, hreserved, hrow, houtbox⟩ := replayItem_reserves
    (linkedStageItem t entry.row) eventId now
    (StageStore.journal_setEntry (t.stageStore entry.row.memeFileId) entry.row.stage
      (reclaimedEntry entry.row now)) hretryable hkey
  refine ⟨store, ?_, hrow, ?_⟩
  · simp only [reclaimNextStuckStage, hnext, reclaimStuckStage, if_neg hlimit, hreserved,
      Except.map]
  · rw [houtbox]
    exact ⟨_, List.mem_append_right _ List.mem_cons_self, rfl, rfl, rfl, rfl⟩

theorem reservedAnew_of_original (hkey : (t.files entry.row.memeFileId).s3OriginalKey ≠ "") :
    ReservedAnew (reclaimNextStuckStage settings isLocked t eventId now).1 entry.row eventId := by
  obtain ⟨store, heq, hrow, hmessage⟩ := reclaim_of_original hnext hlimit hkey
  have hmem := (mem_of_nextStuckStage hnext).1
  rw [heq]
  have hget : (t.saveStageStore entry.row store now).stages.get entry.row.id =
      some { row := reserveReplay (reclaimedEntry entry.row now) eventId (nextAttempt entry.row),
             updatedAt := now } := by
    simp only [RecoveryTables.saveStageStore, hrow, Option.getD_some]
    exact get_reclaimed hmem _ now rfl rfl rfl
  exact ⟨_, ((Table.get_eq_some_iff _).mp hget).1, rfl, rfl, rfl, hmessage⟩

end Retries

theorem reclaimSettles_of_limit {lookup : WorkLookups}
    (hlimit : settings.brokerRetryMaxAttempts ≤ entry.row.attemptCount)
    (hreaches : ReachesWaiting t entry.row candidates) :
    ReclaimSettles settings isLocked lookup t entry.row eventId candidates now ↔
      ∀ item ∈ t.items.rows, waitsFor entry.row item = true → itemEnds t item = true := by
  have hmem := (mem_of_nextStuckStage hnext).1
  have hget := get_reclaimed hmem (reclaimedEntry entry.row now) now rfl rfl rfl
  obtain ⟨row, hrow⟩ : ∃ row : Stamped PipelineStageJournal,
      row = { row := reclaimedEntry entry.row now, updatedAt := now } := ⟨_, rfl⟩
  obtain ⟨u, hu⟩ : ∃ u, u = t.saveStage entry.row (reclaimedEntry entry.row now) now := ⟨_, rfl⟩
  have hid : entry.row.id = row.row.id := by rw [hrow]; rfl
  have hfailed : row.row.status = .failed := by rw [hrow]; rfl
  have hretryable : row.row.isRetryable = true := by rw [hrow]; rfl
  have hends : ∀ item, itemEnds u item = itemEnds t item := fun item => by rw [hu]; rfl
  have hcharge : ∀ item, u.chargedItem item = t.chargedItem item := fun item => by rw [hu]; rfl
  have hwaits : ∀ item, waitsFor row.row item = waitsFor entry.row item := fun item => by
    rw [hrow]; rfl
  rw [← hu, ← hrow, hid] at hget
  simp only [ReclaimSettles, reclaim_of_limit hnext hlimit, ← hu]
  have hnotReserved : ¬ ReservedAnew u entry.row eventId :=
    not_reservedAnew (hid ▸ hget) (by simp [hfailed])
  have hpass : ∀ item ∈ t.items.rows, waitsFor entry.row item = true →
      (itemEnds t item = true → ∃ done,
        (u.reconcile lookup candidates now).items.get item.id = some done ∧ IsDone done) ∧
      (itemEnds t item = false →
        (u.reconcile lookup candidates now).items.get item.id = some (t.chargedItem item)) := by
    intro item hitem hwaiting
    have hstored : u.items.get item.id = some item := by
      rw [hu]
      exact t.items.get_of_mem hitem
    rw [← hends, ← hcharge]
    exact reconcile_waiting hreaches.nodup (hreaches.reaches item hitem hwaiting) hget hfailed
      hretryable ((hwaits item).trans hwaiting) hstored
  rw [or_iff_right hnotReserved]
  constructor
  · rintro ⟨-, hitems⟩ item hitem hwaiting
    obtain ⟨done, hdone, hsame, hterminal, -⟩ := hitems item hitem hwaiting
    by_contra hopen
    rw [Bool.not_eq_true] at hopen
    have hcharged := (hpass item hitem hwaiting).2 hopen
    rw [← hsame, Table.get_of_mem _ hdone] at hcharged
    simp only [waitsFor, decide_eq_true_eq] at hwaiting
    obtain ⟨state, consumed, heq⟩ := chargedItem_eq t item (by rw [hwaiting.2.2.2.2.1]; rfl)
    rw [Option.some.inj hcharged, heq, hwaiting.1] at hterminal
    simp [terminalItemStatuses] at hterminal
  · intro hall
    have hkept := (keepsEvidence_reconcile u lookup candidates now).stages (by simp [hfailed]) hget
    refine ⟨⟨row, ((Table.get_eq_some_iff _).mp hkept).1, hid.symm, .inr hfailed⟩, ?_⟩
    intro item hitem hwaiting
    obtain ⟨done, hdone, hterminal, hreleased⟩ :=
      (hpass item hitem hwaiting).1 (hall item hitem hwaiting)
    obtain ⟨hstored, hsame⟩ := (Table.get_eq_some_iff _).mp hdone
    exact ⟨done, hstored, hsame, hterminal, hreleased⟩

theorem reclaimSettles_iff {lookup : WorkLookups}
    (hreaches : ReachesWaiting t entry.row candidates) :
    ReclaimSettles settings isLocked lookup t entry.row eventId candidates now ↔
      StageSettles settings t entry.row := by
  unfold StageSettles
  split
  · next hlimit => exact reclaimSettles_of_limit hnext hlimit hreaches
  next hlimit =>
  constructor
  · intro hsettles hkey
    obtain ⟨hmem, hstuck⟩ := mem_of_nextStuckStage hnext
    simp only [isStuckStage, decide_eq_true_eq] at hstuck
    have hstatus : entry.row.status ≠ .pending := by simp [hstuck.1]
    simp only [ReclaimSettles, reclaim_of_missingOriginal hnext hlimit hkey] at hsettles
    rcases hsettles with hreserved | ⟨⟨row, hrow, hid, hterminal⟩, -⟩
    · exact not_reservedAnew (t.stages.get_of_mem hmem) hstatus hreserved
    have hsame := status_of_reconcile (t.stages.get_of_mem hmem) hstatus hid.symm hrow
    rw [hsame, hstuck.1] at hterminal
    simp at hterminal
  · intro hkey
    exact .inl (reservedAnew_of_original hnext hlimit hkey)

end Next

variable {chosen other : Stamped PipelineStageJournal}

theorem stageBefore_asymm (a b : Stamped PipelineStageJournal) (h : stageBefore a b = true) :
    stageBefore b a = false := by
  simp only [stageBefore, Bool.or_eq_true, decide_eq_true_eq, Bool.and_eq_true, beq_iff_eq] at h
  simp only [stageBefore, Bool.or_eq_false_iff, decide_eq_false_iff_not, Bool.and_eq_false_iff,
    beq_eq_false_iff_ne]
  unfold Time Uuid at *
  omega

theorem stageBefore_false_trans (a b c : Stamped PipelineStageJournal)
    (hab : stageBefore a b = false) (hbc : stageBefore b c = false) : stageBefore a c = false := by
  simp only [stageBefore, Bool.or_eq_false_iff, decide_eq_false_iff_not, Bool.and_eq_false_iff,
    beq_eq_false_iff_ne] at *
  unfold Time Uuid at *
  omega

theorem updatedAt_le_of_not_before (h : stageBefore entry other = false) :
    other.updatedAt ≤ entry.updatedAt := by
  simp only [stageBefore, Bool.or_eq_false_iff, decide_eq_false_iff_not] at h
  exact Nat.le_of_not_lt h.1

theorem eq_of_not_before (hentry : entry ∈ t.stages.rows) (hother : other ∈ t.stages.rows)
    (h : stageBefore entry other = false) (h' : stageBefore other entry = false) : entry = other := by
  apply t.stages.eq_of_key_eq hentry hother
  simp only [stageBefore, Bool.or_eq_false_iff, decide_eq_false_iff_not, Bool.and_eq_false_iff,
    beq_eq_false_iff_ne] at h h'
  unfold Time Uuid at *
  omega

theorem stuck_of_le (hstuck : isStuckStage settings isLocked now entry = true)
    (hprocessing : other.row.status = .processing) (hunlocked : isLocked other.row.id = false)
    (hle : other.updatedAt ≤ entry.updatedAt) :
    isStuckStage settings isLocked now other = true := by
  simp only [isStuckStage, decide_eq_true_eq] at hstuck ⊢
  exact ⟨hprocessing, Nat.lt_of_le_of_lt hle hstuck.2.1, hunlocked⟩

/-- The reclaimer wrote the row it chose, which is no longer processing, and no other row. -/
structure WroteOver (t u : RecoveryTables) (chosen : Stamped PipelineStageJournal) : Prop where
  files : u.files = t.files
  stages : ∃ updated now, updated.status ≠ .processing ∧
    u.stages.rows = t.stages.rows.map (writeStage chosen.row updated now)

theorem WroteOver.mem_of_ne (h : WroteOver t u chosen) (hentry : entry ∈ t.stages.rows)
    (hne : entry.row.id ≠ chosen.row.id) : entry ∈ u.stages.rows := by
  obtain ⟨updated, now, -, hrows⟩ := h.stages
  rw [hrows]
  exact List.mem_map.mpr ⟨entry, hentry, if_neg hne⟩

theorem WroteOver.mem_cases (h : WroteOver t u chosen) (hchosen : chosen ∈ t.stages.rows)
    (hentry : entry ∈ u.stages.rows) :
    (entry ∈ t.stages.rows ∧ entry.row.id ≠ chosen.row.id) ∨
      (entry.row.id = chosen.row.id ∧ entry.row.status ≠ .processing) := by
  obtain ⟨updated, now, hstatus, hrows⟩ := h.stages
  rw [hrows] at hentry
  obtain ⟨row, hrow, rfl⟩ := List.mem_map.mp hentry
  by_cases hid : row.row.id = chosen.row.id
  · cases t.stages.eq_of_key_eq hrow hchosen hid
    right
    rw [writeStage_self _ _ _ rfl]
    simpa [PipelineStageJournal.writeBack] using hstatus
  · left
    rw [writeStage, if_neg hid]
    exact ⟨hrow, hid⟩

theorem WroteOver.reclaimable_iff (h : WroteOver t u chosen) (row : PipelineStageJournal) :
    Reclaimable settings u row ↔ Reclaimable settings t row := by
  simp only [Reclaimable, h.files]

theorem reclaimNextStuckStage_cases (settings : PipelineSettings) (isLocked : Uuid → Bool)
    (t : RecoveryTables) (eventId : Uuid) (now : Time) :
    (nextStuckStage settings isLocked t now = none ∧
      reclaimNextStuckStage settings isLocked t eventId now = (t, none)) ∨
    ∃ chosen, nextStuckStage settings isLocked t now = some chosen ∧
      ((¬ Reclaimable settings t chosen.row ∧
        reclaimNextStuckStage settings isLocked t eventId now = (t, some false)) ∨
      (Reclaimable settings t chosen.row ∧ ∃ u, WroteOver t u chosen ∧
        reclaimNextStuckStage settings isLocked t eventId now = (u, some true))) := by
  cases hnext : nextStuckStage settings isLocked t now with
  | none =>
    left
    simp only [reclaimNextStuckStage, hnext, and_self]
  | some chosen =>
    right
    refine ⟨chosen, rfl, ?_⟩
    by_cases hlimit : settings.brokerRetryMaxAttempts ≤ chosen.row.attemptCount
    · right
      exact ⟨.inl hlimit, t.saveStage chosen.row (reclaimedEntry chosen.row now) now,
        ⟨rfl, reclaimedEntry chosen.row now, now, by simp [reclaimedEntry], rfl⟩,
        reclaim_of_limit hnext hlimit⟩
    by_cases hkey : (t.files chosen.row.memeFileId).s3OriginalKey = ""
    · left
      exact ⟨by simp [Reclaimable, hlimit, hkey], reclaim_of_missingOriginal hnext hlimit hkey⟩
    right
    obtain ⟨store, heq, hrow, -⟩ := reclaim_of_original hnext hlimit hkey
    refine ⟨.inr hkey, t.saveStageStore chosen.row store now, ⟨rfl, reserveReplay (reclaimedEntry chosen.row now) eventId
      (nextAttempt chosen.row), now, by simp [reserveReplay], ?_⟩, heq⟩
    simp only [RecoveryTables.saveStageStore, hrow, Option.getD_some, RecoveryTables.saveStage]

theorem WroteOver.countP_lt (h : WroteOver t u chosen) (hchosen : chosen ∈ t.stages.rows)
    (hupTo : upTo settings isLocked now entry chosen = true) :
    u.stages.rows.countP (upTo settings isLocked now entry) <
      t.stages.rows.countP (upTo settings isLocked now entry) := by
  obtain ⟨updated, time, hstatus, hrows⟩ := h.stages
  have hwritten : upTo settings isLocked now entry (writeStage chosen.row updated time chosen) =
      false := by
    rw [writeStage_self _ _ _ rfl]
    simp [upTo, isStuckStage, PipelineStageJournal.writeBack, hstatus]
  rw [hrows, List.countP_map]
  apply countP_lt_countP hchosen ?_ hwritten hupTo
  intro other hother hcounted
  by_cases hid : other.row.id = chosen.row.id
  · cases t.stages.eq_of_key_eq hother hchosen hid
    exact hupTo
  · simpa only [Function.comp, writeStage, if_neg hid] using hcounted

theorem mem_of_refused (hentry : entry ∈ t.stages.rows) (hother : other ∈ t.stages.rows)
    (hstuck : other.row.status = .processing ∧ isLocked other.row.id = false)
    (hbehind : stageBefore entry other = false) (hrefused : ¬ Reclaimable settings t other.row)
    (turns : List ReclaimTurn) :
    entry ∈ (reclaimStuckWork settings isLocked t turns).stages.rows := by
  induction turns generalizing t with
  | nil => exact hentry
  | cons turn turns ih =>
    rcases reclaimNextStuckStage_cases settings isLocked t turn.eventId turn.now with
      ⟨-, hnone⟩ | ⟨chosen, hnext, ⟨-, hstopped⟩ | ⟨hreclaimable, u, hwrote, htaken⟩⟩
    · simp only [reclaimStuckWork, hnone]
      split
      · exact ih hentry hother hrefused
      · exact hentry
      · exact hentry
    · simpa only [reclaimStuckWork, hstopped] using hentry
    simp only [reclaimStuckWork, htaken]
    obtain ⟨hchosen, hchosenStuck⟩ := mem_of_nextStuckStage hnext
    have hneOther : other.row.id ≠ chosen.row.id := by
      intro hid
      cases t.stages.eq_of_key_eq hother hchosen hid
      exact hrefused hreclaimable
    have hneEntry : entry.row.id ≠ chosen.row.id := by
      intro hid
      cases t.stages.eq_of_key_eq hentry hchosen hid
      have hfront := stuck_of_le hchosenStuck hstuck.1 hstuck.2 (updatedAt_le_of_not_before hbehind)
      have hnotBefore := Queries.not_before_firstBy stageBefore_asymm stageBefore_false_trans hnext
        (List.mem_filter.mpr ⟨hother, hfront⟩)
      exact hneOther (congrArg (fun row => row.row.id)
        (eq_of_not_before hentry hother hbehind hnotBefore).symm)
    exact ih (hwrote.mem_of_ne hentry hneEntry) (hwrote.mem_of_ne hother hneOther)
      (fun h => hrefused ((hwrote.reclaimable_iff _).mp h))

theorem LeftProcessing.batch {rowId : Uuid} (h : LeftProcessing t rowId) (turns : List ReclaimTurn) :
    LeftProcessing (reclaimStuckWork settings isLocked t turns) rowId := by
  induction turns generalizing t with
  | nil => exact h
  | cons turn turns ih =>
    rcases reclaimNextStuckStage_cases settings isLocked t turn.eventId turn.now with
      ⟨-, hnone⟩ | ⟨chosen, hnext, ⟨-, hstopped⟩ | ⟨-, u, hwrote, htaken⟩⟩
    · simp only [reclaimStuckWork, hnone]
      split
      · exact ih h
      · exact h
      · exact h
    · simpa only [reclaimStuckWork, hstopped] using h
    simp only [reclaimStuckWork, htaken]
    apply ih
    intro entry hentry hid
    rcases hwrote.mem_cases (mem_of_nextStuckStage hnext).1 hentry with ⟨hold, -⟩ | ⟨-, hstatus⟩
    · exact h entry hold hid
    · exact hstatus

theorem leftProcessing_of_reclaimable (hentry : entry ∈ t.stages.rows)
    (hstuck : isStuckStage settings isLocked now entry = true)
    (hfront : ∀ other ∈ t.stages.rows, upTo settings isLocked now entry other = true →
      Reclaimable settings t other.row) {turns : List ReclaimTurn}
    (hlater : ∀ turn ∈ turns, now ≤ turn.now)
    (henough : t.stages.rows.countP (upTo settings isLocked now entry) ≤ turns.length) :
    LeftProcessing (reclaimStuckWork settings isLocked t turns) entry.row.id := by
  have hself : upTo settings isLocked now entry entry = true := by
    simp [upTo, hstuck, stageBefore]
  induction turns generalizing t with
  | nil =>
    have hpos := List.countP_pos_iff.mpr ⟨entry, hentry, hself⟩
    simp only [List.length_nil] at henough
    omega
  | cons turn turns ih =>
    have hnow : isStuckStage settings isLocked turn.now entry = true := by
      have hle := hlater turn List.mem_cons_self
      simp only [isStuckStage, decide_eq_true_eq] at hstuck ⊢
      exact ⟨hstuck.1, Nat.lt_of_lt_of_le hstuck.2.1 (Nat.sub_le_sub_right hle _), hstuck.2.2⟩
    have hcandidate := List.mem_filter.mpr ⟨hentry, hnow⟩
    rcases reclaimNextStuckStage_cases settings isLocked t turn.eventId turn.now with
      ⟨hnone, -⟩ | ⟨chosen, hnext, hturn⟩
    · obtain ⟨first, hfirst⟩ := Queries.exists_firstBy_of_mem stageBefore hcandidate
      exact absurd (hfirst.symm.trans hnone) (by simp)
    obtain ⟨hchosen, hchosenStuck⟩ := mem_of_nextStuckStage hnext
    have hupTo : upTo settings isLocked now entry chosen = true := by
      have hnotBefore := Queries.not_before_firstBy stageBefore_asymm stageBefore_false_trans hnext
        hcandidate
      simp only [isStuckStage, decide_eq_true_eq] at hchosenStuck
      simp [upTo, hnotBefore, stuck_of_le hstuck hchosenStuck.1 hchosenStuck.2.2
        (updatedAt_le_of_not_before hnotBefore)]
    rcases hturn with ⟨hrefused, -⟩ | ⟨-, u, hwrote, htaken⟩
    · exact absurd (hfront chosen hchosen hupTo) hrefused
    simp only [reclaimStuckWork, htaken]
    by_cases hid : entry.row.id = chosen.row.id
    · apply LeftProcessing.batch
      intro row hrow hsame
      rcases hwrote.mem_cases hchosen hrow with ⟨-, hne⟩ | ⟨-, hstatus⟩
      · exact absurd (hsame.trans hid) hne
      · exact hstatus
    have hless := hwrote.countP_lt hchosen hupTo
    rw [List.length_cons] at henough
    apply ih (hwrote.mem_of_ne hentry hid) _ _ (by omega)
    · intro other hother hcounted
      rw [hwrote.reclaimable_iff]
      rcases hwrote.mem_cases hchosen hother with ⟨hold, -⟩ | ⟨-, hstatus⟩
      · exact hfront other hold hcounted
      · simp [upTo, isStuckStage, hstatus] at hcounted
    · exact fun later hmem => hlater later (List.mem_cons_of_mem _ hmem)

theorem leftProcessing_iff (hentry : entry ∈ t.stages.rows)
    (hstuck : isStuckStage settings isLocked now entry = true) {turns : List ReclaimTurn}
    (hlater : ∀ turn ∈ turns, now ≤ turn.now)
    (henough : t.stages.rows.countP (isStuckStage settings isLocked now) ≤ turns.length) :
    LeftProcessing (reclaimStuckWork settings isLocked t turns) entry.row.id ↔
      ∀ other ∈ t.stages.rows, upTo settings isLocked now entry other = true →
        Reclaimable settings t other.row := by
  constructor
  · intro hleft other hother hcounted
    by_contra hrefused
    simp only [upTo, Bool.and_eq_true, Bool.not_eq_true'] at hcounted
    obtain ⟨hotherStuck, hbehind⟩ := hcounted
    simp only [isStuckStage, decide_eq_true_eq] at hotherStuck hstuck
    have hkept := mem_of_refused hentry hother ⟨hotherStuck.1, hotherStuck.2.2⟩ hbehind hrefused turns
    exact hleft entry hkept rfl hstuck.1
  intro hfront
  have hfewer : t.stages.rows.countP (upTo settings isLocked now entry) ≤
      t.stages.rows.countP (isStuckStage settings isLocked now) := by
    apply List.countP_mono_left
    intro other _ hcounted
    exact (Bool.and_eq_true_iff.mp hcounted).1
  exact leftProcessing_of_reclaimable hentry hstuck hfront hlater (hfewer.trans henough)

end Judging

/-- A stuck row is settled exactly when the file of a row below the limit has its original and
every item that waits for a row at the limit comes to an end; and a batch reaches a stuck row
exactly when no row up to it is refused. -/
theorem stuckStages_settled_iff (settings : PipelineSettings) (isLocked : Uuid → Bool)
    (lookup : WorkLookups) (t : RecoveryTables) (now : Time) :
    (∀ entry eventId candidates, nextStuckStage settings isLocked t now = some entry →
      ReachesWaiting t entry.row candidates →
      (ReclaimSettles settings isLocked lookup t entry.row eventId candidates now ↔
        StageSettles settings t entry.row)) ∧
    ∀ entry ∈ t.stages.rows, isStuckStage settings isLocked now entry = true →
      ∀ turns : List ReclaimTurn, (∀ turn ∈ turns, now ≤ turn.now) →
      t.stages.rows.countP (isStuckStage settings isLocked now) ≤ turns.length →
      (LeftProcessing (reclaimStuckWork settings isLocked t turns) entry.row.id ↔
        ∀ other ∈ t.stages.rows, upTo settings isLocked now entry other = true →
          Reclaimable settings t other.row) :=
  ⟨fun _ _ _ hnext hreaches => reclaimSettles_iff hnext hreaches,
    fun _ hentry hstuck _ hlater henough => leftProcessing_iff hentry hstuck hlater henough⟩

def lastOcrAttempt : PipelineStageJournal where
  id := 10
  memeFileId := 1
  stage := .ocr
  status := .processing
  attemptCount := 5
  lastEventId := some 7
  isRetryable := true
  startedAt := some 100

def ocrRetry (retryableFailuresConsumed : Nat) : RecoveryJobItem where
  id := 20
  recoveryJobId := 30
  memeFileId := some 1
  stage := some .ocr
  workKind := .pipelineStage
  workId := .row 10
  action := .retryStage
  expectedVersion := .row 50 (some 6)
  attemptBudgetStart := some 5
  retryableFailuresConsumed := retryableFailuresConsumed
  reservationActive := true
  status := .dispatched
  dispatchEventId := some 7
  dispatchedAt := some 60

def diedAtLimit (retryableFailuresConsumed : Nat) : RecoveryTables where
  files := fun id => { id := id, memeId := 2, s3OriginalKey := "originals/1" }
  stages := { rows := [{ row := lastOcrAttempt, updatedAt := 100 }] }
  items := { rows := [ocrRetry retryableFailuresConsumed] }
  stageSlots := by simp

theorem stuckStages_settled_iff_spent :
    ReclaimSettles {} (fun _ => false) (fun _ => .missing "") (diedAtLimit 3) lastOcrAttempt 8 [20]
        2000 ∧
      LeftProcessing (reclaimStuckWork {} (fun _ => false) (diedAtLimit 3) [⟨8, 2000⟩]) 10 :=
  ⟨((stuckStages_settled_iff {} (fun _ => false) (fun _ => .missing "") (diedAtLimit 3) 2000).1
      ⟨lastOcrAttempt, 100⟩ 8 [20] (by decide +kernel) ⟨by decide, by decide +kernel⟩).mpr
      (by unfold StageSettles; decide +kernel),
    ((stuckStages_settled_iff {} (fun _ => false) (fun _ => .missing "") (diedAtLimit 3) 2000).2
      ⟨lastOcrAttempt, 100⟩ (by decide +kernel) (by decide +kernel) [⟨8, 2000⟩] (by decide)
      (by decide +kernel)).mpr (by unfold Reclaimable; decide +kernel)⟩

/-- The item has its whole budget left; it stays dispatched and reserved for the failed row. -/
theorem not_reclaimSettles_diedAtLimit :
    nextStuckStage {} (fun _ => false) (diedAtLimit 0) 2000 = some ⟨lastOcrAttempt, 100⟩ ∧
      ReachesWaiting (diedAtLimit 0) lastOcrAttempt [20] ∧
      ¬ ReclaimSettles {} (fun _ => false) (fun _ => .missing "") (diedAtLimit 0) lastOcrAttempt 8
        [20] 2000 := by
  refine ⟨by decide +kernel, ⟨by decide, by decide +kernel⟩, ?_⟩
  unfold ReclaimSettles ReservedAnew NothingWaits
  decide +kernel

end MemeExpert.Services
