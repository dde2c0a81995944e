import Mathlib.Data.Multiset.Basic
import MemeExpert.Lib.Keyset
import MemeExpert.Lib.Results
import MemeExpert.Lib.Totals
import MemeExpert.Services.OfferedRecovery

/-! A query preview captures the roots its selector finds, and turns them into execution
items page by page. -/

namespace MemeExpert.Services

open Pipeline Tables

structure RecoveryQueryFilters where
  stage : Option ContentPipelineStage := none
  outdatedWebVideo : Bool := false
  successfulStage : Bool := false

/-- The columns of a query preview that no step of its preparation writes. The selector is `none`
where the selection holds none of type `query`, or one that does not validate. -/
structure QueryPreview where
  jobId : Uuid
  action : RecoveryCapability
  scope : Option RecoveryReplayScope := none
  retryLimit : RetryLimit := .three
  acknowledgements : List RecoveryAcknowledgement := []
  selector : Option RecoveryQueryFilters

def QueryPreview.replayScope (preview : QueryPreview) : RecoveryReplayScope :=
  preview.scope.getD .stageOnly

inductive SnapshotRootKey where
  | outdatedVideo (memeFileId : Uuid)
  | successfulStage (kind : RecoveryWorkKind) (rowId : Uuid)
  | work (kind : RecoveryWorkKind) (workId : RecoveryWorkId)

/-- A version fence of a member; an outdated file without a transcode row is fenced by itself. -/
inductive CapturedVersion where
  | work (version : RecoveryVersion)
  | outdatedFile (updatedAt : Time)
  deriving DecidableEq

structure RecoveryQuerySnapshotMember where
  id : Uuid
  rootKey : SnapshotRootKey
  workKind : RecoveryWorkKind
  workId : Option RecoveryWorkId
  memeFileId : Option Uuid := none
  stage : Option ContentPipelineStage := none
  capturedVersion : Option CapturedVersion := none
  capturedContextFingerprint : Option String := none
  isOutdatedVideo : Bool := false

/-- The members of one job in the order of their ids. The table admits each root key once, and an
outdated video is captured under the key of its file. -/
structure QuerySnapshot where
  members : List RecoveryQuerySnapshotMember := []
  ascending : members.Pairwise fun a b => a.id < b.id := by simp
  rootKeys : (members.map (·.rootKey)).Nodup := by simp
  outdated : ∀ member ∈ members, member.isOutdatedVideo = true → ∃ memeFileId,
    member.rootKey = .outdatedVideo memeFileId ∧ member.memeFileId = some memeFileId := by simp

inductive ExclusionReason where
  | canonicalStateChanged | missingOriginal | unsupportedMediaType | missingTranscodeStage
  | activeRecoveryJob | ineligible | acknowledgementRequired | overlappingStageSelection
  | invalidQuerySelector | selectorActionMismatch | selectorScopeMismatch | selectorFilterMismatch
  | snapshotMembershipMismatch
  deriving DecidableEq

/-- `exclusions_by_reason`, a counter. -/
abbrev Exclusions := ExclusionReason → Nat

def Exclusions.count (exclusions : Exclusions) (reason : ExclusionReason) : Exclusions :=
  Function.update exclusions reason (exclusions reason + 1)

def ExclusionReason.all : List ExclusionReason :=
  [.canonicalStateChanged, .missingOriginal, .unsupportedMediaType, .missingTranscodeStage,
    .activeRecoveryJob, .ineligible, .acknowledgementRequired, .overlappingStageSelection,
    .invalidQuerySelector, .selectorActionMismatch, .selectorScopeMismatch,
    .selectorFilterMismatch, .snapshotMembershipMismatch]

def Exclusions.total (exclusions : Exclusions) : Nat := (ExclusionReason.all.map exclusions).sum

theorem ExclusionReason.mem_all (reason : ExclusionReason) : reason ∈ ExclusionReason.all := by
  cases reason <;> decide

theorem Exclusions.total_count (exclusions : Exclusions) (reason : ExclusionReason) :
    (exclusions.count reason).total = exclusions.total + 1 :=
  Totals.sum_map_update (by decide) (ExclusionReason.mem_all reason) exclusions 1

structure SourceObjectObservation where
  key : Option String
  presence : StorageObjectPresence

/-- `(key or "").strip() or None`. -/
def normalizedKey (key : Option String) : Option String :=
  let stripped := strip (key.getD "")
  if stripped = "" then none else some stripped

/-- `_probe_source_object`. -/
def observeSourceObject (s : CanonicalState) (key : Option String) : SourceObjectObservation where
  key := normalizedKey key
  presence := probeSourceObject s key

/-- The object key of a member, `none` for a member whose key is not looked up. -/
def snapshotMemberSourceKey (s : CanonicalState) (member : RecoveryQuerySnapshotMember) :
    Option (Option String) :=
  match member.memeFileId with
  | some memeFileId => some ((s.files.get memeFileId).map (·.s3OriginalKey))
  | none =>
    match member.workKind, member.workId with
    | .ingestRequest, some (.row requestId) =>
      some ((s.ingestRequests.get requestId).bind (·.tempOriginalObjectKey))
    | _, _ => none

/-- The observations of a page by the ids of its members. -/
abbrev SourceObservations := Uuid → Option SourceObjectObservation

def snapshotSourceObservation (s : CanonicalState) (member : RecoveryQuerySnapshotMember) :
    Option SourceObjectObservation :=
  (snapshotMemberSourceKey s member).map (observeSourceObject s)

def snapshotPageObservations (s : CanonicalState) (page : List RecoveryQuerySnapshotMember) :
    SourceObservations := fun memberId =>
  (page.find? fun member => member.id = memberId).bind (snapshotSourceObservation s)

def storageUnavailable (s : CanonicalState) (page : List RecoveryQuerySnapshotMember) : Bool :=
  page.any fun member =>
    (snapshotSourceObservation s member).any fun observation => observation.presence = .unavailable

/-- `_execution_item_key`. -/
def executionItemKey (item : RecoveryJobItem) : ReservationKey :=
  match item.memeFileId, item.stage with
  | some memeFileId, some stage => .stage memeFileId stage
  | _, _ => .work item.workKind item.workId

def RecoveryError.className : RecoveryError → String
  | workNotFound _ | fileNotFound _ | deadLetterNotFound _ => "AdminRecoveryNotFoundError"
  | conflict _ => "AdminRecoveryConflictError"
  | originalMissing => "AdminRecoveryOriginalMissingError"
  | storageUnavailable => "AdminRecoveryStorageUnavailableError"

structure ActionContext where
  available : Bool
  scopes : Multiset RecoveryReplayScope
  blockedPrerequisites : Multiset String
  requiredAcknowledgements : Multiset RecoveryAcknowledgement

structure StageRowContext where
  rowId : Uuid
  version : RecoveryVersion
  status : ContentPipelineStageStatus
  isRetryable : Bool

structure ReservationContext where
  stage : ContentPipelineStage
  workKind : RecoveryWorkKind
  workId : RecoveryWorkId

structure ExecutionContext where
  key : ReservationKey
  parent : Option ReservationKey
  workKind : RecoveryWorkKind
  workId : RecoveryWorkId
  action : RecoveryCapability
  expectedVersion : RecoveryVersion
  isRoot : Bool

/-- The payloads that are fingerprinted: of an outdated video, and of any other member. -/
inductive SnapshotContext where
  | outdatedVideo (activeReservation stagePresent : Bool)
  | queryMember (action : Option ActionContext) (scope : RecoveryReplayScope)
      (sourceObjectKey : Option String)
      (stageContext : List (ContentPipelineStage × Option StageRowContext))
      (activeStageReservations : Multiset ReservationContext)
      (execution : Option (List ExecutionContext)) (executionError : Option String)

/-- The tables at the reads that one member takes; those of `rebuilt` are read once more where the
fingerprint planned no items. The ids are those of the new items. -/
structure MemberReads where
  tables : CanonicalState
  store : RecoveryStore
  rebuilt : CanonicalState × RecoveryStore
  itemId : Uuid
  ids : ContentPipelineStage → Uuid

section Context

variable (digest : SnapshotContext → String) (preview : QueryPreview)

def QueryPreview.request (work : RecoveryWorkRead) : RecoveryActionRequest where
  version := work.version
  action := preview.action
  scope := preview.replayScope
  retryLimit := preview.retryLimit
  acknowledgements := preview.acknowledgements

def missingAcknowledgements (action : RecoveryActionRead) : List RecoveryAcknowledgement :=
  (action.scopeRequirements preview.replayScope).filter (· ∉ preview.acknowledgements)

def workSourceObjectKey (s : CanonicalState) (work : RecoveryWorkRead) : Option String :=
  match work.stage, work.memeFileId with
  | some _, some memeFileId => (s.files.get memeFileId).map (·.s3OriginalKey)
  | _, _ =>
    if work.kind = .ingestRequest then
      (s.ingestRequests.get work.id).bind (·.tempOriginalObjectKey)
    else none

def contextStages (stage : ContentPipelineStage) : List ContentPipelineStage :=
  stage :: if preview.replayScope = .stageAndDependents then downstreamStages stage else []

def stageRowContext (entry : Stamped PipelineStageJournal) : StageRowContext where
  rowId := entry.row.id
  version := .row entry.updatedAt entry.row.lastEventId
  status := entry.row.status
  isRetryable := entry.row.isRetryable

def reservationContext (item : RecoveryJobItem) : Option ReservationContext :=
  item.stage.map fun stage => ⟨stage, item.workKind, item.workId⟩

def executionContext (items : List RecoveryJobItem) (item : RecoveryJobItem) :
    ExecutionContext where
  key := executionItemKey item
  parent := (items.find? fun other => some other.id = item.parentItemId).map executionItemKey
  workKind := item.workKind
  workId := item.workId
  action := item.action
  expectedVersion := item.expectedVersion
  isRoot := item.isRoot

def plannedItems (reads : MemberReads) (candidate : RecoveryCandidateRead) :
    Option (Except RecoveryError (List RecoveryJobItem)) :=
  match candidate.action preview.action with
  | none => none
  | some action =>
    if action.available ∧ preview.replayScope ∈ action.scopes ∧
        missingAcknowledgements preview action = [] then
      some (buildExecutionItems reads.tables reads.store preview.jobId reads.itemId reads.ids
        candidate.work (preview.request candidate.work) false)
    else none

/-- `_query_member_context_fingerprint`, with the items it planned. -/
def queryMemberContext (reads : MemberReads) (candidate : RecoveryCandidateRead) :
    SnapshotContext :=
  let work := candidate.work
  let stages := match work.memeFileId, work.stage with
    | some memeFileId, some stage =>
      (contextStages preview stage).map fun stage => (memeFileId, stage)
    | _, _ => []
  let planned := plannedItems preview reads candidate
  .queryMember
    ((candidate.action preview.action).map fun action => {
      available := action.available
      scopes := action.scopes
      blockedPrerequisites := action.blockedPrerequisites
      requiredAcknowledgements := action.scopeRequirements preview.replayScope })
    preview.replayScope (workSourceObjectKey reads.tables work)
    (stages.map fun (memeFileId, stage) =>
      (stage, (reads.tables.stageRow memeFileId stage).map stageRowContext))
    ((reads.store.items.filter fun item => item.reservationActive ∧
      stages.any fun (memeFileId, stage) =>
        decide (item.memeFileId = some memeFileId ∧ item.stage = some stage)).filterMap
          reservationContext)
    (planned.bind fun result => result.toOption.map fun items => items.map (executionContext items))
    (planned.bind fun result =>
      match result with
      | .error e => some e.className
      | .ok _ => none)

end Context

/-- What a page reads of the tables before its loop: the source keys or files, the transcode rows
and the reservations, and then what each member reads, by the id of the member. -/
structure PageReads where
  files : CanonicalState
  rows : CanonicalState
  store : RecoveryStore
  member : Uuid → MemberReads

def webVideoProfileId : String := "web-h264-aac-1080p30-v2"

/-- `_web_video_is_outdated`. -/
def webVideoIsOutdated (file : MediaFileFence) : Bool :=
  file.s3WebVideoKey.isSome ∧
    (file.webVideoProfile ≠ some webVideoProfileId ∨ file.webVideoVerifiedAt = none ∨
      file.sourceHasAudio = none ∨ file.webVideoHasAudio = none ∨
      file.sourceHasAudio ≠ file.webVideoHasAudio)

def mediaRecoveryVersion (entry : Stamped PipelineStageJournal) (file : MediaFileFence) :
    RecoveryVersion :=
  .media entry.updatedAt entry.row.lastEventId file

/-- The items of a member, or the reason that excludes it. -/
abbrev MemberOutcome := Except ExclusionReason (List RecoveryJobItem)

section Outcomes

variable (digest : SnapshotContext → String) (preview : QueryPreview)
  (observations : SourceObservations) (reads : PageReads) (member : RecoveryQuerySnapshotMember)

/-- The transcode row of an outdated video: `current_stage`, and the row its work id names. The
file is the one the member was captured at. -/
def outdatedVideoRow (file : MediaFileFence) :
    Except ExclusionReason
      (Option (Stamped PipelineStageJournal) × Option (Stamped PipelineStageJournal)) :=
  match member.workId with
  | none =>
    if member.capturedVersion ≠ some (.outdatedFile file.updatedAt) then
      .error .canonicalStateChanged
    else .ok (reads.rows.stageRow file.id .transcode, none)
  | some (.planned ..) => .error .canonicalStateChanged
  | some (.row stageId) =>
    match (reads.rows.stages.get stageId).filter fun entry => entry.row.stage = .transcode with
    | none => .error .canonicalStateChanged
    | some entry =>
      if entry.row.memeFileId ≠ file.id ∨
          member.capturedVersion ≠ some (.work (mediaRecoveryVersion entry file)) then
        .error .canonicalStateChanged
      else .ok (some entry, some entry)

def isActiveTranscode (file : MediaFileFence) : Bool :=
  reads.store.items.any fun item =>
    decide (item.memeFileId = some file.id ∧ item.stage = some .transcode) && item.reservationActive

def outdatedVideoItem (file : MediaFileFence) (entry : Stamped PipelineStageJournal) :
    RecoveryJobItem where
  id := (reads.member member.id).itemId
  recoveryJobId := preview.jobId
  memeFileId := some file.id
  stage := some .transcode
  isRoot := true
  workKind := .pipelineStage
  workId := .row entry.row.id
  action := .regenerateDerivatives
  expectedVersion := mediaRecoveryVersion entry file
  retryLimit := preview.retryLimit
  preserveReady := file.status = .ready
  suppressFanout := true
  terminalOverrideAcknowledged := isTerminalFailure entry.row
  reservationActive := false
  status := .queued

def outdatedVideoRoot (file : MediaFileFence) (row : Option (Stamped PipelineStageJournal)) :
    MemberOutcome :=
  if isMovingMedia (some file) = false then .error .unsupportedMediaType
  else
    match row with
    | none => .error .missingTranscodeStage
    | some entry =>
      if isActiveTranscode reads file then .error .activeRecoveryJob
      else if entry.row.status ∈ [.pending, .processing, .duplicate] then .error .ineligible
      else if isTerminalFailure entry.row ∧ .terminalOverride ∉ preview.acknowledgements then
        .error .acknowledgementRequired
      else .ok [outdatedVideoItem preview reads member file entry]

def outdatedVideoFile : Except ExclusionReason MediaFileFence :=
  match member.memeFileId.bind reads.files.files.get with
  | none => .error .canonicalStateChanged
  | some file =>
    if member.capturedVersion = none then .error .canonicalStateChanged
    else
      match observations member.id with
      | none => .error .canonicalStateChanged
      | some observation =>
        if observation.key ≠ normalizedKey (some file.s3OriginalKey) then
          .error .canonicalStateChanged
        else if observation.presence = .missing then .error .missingOriginal
        else .ok file

/-- The turn of `_materialize_outdated_video_page` for one member. -/
def outdatedVideoOutcome : MemberOutcome := do
  let file ← outdatedVideoFile observations reads member
  let (currentStage, row) ← outdatedVideoRow reads member file
  let currentContext : SnapshotContext :=
    .outdatedVideo (isActiveTranscode reads file) currentStage.isSome
  if member.capturedContextFingerprint ≠ some (digest currentContext) then
    .error .canonicalStateChanged
  else if webVideoIsOutdated file = false then .error .canonicalStateChanged
  else outdatedVideoRoot preview reads member file row

def checkSourceObservation : Except ExclusionReason Unit :=
  match observations member.id with
  | none => .ok ()
  | some observation =>
    if observation.key ≠ normalizedKey ((snapshotMemberSourceKey reads.files member).join) then
      .error .canonicalStateChanged
    else if observation.presence = .missing then .error .missingOriginal
    else .ok ()

def successfulStatus (stage : ContentPipelineStage) : RecoveryWorkStatus :=
  if stage ∈ syncStages then .syncTarget .synced else .pipelineStage .succeeded

def unchangedCandidate (successfulStage : Option ContentPipelineStage) :
    Except ExclusionReason RecoveryCandidateRead :=
  match member.workId, member.capturedVersion with
  | some workId, some version =>
    let current := reads.member member.id
    match getCandidate current.tables current.store (member.workKind, workId) none false with
    | .error _ => .error .canonicalStateChanged
    | .ok candidate =>
      if successfulStage.any fun stage =>
          candidate.work.stage ≠ some stage ∨ candidate.work.status ≠ successfulStatus stage then
        .error .canonicalStateChanged
      else if version ≠ .work candidate.work.version then .error .canonicalStateChanged
      else if member.capturedContextFingerprint ≠
          some (digest (queryMemberContext preview current candidate)) then
        .error .canonicalStateChanged
      else .ok candidate
  | _, _ => .error .canonicalStateChanged

def rootExecutionKey : Option ReservationKey :=
  match member.memeFileId, member.stage with
  | some memeFileId, some stage => some (.stage memeFileId stage)
  | _, _ => member.workId.map (.work member.workKind)

def checkAction (candidate : RecoveryCandidateRead) : Except ExclusionReason Unit :=
  match candidate.actions.find? fun entry =>
      entry.capability = preview.action ∧ entry.available with
  | none => .error .ineligible
  | some action =>
    if preview.replayScope ∉ action.scopes then .error .ineligible
    else if missingAcknowledgements preview action ≠ [] then .error .acknowledgementRequired
    else .ok ()

def memberItems (current : MemberReads) (candidate : RecoveryCandidateRead) :
    Except RecoveryError (List RecoveryJobItem) :=
  match plannedItems preview current candidate with
  | some (.ok planned) => .ok planned
  | _ =>
    buildExecutionItems current.rebuilt.1 current.rebuilt.2 preview.jobId current.itemId current.ids
      candidate.work (preview.request candidate.work) false

def claimItems (executionKeys : List ReservationKey)
    (built : Except RecoveryError (List RecoveryJobItem)) : MemberOutcome :=
  match built with
  | .error _ => .error .canonicalStateChanged
  | .ok items =>
    if items.any fun item => executionItemKey item ∈ executionKeys then
      .error .overlappingStageSelection
    else .ok items

/-- The turn of `_materialize_candidate_snapshot_page` for one member. -/
def candidateOutcome (successfulStage : Option ContentPipelineStage)
    (executionKeys : List ReservationKey) : MemberOutcome := do
  checkSourceObservation observations reads member
  let candidate ← unchangedCandidate digest preview reads member successfulStage
  if (rootExecutionKey member).any fun key => key ∈ executionKeys then
    .error .overlappingStageSelection
  else do
    checkAction preview candidate
    claimItems executionKeys (memberItems preview (reads.member member.id) candidate)

end Outcomes

structure MemberTurn where
  member : RecoveryQuerySnapshotMember
  outcome : MemberOutcome

namespace MemberTurn

variable (turn : MemberTurn)

def items : List RecoveryJobItem := turn.outcome.toOption.getD []

def isSelected : Bool := turn.outcome.toOption.isSome

def isExcludedFor (reason : ExclusionReason) : Bool :=
  match turn.outcome with
  | .error found => found = reason
  | .ok _ => false

end MemberTurn

/-- What the loop over a page carries: the counter, the new items and the execution keys taken. No
column keeps the turns of all pages so far. -/
structure PageTally where
  exclusions : Exclusions
  newItems : List RecoveryJobItem := []
  executionKeys : List ReservationKey
  turns : List MemberTurn

def PageTally.add (tally : PageTally) (turn : MemberTurn) : PageTally :=
  match turn.outcome with
  | .error reason =>
    { tally with
      exclusions := tally.exclusions.count reason
      turns := tally.turns ++ [turn] }
  | .ok built =>
    { tally with
      newItems := tally.newItems ++ built
      executionKeys := tally.executionKeys ++ built.map executionItemKey
      turns := tally.turns ++ [turn] }

def tallyPage (outcome : RecoveryQuerySnapshotMember → List ReservationKey → MemberOutcome)
    (start : PageTally) (page : List RecoveryQuerySnapshotMember) : PageTally :=
  page.foldl (fun tally member => tally.add ⟨member, outcome member tally.executionKeys⟩) start

section Pages

variable (digest : SnapshotContext → String) (preview : QueryPreview)
  (filters : RecoveryQueryFilters) (start : PageTally) (page : List RecoveryQuerySnapshotMember)
  (observations : SourceObservations) (reads : PageReads)

def materializeOutdatedVideoPage : Except ExclusionReason PageTally :=
  if preview.action ≠ .regenerateDerivatives then .error .selectorActionMismatch
  else if preview.replayScope ≠ .stageOnly then .error .selectorScopeMismatch
  else if filters.outdatedWebVideo = false then .error .selectorFilterMismatch
  else if page.any fun member => !member.isOutdatedVideo then .error .snapshotMembershipMismatch
  else
    .ok (tallyPage (fun member _ => outdatedVideoOutcome digest preview observations reads member)
      start page)

def expectedKind (stage : ContentPipelineStage) : RecoveryWorkKind :=
  if stage ∈ syncStages then .syncTarget else .pipelineStage

def materializeCandidateSnapshotPage (successfulStage : Option ContentPipelineStage) :
    Except ExclusionReason PageTally :=
  if page.any fun member => member.isOutdatedVideo then .error .snapshotMembershipMismatch
  else if successfulStage.any fun stage => page.any fun member =>
      member.stage ≠ some stage ∨ member.workKind ≠ expectedKind stage then
    .error .snapshotMembershipMismatch
  else
    .ok (tallyPage
      (fun member => candidateOutcome digest preview observations reads member successfulStage)
      start page)

def materializeAttentionPage : Except ExclusionReason PageTally :=
  if filters.outdatedWebVideo ∨ filters.successfulStage then .error .selectorFilterMismatch
  else materializeCandidateSnapshotPage digest preview start page observations reads none

def materializeSuccessfulStagePage : Except ExclusionReason PageTally :=
  if preview.action ≠ .replayStage then .error .selectorActionMismatch
  else
    match filters.stage with
    | none => .error .selectorFilterMismatch
    | some selectedStage =>
      if filters.successfulStage = false ∨ selectedStage = .ingest then
        .error .selectorFilterMismatch
      else
        materializeCandidateSnapshotPage digest preview start page observations reads
          (some selectedStage)

def materializePage : Except ExclusionReason PageTally :=
  if filters.outdatedWebVideo then
    materializeOutdatedVideoPage digest preview filters start page observations reads
  else if filters.successfulStage then
    materializeSuccessfulStagePage digest preview filters start page observations reads
  else materializeAttentionPage digest preview filters start page observations reads

end Pages

/-- The turn of a member of a page, whichever the selector is. -/
def pageOutcome (digest : SnapshotContext → String) (preview : QueryPreview)
    (filters : RecoveryQueryFilters) (observations : SourceObservations) (reads : PageReads) :
    RecoveryQuerySnapshotMember → List ReservationKey → MemberOutcome :=
  if filters.outdatedWebVideo then
    fun member _ => outdatedVideoOutcome digest preview observations reads member
  else fun member => candidateOutcome digest preview observations reads member
    (if filters.successfulStage then filters.stage else none)

/-- The items that one root adds: one of them is the root, and no key occurs twice. -/
structure OneRoot (items : List RecoveryJobItem) : Prop where
  root : items.countP (·.isRoot) = 1
  keys : (items.map executionItemKey).Nodup

theorem OneRoot.singleton {item : RecoveryJobItem} (h : item.isRoot = true) : OneRoot [item] where
  root := by rw [List.countP_singleton, if_pos h]
  keys := List.nodup_singleton _

theorem nodup_cascade (root : ContentPipelineStage) (scope : RecoveryReplayScope) :
    (root :: if scope = .stageAndDependents then downstreamStages root else []).Nodup := by
  cases root <;> cases scope <;> decide

section Built

variable {s : CanonicalState} {store : RecoveryStore} {jobId itemId : Uuid}
  {ids : ContentPipelineStage → Uuid} {work : RecoveryWorkRead} {file : MediaFileFence}
  {request : RecoveryActionRequest} {reserve : Bool} {items : List RecoveryJobItem}

theorem dependentItem_key (stage : ContentPipelineStage) (parent : Option Uuid) :
    (dependentItem s jobId ids file request reserve stage parent).isRoot = false ∧
      executionItemKey (dependentItem s jobId ids file request reserve stage parent) =
        .stage file.id stage := by
  unfold dependentItem
  split <;> exact ⟨rfl, rfl⟩

theorem oneRoot_cascade (classifies : Bool) {root : ContentPipelineStage}
    {dependents : List ContentPipelineStage} (hstages : (root :: dependents).Nodup) :
    OneRoot (rootItem jobId ids work file request reserve root ::
      ((withParents ids classifies none (root :: dependents)).tail.map fun (stage, parent) =>
        dependentItem s jobId ids file request reserve stage parent)) where
  root := by
    rw [List.countP_cons_of_pos rfl, List.countP_eq_zero.mpr]
    intro item hitem
    obtain ⟨⟨stage, parent⟩, -, rfl⟩ := List.mem_map.mp hitem
    rw [(dependentItem_key stage parent).1]
    exact Bool.false_ne_true
  keys := by
    have hkeys : ((withParents ids classifies none (root :: dependents)).tail.map
        fun (stage, parent) => dependentItem s jobId ids file request reserve stage parent).map
          executionItemKey = dependents.map (ReservationKey.stage file.id) := by
      calc _ = (withParents ids classifies none (root :: dependents)).tail.map
            (ReservationKey.stage file.id ∘ Prod.fst) := by
            rw [List.map_map]
            exact List.map_congr_left fun entry _ => (dependentItem_key entry.1 entry.2).2
        _ = dependents.map (ReservationKey.stage file.id) := by
            rw [← List.map_map, List.map_tail, map_fst_withParents, List.tail_cons]
    rw [List.map_cons, hkeys]
    exact hstages.map (f := ReservationKey.stage file.id) fun _ _ heq =>
      (ReservationKey.stage.inj heq).2

/-- What is built has one root, which is the work. -/
theorem oneRoot_of_build
    (h : buildExecutionItems s store jobId itemId ids work request reserve = .ok items) :
    OneRoot items ∧ ∀ item ∈ items, item.isRoot = true →
      (item.workKind, item.workId) = (work.kind, .row work.id) := by
  unfold buildExecutionItems at h
  split at h
  case h_2 =>
    cases h
    refine ⟨OneRoot.singleton rfl, fun item hitem _ => ?_⟩
    cases List.mem_singleton.mp hitem
    rfl
  case h_1 root memeFileId hstage hfile =>
    split at h
    case h_1 => cases h
    case h_2 file hget =>
      dsimp only at h
      split at h
      · cases h
      cases h
      refine ⟨oneRoot_cascade _ (nodup_cascade root request.scope), ?_⟩
      intro item hitem hroot
      rcases List.mem_cons.mp hitem with rfl | hitem
      · rfl
      obtain ⟨⟨stage, parent⟩, -, rfl⟩ := List.mem_map.mp hitem
      rw [(dependentItem_key stage parent).1] at hroot
      cases hroot

end Built

section Turns

variable {digest : SnapshotContext → String} {preview : QueryPreview}
  {observations : SourceObservations} {reads : PageReads} {member : RecoveryQuerySnapshotMember}
  {items : List RecoveryJobItem}

theorem memeFileId_of_outdatedVideoFile {file : MediaFileFence}
    (h : outdatedVideoFile observations reads member = .ok file) :
    member.memeFileId = some file.id := by
  unfold outdatedVideoFile at h
  split at h
  · cases h
  rename_i found hfound
  obtain ⟨memeFileId, hmember, hget⟩ := Option.bind_eq_some_iff.mp hfound
  have hid : found.id = memeFileId := (reads.files.files.get_eq_some_iff.mp hget).2
  split at h
  · cases h
  split at h
  · cases h
  split at h
  · cases h
  split at h
  · cases h
  · cases h
    rw [hmember, hid]

theorem eq_item_of_outdatedVideoRoot {file : MediaFileFence}
    {row : Option (Stamped PipelineStageJournal)}
    (h : outdatedVideoRoot preview reads member file row = .ok items) :
    ∃ entry, items = [outdatedVideoItem preview reads member file entry] := by
  unfold outdatedVideoRoot at h
  split at h
  · cases h
  split at h
  · cases h
  rename_i entry
  split at h
  · cases h
  split at h
  · cases h
  split at h
  · cases h
  · cases h
    exact ⟨entry, rfl⟩

theorem candidate_key {s : CanonicalState} {store : RecoveryStore} {key : WorkKey}
    {candidate : RecoveryCandidateRead}
    (h : getCandidate s store key none false = .ok candidate) :
    key = (candidate.work.kind, .row candidate.work.id) := by
  obtain ⟨⟨work, file⟩, hload, h⟩ := Results.bind_eq_ok.mp h
  cases Results.pure_eq_ok.mp h
  dsimp only
  unfold loadCandidateWork at hload
  split at hload
  · obtain ⟨⟨projected, found⟩, hstage, hload⟩ := Results.bind_eq_ok.mp hload
    cases Results.pure_eq_ok.mp hload
    rw [(stageProjection_of_load hstage).key_eq]
    unfold withLinkedDeadLetter
    split <;> rfl
  · next hkind =>
    obtain ⟨found, hwork, hload⟩ := Results.bind_eq_ok.mp hload
    cases Results.pure_eq_ok.mp hload
    exact (nonStageWork_of_getWork hkind hwork).key_eq

theorem unchangedCandidate_key {successfulStage : Option ContentPipelineStage}
    {candidate : RecoveryCandidateRead}
    (h : unchangedCandidate digest preview reads member successfulStage = .ok candidate) :
    ∃ workId, member.workId = some workId ∧
      (member.workKind, workId) = (candidate.work.kind, .row candidate.work.id) := by
  unfold unchangedCandidate at h
  split at h
  · next workId version hworkId hversion =>
    dsimp only at h
    split at h
    · cases h
    next found hfound =>
    split at h
    · cases h
    split at h
    · cases h
    split at h
    · cases h
    · cases h
      exact ⟨workId, hworkId, candidate_key hfound⟩
  · cases h

/-- A root is the work of its member, or the transcode of the file of an outdated video. -/
def IsRootOf (member : RecoveryQuerySnapshotMember) (item : RecoveryJobItem) : Prop :=
  (∃ workId, member.workId = some workId ∧ (item.workKind, item.workId) = (member.workKind, workId)) ∨
    item.stage = some .transcode ∧ ∃ memeFileId, member.memeFileId = some memeFileId ∧
      item.memeFileId = some memeFileId

theorem oneRoot_of_outdatedVideo
    (h : outdatedVideoOutcome digest preview observations reads member = .ok items) :
    OneRoot items ∧ (∀ item ∈ items, item.isRoot = true → IsRootOf member item) ∧
      ∃ memeFileId, member.memeFileId = some memeFileId ∧
        items.map executionItemKey = [.stage memeFileId .transcode] := by
  obtain ⟨file, hfile, h⟩ := Results.bind_eq_ok.mp h
  obtain ⟨⟨currentStage, row⟩, -, h⟩ := Results.bind_eq_ok.mp h
  dsimp only at h
  split at h
  · cases h
  split at h
  · cases h
  · obtain ⟨entry, rfl⟩ := eq_item_of_outdatedVideoRoot h
    have hmember := memeFileId_of_outdatedVideoFile hfile
    refine ⟨OneRoot.singleton rfl, ?_, file.id, hmember, rfl⟩
    intro item hitem _
    cases List.mem_singleton.mp hitem
    exact .inr ⟨rfl, file.id, hmember, rfl⟩

theorem exists_build_of_memberItems {current : MemberReads} {candidate : RecoveryCandidateRead}
    (h : memberItems preview current candidate = .ok items) :
    ∃ s store, buildExecutionItems s store preview.jobId current.itemId current.ids candidate.work
      (preview.request candidate.work) false = .ok items := by
  unfold memberItems at h
  split at h
  · next planned hplanned =>
    cases h
    unfold plannedItems at hplanned
    split at hplanned
    · cases hplanned
    split at hplanned
    · exact ⟨_, _, Option.some.inj hplanned⟩
    · cases hplanned
  · exact ⟨_, _, h⟩

theorem oneRoot_of_candidate {successfulStage : Option ContentPipelineStage}
    {executionKeys : List ReservationKey}
    (h : candidateOutcome digest preview observations reads member successfulStage executionKeys =
      .ok items) :
    OneRoot items ∧ (∀ item ∈ items, item.isRoot = true → IsRootOf member item) ∧
      ∀ key ∈ items.map executionItemKey, key ∉ executionKeys := by
  obtain ⟨_, -, h⟩ := Results.bind_eq_ok.mp h
  obtain ⟨candidate, hcandidate, h⟩ := Results.bind_eq_ok.mp h
  obtain ⟨workId, hworkId, hkey⟩ := unchangedCandidate_key hcandidate
  split at h
  · cases h
  obtain ⟨_, -, h⟩ := Results.bind_eq_ok.mp h
  unfold claimItems at h
  split at h
  · cases h
  rename_i built hbuilt
  split at h
  · cases h
  rename_i hfree
  cases h
  obtain ⟨_, _, hitems⟩ := exists_build_of_memberItems hbuilt
  obtain ⟨hone, hroots⟩ := oneRoot_of_build hitems
  refine ⟨hone, ?_, ?_⟩
  · intro item hitem hroot
    exact .inl ⟨workId, hworkId, (hroots item hitem hroot).trans hkey.symm⟩
  · intro key hkey htaken
    obtain ⟨item, hitem, rfl⟩ := List.mem_map.mp hkey
    exact hfree (List.any_eq_true.mpr ⟨item, hitem, decide_eq_true htaken⟩)

/-- What a turn selects has one root, the work of its member. -/
def MemberTurn.SelectsRoot (turn : MemberTurn) : Prop :=
  ∀ items, turn.outcome = .ok items → OneRoot items ∧
    ∀ item ∈ items, item.isRoot = true → IsRootOf turn.member item

def exclusionsOf (turns : List MemberTurn) : Exclusions := fun reason =>
  turns.countP (·.isExcludedFor reason)

theorem exclusionsOf_append_error {turns : List MemberTurn} {turn : MemberTurn}
    {reason : ExclusionReason} (h : turn.outcome = .error reason) :
    exclusionsOf (turns ++ [turn]) = (exclusionsOf turns).count reason := by
  funext other
  rw [exclusionsOf, List.countP_append, Exclusions.count, Function.update_apply]
  by_cases hsame : other = reason
  · simp [hsame, MemberTurn.isExcludedFor, h, exclusionsOf]
  · simp [hsame, Ne.symm hsame, MemberTurn.isExcludedFor, h, exclusionsOf]

theorem exclusionsOf_append_ok {turns : List MemberTurn} {turn : MemberTurn}
    (h : turn.outcome = .ok items) : exclusionsOf (turns ++ [turn]) = exclusionsOf turns := by
  funext other
  simp [exclusionsOf, List.countP_append, MemberTurn.isExcludedFor, h]

theorem selected_add_excluded (turns : List MemberTurn) :
    turns.countP (·.isSelected) + (exclusionsOf turns).total = turns.length := by
  induction turns using List.reverseRecOn with
  | nil => decide
  | append_singleton turns turn ih =>
    rw [List.countP_append, List.countP_singleton, List.length_append, List.length_singleton, ← ih]
    cases hturn : turn.outcome with
    | error reason =>
      rw [exclusionsOf_append_error hturn, Exclusions.total_count]
      simp [MemberTurn.isSelected, hturn, Except.toOption, Nat.add_assoc]
    | ok items =>
      rw [exclusionsOf_append_ok hturn]
      simp [MemberTurn.isSelected, hturn, Except.toOption, Nat.add_right_comm]

/-- An item without the column that is blanked when its file is deleted. -/
def withoutFile (item : RecoveryJobItem) : RecoveryJobItem := { item with memeFileId := none }

/-- The items and the counters of the job and of its page are those of the turns. -/
structure PageTally.Records (existing : List RecoveryJobItem) (roots : Nat) (tally : PageTally) :
    Prop where
  turns : ∀ turn ∈ tally.turns, turn.SelectsRoot
  items : (existing ++ tally.newItems).map withoutFile =
    (tally.turns.flatMap (·.items)).map withoutFile
  roots : roots + tally.newItems.countP (·.isRoot) = tally.turns.countP (·.isSelected)
  exclusions : tally.exclusions = exclusionsOf tally.turns

variable {tally : PageTally} {existing : List RecoveryJobItem} {roots : Nat} {turn : MemberTurn}

theorem PageTally.turns_add (tally : PageTally) (turn : MemberTurn) :
    (tally.add turn).turns = tally.turns ++ [turn] := by
  unfold PageTally.add
  split <;> rfl

theorem PageTally.newItems_add (tally : PageTally) (turn : MemberTurn) :
    (tally.add turn).newItems = tally.newItems ++ turn.items := by
  unfold PageTally.add
  split
  · next hoc => simp [MemberTurn.items, hoc, Except.toOption]
  · next hoc => simp [MemberTurn.items, hoc, Except.toOption]

theorem PageTally.executionKeys_add (tally : PageTally) (turn : MemberTurn) :
    (tally.add turn).executionKeys = tally.executionKeys ++ turn.items.map executionItemKey := by
  unfold PageTally.add
  split
  · next hoc => simp [MemberTurn.items, hoc, Except.toOption]
  · next hoc => simp [MemberTurn.items, hoc, Except.toOption]

theorem MemberTurn.SelectsRoot.countP_isRoot (h : turn.SelectsRoot) :
    turn.items.countP (·.isRoot) = [turn].countP (·.isSelected) := by
  cases hoc : turn.outcome with
  | error reason => simp [MemberTurn.items, MemberTurn.isSelected, hoc, Except.toOption]
  | ok built =>
    simp [MemberTurn.items, MemberTurn.isSelected, hoc, Except.toOption, (h built hoc).1.root]

theorem PageTally.Records.add (h : tally.Records existing roots) (hturn : turn.SelectsRoot) :
    (tally.add turn).Records existing roots where
  turns := by
    rw [PageTally.turns_add]
    intro other hother
    rcases List.mem_append.mp hother with hold | hnew
    · exact h.turns other hold
    · rw [List.mem_singleton.mp hnew]
      exact hturn
  items := by
    rw [PageTally.turns_add, PageTally.newItems_add, List.flatMap_append, List.flatMap_singleton,
      ← List.append_assoc, List.map_append, h.items, List.map_append]
  roots := by
    rw [PageTally.turns_add, PageTally.newItems_add, List.countP_append, List.countP_append,
      ← h.roots, hturn.countP_isRoot, Nat.add_assoc]
  exclusions := by
    rw [PageTally.turns_add]
    unfold PageTally.add
    split
    · next hoc => rw [exclusionsOf_append_error hoc, ← h.exclusions]
    · next hoc => rw [exclusionsOf_append_ok hoc, h.exclusions]

variable {outcome : RecoveryQuerySnapshotMember → List ReservationKey → MemberOutcome}

theorem records_tallyPage
    (houtcome : ∀ member keys, MemberTurn.SelectsRoot ⟨member, outcome member keys⟩)
    {start : PageTally} (h : start.Records existing roots)
    (page : List RecoveryQuerySnapshotMember) :
    (tallyPage outcome start page).Records existing roots := by
  induction page generalizing start with
  | nil => exact h
  | cons member page ih => exact ih (h.add (houtcome member start.executionKeys))

/-- The turns of the members of a page, one after the other: each knows the keys of the items of
those before it. -/
inductive TakesTurns (outcome : RecoveryQuerySnapshotMember → List ReservationKey → MemberOutcome) :
    List ReservationKey → List RecoveryQuerySnapshotMember → List MemberTurn → Prop
  | nil (keys : List ReservationKey) : TakesTurns outcome keys [] []
  | cons {keys : List ReservationKey} {member : RecoveryQuerySnapshotMember}
      {page : List RecoveryQuerySnapshotMember} {turns : List MemberTurn}
      (h : TakesTurns outcome (keys ++
        (MemberTurn.items ⟨member, outcome member keys⟩).map executionItemKey) page turns) :
      TakesTurns outcome keys (member :: page) (⟨member, outcome member keys⟩ :: turns)

theorem TakesTurns.members {keys : List ReservationKey} {page : List RecoveryQuerySnapshotMember}
    {turns : List MemberTurn} (h : TakesTurns outcome keys page turns) :
    turns.map (·.member) = page := by
  induction h with
  | nil => rfl
  | cons _ ih => exact congrArg _ ih

theorem takesTurns_tallyPage (start : PageTally) (page : List RecoveryQuerySnapshotMember) :
    ∃ turns, TakesTurns outcome start.executionKeys page turns ∧
      (tallyPage outcome start page).turns = start.turns ++ turns := by
  induction page generalizing start with
  | nil => exact ⟨[], .nil _, (List.append_nil _).symm⟩
  | cons member page ih =>
    obtain ⟨turns, htakes, heq⟩ := ih (start.add ⟨member, outcome member start.executionKeys⟩)
    rw [PageTally.executionKeys_add] at htakes
    rw [PageTally.turns_add, List.append_assoc] at heq
    exact ⟨_, .cons htakes, heq⟩

def PageTally.Keeps (existing : List ReservationKey) (tally : PageTally) : Prop :=
  tally.executionKeys = existing ++ tally.newItems.map executionItemKey

variable {existing : List ReservationKey}

theorem PageTally.Keeps.add (h : tally.Keeps existing) (turn : MemberTurn) :
    (tally.add turn).Keeps existing := by
  rw [PageTally.Keeps, PageTally.executionKeys_add, PageTally.newItems_add, List.map_append,
    ← List.append_assoc, h]

theorem keeps_tallyPage {start : PageTally}
    (h : start.Keeps existing) (page : List RecoveryQuerySnapshotMember) :
    (tallyPage outcome start page).Keeps existing := by
  induction page generalizing start with
  | nil => exact h
  | cons member page ih => exact ih (h.add _)

theorem PageTally.nodup_add (h : tally.executionKeys.Nodup)
    (hturn : ∀ items, turn.outcome = .ok items →
      OneRoot items ∧ ∀ key ∈ items.map executionItemKey, key ∉ tally.executionKeys) :
    (tally.add turn).executionKeys.Nodup := by
  unfold PageTally.add
  split
  · exact h
  · next built hoc =>
    obtain ⟨hone, hfree⟩ := hturn built hoc
    exact List.nodup_append.mpr ⟨h, hone.keys, fun key hkey _ hbuilt heq =>
      hfree key (heq ▸ hbuilt) hkey⟩

theorem nodup_tallyPage (houtcome : ∀ member keys items, outcome member keys = .ok items →
      OneRoot items ∧ ∀ key ∈ items.map executionItemKey, key ∉ keys)
    {start : PageTally} (h : start.executionKeys.Nodup)
    (page : List RecoveryQuerySnapshotMember) :
    (tallyPage outcome start page).executionKeys.Nodup := by
  induction page generalizing start with
  | nil => exact h
  | cons member page ih => exact ih (PageTally.nodup_add h (houtcome member start.executionKeys))

def TranscodesOf (files : List (Option Uuid)) (keys : List ReservationKey) : Prop :=
  ∀ memeFileId, .stage memeFileId .transcode ∈ keys → some memeFileId ∈ files

def MemberTurn.AddsTranscode (turn : MemberTurn) : Prop :=
  ∀ items, turn.outcome = .ok items → ∃ memeFileId, turn.member.memeFileId = some memeFileId ∧
    items.map executionItemKey = [.stage memeFileId .transcode]

variable {files : List (Option Uuid)}

theorem TranscodesOf.add (h : TranscodesOf files tally.executionKeys) (hturn : turn.AddsTranscode) :
    TranscodesOf (files ++ [turn.member.memeFileId]) (tally.add turn).executionKeys := by
  intro other hother
  unfold PageTally.add at hother
  split at hother
  · exact List.mem_append_left _ (h other hother)
  · next items hoc =>
    obtain ⟨memeFileId, hfile, hkeys⟩ := hturn items hoc
    rcases List.mem_append.mp hother with hold | hnew
    · exact List.mem_append_left _ (h other hold)
    rw [hkeys, List.mem_singleton, ReservationKey.stage.injEq] at hnew
    rw [hnew.1, ← hfile]
    exact List.mem_append_right _ (List.mem_singleton.mpr rfl)

/-- Keys stay distinct where each member adds the transcode of its file, and no two members have
one file. -/
theorem nodup_tallyPage_of_files (houtcome : ∀ member keys,
      (∀ items, outcome member keys = .ok items → OneRoot items) ∧
        MemberTurn.AddsTranscode ⟨member, outcome member keys⟩)
    {start : PageTally} {page : List RecoveryQuerySnapshotMember}
    (h : start.executionKeys.Nodup) (hfiles : TranscodesOf files start.executionKeys)
    (hdistinct : (files ++ page.map (·.memeFileId)).Nodup) :
    (tallyPage outcome start page).executionKeys.Nodup ∧
      TranscodesOf (files ++ page.map (·.memeFileId))
        (tallyPage outcome start page).executionKeys := by
  induction page generalizing start files with
  | nil =>
    rw [List.map_nil, List.append_nil]
    exact ⟨h, hfiles⟩
  | cons member page ih =>
    rw [List.map_cons, List.append_cons] at hdistinct ⊢
    obtain ⟨hone, hadds⟩ := houtcome member start.executionKeys
    refine ih (PageTally.nodup_add h ?_) (hfiles.add hadds) hdistinct
    intro items hitems
    refine ⟨hone items hitems, ?_⟩
    intro key hkey htaken
    obtain ⟨memeFileId, hmember, hkeys⟩ := hadds items hitems
    rw [hkeys, List.mem_singleton] at hkey
    have hfile : member.memeFileId ∈ files := by
      rw [hmember]
      exact hfiles memeFileId (hkey ▸ htaken)
    exact (List.nodup_append.mp (List.nodup_append.mp hdistinct).1).2.2 _ hfile _
      (List.mem_singleton.mpr rfl) rfl

variable {filters : RecoveryQueryFilters} {start tally : PageTally}
  {page : List RecoveryQuerySnapshotMember}

theorem eq_tallyPage_of_candidates {successfulStage : Option ContentPipelineStage}
    (h : materializeCandidateSnapshotPage digest preview start page observations reads
      successfulStage = .ok tally) :
    tally = tallyPage (fun member =>
      candidateOutcome digest preview observations reads member successfulStage) start page := by
  unfold materializeCandidateSnapshotPage at h
  split at h
  · cases h
  split at h
  · cases h
  · exact (Except.ok.inj h).symm

theorem eq_tallyPage
    (h : materializePage digest preview filters start page observations reads = .ok tally) :
    tally = tallyPage (pageOutcome digest preview filters observations reads) start page ∧
      (filters.outdatedWebVideo = true → ∀ member ∈ page, member.isOutdatedVideo = true) := by
  unfold materializePage at h
  split at h
  · rename_i houtdated
    unfold materializeOutdatedVideoPage at h
    split at h
    · cases h
    split at h
    · cases h
    split at h
    · cases h
    split at h
    · cases h
    rename_i hmembers
    rw [pageOutcome, if_pos houtdated]
    refine ⟨(Except.ok.inj h).symm, fun _ member hmember => ?_⟩
    by_contra hnot
    exact hmembers (List.any_eq_true.mpr ⟨member, hmember, by simpa using hnot⟩)
  · rename_i houtdated
    rw [pageOutcome, if_neg houtdated]
    refine ⟨?_, fun hfalse => absurd hfalse houtdated⟩
    split at h
    · next hsuccessful =>
      unfold materializeSuccessfulStagePage at h
      split at h
      · cases h
      split at h
      · cases h
      next hstage =>
      split at h
      · cases h
      · rw [if_pos hsuccessful, hstage]
        exact eq_tallyPage_of_candidates h
    · next hsuccessful =>
      unfold materializeAttentionPage at h
      split at h
      · cases h
      · rw [if_neg hsuccessful]
        exact eq_tallyPage_of_candidates h

theorem selectsRoot_pageOutcome (member : RecoveryQuerySnapshotMember)
    (keys : List ReservationKey) : MemberTurn.SelectsRoot
      ⟨member, pageOutcome digest preview filters observations reads member keys⟩ := by
  intro items hitems
  dsimp only at hitems
  unfold pageOutcome at hitems
  split at hitems
  · exact ⟨(oneRoot_of_outdatedVideo hitems).1, (oneRoot_of_outdatedVideo hitems).2.1⟩
  · exact ⟨(oneRoot_of_candidate hitems).1, (oneRoot_of_candidate hitems).2.1⟩

theorem records_materializePage {existing : List RecoveryJobItem}
    (hstart : start.Records existing roots)
    (h : materializePage digest preview filters start page observations reads = .ok tally) :
    tally.Records existing roots := by
  rw [(eq_tallyPage h).1]
  exact records_tallyPage selectsRoot_pageOutcome hstart page

theorem takesTurns_materializePage
    (h : materializePage digest preview filters start page observations reads = .ok tally) :
    ∃ turns, TakesTurns (pageOutcome digest preview filters observations reads) start.executionKeys
      page turns ∧ tally.turns = start.turns ++ turns := by
  rw [(eq_tallyPage h).1]
  exact takesTurns_tallyPage start page

variable {existing : List ReservationKey}

theorem keeps_materializePage (hstart : start.Keeps existing)
    (h : materializePage digest preview filters start page observations reads = .ok tally) :
    tally.Keeps existing := by
  rw [(eq_tallyPage h).1]
  exact keeps_tallyPage hstart page

variable {files : List (Option Uuid)}

/-- The keys stay distinct. Candidates avoid the keys that are taken; outdated videos do not look
at them, and are distinct because their files are. -/
theorem nodup_materializePage (hstart : start.executionKeys.Nodup)
    (hfiles : filters.outdatedWebVideo = true → TranscodesOf files start.executionKeys)
    (hdistinct : (∀ member ∈ page, member.isOutdatedVideo = true) →
      filters.outdatedWebVideo = true → (files ++ page.map (·.memeFileId)).Nodup)
    (h : materializePage digest preview filters start page observations reads = .ok tally) :
    tally.executionKeys.Nodup ∧ (filters.outdatedWebVideo = true →
      (∀ member ∈ page, member.isOutdatedVideo = true) ∧
        TranscodesOf (files ++ page.map (·.memeFileId)) tally.executionKeys) := by
  obtain ⟨rfl, hmembers⟩ := eq_tallyPage h
  unfold pageOutcome
  split
  · rename_i houtdated
    obtain ⟨hnodup, htranscodes⟩ := nodup_tallyPage_of_files
      (fun _ _ => ⟨fun _ hitems => (oneRoot_of_outdatedVideo hitems).1,
        fun _ hitems => (oneRoot_of_outdatedVideo hitems).2.2⟩)
      hstart (hfiles houtdated) (hdistinct (hmembers houtdated) houtdated)
    exact ⟨hnodup, fun _ => ⟨hmembers houtdated, htranscodes⟩⟩
  · rename_i houtdated
    exact ⟨nodup_tallyPage (fun _ _ _ hitems => ⟨(oneRoot_of_candidate hitems).1,
      (oneRoot_of_candidate hitems).2.2⟩) hstart page, fun hfalse => absurd hfalse houtdated⟩

end Turns

end MemeExpert.Services
