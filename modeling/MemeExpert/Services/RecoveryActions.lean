import MemeExpert.Services.RecoveryLifeCycle
import MemeExpert.Services.RecoveryWork

/-! Three places judge one action on one piece of work: the candidate endpoint, scheduling, and
the runtime when it claims an item. -/

namespace MemeExpert.Services

open Pipeline Tables

def probeSourceObject (s : CanonicalState) (key : Option String) : StorageObjectPresence :=
  let normalizedKey := strip (key.getD "")
  if normalizedKey = "" then .missing else s.presence normalizedKey

def assertSourceObjectUsable : StorageObjectPresence → Except RecoveryError Unit
  | .present => .ok ()
  | .missing => .error .originalMissing
  | .unavailable => .error .storageUnavailable

/-- `none` where the work reads no source object. -/
def workSourceObservation (s : CanonicalState) (work : RecoveryWorkRead) :
    Option StorageObjectPresence :=
  if work.stage.isSome then
    some (probeSourceObject s ((work.memeFileId.bind s.files.get).map (·.s3OriginalKey)))
  else if work.kind = .ingestRequest then
    some (probeSourceObject s ((s.ingestRequests.get work.id).bind (·.tempOriginalObjectKey)))
  else none

def sourceObjectBlockers : Option StorageObjectPresence → List String
  | none | some .present => []
  | some .missing => ["The durable original is missing from storage."]
  | some .unavailable =>
    ["Original storage is temporarily unavailable; retry after storage recovers."]

def itemCovers (item : RecoveryJobItem) (work : RecoveryWorkRead) : Bool :=
  (item.workKind = work.kind ∧ item.workId = .row work.id) ∨
    (work.memeFileId.isSome ∧ work.stage.isSome ∧ item.memeFileId = work.memeFileId ∧
      item.stage = work.stage)

def ownsStage (store : RecoveryStore) (item : RecoveryJobItem) : Bool :=
  item.status ∈ activeItemStatuses ∧
    (store.jobs item.recoveryJobId).any fun job => job.status ∈ liveJobStatuses

/-- `_load_active_job`, of which only the presence is used. -/
def loadActiveJob (store : RecoveryStore) (work : RecoveryWorkRead) (ignoredItem : Option Uuid) :
    Bool :=
  store.items.any fun item =>
    itemCovers item work && ownsStage store item && decide (some item.id ≠ ignoredItem)

def downstreamStages : ContentPipelineStage → List ContentPipelineStage
  | .ingest => []
  | .transcode => [.ocr, .embed, .classify, .syncQdrant, .syncMeili]
  | .ocr => [.embed, .classify, .syncQdrant, .syncMeili]
  | .embed => [.classify, .syncQdrant, .syncMeili]
  | .classify => [.syncQdrant, .syncMeili]
  | .syncQdrant | .syncMeili => []

def prerequisiteByStage : ContentPipelineStage → Option ContentPipelineStage
  | .ocr => some .transcode
  | .embed => some .ocr
  | .classify => some .embed
  | .syncQdrant | .syncMeili => some .classify
  | .ingest | .transcode => none

def stagePrerequisiteBlocks (s : CanonicalState) (work : RecoveryWorkRead) : List String :=
  match work.memeFileId, work.stage with
  | some memeFileId, some stage =>
    match prerequisiteByStage stage with
    | none => []
    | some prerequisite =>
      if (s.stageRow memeFileId prerequisite).any fun entry => entry.row.status = .succeeded then []
      else [s!"{stage.value} requires a successful {prerequisite.value} prerequisite."]
  | _, _ => []

def isTerminalFailure (entry : PipelineStageJournal) : Bool :=
  entry.status = .failed ∧ entry.isRetryable = false

def terminalDescendantStages (s : CanonicalState) (work : RecoveryWorkRead) :
    List ContentPipelineStage :=
  match work.memeFileId, work.stage with
  | some memeFileId, some stage =>
    (downstreamStages stage).filter fun downstream =>
      (s.stageRow memeFileId downstream).any fun entry => isTerminalFailure entry.row
  | _, _ => []

structure RecoveryActionRead where
  capability : RecoveryCapability
  available : Bool
  scopes : List RecoveryReplayScope := [.stageOnly]
  requiredAcknowledgements : List RecoveryAcknowledgement := []
  scopeRequirements : RecoveryReplayScope → List RecoveryAcknowledgement := fun _ => []
  blockedPrerequisites : List String

def capabilityByKind : RecoveryWorkKind → Option RecoveryCapability
  | .backfill => some .resumeBackfill
  | .sourcePost => some .replaySourcePost
  | .ingestRequest => some .reinspectIngest
  | .outbox => some .rebuildOutbox
  | .deadLetter => some .archiveDeadLetter
  | .pipelineStage | .syncTarget => none

/-- One action of the branch of `_candidate_actions` for work without a stage. -/
def nonStageAction (work : RecoveryWorkRead) (activeJob : Bool) (sourceBlockers : List String)
    (capability : RecoveryCapability) : RecoveryActionRead where
  capability := capability
  available := capability ∈ work.capabilities ∧ activeJob = false ∧ sourceBlockers = []
  blockedPrerequisites :=
    if activeJob then ["Another Replay & Repair job owns this work."]
    else if sourceBlockers ≠ [] then sourceBlockers
    else if capability ∉ work.capabilities then (work.blockedReason.filter (· ≠ "")).toList
    else []

def nonStageActions (work : RecoveryWorkRead) (activeJob : Bool)
    (observation : Option StorageObjectPresence) : List RecoveryActionRead :=
  (work.capabilities ++ (capabilityByKind work.kind).toList).eraseDups.map
    (nonStageAction work activeJob
      (if work.kind = .ingestRequest then sourceObjectBlockers observation else []))

def commonBlocked (work : RecoveryWorkRead) (stage : ContentPipelineStage)
    (file : Option MediaFileFence) (activeJob : Bool) (prerequisiteBlocks : List String)
    (observation : Option StorageObjectPresence) : List String :=
  prerequisiteBlocks ++
    (if stage = .ingest ∨ work.status = .pipelineStage .duplicate then
      ["Ingest and duplicate rows cannot be replayed."] else []) ++
    (if work.status.isActive then
      ["Pending or processing work must finish or be reclaimed first."] else []) ++
    sourceObjectBlockers observation ++
    (if observation = none ∧ file.all (fun fence => fence.s3OriginalKey = "") then
      ["The durable original is missing from storage."] else []) ++
    (if activeJob then ["Another Replay & Repair job owns this stage."] else [])

def isTerminalWork (work : RecoveryWorkRead) : Bool := work.status.isFailed && !work.isRetryable

def rootAcknowledgements (work : RecoveryWorkRead) : List RecoveryAcknowledgement :=
  if isTerminalWork work then [.terminalOverride] else []

def retryCapability (work : RecoveryWorkRead) : RecoveryCapability :=
  if work.kind = .syncTarget then .resyncTarget else .retryStage

def retryAction (work : RecoveryWorkRead) (blocked : List String) : RecoveryActionRead where
  capability := retryCapability work
  available := work.isRetryable ∧ work.status.isFailed ∧ blocked = []
  blockedPrerequisites :=
    if blocked ≠ [] then blocked
    else if work.isRetryable ∧ work.status.isFailed then []
    else ["This compatibility retry is available only for retryable failures."]

def replayAction (work : RecoveryWorkRead) (blocked : List String)
    (terminalDescendants : List ContentPipelineStage) : RecoveryActionRead where
  capability := .replayStage
  available := blocked = [] ∧ (work.status.isFailed ∨ work.status.isSuccessful)
  scopes := [.stageOnly, .stageAndDependents]
  requiredAcknowledgements := rootAcknowledgements work
  scopeRequirements := fun scope =>
    match scope with
    | .stageOnly => rootAcknowledgements work
    | .stageAndDependents =>
      if isTerminalWork work ∨ terminalDescendants ≠ [] then [.terminalOverride] else []
  blockedPrerequisites := blocked

def regenerateAction (work : RecoveryWorkRead) (file : Option MediaFileFence)
    (blocked : List String) : RecoveryActionRead :=
  let mediaBlocked :=
    blocked ++ (if isMovingMedia file then []
      else ["Derivative regeneration applies only to moving media."])
  { capability := .regenerateDerivatives
    available := mediaBlocked = []
    requiredAcknowledgements := rootAcknowledgements work
    scopeRequirements := fun _ => rootAcknowledgements work
    blockedPrerequisites := mediaBlocked }

def capabilityAction (work : RecoveryWorkRead) (blocked : List String)
    (capability : RecoveryCapability) : RecoveryActionRead :=
  let acknowledgements := if capability = .recoverDeadLetter then rootAcknowledgements work else []
  { capability := capability
    available := blocked = []
    requiredAcknowledgements := acknowledgements
    scopeRequirements := fun _ => acknowledgements
    blockedPrerequisites := blocked }

/-- The actions `_candidate_actions` declares for stage work, then the other capabilities. -/
def stageActions (work : RecoveryWorkRead) (stage : ContentPipelineStage)
    (file : Option MediaFileFence) (blocked : List String)
    (terminalDescendants : List ContentPipelineStage) : List RecoveryActionRead :=
  let declared := [retryAction work blocked, replayAction work blocked terminalDescendants] ++
    if stage = .transcode then [regenerateAction work file blocked] else []
  declared ++ (work.capabilities.filter fun capability =>
    capability ∉ declared.map (·.capability)).map (capabilityAction work blocked)

def candidateActions (work : RecoveryWorkRead) (file : Option MediaFileFence) (activeJob : Bool)
    (prerequisiteBlocks : List String) (terminalDescendants : List ContentPipelineStage)
    (observation : Option StorageObjectPresence) : List RecoveryActionRead :=
  match work.stage with
  | none => nonStageActions work activeJob observation
  | some stage =>
    stageActions work stage file
      (commonBlocked work stage file activeJob prerequisiteBlocks observation) terminalDescendants

structure RecoveryCandidateRead where
  work : RecoveryWorkRead
  actions : List RecoveryActionRead

def RecoveryCandidateRead.action (candidate : RecoveryCandidateRead)
    (capability : RecoveryCapability) : Option RecoveryActionRead :=
  candidate.actions.find? fun entry => entry.capability = capability

def getCandidate (s : CanonicalState) (store : RecoveryStore) (key : WorkKey)
    (ignoredItem : Option Uuid) (verifySourceObject : Bool) :
    Except RecoveryError RecoveryCandidateRead := do
  let (work, file) ← loadCandidateWork s key
  return {
    work := work
    actions := candidateActions work file (loadActiveJob store work ignoredItem)
      (stagePrerequisiteBlocks s work) (terminalDescendantStages s work)
      (if verifySourceObject then workSourceObservation s work else none) }

structure RecoveryActionRequest where
  version : RecoveryVersion
  action : RecoveryCapability
  scope : RecoveryReplayScope := .stageOnly
  retryLimit : RetryLimit := .three
  acknowledgements : List RecoveryAcknowledgement := []

def dependentConflict (s : CanonicalState) (store : RecoveryStore) (memeFileId : Uuid)
    (terminalOverrideAcknowledged : Bool) (stage : ContentPipelineStage) : Option String :=
  let reserved := store.items.any fun item =>
    decide (item.memeFileId = some memeFileId ∧ item.stage = some stage) && ownsStage store item
  if reserved then
    some s!"Dependent stage {stage.value} is already owned by another Replay & Repair job."
  else
    match s.stageRow memeFileId stage with
    | none => none
    | some entry =>
      if entry.row.status = .pending ∨ entry.row.status = .processing then
        let status := entry.row.status.value
        some s!"Dependent stage {stage.value} is {status} and must finish or be reclaimed first."
      else if entry.row.status = .duplicate then
        some s!"Dependent stage {stage.value} is a duplicate row and cannot be replayed."
      else if isTerminalFailure entry.row ∧ terminalOverrideAcknowledged = false then
        some s!"Terminal dependent stage {stage.value} requires terminal_override acknowledgement."
      else none

def withParents (ids : ContentPipelineStage → Uuid) (classifies : Bool) :
    Option Uuid → List ContentPipelineStage → List (ContentPipelineStage × Option Uuid)
  | _, [] => []
  | previous, stage :: rest =>
    (stage, if stage ∈ syncStages ∧ classifies then some (ids .classify) else previous) ::
      withParents ids classifies (if stage ∈ syncStages then previous else some (ids stage)) rest

theorem map_fst_withParents {ids : ContentPipelineStage → Uuid} (classifies : Bool)
    (previous : Option Uuid) (stages : List ContentPipelineStage) :
    (withParents ids classifies previous stages).map Prod.fst = stages := by
  induction stages generalizing previous with
  | nil => rfl
  | cons stage rest ih => rw [withParents, List.map_cons, ih]

def rootAction (action : RecoveryCapability) (stage : ContentPipelineStage)
    (file : MediaFileFence) : RecoveryCapability :=
  if action ∈ [.retryStage, .replayStage] ∧ stage = .transcode ∧ isMovingMedia (some file) then
    .regenerateDerivatives
  else
    action

section Build

variable (s : CanonicalState) (jobId : Uuid) (ids : ContentPipelineStage → Uuid)
  (work : RecoveryWorkRead) (file : MediaFileFence) (request : RecoveryActionRequest)
  (reserve : Bool)

def stageItem (stage : ContentPipelineStage) (parent : Option Uuid) (isRoot : Bool)
    (kind : RecoveryWorkKind) (workId : RecoveryWorkId) (version : RecoveryVersion)
    (action : RecoveryCapability) : RecoveryJobItem where
  id := ids stage
  recoveryJobId := jobId
  parentItemId := parent
  memeFileId := some file.id
  stage := some stage
  isRoot := isRoot
  workKind := kind
  workId := workId
  action := action
  expectedVersion := version
  retryLimit := request.retryLimit
  preserveReady := file.status = .ready
  suppressFanout := true
  terminalOverrideAcknowledged := .terminalOverride ∈ request.acknowledgements
  reservationActive := reserve
  status := if isRoot then .queued else .waitingDependency

def rootItem (stage : ContentPipelineStage) : RecoveryJobItem :=
  stageItem jobId ids file request reserve stage none true work.kind (.row work.id) work.version
    (rootAction request.action stage file)

def dependentItem (stage : ContentPipelineStage) (parent : Option Uuid) : RecoveryJobItem :=
  match s.stageRow file.id stage with
  | some entry =>
    stageItem jobId ids file request reserve stage parent false .pipelineStage (.row entry.row.id)
      (.row entry.updatedAt entry.row.lastEventId) .replayStage
  | none =>
    stageItem jobId ids file request reserve stage parent false .pipelineStage
      (.planned file.id stage) (.missing file.id stage) .replayStage

def workItem (itemId : Uuid) : RecoveryJobItem where
  id := itemId
  recoveryJobId := jobId
  workKind := work.kind
  workId := .row work.id
  action := request.action
  expectedVersion := work.version
  retryLimit := request.retryLimit
  terminalOverrideAcknowledged := .terminalOverride ∈ request.acknowledgements
  reservationActive := reserve

end Build

/-- `itemId` is the new id of a single item, `ids` the new ids of a cascade. -/
def buildExecutionItems (s : CanonicalState) (store : RecoveryStore) (jobId itemId : Uuid)
    (ids : ContentPipelineStage → Uuid) (work : RecoveryWorkRead)
    (request : RecoveryActionRequest) (reserve : Bool) :
    Except RecoveryError (List RecoveryJobItem) :=
  match work.stage, work.memeFileId with
  | some root, some memeFileId =>
    match s.files.get memeFileId with
    | none => .error (.fileNotFound memeFileId)
    | some file =>
      let dependents := if request.scope = .stageAndDependents then downstreamStages root else []
      let acknowledged : Bool := .terminalOverride ∈ request.acknowledgements
      match dependents.findSome? (dependentConflict s store memeFileId acknowledged) with
      | some message => .error (.conflict message)
      | none =>
        .ok (rootItem jobId ids work file request reserve root ::
          ((withParents ids (.classify ∈ root :: dependents) none (root :: dependents)).tail.map
            fun (stage, parent) => dependentItem s jobId ids file request reserve stage parent))
  | _, _ => .ok [workItem jobId work request reserve itemId]

def verifyCandidateSourceObject (s : CanonicalState) (work : RecoveryWorkRead)
    (action : RecoveryCapability) : Except RecoveryError Unit :=
  if work.stage.isNone ∧ ¬ (work.kind = .ingestRequest ∧ action = .reinspectIngest) then .ok ()
  else assertSourceObjectUsable ((workSourceObservation s work).getD .missing)

/-- The checks of `perform_action` on the candidate, in its order. -/
def checkRequest (s : CanonicalState) (candidate : RecoveryCandidateRead)
    (request : RecoveryActionRequest) : Except RecoveryError Unit :=
  if candidate.work.version ≠ request.version then
    .error (.conflict "Recovery work changed; reload it before replaying.")
  else
    match candidate.action request.action with
    | none => .error (.conflict s!"{request.action.value} is not defined for this work.")
    | some action =>
      if action.available = false then
        .error (.conflict (if action.blockedPrerequisites = [] then
          s!"{request.action.value} is not currently available."
          else "; ".intercalate action.blockedPrerequisites))
      else if request.scope ∉ action.scopes then
        .error (.conflict
          s!"{request.scope.value} is not available for {request.action.value}.")
      else
        match (action.scopeRequirements request.scope).filter (· ∉ request.acknowledgements) with
        | [] => verifyCandidateSourceObject s candidate.work request.action
        | missing =>
          let names := ", ".intercalate (missing.map RecoveryAcknowledgement.value)
          .error (.conflict s!"Required acknowledgement is missing: {names}.")

def scheduledJob (s : CanonicalState) (jobId : Uuid) (items : List RecoveryJobItem) : RecoveryJob where
  id := jobId
  status := .queued
  scheduledAt := some s.clock
  counts := jobCounts (items.map (·.status))

/-- `perform_action` on a request that no job answers yet: the items of the new job and the
committed tables. -/
def performAction (s : CanonicalState) (store : RecoveryStore) (jobId itemId : Uuid)
    (ids : ContentPipelineStage → Uuid) (key : WorkKey) (request : RecoveryActionRequest) :
    Except RecoveryError (List RecoveryJobItem × RecoveryStore) := do
  let candidate ← getCandidate s store key none true
  checkRequest s candidate request
  let items ← buildExecutionItems s store jobId itemId ids candidate.work request true
  match ((store.addItems items).saveJob jobId (scheduledJob s jobId items)).commit with
  | some committed => return (items, committed)
  | none => throw (.conflict "This recovery work already has an active Replay & Repair job.")

def CanonicalState.NewRowId (s : CanonicalState) := {id : Uuid // s.stages.get id = none}

/-- The row `_ensure_planned_stage_row` inserts where the stage has none. -/
def plannedRow (memeFileId : Uuid) (stage : ContentPipelineStage) (id : Uuid) :
    PipelineStageJournal where
  id := id
  memeFileId := memeFileId
  stage := stage
  status := .failed
  attemptCount := 0
  normalizedReason := some "orchestrated_stage_not_materialized"
  isRetryable := true

def CanonicalState.insertPlannedRow (s : CanonicalState) (memeFileId : Uuid)
    (stage : ContentPipelineStage) (hfree : s.stageRow memeFileId stage = none)
    (rowId : s.NewRowId) : CanonicalState :=
  { s with
    stages := s.stages.insert ⟨plannedRow memeFileId stage rowId.val, s.clock⟩ rowId.property
    stageSlots := nodup_append_singleton s.stageSlots (find_eq_none_iff.mp hfree)
    stageStamps := by
      intro entry hentry
      rcases List.mem_append.mp hentry with hentry | hentry
      · exact s.stageStamps entry hentry
      · rw [List.mem_singleton.mp hentry] }

/-- What a claim goes on with: the tables, the item, and whether it created its row. -/
structure Materialized where
  state : CanonicalState
  item : RecoveryJobItem
  created : Bool

def ensurePlannedStageRow (s : CanonicalState) (item : RecoveryJobItem) (rowId : s.NewRowId) :
    Except RecoveryError Materialized :=
  match item.memeFileId, item.stage with
  | some memeFileId, some stage =>
    match item.workId with
    | .row _ => .ok ⟨s, item, false⟩
    | .planned .. =>
      match hrow : s.stageRow memeFileId stage with
      | some entry => .ok ⟨s, nameStageRow item entry.row.id, false⟩
      | none =>
        .ok ⟨s.insertPlannedRow memeFileId stage hrow rowId, nameStageRow item rowId.val, true⟩
  | _, _ => .error (.conflict "Replay stage metadata is incomplete.")

def sourceFreeActions : List RecoveryCapability :=
  [.archiveDeadLetter, .rebuildOutbox, .resumeBackfill, .replaySourcePost]

def verifyRecoveryItemSourceObject (s : CanonicalState) (item : RecoveryJobItem) :
    Except RecoveryError Unit :=
  if item.action ∈ sourceFreeActions then .ok ()
  else
    match item.memeFileId with
    | some memeFileId =>
      assertSourceObjectUsable
        (probeSourceObject s ((s.files.get memeFileId).map (·.s3OriginalKey)))
    | none =>
      if item.workKind = .ingestRequest then
        assertSourceObjectUsable (probeSourceObject s
          (match item.workId with
           | .row id => (s.ingestRequests.get id).bind (·.tempOriginalObjectKey)
           | .planned .. => none))
      else .ok ()

def replayActions : List RecoveryCapability := [.replayStage, .regenerateDerivatives]

def hasRow (s : CanonicalState) : WorkKey → Bool
  | (_, .planned ..) => false
  | (.pipelineStage, .row id) => (s.stages.get id).isSome
  | (.syncTarget, .row id) => (s.syncTargets.get id).isSome
  | (.ingestRequest, .row id) => (s.ingestRequests.get id).isSome
  | (.outbox, .row id) => (s.outbox.get id).isSome
  | (.backfill, .row id) => (s.backfills.get id).isSome
  | (.sourcePost, .row id) => (s.sourcePosts.get id).isSome
  | (.deadLetter, .row id) => (s.deadLetters.get id).isSome

def lockCanonicalWork (s : CanonicalState) (item : RecoveryJobItem) : Except RecoveryError Unit :=
  if item.action ∈ replayActions then
    match item.memeFileId with
    | none => .error (.conflict "Replay stage is missing its canonical file id.")
    | some memeFileId =>
      match s.files.get memeFileId, item.workId with
      | none, _ => .error (.fileNotFound memeFileId)
      | some _, .planned .. => .ok ()
      | some _, .row id =>
        let kind : RecoveryWorkKind :=
          if item.workKind = .syncTarget then .syncTarget else .pipelineStage
        if hasRow s (kind, .row id) then .ok ()
        else .error (.workNotFound (item.workKind, item.workId))
  else if hasRow s (item.workKind, item.workId) then .ok ()
  else .error (.workNotFound (item.workKind, item.workId))

def lockRecoveryDeadLetter (s : CanonicalState) (item : RecoveryJobItem)
    (work : RecoveryWorkRead) : Except RecoveryError Unit :=
  let named : Option Uuid := work.deadLetterId <|>
    match item.workKind, item.workId with
    | .deadLetter, .row id => some id
    | _, _ => none
  match named with
  | none => .error (.conflict "The linked dead letter is no longer recoverable.")
  | some id =>
    match s.deadLetters.get id with
    | none => .error (.deadLetterNotFound id)
    | some row =>
      if row.status = .unresolved then .ok ()
      else if row.status = .recoveryQueued ∧ row.recoveryItemId = some item.id then .ok ()
      else .error (.conflict "The linked dead letter is no longer recoverable by this job.")

def checkClaimedAction (candidate : RecoveryCandidateRead) (item : RecoveryJobItem) :
    Except RecoveryError RecoveryWorkRead :=
  match candidate.action item.action with
  | none => .error (.conflict "The scheduled Replay & Repair action is no longer valid.")
  | some action =>
    if action.available = false then
      .error (.conflict (if action.blockedPrerequisites = [] then
        "The scheduled Replay & Repair action is no longer valid."
        else "; ".intercalate action.blockedPrerequisites))
    else if .terminalOverride ∈ action.requiredAcknowledgements ∧
        item.terminalOverrideAcknowledged = false then
      .error (.conflict "The scheduled terminal replay is missing its audited acknowledgement.")
    else .ok candidate.work

def RecoveryVersion.isMissing : RecoveryVersion → Bool
  | .missing .. => true
  | _ => false

def acceptClaimedWork (item : RecoveryJobItem) (created : Bool) (work : RecoveryWorkRead) :
    Except RecoveryError RecoveryJobItem :=
  if RecoveryVersion.isMissing item.expectedVersion ∧ created = false then
    .error (.conflict
      "A dependent stage appeared after preview; create a fresh Replay & Repair job.")
  else if work.version ≠ item.expectedVersion ∧ created = false then
    .error (.conflict "Recovery target changed after it was scheduled.")
  else if item.action ∉ replayActions ∧ item.action ∉ work.capabilities then
    .error (.conflict
      (work.blockedReason.getD "The scheduled recovery action is no longer valid."))
  else
    .ok { item with
      expectedVersion := if created then work.version else item.expectedVersion
      canonicalVersion := some work.version }

def candidateJudgedActions : List RecoveryCapability :=
  [.replayStage, .regenerateDerivatives, .recoverDeadLetter]

/-- The work that the claim goes on with: the candidate for the judged actions, the collected
work for the others and, after its dead letter is locked, for a dead letter. -/
def claimedWork (s : CanonicalState) (store : RecoveryStore) (item : RecoveryJobItem) :
    Except RecoveryError RecoveryWorkRead :=
  if item.action ∈ candidateJudgedActions then do
    let candidate ← getCandidate s store (item.workKind, item.workId) (some item.id) false
    let work ← checkClaimedAction candidate item
    if item.action = .recoverDeadLetter then do
      lockRecoveryDeadLetter s item work
      getWork s (item.workKind, item.workId)
    else return work
  else getWork s (item.workKind, item.workId)

def materializeClaimed (s : CanonicalState) (item : RecoveryJobItem) (rowId : s.NewRowId) :
    Except RecoveryError Materialized :=
  if item.action ∈ replayActions then ensurePlannedStageRow s item rowId else .ok ⟨s, item, false⟩

def validateClaimedItem (s : CanonicalState) (store : RecoveryStore) (item : RecoveryJobItem)
    (rowId : s.NewRowId) : Except RecoveryError Materialized := do
  verifyRecoveryItemSourceObject s item
  lockCanonicalWork s item
  let planned ← materializeClaimed s item rowId
  let work ← claimedWork planned.state store planned.item
  let accepted ← acceptClaimedWork planned.item planned.created work
  return { planned with item := accepted }

/-- How the dispatch loop ends an item whose validation failed; `cause` is the sanitized text. -/
def settleInvalid (item : RecoveryJobItem) (error : RecoveryError) (cause : String) (now : Time) :
    RecoveryJobItem :=
  match error with
  | .storageUnavailable => waitForCapacity item "original_storage_unavailable" cause
  | .originalMissing => finishItem item .skippedStale (some "missing_original") (some cause) now
  | _ => finishItem item .skippedStale (some "canonical_state_changed") (some cause) now

end MemeExpert.Services
