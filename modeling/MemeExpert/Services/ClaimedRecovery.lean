import MemeExpert.Services.OfferedRecovery

/-! The items of an available action, when they are claimed: the root first, a dependent after the
earlier items of its cascade. -/

namespace MemeExpert.Services

open Pipeline Tables

def NamesWork (t : CanonicalState) (item : RecoveryJobItem) : Prop :=
  match item.workKind with
  | .pipelineStage => ∀ entry ∈ t.stages.rows, item.workId = .row entry.row.id →
      item.memeFileId = some entry.row.memeFileId ∧ item.stage = some entry.row.stage
  | .syncTarget => ∀ entry ∈ t.syncTargets.rows, item.workId = .row entry.row.id →
      item.memeFileId = some entry.row.memeFileId ∧
        item.stage = some (syncStageByTarget entry.row.syncTarget)
  | _ => item.stage = none

/-- The item is one of the tables that a run of the recovery transactions reached, and holds its
reservation. -/
structure OwnsTarget (t : CanonicalState) (store : RecoveryStore) (item : RecoveryJobItem) :
    Prop where
  life : LifeCycle store
  mem : item ∈ store.items
  holds : HoldsTarget store item
  named : ∀ other ∈ store.items, NamesWork t other

section Ownership

variable {t : CanonicalState} {store : RecoveryStore} {item : RecoveryJobItem}
  {work : RecoveryWorkRead} {file : MediaFileFence} {key : WorkKey}

theorem loadActiveJob_of_owns (h : OwnsTarget t store item)
    (hsome : (reservationKey item).isSome = true)
    (hcovers : ∀ other ∈ store.items, itemCovers other work = true →
      reservationKey other = reservationKey item) :
    loadActiveJob store work (some item.id) = false := by
  by_contra hactive
  rw [Bool.not_eq_false, loadActiveJob, List.any_eq_true] at hactive
  obtain ⟨other, hother, hfound⟩ := hactive
  simp only [Bool.and_eq_true, decide_eq_true_eq, ownsStage] at hfound
  obtain ⟨⟨hcover, hstatus, hjob⟩, hne⟩ := hfound
  obtain ⟨job, hsaved, hlive⟩ := (Option.any_eq_true _ _).mp hjob
  have hholds : HoldsTarget store other :=
    ⟨hstatus, job, hsaved, (h.life.jobs _ _ hsaved).live (of_decide_eq_true hlive)⟩
  have hkey := hcovers other hother hcover
  have hsame : other = item :=
    h.life.reservationsKept.unique other hother item h.mem hholds h.holds (hkey ▸ hsome) hkey
  exact hne (by rw [hsame])

theorem loadActiveJob_of_stage (h : OwnsTarget t store item)
    (hload : loadStageCandidate t key = .ok (work, file)) (hfile : item.memeFileId = some file.id)
    (hstage : item.stage = work.stage) :
    loadActiveJob store (withLinkedDeadLetter t work) (some item.id) = false := by
  have hprojection := stageProjection_of_load hload
  obtain ⟨stage, hsome⟩ := Option.isSome_iff_exists.mp hprojection.stage
  have hkey : reservationKey item = some (.stage file.id stage) := by
    simp [reservationKey, hstage, hsome, hfile]
  have hframe : (withLinkedDeadLetter t work).kind = work.kind ∧
      (withLinkedDeadLetter t work).id = work.id ∧
      (withLinkedDeadLetter t work).memeFileId = work.memeFileId ∧
      (withLinkedDeadLetter t work).stage = work.stage := by
    unfold withLinkedDeadLetter
    split <;> exact ⟨rfl, rfl, rfl, rfl⟩
  obtain ⟨hkind, hid, hmeme, hstageEq⟩ := hframe
  refine loadActiveJob_of_owns h (by rw [hkey]; rfl) ?_
  intro other hother hcover
  rw [hkey]
  simp only [itemCovers, hkind, hid, hmeme, hstageEq, decide_eq_true_eq] at hcover
  rcases hcover with ⟨hotherKind, hotherId⟩ | ⟨-, -, hotherFile, hotherStage⟩
  · have hnamed := h.named other hother
    rcases loadStageCandidate_cases hload with ⟨entry, rfl, hentry, hget, rfl⟩ |
      ⟨entry, rfl, hentry, hget, rfl⟩
    · have hotherKind : other.workKind = .pipelineStage := hotherKind
      simp only [NamesWork, hotherKind] at hnamed
      obtain ⟨hmem, -⟩ := (Table.get_eq_some_iff _).mp hentry
      obtain ⟨hotherFile, hotherStage⟩ := hnamed entry hmem hotherId
      have hfileId : entry.row.memeFileId = file.id := Option.some.inj hprojection.file_eq
      have hstageId : entry.row.stage = stage := Option.some.inj hsome
      simp [reservationKey, hotherFile, hotherStage, hfileId, hstageId]
    have hotherKind : other.workKind = .syncTarget := hotherKind
    simp only [NamesWork, hotherKind] at hnamed
    obtain ⟨hmem, -⟩ := (Table.get_eq_some_iff _).mp hentry
    obtain ⟨hotherFile, hotherStage⟩ := hnamed entry hmem hotherId
    have hfileId : entry.row.memeFileId = file.id := Option.some.inj hprojection.file_eq
    have hstageId : syncStageByTarget entry.row.syncTarget = stage := Option.some.inj hsome
    simp [reservationKey, hotherFile, hotherStage, hfileId, hstageId]
  · rw [hprojection.file_eq] at hotherFile
    rw [hsome] at hotherStage
    simp [reservationKey, hotherFile, hotherStage]

theorem loadActiveJob_of_nonStage (h : OwnsTarget t store item) (hwork : work.stage = none)
    (hkind : work.kind ∉ eventKinds) (hitemStage : item.stage = none)
    (hitemKind : item.workKind = work.kind) (hitemId : item.workId = .row work.id) :
    loadActiveJob store work (some item.id) = false := by
  have hkey : reservationKey item = some (.work work.kind (.row work.id)) := by
    simp [reservationKey, hitemStage, hitemKind, hitemId]
  refine loadActiveJob_of_owns h (by rw [hkey]; rfl) ?_
  intro other hother hcover
  simp only [itemCovers, hwork, decide_eq_true_eq] at hcover
  rcases hcover with ⟨hotherKind, hotherId⟩ | ⟨-, hnone, -⟩
  · have hnamed := h.named other hother
    have hotherStage : other.stage = none := by
      simp only [NamesWork, hotherKind] at hnamed
      cases hsame : work.kind <;> simp_all [eventKinds]
    rw [hkey]
    simp [reservationKey, hotherStage, hotherKind, hotherId]
  · simp at hnone

variable {rowId : t.NewRowId} {error : RecoveryError}

theorem acceptClaimedWork_eq_ok_iff :
    (∃ accepted, acceptClaimedWork item false work = .ok accepted) ↔
      RecoveryVersion.isMissing item.expectedVersion = false ∧
        work.version = item.expectedVersion ∧
        (item.action ∈ replayActions ∨ item.action ∈ work.capabilities) := by
  unfold acceptClaimedWork
  by_cases hmissing : RecoveryVersion.isMissing item.expectedVersion = true
  · simp [hmissing]
  by_cases hversion : work.version = item.expectedVersion
  · by_cases haction : item.action ∉ replayActions ∧ item.action ∉ work.capabilities
    · simp [hmissing, hversion, haction]
    · have hcovered : item.action ∈ replayActions ∨ item.action ∈ work.capabilities := by
        by_contra hneither
        exact haction (not_or.mp hneither)
      simp [hmissing, hversion, hcovered, haction]
  · simp [hmissing, hversion]

theorem validateClaimedItem_of_row {id : Uuid}
    (hsource : verifyRecoveryItemSourceObject t item = .ok ())
    (hlock : lockCanonicalWork t item = .ok ()) (hid : item.workId = .row id)
    (hreplay : item.action ∈ replayActions →
      item.memeFileId.isSome = true ∧ item.stage.isSome = true) :
    (∃ claimed, validateClaimedItem t store item rowId = .ok claimed) ↔
      ∃ work, claimedWork t store item = .ok work ∧
        ∃ accepted, acceptClaimedWork item false work = .ok accepted := by
  have hplanned : materializeClaimed t item rowId = .ok ⟨t, item, false⟩ := by
    unfold materializeClaimed
    split
    · next haction =>
      obtain ⟨hfile, hstage⟩ := hreplay haction
      obtain ⟨memeFileId, hfile⟩ := Option.isSome_iff_exists.mp hfile
      obtain ⟨stage, hstage⟩ := Option.isSome_iff_exists.mp hstage
      simp [ensurePlannedStageRow, hfile, hstage, hid]
    · rfl
  unfold validateClaimedItem
  rw [hsource, hlock, hplanned]
  cases hwork : claimedWork t store item with
  | error error => simp [hwork, bind, Except.bind]
  | ok work =>
    cases haccept : acceptClaimedWork item false work <;>
      simp [hwork, haccept, bind, Except.bind, pure, Except.pure]

end Ownership

def NoDeadLetter (s : CanonicalState) (work : RecoveryWorkRead) : Prop :=
  linkedDeadLetter s work = none ∧ foldedDeadLetters s work = []

def OneDeadLetter (s : CanonicalState) (work : RecoveryWorkRead) : Prop :=
  ∃ row, linkedDeadLetter s work = some row ∧ row.status = .unresolved ∧
    (foldedDeadLetters s work).map (·.updatedAt) = [row.updatedAt]

def IsCollected (work : RecoveryWorkRead) : Prop :=
  work.kind = .pipelineStage → ∀ stage ∈ work.stage, stage ∉ syncStages

def IsMediaTranscode (work : RecoveryWorkRead) (file : MediaFileFence) : Prop :=
  work.stage = some .transcode ∧ isMovingMedia (some file) = true

def RootExecutable (s : CanonicalState) (key : WorkKey) (action : RecoveryCapability) : Prop :=
  match action with
  | .retryStage => ∃ work file, loadStageCandidate s key = .ok (work, file) ∧
      (IsMediaTranscode work file ∨ IsCollected work ∧ NoDeadLetter s work)
  | .resyncTarget => ∃ work file, loadStageCandidate s key = .ok (work, file) ∧ NoDeadLetter s work
  | .recoverDeadLetter =>
    if key.1 ∈ eventKinds then
      ∃ work file, loadStageCandidate s key = .ok (work, file) ∧ work.status.isFailed = true ∧
        IsCollected work ∧ OneDeadLetter s work
    else
      ∃ work row, recoverableRow s key = some work ∧
        (foldedDeadLetters s work).getLast? = some row ∧ row.status = .unresolved
  | _ => True

/-- When a dependent passes: its version is fenced without the dead letter that its candidate
would show. -/
def DependentExecutable (s : CanonicalState) (workId : RecoveryWorkId) : Prop :=
  ∀ work file, loadStageCandidate s (.pipelineStage, workId) = .ok (work, file) →
    linkedDeadLetter s work = none

section Collected

variable {s t : CanonicalState} {key : WorkKey} {work base : RecoveryWorkRead}
  {file : MediaFileFence}

structure SameWork (base work : RecoveryWorkRead) : Prop where
  kind : base.kind = work.kind
  id : base.id = work.id
  eventId : base.eventId = work.eventId
  version : base.version = work.version
  capabilities : base.capabilities = work.capabilities

theorem foldedDeadLetters_of_sameWork (h : SameWork base work) :
    foldedDeadLetters s base = foldedDeadLetters s work := by
  unfold foldedDeadLetters
  rw [h.kind, h.id]
  refine List.filter_congr fun row _ => ?_
  simp [deadLetterMatchesWork, h.kind, h.id, h.eventId]

theorem collected_of_stage (hload : loadStageCandidate s key = .ok (work, file))
    (hidle : work.status.isActive = false) :
    (∃ base, recoverableRow s key = some base ∧ SameWork base work ∧
        work.status.isFailed = true ∧ IsCollected work) ∨
      recoverableRow s key = none ∧ ¬ (work.status.isFailed = true ∧ IsCollected work) := by
  rcases loadStageCandidate_cases hload with ⟨entry, rfl, hentry, hfile, rfl⟩ |
    ⟨entry, rfl, hentry, hfile, rfl⟩
  · obtain ⟨hmem, -⟩ := (Table.get_eq_some_iff _).mp hentry
    have hstamp := s.stageStamps entry hmem
    have hrow : recoverableRow s (.pipelineStage, .row entry.row.id) =
        ((s.stages.get entry.row.id).filter (isRecoverableStage s)).map (stageWork s) := rfl
    rw [hrow, hentry]
    have hidle : entry.row.status ∉ [ContentPipelineStageStatus.pending, .processing] := by
      simpa [stageCandidate, stageRead, RecoveryWorkStatus.isActive] using hidle
    by_cases hrecoverable : entry.row.status = .failed ∧ entry.row.stage ∉ syncStages
    · left
      have hscan : isRecoverableStage s entry = true := by
        simp [isRecoverableStage, hstamp, hrecoverable.1, hrecoverable.2]
      refine ⟨stageWork s entry, by simp [Option.filter, hscan], ⟨rfl, rfl, rfl, ?_, rfl⟩, ?_, ?_⟩
      · simp only [stageWork, stageCandidate, stageRead, hfile]
      · simp [stageCandidate, stageRead, RecoveryWorkStatus.isFailed, hrecoverable.1]
      rintro _ stage hstage
      cases hstage
      exact hrecoverable.2
    · right
      have hscan : isRecoverableStage s entry = false := by
        simp only [isRecoverableStage, decide_eq_false_iff_not]
        rintro ⟨-, hstage, hfailed | ⟨hactive, -⟩⟩
        · exact hrecoverable ⟨hfailed, hstage⟩
        · exact hidle hactive
      refine ⟨by simp [Option.filter, hscan], ?_⟩
      rintro ⟨hfailed, hcollected⟩
      refine hrecoverable ⟨?_, hcollected rfl entry.row.stage rfl⟩
      simpa [stageCandidate, stageRead, RecoveryWorkStatus.isFailed] using hfailed
  · obtain ⟨hmem, -⟩ := (Table.get_eq_some_iff _).mp hentry
    have hstamp := s.syncStamps entry hmem
    have hrow : recoverableRow s (.syncTarget, .row entry.row.id) =
        ((s.syncTargets.get entry.row.id).filter (isRecoverableSync s)).map syncWork := rfl
    rw [hrow, hentry]
    have hidle : entry.row.status ∉ [SyncTargetStatus.pending, .processing] := by
      simpa [syncCandidate, syncRead, RecoveryWorkStatus.isActive] using hidle
    by_cases hfailed : entry.row.status = .failed
    · left
      have hscan : isRecoverableSync s entry = true := by
        simp [isRecoverableSync, hstamp, hfailed]
      refine ⟨syncWork entry, by simp [Option.filter, hscan], ⟨rfl, rfl, rfl, rfl, rfl⟩, ?_, ?_⟩
      · simp [syncCandidate, syncRead, RecoveryWorkStatus.isFailed, hfailed]
      · intro himpossible
        cases himpossible
    right
    have hscan : isRecoverableSync s entry = false := by
      simp only [isRecoverableSync, decide_eq_false_iff_not]
      rintro ⟨-, hnow | ⟨hactive, -⟩⟩
      · exact hfailed hnow
      · exact hidle hactive
    refine ⟨by simp [Option.filter, hscan], ?_⟩
    rintro ⟨hnow, -⟩
    refine hfailed ?_
    simpa [syncCandidate, syncRead, RecoveryWorkStatus.isFailed] using hnow

theorem getWork_of_stage (hload : loadStageCandidate s key = .ok (work, file))
    (hidle : work.status.isActive = false) :
    (∃ collected, getWork s key = .ok collected ∧
        (∃ base, SameWork base work ∧
          collected = (foldedDeadLetters s work).foldl foldDeadLetter base) ∧
        work.status.isFailed = true ∧ IsCollected work) ∨
      (∀ collected, getWork s key ≠ .ok collected) ∧
        ¬ (work.status.isFailed = true ∧ IsCollected work) := by
  have hkind : key.1 ≠ .deadLetter := by
    rcases loadStageCandidate_cases hload with ⟨entry, rfl, -⟩ | ⟨entry, rfl, -⟩ <;> simp
  rcases collected_of_stage hload hidle with ⟨base, hbase, hsame, hfailed, hcollected⟩ |
    ⟨hnone, hnot⟩
  · left
    refine ⟨foldDeadLetters s base, ?_, ⟨base, hsame, ?_⟩, hfailed, hcollected⟩
    · rw [getWork_eq_ok_iff, collectWork_self hkind, hbase]
      rfl
    · rw [foldDeadLetters, foldedDeadLetters_of_sameWork hsame]
  right
  refine ⟨fun collected hget => ?_, hnot⟩
  rw [getWork_eq_ok_iff, collectWork_self hkind, hnone] at hget
  cases hget

/-- The collected work has the version and the capability of a plain retry exactly when no dead
letter bears on it. -/
theorem retry_accepted_iff {capability : RecoveryCapability} (hsame : SameWork base work)
    (hcapability : work.capabilities = [capability]) (hne : capability ≠ .recoverDeadLetter) :
    (((foldedDeadLetters s work).foldl foldDeadLetter base).version =
        (withLinkedDeadLetter s work).version ∧
      capability ∈ ((foldedDeadLetters s work).foldl foldDeadLetter base).capabilities) ↔
      NoDeadLetter s work := by
  constructor
  · rintro ⟨hversion, hmem⟩
    have hnone : foldedDeadLetters s work = [] := by
      by_contra hfolded
      rw [capabilities_foldl_of_ne_nil hfolded, List.mem_singleton] at hmem
      exact hne hmem
    refine ⟨?_, hnone⟩
    rw [hnone, List.foldl_nil, hsame.version] at hversion
    unfold withLinkedDeadLetter at hversion
    cases hlinked : linkedDeadLetter s work with
    | none => rfl
    | some row =>
      rw [hlinked] at hversion
      have hcount := congrArg RecoveryVersion.deadLetterCount hversion
      simp [foldDeadLetter, RecoveryVersion.deadLetterCount] at hcount
  · rintro ⟨hlinked, hnone⟩
    rw [hnone, withLinkedDeadLetter, hlinked, List.foldl_nil]
    exact ⟨hsame.version, by rw [hsame.capabilities, hcapability]; simp⟩

variable {row : PipelineDeadLetter}

theorem recover_accepted_iff (hsame : SameWork base work)
    (hlinked : linkedDeadLetter s work = some row) :
    (((foldedDeadLetters s work).foldl foldDeadLetter base).version =
        (withLinkedDeadLetter s work).version ∧
      RecoveryCapability.recoverDeadLetter ∈
        ((foldedDeadLetters s work).foldl foldDeadLetter base).capabilities) ↔
      (foldedDeadLetters s work).map (·.updatedAt) = [row.updatedAt] := by
  have hexpected : (withLinkedDeadLetter s work).version =
      .deadLetter base.version row.updatedAt := by
    rw [withLinkedDeadLetter, hlinked, hsame.version]
    rfl
  rw [hexpected, version_foldl_eq_deadLetter_iff]
  constructor
  · rintro ⟨hstamps, -⟩
    exact hstamps
  intro hstamps
  refine ⟨hstamps, ?_⟩
  have hfolded : foldedDeadLetters s work ≠ [] := by
    rintro hnone
    simp [hnone] at hstamps
  rw [capabilities_foldl_of_ne_nil hfolded]
  exact List.mem_singleton.mpr rfl

variable {later : RecoveryStore} {stage : ContentPipelineStage} {item : RecoveryJobItem}

theorem commonBlocked_eq_nil_iff {original : Option MediaFileFence} {activeJob : Bool}
    {prerequisiteBlocks : List String} {observation : Option StorageObjectPresence} :
    commonBlocked work stage original activeJob prerequisiteBlocks observation = [] ↔
      prerequisiteBlocks = [] ∧ ¬ (stage = .ingest ∨ work.status = .pipelineStage .duplicate) ∧
        work.status.isActive = false ∧ sourceObjectBlockers observation = [] ∧
        ¬ (observation = none ∧ original.all (fun fence => fence.s3OriginalKey = "") = true) ∧
        activeJob = false := by
  simp only [commonBlocked, List.append_eq_nil_iff, ite_eq_right_iff, List.cons_ne_nil, imp_false,
    Bool.not_eq_true, and_assoc]

theorem originalKey_of_present {original : String}
    (h : probeSourceObject s (some original) = .present) : original ≠ "" := by
  rintro rfl
  have hmissing : probeSourceObject s (some "") = .missing := by
    unfold probeSourceObject
    exact if_pos (by decide)
  rw [hmissing] at h
  cases h

theorem present_of_sourceObjectBlockers {presence : StorageObjectPresence}
    (h : sourceObjectBlockers (some presence) = []) : presence = .present := by
  cases presence with
  | present => rfl
  | missing => cases h
  | unavailable => cases h

theorem withLinkedDeadLetter_frame (s : CanonicalState) (work : RecoveryWorkRead) :
    (withLinkedDeadLetter s work).kind = work.kind ∧ (withLinkedDeadLetter s work).id = work.id ∧
      (withLinkedDeadLetter s work).memeFileId = work.memeFileId ∧
      (withLinkedDeadLetter s work).stage = work.stage ∧
      (withLinkedDeadLetter s work).status = work.status ∧
      (withLinkedDeadLetter s work).isRetryable = work.isRetryable := by
  unfold withLinkedDeadLetter
  split <;> exact ⟨rfl, rfl, rfl, rfl, rfl, rfl⟩

theorem withLinkedDeadLetter_capabilities (s : CanonicalState) (work : RecoveryWorkRead) :
    linkedDeadLetter s work = none ∧ (withLinkedDeadLetter s work).capabilities = work.capabilities ∨
      ∃ row, linkedDeadLetter s work = some row ∧
        (withLinkedDeadLetter s work).capabilities = [.recoverDeadLetter] ∧
        (withLinkedDeadLetter s work).deadLetterId = some row.id := by
  unfold withLinkedDeadLetter
  cases linkedDeadLetter s work with
  | none => exact .inl ⟨rfl, rfl⟩
  | some row => exact .inr ⟨row, rfl, rfl, rfl⟩

theorem withLinkedDeadLetter_version (s : CanonicalState) (work : RecoveryWorkRead)
    (h : RecoveryVersion.isMissing work.version = false) :
    RecoveryVersion.isMissing (withLinkedDeadLetter s work).version = false := by
  unfold withLinkedDeadLetter
  split
  · rfl
  · exact h

theorem verifySource_of_present {original : MediaFileFence} (hfile : item.memeFileId = some original.id)
    (hget : t.files.get original.id = some original)
    (hpresent : probeSourceObject t (some original.s3OriginalKey) = .present) :
    verifyRecoveryItemSourceObject t item = .ok () := by
  unfold verifyRecoveryItemSourceObject
  split
  · rfl
  · simp [hfile, hget, hpresent, assertSourceObjectUsable]

theorem lockCanonicalWork_of_stage (h : StageProjection t key work file)
    (hfile : item.memeFileId = some file.id) (hkind : item.workKind = work.kind)
    (hid : item.workId = .row work.id) : lockCanonicalWork t item = .ok () := by
  have hhas : hasRow t (work.kind, .row work.id) = true := h.key_eq ▸ h.hasRow
  have hkinds : (if work.kind = .syncTarget then RecoveryWorkKind.syncTarget
      else .pipelineStage) = work.kind := by
    have hmem : work.kind ∈ eventKinds := by
      have hmem := h.kind
      rw [h.key_eq] at hmem
      exact hmem
    rcases List.mem_cons.mp hmem with heq | hrest
    · rw [heq]
      rfl
    · rw [List.mem_singleton.mp hrest]
      rfl
  unfold lockCanonicalWork
  rw [hfile, hkind, hid]
  by_cases haction : item.action ∈ replayActions
  · simp only [if_pos haction, h.file_get, hkinds]
    exact if_pos hhas
  · rw [if_neg haction]
    exact if_pos hhas

theorem getCandidate_of_stage (hload : loadStageCandidate t key = .ok (work, file))
    (hstage : work.stage = some stage) {ignored : Option Uuid}
    (hactive : loadActiveJob later (withLinkedDeadLetter t work) ignored = false)
    (hblocked : commonBlocked (withLinkedDeadLetter t work) stage (some file) false
      (stagePrerequisiteBlocks t (withLinkedDeadLetter t work)) none = []) :
    getCandidate t later key ignored false = .ok ⟨withLinkedDeadLetter t work,
      stageActions (withLinkedDeadLetter t work) stage (some file) []
        (terminalDescendantStages t (withLinkedDeadLetter t work))⟩ := by
  have hkind := (stageProjection_of_load hload).kind
  have hstageEq : (withLinkedDeadLetter t work).stage = some stage :=
    (withLinkedDeadLetter_frame t work).2.2.2.1.trans hstage
  unfold getCandidate loadCandidateWork
  rw [if_pos hkind, hload]
  simp only [bind, Except.bind, pure, Except.pure, candidateActions, hstageEq, hactive]
  rw [if_neg (by decide), hblocked]

variable {jobId : Uuid} {ids : ContentPipelineStage → Uuid} {request : RecoveryActionRequest}
  {rowId : t.NewRowId}

structure RootClaim (t : CanonicalState) (later : RecoveryStore) (key : WorkKey)
    (work : RecoveryWorkRead) (file : MediaFileFence) (stage : ContentPipelineStage)
    (request : RecoveryActionRequest) (item : RecoveryJobItem) : Prop where
  load : loadStageCandidate t key = .ok (work, file)
  stage_eq : work.stage = some stage
  idle : work.status.isActive = false
  unblocked : commonBlocked (withLinkedDeadLetter t work) stage (some file) false
    (stagePrerequisiteBlocks t (withLinkedDeadLetter t work)) none = []
  present : probeSourceObject t (some file.s3OriginalKey) = .present
  offer : StageOffer (withLinkedDeadLetter t work) stage (some file) request.action
  terminal : isTerminalWork (withLinkedDeadLetter t work) = true →
    .terminalOverride ∈ request.acknowledgements
  owns : OwnsTarget t later item
  fresh : ∀ row ∈ t.deadLetters.rows, row.recoveryItemId ≠ some item.id

theorem rootAction_of_plain {action : RecoveryCapability}
    (h : ¬ (action ∈ [RecoveryCapability.retryStage, .replayStage] ∧ stage = .transcode ∧
      isMovingMedia (some file) = true)) : rootAction action stage file = action :=
  if_neg h

variable {row : PipelineDeadLetter}

theorem mem_deadLetters_of_linked
    (hlinked : linkedDeadLetter t work = some row) : row ∈ t.deadLetters.rows := by
  obtain ⟨hfirst, -⟩ := Option.filter_eq_some_iff.mp hlinked
  exact (List.mem_filter.mp (Queries.mem_of_firstBy hfirst)).1

theorem lockRecoveryDeadLetter_eq_ok_iff
    (hid : work.deadLetterId = some row.id) (hmem : row ∈ t.deadLetters.rows)
    (hfresh : ∀ row ∈ t.deadLetters.rows, row.recoveryItemId ≠ some item.id) :
    lockRecoveryDeadLetter t item work = .ok () ↔ row.status = .unresolved := by
  have hget := t.deadLetters.get_of_mem hmem
  have hforeign := hfresh row hmem
  unfold lockRecoveryDeadLetter
  by_cases hstatus : row.status = .unresolved
  · simp [hid, hget, hstatus]
  · simp [hid, hget, hstatus, hforeign]

section Roots

variable (h : RootClaim t later key work file stage request item)
  (hitem : item = rootItem jobId ids (withLinkedDeadLetter t work) file request true stage)

include h hitem

theorem validated_root_iff_work :
    (∃ claimed, validateClaimedItem t later item rowId = .ok claimed) ↔
      ∃ found, claimedWork t later item = .ok found ∧
        found.version = (withLinkedDeadLetter t work).version ∧
        (item.action ∈ replayActions ∨ item.action ∈ found.capabilities) := by
  have hprojection := stageProjection_of_load h.load
  obtain ⟨hkind, hid, -, -, -, -⟩ := withLinkedDeadLetter_frame t work
  subst hitem
  rw [validateClaimedItem_of_row (verifySource_of_present rfl hprojection.file_get h.present)
    (lockCanonicalWork_of_stage hprojection rfl hkind (congrArg RecoveryWorkId.row hid)) rfl
    fun _ => ⟨rfl, rfl⟩]
  have hversion := withLinkedDeadLetter_version t work hprojection.version
  constructor
  · rintro ⟨found, hfound, haccepted⟩
    obtain ⟨-, hsame, hcapability⟩ := acceptClaimedWork_eq_ok_iff.mp haccepted
    exact ⟨found, hfound, hsame, hcapability⟩
  · rintro ⟨found, hfound, hsame, hcapability⟩
    exact ⟨found, hfound, acceptClaimedWork_eq_ok_iff.mpr ⟨hversion, hsame, hcapability⟩⟩

theorem loadCandidate_of_root :
    getCandidate t later (item.workKind, item.workId) (some item.id) false =
      .ok ⟨withLinkedDeadLetter t work, stageActions (withLinkedDeadLetter t work) stage
        (some file) [] (terminalDescendantStages t (withLinkedDeadLetter t work))⟩ := by
  have hprojection := stageProjection_of_load h.load
  obtain ⟨hkind, hid, -, hstageEq, -, -⟩ := withLinkedDeadLetter_frame t work
  have hkey : (item.workKind, item.workId) = key := by
    rw [hitem, hprojection.key_eq]
    exact Prod.ext hkind (congrArg RecoveryWorkId.row hid)
  rw [hkey]
  refine getCandidate_of_stage h.load h.stage_eq ?_ h.unblocked
  refine loadActiveJob_of_stage h.owns h.load ?_ ?_
  · rw [hitem]
    rfl
  · rw [hitem, h.stage_eq]
    rfl

theorem validated_root_of_replay (haction : item.action ∈ replayActions)
    (hoffer : StageOffer (withLinkedDeadLetter t work) stage (some file) item.action) :
    ∃ claimed, validateClaimedItem t later item rowId = .ok claimed := by
  rw [validated_root_iff_work h hitem]
  refine ⟨withLinkedDeadLetter t work, ?_, rfl, .inl haction⟩
  have hjudged : item.action ∈ candidateJudgedActions := by
    rcases List.mem_cons.mp haction with heq | hrest
    · rw [heq]
      decide
    · rw [List.mem_singleton.mp hrest]
      decide
  have hne : item.action ≠ retryCapability (withLinkedDeadLetter t work) := by
    rintro heq
    rw [heq] at haction
    rcases retryCapability_cases (withLinkedDeadLetter t work) with hretry | hretry <;>
      simp [hretry, replayActions] at haction
  have hrecover : item.action ≠ .recoverDeadLetter := by
    rintro heq
    simp [heq, replayActions] at haction
  have hacknowledged : isTerminalWork (withLinkedDeadLetter t work) = true →
      item.terminalOverrideAcknowledged = true := by
    intro hterminal
    rw [hitem]
    exact decide_eq_true (h.terminal hterminal)
  unfold claimedWork
  rw [if_pos hjudged, loadCandidate_of_root h hitem]
  simp only [bind, Except.bind, checkClaimedAction_of_offer hoffer hne hacknowledged,
    if_neg hrecover, pure, Except.pure]

theorem validated_root_of_retry
    (haction : item.action = retryCapability work) (hretryable : work.isRetryable = true) :
    (∃ claimed, validateClaimedItem t later item rowId = .ok claimed) ↔
      IsCollected work ∧ NoDeadLetter t work := by
  have hprojection := stageProjection_of_load h.load
  have hplain : item.action ∉ replayActions ∧ item.action ∉ candidateJudgedActions ∧
      item.action ≠ .recoverDeadLetter := by
    rw [haction]
    rcases retryCapability_cases work with hretry | hretry <;> rw [hretry] <;> decide
  have hcapabilities : work.capabilities = [item.action] := by
    rw [hprojection.capabilities, if_pos hretryable, haction]
  obtain ⟨hkind, hid, -, -, -, -⟩ := withLinkedDeadLetter_frame t work
  have hkey : (item.workKind, item.workId) = key := by
    rw [hitem, hprojection.key_eq]
    exact Prod.ext hkind (congrArg RecoveryWorkId.row hid)
  have hclaimed : claimedWork t later item = getWork t key := by
    unfold claimedWork
    rw [if_neg hplain.2.1, hkey]
  rw [validated_root_iff_work h hitem, hclaimed]
  rcases getWork_of_stage h.load h.idle with
    ⟨collected, hget, ⟨base, hsame, rfl⟩, hfailed, hcollected⟩ | ⟨hnone, hnot⟩
  · have haccepted := retry_accepted_iff (s := t) hsame hcapabilities hplain.2.2
    constructor
    · rintro ⟨found, hfound, hversion, hmem⟩
      rw [hget] at hfound
      cases hfound
      exact ⟨hcollected, haccepted.mp ⟨hversion, hmem.resolve_left hplain.1⟩⟩
    · rintro ⟨-, hclear⟩
      obtain ⟨hversion, hmem⟩ := haccepted.mpr hclear
      exact ⟨_, hget, hversion, .inr hmem⟩
  · constructor
    · rintro ⟨found, hfound, -⟩
      exact absurd hfound (hnone found)
    · rintro ⟨hcollected, -⟩
      exact absurd ⟨hprojection.retryable hretryable, hcollected⟩ hnot

theorem validated_root_of_recover (haction : item.action = .recoverDeadLetter)
    (hmem : .recoverDeadLetter ∈ (withLinkedDeadLetter t work).capabilities) :
    (∃ claimed, validateClaimedItem t later item rowId = .ok claimed) ↔
      work.status.isFailed = true ∧ IsCollected work ∧ OneDeadLetter t work := by
  have hprojection := stageProjection_of_load h.load
  obtain ⟨row, hlinked, -, hletter⟩ : ∃ row, linkedDeadLetter t work = some row ∧
      (withLinkedDeadLetter t work).capabilities = [.recoverDeadLetter] ∧
      (withLinkedDeadLetter t work).deadLetterId = some row.id := by
    rcases withLinkedDeadLetter_capabilities t work with ⟨-, hplain⟩ | hlinked
    · rw [hplain, hprojection.capabilities] at hmem
      split at hmem
      · rcases retryCapability_cases work with hretry | hretry <;> simp [hretry] at hmem
      · cases hmem
    · exact hlinked
  obtain ⟨hkind, hid, -, -, -, -⟩ := withLinkedDeadLetter_frame t work
  have hkey : (item.workKind, item.workId) = key := by
    rw [hitem, hprojection.key_eq]
    exact Prod.ext hkind (congrArg RecoveryWorkId.row hid)
  have hcandidate := loadCandidate_of_root h hitem
  have hne : item.action ≠ retryCapability (withLinkedDeadLetter t work) := by
    rw [haction]
    rcases retryCapability_cases (withLinkedDeadLetter t work) with hretry | hretry <;>
      simp [hretry]
  have hchecked : checkClaimedAction ⟨withLinkedDeadLetter t work,
      stageActions (withLinkedDeadLetter t work) stage (some file) []
        (terminalDescendantStages t (withLinkedDeadLetter t work))⟩ item =
      .ok (withLinkedDeadLetter t work) := by
    refine checkClaimedAction_of_offer ?_ hne ?_
    · rw [haction]
      exact .recover hmem
    intro hterminal
    rw [hitem]
    exact decide_eq_true (h.terminal hterminal)
  have hclaimed : ∀ found, claimedWork t later item = .ok found ↔
      row.status = .unresolved ∧ getWork t key = .ok found := by
    intro found
    have hlockLetter : lockRecoveryDeadLetter t item (withLinkedDeadLetter t work) = .ok () ↔
        row.status = .unresolved :=
      lockRecoveryDeadLetter_eq_ok_iff hletter (mem_deadLetters_of_linked hlinked) h.fresh
    rw [← hlockLetter]
    unfold claimedWork
    rw [if_pos (by rw [haction]; decide), hcandidate, hkey]
    simp only [bind, Except.bind, hchecked, if_pos haction]
    cases hlock : lockRecoveryDeadLetter t item (withLinkedDeadLetter t work) with
    | error error => simp
    | ok _ => simp
  have hplain : item.action ∉ replayActions := by
    rw [haction]
    decide
  rw [validated_root_iff_work h hitem]
  have honly : ∀ other, linkedDeadLetter t work = some other → other = row := by
    intro other hother
    exact Option.some.inj (hother.symm.trans hlinked)
  rcases getWork_of_stage h.load h.idle with
    ⟨collected, hget, ⟨base, hsame, rfl⟩, hfailed, hcollected⟩ | ⟨hnone, hnot⟩
  · have haccepted := recover_accepted_iff (s := t) hsame hlinked
    constructor
    · rintro ⟨found, hfound, hversion, hcapability⟩
      obtain ⟨hstatus, hfound⟩ := (hclaimed found).mp hfound
      rw [hget] at hfound
      cases hfound
      have hrecover := hcapability.resolve_left hplain
      rw [haction] at hrecover
      exact ⟨hfailed, hcollected, row, hlinked, hstatus, haccepted.mp ⟨hversion, hrecover⟩⟩
    rintro ⟨-, -, other, hother, hstatus, hstamps⟩
    obtain rfl := honly other hother
    obtain ⟨hversion, hrecover⟩ := haccepted.mpr hstamps
    refine ⟨_, (hclaimed _).mpr ⟨hstatus, hget⟩, hversion, .inr ?_⟩
    rw [haction]
    exact hrecover
  · constructor
    · rintro ⟨found, hfound, -⟩
      exact absurd ((hclaimed found).mp hfound).2 (hnone found)
    · rintro ⟨hfailed, hcollected, -⟩
      exact absurd ⟨hfailed, hcollected⟩ hnot

theorem validated_stageRoot_iff :
    (∃ claimed, validateClaimedItem t later item rowId = .ok claimed) ↔
      RootExecutable t key request.action := by
  have hprojection := stageProjection_of_load h.load
  obtain ⟨hkind, -, -, -, hstatus, hretryableEq⟩ := withLinkedDeadLetter_frame t work
  have hretryEq : retryCapability (withLinkedDeadLetter t work) = retryCapability work := by
    rw [retryCapability, hkind, retryCapability]
  have hitemAction : item.action = rootAction request.action stage file := by
    rw [hitem]
    rfl
  have hoffer := h.offer
  generalize haction : request.action = action at hoffer hitemAction
  cases hoffer with
  | retry hretryable =>
    rw [hretryableEq] at hretryable
    rw [hretryEq] at haction hitemAction ⊢
    by_cases hmedia : retryCapability work ∈ [RecoveryCapability.retryStage, .replayStage] ∧
        stage = .transcode ∧ isMovingMedia (some file) = true
    · obtain ⟨hmem, htranscode, hmoving⟩ := hmedia
      have hregenerate : item.action = .regenerateDerivatives :=
        hitemAction.trans (if_pos ⟨hmem, htranscode, hmoving⟩)
      have hretryStage : retryCapability work = .retryStage := by
        rcases retryCapability_cases work with hretry | hretry
        · exact hretry
        · simp [hretry] at hmem
      rw [hretryStage]
      refine iff_of_true ?_ ⟨work, file, h.load, .inl ⟨htranscode ▸ h.stage_eq, hmoving⟩⟩
      refine validated_root_of_replay h hitem (by rw [hregenerate]; decide) ?_
      rw [hregenerate]
      exact .regenerate htranscode hmoving
    · rw [rootAction_of_plain hmedia] at hitemAction
      rw [validated_root_of_retry h hitem hitemAction hretryable]
      rcases retryCapability_cases work with hretry | hretry
      · have hnot : ¬ IsMediaTranscode work file := by
          rintro ⟨htranscode, hmoving⟩
          rw [h.stage_eq] at htranscode
          exact hmedia ⟨by simp [hretry], Option.some.inj htranscode, hmoving⟩
        rw [hretry]
        constructor
        · intro hclear
          exact ⟨work, file, h.load, .inr hclear⟩
        rintro ⟨other, original, hload, hcases⟩
        rw [h.load] at hload
        cases hload
        exact hcases.resolve_left hnot
      · have hsync : work.kind = .syncTarget := by
          by_contra hother
          simp [retryCapability, hother] at hretry
        have hcollected : IsCollected work := by
          intro hpipeline
          rw [hsync] at hpipeline
          cases hpipeline
        rw [hretry]
        constructor
        · rintro ⟨-, hclear⟩
          exact ⟨work, file, h.load, hclear⟩
        rintro ⟨other, original, hload, hclear⟩
        rw [h.load] at hload
        cases hload
        exact ⟨hcollected, hclear⟩
  | replay hreplayable =>
    refine iff_of_true ?_ trivial
    by_cases hmedia : stage = .transcode ∧ isMovingMedia (some file) = true
    · have hregenerate : item.action = .regenerateDerivatives :=
        hitemAction.trans (if_pos ⟨by simp, hmedia⟩)
      refine validated_root_of_replay h hitem (by rw [hregenerate]; decide) ?_
      rw [hregenerate]
      exact .regenerate hmedia.1 hmedia.2
    rw [rootAction_of_plain fun hcondition => hmedia hcondition.2] at hitemAction
    refine validated_root_of_replay h hitem (by rw [hitemAction]; decide) ?_
    rw [hitemAction]
    exact .replay hreplayable
  | regenerate htranscode hmoving =>
    refine iff_of_true ?_ trivial
    rw [rootAction_of_plain (by simp)] at hitemAction
    refine validated_root_of_replay h hitem (by rw [hitemAction]; decide) ?_
    rw [hitemAction]
    exact .regenerate htranscode hmoving
  | recover hmem =>
    rw [rootAction_of_plain (by simp)] at hitemAction
    rw [validated_root_of_recover h hitem hitemAction hmem]
    unfold RootExecutable
    rw [if_pos hprojection.kind]
    constructor
    · rintro ⟨hfailed, hcollected, hone⟩
      exact ⟨work, file, h.load, hfailed, hcollected, hone⟩
    rintro ⟨other, original, hload, hclear⟩
    rw [h.load] at hload
    cases hload
    exact hclear

end Roots

theorem rootExecutable_congr (hkind : key.1 ∈ eventKinds) (h : Untouched s t)
    (action : RecoveryCapability) : RootExecutable t key action ↔ RootExecutable s key action := by
  have hload : loadStageCandidate t key = loadStageCandidate s key :=
    loadStageCandidate_of_untouched h
  have hlinked : ∀ work, linkedDeadLetter t work = linkedDeadLetter s work :=
    fun work => linkedDeadLetter_congr h.deadLetters
  have hfolded : ∀ work, foldedDeadLetters t work = foldedDeadLetters s work :=
    fun work => foldedDeadLetters_congr h.deadLetters
  cases action <;>
    simp only [RootExecutable, NoDeadLetter, OneDeadLetter, hload, hlinked, hfolded, if_pos hkind]

variable {itemId : Uuid}

theorem hasRow_of_untouched (h : Untouched s t) (hrow : hasRow s key = true) :
    hasRow t key = true := by
  obtain ⟨kind, workId⟩ := key
  cases workId with
  | planned => cases kind <;> cases hrow
  | row id =>
    cases kind <;>
      simpa only [hasRow, h.stages, h.syncTargets, h.ingestRequests, h.outbox, h.backfills,
        h.sourcePosts, h.deadLetters] using hrow

theorem probeSourceObject_congr (h : t.presence = s.presence) (original : Option String) :
    probeSourceObject t original = probeSourceObject s original := by
  unfold probeSourceObject
  rw [h]

variable {row : PipelineDeadLetter}

theorem mem_deadLetters_of_folded
    (h : (foldedDeadLetters s work).getLast? = some row) : row ∈ s.deadLetters.rows := by
  have hmem := List.mem_of_getLast? h
  have hread := mem_of_mem_newestFirst (List.mem_filter.mp hmem).1
  exact (List.mem_filter.mp hread).1

theorem verifySource_of_work (hkind : key.1 ∉ eventKinds) (hwork : getWork s key = .ok work)
    (hchanged : Untouched s t)
    (hpresent : work.kind = .ingestRequest → workSourceObservation s work = some .present)
    (hitem : item = workItem jobId work request true itemId) :
    verifyRecoveryItemSourceObject t item = .ok () := by
  have hspec := nonStageWork_of_getWork hkind hwork
  have hfile : item.memeFileId = none := by rw [hitem]; rfl
  unfold verifyRecoveryItemSourceObject
  split
  · rfl
  simp only [hfile]
  split
  · next hingest =>
    have hworkIngest : work.kind = .ingestRequest := by rw [← hingest, hitem]; rfl
    have hseen := hpresent hworkIngest
    simp only [workSourceObservation, hspec.stage, hworkIngest, Option.isSome_none,
      Bool.false_eq_true, if_false, if_true, Option.some.injEq] at hseen
    have hid : item.workId = .row work.id := by rw [hitem]; rfl
    simp only [hid, probeSourceObject_congr hchanged.presence, hchanged.ingestRequests, hseen]
    rfl
  · rfl

theorem validated_workRoot_iff (hkind : key.1 ∉ eventKinds) (hwork : getWork s key = .ok work)
    (hchanged : Untouched s t) (hmem : request.action ∈ work.capabilities)
    (hpresent : work.kind = .ingestRequest → workSourceObservation s work = some .present)
    (hitem : item = workItem jobId work request true itemId) (howns : OwnsTarget t later item)
    (hfresh : ∀ row ∈ s.deadLetters.rows, row.recoveryItemId ≠ some item.id) :
    (∃ claimed, validateClaimedItem t later item rowId = .ok claimed) ↔
      RootExecutable s key request.action := by
  have hspec := nonStageWork_of_getWork hkind hwork
  have hagain := getWork_of_untouched hchanged hwork
  have hworkKind : work.kind ∉ eventKinds := by
    have hne := hkind
    rw [hspec.key_eq] at hne
    exact hne
  have hplain : request.action ∉ replayActions ∧ request.action ≠ .retryStage ∧
      request.action ≠ .resyncTarget := by
    rcases hspec.capabilities _ hmem with heq | heq
    · rw [heq]
      decide
    · cases hsame : work.kind <;> simp [hsame, capabilityByKind] at heq <;>
        simp [heq, replayActions]
  have hkey : (item.workKind, item.workId) = key := by
    rw [hitem, hspec.key_eq]
    rfl
  have haction : item.action = request.action := by rw [hitem]; rfl
  have hsource := verifySource_of_work hkind hwork hchanged hpresent hitem
  have hlock : lockCanonicalWork t item = .ok () := by
    unfold lockCanonicalWork
    rw [if_neg (by rw [haction]; exact hplain.1), hkey]
    exact if_pos (hasRow_of_untouched hchanged hspec.hasRow)
  have hactive : loadActiveJob later work (some item.id) = false := by
    refine loadActiveJob_of_nonStage howns hspec.stage hworkKind ?_ ?_ ?_ <;> rw [hitem] <;> rfl
  have hid : item.workId = .row work.id := by rw [hitem]; rfl
  rw [validateClaimedItem_of_row hsource hlock hid
    fun hreplay => absurd (haction ▸ hreplay) hplain.1]
  have haccepted : ∃ accepted, acceptClaimedWork item false work = .ok accepted := by
    refine acceptClaimedWork_eq_ok_iff.mpr ?_
    rw [haction, hitem]
    exact ⟨hspec.version, rfl, .inr hmem⟩
  by_cases hrecover : request.action = .recoverDeadLetter
  · obtain ⟨base, hrow, hbase, hfolded⟩ := hspec.recover (hrecover ▸ hmem)
    obtain ⟨row, hlast⟩ : ∃ row, (foldedDeadLetters s base).getLast? = some row := by
      cases hlast : (foldedDeadLetters s base).getLast? with
      | none => exact absurd (List.getLast?_eq_none_iff.mp hlast) hfolded
      | some row => exact ⟨row, rfl⟩
    have hletter : work.deadLetterId = some row.id := by
      rw [hbase]
      exact deadLetterId_foldl hlast
    have hrowMem : row ∈ t.deadLetters.rows := by
      rw [hchanged.deadLetters]
      exact mem_deadLetters_of_folded hlast
    have hlockLetter : lockRecoveryDeadLetter t item work = .ok () ↔ row.status = .unresolved :=
      lockRecoveryDeadLetter_eq_ok_iff hletter hrowMem (by rw [hchanged.deadLetters]; exact hfresh)
    have hcandidate : getCandidate t later key (some item.id) false =
        .ok ⟨work, nonStageActions work false none⟩ := by
      unfold getCandidate loadCandidateWork
      rw [if_neg hkind, hagain]
      simp only [bind, Except.bind, pure, Except.pure, candidateActions, hspec.stage, hactive]
      rw [if_neg (by decide)]
    have hclaimed : ∀ found, claimedWork t later item = .ok found ↔
        row.status = .unresolved ∧ found = work := by
      intro found
      rw [← hlockLetter]
      unfold claimedWork
      rw [if_pos (by rw [haction, hrecover]; decide), hkey, hcandidate]
      simp only [bind, Except.bind,
        checkClaimedAction_of_capability (show item.action ∈ work.capabilities from haction ▸ hmem),
        if_pos (haction.trans hrecover), hagain]
      cases hlocked : lockRecoveryDeadLetter t item work with
      | error error => simp
      | ok _ => simp [eq_comm]
    unfold RootExecutable
    rw [hrecover]
    simp only [if_neg hkind]
    constructor
    · rintro ⟨found, hfound, -⟩
      exact ⟨base, row, hrow, hlast, ((hclaimed found).mp hfound).1⟩
    rintro ⟨other, last, hother, hlastOther, hstatus⟩
    rw [hrow] at hother
    cases hother
    rw [hlast] at hlastOther
    cases hlastOther
    exact ⟨work, (hclaimed work).mpr ⟨hstatus, rfl⟩, haccepted⟩
  · have hclaimed : claimedWork t later item = .ok work := by
      have hunjudged : item.action ∉ candidateJudgedActions := by
        rw [haction]
        intro hjudged
        simp only [candidateJudgedActions, List.mem_cons, List.not_mem_nil, or_false] at hjudged
        rcases hjudged with heq | heq | heq
        · exact hplain.1 (by rw [heq]; decide)
        · exact hplain.1 (by rw [heq]; decide)
        · exact hrecover heq
      unfold claimedWork
      rw [if_neg hunjudged, hkey, hagain]
    refine iff_of_true ⟨work, hclaimed, haccepted⟩ ?_
    cases hcase : request.action <;> simp_all [RootExecutable]

end Collected

structure TouchedBeside (s t : CanonicalState) (memeFileId : Uuid) (stage : ContentPipelineStage) :
    Prop where
  original : (t.files.get memeFileId).map (·.s3OriginalKey) =
    (s.files.get memeFileId).map (·.s3OriginalKey)
  row : t.stageRow memeFileId stage = s.stageRow memeFileId stage
  deadLetters : t.deadLetters = s.deadLetters
  presence : t.presence = s.presence

section Dependent

variable {s t : CanonicalState} {store later : RecoveryStore} {file : MediaFileFence}
  {stage : ContentPipelineStage} {item : RecoveryJobItem} {jobId : Uuid}
  {ids : ContentPipelineStage → Uuid} {request : RecoveryActionRequest} {rowId : t.NewRowId}
  {entry : Stamped PipelineStageJournal} {parent : Option Uuid}

variable {memeFileId : Uuid}

theorem stageRow_eq_some_iff :
    t.stageRow memeFileId stage = some entry ↔
      entry ∈ t.stages.rows ∧ entry.row.memeFileId = memeFileId ∧ entry.row.stage = stage := by
  unfold CanonicalState.stageRow
  rw [find_eq_some_iff t.stageSlots, Prod.mk.injEq]

theorem ensurePlannedStageRow_of_none (hfile : item.memeFileId = some memeFileId)
    (hstage : item.stage = some stage) (hid : item.workId = .planned memeFileId stage)
    (hnone : t.stageRow memeFileId stage = none) :
    ensurePlannedStageRow t item rowId =
      .ok ⟨t.insertPlannedRow memeFileId stage hnone rowId, nameStageRow item rowId.val, true⟩ := by
  unfold ensurePlannedStageRow
  simp only [hfile, hstage, hid]
  split
  · next entry hentry =>
    rw [hnone] at hentry
    cases hentry
  · rfl

theorem stageRow_insertPlannedRow {other : ContentPipelineStage}
    (hnone : t.stageRow memeFileId stage = none) (hentry : t.stageRow memeFileId other = some entry) :
    (t.insertPlannedRow memeFileId stage hnone rowId).stageRow memeFileId other = some entry := by
  obtain ⟨hmem, hslot⟩ := stageRow_eq_some_iff.mp hentry
  exact stageRow_eq_some_iff.mpr ⟨List.mem_append_left _ hmem, hslot⟩

theorem stagePrerequisiteBlocks_of_succeeded {work : RecoveryWorkRead}
    (hfile : work.memeFileId = some memeFileId) (hstage : work.stage = some stage)
    (hparent : ∀ prerequisite, prerequisiteByStage stage = some prerequisite →
      ∃ entry, t.stageRow memeFileId prerequisite = some entry ∧ entry.row.status = .succeeded) :
    stagePrerequisiteBlocks t work = [] := by
  unfold stagePrerequisiteBlocks
  rw [hfile, hstage]
  cases hprerequisite : prerequisiteByStage stage with
  | none => simp [hprerequisite]
  | some prerequisite =>
    obtain ⟨entry, hentry, hstatus⟩ := hparent prerequisite hprerequisite
    simp [hprerequisite, hentry, hstatus]

/-- The candidate of a stage row whose prerequisite succeeded offers the replay, and the claim
goes on with it. -/
theorem claimedWork_of_dependent {work : RecoveryWorkRead}
    (hload : loadStageCandidate t (item.workKind, item.workId) = .ok (work, file))
    (hstage : work.stage = some stage) (hstageIngest : stage ≠ .ingest)
    (haction : item.action = .replayStage)
    (hfile : item.memeFileId = some file.id) (hitemStage : item.stage = some stage)
    (hstatus : work.status.isFailed = true ∨ work.status.isSuccessful = true)
    (hterminal : isTerminalWork work = true → item.terminalOverrideAcknowledged = true)
    (hkey : file.s3OriginalKey ≠ "") (howns : OwnsTarget t later item)
    (hparent : ∀ prerequisite, prerequisiteByStage stage = some prerequisite →
      ∃ entry, t.stageRow file.id prerequisite = some entry ∧ entry.row.status = .succeeded) :
    claimedWork t later item = .ok (withLinkedDeadLetter t work) := by
  have hprojection := stageProjection_of_load hload
  obtain ⟨hkind, hid, hmeme, hstageEq, hstatusEq, hretryableEq⟩ := withLinkedDeadLetter_frame t work
  have hidle : work.status.isActive = false ∧ work.status ≠ .pipelineStage .duplicate := by
    cases hcase : work.status with
    | pipelineStage status => cases status <;> simp_all [RecoveryWorkStatus.isFailed,
        RecoveryWorkStatus.isSuccessful, RecoveryWorkStatus.isActive]
    | syncTarget status => cases status <;> simp_all [RecoveryWorkStatus.isFailed,
        RecoveryWorkStatus.isSuccessful, RecoveryWorkStatus.isActive]
    | _ => simp_all [RecoveryWorkStatus.isFailed, RecoveryWorkStatus.isSuccessful]
  have hactive : loadActiveJob later (withLinkedDeadLetter t work) (some item.id) = false :=
    loadActiveJob_of_stage howns hload hfile (hitemStage.trans hstage.symm)
  have hprerequisite : stagePrerequisiteBlocks t (withLinkedDeadLetter t work) = [] :=
    stagePrerequisiteBlocks_of_succeeded (hmeme.trans hprojection.file_eq) (hstageEq.trans hstage)
      hparent
  have hblocked : commonBlocked (withLinkedDeadLetter t work) stage (some file) false
      (stagePrerequisiteBlocks t (withLinkedDeadLetter t work)) none = [] := by
    rw [commonBlocked_eq_nil_iff, hprerequisite, hstatusEq]
    refine ⟨rfl, ?_, hidle.1, rfl, ?_, rfl⟩
    · rintro (hingest | hduplicate)
      · exact hstageIngest hingest
      · exact hidle.2 hduplicate
    · rintro ⟨-, hempty⟩
      exact hkey (by simpa using hempty)
  have hne : item.action ≠ retryCapability (withLinkedDeadLetter t work) := by
    rw [haction]
    rcases retryCapability_cases (withLinkedDeadLetter t work) with hretry | hretry <;>
      simp [hretry]
  unfold claimedWork
  rw [if_pos (by rw [haction]; decide),
    getCandidate_of_stage hload hstage hactive hblocked]
  simp only [bind, Except.bind, pure, Except.pure]
  rw [checkClaimedAction_of_offer (by rw [haction]; exact .replay (hstatusEq ▸ hstatus)) hne
    (by rw [isTerminalWork, hstatusEq, hretryableEq]; exact hterminal)]
  simp [haction]

structure DependentClaim (s t : CanonicalState) (store later : RecoveryStore)
    (file : MediaFileFence) (stage : ContentPipelineStage) (request : RecoveryActionRequest)
    (item : RecoveryJobItem) (rowId : t.NewRowId) : Prop where
  downstream : ∃ root, stage ∈ downstreamStages root
  file_get : s.files.get file.id = some file
  present : probeSourceObject s (some file.s3OriginalKey) = .present
  admitted : dependentConflict s store file.id
    (decide (.terminalOverride ∈ request.acknowledgements)) stage = none
  touched : TouchedBeside s t file.id stage
  parent : ∀ prerequisite, prerequisiteByStage stage = some prerequisite →
    ∃ entry, t.stageRow file.id prerequisite = some entry ∧ entry.row.status = .succeeded
  owns : OwnsTarget t later item
  unnamed : ∀ other ∈ later.items, other.workId ≠ .row rowId.val

theorem DependentClaim.file_later (h : DependentClaim s t store later file stage request item rowId) :
    ∃ current, t.files.get file.id = some current ∧ current.id = file.id ∧
      current.s3OriginalKey = file.s3OriginalKey ∧
      probeSourceObject t (some current.s3OriginalKey) = .present := by
  have horiginal := h.touched.original
  rw [h.file_get, Option.map_some, Option.map_eq_some_iff] at horiginal
  obtain ⟨current, hget, hkey⟩ := horiginal
  refine ⟨current, hget, ((Table.get_eq_some_iff _).mp hget).2, hkey, ?_⟩
  rw [probeSourceObject_congr h.touched.presence, hkey]
  exact h.present

theorem stage_ne_of_downstream (h : ∃ root, stage ∈ downstreamStages root) :
    stage ≠ .ingest ∧ stage ≠ .transcode := by
  obtain ⟨root, hmem⟩ := h
  constructor <;> rintro rfl <;> cases root <;> simp [downstreamStages] at hmem

theorem status_of_admitted {acknowledged : Bool}
    (h : dependentConflict s store memeFileId acknowledged stage = none)
    (hentry : s.stageRow memeFileId stage = some entry) :
    (entry.row.status = .failed ∨ entry.row.status = .succeeded) ∧
      (isTerminalFailure entry.row = true → acknowledged = true) := by
  simp only [dependentConflict] at h
  split at h
  · cases h
  rw [hentry] at h
  simp only at h
  split at h
  · cases h
  split at h
  · cases h
  split at h
  · cases h
  next hactive hduplicate hterminal =>
  constructor
  · cases hstatus : entry.row.status <;> simp_all
  intro hfailure
  by_contra hnot
  exact hterminal ⟨hfailure, by simpa using hnot⟩

theorem linkedDeadLetter_stageCandidate (current : MediaFileFence) :
    linkedDeadLetter s (stageCandidate entry current) =
      linkedDeadLetter s (stageCandidate entry file) :=
  rfl

theorem loadStageCandidate_of_stageRow {current : MediaFileFence}
    (hentry : t.stageRow file.id stage = some entry) (hget : t.files.get file.id = some current) :
    loadStageCandidate t (.pipelineStage, .row entry.row.id) =
      .ok (stageCandidate entry current, current) := by
  obtain ⟨hmem, hfile, -⟩ := stageRow_eq_some_iff.mp hentry
  have hrow := t.stages.get_of_mem hmem
  simp only [loadStageCandidate, hrow, Option.map_some, hfile, hget]

theorem validated_dependentRow_iff
    (h : DependentClaim s t store later file stage request item rowId)
    (hitem : item = dependentItem s jobId ids file request true stage parent)
    (hentry : s.stageRow file.id stage = some entry) :
    (∃ claimed, validateClaimedItem t later item rowId = .ok claimed) ↔
      DependentExecutable s item.workId := by
  obtain ⟨current, hget, hcurrentId, hkeyEq, hpresent⟩ := h.file_later
  obtain ⟨hingest, htranscode⟩ := stage_ne_of_downstream h.downstream
  obtain ⟨hstatus, hterminal⟩ := status_of_admitted h.admitted hentry
  have hentryLater : t.stageRow file.id stage = some entry := h.touched.row.trans hentry
  obtain ⟨-, -, hstageEq⟩ := stageRow_eq_some_iff.mp hentry
  have hloadLater := loadStageCandidate_of_stageRow hentryLater hget
  have hloadBefore := loadStageCandidate_of_stageRow hentry h.file_get
  have hprojection := stageProjection_of_load hloadLater
  have hfields : item = stageItem jobId ids file request true stage parent false .pipelineStage
      (.row entry.row.id) (.row entry.updatedAt entry.row.lastEventId) .replayStage := by
    rw [hitem, dependentItem, hentry]
  have hitemFile : item.memeFileId = some current.id := by
    rw [hfields, hcurrentId]
    rfl
  have hclaimed : claimedWork t later item =
      .ok (withLinkedDeadLetter t (stageCandidate entry current)) := by
    have hworkKey : (item.workKind, item.workId) = (.pipelineStage, .row entry.row.id) := by
      rw [hfields]
      rfl
    refine claimedWork_of_dependent (hworkKey ▸ hloadLater)
      (congrArg some hstageEq) hingest (by rw [hfields]; rfl) hitemFile (by rw [hfields]; rfl) ?_ ?_
      (originalKey_of_present hpresent) h.owns (hcurrentId ▸ h.parent)
    · rcases hstatus with hnow | hnow
      · left
        simp [stageCandidate, stageRead, RecoveryWorkStatus.isFailed, hnow]
      · right
        simp [stageCandidate, stageRead, RecoveryWorkStatus.isSuccessful, hnow]
    intro hterminalWork
    rw [hfields]
    refine hterminal ?_
    simp only [isTerminalWork, stageCandidate, stageRead, RecoveryWorkStatus.isFailed,
      isRetryableFailure, Bool.and_eq_true, Bool.not_eq_true', decide_eq_true_eq,
      decide_eq_false_iff_not] at hterminalWork
    simp only [isTerminalFailure, decide_eq_true_eq]
    have hfailed : entry.row.status = .failed := by simpa using hterminalWork.1
    exact ⟨hfailed, by simpa [hfailed] using hterminalWork.2⟩
  have hversion : (stageCandidate entry current).version =
      .row entry.updatedAt entry.row.lastEventId := by
    have hne : ¬ (entry.row.stage = .transcode ∧ isMovingMedia (some current) = true) := by
      rintro ⟨hnow, -⟩
      exact htranscode (hstageEq.symm.trans hnow)
    exact if_neg hne
  have haccepted : (∃ accepted, acceptClaimedWork item false
      (withLinkedDeadLetter t (stageCandidate entry current)) = .ok accepted) ↔
      linkedDeadLetter t (stageCandidate entry current) = none := by
    rw [acceptClaimedWork_eq_ok_iff, hfields]
    constructor
    · rintro ⟨-, hsame, -⟩
      unfold withLinkedDeadLetter at hsame
      cases hlinked : linkedDeadLetter t (stageCandidate entry current) with
      | none => rfl
      | some row =>
        rw [hlinked] at hsame
        have hcount := congrArg RecoveryVersion.deadLetterCount hsame
        simp [foldDeadLetter, stageItem, RecoveryVersion.deadLetterCount] at hcount
    intro hlinked
    refine ⟨rfl, ?_, .inl (by simp [stageItem, replayActions])⟩
    rw [withLinkedDeadLetter, hlinked]
    exact hversion
  have hlinkedEq : linkedDeadLetter t (stageCandidate entry current) =
      linkedDeadLetter s (stageCandidate entry file) := by
    rw [linkedDeadLetter_congr h.touched.deadLetters]
    exact linkedDeadLetter_stageCandidate current
  have hworkId : item.workId = .row entry.row.id := by
    rw [hfields]
    rfl
  rw [validateClaimedItem_of_row (verifySource_of_present hitemFile (hcurrentId ▸ hget) hpresent)
    (lockCanonicalWork_of_stage hprojection hitemFile (by rw [hfields]; rfl) hworkId) hworkId
    fun _ => by rw [hfields]; exact ⟨rfl, rfl⟩]
  rw [hworkId]
  constructor
  · rintro ⟨found, hfound, hfoundAccepted⟩ work original hload
    rw [hclaimed] at hfound
    cases hfound
    rw [hloadBefore] at hload
    cases hload
    rw [← hlinkedEq]
    exact haccepted.mp hfoundAccepted
  · intro hexecutable
    exact ⟨_, hclaimed, haccepted.mpr (hlinkedEq.trans (hexecutable _ _ hloadBefore))⟩

end Dependent

end MemeExpert.Services
