import MemeExpert.Services.ClaimedRecovery

/-! From the request of an administrator to the claim of each item it scheduled. -/

namespace MemeExpert.Services

open Pipeline Tables

section Planned

variable {s t : CanonicalState} {store later : RecoveryStore} {file : MediaFileFence}
  {stage : ContentPipelineStage} {item : RecoveryJobItem} {jobId : Uuid}
  {ids : ContentPipelineStage → Uuid} {request : RecoveryActionRequest} {rowId : t.NewRowId}
  {parent : Option Uuid}

theorem OwnsTarget.insertPlannedRow (h : OwnsTarget t later item) {memeFileId : Uuid}
    (hnone : t.stageRow memeFileId stage = none)
    (hunnamed : ∀ other ∈ later.items, other.workId ≠ .row rowId.val) :
    OwnsTarget (t.insertPlannedRow memeFileId stage hnone rowId) later item where
  life := h.life
  mem := h.mem
  holds := h.holds
  named := by
    intro other hother
    have hnamed := h.named other hother
    unfold NamesWork at hnamed ⊢
    cases hkind : other.workKind with
    | pipelineStage =>
      simp only [hkind] at hnamed ⊢
      intro entry hentry hid
      rcases List.mem_append.mp hentry with hold | hnew
      · exact hnamed entry hold hid
      · rw [List.mem_singleton.mp hnew] at hid
        exact absurd hid (hunnamed other hother)
    | syncTarget =>
      simp only [hkind] at hnamed ⊢
      exact hnamed
    | _ =>
      simp only [hkind] at hnamed ⊢
      exact hnamed

theorem acceptClaimedWork_of_created {work : RecoveryWorkRead} (h : item.action ∈ replayActions) :
    ∃ accepted, acceptClaimedWork item true work = .ok accepted := by
  unfold acceptClaimedWork
  rw [if_neg (by simp), if_neg (by simp), if_neg (by simp [h])]
  exact ⟨_, rfl⟩

theorem validated_dependentPlanned
    (h : DependentClaim s t store later file stage request item rowId)
    (hitem : item = dependentItem s jobId ids file request true stage parent)
    (hnone : s.stageRow file.id stage = none) :
    ∃ claimed, validateClaimedItem t later item rowId = .ok claimed := by
  obtain ⟨current, hget, hcurrentId, -, hpresent⟩ := h.file_later
  obtain ⟨hingest, -⟩ := stage_ne_of_downstream h.downstream
  have hnoneLater : t.stageRow file.id stage = none := h.touched.row.trans hnone
  have hfields : item = stageItem jobId ids file request true stage parent false .pipelineStage
      (.planned file.id stage) (.missing file.id stage) .replayStage := by
    rw [hitem, dependentItem, hnone]
  have hfile : item.memeFileId = some current.id := by
    rw [hfields, hcurrentId]
    rfl
  have hsource := verifySource_of_present hfile (hcurrentId ▸ hget) hpresent
  have hlock : lockCanonicalWork t item = .ok () := by
    rw [hfields]
    simp [lockCanonicalWork, stageItem, replayActions, hget]
  let created := t.insertPlannedRow file.id stage hnoneLater rowId
  let named := nameStageRow item rowId.val
  have hplanned : materializeClaimed t item rowId = .ok ⟨created, named, true⟩ := by
    unfold materializeClaimed
    rw [if_pos (by rw [hfields]; simp [stageItem, replayActions])]
    exact ensurePlannedStageRow_of_none (by rw [hfields]; rfl) (by rw [hfields]; rfl)
      (by rw [hfields]; rfl) hnoneLater
  have hnamedFields : named.workKind = .pipelineStage ∧ named.workId = .row rowId.val ∧
      named.action = .replayStage ∧ named.memeFileId = item.memeFileId ∧
      named.stage = some stage ∧ named.id = item.id := by
    rw [show named = nameStageRow item rowId.val from rfl, hfields]
    exact ⟨rfl, rfl, rfl, rfl, rfl, rfl⟩
  obtain ⟨hkind, hid, haction, hnamedFile, hnamedStage, hnamedId⟩ := hnamedFields
  let entry : Stamped PipelineStageJournal := ⟨plannedRow file.id stage rowId.val, t.clock⟩
  have hload : loadStageCandidate created (named.workKind, named.workId) =
      .ok (stageCandidate entry current, current) := by
    have hrow : created.stages.get rowId.val = some entry :=
      t.stages.get_insert_self (show t.stages.get entry.row.id = none from rowId.property)
    have hfileGet : created.files.get entry.row.memeFileId = some current := hget
    rw [hkind, hid]
    simp only [loadStageCandidate, hrow, Option.map_some, hfileGet]
  have howns : OwnsTarget created later item := h.owns.insertPlannedRow hnoneLater h.unnamed
  have hactive : loadActiveJob later
      (withLinkedDeadLetter created (stageCandidate entry current)) (some item.id) = false :=
    loadActiveJob_of_stage howns hload hfile (by rw [hfields]; rfl)
  have hprojection := stageProjection_of_load hload
  obtain ⟨-, -, hmeme, hstageEq, hstatusEq, hretryableEq⟩ :=
    withLinkedDeadLetter_frame created (stageCandidate entry current)
  have hprerequisite : stagePrerequisiteBlocks created
      (withLinkedDeadLetter created (stageCandidate entry current)) = [] := by
    refine stagePrerequisiteBlocks_of_succeeded (show _ = some file.id from hmeme) hstageEq ?_
    intro prerequisite hsome
    obtain ⟨parentEntry, hparent, hstatus⟩ := h.parent prerequisite hsome
    exact ⟨parentEntry, stageRow_insertPlannedRow hnoneLater hparent, hstatus⟩
  have hblocked : commonBlocked (withLinkedDeadLetter created (stageCandidate entry current)) stage
      (some current) false (stagePrerequisiteBlocks created
        (withLinkedDeadLetter created (stageCandidate entry current))) none = [] := by
    rw [commonBlocked_eq_nil_iff, hprerequisite, hstatusEq]
    refine ⟨rfl, ?_, rfl, rfl, ?_, rfl⟩
    · rintro (hnow | hduplicate)
      · exact hingest hnow
      · cases hduplicate
    · rintro ⟨-, hempty⟩
      exact originalKey_of_present hpresent (by simpa using hempty)
  have hclaimed : claimedWork created later named =
      .ok (withLinkedDeadLetter created (stageCandidate entry current)) := by
    have hne : named.action ≠
        retryCapability (withLinkedDeadLetter created (stageCandidate entry current)) := by
      rw [haction]
      rcases retryCapability_cases
        (withLinkedDeadLetter created (stageCandidate entry current)) with hretry | hretry <;>
        simp [hretry]
    have hnotTerminal : isTerminalWork
        (withLinkedDeadLetter created (stageCandidate entry current)) = false := by
      rw [isTerminalWork, hstatusEq, hretryableEq]
      rfl
    unfold claimedWork
    rw [if_pos (by rw [haction]; decide), hnamedId,
      getCandidate_of_stage hload rfl hactive hblocked]
    simp only [bind, Except.bind, pure, Except.pure]
    rw [checkClaimedAction_of_offer (by rw [haction]; exact .replay (.inl (hstatusEq ▸ rfl))) hne
      (by simp [hnotTerminal])]
    simp [haction]
  obtain ⟨accepted, haccepted⟩ : ∃ accepted, acceptClaimedWork named true
      (withLinkedDeadLetter created (stageCandidate entry current)) = .ok accepted :=
    acceptClaimedWork_of_created (by rw [haction]; decide)
  refine ⟨⟨created, accepted, true⟩, ?_⟩
  unfold validateClaimedItem
  rw [hsource, hlock, hplanned]
  simp only [bind, Except.bind, hclaimed, haccepted, pure, Except.pure]

end Planned

/-! ## Refusals

Past the probe of the original every refusal ends the item as stale. -/

section Refusals

variable {t : CanonicalState} {later : RecoveryStore} {item : RecoveryJobItem} {key : WorkKey}
  {work : RecoveryWorkRead} {candidate : RecoveryCandidateRead} {rowId : t.NewRowId}

theorem bind_ne_error {α β : Type} {first : Except RecoveryError α}
    {next : α → Except RecoveryError β} {error : RecoveryError} (hfirst : first ≠ .error error)
    (hnext : ∀ a, next a ≠ .error error) : (first >>= next) ≠ .error error := by
  cases first with
  | error other =>
    intro hother
    exact hfirst (congrArg Except.error (Except.error.inj hother))
  | ok a => exact hnext a

theorem getWork_ne_unavailable : getWork t key ≠ .error .storageUnavailable := by
  unfold getWork
  split <;> simp

theorem getCandidate_ne_unavailable {ignored : Option Uuid} {verify : Bool} :
    getCandidate t later key ignored verify ≠ .error .storageUnavailable := by
  have hstage : loadStageCandidate t key ≠ .error .storageUnavailable := by
    simp only [loadStageCandidate]
    split
    · simp
    · split <;> simp
  have hload : loadCandidateWork t key ≠ .error .storageUnavailable := by
    unfold loadCandidateWork
    split
    · exact bind_ne_error hstage fun _ => by simp [pure, Except.pure]
    · exact bind_ne_error getWork_ne_unavailable fun _ => by simp [pure, Except.pure]
  exact bind_ne_error hload fun _ => by simp [pure, Except.pure]

theorem claimedWork_ne_unavailable : claimedWork t later item ≠ .error .storageUnavailable := by
  have hchecked : ∀ candidate, checkClaimedAction candidate item ≠ .error .storageUnavailable := by
    intro candidate
    unfold checkClaimedAction
    split
    · simp
    split
    · simp
    · split <;> simp
  have hletter : ∀ work, lockRecoveryDeadLetter t item work ≠ .error .storageUnavailable := by
    intro work
    simp only [lockRecoveryDeadLetter]
    split
    · simp
    split
    · simp
    split
    · simp
    · split <;> simp
  unfold claimedWork
  split
  · refine bind_ne_error getCandidate_ne_unavailable fun candidate => ?_
    refine bind_ne_error (hchecked candidate) fun work => ?_
    split
    · exact bind_ne_error (hletter work) fun _ => getWork_ne_unavailable
    · simp [pure, Except.pure]
  · exact getWork_ne_unavailable

theorem acceptClaimedWork_ne_unavailable {created : Bool} :
    acceptClaimedWork item created work ≠ .error .storageUnavailable := by
  unfold acceptClaimedWork
  split
  · simp
  split
  · simp
  · split <;> simp

theorem lockCanonicalWork_ne_unavailable :
    lockCanonicalWork t item ≠ .error .storageUnavailable := by
  unfold lockCanonicalWork
  split
  · split
    · simp
    · split
      · simp
      · simp
      · dsimp only
        generalize hasRow t _ = found
        cases found <;> simp
  · split <;> simp

theorem materializeClaimed_ne_unavailable :
    materializeClaimed t item rowId ≠ .error .storageUnavailable := by
  unfold materializeClaimed ensurePlannedStageRow
  split
  · split
    · split
      · simp
      · split <;> simp
    · simp
  · simp

theorem stale_of_error {error : RecoveryError}
    (hsource : verifyRecoveryItemSourceObject t item = .ok ())
    (h : validateClaimedItem t later item rowId = .error error) (cause : String) (now : Time) :
    (settleInvalid item error cause now).status = .skippedStale := by
  have hne : validateClaimedItem t later item rowId ≠ .error .storageUnavailable := by
    unfold validateClaimedItem
    rw [hsource]
    refine bind_ne_error (by simp) fun _ => ?_
    refine bind_ne_error lockCanonicalWork_ne_unavailable fun _ => ?_
    refine bind_ne_error materializeClaimed_ne_unavailable fun planned => ?_
    refine bind_ne_error claimedWork_ne_unavailable fun work => ?_
    exact bind_ne_error acceptClaimedWork_ne_unavailable fun _ => by simp [pure, Except.pure]
  cases error with
  | storageUnavailable => exact absurd h hne
  | _ => rfl

end Refusals

section Scheduled

variable {s t : CanonicalState} {store scheduled later : RecoveryStore} {key : WorkKey}
  {jobId itemId : Uuid} {ids : ContentPipelineStage → Uuid} {request : RecoveryActionRequest}
  {items : List RecoveryJobItem} {item : RecoveryJobItem} {rowId : t.NewRowId}

/-- The tables in which an item of the job is claimed: for the root only the clock has moved; for
a dependent the parent succeeded, and the earlier items have left it alone. -/
structure ClaimedAfter (s t : CanonicalState) (items : List RecoveryJobItem)
    (item : RecoveryJobItem) : Prop where
  root : item.isRoot = true → Untouched s t
  touched : item.isRoot = false → ∀ memeFileId stage, item.memeFileId = some memeFileId →
    item.stage = some stage → TouchedBeside s t memeFileId stage
  parent : item.isRoot = false → ∀ memeFileId, item.memeFileId = some memeFileId →
    ∀ parent ∈ items, item.parentItemId = some parent.id → ∀ stage, parent.stage = some stage →
      ∃ entry, t.stageRow memeFileId stage = some entry ∧ entry.row.status = .succeeded

def Executable (s : CanonicalState) (key : WorkKey) (request : RecoveryActionRequest)
    (item : RecoveryJobItem) : Prop :=
  if item.isRoot then RootExecutable s key request.action else DependentExecutable s item.workId

/-- The request was accepted: the candidate offers the action, and the request has its scope and
its acknowledgements. -/
theorem performAction_eq_ok
    (h : performAction s store jobId itemId ids key request = .ok (items, scheduled)) :
    ∃ candidate action, getCandidate s store key none true = .ok candidate ∧
      candidate.action request.action = some action ∧ action.available = true ∧
      request.scope ∈ action.scopes ∧
      (∀ required ∈ action.scopeRequirements request.scope,
        required ∈ request.acknowledgements) ∧
      buildExecutionItems s store jobId itemId ids candidate.work request true = .ok items ∧
      ((store.addItems items).saveJob jobId (scheduledJob s jobId items)).commit =
        some scheduled := by
  unfold performAction at h
  cases hcandidate : getCandidate s store key none true with
  | error error =>
    rw [hcandidate] at h
    cases h
  | ok candidate =>
    rw [hcandidate] at h
    simp only [bind, Except.bind] at h
    cases hcheck : checkRequest s candidate request with
    | error error =>
      rw [hcheck] at h
      cases h
    | ok _ =>
      rw [hcheck] at h
      cases hbuilt : buildExecutionItems s store jobId itemId ids candidate.work request true with
      | error error =>
        rw [hbuilt] at h
        cases h
      | ok built =>
        rw [hbuilt] at h
        simp only at h
        obtain ⟨rfl, hcommit⟩ : built = items ∧
            ((store.addItems built).saveJob jobId (scheduledJob s jobId built)).commit =
              some scheduled := by
          split at h
          · next hcommit =>
            cases h
            exact ⟨rfl, hcommit⟩
          · cases h
        unfold checkRequest at hcheck
        split at hcheck
        · cases hcheck
        split at hcheck
        · cases hcheck
        next action haction =>
        split at hcheck
        · cases hcheck
        next havailable =>
        split at hcheck
        · cases hcheck
        next hscope =>
        dsimp only at hcheck
        split at hcheck
        · next hmissing =>
          refine ⟨candidate, action, rfl, haction, by simpa using havailable,
            not_not.mp hscope, ?_, hbuilt, hcommit⟩
          intro required hrequired
          by_contra hnot
          have hmem : required ∈ (action.scopeRequirements request.scope).filter
              (· ∉ request.acknowledgements) :=
            List.mem_filter.mpr ⟨hrequired, by simpa using hnot⟩
          rw [hmissing] at hmem
          cases hmem
        · cases hcheck

theorem parent_of_mem_withParents {root stage : ContentPipelineStage} {parent : Option Uuid}
    (hmem : (stage, parent) ∈ (withParents ids
      (decide (.classify ∈ root :: downstreamStages root)) none
        (root :: downstreamStages root)).tail) :
    stage ∈ downstreamStages root ∧ ∀ prerequisite,
      prerequisiteByStage stage = some prerequisite →
        parent = some (ids prerequisite) ∧ prerequisite ∈ root :: downstreamStages root := by
  cases root with
  | ingest => simp [withParents, downstreamStages] at hmem
  | syncQdrant => simp [withParents, downstreamStages] at hmem
  | syncMeili => simp [withParents, downstreamStages] at hmem
  | transcode =>
    simp [withParents, downstreamStages, syncStages] at hmem
    rcases hmem with ⟨rfl, rfl⟩ | ⟨rfl, rfl⟩ | ⟨rfl, rfl⟩ | ⟨rfl, rfl⟩ | ⟨rfl, rfl⟩ <;>
      simp [downstreamStages, prerequisiteByStage]
  | ocr =>
    simp [withParents, downstreamStages, syncStages] at hmem
    rcases hmem with ⟨rfl, rfl⟩ | ⟨rfl, rfl⟩ | ⟨rfl, rfl⟩ | ⟨rfl, rfl⟩ <;>
      simp [downstreamStages, prerequisiteByStage]
  | embed =>
    simp [withParents, downstreamStages, syncStages] at hmem
    rcases hmem with ⟨rfl, rfl⟩ | ⟨rfl, rfl⟩ | ⟨rfl, rfl⟩ <;>
      simp [downstreamStages, prerequisiteByStage]
  | classify =>
    simp [withParents, downstreamStages, syncStages] at hmem
    rcases hmem with ⟨rfl, rfl⟩ | ⟨rfl, rfl⟩ <;> simp [downstreamStages, prerequisiteByStage]

theorem dependentItem_frame (s : CanonicalState) (jobId : Uuid)
    (ids : ContentPipelineStage → Uuid) (file : MediaFileFence) (request : RecoveryActionRequest)
    (stage : ContentPipelineStage) (parent : Option Uuid) :
    (dependentItem s jobId ids file request true stage parent).id = ids stage ∧
      (dependentItem s jobId ids file request true stage parent).isRoot = false ∧
      (dependentItem s jobId ids file request true stage parent).memeFileId = some file.id ∧
      (dependentItem s jobId ids file request true stage parent).stage = some stage ∧
      (dependentItem s jobId ids file request true stage parent).parentItemId = parent := by
  unfold dependentItem
  split <;> exact ⟨rfl, rfl, rfl, rfl, rfl⟩

/-- What a request on the work of a stage has shown, over the tables it was scheduled from. -/
structure StageRequest (s : CanonicalState) (store : RecoveryStore) (key : WorkKey)
    (jobId : Uuid) (ids : ContentPipelineStage → Uuid) (request : RecoveryActionRequest)
    (items : List RecoveryJobItem) (work : RecoveryWorkRead) (file : MediaFileFence)
    (root : ContentPipelineStage) : Prop where
  load : loadStageCandidate s key = .ok (work, file)
  stage_eq : work.stage = some root
  unblocked : commonBlocked (withLinkedDeadLetter s work) root (some file) false
    (stagePrerequisiteBlocks s (withLinkedDeadLetter s work)) none = []
  present : probeSourceObject s (some file.s3OriginalKey) = .present
  offer : StageOffer (withLinkedDeadLetter s work) root (some file) request.action
  terminal : isTerminalWork (withLinkedDeadLetter s work) = true →
    .terminalOverride ∈ request.acknowledgements
  items_eq : ∃ dependents, (dependents = [] ∨ dependents = downstreamStages root) ∧
    (∀ stage ∈ dependents, dependentConflict s store file.id
      (decide (.terminalOverride ∈ request.acknowledgements)) stage = none) ∧
    items = rootItem jobId ids (withLinkedDeadLetter s work) file request true root ::
      ((withParents ids (decide (.classify ∈ root :: dependents)) none (root :: dependents)).tail.map
        fun (stage, parent) => dependentItem s jobId ids file request true stage parent)

theorem stageRequest_of_performAction (hkind : key.1 ∈ eventKinds)
    (h : performAction s store jobId itemId ids key request = .ok (items, scheduled)) :
    ∃ work file root, StageRequest s store key jobId ids request items work file root := by
  obtain ⟨candidate, action, hcandidate, hfind, havailable, hscope, hacknowledged, hbuilt, -⟩ :=
    performAction_eq_ok h
  unfold getCandidate loadCandidateWork at hcandidate
  rw [if_pos hkind] at hcandidate
  cases hload : loadStageCandidate s key with
  | error error =>
    rw [hload] at hcandidate
    cases hcandidate
  | ok loaded =>
    obtain ⟨work, file⟩ := loaded
    have hprojection := stageProjection_of_load hload
    obtain ⟨root, hroot⟩ := Option.isSome_iff_exists.mp hprojection.stage
    obtain ⟨hkindEq, hid, hmeme, hstageEq, hstatus, hretryable⟩ := withLinkedDeadLetter_frame s work
    have hstageSome : (withLinkedDeadLetter s work).stage = some root := hstageEq.trans hroot
    have hfileSome : (withLinkedDeadLetter s work).memeFileId = some file.id :=
      hmeme.trans hprojection.file_eq
    have hobservation : workSourceObservation s (withLinkedDeadLetter s work) =
        some (probeSourceObject s (some file.s3OriginalKey)) := by
      simp [workSourceObservation, hstageSome, hfileSome, hprojection.file_get]
    rw [hload] at hcandidate
    simp only [bind, Except.bind, pure, Except.pure, candidateActions, hstageSome, if_true,
      hobservation, Except.ok.injEq] at hcandidate
    subst hcandidate
    have hcapabilities : ∀ capability ∈ (withLinkedDeadLetter s work).capabilities,
        capability = retryCapability (withLinkedDeadLetter s work) ∨
          capability = .recoverDeadLetter := by
      intro capability hmem
      rcases withLinkedDeadLetter_capabilities s work with ⟨-, hplain⟩ | ⟨-, -, hrecover, -⟩
      · rw [hplain, hprojection.capabilities] at hmem
        split at hmem
        · left
          rw [List.mem_singleton.mp hmem, retryCapability, retryCapability, hkindEq]
        · cases hmem
      · rw [hrecover, List.mem_singleton] at hmem
        exact .inr hmem
    obtain ⟨hblocked, hoffer⟩ := stageOffer_of_find hcapabilities hfind havailable
    obtain ⟨hcascade, hterminal⟩ := stageOffer_requirements hoffer hfind hscope hacknowledged
    obtain ⟨hprerequisite, hsupported, hidle, hsource, -, -⟩ := commonBlocked_eq_nil_iff.mp hblocked
    have hpresent := present_of_sourceObjectBlockers hsource
    refine ⟨work, file, root, hload, hroot, ?_, hpresent, hoffer, hterminal, ?_⟩
    · rw [commonBlocked_eq_nil_iff]
      refine ⟨hprerequisite, hsupported, hidle, rfl, ?_, rfl⟩
      rintro ⟨-, hempty⟩
      exact originalKey_of_present hpresent (by simpa using hempty)
    refine ⟨if request.scope = .stageAndDependents then downstreamStages root else [], ?_, ?_⟩
    · split
      · exact .inr rfl
      · exact .inl rfl
    simp only [buildExecutionItems, hstageSome, hfileSome, hprojection.file_get] at hbuilt
    split at hbuilt
    · cases hbuilt
    next hadmitted =>
    refine ⟨fun stage hmem => ?_, (Except.ok.inj hbuilt).symm⟩
    exact List.findSome?_eq_none_iff.mp hadmitted stage hmem

theorem workRequest_of_performAction (hkind : key.1 ∉ eventKinds)
    (h : performAction s store jobId itemId ids key request = .ok (items, scheduled)) :
    ∃ work, getWork s key = .ok work ∧ request.action ∈ work.capabilities ∧
      (work.kind = .ingestRequest → workSourceObservation s work = some .present) ∧
      items = [workItem jobId work request true itemId] := by
  obtain ⟨candidate, action, hcandidate, hfind, havailable, -, -, hbuilt, -⟩ :=
    performAction_eq_ok h
  unfold getCandidate loadCandidateWork at hcandidate
  rw [if_neg hkind] at hcandidate
  cases hwork : getWork s key with
  | error error =>
    rw [hwork] at hcandidate
    cases hcandidate
  | ok work =>
    have hspec := nonStageWork_of_getWork hkind hwork
    rw [hwork] at hcandidate
    simp only [bind, Except.bind, pure, Except.pure, candidateActions, hspec.stage, if_true,
      Except.ok.injEq] at hcandidate
    subst hcandidate
    obtain ⟨hmem, -, hsource⟩ := nonStageOffer_of_find hfind havailable
    simp only [buildExecutionItems, hspec.stage] at hbuilt
    refine ⟨work, rfl, hmem, ?_, (Except.ok.inj hbuilt).symm⟩
    intro hingest
    have hblockers := hsource hingest
    cases hobservation : workSourceObservation s work with
    | none => simp [workSourceObservation, hspec.stage, hingest] at hobservation
    | some presence =>
      rw [hobservation] at hblockers
      rw [present_of_sourceObjectBlockers hblockers]

theorem verifySource_of_dependent {store : RecoveryStore} {file : MediaFileFence}
    {stage : ContentPipelineStage}
    (h : DependentClaim s t store later file stage request item rowId)
    (hfile : item.memeFileId = some file.id) : verifyRecoveryItemSourceObject t item = .ok () := by
  obtain ⟨current, hget, hid, -, hpresent⟩ := h.file_later
  exact verifySource_of_present (hid ▸ hfile) (hid ▸ hget) hpresent

/-- An item of a scheduled action, at its claim. -/
theorem validated_iff_executable
    (hscheduled : performAction s store jobId itemId ids key request = .ok (items, scheduled))
    (hitem : item ∈ items) (hclaimed : ClaimedAfter s t items item)
    (howns : OwnsTarget t later item)
    (hfresh : ∀ row ∈ s.deadLetters.rows, row.recoveryItemId ≠ some item.id)
    (hunnamed : ∀ other ∈ later.items, other.workId ≠ .row rowId.val) :
    ((∃ claimed, validateClaimedItem t later item rowId = .ok claimed) ↔
        Executable s key request item) ∧
      ∀ error cause now, validateClaimedItem t later item rowId = .error error →
        (settleInvalid item error cause now).status = .skippedStale := by
  by_cases hkind : key.1 ∈ eventKinds
  · obtain ⟨work, file, root, hrequest⟩ := stageRequest_of_performAction hkind hscheduled
    obtain ⟨dependents, hdependents, hadmitted, rfl⟩ := hrequest.items_eq
    have hprojection := stageProjection_of_load hrequest.load
    rcases List.mem_cons.mp hitem with hroot | htail
    · have hisRoot : item.isRoot = true := by
        rw [hroot]
        rfl
      have hchanged := hclaimed.root hisRoot
      have hlinked : withLinkedDeadLetter t work = withLinkedDeadLetter s work :=
        withLinkedDeadLetter_congr hchanged.deadLetters
      have hrow : ∀ memeFileId stage, t.stageRow memeFileId stage = s.stageRow memeFileId stage := by
        intro memeFileId stage
        unfold CanonicalState.stageRow
        rw [hchanged.stages]
      have hblocks : stagePrerequisiteBlocks t (withLinkedDeadLetter s work) =
          stagePrerequisiteBlocks s (withLinkedDeadLetter s work) := by
        unfold stagePrerequisiteBlocks
        simp only [hrow]
      have hidle : work.status.isActive = false := by
        have hblocked := hrequest.unblocked
        rw [commonBlocked_eq_nil_iff] at hblocked
        rw [← (withLinkedDeadLetter_frame s work).2.2.2.2.1]
        exact hblocked.2.2.1
      have hpresent : probeSourceObject t (some file.s3OriginalKey) = .present := by
        rw [probeSourceObject_congr hchanged.presence]
        exact hrequest.present
      have hclaim : RootClaim t later key work file root request item :=
        { load := (loadStageCandidate_of_untouched hchanged).trans hrequest.load
          stage_eq := hrequest.stage_eq
          idle := hidle
          unblocked := by
            rw [hlinked, hblocks]
            exact hrequest.unblocked
          present := hpresent
          offer := hlinked ▸ hrequest.offer
          terminal := hlinked ▸ hrequest.terminal
          owns := howns
          fresh := hchanged.deadLetters ▸ hfresh }
      refine ⟨?_, ?_⟩
      · rw [validated_stageRoot_iff hclaim (hlinked ▸ hroot),
          rootExecutable_congr hkind hchanged, Executable, if_pos hisRoot]
      intro error cause now herror
      refine stale_of_error (verifySource_of_present ?_ ?_ hpresent) herror cause now
      · rw [hroot]
        rfl
      · rw [hchanged.files]
        exact hprojection.file_get
    · obtain ⟨⟨stage, parent⟩, hmem, rfl⟩ := List.mem_map.mp htail
      obtain ⟨hid, hisRoot, hfile, hstage, hparentId⟩ :=
        dependentItem_frame s jobId ids file request stage parent
      have hcascade : dependents = downstreamStages root := by
        rcases hdependents with rfl | hall
        · simp [withParents] at hmem
        · exact hall
      subst hcascade
      obtain ⟨hdownstream, hparentOf⟩ := parent_of_mem_withParents hmem
      have hparent : ∀ prerequisite, prerequisiteByStage stage = some prerequisite →
          ∃ entry, t.stageRow file.id prerequisite = some entry ∧ entry.row.status = .succeeded := by
        intro prerequisite hprerequisite
        obtain ⟨hparentEq, hstages⟩ := hparentOf prerequisite hprerequisite
        have hsucceeded := hclaimed.parent hisRoot file.id hfile
        rcases List.mem_cons.mp hstages with rfl | hbelow
        · exact hsucceeded _ List.mem_cons_self (hparentId.trans hparentEq) prerequisite rfl
        have hlisted : prerequisite ∈ ((withParents ids
            (decide (.classify ∈ root :: downstreamStages root)) none
              (root :: downstreamStages root)).tail.map Prod.fst) := by
          rw [List.map_tail, map_fst_withParents]
          exact hbelow
        obtain ⟨⟨below, above⟩, hpair, hbelowEq⟩ := List.mem_map.mp hlisted
        have hbelowEq : below = prerequisite := hbelowEq
        subst hbelowEq
        obtain ⟨haboveId, -, -, haboveStage, -⟩ :=
          dependentItem_frame s jobId ids file request below above
        refine hsucceeded _
          (List.mem_cons_of_mem _ (List.mem_map.mpr ⟨(below, above), hpair, rfl⟩))
          (hparentId.trans (hparentEq.trans (congrArg some haboveId.symm))) below haboveStage
      have hclaim : DependentClaim s t store later file stage request
          (dependentItem s jobId ids file request true stage parent) rowId :=
        { downstream := ⟨root, hdownstream⟩
          file_get := hprojection.file_get
          present := hrequest.present
          admitted := hadmitted stage hdownstream
          touched := hclaimed.touched hisRoot file.id stage hfile hstage
          parent := hparent
          owns := howns
          unnamed := hunnamed }
      refine ⟨?_, ?_⟩
      · rw [Executable, if_neg (by simp [hisRoot])]
        cases hentry : s.stageRow file.id stage with
        | some entry => exact validated_dependentRow_iff hclaim rfl hentry
        | none =>
          refine iff_of_true (validated_dependentPlanned hclaim rfl hentry) ?_
          intro other original hload
          have hplanned : (dependentItem s jobId ids file request true stage parent).workId =
              .planned file.id stage := by
            simp only [dependentItem, hentry, stageItem]
          simp [hplanned, loadStageCandidate] at hload
      · intro error cause now herror
        exact stale_of_error (verifySource_of_dependent hclaim hfile) herror cause now
  · obtain ⟨work, hwork, hmem, hpresent, rfl⟩ := workRequest_of_performAction hkind hscheduled
    have hroot := List.mem_singleton.mp hitem
    have hisRoot : item.isRoot = true := by
      rw [hroot]
      rfl
    have hchanged := hclaimed.root hisRoot
    refine ⟨?_, ?_⟩
    · rw [validated_workRoot_iff hkind hwork hchanged hmem hpresent hroot howns hfresh, Executable,
        if_pos hisRoot]
    intro error cause now herror
    refine stale_of_error ?_ herror cause now
    exact verifySource_of_work hkind hwork hchanged hpresent hroot

end Scheduled

namespace SyncJournal

def file : MediaFileFence where
  id := 1
  updatedAt := 0
  status := .ready
  mimeType := some "image/png"
  s3OriginalKey := "originals/1.png"
  s3WebVideoKey := none

def classifyRow : PipelineStageJournal where
  id := 10
  memeFileId := 1
  stage := .classify
  status := .succeeded

def syncRow : PipelineStageJournal where
  id := 11
  memeFileId := 1
  stage := .syncQdrant
  status := .failed
  lastEventId := some 5
  isRetryable := true

def tables : CanonicalState :=
  { CanonicalState.empty with
    files := { rows := [file] }
    stages := { rows := [⟨classifyRow, 0⟩, ⟨syncRow, 0⟩], unique := by decide }
    stageSlots := by decide
    stageStamps := by decide }

def key : WorkKey := (.pipelineStage, .row 11)

def request (action : RecoveryCapability) : RecoveryActionRequest where
  version := .row 0 (some 5)
  action := action

def item (action : RecoveryCapability) : RecoveryJobItem :=
  rootItem 7 (fun _ => 20) (stageCandidate ⟨syncRow, 0⟩ file) file (request action) true .syncQdrant

def newRow : tables.NewRowId := ⟨99, by decide⟩

def scheduled (action : RecoveryCapability) : RecoveryStore :=
  Runs.final lifeStep {} [.replayWork (scheduledJob tables 7 [item action]) [item action]]

theorem untouched : Untouched tables tables := ⟨le_rfl, rfl, rfl, rfl, rfl, rfl, rfl, rfl, rfl, rfl⟩

theorem claimedAfter (action : RecoveryCapability) :
    ClaimedAfter tables tables [item action] (item action) where
  root _ := untouched
  touched hdependent := by cases hdependent
  parent hdependent := by cases hdependent

theorem items_scheduled (action : RecoveryCapability) : (scheduled action).items = [item action] :=
  rfl

theorem ownsTarget (action : RecoveryCapability) :
    OwnsTarget tables (scheduled action) (item action) where
  life := (lifeCycle_of_run _).2
  mem := by
    rw [items_scheduled]
    exact List.mem_singleton_self _
  holds := ⟨List.mem_cons_self, scheduledJob tables 7 [item action], rfl, rfl⟩
  named := by
    intro other hother
    rw [items_scheduled, List.mem_singleton] at hother
    subst hother
    intro entry hentry hid
    rcases List.mem_cons.mp hentry with rfl | hrest
    · cases hid
    · rw [List.mem_singleton.mp hrest]
      exact ⟨rfl, rfl⟩

theorem newRow_unnamed (action : RecoveryCapability) :
    ∀ other ∈ (scheduled action).items, other.workId ≠ .row newRow.val := by
  intro other hother
  rw [items_scheduled, List.mem_singleton] at hother
  subst hother
  rintro hid
  cases hid

end SyncJournal

/-- The replay of the row is offered, and executed. -/
theorem validated_iff_executable_syncJournal :
    ∃ claimed, validateClaimedItem SyncJournal.tables (SyncJournal.scheduled .replayStage)
      (SyncJournal.item .replayStage) SyncJournal.newRow = .ok claimed := by
  have hcontract := validated_iff_executable
    (show performAction SyncJournal.tables {} 7 0 (fun _ => 20) SyncJournal.key
        (SyncJournal.request .replayStage) =
      .ok ([SyncJournal.item .replayStage], SyncJournal.scheduled .replayStage) from rfl)
    (List.mem_singleton_self _) (SyncJournal.claimedAfter .replayStage)
    (SyncJournal.ownsTarget .replayStage) (by simp [SyncJournal.tables, CanonicalState.empty])
    (SyncJournal.newRow_unnamed .replayStage)
  exact hcontract.1.mpr trivial

/-- The retry of the same row is offered as well, and refused at its claim. -/
theorem not_validated_syncJournal :
    ¬ ∀ (s t : CanonicalState) (store scheduled later : RecoveryStore) (key : WorkKey)
      (jobId itemId : Uuid) (ids : ContentPipelineStage → Uuid) (request : RecoveryActionRequest)
      (items : List RecoveryJobItem) (item : RecoveryJobItem) (rowId : t.NewRowId),
      performAction s store jobId itemId ids key request = .ok (items, scheduled) →
      item ∈ items → ClaimedAfter s t items item → OwnsTarget t later item →
      (∀ row ∈ s.deadLetters.rows, row.recoveryItemId ≠ some item.id) →
      (∀ other ∈ later.items, other.workId ≠ .row rowId.val) →
      ∃ claimed, validateClaimedItem t later item rowId = .ok claimed := by
  intro hvalidates
  obtain ⟨claimed, hclaimed⟩ := hvalidates SyncJournal.tables SyncJournal.tables {}
    (SyncJournal.scheduled .retryStage) (SyncJournal.scheduled .retryStage) SyncJournal.key 7 0
    (fun _ => 20) (SyncJournal.request .retryStage) [SyncJournal.item .retryStage]
    (SyncJournal.item .retryStage) SyncJournal.newRow rfl (List.mem_singleton_self _)
    (SyncJournal.claimedAfter .retryStage) (SyncJournal.ownsTarget .retryStage)
    (by simp [SyncJournal.tables, CanonicalState.empty]) (SyncJournal.newRow_unnamed .retryStage)
  have hrefused : (validateClaimedItem SyncJournal.tables (SyncJournal.scheduled .retryStage)
      (SyncJournal.item .retryStage) SyncJournal.newRow).toOption.isSome = false := rfl
  rw [hclaimed] at hrefused
  cases hrefused

end MemeExpert.Services
