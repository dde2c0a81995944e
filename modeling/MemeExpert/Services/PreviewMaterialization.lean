import MemeExpert.Services.PreviewSnapshots

/-! A worker claims the job under a lease, releases the row while it probes storage, and
writes a page only if the lease is still its own. -/

namespace MemeExpert.Services

open Pipeline

structure PreparingJob where
  status : RecoveryJobStatus := .preparing
  selectionSnapshotAt : Option Time := none
  materializationLeaseOwner : Option Uuid := none
  materializationLeaseAt : Option Time := none
  materializationLeaseGeneration : Nat := 0
  materializationCursor : Option Uuid := none
  preparationScannedCount : Nat := 0
  excludedCount : Nat := 0
  exclusionsByReason : Exclusions := fun _ => 0
  selectedRootCount : Nat := 0
  expandedExecutionCount : Nat := 0
  totalCount : Nat := 0
  counts : RecoveryJobCounts := {}
  materializationCompletedAt : Option Time := none
  completedAt : Option Time := none
  cancelledAt : Option Time := none
  expiresAt : Option Time := none

/-- How far a call of `materialize_next_preparing_job` has come. -/
inductive CallPhase where
  | claimed
  | loaded
  | unavailable
  | observed (observations : SourceObservations)

structure MaterializerCall where
  generation : Nat
  pageSize : Int
  phase : CallPhase := .claimed

/-- The job with its members, its items and the calls under way. `processed` is kept by no column:
it lists the turns of the pages that were written. -/
structure Preparation where
  preview : QueryPreview
  job : PreparingJob := {}
  snapshot : QuerySnapshot := {}
  items : List RecoveryJobItem := []
  calls : Uuid → Option MaterializerCall := fun _ => none
  processed : List MemberTurn := []

def materializationLease : Time := 300

def previewTtl : Time := 300

def boundedPageSize (pageSize : Int) : Nat := (max 1 (min pageSize 1000)).toNat

namespace Preparation

def holds (s : Preparation) (owner : Uuid) (call : MaterializerCall) : Bool :=
  s.job.status = .preparing ∧ s.job.materializationLeaseOwner = some owner ∧
    s.job.materializationLeaseGeneration = call.generation

def saveCall (s : Preparation) (owner : Uuid) (call : Option MaterializerCall) : Preparation :=
  { s with calls := Function.update s.calls owner call }

def endCall (s : Preparation) (owner : Uuid) : Preparation := s.saveCall owner none

/-- `_query_snapshot_member_page`. -/
def memberPage (s : Preparation) (limit : Nat) : List RecoveryQuerySnapshotMember :=
  Keyset.nextPage (·.id) s.job.materializationCursor limit s.snapshot.members

def claimPreparingJob (s : Preparation) (owner : Uuid) (pageSize : Int) (now : Time) :
    Option Preparation :=
  if (s.calls owner).isNone ∧ s.job.status = .preparing ∧
      s.job.materializationLeaseAt.all (fun leased => leased + materializationLease < now) then
    let generation := s.job.materializationLeaseGeneration + 1
    some ({ s with
      job := { s.job with
        materializationLeaseOwner := some owner
        materializationLeaseAt := some now
        materializationLeaseGeneration := generation } }.saveCall owner
          (some { generation := generation, pageSize := pageSize }))
  else none

def failPreparation (s : Preparation) (reason : ExclusionReason) (now : Time) : Preparation :=
  { s with
    job := { s.job with
      status := .completedWithFailures
      counts := { s.job.counts with failedCount := max s.job.counts.failedCount 1 }
      excludedCount := s.job.excludedCount + 1
      exclusionsByReason := s.job.exclusionsByReason.count reason
      materializationCompletedAt := some now
      completedAt := some now
      materializationLeaseOwner := none
      materializationLeaseAt := none } }

def releaseLease (s : Preparation) : Preparation :=
  { s with
    job := { s.job with
      materializationLeaseOwner := none
      materializationLeaseAt := none } }

def loadSelector (s : Preparation) : Except ExclusionReason RecoveryQueryFilters :=
  match s.preview.selector with
  | none => .error .invalidQuerySelector
  | some filters =>
    if filters.successfulStage ∧ s.preview.action ≠ .replayStage then
      .error .selectorActionMismatch
    else .ok filters

def reload (s : Preparation) (owner : Uuid) (call : MaterializerCall) (captured : QuerySnapshot)
    (now : Time) : Preparation :=
  match s.loadSelector with
  | .error reason => (s.failPreparation reason now).endCall owner
  | .ok _ =>
    if s.job.selectionSnapshotAt.isNone then
      ({ s with
        snapshot := captured
        job := { s.job with selectionSnapshotAt := some now } }.releaseLease).endCall owner
    else s.saveCall owner (some { call with phase := .loaded })

def preflight (s : Preparation) (owner : Uuid) (call : MaterializerCall) (tables : CanonicalState) :
    Preparation :=
  let page := s.memberPage (boundedPageSize call.pageSize)
  s.saveCall owner (some { call with
    phase := if storageUnavailable tables page then .unavailable
      else .observed (snapshotPageObservations tables page) })

def startTally (s : Preparation) : PageTally where
  exclusions := s.job.exclusionsByReason
  executionKeys := s.items.map executionItemKey
  turns := s.processed

def addCounts (counts new : RecoveryJobCounts) : RecoveryJobCounts where
  completedCount := counts.completedCount + new.completedCount
  failedCount := counts.failedCount + new.failedCount
  queuedCount := counts.queuedCount + new.queuedCount
  waitingCount := counts.waitingCount + new.waitingCount
  dispatchedCount := counts.dispatchedCount + new.dispatchedCount
  succeededCount := counts.succeededCount + new.succeededCount
  staleCount := counts.staleCount + new.staleCount
  skippedCount := counts.skippedCount + new.skippedCount
  cancelledCount := counts.cancelledCount + new.cancelledCount

def writePage (s : Preparation) (page : List RecoveryQuerySnapshotMember) (tally : PageTally) :
    Preparation :=
  let expanded := s.job.expandedExecutionCount + tally.newItems.length
  { s with
    job := { s.job with
      preparationScannedCount := s.job.preparationScannedCount + page.length
      materializationCursor := (page.getLast?.map (·.id)).or s.job.materializationCursor
      exclusionsByReason := tally.exclusions
      excludedCount := tally.exclusions.total
      selectedRootCount := s.job.selectedRootCount + tally.newItems.countP (·.isRoot)
      expandedExecutionCount := expanded
      totalCount := expanded
      counts := addCounts s.job.counts (jobCounts (tally.newItems.map (·.status))) }
    items := s.items ++ tally.newItems
    processed := tally.turns }

def finishMaterialization (s : Preparation) (now : Time) : Preparation :=
  { s with
    job := { s.job with
      status := .preview
      materializationCompletedAt := some now
      expiresAt := some (now + previewTtl)
      materializationCursor := none } }

def itemTarget (item : RecoveryJobItem) : WorkKey := (item.workKind, item.workId)

/-- The page of a call that holds the lease. A job names a target once; where the new items break
that, the transaction is rolled back and the call is over. -/
def materialize (digest : SnapshotContext → String) (s : Preparation) (owner : Uuid)
    (call : MaterializerCall) (observations : SourceObservations) (reads : PageReads) (now : Time) :
    Preparation :=
  match s.preview.selector with
  | none => (s.failPreparation .invalidQuerySelector now).endCall owner
  | some filters =>
    let limit := boundedPageSize call.pageSize
    let page := s.memberPage limit
    match materializePage digest s.preview filters s.startTally page observations reads with
    | .error reason => (s.failPreparation reason now).endCall owner
    | .ok tally =>
      let written := (s.writePage page tally).releaseLease
      if (written.items.map itemTarget).Nodup then
        (if page.length < limit then written.finishMaterialization now else written).endCall owner
      else s.endCall owner

/-- `cancel_batch` on the job. -/
def cancel (s : Preparation) (now : Time) : Preparation :=
  let items := s.items.map (cancelItem now)
  let hasDispatched := items.any fun item => item.status = .dispatched
  { s with
    job := { s.job with
      status := if hasDispatched then .cancelling else .cancelled
      cancelledAt := some now
      completedAt := if hasDispatched then s.job.completedAt else some now
      counts := jobCounts (items.map (·.status)) }
    items := items }

def forgetFile (memeFileId : Uuid) (item : RecoveryJobItem) : RecoveryJobItem :=
  if item.memeFileId = some memeFileId then { item with memeFileId := none } else item

end Preparation

/-- One transaction of a call, named by its owner, or one of the rest of the service. -/
inductive PreparationLabel where
  | claim (owner : Uuid) (pageSize : Int) (now : Time)
  | reload (owner : Uuid) (captured : QuerySnapshot) (now : Time)
  | preflight (owner : Uuid) (tables : CanonicalState)
  | release (owner : Uuid)
  | materialize (owner : Uuid) (reads : PageReads) (now : Time)
  | crash (owner : Uuid)
  | cancel (now : Time)
  | deleteFile (memeFileId : Uuid)

def fenced (s : Preparation) (owner : Uuid) (call : MaterializerCall) (next : Preparation) :
    Preparation :=
  if s.holds owner call then next else s.endCall owner

def preparationStep (digest : SnapshotContext → String) (s : Preparation) :
    PreparationLabel → Option Preparation
  | .claim owner pageSize now => s.claimPreparingJob owner pageSize now
  | .reload owner captured now =>
    match s.calls owner with
    | some ⟨generation, pageSize, .claimed⟩ =>
      let call : MaterializerCall := ⟨generation, pageSize, .claimed⟩
      some (fenced s owner call (s.reload owner call captured now))
    | _ => none
  | .preflight owner tables =>
    match s.calls owner with
    | some ⟨generation, pageSize, .loaded⟩ =>
      let call : MaterializerCall := ⟨generation, pageSize, .loaded⟩
      some (fenced s owner call (s.preflight owner call tables))
    | _ => none
  | .release owner =>
    match s.calls owner with
    | some ⟨generation, pageSize, .unavailable⟩ =>
      some (fenced s owner ⟨generation, pageSize, .unavailable⟩ (s.releaseLease.endCall owner))
    | _ => none
  | .materialize owner reads now =>
    match s.calls owner with
    | some ⟨generation, pageSize, .observed observations⟩ =>
      let call : MaterializerCall := ⟨generation, pageSize, .observed observations⟩
      some (fenced s owner call (s.materialize digest owner call observations reads now))
    | _ => none
  | .crash owner => if (s.calls owner).isSome then some (s.endCall owner) else none
  | .cancel now =>
    if s.job.status ∈ [RecoveryJobStatus.cancelled, .completed, .completedWithFailures, .expired] then
      none
    else some (s.cancel now)
  | .deleteFile memeFileId => some { s with items := s.items.map (Preparation.forgetFile memeFileId) }

structure KeepsProgress (s t : Preparation) : Prop where
  preview : t.preview = s.preview
  status : t.job.status = s.job.status
  snapshotAt : t.job.selectionSnapshotAt = s.job.selectionSnapshotAt
  cursor : t.job.materializationCursor = s.job.materializationCursor
  scanned : t.job.preparationScannedCount = s.job.preparationScannedCount
  excluded : t.job.excludedCount = s.job.excludedCount
  exclusions : t.job.exclusionsByReason = s.job.exclusionsByReason
  roots : t.job.selectedRootCount = s.job.selectedRootCount
  snapshot : t.snapshot = s.snapshot
  items : t.items = s.items
  processed : t.processed = s.processed

theorem KeepsProgress.endCall (s : Preparation) (owner : Uuid) : KeepsProgress s (s.endCall owner) :=
  ⟨rfl, rfl, rfl, rfl, rfl, rfl, rfl, rfl, rfl, rfl, rfl⟩

theorem KeepsProgress.saveCall (s : Preparation) (owner : Uuid) (call : Option MaterializerCall) :
    KeepsProgress s (s.saveCall owner call) :=
  ⟨rfl, rfl, rfl, rfl, rfl, rfl, rfl, rfl, rfl, rfl, rfl⟩

structure WritesPage (digest : SnapshotContext → String) (s t : Preparation)
    (label : PreparationLabel) : Prop where
  written : ∃ owner reads now call observations filters tally,
    label = .materialize owner reads now ∧ s.calls owner = some call ∧
      call.phase = .observed observations ∧ t.processed = tally.turns ∧
      s.holds owner call = true ∧ s.preview.selector = some filters ∧
      materializePage digest s.preview filters s.startTally
        (s.memberPage (boundedPageSize call.pageSize)) observations reads = .ok tally ∧
      ((s.items ++ tally.newItems).map Preparation.itemTarget).Nodup ∧
      (t.job.status ≠ .preparing ∨
        t = ((s.writePage (s.memberPage (boundedPageSize call.pageSize)) tally).releaseLease).endCall
          owner)

inductive Change (digest : SnapshotContext → String) (s t : Preparation)
    (label : PreparationLabel) : Prop where
  | kept (h : KeepsProgress s t)
  | stopped (hstatus : t.job.status ≠ .preparing)
      (hsame : t.job.materializationCursor = s.job.materializationCursor ∧
        t.processed = s.processed)
  | captured (owner : Uuid) (snapshot : QuerySnapshot) (now : Time)
      (hstatus : s.job.status = .preparing) (hnone : s.job.selectionSnapshotAt = none)
      (heq : t = ({ s with
        snapshot := snapshot
        job := { s.job with selectionSnapshotAt := some now } }.releaseLease).endCall owner)
  | page (hstatus : s.job.status = .preparing) (h : WritesPage digest s t label)
  | deleted (memeFileId : Uuid)
      (heq : t = { s with items := s.items.map (Preparation.forgetFile memeFileId) })

section Steps

variable {digest : SnapshotContext → String} {s t : Preparation} {label : PreparationLabel}
  {owner : Uuid} {call : MaterializerCall}

theorem status_of_holds (h : s.holds owner call = true) : s.job.status = .preparing :=
  (of_decide_eq_true h).1

theorem change_of_fenced {next : Preparation}
    (h : s.holds owner call = true → Change digest s next label) :
    Change digest s (fenced s owner call next) label := by
  unfold fenced
  split
  · rename_i hholds
    exact h hholds
  · exact .kept (.endCall s owner)

theorem change_of_reload {captured : QuerySnapshot} {now : Time}
    (hholds : s.holds owner call = true) :
    Change digest s (s.reload owner call captured now) label := by
  unfold Preparation.reload
  split
  · exact .stopped (by simp [Preparation.endCall, Preparation.saveCall,
      Preparation.failPreparation]) ⟨rfl, rfl⟩
  split
  · rename_i hnone
    exact .captured owner captured now (status_of_holds hholds) (Option.isNone_iff_eq_none.mp hnone)
      rfl
  · exact .kept (.saveCall s owner _)

theorem change_of_materialize {observations : SourceObservations} {reads : PageReads} {now : Time}
    (hcall : s.calls owner = some call) (hphase : call.phase = .observed observations)
    (hholds : s.holds owner call = true) :
    Change digest s (s.materialize digest owner call observations reads now)
      (.materialize owner reads now) := by
  unfold Preparation.materialize
  split
  · exact .stopped (by simp [Preparation.endCall, Preparation.saveCall,
      Preparation.failPreparation]) ⟨rfl, rfl⟩
  rename_i filters hselector
  dsimp only
  split
  · exact .stopped (by simp [Preparation.endCall, Preparation.saveCall,
      Preparation.failPreparation]) ⟨rfl, rfl⟩
  rename_i tally htally
  split
  · rename_i htargets
    refine .page (status_of_holds hholds) ⟨owner, reads, now, call, observations, filters, tally,
      rfl, hcall, hphase, ?_, hholds, hselector, htally, htargets, ?_⟩
    · split <;> rfl
    split
    · exact .inl (by simp [Preparation.endCall, Preparation.saveCall,
        Preparation.finishMaterialization])
    · exact .inr rfl
  · exact .kept (.endCall s owner)

theorem change_of_step (h : preparationStep digest s label = some t) : Change digest s t label := by
  cases label with
  | claim owner pageSize now =>
    simp only [preparationStep, Preparation.claimPreparingJob] at h
    split at h
    · cases h
      exact .kept ⟨rfl, rfl, rfl, rfl, rfl, rfl, rfl, rfl, rfl, rfl, rfl⟩
    · cases h
  | reload owner captured now =>
    simp only [preparationStep] at h
    split at h
    · cases h
      exact change_of_fenced change_of_reload
    · cases h
  | preflight owner tables =>
    simp only [preparationStep] at h
    split at h
    · cases h
      exact change_of_fenced fun _ => .kept (.saveCall s owner _)
    · cases h
  | release owner =>
    simp only [preparationStep] at h
    split at h
    · cases h
      exact change_of_fenced fun _ => .kept ⟨rfl, rfl, rfl, rfl, rfl, rfl, rfl, rfl, rfl, rfl, rfl⟩
    · cases h
  | materialize owner reads now =>
    simp only [preparationStep] at h
    split at h
    · rename_i generation pageSize observations hcall
      cases h
      exact change_of_fenced (change_of_materialize hcall rfl)
    · cases h
  | crash owner =>
    simp only [preparationStep] at h
    split at h
    · cases h
      exact .kept (.endCall s owner)
    · cases h
  | cancel now =>
    simp only [preparationStep] at h
    split at h
    · cases h
    cases h
    refine .stopped ?_ ⟨rfl, rfl⟩
    unfold Preparation.cancel
    dsimp only
    split <;> exact fun heq => by cases heq
  | deleteFile memeFileId =>
    cases h
    exact .deleted memeFileId rfl

end Steps

def Preparation.SelectsOutdated (s : Preparation) : Prop :=
  ∃ filters, s.preview.selector = some filters ∧ filters.outdatedWebVideo = true

/-- `front` are the members gone over so far. -/
structure GoneOver (s : Preparation) (front rest : List RecoveryQuerySnapshotMember) : Prop where
  members : s.snapshot.members = front ++ rest
  cursor : s.job.materializationCursor = front.getLast?.map (·.id)
  scanned : s.job.preparationScannedCount = front.length
  processed : s.processed.map (·.member) = front
  outdated : s.SelectsOutdated → (∀ member ∈ front, member.isOutdatedVideo = true) ∧
    TranscodesOf (front.map (·.memeFileId)) (s.items.map executionItemKey)

structure Preparing (s : Preparation) : Prop where
  uncaptured : s.job.selectionSnapshotAt = none → s.snapshot.members = []
  goneOver : ∃ front rest, GoneOver s front rest
  excluded : s.job.excludedCount = s.job.exclusionsByReason.total
  records : s.startTally.Records s.items s.job.selectedRootCount
  keys : (s.items.map executionItemKey).Nodup
  targets : (s.items.map Preparation.itemTarget).Nodup

theorem preparing_start (preview : QueryPreview) :
    Preparing { preview := preview } where
  uncaptured _ := rfl
  goneOver := ⟨[], [], rfl, rfl, rfl, rfl, fun _ =>
    ⟨fun _ h => (List.not_mem_nil h).elim, fun _ h => (List.not_mem_nil h).elim⟩⟩
  excluded := by
    show 0 = Exclusions.total fun _ => 0
    decide
  records := ⟨fun _ h => (List.not_mem_nil h).elim, rfl, rfl, rfl⟩
  keys := List.nodup_nil
  targets := List.nodup_nil

section Invariant

variable {digest : SnapshotContext → String} {s t : Preparation} {label : PreparationLabel}
  {front rest : List RecoveryQuerySnapshotMember}

theorem Preparing.of_kept (h : Preparing s) (hkept : KeepsProgress s t) : Preparing t := by
  obtain ⟨front, rest, hgone⟩ := h.goneOver
  refine ⟨?_, ⟨front, rest, ?_⟩, ?_, ?_, ?_, ?_⟩
  · rw [hkept.snapshotAt, hkept.snapshot]
    exact h.uncaptured
  · refine ⟨?_, ?_, ?_, ?_, ?_⟩
    · rw [hkept.snapshot, hgone.members]
    · rw [hkept.cursor, hgone.cursor]
    · rw [hkept.scanned, hgone.scanned]
    · rw [hkept.processed, hgone.processed]
    · rw [Preparation.SelectsOutdated, hkept.preview, hkept.items]
      exact hgone.outdated
  · rw [hkept.excluded, hkept.exclusions, h.excluded]
  · rw [Preparation.startTally, hkept.exclusions, hkept.items, hkept.processed, hkept.roots]
    exact h.records
  · rw [hkept.items]
    exact h.keys
  · rw [hkept.items]
    exact h.targets

theorem Preparing.of_captured (h : Preparing s) (hnone : s.job.selectionSnapshotAt = none)
    (owner : Uuid) (snapshot : QuerySnapshot) (now : Time) :
    Preparing (({ s with
      snapshot := snapshot
      job := { s.job with selectionSnapshotAt := some now } }.releaseLease).endCall owner) := by
  obtain ⟨front, rest, hgone⟩ := h.goneOver
  have hempty : front = [] :=
    (List.append_eq_nil_iff.mp (hgone.members.symm.trans (h.uncaptured hnone))).1
  subst hempty
  exact ⟨fun hfalse => (Option.some_ne_none _ hfalse).elim,
    ⟨[], snapshot.members, ⟨rfl, hgone.cursor, hgone.scanned, hgone.processed, hgone.outdated⟩⟩,
    h.excluded, h.records, h.keys, h.targets⟩

theorem itemTarget_forgetFile (memeFileId : Uuid) (item : RecoveryJobItem) :
    Preparation.itemTarget (Preparation.forgetFile memeFileId item) =
      Preparation.itemTarget item := by
  unfold Preparation.forgetFile
  split <;> rfl

theorem executionItemKey_forgetFile (memeFileId : Uuid) (item : RecoveryJobItem) :
    executionItemKey (Preparation.forgetFile memeFileId item) = executionItemKey item ∨
      executionItemKey (Preparation.forgetFile memeFileId item) = .work item.workKind item.workId := by
  unfold Preparation.forgetFile
  split
  · exact .inr rfl
  · exact .inl rfl

theorem executionItemKey_cases (item : RecoveryJobItem) :
    (∃ memeFileId stage, executionItemKey item = .stage memeFileId stage) ∨
      executionItemKey item = .work item.workKind item.workId := by
  unfold executionItemKey
  split
  · exact .inl ⟨_, _, rfl⟩
  · exact .inr rfl

theorem executionItemKey_forgetFile_ne {a b : RecoveryJobItem} (memeFileId : Uuid)
    (hkey : executionItemKey a ≠ executionItemKey b)
    (htarget : Preparation.itemTarget a ≠ Preparation.itemTarget b) :
    executionItemKey (Preparation.forgetFile memeFileId a) ≠
      executionItemKey (Preparation.forgetFile memeFileId b) := by
  have hwork : ReservationKey.work a.workKind a.workId ≠ .work b.workKind b.workId := by
    intro heq
    obtain ⟨hkind, hid⟩ := ReservationKey.work.inj heq
    exact htarget (Prod.ext hkind hid)
  rcases executionItemKey_forgetFile memeFileId a with ha | ha <;>
    rcases executionItemKey_forgetFile memeFileId b with hb | hb <;> rw [ha, hb]
  · exact hkey
  · rcases executionItemKey_cases a with ⟨file, stage, hstage⟩ | hsame
    · rw [hstage]
      exact fun heq => by cases heq
    · rw [hsame]
      exact hwork
  · rcases executionItemKey_cases b with ⟨file, stage, hstage⟩ | hsame
    · rw [hstage]
      exact fun heq => by cases heq
    · rw [hsame]
      exact hwork
  · exact hwork

theorem withoutFile_forgetFile (memeFileId : Uuid) (item : RecoveryJobItem) :
    withoutFile (Preparation.forgetFile memeFileId item) = withoutFile item := by
  unfold Preparation.forgetFile
  split <;> rfl

theorem Preparing.of_deleted (h : Preparing s) (memeFileId : Uuid) :
    Preparing { s with items := s.items.map (Preparation.forgetFile memeFileId) } := by
  obtain ⟨front, rest, hgone⟩ := h.goneOver
  have hkeys : ((s.items.map (Preparation.forgetFile memeFileId)).map executionItemKey).Nodup := by
    have hpairs := (List.pairwise_map.mp h.keys).and (List.pairwise_map.mp h.targets)
    refine List.pairwise_map.mpr (List.pairwise_map.mpr (hpairs.imp ?_))
    rintro a b ⟨hkey, htarget⟩
    exact executionItemKey_forgetFile_ne memeFileId hkey htarget
  have htargets : ((s.items.map (Preparation.forgetFile memeFileId)).map
      Preparation.itemTarget).Nodup := by
    have hsame : (s.items.map (Preparation.forgetFile memeFileId)).map Preparation.itemTarget =
        s.items.map Preparation.itemTarget := by
      rw [List.map_map]
      exact List.map_congr_left fun item _ => itemTarget_forgetFile memeFileId item
    rw [hsame]
    exact h.targets
  refine ⟨h.uncaptured, ⟨front, rest, hgone.members, hgone.cursor, hgone.scanned, hgone.processed,
    ?_⟩, h.excluded, ⟨h.records.turns, ?_, h.records.roots, h.records.exclusions⟩, hkeys, htargets⟩
  case refine_2 =>
    have hsame : (s.items.map (Preparation.forgetFile memeFileId)).map withoutFile =
        s.items.map withoutFile := by
      rw [List.map_map]
      exact List.map_congr_left fun item _ => withoutFile_forgetFile memeFileId item
    rw [List.map_append, hsame, ← List.map_append]
    exact h.records.items
  intro hselects
  obtain ⟨hmembers, htranscodes⟩ := hgone.outdated hselects
  refine ⟨hmembers, ?_⟩
  intro file hfile
  obtain ⟨forgotten, hforgotten, hkey⟩ := List.mem_map.mp hfile
  obtain ⟨item, hitem, rfl⟩ := List.mem_map.mp hforgotten
  rcases executionItemKey_forgetFile memeFileId item with hsame | hwork
  · exact htranscodes file (List.mem_map.mpr ⟨item, hitem, hsame.symm.trans hkey⟩)
  · rw [hkey] at hwork
    cases hwork

theorem QuerySnapshot.nodup_files (snapshot : QuerySnapshot)
    {members : List RecoveryQuerySnapshotMember} (hsub : members.Sublist snapshot.members)
    (houtdated : ∀ member ∈ members, member.isOutdatedVideo = true) :
    (members.map (·.memeFileId)).Nodup := by
  refine List.Nodup.of_map (fun file => SnapshotRootKey.outdatedVideo (file.getD 0)) ?_
  have hkeys : (members.map (·.memeFileId)).map
      (fun file => SnapshotRootKey.outdatedVideo (file.getD 0)) = members.map (·.rootKey) := by
    rw [List.map_map]
    refine List.map_congr_left ?_
    intro member hmember
    obtain ⟨memeFileId, hroot, hfile⟩ :=
      snapshot.outdated member (hsub.subset hmember) (houtdated member hmember)
    rw [hroot, Function.comp_apply, hfile, Option.getD_some]
  rw [hkeys]
  exact snapshot.rootKeys.sublist (hsub.map _)

theorem keeps_startTally (s : Preparation) : s.startTally.Keeps (s.items.map executionItemKey) :=
  (List.append_nil (s.items.map executionItemKey)).symm

theorem GoneOver.memberPage (h : GoneOver s front rest) (limit : Nat) :
    s.memberPage limit = rest.take limit := by
  have hascending : (front ++ rest).Pairwise fun a b => a.id < b.id := h.members ▸ s.snapshot.ascending
  rw [Preparation.memberPage, h.cursor, h.members]
  exact Keyset.nextPage_append hascending limit

theorem GoneOver.of_page (h : GoneOver s front rest)
    (hkeys : (s.items.map executionItemKey).Nodup)
    {filters : RecoveryQueryFilters} {tally : PageTally} {observations : SourceObservations}
    {reads : PageReads} {limit : Nat} (owner : Uuid) (hselector : s.preview.selector = some filters)
    (htally : materializePage digest s.preview filters s.startTally (s.memberPage limit)
      observations reads = .ok tally) :
    tally.executionKeys.Nodup ∧ GoneOver
      (((s.writePage (s.memberPage limit) tally).releaseLease).endCall owner)
      (front ++ rest.take limit) (rest.drop limit) := by
  have hpage : s.memberPage limit = rest.take limit := h.memberPage limit
  have hkeeps : tally.executionKeys = (s.items ++ tally.newItems).map executionItemKey := by
    rw [List.map_append]
    exact keeps_materializePage (keeps_startTally s) htally
  have hselects : filters.outdatedWebVideo = true → s.SelectsOutdated :=
    fun houtdated => ⟨filters, hselector, houtdated⟩
  have hsub : (front ++ rest.take limit).Sublist s.snapshot.members := by
    rw [h.members]
    exact (List.Sublist.refl front).append (List.take_sublist limit rest)
  obtain ⟨hnodup, houtdated⟩ := nodup_materializePage hkeys
    (fun houtdated => (h.outdated (hselects houtdated)).2)
    (fun hmembers houtdated => by
      rw [hpage, ← List.map_append]
      refine s.snapshot.nodup_files hsub ?_
      intro member hmember
      rcases List.mem_append.mp hmember with hfront | hnew
      · exact (h.outdated (hselects houtdated)).1 member hfront
      · exact hmembers member (hpage ▸ hnew)) htally
  rw [hpage] at houtdated ⊢
  refine ⟨hnodup, ?_, ?_, ?_, ?_, ?_⟩
  · rw [List.append_assoc, List.take_append_drop]
    exact h.members
  · change ((rest.take limit).getLast?.map (·.id)).or s.job.materializationCursor = _
    rw [h.cursor, List.getLast?_append, Option.map_or]
  · change s.job.preparationScannedCount + (rest.take limit).length = _
    rw [h.scanned, List.length_append]
  · obtain ⟨turns, htakes, hturns⟩ := takesTurns_materializePage htally
    change tally.turns.map (·.member) = _
    rw [hturns, List.map_append, htakes.members, Preparation.startTally, h.processed, hpage]
  rintro ⟨filters', hselector', houtdated'⟩
  obtain rfl : filters = filters' := Option.some.inj (hselector.symm.trans hselector')
  obtain ⟨hmembers, htranscodes⟩ := houtdated houtdated'
  refine ⟨?_, ?_⟩
  · intro member hmember
    rcases List.mem_append.mp hmember with hfront | hnew
    · exact (h.outdated (hselects houtdated')).1 member hfront
    · exact hmembers member hnew
  · change TranscodesOf _ ((s.items ++ tally.newItems).map executionItemKey)
    rw [← hkeeps, List.map_append]
    exact htranscodes

theorem Preparing.of_page (h : Preparing s) {filters : RecoveryQueryFilters} {tally : PageTally}
    {observations : SourceObservations} {reads : PageReads} {limit : Nat} (owner : Uuid)
    (hselector : s.preview.selector = some filters)
    (htally : materializePage digest s.preview filters s.startTally (s.memberPage limit)
      observations reads = .ok tally)
    (htargets : ((s.items ++ tally.newItems).map Preparation.itemTarget).Nodup) :
    Preparing (((s.writePage (s.memberPage limit) tally).releaseLease).endCall owner) := by
  obtain ⟨front, rest, hgone⟩ := h.goneOver
  obtain ⟨hkeys, hnext⟩ := hgone.of_page h.keys owner hselector htally
  obtain ⟨hturns, hitems, hroots, hexclusions⟩ := records_materializePage h.records htally
  refine ⟨h.uncaptured, ⟨_, _, hnext⟩, rfl, ⟨hturns, ?_, hroots, hexclusions⟩, ?_, htargets⟩
  · exact (congrArg _ (List.append_nil _)).trans hitems
  change ((s.items ++ tally.newItems).map executionItemKey).Nodup
  rw [List.map_append]
  have hkeeps : tally.executionKeys =
      s.items.map executionItemKey ++ tally.newItems.map executionItemKey :=
    keeps_materializePage (keeps_startTally s) htally
  exact hkeeps ▸ hkeys

theorem Preparing.step (h : s.job.status = .preparing → Preparing s)
    (hstep : preparationStep digest s label = some t) (hstatus : t.job.status = .preparing) :
    Preparing t := by
  cases change_of_step hstep with
  | kept hkept => exact (h (hkept.status.symm.trans hstatus)).of_kept hkept
  | stopped hstopped => exact absurd hstatus hstopped
  | captured owner snapshot now hbefore hnone heq =>
    rw [heq]
    exact (h hbefore).of_captured hnone owner snapshot now
  | page hbefore hpage =>
    obtain ⟨owner, reads, now, call, observations, filters, tally, -, -, -, -, -, hselector, htally,
      htargets, hleft | heq⟩ := hpage.written
    · exact absurd hstatus hleft
    · rw [heq]
      exact (h hbefore).of_page owner hselector htally htargets
  | deleted memeFileId heq =>
    rw [heq] at hstatus ⊢
    exact (h hstatus).of_deleted memeFileId

/-- Each member up to the cursor had one turn, and the items, the exclusions and the counters of the
job are those of the turns. -/
structure MaterializedOnce (s : Preparation) : Prop where
  scanned : s.job.preparationScannedCount = s.processed.length
  members : s.processed.map (·.member) =
    Keyset.upTo (·.id) s.job.materializationCursor s.snapshot.members
  once : (s.processed.map (·.member.id)).Nodup
  roots : ∀ turn ∈ s.processed, turn.SelectsRoot
  items : s.items.map withoutFile = (s.processed.flatMap (·.items)).map withoutFile
  selected : s.job.selectedRootCount = s.processed.countP (·.isSelected)
  excluded : ∀ reason, s.job.exclusionsByReason reason =
    s.processed.countP (·.isExcludedFor reason)
  accounted : s.job.selectedRootCount + s.job.excludedCount = s.job.preparationScannedCount
  keys : (s.items.map executionItemKey).Nodup

theorem Preparing.materializedOnce (h : Preparing s) : MaterializedOnce s := by
  obtain ⟨front, rest, hgone⟩ := h.goneOver
  have hascending : (front ++ rest).Pairwise fun a b => a.id < b.id :=
    hgone.members ▸ s.snapshot.ascending
  obtain ⟨hturns, hitems, hroots, hexclusions⟩ := h.records
  have hlength : s.job.preparationScannedCount = s.processed.length := by
    rw [hgone.scanned, ← hgone.processed, List.length_map]
  have hselected : s.job.selectedRootCount = s.processed.countP (·.isSelected) := hroots
  refine ⟨hlength, ?_, ?_, hturns, ?_, hselected, congrFun hexclusions, ?_, h.keys⟩
  · rw [hgone.processed, hgone.cursor, hgone.members, Keyset.upTo_append hascending]
  · have hids : s.processed.map (·.member.id) = front.map (·.id) := by
      rw [← hgone.processed, List.map_map]
      rfl
    rw [hids]
    refine List.pairwise_map.mpr ?_
    exact (List.pairwise_append.mp hascending).1.imp fun hlt => Nat.ne_of_lt hlt
  · exact (congrArg _ (List.append_nil _).symm).trans hitems
  · have htotal : s.job.exclusionsByReason = exclusionsOf s.processed := hexclusions
    rw [h.excluded, hselected, htotal, hlength]
    exact selected_add_excluded s.processed

/-- A call that holds the lease goes over its page with what it observed and reads. -/
def TurnsOver (digest : SnapshotContext → String) (s t : Preparation) (label : PreparationLabel) :
    Prop :=
  ∃ owner reads now call filters observations turns, label = .materialize owner reads now ∧
    s.calls owner = some call ∧ s.job.status = .preparing ∧
    s.job.materializationLeaseOwner = some owner ∧
    s.job.materializationLeaseGeneration = call.generation ∧
    call.phase = .observed observations ∧ s.preview.selector = some filters ∧
    TakesTurns (pageOutcome digest s.preview filters observations reads)
      (s.items.map executionItemKey) (s.memberPage (boundedPageSize call.pageSize)) turns ∧
    t.processed = s.processed ++ turns

theorem turnsOver_of_progress (hstep : preparationStep digest s label = some t)
    (hne : ¬(t.job.materializationCursor = s.job.materializationCursor ∧
      t.processed = s.processed)) : TurnsOver digest s t label := by
  cases change_of_step hstep with
  | kept hkept => exact absurd ⟨hkept.cursor, hkept.processed⟩ hne
  | stopped _ hsame => exact absurd hsame hne
  | captured owner snapshot now _ _ heq =>
    rw [heq] at hne
    exact absurd ⟨rfl, rfl⟩ hne
  | page _ hpage =>
    obtain ⟨owner, reads, now, call, observations, filters, tally, hlabel, hcall, hphase,
      hprocessed, hholds, hselector, htally, -⟩ := hpage.written
    obtain ⟨hstatus, howner, hgeneration⟩ := of_decide_eq_true hholds
    obtain ⟨turns, htakes, hturns⟩ := takesTurns_materializePage htally
    exact ⟨owner, reads, now, call, filters, observations, turns, hlabel, hcall, hstatus, howner,
      hgeneration, hphase, hselector, htakes, hprocessed.trans hturns⟩
  | deleted memeFileId heq =>
    rw [heq] at hne
    exact absurd ⟨rfl, rfl⟩ hne

end Invariant

/-- Whatever the calls, their pages and their failures: while the job is prepared, each member up to
the cursor has had one turn, and no two items have one execution key. The cursor moves only under
the current lease, by the turns of one page. -/
theorem members_materialized_once (digest : SnapshotContext → String) (preview : QueryPreview)
    (labels : List PreparationLabel) :
    ((Runs.final (preparationStep digest) { preview := preview } labels).job.status = .preparing →
      MaterializedOnce (Runs.final (preparationStep digest) { preview := preview } labels)) ∧
    ∀ x ∈ Runs.transitions (preparationStep digest) { preview := preview } labels,
      ¬(x.after.job.materializationCursor = x.before.job.materializationCursor ∧
        x.after.processed = x.before.processed) →
          TurnsOver digest x.before x.after x.label := by
  refine ⟨?_, ?_⟩
  · intro hstatus
    have hkept : (Runs.final (preparationStep digest) { preview := preview } labels).job.status =
        .preparing →
        Preparing (Runs.final (preparationStep digest) { preview := preview } labels) :=
      Runs.invariant_final (P := fun s => s.job.status = .preparing → Preparing s)
        (fun _ => preparing_start preview)
        (fun x hx hbefore hafter =>
          Preparing.step hbefore (Runs.step_of_mem_transitions hx) hafter)
    exact (hkept hstatus).materializedOnce
  · intro x hx hne
    exact turnsOver_of_progress (Runs.step_of_mem_transitions hx) hne

namespace TwoPages

/-- Three posts that failed; the second failed once more after its capture. -/
def tables : CanonicalState :=
  { CanonicalState.empty with
    clock := 10
    sourcePosts :=
      { rows := [⟨5, .failed, true, none, none, 3⟩, ⟨6, .failed, true, none, none, 9⟩,
          ⟨7, .failed, true, none, none, 3⟩]
        unique := by decide }
    stageStamps := by simp [CanonicalState.empty]
    syncStamps := by simp [CanonicalState.empty]
    deadLetterStamps := by simp [CanonicalState.empty] }

def preview : QueryPreview where
  jobId := 1
  action := .replaySourcePost
  selector := some {}

def member (id postId : Uuid) : RecoveryQuerySnapshotMember where
  id := id
  rootKey := .work .sourcePost (.row postId)
  workKind := .sourcePost
  workId := some (.row postId)
  capturedVersion := some (.work (.row 3 none))
  capturedContextFingerprint := some ""

def captured : QuerySnapshot where
  members := [member 15 5, member 16 6, member 17 7]
  ascending := by decide
  rootKeys := by simp [member]
  outdated := by simp [member]

def reads : PageReads where
  files := tables
  rows := tables
  store := {}
  member := fun id =>
    { tables := tables, store := {}, rebuilt := (tables, {}), itemId := id + 100, ids := fun _ => 0 }

/-- The first worker writes a page of two and loses the lease before its next page. -/
def labels : List PreparationLabel :=
  [.claim 1 2 0, .reload 1 captured 1, .claim 1 2 2, .reload 1 {} 3, .preflight 1 tables,
    .materialize 1 reads 4, .claim 1 1 5, .reload 1 {} 6, .preflight 1 tables, .claim 2 1 306,
    .reload 2 {} 307, .preflight 2 tables, .materialize 1 reads 308, .materialize 2 reads 309]

end TwoPages

theorem two_pages_materialized_once :
    (Runs.final (preparationStep fun _ => "") { preview := TwoPages.preview }
      TwoPages.labels).items.map (fun item => (item.id, item.workId)) =
        [(115, .row 5), (117, .row 7)] ∧
    (Runs.final (preparationStep fun _ => "") { preview := TwoPages.preview }
      TwoPages.labels).job.exclusionsByReason .canonicalStateChanged = 1 ∧
    MaterializedOnce (Runs.final (preparationStep fun _ => "")
      { preview := TwoPages.preview } TwoPages.labels) :=
  ⟨by decide +kernel, by decide +kernel,
    (members_materialized_once (fun _ => "") TwoPages.preview TwoPages.labels).1
      (by decide +kernel)⟩

end MemeExpert.Services
