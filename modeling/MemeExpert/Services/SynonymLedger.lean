import MemeExpert.Lib.Runs
import MemeExpert.Lib.Sessions
import MemeExpert.Services.SettingsReconcile
import MemeExpert.Services.SynonymPublication

/-! Admin requests lock the catalog they edit, and a publication locks the sync row as well.
-/

namespace MemeExpert.Services

open Runs SettingsReconcile

inductive SynonymLock where
  | catalog (catalogId : Uuid)
  | syncState
  deriving DecidableEq

inductive SynonymCall where
  | requested (request : AdminSynonymRequest)
  | catalogLocked (request : AdminSynonymRequest) (catalog : SearchSynonymCatalog)
  | revisionsRead (request : AdminSynonymRequest) (catalog : SearchSynonymCatalog)
      (revisions : List SearchSynonymRevision)
  | publishing (request : AdminSynonymRequest) (confirmDestructive : Bool)
      (catalog : SearchSynonymCatalog) (revisions : List SearchSynonymRevision)
      (state : SearchSynonymSyncState)
  | flushed (catalogId : Uuid) (write : PublishedDraft) (state : SearchSynonymSyncState)
      (now : Time)
  | requestingSync (catalogId : Uuid) (write : PublishedDraft) (state : SearchSynonymSyncState)
  | retryRequested
  | retrying (state : SearchSynonymSyncState)
  | reading (run : ReconcileRun)
  | submitting (run : ReconcileRun) (actualHash : String)
  | verifying (run : ReconcileRun) (actualHash : String) (taskUid : Nat)
      (taskStateIsCurrent : Bool)
  | recording (run : ReconcileRun) (record : SyncRecord)
  | recordLocked (run : ReconcileRun) (record : SyncRecord)
      (loaded : Option SearchSynonymSyncState)
  | recordChecked (run : ReconcileRun) (record : SyncRecord)
      (loaded : Option SearchSynonymSyncState)

def SynonymCall.locks : SynonymCall → List SynonymLock
  | catalogLocked _ catalog | revisionsRead _ catalog _ => [.catalog catalog.id]
  | publishing _ _ catalog _ _ => [.catalog catalog.id, .syncState]
  | flushed catalogId .. | requestingSync catalogId .. => [.catalog catalogId, .syncState]
  | retrying _ | recordLocked _ _ (some _) | recordChecked _ _ (some _) => [.syncState]
  | _ => []

def SynonymCall.needs (call : SynonymCall) (lock : SynonymLock) : Prop := lock ∈ call.locks

def SynonymCall.run : SynonymCall → Option ReconcileRun
  | reading run | submitting run _ | verifying run .. | recording run _ | recordLocked run ..
  | recordChecked run .. => some run
  | _ => none

structure SynonymState where
  tables : SynonymCatalogs := {}
  syncState : Option SearchSynonymSyncState := none
  sessions : Sessions Nat SynonymLock SynonymCall := {}

inductive SynonymLabel where
  | request (callId : Nat) (request : AdminSynonymRequest)
  | lockCatalog (callId : Nat)
  | readRevisions (callId : Nat)
  | commitEdit (callId : Nat)
  | lockSyncState (callId : Nat)
  | flush (callId : Nat) (nextDraftId : Uuid) (now : Time)
  | loadSnapshot (callId : Nat)
  | commitPublication (callId : Nat)
  | requestRetry (callId : Nat)
  | commitRetry (callId : Nat) (now : Time)
  | reconcile (callId : Nat) (attemptedAt now : Time)
  | getSynonyms (callId : Nat) (answer : Except ReconcileException RawSynonyms) (now : Time)
  | submitSynonyms (callId : Nat) (answer : Except ReconcileException Nat) (now : Time)
  | verifySynonyms (callId : Nat) (answer : Except ReconcileException RawSynonyms) (now : Time)
  | lockRecord (callId : Nat)
  | checkRecord (callId : Nat)
  | commitRecord (callId : Nat)
  | failRecord (callId : Nat) (exc : ReconcileException) (now : Time)
  | stop (callId : Nat)

def publishedSnapshots (tables : SynonymCatalogs) : List PublishedSynonymSnapshot :=
  (publishedWithLocale tables.catalogs tables.revisions).map snapshotOf

def publishedIds (tables : SynonymCatalogs) : List Uuid :=
  sortedIds (tables.publishedRows.map (·.id))

section Step

variable (runtime : TextRuntime) (seeds : SearchSynonymLocale → Option Text)

def plannedCall (attemptedAt now : Time) (snapshots : List PublishedSynonymSnapshot) :
    SynonymCall :=
  if snapshots = [] then
    .recording { attemptedAt := attemptedAt, snapshots := snapshots } .noPublishedRevisions
  else
    match combinePublishedSynonymSnapshots runtime snapshots with
    | .error exc =>
      .recording
        { attemptedAt := attemptedAt, snapshots := snapshots
          revisionIds := bestEffortRevisionIds snapshots }
        (.failure none none (safeReconcileError exc) now)
    | .ok (desiredSynonyms, revisionIds) =>
      .reading
        { attemptedAt := attemptedAt, snapshots := snapshots
          desiredSynonyms := desiredSynonyms
          desiredHash := some (hashCanonicalSynonymMap runtime desiredSynonyms)
          revisionIds := revisionIds }

def answeredHash (answer : Except ReconcileException RawSynonyms) :
    Except ReconcileException String :=
  (answer.bind SettingsReconcile.canonicalizeSynonymMap).map (hashCanonicalSynonymMap runtime)

def comparedCall (run : ReconcileRun) (answer : Except ReconcileException RawSynonyms)
    (now : Time) : SynonymCall :=
  match answeredHash runtime answer with
  | .error exc => .recording run (.failure none none (safeReconcileError exc) now)
  | .ok actualHash =>
    if run.desiredHash = some actualHash then .recording run (.success actualHash none false now)
    else .recording run (.syncing actualHash)

def submittedCall (run : ReconcileRun) (actualHash : String)
    (answer : Except ReconcileException Nat) (now : Time) : SynonymCall :=
  match answer with
  | .error exc => .recording run (.failure (some actualHash) none (safeReconcileError exc) now)
  | .ok taskUid => .recording run (.taskUid actualHash taskUid)

def verificationMismatch : ReconcileException :=
  .settingsVerification
    "Meilisearch synonym verification did not match the published snapshot."

def verifiedRecord (run : ReconcileRun) (actualHash : String) (taskUid : Nat)
    (answer : Except ReconcileException RawSynonyms) (now : Time) : SyncRecord :=
  match answeredHash runtime answer with
  | .error exc => .failure (some actualHash) (some taskUid) (safeReconcileError exc) now
  | .ok verifiedHash =>
    if run.desiredHash = some verifiedHash then .success verifiedHash (some taskUid) true now
    else
      .failure (some verifiedHash) (some taskUid) (safeReconcileError verificationMismatch) now

def continuedCall (run : ReconcileRun) (written : Bool) : SyncRecord → Option SynonymCall
  | .syncing actualHash => if written then some (.submitting run actualHash) else none
  | .taskUid actualHash taskUid => some (.verifying run actualHash taskUid written)
  | _ => none

def failedCall (run : ReconcileRun) (record : SyncRecord) (exc : ReconcileException)
    (now : Time) : Option SynonymCall :=
  match record with
  | .taskUid actualHash taskUid =>
    some (.recording run
      (.failure (some actualHash) (some taskUid) (safeReconcileError exc) now))
  | _ => none

namespace SynonymState

variable (s : SynonymState) (callId : Nat)

def put (call : SynonymCall) : SynonymState := { s with sessions := s.sessions.put callId call }

def drop : SynonymState := { s with sessions := s.sessions.drop callId }

def release (next : Option SynonymCall) : SynonymState :=
  { s with
    sessions :=
      match next with
      | none => s.sessions.drop callId
      | some call => s.sessions.release callId call }

def take (lock : SynonymLock) (call : SynonymCall) : Option SynonymState :=
  if s.sessions.locks lock = none then
    some { s with sessions := s.sessions.take lock callId call }
  else none

def takeSyncState (call : SearchSynonymSyncState → SynonymCall) : Option SynonymState :=
  match s.syncState with
  | none => some (s.drop callId)
  | some state => s.take callId .syncState (call state)

def commitEdit (request : AdminSynonymRequest) (edit : DraftEdit)
    (revisions : List SearchSynonymRevision) : SynonymState :=
  match editDraft runtime seeds revisions request edit with
  | .error _ => s.drop callId
  | .ok edited =>
    match s.tables.commit (writeEdited s.tables.revisions edited) with
    | none => s.drop callId
    | some tables => { s.drop callId with tables := tables }

def flush (request : AdminSynonymRequest) (confirmDestructive : Bool)
    (catalog : SearchSynonymCatalog) (revisions : List SearchSynonymRevision)
    (state : SearchSynonymSyncState) (nextDraftId : Uuid) (now : Time) : SynonymState :=
  match publishDraft runtime revisions (otherPublishedMaps s.tables.revisions catalog.id) request
      confirmDestructive nextDraftId now with
  | .error _ => s.drop callId
  | .ok write => s.put callId (.flushed catalog.id write state now)

def loadSnapshot (catalogId : Uuid) (write : PublishedDraft) (state : SearchSynonymSyncState)
    (now : Time) : SynonymState :=
  match loadPublishedSnapshot s.tables.catalogs (writePublished s.tables.revisions write) with
  | .error _ => s.drop callId
  | .ok (desiredMap, desiredRevisionIds) =>
    s.put callId (.requestingSync catalogId write
      (requestedSync state (hashSynonymMap runtime desiredMap).1 desiredRevisionIds now))

def commitPublication (write : PublishedDraft) (state : SearchSynonymSyncState) : SynonymState :=
  match s.tables.commit (writePublished s.tables.revisions write) with
  | none => s.drop callId
  | some tables => { s.drop callId with tables := tables, syncState := some state }

def commitRetry (state : SearchSynonymSyncState) (now : Time) : SynonymState :=
  match retrySync state now with
  | .error _ => s.drop callId
  | .ok next => { s.release callId none with syncState := some next }

def lockRecord (run : ReconcileRun) (record : SyncRecord) : Option SynonymState :=
  match s.syncState with
  | none => some (s.put callId (.recordLocked run record none))
  | some state => s.take callId .syncState (.recordLocked run record (some state))

def checkRecord (run : ReconcileRun) (record : SyncRecord)
    (loaded : Option SearchSynonymSyncState) : Option SynonymState :=
  if publishedIds s.tables = snapshotIds run.snapshots then
    some (s.put callId (.recordChecked run record loaded))
  else if loaded ≠ none then some (s.release callId (continuedCall run false record))
  else if s.syncState = none then
    some { s.release callId (continuedCall run false record) with syncState := some {} }
  else none

def commitRecord (run : ReconcileRun) (record : SyncRecord)
    (loaded : Option SearchSynonymSyncState) : Option SynonymState :=
  if loaded = none ∧ s.syncState ≠ none then none
  else
    some
      { s.release callId (continuedCall run true record) with
        syncState := some (writtenState run loaded record) }

end SynonymState

def synonymStep (s : SynonymState) : SynonymLabel → Option SynonymState
  | .request callId request =>
    if s.sessions.calls callId = none then some (s.put callId (.requested request)) else none
  | .lockCatalog callId =>
    match s.sessions.calls callId with
    | some (.requested request) =>
      match s.tables.catalog request.locale with
      | none => some (s.drop callId)
      | some catalog => s.take callId (.catalog catalog.id) (.catalogLocked request catalog)
    | _ => none
  | .readRevisions callId =>
    match s.sessions.calls callId with
    | some (.catalogLocked request catalog) =>
      some (s.put callId (.revisionsRead request catalog (s.tables.revisionsOf catalog.id)))
    | _ => none
  | .commitEdit callId =>
    match s.sessions.calls callId with
    | some (.revisionsRead request _ revisions) =>
      match request.action with
      | .edit edit => some (s.commitEdit runtime seeds callId request edit revisions)
      | .publish _ => none
    | _ => none
  | .lockSyncState callId =>
    match s.sessions.calls callId with
    | some (.revisionsRead request catalog revisions) =>
      match request.action with
      | .edit _ => none
      | .publish confirmDestructive =>
        s.takeSyncState callId (.publishing request confirmDestructive catalog revisions)
    | some .retryRequested => s.takeSyncState callId .retrying
    | _ => none
  | .flush callId nextDraftId now =>
    match s.sessions.calls callId with
    | some (.publishing request confirmDestructive catalog revisions state) =>
      some (s.flush runtime callId request confirmDestructive catalog revisions state nextDraftId
        now)
    | _ => none
  | .loadSnapshot callId =>
    match s.sessions.calls callId with
    | some (.flushed catalogId write state now) =>
      some (s.loadSnapshot runtime callId catalogId write state now)
    | _ => none
  | .commitPublication callId =>
    match s.sessions.calls callId with
    | some (.requestingSync _ write state) => some (s.commitPublication callId write state)
    | _ => none
  | .requestRetry callId =>
    if s.sessions.calls callId = none then some (s.put callId .retryRequested) else none
  | .commitRetry callId now =>
    match s.sessions.calls callId with
    | some (.retrying state) => some (s.commitRetry callId state now)
    | _ => none
  | .reconcile callId attemptedAt now =>
    if s.sessions.calls callId = none then
      some (s.put callId (plannedCall runtime attemptedAt now (publishedSnapshots s.tables)))
    else none
  | .getSynonyms callId answer now =>
    match s.sessions.calls callId with
    | some (.reading run) => some (s.put callId (comparedCall runtime run answer now))
    | _ => none
  | .submitSynonyms callId answer now =>
    match s.sessions.calls callId with
    | some (.submitting run actualHash) =>
      some (s.put callId (submittedCall run actualHash answer now))
    | _ => none
  | .verifySynonyms callId answer now =>
    match s.sessions.calls callId with
    | some (.verifying run actualHash taskUid taskStateIsCurrent) =>
      if taskStateIsCurrent then
        some (s.put callId
          (.recording run (verifiedRecord runtime run actualHash taskUid answer now)))
      else some (s.drop callId)
    | _ => none
  | .lockRecord callId =>
    match s.sessions.calls callId with
    | some (.recording run record) => s.lockRecord callId run record
    | _ => none
  | .checkRecord callId =>
    match s.sessions.calls callId with
    | some (.recordLocked run record loaded) => s.checkRecord callId run record loaded
    | _ => none
  | .commitRecord callId =>
    match s.sessions.calls callId with
    | some (.recordChecked run record loaded) => s.commitRecord callId run record loaded
    | _ => none
  | .failRecord callId exc now =>
    match s.sessions.calls callId with
    | some (.recording run record) | some (.recordLocked run record _)
    | some (.recordChecked run record _) => some (s.release callId (failedCall run record exc now))
    | _ => none
  | .stop callId => some (s.drop callId)

end Step

def Superseded (tables : SynonymCatalogs) (run : ReconcileRun) : Prop :=
  ∃ row ∈ tables.publishedRows, row.id ∉ run.snapshots.map (·.revisionId)

def SynonymCall.succeeds : SynonymCall → Option String
  | recording _ (.success hash ..) | recordLocked _ (.success hash ..) _
  | recordChecked _ (.success hash ..) _ => some hash
  | _ => none

section Right

variable (runtime : TextRuntime) (tables : SynonymCatalogs)
  (syncState : Option SearchSynonymSyncState)

/-- A superseded run stays superseded: what it read are drafts no more, and only a draft
is published. -/
structure RunRight (run : ReconcileRun) : Prop where
  read : ∀ snapshot ∈ run.snapshots,
    ∃ row ∈ tables.revisions, row.id = snapshot.revisionId ∧ row.status ≠ .draft
  current : run.snapshots = publishedSnapshots tables ∨ Superseded tables run
  desired : ∀ hash, run.desiredHash = some hash → ∃ combined,
    combinePublishedSynonymSnapshots runtime run.snapshots = .ok (combined, run.revisionIds) ∧
      hash = hashCanonicalSynonymMap runtime combined

def RecordRight (run : ReconcileRun) : SyncRecord → Prop
  | .success actualHash .. => run.desiredHash = some actualHash
  | _ => True

def IsPublication (catalogId : Uuid) (write : PublishedDraft) : Prop :=
  ∃ request confirmDestructive nextDraftId now,
    publishDraft runtime (tables.revisionsOf catalogId)
      (otherPublishedMaps tables.revisions catalogId) request confirmDestructive nextDraftId now =
        .ok write

def CallRight : SynonymCall → Prop
  | .requested _ | .catalogLocked _ _ | .retryRequested => True
  | .revisionsRead _ catalog revisions => revisions = tables.revisionsOf catalog.id
  | .publishing _ _ catalog revisions state =>
    revisions = tables.revisionsOf catalog.id ∧ syncState = some state
  | .flushed catalogId write state _ =>
    IsPublication runtime tables catalogId write ∧ syncState = some state
  | .requestingSync catalogId write state =>
    IsPublication runtime tables catalogId write ∧ syncState ≠ none ∧ state.status ≠ .synced
  | .retrying state => syncState = some state
  | .reading run | .submitting run _ | .verifying run .. => RunRight runtime tables run
  | .recording run record => RunRight runtime tables run ∧ RecordRight run record
  | .recordLocked run record loaded =>
    RunRight runtime tables run ∧ RecordRight run record ∧ (loaded ≠ none → syncState = loaded)
  | .recordChecked run record loaded =>
    RunRight runtime tables run ∧ RecordRight run record ∧ (loaded ≠ none → syncState = loaded) ∧
      (syncState = loaded → run.snapshots = publishedSnapshots tables)

structure SyncedRight (state : SearchSynonymSyncState) : Prop where
  combined : ∃ combined,
    combinePublishedSynonymSnapshots runtime (publishedSnapshots tables) =
        .ok (combined, state.appliedRevisionIds) ∧
      state.appliedHash = some (hashCanonicalSynonymMap runtime combined)
  desired : state.desiredHash = state.appliedHash
  actual : state.actualHash = state.appliedHash
  revisionIds : state.desiredRevisionIds = state.appliedRevisionIds

end Right

structure LedgerRight (runtime : TextRuntime) (s : SynonymState) : Prop where
  keys_apart : KeysApart s.tables.revisions
  synced : ∀ state, s.syncState = some state → state.status = .synced →
    SyncedRight runtime s.tables state
  calls : s.sessions.Sound SynonymCall.needs fun _ => CallRight runtime s.tables s.syncState

section Transport

variable {runtime : TextRuntime} {tables next : SynonymCatalogs} {catalogId : Uuid}
  {edited draft : SearchSynonymRevision} {write : PublishedDraft} {run : ReconcileRun}
  {syncState : Option SearchSynonymSyncState} {call : SynonymCall}

theorem ids_of_publishedSnapshots {row : SearchSynonymRevision} (h : row ∈ tables.publishedRows) :
    row.id ∈ (publishedSnapshots tables).map (·.revisionId) := by
  obtain ⟨hrow, hpublished⟩ := SynonymCatalogs.mem_publishedRows.mp h
  obtain ⟨catalog, hcatalog, hid⟩ := List.mem_map.mp (tables.constraints.revisions_catalog row hrow)
  rw [publishedSnapshots, List.map_map]
  exact List.mem_map.mpr
    ⟨(row, catalog.locale), mem_publishedWithLocale.mpr ⟨hrow, hpublished, catalog, hcatalog, hid,
      rfl⟩, rfl⟩

theorem mem_ids_of_publishedSnapshots {id : Uuid}
    (h : id ∈ (publishedSnapshots tables).map (·.revisionId)) :
    ∃ row ∈ tables.publishedRows, row.id = id := by
  rw [publishedSnapshots, List.map_map] at h
  obtain ⟨⟨row, locale⟩, hrow, rfl⟩ := List.mem_map.mp h
  obtain ⟨hmem, hpublished, -⟩ := mem_publishedWithLocale.mp hrow
  exact ⟨row, SynonymCatalogs.mem_publishedRows.mpr ⟨hmem, hpublished⟩, rfl⟩

theorem not_superseded_of_current (h : run.snapshots = publishedSnapshots tables) :
    ¬ Superseded tables run := by
  rintro ⟨row, hrow, hunread⟩
  rw [h] at hunread
  exact hunread (ids_of_publishedSnapshots hrow)

theorem RunRight.current_of_ids (h : RunRight runtime tables run)
    (hids : publishedIds tables = snapshotIds run.snapshots) :
    run.snapshots = publishedSnapshots tables := by
  refine h.current.resolve_right ?_
  rintro ⟨row, hrow, hunread⟩
  have hmem : row.id ∈ publishedIds tables :=
    (List.mem_insertionSort _).mpr (List.mem_map_of_mem hrow)
  rw [hids] at hmem
  exact hunread ((List.mem_insertionSort _).mp hmem)

theorem CallRight.transport {nextState : Option SearchSynonymSyncState}
    (h : CallRight runtime tables syncState call)
    (hrun : ∀ run, RunRight runtime tables run → RunRight runtime next run)
    (hrows : ∀ id, call.needs (.catalog id) → next.revisionsOf id = tables.revisionsOf id)
    (hmaps : ∀ id, call.needs .syncState →
      otherPublishedMaps next.revisions id = otherPublishedMaps tables.revisions id)
    (hstate : call.needs .syncState ∨ nextState = none →
      nextState = syncState ∧ publishedSnapshots next = publishedSnapshots tables) :
    CallRight runtime next nextState call := by
  have hpublication : ∀ id write, call.needs (.catalog id) → call.needs .syncState →
      IsPublication runtime tables id write → IsPublication runtime next id write := by
    intro id write hcatalog hsync hpublication
    rwa [IsPublication, hmaps id hsync, hrows id hcatalog]
  cases call with
  | requested | catalogLocked | retryRequested => trivial
  | revisionsRead request catalog revisions =>
    exact h.trans (hrows _ (by simp [SynonymCall.needs, SynonymCall.locks])).symm
  | publishing request confirmDestructive catalog revisions state =>
    obtain ⟨hrevisions, hloaded⟩ := h
    have hsync := hstate (.inl (by simp [SynonymCall.needs, SynonymCall.locks]))
    exact ⟨hrevisions.trans (hrows _ (by simp [SynonymCall.needs, SynonymCall.locks])).symm,
      hsync.1.trans hloaded⟩
  | flushed id write state now =>
    obtain ⟨hwrite, hloaded⟩ := h
    have hneeds : (SynonymCall.flushed id write state now).needs .syncState := by
      simp [SynonymCall.needs, SynonymCall.locks]
    exact ⟨hpublication id write (by simp [SynonymCall.needs, SynonymCall.locks]) hneeds hwrite,
      (hstate (.inl hneeds)).1.trans hloaded⟩
  | requestingSync id write state =>
    obtain ⟨hwrite, hloaded, hstatus⟩ := h
    have hneeds : (SynonymCall.requestingSync id write state).needs .syncState := by
      simp [SynonymCall.needs, SynonymCall.locks]
    exact ⟨hpublication id write (by simp [SynonymCall.needs, SynonymCall.locks]) hneeds hwrite,
      (hstate (.inl hneeds)).1.trans_ne hloaded, hstatus⟩
  | retrying state =>
    exact (hstate (.inl (by simp [SynonymCall.needs, SynonymCall.locks]))).1.trans h
  | reading run | submitting run | verifying run => exact hrun run h
  | recording run record => exact ⟨hrun run h.1, h.2⟩
  | recordLocked run record loaded =>
    obtain ⟨hright, hrecord, hloaded⟩ := h
    refine ⟨hrun run hright, hrecord, fun hsome => ?_⟩
    obtain ⟨state, rfl⟩ := Option.ne_none_iff_exists'.mp hsome
    exact (hstate (.inl (by simp [SynonymCall.needs, SynonymCall.locks]))).1.trans (hloaded hsome)
  | recordChecked run record loaded =>
    obtain ⟨hright, hrecord, hloaded, hcurrent⟩ := h
    have hneeds : ∀ state, loaded = some state →
        (SynonymCall.recordChecked run record loaded).needs .syncState := by
      rintro state rfl
      simp [SynonymCall.needs, SynonymCall.locks]
    refine ⟨hrun run hright, hrecord, fun hsome => ?_, fun heq => ?_⟩
    · obtain ⟨state, hstateEq⟩ := Option.ne_none_iff_exists'.mp hsome
      exact (hstate (.inl (hneeds state hstateEq))).1.trans (hloaded hsome)
    have hsame : (SynonymCall.recordChecked run record loaded).needs .syncState ∨
        nextState = none := by
      cases loaded with
      | none => exact .inr heq
      | some state => exact .inl (hneeds state rfl)
    obtain ⟨hsync, hsnapshots⟩ := hstate hsame
    exact (hcurrent (hsync.symm.trans heq)).trans hsnapshots.symm

theorem edited_tables (h : tables.commit (writeEdited tables.revisions edited) = some next) :
    next.catalogs = tables.catalogs ∧ next.revisions = writeEdited tables.revisions edited :=
  SynonymCatalogs.commit_eq_some.mp h

section Edits

variable (hedit : EditsDraft tables catalogId edited draft)
  (hcommit : tables.commit (writeEdited tables.revisions edited) = some next)

include hedit hcommit

theorem publishedRows_of_edit : next.publishedRows = tables.publishedRows := by
  rw [SynonymCatalogs.publishedRows, (edited_tables hcommit).2]
  exact filter_writeEdited hedit (by simp [hedit.status]) (by simp [hedit.edited_status])

theorem publishedSnapshots_of_edit : publishedSnapshots next = publishedSnapshots tables := by
  obtain ⟨hcatalogs, hrows⟩ := edited_tables hcommit
  have hfilter : ∀ id,
      (writeEdited tables.revisions edited).filter
          (fun row => row.status = .published && row.catalogId = id) =
        tables.revisions.filter fun row => row.status = .published && row.catalogId = id :=
    fun id => filter_writeEdited hedit (by simp [hedit.status]) (by simp [hedit.edited_status])
  simp only [publishedSnapshots, publishedWithLocale, hcatalogs, hrows, hfilter]

theorem runRight_of_edit (h : RunRight runtime tables run) : RunRight runtime next run where
  read snapshot hsnapshot := by
    obtain ⟨row, hrow, hid, hstatus⟩ := h.read snapshot hsnapshot
    have hkept := rowKept_edited hedit hrow
    refine ⟨_, ?_, hkept.id.trans hid, (hkept.settled hstatus).1⟩
    rw [(edited_tables hcommit).2]
    exact List.mem_map_of_mem hrow
  current := by
    rw [publishedSnapshots_of_edit hedit hcommit, Superseded, publishedRows_of_edit hedit hcommit]
    exact h.current
  desired := h.desired

theorem callRight_of_edit
    (hfree : ¬ call.needs (.catalog catalogId)) (h : CallRight runtime tables syncState call) :
    CallRight runtime next syncState call := by
  refine h.transport (fun run => runRight_of_edit hedit hcommit) ?_ ?_ ?_
  · intro id hneeds
    have hid : id ≠ catalogId := fun heq => hfree (heq ▸ hneeds)
    rw [SynonymCatalogs.revisionsOf, (edited_tables hcommit).2,
      filter_writeEdited hedit (by simp [hedit.catalog, hid.symm])
        (by simp [hedit.edited_catalog, hid.symm])]
    rfl
  · intro id _
    rw [otherPublishedMaps, (edited_tables hcommit).2,
      filter_writeEdited hedit (by simp [hedit.status]) (by simp [hedit.edited_status])]
    rfl
  · intro _
    exact ⟨rfl, publishedSnapshots_of_edit hedit hcommit⟩

end Edits

theorem published_tables (h : tables.commit (writePublished tables.revisions write) = some next) :
    next.catalogs = tables.catalogs ∧ next.revisions = writePublished tables.revisions write :=
  SynonymCatalogs.commit_eq_some.mp h

theorem superseded_of_publication (hwrite : PublishesDraft tables catalogId write draft)
    (hcommit : tables.commit (writePublished tables.revisions write) = some next)
    (hread : ∀ snapshot ∈ run.snapshots,
      ∃ row ∈ tables.revisions, row.id = snapshot.revisionId ∧ row.status ≠ .draft) :
    Superseded next run := by
  refine ⟨write.published, ?_, ?_⟩
  · rw [SynonymCatalogs.mem_publishedRows, (published_tables hcommit).2, writePublished,
      List.mem_append]
    refine ⟨.inl (List.mem_map.mpr ⟨draft, hwrite.mem, ?_⟩), hwrite.published_status⟩
    rw [PublishedDraft.update, if_pos hwrite.published_id.symm]
  intro hmem
  obtain ⟨snapshot, hsnapshot, hid⟩ := List.mem_map.mp hmem
  obtain ⟨row, hrow, hrowId, hstatus⟩ := hread snapshot hsnapshot
  cases eq_of_revision_id hrow hwrite.mem ((hrowId.trans hid).trans hwrite.published_id)
  exact hstatus hwrite.status

theorem runRight_of_publication (hwrite : PublishesDraft tables catalogId write draft)
    (hcommit : tables.commit (writePublished tables.revisions write) = some next)
    (h : RunRight runtime tables run) : RunRight runtime next run where
  read snapshot hsnapshot := by
    obtain ⟨row, hrow, hid, hstatus⟩ := h.read snapshot hsnapshot
    have hkept := rowKept_update hwrite hrow
    refine ⟨_, ?_, hkept.id.trans hid, (hkept.settled hstatus).1⟩
    rw [(published_tables hcommit).2]
    exact List.mem_append_left _ (List.mem_map_of_mem hrow)
  current := .inr (superseded_of_publication hwrite hcommit h.read)
  desired := h.desired

variable {state : SearchSynonymSyncState}

theorem callRight_of_publication (hwrite : PublishesDraft tables catalogId write draft)
    (hcommit : tables.commit (writePublished tables.revisions write) = some next)
    (hcatalog : ¬ call.needs (.catalog catalogId)) (hsync : ¬ call.needs .syncState)
    (h : CallRight runtime tables syncState call) :
    CallRight runtime next (some state) call := by
  refine h.transport (fun run => runRight_of_publication hwrite hcommit) ?_ ?_ ?_
  · intro id hneeds
    have hid : id ≠ catalogId := fun heq => hcatalog (heq ▸ hneeds)
    rw [SynonymCatalogs.revisionsOf, (published_tables hcommit).2,
      filter_writePublished hwrite fun row hrow => by simp [hrow, hid.symm]]
    rfl
  · intro id hneeds
    exact (hsync hneeds).elim
  · rintro (hneeds | hnone)
    · exact (hsync hneeds).elim
    · cases hnone

theorem callRight_of_syncState
    (hsync : ¬ call.needs .syncState) (h : CallRight runtime tables syncState call) :
    CallRight runtime tables (some state) call := by
  refine h.transport (fun _ hrun => hrun) (fun _ _ => rfl) (fun _ _ => rfl) ?_
  rintro (hneeds | hnone)
  · exact (hsync hneeds).elim
  · cases hnone

end Transport

section Outcome

variable (runtime : TextRuntime) (s : SynonymState)

def IsLoad (callId : Nat) : SynonymLabel → Prop
  | .reconcile id _ _ => id = callId
  | _ => False

def IsAnswer (callId : Nat) (hash : String) : SynonymLabel → Prop
  | .getSynonyms id answer _ | .verifySynonyms id answer _ =>
    id = callId ∧ answeredHash runtime answer = .ok hash
  | _ => False

def IsCommit (callId : Nat) : SynonymLabel → Prop
  | .commitRecord id => id = callId
  | _ => False

def ContinuesRun (label : SynonymLabel) (callId : Nat) (call : SynonymCall) : Prop :=
  ∀ run, call.run = some run →
    IsLoad callId label ∧ call.succeeds = none ∨
      ∃ old, s.sessions.calls callId = some old ∧ old.run = some run ∧
        ∀ hash, call.succeeds = some hash →
          old.succeeds = some hash ∨ IsAnswer runtime callId hash label

structure FreeCall (label : SynonymLabel) (callId : Nat) (call : SynonymCall) : Prop where
  needs : ∀ lock, ¬ call.needs lock
  right : CallRight runtime s.tables s.syncState call
  run : ContinuesRun runtime s label callId call

def WritesSynced (label : SynonymLabel) (callId : Nat) (state : SearchSynonymSyncState) : Prop :=
  state.status = .synced →
    (∃ old, s.syncState = some old ∧ old.status = .synced ∧ old.desiredHash = state.desiredHash) ∨
      ∃ call run hash, s.sessions.calls callId = some call ∧ call.run = some run ∧
        call.succeeds = some hash ∧ state.desiredHash = some hash ∧ IsCommit callId label ∧
        run.snapshots = publishedSnapshots s.tables

inductive SynonymOutcome : SynonymLabel → SynonymState → Prop where
  | dropped (label : SynonymLabel) (callId : Nat) : SynonymOutcome label (s.drop callId)
  | moved {label : SynonymLabel} {callId : Nat} {call : SynonymCall}
      (hneeds : ∀ lock, call.needs lock → s.sessions.locks lock = some callId)
      (hright : CallRight runtime s.tables s.syncState call)
      (hrun : ContinuesRun runtime s label callId call) :
      SynonymOutcome label (s.put callId call)
  | took {label : SynonymLabel} {callId : Nat} {lock : SynonymLock} {call : SynonymCall}
      (hfree : s.sessions.locks lock = none)
      (hneeds : ∀ other, call.needs other → other = lock ∨ s.sessions.locks other = some callId)
      (hright : CallRight runtime s.tables s.syncState call)
      (hrun : ContinuesRun runtime s label callId call) :
      SynonymOutcome label { s with sessions := s.sessions.take lock callId call }
  | released {label : SynonymLabel} {callId : Nat} {next : Option SynonymCall}
      (hnext : ∀ call, next = some call → FreeCall runtime s label callId call) :
      SynonymOutcome label (s.release callId next)
  | edited {label : SynonymLabel} {callId : Nat} {catalogId : Uuid}
      {edited draft : SearchSynonymRevision} {tables : SynonymCatalogs}
      (hlock : s.sessions.locks (.catalog catalogId) = some callId)
      (hedit : EditsDraft s.tables catalogId edited draft)
      (hcommit : s.tables.commit (writeEdited s.tables.revisions edited) = some tables) :
      SynonymOutcome label { s.drop callId with tables := tables }
  | published {label : SynonymLabel} {callId : Nat} {catalogId : Uuid} {write : PublishedDraft}
      {draft : SearchSynonymRevision} {state : SearchSynonymSyncState} {tables : SynonymCatalogs}
      (hlock : s.sessions.locks (.catalog catalogId) = some callId)
      (hsync : s.sessions.locks .syncState = some callId)
      (hwrite : PublishesDraft s.tables catalogId write draft)
      (hcommit : s.tables.commit (writePublished s.tables.revisions write) = some tables)
      (hstatus : state.status ≠ .synced) :
      SynonymOutcome label { s.drop callId with tables := tables, syncState := some state }
  | wrote {label : SynonymLabel} {callId : Nat} {next : Option SynonymCall}
      {state : SearchSynonymSyncState}
      (hsync : s.syncState = none ∨ s.sessions.locks .syncState = some callId)
      (hnext : ∀ call, next = some call → FreeCall runtime s label callId call)
      (hright : state.status = .synced → SyncedRight runtime s.tables state)
      (hsynced : WritesSynced s label callId state) :
      SynonymOutcome label { s.release callId next with syncState := some state }

end Outcome

section Kept

variable {runtime : TextRuntime} {seeds : SearchSynonymLocale → Option Text} {s t : SynonymState}
  {label : SynonymLabel} {callId : Nat}

theorem LedgerRight.syncState_of_needs {call : SynonymCall} (hs : LedgerRight runtime s)
    (hcall : s.sessions.calls callId = some call) (hneeds : call.needs .syncState) :
    s.syncState ≠ none := by
  have hright := hs.calls.right callId call hcall
  cases call with
  | publishing => exact fun hnone => by cases hright.2.symm.trans hnone
  | flushed => exact fun hnone => by cases hright.2.symm.trans hnone
  | requestingSync => exact hright.2.1
  | retrying => exact fun hnone => by cases hright.symm.trans hnone
  | recordLocked run record loaded | recordChecked run record loaded =>
    cases loaded with
    | none => simp [SynonymCall.needs, SynonymCall.locks] at hneeds
    | some state =>
      have hloaded := hright.2.2
      first
        | exact fun hnone => by cases (hloaded nofun).symm.trans hnone
        | exact fun hnone => by cases (hloaded.1 nofun).symm.trans hnone
  | _ => simp [SynonymCall.needs, SynonymCall.locks] at hneeds

theorem ledgerRight_release (hs : LedgerRight runtime s) {next : Option SynonymCall}
    {syncState : Option SearchSynonymSyncState}
    (hnext : ∀ call, next = some call → (∀ lock, ¬ call.needs lock) ∧
      CallRight runtime s.tables syncState call)
    (hothers : ∀ other found, other ≠ callId → s.sessions.calls other = some found →
      CallRight runtime s.tables s.syncState found → CallRight runtime s.tables syncState found)
    (hsynced : ∀ state, syncState = some state → state.status = .synced →
      SyncedRight runtime s.tables state) :
    LedgerRight runtime { s.release callId next with syncState := syncState } := by
  cases next with
  | none => exact ⟨hs.keys_apart, hsynced, hs.calls.drop hothers⟩
  | some call =>
    obtain ⟨hneeds, hright⟩ := hnext call rfl
    exact ⟨hs.keys_apart, hsynced, hs.calls.release hneeds hright hothers⟩

theorem ledgerRight_of_outcome (hs : LedgerRight runtime s) (h : SynonymOutcome runtime s label t) :
    LedgerRight runtime t := by
  cases h with
  | dropped callId => exact ⟨hs.keys_apart, hs.synced, hs.calls.drop fun _ _ _ _ hright => hright⟩
  | moved hneeds hright => exact ⟨hs.keys_apart, hs.synced, hs.calls.put hneeds hright⟩
  | took hfree hneeds hright => exact ⟨hs.keys_apart, hs.synced, hs.calls.take hfree hneeds hright⟩
  | released hnext =>
    exact ledgerRight_release hs (fun call heq => ⟨(hnext call heq).needs, (hnext call heq).right⟩)
      (fun _ _ _ _ hright => hright) hs.synced
  | edited hlock hedit hcommit =>
    refine ⟨?_, ?_, ?_⟩
    · dsimp only
      rw [(edited_tables hcommit).2]
      exact keysApart_writeEdited hs.keys_apart hedit
    · intro state hstate hstatus
      obtain ⟨hcombined, hdesired, hactual, hids⟩ := hs.synced state hstate hstatus
      exact ⟨by rwa [publishedSnapshots_of_edit hedit hcommit], hdesired, hactual, hids⟩
    refine hs.calls.drop fun other found hne hfound hright => ?_
    refine callRight_of_edit hedit hcommit (fun hneeds => hne ?_) hright
    have hheld := hs.calls.held other found _ hfound hneeds
    rw [hlock] at hheld
    exact (Option.some.inj hheld).symm
  | published hlock hsync hwrite hcommit hstatus =>
    refine ⟨?_, ?_, ?_⟩
    · dsimp only
      rw [(published_tables hcommit).2]
      exact keysApart_writePublished hs.keys_apart hwrite
    · intro state hstate hsynced
      cases hstate
      exact (hstatus hsynced).elim
    refine hs.calls.drop fun other found hne hfound hright => ?_
    refine callRight_of_publication hwrite hcommit (fun hneeds => hne ?_)
      (fun hneeds => hne ?_) hright
    · have hheld := hs.calls.held other found _ hfound hneeds
      rw [hlock] at hheld
      exact (Option.some.inj hheld).symm
    · have hheld := hs.calls.held other found _ hfound hneeds
      rw [hsync] at hheld
      exact (Option.some.inj hheld).symm
  | wrote hsync hnext hright =>
    refine ledgerRight_release hs ?_ ?_ ?_
    · intro call heq
      obtain ⟨hneeds, hcall, -⟩ := hnext call heq
      exact ⟨hneeds, callRight_of_syncState (hneeds _) hcall⟩
    · intro other found hne hfound hcall
      refine callRight_of_syncState (fun hneeds => ?_) hcall
      obtain hnone | hlock := hsync
      · exact hs.syncState_of_needs hfound hneeds hnone
      have hheld := hs.calls.held other found _ hfound hneeds
      rw [hlock] at hheld
      exact hne (Option.some.inj hheld).symm
    · rintro _ ⟨⟩ hstatus
      exact hright hstatus

variable {call old : SynonymCall} {run : ReconcileRun} {record : SyncRecord}

theorem continuesRun_of_none (h : call.run = none) : ContinuesRun runtime s label callId call := by
  intro run hrun
  cases h.symm.trans hrun

theorem continuesRun_of_old (hold : s.sessions.calls callId = some old)
    (hrun : ∀ run, call.run = some run → old.run = some run)
    (hsucceeds : ∀ hash, call.succeeds = some hash →
      old.succeeds = some hash ∨ IsAnswer runtime callId hash label) :
    ContinuesRun runtime s label callId call :=
  fun run hcall => .inr ⟨old, hold, hrun run hcall, hsucceeds⟩

theorem runRight_read {tables : SynonymCatalogs} {run : ReconcileRun}
    (hread : run.snapshots = publishedSnapshots tables)
    (hdesired : ∀ hash, run.desiredHash = some hash → ∃ combined,
      combinePublishedSynonymSnapshots runtime run.snapshots = .ok (combined, run.revisionIds) ∧
        hash = hashCanonicalSynonymMap runtime combined) : RunRight runtime tables run where
  read snapshot hsnapshot := by
    rw [hread] at hsnapshot
    obtain ⟨row, hrow, hid⟩ := mem_ids_of_publishedSnapshots (List.mem_map_of_mem hsnapshot)
    obtain ⟨hmem, hpublished⟩ := SynonymCatalogs.mem_publishedRows.mp hrow
    exact ⟨row, hmem, hid, fun hdraft => by cases hpublished.symm.trans hdraft⟩
  current := .inl hread
  desired := hdesired

variable {now : Time}

theorem freeCall_planned {attemptedAt : Time} :
    FreeCall runtime s (.reconcile callId attemptedAt now) callId
      (plannedCall runtime attemptedAt now (publishedSnapshots s.tables)) := by
  have hload : IsLoad callId (.reconcile callId attemptedAt now) := rfl
  unfold plannedCall
  split
  · exact ⟨nofun, ⟨runRight_read rfl nofun, trivial⟩, fun _ _ => .inl ⟨hload, rfl⟩⟩
  split
  · exact ⟨nofun, ⟨runRight_read rfl nofun, trivial⟩, fun _ _ => .inl ⟨hload, rfl⟩⟩
  next combined revisionIds hcombined =>
  refine ⟨nofun, runRight_read rfl ?_, fun _ _ => .inl ⟨hload, rfl⟩⟩
  rintro _ ⟨⟩
  exact ⟨combined, hcombined, rfl⟩

theorem freeCall_compared {answer : Except ReconcileException RawSynonyms}
    (hcall : s.sessions.calls callId = some (.reading run))
    (hrun : RunRight runtime s.tables run) :
    FreeCall runtime s (.getSynonyms callId answer now) callId
      (comparedCall runtime run answer now) := by
  unfold comparedCall
  split
  · exact ⟨nofun, ⟨hrun, trivial⟩, continuesRun_of_old hcall (fun _ h => h) nofun⟩
  next actualHash hanswer =>
  split
  · next hdesired =>
    refine ⟨nofun, ⟨hrun, hdesired⟩, continuesRun_of_old hcall (fun _ h => h) ?_⟩
    rintro _ ⟨⟩
    exact .inr ⟨rfl, hanswer⟩
  · exact ⟨nofun, ⟨hrun, trivial⟩, continuesRun_of_old hcall (fun _ h => h) nofun⟩

variable {actualHash : String}

theorem freeCall_submitted {answer : Except ReconcileException Nat}
    (hcall : s.sessions.calls callId = some (.submitting run actualHash))
    (hrun : RunRight runtime s.tables run) :
    FreeCall runtime s label callId (submittedCall run actualHash answer now) := by
  unfold submittedCall
  split
  · exact ⟨nofun, ⟨hrun, trivial⟩, continuesRun_of_old hcall (fun _ h => h) nofun⟩
  · exact ⟨nofun, ⟨hrun, trivial⟩, continuesRun_of_old hcall (fun _ h => h) nofun⟩

theorem freeCall_verified {taskUid : Nat} {current : Bool}
    {answer : Except ReconcileException RawSynonyms}
    (hcall : s.sessions.calls callId = some (.verifying run actualHash taskUid current))
    (hrun : RunRight runtime s.tables run) :
    FreeCall runtime s (.verifySynonyms callId answer now) callId
      (.recording run (verifiedRecord runtime run actualHash taskUid answer now)) := by
  unfold verifiedRecord
  split
  · exact ⟨nofun, ⟨hrun, trivial⟩, continuesRun_of_old hcall (fun _ h => h) nofun⟩
  next verifiedHash hanswer =>
  split
  · next hdesired =>
    refine ⟨nofun, ⟨hrun, hdesired⟩, continuesRun_of_old hcall (fun _ h => h) ?_⟩
    rintro _ ⟨⟩
    exact .inr ⟨rfl, hanswer⟩
  · exact ⟨nofun, ⟨hrun, trivial⟩, continuesRun_of_old hcall (fun _ h => h) nofun⟩

theorem freeCall_continued {written : Bool} (hcall : s.sessions.calls callId = some old)
    (hold : old.run = some run) (hrun : RunRight runtime s.tables run)
    (h : continuedCall run written record = some call) :
    FreeCall runtime s label callId call := by
  unfold continuedCall at h
  split at h
  · split at h
    · cases h
      exact ⟨nofun, hrun, continuesRun_of_old hcall (fun _ h => h ▸ hold) nofun⟩
    · cases h
  · cases h
    exact ⟨nofun, hrun, continuesRun_of_old hcall (fun _ h => h ▸ hold) nofun⟩
  · cases h

theorem freeCall_failed {exc : ReconcileException}
    (hcall : s.sessions.calls callId = some old) (hold : old.run = some run)
    (hrun : RunRight runtime s.tables run) (h : failedCall run record exc now = some call) :
    FreeCall runtime s label callId call := by
  unfold failedCall at h
  split at h
  · cases h
    exact ⟨nofun, ⟨hrun, trivial⟩, continuesRun_of_old hcall (fun _ h => h ▸ hold) nofun⟩
  · cases h

theorem FreeCall.outcome (h : FreeCall runtime s label callId call) :
    SynonymOutcome runtime s label (s.put callId call) :=
  .moved (fun lock hneeds => (h.needs lock hneeds).elim) h.right h.run

variable {loaded : Option SearchSynonymSyncState}

theorem synced_writtenState (h : (writtenState run loaded record).status = .synced) :
    (∃ actualHash taskUid applied succeededAt,
      record = .success actualHash taskUid applied succeededAt) ∨
    ∃ actualHash taskUid state, record = .taskUid actualHash taskUid ∧ loaded = some state ∧
      state.status = .synced := by
  have hrecorded : ∀ state, (recordedState run state record).status = .synced →
      (∃ actualHash taskUid applied succeededAt,
        record = .success actualHash taskUid applied succeededAt) ∨
      ∃ actualHash taskUid, record = .taskUid actualHash taskUid ∧ state.status = .synced := by
    intro state hstate
    cases record with
    | noPublishedRevisions =>
      simp only [recordedState, noPublishedState] at hstate
      split at hstate
      · cases hstate
      · cases hstate
    | syncing => cases hstate
    | taskUid actualHash taskUid => exact .inr ⟨actualHash, taskUid, rfl, hstate⟩
    | success actualHash taskUid applied succeededAt =>
      exact .inl ⟨actualHash, taskUid, applied, succeededAt, rfl⟩
    | failure => cases hstate
  cases loaded with
  | none =>
    obtain hsuccess | ⟨_, _, -, hidle⟩ := hrecorded {} h
    · exact .inl hsuccess
    · cases hidle
  | some state =>
    obtain hsuccess | ⟨actualHash, taskUid, hrecord, hstatus⟩ := hrecorded state h
    · exact .inl hsuccess
    · exact .inr ⟨actualHash, taskUid, state, hrecord, rfl, hstatus⟩

theorem syncedRight_success
    {taskUid : Option Nat} {applied : Bool} {succeededAt : Time} {tables : SynonymCatalogs}
    (hrun : RunRight runtime tables run) (hhash : run.desiredHash = some actualHash)
    (hread : run.snapshots = publishedSnapshots tables) :
    SyncedRight runtime tables
      (writtenState run loaded (.success actualHash taskUid applied succeededAt)) := by
  obtain ⟨combined, hcombined, rfl⟩ := hrun.desired actualHash hhash
  rw [hread] at hcombined
  cases loaded with
  | none => exact ⟨⟨combined, hcombined, hhash⟩, rfl, hhash.symm, rfl⟩
  | some state => exact ⟨⟨combined, hcombined, hhash⟩, rfl, hhash.symm, rfl⟩

variable {state : SearchSynonymSyncState}

theorem syncedRight_taskUid
    {taskUid : Nat} {tables : SynonymCatalogs} (h : SyncedRight runtime tables state) :
    SyncedRight runtime tables (writtenState run (some state) (.taskUid actualHash taskUid)) :=
  ⟨h.combined, h.desired, h.actual, h.revisionIds⟩

theorem outcome_commitRecord (hs : LedgerRight runtime s)
    (hcall : s.sessions.calls callId = some (.recordChecked run record loaded))
    (h : s.commitRecord callId run record loaded = some t) :
    SynonymOutcome runtime s (.commitRecord callId) t := by
  obtain ⟨hrun, hrecord, hloaded, hread⟩ := hs.calls.right callId _ hcall
  unfold SynonymState.commitRecord at h
  split at h
  · cases h
  next hconflict =>
  cases h
  have hsame : s.syncState = loaded := by
    cases loaded with
    | none => exact not_not.mp fun hne => hconflict ⟨rfl, hne⟩
    | some state => exact hloaded nofun
  refine .wrote ?_ (fun call heq => freeCall_continued hcall rfl hrun heq) ?_ ?_
  · cases loaded with
    | none => exact .inl hsame
    | some state =>
      exact .inr (hs.calls.held callId _ _ hcall (by simp [SynonymCall.needs, SynonymCall.locks]))
  · intro hsynced
    obtain ⟨actualHash, taskUid, applied, succeededAt, rfl⟩ | ⟨actualHash, taskUid, state, rfl,
      rfl, hstatus⟩ := synced_writtenState hsynced
    · exact syncedRight_success hrun hrecord (hread hsame)
    · exact syncedRight_taskUid (hs.synced state hsame hstatus)
  intro hsynced
  obtain ⟨actualHash, taskUid, applied, succeededAt, rfl⟩ | ⟨actualHash, taskUid, state, rfl,
    rfl, hstatus⟩ := synced_writtenState hsynced
  · refine .inr ⟨_, run, actualHash, hcall, rfl, rfl, ?_, rfl, hread hsame⟩
    cases loaded with
    | none => exact hrecord
    | some state => exact hrecord
  · exact .inl ⟨state, hsame, hstatus, rfl⟩

theorem outcome_checkRecord (hs : LedgerRight runtime s)
    (hcall : s.sessions.calls callId = some (.recordLocked run record loaded))
    (h : s.checkRecord callId run record loaded = some t) :
    SynonymOutcome runtime s label t := by
  obtain ⟨hrun, hrecord, hloaded⟩ := hs.calls.right callId _ hcall
  unfold SynonymState.checkRecord at h
  split at h
  · next hids =>
    cases h
    refine .moved ?_ ⟨hrun, hrecord, hloaded, fun _ => hrun.current_of_ids hids⟩ ?_
    · intro lock hneeds
      apply hs.calls.held callId _ lock hcall
      cases loaded with
      | none => simp [SynonymCall.needs, SynonymCall.locks] at hneeds
      | some state => exact hneeds
    refine continuesRun_of_old hcall (fun _ h => h) fun hash hsucceeds => .inl ?_
    cases record with
    | success => exact hsucceeds
    | _ => cases hsucceeds
  · split at h
    · cases h
      exact .released fun call heq => freeCall_continued hcall rfl hrun heq
    · split at h
      · next hnone =>
        cases h
        exact .wrote (.inl hnone) (fun call heq => freeCall_continued hcall rfl hrun heq) nofun
          nofun
      · cases h

theorem outcome_lockRecord (hs : LedgerRight runtime s)
    (hcall : s.sessions.calls callId = some (.recording run record))
    (h : s.lockRecord callId run record = some t) : SynonymOutcome runtime s label t := by
  obtain ⟨hrun, hrecord⟩ := hs.calls.right callId _ hcall
  have hcontinues : ∀ loaded,
      ContinuesRun runtime s label callId (.recordLocked run record loaded) := by
    intro loaded
    refine continuesRun_of_old hcall (fun _ h => h) fun hash hsucceeds => .inl ?_
    cases record with
    | success => exact hsucceeds
    | _ => cases hsucceeds
  unfold SynonymState.lockRecord at h
  split at h
  · cases h
    exact .moved nofun ⟨hrun, hrecord, fun hne => (hne rfl).elim⟩ (hcontinues none)
  next state hstate =>
  unfold SynonymState.take at h
  split at h
  · next hfree =>
    cases h
    refine .took hfree ?_ ⟨hrun, hrecord, fun _ => hstate⟩ (hcontinues (some state))
    simp [SynonymCall.needs, SynonymCall.locks]
  · cases h

theorem outcome_takeSyncState (call : SearchSynonymSyncState → SynonymCall)
    (hneeds : ∀ state other, (call state).needs other →
      other = .syncState ∨ s.sessions.locks other = some callId)
    (hright : ∀ state, s.syncState = some state →
      CallRight runtime s.tables s.syncState (call state))
    (hrun : ∀ state, (call state).run = none)
    (h : s.takeSyncState callId call = some t) : SynonymOutcome runtime s label t := by
  unfold SynonymState.takeSyncState at h
  split at h
  · cases h
    exact .dropped label callId
  next state hstate =>
  unfold SynonymState.take at h
  split at h
  · next hfree =>
    cases h
    exact .took hfree (hneeds state) (hright state hstate) (continuesRun_of_none (hrun state))
  · cases h

section Outcomes

variable (hs : LedgerRight runtime s)

include hs

theorem outcome_commitEdit {request : AdminSynonymRequest} {edit : DraftEdit}
    {catalog : SearchSynonymCatalog} {revisions : List SearchSynonymRevision}
    (hcall : s.sessions.calls callId = some (.revisionsRead request catalog revisions)) :
    SynonymOutcome runtime s label (s.commitEdit runtime seeds callId request edit revisions) := by
  have hread : revisions = s.tables.revisionsOf catalog.id := hs.calls.right callId _ hcall
  have hlock : s.sessions.locks (.catalog catalog.id) = some callId :=
    hs.calls.held callId _ _ hcall (by simp [SynonymCall.needs, SynonymCall.locks])
  unfold SynonymState.commitEdit
  split
  · exact .dropped label callId
  next edited hedited =>
  rw [hread] at hedited
  obtain ⟨draft, hedit⟩ := editsDraft_of_ok hedited
  split
  · exact .dropped label callId
  · next tables hcommit => exact .edited hlock hedit hcommit

theorem outcome_flush {request : AdminSynonymRequest} {confirmDestructive : Bool}
    {catalog : SearchSynonymCatalog} {revisions : List SearchSynonymRevision} {nextDraftId : Uuid}
    (hcall : s.sessions.calls callId =
      some (.publishing request confirmDestructive catalog revisions state)) :
    SynonymOutcome runtime s label
      (s.flush runtime callId request confirmDestructive catalog revisions state nextDraftId
        now) := by
  obtain ⟨hread, hstate⟩ := hs.calls.right callId _ hcall
  unfold SynonymState.flush
  split
  · exact .dropped label callId
  next write hwrite =>
  rw [hread] at hwrite
  refine .moved ?_ ⟨⟨request, confirmDestructive, nextDraftId, now, hwrite⟩, hstate⟩
    (continuesRun_of_none rfl)
  intro lock hneeds
  exact hs.calls.held callId _ lock hcall hneeds

theorem outcome_loadSnapshot {catalogId : Uuid} {write : PublishedDraft}
    (hcall : s.sessions.calls callId = some (.flushed catalogId write state now)) :
    SynonymOutcome runtime s label (s.loadSnapshot runtime callId catalogId write state now) := by
  obtain ⟨hwrite, hstate⟩ := hs.calls.right callId _ hcall
  unfold SynonymState.loadSnapshot
  split
  · exact .dropped label callId
  refine .moved ?_ ⟨hwrite, fun hnone => ?_, nofun⟩ (continuesRun_of_none rfl)
  · intro lock hneeds
    exact hs.calls.held callId _ lock hcall hneeds
  · cases hstate.symm.trans hnone

theorem outcome_commitPublication {catalogId : Uuid} {write : PublishedDraft}
    (hcall : s.sessions.calls callId = some (.requestingSync catalogId write state)) :
    SynonymOutcome runtime s label (s.commitPublication callId write state) := by
  obtain ⟨⟨_, _, _, _, hwrite⟩, -, hstatus⟩ := hs.calls.right callId _ hcall
  obtain ⟨draft, hpublishes⟩ := publishesDraft_of_ok hwrite
  unfold SynonymState.commitPublication
  split
  · exact .dropped label callId
  next tables hcommit =>
  refine .published ?_ ?_ hpublishes hcommit hstatus
  · exact hs.calls.held callId _ _ hcall (by simp [SynonymCall.needs, SynonymCall.locks])
  · exact hs.calls.held callId _ _ hcall (by simp [SynonymCall.needs, SynonymCall.locks])

theorem outcome_commitRetry (hcall : s.sessions.calls callId = some (.retrying state)) :
    SynonymOutcome runtime s label (s.commitRetry callId state now) := by
  unfold SynonymState.commitRetry
  split
  · exact .dropped label callId
  next next hnext =>
  have hpending : next.status ≠ .synced := by
    unfold retrySync at hnext
    split at hnext
    · cases hnext
    · cases hnext
      nofun
  refine .wrote (.inr ?_) (fun _ heq => by cases heq) (fun h => (hpending h).elim)
    fun h => (hpending h).elim
  exact hs.calls.held callId _ _ hcall (by simp [SynonymCall.needs, SynonymCall.locks])

theorem synonymOutcome_of_step
    (h : synonymStep runtime seeds s label = some t) : SynonymOutcome runtime s label t := by
  cases label with
  | request callId request =>
    simp only [synonymStep] at h
    split at h
    · cases h
      exact .moved nofun trivial (continuesRun_of_none rfl)
    · cases h
  | lockCatalog callId =>
    simp only [synonymStep] at h
    split at h
    · split at h
      · cases h
        exact .dropped _ callId
      · unfold SynonymState.take at h
        split at h
        · next hfree =>
          cases h
          refine .took hfree ?_ trivial (continuesRun_of_none rfl)
          simp [SynonymCall.needs, SynonymCall.locks]
        · cases h
    · cases h
  | readRevisions callId =>
    simp only [synonymStep] at h
    split at h
    · next hcall =>
      cases h
      exact .moved (fun lock hneeds => hs.calls.held callId _ lock hcall hneeds) rfl
        (continuesRun_of_none rfl)
    · cases h
  | commitEdit callId =>
    simp only [synonymStep] at h
    split at h
    · next hcall =>
      split at h
      · cases h
        exact outcome_commitEdit hs hcall
      · cases h
    · cases h
  | lockSyncState callId =>
    simp only [synonymStep] at h
    split at h
    · next request catalog revisions hcall =>
      split at h
      · cases h
      have hread : revisions = s.tables.revisionsOf catalog.id := hs.calls.right callId _ hcall
      refine outcome_takeSyncState (.publishing request _ catalog revisions) ?_
        (fun state hstate => ⟨hread, hstate⟩) (fun _ => rfl) h
      intro state other hneeds
      obtain rfl | rfl : other = .catalog catalog.id ∨ other = .syncState := by
        simpa [SynonymCall.needs, SynonymCall.locks] using hneeds
      · exact .inr
          (hs.calls.held callId _ _ hcall (by simp [SynonymCall.needs, SynonymCall.locks]))
      · exact .inl rfl
    · refine outcome_takeSyncState .retrying ?_ (fun state hstate => hstate) (fun _ => rfl) h
      simp [SynonymCall.needs, SynonymCall.locks]
    · cases h
  | flush callId nextDraftId now =>
    simp only [synonymStep] at h
    split at h
    · next hcall =>
      cases h
      exact outcome_flush hs hcall
    · cases h
  | loadSnapshot callId =>
    simp only [synonymStep] at h
    split at h
    · next hcall =>
      cases h
      exact outcome_loadSnapshot hs hcall
    · cases h
  | commitPublication callId =>
    simp only [synonymStep] at h
    split at h
    · next hcall =>
      cases h
      exact outcome_commitPublication hs hcall
    · cases h
  | requestRetry callId =>
    simp only [synonymStep] at h
    split at h
    · cases h
      exact .moved nofun trivial (continuesRun_of_none rfl)
    · cases h
  | commitRetry callId now =>
    simp only [synonymStep] at h
    split at h
    · next hcall =>
      cases h
      exact outcome_commitRetry hs hcall
    · cases h
  | reconcile callId attemptedAt now =>
    simp only [synonymStep] at h
    split at h
    · cases h
      exact freeCall_planned.outcome
    · cases h
  | getSynonyms callId answer now =>
    simp only [synonymStep] at h
    split at h
    · next hcall =>
      cases h
      exact (freeCall_compared hcall (hs.calls.right callId _ hcall)).outcome
    · cases h
  | submitSynonyms callId answer now =>
    simp only [synonymStep] at h
    split at h
    · next hcall =>
      cases h
      exact (freeCall_submitted hcall (hs.calls.right callId _ hcall)).outcome
    · cases h
  | verifySynonyms callId answer now =>
    simp only [synonymStep] at h
    split at h
    · next hcall =>
      split at h
      · cases h
        exact (freeCall_verified hcall (hs.calls.right callId _ hcall)).outcome
      · cases h
        exact .dropped _ callId
    · cases h
  | lockRecord callId =>
    simp only [synonymStep] at h
    split at h
    · next hcall => exact outcome_lockRecord hs hcall h
    · cases h
  | checkRecord callId =>
    simp only [synonymStep] at h
    split at h
    · next hcall => exact outcome_checkRecord hs hcall h
    · cases h
  | commitRecord callId =>
    simp only [synonymStep] at h
    split at h
    · next hcall => exact outcome_commitRecord hs hcall h
    · cases h
  | failRecord callId exc now =>
    simp only [synonymStep] at h
    split at h
    · next hcall =>
      cases h
      have hright := hs.calls.right callId _ hcall
      exact .released fun call heq => freeCall_failed hcall rfl hright.1 heq
    · next hcall =>
      cases h
      have hright := hs.calls.right callId _ hcall
      exact .released fun call heq => freeCall_failed hcall rfl hright.1 heq
    · next hcall =>
      cases h
      have hright := hs.calls.right callId _ hcall
      exact .released fun call heq => freeCall_failed hcall rfl hright.1 heq
    · cases h
  | stop callId =>
    cases h
    exact .dropped _ callId

end Outcomes

end Kept

end MemeExpert.Services
