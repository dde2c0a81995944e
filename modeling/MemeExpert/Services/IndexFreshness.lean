import Mathlib.Data.List.Dedup
import Mathlib.Data.List.Sort
import Mathlib.Data.Rat.Defs
import MemeExpert.Lib.Runs
import MemeExpert.Models.Rows

/-! The batches claim the snapshot of a file, load its rows, write the document to the index
and record the outcome. -/

namespace MemeExpert

open Runs

inductive ContentKind where
  | audio | gif | image | link | text | video
  deriving DecidableEq

inductive ContentLanguage where
  | en | mixed | none | ru
  deriving DecidableEq

inductive CollectionVisibility where
  | publicAccess | unlistedAccess | privateAccess
  deriving DecidableEq

namespace Services

structure IndexedMeme where
  id : Uuid
  mediaType : ContentKind
  primaryFileId : Uuid
  ocrText : Option String := none
  language : ContentLanguage := .none
  isNsfw : Bool := false
  likeCount : Nat := 0
  tags : List String := []
  templateId : Option Uuid := none
  isPublic : Bool := true
  createdAt : Time := 0
  updatedAt : Time := 0

structure IndexedFile where
  id : Uuid
  qualityScore : Rat := 0
  s3OriginalKey : String
  updatedAt : Time := 0

structure IndexedSeoPage where
  slug : String
  generatedAt : Time
  editedAt : Option Time := none

structure IndexedTemplate where
  slug : String
  updatedAt : Time := 0

structure IndexedMember where
  userId : Uuid
  joinedAt : Time := 0

structure SavedCollection where
  id : Uuid
  ownerId : Uuid
  visibility : CollectionVisibility := .privateAccess
  updatedAt : Time := 0
  addedAt : Time := 0
  members : List IndexedMember := []

structure IndexRows where
  meme : IndexedMeme
  file : IndexedFile
  seoPage : Option IndexedSeoPage := none
  template : Option IndexedTemplate := none
  collections : List SavedCollection := []
  ocrResult : Option String := none
  uploaderUserIds : List Uuid := []
  popularityScore : Rat := 0

structure CanonicalSearchIndexState where
  memeId : Uuid
  memeFileId : Uuid
  searchIndexAlgorithmVersion : String
  isPublic : Bool
  isPrimaryFile : Bool
  uploaderUserIds : List Uuid
  mediaType : ContentKind
  language : ContentLanguage
  isNsfw : Bool
  tags : List String
  seoPageSlug : Option String
  templateId : Option Uuid
  templateSlug : Option String
  popularityScore : Rat
  likeCount : Nat
  createdAt : Time
  updatedAt : Time
  qualityScore : Rat
  ocrText : Option String
  sourceObjectKey : String
  collectionIds : List Uuid
  publicCollectionIds : List Uuid
  unlistedCollectionIds : List Uuid
  privateCollectionIds : List Uuid
  sharedCollectionIds : List Uuid
  collectionOwnerUserIds : List Uuid
  collectionMemberUserIds : List Uuid
  deriving DecidableEq

structure PipelineMeilisearchDocument where
  id : Uuid
  memeId : Uuid
  searchIndexAlgorithmVersion : String
  isPublic : Bool
  mediaType : ContentKind
  language : ContentLanguage
  isNsfw : Bool
  createdAt : Time
  updatedAt : Time
  tags : List String
  seoPageSlug : Option String
  templateId : Option Uuid
  templateSlug : Option String
  popularityScore : Rat
  likeCount : Nat
  qualityScore : Rat
  collectionIds : List Uuid
  publicCollectionIds : List Uuid
  unlistedCollectionIds : List Uuid
  privateCollectionIds : List Uuid
  sharedCollectionIds : List Uuid
  collectionOwnerUserIds : List Uuid
  collectionMemberUserIds : List Uuid
  ocrText : Option String
  deriving DecidableEq

inductive IndexDocument where
  | qdrant (payload : CanonicalSearchIndexState)
  | meilisearch (document : PipelineMeilisearchDocument)
  deriving DecidableEq

def SEARCH_INDEX_ALGORITHM_VERSION : String := "collection-provenance-v2"

def latest (stamps : List Time) : Time := stamps.foldr max 0

namespace IndexRows

variable (rows : IndexRows)

/-- `sorted({…})`. -/
def sortedIds (ids : List Uuid) : List Uuid := ids.dedup.insertionSort (· ≤ ·)

def collectionIdsFor (visibility : CollectionVisibility) : List Uuid :=
  sortedIds ((rows.collections.filter fun collection =>
    collection.visibility = visibility).map SavedCollection.id)

def sharedCollectionIds : List Uuid :=
  sortedIds ((rows.collections.filter fun collection =>
    collection.members.any fun member => member.userId ≠ collection.ownerId).map SavedCollection.id)

def seoStamp (page : IndexedSeoPage) : Time := page.editedAt.getD page.generatedAt

def stamps : List Time :=
  [rows.meme.updatedAt, rows.file.updatedAt] ++
    (rows.template.map IndexedTemplate.updatedAt).toList ++ (rows.seoPage.map seoStamp).toList ++
    rows.collections.flatMap fun collection =>
      [collection.updatedAt, collection.addedAt] ++ collection.members.map IndexedMember.joinedAt

def resolveSearchIndexUpdatedAt : Time := latest rows.stamps

/-- `load_search_index_state`. -/
def canonical : CanonicalSearchIndexState where
  memeId := rows.meme.id
  memeFileId := rows.file.id
  searchIndexAlgorithmVersion := SEARCH_INDEX_ALGORITHM_VERSION
  isPublic := rows.meme.isPublic
  isPrimaryFile := rows.meme.primaryFileId = rows.file.id
  uploaderUserIds := rows.uploaderUserIds
  mediaType := rows.meme.mediaType
  language := rows.meme.language
  isNsfw := rows.meme.isNsfw
  tags := rows.meme.tags
  seoPageSlug := rows.seoPage.map IndexedSeoPage.slug
  templateId := rows.meme.templateId
  templateSlug := rows.template.map IndexedTemplate.slug
  popularityScore := rows.popularityScore
  likeCount := rows.meme.likeCount
  createdAt := rows.meme.createdAt
  updatedAt := rows.resolveSearchIndexUpdatedAt
  qualityScore := rows.file.qualityScore
  ocrText := rows.ocrResult <|> rows.meme.ocrText
  sourceObjectKey := rows.file.s3OriginalKey
  collectionIds := sortedIds (rows.collections.map SavedCollection.id)
  publicCollectionIds := rows.collectionIdsFor .publicAccess
  unlistedCollectionIds := rows.collectionIdsFor .unlistedAccess
  privateCollectionIds := rows.collectionIdsFor .privateAccess
  sharedCollectionIds := rows.sharedCollectionIds
  collectionOwnerUserIds := sortedIds (rows.collections.map SavedCollection.ownerId)
  collectionMemberUserIds :=
    sortedIds (rows.collections.flatMap fun collection =>
      collection.members.map IndexedMember.userId)

/-- `_canonical_search_index_clock_expr`. -/
def canonicalClock : Time :=
  latest
    [rows.meme.updatedAt, rows.file.updatedAt, (rows.seoPage.map seoStamp).getD 0,
      (rows.template.map IndexedTemplate.updatedAt).getD 0,
      latest (rows.collections.map SavedCollection.updatedAt),
      latest (rows.collections.map SavedCollection.addedAt),
      latest (rows.collections.flatMap fun collection =>
        collection.members.map IndexedMember.joinedAt)]

end IndexRows

def buildMeilisearchDocument (canonical : CanonicalSearchIndexState) :
    PipelineMeilisearchDocument where
  id := canonical.memeFileId
  memeId := canonical.memeId
  searchIndexAlgorithmVersion := canonical.searchIndexAlgorithmVersion
  isPublic := canonical.isPublic
  mediaType := canonical.mediaType
  language := canonical.language
  isNsfw := canonical.isNsfw
  createdAt := canonical.createdAt
  updatedAt := canonical.updatedAt
  tags := canonical.tags
  seoPageSlug := canonical.seoPageSlug
  templateId := canonical.templateId
  templateSlug := canonical.templateSlug
  popularityScore := canonical.popularityScore
  likeCount := canonical.likeCount
  qualityScore := canonical.qualityScore
  collectionIds := canonical.collectionIds
  publicCollectionIds := canonical.publicCollectionIds
  unlistedCollectionIds := canonical.unlistedCollectionIds
  privateCollectionIds := canonical.privateCollectionIds
  sharedCollectionIds := canonical.sharedCollectionIds
  collectionOwnerUserIds := canonical.collectionOwnerUserIds
  collectionMemberUserIds := canonical.collectionMemberUserIds
  ocrText := canonical.ocrText

def buildDocument (target : SyncTargetKind) (canonical : CanonicalSearchIndexState) :
    IndexDocument :=
  match target with
  | .qdrant => .qdrant canonical
  | .meilisearch => .meilisearch (buildMeilisearchDocument canonical)

/-- The `is_primary_file` of the stored preview, which only the Qdrant target has. -/
def IndexDocument.previewIsPrimaryFile : IndexDocument → Option Bool
  | .qdrant payload => some payload.isPrimaryFile
  | .meilisearch _ => none

/-- What the other services commit about the rows; each write stamps its row. -/
inductive CanonicalEdit where
  | meme (row : IndexedMeme) (template : Option IndexedTemplate)
  | file (row : IndexedFile)
  | seoPage (slug : String) (manual : Bool)
  | template (slug : String)
  | collection (collectionId : Uuid) (visibility : CollectionVisibility)
  | saveMeme (collection : SavedCollection)
  | addMember (collectionId userId : Uuid)
  | removeMeme (collectionId : Uuid)
  | removeMember (collectionId userId : Uuid)

namespace IndexRows

variable (rows : IndexRows) (stamp : Time)

def updateCollection (collectionId : Uuid) (f : SavedCollection → SavedCollection) :
    Option IndexRows :=
  if rows.collections.any fun collection => collection.id = collectionId then
    some
      { rows with
        collections := rows.collections.map fun collection =>
          if collection.id = collectionId then f collection else collection }
  else none

def apply : CanonicalEdit → Option IndexRows
  | .meme row template =>
    some
      { rows with
        meme := { row with id := rows.meme.id, createdAt := rows.meme.createdAt, updatedAt := stamp }
        template := template }
  | .file row => some { rows with file := { row with id := rows.file.id, updatedAt := stamp } }
  | .seoPage slug manual =>
    some
      { rows with
        seoPage :=
          if manual then
            some ⟨slug, (rows.seoPage.map IndexedSeoPage.generatedAt).getD stamp, some stamp⟩
          else some ⟨slug, stamp, none⟩ }
  | .template slug => rows.template.map fun _ => { rows with template := some ⟨slug, stamp⟩ }
  | .collection collectionId visibility =>
    rows.updateCollection collectionId fun collection =>
      { collection with visibility := visibility, updatedAt := stamp }
  | .saveMeme collection =>
    if rows.collections.any fun other => other.id = collection.id then none
    else some { rows with collections := rows.collections ++ [{ collection with addedAt := stamp }] }
  | .addMember collectionId userId =>
    rows.updateCollection collectionId fun collection =>
      { collection with members := collection.members ++ [⟨userId, stamp⟩] }
  | .removeMeme collectionId =>
    some
      { rows with
        collections := rows.collections.filter fun collection => collection.id ≠ collectionId }
  | .removeMember collectionId userId =>
    rows.updateCollection collectionId fun collection =>
      { collection with members := collection.members.filter fun member => member.userId ≠ userId }

end IndexRows

/-- The snapshot row of a file and a target, with the column of its payload preview that is read. -/
structure IndexSnapshot extends MemeFileSyncTargetSnapshot where
  previewIsPrimaryFile : Option Bool := none

inductive IndexPhase where
  | claimed
  | loaded (document : IndexDocument)
  | sent (document : IndexDocument)
  | written (document : IndexDocument)

structure IndexCall where
  attemptCount : Nat
  phase : IndexPhase

/-- One file and one target. A write that was sent lands on its own, whatever became of its call. -/
structure IndexState where
  clock : Time := 0
  rows : IndexRows
  snapshot : Option IndexSnapshot := none
  index : Option IndexDocument := none
  calls : Nat → Option IndexCall := fun _ => none
  writes : Nat → Option IndexDocument := fun _ => none

inductive IndexLabel where
  | tick (now : Time)
  | edit (stamp : Time) (edit : CanonicalEdit)
  | claim (callId : Nat) (snapshotId : Uuid)
  | load (callId : Nat)
  | send (callId : Nat)
  | land (callId : Nat)
  | recordSuccess (callId : Nat)
  | recordFailure (callId : Nat) (normalizedReason lastErrorText : String)
  | stop (callId : Nat)

section Step

variable (processingTimeout : Time) (target : SyncTargetKind)

def claimable (rows : IndexRows) (row : IndexSnapshot) (now : Time) : Bool :=
  match row.status with
  | .pending | .failed => true
  | .processing => row.lastAttemptAt.all fun attempted => attempted + processingTimeout ≤ now
  | .synced =>
    (row.lastSuccessAt.all fun success => success < rows.canonicalClock) ||
      (target = .qdrant &&
        row.previewIsPrimaryFile ≠ some (decide (rows.meme.primaryFileId = rows.file.id)))

namespace IndexState

variable (s : IndexState)

def document : IndexDocument := buildDocument target s.rows.canonical

def setCall (callId : Nat) (call : IndexCall) : IndexState :=
  { s with calls := Function.update s.calls callId (some call) }

def endCall (callId : Nat) : IndexState := { s with calls := Function.update s.calls callId none }

def claim (callId : Nat) (snapshotId : Uuid) : Option IndexState :=
  if s.calls callId = none ∧ s.writes callId = none then
    match s.snapshot with
    | none =>
      some
        { s.setCall callId ⟨1, .claimed⟩ with
          snapshot := some
            { id := snapshotId, memeFileId := s.rows.file.id, syncTarget := target
              status := .processing, lastAttemptAt := some s.clock, attemptCount := 1 } }
    | some row =>
      if claimable processingTimeout target s.rows row s.clock then
        some
          { s.setCall callId ⟨row.attemptCount + 1, .claimed⟩ with
            snapshot := some
              { row with
                status := .processing, normalizedReason := none, lastErrorText := none
                lastAttemptAt := some s.clock, attemptCount := row.attemptCount + 1 } }
      else none
  else none

/-- `UPDATE … WHERE status = 'processing' AND attempt_count = :attempt_count`. -/
def record (callId : Nat) (call : IndexCall) (outcome : IndexSnapshot → IndexSnapshot) :
    IndexState :=
  { s.endCall callId with
    snapshot := s.snapshot.map fun row =>
      if row.status = .processing ∧ row.attemptCount = call.attemptCount then outcome row
      else row }

end IndexState

def indexStep (s : IndexState) : IndexLabel → Option IndexState
  | .tick now => if s.clock ≤ now then some { s with clock := now } else none
  | .edit stamp edit =>
    if stamp ≤ s.clock then (s.rows.apply stamp edit).map fun rows => { s with rows := rows }
    else none
  | .claim callId snapshotId => s.claim processingTimeout target callId snapshotId
  | .load callId =>
    match s.calls callId with
    | some ⟨attemptCount, .claimed⟩ =>
      some (s.setCall callId ⟨attemptCount, .loaded (s.document target)⟩)
    | _ => none
  | .send callId =>
    match s.calls callId with
    | some ⟨attemptCount, .loaded document⟩ =>
      some
        { s.setCall callId ⟨attemptCount, .sent document⟩ with
          writes := Function.update s.writes callId (some document) }
    | _ => none
  | .land callId =>
    (s.writes callId).map fun document =>
      { s with
        index := some document
        writes := Function.update s.writes callId none
        calls := Function.update s.calls callId ((s.calls callId).map fun call =>
          match call.phase with
          | .sent document => { call with phase := .written document }
          | _ => call) }
  | .recordSuccess callId =>
    match s.calls callId with
    | some ⟨attemptCount, .written document⟩ =>
      some (s.record callId ⟨attemptCount, .written document⟩ fun row =>
        { row with
          status := .synced, normalizedReason := none, lastErrorText := none
          previewIsPrimaryFile := document.previewIsPrimaryFile
          lastSuccessAt := some s.clock, lastAttemptAt := some s.clock })
    | _ => none
  | .recordFailure callId normalizedReason lastErrorText =>
    (s.calls callId).map fun call =>
      s.record callId call fun row =>
        { row with
          status := .failed, normalizedReason := some normalizedReason
          lastErrorText := some lastErrorText, lastAttemptAt := some s.clock }
  | .stop callId => some (s.endCall callId)

end Step

abbrev IndexTransition := Transition IndexState IndexLabel

def Fresh (processingTimeout : Time) (target : SyncTargetKind) (s : IndexState) : Prop :=
  ∀ row, s.snapshot = some row → row.status = .synced → s.index ≠ some (s.document target) →
    claimable processingTimeout target s.rows row s.clock = true

instance (processingTimeout : Time) (target : SyncTargetKind) (s : IndexState) :
    Decidable (Fresh processingTimeout target s) :=
  inferInstanceAs (Decidable (∀ row ∈ s.snapshot, row.status = .synced →
    s.index ≠ some (s.document target) →
      claimable processingTimeout target s.rows row s.clock = true))

def RecordedByHolder (x : IndexTransition) : Prop :=
  ∀ callId,
    (x.label = .recordSuccess callId ∨
      ∃ reason text, x.label = .recordFailure callId reason text) →
    x.after.snapshot ≠ x.before.snapshot →
    ∃ row call, x.before.snapshot = some row ∧ x.before.calls callId = some call ∧
      row.status = .processing ∧ row.attemptCount = call.attemptCount ∧
      ∀ otherId other, otherId ≠ callId → x.before.calls otherId = some other →
        other.attemptCount < call.attemptCount

/-- What shows that rows have changed since a success: a later stamp on one of them, or, for the
Qdrant target, a primary file other than the previewed one. -/
def Drifted (target : SyncTargetKind) (rows : IndexRows) (success : Time)
    (previewIsPrimaryFile : Option Bool) : Prop :=
  (∃ stamp ∈ rows.stamps, success < stamp) ∨
    target = .qdrant ∧
      previewIsPrimaryFile ≠ some (decide (rows.meme.primaryFileId = rows.file.id))

/-- The condition on one step. A success is recorded while the index holds the document of the rows
as they are by then. While the row is synced, an edit leaves the document as it was, or as the index
holds it, or the rows drifted; and a write to the index that lands late brings the document of the
rows or finds them drifted. -/
def UpToDateStep (target : SyncTargetKind) (s : IndexState) : IndexLabel → Prop
  | .edit stamp edit => ∀ row success rows, s.snapshot = some row → row.status = .synced →
    row.lastSuccessAt = some success → s.rows.apply stamp edit = some rows →
    buildDocument target rows.canonical = s.document target ∨
      s.index = some (buildDocument target rows.canonical) ∨
      Drifted target rows success row.previewIsPrimaryFile
  | .land callId => ∀ row success document, s.snapshot = some row → row.status = .synced →
    row.lastSuccessAt = some success → s.writes callId = some document →
    document = s.document target ∨ Drifted target s.rows success row.previewIsPrimaryFile
  | .recordSuccess callId => ∀ row attemptCount document, s.snapshot = some row →
    s.calls callId = some ⟨attemptCount, .written document⟩ → row.status = .processing →
    row.attemptCount = attemptCount →
    s.index = some (s.document target) ∨
      Drifted target s.rows s.clock document.previewIsPrimaryFile
  | _ => True

structure InitialIndex (processingTimeout : Time) (target : SyncTargetKind) (s : IndexState) :
    Prop where
  idle : ∀ callId, s.calls callId = none
  fresh : Fresh processingTimeout target s

structure AttemptsTaken (s : IndexState) : Prop where
  counted : ∀ callId call, s.calls callId = some call →
    ∃ row, s.snapshot = some row ∧ call.attemptCount ≤ row.attemptCount
  distinct : ∀ callId call otherId other, s.calls callId = some call →
    s.calls otherId = some other → call.attemptCount = other.attemptCount → callId = otherId

section Clock

variable {rows edited : IndexRows} {target : SyncTargetKind} {stamp success : Time}
  {edit : CanonicalEdit} {previewIsPrimaryFile : Option Bool}

theorem lt_latest {stamps : List Time} :
    success < latest stamps ↔ ∃ stamp ∈ stamps, success < stamp := by
  induction stamps with
  | nil => simp [latest]
  | cons first rest ih =>
    rw [latest, List.foldr_cons, ← latest, lt_max_iff, ih]
    simp

theorem lt_canonicalClock :
    success < rows.canonicalClock ↔ ∃ stamp ∈ rows.stamps, success < stamp := by
  have hseo : success < (rows.seoPage.map IndexRows.seoStamp).getD 0 ↔
      ∃ stamp ∈ (rows.seoPage.map IndexRows.seoStamp).toList, success < stamp := by
    cases rows.seoPage <;> simp
  have htemplate : success < (rows.template.map IndexedTemplate.updatedAt).getD 0 ↔
      ∃ stamp ∈ (rows.template.map IndexedTemplate.updatedAt).toList, success < stamp := by
    cases rows.template <;> simp
  have hcollections : (∃ stamp ∈ rows.collections.flatMap fun collection =>
        [collection.updatedAt, collection.addedAt] ++ collection.members.map IndexedMember.joinedAt,
        success < stamp) ↔
      success < latest (rows.collections.map SavedCollection.updatedAt) ∨
        success < latest (rows.collections.map SavedCollection.addedAt) ∨
        success < latest (rows.collections.flatMap fun collection =>
          collection.members.map IndexedMember.joinedAt) := by
    simp only [lt_latest, List.mem_flatMap, List.mem_map, List.mem_append, List.mem_cons]
    grind
  rw [IndexRows.canonicalClock, lt_latest]
  simp only [IndexRows.stamps, List.mem_append, or_and_right, exists_or, hcollections, ← hseo,
    ← htemplate]
  simp [or_assoc, or_left_comm]

variable {processingTimeout : Time} {s t : IndexState} {label : IndexLabel}

theorem claimable_synced_iff {rows : IndexRows} {row : IndexSnapshot} {now : Time}
    (hsynced : row.status = .synced) :
    claimable processingTimeout target rows row now = true ↔
      ∀ success, row.lastSuccessAt = some success →
        Drifted target rows success row.previewIsPrimaryFile := by
  cases hsuccess : row.lastSuccessAt with
  | none => simp [claimable, hsynced, hsuccess]
  | some success => simp [claimable, hsynced, hsuccess, Drifted, lt_canonicalClock]

theorem fresh_iff : Fresh processingTimeout target s ↔
    ∀ row success, s.snapshot = some row → row.status = .synced →
      row.lastSuccessAt = some success → s.index = some (s.document target) ∨
        Drifted target s.rows success row.previewIsPrimaryFile := by
  constructor
  · intro h row success hrow hsynced hsuccess
    by_cases hindex : s.index = some (s.document target)
    · exact .inl hindex
    · exact .inr ((claimable_synced_iff hsynced).mp (h row hrow hsynced hindex) success hsuccess)
  · intro h row hrow hsynced hindex
    refine (claimable_synced_iff hsynced).mpr fun success hsuccess => ?_
    exact (h row success hrow hsynced hsuccess).resolve_left hindex

theorem drifted_congr {rows edited : IndexRows} {success : Time} {previewIsPrimaryFile : Option Bool}
    (h : buildDocument target edited.canonical = buildDocument target rows.canonical) :
    Drifted target edited success previewIsPrimaryFile ↔
      Drifted target rows success previewIsPrimaryFile := by
  have hstamps : edited.resolveSearchIndexUpdatedAt = rows.resolveSearchIndexUpdatedAt := by
    cases target with
    | qdrant => exact congrArg CanonicalSearchIndexState.updatedAt (IndexDocument.qdrant.inj h)
    | meilisearch =>
      exact congrArg PipelineMeilisearchDocument.updatedAt (IndexDocument.meilisearch.inj h)
  have hprimary : target = .qdrant →
      decide (edited.meme.primaryFileId = edited.file.id) =
        decide (rows.meme.primaryFileId = rows.file.id) := by
    rintro rfl
    exact congrArg CanonicalSearchIndexState.isPrimaryFile (IndexDocument.qdrant.inj h)
  rw [Drifted, Drifted, ← lt_latest, ← lt_latest]
  refine or_congr (iff_of_eq (congrArg (success < ·) hstamps)) (and_congr_right fun htarget => ?_)
  rw [hprimary htarget]

variable {call : IndexCall} {callId : Nat} {outcome : IndexSnapshot → IndexSnapshot}

theorem fresh_recordFailure
    (hs : Fresh processingTimeout target s) (houtcome : ∀ row, (outcome row).status = .failed) :
    Fresh processingTimeout target (s.record callId call outcome) := by
  intro row hrow hsynced hindex
  obtain ⟨old, hold, rfl⟩ := Option.map_eq_some_iff.mp hrow
  split at hsynced
  · rw [houtcome] at hsynced
    cases hsynced
  next hother =>
  rw [if_neg hother]
  exact hs old hold hsynced hindex

theorem fresh_recordSuccess_iff {attemptCount : Nat} {document : IndexDocument}
    (hs : Fresh processingTimeout target s)
    (houtcome : ∀ row, (outcome row).status = .synced ∧ (outcome row).lastSuccessAt = some s.clock ∧
      (outcome row).previewIsPrimaryFile = document.previewIsPrimaryFile) :
    Fresh processingTimeout target
        (s.record callId ⟨attemptCount, .written document⟩ outcome) ↔
      ∀ row, s.snapshot = some row → row.status = .processing → row.attemptCount = attemptCount →
        s.index = some (s.document target) ∨
          Drifted target s.rows s.clock document.previewIsPrimaryFile := by
  rw [fresh_iff] at hs ⊢
  constructor
  · intro h row hrow hprocessing hholds
    obtain ⟨hsynced, hsuccess, hpreview⟩ := houtcome row
    rw [← hpreview]
    refine h (outcome row) s.clock ?_ hsynced hsuccess
    simp [IndexState.record, hrow, hprocessing, hholds]
  intro h row success hrow hsynced hsuccess
  obtain ⟨old, hold, rfl⟩ := Option.map_eq_some_iff.mp hrow
  split at hsynced
  · next hholds =>
    rw [if_pos hholds] at hsuccess ⊢
    obtain ⟨-, hclock, hpreview⟩ := houtcome old
    rw [hclock] at hsuccess
    cases hsuccess
    rw [hpreview]
    exact h old hold hholds.1 hholds.2
  · next hother =>
    rw [if_neg hother] at hsuccess ⊢
    exact hs old success hold hsynced hsuccess

theorem fresh_step_iff (hs : Fresh processingTimeout target s)
    (h : indexStep processingTimeout target s label = some t) :
    Fresh processingTimeout target t ↔ UpToDateStep target s label := by
  cases label with
  | tick now =>
    obtain ⟨-, ht⟩ := Option.ite_none_right_eq_some.mp h
    cases ht
    have hrows := fresh_iff.mp hs
    exact iff_of_true (fresh_iff.mpr hrows) trivial
  | edit stamp edit =>
    obtain ⟨-, ht⟩ := Option.ite_none_right_eq_some.mp h
    obtain ⟨rows, hrows, rfl⟩ := Option.map_eq_some_iff.mp ht
    rw [fresh_iff] at hs ⊢
    constructor
    · intro hfresh row success edited hrow hsynced hsuccess hedited
      rw [hrows] at hedited
      cases hedited
      exact .inr (hfresh row success hrow hsynced hsuccess)
    intro hup row success hrow hsynced hsuccess
    rcases hup row success rows hrow hsynced hsuccess hrows with hsame | hindex
    · refine (hs row success hrow hsynced hsuccess).imp ?_ (drifted_congr hsame).mpr
      intro hindex
      exact hindex.trans (congrArg some hsame.symm)
    · exact hindex
  | claim callId snapshotId =>
    refine iff_of_true ?_ trivial
    simp only [indexStep, IndexState.claim] at h
    obtain ⟨-, ht⟩ := Option.ite_none_right_eq_some.mp h
    split at ht
    · cases ht
      intro row hrow hsynced _
      cases hrow
      cases hsynced
    obtain ⟨-, ht⟩ := Option.ite_none_right_eq_some.mp ht
    cases ht
    intro row hrow hsynced _
    cases hrow
    cases hsynced
  | load callId =>
    refine iff_of_true ?_ trivial
    simp only [indexStep] at h
    split at h
    · cases h
      exact hs
    · cases h
  | send callId =>
    refine iff_of_true ?_ trivial
    simp only [indexStep] at h
    split at h
    · cases h
      exact hs
    · cases h
  | land callId =>
    obtain ⟨document, hdocument, rfl⟩ := Option.map_eq_some_iff.mp h
    rw [fresh_iff]
    constructor
    · intro hfresh row success landed hrow hsynced hsuccess hlanded
      rw [hdocument] at hlanded
      cases hlanded
      exact (hfresh row success hrow hsynced hsuccess).imp_left Option.some.inj
    · intro hup row success hrow hsynced hsuccess
      exact (hup row success document hrow hsynced hsuccess hdocument).imp_left (congrArg some)
  | recordSuccess callId =>
    simp only [indexStep] at h
    split at h
    · next attemptCount document hcall =>
      cases h
      rw [fresh_recordSuccess_iff hs fun _ => ⟨rfl, rfl, rfl⟩]
      constructor
      · intro hrecord row count written hrow hwritten hprocessing hholds
        rw [hcall] at hwritten
        cases hwritten
        exact hrecord row hrow hprocessing hholds
      · intro hup row hrow hprocessing hholds
        exact hup row attemptCount document hrow hcall hprocessing hholds
    · cases h
  | recordFailure callId normalizedReason lastErrorText =>
    obtain ⟨call, -, rfl⟩ := Option.map_eq_some_iff.mp h
    exact iff_of_true (fresh_recordFailure hs fun _ => rfl) trivial
  | stop callId =>
    cases h
    exact iff_of_true hs trivial

theorem calls_endCall_index {otherId : Nat}
    (h : (s.endCall callId).calls otherId = some call) :
    otherId ≠ callId ∧ s.calls otherId = some call := by
  by_cases heq : otherId = callId
  · simp [IndexState.endCall, heq] at h
  · simpa [IndexState.endCall, Function.update_of_ne heq, heq] using h

theorem AttemptsTaken.mono (hs : AttemptsTaken s)
    (hcalls : ∀ callId call, t.calls callId = some call →
      ∃ old, s.calls callId = some old ∧ old.attemptCount = call.attemptCount)
    (hrow : ∀ row, s.snapshot = some row →
      ∃ next, t.snapshot = some next ∧ row.attemptCount ≤ next.attemptCount) :
    AttemptsTaken t where
  counted := by
    intro callId call hcall
    obtain ⟨old, hold, hsame⟩ := hcalls callId call hcall
    obtain ⟨row, hsnapshot, hle⟩ := hs.counted callId old hold
    obtain ⟨next, hnext, hle'⟩ := hrow row hsnapshot
    exact ⟨next, hnext, hsame ▸ Nat.le_trans hle hle'⟩
  distinct := by
    intro callId call otherId other hcall hother heq
    obtain ⟨old, hold, hsame⟩ := hcalls callId call hcall
    obtain ⟨old', hold', hsame'⟩ := hcalls otherId other hother
    exact hs.distinct callId old otherId old' hold hold' (by rw [hsame, hsame', heq])

theorem AttemptsTaken.claimed (hs : AttemptsTaken s) {row : IndexSnapshot}
    {phase : IndexPhase} (hfree : s.calls callId = none)
    (habove : ∀ old, s.snapshot = some old → old.attemptCount < row.attemptCount) :
    AttemptsTaken
      { s.setCall callId ⟨row.attemptCount, phase⟩ with snapshot := some row } := by
  have hcalls : ∀ otherId other,
      Function.update s.calls callId (some ⟨row.attemptCount, phase⟩) otherId = some other →
      (otherId = callId ∧ other.attemptCount = row.attemptCount) ∨
        (s.calls otherId = some other ∧ other.attemptCount < row.attemptCount) := by
    intro otherId other hother
    by_cases heq : otherId = callId
    · subst heq
      rw [Function.update_self] at hother
      cases hother
      exact .inl ⟨rfl, rfl⟩
    · rw [Function.update_of_ne heq] at hother
      obtain ⟨old, hold, hle⟩ := hs.counted otherId other hother
      exact .inr ⟨hother, Nat.lt_of_le_of_lt hle (habove old hold)⟩
  refine ⟨?_, ?_⟩
  · intro otherId other hother
    refine ⟨row, rfl, ?_⟩
    rcases hcalls otherId other hother with ⟨-, heq⟩ | ⟨-, hlt⟩
    · exact Nat.le_of_eq heq
    · exact Nat.le_of_lt hlt
  intro firstId first secondId second hfirst hsecond heq
  rcases hcalls firstId first hfirst with ⟨rfl, hone⟩ | ⟨holdone, hone⟩
  · rcases hcalls secondId second hsecond with ⟨rfl, -⟩ | ⟨-, htwo⟩
    · rfl
    · omega
  · rcases hcalls secondId second hsecond with ⟨rfl, htwo⟩ | ⟨holdtwo, -⟩
    · omega
    · exact hs.distinct firstId first secondId second holdone holdtwo heq

theorem calls_setCall_phase {otherId : Nat} {attemptCount : Nat} {old next : IndexPhase}
    (hcall : s.calls callId = some ⟨attemptCount, old⟩)
    (h : Function.update s.calls callId (some ⟨attemptCount, next⟩) otherId = some call) :
    ∃ before, s.calls otherId = some before ∧ before.attemptCount = call.attemptCount := by
  by_cases heq : otherId = callId
  · subst heq
    rw [Function.update_self] at h
    cases h
    exact ⟨_, hcall, rfl⟩
  · rw [Function.update_of_ne heq] at h
    exact ⟨call, h, rfl⟩

theorem attemptsTaken_record (hs : AttemptsTaken s)
    (houtcome : ∀ row, (outcome row).attemptCount = row.attemptCount) :
    AttemptsTaken (s.record callId call outcome) := by
  apply hs.mono
  · intro otherId other hother
    exact ⟨other, (calls_endCall_index hother).2, rfl⟩
  intro row hrow
  refine ⟨_, congrArg (Option.map _) hrow, ?_⟩
  dsimp only
  split
  · exact Nat.le_of_eq (houtcome row).symm
  · exact Nat.le_refl _

theorem attemptsTaken_step (hs : AttemptsTaken s)
    (h : indexStep processingTimeout target s label = some t) : AttemptsTaken t := by
  have hsame : ∀ row, s.snapshot = some row →
      ∃ next, s.snapshot = some next ∧ row.attemptCount ≤ next.attemptCount :=
    fun row hrow => ⟨row, hrow, Nat.le_refl _⟩
  cases label with
  | tick now =>
    obtain ⟨-, ht⟩ := Option.ite_none_right_eq_some.mp h
    cases ht
    exact ⟨hs.counted, hs.distinct⟩
  | edit stamp edit =>
    obtain ⟨-, ht⟩ := Option.ite_none_right_eq_some.mp h
    obtain ⟨rows, -, rfl⟩ := Option.map_eq_some_iff.mp ht
    exact ⟨hs.counted, hs.distinct⟩
  | claim callId snapshotId =>
    simp only [indexStep, IndexState.claim] at h
    obtain ⟨hfree, ht⟩ := Option.ite_none_right_eq_some.mp h
    split at ht
    · next hnone =>
      cases ht
      apply hs.claimed hfree.1
      intro old hold
      rw [hnone] at hold
      cases hold
    next row hrow =>
    obtain ⟨-, ht⟩ := Option.ite_none_right_eq_some.mp ht
    cases ht
    apply hs.claimed hfree.1
    intro old hold
    rw [hrow] at hold
    cases hold
    exact Nat.lt_succ_self _
  | load callId =>
    simp only [indexStep] at h
    split at h
    · next hcall =>
      cases h
      exact hs.mono (fun _ _ hother => calls_setCall_phase hcall hother) hsame
    · cases h
  | send callId =>
    simp only [indexStep] at h
    split at h
    · next hcall =>
      cases h
      exact hs.mono (fun _ _ hother => calls_setCall_phase hcall hother) hsame
    · cases h
  | land callId =>
    obtain ⟨document, -, rfl⟩ := Option.map_eq_some_iff.mp h
    refine AttemptsTaken.mono hs ?_ hsame
    intro otherId other hother
    by_cases heq : otherId = callId
    · subst heq
      simp only [Function.update_self] at hother
      obtain ⟨old, hold, rfl⟩ := Option.map_eq_some_iff.mp hother
      refine ⟨old, hold, ?_⟩
      split <;> rfl
    · simp only [Function.update_of_ne heq] at hother
      exact ⟨other, hother, rfl⟩
  | recordSuccess callId =>
    simp only [indexStep] at h
    split at h
    · cases h
      exact attemptsTaken_record hs fun _ => rfl
    · cases h
  | recordFailure callId normalizedReason lastErrorText =>
    obtain ⟨call, -, rfl⟩ := Option.map_eq_some_iff.mp h
    exact attemptsTaken_record hs fun _ => rfl
  | stop callId =>
    cases h
    exact hs.mono (fun otherId other hother => ⟨other, (calls_endCall_index hother).2, rfl⟩) hsame

theorem recordedByHolder_of_record (hs : AttemptsTaken s) (hcall : s.calls callId = some call)
    (hchanged : (s.record callId call outcome).snapshot ≠ s.snapshot) :
    ∃ row holder, s.snapshot = some row ∧ s.calls callId = some holder ∧
      row.status = .processing ∧ row.attemptCount = holder.attemptCount ∧
      ∀ otherId other, otherId ≠ callId → s.calls otherId = some other →
        other.attemptCount < holder.attemptCount := by
  cases hrow : s.snapshot with
  | none => simp [IndexState.record, IndexState.endCall, hrow] at hchanged
  | some row =>
    by_cases hholds : row.status = .processing ∧ row.attemptCount = call.attemptCount
    · refine ⟨row, call, rfl, hcall, hholds.1, hholds.2, ?_⟩
      intro otherId other hne hother
      obtain ⟨found, hfound, hle⟩ := hs.counted otherId other hother
      rw [hrow] at hfound
      cases hfound
      rw [hholds.2] at hle
      refine Nat.lt_of_le_of_ne hle fun heq => ?_
      exact hne (hs.distinct otherId other callId call hother hcall heq)
    · simp [IndexState.record, IndexState.endCall, hrow, hholds] at hchanged

theorem recordedByHolder_step (hs : AttemptsTaken s)
    (h : indexStep processingTimeout target s label = some t) :
    RecordedByHolder ⟨s, label, t⟩ := by
  rintro callId (hlabel | ⟨reason, text, hlabel⟩) hchanged
  · cases hlabel
    simp only [indexStep] at h
    split at h
    · next hcall =>
      cases h
      exact recordedByHolder_of_record hs hcall hchanged
    · cases h
  · cases hlabel
    obtain ⟨call, hcall, rfl⟩ := Option.map_eq_some_iff.mp h
    exact recordedByHolder_of_record hs hcall hchanged

end Clock

theorem attemptsTaken_of_initial {processingTimeout : Time} {target : SyncTargetKind}
    {s : IndexState} (hs : InitialIndex processingTimeout target s) : AttemptsTaken s where
  counted := by
    intro callId call hcall
    rw [hs.idle callId] at hcall
    cases hcall
  distinct := by
    intro callId call otherId other hcall
    rw [hs.idle callId] at hcall
    cases hcall

/-- Outcomes are recorded by the claim that holds the row, and the states of a run are all fresh
exactly when its steps all meet the condition. -/
theorem index_fresh_iff_upToDate {processingTimeout : Time} {target : SyncTargetKind}
    {s : IndexState} (hs : InitialIndex processingTimeout target s) (labels : List IndexLabel) :
    (∀ x ∈ transitions (indexStep processingTimeout target) s labels, RecordedByHolder x) ∧
      ((∀ x ∈ transitions (indexStep processingTimeout target) s labels,
          Fresh processingTimeout target x.after) ↔
        ∀ x ∈ transitions (indexStep processingTimeout target) s labels,
          UpToDateStep target x.before x.label) := by
  constructor
  · intro x hx
    have htaken := invariant_before (attemptsTaken_of_initial hs)
      (fun y hy hbefore => attemptsTaken_step hbefore (step_of_mem_transitions hy)) hx
    exact recordedByHolder_step htaken (step_of_mem_transitions hx)
  constructor
  · intro hafter x hx
    have hbefore := invariant_before hs.fresh (fun y hy _ => hafter y hy) hx
    exact (fresh_step_iff hbefore (step_of_mem_transitions hx)).mp (hafter x hx)
  intro hup x hx
  have hkeep : ∀ y ∈ transitions (indexStep processingTimeout target) s labels,
      Fresh processingTimeout target y.before → Fresh processingTimeout target y.after :=
    fun y hy hfresh => (fresh_step_iff hfresh (step_of_mem_transitions hy)).mpr (hup y hy)
  exact hkeep x hx (invariant_before hs.fresh hkeep hx)

section Runs

def savedTwice : IndexRows where
  meme := { id := 1, mediaType := .image, primaryFileId := 2, updatedAt := 3 }
  file := { id := 2, s3OriginalKey := "original", updatedAt := 4 }
  collections := [{ id := 5, ownerId := 8 }, { id := 6, ownerId := 8, addedAt := 7 }]

def uploaded : IndexState where
  clock := 10
  rows := savedTwice

theorem uploaded_initial (target : SyncTargetKind) : InitialIndex 60 target uploaded :=
  ⟨fun _ => rfl, fun _ hrow => by cases hrow⟩

def writtenBy (callId : Nat) : List IndexLabel :=
  [.send callId, .land callId, .recordSuccess callId]

def liked : IndexLabel := .edit 10 (.meme { savedTwice.meme with likeCount := 1 } none)

/-- A like that commits before the rows are loaded. -/
theorem index_fresh_iff_upToDate_liked :
    (∀ x ∈ transitions (indexStep 60 .qdrant) uploaded
        ([.claim 0 9, liked, .load 0] ++ writtenBy 0), RecordedByHolder x) ∧
      ((∀ x ∈ transitions (indexStep 60 .qdrant) uploaded
          ([.claim 0 9, liked, .load 0] ++ writtenBy 0), Fresh 60 .qdrant x.after) ↔
        ∀ x ∈ transitions (indexStep 60 .qdrant) uploaded
          ([.claim 0 9, liked, .load 0] ++ writtenBy 0), UpToDateStep .qdrant x.before x.label) :=
  index_fresh_iff_upToDate (uploaded_initial .qdrant) _

/-- A like that commits between the load and the success, a collection that drops the meme after
the success, and a first write that lands after the success of the second claim. -/
theorem stale_documents_stay :
    ¬ Fresh 60 .meilisearch (final (indexStep 60 .meilisearch) uploaded
        ([.claim 0 9, .load 0, liked, .tick 11] ++ writtenBy 0)) ∧
      ¬ Fresh 60 .meilisearch (final (indexStep 60 .meilisearch) uploaded
        ([.claim 0 9, .load 0] ++ writtenBy 0 ++ [.tick 12, .edit 12 (.removeMeme 5)])) ∧
      ¬ Fresh 60 .meilisearch (final (indexStep 60 .meilisearch) uploaded
        ([.claim 0 9, .load 0, .send 0, liked, .tick 70, .claim 1 9, .load 1] ++ writtenBy 1 ++
          [.land 0])) := by
  decide

end Runs

end Services

end MemeExpert
