import MemeExpert.Lib.Results
import MemeExpert.Lib.Tables
import MemeExpert.Models.SearchSynonyms

/-! An admin edits the draft of a locale and publishes it. -/

namespace MemeExpert.Services

def DESTRUCTIVE_KEY_REDUCTION_THRESHOLD : Rat := 1 / 4

structure SearchSynonymValidationRead where
  valid : Bool
  groupCount : Nat
  compiledKeyCount : Nat
  edgeCount : Nat
  payloadBytes : Nat
  issues : List SynonymValidationIssue

inductive AdminSearchSynonymError where
  | notFound (message : String)
  | conflict (message : String)
  | publishValidation (validation : SearchSynonymValidationRead)
  | destructiveChange (previousKeyCount newKeyCount : Nat)
  | seedUnavailable (message : String)
  | duplicateKey (key : Text) (first second : SearchSynonymLocale)

inductive DraftEdit where
  | saveDraft (sourceText : Text)
  | importSeed
  | resetDraft (revisionId : Option Uuid)

inductive SynonymAction where
  | edit (edit : DraftEdit)
  | publish (confirmDestructive : Bool)

structure AdminSynonymRequest where
  adminUserId : Uuid
  locale : SearchSynonymLocale
  version : String
  reason : String
  action : SynonymAction

def upperLocale : SearchSynonymLocale → String
  | .en => "EN"
  | .ru => "RU"

def findRevision (revisions : List SearchSynonymRevision) (status : SearchSynonymRevisionStatus) :
    Option SearchSynonymRevision :=
  revisions.find? fun revision => revision.status = status

def requireDraft (revisions : List SearchSynonymRevision) (locale : SearchSynonymLocale) :
    Except AdminSearchSynonymError SearchSynonymRevision :=
  match findRevision revisions .draft with
  | none => .error (.notFound s!"The {upperLocale locale} synonym catalog has no mutable draft.")
  | some draft => .ok draft

def reviewedDraft (revisions : List SearchSynonymRevision) (request : AdminSynonymRequest) :
    Except AdminSearchSynonymError SearchSynonymRevision :=
  match requireDraft revisions request.locale with
  | .error error => .error error
  | .ok draft =>
    if toString draft.version ≠ request.version then
      .error (.conflict "Synonym draft changed; reload it before applying this mutation.")
    else .ok draft

def applyCompileResult (draft : SearchSynonymRevision) (sourceText : Text)
    (result : SearchSynonymCompileResult) (adminUserId : Uuid) (changeNote : String) :
    SearchSynonymRevision :=
  { draft with
    sourceText := sourceText
    compiledSynonyms := result.compiledSynonyms
    compilerVersion := result.compilerVersion
    compiledHash := result.compiledHash
    validation := result.validation
    stats := result.stats
    changeNote := changeNote
    updatedByAdminUserId := some adminUserId
    version := draft.version + 1 }

section Edits

variable (runtime : TextRuntime) (seeds : SearchSynonymLocale → Option Text)

def resetSource (revisions : List SearchSynonymRevision) (locale : SearchSynonymLocale) :
    Option Uuid → Except AdminSearchSynonymError Text
  | none => .ok (((findRevision revisions .published).map (·.sourceText)).getD [])
  | some revisionId =>
    match revisions.find? fun revision =>
        revision.id = revisionId && revision.status ∈ [.published, .archived] with
    | none =>
      .error (.notFound
        s!"Immutable {upperLocale locale} synonym revision {revisionId} does not exist.")
    | some revision => .ok revision.sourceText

def editedSource (revisions : List SearchSynonymRevision) (locale : SearchSynonymLocale) :
    DraftEdit → Except AdminSearchSynonymError Text
  | .saveDraft sourceText => .ok sourceText
  | .importSeed =>
    match seeds locale with
    | none =>
      .error (.seedUnavailable s!"The bundled {upperLocale locale} synonym seed is unavailable.")
    | some sourceText => .ok sourceText
  | .resetDraft revisionId => resetSource revisions locale revisionId

/-- `save_draft`, `import_seed` and `reset_draft`. -/
def editDraft (revisions : List SearchSynonymRevision) (request : AdminSynonymRequest)
    (edit : DraftEdit) : Except AdminSearchSynonymError SearchSynonymRevision := do
  let draft ← reviewedDraft revisions request
  let sourceText ← editedSource seeds revisions request.locale edit
  pure (applyCompileResult draft sourceText
    (compileSearchSynonyms runtime sourceText request.locale) request.adminUserId request.reason)

end Edits

def writeEdited (rows : List SearchSynonymRevision) (edited : SearchSynonymRevision) :
    List SearchSynonymRevision :=
  rows.map fun row => if row.id = edited.id then edited else row

def validationRead (result : SearchSynonymCompileResult) : SearchSynonymValidationRead where
  valid := result.valid
  groupCount := result.stats.groupCount
  compiledKeyCount := result.stats.compiledKeyCount
  edgeCount := result.stats.edgeCount
  payloadBytes := result.stats.payloadBytes
  issues := result.validation.issues

attribute [local instance] lawfulBEq_text

def findCrossLocaleKeyCollisions (publishedMaps : List SynonymMap) (compiledSynonyms : SynonymMap) :
    List Text :=
  sortedSet ((publishedMaps.flatMap keysOf).filter fun key => key ∈ keysOf compiledSynonyms)

def crossLocaleCollision (key : Text) : SynonymValidationIssue where
  level := .error
  code := "cross_locale_key_collision"
  message := "The normalized key is already published in another locale catalog."
  term := some key

def isDestructive (previousKeyCount newKeyCount : Nat) : Bool :=
  0 < previousKeyCount && newKeyCount < previousKeyCount &&
    DESTRUCTIVE_KEY_REDUCTION_THRESHOLD < (previousKeyCount - newKeyCount : Rat) / previousKeyCount

structure PublishedDraft where
  archived : Option SearchSynonymRevision
  published : SearchSynonymRevision
  nextDraft : SearchSynonymRevision

def publishedDraft (revisions : List SearchSynonymRevision) (draft : SearchSynonymRevision)
    (result : SearchSynonymCompileResult) (adminUserId nextDraftId : Uuid) (reason : String)
    (now : Time) : PublishedDraft where
  archived := (findRevision revisions .published).map fun previous =>
    { previous with
      status := .archived, archivedAt := some now, archivedByAdminUserId := some adminUserId }
  published :=
    { draft with
      status := .published
      compiledSynonyms := result.compiledSynonyms
      compilerVersion := result.compilerVersion
      compiledHash := result.compiledHash
      validation := result.validation
      stats := result.stats
      changeNote := reason
      updatedByAdminUserId := some adminUserId
      publishedByAdminUserId := some adminUserId
      publishedAt := some now
      archivedAt := none
      archivedByAdminUserId := none }
  nextDraft :=
    { id := nextDraftId
      catalogId := draft.catalogId
      revisionNumber := (revisions.map (·.revisionNumber)).max?.getD 0 + 1
      status := .draft
      sourceText := draft.sourceText
      compiledSynonyms := result.compiledSynonyms
      compilerVersion := result.compilerVersion
      compiledHash := result.compiledHash
      validation := result.validation
      stats := result.stats
      changeNote := s!"Draft cloned from published revision {draft.revisionNumber}."
      version := 1
      createdByAdminUserId := some adminUserId
      updatedByAdminUserId := some adminUserId }

section Publish

variable (runtime : TextRuntime)

/-- `publish_draft` up to its flush; `otherMaps` are the published maps of other catalogs. -/
def publishDraft (revisions : List SearchSynonymRevision) (otherMaps : List SynonymMap)
    (request : AdminSynonymRequest) (confirmDestructive : Bool) (nextDraftId : Uuid) (now : Time) :
    Except AdminSearchSynonymError PublishedDraft :=
  match reviewedDraft revisions request with
  | .error error => .error error
  | .ok draft =>
    let result := compileSearchSynonyms runtime draft.sourceText request.locale
    let collidingKeys := findCrossLocaleKeyCollisions otherMaps result.compiledSynonyms
    let previousKeyCount :=
      ((findRevision revisions .published).map (·.compiledSynonyms.length)).getD 0
    if result.valid = false then .error (.publishValidation (validationRead result))
    else if collidingKeys ≠ [] then
      .error (.publishValidation
        { validationRead result with
          valid := false
          issues := result.validation.issues ++ collidingKeys.map crossLocaleCollision })
    else if isDestructive previousKeyCount result.compiledSynonyms.length &&
        !confirmDestructive then
      .error (.destructiveChange previousKeyCount result.compiledSynonyms.length)
    else
      .ok (publishedDraft revisions draft result request.adminUserId nextDraftId request.reason now)

end Publish

def PublishedDraft.update (write : PublishedDraft) (row : SearchSynonymRevision) :
    SearchSynonymRevision :=
  if row.id = write.published.id then write.published
  else
    match write.archived with
    | some archived => if row.id = archived.id then archived else row
    | none => row

def writePublished (rows : List SearchSynonymRevision) (write : PublishedDraft) :
    List SearchSynonymRevision :=
  rows.map write.update ++ [write.nextDraft]

def otherPublishedMaps (revisions : List SearchSynonymRevision) (catalogId : Uuid) :
    List SynonymMap :=
  (revisions.filter fun row => row.catalogId ≠ catalogId && row.status = .published).map
    (·.compiledSynonyms)

def publishedWithLocale (catalogs : List SearchSynonymCatalog)
    (revisions : List SearchSynonymRevision) :
    List (SearchSynonymRevision × SearchSynonymLocale) :=
  [SearchSynonymLocale.en, .ru].flatMap fun locale =>
    (catalogs.filter fun catalog => catalog.locale = locale).flatMap fun catalog =>
      ((revisions.filter fun row => row.status = .published && row.catalogId = catalog.id)
        |>.insertionSort fun first second => first.revisionNumber ≤ second.revisionNumber).map
          fun row => (row, locale)

structure PublishedSnapshotScan where
  combined : SynonymMap := []
  keyLocales : List (Text × SearchSynonymLocale) := []
  revisionIds : List (SearchSynonymLocale × Uuid) := []

def scanPublished (scan : PublishedSnapshotScan)
    (row : SearchSynonymRevision × SearchSynonymLocale) :
    Except AdminSearchSynonymError PublishedSnapshotScan :=
  match sortedSet ((keysOf scan.combined).filter fun key => key ∈ keysOf row.1.compiledSynonyms) with
  | firstKey :: _ =>
    .error (.duplicateKey firstKey ((scan.keyLocales.lookup firstKey).getD row.2) row.2)
  | [] =>
    .ok
      { combined := scan.combined ++ row.1.compiledSynonyms
        keyLocales := scan.keyLocales ++ (keysOf row.1.compiledSynonyms).map fun key => (key, row.2)
        revisionIds := scan.revisionIds ++ [(row.2, row.1.id)] }

def loadPublishedSnapshot (catalogs : List SearchSynonymCatalog)
    (revisions : List SearchSynonymRevision) :
    Except AdminSearchSynonymError (SynonymMap × List (SearchSynonymLocale × Uuid)) :=
  ((publishedWithLocale catalogs revisions).foldlM scanPublished {}).map fun scan =>
    (sortedByKey scan.combined, scan.revisionIds)

def requestedSync (state : SearchSynonymSyncState) (desiredHash : String)
    (desiredRevisionIds : List (SearchSynonymLocale × Uuid)) (now : Time) :
    SearchSynonymSyncState :=
  { state with
    status := .pending
    desiredHash := some desiredHash
    desiredRevisionIds := desiredRevisionIds
    requestedAt := some now
    lastError := none
    version := state.version + 1 }

/-- `retry_sync` keeps the desired state. -/
def retrySync (state : SearchSynonymSyncState) (now : Time) :
    Except AdminSearchSynonymError SearchSynonymSyncState :=
  if state.desiredHash = none ∨ state.desiredRevisionIds = [] then
    .error (.conflict "Publish at least one synonym revision before requesting synchronization.")
  else
    .ok
      { state with
        status := .pending, requestedAt := some now, lastError := none
        version := state.version + 1 }

section Specs

open Results

variable {runtime : TextRuntime} {seeds : SearchSynonymLocale → Option Text}
  {revisions : List SearchSynonymRevision} {request : AdminSynonymRequest}

theorem mem_of_findRevision {status : SearchSynonymRevisionStatus}
    {revision : SearchSynonymRevision} (h : findRevision revisions status = some revision) :
    revision ∈ revisions ∧ revision.status = status :=
  ⟨List.mem_of_find?_eq_some h, by simpa using List.find?_some h⟩

theorem mem_of_reviewedDraft {draft : SearchSynonymRevision}
    (h : reviewedDraft revisions request = .ok draft) :
    draft ∈ revisions ∧ draft.status = .draft := by
  unfold reviewedDraft requireDraft at h
  split at h
  · cases h
  next found hfound =>
  split at hfound
  · cases hfound
  next hdraft =>
  cases hfound
  split at h
  · cases h
  · cases h
    exact mem_of_findRevision hdraft

theorem eq_of_editDraft {edit : DraftEdit} {edited : SearchSynonymRevision}
    (h : editDraft runtime seeds revisions request edit = .ok edited) :
    ∃ draft ∈ revisions, draft.status = .draft ∧ edited.id = draft.id ∧
      edited.catalogId = draft.catalogId ∧ edited.revisionNumber = draft.revisionNumber ∧
      edited.status = .draft := by
  obtain ⟨draft, hdraft, h⟩ := bind_eq_ok.mp h
  obtain ⟨sourceText, -, h⟩ := bind_eq_ok.mp h
  cases pure_eq_ok.mp h
  obtain ⟨hmem, hstatus⟩ := mem_of_reviewedDraft hdraft
  exact ⟨draft, hmem, hstatus, rfl, rfl, rfl, hstatus⟩

theorem not_mem_of_no_collisions {publishedMaps : List SynonymMap} {compiled other : SynonymMap}
    {key : Text} (h : findCrossLocaleKeyCollisions publishedMaps compiled = [])
    (hother : other ∈ publishedMaps) (hkey : key ∈ keysOf other) : key ∉ keysOf compiled := by
  intro hcompiled
  have hmem : key ∈ findCrossLocaleKeyCollisions publishedMaps compiled := by
    rw [findCrossLocaleKeyCollisions, sortedSet, List.mem_insertionSort, List.mem_dedup,
      List.mem_filter, List.mem_flatMap]
    exact ⟨⟨other, hother, hkey⟩, decide_eq_true hcompiled⟩
  rw [h] at hmem
  cases hmem

theorem eq_of_publishDraft {otherMaps : List SynonymMap} {confirmDestructive : Bool}
    {nextDraftId : Uuid} {now : Time} {write : PublishedDraft}
    (h : publishDraft runtime revisions otherMaps request confirmDestructive nextDraftId now =
      .ok write) :
    ∃ draft ∈ revisions, ∃ result, draft.status = .draft ∧
      write = publishedDraft revisions draft result request.adminUserId nextDraftId request.reason
        now ∧
      ∀ other ∈ otherMaps, ∀ key ∈ keysOf other, key ∉ keysOf result.compiledSynonyms := by
  simp only [publishDraft] at h
  split at h
  · cases h
  next draft hdraft =>
  obtain ⟨hmem, hstatus⟩ := mem_of_reviewedDraft hdraft
  split at h
  · cases h
  split at h
  · cases h
  next hcollisions =>
  split at h
  · cases h
  cases h
  exact ⟨draft, hmem, _, hstatus, rfl, fun other hother key hkey =>
    not_mem_of_no_collisions (not_not.mp hcollisions) hother hkey⟩

end Specs

def revisionContent (row : SearchSynonymRevision) : SearchSynonymRevision :=
  { row with status := .published, archivedAt := none, archivedByAdminUserId := none }

structure RowKept (row next : SearchSynonymRevision) : Prop where
  id : next.id = row.id
  catalogId : next.catalogId = row.catalogId
  revisionNumber : next.revisionNumber = row.revisionNumber
  settled : row.status ≠ .draft → next.status ≠ .draft ∧ revisionContent next = revisionContent row

theorem rowKept_refl (row : SearchSynonymRevision) : RowKept row row :=
  ⟨rfl, rfl, rfl, fun h => ⟨h, rfl⟩⟩

variable {row : SearchSynonymRevision}

theorem rowKept_of_draft {next : SearchSynonymRevision} (hid : next.id = row.id)
    (hcatalog : next.catalogId = row.catalogId)
    (hnumber : next.revisionNumber = row.revisionNumber) (hdraft : row.status = .draft) :
    RowKept row next :=
  ⟨hid, hcatalog, hnumber, fun h => (h hdraft).elim⟩

structure EditsDraft (tables : SynonymCatalogs) (catalogId : Uuid)
    (edited draft : SearchSynonymRevision) : Prop where
  mem : draft ∈ tables.revisions
  catalog : draft.catalogId = catalogId
  status : draft.status = .draft
  id : edited.id = draft.id
  edited_catalog : edited.catalogId = catalogId
  number : edited.revisionNumber = draft.revisionNumber
  edited_status : edited.status = .draft

structure PublishesDraft (tables : SynonymCatalogs) (catalogId : Uuid) (write : PublishedDraft)
    (draft : SearchSynonymRevision) : Prop where
  mem : draft ∈ tables.revisions
  catalog : draft.catalogId = catalogId
  status : draft.status = .draft
  published_id : write.published.id = draft.id
  published_catalog : write.published.catalogId = catalogId
  published_number : write.published.revisionNumber = draft.revisionNumber
  published_status : write.published.status = .published
  next_catalog : write.nextDraft.catalogId = catalogId
  next_status : write.nextDraft.status = .draft
  next_number : ∀ row ∈ tables.revisions, row.catalogId = catalogId →
    row.revisionNumber < write.nextDraft.revisionNumber
  archives : ∀ row ∈ tables.revisions, row.catalogId = catalogId → row.status = .published →
    ∃ archived, write.archived = some archived ∧ archived.id = row.id
  archived_row : ∀ archived, write.archived = some archived → archived.status = .archived ∧
    ∃ row ∈ tables.revisions, row.catalogId = catalogId ∧ RowKept row archived
  keys_apart : ∀ row ∈ tables.revisions, row.catalogId ≠ catalogId → row.status = .published →
    ∀ key ∈ keysOf row.compiledSynonyms, key ∉ keysOf write.published.compiledSynonyms

def KeysApart (revisions : List SearchSynonymRevision) : Prop :=
  ∀ first ∈ revisions, ∀ second ∈ revisions, first.status = .published →
    second.status = .published → first.catalogId ≠ second.catalogId →
      ∀ key ∈ keysOf first.compiledSynonyms, key ∉ keysOf second.compiledSynonyms

section Rows

variable {runtime : TextRuntime} {seeds : SearchSynonymLocale → Option Text}
  {tables : SynonymCatalogs} {catalogId : Uuid} {request : AdminSynonymRequest}
  {write : PublishedDraft} {edited draft : SearchSynonymRevision}

theorem editsDraft_of_ok {edit : DraftEdit}
    (h : editDraft runtime seeds (tables.revisionsOf catalogId) request edit = .ok edited) :
    ∃ draft, EditsDraft tables catalogId edited draft := by
  obtain ⟨draft, hdraft, hstatus, hid, hcatalog, hnumber, hedited⟩ := eq_of_editDraft h
  obtain ⟨hmem, hof⟩ := SynonymCatalogs.mem_revisionsOf.mp hdraft
  exact ⟨draft, hmem, hof, hstatus, hid, hcatalog.trans hof, hnumber, hedited⟩

theorem publishesDraft_of_ok {confirmDestructive : Bool} {nextDraftId : Uuid} {now : Time}
    (h : publishDraft runtime (tables.revisionsOf catalogId)
      (otherPublishedMaps tables.revisions catalogId) request confirmDestructive nextDraftId now =
        .ok write) : ∃ draft, PublishesDraft tables catalogId write draft := by
  obtain ⟨draft, hdraft, result, hstatus, rfl, hkeys⟩ := eq_of_publishDraft h
  obtain ⟨hmem, hof⟩ := SynonymCatalogs.mem_revisionsOf.mp hdraft
  refine ⟨draft, hmem, hof, hstatus, rfl, hof, rfl, rfl, hof, rfl, ?_, ?_, ?_, ?_⟩
  · intro row hrow hcatalog
    have hnumber : row.revisionNumber ∈ (tables.revisionsOf catalogId).map (·.revisionNumber) :=
      List.mem_map_of_mem (SynonymCatalogs.mem_revisionsOf.mpr ⟨hrow, hcatalog⟩)
    exact Nat.lt_succ_of_le (List.le_max?_getD_of_mem hnumber)
  · intro row hrow hcatalog hpublished
    have hrows := SynonymCatalogs.mem_revisionsOf.mpr ⟨hrow, hcatalog⟩
    cases hfound : findRevision (tables.revisionsOf catalogId) .published with
    | none => exact (List.find?_eq_none.mp hfound row hrows (by simpa using hpublished)).elim
    | some previous =>
      obtain ⟨hprevious, hstatus⟩ := mem_of_findRevision hfound
      obtain ⟨hprevious, hsame⟩ := SynonymCatalogs.mem_revisionsOf.mp hprevious
      have heq : previous = row := by
        apply List.inj_on_of_nodup_map tables.constraints.one_published
        · exact List.mem_filter.mpr ⟨hprevious, decide_eq_true hstatus⟩
        · exact List.mem_filter.mpr ⟨hrow, decide_eq_true hpublished⟩
        · exact hsame.trans hcatalog.symm
      simp only [publishedDraft, hfound, Option.map_some, Option.some.injEq, exists_eq_left']
      rw [heq]
  · intro archived harchived
    obtain ⟨previous, hfound, rfl⟩ := Option.map_eq_some_iff.mp harchived
    obtain ⟨hprevious, -⟩ := mem_of_findRevision hfound
    obtain ⟨hprevious, hsame⟩ := SynonymCatalogs.mem_revisionsOf.mp hprevious
    exact ⟨rfl, previous, hprevious, hsame, rfl, rfl, rfl, fun _ => ⟨nofun, rfl⟩⟩
  · intro row hrow hother hpublished key hkey
    refine hkeys row.compiledSynonyms ?_ key hkey
    exact List.mem_map_of_mem (List.mem_filter.mpr ⟨hrow, by simp [hother, hpublished]⟩)

theorem eq_of_revision_id {other : SearchSynonymRevision} (hrow : row ∈ tables.revisions)
    (hother : other ∈ tables.revisions) (hid : row.id = other.id) : row = other :=
  List.inj_on_of_nodup_map tables.constraints.revisions_unique hrow hother hid

theorem rowKept_edited (h : EditsDraft tables catalogId edited draft)
    (hrow : row ∈ tables.revisions) :
    RowKept row (if row.id = edited.id then edited else row) := by
  split
  · next hid =>
    cases eq_of_revision_id hrow h.mem (hid.trans h.id)
    exact rowKept_of_draft h.id (h.edited_catalog.trans h.catalog.symm) h.number h.status
  · exact rowKept_refl row

theorem rowKept_update (h : PublishesDraft tables catalogId write draft)
    (hrow : row ∈ tables.revisions) :
    RowKept row (write.update row) := by
  unfold PublishedDraft.update
  split
  · next hid =>
    cases eq_of_revision_id hrow h.mem (hid.trans h.published_id)
    exact rowKept_of_draft h.published_id (h.published_catalog.trans h.catalog.symm)
      h.published_number h.status
  split
  · next archived harchived =>
    split
    · next hid =>
      obtain ⟨-, old, hold, -, hkept⟩ := h.archived_row archived harchived
      cases eq_of_revision_id hrow hold (hid.trans hkept.id)
      exact hkept
    · exact rowKept_refl row
  · exact rowKept_refl row

theorem published_of_writePublished (h : PublishesDraft tables catalogId write draft)
    {next : SearchSynonymRevision} (hnext : next ∈ writePublished tables.revisions write)
    (hpublished : next.status = .published) :
    next = write.published ∨ next ∈ tables.revisions ∧ next.catalogId ≠ catalogId := by
  rw [writePublished, List.mem_append, List.mem_singleton] at hnext
  obtain hold | rfl := hnext
  · obtain ⟨row, hrow, rfl⟩ := List.mem_map.mp hold
    unfold PublishedDraft.update at hpublished ⊢
    split
    · exact .inl rfl
    next hid =>
    rw [if_neg hid] at hpublished
    refine .inr ?_
    split
    · next archived harchived =>
      rw [harchived] at hpublished
      obtain ⟨hstatus, -⟩ := h.archived_row archived harchived
      dsimp only at hpublished
      split
      · next heq =>
        rw [if_pos heq, hstatus] at hpublished
        cases hpublished
      next hne =>
      rw [if_neg hne] at hpublished
      refine ⟨hrow, fun hcatalog => ?_⟩
      obtain ⟨other, hother, hsame⟩ := h.archives row hrow hcatalog hpublished
      cases harchived.symm.trans hother
      exact hne hsame.symm
    · next hnone =>
      rw [hnone] at hpublished
      refine ⟨hrow, fun hcatalog => ?_⟩
      obtain ⟨other, hother, -⟩ := h.archives row hrow hcatalog hpublished
      cases hnone.symm.trans hother
  · rw [h.next_status] at hpublished
    cases hpublished

theorem keysApart_writePublished (hkeys : KeysApart tables.revisions)
    (h : PublishesDraft tables catalogId write draft) :
    KeysApart (writePublished tables.revisions write) := by
  intro first hfirst second hsecond hp hq hne key hkey hshared
  obtain rfl | ⟨hfirst, hfirstCatalog⟩ := published_of_writePublished h hfirst hp
  · obtain rfl | ⟨hsecond, hother⟩ := published_of_writePublished h hsecond hq
    · exact hne rfl
    · exact h.keys_apart second hsecond hother hq key hshared hkey
  · obtain rfl | ⟨hsecond, -⟩ := published_of_writePublished h hsecond hq
    · exact h.keys_apart first hfirst hfirstCatalog hp key hkey hshared
    · exact hkeys first hfirst second hsecond hp hq hne key hkey hshared

theorem keysApart_writeEdited (hkeys : KeysApart tables.revisions)
    (h : EditsDraft tables catalogId edited draft) :
    KeysApart (writeEdited tables.revisions edited) := by
  have hold : ∀ next ∈ writeEdited tables.revisions edited, next.status = .published →
      next ∈ tables.revisions := by
    intro next hnext hpublished
    obtain ⟨row, hrow, rfl⟩ := List.mem_map.mp hnext
    split
    · next hid =>
      rw [if_pos hid, h.edited_status] at hpublished
      cases hpublished
    · exact hrow
  intro first hfirst second hsecond hp hq
  exact hkeys first (hold first hfirst hp) second (hold second hsecond hq) hp hq

theorem filter_writeEdited (h : EditsDraft tables catalogId edited draft)
    {p : SearchSynonymRevision → Bool} (hbefore : p draft = false) (hafter : p edited = false) :
    (writeEdited tables.revisions edited).filter p = tables.revisions.filter p := by
  apply Tables.filter_map_of_unseen
  intro row hrow
  split
  · next hid =>
    cases eq_of_revision_id hrow h.mem (hid.trans h.id)
    exact .inr ⟨hbefore, hafter⟩
  · exact .inl rfl

theorem filter_writePublished (h : PublishesDraft tables catalogId write draft)
    {p : SearchSynonymRevision → Bool} (hp : ∀ row, row.catalogId = catalogId → p row = false) :
    (writePublished tables.revisions write).filter p = tables.revisions.filter p := by
  have hnext : [write.nextDraft].filter p = [] := by
    rw [List.filter_eq_nil_iff]
    simp [hp _ h.next_catalog]
  rw [writePublished, List.filter_append, hnext, List.append_nil]
  apply Tables.filter_map_of_unseen
  intro row hrow
  have hkept := rowKept_update h hrow
  by_cases hcatalog : row.catalogId = catalogId
  · exact .inr ⟨hp row hcatalog, hp _ (hkept.catalogId.trans hcatalog)⟩
  left
  unfold PublishedDraft.update
  split
  · next hid =>
    cases eq_of_revision_id hrow h.mem (hid.trans h.published_id)
    exact (hcatalog h.catalog).elim
  split
  · next archived harchived =>
    split
    · next hid =>
      obtain ⟨-, old, hold, hof, hkept⟩ := h.archived_row archived harchived
      cases eq_of_revision_id hrow hold (hid.trans hkept.id)
      exact (hcatalog hof).elim
    · rfl
  · rfl

theorem mem_publishedWithLocale {catalogs : List SearchSynonymCatalog}
    {revisions : List SearchSynonymRevision}
    {locale : SearchSynonymLocale} :
    (row, locale) ∈ publishedWithLocale catalogs revisions ↔
      row ∈ revisions ∧ row.status = .published ∧
        ∃ catalog ∈ catalogs, catalog.id = row.catalogId ∧ catalog.locale = locale := by
  simp only [publishedWithLocale, List.mem_flatMap, List.mem_filter, List.mem_map,
    List.mem_insertionSort, decide_eq_true_eq, Bool.and_eq_true, Prod.mk.injEq]
  constructor
  · rintro ⟨_, -, catalog, ⟨hcatalog, rfl⟩, _, ⟨hrow, hpublished, hid⟩, rfl, rfl⟩
    exact ⟨hrow, hpublished, catalog, hcatalog, hid.symm, rfl⟩
  rintro ⟨hrow, hpublished, catalog, hcatalog, hid, rfl⟩
  refine ⟨catalog.locale, ?_, catalog, ⟨hcatalog, rfl⟩, row, ⟨hrow, hpublished, hid.symm⟩,
    rfl, rfl⟩
  cases catalog.locale <;> simp

end Rows

end MemeExpert.Services
