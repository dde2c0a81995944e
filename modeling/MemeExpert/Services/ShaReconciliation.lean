import MemeExpert.Services.LineageMerge

/-! Files with the same bytes are merged into one file of the oldest of their memes, one
hash at a time. -/

namespace MemeExpert

open Repointing Services Tables

section Columns

def stageColumns : Columns PipelineStageJournal ContentPipelineStage Uuid where
  owner := PipelineStageJournal.stage
  ref := PipelineStageJournal.memeFileId
  withRef memeFileId row := { row with memeFileId := memeFileId }
  owner_withRef _ _ := rfl
  ref_withRef _ _ := rfl

def syncColumns : Columns MemeFileSyncTargetSnapshot SyncTargetKind Uuid where
  owner := MemeFileSyncTargetSnapshot.syncTarget
  ref := MemeFileSyncTargetSnapshot.memeFileId
  withRef memeFileId row := { row with memeFileId := memeFileId }
  owner_withRef _ _ := rfl
  ref_withRef _ _ := rfl

def ocrColumns : Columns MemeFileOCRResult Unit Uuid where
  owner _ := ()
  ref := MemeFileOCRResult.memeFileId
  withRef memeFileId row := { row with memeFileId := memeFileId }
  owner_withRef _ _ := rfl
  ref_withRef _ _ := rfl

def telegramColumns : Columns TelegramFileIdCache (TelegramMediaFormat × String) Uuid where
  owner row := (row.mediaFormat, row.botScope)
  ref := TelegramFileIdCache.memeFileId
  withRef memeFileId row := { row with memeFileId := memeFileId }
  owner_withRef _ _ := rfl
  ref_withRef _ _ := rfl

end Columns

/-- `jsonb_set` on one field where it holds the source identifier. -/
def rewritePayloadId (fieldName : String) (sourceId targetId : Uuid)
    (payload : List (String × PayloadText)) : List (String × PayloadText) :=
  payload.map fun entry =>
    if entry.1 = fieldName ∧ entry.2 = .id sourceId then (entry.1, .id targetId) else entry

def PayloadText.redirect (sourceId targetId : Uuid) (value : PayloadText) : PayloadText :=
  if value = .id sourceId then .id targetId else value

def transferSeoPage (pages : List MemeSeoPage) (sourceMemeId targetMemeId : Uuid) :
    List MemeSeoPage :=
  match pages.find? fun page => page.memeId = sourceMemeId with
  | none => pages
  | some sourcePage =>
    match pages.find? fun page => page.memeId = targetMemeId with
    | none =>
      pages.map fun page =>
        if page.memeId = sourceMemeId then { page with memeId := targetMemeId } else page
    | some _ =>
      (pages.filter fun page => page.memeId ≠ sourceMemeId).map fun page =>
        if page.memeId = targetMemeId then
          { page with tags := (page.tags ++ sourcePage.tags).eraseDups }
        else page

structure ShaReconciliationResult where
  sha256Hex : String
  canonicalMemeId : Uuid
  canonicalMemeFileId : Uuid
  obsoleteMemeIds : List Uuid := []
  obsoleteMemeFileIds : List Uuid := []

namespace Content

section Transfers

def fileFields : List String := ["meme_file_id", "matched_meme_file_id", "materialized_meme_file_id"]

def memeFields : List String := ["meme_id", "duplicate_of_meme_id", "materialized_meme_id"]

variable (s : Content) (sourceId targetId : Uuid)

def transferFileOutboxReferences : Content :=
  { s with
    outbox := s.outbox.map fun row =>
      { row with
        aggregateId :=
          if row.aggregateType = .memeFile then redirect sourceId targetId row.aggregateId
          else row.aggregateId
        orderingKey := row.orderingKey.map (redirect sourceId targetId)
        payload := fileFields.foldl
          (fun payload fieldName => rewritePayloadId fieldName sourceId targetId payload)
          row.payload } }

def transferMemeOutboxReferences : Content :=
  { s with
    outbox := s.outbox.map fun row =>
      { row with
        payload := memeFields.foldl
          (fun payload fieldName => rewritePayloadId fieldName sourceId targetId payload)
          row.payload } }

/-- References without a key of their own are updated in place, keyed rows are moved unless the
target has one of the key. -/
def transferFileDependencies : Content :=
  let referenced : Content :=
    { s with
      sources := s.sources.map fun row =>
        { row with
          fileId := redirect sourceId targetId row.fileId
          matchedMemeFileId := row.matchedMemeFileId.map (redirect sourceId targetId) }
      embeddings := s.embeddings.map fun row =>
        { row with sourceFileId := row.sourceFileId.map (redirect sourceId targetId) }
      requests := s.requests.map fun row =>
        { row with
          materializedMemeFileId := row.materializedMemeFileId.map (redirect sourceId targetId)
          matchedMemeFileId := row.matchedMemeFileId.map (redirect sourceId targetId) }
      files := s.files.map fun file =>
        { file with matchedMemeFileId := file.matchedMemeFileId.map (redirect sourceId targetId) } }
  let published := referenced.transferFileOutboxReferences sourceId targetId
  { published with
    stageRows := repoint stageColumns sourceId targetId s.stageRows
    syncRows := repoint syncColumns sourceId targetId s.syncRows
    ocrRows := repoint ocrColumns sourceId targetId s.ocrRows
    telegramRows := repoint telegramColumns sourceId targetId s.telegramRows }

def transferAnalyticsHistory : Content :=
  { s with
    analytics := s.analytics.map fun row =>
      { row with
        memeId := row.memeId.map (PayloadText.redirect sourceId targetId)
        refsMemeId := row.refsMemeId.map (PayloadText.redirect sourceId targetId) } }

def transferMemeDependencies : Content :=
  let moved : Content :=
    { s with
      collectionMemes := repoint saveColumns sourceId targetId s.collectionMemes
      pinnedMemes := repoint pinColumns sourceId targetId s.pinnedMemes
      reports := s.reports.map fun row => { row with memeId := redirect sourceId targetId row.memeId }
      decisions := s.decisions.map fun row =>
        { row with memeId := redirect sourceId targetId row.memeId }
      selections := s.selections.map fun row =>
        { row with memeId := row.memeId.map (redirect sourceId targetId) }
      requests := s.requests.map fun row =>
        { row with materializedMemeId := row.materializedMemeId.map (redirect sourceId targetId) } }
  let published := moved.transferMemeOutboxReferences sourceId targetId
  { published with seoPages := transferSeoPage s.seoPages sourceId targetId }
    |>.transferAnalyticsHistory sourceId targetId

def MERGE_REASON_SHA256_RECONCILIATION : String := "sha256_reconciliation"

def canonicalRank (file : CanonicalFile) : Nat :=
  (if file.blockedPerceptualHashId = none then 2 else 0) + if file.status = .ready then 0 else 1

def canonicalFirst (a b : CanonicalFile) : Prop :=
  canonicalRank a < canonicalRank b ∨
    (canonicalRank a = canonicalRank b ∧
      (a.createdAt < b.createdAt ∨ (a.createdAt = b.createdAt ∧ a.id ≤ b.id)))

instance (a b : CanonicalFile) : Decidable (canonicalFirst a b) :=
  inferInstanceAs (Decidable (_ ∨ _))

def olderMeme (a b : CanonicalMeme) : Prop :=
  a.createdAt < b.createdAt ∨ (a.createdAt = b.createdAt ∧ a.id ≤ b.id)

instance (a b : CanonicalMeme) : Decidable (olderMeme a b) := inferInstanceAs (Decidable (_ ∨ _))

def olderFile (a b : CanonicalFile) : Prop :=
  a.createdAt < b.createdAt ∨ (a.createdAt = b.createdAt ∧ a.id ≤ b.id)

instance (a b : CanonicalFile) : Decidable (olderFile a b) := inferInstanceAs (Decidable (_ ∨ _))

def filesWithSha (sha256Hex : String) : List CanonicalFile :=
  (s.files.filter fun file => file.sha256Hex = some sha256Hex).insertionSort olderFile

def memesOfFiles (files : List CanonicalFile) : List CanonicalMeme :=
  (s.memes.filter fun meme => files.any fun file => file.memeId = meme.id).insertionSort olderMeme

def resolveCanonical (memes : List CanonicalMeme) (canonical : CanonicalMeme) : CanonicalMeme :=
  { canonical with
    visibilityMode := resolveVisibilityMode (memes.map CanonicalMeme.visibilityMode)
    isNsfw := memes.any CanonicalMeme.isNsfw
    tags := (memes.flatMap CanonicalMeme.tags).eraseDups
    ocrText :=
      match canonical.ocrText with
      | some text => some text
      | none => (memes.filterMap CanonicalMeme.ocrText).find? fun text => text ≠ ""
    templateId := canonical.templateId <|> (memes.filterMap CanonicalMeme.templateId).head? }

def primaryFirst (a b : CanonicalFile) : Prop :=
  b.qualityScore < a.qualityScore ∨
    (a.qualityScore = b.qualityScore ∧
      (a.createdAt < b.createdAt ∨ (a.createdAt = b.createdAt ∧ a.id ≤ b.id)))

instance (a b : CanonicalFile) : Decidable (primaryFirst a b) := inferInstanceAs (Decidable (_ ∨ _))

def selectPrimaryFile (memeId : Uuid) : Except ServiceError Uuid :=
  match (s.filesOf memeId).insertionSort primaryFirst with
  | [] => .error ⟨.shaReconciliation, s!"Reconciled meme {memeId} has no files."⟩
  | best :: _ => .ok best.id

/-- `count(distinct collections.owner_id)` over the Favorites that hold the meme. -/
def favoriteOwners (memeId : Uuid) : List Uuid :=
  ((s.collections.filter fun collection => collection.kind = .favorites &&
    s.collectionMemes.any fun row =>
      row.collectionId = collection.id && row.memeId = memeId).map Collection.ownerId).dedup

def recomputeLikeCount (memeId : Uuid) : Content :=
  s.updateMeme memeId fun meme => { meme with likeCount := (s.favoriteOwners memeId).length }

def transferGroup (memes : List CanonicalMeme) (canonicalMeme : CanonicalMeme)
    (canonicalFile : CanonicalFile) (obsoleteFiles : List CanonicalFile)
    (obsoleteMemeIds : List Uuid) : Content :=
  let obsoleteFileIds := obsoleteFiles.map fun file => file.id
  let logged : Content :=
    { s with
      mergeLogs := s.mergeLogs ++ obsoleteFiles.map fun file =>
        { sourceMemeId := file.memeId, sourceMemeFileId := some file.id
          targetMemeId := canonicalMeme.id, targetPrimaryFileId := some canonicalFile.id
          similarityScore := some 1, mergeReason := MERGE_REASON_SHA256_RECONCILIATION } }
  let resolved := logged.updateMeme canonicalMeme.id fun meme =>
    { resolveCanonical memes meme with primaryFileId := canonicalFile.id }
  let moved : Content :=
    { resolved with
      files := resolved.files.map fun file =>
        if file.id = canonicalFile.id then { file with memeId := canonicalMeme.id } else file }
  let transferred := obsoleteFileIds.foldl
    (fun t sourceId => t.transferFileDependencies sourceId canonicalFile.id) moved
  let rehomed : Content :=
    { transferred with
      files := transferred.files.map fun file =>
        if file.memeId ∈ obsoleteMemeIds ∧ file.id ∉ obsoleteFileIds then
          { file with memeId := canonicalMeme.id }
        else file }
  obsoleteMemeIds.foldl
    (fun t sourceId => t.transferMemeDependencies sourceId canonicalMeme.id) rehomed

def mergeGroup (memes : List CanonicalMeme) (canonicalMeme : CanonicalMeme)
    (canonicalFile : CanonicalFile) (obsoleteFiles : List CanonicalFile)
    (obsoleteMemeIds : List Uuid) : Content :=
  let transferred := s.transferGroup memes canonicalMeme canonicalFile obsoleteFiles obsoleteMemeIds
  (transferred.deleteFiles fun fileId => fileId ∈ obsoleteFiles.map fun file => file.id).deleteMemes
    fun memeId => memeId ∈ obsoleteMemeIds

def reconcileGroup (sha256Hex : String) (files : List CanonicalFile) (memes : List CanonicalMeme)
    (canonicalFile : CanonicalFile) (canonicalMeme : CanonicalMeme) :
    Except ServiceError (ShaReconciliationResult × Content) :=
  let obsoleteFiles := files.filter fun file => file.id ≠ canonicalFile.id
  let obsoleteMemeIds := (memes.filter fun meme => meme.id ≠ canonicalMeme.id).map fun meme => meme.id
  if obsoleteFiles = [] then
    .ok ({ sha256Hex := sha256Hex, canonicalMemeId := canonicalMeme.id
           canonicalMemeFileId := canonicalFile.id }, s)
  else
    let merged := s.mergeGroup memes canonicalMeme canonicalFile obsoleteFiles obsoleteMemeIds
    match merged.selectPrimaryFile canonicalMeme.id with
    | .error error => .error error
    | .ok primaryFileId =>
      let chosen := merged.updateMeme canonicalMeme.id fun meme =>
        { meme with primaryFileId := primaryFileId }
      .ok
        ({ sha256Hex := sha256Hex, canonicalMemeId := canonicalMeme.id
           canonicalMemeFileId := canonicalFile.id, obsoleteMemeIds := obsoleteMemeIds
           obsoleteMemeFileIds := obsoleteFiles.map fun file => file.id },
         (chosen.recomputeLikeCount canonicalMeme.id).refreshEffectiveVisibility canonicalMeme.id)

def reconcileSha (sha256Hex : String) : Except ServiceError (ShaReconciliationResult × Content) :=
  let files := s.filesWithSha sha256Hex
  let memes := s.memesOfFiles files
  match files.insertionSort canonicalFirst, memes with
  | canonicalFile :: _, canonicalMeme :: _ =>
    s.reconcileGroup sha256Hex files memes canonicalFile canonicalMeme
  | _, _ => .error ⟨.shaReconciliation, s!"SHA group {sha256Hex} no longer exists."⟩

def findNextDuplicateSha : Option String :=
  let hashes := s.files.filterMap CanonicalFile.sha256Hex
  ((hashes.filter fun sha256Hex => 1 < hashes.count sha256Hex).insertionSort (· ≤ ·)).head?

def reconcileNext : Except ServiceError (Option ShaReconciliationResult × Content) :=
  match s.findNextDuplicateSha with
  | none => .ok (none, s)
  | some sha256Hex =>
    match s.reconcileSha sha256Hex with
    | .ok (result, t) => .ok (some result, t)
    | .error error => .error error

/-- `reconcile_next` called up to a number of times, each call committed. -/
def reconcileTimes : Nat → Content → Except ServiceError Content
  | 0, s => .ok s
  | n + 1, s =>
    match s.reconcileNext with
    | .ok (none, t) => .ok t
    | .ok (some _, t) => reconcileTimes n t
    | .error error => .error error

end Transfers

end Content

section Payloads

def PayloadText.redirectAll (targetId : Uuid) (sourceIds : List Uuid) : PayloadText → PayloadText
  | .id value => .id (Repointing.redirectAll targetId sourceIds value)
  | .text value => .text value

def redirectPayload (fieldNames : List String) (targetId : Uuid) (sourceIds : List Uuid)
    (payload : List (String × PayloadText)) : List (String × PayloadText) :=
  payload.map fun entry =>
    if entry.1 ∈ fieldNames then (entry.1, entry.2.redirectAll targetId sourceIds) else entry

variable {fieldNames : List String} {sourceId targetId : Uuid} {sourceIds : List Uuid}
  {payload : List (String × PayloadText)} {value : PayloadText}

theorem PayloadText.redirectAll_nil : value.redirectAll targetId [] = value := by
  cases value <;> rfl

theorem PayloadText.redirect_eq :
    value.redirect sourceId targetId = value.redirectAll targetId [sourceId] := by
  cases value with
  | id other =>
    by_cases hother : other = sourceId
    · simp [PayloadText.redirect, PayloadText.redirectAll, Repointing.redirectAll, hother]
    · simp [PayloadText.redirect, PayloadText.redirectAll, Repointing.redirectAll, hother]
  | text other => rfl

theorem PayloadText.redirectAll_redirect (htarget : targetId ∉ sourceIds) :
    (value.redirect sourceId targetId).redirectAll targetId sourceIds =
      value.redirectAll targetId (sourceId :: sourceIds) := by
  cases value with
  | id other =>
    rw [PayloadText.redirect_eq]
    simp only [PayloadText.redirectAll]
    rw [redirectAll_singleton, Repointing.redirectAll_redirect htarget]
  | text other => rfl

theorem foldl_rewritePayloadId :
    fieldNames.foldl (fun payload fieldName => rewritePayloadId fieldName sourceId targetId payload)
      payload = redirectPayload fieldNames targetId [sourceId] payload := by
  induction fieldNames generalizing payload with
  | nil => simp [redirectPayload]
  | cons fieldName rest ih =>
    rw [List.foldl_cons, ih, rewritePayloadId, redirectPayload, redirectPayload, List.map_map]
    apply List.map_congr_left
    rintro ⟨name, value⟩ _
    by_cases hname : name = fieldName
    · by_cases hvalue : value = .id sourceId
      · simp [hname, hvalue, PayloadText.redirectAll, Repointing.redirectAll]
      · simp [hname, hvalue, ← PayloadText.redirect_eq, PayloadText.redirect]
    · simp [hname]

theorem redirectPayload_nil : redirectPayload fieldNames targetId [] payload = payload := by
  simp [redirectPayload, PayloadText.redirectAll_nil]

theorem redirectPayload_redirectPayload (htarget : targetId ∉ sourceIds) :
    redirectPayload fieldNames targetId sourceIds
        (redirectPayload fieldNames targetId [sourceId] payload) =
      redirectPayload fieldNames targetId (sourceId :: sourceIds) payload := by
  rw [redirectPayload, redirectPayload, redirectPayload, List.map_map]
  apply List.map_congr_left
  intro entry _
  by_cases hname : entry.1 ∈ fieldNames
  · simp [hname, ← PayloadText.redirect_eq, PayloadText.redirectAll_redirect htarget]
  · simp [hname]

end Payloads

section Pages

variable {pages : List MemeSeoPage} {page : MemeSeoPage} {sourceId targetId : Uuid}
  {sourceIds : List Uuid}

theorem memeId_ne_of_mem_transferSeoPage (hne : sourceId ≠ targetId)
    (h : page ∈ transferSeoPage pages sourceId targetId) : page.memeId ≠ sourceId := by
  unfold transferSeoPage at h
  split at h
  · next hnone =>
    have hpage := List.find?_eq_none.mp hnone page h
    simpa using hpage
  split at h
  · obtain ⟨old, -, rfl⟩ := List.mem_map.mp h
    split
    · exact Ne.symm hne
    · next hother => exact hother
  obtain ⟨old, hold, rfl⟩ := List.mem_map.mp h
  have hother : old.memeId ≠ sourceId := by simpa using (List.mem_filter.mp hold).2
  split
  · exact hother
  · exact hother

theorem mem_transferSeoPage_of_ne (hsource : page.memeId ≠ sourceId) (htarget : page.memeId ≠ targetId) :
    page ∈ transferSeoPage pages sourceId targetId ↔ page ∈ pages := by
  unfold transferSeoPage
  split
  · exact Iff.rfl
  split
  · rw [List.mem_map]
    constructor
    · rintro ⟨old, hold, heq⟩
      split at heq
      · exact (htarget (heq ▸ rfl)).elim
      · exact heq ▸ hold
    · intro hpage
      exact ⟨page, hpage, if_neg hsource⟩
  rw [List.mem_map]
  constructor
  · rintro ⟨old, hold, heq⟩
    split at heq
    · next hold_target => exact (htarget (heq ▸ hold_target)).elim
    · exact heq ▸ (List.mem_filter.mp hold).1
  · intro hpage
    exact ⟨page, List.mem_filter.mpr ⟨hpage, by simpa using hsource⟩, if_neg htarget⟩

theorem exists_transferSeoPage (hne : sourceId ≠ targetId)
    (h : ∃ page ∈ pages, page.memeId = sourceId ∨ page.memeId = targetId) :
    ∃ page ∈ transferSeoPage pages sourceId targetId, page.memeId = targetId := by
  obtain ⟨page, hpage, hid⟩ := h
  unfold transferSeoPage
  split
  · next hnone =>
    have hother := List.find?_eq_none.mp hnone page hpage
    rcases hid with hsource | htarget
    · exact (hother (by simpa using hsource)).elim
    · exact ⟨page, hpage, htarget⟩
  next source hsource =>
  have hsourceid : source.memeId = sourceId := by simpa using List.find?_some hsource
  split
  · refine ⟨{ source with memeId := targetId },
      List.mem_map.mpr ⟨source, List.mem_of_find?_eq_some hsource, if_pos hsourceid⟩, rfl⟩
  next target htarget =>
  have htargetid : target.memeId = targetId := by simpa using List.find?_some htarget
  have hkept : target ∈ pages.filter fun page => page.memeId ≠ sourceId := by
    refine List.mem_filter.mpr ⟨List.mem_of_find?_eq_some htarget, ?_⟩
    simpa [htargetid] using Ne.symm hne
  refine ⟨_, List.mem_map.mpr ⟨target, hkept, if_pos htargetid⟩, htargetid⟩

theorem nodup_transferSeoPage (hunique : (pages.map MemeSeoPage.memeId).Nodup) :
    ((transferSeoPage pages sourceId targetId).map MemeSeoPage.memeId).Nodup := by
  unfold transferSeoPage
  split
  · exact hunique
  split
  · next hnone =>
    have hfree : ∀ page ∈ pages, page.memeId ≠ targetId := by
      intro page hpage
      simpa using List.find?_eq_none.mp hnone page hpage
    rw [List.map_map]
    refine List.Nodup.map_on ?_ (List.Nodup.of_map _ hunique)
    intro left hleft right hright heq
    apply List.inj_on_of_nodup_map hunique hleft hright
    simp only [Function.comp_apply] at heq
    split at heq
    · next hleftid =>
      split at heq
      · next hrightid => exact hleftid.trans hrightid.symm
      · exact (hfree right hright heq.symm).elim
    · split at heq
      · exact (hfree left hleft heq).elim
      · exact heq
  · rw [List.map_map, List.map_congr_left (g := MemeSeoPage.memeId)]
    · exact hunique.sublist (List.filter_sublist.map _)
    · intro page _
      rw [Function.comp_apply]
      split <;> rfl

section Folded

theorem mem_foldl_transferSeoPage_of_ne (hsources : page.memeId ∉ sourceIds)
    (htarget : page.memeId ≠ targetId) :
    page ∈ sourceIds.foldl (fun pages sourceId => transferSeoPage pages sourceId targetId) pages ↔
      page ∈ pages := by
  induction sourceIds generalizing pages with
  | nil => rfl
  | cons sourceId rest ih =>
    rw [List.mem_cons, not_or] at hsources
    rw [List.foldl_cons, ih hsources.2, mem_transferSeoPage_of_ne hsources.1 htarget]

theorem nodup_foldl_transferSeoPage (hunique : (pages.map MemeSeoPage.memeId).Nodup) :
    ((sourceIds.foldl (fun pages sourceId => transferSeoPage pages sourceId targetId) pages).map
      MemeSeoPage.memeId).Nodup := by
  induction sourceIds generalizing pages with
  | nil => exact hunique
  | cons sourceId rest ih => exact ih (nodup_transferSeoPage hunique)

theorem exists_foldl_transferSeoPage (htarget : targetId ∉ sourceIds)
    (h : ∃ page ∈ pages, page.memeId ∈ sourceIds ∨ page.memeId = targetId) :
    ∃ page ∈ sourceIds.foldl (fun pages sourceId => transferSeoPage pages sourceId targetId) pages,
      page.memeId = targetId := by
  induction sourceIds generalizing pages with
  | nil =>
    obtain ⟨page, hpage, hid⟩ := h
    exact ⟨page, hpage, hid.resolve_left List.not_mem_nil⟩
  | cons sourceId rest ih =>
    rw [List.mem_cons, not_or] at htarget
    apply ih htarget.2
    obtain ⟨page, hpage, hid⟩ := h
    by_cases hfirst : page.memeId = sourceId ∨ page.memeId = targetId
    · obtain ⟨moved, hmoved, hmovedid⟩ := exists_transferSeoPage (Ne.symm htarget.1) ⟨page, hpage, hfirst⟩
      exact ⟨moved, hmoved, .inr hmovedid⟩
    rw [not_or] at hfirst
    refine ⟨page, (mem_transferSeoPage_of_ne hfirst.1 hfirst.2).mpr hpage, .inl ?_⟩
    rcases hid with hmem | heq
    · exact (List.mem_cons.mp hmem).resolve_left hfirst.1
    · exact (hfirst.2 heq).elim

theorem memeId_not_mem_of_mem_foldl (htarget : targetId ∉ sourceIds)
    (h : page ∈ sourceIds.foldl (fun pages sourceId => transferSeoPage pages sourceId targetId) pages) :
    page.memeId ∉ sourceIds := by
  induction sourceIds generalizing pages with
  | nil => exact List.not_mem_nil
  | cons sourceId rest ih =>
    rw [List.mem_cons, not_or] at htarget
    rw [List.foldl_cons] at h
    have hrest := ih htarget.2 h
    rw [List.mem_cons, not_or]
    refine ⟨?_, hrest⟩
    intro heq
    have hne : page.memeId ≠ targetId := heq.trans_ne (Ne.symm htarget.1)
    have hfirst := (mem_foldl_transferSeoPage_of_ne hrest hne).mp h
    exact memeId_ne_of_mem_transferSeoPage (Ne.symm htarget.1) hfirst heq

end Folded

end Pages

namespace Content

section Closed

variable {s : Content} {files memes : List Uuid} {fileId memeId : Uuid}

variable {ref : Option Uuid} {target : Uuid}

theorem map_redirectAll_nil : ref.map (redirectAll target []) = ref := by
  cases ref <;> rfl

theorem map_redirectAll_redirect {source : Uuid} {sources : List Uuid}
    (htarget : target ∉ sources) :
    (ref.map (redirect source target)).map (redirectAll target sources) =
      ref.map (redirectAll target (source :: sources)) := by
  cases ref with
  | none => rfl
  | some value => exact congrArg some (redirectAll_redirect htarget)

theorem foldl_transferFileDependencies (hfile : fileId ∉ files) :
    files.foldl (fun t sourceId => t.transferFileDependencies sourceId fileId) s =
      { s with
        files := s.files.map fun file =>
          { file with
            matchedMemeFileId := file.matchedMemeFileId.map (redirectAll fileId files) }
        sources := s.sources.map fun row =>
          { row with
            fileId := redirectAll fileId files row.fileId
            matchedMemeFileId := row.matchedMemeFileId.map (redirectAll fileId files) }
        requests := s.requests.map fun row =>
          { row with
            materializedMemeFileId := row.materializedMemeFileId.map (redirectAll fileId files)
            matchedMemeFileId := row.matchedMemeFileId.map (redirectAll fileId files) }
        embeddings := s.embeddings.map fun row =>
          { row with sourceFileId := row.sourceFileId.map (redirectAll fileId files) }
        outbox := s.outbox.map fun row =>
          { row with
            aggregateId :=
              if row.aggregateType = .memeFile then redirectAll fileId files row.aggregateId
              else row.aggregateId
            orderingKey := row.orderingKey.map (redirectAll fileId files)
            payload := redirectPayload fileFields fileId files row.payload }
        stageRows := repointAll stageColumns fileId files s.stageRows
        syncRows := repointAll syncColumns fileId files s.syncRows
        ocrRows := repointAll ocrColumns fileId files s.ocrRows
        telegramRows := repointAll telegramColumns fileId files s.telegramRows } := by
  induction files generalizing s with
  | nil =>
    simp [redirectPayload_nil, map_redirectAll_nil, redirectAll, repointAll]
  | cons source rest ih =>
    rw [List.mem_cons, not_or] at hfile
    rw [List.foldl_cons, ih hfile.2]
    simp only [transferFileDependencies, transferFileOutboxReferences, List.map_map,
      Function.comp_def, map_redirectAll_redirect hfile.2, redirectAll_redirect hfile.2,
      foldl_rewritePayloadId]
    congr 1
    apply List.map_congr_left
    intro row _
    by_cases htype : row.aggregateType = .memeFile
    · simp [htype, redirectAll_redirect hfile.2, redirectPayload_redirectPayload hfile.2]
    · simp [htype, redirectPayload_redirectPayload hfile.2]

theorem foldl_transferMemeDependencies (hmeme : memeId ∉ memes) :
    memes.foldl (fun t sourceId => t.transferMemeDependencies sourceId memeId) s =
      { s with
        collectionMemes := repointAll saveColumns memeId memes s.collectionMemes
        pinnedMemes := repointAll pinColumns memeId memes s.pinnedMemes
        reports := s.reports.map fun row =>
          { row with memeId := redirectAll memeId memes row.memeId }
        decisions := s.decisions.map fun row =>
          { row with memeId := redirectAll memeId memes row.memeId }
        selections := s.selections.map fun row =>
          { row with memeId := row.memeId.map (redirectAll memeId memes) }
        requests := s.requests.map fun row =>
          { row with materializedMemeId := row.materializedMemeId.map (redirectAll memeId memes) }
        outbox := s.outbox.map fun row =>
          { row with payload := redirectPayload memeFields memeId memes row.payload }
        seoPages := memes.foldl (fun pages sourceId => transferSeoPage pages sourceId memeId)
          s.seoPages
        analytics := s.analytics.map fun row =>
          { row with
            memeId := row.memeId.map (PayloadText.redirectAll memeId memes)
            refsMemeId := row.refsMemeId.map (PayloadText.redirectAll memeId memes) } } := by
  induction memes generalizing s with
  | nil =>
    have hnil : PayloadText.redirectAll memeId [] = id := by
      funext value
      exact PayloadText.redirectAll_nil
    simp [redirectPayload_nil, map_redirectAll_nil, redirectAll, repointAll, hnil]
  | cons source rest ih =>
    rw [List.mem_cons, not_or] at hmeme
    rw [List.foldl_cons, ih hmeme.2]
    simp only [transferMemeDependencies, transferMemeOutboxReferences, transferAnalyticsHistory,
      List.map_map, Function.comp_def, map_redirectAll_redirect hmeme.2,
      redirectAll_redirect hmeme.2, foldl_rewritePayloadId,
      redirectPayload_redirectPayload hmeme.2, Option.map_map, List.foldl_cons,
      PayloadText.redirectAll_redirect hmeme.2]
    rfl

/-- The rows after a reconciliation that rewrites the canonical meme with `f`. -/
def reconciledRows (s : Content) (files : List Uuid) (fileId : Uuid) (memes : List Uuid)
    (memeId : Uuid) (f : CanonicalMeme → CanonicalMeme) (logs : List MemeMergeLog) : Content :=
  { memes := (s.memes.filter fun meme => meme.id ∉ memes).map fun meme =>
      if meme.id = memeId then f meme else meme
    files := (s.files.filter fun file => file.id ∉ files).map fun file =>
      { file with
        memeId := redirectAll memeId memes file.memeId
        matchedMemeFileId := file.matchedMemeFileId.map (redirectAll fileId files) }
    sources := s.sources.map fun row =>
      { row with
        fileId := redirectAll fileId files row.fileId
        matchedMemeFileId := row.matchedMemeFileId.map (redirectAll fileId files) }
    requests := s.requests.map fun row =>
      { row with
        materializedMemeId := row.materializedMemeId.map (redirectAll memeId memes)
        materializedMemeFileId := row.materializedMemeFileId.map (redirectAll fileId files)
        matchedMemeFileId := row.matchedMemeFileId.map (redirectAll fileId files) }
    stageRows := repointAll stageColumns fileId files s.stageRows
    syncRows := repointAll syncColumns fileId files s.syncRows
    ocrRows := repointAll ocrColumns fileId files s.ocrRows
    telegramRows := repointAll telegramColumns fileId files s.telegramRows
    embeddings := s.embeddings.map fun row =>
      { row with sourceFileId := row.sourceFileId.map (redirectAll fileId files) }
    outbox := s.outbox.map fun row =>
      { row with
        aggregateId :=
          if row.aggregateType = .memeFile then redirectAll fileId files row.aggregateId
          else row.aggregateId
        orderingKey := row.orderingKey.map (redirectAll fileId files)
        payload := redirectPayload memeFields memeId memes
          (redirectPayload fileFields fileId files row.payload) }
    collections := s.collections
    collectionMemes := repointAll saveColumns memeId memes s.collectionMemes
    pinnedMemes := repointAll pinColumns memeId memes s.pinnedMemes
    reports := s.reports.map fun row => { row with memeId := redirectAll memeId memes row.memeId }
    decisions := s.decisions.map fun row => { row with memeId := redirectAll memeId memes row.memeId }
    selections := s.selections.map fun row =>
      { row with memeId := row.memeId.map (redirectAll memeId memes) }
    seoPages := memes.foldl (fun pages sourceId => transferSeoPage pages sourceId memeId) s.seoPages
    analytics := s.analytics.map fun row =>
      { row with
        memeId := row.memeId.map (PayloadText.redirectAll memeId memes)
        refsMemeId := row.refsMemeId.map (PayloadText.redirectAll memeId memes) }
    mergeLogs := s.mergeLogs ++ logs }

theorem setNull_redirectAll {sources : List Uuid}
    (htarget : target ∉ sources) :
    setNull (fun id => id ∈ sources) (ref.map (redirectAll target sources)) =
      ref.map (redirectAll target sources) := by
  cases ref with
  | none => rfl
  | some value => simp [setNull, Option.filter, redirectAll_not_mem htarget]

theorem map_eq_self {ρ : Type} {rows : List ρ} {g : ρ → ρ} (h : ∀ row ∈ rows, g row = row) :
    rows.map g = rows :=
  (List.map_congr_left h).trans (List.map_id' rows)

theorem filter_not_eq_self {ρ : Type} {rows : List ρ} {gone : ρ → Bool}
    (h : ∀ row ∈ rows, gone row = false) : (rows.filter fun row => !gone row) = rows := by
  rw [List.filter_eq_self]
  intro row hrow
  rw [h row hrow, Bool.not_false]

theorem deleteFiles_of_moved (gone : Uuid → Bool)
    (hmatched : ∀ file ∈ s.files, setNull gone file.matchedMemeFileId = file.matchedMemeFileId)
    (hsources : ∀ row ∈ s.sources, gone row.fileId = false ∧
      setNull gone row.matchedMemeFileId = row.matchedMemeFileId)
    (hrequests : ∀ row ∈ s.requests,
      setNull gone row.materializedMemeFileId = row.materializedMemeFileId ∧
        setNull gone row.matchedMemeFileId = row.matchedMemeFileId)
    (hrows : (∀ row ∈ s.stageRows, gone row.memeFileId = false) ∧
      (∀ row ∈ s.syncRows, gone row.memeFileId = false) ∧
      (∀ row ∈ s.ocrRows, gone row.memeFileId = false) ∧
      ∀ row ∈ s.telegramRows, gone row.memeFileId = false)
    (hembeddings : ∀ row ∈ s.embeddings, setNull gone row.sourceFileId = row.sourceFileId) :
    s.deleteFiles gone = { s with files := s.files.filter fun file => !gone file.id } := by
  unfold deleteFiles
  rw [map_eq_self fun file hfile => by rw [hmatched file (List.mem_filter.mp hfile).1],
    filter_not_eq_self fun row hrow => (hsources row hrow).1,
    map_eq_self fun row hrow => by rw [(hsources row hrow).2],
    map_eq_self fun row hrow => by rw [(hrequests row hrow).1, (hrequests row hrow).2],
    filter_not_eq_self hrows.1, filter_not_eq_self hrows.2.1, filter_not_eq_self hrows.2.2.1,
    filter_not_eq_self hrows.2.2.2, map_eq_self fun row hrow => by rw [hembeddings row hrow]]

theorem deleteMemes_of_emptied (gone : Uuid → Bool) (hfiles : ∀ file ∈ s.files, gone file.memeId = false)
    (hrequests : ∀ row ∈ s.requests, setNull gone row.materializedMemeId = row.materializedMemeId)
    (hselections : ∀ row ∈ s.selections, setNull gone row.memeId = row.memeId)
    (hrows : (∀ row ∈ s.collectionMemes, gone row.memeId = false) ∧
      (∀ pin ∈ s.pinnedMemes, gone pin.memeId = false) ∧
      (∀ row ∈ s.reports, gone row.memeId = false) ∧
      (∀ row ∈ s.decisions, gone row.memeId = false) ∧
      ∀ page ∈ s.seoPages, gone page.memeId = false) :
    s.deleteMemes gone = { s with memes := s.memes.filter fun meme => !gone meme.id } := by
  rw [deleteMemes_of_moved hfiles, map_eq_self fun row hrow => by rw [hrequests row hrow],
    filter_not_eq_self hrows.1, filter_not_eq_self hrows.2.1, filter_not_eq_self hrows.2.2.1,
    filter_not_eq_self hrows.2.2.2.1, map_eq_self fun row hrow => by rw [hselections row hrow],
    filter_not_eq_self hrows.2.2.2.2]

theorem transferGroup_eq (group : List CanonicalMeme) (meme : CanonicalMeme) (file : CanonicalFile)
    {obsoleteFiles : List CanonicalFile} {F : List Uuid}
    (hF : (obsoleteFiles.map fun file => file.id) = F) (hfile : file.id ∉ F)
    (hmeme : meme.id ∉ memes)
    (hhome : ∀ other ∈ s.files, other.id = file.id → other.memeId = meme.id ∨ other.memeId ∈ memes) :
    ∃ logs, s.transferGroup group meme file obsoleteFiles memes =
      { s.reconciledRows F file.id memes meme.id id logs with
        memes := s.memes.map fun other =>
          if other.id = meme.id then
            { resolveCanonical group other with primaryFileId := file.id }
          else other
        files := s.files.map fun other =>
          { other with
            memeId := if other.id ∈ F then other.memeId else redirectAll meme.id memes other.memeId
            matchedMemeFileId := other.matchedMemeFileId.map (redirectAll file.id F) } } := by
  refine ⟨obsoleteFiles.map fun obsolete =>
    { sourceMemeId := obsolete.memeId, sourceMemeFileId := some obsolete.id
      targetMemeId := meme.id, targetPrimaryFileId := some file.id
      similarityScore := some 1, mergeReason := MERGE_REASON_SHA256_RECONCILIATION }, ?_⟩
  simp only [transferGroup, hF]
  rw [foldl_transferFileDependencies hfile, foldl_transferMemeDependencies hmeme]
  dsimp only [reconciledRows, updateMeme]
  simp only [List.map_map]
  congr 1
  apply List.map_congr_left
  intro other hother
  by_cases hid : other.id = file.id
  · have hkept : redirectAll meme.id memes other.memeId = meme.id := by
      rcases hhome other hother hid with heq | hmem
      · rw [redirectAll_of_not_mem (heq ▸ hmeme), heq]
      · exact redirectAll_of_mem hmem
    simp [hid, hfile, hmeme, hkept]
  by_cases hgone : other.id ∈ F
  · simp [hid, hgone]
  · by_cases hmoved : other.memeId ∈ memes
    · simp [hid, hgone, hmoved, redirectAll]
    · simp [hid, hgone, hmoved, redirectAll]

theorem mergeGroup_eq (group : List CanonicalMeme) (meme : CanonicalMeme) (file : CanonicalFile)
    {obsoleteFiles : List CanonicalFile} {F : List Uuid}
    (hF : (obsoleteFiles.map fun file => file.id) = F) (hfile : file.id ∉ F)
    (hmeme : meme.id ∉ memes)
    (hhome : ∀ other ∈ s.files, other.id = file.id → other.memeId = meme.id ∨ other.memeId ∈ memes) :
    ∃ logs, s.mergeGroup group meme file obsoleteFiles memes =
      s.reconciledRows F file.id memes meme.id
        (fun other => { resolveCanonical group other with primaryFileId := file.id }) logs := by
  obtain ⟨logs, htransferred⟩ := transferGroup_eq group meme file hF hfile hmeme hhome
  refine ⟨logs, ?_⟩
  simp only [mergeGroup, hF, htransferred]
  rw [deleteFiles_of_moved]
  rotate_left
  · intro other hother
    obtain ⟨old, -, rfl⟩ := List.mem_map.mp hother
    exact setNull_redirectAll hfile
  · intro row hrow
    obtain ⟨old, -, rfl⟩ := List.mem_map.mp hrow
    exact ⟨decide_eq_false (redirectAll_not_mem hfile), setNull_redirectAll hfile⟩
  · intro row hrow
    obtain ⟨old, -, rfl⟩ := List.mem_map.mp hrow
    exact ⟨setNull_redirectAll hfile, setNull_redirectAll hfile⟩
  · exact ⟨fun row hrow => decide_eq_false (ref_not_mem_of_mem_repointAll hfile hrow),
      fun row hrow => decide_eq_false (ref_not_mem_of_mem_repointAll hfile hrow),
      fun row hrow => decide_eq_false (ref_not_mem_of_mem_repointAll hfile hrow),
      fun row hrow => decide_eq_false (ref_not_mem_of_mem_repointAll hfile hrow)⟩
  · intro row hrow
    obtain ⟨old, -, rfl⟩ := List.mem_map.mp hrow
    exact setNull_redirectAll hfile
  rw [deleteMemes_of_emptied]
  rotate_left
  · intro other hother
    obtain ⟨hmem, hkept⟩ := List.mem_filter.mp hother
    obtain ⟨old, -, rfl⟩ := List.mem_map.mp hmem
    have hold : old.id ∉ F := by simpa using hkept
    dsimp only
    rw [if_neg hold]
    exact decide_eq_false (redirectAll_not_mem hmeme)
  · intro row hrow
    obtain ⟨old, -, rfl⟩ := List.mem_map.mp hrow
    exact setNull_redirectAll hmeme
  · intro row hrow
    obtain ⟨old, -, rfl⟩ := List.mem_map.mp hrow
    exact setNull_redirectAll hmeme
  · refine ⟨fun row hrow => decide_eq_false (ref_not_mem_of_mem_repointAll hmeme hrow),
      fun row hrow => decide_eq_false (ref_not_mem_of_mem_repointAll hmeme hrow), ?_, ?_,
      fun page hpage => decide_eq_false (memeId_not_mem_of_mem_foldl hmeme hpage)⟩
    · intro row hrow
      obtain ⟨old, -, rfl⟩ := List.mem_map.mp hrow
      exact decide_eq_false (redirectAll_not_mem hmeme)
    · intro row hrow
      obtain ⟨old, -, rfl⟩ := List.mem_map.mp hrow
      exact decide_eq_false (redirectAll_not_mem hmeme)
  dsimp only [reconciledRows]
  congr 1
  · rw [List.filter_map]
    congr 1
    apply List.filter_congr
    intro other _
    rw [Function.comp_apply]
    split
    · simp [resolveCanonical]
    · simp
  rw [List.filter_map]
  have hkept : (s.files.filter ((fun other : CanonicalFile => !decide (other.id ∈ F)) ∘
      fun other => { other with
        memeId := if other.id ∈ F then other.memeId else redirectAll meme.id memes other.memeId
        matchedMemeFileId := other.matchedMemeFileId.map (redirectAll file.id F) })) =
      s.files.filter fun other => other.id ∉ F := by
    apply List.filter_congr
    intro other _
    simp
  rw [hkept]
  apply List.map_congr_left
  intro other hother
  have hold : other.id ∉ F := by simpa using (List.mem_filter.mp hother).2
  rw [if_neg hold]

end Closed

end Content

end MemeExpert
