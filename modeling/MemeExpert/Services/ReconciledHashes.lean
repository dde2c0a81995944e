import MemeExpert.Services.ShaReconciliation

/-! After the files of one hash are reconciled, everything that referred to one of them or
to one of their memes refers to the canonical file or meme, and nothing else changed. -/

namespace MemeExpert

open Repointing Services Tables

namespace Content

section Statements

variable (s t : Content) (sha256Hex : String)

def groupFiles : List Uuid := (s.filesWithSha sha256Hex).map fun file => file.id

def groupMemes : List Uuid := (s.memesOfFiles (s.filesWithSha sha256Hex)).map fun meme => meme.id

structure ShaReconciled (fileId memeId : Uuid) : Prop where
  one_file : ∃ file, t.filesWithSha sha256Hex = [file] ∧ file.id = fileId ∧ file.memeId = memeId
  sources : t.sources = s.sources.map fun row =>
    { row with
      fileId := redirectAll fileId (s.groupFiles sha256Hex) row.fileId
      matchedMemeFileId := row.matchedMemeFileId.map (redirectAll fileId (s.groupFiles sha256Hex)) }
  requests : t.requests = s.requests.map fun row =>
    { row with
      materializedMemeId := row.materializedMemeId.map (redirectAll memeId (s.groupMemes sha256Hex))
      materializedMemeFileId :=
        row.materializedMemeFileId.map (redirectAll fileId (s.groupFiles sha256Hex))
      matchedMemeFileId := row.matchedMemeFileId.map (redirectAll fileId (s.groupFiles sha256Hex)) }
  reports : t.reports = s.reports.map fun row =>
    { row with memeId := redirectAll memeId (s.groupMemes sha256Hex) row.memeId }
  decisions : t.decisions = s.decisions.map fun row =>
    { row with memeId := redirectAll memeId (s.groupMemes sha256Hex) row.memeId }
  outbox : t.outbox = s.outbox.map fun row =>
    { row with
      aggregateId :=
        if row.aggregateType = .memeFile then
          redirectAll fileId (s.groupFiles sha256Hex) row.aggregateId
        else row.aggregateId
      orderingKey := row.orderingKey.map (redirectAll fileId (s.groupFiles sha256Hex))
      payload := redirectPayload memeFields memeId (s.groupMemes sha256Hex)
        (redirectPayload fileFields fileId (s.groupFiles sha256Hex) row.payload) }
  collections : ∀ collectionId,
    (∃ row ∈ s.collectionMemes, row.collectionId = collectionId ∧
      row.memeId ∈ s.groupMemes sha256Hex) →
    t.collectionMemes.countP (fun row => row.collectionId = collectionId && row.memeId = memeId) = 1
  users : ∀ userId,
    (∃ pin ∈ s.pinnedMemes, pin.userId = userId ∧ pin.memeId ∈ s.groupMemes sha256Hex) →
    t.pinnedMemes.countP (fun pin => pin.userId = userId && pin.memeId = memeId) = 1
  saved_canonical : ∀ row ∈ t.collectionMemes, row.memeId ∈ s.groupMemes sha256Hex →
    row.memeId = memeId
  pinned_canonical : ∀ pin ∈ t.pinnedMemes, pin.memeId ∈ s.groupMemes sha256Hex → pin.memeId = memeId
  stages : ∀ stage,
    (∃ row ∈ s.stageRows, row.stage = stage ∧ row.memeFileId ∈ s.groupFiles sha256Hex) →
    t.stageRows.countP (fun row => row.stage = stage && row.memeFileId = fileId) = 1
  syncs : ∀ syncTarget,
    (∃ row ∈ s.syncRows, row.syncTarget = syncTarget ∧ row.memeFileId ∈ s.groupFiles sha256Hex) →
    t.syncRows.countP (fun row => row.syncTarget = syncTarget && row.memeFileId = fileId) = 1
  ocr : (∃ row ∈ s.ocrRows, row.memeFileId ∈ s.groupFiles sha256Hex) →
    t.ocrRows.countP (fun row => row.memeFileId = fileId) = 1
  telegram : ∀ mediaFormat botScope,
    (∃ row ∈ s.telegramRows, (row.mediaFormat, row.botScope) = (mediaFormat, botScope) ∧
      row.memeFileId ∈ s.groupFiles sha256Hex) →
    t.telegramRows.countP (fun row =>
      (row.mediaFormat, row.botScope) = (mediaFormat, botScope) && row.memeFileId = fileId) = 1
  seo : (∃ page ∈ s.seoPages, page.memeId ∈ s.groupMemes sha256Hex) →
    t.seoPages.countP (fun page => page.memeId = memeId) = 1
  other_files : ∀ file ∈ s.files, file.memeId ∈ s.groupMemes sha256Hex →
    file.sha256Hex ≠ some sha256Hex →
    { file with
      memeId := memeId
      matchedMemeFileId :=
        file.matchedMemeFileId.map (redirectAll fileId (s.groupFiles sha256Hex)) } ∈ t.files
  unrelated_memes : ∀ meme : CanonicalMeme, meme.id ∉ s.groupMemes sha256Hex →
    (meme ∈ t.memes ↔ meme ∈ s.memes)
  unrelated_files : ∀ file : CanonicalFile, file.memeId ∉ s.groupMemes sha256Hex →
    (∀ id, file.matchedMemeFileId = some id → id ∉ s.groupFiles sha256Hex) →
    (file ∈ t.files ↔ file ∈ s.files)
  unrelated_meme_rows : ∀ id, id ∉ s.groupMemes sha256Hex →
    (t.collectionMemes.filter fun row => row.memeId = id) =
      (s.collectionMemes.filter fun row => row.memeId = id) ∧
    (t.pinnedMemes.filter fun pin => pin.memeId = id) =
      (s.pinnedMemes.filter fun pin => pin.memeId = id) ∧
    ∀ page : MemeSeoPage, page.memeId = id → (page ∈ t.seoPages ↔ page ∈ s.seoPages)
  unrelated_file_rows : ∀ id, id ∉ s.groupFiles sha256Hex →
    (t.stageRows.filter fun row => row.memeFileId = id) =
      (s.stageRows.filter fun row => row.memeFileId = id) ∧
    (t.syncRows.filter fun row => row.memeFileId = id) =
      (s.syncRows.filter fun row => row.memeFileId = id) ∧
    (t.ocrRows.filter fun row => row.memeFileId = id) =
      (s.ocrRows.filter fun row => row.memeFileId = id) ∧
    (t.telegramRows.filter fun row => row.memeFileId = id) =
      s.telegramRows.filter fun row => row.memeFileId = id
  primary : ∃ meme ∈ t.memes, meme.id = memeId ∧
    ∃ file ∈ t.files, file.id = meme.primaryFileId ∧ file.memeId = memeId

structure ShaGroup (files : List Uuid) (fileId : Uuid) (memes : List Uuid) (memeId : Uuid) :
    Prop where
  file : ∃ file ∈ s.files, file.id = fileId ∧ file.sha256Hex = some sha256Hex
  meme : ∃ meme ∈ s.memes, meme.id = memeId
  file_not_mem : fileId ∉ files
  meme_not_mem : memeId ∉ memes
  files_iff : ∀ id, id ∈ s.groupFiles sha256Hex ↔ id = fileId ∨ id ∈ files
  memes_iff : ∀ id, id ∈ s.groupMemes sha256Hex ↔ id = memeId ∨ id ∈ memes

end Statements

section Groups

variable {s : Content} {sha256Hex : String} {files memes : List Uuid} {fileId memeId : Uuid}
  {f : CanonicalMeme → CanonicalMeme} {logs : List MemeMergeLog}

theorem mem_filesWithSha {file : CanonicalFile} :
    file ∈ s.filesWithSha sha256Hex ↔ file ∈ s.files ∧ file.sha256Hex = some sha256Hex := by
  rw [filesWithSha, List.mem_insertionSort, List.mem_filter, decide_eq_true_eq]

theorem mem_groupFiles (hs : s.Constraints) {file : CanonicalFile} (hfile : file ∈ s.files) :
    file.id ∈ s.groupFiles sha256Hex ↔ file.sha256Hex = some sha256Hex := by
  rw [groupFiles, List.mem_map]
  constructor
  · rintro ⟨other, hother, hid⟩
    obtain ⟨hmem, hsha⟩ := mem_filesWithSha.mp hother
    have hsame : other = file := List.inj_on_of_nodup_map hs.files_unique hmem hfile hid
    exact hsame ▸ hsha
  · intro hsha
    exact ⟨file, mem_filesWithSha.mpr ⟨hfile, hsha⟩, rfl⟩

theorem mem_memesOfFiles {group : List CanonicalFile} {meme : CanonicalMeme} :
    meme ∈ s.memesOfFiles group ↔ meme ∈ s.memes ∧ ∃ file ∈ group, file.memeId = meme.id := by
  rw [memesOfFiles, List.mem_insertionSort, List.mem_filter, List.any_eq_true]
  simp

theorem memeId_mem_groupMemes (hs : s.Constraints) {file : CanonicalFile} (hfile : file ∈ s.files)
    (hsha : file.sha256Hex = some sha256Hex) : file.memeId ∈ s.groupMemes sha256Hex := by
  obtain ⟨meme, hmeme, hid⟩ := hs.files_meme file hfile
  refine List.mem_map.mpr ⟨meme, mem_memesOfFiles.mpr ⟨hmeme, file, ?_, hid.symm⟩, hid⟩
  exact mem_filesWithSha.mpr ⟨hfile, hsha⟩

variable {sources : List Uuid} {target : Uuid}

theorem redirectAll_of_iff {group : List Uuid}
    (h : ∀ id, id ∈ group ↔ id = target ∨ id ∈ sources) :
    redirectAll target group = redirectAll target sources := by
  funext value
  by_cases htarget : value = target
  · have hmem : value ∈ group := (h value).mpr (.inl htarget)
    rw [redirectAll_of_mem hmem]
    by_cases hsources : value ∈ sources
    · rw [redirectAll_of_mem hsources]
    · rw [redirectAll_of_not_mem hsources, htarget]
  by_cases hsources : value ∈ sources
  · rw [redirectAll_of_mem hsources, redirectAll_of_mem ((h value).mpr (.inr hsources))]
  have hnot : value ∉ group := by
    rw [h]
    exact not_or.mpr ⟨htarget, hsources⟩
  rw [redirectAll_of_not_mem hsources, redirectAll_of_not_mem hnot]

theorem redirectPayload_of_iff {group : List Uuid} {fieldNames : List String}
    (h : ∀ id, id ∈ group ↔ id = target ∨ id ∈ sources) :
    redirectPayload fieldNames target group = redirectPayload fieldNames target sources := by
  have hvalue : PayloadText.redirectAll target group = PayloadText.redirectAll target sources := by
    funext value
    cases value with
    | id other => exact congrArg PayloadText.id (congrFun (redirectAll_of_iff h) other)
    | text other => rfl
  funext payload
  rw [redirectPayload, redirectPayload, hvalue]

theorem ShaGroup.memeId_of_file (hs : s.Constraints) (hg : s.ShaGroup sha256Hex files fileId memes memeId)
    {file : CanonicalFile} (hfile : file ∈ s.files) (hid : file.id = fileId ∨ file.id ∈ files) :
    file.memeId = memeId ∨ file.memeId ∈ memes :=
  (hg.memes_iff _).mp (memeId_mem_groupMemes hs hfile
    ((mem_groupFiles hs hfile).mp ((hg.files_iff _).mpr hid)))

theorem mem_reconciledRows_files {file : CanonicalFile} :
    file ∈ (s.reconciledRows files fileId memes memeId f logs).files ↔
      ∃ old ∈ s.files, old.id ∉ files ∧
        { old with
          memeId := redirectAll memeId memes old.memeId
          matchedMemeFileId := old.matchedMemeFileId.map (redirectAll fileId files) } = file := by
  simp [reconciledRows, and_assoc]

theorem mem_reconciledRows_memes {meme : CanonicalMeme} :
    meme ∈ (s.reconciledRows files fileId memes memeId f logs).memes ↔
      ∃ old ∈ s.memes, old.id ∉ memes ∧ (if old.id = memeId then f old else old) = meme := by
  simp [reconciledRows, and_assoc]

theorem id_rewritten_canonical (hf : ∀ meme, (f meme).id = meme.id) (meme : CanonicalMeme) :
    (if meme.id = memeId then f meme else meme).id = meme.id := by
  split
  · exact hf meme
  · rfl

variable (logs) in
theorem ShaGroup.canonical_file (hs : s.Constraints)
    (hg : s.ShaGroup sha256Hex files fileId memes memeId) :
    ∃ file ∈ (s.reconciledRows files fileId memes memeId f logs).files,
      file.id = fileId ∧ file.memeId = memeId ∧ file.sha256Hex = some sha256Hex := by
  obtain ⟨file, hfile, hid, hsha⟩ := hg.file
  refine ⟨_, mem_reconciledRows_files.mpr ⟨file, hfile, hid ▸ hg.file_not_mem, rfl⟩, hid, ?_, hsha⟩
  rcases hg.memeId_of_file hs hfile (.inl hid) with heq | hmem
  · rw [heq, redirectAll_of_not_mem hg.meme_not_mem]
  · exact redirectAll_of_mem hmem

theorem constraints_reconciledRows (hs : s.Constraints)
    (hg : s.ShaGroup sha256Hex files fileId memes memeId) (hf : ∀ meme, (f meme).id = meme.id)
    (hprimary : ∀ meme ∈ s.memes, meme.id = memeId →
      ∃ file ∈ (s.reconciledRows files fileId memes memeId f logs).files,
        file.id = (f meme).primaryFileId ∧ file.memeId = memeId) :
    (s.reconciledRows files fileId memes memeId f logs).Constraints where
  memes_unique := by
    have hids : (s.reconciledRows files fileId memes memeId f logs).memes.map (fun meme => meme.id) =
        (s.memes.filter fun meme => meme.id ∉ memes).map fun meme => meme.id := by
      rw [reconciledRows, List.map_map]
      exact List.map_congr_left fun meme _ => id_rewritten_canonical hf meme
    rw [hids]
    exact hs.memes_unique.sublist (List.filter_sublist.map _)
  files_unique := by
    have hids : (s.reconciledRows files fileId memes memeId f logs).files.map (fun file => file.id) =
        (s.files.filter fun file => file.id ∉ files).map fun file => file.id := by
      rw [reconciledRows, List.map_map]
      rfl
    rw [hids]
    exact hs.files_unique.sublist (List.filter_sublist.map _)
  files_meme := by
    intro file hfile
    obtain ⟨old, hold, -, rfl⟩ := mem_reconciledRows_files.mp hfile
    dsimp only
    by_cases hmoved : old.memeId ∈ memes
    · obtain ⟨meme, hmeme, hid⟩ := hg.meme
      rw [redirectAll_of_mem hmoved]
      exact ⟨_, mem_reconciledRows_memes.mpr ⟨meme, hmeme, hid ▸ hg.meme_not_mem, rfl⟩,
        (id_rewritten_canonical hf meme).trans hid⟩
    obtain ⟨meme, hmeme, hid⟩ := hs.files_meme old hold
    rw [redirectAll_of_not_mem hmoved]
    exact ⟨_, mem_reconciledRows_memes.mpr ⟨meme, hmeme, hid ▸ hmoved, rfl⟩,
      (id_rewritten_canonical hf meme).trans hid⟩
  memes_primary := by
    intro meme hmeme
    obtain ⟨old, hold, hkept, rfl⟩ := mem_reconciledRows_memes.mp hmeme
    by_cases hid : old.id = memeId
    · rw [if_pos hid, hf, hid]
      exact hprimary old hold hid
    obtain ⟨file, hfile, hprim, hown⟩ := hs.memes_primary old hold
    rw [if_neg hid]
    have hfilekept : file.id ∉ files := by
      intro hgone
      rcases hg.memeId_of_file hs hfile (.inr hgone) with heq | hmem
      · exact hid (hown ▸ heq)
      · exact hkept (hown ▸ hmem)
    refine ⟨_, mem_reconciledRows_files.mpr ⟨file, hfile, hfilekept, rfl⟩, hprim, ?_⟩
    exact (redirectAll_of_not_mem (hown ▸ hkept)).trans hown
  saves_unique := nodup_repointAll saveColumns hg.meme_not_mem hs.saves_unique
  pins_unique := nodup_repointAll pinColumns hg.meme_not_mem hs.pins_unique
  stages_unique := nodup_repointAll stageColumns hg.file_not_mem hs.stages_unique
  syncs_unique := nodup_repointAll syncColumns hg.file_not_mem hs.syncs_unique
  ocr_unique := nodup_repointAll ocrColumns hg.file_not_mem hs.ocr_unique
  telegram_unique := nodup_repointAll telegramColumns hg.file_not_mem hs.telegram_unique
  seo_unique := nodup_foldl_transferSeoPage hs.seo_unique

section Groups

variable {ρ κ : Type} [DecidableEq κ] (columns : Columns ρ κ Uuid) {rows : List ρ}
  {group : List Uuid} (h : ∀ id, id ∈ group ↔ id = target ∨ id ∈ sources)

include h

theorem countP_of_group {k : κ} (htarget : target ∉ sources)
    (hunique : (rows.map fun row => (columns.owner row, columns.ref row)).Nodup)
    (hheld : ∃ row ∈ rows, columns.owner row = k ∧ columns.ref row ∈ group) :
    (repointAll columns target sources rows).countP
      (fun row => columns.owner row = k && columns.ref row = target) = 1 := by
  obtain ⟨row, hrow, howner, href⟩ := hheld
  exact countP_repointAll columns htarget hunique
    ⟨row, hrow, howner, ((h _).mp href).symm⟩

theorem ref_eq_of_group {row : ρ} (htarget : target ∉ sources)
    (hrow : row ∈ repointAll columns target sources rows) (href : columns.ref row ∈ group) :
    columns.ref row = target :=
  ((h _).mp href).resolve_right (ref_not_mem_of_mem_repointAll htarget hrow)

theorem filter_of_group {id : Uuid} (hid : id ∉ group) :
    (repointAll columns target sources rows).filter (fun row => columns.ref row = id) =
      rows.filter fun row => columns.ref row = id := by
  rw [h, not_or] at hid
  exact filter_repointAll_of_ne columns hid.2 hid.1

end Groups

theorem eq_singleton_of_nodup {α : Type} {l : List α} {a : α} (hnodup : l.Nodup) (hmem : a ∈ l)
    (hall : ∀ b ∈ l, b = a) : l = [a] := by
  cases l with
  | nil => cases hmem
  | cons b rest =>
    have hb := hall b List.mem_cons_self
    subst hb
    cases rest with
    | nil => rfl
    | cons c rest =>
      have hc := hall c (List.mem_cons_of_mem _ List.mem_cons_self)
      rw [hc] at hnodup
      exact ((List.nodup_cons.mp hnodup).1 List.mem_cons_self).elim

theorem ShaGroup.one_file (hs : s.Constraints) (hg : s.ShaGroup sha256Hex files fileId memes memeId)
    (ht : (s.reconciledRows files fileId memes memeId f logs).Constraints) :
    ∃ file, (s.reconciledRows files fileId memes memeId f logs).filesWithSha sha256Hex = [file] ∧
      file.id = fileId ∧ file.memeId = memeId := by
  obtain ⟨file, hfile, hid, hmeme, hsha⟩ := hg.canonical_file (f := f) logs hs
  refine ⟨file, eq_singleton_of_nodup ?_ (mem_filesWithSha.mpr ⟨hfile, hsha⟩) ?_, hid, hmeme⟩
  · rw [filesWithSha, (List.perm_insertionSort _ _).nodup_iff]
    exact (List.Nodup.of_map _ ht.files_unique).filter _
  intro other hother
  obtain ⟨hmem, hothersha⟩ := mem_filesWithSha.mp hother
  obtain ⟨old, hold, hkept, heq⟩ := mem_reconciledRows_files.mp hmem
  have hgroup : old.id ∈ s.groupFiles sha256Hex := by
    rw [mem_groupFiles hs hold]
    rw [← heq] at hothersha
    exact hothersha
  have holdid : old.id = fileId := ((hg.files_iff _).mp hgroup).resolve_right hkept
  have hotherid : other.id = fileId := by
    rw [← heq]
    exact holdid
  exact List.inj_on_of_nodup_map ht.files_unique hmem hfile (hotherid.trans hid.symm)

theorem mem_reconciledRows_of_unrelated (hs : s.Constraints)
    (hg : s.ShaGroup sha256Hex files fileId memes memeId) {file : CanonicalFile}
    (hmeme : file.memeId ∉ s.groupMemes sha256Hex)
    (hmatched : ∀ id, file.matchedMemeFileId = some id → id ∉ s.groupFiles sha256Hex) :
    file ∈ (s.reconciledRows files fileId memes memeId f logs).files ↔ file ∈ s.files := by
  rw [mem_reconciledRows_files]
  rw [hg.memes_iff, not_or] at hmeme
  constructor
  · rintro ⟨old, hold, -, rfl⟩
    dsimp only at hmeme hmatched
    have holdmeme : old.memeId ∉ memes := by
      intro hmoved
      exact hmeme.1 (redirectAll_of_mem hmoved)
    have holdmatched : old.matchedMemeFileId.map (redirectAll fileId files) =
        old.matchedMemeFileId := by
      cases hmatch : old.matchedMemeFileId with
      | none => rfl
      | some id =>
        by_cases hgone : id ∈ files
        · refine (hmatched fileId ?_ ((hg.files_iff _).mpr (.inl rfl))).elim
          rw [hmatch, Option.map_some, redirectAll_of_mem hgone]
        · rw [Option.map_some, redirectAll_of_not_mem hgone]
    rw [redirectAll_of_not_mem holdmeme, holdmatched]
    exact hold
  · intro hfile
    refine ⟨file, hfile, ?_, ?_⟩
    · intro hgone
      rcases hg.memeId_of_file hs hfile (.inr hgone) with heq | hmem
      · exact hmeme.1 heq
      · exact hmeme.2 hmem
    have hsame : file.matchedMemeFileId.map (redirectAll fileId files) =
        file.matchedMemeFileId := by
      cases hmatch : file.matchedMemeFileId with
      | none => rfl
      | some id =>
        have hnot := hmatched id hmatch
        rw [hg.files_iff, not_or] at hnot
        rw [Option.map_some, redirectAll_of_not_mem hnot.2]
    rw [redirectAll_of_not_mem hmeme.2, hsame]

variable (logs) in
theorem reconciledRows_reconciled (hs : s.Constraints)
    (hg : s.ShaGroup sha256Hex files fileId memes memeId) (hf : ∀ meme, (f meme).id = meme.id)
    (hprimary : ∀ meme ∈ s.memes, meme.id = memeId →
      ∃ file ∈ (s.reconciledRows files fileId memes memeId f logs).files,
        file.id = (f meme).primaryFileId ∧ file.memeId = memeId) :
    s.ShaReconciled (s.reconciledRows files fileId memes memeId f logs) sha256Hex fileId memeId where
  one_file := hg.one_file hs (constraints_reconciledRows hs hg hf hprimary)
  sources := by rw [redirectAll_of_iff hg.files_iff]; rfl
  requests := by rw [redirectAll_of_iff hg.files_iff, redirectAll_of_iff hg.memes_iff]; rfl
  reports := by rw [redirectAll_of_iff hg.memes_iff]; rfl
  decisions := by rw [redirectAll_of_iff hg.memes_iff]; rfl
  outbox := by
    rw [redirectAll_of_iff hg.files_iff, redirectPayload_of_iff hg.memes_iff,
      redirectPayload_of_iff hg.files_iff]
    rfl
  collections := fun _ hheld => countP_of_group saveColumns hg.memes_iff hg.meme_not_mem hs.saves_unique hheld
  users := fun _ hheld => countP_of_group pinColumns hg.memes_iff hg.meme_not_mem hs.pins_unique hheld
  saved_canonical := fun _ hrow href => ref_eq_of_group saveColumns hg.memes_iff hg.meme_not_mem hrow href
  pinned_canonical := fun _ hpin href => ref_eq_of_group pinColumns hg.memes_iff hg.meme_not_mem hpin href
  stages := fun _ hheld => countP_of_group stageColumns hg.files_iff hg.file_not_mem hs.stages_unique hheld
  syncs := fun _ hheld => countP_of_group syncColumns hg.files_iff hg.file_not_mem hs.syncs_unique hheld
  ocr := by
    rintro ⟨row, hrow, href⟩
    have hcount := countP_of_group ocrColumns (k := ()) hg.files_iff hg.file_not_mem hs.ocr_unique
      ⟨row, hrow, rfl, href⟩
    exact (List.countP_congr fun _ _ => Iff.rfl).trans hcount
  telegram := fun _ _ hheld =>
    countP_of_group telegramColumns hg.files_iff hg.file_not_mem hs.telegram_unique hheld
  seo := by
    rintro ⟨page, hpage, hid⟩
    have hunique : ((s.reconciledRows files fileId memes memeId f logs).seoPages.map
        MemeSeoPage.memeId).Nodup := nodup_foldl_transferSeoPage hs.seo_unique
    obtain ⟨moved, hmoved, hmovedid⟩ := exists_foldl_transferSeoPage hg.meme_not_mem
      ⟨page, hpage, ((hg.memes_iff _).mp hid).symm⟩
    have hcount := List.count_eq_one_of_mem hunique
      (List.mem_map.mpr ⟨moved, hmoved, hmovedid⟩)
    rw [List.count, List.countP_map] at hcount
    refine (List.countP_congr ?_).trans hcount
    intro other _
    simp
  other_files := by
    intro file hfile hmeme hsha
    have hkept : file.id ∉ files := by
      intro hgone
      exact hsha ((mem_groupFiles hs hfile).mp ((hg.files_iff _).mpr (.inr hgone)))
    refine mem_reconciledRows_files.mpr ⟨file, hfile, hkept, ?_⟩
    rw [redirectAll_of_iff hg.files_iff]
    rcases (hg.memes_iff _).mp hmeme with heq | hmem
    · rw [heq, redirectAll_of_not_mem hg.meme_not_mem]
    · rw [redirectAll_of_mem hmem]
  unrelated_memes := by
    intro meme hmeme
    rw [hg.memes_iff, not_or] at hmeme
    rw [mem_reconciledRows_memes]
    constructor
    · rintro ⟨old, hold, -, rfl⟩
      rw [id_rewritten_canonical hf] at hmeme
      rw [if_neg hmeme.1]
      exact hold
    · intro hmem
      exact ⟨meme, hmem, hmeme.2, if_neg hmeme.1⟩
  unrelated_files := fun _ hmeme hmatched => mem_reconciledRows_of_unrelated hs hg hmeme hmatched
  unrelated_meme_rows := by
    intro id hid
    refine ⟨filter_of_group saveColumns hg.memes_iff hid, filter_of_group pinColumns hg.memes_iff hid, ?_⟩
    intro page hpage
    rw [hg.memes_iff, not_or] at hid
    subst hpage
    exact mem_foldl_transferSeoPage_of_ne hid.2 hid.1
  unrelated_file_rows := fun _ hid =>
    ⟨filter_of_group stageColumns hg.files_iff hid, filter_of_group syncColumns hg.files_iff hid,
      filter_of_group ocrColumns hg.files_iff hid, filter_of_group telegramColumns hg.files_iff hid⟩
  primary := by
    obtain ⟨meme, hmeme, hid⟩ := hg.meme
    obtain ⟨file, hfile, hprim, hown⟩ := hprimary meme hmeme hid
    refine ⟨f meme, mem_reconciledRows_memes.mpr ⟨meme, hmeme, hid ▸ hg.meme_not_mem, if_pos hid⟩,
      (hf meme).trans hid, file, hfile, hprim, hown⟩

theorem mem_map_iff_of_mem {ρ : Type} {key : ρ → Uuid} {rows : List ρ} {row : ρ} {id : Uuid}
    (hrow : row ∈ rows) : id ∈ rows.map key ↔
      id = key row ∨ id ∈ (rows.filter fun other => key other ≠ key row).map key := by
  constructor
  · intro hid
    obtain ⟨other, hother, rfl⟩ := List.mem_map.mp hid
    by_cases hsame : key other = key row
    · exact .inl hsame
    · exact .inr (List.mem_map.mpr ⟨other, List.mem_filter.mpr ⟨hother, by simpa using hsame⟩, rfl⟩)
  rintro (rfl | hid)
  · exact List.mem_map_of_mem hrow
  · obtain ⟨other, hother, rfl⟩ := List.mem_map.mp hid
    exact List.mem_map_of_mem (List.mem_filter.mp hother).1

theorem updateMeme_reconciledRows {g : CanonicalMeme → CanonicalMeme}
    (hf : ∀ meme, (f meme).id = meme.id) :
    (s.reconciledRows files fileId memes memeId f logs).updateMeme memeId g =
      s.reconciledRows files fileId memes memeId (g ∘ f) logs := by
  simp only [updateMeme, reconciledRows, List.map_map]
  congr 1
  apply List.map_congr_left
  intro meme _
  by_cases hmeme : meme.id = memeId
  · simp [hmeme, hf]
  · simp [hmeme]

theorem reconciledRows_nil : s.reconciledRows [] fileId [] memeId id [] = s := by
  have hnil : PayloadText.redirectAll memeId [] = id := by
    funext value
    exact PayloadText.redirectAll_nil
  simp [reconciledRows, redirectAll, repointAll, redirectPayload_nil, map_redirectAll_nil, hnil]

theorem selectPrimaryFile_ok (h : ∃ file ∈ s.files, file.memeId = memeId) :
    ∃ primaryFileId, s.selectPrimaryFile memeId = .ok primaryFileId ∧
      ∃ file ∈ s.files, file.id = primaryFileId ∧ file.memeId = memeId := by
  unfold selectPrimaryFile
  split
  · next hsorted =>
    obtain ⟨file, hfile, hmeme⟩ := h
    have hmem : file ∈ (s.filesOf memeId).insertionSort primaryFirst :=
      (List.mem_insertionSort _).mpr (List.mem_filter.mpr ⟨hfile, by simpa using hmeme⟩)
    rw [hsorted] at hmem
    cases hmem
  next best rest hsorted =>
  have hmem : best ∈ (s.filesOf memeId).insertionSort primaryFirst := hsorted ▸ List.mem_cons_self
  obtain ⟨hbest, hmeme⟩ := List.mem_filter.mp ((List.mem_insertionSort _).mp hmem)
  exact ⟨best.id, rfl, best, hbest, rfl, by simpa using hmeme⟩

theorem shaGroup_of_choice {file : CanonicalFile} {meme : CanonicalMeme}
    (hfile : file ∈ s.filesWithSha sha256Hex)
    (hmeme : meme ∈ s.memesOfFiles (s.filesWithSha sha256Hex)) :
    s.ShaGroup sha256Hex
      (((s.filesWithSha sha256Hex).filter fun other => other.id ≠ file.id).map fun other => other.id)
      file.id
      (((s.memesOfFiles (s.filesWithSha sha256Hex)).filter fun other => other.id ≠ meme.id).map
        fun other => other.id)
      meme.id where
  file := ⟨file, (mem_filesWithSha.mp hfile).1, rfl, (mem_filesWithSha.mp hfile).2⟩
  meme := ⟨meme, (mem_memesOfFiles.mp hmeme).1, rfl⟩
  file_not_mem := by simp
  meme_not_mem := by simp
  files_iff := fun id => mem_map_iff_of_mem hfile
  memes_iff := fun id => mem_map_iff_of_mem hmeme

theorem mem_unique_of_filter_nil {ρ : Type} (key : ρ → Uuid) {rows : List ρ} {row other : ρ}
    (hnil : (rows.filter fun other => key other ≠ key row) = []) (hother : other ∈ rows) :
    key other = key row := by
  by_contra hne
  have hmem : other ∈ rows.filter fun other => key other ≠ key row :=
    List.mem_filter.mpr ⟨hother, by simpa using hne⟩
  rw [hnil] at hmem
  cases hmem

theorem obsolete_memes_nil (hs : s.Constraints) {file : CanonicalFile} {meme : CanonicalMeme}
    (hmeme : meme ∈ s.memesOfFiles (s.filesWithSha sha256Hex))
    (hsingle : ((s.filesWithSha sha256Hex).filter fun other => other.id ≠ file.id) = []) :
    ((s.memesOfFiles (s.filesWithSha sha256Hex)).filter fun other => other.id ≠ meme.id) = [] := by
  rw [List.filter_eq_nil_iff]
  intro other hother
  obtain ⟨-, left, hleft, hleftid⟩ := mem_memesOfFiles.mp hother
  obtain ⟨-, right, hright, hrightid⟩ := mem_memesOfFiles.mp hmeme
  have hsame : left = right :=
    List.inj_on_of_nodup_map hs.files_unique (mem_filesWithSha.mp hleft).1
      (mem_filesWithSha.mp hright).1
      ((mem_unique_of_filter_nil (fun file : CanonicalFile => file.id) hsingle hleft).trans
        (mem_unique_of_filter_nil (fun file : CanonicalFile => file.id) hsingle hright).symm)
  have hids : other.id = meme.id := by
    rw [← hleftid, ← hrightid, hsame]
  simp [hids]

variable (logs) in
theorem rewritten_reconciledRows (hf : ∀ meme, (f meme).id = meme.id) (primaryFileId : Uuid) :
    ∃ g : CanonicalMeme → CanonicalMeme,
      (∀ meme, (g meme).id = meme.id ∧ (g meme).primaryFileId = primaryFileId ∧
        (g meme).isNsfw = (f meme).isNsfw) ∧
      ((((s.reconciledRows files fileId memes memeId f logs).updateMeme memeId fun meme =>
        { meme with primaryFileId := primaryFileId }).recomputeLikeCount
          memeId).refreshEffectiveVisibility memeId) =
        s.reconciledRows files fileId memes memeId g logs := by
  rw [updateMeme_reconciledRows hf, recomputeLikeCount, updateMeme_reconciledRows,
    refreshEffectiveVisibility, updateMeme_reconciledRows]
  · refine ⟨_, ?_, rfl⟩
    intro meme
    exact ⟨hf meme, rfl, rfl⟩
  · exact hf
  · exact hf

theorem length_reconciledRows_files {gone : CanonicalFile}
    (hgone : gone ∈ s.files) (hmem : gone.id ∈ files) :
    (s.reconciledRows files fileId memes memeId f logs).files.length < s.files.length := by
  rw [reconciledRows, List.length_map]
  refine List.length_filter_lt_length_iff_exists.mpr ⟨gone, hgone, ?_⟩
  simpa using hmem

section Group

variable {group : List CanonicalFile} {groupMemes : List CanonicalMeme} {file : CanonicalFile}
  {meme : CanonicalMeme}

theorem reconcileGroup_of_single (hsingle : (group.filter fun other => other.id ≠ file.id) = []) :
    s.reconcileGroup sha256Hex group groupMemes file meme =
      .ok ({ sha256Hex := sha256Hex, canonicalMemeId := meme.id
             canonicalMemeFileId := file.id }, s) := by
  rw [reconcileGroup, if_pos hsingle]

variable (sha256Hex) in
theorem reconcileGroup_of_several {primaryFileId : Uuid} {merged : Content}
    (hseveral : (group.filter fun other => other.id ≠ file.id) ≠ [])
    (hmerged : s.mergeGroup groupMemes meme file (group.filter fun other => other.id ≠ file.id)
      ((groupMemes.filter fun other => other.id ≠ meme.id).map fun other => other.id) = merged)
    (hselect : merged.selectPrimaryFile meme.id = .ok primaryFileId) :
    ∃ result, s.reconcileGroup sha256Hex group groupMemes file meme =
        .ok (result, ((merged.updateMeme meme.id fun other =>
          { other with primaryFileId := primaryFileId }).recomputeLikeCount
            meme.id).refreshEffectiveVisibility meme.id) ∧
      result.canonicalMemeFileId = file.id ∧ result.canonicalMemeId = meme.id ∧
      result.obsoleteMemeIds =
        (groupMemes.filter fun other => other.id ≠ meme.id).map fun other => other.id := by
  rw [reconcileGroup, if_neg hseveral]
  dsimp only
  rw [hmerged, hselect]
  exact ⟨_, rfl, rfl, rfl, rfl⟩

end Group

/-- A group of several files leaves the rows with everything moved; the canonical meme is flagged
if one of the group was. -/
theorem reconcileGroup_rows (hs : s.Constraints) {file : CanonicalFile} {meme : CanonicalMeme}
    (hfile : file ∈ s.filesWithSha sha256Hex)
    (hmeme : meme ∈ s.memesOfFiles (s.filesWithSha sha256Hex))
    (hseveral : ((s.filesWithSha sha256Hex).filter fun other => other.id ≠ file.id) ≠ []) :
    ∃ result g logs, s.reconcileGroup sha256Hex (s.filesWithSha sha256Hex)
        (s.memesOfFiles (s.filesWithSha sha256Hex)) file meme =
          .ok (result, s.reconciledRows
            (((s.filesWithSha sha256Hex).filter fun other => other.id ≠ file.id).map
              fun other => other.id) file.id result.obsoleteMemeIds meme.id g logs) ∧
      result.canonicalMemeFileId = file.id ∧ result.canonicalMemeId = meme.id ∧
      result.obsoleteMemeIds = ((s.memesOfFiles (s.filesWithSha sha256Hex)).filter
        fun other => other.id ≠ meme.id).map (fun other => other.id) ∧
      (∀ other, (g other).id = other.id ∧ (g other).isNsfw =
        (s.memesOfFiles (s.filesWithSha sha256Hex)).any CanonicalMeme.isNsfw) ∧
      ∀ other, ∃ chosen ∈ (s.reconciledRows
          (((s.filesWithSha sha256Hex).filter fun other => other.id ≠ file.id).map
            fun other => other.id) file.id result.obsoleteMemeIds meme.id g logs).files,
        chosen.id = (g other).primaryFileId ∧ chosen.memeId = meme.id := by
  have hg := shaGroup_of_choice hfile hmeme
  obtain ⟨logs, hmerged⟩ := mergeGroup_eq (s.memesOfFiles (s.filesWithSha sha256Hex)) meme file
    rfl hg.file_not_mem hg.meme_not_mem fun other hother hid =>
      hg.memeId_of_file hs hother (.inl hid)
  obtain ⟨canonical, hcanonical, -, hcanonicalmeme, -⟩ := hg.canonical_file _ hs
  obtain ⟨primaryFileId, hselect, hprimary⟩ :=
    selectPrimaryFile_ok ⟨canonical, hcanonical, hcanonicalmeme⟩
  obtain ⟨result, hresult, hresultfile, hresultmeme, hobsolete⟩ :=
    reconcileGroup_of_several sha256Hex hseveral hmerged hselect
  obtain ⟨g, hgkeeps, hrows⟩ := rewritten_reconciledRows (s := s) logs
    (f := fun other =>
      { resolveCanonical (s.memesOfFiles (s.filesWithSha sha256Hex)) other with
        primaryFileId := file.id }) (fun _ => rfl) primaryFileId
  rw [hrows, ← hobsolete] at hresult
  refine ⟨result, g, logs, hresult, hresultfile, hresultmeme, hobsolete, ?_, ?_⟩
  · exact fun other => ⟨(hgkeeps other).1, (hgkeeps other).2.2⟩
  intro other
  rw [(hgkeeps other).2.1, hobsolete]
  exact hprimary

theorem reconcileGroup_reconciled (hs : s.Constraints) {file : CanonicalFile} {meme : CanonicalMeme}
    (hfile : file ∈ s.filesWithSha sha256Hex)
    (hmeme : meme ∈ s.memesOfFiles (s.filesWithSha sha256Hex)) :
    ∃ result t, s.reconcileGroup sha256Hex (s.filesWithSha sha256Hex)
        (s.memesOfFiles (s.filesWithSha sha256Hex)) file meme = .ok (result, t) ∧
      t.Constraints ∧
      s.ShaReconciled t sha256Hex result.canonicalMemeFileId result.canonicalMemeId ∧
      (1 < (s.filesWithSha sha256Hex).length → t.files.length < s.files.length) := by
  have hg := shaGroup_of_choice hfile hmeme
  by_cases hsingle : ((s.filesWithSha sha256Hex).filter fun other => other.id ≠ file.id) = []
  · refine ⟨_, _, reconcileGroup_of_single hsingle, hs, ?_, ?_⟩
    · rw [hsingle, obsolete_memes_nil hs hmeme hsingle] at hg
      have hrows : s.reconciledRows [] file.id [] meme.id id [] = s := reconciledRows_nil
      have hreconciled := reconciledRows_reconciled (f := id) [] hs hg (fun _ => rfl)
      simp only [List.map_nil, hrows] at hreconciled
      apply hreconciled
      intro other hother hid
      obtain ⟨primary, hprimary, hprim, hown⟩ := hs.memes_primary other hother
      exact ⟨primary, hprimary, hprim, hown.trans hid⟩
    · intro hlt
      have hall : s.filesWithSha sha256Hex = [file] := by
        apply eq_singleton_of_nodup _ hfile
        · intro other hother
          exact List.inj_on_of_nodup_map hs.files_unique (mem_filesWithSha.mp hother).1
            (mem_filesWithSha.mp hfile).1
            (mem_unique_of_filter_nil (fun file : CanonicalFile => file.id) hsingle hother)
        · rw [filesWithSha, (List.perm_insertionSort _ _).nodup_iff]
          exact (List.Nodup.of_map _ hs.files_unique).filter _
      rw [hall] at hlt
      simp at hlt
  · obtain ⟨result, g, logs, hresult, hresultfile, hresultmeme, hobsolete, hgkeeps, hprimary⟩ :=
      reconcileGroup_rows hs hfile hmeme hsingle
    rw [hobsolete] at hresult hprimary
    have hkeeps : ∀ other, (g other).id = other.id := fun other => (hgkeeps other).1
    have hchosen := fun other (_ : other ∈ s.memes) (_ : other.id = meme.id) => hprimary other
    refine ⟨result, _, hresult, constraints_reconciledRows hs hg hkeeps hchosen, ?_, ?_⟩
    · rw [hresultfile, hresultmeme]
      exact reconciledRows_reconciled logs hs hg hkeeps hchosen
    intro _
    obtain ⟨gone, hgone⟩ := List.exists_mem_of_ne_nil _ hsingle
    exact length_reconciledRows_files (mem_filesWithSha.mp (List.mem_filter.mp hgone).1).1
      (List.mem_map.mpr ⟨gone, hgone, rfl⟩)

theorem reconcileSha_choice (hs : s.Constraints)
    (hheld : ∃ file ∈ s.files, file.sha256Hex = some sha256Hex) :
    ∃ file ∈ s.filesWithSha sha256Hex, ∃ meme ∈ s.memesOfFiles (s.filesWithSha sha256Hex),
      s.reconcileSha sha256Hex = s.reconcileGroup sha256Hex (s.filesWithSha sha256Hex)
        (s.memesOfFiles (s.filesWithSha sha256Hex)) file meme := by
  obtain ⟨held, hheldmem, hheldsha⟩ := hheld
  have hheldgroup : held ∈ s.filesWithSha sha256Hex := mem_filesWithSha.mpr ⟨hheldmem, hheldsha⟩
  obtain ⟨heldMeme, hheldmeme, hheldid⟩ := hs.files_meme held hheldmem
  have hmemegroup : heldMeme ∈ s.memesOfFiles (s.filesWithSha sha256Hex) :=
    mem_memesOfFiles.mpr ⟨hheldmeme, held, hheldgroup, hheldid.symm⟩
  obtain ⟨file, otherFiles, hfiles⟩ := List.exists_cons_of_ne_nil
    (List.ne_nil_of_mem ((List.mem_insertionSort canonicalFirst).mpr hheldgroup))
  obtain ⟨meme, otherMemes, hmemes⟩ := List.exists_cons_of_ne_nil (List.ne_nil_of_mem hmemegroup)
  refine ⟨file, (List.mem_insertionSort canonicalFirst).mp (hfiles ▸ List.mem_cons_self), meme,
    hmemes ▸ List.mem_cons_self, ?_⟩
  simp only [reconcileSha, hfiles, hmemes]

theorem reconcileSha_reconciled (hs : s.Constraints)
    (hheld : ∃ file ∈ s.files, file.sha256Hex = some sha256Hex) :
    ∃ result t, s.reconcileSha sha256Hex = .ok (result, t) ∧ t.Constraints ∧
      s.ShaReconciled t sha256Hex result.canonicalMemeFileId result.canonicalMemeId ∧
      (1 < (s.filesWithSha sha256Hex).length → t.files.length < s.files.length) := by
  obtain ⟨file, hfile, meme, hmeme, hchoice⟩ := reconcileSha_choice hs hheld
  rw [hchoice]
  exact reconcileGroup_reconciled hs hfile hmeme

theorem count_hashes :
    (s.files.filterMap CanonicalFile.sha256Hex).count sha256Hex =
      (s.filesWithSha sha256Hex).length := by
  rw [filesWithSha, (List.perm_insertionSort _ _).length_eq, List.count_filterMap,
    List.countP_eq_length_filter]
  congr 1
  apply List.filter_congr
  intro file _
  rw [beq_eq_decide]

theorem findNextDuplicateSha_eq_some (h : s.findNextDuplicateSha = some sha256Hex) :
    1 < (s.filesWithSha sha256Hex).length := by
  have hmem := List.mem_of_mem_head? h
  rw [List.mem_insertionSort, List.mem_filter, decide_eq_true_eq, count_hashes] at hmem
  exact hmem.2

theorem findNextDuplicateSha_eq_none (h : s.findNextDuplicateSha = none) (sha256Hex : String) :
    (s.filesWithSha sha256Hex).length ≤ 1 := by
  have hnil := List.head?_eq_none_iff.mp h
  by_contra hmany
  rw [← count_hashes, Nat.not_le] at hmany
  have hmem : sha256Hex ∈ ((s.files.filterMap CanonicalFile.sha256Hex).filter fun hash =>
      1 < (s.files.filterMap CanonicalFile.sha256Hex).count hash).insertionSort (· ≤ ·) := by
    rw [List.mem_insertionSort, List.mem_filter, decide_eq_true_eq]
    exact ⟨List.count_pos_iff.mp (Nat.lt_of_succ_lt hmany), hmany⟩
  rw [hnil] at hmem
  cases hmem

theorem reconcileNext_some (hs : s.Constraints) (h : s.findNextDuplicateSha = some sha256Hex) :
    ∃ result t, s.reconcileNext = .ok (some result, t) ∧ t.Constraints ∧
      t.files.length < s.files.length := by
  have hmany := findNextDuplicateSha_eq_some h
  obtain ⟨file, hfile⟩ := List.exists_mem_of_length_pos (Nat.lt_of_succ_lt hmany)
  obtain ⟨result, t, hreconcile, ht, -, hfewer⟩ :=
    reconcileSha_reconciled hs ⟨file, (mem_filesWithSha.mp hfile).1, (mem_filesWithSha.mp hfile).2⟩
  exact ⟨result, t, by simp only [reconcileNext, h, hreconcile], ht, hfewer hmany⟩

theorem reconcileTimes_ends (hs : s.Constraints) :
    ∃ n t, reconcileTimes n s = .ok t ∧ t.reconcileNext = .ok (none, t) := by
  generalize hlength : s.files.length = length
  induction length using Nat.strong_induction_on generalizing s with
  | _ length ih =>
    cases hnext : s.findNextDuplicateSha with
    | none => exact ⟨0, s, rfl, by simp only [reconcileNext, hnext]⟩
    | some sha256Hex =>
      obtain ⟨result, t, hcall, ht, hfewer⟩ := reconcileNext_some hs hnext
      obtain ⟨n, u, hrest, hdone⟩ := ih t.files.length (hlength ▸ hfewer) ht rfl
      exact ⟨n + 1, u, by simp only [reconcileTimes, hcall, hrest], hdone⟩

end Groups

/-- A reconciliation conserves everything, and repeated calls reach the end. -/
theorem sha_reconciliation_conserves {s : Content} (hs : s.Constraints) :
    (∀ sha256Hex, (∃ file ∈ s.files, file.sha256Hex = some sha256Hex) →
      ∃ result t, s.reconcileSha sha256Hex = .ok (result, t) ∧ t.Constraints ∧
        s.ShaReconciled t sha256Hex result.canonicalMemeFileId result.canonicalMemeId) ∧
    ∃ n t, reconcileTimes n s = .ok t ∧ t.reconcileNext = .ok (none, t) ∧
      ∀ sha256Hex, (t.filesWithSha sha256Hex).length ≤ 1 := by
  constructor
  · intro sha256Hex hheld
    obtain ⟨result, t, hreconcile, ht, hreconciled, -⟩ := reconcileSha_reconciled hs hheld
    exact ⟨result, t, hreconcile, ht, hreconciled⟩
  obtain ⟨n, t, htimes, hdone⟩ := reconcileTimes_ends hs
  refine ⟨n, t, htimes, hdone, ?_⟩
  apply findNextDuplicateSha_eq_none
  unfold reconcileNext at hdone
  split at hdone
  · next hnone => exact hnone
  · split at hdone <;> cases hdone

def duplicatedHash : Content where
  memes := [{ id := 1, primaryFileId := 11 }, { id := 2, primaryFileId := 12, createdAt := 5 }]
  files := [{ id := 11, memeId := 1, s3OriginalKey := "a", sha256Hex := some "0f" },
    { id := 12, memeId := 2, s3OriginalKey := "b", sha256Hex := some "0f", status := .ready },
    { id := 13, memeId := 2, s3OriginalKey := "c", sha256Hex := some "1e" }]
  sources := [{ id := 21, fileId := 11, platform := .telegram, sourceId := "s", postId := "1" }]
  collectionMemes := [{ collectionId := 4, memeId := 2 }]

theorem duplicatedHash_constraints : duplicatedHash.Constraints := by
  constructor <;> decide

theorem sha_reconciliation_conserves_duplicatedHash :
    ∃ result t, duplicatedHash.reconcileSha "0f" = .ok (result, t) ∧ t.Constraints ∧
      duplicatedHash.ShaReconciled t "0f" result.canonicalMemeFileId result.canonicalMemeId :=
  (sha_reconciliation_conserves duplicatedHash_constraints).1 "0f" (by decide)

end Content

end MemeExpert
