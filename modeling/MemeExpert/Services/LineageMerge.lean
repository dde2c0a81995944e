import Mathlib.Algebra.Order.Ring.Unbundled.Rat
import MemeExpert.Ingest.Policy
import MemeExpert.Lib.Tables
import MemeExpert.Services.ContentMerge

/-! The near-duplicate merge and the merge of an administrator fold a source meme into a
target over all tables that name a meme or a file. -/

namespace MemeExpert

open Repointing Services Tables

structure QdrantSimilarityMatch where
  memeFileId : Uuid
  memeId : Uuid
  similarityScore : Rat

structure MergeOutcome where
  merged : Bool
  targetMemeId : Uuid
  sourceMemeId : Option Uuid := none
  similarityScore : Option Rat := none
  primaryFileId : Uuid

namespace Content

section Transfers

variable (s : Content) (sourceMemeId targetMemeId : Uuid)

def transferMemeFiles : Content :=
  { s with
    files := s.files.map fun file =>
      if file.memeId = sourceMemeId then { file with memeId := targetMemeId } else file }

def transferCollectionMemberships : Content :=
  { s with collectionMemes := repoint saveColumns sourceMemeId targetMemeId s.collectionMemes }

def transferPins : Content :=
  { s with pinnedMemes := repoint pinColumns sourceMemeId targetMemeId s.pinnedMemes }

def preferredFile (a b : CanonicalFile) : Prop :=
  b.qualityScore < a.qualityScore ∨
    (a.qualityScore = b.qualityScore ∧
      (b.createdAt < a.createdAt ∨ (a.createdAt = b.createdAt ∧ b.id ≤ a.id)))

instance (a b : CanonicalFile) : Decidable (preferredFile a b) :=
  inferInstanceAs (Decidable (_ ∨ _))

def reselectPrimaryFile (memeId : Uuid) : Except ServiceError (Uuid × Content) :=
  match (s.filesOf memeId).insertionSort preferredFile with
  | [] =>
    .error ⟨.pipelineIngest,
      s!"Merged target meme {memeId} has no files available for primary selection."⟩
  | best :: _ =>
    .ok (best.id, s.updateMeme memeId fun meme => { meme with primaryFileId := best.id })

def MERGE_REASON_HIGH_SIMILARITY : String := "high_similarity_match"

def MERGE_REASON_ADMIN : String := "admin_destructive_merge"

def foldedInto (source target : CanonicalMeme) : Content :=
  let resolved := s.updateMeme target.id fun meme =>
    { meme with
      visibilityMode := resolveVisibilityMode [target.visibilityMode, source.visibilityMode] }
  let moved := ((resolved.transferMemeFiles source.id target.id).transferCollectionMemberships
    source.id target.id).transferPins source.id target.id
  let counted := moved.updateMeme target.id fun meme =>
    { meme with likeCount := meme.likeCount + source.likeCount }
  (counted.refreshEffectiveVisibility target.id).deleteMemes fun memeId => memeId = source.id

def applyMerge (source : CanonicalMeme) (sourceMemeFileId : Option Uuid) (target : CanonicalMeme)
    (similarityScore : Option Rat) (mergeReason : String) :
    Except ServiceError (MergeOutcome × Content) :=
  let movedFileIds := (s.filesOf source.id).map fun file => file.id
  match (s.foldedInto source target).reselectPrimaryFile target.id with
  | .error error => .error error
  | .ok (primaryFileId, t) =>
    .ok
      ({ merged := true, targetMemeId := target.id, sourceMemeId := some source.id
         similarityScore := similarityScore, primaryFileId := primaryFileId },
       { t with
         mergeLogs := t.mergeLogs ++
          [{ sourceMemeId := source.id, sourceMemeFileId := sourceMemeFileId
             targetMemeId := target.id, targetPrimaryFileId := some primaryFileId
             similarityScore := similarityScore, mergeReason := mergeReason
             movedFileIds := movedFileIds }] })

def autoMergeAllowed (source target : CanonicalMeme) : Bool :=
  let sourceScope := s.loadApproximateMergeScope source
  let targetScope := s.loadApproximateMergeScope target
  if sourceScope.isPublic || targetScope.isPublic then sourceScope.isPublic && targetScope.isPublic
  else
    sourceScope.uploaderUserId.isSome && sourceScope.uploaderUserId = targetScope.uploaderUserId

def firstMergeTarget (current : CanonicalMeme) :
    List QdrantSimilarityMatch → Option (CanonicalMeme × Rat)
  | [] => none
  | candidate :: rest =>
    match s.meme candidate.memeId with
    | none => firstMergeTarget current rest
    | some target =>
      if target.createdAt ≥ current.createdAt then firstMergeTarget current rest
      else if s.autoMergeAllowed current target then some (target, candidate.similarityScore)
      else firstMergeTarget current rest

def selectMergeTarget (similarityThreshold : Rat) (file : CanonicalFile)
    (similarityMatches : List QdrantSimilarityMatch) (current : CanonicalMeme) :
    Option (CanonicalMeme × Rat) :=
  let sortedMatches := (similarityMatches.filter fun candidate =>
    similarityThreshold < candidate.similarityScore ∧ candidate.memeId ≠ file.memeId ∧
      candidate.memeFileId ≠ file.id).insertionSort fun a b =>
        b.similarityScore ≤ a.similarityScore
  s.firstMergeTarget current sortedMatches

def maybeMergeAfterEmbed (similarityThreshold : Rat) (file : CanonicalFile)
    (similarityMatches : List QdrantSimilarityMatch) : Except ServiceError (MergeOutcome × Content) :=
  match s.meme file.memeId with
  | none =>
    .error ⟨.pipelineIngest,
      s!"Meme {file.memeId} disappeared before the embed merge transaction ran."⟩
  | some current =>
    match s.selectMergeTarget similarityThreshold file similarityMatches current with
    | none =>
      .ok ({ merged := false, targetMemeId := file.memeId
             primaryFileId := current.primaryFileId }, s)
    | some (target, matchedScore) =>
      s.applyMerge current (some file.id) target (some matchedScore) MERGE_REASON_HIGH_SIMILARITY

def mergeMeme (memeId targetMemeId : Uuid) (confirmation : String) :
    Except ServiceError (MergeOutcome × Content) :=
  match s.meme memeId with
  | none => .error ⟨.adminNotFound, s!"Meme {memeId} does not exist."⟩
  | some source =>
    if confirmation ≠ toString memeId then
      .error ⟨.adminConflict, "Meme merge confirmation must exactly match the source meme id."⟩
    else if targetMemeId = memeId then
      .error ⟨.adminConflict, "A meme cannot be merged into itself."⟩
    else
      match s.meme targetMemeId with
      | none => .error ⟨.adminNotFound, s!"Target meme {targetMemeId} does not exist."⟩
      | some target =>
        s.applyMerge source (some source.primaryFileId) target none MERGE_REASON_ADMIN

end Transfers

structure MergeConserves (sourceMemeId targetMemeId : Uuid) (s t : Content) : Prop where
  files : t.files = s.files.map fun file =>
    if file.memeId = sourceMemeId then { file with memeId := targetMemeId } else file
  source_deleted : ∀ meme ∈ t.memes, meme.id ≠ sourceMemeId
  saves : ∀ collectionId,
    (∃ row ∈ s.collectionMemes, row.collectionId = collectionId ∧
      (row.memeId = sourceMemeId ∨ row.memeId = targetMemeId)) →
    t.collectionMemes.countP
      (fun row => row.collectionId = collectionId && row.memeId = targetMemeId) = 1
  pins : ∀ userId,
    (∃ pin ∈ s.pinnedMemes, pin.userId = userId ∧
      (pin.memeId = sourceMemeId ∨ pin.memeId = targetMemeId)) →
    t.pinnedMemes.countP (fun pin => pin.userId = userId && pin.memeId = targetMemeId) = 1
  other_memes : ∀ meme : CanonicalMeme, meme.id ≠ sourceMemeId → meme.id ≠ targetMemeId →
    (meme ∈ t.memes ↔ meme ∈ s.memes)
  other_rows : ∀ memeId, memeId ≠ sourceMemeId → memeId ≠ targetMemeId →
    t.filesOf memeId = s.filesOf memeId ∧
    (t.collectionMemes.filter fun row => row.memeId = memeId) =
      (s.collectionMemes.filter fun row => row.memeId = memeId) ∧
    (t.pinnedMemes.filter fun pin => pin.memeId = memeId) =
      (s.pinnedMemes.filter fun pin => pin.memeId = memeId) ∧
    (t.reports.filter fun row => row.memeId = memeId) =
      (s.reports.filter fun row => row.memeId = memeId) ∧
    (t.decisions.filter fun row => row.memeId = memeId) =
      (s.decisions.filter fun row => row.memeId = memeId) ∧
    (t.seoPages.filter fun page => page.memeId = memeId) =
      (s.seoPages.filter fun page => page.memeId = memeId)
  other_references :
    (∀ row ∈ s.requests, row.materializedMemeId ≠ some sourceMemeId → row ∈ t.requests) ∧
    (∀ row ∈ s.selections, row.memeId ≠ some sourceMemeId → row ∈ t.selections)
  file_rows : t.sources = s.sources ∧ t.stageRows = s.stageRows ∧ t.syncRows = s.syncRows ∧
    t.ocrRows = s.ocrRows ∧ t.telegramRows = s.telegramRows ∧ t.embeddings = s.embeddings ∧
    t.outbox = s.outbox ∧ t.collections = s.collections ∧ t.analytics = s.analytics
  primary : ∃ meme ∈ t.memes, meme.id = targetMemeId ∧
    ∃ file ∈ t.files, file.id = meme.primaryFileId ∧ file.memeId = targetMemeId ∧
      ∀ other ∈ t.files, other.memeId = targetMemeId → other.qualityScore ≤ file.qualityScore

section Specs

variable {s t : Content}

theorem deleteFiles_of_none {gone : Uuid → Bool} (h : ∀ id, gone id = false) :
    s.deleteFiles gone = s := by
  have hnull : setNull gone = id := by
    funext ref
    cases ref with
    | none => rfl
    | some value => simp [setNull, Option.filter, h]
  simp [deleteFiles, hnull, h]

theorem deleteMemes_of_moved {gone : Uuid → Bool}
    (h : ∀ file ∈ s.files, gone file.memeId = false) :
    s.deleteMemes gone =
      { s with
        memes := s.memes.filter fun meme => !gone meme.id
        requests := s.requests.map fun row =>
          { row with materializedMemeId := setNull gone row.materializedMemeId }
        collectionMemes := s.collectionMemes.filter fun row => !gone row.memeId
        pinnedMemes := s.pinnedMemes.filter fun pin => !gone pin.memeId
        reports := s.reports.filter fun row => !gone row.memeId
        decisions := s.decisions.filter fun row => !gone row.memeId
        selections := s.selections.map fun row => { row with memeId := setNull gone row.memeId }
        seoPages := s.seoPages.filter fun page => !gone page.memeId } := by
  have hnone : ∀ id, (s.files.any fun file => file.id = id && gone file.memeId) = false := by
    intro id
    rw [List.any_eq_false]
    intro file hfile
    simp [h file hfile]
  simp only [deleteMemes]
  rw [deleteFiles_of_none hnone]

/-- The rows after a merge that rewrites the target with `f`. -/
def mergedRows (s : Content) (sourceMemeId targetMemeId : Uuid)
    (f : CanonicalMeme → CanonicalMeme) : Content :=
  { s with
    memes := (s.memes.filter fun meme => meme.id ≠ sourceMemeId).map fun meme =>
      if meme.id = targetMemeId then f meme else meme
    files := s.files.map fun file =>
      if file.memeId = sourceMemeId then { file with memeId := targetMemeId } else file
    requests := s.requests.map fun row =>
      { row with
        materializedMemeId := setNull (fun id => id = sourceMemeId) row.materializedMemeId }
    collectionMemes := repoint saveColumns sourceMemeId targetMemeId s.collectionMemes
    pinnedMemes := repoint pinColumns sourceMemeId targetMemeId s.pinnedMemes
    reports := s.reports.filter fun row => row.memeId ≠ sourceMemeId
    decisions := s.decisions.filter fun row => row.memeId ≠ sourceMemeId
    selections := s.selections.map fun row =>
      { row with memeId := setNull (fun id => id = sourceMemeId) row.memeId }
    seoPages := s.seoPages.filter fun page => page.memeId ≠ sourceMemeId }

theorem filter_ref_repoint {ρ : Type} (columns : Columns ρ Uuid Uuid) {rows : List ρ}
    {source target : Uuid} (hne : source ≠ target) :
    (repoint columns source target rows).filter (fun row => !decide (columns.ref row = source)) =
      repoint columns source target rows := by
  rw [List.filter_eq_self]
  intro row hrow
  simp [ref_ne_of_mem_repoint columns hne hrow]

variable {memeId : Uuid}

theorem filter_updateMeme {sourceMemeId : Uuid} {f : CanonicalMeme → CanonicalMeme}
    (hf : ∀ meme, (f meme).id = meme.id) :
    (s.updateMeme memeId f).memes.filter (fun meme => !decide (meme.id = sourceMemeId)) =
      (s.memes.filter fun meme => meme.id ≠ sourceMemeId).map fun meme =>
        if meme.id = memeId then f meme else meme := by
  rw [updateMeme, List.filter_map]
  congr 1
  apply List.filter_congr
  intro meme _
  by_cases hmeme : meme.id = memeId
  · simp [hmeme, hf]
  · simp [hmeme]

theorem updateMeme_updateMeme {f g : CanonicalMeme → CanonicalMeme}
    (hf : ∀ meme, (f meme).id = meme.id) :
    (s.updateMeme memeId f).updateMeme memeId g = s.updateMeme memeId (g ∘ f) := by
  simp only [updateMeme, List.map_map]
  congr 1
  apply List.map_congr_left
  intro meme _
  by_cases hmeme : meme.id = memeId
  · simp [hmeme, hf]
  · simp [hmeme]

variable {source target : CanonicalMeme}

theorem foldedInto_eq (hne : source.id ≠ target.id) :
    ∃ f : CanonicalMeme → CanonicalMeme,
      (∀ meme, (f meme).id = meme.id ∧ (f meme).createdAt = meme.createdAt ∧
        (f meme).isNsfw = meme.isNsfw) ∧
      s.foldedInto source target = s.mergedRows source.id target.id f := by
  have hfiles : ∀ file ∈ (s.transferMemeFiles source.id target.id).files,
      decide (file.memeId = source.id) = false := by
    intro file hfile
    obtain ⟨old, -, rfl⟩ := List.mem_map.mp hfile
    rw [decide_eq_false_iff_not]
    split
    · exact Ne.symm hne
    · next hother => exact hother
  let resolve := fun meme : CanonicalMeme =>
    { meme with
      visibilityMode := resolveVisibilityMode [target.visibilityMode, source.visibilityMode] }
  let count := fun meme : CanonicalMeme =>
    { meme with likeCount := meme.likeCount + source.likeCount }
  let present := fun meme : CanonicalMeme =>
    { meme with isPublic := (s.transferMemeFiles source.id target.id).effectiveVisibility meme }
  have hmemes : (((s.updateMeme target.id resolve).updateMeme target.id count).updateMeme target.id
      present).memes.filter (fun meme => !decide (meme.id = source.id)) =
        (s.mergedRows source.id target.id (present ∘ count ∘ resolve)).memes := by
    rw [updateMeme_updateMeme (f := resolve) fun _ => rfl,
      updateMeme_updateMeme (f := count ∘ resolve) fun _ => rfl,
      filter_updateMeme (f := present ∘ count ∘ resolve) fun _ => rfl]
    rfl
  refine ⟨present ∘ count ∘ resolve, fun meme => ⟨rfl, rfl, rfl⟩, ?_⟩
  rw [foldedInto, deleteMemes_of_moved hfiles]
  simp only [mergedRows, ne_eq, decide_not] at hmemes ⊢
  congr 1
  · exact filter_ref_repoint saveColumns hne
  · exact filter_ref_repoint pinColumns hne

theorem updateMeme_mergedRows {sourceMemeId targetMemeId : Uuid} {f g : CanonicalMeme → CanonicalMeme}
    (hf : ∀ meme, (f meme).id = meme.id) :
    (s.mergedRows sourceMemeId targetMemeId f).updateMeme targetMemeId g =
      s.mergedRows sourceMemeId targetMemeId (g ∘ f) := by
  simp only [updateMeme, mergedRows, List.map_map]
  congr 1
  apply List.map_congr_left
  intro meme _
  by_cases hmeme : meme.id = targetMemeId
  · simp [hmeme, hf]
  · simp [hmeme]

theorem preferredFile_total (a b : CanonicalFile) : preferredFile a b ∨ preferredFile b a := by
  unfold preferredFile
  rcases lt_trichotomy a.qualityScore b.qualityScore with hscore | hscore | hscore
  · exact .inr (.inl hscore)
  · rcases Nat.lt_trichotomy a.createdAt b.createdAt with htime | htime | htime
    · exact .inr (.inr ⟨hscore.symm, .inl htime⟩)
    · rcases Nat.le_total a.id b.id with hid | hid
      · exact .inr (.inr ⟨hscore.symm, .inr ⟨htime.symm, hid⟩⟩)
      · exact .inl (.inr ⟨hscore, .inr ⟨htime, hid⟩⟩)
    · exact .inl (.inr ⟨hscore, .inl htime⟩)
  · exact .inl (.inl hscore)

theorem qualityScore_le_of_preferredFile {a b : CanonicalFile} (h : preferredFile a b) :
    b.qualityScore ≤ a.qualityScore := by
  rcases h with hlt | ⟨heq, -⟩
  · exact hlt.le
  · exact heq.ge

theorem preferredFile_trans {a b c : CanonicalFile} (hab : preferredFile a b)
    (hbc : preferredFile b c) : preferredFile a c := by
  unfold preferredFile at *
  rcases hab with hab | ⟨hab, htab⟩
  · exact .inl ((qualityScore_le_of_preferredFile hbc).trans_lt hab)
  rcases hbc with hbc | ⟨hbc, htbc⟩
  · exact .inl (hab ▸ hbc)
  refine .inr ⟨hab.trans hbc, ?_⟩
  rcases htab with htab | ⟨htab, hidab⟩
  · rcases htbc with htbc | ⟨htbc, -⟩
    · exact .inl (Nat.lt_trans htbc htab)
    · exact .inl (htbc ▸ htab)
  · rcases htbc with htbc | ⟨htbc, hidbc⟩
    · exact .inl (htab ▸ htbc)
    · exact .inr ⟨htab.trans htbc, Nat.le_trans hidbc hidab⟩

theorem reselectPrimaryFile_ok {primaryFileId : Uuid}
    (h : s.reselectPrimaryFile memeId = .ok (primaryFileId, t)) :
    (∃ best ∈ s.files, best.id = primaryFileId ∧ best.memeId = memeId ∧
      ∀ other ∈ s.files, other.memeId = memeId → other.qualityScore ≤ best.qualityScore) ∧
    t = s.updateMeme memeId fun meme => { meme with primaryFileId := primaryFileId } := by
  have : Std.Total preferredFile := ⟨preferredFile_total⟩
  have : IsTrans CanonicalFile preferredFile := ⟨fun _ _ _ => preferredFile_trans⟩
  unfold reselectPrimaryFile at h
  split at h
  · cases h
  next best rest hsorted =>
  cases h
  refine ⟨⟨best, ?_⟩, rfl⟩
  have hperm := List.perm_insertionSort preferredFile (s.filesOf memeId)
  have hpairs := List.pairwise_insertionSort preferredFile (s.filesOf memeId)
  rw [hsorted] at hperm hpairs
  obtain ⟨hbest, hmeme⟩ := List.mem_filter.mp (hperm.mem_iff.mp List.mem_cons_self)
  refine ⟨hbest, rfl, by simpa using hmeme, ?_⟩
  intro other hother hothermeme
  have hlisted : other ∈ best :: rest :=
    hperm.mem_iff.mpr (List.mem_filter.mpr ⟨hother, by simpa using hothermeme⟩)
  rcases List.mem_cons.mp hlisted with rfl | hrest
  · exact le_rfl
  · exact qualityScore_le_of_preferredFile ((List.pairwise_cons.mp hpairs).1 other hrest)

theorem exists_reselectPrimaryFile (h : ∃ file ∈ s.files, file.memeId = memeId) :
    ∃ result, s.reselectPrimaryFile memeId = .ok result := by
  unfold reselectPrimaryFile
  split
  · next hsorted =>
    obtain ⟨file, hfile, hmeme⟩ := h
    have hmem : file ∈ (s.filesOf memeId).insertionSort preferredFile :=
      (List.mem_insertionSort _).mpr (List.mem_filter.mpr ⟨hfile, by simpa using hmeme⟩)
    rw [hsorted] at hmem
    cases hmem
  · exact ⟨_, rfl⟩

theorem filter_of_ne {ρ : Type} {ref : ρ → Uuid} {rows : List ρ} {sourceMemeId : Uuid}
    (h : memeId ≠ sourceMemeId) :
    (rows.filter fun row => ref row ≠ sourceMemeId).filter (fun row => ref row = memeId) =
      rows.filter fun row => ref row = memeId := by
  rw [List.filter_filter]
  apply List.filter_congr
  intro row _
  by_cases href : ref row = memeId
  · simp [href, h]
  · simp [href]

theorem setNull_of_ne {sourceMemeId : Uuid} {ref : Option Uuid} (h : ref ≠ some sourceMemeId) :
    setNull (fun id => id = sourceMemeId) ref = ref := by
  cases ref with
  | none => rfl
  | some value =>
    have hne : value ≠ sourceMemeId := fun heq => h (heq ▸ rfl)
    simp [setNull, Option.filter, hne]

theorem filesOf_moved {sourceMemeId targetMemeId : Uuid} (hs : memeId ≠ sourceMemeId)
    (ht : memeId ≠ targetMemeId) :
    (s.files.map fun file =>
      if file.memeId = sourceMemeId then { file with memeId := targetMemeId } else file).filter
        (fun file => file.memeId = memeId) = s.filesOf memeId := by
  rw [List.filter_map, filesOf]
  have hpred : ∀ file ∈ s.files,
      ((fun file : CanonicalFile => decide (file.memeId = memeId)) ∘ fun file =>
        if file.memeId = sourceMemeId then { file with memeId := targetMemeId } else file) file =
      decide (file.memeId = memeId) := by
    intro file _
    by_cases hsource : file.memeId = sourceMemeId
    · simp [hsource, Ne.symm hs, Ne.symm ht]
    · simp [hsource]
  rw [List.filter_congr hpred]
  refine (List.map_congr_left ?_).trans (List.map_id' _)
  intro file hfile
  have hmeme : file.memeId = memeId := by simpa using (List.mem_filter.mp hfile).2
  rw [if_neg (hmeme.trans_ne hs)]

section Rows

variable {sourceMemeId targetMemeId : Uuid} {f : CanonicalMeme → CanonicalMeme}

theorem mem_mergedRows {meme : CanonicalMeme} :
    meme ∈ (s.mergedRows sourceMemeId targetMemeId f).memes ↔
      ∃ old ∈ s.memes, old.id ≠ sourceMemeId ∧
        (if old.id = targetMemeId then f old else old) = meme := by
  simp [mergedRows, and_assoc]

theorem id_rewritten (hf : ∀ meme, (f meme).id = meme.id) (meme : CanonicalMeme) :
    (if meme.id = targetMemeId then f meme else meme).id = meme.id := by
  split
  · exact hf meme
  · rfl

theorem constraints_mergedRows (hs : s.Constraints) (hne : sourceMemeId ≠ targetMemeId)
    (hf : ∀ meme, (f meme).id = meme.id) (htarget : ∃ meme ∈ s.memes, meme.id = targetMemeId)
    (hprimary : ∀ meme, ∃ file ∈ (s.mergedRows sourceMemeId targetMemeId f).files,
      file.id = (f meme).primaryFileId ∧ file.memeId = targetMemeId) :
    (s.mergedRows sourceMemeId targetMemeId f).Constraints where
  memes_unique := by
    have hids : (s.mergedRows sourceMemeId targetMemeId f).memes.map (fun meme => meme.id) =
        (s.memes.filter fun meme => meme.id ≠ sourceMemeId).map fun meme => meme.id := by
      rw [mergedRows, List.map_map]
      exact List.map_congr_left fun meme _ => id_rewritten hf meme
    rw [hids]
    exact hs.memes_unique.sublist (List.filter_sublist.map _)
  files_unique := by
    have hids : (s.mergedRows sourceMemeId targetMemeId f).files.map (fun file => file.id) =
        s.files.map fun file => file.id := by
      rw [mergedRows, List.map_map]
      apply List.map_congr_left
      intro file _
      dsimp only [Function.comp_apply]
      split <;> rfl
    rw [hids]
    exact hs.files_unique
  files_meme := by
    intro file hfile
    obtain ⟨old, hold, rfl⟩ := List.mem_map.mp hfile
    by_cases hsource : old.memeId = sourceMemeId
    · obtain ⟨target, htargetmem, hid⟩ := htarget
      rw [if_pos hsource]
      refine ⟨f target, mem_mergedRows.mpr ⟨target, htargetmem, hid.trans_ne (Ne.symm hne), ?_⟩,
        (hf target).trans hid⟩
      rw [if_pos hid]
    obtain ⟨meme, hmeme, hid⟩ := hs.files_meme old hold
    rw [if_neg hsource]
    exact ⟨_, mem_mergedRows.mpr ⟨meme, hmeme, hid.trans_ne hsource, rfl⟩,
      (id_rewritten hf meme).trans hid⟩
  memes_primary := by
    intro meme hmeme
    obtain ⟨old, hold, hsource, rfl⟩ := mem_mergedRows.mp hmeme
    by_cases hid : old.id = targetMemeId
    · rw [if_pos hid, hf, hid]
      exact hprimary old
    obtain ⟨file, hfile, hprim, hown⟩ := hs.memes_primary old hold
    rw [if_neg hid]
    refine ⟨file, List.mem_map.mpr ⟨file, hfile, ?_⟩, hprim, hown⟩
    rw [if_neg (hown.trans_ne hsource)]
  saves_unique := nodup_repoint saveColumns hs.saves_unique
  pins_unique := nodup_repoint pinColumns hs.pins_unique
  stages_unique := hs.stages_unique
  syncs_unique := hs.syncs_unique
  ocr_unique := hs.ocr_unique
  telegram_unique := hs.telegram_unique
  seo_unique := hs.seo_unique.sublist (List.filter_sublist.map _)

theorem mergedRows_conserves (hs : s.Constraints) (hne : sourceMemeId ≠ targetMemeId)
    (hf : ∀ meme, (f meme).id = meme.id) (htarget : ∃ meme ∈ s.memes, meme.id = targetMemeId)
    (hbest : ∀ meme, ∃ file ∈ (s.mergedRows sourceMemeId targetMemeId f).files,
      file.id = (f meme).primaryFileId ∧ file.memeId = targetMemeId ∧
        ∀ other ∈ (s.mergedRows sourceMemeId targetMemeId f).files,
          other.memeId = targetMemeId → other.qualityScore ≤ file.qualityScore) :
    MergeConserves sourceMemeId targetMemeId s (s.mergedRows sourceMemeId targetMemeId f) where
  files := rfl
  source_deleted := by
    intro meme hmeme
    obtain ⟨old, -, hsource, rfl⟩ := mem_mergedRows.mp hmeme
    rw [id_rewritten hf]
    exact hsource
  saves := fun _ hheld => countP_repoint saveColumns hne hs.saves_unique hheld
  pins := fun _ hheld => countP_repoint pinColumns hne hs.pins_unique hheld
  other_memes := by
    intro meme hsource htargetid
    rw [mem_mergedRows]
    constructor
    · rintro ⟨old, hold, -, rfl⟩
      rw [id_rewritten hf] at htargetid
      rw [if_neg htargetid]
      exact hold
    · intro hmeme
      exact ⟨meme, hmeme, hsource, if_neg htargetid⟩
  other_rows := fun _ hsource htargetid =>
    ⟨filesOf_moved hsource htargetid, filter_repoint_of_ne saveColumns hsource htargetid,
      filter_repoint_of_ne pinColumns hsource htargetid, filter_of_ne hsource,
      filter_of_ne hsource, filter_of_ne hsource⟩
  other_references := by
    constructor
    · intro row hrow href
      refine List.mem_map.mpr ⟨row, hrow, ?_⟩
      rw [setNull_of_ne href]
    · intro row hrow href
      refine List.mem_map.mpr ⟨row, hrow, ?_⟩
      rw [setNull_of_ne href]
  file_rows := ⟨rfl, rfl, rfl, rfl, rfl, rfl, rfl, rfl, rfl⟩
  primary := by
    obtain ⟨target, htargetmem, hid⟩ := htarget
    obtain ⟨file, hfile, hprim, hown, hmax⟩ := hbest target
    refine ⟨f target, mem_mergedRows.mpr ⟨target, htargetmem, hid.trans_ne (Ne.symm hne), if_pos hid⟩,
      (hf target).trans hid, file, hfile, hprim, hown, hmax⟩

end Rows

theorem applyMerge_rows (hs : s.Constraints)
    (htarget : target ∈ s.memes) (hne : source.id ≠ target.id)
    (sourceMemeFileId : Option Uuid) (similarityScore : Option Rat) (mergeReason : String) :
    ∃ f outcome log, s.applyMerge source sourceMemeFileId target similarityScore mergeReason =
        .ok (outcome, { s.mergedRows source.id target.id f with mergeLogs := s.mergeLogs ++ [log] }) ∧
      (∀ meme, (f meme).id = meme.id ∧ (f meme).createdAt = meme.createdAt ∧
        (f meme).isNsfw = meme.isNsfw) ∧
      (outcome.sourceMemeId = some source.id ∧ outcome.targetMemeId = target.id) ∧
      (log.sourceMemeId = source.id ∧ log.targetMemeId = target.id) ∧
      ∀ meme, ∃ file ∈ (s.mergedRows source.id target.id f).files,
        file.id = (f meme).primaryFileId ∧ file.memeId = target.id ∧
          ∀ other ∈ (s.mergedRows source.id target.id f).files,
            other.memeId = target.id → other.qualityScore ≤ file.qualityScore := by
  obtain ⟨f, hf, hfolded⟩ := foldedInto_eq (s := s) hne
  obtain ⟨primary, hprimary, -, hprimarymeme⟩ := hs.memes_primary target htarget
  have hfile : ∃ file ∈ (s.foldedInto source target).files, file.memeId = target.id := by
    rw [hfolded]
    refine ⟨primary, List.mem_map.mpr ⟨primary, hprimary, ?_⟩, hprimarymeme⟩
    rw [if_neg (hprimarymeme.trans_ne (Ne.symm hne))]
  obtain ⟨⟨primaryFileId, u⟩, hselect⟩ := exists_reselectPrimaryFile hfile
  obtain ⟨hbest, hu⟩ := reselectPrimaryFile_ok hselect
  let choose := fun meme : CanonicalMeme => { f meme with primaryFileId := primaryFileId }
  have hrows : u = s.mergedRows source.id target.id choose := by
    rw [hu, hfolded]
    exact updateMeme_mergedRows fun meme => (hf meme).1
  subst hrows
  refine ⟨choose, _, _, by rw [applyMerge, hselect]; rfl, hf, ⟨rfl, rfl⟩, ⟨rfl, rfl⟩, ?_⟩
  intro _
  rw [hfolded] at hbest
  exact hbest

theorem applyMerge_conserves (hs : s.Constraints)
    (htarget : target ∈ s.memes) (hne : source.id ≠ target.id)
    (sourceMemeFileId : Option Uuid) (similarityScore : Option Rat) (mergeReason : String) :
    ∃ outcome t, s.applyMerge source sourceMemeFileId target similarityScore mergeReason =
        .ok (outcome, t) ∧
      t.Constraints ∧ MergeConserves source.id target.id s t ∧
      (∀ meme ∈ t.memes, ∃ old ∈ s.memes, old.id = meme.id ∧ old.createdAt = meme.createdAt) ∧
      ∃ log, t.mergeLogs = s.mergeLogs ++ [log] ∧ log.sourceMemeId = source.id ∧
        log.targetMemeId = target.id := by
  obtain ⟨f, outcome, log, happly, hf, -, hlog, hbest⟩ :=
    applyMerge_rows hs htarget hne sourceMemeFileId similarityScore mergeReason
  have hid : ∀ meme, (f meme).id = meme.id := fun meme => (hf meme).1
  have hconstraints := constraints_mergedRows hs hne hid ⟨target, htarget, rfl⟩ fun meme => by
    obtain ⟨file, hfile, hprim, hown, -⟩ := hbest meme
    exact ⟨file, hfile, hprim, hown⟩
  have hconserves := mergedRows_conserves hs hne hid ⟨target, htarget, rfl⟩ hbest
  refine ⟨outcome, _, happly, ?_, ?_, ?_, ⟨log, rfl, hlog⟩⟩
  · exact ⟨hconstraints.1, hconstraints.2, hconstraints.3, hconstraints.4, hconstraints.5,
      hconstraints.6, hconstraints.7, hconstraints.8, hconstraints.9, hconstraints.10,
      hconstraints.11⟩
  · exact ⟨hconserves.1, hconserves.2, hconserves.3, hconserves.4, hconserves.5, hconserves.6,
      hconserves.7, hconserves.8, hconserves.9⟩
  intro meme hmeme
  obtain ⟨old, hold, -, rfl⟩ := mem_mergedRows.mp hmeme
  refine ⟨old, hold, (id_rewritten hid old).symm, ?_⟩
  split
  · exact (hf old).2.1.symm
  · rfl

theorem meme_eq_some {meme : CanonicalMeme} (h : s.meme memeId = some meme) :
    meme ∈ s.memes ∧ meme.id = memeId :=
  ⟨List.mem_of_find?_eq_some h, by simpa using List.find?_some h⟩

theorem firstMergeTarget_eq_some {current : CanonicalMeme} {score : Rat}
    {candidates : List QdrantSimilarityMatch}
    (h : s.firstMergeTarget current candidates = some (target, score)) :
    target ∈ s.memes ∧ target.createdAt < current.createdAt ∧
      ∃ candidate ∈ candidates, candidate.memeId = target.id := by
  induction candidates with
  | nil => cases h
  | cons candidate rest ih =>
    have hrest : s.firstMergeTarget current rest = some (target, score) →
        target ∈ s.memes ∧ target.createdAt < current.createdAt ∧
          ∃ other ∈ candidate :: rest, other.memeId = target.id := by
      intro hsome
      obtain ⟨hmem, holder, other, hother, hid⟩ := ih hsome
      exact ⟨hmem, holder, other, List.mem_cons_of_mem _ hother, hid⟩
    unfold firstMergeTarget at h
    split at h
    · exact hrest h
    next found hfound =>
    split at h
    · exact hrest h
    next holder =>
    split at h
    · cases h
      obtain ⟨hmem, hid⟩ := meme_eq_some hfound
      exact ⟨hmem, Nat.lt_of_not_le holder, candidate, List.mem_cons_self, hid.symm⟩
    · exact hrest h

theorem selectMergeTarget_eq_some {similarityThreshold : Rat} {file : CanonicalFile}
    {similarityMatches : List QdrantSimilarityMatch} {current : CanonicalMeme} {score : Rat}
    (h : s.selectMergeTarget similarityThreshold file similarityMatches current =
      some (target, score)) :
    target ∈ s.memes ∧ target.createdAt < current.createdAt ∧ target.id ≠ file.memeId := by
  obtain ⟨hmem, holder, candidate, hcandidate, hid⟩ := firstMergeTarget_eq_some h
  have hmatch := (List.mem_filter.mp ((List.mem_insertionSort _).mp hcandidate)).2
  rw [decide_eq_true_eq] at hmatch
  exact ⟨hmem, holder, hid ▸ hmatch.2.1⟩

end Specs

section Chains

structure EmbedCompletion where
  memeFileId : Uuid
  similarityMatches : List QdrantSimilarityMatch

def completeEmbed (similarityThreshold : Rat) (s : Content) (call : EmbedCompletion) : Content :=
  match s.files.find? fun file => file.id = call.memeFileId with
  | none => s
  | some file =>
    match s.maybeMergeAfterEmbed similarityThreshold file call.similarityMatches with
    | .ok (_, t) => t
    | .error _ => s

def completeEmbeds (similarityThreshold : Rat) (s : Content) (calls : List EmbedCompletion) :
    Content :=
  calls.foldl (completeEmbed similarityThreshold) s

def MergedInto (logs : List MemeMergeLog) (sourceMemeId targetMemeId : Uuid) : Prop :=
  ∃ log ∈ logs, log.sourceMemeId = sourceMemeId ∧ log.targetMemeId = targetMemeId

/-- What holds after any number of embed completions that wrote `logs`. -/
structure EmbedsCompleted (s t : Content) (logs : List MemeMergeLog) : Prop where
  constraints : t.Constraints
  logged : t.mergeLogs = s.mergeLogs ++ logs
  memes : ∀ meme ∈ t.memes, ∃ old ∈ s.memes, old.id = meme.id ∧ old.createdAt = meme.createdAt
  older : ∀ log ∈ logs, ∃ source ∈ s.memes, ∃ target ∈ s.memes,
    source.id = log.sourceMemeId ∧ target.id = log.targetMemeId ∧
      target.createdAt < source.createdAt
  files : ∀ file ∈ s.files, ∃ memeId, { file with memeId := memeId } ∈ t.files ∧
    Relation.ReflTransGen (MergedInto logs) file.memeId memeId

variable {s t u : Content} {logs : List MemeMergeLog} {similarityThreshold : Rat}

theorem embedsCompleted_refl (hs : s.Constraints) : EmbedsCompleted s s [] where
  constraints := hs
  logged := (List.append_nil _).symm
  memes := fun meme hmeme => ⟨meme, hmeme, rfl, rfl⟩
  older := by
    intro log hlog
    cases hlog
  files := fun file hfile => ⟨file.memeId, hfile, .refl⟩

theorem mergedInto_append {more : List MemeMergeLog} {a b : Uuid} (h : MergedInto logs a b) :
    MergedInto (logs ++ more) a b := by
  obtain ⟨log, hlog, hends⟩ := h
  exact ⟨log, List.mem_append_left _ hlog, hends⟩

variable {source target : CanonicalMeme}

theorem embedsCompleted_merge (h : EmbedsCompleted s t logs)
    {log : MemeMergeLog} (hsource : source ∈ t.memes) (htarget : target ∈ t.memes)
    (holder : target.createdAt < source.createdAt) (hu : u.Constraints)
    (hconserves : MergeConserves source.id target.id t u)
    (hmemes : ∀ meme ∈ u.memes, ∃ old ∈ t.memes, old.id = meme.id ∧ old.createdAt = meme.createdAt)
    (hlogs : u.mergeLogs = t.mergeLogs ++ [log]) (hfrom : log.sourceMemeId = source.id)
    (hto : log.targetMemeId = target.id) : EmbedsCompleted s u (logs ++ [log]) where
  constraints := hu
  logged := by rw [hlogs, h.logged, List.append_assoc]
  memes := by
    intro meme hmeme
    obtain ⟨mid, hmid, hid, hstamp⟩ := hmemes meme hmeme
    obtain ⟨old, hold, hid', hstamp'⟩ := h.memes mid hmid
    exact ⟨old, hold, hid'.trans hid, hstamp'.trans hstamp⟩
  older := by
    intro other hother
    rcases List.mem_append.mp hother with hold | hnew
    · exact h.older other hold
    rw [List.mem_singleton] at hnew
    subst hnew
    obtain ⟨oldSource, hs, hsid, hsstamp⟩ := h.memes source hsource
    obtain ⟨oldTarget, ht, htid, htstamp⟩ := h.memes target htarget
    refine ⟨oldSource, hs, oldTarget, ht, hsid.trans hfrom.symm, htid.trans hto.symm, ?_⟩
    rw [hsstamp, htstamp]
    exact holder
  files := by
    intro file hfile
    obtain ⟨memeId, hkept, hpath⟩ := h.files file hfile
    have hpath' : Relation.ReflTransGen (MergedInto (logs ++ [log])) file.memeId memeId :=
      hpath.lift id fun _ _ => mergedInto_append
    have hmoved : _ ∈ u.files := hconserves.files ▸ List.mem_map_of_mem hkept
    by_cases hmeme : memeId = source.id
    · subst hmeme
      rw [if_pos rfl] at hmoved
      refine ⟨target.id, hmoved, hpath'.tail ⟨log, ?_, hfrom, hto⟩⟩
      exact List.mem_append_right _ List.mem_cons_self
    · rw [if_neg hmeme] at hmoved
      exact ⟨memeId, hmoved, hpath'⟩

variable (similarityThreshold) in
theorem completeEmbed_completed (h : EmbedsCompleted s t logs) (call : EmbedCompletion) :
    ∃ more, EmbedsCompleted s (completeEmbed similarityThreshold t call) (logs ++ more) := by
  have hsame : EmbedsCompleted s t (logs ++ []) := (List.append_nil logs).symm ▸ h
  unfold completeEmbed
  split
  · exact ⟨[], hsame⟩
  next file _ =>
  split
  · next outcome u hmerge =>
    unfold maybeMergeAfterEmbed at hmerge
    split at hmerge
    · cases hmerge
    next current hcurrent =>
    obtain ⟨hcurrentmem, hcurrentid⟩ := meme_eq_some hcurrent
    split at hmerge
    · cases hmerge
      exact ⟨[], hsame⟩
    next target score hselect =>
    obtain ⟨htarget, holder, hother⟩ := selectMergeTarget_eq_some hselect
    have hne : current.id ≠ target.id := hcurrentid.trans_ne (Ne.symm hother)
    obtain ⟨_, v, happly, hv, hconserves, hmemes, log, hlogs, hfrom, hto⟩ :=
      applyMerge_conserves h.constraints htarget hne (some file.id) (some score)
        MERGE_REASON_HIGH_SIMILARITY
    rw [happly] at hmerge
    cases hmerge
    exact ⟨[log], embedsCompleted_merge h hcurrentmem htarget holder hv hconserves hmemes
      hlogs hfrom hto⟩
  · exact ⟨[], hsame⟩

variable (similarityThreshold) in
theorem completeEmbeds_completed (h : EmbedsCompleted s t logs) (calls : List EmbedCompletion) :
    ∃ more, EmbedsCompleted s (completeEmbeds similarityThreshold t calls) (logs ++ more) := by
  induction calls generalizing t logs with
  | nil => exact ⟨[], (List.append_nil logs).symm ▸ h⟩
  | cons call rest ih =>
    obtain ⟨first, hfirst⟩ := completeEmbed_completed similarityThreshold h call
    obtain ⟨more, hmore⟩ := ih hfirst
    exact ⟨first ++ more, List.append_assoc logs first more ▸ hmore⟩

theorem older_of_transGen (hs : s.Constraints)
    (holder : ∀ log ∈ logs, ∃ source ∈ s.memes, ∃ target ∈ s.memes,
      source.id = log.sourceMemeId ∧ target.id = log.targetMemeId ∧
        target.createdAt < source.createdAt)
    {a b : Uuid} (h : Relation.TransGen (MergedInto logs) a b) :
    ∃ source ∈ s.memes, ∃ target ∈ s.memes, source.id = a ∧ target.id = b ∧
      target.createdAt < source.createdAt := by
  induction h with
  | single hedge =>
    obtain ⟨log, hlog, rfl, rfl⟩ := hedge
    exact holder log hlog
  | tail _ hedge ih =>
    obtain ⟨source, hsource, mid, hmid, rfl, rfl, hfirst⟩ := ih
    obtain ⟨log, hlog, hfrom, rfl⟩ := hedge
    obtain ⟨mid', hmid', target, htarget, hid, htargetid, hlast⟩ := holder log hlog
    have hsame : mid' = mid := List.inj_on_of_nodup_map hs.memes_unique hmid' hmid (hid.trans hfrom)
    subst hsame
    exact ⟨source, hsource, target, htarget, rfl, htargetid, Nat.lt_trans hlast hfirst⟩

theorem not_transGen_self (hs : s.Constraints) (h : EmbedsCompleted s t logs) (memeId : Uuid) :
    ¬ Relation.TransGen (MergedInto logs) memeId memeId := by
  intro hcycle
  obtain ⟨source, hsource, target, htarget, rfl, hid, holder⟩ := older_of_transGen hs h.older hcycle
  have hsame : target = source := List.inj_on_of_nodup_map hs.memes_unique htarget hsource hid
  subst hsame
  exact Nat.lt_irrefl _ holder

end Chains

/-- Merges conserve what the two memes own; automatic ones go to a strictly older meme, so that
in any order they form no cycle and lose no file. -/
theorem merges_conserve_ownership {s : Content} (hs : s.Constraints) (similarityThreshold : Rat) :
    (∀ (file : CanonicalFile) (similarityMatches : List QdrantSimilarityMatch)
        (current target : CanonicalMeme) (score : Rat),
      s.meme file.memeId = some current →
      s.selectMergeTarget similarityThreshold file similarityMatches current = some (target, score) →
      target.createdAt < current.createdAt ∧
        ∃ outcome t, s.maybeMergeAfterEmbed similarityThreshold file similarityMatches =
            .ok (outcome, t) ∧ MergeConserves current.id target.id s t) ∧
    (∀ source ∈ s.memes, ∀ target ∈ s.memes, target.id ≠ source.id →
      ∃ outcome t, s.mergeMeme source.id target.id (toString source.id) = .ok (outcome, t) ∧
        MergeConserves source.id target.id s t) ∧
    ∀ calls : List EmbedCompletion, ∃ logs,
      (completeEmbeds similarityThreshold s calls).mergeLogs = s.mergeLogs ++ logs ∧
      (∀ memeId, ¬ Relation.TransGen (MergedInto logs) memeId memeId) ∧
      ∀ file ∈ s.files, ∃ memeId,
        { file with memeId := memeId } ∈ (completeEmbeds similarityThreshold s calls).files ∧
        Relation.ReflTransGen (MergedInto logs) file.memeId memeId ∧
        ∃ meme ∈ (completeEmbeds similarityThreshold s calls).memes, meme.id = memeId := by
  refine ⟨?_, ?_, ?_⟩
  · intro file similarityMatches current target score hcurrent hselect
    obtain ⟨hcurrentmem, hcurrentid⟩ := meme_eq_some hcurrent
    obtain ⟨htarget, holder, hother⟩ := selectMergeTarget_eq_some hselect
    have hne : current.id ≠ target.id := hcurrentid.trans_ne (Ne.symm hother)
    obtain ⟨outcome, t, happly, -, hconserves, -⟩ := applyMerge_conserves hs htarget hne
      (some file.id) (some score) MERGE_REASON_HIGH_SIMILARITY
    refine ⟨holder, outcome, t, ?_, hconserves⟩
    simp only [maybeMergeAfterEmbed, hcurrent, hselect, happly]
  · intro source hsource target htarget hne
    have hfind : ∀ meme ∈ s.memes, s.meme meme.id = some meme := fun meme hmeme =>
      find_of_mem hs.memes_unique hmeme
    obtain ⟨outcome, t, happly, -, hconserves, -⟩ := applyMerge_conserves hs htarget
      (Ne.symm hne) (some source.primaryFileId) none MERGE_REASON_ADMIN
    refine ⟨outcome, t, ?_, hconserves⟩
    simp only [mergeMeme, hfind source hsource, hfind target htarget, ne_eq, not_true, if_false,
      if_neg hne, happly]
  intro calls
  obtain ⟨logs, hlogs⟩ := completeEmbeds_completed similarityThreshold
    (embedsCompleted_refl hs) calls
  rw [List.nil_append] at hlogs
  refine ⟨logs, hlogs.logged, not_transGen_self hs hlogs, ?_⟩
  intro file hfile
  obtain ⟨memeId, hkept, hpath⟩ := hlogs.files file hfile
  obtain ⟨meme, hmeme, hid⟩ := hlogs.constraints.files_meme _ hkept
  exact ⟨memeId, hkept, hpath, meme, hmeme, hid⟩

def nearDuplicates : Content where
  memes := [{ id := 1, primaryFileId := 11, createdAt := 0 }, { id := 2, primaryFileId := 12, createdAt := 5 }]
  files := [{ id := 11, memeId := 1, s3OriginalKey := "a", qualityScore := 3 },
    { id := 12, memeId := 2, s3OriginalKey := "b", qualityScore := 7 }]
  collectionMemes := [{ collectionId := 4, memeId := 1 }, { collectionId := 4, memeId := 2 }]
  pinnedMemes := [{ userId := 6, memeId := 2, position := 1 }]

theorem nearDuplicates_constraints : nearDuplicates.Constraints := by
  constructor <;> decide

theorem merges_conserve_ownership_nearDuplicates :
    nearDuplicates.Constraints ∧ ∃ outcome t,
      nearDuplicates.mergeMeme 2 1 (toString 2) = .ok (outcome, t) ∧
        MergeConserves 2 1 nearDuplicates t :=
  ⟨nearDuplicates_constraints,
    (merges_conserve_ownership nearDuplicates_constraints 0).2.1
      { id := 2, primaryFileId := 12, createdAt := 5 } (by decide)
      { id := 1, primaryFileId := 11, createdAt := 0 } (by decide) (by decide)⟩

end Content

end MemeExpert
