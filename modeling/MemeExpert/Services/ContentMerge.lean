import MemeExpert.Ingest.CollectionTargets
import MemeExpert.Lib.Repointing

/-! Three paths fold one meme into another: the near-duplicate merge after the embed stage,
the merge an administrator asks for and the reconciliation of files with one hash. -/

namespace MemeExpert.Services

open Ingest Repointing

section Transfers

def saveColumns : Columns CollectionMeme Uuid Uuid where
  owner := CollectionMeme.collectionId
  ref := CollectionMeme.memeId
  withRef memeId row := { row with memeId := memeId }
  owner_withRef _ _ := rfl
  ref_withRef _ _ := rfl

def pinColumns : Columns PinnedMeme Uuid Uuid where
  owner := PinnedMeme.userId
  ref := PinnedMeme.memeId
  withRef memeId pin := { pin with memeId := memeId }
  owner_withRef _ _ := rfl
  ref_withRef _ _ := rfl

variable (s : Library) (sourceMemeId targetMemeId : Uuid)

def transferCollectionMemberships : Library :=
  { s with collectionMemes := repoint saveColumns sourceMemeId targetMemeId s.collectionMemes }

/-- Pins of the source move to the target and keep their position; a user who pinned both
loses the pin of the source. -/
def transferPins : Library :=
  { s with pinnedMemes := repoint pinColumns sourceMemeId targetMemeId s.pinnedMemes }

def accumulateLikeCount : Library :=
  match s.meme sourceMemeId with
  | some source => updateLikeCount s targetMemeId fun likeCount => likeCount + source.likeCount
  | none => s

def transferMemeDependencies : Library :=
  transferPins (transferCollectionMemberships s sourceMemeId targetMemeId) sourceMemeId targetMemeId

def transferObsolete (obsolete : List Uuid) (canonicalMemeId : Uuid) : Library :=
  obsolete.foldl (fun t source => transferMemeDependencies t source canonicalMemeId) s

/-- `isPublic` is the visibility the target is left with. -/
def applyMerge (isPublic : Bool) : Library :=
  let moved := transferMemeDependencies s sourceMemeId targetMemeId
  let counted := accumulateLikeCount moved sourceMemeId targetMemeId
  let visible := refreshEffectiveVisibility counted targetMemeId isPublic
  deleteMemes visible fun memeId => memeId = sourceMemeId

def mergeMeme (memeId targetMemeId : Uuid) (confirmation : String) (isPublic : Bool) :
    Except ServiceError Library :=
  match s.meme memeId with
  | none => .error ⟨.adminNotFound, s!"Meme {memeId} does not exist."⟩
  | some source =>
    if confirmation ≠ toString memeId then
      .error ⟨.adminConflict, "Meme merge confirmation must exactly match the source meme id."⟩
    else if targetMemeId = memeId then
      .error ⟨.adminConflict, "A meme cannot be merged into itself."⟩
    else
      match s.meme targetMemeId with
      | none => .error ⟨.adminNotFound, s!"Target meme {targetMemeId} does not exist."⟩
      | some target => (applyMerge s source.id target.id isPublic).commit "Failed to merge the meme."

def autoMergeAllowed (uploader : Uuid → Option Uuid) (source target : Meme) : Bool :=
  if source.isPublic || target.isPublic then source.isPublic && target.isPublic
  else (uploader source.id).isSome && uploader source.id = uploader target.id

def selectMergeTarget (uploader : Uuid → Option Uuid) (current : Meme) : List Uuid → Option Meme
  | [] => none
  | candidate :: rest =>
    match s.meme candidate with
    | none => selectMergeTarget uploader current rest
    | some target =>
      if target.createdAt ≥ current.createdAt then selectMergeTarget uploader current rest
      else if autoMergeAllowed uploader current target then some target
      else selectMergeTarget uploader current rest

/-- `similar` are the memes above the similarity threshold, most similar first. -/
def maybeMergeAfterEmbed (memeId : Uuid) (similar : List Uuid) (uploader : Uuid → Option Uuid)
    (isPublic : Bool) : Except ServiceError Library :=
  match s.meme memeId with
  | none =>
    .error ⟨.collectionService,
      s!"Meme {memeId} disappeared before the embed merge transaction ran."⟩
  | some current =>
    match selectMergeTarget s uploader current (similar.filter fun id => id ≠ memeId) with
    | none => .ok s
    | some target => (applyMerge s current.id target.id isPublic).commit "Failed to merge the meme."

/-- `count(distinct collections.owner_id)` over the Favorites that hold the meme. -/
def recomputeLikeCount (memeId : Uuid) : Library :=
  let owners := (s.collections.filter fun collection =>
    collection.kind = .favorites && s.saved collection.id memeId).map Collection.ownerId
  updateLikeCount s memeId fun _ => owners.dedup.length

def reconciledMemes (files : List Uuid) : List Meme :=
  (s.memes.filter fun meme => meme.id ∈ files).insertionSort fun a b =>
    a.createdAt < b.createdAt ∨ (a.createdAt = b.createdAt ∧ a.id ≤ b.id)

/-- `files` has the meme of each file of the hash. -/
def reconcileSha (sha256Hex : String) (files : List Uuid) (isPublic : Bool) :
    Except ServiceError Library :=
  match reconciledMemes s files with
  | [] => .error ⟨.collectionService, s!"SHA group {sha256Hex} no longer exists."⟩
  | canonical :: obsolete =>
    if files.length ≤ 1 then .ok s
    else
      let moved := transferObsolete s (obsolete.map Meme.id) canonical.id
      let deleted := deleteMemes moved fun memeId => memeId ∈ obsolete.map Meme.id
      let counted := recomputeLikeCount deleted canonical.id
      (refreshEffectiveVisibility counted canonical.id isPublic).commit
        "Failed to reconcile the hash."

def deleteMeme (memeId : Uuid) (confirmation : String) : Except ServiceError Library :=
  match s.meme memeId with
  | none => .error ⟨.adminNotFound, s!"Meme {memeId} does not exist."⟩
  | some meme =>
    if confirmation ≠ toString memeId then
      .error ⟨.adminConflict, "Meme deletion confirmation must exactly match the meme id."⟩
    else (deleteMemes s fun id => id = meme.id).commit "Failed to delete the meme."

end Transfers

section Specs

open Results

variable {s t : Library}

theorem transferObsolete_eq (s : Library) (obsolete : List Uuid) (canonicalMemeId : Uuid) :
    transferObsolete s obsolete canonicalMemeId =
      { s with
        collectionMemes := repointAll saveColumns canonicalMemeId obsolete s.collectionMemes
        pinnedMemes := repointAll pinColumns canonicalMemeId obsolete s.pinnedMemes } := by
  induction obsolete generalizing s with
  | nil => rfl
  | cons source rest ih =>
    change transferObsolete (transferMemeDependencies s source canonicalMemeId) rest
      canonicalMemeId = _
    rw [ih]
    rfl

theorem mergeMeme_ok {memeId targetMemeId : Uuid} {confirmation : String} {isPublic : Bool}
    (h : mergeMeme s memeId targetMemeId confirmation isPublic = .ok t) :
    t.Constraints ∧ targetMemeId ≠ memeId ∧ (∃ source ∈ s.memes, source.id = memeId) ∧
      (∃ target ∈ s.memes, target.id = targetMemeId) ∧
      t = applyMerge s memeId targetMemeId isPublic := by
  unfold mergeMeme at h
  split at h
  · cases h
  next source hsource =>
  obtain ⟨hsourcemem, rfl⟩ := meme_eq_some hsource
  split at h
  · cases h
  split at h
  · cases h
  next hne =>
  split at h
  · cases h
  next target htarget =>
  obtain ⟨htargetmem, rfl⟩ := meme_eq_some htarget
  rw [Library.commit_eq_ok] at h
  obtain ⟨ht, rfl⟩ := h
  exact ⟨ht, hne, ⟨source, hsourcemem, rfl⟩, ⟨target, htargetmem, rfl⟩, rfl⟩

theorem selectMergeTarget_mem {uploader : Uuid → Option Uuid} {current target : Meme}
    {candidates : List Uuid} (h : selectMergeTarget s uploader current candidates = some target) :
    target ∈ s.memes ∧ target.id ∈ candidates := by
  induction candidates with
  | nil => cases h
  | cons candidate rest ih =>
    have hrest : selectMergeTarget s uploader current rest = some target →
        target ∈ s.memes ∧ target.id ∈ candidate :: rest := by
      intro hsome
      exact ⟨(ih hsome).1, List.mem_cons_of_mem _ (ih hsome).2⟩
    unfold selectMergeTarget at h
    split at h
    · exact hrest h
    next found hfound =>
    split at h
    · exact hrest h
    split at h
    · cases h
      obtain ⟨hmem, hid⟩ := meme_eq_some hfound
      exact ⟨hmem, hid ▸ List.mem_cons_self⟩
    · exact hrest h

theorem maybeMergeAfterEmbed_ok {memeId : Uuid} {similar : List Uuid}
    {uploader : Uuid → Option Uuid} {isPublic : Bool}
    (h : maybeMergeAfterEmbed s memeId similar uploader isPublic = .ok t) :
    ∃ current, s.meme memeId = some current ∧
      ((selectMergeTarget s uploader current (similar.filter fun id => id ≠ memeId) = none ∧ t = s) ∨
        ∃ target, selectMergeTarget s uploader current (similar.filter fun id => id ≠ memeId) =
            some target ∧
          t.Constraints ∧ target.id ≠ memeId ∧ target ∈ s.memes ∧
          t = applyMerge s memeId target.id isPublic) := by
  unfold maybeMergeAfterEmbed at h
  split at h
  · cases h
  next current hcurrent =>
  refine ⟨current, hcurrent, ?_⟩
  obtain ⟨-, hid⟩ := meme_eq_some hcurrent
  split at h
  · next hnone =>
    cases h
    exact .inl ⟨hnone, rfl⟩
  next target htarget =>
  rw [Library.commit_eq_ok] at h
  obtain ⟨ht, rfl⟩ := h
  obtain ⟨hmem, hcandidate⟩ := selectMergeTarget_mem htarget
  have hne : target.id ≠ memeId := by simpa using (List.mem_filter.mp hcandidate).2
  exact .inr ⟨target, htarget, ht, hne, hmem, by rw [hid]⟩

theorem nodup_reconciledMemes (hs : (s.memes.map Meme.id).Nodup) (files : List Uuid) :
    ((reconciledMemes s files).map Meme.id).Nodup := by
  have hperm := List.perm_insertionSort
    (fun a b : Meme => a.createdAt < b.createdAt ∨ (a.createdAt = b.createdAt ∧ a.id ≤ b.id))
    (s.memes.filter fun meme => meme.id ∈ files)
  rw [reconciledMemes, (hperm.map Meme.id).nodup_iff]
  exact hs.sublist (List.filter_sublist.map _)

theorem reconcileSha_ok {sha256Hex : String} {files : List Uuid} {isPublic : Bool}
    (h : reconcileSha s sha256Hex files isPublic = .ok t) :
    ∃ canonical obsolete, reconciledMemes s files = canonical :: obsolete ∧
      ((files.length ≤ 1 ∧ t = s) ∨
        (t.Constraints ∧ t = refreshEffectiveVisibility
          (recomputeLikeCount
            (deleteMemes (transferObsolete s (obsolete.map Meme.id) canonical.id)
              fun memeId => memeId ∈ obsolete.map Meme.id)
            canonical.id)
          canonical.id isPublic)) := by
  unfold reconcileSha at h
  split at h
  · cases h
  next canonical obsolete hgroup =>
  refine ⟨canonical, obsolete, hgroup, ?_⟩
  split at h
  · next hsingle =>
    cases h
    exact .inl ⟨hsingle, rfl⟩
  · rw [Library.commit_eq_ok] at h
    exact .inr h

theorem deleteMeme_ok {memeId : Uuid} {confirmation : String}
    (h : deleteMeme s memeId confirmation = .ok t) :
    t.Constraints ∧ t = deleteMemes s fun id => id = memeId := by
  unfold deleteMeme at h
  split at h
  · cases h
  next meme hmeme =>
  obtain ⟨-, rfl⟩ := meme_eq_some hmeme
  split at h
  · cases h
  · exact Library.commit_eq_ok.mp h

end Specs

end MemeExpert.Services
