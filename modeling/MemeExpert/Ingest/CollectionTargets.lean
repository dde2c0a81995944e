import MemeExpert.Services.CollectionService

/-! A private upload is saved into the collection its uploader names, in the transaction
that materializes its meme or attaches it to an existing one. -/

namespace MemeExpert.Ingest

open Services

variable (s : Library)

def validateTargetCollectionWrite (uploaderUserId targetCollectionId : Option Uuid) :
    Except ServiceError (Option Collection) :=
  match targetCollectionId, uploaderUserId with
  | none, _ => .ok none
  | some _, none =>
    .error ⟨.pipelinePayloadValidation,
      "uploader_user_id is required when target_collection_id is supplied."⟩
  | some collectionId, some userId =>
    match s.user userId, s.collection collectionId with
    | none, _ => .error ⟨.pipelinePayloadValidation, s!"User {userId} does not exist."⟩
    | some _, none =>
      .error ⟨.pipelinePayloadValidation, s!"Collection {collectionId} does not exist."⟩
    | some user, some collection =>
      if user.accountType = .guest ∧ collection.kind ≠ .favorites then
        .error ⟨.pipelinePayloadValidation,
          "Guest accounts can only use Favorites as the active save collection."⟩
      else if userCanWriteCollection s userId collection then .ok (some collection)
      else
        .error ⟨.pipelinePayloadValidation,
          s!"User {userId} cannot write to collection {collectionId}."⟩

def saveMemeToTargetCollection (uploaderUserId targetCollectionId : Option Uuid) (memeId : Uuid)
    (now : Time) : Except ServiceError Library := do
  let target ← validateTargetCollectionWrite s uploaderUserId targetCollectionId
  match target with
  | none => pure s
  | some collection =>
    pure (insertCollectionMeme s
      { collectionId := collection.id, memeId := memeId, addedByUserId := uploaderUserId
        addedAt := now }).1

def refreshEffectiveVisibility (memeId : Uuid) (isPublic : Bool) : Library :=
  { s with
    memes := s.memes.map fun meme =>
      if meme.id = memeId then { meme with isPublic := isPublic } else meme }

def materializeMeme (memeId : Uuid) (isPublic : Bool) (uploaderUserId targetCollectionId : Option Uuid)
    (now : Time) : Except ServiceError Library := do
  let created :=
    { s with memes := s.memes ++ [{ id := memeId, isPublic := isPublic, createdAt := now }] }
  let t ← saveMemeToTargetCollection created uploaderUserId targetCollectionId memeId now
  t.commit "Failed to materialize the ingest request."

def attachShaDuplicate (memeId : Uuid) (isPublic : Bool)
    (uploaderUserId targetCollectionId : Option Uuid) (now : Time) : Except ServiceError Library := do
  match s.meme memeId with
  | none => throw ⟨.pipelinePayloadValidation, s!"Matched meme {memeId} does not exist."⟩
  | some meme =>
    let t ← saveMemeToTargetCollection s uploaderUserId targetCollectionId meme.id now
    (refreshEffectiveVisibility t meme.id isPublic).commit
      "Failed to persist SHA256 duplicate ingest request."

section Specs

open Results

variable {s t : Library}

variable {targetCollectionId uploaderUserId : Option Uuid}

theorem validateTargetCollectionWrite_ok {target : Option Collection}
    (h : validateTargetCollectionWrite s uploaderUserId targetCollectionId = .ok target) :
    targetCollectionId.bind s.collection = target := by
  unfold validateTargetCollectionWrite at h
  split at h
  · cases h
    rfl
  · cases h
  split at h
  · cases h
  · cases h
  next collection _ hcollection =>
  split at h
  · cases h
  split at h
  · cases h
    exact hcollection
  · cases h

def withTargetSave (s : Library) (uploaderUserId : Option Uuid) (target : Option Collection)
    (memeId : Uuid) (now : Time) : Library :=
  match target with
  | none => s
  | some collection =>
    (insertCollectionMeme s
      { collectionId := collection.id, memeId := memeId, addedByUserId := uploaderUserId
        addedAt := now }).1

variable {memeId : Uuid} {now : Time}

theorem saveMemeToTargetCollection_ok
    (h : saveMemeToTargetCollection s uploaderUserId targetCollectionId memeId now = .ok t) :
    t = withTargetSave s uploaderUserId (targetCollectionId.bind s.collection) memeId now := by
  simp only [saveMemeToTargetCollection, bind_eq_ok] at h
  obtain ⟨target, htarget, h⟩ := h
  rw [validateTargetCollectionWrite_ok htarget]
  cases target with
  | none =>
    cases h
    rfl
  | some collection =>
    cases h
    rfl

theorem materializeMeme_ok {isPublic : Bool}
    (h : materializeMeme s memeId isPublic uploaderUserId targetCollectionId now = .ok t) :
    t.Constraints ∧ t = withTargetSave
      { s with memes := s.memes ++ [{ id := memeId, isPublic := isPublic, createdAt := now }] }
      uploaderUserId (targetCollectionId.bind s.collection) memeId now := by
  simp only [materializeMeme, bind_eq_ok, Library.commit_eq_ok] at h
  obtain ⟨saved, hsaved, ht, rfl⟩ := h
  exact ⟨ht, saveMemeToTargetCollection_ok hsaved⟩

theorem attachShaDuplicate_ok {isPublic : Bool}
    (h : attachShaDuplicate s memeId isPublic uploaderUserId targetCollectionId now = .ok t) :
    (∃ meme ∈ s.memes, meme.id = memeId) ∧ t.Constraints ∧
      t = refreshEffectiveVisibility
        (withTargetSave s uploaderUserId (targetCollectionId.bind s.collection) memeId now) memeId
        isPublic := by
  unfold attachShaDuplicate at h
  split at h
  · exact (throw_ne_ok h).elim
  next meme hmeme =>
  obtain ⟨hmem, rfl⟩ := meme_eq_some hmeme
  simp only [bind_eq_ok, Library.commit_eq_ok] at h
  obtain ⟨saved, hsaved, ht, rfl⟩ := h
  exact ⟨⟨meme, hmem, rfl⟩, ht, by rw [saveMemeToTargetCollection_ok hsaved]⟩

end Specs

end MemeExpert.Ingest
