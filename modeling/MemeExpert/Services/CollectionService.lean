import Mathlib.Data.Finset.Card
import MemeExpert.Lib.Results
import MemeExpert.Models.Library

/-! The operations of the collection service that touch saved memes or pins. Saving into a
Favorites collection is a like and is counted on the meme. -/

namespace MemeExpert.Services

def maxPinnedMemes : Nat := 20

section Reads

variable (s : Library)

def getUser (userId : Uuid) : Except ServiceError User :=
  match s.user userId with
  | some user => .ok user
  | none => .error ⟨.userNotFound, s!"User {userId} does not exist."⟩

def getCollection (collectionId : Uuid) : Except ServiceError Collection :=
  match s.collection collectionId with
  | some collection => .ok collection
  | none => .error ⟨.collectionNotFound, s!"Collection {collectionId} does not exist."⟩

def userCanWriteCollection (userId : Uuid) (collection : Collection) : Bool :=
  collection.ownerId = userId ||
    s.members.any fun member => member.collectionId = collection.id && member.userId = userId &&
      (member.role = .owner || member.role = .editor)

def userCanReadCollection (userId : Uuid) (collection : Collection) : Bool :=
  collection.ownerId = userId ||
    s.members.any fun member => member.collectionId = collection.id && member.userId = userId

def getCollectionForRead (collectionId userId : Uuid) :
    Except ServiceError (User × Collection) := do
  let user ← getUser s userId
  let collection ← getCollection s collectionId
  if collection.kind ≠ .favorites ∧ user.accountType = .guest then
    throw ⟨.guestCollectionAccess, "A full account is required for custom collections."⟩
  if userCanReadCollection s user.id collection then pure (user, collection)
  else throw ⟨.collectionNotFound, s!"Collection {collectionId} does not exist."⟩

def ensureCanWriteCollection (user : User) (collection : Collection) : Except ServiceError Unit :=
  let userId := user.id
  let collectionId := collection.id
  if user.accountType = .guest ∧ collection.kind ≠ .favorites then
    .error ⟨.guestCollectionAccess,
      "Guest accounts can only use Favorites as the active save collection."⟩
  else if userCanWriteCollection s user.id collection then .ok ()
  else .error ⟨.collectionWriteAccess, s!"User {userId} cannot write to collection {collectionId}."⟩

def ensureOwnerCanManageCustomCollection (user : User) (collection : Collection) :
    Except ServiceError Unit :=
  let collectionId := collection.id
  if collection.kind ≠ .custom then
    .error ⟨.collectionWriteAccess, "Favorites collection metadata cannot be changed."⟩
  else if collection.ownerId ≠ user.id then
    .error ⟨.collectionWriteAccess, s!"Only the owner can manage collection {collectionId}."⟩
  else .ok ()

def authorizes (viewerUserId collectionId : Uuid) : Bool :=
  s.collections.any fun collection => collection.id = collectionId &&
    userCanReadCollection s viewerUserId collection

def getVisibleMeme (memeId viewerUserId : Uuid) : Except ServiceError Meme :=
  let authorized := s.collectionMemes.any fun row =>
    row.memeId = memeId && authorizes s viewerUserId row.collectionId
  match s.meme memeId with
  | some meme =>
    if meme.isPublic || authorized then .ok meme
    else .error ⟨.memeNotFound, s!"Meme {memeId} does not exist."⟩
  | none => .error ⟨.memeNotFound, s!"Meme {memeId} does not exist."⟩

def getLockedFullUser (userId : Uuid) : Except ServiceError User := do
  let user ← getUser s userId
  if user.accountType = .full then pure user
  else throw ⟨.guestCollectionAccess, "A full account is required for pins."⟩

/-- `INSERT ... ON CONFLICT DO NOTHING`, and whether the row was inserted. -/
def insertCollectionMeme (row : CollectionMeme) : Library × Bool :=
  if s.saved row.collectionId row.memeId then (s, false)
  else ({ s with collectionMemes := s.collectionMemes ++ [row] }, true)

def deleteCollectionMeme (collectionId memeId : Uuid) : Library :=
  { s with
    collectionMemes := s.collectionMemes.filter fun row =>
      ¬ (row.collectionId = collectionId ∧ row.memeId = memeId) }

def updateLikeCount (memeId : Uuid) (count : Nat → Nat) : Library :=
  { s with
    memes := s.memes.map fun meme =>
      if meme.id = memeId then { meme with likeCount := count meme.likeCount } else meme }

def incrementLikeCount (memeId : Uuid) : Library :=
  updateLikeCount s memeId fun likeCount => likeCount + 1

/-- `greatest(like_count - 1, 0)`. -/
def decrementLikeCount (memeId : Uuid) : Library :=
  updateLikeCount s memeId fun likeCount => likeCount - 1

def deleteMemes (gone : Uuid → Bool) : Library :=
  { s with
    memes := s.memes.filter fun meme => ¬ gone meme.id
    collectionMemes := s.collectionMemes.filter fun row => ¬ gone row.memeId
    pinnedMemes := s.pinnedMemes.filter fun pin => ¬ gone pin.memeId }

def deleteCollection (collectionId : Uuid) : Library :=
  { s with
    users := s.users.map fun row =>
      if row.activeSaveCollectionId = some collectionId then
        { row with activeSaveCollectionId := none }
      else row
    collections := s.collections.filter fun collection => ¬ collection.id = collectionId
    members := s.members.filter fun member => ¬ member.collectionId = collectionId
    collectionMemes := s.collectionMemes.filter fun row => ¬ row.collectionId = collectionId }

def isOrphanPrivate (memeId : Uuid) : Bool :=
  s.memes.any (fun meme => meme.id = memeId && !meme.isPublic) &&
    !s.collectionMemes.any fun row => row.memeId = memeId

def deleteOrphanPrivateMemeIfUnreferenced (memeId : Uuid) : Library :=
  deleteMemes s fun id => id = memeId && isOrphanPrivate s memeId

def orphanedByCollectionDelete (collectionId memeId : Uuid) : Bool :=
  s.memes.any (fun meme => meme.id = memeId && !meme.isPublic) && s.saved collectionId memeId &&
    !s.collectionMemes.any fun row => row.memeId = memeId && row.collectionId ≠ collectionId

def ensureFavoritesCollection (userId newId : Uuid) : Except ServiceError (Library × Collection) := do
  let user ← getUser s userId
  match s.favoritesOf userId with
  | some favorites => pure (s, favorites)
  | none =>
    let favorites : Collection := { id := newId, ownerId := user.id, kind := .favorites }
    let t ← Library.commit
      { s with
        collections := s.collections ++ [favorites]
        members := s.members ++ [{ collectionId := newId, userId := user.id, role := .owner }]
        users := s.users.map fun row =>
          if row.id = user.id ∧ row.activeSaveCollectionId = none then
            { row with activeSaveCollectionId := some newId }
          else row }
      "Failed to bootstrap the Favorites collection."
    pure (t, favorites)

def createCustomCollection (ownerUserId newId : Uuid) : Except ServiceError Library := do
  let owner ← getUser s ownerUserId
  if owner.accountType = .guest then
    throw ⟨.guestCollectionAccess, "Guest accounts cannot create custom collections."⟩
  Library.commit
    { s with
      collections := s.collections ++ [{ id := newId, ownerId := owner.id, kind := .custom }]
      members := s.members ++ [{ collectionId := newId, userId := owner.id, role := .owner }] }
    "Failed to persist the custom collection."

def ensureMember (collectionId userId : Uuid) (role : CollectionMembershipRole) :
    Except ServiceError Library := do
  let collection ← getCollection s collectionId
  let user ← getUser s userId
  if collection.ownerId ≠ user.id ∧ role = .owner then
    throw ⟨.invalidCollectionMembership,
      "Only the collection owner can hold the owner membership role."⟩
  let resolvedRole := if collection.ownerId = user.id then .owner else role
  let others := s.members.filter fun member =>
    ¬ (member.collectionId = collection.id ∧ member.userId = user.id)
  Library.commit
    { s with
      members := others ++
        [{ collectionId := collection.id, userId := user.id, role := resolvedRole }] }
    "Failed to persist the collection membership."

def memberOf (collectionId userId : Uuid) : Option CollectionMember :=
  s.members.find? fun member => member.collectionId = collectionId ∧ member.userId = userId

def updateMemberRole (collectionId actingUserId memberUserId : Uuid)
    (role : CollectionMembershipRole) : Except ServiceError Library := do
  let (actor, collection) ← getCollectionForRead s collectionId actingUserId
  ensureOwnerCanManageCustomCollection actor collection
  if role = .owner then
    throw ⟨.invalidCollectionMembership,
      "Collection ownership cannot be transferred through member roles."⟩
  if collection.ownerId = memberUserId then
    throw ⟨.invalidCollectionMembership, "The collection owner role cannot be changed."⟩
  match memberOf s collection.id memberUserId with
  | none => throw ⟨.invalidCollectionMembership, "Collection membership does not exist."⟩
  | some membership =>
    if membership.role = .owner then
      throw ⟨.invalidCollectionMembership, "The collection owner role cannot be changed."⟩
    Library.commit
      { s with
        members := s.members.map fun member =>
          if member.collectionId = collection.id ∧ member.userId = memberUserId then
            { member with role := role }
          else member }
      "Failed to update the collection membership."

def removeMember (collectionId actingUserId memberUserId : Uuid) :
    Except ServiceError (Library × Bool) := do
  let (actor, collection) ← getCollectionForRead s collectionId actingUserId
  ensureOwnerCanManageCustomCollection actor collection
  if collection.ownerId = memberUserId then
    throw ⟨.invalidCollectionMembership, "The collection owner cannot be removed."⟩
  match memberOf s collection.id memberUserId with
  | none => pure (s, false)
  | some membership =>
    if membership.role = .owner then
      throw ⟨.invalidCollectionMembership, "The collection owner cannot be removed."⟩
    let t ← Library.commit
      { s with
        users := s.users.map fun row =>
          if row.id = memberUserId ∧ row.activeSaveCollectionId = some collection.id then
            { row with activeSaveCollectionId := none }
          else row
        members := s.members.filter fun member =>
          ¬ (member.collectionId = collection.id ∧ member.userId = memberUserId) }
      "Failed to remove the collection membership."
    pure (t, true)

def updateActiveSaveCollection (userId collectionId : Uuid) : Except ServiceError Library := do
  let user ← getUser s userId
  let collection ← getCollection s collectionId
  ensureCanWriteCollection s user collection
  Library.commit
    { s with
      users := s.users.map fun row =>
        if row.id = user.id then { row with activeSaveCollectionId := some collection.id } else row }
    "Failed to update the active save collection."

def insertAndCount (row : CollectionMeme) (kind : CollectionKind) : Library × Bool :=
  let (saved, inserted) := insertCollectionMeme s row
  (if inserted ∧ kind = .favorites then incrementLikeCount saved row.memeId else saved, inserted)

def removeAndCount (collection : Collection) (memeId : Uuid) : Library :=
  let removed := deleteCollectionMeme s collection.id memeId
  let counted := if collection.kind = .favorites then decrementLikeCount removed memeId else removed
  deleteOrphanPrivateMemeIfUnreferenced counted memeId

def saveMeme (user : User) (collection : Collection) (memeId : Uuid) (now : Time)
    (failure : String) : Except ServiceError (Library × Bool) := do
  let meme ← getVisibleMeme s memeId user.id
  let (counted, inserted) := insertAndCount s
    { collectionId := collection.id, memeId := meme.id, addedByUserId := some user.id
      addedAt := now } collection.kind
  let t ← counted.commit failure
  pure (t, inserted)

def saveMemeToCollection (collectionId userId memeId : Uuid) (now : Time) :
    Except ServiceError (Library × Bool) := do
  let (user, collection) ← getCollectionForRead s collectionId userId
  ensureCanWriteCollection s user collection
  saveMeme s user collection memeId now "Failed to save the meme to the collection."

def removeMeme (collection : Collection) (memeId : Uuid) (failure : String) :
    Except ServiceError (Library × Bool) := do
  if s.saved collection.id memeId then
    let t ← (removeAndCount s collection memeId).commit failure
    pure (t, true)
  else pure (s, false)

def removeMemeFromCollection (collectionId userId memeId : Uuid) :
    Except ServiceError (Library × Bool) := do
  let (user, collection) ← getCollectionForRead s collectionId userId
  ensureCanWriteCollection s user collection
  removeMeme s collection memeId "Failed to remove the meme from the collection."

def favoriteMeme (userId memeId newId : Uuid) (now : Time) :
    Except ServiceError (Library × Bool) := do
  let meme ← getVisibleMeme s memeId userId
  let (ensured, favorites) ← ensureFavoritesCollection s userId newId
  let (counted, inserted) := insertAndCount ensured
    { collectionId := favorites.id, memeId := meme.id, addedByUserId := some favorites.ownerId
      addedAt := now } .favorites
  let t ← counted.commit "Failed to favorite the meme."
  pure (t, inserted)

def unfavoriteMeme (userId memeId : Uuid) : Except ServiceError (Library × Bool) :=
  match s.favoritesOf userId with
  | none => .ok (s, false)
  | some favorites => removeMeme s favorites memeId "Failed to unfavorite the meme."

def getActiveCollectionForWrite (userId newId : Uuid) :
    Except ServiceError (Library × User × Collection) := do
  let user ← getUser s userId
  match user.activeSaveCollectionId with
  | none =>
    let (ensured, collection) ← ensureFavoritesCollection s user.id newId
    ensureCanWriteCollection ensured user collection
    pure (ensured, user, collection)
  | some collectionId =>
    let collection ← getCollection s collectionId
    ensureCanWriteCollection s user collection
    pure (s, user, collection)

def saveMemeToActiveCollection (userId memeId newId : Uuid) (now : Time) :
    Except ServiceError (Library × Bool) := do
  let (ensured, user, collection) ← getActiveCollectionForWrite s userId newId
  saveMeme ensured user collection memeId now "Failed to save the meme to the active collection."

def removeMemeFromActiveCollection (userId memeId : Uuid) :
    Except ServiceError (Library × Bool) := do
  let user ← getUser s userId
  match user.activeSaveCollectionId with
  | none => pure (s, false)
  | some collectionId =>
    let collection ← getCollection s collectionId
    ensureCanWriteCollection s user collection
    removeMeme s collection memeId "Failed to remove the meme from the active collection."

def deleteCustomCollection (collectionId userId : Uuid) : Except ServiceError Library := do
  let (user, collection) ← getCollectionForRead s collectionId userId
  ensureOwnerCanManageCustomCollection user collection
  let orphaned := deleteMemes s fun memeId => orphanedByCollectionDelete s collection.id memeId
  let cleared :=
    { orphaned with
      users := orphaned.users.map fun row =>
        if row.activeSaveCollectionId = some collection.id then
          { row with activeSaveCollectionId := none }
        else row }
  (deleteCollection cleared collection.id).commit "Failed to delete the collection."

/-- The pins of one user `ORDER BY position`. -/
def existingPins (userId : Uuid) : List PinnedMeme :=
  (s.pinsOf userId).insertionSort fun a b => a.position ≤ b.position

/-- `enumerate(pins, start=1)`. -/
def numberPins (pins : List PinnedMeme) : List PinnedMeme :=
  (pins.zipIdx 1).map fun (pin, index) => { pin with position := index }

def replacePins (userId : Uuid) (pins : List PinnedMeme) : Library :=
  { s with pinnedMemes := (s.pinnedMemes.filter fun pin => ¬ pin.userId = userId) ++ pins }

def pinMeme (userId memeId : Uuid) (now : Time) : Except ServiceError (Library × Bool) := do
  let user ← getLockedFullUser s userId
  let meme ← getVisibleMeme s memeId user.id
  if s.pinned user.id meme.id then pure (s, false)
  else
    let pinCount := (s.pinsOf user.id).length
    if pinCount ≥ maxPinnedMemes then
      throw ⟨.pinLimitExceeded, s!"Users can pin at most {maxPinnedMemes} memes."⟩
    let pin : PinnedMeme :=
      { userId := user.id, memeId := meme.id, position := pinCount + 1, pinnedAt := now }
    let t ← Library.commit { s with pinnedMemes := s.pinnedMemes ++ [pin] } "Failed to pin the meme."
    pure (t, true)

def unpinMeme (userId memeId : Uuid) : Except ServiceError (Library × Bool) := do
  let user ← getLockedFullUser s userId
  let existing := existingPins s user.id
  if existing.any fun pin => pin.memeId = memeId then
    let remaining := existing.filter fun pin => pin.memeId ≠ memeId
    let t ← (replacePins s user.id (numberPins remaining)).commit "Failed to unpin the meme."
    pure (t, true)
  else pure (s, false)

def reorderPins (userId : Uuid) (memeIds : List Uuid) : Except ServiceError Library := do
  let user ← getLockedFullUser s userId
  if memeIds.length > maxPinnedMemes then
    throw ⟨.invalidPinnedMemeOrder, s!"Users can pin at most {maxPinnedMemes} memes."⟩
  if ¬ memeIds.Nodup then
    throw ⟨.invalidPinnedMemeOrder, "Pin reorder payload cannot contain duplicate meme IDs."⟩
  let existing := existingPins s user.id
  if (existing.map PinnedMeme.memeId).toFinset ≠ memeIds.toFinset then
    throw ⟨.invalidPinnedMemeOrder,
      "Pin reorder payload must contain exactly the currently pinned memes."⟩
  let reordered := memeIds.filterMap fun memeId => existing.find? fun pin => pin.memeId = memeId
  (replacePins s user.id (numberPins reordered)).commit "Failed to reorder pinned memes."

end Reads

section Specs

open Results

variable {s : Library}

variable {user : User} {userId : Uuid}

theorem user_eq_some (h : s.user userId = some user) : user ∈ s.users ∧ user.id = userId :=
  ⟨List.mem_of_find?_eq_some h, by simpa using List.find?_some h⟩

variable {memeId : Uuid}

theorem meme_eq_some {meme : Meme} (h : s.meme memeId = some meme) :
    meme ∈ s.memes ∧ meme.id = memeId :=
  ⟨List.mem_of_find?_eq_some h, by simpa using List.find?_some h⟩

variable {collection : Collection} {collectionId : Uuid}

theorem collection_eq_some (h : s.collection collectionId = some collection) :
    collection ∈ s.collections ∧ collection.id = collectionId :=
  ⟨List.mem_of_find?_eq_some h, by simpa using List.find?_some h⟩

theorem favoritesOf_eq_some {favorites : Collection}
    (h : s.favoritesOf userId = some favorites) :
    favorites ∈ s.collections ∧ favorites.ownerId = userId ∧ favorites.kind = .favorites :=
  ⟨List.mem_of_find?_eq_some h, by simpa using List.find?_some h⟩

theorem saved_iff : s.saved collectionId memeId = true ↔
    ∃ row ∈ s.collectionMemes, row.collectionId = collectionId ∧ row.memeId = memeId := by
  simp [Library.saved]

theorem pinned_iff : s.pinned userId memeId = true ↔
    ∃ pin ∈ s.pinnedMemes, pin.userId = userId ∧ pin.memeId = memeId := by
  simp [Library.pinned]

theorem getUser_ok : getUser s userId = .ok user ↔ s.user userId = some user := by
  unfold getUser
  split <;> simp [*]

theorem getCollection_ok :
    getCollection s collectionId = .ok collection ↔ s.collection collectionId = some collection := by
  unfold getCollection
  split <;> simp [*]

theorem getCollectionForRead_ok {r : User × Collection}
    (h : getCollectionForRead s collectionId userId = .ok r) :
    s.user userId = some r.1 ∧ s.collection collectionId = some r.2 := by
  simp only [getCollectionForRead, bind_eq_ok, getUser_ok, getCollection_ok] at h
  obtain ⟨user, huser, collection, hcollection, h⟩ := h
  rw [guard_eq_ok] at h
  obtain ⟨-, h⟩ := h
  split at h
  · cases h
    exact ⟨huser, hcollection⟩
  · exact (throw_ne_ok h).elim

theorem getVisibleMeme_ok {viewerUserId : Uuid} {meme : Meme}
    (h : getVisibleMeme s memeId viewerUserId = .ok meme) : s.meme memeId = some meme := by
  unfold getVisibleMeme at h
  simp only at h
  split at h
  · split at h
    · cases h
      assumption
    · cases h
  · cases h

theorem getLockedFullUser_ok :
    getLockedFullUser s userId = .ok user ↔ s.user userId = some user ∧ user.accountType = .full := by
  simp only [getLockedFullUser, bind_eq_ok, getUser_ok]
  constructor
  · rintro ⟨found, hfound, h⟩
    split at h
    · next hfull =>
      cases h
      exact ⟨hfound, hfull⟩
    · exact (throw_ne_ok h).elim
  · rintro ⟨hfound, hfull⟩
    exact ⟨user, hfound, by rw [if_pos hfull]; rfl⟩

def withFavorites (s : Library) (user : User) (newId : Uuid) : Library :=
  { s with
    collections := s.collections ++ [{ id := newId, ownerId := user.id, kind := .favorites }]
    members := s.members ++ [{ collectionId := newId, userId := user.id, role := .owner }]
    users := s.users.map fun row =>
      if row.id = user.id ∧ row.activeSaveCollectionId = none then
        { row with activeSaveCollectionId := some newId }
      else row }

variable {newId : Uuid}

theorem ensureFavoritesCollection_ok {r : Library × Collection}
    (h : ensureFavoritesCollection s userId newId = .ok r) :
    (r.1 = s ∧ s.favoritesOf userId = some r.2) ∨
    (s.favoritesOf userId = none ∧ r.1.Constraints ∧ ∃ user, s.user userId = some user ∧
      r.1 = withFavorites s user newId ∧
      r.2 = { id := newId, ownerId := user.id, kind := .favorites }) := by
  simp only [ensureFavoritesCollection, bind_eq_ok, getUser_ok] at h
  obtain ⟨user, huser, h⟩ := h
  split at h
  · next favorites hfavorites =>
    cases h
    exact .inl ⟨rfl, hfavorites⟩
  next hfavorites =>
  simp only [bind_eq_ok, Library.commit_eq_ok] at h
  obtain ⟨t, ⟨ht, rfl⟩, h⟩ := h
  cases h
  exact .inr ⟨hfavorites, ht, user, huser, rfl, rfl⟩

variable {failure : String} {now : Time} {r : Library × Bool}

theorem saveMeme_ok (h : saveMeme s user collection memeId now failure = .ok r) :
    ∃ meme, s.meme memeId = some meme ∧ r.1.Constraints ∧
      r = insertAndCount s
        { collectionId := collection.id, memeId := meme.id, addedByUserId := some user.id
          addedAt := now } collection.kind := by
  simp only [saveMeme, bind_eq_ok, Library.commit_eq_ok] at h
  obtain ⟨meme, hmeme, t, ⟨ht, rfl⟩, h⟩ := h
  cases h
  exact ⟨meme, getVisibleMeme_ok hmeme, ht, rfl⟩

theorem removeMeme_ok (h : removeMeme s collection memeId failure = .ok r) :
    (s.saved collection.id memeId = false ∧ r.1 = s) ∨
      (s.saved collection.id memeId = true ∧ r.1.Constraints ∧
        r.1 = removeAndCount s collection memeId) := by
  unfold removeMeme at h
  split at h
  · next hsaved =>
    simp only [bind_eq_ok, Library.commit_eq_ok] at h
    obtain ⟨t, ⟨ht, rfl⟩, h⟩ := h
    cases h
    exact .inr ⟨hsaved, ht, rfl⟩
  · next hsaved =>
    cases h
    exact .inl ⟨Bool.eq_false_iff.mpr hsaved, rfl⟩

variable {t : Library}

def EnsuredFrom (s ensured : Library) : Prop :=
  ensured = s ∨ ∃ userId newId favorites,
    ensureFavoritesCollection s userId newId = .ok (ensured, favorites)

def SavesInto (s t : Library) : Prop :=
  ∃ ensured collection row, EnsuredFrom s ensured ∧ collection ∈ ensured.collections ∧
    row.collectionId = collection.id ∧ t.Constraints ∧
      t = (insertAndCount ensured row collection.kind).1

def RemovesFrom (s t : Library) (collection : Collection) (memeId : Uuid) : Prop :=
  (s.saved collection.id memeId = false ∧ t = s) ∨
    (collection ∈ s.collections ∧ s.saved collection.id memeId = true ∧ t.Constraints ∧
      t = removeAndCount s collection memeId)

theorem removesFrom_of_removeMeme (hmem : collection ∈ s.collections)
    (h : removeMeme s collection memeId failure = .ok r) : RemovesFrom s r.1 collection memeId := by
  rcases removeMeme_ok h with heq | ⟨hsaved, ht, heq⟩
  · exact .inl heq
  · exact .inr ⟨hmem, hsaved, ht, heq⟩

theorem saveMemeToCollection_ok
    (h : saveMemeToCollection s collectionId userId memeId now = .ok r) :
    SavesInto s r.1 := by
  simp only [saveMemeToCollection, bind_eq_ok] at h
  obtain ⟨found, hfound, -, -, h⟩ := h
  obtain ⟨hmem, -⟩ := collection_eq_some (getCollectionForRead_ok hfound).2
  obtain ⟨meme, -, ht, rfl⟩ := saveMeme_ok h
  exact ⟨s, found.2, _, .inl rfl, hmem, rfl, ht, rfl⟩

theorem removeMemeFromCollection_ok
    (h : removeMemeFromCollection s collectionId userId memeId = .ok r) :
    ∃ collection, s.collection collectionId = some collection ∧
      RemovesFrom s r.1 collection memeId := by
  simp only [removeMemeFromCollection, bind_eq_ok] at h
  obtain ⟨found, hfound, -, -, h⟩ := h
  have hcollection := (getCollectionForRead_ok hfound).2
  exact ⟨found.2, hcollection, removesFrom_of_removeMeme (collection_eq_some hcollection).1 h⟩

theorem favoriteMeme_ok (h : favoriteMeme s userId memeId newId now = .ok r) : SavesInto s r.1 := by
  simp only [favoriteMeme, bind_eq_ok, Library.commit_eq_ok] at h
  obtain ⟨meme, -, ⟨ensured, favorites⟩, hensured, t, ⟨ht, rfl⟩, h⟩ := h
  cases h
  refine ⟨ensured, favorites, ⟨favorites.id, meme.id, some favorites.ownerId, now⟩,
    .inr ⟨userId, newId, favorites, hensured⟩, ?_, rfl, ht, ?_⟩
  · rcases ensureFavoritesCollection_ok hensured with ⟨rfl, hfound⟩ | ⟨-, -, user, -, rfl, rfl⟩
    · exact (favoritesOf_eq_some hfound).1
    · exact List.mem_append_right _ (List.mem_singleton.mpr rfl)
  · rcases ensureFavoritesCollection_ok hensured with ⟨rfl, hfound⟩ | ⟨-, -, user, -, rfl, rfl⟩
    · rw [(favoritesOf_eq_some hfound).2.2]
    · rfl

theorem unfavoriteMeme_ok (h : unfavoriteMeme s userId memeId = .ok r) :
    (s.favoritesOf userId = none ∧ r.1 = s) ∨
      ∃ favorites, s.favoritesOf userId = some favorites ∧ RemovesFrom s r.1 favorites memeId := by
  unfold unfavoriteMeme at h
  split at h
  · next hnone =>
    cases h
    exact .inl ⟨hnone, rfl⟩
  · next favorites hfound =>
    exact .inr ⟨favorites, hfound, removesFrom_of_removeMeme (favoritesOf_eq_some hfound).1 h⟩

theorem saveMemeToActiveCollection_ok
    (h : saveMemeToActiveCollection s userId memeId newId now = .ok r) :
    SavesInto s r.1 := by
  simp only [saveMemeToActiveCollection, getActiveCollectionForWrite, bind_eq_ok] at h
  obtain ⟨⟨ensured, user, collection⟩, ⟨found, -, hactive⟩, h⟩ := h
  obtain ⟨meme, -, ht, rfl⟩ := saveMeme_ok h
  split at hactive
  · simp only [bind_eq_ok] at hactive
    obtain ⟨⟨made, favorites⟩, hmade, -, -, hactive⟩ := hactive
    cases hactive
    refine ⟨made, favorites, _, .inr ⟨_, newId, favorites, hmade⟩, ?_, rfl, ht, rfl⟩
    rcases ensureFavoritesCollection_ok hmade with ⟨rfl, hfound⟩ | ⟨-, -, owner, -, rfl, rfl⟩
    · exact (favoritesOf_eq_some hfound).1
    · exact List.mem_append_right _ (List.mem_singleton.mpr rfl)
  simp only [bind_eq_ok, getCollection_ok] at hactive
  obtain ⟨saved, hsaved, -, -, hactive⟩ := hactive
  cases hactive
  exact ⟨s, collection, _, .inl rfl, (collection_eq_some hsaved).1, rfl, ht, rfl⟩

theorem removeMemeFromActiveCollection_ok
    (h : removeMemeFromActiveCollection s userId memeId = .ok r) :
    ∃ user, s.user userId = some user ∧
      ((user.activeSaveCollectionId = none ∧ r.1 = s) ∨
        ∃ collection, user.activeSaveCollectionId.bind s.collection = some collection ∧
          RemovesFrom s r.1 collection memeId) := by
  simp only [removeMemeFromActiveCollection, bind_eq_ok, getUser_ok] at h
  obtain ⟨user, huser, h⟩ := h
  refine ⟨user, huser, ?_⟩
  split at h
  · next hnone =>
    cases h
    exact .inl ⟨hnone, rfl⟩
  next collectionId hactive =>
  simp only [bind_eq_ok, getCollection_ok] at h
  obtain ⟨collection, hcollection, -, -, h⟩ := h
  refine .inr ⟨collection, ?_, removesFrom_of_removeMeme (collection_eq_some hcollection).1 h⟩
  rw [hactive]
  exact hcollection

theorem createCustomCollection_ok {ownerUserId : Uuid}
    (h : createCustomCollection s ownerUserId newId = .ok t) :
    t.Constraints ∧ ∃ collection members, collection.kind = .custom ∧
      t = { s with collections := s.collections ++ [collection], members := members } := by
  simp only [createCustomCollection, bind_eq_ok, guard_eq_ok, Library.commit_eq_ok] at h
  obtain ⟨owner, -, -, ht, rfl⟩ := h
  exact ⟨ht, _, _, rfl, rfl⟩

theorem ensureMember_ok {role : CollectionMembershipRole}
    (h : ensureMember s collectionId userId role = .ok t) :
    t.Constraints ∧ ∃ members, t = { s with members := members } := by
  simp only [ensureMember, bind_eq_ok, guard_eq_ok, Library.commit_eq_ok] at h
  obtain ⟨collection, -, user, -, -, ht, rfl⟩ := h
  exact ⟨ht, _, rfl⟩

theorem updateActiveSaveCollection_ok
    (h : updateActiveSaveCollection s userId collectionId = .ok t) :
    t.Constraints ∧ ∃ users, t = { s with users := users } := by
  simp only [updateActiveSaveCollection, bind_eq_ok, Library.commit_eq_ok] at h
  obtain ⟨user, -, collection, -, -, -, ht, rfl⟩ := h
  exact ⟨ht, _, rfl⟩

theorem ensureOwnerCanManageCustomCollection_ok {u : Unit}
    (h : ensureOwnerCanManageCustomCollection user collection = .ok u) :
    collection.kind = .custom := by
  unfold ensureOwnerCanManageCustomCollection at h
  simp only at h
  split at h
  · cases h
  · next hkind => simpa using hkind

theorem deleteCustomCollection_ok (h : deleteCustomCollection s collectionId userId = .ok t) :
    ∃ collection ∈ s.collections, collection.id = collectionId ∧ collection.kind = .custom ∧
      t.Constraints ∧ ∃ users, t = deleteCollection
        { deleteMemes s (fun memeId => orphanedByCollectionDelete s collectionId memeId) with
          users := users } collectionId := by
  simp only [deleteCustomCollection, bind_eq_ok, Library.commit_eq_ok] at h
  obtain ⟨found, hfound, _, hmanage, ht, rfl⟩ := h
  obtain ⟨hmem, rfl⟩ := collection_eq_some (getCollectionForRead_ok hfound).2
  exact ⟨found.2, hmem, rfl, ensureOwnerCanManageCustomCollection_ok hmanage, ht, _, rfl⟩

theorem pinMeme_ok (h : pinMeme s userId memeId now = .ok r) :
    r.1 = s ∨ (r.1.Constraints ∧ ∃ pin : PinnedMeme,
      pin.position = (s.pinsOf pin.userId).length + 1 ∧
        r.1 = { s with pinnedMemes := s.pinnedMemes ++ [pin] }) := by
  simp only [pinMeme, bind_eq_ok] at h
  obtain ⟨user, -, meme, -, h⟩ := h
  split at h
  · cases h
    exact .inl rfl
  simp only [guard_eq_ok, bind_eq_ok, Library.commit_eq_ok] at h
  obtain ⟨-, t, ⟨ht, rfl⟩, h⟩ := h
  cases h
  exact .inr ⟨ht, _, rfl, rfl⟩

def RenumbersPins (s t : Library) : Prop :=
  ∃ userId pins, (∀ pin ∈ pins, pin ∈ s.pinsOf userId) ∧ t.Constraints ∧
    t = replacePins s userId (numberPins pins)

theorem mem_existingPins {pin : PinnedMeme} : pin ∈ existingPins s userId ↔ pin ∈ s.pinsOf userId :=
  List.mem_insertionSort _

theorem unpinMeme_ok (h : unpinMeme s userId memeId = .ok r) : r.1 = s ∨ RenumbersPins s r.1 := by
  simp only [unpinMeme, bind_eq_ok] at h
  obtain ⟨user, -, h⟩ := h
  split at h
  · simp only [bind_eq_ok, Library.commit_eq_ok] at h
    obtain ⟨t, ⟨ht, rfl⟩, h⟩ := h
    cases h
    refine .inr ⟨user.id, _, ?_, ht, rfl⟩
    intro pin hpin
    exact mem_existingPins.mp (List.mem_filter.mp hpin).1
  · cases h
    exact .inl rfl

theorem reorderPins_ok {memeIds : List Uuid}
    (h : reorderPins s userId memeIds = .ok t) : RenumbersPins s t := by
  simp only [reorderPins, bind_eq_ok, guard_eq_ok, Library.commit_eq_ok] at h
  obtain ⟨user, -, -, -, -, ht, rfl⟩ := h
  refine ⟨user.id, _, ?_, ht, rfl⟩
  intro pin hpin
  obtain ⟨memeId, -, hfound⟩ := List.mem_filterMap.mp hpin
  exact mem_existingPins.mp (List.mem_of_find?_eq_some hfound)

end Specs

end MemeExpert.Services
