import MemeExpert.Services.CollectionService

/-! A guest becomes a full account in place, or is folded into one that exists. The merge
hands the guest's Favorites over and deletes the guest. -/

namespace MemeExpert.Services

variable (s : Library)

def createGuest (userId : Uuid) : Except ServiceError Library :=
  Library.commit { s with users := s.users ++ [{ id := userId }] } "Failed to create the guest."

def ensureGuestCanLink (user : User) : Except ServiceError Unit :=
  if user.accountType ≠ .guest then
    .error ⟨.guestAccountRequired, "Only guest accounts can be linked."⟩
  else if user.status ≠ .active then
    .error ⟨.accountUnavailable, "Account is not available."⟩
  else if user.telegramId.isSome || user.googleId.isSome || user.email.isSome ||
      user.passwordHash.isSome then
    .error ⟨.accountLinkInvariant, "Guest account already carries linked identities."⟩
  else .ok ()

def ensureCanonicalTarget (user : User) : Except ServiceError Unit :=
  if user.accountType ≠ .full then
    .error ⟨.accountLinkInvariant, "Canonical merge targets must be full accounts."⟩
  else if user.status ≠ .active then
    .error ⟨.accountUnavailable, "Account is not available."⟩
  else .ok ()

def requireGuestHasNoCustomCollections (guest : User) : Except ServiceError (Option Collection) :=
  let guestId := guest.id
  let owned := s.collections.filter fun collection => collection.ownerId = guest.id
  let favorites := owned.filter fun collection => collection.kind = .favorites
  let custom := owned.filter fun collection => collection.kind ≠ .favorites
  if custom ≠ [] then
    .error ⟨.accountLinkInvariant,
      s!"Guest user {guestId} owns unexpected non-Favorites collections."⟩
  else if favorites.length > 1 then
    .error ⟨.accountLinkInvariant,
      s!"Guest user {guestId} owns more than one Favorites collection."⟩
  else .ok favorites.head?

def upgradeGuest (userId : Uuid) (telegramId : Option Nat) (googleId email : Option String) :
    Except ServiceError Library := do
  let user ← getUser s userId
  ensureGuestCanLink user
  let _ ← requireGuestHasNoCustomCollections s user
  Library.commit
    { s with
      users := s.users.map fun row =>
        if row.id = user.id then
          { row with
            accountType := .full
            telegramId := telegramId
            googleId := googleId
            email := email }
        else row }
    "Failed to upgrade the guest."

/-- `INSERT ... SELECT ... ON CONFLICT DO NOTHING` from one Favorites into another. The like
counts are left alone. -/
def transferFavorites (guestFavorites targetFavorites : Collection) (target : User) : Library :=
  let incoming := (s.collectionMemes.filter fun row => row.collectionId = guestFavorites.id &&
    !s.saved targetFavorites.id row.memeId).map fun row =>
      { row with collectionId := targetFavorites.id, addedByUserId := some target.id }
  { s with collectionMemes := s.collectionMemes ++ incoming }

def deleteUser (userId : Uuid) : Library :=
  { s with
    users := s.users.filter fun user => ¬ user.id = userId
    members := s.members.filter fun member => ¬ member.userId = userId
    collectionMemes := s.collectionMemes.map fun row =>
      if row.addedByUserId = some userId then { row with addedByUserId := none } else row
    pinnedMemes := s.pinnedMemes.filter fun pin => ¬ pin.userId = userId }

/-- The tables after the guest's Favorites were handed over, before the guest is deleted. The
target's Favorites are only created when there is something to hand over. -/
def handOverFavorites (target : User) (newId : Uuid) :
    Option Collection → Except ServiceError Library
  | none => .ok s
  | some guestFavorites =>
    if s.collectionMemes.any fun row => row.collectionId = guestFavorites.id then do
      let (ensured, targetFavorites) ← ensureFavoritesCollection s target.id newId
      pure (deleteCollection (transferFavorites ensured guestFavorites targetFavorites target)
        guestFavorites.id)
    else .ok (deleteCollection s guestFavorites.id)

def attachGoogleIdentity (userId : Uuid) (googleId : Option String) : Library :=
  { s with
    users := s.users.map fun row =>
      if row.id = userId ∧ googleId.isSome then { row with googleId := googleId } else row }

def mergeGuestIntoExistingFull (guestUserId targetUserId newId : Uuid)
    (attachedGoogleId : Option String) : Except ServiceError Library := do
  if guestUserId = targetUserId then
    throw ⟨.accountLinkInvariant, "Guest account cannot merge into itself."⟩
  let guest ← getUser s guestUserId
  let target ← getUser s targetUserId
  ensureGuestCanLink guest
  ensureCanonicalTarget target
  let guestFavorites ← requireGuestHasNoCustomCollections s guest
  let attached := attachGoogleIdentity s target.id attachedGoogleId
  let handedOver ← handOverFavorites attached target newId guestFavorites
  (deleteUser handedOver guest.id).commit "Failed to merge the guest."

section Specs

open Results

variable {s t : Library}

theorem requireGuestHasNoCustomCollections_ok {guest : User} {favorites : Option Collection}
    (h : requireGuestHasNoCustomCollections s guest = .ok favorites) :
    s.favoritesOf guest.id = favorites := by
  unfold requireGuestHasNoCustomCollections at h
  simp only at h
  split at h
  · cases h
  split at h
  · cases h
  cases h
  rw [List.filter_filter, List.head?_filter]
  simp only [Library.favoritesOf, Bool.and_comm]

theorem upgradeGuest_ok {userId : Uuid} {telegramId : Option Nat} {googleId email : Option String}
    (h : upgradeGuest s userId telegramId googleId email = .ok t) :
    t.Constraints ∧ ∃ users, t = { s with users := users } := by
  simp only [upgradeGuest, bind_eq_ok, Library.commit_eq_ok] at h
  obtain ⟨user, -, -, -, -, -, ht, rfl⟩ := h
  exact ⟨ht, _, rfl⟩

theorem handOverFavorites_ok {target : User} {newId : Uuid} {guestFavorites : Option Collection}
    (h : handOverFavorites s target newId guestFavorites = .ok t) :
    (guestFavorites = none ∧ t = s) ∨
    (∃ favorites, guestFavorites = some favorites ∧
      (∀ memeId, s.saved favorites.id memeId = false) ∧ t = deleteCollection s favorites.id) ∨
    ∃ favorites ensured targetFavorites, guestFavorites = some favorites ∧
      ensureFavoritesCollection s target.id newId = .ok (ensured, targetFavorites) ∧
      t = deleteCollection (transferFavorites ensured favorites targetFavorites target)
        favorites.id := by
  cases guestFavorites with
  | none =>
    cases h
    exact .inl ⟨rfl, rfl⟩
  | some favorites =>
    simp only [handOverFavorites] at h
    split at h
    · simp only [bind_eq_ok, Prod.exists] at h
      obtain ⟨ensured, targetFavorites, hensured, h⟩ := h
      cases h
      exact .inr (.inr ⟨favorites, ensured, targetFavorites, rfl, hensured, rfl⟩)
    next hnone =>
    cases h
    refine .inr (.inl ⟨favorites, rfl, ?_, rfl⟩)
    intro memeId
    by_contra hsaved
    rw [Bool.not_eq_false, saved_iff] at hsaved
    obtain ⟨row, hrow, hcollection, -⟩ := hsaved
    exact hnone (List.any_eq_true.mpr ⟨row, hrow, by simpa using hcollection⟩)

theorem mergeGuestIntoExistingFull_ok {guestUserId targetUserId newId : Uuid}
    {attachedGoogleId : Option String}
    (h : mergeGuestIntoExistingFull s guestUserId targetUserId newId attachedGoogleId = .ok t) :
    guestUserId ≠ targetUserId ∧ t.Constraints ∧ ∃ target handedOver,
      s.user targetUserId = some target ∧
      handOverFavorites (attachGoogleIdentity s targetUserId attachedGoogleId) target newId
        (s.favoritesOf guestUserId) = .ok handedOver ∧
      t = deleteUser handedOver guestUserId := by
  simp only [mergeGuestIntoExistingFull, guard_eq_ok, bind_eq_ok, getUser_ok,
    Library.commit_eq_ok] at h
  obtain ⟨hne, guest, hguest, target, htarget, -, -, -, -, favorites, hfavorites, handedOver,
    hhanded, ht, rfl⟩ := h
  obtain ⟨-, hguestid⟩ := user_eq_some hguest
  obtain ⟨-, htargetid⟩ := user_eq_some htarget
  have hfound := requireGuestHasNoCustomCollections_ok hfavorites
  rw [hguestid] at hfound
  rw [htargetid] at hhanded
  refine ⟨hne, ht, target, handedOver, htarget, ?_, by rw [hguestid]⟩
  rw [hfound]
  exact hhanded

end Specs

end MemeExpert.Services
