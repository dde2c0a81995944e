import MemeExpert.Services.ProviderLogins

/-! On tables that satisfy the schema an upgrade or a merge fails only because of the rows
it finds: the guest, the target, or an identity that another account carries. -/

namespace MemeExpert.Services

open Results

section Commits

variable {s : Library}

theorem constraints_withUsers {users : List User} (hs : s.Constraints)
    (hids : users.map User.id = s.users.map User.id) :
    ({ s with users := users } : Library).Constraints :=
  { hs with
    users_unique := hids ▸ hs.users_unique
    collections_owner := hids ▸ hs.collections_owner
    pins_user := hids ▸ hs.pins_user }

theorem constraints_deleteCollection (hs : s.Constraints) (collectionId : Uuid) :
    (deleteCollection s collectionId).Constraints := by
  have hids : (s.users.map fun row =>
      if row.activeSaveCollectionId = some collectionId then
        { row with activeSaveCollectionId := none }
      else row).map User.id = s.users.map User.id := by
    rw [List.map_map]
    refine List.map_congr_left fun row _ => ?_
    simp only [Function.comp_apply]
    split <;> rfl
  have hkept := constraints_withUsers hs hids
  exact
    { hkept with
      collections_unique := hs.collections_unique.sublist (List.filter_sublist.map _)
      collections_owner := fun row hrow =>
        hkept.collections_owner row (List.mem_of_mem_filter hrow)
      one_favorites_per_owner :=
        hs.one_favorites_per_owner.sublist ((List.filter_sublist.filter _).map _)
      members_unique := hs.members_unique.sublist (List.filter_sublist.map _)
      saves_unique := hs.saves_unique.sublist (List.filter_sublist.map _)
      saves_collection := by
        intro row hrow
        obtain ⟨hmem, hne⟩ := List.mem_filter.mp hrow
        obtain ⟨collection, hcollection, hid⟩ := List.mem_map.mp (hs.saves_collection row hmem)
        refine List.mem_map.mpr ⟨collection, List.mem_filter.mpr ⟨hcollection, ?_⟩, hid⟩
        rw [hid]
        exact hne
      saves_meme := fun row hrow => hs.saves_meme row (List.mem_of_mem_filter hrow) }

theorem constraints_deleteUser (hs : s.Constraints) {userId : Uuid}
    (hnone : ∀ collection ∈ s.collections, collection.ownerId ≠ userId) :
    (deleteUser s userId).Constraints := by
  have hstays : ∀ id ∈ s.users.map User.id, id ≠ userId →
      id ∈ (s.users.filter fun user => ¬ user.id = userId).map User.id := by
    intro id hid hne
    obtain ⟨user, huser, rfl⟩ := List.mem_map.mp hid
    exact List.mem_map.mpr ⟨user, List.mem_filter.mpr ⟨huser, by simpa using hne⟩, rfl⟩
  have hkeys : ∀ {α : Type} (key : CollectionMeme → α)
      (_ : ∀ row, key { row with addedByUserId := none } = key row),
      ((s.collectionMemes.map fun row =>
        if row.addedByUserId = some userId then { row with addedByUserId := none } else row).map
          key) = s.collectionMemes.map key := by
    intro α key hkey
    rw [List.map_map]
    refine List.map_congr_left fun row _ => ?_
    simp only [Function.comp_apply]
    split
    · exact hkey row
    · rfl
  exact
    { users_unique := hs.users_unique.sublist (List.filter_sublist.map _)
      memes_unique := hs.memes_unique
      collections_unique := hs.collections_unique
      collections_owner := fun row hrow =>
        hstays _ (hs.collections_owner row hrow) (hnone row hrow)
      one_favorites_per_owner := hs.one_favorites_per_owner
      members_unique := hs.members_unique.sublist (List.filter_sublist.map _)
      saves_unique := by
        have heq := hkeys (fun row => (row.collectionId, row.memeId)) fun _ => rfl
        exact heq ▸ hs.saves_unique
      saves_collection := by
        intro row hrow
        have hmem := List.mem_map_of_mem (f := CollectionMeme.collectionId) hrow
        rw [deleteUser, hkeys CollectionMeme.collectionId fun _ => rfl] at hmem
        obtain ⟨before, hbefore, hid⟩ := List.mem_map.mp hmem
        exact hid ▸ hs.saves_collection before hbefore
      saves_meme := by
        intro row hrow
        have hmem := List.mem_map_of_mem (f := CollectionMeme.memeId) hrow
        rw [deleteUser, hkeys CollectionMeme.memeId fun _ => rfl] at hmem
        obtain ⟨before, hbefore, hid⟩ := List.mem_map.mp hmem
        exact hid ▸ hs.saves_meme before hbefore
      pins_unique := hs.pins_unique.sublist (List.filter_sublist.map _)
      positions_unique := hs.positions_unique.sublist (List.filter_sublist.map _)
      positions_range := fun pin hpin => hs.positions_range pin (List.mem_of_mem_filter hpin)
      pins_user := by
        intro pin hpin
        obtain ⟨hmem, hne⟩ := List.mem_filter.mp hpin
        exact hstays _ (hs.pins_user pin hmem) (by simpa using hne)
      pins_meme := fun pin hpin => hs.pins_meme pin (List.mem_of_mem_filter hpin) }

theorem constraints_transferFavorites (hs : s.Constraints)
    {guestFavorites targetFavorites : Collection} (target : User)
    (htarget : targetFavorites ∈ s.collections) :
    (transferFavorites s guestFavorites targetFavorites target).Constraints := by
  have hincoming : ∀ row ∈ (s.collectionMemes.filter fun row =>
      row.collectionId = guestFavorites.id && !s.saved targetFavorites.id row.memeId),
      row ∈ s.collectionMemes ∧ row.collectionId = guestFavorites.id ∧
        s.saved targetFavorites.id row.memeId = false := by
    intro row hrow
    obtain ⟨hmem, hkept⟩ := List.mem_filter.mp hrow
    exact ⟨hmem, by simpa using hkept⟩
  exact
    { hs with
      saves_unique := by
        rw [transferFavorites, List.map_append, List.map_map]
        refine List.nodup_append.mpr ⟨hs.saves_unique, ?_, ?_⟩
        · refine List.Nodup.map_on ?_ ((List.Nodup.of_map _ hs.saves_unique).filter _)
          intro row hrow other hother heq
          obtain ⟨hmem, hcollection, -⟩ := hincoming row hrow
          obtain ⟨hotherMem, hotherCollection, -⟩ := hincoming other hother
          refine List.inj_on_of_nodup_map hs.saves_unique hmem hotherMem ?_
          exact Prod.ext (hcollection.trans hotherCollection.symm) (Prod.mk.inj heq).2
        rintro _ hold _ hnew rfl
        obtain ⟨old, holdMem, hold⟩ := List.mem_map.mp hold
        obtain ⟨row, hrow, hnew⟩ := List.mem_map.mp hnew
        obtain ⟨-, -, hunsaved⟩ := hincoming row hrow
        have hsame := Prod.mk.inj (hold.trans hnew.symm)
        have hsaved : s.saved targetFavorites.id row.memeId = true :=
          saved_iff.mpr ⟨old, holdMem, hsame.1, hsame.2⟩
        rw [hunsaved] at hsaved
        cases hsaved
      saves_collection := by
        intro row hrow
        rcases List.mem_append.mp hrow with hold | hnew
        · exact hs.saves_collection row hold
        · obtain ⟨before, -, rfl⟩ := List.mem_map.mp hnew
          exact List.mem_map_of_mem htarget
      saves_meme := by
        intro row hrow
        rcases List.mem_append.mp hrow with hold | hnew
        · exact hs.saves_meme row hold
        · obtain ⟨before, hbefore, rfl⟩ := List.mem_map.mp hnew
          exact hs.saves_meme before (hincoming before hbefore).1 }

def FreshCollection (s : Library) (collectionId : Uuid) : Prop :=
  (∀ collection ∈ s.collections, collection.id ≠ collectionId) ∧
    ∀ member ∈ s.members, member.collectionId ≠ collectionId

theorem constraints_withFavorites (hs : s.Constraints) {user : User} {newId : Uuid}
    (huser : user.id ∈ s.users.map User.id) (hfresh : FreshCollection s newId)
    (hnone : s.favoritesOf user.id = none) : (withFavorites s user newId).Constraints := by
  have hids : (withFavorites s user newId).users.map User.id = s.users.map User.id := by
    rw [withFavorites, List.map_map]
    refine List.map_congr_left fun row _ => ?_
    simp only [Function.comp_apply]
    split <;> rfl
  have hkept := constraints_withUsers hs hids
  have hunowned : ∀ collection ∈ s.collections, collection.kind = .favorites →
      collection.ownerId ≠ user.id := by
    intro collection hcollection hkind howner
    have habsent := List.find?_eq_none.mp hnone collection hcollection
    simp [howner, hkind] at habsent
  exact
    { hkept with
      collections_unique := by
        rw [withFavorites, List.map_append]
        refine List.nodup_append.mpr ⟨hs.collections_unique, List.nodup_singleton _, ?_⟩
        rintro _ hold _ hnew rfl
        obtain ⟨collection, hcollection, hid⟩ := List.mem_map.mp hold
        exact hfresh.1 collection hcollection (hid.trans (List.mem_singleton.mp hnew))
      collections_owner := by
        intro row hrow
        rcases List.mem_append.mp hrow with hold | hnew
        · exact hkept.collections_owner row hold
        · cases List.mem_singleton.mp hnew
          exact hids ▸ huser
      one_favorites_per_owner := by
        rw [withFavorites, List.filter_append, List.map_append]
        refine List.nodup_append.mpr ⟨hs.one_favorites_per_owner, List.nodup_singleton _, ?_⟩
        rintro _ hold _ hnew rfl
        obtain ⟨collection, hcollection, howner⟩ := List.mem_map.mp hold
        obtain ⟨hmem, hkind⟩ := List.mem_filter.mp hcollection
        exact hunowned collection hmem (by simpa using hkind)
          (howner.trans (List.mem_singleton.mp hnew))
      members_unique := by
        rw [withFavorites, List.map_append]
        refine List.nodup_append.mpr ⟨hs.members_unique, List.nodup_singleton _, ?_⟩
        rintro _ hold _ hnew rfl
        obtain ⟨member, hmember, hkey⟩ := List.mem_map.mp hold
        exact hfresh.2 member hmember (Prod.mk.inj (hkey.trans (List.mem_singleton.mp hnew))).1
      saves_collection := by
        intro row hrow
        rw [withFavorites, List.map_append]
        exact List.mem_append_left _ (hs.saves_collection row hrow) }

theorem eq_of_owned {guest : User} {favorites : Option Collection}
    (h : requireGuestHasNoCustomCollections s guest = .ok favorites) {collection : Collection}
    (hcollection : collection ∈ s.collections) (howner : collection.ownerId = guest.id) :
    favorites = some collection := by
  unfold requireGuestHasNoCustomCollections at h
  dsimp only at h
  split at h
  · cases h
  next hcustom =>
  split at h
  · cases h
  next hlength =>
  cases h
  rw [not_not, List.filter_eq_nil_iff] at hcustom
  have howned : collection ∈ s.collections.filter fun row => row.ownerId = guest.id :=
    List.mem_filter.mpr ⟨hcollection, by simpa using howner⟩
  have hkind : collection.kind = .favorites := by simpa using hcustom collection howned
  have hmem : collection ∈ (s.collections.filter fun row => row.ownerId = guest.id).filter
      fun row => row.kind = .favorites := List.mem_filter.mpr ⟨howned, by simpa using hkind⟩
  cases hlist : (s.collections.filter fun row => row.ownerId = guest.id).filter
      fun row => row.kind = .favorites with
  | nil =>
    rw [hlist] at hmem
    cases hmem
  | cons first rest =>
    rw [hlist] at hmem hlength
    have hrest : rest = [] := by
      rw [List.length_cons] at hlength
      exact List.length_eq_zero_iff.mp (by omega)
    rw [hrest] at hmem
    rw [List.head?_cons, List.mem_singleton.mp hmem]

theorem ensureFavoritesCollection_succeeds (hs : s.Constraints) {user : User} {userId newId : Uuid}
    (huser : s.user userId = some user) (hfresh : FreshCollection s newId) :
    ∃ t favorites, ensureFavoritesCollection s userId newId = .ok (t, favorites) ∧ t.Constraints ∧
      favorites ∈ t.collections ∧
      ∀ collection ∈ t.collections, collection ∈ s.collections ∨ collection.ownerId = userId := by
  obtain ⟨hmem, hid⟩ := user_eq_some huser
  have huserOk : getUser s userId = .ok user := getUser_ok.mpr huser
  cases hfound : s.favoritesOf userId with
  | some favorites =>
    refine ⟨s, favorites, ?_, hs, (favoritesOf_eq_some hfound).1, fun _ => .inl⟩
    simp only [ensureFavoritesCollection, huserOk, hfound]
    rfl
  | none =>
    have hcommits := constraints_withFavorites hs (List.mem_map_of_mem hmem) hfresh (hid ▸ hfound)
    refine ⟨withFavorites s user newId, { id := newId, ownerId := user.id, kind := .favorites },
      ?_, hcommits, List.mem_append_right _ List.mem_cons_self, ?_⟩
    · refine bind_eq_ok.mpr ⟨user, huserOk, ?_⟩
      simp only [hfound]
      exact bind_eq_ok.mpr ⟨_, Library.commit_eq_ok.mpr ⟨hcommits, rfl⟩, rfl⟩
    intro collection hcollection
    rcases List.mem_append.mp hcollection with hold | hnew
    · exact .inl hold
    · cases List.mem_singleton.mp hnew
      exact .inr hid

theorem deleted_unowned {t : Library} {guest : User} {favorites : Collection}
    (howned : ∀ collection ∈ s.collections, collection.ownerId = guest.id → favorites = collection)
    (ht : ∀ collection ∈ t.collections, collection ∈ s.collections ∨
      collection.ownerId ≠ guest.id) :
    ∀ collection ∈ (deleteCollection t favorites.id).collections,
      collection.ownerId ≠ guest.id := by
  intro collection hcollection howner
  obtain ⟨hmem, hne⟩ := List.mem_filter.mp hcollection
  rcases ht collection hmem with hold | hother
  · cases howned collection hold howner
    simp at hne
  · exact hother howner

theorem handOverFavorites_succeeds (hs : s.Constraints) {guest target user : User} {newId : Uuid}
    {favorites : Option Collection}
    (hguest : requireGuestHasNoCustomCollections s guest = .ok favorites)
    (htarget : s.user target.id = some user) (hne : target.id ≠ guest.id)
    (hfresh : FreshCollection s newId) :
    ∃ t, handOverFavorites s target newId favorites = .ok t ∧
      (deleteUser t guest.id).Constraints := by
  have howned := fun collection => @eq_of_owned s guest favorites hguest collection
  cases favorites with
  | none =>
    refine ⟨s, rfl, constraints_deleteUser hs fun collection hcollection howner => ?_⟩
    cases howned collection hcollection howner
  | some favorites =>
    have hfavorites := fun collection hcollection howner =>
      Option.some.inj (howned collection hcollection howner)
    by_cases hany : s.collectionMemes.any fun row => row.collectionId = favorites.id
    · obtain ⟨ensured, targetFavorites, hensured, hcommits, hmem, hcollections⟩ :=
        ensureFavoritesCollection_succeeds hs htarget hfresh
      refine ⟨deleteCollection (transferFavorites ensured favorites targetFavorites target)
        favorites.id, ?_, ?_⟩
      · simp only [handOverFavorites, hany, if_true, hensured]
        rfl
      refine constraints_deleteUser (constraints_deleteCollection
        (constraints_transferFavorites hcommits target hmem) _) ?_
      refine deleted_unowned hfavorites fun collection hcollection => ?_
      exact (hcollections collection hcollection).imp_right fun howner => howner.trans_ne hne
    · refine ⟨deleteCollection s favorites.id, ?_, ?_⟩
      · simp only [handOverFavorites, hany, if_false, Bool.false_eq_true]
      · exact constraints_deleteUser (constraints_deleteCollection hs _)
          (deleted_unowned hfavorites fun _ => .inl)

end Commits

def linkConflicts : List ServiceErrorKind :=
  [.accountLinkAlreadyCompleted, .accountLinkInvariant, .emailAlreadyInUse, .guestAccountRequired,
    .accountUnavailable]

def IsConflict (failure : ServiceError) : Prop := failure.kind ∈ linkConflicts

instance (failure : ServiceError) : Decidable (IsConflict failure) :=
  inferInstanceAs (Decidable (_ ∈ _))

section Failures

variable {s : AccountTables} {guestUserId targetUserId : Uuid}

theorem failsOnly_ensureAccountIsAvailable (user : Account) :
    FailsOnly IsConflict (ensureAccountIsAvailable user) := by
  intro failure h
  unfold ensureAccountIsAvailable at h
  split at h
  · cases h
    decide
  · cases h

theorem failsOnly_ensureGoogleReuseIsAllowed (user : Account) :
    FailsOnly IsConflict (ensureGoogleReuseIsAllowed user) := by
  have hinUse : ∀ text, IsConflict ⟨.emailAlreadyInUse, text⟩ := fun _ =>
    List.mem_cons_of_mem _ (List.mem_cons_of_mem _ List.mem_cons_self)
  refine (failsOnly_ensureAccountIsAvailable user).bind fun _ _ => ?_
  refine FailsOnly.guard (fun _ => hinUse _) fun _ => ?_
  intro failure h
  split at h
  · cases throw_eq_error.mp h
    exact hinUse _
  · cases h

theorem failsOnly_ensureGuestCanLink (guest : User) :
    FailsOnly IsConflict (ensureGuestCanLink guest) := by
  intro failure h
  unfold ensureGuestCanLink at h
  split at h
  · cases h
    decide
  split at h
  · cases h
    decide
  split at h
  · cases h
    decide
  · cases h

theorem failsOnly_ensureCanonicalTarget (target : User) :
    FailsOnly IsConflict (ensureCanonicalTarget target) := by
  intro failure h
  unfold ensureCanonicalTarget at h
  split at h
  · cases h
    decide
  split at h
  · cases h
    decide
  · cases h

theorem failsOnly_requireGuestHasNoCustomCollections (library : Library) (guest : User) :
    FailsOnly IsConflict (requireGuestHasNoCustomCollections library guest) := by
  intro failure h
  unfold requireGuestHasNoCustomCollections at h
  dsimp only at h
  split at h
  · cases h
    exact List.mem_cons_of_mem _ List.mem_cons_self
  split at h
  · cases h
    exact List.mem_cons_of_mem _ List.mem_cons_self
  · cases h

theorem ensureIdentityIsAvailable_of_available {telegramId : Option Nat}
    {googleId email : Option String} (h : Available s telegramId googleId email) :
    ensureIdentityIsAvailable s telegramId googleId email = .ok () := by
  obtain ⟨htelegram, hgoogle, hemail⟩ := h
  have hnobody : ∀ identity : String, identityHolder identity none = .ok () := fun _ => rfl
  cases telegramId <;> cases googleId <;> cases email <;>
    simp_all [ensureIdentityIsAvailable, bind, Except.bind, pure, Except.pure]

theorem failsOnly_ensureIdentityIsAvailable (telegramId : Option Nat)
    (googleId email : Option String) :
    FailsOnly (fun failure => failure.kind = .duplicateIdentity ∧
      ¬ Available s telegramId googleId email)
      (ensureIdentityIsAvailable s telegramId googleId email) := by
  have hholder : ∀ identity holder, FailsOnly (fun failure => failure.kind = .duplicateIdentity)
      (identityHolder identity holder) := by
    intro identity holder failure h
    cases holder with
    | none => cases h
    | some existing =>
      cases h
      rfl
  have hkind : FailsOnly (fun failure => failure.kind = .duplicateIdentity)
      (ensureIdentityIsAvailable s telegramId googleId email) := by
    cases telegramId <;> cases googleId <;> cases email <;>
      simp only [ensureIdentityIsAvailable]
    all_goals
      repeat' first
        | exact hholder _ _
        | exact failsOnly_ok _
        | refine FailsOnly.bind ?_ fun _ _ => ?_
  intro failure h
  refine ⟨hkind failure h, fun havailable => ?_⟩
  rw [ensureIdentityIsAvailable_of_available havailable] at h
  cases h

structure Upgradable (identity : UpgradeIdentity) : Prop where
  positive : identity.telegramId ≠ some 0
  any : identity.telegramId.isSome ∨ identity.googleId.isSome ∨ identity.email.isSome
  verified : identity.email = none → identity.emailVerifiedAt = none
  password : identity.email = none → identity.passwordHash = none

theorem failsOnly_lockRequiredUser (s : AccountTables) (userId : Uuid) :
    FailsOnly (fun failure => failure.kind = .userNotFound ∧ s.account userId = none)
      (lockRequiredUser s userId) := by
  intro failure h
  unfold lockRequiredUser at h
  split at h
  · cases h
  next hnone =>
  cases h
  exact ⟨rfl, hnone⟩

theorem failsOnly_upgradeGuestInPlace {identity : UpgradeIdentity} (h : Upgradable identity)
    (now : Time) :
    FailsOnly (fun failure => IsConflict failure ∨
      failure.kind = .userNotFound ∧ s.account guestUserId = none ∨
      failure.kind = .duplicateIdentity ∧
        ¬ Available s identity.telegramId identity.googleId identity.email)
      (upgradeGuestInPlace s guestUserId identity now) := by
  refine FailsOnly.bind (fun failure hf => .inr (.inl (failsOnly_lockRequiredUser s _ failure hf)))
    fun guest hguest => ?_
  have hlocked := lockRequiredUser_ok.mp hguest
  obtain ⟨-, hid⟩ := account_eq_some hlocked
  refine FailsOnly.bind (fun failure hf => .inl (failsOnly_ensureGuestCanLink _ failure hf))
    fun _ hcan => ?_
  have hlink := ensureGuestCanLink_ok.mp hcan
  refine FailsOnly.bind
    (fun failure hf => .inl (failsOnly_requireGuestHasNoCustomCollections _ _ failure hf))
    fun _ _ => ?_
  refine FailsOnly.guard (fun hzero => absurd hzero h.positive) fun _ => ?_
  refine FailsOnly.guard (fun hnone => ?_) fun _ => ?_
  · have hany := h.any
    simp [hnone.1, hnone.2.1, hnone.2.2] at hany
  refine FailsOnly.guard (fun hverified => ?_) fun _ => ?_
  · simp [h.verified hverified.1] at hverified
  refine FailsOnly.guard (fun hpassword => ?_) fun _ => ?_
  · simp [h.password hpassword.1] at hpassword
  rw [hid]
  refine FailsOnly.bind (fun failure hf => .inr (.inl (failsOnly_lockRequiredUser s _ failure hf)))
    fun user huser => ?_
  have hsame : user = guest := Option.some.inj ((lockRequiredUser_ok.mp huser).symm.trans hlocked)
  subst hsame
  refine FailsOnly.guard (fun hfull => absurd hlink.accountType_eq hfull) fun _ => ?_
  refine FailsOnly.guard (fun hother => by simp [hlink.telegramId_eq] at hother) fun _ => ?_
  refine FailsOnly.guard (fun hother => by simp [hlink.googleId_eq] at hother) fun _ => ?_
  refine FailsOnly.guard (fun hother => by simp [hlink.email_eq] at hother) fun _ => ?_
  refine FailsOnly.guard (fun hother => by simp [hlink.passwordHash_eq] at hother) fun _ => ?_
  rw [if_pos hlink.telegramId_eq, if_pos hlink.googleId_eq, if_pos hlink.email_eq]
  exact FailsOnly.bind
    (fun failure hf => .inr (.inr (failsOnly_ensureIdentityIsAvailable _ _ _ failure hf)))
    fun _ _ => failsOnly_ok _

theorem exists_user {library : Library} {userId : Uuid}
    (h : userId ∈ library.users.map User.id) : ∃ user, library.user userId = some user := by
  obtain ⟨user, huser, hid⟩ := List.mem_map.mp h
  cases hfound : library.user userId with
  | some found => exact ⟨found, rfl⟩
  | none =>
    have habsent := List.find?_eq_none.mp hfound user huser
    simp [hid] at habsent

theorem attachMergedIdentity_ok {google : Option GoogleIdentity} {now : Time} {t : AccountTables}
    (h : attachMergedIdentity s targetUserId now google = .ok t) :
    t.content = s.content ∧ t.accounts.map Account.id = s.accounts.map Account.id := by
  cases google with
  | none =>
    cases h
    exact ⟨rfl, rfl⟩
  | some identity =>
    simp only [attachMergedIdentity, attachGoogleSubject, bind_eq_ok, guard_eq_ok] at h
    obtain ⟨user, -, -, h⟩ := h
    have hupdated : t = s.updateAccount targetUserId fun row =>
        { row with
          googleId := some identity.googleId
          emailVerifiedAt := identity.emailVerifiedAt <|> row.emailVerifiedAt
          updatedAt := now } := by
      split at h
      · obtain ⟨_, -, h⟩ := bind_eq_ok.mp h
        exact (pure_eq_ok.mp h).symm
      · exact (pure_eq_ok.mp h).symm
    subst hupdated
    refine ⟨rfl, ?_⟩
    rw [AccountTables.updateAccount, List.map_map]
    refine List.map_congr_left fun row _ => ?_
    simp only [Function.comp_apply]
    split <;> rfl

theorem map_id_toUser (accounts : List Account) :
    (accounts.map Account.toUser).map User.id = accounts.map Account.id := by
  rw [List.map_map]
  rfl

def AttachConflict (s : AccountTables) (target : Account) (identity : GoogleIdentity) : Prop :=
  target.googleId = none ∧ s.getByGoogleId identity.googleId ≠ none ∨
    ∃ googleId, target.googleId = some googleId ∧ googleId ≠ identity.googleId

theorem failsOnly_attachMergedIdentity {target : Account}
    (htarget : s.account targetUserId = some target) (now : Time)
    (google : Option GoogleIdentity) :
    FailsOnly (fun failure => failure.kind = .duplicateIdentity ∧
      ∃ identity ∈ google, AttachConflict s target identity)
      (attachMergedIdentity s targetUserId now google) := by
  cases google with
  | none => exact failsOnly_ok _
  | some identity =>
    have hlocked : lockRequiredUser s targetUserId = .ok target := lockRequiredUser_ok.mpr htarget
    refine FailsOnly.bind (fun failure hf => ?_) fun user huser => ?_
    · rw [hlocked] at hf
      cases hf
    have hsame : target = user := Except.ok.inj (hlocked.symm.trans huser)
    subst hsame
    refine FailsOnly.guard (fun hother => ⟨rfl, identity, rfl, .inr ?_⟩) fun _ => ?_
    · obtain ⟨googleId, hgoogle⟩ := Option.isSome_iff_exists.mp hother.1
      exact ⟨googleId, hgoogle, fun heq => hother.2 (hgoogle.trans (congrArg some heq))⟩
    split
    · next hnone =>
      refine FailsOnly.bind (fun failure hf => ?_) fun _ _ => failsOnly_ok _
      obtain ⟨hkind, htaken⟩ := failsOnly_ensureIdentityIsAvailable _ _ _ failure hf
      refine ⟨hkind, identity, rfl, .inl ⟨hnone, fun hfree => htaken ?_⟩⟩
      exact ⟨fun _ h => (by cases h), fun _ h => (by cases h; exact hfree),
        fun _ h => (by cases h)⟩
    · exact failsOnly_ok _

/-- A merge finds no guest, one that may not link, a target that may not take it, or an
identity that is taken. -/
theorem failsOnly_mergeGuestIntoFull (hs : s.library.Constraints) {target : Account}
    (htarget : s.account targetUserId = some target) (google : Option GoogleIdentity)
    {ids : MergeIds} (hfresh : FreshCollection s.content ids.favoritesId) (now : Time) :
    FailsOnly (fun failure => IsConflict failure ∨
      failure.kind = .userNotFound ∧ s.account guestUserId = none ∨
      failure.kind = .duplicateIdentity ∧ ∃ identity ∈ google, AttachConflict s target identity)
      (mergeGuestIntoFull s guestUserId targetUserId google ids now) := by
  refine FailsOnly.guard (fun _ => .inl (List.mem_cons_of_mem _ List.mem_cons_self)) fun hne => ?_
  refine FailsOnly.bind (fun failure hf => .inr (.inl (failsOnly_lockRequiredUser s _ failure hf)))
    fun guest hguest => ?_
  obtain ⟨-, hguestId⟩ := account_eq_some (lockRequiredUser_ok.mp hguest)
  refine FailsOnly.bind (fun failure hf => ?_) fun found hfound => ?_
  · rw [lockRequiredUser_ok.mpr htarget] at hf
    cases hf
  have hsame : target = found :=
    Option.some.inj (htarget.symm.trans (lockRequiredUser_ok.mp hfound))
  subst hsame
  obtain ⟨htargetMem, htargetId⟩ := account_eq_some htarget
  refine FailsOnly.bind (fun failure hf => .inl (failsOnly_ensureGuestCanLink _ failure hf))
    fun _ _ => ?_
  refine FailsOnly.bind (fun failure hf => .inl (failsOnly_ensureCanonicalTarget _ failure hf))
    fun _ _ => ?_
  refine FailsOnly.bind
    (fun failure hf => .inl (failsOnly_requireGuestHasNoCustomCollections _ _ failure hf))
    fun favorites hfavorites => ?_
  rw [htargetId]
  refine FailsOnly.bind
    (fun failure hf => .inr (.inr (failsOnly_attachMergedIdentity htarget now google failure hf)))
    fun attached hattached => ?_
  obtain ⟨hcontent, hids⟩ := attachMergedIdentity_ok hattached
  have hlibrary : attached.library =
      { s.library with users := attached.accounts.map Account.toUser } := by
    rw [AccountTables.library, AccountTables.library, hcontent]
  have hcommits : attached.library.Constraints := by
    rw [hlibrary]
    refine constraints_withUsers hs ?_
    rw [map_id_toUser, hids, ← map_id_toUser]
    rfl
  obtain ⟨user, huser⟩ : ∃ user, attached.library.user target.id = some user := by
    refine exists_user ?_
    rw [AccountTables.library, map_id_toUser, hids]
    exact List.mem_map_of_mem htargetMem
  have hguestOk : requireGuestHasNoCustomCollections attached.library guest.toUser =
      .ok favorites := by
    rw [← hfavorites, hlibrary]
    rfl
  have htargetNe : target.toUser.id ≠ guest.toUser.id := by
    intro heq
    exact hne (hguestId.symm.trans (heq.symm.trans htargetId))
  have hfreshLibrary : FreshCollection attached.library ids.favoritesId := by
    rw [hlibrary]
    exact hfresh
  obtain ⟨handedOver, hhanded, hdeleted⟩ :=
    handOverFavorites_succeeds hcommits hguestOk huser htargetNe hfreshLibrary
  refine FailsOnly.bind (fun failure hf => ?_) fun library hlibraryOk => ?_
  · rw [hhanded] at hf
    cases hf
  have hsame : handedOver = library := Except.ok.inj (hhanded.symm.trans hlibraryOk)
  subst hsame
  refine FailsOnly.bind (fun failure hf => ?_) fun _ _ => failsOnly_ok _
  have hcommitted : (deleteUser handedOver guest.id).commit "Failed to merge the guest." =
      .ok (deleteUser handedOver guest.id) := Library.commit_eq_ok.mpr ⟨hdeleted, rfl⟩
  rw [hcommitted] at hf
  cases hf

end Failures

end MemeExpert.Services
