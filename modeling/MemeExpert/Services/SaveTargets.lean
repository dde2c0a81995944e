import MemeExpert.Services.CollectionInvites
import MemeExpert.Services.LibraryRuns

/-! A user's active collection is a pointer on the user; the right to save into it is a row
of the members. -/

namespace MemeExpert.Services

open Ingest Results Runs

inductive SaveTargetLabel where
  | library (label : LibraryLabel)
  | updateMemberRole (collectionId actingUserId memberUserId : Uuid)
      (role : CollectionMembershipRole)
  | removeMember (collectionId actingUserId memberUserId : Uuid)
  | joinInvite (invite : CollectionInvite) (userId : Uuid)

def runSaveTarget (s : Library) : SaveTargetLabel → Except ServiceError Library
  | .library label => runLibrary s label
  | .updateMemberRole collectionId actingUserId memberUserId role =>
    updateMemberRole s collectionId actingUserId memberUserId role
  | .removeMember collectionId actingUserId memberUserId =>
    (removeMember s collectionId actingUserId memberUserId).map Prod.fst
  | .joinInvite invite userId => insertMember s invite userId

def saveTargetStep (s : Library) (label : SaveTargetLabel) : Option Library :=
  (runSaveTarget s label).toOption

def WritesTo (s : Library) (userId collectionId : Uuid) : Prop :=
  ∃ collection ∈ s.collections, collection.id = collectionId ∧
    userCanWriteCollection s userId collection = true

def ActiveWritable (s : Library) : Prop :=
  ∀ user ∈ s.users, ∀ collectionId, user.activeSaveCollectionId = some collectionId →
    WritesTo s user.id collectionId

def isActiveFor (s : Library) (collectionId userId : Uuid) : Bool :=
  s.users.any fun user => user.id = userId ∧ user.activeSaveCollectionId = some collectionId

def keepsSaveTarget (s : Library) : SaveTargetLabel → Bool
  | .updateMemberRole collectionId _ memberUserId role =>
    role ≠ .viewer || !isActiveFor s collectionId memberUserId
  | .library (.ensureMember collectionId userId role) =>
    role ≠ .viewer || !isActiveFor s collectionId userId ||
      (s.collection collectionId).any fun collection => collection.ownerId = userId
  | _ => true

section Pointers

variable {s t : Library}

theorem userCanWriteCollection_iff {userId : Uuid} {collection : Collection} :
    userCanWriteCollection s userId collection = true ↔ collection.ownerId = userId ∨
      ∃ member ∈ s.members, member.collectionId = collection.id ∧ member.userId = userId ∧
        member.role ≠ .viewer := by
  simp only [userCanWriteCollection, Bool.or_eq_true, decide_eq_true_eq, List.any_eq_true,
    Bool.and_eq_true, and_assoc]
  constructor
  · rintro (howner | ⟨member, hmember, hcollection, huser, hrole⟩)
    · exact .inl howner
    · exact .inr ⟨member, hmember, hcollection, huser, by rcases hrole with h | h <;> simp [h]⟩
  rintro (howner | ⟨member, hmember, hcollection, huser, hrole⟩)
  · exact .inl howner
  · refine .inr ⟨member, hmember, hcollection, huser, ?_⟩
    cases h : member.role <;> simp_all

theorem isActiveFor_iff {collectionId userId : Uuid} : isActiveFor s collectionId userId = true ↔
    ∃ user ∈ s.users, user.id = userId ∧ user.activeSaveCollectionId = some collectionId := by
  simp [isActiveFor]

theorem WritesTo.mono {userId collectionId : Uuid} (h : WritesTo s userId collectionId)
    (hcollections : ∀ collection ∈ s.collections, collection.id = collectionId →
      collection ∈ t.collections)
    (hmembers : ∀ member ∈ s.members, member.collectionId = collectionId → member.userId = userId →
      member.role ≠ .viewer → ∃ kept ∈ t.members, kept.collectionId = collectionId ∧
        kept.userId = userId ∧ kept.role ≠ .viewer) : WritesTo t userId collectionId := by
  obtain ⟨collection, hcollection, hid, hwrite⟩ := h
  refine ⟨collection, hcollections collection hcollection hid, hid, ?_⟩
  rw [userCanWriteCollection_iff] at hwrite ⊢
  rcases hwrite with howner | ⟨member, hmember, hin, huser, hrole⟩
  · exact .inl howner
  · rw [hid] at hin ⊢
    exact .inr (hmembers member hmember hin huser hrole)

theorem ActiveWritable.mono (h : ActiveWritable s)
    (hpointers : ∀ user ∈ t.users, ∀ collectionId, user.activeSaveCollectionId = some collectionId →
      ∃ before ∈ s.users, before.id = user.id ∧ before.activeSaveCollectionId = some collectionId)
    (hwrites : ∀ user ∈ t.users, ∀ collectionId, user.activeSaveCollectionId = some collectionId →
      WritesTo s user.id collectionId → WritesTo t user.id collectionId) : ActiveWritable t := by
  intro user huser collectionId hactive
  obtain ⟨before, hbefore, hid, hpointer⟩ := hpointers user huser collectionId hactive
  have hwritable := h before hbefore collectionId hpointer
  rw [hid] at hwritable
  exact hwrites user huser collectionId hactive hwritable

structure KeepsAccess (s t : Library) : Prop where
  users : t.users = s.users
  collections : t.collections = s.collections
  members : t.members = s.members

theorem KeepsAccess.refl (s : Library) : KeepsAccess s s := ⟨rfl, rfl, rfl⟩

theorem ActiveWritable.keep (h : ActiveWritable s) (hkeep : KeepsAccess s t) : ActiveWritable t := by
  intro user huser collectionId hactive
  rw [hkeep.users] at huser
  obtain ⟨collection, hcollection, hid, hwrite⟩ := h user huser collectionId hactive
  refine ⟨collection, by rw [hkeep.collections]; exact hcollection, hid, ?_⟩
  rw [userCanWriteCollection_iff] at hwrite ⊢
  rw [hkeep.members]
  exact hwrite

theorem mem_map_pointer {users : List User} {update : User → User} {user : User}
    (hupdate : ∀ row, (update row).id = row.id ∧
      ((update row).activeSaveCollectionId = none ∨
        (update row).activeSaveCollectionId = row.activeSaveCollectionId))
    (huser : user ∈ users.map update) {collectionId : Uuid}
    (hactive : user.activeSaveCollectionId = some collectionId) :
    ∃ before ∈ users, before.id = user.id ∧
      before.activeSaveCollectionId = some collectionId := by
  obtain ⟨row, hrow, rfl⟩ := List.mem_map.mp huser
  obtain ⟨hid, hnone | hsame⟩ := hupdate row
  · rw [hnone] at hactive
    cases hactive
  · exact ⟨row, hrow, hid.symm, hsame ▸ hactive⟩

theorem keepsAccess_insertAndCount (row : CollectionMeme) (kind : CollectionKind) :
    KeepsAccess s (insertAndCount s row kind).1 := by
  unfold insertAndCount insertCollectionMeme
  dsimp only
  split <;> split <;> exact ⟨rfl, rfl, rfl⟩

theorem keepsAccess_removeAndCount (collection : Collection) (memeId : Uuid) :
    KeepsAccess s (removeAndCount s collection memeId) := by
  unfold removeAndCount
  dsimp only
  split <;> exact ⟨rfl, rfl, rfl⟩

theorem RemovesFrom.keepsAccess {collection : Collection} {memeId : Uuid}
    (h : RemovesFrom s t collection memeId) : KeepsAccess s t := by
  rcases h with ⟨-, rfl⟩ | ⟨-, -, -, rfl⟩
  · exact .refl t
  · exact keepsAccess_removeAndCount collection memeId

theorem keepsAccess_withTargetSave (uploaderUserId : Option Uuid) (target : Option Collection)
    (memeId : Uuid) (now : Time) :
    KeepsAccess s (withTargetSave s uploaderUserId target memeId now) := by
  cases target with
  | none => exact .refl s
  | some collection =>
    unfold withTargetSave insertCollectionMeme
    dsimp only
    split <;> exact ⟨rfl, rfl, rfl⟩

theorem keepsAccess_applyMerge (sourceMemeId targetMemeId : Uuid) (isPublic : Bool) :
    KeepsAccess s (applyMerge s sourceMemeId targetMemeId isPublic) := by
  unfold applyMerge accumulateLikeCount
  dsimp only
  split <;> exact ⟨rfl, rfl, rfl⟩

theorem keepsAccess_reconcileSha {sha256Hex : String} {files : List Uuid} {isPublic : Bool}
    (h : reconcileSha s sha256Hex files isPublic = .ok t) : KeepsAccess s t := by
  obtain ⟨canonical, obsolete, -, ⟨-, rfl⟩ | ⟨-, rfl⟩⟩ := reconcileSha_ok h
  · exact .refl t
  · rw [transferObsolete_eq]
    exact ⟨rfl, rfl, rfl⟩

section Kept

variable (h : ActiveWritable s)

include h

theorem ActiveWritable.withFavorites (user : User) (newId : Uuid) :
    ActiveWritable (withFavorites s user newId) := by
  intro row hrow collectionId hactive
  obtain ⟨before, hbefore, rfl⟩ := List.mem_map.mp hrow
  split at hactive
  · next hnew =>
    cases hactive
    refine ⟨_, List.mem_append_right _ (List.mem_singleton.mpr rfl), rfl, ?_⟩
    rw [userCanWriteCollection_iff, if_pos hnew]
    exact .inl hnew.1.symm
  next hold =>
  rw [if_neg hold]
  refine (h before hbefore collectionId hactive).mono ?_ ?_
  · intro collection hcollection _
    exact List.mem_append_left _ hcollection
  · intro member hmember hin huser hrole
    exact ⟨member, List.mem_append_left _ hmember, hin, huser, hrole⟩

theorem ActiveWritable.ensureFavorites {userId newId : Uuid}
    {r : Library × Collection} (hensured : ensureFavoritesCollection s userId newId = .ok r) :
    ActiveWritable r.1 := by
  rcases ensureFavoritesCollection_ok hensured with ⟨heq, -⟩ | ⟨-, -, user, -, heq, -⟩
  · exact heq ▸ h
  · exact heq ▸ h.withFavorites user newId

theorem ActiveWritable.savesInto (hsaves : SavesInto s t) : ActiveWritable t := by
  obtain ⟨ensured, collection, row, hensured, -, -, -, rfl⟩ := hsaves
  have hbefore : ActiveWritable ensured := by
    rcases hensured with rfl | ⟨userId, newId, favorites, hfavorites⟩
    · exact h
    · exact h.ensureFavorites hfavorites
  exact hbefore.keep (keepsAccess_insertAndCount row collection.kind)

theorem ActiveWritable.deleteCollection (collectionId : Uuid) :
    ActiveWritable (deleteCollection s collectionId) := by
  have hupdate : ∀ row : User,
      (if row.activeSaveCollectionId = some collectionId then
        { row with activeSaveCollectionId := none } else row).id = row.id ∧
      ((if row.activeSaveCollectionId = some collectionId then
          { row with activeSaveCollectionId := none } else row).activeSaveCollectionId = none ∨
        (if row.activeSaveCollectionId = some collectionId then
          { row with activeSaveCollectionId := none } else row).activeSaveCollectionId =
            row.activeSaveCollectionId) := by
    intro row
    split
    · exact ⟨rfl, .inl rfl⟩
    · exact ⟨rfl, .inr rfl⟩
  refine h.mono (fun user huser other hactive => mem_map_pointer hupdate huser hactive) ?_
  intro user huser other hactive hwrites
  have hne : other ≠ collectionId := by
    rintro rfl
    obtain ⟨row, -, rfl⟩ := List.mem_map.mp huser
    split at hactive
    · cases hactive
    · next hother => exact hother hactive
  refine hwrites.mono ?_ ?_
  · intro collection hcollection hid
    exact List.mem_filter.mpr ⟨hcollection, by simpa [hid] using hne⟩
  · intro member hmember hin huser' hrole
    exact ⟨member, List.mem_filter.mpr ⟨hmember, by simpa [hin] using hne⟩, hin, huser', hrole⟩

theorem ActiveWritable.attachGoogleIdentity (userId : Uuid)
    (googleId : Option String) : ActiveWritable (attachGoogleIdentity s userId googleId) := by
  refine h.mono (fun user huser other hactive => mem_map_pointer ?_ huser hactive)
    fun user _ other _ hwrites => hwrites
  intro row
  split <;> exact ⟨rfl, .inr rfl⟩

theorem ActiveWritable.deleteUser (userId : Uuid) : ActiveWritable (deleteUser s userId) := by
  refine h.mono ?_ ?_
  · intro user huser collectionId hactive
    exact ⟨user, (List.mem_filter.mp huser).1, rfl, hactive⟩
  intro user huser collectionId _ hwrites
  have hne : user.id ≠ userId := by simpa using (List.mem_filter.mp huser).2
  refine hwrites.mono (fun collection hcollection _ => hcollection) ?_
  intro member hmember hin hof hrole
  exact ⟨member, List.mem_filter.mpr ⟨hmember, by simpa [hof] using hne⟩, hin, hof, hrole⟩

theorem ActiveWritable.transferFavorites
    (guestFavorites targetFavorites : Collection) (target : User) :
    ActiveWritable (transferFavorites s guestFavorites targetFavorites target) :=
  h.keep ⟨rfl, rfl, rfl⟩

theorem ActiveWritable.mergeGuest {guestUserId targetUserId newId : Uuid} {googleId : Option String}
    (hmerge : mergeGuestIntoExistingFull s guestUserId targetUserId newId googleId = .ok t) :
    ActiveWritable t := by
  obtain ⟨-, -, target, handedOver, -, hhanded, rfl⟩ := mergeGuestIntoExistingFull_ok hmerge
  have hattached := h.attachGoogleIdentity targetUserId googleId
  refine ActiveWritable.deleteUser ?_ guestUserId
  rcases handOverFavorites_ok hhanded with ⟨-, rfl⟩ | ⟨favorites, -, -, rfl⟩ |
    ⟨favorites, ensured, targetFavorites, -, hensured, rfl⟩
  · exact hattached
  · exact hattached.deleteCollection favorites.id
  · exact ((hattached.ensureFavorites hensured).transferFavorites favorites targetFavorites
      target).deleteCollection favorites.id

theorem ActiveWritable.upgradeGuest {userId : Uuid}
    {telegramId : Option Nat} {googleId email : Option String}
    (hupgrade : upgradeGuest s userId telegramId googleId email = .ok t) : ActiveWritable t := by
  simp only [Services.upgradeGuest, bind_eq_ok, Library.commit_eq_ok] at hupgrade
  obtain ⟨user, -, -, -, -, -, -, rfl⟩ := hupgrade
  refine h.mono (fun user huser other hactive => mem_map_pointer ?_ huser hactive)
    fun user _ other _ hwrites => hwrites
  intro row
  split <;> exact ⟨rfl, .inr rfl⟩

theorem ActiveWritable.createGuest {userId : Uuid}
    (hcreate : createGuest s userId = .ok t) : ActiveWritable t := by
  obtain ⟨-, rfl⟩ := Library.commit_eq_ok.mp hcreate
  intro user huser collectionId hactive
  rcases List.mem_append.mp huser with hold | hnew
  · exact h user hold collectionId hactive
  · rw [List.mem_singleton.mp hnew] at hactive
    cases hactive

theorem ActiveWritable.grow (husers : t.users = s.users)
    (hcollections : ∀ collection ∈ s.collections, collection ∈ t.collections)
    (hmembers : ∀ member ∈ s.members, member ∈ t.members) : ActiveWritable t := by
  refine h.mono (fun user huser other hactive => ⟨user, husers ▸ huser, rfl, hactive⟩) ?_
  intro user _ collectionId _ hwrites
  refine hwrites.mono (fun collection hcollection _ => hcollections collection hcollection) ?_
  intro member hmember hin hof hrole
  exact ⟨member, hmembers member hmember, hin, hof, hrole⟩

theorem ActiveWritable.createCustomCollection {ownerUserId newId : Uuid}
    (hcreate : createCustomCollection s ownerUserId newId = .ok t) : ActiveWritable t := by
  simp only [Services.createCustomCollection, bind_eq_ok, guard_eq_ok, Library.commit_eq_ok] at hcreate
  obtain ⟨owner, -, -, -, rfl⟩ := hcreate
  exact h.grow rfl (fun _ hmem => List.mem_append_left _ hmem)
    fun _ hmem => List.mem_append_left _ hmem

theorem ActiveWritable.insertMember {invite : CollectionInvite}
    {userId : Uuid} (hinsert : insertMember s invite userId = .ok t) : ActiveWritable t := by
  obtain ⟨-, rfl⟩ := Library.commit_eq_ok.mp hinsert
  exact h.grow rfl (fun _ hmem => hmem) fun _ hmem => List.mem_append_left _ hmem

theorem ActiveWritable.updateActive {userId collectionId : Uuid}
    (hupdate : updateActiveSaveCollection s userId collectionId = .ok t) : ActiveWritable t := by
  simp only [updateActiveSaveCollection, bind_eq_ok, getUser_ok, getCollection_ok,
    Library.commit_eq_ok] at hupdate
  obtain ⟨user, huser, collection, hcollection, _, hallowed, -, rfl⟩ := hupdate
  have hwrite : userCanWriteCollection s user.id collection = true := by
    unfold ensureCanWriteCollection at hallowed
    dsimp only at hallowed
    split at hallowed
    · cases hallowed
    split at hallowed
    · next hwrite => exact hwrite
    · cases hallowed
  intro row hrow other hactive
  obtain ⟨before, hbefore, rfl⟩ := List.mem_map.mp hrow
  split at hactive
  · next hself =>
    cases hactive
    rw [if_pos hself]
    exact ⟨collection, (collection_eq_some hcollection).1, rfl, hself ▸ hwrite⟩
  · next hother =>
    rw [if_neg hother]
    exact h before hbefore other hactive

theorem ActiveWritable.deleteCustom {collectionId userId : Uuid}
    (hdelete : deleteCustomCollection s collectionId userId = .ok t) : ActiveWritable t := by
  simp only [deleteCustomCollection, bind_eq_ok, Library.commit_eq_ok] at hdelete
  obtain ⟨found, hfound, _, -, -, rfl⟩ := hdelete
  refine ActiveWritable.deleteCollection ?_ _
  refine h.mono (fun user huser other hactive => mem_map_pointer ?_ huser hactive)
    fun user _ other _ hwrites => hwrites
  intro row
  split
  · exact ⟨rfl, .inl rfl⟩
  · exact ⟨rfl, .inr rfl⟩

end Kept

variable {collectionId userId : Uuid} {role : CollectionMembershipRole}

/-- What changes when one user gets a role in a collection: the rows of the pair carry the new
role, and every other row is there as before. -/
structure SetsRole (s t : Library) (collectionId userId : Uuid) (role : CollectionMembershipRole) :
    Prop where
  users : t.users = s.users
  collections : t.collections = s.collections
  present : ∃ member ∈ t.members, member.collectionId = collectionId ∧ member.userId = userId
  rows : ∀ member ∈ t.members, member.collectionId = collectionId → member.userId = userId →
    member.role = role
  others : ∀ member ∈ s.members, ¬ (member.collectionId = collectionId ∧ member.userId = userId) →
    member ∈ t.members

theorem SetsRole.keepsWritable (h : SetsRole s t collectionId userId role)
    (hs : ActiveWritable s) (hkeeps : role ≠ .viewer ∨ isActiveFor s collectionId userId = false ∨
      ∃ collection ∈ s.collections, collection.id = collectionId ∧ collection.ownerId = userId) :
    ActiveWritable t := by
  intro user huser other hactive
  rw [h.users] at huser
  by_cases hpair : other = collectionId ∧ user.id = userId
  · obtain ⟨rfl, rfl⟩ := hpair
    rcases hkeeps with hrole | hinactive | ⟨collection, hcollection, hid, howner⟩
    · obtain ⟨collection, hcollection, hid, -⟩ := hs user huser other hactive
      refine ⟨collection, by rw [h.collections]; exact hcollection, hid, ?_⟩
      rw [userCanWriteCollection_iff]
      obtain ⟨member, hmember, hin, hof⟩ := h.present
      refine .inr ⟨member, hmember, hid ▸ hin, hof, ?_⟩
      rw [h.rows member hmember hin hof]
      exact hrole
    · have hpointer : isActiveFor s other user.id = true :=
        isActiveFor_iff.mpr ⟨user, huser, rfl, hactive⟩
      rw [hinactive] at hpointer
      cases hpointer
    · refine ⟨collection, by rw [h.collections]; exact hcollection, hid, ?_⟩
      rw [userCanWriteCollection_iff]
      exact .inl howner
  · refine (hs user huser other hactive).mono ?_ ?_
    · intro collection hcollection _
      rw [h.collections]
      exact hcollection
    · intro member hmember hin hof hrole
      exact ⟨member, h.others member hmember (by rw [hin, hof]; exact hpair), hin, hof, hrole⟩

theorem SetsRole.not_activeWritable (h : SetsRole s t collectionId userId .viewer)
    (hactive : isActiveFor s collectionId userId = true)
    (howner : ∀ collection ∈ s.collections, collection.id = collectionId →
      collection.ownerId ≠ userId) : ¬ ActiveWritable t := by
  intro ht
  obtain ⟨user, huser, rfl, hpointer⟩ := isActiveFor_iff.mp hactive
  obtain ⟨collection, hcollection, hid, hwrite⟩ := ht user (h.users ▸ huser) collectionId hpointer
  rw [h.collections] at hcollection
  rw [userCanWriteCollection_iff] at hwrite
  rcases hwrite with hown | ⟨member, hmember, hin, hof, hrole⟩
  · exact howner collection hcollection hid hown
  · exact hrole (h.rows member hmember (hin.trans hid) hof)

theorem memberOf_eq_some {member : CollectionMember}
    (h : memberOf s collectionId userId = some member) :
    member ∈ s.members ∧ member.collectionId = collectionId ∧ member.userId = userId :=
  ⟨List.mem_of_find?_eq_some h, by simpa using List.find?_some h⟩

theorem updateMemberRole_ok {actingUserId : Uuid}
    (h : updateMemberRole s collectionId actingUserId userId role = .ok t) :
    t.Constraints ∧ SetsRole s t collectionId userId role ∧
      ∃ collection ∈ s.collections, collection.id = collectionId ∧ collection.ownerId ≠ userId := by
  simp only [updateMemberRole, bind_eq_ok, guard_eq_ok] at h
  obtain ⟨⟨actor, collection⟩, hfound, _, -, -, howner, h⟩ := h
  obtain ⟨hcollection, rfl⟩ := collection_eq_some (getCollectionForRead_ok hfound).2
  split at h
  · exact (throw_ne_ok h).elim
  next membership hmembership =>
  obtain ⟨hmember, hin, hof⟩ := memberOf_eq_some hmembership
  simp only [guard_eq_ok, Library.commit_eq_ok] at h
  obtain ⟨-, ht, rfl⟩ := h
  refine ⟨ht, ⟨rfl, rfl, ?_, ?_, ?_⟩, collection, hcollection, rfl, howner⟩
  · refine ⟨_, List.mem_map.mpr ⟨membership, hmember, rfl⟩, ?_⟩
    rw [if_pos ⟨hin, hof⟩]
    exact ⟨hin, hof⟩
  · intro member hmember hin hof
    obtain ⟨before, -, rfl⟩ := List.mem_map.mp hmember
    split at hin
    · next hpair => rw [if_pos hpair]
    next hpair =>
    rw [if_neg hpair] at hof
    exact absurd ⟨hin, hof⟩ hpair
  · intro member hmember hpair
    exact List.mem_map.mpr ⟨member, hmember, if_neg hpair⟩

theorem ensureMember_setsRole (h : ensureMember s collectionId userId role = .ok t) :
    t.Constraints ∧ ∃ collection, s.collection collectionId = some collection ∧
      SetsRole s t collectionId userId (if collection.ownerId = userId then .owner else role) := by
  simp only [ensureMember, bind_eq_ok, guard_eq_ok, getCollection_ok, getUser_ok,
    Library.commit_eq_ok] at h
  obtain ⟨collection, hcollection, user, huser, -, ht, rfl⟩ := h
  obtain ⟨-, rfl⟩ := collection_eq_some hcollection
  obtain ⟨-, rfl⟩ := user_eq_some huser
  refine ⟨ht, collection, hcollection, ⟨rfl, rfl, ?_, ?_, ?_⟩⟩
  · exact ⟨_, List.mem_append_right _ (List.mem_singleton.mpr rfl), rfl, rfl⟩
  · intro member hmember hin hof
    rcases List.mem_append.mp hmember with hold | hnew
    · have hother := (List.mem_filter.mp hold).2
      simp [hin, hof] at hother
    · rw [List.mem_singleton.mp hnew]
  · intro member hmember hpair
    exact List.mem_append_left _ (List.mem_filter.mpr ⟨hmember, decide_eq_true hpair⟩)

theorem ActiveWritable.removeMember (h : ActiveWritable s) {actingUserId memberUserId : Uuid}
    {r : Library × Bool} (hremove : removeMember s collectionId actingUserId memberUserId = .ok r) :
    ActiveWritable r.1 := by
  simp only [Services.removeMember, bind_eq_ok, guard_eq_ok] at hremove
  obtain ⟨⟨actor, collection⟩, -, _, -, -, hremove⟩ := hremove
  split at hremove
  · cases hremove
    exact h
  simp only [guard_eq_ok, bind_eq_ok, Library.commit_eq_ok] at hremove
  obtain ⟨-, t, ⟨-, rfl⟩, hremove⟩ := hremove
  cases hremove
  refine h.mono (fun user huser other hactive => mem_map_pointer ?_ huser hactive) ?_
  · intro row
    split
    · exact ⟨rfl, .inl rfl⟩
    · exact ⟨rfl, .inr rfl⟩
  intro user huser other hactive hwrites
  obtain ⟨row, -, rfl⟩ := List.mem_map.mp huser
  refine hwrites.mono (fun collection hcollection _ => hcollection) ?_
  intro member hmember hin hof hrole
  refine ⟨member, List.mem_filter.mpr ⟨hmember, ?_⟩, hin, hof, hrole⟩
  rw [hin, hof]
  split at hactive
  · cases hactive
  next hkept =>
  rw [if_neg hkept, decide_eq_true_eq]
  rintro ⟨rfl, hself⟩
  exact hkept ⟨hself, hactive⟩

theorem constraints_runSaveTarget {label : SaveTargetLabel} (hs : s.Constraints)
    (h : runSaveTarget s label = .ok t) : t.Constraints := by
  cases label with
  | library label => exact constraints_runLibrary hs h
  | updateMemberRole collectionId actingUserId memberUserId role => exact (updateMemberRole_ok h).1
  | removeMember collectionId actingUserId memberUserId =>
    obtain ⟨r, hr, rfl⟩ := map_eq_ok.mp h
    simp only [Services.removeMember, bind_eq_ok, guard_eq_ok] at hr
    obtain ⟨⟨actor, collection⟩, -, _, -, -, hr⟩ := hr
    split at hr
    · cases hr
      exact hs
    simp only [guard_eq_ok, bind_eq_ok, Library.commit_eq_ok] at hr
    obtain ⟨-, t, ⟨ht, rfl⟩, hr⟩ := hr
    cases hr
    exact ht
  | joinInvite invite userId => exact (Library.commit_eq_ok.mp h).1

theorem collection_eq_of_mem (hs : s.Constraints) {collection other : Collection}
    (hcollection : collection ∈ s.collections) (hother : other ∈ s.collections)
    (hid : other.id = collection.id) : other = collection :=
  List.inj_on_of_nodup_map hs.collections_unique hother hcollection hid

theorem ActiveWritable.library (h : ActiveWritable s) {label : LibraryLabel}
    (hrun : runLibrary s label = .ok t) (hkeeps : keepsSaveTarget s (.library label) = true) :
    ActiveWritable t := by
  cases label with
  | createGuest userId => exact h.createGuest hrun
  | upgradeGuest userId telegramId googleId email => exact h.upgradeGuest hrun
  | mergeGuest guestUserId targetUserId newId googleId => exact h.mergeGuest hrun
  | ensureFavorites userId newId =>
    obtain ⟨r, hr, rfl⟩ := map_eq_ok.mp hrun
    exact h.ensureFavorites hr
  | createCustomCollection ownerUserId newId => exact h.createCustomCollection hrun
  | ensureMember collectionId userId role =>
    obtain ⟨-, collection, hcollection, hset⟩ := ensureMember_setsRole hrun
    obtain ⟨hmem, hid⟩ := collection_eq_some hcollection
    simp only [keepsSaveTarget, hcollection, Option.any_some, Bool.or_eq_true, decide_eq_true_eq,
      Bool.not_eq_true'] at hkeeps
    refine hset.keepsWritable h ?_
    by_cases howner : collection.ownerId = userId
    · exact .inr (.inr ⟨collection, hmem, hid, howner⟩)
    rw [if_neg howner]
    rcases hkeeps with (hrole | hinactive) | hown
    · exact .inl hrole
    · exact .inr (.inl hinactive)
    · exact absurd hown howner
  | updateActiveSaveCollection userId collectionId => exact h.updateActive hrun
  | deleteCustomCollection collectionId userId => exact h.deleteCustom hrun
  | saveMeme collectionId userId memeId now =>
    obtain ⟨r, hr, rfl⟩ := map_eq_ok.mp hrun
    exact h.savesInto (saveMemeToCollection_ok hr)
  | removeMeme collectionId userId memeId =>
    obtain ⟨r, hr, rfl⟩ := map_eq_ok.mp hrun
    obtain ⟨collection, -, hremoved⟩ := removeMemeFromCollection_ok hr
    exact h.keep hremoved.keepsAccess
  | favoriteMeme userId memeId newId now =>
    obtain ⟨r, hr, rfl⟩ := map_eq_ok.mp hrun
    exact h.savesInto (favoriteMeme_ok hr)
  | unfavoriteMeme userId memeId =>
    obtain ⟨r, hr, rfl⟩ := map_eq_ok.mp hrun
    rcases unfavoriteMeme_ok hr with ⟨-, heq⟩ | ⟨favorites, -, hremoved⟩
    · exact heq ▸ h
    · exact h.keep hremoved.keepsAccess
  | saveMemeToActive userId memeId newId now =>
    obtain ⟨r, hr, rfl⟩ := map_eq_ok.mp hrun
    exact h.savesInto (saveMemeToActiveCollection_ok hr)
  | removeMemeFromActive userId memeId =>
    obtain ⟨r, hr, rfl⟩ := map_eq_ok.mp hrun
    obtain ⟨user, -, ⟨-, heq⟩ | ⟨collection, -, hremoved⟩⟩ := removeMemeFromActiveCollection_ok hr
    · exact heq ▸ h
    · exact h.keep hremoved.keepsAccess
  | pinMeme userId memeId now =>
    obtain ⟨r, hr, rfl⟩ := map_eq_ok.mp hrun
    rcases pinMeme_ok hr with heq | ⟨-, pin, -, heq⟩
    · exact heq ▸ h
    · exact heq ▸ h.keep ⟨rfl, rfl, rfl⟩
  | unpinMeme userId memeId =>
    obtain ⟨r, hr, rfl⟩ := map_eq_ok.mp hrun
    rcases unpinMeme_ok hr with heq | ⟨owner, pins, -, -, heq⟩
    · exact heq ▸ h
    · exact heq ▸ h.keep ⟨rfl, rfl, rfl⟩
  | reorderPins userId memeIds =>
    obtain ⟨owner, pins, -, -, heq⟩ := reorderPins_ok hrun
    exact heq ▸ h.keep ⟨rfl, rfl, rfl⟩
  | materializeMeme memeId isPublic uploaderUserId targetCollectionId now =>
    obtain ⟨-, rfl⟩ := materializeMeme_ok hrun
    have hcreated : ActiveWritable { s with
        memes := s.memes ++ [{ id := memeId, isPublic := isPublic, createdAt := now }] } :=
      h.keep ⟨rfl, rfl, rfl⟩
    exact hcreated.keep (keepsAccess_withTargetSave ..)
  | attachShaDuplicate memeId isPublic uploaderUserId targetCollectionId now =>
    obtain ⟨-, -, rfl⟩ := attachShaDuplicate_ok hrun
    have hkept := (keepsAccess_withTargetSave (s := s) uploaderUserId
      (targetCollectionId.bind s.collection) memeId now)
    exact h.keep ⟨hkept.users, hkept.collections, hkept.members⟩
  | refreshVisibility memeId isPublic =>
    obtain ⟨-, rfl⟩ := Library.commit_eq_ok.mp hrun
    exact h.keep ⟨rfl, rfl, rfl⟩
  | mergeMeme memeId targetMemeId confirmation isPublic =>
    obtain ⟨-, -, -, -, rfl⟩ := mergeMeme_ok hrun
    exact h.keep (keepsAccess_applyMerge memeId targetMemeId isPublic)
  | mergeAfterEmbed memeId similar uploader isPublic =>
    obtain ⟨current, -, ⟨-, heq⟩ | ⟨target, -, -, -, -, heq⟩⟩ := maybeMergeAfterEmbed_ok hrun
    · exact heq ▸ h
    · exact heq ▸ h.keep (keepsAccess_applyMerge memeId target.id isPublic)
  | reconcileSha sha256Hex files isPublic => exact h.keep (keepsAccess_reconcileSha hrun)
  | deleteMeme memeId confirmation =>
    obtain ⟨-, rfl⟩ := deleteMeme_ok hrun
    exact h.keep ⟨rfl, rfl, rfl⟩

theorem ActiveWritable.step_iff (h : ActiveWritable s) (hs : s.Constraints)
    {label : SaveTargetLabel} (hrun : runSaveTarget s label = .ok t) :
    ActiveWritable t ↔ keepsSaveTarget s label = true := by
  cases label with
  | library label =>
    refine ⟨?_, h.library hrun⟩
    intro ht
    cases label with
    | ensureMember collectionId userId role =>
      obtain ⟨-, collection, hcollection, hset⟩ := ensureMember_setsRole hrun
      obtain ⟨hmem, hid⟩ := collection_eq_some hcollection
      by_contra hlost
      simp only [keepsSaveTarget, hcollection, Option.any_some, Bool.or_eq_true, decide_eq_true_eq,
        Bool.not_eq_true', not_or, not_not, Bool.not_eq_false] at hlost
      obtain ⟨⟨rfl, hactive⟩, howner⟩ := hlost
      rw [if_neg howner] at hset
      refine hset.not_activeWritable hactive ?_ ht
      intro other hother hsame
      rw [collection_eq_of_mem hs hmem hother (hsame.trans hid.symm)]
      exact howner
    | _ => rfl
  | updateMemberRole collectionId actingUserId memberUserId role =>
    obtain ⟨-, hset, collection, hmem, hid, howner⟩ := updateMemberRole_ok hrun
    constructor
    · intro ht
      by_contra hlost
      simp only [keepsSaveTarget, Bool.or_eq_true, decide_eq_true_eq, Bool.not_eq_true', not_or,
        not_not, Bool.not_eq_false] at hlost
      obtain ⟨rfl, hactive⟩ := hlost
      refine hset.not_activeWritable hactive ?_ ht
      intro other hother hsame
      rw [collection_eq_of_mem hs hmem hother (hsame.trans hid.symm)]
      exact howner
    · intro hkeeps
      simp only [keepsSaveTarget, Bool.or_eq_true, decide_eq_true_eq, Bool.not_eq_true'] at hkeeps
      exact hset.keepsWritable h (hkeeps.imp_right .inl)
  | removeMember collectionId actingUserId memberUserId =>
    obtain ⟨r, hr, rfl⟩ := map_eq_ok.mp hrun
    exact ⟨fun _ => rfl, fun _ => h.removeMember hr⟩
  | joinInvite invite userId => exact ⟨fun _ => rfl, fun _ => h.insertMember hrun⟩

end Pointers

theorem constraints_saveTargetRun (labels : List SaveTargetLabel) :
    ∀ x ∈ transitions saveTargetStep {} labels, x.before.Constraints :=
  fun _ hx => invariant_before Library.constraints_empty
    (fun _ hy hbefore => constraints_runSaveTarget hbefore
      (toOption_eq_some.mp (step_of_mem_transitions hy))) hx

/-- In a run from empty tables every user's active collection stays one they may save into, exactly
when no operation makes a user a viewer of their active collection. -/
theorem activeWritable_iff_keepsSaveTarget (labels : List SaveTargetLabel) :
    (∀ x ∈ transitions saveTargetStep {} labels, ActiveWritable x.after) ↔
      ∀ x ∈ transitions saveTargetStep {} labels, keepsSaveTarget x.before x.label = true := by
  have hempty : ActiveWritable {} := fun user huser => absurd huser List.not_mem_nil
  have hrun : ∀ x ∈ transitions saveTargetStep {} labels,
      runSaveTarget x.before x.label = .ok x.after :=
    fun x hx => toOption_eq_some.mp (step_of_mem_transitions hx)
  have hconstraints := constraints_saveTargetRun labels
  constructor
  · intro hwritable x hx
    have hbefore : ActiveWritable x.before :=
      invariant_before hempty (fun y hy _ => hwritable y hy) hx
    exact (hbefore.step_iff (hconstraints x hx) (hrun x hx)).mp (hwritable x hx)
  intro hkeeps x hx
  have hbefore : ActiveWritable x.before :=
    invariant_before hempty
      (fun y hy hy' => (hy'.step_iff (hconstraints y hy) (hrun y hy)).mpr (hkeeps y hy)) hx
  exact (hbefore.step_iff (hconstraints x hx) (hrun x hx)).mpr (hkeeps x hx)

def demotedEditor : List SaveTargetLabel :=
  [.library (.createGuest 1), .library (.upgradeGuest 1 (some 100) none none),
    .library (.createGuest 2), .library (.upgradeGuest 2 (some 200) none none),
    .library (.createCustomCollection 1 10), .library (.ensureMember 10 2 .editor),
    .library (.updateActiveSaveCollection 2 10), .updateMemberRole 10 1 2 .viewer]

theorem not_activeWritable_demotedEditor :
    ¬ ∀ labels : List SaveTargetLabel, ActiveWritable (final saveTargetStep {} labels) := by
  intro h
  obtain ⟨collection, hcollection, -, hwrite⟩ := h demotedEditor
    { id := 2, accountType := .full, telegramId := some 200, activeSaveCollectionId := some 10 }
    (by decide) 10 rfl
  revert hwrite
  revert collection
  decide

end MemeExpert.Services
