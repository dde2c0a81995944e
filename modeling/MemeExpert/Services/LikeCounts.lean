import MemeExpert.Lib.Tables
import MemeExpert.Services.LibraryRuns

/-! A meme's like count is meant to be the number of Favorites collections that hold it. The
two services for single saves keep it so. -/

namespace MemeExpert.Services

open Ingest Repointing Results Runs

def favoritesHolding (s : Library) (memeId : Uuid) : List Collection :=
  s.collections.filter fun collection =>
    collection.kind = .favorites && s.saved collection.id memeId

def LikesExact (s : Library) : Prop :=
  ∀ meme ∈ s.memes, meme.likeCount = (favoritesHolding s meme.id).length

def favoriteIds (s : Library) : Finset Uuid :=
  ((s.collections.filter fun collection => collection.kind = .favorites).map Collection.id).toFinset

def likers (s : Library) (memeId : Uuid) : Finset Uuid :=
  (favoriteIds s).filter fun collectionId => s.saved collectionId memeId = true

def Counted (s : Library) (memeId count : Nat) : Prop :=
  ∃ meme ∈ s.memes, meme.id = memeId ∧ meme.likeCount = count

def CountsLikers (s : Library) : Prop :=
  ∀ memeId count, Counted s memeId count → count = (likers s memeId).card

section Counting

variable {s t : Library} {memeId collectionId : Uuid}

theorem mem_favoriteIds : collectionId ∈ favoriteIds s ↔
    ∃ collection ∈ s.collections, collection.id = collectionId ∧ collection.kind = .favorites := by
  simp only [favoriteIds, List.mem_toFinset, List.mem_map, List.mem_filter, decide_eq_true_eq]
  constructor
  · rintro ⟨collection, ⟨hmem, hkind⟩, hid⟩
    exact ⟨collection, hmem, hid, hkind⟩
  · rintro ⟨collection, hmem, hid, hkind⟩
    exact ⟨collection, ⟨hmem, hkind⟩, hid⟩

theorem mem_likers : collectionId ∈ likers s memeId ↔
    collectionId ∈ favoriteIds s ∧ s.saved collectionId memeId = true := by
  simp [likers]

variable {collection : Collection}

theorem mem_favoriteIds_of_mem (hs : (s.collections.map Collection.id).Nodup)
    (hmem : collection ∈ s.collections) :
    collection.id ∈ favoriteIds s ↔ collection.kind = .favorites := by
  rw [mem_favoriteIds]
  constructor
  · rintro ⟨other, hother, hid, hkind⟩
    have hsame : other = collection := List.inj_on_of_nodup_map hs hother hmem hid
    exact hsame ▸ hkind
  · intro hkind
    exact ⟨collection, hmem, rfl, hkind⟩

theorem favoritesHolding_ids (s : Library) (memeId : Uuid) :
    ((favoritesHolding s memeId).map Collection.id).toFinset = likers s memeId := by
  ext collectionId
  simp only [favoritesHolding, mem_likers, mem_favoriteIds, List.mem_toFinset, List.mem_map,
    List.mem_filter, Bool.and_eq_true, decide_eq_true_eq]
  constructor
  · rintro ⟨collection, ⟨hmem, hkind, hsaved⟩, rfl⟩
    exact ⟨⟨collection, hmem, rfl, hkind⟩, hsaved⟩
  · rintro ⟨⟨collection, hmem, rfl, hkind⟩, hsaved⟩
    exact ⟨collection, ⟨hmem, hkind, hsaved⟩, rfl⟩

theorem favoritesHolding_length (hs : (s.collections.map Collection.id).Nodup) (memeId : Uuid) :
    (favoritesHolding s memeId).length = (likers s memeId).card := by
  have hnodup : ((favoritesHolding s memeId).map Collection.id).Nodup :=
    hs.sublist (List.filter_sublist.map _)
  rw [← favoritesHolding_ids, List.toFinset_card_of_nodup hnodup, List.length_map]

theorem likesExact_iff (hs : s.Constraints) : LikesExact s ↔ CountsLikers s := by
  simp only [LikesExact, CountsLikers, Counted, favoritesHolding_length hs.collections_unique]
  constructor
  · rintro h _ _ ⟨meme, hmeme, rfl, rfl⟩
    exact h meme hmeme
  · intro h meme hmeme
    exact h _ _ ⟨meme, hmeme, rfl, rfl⟩

structure SameLikes (s t : Library) : Prop where
  likers_eq : ∀ memeId, likers t memeId = likers s memeId
  counted : ∀ memeId count, Counted t memeId count → Counted s memeId count

theorem SameLikes.counts (h : SameLikes s t) (hs : CountsLikers s) : CountsLikers t := by
  intro memeId count hcounted
  rw [h.likers_eq]
  exact hs memeId count (h.counted memeId count hcounted)

theorem SameLikes.of_eq (hcollections : t.collections = s.collections)
    (hsaved : ∀ collectionId memeId, t.saved collectionId memeId = s.saved collectionId memeId)
    (hcounted : ∀ memeId count, Counted t memeId count → Counted s memeId count) :
    SameLikes s t where
  likers_eq memeId := by
    ext collectionId
    simp only [mem_likers, mem_favoriteIds, hcollections, hsaved]
  counted := hcounted

theorem SameLikes.of_new_collection
    (hs : ∀ row ∈ s.collectionMemes, row.collectionId ∈ s.collections.map Collection.id)
    (ht : (t.collections.map Collection.id).Nodup)
    (hcollections : t.collections = s.collections ++ [collection])
    (hsaves : t.collectionMemes = s.collectionMemes) (hmemes : t.memes = s.memes) :
    SameLikes s t where
  likers_eq memeId := by
    have hnew : collection.id ∉ s.collections.map Collection.id := by
      rw [hcollections, List.map_append, List.nodup_append] at ht
      intro hmem
      exact ht.2.2 _ hmem _ (List.mem_singleton.mpr rfl) rfl
    ext collectionId
    simp only [mem_likers, mem_favoriteIds, hcollections, List.mem_append, List.mem_singleton,
      Library.saved, hsaves]
    constructor
    · rintro ⟨⟨other, hother | rfl, hid, hkind⟩, hsaved⟩
      · exact ⟨⟨other, hother, hid, hkind⟩, hsaved⟩
      · obtain ⟨row, hrow, hrowid, -⟩ := saved_iff.mp hsaved
        exact (hnew (hid ▸ hrowid ▸ hs row hrow)).elim
    · rintro ⟨⟨other, hother, hid, hkind⟩, hsaved⟩
      exact ⟨⟨other, .inl hother, hid, hkind⟩, hsaved⟩
  counted memeId count := by
    rintro ⟨meme, hmeme, hid, hcount⟩
    exact ⟨meme, hmemes ▸ hmeme, hid, hcount⟩

def withSave (s : Library) (row : CollectionMeme) : Library :=
  { s with collectionMemes := s.collectionMemes ++ [row] }

variable {row : CollectionMeme}

theorem saved_withSave {collectionId memeId : Uuid} :
    (withSave s row).saved collectionId memeId = true ↔
      s.saved collectionId memeId = true ∨
        (row.collectionId = collectionId ∧ row.memeId = memeId) := by
  simp [Library.saved, withSave]

theorem likers_withSave_of_ne {memeId : Uuid} (h : row.memeId ≠ memeId) :
    likers (withSave s row) memeId = likers s memeId := by
  ext collectionId
  simp only [mem_likers, saved_withSave, h, and_false, or_false]
  rfl

theorem likers_withSave_self (h : row.collectionId ∈ favoriteIds s) :
    likers (withSave s row) row.memeId = insert row.collectionId (likers s row.memeId) := by
  ext collectionId
  have hfavorites : favoriteIds (withSave s row) = favoriteIds s := rfl
  simp only [mem_likers, saved_withSave, Finset.mem_insert, and_true, hfavorites]
  constructor
  · rintro ⟨hmem, hsaved | rfl⟩
    · exact .inr ⟨hmem, hsaved⟩
    · exact .inl rfl
  · rintro (rfl | ⟨hmem, hsaved⟩)
    · exact ⟨h, .inr rfl⟩
    · exact ⟨hmem, .inl hsaved⟩

theorem likers_withSave_of_not_favorites (h : row.collectionId ∉ favoriteIds s)
    (memeId : Uuid) : likers (withSave s row) memeId = likers s memeId := by
  ext collectionId
  have hfavorites : favoriteIds (withSave s row) = favoriteIds s := rfl
  simp only [mem_likers, saved_withSave, hfavorites]
  constructor
  · rintro ⟨hmem, hsaved | ⟨rfl, -⟩⟩
    · exact ⟨hmem, hsaved⟩
    · exact (h hmem).elim
  · rintro ⟨hmem, hsaved⟩
    exact ⟨hmem, .inl hsaved⟩

theorem not_mem_likers_of_not_saved {collectionId memeId : Uuid}
    (h : s.saved collectionId memeId = false) : collectionId ∉ likers s memeId := by
  intro hmem
  rw [(mem_likers.mp hmem).2] at h
  cases h

theorem likers_updateLikeCount (memeId other : Uuid) (count : Nat → Nat) :
    likers (updateLikeCount s memeId count) other = likers s other :=
  rfl

variable {count : Nat}

theorem counted_updateLikeCount {memeId other : Nat} {update : Nat → Nat} :
    Counted (updateLikeCount s memeId update) other count ↔
      (other ≠ memeId ∧ Counted s other count) ∨
        (other = memeId ∧ ∃ old, Counted s memeId old ∧ count = update old) := by
  simp only [Counted, updateLikeCount, List.mem_map]
  constructor
  · rintro ⟨_, ⟨meme, hmeme, rfl⟩, rfl, rfl⟩
    by_cases hid : meme.id = memeId
    · simp only [hid, if_true]
      exact .inr ⟨trivial, _, ⟨meme, hmeme, hid, rfl⟩, rfl⟩
    · simp only [hid, if_false]
      exact .inl ⟨hid, meme, hmeme, rfl, rfl⟩
  · rintro (⟨hne, meme, hmeme, rfl, rfl⟩ | ⟨rfl, _, ⟨meme, hmeme, rfl, rfl⟩, rfl⟩)
    · exact ⟨meme, ⟨meme, hmeme, if_neg hne⟩, rfl, rfl⟩
    · exact ⟨_, ⟨meme, hmeme, rfl⟩, by rw [if_pos rfl], by rw [if_pos rfl]⟩

theorem CountsLikers.like (hs : CountsLikers s)
    (hfavorites : row.collectionId ∈ favoriteIds s)
    (hnew : s.saved row.collectionId row.memeId = false) :
    CountsLikers (incrementLikeCount (withSave s row) row.memeId) := by
  intro memeId count hcounted
  rw [incrementLikeCount, likers_updateLikeCount]
  rcases counted_updateLikeCount.mp hcounted with ⟨hne, hold⟩ | ⟨rfl, old, hold, rfl⟩
  · rw [likers_withSave_of_ne (Ne.symm hne)]
    exact hs memeId count hold
  rw [likers_withSave_self hfavorites,
    Finset.card_insert_of_notMem (not_mem_likers_of_not_saved hnew)]
  have hbefore := hs row.memeId old hold
  omega

theorem CountsLikers.save (hs : CountsLikers s) (row : CollectionMeme)
    (hcustom : row.collectionId ∉ favoriteIds s) : CountsLikers (withSave s row) := by
  intro memeId count hcounted
  rw [likers_withSave_of_not_favorites hcustom]
  exact hs memeId count hcounted

theorem CountsLikers.not_of_uncounted (hs : CountsLikers s) (row : CollectionMeme)
    (hcounted : Counted s row.memeId count) (hfavorites : row.collectionId ∈ favoriteIds s)
    (hnew : s.saved row.collectionId row.memeId = false) : ¬ CountsLikers (withSave s row) := by
  intro hcounts
  have hbefore := hs row.memeId count hcounted
  have hafter := hcounts row.memeId count hcounted
  rw [likers_withSave_self hfavorites,
    Finset.card_insert_of_notMem (not_mem_likers_of_not_saved hnew)] at hafter
  omega

theorem CountsLikers.insertAndCount {kind : CollectionKind}
    (hs : CountsLikers s) (hkind : row.collectionId ∈ favoriteIds s ↔ kind = .favorites) :
    CountsLikers (insertAndCount s row kind).1 := by
  cases hsaved : s.saved row.collectionId row.memeId with
  | true =>
    simp only [Services.insertAndCount, insertCollectionMeme, hsaved, if_true, Bool.false_eq_true,
      false_and, if_false]
    exact hs
  | false =>
    simp only [Services.insertAndCount, insertCollectionMeme, hsaved, Bool.false_eq_true, if_false,
      true_and]
    split
    · next hfav => exact hs.like (hkind.mpr hfav) hsaved
    · next hcustom => exact hs.save row fun hmem => hcustom (hkind.mp hmem)

variable {other : Uuid}

theorem saved_deleteCollectionMeme {collectionId memeId otherMeme : Uuid} :
    (deleteCollectionMeme s collectionId memeId).saved other otherMeme = true ↔
      s.saved other otherMeme = true ∧ ¬ (other = collectionId ∧ otherMeme = memeId) := by
  simp only [saved_iff, deleteCollectionMeme, List.mem_filter, decide_eq_true_eq]
  constructor
  · rintro ⟨row, ⟨hrow, hkept⟩, rfl, rfl⟩
    exact ⟨⟨row, hrow, rfl, rfl⟩, hkept⟩
  · rintro ⟨⟨row, hrow, rfl, rfl⟩, hkept⟩
    exact ⟨row, ⟨hrow, hkept⟩, rfl, rfl⟩

theorem likers_deleteCollectionMeme_of_ne {collectionId memeId : Uuid} (h : other ≠ memeId) :
    likers (deleteCollectionMeme s collectionId memeId) other = likers s other := by
  ext liker
  have hfavorites : favoriteIds (deleteCollectionMeme s collectionId memeId) = favoriteIds s := rfl
  simp only [mem_likers, saved_deleteCollectionMeme, h, and_false, not_false_eq_true, and_true,
    hfavorites]

theorem likers_deleteCollectionMeme_self {collectionId memeId : Uuid} :
    likers (deleteCollectionMeme s collectionId memeId) memeId =
      (likers s memeId).erase collectionId := by
  ext liker
  have hfavorites : favoriteIds (deleteCollectionMeme s collectionId memeId) = favoriteIds s := rfl
  simp only [mem_likers, saved_deleteCollectionMeme, and_true, Finset.mem_erase, hfavorites]
  constructor
  · rintro ⟨hmem, hsaved, hne⟩
    exact ⟨hne, hmem, hsaved⟩
  · rintro ⟨hne, hmem, hsaved⟩
    exact ⟨hmem, hsaved, hne⟩

theorem CountsLikers.unlike {collectionId memeId : Uuid} (hs : CountsLikers s)
    (hfavorites : collectionId ∈ favoriteIds s) (hsaved : s.saved collectionId memeId = true) :
    CountsLikers (decrementLikeCount (deleteCollectionMeme s collectionId memeId) memeId) := by
  intro other count hcounted
  rw [decrementLikeCount, likers_updateLikeCount]
  rcases counted_updateLikeCount.mp hcounted with ⟨hne, hold⟩ | ⟨rfl, old, hold, rfl⟩
  · rw [likers_deleteCollectionMeme_of_ne hne]
    exact hs other count hold
  · rw [likers_deleteCollectionMeme_self,
      Finset.card_erase_of_mem (mem_likers.mpr ⟨hfavorites, hsaved⟩), hs other old hold]

theorem CountsLikers.unsave {collectionId memeId : Uuid} (hs : CountsLikers s)
    (hcustom : collectionId ∉ favoriteIds s) :
    CountsLikers (deleteCollectionMeme s collectionId memeId) := by
  intro other count hcounted
  have hsame : likers (deleteCollectionMeme s collectionId memeId) other = likers s other := by
    by_cases hid : other = memeId
    · rw [hid, likers_deleteCollectionMeme_self, Finset.erase_eq_of_notMem]
      intro hmem
      exact hcustom (mem_likers.mp hmem).1
    · exact likers_deleteCollectionMeme_of_ne hid
  rw [hsame]
  exact hs other count hcounted

variable {gone : Uuid → Bool}

theorem saved_deleteMemes {collectionId memeId : Uuid} :
    (deleteMemes s gone).saved collectionId memeId = true ↔
      s.saved collectionId memeId = true ∧ ¬ gone memeId = true := by
  simp only [saved_iff, deleteMemes, List.mem_filter, decide_eq_true_eq]
  constructor
  · rintro ⟨row, ⟨hrow, hkept⟩, rfl, rfl⟩
    exact ⟨⟨row, hrow, rfl, rfl⟩, hkept⟩
  · rintro ⟨⟨row, hrow, rfl, rfl⟩, hkept⟩
    exact ⟨row, ⟨hrow, hkept⟩, rfl, rfl⟩

theorem likers_deleteMemes {memeId : Uuid} (hkept : ¬ gone memeId = true) :
    likers (deleteMemes s gone) memeId = likers s memeId := by
  ext collectionId
  have hfavorites : favoriteIds (deleteMemes s gone) = favoriteIds s := rfl
  simp only [mem_likers, saved_deleteMemes, hkept, Bool.false_eq_true, not_false_eq_true,
    and_true, hfavorites]

variable {count : Nat}

theorem counted_deleteMemes {memeId : Nat} :
    Counted (deleteMemes s gone) memeId count ↔ Counted s memeId count ∧ ¬ gone memeId = true := by
  simp only [Counted, deleteMemes, List.mem_filter, decide_eq_true_eq]
  constructor
  · rintro ⟨meme, ⟨hmeme, hkept⟩, rfl, rfl⟩
    exact ⟨⟨meme, hmeme, rfl, rfl⟩, hkept⟩
  · rintro ⟨⟨meme, hmeme, rfl, rfl⟩, hkept⟩
    exact ⟨meme, ⟨hmeme, hkept⟩, rfl, rfl⟩

theorem CountsLikers.deleteMemes (hs : CountsLikers s) : CountsLikers (deleteMemes s gone) := by
  intro memeId count hcounted
  obtain ⟨hold, hkept⟩ := counted_deleteMemes.mp hcounted
  rw [likers_deleteMemes hkept]
  exact hs memeId count hold

variable {collection : Collection}

theorem CountsLikers.removeAndCount {memeId : Uuid} (hs : CountsLikers s)
    (hkind : collection.id ∈ favoriteIds s ↔ collection.kind = .favorites)
    (hsaved : s.saved collection.id memeId = true) :
    CountsLikers (removeAndCount s collection memeId) := by
  refine CountsLikers.deleteMemes ?_
  split
  · next hfav => exact hs.unlike (hkind.mpr hfav) hsaved
  · next hcustom => exact hs.unsave fun hmem => hcustom (hkind.mp hmem)

theorem favoriteIds_deleteCollection {collectionId : Uuid} :
    favoriteIds (deleteCollection s collectionId) = (favoriteIds s).erase collectionId := by
  ext other
  simp only [Finset.mem_erase, mem_favoriteIds, deleteCollection, List.mem_filter,
    decide_eq_true_eq]
  constructor
  · rintro ⟨collection, ⟨hmem, hne⟩, rfl, hkind⟩
    exact ⟨hne, collection, hmem, rfl, hkind⟩
  · rintro ⟨hne, collection, hmem, rfl, hkind⟩
    exact ⟨collection, ⟨hmem, hne⟩, rfl, hkind⟩

theorem saved_deleteCollection {collectionId memeId : Uuid} :
    (deleteCollection s collectionId).saved other memeId = true ↔
      s.saved other memeId = true ∧ other ≠ collectionId := by
  simp only [saved_iff, deleteCollection, List.mem_filter, decide_eq_true_eq]
  constructor
  · rintro ⟨row, ⟨hrow, hne⟩, rfl, rfl⟩
    exact ⟨⟨row, hrow, rfl, rfl⟩, hne⟩
  · rintro ⟨⟨row, hrow, rfl, rfl⟩, hne⟩
    exact ⟨row, ⟨hrow, hne⟩, rfl, rfl⟩

theorem likers_deleteCollection {collectionId memeId : Uuid} :
    likers (deleteCollection s collectionId) memeId = (likers s memeId).erase collectionId := by
  ext other
  simp only [mem_likers, favoriteIds_deleteCollection, saved_deleteCollection, Finset.mem_erase]
  constructor
  · rintro ⟨⟨hne, hmem⟩, hsaved, -⟩
    exact ⟨hne, hmem, hsaved⟩
  · rintro ⟨hne, hmem, hsaved⟩
    exact ⟨⟨hne, hmem⟩, hsaved, hne⟩

theorem CountsLikers.deleteCollection {collectionId : Uuid} (hs : CountsLikers s)
    (hcustom : collectionId ∉ favoriteIds s) : CountsLikers (deleteCollection s collectionId) := by
  intro memeId count hcounted
  rw [likers_deleteCollection, Finset.erase_eq_of_notMem fun hmem =>
    hcustom (mem_likers.mp hmem).1]
  exact hs memeId count hcounted

variable {count : Nat}

theorem counted_refreshEffectiveVisibility {other : Nat} (memeId : Uuid) (isPublic : Bool) :
    Counted (refreshEffectiveVisibility s memeId isPublic) other count ↔ Counted s other count := by
  simp only [Counted, refreshEffectiveVisibility, List.mem_map]
  constructor
  · rintro ⟨_, ⟨meme, hmeme, rfl⟩, hid, hcount⟩
    refine ⟨meme, hmeme, ?_, ?_⟩
    · rw [← hid]
      split <;> rfl
    · rw [← hcount]
      split <;> rfl
  rintro ⟨meme, hmeme, hid, hcount⟩
  refine ⟨_, ⟨meme, hmeme, rfl⟩, ?_, ?_⟩
  · split <;> exact hid
  · split <;> exact hcount

theorem likers_refreshEffectiveVisibility (memeId other : Uuid) (isPublic : Bool) :
    likers (refreshEffectiveVisibility s memeId isPublic) other = likers s other :=
  rfl

theorem counts_refreshEffectiveVisibility_iff (memeId : Uuid) (isPublic : Bool) :
    CountsLikers (refreshEffectiveVisibility s memeId isPublic) ↔ CountsLikers s := by
  simp only [CountsLikers, counted_refreshEffectiveVisibility, likers_refreshEffectiveVisibility]

variable {obsolete : List Uuid} {canonical : Uuid}

theorem saved_transferObsolete (hcanonical : canonical ∉ obsolete) {collectionId memeId : Uuid} :
    (transferObsolete s obsolete canonical).saved collectionId memeId = true ↔
      (memeId ∉ obsolete ∧ s.saved collectionId memeId = true) ∨
        (memeId = canonical ∧ ∃ source ∈ obsolete, s.saved collectionId source = true) := by
  rw [transferObsolete_eq]
  change holds saveColumns (repointAll saveColumns canonical obsolete s.collectionMemes)
    collectionId memeId = true ↔ _
  exact holds_repointAll hcanonical

theorem favoriteIds_transferObsolete :
    favoriteIds (transferObsolete s obsolete canonical) = favoriteIds s := by
  rw [transferObsolete_eq]
  rfl

theorem memes_transferObsolete : (transferObsolete s obsolete canonical).memes = s.memes := by
  rw [transferObsolete_eq]

theorem collections_transferObsolete :
    (transferObsolete s obsolete canonical).collections = s.collections := by
  rw [transferObsolete_eq]

theorem likers_transferObsolete_of_ne (hcanonical : canonical ∉ obsolete) {memeId : Uuid}
    (hkept : memeId ∉ obsolete) (hne : memeId ≠ canonical) :
    likers (transferObsolete s obsolete canonical) memeId = likers s memeId := by
  ext collectionId
  simp only [mem_likers, favoriteIds_transferObsolete, saved_transferObsolete hcanonical, hkept,
    hne, not_false_eq_true, true_and, false_and, or_false]

theorem likers_transfer_target {source target : Uuid} (hne : target ≠ source) :
    likers (transferObsolete s [source] target) target = likers s target ∪ likers s source := by
  ext collectionId
  have hcanonical : target ∉ [source] := by simpa using hne
  simp only [mem_likers, favoriteIds_transferObsolete, saved_transferObsolete hcanonical,
    List.mem_singleton, hne, not_false_eq_true, true_and, exists_eq_left, Finset.mem_union]
  constructor
  · rintro ⟨hmem, hsaved | hsaved⟩
    · exact .inl ⟨hmem, hsaved⟩
    · exact .inr ⟨hmem, hsaved⟩
  · rintro (⟨hmem, hsaved⟩ | ⟨hmem, hsaved⟩)
    · exact ⟨hmem, .inl hsaved⟩
    · exact ⟨hmem, .inr hsaved⟩

theorem counts_recomputeLikeCount {memeId : Uuid}
    (hids : (s.collections.map Collection.id).Nodup)
    (howners : ((s.collections.filter fun row => row.kind = .favorites).map
      Collection.ownerId).Nodup)
    (hothers : ∀ other count, other ≠ memeId → Counted s other count →
      count = (likers s other).card) :
    CountsLikers (recomputeLikeCount s memeId) := by
  intro other count hcounted
  rw [recomputeLikeCount, likers_updateLikeCount]
  rcases counted_updateLikeCount.mp hcounted with ⟨hne, hold⟩ | ⟨rfl, old, -, rfl⟩
  · exact hothers other count hne hold
  have hholding : ((favoritesHolding s other).map Collection.ownerId).Nodup := by
    refine howners.sublist (List.Sublist.map _ ?_)
    rw [favoritesHolding, show (fun collection : Collection => collection.kind = .favorites &&
      s.saved collection.id other) = fun collection =>
        s.saved collection.id other && decide (collection.kind = .favorites) from
          funext fun collection => Bool.and_comm .., ← List.filter_filter]
    exact List.filter_sublist
  change ((favoritesHolding s other).map Collection.ownerId).dedup.length = _
  rw [hholding.dedup, List.length_map, favoritesHolding_length hids]

variable {count : Nat}

theorem counted_transferObsolete {memeId : Nat} :
    Counted (transferObsolete s obsolete canonical) memeId count ↔ Counted s memeId count := by
  rw [Counted, memes_transferObsolete]
  rfl

theorem CountsLikers.reconcile (hs : CountsLikers s) (hconstraints : s.Constraints)
    (hcanonical : canonical ∉ obsolete) :
    CountsLikers (recomputeLikeCount
      (Services.deleteMemes (transferObsolete s obsolete canonical) fun memeId => memeId ∈ obsolete)
      canonical) := by
  refine counts_recomputeLikeCount ?_ ?_ ?_
  · rw [Services.deleteMemes, collections_transferObsolete]
    exact hconstraints.collections_unique
  · rw [Services.deleteMemes, collections_transferObsolete]
    exact hconstraints.one_favorites_per_owner
  intro memeId count hne hcounted
  obtain ⟨hold, hkept⟩ := counted_deleteMemes.mp hcounted
  rw [counted_transferObsolete] at hold
  rw [likers_deleteMemes hkept,
    likers_transferObsolete_of_ne hcanonical (by simpa using hkept) hne]
  exact hs memeId count hold

theorem CountsLikers.applyMerge_iff {source target : Uuid} {isPublic : Bool} (hs : CountsLikers s)
    (hmemes : (s.memes.map Meme.id).Nodup) (hne : target ≠ source)
    (hsource : ∃ meme ∈ s.memes, meme.id = source) (htarget : ∃ meme ∈ s.memes, meme.id = target) :
    CountsLikers (applyMerge s source target isPublic) ↔
      Disjoint (likers s target) (likers s source) := by
  obtain ⟨meme, hmeme, rfl⟩ := hsource
  obtain ⟨targetMeme, htargetMeme, htargetId⟩ := htarget
  have hcanonical : target ∉ [meme.id] := by simpa using hne
  have hsourceCount := hs meme.id meme.likeCount ⟨meme, hmeme, rfl, rfl⟩
  have htargetCounted : Counted s target targetMeme.likeCount :=
    ⟨targetMeme, htargetMeme, htargetId, rfl⟩
  have htargetCount := hs target _ htargetCounted
  have hmerge : applyMerge s meme.id target isPublic = Services.deleteMemes
      (refreshEffectiveVisibility
        (updateLikeCount (transferObsolete s [meme.id] target) target
          fun likeCount => likeCount + meme.likeCount) target isPublic)
      fun memeId => memeId = meme.id := by
    have hfound : (transferMemeDependencies s meme.id target).meme meme.id = some meme :=
      Tables.find_of_mem hmemes hmeme
    simp only [applyMerge, accumulateLikeCount, hfound]
    rfl
  rw [hmerge]
  constructor
  · intro hcounts
    have hkept : ¬ decide (target = meme.id) = true := by simpa using hne
    have hafter := hcounts target (targetMeme.likeCount + meme.likeCount)
      (counted_deleteMemes.mpr ⟨(counted_refreshEffectiveVisibility ..).mpr
        (counted_updateLikeCount.mpr (.inr ⟨rfl, _, counted_transferObsolete.mpr htargetCounted,
          rfl⟩)), hkept⟩)
    rw [likers_deleteMemes hkept, likers_refreshEffectiveVisibility, likers_updateLikeCount,
      likers_transfer_target hne] at hafter
    rw [← Finset.card_union_eq_card_add_card]
    omega
  · intro hdisjoint memeId count hcounted
    obtain ⟨hvisible, hkept⟩ := counted_deleteMemes.mp hcounted
    rw [counted_refreshEffectiveVisibility] at hvisible
    rw [likers_deleteMemes hkept, likers_refreshEffectiveVisibility, likers_updateLikeCount]
    rcases counted_updateLikeCount.mp hvisible with ⟨hother, hold⟩ | ⟨rfl, old, hold, rfl⟩
    · rw [likers_transferObsolete_of_ne hcanonical (by simpa using hkept) hother]
      exact hs memeId count (counted_transferObsolete.mp hold)
    rw [likers_transfer_target hne, Finset.card_union_of_disjoint hdisjoint]
    have hbefore := hs memeId old (counted_transferObsolete.mp hold)
    omega

variable {guest target : Collection} {user : User}

theorem saved_transferFavorites {collectionId memeId : Uuid} :
    (transferFavorites s guest target user).saved collectionId memeId = true ↔
      s.saved collectionId memeId = true ∨
        (collectionId = target.id ∧ s.saved guest.id memeId = true) := by
  simp only [saved_iff, transferFavorites, List.mem_append, List.mem_map, List.mem_filter,
    Bool.and_eq_true, decide_eq_true_eq, Bool.not_eq_true']
  constructor
  · rintro ⟨row, hrow | ⟨old, ⟨hold, hguest, -⟩, rfl⟩, rfl, rfl⟩
    · exact .inl ⟨row, hrow, rfl, rfl⟩
    · exact .inr ⟨rfl, old, hold, hguest, rfl⟩
  rintro (⟨row, hrow, rfl, rfl⟩ | ⟨rfl, old, hold, hguest, rfl⟩)
  · exact ⟨row, .inl hrow, rfl, rfl⟩
  cases hheld : s.saved target.id old.memeId with
  | true =>
    obtain ⟨row, hrow, hcollection, hmeme⟩ := saved_iff.mp hheld
    exact ⟨row, .inl hrow, hcollection, hmeme⟩
  | false => exact ⟨_, .inr ⟨old, ⟨hold, hguest, hheld⟩, rfl⟩, rfl, rfl⟩

theorem likers_transferFavorites {memeId : Uuid}
    (htarget : target.id ∈ favoriteIds s) :
    likers (transferFavorites s guest target user) memeId =
      if s.saved guest.id memeId then insert target.id (likers s memeId) else likers s memeId := by
  have hfavorites : favoriteIds (transferFavorites s guest target user) = favoriteIds s := rfl
  ext collectionId
  simp only [mem_likers, saved_transferFavorites, hfavorites]
  split
  · next hsaved =>
    simp only [hsaved, and_true, Finset.mem_insert, mem_likers]
    constructor
    · rintro ⟨hmem, hheld | rfl⟩
      · exact .inr ⟨hmem, hheld⟩
      · exact .inl rfl
    · rintro (rfl | ⟨hmem, hheld⟩)
      · exact ⟨htarget, .inr rfl⟩
      · exact ⟨hmem, .inl hheld⟩
  · next hsaved => simp only [hsaved, Bool.false_eq_true, and_false, or_false, mem_likers]

theorem CountsLikers.handOver_iff (hs : CountsLikers s)
    (hmemes : ∀ memeId, s.saved guest.id memeId = true → ∃ count, Counted s memeId count)
    (hguest : guest.id ∈ favoriteIds s) (htarget : target.id ∈ favoriteIds s) :
    CountsLikers (Services.deleteCollection (transferFavorites s guest target user) guest.id) ↔
      ∀ memeId, ¬ (s.saved guest.id memeId = true ∧ s.saved target.id memeId = true) := by
  have hcounted : ∀ memeId count, Counted (Services.deleteCollection
      (transferFavorites s guest target user) guest.id) memeId count ↔ Counted s memeId count :=
    fun _ _ => Iff.rfl
  constructor
  · rintro hcounts memeId ⟨hsaved, hheld⟩
    obtain ⟨count, hcount⟩ := hmemes memeId hsaved
    have hbefore := hs memeId count hcount
    have hafter := hcounts memeId count ((hcounted ..).mpr hcount)
    have hboth : target.id ∈ likers s memeId := mem_likers.mpr ⟨htarget, hheld⟩
    have hliker : guest.id ∈ likers s memeId := mem_likers.mpr ⟨hguest, hsaved⟩
    rw [likers_deleteCollection, likers_transferFavorites htarget, if_pos hsaved,
      Finset.insert_eq_of_mem hboth, Finset.card_erase_of_mem hliker] at hafter
    have hpos : 0 < (likers s memeId).card := Finset.card_pos.mpr ⟨_, hliker⟩
    omega
  · intro hdisjoint memeId count hcount
    rw [likers_deleteCollection, likers_transferFavorites htarget]
    have hbefore := hs memeId count ((hcounted ..).mp hcount)
    split
    · next hsaved =>
      have hnew : target.id ∉ likers s memeId := fun hmem =>
        hdisjoint memeId ⟨hsaved, (mem_likers.mp hmem).2⟩
      have hliker : guest.id ∈ insert target.id (likers s memeId) :=
        Finset.mem_insert_of_mem (mem_likers.mpr ⟨hguest, hsaved⟩)
      rw [Finset.card_erase_of_mem hliker, Finset.card_insert_of_notMem hnew]
      omega
    · next hsaved =>
      rw [Finset.erase_eq_of_notMem fun hmem => hsaved (mem_likers.mp hmem).2]
      exact hbefore

theorem sameLikes_deleteUser (userId : Uuid) : SameLikes s (deleteUser s userId) := by
  refine SameLikes.of_eq rfl ?_ fun _ _ hcounted => hcounted
  intro collectionId memeId
  rw [Bool.eq_iff_iff, saved_iff, saved_iff]
  simp only [deleteUser, List.mem_map]
  constructor
  · rintro ⟨_, ⟨row, hrow, rfl⟩, hcollection, hmeme⟩
    refine ⟨row, hrow, ?_, ?_⟩
    · rw [← hcollection]
      split <;> rfl
    · rw [← hmeme]
      split <;> rfl
  rintro ⟨row, hrow, hcollection, hmeme⟩
  refine ⟨_, ⟨row, hrow, rfl⟩, ?_, ?_⟩
  · split <;> exact hcollection
  · split <;> exact hmeme

theorem counts_deleteUser_iff (userId : Uuid) :
    CountsLikers (deleteUser s userId) ↔ CountsLikers s := by
  constructor
  · intro h memeId count hcounted
    rw [← (sameLikes_deleteUser (s := s) userId).likers_eq]
    exact h memeId count hcounted
  · exact (sameLikes_deleteUser userId).counts

def UploadCounted (s : Library) (targetCollectionId : Option Uuid) (memeId : Uuid) : Prop :=
  ∀ collection, targetCollectionId.bind s.collection = some collection →
    collection.kind = .favorites → s.saved collection.id memeId = true

def LikersDisjoint (s : Library) (memeId other : Uuid) : Prop :=
  ∀ collection ∈ s.collections, collection.kind = .favorites →
    ¬ (s.saved collection.id memeId = true ∧ s.saved collection.id other = true)

def LikesMoveWithSaves (s : Library) : LibraryLabel → Prop
  | .materializeMeme memeId _ _ targetCollectionId _ => UploadCounted s targetCollectionId memeId
  | .attachShaDuplicate memeId _ _ targetCollectionId _ => UploadCounted s targetCollectionId memeId
  | .mergeGuest guestUserId targetUserId _ _ =>
    ∀ guest target, s.favoritesOf guestUserId = some guest →
      s.favoritesOf targetUserId = some target →
        ∀ memeId, ¬ (s.saved guest.id memeId = true ∧ s.saved target.id memeId = true)
  | .mergeMeme memeId targetMemeId _ _ => LikersDisjoint s targetMemeId memeId
  | .mergeAfterEmbed memeId similar uploader _ =>
    ∀ current target, s.meme memeId = some current →
      selectMergeTarget s uploader current (similar.filter fun id => id ≠ memeId) = some target →
        LikersDisjoint s target.id memeId
  | _ => True

variable {other : Uuid}

theorem likersDisjoint_iff {memeId : Uuid} :
    LikersDisjoint s memeId other ↔ Disjoint (likers s memeId) (likers s other) := by
  rw [Finset.disjoint_left]
  constructor
  · intro h collectionId hmem hother
    rw [mem_likers, mem_favoriteIds] at hmem
    obtain ⟨⟨collection, hcollection, rfl, hkind⟩, hsaved⟩ := hmem
    exact h collection hcollection hkind ⟨hsaved, (mem_likers.mp hother).2⟩
  · rintro h collection hcollection hkind ⟨hsaved, hother⟩
    have hfavorites := mem_favoriteIds.mpr ⟨collection, hcollection, rfl, hkind⟩
    exact h (mem_likers.mpr ⟨hfavorites, hsaved⟩) (mem_likers.mpr ⟨hfavorites, hother⟩)

variable {newId : Uuid}

theorem sameLikes_ensureFavorites {userId : Uuid} {r : Library × Collection}
    (hs : ∀ row ∈ s.collectionMemes, row.collectionId ∈ s.collections.map Collection.id) (h : ensureFavoritesCollection s userId newId = .ok r) :
    SameLikes s r.1 := by
  rcases ensureFavoritesCollection_ok h with ⟨heq, -⟩ | ⟨-, ht, user, -, heq, -⟩
  · rw [heq]
    exact SameLikes.of_eq rfl (fun _ _ => rfl) fun _ _ hcounted => hcounted
  · rw [heq] at ht ⊢
    exact SameLikes.of_new_collection hs ht.collections_unique rfl rfl rfl

theorem constraints_ensureFavorites {userId : Uuid} {r : Library × Collection}
    (hs : s.Constraints) (h : ensureFavoritesCollection s userId newId = .ok r) :
    r.1.Constraints ∧ r.2 ∈ r.1.collections ∧ r.2.kind = .favorites := by
  rcases ensureFavoritesCollection_ok h with ⟨heq, hfound⟩ | ⟨-, ht, user, -, heq, hr⟩
  · obtain ⟨hmem, -, hkind⟩ := favoritesOf_eq_some hfound
    exact ⟨heq ▸ hs, heq ▸ hmem, hkind⟩
  refine ⟨ht, ?_, by rw [hr]⟩
  rw [heq, hr]
  exact List.mem_append_right _ (List.mem_singleton.mpr rfl)

theorem SavesInto.counts (hs : s.Constraints) (hcounts : CountsLikers s) (h : SavesInto s t) :
    CountsLikers t := by
  obtain ⟨ensured, collection, row, hensured, hmem, hrow, -, rfl⟩ := h
  have hready : ensured.Constraints ∧ CountsLikers ensured := by
    rcases hensured with rfl | ⟨userId, newId, favorites, hok⟩
    · exact ⟨hs, hcounts⟩
    · exact ⟨(constraints_ensureFavorites hs hok).1,
        (sameLikes_ensureFavorites hs.saves_collection hok).counts hcounts⟩
  refine hready.2.insertAndCount ?_
  rw [hrow]
  exact mem_favoriteIds_of_mem hready.1.collections_unique hmem

variable {collection : Collection}

theorem RemovesFrom.counts {memeId : Uuid} (hs : s.Constraints)
    (hcounts : CountsLikers s) (h : RemovesFrom s t collection memeId) : CountsLikers t := by
  rcases h with ⟨-, rfl⟩ | ⟨hmem, hsaved, -, rfl⟩
  · exact hcounts
  · exact hcounts.removeAndCount (mem_favoriteIds_of_mem hs.collections_unique hmem) hsaved

theorem counts_withNewMeme {meme : Meme} (hs : s.Constraints) (hcounts : CountsLikers s)
    (hnew : meme.id ∉ s.memes.map Meme.id) (hzero : meme.likeCount = 0) :
    CountsLikers { s with memes := s.memes ++ [meme] } := by
  intro memeId count hcounted
  have hlikers : likers { s with memes := s.memes ++ [meme] } memeId = likers s memeId := rfl
  rw [hlikers]
  obtain ⟨found, hfound, rfl, rfl⟩ := hcounted
  rcases List.mem_append.mp hfound with hold | hlast
  · exact hcounts _ _ ⟨found, hold, rfl, rfl⟩
  rw [List.mem_singleton] at hlast
  subst hlast
  rw [hzero, eq_comm, Finset.card_eq_zero, Finset.eq_empty_iff_forall_notMem]
  intro collectionId hmem
  obtain ⟨row, hrow, -, hrowMeme⟩ := saved_iff.mp (mem_likers.mp hmem).2
  exact hnew (hrowMeme ▸ hs.saves_meme row hrow)

variable {count : Nat}

theorem counts_withTargetSave_iff {uploaderUserId targetCollectionId : Option Uuid} {memeId : Uuid}
    {now : Time} (hs : (s.collections.map Collection.id).Nodup)
    (hcounts : CountsLikers s) (hmeme : Counted s memeId count) :
    CountsLikers (withTargetSave s uploaderUserId (targetCollectionId.bind s.collection) memeId now) ↔
      UploadCounted s targetCollectionId memeId := by
  unfold UploadCounted
  cases htarget : targetCollectionId.bind s.collection with
  | none => simpa [withTargetSave] using hcounts
  | some collection =>
    have hmem : collection ∈ s.collections := by
      cases targetCollectionId with
      | none => cases htarget
      | some collectionId => exact (collection_eq_some htarget).1
    have hkind := mem_favoriteIds_of_mem hs hmem
    simp only [Option.some.injEq, forall_eq']
    simp only [withTargetSave, insertCollectionMeme]
    cases hsaved : s.saved collection.id memeId with
    | true => simpa using hcounts
    | false =>
      simp only [Bool.false_eq_true, if_false, imp_false]
      constructor
      · intro hafter hfavorites
        exact hcounts.not_of_uncounted ⟨collection.id, memeId, uploaderUserId, now⟩ hmeme
          (hkind.mpr hfavorites) hsaved hafter
      · intro hcustom
        exact hcounts.save ⟨collection.id, memeId, uploaderUserId, now⟩ fun hin =>
          hcustom (hkind.mp hin)

theorem id_ne_of_not_mem_ids {other : Collection} {collections : List Collection}
    (hnew : (collections ++ [collection]).map Collection.id |>.Nodup) (hother : other ∈ collections) :
    collection.id ≠ other.id := by
  rw [List.map_append, List.nodup_append] at hnew
  intro heq
  exact hnew.2.2 _ (List.mem_map_of_mem hother) _ (List.mem_singleton.mpr rfl) heq.symm

theorem counts_mergeGuest_iff {guestUserId targetUserId : Uuid} {googleId : Option String}
    (hs : s.Constraints) (hcounts : CountsLikers s)
    (h : mergeGuestIntoExistingFull s guestUserId targetUserId newId googleId = .ok t) :
    CountsLikers t ↔ ∀ guest target, s.favoritesOf guestUserId = some guest →
      s.favoritesOf targetUserId = some target →
        ∀ memeId, ¬ (s.saved guest.id memeId = true ∧ s.saved target.id memeId = true) := by
  obtain ⟨hne, -, user, handedOver, huser, hhanded, rfl⟩ := mergeGuestIntoExistingFull_ok h
  obtain ⟨-, huserId⟩ := user_eq_some huser
  have hsaves := hs.saves_collection
  have hattached : CountsLikers (attachGoogleIdentity s targetUserId googleId) := hcounts
  rw [counts_deleteUser_iff]
  rcases handOverFavorites_ok hhanded with ⟨hnone, rfl⟩ | ⟨favorites, hfound, hempty, rfl⟩ |
    ⟨favorites, ensured, targetFavorites, hfound, hensured, rfl⟩
  · refine iff_of_true hattached ?_
    intro guest target hguest
    rw [hnone] at hguest
    cases hguest
  · have hnotSaved : ∀ memeId, s.saved favorites.id memeId = false := hempty
    refine iff_of_true ?_ ?_
    · intro memeId count hcounted
      have hnot : favorites.id ∉ likers (attachGoogleIdentity s targetUserId googleId) memeId :=
        not_mem_likers_of_not_saved (hempty memeId)
      rw [likers_deleteCollection, Finset.erase_eq_of_notMem hnot]
      exact hattached memeId count hcounted
    rintro guest target hguest - memeId ⟨hsaved, -⟩
    rw [hfound] at hguest
    cases hguest
    rw [hnotSaved] at hsaved
    cases hsaved
  · obtain ⟨hguestMem, -, hguestKind⟩ := favoritesOf_eq_some hfound
    have hmemes : ∀ memeId, s.saved favorites.id memeId = true →
        ∃ count, Counted s memeId count := by
      intro memeId hsaved
      obtain ⟨row, hrow, -, rfl⟩ := saved_iff.mp hsaved
      obtain ⟨meme, hmeme, hid⟩ := List.mem_map.mp (hs.saves_meme row hrow)
      exact ⟨meme.likeCount, meme, hmeme, hid, rfl⟩
    rcases ensureFavoritesCollection_ok hensured with ⟨rfl, htargetFound⟩ |
      ⟨htargetNone, ht, owner, -, rfl, rfl⟩
    · rw [huserId] at htargetFound
      have htargetS : s.favoritesOf targetUserId = some targetFavorites := htargetFound
      obtain ⟨htargetMem, -, htargetKind⟩ := favoritesOf_eq_some htargetS
      rw [hattached.handOver_iff hmemes (mem_favoriteIds.mpr ⟨favorites, hguestMem, rfl, hguestKind⟩)
        (mem_favoriteIds.mpr ⟨targetFavorites, htargetMem, rfl, htargetKind⟩)]
      constructor
      · intro hdisjoint guest target hguest htarget
        rw [hfound] at hguest
        rw [htargetS] at htarget
        cases hguest
        cases htarget
        exact hdisjoint
      · intro hdisjoint
        exact hdisjoint favorites targetFavorites hfound htargetS
    · have htargetS : s.favoritesOf targetUserId = none := by
        rw [huserId] at htargetNone
        exact htargetNone
      have hnew : CountsLikers (withFavorites (attachGoogleIdentity s targetUserId googleId) owner
          newId) :=
        (SameLikes.of_new_collection hsaves ht.collections_unique rfl rfl rfl).counts hattached
      have hguestFavorites : favorites.id ∈ favoriteIds
          (withFavorites (attachGoogleIdentity s targetUserId googleId) owner newId) :=
        mem_favoriteIds.mpr ⟨favorites, List.mem_append_left _ hguestMem, rfl, hguestKind⟩
      have htargetFavorites : newId ∈ favoriteIds
          (withFavorites (attachGoogleIdentity s targetUserId googleId) owner newId) :=
        mem_favoriteIds.mpr ⟨_, List.mem_append_right _ (List.mem_singleton.mpr rfl), rfl, rfl⟩
      refine iff_of_true
        ((hnew.handOver_iff hmemes hguestFavorites htargetFavorites).mpr ?_) ?_
      · rintro memeId ⟨-, hsaved⟩
        obtain ⟨row, hrow, hcollection, -⟩ := saved_iff.mp hsaved
        obtain ⟨other, hother, hid⟩ := List.mem_map.mp (hsaves row hrow)
        exact id_ne_of_not_mem_ids ht.collections_unique hother (hid.trans hcollection).symm
      · intro guest target _ htarget
        rw [htargetS] at htarget
        cases htarget

theorem counts_materializeMeme_iff {memeId : Uuid} {isPublic : Bool}
    {uploaderUserId targetCollectionId : Option Uuid} {now : Time} (hs : s.Constraints)
    (hcounts : CountsLikers s)
    (h : materializeMeme s memeId isPublic uploaderUserId targetCollectionId now = .ok t) :
    CountsLikers t ↔ UploadCounted s targetCollectionId memeId := by
  obtain ⟨ht, rfl⟩ := materializeMeme_ok h
  let meme : Meme := { id := memeId, isPublic := isPublic, createdAt := now }
  have hcreated : CountsLikers { s with memes := s.memes ++ [meme] } := by
    refine counts_withNewMeme hs hcounts ?_ rfl
    have hunique : ((s.memes ++ [meme]).map Meme.id).Nodup := by
      have hids := ht.memes_unique
      unfold withTargetSave insertCollectionMeme at hids
      split at hids
      · exact hids
      split at hids
      · exact hids
      · exact hids
    rw [List.map_append, List.nodup_append] at hunique
    intro hmem
    exact hunique.2.2 _ hmem _ (List.mem_singleton.mpr rfl) rfl
  exact counts_withTargetSave_iff (s := { s with memes := s.memes ++ [meme] })
    hs.collections_unique hcreated
    ⟨meme, List.mem_append_right _ (List.mem_singleton.mpr rfl), rfl, rfl⟩

theorem counts_step_iff {label : LibraryLabel} (hs : s.Constraints) (hcounts : CountsLikers s)
    (h : runLibrary s label = .ok t) : CountsLikers t ↔ LikesMoveWithSaves s label := by
  have ht := constraints_runLibrary hs h
  have hexact : CountsLikers t → LikesMoveWithSaves s label = True →
      (CountsLikers t ↔ LikesMoveWithSaves s label) := by
    intro hafter hmoves
    rw [hmoves]
    exact iff_true_intro hafter
  have hsame : t = s → CountsLikers t := fun heq => heq ▸ hcounts
  cases label with
  | createGuest userId =>
    obtain ⟨-, rfl⟩ := Library.commit_eq_ok.mp h
    exact hexact hcounts rfl
  | upgradeGuest userId telegramId googleId email =>
    obtain ⟨-, users, rfl⟩ := upgradeGuest_ok h
    exact hexact hcounts rfl
  | mergeGuest guestUserId targetUserId newId googleId => exact counts_mergeGuest_iff hs hcounts h
  | ensureFavorites userId newId =>
    obtain ⟨r, hr, rfl⟩ := map_eq_ok.mp h
    exact hexact ((sameLikes_ensureFavorites hs.saves_collection hr).counts hcounts) rfl
  | createCustomCollection ownerUserId newId =>
    obtain ⟨-, collection, members, -, rfl⟩ := createCustomCollection_ok h
    have hsame := SameLikes.of_new_collection hs.saves_collection ht.collections_unique rfl rfl rfl
    exact hexact (hsame.counts hcounts) rfl
  | ensureMember collectionId userId role =>
    obtain ⟨-, members, rfl⟩ := ensureMember_ok h
    exact hexact hcounts rfl
  | updateActiveSaveCollection userId collectionId =>
    obtain ⟨-, users, rfl⟩ := updateActiveSaveCollection_ok h
    exact hexact hcounts rfl
  | deleteCustomCollection collectionId userId =>
    obtain ⟨collection, hmem, rfl, hkind, -, users, rfl⟩ := deleteCustomCollection_ok h
    refine hexact ?_ rfl
    have hdeleted : CountsLikers { Services.deleteMemes s (fun memeId =>
        orphanedByCollectionDelete s collection.id memeId) with users := users } :=
      CountsLikers.deleteMemes hcounts
    refine hdeleted.deleteCollection ?_
    intro hfavorites
    have hfav := (mem_favoriteIds_of_mem hs.collections_unique hmem).mp hfavorites
    rw [hkind] at hfav
    cases hfav
  | saveMeme collectionId userId memeId now =>
    obtain ⟨r, hr, rfl⟩ := map_eq_ok.mp h
    exact hexact ((saveMemeToCollection_ok hr).counts hs hcounts) rfl
  | removeMeme collectionId userId memeId =>
    obtain ⟨r, hr, rfl⟩ := map_eq_ok.mp h
    obtain ⟨collection, -, hremoved⟩ := removeMemeFromCollection_ok hr
    exact hexact (hremoved.counts hs hcounts) rfl
  | favoriteMeme userId memeId newId now =>
    obtain ⟨r, hr, rfl⟩ := map_eq_ok.mp h
    exact hexact ((favoriteMeme_ok hr).counts hs hcounts) rfl
  | unfavoriteMeme userId memeId =>
    obtain ⟨r, hr, rfl⟩ := map_eq_ok.mp h
    rcases unfavoriteMeme_ok hr with ⟨-, heq⟩ | ⟨favorites, -, hremoved⟩
    · exact hexact (hsame heq) rfl
    · exact hexact (hremoved.counts hs hcounts) rfl
  | saveMemeToActive userId memeId newId now =>
    obtain ⟨r, hr, rfl⟩ := map_eq_ok.mp h
    exact hexact ((saveMemeToActiveCollection_ok hr).counts hs hcounts) rfl
  | removeMemeFromActive userId memeId =>
    obtain ⟨r, hr, rfl⟩ := map_eq_ok.mp h
    obtain ⟨user, -, ⟨-, heq⟩ | ⟨collection, -, hremoved⟩⟩ := removeMemeFromActiveCollection_ok hr
    · exact hexact (hsame heq) rfl
    · exact hexact (hremoved.counts hs hcounts) rfl
  | pinMeme userId memeId now =>
    obtain ⟨r, hr, rfl⟩ := map_eq_ok.mp h
    rcases pinMeme_ok hr with heq | ⟨-, pin, -, heq⟩
    · exact hexact (hsame heq) rfl
    · exact hexact (heq ▸ hcounts) rfl
  | unpinMeme userId memeId =>
    obtain ⟨r, hr, rfl⟩ := map_eq_ok.mp h
    rcases unpinMeme_ok hr with heq | ⟨_, pins, -, -, heq⟩
    · exact hexact (hsame heq) rfl
    · exact hexact (heq ▸ hcounts) rfl
  | reorderPins userId memeIds =>
    obtain ⟨_, pins, -, -, rfl⟩ := reorderPins_ok h
    exact hexact hcounts rfl
  | materializeMeme memeId isPublic uploaderUserId targetCollectionId now =>
    exact counts_materializeMeme_iff hs hcounts h
  | attachShaDuplicate memeId isPublic uploaderUserId targetCollectionId now =>
    obtain ⟨⟨meme, hmeme, hid⟩, -, rfl⟩ := attachShaDuplicate_ok h
    rw [counts_refreshEffectiveVisibility_iff]
    exact counts_withTargetSave_iff hs.collections_unique hcounts ⟨meme, hmeme, hid, rfl⟩
  | refreshVisibility memeId isPublic =>
    obtain ⟨-, rfl⟩ := Library.commit_eq_ok.mp h
    exact hexact ((counts_refreshEffectiveVisibility_iff ..).mpr hcounts) rfl
  | mergeMeme memeId targetMemeId confirmation isPublic =>
    obtain ⟨-, hne, hsource, htarget, rfl⟩ := mergeMeme_ok h
    rw [hcounts.applyMerge_iff hs.memes_unique hne hsource htarget]
    exact likersDisjoint_iff.symm
  | mergeAfterEmbed memeId similar uploader isPublic =>
    obtain ⟨current, hcurrent, ⟨hnone, heq⟩ | ⟨target, htarget, -, hne, htargetMem, rfl⟩⟩ :=
      maybeMergeAfterEmbed_ok h
    · refine iff_of_true (hsame heq) ?_
      intro other target hother htarget
      rw [hcurrent] at hother
      cases hother
      rw [hnone] at htarget
      cases htarget
    have hsource : ∃ meme ∈ s.memes, meme.id = memeId := ⟨current, meme_eq_some hcurrent⟩
    rw [hcounts.applyMerge_iff hs.memes_unique hne hsource ⟨target, htargetMem, rfl⟩,
      ← likersDisjoint_iff]
    constructor
    · intro hdisjoint other found hother hfound
      rw [hcurrent] at hother
      cases hother
      rw [htarget] at hfound
      cases hfound
      exact hdisjoint
    · intro hmoves
      exact hmoves current target hcurrent htarget
  | reconcileSha sha256Hex files isPublic =>
    obtain ⟨canonical, obsolete, hgroup, ⟨-, heq⟩ | ⟨-, rfl⟩⟩ := reconcileSha_ok h
    · exact hexact (hsame heq) rfl
    have hnodup := nodup_reconciledMemes hs.memes_unique files
    rw [hgroup, List.map_cons, List.nodup_cons] at hnodup
    refine hexact ?_ rfl
    rw [counts_refreshEffectiveVisibility_iff]
    exact hcounts.reconcile hs hnodup.1
  | deleteMeme memeId confirmation =>
    obtain ⟨-, rfl⟩ := deleteMeme_ok h
    exact hexact hcounts.deleteMemes rfl

/-- Like counts stay exact along a run exactly when every step moves saves with their likes. -/
theorem likesExact_runs_iff (as : List LibraryLabel) :
    (∀ x ∈ transitions libraryStep {} as, LikesExact x.after) ↔
      ∀ x ∈ transitions libraryStep {} as, LikesMoveWithSaves x.before x.label := by
  have hstep : ∀ x ∈ transitions libraryStep {} as, LikesExact x.before →
      (LikesExact x.after ↔ LikesMoveWithSaves x.before x.label) := by
    intro x hx hbefore
    rw [likesExact_iff (constraints_after hx)]
    exact counts_step_iff (constraints_before hx)
      ((likesExact_iff (constraints_before hx)).mp hbefore)
      (libraryStep_eq_some.mp (step_of_mem_transitions hx))
  have hempty : LikesExact {} := fun meme hmeme => (List.not_mem_nil hmeme).elim
  constructor
  · intro hexact x hx
    have hbefore : LikesExact x.before := invariant_before hempty (fun y hy _ => hexact y hy) hx
    exact (hstep x hx hbefore).mp (hexact x hx)
  intro hmoves x hx
  have hbefore : LikesExact x.before :=
    invariant_before hempty (fun y hy h => (hstep y hy h).mpr (hmoves y hy)) hx
  exact (hstep x hx hbefore).mpr (hmoves x hx)

/-- A meme uploaded straight into Favorites is in Favorites with no like. -/
theorem likes_drift : ¬ ∀ as, ∀ x ∈ transitions libraryStep {} as, LikesExact x.after := by
  intro h
  have hdrift : ∃ x ∈ transitions libraryStep {}
      [.createGuest 1, .ensureFavorites 1 10, .materializeMeme 5 true (some 1) (some 10) 0],
      ∃ meme ∈ x.after.memes, meme.likeCount ≠ (favoritesHolding x.after meme.id).length := by
    decide
  obtain ⟨x, hx, meme, hmeme, hne⟩ := hdrift
  exact hne (h _ x hx meme hmeme)

end Counting

end MemeExpert.Services
