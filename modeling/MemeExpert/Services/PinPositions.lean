import MemeExpert.Lib.InitialSegments
import MemeExpert.Services.LibraryRuns

/-! A new pin goes behind the pins its user has, at one more than their number. That
position is free as long as the pins are numbered from one without gaps. -/

namespace MemeExpert.Services

open Ingest InitialSegments Repointing Results Runs

/-- The pins of every user are distinct memes, at most twenty, at positions `1..n`. -/
structure PinsContiguous (s : Library) : Prop where
  distinct : ∀ userId, ((s.pinsOf userId).map PinnedMeme.memeId).Nodup
  at_most : ∀ userId, (s.pinsOf userId).length ≤ maxPinnedMemes
  positions : ∀ userId, ((s.pinsOf userId).map PinnedMeme.position).Perm
    (List.range' 1 (s.pinsOf userId).length)

def PinningSucceeds (s : Library) : Prop :=
  ∀ userId memeId now user meme, getLockedFullUser s userId = .ok user →
    getVisibleMeme s memeId userId = .ok meme → s.pinned userId memeId = false →
      (s.pinsOf userId).length < maxPinnedMemes →
        ∃ t, pinMeme s userId memeId now = .ok (t, true)

def dropsPin (s : Library) : LibraryLabel → PinnedMeme → Bool
  | .mergeGuest guestUserId _ _ _, pin => pin.userId = guestUserId
  | .deleteCustomCollection collectionId _, pin => orphanedByCollectionDelete s collectionId pin.memeId
  | .removeMeme collectionId _ memeId, pin =>
    pin.memeId = memeId && orphanedByCollectionDelete s collectionId memeId
  | .unfavoriteMeme userId memeId, pin =>
    pin.memeId = memeId && (s.favoritesOf userId).any fun favorites =>
      orphanedByCollectionDelete s favorites.id memeId
  | .removeMemeFromActive userId memeId, pin =>
    pin.memeId = memeId && ((s.user userId).bind User.activeSaveCollectionId).any fun collectionId =>
      orphanedByCollectionDelete s collectionId memeId
  | .mergeMeme memeId targetMemeId _ _, pin =>
    dropped pinColumns targetMemeId [memeId] s.pinnedMemes pin
  | .mergeAfterEmbed memeId similar uploader _, pin =>
    ((s.meme memeId).bind fun current =>
      selectMergeTarget s uploader current (similar.filter fun id => id ≠ memeId)).any fun target =>
        dropped pinColumns target.id [memeId] s.pinnedMemes pin
  | .reconcileSha _ files _, pin =>
    match reconciledMemes s files with
    | [] => false
    | canonical :: obsolete =>
      dropped pinColumns canonical.id (obsolete.map Meme.id) s.pinnedMemes pin
  | .deleteMeme memeId _, pin => pin.memeId = memeId
  | _, _ => false

def DropsLastPins (s : Library) (label : LibraryLabel) : Prop :=
  ∀ pin ∈ s.pinnedMemes, ∀ other ∈ s.pinnedMemes, other.userId = pin.userId →
    dropsPin s label pin = true → dropsPin s label other = false → other.position < pin.position

section Positions

variable {s t : Library} {userId memeId : Uuid} {position : Nat}

def positions (s : Library) (userId : Uuid) : Finset Nat :=
  ((s.pinsOf userId).map PinnedMeme.position).toFinset

def PinsInitial (s : Library) : Prop := ∀ userId, IsInitial (positions s userId)

theorem mem_pinsOf {pin : PinnedMeme} :
    pin ∈ s.pinsOf userId ↔ pin ∈ s.pinnedMemes ∧ pin.userId = userId := by
  simp [Library.pinsOf]

theorem mem_positions : position ∈ positions s userId ↔
    ∃ pin ∈ s.pinnedMemes, pin.userId = userId ∧ pin.position = position := by
  simp only [positions, List.mem_toFinset, List.mem_map, mem_pinsOf, and_assoc]

theorem pins_nodup (hs : s.Constraints) : s.pinnedMemes.Nodup := hs.positions_unique.of_map

theorem positions_nodup (hs : s.Constraints) (userId : Uuid) :
    ((s.pinsOf userId).map PinnedMeme.position).Nodup := by
  refine List.Nodup.map_on ?_ ((pins_nodup hs).filter _)
  intro pin hpin other hother heq
  rw [mem_pinsOf] at hpin hother
  refine List.inj_on_of_nodup_map hs.positions_unique hpin.1 hother.1 ?_
  rw [hpin.2, hother.2, heq]

theorem memes_nodup (hs : s.Constraints) (userId : Uuid) :
    ((s.pinsOf userId).map PinnedMeme.memeId).Nodup := by
  refine List.Nodup.map_on ?_ ((pins_nodup hs).filter _)
  intro pin hpin other hother heq
  rw [mem_pinsOf] at hpin hother
  refine List.inj_on_of_nodup_map hs.pins_unique hpin.1 hother.1 ?_
  rw [hpin.2, hother.2, heq]

theorem card_positions (hs : s.Constraints) (userId : Uuid) :
    (positions s userId).card = (s.pinsOf userId).length := by
  rw [positions, List.toFinset_card_of_nodup (positions_nodup hs userId), List.length_map]

theorem pinsOf_length_le (hs : s.Constraints) (userId : Uuid) :
    (s.pinsOf userId).length ≤ maxPinnedMemes := by
  have hrange : positions s userId ⊆ Finset.Icc 1 20 := by
    intro position hposition
    obtain ⟨pin, hpin, -, rfl⟩ := mem_positions.mp hposition
    exact Finset.mem_Icc.mpr (hs.positions_range pin hpin)
  have hcard := Finset.card_le_card hrange
  rw [card_positions hs, Nat.card_Icc] at hcard
  exact hcard

theorem toFinset_range' (n : Nat) : (List.range' 1 n).toFinset = Finset.Icc 1 n := by
  ext position
  rw [List.mem_toFinset, List.mem_range'_1, Finset.mem_Icc]
  omega

theorem pinsContiguous_iff (hs : s.Constraints) : PinsContiguous s ↔ PinsInitial s := by
  constructor
  · intro h userId
    have hset := List.toFinset_eq_of_perm _ _ (h.positions userId)
    rw [toFinset_range', ← card_positions hs] at hset
    exact hset
  intro h
  refine ⟨memes_nodup hs, pinsOf_length_le hs, ?_⟩
  intro userId
  refine List.perm_of_nodup_nodup_toFinset_eq (positions_nodup hs userId) List.nodup_range' ?_
  rw [toFinset_range', ← card_positions hs]
  exact h userId

theorem PinsInitial.pinningSucceeds (hs : s.Constraints) (h : PinsInitial s) :
    PinningSucceeds s := by
  intro userId memeId now user meme huser hmeme hpinned hlength
  obtain ⟨hfound, -⟩ := getLockedFullUser_ok.mp huser
  obtain ⟨huserMem, rfl⟩ := user_eq_some hfound
  obtain ⟨hmemeMem, rfl⟩ := meme_eq_some (getVisibleMeme_ok hmeme)
  let pin : PinnedMeme :=
    { userId := user.id, memeId := meme.id, position := (s.pinsOf user.id).length + 1, pinnedAt := now }
  have hposition : ∀ other ∈ s.pinnedMemes, other.userId = user.id →
      other.position ≠ (s.pinsOf user.id).length + 1 := by
    intro other hother howner heq
    refine (h user.id).next_notMem ?_
    rw [card_positions hs]
    exact mem_positions.mpr ⟨other, hother, howner, heq⟩
  have hnew : ∀ other ∈ s.pinnedMemes, other.userId = user.id → other.memeId ≠ meme.id := by
    intro other hother howner heq
    have hheld := pinned_iff.mpr ⟨other, hother, howner, heq⟩
    rw [hpinned] at hheld
    cases hheld
  have ht : Library.Constraints { s with pinnedMemes := s.pinnedMemes ++ [pin] } := by
    refine { hs with pins_unique := ?_, positions_unique := ?_, positions_range := ?_,
                     pins_user := ?_, pins_meme := ?_ }
    · rw [List.map_append, List.nodup_append]
      refine ⟨hs.pins_unique, List.nodup_singleton _, ?_⟩
      simp only [List.mem_map, List.map_cons, List.map_nil, List.mem_singleton]
      rintro _ ⟨other, hother, rfl⟩ _ rfl heq
      rw [Prod.mk.injEq] at heq
      exact hnew other hother heq.1 heq.2
    · rw [List.map_append, List.nodup_append]
      refine ⟨hs.positions_unique, List.nodup_singleton _, ?_⟩
      simp only [List.mem_map, List.map_cons, List.map_nil, List.mem_singleton]
      rintro _ ⟨other, hother, rfl⟩ _ rfl heq
      rw [Prod.mk.injEq] at heq
      exact hposition other hother heq.1 heq.2
    · intro other hother
      rcases List.mem_append.mp hother with hold | hlast
      · exact hs.positions_range other hold
      rw [List.mem_singleton] at hlast
      subst hlast
      unfold maxPinnedMemes at hlength
      exact ⟨Nat.le_add_left .., hlength⟩
    · intro other hother
      rcases List.mem_append.mp hother with hold | hlast
      · exact hs.pins_user other hold
      rw [List.mem_singleton] at hlast
      subst hlast
      exact List.mem_map_of_mem huserMem
    intro other hother
    rcases List.mem_append.mp hother with hold | hlast
    · exact hs.pins_meme other hold
    rw [List.mem_singleton] at hlast
    subst hlast
    exact List.mem_map_of_mem hmemeMem
  refine ⟨{ s with pinnedMemes := s.pinnedMemes ++ [pin] }, ?_⟩
  simp only [pinMeme, bind_eq_ok]
  refine ⟨user, huser, meme, hmeme, ?_⟩
  rw [if_neg (by simp [hpinned]), guard_eq_ok]
  refine ⟨Nat.not_le.mpr hlength, ?_⟩
  simp only [bind_eq_ok, Library.commit_eq_ok]
  exact ⟨_, ⟨ht, rfl⟩, rfl⟩

variable {label : LibraryLabel}

def PinsLeft (s t : Library) (drops : PinnedMeme → Bool) : Prop :=
  ∀ userId position, position ∈ positions t userId ↔
    ∃ pin ∈ s.pinnedMemes, pin.userId = userId ∧ pin.position = position ∧ drops pin = false

theorem PinsLeft.initial_iff (hs : s.Constraints) (hinitial : PinsInitial s)
    (h : PinsLeft s t (dropsPin s label)) : PinsInitial t ↔ DropsLastPins s label := by
  have hsub : ∀ userId, positions t userId ⊆ positions s userId := by
    intro userId position hposition
    obtain ⟨pin, hpin, howner, hat, -⟩ := (h userId position).mp hposition
    exact mem_positions.mpr ⟨pin, hpin, howner, hat⟩
  have hdropped : ∀ pin ∈ s.pinnedMemes, dropsPin s label pin = true →
      pin.position ∉ positions t pin.userId := by
    intro pin hpin hdrop hmem
    obtain ⟨other, hother, howner, hat, hkept⟩ := (h pin.userId pin.position).mp hmem
    have hsame : other = pin := List.inj_on_of_nodup_map hs.positions_unique hother hpin
      (by rw [howner, hat])
    rw [hsame, hdrop] at hkept
    cases hkept
  constructor
  · intro hleft pin hpin other hother howner hdrop hkept
    refine ((hinitial pin.userId).subset_iff (hsub pin.userId)).mp (hleft pin.userId)
      other.position ?_ pin.position ?_ (hdropped pin hpin hdrop)
    · exact (h pin.userId other.position).mpr ⟨other, hother, howner, rfl, hkept⟩
    · exact mem_positions.mpr ⟨pin, hpin, rfl, rfl⟩
  intro hlast userId
  refine ((hinitial userId).subset_iff (hsub userId)).mpr ?_
  intro kept hkept gone hgone hnot
  obtain ⟨other, hother, howner, rfl, hstays⟩ := (h userId kept).mp hkept
  obtain ⟨pin, hpin, hpinOwner, rfl⟩ := mem_positions.mp hgone
  refine hlast pin hpin other hother (howner.trans hpinOwner.symm) ?_ hstays
  by_contra hstay
  exact hnot ((h userId pin.position).mpr
    ⟨pin, hpin, hpinOwner, rfl, Bool.eq_false_iff.mpr hstay⟩)

theorem pinsLeft_of_mem {drops : PinnedMeme → Bool}
    (h : ∀ pin, pin ∈ t.pinnedMemes ↔ pin ∈ s.pinnedMemes ∧ drops pin = false) :
    PinsLeft s t drops := by
  intro userId position
  simp only [mem_positions, h]
  constructor
  · rintro ⟨pin, ⟨hpin, hkept⟩, howner, hat⟩
    exact ⟨pin, hpin, howner, hat, hkept⟩
  · rintro ⟨pin, hpin, howner, hat, hkept⟩
    exact ⟨pin, ⟨hpin, hkept⟩, howner, hat⟩

theorem pinsLeft_of_transfer {obsolete : List Uuid} {canonical : Uuid}
    (hcanonical : canonical ∉ obsolete) (hnodup : obsolete.Nodup)
    (h : ∀ pin, pin ∈ t.pinnedMemes ↔
      pin ∈ (transferObsolete s obsolete canonical).pinnedMemes ∧ pin.memeId ∉ obsolete) :
    PinsLeft s t (dropped pinColumns canonical obsolete s.pinnedMemes) := by
  have hmoved : ∀ pin, pin ∈ t.pinnedMemes ↔
      pin ∈ repointAll pinColumns canonical obsolete s.pinnedMemes := by
    intro pin
    rw [h, transferObsolete_eq]
    refine ⟨And.left, fun hpin => ⟨hpin, ?_⟩⟩
    have hheld : holds pinColumns (repointAll pinColumns canonical obsolete s.pinnedMemes)
        pin.userId pin.memeId = true := holds_iff.mpr ⟨pin, hpin, rfl, rfl⟩
    rcases (holds_repointAll hcanonical).mp hheld with ⟨hnot, -⟩ | ⟨heq, -⟩
    · exact hnot
    · exact heq ▸ hcanonical
  intro userId position
  simp only [mem_positions, hmoved]
  have hmark : ∀ memeId pin,
      PinnedMeme.position (pinColumns.withRef memeId pin) = pin.position := fun _ _ => rfl
  exact exists_mark_repointAll hmark hcanonical hnodup

theorem pinsLeft_applyMerge {source target : Uuid} {isPublic : Bool} (hne : target ≠ source) :
    PinsLeft s (applyMerge s source target isPublic)
      (dropped pinColumns target [source] s.pinnedMemes) := by
  refine pinsLeft_of_transfer (by simpa using hne) (List.nodup_singleton _) ?_
  intro pin
  have hpins : (applyMerge s source target isPublic).pinnedMemes =
      (transferObsolete s [source] target).pinnedMemes.filter fun pin => ¬ pin.memeId = source := by
    unfold applyMerge accumulateLikeCount
    simp only
    split <;> simp [deleteMemes, refreshEffectiveVisibility, updateLikeCount, transferObsolete]
  rw [hpins, List.mem_filter, decide_eq_true_eq, List.mem_singleton]

theorem PinsInitial.of_pins_eq (hinitial : PinsInitial s) (h : t.pinnedMemes = s.pinnedMemes) :
    PinsInitial t := by
  intro userId
  rw [positions, Library.pinsOf, h]
  exact hinitial userId

theorem PinsInitial.pin {pin : PinnedMeme} (hs : s.Constraints) (hinitial : PinsInitial s)
    (hnext : pin.position = (s.pinsOf pin.userId).length + 1) :
    PinsInitial { s with pinnedMemes := s.pinnedMemes ++ [pin] } := by
  intro userId
  by_cases howner : pin.userId = userId
  · subst howner
    have hnew : positions { s with pinnedMemes := s.pinnedMemes ++ [pin] } pin.userId =
        insert ((positions s pin.userId).card + 1) (positions s pin.userId) := by
      ext position
      simp only [mem_positions, List.mem_append, List.mem_singleton, Finset.mem_insert,
        card_positions hs, ← hnext]
      constructor
      · rintro ⟨other, hother | rfl, hsame, rfl⟩
        · exact .inr ⟨other, hother, hsame, rfl⟩
        · exact .inl rfl
      · rintro (rfl | ⟨other, hother, hsame, rfl⟩)
        · exact ⟨pin, .inr rfl, rfl, rfl⟩
        · exact ⟨other, .inl hother, hsame, rfl⟩
    rw [hnew]
    exact (hinitial pin.userId).insert_next
  · have hsame : positions { s with pinnedMemes := s.pinnedMemes ++ [pin] } userId =
        positions s userId := by
      simp [positions, Library.pinsOf, howner]
    rw [hsame]
    exact hinitial userId

theorem RenumbersPins.initial (hinitial : PinsInitial s) (h : RenumbersPins s t) :
    PinsInitial t := by
  obtain ⟨owner, pins, hpins, -, rfl⟩ := h
  have howned : ∀ pin ∈ numberPins pins, pin.userId = owner := by
    intro pin hpin
    obtain ⟨⟨old, index⟩, hold, rfl⟩ := List.mem_map.mp hpin
    exact (mem_pinsOf.mp (hpins old (List.fst_mem_of_mem_zipIdx hold))).2
  intro userId
  by_cases hsame : owner = userId
  · subst hsame
    have hnumbered : (numberPins pins).map PinnedMeme.position = List.range' 1 pins.length := by
      rw [numberPins, List.map_map, ← List.zipIdx_map_snd]
      rfl
    have hleft : (replacePins s owner (numberPins pins)).pinsOf owner = numberPins pins := by
      rw [Library.pinsOf, replacePins, List.filter_append, List.filter_filter]
      have hnone : (s.pinnedMemes.filter fun pin =>
          decide (pin.userId = owner) && decide (¬ pin.userId = owner)) = [] := by
        simp
      rw [hnone, List.nil_append, List.filter_eq_self]
      intro pin hpin
      exact decide_eq_true (howned pin hpin)
    rw [positions, hleft, hnumbered, toFinset_range']
    exact isInitial_Icc _
  · have hkept : (replacePins s owner (numberPins pins)).pinsOf userId = s.pinsOf userId := by
      rw [Library.pinsOf, replacePins, List.filter_append, List.filter_filter]
      have hnone : (numberPins pins).filter (fun pin => pin.userId = userId) = [] := by
        rw [List.filter_eq_nil_iff]
        intro pin hpin
        rw [howned pin hpin]
        simpa using hsame
      rw [hnone, List.append_nil, Library.pinsOf]
      refine List.filter_congr ?_
      intro pin hpin
      by_cases hmine : pin.userId = userId
      · simp [hmine, Ne.symm hsame]
      · simp [hmine]
    rw [positions, hkept]
    exact hinitial userId

theorem isOrphanPrivate_updateLikeCount {memeId : Uuid} {count : Nat → Nat} :
    isOrphanPrivate (updateLikeCount s memeId count) memeId = isOrphanPrivate s memeId := by
  have hsame : (updateLikeCount s memeId count).memes.any
        (fun meme => meme.id = memeId && !meme.isPublic) =
      s.memes.any fun meme => meme.id = memeId && !meme.isPublic := by
    rw [updateLikeCount, List.any_map]
    congr 1
    funext meme
    by_cases hid : meme.id = memeId <;> simp [hid]
  rw [isOrphanPrivate, hsame]
  rfl

theorem isOrphanPrivate_deleteCollectionMeme {collectionId memeId : Uuid}
    (hsaved : s.saved collectionId memeId = true) :
    isOrphanPrivate (deleteCollectionMeme s collectionId memeId) memeId =
      orphanedByCollectionDelete s collectionId memeId := by
  have hothers : (deleteCollectionMeme s collectionId memeId).collectionMemes.any
        (fun row => row.memeId = memeId) =
      s.collectionMemes.any fun row => row.memeId = memeId && row.collectionId ≠ collectionId := by
    rw [deleteCollectionMeme, List.any_filter]
    congr 1
    funext row
    by_cases hmeme : row.memeId = memeId <;> simp [hmeme]
  rw [isOrphanPrivate, hothers, orphanedByCollectionDelete, hsaved, Bool.and_true]
  rfl

theorem RemovesFrom.pinsLeft {collection : Collection} {memeId : Uuid}
    (h : RemovesFrom s t collection memeId) :
    PinsLeft s t fun pin =>
      pin.memeId = memeId && orphanedByCollectionDelete s collection.id memeId := by
  refine pinsLeft_of_mem ?_
  intro pin
  rcases h with ⟨hsaved, rfl⟩ | ⟨-, hsaved, -, rfl⟩
  · simp [orphanedByCollectionDelete, hsaved]
  rw [← isOrphanPrivate_deleteCollectionMeme hsaved]
  have horphan : (removeAndCount s collection memeId).pinnedMemes = s.pinnedMemes.filter fun pin =>
      ¬ (pin.memeId = memeId &&
        isOrphanPrivate (deleteCollectionMeme s collection.id memeId) memeId) = true := by
    unfold removeAndCount deleteOrphanPrivateMemeIfUnreferenced
    simp only
    split
    · rw [decrementLikeCount, isOrphanPrivate_updateLikeCount]
      rfl
    · rfl
  rw [horphan, List.mem_filter, decide_eq_true_eq, Bool.not_eq_true]

theorem handOverFavorites_pins {target : User} {newId : Uuid} {guestFavorites : Option Collection}
    (h : handOverFavorites s target newId guestFavorites = .ok t) :
    t.pinnedMemes = s.pinnedMemes := by
  rcases handOverFavorites_ok h with ⟨-, rfl⟩ | ⟨favorites, -, -, rfl⟩ |
    ⟨favorites, ensured, targetFavorites, -, hensured, rfl⟩
  · rfl
  · rfl
  rcases ensureFavoritesCollection_ok hensured with ⟨rfl, -⟩ | ⟨-, -, user, -, rfl, -⟩
  · rfl
  · rfl

theorem SavesInto.pins (h : SavesInto s t) : t.pinnedMemes = s.pinnedMemes := by
  obtain ⟨ensured, collection, row, hensured, -, -, -, rfl⟩ := h
  have hcounted : (insertAndCount ensured row collection.kind).1.pinnedMemes =
      ensured.pinnedMemes := by
    simp only [insertAndCount, insertCollectionMeme]
    split <;> split <;> rfl
  rw [hcounted]
  rcases hensured with rfl | ⟨userId, newId, favorites, hok⟩
  · rfl
  rcases ensureFavoritesCollection_ok hok with ⟨rfl, -⟩ | ⟨-, -, user, -, rfl, -⟩
  · rfl
  · rfl

theorem withTargetSave_pins {uploaderUserId : Option Uuid} {target : Option Collection}
    {memeId : Uuid} {now : Time} :
    (withTargetSave s uploaderUserId target memeId now).pinnedMemes = s.pinnedMemes := by
  unfold withTargetSave insertCollectionMeme
  split
  · rfl
  · split <;> rfl

theorem obsolete_eq_nil {files : List Uuid} {canonical : Meme} {obsolete : List Meme}
    (hs : (s.memes.map Meme.id).Nodup) (hgroup : reconciledMemes s files = canonical :: obsolete)
    (hsingle : files.length ≤ 1) : obsolete = [] := by
  have hnodup := nodup_reconciledMemes hs files
  have hsub : (reconciledMemes s files).map Meme.id ⊆ files := by
    intro memeId hmem
    obtain ⟨meme, hmeme, rfl⟩ := List.mem_map.mp hmem
    have hfile := List.mem_filter.mp ((List.mem_insertionSort _).mp hmeme)
    exact of_decide_eq_true hfile.2
  have hlength := (hnodup.subperm hsub).length_le
  rw [hgroup, List.length_map, List.length_cons] at hlength
  exact List.eq_nil_of_length_eq_zero (by omega)

theorem pins_step_iff (hs : s.Constraints) (hinitial : PinsInitial s)
    (h : runLibrary s label = .ok t) : PinsInitial t ↔ DropsLastPins s label := by
  have hkeep : PinsInitial t → (∀ pin, dropsPin s label pin = false) →
      (PinsInitial t ↔ DropsLastPins s label) := by
    intro hafter hnone
    refine iff_of_true hafter ?_
    intro pin _ other _ _ hdrop
    rw [hnone] at hdrop
    cases hdrop
  have hsame : t.pinnedMemes = s.pinnedMemes → PinsInitial t := hinitial.of_pins_eq
  cases label with
  | createGuest userId =>
    obtain ⟨-, rfl⟩ := Library.commit_eq_ok.mp h
    exact hkeep (hsame rfl) fun _ => rfl
  | upgradeGuest userId telegramId googleId email =>
    obtain ⟨-, users, rfl⟩ := upgradeGuest_ok h
    exact hkeep (hsame rfl) fun _ => rfl
  | mergeGuest guestUserId targetUserId newId googleId =>
    obtain ⟨-, -, user, handedOver, -, hhanded, rfl⟩ := mergeGuestIntoExistingFull_ok h
    refine PinsLeft.initial_iff hs hinitial (pinsLeft_of_mem ?_)
    intro pin
    have hpins := handOverFavorites_pins hhanded
    simp only [deleteUser, hpins, attachGoogleIdentity, dropsPin, List.mem_filter,
      decide_eq_true_eq, decide_eq_false_iff_not]
  | ensureFavorites userId newId =>
    obtain ⟨r, hr, rfl⟩ := map_eq_ok.mp h
    rcases ensureFavoritesCollection_ok hr with ⟨heq, -⟩ | ⟨-, -, user, -, heq, -⟩
    · exact hkeep (hsame (by rw [heq])) fun _ => rfl
    · exact hkeep (hsame (by rw [heq]; rfl)) fun _ => rfl
  | createCustomCollection ownerUserId newId =>
    obtain ⟨-, collection, members, -, rfl⟩ := createCustomCollection_ok h
    exact hkeep (hsame rfl) fun _ => rfl
  | ensureMember collectionId userId role =>
    obtain ⟨-, members, rfl⟩ := ensureMember_ok h
    exact hkeep (hsame rfl) fun _ => rfl
  | updateActiveSaveCollection userId collectionId =>
    obtain ⟨-, users, rfl⟩ := updateActiveSaveCollection_ok h
    exact hkeep (hsame rfl) fun _ => rfl
  | deleteCustomCollection collectionId userId =>
    obtain ⟨collection, -, rfl, -, -, users, rfl⟩ := deleteCustomCollection_ok h
    refine PinsLeft.initial_iff hs hinitial (pinsLeft_of_mem ?_)
    intro pin
    simp [deleteCollection, deleteMemes, dropsPin]
  | saveMeme collectionId userId memeId now =>
    obtain ⟨r, hr, rfl⟩ := map_eq_ok.mp h
    exact hkeep (hsame (saveMemeToCollection_ok hr).pins) fun _ => rfl
  | removeMeme collectionId userId memeId =>
    obtain ⟨r, hr, rfl⟩ := map_eq_ok.mp h
    obtain ⟨collection, hfound, hremoved⟩ := removeMemeFromCollection_ok hr
    obtain ⟨-, rfl⟩ := collection_eq_some hfound
    exact PinsLeft.initial_iff hs hinitial hremoved.pinsLeft
  | favoriteMeme userId memeId newId now =>
    obtain ⟨r, hr, rfl⟩ := map_eq_ok.mp h
    exact hkeep (hsame (favoriteMeme_ok hr).pins) fun _ => rfl
  | unfavoriteMeme userId memeId =>
    obtain ⟨r, hr, rfl⟩ := map_eq_ok.mp h
    rcases unfavoriteMeme_ok hr with ⟨hnone, heq⟩ | ⟨favorites, hfound, hremoved⟩
    · refine hkeep (hsame (by rw [heq])) ?_
      intro pin
      simp [dropsPin, hnone]
    refine PinsLeft.initial_iff hs hinitial ?_
    have hdrops : dropsPin s (.unfavoriteMeme userId memeId) = fun pin =>
        pin.memeId = memeId && orphanedByCollectionDelete s favorites.id memeId := by
      funext pin
      simp only [dropsPin, hfound, Option.any_some]
    rw [hdrops]
    exact hremoved.pinsLeft
  | saveMemeToActive userId memeId newId now =>
    obtain ⟨r, hr, rfl⟩ := map_eq_ok.mp h
    exact hkeep (hsame (saveMemeToActiveCollection_ok hr).pins) fun _ => rfl
  | removeMemeFromActive userId memeId =>
    obtain ⟨r, hr, rfl⟩ := map_eq_ok.mp h
    obtain ⟨user, hfound, ⟨hnone, heq⟩ | ⟨collection, hactive, hremoved⟩⟩ :=
      removeMemeFromActiveCollection_ok hr
    · refine hkeep (hsame (by rw [heq])) ?_
      intro pin
      simp [dropsPin, hfound, hnone]
    obtain ⟨collectionId, hid, hcollection⟩ := Option.bind_eq_some_iff.mp hactive
    obtain ⟨-, rfl⟩ := collection_eq_some hcollection
    refine PinsLeft.initial_iff hs hinitial ?_
    have hdrops : dropsPin s (.removeMemeFromActive userId memeId) = fun pin =>
        pin.memeId = memeId && orphanedByCollectionDelete s collection.id memeId := by
      funext pin
      simp only [dropsPin, hfound, Option.bind_some, hid, Option.any_some]
    rw [hdrops]
    exact hremoved.pinsLeft
  | pinMeme userId memeId now =>
    obtain ⟨r, hr, rfl⟩ := map_eq_ok.mp h
    rcases pinMeme_ok hr with heq | ⟨-, pin, hnext, heq⟩
    · exact hkeep (hsame (by rw [heq])) fun _ => rfl
    · exact hkeep (heq ▸ hinitial.pin hs hnext) fun _ => rfl
  | unpinMeme userId memeId =>
    obtain ⟨r, hr, rfl⟩ := map_eq_ok.mp h
    rcases unpinMeme_ok hr with heq | hrenumbered
    · exact hkeep (hsame (by rw [heq])) fun _ => rfl
    · exact hkeep (hrenumbered.initial hinitial) fun _ => rfl
  | reorderPins userId memeIds => exact hkeep ((reorderPins_ok h).initial hinitial) fun _ => rfl
  | materializeMeme memeId isPublic uploaderUserId targetCollectionId now =>
    obtain ⟨-, rfl⟩ := materializeMeme_ok h
    exact hkeep (hsame withTargetSave_pins) fun _ => rfl
  | attachShaDuplicate memeId isPublic uploaderUserId targetCollectionId now =>
    obtain ⟨-, -, rfl⟩ := attachShaDuplicate_ok h
    exact hkeep (hsame withTargetSave_pins) fun _ => rfl
  | refreshVisibility memeId isPublic =>
    obtain ⟨-, rfl⟩ := Library.commit_eq_ok.mp h
    exact hkeep (hsame rfl) fun _ => rfl
  | mergeMeme memeId targetMemeId confirmation isPublic =>
    obtain ⟨-, hne, -, -, rfl⟩ := mergeMeme_ok h
    exact PinsLeft.initial_iff hs hinitial (pinsLeft_applyMerge hne)
  | mergeAfterEmbed memeId similar uploader isPublic =>
    obtain ⟨current, hcurrent, ⟨hnone, heq⟩ | ⟨target, htarget, -, hne, -, rfl⟩⟩ :=
      maybeMergeAfterEmbed_ok h
    · refine hkeep (hsame (by rw [heq])) ?_
      intro pin
      simp only [dropsPin, hcurrent, Option.bind_some, hnone, Option.any_none]
    refine PinsLeft.initial_iff hs hinitial ?_
    have hdrops : dropsPin s (.mergeAfterEmbed memeId similar uploader isPublic) =
        dropped pinColumns target.id [memeId] s.pinnedMemes := by
      funext pin
      simp only [dropsPin, hcurrent, Option.bind_some, htarget, Option.any_some]
    rw [hdrops]
    exact pinsLeft_applyMerge hne
  | reconcileSha sha256Hex files isPublic =>
    obtain ⟨canonical, obsolete, hgroup, hdone⟩ := reconcileSha_ok h
    have hnodup := nodup_reconciledMemes hs.memes_unique files
    have hdrops : dropsPin s (.reconcileSha sha256Hex files isPublic) =
        dropped pinColumns canonical.id (obsolete.map Meme.id) s.pinnedMemes := by
      funext pin
      simp only [dropsPin, hgroup]
    rw [hgroup, List.map_cons, List.nodup_cons] at hnodup
    rcases hdone with ⟨hsingle, heq⟩ | ⟨-, rfl⟩
    · have hobsolete : obsolete = [] := obsolete_eq_nil hs.memes_unique hgroup hsingle
      refine hkeep (hsame (by rw [heq])) ?_
      intro pin
      rw [hdrops, hobsolete]
      rfl
    refine PinsLeft.initial_iff hs hinitial ?_
    rw [hdrops]
    refine pinsLeft_of_transfer hnodup.1 hnodup.2 ?_
    intro pin
    simp [refreshEffectiveVisibility, recomputeLikeCount, updateLikeCount, deleteMemes]
  | deleteMeme memeId confirmation =>
    obtain ⟨-, rfl⟩ := deleteMeme_ok h
    refine PinsLeft.initial_iff hs hinitial (pinsLeft_of_mem ?_)
    intro pin
    simp [deleteMemes, dropsPin]

/-- Pins stay contiguous, and pinning possible, along a run exactly when no step takes a pin
away in front of one its user keeps. -/
theorem pinsContiguous_runs_iff (as : List LibraryLabel) :
    (∀ x ∈ transitions libraryStep {} as, PinsContiguous x.after ∧ PinningSucceeds x.after) ↔
      ∀ x ∈ transitions libraryStep {} as, DropsLastPins x.before x.label := by
  have hstep : ∀ x ∈ transitions libraryStep {} as, PinsInitial x.before →
      (PinsInitial x.after ↔ DropsLastPins x.before x.label) := by
    intro x hx hbefore
    exact pins_step_iff (constraints_before hx) hbefore
      (libraryStep_eq_some.mp (step_of_mem_transitions hx))
  have hempty : PinsInitial {} := fun _ => rfl
  constructor
  · intro hpins x hx
    have hafter : ∀ y ∈ transitions libraryStep {} as, PinsInitial y.after := by
      intro y hy
      exact (pinsContiguous_iff (constraints_after hy)).mp (hpins y hy).1
    have hbefore : PinsInitial x.before := invariant_before hempty (fun y hy _ => hafter y hy) hx
    exact (hstep x hx hbefore).mp (hafter x hx)
  intro hlast x hx
  have hbefore : PinsInitial x.before :=
    invariant_before hempty (fun y hy h => (hstep y hy h).mpr (hlast y hy)) hx
  have hafter := (hstep x hx hbefore).mpr (hlast x hx)
  exact ⟨(pinsContiguous_iff (constraints_after hx)).mpr hafter,
    hafter.pinningSucceeds (constraints_after hx)⟩

/-- Deleting the first of three pinned memes leaves positions two and three, and the next pin
would take three again. -/
theorem deletion_breaks_pins :
    ¬ ∀ as, ∀ x ∈ transitions libraryStep {} as,
      PinsContiguous x.after ∧ PinningSucceeds x.after := by
  intro h
  have hgap : ∃ x ∈ transitions libraryStep {}
      [.createGuest 1, .upgradeGuest 1 (some 7) none none, .materializeMeme 5 true none none 0,
        .materializeMeme 6 true none none 0, .materializeMeme 8 true none none 0,
        .materializeMeme 9 true none none 0, .pinMeme 1 5 0, .pinMeme 1 6 0, .pinMeme 1 8 0,
        .deleteMeme 5 "5"],
      ¬ ((x.after.pinsOf 1).map PinnedMeme.position).Perm
          (List.range' 1 (x.after.pinsOf 1).length) ∧
        pinMeme x.after 1 9 0 = .error ⟨.collectionService, "Failed to pin the meme."⟩ := by
    decide +kernel
  obtain ⟨x, hx, hpositions, -⟩ := hgap
  exact hpositions ((h _ x hx).1.positions 1)

end Positions

end MemeExpert.Services
