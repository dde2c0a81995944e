import Mathlib.Algebra.Order.Field.Basic
import Mathlib.Algebra.Order.Field.Rat
import Mathlib.Data.List.Sort
import Mathlib.Data.Prod.Lex
import MemeExpert.Lib.Windows
import MemeExpert.Models.Rows

/-! The public listing divides by the greatest popularity of all its memes, the listing of a
viewer by the greatest of the page. -/

namespace MemeExpert.Services.PopularPages

open Windows
open scoped List

structure CatalogueMeme where
  id : Uuid
  createdAt : Time
  isPublic : Bool := true

section Catalogue

variable (K : Type) [Field K] [LinearOrder K]

structure Listing where
  memes : List CatalogueMeme
  unique : (memes.map CatalogueMeme.id).Nodup
  /-- The scope of the request resolves to public memes. -/
  publicScope : Bool
  passesFilters : CatalogueMeme → Bool
  /-- The meme is in the scope of the viewer. -/
  inScope : CatalogueMeme → Bool
  /-- The meme is loaded for a public page. -/
  loaded : Uuid → Bool
  /-- The latest score in the view of public trends. -/
  trendScore : Uuid → Option K
  /-- The score that is derived for the memes of a viewer. -/
  derivedScore : Uuid → Option K

structure PopularItem where
  rank : Nat
  memeId : Uuid
  popularity : K
  total : K
  deriving DecidableEq

end Catalogue

section Pages

variable {K : Type} [Field K] [LinearOrder K]

def POPULARITY_WEIGHT : K := 5 / 100

def normalizeValue (value maxValue : K) : K :=
  if maxValue ≤ 0 then 0 else max 0 (min 1 (value / maxValue))

def ListedBefore (popularity : Uuid → K) (a b : CatalogueMeme) : Prop :=
  popularity b.id < popularity a.id ∨ (popularity b.id = popularity a.id ∧
    (b.createdAt < a.createdAt ∨ (b.createdAt = a.createdAt ∧ b.id ≤ a.id)))

instance (popularity : Uuid → K) : DecidableRel (ListedBefore popularity) :=
  fun a b => inferInstanceAs (Decidable (popularity b.id < popularity a.id ∨
    (popularity b.id = popularity a.id ∧
      (b.createdAt < a.createdAt ∨ (b.createdAt = a.createdAt ∧ b.id ≤ a.id)))))

def publicPopularity (listing : Listing K) (memeId : Uuid) : K := (listing.trendScore memeId).getD 0

def viewerPopularity (listing : Listing K) (memeId : Uuid) : K :=
  (listing.derivedScore memeId).getD 0

/-- The rows of `_public_popularity_stmt`. -/
def publicRows (listing : Listing K) : List CatalogueMeme :=
  (listing.memes.filter fun meme => meme.isPublic && listing.passesFilters meme).insertionSort
    (ListedBefore (publicPopularity listing))

def sortedMemes (listing : Listing K) : List CatalogueMeme :=
  (listing.memes.filter fun meme =>
    listing.inScope meme && listing.passesFilters meme).insertionSort
      (ListedBefore (viewerPopularity listing))

/-- The greatest score, or zero: `max(..., default=0.0)`. -/
def maxScore : List K → K
  | [] => 0
  | score :: scores => scores.foldl max score

/-- `func.coalesce(func.max(popularity_score), 0.0)` over all rows. -/
def publicMaxPopularity (listing : Listing K) : K :=
  maxScore ((publicRows listing).map fun meme => publicPopularity listing meme.id)

def popularItem (rank : Nat) (memeId : Uuid) (popularity : K) : PopularItem K :=
  { rank := rank
    memeId := memeId
    popularity := popularity
    total := POPULARITY_WEIGHT * popularity }

def publicPopularPage (listing : Listing K) (limit offset : Nat) : List (PopularItem K) :=
  let rows := window (publicRows listing) limit offset
  (rows.zipIdx (offset + 1)).filterMap fun (row, rank) =>
    if listing.loaded row.id then
      some (popularItem rank row.id
        (normalizeValue (publicPopularity listing row.id) (publicMaxPopularity listing)))
    else none

def popularPage (listing : Listing K) (limit offset : Nat) : List (PopularItem K) :=
  if listing.publicScope then publicPopularPage listing limit offset
  else
    let memes := window (sortedMemes listing) limit offset
    let maxPopularity := maxScore (memes.map fun meme => viewerPopularity listing meme.id)
    (memes.zipIdx (offset + 1)).map fun (meme, rank) =>
      popularItem rank meme.id (normalizeValue (viewerPopularity listing meme.id) maxPopularity)

structure PageWindow where
  limit : Nat
  offset : Nat

def PageWindow.page (request : PageWindow) (listing : Listing K) : List (PopularItem K) :=
  popularPage listing request.limit request.offset

structure Agree (listing : Listing K) (first second : PageWindow) : Prop where
  scores : ∀ a ∈ first.page listing, ∀ b ∈ second.page listing, a.memeId = b.memeId →
    a.popularity = b.popularity ∧ a.total = b.total
  order : ∀ memeId ∈ (first.page listing).map PopularItem.memeId,
    memeId ∈ (second.page listing).map PopularItem.memeId →
    ∀ otherId ∈ (first.page listing).map PopularItem.memeId,
    otherId ∈ (second.page listing).map PopularItem.memeId →
      ([memeId, otherId] <+ (first.page listing).map PopularItem.memeId ↔
        [memeId, otherId] <+ (second.page listing).map PopularItem.memeId)

def popularityAt (listing : Listing K) (place : Nat) : Option K :=
  (sortedMemes listing)[place]?.map fun meme => viewerPopularity listing meme.id

/-- Where the later page starts inside the other with a meme that is popular at all, both pages
start with equally popular memes. -/
def StartAlike (listing : Listing K) (first second : PageWindow) : Prop :=
  max first.offset second.offset <
      min (first.offset + first.limit) (second.offset + second.limit) →
    ∀ score, popularityAt listing (max first.offset second.offset) = some score → 0 < score →
      popularityAt listing first.offset = popularityAt listing second.offset

end Pages

section Order

variable {K : Type} [Field K] [LinearOrder K] {listing : Listing K} {popularity : Uuid → K}

omit [Field K] in
theorem listedBefore_iff {a b : CatalogueMeme} : ListedBefore popularity a b ↔
    toLex (popularity b.id, toLex (b.createdAt, b.id)) ≤
      toLex (popularity a.id, toLex (a.createdAt, a.id)) := by
  rw [Prod.Lex.toLex_le_toLex, Prod.Lex.toLex_le_toLex]
  rfl

instance (popularity : Uuid → K) : Std.Total (ListedBefore popularity) where
  total a b := by
    rw [listedBefore_iff, listedBefore_iff]
    exact le_total _ _

instance (popularity : Uuid → K) : IsTrans CatalogueMeme (ListedBefore popularity) where
  trans a b c := by
    rw [listedBefore_iff, listedBefore_iff, listedBefore_iff]
    exact fun hab hbc => hbc.trans hab

omit [Field K] in
theorem nodup_ids_of_filter (condition : CatalogueMeme → Bool) :
    (((listing.memes.filter condition).insertionSort (ListedBefore popularity)).map
      CatalogueMeme.id).Nodup :=
  ((List.perm_insertionSort _ _).map CatalogueMeme.id).nodup_iff.mpr
    (listing.unique.sublist (List.filter_sublist.map _))

theorem nodup_publicRows (listing : Listing K) :
    ((publicRows listing).map CatalogueMeme.id).Nodup := nodup_ids_of_filter _

theorem nodup_sortedMemes (listing : Listing K) :
    ((sortedMemes listing).map CatalogueMeme.id).Nodup := nodup_ids_of_filter _

theorem popularity_antitone (listing : Listing K) :
    (sortedMemes listing).Pairwise fun a b =>
      viewerPopularity listing b.id ≤ viewerPopularity listing a.id := by
  have hsorted : (sortedMemes listing).Pairwise (ListedBefore (viewerPopularity listing)) :=
    List.pairwise_insertionSort _ _
  refine hsorted.imp fun {a b} hbefore => ?_
  rcases hbefore with hless | ⟨hsame, -⟩
  · exact hless.le
  · exact hsame.le

theorem popularityAt_le {first later : Nat} {score greater : K} (hle : first ≤ later)
    (hlater : popularityAt listing later = some score)
    (hfirst : popularityAt listing first = some greater) : score ≤ greater := by
  obtain ⟨laterMeme, hlaterMeme, rfl⟩ := Option.map_eq_some_iff.mp hlater
  obtain ⟨firstMeme, hfirstMeme, rfl⟩ := Option.map_eq_some_iff.mp hfirst
  obtain ⟨hlaterLength, rfl⟩ := List.getElem?_eq_some_iff.mp hlaterMeme
  obtain ⟨hfirstLength, rfl⟩ := List.getElem?_eq_some_iff.mp hfirstMeme
  rcases Nat.eq_or_lt_of_le hle with rfl | hlt
  · exact le_rfl
  · exact List.pairwise_iff_getElem.mp (popularity_antitone listing) _ _ hfirstLength
      hlaterLength hlt

theorem exists_popularityAt_of_le {first later : Nat} {score : K} (hle : first ≤ later)
    (hlater : popularityAt listing later = some score) :
    ∃ greater, popularityAt listing first = some greater ∧ score ≤ greater := by
  obtain ⟨meme, hmeme, -⟩ := Option.map_eq_some_iff.mp hlater
  obtain ⟨hlength, -⟩ := List.getElem?_eq_some_iff.mp hmeme
  have hfirst : popularityAt listing first =
      some (viewerPopularity listing ((sortedMemes listing).get ⟨first, by omega⟩).id) := by
    rw [popularityAt, List.getElem?_eq_getElem (by omega), Option.map_some]
    rfl
  exact ⟨_, hfirst, popularityAt_le hle hlater hfirst⟩

end Order

section Scores

variable {K : Type} [Field K] [LinearOrder K] [IsStrictOrderedRing K] {value maxValue : K}

theorem normalizeValue_nonpos (h : value ≤ 0) : normalizeValue value maxValue = 0 := by
  unfold normalizeValue
  split
  · rfl
  next hmax =>
  have hquotient : value / maxValue ≤ 0 := div_nonpos_of_nonpos_of_nonneg h (not_le.mp hmax).le
  exact max_eq_left ((min_le_right _ _).trans hquotient)

theorem normalizeValue_of_le (hpositive : 0 < value) (hle : value ≤ maxValue) :
    normalizeValue value maxValue = value / maxValue := by
  have hmax : 0 < maxValue := hpositive.trans_le hle
  have hquotient : value / maxValue ≤ 1 := (div_le_one hmax).mpr hle
  unfold normalizeValue
  rw [if_neg (not_le.mpr hmax), min_eq_right hquotient,
    max_eq_right (div_nonneg hpositive.le hmax.le)]

theorem eq_of_normalizeValue_eq {other : K} (hpositive : 0 < value) (hle : value ≤ maxValue)
    (hother : value ≤ other) (h : normalizeValue value maxValue = normalizeValue value other) :
    maxValue = other := by
  rw [normalizeValue_of_le hpositive hle, normalizeValue_of_le hpositive hother] at h
  rw [div_eq_mul_inv, div_eq_mul_inv] at h
  exact inv_injective (mul_left_cancel₀ hpositive.ne' h)

omit [IsStrictOrderedRing K] in
theorem maxScore_of_forall_le {score : K} {scores : List K} (h : ∀ other ∈ scores, other ≤ score) :
    maxScore (score :: scores) = score := by
  rw [maxScore]
  induction scores with
  | nil => rfl
  | cons other scores ih =>
    obtain ⟨hother, hrest⟩ := List.forall_mem_cons.mp h
    rw [List.foldl_cons, max_eq_left hother]
    exact ih hrest

end Scores

section Public

variable {K : Type} [Field K] [LinearOrder K] {listing : Listing K} {limit offset : Nat}
  {first second : PageWindow}

theorem mem_publicPopularPage {item : PopularItem K}
    (h : item ∈ publicPopularPage listing limit offset) :
    item.popularity =
        normalizeValue (publicPopularity listing item.memeId) (publicMaxPopularity listing) ∧
      item.total = POPULARITY_WEIGHT * item.popularity := by
  obtain ⟨⟨row, rank⟩, -, hitem⟩ := List.mem_filterMap.mp h
  dsimp only at hitem
  split at hitem
  · cases hitem
    exact ⟨rfl, rfl⟩
  · cases hitem

omit [LinearOrder K] in
theorem ids_loaded (popularity : Uuid → K) (rows : List CatalogueMeme) (start : Nat)
    (loaded : Uuid → Bool) :
    ((rows.zipIdx start).filterMap fun (row, rank) =>
      if loaded row.id then some (popularItem rank row.id (popularity row.id)) else none).map
        PopularItem.memeId = (rows.map CatalogueMeme.id).filter loaded := by
  induction rows generalizing start with
  | nil => rfl
  | cons row rows ih =>
    rw [List.zipIdx_cons, List.map_cons, List.filterMap_cons]
    cases hloaded : loaded row.id with
    | false =>
      rw [List.filter_cons_of_neg (by simp [hloaded]), ← ih (start + 1)]
      simp only [hloaded, Bool.false_eq_true, if_false]
    | true =>
      rw [List.filter_cons_of_pos hloaded, ← ih (start + 1)]
      simp only [hloaded, if_true]
      rfl

theorem ids_publicPopularPage (listing : Listing K) (limit offset : Nat) :
    (publicPopularPage listing limit offset).map PopularItem.memeId <+
      (publicRows listing).map CatalogueMeme.id := by
  have hids : (publicPopularPage listing limit offset).map PopularItem.memeId =
      ((window (publicRows listing) limit offset).map CatalogueMeme.id).filter listing.loaded :=
    ids_loaded (fun memeId => normalizeValue (publicPopularity listing memeId)
      (publicMaxPopularity listing)) _ _ _
  rw [hids]
  exact List.filter_sublist.trans (window_sublist.map _)

theorem agree_public (hpublic : listing.publicScope = true) : Agree listing first second := by
  have hpage : ∀ request : PageWindow, request.page listing =
      publicPopularPage listing request.limit request.offset :=
    fun request => if_pos hpublic
  constructor
  · intro a ha b hb hsame
    rw [hpage] at ha hb
    obtain ⟨hpopularity, htotal⟩ := mem_publicPopularPage ha
    obtain ⟨hotherPopularity, hotherTotal⟩ := mem_publicPopularPage hb
    have hscores : a.popularity = b.popularity := by
      rw [hpopularity, hotherPopularity, hsame]
    exact ⟨hscores, by rw [htotal, hotherTotal, hscores]⟩
  intro memeId hfirst hsecond otherId hotherFirst hotherSecond
  rw [hpage] at hfirst hotherFirst ⊢
  rw [hpage] at hsecond hotherSecond ⊢
  have hnodup := nodup_publicRows listing
  rw [pair_sublist_iff hnodup (ids_publicPopularPage ..) hfirst hotherFirst,
    pair_sublist_iff hnodup (ids_publicPopularPage ..) hsecond hotherSecond]

end Public

section Viewer

variable {K : Type} [Field K] [LinearOrder K] {listing : Listing K} {limit offset : Nat}
  {first second : PageWindow}

def pageMax (listing : Listing K) (limit offset : Nat) : K :=
  maxScore ((window (sortedMemes listing) limit offset).map fun meme =>
    viewerPopularity listing meme.id)

theorem pageMax_eq {score : K} (hlimit : 0 < limit)
    (h : popularityAt listing offset = some score) : pageMax listing limit offset = score := by
  obtain ⟨meme, hmeme, rfl⟩ := Option.map_eq_some_iff.mp h
  obtain ⟨rest, hwindow⟩ := List.head?_eq_some_iff.mp ((head?_window hlimit).trans hmeme)
  rw [pageMax, hwindow, List.map_cons]
  refine maxScore_of_forall_le (List.forall_mem_map.mpr fun other hother => ?_)
  have hin : other ∈ window (sortedMemes listing) limit offset :=
    hwindow ▸ List.mem_cons_of_mem _ hother
  obtain ⟨place, hplace, -, hat⟩ := mem_window.mp hin
  have hscore : popularityAt listing place = some (viewerPopularity listing other.id) := by
    rw [popularityAt, hat, Option.map_some]
  exact popularityAt_le hplace hscore h

section Viewers

variable (hviewer : listing.publicScope = false)

include hviewer

theorem page_viewer (request : PageWindow) :
    request.page listing =
      ((window (sortedMemes listing) request.limit request.offset).zipIdx
        (request.offset + 1)).map fun (meme, rank) =>
          popularItem rank meme.id (normalizeValue (viewerPopularity listing meme.id)
            (pageMax listing request.limit request.offset)) := by
  rw [PageWindow.page, popularPage, hviewer]
  rfl

theorem ids_page_viewer (request : PageWindow) :
    (request.page listing).map PopularItem.memeId =
      (window (sortedMemes listing) request.limit request.offset).map CatalogueMeme.id := by
  rw [page_viewer hviewer, List.map_map]
  conv => rhs; rw [← List.zipIdx_map_fst (request.offset + 1) (window _ _ _), List.map_map]
  rfl

theorem mem_page_viewer {request : PageWindow}
    {item : PopularItem K} (h : item ∈ request.page listing) :
    item.popularity = normalizeValue (viewerPopularity listing item.memeId)
        (pageMax listing request.limit request.offset) ∧
      item.total = POPULARITY_WEIGHT * item.popularity ∧
      ∃ place, request.offset ≤ place ∧ place < request.offset + request.limit ∧
        ((sortedMemes listing).map CatalogueMeme.id)[place]? = some item.memeId := by
  rw [page_viewer hviewer] at h
  obtain ⟨⟨meme, rank⟩, hmem, rfl⟩ := List.mem_map.mp h
  obtain ⟨place, hfirst, hlast, hat⟩ := mem_window.mp (List.fst_mem_of_mem_zipIdx hmem)
  refine ⟨rfl, rfl, place, hfirst, hlast, ?_⟩
  rw [List.getElem?_map, hat]
  rfl

theorem exists_item_of_place {request : PageWindow}
    {place : Nat} {meme : CatalogueMeme} (hfirst : request.offset ≤ place)
    (hlast : place < request.offset + request.limit)
    (hat : (sortedMemes listing)[place]? = some meme) :
    ∃ item ∈ request.page listing, item.memeId = meme.id := by
  have hid : meme.id ∈ (request.page listing).map PopularItem.memeId := by
    rw [ids_page_viewer hviewer]
    exact List.mem_map_of_mem (mem_window.mpr ⟨place, hfirst, hlast, hat⟩)
  obtain ⟨item, hitem, hsame⟩ := List.mem_map.mp hid
  exact ⟨item, hitem, hsame⟩

theorem order_viewer {memeId otherId : Uuid}
    (hfirst : memeId ∈ (first.page listing).map PopularItem.memeId)
    (hsecond : memeId ∈ (second.page listing).map PopularItem.memeId)
    (hotherFirst : otherId ∈ (first.page listing).map PopularItem.memeId)
    (hotherSecond : otherId ∈ (second.page listing).map PopularItem.memeId) :
    [memeId, otherId] <+ (first.page listing).map PopularItem.memeId ↔
      [memeId, otherId] <+ (second.page listing).map PopularItem.memeId := by
  have hsub : ∀ request : PageWindow, (request.page listing).map PopularItem.memeId <+
      (sortedMemes listing).map CatalogueMeme.id := by
    intro request
    rw [ids_page_viewer hviewer]
    exact window_sublist.map _
  rw [pair_sublist_iff (nodup_sortedMemes listing) (hsub first) hfirst hotherFirst,
    pair_sublist_iff (nodup_sortedMemes listing) (hsub second) hsecond hotherSecond]

variable [IsStrictOrderedRing K]

theorem startAlike_of_agree (h : Agree listing first second) : StartAlike listing first second := by
  intro hoverlap score hscore hpositive
  obtain ⟨meme, hmeme, rfl⟩ := Option.map_eq_some_iff.mp hscore
  obtain ⟨a, ha, hameme⟩ := @exists_item_of_place K _ _ listing hviewer first _ meme
    (le_max_left _ _) (by omega) hmeme
  obtain ⟨b, hb, hbmeme⟩ := @exists_item_of_place K _ _ listing hviewer second _ meme
    (le_max_right _ _) (by omega) hmeme
  obtain ⟨firstScore, hfirst, hlefirst⟩ := exists_popularityAt_of_le (le_max_left _ _) hscore
  obtain ⟨secondScore, hsecond, hlesecond⟩ := exists_popularityAt_of_le (le_max_right _ _) hscore
  have hshares := (h.scores a ha b hb (hameme.trans hbmeme.symm)).1
  rw [(mem_page_viewer hviewer ha).1, (mem_page_viewer hviewer hb).1, hameme, hbmeme,
    pageMax_eq (by omega) hfirst, pageMax_eq (by omega) hsecond] at hshares
  rw [hfirst, hsecond, eq_of_normalizeValue_eq hpositive hlefirst hlesecond hshares]

theorem shares_of_startAlike
    (h : StartAlike listing first second) {a b : PopularItem K} (ha : a ∈ first.page listing)
    (hb : b ∈ second.page listing) (hsame : a.memeId = b.memeId) :
    a.popularity = b.popularity := by
  obtain ⟨hshare, -, place, hfirst, hlast, hat⟩ := mem_page_viewer hviewer ha
  obtain ⟨hotherShare, -, otherPlace, hotherFirst, hotherLast, hotherAt⟩ :=
    mem_page_viewer hviewer hb
  have hplace : place = otherPlace := by
    rw [← hsame] at hotherAt
    obtain ⟨hshort, -⟩ := List.getElem?_eq_some_iff.mp hat
    exact (List.getElem?_inj hshort (nodup_sortedMemes listing)).mp (hat.trans hotherAt.symm)
  subst hplace
  obtain ⟨meme, hmeme, hid⟩ := Option.map_eq_some_iff.mp ((List.getElem?_map ..).symm.trans hat)
  have hscore : popularityAt listing place = some (viewerPopularity listing a.memeId) := by
    rw [popularityAt, hmeme, Option.map_some, hid]
  rw [hshare, hotherShare, ← hsame]
  obtain ⟨latest, hlatest, hle⟩ := exists_popularityAt_of_le (max_le hfirst hotherFirst) hscore
  rcases le_or_gt latest 0 with hnone | hpositive
  · rw [normalizeValue_nonpos (hle.trans hnone), normalizeValue_nonpos (hle.trans hnone)]
  have hstart := h (by omega) latest hlatest hpositive
  obtain ⟨score, hfirstScore, -⟩ := exists_popularityAt_of_le hfirst hscore
  rw [pageMax_eq (by omega) hfirstScore, pageMax_eq (by omega) (hstart.symm.trans hfirstScore)]

theorem agree_iff_viewer : Agree listing first second ↔ StartAlike listing first second := by
  constructor
  · exact startAlike_of_agree hviewer
  intro h
  constructor
  · intro a ha b hb hsame
    have hshares := shares_of_startAlike hviewer h ha hb hsame
    exact ⟨hshares, by
      rw [(mem_page_viewer hviewer ha).2.1, (mem_page_viewer hviewer hb).2.1, hshares]⟩
  · intro memeId hfirst hsecond otherId hotherFirst hotherSecond
    exact order_viewer hviewer hfirst hsecond hotherFirst hotherSecond

end Viewers

/-- Two pages agree exactly where the listing is public or both start alike. -/
theorem agree_iff [IsStrictOrderedRing K] (listing : Listing K) (first second : PageWindow) :
    Agree listing first second ↔
      listing.publicScope = true ∨ StartAlike listing first second := by
  cases hscope : listing.publicScope with
  | true => exact iff_of_true (agree_public hscope) (.inl rfl)
  | false =>
    rw [agree_iff_viewer hscope]
    exact (or_iff_right Bool.false_ne_true).symm

end Viewer

def privateListing : Listing ℚ where
  memes := [⟨1, 30, false⟩, ⟨2, 20, false⟩, ⟨3, 10, false⟩]
  unique := by decide
  publicScope := false
  passesFilters _ := true
  inScope _ := true
  loaded _ := true
  trendScore _ := none
  derivedScore memeId := some (if memeId = 1 then 10 else if memeId = 2 then 4 else 2)

/-- The same memes in public. -/
theorem agree_iff_public : Agree { privateListing with publicScope := true } ⟨2, 0⟩ ⟨2, 1⟩ :=
  (agree_iff { privateListing with publicScope := true } ⟨2, 0⟩ ⟨2, 1⟩).mpr (.inl rfl)

/-- The second meme has two fifths on the first page and all on the page that it starts. -/
theorem not_agree_private : ¬ Agree privateListing ⟨2, 0⟩ ⟨2, 1⟩ := by
  intro h
  have hshares := h.scores (popularItem 2 2 (2 / 5)) (by decide +kernel) (popularItem 2 2 1)
    (by decide +kernel) rfl
  exact absurd hshares.1 (by decide +kernel)

end MemeExpert.Services.PopularPages
