import MemeExpert.Lib.Runs
import MemeExpert.Recommendations.HomeFeed

/-! A session is the pages a viewer gets by following the cursor of each page. Redis may
fail or recover at any of them. -/

namespace MemeExpert.Recommendations

open Keyset Results Runs

structure FeedSession (σ : Type) where
  stored : Option (FrozenFeedPool σ) := none
  pages : List (FeedPage σ) := []

namespace FeedSession

variable {σ : Type} (s : FeedSession σ)

def memeIds : List Uuid := s.pages.flatMap FeedPage.memeIds

def cursor : Option (FeedCursorClaims σ) := s.pages.getLast?.bind FeedPage.nextCursor

def start : Nat := (s.pages.head?.map FeedPage.offset).getD 0

end FeedSession

/-- The next page of the session. A request that raises leaves the session as it is, and one
whose last page has no cursor is over. -/
def feedStep {σ : Type} [LinearOrder σ] (settings : FeedSettings σ) (catalogue : Catalogue σ)
    (viewerUserId : Uuid) (filters : MemeSearchFilters) (s : FeedSession σ)
    (request : FeedRequest σ) : Option (FeedSession σ) :=
  if ¬ s.pages.isEmpty ∧ s.cursor.isNone then none
  else
    (homeFeed settings catalogue viewerUserId filters s.stored request s.cursor).toOption.map
      fun (stored, page) => { stored := stored, pages := s.pages ++ [page] }

section Pages

variable {σ : Type} [LinearOrder σ] {settings : FeedSettings σ} {catalogue : Catalogue σ}
  {viewerUserId : Uuid} {filters : MemeSearchFilters} {request : FeedRequest σ} {limit : Nat}

omit [LinearOrder σ] in
/-- The loop selects what is shown among the candidates it looks at, and stops early only with
a full page. -/
theorem selectFromPool_spec (shown : Uuid → Bool) (limit : Nat)
    (selected : List (Nat × CachedFeedCandidate σ)) (index : Nat)
    (rest : List (CachedFeedCandidate σ)) :
    ∃ looked ahead, rest = looked ++ ahead ∧
      (selectFromPool shown limit selected index rest).2 = index + looked.length ∧
      (selectFromPool shown limit selected index rest).1.map Prod.snd =
        selected.map Prod.snd ++ (looked.filter fun candidate => shown candidate.memeId) ∧
      (ahead = [] ∨ limit ≤ (selectFromPool shown limit selected index rest).1.length) := by
  induction rest generalizing selected index with
  | nil => exact ⟨[], [], rfl, rfl, by simp [selectFromPool], .inl rfl⟩
  | cons candidate rest ih =>
    cases hshown : shown candidate.memeId with
    | true =>
      by_cases hfull : selected.length + 1 ≥ limit
      · refine ⟨[candidate], rest, rfl, ?_, ?_, .inr ?_⟩
        · simp [selectFromPool, hshown, hfull]
        · simp [selectFromPool, hshown, hfull]
        · simp only [selectFromPool, hshown, not_true_eq_false, if_false, hfull, if_true,
            List.length_append, List.length_singleton]
      obtain ⟨looked, ahead, rfl, hindex, hselected, hpage⟩ :=
        ih (selected ++ [(index, candidate)]) (index + 1)
      refine ⟨candidate :: looked, ahead, rfl, ?_, ?_, hpage.imp_right fun hlength => ?_⟩
      · simp only [selectFromPool, hshown, not_true_eq_false, if_false, hfull, hindex,
          List.length_cons]
        omega
      · simp only [selectFromPool, hshown, not_true_eq_false, if_false, hfull, hselected]
        simp [hshown]
      · simp only [selectFromPool, hshown, not_true_eq_false, if_false, hfull]
        exact hlength
    | false =>
      obtain ⟨looked, ahead, rfl, hindex, hselected, hpage⟩ := ih selected (index + 1)
      refine ⟨candidate :: looked, ahead, rfl, ?_, ?_, hpage.imp_right fun hlength => ?_⟩
      · simp only [selectFromPool, hshown, Bool.false_eq_true, not_false_eq_true, if_true, hindex,
          List.length_cons]
        omega
      · simp only [selectFromPool, hshown, Bool.false_eq_true, not_false_eq_true, if_true, hselected]
        simp [hshown]
      · simp only [selectFromPool, hshown, Bool.false_eq_true, not_false_eq_true, if_true]
        exact hlength

def Shown (settings : FeedSettings σ) (catalogue : Catalogue σ) (viewerUserId : Uuid)
    (filters : MemeSearchFilters) (request : FeedRequest σ) (memeId : Uuid) : Bool :=
  memeId ∉ loadExactExcludedMemeIds settings viewerUserId request &&
    currentlyVisible catalogue filters memeId

omit [LinearOrder σ] in
theorem mem_publicMemeCards_of_visible {memeIds : List Uuid} {memeId : Uuid}
    (hmem : memeId ∈ memeIds) (hvisible : currentlyVisible catalogue filters memeId = true) :
    memeId ∈ publicMemeCards catalogue filters memeIds := by
  refine List.mem_filter.mpr ⟨hmem, ?_⟩
  obtain ⟨meme, hmeme, hpasses⟩ := List.any_eq_true.mp hvisible
  refine List.any_eq_true.mpr ⟨meme, hmeme, ?_⟩
  simp only [passesFilters, Bool.and_eq_true] at hpasses ⊢
  exact ⟨⟨hpasses.1, hpasses.2.1.1.1.1⟩, hpasses.2.1.1.1.2⟩

omit [LinearOrder σ] in
/-- A page takes what is shown among the candidates it looks at, and there is more when any of
those ahead is shown. -/
theorem selectPoolPage_spec (settings : FeedSettings σ) (catalogue : Catalogue σ)
    (viewerUserId : Uuid) (filters : MemeSearchFilters) (request : FeedRequest σ)
    (pool : FrozenFeedPool σ) (limit startIndex : Nat) :
    ∃ looked ahead, pool.candidates.drop startIndex = looked ++ ahead ∧
      (selectPoolPage settings catalogue viewerUserId filters pool request limit startIndex).selected.map
          Prod.snd = looked.filter (fun candidate =>
            Shown settings catalogue viewerUserId filters request candidate.memeId) ∧
      (selectPoolPage settings catalogue viewerUserId filters pool request limit startIndex).hasMore =
        ahead.any (fun candidate =>
          Shown settings catalogue viewerUserId filters request candidate.memeId) ∧
      (ahead ≠ [] →
        (selectPoolPage settings catalogue viewerUserId filters pool request limit
          startIndex).nextIndex = startIndex + looked.length ∧
        limit ≤ (selectPoolPage settings catalogue viewerUserId filters pool request limit
          startIndex).selected.length) := by
  let excluded := loadExactExcludedMemeIds settings viewerUserId request
  let first := min startIndex pool.candidates.length
  let remaining := pool.candidates.drop first
  let visibleIds := loadCurrentlyVisibleIds catalogue filters
    ((remaining.map CachedFeedCandidate.memeId).filter fun memeId => memeId ∉ excluded)
  let shown := fun memeId => decide (memeId ∉ excluded) && decide (memeId ∈ visibleIds)
  have hshown : ∀ candidate ∈ remaining, shown candidate.memeId =
      Shown settings catalogue viewerUserId filters request candidate.memeId := by
    intro candidate hmem
    have hid : candidate.memeId ∈ remaining.map CachedFeedCandidate.memeId :=
      List.mem_map_of_mem hmem
    simp only [shown, Shown, visibleIds, loadCurrentlyVisibleIds, List.mem_filter, hid, true_and]
    by_cases hexcluded : candidate.memeId ∈ loadExactExcludedMemeIds settings viewerUserId request
    · simp [excluded, hexcluded]
    · simp [excluded, hexcluded]
  have hdrop : pool.candidates.drop startIndex = remaining := by
    by_cases hle : startIndex ≤ pool.candidates.length
    · simp only [remaining, first, Nat.min_eq_left hle]
    · have hge : pool.candidates.length ≤ startIndex := Nat.le_of_not_le hle
      simp only [remaining, first, Nat.min_eq_right hge, List.drop_length, List.drop_of_length_le hge]
  obtain ⟨looked, ahead, hsplit, hnext, hselected, hfull⟩ :=
    selectFromPool_spec shown limit [] first remaining
  rw [List.map_nil, List.nil_append] at hselected
  have hahead : pool.candidates.drop (selectFromPool shown limit [] first remaining).2 = ahead := by
    rw [hnext, ← List.drop_drop]
    change remaining.drop looked.length = ahead
    rw [hsplit, List.drop_left]
  refine ⟨looked, ahead, hdrop.trans hsplit, hselected.trans ?_, ?_, ?_⟩
  · refine List.filter_congr ?_
    intro candidate hmem
    exact hshown candidate (hsplit ▸ List.mem_append_left _ hmem)
  · change (pool.candidates.drop (selectFromPool shown limit [] first remaining).2).any _ = _
    rw [hahead, Bool.eq_iff_iff, List.any_eq_true, List.any_eq_true]
    constructor
    · rintro ⟨candidate, hmem, hshows⟩
      exact ⟨candidate, hmem, hshown candidate (hsplit ▸ List.mem_append_right _ hmem) ▸ hshows⟩
    · rintro ⟨candidate, hmem, hshows⟩
      exact ⟨candidate, hmem, (hshown candidate (hsplit ▸ List.mem_append_right _ hmem)).trans hshows⟩
  intro hmore
  refine ⟨?_, hfull.resolve_left hmore⟩
  change (selectFromPool shown limit [] first remaining).2 = _
  have hlt : startIndex ≤ pool.candidates.length := by
    by_contra hgt
    have hempty : pool.candidates.drop startIndex = [] :=
      List.drop_of_length_le (Nat.le_of_not_le hgt)
    rw [hdrop, hsplit] at hempty
    exact hmore (List.append_eq_nil_iff.mp hempty).2
  rw [hnext]
  simp only [first, Nat.min_eq_left hlt]

omit [LinearOrder σ] in
theorem poolItems_memeIds (pool : FrozenFeedPool σ) {selected : List (Nat × CachedFeedCandidate σ)}
    (hvisible : ∀ candidate ∈ selected.map Prod.snd,
      currentlyVisible catalogue filters candidate.memeId = true) :
    (poolItems catalogue filters pool selected).map FeedItem.memeId =
      (selected.map Prod.snd).map CachedFeedCandidate.memeId := by
  have hcards : ∀ entry ∈ selected, decide (entry.2.memeId ∈ publicMemeCards catalogue filters
      (selected.map fun entry => entry.2.memeId)) = true := by
    intro entry hentry
    refine decide_eq_true (mem_publicMemeCards_of_visible ?_ ?_)
    · exact List.mem_map_of_mem hentry
    · exact hvisible entry.2 (List.mem_map_of_mem hentry)
  unfold poolItems
  simp only
  rw [List.filter_eq_self.mpr hcards, List.map_map, List.map_map]
  rfl

omit [LinearOrder σ] in
theorem poolPage_ok {pool : FrozenFeedPool σ} {startIndex : Nat} {served : List Uuid}
    {page : FeedPage σ}
    (h : poolPage settings catalogue viewerUserId filters pool request limit startIndex served =
      .ok page) :
    ∃ looked ahead, pool.memeIds.drop startIndex = looked ++ ahead ∧ page.offset = startIndex ∧
      page.memeIds = looked.filter (Shown settings catalogue viewerUserId filters request) ∧
      ((page.nextCursor = none ∧
          ahead.filter (Shown settings catalogue viewerUserId filters request) = []) ∨
        ∃ claims, page.nextCursor = some claims ∧ claims.mode = .pool ∧
          claims.nextIndex = startIndex + looked.length ∧ claims.lastScore = none ∧
          claims.lastMemeId = none ∧ limit ≤ page.memeIds.length ∧
          ∀ memeId, memeId ∈ claims.servedMemeIds ↔ memeId ∈ served ∨ memeId ∈ page.memeIds) := by
  obtain ⟨looked, ahead, hsplit, hselected, hmore, hnext⟩ :=
    selectPoolPage_spec settings catalogue viewerUserId filters request pool limit startIndex
  simp only [poolPage, map_eq_ok] at h
  obtain ⟨cursor, hcursor, rfl⟩ := h
  have hvisible : ∀ candidate ∈ (selectPoolPage settings catalogue viewerUserId filters pool request
      limit startIndex).selected.map Prod.snd,
      currentlyVisible catalogue filters candidate.memeId = true := by
    intro candidate hmem
    rw [hselected] at hmem
    have hshows := (List.mem_filter.mp hmem).2
    simp only [Shown, Bool.and_eq_true] at hshows
    exact hshows.2
  have hitems := poolItems_memeIds pool hvisible
  refine ⟨looked.map CachedFeedCandidate.memeId, ahead.map CachedFeedCandidate.memeId, ?_, rfl,
    ?_, ?_⟩
  · rw [FrozenFeedPool.memeIds, ← List.map_drop, hsplit, List.map_append]
  · rw [FeedPage.memeIds, hitems, hselected, List.filter_map]
    rfl
  rw [hmore] at hcursor
  split at hcursor
  · next hany =>
    obtain ⟨claims, hclaims, rfl⟩ := map_eq_ok.mp hcursor
    obtain ⟨hmode, hindex, hscore, hmeme, hserved⟩ := issuePoolCursor_ok hclaims
    have hahead : ahead ≠ [] := by
      rintro rfl
      cases hany
    refine .inr ⟨claims, rfl, hmode, ?_, hscore, hmeme, ?_, ?_⟩
    · rw [hindex, (hnext hahead).1, List.length_map]
    · rw [FeedPage.memeIds, hitems, List.length_map, List.length_map]
      exact (hnext hahead).2
    intro memeId
    rw [hserved, List.mem_eraseDups, List.mem_append]
    rfl
  · next hnone =>
    cases hcursor
    refine .inl ⟨rfl, ?_⟩
    rw [List.filter_eq_nil_iff]
    intro memeId hmem hshows
    obtain ⟨candidate, hcandidate, rfl⟩ := List.mem_map.mp hmem
    exact hnone (List.any_eq_true.mpr ⟨candidate, hcandidate, hshows⟩)

end Pages

section Trending

variable {σ : Type} [LinearOrder σ] {settings : FeedSettings σ} {catalogue : Catalogue σ}
  {viewerUserId : Uuid} {filters : MemeSearchFilters} {request : FeedRequest σ} {limit : Nat}

instance : Std.Total (trendLe (σ := σ)) where
  total a b := by
    unfold trendLe
    rcases lt_trichotomy a.score b.score with hlt | heq | hgt
    · exact .inr (.inl hlt)
    · rcases Nat.le_total a.memeId b.memeId with hle | hle
      · exact .inl (.inr ⟨heq.symm, hle⟩)
      · exact .inr (.inr ⟨heq, hle⟩)
    · exact .inl (.inl hgt)

instance : IsTrans (TrendingCandidate σ) trendLe where
  trans a b c := by
    unfold trendLe
    rintro (hab | ⟨hab, hids⟩) (hbc | ⟨hbc, hids'⟩)
    · exact .inl (hbc.trans hab)
    · exact .inl (hbc ▸ hab)
    · exact .inl (hab ▸ hbc)
    · exact .inr ⟨hbc.trans hab, hids.trans hids'⟩

theorem pastCursor_eq_after (last : Option (TrendingCandidate σ)) (row : TrendingCandidate σ) :
    pastCursor (last.map TrendingCandidate.score) (last.map TrendingCandidate.memeId) row =
      after trendLe last row := by
  cases last with
  | none => rfl
  | some last =>
    simp only [pastCursor, after, Option.map_some, Option.any_some, Option.all_some]
    rw [Bool.eq_iff_iff]
    simp only [trendLe, Bool.or_eq_true, Bool.and_eq_true, decide_eq_true_eq, not_or, not_and, not_le,
      not_lt]
    constructor
    · rintro (hlt | ⟨heq, hid⟩)
      · exact ⟨hlt.le, fun heq => (hlt.ne heq.symm).elim⟩
      · exact ⟨heq.le, fun _ => hid⟩
    rintro ⟨hle, hid⟩
    rcases hle.lt_or_eq with hlt | heq
    · exact .inl hlt
    · exact .inr ⟨heq, hid heq.symm⟩

theorem loadTrendingCandidates_eq_page (request : FeedRequest σ) (limit offset : Nat)
    (last : Option (TrendingCandidate σ)) (excludedMemeIds : List Uuid) :
    loadTrendingCandidates settings catalogue viewerUserId filters request limit
        (last.map TrendingCandidate.score) (last.map TrendingCandidate.memeId) offset excludedMemeIds =
      Keyset.page trendLe last offset limit (catalogue.trends.filter fun row =>
        currentlyVisible catalogue filters row.memeId &&
          row.memeId ∉ loadExactExcludedMemeIds settings viewerUserId request &&
          row.memeId ∉ excludedMemeIds) := by
  rw [loadTrendingCandidates, Keyset.page, List.filter_filter]
  simp only [pastCursor_eq_after, Bool.and_comm]

omit [LinearOrder σ] in
theorem trendingItems_memeIds {requestId : String} {startRank : Nat}
    {rows : List (TrendingCandidate σ)}
    (hvisible : ∀ row ∈ rows, currentlyVisible catalogue filters row.memeId = true) :
    (trendingItems catalogue filters requestId startRank rows).map FeedItem.memeId =
      rows.map TrendingCandidate.memeId := by
  have hcards : ∀ entry ∈ rows.zipIdx (startRank + 1), decide (entry.1.memeId ∈
      publicMemeCards catalogue filters (rows.map TrendingCandidate.memeId)) = true := by
    intro entry hentry
    have hrow := List.fst_mem_of_mem_zipIdx hentry
    refine decide_eq_true (mem_publicMemeCards_of_visible ?_ (hvisible _ hrow))
    exact List.mem_map_of_mem hrow
  unfold trendingItems
  simp only
  rw [List.filter_eq_self.mpr hcards, List.map_map]
  change (rows.zipIdx (startRank + 1)).map (TrendingCandidate.memeId ∘ Prod.fst) = _
  rw [← List.map_map, List.zipIdx_map_fst]

theorem trendingFallbackPage_ok {claims : Option (FeedCursorClaims σ)}
    {last : Option (TrendingCandidate σ)} {legacyOffset : Nat} {page : FeedPage σ}
    (hscore : claims.bind FeedCursorClaims.lastScore = last.map TrendingCandidate.score)
    (hmeme : claims.bind FeedCursorClaims.lastMemeId = last.map TrendingCandidate.memeId)
    (h : trendingFallbackPage settings catalogue viewerUserId filters request limit claims
      legacyOffset = .ok page) :
    ∃ rows : List (TrendingCandidate σ), rows.Pairwise trendLe ∧
      (rows.map TrendingCandidate.memeId).Nodup ∧
      page.memeIds = rows.map TrendingCandidate.memeId ∧
      (∀ row ∈ rows, row ∈ catalogue.trends ∧ after trendLe last row = true ∧
        ∀ cursor, claims = some cursor → row.memeId ∉ cursor.servedMemeIds) ∧
      (page.nextCursor = none ∨
        ∃ next final, page.nextCursor = some next ∧ rows.getLast? = some final ∧
          next.mode = .trending ∧ next.lastScore = some final.score ∧
          next.lastMemeId = some final.memeId ∧ limit ≤ rows.length ∧
          ∀ cursor, claims = some cursor →
            ∀ memeId, memeId ∈ next.servedMemeIds ↔ memeId ∈ cursor.servedMemeIds) := by
  simp only [trendingFallbackPage, map_eq_ok, hscore, hmeme, loadTrendingCandidates_eq_page] at h
  obtain ⟨cursor, hcursor, rfl⟩ := h
  generalize hrows : Keyset.page trendLe last _ (limit + 1) _ = rows at hcursor ⊢
  have hmem : ∀ row ∈ rows.take limit, row ∈ catalogue.trends ∧
      currentlyVisible catalogue filters row.memeId = true ∧ after trendLe last row = true ∧
        row.memeId ∉ (claims.map FeedCursorClaims.servedMemeIds).getD [] := by
    intro row hrow
    obtain ⟨hfiltered, hafter⟩ := mem_of_mem_page (hrows ▸ List.mem_of_mem_take hrow)
    obtain ⟨htrend, heligible⟩ := List.mem_filter.mp hfiltered
    simp only [Bool.and_eq_true, decide_eq_true_eq] at heligible
    exact ⟨htrend, heligible.1.1, hafter, heligible.2⟩
  refine ⟨rows.take limit, ?_, ?_, ?_, ?_, ?_⟩
  · exact (hrows ▸ pairwise_page).sublist (List.take_sublist ..)
  · refine List.Nodup.sublist ((List.take_sublist ..).map _) ?_
    rw [← hrows]
    exact nodup_map_page (catalogue.trends_unique.sublist (List.filter_sublist.map _))
  · exact trendingItems_memeIds fun row hrow => (hmem row hrow).2.1
  · intro row hrow
    obtain ⟨htrend, -, hafter, hserved⟩ := hmem row hrow
    refine ⟨htrend, hafter, ?_⟩
    rintro cursor rfl
    exact hserved
  split at hcursor
  · next final hfinal =>
    split at hcursor
    · next hmore =>
      obtain ⟨next, hnext, rfl⟩ := map_eq_ok.mp hcursor
      obtain ⟨hmode, hlastScore, hlastMeme, hserved⟩ := issueTrendingCursor_ok hnext
      refine .inr ⟨next, final, rfl, hfinal, hmode, hlastScore, hlastMeme, ?_, ?_⟩
      · rw [List.length_take]
        exact le_min le_rfl (of_decide_eq_true hmore).le
      · rintro cursor rfl
        exact hserved
    · cases hcursor
      exact .inl rfl
  · cases hcursor
    exact .inl rfl

end Trending

section Sessions

variable {σ : Type} [LinearOrder σ] {settings : FeedSettings σ} {catalogue : Catalogue σ}
  {viewerUserId : Uuid} {filters : MemeSearchFilters} {request : FeedRequest σ}
  {s t : FeedSession σ}

def FeedSession.withPage (s : FeedSession σ) (stored : Option (FrozenFeedPool σ))
    (page : FeedPage σ) : FeedSession σ :=
  { stored := stored, pages := s.pages ++ [page] }

omit [LinearOrder σ] in
@[simp] theorem memeIds_withPage (s : FeedSession σ) (stored : Option (FrozenFeedPool σ))
    (page : FeedPage σ) : (s.withPage stored page).memeIds = s.memeIds ++ page.memeIds := by
  simp [FeedSession.withPage, FeedSession.memeIds]

omit [LinearOrder σ] in
@[simp] theorem cursor_withPage (s : FeedSession σ) (stored : Option (FrozenFeedPool σ))
    (page : FeedPage σ) : (s.withPage stored page).cursor = page.nextCursor := by
  simp [FeedSession.withPage, FeedSession.cursor]

omit [LinearOrder σ] in
theorem start_withPage {stored : Option (FrozenFeedPool σ)} {page : FeedPage σ}
    (hpages : s.pages ≠ []) : (s.withPage stored page).start = s.start := by
  obtain ⟨first, rest, heq⟩ := List.exists_cons_of_ne_nil hpages
  simp [FeedSession.withPage, FeedSession.start, heq]

theorem generatePoolCandidates_nodup :
    ((generatePoolCandidates settings catalogue viewerUserId filters request).map
      CachedFeedCandidate.memeId).Nodup := by
  unfold generatePoolCandidates
  simp only
  rw [List.map_map]
  exact nodup_diversityRerank settings.formulas settings.diversityPolicy _ settings.feedPoolLimit

/-- How a step comes by its page: from a new pool, from the pool of the cursor, or from the
trending list. -/
theorem feedStep_eq_some
    (h : feedStep settings catalogue viewerUserId filters s request = some t) :
    ∃ stored page, t = s.withPage stored page ∧
      ((s.pages = [] ∧ ∃ pool startIndex, stored = some pool ∧ pool.memeIds.Nodup ∧
          poolPage settings catalogue viewerUserId filters pool request (resolvedLimit request.limit)
            startIndex [] = .ok page) ∨
        (s.pages = [] ∧ stored = s.stored ∧ ∃ legacyOffset,
          trendingFallbackPage settings catalogue viewerUserId filters request
            (resolvedLimit request.limit) none legacyOffset = .ok page) ∨
        ∃ claims, s.cursor = some claims ∧ stored = s.stored ∧
          ((claims.mode = .pool ∧ ∃ pool, s.stored = some pool ∧
              poolPage settings catalogue viewerUserId filters pool request
                (resolvedLimit request.limit) claims.nextIndex claims.servedMemeIds = .ok page) ∨
            ((claims.mode = .trending ∨ request.reply = .unavailable) ∧
              trendingFallbackPage settings catalogue viewerUserId filters request
                (resolvedLimit request.limit) (some claims) 0 = .ok page))) := by
  unfold feedStep at h
  split at h
  · cases h
  next hopen =>
  rw [Option.map_eq_some_iff] at h
  obtain ⟨⟨stored, page⟩, hok, rfl⟩ := h
  rw [toOption_eq_some] at hok
  refine ⟨stored, page, rfl, ?_⟩
  cases hcursor : s.cursor with
  | none =>
    have hpages : s.pages = [] := by simpa [hcursor] using hopen
    rw [hcursor] at hok
    simp only [homeFeed] at hok
    split at hok
    · obtain ⟨found, hpage, hok⟩ := bind_eq_ok.mp hok
      cases hok
      exact .inr (.inl ⟨hpages, rfl, _, hpage⟩)
    split at hok
    · obtain ⟨found, hpage, hok⟩ := bind_eq_ok.mp hok
      cases hok
      exact .inr (.inl ⟨hpages, rfl, _, hpage⟩)
    · exact (throw_ne_ok hok).elim
    next pool hfreeze =>
    obtain ⟨found, hpage, hok⟩ := bind_eq_ok.mp hok
    cases hok
    refine .inl ⟨hpages, pool, _, rfl, ?_, hpage⟩
    rw [FrozenFeedPool.memeIds, (freeze_ok hfreeze).2]
    exact generatePoolCandidates_nodup.sublist ((List.take_sublist ..).map _)
  | some cursor =>
    rw [hcursor] at hok
    simp only [homeFeed, bind_eq_ok] at hok
    obtain ⟨claims, hclaims, hok⟩ := hok
    obtain ⟨rfl, -⟩ := verifyCursor_ok hclaims
    refine .inr (.inr ⟨claims, rfl, ?_⟩)
    split at hok
    · next hmode =>
      obtain ⟨found, hpage, hok⟩ := bind_eq_ok.mp hok
      cases hok
      exact ⟨rfl, .inr ⟨.inl hmode, hpage⟩⟩
    next hmode =>
    have hpool : claims.mode = .pool := by
      cases hm : claims.mode with
      | pool => rfl
      | trending => exact (hmode hm).elim
    split at hok
    · next hload =>
      obtain ⟨found, hpage, hok⟩ := bind_eq_ok.mp hok
      cases hok
      exact ⟨rfl, .inr ⟨.inr (loadPool_cacheUnavailable hload), hpage⟩⟩
    · exact (throw_ne_ok hok).elim
    next pool hload =>
    obtain ⟨found, hpage, hok⟩ := bind_eq_ok.mp hok
    cases hok
    exact ⟨rfl, .inl ⟨hpool, pool, loadPool_ok hload, hpage⟩⟩

structure NoRepeats (catalogue : Catalogue σ) (s : FeedSession σ) : Prop where
  nodup : s.memeIds.Nodup
  pool_nodup : ∀ pool, s.stored = some pool → pool.memeIds.Nodup
  pool_cursor : ∀ claims, s.cursor = some claims → claims.mode = .pool →
    claims.lastScore = none ∧ claims.lastMemeId = none ∧
      (∀ memeId ∈ s.memeIds, memeId ∈ claims.servedMemeIds) ∧
      ∀ pool, s.stored = some pool → ∀ memeId ∈ s.memeIds,
        memeId ∉ pool.memeIds.drop claims.nextIndex
  trending_cursor : ∀ claims, s.cursor = some claims → claims.mode = .trending →
    ∃ last : TrendingCandidate σ, claims.lastScore = some last.score ∧
      claims.lastMemeId = some last.memeId ∧ ∀ memeId ∈ s.memeIds, memeId ∈ claims.servedMemeIds ∨
        ∃ row ∈ catalogue.trends, row.memeId = memeId ∧ trendLe row last

theorem noRepeats_empty (catalogue : Catalogue σ) : NoRepeats catalogue {} where
  nodup := List.nodup_nil
  pool_nodup _ h := by cases h
  pool_cursor _ h := by cases h
  trending_cursor _ h := by cases h

theorem NoRepeats.poolPage {pool : FrozenFeedPool σ} {startIndex limit : Nat} {served : List Uuid}
    {page : FeedPage σ} (hs : s.memeIds.Nodup) (hpool : pool.memeIds.Nodup)
    (hserved : ∀ memeId ∈ s.memeIds, memeId ∈ served)
    (hbehind : ∀ memeId ∈ s.memeIds, memeId ∉ pool.memeIds.drop startIndex)
    (h : poolPage settings catalogue viewerUserId filters pool request limit startIndex served =
      .ok page) : NoRepeats catalogue (s.withPage (some pool) page) := by
  obtain ⟨looked, ahead, hsplit, -, hitems, hcursor⟩ := poolPage_ok h
  have hrest : (looked ++ ahead).Nodup := hsplit ▸ hpool.sublist (List.drop_sublist ..)
  obtain ⟨hlooked, -, hdisjoint⟩ := List.nodup_append.mp hrest
  have hin : ∀ memeId ∈ page.memeIds, memeId ∈ looked := by
    intro memeId hmem
    rw [hitems] at hmem
    exact (List.mem_filter.mp hmem).1
  have hnodup : (s.memeIds ++ page.memeIds).Nodup := by
    rw [List.nodup_append]
    refine ⟨hs, hitems ▸ hlooked.filter _, ?_⟩
    rintro memeId hold _ hnew rfl
    refine hbehind memeId hold ?_
    rw [hsplit]
    exact List.mem_append_left _ (hin memeId hnew)
  rcases hcursor with ⟨hnone, -⟩ | ⟨claims, hsome, hmode, hindex, hscore, hmeme, -, hclaims⟩
  · refine ⟨by simpa using hnodup, ?_, ?_, ?_⟩
    · rintro other ⟨rfl⟩
      exact hpool
    · intro claims hclaims
      rw [cursor_withPage, hnone] at hclaims
      cases hclaims
    · intro claims hclaims
      rw [cursor_withPage, hnone] at hclaims
      cases hclaims
  · have hahead : pool.memeIds.drop claims.nextIndex = ahead := by
      rw [hindex, ← List.drop_drop, hsplit, List.drop_left]
    refine ⟨by simpa using hnodup, ?_, ?_, ?_⟩
    · rintro other ⟨rfl⟩
      exact hpool
    · intro other hother _
      rw [cursor_withPage, hsome] at hother
      cases hother
      refine ⟨hscore, hmeme, ?_, ?_⟩
      · intro memeId hmem
        rw [memeIds_withPage, List.mem_append] at hmem
        exact (hclaims memeId).mpr (hmem.imp_left (hserved memeId))
      rintro other ⟨rfl⟩ memeId hmem hin_ahead
      rw [hahead] at hin_ahead
      rw [memeIds_withPage, List.mem_append] at hmem
      rcases hmem with hold | hnew
      · refine hbehind memeId hold ?_
        rw [hsplit]
        exact List.mem_append_right _ hin_ahead
      · exact hdisjoint memeId (hin memeId hnew) memeId hin_ahead rfl
    · intro other hother htrending
      rw [cursor_withPage, hsome] at hother
      cases hother
      rw [hmode] at htrending
      cases htrending

theorem NoRepeats.trendingPage {claims : Option (FeedCursorClaims σ)}
    (last : Option (TrendingCandidate σ)) {limit legacyOffset : Nat} {page : FeedPage σ}
    (hs : NoRepeats catalogue s)
    (hscore : claims.bind FeedCursorClaims.lastScore = last.map TrendingCandidate.score)
    (hmeme : claims.bind FeedCursorClaims.lastMemeId = last.map TrendingCandidate.memeId)
    (hbehind : ∀ memeId ∈ s.memeIds, (∃ cursor, claims = some cursor ∧
        memeId ∈ cursor.servedMemeIds) ∨
      ∃ previous, last = some previous ∧ ∃ row ∈ catalogue.trends, row.memeId = memeId ∧
        trendLe row previous)
    (h : trendingFallbackPage settings catalogue viewerUserId filters request limit claims
      legacyOffset = .ok page) : NoRepeats catalogue (s.withPage s.stored page) := by
  obtain ⟨rows, hsorted, hnodup, hitems, hrows, hcursor⟩ := trendingFallbackPage_ok hscore hmeme h
  have hfresh : ∀ memeId ∈ s.memeIds, memeId ∉ rows.map TrendingCandidate.memeId := by
    intro memeId hold hnew
    obtain ⟨row, hrow, rfl⟩ := List.mem_map.mp hnew
    obtain ⟨htrend, hafter, hserved⟩ := hrows row hrow
    rcases hbehind row.memeId hold with ⟨cursor, hclaims, hin⟩ | ⟨previous, rfl, other, hother, hid, hle⟩
    · exact hserved cursor hclaims hin
    have hsame : other = row := List.inj_on_of_nodup_map catalogue.trends_unique hother htrend hid
    rw [hsame] at hle
    simp [after, hle] at hafter
  have hall : (s.withPage s.stored page).memeIds.Nodup := by
    rw [memeIds_withPage, hitems, List.nodup_append]
    refine ⟨hs.nodup, hnodup, ?_⟩
    rintro memeId hold _ hnew rfl
    exact hfresh memeId hold hnew
  rcases hcursor with hnone |
    ⟨next, final, hsome, hfinal, hmode, hnextScore, hnextMeme, -, hserved⟩
  · refine ⟨hall, hs.pool_nodup, ?_, ?_⟩
    · intro next hnext
      rw [cursor_withPage, hnone] at hnext
      cases hnext
    · intro next hnext
      rw [cursor_withPage, hnone] at hnext
      cases hnext
  refine ⟨hall, hs.pool_nodup, ?_, ?_⟩
  · intro other hother hpool
    rw [cursor_withPage, hsome] at hother
    cases hother
    rw [hmode] at hpool
    cases hpool
  intro other hother _
  rw [cursor_withPage, hsome] at hother
  cases hother
  refine ⟨final, hnextScore, hnextMeme, ?_⟩
  intro memeId hmem
  rw [memeIds_withPage, hitems, List.mem_append] at hmem
  have hfinalRow := hrows final (List.mem_of_getLast? hfinal)
  rcases hmem with hold | hnew
  · rcases hbehind memeId hold with ⟨cursor, hclaims, hin⟩ | ⟨previous, rfl, row, hrow, hid, hle⟩
    · exact .inl ((hserved cursor hclaims memeId).mpr hin)
    · exact .inr ⟨row, hrow, hid, le_of_after hle hfinalRow.2.1⟩
  · obtain ⟨row, hrow, rfl⟩ := List.mem_map.mp hnew
    exact .inr ⟨row, (hrows row hrow).1, rfl, le_getLast hsorted hfinal hrow⟩

theorem NoRepeats.step (hs : NoRepeats catalogue s)
    (h : feedStep settings catalogue viewerUserId filters s request = some t) :
    NoRepeats catalogue t := by
  have hnone : s.pages = [] → s.memeIds = [] := by
    intro hpages
    rw [FeedSession.memeIds, hpages]
    rfl
  obtain ⟨stored, page, rfl, ⟨hpages, pool, startIndex, rfl, hpool, hpage⟩ |
    ⟨hpages, rfl, offset, hpage⟩ | ⟨claims, hcursor, rfl, ⟨hmode, pool, hstored, hpage⟩ |
    ⟨-, hpage⟩⟩⟩ := feedStep_eq_some h
  · refine NoRepeats.poolPage hs.nodup hpool ?_ ?_ hpage
    · simp [hnone hpages]
    · simp [hnone hpages]
  · refine NoRepeats.trendingPage none hs rfl rfl ?_ hpage
    simp [hnone hpages]
  · obtain ⟨-, -, hserved, hbehind⟩ := hs.pool_cursor claims hcursor hmode
    rw [hstored]
    exact NoRepeats.poolPage hs.nodup (hs.pool_nodup pool hstored) hserved (hbehind pool hstored) hpage
  cases hmode : claims.mode with
  | pool =>
    obtain ⟨hscore, hmeme, hserved, -⟩ := hs.pool_cursor claims hcursor hmode
    refine NoRepeats.trendingPage none hs ?_ ?_ ?_ hpage
    · exact hscore
    · exact hmeme
    · intro memeId hmem
      exact .inl ⟨claims, rfl, hserved memeId hmem⟩
  | trending =>
    obtain ⟨last, hscore, hmeme, hbehind⟩ := hs.trending_cursor claims hcursor hmode
    refine NoRepeats.trendingPage (some last) hs ?_ ?_ ?_ hpage
    · exact hscore
    · exact hmeme
    intro memeId hmem
    rcases hbehind memeId hmem with hserved | ⟨row, hrow, hid, hle⟩
    · exact .inl ⟨claims, rfl, hserved⟩
    · exact .inr ⟨last, rfl, row, hrow, hid, hle⟩

def shownWhen (settings : FeedSettings σ) (catalogue : Catalogue σ) (viewerUserId : Uuid)
    (filters : MemeSearchFilters) (judge : Uuid → FeedRequest σ) (memeId : Uuid) : Bool :=
  Shown settings catalogue viewerUserId filters (judge memeId) memeId

/-- The pages so far are what was shown of the part of the pool that was read, each meme judged
at one of the requests; a session without a cursor has read the whole pool. -/
def ReadsPool (settings : FeedSettings σ) (catalogue : Catalogue σ) (viewerUserId : Uuid)
    (filters : MemeSearchFilters) (requests : List (FeedRequest σ)) (s : FeedSession σ) : Prop :=
  (s.pages = [] → s.stored = none) ∧ ∀ pool, s.stored = some pool → pool.memeIds.Nodup ∧
    ∃ judge, (∀ memeId, judge memeId ∈ requests) ∧ ∃ read unread,
      pool.memeIds.drop s.start = read ++ unread ∧
      s.memeIds = read.filter (shownWhen settings catalogue viewerUserId filters judge) ∧
      ((s.cursor = none ∧ unread = []) ∨ ∃ claims, s.cursor = some claims ∧ claims.mode = .pool ∧
        pool.memeIds.drop claims.nextIndex = unread)

omit [LinearOrder σ] in
theorem ReadsPool.poolPage {requests : List (FeedRequest σ)} {pool : FrozenFeedPool σ}
    {judge : Uuid → FeedRequest σ} {startIndex limit : Nat} {served : List Uuid}
    {page : FeedPage σ} (read : List Uuid) (hpool : pool.memeIds.Nodup) (hjudge : ∀ memeId, judge memeId ∈ requests)
    (hrequest : request ∈ requests)
    (hsplit : pool.memeIds.drop (s.withPage (some pool) page).start =
      read ++ pool.memeIds.drop startIndex)
    (hitems : s.memeIds = read.filter (shownWhen settings catalogue viewerUserId filters judge))
    (h : poolPage settings catalogue viewerUserId filters pool request limit startIndex served =
      .ok page) :
    ReadsPool settings catalogue viewerUserId filters requests (s.withPage (some pool) page) := by
  refine ⟨by simp [FeedSession.withPage], ?_⟩
  rintro other ⟨rfl⟩
  obtain ⟨looked, ahead, hrest, -, hpage, hcursor⟩ := poolPage_ok h
  let later := fun memeId => if memeId ∈ looked ++ ahead then request else judge memeId
  have hlater : ∀ memeId, later memeId ∈ requests := by
    intro memeId
    simp only [later]
    split
    · exact hrequest
    · exact hjudge memeId
  have hnodup : (read ++ (looked ++ ahead)).Nodup := by
    rw [← hrest, ← hsplit]
    exact hpool.sublist (List.drop_sublist ..)
  have hdisjoint := (List.nodup_append.mp hnodup).2.2
  have hread : read.filter (shownWhen settings catalogue viewerUserId filters later) =
      read.filter (shownWhen settings catalogue viewerUserId filters judge) := by
    refine List.filter_congr ?_
    intro memeId hmem
    have hnot : memeId ∉ looked ++ ahead := fun hin => hdisjoint memeId hmem memeId hin rfl
    simp only [shownWhen, later, hnot, if_false]
  have hnow : ∀ memeId ∈ looked ++ ahead, shownWhen settings catalogue viewerUserId filters later
      memeId = Shown settings catalogue viewerUserId filters request memeId := by
    intro memeId hmem
    simp only [shownWhen, later, hmem, if_true]
  have hlooked : looked.filter (shownWhen settings catalogue viewerUserId filters later) =
      page.memeIds := by
    rw [hpage]
    exact List.filter_congr fun memeId hmem => hnow memeId (List.mem_append_left _ hmem)
  refine ⟨hpool, later, hlater, ?_⟩
  rcases hcursor with ⟨hnone, hhidden⟩ | ⟨claims, hsome, hmode, hindex, -⟩
  · refine ⟨read ++ (looked ++ ahead), [], ?_, ?_, .inl ⟨by simpa using hnone, rfl⟩⟩
    · rw [hsplit, hrest, List.append_nil]
    · have hahead : ahead.filter (shownWhen settings catalogue viewerUserId filters later) = [] := by
        rw [← hhidden]
        exact List.filter_congr fun memeId hmem => hnow memeId (List.mem_append_right _ hmem)
      rw [memeIds_withPage, List.filter_append, List.filter_append, hread, hlooked, hahead,
        List.append_nil, hitems]
  refine ⟨read ++ looked, ahead, ?_, ?_, .inr ⟨claims, by simpa using hsome, hmode, ?_⟩⟩
  · rw [hsplit, hrest, List.append_assoc]
  · rw [memeIds_withPage, List.filter_append, hread, hlooked, hitems]
  · rw [hindex, ← List.drop_drop, hrest, List.drop_left]

def RedisWorks (request : FeedRequest σ) : Prop :=
  request.preflight = true ∧ request.freezes = true ∧ request.reply ≠ .unavailable

theorem ReadsPool.step {requests : List (FeedRequest σ)} (hrequest : request ∈ requests)
    (hredis : RedisWorks request)
    (hs : ReadsPool settings catalogue viewerUserId filters requests s)
    (h : feedStep settings catalogue viewerUserId filters s request = some t) :
    ReadsPool settings catalogue viewerUserId filters requests t := by
  obtain ⟨stored, page, rfl, ⟨hpages, pool, startIndex, rfl, hpool, hpage⟩ |
    ⟨hpages, rfl, offset, hpage⟩ | ⟨claims, hcursor, rfl, ⟨hmode, pool, hstored, hpage⟩ |
    ⟨hmode, hpage⟩⟩⟩ := feedStep_eq_some h
  · have hstart : (s.withPage (some pool) page).start = startIndex := by
      obtain ⟨-, -, -, hoffset, -⟩ := poolPage_ok hpage
      simp [FeedSession.withPage, FeedSession.start, hpages, hoffset]
    have hempty : s.memeIds = [] := by
      rw [FeedSession.memeIds, hpages]
      rfl
    refine ReadsPool.poolPage [] hpool (fun _ => hrequest) hrequest ?_ ?_ hpage
    · rw [hstart, List.nil_append]
    · exact hempty
  · refine ⟨by simp [FeedSession.withPage], ?_⟩
    intro pool hstored
    have hnone := hs.1 hpages
    rw [FeedSession.withPage, hnone] at hstored
    cases hstored
  · have hpages : s.pages ≠ [] := by
      intro hnil
      rw [hs.1 hnil] at hstored
      cases hstored
    obtain ⟨hpool, judge, hjudge, read, unread, hsplit, hitems, hends⟩ := hs.2 pool hstored
    rcases hends with ⟨hnone, -⟩ | ⟨other, hother, -, hnext⟩
    · rw [hcursor] at hnone
      cases hnone
    rw [hcursor] at hother
    cases hother
    rw [hstored]
    refine ReadsPool.poolPage read hpool hjudge hrequest ?_ hitems hpage
    rw [start_withPage hpages, hsplit, hnext]
  · refine ⟨by simp [FeedSession.withPage], ?_⟩
    intro pool hstored
    obtain ⟨hpool, judge, hjudge, read, unread, hsplit, hitems, hends⟩ := hs.2 pool hstored
    rcases hends with ⟨hnone, -⟩ | ⟨other, hother, hpoolMode, -⟩
    · rw [hcursor] at hnone
      cases hnone
    rw [hcursor] at hother
    cases hother
    rw [hpoolMode] at hmode
    rcases hmode with hmode | hreply
    · cases hmode
    · exact (hredis.2.2 hreply).elim

def PagesAdvance (s : FeedSession σ) : Prop :=
  ∀ page ∈ s.pages, page.nextCursor ≠ none → page.memeIds ≠ []

theorem resolvedLimit_pos (limit : Int) : 1 ≤ resolvedLimit limit := by
  unfold resolvedLimit
  omega

theorem PagesAdvance.step (hs : PagesAdvance s) (hrepeats : NoRepeats catalogue s)
    (h : feedStep settings catalogue viewerUserId filters s request = some t) : PagesAdvance t := by
  have hpos := resolvedLimit_pos request.limit
  have hpool : ∀ {pool startIndex served page}, poolPage settings catalogue viewerUserId filters pool
      request (resolvedLimit request.limit) startIndex served = .ok page →
        page.nextCursor ≠ none → page.memeIds ≠ [] := by
    intro pool startIndex served page hpage hmore hempty
    obtain ⟨looked, ahead, -, -, -, ⟨hnone, -⟩ | ⟨claims, -, -, -, -, -, hlength, -⟩⟩ :=
      poolPage_ok hpage
    · exact hmore hnone
    · rw [hempty, List.length_nil] at hlength
      omega
  have htrending : ∀ {claims l legacyOffset page},
      claims.bind FeedCursorClaims.lastScore = Option.map TrendingCandidate.score l →
      claims.bind FeedCursorClaims.lastMemeId = l.map TrendingCandidate.memeId →
      trendingFallbackPage settings catalogue viewerUserId filters request
        (resolvedLimit request.limit) claims legacyOffset = .ok page →
          page.nextCursor ≠ none → page.memeIds ≠ [] := by
    intro claims l legacyOffset page hscore hmeme hpage hmore hempty
    obtain ⟨rows, -, -, hitems, -, hnone | ⟨next, final, -, -, -, -, -, hlength, -⟩⟩ :=
      trendingFallbackPage_ok hscore hmeme hpage
    · exact hmore hnone
    rw [hitems, List.map_eq_nil_iff] at hempty
    rw [hempty, List.length_nil] at hlength
    omega
  have hlast : ∀ {stored page}, (page.nextCursor ≠ none → page.memeIds ≠ []) →
      PagesAdvance (s.withPage stored page) := by
    intro stored page hpage other hother
    rcases List.mem_append.mp hother with hold | hnew
    · exact hs other hold
    · rw [List.mem_singleton.mp hnew]
      exact hpage
  obtain ⟨stored, page, rfl, ⟨-, pool, startIndex, -, -, hpage⟩ | ⟨-, -, offset, hpage⟩ |
    ⟨claims, hcursor, -, ⟨-, pool, -, hpage⟩ | ⟨-, hpage⟩⟩⟩ := feedStep_eq_some h
  · exact hlast (hpool hpage)
  · refine hlast (htrending (l := none) ?_ ?_ hpage)
    · rfl
    · rfl
  · exact hlast (hpool hpage)
  cases hmode : claims.mode with
  | pool =>
    obtain ⟨hscore, hmeme, -⟩ := hrepeats.pool_cursor claims hcursor hmode
    refine hlast (htrending (l := none) ?_ ?_ hpage)
    · exact hscore
    · exact hmeme
  | trending =>
    obtain ⟨last, hscore, hmeme, -⟩ := hrepeats.trending_cursor claims hcursor hmode
    refine hlast (htrending (l := some last) ?_ ?_ hpage)
    · exact hscore
    · exact hmeme

end Sessions

section Session

variable {σ : Type} [LinearOrder σ]

/-- The pages of a session repeat no meme, wherever Redis fails, and each page that leads to
another has items. Where Redis never fails, a session that has come to its end has the members of
its pool that pass the filters and were not excluded when they were judged, in pool order. -/
theorem feedSession_pages (settings : FeedSettings σ) (catalogue : Catalogue σ) (viewerUserId : Uuid)
    (filters : MemeSearchFilters) (requests : List (FeedRequest σ)) :
    let session := final (feedStep settings catalogue viewerUserId filters) {} requests
    session.memeIds.Nodup ∧ PagesAdvance session ∧
      ((∀ request ∈ requests, RedisWorks request) → ∀ pool, session.stored = some pool →
        session.cursor = none → ∃ judge : Uuid → FeedRequest σ, (∀ memeId, judge memeId ∈ requests) ∧
          session.memeIds = (pool.memeIds.drop session.start).filter fun memeId =>
            memeId ∉ loadExactExcludedMemeIds settings viewerUserId (judge memeId) &&
              currentlyVisible catalogue filters memeId) := by
  intro session
  have hfinal : NoRepeats catalogue session ∧ PagesAdvance session := by
    refine invariant_final (P := fun s => NoRepeats catalogue s ∧ PagesAdvance s)
      ⟨noRepeats_empty catalogue, fun page h => (List.not_mem_nil h).elim⟩ ?_
    rintro x hx ⟨hrepeats, hadvance⟩
    exact ⟨hrepeats.step (step_of_mem_transitions hx),
      hadvance.step hrepeats (step_of_mem_transitions hx)⟩
  refine ⟨hfinal.1.nodup, hfinal.2, ?_⟩
  · intro hredis pool hstored hended
    have hstart : ReadsPool settings catalogue viewerUserId filters requests {} :=
      ⟨fun _ => rfl, fun pool h => by cases h⟩
    have hfinal : ReadsPool settings catalogue viewerUserId filters requests session :=
      invariant_final hstart fun x hx hbefore =>
        ReadsPool.step (label_mem_of_mem_transitions hx)
          (hredis x.label (label_mem_of_mem_transitions hx)) hbefore (step_of_mem_transitions hx)
    obtain ⟨-, judge, hjudge, read, unread, hsplit, hitems, ⟨-, rfl⟩ | ⟨claims, hclaims, -⟩⟩ :=
      hfinal.2 pool hstored
    · refine ⟨judge, hjudge, ?_⟩
      rw [hsplit, List.append_nil, hitems]
      rfl
    · rw [hended] at hclaims
      cases hclaims

def smallCatalogue : Catalogue Nat where
  memes := [{ id := 1 }, { id := 2, isPublic := false }, { id := 3 }]
  trends := [⟨1, 10⟩, ⟨2, 9⟩, ⟨3, 8⟩]
  memes_unique := by decide
  trends_unique := by decide

def smallSettings : FeedSettings Nat where
  servingEnabled _ := true
  viewerKey := toString
  filterKey _ := ""
  cursorLength _ := 100
  formulas :=
    { zero := 0
      add := fun a b => a + b
      reciprocalRank := fun _ _ rank => 100 - rank
      homeScore := fun _ candidate => candidate.fusedScore
      adjustedScore := fun candidate _ => candidate.totalScore }

/-- Two pages of one meme each read the pool of the three memes, without the private one. -/
theorem feedSession_pages_small :
    let request : FeedRequest Nat := { limit := 1, now := 0, requestId := "r", poolId := 5 }
    let session := final (feedStep smallSettings smallCatalogue 7 {}) {} [request, request]
    session.memeIds = [1, 3] ∧ ∃ (pool : FrozenFeedPool Nat) (judge : Uuid → FeedRequest Nat),
      session.memeIds = (pool.memeIds.drop session.start).filter fun memeId =>
        memeId ∉ loadExactExcludedMemeIds smallSettings 7 (judge memeId) &&
          currentlyVisible smallCatalogue {} memeId := by
  intro request session
  have hredis : ∀ r ∈ [request, request], RedisWorks r := by
    simp [RedisWorks, request]
  have hstored : session.stored.isSome = true := by decide +kernel
  have hended : session.cursor.isNone = true := by decide +kernel
  obtain ⟨pool, hpool⟩ := Option.isSome_iff_exists.mp hstored
  obtain ⟨judge, -, hitems⟩ := (feedSession_pages smallSettings smallCatalogue 7 {}
    [request, request]).2.2 hredis pool hpool (Option.isNone_iff_eq_none.mp hended)
  exact ⟨by decide +kernel, pool, judge, hitems⟩

end Session

end MemeExpert.Recommendations
