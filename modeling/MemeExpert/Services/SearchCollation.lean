import MemeExpert.Services.SearchCandidates

/-! A meme has the scores of its last candidate, so no score is lost where that one is the best. -/

namespace MemeExpert.Services.SearchCandidates

section Kept

variable {K : Type} {textHits : List (TextHit K)} {key : Uuid}

def keptText (textHits : List (TextHit K)) (key : Uuid) : List (TextHit K × Nat) :=
  (textHits.zipIdx 1).filter fun entry => candidateKeyFromHit entry.1 = some key

theorem map_fst_keptText : (keptText textHits key).map Prod.fst =
    textHits.filter fun hit => candidateKeyFromHit hit = some key := by
  have hhits : textHits = (textHits.zipIdx 1).map Prod.fst := (List.zipIdx_map_fst 1 textHits).symm
  conv => rhs; rw [hhits]
  rw [List.filter_map]
  rfl

theorem meme_or_file_of_key {hit : TextHit K} (h : candidateKeyFromHit hit = some key) :
    parseUuid hit.memeId = some key ∨ parseUuid hit.memeId = none ∧ textFileOf hit = some key := by
  unfold candidateKeyFromHit at h
  unfold textFileOf
  cases hmeme : hit.memeId with
  | absent =>
    rw [hmeme] at h
    cases hid : hit.id with
    | uuid id =>
      rw [hid] at h
      exact .inr ⟨rfl, h⟩
    | absent | unreadable =>
      rw [hid] at h
      cases h
  | unreadable =>
    rw [hmeme] at h
    cases h
  | uuid id =>
    rw [hmeme] at h
    exact .inl h

theorem findSome?_keptText (hne : keptText textHits key ≠ []) :
    (keptText textHits key).findSome? (fun entry => parseUuid entry.1.memeId) = some key ∧
        (textHits.filter fun hit => candidateKeyFromHit hit = some key).any
          (fun hit => parseUuid hit.memeId = some key) = true ∨
      (keptText textHits key).findSome? (fun entry => parseUuid entry.1.memeId) = none ∧
        (keptText textHits key).findSome? (fun entry => textFileOf entry.1) = some key ∧
        (textHits.filter fun hit => candidateKeyFromHit hit = some key).any
          (fun hit => parseUuid hit.memeId = some key) = false := by
  have hkept : ∀ entry ∈ keptText textHits key, parseUuid entry.1.memeId = some key ∨
      parseUuid entry.1.memeId = none ∧ textFileOf entry.1 = some key :=
    fun entry hmem => meme_or_file_of_key (of_decide_eq_true (List.mem_filter.mp hmem).2)
  rw [← map_fst_keptText]
  cases hmeme : (keptText textHits key).findSome? fun entry => parseUuid entry.1.memeId with
  | some found =>
    obtain ⟨entry, hmem, hparse⟩ := List.exists_of_findSome?_eq_some hmeme
    rcases hkept entry hmem with hkey | ⟨hnone, -⟩
    · rw [hkey] at hparse
      cases hparse
      refine .inl ⟨rfl, List.any_eq_true.mpr ⟨entry.1, List.mem_map_of_mem hmem, ?_⟩⟩
      exact decide_eq_true hkey
    · rw [hnone] at hparse
      cases hparse
  | none =>
    have hfiles : ∀ entry ∈ keptText textHits key,
        parseUuid entry.1.memeId = none ∧ textFileOf entry.1 = some key := by
      intro entry hmem
      have hnone := List.findSome?_eq_none_iff.mp hmeme entry hmem
      exact (hkept entry hmem).resolve_left (by rw [hnone]; exact nofun)
    refine .inr ⟨rfl, ?_, ?_⟩
    · obtain ⟨entry, rest, hentries⟩ := List.exists_cons_of_ne_nil hne
      have hfirst := hfiles entry (hentries ▸ List.mem_cons_self)
      rw [hentries, List.findSome?_cons, hfirst.2]
    rw [List.any_eq_false]
    intro hit hmem
    obtain ⟨entry, hentry, rfl⟩ := List.mem_map.mp hmem
    rw [(hfiles entry hentry).1]
    exact nofun

end Kept

section Greatest

variable {K : Type} [Field K] [LinearOrder K] {scores first second : List K} {score bound : K}

theorem le_foldl_max (start : K) :
    score ≤ scores.foldl max start ↔ score ≤ start ∨ ∃ other ∈ scores, score ≤ other := by
  induction scores generalizing start with
  | nil => simp
  | cons other scores ih =>
    rw [List.foldl_cons, ih, le_max_iff, List.exists_mem_cons_iff, or_assoc]

omit [Field K] in
theorem foldl_max_le (start : K) :
    scores.foldl max start ≤ bound ↔ start ≤ bound ∧ ∀ score ∈ scores, score ≤ bound := by
  induction scores generalizing start with
  | nil => simp
  | cons score scores ih =>
    rw [List.foldl_cons, ih, max_le_iff, List.forall_mem_cons, and_assoc]

theorem greatest_le_greatest : greatest first ≤ greatest second ↔
    ∀ score ∈ first, 0 < score → ∃ other ∈ second, score ≤ other := by
  have hzero : 0 ≤ greatest second := (le_foldl_max 0).mpr (.inl le_rfl)
  rw [greatest, foldl_max_le, and_iff_right hzero]
  refine forall_congr' fun score => forall_congr' fun _ => ?_
  rw [greatest, le_foldl_max]
  constructor
  · exact fun h hpositive => h.resolve_left (not_le.mpr hpositive)
  · exact fun h => (le_or_gt score 0).imp_right h

theorem sameBest_iff : greatest first = greatest second ↔ SameBest first second := by
  rw [le_antisymm_iff, greatest_le_greatest, greatest_le_greatest, SameBest]

variable {files : Uuid → Option Uuid} {textHits : List (TextHit K)}
  {semanticHits : List (QdrantUserSearchMatch K)} {key : Uuid} {account : Uuid × CandidateScore K}

def indexEntries (textHits : List (TextHit K)) (semanticHits : List (QdrantUserSearchMatch K)) :
    List (Uuid × IndexHit K) :=
  (textHits.zipIdx 1).filterMap (fun entry =>
    (candidateKeyFromHit entry.1).map fun key => (key, .text entry.2 entry.1)) ++
      semanticHits.map fun hit => (hit.memeId, .semantic hit)

theorem collectIndexCandidates_eq : collectIndexCandidates textHits semanticHits =
    (indexEntries textHits semanticHits).foldl (Accounts.enter (candidateLedger K)) [] := by
  rw [indexEntries, List.foldl_append, List.foldl_filterMap, List.foldl_map, collectIndexCandidates]
  congr 1
  congr 1
  funext candidates entry
  cases hkey : candidateKeyFromHit entry.1 with
  | none => simp only [hkey, Option.map_none]
  | some key => simp only [hkey, Option.map_some]

theorem holds_collectIndexCandidates :
    Accounts.Holds (candidateLedger K) (collectIndexCandidates textHits semanticHits)
      (indexEntries textHits semanticHits) := by
  rw [collectIndexCandidates_eq]
  exact Accounts.holds_nil.foldl (indexEntries textHits semanticHits)

theorem entriesOf_semantic (semanticHits : List (QdrantUserSearchMatch K)) :
    Accounts.entriesOf (semanticHits.map fun hit => (hit.memeId, IndexHit.semantic hit)) key =
      (semanticHits.filter fun hit => hit.memeId = key).map .semantic := by
  rw [Accounts.entriesOf, List.filter_map, List.map_map]
  rfl

theorem entriesOf_indexEntries : Accounts.entriesOf (indexEntries textHits semanticHits) key =
    (keptText textHits key).map (fun entry => .text entry.2 entry.1) ++
      (semanticHits.filter fun hit => hit.memeId = key).map .semantic := by
  rw [indexEntries, Accounts.entriesOf_append, entriesOf_semantic,
    Accounts.entriesOf_filterMap (textHits.zipIdx 1) (fun entry => candidateKeyFromHit entry.1)]
  rfl

theorem foldl_text (kept : List (TextHit K × Nat)) (account : Uuid × CandidateScore K) :
    (kept.map fun entry => IndexHit.text entry.2 entry.1).foldl (candidateLedger K).credit account =
      (account.1, {
        memeId := account.2.memeId.or (kept.findSome? fun entry => parseUuid entry.1.memeId)
        memeFileId := account.2.memeFileId.or (kept.findSome? fun entry => textFileOf entry.1)
        semanticRaw := account.2.semanticRaw
        textRaw := (kept.map fun entry => textScoreFromHit entry.1 entry.2).foldl max
          account.2.textRaw }) := by
  induction kept generalizing account with
  | nil => simp
  | cons entry kept ih =>
    have hor : ∀ first second rest : Option Uuid,
        (first.or second).or rest = first.or (second.or rest) := by
      intro first second rest
      cases first <;> rfl
    rw [List.map_cons, List.foldl_cons, ih, List.map_cons, List.foldl_cons, List.findSome?_cons,
      List.findSome?_cons]
    simp only [candidateLedger, setCandidateIds, hor]
    cases parseUuid entry.1.memeId <;> cases textFileOf entry.1 <;> rfl

theorem foldl_semantic (kept : List (QdrantUserSearchMatch K))
    (account : Uuid × CandidateScore K) :
    (kept.map IndexHit.semantic).foldl (candidateLedger K).credit account =
      (account.1, { account.2 with
        memeFileId := (kept.getLast?.map QdrantUserSearchMatch.memeFileId).or account.2.memeFileId
        semanticRaw := (kept.map QdrantUserSearchMatch.semanticScore).foldl max
          account.2.semanticRaw }) := by
  induction kept generalizing account with
  | nil => simp
  | cons hit kept ih =>
    rw [List.map_cons, List.foldl_cons, ih, List.map_cons, List.foldl_cons, List.getLast?_cons]
    simp only [candidateLedger]
    cases kept.getLast? <;> rfl

structure IsCandidate (files : Uuid → Option Uuid) (textHits : List (TextHit K))
    (semanticHits : List (QdrantUserSearchMatch K)) (account : Uuid × CandidateScore K) : Prop where
  text : account.2.textRaw =
    greatest (textScores textHits fun hit => candidateKeyFromHit hit = some account.1)
  semantic : account.2.semanticRaw =
    greatest (semanticScores semanticHits fun hit => hit.memeId = account.1)
  meme : (resolveMissingMemeId files account.2).memeId =
    memeOfKey files textHits semanticHits account.1

theorem memeOfKey_of_semantic (h : keptText textHits key = []) :
    memeOfKey files textHits semanticHits key = some key := by
  have hkept : (textHits.filter fun hit => candidateKeyFromHit hit = some key) = [] := by
    rw [← map_fst_keptText, h, List.map_nil]
  exact if_pos (.inl hkept)

theorem memeOfKey_of_text (hne : keptText textHits key ≠ []) :
    memeOfKey files textHits semanticHits key =
      if (textHits.filter fun hit => candidateKeyFromHit hit = some key).any
          fun hit => parseUuid hit.memeId = some key then some key
      else
        files (((semanticHits.filter fun hit => hit.memeId = key).getLast?.map
          QdrantUserSearchMatch.memeFileId).getD key) := by
  have hkept : (textHits.filter fun hit => candidateKeyFromHit hit = some key) ≠ [] := by
    rw [← map_fst_keptText]
    exact fun hnil => hne (List.map_eq_nil_iff.mp hnil)
  simp only [memeOfKey, hkept, false_or]

section Collected

variable {candidate : CandidateScore K}
  (h : (key, candidate) ∈ collectIndexCandidates textHits semanticHits)

include h

theorem candidate_eq :
    ∃ first rest, (keptText textHits key).map (fun entry => .text entry.2 entry.1) ++
        (semanticHits.filter fun hit => hit.memeId = key).map .semantic = first :: rest ∧
      (key, candidate) =
        ((semanticHits.filter fun hit => hit.memeId = key).map .semantic).foldl
          (candidateLedger K).credit
          (((keptText textHits key).map fun entry => .text entry.2 entry.1).foldl
            (candidateLedger K).credit ((candidateLedger K).opened key first)) := by
  obtain ⟨first, rest, hentries, haccount⟩ := holds_collectIndexCandidates.took (key, candidate) h
  rw [entriesOf_indexEntries] at hentries haccount
  rw [List.foldl_append] at haccount
  exact ⟨first, rest, hentries, haccount⟩

theorem isCandidate_of_semantic (hkept : keptText textHits key = []) :
    IsCandidate files textHits semanticHits (key, candidate) := by
  obtain ⟨first, rest, hentries, haccount⟩ := candidate_eq h
  rw [hkept, List.map_nil, List.nil_append] at hentries
  have hmem : first ∈ (semanticHits.filter fun hit => hit.memeId = key).map IndexHit.semantic :=
    hentries ▸ List.mem_cons_self
  obtain ⟨hit, hhit, rfl⟩ := List.mem_map.mp hmem
  have hmeme : hit.memeId = key := of_decide_eq_true (List.mem_filter.mp hhit).2
  have hopened : (candidateLedger K).opened key (.semantic hit) = (key, { memeId := some key }) :=
    congrArg (fun memeId => (key, ({ memeId := some memeId } : CandidateScore K))) hmeme
  have htext : textScores textHits (fun hit => candidateKeyFromHit hit = some key) = [] :=
    List.map_eq_nil_iff.mpr hkept
  rw [hkept, List.map_nil, List.foldl_nil, hopened, foldl_semantic] at haccount
  obtain ⟨-, rfl⟩ := Prod.mk.inj haccount
  refine ⟨?_, rfl, ?_⟩
  · rw [htext]
    rfl
  · rw [memeOfKey_of_semantic hkept]
    rfl

theorem isCandidate_of_text (hne : keptText textHits key ≠ []) :
    IsCandidate files textHits semanticHits (key, candidate) := by
  obtain ⟨first, rest, hentries, haccount⟩ := candidate_eq h
  obtain ⟨entry, kept, hkept⟩ := List.exists_cons_of_ne_nil hne
  have hfirst : first = .text entry.2 entry.1 := by
    rw [hkept] at hentries
    exact (List.cons.inj hentries).1.symm
  have hopened : (candidateLedger K).opened key first = (key, {}) := by rw [hfirst]; rfl
  rw [hopened, foldl_text, foldl_semantic] at haccount
  obtain ⟨-, rfl⟩ := Prod.mk.inj haccount
  refine ⟨rfl, rfl, ?_⟩
  rw [memeOfKey_of_text hne]
  rcases findSome?_keptText hne with ⟨hmeme, hany⟩ | ⟨hmeme, hfile, hany⟩
  · simp only [hany, hmeme]
    rfl
  · simp only [hany, hmeme, hfile]
    cases (semanticHits.filter fun hit => hit.memeId = key).getLast? <;> rfl

end Collected

theorem isCandidate (h : account ∈ collectIndexCandidates textHits semanticHits) :
    IsCandidate files textHits semanticHits account := by
  obtain ⟨key, candidate⟩ := account
  rcases eq_or_ne (keptText textHits key) [] with hkept | hne
  · exact isCandidate_of_semantic h hkept
  · exact isCandidate_of_text h hne

variable {visible : Uuid → Bool} {memeId : Uuid} {candidates : List (Uuid × CandidateScore K)}

omit [LinearOrder K] in
theorem filter_byMeme (candidates : List (Uuid × CandidateScore K)) (memeId : Uuid) :
    (byMeme candidates).filter (·.1 = memeId) =
      ((candidates.filter fun entry => entry.2.memeId = some memeId).getLast?.map fun entry =>
        (memeId, entry.2)).toList := by
  have hholds : Accounts.Holds (Accounts.replacing Uuid (CandidateScore K)) (byMeme candidates)
      (candidates.filterMap fun entry => entry.2.memeId.map fun memeId => (memeId, entry.2)) :=
    Accounts.holds_nil.foldl _
  have hentries := Accounts.entriesOf_filterMap candidates (fun entry => entry.2.memeId) Prod.snd
    memeId
  by_cases hmem : memeId ∈ (candidates.filterMap fun entry =>
      entry.2.memeId.map fun memeId => (memeId, entry.2)).map Prod.fst
  · obtain ⟨account, hfilter, hkey, htook⟩ := hholds.filter_key hmem
    have hlast := Accounts.getLast?_of_took htook
    rw [hentries, List.getLast?_map, Option.map_eq_some_iff] at hlast
    obtain ⟨entry, hlast, hcandidate⟩ := hlast
    rw [hlast, Option.map_some, Option.toList_some]
    refine Eq.trans hfilter (congrArg (fun found => [found]) ?_)
    exact Prod.ext hkey hcandidate.symm
  · rw [Accounts.entriesOf_eq_nil hmem] at hentries
    rw [List.map_eq_nil_iff.mp hentries.symm]
    exact hholds.filter_key_eq_nil hmem

theorem keys_candidates : (collectIndexCandidates textHits semanticHits).map Prod.fst =
    hitKeys textHits semanticHits := by
  have hkeys : (indexEntries textHits semanticHits).map Prod.fst =
      textHits.filterMap candidateKeyFromHit ++
        semanticHits.map QdrantUserSearchMatch.memeId := by
    have hhits : textHits = (textHits.zipIdx 1).map Prod.fst :=
      (List.zipIdx_map_fst 1 textHits).symm
    rw [indexEntries, List.map_append, List.map_filterMap, List.map_map]
    conv => rhs; lhs; rw [hhits]
    rw [List.filterMap_map]
    congr 1
    refine List.filterMap_congr fun entry _ => ?_
    rw [Function.comp_apply]
    cases candidateKeyFromHit entry.1 <;> rfl
  rw [hitKeys, ← hkeys]
  exact holds_collectIndexCandidates.keys

theorem mem_resolved {entry : Uuid × CandidateScore K}
    (h : entry ∈ resolveMissingMemeIds files (collectIndexCandidates textHits semanticHits)) :
    entry.2.memeId = memeOfKey files textHits semanticHits entry.1 ∧
      entry.2.textRaw =
        greatest (textScores textHits fun hit => candidateKeyFromHit hit = some entry.1) ∧
      entry.2.semanticRaw =
        greatest (semanticScores semanticHits fun hit => hit.memeId = entry.1) := by
  obtain ⟨account, hmem, rfl⟩ := List.mem_map.mp h
  have hcandidate : IsCandidate files textHits semanticHits account := isCandidate hmem
  refine ⟨hcandidate.meme, ?_, ?_⟩
  · refine Eq.trans ?_ hcandidate.text
    unfold resolveMissingMemeId
    split <;> rfl
  · refine Eq.trans ?_ hcandidate.semantic
    unfold resolveMissingMemeId
    split <;> rfl

theorem keys_resolved :
    (resolveMissingMemeIds files (collectIndexCandidates textHits semanticHits)).map Prod.fst =
      hitKeys textHits semanticHits := by
  rw [resolveMissingMemeIds, List.map_map, ← keys_candidates]
  rfl

theorem getLast?_candidates :
    (((resolveMissingMemeIds files (collectIndexCandidates textHits semanticHits)).filter
      fun entry => entry.2.memeId = some memeId).getLast?).map Prod.fst =
        lastKey files textHits semanticHits memeId := by
  have hsame : ((resolveMissingMemeIds files (collectIndexCandidates textHits semanticHits)).filter
      fun entry => entry.2.memeId = some memeId) =
      (resolveMissingMemeIds files (collectIndexCandidates textHits semanticHits)).filter
        fun entry => memeOfKey files textHits semanticHits entry.1 = some memeId :=
    List.filter_congr fun entry hmem => by rw [(mem_resolved hmem).1]
  rw [hsame, ← List.getLast?_map, lastKey, ← keys_resolved, List.filter_map]
  rfl

theorem isCollated_iff (hvisible : visible memeId = true) :
    IsCollated files visible textHits semanticHits memeId ↔
      LastKeyIsBest files textHits semanticHits memeId := by
  have hfilter : (visibleScores files visible textHits semanticHits).filter (·.1 = memeId) =
      (byMeme (resolveMissingMemeIds files
        (collectIndexCandidates textHits semanticHits))).filter (·.1 = memeId) := by
    rw [visibleScores, List.filter_filter]
    refine List.filter_congr fun entry _ => ?_
    by_cases hmeme : entry.1 = memeId
    · rw [hmeme, hvisible, Bool.and_true]
    · rw [decide_eq_false hmeme, Bool.false_and]
  unfold IsCollated LastKeyIsBest
  rw [hfilter, filter_byMeme, ← getLast?_candidates]
  cases hlast : ((resolveMissingMemeIds files
      (collectIndexCandidates textHits semanticHits)).filter
        fun entry => entry.2.memeId = some memeId).getLast? with
  | none => simp
  | some entry =>
    have hmem := List.mem_of_mem_filter (List.mem_of_getLast? hlast)
    obtain ⟨-, htext, hsemantic⟩ := mem_resolved hmem
    simp only [Option.map_some, Option.toList_some, List.cons.injEq, Prod.mk.injEq, true_and,
      and_true, Option.some.injEq, exists_eq_left', ← sameBest_iff]
    rw [htext, hsemantic]

/-- No score is lost exactly where the last identifier of each meme is its best. -/
theorem losesNoScore_iff (files : Uuid → Option Uuid) (visible : Uuid → Bool)
    (textHits : List (TextHit K)) (semanticHits : List (QdrantUserSearchMatch K)) :
    LosesNoScore files visible textHits semanticHits ↔
      ∀ memeId, visible memeId = true → HasHit files textHits semanticHits memeId →
        LastKeyIsBest files textHits semanticHits memeId :=
  forall_congr' fun _ => forall_congr' fun hvisible => forall_congr' fun _ =>
    isCollated_iff hvisible

def oneFile (fileId : Uuid) : Option Uuid := if fileId = 7 then some 1 else none

def mixedHits : List (TextHit ℚ) :=
  [{ memeId := .uuid 1, id := .uuid 7, scores := [some (9 / 10)] },
   { id := .uuid 7, scores := [some (1 / 5)] }]

/-- A hit with the meme and a later, weaker one with the file only. -/
theorem not_losesNoScore_mixed : ¬ LosesNoScore oneFile (fun _ => true) mixedHits [] := by
  intro h
  have hhit : HasHit oneFile mixedHits [] 1 := .inl (by decide +kernel)
  obtain ⟨candidate, hfilter, htext, -⟩ := h 1 rfl hhit
  have hkept : (visibleScores oneFile (fun _ => true) mixedHits []).filter (·.1 = 1) =
      [(1, { memeId := some 1, memeFileId := some 7, textRaw := 1 / 5 })] := by decide +kernel
  rw [hkept] at hfilter
  cases hfilter
  exact absurd htext (by decide +kernel)

end Greatest

end MemeExpert.Services.SearchCandidates
