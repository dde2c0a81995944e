import Mathlib.Algebra.BigOperators.Group.List.Lemmas
import Mathlib.Algebra.Order.BigOperators.Group.List
import Mathlib.Algebra.Order.Field.Basic
import Mathlib.Algebra.Order.Field.Rat
import Mathlib.Data.Prod.Lex
import MemeExpert.Lib.Totals
import MemeExpert.Recommendations.Candidates

/-! A meme has the sum of what each ranking gives for its first rank there, in whatever order the
rankings come. -/

namespace MemeExpert.Recommendations

open scoped List

section Exact

variable {K : Type} [Field K] [LinearOrder K]

/-- `max(0.0, weight) / group_count / (constant + rank)`, where a missing weight is one. -/
def rrfContribution (constant : K) (weight : Option K) (groupSize rank : Nat) : K :=
  max 0 (weight.getD 1) / groupSize / (constant + rank)

def exactFormulas (constant : K) (formulas : ScoreFormulas K) : ScoreFormulas K :=
  { formulas with
    zero := 0
    add := (· + ·)
    reciprocalRank := rrfContribution constant }

/-- `fuse_candidate_rankings(rankings, constant=constant, limit=limit)`. -/
def fuseRankings (constant : K) (formulas : ScoreFormulas K) (rankings : List (CandidateRanking K))
    (limit : Int) : Except String (List (FusedCandidate K)) :=
  if constant ≤ 0 then .error "constant must be positive"
  else .ok (fuseCandidateRankings (exactFormulas constant formulas) rankings limit.toNat)

def firstRank (hits : List (CandidateHit K)) (memeId : Uuid) : Option Nat :=
  (hits.findIdx? (·.memeId = memeId)).map (· + 1)

def contributionTo (constant : K) (rankings : List (CandidateRanking K)) (memeId : Uuid)
    (ranking : CandidateRanking K) : K :=
  match firstRank ranking.hits memeId with
  | none => 0
  | some rank => max 0 (ranking.weight.getD 1) / groupCount rankings ranking / (constant + rank)

def scoreOf (constant : K) (rankings : List (CandidateRanking K)) (memeId : Uuid) : K :=
  (rankings.map (contributionTo constant rankings memeId)).sum

def hitMemes (rankings : List (CandidateRanking K)) : List Uuid :=
  (rankings.flatMap fun ranking => ranking.hits.map CandidateHit.memeId).dedup

def ScoredBefore (a b : Uuid × K) : Prop := b.2 < a.2 ∨ (b.2 = a.2 ∧ a.1 ≤ b.1)

instance : DecidableRel (ScoredBefore (K := K)) :=
  fun a b => inferInstanceAs (Decidable (b.2 < a.2 ∨ (b.2 = a.2 ∧ a.1 ≤ b.1)))

def rankedMemes (constant : K) (rankings : List (CandidateRanking K)) : List (Uuid × K) :=
  ((hitMemes rankings).map fun memeId => (memeId, scoreOf constant rankings memeId)).insertionSort
    ScoredBefore

def groupContribution (constant : K) (rankings : List (CandidateRanking K)) (group : String)
    (memeId : Uuid) : K :=
  ((rankings.filter (·.normalizationGroup = some group)).map
    (contributionTo constant rankings memeId)).sum

end Exact

section Order

variable {K : Type} [LinearOrder K]

theorem scoredBefore_iff {a b : Uuid × K} : ScoredBefore a b ↔
    toLex (OrderDual.toDual a.2, a.1) ≤ toLex (OrderDual.toDual b.2, b.1) := by
  rw [Prod.Lex.toLex_le_toLex, OrderDual.toDual_lt_toDual, OrderDual.toDual_inj]
  exact or_congr_right (and_congr_left fun _ => eq_comm)

instance : Std.Total (ScoredBefore (K := K)) where
  total a b := by
    rw [scoredBefore_iff, scoredBefore_iff]
    exact le_total _ _

instance : IsTrans (Uuid × K) ScoredBefore where
  trans a b c := by
    rw [scoredBefore_iff, scoredBefore_iff, scoredBefore_iff]
    exact le_trans

theorem scoredBefore_antisymm {a b : Uuid × K} (h : ScoredBefore a b) (h' : ScoredBefore b a) :
    a = b := by
  have hkeys := le_antisymm (scoredBefore_iff.mp h) (scoredBefore_iff.mp h')
  obtain ⟨hscore, hmeme⟩ := Prod.mk.inj (toLex_inj.mp hkeys)
  exact Prod.ext hmeme (OrderDual.toDual_inj.mp hscore)

theorem insertionSort_scored_perm {first second : List (Uuid × K)} (h : first ~ second) :
    first.insertionSort ScoredBefore = second.insertionSort ScoredBefore := by
  have hsorted : (first.insertionSort ScoredBefore) ~ (second.insertionSort ScoredBefore) :=
    ((List.perm_insertionSort _ _).trans h).trans (List.perm_insertionSort _ _).symm
  exact hsorted.eq_of_pairwise (fun _ _ _ _ => scoredBefore_antisymm)
    (List.pairwise_insertionSort _ _) (List.pairwise_insertionSort _ _)

end Order

section Accounts

variable {K : Type} [Field K] [LinearOrder K] {constant : K} {formulas : ScoreFormulas K}
  {rankings others : List (CandidateRanking K)} {ranking : CandidateRanking K}
  {seen : List Uuid} {groupSize rank : Nat} {hits : List (CandidateHit K)} {memeId : Uuid}

def fusionTally (K : Type) [Field K] [LinearOrder K] :
    Totals.Tally (FusedCandidate K) Uuid (CandidateContribution K) K where
  key := FusedCandidate.memeId
  amount := FusedCandidate.fusedScore
  opened memeId _ := { memeId := memeId, fusedScore := 0 }
  credit candidate contribution :=
    { candidate with
      fusedScore := candidate.fusedScore + contribution.rrfContribution
      contributions := candidate.contributions ++ [contribution] }
  value := CandidateContribution.rrfContribution
  key_opened _ _ := rfl
  amount_opened _ _ := rfl
  key_credit _ _ := rfl
  amount_credit _ _ := rfl

def rankingEntries (constant : K) (groupSize : Nat) (ranking : CandidateRanking K) :
    List Uuid → Nat → List (CandidateHit K) → List (Uuid × CandidateContribution K)
  | _, _, [] => []
  | seen, rank, hit :: hits =>
    if hit.memeId ∈ seen then rankingEntries constant groupSize ranking seen (rank + 1) hits
    else
      (hit.memeId,
        { source := ranking.source
          sourceKey := (ranking.sourceKey.filter (· ≠ "")).getD ranking.source.value
          rank := rank
          sourceScore := hit.score
          rrfContribution := rrfContribution constant ranking.weight groupSize rank }) ::
        rankingEntries constant groupSize ranking (hit.memeId :: seen) (rank + 1) hits

theorem fuseHits_eq (fused : List (FusedCandidate K)) :
    fuseHits (exactFormulas constant formulas) groupSize ranking seen rank hits fused =
      (rankingEntries constant groupSize ranking seen rank hits).foldl
        (Accounts.enter (fusionTally K).toLedger) fused := by
  induction hits generalizing seen rank fused with
  | nil => rfl
  | cons hit hits ih =>
    unfold fuseHits rankingEntries
    split
    · exact ih fused
    · rw [List.foldl_cons]
      exact ih _

theorem mem_rankingEntries : memeId ∈ (rankingEntries constant groupSize ranking seen rank hits).map
    Prod.fst ↔ memeId ∈ hits.map CandidateHit.memeId ∧ memeId ∉ seen := by
  induction hits generalizing seen rank with
  | nil => simp [rankingEntries]
  | cons hit hits ih =>
    unfold rankingEntries
    rw [List.map_cons, List.mem_cons]
    split
    · next hseen =>
      rw [ih]
      constructor
      · exact fun h => ⟨.inr h.1, h.2⟩
      rintro ⟨rfl | hmem, hnew⟩
      · exact absurd hseen hnew
      · exact ⟨hmem, hnew⟩
    next hfresh =>
    rw [List.map_cons, List.mem_cons, ih, List.mem_cons, not_or]
    constructor
    · rintro (rfl | ⟨hmem, hne, hnew⟩)
      · exact ⟨.inl rfl, hfresh⟩
      · exact ⟨.inr hmem, hnew⟩
    rintro ⟨hsame | hmem, hnew⟩
    · exact .inl hsame
    · by_cases hsame : memeId = hit.memeId
      · exact .inl hsame
      · exact .inr ⟨hmem, hsame, hnew⟩

theorem total_rankingEntries (hnew : memeId ∉ seen) :
    Totals.total (fusionTally K)
        (rankingEntries constant groupSize ranking seen rank hits) memeId =
      match hits.findIdx? (·.memeId = memeId) with
      | none => 0
      | some index => rrfContribution constant ranking.weight groupSize (rank + index) := by
  induction hits generalizing seen rank with
  | nil => rfl
  | cons hit hits ih =>
    rw [List.findIdx?_cons]
    unfold rankingEntries
    by_cases hsame : hit.memeId = memeId
    · subst hsame
      have hrest : Totals.total (fusionTally K)
          (rankingEntries constant groupSize ranking (hit.memeId :: seen) (rank + 1) hits)
            hit.memeId = 0 := by
        refine Totals.total_eq_zero fun hmem => ?_
        exact (mem_rankingEntries.mp hmem).2 List.mem_cons_self
      rw [if_neg hnew, Totals.total_cons_self, hrest, add_zero]
      simp [fusionTally]
    have hfound : (match if decide (hit.memeId = memeId) = true then some 0 else
          Option.map (fun index => index + 1) (hits.findIdx? (·.memeId = memeId)) with
        | none => 0
        | some index => rrfContribution constant ranking.weight groupSize (rank + index)) =
        match hits.findIdx? (·.memeId = memeId) with
        | none => 0
        | some index => rrfContribution constant ranking.weight groupSize (rank + 1 + index) := by
      rw [if_neg (by simpa using hsame)]
      cases hits.findIdx? (·.memeId = memeId) with
      | none => rfl
      | some index =>
        have hrank : rank + (index + 1) = rank + 1 + index := by omega
        exact congrArg (rrfContribution constant ranking.weight groupSize) hrank
    rw [hfound]
    split
    · exact ih hnew
    · rw [Totals.total_cons_of_ne hsame]
      exact ih (fun hmem => (List.mem_cons.mp hmem).elim (fun heq => hsame heq.symm) hnew)

def fusionEntries (constant : K) (rankings : List (CandidateRanking K)) :
    List (Uuid × CandidateContribution K) :=
  rankings.flatMap fun ranking =>
    rankingEntries constant (groupCount rankings ranking) ranking [] 1 ranking.hits

theorem total_entries_ranking :
    Totals.total (fusionTally K)
        (rankingEntries constant (groupCount rankings ranking) ranking [] 1 ranking.hits) memeId =
      contributionTo constant rankings memeId ranking := by
  rw [total_rankingEntries List.not_mem_nil, contributionTo, firstRank]
  cases ranking.hits.findIdx? (·.memeId = memeId) with
  | none => rfl
  | some index =>
    rw [Option.map_some]
    simp only [rrfContribution, Nat.add_comm 1 index]

theorem total_fusionEntries :
    Totals.total (fusionTally K) (fusionEntries constant rankings) memeId =
      scoreOf constant rankings memeId := by
  rw [fusionEntries, Totals.total_flatMap, scoreOf]
  exact congrArg List.sum (List.map_congr_left fun ranking _ => total_entries_ranking)

theorem mem_fusionEntries : memeId ∈ (fusionEntries constant rankings).map Prod.fst ↔
    memeId ∈ hitMemes rankings := by
  rw [fusionEntries, List.map_flatMap, List.mem_flatMap, hitMemes, List.mem_dedup,
    List.mem_flatMap]
  refine exists_congr fun ranking => and_congr_right fun _ => ?_
  rw [mem_rankingEntries]
  exact and_iff_left List.not_mem_nil

def fusedCandidates (constant : K) (formulas : ScoreFormulas K)
    (rankings : List (CandidateRanking K)) : List (FusedCandidate K) :=
  rankings.foldl (fun fused ranking => fuseHits (exactFormulas constant formulas)
    (groupCount rankings ranking) ranking [] 1 ranking.hits fused) []

theorem holds_fusedCandidates :
    Accounts.Holds (fusionTally K).toLedger (fusedCandidates constant formulas rankings)
      (fusionEntries constant rankings) := by
  have hfold : fusedCandidates constant formulas rankings =
      (fusionEntries constant rankings).foldl (Accounts.enter (fusionTally K).toLedger) [] := by
    rw [fusedCandidates, fusionEntries, List.foldl_flatMap]
    simp only [fuseHits_eq]
  rw [hfold]
  exact Accounts.holds_nil.foldl (fusionEntries constant rankings)

theorem perm_rankedMemes :
    Totals.balances (fusionTally K) (fusedCandidates constant formulas rankings) ~
      (hitMemes rankings).map fun memeId => (memeId, scoreOf constant rankings memeId) := by
  have hholds := @holds_fusedCandidates K _ _ constant formulas rankings
  have hnodup : ((hitMemes rankings).map fun memeId =>
      (memeId, scoreOf constant rankings memeId)).Nodup := by
    refine List.Nodup.of_map Prod.fst ?_
    rw [List.map_map]
    exact (List.map_id _).symm ▸ List.nodup_dedup _
  rw [List.perm_ext_iff_of_nodup (Totals.nodup_balances hholds) hnodup]
  rintro ⟨memeId, score⟩
  rw [Totals.mem_balances hholds, mem_fusionEntries, total_fusionEntries, List.mem_map]
  constructor
  · rintro ⟨hmem, hscore⟩
    exact ⟨memeId, hmem, Prod.ext rfl hscore.symm⟩
  rintro ⟨_, hmem, heq⟩
  cases heq
  exact ⟨hmem, rfl⟩

theorem balances_fuseCandidateRankings (limit : Nat) :
    Totals.balances (fusionTally K)
        (fuseCandidateRankings (exactFormulas constant formulas) rankings limit) =
      (rankedMemes constant rankings).take limit := by
  have hsort : Totals.balances (fusionTally K)
      ((fusedCandidates constant formulas rankings).insertionSort fusedBefore) =
      (Totals.balances (fusionTally K)
        (fusedCandidates constant formulas rankings)).insertionSort ScoredBefore :=
    List.map_insertionSort _ _ _ _ fun _ _ _ _ => Iff.rfl
  rw [rankedMemes, ← insertionSort_scored_perm perm_rankedMemes, ← hsort]
  exact List.map_take

omit [Field K] [LinearOrder K] in
theorem groupCount_perm (h : rankings ~ others) (ranking : CandidateRanking K) :
    groupCount rankings ranking = groupCount others ranking := by
  unfold groupCount
  split
  · rfl
  split
  · rfl
  · exact (h.filter _).length_eq

theorem scoreOf_perm (h : rankings ~ others) (memeId : Uuid) :
    scoreOf constant rankings memeId = scoreOf constant others memeId := by
  have hsame : ∀ ranking, contributionTo constant rankings memeId ranking =
      contributionTo constant others memeId ranking := by
    intro ranking
    unfold contributionTo
    rw [groupCount_perm h]
  rw [scoreOf, List.map_congr_left fun ranking _ => hsame ranking]
  exact (h.map _).sum_eq

theorem rankedMemes_perm (h : rankings ~ others) :
    rankedMemes constant rankings = rankedMemes constant others := by
  have hmemes : hitMemes rankings ~ hitMemes others := (h.flatMap_right _).dedup
  rw [rankedMemes, List.map_congr_left fun memeId _ => by rw [scoreOf_perm h memeId]]
  exact insertionSort_scored_perm (hmemes.map _)

end Accounts

section Groups

variable {K : Type} [Field K] [LinearOrder K] [IsStrictOrderedRing K] {constant bound : K}
  {formulas : ScoreFormulas K} {rankings others : List (CandidateRanking K)} {group : String}

omit [Field K] [LinearOrder K] [IsStrictOrderedRing K] in
theorem one_le_of_firstRank {hits : List (CandidateHit K)} {memeId : Uuid} {rank : Nat}
    (h : firstRank hits memeId = some rank) : 1 ≤ rank := by
  obtain ⟨index, -, rfl⟩ := Option.map_eq_some_iff.mp h
  exact Nat.le_add_left 1 index

theorem contributionTo_le (hconstant : 0 < constant) (hbound : 0 ≤ bound)
    {ranking : CandidateRanking K} (hweight : ranking.weight.getD 1 ≤ bound) (memeId : Uuid) :
    contributionTo constant rankings memeId ranking ≤
      bound / groupCount rankings ranking / (constant + 1) := by
  have hsize : (0 : K) ≤ groupCount rankings ranking := Nat.cast_nonneg _
  have hfirst : 0 < constant + 1 := add_pos hconstant one_pos
  unfold contributionTo
  split
  · exact div_nonneg (div_nonneg hbound hsize) hfirst.le
  next rank hrank =>
  have hone : (1 : K) ≤ rank := by exact_mod_cast one_le_of_firstRank hrank
  have hnumerator : max 0 (ranking.weight.getD 1) / groupCount rankings ranking ≤
      bound / groupCount rankings ranking :=
    div_le_div_of_nonneg_right (max_le hbound hweight) hsize
  exact div_le_div₀ (div_nonneg hbound hsize) hnumerator hfirst (add_le_add_right hone constant)

omit [Field K] [LinearOrder K] [IsStrictOrderedRing K] in
theorem groupCount_of_group (hgroup : group ≠ "") {ranking : CandidateRanking K}
    (h : ranking.normalizationGroup = some group) :
    groupCount rankings ranking =
      (rankings.filter (·.normalizationGroup = some group)).length := by
  unfold groupCount
  rw [h]
  exact if_neg hgroup

theorem groupContribution_le (hconstant : 0 < constant) (hgroup : group ≠ "") (hbound : 0 ≤ bound)
    (hweights : ∀ ranking ∈ rankings, ranking.normalizationGroup = some group →
      ranking.weight.getD 1 ≤ bound) (memeId : Uuid) :
    groupContribution constant rankings group memeId ≤ bound / (constant + 1) := by
  have hfirst : 0 < constant + 1 := add_pos hconstant one_pos
  have heach : ∀ contribution ∈ (rankings.filter (·.normalizationGroup = some group)).map
      (contributionTo constant rankings memeId), contribution ≤
        bound / (rankings.filter (·.normalizationGroup = some group)).length / (constant + 1) := by
    intro contribution hmem
    obtain ⟨ranking, hranking, rfl⟩ := List.mem_map.mp hmem
    obtain ⟨hin, hof⟩ := List.mem_filter.mp hranking
    have hof : ranking.normalizationGroup = some group := of_decide_eq_true hof
    rw [← groupCount_of_group hgroup hof]
    exact contributionTo_le hconstant hbound (hweights ranking hin hof) memeId
  have hsum := List.sum_le_card_nsmul _ _ heach
  rw [List.length_map, nsmul_eq_mul] at hsum
  refine hsum.trans ?_
  rcases Nat.eq_zero_or_pos
    (rankings.filter (·.normalizationGroup = some group)).length with hzero | hpos
  · rw [hzero, Nat.cast_zero, zero_mul]
    exact div_nonneg hbound hfirst.le
  have hsize : ((rankings.filter (·.normalizationGroup = some group)).length : K) ≠ 0 :=
    Nat.cast_ne_zero.mpr (Nat.pos_iff_ne_zero.mp hpos)
  rw [← mul_div_assoc, mul_div_cancel₀ _ hsize]

def scoresOf (fused : List (FusedCandidate K)) : List (Uuid × K) :=
  fused.map fun candidate => (candidate.memeId, candidate.fusedScore)

structure FusesByRank (constant : K) (formulas : ScoreFormulas K)
    (rankings : List (CandidateRanking K)) (limit : Int) : Prop where
  scores : ∃ fused, fuseRankings constant formulas rankings limit = .ok fused ∧
    scoresOf fused = (rankedMemes constant rankings).take limit.toNat
  order : ∀ others, rankings ~ others →
    (fuseRankings constant formulas others limit).map scoresOf =
      (fuseRankings constant formulas rankings limit).map scoresOf
  groups : ∀ group ≠ "", ∀ bound, 0 ≤ bound →
    (∀ ranking ∈ rankings, ranking.normalizationGroup = some group →
      ranking.weight.getD 1 ≤ bound) →
    ∀ memeId, groupContribution constant rankings group memeId ≤ bound / (constant + 1)

omit [IsStrictOrderedRing K] in
theorem scores_fuseRankings (hconstant : 0 < constant) (limit : Int) :
    (fuseRankings constant formulas rankings limit).map scoresOf =
      .ok ((rankedMemes constant rankings).take limit.toNat) := by
  rw [fuseRankings, if_neg (not_le.mpr hconstant)]
  exact congrArg Except.ok (balances_fuseCandidateRankings limit.toNat)

theorem fusesByRank (hconstant : 0 < constant) (formulas : ScoreFormulas K)
    (rankings : List (CandidateRanking K)) (limit : Int) :
    FusesByRank constant formulas rankings limit where
  scores := by
    refine ⟨_, if_neg (not_le.mpr hconstant), ?_⟩
    exact balances_fuseCandidateRankings limit.toNat
  order others hperm := by
    rw [scores_fuseRankings hconstant, scores_fuseRankings hconstant, rankedMemes_perm hperm]
  groups group hgroup bound hbound hweights memeId :=
    groupContribution_le hconstant hgroup hbound hweights memeId

def clusterRankings : List (CandidateRanking ℚ) :=
  [{ source := .longTermCluster, hits := [⟨1, 9⟩, ⟨1, 8⟩, ⟨2, 7⟩],
     normalizationGroup := some "clusters" },
   { source := .longTermCluster, hits := [⟨2, 9⟩], normalizationGroup := some "clusters" },
   { source := .trending, hits := [⟨3, 5⟩], weight := some (1 / 2) }]

def bareFormulas : ScoreFormulas ℚ where
  zero := 0
  add := (· + ·)
  reciprocalRank := rrfContribution 60
  homeScore _ candidate := candidate.totalScore
  adjustedScore candidate _ := candidate.totalScore

theorem fusesByRank_clusters : FusesByRank 60 bareFormulas clusterRankings 2 :=
  fusesByRank (by decide) bareFormulas clusterRankings 2

def negativeRankings : List (CandidateRanking ℚ) :=
  [{ source := .trending, hits := [⟨1, 5⟩], weight := some (-1) }]

/-- A negative weight gives nothing, not less. -/
theorem not_weighted_negative :
    (fuseRankings 60 bareFormulas negativeRankings 10).map scoresOf = .ok [(1, 0)] ∧
      (0 : ℚ) ≠ -1 / (60 + 1) := by
  decide +kernel

end Groups

end MemeExpert.Recommendations
