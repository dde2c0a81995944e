import Mathlib.Data.List.Sort
import MemeExpert.Lib.Queries
import MemeExpert.Models.Rows

/-! Ranked sources are fused by meme, scored, and reordered for diversity. -/

namespace MemeExpert.Recommendations

open Queries

inductive CandidateSource where
  | shortTerm | currentIntent | longTermGlobal | longTermCluster | multiPositive | trending
  | exploration
  deriving DecidableEq

def CandidateSource.value : CandidateSource → String
  | .shortTerm => "short_term"
  | .currentIntent => "current_intent"
  | .longTermGlobal => "long_term_global"
  | .longTermCluster => "long_term_cluster"
  | .multiPositive => "multi_positive"
  | .trending => "trending"
  | .exploration => "exploration"

structure CandidateHit (σ : Type) where
  memeId : Uuid
  score : σ

structure CandidateRanking (σ : Type) where
  source : CandidateSource
  hits : List (CandidateHit σ)
  weight : Option σ := none
  sourceKey : Option String := none
  normalizationGroup : Option String := none

structure CandidateContribution (σ : Type) where
  source : CandidateSource
  sourceKey : String
  rank : Nat
  sourceScore : σ
  rrfContribution : σ
  deriving DecidableEq

structure FusedCandidate (σ : Type) where
  memeId : Uuid
  fusedScore : σ
  contributions : List (CandidateContribution σ) := []

structure RecommendationItemFeatures where
  representativeSourceChannelId : Option Uuid := none
  sourceChannelIds : List Uuid := []
  templateId : Option Uuid := none
  deriving DecidableEq

structure RankableCandidate (σ : Type) where
  memeId : Uuid
  fusedScore : σ
  totalScore : σ
  features : RecommendationItemFeatures := {}
  contributions : List (CandidateContribution σ) := []
  isExploration : Bool := false
  deriving DecidableEq

structure DiversityPolicy where
  sourceCapPer20 : Nat := 2
  templateCapPer20 : Nat := 2
  explorationSlotInterval : Nat := 20
  greedyWindow : Nat := 100

structure ScoreFormulas (σ : Type) where
  zero : σ
  add : σ → σ → σ
  /-- The weight over the size of its group, divided by the constant plus the rank. -/
  reciprocalRank : Option σ → Nat → Nat → σ
  homeScore : List (RankableCandidate σ) → RankableCandidate σ → σ
  adjustedScore : RankableCandidate σ → List (RankableCandidate σ) → σ

section Fusion

variable {σ : Type} [LinearOrder σ] (formulas : ScoreFormulas σ)

def groupCount (rankings : List (CandidateRanking σ)) (ranking : CandidateRanking σ) : Nat :=
  match ranking.normalizationGroup with
  | none => 1
  | some group =>
    if group = "" then 1
    else (rankings.filter fun other => other.normalizationGroup = some group).length

/-- `fused.setdefault(...)`, then one contribution more. -/
def addContribution (fused : List (FusedCandidate σ)) (memeId : Uuid)
    (contribution : CandidateContribution σ) : List (FusedCandidate σ) :=
  let present := if fused.any fun candidate => candidate.memeId = memeId then fused
    else fused ++ [{ memeId := memeId, fusedScore := formulas.zero }]
  present.map fun candidate =>
    if candidate.memeId = memeId then
      { candidate with
        fusedScore := formulas.add candidate.fusedScore contribution.rrfContribution
        contributions := candidate.contributions ++ [contribution] }
    else candidate

def fuseHits (groupSize : Nat) (ranking : CandidateRanking σ) :
    List Uuid → Nat → List (CandidateHit σ) → List (FusedCandidate σ) → List (FusedCandidate σ)
  | _, _, [], fused => fused
  | seen, rank, hit :: hits, fused =>
    if hit.memeId ∈ seen then fuseHits groupSize ranking seen (rank + 1) hits fused
    else
      let contribution : CandidateContribution σ :=
        { source := ranking.source
          sourceKey := (ranking.sourceKey.filter (· ≠ "")).getD ranking.source.value
          rank := rank
          sourceScore := hit.score
          rrfContribution := formulas.reciprocalRank ranking.weight groupSize rank }
      fuseHits groupSize ranking (hit.memeId :: seen) (rank + 1) hits
        (addContribution formulas fused hit.memeId contribution)

def fusedBefore (a b : FusedCandidate σ) : Prop :=
  b.fusedScore < a.fusedScore ∨ (b.fusedScore = a.fusedScore ∧ a.memeId ≤ b.memeId)

instance : DecidableRel (fusedBefore (σ := σ)) :=
  fun a b => inferInstanceAs
    (Decidable (b.fusedScore < a.fusedScore ∨ (b.fusedScore = a.fusedScore ∧ a.memeId ≤ b.memeId)))

def fuseCandidateRankings (rankings : List (CandidateRanking σ)) (limit : Nat) :
    List (FusedCandidate σ) :=
  let fused := rankings.foldl (fun fused ranking =>
    fuseHits formulas (groupCount rankings ranking) ranking [] 1 ranking.hits fused) []
  (fused.insertionSort fusedBefore).take limit

variable (policy : DiversityPolicy)

def scoredBefore (a b : RankableCandidate σ) : Prop :=
  b.totalScore < a.totalScore ∨ (b.totalScore = a.totalScore ∧
    (b.fusedScore < a.fusedScore ∨ (b.fusedScore = a.fusedScore ∧ a.memeId ≤ b.memeId)))

instance : DecidableRel (scoredBefore (σ := σ)) :=
  fun a b => inferInstanceAs
    (Decidable (b.totalScore < a.totalScore ∨ (b.totalScore = a.totalScore ∧
      (b.fusedScore < a.fusedScore ∨ (b.fusedScore = a.fusedScore ∧ a.memeId ≤ b.memeId)))))

def scoreHomeCandidates (candidates : List (RankableCandidate σ)) : List (RankableCandidate σ) :=
  (candidates.map fun candidate =>
    { candidate with totalScore := formulas.homeScore candidates candidate }).insertionSort scoredBefore

def withinCaps (block : List (RankableCandidate σ)) (candidate : RankableCandidate σ) : Bool :=
  let sourceCount := (block.filter fun selected =>
    selected.features.representativeSourceChannelId =
      candidate.features.representativeSourceChannelId).length
  let templateCount := (block.filter fun selected =>
    selected.features.templateId = candidate.features.templateId).length
  ¬ ((candidate.features.representativeSourceChannelId.isSome ∧ sourceCount ≥ policy.sourceCapPer20) ∨
    (candidate.features.templateId.isSome ∧ templateCount ≥ policy.templateCapPer20))

def preferred (selected : List (RankableCandidate σ)) (a b : RankableCandidate σ) : Bool :=
  let scoreA := formulas.adjustedScore a selected
  let scoreB := formulas.adjustedScore b selected
  scoreB < scoreA || (scoreB = scoreA && (b.totalScore < a.totalScore ||
    (b.totalScore = a.totalScore && a.memeId < b.memeId)))

/-- The candidates the next slot is chosen from: the exploration slot and the caps give way
when nothing satisfies them. -/
def slotCandidates (selected remaining : List (RankableCandidate σ)) : List (RankableCandidate σ) :=
  let block := selected.drop (selected.length / 20 * 20)
  let requireExploration := policy.explorationSlotInterval > 0 ∧
    (selected.length + 1) % policy.explorationSlotInterval = 0 ∧
    ¬ block.any RankableCandidate.isExploration ∧ remaining.any RankableCandidate.isExploration
  let eligible := remaining.filter fun candidate => ¬ requireExploration ∨ candidate.isExploration
  let capped := eligible.filter (withinCaps policy block)
  if ¬ capped.isEmpty then capped else if ¬ eligible.isEmpty then eligible else remaining

def fillSlots : Nat → List (RankableCandidate σ) → List (RankableCandidate σ) →
    List (RankableCandidate σ) × List (RankableCandidate σ)
  | 0, selected, remaining => (selected, remaining)
  | rounds + 1, selected, remaining =>
    match firstBy (preferred formulas selected) (slotCandidates policy selected remaining) with
    | none => (selected, remaining)
    | some chosen => fillSlots rounds (selected ++ [chosen]) (remaining.erase chosen)

def firstPerMeme : List Uuid → List (RankableCandidate σ) → List (RankableCandidate σ)
  | _, [] => []
  | seen, candidate :: rest =>
    if candidate.memeId ∈ seen then firstPerMeme seen rest
    else candidate :: firstPerMeme (candidate.memeId :: seen) rest

def diversityRerank (candidates : List (RankableCandidate σ)) (limit : Nat) :
    List (RankableCandidate σ) :=
  let unique := firstPerMeme [] candidates
  let target := min limit (min policy.greedyWindow unique.length)
  let (selected, remaining) := fillSlots formulas policy target [] unique
  (selected ++ remaining.take (limit - selected.length)).take limit

end Fusion

section Specs

variable {σ : Type} [LinearOrder σ] (formulas : ScoreFormulas σ) (policy : DiversityPolicy)

omit [LinearOrder σ] in
theorem nodup_firstPerMeme (seen : List Uuid) (candidates : List (RankableCandidate σ)) :
    ((firstPerMeme seen candidates).map RankableCandidate.memeId).Nodup ∧
      ∀ memeId ∈ (firstPerMeme seen candidates).map RankableCandidate.memeId, memeId ∉ seen := by
  induction candidates generalizing seen with
  | nil => exact ⟨List.nodup_nil, fun memeId hmem => (List.not_mem_nil hmem).elim⟩
  | cons candidate rest ih =>
    unfold firstPerMeme
    split
    · exact ih seen
    next hnew =>
    obtain ⟨hnodup, hfresh⟩ := ih (candidate.memeId :: seen)
    rw [List.map_cons, List.nodup_cons]
    refine ⟨⟨?_, hnodup⟩, ?_⟩
    · intro hmem
      exact hfresh _ hmem List.mem_cons_self
    intro memeId hmem
    rcases List.mem_cons.mp hmem with rfl | hrest
    · exact hnew
    · exact fun hseen => hfresh memeId hrest (List.mem_cons_of_mem _ hseen)

omit [LinearOrder σ] in
theorem mem_of_mem_slotCandidates {selected remaining : List (RankableCandidate σ)}
    {candidate : RankableCandidate σ}
    (h : candidate ∈ slotCandidates policy selected remaining) : candidate ∈ remaining := by
  unfold slotCandidates at h
  simp only at h
  split at h
  · exact (List.mem_filter.mp (List.mem_filter.mp h).1).1
  split at h
  · exact (List.mem_filter.mp h).1
  · exact h

theorem fillSlots_perm (rounds : Nat) (selected remaining : List (RankableCandidate σ)) :
    ((fillSlots formulas policy rounds selected remaining).1 ++
      (fillSlots formulas policy rounds selected remaining).2).Perm (selected ++ remaining) := by
  induction rounds generalizing selected remaining with
  | zero => rfl
  | succ rounds ih =>
    unfold fillSlots
    split
    · rfl
    next chosen hchosen =>
    have hmem := mem_of_mem_slotCandidates policy (mem_of_firstBy hchosen)
    refine (ih (selected ++ [chosen]) (remaining.erase chosen)).trans ?_
    rw [List.append_assoc]
    exact (List.perm_cons_erase hmem).symm.append_left selected

theorem nodup_diversityRerank (candidates : List (RankableCandidate σ)) (limit : Nat) :
    ((diversityRerank formulas policy candidates limit).map RankableCandidate.memeId).Nodup := by
  unfold diversityRerank
  have hunique := (nodup_firstPerMeme [] candidates).1
  have hperm := fillSlots_perm formulas policy
    (min limit (min policy.greedyWindow (firstPerMeme [] candidates).length)) []
    (firstPerMeme [] candidates)
  rw [List.nil_append] at hperm
  have hall := (hperm.map RankableCandidate.memeId).nodup_iff.mpr hunique
  refine hall.sublist (List.Sublist.map _ ?_)
  refine (List.take_sublist ..).trans ?_
  exact List.Sublist.append_left (List.take_sublist ..) _

end Specs

end MemeExpert.Recommendations
