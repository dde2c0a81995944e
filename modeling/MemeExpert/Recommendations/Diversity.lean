import Mathlib.Algebra.Order.Field.Rat
import Mathlib.Data.List.Dedup
import Mathlib.Data.List.Perm.Subperm
import MemeExpert.Recommendations.Candidates

/-! The greedy prefix is filled slot by slot. -/

namespace MemeExpert.Recommendations

open Queries
open scoped List

section Slots

variable {σ : Type} [LinearOrder σ] (formulas : ScoreFormulas σ) (policy : DiversityPolicy)

def blockOf (selected : List (RankableCandidate σ)) : List (RankableCandidate σ) :=
  selected.drop (selected.length / 20 * 20)

def IsReserved (selected remaining : List (RankableCandidate σ)) : Prop :=
  policy.explorationSlotInterval > 0 ∧
    (selected.length + 1) % policy.explorationSlotInterval = 0 ∧
    ¬ (blockOf selected).any RankableCandidate.isExploration ∧
    remaining.any RankableCandidate.isExploration

instance (selected remaining : List (RankableCandidate σ)) :
    Decidable (IsReserved policy selected remaining) := inferInstanceAs (Decidable (_ ∧ _ ∧ _ ∧ _))

def unselected (candidates selected : List (RankableCandidate σ)) : List (RankableCandidate σ) :=
  (firstPerMeme [] candidates).filter (· ∉ selected)

def greedyTarget (candidates : List (RankableCandidate σ)) (limit : Nat) : Nat :=
  min limit (min policy.greedyWindow (firstPerMeme [] candidates).length)

/-- `diversity_rerank(candidates, limit=limit, policy=policy)` with the limit as it comes. -/
def rerankTo (candidates : List (RankableCandidate σ)) (limit : Int) : List (RankableCandidate σ) :=
  if limit ≤ 0 then [] else diversityRerank formulas policy candidates limit.toNat

/-- The slot after `selected` in the greedy prefix took `chosen`. -/
def IsSlot (candidates : List (RankableCandidate σ)) (limit : Int)
    (selected : List (RankableCandidate σ)) (chosen : RankableCandidate σ) : Prop :=
  ∃ position < greedyTarget policy candidates limit.toNat,
    selected = (rerankTo formulas policy candidates limit).take position ∧
      (rerankTo formulas policy candidates limit)[position]? = some chosen

end Slots

section OneSlot

variable {σ : Type} [LinearOrder σ] {formulas : ScoreFormulas σ} {policy : DiversityPolicy}
  {selected remaining : List (RankableCandidate σ)} {chosen : RankableCandidate σ}

structure FillsSlot (policy : DiversityPolicy) (selected remaining : List (RankableCandidate σ))
    (chosen : RankableCandidate σ) : Prop where
  mem : chosen ∈ remaining
  exploration : IsReserved policy selected remaining → chosen.isExploration = true
  caps : withinCaps policy (blockOf selected) chosen = false → ∀ candidate ∈ remaining,
    (IsReserved policy selected remaining → candidate.isExploration = true) →
      withinCaps policy (blockOf selected) candidate = false

omit [LinearOrder σ] in
theorem exists_eligible (hne : remaining ≠ []) : ∃ candidate ∈ remaining,
    IsReserved policy selected remaining → candidate.isExploration = true := by
  by_cases hreserved : IsReserved policy selected remaining
  · obtain ⟨candidate, hmem, hexploration⟩ := List.any_eq_true.mp hreserved.2.2.2
    exact ⟨candidate, hmem, fun _ => hexploration⟩
  · obtain ⟨candidate, hmem⟩ := List.exists_mem_of_ne_nil remaining hne
    exact ⟨candidate, hmem, fun h => absurd h hreserved⟩

omit [LinearOrder σ] in
theorem mem_eligible {candidate : RankableCandidate σ} :
    candidate ∈ (remaining.filter fun candidate =>
        ¬ IsReserved policy selected remaining ∨ candidate.isExploration) ↔
      candidate ∈ remaining ∧
        (IsReserved policy selected remaining → candidate.isExploration = true) := by
  rw [List.mem_filter, decide_eq_true_eq, imp_iff_not_or]

omit [LinearOrder σ] in
theorem slotCandidates_eq :
    slotCandidates policy selected remaining =
      (let eligible := remaining.filter fun candidate =>
        ¬ IsReserved policy selected remaining ∨ candidate.isExploration
      let capped := eligible.filter (withinCaps policy (blockOf selected))
      if ¬ capped.isEmpty then capped else if ¬ eligible.isEmpty then eligible else remaining) :=
  rfl

omit [LinearOrder σ] in
theorem fillsSlot_of_mem (h : chosen ∈ slotCandidates policy selected remaining) :
    FillsSlot policy selected remaining chosen := by
  rw [slotCandidates_eq] at h
  simp only at h
  split at h
  · obtain ⟨heligible, hcaps⟩ := List.mem_filter.mp h
    obtain ⟨hmem, hexploration⟩ := mem_eligible.mp heligible
    exact ⟨hmem, hexploration, fun hbroken => absurd hcaps (by simp [hbroken])⟩
  next hcapped =>
  split at h
  · obtain ⟨hmem, hexploration⟩ := mem_eligible.mp h
    refine ⟨hmem, hexploration, fun _ candidate hcandidate hpool => ?_⟩
    rw [Bool.eq_false_iff]
    intro hcaps
    have hfits := List.mem_filter.mpr ⟨mem_eligible.mpr ⟨hcandidate, hpool⟩, hcaps⟩
    exact hcapped (fun hempty => List.ne_nil_of_mem hfits (List.isEmpty_iff.mp hempty))
  next hnone =>
  obtain ⟨candidate, hcandidate, hpool⟩ :=
    @exists_eligible σ policy selected remaining (List.ne_nil_of_mem h)
  have heligible := mem_eligible.mpr ⟨hcandidate, hpool⟩
  exact absurd (fun hempty => List.ne_nil_of_mem heligible (List.isEmpty_iff.mp hempty)) hnone

omit [LinearOrder σ] in
theorem slotCandidates_ne_nil (hne : remaining ≠ []) :
    slotCandidates policy selected remaining ≠ [] := by
  rw [slotCandidates_eq]
  simp only
  split
  · next hcapped => exact fun hnil => hcapped (List.isEmpty_iff.mpr hnil)
  split
  · next heligible => exact fun hnil => heligible (List.isEmpty_iff.mpr hnil)
  · exact hne

end OneSlot

section Prefix

variable {σ : Type} [LinearOrder σ] {formulas : ScoreFormulas σ} {policy : DiversityPolicy}
  {candidates selected remaining filled : List (RankableCandidate σ)}
  {chosen : RankableCandidate σ} {limit : Int}

/-- Each of the slots `filled` after `selected` is filled from what is left then. -/
def FillsSlots (policy : DiversityPolicy) (selected remaining filled : List (RankableCandidate σ)) :
    Prop :=
  ∀ before next after, filled = before ++ next :: after →
    FillsSlot policy (selected ++ before) (remaining.filter (· ∉ before)) next

theorem filter_not_mem_cons (remaining before : List (RankableCandidate σ)) :
    remaining.filter (· ∉ chosen :: before) =
      (remaining.filter (· ≠ chosen)).filter (· ∉ before) := by
  rw [List.filter_filter]
  exact List.filter_congr fun candidate _ => by simp [Bool.and_comm]

theorem FillsSlots.cons (hfirst : FillsSlot policy selected remaining chosen)
    (hrest : FillsSlots policy (selected ++ [chosen]) (remaining.filter (· ≠ chosen)) filled) :
    FillsSlots policy selected remaining (chosen :: filled) := by
  intro before next after heq
  cases before with
  | nil =>
    obtain ⟨rfl, -⟩ := List.cons.inj heq
    simpa using hfirst
  | cons first before =>
    obtain ⟨rfl, hfilled⟩ := List.cons.inj heq
    rw [filter_not_mem_cons, List.append_cons]
    exact hrest before next after hfilled

theorem fillSlots_spec (rounds : Nat) (hnodup : remaining.Nodup)
    (hrounds : rounds ≤ remaining.length) :
    ∃ filled, fillSlots formulas policy rounds selected remaining =
        (selected ++ filled, remaining.filter (· ∉ filled)) ∧
      filled.length = rounds ∧ FillsSlots policy selected remaining filled := by
  induction rounds generalizing selected remaining with
  | zero =>
    refine ⟨[], ?_, rfl, ?_⟩
    · simp [fillSlots]
    · intro before next after heq
      simp at heq
  | succ rounds ih =>
    have hne : remaining ≠ [] := List.ne_nil_of_length_pos (by omega)
    obtain ⟨candidate, hcandidate⟩ :=
      List.exists_mem_of_ne_nil _ (@slotCandidates_ne_nil σ policy selected remaining hne)
    obtain ⟨chosen, hchosen⟩ := exists_firstBy_of_mem (preferred formulas selected) hcandidate
    have hslot := fillsSlot_of_mem (mem_of_firstBy hchosen)
    have hlength := List.length_erase_of_mem hslot.mem
    obtain ⟨filled, hfilled, hcount, hslots⟩ :=
      @ih (selected ++ [chosen]) (remaining.erase chosen) (hnodup.erase chosen) (by omega)
    have herase : remaining.erase chosen = remaining.filter (· ≠ chosen) := by
      rw [hnodup.erase_eq_filter]
      refine List.filter_congr fun candidate _ => Bool.eq_iff_iff.mpr ?_
      rw [bne_iff_ne, decide_eq_true_eq]
    refine ⟨chosen :: filled, ?_, ?_, ?_⟩
    · rw [fillSlots]
      simp only [hchosen]
      rw [hfilled, herase, filter_not_mem_cons, List.append_assoc]
      rfl
    · rw [List.length_cons, hcount]
    · rw [herase] at hslots
      exact FillsSlots.cons hslot hslots

omit [LinearOrder σ] in
theorem firstPerMeme_sublist (seen : List Uuid) (candidates : List (RankableCandidate σ)) :
    firstPerMeme seen candidates <+ candidates := by
  induction candidates generalizing seen with
  | nil => exact List.Sublist.refl _
  | cons candidate rest ih =>
    unfold firstPerMeme
    split
    · exact (ih seen).trans (List.sublist_cons_self _ _)
    · exact (ih _).cons_cons candidate

omit [LinearOrder σ] in
theorem mem_memeIds_firstPerMeme {seen : List Uuid} {memeId : Uuid} :
    memeId ∈ (firstPerMeme seen candidates).map RankableCandidate.memeId ↔
      memeId ∈ candidates.map RankableCandidate.memeId ∧ memeId ∉ seen := by
  constructor
  · intro hmem
    have hsub := (firstPerMeme_sublist seen candidates).map RankableCandidate.memeId
    exact ⟨hsub.subset hmem, (nodup_firstPerMeme seen candidates).2 memeId hmem⟩
  rintro ⟨hmem, hnew⟩
  induction candidates generalizing seen with
  | nil => exact (List.not_mem_nil hmem).elim
  | cons candidate rest ih =>
    unfold firstPerMeme
    rw [List.map_cons, List.mem_cons] at hmem
    split
    · next hseen =>
      rcases hmem with rfl | hmem
      · exact absurd hseen hnew
      · exact ih hmem hnew
    rw [List.map_cons, List.mem_cons]
    by_cases hsame : memeId = candidate.memeId
    · exact .inl hsame
    · refine .inr (ih (hmem.resolve_left hsame) ?_)
      exact fun hseen => (List.mem_cons.mp hseen).elim hsame hnew

def distinctMemes (candidates : List (RankableCandidate σ)) : Nat :=
  (candidates.map RankableCandidate.memeId).dedup.length

omit [LinearOrder σ] in
theorem length_firstPerMeme (candidates : List (RankableCandidate σ)) :
    (firstPerMeme [] candidates).length = distinctMemes candidates := by
  have hperm : ((firstPerMeme [] candidates).map RankableCandidate.memeId).Perm
      (candidates.map RankableCandidate.memeId).dedup := by
    rw [List.perm_ext_iff_of_nodup (nodup_firstPerMeme [] candidates).1 (List.nodup_dedup _)]
    intro memeId
    rw [mem_memeIds_firstPerMeme, List.mem_dedup]
    exact and_iff_left List.not_mem_nil
  rw [distinctMemes, ← hperm.length_eq, List.length_map]

theorem diversityRerank_eq (candidates : List (RankableCandidate σ)) (limit : Nat) :
    ∃ filled, diversityRerank formulas policy candidates limit =
        filled ++ (unselected candidates filled).take (limit - filled.length) ∧
      filled.length = greedyTarget policy candidates limit ∧
      FillsSlots policy [] (firstPerMeme [] candidates) filled ∧
      (filled ++ unselected candidates filled).Perm (firstPerMeme [] candidates) := by
  have htarget : greedyTarget policy candidates limit ≤ (firstPerMeme [] candidates).length :=
    (Nat.min_le_right _ _).trans (Nat.min_le_right _ _)
  obtain ⟨filled, hfilled, hcount, hslots⟩ :=
    @fillSlots_spec σ _ formulas policy [] (firstPerMeme [] candidates)
      (greedyTarget policy candidates limit) (nodup_firstPerMeme [] candidates).1.of_map htarget
  have hperm := fillSlots_perm formulas policy (greedyTarget policy candidates limit) []
    (firstPerMeme [] candidates)
  rw [hfilled] at hperm
  refine ⟨filled, ?_, hcount, hslots, hperm⟩
  have hshort : filled.length ≤ limit := hcount.le.trans (Nat.min_le_left _ _)
  unfold diversityRerank
  rw [greedyTarget] at hfilled
  simp only [hfilled, List.nil_append]
  refine List.take_of_length_le ?_
  rw [List.length_append, List.length_take]
  omega

theorem rerankTo_eq : rerankTo formulas policy candidates limit =
    diversityRerank formulas policy candidates limit.toNat := by
  rw [rerankTo]
  split
  · next hlimit =>
    rw [Int.toNat_of_nonpos hlimit, diversityRerank]
    simp only [List.take_zero]
  · rfl

theorem exists_filled (candidates : List (RankableCandidate σ)) (limit : Int) :
    ∃ filled, rerankTo formulas policy candidates limit =
        filled ++ (unselected candidates filled).take (limit.toNat - filled.length) ∧
      filled.length = greedyTarget policy candidates limit.toNat ∧
      FillsSlots policy [] (firstPerMeme [] candidates) filled ∧
      (filled ++ unselected candidates filled).Perm (firstPerMeme [] candidates) := by
  rw [rerankTo_eq]
  exact diversityRerank_eq candidates limit.toNat

theorem fillsSlot_of_isSlot (h : IsSlot formulas policy candidates limit selected chosen) :
    FillsSlot policy selected (unselected candidates selected) chosen := by
  obtain ⟨position, hposition, rfl, hchosen⟩ := h
  obtain ⟨filled, hfilled, hcount, hslots, -⟩ := @exists_filled σ _ formulas policy candidates limit
  have hshort : position < filled.length := hcount ▸ hposition
  rw [hfilled, List.getElem?_append_left hshort] at hchosen
  rw [hfilled, List.take_append_of_le_length hshort.le]
  have hsplit : filled = filled.take position ++ chosen :: filled.drop (position + 1) := by
    obtain ⟨_, rfl⟩ := List.getElem?_eq_some_iff.mp hchosen
    rw [List.getElem_cons_drop, List.take_append_drop]
  exact hslots _ _ _ hsplit

theorem length_rerankTo (candidates : List (RankableCandidate σ)) (limit : Int) :
    (rerankTo formulas policy candidates limit).length =
      min limit.toNat (distinctMemes candidates) := by
  obtain ⟨filled, hfilled, hcount, -, hperm⟩ := @exists_filled σ _ formulas policy candidates limit
  have hall := hperm.length_eq
  rw [List.length_append, length_firstPerMeme] at hall
  rw [greedyTarget, length_firstPerMeme] at hcount
  rw [hfilled, List.length_append, List.length_take]
  omega

theorem rerankTo_subperm (candidates : List (RankableCandidate σ)) (limit : Int) :
    rerankTo formulas policy candidates limit <+~ candidates := by
  obtain ⟨filled, hfilled, -, -, hperm⟩ := @exists_filled σ _ formulas policy candidates limit
  rw [hfilled]
  have hsub : filled ++ (unselected candidates filled).take (limit.toNat - filled.length) <+
      filled ++ unselected candidates filled := (List.take_sublist _ _).append_left filled
  exact (hsub.subperm.trans hperm.subperm).trans (firstPerMeme_sublist [] candidates).subperm

end Prefix

section Diversity

variable {σ : Type} [LinearOrder σ] {formulas : ScoreFormulas σ} {policy : DiversityPolicy}
  {candidates selected : List (RankableCandidate σ)} {chosen : RankableCandidate σ} {limit : Int}

/-- Each full exploration interval of the greedy prefix has an exploration candidate if one was
not selected when its last slot was filled. -/
def FillsIntervals (formulas : ScoreFormulas σ) (policy : DiversityPolicy)
    (candidates : List (RankableCandidate σ)) (limit : Int) : Prop :=
  ∀ selected chosen, IsSlot formulas policy candidates limit selected chosen →
    (selected.length + 1) % policy.explorationSlotInterval = 0 →
    (∃ candidate ∈ unselected candidates selected, candidate.isExploration = true) →
    ∃ candidate ∈ (selected ++ [chosen]).drop
      (selected.length + 1 - policy.explorationSlotInterval), candidate.isExploration = true

def FillsBlocks (formulas : ScoreFormulas σ) (policy : DiversityPolicy)
    (candidates : List (RankableCandidate σ)) (limit : Int) : Prop :=
  ∀ selected chosen, IsSlot formulas policy candidates limit selected chosen →
    (selected.length + 1) % policy.explorationSlotInterval = 0 →
    (∃ candidate ∈ unselected candidates selected, candidate.isExploration = true) →
    ∃ candidate ∈ blockOf selected ++ [chosen], candidate.isExploration = true

/-- A reserved slot is judged by the caps where they leave it an exploration candidate. -/
def LeavesChoice (policy : DiversityPolicy) (selected remaining : List (RankableCandidate σ)) :
    Prop :=
  IsReserved policy selected remaining → ∃ candidate ∈ remaining,
    candidate.isExploration = true ∧ withinCaps policy (blockOf selected) candidate = true

structure IsDiverse (formulas : ScoreFormulas σ) (policy : DiversityPolicy)
    (candidates : List (RankableCandidate σ)) (limit : Int) : Prop where
  subperm : rerankTo formulas policy candidates limit <+~ candidates
  unique : ((rerankTo formulas policy candidates limit).map RankableCandidate.memeId).Nodup
  length : (rerankTo formulas policy candidates limit).length =
    min limit.toNat (distinctMemes candidates)
  blocks : FillsBlocks formulas policy candidates limit
  intervals : 20 ≤ policy.explorationSlotInterval → FillsIntervals formulas policy candidates limit
  caps : ∀ selected chosen, IsSlot formulas policy candidates limit selected chosen →
    LeavesChoice policy selected (unselected candidates selected) →
    withinCaps policy (blockOf selected) chosen = false →
    ∀ candidate ∈ unselected candidates selected,
      withinCaps policy (blockOf selected) candidate = false

theorem fillsBlocks (candidates : List (RankableCandidate σ)) (limit : Int) :
    FillsBlocks formulas policy candidates limit := by
  intro selected chosen hslot hend hleft
  have hfills := fillsSlot_of_isSlot hslot
  by_cases hblock : (blockOf selected).any RankableCandidate.isExploration = true
  · obtain ⟨candidate, hmem, hexploration⟩ := List.any_eq_true.mp hblock
    exact ⟨candidate, List.mem_append_left _ hmem, hexploration⟩
  have hpositive : policy.explorationSlotInterval > 0 := by
    rcases Nat.eq_zero_or_pos policy.explorationSlotInterval with hzero | hpos
    · rw [hzero, Nat.mod_zero] at hend
      cases hend
    · exact hpos
  have hreserved : IsReserved policy selected (unselected candidates selected) :=
    ⟨hpositive, hend, hblock, List.any_eq_true.mpr hleft⟩
  exact ⟨chosen, List.mem_append_right _ (List.mem_singleton_self chosen),
    hfills.exploration hreserved⟩

theorem fillsIntervals_of_le (hinterval : 20 ≤ policy.explorationSlotInterval) :
    FillsIntervals formulas policy candidates limit := by
  intro selected chosen hslot hend hleft
  obtain ⟨candidate, hmem, hexploration⟩ :=
    fillsBlocks candidates limit selected chosen hslot hend hleft
  refine ⟨candidate, ?_, hexploration⟩
  have hblock : blockOf selected ++ [chosen] =
      (selected ++ [chosen]).drop (selected.length / 20 * 20) := by
    rw [List.drop_append_of_le_length (Nat.div_mul_le_self _ _), blockOf]
  rw [hblock] at hmem
  have hstart : selected.length + 1 - policy.explorationSlotInterval ≤
      selected.length / 20 * 20 := by omega
  exact (List.drop_sublist_drop_left _ hstart).subset hmem

/-- Every list that is reranked is diverse. -/
theorem isDiverse (formulas : ScoreFormulas σ) (policy : DiversityPolicy)
    (candidates : List (RankableCandidate σ)) (limit : Int) :
    IsDiverse formulas policy candidates limit where
  subperm := rerankTo_subperm candidates limit
  unique := by
    rw [rerankTo_eq]
    exact nodup_diversityRerank formulas policy candidates limit.toNat
  length := length_rerankTo candidates limit
  blocks := fillsBlocks candidates limit
  intervals := fillsIntervals_of_le
  caps selected chosen hslot hchoice hbroken candidate hmem := by
    have hfills := fillsSlot_of_isSlot hslot
    refine hfills.caps hbroken candidate hmem fun hreserved => ?_
    obtain ⟨other, hother, hexploration, hfits⟩ := hchoice hreserved
    have hnone := hfills.caps hbroken other hother fun _ => hexploration
    rw [hfits] at hnone
    cases hnone

end Diversity

section Penalties

variable {σ : Type} [Field σ] [LinearOrder σ]

structure DiversityPenalties (σ : Type) where
  semanticPenalty : σ
  sourcePenalty : σ
  templatePenalty : σ

def sourcesOf (candidate : RankableCandidate σ) : List Uuid :=
  candidate.features.sourceChannelIds ++
    candidate.features.representativeSourceChannelId.toList

/-- `cosine_similarity` of two embeddings is a parameter, without a value if one is missing. -/
def diversityAdjustedScore (penalties : DiversityPenalties σ)
    (similarity : RankableCandidate σ → RankableCandidate σ → Option σ)
    (candidate : RankableCandidate σ) (selected : List (RankableCandidate σ)) : σ :=
  let last := fun count => selected.drop (selected.length - count)
  let similarities := (last 10).filterMap (similarity candidate)
  let score := candidate.totalScore - penalties.semanticPenalty * similarities.foldl max 0
  let score :=
    if (last 5).any fun previous => (sourcesOf previous).any (· ∈ sourcesOf candidate) then
      score - penalties.sourcePenalty
    else score
  if candidate.features.templateId.isSome ∧
      (last 3).any fun previous => previous.features.templateId = candidate.features.templateId then
    score - penalties.templatePenalty
  else score

def homeFormulas (penalties : DiversityPenalties σ)
    (similarity : RankableCandidate σ → RankableCandidate σ → Option σ)
    (homeScore : List (RankableCandidate σ) → RankableCandidate σ → σ)
    (reciprocalRank : Option σ → Nat → Nat → σ) : ScoreFormulas σ where
  zero := 0
  add := (· + ·)
  reciprocalRank := reciprocalRank
  homeScore := homeScore
  adjustedScore := diversityAdjustedScore penalties similarity

end Penalties

def plainFormulas : ScoreFormulas ℚ :=
  homeFormulas ⟨15 / 100, 8 / 100, 8 / 100⟩ (fun _ _ => none)
    (fun _ candidate => candidate.totalScore) fun weight size rank =>
      max 0 (weight.getD 1) / size / (60 + rank)

def exploredTwice : List (RankableCandidate ℚ) :=
  (List.range 21).map fun index =>
    { memeId := index
      fusedScore := 0
      totalScore := 21 - index
      isExploration := index = 0 ∨ index = 20 }

/-- An interval that shares its block with an explored one stays unexplored. -/
theorem not_fillsIntervals_exploredTwice :
    ¬ FillsIntervals plainFormulas { explorationSlotInterval := 10 } exploredTwice 20 := by
  intro hintervals
  have hslot : IsSlot plainFormulas { explorationSlotInterval := 10 } exploredTwice 20
      ((rerankTo plainFormulas { explorationSlotInterval := 10 } exploredTwice 20).take 19)
      { memeId := 19, fusedScore := 0, totalScore := 2 } :=
    ⟨19, by decide +kernel, rfl, by decide +kernel⟩
  exact absurd (hintervals _ _ hslot (by decide +kernel) (by decide +kernel)) (by decide +kernel)

end MemeExpert.Recommendations
