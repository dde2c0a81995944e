import MemeExpert.Services.MemeActivity

/-! The loop over the snapshots keeps the mark that the window functions of the trends view
compute from the rows before, so both find the same gains. -/

namespace MemeExpert.MemeInsights

open Gathering

section Marks

variable {before rest : List EngagementObservation} {row : EngagementObservation}
  {sourceId : Uuid} {metric : SourceMetric}

theorem raisedMark_eq (previous value : Option Nat) :
    raisedMark previous value = gather max previous value.toList := by
  cases value with
  | none => rfl
  | some value =>
    cases previous with
    | none => exact congrArg some (Nat.max_zero value)
    | some previous => exact congrArg some (Nat.max_comm value previous)

def knownValues (rows : List EngagementObservation) (sourceId : Uuid) (metric : SourceMetric) :
    List Nat :=
  (rows.filter fun row => row.sourceId = sourceId).filterMap (·.value metric)

theorem previousHigh_snoc :
    previousHigh (before ++ [row]) sourceId metric =
      if sourceId = row.sourceId then
        raisedMark (previousHigh before sourceId metric) (row.value metric)
      else previousHigh before sourceId metric := by
  unfold previousHigh
  rw [List.filter_append, List.filterMap_append, gather_append]
  by_cases hsource : row.sourceId = sourceId
  · rw [if_pos hsource.symm, raisedMark_eq, List.filter_cons_of_pos (by simpa using hsource),
      List.filter_nil, List.filterMap_cons, List.filterMap_nil]
    cases row.value metric <;> rfl
  · rw [if_neg (Ne.symm hsource), List.filter_cons_of_neg (by simpa using hsource)]
    rfl

theorem gain_eq (previous value : Option Nat) :
    gain previous value =
      match previous, value with
      | some previous, some value => max ((value : Int) - previous) 0
      | _, _ => 0 := by
  cases previous with
  | none => rfl
  | some previous =>
    cases value with
    | none => rfl
    | some value =>
      simp only [gain]
      split <;> omega

theorem gain_nonneg (previous value : Option Nat) : 0 ≤ gain previous value := by
  unfold gain
  split
  · split <;> omega
  · exact le_rfl

theorem gainOfRow_eq_zero : gainOfRow before row metric = 0 ↔
    ∀ value, row.value metric = some value → knownValues before row.sourceId metric = [] ∨
      ∃ known ∈ knownValues before row.sourceId metric, value ≤ known := by
  rw [gainOfRow]
  cases hhigh : previousHigh before row.sourceId metric with
  | none => exact iff_of_true rfl fun _ _ => .inl (eq_nil_of_gather_eq_none hhigh)
  | some high =>
    have hmem : high ∈ knownValues before row.sourceId metric := mem_of_gather max_choice hhigh
    cases hvalue : row.value metric with
    | none => exact iff_of_true rfl fun _ h => by cases h
    | some value =>
      constructor
      · rintro hzero _ ⟨⟩
        dsimp only at hzero
        exact .inr ⟨high, hmem, by omega⟩
      intro h
      obtain hnil | ⟨known, hknown, hle⟩ := h value rfl
      · rw [hnil] at hmem
        cases hmem
      have hhighest : known ≤ high := le_of_gather_max hhigh hknown
      dsimp only
      omega

def marksAfter (before : List EngagementObservation) : HighWatermarks :=
  fun sourceId metric => previousHigh before sourceId metric

theorem observeMetrics_marksAfter :
    (observeMetrics (marksAfter before) row).1 = marksAfter (before ++ [row]) := by
  funext sourceId metric
  simp only [observeMetrics, marksAfter, previousHigh_snoc]
  split
  · next hsource => rw [hsource]
  · rfl

theorem gained_observeMetrics (metric : SourceMetric) :
    (observeMetrics (marksAfter before) row).2.gained metric = gainOfRow before row metric := by
  cases metric <;> exact gain_eq _ _

theorem observedCounts_eq (metric : SourceMetric) :
    (observedCounts (marksAfter before) rest).map (fun observed =>
      (observed.1, observed.2.gained metric)) = successfulSourceSnapshots metric before rest := by
  induction rest generalizing before with
  | nil => rfl
  | cons row rest ih =>
    rw [observedCounts, successfulSourceSnapshots, List.map_cons, gained_observeMetrics,
      observeMetrics_marksAfter, ih]

theorem marksAfter_nil : marksAfter [] = fun _ _ => none := rfl

theorem mem_observedCounts {observed : EngagementObservation × ActivityCounts} :
    observed ∈ observedCounts (marksAfter before) rest ↔
      ∃ first later, rest = first ++ observed.1 :: later ∧
        observed.2 = (observeMetrics (marksAfter (before ++ first)) observed.1).2 := by
  induction rest generalizing before with
  | nil =>
    refine iff_of_false List.not_mem_nil ?_
    rintro ⟨first, later, hsplit, -⟩
    exact List.cons_ne_nil _ _ (List.append_eq_nil_iff.mp hsplit.symm).2
  | cons row rest ih =>
    have hcons : observedCounts (marksAfter before) (row :: rest) =
        (row, (observeMetrics (marksAfter before) row).2) ::
          observedCounts (marksAfter (before ++ [row])) rest := by
      rw [← observeMetrics_marksAfter]
      rfl
    rw [hcons, List.mem_cons, ih]
    constructor
    · rintro (rfl | ⟨first, later, hsplit, hcounts⟩)
      · exact ⟨[], rest, rfl, by rw [List.append_nil]⟩
      · refine ⟨row :: first, later, by rw [hsplit, List.cons_append], ?_⟩
        rw [hcounts, List.append_assoc, List.singleton_append]
    rintro ⟨first, later, hsplit, hcounts⟩
    cases first with
    | nil =>
      rw [List.append_nil] at hcounts
      obtain ⟨hrow, -⟩ := List.cons.inj hsplit
      exact .inl (Prod.ext hrow.symm (hcounts.trans (by rw [hrow])))
    | cons next first =>
      obtain ⟨rfl, hrest⟩ := List.cons.inj hsplit
      refine .inr ⟨first, later, hrest, ?_⟩
      rw [hcounts, List.append_assoc, List.singleton_append]

theorem mem_successfulSourceSnapshots {gained : EngagementObservation × Int}
    (h : gained ∈ successfulSourceSnapshots metric before rest) :
    ∃ first later, rest = first ++ gained.1 :: later ∧
      gained.2 = gainOfRow (before ++ first) gained.1 metric := by
  induction rest generalizing before with
  | nil => cases h
  | cons row rest ih =>
    rcases List.mem_cons.mp h with rfl | h
    · exact ⟨[], rest, rfl, by rw [List.append_nil]⟩
    obtain ⟨first, later, hsplit, hgain⟩ := ih h
    refine ⟨row :: first, later, by rw [hsplit, List.cons_append], ?_⟩
    rw [hgain, List.append_assoc]
    rfl

theorem successfulSourceSnapshots_append (first : List EngagementObservation) :
    successfulSourceSnapshots metric before (first ++ rest) =
      successfulSourceSnapshots metric before first ++
        successfulSourceSnapshots metric (before ++ first) rest := by
  induction first generalizing before with
  | nil => rw [List.append_nil]; rfl
  | cons row first ih =>
    rw [List.cons_append, successfulSourceSnapshots, successfulSourceSnapshots, ih,
      List.append_assoc]
    rfl

theorem fst_mem_of_mem {gained : EngagementObservation × Int}
    (h : gained ∈ successfulSourceSnapshots metric before rest) : gained.1 ∈ rest := by
  obtain ⟨first, later, hsplit, -⟩ := mem_successfulSourceSnapshots h
  rw [hsplit]
  exact List.mem_append_right _ List.mem_cons_self

/-- The gains of a source are what its mark rose, from the first known value if there was
no mark. -/
theorem sum_gains (sourceId : Uuid) :
    (((successfulSourceSnapshots metric before rest).filter fun gained =>
      gained.1.sourceId = sourceId).map Prod.snd).sum =
    ((previousHigh (before ++ rest) sourceId metric).getD 0 : Int) -
      ((previousHigh before sourceId metric).or
        (knownValues rest sourceId metric).head?).getD 0 := by
  induction rest generalizing before with
  | nil =>
    rw [List.append_nil]
    simp [successfulSourceSnapshots, knownValues]
  | cons row rest ih =>
    have hrest := @ih (before ++ [row])
    rw [List.append_assoc, List.singleton_append] at hrest
    rw [successfulSourceSnapshots]
    by_cases hsource : row.sourceId = sourceId
    · rw [List.filter_cons_of_pos (by simpa using hsource), List.map_cons, List.sum_cons, hrest,
        previousHigh_snoc, if_pos hsource.symm, knownValues, knownValues,
        List.filter_cons_of_pos (by simpa using hsource), gainOfRow, hsource]
      cases hprevious : previousHigh before sourceId metric with
      | none =>
        cases hvalue : row.value metric with
        | none => simp only [raisedMark, List.filterMap_cons, hvalue, Option.none_or, zero_add]
        | some value => simp [raisedMark, hvalue]
      | some previous =>
        cases hvalue : row.value metric with
        | none => simp only [raisedMark, Option.some_or, Option.getD_some, zero_add]
        | some value =>
          simp only [raisedMark, Option.some_or, Option.getD_some]
          omega
    · rw [List.filter_cons_of_neg (by simpa using hsource), hrest, previousHigh_snoc,
        if_neg (Ne.symm hsource), knownValues, knownValues,
        List.filter_cons_of_neg (by simpa using hsource)]

variable {observations : List EngagementObservation} {startAt day : Int}
  {observed : EngagementObservation × ActivityCounts}

structure SourceOnly (counts : ActivityCounts) : Prop where
  nonneg : ∀ metric, 0 ≤ counts.gained metric
  recorded : counts.recordedActivity =
    counts.gained .views + counts.gained .reactions + counts.gained .reposts

theorem sourceOnly_observe (marks : HighWatermarks) (row : EngagementObservation) :
    SourceOnly (observeMetrics marks row).2 where
  nonneg metric := by cases metric <;> exact gain_nonneg _ _
  recorded := by
    simp only [observeMetrics, ActivityCounts.recordedActivity, ActivityCounts.gained]
    omega

theorem sourceOnly_of_mem {marks : HighWatermarks}
    (h : observed ∈ observedCounts marks observations) : SourceOnly observed.2 := by
  induction observations generalizing marks with
  | nil => cases h
  | cons row rest ih =>
    rcases List.mem_cons.mp h with rfl | h
    · exact sourceOnly_observe marks row
    · exact ih h

theorem SourceOnly.gained_eq_zero {counts : ActivityCounts} (h : SourceOnly counts)
    (hnone : counts.recordedActivity = 0) : counts.gained metric = 0 := by
  have hrecorded := h.recorded
  have hviews := h.nonneg .views
  have hreactions := h.nonneg .reactions
  have hreposts := h.nonneg .reposts
  cases metric <;> omega

theorem SourceOnly.recorded_ne_zero {counts : ActivityCounts} (h : SourceOnly counts) :
    counts.recordedActivity ≠ 0 ↔ ∃ metric, counts.gained metric ≠ 0 := by
  constructor
  · intro hrecorded
    by_contra hnone
    push Not at hnone
    rw [h.recorded, hnone, hnone, hnone] at hrecorded
    exact hrecorded rfl
  · rintro ⟨metric, hgained⟩ hrecorded
    exact hgained (h.gained_eq_zero hrecorded)

theorem sum_day_eq {pairs : List (EngagementObservation × ActivityCounts)}
    (hpairs : ∀ observed ∈ pairs, SourceOnly observed.2) (hday : startAt ≤ days day) :
    (((pairs.filterMap fun observed =>
        if startAt ≤ observed.1.capturedAt ∧ observed.2.recordedActivity ≠ 0 then
          some (⟨observed.1.capturedAt, observed.2⟩ : TimedActivity)
        else none).filter fun item => item.observedAt / microsecondsPerDay = day).map
          fun item => item.counts.gained metric).sum =
      (((pairs.map fun observed => (observed.1, observed.2.gained metric)).filter fun gained =>
        gained.1.capturedAt / microsecondsPerDay = day).map Prod.snd).sum := by
  induction pairs with
  | nil => rfl
  | cons observed pairs ih =>
    have hrest := ih fun other hother => hpairs other (List.mem_cons_of_mem _ hother)
    have hobserved := hpairs observed List.mem_cons_self
    rw [List.filterMap_cons, List.map_cons]
    by_cases hon : observed.1.capturedAt / microsecondsPerDay = day
    · rw [List.filter_cons_of_pos (by simpa using hon), List.map_cons, List.sum_cons, ← hrest]
      have hloaded : startAt ≤ observed.1.capturedAt := by
        simp only [days, microsecondsPerDay] at *
        omega
      by_cases hnone : observed.2.recordedActivity = 0
      · rw [if_neg (fun h => h.2 hnone), hobserved.gained_eq_zero hnone, zero_add]
      rw [if_pos ⟨hloaded, hnone⟩]
      dsimp only
      rw [List.filter_cons_of_pos (by simpa using hon), List.map_cons, List.sum_cons]
    · rw [List.filter_cons_of_neg (by simpa using hon), ← hrest]
      split
      · rfl
      next item heq =>
      obtain ⟨-, heq⟩ := Option.ite_none_right_eq_some.mp heq
      cases heq
      rw [List.filter_cons_of_neg (by simpa using hon)]

theorem sourceDaily_eq (observations : List EngagementObservation) (metric : SourceMetric)
    (hday : startAt ≤ days day) :
    (((sourceTimedActivity observations startAt).filter fun item =>
      item.observedAt / microsecondsPerDay = day).map fun item =>
        item.counts.gained metric).sum = sourceDaily observations day metric := by
  rw [sourceDaily, ← observedCounts_eq, ← marksAfter_nil.symm]
  exact sum_day_eq (fun _ => sourceOnly_of_mem) hday

def gainsSince (observations : List EngagementObservation) (startAt : Int) (sourceId : Uuid)
    (metric : SourceMetric) : List Int :=
  ((observedCounts (fun _ _ => none) observations).filter fun observed =>
    observed.1.sourceId = sourceId ∧ startAt ≤ observed.1.capturedAt).map fun observed =>
      observed.2.gained metric

theorem gainsSince_nonneg {sourceId : Uuid} {gained : Int}
    (h : gained ∈ gainsSince observations startAt sourceId metric) : 0 ≤ gained := by
  obtain ⟨observed, hmem, rfl⟩ := List.mem_map.mp h
  exact (sourceOnly_of_mem (List.mem_of_mem_filter hmem)).nonneg metric

theorem split_at_start (h : observations.Pairwise fun row other => row.capturedAt ≤ other.capturedAt)
    (startAt : Int) :
    observations = (observations.filter fun row => row.capturedAt < startAt) ++
      observations.filter fun row => startAt ≤ row.capturedAt := by
  induction observations with
  | nil => rfl
  | cons row rest ih =>
    obtain ⟨hrow, hrest⟩ := List.pairwise_cons.mp h
    by_cases hbefore : row.capturedAt < startAt
    · rw [List.filter_cons_of_pos (by simpa using hbefore),
        List.filter_cons_of_neg (by simpa using hbefore), List.cons_append, ← ih hrest]
    have hnone : (rest.filter fun row => row.capturedAt < startAt) = [] := by
      refine List.filter_eq_nil_iff.mpr fun other hother => ?_
      have hle := hrow other hother
      simp only [decide_eq_true_eq]
      omega
    have hall : (rest.filter fun row => startAt ≤ row.capturedAt) = rest := by
      refine List.filter_eq_self.mpr fun other hother => ?_
      have hle := hrow other hother
      simp only [decide_eq_true_eq]
      omega
    rw [List.filter_cons_of_neg (by simpa using hbefore),
      List.filter_cons_of_pos (by simpa using hbefore), hnone, hall, List.nil_append]

/-- The gains in a window are the rise of the mark over it, from the first known value if
there was no mark before it. -/
theorem sum_gainsSince
    (h : observations.Pairwise fun row other => row.capturedAt ≤ other.capturedAt)
    (startAt : Int) (sourceId : Uuid) (metric : SourceMetric) :
    (gainsSince observations startAt sourceId metric).sum =
      ((previousHigh observations sourceId metric).getD 0 : Int) -
        ((previousHigh (observations.filter fun row => row.capturedAt < startAt) sourceId
          metric).or (knownValues observations sourceId metric).head?).getD 0 := by
  have hsplit := split_at_start h startAt
  generalize hearlier : (observations.filter fun row => row.capturedAt < startAt) = earlier at *
  generalize hlater : (observations.filter fun row => startAt ≤ row.capturedAt) = later at *
  have hgains : gainsSince observations startAt sourceId metric =
      ((successfulSourceSnapshots metric [] observations).filter fun gained =>
        gained.1.sourceId = sourceId ∧ startAt ≤ gained.1.capturedAt).map Prod.snd := by
    rw [← observedCounts_eq, List.filter_map, List.map_map, gainsSince, marksAfter_nil]
    rfl
  have hbefore : ((successfulSourceSnapshots metric [] earlier).filter fun gained =>
      gained.1.sourceId = sourceId ∧ startAt ≤ gained.1.capturedAt) = [] := by
    refine List.filter_eq_nil_iff.mpr fun gained hgained => ?_
    have hmem := fst_mem_of_mem hgained
    rw [← hearlier] at hmem
    have hlt : gained.1.capturedAt < startAt := by simpa using (List.mem_filter.mp hmem).2
    simp only [decide_eq_true_eq, not_and, not_le]
    exact fun _ => hlt
  have hinside : ((successfulSourceSnapshots metric earlier later).filter fun gained =>
      gained.1.sourceId = sourceId ∧ startAt ≤ gained.1.capturedAt) =
      (successfulSourceSnapshots metric earlier later).filter fun gained =>
        gained.1.sourceId = sourceId := by
    refine List.filter_congr fun gained hgained => ?_
    have hmem := fst_mem_of_mem hgained
    rw [← hlater] at hmem
    have hle : startAt ≤ gained.1.capturedAt := by simpa using (List.mem_filter.mp hmem).2
    simp only [hle, and_true]
  have hbaseline : (previousHigh earlier sourceId metric).or
      (knownValues later sourceId metric).head? =
      (previousHigh earlier sourceId metric).or
        (knownValues observations sourceId metric).head? := by
    cases hmark : previousHigh earlier sourceId metric with
    | some mark => rfl
    | none =>
      have hnone : knownValues earlier sourceId metric = [] := eq_nil_of_gather_eq_none hmark
      rw [hsplit, knownValues, knownValues, List.filter_append, List.filterMap_append]
      rw [knownValues] at hnone
      rw [hnone, List.nil_append]
  rw [hgains, ← hbaseline]
  rw [hsplit, successfulSourceSnapshots_append, List.filter_append, hbefore, List.nil_append,
    List.nil_append, hinside]
  exact sum_gains sourceId

end Marks

end MemeExpert.MemeInsights
