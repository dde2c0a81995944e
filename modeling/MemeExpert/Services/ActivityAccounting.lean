import Mathlib.Algebra.BigOperators.Group.List.Lemmas
import MemeExpert.Services.SourceGains

/-! The buckets of a window lie one after another from its start up to now, and the loop
that makes them cuts the time line where the location of a moment does. -/

namespace MemeExpert.MemeInsights

open Periods Gathering

section Sums

instance : AddCommMonoid ActivityCounts where
  add_assoc first second third := by
    ext <;> exact Int.add_assoc _ _ _
  zero_add counts := by
    ext <;> exact Int.zero_add _
  add_zero counts := by
    ext <;> exact Int.add_zero _
  add_comm first second := by
    ext <;> exact Int.add_comm _ _
  nsmul := nsmulRec

theorem sum_map_ite {β M : Type} [AddCommMonoid M] (groups : List β) (isIn : β → Bool) (value : M) :
    (groups.map fun group => if isIn group then value else 0).sum =
      (groups.filter isIn).length • value := by
  induction groups with
  | nil => exact (zero_nsmul value).symm
  | cons group groups ih =>
    rw [List.map_cons, List.sum_cons, ih]
    cases hgroup : isIn group with
    | true => rw [if_pos rfl, List.filter_cons_of_pos hgroup, List.length_cons, succ_nsmul']
    | false =>
      rw [if_neg Bool.false_ne_true, zero_add, List.filter_cons_of_neg (by simp [hgroup])]

theorem sum_groups {α β M : Type} [AddCommMonoid M] {groups : List β} {items : List α}
    (isIn : β → α → Bool) (counts : α → Bool) (value : α → M)
    (h : ∀ item ∈ items, (groups.filter fun group => isIn group item).length =
      if counts item then 1 else 0) :
    (groups.map fun group => ((items.filter (isIn group)).map value).sum).sum =
      ((items.filter counts).map value).sum := by
  induction items with
  | nil => simp
  | cons item items ih =>
    have hrest := ih fun other hother => h other (List.mem_cons_of_mem _ hother)
    have hsplit : ∀ group, (((item :: items).filter (isIn group)).map value).sum =
        (if isIn group item then value item else 0) +
          ((items.filter (isIn group)).map value).sum := by
      intro group
      cases hgroup : isIn group item with
      | true => rw [List.filter_cons_of_pos hgroup, List.map_cons, List.sum_cons, if_pos rfl]
      | false =>
        rw [List.filter_cons_of_neg (by simp [hgroup]), if_neg Bool.false_ne_true, zero_add]
    simp only [hsplit]
    rw [List.sum_map_add, hrest, sum_map_ite groups (fun group => isIn group item),
      h item List.mem_cons_self]
    cases hcounts : counts item with
    | true =>
      rw [if_pos rfl, one_nsmul, List.filter_cons_of_pos hcounts, List.map_cons, List.sum_cons]
    | false =>
      rw [if_neg Bool.false_ne_true, zero_nsmul, zero_add,
        List.filter_cons_of_neg (by simp [hcounts])]

end Sums

section Buckets

variable {window : AnalyticsWindow} {now endAt cursor t : Int}

theorem isPeriods_midnight : IsPeriods midnightUtc (· + days 1) where
  start_le t := by simp only [midnightUtc, days, microsecondsPerDay]; omega
  lt_next t := by simp only [midnightUtc, days, microsecondsPerDay]; omega
  start_eq t u hstart hnext := by
    simp only [midnightUtc, days, microsecondsPerDay] at *
    omega

theorem isPeriods_week : IsPeriods startOfWeek (· + days 7) where
  start_le t := by simp only [startOfWeek, weekday, midnightUtc, days, microsecondsPerDay]; omega
  lt_next t := by simp only [startOfWeek, weekday, midnightUtc, days, microsecondsPerDay]; omega
  start_eq t u hstart hnext := by
    simp only [startOfWeek, weekday, midnightUtc, days, microsecondsPerDay] at *
    omega

theorem isPeriods_month : IsPeriods startOfMonth nextMonth := isPeriods_months.scale (by decide)

theorem start_bucketFor (t now endAt other : Int) (window : AnalyticsWindow) :
    (bucketFor t window now endAt).start = (bucketFor t window now other).start := by
  simp only [bucketFor]
  split
  · rfl
  split
  · rfl
  · split <;> rfl

theorem adaptiveCutoffs_spec (now : Int) :
    midnightUtc (adaptiveCutoffs now).1 = (adaptiveCutoffs now).1 ∧
    startOfWeek (adaptiveCutoffs now).2 = (adaptiveCutoffs now).2 ∧
    (adaptiveCutoffs now).2 < (adaptiveCutoffs now).1 ∧
    (adaptiveCutoffs now).1 ≤ midnightUtc now := by
  refine ⟨isPeriods_midnight.start_start _, isPeriods_week.start_start _, ?_, ?_⟩
  · simp only [adaptiveCutoffs, startOfWeek, weekday, midnightUtc, days, microsecondsPerDay]
    omega
  · simp only [adaptiveCutoffs, midnightUtc, days, microsecondsPerDay]
    omega

theorem bucketFor_cases (t now endAt : Int) (window : AnalyticsWindow) :
    ((window ≠ .all ∨ (adaptiveCutoffs now).1 ≤ t) ∧
      bucketFor t window now endAt = dayBucket t endAt) ∨
    (window = .all ∧ t < (adaptiveCutoffs now).1 ∧ (adaptiveCutoffs now).2 ≤ t ∧
      bucketFor t window now endAt =
        ⟨startOfWeek t, min (min (startOfWeek t + days 7) (adaptiveCutoffs now).1) endAt, .week⟩) ∨
    (window = .all ∧ t < (adaptiveCutoffs now).2 ∧
      bucketFor t window now endAt =
        ⟨startOfMonth t, min (min (nextMonth (startOfMonth t)) (adaptiveCutoffs now).2) endAt,
          .month⟩) := by
  obtain ⟨-, -, horder, -⟩ := adaptiveCutoffs_spec now
  by_cases hwindow : window = .all
  · by_cases hday : (adaptiveCutoffs now).1 ≤ t
    · refine .inl ⟨.inr hday, ?_⟩
      simp only [bucketFor, hwindow, hday, ne_eq, not_true_eq_false, if_false, if_true]
    · by_cases hweek : (adaptiveCutoffs now).2 ≤ t
      · refine .inr (.inl ⟨hwindow, not_le.mp hday, hweek, ?_⟩)
        simp only [bucketFor, hwindow, hday, hweek, ne_eq, not_true_eq_false, if_false, if_true]
      · refine .inr (.inr ⟨hwindow, not_le.mp hweek, ?_⟩)
        simp only [bucketFor, hwindow, hday, hweek, ne_eq, not_true_eq_false, if_false]
  · refine .inl ⟨.inl hwindow, ?_⟩
    simp only [bucketFor, hwindow, ne_eq, not_false_eq_true, if_true]

theorem start_of_day (h : window ≠ .all ∨ (adaptiveCutoffs now).1 ≤ t) :
    (bucketFor t window now endAt).start = midnightUtc t := by
  obtain ⟨-, heq⟩ | ⟨hwindow, hlt, -⟩ | ⟨hwindow, hlt, -⟩ := bucketFor_cases t now endAt window
  · rw [heq]
    rfl
  · exact (h.elim (· hwindow) (not_le.mpr hlt)).elim
  · have horder := (adaptiveCutoffs_spec now).2.2.1
    exact (h.elim (· hwindow) (not_le.mpr (hlt.trans horder))).elim

theorem start_of_week (hwindow : window = .all) (hlt : t < (adaptiveCutoffs now).1)
    (hle : (adaptiveCutoffs now).2 ≤ t) :
    (bucketFor t window now endAt).start = startOfWeek t := by
  obtain ⟨hday, -⟩ | ⟨-, -, -, heq⟩ | ⟨-, hmonth, -⟩ := bucketFor_cases t now endAt window
  · exact (hday.elim (· hwindow) (not_le.mpr hlt)).elim
  · rw [heq]
  · exact (not_le.mpr hmonth hle).elim

theorem start_of_month (hwindow : window = .all) (hlt : t < (adaptiveCutoffs now).2) :
    (bucketFor t window now endAt).start = startOfMonth t := by
  obtain ⟨hday, -⟩ | ⟨-, -, hle, -⟩ | ⟨-, -, heq⟩ := bucketFor_cases t now endAt window
  · have horder := (adaptiveCutoffs_spec now).2.2.1
    exact (hday.elim (· hwindow) (not_le.mpr (hlt.trans horder))).elim
  · exact (not_le.mpr hlt hle).elim
  · rw [heq]

def Aligned (window : AnalyticsWindow) (now t : Int) : Prop :=
  (bucketFor t window now now).start = t

/-- The bucket of a cursor moves it on to the next one, and it is where the moments up to
there are located. -/
theorem bucket_step (haligned : Aligned window now cursor) (hlt : cursor < now) :
    cursor < (bucketFor cursor window now now).endAt ∧
    (bucketFor cursor window now now).endAt ≤ now ∧
    (∀ t, cursor ≤ t → t < (bucketFor cursor window now now).endAt →
      (bucketFor t window now now).start = cursor) ∧
    ((bucketFor cursor window now now).endAt = now ∨
      Aligned window now (bucketFor cursor window now now).endAt) := by
  obtain ⟨hdaily, hweekly, horder, -⟩ := adaptiveCutoffs_spec now
  obtain ⟨hday, heq⟩ | ⟨hwindow, hbefore, hafter, heq⟩ | ⟨hwindow, hbefore, heq⟩ :=
    bucketFor_cases cursor now now window
  · have hcursor : midnightUtc cursor = cursor := (start_of_day hday).symm.trans haligned
    have hnext := isPeriods_midnight.start_next cursor
    have hin := isPeriods_midnight.start_eq cursor
    have hlength : (0 : Int) < days 1 := by decide
    simp only [heq, dayBucket, hcursor] at hnext hin ⊢
    refine ⟨by omega, by omega, fun t hle htlt => ?_, ?_⟩
    · rw [start_of_day (hday.imp_right (·.trans hle)), hin t hle (by omega)]
    by_cases hend : cursor + days 1 < now
    · rw [min_eq_left hend.le]
      refine .inr ((start_of_day (hday.imp_right fun h => ?_)).trans hnext)
      omega
    · exact .inl (min_eq_right (not_lt.mp hend))
  · have hcursor : startOfWeek cursor = cursor :=
      (start_of_week hwindow hbefore hafter).symm.trans haligned
    have hnext := isPeriods_week.start_next cursor
    have hin := isPeriods_week.start_eq cursor
    have hlength : (0 : Int) < days 7 := by decide
    simp only [heq, hcursor] at hnext hin ⊢
    refine ⟨by omega, by omega, fun t hle htlt => ?_, ?_⟩
    · rw [start_of_week hwindow (by omega) (hafter.trans hle), hin t hle (by omega)]
    by_cases hend : min (cursor + days 7) (adaptiveCutoffs now).1 < now
    · rw [min_eq_left hend.le]
      by_cases hcut : cursor + days 7 < (adaptiveCutoffs now).1
      · rw [min_eq_left hcut.le]
        exact .inr ((start_of_week hwindow hcut (by omega)).trans hnext)
      · rw [min_eq_right (not_lt.mp hcut)]
        exact .inr ((start_of_day (.inr le_rfl)).trans hdaily)
    · exact .inl (min_eq_right (not_lt.mp hend))
  · have hcursor : startOfMonth cursor = cursor :=
      (start_of_month hwindow hbefore).symm.trans haligned
    have hnext := isPeriods_month.start_next cursor
    have hin := isPeriods_month.start_eq cursor
    have hlength := isPeriods_month.lt_next cursor
    simp only [heq, hcursor] at hnext hin hlength ⊢
    refine ⟨by omega, by omega, fun t hle htlt => ?_, ?_⟩
    · rw [start_of_month hwindow (by omega), hin t hle (by omega)]
    by_cases hend : min (nextMonth cursor) (adaptiveCutoffs now).2 < now
    · rw [min_eq_left hend.le]
      by_cases hcut : nextMonth cursor < (adaptiveCutoffs now).2
      · rw [min_eq_left hcut.le]
        exact .inr ((start_of_month hwindow hcut).trans hnext)
      · rw [min_eq_right (not_lt.mp hcut)]
        exact .inr ((start_of_week hwindow horder le_rfl).trans hweekly)
    · exact .inl (min_eq_right (not_lt.mp hend))

def Tiles : Int → Int → List Bucket → Prop
  | start, endAt, [] => start = endAt
  | start, endAt, bucket :: rest =>
    bucket.start = start ∧ start < bucket.endAt ∧ Tiles bucket.endAt endAt rest

theorem Tiles.start_le {buckets : List Bucket} {start : Int} (h : Tiles start endAt buckets) :
    start ≤ endAt := by
  induction buckets generalizing start with
  | nil => exact le_of_eq h
  | cons bucket rest ih =>
    obtain ⟨-, hlt, hrest⟩ := h
    exact hlt.le.trans (ih hrest)

variable {bucket : Bucket}

theorem Tiles.start_mem {buckets : List Bucket} {start : Int} (h : Tiles start endAt buckets)
    (hbucket : bucket ∈ buckets) :
    start ≤ bucket.start ∧ bucket.start < bucket.endAt ∧ bucket.endAt ≤ endAt := by
  induction buckets generalizing start with
  | nil => cases hbucket
  | cons first rest ih =>
    obtain ⟨hfirst, hlt, hrest⟩ := h
    rcases List.mem_cons.mp hbucket with rfl | hbucket
    · exact ⟨hfirst.ge, hfirst ▸ hlt, hrest.start_le⟩
    · obtain ⟨hle, hbounds⟩ := ih hrest hbucket
      exact ⟨hlt.le.trans hle, hbounds⟩

theorem Tiles.exists_mem {buckets : List Bucket} {start : Int} (h : Tiles start endAt buckets)
    (hstart : start ≤ t) (hend : t < endAt) :
    ∃ bucket ∈ buckets, bucket.start ≤ t ∧ t < bucket.endAt := by
  induction buckets generalizing start with
  | nil => exact (not_lt.mpr hstart (h ▸ hend)).elim
  | cons first rest ih =>
    obtain ⟨hfirst, hlt, hrest⟩ := h
    by_cases hin : t < first.endAt
    · exact ⟨first, List.mem_cons_self, hfirst ▸ hstart, hin⟩
    · obtain ⟨bucket, hbucket, hbounds⟩ := ih hrest (not_lt.mp hin)
      exact ⟨bucket, List.mem_cons_of_mem _ hbucket, hbounds⟩

theorem Tiles.starts_nodup {buckets : List Bucket} {start : Int}
    (h : Tiles start endAt buckets) : (buckets.map Bucket.start).Nodup := by
  induction buckets generalizing start with
  | nil => exact List.nodup_nil
  | cons first rest ih =>
    obtain ⟨hfirst, hlt, hrest⟩ := h
    refine List.nodup_cons.mpr ⟨fun hmem => ?_, ih hrest⟩
    obtain ⟨bucket, hbucket, heq⟩ := List.mem_map.mp hmem
    have hle := (hrest.start_mem hbucket).1
    omega

theorem analyticsBuckets_spec (haligned : Aligned window now cursor) (hle : cursor ≤ now) :
    Tiles cursor now (analyticsBuckets cursor now window now) ∧
    ∀ bucket ∈ analyticsBuckets cursor now window now, ∀ t, bucket.start ≤ t →
      t < bucket.endAt → (bucketFor t window now now).start = bucket.start := by
  induction hrest : (now - cursor).toNat using Nat.strong_induction_on generalizing cursor with
  | _ rest ih =>
    rw [analyticsBuckets]
    by_cases hlt : cursor < now
    · obtain ⟨hmoves, hend, hin, hnext⟩ := bucket_step haligned hlt
      simp only [hlt, dif_pos, not_le.mpr hmoves, dif_neg, not_false_eq_true]
      have hlater : Tiles (bucketFor cursor window now now).endAt now
            (analyticsBuckets (bucketFor cursor window now now).endAt now window now) ∧
          ∀ bucket ∈ analyticsBuckets (bucketFor cursor window now now).endAt now window now,
            ∀ t, bucket.start ≤ t → t < bucket.endAt →
              (bucketFor t window now now).start = bucket.start := by
        rcases hnext with hnow | haligned
        · rw [hnow, analyticsBuckets, dif_neg (lt_irrefl _)]
          exact ⟨rfl, fun bucket hbucket => (List.not_mem_nil hbucket).elim⟩
        · exact ih _ (by omega) haligned hend rfl
      refine ⟨⟨rfl, hmoves, hlater.1⟩, ?_⟩
      intro bucket hbucket t hstart htlt
      rcases List.mem_cons.mp hbucket with rfl | hbucket
      · exact hin t hstart htlt
      · exact hlater.2 bucket hbucket t hstart htlt
    · rw [dif_neg hlt]
      exact ⟨le_antisymm hle (not_lt.mp hlt), fun bucket hbucket => (List.not_mem_nil hbucket).elim⟩

theorem aligned_start (t : Int) : Aligned window now (bucketFor t window now now).start := by
  obtain ⟨hdaily, hweekly, horder, -⟩ := adaptiveCutoffs_spec now
  obtain ⟨hday, -⟩ | ⟨hwindow, hbefore, hafter, -⟩ | ⟨hwindow, hbefore, -⟩ :=
    bucketFor_cases t now now window
  · rw [start_of_day hday]
    refine (start_of_day (hday.imp_right fun h => ?_)).trans (isPeriods_midnight.start_start t)
    exact hdaily ▸ isPeriods_midnight.start_mono h
  · rw [start_of_week hwindow hbefore hafter]
    refine (start_of_week hwindow ?_ ?_).trans (isPeriods_week.start_start t)
    · exact (isPeriods_week.start_le t).trans_lt hbefore
    · exact hweekly ▸ isPeriods_week.start_mono hafter
  · rw [start_of_month hwindow hbefore]
    refine (start_of_month hwindow ?_).trans (isPeriods_month.start_start t)
    exact (isPeriods_month.start_le t).trans_lt hbefore

theorem start_le_self (t endAt : Int) : (bucketFor t window now endAt).start ≤ t := by
  obtain ⟨-, heq⟩ | ⟨-, -, -, heq⟩ | ⟨-, -, heq⟩ := bucketFor_cases t now endAt window
  · rw [heq]
    exact isPeriods_midnight.start_le t
  · rw [heq]
    exact isPeriods_week.start_le t
  · rw [heq]
    exact isPeriods_month.start_le t

theorem start_now : (bucketFor now window now endAt).start = midnightUtc now :=
  start_of_day (.inr ((adaptiveCutoffs_spec now).2.2.2.trans (isPeriods_midnight.start_le now)))

theorem start_midnight : (bucketFor (midnightUtc now) window now endAt).start = midnightUtc now :=
  (start_of_day (.inr (adaptiveCutoffs_spec now).2.2.2)).trans (isPeriods_midnight.start_start now)

theorem start_le_midnight (h : t ≤ now) :
    (bucketFor t window now endAt).start ≤ midnightUtc now := by
  obtain ⟨-, -, horder, hcut⟩ := adaptiveCutoffs_spec now
  obtain ⟨-, heq⟩ | ⟨-, hbefore, -, heq⟩ | ⟨-, hbefore, heq⟩ := bucketFor_cases t now endAt window
  · rw [heq]
    exact isPeriods_midnight.start_mono h
  · rw [heq]
    exact (isPeriods_week.start_le t).trans (hbefore.le.trans hcut)
  · rw [heq]
    exact (isPeriods_month.start_le t).trans (hbefore.le.trans (horder.le.trans hcut))

theorem analyticsStart_spec {historyStart : Option Int}
    (hhistory : ∀ first ∈ historyStart, first ≤ now) :
    Aligned window now (analyticsStart window now historyStart) ∧
    analyticsStart window now historyStart ≤ midnightUtc now := by
  have hfixed : ∀ count : Int, 0 < count → window ≠ .all →
      Aligned window now (midnightUtc now - days (count - 1)) ∧
        midnightUtc now - days (count - 1) ≤ midnightUtc now := by
    intro count hcount hwindow
    refine ⟨(start_of_day (.inl hwindow)).trans ?_, ?_⟩
    · simp only [midnightUtc, days, microsecondsPerDay]
      omega
    · simp only [days, microsecondsPerDay]
      omega
  cases window with
  | sevenDays => exact hfixed 7 (by decide) (by decide)
  | thirtyDays => exact hfixed 30 (by decide) (by decide)
  | ninetyDays => exact hfixed 90 (by decide) (by decide)
  | all =>
    cases historyStart with
    | none => exact ⟨start_midnight, le_rfl⟩
    | some first => exact ⟨aligned_start first, start_le_midnight (hhistory first rfl)⟩

def Located (window : AnalyticsWindow) (now t : Int) (bucket : Bucket) : Prop :=
  bucket.start = (bucketFor t window now now).start

instance {bucket : Bucket} : Decidable (Located window now t bucket) :=
  inferInstanceAs (Decidable (_ = _))

section Located

variable {start : Int} {buckets : List Bucket}
  (htiles : Tiles start now buckets)
  (hlocated : ∀ bucket ∈ buckets, ∀ t, bucket.start ≤ t → t < bucket.endAt →
    (bucketFor t window now now).start = bucket.start)

include htiles hlocated

theorem exists_located (hmidnight : start ≤ midnightUtc now) (hstart : start ≤ t) (hend : t ≤ now)
    (hnow : t < now ∨ midnightUtc now < now) : ∃ bucket ∈ buckets, Located window now t bucket := by
  rcases hend.lt_or_eq with hlt | rfl
  · obtain ⟨bucket, hbucket, hle, hin⟩ := htiles.exists_mem hstart hlt
    exact ⟨bucket, hbucket, (hlocated bucket hbucket t hle hin).symm⟩
  have hlt := hnow.resolve_left (lt_irrefl _)
  obtain ⟨bucket, hbucket, hle, hin⟩ := htiles.exists_mem hmidnight hlt
  refine ⟨bucket, hbucket, ?_⟩
  rw [Located, start_now, ← hlocated bucket hbucket _ hle hin, start_midnight]

omit hlocated in
theorem located_unique {other : Bucket} (hbucket : bucket ∈ buckets)
    (hother : other ∈ buckets) (h : Located window now t bucket)
    (hotherLocated : Located window now t other) : other = bucket :=
  List.inj_on_of_nodup_map htiles.starts_nodup hother hbucket (hotherLocated.trans h.symm)

omit hlocated in
theorem not_located_before (hstart : t < start) (hbucket : bucket ∈ buckets) :
    ¬ Located window now t bucket := by
  intro h
  have hle := (htiles.start_mem hbucket).1
  have hself : (bucketFor t window now now).start ≤ t := start_le_self t now
  rw [Located] at h
  omega

omit hlocated in
theorem not_located_now (hmidnight : midnightUtc now = now)
    (hbucket : bucket ∈ buckets) : ¬ Located window now now bucket := by
  intro h
  obtain ⟨-, hlt, hle⟩ := htiles.start_mem hbucket
  rw [Located, start_now, hmidnight] at h
  omega

end Located

end Buckets

section Points

variable {window : AnalyticsWindow} {now start : Int} {buckets : List Bucket}
  {activity : List TimedActivity}

theorem byStart_eq (startOf : TimedActivity → Int) (held : Int → ActivityCounts) (at' : Int) :
    activity.foldl (fun byStart item =>
        Function.update byStart (startOf item) (byStart (startOf item) + item.counts)) held at' =
      held at' +
        ((activity.filter fun item => at' = startOf item).map TimedActivity.counts).sum := by
  induction activity generalizing held with
  | nil => exact (add_zero _).symm
  | cons item rest ih =>
    rw [List.foldl_cons, ih]
    by_cases heq : at' = startOf item
    · rw [List.filter_cons_of_pos (by simpa using heq), List.map_cons, List.sum_cons, ← add_assoc,
        heq, Function.update_self]
    · rw [List.filter_cons_of_neg (by simpa using heq), Function.update_of_ne heq]

theorem sumActivityPoints_eq :
    sumActivityPoints (activityPoints buckets activity window now) =
      (buckets.map fun bucket => ((activity.filter fun item =>
        Located window now item.observedAt bucket).map TimedActivity.counts).sum).sum := by
  have hfold : ∀ points : List ActivityPoint, sumActivityPoints points =
      (points.map ActivityPoint.counts).sum := by
    intro points
    rw [sumActivityPoints, List.sum_eq_foldl, List.foldl_map]
  rw [hfold, activityPoints, List.map_map]
  refine congrArg List.sum (List.map_congr_left fun bucket _ => ?_)
  simp only [Function.comp_apply, byStart_eq, zero_add]
  congr 2
  refine List.filter_congr fun item _ => ?_
  rw [start_bucketFor item.observedAt now _ now window]
  rfl

theorem length_eq_one_of_unique {α : Type} {items : List α} {item : α} (hnodup : items.Nodup)
    (hmem : item ∈ items) (h : ∀ other ∈ items, other = item) : items.length = 1 := by
  match items with
  | [only] => rfl
  | first :: second :: rest =>
    have hfirst := h first List.mem_cons_self
    have hsecond := h second (List.mem_cons_of_mem _ List.mem_cons_self)
    rw [hfirst, hsecond] at hnodup
    exact ((List.nodup_cons.mp hnodup).1 List.mem_cons_self).elim

theorem sum_points_eq (htiles : Tiles start now buckets)
    (hone : ∀ item ∈ activity, start ≤ item.observedAt → item.observedAt ≤ now →
      ∃ bucket ∈ buckets, Located window now item.observedAt bucket)
    (hpast : ∀ item ∈ activity, item.observedAt ≤ now) :
    sumActivityPoints (activityPoints buckets activity window now) =
      ((activity.filter fun item => start ≤ item.observedAt ∧ item.observedAt ≤ now).map
        TimedActivity.counts).sum := by
  rw [sumActivityPoints_eq]
  refine sum_groups (fun bucket item => decide (Located window now item.observedAt bucket)) _
    TimedActivity.counts fun item hitem => ?_
  by_cases hstart : start ≤ item.observedAt
  · have hend := hpast item hitem
    obtain ⟨bucket, hbucket, hin⟩ := hone item hitem hstart hend
    rw [if_pos (decide_eq_true ⟨hstart, hend⟩)]
    refine length_eq_one_of_unique (htiles.starts_nodup.of_map.filter _)
      (List.mem_filter.mpr ⟨hbucket, decide_eq_true hin⟩) fun other hother => ?_
    obtain ⟨hother, hotherIn⟩ := List.mem_filter.mp hother
    exact located_unique htiles hbucket hother hin (of_decide_eq_true hotherIn)
  · rw [if_neg (by simp [hstart]), List.length_eq_zero_iff, List.filter_eq_nil_iff]
    intro bucket hbucket
    simpa using not_located_before htiles (not_le.mp hstart) hbucket

variable {startAt : Int} {snapshots : List EngagementObservation} {events : List MemeEvent}

theorem mem_loaded {row : EngagementObservation} :
    row ∈ loadEngagementObservations snapshots now ↔ row ∈ snapshots ∧ row.capturedAt ≤ now := by
  rw [loadEngagementObservations, List.mem_insertionSort, List.mem_filter, decide_eq_true_iff]

def loadOrder (row other : EngagementObservation) : Prop :=
  row.capturedAt < other.capturedAt ∨ row.capturedAt = other.capturedAt ∧ row.id ≤ other.id

instance : DecidableRel loadOrder := fun _ _ => inferInstanceAs (Decidable (_ ∨ _))

instance : Std.Total loadOrder where
  total row other := by
    rcases lt_trichotomy row.capturedAt other.capturedAt with hlt | heq | hlt
    · exact .inl (.inl hlt)
    · exact (Nat.le_total row.id other.id).imp (fun h => .inr ⟨heq, h⟩) fun h => .inr ⟨heq.symm, h⟩
    · exact .inr (.inl hlt)

instance : IsTrans EngagementObservation loadOrder where
  trans row other third hrow hother := by
    obtain hlt | ⟨heq, hid⟩ := hrow
    · exact .inl (hother.elim (hlt.trans ·) fun h => hlt.trans_eq h.1)
    · exact hother.imp (heq.trans_lt ·) fun h => ⟨heq.trans h.1, Nat.le_trans hid h.2⟩

theorem loaded_sorted : (loadEngagementObservations snapshots now).Pairwise fun row other =>
    row.capturedAt ≤ other.capturedAt := by
  have hsorted := List.pairwise_insertionSort loadOrder
    (snapshots.filter fun row => row.capturedAt ≤ now)
  refine hsorted.imp fun {row other} h => ?_
  rcases h with hlt | ⟨heq, -⟩
  · exact hlt.le
  · exact heq.le

theorem historyStart_le {first : Int} (h : first ∈ historyStart now snapshots events) :
    first ≤ now := by
  have hevents : ∀ start ∈ loadEventHistoryStart events now, start ≤ now := by
    intro start hstart
    obtain ⟨event, hevent, rfl⟩ := List.mem_map.mp (mem_of_gather min_choice hstart)
    exact (of_decide_eq_true (List.mem_filter.mp hevent).2).1
  have hsources : ∀ start ∈ (loadEngagementObservations snapshots now).head?.map
      EngagementObservation.capturedAt, start ≤ now := by
    intro start hstart
    obtain ⟨row, hrow, rfl⟩ := Option.map_eq_some_iff.mp hstart
    exact (mem_loaded.mp (List.mem_of_mem_head? hrow)).2
  rw [historyStart] at h
  cases hevent : loadEventHistoryStart events now with
  | none =>
    rw [hevent, Option.merge_none_left] at h
    exact hsources first h
  | some start =>
    cases hsource : (loadEngagementObservations snapshots now).head?.map
        EngagementObservation.capturedAt with
    | none =>
      rw [hevent, hsource, Option.merge_none_right] at h
      exact hevents first (hevent.trans h)
    | some captured =>
      rw [hevent, hsource] at h
      have hmin : min start captured = first := Option.some.inj h
      exact hmin ▸ (min_le_left start captured).trans (hevents start hevent)

variable {item : TimedActivity}

theorem mem_timedActivity :
    item ∈ timedActivity window now snapshots events ↔
      item ∈ sourceTimedActivity (loadEngagementObservations snapshots now)
        (activityLoadStart window now snapshots events) ∨
      item ∈ loadEventDailyActivity events (activityLoadStart window now snapshots events) now := by
  rw [timedActivity, List.mem_insertionSort, List.mem_append]

theorem mem_loadEventDailyActivity {endAt : Int}
    (h : item ∈ loadEventDailyActivity events startAt endAt) :
    ∃ event ∈ events, event.eventType ∈ activityEventTypes ∧ event.occurredAt ≤ endAt ∧
      item.observedAt = midnightUtc event.occurredAt := by
  obtain ⟨group, hgroup, rfl⟩ := List.mem_map.mp h
  obtain ⟨event, hevent, rfl⟩ := List.mem_map.mp (List.mem_dedup.mp hgroup)
  obtain ⟨hmem, hloaded⟩ := List.mem_filter.mp hevent
  obtain ⟨htype, -, hend⟩ := of_decide_eq_true hloaded
  exact ⟨event, hmem, htype, hend, rfl⟩

theorem exists_item_of_event {event : MemeEvent} {endAt : Int} (hevent : event ∈ events)
    (htype : event.eventType ∈ activityEventTypes) (hstart : startAt ≤ event.occurredAt)
    (hend : event.occurredAt ≤ endAt) :
    ∃ item ∈ loadEventDailyActivity events startAt endAt,
      item.observedAt = midnightUtc event.occurredAt := by
  refine ⟨_, List.mem_map_of_mem (List.mem_dedup.mpr (List.mem_map_of_mem
    (List.mem_filter.mpr ⟨hevent, decide_eq_true ⟨htype, hstart, hend⟩⟩))), rfl⟩

theorem mem_sourceTimedActivity {observations : List EngagementObservation}
    (h : item ∈ sourceTimedActivity observations startAt) :
    ∃ observed ∈ observedCounts (marksAfter []) observations,
      item.observedAt = observed.1.capturedAt ∧ observed.2.recordedActivity ≠ 0 := by
  obtain ⟨observed, hmem, hitem⟩ := List.mem_filterMap.mp h
  obtain ⟨⟨-, hrecorded⟩, heq⟩ := Option.ite_none_right_eq_some.mp hitem
  cases heq
  exact ⟨observed, hmem, rfl, hrecorded⟩

end Points

section Account

variable (window : AnalyticsWindow) (now : Int) (snapshots : List EngagementObservation)
  (events : List MemeEvent)

/-- Nothing happened at this very moment: no counted event, and no snapshot with a value
above the known ones of its source. -/
structure QuietAt : Prop where
  events_ne : ∀ event ∈ events, event.eventType ∈ activityEventTypes → event.occurredAt ≠ now
  sources : ∀ before row after,
    loadEngagementObservations snapshots now = before ++ row :: after → row.capturedAt = now →
      ∀ metric value, row.value metric = some value →
        knownValues before row.sourceId metric = [] ∨
          ∃ known ∈ knownValues before row.sourceId metric, value ≤ known

structure Accounted : Prop where
  tiles : Tiles (windowStart window now snapshots events) now
    (windowBuckets window now snapshots events)
  within : ∀ bucket ∈ windowBuckets window now snapshots events, ∀ t < now,
    Located window now t bucket ↔ bucket.start ≤ t ∧ t < bucket.endAt
  falls : ∀ item ∈ timedActivity window now snapshots events,
    windowStart window now snapshots events ≤ item.observedAt → item.observedAt ≤ now →
      ∃! bucket, bucket ∈ windowBuckets window now snapshots events ∧
        Located window now item.observedAt bucket
  total : sumActivityPoints (analyticsPoints window now snapshots events) =
    (((timedActivity window now snapshots events).filter fun item =>
      windowStart window now snapshots events ≤ item.observedAt ∧ item.observedAt ≤ now).map
        TimedActivity.counts).sum
  gains_nonneg : ∀ sourceId metric, ∀ gained ∈ gainsSince
    (loadEngagementObservations snapshots now) (windowStart window now snapshots events) sourceId
      metric, 0 ≤ gained
  gains_sum : ∀ sourceId metric,
    (gainsSince (loadEngagementObservations snapshots now)
      (windowStart window now snapshots events) sourceId metric).sum =
      ((previousHigh (loadEngagementObservations snapshots now) sourceId metric).getD 0 : Int) -
        ((previousHigh ((loadEngagementObservations snapshots now).filter fun row =>
          row.capturedAt < windowStart window now snapshots events) sourceId metric).or
            (knownValues (loadEngagementObservations snapshots now) sourceId metric).head?).getD 0
  daily : ∀ day metric, activityLoadStart window now snapshots events ≤ days day →
    (((sourceTimedActivity (loadEngagementObservations snapshots now)
      (activityLoadStart window now snapshots events)).filter fun item =>
        item.observedAt / microsecondsPerDay = day).map fun item =>
          item.counts.gained metric).sum =
      sourceDaily (loadEngagementObservations snapshots now) day metric

variable {window now snapshots events}

theorem windowStart_spec :
    Aligned window now (windowStart window now snapshots events) ∧
    windowStart window now snapshots events ≤ midnightUtc now :=
  analyticsStart_spec fun _ => historyStart_le

theorem windowBuckets_spec :
    Tiles (windowStart window now snapshots events) now
      (windowBuckets window now snapshots events) ∧
    ∀ bucket ∈ windowBuckets window now snapshots events, ∀ t, bucket.start ≤ t →
      t < bucket.endAt → (bucketFor t window now now).start = bucket.start :=
  analyticsBuckets_spec windowStart_spec.1
    (windowStart_spec.2.trans (isPeriods_midnight.start_le now))

variable {item : TimedActivity}

theorem observedAt_le
    (h : item ∈ timedActivity window now snapshots events) : item.observedAt ≤ now := by
  rcases mem_timedActivity.mp h with hsource | hevent
  · obtain ⟨observed, hobserved, hat, -⟩ := mem_sourceTimedActivity hsource
    obtain ⟨first, later, hsplit, -⟩ := mem_observedCounts.mp hobserved
    have hloaded : observed.1 ∈ loadEngagementObservations snapshots now := by
      rw [hsplit]
      exact List.mem_append_right _ List.mem_cons_self
    exact hat ▸ (mem_loaded.mp hloaded).2
  · obtain ⟨event, -, -, hle, hat⟩ := mem_loadEventDailyActivity hevent
    exact hat ▸ (isPeriods_midnight.start_le _).trans hle

theorem exists_item_now_iff (hmidnight : midnightUtc now = now) :
    (∃ item ∈ timedActivity window now snapshots events, item.observedAt = now) ↔
      ¬ QuietAt now snapshots events := by
  have hload : activityLoadStart window now snapshots events ≤ now :=
    (min_le_left _ _).trans (windowStart_spec.2.trans hmidnight.le)
  constructor
  · rintro ⟨item, hitem, hat⟩ hquiet
    rcases mem_timedActivity.mp hitem with hsource | hevent
    · obtain ⟨observed, hobserved, hobservedAt, hrecorded⟩ := mem_sourceTimedActivity hsource
      have honly := sourceOnly_of_mem hobserved
      obtain ⟨metric, hgained⟩ := honly.recorded_ne_zero.mp hrecorded
      obtain ⟨first, later, hsplit, hcounts⟩ := mem_observedCounts.mp hobserved
      rw [List.nil_append] at hcounts
      rw [hcounts, gained_observeMetrics] at hgained
      exact hgained (gainOfRow_eq_zero.mpr
        (hquiet.sources first observed.1 later hsplit (hobservedAt.symm.trans hat) metric))
    · obtain ⟨event, hmem, htype, hle, heventAt⟩ := mem_loadEventDailyActivity hevent
      have hstart := isPeriods_midnight.start_le event.occurredAt
      exact hquiet.events_ne event hmem htype (by omega)
  · intro hbusy
    by_contra hnone
    refine hbusy ⟨fun event hevent htype hat => hnone ?_, ?_⟩
    · obtain ⟨item, hitem, hitemAt⟩ := exists_item_of_event hevent htype
        (hload.trans hat.ge) hat.le
      exact ⟨item, mem_timedActivity.mpr (.inr hitem), hitemAt.trans (hat ▸ hmidnight)⟩
    intro before row after hsplit hat metric
    refine gainOfRow_eq_zero.mp ?_
    by_contra hgained
    have hobserved : (row, (observeMetrics (marksAfter before) row).2) ∈
        observedCounts (marksAfter []) (loadEngagementObservations snapshots now) :=
      mem_observedCounts.mpr ⟨before, after, hsplit, rfl⟩
    have hrecorded : (observeMetrics (marksAfter before) row).2.recordedActivity ≠ 0 :=
      (sourceOnly_observe _ row).recorded_ne_zero.mpr
        ⟨metric, by rwa [gained_observeMetrics]⟩
    refine hnone ⟨⟨row.capturedAt, (observeMetrics (marksAfter before) row).2⟩,
      mem_timedActivity.mpr (.inl ?_), hat⟩
    exact List.mem_filterMap.mpr ⟨_, hobserved, if_pos ⟨hat ▸ hload, hrecorded⟩⟩

/-- The account holds at every moment but a midnight at which something happened. -/
theorem activity_accounted_iff (window : AnalyticsWindow) (now : Int)
    (snapshots : List EngagementObservation) (events : List MemeEvent) :
    Accounted window now snapshots events ↔
      (midnightUtc now = now → QuietAt now snapshots events) := by
  obtain ⟨htiles, hlocated⟩ := @windowBuckets_spec window now snapshots events
  have hstart := (@windowStart_spec window now snapshots events).2
  constructor
  · intro haccounted hmidnight
    by_contra hbusy
    obtain ⟨item, hitem, hat⟩ := (exists_item_now_iff hmidnight).mpr hbusy
    obtain ⟨bucket, ⟨hbucket, hin⟩, -⟩ :=
      haccounted.falls item hitem (hat ▸ hstart.trans hmidnight.le) hat.le
    exact not_located_now htiles hmidnight hbucket (hat ▸ hin)
  intro hquiet
  have hone : ∀ item ∈ timedActivity window now snapshots events,
      windowStart window now snapshots events ≤ item.observedAt → item.observedAt ≤ now →
        ∃ bucket ∈ windowBuckets window now snapshots events,
          Located window now item.observedAt bucket := by
    intro item hitem hle hend
    refine exists_located htiles hlocated hstart hle hend ?_
    by_cases hmidnight : midnightUtc now = now
    · refine .inl (lt_of_le_of_ne hend fun hat => ?_)
      exact (exists_item_now_iff hmidnight).mp ⟨item, hitem, hat⟩ (hquiet hmidnight)
    · exact .inr (lt_of_le_of_ne (isPeriods_midnight.start_le now) hmidnight)
  exact
    { tiles := htiles
      within := by
        intro bucket hbucket t hlt
        refine ⟨fun hin => ?_, fun h => (hlocated bucket hbucket t h.1 h.2).symm⟩
        have hle : bucket.start ≤ t := hin ▸ start_le_self t now
        obtain ⟨other, hother, hotherStart, hotherEnd⟩ :=
          htiles.exists_mem ((htiles.start_mem hbucket).1.trans hle) hlt
        have hsame := located_unique htiles hbucket hother hin
          (hlocated other hother t hotherStart hotherEnd).symm
        exact ⟨hle, hsame ▸ hotherEnd⟩
      falls := by
        intro item hitem hle hend
        obtain ⟨bucket, hbucket, hin⟩ := hone item hitem hle hend
        exact ⟨bucket, ⟨hbucket, hin⟩, fun other h => located_unique htiles hbucket h.1 hin h.2⟩
      total := sum_points_eq htiles hone fun _ => observedAt_le
      gains_nonneg := fun _ _ _ => gainsSince_nonneg
      gains_sum := sum_gainsSince loaded_sorted _
      daily := fun _ metric => sourceDaily_eq _ metric }

/-- A view at a midnight is in no point of an analysis at that moment. -/
theorem midnight_view_unaccounted : ¬ Accounted .all 0 [] [⟨.memeView, 0⟩] := by
  intro haccounted
  have hitem : (⟨0, { memeexpertViews := 1 }⟩ : TimedActivity) ∈
      timedActivity .all 0 [] [⟨.memeView, 0⟩] := by decide +kernel
  obtain ⟨bucket, ⟨hbucket, -⟩, -⟩ := haccounted.falls _ hitem (by decide +kernel) le_rfl
  have hnone : windowBuckets .all 0 [] [⟨.memeView, 0⟩] = [] := by
    have hstart : windowStart .all 0 [] [⟨.memeView, 0⟩] = 0 := by decide +kernel
    rw [windowBuckets, hstart, analyticsBuckets, dif_neg (lt_irrefl _)]
  rw [hnone] at hbucket
  cases hbucket

end Account

end MemeExpert.MemeInsights
