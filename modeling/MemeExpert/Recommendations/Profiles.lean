import Mathlib.Algebra.Order.Field.Rat
import Mathlib.Data.List.MinMax
import Mathlib.Data.Prod.Lex
import Mathlib.Data.Rat.Floor
import MemeExpert.Lib.KeyOrder
import MemeExpert.Models.Rows

/-! The signals of a user give one global profile and, above an activation threshold, clusters
of the strong ones, in exact arithmetic. -/

namespace MemeExpert.Recommendations.Profiles

open KeyOrder
open scoped List

local instance intPreorder : Preorder Int := Int.instLinearOrder.toPreorder

/-- What the code takes from `math`, and `round`. -/
structure Arithmetic (K : Type) [Field K] [LinearOrder K] where
  sqrt : K → K
  isfinite : K → Bool
  round : K → Int
  sqrt_pos : ∀ x, 0 < sqrt x ↔ 0 < x

structure ProfileSignalVector (K : Type) where
  memeId : Uuid
  vector : List K
  weight : K
  lastSignalAt : Time
  isStrongPositive : Bool
  deriving DecidableEq

abbrev Signals (K : Type) := List (ProfileSignalVector K)

structure BuiltProfileVector (K : Type) where
  slot : Nat
  vector : List K
  signalCount : Nat
  totalWeight : K
  memeIds : List Uuid
  deriving DecidableEq

structure ClusterParameters where
  activationThreshold : Int := 20
  minClusterItems : Int := 3
  maxIterations : Int := 5

/-- `max()` or `min()` of an empty sequence. -/
inductive ValueError where
  | emptySequence
  deriving DecidableEq

variable {K : Type} [Field K] [LinearOrder K] (m : Arithmetic K)

def norm (vector : List K) : K := m.sqrt (vector.map fun value => value * value).sum

def normalizeVector (vector : List K) : Option (List K) :=
  if vector = [] ∨ ∃ value ∈ vector, m.isfinite value = false then none
  else if norm m vector ≤ 0 then none
  else some (vector.map (· / norm m vector))

def cosineSimilarity (left right : List K) : K :=
  if left = [] ∨ left.length ≠ right.length then 0
  else if norm m left ≤ 0 ∨ norm m right ≤ 0 then 0
  else max (-1) (min 1 ((List.zipWith (· * ·) left right).sum / (norm m left * norm m right)))

/-- One round of the loop of `weighted_centroid` over its total weight and its accumulator. -/
def accumulate (sums : K × Option (List K)) (entry : List K × K) : K × Option (List K) :=
  if entry.2 ≤ 0 ∨ m.isfinite entry.2 = false then sums
  else
    match normalizeVector m entry.1 with
    | none => sums
    | some normalized =>
      let accumulator := sums.2.getD (List.replicate normalized.length 0)
      if normalized.length ≠ accumulator.length then (sums.1, some accumulator)
      else (sums.1 + entry.2,
        some (List.zipWith (fun sum value => sum + value * entry.2) accumulator normalized))

def weightedCentroid (vectors : List (List K × K)) : Option (List K) :=
  match vectors.foldl (accumulate m) (0, none) with
  | (_, none) => none
  | (totalWeight, some accumulator) =>
    if totalWeight ≤ 0 then none else normalizeVector m (accumulator.map (· / totalWeight))

def centroidOf (members : Signals K) : Option (List K) :=
  weightedCentroid m (members.map fun member => (member.vector, member.weight))

def normalizedSignal (signal : ProfileSignalVector K) : Option (ProfileSignalVector K) :=
  match normalizeVector m signal.vector with
  | none => none
  | some normalized =>
    if signal.weight ≤ 0 ∨ m.isfinite signal.weight = false then none
    else some { signal with vector := normalized }

/-- The assignment to `resolved` in the loop of `_normalized_signals`. -/
def resolve (resolved : Signals K) (candidate : ProfileSignalVector K) : Signals K :=
  match resolved.find? fun current => current.memeId = candidate.memeId with
  | none => resolved ++ [candidate]
  | some current =>
    if toLex (current.weight, current.lastSignalAt) <
        toLex (candidate.weight, candidate.lastSignalAt) then
      resolved.map fun other => if other.memeId = candidate.memeId then candidate else other
    else resolved

def normalizedSignals (signals : Signals K) : Signals K :=
  sortedBy (·.memeId)
    ((signals.filterMap (normalizedSignal m)).foldl resolve [])

def clusterCount (signalCount : Nat) : Nat :=
  (min 4 (max 2 (m.round (m.sqrt (signalCount / 10))))).toNat

def nextSignal (signals selected : Signals K) : Option (ProfileSignalVector K) :=
  (signals.filter fun signal => signal.memeId ∉ selected.map (·.memeId)).argmax
    fun signal =>
      let distances := selected.map fun chosen => 1 - cosineSimilarity m signal.vector chosen.vector
      toLex (distances.min?.getD 0, toLex (signal.weight, -(signal.memeId : Int)))

def selectMore (signals : Signals K) : Nat → Signals K → Signals K
  | 0, selected => selected
  | count + 1, selected =>
    match nextSignal m signals selected with
    | none => selected
    | some signal => selectMore signals count (selected ++ [signal])

/-- Without a signal there is no first one: `max` raises. -/
def farthestFirstCentroids (signals : Signals K) (count : Nat) : Option (List (List K)) :=
  (signals.argmax fun signal => toLex (signal.weight, -(signal.memeId : Int))).map fun first =>
    (selectMore m signals (count - 1) [first]).map ProfileSignalVector.vector

def bestIndex (centroids : List (List K)) (signal : ProfileSignalVector K) : Option Nat :=
  (List.range centroids.length).argmax fun index =>
    toLex (cosineSimilarity m signal.vector (centroids.getD index []), -(index : Int))

def assign (signals : Signals K) (centroids : List (List K)) : List (Signals K) :=
  (List.range centroids.length).map fun index =>
    signals.filter fun signal => bestIndex m centroids signal = some index

def nextCentroids (signals : Signals K) (centroids : List (List K)) : List (List K) :=
  List.zipWith (fun members centroid => (centroidOf m members).getD centroid)
    (assign m signals centroids) centroids

def iterate (signals : Signals K) : Nat → List (List K) → List (List K)
  | 0, centroids => centroids
  | rounds + 1, centroids =>
    let next := nextCentroids m signals centroids
    if ∀ pair ∈ centroids.zip next, 1 - 1 / 10 ^ 9 ≤ cosineSimilarity m pair.1 pair.2 then next
    else iterate signals rounds next

def profileFromMembers (slot : Nat) (members : Signals K) : Option (BuiltProfileVector K) :=
  (centroidOf m members).map fun centroid =>
    { slot := slot
      vector := centroid
      signalCount := members.length
      totalWeight := (members.map ProfileSignalVector.weight).sum
      memeIds := (sortedBy (fun member =>
        toLex (-member.weight, toLex (-(member.lastSignalAt : Int), member.memeId))) members).map
          (·.memeId) }

def strongSignals (signals : Signals K) : Signals K :=
  (normalizedSignals m signals).filter (·.isStrongPositive)

/-- The final assignment of the strong signals. -/
def assignedClusters (signals : Signals K) (maxIterations : Int) : Option (List (Signals K)) :=
  let strong := strongSignals m signals
  (farthestFirstCentroids m strong (clusterCount m strong.length)).map fun centroids =>
    assign m strong (iterate m strong (max 1 maxIterations).toNat centroids)

def smallestId (members : Signals K) : Nat :=
  (members.map (·.memeId)).min?.getD 0

/-- The sort asks each retained cluster for its least id, and an empty one raises. -/
def buildClusters (minClusterItems : Int) (clusters : List (Signals K)) :
    Except ValueError (List (BuiltProfileVector K)) :=
  let retained := clusters.filter fun members => minClusterItems ≤ members.length
  if [] ∈ retained then .error .emptySequence
  else .ok ((((sortedBy smallestId retained).take 4).zipIdx 1).filterMap fun entry =>
    profileFromMembers m entry.2 entry.1)

def distinctStrong (signals : Signals K) : Nat :=
  ((strongSignals m signals).map (·.memeId)).dedup.length

def buildProfileVectors (signals : Signals K) (parameters : ClusterParameters) :
    Except ValueError (List (BuiltProfileVector K)) :=
  match profileFromMembers m 0 (normalizedSignals m signals) with
  | none => .ok []
  | some globalProfile =>
    if distinctStrong m signals < parameters.activationThreshold then .ok [globalProfile]
    else
      match assignedClusters m signals parameters.maxIterations with
      | none => .error .emptySequence
      | some clusters =>
        (buildClusters m parameters.minClusterItems clusters).map (globalProfile :: ·)

variable {m} {signals other members : Signals K} {signal normalized : ProfileSignalVector K}
  {centroids : List (List K)} {clusters : List (Signals K)} {minClusterItems maxIterations : Int}
  {profile : BuiltProfileVector K} {reported : List (BuiltProfileVector K)}

/-- Its vector is not zero and its weight is positive, and both are finite. -/
def Eligible (m : Arithmetic K) (signal : ProfileSignalVector K) : Prop :=
  (∃ value ∈ signal.vector, value ≠ 0) ∧ (∀ value ∈ signal.vector, m.isfinite value = true) ∧
    0 < signal.weight ∧ m.isfinite signal.weight = true

theorem sum_squares [IsStrictOrderedRing K] (vector : List K) :
    0 ≤ (vector.map fun value => value * value).sum ∧
      (0 < (vector.map fun value => value * value).sum ↔ ∃ value ∈ vector, value ≠ 0) := by
  induction vector with
  | nil => simp
  | cons value vector ih =>
    obtain ⟨hnonneg, hpos⟩ := ih
    rw [List.map_cons, List.sum_cons, List.exists_mem_cons_iff, ← hpos]
    refine ⟨add_nonneg (mul_self_nonneg value) hnonneg, ?_⟩
    constructor
    · intro h
      by_contra hneither
      rw [not_or, not_not, not_lt] at hneither
      rw [hneither.1, mul_zero, zero_add] at h
      exact absurd h (not_lt.mpr hneither.2)
    · rintro (hvalue | hrest)
      · exact add_pos_of_pos_of_nonneg (mul_self_pos.mpr hvalue) hnonneg
      · exact add_pos_of_nonneg_of_pos (mul_self_nonneg value) hrest

theorem eligible_iff [IsStrictOrderedRing K] :
    Eligible m signal ↔ ∃ normalized, normalizedSignal m signal = some normalized := by
  have hnorm : 0 < norm m signal.vector ↔ ∃ value ∈ signal.vector, value ≠ 0 :=
    (m.sqrt_pos _).trans (sum_squares _).2
  unfold normalizedSignal normalizeVector Eligible
  constructor
  · rintro ⟨hvalue, hfinite, hweight, hfiniteWeight⟩
    obtain ⟨value, hmem, -⟩ := id hvalue
    rw [if_neg, if_neg (not_le.mpr (hnorm.mpr hvalue))]
    · dsimp only
      rw [if_neg]
      · exact ⟨_, rfl⟩
      · rw [not_or, not_le, hfiniteWeight]
        exact ⟨hweight, Bool.noConfusion⟩
    · rintro (hnil | ⟨infinite, hinfinite, hfalse⟩)
      · rw [hnil] at hmem
        cases hmem
      · rw [hfinite infinite hinfinite] at hfalse
        cases hfalse
  · rintro ⟨normalized, h⟩
    split at h
    · cases h
    next vector hvector =>
    split at hvector
    · cases hvector
    next hfinite =>
    split at hvector
    · cases hvector
    next hpos =>
    split at h
    · cases h
    next hweight =>
    rw [not_or, not_le, Bool.not_eq_false] at hweight
    refine ⟨hnorm.mp (not_le.mp hpos), fun value hmem => ?_, hweight⟩
    exact (Bool.eq_false_or_eq_true _).resolve_right fun hfalse =>
      hfinite (.inr ⟨value, hmem, hfalse⟩)

theorem normalizedSignal_fields (h : normalizedSignal m signal = some normalized) :
    normalized.memeId = signal.memeId ∧
      normalized.isStrongPositive = signal.isStrongPositive := by
  unfold normalizedSignal at h
  split at h
  · cases h
  · split at h
    · cases h
    · cases h
      exact ⟨rfl, rfl⟩

omit [Field K] in
theorem foldl_resolve (hunique : (signals.map (·.memeId)).Nodup) :
    signals.foldl resolve [] = signals := by
  induction signals using List.reverseRecOn with
  | nil => rfl
  | append_singleton signals signal ih =>
    rw [List.map_append, List.nodup_append] at hunique
    obtain ⟨hbefore, -, hapart⟩ := hunique
    have hnew : signals.find? (fun current => current.memeId = signal.memeId) = none := by
      refine List.find?_eq_none.mpr fun current hmem => ?_
      rw [decide_eq_true_eq]
      exact hapart _ (List.mem_map_of_mem hmem) _ (List.mem_singleton.mpr rfl)
    rw [List.foldl_append, ih hbefore, List.foldl_cons, List.foldl_nil, resolve, hnew]

section Distinct

variable (hunique : (signals.map (·.memeId)).Nodup)

include hunique

theorem nodup_candidates : ((signals.filterMap (normalizedSignal m)).map (·.memeId)).Nodup := by
  refine List.pairwise_map.mpr ((List.pairwise_map.mp hunique).filterMap _ ?_)
  intro a b hne normalized hnormalized later hlater
  rw [(normalizedSignal_fields hnormalized).1, (normalizedSignal_fields hlater).1]
  exact hne

theorem normalizedSignals_eq :
    normalizedSignals m signals =
      sortedBy (·.memeId) (signals.filterMap (normalizedSignal m)) := by
  rw [normalizedSignals, foldl_resolve (nodup_candidates hunique)]

theorem nodup_normalizedSignals : ((normalizedSignals m signals).map (·.memeId)).Nodup := by
  rw [normalizedSignals_eq hunique]
  exact ((perm_sortedBy _ _).map _).nodup_iff.mpr (nodup_candidates hunique)

/-- The normalized signals are those of the eligible ones. -/
theorem mem_normalizedSignals [IsStrictOrderedRing K] {memeId : Uuid} (strong : Bool) :
    (∃ normalized ∈ normalizedSignals m signals,
      normalized.memeId = memeId ∧ normalized.isStrongPositive = strong) ↔
      ∃ signal ∈ signals, signal.memeId = memeId ∧ Eligible m signal ∧
        signal.isStrongPositive = strong := by
  simp only [normalizedSignals_eq hunique, (perm_sortedBy _ _).mem_iff, List.mem_filterMap,
    eligible_iff]
  constructor
  · rintro ⟨normalized, ⟨signal, hmem, h⟩, rfl, rfl⟩
    obtain ⟨hid, hstrong⟩ := normalizedSignal_fields h
    exact ⟨signal, hmem, hid.symm, ⟨_, h⟩, hstrong.symm⟩
  · rintro ⟨signal, hmem, rfl, ⟨normalized, h⟩, rfl⟩
    obtain ⟨hid, hstrong⟩ := normalizedSignal_fields h
    exact ⟨normalized, ⟨signal, hmem, h⟩, hid, hstrong⟩

end Distinct

theorem clusterCount_bounds (signalCount : Nat) :
    2 ≤ clusterCount m signalCount ∧ clusterCount m signalCount ≤ 4 := by
  unfold clusterCount
  omega

theorem length_selectMore {selected : Signals K} (count : Nat) :
    selected.length ≤ (selectMore m signals count selected).length ∧
      (selectMore m signals count selected).length ≤ selected.length + count := by
  induction count generalizing selected with
  | zero => exact ⟨le_rfl, le_rfl⟩
  | succ count ih =>
    unfold selectMore
    split
    · omega
    next signal _ =>
    have hmore := @ih (selected ++ [signal])
    rw [List.length_append, List.length_singleton] at hmore
    omega

theorem length_iterate (rounds : Nat) :
    (iterate m signals rounds centroids).length = centroids.length := by
  induction rounds generalizing centroids with
  | zero => rfl
  | succ rounds ih =>
    have hnext : (nextCentroids m signals centroids).length = centroids.length := by
      simp [nextCentroids, assign]
    unfold iterate
    dsimp only
    split
    · exact hnext
    · exact ih.trans hnext

theorem exists_bestIndex (h : centroids ≠ []) (signal : ProfileSignalVector K) :
    ∃ index < centroids.length, bestIndex m centroids signal = some index := by
  cases hbest : bestIndex m centroids signal with
  | none => exact absurd (List.range_eq_nil.mp (List.argmax_eq_none.mp hbest)) (by simpa using h)
  | some index => exact ⟨index, List.mem_range.mp (List.argmax_mem hbest), rfl⟩

/-- At most four clusters with different signals, of which each has one cluster. -/
structure IsAssignment (signals : Signals K) (clusters : List (Signals K)) : Prop where
  length_le : clusters.length ≤ 4
  sublist : ∀ members ∈ clusters, members <+ signals
  covers : ∀ signal ∈ signals, ∃ members ∈ clusters, signal ∈ members
  apart : clusters.Pairwise fun first second =>
    ∀ a ∈ first, ∀ b ∈ second, a.memeId ≠ b.memeId

theorem isAssignment_assign (hunique : (signals.map (·.memeId)).Nodup)
    (hcentroids : centroids ≠ []) (hlength : centroids.length ≤ 4) :
    IsAssignment signals (assign m signals centroids) where
  length_le := by simpa [assign] using hlength
  sublist members hmem := by
    obtain ⟨index, -, rfl⟩ := List.mem_map.mp hmem
    exact List.filter_sublist
  covers signal hmem := by
    obtain ⟨index, hlt, hbest⟩ := exists_bestIndex hcentroids signal
    exact ⟨_, List.mem_map_of_mem (List.mem_range.mpr hlt),
      List.mem_filter.mpr ⟨hmem, decide_eq_true hbest⟩⟩
  apart := by
    refine List.pairwise_map.mpr (List.nodup_range.imp ?_)
    intro first second hne a ha b hb hsame
    obtain ⟨hamem, habest⟩ := List.mem_filter.mp ha
    obtain ⟨hbmem, hbbest⟩ := List.mem_filter.mp hb
    rw [decide_eq_true_iff] at habest hbbest
    rw [List.inj_on_of_nodup_map hunique hamem hbmem hsame, hbbest] at habest
    exact hne (Option.some.inj habest).symm

theorem nodup_strongSignals (hunique : (signals.map (·.memeId)).Nodup) :
    ((strongSignals m signals).map (·.memeId)).Nodup :=
  (nodup_normalizedSignals hunique).sublist (List.filter_sublist.map _)

theorem isAssignment_assignedClusters (hunique : (signals.map (·.memeId)).Nodup)
    (h : assignedClusters m signals maxIterations = some clusters) :
    IsAssignment (strongSignals m signals) clusters := by
  obtain ⟨centroids, hcentroids, rfl⟩ := Option.map_eq_some_iff.mp h
  obtain ⟨first, -, rfl⟩ := Option.map_eq_some_iff.mp hcentroids
  have hcount := clusterCount_bounds (m := m) (strongSignals m signals).length
  have hselected := @length_selectMore _ _ _ m (strongSignals m signals) [first]
    (clusterCount m (strongSignals m signals).length - 1)
  rw [List.length_singleton] at hselected
  apply isAssignment_assign (nodup_strongSignals hunique)
  · rw [← List.length_pos_iff, length_iterate, List.length_map]
    omega
  · rw [length_iterate, List.length_map]
    omega

theorem strongSignals_eq_nil
    (h : assignedClusters m signals maxIterations = none) : strongSignals m signals = [] :=
  List.argmax_eq_none.mp (Option.map_eq_none_iff.mp (Option.map_eq_none_iff.mp h))

theorem profileFromMembers_fields {slot : Nat} (h : profileFromMembers m slot members = some profile) :
    profile.slot = slot ∧ profile.memeIds ~ members.map (·.memeId) := by
  obtain ⟨centroid, -, rfl⟩ := Option.map_eq_some_iff.mp h
  exact ⟨rfl, (perm_sortedBy _ members).map _⟩

/-- The clusters with enough members are reported, each in a slot, unless their vectors cancel. -/
structure Reports (m : Arithmetic K) (minClusterItems : Int)
    (signals : Signals K) (clusters : List (Signals K))
    (reported : List (BuiltProfileVector K)) : Prop where
  length_le : reported.length ≤ 4
  slots : (reported.map BuiltProfileVector.slot).Pairwise (· < ·) ∧
    ∀ profile ∈ reported, 1 ≤ profile.slot ∧ profile.slot ≤ 4
  consecutive : (∀ members ∈ clusters, minClusterItems ≤ members.length →
      centroidOf m members ≠ none) →
    reported.map BuiltProfileVector.slot = List.range' 1 reported.length
  retained : ∀ profile ∈ reported, ∃ members ∈ clusters, minClusterItems ≤ members.length ∧
    profile.memeIds ~ members.map (·.memeId)
  disjoint : reported.Pairwise fun first second => first.memeIds.Disjoint second.memeIds
  others : ∀ signal ∈ signals, (∀ profile ∈ reported, signal.memeId ∉ profile.memeIds) →
    ∃ members ∈ clusters, signal ∈ members ∧
      (members.length < minClusterItems ∨ centroidOf m members = none)

theorem reports_buildClusters (h : IsAssignment signals clusters)
    (hreported : buildClusters m minClusterItems clusters = .ok reported) :
    Reports m minClusterItems signals clusters reported := by
  unfold buildClusters at hreported
  dsimp only at hreported
  split at hreported
  · cases hreported
  cases hreported
  have hretained : clusters.filter (fun members => minClusterItems ≤ members.length) <+ clusters :=
    List.filter_sublist
  have htake := (perm_sortedBy smallestId (clusters.filter fun members =>
    minClusterItems ≤ members.length))
  have hmem : ∀ members, members ∈ sortedBy smallestId (clusters.filter fun members =>
      minClusterItems ≤ members.length) ↔ members ∈ clusters ∧ minClusterItems ≤ members.length := by
    intro members
    rw [htake.mem_iff, List.mem_filter, decide_eq_true_iff]
  have hapart := (htake.pairwise_iff (fun hab a ha b hb => (hab b hb a ha).symm)).mpr
    (h.apart.sublist hretained)
  have hlength := htake.length_eq.trans_le (hretained.length_le.trans h.length_le)
  rw [List.take_of_length_le hlength]
  generalize sortedBy smallestId (clusters.filter fun members =>
    minClusterItems ≤ members.length) = rows at *
  have hslots : (rows.zipIdx 1).map Prod.snd = List.range' 1 rows.length := List.zipIdx_map_snd 1 rows
  have hrows : (rows.zipIdx 1).map Prod.fst = rows := List.zipIdx_map_fst 1 rows
  refine ⟨?_, ⟨?_, ?_⟩, ?_, ?_, ?_, ?_⟩
  · exact (List.length_filterMap_le _ _).trans (by rwa [List.length_zipIdx])
  · refine List.pairwise_map.mpr (List.Pairwise.filterMap _ ?_
      (List.pairwise_map.mp (hslots ▸ List.pairwise_lt_range')))
    intro a b hlt first hfirst second hsecond
    rwa [(profileFromMembers_fields hfirst).1, (profileFromMembers_fields hsecond).1]
  · intro profile hprofile
    obtain ⟨entry, hentry, hbuilt⟩ := List.mem_filterMap.mp hprofile
    have hslot : entry.2 ∈ List.range' 1 rows.length := hslots ▸ List.mem_map_of_mem hentry
    rw [List.mem_range'_1] at hslot
    rw [(profileFromMembers_fields hbuilt).1]
    omega
  · intro hcentroids
    have hall : ((rows.zipIdx 1).filterMap fun entry => profileFromMembers m entry.2 entry.1).map
        BuiltProfileVector.slot = List.range' 1 rows.length := by
      rw [List.map_filterMap, ← hslots, ← List.filterMap_eq_map]
      refine List.filterMap_congr fun entry hentry => ?_
      have hrow := (hmem entry.1).mp (hrows ▸ List.mem_map_of_mem hentry)
      obtain ⟨centroid, hcentroid⟩ :=
        Option.ne_none_iff_exists'.mp (hcentroids entry.1 hrow.1 hrow.2)
      simp [profileFromMembers, hcentroid]
    have hcount := congrArg List.length hall
    rw [List.length_map, List.length_range'] at hcount
    rw [hall, hcount]
  · intro profile hprofile
    obtain ⟨entry, hentry, hbuilt⟩ := List.mem_filterMap.mp hprofile
    have hrow := (hmem entry.1).mp (hrows ▸ List.mem_map_of_mem hentry)
    exact ⟨entry.1, hrow.1, hrow.2, (profileFromMembers_fields hbuilt).2⟩
  · refine List.Pairwise.filterMap _ ?_ (List.pairwise_map.mp (hrows ▸ hapart))
    intro a b hab first hfirst second hsecond memeId hin hother
    obtain ⟨one, hone, hid⟩ :=
      List.mem_map.mp ((profileFromMembers_fields hfirst).2.subset hin)
    obtain ⟨two, htwo, hsame⟩ :=
      List.mem_map.mp ((profileFromMembers_fields hsecond).2.subset hother)
    exact hab one hone two htwo (hid.trans hsame.symm)
  · intro signal hsignal hapart
    obtain ⟨members, hmembers, hin⟩ := h.covers signal hsignal
    refine ⟨members, hmembers, hin, ?_⟩
    by_contra hneither
    rw [not_or, not_lt] at hneither
    obtain ⟨entry, hentry, rfl⟩ :=
      List.mem_map.mp (hrows.symm ▸ (hmem members).mpr ⟨hmembers, hneither.1⟩)
    obtain ⟨centroid, hcentroid⟩ := Option.ne_none_iff_exists'.mp hneither.2
    obtain ⟨profile, hbuilt⟩ : ∃ profile, profileFromMembers m entry.2 entry.1 = some profile := by
      rw [profileFromMembers, hcentroid]
      exact ⟨_, rfl⟩
    exact hapart profile (List.mem_filterMap.mpr ⟨entry, hentry, hbuilt⟩)
      ((profileFromMembers_fields hbuilt).2.symm.subset (List.mem_map_of_mem hin))

/-- What a build says of the signals: nothing where all vectors cancel, else one global profile
and, from the activation threshold on, the reported clusters of an assignment. -/
def Describes (m : Arithmetic K) (signals : Signals K)
    (parameters : ClusterParameters) : Except ValueError (List (BuiltProfileVector K)) → Prop
  | .error _ => parameters.activationThreshold ≤ 0 ∨ parameters.minClusterItems ≤ 0
  | .ok [] => centroidOf m (normalizedSignals m signals) = none
  | .ok (globalProfile :: reported) =>
    globalProfile.slot = 0 ∧ globalProfile.memeIds.Nodup ∧
    (∀ memeId, memeId ∈ globalProfile.memeIds ↔
      ∃ signal ∈ signals, signal.memeId = memeId ∧ Eligible m signal) ∧
    if distinctStrong m signals < parameters.activationThreshold then reported = []
    else ∃ clusters, assignedClusters m signals parameters.maxIterations = some clusters ∧
      IsAssignment (strongSignals m signals) clusters ∧
      Reports m parameters.minClusterItems (strongSignals m signals) clusters reported

theorem describes_build [IsStrictOrderedRing K]
    (hunique : (signals.map (·.memeId)).Nodup) (parameters : ClusterParameters) :
    Describes m signals parameters (buildProfileVectors m signals parameters) := by
  unfold buildProfileVectors
  cases hglobal : profileFromMembers m 0 (normalizedSignals m signals) with
  | none => exact Option.map_eq_none_iff.mp hglobal
  | some globalProfile =>
    obtain ⟨hslot, hids⟩ := profileFromMembers_fields hglobal
    have hcovers : ∀ memeId, memeId ∈ globalProfile.memeIds ↔
        ∃ signal ∈ signals, signal.memeId = memeId ∧ Eligible m signal := by
      intro memeId
      rw [hids.mem_iff, List.mem_map]
      constructor
      · rintro ⟨normalized, hmem, hid⟩
        obtain ⟨signal, hsignal, hsame, heligible, -⟩ :=
          (mem_normalizedSignals hunique _).mp ⟨normalized, hmem, hid, rfl⟩
        exact ⟨signal, hsignal, hsame, heligible⟩
      · rintro ⟨signal, hsignal, hid, heligible⟩
        obtain ⟨normalized, hmem, hsame, -⟩ :=
          (mem_normalizedSignals hunique _).mpr ⟨signal, hsignal, hid, heligible, rfl⟩
        exact ⟨normalized, hmem, hsame⟩
    have hnodup := hids.nodup_iff.mpr (nodup_normalizedSignals hunique)
    dsimp only
    split
    next hfew => exact ⟨hslot, hnodup, hcovers, by rw [if_pos hfew]⟩
    next henough =>
    cases hclusters : assignedClusters m signals parameters.maxIterations with
    | none =>
      rw [distinctStrong, strongSignals_eq_nil hclusters, not_lt] at henough
      exact .inl henough
    | some clusters =>
      have hassignment := isAssignment_assignedClusters hunique hclusters
      dsimp only
      cases hreported : buildClusters m parameters.minClusterItems clusters with
      | ok reported =>
        refine ⟨hslot, hnodup, hcovers, ?_⟩
        rw [if_neg henough]
        exact ⟨clusters, hclusters, hassignment, reports_buildClusters hassignment hreported⟩
      | error error =>
        unfold buildClusters at hreported
        dsimp only at hreported
        split at hreported
        next hempty =>
          have hsmall := of_decide_eq_true (List.mem_filter.mp hempty).2
          exact .inr hsmall
        · cases hreported

/-- The strong signals are the eligible ones that are marked so, and the profiles describe them. -/
theorem profiles_of_signals [IsStrictOrderedRing K]
    (hunique : (signals.map (·.memeId)).Nodup) :
    (∀ memeId, memeId ∈ (strongSignals m signals).map (·.memeId) ↔
      ∃ signal ∈ signals, signal.memeId = memeId ∧ Eligible m signal ∧
        signal.isStrongPositive = true) ∧
    ∀ parameters, Describes m signals parameters (buildProfileVectors m signals parameters) := by
  refine ⟨fun memeId => ?_, describes_build hunique⟩
  rw [← mem_normalizedSignals hunique true]
  simp only [strongSignals, List.mem_map, List.mem_filter]
  constructor
  · rintro ⟨normalized, ⟨hmem, hstrong⟩, hid⟩
    exact ⟨normalized, hmem, hid, hstrong⟩
  · rintro ⟨normalized, hmem, hid, hstrong⟩
    exact ⟨normalized, ⟨hmem, hstrong⟩, hid⟩

/-- A root that is exact on the squares. -/
def sqrtRat (x : ℚ) : ℚ := (Nat.sqrt x.num.toNat : ℚ) / (Nat.sqrt x.den : ℚ)

def rationals : Arithmetic ℚ where
  sqrt := sqrtRat
  isfinite _ := true
  round x := ⌊x + 1 / 2⌋
  sqrt_pos x := by
    have hden : (0 : ℚ) < Nat.sqrt x.den := Nat.cast_pos.mpr (Nat.sqrt_pos.mpr x.den_pos)
    rw [sqrtRat, div_pos_iff_of_pos_right hden, Nat.cast_pos, Nat.sqrt_pos, Int.lt_toNat]
    exact Rat.num_pos

def likedOnce (memeId : Uuid) : ProfileSignalVector ℚ :=
  { memeId := memeId, vector := [1], weight := 1, lastSignalAt := 0, isStrongPositive := true }

theorem profiles_of_signals_likedTwice :
    Describes rationals [likedOnce 1, likedOnce 2] { activationThreshold := 1 }
      (buildProfileVectors rationals [likedOnce 1, likedOnce 2] { activationThreshold := 1 }) :=
  (profiles_of_signals (by decide)).2 _

end MemeExpert.Recommendations.Profiles
