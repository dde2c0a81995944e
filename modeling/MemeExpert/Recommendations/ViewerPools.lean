import Mathlib.Data.List.Sort
import MemeExpert.Lib.Runs
import MemeExpert.Models.Rows

/-! A freeze stores a pool, lists it in the index of its viewer and evicts the oldest pools
above the maximum, all in one script. -/

namespace MemeExpert.Recommendations

open Runs

structure FeedPoolSettings where
  feedPoolTtlSeconds : Nat := 7200
  feedPoolMaxPerViewer : Nat := 4

structure PoolKey where
  poolId : Uuid
  expiresAt : Time
  deriving DecidableEq

structure IndexMember where
  score : Time
  poolId : Uuid

structure ViewerIndex where
  members : List IndexMember
  expiresAt : Time

/-- A call of `invalidate_viewer` that has not deleted yet: what it read from the two indexes. -/
structure Invalidation where
  callId : Nat
  sortedIds : List Uuid
  legacyIds : Option (List Uuid) := none

structure ViewerPools where
  clock : Time
  pools : List PoolKey := []
  index : Option ViewerIndex := none
  legacyIndex : List Uuid := []
  invalidations : List Invalidation := []

inductive PoolLabel where
  | freeze (poolId : Uuid) (score : Time)
  | readIndex (callId : Nat)
  | readLegacy (callId : Nat)
  | delete (callId : Nat)
  | abort (callId : Nat)
  | elapse (seconds : Nat)

def memberLe (a b : IndexMember) : Prop :=
  a.score < b.score ∨ (a.score = b.score ∧ a.poolId ≤ b.poolId)

instance : DecidableRel memberLe := fun a b =>
  inferInstanceAs (Decidable (a.score < b.score ∨ (a.score = b.score ∧ a.poolId ≤ b.poolId)))

def zadd (members : List IndexMember) (member : IndexMember) : List IndexMember :=
  (members.filter fun other => other.poolId ≠ member.poolId).orderedInsert memberLe member

namespace ViewerPools

variable (s : ViewerPools)

def indexMembers : List IndexMember := s.index.elim [] ViewerIndex.members

def call? (callId : Nat) : Option Invalidation :=
  s.invalidations.find? fun call => call.callId = callId

def dropCall (callId : Nat) : List Invalidation :=
  s.invalidations.filter fun call => call.callId ≠ callId

end ViewerPools

/-- `_FREEZE_POOL_SCRIPT`. -/
def freezePoolScript (settings : FeedPoolSettings) (s : ViewerPools) (poolId : Uuid) (score : Time) :
    ViewerPools :=
  let expiresAt := s.clock + settings.feedPoolTtlSeconds
  let stored := s.pools.filter (fun pool => pool.poolId ≠ poolId) ++ [⟨poolId, expiresAt⟩]
  let members := zadd s.indexMembers ⟨score, poolId⟩
  let evicted := (members.take (members.length - settings.feedPoolMaxPerViewer)).map (·.poolId)
  { s with
    pools := stored.filter fun pool => pool.poolId ∉ evicted
    index := some ⟨members.filter fun member => member.poolId ∉ evicted, expiresAt⟩ }

/-- `_pool_keys_from_members`: every member once, in the order it was read. -/
def poolKeysFromMembers (call : Invalidation) : List Uuid :=
  (call.sortedIds ++ call.legacyIds.getD []).eraseDups

/-- One `DEL` of both indexes and of the pools that were read. -/
def deletePools (s : ViewerPools) (call : Invalidation) : ViewerPools :=
  { s with
    pools := s.pools.filter fun pool => pool.poolId ∉ poolKeysFromMembers call
    index := none
    legacyIndex := []
    invalidations := s.dropCall call.callId }

def expire (s : ViewerPools) (seconds : Nat) : ViewerPools :=
  let now := s.clock + seconds
  { s with
    clock := now
    pools := s.pools.filter fun pool => now < pool.expiresAt
    index := s.index.filter fun index => now < index.expiresAt }

/-- The commands of the requests of one viewer. A call may be given up at its time limit between
any two of its commands. -/
def poolStep (settings : FeedPoolSettings) (s : ViewerPools) : PoolLabel → Option ViewerPools
  | .freeze poolId score => some (freezePoolScript settings s poolId score)
  | .readIndex callId =>
    if (s.call? callId).isNone then
      some { s with
        invalidations := ⟨callId, s.indexMembers.map (·.poolId), none⟩ :: s.invalidations }
    else none
  | .readLegacy callId =>
    (s.call? callId).bind fun call =>
      if call.legacyIds.isNone then
        some { s with
          invalidations := { call with legacyIds := some s.legacyIndex } :: s.dropCall callId }
      else none
  | .delete callId =>
    (s.call? callId).bind fun call =>
      if call.legacyIds.isSome then some (deletePools s call) else none
  | .abort callId => some { s with invalidations := s.dropCall callId }
  | .elapse seconds => some (expire s seconds)

def Indexed (s : ViewerPools) : Prop :=
  ∀ pool ∈ s.pools, ∃ member ∈ s.indexMembers, member.poolId = pool.poolId

def Deletable (settings : FeedPoolSettings) (s : ViewerPools) : Prop :=
  ∀ callId, s.call? callId = none →
    (final (poolStep settings) s [.readIndex callId, .readLegacy callId, .delete callId]).pools = []

structure IndexComplete (settings : FeedPoolSettings) (s : ViewerPools) : Prop where
  indexed : Indexed s
  deletable : Deletable settings s
  bounded : s.pools.length ≤ settings.feedPoolMaxPerViewer

def DeletesWhatItRead (s : ViewerPools) : PoolLabel → Prop
  | .delete callId => ∀ call, s.call? callId = some call →
      ∀ pool ∈ s.pools, pool.poolId ∈ poolKeysFromMembers call
  | _ => True

structure ViewerPools.Initial (s : ViewerPools) : Prop where
  pools : s.pools = []
  index : s.index = none
  invalidations : s.invalidations = []

structure IndexInvariant (settings : FeedPoolSettings) (s : ViewerPools) : Prop where
  nodup : (s.pools.map (·.poolId)).Nodup
  indexed : ∀ pool ∈ s.pools, ∃ index, s.index = some index ∧ pool.expiresAt ≤ index.expiresAt ∧
    pool.poolId ∈ index.members.map (·.poolId)
  expiry : ∀ pool ∈ s.pools, pool.expiresAt ≤ s.clock + settings.feedPoolTtlSeconds
  bounded : s.indexMembers.length ≤ settings.feedPoolMaxPerViewer

section Script

variable {settings : FeedPoolSettings} {s t : ViewerPools}

theorem mem_zadd {members : List IndexMember} {member : IndexMember} {poolId : Uuid} :
    poolId ∈ (zadd members member).map (·.poolId) ↔
      poolId = member.poolId ∨ poolId ∈ members.map (·.poolId) := by
  simp only [zadd, List.mem_map, List.mem_orderedInsert, List.mem_filter, decide_eq_true_eq]
  constructor
  · rintro ⟨other, rfl | ⟨hother, -⟩, rfl⟩
    · exact .inl rfl
    · exact .inr ⟨other, hother, rfl⟩
  rintro (rfl | ⟨other, hother, rfl⟩)
  · exact ⟨member, .inl rfl, rfl⟩
  · by_cases hsame : other.poolId = member.poolId
    · exact ⟨member, .inl rfl, hsame.symm⟩
    · exact ⟨other, .inr ⟨hother, hsame⟩, rfl⟩

/-- What is left of a set from which the first `count` members were removed by name. -/
theorem length_evict_le (members : List IndexMember) (count : Nat) :
    (members.filter fun member =>
      member.poolId ∉ (members.take count).map (·.poolId)).length ≤ members.length - count := by
  have hsplit := List.take_append_drop count members
  have htaken : (members.take count).filter (fun member =>
      member.poolId ∉ (members.take count).map (·.poolId)) = [] := by
    rw [List.filter_eq_nil_iff]
    intro member hmember
    have htaken : member.poolId ∈ (members.take count).map (·.poolId) :=
      List.mem_map.mpr ⟨member, hmember, rfl⟩
    simpa only [decide_eq_true_eq, not_not] using htaken
  calc
    _ = ((members.take count ++ members.drop count).filter fun member =>
          member.poolId ∉ (members.take count).map (·.poolId)).length := by rw [hsplit]
    _ = ((members.drop count).filter fun member =>
          member.poolId ∉ (members.take count).map (·.poolId)).length := by
      rw [List.filter_append, htaken, List.nil_append]
    _ ≤ (members.drop count).length := List.length_filter_le ..
    _ = members.length - count := List.length_drop

theorem IndexInvariant.of_initial (h : s.Initial) : IndexInvariant settings s where
  nodup := by simp [h.pools]
  indexed := by simp [h.pools]
  expiry := by simp [h.pools]
  bounded := by simp [ViewerPools.indexMembers, h.index]

theorem IndexInvariant.freeze (h : IndexInvariant settings s) (poolId : Uuid) (score : Time) :
    IndexInvariant settings (freezePoolScript settings s poolId score) where
  nodup := by
    have hstored : ((s.pools.filter (fun pool => pool.poolId ≠ poolId) ++
        [(⟨poolId, s.clock + settings.feedPoolTtlSeconds⟩ : PoolKey)]).map
          PoolKey.poolId).Nodup := by
      rw [List.map_append, List.nodup_append]
      refine ⟨h.nodup.sublist ((List.filter_sublist).map _), by simp, ?_⟩
      intro a ha b hb hab
      simp only [List.map_cons, List.map_nil, List.mem_singleton] at hb
      obtain ⟨pool, hpool, rfl⟩ := List.mem_map.mp ha
      simp [hab, hb] at hpool
    exact hstored.sublist ((List.filter_sublist).map _)
  indexed := by
    intro pool hpool
    simp only [freezePoolScript, List.mem_filter, decide_eq_true_eq] at hpool
    obtain ⟨hstored, hkept⟩ := hpool
    refine ⟨_, rfl, ?_, ?_⟩
    · rcases List.mem_append.mp hstored with hold | hnew
      · exact h.expiry pool (List.mem_filter.mp hold).1
      · rw [List.mem_singleton.mp hnew]
    have hlisted : pool.poolId ∈ (zadd s.indexMembers ⟨score, poolId⟩).map (·.poolId) := by
      rw [mem_zadd]
      rcases List.mem_append.mp hstored with hold | hnew
      · obtain ⟨index, hindex, -, hmember⟩ := h.indexed pool (List.mem_filter.mp hold).1
        refine .inr ?_
        rw [ViewerPools.indexMembers, hindex]
        exact hmember
      · exact .inl (by rw [List.mem_singleton.mp hnew])
    obtain ⟨member, hmember, heq⟩ := List.mem_map.mp hlisted
    refine List.mem_map.mpr ⟨member, List.mem_filter.mpr ⟨hmember, ?_⟩, heq⟩
    rw [heq]
    exact decide_eq_true hkept
  expiry := by
    intro pool hpool
    rcases List.mem_append.mp (List.mem_filter.mp hpool).1 with hold | hnew
    · exact h.expiry pool (List.mem_filter.mp hold).1
    · rw [List.mem_singleton.mp hnew]
      exact le_refl _
  bounded := by
    have hle := length_evict_le (zadd s.indexMembers ⟨score, poolId⟩)
      ((zadd s.indexMembers ⟨score, poolId⟩).length - settings.feedPoolMaxPerViewer)
    refine Nat.le_trans hle ?_
    omega

theorem IndexInvariant.delete {call : Invalidation}
    (hread : ∀ pool ∈ s.pools, pool.poolId ∈ poolKeysFromMembers call) :
    IndexInvariant settings (deletePools s call) := by
  have hempty : (deletePools s call).pools = [] := by
    refine List.filter_eq_nil_iff.mpr ?_
    intro pool hpool
    simpa using hread pool hpool
  constructor
  · simp [hempty]
  · simp [hempty]
  · simp [hempty]
  · exact Nat.zero_le _

theorem IndexInvariant.expire (h : IndexInvariant settings s) (seconds : Nat) :
    IndexInvariant settings (expire s seconds) where
  nodup := h.nodup.sublist ((List.filter_sublist).map _)
  indexed := by
    intro pool hpool
    obtain ⟨hpool, hlive⟩ := List.mem_filter.mp hpool
    obtain ⟨index, hindex, hexpires, hmember⟩ := h.indexed pool hpool
    refine ⟨index, ?_, hexpires, hmember⟩
    have hkept : s.clock + seconds < index.expiresAt :=
      lt_of_lt_of_le (of_decide_eq_true hlive) hexpires
    simp [Recommendations.expire, hindex, hkept]
  expiry := by
    intro pool hpool
    have hbefore := h.expiry pool (List.mem_filter.mp hpool).1
    have hlater : s.clock ≤ s.clock + seconds := Nat.le_add_right ..
    exact Nat.le_trans hbefore (Nat.add_le_add_right hlater _)
  bounded := by
    refine Nat.le_trans ?_ h.bounded
    cases hindex : s.index with
    | none => simp [ViewerPools.indexMembers, Recommendations.expire, hindex]
    | some index =>
      by_cases hlive : s.clock + seconds < index.expiresAt <;>
        simp [ViewerPools.indexMembers, Recommendations.expire, hindex, hlive, Option.filter]

theorem IndexInvariant.calls (h : IndexInvariant settings s) (invalidations : List Invalidation) :
    IndexInvariant settings { s with invalidations := invalidations } :=
  ⟨h.nodup, h.indexed, h.expiry, h.bounded⟩

theorem IndexInvariant.step {label : PoolLabel} (h : IndexInvariant settings s)
    (hstep : poolStep settings s label = some t) (hread : DeletesWhatItRead s label) :
    IndexInvariant settings t := by
  cases label with
  | freeze poolId score =>
    cases hstep
    exact h.freeze poolId score
  | readIndex callId =>
    simp only [poolStep, Option.ite_none_right_eq_some, Option.some.injEq] at hstep
    obtain ⟨-, rfl⟩ := hstep
    exact h.calls _
  | readLegacy callId =>
    simp only [poolStep, Option.bind_eq_some_iff, Option.ite_none_right_eq_some,
      Option.some.injEq] at hstep
    obtain ⟨call, -, -, rfl⟩ := hstep
    exact h.calls _
  | delete callId =>
    simp only [poolStep, Option.bind_eq_some_iff, Option.ite_none_right_eq_some,
      Option.some.injEq] at hstep
    obtain ⟨call, hcall, -, rfl⟩ := hstep
    exact .delete (hread call hcall)
  | abort callId =>
    cases hstep
    exact h.calls _
  | elapse seconds =>
    cases hstep
    exact h.expire seconds

theorem deletable_of_indexed (h : Indexed s) : Deletable settings s := by
  intro callId hfresh
  let loaded : Invalidation := ⟨callId, s.indexMembers.map (·.poolId), none⟩
  let called : ViewerPools := { s with invalidations := loaded :: s.invalidations }
  have hread : poolStep settings s (.readIndex callId) = some called := by
    simp [poolStep, hfresh, called, loaded]
  let complete : Invalidation := { loaded with legacyIds := some s.legacyIndex }
  let ready : ViewerPools := { s with invalidations := complete :: called.dropCall callId }
  have hlegacy : poolStep settings called (.readLegacy callId) = some ready := by
    simp [poolStep, ViewerPools.call?, called, loaded, ready, complete]
  have hdelete : poolStep settings ready (.delete callId) = some (deletePools ready complete) := by
    simp [poolStep, ViewerPools.call?, ready, complete, loaded]
  rw [final_cons_of_some _ hread, final_cons_of_some _ hlegacy, final_cons_of_some _ hdelete]
  refine List.filter_eq_nil_iff.mpr ?_
  intro pool hpool
  obtain ⟨member, hmember, heq⟩ := h pool hpool
  have hlisted : pool.poolId ∈ poolKeysFromMembers complete :=
    List.mem_eraseDups.mpr (List.mem_append_left _ (List.mem_map.mpr ⟨member, hmember, heq⟩))
  simpa only [decide_eq_true_eq, not_not] using hlisted

theorem IndexInvariant.indexed_all (h : IndexInvariant settings s) : Indexed s := by
  intro pool hpool
  obtain ⟨index, hindex, -, hlisted⟩ := h.indexed pool hpool
  obtain ⟨member, hmember, heq⟩ := List.mem_map.mp hlisted
  refine ⟨member, ?_, heq⟩
  rw [ViewerPools.indexMembers, hindex]
  exact hmember

theorem IndexInvariant.complete (h : IndexInvariant settings s) : IndexComplete settings s where
  indexed := h.indexed_all
  deletable := deletable_of_indexed h.indexed_all
  bounded := by
    have hsubset : s.pools.map (·.poolId) ⊆ s.indexMembers.map (·.poolId) := by
      intro poolId hpoolId
      obtain ⟨pool, hpool, rfl⟩ := List.mem_map.mp hpoolId
      obtain ⟨member, hmember, heq⟩ := h.indexed_all pool hpool
      exact List.mem_map.mpr ⟨member, hmember, heq⟩
    have hlength := (List.subperm_of_subset h.nodup hsubset).length_le
    rw [List.length_map, List.length_map] at hlength
    exact Nat.le_trans hlength h.bounded

theorem deletesWhatItRead_of_indexed {label : PoolLabel}
    (hstep : poolStep settings s label = some t) (h : Indexed t) : DeletesWhatItRead s label := by
  cases label with
  | delete callId =>
    intro call hcall pool hpool
    simp only [poolStep, hcall, Option.bind_some, Option.ite_none_right_eq_some,
      Option.some.injEq] at hstep
    obtain ⟨-, rfl⟩ := hstep
    by_contra hunread
    have hleft : pool ∈ (deletePools s call).pools :=
      List.mem_filter.mpr ⟨hpool, decide_eq_true hunread⟩
    obtain ⟨member, hmember, -⟩ := h pool hleft
    cases hmember
  | _ => exact trivial

end Script

/-- Every state of a run has a complete index exactly when each deletion of the run deletes
all the pools that are live. -/
theorem indexComplete_iff_deletesWhatItRead (settings : FeedPoolSettings) {s : ViewerPools}
    (hinit : s.Initial) (labels : List PoolLabel) :
    (IndexComplete settings s ∧
        ∀ x ∈ transitions (poolStep settings) s labels, IndexComplete settings x.after) ↔
      ∀ x ∈ transitions (poolStep settings) s labels, DeletesWhatItRead x.before x.label := by
  constructor
  · rintro ⟨-, hcomplete⟩ x hx
    exact deletesWhatItRead_of_indexed (step_of_mem_transitions hx) (hcomplete x hx).indexed
  intro hread
  have hinv : IndexInvariant settings s := .of_initial hinit
  refine ⟨hinv.complete, ?_⟩
  intro x hx
  have hbefore : IndexInvariant settings x.before :=
    invariant_before hinv (fun y hy hy' => hy'.step (step_of_mem_transitions hy) (hread y hy)) hx
  exact (hbefore.step (step_of_mem_transitions hx) (hread x hx)).complete

def noPools : ViewerPools where
  clock := 100

theorem noPools_initial : noPools.Initial := ⟨rfl, rfl, rfl⟩

def frozenBefore : List PoolLabel :=
  [.freeze 1 100, .freeze 2 101, .readIndex 9, .readLegacy 9, .delete 9]

instance (s : ViewerPools) : (label : PoolLabel) → Decidable (DeletesWhatItRead s label)
  | .delete callId => decidable_of_iff (((s.call? callId).all fun call => s.pools.all fun pool =>
      pool.poolId ∈ poolKeysFromMembers call) = true)
    (by simp [DeletesWhatItRead, Option.all_eq_true, List.all_eq_true])
  | .freeze .. | .readIndex _ | .readLegacy _ | .abort _ | .elapse _ => isTrue trivial

theorem indexComplete_iff_deletesWhatItRead_before :
    IndexComplete {} noPools ∧
      ∀ x ∈ transitions (poolStep {}) noPools frozenBefore, IndexComplete {} x.after :=
  (indexComplete_iff_deletesWhatItRead {} noPools_initial frozenBefore).mpr (by decide)

def frozenInside : List PoolLabel :=
  [.freeze 1 100, .readIndex 9, .readLegacy 9, .freeze 2 101, .delete 9]

theorem not_indexed_frozenInside :
    ¬ ∀ (settings : FeedPoolSettings) (s : ViewerPools), s.Initial → ∀ labels,
        IndexComplete settings (final (poolStep settings) s labels) := by
  intro h
  have hcomplete := h {} noPools noPools_initial frozenInside
  obtain ⟨member, hmember, -⟩ := hcomplete.indexed ⟨2, 7300⟩ (by decide)
  cases hmember

end MemeExpert.Recommendations
