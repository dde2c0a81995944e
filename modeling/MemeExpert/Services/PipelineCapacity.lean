import Mathlib.Algebra.Order.Ring.Rat
import MemeExpert.Lib.Latches
import MemeExpert.Models.Enums

/-! Each stage has one row that says whether it admits optional work. -/

namespace MemeExpert.Services.PipelineCapacity

open Latches

inductive PipelineCapacityStatus where
  | opened | closed
  deriving DecidableEq

structure PipelineCapacityPolicy where
  closePendingCount : ℕ
  reopenPendingCount : ℕ
  closeOldestAgeSeconds : ℚ
  reopenOldestAgeSeconds : ℚ
  close_count_pos : 1 ≤ closePendingCount
  reopen_count_lt : reopenPendingCount < closePendingCount
  close_age_pos : 0 < closeOldestAgeSeconds
  reopen_age_nonneg : 0 ≤ reopenOldestAgeSeconds
  reopen_age_lt : reopenOldestAgeSeconds < closeOldestAgeSeconds

/-- Microseconds since the epoch. -/
abbrev Instant := ℤ

def totalSeconds (microseconds : ℤ) : ℚ := microseconds / 1000000

structure BacklogRow where
  stage : ContentPipelineStage
  status : ContentPipelineStageStatus
  updatedAt : Instant

structure AttemptRow where
  stage : ContentPipelineStage
  outcome : PipelineAttemptOutcome
  finishedAt : Option Instant

structure Snapshot where
  now : Instant
  journal : List BacklogRow
  attempts : List AttemptRow

structure PipelineCapacityState where
  status : PipelineCapacityStatus
  pendingCount : ℕ
  oldestPendingAgeSeconds : ℚ
  throughputPerMinute15m : ℚ
  drainEtaSeconds : Option ℚ
  reason : Option String
  observedAt : Instant

/-- The table; a stage has one row at most. -/
abbrev CapacityStates := ContentPipelineStage → Option PipelineCapacityState

structure PipelineCapacityRefreshResult where
  observedStages : ℕ
  closedStages : List ContentPipelineStage

def contentPipelineStages : List ContentPipelineStage :=
  [.ingest, .transcode, .ocr, .embed, .classify, .syncQdrant, .syncMeili]

def throughputWindow : ℤ := 15 * 60 * 1000000

def BacklogRow.isWaiting (row : BacklogRow) (stage : ContentPipelineStage) : Bool :=
  row.stage = stage ∧ (row.status = .pending ∨ row.status = .processing)

structure Observation where
  pendingCount : ℕ
  oldestAgeSeconds : ℚ
  deriving DecidableEq

def Snapshot.observe (snapshot : Snapshot) (stage : ContentPipelineStage) : Observation :=
  let waiting := snapshot.journal.filter (·.isWaiting stage)
  { pendingCount := waiting.length
    oldestAgeSeconds := match (waiting.map (·.updatedAt)).min? with
      | some oldest => max (totalSeconds (snapshot.now - oldest)) 0
      | none => 0 }

def Snapshot.throughputPerMinute (snapshot : Snapshot) (stage : ContentPipelineStage) : ℚ :=
  let finished := snapshot.attempts.filter fun attempt =>
    attempt.stage = stage ∧ attempt.outcome = .succeeded ∧
      attempt.finishedAt.any (snapshot.now - throughputWindow ≤ ·)
  finished.length / 15

variable (policy : PipelineCapacityPolicy)

def shouldClose (seen : Observation) : Bool :=
  policy.closePendingCount ≤ seen.pendingCount ∨
    policy.closeOldestAgeSeconds ≤ seen.oldestAgeSeconds

def mayReopen (seen : Observation) : Bool :=
  seen.pendingCount ≤ policy.reopenPendingCount ∧
    seen.oldestAgeSeconds ≤ policy.reopenOldestAgeSeconds

def nextStatus (previous : PipelineCapacityStatus) (seen : Observation) : PipelineCapacityStatus :=
  if previous = .opened ∧ shouldClose policy seen then .closed
  else if previous = .closed ∧ mayReopen policy seen then .opened
  else previous

def closedReason (seen : Observation) : String :=
  if policy.closePendingCount ≤ seen.pendingCount then "pending_count_high"
  else "oldest_pending_age_high"

def previousStatus : Option PipelineCapacityState → PipelineCapacityStatus
  | some row => row.status
  | none => .opened

def refreshedRow (snapshot : Snapshot) (stage : ContentPipelineStage)
    (row : Option PipelineCapacityState) : PipelineCapacityState :=
  let seen := snapshot.observe stage
  let throughput := snapshot.throughputPerMinute stage
  let status := nextStatus policy (previousStatus row) seen
  { status := status
    pendingCount := seen.pendingCount
    oldestPendingAgeSeconds := seen.oldestAgeSeconds
    throughputPerMinute15m := throughput
    drainEtaSeconds := if seen.pendingCount ≠ 0 ∧ 0 < throughput
      then some (seen.pendingCount / throughput * 60) else none
    reason := if status = .closed then some (closedReason policy seen) else none
    observedAt := snapshot.now }

def refreshPipelineCapacityStates (snapshot : Snapshot) (states : CapacityStates) :
    CapacityStates × PipelineCapacityRefreshResult :=
  let refreshed : CapacityStates := fun stage =>
    some (refreshedRow policy snapshot stage (states stage))
  (refreshed,
    { observedStages := contentPipelineStages.length
      closedStages := contentPipelineStages.filter fun stage =>
        (refreshed stage).any (·.status = .closed) })

def refreshAll (snapshots : List Snapshot) : CapacityStates :=
  snapshots.foldl (fun states snapshot =>
    (refreshPipelineCapacityStates policy snapshot states).1) fun _ => none

def stageClosed (states : CapacityStates) (stage : ContentPipelineStage) : Bool :=
  (states stage).any (·.status = .closed)

theorem not_mayReopen_of_shouldClose {seen : Observation} (h : shouldClose policy seen = true) :
    mayReopen policy seen = false := by
  have hcount := policy.reopen_count_lt
  have hage := policy.reopen_age_lt
  simp only [shouldClose, decide_eq_true_eq] at h
  simp only [mayReopen, decide_eq_false_iff_not, not_and, not_le]
  intro hlow
  obtain h | h := h
  · omega
  · exact hage.trans_le h

def capacityLatch : Latch Observation where
  sets := shouldClose policy
  resets := mayReopen policy
  not_both _ := not_mayReopen_of_shouldClose policy

theorem nextStatus_closed_iff (previous : PipelineCapacityStatus) (seen : Observation) :
    nextStatus policy previous seen = .closed ↔
      (capacityLatch policy).next (previous = .closed) seen = true := by
  cases previous <;>
    cases hclose : shouldClose policy seen <;>
    cases hreopen : mayReopen policy seen <;>
    simp [nextStatus, capacityLatch, Latch.next, hclose, hreopen]

theorem stageClosed_eq (states : CapacityStates) (stage : ContentPipelineStage) :
    stageClosed states stage = decide (previousStatus (states stage) = .closed) := by
  unfold stageClosed
  cases states stage <;> rfl

theorem stageClosed_refresh (snapshot : Snapshot) (states : CapacityStates)
    (stage : ContentPipelineStage) :
    stageClosed (refreshPipelineCapacityStates policy snapshot states).1 stage =
      (capacityLatch policy).next (stageClosed states stage) (snapshot.observe stage) := by
  have hstatus := nextStatus_closed_iff policy (previousStatus (states stage))
    (snapshot.observe stage)
  rw [stageClosed_eq states, Bool.eq_iff_iff, ← hstatus]
  exact decide_eq_true_iff

def observations (snapshots : List Snapshot) (stage : ContentPipelineStage) : List Observation :=
  snapshots.map (·.observe stage)

theorem stageClosed_refreshAll (snapshots : List Snapshot) (stage : ContentPipelineStage) :
    stageClosed (refreshAll policy snapshots) stage =
      (observations snapshots stage).foldl (capacityLatch policy).next false := by
  induction snapshots using List.reverseRecOn with
  | nil => rfl
  | append_singleton snapshots snapshot ih =>
    simp only [refreshAll, observations, List.foldl_append, List.map_append, List.foldl_cons,
      List.foldl_nil, List.map_cons, List.map_nil] at ih ⊢
    rw [stageClosed_refresh, ih]

inductive CapacityDimension where
  | pendingCount | oldestAge

def CapacityDimension.reason : CapacityDimension → String
  | pendingCount => "pending_count_high"
  | oldestAge => "oldest_pending_age_high"

def CapacityDimension.KeepsClosed (seen : Observation) : CapacityDimension → Prop
  | pendingCount => policy.reopenPendingCount < seen.pendingCount
  | oldestAge => policy.reopenOldestAgeSeconds < seen.oldestAgeSeconds

def NamesKeeper (states : CapacityStates) (stage : ContentPipelineStage)
    (seen : Observation) : Prop :=
  ∃ row dimension, states stage = some row ∧
    row.reason = some (CapacityDimension.reason dimension) ∧ dimension.KeepsClosed policy seen

theorem namesKeeper_refresh (snapshot : Snapshot) (states : CapacityStates)
    (stage : ContentPipelineStage)
    (hclosed : stageClosed (refreshPipelineCapacityStates policy snapshot states).1 stage = true) :
    NamesKeeper policy (refreshPipelineCapacityStates policy snapshot states).1 stage
        (snapshot.observe stage) ↔
      (policy.closePendingCount ≤ (snapshot.observe stage).pendingCount ∨
        policy.reopenOldestAgeSeconds < (snapshot.observe stage).oldestAgeSeconds) := by
  have hcount := policy.reopen_count_lt
  have hreason : (refreshedRow policy snapshot stage (states stage)).reason =
      some (closedReason policy (snapshot.observe stage)) := by
    simp only [stageClosed, refreshPipelineCapacityStates, Option.any_some,
      decide_eq_true_eq] at hclosed
    exact if_pos hclosed
  constructor
  · rintro ⟨row, dimension, hrow, hnames, hkeeps⟩
    obtain rfl := Option.some.inj hrow
    rw [hreason, Option.some.injEq, closedReason] at hnames
    split at hnames
    · next hhigh => exact Or.inl hhigh
    cases dimension with
    | pendingCount => exact absurd hnames (by decide)
    | oldestAge => exact Or.inr hkeeps
  intro hkeeps
  refine ⟨_, if policy.closePendingCount ≤ (snapshot.observe stage).pendingCount
    then .pendingCount else .oldestAge, rfl, ?_, ?_⟩
  · rw [hreason, closedReason]
    split <;> rfl
  split
  · next hhigh => exact hcount.trans_le hhigh
  · next hlow => exact hkeeps.resolve_left hlow

def GateRight (snapshots : List Snapshot) (stage : ContentPipelineStage) : Prop :=
  (stageClosed (refreshAll policy snapshots) stage = true ↔
      ∃ before seen after, observations snapshots stage = before ++ seen :: after ∧
        shouldClose policy seen = true ∧ ∀ later ∈ after, mayReopen policy later = false) ∧
    (stageClosed (refreshAll policy snapshots) stage = true →
      ∀ last ∈ (observations snapshots stage).getLast?,
        NamesKeeper policy (refreshAll policy snapshots) stage last)

theorem stageClosed_iff_held (snapshots : List Snapshot) (stage : ContentPipelineStage) :
    stageClosed (refreshAll policy snapshots) stage = true ↔
      (capacityLatch policy).Held (observations snapshots stage) := by
  rw [stageClosed_refreshAll, Latch.foldl_next_iff]

theorem refreshAll_snoc (snapshots : List Snapshot) (snapshot : Snapshot) :
    refreshAll policy (snapshots ++ [snapshot]) =
      (refreshPipelineCapacityStates policy snapshot (refreshAll policy snapshots)).1 := by
  simp [refreshAll]

/-- The gate is right except when it is held closed by its history while the last backlog is
in the band below the close count with an age at or below the reopen age. -/
theorem gateRight_iff (snapshots : List Snapshot) (stage : ContentPipelineStage) :
    GateRight policy snapshots stage ↔
      ∀ last ∈ (observations snapshots stage).getLast?,
        (capacityLatch policy).Held (observations snapshots stage) →
          policy.closePendingCount ≤ last.pendingCount ∨
            policy.reopenOldestAgeSeconds < last.oldestAgeSeconds := by
  have hstatus := stageClosed_iff_held policy snapshots stage
  obtain rfl | ⟨rest, snapshot, rfl⟩ := List.eq_nil_or_concat snapshots
  · exact ⟨fun _ last hlast => by simp [observations] at hlast,
      fun _ => ⟨hstatus, fun _ last hlast => by simp [observations] at hlast⟩⟩
  rw [List.concat_eq_append] at hstatus ⊢
  have hlast : (observations (rest ++ [snapshot]) stage).getLast? =
      some (snapshot.observe stage) := by simp [observations]
  rw [GateRight, hlast]
  simp only [Option.mem_def, Option.some.injEq, forall_eq']
  have hkeeper := namesKeeper_refresh policy snapshot (refreshAll policy rest) stage
  rw [refreshAll_snoc] at hstatus ⊢
  constructor
  · rintro ⟨-, hreason⟩ hheld
    have hclosed := hstatus.mpr hheld
    exact (hkeeper hclosed).mp (hreason hclosed)
  · intro hband
    refine ⟨hstatus, fun hclosed => ?_⟩
    exact (hkeeper hclosed).mpr (hband (hstatus.mp hclosed))

/-- Two fresh rows close the gate; when one of them is left, the age of zero is given as the
reason. -/
theorem gateRight_fails_in_band : ¬∀ policy snapshots stage, GateRight policy snapshots stage := by
  intro h
  let policy : PipelineCapacityPolicy := ⟨2, 0, 60, 10, by decide, by decide, by decide +kernel,
    by decide +kernel, by decide +kernel⟩
  let waiting : BacklogRow := ⟨.ocr, .pending, 0⟩
  let snapshots : List Snapshot := [⟨0, [waiting, waiting], []⟩, ⟨0, [waiting], []⟩]
  have hlast : (observations snapshots .ocr).getLast? = some ⟨1, 0⟩ := by decide +kernel
  have hrow : ((refreshAll policy snapshots .ocr).bind (·.reason)) =
      some "oldest_pending_age_high" := by decide +kernel
  obtain ⟨row, dimension, hstored, hnames, hkeeps⟩ :=
    (h policy snapshots .ocr).2 (by decide +kernel) ⟨1, 0⟩ hlast
  rw [hstored, Option.bind_some, hnames, Option.some.injEq] at hrow
  cases dimension with
  | pendingCount => exact absurd hrow (by decide)
  | oldestAge => exact absurd hkeeps (not_lt.mpr (show (0 : ℚ) ≤ 10 by decide +kernel))

end MemeExpert.Services.PipelineCapacity
