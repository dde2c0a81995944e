import MemeExpert.Messaging.OutboxLeases
import MemeExpert.Pipeline.StageCompletion

/-! Only claims raise the attempt counter of a row, by one each. A row that no recovery item
owns is claimed at most as often as the broker settings allow. -/

namespace MemeExpert.Messaging

open Runs

def OutboxState.attempts (s : OutboxState) (id : Uuid) : Nat :=
  (s.rows id).elim 0 fun row => row.attemptCount

def claimsOf (id : Uuid) (label : OutboxLabel) : Nat := if id ∈ label.claims then 1 else 0

def claimCount (id : Uuid) (xs : List (Transition OutboxState OutboxLabel)) : Nat :=
  (xs.map fun x => claimsOf id x.label).sum

def UnownedAtClaims (id : Uuid) (xs : List (Transition OutboxState OutboxLabel)) : Prop :=
  ∀ x ∈ xs, id ∈ x.label.claims → ∀ row, x.before.rows id = some row →
    recoveryAttemptCeiling x.before.items row = none

section Steps

variable {settings : PipelineSettings}

theorem attemptCount_writeBack {loaded updated current : RabbitMQOutboxMessage}
    (h : updated.attemptCount = loaded.attemptCount) :
    (RabbitMQOutboxMessage.writeBack loaded updated current).attemptCount =
      current.attemptCount := by
  simp [RabbitMQOutboxMessage.writeBack, h]

theorem status_of_writeBack_pending {loaded updated current : RabbitMQOutboxMessage}
    (hupdated : updated.status ≠ .pending)
    (h : (RabbitMQOutboxMessage.writeBack loaded updated current).status = .pending) :
    current.status = .pending := by
  simp only [RabbitMQOutboxMessage.writeBack, writeColumn] at h
  split at h
  · exact h
  · exact absurd h hupdated

variable {x : Transition OutboxState OutboxLabel}

theorem attempts_step (hstep : outboxStep settings x.before x.label = some x.after) (id : Uuid) :
    x.after.attempts id = x.before.attempts id + claimsOf id x.label := by
  obtain ⟨s, label, t⟩ := x
  have heffect : OutboxEffect settings s label t := outboxStep_effect hstep
  cases heffect with
  | enqueue spec hfree =>
    by_cases hid : id = spec.messageId
    · subst hid
      simp only [OutboxState.attempts, rows_insert_self, hfree]
      rfl
    · simp only [OutboxState.attempts, rows_insert_of_ne hid]
      rfl
  | claim label relay now hmarks hnodup hadmits =>
    by_cases hid : id ∈ label.claims
    · obtain ⟨row, hrow, -⟩ := hadmits id hid
      simp only [OutboxState.attempts, rows_claim_of_mem hid, hrow, claimsOf, hid, if_true]
      rfl
    · simp only [OutboxState.attempts, rows_claim_of_not_mem hid, claimsOf, hid, if_false,
        Nat.add_zero]
  | mark label lease updated items hmarks hclaims hlease hstatus hcount =>
    have hnone : claimsOf id label = 0 := by simp [claimsOf, hclaims]
    by_cases hid : id = lease.message.id
    · subst hid
      simp only [OutboxState.attempts, rows_mark_self, hnone, Nat.add_zero]
      cases s.rows lease.message.id with
      | none => rfl
      | some row => exact attemptCount_writeBack hcount
    · simp only [OutboxState.attempts, rows_mark_of_ne hid, hnone, Nat.add_zero]
  | recover staleBefore now ids hstale =>
    by_cases hid : id ∈ ids
    · simp only [OutboxState.attempts, rows_recover_of_mem hid]
      cases s.rows id <;> rfl
    · simp only [OutboxState.attempts, rows_recover_of_not_mem hid]
      rfl
  | crash relay => rfl
  | recovery items => rfl

variable {s : OutboxState}

theorem attempts_final (labels : List OutboxLabel) (id : Uuid) :
    (final (outboxStep settings) s labels).attempts id =
      s.attempts id + claimCount id (transitions (outboxStep settings) s labels) :=
  measure_final (fun t => t.attempts id) (claimsOf id) fun _ hx =>
    attempts_step (step_of_mem_transitions hx) id

variable {row : RabbitMQOutboxMessage}

theorem claimSpecificFilter_of_unowned {items : List RecoveryJobItem}
    (hunowned : recoveryAttemptCeiling items row = none)
    (h : claimSpecificFilter settings items row = true) :
    row.status = .pending ∨
      (row.status = .failed ∧ row.attemptCount < settings.brokerRetryMaxAttempts) := by
  simpa [claimSpecificFilter, hunowned] using h

theorem attemptCount_lt_ceiling {items : List RecoveryJobItem}
    {ceiling : Int} (howned : recoveryAttemptCeiling items row = some ceiling)
    (h : claimSpecificFilter settings items row = true) : (row.attemptCount : Int) < ceiling := by
  simp only [claimSpecificFilter, howned, Option.isNone_some, Option.isSome_some, Option.any_some,
    Bool.false_or, Bool.false_and, Bool.true_and, Bool.or_eq_true, Bool.and_eq_true,
    decide_eq_true_eq] at h
  rcases h with h | h
  · exact h.2
  · exact h.2

/-- The bound that unowned claims keep: a row is claimed out of `PENDING` once and out of
`FAILED` only below the retry limit. -/
structure AttemptsBounded (settings : PipelineSettings) (id : Uuid) (s : OutboxState) : Prop where
  bounded : s.attempts id ≤ max 1 settings.brokerRetryMaxAttempts
  pending_untried : ∀ row, s.rows id = some row → row.status = .pending → row.attemptCount = 0

variable {id : Uuid}

theorem AttemptsBounded.claim {label : OutboxLabel}
    (h : AttemptsBounded settings id s) (relay : String) (now : Time)
    (hadmits : ∀ id ∈ label.claims,
      ∃ row, s.rows id = some row ∧ claimSpecificFilter settings s.items row = true)
    (hunowned : id ∈ label.claims → ∀ row, s.rows id = some row →
      recoveryAttemptCeiling s.items row = none) :
    AttemptsBounded settings id (s.claim relay now label.claims) := by
  by_cases hid : id ∈ label.claims
  · obtain ⟨row, hrow, hfilter⟩ := hadmits id hid
    have hlt : row.attemptCount < max 1 settings.brokerRetryMaxAttempts := by
      rcases claimSpecificFilter_of_unowned (hunowned hid row hrow) hfilter with hp | ⟨-, hlt⟩
      · have hzero := h.pending_untried row hrow hp
        omega
      · omega
    have hclaim : (s.claim relay now label.claims).rows id = some (claimMessage relay now row) := by
      rw [rows_claim_of_mem hid, hrow]
      rfl
    refine ⟨?_, fun claimed hclaimed hstatus => ?_⟩
    · simp only [OutboxState.attempts, hclaim, Option.elim_some, claimMessage]
      omega
    rw [hclaim] at hclaimed
    cases hclaimed
    cases hstatus
  · have hsame : (s.claim relay now label.claims).rows id = s.rows id := rows_claim_of_not_mem hid
    refine ⟨?_, fun row hrow hstatus => ?_⟩
    · simp only [OutboxState.attempts, hsame]
      exact h.bounded
    · exact h.pending_untried row (hsame ▸ hrow) hstatus

theorem AttemptsBounded.step (hstep : outboxStep settings x.before x.label = some x.after)
    (hunowned : id ∈ x.label.claims → ∀ row, x.before.rows id = some row →
      recoveryAttemptCeiling x.before.items row = none)
    (h : AttemptsBounded settings id x.before) : AttemptsBounded settings id x.after := by
  have hcount := attempts_step hstep id
  obtain ⟨s, label, t⟩ := x
  have heffect : OutboxEffect settings s label t := outboxStep_effect hstep
  cases heffect with
  | enqueue spec hfree =>
    refine ⟨hcount ▸ h.bounded, fun row hrow hstatus => ?_⟩
    by_cases hid : id = spec.messageId
    · subst hid
      rw [rows_insert_self] at hrow
      cases hrow
      rfl
    · rw [rows_insert_of_ne hid] at hrow
      exact h.pending_untried row hrow hstatus
  | claim label relay now hmarks hnodup hadmits => exact h.claim relay now hadmits hunowned
  | mark label lease updated items hmarks hclaims hlease hupdated hsame =>
    have hnone : claimsOf id label = 0 := by simp [claimsOf, hclaims]
    refine ⟨by rw [hcount, hnone]; exact h.bounded, fun row hrow hstatus => ?_⟩
    by_cases hid : id = lease.message.id
    · subst hid
      rw [rows_mark_self, Option.map_eq_some_iff] at hrow
      obtain ⟨old, hold, rfl⟩ := hrow
      have hne : updated.status ≠ .pending := by
        rcases hupdated with hs | hs <;> simp [hs]
      rw [attemptCount_writeBack hsame]
      exact h.pending_untried old hold (status_of_writeBack_pending hne hstatus)
    · rw [rows_mark_of_ne hid] at hrow
      exact h.pending_untried row hrow hstatus
  | recover staleBefore now ids hstale =>
    refine ⟨hcount ▸ h.bounded, fun row hrow hstatus => ?_⟩
    by_cases hid : id ∈ ids
    · rw [rows_recover_of_mem hid, Option.map_eq_some_iff] at hrow
      obtain ⟨old, -, rfl⟩ := hrow
      cases hstatus
    · rw [rows_recover_of_not_mem hid] at hrow
      exact h.pending_untried row hrow hstatus
  | crash relay => exact ⟨h.bounded, h.pending_untried⟩
  | recovery items => exact ⟨h.bounded, h.pending_untried⟩

theorem claimCount_le_of_unowned {labels : List OutboxLabel}
    (hfresh : s.rows id = none)
    (hunowned : UnownedAtClaims id (transitions (outboxStep settings) s labels)) :
    claimCount id (transitions (outboxStep settings) s labels) ≤
      max 1 settings.brokerRetryMaxAttempts := by
  have hstart : AttemptsBounded settings id s :=
    ⟨by simp [OutboxState.attempts, hfresh], fun row hrow _ => by simp [hfresh] at hrow⟩
  have hend : AttemptsBounded settings id (final (outboxStep settings) s labels) :=
    invariant_final hstart fun x hx hbefore =>
      hbefore.step (step_of_mem_transitions hx) (hunowned x hx)
  have hcount : (final (outboxStep settings) s labels).attempts id =
      s.attempts id + claimCount id (transitions (outboxStep settings) s labels) :=
    attempts_final labels id
  have hbounded := hend.bounded
  omega

theorem attempts_le_ceiling_of_claim
    (hstep : outboxStep settings x.before x.label = some x.after) (hid : id ∈ x.label.claims)
    (hrow : x.before.rows id = some row) {ceiling : Int}
    (howned : recoveryAttemptCeiling x.before.items row = some ceiling) :
    (x.after.attempts id : Int) ≤ ceiling := by
  have hcount := attempts_step hstep id
  have hbefore : x.before.attempts id = row.attemptCount := by simp [OutboxState.attempts, hrow]
  have hone : claimsOf id x.label = 1 := if_pos hid
  have hadmitted : claimSpecificFilter settings x.before.items row = true := by
    obtain ⟨s, label, t⟩ := x
    have heffect : OutboxEffect settings s label t := outboxStep_effect hstep
    cases heffect with
    | claim label relay now hmarks hnodup hadmits =>
      obtain ⟨other, hother, hfilter⟩ := hadmits id hid
      have hsame : other = row := Option.some.inj (hother.symm.trans hrow)
      exact hsame ▸ hfilter
    | mark label lease updated items hmarks hclaims hlease hupdated hsame =>
      simp [hclaims] at hid
    | enqueue spec hfree => cases hid
    | recover staleBefore now ids hstale => cases hid
    | crash relay => cases hid
    | recovery items => cases hid
  have hlt := attemptCount_lt_ceiling howned hadmitted
  omega

end Steps

/-- The two claim filters differ in the due time only. From the insert of a row on, a row that
no claim finds owned is claimed at most `max 1 retry_max_attempts` times; a claim of an owned
row leaves the counter within the owner's ceiling of that moment, and nothing else moves it. -/
theorem outbox_attempts_bounded (settings : PipelineSettings) {s : OutboxState} {id : Uuid}
    (hfresh : s.rows id = none) (labels : List OutboxLabel) :
    (∀ items now message, claimDueFilter settings items now message = true ↔
      claimSpecificFilter settings items message = true ∧ dueAt now message = true) ∧
    (UnownedAtClaims id (transitions (outboxStep settings) s labels) →
      claimCount id (transitions (outboxStep settings) s labels) ≤
        max 1 settings.brokerRetryMaxAttempts) ∧
    (∀ x ∈ transitions (outboxStep settings) s labels, id ∈ x.label.claims → ∀ row ceiling,
      x.before.rows id = some row → recoveryAttemptCeiling x.before.items row = some ceiling →
        (x.after.attempts id : Int) ≤ ceiling) ∧
    (∀ x ∈ transitions (outboxStep settings) s labels, id ∉ x.label.claims →
      x.after.attempts id = x.before.attempts id) := by
  refine ⟨fun items now message => ?_, claimCount_le_of_unowned hfresh,
    fun x hx hid row ceiling hrow howned => ?_, fun x hx hid => ?_⟩
  · rw [claimDueFilter_eq, Bool.and_eq_true]
  · exact attempts_le_ceiling_of_claim (step_of_mem_transitions hx) hid hrow howned
  · rw [attempts_step (step_of_mem_transitions hx) id, claimsOf, if_neg hid, Nat.add_zero]

def replayOwner : RecoveryJobItem where
  id := 1
  recoveryJobId := 1
  memeFileId := some 1
  stage := some .ocr
  workKind := .pipelineStage
  workId := .row 1
  action := .replayStage
  expectedVersion := .row 0 none
  attemptBudgetStart := some 4
  status := .dispatched
  dispatchEventId := some 7
  dispatchedAt := some 0

def failedPublish (n : Nat) (row : RabbitMQOutboxMessage) : RabbitMQOutboxMessage :=
  markFailed {} (100 * n + 1) "timeout" (claimMessage "a" (100 * n) row)

def spentBudget : List OutboxLabel :=
  let first := outboxMessageFromSpec slowSpec
  let second := failedPublish 1 first
  let third := failedPublish 2 second
  let observed := observeRecoveryStagePublication
    (observeRecoveryStagePublication [replayOwner] second) third
  [.enqueue slowSpec, .recovery [replayOwner],
    .claimDue "a" 1 100 [7], .markFailed (slowLease "a" 100 first) 101 "timeout",
    .claimDue "a" 1 200 [7], .markFailed (slowLease "a" 200 second) 201 "timeout",
    .claimDue "a" 1 300 [7], .markPublished (slowLease "a" 300 third) 301,
    .recovery (observed.map fun item => Pipeline.consumeRetryBudget item 4)]

theorem outbox_attempts_bounded_spentBudget :
    ({} : OutboxState).rows 7 = none ∧
      ∀ x ∈ transitions (outboxStep {}) {} spentBudget, 7 ∈ x.label.claims → ∀ row ceiling,
        x.before.rows 7 = some row → recoveryAttemptCeiling x.before.items row = some ceiling →
          (x.after.attempts 7 : Int) ≤ ceiling :=
  ⟨rfl, (outbox_attempts_bounded {} rfl spentBudget).2.2.1⟩

theorem not_attempts_le_ceiling_spentBudget :
    ¬ ∀ (settings : PipelineSettings) (s : OutboxState) (id : Uuid), s.rows id = none →
      ∀ labels row ceiling, (final (outboxStep settings) s labels).rows id = some row →
        recoveryAttemptCeiling (final (outboxStep settings) s labels).items row = some ceiling →
          (row.attemptCount : Int) ≤ ceiling := by
  intro h
  have hspent : ((final (outboxStep {}) {} spentBudget).rows 7).any (fun row =>
      (row.attemptCount == 3) &&
        (recoveryAttemptCeiling (final (outboxStep {}) {} spentBudget).items row == some 2)) =
      true := by
    decide
  obtain ⟨row, hrow, hceiling⟩ := Option.any_eq_true _ _ |>.mp hspent
  simp only [Bool.and_eq_true, beq_iff_eq] at hceiling
  have hle := h {} {} 7 rfl spentBudget row 2 hrow hceiling.2
  omega

end MemeExpert.Messaging
