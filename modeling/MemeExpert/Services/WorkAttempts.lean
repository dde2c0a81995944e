import MemeExpert.Services.RecoveryReservations

/-! A dispatched item has work outside the recovery tables: a message in the outbox or at
the broker, a backfill in its queue, an attempt in a worker. -/

namespace MemeExpert.Services

open Runs Pipeline Messaging

/-- What a worker takes up: a broker message, or a time slice of a backfill. -/
inductive Errand where
  | message (eventId : Uuid)
  | backfill (backfillJobId : Uuid)
  deriving DecidableEq

structure Attempt where
  errand : Errand
  number : Nat
  item : Option Uuid := none
  deriving DecidableEq

structure WorkerAttempt extends Attempt where
  running : Bool := false
  deriving DecidableEq

/-- The recovery tables with the outbox, the attempts in the queues and at the workers, and every
attempt that a worker has started. -/
structure WorkState extends RecoveryStore where
  enqueued : List Attempt := []
  attempts : List WorkerAttempt := []
  started : List Attempt := []

inductive WorkLabel where
  | transaction (label : RecoveryLabel)
  | enqueue (eventId : Uuid) (number : Nat)
  | queueBackfill (backfillJobId : Uuid) (number : Nat)
  | publish (attempt : Attempt)
  | start (attempt : Attempt)
  | interrupt (attempt : Attempt)
  | settle (attempt : WorkerAttempt)
  | failStage (eventId : Uuid) (attempt : Attempt) (retryable : Bool) (reason error : String)
      (now : Time)
  | failIngest (eventId : Uuid) (attempt : Attempt) (sourceMissing : Bool)
      (publicationFailures : Nat) (reason error : String) (now : Time)
  | failBackfill (attempt : Attempt) (retryableFailures : Nat) (manualOnly : Bool)

def BackfillFor (backfillJobId : Uuid) (item : RecoveryJobItem) : Prop :=
  item.status = .dispatched ∧
    reservationKey item = some (.work .backfill (.row backfillJobId))

instance (backfillJobId : Uuid) (item : RecoveryJobItem) :
    Decidable (BackfillFor backfillJobId item) :=
  inferInstanceAs (Decidable (_ ∧ _))

def Attempt.IsFor (attempt : Attempt) (item : RecoveryJobItem) : Prop :=
  attempt.item = some item.id ∨
    match attempt.errand with
    | .message _ => False
    | .backfill backfillJobId => BackfillFor backfillJobId item

instance (attempt : Attempt) (item : RecoveryJobItem) : Decidable (attempt.IsFor item) :=
  match attempt with
  | ⟨.message _, _, owner⟩ => inferInstanceAs (Decidable (owner = some item.id ∨ False))
  | ⟨.backfill _, _, owner⟩ => inferInstanceAs (Decidable (owner = some item.id ∨ _))

def Attempt.next : Attempt → Attempt
  | ⟨.message eventId, number, item⟩ => ⟨.message eventId, number + 1, item⟩
  | ⟨.backfill backfillJobId, number, _⟩ => ⟨.backfill backfillJobId, number + 1, none⟩

def Attempt.isBackfill (attempt : Attempt) : Bool :=
  match attempt.errand with
  | .message _ => false
  | .backfill _ => true

/-- The attempt as its worker opens it. A backfill attempt that was opened before keeps the item
recorded with it. -/
def WorkState.opened (s : WorkState) (attempt : Attempt) : Attempt :=
  match attempt.errand with
  | .message _ => attempt
  | .backfill backfillJobId =>
    if attempt ∈ s.started then attempt
    else
      { attempt with
        item := (s.items.find? fun item => BackfillFor backfillJobId item).map (·.id) }

def WorkState.admitted (s : WorkState) : List Attempt := s.enqueued ++ s.attempts.map (·.toAttempt)

/-- The message that a transaction puts into the outbox for an item. A rebuilt message keeps the
number it had. -/
def WorkState.messageOf (s : WorkState) : RecoveryLabel → Option Attempt
  | .claim itemId _ (.replayStage eventId attempt) _ =>
    some ⟨.message eventId, attempt, some itemId⟩
  | .claim itemId _ (.replayAdminStage entry eventId) _ =>
    some ⟨.message eventId, nextAttempt entry, some itemId⟩
  | .claim itemId _ (.reinspectIngest eventId) _ => some ⟨.message eventId, 1, some itemId⟩
  | .claim itemId _ (.rebuildOutbox outbox) _ =>
    (s.enqueued.find? fun attempt => attempt.errand = .message outbox.messageId).map
      fun attempt => ⟨attempt.errand, attempt.number, some itemId⟩
  | .reattach loaded eventId attempt _ => some ⟨.message eventId, attempt, some loaded.id⟩
  | .relink itemId eventId _ => some ⟨.message eventId, 1, some itemId⟩
  | _ => none

def WorkState.backfillOf (s : WorkState) : RecoveryLabel → Option Attempt
  | .claim itemId _ (.dispatchTelegram attemptCount) _ =>
    match (s.find itemId).bind reservationKey with
    | some (.work .backfill (.row backfillJobId)) =>
      some ⟨.backfill backfillJobId, attemptCount + 1, none⟩
    | _ => none
  | _ => none

/-- `_recovery_retry_attempt_ceiling`. -/
def recoveryRetryAttemptCeiling (settings : PipelineSettings) (s : RecoveryStore) (eventId : Uuid)
    (publicationFailures : Nat) : Nat :=
  match s.findEvent eventId with
  | none => settings.brokerRetryMaxAttempts
  | some item =>
    if item.attemptBudgetStart = none then settings.brokerRetryMaxAttempts
    else if item.workKind = .ingestRequest then
      let base := item.previousStageState.nonStageBudgetConsumedAtDispatch.getD 0
      max ((item.retryLimit : Nat) - (base + publicationFailures)) 1
    else (recoveryStageWorkerAttemptCeiling item).getD settings.brokerRetryMaxAttempts

/-- `_finalize_failure_for_cancelling_recovery`, with whether the delivery is acknowledged. -/
def finalizeFailureForCancellingRecovery (s : RecoveryStore) (eventId : Uuid)
    (reason error : String) (now : Time) : RecoveryStore × Bool :=
  match s.owned (s.findEvent eventId) with
  | none => (s, false)
  | some (item, job) =>
    if job.status ≠ .cancelling then (s, false)
    else
      ((lifeStep s (.cancellingFailed eventId reason error now)).getD s,
        item.status ∈ [RecoveryJobItemStatus.dispatched, .failed, .skippedStale,
          .skippedDependency, .cancelled])

/-- `_record_ingest_recovery_failure`. -/
def recordIngestRecoveryFailure (s : RecoveryStore) (eventId : Uuid) (number : Nat)
    (publicationFailures : Nat) (reason error : String) (retryable : Bool) (now : Time) :
    RecoveryStore :=
  let base := (s.findEvent eventId).bind
    (·.previousStageState.nonStageBudgetConsumedAtDispatch)
  (lifeStep s (.ingestFailed eventId (base.getD 0 + publicationFailures + number) reason error
    retryable now)).getD s

def backfillMaxAutomaticAttempts : Nat := 5

/-- `_schedule_backfill_retry` puts the job to wait for a retry. -/
def backfillRetries (s : RecoveryStore) (attempt : Attempt) (retryableFailures : Nat)
    (manualOnly : Bool) : Bool :=
  let exhausted : Bool := match attempt.item.bind s.find with
    | none => backfillMaxAutomaticAttempts ≤ attempt.number
    | some item =>
      let base := item.previousStageState.nonStageBudgetConsumedAtDispatch.getD 0
      (item.retryLimit : Nat) ≤ base + retryableFailures + (if manualOnly then 0 else 1)
  !manualOnly && !exhausted

def WorkState.retire (s : WorkState) (attempt : Attempt) (retries : Bool) : WorkState :=
  let rest := s.attempts.erase ⟨attempt, true⟩
  { s with attempts := if retries then ⟨attempt.next, false⟩ :: rest else rest }

section Machine

variable (settings : PipelineSettings)

def stageRetries (s : RecoveryStore) (eventId : Uuid) (attempt : Attempt) (retryable : Bool) :
    Bool :=
  retryable && decide (attempt.number < recoveryRetryAttemptCeiling settings s eventId 0)

def ingestRetries (s : RecoveryStore) (eventId : Uuid) (attempt : Attempt) (sourceMissing : Bool)
    (publicationFailures : Nat) : Bool :=
  !sourceMissing &&
    decide (attempt.number < recoveryRetryAttemptCeiling settings s eventId publicationFailures)

def workStep (s : WorkState) : WorkLabel → Option WorkState
  | .transaction label =>
    (lifeStep s.toRecoveryStore label).map fun store =>
      { toRecoveryStore := store
        enqueued := (s.messageOf label).toList ++ s.enqueued
        attempts := (s.backfillOf label).toList.map (⟨·, false⟩) ++ s.attempts
        started := s.started }
  | .enqueue eventId number =>
    some { s with enqueued := ⟨.message eventId, number, none⟩ :: s.enqueued }
  | .queueBackfill backfillJobId number =>
    -- a new backfill job, which no item names
    if ∀ item ∈ s.items, reservationKey item ≠ some (.work .backfill (.row backfillJobId)) then
      some { s with attempts := ⟨⟨.backfill backfillJobId, number, none⟩, false⟩ :: s.attempts }
    else none
  | .publish attempt =>
    -- the relay may publish a message more than once
    if attempt ∈ s.enqueued then some { s with attempts := ⟨attempt, false⟩ :: s.attempts }
    else none
  | .start attempt =>
    if ⟨attempt, false⟩ ∈ s.attempts then
      some { s with
        attempts := ⟨s.opened attempt, true⟩ :: s.attempts.erase ⟨attempt, false⟩
        started := s.started.insert (s.opened attempt) }
    else none
  | .interrupt attempt =>
    if ⟨attempt, true⟩ ∈ s.attempts then
      some { s with attempts := ⟨attempt, false⟩ :: s.attempts.erase ⟨attempt, true⟩ }
    else none
  | .settle attempt =>
    if attempt ∈ s.attempts then some { s with attempts := s.attempts.erase attempt } else none
  | .failStage eventId attempt retryable reason error now =>
    if ⟨attempt, true⟩ ∈ s.attempts ∧ attempt.errand = .message eventId then
      let finalized :=
        finalizeFailureForCancellingRecovery s.toRecoveryStore eventId reason error now
      some ({ s with toRecoveryStore := finalized.1 }.retire attempt
        (!finalized.2 && stageRetries settings finalized.1 eventId attempt retryable))
    else none
  | .failIngest eventId attempt sourceMissing publicationFailures reason error now =>
    if ⟨attempt, true⟩ ∈ s.attempts ∧ attempt.errand = .message eventId then
      let store := recordIngestRecoveryFailure s.toRecoveryStore eventId attempt.number
        publicationFailures reason error (!sourceMissing) now
      some ({ s with toRecoveryStore := store }.retire attempt
        (ingestRetries settings s.toRecoveryStore eventId attempt sourceMissing
          publicationFailures))
    else none
  | .failBackfill attempt retryableFailures manualOnly =>
    if ⟨attempt, true⟩ ∈ s.attempts ∧ attempt.isBackfill then
      some (s.retire attempt
        (backfillRetries s.toRecoveryStore attempt retryableFailures manualOnly))
    else none

end Machine

end MemeExpert.Services
