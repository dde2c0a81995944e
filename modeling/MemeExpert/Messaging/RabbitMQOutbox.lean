import MemeExpert.Lib.Queries
import MemeExpert.Models.Session

/-! Outbox rows, the two claim queries of a relay, the marks it makes after a publish, and
the retry budget that a recovery item shares with the outbox row of its dispatch. -/

namespace MemeExpert.Messaging

structure RabbitMessageSpec where
  routingKey : RabbitRoutingKey
  payload : RabbitMessagePayload
  messageId : Uuid
  eventType : ContentPipelineEventType
  aggregateType : RabbitAggregateType
  aggregateId : Uuid
  orderingKey : Option Uuid
  createdAt : Time

def outboxMessageFromSpec (spec : RabbitMessageSpec) : RabbitMQOutboxMessage where
  id := spec.messageId
  routingKey := spec.routingKey
  payload := spec.payload
  messageId := spec.messageId
  eventType := spec.eventType
  aggregateType := spec.aggregateType
  aggregateId := spec.aggregateId
  orderingKey := spec.orderingKey
  status := .pending
  attemptCount := 0
  nextRetryAt := some spec.createdAt
  createdAt := spec.createdAt

section RecoveryBudget

def recoveryStagePublicationFailures (item : RecoveryJobItem) : Nat :=
  item.previousStageState.stageDispatchPublicationFailures.getD 0

def recoveryStageWorkerAttemptCeiling (item : RecoveryJobItem) : Option Nat :=
  item.attemptBudgetStart.map fun start =>
    start + max ((item.retryLimit : Nat) - recoveryStagePublicationFailures item) 1 - 1

def mergePublicationFailures (item : RecoveryJobItem) (observedFailures : Nat) : RecoveryJobItem :=
  let publicationFailures := max (recoveryStagePublicationFailures item) observedFailures
  let workerFailures := item.retryableFailuresConsumed - recoveryStagePublicationFailures item
  { item with
    previousStageState :=
      { item.previousStageState with
        stageDispatchPublicationFailures := some publicationFailures }
    retryableFailuresConsumed :=
      max item.retryableFailuresConsumed (publicationFailures + workerFailures) }

def observeRecoveryStagePublicationOutcome (item : RecoveryJobItem)
    (outbox : RabbitMQOutboxMessage) : RecoveryJobItem :=
  if item.stage.isNone then
    item
  else
    match outbox.status with
    | .failed => mergePublicationFailures item outbox.attemptCount
    | .published => mergePublicationFailures item (outbox.attemptCount - 1)
    | .pending | .publishing => item

/-- `dispatched_at DESC NULLS LAST, created_at DESC, id DESC`. -/
def dispatchedBefore (a b : RecoveryJobItem) : Bool :=
  let rank (item : RecoveryJobItem) := item.dispatchedAt.elim 0 (· + 1)
  rank b < rank a ||
    (rank a == rank b && (b.createdAt < a.createdAt ||
      (a.createdAt == b.createdAt && b.id < a.id)))

def newestItem (items : List RecoveryJobItem) : Option RecoveryJobItem :=
  Queries.firstBy dispatchedBefore items

def itemAttemptCeiling (item : RecoveryJobItem) (start : Nat) : Int :=
  match item.previousStageState.nonStageBudgetConsumedAtDispatch with
  | some base => (start : Int) + (item.retryLimit : Nat) - base - 1
  | none =>
    max ((item.retryLimit : Nat) -
      max ((item.retryableFailuresConsumed : Int) -
        (item.previousStageState.stageDispatchPublicationFailures.getD 0 : Nat)) 0) 0

def recoveryAttemptCeiling (items : List RecoveryJobItem) (message : RabbitMQOutboxMessage) :
    Option Int := do
  let owner ← newestItem (items.filter fun item =>
    item.dispatchEventId = some message.messageId ∧ item.attemptBudgetStart.isSome)
  let start ← owner.attemptBudgetStart
  return itemAttemptCeiling owner start

/-- The `WHERE` clause of `claim_due`. -/
def claimDueFilter (settings : PipelineSettings) (items : List RecoveryJobItem) (now : Time)
    (message : RabbitMQOutboxMessage) : Bool :=
  let ceiling := recoveryAttemptCeiling items message
  ((message.status == .pending &&
      (ceiling.isNone || ceiling.any fun c => (message.attemptCount : Int) < c)) ||
    (message.status == .failed &&
      ((ceiling.isNone && message.attemptCount < settings.brokerRetryMaxAttempts) ||
        (ceiling.isSome && ceiling.any fun c => (message.attemptCount : Int) < c)))) &&
  (message.nextRetryAt.isNone || message.nextRetryAt.any fun due => due ≤ now)

/-- The `WHERE` clause of `_claim_specific` after its test on the id. -/
def claimSpecificFilter (settings : PipelineSettings) (items : List RecoveryJobItem)
    (message : RabbitMQOutboxMessage) : Bool :=
  let ceiling := recoveryAttemptCeiling items message
  (message.status == .pending &&
      (ceiling.isNone || ceiling.any fun c => (message.attemptCount : Int) < c)) ||
    (message.status == .failed &&
      ((ceiling.isNone && message.attemptCount < settings.brokerRetryMaxAttempts) ||
        (ceiling.isSome && ceiling.any fun c => (message.attemptCount : Int) < c)))

/-- What `_claim_query` writes into each row it selected. -/
def claimMessage (lockOwner : String) (now : Time) (message : RabbitMQOutboxMessage) :
    RabbitMQOutboxMessage :=
  { message with
    status := .publishing
    attemptCount := message.attemptCount + 1
    nextRetryAt := none
    lockedAt := some now
    lockOwner := some lockOwner
    lastErrorText := none }

def markPublished (now : Time) (message : RabbitMQOutboxMessage) : RabbitMQOutboxMessage :=
  { message with
    status := .published
    publishedAt := some now
    nextRetryAt := none
    lockedAt := none
    lockOwner := none
    lastErrorText := none }

def markFailed (settings : PipelineSettings) (now : Time) (error : String)
    (message : RabbitMQOutboxMessage) : RabbitMQOutboxMessage :=
  { message with
    status := .failed
    publishedAt := none
    nextRetryAt := some (now + settings.brokerRetryBackoffSeconds)
    lockedAt := none
    lockOwner := none
    lastErrorText := some (stripAndCap error 2000) }

/-- The rows `recover_stale_publishing` selects. -/
def stalePublishing (staleBefore : Time) (message : RabbitMQOutboxMessage) : Bool :=
  message.status == .publishing &&
    (message.lockedAt.isNone || message.lockedAt.any fun locked => locked < staleBefore)

def recoverStaleMessage (now : Time) (message : RabbitMQOutboxMessage) : RabbitMQOutboxMessage :=
  { message with
    status := .failed
    nextRetryAt := some now
    lockedAt := none
    lockOwner := none
    lastErrorText := some "RabbitMQ outbox message was recovered from a stale publishing lease." }

/-- `_observe_recovery_stage_publication`: the newest item of the message observes it. -/
def observeRecoveryStagePublication (items : List RecoveryJobItem)
    (message : RabbitMQOutboxMessage) : List RecoveryJobItem :=
  match newestItem (items.filter fun item => item.dispatchEventId = some message.messageId) with
  | none => items
  | some owner =>
    items.map fun item =>
      if item.id = owner.id then observeRecoveryStagePublicationOutcome item message else item

end RecoveryBudget

end MemeExpert.Messaging
