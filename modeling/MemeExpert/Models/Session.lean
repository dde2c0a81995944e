import MemeExpert.Models.Rows

/-! A session flushes the columns whose value differs from the one it loaded and leaves the
others as they are in the table. -/

namespace MemeExpert

theorem brokerRetryMaxAttempts_default : 1 ≤ 5 ∧ 5 ≤ 32 := by decide

/-- The broker settings the modelled code reads, with the range their schema enforces. -/
structure PipelineSettings where
  brokerRetryMaxAttempts : Nat := 5
  brokerRetryMaxAttempts_range : 1 ≤ brokerRetryMaxAttempts ∧ brokerRetryMaxAttempts ≤ 32 := by
    first | exact brokerRetryMaxAttempts_default | decide
  brokerRetryBackoffSeconds : Nat := 5
  stuckReclaimAfterSeconds : Nat := 900

/-- Python's `str.isspace` on one character, the set `str.strip` removes. -/
def isSpace (c : Char) : Bool :=
  let n := c.toNat
  (9 ≤ n && n ≤ 13) || (28 ≤ n && n ≤ 32) || n == 0x85 || n == 0xA0 || n == 0x1680 ||
    (0x2000 ≤ n && n ≤ 0x200A) || n == 0x2028 || n == 0x2029 || n == 0x202F || n == 0x205F ||
    n == 0x3000

/-- `text.strip()`. -/
def strip (text : String) : String :=
  String.ofList ((text.toList.dropWhile isSpace).reverse.dropWhile isSpace).reverse

/-- `text.strip()[:width]`. -/
def stripAndCap (text : String) (width : Nat) : String :=
  let stripped := ((text.toList.dropWhile isSpace).reverse.dropWhile isSpace).reverse
  String.ofList (stripped.take width)

/-- `text[:width]`. -/
def cap (width : Nat) (text : String) : String := String.ofList (text.toList.take width)

section WriteColumn

variable {α : Type} [DecidableEq α]

def writeColumn (loaded updated current : α) : α := if updated = loaded then current else updated

@[simp]
theorem writeColumn_unchanged (loaded current : α) : writeColumn loaded loaded current = current := by
  simp [writeColumn]

@[simp]
theorem writeColumn_current (loaded updated : α) : writeColumn loaded updated loaded = updated := by
  unfold writeColumn
  split
  · next h => exact h.symm
  · rfl

theorem writeColumn_of_ne {loaded updated : α} (current : α) (h : updated ≠ loaded) :
    writeColumn loaded updated current = updated := by
  simp [writeColumn, h]

end WriteColumn

def RabbitMQOutboxMessage.writeBack (loaded updated current : RabbitMQOutboxMessage) :
    RabbitMQOutboxMessage :=
  { current with
    status := writeColumn loaded.status updated.status current.status
    attemptCount := writeColumn loaded.attemptCount updated.attemptCount current.attemptCount
    nextRetryAt := writeColumn loaded.nextRetryAt updated.nextRetryAt current.nextRetryAt
    lockedAt := writeColumn loaded.lockedAt updated.lockedAt current.lockedAt
    lockOwner := writeColumn loaded.lockOwner updated.lockOwner current.lockOwner
    publishedAt := writeColumn loaded.publishedAt updated.publishedAt current.publishedAt
    lastErrorText := writeColumn loaded.lastErrorText updated.lastErrorText current.lastErrorText }

def PipelineStageJournal.writeBack (loaded updated current : PipelineStageJournal) :
    PipelineStageJournal :=
  { current with
    status := writeColumn loaded.status updated.status current.status
    attemptCount := writeColumn loaded.attemptCount updated.attemptCount current.attemptCount
    lastEventId := writeColumn loaded.lastEventId updated.lastEventId current.lastEventId
    normalizedReason :=
      writeColumn loaded.normalizedReason updated.normalizedReason current.normalizedReason
    lastErrorText := writeColumn loaded.lastErrorText updated.lastErrorText current.lastErrorText
    isRetryable := writeColumn loaded.isRetryable updated.isRetryable current.isRetryable
    retryAfter := writeColumn loaded.retryAfter updated.retryAfter current.retryAfter
    startedAt := writeColumn loaded.startedAt updated.startedAt current.startedAt
    finishedAt := writeColumn loaded.finishedAt updated.finishedAt current.finishedAt }

def RecoveryJobItem.writeBack (loaded updated current : RecoveryJobItem) : RecoveryJobItem :=
  { current with
    status := writeColumn loaded.status updated.status current.status
    dispatchEventId :=
      writeColumn loaded.dispatchEventId updated.dispatchEventId current.dispatchEventId
    dispatchedAt := writeColumn loaded.dispatchedAt updated.dispatchedAt current.dispatchedAt
    normalizedReason :=
      writeColumn loaded.normalizedReason updated.normalizedReason current.normalizedReason
    safeErrorText := writeColumn loaded.safeErrorText updated.safeErrorText current.safeErrorText
    reservationActive :=
      writeColumn loaded.reservationActive updated.reservationActive current.reservationActive
    attemptBudgetStart :=
      writeColumn loaded.attemptBudgetStart updated.attemptBudgetStart current.attemptBudgetStart }

end MemeExpert
