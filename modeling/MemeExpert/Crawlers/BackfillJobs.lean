import MemeExpert.Lib.Runs
import MemeExpert.Lib.Queries
import MemeExpert.Crawlers.SourcePosts

/-! A crawler worker claims a backfill job, fetches one page of older history under the
claim and writes the outcome into the job. -/

namespace MemeExpert.Crawlers

open Runs

structure BackfillJob where
  id : Uuid
  status : SourceChannelBackfillJobStatus := .queued
  requestedMessageCount : Nat
  scannedMessageCount : Nat := 0
  quarantinedMessageCount : Nat := 0
  cursorPostId : Option PostId := none
  attemptCount : Nat := 0
  lastErrorCode : Option String := none
  lastErrorClass : Option String := none
  lastErrorText : Option String := none
  failedPostId : Option PostId := none
  isRetryable : Bool := false
  nextAttemptAt : Option Time := none
  lastProgressAt : Option Time := none
  lockedAt : Option Time := none
  lockOwner : Option String := none
  leaseGeneration : Nat := 0
  startedAt : Option Time := none
  completedAt : Option Time := none
  deriving DecidableEq

structure BackfillAttempt where
  id : Uuid
  attemptNumber : Nat
  leaseGeneration : Nat
  telegramSessionId : Option Uuid := none
  recoveryItemId : Option Uuid := none
  workerInstanceId : Option String := none
  normalizedReason : Option String := none
  errorClass : Option String := none
  safeErrorText : Option String := none
  failedPostId : Option PostId := none
  isRetryable : Bool := false
  startedAt : Time
  finishedAt : Option Time := none

/-- What a page of older history reports, with the channel as it is read after the page. -/
structure BackfillPage where
  messagesScanned : Nat
  messagesQuarantined : Nat := 0
  retryableFailurePostId : Option PostId := none
  errors : List String := []
  historyCursorPostId : Option PostId := none
  historyExhausted : Bool := false
  catchupMessageLimit : Nat
  deriving DecidableEq

inductive SlicePhase where
  | running
  | fenced (job : BackfillJob) (page : BackfillPage)
  | failed (exc : CrawlerException)
  | cancelled
  | requeueing (job : BackfillJob)
  deriving DecidableEq

/-- One call of `process_backfill_jobs` after its claim, with the row as it was claimed. -/
structure TimeSlice where
  worker : String
  claimed : BackfillJob
  phase : SlicePhase := .running
  deriving DecidableEq

structure BackfillState where
  job : BackfillJob
  attempts : List BackfillAttempt := []
  recoveryItems : List RecoveryJobItem := []
  slices : List TimeSlice := []
  /-- The copies of the row that recovery dispatches have read and not written yet. -/
  dispatches : List BackfillJob := []

section Claim

def backfillLockTimeout : Nat := 300

def backfillPageSize : Nat := 100

def backfillMaxAutomaticAttempts : Nat := 5

def backfillRetryBaseSeconds : Nat := 30

/-- The `WHERE` clause of `_claim_backfill_job`. -/
def claimable (now : Time) (job : BackfillJob) : Bool :=
  match job.status with
  | .queued | .waitingCapacity => true
  | .waitingRetry => job.nextAttemptAt.all fun due => decide (due ≤ now)
  | .running => job.lockedAt.all fun locked => decide (locked < now - backfillLockTimeout)
  | .completed | .completedWithFailures | .failed | .cancelled => false

/-- `dispatched_at DESC, id DESC`, where null comes first. -/
def laterDispatched (a b : RecoveryJobItem) : Bool :=
  match a.dispatchedAt, b.dispatchedAt with
  | none, none => decide (b.id < a.id)
  | none, some _ => true
  | some _, none => false
  | some first, some second => decide (second < first ∨ (first = second ∧ b.id < a.id))

def linkedBackfillItem (items : List RecoveryJobItem) (jobId : Uuid) : Option RecoveryJobItem :=
  Queries.firstBy laterDispatched (items.filter fun item =>
    item.workKind = .backfill ∧ item.workId = .row jobId ∧ item.status = .dispatched)

def backfillRecoveryFailuresConsumed (attempts : List BackfillAttempt) (item : RecoveryJobItem) :
    Nat :=
  item.previousStageState.nonStageBudgetConsumedAtDispatch.getD 0 +
    attempts.countP fun attempt =>
      attempt.recoveryItemId = some item.id ∧ attempt.finishedAt.isSome ∧ attempt.isRetryable

def BackfillAttempt.isOpen (attempt : BackfillAttempt) : Bool := attempt.finishedAt.isNone

def parkedJob (now : Time) (job : BackfillJob) : BackfillJob :=
  { job with
    status := .waitingCapacity
    isRetryable := true
    nextAttemptAt := some (now + 15)
    lockedAt := none
    lockOwner := none }

def exhaustedJob (now : Time) (job : BackfillJob) : BackfillJob :=
  { job with
    status := .failed
    isRetryable := true
    nextAttemptAt := none
    completedAt := some now
    lockedAt := none
    lockOwner := none }

def leasedJob (worker : String) (now : Time) (opensAttempt : Bool) (job : BackfillJob) :
    BackfillJob :=
  { job with
    leaseGeneration := job.leaseGeneration + 1
    attemptCount := if opensAttempt then job.attemptCount + 1 else job.attemptCount
    status := .running
    startedAt := some (job.startedAt.getD now)
    lockedAt := some now
    lockOwner := some worker
    isRetryable := false
    nextAttemptAt := none
    lastErrorCode := none
    lastErrorClass := none
    lastErrorText := none }

structure ClaimContext where
  admissionOpen : Bool := true
  attemptId : Uuid
  telegramSessionId : Option Uuid := none

def openedAttempt (worker : String) (now : Time) (context : ClaimContext)
    (item : Option RecoveryJobItem) (job : BackfillJob) : BackfillAttempt where
  id := context.attemptId
  attemptNumber := job.attemptCount
  leaseGeneration := job.leaseGeneration
  telegramSessionId := context.telegramSessionId
  recoveryItemId := item.map (·.id)
  workerInstanceId := some worker
  startedAt := now

def BackfillState.lease (s : BackfillState) (worker : String) (now : Time)
    (context : ClaimContext) (item : Option RecoveryJobItem) : BackfillState :=
  let opensAttempt := !s.attempts.any (·.isOpen)
  let job := leasedJob worker now opensAttempt s.job
  { s with
    job := job
    attempts :=
      if opensAttempt then s.attempts ++ [openedAttempt worker now context item job]
      else s.attempts
    slices := ⟨worker, job, .running⟩ :: s.slices }

/-- `_claim_backfill_job` on a row its query selects. -/
def BackfillState.claim (s : BackfillState) (worker : String) (now : Time)
    (context : ClaimContext) : BackfillState :=
  if context.admissionOpen then
    let item := linkedBackfillItem s.recoveryItems s.job.id
    if item.any fun item =>
        (item.retryLimit : Nat) ≤ backfillRecoveryFailuresConsumed s.attempts item then
      { s with job := exhaustedJob now s.job }
    else s.lease worker now context item
  else { s with job := parkedJob now s.job }

/-- `_backfill_exception_code`. -/
def backfillExceptionCode : CrawlerException → String
  | .floodWait .. => "telegram_flood_wait"
  | .providerUnavailable _ => "telegram_provider_unavailable"
  | .sessionAuthRequired _ => "telegram_session_auth_required"
  | .sessionBanned _ => "telegram_session_banned"
  | .sessionNotRunnable _ => "telegram_source_or_session_not_runnable"
  | .malformedMessage _ => "PipelineTelegramMalformedMessageError"
  | .payloadTooLarge _ => "PipelinePayloadTooLargeError"
  | .other className _ => cap 128 className

def CrawlerException.manualOnly : CrawlerException → Bool
  | sessionAuthRequired _ | sessionBanned _ | sessionNotRunnable _ => true
  | floodWait .. | providerUnavailable _ | malformedMessage _ | payloadTooLarge _ | other .. => false

structure SliceOutcome where
  job : BackfillJob
  attemptReason : Option String := none
  attemptErrorClass : Option String := none
  attemptErrorText : Option String := none
  attemptFailedPostId : Option PostId := none
  attemptIsRetryable : Bool := false
  closesAttempt : Bool := true

def laterOpened (a b : BackfillAttempt) : Bool := decide (b.attemptNumber < a.attemptNumber)

/-- `finished_at IS NULL ORDER BY attempt_number DESC LIMIT 1`. -/
def newestOpenAttempt (attempts : List BackfillAttempt) : Option BackfillAttempt :=
  Queries.firstBy laterOpened (attempts.filter (·.isOpen))

def finishedAttempt (now : Time) (outcome : SliceOutcome) (attempt : BackfillAttempt) :
    BackfillAttempt :=
  { attempt with
    normalizedReason := outcome.attemptReason
    errorClass := outcome.attemptErrorClass
    safeErrorText := outcome.attemptErrorText
    failedPostId := outcome.attemptFailedPostId
    isRetryable := outcome.attemptIsRetryable
    finishedAt := some now }

/-- `_finish_open_backfill_attempt`. -/
def finishOpenBackfillAttempt (now : Time) (outcome : SliceOutcome)
    (attempts : List BackfillAttempt) : List BackfillAttempt :=
  if outcome.closesAttempt then
    match newestOpenAttempt attempts with
    | none => attempts
    | some newest =>
      attempts.map fun attempt =>
        if attempt.id = newest.id then finishedAttempt now outcome attempt else attempt
  else attempts

/-- The error of a retry, as its caller hands it to `_schedule_backfill_retry`. -/
structure BackfillError where
  code : String
  errorClass : String
  text : String
  failedPostId : Option PostId := none
  manualOnly : Bool := false

def retriesExhausted (attempts : List BackfillAttempt) (items : List RecoveryJobItem)
    (manualOnly : Bool) (job : BackfillJob) : Bool :=
  let item :=
    (newestOpenAttempt attempts).bind fun attempt =>
      attempt.recoveryItemId.bind fun itemId => items.find? fun item => item.id = itemId
  match item with
  | none => backfillMaxAutomaticAttempts ≤ job.attemptCount
  | some item =>
    (item.retryLimit : Nat) ≤
      backfillRecoveryFailuresConsumed attempts item + (if manualOnly then 0 else 1)

def retryDelay (attemptCount : Nat) : Nat :=
  min 300 (backfillRetryBaseSeconds * 2 ^ (attemptCount - 1))

def retriedJob (now : Time) (error : BackfillError) (isLast : Bool) (job : BackfillJob) :
    BackfillJob :=
  { job with
    status := if isLast then .failed else .waitingRetry
    lastErrorCode := some (cap 128 error.code)
    lastErrorClass := some (cap 128 error.errorClass)
    lastErrorText := some (cap 4000 error.text)
    failedPostId := error.failedPostId
    isRetryable := true
    nextAttemptAt := if isLast then none else some (now + retryDelay job.attemptCount)
    completedAt := if isLast then some now else none
    lockedAt := none
    lockOwner := none }

/-- `_schedule_backfill_retry`. -/
def scheduleBackfillRetry (attempts : List BackfillAttempt) (items : List RecoveryJobItem)
    (now : Time) (error : BackfillError) (job : BackfillJob) : SliceOutcome :=
  let isLast := error.manualOnly || retriesExhausted attempts items error.manualOnly job
  { job := retriedJob now error isLast job
    attemptReason := some (cap 128 error.code)
    attemptErrorClass := some (cap 128 error.errorClass)
    attemptErrorText := some (cap 4000 error.text)
    attemptFailedPostId := error.failedPostId
    attemptIsRetryable := !error.manualOnly }

def completedJob (now : Time) (job : BackfillJob) : BackfillJob :=
  { job with
    status := if job.quarantinedMessageCount = 0 then .completed else .completedWithFailures
    completedAt := some now
    lastProgressAt := some now
    lockedAt := none
    lockOwner := none
    lastErrorCode := none
    lastErrorClass := none
    lastErrorText := none
    failedPostId := none
    isRetryable := false
    nextAttemptAt := none }

/-- `_complete_backfill_job`. -/
def completeBackfillJob (now : Time) (job : BackfillJob) : SliceOutcome where
  job := completedJob now job

def yieldedJob (job : BackfillJob) : BackfillJob :=
  { job with
    status := .queued
    lockedAt := none
    lockOwner := none
    nextAttemptAt := none }

def isQuarantinedPostError (error : String) : Bool :=
  ["download_unavailable:", "download_malformed:", "mapper_malformed:"].any fun start =>
    start.toList.isPrefixOf error.toList

/-- `_backfill_error_code`. -/
def backfillErrorCode (error : String) : String :=
  let start := (strip (String.ofList (error.toList.takeWhile (· ≠ ':')))).toList.map fun c =>
    if c = ' ' then '_' else c.toLower
  cap 128 (if start.isEmpty then "telegram_backfill_page_failed" else String.ofList start)

def pageLimit (claimed : BackfillJob) (page : BackfillPage) : Nat :=
  min (claimed.requestedMessageCount - claimed.scannedMessageCount)
    (min page.catchupMessageLimit backfillPageSize)

def durableScanned (page : BackfillPage) : Nat :=
  page.messagesScanned - (if page.retryableFailurePostId.isSome then 1 else 0)

def countedJob (now : Time) (page : BackfillPage) (job : BackfillJob) : BackfillJob :=
  let scanned := min job.requestedMessageCount (job.scannedMessageCount + durableScanned page)
  { job with
    scannedMessageCount := scanned
    quarantinedMessageCount := min scanned (job.quarantinedMessageCount + page.messagesQuarantined)
    cursorPostId := page.historyCursorPostId
    lastProgressAt := if durableScanned page = 0 then job.lastProgressAt else some now }

def joinedErrors (errors : List String) (otherwise : String) : String :=
  let text := "; ".intercalate errors
  if text.isEmpty then otherwise else text

/-- The part of `_process_claimed_backfill_job` after the fence. -/
def pageOutcome (attempts : List BackfillAttempt) (items : List RecoveryJobItem) (now : Time)
    (claimed : BackfillJob) (page : BackfillPage) (read : BackfillJob) : SliceOutcome :=
  let job := countedJob now page read
  match page.retryableFailurePostId with
  | some postId =>
    scheduleBackfillRetry attempts items now
      { code := "source_post_retry_pending"
        errorClass := "PipelineTelegramProviderUnavailableError"
        text := joinedErrors page.errors "Telegram source post needs another attempt."
        failedPostId := some postId } job
  | none =>
    match page.errors.filter fun error => !isQuarantinedPostError error with
    | error :: errors =>
      scheduleBackfillRetry attempts items now
        { code := backfillErrorCode error
          errorClass := "TelegramBackfillPageError"
          text := "; ".intercalate (error :: errors) } job
    | [] =>
      if page.messagesScanned < pageLimit claimed page ∨ page.historyExhausted ∨
          job.requestedMessageCount ≤ job.scannedMessageCount then
        completeBackfillJob now job
      else { job := yieldedJob job, closesAttempt := false }

/-- `_handle_backfill_exception`. -/
def exceptionOutcome (attempts : List BackfillAttempt) (items : List RecoveryJobItem) (now : Time)
    (exc : CrawlerException) (job : BackfillJob) : SliceOutcome :=
  scheduleBackfillRetry attempts items now
    { code := backfillExceptionCode exc
      errorClass := exc.className
      text := if exc.text.isEmpty then exc.className else exc.text
      manualOnly := exc.manualOnly } job

def BackfillJob.writeBack (read updated current : BackfillJob) : BackfillJob :=
  { current with
    status := writeColumn read.status updated.status current.status
    scannedMessageCount :=
      writeColumn read.scannedMessageCount updated.scannedMessageCount
        current.scannedMessageCount
    quarantinedMessageCount :=
      writeColumn read.quarantinedMessageCount updated.quarantinedMessageCount
        current.quarantinedMessageCount
    cursorPostId := writeColumn read.cursorPostId updated.cursorPostId current.cursorPostId
    lastErrorCode := writeColumn read.lastErrorCode updated.lastErrorCode current.lastErrorCode
    lastErrorClass := writeColumn read.lastErrorClass updated.lastErrorClass current.lastErrorClass
    lastErrorText := writeColumn read.lastErrorText updated.lastErrorText current.lastErrorText
    failedPostId := writeColumn read.failedPostId updated.failedPostId current.failedPostId
    isRetryable := writeColumn read.isRetryable updated.isRetryable current.isRetryable
    nextAttemptAt := writeColumn read.nextAttemptAt updated.nextAttemptAt current.nextAttemptAt
    lastProgressAt := writeColumn read.lastProgressAt updated.lastProgressAt current.lastProgressAt
    lockedAt := writeColumn read.lockedAt updated.lockedAt current.lockedAt
    lockOwner := writeColumn read.lockOwner updated.lockOwner current.lockOwner
    completedAt := writeColumn read.completedAt updated.completedAt current.completedAt }

def BackfillJob.WithinChecks (job : BackfillJob) : Prop :=
  job.scannedMessageCount ≤ job.requestedMessageCount ∧
    job.quarantinedMessageCount ≤ job.scannedMessageCount

instance (job : BackfillJob) : Decidable job.WithinChecks := inferInstanceAs (Decidable (_ ∧ _))

/-- `_requeue_backfill_job`. -/
def releasedJob (job : BackfillJob) : BackfillJob :=
  { job with status := .queued, lockedAt := none, lockOwner := none }

/-- The columns `_queue_backfill` sets when a recovery item is dispatched. -/
def redispatchedJob (job : BackfillJob) : BackfillJob :=
  { job with
    status := .queued
    isRetryable := false
    nextAttemptAt := none
    completedAt := none
    lockedAt := none
    lockOwner := none
    lastErrorCode := none
    lastErrorClass := none
    lastErrorText := none }

inductive CommitEnd where
  | returned
  | cancelled
  | raised (exc : CrawlerException)
  deriving DecidableEq

def CommitEnd.phase : CommitEnd → Option SlicePhase
  | returned => none
  | cancelled => some .cancelled
  | raised exc => some (.failed exc)

def BackfillState.enter (s : BackfillState) (slice : TimeSlice) (phase : SlicePhase) :
    BackfillState :=
  { s with slices := { slice with phase := phase } :: s.slices.erase slice }

def BackfillState.leave (s : BackfillState) (slice : TimeSlice) : BackfillState :=
  { s with slices := s.slices.erase slice }

/-- The outcome computed from the copy `read` is committed. -/
def BackfillState.commit (s : BackfillState) (slice : TimeSlice) (read : BackfillJob) (now : Time)
    (outcome : SliceOutcome) (commitEnd : CommitEnd) : Option BackfillState :=
  let job := BackfillJob.writeBack read outcome.job s.job
  if job.WithinChecks then
    let written :=
      { s with job := job, attempts := finishOpenBackfillAttempt now outcome s.attempts }
    some (match commitEnd.phase with
      | none => written.leave slice
      | some phase => written.enter slice phase)
  else none

inductive BackfillLabel where
  | claim (worker : String) (now : Time) (context : ClaimContext)
  | completeEarly (slice : TimeSlice) (now : Time) (commitEnd : CommitEnd)
  | returnPage (slice : TimeSlice) (page : BackfillPage)
  | finish (slice : TimeSlice) (now : Time) (commitEnd : CommitEnd)
  | fail (slice : TimeSlice) (exc : CrawlerException)
  | cancel (slice : TimeSlice)
  | handle (slice : TimeSlice) (now : Time)
  | readRequeue (slice : TimeSlice)
  | requeue (slice : TimeSlice)
  | die (slice : TimeSlice)
  | setRecoveryItems (items : List RecoveryJobItem)
  | readDispatch
  | dispatch (read : BackfillJob)

def leaseChanged (job : BackfillJob) : CrawlerException :=
  .other "RuntimeError" s!"Backfill job {job.id} lease changed while its page was running."

def BackfillState.returnPage (s : BackfillState) (slice : TimeSlice) (page : BackfillPage) :
    BackfillState :=
  if s.job.leaseGeneration ≠ slice.claimed.leaseGeneration ∨
      s.job.lockOwner ≠ some slice.worker then
    s.enter slice (.failed (leaseChanged s.job))
  else s.enter slice (.fenced s.job page)

def SlicePhase.isWorking : SlicePhase → Bool
  | running | fenced .. => true
  | failed _ | cancelled | requeueing _ => false

def backfillStep (s : BackfillState) : BackfillLabel → Option BackfillState
  | .claim worker now context =>
    if claimable now s.job ∧ ∀ slice ∈ s.slices, slice.worker ≠ worker then
      some (s.claim worker now context)
    else none
  | .completeEarly slice now commitEnd =>
    if slice ∈ s.slices ∧ slice.phase = .running ∧
        slice.claimed.requestedMessageCount ≤ slice.claimed.scannedMessageCount then
      s.commit slice slice.claimed now (completeBackfillJob now slice.claimed) commitEnd
    else none
  | .returnPage slice page =>
    if slice ∈ s.slices ∧ slice.phase = .running ∧
        slice.claimed.scannedMessageCount < slice.claimed.requestedMessageCount then
      some (s.returnPage slice page)
    else none
  | .finish slice now commitEnd =>
    if slice ∈ s.slices then
      match slice.phase with
      | .fenced read page =>
        s.commit slice read now
          (pageOutcome s.attempts s.recoveryItems now slice.claimed page read) commitEnd
      | .running | .failed _ | .cancelled | .requeueing _ => none
    else none
  | .fail slice exc =>
    if slice ∈ s.slices ∧ slice.phase.isWorking then some (s.enter slice (.failed exc)) else none
  | .cancel slice =>
    if slice ∈ s.slices ∧ slice.phase.isWorking then some (s.enter slice .cancelled) else none
  | .handle slice now =>
    if slice ∈ s.slices then
      match slice.phase with
      | .failed exc =>
        s.commit slice s.job now (exceptionOutcome s.attempts s.recoveryItems now exc s.job)
          .returned
      | .running | .fenced .. | .cancelled | .requeueing _ => none
    else none
  | .readRequeue slice =>
    if slice ∈ s.slices ∧ slice.phase = .cancelled then
      some (s.enter slice (.requeueing s.job))
    else none
  | .requeue slice =>
    if slice ∈ s.slices then
      match slice.phase with
      | .requeueing read =>
        some ({ s with job := BackfillJob.writeBack read (releasedJob read) s.job }.leave slice)
      | .running | .fenced .. | .failed _ | .cancelled => none
    else none
  | .die slice => if slice ∈ s.slices then some (s.leave slice) else none
  | .setRecoveryItems items => some { s with recoveryItems := items }
  | .readDispatch => some { s with dispatches := s.job :: s.dispatches }
  | .dispatch read =>
    if read ∈ s.dispatches then
      some { s with
        job := BackfillJob.writeBack read (redispatchedJob read) s.job
        dispatches := s.dispatches.erase read }
    else none

end Claim

def requestedJob (id : Uuid) (requestedMessageCount : Nat) (cursorPostId : Option PostId) :
    BackfillJob where
  id := id
  requestedMessageCount := requestedMessageCount
  cursorPostId := cursorPostId

end MemeExpert.Crawlers
