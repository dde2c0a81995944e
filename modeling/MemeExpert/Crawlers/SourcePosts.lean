import Mathlib.Algebra.Order.Ring.Nat
import MemeExpert.Models.Session

/-! What the crawler does with one message: it commits the observation, hands the media to the
ingest service and marks the row by what came back. -/

namespace MemeExpert.Crawlers

/-- Message ids of a Telegram channel, which its posts are named by. -/
abbrev PostId := Nat

structure CrawledPost where
  postId : PostId
  status : SourceChannelPostStatus := .observed
  lastErrorCode : Option String := none
  lastErrorText : Option String := none
  attemptCount : Nat := 1
  isRetryable : Bool := false
  nextAttemptAt : Option Time := none
  lastAttemptAt : Option Time := none
  quarantinedAt : Option Time := none

structure CrawledChannel where
  lastReadPostId : Option PostId := none
  historyCursorPostId : Option PostId := none
  oldestObservedPostId : Option PostId := none
  initialCatchupCompleted : Bool := false
  historyExhausted : Bool := false
  lastFetchedAt : Option Time := none

inductive CrawlerException where
  | floodWait (waitSeconds : Nat) (text : String)
  | providerUnavailable (text : String)
  | malformedMessage (text : String)
  | payloadTooLarge (text : String)
  | sessionAuthRequired (text : String)
  | sessionBanned (text : String)
  | sessionNotRunnable (text : String)
  | other (className text : String)
  deriving DecidableEq

def CrawlerException.className : CrawlerException → String
  | floodWait .. => "PipelineTelegramFloodWaitError"
  | providerUnavailable _ => "PipelineTelegramProviderUnavailableError"
  | malformedMessage _ => "PipelineTelegramMalformedMessageError"
  | payloadTooLarge _ => "PipelinePayloadTooLargeError"
  | sessionAuthRequired _ => "PipelineTelegramSessionAuthRequiredError"
  | sessionBanned _ => "PipelineTelegramSessionBannedError"
  | sessionNotRunnable _ => "CrawlerSessionNotRunnableError"
  | other className _ => className

def CrawlerException.text : CrawlerException → String
  | floodWait _ text | providerUnavailable text | malformedMessage text | payloadTooLarge text
  | sessionAuthRequired text | sessionBanned text | sessionNotRunnable text | other _ text => text

inductive CrawlerIngestOutcome where
  | ingested | phashExactNewFile | blockedPerceptualHash | sha256ExactExistingFile
  | blockedSha256ExistingFile | skippedDuplicatePostId | skippedUnsupportedMedia
  | rejectedMalformed | skippedPausedChannel

/-- What the adapter, the mapper and the ingest service answer while one message is processed:
`withoutMedia` before the download, `download` the error of the download if it has one,
`mapper` the text of a malformed post, `accept` the outcome of `accept_crawler_post`. -/
structure MessageAnswers where
  isUnsupported : Bool := false
  withoutMedia : Except CrawlerException (Option CrawlerIngestOutcome) := .ok none
  download : Option CrawlerException := none
  mapper : Option String := none
  accept : Except CrawlerException CrawlerIngestOutcome := .ok .ingested

section Cursors

/-- `compare_telegram_post_ids(candidate, current)`, which is positive without a current id. -/
def compareTelegramPostIds (candidate : PostId) (current : Option PostId) : Ordering :=
  match current with
  | none => .gt
  | some current => compare candidate current

/-- `_advance_forward_checkpoint`; the ingest service moves the same row by the same rule. -/
def advanceForwardCheckpoint (channel : CrawledChannel) (postId : PostId) : CrawledChannel :=
  if compareTelegramPostIds postId channel.lastReadPostId = .gt then
    { channel with lastReadPostId := some postId }
  else channel

/-- `_advance_history_cursor`. -/
def advanceHistoryCursor (channel : CrawledChannel) (postId : PostId) : CrawledChannel :=
  if channel.historyCursorPostId = none ∨
      compareTelegramPostIds postId channel.historyCursorPostId = .lt then
    { channel with historyCursorPostId := some postId }
  else channel

/-- What `_observe_post` sets on the channel. -/
def observedChannel (now : Time) (postId : PostId) (channel : CrawledChannel) : CrawledChannel :=
  { channel with
    lastFetchedAt := some now
    oldestObservedPostId :=
      if channel.oldestObservedPostId = none ∨
          compareTelegramPostIds postId channel.oldestObservedPostId = .lt then
        some postId
      else channel.oldestObservedPostId }

/-- The upsert of `_observe_post`, on the row that has the post's id. -/
def observePost (now : Time) (postId : PostId) : Option CrawledPost → CrawledPost
  | none => { postId := postId, lastAttemptAt := some now }
  | some row =>
    { row with
      postId := postId
      status := .observed
      lastErrorCode := none
      lastErrorText := none
      attemptCount := row.attemptCount + 1
      isRetryable := false
      nextAttemptAt := none
      lastAttemptAt := some now
      quarantinedAt := none }

def markPostAccepted (post : CrawledPost) : CrawledPost :=
  { post with
    status := .accepted
    lastErrorCode := none
    lastErrorText := none
    isRetryable := false
    nextAttemptAt := none
    quarantinedAt := none }

def markPostUnsupported (errorCode errorText : Option String) (post : CrawledPost) : CrawledPost :=
  { post with
    status := .unsupported
    lastErrorCode := errorCode.map (cap 128)
    lastErrorText := errorText.map (cap 4000)
    isRetryable := false
    nextAttemptAt := none
    quarantinedAt := none }

def markPostFailed (now : Time) (errorCode errorText : String) (retryable : Bool)
    (post : CrawledPost) : CrawledPost :=
  { post with
    status := .failed
    lastErrorCode := some (cap 128 errorCode)
    lastErrorText := some (cap 4000 errorText)
    isRetryable := retryable
    lastAttemptAt := some now
    nextAttemptAt :=
      if retryable then some (now + min 300 (5 * 2 ^ (post.attemptCount - 1))) else none }

def CrawledPost.quarantine (now : Time) (post : CrawledPost) : CrawledPost :=
  { post with quarantinedAt := some now }

/-- `_mark_post_for_ingest_outcome`. -/
def markPostForIngestOutcome (now : Time) (outcome : CrawlerIngestOutcome) (post : CrawledPost) :
    CrawledPost :=
  match outcome with
  | .skippedUnsupportedMedia | .rejectedMalformed => markPostUnsupported none none post
  | .skippedPausedChannel =>
    markPostFailed now "channel_paused"
      "The source channel was paused while this post was being ingested." true post
  | .ingested | .phashExactNewFile | .blockedPerceptualHash | .sha256ExactExistingFile
  | .blockedSha256ExistingFile | .skippedDuplicatePostId => markPostAccepted post

structure MessageRows where
  channel : CrawledChannel
  post : CrawledPost

def MessageRows.advanceForward (advanceCheckpoint : Bool) (rows : MessageRows) : MessageRows :=
  if advanceCheckpoint then
    { rows with channel := advanceForwardCheckpoint rows.channel rows.post.postId }
  else rows

def MessageRows.advanceHistory (advanceCursor : Bool) (rows : MessageRows) : MessageRows :=
  if advanceCursor then
    { rows with channel := advanceHistoryCursor rows.channel rows.post.postId }
  else rows

def MessageRows.mark (rows : MessageRows) (mark : CrawledPost → CrawledPost) : MessageRows :=
  { rows with post := mark rows.post }

/-- `_ingest_single_message`: the rows it leaves, and the error it raises if it does. -/
def ingestSingleMessage (advanceCheckpoint : Bool) (answers : MessageAnswers) (now : Time)
    (rows : MessageRows) : MessageRows × Option CrawlerException :=
  match answers.withoutMedia with
  | .error exc => (rows, some exc)
  | .ok (some outcome) =>
    ((rows.mark (markPostForIngestOutcome now outcome)).advanceForward advanceCheckpoint, none)
  | .ok none =>
    match answers.download with
    | some (.floodWait waitSeconds text) =>
      (rows.mark (markPostFailed now "flood_wait" text true), some (.floodWait waitSeconds text))
    | some (.providerUnavailable text) =>
      (rows.mark (markPostFailed now "download_unavailable" text true), none)
    | some (.malformedMessage text) =>
      ((rows.mark (markPostFailed now "download_malformed" text false)).advanceForward
        advanceCheckpoint, none)
    | some exc => (rows, some exc)
    | none =>
      match answers.mapper with
      | some text =>
        ((rows.mark (markPostFailed now "mapper_malformed" text false)).advanceForward
          advanceCheckpoint, none)
      | none =>
        match answers.accept with
        | .ok outcome =>
          ((rows.mark (markPostForIngestOutcome now outcome)).advanceForward advanceCheckpoint,
            none)
        | .error (.payloadTooLarge text) =>
          ((rows.mark (markPostUnsupported (some "pipeline_payload_too_large")
            (some text))).advanceForward advanceCheckpoint, none)
        | .error exc => (rows.mark (markPostFailed now exc.className exc.text true), some exc)

inductive MessageEnd where
  | next
  | stopped
  | raised (exc : CrawlerException)

/-- The errors after which `catch_up_channel` still commits what the session holds. -/
def CrawlerException.isCommitted : CrawlerException → Bool
  | floodWait .. | providerUnavailable _ | sessionAuthRequired _ | sessionBanned _ => true
  | malformedMessage _ | payloadTooLarge _ | sessionNotRunnable _ | other .. => false

def maxPostAttempts : Nat := 3

/-- The part of `_drive_catchup_loop` after the message was ingested. -/
def settleHistory (advanceCheckpoint : Bool) (now : Time) (rows : MessageRows) :
    MessageRows × MessageEnd :=
  if rows.post.status = .failed then
    if rows.post.isRetryable ∧ rows.post.attemptCount < maxPostAttempts then (rows, .stopped)
    else
      (((rows.mark (CrawledPost.quarantine now)).advanceForward advanceCheckpoint).advanceHistory
        true, .next)
  else (rows.advanceHistory true, .next)

/-- One message of `_drive_catchup_loop`, from the row its observation committed. -/
def driveMessage (advanceCheckpoint advanceHistoryCursor : Bool) (answers : MessageAnswers)
    (now : Time) (rows : MessageRows) : MessageRows × MessageEnd :=
  if answers.isUnsupported then
    (((rows.mark (markPostUnsupported none none)).advanceForward
      advanceCheckpoint).advanceHistory advanceHistoryCursor, .next)
  else
    match ingestSingleMessage advanceCheckpoint answers now rows with
    | (ingested, some exc) => (if exc.isCommitted then ingested else rows, .raised exc)
    | (ingested, none) =>
      if advanceHistoryCursor then settleHistory advanceCheckpoint now ingested
      else (ingested, .next)

def observedRows (now : Time) (postId : PostId) (channel : CrawledChannel)
    (row : Option CrawledPost) : MessageRows where
  channel := observedChannel now postId channel
  post := observePost now postId row

def catchUpMessage (advanceCheckpoint advanceHistoryCursor : Bool) (answers : MessageAnswers)
    (now : Time) (postId : PostId) (channel : CrawledChannel) (row : Option CrawledPost) :
    MessageRows × MessageEnd :=
  driveMessage advanceCheckpoint advanceHistoryCursor answers now
    (observedRows now postId channel row)

def CrawlerException.isCommittedLive : CrawlerException → Bool
  | floodWait .. | sessionAuthRequired _ | sessionBanned _ => true
  | providerUnavailable _ | malformedMessage _ | payloadTooLarge _ | sessionNotRunnable _
  | other .. => false

/-- What `_run_live_listener` commits for a new message. An error ends the listener. -/
def liveMessage (answers : MessageAnswers) (now : Time) (postId : PostId)
    (channel : CrawledChannel) (row : Option CrawledPost) : MessageRows × MessageEnd :=
  let rows := observedRows now postId channel row
  if answers.isUnsupported then
    ((rows.mark (markPostUnsupported none none)).advanceForward true, .next)
  else
    match ingestSingleMessage true answers now rows with
    | (ingested, some exc) => (if exc.isCommittedLive then ingested else rows, .raised exc)
    | (ingested, none) => (ingested, .next)

end Cursors

inductive MessageFate where
  | accepted
  | unsupported
  | malformed
  | unavailable
  | paused
  | raised (exc : CrawlerException)

def CrawlerIngestOutcome.fate : CrawlerIngestOutcome → MessageFate
  | skippedUnsupportedMedia | rejectedMalformed => .unsupported
  | skippedPausedChannel => .paused
  | ingested | phashExactNewFile | blockedPerceptualHash | sha256ExactExistingFile
  | blockedSha256ExistingFile | skippedDuplicatePostId => .accepted

def MessageAnswers.fate (answers : MessageAnswers) : MessageFate :=
  if answers.isUnsupported then .unsupported
  else
    match answers.withoutMedia with
    | .error exc => .raised exc
    | .ok (some outcome) => outcome.fate
    | .ok none =>
      match answers.download with
      | some (.providerUnavailable _) => .unavailable
      | some (.malformedMessage _) => .malformed
      | some exc => .raised exc
      | none =>
        match answers.mapper with
        | some _ => .malformed
        | none =>
          match answers.accept with
          | .ok outcome => outcome.fate
          | .error (.payloadTooLarge _) => .unsupported
          | .error exc => .raised exc

def MessageFate.isFinal : MessageFate → Bool
  | accepted | unsupported | malformed => true
  | unavailable | paused | raised _ => false

def MessageFate.isPostponed : MessageFate → Bool
  | unavailable | paused => true
  | accepted | unsupported | malformed | raised _ => false

/-- Whether `_ingest_single_message` moves the forward checkpoint to the message. -/
def MessageFate.movesCheckpoint : MessageFate → Bool
  | accepted | unsupported | malformed | paused => true
  | unavailable | raised _ => false

def CrawledPost.Settled (post : CrawledPost) : Prop :=
  post.status = .accepted ∨ post.status = .unsupported ∨
    (post.status = .failed ∧ post.isRetryable = false) ∨
    (post.quarantinedAt.isSome ∧ maxPostAttempts ≤ post.attemptCount)

instance (post : CrawledPost) : Decidable post.Settled :=
  inferInstanceAs (Decidable (_ ∨ _ ∨ _ ∨ _))

def CrawledPost.RetryPending (post : CrawledPost) : Prop :=
  post.status = .failed ∧ post.isRetryable = true ∧ post.quarantinedAt = none

instance (post : CrawledPost) : Decidable post.RetryPending :=
  inferInstanceAs (Decidable (_ ∧ _ ∧ _))

def movedChannel (advanceCheckpoint advanceCursor : Bool) (postId : PostId)
    (channel : CrawledChannel) : CrawledChannel :=
  let forward := if advanceCheckpoint then advanceForwardCheckpoint channel postId else channel
  if advanceCursor then advanceHistoryCursor forward postId else forward

inductive MessageEffect (advanceCheckpoint advanceCursor : Bool) (fate : MessageFate)
    (rows : MessageRows) : MessageRows × MessageEnd → Prop where
  | settled {post : CrawledPost} (hfate : fate.isFinal = true)
      (hid : post.postId = rows.post.postId) (hattempts : post.attemptCount = rows.post.attemptCount)
      (haccepted : post.status = .accepted → fate = .accepted) (hsettled : post.Settled) :
      MessageEffect advanceCheckpoint advanceCursor fate rows
        (⟨movedChannel advanceCheckpoint advanceCursor rows.post.postId rows.channel, post⟩, .next)
  | postponed {post : CrawledPost} (hfate : fate.isPostponed = true)
      (hcursor : advanceCursor = false) (hid : post.postId = rows.post.postId)
      (hattempts : post.attemptCount = rows.post.attemptCount) (hpending : post.RetryPending) :
      MessageEffect advanceCheckpoint advanceCursor fate rows
        (⟨movedChannel (fate.movesCheckpoint && advanceCheckpoint) false rows.post.postId rows.channel,
          post⟩, .next)
  | stopped {post : CrawledPost} (hfate : fate.isPostponed = true) (hcursor : advanceCursor = true)
      (hfew : rows.post.attemptCount < maxPostAttempts) (hid : post.postId = rows.post.postId)
      (hattempts : post.attemptCount = rows.post.attemptCount) (hpending : post.RetryPending) :
      MessageEffect advanceCheckpoint advanceCursor fate rows
        (⟨movedChannel (fate.movesCheckpoint && advanceCheckpoint) false rows.post.postId rows.channel,
          post⟩, .stopped)
  | quarantined {post : CrawledPost} (hfate : fate.isPostponed = true)
      (hcursor : advanceCursor = true) (hmany : maxPostAttempts ≤ rows.post.attemptCount)
      (hid : post.postId = rows.post.postId)
      (hattempts : post.attemptCount = rows.post.attemptCount) (hsettled : post.Settled)
      (hquarantined : post.quarantinedAt.isSome = true) :
      MessageEffect advanceCheckpoint advanceCursor fate rows
        (⟨movedChannel advanceCheckpoint true rows.post.postId rows.channel, post⟩, .next)
  | raised {post : CrawledPost} (exc : CrawlerException) (hfate : fate = .raised exc)
      (hid : post.postId = rows.post.postId) (hattempts : post.attemptCount = rows.post.attemptCount)
      (hpost : post = rows.post ∨ post.RetryPending) :
      MessageEffect advanceCheckpoint advanceCursor fate rows (⟨rows.channel, post⟩, .raised exc)

section Fates

variable {advanceCheckpoint advanceCursor : Bool} {answers : MessageAnswers} {now : Time}
  {rows : MessageRows}

/-- What `_ingest_single_message` leaves of a row that is not quarantined. -/
inductive IngestEffect (advanceCheckpoint : Bool) (fate : MessageFate) (rows : MessageRows) :
    MessageRows × Option CrawlerException → Prop where
  | settled {post : CrawledPost} (hfate : fate.isFinal = true)
      (hid : post.postId = rows.post.postId) (hattempts : post.attemptCount = rows.post.attemptCount)
      (hretry : post.isRetryable = false)
      (haccepted : post.status = .accepted → fate = .accepted)
      (hstatus : post.status = .accepted ∨ post.status = .unsupported ∨ post.status = .failed) :
      IngestEffect advanceCheckpoint fate rows
        (⟨movedChannel advanceCheckpoint false rows.post.postId rows.channel, post⟩, none)
  | postponed {post : CrawledPost} (hfate : fate.isPostponed = true)
      (hid : post.postId = rows.post.postId) (hattempts : post.attemptCount = rows.post.attemptCount)
      (hpending : post.RetryPending) :
      IngestEffect advanceCheckpoint fate rows
        (⟨movedChannel (fate.movesCheckpoint && advanceCheckpoint) false rows.post.postId rows.channel,
          post⟩, none)
  | raised {post : CrawledPost} (exc : CrawlerException) (hfate : fate = .raised exc)
      (hid : post.postId = rows.post.postId) (hattempts : post.attemptCount = rows.post.attemptCount)
      (hpost : post = rows.post ∨ post.RetryPending) :
      IngestEffect advanceCheckpoint fate rows (⟨rows.channel, post⟩, some exc)

theorem advanceForward_mark {mark : CrawledPost → CrawledPost}
    (hid : (mark rows.post).postId = rows.post.postId) :
    (rows.mark mark).advanceForward advanceCheckpoint =
      ⟨movedChannel advanceCheckpoint false rows.post.postId rows.channel, mark rows.post⟩ := by
  cases advanceCheckpoint with
  | false => rfl
  | true =>
    simp only [MessageRows.mark, MessageRows.advanceForward, movedChannel, hid, if_true]
    rfl

theorem IngestEffect.of_outcome (hquarantine : rows.post.quarantinedAt = none)
    (outcome : CrawlerIngestOutcome) :
    IngestEffect advanceCheckpoint outcome.fate rows
      ((rows.mark (markPostForIngestOutcome now outcome)).advanceForward advanceCheckpoint, none) := by
  have hid : (markPostForIngestOutcome now outcome rows.post).postId = rows.post.postId := by
    cases outcome <;> rfl
  rw [advanceForward_mark hid]
  cases outcome with
  | skippedPausedChannel => exact .postponed rfl hid rfl ⟨rfl, rfl, hquarantine⟩
  | skippedUnsupportedMedia | rejectedMalformed => exact .settled rfl hid rfl rfl (fun h => nomatch h) (.inr (.inl rfl))
  | ingested | phashExactNewFile | blockedPerceptualHash | sha256ExactExistingFile
  | blockedSha256ExistingFile | skippedDuplicatePostId =>
    exact .settled rfl hid rfl rfl (fun _ => rfl) (.inl rfl)

theorem IngestEffect.of_malformed (code text : String) :
    IngestEffect advanceCheckpoint .malformed rows
      ((rows.mark (markPostFailed now code text false)).advanceForward advanceCheckpoint, none) := by
  rw [advanceForward_mark rfl]
  exact .settled rfl rfl rfl rfl (fun h => nomatch h) (.inr (.inr rfl))

theorem ingestSingleMessage_effect (advanceCheckpoint : Bool) (now : Time)
    (hquarantine : rows.post.quarantinedAt = none)
    (hsupported : answers.isUnsupported = false) :
    IngestEffect advanceCheckpoint answers.fate rows
      (ingestSingleMessage advanceCheckpoint answers now rows) := by
  obtain ⟨isUnsupported, withoutMedia, download, mapper, accept⟩ := answers
  cases hsupported
  cases withoutMedia with
  | error exc => exact .raised exc rfl rfl rfl (.inl rfl)
  | ok early =>
    cases early with
    | some outcome => exact .of_outcome hquarantine outcome
    | none =>
      cases download with
      | some exc =>
        cases exc with
        | floodWait waitSeconds text => exact .raised _ rfl rfl rfl (.inr ⟨rfl, rfl, hquarantine⟩)
        | providerUnavailable text => exact .postponed rfl rfl rfl ⟨rfl, rfl, hquarantine⟩
        | malformedMessage text => exact .of_malformed ..
        | payloadTooLarge text | sessionAuthRequired text | sessionBanned text
        | sessionNotRunnable text => exact .raised _ rfl rfl rfl (.inl rfl)
        | other className text => exact .raised _ rfl rfl rfl (.inl rfl)
      | none =>
        cases mapper with
        | some text => exact .of_malformed ..
        | none =>
          cases accept with
          | ok outcome => exact .of_outcome hquarantine outcome
          | error exc =>
            cases exc with
            | payloadTooLarge text =>
              change IngestEffect advanceCheckpoint .unsupported rows
                ((rows.mark (markPostUnsupported (some "pipeline_payload_too_large")
                  (some text))).advanceForward advanceCheckpoint, none)
              rw [advanceForward_mark rfl]
              exact .settled rfl rfl rfl rfl (fun h => nomatch h) (.inr (.inl rfl))
            | floodWait waitSeconds text =>
              exact .raised _ rfl rfl rfl (.inr ⟨rfl, rfl, hquarantine⟩)
            | providerUnavailable text | malformedMessage text
            | sessionAuthRequired text | sessionBanned text | sessionNotRunnable text =>
              exact .raised _ rfl rfl rfl (.inr ⟨rfl, rfl, hquarantine⟩)
            | other className text => exact .raised _ rfl rfl rfl (.inr ⟨rfl, rfl, hquarantine⟩)

variable {channel : CrawledChannel} {post : CrawledPost} {postId : PostId}

theorem advanceHistory_moved (hid : post.postId = postId) :
    (⟨movedChannel advanceCheckpoint false postId channel, post⟩ : MessageRows).advanceHistory
        advanceCursor =
      ⟨movedChannel advanceCheckpoint advanceCursor postId channel, post⟩ := by
  subst hid
  cases advanceCursor <;> rfl

theorem advanceForwardCheckpoint_twice (channel : CrawledChannel) (postId : PostId) :
    advanceForwardCheckpoint (advanceForwardCheckpoint channel postId) postId =
      advanceForwardCheckpoint channel postId := by
  by_cases h : compareTelegramPostIds postId channel.lastReadPostId = .gt
  · have hmoved : advanceForwardCheckpoint channel postId =
        { channel with lastReadPostId := some postId } := if_pos h
    rw [hmoved]
    simp [advanceForwardCheckpoint, compareTelegramPostIds]
  · have hkept : advanceForwardCheckpoint channel postId = channel := if_neg h
    rw [hkept, hkept]

theorem quarantined_rows (advanceCheckpoint : Bool) (now : Time) (channel : CrawledChannel)
    (moved : Bool) (hid : post.postId = postId) :
    (((⟨movedChannel (moved && advanceCheckpoint) false postId channel, post⟩ :
        MessageRows).mark (CrawledPost.quarantine now)).advanceForward
          advanceCheckpoint).advanceHistory true =
      ⟨movedChannel advanceCheckpoint true postId channel, post.quarantine now⟩ := by
  have hforward : (⟨movedChannel (moved && advanceCheckpoint) false postId channel,
      post.quarantine now⟩ : MessageRows).advanceForward advanceCheckpoint =
        ⟨movedChannel advanceCheckpoint false postId channel, post.quarantine now⟩ := by
    subst hid
    cases advanceCheckpoint with
    | false => cases moved <;> rfl
    | true =>
      cases moved with
      | false => rfl
      | true =>
        have htwice := advanceForwardCheckpoint_twice channel post.postId
        change (⟨advanceForwardCheckpoint (advanceForwardCheckpoint channel post.postId)
          post.postId, _⟩ : MessageRows) = ⟨advanceForwardCheckpoint channel post.postId, _⟩
        rw [htwice]
  change ((⟨movedChannel (moved && advanceCheckpoint) false postId channel,
    post.quarantine now⟩ : MessageRows).advanceForward advanceCheckpoint).advanceHistory true = _
  rw [hforward]
  exact advanceHistory_moved hid

theorem settled_of_final (hretry : post.isRetryable = false)
    (hstatus : post.status = .accepted ∨ post.status = .unsupported ∨ post.status = .failed) :
    post.Settled := by
  rcases hstatus with h | h | h
  · exact .inl h
  · exact .inr (.inl h)
  · exact .inr (.inr (.inl ⟨h, hretry⟩))

theorem settleHistory_effect {fate : MessageFate} {ingested : MessageRows}
    (h : IngestEffect advanceCheckpoint fate rows (ingested, none)) :
    MessageEffect advanceCheckpoint true fate rows
      (settleHistory advanceCheckpoint now ingested) := by
  cases h with
  | @settled post hfate hid hattempts hretry haccepted hstatus =>
    by_cases hfailed : post.status = .failed
    · have hsettled : (post.quarantine now).Settled := .inr (.inr (.inl ⟨hfailed, hretry⟩))
      have hrows := quarantined_rows advanceCheckpoint now rows.channel true hid
      rw [Bool.true_and] at hrows
      simp only [settleHistory, hfailed, hretry, if_true, Bool.false_eq_true, false_and, if_false,
        hrows]
      exact .settled hfate hid hattempts haccepted hsettled
    · simp only [settleHistory, hfailed, if_false, advanceHistory_moved hid]
      exact .settled hfate hid hattempts haccepted (settled_of_final hretry hstatus)
  | @postponed post hfate hid hattempts hpending =>
    by_cases hfew : post.attemptCount < maxPostAttempts
    · simp only [settleHistory, hpending.1, hpending.2.1, hfew, if_true, and_self]
      exact .stopped hfate rfl (hattempts ▸ hfew) hid hattempts hpending
    have hmany : maxPostAttempts ≤ post.attemptCount := Nat.not_lt.mp hfew
    have hsettled : (post.quarantine now).Settled := .inr (.inr (.inr ⟨rfl, hmany⟩))
    have hrows := quarantined_rows advanceCheckpoint now rows.channel fate.movesCheckpoint hid
    simp only [settleHistory, hpending.1, hfew, if_true, and_false, if_false, hrows]
    exact .quarantined hfate rfl (hattempts ▸ hmany) hid hattempts hsettled rfl

theorem driveMessage_effect (hquarantine : rows.post.quarantinedAt = none) :
    MessageEffect advanceCheckpoint advanceCursor answers.fate rows
      (driveMessage advanceCheckpoint advanceCursor answers now rows) := by
  cases hunsupported : answers.isUnsupported with
  | true =>
    have hfate : answers.fate = .unsupported := by simp [MessageAnswers.fate, hunsupported]
    rw [hfate]
    simp only [driveMessage, hunsupported, if_true]
    have hid : (markPostUnsupported none none rows.post).postId = rows.post.postId := rfl
    rw [advanceForward_mark hid, advanceHistory_moved hid]
    exact .settled rfl hid rfl (fun h => nomatch h) (.inr (.inl rfl))
  | false =>
    have hingest := ingestSingleMessage_effect advanceCheckpoint now hquarantine hunsupported
    simp only [driveMessage, hunsupported, Bool.false_eq_true, if_false]
    generalize ingestSingleMessage advanceCheckpoint answers now rows = result at hingest ⊢
    obtain ⟨ingested, raised⟩ := result
    cases raised with
    | some exc =>
      cases hingest with
      | raised exc hfate hid hattempts hpost =>
        simp only
        split
        · exact .raised exc hfate hid hattempts hpost
        · exact .raised exc hfate rfl rfl (.inl rfl)
    | none =>
      cases advanceCursor with
      | true => exact settleHistory_effect hingest
      | false =>
        cases hingest with
        | settled hfate hid hattempts hretry haccepted hstatus =>
          exact .settled hfate hid hattempts haccepted (settled_of_final hretry hstatus)
        | postponed hfate hid hattempts hpending =>
          exact .postponed hfate rfl hid hattempts hpending

theorem liveMessage_effect {row : Option CrawledPost} :
    MessageEffect true false answers.fate (observedRows now postId channel row)
      (liveMessage answers now postId channel row) := by
  have hquarantine : (observedRows now postId channel row).post.quarantinedAt = none := by
    cases row <;> rfl
  generalize hrows : observedRows now postId channel row = rows at hquarantine
  cases hunsupported : answers.isUnsupported with
  | true =>
    have hfate : answers.fate = .unsupported := by simp [MessageAnswers.fate, hunsupported]
    rw [hfate]
    simp only [liveMessage, hrows, hunsupported, if_true]
    rw [advanceForward_mark rfl]
    exact .settled rfl rfl rfl (fun h => nomatch h) (.inr (.inl rfl))
  | false =>
    have hingest := ingestSingleMessage_effect true now hquarantine hunsupported
    simp only [liveMessage, hrows, hunsupported, Bool.false_eq_true, if_false]
    generalize ingestSingleMessage true answers now rows = result at hingest ⊢
    obtain ⟨ingested, raised⟩ := result
    cases hingest with
    | raised exc hfate hid hattempts hpost =>
      simp only
      split
      · exact .raised exc hfate hid hattempts hpost
      · exact .raised exc hfate rfl rfl (.inl rfl)
    | settled hfate hid hattempts hretry haccepted hstatus =>
      exact .settled hfate hid hattempts haccepted (settled_of_final hretry hstatus)
    | postponed hfate hid hattempts hpending => exact .postponed hfate rfl hid hattempts hpending

theorem catchUpMessage_effect {row : Option CrawledPost} :
    MessageEffect advanceCheckpoint advanceCursor answers.fate
      (observedRows now postId channel row)
      (catchUpMessage advanceCheckpoint advanceCursor answers now postId channel row) :=
  driveMessage_effect (by cases row <;> rfl)

end Fates

end MemeExpert.Crawlers
