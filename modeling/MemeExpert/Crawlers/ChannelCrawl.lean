import MemeExpert.Lib.Runs
import MemeExpert.Crawlers.SourcePosts

/-! Three workloads move the two cursors of a channel: the catch-up pass, the pages of older
history, and the live listener. -/

namespace MemeExpert.Crawlers

open Runs

section Windows

/-- `iter_latest_channel_messages`. -/
def latestWindow (limit : Nat) (messages : List PostId) : List PostId :=
  messages.drop (messages.length - limit)

/-- `iter_channel_messages`. -/
def forwardWindow (limit : Nat) (minMessageId : Option PostId) (messages : List PostId) :
    List PostId :=
  (messages.filter fun m => minMessageId.all fun least => decide (least < m)).take limit

/-- `iter_older_channel_messages`, newest first. -/
def olderWindow (limit : Nat) (beforeMessageId : PostId) (messages : List PostId) : List PostId :=
  ((messages.filter fun m => decide (m < beforeMessageId)).reverse).take limit

end Windows

/-- A page of the catch-up pass: the messages it has still to yield, the number it has yielded,
and the checkpoint it started from. -/
structure CrawlPage where
  pending : List PostId
  scanned : Nat := 0
  checkpointBefore : Option PostId := none

/-- `catch_up_channel`, with the channel as it was last written and as the session holds it. -/
structure CatchUpPass where
  loaded : CrawledChannel
  channel : CrawledChannel
  limit : Nat
  isInitial : Bool
  page : Option CrawlPage := none

/-- `catch_up_older_channel`. -/
structure OlderPass where
  channel : CrawledChannel
  limit : Nat
  pending : List PostId
  scanned : Nat := 0

structure LiveListener where
  channel : CrawledChannel
  events : List PostId := []

/-- The channel on the network and in the database, and the sessions that work on it. The lease
of a backfill job admits one older page at a time. -/
structure CrawlState where
  messages : List PostId
  posts : PostId → Option CrawledPost := fun _ => none
  channel : CrawledChannel := {}
  pass : Option CatchUpPass := none
  older : Option OlderPass := none
  listener : Option LiveListener := none

def CrawledChannel.writeBack (loaded updated current : CrawledChannel) : CrawledChannel where
  lastReadPostId := writeColumn loaded.lastReadPostId updated.lastReadPostId current.lastReadPostId
  historyCursorPostId :=
    writeColumn loaded.historyCursorPostId updated.historyCursorPostId current.historyCursorPostId
  oldestObservedPostId :=
    writeColumn loaded.oldestObservedPostId updated.oldestObservedPostId
      current.oldestObservedPostId
  initialCatchupCompleted :=
    writeColumn loaded.initialCatchupCompleted updated.initialCatchupCompleted
      current.initialCatchupCompleted
  historyExhausted :=
    writeColumn loaded.historyExhausted updated.historyExhausted current.historyExhausted
  lastFetchedAt := writeColumn loaded.lastFetchedAt updated.lastFetchedAt current.lastFetchedAt

section Steps

variable (s : CrawlState)

def CrawlState.commitMessage (loaded : CrawledChannel) (postId : PostId) (rows : MessageRows) :
    CrawlState :=
  { s with
    posts := Function.update s.posts postId (some rows.post)
    channel := CrawledChannel.writeBack loaded rows.channel s.channel }

def CrawlState.appear (postId : PostId) : CrawlState :=
  { s with
    messages := s.messages ++ [postId]
    listener := s.listener.map fun listener =>
      { listener with events := listener.events ++ [postId] } }

def CrawlState.afterLive (listener : LiveListener) (postId : PostId)
    (result : MessageRows × MessageEnd) : CrawlState :=
  { s.commitMessage listener.channel postId result.1 with
    listener :=
      match result.2 with
      | .next => some { channel := result.1.channel, events := listener.events.erase postId }
      | .stopped | .raised _ => none }

def CrawlState.live (postId : PostId) (answers : MessageAnswers) (now : Time) :
    Option CrawlState := do
  let listener ← s.listener
  guard (postId ∈ listener.events)
  return s.afterLive listener postId
    (liveMessage answers now postId listener.channel (s.posts postId))

def CrawlState.openPage : Option CrawlState := do
  let pass ← s.pass
  guard (pass.page = none)
  let pending :=
    if pass.isInitial then latestWindow pass.limit s.messages
    else forwardWindow pass.limit pass.channel.lastReadPostId s.messages
  return { s with
    pass := some { pass with
      page := some { pending := pending, checkpointBefore := pass.channel.lastReadPostId } } }

def CrawlState.afterPassMessage (pass : CatchUpPass) (page : CrawlPage) (postId : PostId)
    (result : MessageRows × MessageEnd) : CrawlState :=
  { s.commitMessage pass.loaded postId result.1 with
    pass :=
      match result.2 with
      | .next =>
        some { pass with
          loaded := result.1.channel
          channel := result.1.channel
          page := some { page with
            pending := page.pending.tail
            scanned := page.scanned + 1 } }
      | .stopped | .raised _ => none }

def CrawlState.passMessage (answers : MessageAnswers) (now : Time) : Option CrawlState := do
  let pass ← s.pass
  let page ← pass.page
  let postId ← page.pending.head?
  return s.afterPassMessage pass page postId
    (catchUpMessage true pass.isInitial answers now postId pass.channel (s.posts postId))

/-- The stream of a page is exhausted. The first page of an initial pass is followed by forward
pages; a forward page that was full and moved the checkpoint is followed by the next one. -/
def CrawlState.endPage (now : Time) : Option CrawlState := do
  let pass ← s.pass
  let page ← pass.page
  guard (page.pending = [])
  let channel := { pass.channel with lastFetchedAt := some now }
  if pass.isInitial then
    let completed := { channel with
      historyExhausted := decide (page.scanned < pass.limit) || channel.historyExhausted
      initialCatchupCompleted := true }
    return { s with
      pass := some { pass with channel := completed, isInitial := false, page := none } }
  else if page.scanned < pass.limit ∨ channel.lastReadPostId = page.checkpointBefore then
    return { s with
      channel := CrawledChannel.writeBack pass.loaded channel s.channel
      pass := none }
  else return { s with pass := some { pass with channel := channel, page := none } }

/-- A flood wait or a provider error of the stream, after which the pass commits, or an error
after which it does not. -/
def CrawlState.interruptPass (commits : Bool) : Option CrawlState := do
  let pass ← s.pass
  return { s with
    channel :=
      if commits then CrawledChannel.writeBack pass.loaded pass.channel s.channel else s.channel
    pass := none }

def CrawlState.startOlder (limit : Nat) : Option CrawlState := do
  guard (s.older = none ∧ s.channel.initialCatchupCompleted = true)
  let boundary ← s.channel.historyCursorPostId
  return { s with
    older := some {
      channel := s.channel
      limit := limit
      pending := olderWindow limit boundary s.messages } }

def CrawlState.afterOlderMessage (older : OlderPass) (postId : PostId)
    (result : MessageRows × MessageEnd) : CrawlState :=
  { s.commitMessage older.channel postId result.1 with
    older :=
      match result.2 with
      | .next =>
        some { older with
          channel := result.1.channel
          pending := older.pending.tail
          scanned := older.scanned + 1 }
      | .stopped | .raised _ => none }

def CrawlState.olderMessage (answers : MessageAnswers) (now : Time) : Option CrawlState := do
  let older ← s.older
  let postId ← older.pending.head?
  return s.afterOlderMessage older postId
    (catchUpMessage false true answers now postId older.channel (s.posts postId))

def CrawlState.endOlder (now : Time) : Option CrawlState := do
  let older ← s.older
  guard (older.pending = [])
  let channel := { older.channel with
    lastFetchedAt := some now
    historyExhausted := decide (older.scanned < older.limit) || older.channel.historyExhausted }
  return { s with
    channel := CrawledChannel.writeBack older.channel channel s.channel
    older := none }

inductive CrawlLabel where
  | appear (postId : PostId)
  | startListener
  | reloadListener
  | stopListener
  | live (postId : PostId) (answers : MessageAnswers) (now : Time)
  | startPass (limit : Nat)
  | openPage
  | passMessage (answers : MessageAnswers) (now : Time)
  | endPage (now : Time)
  | interruptPass (commits : Bool)
  | startOlder (limit : Nat)
  | olderMessage (answers : MessageAnswers) (now : Time)
  | endOlder (now : Time)
  | interruptOlder

def crawlStep : CrawlLabel → Option CrawlState
  | .appear postId => if ∀ m ∈ s.messages, m < postId then some (s.appear postId) else none
  | .startListener => some { s with listener := some { channel := s.channel } }
  | .reloadListener =>
    some { s with
      listener := s.listener.map fun listener => { listener with channel := s.channel } }
  | .stopListener => some { s with listener := none }
  | .live postId answers now => s.live postId answers now
  | .startPass limit =>
    if s.pass = none then
      some { s with
        pass := some {
          loaded := s.channel
          channel := s.channel
          limit := limit
          isInitial := !s.channel.initialCatchupCompleted } }
    else none
  | .openPage => s.openPage
  | .passMessage answers now => s.passMessage answers now
  | .endPage now => s.endPage now
  | .interruptPass commits => s.interruptPass commits
  | .startOlder limit => s.startOlder limit
  | .olderMessage answers now => s.olderMessage answers now
  | .endOlder now => s.endOlder now
  | .interruptOlder => some { s with older := none }

end Steps

def Above (cursor : Option PostId) (postId : PostId) : Prop := ∀ id, cursor = some id → id < postId

def Below (cursor : Option PostId) (postId : PostId) : Prop := ∀ id, cursor = some id → postId < id

/-- The moves one message can make on the copy of the channel that its session holds. -/
structure ChannelMove (advanceCheckpoint advanceCursor : Bool) (postId : PostId)
    (before after : CrawledChannel) : Prop where
  completed : after.initialCatchupCompleted = before.initialCatchupCompleted
  lastRead : after.lastReadPostId = before.lastReadPostId ∨
    (advanceCheckpoint = true ∧ after.lastReadPostId = some postId ∧
      Above before.lastReadPostId postId)
  history : after.historyCursorPostId = before.historyCursorPostId ∨
    (advanceCursor = true ∧ after.historyCursorPostId = some postId ∧
      Below before.historyCursorPostId postId)

structure CursorsAt (advanceCheckpoint advanceCursor : Bool) (postId : PostId)
    (channel : CrawledChannel) : Prop where
  lastRead : advanceCheckpoint = true →
    ∃ id, channel.lastReadPostId = some id ∧ postId ≤ id
  history : advanceCursor = true →
    ∃ id, channel.historyCursorPostId = some id ∧ id ≤ postId

structure PageMove (advanceCheckpoint advanceCursor : Bool) (postId : PostId)
    (before : CrawledChannel) (result : MessageRows × MessageEnd) : Prop where
  move : ChannelMove advanceCheckpoint advanceCursor postId before result.1.channel
  cursorsAt : result.2 = .next → advanceCursor = true →
    CursorsAt advanceCheckpoint advanceCursor postId result.1.channel
  history_eq_or : result.1.channel.historyCursorPostId = before.historyCursorPostId ∨
    CursorsAt advanceCheckpoint advanceCursor postId result.1.channel

section Moves

variable {advanceCheckpoint advanceCursor : Bool} {postId : PostId}

theorem lastRead_advanceForwardCheckpoint (channel : CrawledChannel) (postId : PostId) :
    ((advanceForwardCheckpoint channel postId).lastReadPostId = some postId ∧
        Above channel.lastReadPostId postId) ∨
      ((advanceForwardCheckpoint channel postId).lastReadPostId = channel.lastReadPostId ∧
        ∃ id, channel.lastReadPostId = some id ∧ postId ≤ id) := by
  by_cases h : compareTelegramPostIds postId channel.lastReadPostId = .gt
  · refine .inl ⟨by rw [advanceForwardCheckpoint, if_pos h], ?_⟩
    intro id hid
    rw [hid] at h
    exact Nat.compare_eq_gt.mp h
  refine .inr ⟨by rw [advanceForwardCheckpoint, if_neg h], ?_⟩
  cases hid : channel.lastReadPostId with
  | none =>
    rw [hid] at h
    exact absurd rfl h
  | some id =>
    rw [hid] at h
    exact ⟨id, rfl, Nat.le_of_not_lt fun hlt => h (Nat.compare_eq_gt.mpr hlt)⟩

theorem history_advanceHistoryCursor (channel : CrawledChannel) (postId : PostId) :
    ((advanceHistoryCursor channel postId).historyCursorPostId = some postId ∧
        Below channel.historyCursorPostId postId) ∨
      ((advanceHistoryCursor channel postId).historyCursorPostId = channel.historyCursorPostId ∧
        ∃ id, channel.historyCursorPostId = some id ∧ id ≤ postId) := by
  cases hid : channel.historyCursorPostId with
  | none =>
    refine .inl ⟨by simp [advanceHistoryCursor, hid], ?_⟩
    intro id h
    cases h
  | some id =>
    by_cases h : postId < id
    · refine .inl ⟨?_, ?_⟩
      · simp [advanceHistoryCursor, hid, compareTelegramPostIds, Nat.compare_eq_lt.mpr h]
      · intro other hother
        cases hother
        exact h
    · refine .inr ⟨?_, id, rfl, Nat.le_of_not_lt h⟩
      have hcompare : ¬ compare postId id = .lt := fun hlt => h (Nat.compare_eq_lt.mp hlt)
      simp [advanceHistoryCursor, hid, compareTelegramPostIds, hcompare]

@[simp] theorem history_advanceForwardCheckpoint (channel : CrawledChannel) (postId : PostId) :
    (advanceForwardCheckpoint channel postId).historyCursorPostId =
      channel.historyCursorPostId := by
  unfold advanceForwardCheckpoint
  split <;> rfl

@[simp] theorem lastRead_advanceHistoryCursor (channel : CrawledChannel) (postId : PostId) :
    (advanceHistoryCursor channel postId).lastReadPostId = channel.lastReadPostId := by
  unfold advanceHistoryCursor
  split <;> rfl

@[simp] theorem completed_movedChannel (advanceCheckpoint advanceCursor : Bool) (postId : PostId)
    (channel : CrawledChannel) :
    (movedChannel advanceCheckpoint advanceCursor postId channel).initialCatchupCompleted =
      channel.initialCatchupCompleted := by
  cases advanceCheckpoint <;> cases advanceCursor <;>
    simp only [movedChannel, advanceForwardCheckpoint, advanceHistoryCursor, if_true,
      Bool.false_eq_true, if_false] <;> (repeat' split) <;> rfl

theorem lastRead_movedChannel (advanceCheckpoint advanceCursor : Bool) (postId : PostId)
    (channel : CrawledChannel) :
    (movedChannel advanceCheckpoint advanceCursor postId channel).lastReadPostId =
      if advanceCheckpoint then (advanceForwardCheckpoint channel postId).lastReadPostId
      else channel.lastReadPostId := by
  cases advanceCheckpoint <;> cases advanceCursor <;> simp [movedChannel]

theorem historyCursor_movedChannel (advanceCheckpoint advanceCursor : Bool) (postId : PostId)
    (channel : CrawledChannel) :
    (movedChannel advanceCheckpoint advanceCursor postId channel).historyCursorPostId =
      if advanceCursor then (advanceHistoryCursor channel postId).historyCursorPostId
      else channel.historyCursorPostId := by
  cases advanceCheckpoint with
  | false => cases advanceCursor <;> rfl
  | true =>
    cases advanceCursor with
    | false => simp [movedChannel]
    | true =>
      simp only [movedChannel, if_true, advanceHistoryCursor, history_advanceForwardCheckpoint]
      split
      · rfl
      · exact history_advanceForwardCheckpoint ..

theorem ChannelMove.moved (channel : CrawledChannel) :
    ChannelMove advanceCheckpoint advanceCursor postId channel
      (movedChannel advanceCheckpoint advanceCursor postId channel) where
  completed := completed_movedChannel ..
  lastRead := by
    rw [lastRead_movedChannel]
    cases advanceCheckpoint with
    | false => exact .inl rfl
    | true =>
      rcases lastRead_advanceForwardCheckpoint channel postId with ⟨h, habove⟩ | ⟨h, -⟩
      · exact .inr ⟨rfl, h, habove⟩
      · exact .inl h
  history := by
    rw [historyCursor_movedChannel]
    cases advanceCursor with
    | false => exact .inl rfl
    | true =>
      rcases history_advanceHistoryCursor channel postId with ⟨h, hbelow⟩ | ⟨h, -⟩
      · exact .inr ⟨rfl, h, hbelow⟩
      · exact .inl h

theorem CursorsAt.moved (channel : CrawledChannel) :
    CursorsAt advanceCheckpoint advanceCursor postId
      (movedChannel advanceCheckpoint advanceCursor postId channel) where
  lastRead h := by
    subst h
    rw [lastRead_movedChannel, if_pos rfl]
    rcases lastRead_advanceForwardCheckpoint channel postId with ⟨h, -⟩ | ⟨h, hid⟩
    · exact ⟨postId, h, Nat.le_refl _⟩
    · rw [h]
      exact hid
  history h := by
    subst h
    rw [historyCursor_movedChannel, if_pos rfl]
    rcases history_advanceHistoryCursor channel postId with ⟨h, -⟩ | ⟨h, hid⟩
    · exact ⟨postId, h, Nat.le_refl _⟩
    · rw [h]
      exact hid

variable {after before : CrawledChannel}

theorem ChannelMove.mono {checkpoint cursor : Bool}
    (h : ChannelMove checkpoint cursor postId before after)
    (hcheckpoint : checkpoint = true → advanceCheckpoint = true)
    (hcursor : cursor = true → advanceCursor = true) :
    ChannelMove advanceCheckpoint advanceCursor postId before after where
  completed := h.completed
  lastRead := h.lastRead.imp_right fun ⟨hmay, hmove⟩ => ⟨hcheckpoint hmay, hmove⟩
  history := h.history.imp_right fun ⟨hmay, hmove⟩ => ⟨hcursor hmay, hmove⟩

theorem ChannelMove.observed {now : Time}
    (h : ChannelMove advanceCheckpoint advanceCursor postId (observedChannel now postId before)
      after) :
    ChannelMove advanceCheckpoint advanceCursor postId before after :=
  ⟨h.completed, h.lastRead, h.history⟩

/-- Where the message is ahead of a cursor of the session's copy, the cursor comes to it; where it
is not, the cursor stays what it was in the database. -/
structure MovesExactly (advanceCheckpoint advanceCursor : Bool) (postId : PostId)
    (copy stored after : CrawledChannel) : Prop where
  lastRead : (advanceCheckpoint = true ∧ Above copy.lastReadPostId postId) ∧
      after.lastReadPostId = some postId ∨
    ¬ (advanceCheckpoint = true ∧ Above copy.lastReadPostId postId) ∧
      after.lastReadPostId = stored.lastReadPostId
  history : (advanceCursor = true ∧ Below copy.historyCursorPostId postId) ∧
      after.historyCursorPostId = some postId ∨
    ¬ (advanceCursor = true ∧ Below copy.historyCursorPostId postId) ∧
      after.historyCursorPostId = stored.historyCursorPostId

theorem MovesExactly.moved (channel : CrawledChannel) :
    MovesExactly advanceCheckpoint advanceCursor postId channel channel
      (movedChannel advanceCheckpoint advanceCursor postId channel) where
  lastRead := by
    rw [lastRead_movedChannel]
    cases advanceCheckpoint with
    | false => exact .inr ⟨fun h => (nomatch h.1), rfl⟩
    | true =>
      rcases lastRead_advanceForwardCheckpoint channel postId with ⟨h, habove⟩ | ⟨h, id, hid, hle⟩
      · exact .inl ⟨⟨rfl, habove⟩, h⟩
      · exact .inr ⟨fun hmoved => Nat.not_lt.mpr hle (hmoved.2 id hid), h⟩
  history := by
    rw [historyCursor_movedChannel]
    cases advanceCursor with
    | false => exact .inr ⟨fun h => (nomatch h.1), rfl⟩
    | true =>
      rcases history_advanceHistoryCursor channel postId with ⟨h, hbelow⟩ | ⟨h, id, hid, hle⟩
      · exact .inl ⟨⟨rfl, hbelow⟩, h⟩
      · exact .inr ⟨fun hmoved => Nat.not_lt.mpr hle (hmoved.2 id hid), h⟩

section Effects

variable {fate : MessageFate} {rows : MessageRows} {result : MessageRows × MessageEnd}

def MessageFate.isDoneAt (fate : MessageFate) (attempts : Nat) : Bool :=
  fate.isFinal || (fate.isPostponed && decide (maxPostAttempts ≤ attempts))

theorem movesCheckpoint_of_isFinal (h : fate.isFinal = true) : fate.movesCheckpoint = true := by
  cases fate <;> first | rfl | cases h

theorem not_isFinal_of_isPostponed (h : fate.isPostponed = true) : fate.isFinal = false := by
  cases fate <;> first | rfl | cases h

theorem MessageEffect.channel_eq
    (h : MessageEffect advanceCheckpoint advanceCursor fate rows result) :
    result.1.channel =
      movedChannel
        ((fate.movesCheckpoint || (advanceCursor && fate.isDoneAt rows.post.attemptCount)) &&
          advanceCheckpoint)
        (advanceCursor && fate.isDoneAt rows.post.attemptCount) rows.post.postId
        rows.channel := by
  cases h with
  | settled hfate hid hattempts haccepted hsettled =>
    simp only [MessageFate.isDoneAt, hfate, movesCheckpoint_of_isFinal hfate, Bool.true_or,
      Bool.and_true, Bool.true_and]
  | postponed hfate hcursor hid hattempts hpending =>
    simp only [hcursor, Bool.false_and, Bool.or_false]
  | stopped hfate hcursor hfew hid hattempts hpending =>
    have hnot : ¬ maxPostAttempts ≤ rows.post.attemptCount := Nat.not_le.mpr hfew
    simp only [MessageFate.isDoneAt, hcursor, not_isFinal_of_isPostponed hfate, hfate, hnot,
      decide_false, Bool.and_false, Bool.or_false]
  | quarantined hfate hcursor hmany hid hattempts hsettled hquarantined =>
    simp only [MessageFate.isDoneAt, hcursor, hfate, hmany, decide_true, Bool.and_true,
      Bool.or_true, Bool.true_and]
  | raised exc hfate hid hattempts hpost =>
    subst hfate
    simp only [MessageFate.isDoneAt, MessageFate.movesCheckpoint, MessageFate.isFinal,
      MessageFate.isPostponed, Bool.false_and, Bool.and_false, Bool.or_false]
    rfl

theorem MessageEffect.isDoneAt (h : MessageEffect advanceCheckpoint true fate rows result)
    (hnext : result.2 = .next) : fate.isDoneAt rows.post.attemptCount = true := by
  cases h with
  | settled hfate hid hattempts haccepted hsettled => simp [MessageFate.isDoneAt, hfate]
  | postponed hfate hcursor hid hattempts hpending => cases hcursor
  | stopped hfate hcursor hfew hid hattempts hpending => cases hnext
  | quarantined hfate hcursor hmany hid hattempts hsettled hquarantined =>
    simp [MessageFate.isDoneAt, hfate, hmany]
  | raised exc hfate hid hattempts hpost => cases hnext

theorem MessageEffect.pageMove
    (h : MessageEffect advanceCheckpoint advanceCursor fate rows result) :
    PageMove advanceCheckpoint advanceCursor rows.post.postId rows.channel result := by
  have hchannel := h.channel_eq
  have hat : advanceCursor = true → fate.isDoneAt rows.post.attemptCount = true →
      CursorsAt advanceCheckpoint advanceCursor rows.post.postId result.1.channel := by
    intro hcursor hdone
    rw [hchannel, hcursor, hdone, Bool.true_and, Bool.or_true, Bool.true_and]
    exact .moved _
  refine ⟨?_, ?_, ?_⟩
  · rw [hchannel]
    exact (ChannelMove.moved _).mono (fun h => (Bool.and_eq_true_iff.mp h).2)
      fun h => (Bool.and_eq_true_iff.mp h).1
  · intro hnext hcursor
    subst hcursor
    exact hat rfl (h.isDoneAt hnext)
  cases hmoves : advanceCursor && fate.isDoneAt rows.post.attemptCount with
  | false =>
    rw [hchannel, hmoves, historyCursor_movedChannel]
    exact .inl rfl
  | true =>
    obtain ⟨hcursor, hdone⟩ := Bool.and_eq_true_iff.mp hmoves
    exact .inr (hat hcursor hdone)

variable {answers : MessageAnswers} {now : Time} {channel : CrawledChannel}
  {row : Option CrawledPost}

theorem postId_observedRows : (observedRows now postId channel row).post.postId = postId := by
  cases row <;> rfl

theorem PageMove.observed {result : MessageRows × MessageEnd}
    (h : PageMove advanceCheckpoint advanceCursor postId (observedChannel now postId channel)
      result) :
    PageMove advanceCheckpoint advanceCursor postId channel result :=
  ⟨h.move.observed, h.cursorsAt, h.history_eq_or⟩

theorem catchUpMessage_pageMove :
    PageMove advanceCheckpoint advanceCursor postId channel
      (catchUpMessage advanceCheckpoint advanceCursor answers now postId channel row) := by
  have heffect : MessageEffect advanceCheckpoint advanceCursor answers.fate
      (observedRows now postId channel row)
      (catchUpMessage advanceCheckpoint advanceCursor answers now postId channel row) :=
    catchUpMessage_effect
  have hmove := heffect.pageMove
  rw [postId_observedRows] at hmove
  exact hmove.observed

theorem liveMessage_move :
    ChannelMove true false postId channel (liveMessage answers now postId channel row).1.channel := by
  have heffect : MessageEffect true false answers.fate (observedRows now postId channel row)
      (liveMessage answers now postId channel row) := liveMessage_effect
  have hmove := heffect.pageMove
  rw [postId_observedRows] at hmove
  exact hmove.observed.move

theorem MovesExactly.observed
    (h : MovesExactly advanceCheckpoint advanceCursor postId (observedChannel now postId channel)
      (observedChannel now postId channel) after) :
    MovesExactly advanceCheckpoint advanceCursor postId channel channel after :=
  ⟨h.lastRead, h.history⟩

def observedAttempts (now : Time) (postId : PostId) (row : Option CrawledPost) : Nat :=
  (observePost now postId row).attemptCount

theorem catchUpMessage_movesExactly :
    MovesExactly
      ((answers.fate.movesCheckpoint ||
        (advanceCursor && answers.fate.isDoneAt (observedAttempts now postId row))) &&
          advanceCheckpoint)
      (advanceCursor && answers.fate.isDoneAt (observedAttempts now postId row)) postId channel
      channel
      (catchUpMessage advanceCheckpoint advanceCursor answers now postId channel
        row).1.channel := by
  have heffect : MessageEffect advanceCheckpoint advanceCursor answers.fate
      (observedRows now postId channel row)
      (catchUpMessage advanceCheckpoint advanceCursor answers now postId channel row) :=
    catchUpMessage_effect
  have hchannel := heffect.channel_eq
  rw [postId_observedRows] at hchannel
  rw [hchannel]
  exact (MovesExactly.moved (observedChannel now postId channel)).observed

theorem olderMessage_movesExactly :
    MovesExactly false (answers.fate.isDoneAt (observedAttempts now postId row)) postId channel
      channel (catchUpMessage false true answers now postId channel row).1.channel := by
  have hmoved : MovesExactly
      ((answers.fate.movesCheckpoint ||
        (true && answers.fate.isDoneAt (observedAttempts now postId row))) && false)
      (true && answers.fate.isDoneAt (observedAttempts now postId row)) postId channel channel
      (catchUpMessage false true answers now postId channel row).1.channel :=
    catchUpMessage_movesExactly
  rwa [Bool.and_false, Bool.true_and] at hmoved

theorem liveMessage_movesExactly :
    MovesExactly answers.fate.movesCheckpoint false postId channel channel
      (liveMessage answers now postId channel row).1.channel := by
  have heffect : MessageEffect true false answers.fate (observedRows now postId channel row)
      (liveMessage answers now postId channel row) := liveMessage_effect
  have hchannel := heffect.channel_eq
  rw [postId_observedRows, Bool.false_and, Bool.or_false, Bool.and_true] at hchannel
  rw [hchannel]
  exact (MovesExactly.moved (observedChannel now postId channel)).observed

end Effects

theorem ChannelMove.writeBack {loaded : CrawledChannel} (stored : CrawledChannel)
    (h : ChannelMove advanceCheckpoint advanceCursor postId before after)
    (hlastRead : loaded.lastReadPostId = before.lastReadPostId)
    (hhistory : loaded.historyCursorPostId = before.historyCursorPostId) :
    ((CrawledChannel.writeBack loaded after stored).lastReadPostId = stored.lastReadPostId ∧
        after.lastReadPostId = before.lastReadPostId ∨
      advanceCheckpoint = true ∧ after.lastReadPostId = some postId ∧
        (CrawledChannel.writeBack loaded after stored).lastReadPostId = some postId ∧
        Above before.lastReadPostId postId) ∧
    ((CrawledChannel.writeBack loaded after stored).historyCursorPostId =
          stored.historyCursorPostId ∧
        after.historyCursorPostId = before.historyCursorPostId ∨
      advanceCursor = true ∧ after.historyCursorPostId = some postId ∧
        (CrawledChannel.writeBack loaded after stored).historyCursorPostId = some postId ∧
        Below before.historyCursorPostId postId) := by
  constructor
  · rcases h.lastRead with hsame | ⟨hmay, hmoved, habove⟩
    · exact .inl ⟨by simp [CrawledChannel.writeBack, hsame, hlastRead], hsame⟩
    · refine .inr ⟨hmay, hmoved, ?_, habove⟩
      have hne : after.lastReadPostId ≠ loaded.lastReadPostId := by
        intro heq
        rw [hmoved, hlastRead] at heq
        exact Nat.lt_irrefl _ (habove postId heq.symm)
      rw [CrawledChannel.writeBack, writeColumn_of_ne _ hne, hmoved]
  rcases h.history with hsame | ⟨hmay, hmoved, hbelow⟩
  · exact .inl ⟨by simp [CrawledChannel.writeBack, hsame, hhistory], hsame⟩
  refine .inr ⟨hmay, hmoved, ?_, hbelow⟩
  have hne : after.historyCursorPostId ≠ loaded.historyCursorPostId := by
    intro heq
    rw [hmoved, hhistory] at heq
    exact Nat.lt_irrefl _ (hbelow postId heq.symm)
  rw [CrawledChannel.writeBack, writeColumn_of_ne _ hne, hmoved]

variable {stored : CrawledChannel}

theorem MovesExactly.behind {copy : CrawledChannel} {u : PostId}
    (h : MovesExactly advanceCheckpoint advanceCursor postId copy stored after)
    (hcopy : ¬ Above copy.lastReadPostId u) (hstored : ¬ Above stored.lastReadPostId u) :
    ¬ Above after.lastReadPostId u := by
  rcases h.lastRead with ⟨⟨-, habove⟩, hnew⟩ | ⟨-, hsame⟩
  · rw [hnew]
    intro hahead
    exact hcopy fun id hid => Nat.lt_trans (habove id hid) (hahead postId rfl)
  · rwa [hsame]

theorem MovesExactly.ahead {copy : CrawledChannel} {u : PostId}
    (h : MovesExactly advanceCheckpoint advanceCursor postId copy stored after)
    (hstored : Above stored.lastReadPostId u) (hlt : postId < u) :
    Above after.lastReadPostId u := by
  rcases h.lastRead with ⟨-, hnew⟩ | ⟨-, hsame⟩
  · rw [hnew]
    intro id hid
    cases hid
    exact hlt
  · rwa [hsame]

theorem MovesExactly.writeBack {loaded : CrawledChannel}
    (h : MovesExactly advanceCheckpoint advanceCursor postId before before after)
    (hlastRead : loaded.lastReadPostId = before.lastReadPostId)
    (hhistory : loaded.historyCursorPostId = before.historyCursorPostId)
    (stored : CrawledChannel) :
    MovesExactly advanceCheckpoint advanceCursor postId before stored
      (CrawledChannel.writeBack loaded after stored) where
  lastRead := by
    rcases h.lastRead with ⟨hmoves, hnew⟩ | ⟨hnot, hsame⟩
    · refine .inl ⟨hmoves, ?_⟩
      have hne : after.lastReadPostId ≠ loaded.lastReadPostId := by
        intro heq
        rw [hnew, hlastRead] at heq
        exact Nat.lt_irrefl _ (hmoves.2 postId heq.symm)
      rw [CrawledChannel.writeBack, writeColumn_of_ne _ hne, hnew]
    · exact .inr ⟨hnot, by simp [CrawledChannel.writeBack, hsame, hlastRead]⟩
  history := by
    rcases h.history with ⟨hmoves, hnew⟩ | ⟨hnot, hsame⟩
    · refine .inl ⟨hmoves, ?_⟩
      have hne : after.historyCursorPostId ≠ loaded.historyCursorPostId := by
        intro heq
        rw [hnew, hhistory] at heq
        exact Nat.lt_irrefl _ (hmoves.2 postId heq.symm)
      rw [CrawledChannel.writeBack, writeColumn_of_ne _ hne, hnew]
    · exact .inr ⟨hnot, by simp [CrawledChannel.writeBack, hsame, hhistory]⟩

end Moves

section Commit

variable {s : CrawlState} {loaded : CrawledChannel} {postId : PostId} {rows : MessageRows}

theorem posts_commitMessage_self :
    (s.commitMessage loaded postId rows).posts postId = some rows.post :=
  Function.update_self ..

theorem posts_commitMessage_of_ne {m : PostId} (hne : m ≠ postId) :
    (s.commitMessage loaded postId rows).posts m = s.posts m :=
  Function.update_of_ne hne ..

variable {stored updated : CrawledChannel}

theorem completed_writeBack {loaded : CrawledChannel}
    (hle : loaded.initialCatchupCompleted = true → updated.initialCatchupCompleted = true)
    (hstored : stored.initialCatchupCompleted = true) :
    (CrawledChannel.writeBack loaded updated stored).initialCatchupCompleted = true := by
  simp only [CrawledChannel.writeBack, writeColumn]
  split
  · exact hstored
  next hne =>
  cases hloaded : loaded.initialCatchupCompleted with
  | true => exact hle hloaded
  | false =>
    rw [hloaded] at hne
    simpa using hne

theorem completed_writeBack_of_eq {loaded : CrawledChannel}
    (h : updated.initialCatchupCompleted = loaded.initialCatchupCompleted) :
    (CrawledChannel.writeBack loaded updated stored).initialCatchupCompleted =
      stored.initialCatchupCompleted := by
  simp [CrawledChannel.writeBack, h]

theorem lastRead_writeBack_of_eq {loaded : CrawledChannel}
    (h : updated.lastReadPostId = loaded.lastReadPostId) :
    (CrawledChannel.writeBack loaded updated stored).lastReadPostId = stored.lastReadPostId := by
  simp [CrawledChannel.writeBack, h]

theorem history_writeBack_of_eq {loaded : CrawledChannel}
    (h : updated.historyCursorPostId = loaded.historyCursorPostId) :
    (CrawledChannel.writeBack loaded updated stored).historyCursorPostId =
      stored.historyCursorPostId := by
  simp [CrawledChannel.writeBack, h]

/-! What each session writes of the two cursors. -/

section Written

variable {answers : MessageAnswers} {now : Time}

theorem live_written {listener : LiveListener} :
    MovesExactly answers.fate.movesCheckpoint false postId listener.channel s.channel
      (s.afterLive listener postId
        (liveMessage answers now postId listener.channel (s.posts postId))).channel :=
  liveMessage_movesExactly.writeBack rfl rfl s.channel

theorem passMessage_written {pass : CatchUpPass} {page : CrawlPage}
    (hlastRead : pass.loaded.lastReadPostId = pass.channel.lastReadPostId)
    (hhistory : pass.loaded.historyCursorPostId = pass.channel.historyCursorPostId) :
    MovesExactly
      ((answers.fate.movesCheckpoint || (pass.isInitial &&
        answers.fate.isDoneAt (observedAttempts now postId (s.posts postId)))) && true)
      (pass.isInitial && answers.fate.isDoneAt (observedAttempts now postId (s.posts postId)))
      postId pass.channel s.channel
      (s.afterPassMessage pass page postId
        (catchUpMessage true pass.isInitial answers now postId pass.channel
          (s.posts postId))).channel :=
  catchUpMessage_movesExactly.writeBack hlastRead hhistory s.channel

end Written

theorem pass_afterPassMessage {pass next : CatchUpPass} {page : CrawlPage} {rest : List PostId}
    {result : MessageRows × MessageEnd} (hpending : page.pending = postId :: rest)
    (hnext : (s.afterPassMessage pass page postId result).pass = some next) :
    result.2 = .next ∧ next.channel = result.1.channel ∧ next.isInitial = pass.isInitial ∧
      ∃ page', next.page = some page' ∧ page'.pending = rest := by
  simp only [CrawlState.afterPassMessage] at hnext
  split at hnext
  · next hgoesOn =>
    cases hnext
    exact ⟨hgoesOn, rfl, rfl, _, rfl, by rw [hpending, List.tail_cons]⟩
  all_goals cases hnext

end Commit

section Inversion

variable {s t : CrawlState}

theorem live_eq_some {postId : PostId} {answers : MessageAnswers} {now : Time}
    (h : s.live postId answers now = some t) :
    ∃ listener, s.listener = some listener ∧ postId ∈ listener.events ∧
      t = s.afterLive listener postId
        (liveMessage answers now postId listener.channel (s.posts postId)) := by
  obtain ⟨listener, hlistener, h⟩ := Option.bind_eq_some_iff.mp h
  obtain ⟨_, hguard, h⟩ := Option.bind_eq_some_iff.mp h
  cases h
  exact ⟨listener, hlistener, (Option.guard_eq_some' _).mp hguard, rfl⟩

theorem openPage_eq_some (h : s.openPage = some t) :
    ∃ pass, s.pass = some pass ∧ pass.page = none ∧
      t = { s with
        pass := some { pass with
          page := some {
            pending :=
              if pass.isInitial then latestWindow pass.limit s.messages
              else forwardWindow pass.limit pass.channel.lastReadPostId s.messages
            checkpointBefore := pass.channel.lastReadPostId } } } := by
  obtain ⟨pass, hpass, h⟩ := Option.bind_eq_some_iff.mp h
  obtain ⟨_, hguard, h⟩ := Option.bind_eq_some_iff.mp h
  cases h
  exact ⟨pass, hpass, (Option.guard_eq_some' _).mp hguard, rfl⟩

theorem passMessage_eq_some {answers : MessageAnswers} {now : Time}
    (h : s.passMessage answers now = some t) :
    ∃ pass page postId rest, s.pass = some pass ∧ pass.page = some page ∧
      page.pending = postId :: rest ∧
      t = s.afterPassMessage pass page postId
        (catchUpMessage true pass.isInitial answers now postId pass.channel
          (s.posts postId)) := by
  obtain ⟨pass, hpass, h⟩ := Option.bind_eq_some_iff.mp h
  obtain ⟨page, hpage, h⟩ := Option.bind_eq_some_iff.mp h
  obtain ⟨postId, hhead, h⟩ := Option.bind_eq_some_iff.mp h
  cases h
  obtain ⟨rest, hrest⟩ := List.head?_eq_some_iff.mp hhead
  exact ⟨pass, page, postId, rest, hpass, hpage, hrest, rfl⟩

theorem interruptPass_eq_some {commits : Bool} (h : s.interruptPass commits = some t) :
    ∃ pass, s.pass = some pass ∧
      t = { s with
        channel :=
          if commits then CrawledChannel.writeBack pass.loaded pass.channel s.channel
          else s.channel
        pass := none } := by
  obtain ⟨pass, hpass, h⟩ := Option.bind_eq_some_iff.mp h
  cases h
  exact ⟨pass, hpass, rfl⟩

inductive PageEnd (s : CrawlState) (pass : CatchUpPass) (page : CrawlPage) (now : Time) :
    CrawlState → Prop where
  | completed (hinitial : pass.isInitial = true) :
      PageEnd s pass page now { s with
        pass := some { pass with
          channel := { pass.channel with
            lastFetchedAt := some now
            historyExhausted := decide (page.scanned < pass.limit) || pass.channel.historyExhausted
            initialCatchupCompleted := true }
          isInitial := false
          page := none } }
  | finished (hforward : pass.isInitial = false) :
      PageEnd s pass page now { s with
        channel :=
          CrawledChannel.writeBack pass.loaded { pass.channel with lastFetchedAt := some now }
            s.channel
        pass := none }
  | continued (hforward : pass.isInitial = false) :
      PageEnd s pass page now { s with
        pass := some { pass with
          channel := { pass.channel with lastFetchedAt := some now }
          isInitial := false
          page := none } }

theorem endPage_eq_some {now : Time} (h : s.endPage now = some t) :
    ∃ pass page, s.pass = some pass ∧ pass.page = some page ∧ page.pending = [] ∧
      PageEnd s pass page now t := by
  obtain ⟨pass, hpass, h⟩ := Option.bind_eq_some_iff.mp h
  obtain ⟨page, hpage, h⟩ := Option.bind_eq_some_iff.mp h
  obtain ⟨_, hguard, h⟩ := Option.bind_eq_some_iff.mp h
  refine ⟨pass, page, hpass, hpage, (Option.guard_eq_some' _).mp hguard, ?_⟩
  cases hinitial : pass.isInitial with
  | true =>
    simp only [hinitial, if_true] at h
    cases h
    exact .completed hinitial
  | false =>
    simp only [hinitial, Bool.false_eq_true, if_false] at h
    split at h
    · cases h
      exact .finished hinitial
    · cases h
      exact .continued hinitial

theorem startOlder_eq_some {limit : Nat} (h : s.startOlder limit = some t) :
    s.older = none ∧ s.channel.initialCatchupCompleted = true ∧
      ∃ boundary, s.channel.historyCursorPostId = some boundary ∧
        t = { s with
          older := some {
            channel := s.channel
            limit := limit
            pending := olderWindow limit boundary s.messages } } := by
  obtain ⟨_, hguard, h⟩ := Option.bind_eq_some_iff.mp h
  obtain ⟨boundary, hboundary, h⟩ := Option.bind_eq_some_iff.mp h
  cases h
  obtain ⟨hnone, hcompleted⟩ := (Option.guard_eq_some' _).mp hguard
  exact ⟨hnone, hcompleted, boundary, hboundary, rfl⟩

theorem olderMessage_eq_some {answers : MessageAnswers} {now : Time}
    (h : s.olderMessage answers now = some t) :
    ∃ older postId rest, s.older = some older ∧ older.pending = postId :: rest ∧
      t = s.afterOlderMessage older postId
        (catchUpMessage false true answers now postId older.channel (s.posts postId)) := by
  obtain ⟨older, holder, h⟩ := Option.bind_eq_some_iff.mp h
  obtain ⟨postId, hhead, h⟩ := Option.bind_eq_some_iff.mp h
  cases h
  obtain ⟨rest, hrest⟩ := List.head?_eq_some_iff.mp hhead
  exact ⟨older, postId, rest, holder, hrest, rfl⟩

theorem endOlder_eq_some {now : Time} (h : s.endOlder now = some t) :
    ∃ older, s.older = some older ∧
      t = { s with
        channel :=
          CrawledChannel.writeBack older.channel { older.channel with
            lastFetchedAt := some now
            historyExhausted :=
              decide (older.scanned < older.limit) || older.channel.historyExhausted } s.channel
        older := none } := by
  obtain ⟨older, holder, h⟩ := Option.bind_eq_some_iff.mp h
  obtain ⟨_, hguard, h⟩ := Option.bind_eq_some_iff.mp h
  cases h
  exact ⟨older, holder, rfl⟩

end Inversion

end MemeExpert.Crawlers
