import MemeExpert.Crawlers.BackfillJobs

/-! A post whose processing fails at every try. The page loop quarantines it at its third
attempt, but only a failure that returns to the loop gets there. -/

namespace MemeExpert.Crawlers

structure PassInputs where
  worker : String := "telegram-crawler"
  now : Time
  context : ClaimContext := { attemptId := 0 }
  catchupMessageLimit : Nat := 100
  answers : MessageAnswers
  /-- The errors a page reports when it stops for a retry of its post. -/
  errors : List String := []

section Tries

variable (advanceCheckpoint : Bool) (postId : PostId) (passes : Nat → PassInputs)
  (channel : CrawledChannel) (row : Option CrawledPost)

def rowsBefore : Nat → CrawledChannel × Option CrawledPost
  | 0 => (channel, row)
  | k + 1 =>
    let last := catchUpMessage advanceCheckpoint true (passes k).answers (passes k).now postId
      (rowsBefore k).1 (rowsBefore k).2
    (last.1.channel, some last.1.post)

def tries (k : Nat) : MessageRows × MessageEnd :=
  catchUpMessage advanceCheckpoint true (passes k).answers (passes k).now postId
    (rowsBefore advanceCheckpoint postId passes channel row k).1
    (rowsBefore advanceCheckpoint postId passes channel row k).2

end Tries

def recordedAttempts (row : Option CrawledPost) : Nat := row.elim 0 (·.attemptCount)

def CrawledPost.Closed (post : CrawledPost) : Prop :=
  post.quarantinedAt.isSome = true ∨ post.status = .unsupported ∨
    (post.status = .failed ∧ post.isRetryable = false)

/-- The loop goes on after the post, which is closed and at or above the history cursor. -/
structure Passed (postId : PostId) (result : MessageRows × MessageEnd) : Prop where
  goes_on : result.2 = .next
  attempts : result.1.post.attemptCount ≤ maxPostAttempts
  closed : result.1.post.Closed
  cursor : ∃ cursor, result.1.channel.historyCursorPostId = some cursor ∧ cursor ≤ postId

/-- A failure after which the loop goes on at this attempt: terminal, or returned to the loop at
the third attempt. -/
def MessageFate.EndsAt (fate : MessageFate) (attempt : Nat) : Prop :=
  fate.isFinal = true ∨ (fate.isPostponed = true ∧ maxPostAttempts ≤ attempt)

instance (fate : MessageFate) (attempt : Nat) : Decidable (fate.EndsAt attempt) :=
  inferInstanceAs (Decidable (_ ∨ _))

section Slices

/-- A backfill job whose pages all begin with the post, and what they have left of it. -/
structure PoisonedJob where
  backfill : BackfillState
  channel : CrawledChannel
  row : Option CrawledPost

def stoppedPage (postId : PostId) (pass : PassInputs) (channel : CrawledChannel)
    (errors : List String) (retrying : Bool) : BackfillPage where
  messagesScanned := 1
  retryableFailurePostId := if retrying then some postId else none
  errors := errors
  historyCursorPostId := channel.historyCursorPostId
  historyExhausted := channel.historyExhausted
  catchupMessageLimit := pass.catchupMessageLimit

def stoppedOutcome (s : BackfillState) (postId : PostId) (pass : PassInputs)
    (channel : CrawledChannel) (messageEnd : MessageEnd) : Option SliceOutcome :=
  let ofPage (errors : List String) (retrying : Bool) : SliceOutcome :=
    pageOutcome s.attempts s.recoveryItems pass.now s.job
      (stoppedPage postId pass channel errors retrying) s.job
  match messageEnd with
  | .next => none
  | .stopped => some (ofPage pass.errors true)
  | .raised (.floodWait waitSeconds _) => some (ofPage [s!"flood_wait:{waitSeconds}s"] false)
  | .raised (.providerUnavailable text) => some (ofPage [s!"provider_unavailable:{text}"] false)
  | .raised exc => some (exceptionOutcome s.attempts s.recoveryItems pass.now exc s.job)

/-- One claim of the job and its page; none if the job is not due or has counted all it was
requested for, or if the page goes on after the post. -/
def poisonSlice (postId : PostId) (pass : PassInputs) (s : PoisonedJob) : Option PoisonedJob :=
  if claimable pass.now s.backfill.job ∧
      s.backfill.job.scannedMessageCount < s.backfill.job.requestedMessageCount then
    let claimed := s.backfill.lease pass.worker pass.now pass.context none
    let result := catchUpMessage false true pass.answers pass.now postId s.channel s.row
    (stoppedOutcome claimed postId pass result.1.channel result.2).map fun outcome =>
      { backfill :=
          { claimed with
            job := outcome.job
            attempts := finishOpenBackfillAttempt pass.now outcome claimed.attempts
            slices := [] }
        channel := result.1.channel
        row := some result.1.post }
  else none

def poisonSlices (postId : PostId) (passes : Nat → PassInputs) (start : PoisonedJob) :
    Nat → Option PoisonedJob
  | 0 => some start
  | k + 1 => (poisonSlices postId passes start k).bind (poisonSlice postId (passes k))

def PoisonedJob.UsedUp (s : PoisonedJob) : Prop :=
  s.backfill.job.status = .failed ∧
    backfillMaxAutomaticAttempts ≤ s.backfill.job.attemptCount

instance (s : PoisonedJob) : Decidable s.UsedUp := inferInstanceAs (Decidable (_ ∧ _))

end Slices

/-- A post that fails at every pass is passed at its third recorded attempt at the latest, and no
job requested for it is used up on it. -/
structure PoisonHarmless (postId : PostId) (passes : Nat → PassInputs) (channel : CrawledChannel)
    (row : Option CrawledPost) : Prop where
  passed : ∀ advanceCheckpoint, ∃ k,
    Passed postId (tries advanceCheckpoint postId passes channel row k)
  not_used_up : ∀ id requestedMessageCount cursorPostId k s,
    poisonSlices postId passes
        ⟨{ job := requestedJob id requestedMessageCount cursorPostId }, channel, row⟩ k =
      some s → ¬ s.UsedUp

section Passing

variable {advanceCheckpoint : Bool} {postId : PostId} {passes : Nat → PassInputs}
  {channel : CrawledChannel} {row : Option CrawledPost}

theorem attemptCount_observePost (now : Time) (postId : PostId) (row : Option CrawledPost) :
    (observePost now postId row).attemptCount = recordedAttempts row + 1 := by
  cases row <;> rfl

variable {fate : MessageFate} {result : MessageRows × MessageEnd} {rows : MessageRows}

theorem MessageEffect.attemptCount {advanceCursor : Bool}
    (h : MessageEffect advanceCheckpoint advanceCursor fate rows result) :
    result.1.post.attemptCount = rows.post.attemptCount := by
  cases h with
  | settled hfate hid hattempts haccepted hsettled => exact hattempts
  | postponed hfate hcursor hid hattempts hpending => exact hattempts
  | stopped hfate hcursor hfew hid hattempts hpending => exact hattempts
  | quarantined hfate hcursor hmany hid hattempts hsettled hquarantined => exact hattempts
  | raised exc hfate hid hattempts hpost => exact hattempts

theorem recordedAttempts_rowsBefore (k : Nat) :
    recordedAttempts (rowsBefore advanceCheckpoint postId passes channel row k).2 =
      recordedAttempts row + k := by
  induction k with
  | zero => rfl
  | succ k ih =>
    change (MessageRows.post _).attemptCount = _
    rw [catchUpMessage_effect.attemptCount]
    change (observePost _ _ _).attemptCount = _
    rw [attemptCount_observePost, ih]
    rfl

theorem history_movedChannel (advanceCheckpoint : Bool) (postId : PostId)
    (channel : CrawledChannel) :
    ∃ cursor, (movedChannel advanceCheckpoint true postId channel).historyCursorPostId =
      some cursor ∧ cursor ≤ postId := by
  simp only [movedChannel, if_true]
  generalize (if advanceCheckpoint = true then advanceForwardCheckpoint channel postId
    else channel) = moved
  by_cases h : moved.historyCursorPostId = none ∨
      compareTelegramPostIds postId moved.historyCursorPostId = .lt
  · exact ⟨postId, by rw [advanceHistoryCursor, if_pos h], Nat.le_refl _⟩
  rw [advanceHistoryCursor, if_neg h]
  simp only [not_or] at h
  obtain ⟨cursor, hcursor⟩ := Option.ne_none_iff_exists'.mp h.1
  refine ⟨cursor, hcursor, ?_⟩
  have hnotlt := h.2
  rw [hcursor] at hnotlt
  exact Nat.le_of_not_lt fun hlt => hnotlt (Nat.compare_eq_lt.mpr hlt)

theorem MessageEffect.goes_on_iff (h : MessageEffect advanceCheckpoint true fate rows result) :
    result.2 = .next ↔ fate.EndsAt rows.post.attemptCount := by
  cases h with
  | settled hfate hid hattempts haccepted hsettled => exact ⟨fun _ => .inl hfate, fun _ => rfl⟩
  | postponed hfate hcursor hid hattempts hpending => cases hcursor
  | stopped hfate hcursor hfew hid hattempts hpending =>
    constructor
    · intro h
      cases h
    rintro (hfinal | ⟨-, hmany⟩)
    · cases fate <;> cases hfate <;> cases hfinal
    · exact absurd hfew (Nat.not_lt.mpr hmany)
  | quarantined hfate hcursor hmany hid hattempts hsettled hquarantined =>
    exact ⟨fun _ => .inr ⟨hfate, hmany⟩, fun _ => rfl⟩
  | raised exc hfate hid hattempts hpost =>
    constructor
    · intro h
      cases h
    rw [hfate]
    rintro (hfinal | ⟨hpostponed, -⟩)
    · cases hfinal
    · cases hpostponed

theorem CrawledPost.Settled.closed {post : CrawledPost} (h : post.Settled)
    (hfailed : post.status ≠ .accepted) : post.Closed := by
  rcases h with haccepted | hunsupported | hfailed | ⟨hquarantined, -⟩
  · exact absurd haccepted hfailed
  · exact .inr (.inl hunsupported)
  · exact .inr (.inr hfailed)
  · exact .inl hquarantined

theorem MessageEffect.closed (h : MessageEffect advanceCheckpoint true fate rows result)
    (hfails : fate ≠ .accepted) (hnext : result.2 = .next) :
    result.1.post.Closed ∧ ∃ cursor, result.1.channel.historyCursorPostId = some cursor ∧
      cursor ≤ rows.post.postId := by
  cases h with
  | settled hfate hid hattempts haccepted hsettled =>
    exact ⟨hsettled.closed fun h => hfails (haccepted h), history_movedChannel ..⟩
  | postponed hfate hcursor hid hattempts hpending => cases hcursor
  | stopped hfate hcursor hfew hid hattempts hpending => cases hnext
  | quarantined hfate hcursor hmany hid hattempts hsettled hquarantined =>
    exact ⟨.inl hquarantined, history_movedChannel ..⟩
  | raised exc hfate hid hattempts hpost => cases hnext

section Effects

variable (advanceCheckpoint postId passes channel row)

theorem exists_tries_effect (k : Nat) :
    ∃ rows : MessageRows, rows.post.postId = postId ∧
      rows.post.attemptCount = recordedAttempts row + k + 1 ∧
      MessageEffect advanceCheckpoint true (passes k).answers.fate rows
        (tries advanceCheckpoint postId passes channel row k) := by
  have heffect : MessageEffect advanceCheckpoint true (passes k).answers.fate _
      (tries advanceCheckpoint postId passes channel row k) := catchUpMessage_effect
  refine ⟨_, ?_, ?_, heffect⟩
  · cases (rowsBefore advanceCheckpoint postId passes channel row k).2 <;> rfl
  · change (observePost _ _ _).attemptCount = _
    rw [attemptCount_observePost, recordedAttempts_rowsBefore]

theorem tries_goes_on_iff (k : Nat) :
    (tries advanceCheckpoint postId passes channel row k).2 = .next ↔
      (passes k).answers.fate.EndsAt (recordedAttempts row + k + 1) := by
  obtain ⟨rows, -, hattempts, heffect⟩ :=
    exists_tries_effect advanceCheckpoint postId passes channel row k
  rw [heffect.goes_on_iff, hattempts]

theorem passed_tries_iff (hfails : ∀ k, (passes k).answers.fate ≠ .accepted) (k : Nat) :
    Passed postId (tries advanceCheckpoint postId passes channel row k) ↔
      recordedAttempts row + k + 1 ≤ maxPostAttempts ∧
        (passes k).answers.fate.EndsAt (recordedAttempts row + k + 1) := by
  obtain ⟨rows, hid, hattempts, heffect⟩ :=
    exists_tries_effect advanceCheckpoint postId passes channel row k
  have hrecorded := heffect.attemptCount
  rw [hattempts] at hrecorded
  constructor
  · intro h
    refine ⟨?_, (tries_goes_on_iff _ _ _ _ _ k).mp h.goes_on⟩
    rw [← hrecorded]
    exact h.attempts
  rintro ⟨hfew, hends⟩
  have hnext := (tries_goes_on_iff advanceCheckpoint postId passes channel row k).mpr hends
  obtain ⟨hclosed, hcursor⟩ := heffect.closed (hfails k) hnext
  rw [hid] at hcursor
  exact ⟨hnext, hrecorded ▸ hfew, hclosed, hcursor⟩

end Effects

end Passing

section Jobs

variable {postId : PostId} {passes : Nat → PassInputs} {channel : CrawledChannel}
  {row : Option CrawledPost} {backfill : BackfillState}

theorem attemptCount_pageOutcome (attempts : List BackfillAttempt) (items : List RecoveryJobItem)
    (now : Time) (claimed : BackfillJob) (page : BackfillPage) (read : BackfillJob) :
    (pageOutcome attempts items now claimed page read).job.attemptCount = read.attemptCount := by
  unfold pageOutcome
  cases page.retryableFailurePostId with
  | some postId => rfl
  | none =>
    cases page.errors.filter fun error => !isQuarantinedPostError error with
    | cons error errors => rfl
    | nil =>
      simp only
      split <;> rfl

theorem attemptCount_stoppedOutcome {s : BackfillState} {pass : PassInputs}
    {messageEnd : MessageEnd} {outcome : SliceOutcome}
    (h : stoppedOutcome s postId pass channel messageEnd = some outcome) :
    outcome.job.attemptCount = s.job.attemptCount := by
  unfold stoppedOutcome at h
  split at h <;> cases h
  · exact attemptCount_pageOutcome ..
  · exact attemptCount_pageOutcome ..
  · exact attemptCount_pageOutcome ..
  · rfl

theorem poisonSlice_eq_some {pass : PassInputs} {s t : PoisonedJob}
    (h : poisonSlice postId pass s = some t) :
    t.backfill.job.attemptCount ≤ s.backfill.job.attemptCount + 1 ∧
      (catchUpMessage false true pass.answers pass.now postId s.channel s.row).2 ≠ .next ∧
      t.channel =
        (catchUpMessage false true pass.answers pass.now postId s.channel s.row).1.channel ∧
      t.row =
        some (catchUpMessage false true pass.answers pass.now postId s.channel s.row).1.post := by
  obtain ⟨-, hmap⟩ := Option.ite_none_right_eq_some.mp h
  obtain ⟨outcome, houtcome, rfl⟩ := Option.map_eq_some_iff.mp hmap
  refine ⟨?_, ?_, rfl, rfl⟩
  · simp only [attemptCount_stoppedOutcome houtcome, BackfillState.lease, leasedJob]
    split
    · exact Nat.le_refl _
    · exact Nat.le_succ _
  · intro hnext
    rw [hnext] at houtcome
    cases houtcome

theorem poisonSlices_eq_some {k : Nat} {s : PoisonedJob}
    (h : poisonSlices postId passes ⟨backfill, channel, row⟩ k = some s) :
    s.backfill.job.attemptCount ≤ backfill.job.attemptCount + k ∧
      (s.channel, s.row) = rowsBefore false postId passes channel row k ∧
      ∀ j < k, (tries false postId passes channel row j).2 ≠ .next := by
  induction k generalizing s with
  | zero =>
    cases h
    exact ⟨Nat.le_refl _, rfl, fun j hj => (Nat.not_lt_zero j hj).elim⟩
  | succ k ih =>
    obtain ⟨last, hlast, hslice⟩ := Option.bind_eq_some_iff.mp h
    obtain ⟨hattempts, hrows, hends⟩ := ih hlast
    obtain ⟨hone, hstopped, hchannel, hrow⟩ := poisonSlice_eq_some hslice
    have hlastChannel : last.channel = (rowsBefore false postId passes channel row k).1 :=
      congrArg Prod.fst hrows
    have hlastRow : last.row = (rowsBefore false postId passes channel row k).2 :=
      congrArg Prod.snd hrows
    rw [hlastChannel, hlastRow] at hstopped hchannel hrow
    refine ⟨?_, ?_, ?_⟩
    · exact Nat.le_trans hone (Nat.succ_le_succ hattempts)
    · rw [hchannel, hrow]
      rfl
    intro j hj
    rcases Nat.lt_succ_iff_lt_or_eq.mp hj with hlt | rfl
    · exact hends j hlt
    · exact hstopped

end Jobs

def EndsInTime (row : Option CrawledPost) (passes : Nat → PassInputs) : Prop :=
  ∃ k, recordedAttempts row + k + 1 ≤ maxPostAttempts ∧
    (passes k).answers.fate.EndsAt (recordedAttempts row + k + 1)

theorem PoisonHarmless.of_endsInTime {postId : PostId} {passes : Nat → PassInputs}
    {channel : CrawledChannel} {row : Option CrawledPost}
    (hfails : ∀ k, (passes k).answers.fate ≠ .accepted) (h : EndsInTime row passes) :
    PoisonHarmless postId passes channel row := by
  obtain ⟨k, hfew, hends⟩ := h
  constructor
  · intro advanceCheckpoint
    exact ⟨k, (passed_tries_iff _ _ _ _ _ hfails k).mpr ⟨hfew, hends⟩⟩
  rintro id requestedMessageCount cursorPostId n s hslices ⟨-, hused⟩
  obtain ⟨hattempts, -, hstopped⟩ := poisonSlices_eq_some hslices
  have hle : n ≤ k := by
    by_contra hlt
    exact hstopped k (Nat.not_le.mp hlt) ((tries_goes_on_iff _ _ _ _ _ k).mpr hends)
  have hthree : recordedAttempts row + k + 1 ≤ 3 := hfew
  have hfive : 5 ≤ s.backfill.job.attemptCount := hused
  have hzero : s.backfill.job.attemptCount ≤ 0 + n := hattempts
  omega

/-- A failing post is harmless exactly if one of its first three recorded attempts ends it. -/
theorem poisonHarmless_iff (postId : PostId) (passes : Nat → PassInputs)
    (channel : CrawledChannel) (row : Option CrawledPost)
    (hfails : ∀ k, (passes k).answers.fate ≠ .accepted) :
    PoisonHarmless postId passes channel row ↔ EndsInTime row passes := by
  constructor
  · intro h
    obtain ⟨k, hpassed⟩ := h.passed false
    exact ⟨k, (passed_tries_iff _ _ _ _ _ hfails k).mp hpassed⟩
  · exact PoisonHarmless.of_endsInTime hfails

def unavailablePost (k : Nat) : PassInputs where
  now := 1000 * k
  answers := { download := some (.providerUnavailable "no media") }

theorem poisonHarmless_iff_unavailable :
    PoisonHarmless 6 unavailablePost { historyCursorPostId := some 7 } none ↔
      EndsInTime none unavailablePost :=
  poisonHarmless_iff 6 unavailablePost { historyCursorPostId := some 7 } none
    (fun _ h => nomatch h)

def raisingPost (k : Nat) : PassInputs where
  now := 1000 * k
  answers := { accept := .error (.other "PipelineIngestError" "storage") }

/-- Five slices end with the post, and the job has failed for good at the cursor it started from. -/
theorem not_harmless_raisingPost :
    ¬ ∀ (postId : Nat) (passes : Nat → PassInputs) (channel : CrawledChannel)
        (row : Option CrawledPost), (∀ k, (passes k).answers.fate ≠ .accepted) →
      PoisonHarmless postId passes channel row := by
  intro h
  have hharmless := h 6 raisingPost { historyCursorPostId := some 7 } none fun _ h => nomatch h
  refine hharmless.not_used_up 1 100 (some 7) 5 _ rfl ?_
  decide

end MemeExpert.Crawlers
