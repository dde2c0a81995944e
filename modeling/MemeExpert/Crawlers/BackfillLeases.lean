import MemeExpert.Crawlers.BackfillJobs

/-! The lease is compared once in a time slice, after its page. The exception handler and
the shutdown path write the job without the comparison. -/

namespace MemeExpert.Crawlers

open Runs

structure BackfillProgress where
  status : SourceChannelBackfillJobStatus
  cursorPostId : Option PostId
  scannedMessageCount : Nat
  quarantinedMessageCount : Nat
  attemptCount : Nat
  lastErrorCode : Option String
  lastErrorClass : Option String
  lastErrorText : Option String
  failedPostId : Option PostId

def BackfillJob.progress (job : BackfillJob) : BackfillProgress where
  status := job.status
  cursorPostId := job.cursorPostId
  scannedMessageCount := job.scannedMessageCount
  quarantinedMessageCount := job.quarantinedMessageCount
  attemptCount := job.attemptCount
  lastErrorCode := job.lastErrorCode
  lastErrorClass := job.lastErrorClass
  lastErrorText := job.lastErrorText
  failedPostId := job.failedPostId

def BackfillJob.isFinished (job : BackfillJob) : Bool :=
  match job.status with
  | .completed | .completedWithFailures | .failed | .cancelled => true
  | .queued | .running | .waitingRetry | .waitingCapacity => false

def BackfillLabel.slice : BackfillLabel → Option TimeSlice
  | completeEarly slice _ _ | returnPage slice _ | finish slice _ _ | fail slice _ | cancel slice
  | handle slice _ | readRequeue slice | requeue slice | die slice => some slice
  | claim .. | setRecoveryItems _ | readDispatch | dispatch _ => none

def BackfillLabel.commitEnd : BackfillLabel → CommitEnd
  | completeEarly _ _ commitEnd | finish _ _ commitEnd => commitEnd
  | returnPage .. | fail .. | cancel _ | handle .. | readRequeue _ | requeue _ | die _ | claim ..
  | setRecoveryItems _ | readDispatch | dispatch _ => .returned

def HoldsLease (slice : TimeSlice) (job : BackfillJob) : Prop :=
  job.leaseGeneration = slice.claimed.leaseGeneration ∧ job.lockOwner = some slice.worker

instance (slice : TimeSlice) (job : BackfillJob) : Decidable (HoldsLease slice job) :=
  inferInstanceAs (Decidable (_ ∧ _))

/-- The demands on a step: a slice whose job was claimed again writes nothing a lease protects,
a finished job is not taken up again by a worker without its lease, and no count falls. -/
structure LeaseFenced (x : Transition BackfillState BackfillLabel) : Prop where
  superseded_inert : ∀ slice ∈ x.label.slice,
    slice.claimed.leaseGeneration < x.before.job.leaseGeneration →
      x.after.job.progress = x.before.job.progress ∧ x.after.attempts = x.before.attempts
  finished_kept : ∀ slice ∈ x.label.slice, ¬ HoldsLease slice x.before.job →
    x.before.job.isFinished = true →
      x.after.job.status ≠ .queued ∧ x.after.job.status ≠ .waitingRetry
  scanned_mono : x.before.job.scannedMessageCount ≤ x.after.job.scannedMessageCount

structure CountsSound (s : BackfillState) : Prop where
  one_open : s.attempts.countP (·.isOpen) ≤ 1
  scanned_le : s.job.scannedMessageCount ≤ s.job.requestedMessageCount

def EndsBeforeClaim (x : Transition BackfillState BackfillLabel) : Prop :=
  match x.label with
  | .claim .. => x.before.slices = []
  | .completeEarly .. | .returnPage .. | .finish .. | .fail .. | .cancel _ | .handle ..
  | .readRequeue _ | .requeue _ | .die _ | .setRecoveryItems _ | .readDispatch | .dispatch _ =>
    x.label.commitEnd = .returned

instance (x : Transition BackfillState BackfillLabel) : Decidable (EndsBeforeClaim x) := by
  unfold EndsBeforeClaim
  split <;> infer_instance

def Counted (slice : TimeSlice) (read : BackfillJob) (outcome : SliceOutcome) : Prop :=
  outcome.job.scannedMessageCount = read.scannedMessageCount ∨
    ∃ page, slice.phase = .fenced read page ∧
      (read.scannedMessageCount ≤ read.requestedMessageCount →
        read.scannedMessageCount ≤ outcome.job.scannedMessageCount)

inductive BackfillEffect (s : BackfillState) : BackfillLabel → BackfillState → Prop where
  | claimed (worker : String) (now : Time) (context : ClaimContext) :
      BackfillEffect s (.claim worker now context) (s.claim worker now context)
  | committed {label : BackfillLabel} {slice : TimeSlice} {read : BackfillJob} {now : Time}
      {outcome : SliceOutcome} {t : BackfillState} (hlabel : label.slice = some slice)
      (hslice : slice ∈ s.slices) (hcounted : Counted slice read outcome)
      (hcommit : s.commit slice read now outcome label.commitEnd = some t) :
      BackfillEffect s label t
  | entered {label : BackfillLabel} {slice : TimeSlice} (phase : SlicePhase)
      (hlabel : label.slice = some slice) (hslice : slice ∈ s.slices)
      (hphase : ∀ read page, phase = .fenced read page → read = s.job) :
      BackfillEffect s label (s.enter slice phase)
  | released {slice : TimeSlice} (read : BackfillJob) (hslice : slice ∈ s.slices) :
      BackfillEffect s (.requeue slice)
        ({ s with job := BackfillJob.writeBack read (releasedJob read) s.job }.leave slice)
  | died {slice : TimeSlice} (hslice : slice ∈ s.slices) :
      BackfillEffect s (.die slice) (s.leave slice)
  | recovered {label : BackfillLabel} {t : BackfillState} (hlabel : label.slice = none)
      (hslices : t.slices = s.slices) (hattempts : t.attempts = s.attempts)
      (hjob : t.job = s.job ∨
        ∃ read, t.job = BackfillJob.writeBack read (redispatchedJob read) s.job) :
      BackfillEffect s label t

section Outcomes

variable {attempts : List BackfillAttempt} {items : List RecoveryJobItem} {now : Time}
  {claimed read : BackfillJob} {page : BackfillPage}

theorem scanned_le_countedJob (h : read.scannedMessageCount ≤ read.requestedMessageCount) :
    read.scannedMessageCount ≤ (countedJob now page read).scannedMessageCount :=
  Nat.le_min.mpr ⟨h, Nat.le_add_right ..⟩

theorem scanned_pageOutcome :
    (pageOutcome attempts items now claimed page read).job.scannedMessageCount =
      (countedJob now page read).scannedMessageCount := by
  unfold pageOutcome
  cases page.retryableFailurePostId with
  | some postId => rfl
  | none =>
    cases page.errors.filter fun error => !isQuarantinedPostError error with
    | cons error errors => rfl
    | nil =>
      simp only
      split <;> rfl

theorem counted_pageOutcome {slice : TimeSlice} (hphase : slice.phase = .fenced read page) :
    Counted slice read (pageOutcome attempts items now claimed page read) := by
  refine .inr ⟨page, hphase, ?_⟩
  intro hle
  rw [scanned_pageOutcome]
  exact scanned_le_countedJob hle

variable {s t : BackfillState} {label : BackfillLabel}

theorem returnPage_entered (s : BackfillState) (slice : TimeSlice) (page : BackfillPage) :
    ∃ phase, s.returnPage slice page = s.enter slice phase ∧
      ∀ read page', phase = .fenced read page' → read = s.job := by
  unfold BackfillState.returnPage
  split
  · exact ⟨_, rfl, fun _ _ h => nomatch h⟩
  refine ⟨_, rfl, ?_⟩
  intro read page' h
  cases h
  rfl

theorem backfillStep_cases (hstep : backfillStep s label = some t) : BackfillEffect s label t := by
  cases label with
  | claim worker now context =>
    obtain ⟨-, heq⟩ := Option.ite_none_right_eq_some.mp hstep
    cases heq
    exact .claimed worker now context
  | completeEarly slice now commitEnd =>
    obtain ⟨⟨hslice, -, -⟩, hcommit⟩ := Option.ite_none_right_eq_some.mp hstep
    have hcounted : Counted slice slice.claimed (completeBackfillJob now slice.claimed) := .inl rfl
    exact .committed rfl hslice hcounted hcommit
  | returnPage slice page =>
    obtain ⟨⟨hslice, -, -⟩, heq⟩ := Option.ite_none_right_eq_some.mp hstep
    obtain ⟨phase, hreturn, hphase⟩ := returnPage_entered s slice page
    cases heq
    rw [hreturn]
    exact .entered phase rfl hslice hphase
  | finish slice now commitEnd =>
    obtain ⟨hslice, hmatch⟩ := Option.ite_none_right_eq_some.mp hstep
    split at hmatch
    · next read page hphase =>
      exact .committed rfl hslice (counted_pageOutcome hphase) hmatch
    all_goals cases hmatch
  | fail slice exc =>
    obtain ⟨⟨hslice, -⟩, heq⟩ := Option.ite_none_right_eq_some.mp hstep
    cases heq
    exact .entered _ rfl hslice fun _ _ h => nomatch h
  | cancel slice =>
    obtain ⟨⟨hslice, -⟩, heq⟩ := Option.ite_none_right_eq_some.mp hstep
    cases heq
    exact .entered _ rfl hslice fun _ _ h => nomatch h
  | handle slice now =>
    obtain ⟨hslice, hmatch⟩ := Option.ite_none_right_eq_some.mp hstep
    split at hmatch
    · next exc hphase =>
      have hcounted : Counted slice s.job
          (exceptionOutcome s.attempts s.recoveryItems now exc s.job) := .inl rfl
      exact .committed rfl hslice hcounted hmatch
    all_goals cases hmatch
  | readRequeue slice =>
    obtain ⟨⟨hslice, -⟩, heq⟩ := Option.ite_none_right_eq_some.mp hstep
    cases heq
    exact .entered _ rfl hslice fun _ _ h => nomatch h
  | requeue slice =>
    obtain ⟨hslice, hmatch⟩ := Option.ite_none_right_eq_some.mp hstep
    split at hmatch
    · next read hphase =>
      cases hmatch
      exact .released read hslice
    all_goals cases hmatch
  | die slice =>
    obtain ⟨hslice, heq⟩ := Option.ite_none_right_eq_some.mp hstep
    cases heq
    exact .died hslice
  | setRecoveryItems items =>
    cases hstep
    exact .recovered rfl rfl rfl (.inl rfl)
  | readDispatch =>
    cases hstep
    exact .recovered rfl rfl rfl (.inl rfl)
  | dispatch read =>
    obtain ⟨-, heq⟩ := Option.ite_none_right_eq_some.mp hstep
    cases heq
    exact .recovered rfl rfl rfl (.inr ⟨read, rfl⟩)

theorem commit_eq_some {slice : TimeSlice} {read : BackfillJob} {now : Time}
    {outcome : SliceOutcome} {commitEnd : CommitEnd}
    (hcommit : s.commit slice read now outcome commitEnd = some t) :
    t.job = BackfillJob.writeBack read outcome.job s.job ∧ t.job.WithinChecks ∧
      t.attempts = finishOpenBackfillAttempt now outcome s.attempts ∧
      (commitEnd = .returned → t.slices = s.slices.erase slice) := by
  obtain ⟨hchecks, heq⟩ := Option.ite_none_right_eq_some.mp hcommit
  cases commitEnd with
  | returned =>
    cases heq
    exact ⟨rfl, hchecks, rfl, fun _ => rfl⟩
  | cancelled =>
    cases heq
    exact ⟨rfl, hchecks, rfl, fun h => nomatch h⟩
  | raised exc =>
    cases heq
    exact ⟨rfl, hchecks, rfl, fun h => nomatch h⟩

theorem countP_isOpen_finish (now : Time) (outcome : SliceOutcome)
    (attempts : List BackfillAttempt) :
    (finishOpenBackfillAttempt now outcome attempts).countP (·.isOpen) ≤
      attempts.countP (·.isOpen) := by
  unfold finishOpenBackfillAttempt
  split
  · split
    · exact Nat.le_refl _
    · next newest _ =>
      rw [List.countP_map]
      apply List.countP_mono_left
      intro attempt _ hopen
      by_cases hid : attempt.id = newest.id
      · simp [hid, finishedAttempt, BackfillAttempt.isOpen] at hopen
      · simpa [hid] using hopen
  · exact Nat.le_refl _

theorem writeBack_requested (read updated current : BackfillJob) :
    (BackfillJob.writeBack read updated current).requestedMessageCount =
      current.requestedMessageCount :=
  rfl

theorem scanned_writeBack_of_eq {read updated current : BackfillJob}
    (h : updated.scannedMessageCount = read.scannedMessageCount) :
    (BackfillJob.writeBack read updated current).scannedMessageCount =
      current.scannedMessageCount := by
  simp [BackfillJob.writeBack, h]

@[simp] theorem scanned_requeued (read current : BackfillJob) :
    (BackfillJob.writeBack read (releasedJob read) current).scannedMessageCount =
      current.scannedMessageCount :=
  scanned_writeBack_of_eq rfl

@[simp] theorem scanned_redispatched (read current : BackfillJob) :
    (BackfillJob.writeBack read (redispatchedJob read) current).scannedMessageCount =
      current.scannedMessageCount :=
  scanned_writeBack_of_eq rfl

theorem one_open_lease (worker : String) (now : Time) (context : ClaimContext)
    (item : Option RecoveryJobItem) (h : s.attempts.countP (·.isOpen) ≤ 1) :
    (s.lease worker now context item).attempts.countP (·.isOpen) ≤ 1 := by
  unfold BackfillState.lease
  cases hopen : s.attempts.any (·.isOpen) with
  | true => simpa [hopen] using h
  | false =>
    have hnone : s.attempts.countP (·.isOpen) = 0 := by
      rw [List.countP_eq_zero]
      intro attempt hattempt hisOpen
      have hany := List.any_eq_true.mpr ⟨attempt, hattempt, hisOpen⟩
      rw [hopen] at hany
      cases hany
    simp only [Bool.not_false, if_true, List.countP_append, hnone, Nat.zero_add]
    exact List.countP_le_length

theorem CountsSound.claim (h : CountsSound s) (worker : String) (now : Time)
    (context : ClaimContext) : CountsSound (s.claim worker now context) := by
  unfold BackfillState.claim
  split
  · simp only
    split
    · exact ⟨h.one_open, h.scanned_le⟩
    · exact ⟨one_open_lease worker now context _ h.one_open, h.scanned_le⟩
  · exact ⟨h.one_open, h.scanned_le⟩

theorem CountsSound.step (h : CountsSound s) (hstep : backfillStep s label = some t) :
    CountsSound t := by
  cases backfillStep_cases hstep with
  | claimed worker now context => exact h.claim worker now context
  | committed hlabel hslice hcounted hcommit =>
    obtain ⟨-, hchecks, hattempts, -⟩ := commit_eq_some hcommit
    constructor
    · rw [hattempts]
      exact Nat.le_trans (countP_isOpen_finish ..) h.one_open
    · exact hchecks.1
  | entered phase hlabel hslice hphase => exact ⟨h.one_open, h.scanned_le⟩
  | released read hslice =>
    constructor
    · exact h.one_open
    change (BackfillJob.writeBack read (releasedJob read) s.job).scannedMessageCount ≤ _
    rw [scanned_requeued]
    exact h.scanned_le
  | died hslice => exact ⟨h.one_open, h.scanned_le⟩
  | recovered hlabel hslices hattempts hjob =>
    constructor
    · rw [hattempts]
      exact h.one_open
    rcases hjob with hjob | ⟨read, hjob⟩
    · rw [hjob]
      exact h.scanned_le
    · rw [hjob, scanned_redispatched, writeBack_requested]
      exact h.scanned_le

end Outcomes

/-- Every live slice is the latest claim of a job that is not finished, and nothing was counted
since its page was fenced. -/
structure SliceCurrent (s : BackfillState) : Prop where
  alone : s.slices.length ≤ 1
  latest : ∀ slice ∈ s.slices, slice.claimed.leaseGeneration = s.job.leaseGeneration
  unfinished : ∀ slice ∈ s.slices, s.job.isFinished = false
  uncounted : ∀ slice ∈ s.slices, ∀ read page, slice.phase = .fenced read page →
    read.scannedMessageCount = s.job.scannedMessageCount ∧
      read.requestedMessageCount = s.job.requestedMessageCount

section Current

variable {s t : BackfillState} {label : BackfillLabel}

theorem SliceCurrent.of_nil (h : s.slices = []) : SliceCurrent s where
  alone := by simp [h]
  latest slice hslice := by simp [h] at hslice
  unfinished slice hslice := by simp [h] at hslice
  uncounted slice hslice := by simp [h] at hslice

theorem SliceCurrent.erase_eq_nil (h : SliceCurrent s) {slice : TimeSlice}
    (hslice : slice ∈ s.slices) : s.slices.erase slice = [] := by
  apply List.eq_nil_of_length_eq_zero
  rw [List.length_erase_of_mem hslice]
  have := h.alone
  omega

theorem isFinished_of_status {job job' : BackfillJob} (h : job'.status = job.status) :
    job'.isFinished = job.isFinished := by
  simp [BackfillJob.isFinished, h]

theorem isFinished_writeBack_queued {read updated current : BackfillJob}
    (hqueued : updated.status = .queued) (h : current.isFinished = false) :
    (BackfillJob.writeBack read updated current).isFinished = false := by
  by_cases hsame : updated.status = read.status
  · have hstatus : (BackfillJob.writeBack read updated current).status = current.status := by
      simp [BackfillJob.writeBack, hsame]
    rw [isFinished_of_status hstatus, h]
  have hstatus : (BackfillJob.writeBack read updated current).status = .queued := by
    rw [← hqueued]
    exact writeColumn_of_ne _ hsame
  simp [BackfillJob.isFinished, hstatus]

theorem SliceCurrent.claim (hidle : s.slices = []) (worker : String) (now : Time)
    (context : ClaimContext) : SliceCurrent (s.claim worker now context) := by
  unfold BackfillState.claim
  split
  · simp only
    split
    · exact .of_nil hidle
    constructor
    · simp [BackfillState.lease, hidle]
    · intro slice hslice
      simp only [BackfillState.lease, hidle, List.mem_singleton] at hslice
      rw [hslice]
      rfl
    · intro slice _
      rfl
    intro slice hslice read page hphase
    simp only [BackfillState.lease, hidle, List.mem_singleton] at hslice
    rw [hslice] at hphase
    cases hphase
  · exact .of_nil hidle

theorem SliceCurrent.enter (h : SliceCurrent s) {slice : TimeSlice} (hslice : slice ∈ s.slices)
    {phase : SlicePhase} (hphase : ∀ read page, phase = .fenced read page → read = s.job) :
    SliceCurrent (s.enter slice phase) := by
  have hslices : (s.enter slice phase).slices = [{ slice with phase := phase }] := by
    simp only [BackfillState.enter, h.erase_eq_nil hslice]
  constructor
  · simp [hslices]
  · intro other hother
    rw [hslices, List.mem_singleton] at hother
    rw [hother]
    exact h.latest slice hslice
  · intro other _
    exact h.unfinished slice hslice
  intro other hother read page hfenced
  rw [hslices, List.mem_singleton] at hother
  rw [hother] at hfenced
  rw [hphase read page hfenced]
  exact ⟨rfl, rfl⟩

theorem SliceCurrent.recovered (h : SliceCurrent s) (hslices : t.slices = s.slices)
    (hjob : t.job = s.job ∨
      ∃ read, t.job = BackfillJob.writeBack read (redispatchedJob read) s.job) :
    SliceCurrent t := by
  rcases hjob with hjob | ⟨read, hjob⟩
  · constructor
    · rw [hslices]
      exact h.alone
    · rw [hslices, hjob]
      exact h.latest
    · rw [hslices, hjob]
      exact h.unfinished
    · rw [hslices, hjob]
      exact h.uncounted
  · constructor
    · rw [hslices]
      exact h.alone
    · rw [hslices, hjob]
      exact h.latest
    · rw [hslices, hjob]
      intro slice hslice
      exact isFinished_writeBack_queued rfl (h.unfinished slice hslice)
    · rw [hslices, hjob, scanned_redispatched, writeBack_requested]
      exact h.uncounted

theorem SliceCurrent.step {x : Transition BackfillState BackfillLabel} (h : SliceCurrent x.before)
    (hstep : backfillStep x.before x.label = some x.after) (hends : EndsBeforeClaim x) :
    SliceCurrent x.after := by
  obtain ⟨s, label, t⟩ := x
  have heffect : BackfillEffect s label t := backfillStep_cases hstep
  cases heffect with
  | claimed worker now context => exact SliceCurrent.claim hends worker now context
  | committed hlabel hslice hcounted hcommit =>
    have hreturned : label.commitEnd = .returned := by
      cases label <;> first | exact hends | rfl
    obtain ⟨-, -, -, hslices⟩ := commit_eq_some hcommit
    apply SliceCurrent.of_nil
    rw [hslices hreturned]
    exact h.erase_eq_nil hslice
  | entered phase hlabel hslice hphase => exact h.enter hslice hphase
  | released read hslice => exact .of_nil (h.erase_eq_nil hslice)
  | died hslice => exact .of_nil (h.erase_eq_nil hslice)
  | recovered hlabel hslices hattempts hjob => exact h.recovered hslices hjob

theorem mem_slices_of_step (hstep : backfillStep s label = some t) {slice : TimeSlice}
    (hlabel : label.slice = some slice) : slice ∈ s.slices := by
  cases backfillStep_cases hstep with
  | claimed worker now context => cases hlabel
  | committed hother hslice hcounted hcommit =>
    rw [hother] at hlabel
    cases hlabel
    exact hslice
  | entered phase hother hslice hphase =>
    rw [hother] at hlabel
    cases hlabel
    exact hslice
  | released read hslice =>
    cases hlabel
    exact hslice
  | died hslice =>
    cases hlabel
    exact hslice
  | recovered hother hslices hattempts hjob =>
    rw [hother] at hlabel
    cases hlabel

theorem scanned_le_commit (h : SliceCurrent s) (hsound : CountsSound s) {slice : TimeSlice}
    {read : BackfillJob} {outcome : SliceOutcome} (hslice : slice ∈ s.slices)
    (hcounted : Counted slice read outcome) :
    s.job.scannedMessageCount ≤
      (BackfillJob.writeBack read outcome.job s.job).scannedMessageCount := by
  rcases hcounted with hsame | ⟨page, hphase, hle⟩
  · exact Nat.le_of_eq (scanned_writeBack_of_eq hsame).symm
  obtain ⟨hscanned, hrequested⟩ := h.uncounted slice hslice read page hphase
  have hread : read.scannedMessageCount ≤ read.requestedMessageCount := by
    rw [hscanned, hrequested]
    exact hsound.scanned_le
  by_cases heq : outcome.job.scannedMessageCount = read.scannedMessageCount
  · exact Nat.le_of_eq (scanned_writeBack_of_eq heq).symm
  have hwritten : (BackfillJob.writeBack read outcome.job s.job).scannedMessageCount =
      outcome.job.scannedMessageCount := writeColumn_of_ne _ heq
  rw [hwritten, ← hscanned]
  exact hle hread

theorem scanned_le_step (h : SliceCurrent s) (hsound : CountsSound s)
    (hstep : backfillStep s label = some t) :
    s.job.scannedMessageCount ≤ t.job.scannedMessageCount := by
  cases backfillStep_cases hstep with
  | claimed worker now context =>
    unfold BackfillState.claim
    split
    · simp only
      split <;> exact Nat.le_refl _
    · exact Nat.le_refl _
  | committed hlabel hslice hcounted hcommit =>
    rw [(commit_eq_some hcommit).1]
    exact scanned_le_commit h hsound hslice hcounted
  | entered phase hlabel hslice hphase => exact Nat.le_refl _
  | released read hslice => exact Nat.le_of_eq (scanned_requeued ..).symm
  | died hslice => exact Nat.le_refl _
  | recovered hlabel hslices hattempts hjob =>
    rcases hjob with hjob | ⟨read, hjob⟩
    · exact Nat.le_of_eq (by rw [hjob])
    · exact Nat.le_of_eq (by rw [hjob, scanned_redispatched])

theorem LeaseFenced.of_current {x : Transition BackfillState BackfillLabel}
    (h : SliceCurrent x.before) (hsound : CountsSound x.before)
    (hstep : backfillStep x.before x.label = some x.after) : LeaseFenced x where
  superseded_inert slice hlabel hlater := by
    have hlatest := h.latest slice (mem_slices_of_step hstep hlabel)
    rw [hlatest] at hlater
    exact absurd hlater (Nat.lt_irrefl _)
  finished_kept slice hlabel _ hfinished := by
    have hunfinished := h.unfinished slice (mem_slices_of_step hstep hlabel)
    rw [hunfinished] at hfinished
    cases hfinished
  scanned_mono := scanned_le_step h hsound hstep

variable (id : Uuid) (requestedMessageCount : Nat) (cursorPostId : Option PostId)

def requestedBackfill : BackfillState where
  job := requestedJob id requestedMessageCount cursorPostId

theorem CountsSound.requested :
    CountsSound (requestedBackfill id requestedMessageCount cursorPostId) where
  one_open := Nat.zero_le _
  scanned_le := Nat.zero_le _

theorem counts_sound (labels : List BackfillLabel) :
    CountsSound
      (final backfillStep (requestedBackfill id requestedMessageCount cursorPostId) labels) :=
  invariant_final (CountsSound.requested ..) fun _ hx h => h.step (step_of_mem_transitions hx)

/-- While every slice ends before its job is claimed again, the leases are fenced. -/
theorem backfill_leases_fenced (labels : List BackfillLabel)
    (hends : ∀ x ∈ transitions backfillStep
        (requestedBackfill id requestedMessageCount cursorPostId) labels, EndsBeforeClaim x) :
    (∀ x ∈ transitions backfillStep
        (requestedBackfill id requestedMessageCount cursorPostId) labels,
      LeaseFenced x ∧ CountsSound x.after) ∧
    CountsSound
      (final backfillStep (requestedBackfill id requestedMessageCount cursorPostId) labels) := by
  have hcurrent : ∀ x ∈ transitions backfillStep
      (requestedBackfill id requestedMessageCount cursorPostId) labels,
      SliceCurrent x.before ∧ CountsSound x.before := by
    intro x hx
    apply invariant_before (P := fun s => SliceCurrent s ∧ CountsSound s)
      ⟨.of_nil rfl, .requested ..⟩ _ hx
    intro y hy hbefore
    have hstep := step_of_mem_transitions hy
    exact ⟨hbefore.1.step hstep (hends y hy), hbefore.2.step hstep⟩
  constructor
  · intro x hx
    obtain ⟨hslices, hsound⟩ := hcurrent x hx
    have hstep := step_of_mem_transitions hx
    exact ⟨.of_current hslices hsound hstep, hsound.step hstep⟩
  · exact counts_sound id requestedMessageCount cursorPostId labels

end Current

def lastPage : BackfillPage where
  messagesScanned := 3
  historyCursorPostId := some 7
  catchupMessageLimit := 50

def firstLease : TimeSlice where
  worker := "a"
  claimed := leasedJob "a" 0 true (requestedJob 1 100 (some 10))

def secondLease : TimeSlice where
  worker := "b"
  claimed := leasedJob "b" 301 false firstLease.claimed

def overtakenSlice : List BackfillLabel := [
  .claim "a" 0 { attemptId := 5 },
  .claim "b" 301 { attemptId := 6 },
  .returnPage secondLease lastPage,
  .finish { secondLease with phase := .fenced secondLease.claimed lastPage } 310 .returned,
  .returnPage firstLease lastPage,
  .handle { firstLease with phase := .failed (leaseChanged (requestedJob 1 100 none)) } 320]

def slicesInTurn : List BackfillLabel := [
  .claim "a" 0 { attemptId := 5 },
  .fail firstLease (.floodWait 30 "wait"),
  .handle { firstLease with phase := .failed (.floodWait 30 "wait") } 10,
  .claim "b" 40 { attemptId := 6 }]

theorem backfill_leases_fenced_inTurn :
    (∀ x ∈ transitions backfillStep (requestedBackfill 1 100 (some 10)) slicesInTurn,
      LeaseFenced x ∧ CountsSound x.after) ∧
    CountsSound (final backfillStep (requestedBackfill 1 100 (some 10)) slicesInTurn) :=
  backfill_leases_fenced 1 100 (some 10) slicesInTurn (by decide)

theorem not_fenced_overtakenSlice :
    ¬ ∀ (id requestedMessageCount : Nat) (cursorPostId : Option PostId)
        (labels : List BackfillLabel),
      (∀ x ∈ transitions backfillStep
          (requestedBackfill id requestedMessageCount cursorPostId) labels,
        LeaseFenced x ∧ CountsSound x.after) ∧
      CountsSound
        (final backfillStep (requestedBackfill id requestedMessageCount cursorPostId) labels) := by
  intro h
  have hfenced := (h 1 100 (some 10) overtakenSlice).1
  have hkept : ∀ x ∈ transitions backfillStep (requestedBackfill 1 100 (some 10)) overtakenSlice,
      ∀ slice ∈ x.label.slice, ¬ HoldsLease slice x.before.job →
        x.before.job.isFinished = true → x.after.job.status ≠ .waitingRetry := by
    intro x hx slice hslice hlease hfinished
    exact ((hfenced x hx).1.finished_kept slice hslice hlease hfinished).2
  revert hkept
  decide

end MemeExpert.Crawlers
