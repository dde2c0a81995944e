import MemeExpert.Messaging.OutboxAttempts
import MemeExpert.Services.AdminRecovery

/-! The dispatcher, the relay and the worker charge one counter; ghost counters record the failures
of each. -/

namespace MemeExpert.Services

open Runs Pipeline Messaging

/-- A delivery waits at the broker, runs, or has its failure recorded and no broker call yet. -/
inductive DeliveryPhase where
  | queued | running
  | recorded (retryable : Bool)
  deriving DecidableEq

structure WorkerDelivery where
  attempt : Nat
  phase : DeliveryPhase := .queued
  deriving DecidableEq

/-- The event an item was dispatched under, its outbox row and its copies at the broker. -/
structure RecoveryDispatch where
  event : ContentPipelineDispatchEvent
  outbox : RabbitMQOutboxMessage
  deliveries : List WorkerDelivery := []

def RecoveryDispatch.fresh (event : ContentPipelineDispatchEvent) : RecoveryDispatch where
  event := event
  outbox := outboxMessageFromSpec (buildPipelineDispatchMessageSpec event)

def RecoveryDispatch.toStage (d : RecoveryDispatch) (entry : PipelineStageJournal)
    (delivery : WorkerDelivery) : StageDelivery :=
  ⟨entry.stage, d.event.eventId, delivery.attempt⟩

def RecoveryDispatch.replace (d : RecoveryDispatch) (delivery : WorkerDelivery)
    (next : Option WorkerDelivery) : RecoveryDispatch :=
  { d with deliveries := next.toList ++ d.deliveries.erase delivery }

structure FailureCounts where
  dispatch : Nat := 0
  publication : Nat := 0
  worker : Nat := 0
  deriving DecidableEq

def FailureCounts.total (failures : FailureCounts) : Nat :=
  failures.dispatch + failures.publication + failures.worker

structure BudgetState where
  item : RecoveryJobItem
  entry : PipelineStageJournal
  current : Option RecoveryDispatch := none
  failures : FailureCounts := {}

inductive BudgetLabel where
  | dispatchFailed (jobStatus : RecoveryJobStatus) (work : WorkLookup) (reason error : String)
      (retryable : Bool) (now : Time)
  | dispatch (admin : Bool) (event : ContentPipelineDispatchEvent) (now : Time)
  | attach (reserved : RecoveryDispatch) (now : Time)
  | claim (relay : String) (now : Time)
  | markPublished (now : Time)
  | markFailed (accepted : Bool) (error : String) (now : Time)
  | leaseLost (accepted : Bool) (now : Time)
  | take (delivery : WorkerDelivery) (now : Time)
  | fail (delivery : WorkerDelivery) (failure : StageFailure) (now : Time)
  | settle (delivery : WorkerDelivery) (cancelling : Bool) (reason error : String) (now : Time)
  | abandon (delivery : WorkerDelivery) (now : Time)
  | succeed (delivery : WorkerDelivery) (now : Time)
  | observe (now : Time)
  | finish (status : RecoveryJobItemStatus) (reason error : Option String) (now : Time)
  | reclaim (event : ContentPipelineDispatchEvent) (now : Time)
  | row (entry : PipelineStageJournal)

section Machine

variable (settings : PipelineSettings)

def abandonDisposition (entry : PipelineStageJournal) (delivery : StageDelivery) :
    CancelledStageDisposition :=
  if entry.lastEventId ≠ some delivery.eventId ∨ delivery.attempt < entry.attemptCount then
    .acknowledge
  else if entry.status ≠ .processing then idleDisposition settings entry delivery
  else .requeue

def abandonRecords (entry : PipelineStageJournal) (delivery : StageDelivery) : Bool :=
  entry.lastEventId = some delivery.eventId ∧ entry.attemptCount ≤ delivery.attempt ∧
    entry.status = .processing

namespace BudgetState

variable (s : BudgetState)

def owner (eventId : Uuid) : Option RecoveryJobItem :=
  if s.item.dispatchEventId = some eventId then some s.item else none

def observed (outbox : RabbitMQOutboxMessage) : RecoveryJobItem :=
  if s.item.dispatchEventId = some outbox.messageId then
    observeRecoveryStagePublicationOutcome s.item outbox
  else s.item

def failedItem (delivery : StageDelivery) (failure : StageFailure) (consumesBudget : Bool)
    (now : Time) : RecoveryJobItem :=
  if s.item.dispatchEventId = some delivery.eventId then
    failedRecoveryItem s.item delivery failure consumesBudget now
  else s.item

/-- `_recovery_retry_attempt_ceiling` for a stage event. -/
def attemptCeiling (eventId : Uuid) : Nat :=
  ((s.owner eventId).bind recoveryStageWorkerAttemptCeiling).getD settings.brokerRetryMaxAttempts

def settle (d : RecoveryDispatch) (delivery : WorkerDelivery) (retryable cancelling : Bool)
    (reason error : String) (now : Time) : BudgetState :=
  let item :=
    if cancelling ∧ s.item.status = .dispatched then
      finishItem s.item .failed (some reason) (some error) now
    else s.item
  let settled := { s with item := item }
  if cancelling ∧
      item.status ∈ [RecoveryJobItemStatus.failed, .skippedStale, .skippedDependency, .cancelled] then
    { settled with current := some (d.replace delivery none) }
  else if retryable ∧ delivery.attempt < settled.attemptCeiling settings d.event.eventId then
    { settled with current := some (d.replace delivery (some { attempt := delivery.attempt + 1 })) }
  else { settled with current := some (d.replace delivery none) }

def abandon (d : RecoveryDispatch) (delivery : WorkerDelivery) (now : Time) : BudgetState :=
  let stageDelivery := d.toStage s.entry delivery
  let next :=
    if abandonDisposition settings s.entry stageDelivery = .requeue then
      some { delivery with phase := .queued }
    else none
  if abandonRecords s.entry stageDelivery then
    { s with
      item := s.failedItem stageDelivery workerShutdownFailure false now
      entry := entryAfterFailure settings (s.owner d.event.eventId) s.entry stageDelivery
        workerShutdownFailure now
      current := some (d.replace delivery next) }
  else { s with current := some (d.replace delivery next) }

/-- `_reconcile_exhausted_stage_dispatch_outbox`. -/
def observe (d : RecoveryDispatch) (now : Time) : BudgetState :=
  let item := observeRecoveryStagePublicationOutcome s.item d.outbox
  if d.outbox.status = .failed ∧ (item.retryLimit : Nat) ≤ item.retryableFailuresConsumed ∧
      s.entry.lastEventId = item.dispatchEventId ∧ s.entry.status = .pending then
    { s with
      item := finishItem item .failed (some "outbox_publish_failed") d.outbox.lastErrorText now
      entry := releasedEntry s.entry item.previousStageState d.outbox.lastErrorText now }
  else { s with item := item }

end BudgetState

/-- One transaction. Whether the replay policy lets a dispatch through, and whether a row is due,
is decided elsewhere and left open here. -/
def budgetStep (s : BudgetState) : BudgetLabel → Option BudgetState
  | .dispatchFailed jobStatus work reason error retryable now =>
    if s.item.status ∈ waitingItemStatuses then
      some { s with
        item := recordDispatchFailure s.item jobStatus work reason error retryable now
        failures := { s.failures with
          dispatch := if retryable then s.failures.dispatch + 1 else s.failures.dispatch } }
    else none
  | .dispatch admin event now =>
    if s.item.status ∈ waitingItemStatuses ∧ isReplayReserved s.entry = false ∧
        event.attempt = nextAttempt s.entry then
      some { s with
        item :=
          if admin then adminReplayItem s.item s.entry event.eventId now
          else attachRecoveryItem s.item event.eventId event.attempt now
        entry := reserveReplay s.entry event.eventId event.attempt
        current := some (.fresh event) }
    else none
  | .attach reserved now =>
    -- the row a replay reserved carries the attempt of its event
    if s.item.status ∈ waitingItemStatuses ∧ isReplayReserved s.entry = true ∧
        s.entry.lastEventId = some reserved.event.eventId ∧
        reserved.outbox.messageId = reserved.event.eventId ∧
        reserved.event.attempt = max s.entry.attemptCount 1 then
      some { s with
        item := attachRecoveryItem s.item reserved.event.eventId reserved.event.attempt now
        current := some reserved }
    else none
  | .claim relay now =>
    match s.current with
    | none => none
    | some d =>
      if claimSpecificFilter settings [s.item] d.outbox then
        some { s with current := some { d with outbox := claimMessage relay now d.outbox } }
      else none
  | .markPublished now =>
    match s.current with
    | none => none
    | some d =>
      if d.outbox.status = .publishing then
        let updated := Messaging.markPublished now d.outbox
        some { s with
          item := if d.outbox.attemptCount > 1 then s.observed updated else s.item
          current := some { d with
            outbox := updated
            deliveries := { attempt := d.event.attempt } :: d.deliveries } }
      else none
  | .markFailed accepted error now =>
    match s.current with
    | none => none
    | some d =>
      if d.outbox.status = .publishing then
        let updated := Messaging.markFailed settings now error d.outbox
        some { s with
          item := s.observed updated
          current := some { d with
            outbox := updated
            deliveries :=
              if accepted then { attempt := d.event.attempt } :: d.deliveries else d.deliveries }
          failures := { s.failures with publication := s.failures.publication + 1 } }
      else none
  | .leaseLost accepted now =>
    match s.current with
    | none => none
    | some d =>
      if d.outbox.status = .publishing then
        some { s with
          current := some { d with
            outbox := recoverStaleMessage now d.outbox
            deliveries :=
              if accepted then { attempt := d.event.attempt } :: d.deliveries else d.deliveries }
          failures := { s.failures with publication := s.failures.publication + 1 } }
      else none
  | .take delivery now =>
    match s.current with
    | none => none
    | some d =>
      if delivery ∈ d.deliveries ∧ delivery.phase = .queued then
        if alreadyTaken s.entry (d.toStage s.entry delivery) then
          some { s with current := some (d.replace delivery none) }
        else if s.entry.attemptCount ≤ delivery.attempt then
          some { s with
            entry := processingEntry s.entry (d.toStage s.entry delivery) now
            current := some (d.replace delivery (some { delivery with phase := .running })) }
        else none
      else none
  | .fail delivery failure now =>
    match s.current with
    | none => none
    | some d =>
      if delivery ∈ d.deliveries ∧ delivery.phase = .running ∧
          s.entry.attemptCount ≤ delivery.attempt then
        some { s with
          item := s.failedItem (d.toStage s.entry delivery) failure true now
          entry := entryAfterFailure settings (s.owner d.event.eventId) s.entry
            (d.toStage s.entry delivery) failure now
          current := some (d.replace delivery
            (some { delivery with phase := .recorded failure.retryable }))
          failures := { s.failures with
            worker := if failure.retryable then s.failures.worker + 1 else s.failures.worker } }
      else none
  | .settle delivery cancelling reason error now =>
    match s.current, delivery.phase with
    | some d, .recorded retryable =>
      if delivery ∈ d.deliveries then
        some (s.settle settings d delivery retryable cancelling reason error now)
      else none
    | _, _ => none
  | .abandon delivery now =>
    match s.current with
    | none => none
    | some d =>
      if delivery ∈ d.deliveries ∧ delivery.phase ≠ .queued then
        some (s.abandon settings d delivery now)
      else none
  | .succeed delivery now =>
    match s.current with
    | none => none
    | some d =>
      if delivery ∈ d.deliveries ∧ delivery.phase = .running ∧
          s.entry.attemptCount ≤ delivery.attempt then
        some { s with
          entry := succeededEntry s.entry (d.toStage s.entry delivery) now
          current := some (d.replace delivery none) }
      else none
  | .observe now =>
    match s.current with
    | none => none
    | some d => if s.item.status = .dispatched then some (s.observe d now) else none
  | .finish status reason error now =>
    if s.item.status = .dispatched ∧
        status ∈ [RecoveryJobItemStatus.succeeded, .failed, .skippedStale] then
      some { s with item := finishItem s.item status reason error now }
    else none
  | .reclaim event now =>
    if s.entry.status = .processing ∧ s.item.status = .dispatched ∧
        s.item.dispatchEventId = s.entry.lastEventId then
      let failed := reclaimedEntry s.entry now
      if settings.brokerRetryMaxAttempts ≤ s.entry.attemptCount then some { s with entry := failed }
      else if event.attempt = nextAttempt failed then
        some { s with
          item := attachRecoveryItem s.item event.eventId event.attempt now
          entry := reserveReplay failed event.eventId event.attempt
          current := some (.fresh event) }
      else none
    else none
  | .row entry => some { s with entry := entry }

structure BudgetState.Initial (s : BudgetState) : Prop where
  staged : s.item.stage.isSome = true
  status : s.item.status ∈ waitingItemStatuses
  unspent : s.item.retryableFailuresConsumed = 0
  unreplayed : s.item.previousStageState = {}
  unstarted : s.item.attemptBudgetStart = none
  undispatched : s.item.dispatchEventId = none
  current : s.current = none
  failures : s.failures = {}

def BudgetLabel.admits : BudgetLabel → Bool
  | .claim .. | .take .. => true
  | _ => false

structure BudgetRespected (x : Transition BudgetState BudgetLabel) : Prop where
  counted : x.after.item.retryableFailuresConsumed = x.after.failures.total
  grows : x.before.item.retryableFailuresConsumed ≤ x.after.item.retryableFailuresConsumed
  admitted : x.label.admits = true → x.before.failures.total < (x.before.item.retryLimit : Nat)

def untried (d : RecoveryDispatch) : Bool :=
  match d.outbox.status with
  | .pending | .failed => d.outbox.attemptCount == 0 && d.deliveries.isEmpty
  | .publishing => d.outbox.attemptCount == 1 && d.deliveries.isEmpty
  | .published => d.outbox.attemptCount == 1 && d.deliveries == [{ attempt := d.event.attempt }]

def KeepsBudget (x : Transition BudgetState BudgetLabel) : Prop :=
  match x.label with
  | .attach reserved _ => untried reserved = true
  | .markFailed accepted _ _ => accepted = false
  | .leaseLost .. => False
  | .fail _ failure _ => failure.retryable = true → x.before.failures.dispatch = 0
  | .abandon delivery _ => delivery.phase = .running ∨ x.before.current.all fun d =>
    abandonDisposition settings x.before.entry (d.toStage x.before.entry delivery) ≠ .requeue
  | .reclaim .. => settings.brokerRetryMaxAttempts ≤ x.before.entry.attemptCount
  | _ => True

instance : (x : Transition BudgetState BudgetLabel) → Decidable (KeepsBudget settings x)
  | ⟨_, .attach reserved _, _⟩ => inferInstanceAs (Decidable (untried reserved = true))
  | ⟨_, .markFailed accepted _ _, _⟩ => inferInstanceAs (Decidable (accepted = false))
  | ⟨_, .leaseLost _ _, _⟩ => isFalse id
  | ⟨s, .fail _ failure _, _⟩ =>
    inferInstanceAs (Decidable (failure.retryable = true → s.failures.dispatch = 0))
  | ⟨s, .abandon delivery _, _⟩ => inferInstanceAs (Decidable (delivery.phase = .running ∨
      (s.current.all fun d =>
        abandonDisposition settings s.entry (d.toStage s.entry delivery) ≠ .requeue) = true))
  | ⟨s, .reclaim _ _, _⟩ =>
    inferInstanceAs (Decidable (settings.brokerRetryMaxAttempts ≤ s.entry.attemptCount))
  | ⟨_, .dispatchFailed .., _⟩ | ⟨_, .dispatch .., _⟩ | ⟨_, .claim .., _⟩
  | ⟨_, .markPublished .., _⟩ | ⟨_, .take .., _⟩ | ⟨_, .settle .., _⟩ | ⟨_, .succeed .., _⟩
  | ⟨_, .observe .., _⟩ | ⟨_, .finish .., _⟩ | ⟨_, .row .., _⟩ => isTrue trivial

end Machine

def DeliveryFits (failures : FailureCounts) (limit start : Nat) (delivery : WorkerDelivery) : Prop :=
  match delivery.phase with
  | .queued | .running => delivery.attempt = start + failures.worker ∧ failures.total < limit
  | .recorded true =>
    delivery.attempt + 1 = start + failures.worker ∧ 0 < failures.worker ∧ failures.dispatch = 0
  | .recorded false => True

def OutboxFits (failures : FailureCounts) (limit : Nat) (d : RecoveryDispatch) : Prop :=
  match d.outbox.status with
  | .pending | .failed =>
    d.outbox.attemptCount = failures.publication ∧ failures.worker = 0 ∧ d.deliveries = []
  | .publishing =>
    d.outbox.attemptCount = failures.publication + 1 ∧ failures.worker = 0 ∧ d.deliveries = [] ∧
      failures.total < limit
  | .published =>
    d.outbox.attemptCount = failures.publication + 1 ∧ (d.deliveries = [] ∨
      ∃ delivery, d.deliveries = [delivery] ∧ DeliveryFits failures limit d.event.attempt delivery)

structure Budgeted (s : BudgetState) : Prop where
  staged : s.item.stage.isSome = true
  stageOnly : s.item.previousStageState.nonStageBudgetConsumedAtDispatch = none
  publication : recoveryStagePublicationFailures s.item = s.failures.publication
  consumed : s.item.retryableFailuresConsumed = s.failures.total
  waiting : s.item.status ∈ waitingItemStatuses →
    s.current = none ∧ s.failures.total < (s.item.retryLimit : Nat)
  idle : s.current = none → s.item.dispatchEventId = none ∧ s.item.attemptBudgetStart = none ∧
    s.failures.publication = 0 ∧ s.failures.worker = 0
  busy : ∀ d, s.current = some d → s.item.dispatchEventId = some d.event.eventId ∧
    d.outbox.messageId = d.event.eventId ∧ s.item.attemptBudgetStart = some d.event.attempt ∧
    OutboxFits s.failures s.item.retryLimit d

structure KeepsColumns (a b : RecoveryJobItem) : Prop where
  stage : b.stage = a.stage
  stageOnly : b.previousStageState.nonStageBudgetConsumedAtDispatch =
    a.previousStageState.nonStageBudgetConsumedAtDispatch
  publication : recoveryStagePublicationFailures b = recoveryStagePublicationFailures a
  retryLimit : b.retryLimit = a.retryLimit
  attemptBudgetStart : b.attemptBudgetStart = a.attemptBudgetStart
  dispatchEventId : b.dispatchEventId = a.dispatchEventId
  retryableFailuresConsumed : b.retryableFailuresConsumed = a.retryableFailuresConsumed
  waiting : b.status ∈ waitingItemStatuses → a.status ∈ waitingItemStatuses

section Invariant

variable {settings : PipelineSettings} {s t : BudgetState} {d : RecoveryDispatch}
  {delivery : WorkerDelivery} {failures : FailureCounts} {limit : Nat} {item : RecoveryJobItem}

theorem Budgeted.of_initial (h : s.Initial) : Budgeted s := by
  obtain ⟨hstaged, hstatus, hunspent, hstate, hstart, hevent, hcurrent, hfailures⟩ := h
  refine ⟨hstaged, ?_, ?_, ?_, ?_, ?_, ?_⟩
  · rw [hstate]
  · simp [recoveryStagePublicationFailures, hstate, hfailures]
  · simp [hunspent, hfailures, FailureCounts.total]
  · intro _
    have hpos := s.item.retryLimit.pos
    refine ⟨hcurrent, ?_⟩
    simp only [hfailures, FailureCounts.total]
    omega
  · intro _
    exact ⟨hevent, hstart, by simp [hfailures], by simp [hfailures]⟩
  · intro d hd
    rw [hcurrent] at hd
    cases hd

theorem KeepsColumns.refl (a : RecoveryJobItem) : KeepsColumns a a :=
  ⟨rfl, rfl, rfl, rfl, rfl, rfl, rfl, id⟩

variable {a : RecoveryJobItem}

theorem KeepsColumns.trans {b c : RecoveryJobItem} (hab : KeepsColumns a b)
    (hbc : KeepsColumns b c) : KeepsColumns a c :=
  ⟨hbc.stage.trans hab.stage, hbc.stageOnly.trans hab.stageOnly,
    hbc.publication.trans hab.publication, hbc.retryLimit.trans hab.retryLimit,
    hbc.attemptBudgetStart.trans hab.attemptBudgetStart,
    hbc.dispatchEventId.trans hab.dispatchEventId,
    hbc.retryableFailuresConsumed.trans hab.retryableFailuresConsumed,
    fun hwaiting => hab.waiting (hbc.waiting hwaiting)⟩

theorem KeepsColumns.finishItem (a : RecoveryJobItem) {status : RecoveryJobItemStatus}
    (hterminal : status ∉ waitingItemStatuses) (reason error : Option String) (now : Time) :
    KeepsColumns a (finishItem a status reason error now) :=
  ⟨rfl, rfl, rfl, rfl, rfl, rfl, rfl, fun hwaiting => absurd hwaiting hterminal⟩

theorem OutboxFits.of_mem (h : OutboxFits failures limit d) (hmem : delivery ∈ d.deliveries) :
    d.outbox.status = .published ∧ d.outbox.attemptCount = failures.publication + 1 ∧
      d.deliveries = [delivery] ∧ DeliveryFits failures limit d.event.attempt delivery := by
  unfold OutboxFits at h
  split at h
  · rw [h.2.2] at hmem
    cases hmem
  · rw [h.2.2] at hmem
    cases hmem
  · rw [h.2.2.1] at hmem
    cases hmem
  next hstatus =>
  obtain ⟨hcount, hnone | ⟨only, honly, hfits⟩⟩ := h
  · rw [hnone] at hmem
    cases hmem
  rw [honly, List.mem_singleton] at hmem
  subst hmem
  exact ⟨hstatus, hcount, honly, hfits⟩

theorem OutboxFits.replace (h : OutboxFits failures limit d) (hmem : delivery ∈ d.deliveries)
    {failures' : FailureCounts} (hpublication : failures'.publication = failures.publication)
    {next : Option WorkerDelivery}
    (hnext : ∀ copy, next = some copy → DeliveryFits failures' limit d.event.attempt copy) :
    OutboxFits failures' limit (d.replace delivery next) := by
  obtain ⟨hstatus, hcount, honly, -⟩ := h.of_mem hmem
  have hdeliveries : (d.replace delivery next).deliveries = next.toList := by
    simp [RecoveryDispatch.replace, honly]
  have hsame : (d.replace delivery next).outbox = d.outbox := rfl
  unfold OutboxFits
  rw [hsame, hstatus, hpublication]
  refine ⟨hcount, ?_⟩
  rw [hdeliveries]
  cases next with
  | none => exact .inl rfl
  | some copy => exact .inr ⟨copy, rfl, hnext copy rfl⟩

theorem Budgeted.rewrite (h : Budgeted s) (hitem : KeepsColumns s.item item)
    (entry : PipelineStageJournal) {current : Option RecoveryDispatch}
    (hnone : current = none ↔ s.current = none)
    (hcurrent : ∀ d', current = some d' → ∃ d, s.current = some d ∧ d'.event = d.event ∧
      d'.outbox.messageId = d.outbox.messageId ∧
      (OutboxFits s.failures s.item.retryLimit d → OutboxFits s.failures s.item.retryLimit d')) :
    Budgeted { s with item := item, entry := entry, current := current } := by
  refine ⟨?_, ?_, ?_, ?_, ?_, ?_, ?_⟩
  · rw [hitem.stage]
    exact h.staged
  · rw [hitem.stageOnly]
    exact h.stageOnly
  · rw [hitem.publication]
    exact h.publication
  · rw [hitem.retryableFailuresConsumed]
    exact h.consumed
  · intro hwaiting
    rw [hnone, hitem.retryLimit]
    exact h.waiting (hitem.waiting hwaiting)
  · intro hidle
    rw [hitem.dispatchEventId, hitem.attemptBudgetStart]
    exact h.idle (hnone.mp hidle)
  intro d' hd'
  obtain ⟨d, hd, hevent, hmessage, hfits⟩ := hcurrent d' hd'
  obtain ⟨hdispatch, hmessageId, hstart, houtbox⟩ := h.busy d hd
  rw [hitem.dispatchEventId, hitem.attemptBudgetStart, hitem.retryLimit, hevent, hmessage]
  exact ⟨hdispatch, hmessageId, hstart, hfits houtbox⟩

theorem Budgeted.rewrite_item (h : Budgeted s) (hitem : KeepsColumns s.item item)
    (entry : PipelineStageJournal) : Budgeted { s with item := item, entry := entry } :=
  h.rewrite hitem entry Iff.rfl fun d hd => ⟨d, hd, rfl, rfl, id⟩

theorem Budgeted.rewrite_delivery (h : Budgeted s) (hd : s.current = some d)
    (hmem : delivery ∈ d.deliveries) (hitem : KeepsColumns s.item item)
    (entry : PipelineStageJournal) {next : Option WorkerDelivery}
    (hnext : ∀ copy, next = some copy →
      DeliveryFits s.failures s.item.retryLimit d.event.attempt copy) :
    Budgeted { s with item := item, entry := entry, current := some (d.replace delivery next) } := by
  refine h.rewrite hitem entry ?_ ?_
  · rw [hd]
    simp
  · rintro _ ⟨⟩
    exact ⟨d, hd, rfl, rfl, fun hfits => hfits.replace hmem rfl hnext⟩

theorem Budgeted.fits_of_mem (h : Budgeted s) (hd : s.current = some d)
    (hmem : delivery ∈ d.deliveries) :
    DeliveryFits s.failures s.item.retryLimit d.event.attempt delivery :=
  ((h.busy d hd).2.2.2.of_mem hmem).2.2.2

theorem Budgeted.not_waiting (h : Budgeted s) (hd : s.current = some d) :
    s.item.status ∉ waitingItemStatuses := by
  intro hwaiting
  have hnone := (h.waiting hwaiting).1
  rw [hd] at hnone
  cases hnone

theorem recordDispatchFailure_spec (a : RecoveryJobItem) (jobStatus : RecoveryJobStatus)
    (work : WorkLookup) (reason error : String) (retryable : Bool) (now : Time) :
    let b := recordDispatchFailure a jobStatus work reason error retryable now
    b.stage = a.stage ∧ b.previousStageState = a.previousStageState ∧
      b.retryLimit = a.retryLimit ∧ b.attemptBudgetStart = a.attemptBudgetStart ∧
      (a.dispatchEventId = none → b.dispatchEventId = none) ∧
      b.retryableFailuresConsumed =
        (if retryable then a.retryableFailuresConsumed + 1 else a.retryableFailuresConsumed) ∧
      (b.status ∈ waitingItemStatuses → b.retryableFailuresConsumed < (b.retryLimit : Nat)) := by
  intro b
  have hidle : RecoveryJobItemStatus.failed ∉ waitingItemStatuses ∧
      RecoveryJobItemStatus.skippedStale ∉ waitingItemStatuses := by decide
  by_cases hretry : (retryable && decide ((if retryable then a.retryableFailuresConsumed + 1
      else a.retryableFailuresConsumed) < (a.retryLimit : Nat)) &&
      decide (jobStatus ∈ schedulingJobStatuses)) = true
  · have hlt : (if retryable then a.retryableFailuresConsumed + 1
        else a.retryableFailuresConsumed) < (a.retryLimit : Nat) := by
      simp only [Bool.and_eq_true, decide_eq_true_eq] at hretry
      exact hretry.1.2
    simp only [b, recordDispatchFailure, if_pos hretry]
    cases work with
    | missing cause => exact ⟨rfl, rfl, rfl, rfl, id, rfl, fun hw => absurd hw hidle.2⟩
    | found version => exact ⟨rfl, rfl, rfl, rfl, fun _ => rfl, rfl, fun _ => hlt⟩
  · simp only [b, recordDispatchFailure, if_neg hretry]
    exact ⟨rfl, rfl, rfl, rfl, id, rfl, fun hw => absurd hw hidle.1⟩

theorem Budgeted.dispatchFailed (h : Budgeted s) (hwaiting : s.item.status ∈ waitingItemStatuses)
    (jobStatus : RecoveryJobStatus) (work : WorkLookup) (reason error : String) (retryable : Bool)
    (now : Time) :
    Budgeted { s with
      item := recordDispatchFailure s.item jobStatus work reason error retryable now
      failures := { s.failures with
        dispatch := if retryable then s.failures.dispatch + 1 else s.failures.dispatch } } := by
  obtain ⟨hstage, hstate, hlimit, hstart, hevent, hcount, hopen⟩ :=
    recordDispatchFailure_spec s.item jobStatus work reason error retryable now
  have hcurrent := (h.waiting hwaiting).1
  obtain ⟨hnoEvent, hnoStart, hpublication, hworker⟩ := h.idle hcurrent
  have hcounted : (recordDispatchFailure s.item jobStatus work reason error retryable
      now).retryableFailuresConsumed = FailureCounts.total { s.failures with
        dispatch := if retryable then s.failures.dispatch + 1 else s.failures.dispatch } := by
    have hconsumed := h.consumed
    rw [hcount]
    simp only [FailureCounts.total] at hconsumed ⊢
    split <;> omega
  refine ⟨?_, ?_, ?_, hcounted, ?_, ?_, ?_⟩
  · rw [hstage]
    exact h.staged
  · rw [hstate]
    exact h.stageOnly
  · simp only [recoveryStagePublicationFailures, hstate]
    exact h.publication
  · intro hstill
    rw [← hcounted]
    exact ⟨hcurrent, hopen hstill⟩
  · intro _
    rw [hstart]
    exact ⟨hevent hnoEvent, hnoStart, hpublication, hworker⟩
  intro d hd
  change s.current = some d at hd
  rw [hcurrent] at hd
  cases hd

theorem OutboxFits.of_untried (h : untried d = true) (hpublication : failures.publication = 0)
    (hworker : failures.worker = 0) (hopen : failures.total < limit) :
    OutboxFits failures limit d := by
  unfold untried at h
  unfold OutboxFits
  split at h <;> simp only [Bool.and_eq_true, beq_iff_eq, List.isEmpty_iff] at h <;>
    obtain ⟨hcount, hcopies⟩ := h
  · exact ⟨hcount.trans hpublication.symm, hworker, hcopies⟩
  · exact ⟨hcount.trans hpublication.symm, hworker, hcopies⟩
  · exact ⟨by omega, hworker, hcopies, hopen⟩
  · refine ⟨by omega, .inr ⟨_, hcopies, ?_⟩⟩
    exact ⟨by simp [hworker], hopen⟩

theorem Budgeted.dispatched (h : Budgeted s) (hwaiting : s.item.status ∈ waitingItemStatuses)
    (hd : untried d = true) (hmessage : d.outbox.messageId = d.event.eventId)
    (entry : PipelineStageJournal) (hstage : item.stage = s.item.stage)
    (hstageOnly : item.previousStageState.nonStageBudgetConsumedAtDispatch = none)
    (hpublication : recoveryStagePublicationFailures item = 0)
    (hlimit : item.retryLimit = s.item.retryLimit)
    (hconsumed : item.retryableFailuresConsumed = s.item.retryableFailuresConsumed)
    (hstatus : item.status = .dispatched) (hevent : item.dispatchEventId = some d.event.eventId)
    (hstart : item.attemptBudgetStart = some d.event.attempt) :
    Budgeted { s with item := item, entry := entry, current := some d } := by
  obtain ⟨hcurrent, hopen⟩ := h.waiting hwaiting
  obtain ⟨-, -, hnoPublication, hnoWorker⟩ := h.idle hcurrent
  refine ⟨?_, hstageOnly, ?_, ?_, ?_, ?_, ?_⟩
  · rw [hstage]
    exact h.staged
  · exact hpublication.trans hnoPublication.symm
  · exact hconsumed.trans h.consumed
  · intro hstill
    rw [hstatus] at hstill
    exact absurd hstill (by decide)
  · intro hnone
    cases hnone
  · rintro _ ⟨⟩
    rw [hlimit]
    exact ⟨hevent, hmessage, hstart, .of_untried hd hnoPublication hnoWorker hopen⟩

theorem untried_fresh (event : ContentPipelineDispatchEvent) : untried (.fresh event) = true := rfl

theorem Budgeted.lt_of_claim (h : Budgeted s) (hd : s.current = some d)
    (hclaim : claimSpecificFilter settings [s.item] d.outbox = true) :
    d.outbox.attemptCount = s.failures.publication ∧ s.failures.worker = 0 ∧ d.deliveries = [] ∧
      s.failures.total < (s.item.retryLimit : Nat) := by
  obtain ⟨hevent, hmessage, hstart, hfits⟩ := h.busy d hd
  have hceiling : recoveryAttemptCeiling [s.item] d.outbox =
      some (itemAttemptCeiling s.item d.event.attempt) := by
    simp [recoveryAttemptCeiling, newestItem, Queries.firstBy, Queries.prefer, hevent, hmessage,
      hstart]
  have hlt := attemptCount_lt_ceiling hceiling hclaim
  have hidle : d.outbox.attemptCount = s.failures.publication ∧ s.failures.worker = 0 ∧
      d.deliveries = [] := by
    unfold OutboxFits at hfits
    rcases status_of_claimSpecificFilter hclaim with hstatus | hstatus <;>
      simpa only [hstatus] using hfits
  refine ⟨hidle.1, hidle.2.1, hidle.2.2, ?_⟩
  have hconsumed := h.consumed
  have hpublication := h.publication
  simp only [recoveryStagePublicationFailures] at hpublication
  simp only [itemAttemptCeiling, h.stageOnly, hpublication] at hlt
  simp only [FailureCounts.total] at hconsumed ⊢
  omega

theorem Budgeted.claim (h : Budgeted s) (hd : s.current = some d)
    (hclaim : claimSpecificFilter settings [s.item] d.outbox = true) (relay : String) (now : Time) :
    Budgeted { s with current := some { d with outbox := claimMessage relay now d.outbox } } := by
  obtain ⟨hcount, hworker, hcopies, hlt⟩ := h.lt_of_claim hd hclaim
  refine h.rewrite (.refl s.item) s.entry ?_ ?_
  · rw [hd]
    simp
  rintro _ ⟨⟩
  refine ⟨d, hd, rfl, rfl, fun _ => ⟨?_, hworker, hcopies, hlt⟩⟩
  simp [claimMessage, hcount]

theorem mergePublicationFailures_spec {observedFailures : Nat}
    (hle : recoveryStagePublicationFailures a ≤ a.retryableFailuresConsumed)
    (hobserved : recoveryStagePublicationFailures a ≤ observedFailures) :
    recoveryStagePublicationFailures (mergePublicationFailures a observedFailures) =
        observedFailures ∧
      (mergePublicationFailures a observedFailures).retryableFailuresConsumed =
        a.retryableFailuresConsumed + (observedFailures - recoveryStagePublicationFailures a) := by
  constructor
  · change max (recoveryStagePublicationFailures a) observedFailures = observedFailures
    exact Nat.max_eq_right hobserved
  · simp only [mergePublicationFailures]
    omega

theorem keepsColumns_merge
    (hle : recoveryStagePublicationFailures a ≤ a.retryableFailuresConsumed) :
    KeepsColumns a (mergePublicationFailures a (recoveryStagePublicationFailures a)) := by
  obtain ⟨hpublication, hconsumed⟩ := mergePublicationFailures_spec hle (Nat.le_refl _)
  exact ⟨rfl, rfl, hpublication, rfl, rfl, rfl, by omega, id⟩

theorem Budgeted.publication_le (h : Budgeted s) :
    recoveryStagePublicationFailures s.item ≤ s.item.retryableFailuresConsumed := by
  have hpublication := h.publication
  have hconsumed := h.consumed
  simp only [FailureCounts.total] at hconsumed
  omega

theorem Budgeted.publishing (h : Budgeted s) (hd : s.current = some d)
    (hstatus : d.outbox.status = .publishing) :
    d.outbox.attemptCount = s.failures.publication + 1 ∧ s.failures.worker = 0 ∧
      d.deliveries = [] ∧ s.failures.total < (s.item.retryLimit : Nat) := by
  have hfits := (h.busy d hd).2.2.2
  unfold OutboxFits at hfits
  simpa only [hstatus] using hfits

theorem keepsColumns_observe_published (h : Budgeted s) {outbox : RabbitMQOutboxMessage}
    (hstatus : outbox.status = .published)
    (hcount : outbox.attemptCount = s.failures.publication + 1) :
    KeepsColumns s.item (observeRecoveryStagePublicationOutcome s.item outbox) := by
  have hsame : outbox.attemptCount - 1 = recoveryStagePublicationFailures s.item := by
    rw [h.publication]
    omega
  have hstage := h.staged
  rw [← Option.not_isNone, Bool.not_eq_true'] at hstage
  simp only [observeRecoveryStagePublicationOutcome, hstage, Bool.false_eq_true, if_false, hstatus,
    hsame]
  exact keepsColumns_merge h.publication_le

theorem Budgeted.markPublished (h : Budgeted s) (hd : s.current = some d)
    (hstatus : d.outbox.status = .publishing) (now : Time) :
    Budgeted { s with
      item :=
        if d.outbox.attemptCount > 1 then s.observed (Messaging.markPublished now d.outbox)
        else s.item
      current := some { d with
        outbox := Messaging.markPublished now d.outbox
        deliveries := { attempt := d.event.attempt } :: d.deliveries } } := by
  obtain ⟨hcount, hworker, hcopies, hlt⟩ := h.publishing hd hstatus
  have hitem : KeepsColumns s.item
      (if d.outbox.attemptCount > 1 then s.observed (Messaging.markPublished now d.outbox)
        else s.item) := by
    split
    · unfold BudgetState.observed
      split
      · exact keepsColumns_observe_published h rfl hcount
      · exact .refl s.item
    · exact .refl s.item
  refine h.rewrite hitem s.entry ?_ ?_
  · rw [hd]
    simp
  rintro _ ⟨⟩
  refine ⟨d, hd, rfl, rfl, fun _ => ⟨hcount, .inr ⟨{ attempt := d.event.attempt }, ?_, ?_⟩⟩⟩
  · rw [hcopies]
  · exact ⟨by simp [hworker], hlt⟩

theorem Budgeted.markFailed (h : Budgeted s) (hd : s.current = some d)
    (hstatus : d.outbox.status = .publishing) (error : String) (now : Time) :
    Budgeted { s with
      item := s.observed (Messaging.markFailed settings now error d.outbox)
      current := some { d with outbox := Messaging.markFailed settings now error d.outbox }
      failures := { s.failures with publication := s.failures.publication + 1 } } := by
  obtain ⟨hcount, hworker, hcopies, hlt⟩ := h.publishing hd hstatus
  obtain ⟨hevent, hmessage, hstart, -⟩ := h.busy d hd
  have hstage := h.staged
  rw [← Option.not_isNone, Bool.not_eq_true'] at hstage
  have hobserved : s.observed (Messaging.markFailed settings now error d.outbox) =
      mergePublicationFailures s.item (s.failures.publication + 1) := by
    unfold BudgetState.observed
    rw [if_pos (by rw [hevent]; exact congrArg some hmessage.symm), ← hcount]
    simp [observeRecoveryStagePublicationOutcome, hstage, Messaging.markFailed]
  have hnext : recoveryStagePublicationFailures s.item ≤ s.failures.publication + 1 := by
    rw [h.publication]
    exact Nat.le_succ _
  obtain ⟨hpublication, hconsumed⟩ := mergePublicationFailures_spec h.publication_le hnext
  rw [hobserved]
  refine ⟨h.staged, h.stageOnly, hpublication, ?_, ?_, ?_, ?_⟩
  · have hbefore := h.consumed
    have hknown := h.publication
    simp only [FailureCounts.total] at hbefore ⊢
    omega
  · intro hwaiting
    exact absurd hwaiting (h.not_waiting hd)
  · intro hnone
    cases hnone
  · rintro _ ⟨⟩
    exact ⟨hevent, hmessage, hstart, hcount, hworker, hcopies⟩

theorem failed_not_waiting : RecoveryJobItemStatus.failed ∉ waitingItemStatuses := by decide

theorem failedRecoveryItem_keeps (a : RecoveryJobItem) (delivery : StageDelivery)
    (failure : StageFailure) (consumesBudget : Bool) (now : Time) :
    KeepsColumns
      (if failure.retryable && consumesBudget then consumeRetryBudget a delivery.attempt else a)
      (failedRecoveryItem a delivery failure consumesBudget now) := by
  unfold failedRecoveryItem
  generalize (if failure.retryable && consumesBudget then consumeRetryBudget a delivery.attempt
    else a) = counted
  simp only
  split
  · exact ⟨rfl, rfl, rfl, rfl, rfl, rfl, rfl, fun hwaiting => absurd hwaiting failed_not_waiting⟩
  · exact .refl counted

theorem failedItem_keeps (s : BudgetState) (delivery : StageDelivery) (failure : StageFailure)
    {consumesBudget : Bool} (hidle : (failure.retryable && consumesBudget) = false) (now : Time) :
    KeepsColumns s.item (s.failedItem delivery failure consumesBudget now) := by
  unfold BudgetState.failedItem
  split
  · have hkeeps := failedRecoveryItem_keeps s.item delivery failure consumesBudget now
    rw [hidle] at hkeeps
    exact hkeeps
  · exact .refl s.item

theorem Budgeted.attemptCeiling (h : Budgeted s) (hd : s.current = some d)
    (hitem : KeepsColumns s.item item) :
    BudgetState.attemptCeiling settings { s with item := item } d.event.eventId =
      d.event.attempt + max ((s.item.retryLimit : Nat) - s.failures.publication) 1 - 1 := by
  obtain ⟨hevent, -, hstart, -⟩ := h.busy d hd
  simp [BudgetState.attemptCeiling, BudgetState.owner, recoveryStageWorkerAttemptCeiling,
    hitem.dispatchEventId, hevent, hitem.attemptBudgetStart, hstart, hitem.publication,
    h.publication, hitem.retryLimit]

section Recorded

variable (h : Budgeted s) (hd : s.current = some d) (hmem : delivery ∈ d.deliveries)

include h hd hmem

theorem Budgeted.queued_of_ceiling (hphase : delivery.phase = .recorded true)
    (hlt : delivery.attempt <
      d.event.attempt + max ((s.item.retryLimit : Nat) - s.failures.publication) 1 - 1) :
    DeliveryFits s.failures s.item.retryLimit d.event.attempt
      { attempt := delivery.attempt + 1 } := by
  have hfits := h.fits_of_mem hd hmem
  simp only [DeliveryFits, hphase] at hfits
  obtain ⟨hattempt, hpos, hdispatch⟩ := hfits
  refine ⟨hattempt, ?_⟩
  simp only [FailureCounts.total]
  omega

theorem Budgeted.settle {retryable : Bool}
    (hphase : delivery.phase = .recorded retryable) (cancelling : Bool) (reason error : String)
    (now : Time) :
    Budgeted (s.settle settings d delivery retryable cancelling reason error now) := by
  have hitem : KeepsColumns s.item
      (if cancelling ∧ s.item.status = .dispatched then
        finishItem s.item .failed (some reason) (some error) now else s.item) := by
    split
    · exact .finishItem s.item (by decide) ..
    · exact .refl s.item
  unfold BudgetState.settle
  generalize (if cancelling ∧ s.item.status = .dispatched then
    finishItem s.item .failed (some reason) (some error) now else s.item) = item at hitem ⊢
  simp only
  split
  · exact h.rewrite_delivery hd hmem hitem s.entry fun _ hnone => by cases hnone
  split
  · next hretry =>
    refine h.rewrite_delivery hd hmem hitem s.entry ?_
    rintro _ ⟨⟩
    rw [h.attemptCeiling hd hitem] at hretry
    obtain ⟨rfl, hlt⟩ := hretry
    exact h.queued_of_ceiling hd hmem hphase hlt
  · exact h.rewrite_delivery hd hmem hitem s.entry fun _ hnone => by cases hnone

theorem Budgeted.abandon
    (hkeeps : delivery.phase = .running ∨
      abandonDisposition settings s.entry (d.toStage s.entry delivery) ≠ .requeue)
    (now : Time) : Budgeted (s.abandon settings d delivery now) := by
  have hnext : ∀ copy, (if abandonDisposition settings s.entry (d.toStage s.entry delivery) =
        .requeue then some { delivery with phase := .queued } else none) = some copy →
      DeliveryFits s.failures s.item.retryLimit d.event.attempt copy := by
    intro copy hcopy
    obtain ⟨hrequeue, hsame⟩ := Option.ite_none_right_eq_some.mp hcopy
    cases hsame
    rcases hkeeps with hrunning | hkept
    · have hfits := h.fits_of_mem hd hmem
      simp only [DeliveryFits, hrunning] at hfits
      exact hfits
    · exact absurd hrequeue hkept
  unfold BudgetState.abandon
  simp only
  split
  · exact h.rewrite_delivery hd hmem (failedItem_keeps s _ _ rfl now) _ hnext
  · exact h.rewrite_delivery hd hmem (.refl s.item) s.entry hnext

end Recorded

theorem consumeRetryBudget_spec {start attempt worker : Nat}
    (hstart : a.attemptBudgetStart = some start) (hpos : 1 ≤ start)
    (hattempt : attempt = start + worker)
    (hconsumed : a.retryableFailuresConsumed = recoveryStagePublicationFailures a + worker) :
    (consumeRetryBudget a attempt).attemptBudgetStart = some start ∧
      (consumeRetryBudget a attempt).retryableFailuresConsumed =
        a.retryableFailuresConsumed + 1 := by
  have hkept : (a.attemptBudgetStart.filter (· ≠ 0)).getD attempt = start := by
    simp [hstart, Option.filter, Nat.ne_of_gt hpos]
  constructor
  · simp only [consumeRetryBudget, hkept]
  · simp only [consumeRetryBudget, hkept]
    omega

theorem Budgeted.fail (h : Budgeted s) (hd : s.current = some d)
    (hmem : delivery ∈ d.deliveries) (hphase : delivery.phase = .running) (failure : StageFailure)
    (hkeeps : failure.retryable = true → s.failures.dispatch = 0) (entry : PipelineStageJournal)
    (now : Time) :
    Budgeted { s with
      item := s.failedItem (d.toStage s.entry delivery) failure true now
      entry := entry
      current := some (d.replace delivery
        (some { delivery with phase := .recorded failure.retryable }))
      failures := { s.failures with
        worker := if failure.retryable then s.failures.worker + 1 else s.failures.worker } } := by
  obtain ⟨hevent, hmessage, hstart, hfits⟩ := h.busy d hd
  cases hretry : failure.retryable with
  | false =>
    refine h.rewrite_delivery hd hmem (failedItem_keeps s _ failure (by simp [hretry]) now) entry ?_
    rintro _ ⟨⟩
    trivial
  | true =>
    have hrun := h.fits_of_mem hd hmem
    simp only [DeliveryFits, hphase] at hrun
    have hnone := hkeeps hretry
    have hconsumed := h.consumed
    simp only [FailureCounts.total, hnone, ← h.publication, Nat.zero_add] at hconsumed
    obtain ⟨hsameStart, hcharged⟩ :=
      consumeRetryBudget_spec hstart d.event.attempt_pos hrun.1 hconsumed
    have hitem : KeepsColumns (consumeRetryBudget s.item delivery.attempt)
        (s.failedItem (d.toStage s.entry delivery) failure true now) := by
      have hcolumns := failedRecoveryItem_keeps s.item (d.toStage s.entry delivery) failure true now
      rw [hretry] at hcolumns
      have hown : s.item.dispatchEventId = some (d.toStage s.entry delivery).eventId := hevent
      unfold BudgetState.failedItem
      rw [if_pos hown]
      exact hcolumns
    refine ⟨?_, ?_, ?_, ?_, ?_, ?_, ?_⟩
    · rw [hitem.stage]
      exact h.staged
    · rw [hitem.stageOnly]
      exact h.stageOnly
    · rw [hitem.publication]
      exact h.publication
    · rw [hitem.retryableFailuresConsumed, hcharged, h.consumed]
      rfl
    · intro hwaiting
      exact absurd (hitem.waiting hwaiting) (h.not_waiting hd)
    · intro hidle
      cases hidle
    rintro _ ⟨⟩
    rw [hitem.dispatchEventId, hitem.attemptBudgetStart, hsameStart, hitem.retryLimit]
    refine ⟨hevent, hmessage, rfl, ?_⟩
    have hpublication : (FailureCounts.mk s.failures.dispatch s.failures.publication
        (s.failures.worker + 1)).publication = s.failures.publication := rfl
    refine hfits.replace hmem hpublication ?_
    rintro _ ⟨⟩
    refine ⟨?_, Nat.succ_pos _, hnone⟩
    simp [hrun.1, Nat.add_assoc]

theorem keepsColumns_observe (h : Budgeted s) (hd : s.current = some d) :
    KeepsColumns s.item (observeRecoveryStagePublicationOutcome s.item d.outbox) := by
  have hfits := (h.busy d hd).2.2.2
  have hstage := h.staged
  rw [← Option.not_isNone, Bool.not_eq_true'] at hstage
  unfold OutboxFits at hfits
  cases hstatus : d.outbox.status with
  | pending =>
    simp only [observeRecoveryStagePublicationOutcome, hstage, Bool.false_eq_true, if_false, hstatus]
    exact .refl s.item
  | publishing =>
    simp only [observeRecoveryStagePublicationOutcome, hstage, Bool.false_eq_true, if_false, hstatus]
    exact .refl s.item
  | published =>
    simp only [hstatus] at hfits
    exact keepsColumns_observe_published h hstatus hfits.1
  | failed =>
    simp only [hstatus] at hfits
    simp only [observeRecoveryStagePublicationOutcome, hstage, Bool.false_eq_true, if_false, hstatus,
      hfits.1, ← h.publication]
    exact keepsColumns_merge h.publication_le

theorem Budgeted.observe (h : Budgeted s) (hd : s.current = some d) (now : Time) :
    Budgeted (s.observe d now) := by
  have hitem := keepsColumns_observe h hd
  unfold BudgetState.observe
  simp only
  split
  · exact h.rewrite_item (hitem.trans (.finishItem _ (by decide) ..)) _
  · exact h.rewrite_item hitem s.entry

variable {label : BudgetLabel}

theorem Budgeted.step (h : Budgeted s)
    (hstep : budgetStep settings s label = some t) (hkeeps : KeepsBudget settings ⟨s, label, t⟩) :
    Budgeted t := by
  cases label with
  | dispatchFailed jobStatus work reason error retryable now =>
    obtain ⟨hwaiting, hsame⟩ := Option.ite_none_right_eq_some.mp hstep
    cases hsame
    exact h.dispatchFailed hwaiting ..
  | dispatch admin event now =>
    obtain ⟨⟨hwaiting, -, hattempt⟩, hsame⟩ := Option.ite_none_right_eq_some.mp hstep
    cases hsame
    have hstart := (h.idle (h.waiting hwaiting).1).2.1
    have hpublication := (h.idle (h.waiting hwaiting).1).2.2.1
    cases admin with
    | true =>
      refine h.dispatched hwaiting (untried_fresh event) rfl _ rfl rfl rfl rfl rfl rfl rfl ?_
      simp [adminReplayItem, attachRecoveryItem, hstart, hattempt, RecoveryDispatch.fresh]
    | false =>
      refine h.dispatched hwaiting (untried_fresh event) rfl _ rfl h.stageOnly
        (h.publication.trans hpublication) rfl rfl rfl rfl ?_
      simp [attachRecoveryItem, hstart, RecoveryDispatch.fresh]
  | attach reserved now =>
    obtain ⟨⟨hwaiting, -, -, hmessage, -⟩, hsame⟩ := Option.ite_none_right_eq_some.mp hstep
    cases hsame
    have hstart := (h.idle (h.waiting hwaiting).1).2.1
    have hpublication := (h.idle (h.waiting hwaiting).1).2.2.1
    refine h.dispatched hwaiting hkeeps hmessage s.entry rfl h.stageOnly
      (h.publication.trans hpublication) rfl rfl rfl rfl ?_
    simp [attachRecoveryItem, hstart]
  | claim relay now =>
    simp only [budgetStep] at hstep
    split at hstep
    · cases hstep
    next d hd =>
    obtain ⟨hclaim, hsame⟩ := Option.ite_none_right_eq_some.mp hstep
    cases hsame
    exact h.claim hd hclaim relay now
  | markPublished now =>
    simp only [budgetStep] at hstep
    split at hstep
    · cases hstep
    next d hd =>
    obtain ⟨hstatus, hsame⟩ := Option.ite_none_right_eq_some.mp hstep
    cases hsame
    exact h.markPublished hd hstatus now
  | markFailed accepted error now =>
    obtain rfl : accepted = false := hkeeps
    simp only [budgetStep] at hstep
    split at hstep
    · cases hstep
    next d hd =>
    obtain ⟨hstatus, hsame⟩ := Option.ite_none_right_eq_some.mp hstep
    cases hsame
    exact h.markFailed hd hstatus error now
  | leaseLost accepted now => exact hkeeps.elim
  | take delivery now =>
    simp only [budgetStep] at hstep
    split at hstep
    · cases hstep
    next d hd =>
    obtain ⟨⟨hmem, hphase⟩, htaken⟩ := Option.ite_none_right_eq_some.mp hstep
    have hfits := h.fits_of_mem hd hmem
    simp only [DeliveryFits, hphase] at hfits
    split at htaken
    · cases htaken
      exact h.rewrite_delivery hd hmem (.refl s.item) s.entry fun _ hnone => by cases hnone
    obtain ⟨-, hsame⟩ := Option.ite_none_right_eq_some.mp htaken
    cases hsame
    refine h.rewrite_delivery hd hmem (.refl s.item) _ ?_
    rintro _ ⟨⟩
    exact hfits
  | fail delivery failure now =>
    simp only [budgetStep] at hstep
    split at hstep
    · cases hstep
    next d hd =>
    obtain ⟨⟨hmem, hphase, -⟩, hsame⟩ := Option.ite_none_right_eq_some.mp hstep
    cases hsame
    exact h.fail hd hmem hphase failure hkeeps _ now
  | settle delivery cancelling reason error now =>
    simp only [budgetStep] at hstep
    split at hstep
    · next d retryable hd hphase =>
      obtain ⟨hmem, hsame⟩ := Option.ite_none_right_eq_some.mp hstep
      cases hsame
      exact h.settle hd hmem hphase ..
    · cases hstep
  | abandon delivery now =>
    simp only [budgetStep] at hstep
    split at hstep
    · cases hstep
    next d hd =>
    obtain ⟨⟨hmem, -⟩, hsame⟩ := Option.ite_none_right_eq_some.mp hstep
    cases hsame
    refine h.abandon hd hmem ?_ now
    simpa [KeepsBudget, hd] using hkeeps
  | succeed delivery now =>
    simp only [budgetStep] at hstep
    split at hstep
    · cases hstep
    next d hd =>
    obtain ⟨⟨hmem, -⟩, hsame⟩ := Option.ite_none_right_eq_some.mp hstep
    cases hsame
    exact h.rewrite_delivery hd hmem (.refl s.item) _ fun _ hnone => by cases hnone
  | observe now =>
    simp only [budgetStep] at hstep
    split at hstep
    · cases hstep
    next d hd =>
    obtain ⟨-, hsame⟩ := Option.ite_none_right_eq_some.mp hstep
    cases hsame
    exact h.observe hd now
  | finish status reason error now =>
    obtain ⟨⟨-, hverdict⟩, hsame⟩ := Option.ite_none_right_eq_some.mp hstep
    cases hsame
    have hterminal : status ∉ waitingItemStatuses := by
      revert hverdict
      cases status <;> decide
    exact h.rewrite_item (.finishItem s.item hterminal ..) s.entry
  | reclaim event now =>
    obtain ⟨-, hreclaim⟩ := Option.ite_none_right_eq_some.mp hstep
    simp only [if_pos (show settings.brokerRetryMaxAttempts ≤ s.entry.attemptCount from hkeeps)]
      at hreclaim
    cases hreclaim
    exact h.rewrite_item (.refl s.item) _
  | row entry =>
    cases hstep
    exact h.rewrite_item (.refl s.item) entry

theorem failures_le (hstep : budgetStep settings s label = some t) :
    s.failures.total ≤ t.failures.total := by
  have hsettle : ∀ d delivery retryable cancelling reason error now,
      (s.settle settings d delivery retryable cancelling reason error now).failures = s.failures := by
    intro d delivery retryable cancelling reason error now
    unfold BudgetState.settle
    grind
  have habandon : ∀ d delivery now, (s.abandon settings d delivery now).failures = s.failures := by
    intro d delivery now
    unfold BudgetState.abandon
    grind
  have hobserve : ∀ d now, (s.observe d now).failures = s.failures := by
    intro d now
    unfold BudgetState.observe
    grind
  unfold FailureCounts.total
  cases label <;> grind [budgetStep]

theorem Budgeted.admits (h : Budgeted s)
    (hstep : budgetStep settings s label = some t) (hadmits : label.admits = true) :
    s.failures.total < (s.item.retryLimit : Nat) := by
  cases label with
  | claim relay now =>
    simp only [budgetStep] at hstep
    split at hstep
    · cases hstep
    next d hd =>
    obtain ⟨hclaim, -⟩ := Option.ite_none_right_eq_some.mp hstep
    exact (h.lt_of_claim hd hclaim).2.2.2
  | take delivery now =>
    simp only [budgetStep] at hstep
    split at hstep
    · cases hstep
    next d hd =>
    obtain ⟨⟨hmem, hphase⟩, -⟩ := Option.ite_none_right_eq_some.mp hstep
    have hfits := h.fits_of_mem hd hmem
    simp only [DeliveryFits, hphase] at hfits
    exact hfits.2
  | _ => cases hadmits

end Invariant

/-- In a run whose steps all keep the budget the counter of the item is the number of its
retryable failures, and at the limit nothing more is attempted. -/
theorem budgetRespected_of_keepsBudget {settings : PipelineSettings} {s : BudgetState}
    {labels : List BudgetLabel} (hstart : s.Initial)
    (hkeeps : ∀ x ∈ transitions (budgetStep settings) s labels, KeepsBudget settings x) :
    ∀ x ∈ transitions (budgetStep settings) s labels, BudgetRespected x := by
  intro x hx
  have hstep := step_of_mem_transitions hx
  have hbefore : Budgeted x.before :=
    invariant_before (Budgeted.of_initial hstart)
      (fun y hy hbudgeted => hbudgeted.step (step_of_mem_transitions hy) (hkeeps y hy)) hx
  have hafter : Budgeted x.after := hbefore.step hstep (hkeeps x hx)
  refine ⟨hafter.consumed, ?_, hbefore.admits hstep⟩
  rw [hbefore.consumed, hafter.consumed]
  exact failures_le hstep

def queuedReplay : BudgetState where
  item :=
    { id := 1
      recoveryJobId := 1
      memeFileId := some 1
      stage := some .ocr
      workKind := .pipelineStage
      workId := .row 1
      action := .retryStage
      expectedVersion := .row 0 none }
  entry := { id := 1, memeFileId := 1, stage := .ocr, status := .failed, isRetryable := true }

def ocrDispatch : ContentPipelineDispatchEvent where
  eventId := 7
  eventType := .stageReplayRequested
  memeId := 1
  memeFileId := 1
  stage := .ocr
  originalObjectKey := "original"
  attempt := 1
  attempt_pos := Nat.one_pos
  createdAt := 1

def ocrTimeout : StageFailure where
  normalizedReason := "timeout"
  lastErrorText := "timeout"
  retryable := true

def secondAttempt : List BudgetLabel :=
  [.dispatch false ocrDispatch 1, .claim "a" 2, .markFailed false "timeout" 3, .claim "a" 10,
    .markPublished 11, .take { attempt := 1 } 12, .fail { attempt := 1, phase := .running } ocrTimeout 13,
    .settle { attempt := 1, phase := .recorded true } false "timeout" "timeout" 14,
    .take { attempt := 2 } 20, .succeed { attempt := 2, phase := .running } 21]

theorem budgetRespected_of_keepsBudget_secondAttempt :
    (∀ x ∈ transitions (budgetStep {}) queuedReplay secondAttempt, BudgetRespected x) ∧
      (final (budgetStep {}) queuedReplay secondAttempt).failures = ⟨0, 1, 1⟩ :=
  ⟨budgetRespected_of_keepsBudget ⟨rfl, by decide, rfl, rfl, rfl, rfl, rfl, rfl⟩ (by decide),
    by decide⟩

def dispatchedTwice : List BudgetLabel :=
  [.dispatchFailed .running (.found (.row 0 none)) "TimeoutError" "timeout" true 1,
    .dispatch false ocrDispatch 2, .claim "a" 3, .markPublished 4, .take { attempt := 1 } 5,
    .fail { attempt := 1, phase := .running } ocrTimeout 6]

theorem not_budgetRespected_dispatchedTwice :
    ¬ ∀ (settings : PipelineSettings) (s : BudgetState) (labels : List BudgetLabel), s.Initial →
      ∀ x ∈ transitions (budgetStep settings) s labels, BudgetRespected x := by
  intro hall
  have hlost : (transitions (budgetStep {}) queuedReplay dispatchedTwice).any (fun x =>
      (x.after.item.retryableFailuresConsumed == 1) && (x.after.failures.total == 2)) = true := by
    decide
  obtain ⟨x, hx, hcounts⟩ := List.any_eq_true.mp hlost
  simp only [Bool.and_eq_true, beq_iff_eq] at hcounts
  have hcounted := (hall {} queuedReplay dispatchedTwice
    ⟨rfl, by decide, rfl, rfl, rfl, rfl, rfl, rfl⟩ x hx).counted
  omega

end MemeExpert.Services
