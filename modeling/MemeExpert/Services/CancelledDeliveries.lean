import MemeExpert.Services.ConcurrentReplay

/-! The disposition of a cancelled delivery is read off the row of its stage, and is right while
that row carries the newest event. -/

namespace MemeExpert.Services

open Runs Pipeline

inductive RecordedOutcome where
  | succeeded | endedTerminally | retryable
  deriving DecidableEq

structure DeliveryState extends ReplayState where
  outcomes : Uuid → Option RecordedOutcome := fun _ => none

def endsRegeneration (item : RecoveryJobItem) (delivery : StageDelivery) (failure : StageFailure)
    (consumesBudget : Bool) : Bool :=
  let counted :=
    if failure.retryable && consumesBudget then consumeRetryBudget item delivery.attempt else item
  item.action = .regenerateDerivatives ∧
    (counted.retryLimit : Nat) ≤ counted.retryableFailuresConsumed

def failureRecord (item : Option RecoveryJobItem) (delivery : StageDelivery)
    (failure : StageFailure) (consumesBudget : Bool) : RecordedOutcome :=
  if failure.retryable = false ∨
      item.any fun owner => endsRegeneration owner delivery failure consumesBudget then
    .endedTerminally
  else .retryable

def statusRecord : ContentPipelineStageStatus → Option RecordedOutcome
  | .succeeded => some .succeeded
  | .duplicate => some .endedTerminally
  | .pending | .processing | .failed => none

section Machine

variable (settings : PipelineSettings) (worker : StageWorker) (stage : ContentPipelineStage)

def recordedBy (store : StageStore) (delivery : BrokerDelivery) :
    StageAction → Option RecordedOutcome
  | .start => none
  | .succeed _ => some .succeeded
  | .fail failure =>
    some (failureRecord (store.loadRecoveryItem delivery.eventId) (delivery.toStage stage) failure
      true)
  | .abandon =>
    some (failureRecord (store.loadRecoveryItem delivery.eventId) (delivery.toStage stage)
      workerShutdownFailure false)

def writesRow (store : StageStore) (delivery : BrokerDelivery) (action : StageAction) : Bool :=
  (store.journal stage).any fun entry => action.writes entry (delivery.toStage stage)

def recordOutcome (outcomes : Uuid → Option RecordedOutcome) (eventId : Option Uuid)
    (outcome : Option RecordedOutcome) : Uuid → Option RecordedOutcome :=
  match eventId with
  | none => outcomes
  | some eventId => Function.update outcomes eventId outcome

def outcomesAfter (s : DeliveryState) : ReplayLabel → Uuid → Option RecordedOutcome
  | .work delivery action _ =>
    if writesRow stage s.store delivery action then
      recordOutcome s.outcomes delivery.eventId (recordedBy stage s.store delivery action)
    else s.outcomes
  | .release _ _ =>
    -- the exhausted dispatch ends the item that owns the event
    recordOutcome s.outcomes ((s.store.journal stage).bind (·.lastEventId))
      (some .endedTerminally)
  | .materialize entry => recordOutcome s.outcomes entry.lastEventId (statusRecord entry.status)
  | .read .. | .write .. | .reclaim .. | .environment .. => s.outcomes

def deliveryStep (s : DeliveryState) (label : ReplayLabel) : Option DeliveryState :=
  (replayStep settings worker stage s.toReplayState label).map fun t =>
    ⟨t, outcomesAfter stage s label⟩

/-- No event but the one of the row was issued, and its outcome is the status of the row. -/
structure DeliveryState.Initial (s : DeliveryState) : Prop where
  replay : s.toReplayState.Initial stage
  issued : s.issued = ((s.store.journal stage).bind (·.lastEventId)).toList
  outcomes : ∀ entry, s.store.journal stage = some entry → ∀ eventId,
    entry.lastEventId = some eventId → s.outcomes eventId = statusRecord entry.status

def Settled (s : DeliveryState) (eventId : Uuid) : Prop :=
  s.outcomes eventId = some .succeeded ∨ s.outcomes eventId = some .endedTerminally

def DoneWith (s : DeliveryState) (delivery : BrokerDelivery) : Prop :=
  Settled s delivery.eventId ∨
    (∃ newest, s.issued.head? = some newest ∧ newest ≠ delivery.eventId) ∨
    ∃ entry, s.store.journal stage = some entry ∧ entry.lastEventId = some delivery.eventId ∧
      effectiveAttempt delivery < entry.attemptCount

def Acknowledges (s : DeliveryState) (delivery : BrokerDelivery) (now : Time) : Prop :=
  ∃ store resolution,
    abandonStageProcessing settings worker s.store (delivery.toStage stage) now =
      .ok (store, resolution) ∧ resolution.disposition = .acknowledge

structure AcksSettledOnly (s : DeliveryState) : Prop where
  done : ∀ delivery now, delivery.eventId ∈ s.issued →
    Acknowledges settings worker stage s delivery now → DoneWith stage s delivery
  keepsRetryable : ∀ delivery now, s.issued.head? = some delivery.eventId →
    s.outcomes delivery.eventId = some .retryable →
    (∀ entry, s.store.journal stage = some entry → entry.attemptCount ≤ effectiveAttempt delivery) →
    ¬ Acknowledges settings worker stage s delivery now

def NewestSettled (s : DeliveryState) : Prop :=
  ∀ newest, s.issued.head? = some newest → Settled s newest

def LosesRetry (s : DeliveryState) (delivery : BrokerDelivery) (action : StageAction) : Prop :=
  s.issued.head? = some delivery.eventId ∧ action.restores s.store delivery.eventId = true ∧
    writesRow stage s.store delivery action = true ∧
    recordedBy stage s.store delivery action = some .retryable

/-- A replay is written over the row as it was read; until the newest event is settled no
superseded delivery writes the row; no regeneration that keeps a retry loses the row. -/
def KeepsDeliveries (x : Transition DeliveryState ReplayLabel) : Prop :=
  match x.label with
  | .write call _ _ _ => x.before.store.journal stage = call.loaded
  | .work delivery action _ =>
    (NewestSettled x.before ∨ OwnsOrBehind stage x.before.toReplayState delivery) ∧
      ¬ LosesRetry stage x.before delivery action
  | _ => True

instance (s : DeliveryState) (eventId : Uuid) : Decidable (Settled s eventId) :=
  inferInstanceAs (Decidable (_ ∨ _))

instance (s : DeliveryState) : Decidable (NewestSettled s) :=
  decidable_of_iff ((s.issued.head?.all fun newest => decide (Settled s newest)) = true)
    (by simp [NewestSettled, Option.all_eq_true])

instance (s : DeliveryState) (delivery : BrokerDelivery) (action : StageAction) :
    Decidable (LosesRetry stage s delivery action) :=
  inferInstanceAs (Decidable (_ ∧ _ ∧ _ ∧ _))

instance : (x : Transition DeliveryState ReplayLabel) → Decidable (KeepsDeliveries stage x)
  | ⟨s, .write call _ _ _, _⟩ => inferInstanceAs (Decidable (s.store.journal stage = call.loaded))
  | ⟨s, .work delivery action _, _⟩ => inferInstanceAs (Decidable
      ((NewestSettled s ∨ OwnsOrBehind stage s.toReplayState delivery) ∧
        ¬ LosesRetry stage s delivery action))
  | ⟨_, .read .., _⟩ | ⟨_, .reclaim .., _⟩ | ⟨_, .release .., _⟩ | ⟨_, .materialize .., _⟩
  | ⟨_, .environment .., _⟩ => isTrue trivial

def NewestKept (s : DeliveryState) : Prop :=
  ∀ newest, s.issued.head? = some newest → Settled s newest ∨
    ∃ entry, s.store.journal stage = some entry ∧ entry.lastEventId = some newest ∧
      statusRecord entry.status = none

end Machine

section Invariant

variable {settings : PipelineSettings} {worker : StageWorker} {stage : ContentPipelineStage}
  {s : DeliveryState}

theorem settled_or_open {outcomes : Uuid → Option RecordedOutcome} {eventId : Uuid}
    {status : ContentPipelineStageStatus} (h : outcomes eventId = statusRecord status) :
    (outcomes eventId = some .succeeded ∨ outcomes eventId = some .endedTerminally) ∨
      statusRecord status = none := by
  cases status <;> simp [statusRecord] at h ⊢ <;> simp [h]

theorem NewestKept.of_initial (h : s.Initial stage) : NewestKept stage s := by
  intro newest hnewest
  rw [h.issued] at hnewest
  cases hentry : s.store.journal stage with
  | none => simp [hentry] at hnewest
  | some entry =>
    cases hevent : entry.lastEventId with
    | none => simp [hentry, hevent] at hnewest
    | some eventId =>
      have hsame : eventId = newest := by simpa [hentry, hevent] using hnewest
      subst hsame
      rcases settled_or_open (h.outcomes entry hentry eventId hevent) with hsettled | hopen
      · exact .inl hsettled
      · exact .inr ⟨entry, rfl, hevent, hopen⟩

theorem NewestKept.settled_of_ne (h : NewestKept stage s) {newest : Uuid}
    {entry : PipelineStageJournal} (hnewest : s.issued.head? = some newest)
    (hentry : s.store.journal stage = some entry) (hne : entry.lastEventId ≠ some newest) :
    Settled s newest := by
  rcases h newest hnewest with hsettled | ⟨row, hrow, hevent, -⟩
  · exact hsettled
  rw [hentry] at hrow
  cases hrow
  exact absurd hevent hne

theorem idleDisposition_eq_acknowledge {entry : PipelineStageJournal} {delivery : StageDelivery}
    (hidle : entry.status ≠ .processing)
    (h : idleDisposition settings entry delivery = .acknowledge) :
    statusRecord entry.status ≠ none := by
  cases hstatus : entry.status with
  | pending => simp [idleDisposition, hstatus] at h
  | processing => exact absurd hstatus hidle
  | succeeded => simp [statusRecord]
  | failed =>
    cases hretryable : entry.isRetryable with
    | false => simp [idleDisposition, hstatus, hretryable] at h
    | true =>
      simp only [idleDisposition, hstatus, hretryable] at h
      split at h <;> simp at h
  | duplicate => simp [statusRecord]

theorem NewestKept.done (h : NewestKept stage s) {delivery : BrokerDelivery} {now : Time}
    (hissued : delivery.eventId ∈ s.issued)
    (hacks : Acknowledges settings worker stage s delivery now) : DoneWith stage s delivery := by
  obtain ⟨store, resolution, habandon, hdisposition⟩ := hacks
  obtain ⟨newest, hnewest⟩ : ∃ newest, s.issued.head? = some newest := by
    cases hlist : s.issued with
    | nil => simp [hlist] at hissued
    | cons newest rest => exact ⟨newest, rfl⟩
  by_cases hsame : newest = delivery.eventId
  · subst hsame
    rcases h _ hnewest with hsettled | ⟨entry, hentry, hevent, hopen⟩
    · exact .inl hsettled
    refine .inr (.inr ⟨entry, hentry, hevent, ?_⟩)
    by_contra hcurrent
    have hrow : s.store.journal (delivery.toStage stage).stage = some entry := hentry
    have hown : entry.lastEventId = some (delivery.toStage stage).eventId := hevent
    have hle : entry.attemptCount ≤ (delivery.toStage stage).attempt := Nat.not_lt.mp hcurrent
    by_cases hrunning : entry.status = .processing
    · rw [abandonStageProcessing_of_running settings worker now hrow hown hle hrunning] at habandon
      cases habandon
      cases hdisposition
    simp only [abandonStageProcessing, hrow, hown, ne_eq, not_true_eq_false,
      Nat.not_lt.mpr hle, or_self, if_false, hrunning, not_false_eq_true, if_true] at habandon
    cases habandon
    exact idleDisposition_eq_acknowledge hrunning hdisposition hopen
  · exact .inr (.inl ⟨newest, hnewest, hsame⟩)

theorem NewestKept.acksSettledOnly (h : NewestKept stage s) :
    AcksSettledOnly settings worker stage s where
  done _ _ hissued hacks := h.done hissued hacks
  keepsRetryable delivery now hnewest houtcome hcurrent hacks := by
    have hissued : delivery.eventId ∈ s.issued := List.mem_of_mem_head? hnewest
    rcases h.done hissued hacks with hsettled | ⟨later, hlater, hne⟩ | ⟨entry, hentry, -, hlt⟩
    · simp [Settled, houtcome] at hsettled
    · rw [hnewest] at hlater
      exact hne (Option.some.inj hlater).symm
    · exact absurd (hcurrent entry hentry) (Nat.not_le.mpr hlt)

theorem NewestKept.same {t : DeliveryState} (h : NewestKept stage s)
    (hrow : t.store.journal stage = s.store.journal stage) (hissued : t.issued = s.issued)
    (houtcomes : t.outcomes = s.outcomes) : NewestKept stage t := by
  intro newest hnewest
  rw [hissued] at hnewest
  rcases h newest hnewest with hsettled | ⟨entry, hentry, hevent, hopen⟩
  · left
    simpa only [Settled, houtcomes] using hsettled
  · exact .inr ⟨entry, hrow.trans hentry, hevent, hopen⟩

theorem NewestKept.of_reserved {t : DeliveryState} {entry : PipelineStageJournal} {eventId : Uuid}
    {attempt : Nat} (hissued : t.issued.head? = some eventId)
    (hrow : t.store.journal stage = some (reserveReplay entry eventId attempt)) :
    NewestKept stage t := by
  intro newest hnewest
  rw [hissued] at hnewest
  cases hnewest
  exact .inr ⟨_, hrow, rfl, rfl⟩

theorem NewestKept.of_reopened {t : DeliveryState} {entry written : PipelineStageJournal}
    (h : NewestKept stage s) (hentry : s.store.journal stage = some entry)
    (hissued : t.issued = s.issued) (houtcomes : t.outcomes = s.outcomes)
    (hrow : t.store.journal stage = some written) (hevent : written.lastEventId = entry.lastEventId)
    (hopen : statusRecord written.status = none) : NewestKept stage t := by
  intro newest hnewest
  rw [hissued] at hnewest
  rcases h newest hnewest with hsettled | ⟨row, hfound, hcarried, -⟩
  · left
    simpa only [Settled, houtcomes] using hsettled
  rw [hentry] at hfound
  cases hfound
  exact .inr ⟨written, hrow, hevent.trans hcarried, hopen⟩

theorem Settled.of_ne {t : DeliveryState} {eventId other : Uuid}
    {outcome : Option RecordedOutcome} (h : Settled s eventId) (hne : eventId ≠ other)
    (houtcomes : t.outcomes = recordOutcome s.outcomes other outcome) : Settled t eventId := by
  simpa only [Settled, houtcomes, recordOutcome, Function.update_of_ne hne] using h

/-- What a writing transaction for the newest event leaves: the event settled, or the row open
for it. -/
theorem settled_or_open_of_writes {delivery : BrokerDelivery} {action : StageAction} {now : Time}
    {entry : PipelineStageJournal} (hentry : s.store.journal stage = some entry)
    (hnewest : s.issued.head? = some delivery.eventId)
    (hwrites : action.writes entry (delivery.toStage stage) = true)
    (hkeeps : ¬ LosesRetry stage s delivery action)
    (hle : entry.attemptCount ≤ effectiveAttempt delivery) :
    (recordedBy stage s.store delivery action = some .succeeded ∨
        recordedBy stage s.store delivery action = some .endedTerminally) ∨
      ((action.written settings s.store entry (delivery.toStage stage) now).lastEventId =
          some delivery.eventId ∧
        statusRecord (action.written settings s.store entry (delivery.toStage stage) now).status =
          none) := by
  have hwritesRow : writesRow stage s.store delivery action = true := by
    simp [writesRow, hentry, hwrites]
  by_cases hrestores : action.restores s.store delivery.eventId = true
  · left
    have hlost : recordedBy stage s.store delivery action ≠ some .retryable := fun hretryable =>
      hkeeps ⟨hnewest, hrestores, hwritesRow, hretryable⟩
    cases action with
    | start => cases hrestores
    | succeed uuids => exact .inl rfl
    | fail failure =>
      right
      simp only [recordedBy, failureRecord] at hlost ⊢
      split
      · rfl
      · next hcond => simp [hcond] at hlost
    | abandon =>
      right
      simp only [recordedBy, failureRecord] at hlost ⊢
      split
      · rfl
      · next hcond => simp [hcond] at hlost
  · have hwritten : WrittenFor entry (delivery.toStage stage) action
        (action.written settings s.store entry (delivery.toStage stage) now) :=
      writtenFor_of_writes hle ((Bool.not_eq_true _).mp hrestores)
    cases action with
    | succeed uuids => exact .inl (.inl rfl)
    | start => exact .inr ⟨hwritten.lastEventId, by rw [hwritten.status]; rfl⟩
    | fail failure => exact .inr ⟨hwritten.lastEventId, by rw [hwritten.status]; rfl⟩
    | abandon => exact .inr ⟨hwritten.lastEventId, by rw [hwritten.status]; rfl⟩

theorem NewestKept.work (h : NewestKept stage s) {delivery : BrokerDelivery} {action : StageAction}
    {now : Time} {t : DeliveryState}
    (hstep : deliveryStep settings worker stage s (.work delivery action now) = some t)
    (howns : NewestSettled s ∨ OwnsOrBehind stage s.toReplayState delivery)
    (hkeeps : ¬ LosesRetry stage s delivery action) : NewestKept stage t := by
  simp only [deliveryStep, replayStep, Option.map_eq_some_iff] at hstep
  obtain ⟨replayed, hreplay, ht⟩ := hstep
  split at hreplay
  · cases hreplay
  next store hrun =>
  cases hreplay
  cases hentry : s.store.journal stage with
  | none =>
    have herror : runStageAction settings worker s.store (delivery.toStage stage) now action =
        .error (.missingJournalState s.store.memeFile.id stage) :=
      runStageAction_of_none hentry action
    rw [hrun] at herror
    cases herror
  | some entry =>
    have hread : s.store.journal (delivery.toStage stage).stage = some entry := hentry
    cases hwrites : action.writes entry (delivery.toStage stage) with
    | false =>
      have hidle := runStageAction_of_idle hread hwrites hrun
      subst hidle
      have hnothing : writesRow stage s.store delivery action = false := by
        simp [writesRow, hentry, hwrites]
      refine h.same ?_ ?_ ?_ <;> subst ht
      · rfl
      · rfl
      · simp [outcomesAfter, hnothing]
    | true =>
      obtain ⟨hle, hrow⟩ := runStageAction_of_writes hread hwrites hrun
      have hwritesRow : writesRow stage s.store delivery action = true := by
        simp [writesRow, hentry, hwrites]
      have houtcomes : t.outcomes = recordOutcome s.outcomes (some delivery.eventId)
          (recordedBy stage s.store delivery action) := by
        subst ht
        simp [outcomesAfter, hwritesRow]
      intro newest hnewest
      have hbefore : s.issued.head? = some newest := by
        subst ht
        exact hnewest
      by_cases hsame : newest = delivery.eventId
      · subst hsame
        have houtcome : t.outcomes delivery.eventId =
            recordedBy stage s.store delivery action := by
          rw [houtcomes]
          exact Function.update_self ..
        rcases settled_or_open_of_writes hentry hbefore hwrites hkeeps hle with
          hsettled | ⟨hevent, hopen⟩
        · left
          simpa only [Settled, houtcome] using hsettled
        refine .inr ⟨_, ?_, hevent, hopen⟩
        subst ht
        exact hrow
      · left
        have hsettled : Settled s newest := by
          rcases howns with hall | howns
          · exact hall newest hbefore
          rcases howns entry hentry with hown | hlt
          · refine h.settled_of_ne hbefore hentry ?_
            rw [hown]
            exact fun heq => hsame (Option.some.inj heq).symm
          · exact absurd hle (Nat.not_le.mpr hlt)
        exact hsettled.of_ne hsame houtcomes

theorem NewestKept.reclaim (h : NewestKept stage s) {eventId : Uuid} {now : Time}
    {t : DeliveryState}
    (hstep : deliveryStep settings worker stage s (.reclaim eventId now) = some t) :
    NewestKept stage t := by
  simp only [deliveryStep, replayStep, Option.map_eq_some_iff] at hstep
  obtain ⟨replayed, hreplay, ht⟩ := hstep
  subst ht
  split at hreplay
  · cases hreplay
  next entry hentry =>
  rw [Option.ite_none_right_eq_some] at hreplay
  obtain ⟨⟨hstage, -, -⟩, hreplay⟩ := hreplay
  split at hreplay
  · cases hreplay
  · next store hreclaim =>
    cases hreplay
    rcases reclaimStuckStage_spec hstage hreclaim with ⟨-, hrow⟩ | ⟨replay, hnone, -⟩
    · exact h.of_reopened hentry rfl rfl hrow rfl rfl
    · cases hnone
  next store accepted hreclaim =>
  cases hreplay
  rcases reclaimStuckStage_spec hstage hreclaim with ⟨hnone, -⟩ | ⟨replay, heq, hevent, -, hrow⟩
  · cases hnone
  · cases heq
    exact .of_reserved (congrArg some hevent) hrow

theorem NewestKept.release (h : NewestKept stage s) {state : PreviousStageState} {now : Time}
    {t : DeliveryState}
    (hstep : deliveryStep settings worker stage s (.release state now) = some t) :
    NewestKept stage t := by
  simp only [deliveryStep, replayStep, Option.map_eq_some_iff] at hstep
  obtain ⟨replayed, hreplay, ht⟩ := hstep
  split at hreplay
  · cases hreplay
  next entry hentry =>
  rw [Option.ite_none_right_eq_some] at hreplay
  obtain ⟨-, hreplay⟩ := hreplay
  cases hreplay
  have houtcomes : t.outcomes =
      recordOutcome s.outcomes entry.lastEventId (some .endedTerminally) := by
    subst ht
    simp [outcomesAfter, hentry]
  intro newest hnewest
  have hbefore : s.issued.head? = some newest := by
    subst ht
    exact hnewest
  left
  by_cases hcarried : entry.lastEventId = some newest
  · right
    rw [houtcomes, hcarried]
    exact Function.update_self ..
  have hsettled := h.settled_of_ne hbefore hentry hcarried
  cases hevent : entry.lastEventId with
  | none =>
    rw [hevent] at houtcomes
    simpa only [Settled, houtcomes, recordOutcome] using hsettled
  | some other =>
    rw [hevent] at houtcomes hcarried
    exact hsettled.of_ne (fun heq => hcarried (congrArg some heq.symm)) houtcomes

theorem NewestKept.materialize (h : NewestKept stage s) {entry : PipelineStageJournal}
    {t : DeliveryState}
    (hstep : deliveryStep settings worker stage s (.materialize entry) = some t) :
    NewestKept stage t := by
  simp only [deliveryStep, replayStep, Option.map_eq_some_iff,
    Option.ite_none_right_eq_some] at hstep
  obtain ⟨replayed, ⟨⟨hrow, -, -⟩, hreplay⟩, ht⟩ := hstep
  cases hreplay
  subst ht
  intro newest hnewest
  cases hevent : entry.lastEventId with
  | none =>
    have hbefore : s.issued.head? = some newest := by
      simpa [hevent] using hnewest
    rcases h newest hbefore with hsettled | ⟨row, hfound, -⟩
    · left
      simpa only [Settled, outcomesAfter, hevent, recordOutcome] using hsettled
    · rw [hrow] at hfound
      cases hfound
  | some eventId =>
    have hsame : eventId = newest := by
      simpa [hevent] using hnewest
    subst hsame
    have houtcome : outcomesAfter stage s (.materialize entry) eventId =
        statusRecord entry.status := by
      simp only [outcomesAfter, hevent, recordOutcome, Function.update_self]
    rcases settled_or_open houtcome with hsettled | hopen
    · exact .inl hsettled
    · exact .inr ⟨entry, StageStore.journal_setEntry .., hevent, hopen⟩

theorem NewestKept.step {x : Transition DeliveryState ReplayLabel}
    (hstep : deliveryStep settings worker stage x.before x.label = some x.after)
    (hkeeps : KeepsDeliveries stage x) (h : NewestKept stage x.before) :
    NewestKept stage x.after := by
  obtain ⟨s, label, t⟩ := x
  cases label with
  | read callId kind =>
    simp only [deliveryStep, replayStep, Option.map_eq_some_iff] at hstep
    obtain ⟨replayed, hreplay, ht⟩ := hstep
    subst ht
    split at hreplay
    · cases hreplay
    · rw [Option.ite_none_right_eq_some] at hreplay
      obtain ⟨-, hreplay⟩ := hreplay
      cases hreplay
      exact h.same rfl rfl rfl
    rw [Option.ite_none_right_eq_some] at hreplay
    obtain ⟨-, hreplay⟩ := hreplay
    cases hreplay
    exact h.same rfl rfl rfl
  | write call eventId item now =>
    simp only [deliveryStep, replayStep, Option.map_eq_some_iff,
      Option.ite_none_right_eq_some] at hstep
    obtain ⟨replayed, ⟨-, hreplay⟩, ht⟩ := hstep
    obtain ⟨store, hrow, hwrite⟩ := s.write_of_read hkeeps eventId item now
    rw [hwrite] at hreplay
    cases hreplay
    subst ht
    exact .of_reserved rfl hrow
  | work delivery action now => exact h.work hstep hkeeps.1 hkeeps.2
  | reclaim eventId now => exact h.reclaim hstep
  | release state now => exact h.release hstep
  | materialize entry => exact h.materialize hstep
  | environment store =>
    simp only [deliveryStep, replayStep, Option.map_eq_some_iff,
      Option.ite_none_right_eq_some] at hstep
    obtain ⟨replayed, ⟨hrow, hreplay⟩, ht⟩ := hstep
    cases hreplay
    subst ht
    exact h.same hrow rfl rfl

end Invariant

/-- In every run whose steps keep the newest delivery, a cancelled delivery is acknowledged only
when nothing remains to be done for it. -/
theorem acksSettledOnly_of_keepsDeliveries (settings : PipelineSettings) (worker : StageWorker)
    (stage : ContentPipelineStage) {s : DeliveryState} (hinit : s.Initial stage)
    (labels : List ReplayLabel)
    (hkeeps : ∀ x ∈ transitions (deliveryStep settings worker stage) s labels,
      KeepsDeliveries stage x) :
    (∀ x ∈ transitions (deliveryStep settings worker stage) s labels,
        AcksSettledOnly settings worker stage x.before) ∧
      AcksSettledOnly settings worker stage
        (final (deliveryStep settings worker stage) s labels) := by
  have hrun := invariant_of_transitions (P := NewestKept stage) (NewestKept.of_initial hinit)
    fun x hx hbefore => hbefore.step (step_of_mem_transitions hx) (hkeeps x hx)
  exact ⟨fun x hx => (hrun.1 x hx).acksSettledOnly, hrun.2.acksSettledOnly⟩

def transcodedEntry : PipelineStageJournal where
  id := 1
  memeFileId := 1
  stage := .transcode
  status := .succeeded
  attemptCount := 1
  lastEventId := some 1

def regeneratingItem (retryLimit : RetryLimit) : RecoveryJobItem where
  id := 7
  recoveryJobId := 1
  memeFileId := some 1
  stage := some .transcode
  workKind := .pipelineStage
  workId := .row 1
  action := .regenerateDerivatives
  expectedVersion := .row 0 (some 1)
  retryLimit := retryLimit
  suppressFanout := true
  reservationActive := true

def transcoded (retryLimit : RetryLimit) : DeliveryState where
  store :=
    { memeFile := { id := 1, memeId := 1, status := .ready, s3OriginalKey := "original" }
      journal := fun stage => if stage = .transcode then some transcodedEntry else none
      recoveryItems := [regeneratingItem retryLimit] }
  issued := [1]
  outcomes := fun eventId => if eventId = 1 then some .succeeded else none

theorem transcoded_initial (retryLimit : RetryLimit) : (transcoded retryLimit).Initial .transcode := by
  refine ⟨⟨rfl, rfl, rfl, ?_, ?_⟩, rfl, ?_⟩ <;> intro entry hentry <;> cases hentry
  · rfl
  · intro eventId hevent
    cases hevent
    exact List.mem_cons_self
  · intro eventId hevent
    cases hevent
    rfl

def failedRegeneration (retryLimit : RetryLimit) : List ReplayLabel :=
  [.read 1 (.admin false 0),
    .write ⟨1, .admin false 0, some transcodedEntry⟩ 2
      (some (adminReplayItem (regeneratingItem retryLimit) transcodedEntry 2 10)) 10,
    .work ⟨2, 2, 0⟩ .start 20, .work ⟨2, 2, 0⟩ (.fail ⟨"timeout", "timed out", true⟩) 21]

theorem acksSettledOnly_of_keepsDeliveries_lastRetry :
    AcksSettledOnly {} {} .transcode (final (deliveryStep {} {} .transcode)
      (transcoded ⟨1, by decide⟩) (failedRegeneration ⟨1, by decide⟩)) :=
  (acksSettledOnly_of_keepsDeliveries {} {} .transcode (transcoded_initial _) _ (by decide)).2

theorem not_acksSettledOnly_failedRegeneration :
    ¬ ∀ (settings : PipelineSettings) (worker : StageWorker) (stage : ContentPipelineStage)
      (s : DeliveryState), s.Initial stage → ∀ labels,
        AcksSettledOnly settings worker stage
          (final (deliveryStep settings worker stage) s labels) := by
  intro h
  have hsafe := h {} {} .transcode _ (transcoded_initial ⟨3, by decide⟩)
    (failedRegeneration ⟨3, by decide⟩)
  have hrestored : ((final (deliveryStep {} {} .transcode) (transcoded ⟨3, by decide⟩)
      (failedRegeneration ⟨3, by decide⟩)).store.journal .transcode).all
        (fun entry => entry.attemptCount ≤ 2) = true := by
    decide
  refine hsafe.keepsRetryable ⟨2, 2, 0⟩ 22 (by decide) (by decide) ?_ ⟨_, _, rfl, rfl⟩
  intro entry hentry
  rw [hentry, Option.all_some, decide_eq_true_eq] at hrestored
  exact hrestored

end MemeExpert.Services
