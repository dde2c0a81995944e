import MemeExpert.Lib.Runs
import MemeExpert.Pipeline.Replay

/-! One stage row under operator replays and broker redeliveries. A stage transaction is
fenced by its attempt number alone. -/

namespace MemeExpert.Pipeline

open Runs

/-- A delivery as the broker hands it over: the dispatched event and its retry cycles so far. -/
structure BrokerDelivery where
  eventId : Uuid
  attempt : Nat
  retryCount : Nat
  deriving DecidableEq

def effectiveAttempt (delivery : BrokerDelivery) : Nat :=
  max (delivery.attempt + delivery.retryCount) 1

def BrokerDelivery.toStage (delivery : BrokerDelivery) (stage : ContentPipelineStage) :
    StageDelivery :=
  ⟨stage, delivery.eventId, effectiveAttempt delivery⟩

structure IssuedEvent where
  eventId : Uuid
  attempt : Nat
  deriving DecidableEq

/-- The tables, the events issued for the stage (newest first) and the deliveries in hand. -/
structure FenceState where
  store : StageStore
  issued : List IssuedEvent := []
  held : List BrokerDelivery := []

inductive FenceLabel where
  | reserve (eventId : Uuid)
  | deliver (delivery : BrokerDelivery)
  | start (delivery : BrokerDelivery) (now : Time)
  | succeed (delivery : BrokerDelivery) (uuids : Nat → Uuid) (now : Time)
  | fail (delivery : BrokerDelivery) (failure : StageFailure) (now : Time)
  | environment (store : StageStore)

def FenceLabel.delivery : FenceLabel → Option BrokerDelivery
  | .start delivery _ | .succeed delivery _ _ | .fail delivery _ _ => some delivery
  | _ => none

def FenceState.commit (s : FenceState) : Except PipelineError StageStore → FenceState
  | .ok store => { s with store := store }
  | .error _ => s

section Fence

variable (settings : PipelineSettings) (worker : StageWorker) (stage : ContentPipelineStage)

def fenceStep (s : FenceState) : FenceLabel → Option FenceState
  | .reserve eventId =>
    match s.store.journal stage with
    | none => none
    | some entry =>
      if s.issued.any fun event => event.eventId = eventId then none
      else
        some { s with
          store := s.store.setEntry stage (reserveReplay entry eventId (nextAttempt entry))
          issued := ⟨eventId, nextAttempt entry⟩ :: s.issued }
  | .deliver delivery =>
    if ⟨delivery.eventId, delivery.attempt⟩ ∈ s.issued then
      some { s with held := delivery :: s.held }
    else none
  | .start delivery now =>
    if delivery ∈ s.held then
      some (s.commit ((startStageProcessing worker s.store (delivery.toStage stage) now).map
        (·.1)))
    else none
  | .succeed delivery uuids now =>
    if delivery ∈ s.held then
      some (s.commit (markStageSucceeded worker s.store (delivery.toStage stage) uuids now))
    else none
  | .fail delivery failure now =>
    if delivery ∈ s.held then
      some (s.commit (markStageFailed settings worker s.store (delivery.toStage stage) failure now))
    else none
  | .environment store =>
    -- the control plane, other stages and other services, none of which owns this row
    if store.journal stage = s.store.journal stage then some { s with store := store } else none

def FenceState.Initial (s : FenceState) : Prop :=
  s.held = [] ∧ ∃ entry, s.store.journal stage = some entry ∧
    s.issued.map (fun event => event.eventId) = entry.lastEventId.toList

def Superseded (x : Transition FenceState FenceLabel) : Prop :=
  ∃ delivery newest, x.label.delivery = some delivery ∧ x.before.issued.head? = some newest ∧
    newest.eventId ≠ delivery.eventId

def Behind (x : Transition FenceState FenceLabel) : Prop :=
  ∀ delivery, x.label.delivery = some delivery → ∀ entry,
    x.before.store.journal stage = some entry → effectiveAttempt delivery < entry.attemptCount

def Inert (x : Transition FenceState FenceLabel) : Prop :=
  x.after.store.journal stage = x.before.store.journal stage ∧
    x.after.store.memeFile.status = x.before.store.memeFile.status

instance (x : Transition FenceState FenceLabel) : Decidable (Superseded x) :=
  decidable_of_iff ((x.label.delivery.any fun delivery =>
    x.before.issued.head?.any fun newest => newest.eventId ≠ delivery.eventId) = true)
    (by simp [Superseded, Option.any_eq_true])

instance (x : Transition FenceState FenceLabel) : Decidable (Behind stage x) :=
  decidable_of_iff ((x.label.delivery.all fun delivery =>
    (x.before.store.journal stage).all fun entry =>
      effectiveAttempt delivery < entry.attemptCount) = true)
    (by simp [Behind, Option.all_eq_true])

def RestoresRow (x : Transition FenceState FenceLabel) : Prop :=
  ∃ delivery failure now, x.label = .fail delivery failure now ∧
    isDerivativeMaintenance (x.before.store.loadRecoveryItem delivery.eventId) = true

end Fence

section Steps

variable {settings : PipelineSettings} {worker : StageWorker} {stage : ContentPipelineStage}
  {delivery : BrokerDelivery} {x : Transition FenceState FenceLabel}

theorem issued_commit (s : FenceState) (result : Except PipelineError StageStore) :
    (s.commit result).issued = s.issued := by
  cases result <;> rfl

def CarriesNewest (stage : ContentPipelineStage) (s : FenceState) : Prop :=
  ∀ newest entry, s.issued.head? = some newest → s.store.journal stage = some entry →
    entry.lastEventId = some newest.eventId

theorem CarriesNewest.of_initial {s : FenceState} (h : s.Initial stage) : CarriesNewest stage s := by
  intro newest entry hnewest hentry
  obtain ⟨-, first, hfirst, hissued⟩ := h
  have hsame : first = entry := Option.some.inj (hfirst.symm.trans hentry)
  subst hsame
  cases hs : s.issued with
  | nil => simp [hs] at hnewest
  | cons event rest =>
    rw [hs, List.head?_cons] at hnewest
    cases hnewest
    rw [hs] at hissued
    cases hevent : first.lastEventId with
    | none => simp [hevent] at hissued
    | some eventId =>
      rw [hevent] at hissued
      simp only [List.map_cons, Option.toList_some, List.cons.injEq] at hissued
      rw [hissued.1]

section Worker

variable (hstep : fenceStep settings worker stage x.before x.label = some x.after)

include hstep

/-- A worker step finds its event taken already, is behind the row, or writes its own event
into the row. -/
theorem fenceStep_delivery {entry : PipelineStageJournal}
    (hlabel : x.label.delivery = some delivery) (hentry : x.before.store.journal stage = some entry) :
    (entry.lastEventId = some delivery.eventId ∧ x.after = x.before) ∨
      (effectiveAttempt delivery < entry.attemptCount ∧ x.after = x.before) ∨
      (entry.attemptCount ≤ effectiveAttempt delivery ∧
        (¬ RestoresRow x → ∃ written, x.after.store.journal stage = some written ∧
          written.lastEventId = some delivery.eventId)) := by
  obtain ⟨s, label, t⟩ := x
  change s.store.journal (delivery.toStage stage).stage = some entry at hentry
  cases label with
  | reserve eventId => cases hlabel
  | deliver other => cases hlabel
  | environment store => cases hlabel
  | start other now =>
    cases hlabel
    simp only [fenceStep, Option.ite_none_right_eq_some] at hstep
    obtain ⟨-, ht⟩ := hstep
    cases htaken : alreadyTaken entry (delivery.toStage stage) with
    | true =>
      rw [startStageProcessing_of_taken hentry htaken] at ht
      cases ht
      simp only [alreadyTaken, decide_eq_true_eq] at htaken
      exact .inl ⟨htaken.1, rfl⟩
    | false =>
      rcases Nat.lt_or_ge (effectiveAttempt delivery) entry.attemptCount with hlt | hge
      · rw [startStageProcessing_of_lt hentry htaken hlt] at ht
        cases ht
        exact .inr (.inl ⟨hlt, rfl⟩)
      · rw [startStageProcessing_of_le hentry htaken hge] at ht
        cases ht
        exact .inr (.inr ⟨hge, fun _ => ⟨_, journal_startedStore, rfl⟩⟩)
  | succeed other uuids now =>
    cases hlabel
    simp only [fenceStep, Option.ite_none_right_eq_some] at hstep
    obtain ⟨-, ht⟩ := hstep
    rcases Nat.lt_or_ge (effectiveAttempt delivery) entry.attemptCount with hlt | hge
    · rw [markStageSucceeded_of_lt uuids hentry hlt] at ht
      cases ht
      exact .inr (.inl ⟨hlt, rfl⟩)
    · rw [markStageSucceeded_of_le uuids hentry hge] at ht
      cases ht
      exact .inr (.inr ⟨hge, fun _ => ⟨_, journal_finalizeStageSuccess .., rfl⟩⟩)
  | fail other failure now =>
    cases hlabel
    simp only [fenceStep, Option.ite_none_right_eq_some] at hstep
    obtain ⟨-, ht⟩ := hstep
    rcases Nat.lt_or_ge (effectiveAttempt delivery) entry.attemptCount with hlt | hge
    · rw [markStageFailed_of_lt failure hentry hlt] at ht
      cases ht
      exact .inr (.inl ⟨hlt, rfl⟩)
    rw [markStageFailed_of_le failure hentry hge] at ht
    cases ht
    refine .inr (.inr ⟨hge, fun hkeeps => ⟨_, journal_applyStageFailure .., ?_⟩⟩)
    have hitem : isDerivativeMaintenance
        (s.store.loadRecoveryItem (delivery.toStage stage).eventId) = false := by
      by_contra hmaintains
      exact hkeeps ⟨delivery, failure, now, rfl, (Bool.not_eq_false _).mp hmaintains⟩
    rw [entryAfterFailure_of_not_derivative hitem]
    rfl

theorem fenceStep_delivery_of_none
    (hlabel : x.label.delivery = some delivery) (hentry : x.before.store.journal stage = none) :
    x.after = x.before := by
  obtain ⟨s, label, t⟩ := x
  change s.store.journal (delivery.toStage stage).stage = none at hentry
  cases label with
  | reserve eventId => cases hlabel
  | deliver other => cases hlabel
  | environment store => cases hlabel
  | start other now =>
    cases hlabel
    simp only [fenceStep, Option.ite_none_right_eq_some, startStageProcessing, hentry] at hstep
    exact (Option.some.inj hstep.2).symm
  | succeed other uuids now =>
    cases hlabel
    simp only [fenceStep, Option.ite_none_right_eq_some, markStageSucceeded, hentry] at hstep
    exact (Option.some.inj hstep.2).symm
  | fail other failure now =>
    cases hlabel
    simp only [fenceStep, Option.ite_none_right_eq_some, markStageFailed, hentry] at hstep
    exact (Option.some.inj hstep.2).symm

theorem issued_of_delivery
    (hlabel : x.label.delivery = some delivery) : x.after.issued = x.before.issued := by
  obtain ⟨s, label, t⟩ := x
  cases label with
  | reserve eventId => cases hlabel
  | deliver other => cases hlabel
  | environment store => cases hlabel
  | start other now =>
    simp only [fenceStep, Option.ite_none_right_eq_some] at hstep
    obtain ⟨-, ht⟩ := hstep
    cases ht
    exact issued_commit ..
  | succeed other uuids now =>
    simp only [fenceStep, Option.ite_none_right_eq_some] at hstep
    obtain ⟨-, ht⟩ := hstep
    cases ht
    exact issued_commit ..
  | fail other failure now =>
    simp only [fenceStep, Option.ite_none_right_eq_some] at hstep
    obtain ⟨-, ht⟩ := hstep
    cases ht
    exact issued_commit ..

theorem inert_of_behind (hsuperseded : Superseded x) (hbehind : Behind stage x) : Inert stage x := by
  obtain ⟨delivery, newest, hlabel, -, -⟩ := hsuperseded
  have hsame : x.after = x.before := by
    cases hentry : x.before.store.journal stage with
    | none => exact fenceStep_delivery_of_none hstep hlabel hentry
    | some entry =>
      have hlt := hbehind delivery hlabel entry hentry
      rcases fenceStep_delivery hstep hlabel hentry with ⟨-, h⟩ | ⟨-, h⟩ | ⟨hge, -⟩
      · exact h
      · exact h
      · exact absurd hlt (Nat.not_lt.mpr hge)
  rw [Inert, hsame]
  exact ⟨rfl, rfl⟩

theorem CarriesNewest.of_delivery
    (hlabel : x.label.delivery = some delivery) (hkeeps : ¬ RestoresRow x)
    (hinert : Superseded x → Inert stage x) (h : CarriesNewest stage x.before) :
    CarriesNewest stage x.after := by
  intro newest entry hnewest hentry
  rw [issued_of_delivery hstep hlabel] at hnewest
  by_cases hevent : newest.eventId = delivery.eventId
  · cases hbefore : x.before.store.journal stage with
    | none =>
      rw [fenceStep_delivery_of_none hstep hlabel hbefore, hbefore] at hentry
      cases hentry
    | some old =>
      rcases fenceStep_delivery hstep hlabel hbefore with ⟨-, hsame⟩ | ⟨-, hsame⟩ | ⟨-, hwrites⟩
      · exact h newest entry hnewest (hsame ▸ hentry)
      · exact h newest entry hnewest (hsame ▸ hentry)
      obtain ⟨written, hwritten, hlast⟩ := hwrites hkeeps
      rw [hwritten] at hentry
      cases hentry
      rw [hlast, hevent]
  · have hsuperseded : Superseded x := ⟨delivery, newest, hlabel, hnewest, hevent⟩
    rw [(hinert hsuperseded).1] at hentry
    exact h newest entry hnewest hentry

theorem CarriesNewest.step (hkeeps : ¬ RestoresRow x) (hinert : Superseded x → Inert stage x)
    (h : CarriesNewest stage x.before) : CarriesNewest stage x.after := by
  cases hlabel : x.label.delivery with
  | some delivery => exact h.of_delivery hstep hlabel hkeeps hinert
  | none =>
    obtain ⟨s, label, t⟩ := x
    cases label with
    | reserve eventId =>
      simp only [fenceStep] at hstep
      split at hstep
      · cases hstep
      next entry hentry =>
      simp only [Option.ite_none_left_eq_some] at hstep
      obtain ⟨-, ht⟩ := hstep
      cases ht
      intro newest written hnewest hwritten
      cases hnewest
      rw [StageStore.journal_setEntry] at hwritten
      cases hwritten
      rfl
    | deliver delivery =>
      simp only [fenceStep, Option.ite_none_right_eq_some] at hstep
      obtain ⟨-, ht⟩ := hstep
      cases ht
      exact h
    | environment store =>
      simp only [fenceStep, Option.ite_none_right_eq_some] at hstep
      obtain ⟨hrow, ht⟩ := hstep
      cases ht
      intro newest entry hnewest hentry
      exact h newest entry hnewest (hrow ▸ hentry)
    | start delivery now => cases hlabel
    | succeed delivery uuids now => cases hlabel
    | fail delivery failure now => cases hlabel

/-- A superseded step that leaves the row alone although the row carries the newer event was
behind the row. -/
theorem behind_of_inert (hkeeps : ¬ RestoresRow x) (hcarries : CarriesNewest stage x.before)
    (hsuperseded : Superseded x) (hinert : Inert stage x) : Behind stage x := by
  obtain ⟨delivery, newest, hlabel, hnewest, hevent⟩ := hsuperseded
  intro other hother entry hentry
  rw [hlabel] at hother
  cases hother
  have hlast : entry.lastEventId = some newest.eventId := hcarries newest entry hnewest hentry
  rcases fenceStep_delivery hstep hlabel hentry with ⟨htaken, -⟩ | ⟨hlt, -⟩ | ⟨-, hwrites⟩
  · rw [hlast] at htaken
    exact absurd (Option.some.inj htaken) hevent
  · exact hlt
  obtain ⟨written, hwritten, hown⟩ := hwrites hkeeps
  rw [hinert.1, hentry] at hwritten
  cases hwritten
  rw [hlast] at hown
  exact absurd (Option.some.inj hown) hevent

end Worker

end Steps

/-- In every run, superseded steps that are behind the row leave the row and the file status
alone; and where no failure restores an older snapshot, only such steps do. -/
theorem superseded_inert_iff_behind (settings : PipelineSettings) (worker : StageWorker)
    (stage : ContentPipelineStage) {s : FenceState} (hinit : s.Initial stage)
    (labels : List FenceLabel) :
    ((∀ x ∈ transitions (fenceStep settings worker stage) s labels,
        Superseded x → Behind stage x) →
      ∀ x ∈ transitions (fenceStep settings worker stage) s labels,
        Superseded x → Inert stage x) ∧
    ((∀ x ∈ transitions (fenceStep settings worker stage) s labels, ¬ RestoresRow x) →
      (∀ x ∈ transitions (fenceStep settings worker stage) s labels,
        Superseded x → Inert stage x) →
      ∀ x ∈ transitions (fenceStep settings worker stage) s labels,
        Superseded x → Behind stage x) := by
  constructor
  · intro hbehind x hx hsuperseded
    exact inert_of_behind (step_of_mem_transitions hx) hsuperseded (hbehind x hx hsuperseded)
  intro hkeeps hinert x hx hsuperseded
  have hcarries : CarriesNewest stage x.before :=
    invariant_before (P := CarriesNewest stage) (CarriesNewest.of_initial hinit)
      (fun y hy hbefore => hbefore.step (step_of_mem_transitions hy) (hkeeps y hy) (hinert y hy))
      hx
  exact behind_of_inert (step_of_mem_transitions hx) (hkeeps x hx) hcarries hsuperseded
    (hinert x hx hsuperseded)

def overtakenStore : StageStore where
  memeFile := { id := 1, memeId := 1, status := .processing, s3OriginalKey := "original" }
  journal := fun stage =>
    if stage = .classify then
      some { id := 1, memeFileId := 1, stage := .classify, lastEventId := some 1, isRetryable := true }
    else none

/-- Event 1 fails once and waits in the retry queue; a replay reserves event 2 at the attempt
the retry will have; event 2 succeeds; then the retry of event 1 starts. -/
def overtakingRetry : List FenceLabel :=
  let first : BrokerDelivery := ⟨1, 1, 0⟩
  let retried : BrokerDelivery := ⟨1, 1, 1⟩
  let replayed : BrokerDelivery := ⟨2, 2, 0⟩
  [.deliver first, .start first 10, .fail first ⟨"timeout", "timed out", true⟩ 11, .reserve 2,
    .deliver replayed, .start replayed 20, .succeed replayed (100 + ·) 21, .deliver retried,
    .start retried 30]

theorem superseded_inert_iff_behind_beforeRetry :
    FenceState.Initial .classify ⟨overtakenStore, [⟨1, 1⟩], []⟩ ∧
      ∀ x ∈ transitions (fenceStep {} {} .classify) ⟨overtakenStore, [⟨1, 1⟩], []⟩
          (overtakingRetry.take 7 ++ [.fail ⟨1, 1, 0⟩ ⟨"timeout", "timed out", true⟩ 22]),
        Superseded x → Inert .classify x :=
  ⟨⟨rfl, _, rfl, rfl⟩,
    (superseded_inert_iff_behind {} {} .classify ⟨rfl, _, rfl, rfl⟩ _).1 (by decide)⟩

theorem not_inert_overtakingRetry :
    ¬ ∀ (settings : PipelineSettings) (worker : StageWorker) (stage : ContentPipelineStage)
      (s : FenceState), s.Initial stage → ∀ labels,
        ∀ x ∈ transitions (fenceStep settings worker stage) s labels,
          Superseded x → Inert stage x := by
  intro h
  have hmoved : (transitions (fenceStep {} {} .classify) ⟨overtakenStore, [⟨1, 1⟩], []⟩
      overtakingRetry).any (fun x =>
        (x.label.delivery == some ⟨1, 1, 1⟩) && (x.before.issued.head? == some ⟨2, 2⟩) &&
        (x.before.store.memeFile.status == .ready) &&
        (x.after.store.memeFile.status == .processing)) = true := by
    decide
  obtain ⟨x, hx, hstatus⟩ := List.any_eq_true.mp hmoved
  simp only [Bool.and_eq_true, beq_iff_eq] at hstatus
  obtain ⟨⟨⟨hlabel, hissued⟩, hready⟩, hprocessing⟩ := hstatus
  have hinert : Inert .classify x :=
    h {} {} .classify _ ⟨rfl, _, rfl, rfl⟩ overtakingRetry x hx
      ⟨_, _, hlabel, hissued, by decide⟩
  rw [Inert, hready, hprocessing] at hinert
  cases hinert.2

end MemeExpert.Pipeline
