import MemeExpert.Services.StoppedJobs
import MemeExpert.Services.WorkAttempts

/-! A cancelled job lets its running attempts end and starts nothing. -/

namespace MemeExpert.Services

open Runs Pipeline Messaging

structure AdmitsNothing (s t : WorkState) : Prop where
  events : ∀ a ∈ s.items, s.IsStopped a → ∀ b ∈ t.items, b.id = a.id →
    b.dispatchEventId = none ∨ b.dispatchEventId = a.dispatchEventId
  messages : ∀ a ∈ s.items, s.IsStopped a → ∀ m ∈ t.enqueued, m.IsFor a → m ∈ s.enqueued
  attempts : ∀ a ∈ s.items, s.IsStopped a → ∀ m ∈ t.admitted, m.IsFor a →
    ∃ n ∈ s.admitted, n.IsFor a ∧ n.errand = m.errand ∧ n.number = m.number

def StartsNothing (s t : WorkState) : Prop :=
  ∀ a ∈ s.items, s.IsStopped a → ∀ m ∈ t.started, m.IsFor a → m ∈ s.started

def FailsCancelling (s : RecoveryStore) (eventId : Uuid) : Prop :=
  (s.owned (s.findEvent eventId)).any (fun (item, job) => job.status = .cancelling ∧
    item.status ∈ [RecoveryJobItemStatus.dispatched, .failed, .skippedStale, .skippedDependency,
      .cancelled]) = true

/-- The reclaimers leave the items of cancelled jobs alone, and a failed attempt of such an item
is not retried: it fails while its job is cancelling, or has no attempt left. -/
def KeepsStopped (settings : PipelineSettings) (x : Transition WorkState WorkLabel) : Prop :=
  match x.label with
  | .transaction (.reattach loaded ..) =>
    ∀ a ∈ x.before.items, x.before.IsStopped a → a.id ≠ loaded.id
  | .transaction (.relink itemId ..) => ∀ a ∈ x.before.items, x.before.IsStopped a → a.id ≠ itemId
  | .failStage eventId attempt retryable .. =>
    ∀ a ∈ x.before.items, x.before.IsStopped a → attempt.next.IsFor a →
      FailsCancelling x.before.toRecoveryStore eventId ∨
        stageRetries settings x.before.toRecoveryStore eventId attempt retryable = false
  | .failIngest eventId attempt sourceMissing publicationFailures .. =>
    ∀ a ∈ x.before.items, x.before.IsStopped a → attempt.next.IsFor a →
      ingestRetries settings x.before.toRecoveryStore eventId attempt sourceMissing
        publicationFailures = false
  | .failBackfill attempt retryableFailures manualOnly =>
    ∀ a ∈ x.before.items, x.before.IsStopped a → attempt.next.IsFor a →
      backfillRetries x.before.toRecoveryStore attempt retryableFailures manualOnly = false
  | _ => True

def CancelsStarted (x : Transition WorkState WorkLabel) : Prop :=
  match x.label with
  | .transaction (.cancel jobId _) => ∀ item ∈ x.before.items, item.recoveryJobId = jobId →
    ∀ m ∈ x.before.admitted, m.IsFor item → m ∈ x.before.started
  | _ => True

instance (s : RecoveryStore) (eventId : Uuid) : Decidable (FailsCancelling s eventId) :=
  inferInstanceAs (Decidable (_ = true))

instance (settings : PipelineSettings) :
    (x : Transition WorkState WorkLabel) → Decidable (KeepsStopped settings x)
  | ⟨s, .transaction label, _⟩ =>
    match label with
    | .reattach loaded .. =>
      inferInstanceAs (Decidable (∀ a ∈ s.items, s.IsStopped a → a.id ≠ loaded.id))
    | .relink itemId .. =>
      inferInstanceAs (Decidable (∀ a ∈ s.items, s.IsStopped a → a.id ≠ itemId))
    | .previewBatch .. | .replayWork .. | .materialize .. | .finishMaterialization ..
    | .failPreparation .. | .schedule .. | .cancel .. | .claim .. | .dispatchFailed ..
    | .stageFailed .. | .cancellingFailed .. | .ingestFailed .. | .reconcile ..
    | .completeSourcePost .. | .skipDependency .. | .reconcileJobs .. | .readLinked .. =>
      isTrue trivial
  | ⟨s, .failStage eventId attempt retryable .., _⟩ =>
    inferInstanceAs (Decidable (∀ a ∈ s.items, s.IsStopped a → attempt.next.IsFor a →
      FailsCancelling s.toRecoveryStore eventId ∨
        stageRetries settings s.toRecoveryStore eventId attempt retryable = false))
  | ⟨s, .failIngest eventId attempt sourceMissing publicationFailures .., _⟩ =>
    inferInstanceAs (Decidable (∀ a ∈ s.items, s.IsStopped a → attempt.next.IsFor a →
      ingestRetries settings s.toRecoveryStore eventId attempt sourceMissing publicationFailures =
        false))
  | ⟨s, .failBackfill attempt retryableFailures manualOnly, _⟩ =>
    inferInstanceAs (Decidable (∀ a ∈ s.items, s.IsStopped a → attempt.next.IsFor a →
      backfillRetries s.toRecoveryStore attempt retryableFailures manualOnly = false))
  | ⟨_, .enqueue .., _⟩ | ⟨_, .queueBackfill .., _⟩ | ⟨_, .publish .., _⟩ | ⟨_, .start .., _⟩
  | ⟨_, .interrupt .., _⟩ | ⟨_, .settle .., _⟩ => isTrue trivial

instance : (x : Transition WorkState WorkLabel) → Decidable (CancelsStarted x)
  | ⟨s, .transaction label, _⟩ =>
    match label with
    | .cancel jobId _ =>
      inferInstanceAs (Decidable (∀ item ∈ s.items, item.recoveryJobId = jobId →
        ∀ m ∈ s.admitted, m.IsFor item → m ∈ s.started))
    | .previewBatch .. | .replayWork .. | .materialize .. | .finishMaterialization ..
    | .failPreparation .. | .schedule .. | .claim .. | .dispatchFailed .. | .stageFailed ..
    | .cancellingFailed .. | .ingestFailed .. | .reconcile .. | .completeSourcePost ..
    | .skipDependency .. | .reconcileJobs .. | .readLinked .. | .reattach .. | .relink .. =>
      isTrue trivial
  | ⟨_, .failStage .., _⟩ | ⟨_, .failIngest .., _⟩ | ⟨_, .failBackfill .., _⟩ | ⟨_, .enqueue .., _⟩
  | ⟨_, .queueBackfill .., _⟩ | ⟨_, .publish .., _⟩ | ⟨_, .start .., _⟩ | ⟨_, .interrupt .., _⟩
  | ⟨_, .settle .., _⟩ => isTrue trivial

def WorkLabel.revives : WorkLabel → Uuid → Prop
  | .transaction label => label.revives
  | _ => fun _ => False

def WorkLabel.stops : WorkLabel → Uuid → Prop
  | .transaction label => label.stops
  | _ => fun _ => False

section Attempts

variable {settings : PipelineSettings} {s t : WorkState} {label : RecoveryLabel} {l : WorkLabel}
  {a b : RecoveryJobItem} {m n : Attempt}

theorem isFor_message {eventId : Uuid} (herrand : m.errand = .message eventId) :
    m.IsFor a ↔ m.item = some a.id := by
  simp [Attempt.IsFor, herrand]

theorem isFor_of_notDispatched (hkept : NotDispatched a b) (hfor : m.IsFor b) : m.IsFor a := by
  obtain ⟨errand, number, owner⟩ := m
  rcases hfor with howner | hbackfill
  · exact .inl (howner.trans (congrArg some hkept.id))
  cases errand with
  | message eventId => exact hbackfill.elim
  | backfill backfillJobId =>
    obtain ⟨hstatus, hkey⟩ := hbackfill
    exact .inr ⟨hkept.status hstatus, hkept.key.symm.trans hkey⟩

theorem messageOf_spec (h : s.messageOf label = some m) :
    (∃ eventId, m.errand = .message eventId) ∧ ∃ itemId, m.item = some itemId ∧
      (label.revives itemId ∨ ∃ stageRow outcome now, label = .claim itemId stageRow outcome now) := by
  cases label with
  | claim itemId stageRow outcome now =>
    cases outcome with
    | rebuildOutbox outbox =>
      obtain ⟨found, hfound, rfl⟩ := Option.map_eq_some_iff.mp h
      have herrand : found.errand = .message outbox.messageId := by
        simpa using List.find?_some hfound
      exact ⟨⟨_, herrand⟩, itemId, rfl, .inr ⟨_, _, _, rfl⟩⟩
    | replayStage eventId attempt =>
      cases h
      exact ⟨⟨_, rfl⟩, itemId, rfl, .inr ⟨_, _, _, rfl⟩⟩
    | replayAdminStage entry eventId =>
      cases h
      exact ⟨⟨_, rfl⟩, itemId, rfl, .inr ⟨_, _, _, rfl⟩⟩
    | reinspectIngest eventId =>
      cases h
      exact ⟨⟨_, rfl⟩, itemId, rfl, .inr ⟨_, _, _, rfl⟩⟩
    | waitForCapacity reason error => cases h
    | stale reason error => cases h
    | dispatchTelegram attemptCount => cases h
    | archiveDeadLetter => cases h
  | reattach loaded eventId attempt now =>
    cases h
    exact ⟨⟨_, rfl⟩, loaded.id, rfl, .inl rfl⟩
  | relink itemId eventId now =>
    cases h
    exact ⟨⟨_, rfl⟩, itemId, rfl, .inl rfl⟩
  | _ => cases h

theorem backfillOf_spec (h : s.backfillOf label = some m) :
    ∃ itemId stageRow outcome now backfillJobId number,
      label = .claim itemId stageRow outcome now ∧ m = ⟨.backfill backfillJobId, number, none⟩ ∧
        (s.find itemId).bind reservationKey = some (.work .backfill (.row backfillJobId)) := by
  cases label with
  | claim itemId stageRow outcome now =>
    cases outcome with
    | dispatchTelegram attemptCount =>
      simp only [WorkState.backfillOf] at h
      split at h
      · next backfillJobId hkey =>
        cases h
        exact ⟨itemId, stageRow, _, now, backfillJobId, _, rfl, rfl, hkey⟩
      · cases h
    | _ => cases h
  | _ => cases h

theorem claim_facts (h : LifeCycle s.toRecoveryStore) {u : RecoveryStore} {itemId : Uuid}
    {stageRow : Option Uuid} {outcome : ClaimOutcome} {now : Time}
    (hstep : lifeStep s.toRecoveryStore (.claim itemId stageRow outcome now) = some u) :
    ∃ item ∈ s.items, s.find itemId = some item ∧ item.id = itemId ∧ ¬ s.IsStopped item ∧
      HoldsTarget s.toRecoveryStore item := by
  simp only [lifeStep] at hstep
  split at hstep
  · cases hstep
  next item job howned =>
  obtain ⟨other, hfind, hpair⟩ := Option.bind_eq_some_iff.mp howned
  obtain ⟨_, hjob, heq⟩ := Option.map_eq_some_iff.mp hpair
  cases heq
  obtain ⟨⟨hlive, heligible, -⟩, -⟩ := of_guarded hstep
  refine ⟨item, RecoveryStore.mem_of_find hfind, hfind, by simpa using List.find?_some hfind, ?_,
    active_of_eligible heligible, job, hjob, (h.jobs _ job hjob).live (live_of_scheduling hlive)⟩
  intro hstopped
  exact not_stopped_of_scheduling hlive ((stopped_iff hjob).mp hstopped)

theorem eq_of_backfillFor (h : LifeCycle s.toRecoveryStore) {backfillJobId : Uuid}
    (ha : a ∈ s.items) (hb : b ∈ s.items) (hfor : BackfillFor backfillJobId a)
    (hkey : reservationKey b = some (.work .backfill (.row backfillJobId)))
    (hholds : HoldsTarget s.toRecoveryStore b) : b = a := by
  obtain ⟨hstatus, hkeyA⟩ := hfor
  obtain ⟨job, hjob, hfits⟩ := h.fits a ha
  have hholdsA : HoldsTarget s.toRecoveryStore a :=
    ⟨by rw [hstatus]; decide, job, hjob, hfits.scheduled (.inl hstatus)⟩
  exact h.reservationsKept.unique b hb a ha hholds hholdsA (by rw [hkey]; rfl)
    (hkey.trans hkeyA.symm)

theorem not_isFor_of_transaction (h : LifeCycle s.toRecoveryStore) {u : RecoveryStore}
    (hstep : lifeStep s.toRecoveryStore label = some u)
    (hnew : s.messageOf label = some m ∨ s.backfillOf label = some m) (ha : a ∈ s.items)
    (hstopped : s.IsStopped a) (hidle : ¬ label.revives a.id) : ¬ m.IsFor a := by
  intro hfor
  rcases hnew with hmessage | hbackfill
  · obtain ⟨⟨eventId, herrand⟩, itemId, hitem, hcause⟩ := messageOf_spec hmessage
    rw [isFor_message herrand, hitem] at hfor
    cases hfor
    rcases hcause with hrevives | ⟨stageRow, outcome, now, rfl⟩
    · exact hidle hrevives
    obtain ⟨item, hitem, -, hid, hopen, -⟩ := claim_facts h hstep
    obtain rfl := h.eq_of_id hitem ha hid
    exact hopen hstopped
  obtain ⟨itemId, stageRow, outcome, now, backfillJobId, number, rfl, rfl, hkey⟩ :=
    backfillOf_spec hbackfill
  obtain ⟨item, hitem, hfind, hid, hopen, hholds⟩ := claim_facts h hstep
  rw [hfind, Option.bind_some] at hkey
  rcases hfor with hnone | hfor
  · cases hnone
  · obtain rfl := eq_of_backfillFor h ha hitem hfor hkey hholds
    exact hopen hstopped

theorem isFor_of_opened (h : LifeCycle s.toRecoveryStore) (ha : a ∈ s.items)
    (hfor : (s.opened m).IsFor a) :
    m.IsFor a ∧ (s.opened m).errand = m.errand ∧ (s.opened m).number = m.number := by
  obtain ⟨errand, number, owner⟩ := m
  cases errand with
  | message eventId => exact ⟨hfor, rfl, rfl⟩
  | backfill backfillJobId =>
    unfold WorkState.opened at hfor ⊢
    dsimp only at hfor ⊢
    split at hfor
    · next hstarted =>
      rw [if_pos hstarted]
      exact ⟨hfor, rfl, rfl⟩
    next hstarted =>
    rw [if_neg hstarted]
    refine ⟨?_, rfl, rfl⟩
    rcases hfor with howner | hbackfill
    · obtain ⟨found, hfound, hid⟩ := Option.map_eq_some_iff.mp howner
      obtain rfl := h.eq_of_id (List.mem_of_find?_eq_some hfound) ha hid
      have hnames : BackfillFor backfillJobId found := by
        simpa using List.find?_some hfound
      exact .inr hnames
    · exact .inr hbackfill

theorem mem_admitted_retire {retries : Bool} (hm : m ∈ (s.retire n retries).admitted) :
    m ∈ s.admitted ∨ (retries = true ∧ m = n.next) := by
  rcases List.mem_append.mp hm with hm | hm
  · exact .inl (List.mem_append_left _ hm)
  obtain ⟨attempt, hattempt, rfl⟩ := List.mem_map.mp hm
  cases retries with
  | false =>
    exact .inl (List.mem_append_right _ (List.mem_map.mpr ⟨attempt, List.mem_of_mem_erase hattempt, rfl⟩))
  | true =>
    rcases List.mem_cons.mp hattempt with rfl | hattempt
    · exact .inr ⟨rfl, rfl⟩
    · exact .inl (List.mem_append_right _
        (List.mem_map.mpr ⟨attempt, List.mem_of_mem_erase hattempt, rfl⟩))

theorem finalize_stops {eventId : Uuid} {reason error : String} {now : Time}
    (hfails : FailsCancelling s.toRecoveryStore eventId) :
    (finalizeFailureForCancellingRecovery s.toRecoveryStore eventId reason error now).2 = true := by
  unfold FailsCancelling at hfails
  unfold finalizeFailureForCancellingRecovery
  split
  · next hnone => simp [hnone] at hfails
  next item job howned =>
  rw [howned, Option.any_some, decide_eq_true_eq] at hfails
  simpa [hfails.1] using hfails.2

theorem finalize_store_of_not_stops {eventId : Uuid} {reason error : String} {now : Time}
    (hretries :
      (finalizeFailureForCancellingRecovery s.toRecoveryStore eventId reason error now).2 = false) :
    (finalizeFailureForCancellingRecovery s.toRecoveryStore eventId reason error now).1 =
      s.toRecoveryStore := by
  unfold finalizeFailureForCancellingRecovery at hretries ⊢
  split
  · rfl
  next item job howned =>
  rw [howned] at hretries
  dsimp only at hretries
  split at hretries
  · next hother =>
    rw [if_pos hother]
  next hcancelling =>
  rw [if_neg hcancelling]
  have hidle : item.status ≠ .dispatched := by
    intro hdispatched
    simp [hdispatched] at hretries
  simp [lifeStep, howned, hidle]

theorem keepsItems_getD (h : LifeCycle s.toRecoveryStore) (label : RecoveryLabel) :
    KeepsItems label.stops label.revives s.toRecoveryStore
        ((lifeStep s.toRecoveryStore label).getD s.toRecoveryStore) ∧
      LifeCycle ((lifeStep s.toRecoveryStore label).getD s.toRecoveryStore) := by
  cases hstep : lifeStep s.toRecoveryStore label with
  | none => exact ⟨.of_jobs rfl fun _ => Iff.rfl, h⟩
  | some u =>
    refine ⟨lifeStep_keepsItems h hstep, ?_⟩
    rcases lifeStep_spec h hstep with hadvances | ⟨-, hlife, -⟩
    · exact hadvances.life
    · exact hlife

theorem workStep_keepsItems (h : LifeCycle s.toRecoveryStore)
    (hstep : workStep settings s l = some t) :
    KeepsItems l.stops l.revives s.toRecoveryStore t.toRecoveryStore ∧
      LifeCycle t.toRecoveryStore := by
  have hsame : ∀ {u : WorkState}, some u = some t → u.toRecoveryStore = s.toRecoveryStore →
      KeepsItems l.stops l.revives s.toRecoveryStore t.toRecoveryStore ∧
        LifeCycle t.toRecoveryStore := by
    intro u hu hstore
    cases hu
    rw [hstore]
    exact ⟨.of_jobs rfl fun _ => Iff.rfl, h⟩
  cases l with
  | transaction label =>
    obtain ⟨u, hlife, rfl⟩ := Option.map_eq_some_iff.mp hstep
    have hkeeps := keepsItems_getD h label
    rw [hlife] at hkeeps
    exact hkeeps
  | enqueue eventId number => exact hsame hstep rfl
  | queueBackfill backfillJobId number => exact hsame (Option.ite_none_right_eq_some.mp hstep).2 rfl
  | publish attempt => exact hsame (Option.ite_none_right_eq_some.mp hstep).2 rfl
  | start attempt => exact hsame (Option.ite_none_right_eq_some.mp hstep).2 rfl
  | interrupt attempt => exact hsame (Option.ite_none_right_eq_some.mp hstep).2 rfl
  | settle attempt => exact hsame (Option.ite_none_right_eq_some.mp hstep).2 rfl
  | failStage eventId attempt retryable reason error now =>
    obtain rfl := Option.some.inj (Option.ite_none_right_eq_some.mp hstep).2
    dsimp only [WorkState.retire]
    unfold finalizeFailureForCancellingRecovery
    split
    · exact ⟨.of_jobs rfl fun _ => Iff.rfl, h⟩
    split
    · exact ⟨.of_jobs rfl fun _ => Iff.rfl, h⟩
    · exact keepsItems_getD h (.cancellingFailed eventId reason error now)
  | failIngest eventId attempt sourceMissing publicationFailures reason error now =>
    have hu := (Option.ite_none_right_eq_some.mp hstep).2
    cases hu
    exact keepsItems_getD h (.ingestFailed eventId _ reason error (!sourceMissing) now)
  | failBackfill attempt retryableFailures manualOnly =>
    exact hsame (Option.ite_none_right_eq_some.mp hstep).2 rfl

theorem not_revives (hkeeps : KeepsStopped settings ⟨s, l, t⟩) (ha : a ∈ s.items)
    (hstopped : s.IsStopped a) : ¬ l.revives a.id := by
  intro hrevives
  cases l with
  | transaction label =>
    cases label with
    | reattach loaded eventId attempt now => exact hkeeps a ha hstopped hrevives
    | relink itemId eventId now => exact hkeeps a ha hstopped hrevives
    | _ => exact hrevives
  | _ => exact hrevives

section Kept

variable (h : LifeCycle s.toRecoveryStore) (hstep : workStep settings s l = some t)
  (hkeeps : KeepsStopped settings ⟨s, l, t⟩)

include h hstep hkeeps

/-- The attempts of an item of a cancelled job are the ones it had, under the item a worker records
with a backfill attempt. -/
theorem admitted_cases
    (ha : a ∈ s.items) (hstopped : s.IsStopped a) (hm : m ∈ t.admitted) (hfor : m.IsFor a) :
    m ∈ s.admitted ∨ ∃ n, l = .start n ∧ n ∈ s.admitted ∧ m = s.opened n := by
  have hretired : ∀ {u : WorkState} {n : Attempt} {retries : Bool},
      u.enqueued = s.enqueued → u.attempts = s.attempts → m ∈ (u.retire n retries).admitted →
      (n.next.IsFor a → retries = false) → m ∈ s.admitted := by
    intro u n retries henqueued hattempts hmem hidle
    rcases mem_admitted_retire hmem with hmem | ⟨htrue, rfl⟩
    · simpa [WorkState.admitted, henqueued, hattempts] using hmem
    · rw [hidle hfor] at htrue
      cases htrue
  cases l with
  | transaction label =>
    left
    obtain ⟨u, hlife, rfl⟩ := Option.map_eq_some_iff.mp hstep
    have hidle : ¬ label.revives a.id := not_revives hkeeps ha hstopped
    have hnot : ∀ {new : Attempt}, s.messageOf label = some new ∨ s.backfillOf label = some new →
        new ≠ m := by
      rintro _ hnew rfl
      exact not_isFor_of_transaction h hlife hnew ha hstopped hidle hfor
    simp only [WorkState.admitted, List.map_append, List.mem_append, List.map_map,
      Option.mem_toList, List.mem_map] at hm ⊢
    rcases hm with (hnew | hold) | ⟨new, hnew, hsame⟩ | hold
    · exact absurd rfl (hnot (.inl hnew))
    · exact .inl hold
    · exact absurd hsame (hnot (.inr hnew))
    · exact .inr hold
  | enqueue eventId number =>
    left
    cases hstep
    rcases List.mem_cons.mp hm with rfl | hold
    · cases (isFor_message rfl).mp hfor
    · exact hold
  | queueBackfill backfillJobId number =>
    left
    obtain ⟨hfresh, hu⟩ := Option.ite_none_right_eq_some.mp hstep
    cases hu
    simp only [WorkState.admitted, List.map_cons, List.mem_append, List.mem_cons] at hm ⊢
    rcases hm with hold | rfl | hold
    · exact .inl hold
    · rcases hfor with hnone | hbackfill
      · cases hnone
      · exact absurd hbackfill.2 (hfresh a ha)
    · exact .inr hold
  | publish attempt =>
    left
    obtain ⟨hmem, hu⟩ := Option.ite_none_right_eq_some.mp hstep
    cases hu
    simp only [WorkState.admitted, List.map_cons, List.mem_append, List.mem_cons] at hm ⊢
    rcases hm with hold | rfl | hold
    · exact .inl hold
    · exact .inl hmem
    · exact .inr hold
  | start attempt =>
    obtain ⟨hmem, hu⟩ := Option.ite_none_right_eq_some.mp hstep
    cases hu
    simp only [WorkState.admitted, List.map_cons, List.mem_append, List.mem_cons] at hm
    rcases hm with hold | rfl | hold
    · exact .inl (List.mem_append_left _ hold)
    · exact .inr ⟨attempt, rfl, List.mem_append_right _ (List.mem_map.mpr ⟨_, hmem, rfl⟩), rfl⟩
    · exact .inl (List.mem_append_right _ (List.map_subset _ List.erase_subset hold))
  | interrupt attempt =>
    left
    obtain ⟨hmem, hu⟩ := Option.ite_none_right_eq_some.mp hstep
    cases hu
    simp only [WorkState.admitted, List.map_cons, List.mem_append, List.mem_cons] at hm
    rcases hm with hold | rfl | hold
    · exact List.mem_append_left _ hold
    · exact List.mem_append_right _ (List.mem_map.mpr ⟨_, hmem, rfl⟩)
    · exact List.mem_append_right _ (List.map_subset _ List.erase_subset hold)
  | settle attempt =>
    left
    obtain ⟨-, hu⟩ := Option.ite_none_right_eq_some.mp hstep
    cases hu
    rcases List.mem_append.mp hm with hold | hold
    · exact List.mem_append_left _ hold
    · exact List.mem_append_right _ (List.map_subset _ List.erase_subset hold)
  | failStage eventId attempt retryable reason error now =>
    left
    obtain ⟨-, hu⟩ := Option.ite_none_right_eq_some.mp hstep
    obtain rfl := Option.some.inj hu
    refine hretired rfl rfl hm fun hnext => ?_
    rcases hkeeps a ha hstopped hnext with hfails | hdone
    · simp [finalize_stops hfails]
    cases hacked : (finalizeFailureForCancellingRecovery s.toRecoveryStore eventId reason error
        now).2 with
    | true => rfl
    | false => simp [finalize_store_of_not_stops hacked, hdone]
  | failIngest eventId attempt sourceMissing publicationFailures reason error now =>
    left
    obtain ⟨-, hu⟩ := Option.ite_none_right_eq_some.mp hstep
    cases hu
    exact hretired rfl rfl hm fun hnext => hkeeps a ha hstopped hnext
  | failBackfill attempt retryableFailures manualOnly =>
    left
    obtain ⟨-, hu⟩ := Option.ite_none_right_eq_some.mp hstep
    cases hu
    exact hretired rfl rfl hm fun hnext => hkeeps a ha hstopped hnext

theorem enqueued_cases
    (ha : a ∈ s.items) (hstopped : s.IsStopped a) (hm : m ∈ t.enqueued) (hfor : m.IsFor a) :
    m ∈ s.enqueued := by
  have hsame : ∀ {u : WorkState}, some u = some t → u.enqueued = s.enqueued →
      m ∈ s.enqueued := by
    intro u hu henqueued
    cases hu
    exact henqueued ▸ hm
  cases l with
  | transaction label =>
    obtain ⟨u, hlife, rfl⟩ := Option.map_eq_some_iff.mp hstep
    have hidle : ¬ label.revives a.id := not_revives hkeeps ha hstopped
    rcases List.mem_append.mp hm with hnew | hold
    · exact absurd hfor (not_isFor_of_transaction h hlife (.inl (Option.mem_toList.mp hnew)) ha
        hstopped hidle)
    · exact hold
  | enqueue eventId number =>
    cases hstep
    rcases List.mem_cons.mp hm with rfl | hold
    · cases (isFor_message rfl).mp hfor
    · exact hold
  | _ => exact hsame (Option.ite_none_right_eq_some.mp hstep).2 rfl

theorem AdmitsNothing.of_step : AdmitsNothing s t where
  events a ha hstopped b hb hid := by
    obtain ⟨hitems, -⟩ := workStep_keepsItems h hstep
    rcases hitems.items b hb with ⟨old, hold, hsame, hquiet⟩ | ⟨hfresh, -⟩
    · obtain rfl : old = a := h.eq_of_id hold ha (hsame.id.symm.trans hid)
      have hstill : t.IsStopped b := by
        unfold RecoveryStore.IsStopped
        rw [hsame.recoveryJobId]
        exact hitems.kept _ hstopped
      exact (hquiet hstill (not_revives hkeeps ha hstopped)).event
    · exact absurd hid.symm (hfresh a ha)
  messages _ ha hstopped _ hm hfor := enqueued_cases h hstep hkeeps ha hstopped hm hfor
  attempts a ha hstopped m hm hfor := by
    rcases admitted_cases h hstep hkeeps ha hstopped hm hfor with hold | ⟨n, -, hn, rfl⟩
    · exact ⟨m, hold, hfor, rfl, rfl⟩
    · obtain ⟨hforN, herrand, hnumber⟩ := isFor_of_opened h ha hfor
      exact ⟨n, hn, hforN, herrand.symm, hnumber.symm⟩

end Kept

def AllStarted (s : WorkState) : Prop :=
  ∀ a ∈ s.items, s.IsStopped a → ∀ m ∈ s.admitted, m.IsFor a → m ∈ s.started

theorem started_subset (hstep : workStep settings s l = some t) : s.started ⊆ t.started := by
  have hsame : ∀ {u : WorkState}, some u = some t → u.started = s.started →
      s.started ⊆ t.started := by
    intro u hu hstarted
    cases hu
    exact hstarted ▸ List.Subset.refl _
  cases l with
  | transaction label =>
    obtain ⟨u, -, rfl⟩ := Option.map_eq_some_iff.mp hstep
    exact List.Subset.refl _
  | enqueue eventId number => exact hsame hstep rfl
  | start attempt =>
    obtain ⟨-, hu⟩ := Option.ite_none_right_eq_some.mp hstep
    cases hu
    exact fun _ hm => List.mem_insert_of_mem hm
  | _ => exact hsame (Option.ite_none_right_eq_some.mp hstep).2 rfl

theorem opened_of_started (hm : m ∈ s.started) : s.opened m = m := by
  unfold WorkState.opened
  split
  · rfl
  · rw [if_pos hm]

theorem AllStarted.startsNothing (hall : AllStarted s) (h : LifeCycle s.toRecoveryStore)
    (hstep : workStep settings s l = some t) : StartsNothing s t := by
  intro a ha hstopped m hm hfor
  have hsame : ∀ {u : WorkState}, some u = some t → u.started = s.started → m ∈ s.started := by
    intro u hu hstarted
    cases hu
    exact hstarted ▸ hm
  cases l with
  | transaction label =>
    obtain ⟨u, -, rfl⟩ := Option.map_eq_some_iff.mp hstep
    exact hm
  | enqueue eventId number => exact hsame hstep rfl
  | start attempt =>
    obtain ⟨hmem, hu⟩ := Option.ite_none_right_eq_some.mp hstep
    cases hu
    rcases List.mem_insert_iff.mp hm with rfl | hold
    · have hadmitted : attempt ∈ s.admitted :=
        List.mem_append_right _ (List.mem_map.mpr ⟨_, hmem, rfl⟩)
      have hstarted := hall a ha hstopped attempt hadmitted (isFor_of_opened h ha hfor).1
      rw [opened_of_started hstarted]
      exact hstarted
    · exact hold
  | _ => exact hsame (Option.ite_none_right_eq_some.mp hstep).2 rfl

theorem AllStarted.step (hall : AllStarted s) (h : LifeCycle s.toRecoveryStore)
    (hstep : workStep settings s l = some t) (hkeeps : KeepsStopped settings ⟨s, l, t⟩)
    (hcancels : CancelsStarted ⟨s, l, t⟩) : AllStarted t := by
  intro b hb hstopped m hm hfor
  obtain ⟨hitems, -⟩ := workStep_keepsItems h hstep
  rcases hitems.items b hb with ⟨a, ha, hsame, hquiet⟩ | ⟨-, hopen⟩
  · have hjob : s.IsStopped a ∨ l.stops b.recoveryJobId := by
      unfold RecoveryStore.IsStopped
      rw [← hsame.recoveryJobId]
      exact hitems.stopped _ hstopped
    rcases hjob with hbefore | hstops
    · have hforA := isFor_of_notDispatched
        (hquiet hstopped (not_revives hkeeps ha hbefore)) hfor
      rcases admitted_cases h hstep hkeeps ha hbefore hm hforA with hold | ⟨n, rfl, -, rfl⟩
      · exact started_subset hstep (hall a ha hbefore m hold hforA)
      obtain ⟨-, hu⟩ := Option.ite_none_right_eq_some.mp hstep
      cases hu
      exact List.mem_insert_self
    cases l with
    | transaction label =>
      cases label with
      | cancel jobId now =>
        have hforA := isFor_of_notDispatched (hquiet hstopped fun hrevives => hrevives) hfor
        obtain ⟨u, -, rfl⟩ := Option.map_eq_some_iff.mp hstep
        exact hcancels a ha (hsame.recoveryJobId.symm.trans hstops) m hm hforA
      | _ => exact hstops.elim
    | _ => exact hstops.elim
  · exact absurd hstopped hopen

end Attempts

/-- In every run whose steps leave the items of cancelled jobs alone no work is admitted for them;
where each job is cancelled after its attempts have started, no worker starts another one. -/
theorem startsNothing_of_keepsStopped (settings : PipelineSettings) (labels : List WorkLabel)
    (hkeeps : ∀ x ∈ transitions (workStep settings) {} labels, KeepsStopped settings x) :
    (∀ x ∈ transitions (workStep settings) {} labels, AdmitsNothing x.before x.after) ∧
      ((∀ x ∈ transitions (workStep settings) {} labels, CancelsStarted x) →
        ∀ x ∈ transitions (workStep settings) {} labels, StartsNothing x.before x.after) := by
  have hlife : ∀ x ∈ transitions (workStep settings) {} labels,
      LifeCycle x.before.toRecoveryStore :=
    fun x hx => invariant_before (P := fun s : WorkState => LifeCycle s.toRecoveryStore)
      lifeCycle_empty
      (fun y hy hbefore => (workStep_keepsItems hbefore (step_of_mem_transitions hy)).2) hx
  refine ⟨?_, ?_⟩
  · intro x hx
    exact .of_step (hlife x hx) (step_of_mem_transitions hx) (hkeeps x hx)
  intro hcancels x hx
  have hstart : AllStarted {} := by
    intro _ ha
    cases ha
  have hall : AllStarted x.before := by
    refine invariant_before hstart ?_ hx
    intro y hy hbefore
    exact hbefore.step (hlife y hy) (step_of_mem_transitions hy) (hkeeps y hy) (hcancels y hy)
  exact hall.startsNothing (hlife x hx) (step_of_mem_transitions hx)

def replayedItem : RecoveryJobItem where
  id := 2
  recoveryJobId := 1
  memeFileId := some 3
  stage := some .ocr
  workKind := .pipelineStage
  workId := .row 4
  action := .retryStage
  expectedVersion := .row 0 none
  reservationActive := true

def cancelledWhileRunning : List WorkLabel :=
  [.transaction (.replayWork { id := 1, status := .queued, scheduledAt := some 0 } [replayedItem]),
    .transaction (.claim 2 none (.replayStage 10 2) 1), .publish ⟨.message 10, 2, some 2⟩,
    .start ⟨.message 10, 2, some 2⟩, .transaction (.cancel 1 2)]

/-- The running attempt fails and is acknowledged. -/
theorem startsNothing_of_keepsStopped_failed :
    (∀ x ∈ transitions (workStep {}) {} (cancelledWhileRunning ++
        [.failStage 10 ⟨.message 10, 2, some 2⟩ true "ocr_timeout" "timed out" 3]),
      AdmitsNothing x.before x.after) ∧
      ∀ x ∈ transitions (workStep {}) {} (cancelledWhileRunning ++
          [.failStage 10 ⟨.message 10, 2, some 2⟩ true "ocr_timeout" "timed out" 3]),
        StartsNothing x.before x.after := by
  have hrun := startsNothing_of_keepsStopped {} (cancelledWhileRunning ++
    [.failStage 10 ⟨.message 10, 2, some 2⟩ true "ocr_timeout" "timed out" 3]) (by decide)
  exact ⟨hrun.1, hrun.2 (by decide)⟩

/-- The stuck-stage reclaimer dispatches the item of the cancelling job as event 11. -/
theorem not_admitsNothing_reclaimed :
    ¬ ∀ (settings : PipelineSettings) (labels : List WorkLabel),
      ∀ x ∈ transitions (workStep settings) {} labels, AdmitsNothing x.before x.after := by
  intro h
  have hevents : ∀ x ∈ transitions (workStep {}) {} (cancelledWhileRunning ++
      [.transaction (.readLinked 2),
        .transaction (.reattach (attachRecoveryItem replayedItem 10 2 1) 11 3 1000)]),
      ∀ a ∈ x.before.items, x.before.IsStopped a → ∀ b ∈ x.after.items, b.id = a.id →
        b.dispatchEventId = none ∨ b.dispatchEventId = a.dispatchEventId :=
    fun x hx => (h {} _ x hx).events
  revert hevents
  decide

end MemeExpert.Services
