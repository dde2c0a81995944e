import MemeExpert.Services.RecoveryReservations

/-! A job that was cancelled stays so. No transaction but a cancellation makes a job one of
them, and no transaction but a reclaim dispatches an item of theirs. -/

namespace MemeExpert.Services

open Runs Pipeline Messaging

def stoppedJobStatuses : List RecoveryJobStatus := [.cancelling, .cancelled]

def RecoveryStore.Stopped (s : RecoveryStore) (jobId : Uuid) : Prop :=
  (s.jobs jobId).any (fun job => job.status ∈ stoppedJobStatuses) = true

instance (s : RecoveryStore) (jobId : Uuid) : Decidable (s.Stopped jobId) :=
  inferInstanceAs (Decidable (_ = true))

def RecoveryStore.IsStopped (s : RecoveryStore) (item : RecoveryJobItem) : Prop :=
  s.Stopped item.recoveryJobId

instance (s : RecoveryStore) (item : RecoveryJobItem) : Decidable (s.IsStopped item) :=
  inferInstanceAs (Decidable (_ = true))

structure SameItem (a b : RecoveryJobItem) : Prop where
  id : b.id = a.id
  recoveryJobId : b.recoveryJobId = a.recoveryJobId
  key : reservationKey b = reservationKey a

structure NotDispatched (a b : RecoveryJobItem) : Prop extends SameItem a b where
  status : b.status = .dispatched → a.status = .dispatched
  event : b.dispatchEventId = none ∨ b.dispatchEventId = a.dispatchEventId

section Items

variable {a b c : RecoveryJobItem} {now : Time}

theorem SameItem.of_annotates (hab : Annotates a b) (hbc : SameItem b c) : SameItem a c :=
  ⟨hbc.id.trans hab.id, hbc.recoveryJobId.trans hab.recoveryJobId, hbc.key.trans hab.key⟩

theorem NotDispatched.refl (a : RecoveryJobItem) : NotDispatched a a :=
  ⟨⟨rfl, rfl, rfl⟩, id, .inr rfl⟩

theorem NotDispatched.trans (hab : NotDispatched a b) (hbc : NotDispatched b c) :
    NotDispatched a c where
  id := hbc.id.trans hab.id
  recoveryJobId := hbc.recoveryJobId.trans hab.recoveryJobId
  key := hbc.key.trans hab.key
  status h := hab.status (hbc.status h)
  event := by
    rcases hbc.event with hnone | hsame
    · exact .inl hnone
    · rw [hsame]
      exact hab.event

theorem notDispatched_finishItem (a : RecoveryJobItem) {status : RecoveryJobItemStatus}
    (hstatus : status ≠ .dispatched) (reason error : Option String) (now : Time) :
    NotDispatched a (finishItem a status reason error now) :=
  ⟨⟨rfl, rfl, rfl⟩, fun h => absurd h hstatus, .inr rfl⟩

theorem notDispatched_cancelItem (a : RecoveryJobItem) (now : Time) :
    NotDispatched a (cancelItem now a) := by
  unfold cancelItem
  split
  · exact ⟨⟨rfl, rfl, rfl⟩, (fun h => by cases h), .inr rfl⟩
  · exact .refl a

theorem notDispatched_observeOutboxRetryBudget (a : RecoveryJobItem)
    (outbox : RabbitMQOutboxMessage) : NotDispatched a (observeOutboxRetryBudget a outbox) := by
  have hannotates := annotates_observeOutboxRetryBudget a outbox
  refine ⟨⟨hannotates.id, hannotates.recoveryJobId, hannotates.key⟩, ?_, .inr ?_⟩
  · rw [hannotates.status]
    exact id
  unfold observeOutboxRetryBudget
  split
  · unfold observeRecoveryStagePublicationOutcome
    split
    · rfl
    · split <;> rfl
  · cases a.previousStageState.nonStageBudgetConsumedAtDispatch <;> cases outbox.status <;> rfl

theorem sameItem_ite {p : Prop} [Decidable p] (hb : SameItem a b) (hc : SameItem a c) :
    SameItem a (if p then b else c) := by
  split
  · exact hb
  · exact hc

theorem sameItem_requeueAsyncFailure (a : RecoveryJobItem) (jobStatus : Option RecoveryJobStatus)
    (work : WorkLookup) (reason error : Option String) (retryable consumeFailure : Bool) (now : Time) :
    SameItem a (requeueAsyncFailure a jobStatus work reason error retryable consumeFailure now) := by
  cases work with
  | missing cause => exact ⟨rfl, rfl, rfl⟩
  | found version =>
    unfold requeueAsyncFailure
    exact sameItem_ite ⟨rfl, rfl, rfl⟩ ⟨rfl, rfl, rfl⟩

theorem notDispatched_requeueAsyncFailure (a : RecoveryJobItem) {jobStatus : RecoveryJobStatus}
    (hstopped : jobStatus ∉ schedulingJobStatuses) (work : WorkLookup)
    (reason error : Option String) (retryable consumeFailure : Bool) :
    NotDispatched a
      (requeueAsyncFailure a (some jobStatus) work reason error retryable consumeFailure now) := by
  cases work with
  | missing cause => exact notDispatched_finishItem a (by decide) ..
  | found version =>
    unfold requeueAsyncFailure
    simp only [Option.any_some, hstopped, decide_false, Bool.and_false, Bool.false_eq_true, if_false]
    exact ⟨⟨rfl, rfl, rfl⟩, (fun h => by cases h), .inr rfl⟩

theorem sameItem_recordDispatchFailure (a : RecoveryJobItem) (jobStatus : RecoveryJobStatus)
    (work : WorkLookup) (reason error : String) (retryable : Bool) :
    SameItem a (recordDispatchFailure a jobStatus work reason error retryable now) := by
  unfold recordDispatchFailure
  refine sameItem_ite ?_ ⟨rfl, rfl, rfl⟩
  cases work <;> exact ⟨rfl, rfl, rfl⟩

theorem notDispatched_recordDispatchFailure (a : RecoveryJobItem) {jobStatus : RecoveryJobStatus}
    (hstopped : jobStatus ∉ schedulingJobStatuses) (work : WorkLookup) (reason error : String)
    (retryable : Bool) :
    NotDispatched a (recordDispatchFailure a jobStatus work reason error retryable now) := by
  unfold recordDispatchFailure
  simp only [hstopped, decide_false, Bool.and_false, Bool.false_eq_true, if_false]
  exact ⟨⟨rfl, rfl, rfl⟩, (fun h => by cases h), .inr rfl⟩

theorem notDispatched_failedRecoveryItem (a : RecoveryJobItem) (delivery : StageDelivery)
    (failure : StageFailure) (consumesBudget : Bool) (now : Time) :
    NotDispatched a (failedRecoveryItem a delivery failure consumesBudget now) := by
  have hcounted : NotDispatched a (if failure.retryable && consumesBudget then
      consumeRetryBudget a delivery.attempt else a) := by
    split <;> exact ⟨⟨rfl, rfl, rfl⟩, id, .inr rfl⟩
  unfold failedRecoveryItem
  revert hcounted
  generalize (if failure.retryable && consumesBudget then
      consumeRetryBudget a delivery.attempt else a) = counted
  intro hcounted
  dsimp only
  split
  · exact hcounted.trans ⟨⟨rfl, rfl, rfl⟩, (fun h => by cases h), .inr rfl⟩
  · exact hcounted

theorem sameItem_claimOutcome (a : RecoveryJobItem) (outcome : ClaimOutcome) (now : Time) :
    SameItem a (outcome.apply a now) := by
  cases outcome <;> exact ⟨rfl, rfl, rfl⟩

theorem notDispatched_ingestFailedItem (a : RecoveryJobItem) (consumed : Nat)
    (reason error : String) (retryable : Bool) (now : Time) :
    NotDispatched a (ingestFailedItem a consumed reason error retryable now) := by
  cases retryable with
  | true => exact ⟨⟨rfl, rfl, rfl⟩, id, .inr rfl⟩
  | false => exact ⟨⟨rfl, rfl, rfl⟩, (fun h => by cases h), .inr rfl⟩

end Items

/-- What a transaction does to the items of cancelled jobs: only those it revives are dispatched. -/
structure KeepsItems (stops revives : Uuid → Prop) (s t : RecoveryStore) : Prop where
  kept : ∀ jobId, s.Stopped jobId → t.Stopped jobId
  stopped : ∀ jobId, t.Stopped jobId → s.Stopped jobId ∨ stops jobId
  items : ∀ b ∈ t.items,
    (∃ a ∈ s.items, SameItem a b ∧ (t.IsStopped b → ¬ revives a.id → NotDispatched a b)) ∨
      ((∀ a ∈ s.items, a.id ≠ b.id) ∧ ¬ t.IsStopped b)

def RecoveryLabel.revives : RecoveryLabel → Uuid → Prop
  | .reattach loaded .., itemId => itemId = loaded.id
  | .relink linkedId .., itemId => itemId = linkedId
  | _, _ => False

def RecoveryLabel.stops : RecoveryLabel → Uuid → Prop
  | .cancel cancelledId _, jobId => jobId = cancelledId
  | _, _ => False

section Tables

variable {s t u : RecoveryStore} {item item' : RecoveryJobItem} {job job' : RecoveryJob}
  {jobId other : Uuid} {stops revives : Uuid → Prop} {now : Time}

theorem stopped_iff (hjob : s.jobs jobId = some job) :
    s.Stopped jobId ↔ job.status ∈ stoppedJobStatuses := by
  simp [RecoveryStore.Stopped, hjob]

theorem not_stopped_of_none (hnone : s.jobs jobId = none) : ¬ s.Stopped jobId := by
  simp [RecoveryStore.Stopped, hnone]

theorem stopped_saveJob (hsame : job'.status ∈ stoppedJobStatuses ↔ s.Stopped jobId) :
    (s.saveJob jobId job').Stopped other ↔ s.Stopped other := by
  by_cases hother : other = jobId
  · subst hother
    rw [← hsame]
    exact stopped_iff (Function.update_self ..)
  · simp [RecoveryStore.Stopped, RecoveryStore.saveJob, Function.update_of_ne hother]

theorem not_stopped_of_scheduling {status : RecoveryJobStatus}
    (h : status ∈ schedulingJobStatuses) : status ∉ stoppedJobStatuses := by
  revert h
  cases status <;> decide

theorem not_scheduling_of_stopped {status : RecoveryJobStatus}
    (h : status ∈ stoppedJobStatuses) : status ∉ schedulingJobStatuses := fun hscheduling =>
  not_stopped_of_scheduling hscheduling h

theorem KeepsItems.of_jobs (hitems : t.items = s.items)
    (hjobs : ∀ jobId, t.Stopped jobId ↔ s.Stopped jobId) : KeepsItems stops revives s t where
  kept jobId := (hjobs jobId).mpr
  stopped jobId h := .inl ((hjobs jobId).mp h)
  items b hb := .inl ⟨b, hitems ▸ hb, ⟨rfl, rfl, rfl⟩, fun _ _ => .refl b⟩

theorem KeepsItems.then_jobs (h : KeepsItems stops revives s t) (hitems : u.items = t.items)
    (hjobs : ∀ jobId, u.Stopped jobId ↔ t.Stopped jobId) : KeepsItems stops revives s u where
  kept jobId hstopped := (hjobs jobId).mpr (h.kept jobId hstopped)
  stopped jobId hstopped := h.stopped jobId ((hjobs jobId).mp hstopped)
  items b hb := by
    rcases h.items b (hitems ▸ hb) with ⟨a, ha, hsame, hquiet⟩ | ⟨hfresh, hopen⟩
    · exact .inl ⟨a, ha, hsame, fun hstopped => hquiet ((hjobs _).mp hstopped)⟩
    · exact .inr ⟨hfresh, fun hstopped => hopen ((hjobs _).mp hstopped)⟩

theorem KeepsItems.saveItem (h : LifeCycle s) (hitem : item ∈ s.items)
    (hsame : SameItem item item')
    (hquiet : s.IsStopped item → ¬ revives item.id → NotDispatched item item') :
    KeepsItems stops revives s (s.saveItem item') where
  kept _ := id
  stopped _ := .inl
  items b hb := by
    obtain ⟨a, ha, rfl⟩ := List.mem_map.mp hb
    refine .inl ⟨a, ha, ?_⟩
    split
    · next hid =>
      obtain rfl : a = item := h.eq_of_id ha hitem (hid.trans hsame.id)
      refine ⟨hsame, fun hstopped => hquiet ?_⟩
      have hown : s.Stopped item'.recoveryJobId := hstopped
      rwa [hsame.recoveryJobId] at hown
    · exact ⟨⟨rfl, rfl, rfl⟩, fun _ _ => .refl a⟩

theorem KeepsItems.mapItems (f : RecoveryJobItem → RecoveryJobItem)
    (hf : ∀ item, NotDispatched item (f item)) :
    KeepsItems stops revives s (s.mapItems jobId f) where
  kept _ := id
  stopped _ := .inl
  items b hb := by
    obtain ⟨a, ha, rfl⟩ := List.mem_map.mp hb
    have hkept : NotDispatched a (if a.recoveryJobId = jobId then f a else a) := by
      split
      · exact hf a
      · exact .refl a
    exact .inl ⟨a, ha, hkept.toSameItem, fun _ _ => hkept⟩

theorem KeepsItems.addItems {items : List RecoveryJobItem} {reserve : Bool}
    (hfresh : freshItems s items) (hbuilt : ∀ item ∈ items, IsBuilt jobId reserve item)
    (hitems : t.items = s.items ++ items) (hjobs : ∀ jobId, t.Stopped jobId ↔ s.Stopped jobId)
    (hopen : ¬ s.Stopped jobId) : KeepsItems stops revives s t where
  kept jobId := (hjobs jobId).mpr
  stopped jobId h := .inl ((hjobs jobId).mp h)
  items b hb := by
    rw [hitems, List.mem_append] at hb
    rcases hb with hb | hb
    · exact .inl ⟨b, hb, ⟨rfl, rfl, rfl⟩, fun _ _ => .refl b⟩
    refine .inr ⟨?_, ?_⟩
    · intro a ha hid
      unfold freshItems at hfresh
      rw [List.map_append] at hfresh
      exact List.disjoint_of_nodup_append hfresh (List.mem_map.mpr ⟨a, ha, hid⟩)
        (List.mem_map.mpr ⟨b, hb, rfl⟩)
    intro hstopped
    have hown := (hjobs _).mp hstopped
    rw [(hbuilt b hb).1] at hown
    exact hopen hown

theorem reconcileJob_stopped (hlive : job.status ∈ liveJobStatuses)
    (statuses : List RecoveryJobItemStatus) (now : Time) :
    (reconcileJob job statuses now).status ∈ stoppedJobStatuses ↔
      job.status ∈ stoppedJobStatuses := by
  have hnot : job.status ≠ .cancelled := by
    intro hcancelled
    rw [hcancelled] at hlive
    exact absurd hlive (by decide)
  unfold reconcileJob
  dsimp only
  split
  · by_cases hcancelling : job.status = .cancelling
    · simp [hcancelling, stoppedJobStatuses]
    · have hopen : job.status ∉ stoppedJobStatuses := by
        simp [stoppedJobStatuses, hcancelling, hnot]
      simp only [hcancelling, if_false, hopen, iff_false]
      split <;> decide
  · exact Iff.rfl

theorem stopped_reconcile (jobIds : Option (List Uuid)) :
    (s.reconcile jobIds now).Stopped jobId ↔ s.Stopped jobId := by
  cases hjob : s.jobs jobId with
  | none => simp [RecoveryStore.Stopped, RecoveryStore.reconcile, hjob]
  | some job =>
    have hreconciled : (s.reconcile jobIds now).jobs jobId =
        some (if job.status ∈ liveJobStatuses ∧ jobIds.all (jobId ∈ ·) then
          reconcileJob job (s.statusesOf jobId) now else job) := by
      simp [RecoveryStore.reconcile, hjob]
    rw [stopped_iff hreconciled, stopped_iff hjob]
    split
    · next hlive => exact reconcileJob_stopped hlive.1 ..
    · exact Iff.rfl

theorem keepsItems_cancelBatch (hstep : cancelBatch s jobId now = some t) :
    KeepsItems (· = jobId) revives s t := by
  unfold cancelBatch at hstep
  split at hstep
  · cases hstep
  next job hjob =>
  split at hstep
  · cases hstep
  cases hstep
  refine ⟨?_, ?_, ?_⟩
  · intro other hstopped
    by_cases hother : other = jobId
    · subst hother
      refine (stopped_iff (Function.update_self ..)).mpr ?_
      dsimp only
      split <;> decide
    · simpa [RecoveryStore.Stopped, RecoveryStore.saveJob, RecoveryStore.mapItems,
        Function.update_of_ne hother] using hstopped
  · intro other hstopped
    by_cases hother : other = jobId
    · exact .inr hother
    left
    simpa [RecoveryStore.Stopped, RecoveryStore.saveJob, RecoveryStore.mapItems,
      Function.update_of_ne hother] using hstopped
  intro b hb
  obtain ⟨a, ha, rfl⟩ := List.mem_map.mp hb
  have hkept : NotDispatched a (if a.recoveryJobId = jobId then cancelItem now a else a) := by
    split
    · exact notDispatched_cancelItem a now
    · exact .refl a
  exact .inl ⟨a, ha, hkept.toSameItem, fun _ _ => hkept⟩

theorem keepsItems_scheduleBatch {revalidates : Bool}
    (hstep : scheduleBatch s jobId revalidates now = some t) : KeepsItems stops revives s t := by
  unfold scheduleBatch at hstep
  split at hstep
  · cases hstep
  next job hjob =>
  split at hstep
  · cases hstep
  next hpreview =>
  rw [not_not] at hpreview
  have hopen : ¬ s.Stopped jobId := by
    rw [stopped_iff hjob, hpreview]
    decide
  split at hstep
  · cases hstep
    exact .of_jobs rfl fun _ => stopped_saveJob (by simp [hopen, stoppedJobStatuses])
  split at hstep
  · cases hstep
  obtain ⟨rfl, -⟩ := RecoveryStore.commit_eq_some hstep
  have hmapped : KeepsItems stops revives s
      (s.mapItems jobId fun item => { item with reservationActive := true }) :=
    .mapItems _ fun item => ⟨⟨rfl, rfl, rfl⟩, id, .inr rfl⟩
  refine hmapped.then_jobs rfl fun _ => stopped_saveJob ?_
  have hsame : (s.mapItems jobId fun item =>
      { item with reservationActive := true }).Stopped jobId ↔ s.Stopped jobId := Iff.rfl
  rw [hsame]
  simp [hopen, stoppedJobStatuses]

theorem keepsItems_endPreparation (hjob : s.jobs jobId = some job) (hstatus : job.status = .preparing)
    (hopen : job'.status ∉ stoppedJobStatuses) :
    KeepsItems stops revives s (s.saveJob jobId job') := by
  refine .of_jobs rfl fun _ => stopped_saveJob ?_
  rw [stopped_iff hjob, hstatus]
  exact ⟨fun hstopped => absurd hstopped hopen, fun hstopped => absurd hstopped (by decide)⟩

theorem keepsItems_claim (h : LifeCycle s) (hitem : item ∈ s.items)
    (hjob : s.jobs item.recoveryJobId = some job) (hlive : job.status ∈ schedulingJobStatuses)
    {stageRow : Option Uuid} (hnamed : stageRow.isSome = true → item.stage.isSome = true)
    (outcome : ClaimOutcome) :
    KeepsItems stops revives s
      ((s.saveItem (outcome.apply (stageRow.elim item (nameStageRow item)) now)).saveJob
        item.recoveryJobId { job with status := .running }) := by
  have hannotates : Annotates item (stageRow.elim item (nameStageRow item)) := by
    cases stageRow with
    | none => exact .refl item
    | some rowId => exact annotates_nameStageRow (hnamed rfl) rowId
  have hopen : ¬ s.Stopped item.recoveryJobId := by
    rw [stopped_iff hjob]
    exact not_stopped_of_scheduling hlive
  have hsaved : KeepsItems stops revives s
      (s.saveItem (outcome.apply (stageRow.elim item (nameStageRow item)) now)) := .saveItem h hitem
    (SameItem.of_annotates hannotates (sameItem_claimOutcome _ outcome now))
    fun hstopped => absurd hstopped hopen
  refine hsaved.then_jobs rfl fun _ => stopped_saveJob ?_
  change _ ↔ s.Stopped item.recoveryJobId
  simp [hopen, stoppedJobStatuses]

theorem keepsItems_reconciled (h : LifeCycle s) (hitem : item ∈ s.items)
    (hjob : s.jobs item.recoveryJobId = some job) (outbox : Option RabbitMQOutboxMessage)
    {outcome : ReconcileOutcome} (hadmissible : outcome.admissible = true) :
    KeepsItems stops revives s (s.saveItem (reconciledItem item job.status outbox outcome now)) := by
  have hobserved : NotDispatched item (outbox.elim item (observeOutboxRetryBudget item)) := by
    cases outbox with
    | none => exact .refl item
    | some message => exact notDispatched_observeOutboxRetryBudget item message
  cases outcome with
  | undecided => exact .saveItem h hitem hobserved.toSameItem fun _ _ => hobserved
  | finish status reason error =>
    have hidle : status ≠ .dispatched := by
      rintro rfl
      simp [ReconcileOutcome.admissible] at hadmissible
    have hkept := hobserved.trans (notDispatched_finishItem _ hidle reason error now)
    exact .saveItem h hitem hkept.toSameItem fun _ _ => hkept
  | requeue work reason error retryable consumeFailure =>
    have hsame := sameItem_requeueAsyncFailure
      (outbox.elim item (observeOutboxRetryBudget item)) (some job.status) work reason error
      retryable consumeFailure now
    refine .saveItem h hitem ⟨hsame.id.trans hobserved.id,
      hsame.recoveryJobId.trans hobserved.recoveryJobId, hsame.key.trans hobserved.key⟩ ?_
    intro hstopped _
    exact hobserved.trans (notDispatched_requeueAsyncFailure _
      (not_scheduling_of_stopped ((stopped_iff hjob).mp hstopped)) ..)

theorem lifeStep_keepsItems {label : RecoveryLabel} (h : LifeCycle s)
    (hstep : lifeStep s label = some t) : KeepsItems label.stops label.revives s t := by
  cases label with
  | previewBatch job items =>
    obtain ⟨⟨hnew, hstatus, -, hfresh, hbuilt⟩, rfl⟩ := of_guarded hstep
    have hopen := not_stopped_of_none hnew
    refine .addItems hfresh hbuilt rfl (fun _ => stopped_saveJob ?_) hopen
    change _ ↔ s.Stopped job.id
    rcases hstatus with hstatus | hstatus <;> simp [hstatus, hopen, stoppedJobStatuses]
  | replayWork job items =>
    obtain ⟨⟨hnew, hstatus, -, hfresh, hbuilt⟩, hcommit⟩ := Option.ite_none_right_eq_some.mp hstep
    obtain ⟨rfl, -⟩ := RecoveryStore.commit_eq_some hcommit
    have hopen := not_stopped_of_none hnew
    refine .addItems hfresh hbuilt rfl (fun _ => stopped_saveJob ?_) hopen
    change _ ↔ s.Stopped job.id
    simp [hstatus, hopen, stoppedJobStatuses]
  | materialize jobId items =>
    obtain ⟨⟨hany, hfresh, hbuilt⟩, rfl⟩ := of_guarded hstep
    obtain ⟨job, hjob, hstatus⟩ := (Option.any_eq_true _ _).mp hany
    refine .addItems hfresh hbuilt rfl (fun _ => Iff.rfl) ?_
    rw [stopped_iff hjob, of_decide_eq_true hstatus]
    decide
  | finishMaterialization jobId now =>
    simp only [lifeStep] at hstep
    split at hstep
    · cases hstep
    next job hjob =>
    obtain ⟨hstatus, rfl⟩ := of_guarded hstep
    exact keepsItems_endPreparation hjob hstatus (by simp [stoppedJobStatuses])
  | failPreparation jobId now =>
    simp only [lifeStep] at hstep
    split at hstep
    · cases hstep
    next job hjob =>
    obtain ⟨hstatus, rfl⟩ := of_guarded hstep
    exact keepsItems_endPreparation hjob hstatus (by simp [stoppedJobStatuses])
  | schedule jobId revalidates now => exact keepsItems_scheduleBatch hstep
  | cancel jobId now => exact keepsItems_cancelBatch hstep
  | claim itemId stageRow outcome now =>
    simp only [lifeStep] at hstep
    split at hstep
    · cases hstep
    next item job howned =>
    obtain ⟨hitem, hjob⟩ := RecoveryStore.mem_of_owned (fun _ => RecoveryStore.mem_of_find) howned
    obtain ⟨⟨hlive, -, hnamed⟩, rfl⟩ := of_guarded hstep
    exact keepsItems_claim h hitem hjob hlive hnamed outcome
  | dispatchFailed itemId work reason error retryable now =>
    simp only [lifeStep] at hstep
    split at hstep
    · cases hstep
    next item job howned =>
    obtain ⟨hitem, hjob⟩ := RecoveryStore.mem_of_owned (fun _ => RecoveryStore.mem_of_find) howned
    obtain ⟨-, rfl⟩ := of_guarded hstep
    refine (KeepsItems.saveItem h hitem (sameItem_recordDispatchFailure item job.status ..) ?_)
      |>.then_jobs rfl fun _ => stopped_reconcile _
    intro hstopped _
    exact notDispatched_recordDispatchFailure item
      (not_scheduling_of_stopped ((stopped_iff hjob).mp hstopped)) ..
  | stageFailed delivery failure consumesBudget now =>
    simp only [lifeStep] at hstep
    split at hstep
    · cases hstep
    next item job howned =>
    cases hstep
    obtain ⟨hitem, -⟩ := RecoveryStore.mem_of_owned
      (fun _ hfind => (RecoveryStore.mem_of_findEvent hfind).1) howned
    have hkept := notDispatched_failedRecoveryItem item delivery failure consumesBudget now
    exact .saveItem h hitem hkept.toSameItem fun _ _ => hkept
  | cancellingFailed eventId reason error now =>
    simp only [lifeStep] at hstep
    split at hstep
    · cases hstep
    next item job howned =>
    obtain ⟨hitem, -⟩ := RecoveryStore.mem_of_owned
      (fun _ hfind => (RecoveryStore.mem_of_findEvent hfind).1) howned
    obtain ⟨-, rfl⟩ := of_guarded hstep
    have hkept := notDispatched_finishItem item
      (by decide : RecoveryJobItemStatus.failed ≠ .dispatched) (some reason) (some error) now
    exact .saveItem h hitem hkept.toSameItem fun _ _ => hkept
  | ingestFailed eventId consumed reason error retryable now =>
    simp only [lifeStep] at hstep
    split at hstep
    · cases hstep
    next item job howned =>
    obtain ⟨hitem, -⟩ := RecoveryStore.mem_of_owned
      (fun _ hfind => (RecoveryStore.mem_of_findEvent hfind).1) howned
    obtain ⟨-, rfl⟩ := of_guarded hstep
    have hkept := notDispatched_ingestFailedItem item consumed reason error retryable now
    exact .saveItem h hitem hkept.toSameItem fun _ _ => hkept
  | reconcile itemId outbox outcome now =>
    simp only [lifeStep] at hstep
    split at hstep
    · cases hstep
    next item job howned =>
    obtain ⟨hitem, hjob⟩ := RecoveryStore.mem_of_owned (fun _ => RecoveryStore.mem_of_find) howned
    obtain ⟨⟨-, -, hadmissible⟩, rfl⟩ := of_guarded hstep
    exact keepsItems_reconciled h hitem hjob outbox hadmissible
  | completeSourcePost itemId now =>
    simp only [lifeStep] at hstep
    split at hstep
    · cases hstep
    next item job howned =>
    obtain ⟨hitem, -⟩ := RecoveryStore.mem_of_owned (fun _ => RecoveryStore.mem_of_find) howned
    obtain ⟨-, rfl⟩ := of_guarded hstep
    have hkept := notDispatched_finishItem item
      (by decide : RecoveryJobItemStatus.succeeded ≠ .dispatched) none none now
    exact .saveItem h hitem hkept.toSameItem fun _ _ => hkept
  | skipDependency itemId now =>
    simp only [lifeStep] at hstep
    split at hstep
    · cases hstep
    next item job howned =>
    obtain ⟨hitem, -⟩ := RecoveryStore.mem_of_owned (fun _ => RecoveryStore.mem_of_find) howned
    obtain ⟨-, rfl⟩ := of_guarded hstep
    have hkept := notDispatched_finishItem item
      (by decide : RecoveryJobItemStatus.skippedDependency ≠ .dispatched) (some "parent_step_failed")
      (some "A prerequisite Replay & Repair step did not succeed.") now
    exact .saveItem h hitem hkept.toSameItem fun _ _ => hkept
  | reconcileJobs jobIds now =>
    cases hstep
    exact .of_jobs rfl fun _ => stopped_reconcile jobIds
  | readLinked itemId =>
    simp only [lifeStep] at hstep
    split at hstep
    · cases hstep
    · obtain ⟨-, rfl⟩ := of_guarded hstep
      exact .of_jobs rfl fun _ => Iff.rfl
  | reattach loaded eventId attempt now =>
    simp only [lifeStep] at hstep
    split at hstep
    · cases hstep
    next current hfind =>
    obtain ⟨-, rfl⟩ := of_guarded hstep
    have hid : current.id = loaded.id := by simpa using List.find?_some hfind
    refine .saveItem h (RecoveryStore.mem_of_find hfind) ⟨rfl, rfl, rfl⟩ ?_
    intro _ hrevives
    exact absurd hid hrevives
  | relink itemId eventId now =>
    simp only [lifeStep] at hstep
    split at hstep
    · cases hstep
    next item hfind =>
    obtain ⟨-, rfl⟩ := of_guarded hstep
    have hid : item.id = itemId := by simpa using List.find?_some hfind
    refine .saveItem h (RecoveryStore.mem_of_find hfind) ⟨rfl, rfl, rfl⟩ ?_
    intro _ hrevives
    exact absurd hid hrevives

end Tables

end MemeExpert.Services
