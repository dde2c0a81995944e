import Mathlib.Data.List.Nodup
import MemeExpert.Lib.Runs
import MemeExpert.Services.AdminRecovery

/-! Every transaction that touches a recovery job or item, in any order. -/

namespace MemeExpert.Services

open Runs Pipeline

inductive ClaimOutcome where
  | waitForCapacity (reason error : String)
  | stale (reason error : String)
  | replayStage (eventId : Uuid) (attempt : Nat)
  | replayAdminStage (entry : PipelineStageJournal) (eventId : Uuid)
  | reinspectIngest (eventId : Uuid)
  | rebuildOutbox (outbox : RabbitMQOutboxMessage)
  | dispatchTelegram (attemptCount : Nat)
  | archiveDeadLetter

inductive ReconcileOutcome where
  | undecided
  | finish (status : RecoveryJobItemStatus) (reason error : Option String)
  | requeue (work : WorkLookup) (reason error : Option String) (retryable consumeFailure : Bool)

inductive RecoveryLabel where
  | previewBatch (job : RecoveryJob) (items : List RecoveryJobItem)
  | replayWork (job : RecoveryJob) (items : List RecoveryJobItem)
  | materialize (jobId : Uuid) (items : List RecoveryJobItem)
  | finishMaterialization (jobId : Uuid) (now : Time)
  | failPreparation (jobId : Uuid) (now : Time)
  | schedule (jobId : Uuid) (revalidates : Bool) (now : Time)
  | cancel (jobId : Uuid) (now : Time)
  | claim (itemId : Uuid) (stageRow : Option Uuid) (outcome : ClaimOutcome) (now : Time)
  | dispatchFailed (itemId : Uuid) (work : WorkLookup) (reason error : String) (retryable : Bool)
      (now : Time)
  | stageFailed (delivery : StageDelivery) (failure : StageFailure) (consumesBudget : Bool)
      (now : Time)
  | cancellingFailed (eventId : Uuid) (reason error : String) (now : Time)
  | ingestFailed (eventId : Uuid) (consumed : Nat) (reason error : String) (retryable : Bool)
      (now : Time)
  | reconcile (itemId : Uuid) (outbox : Option RabbitMQOutboxMessage) (outcome : ReconcileOutcome)
      (now : Time)
  | completeSourcePost (itemId : Uuid) (now : Time)
  | skipDependency (itemId : Uuid) (now : Time)
  | reconcileJobs (jobIds : Option (List Uuid)) (now : Time)
  | readLinked (itemId : Uuid)
  | reattach (loaded : RecoveryJobItem) (eventId : Uuid) (attempt : Nat) (now : Time)
  | relink (itemId eventId : Uuid) (now : Time)

def ClaimOutcome.apply (outcome : ClaimOutcome) (item : RecoveryJobItem) (now : Time) :
    RecoveryJobItem :=
  match outcome with
  | .waitForCapacity reason error => Services.waitForCapacity item reason error
  | .stale reason error => finishItem item .skippedStale (some reason) (some error) now
  | .replayStage eventId attempt => attachRecoveryItem item eventId attempt now
  | .replayAdminStage entry eventId => adminReplayItem item entry eventId now
  | .reinspectIngest eventId => Services.reinspectIngest item eventId now
  | .rebuildOutbox outbox => Services.rebuildOutbox item outbox now
  | .dispatchTelegram attemptCount => Services.dispatchTelegram item attemptCount now
  | .archiveDeadLetter => finishItem item .succeeded none none now

def reconciledItem (item : RecoveryJobItem) (jobStatus : RecoveryJobStatus)
    (outbox : Option RabbitMQOutboxMessage) (outcome : ReconcileOutcome) (now : Time) :
    RecoveryJobItem :=
  let observed := outbox.elim item (observeOutboxRetryBudget item)
  match outcome with
  | .undecided => observed
  | .finish status reason error => finishItem observed status reason error now
  | .requeue work reason error retryable consumeFailure =>
    requeueAsyncFailure observed (some jobStatus) work reason error retryable consumeFailure now

def ReconcileOutcome.admissible : ReconcileOutcome → Bool
  | .finish status _ _ => status ∈ [RecoveryJobItemStatus.succeeded, .failed, .skippedStale]
  | .undecided | .requeue .. => true

def recoveryDispatchStaleAfter : Nat := 900

def itemEligible (s : RecoveryStore) (now : Time) (item : RecoveryJobItem) : Bool :=
  (item.status ∈ waitingItemStatuses ∧
    (item.parentItemId.all fun parentId =>
      (s.find parentId).any fun parent => parent.status = .succeeded)) ∨
  (item.status = .dispatched ∧
    (item.dispatchedAt.any fun dispatched => dispatched < now - recoveryDispatchStaleAfter) ∧
    item.dispatchEventId = none ∧ item.workKind ≠ .backfill)

def liveJobStatuses : List RecoveryJobStatus := [.queued, .running, .cancelling]

def settledJobStatuses : List RecoveryJobStatus := [.completed, .completedWithFailures, .cancelled]

def RecoveryStore.owned (s : RecoveryStore) (item : Option RecoveryJobItem) :
    Option (RecoveryJobItem × RecoveryJob) :=
  item.bind fun found => (s.jobs found.recoveryJobId).map fun job => (found, job)

/-- `_reconcile_jobs` on the live jobs, or on those of them it is given. -/
def RecoveryStore.reconcile (s : RecoveryStore) (jobIds : Option (List Uuid)) (now : Time) :
    RecoveryStore :=
  { s with
    jobs := fun jobId => (s.jobs jobId).map fun job =>
      if job.status ∈ liveJobStatuses ∧ jobIds.all (jobId ∈ ·) then
        reconcileJob job (s.statusesOf jobId) now
      else job }

def ingestFailedItem (item : RecoveryJobItem) (consumed : Nat) (reason error : String)
    (retryable : Bool) (now : Time) : RecoveryJobItem :=
  let counted : RecoveryJobItem :=
    { item with
      retryableFailuresConsumed :=
        if retryable then max item.retryableFailuresConsumed consumed
        else item.retryableFailuresConsumed
      normalizedReason := some reason
      safeErrorText := some error }
  if retryable then counted
  else { counted with status := .failed, finishedAt := some now, reservationActive := false }

def freshItems (s : RecoveryStore) (items : List RecoveryJobItem) : Prop :=
  ((s.items ++ items).map (·.id)).Nodup

instance (s : RecoveryStore) (items : List RecoveryJobItem) : Decidable (freshItems s items) :=
  inferInstanceAs (Decidable (List.Nodup _))

def lifeStep (s : RecoveryStore) : RecoveryLabel → Option RecoveryStore
  | .previewBatch job items =>
    if s.jobs job.id = none ∧ (job.status = .preparing ∨ job.status = .preview) ∧
        job.scheduledAt = none ∧ freshItems s items ∧
        (∀ item ∈ items, IsBuilt job.id false item) then
      some ((s.addItems items).saveJob job.id job)
    else none
  | .replayWork job items =>
    if s.jobs job.id = none ∧ job.status = .queued ∧ job.scheduledAt.isSome ∧ freshItems s items ∧
        (∀ item ∈ items, IsBuilt job.id true item) then
      ((s.addItems items).saveJob job.id job).commit
    else none
  | .materialize jobId items =>
    if (s.jobs jobId).any (fun job => job.status = .preparing) ∧ freshItems s items ∧
        (∀ item ∈ items, IsBuilt jobId false item) then
      some (s.addItems items)
    else none
  | .finishMaterialization jobId now =>
    match s.jobs jobId with
    | none => none
    | some job =>
      if job.status = .preparing then
        some (s.saveJob jobId { job with status := .preview, expiresAt := some now })
      else none
  | .failPreparation jobId now =>
    match s.jobs jobId with
    | none => none
    | some job =>
      if job.status = .preparing then
        some (s.saveJob jobId
          { job with
            status := .completedWithFailures
            counts := { job.counts with failedCount := max job.counts.failedCount 1 }
            completedAt := some now })
      else none
  | .schedule jobId revalidates now => scheduleBatch s jobId revalidates now
  | .cancel jobId now => cancelBatch s jobId now
  | .claim itemId stageRow outcome now =>
    match s.owned (s.find itemId) with
    | none => none
    | some (item, job) =>
      if job.status ∈ schedulingJobStatuses ∧ itemEligible s now item ∧
          (stageRow.isSome → item.stage.isSome) then
        let named := stageRow.elim item (nameStageRow item)
        some ((s.saveItem (outcome.apply named now)).saveJob item.recoveryJobId
          { job with status := .running })
      else none
  | .dispatchFailed itemId work reason error retryable now =>
    match s.owned (s.find itemId) with
    | none => none
    | some (item, job) =>
      -- the item was claimed before, so its job was scheduled
      if job.scheduledAt.isSome ∧ item.status ∉ terminalItemStatuses then
        let failed := s.saveItem
          (recordDispatchFailure item job.status work reason error retryable now)
        some (failed.reconcile (some [item.recoveryJobId]) now)
      else none
  | .stageFailed delivery failure consumesBudget now =>
    match s.owned (s.findEvent delivery.eventId) with
    | none => none
    | some (item, _) =>
      some (s.saveItem (failedRecoveryItem item delivery failure consumesBudget now))
  | .cancellingFailed eventId reason error now =>
    match s.owned (s.findEvent eventId) with
    | none => none
    | some (item, job) =>
      if job.status = .cancelling ∧ item.status = .dispatched then
        some (s.saveItem (finishItem item .failed (some reason) (some error) now))
      else none
  | .ingestFailed eventId consumed reason error retryable now =>
    match s.owned (s.findEvent eventId) with
    | none => none
    | some (item, _) =>
      if item.workKind = .ingestRequest ∧ item.status = .dispatched then
        some (s.saveItem (ingestFailedItem item consumed reason error retryable now))
      else none
  | .reconcile itemId outbox outcome now =>
    match s.owned (s.find itemId) with
    | none => none
    | some (item, job) =>
      if job.status ∈ liveJobStatuses ∧ item.status = .dispatched ∧ outcome.admissible then
        some (s.saveItem (reconciledItem item job.status outbox outcome now))
      else none
  | .completeSourcePost itemId now =>
    match s.owned (s.find itemId) with
    | none => none
    | some (item, _) =>
      if item.status = .dispatched then
        some (s.saveItem (finishItem item .succeeded none none now))
      else none
  | .skipDependency itemId now =>
    match s.owned (s.find itemId) with
    | none => none
    | some (item, job) =>
      if job.status ∈ liveJobStatuses ∧ item.status = .waitingDependency ∧
          (item.parentItemId.any fun parentId => (s.find parentId).any fun parent =>
            parent.status ∈ terminalItemStatuses ∧ parent.status ≠ .succeeded) then
        some (s.saveItem (finishItem item .skippedDependency (some "parent_step_failed")
          (some "A prerequisite Replay & Repair step did not succeed.") now))
      else none
  | .reconcileJobs jobIds now => some (s.reconcile jobIds now)
  | .readLinked itemId =>
    match s.find itemId with
    | none => none
    | some item =>
      if item.status = .dispatched then some { s with linked := item :: s.linked } else none
  | .reattach loaded eventId attempt now =>
    match s.find loaded.id with
    | none => none
    | some current =>
      if loaded ∈ s.linked then
        some (s.saveItem
          (RecoveryJobItem.writeBack loaded (attachRecoveryItem loaded eventId attempt now) current))
      else none
  | .relink itemId eventId now =>
    match s.find itemId with
    | none => none
    | some item =>
      if item.status = .dispatched then
        some (s.saveItem (relinkedItem item eventId now))
      else none

structure ItemFits (job : RecoveryJob) (item : RecoveryJobItem) : Prop where
  reservation : item.reservationActive = true ↔
    job.scheduledAt.isSome = true ∧ item.status ∈ activeItemStatuses
  idle : job.scheduledAt = none → item.status ≠ .dispatched ∧ item.dispatchEventId = none
  settled : job.scheduledAt.isSome = true → job.status ∈ settledJobStatuses →
    item.status ∈ terminalItemStatuses
  previewed : job.status = .preparing ∨ job.status = .preview → item.status ∈ activeItemStatuses

structure JobFits (job : RecoveryJob) : Prop where
  live : job.status ∈ liveJobStatuses → job.scheduledAt.isSome = true
  previewed : job.status = .preparing ∨ job.status = .preview → job.scheduledAt = none

structure LifeCycle (s : RecoveryStore) : Prop where
  ids : (s.items.map (·.id)).Nodup
  jobs : ∀ jobId job, s.jobs jobId = some job → JobFits job
  fits : ∀ item ∈ s.items, ∃ job, s.jobs item.recoveryJobId = some job ∧ ItemFits job item
  unique : s.items.Pairwise fun a b => ¬ Conflict a b
  linked : ∀ loaded ∈ s.linked, loaded.status = .dispatched ∧ loaded.reservationActive = true ∧
    loaded.id ∈ s.items.map (·.id) ∧
    ∀ item ∈ s.items, item.id = loaded.id → ∀ job, s.jobs item.recoveryJobId = some job →
      job.scheduledAt.isSome = true

def CountsSettled (s : RecoveryStore) : Prop :=
  ∀ jobId job, s.jobs jobId = some job → job.scheduledAt.isSome = true →
    job.status ∈ settledJobStatuses → job.counts = jobCounts (s.statusesOf jobId)

def KeepsTerminal (s t : RecoveryStore) : Prop :=
  ∀ a ∈ s.items, a.status ∈ terminalItemStatuses →
    ∃ b ∈ t.items, b.id = a.id ∧ b.status = a.status

structure Advances (s t : RecoveryStore) : Prop where
  life : LifeCycle t
  keeps : KeepsTerminal s t
  counts : CountsSettled s → CountsSettled t

structure ItemMoved (job : RecoveryJob) (a b : RecoveryJobItem) : Prop where
  id : b.id = a.id
  recoveryJobId : b.recoveryJobId = a.recoveryJobId
  key : reservationKey b = reservationKey a
  fits : ItemFits job b

section Primitives

variable {s t u : RecoveryStore} {item item' : RecoveryJobItem} {job job' : RecoveryJob}
  {jobId : Uuid}

theorem Advances.trans (hst : Advances s t) (htu : Advances t u) : Advances s u where
  life := htu.life
  keeps a ha hterminal := by
    obtain ⟨b, hb, hid, hstatus⟩ := hst.keeps a ha hterminal
    obtain ⟨c, hc, hcid, hcstatus⟩ := htu.keeps b hb (hstatus ▸ hterminal)
    exact ⟨c, hc, hcid.trans hid, hcstatus.trans hstatus⟩
  counts h := htu.counts (hst.counts h)

theorem LifeCycle.eq_of_id (h : LifeCycle s) (hitem : item ∈ s.items) (hitem' : item' ∈ s.items)
    (hid : item.id = item'.id) : item = item' :=
  List.inj_on_of_nodup_map h.ids hitem hitem' hid

theorem Conflict.of_moved {a b a' b' : RecoveryJobItem} (h : Conflict a' b')
    (ha : a'.reservationActive = true → a.reservationActive = true)
    (hb : b'.reservationActive = true → b.reservationActive = true)
    (hakey : reservationKey a' = reservationKey a) (hbkey : reservationKey b' = reservationKey b) :
    Conflict a b := by
  obtain ⟨haActive, hbActive, hsome, hsame⟩ := h
  rw [hakey] at hsome hsame
  rw [hbkey] at hsame
  exact ⟨ha haActive, hb hbActive, hsome, hsame⟩

variable {f : RecoveryJobItem → RecoveryJobItem} {items : List RecoveryJobItem}
  {jobs' : Uuid → Option RecoveryJob}

theorem ids_map_of_moved (hmoved : ∀ item ∈ items, ∃ job', jobs' item.recoveryJobId = some job' ∧
      ItemMoved job' item (f item)) :
    (items.map f).map (·.id) = items.map (·.id) := by
  rw [List.map_map]
  refine List.map_congr_left fun item hitem => ?_
  obtain ⟨_, _, hmove⟩ := hmoved item hitem
  exact hmove.id

theorem LifeCycle.map (h : LifeCycle s) (f : RecoveryJobItem → RecoveryJobItem)
    (jobs' : Uuid → Option RecoveryJob)
    (hjobs : ∀ jobId job', jobs' jobId = some job' → JobFits job' ∧
      ∀ job, s.jobs jobId = some job → job.scheduledAt.isSome = true →
        job'.scheduledAt.isSome = true)
    (hmoved : ∀ item ∈ s.items, ∃ job', jobs' item.recoveryJobId = some job' ∧
      ItemMoved job' item (f item))
    (hunique : (s.items.map f).Pairwise fun a b => ¬ Conflict a b) :
    LifeCycle { s with jobs := jobs', items := s.items.map f } where
  ids := by
    rw [ids_map_of_moved hmoved]
    exact h.ids
  jobs jobId job' hjob' := (hjobs jobId job' hjob').1
  fits written hwritten := by
    obtain ⟨item, hitem, rfl⟩ := List.mem_map.mp hwritten
    obtain ⟨job', hjob', hmove⟩ := hmoved item hitem
    exact ⟨job', by rw [hmove.recoveryJobId]; exact hjob', hmove.fits⟩
  unique := hunique
  linked loaded hloaded := by
    obtain ⟨hstatus, hactive, hmem, hscheduled⟩ := h.linked loaded hloaded
    refine ⟨hstatus, hactive, (ids_map_of_moved hmoved).symm ▸ hmem, ?_⟩
    intro written hwritten hid job' hjob'
    obtain ⟨item, hitem, rfl⟩ := List.mem_map.mp hwritten
    obtain ⟨_, _, hmove⟩ := hmoved item hitem
    obtain ⟨job, hjob, -⟩ := h.fits item hitem
    change jobs' (f item).recoveryJobId = some job' at hjob'
    rw [hmove.recoveryJobId] at hjob'
    exact (hjobs _ job' hjob').2 job hjob
      (hscheduled item hitem (hmove.id ▸ hid) job hjob)

theorem pairwise_map_of_moved (h : LifeCycle s)
    (hkey : ∀ item ∈ s.items, reservationKey (f item) = reservationKey item)
    (hreserved : ∀ item ∈ s.items, (f item).reservationActive = true →
      item.reservationActive = true) :
    (s.items.map f).Pairwise fun a b => ¬ Conflict a b := by
  rw [List.pairwise_map]
  refine h.unique.imp_of_mem ?_
  intro a b ha hb hfree hconflict
  exact hfree (hconflict.of_moved (hreserved a ha) (hreserved b hb) (hkey a ha) (hkey b hb))

theorem statusesOf_map (hjob : ∀ item ∈ items, (f item).recoveryJobId = item.recoveryJobId)
    (hstatus : ∀ item ∈ items, item.recoveryJobId = jobId → (f item).status = item.status) :
    ((items.map f).filter fun item => item.recoveryJobId = jobId).map (·.status) =
      (items.filter fun item => item.recoveryJobId = jobId).map (·.status) := by
  induction items with
  | nil => rfl
  | cons first rest ih =>
    have hrest := ih (fun item hitem => hjob item (List.mem_cons_of_mem _ hitem))
      (fun item hitem => hstatus item (List.mem_cons_of_mem _ hitem))
    have hfirst := hjob first List.mem_cons_self
    by_cases hown : first.recoveryJobId = jobId
    · have hkept := hstatus first List.mem_cons_self hown
      simp only [List.map_cons, List.filter_cons, hfirst, hown, decide_true, if_true, hkept, hrest]
    · simp only [List.map_cons, List.filter_cons, hfirst, hown, decide_false, Bool.false_eq_true,
        if_false, hrest]

theorem LifeCycle.saveItem (h : LifeCycle s) (hitem : item ∈ s.items)
    (hjob : s.jobs item.recoveryJobId = some job) (hmoved : ItemMoved job item item')
    (hreserved : item'.reservationActive = true → item.reservationActive = true) :
    LifeCycle (s.saveItem item') := by
  have hsaved : ∀ other ∈ s.items,
      (other.id = item'.id ∧ other = item) ∨ other.id ≠ item'.id := by
    intro other hother
    by_cases hid : other.id = item'.id
    · exact .inl ⟨hid, h.eq_of_id hother hitem (hid.trans hmoved.id)⟩
    · exact .inr hid
  refine h.map _ s.jobs (fun jobId found hfound => ⟨h.jobs jobId found hfound, ?_⟩) ?_
    (pairwise_map_of_moved h ?_ ?_)
  · intro old hold hscheduled
    rw [hold] at hfound
    cases hfound
    exact hscheduled
  · intro other hother
    rcases hsaved other hother with ⟨hid, rfl⟩ | hid
    · rw [if_pos hid]
      exact ⟨job, hjob, hmoved⟩
    rw [if_neg hid]
    obtain ⟨found, hfound, hfits⟩ := h.fits other hother
    exact ⟨found, hfound, rfl, rfl, rfl, hfits⟩
  · intro other hother
    rcases hsaved other hother with ⟨hid, rfl⟩ | hid
    · rw [if_pos hid]
      exact hmoved.key
    · rw [if_neg hid]
  intro other hother
  rcases hsaved other hother with ⟨hid, rfl⟩ | hid
  · rw [if_pos hid]
    exact hreserved
  · rw [if_neg hid]
    exact id

theorem Advances.saveItem (h : LifeCycle s) (hitem : item ∈ s.items)
    (hjob : s.jobs item.recoveryJobId = some job) (hmoved : ItemMoved job item item')
    (hreserved : item'.reservationActive = true → item.reservationActive = true)
    (hkept : item.status ∈ terminalItemStatuses → item'.status = item.status) :
    Advances s (s.saveItem item') where
  life := h.saveItem hitem hjob hmoved hreserved
  keeps a ha hterminal := by
    by_cases hid : a.id = item'.id
    · have hsame : a = item := h.eq_of_id ha hitem (hid.trans hmoved.id)
      subst hsame
      exact ⟨item', List.mem_map.mpr ⟨a, ha, if_pos hid⟩, hid.symm, hkept hterminal⟩
    · exact ⟨a, List.mem_map.mpr ⟨a, ha, if_neg hid⟩, rfl, rfl⟩
  counts hcounts := by
    intro jobId settled hsettled hscheduled hstatus
    change s.jobs jobId = some settled at hsettled
    rw [hcounts jobId settled hsettled hscheduled hstatus]
    refine congrArg jobCounts (statusesOf_map ?_ ?_).symm
    · intro other hother
      split
      · next hid =>
        rw [hmoved.recoveryJobId, h.eq_of_id hother hitem (hid.trans hmoved.id)]
      · rfl
    intro other hother hown
    split
    · next hid =>
      have hsame : other = item := h.eq_of_id hother hitem (hid.trans hmoved.id)
      subst hsame
      obtain ⟨found, hfound, hfits⟩ := h.fits other hother
      rw [hown, hsettled] at hfound
      cases hfound
      exact hkept (hfits.settled hscheduled hstatus)
    · rfl

theorem Advances.mapJobs (h : LifeCycle s)
    (g : Uuid → RecoveryJob → RecoveryJob) (hjobs : ∀ jobId, jobs' jobId = (s.jobs jobId).map (g jobId))
    (hfits : ∀ jobId job, s.jobs jobId = some job → JobFits (g jobId job))
    (hscheduled : ∀ jobId job, s.jobs jobId = some job →
      (g jobId job).scheduledAt = job.scheduledAt)
    (hitems : ∀ item ∈ s.items, ∀ job, s.jobs item.recoveryJobId = some job → ItemFits job item →
      ItemFits (g item.recoveryJobId job) item)
    (hcounts : ∀ jobId job, s.jobs jobId = some job → (g jobId job).status ∈ settledJobStatuses →
      job.scheduledAt.isSome = true →
        (job.status ∈ settledJobStatuses ∧ (g jobId job).counts = job.counts) ∨
          (g jobId job).counts = jobCounts (s.statusesOf jobId)) :
    Advances s { s with jobs := jobs' } where
  life := by
    have hfound : ∀ jobId job', jobs' jobId = some job' →
        ∃ job, s.jobs jobId = some job ∧ g jobId job = job' := by
      intro jobId job' hjob'
      rw [hjobs, Option.map_eq_some_iff] at hjob'
      exact hjob'
    have hlife := h.map id jobs' ?_ ?_ (by rw [List.map_id]; exact h.unique)
    · rw [List.map_id] at hlife
      exact hlife
    · intro jobId job' hjob'
      obtain ⟨job, hjob, rfl⟩ := hfound jobId job' hjob'
      refine ⟨hfits jobId job hjob, ?_⟩
      intro old hold hold'
      rw [hjob] at hold
      cases hold
      rw [hscheduled jobId job hjob]
      exact hold'
    intro item hitem
    obtain ⟨job, hjob, hfit⟩ := h.fits item hitem
    exact ⟨g item.recoveryJobId job, by rw [hjobs, hjob]; rfl, rfl, rfl, rfl,
      hitems item hitem job hjob hfit⟩
  keeps a ha _ := ⟨a, ha, rfl, rfl⟩
  counts hsettled := by
    intro jobId job' hjob' hsome hstatus
    change jobs' jobId = some job' at hjob'
    rw [hjobs, Option.map_eq_some_iff] at hjob'
    obtain ⟨job, hjob, rfl⟩ := hjob'
    rw [hscheduled jobId job hjob] at hsome
    rcases hcounts jobId job hjob hstatus hsome with ⟨hold, hsame⟩ | hcounted
    · rw [hsame]
      exact hsettled jobId job hjob hsome hold
    · exact hcounted

theorem Advances.saveJob (h : LifeCycle s) (hjob : s.jobs jobId = some job) (hfits : JobFits job')
    (hscheduled : job'.scheduledAt = job.scheduledAt)
    (hitems : ∀ item ∈ s.items, item.recoveryJobId = jobId → ItemFits job item →
      ItemFits job' item)
    (hopen : job.scheduledAt.isSome = true → job'.status ∉ settledJobStatuses) :
    Advances s (s.saveJob jobId job') := by
  refine Advances.mapJobs h (fun other found => if other = jobId then job' else found) ?_ ?_ ?_ ?_ ?_
  · intro other
    by_cases hsame : other = jobId
    · subst hsame
      simp [hjob]
    · simp [hsame]
  · intro other found hfound
    split
    · exact hfits
    · exact h.jobs other found hfound
  · intro other found hfound
    split
    · next hsame =>
      subst hsame
      rw [hjob] at hfound
      cases hfound
      exact hscheduled
    · rfl
  · intro item hitem found hfound hfit
    split
    · next hsame =>
      rw [hsame, hjob] at hfound
      cases hfound
      exact hitems item hitem hsame hfit
    · exact hfit
  intro other found hfound hsettled hsome
  split at hsettled
  · next hsame =>
    subst hsame
    rw [hjob] at hfound
    cases hfound
    exact absurd hsettled (hopen hsome)
  · next hne =>
    rw [if_neg hne]
    exact .inl ⟨hsettled, rfl⟩

theorem Advances.insert (h : LifeCycle s) (hfresh : freshItems s items)
    (hjobs : ∀ jobId job', jobs' jobId = some job' → JobFits job' ∧
      (job'.status ∈ settledJobStatuses → s.jobs jobId = some job'))
    (hold : ∀ jobId job, s.jobs jobId = some job → jobs' jobId = some job)
    (hitems : ∀ item ∈ items, ∃ job', jobs' item.recoveryJobId = some job' ∧ ItemFits job' item ∧
      job'.status ∉ settledJobStatuses)
    (hunique : (s.items ++ items).Pairwise fun a b => ¬ Conflict a b) :
    Advances s { s with jobs := jobs', items := s.items ++ items } where
  life :=
    { ids := hfresh
      jobs := fun jobId job' hjob' => (hjobs jobId job' hjob').1
      fits := by
        intro item hitem
        rcases List.mem_append.mp hitem with hitem | hitem
        · obtain ⟨job, hjob, hfit⟩ := h.fits item hitem
          exact ⟨job, hold _ job hjob, hfit⟩
        · obtain ⟨job', hjob', hfit, -⟩ := hitems item hitem
          exact ⟨job', hjob', hfit⟩
      unique := hunique
      linked := by
        intro loaded hloaded
        obtain ⟨hstatus, hactive, hmem, hscheduled⟩ := h.linked loaded hloaded
        refine ⟨hstatus, hactive, ?_, ?_⟩
        · rw [List.map_append]
          exact List.mem_append_left _ hmem
        intro item hitem hid job' hjob'
        rcases List.mem_append.mp hitem with hitem | hitem
        · obtain ⟨job, hjob, -⟩ := h.fits item hitem
          have hsame := hold _ job hjob
          change jobs' item.recoveryJobId = some job' at hjob'
          rw [hjob'] at hsame
          cases hsame
          exact hscheduled item hitem hid _ hjob
        unfold freshItems at hfresh
        rw [List.map_append] at hfresh
        have hdisjoint := List.disjoint_of_nodup_append hfresh
        exact absurd (hid ▸ List.mem_map.mpr ⟨item, hitem, rfl⟩) (hdisjoint hmem) }
  keeps a ha _ := ⟨a, List.mem_append_left _ ha, rfl, rfl⟩
  counts hcounts := by
    intro jobId job' hjob' hscheduled hsettled
    have hbefore := (hjobs jobId job' hjob').2 hsettled
    rw [hcounts jobId job' hbefore hscheduled hsettled]
    have hnone : items.filter (fun item => item.recoveryJobId = jobId) = [] := by
      rw [List.filter_eq_nil_iff]
      intro item hitem hown
      obtain ⟨found, hfound, -, hopen⟩ := hitems item hitem
      rw [of_decide_eq_true hown] at hfound
      change jobs' jobId = some job' at hjob'
      rw [hjob'] at hfound
      cases hfound
      exact hopen hsettled
    simp only [RecoveryStore.statusesOf, RecoveryStore.itemsOf, List.filter_append, hnone,
      List.append_nil]

end Primitives

structure Rewrites (a b : RecoveryJobItem) : Prop where
  id : b.id = a.id
  recoveryJobId : b.recoveryJobId = a.recoveryJobId
  key : reservationKey b = reservationKey a
  reservation : b.reservationActive = true ↔ b.status ∈ activeItemStatuses

structure Annotates (a b : RecoveryJobItem) : Prop where
  id : b.id = a.id
  recoveryJobId : b.recoveryJobId = a.recoveryJobId
  key : reservationKey b = reservationKey a
  status : b.status = a.status
  reservationActive : b.reservationActive = a.reservationActive

section Items

variable {a b c : RecoveryJobItem} {now : Time}

theorem Rewrites.of_annotates (hab : Annotates a b) (hbc : Rewrites b c) : Rewrites a c :=
  ⟨hbc.id.trans hab.id, hbc.recoveryJobId.trans hab.recoveryJobId, hbc.key.trans hab.key,
    hbc.reservation⟩

theorem Annotates.rewrites (h : Annotates a b) (hactive : a.status ∈ activeItemStatuses)
    (hreserved : a.reservationActive = true) : Rewrites a b :=
  ⟨h.id, h.recoveryJobId, h.key, by rw [h.reservationActive, h.status]; simp [hactive, hreserved]⟩

theorem mem_terminal_failed : RecoveryJobItemStatus.failed ∈ terminalItemStatuses := by decide

theorem mem_terminal_skippedStale : RecoveryJobItemStatus.skippedStale ∈ terminalItemStatuses := by
  decide

theorem Annotates.refl (a : RecoveryJobItem) : Annotates a a := ⟨rfl, rfl, rfl, rfl, rfl⟩

theorem Annotates.finishItem (hab : Annotates a b) {status : RecoveryJobItemStatus}
    (hterminal : status ∈ terminalItemStatuses) (reason error : Option String) (now : Time) :
    Rewrites a (finishItem b status reason error now) := by
  refine .of_annotates hab ⟨rfl, rfl, rfl, ?_⟩
  have hidle := (mem_terminalItemStatuses_iff_not_active status).mp hterminal
  simp [Services.finishItem, hidle]

theorem annotates_nameStageRow (hstage : a.stage.isSome = true) (rowId : Uuid) :
    Annotates a (nameStageRow a rowId) := by
  obtain ⟨stage, hsome⟩ := Option.isSome_iff_exists.mp hstage
  unfold nameStageRow
  split
  · exact ⟨rfl, rfl, rfl, rfl, rfl⟩
  · exact ⟨rfl, rfl, by simp [reservationKey, hsome], rfl, rfl⟩

theorem annotates_observeOutboxRetryBudget (a : RecoveryJobItem) (outbox : RabbitMQOutboxMessage) :
    Annotates a (observeOutboxRetryBudget a outbox) := by
  unfold observeOutboxRetryBudget
  split
  · unfold Messaging.observeRecoveryStagePublicationOutcome
    split
    · exact ⟨rfl, rfl, rfl, rfl, rfl⟩
    · split <;> exact ⟨rfl, rfl, rfl, rfl, rfl⟩
  · cases a.previousStageState.nonStageBudgetConsumedAtDispatch <;> cases outbox.status <;>
      exact ⟨rfl, rfl, rfl, rfl, rfl⟩

theorem rewrites_ite {p : Prop} [Decidable p] (hb : Rewrites a b) (hc : Rewrites a c) :
    Rewrites a (if p then b else c) := by
  split
  · exact hb
  · exact hc

section Reserved

variable (hreserved : a.reservationActive = true)

include hreserved

theorem rewrites_requeueAsyncFailure
    (jobStatus : Option RecoveryJobStatus) (work : WorkLookup) (reason error : Option String)
    (retryable consumeFailure : Bool) :
    Rewrites a (requeueAsyncFailure a jobStatus work reason error retryable consumeFailure now) := by
  cases work with
  | missing cause => exact (Annotates.refl a).finishItem (by decide) ..
  | found version =>
    unfold requeueAsyncFailure
    refine rewrites_ite ⟨rfl, rfl, rfl, ?_⟩ ?_
    · simp [hreserved, activeItemStatuses]
    · exact Annotates.finishItem (by exact ⟨rfl, rfl, rfl, rfl, rfl⟩) mem_terminal_failed ..

theorem rewrites_recordDispatchFailure
    (jobStatus : RecoveryJobStatus) (work : WorkLookup) (reason error : String)
    (retryable : Bool) :
    Rewrites a (recordDispatchFailure a jobStatus work reason error retryable now) := by
  unfold recordDispatchFailure
  refine rewrites_ite ?_ ?_
  · cases work with
    | missing cause =>
      exact Annotates.finishItem (by exact ⟨rfl, rfl, rfl, rfl, rfl⟩) mem_terminal_skippedStale ..
    | found version =>
      refine ⟨rfl, rfl, rfl, ?_⟩
      simp [hreserved, activeItemStatuses]
  · exact Annotates.finishItem (by exact ⟨rfl, rfl, rfl, rfl, rfl⟩) mem_terminal_failed ..

theorem rewrites_claimOutcome (outcome : ClaimOutcome)
    (now : Time) : Rewrites a (outcome.apply a now) := by
  cases outcome with
  | waitForCapacity reason error =>
    exact ⟨rfl, rfl, rfl, by simp [ClaimOutcome.apply, waitForCapacity, hreserved, activeItemStatuses]⟩
  | stale reason error => exact (Annotates.refl a).finishItem (by decide) ..
  | replayStage eventId attempt =>
    exact ⟨rfl, rfl, rfl, by simp [ClaimOutcome.apply, attachRecoveryItem, activeItemStatuses]⟩
  | replayAdminStage entry eventId =>
    exact ⟨rfl, rfl, rfl,
      by simp [ClaimOutcome.apply, adminReplayItem, attachRecoveryItem, activeItemStatuses]⟩
  | reinspectIngest eventId =>
    exact ⟨rfl, rfl, rfl, by simp [ClaimOutcome.apply, reinspectIngest, dispatchNonStage, hreserved,
      activeItemStatuses]⟩
  | rebuildOutbox outbox =>
    exact ⟨rfl, rfl, rfl, by simp [ClaimOutcome.apply, rebuildOutbox, dispatchNonStage, hreserved,
      activeItemStatuses]⟩
  | dispatchTelegram attemptCount =>
    exact ⟨rfl, rfl, rfl, by simp [ClaimOutcome.apply, dispatchTelegram, dispatchNonStage, hreserved,
      activeItemStatuses]⟩
  | archiveDeadLetter => exact (Annotates.refl a).finishItem (by decide) ..

theorem rewrites_reconciledItem
    (hactive : a.status ∈ activeItemStatuses) (jobStatus : RecoveryJobStatus)
    (outbox : Option RabbitMQOutboxMessage) {outcome : ReconcileOutcome}
    (hadmissible : outcome.admissible = true) :
    Rewrites a (reconciledItem a jobStatus outbox outcome now) := by
  have hobserved : Annotates a (outbox.elim a (observeOutboxRetryBudget a)) := by
    cases outbox with
    | none => exact ⟨rfl, rfl, rfl, rfl, rfl⟩
    | some message => exact annotates_observeOutboxRetryBudget a message
  cases outcome with
  | undecided => exact hobserved.rewrites hactive hreserved
  | finish status reason error =>
    have hterminal : status ∈ terminalItemStatuses := by
      simp only [ReconcileOutcome.admissible, decide_eq_true_eq] at hadmissible
      revert hadmissible
      cases status <;> decide
    exact hobserved.finishItem hterminal ..
  | requeue work reason error retryable consumeFailure =>
    exact .of_annotates hobserved
      (rewrites_requeueAsyncFailure (hobserved.reservationActive.trans hreserved) ..)

theorem rewrites_ingestFailedItem
    (hactive : a.status ∈ activeItemStatuses) (consumed : Nat) (reason error : String)
    (retryable : Bool) : Rewrites a (ingestFailedItem a consumed reason error retryable now) := by
  cases retryable with
  | true => exact Annotates.rewrites ⟨rfl, rfl, rfl, rfl, rfl⟩ hactive hreserved
  | false => exact ⟨rfl, rfl, rfl, by simp [ingestFailedItem, activeItemStatuses]⟩

end Reserved

theorem failedRecoveryItem_cases (a : RecoveryJobItem) (delivery : StageDelivery)
    (failure : StageFailure) (consumesBudget : Bool) (now : Time) :
    Annotates a (failedRecoveryItem a delivery failure consumesBudget now) ∨
      (a.action = .regenerateDerivatives ∧
        (failedRecoveryItem a delivery failure consumesBudget now).status = .failed ∧
        Rewrites a (failedRecoveryItem a delivery failure consumesBudget now)) := by
  have hends : ∀ counted, Annotates a counted →
      Rewrites a (failDerivativeItem counted failure now) := by
    intro counted hcounted
    refine .of_annotates hcounted ⟨rfl, rfl, rfl, ?_⟩
    simp [failDerivativeItem, activeItemStatuses]
  have hcounted : Annotates a (if failure.retryable && consumesBudget then
      consumeRetryBudget a delivery.attempt else a) := by
    split <;> exact ⟨rfl, rfl, rfl, rfl, rfl⟩
  have haction : (if failure.retryable && consumesBudget then
      consumeRetryBudget a delivery.attempt else a).action = a.action := by
    split <;> rfl
  unfold failedRecoveryItem
  revert hcounted haction
  generalize (if failure.retryable && consumesBudget then
      consumeRetryBudget a delivery.attempt else a) = counted
  intro hcounted _
  by_cases hbranch : a.action = .regenerateDerivatives ∧
      (failure.retryable = false ∨ (counted.retryLimit : Nat) ≤ counted.retryableFailuresConsumed)
  · refine .inr ⟨hbranch.1, ?_⟩
    simp only [if_pos hbranch]
    exact ⟨rfl, hends counted hcounted⟩
  · simp only [if_neg hbranch]
    exact .inl hcounted

theorem annotates_reattach {loaded : RecoveryJobItem} (hstatus : loaded.status = .dispatched)
    (hreserved : loaded.reservationActive = true) (eventId : Uuid) (attempt : Nat) :
    Annotates a (RecoveryJobItem.writeBack loaded (attachRecoveryItem loaded eventId attempt now)
      a) := by
  refine ⟨rfl, rfl, rfl, ?_, ?_⟩
  · simp [RecoveryJobItem.writeBack, attachRecoveryItem, hstatus]
  · simp [RecoveryJobItem.writeBack, attachRecoveryItem, hreserved]

end Items

end MemeExpert.Services
