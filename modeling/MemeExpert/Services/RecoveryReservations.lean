import Mathlib.Data.List.Pairwise
import MemeExpert.Services.RecoveryLifeCycle

/-! Each transaction of `lifeStep` keeps the life cycle invariant, so every run from the
empty tables does. -/

namespace MemeExpert.Services

open Runs Pipeline

section Steps

variable {s t : RecoveryStore} {item item' : RecoveryJobItem} {job job' : RecoveryJob}
  {jobId : Uuid}

theorem RecoveryStore.mem_of_owned {found : Option RecoveryJobItem}
    (hfound : ∀ other, found = some other → other ∈ s.items)
    (howned : s.owned found = some (item, job)) :
    item ∈ s.items ∧ s.jobs item.recoveryJobId = some job := by
  obtain ⟨other, hother, hpair⟩ := Option.bind_eq_some_iff.mp howned
  obtain ⟨_, hjob, heq⟩ := Option.map_eq_some_iff.mp hpair
  cases heq
  exact ⟨hfound _ hother, hjob⟩

theorem RecoveryStore.mem_of_find {itemId : Uuid} (hfind : s.find itemId = some item) :
    item ∈ s.items :=
  List.mem_of_find?_eq_some hfind

theorem RecoveryStore.mem_of_findEvent {eventId : Uuid} (hfind : s.findEvent eventId = some item) :
    item ∈ s.items ∧ item.dispatchEventId = some eventId :=
  ⟨List.mem_of_find?_eq_some hfind, by simpa using List.find?_some hfind⟩

theorem LifeCycle.fits_of_job (h : LifeCycle s) (hitem : item ∈ s.items)
    (hjob : s.jobs item.recoveryJobId = some job) : ItemFits job item := by
  obtain ⟨found, hfound, hfits⟩ := h.fits item hitem
  rw [hjob] at hfound
  cases hfound
  exact hfits

theorem ItemFits.scheduled (h : ItemFits job item)
    (hbusy : item.status = .dispatched ∨ item.dispatchEventId.isSome = true) :
    job.scheduledAt.isSome = true := by
  by_contra hnone
  rw [Option.not_isSome_iff_eq_none] at hnone
  obtain ⟨hstatus, hevent⟩ := h.idle hnone
  rcases hbusy with hbusy | hbusy
  · exact hstatus hbusy
  · rw [hevent] at hbusy
    cases hbusy

theorem ItemFits.moved_of_rewrites (h : ItemFits job item) (hjob : JobFits job)
    (hscheduled : job.scheduledAt.isSome = true) (hrewrites : Rewrites item item')
    (hactive : item'.status ∈ activeItemStatuses → item.status ∈ activeItemStatuses) :
    ItemMoved job item item' where
  id := hrewrites.id
  recoveryJobId := hrewrites.recoveryJobId
  key := hrewrites.key
  fits :=
    { reservation := by rw [hrewrites.reservation]; simp [hscheduled]
      idle := fun hnone => by simp [hnone] at hscheduled
      settled := by
        intro _ hsettled
        rw [mem_terminalItemStatuses_iff_not_active]
        intro hnow
        have hdone := h.settled hscheduled hsettled
        exact (mem_terminalItemStatuses_iff_not_active _).mp hdone (hactive hnow)
      previewed := by
        intro hpreview
        have hnone := hjob.previewed hpreview
        simp [hnone] at hscheduled }

theorem ItemFits.moved_of_annotates (h : ItemFits job item)
    (hscheduled : job.scheduledAt.isSome = true) (hannotates : Annotates item item') :
    ItemMoved job item item' where
  id := hannotates.id
  recoveryJobId := hannotates.recoveryJobId
  key := hannotates.key
  fits :=
    { reservation := by
        rw [hannotates.reservationActive, hannotates.status]
        exact h.reservation
      idle := fun hnone => by simp [hnone] at hscheduled
      settled := by
        rw [hannotates.status]
        exact h.settled
      previewed := by
        rw [hannotates.status]
        exact h.previewed }

section Rewrites

variable (h : LifeCycle s) (hitem : item ∈ s.items) (hjob : s.jobs item.recoveryJobId = some job)

include h hitem hjob

theorem Advances.rewrite (hscheduled : job.scheduledAt.isSome = true)
    (hactive : item.status ∈ activeItemStatuses) (hrewrites : Rewrites item item') :
    Advances s (s.saveItem item') := by
  have hfits := h.fits_of_job hitem hjob
  refine Advances.saveItem h hitem hjob
    (hfits.moved_of_rewrites (h.jobs _ job hjob) hscheduled hrewrites fun _ => hactive) ?_ ?_
  · intro _
    exact hfits.reservation.mpr ⟨hscheduled, hactive⟩
  · intro hterminal
    exact absurd hactive ((mem_terminalItemStatuses_iff_not_active _).mp hterminal)

theorem Advances.annotate (hscheduled : job.scheduledAt.isSome = true)
    (hannotates : Annotates item item') : Advances s (s.saveItem item') := by
  have hfits := h.fits_of_job hitem hjob
  refine Advances.saveItem h hitem hjob (hfits.moved_of_annotates hscheduled hannotates) ?_ ?_
  · intro hreserved
    exact hannotates.reservationActive ▸ hreserved
  · intro _
    exact hannotates.status

theorem Advances.rewrite_dispatched (hstatus : item.status = .dispatched)
    (hrewrites : item.reservationActive = true → Rewrites item item') :
    Advances s (s.saveItem item') := by
  have hfits := h.fits_of_job hitem hjob
  have hscheduled := hfits.scheduled (.inl hstatus)
  have hactive : item.status ∈ activeItemStatuses := by rw [hstatus]; decide
  exact Advances.rewrite h hitem hjob hscheduled hactive
    (hrewrites (hfits.reservation.mpr ⟨hscheduled, hactive⟩))

end Rewrites

theorem ItemFits.of_built {reserve : Bool} (hbuilt : IsBuilt jobId reserve item)
    (hreserve : reserve = job.scheduledAt.isSome) (hopen : job.status ∉ settledJobStatuses) :
    ItemFits job item := by
  obtain ⟨-, hstatus, hevent, hreservation⟩ := hbuilt
  have hactive : item.status ∈ activeItemStatuses := by
    rcases hstatus with hstatus | hstatus <;> rw [hstatus] <;> decide
  refine ⟨?_, ?_, ?_, ?_⟩
  · rw [hreservation, hreserve]
    simp [hactive]
  · intro _
    refine ⟨?_, hevent⟩
    rcases hstatus with hstatus | hstatus <;> rw [hstatus] <;> decide
  · intro _ hsettled
    exact absurd hsettled hopen
  · intro _
    exact hactive

variable {items : List RecoveryJobItem}

theorem pairwise_append_of_unreserved (h : LifeCycle s)
    (hidle : ∀ item ∈ items, item.reservationActive = false) :
    (s.items ++ items).Pairwise fun a b => ¬ Conflict a b := by
  rw [List.pairwise_append]
  refine ⟨h.unique, ?_, ?_⟩
  · refine List.pairwise_of_forall_mem_list ?_
    intro a ha b _ hconflict
    have hactive := hconflict.1
    rw [hidle a ha] at hactive
    cases hactive
  intro a _ b hb hconflict
  have hactive := hconflict.2.1
  rw [hidle b hb] at hactive
  cases hactive

theorem RecoveryStore.commit_eq_some (hcommit : s.commit = some t) :
    t = s ∧ s.items.Pairwise fun a b => ¬ Conflict a b := by
  unfold RecoveryStore.commit at hcommit
  split at hcommit
  · next hunique =>
    cases hcommit
    exact ⟨rfl, hunique⟩
  · cases hcommit

theorem Advances.insertJob (h : LifeCycle s) {reserve : Bool}
    (hnew : s.jobs job.id = none) (hfits : JobFits job) (hopen : job.status ∉ settledJobStatuses)
    (hreserve : reserve = job.scheduledAt.isSome) (hfresh : freshItems s items)
    (hbuilt : ∀ item ∈ items, IsBuilt job.id reserve item)
    (hunique : (s.items ++ items).Pairwise fun a b => ¬ Conflict a b) :
    Advances s ((s.addItems items).saveJob job.id job) := by
  have hkept : ∀ jobId found, s.jobs jobId = some found → jobId ≠ job.id := by
    rintro _ found hfound rfl
    rw [hnew] at hfound
    cases hfound
  refine Advances.insert h hfresh ?_ ?_ ?_ hunique
  · intro jobId found hfound
    by_cases hsame : jobId = job.id
    · subst hsame
      rw [Function.update_self] at hfound
      cases hfound
      exact ⟨hfits, fun hsettled => absurd hsettled hopen⟩
    · rw [Function.update_of_ne hsame] at hfound
      exact ⟨h.jobs jobId found hfound, fun _ => hfound⟩
  · intro jobId found hfound
    rw [← hfound]
    exact Function.update_of_ne (hkept jobId found hfound) ..
  intro item hitem
  have hown := hbuilt item hitem
  refine ⟨job, ?_, .of_built hown hreserve hopen, hopen⟩
  rw [hown.1]
  exact Function.update_self ..

theorem advances_materialize (h : LifeCycle s)
    (hjob : s.jobs jobId = some job) (hstatus : job.status = .preparing)
    (hfresh : freshItems s items) (hbuilt : ∀ item ∈ items, IsBuilt jobId false item) :
    Advances s (s.addItems items) := by
  have hopen : job.status ∉ settledJobStatuses := by rw [hstatus]; decide
  have hnone := (h.jobs jobId job hjob).previewed (.inl hstatus)
  refine Advances.insert h hfresh (fun other found hfound => ⟨h.jobs other found hfound, fun _ => hfound⟩)
    (fun other found hfound => hfound) ?_
    (pairwise_append_of_unreserved h fun item hitem => (hbuilt item hitem).2.2.2)
  intro item hitem
  have hown := hbuilt item hitem
  exact ⟨job, by rw [hown.1]; exact hjob, .of_built hown (by rw [hnone]; rfl) hopen, hopen⟩

theorem advances_endPreparation (h : LifeCycle s) (hjob : s.jobs jobId = some job)
    (hstatus : job.status = .preparing ∨ job.status = .preview)
    (hsame : job'.scheduledAt = job.scheduledAt) (hlive : job'.status ∉ liveJobStatuses) :
    Advances s (s.saveJob jobId job') := by
  have hnone := (h.jobs jobId job hjob).previewed hstatus
  have hidle : job'.scheduledAt = none := hsame.trans hnone
  refine Advances.saveJob h hjob ⟨fun hnow => absurd hnow hlive, fun _ => hidle⟩ hsame ?_ ?_
  · intro item _ _ hfits
    refine ⟨?_, fun _ => hfits.idle hnone, ?_, fun _ => hfits.previewed hstatus⟩
    · rw [hidle, ← hnone]
      exact hfits.reservation
    intro hscheduled
    rw [hidle] at hscheduled
    cases hscheduled
  · intro hscheduled
    rw [hnone] at hscheduled
    cases hscheduled

theorem Advances.mapItems (h : LifeCycle s) (hjob : s.jobs jobId = some job)
    (f : RecoveryJobItem → RecoveryJobItem) (hfits : JobFits job')
    (hscheduled : job.scheduledAt.isSome = true → job'.scheduledAt.isSome = true)
    (hmoved : ∀ item ∈ s.items, item.recoveryJobId = jobId → ItemFits job item →
      ItemMoved job' item (f item))
    (hkept : ∀ item ∈ s.items, item.recoveryJobId = jobId → item.status ∈ terminalItemStatuses →
      (f item).status = item.status)
    (hcounts : job'.counts = jobCounts ((s.mapItems jobId f).statusesOf jobId))
    (hunique : (s.mapItems jobId f).items.Pairwise fun a b => ¬ Conflict a b) :
    Advances s ((s.mapItems jobId f).saveJob jobId job') := by
  have hmapped : ∀ item ∈ s.items,
      ∃ found, Function.update s.jobs jobId (some job') item.recoveryJobId = some found ∧
        ItemMoved found item (if item.recoveryJobId = jobId then f item else item) := by
    intro item hitem
    by_cases hown : item.recoveryJobId = jobId
    · have hfit := h.fits_of_job hitem (hown.symm ▸ hjob)
      rw [if_pos hown, hown, Function.update_self]
      exact ⟨job', rfl, hmoved item hitem hown hfit⟩
    · obtain ⟨found, hfound, hfit⟩ := h.fits item hitem
      rw [if_neg hown, Function.update_of_ne hown]
      exact ⟨found, hfound, rfl, rfl, rfl, hfit⟩
  refine ⟨h.map _ _ ?_ hmapped hunique, ?_, ?_⟩
  · intro other found hfound
    by_cases hsame : other = jobId
    · subst hsame
      rw [Function.update_self] at hfound
      cases hfound
      refine ⟨hfits, ?_⟩
      intro old hold
      rw [hjob] at hold
      cases hold
      exact hscheduled
    rw [Function.update_of_ne hsame] at hfound
    refine ⟨h.jobs other found hfound, ?_⟩
    intro old hold
    change s.jobs other = some found at hfound
    rw [hold] at hfound
    cases hfound
    exact id
  · intro item hitem hterminal
    refine ⟨_, List.mem_map.mpr ⟨item, hitem, rfl⟩, ?_⟩
    obtain ⟨_, _, hmove⟩ := hmapped item hitem
    refine ⟨hmove.id, ?_⟩
    split
    · next hown => exact hkept item hitem hown hterminal
    · rfl
  · intro hbefore other found hfound hsome hsettled
    by_cases hsame : other = jobId
    · subst hsame
      change Function.update s.jobs other (some job') other = some found at hfound
      rw [Function.update_self] at hfound
      cases hfound
      exact hcounts
    change Function.update s.jobs jobId (some job') other = some found at hfound
    rw [Function.update_of_ne hsame] at hfound
    rw [hbefore other found hfound hsome hsettled]
    refine congrArg jobCounts (statusesOf_map ?_ ?_).symm
    · intro item hitem
      obtain ⟨_, _, hmove⟩ := hmapped item hitem
      exact hmove.recoveryJobId
    · intro item _ hown
      rw [if_neg (hown.trans_ne hsame)]

variable {now : Time}

theorem advances_scheduleBatch (h : LifeCycle s) {revalidates : Bool}
    (hstep : scheduleBatch s jobId revalidates now = some t) : Advances s t := by
  unfold scheduleBatch at hstep
  split at hstep
  · cases hstep
  next job hjob =>
  split at hstep
  · cases hstep
  next hpreview =>
  rw [not_not] at hpreview
  split at hstep
  · cases hstep
    exact advances_endPreparation h hjob (.inr hpreview) rfl (by simp [liveJobStatuses])
  split at hstep
  · cases hstep
  obtain ⟨rfl, hunique⟩ := RecoveryStore.commit_eq_some hstep
  refine Advances.mapItems h hjob _ ⟨fun _ => rfl, by simp⟩ (fun _ => rfl) ?_ ?_ rfl hunique
  · intro item _ _ hfits
    have hactive := hfits.previewed (.inr hpreview)
    refine ⟨rfl, rfl, rfl, ?_, ?_, ?_, ?_⟩
    · simp [hactive]
    · simp
    · simp [settledJobStatuses]
    · simp
  · intro item _ _ _
    rfl

theorem cancelItem_annotates_or (now : Time) (item : RecoveryJobItem) :
    (item.status ∉ waitingItemStatuses ∧ cancelItem now item = item) ∨
      (item.status ∈ waitingItemStatuses ∧ (cancelItem now item).status = .cancelled ∧
        Rewrites item (cancelItem now item) ∧
        (cancelItem now item).dispatchEventId = item.dispatchEventId) := by
  unfold cancelItem
  split
  · next hwaiting =>
    refine .inr ⟨hwaiting, rfl, ⟨rfl, rfl, rfl, ?_⟩, rfl⟩
    simp [activeItemStatuses]
  · next hwaiting => exact .inl ⟨hwaiting, rfl⟩

theorem dispatched_of_active_of_not_waiting {status : RecoveryJobItemStatus}
    (hactive : status ∈ activeItemStatuses) (hwaiting : status ∉ waitingItemStatuses) :
    status = .dispatched := by
  revert hactive hwaiting
  cases status <;> decide

theorem not_waiting_of_terminal {status : RecoveryJobItemStatus}
    (hterminal : status ∈ terminalItemStatuses) : status ∉ waitingItemStatuses := by
  revert hterminal
  cases status <;> decide

theorem dispatched_mem_cancelled :
    RecoveryJobItemStatus.dispatched ∈ (s.mapItems jobId (cancelItem now)).statusesOf jobId ↔
      ∃ item ∈ s.items, item.recoveryJobId = jobId ∧ item.status = .dispatched := by
  have hown : ∀ item, (cancelItem now item).recoveryJobId = item.recoveryJobId ∧
      ((cancelItem now item).status = .dispatched ↔ item.status = .dispatched) := by
    intro item
    rcases cancelItem_annotates_or now item with ⟨_, hsame⟩ | ⟨hwaiting, hstatus, hrewrites, _⟩
    · simp [hsame]
    refine ⟨hrewrites.recoveryJobId, ?_⟩
    rw [hstatus]
    revert hwaiting
    cases item.status <;> decide
  simp only [RecoveryStore.statusesOf, RecoveryStore.itemsOf, RecoveryStore.mapItems, List.mem_map,
    List.mem_filter, decide_eq_true_eq]
  constructor
  · rintro ⟨_, ⟨⟨item, hitem, rfl⟩, hjob⟩, hstatus⟩
    by_cases hsame : item.recoveryJobId = jobId
    · rw [if_pos hsame] at hstatus
      exact ⟨item, hitem, hsame, (hown item).2.mp hstatus⟩
    · rw [if_neg hsame] at hjob
      exact absurd hjob hsame
  · rintro ⟨item, hitem, hsame, hstatus⟩
    refine ⟨_, ⟨⟨item, hitem, if_pos hsame⟩, ?_⟩, (hown item).2.mpr hstatus⟩
    exact (hown item).1.trans hsame

theorem ItemFits.cancelItem (h : ItemFits job item)
    (hsame : job'.scheduledAt = job.scheduledAt)
    (hstatus : job'.status = .cancelling ∨
      (job'.status = .cancelled ∧ item.status ≠ .dispatched)) :
    ItemMoved job' item (cancelItem now item) := by
  have hopen : job'.status ≠ .preparing ∧ job'.status ≠ .preview := by
    rcases hstatus with hstatus | ⟨hstatus, -⟩ <;> rw [hstatus] <;> decide
  have hpreviewed : ∀ status : RecoveryJobItemStatus,
      job'.status = .preparing ∨ job'.status = .preview → status ∈ activeItemStatuses := by
    rintro _ (hnow | hnow)
    · exact absurd hnow hopen.1
    · exact absurd hnow hopen.2
  rcases cancelItem_annotates_or now item with
    ⟨hwaiting, hkept⟩ | ⟨_, hcancelled, hrewrites, hevent⟩
  · rw [hkept]
    refine ⟨rfl, rfl, rfl, ?_, ?_, ?_, hpreviewed _⟩
    · rw [hsame]
      exact h.reservation
    · rw [hsame]
      exact h.idle
    intro _ hsettled
    rw [mem_terminalItemStatuses_iff_not_active]
    intro hactive
    rcases hstatus with hcancelling | ⟨-, hidle⟩
    · rw [hcancelling] at hsettled
      exact absurd hsettled (by decide)
    · exact hidle (dispatched_of_active_of_not_waiting hactive hwaiting)
  · refine ⟨hrewrites.id, hrewrites.recoveryJobId, hrewrites.key, ?_, ?_, ?_, hpreviewed _⟩
    · rw [hrewrites.reservation, hcancelled]
      simp [activeItemStatuses]
    · rw [hsame, hcancelled, hevent]
      intro hnone
      exact ⟨by decide, (h.idle hnone).2⟩
    · rw [hcancelled]
      intro _ _
      decide

theorem advances_cancelBatch (h : LifeCycle s)
    (hstep : cancelBatch s jobId now = some t) : Advances s t := by
  unfold cancelBatch at hstep
  split at hstep
  · cases hstep
  next job hjob =>
  split at hstep
  · cases hstep
  cases hstep
  have hdispatched := @dispatched_mem_cancelled s jobId now
  refine Advances.mapItems h hjob _ ⟨?_, ?_⟩ id ?_ ?_ rfl (pairwise_map_of_moved h ?_ ?_)
  · intro hlive
    by_cases hmem : RecoveryJobItemStatus.dispatched ∈
        (s.mapItems jobId (cancelItem now)).statusesOf jobId
    · obtain ⟨item, hitem, hown, hstatus⟩ := hdispatched.mp hmem
      have hfits : ItemFits job item := h.fits_of_job hitem (hown.symm ▸ hjob)
      exact hfits.scheduled (.inl hstatus)
    · simp [hmem, liveJobStatuses] at hlive
  · rintro (hnow | hnow) <;> (dsimp only at hnow; split at hnow <;> cases hnow)
  · intro item hitem hown hfits
    refine hfits.cancelItem rfl ?_
    by_cases hmem : RecoveryJobItemStatus.dispatched ∈
        (s.mapItems jobId (cancelItem now)).statusesOf jobId
    · exact .inl (by simp [hmem])
    refine .inr ⟨by simp [hmem], ?_⟩
    intro hstatus
    exact hmem (hdispatched.mpr ⟨item, hitem, hown, hstatus⟩)
  · intro item _ _ hterminal
    rcases cancelItem_annotates_or now item with ⟨_, hkept⟩ | ⟨hwaiting, _⟩
    · rw [hkept]
    · exact absurd hwaiting (not_waiting_of_terminal hterminal)
  · intro item _
    split
    · rcases cancelItem_annotates_or now item with ⟨_, hkept⟩ | ⟨_, _, hrewrites, _⟩
      · rw [hkept]
      · exact hrewrites.key
    · rfl
  intro item _
  split
  · rcases cancelItem_annotates_or now item with ⟨_, hkept⟩ | ⟨_, hcancelled, hrewrites, _⟩
    · rw [hkept]
      exact id
    · rw [hrewrites.reservation, hcancelled]
      simp [activeItemStatuses]
  · exact id

theorem reconcileJob_status (job : RecoveryJob) (statuses : List RecoveryJobItemStatus)
    (now : Time) :
    (reconcileJob job statuses now).status = job.status ∨
      ((reconcileJob job statuses now).status ∈ settledJobStatuses ∧
        ∀ status ∈ statuses, status ∈ terminalItemStatuses) := by
  unfold reconcileJob
  simp only
  split
  · next hdone =>
    refine .inr ⟨?_, ?_⟩
    · split
      · simp [settledJobStatuses]
      · split <;> simp [settledJobStatuses]
    · intro status hstatus
      exact of_decide_eq_true (List.countP_eq_length.mp hdone.2 status hstatus)
  · exact .inl rfl

theorem reconcileJob_scheduledAt (job : RecoveryJob) (statuses : List RecoveryJobItemStatus)
    (now : Time) : (reconcileJob job statuses now).scheduledAt = job.scheduledAt := by
  unfold reconcileJob
  simp only
  split <;> rfl

theorem reconcileJob_counts (job : RecoveryJob) (statuses : List RecoveryJobItemStatus)
    (now : Time) : (reconcileJob job statuses now).counts = jobCounts statuses := by
  unfold reconcileJob
  simp only
  split <;> rfl

theorem reconcileJob_settled {statuses : List RecoveryJobItemStatus} (job : RecoveryJob)
    (now : Time) (hsome : statuses ≠ [])
    (hdone : ∀ status ∈ statuses, status ∈ terminalItemStatuses) :
    (reconcileJob job statuses now).status ∈ settledJobStatuses := by
  have hall : statuses.countP (· ∈ terminalItemStatuses) = statuses.length :=
    List.countP_eq_length.mpr fun status hstatus => decide_eq_true (hdone status hstatus)
  unfold reconcileJob
  simp only [ne_eq, hsome, not_false_eq_true, hall, and_self, if_true]
  split
  · simp [settledJobStatuses]
  · split <;> simp [settledJobStatuses]

variable {status : RecoveryJobStatus}

theorem not_settled_of_live (hlive : status ∈ liveJobStatuses) : status ∉ settledJobStatuses := by
  revert hlive
  cases status <;> decide

theorem not_previewed_of_live (hlive : status ∈ liveJobStatuses) :
    ¬ (status = .preparing ∨ status = .preview) := by
  revert hlive
  cases status <;> decide

theorem not_previewed_of_settled
    (hsettled : status ∈ settledJobStatuses) : ¬ (status = .preparing ∨ status = .preview) := by
  revert hsettled
  cases status <;> decide

theorem JobFits.reconcileJob (h : JobFits job) (hlive : job.status ∈ liveJobStatuses)
    (statuses : List RecoveryJobItemStatus) (now : Time) :
    JobFits (reconcileJob job statuses now) := by
  constructor
  · intro _
    rw [reconcileJob_scheduledAt]
    exact h.live hlive
  intro hpreview
  rcases reconcileJob_status job statuses now with hsame | ⟨hsettled, -⟩
  · rw [hsame] at hpreview
    exact absurd hpreview (not_previewed_of_live hlive)
  · exact absurd hpreview (not_previewed_of_settled hsettled)

theorem ItemFits.reconcileJob (h : ItemFits job item) (hlive : job.status ∈ liveJobStatuses)
    {statuses : List RecoveryJobItemStatus} (hmem : item.status ∈ statuses) (now : Time) :
    ItemFits (reconcileJob job statuses now) item := by
  refine ⟨?_, ?_, ?_, ?_⟩
  · rw [reconcileJob_scheduledAt]
    exact h.reservation
  · rw [reconcileJob_scheduledAt]
    exact h.idle
  · intro _ hnow
    rcases reconcileJob_status job statuses now with hsame | ⟨-, hdone⟩
    · rw [hsame] at hnow
      exact absurd hnow (not_settled_of_live hlive)
    · exact hdone item.status hmem
  intro hpreview
  rcases reconcileJob_status job statuses now with hsame | ⟨hsettled, -⟩
  · rw [hsame] at hpreview
    exact absurd hpreview (not_previewed_of_live hlive)
  · exact absurd hpreview (not_previewed_of_settled hsettled)

theorem mem_statusesOf (hitem : item ∈ s.items) : item.status ∈ s.statusesOf item.recoveryJobId :=
  List.mem_map.mpr ⟨item, List.mem_filter.mpr ⟨hitem, decide_eq_true rfl⟩, rfl⟩

theorem advances_reconcile (h : LifeCycle s) (jobIds : Option (List Uuid)) (now : Time) :
    Advances s (s.reconcile jobIds now) := by
  refine Advances.mapJobs h
    (fun jobId job => if job.status ∈ liveJobStatuses ∧ jobIds.all (jobId ∈ ·) then
      reconcileJob job (s.statusesOf jobId) now else job) (fun _ => rfl) ?_ ?_ ?_ ?_
  · intro jobId job hjob
    split
    · next hlive => exact (h.jobs jobId job hjob).reconcileJob hlive.1 ..
    · exact h.jobs jobId job hjob
  · intro jobId job _
    split
    · exact reconcileJob_scheduledAt ..
    · rfl
  · intro item hitem job _ hfits
    split
    · next hlive => exact hfits.reconcileJob hlive.1 (mem_statusesOf hitem) now
    · exact hfits
  intro jobId job _ hsettled _
  split at hsettled
  · next hlive =>
    rw [if_pos hlive]
    exact .inr (reconcileJob_counts ..)
  · next hlive =>
    rw [if_neg hlive]
    exact .inl ⟨hsettled, rfl⟩

theorem settled_of_reconcile (hjob : s.jobs jobId = some job) (hlive : job.status ∈ liveJobStatuses)
    (hsome : s.statusesOf jobId ≠ [])
    (hdone : ∀ status ∈ s.statusesOf jobId, status ∈ terminalItemStatuses) (now : Time) :
    ∃ settled, (s.reconcile none now).jobs jobId = some settled ∧
      settled.status ∈ settledJobStatuses ∧ settled.counts = jobCounts (s.statusesOf jobId) := by
  refine ⟨reconcileJob job (s.statusesOf jobId) now, ?_, reconcileJob_settled job now hsome hdone,
    reconcileJob_counts ..⟩
  simp [RecoveryStore.reconcile, hjob, hlive]

def LateRegenerationFailure (s : RecoveryStore) : RecoveryLabel → Prop
  | .stageFailed delivery .. => ∃ item, s.findEvent delivery.eventId = some item ∧
      item.action = .regenerateDerivatives ∧ item.status ∈ terminalItemStatuses
  | _ => False

def StaysTerminal (s t : RecoveryStore) : Prop :=
  ∀ a ∈ s.items, a.status ∈ terminalItemStatuses →
    ∃ b ∈ t.items, b.id = a.id ∧ b.status ∈ terminalItemStatuses

theorem KeepsTerminal.stays (h : KeepsTerminal s t) : StaysTerminal s t := by
  intro a ha hterminal
  obtain ⟨b, hb, hid, hstatus⟩ := h a ha hterminal
  exact ⟨b, hb, hid, hstatus ▸ hterminal⟩

theorem active_of_not_terminal {status : RecoveryJobItemStatus}
    (hopen : status ∉ terminalItemStatuses) : status ∈ activeItemStatuses := by
  revert hopen
  cases status <;> decide

theorem active_of_eligible (heligible : itemEligible s now item) :
    item.status ∈ activeItemStatuses := by
  have hstatus : item.status ∈ waitingItemStatuses ∨ item.status = .dispatched := by
    rcases of_decide_eq_true heligible with hwaiting | hstale
    · exact .inl hwaiting.1
    · exact .inr hstale.1
  revert hstatus
  cases item.status <;> decide

theorem live_of_scheduling (h : status ∈ schedulingJobStatuses) : status ∈ liveJobStatuses := by
  revert h
  cases status <;> decide

theorem advances_claim (h : LifeCycle s) (hitem : item ∈ s.items)
    (hjob : s.jobs item.recoveryJobId = some job) (hlive : job.status ∈ schedulingJobStatuses)
    (hactive : item.status ∈ activeItemStatuses) {stageRow : Option Uuid}
    (hnamed : stageRow.isSome = true → item.stage.isSome = true) (outcome : ClaimOutcome)
    (now : Time) :
    Advances s ((s.saveItem (outcome.apply (stageRow.elim item (nameStageRow item)) now)).saveJob
      item.recoveryJobId { job with status := .running }) := by
  have hscheduled := (h.jobs _ job hjob).live (live_of_scheduling hlive)
  have hreserved : item.reservationActive = true :=
    (h.fits_of_job hitem hjob).reservation.mpr ⟨hscheduled, hactive⟩
  have hannotates : Annotates item (stageRow.elim item (nameStageRow item)) := by
    cases stageRow with
    | none => exact .refl item
    | some rowId => exact annotates_nameStageRow (hnamed rfl) rowId
  have hrewrites := Rewrites.of_annotates hannotates
    (rewrites_claimOutcome (hannotates.reservationActive.trans hreserved) outcome now)
  have hsaved := Advances.rewrite h hitem hjob hscheduled hactive hrewrites
  refine hsaved.trans (Advances.saveJob hsaved.life hjob ⟨fun _ => hscheduled, by simp⟩ rfl ?_ ?_)
  · intro other _ _ hfits
    exact ⟨hfits.reservation, hfits.idle, by simp [settledJobStatuses], by simp⟩
  · intro _
    simp [settledJobStatuses]

theorem advances_stageFailed (h : LifeCycle s) {delivery : StageDelivery} {failure : StageFailure}
    {consumesBudget : Bool}
    (hfind : s.findEvent delivery.eventId = some item)
    (hjob : s.jobs item.recoveryJobId = some job) :
    Advances s (s.saveItem (failedRecoveryItem item delivery failure consumesBudget now)) ∨
      (LateRegenerationFailure s (.stageFailed delivery failure consumesBudget now) ∧
        LifeCycle (s.saveItem (failedRecoveryItem item delivery failure consumesBudget now)) ∧
        StaysTerminal s
          (s.saveItem (failedRecoveryItem item delivery failure consumesBudget now))) := by
  obtain ⟨hitem, hevent⟩ := RecoveryStore.mem_of_findEvent hfind
  have hfits := h.fits_of_job hitem hjob
  have hscheduled := hfits.scheduled (.inr (by rw [hevent]; rfl))
  rcases failedRecoveryItem_cases item delivery failure consumesBudget now with
    hannotates | ⟨haction, hstatus, hrewrites⟩
  · exact .inl (Advances.annotate h hitem hjob hscheduled hannotates)
  by_cases hterminal : item.status ∈ terminalItemStatuses
  · have hmoved := hfits.moved_of_rewrites (h.jobs _ job hjob) hscheduled hrewrites
      (by rw [hstatus]; simp [activeItemStatuses])
    refine .inr ⟨⟨item, hfind, haction, hterminal⟩, h.saveItem hitem hjob hmoved ?_, ?_⟩
    · rw [hrewrites.reservation, hstatus]
      simp [activeItemStatuses]
    intro a ha hdone
    by_cases hid : a.id = item.id
    · exact ⟨_, List.mem_map.mpr ⟨a, ha, if_pos (hid.trans hrewrites.id.symm)⟩,
        hrewrites.id.trans hid.symm, hstatus ▸ mem_terminal_failed⟩
    refine ⟨a, List.mem_map.mpr ⟨a, ha, if_neg ?_⟩, rfl, hdone⟩
    rw [hrewrites.id]
    exact hid
  · exact .inl (Advances.rewrite h hitem hjob hscheduled (active_of_not_terminal hterminal)
      hrewrites)

theorem advances_readLinked (h : LifeCycle s) (hitem : item ∈ s.items)
    (hstatus : item.status = .dispatched) :
    Advances s { s with linked := item :: s.linked } := by
  obtain ⟨job, hjob, hfits⟩ := h.fits item hitem
  have hscheduled := hfits.scheduled (.inl hstatus)
  have hreserved : item.reservationActive = true :=
    hfits.reservation.mpr ⟨hscheduled, by rw [hstatus]; decide⟩
  refine ⟨{ h with linked := ?_ }, fun a ha _ => ⟨a, ha, rfl, rfl⟩, id⟩
  intro loaded hloaded
  rcases List.mem_cons.mp hloaded with rfl | hloaded
  · refine ⟨hstatus, hreserved, List.mem_map.mpr ⟨loaded, hitem, rfl⟩, ?_⟩
    intro other hother hid found hfound
    obtain rfl : other = loaded := h.eq_of_id hother hitem hid
    exact (h.fits_of_job hother hfound).scheduled (.inl hstatus)
  · exact h.linked loaded hloaded

theorem advances_reattach (h : LifeCycle s) {loaded current : RecoveryJobItem}
    (hloaded : loaded ∈ s.linked) (hfind : s.find loaded.id = some current) (eventId : Uuid)
    (attempt : Nat) (now : Time) :
    Advances s (s.saveItem (RecoveryJobItem.writeBack loaded
      (attachRecoveryItem loaded eventId attempt now) current)) := by
  obtain ⟨hstatus, hreserved, -, hscheduled⟩ := h.linked loaded hloaded
  have hitem := RecoveryStore.mem_of_find hfind
  have hid : current.id = loaded.id := by simpa using List.find?_some hfind
  obtain ⟨job, hjob, -⟩ := h.fits current hitem
  exact Advances.annotate h hitem hjob (hscheduled current hitem hid job hjob)
    (annotates_reattach hstatus hreserved eventId attempt)

theorem of_guarded {p : Prop} [Decidable p] (h : (if p then some s else none) = some t) :
    p ∧ s = t := by
  obtain ⟨hp, hsome⟩ := Option.ite_none_right_eq_some.mp h
  exact ⟨hp, Option.some.inj hsome⟩

theorem lifeStep_spec {label : RecoveryLabel} (h : LifeCycle s)
    (hstep : lifeStep s label = some t) :
    Advances s t ∨ (LateRegenerationFailure s label ∧ LifeCycle t ∧ StaysTerminal s t) := by
  cases label with
  | previewBatch job items =>
    obtain ⟨⟨hnew, hstatus, hidle, hfresh, hbuilt⟩, rfl⟩ := of_guarded hstep
    refine .inl (Advances.insertJob h hnew ⟨?_, fun _ => hidle⟩ ?_ (by rw [hidle]; rfl) hfresh hbuilt
      (pairwise_append_of_unreserved h fun item hitem => (hbuilt item hitem).2.2.2))
    · intro hlive
      exact absurd hstatus (not_previewed_of_live hlive)
    · intro hsettled
      exact absurd hstatus (not_previewed_of_settled hsettled)
  | replayWork job items =>
    obtain ⟨⟨hnew, hstatus, hscheduled, hfresh, hbuilt⟩, hcommit⟩ :=
      Option.ite_none_right_eq_some.mp hstep
    obtain ⟨rfl, hunique⟩ := RecoveryStore.commit_eq_some hcommit
    refine .inl (Advances.insertJob h hnew ⟨fun _ => hscheduled, ?_⟩ ?_ hscheduled.symm hfresh hbuilt
      hunique)
    · intro hpreview
      rw [hstatus] at hpreview
      exact absurd hpreview (by decide)
    · rw [hstatus]
      decide
  | materialize jobId items =>
    obtain ⟨⟨hany, hfresh, hbuilt⟩, rfl⟩ := of_guarded hstep
    obtain ⟨job, hjob, hstatus⟩ := (Option.any_eq_true _ _).mp hany
    exact .inl (advances_materialize h hjob (of_decide_eq_true hstatus) hfresh hbuilt)
  | finishMaterialization jobId now =>
    simp only [lifeStep] at hstep
    split at hstep
    · cases hstep
    next job hjob =>
    obtain ⟨hstatus, rfl⟩ := of_guarded hstep
    exact .inl (advances_endPreparation h hjob (.inl hstatus) rfl (by simp [liveJobStatuses]))
  | failPreparation jobId now =>
    simp only [lifeStep] at hstep
    split at hstep
    · cases hstep
    next job hjob =>
    obtain ⟨hstatus, rfl⟩ := of_guarded hstep
    exact .inl (advances_endPreparation h hjob (.inl hstatus) rfl (by simp [liveJobStatuses]))
  | schedule jobId revalidates now => exact .inl (advances_scheduleBatch h hstep)
  | cancel jobId now => exact .inl (advances_cancelBatch h hstep)
  | claim itemId stageRow outcome now =>
    simp only [lifeStep] at hstep
    split at hstep
    · cases hstep
    next item job howned =>
    obtain ⟨hitem, hjob⟩ := RecoveryStore.mem_of_owned (fun _ => RecoveryStore.mem_of_find) howned
    obtain ⟨⟨hlive, heligible, hnamed⟩, rfl⟩ := of_guarded hstep
    exact .inl (advances_claim h hitem hjob hlive (active_of_eligible heligible) hnamed outcome now)
  | dispatchFailed itemId work reason error retryable now =>
    simp only [lifeStep] at hstep
    split at hstep
    · cases hstep
    next item job howned =>
    obtain ⟨hitem, hjob⟩ := RecoveryStore.mem_of_owned (fun _ => RecoveryStore.mem_of_find) howned
    obtain ⟨⟨hscheduled, hopen⟩, rfl⟩ := of_guarded hstep
    have hactive := active_of_not_terminal hopen
    have hreserved : item.reservationActive = true :=
      (h.fits_of_job hitem hjob).reservation.mpr ⟨hscheduled, hactive⟩
    have hrewrites : Rewrites item
        (recordDispatchFailure item job.status work reason error retryable now) :=
      rewrites_recordDispatchFailure hreserved ..
    have hsaved := Advances.rewrite h hitem hjob hscheduled hactive hrewrites
    exact .inl (hsaved.trans (advances_reconcile hsaved.life ..))
  | stageFailed delivery failure consumesBudget now =>
    simp only [lifeStep] at hstep
    split at hstep
    · cases hstep
    next item job howned =>
    cases hstep
    obtain ⟨other, hfind, hpair⟩ := Option.bind_eq_some_iff.mp howned
    obtain ⟨_, hjob, heq⟩ := Option.map_eq_some_iff.mp hpair
    cases heq
    exact advances_stageFailed h hfind hjob
  | cancellingFailed eventId reason error now =>
    simp only [lifeStep] at hstep
    split at hstep
    · cases hstep
    next item job howned =>
    obtain ⟨hitem, hjob⟩ := RecoveryStore.mem_of_owned
      (fun _ hfind => (RecoveryStore.mem_of_findEvent hfind).1) howned
    obtain ⟨⟨_, hstatus⟩, rfl⟩ := of_guarded hstep
    exact .inl (Advances.rewrite_dispatched h hitem hjob hstatus fun _ =>
      (Annotates.refl item).finishItem mem_terminal_failed ..)
  | ingestFailed eventId consumed reason error retryable now =>
    simp only [lifeStep] at hstep
    split at hstep
    · cases hstep
    next item job howned =>
    obtain ⟨hitem, hjob⟩ := RecoveryStore.mem_of_owned
      (fun _ hfind => (RecoveryStore.mem_of_findEvent hfind).1) howned
    obtain ⟨⟨_, hstatus⟩, rfl⟩ := of_guarded hstep
    exact .inl (Advances.rewrite_dispatched h hitem hjob hstatus fun hreserved =>
      rewrites_ingestFailedItem hreserved (by rw [hstatus]; decide) ..)
  | reconcile itemId outbox outcome now =>
    simp only [lifeStep] at hstep
    split at hstep
    · cases hstep
    next item job howned =>
    obtain ⟨hitem, hjob⟩ := RecoveryStore.mem_of_owned (fun _ => RecoveryStore.mem_of_find) howned
    obtain ⟨⟨_, hstatus, hadmissible⟩, rfl⟩ := of_guarded hstep
    exact .inl (Advances.rewrite_dispatched h hitem hjob hstatus fun hreserved =>
      rewrites_reconciledItem hreserved (by rw [hstatus]; decide) _ _ hadmissible)
  | completeSourcePost itemId now =>
    simp only [lifeStep] at hstep
    split at hstep
    · cases hstep
    next item job howned =>
    obtain ⟨hitem, hjob⟩ := RecoveryStore.mem_of_owned (fun _ => RecoveryStore.mem_of_find) howned
    obtain ⟨hstatus, rfl⟩ := of_guarded hstep
    exact .inl (Advances.rewrite_dispatched h hitem hjob hstatus fun _ =>
      (Annotates.refl item).finishItem (by decide) ..)
  | skipDependency itemId now =>
    simp only [lifeStep] at hstep
    split at hstep
    · cases hstep
    next item job howned =>
    obtain ⟨hitem, hjob⟩ := RecoveryStore.mem_of_owned (fun _ => RecoveryStore.mem_of_find) howned
    obtain ⟨⟨hlive, hstatus, _⟩, rfl⟩ := of_guarded hstep
    exact .inl (Advances.rewrite h hitem hjob ((h.jobs _ job hjob).live hlive)
      (by rw [hstatus]; decide) ((Annotates.refl item).finishItem (by decide) ..))
  | reconcileJobs jobIds now =>
    cases hstep
    exact .inl (advances_reconcile h jobIds now)
  | readLinked itemId =>
    simp only [lifeStep] at hstep
    split at hstep
    · cases hstep
    next item hfind =>
    obtain ⟨hstatus, rfl⟩ := of_guarded hstep
    exact .inl (advances_readLinked h (RecoveryStore.mem_of_find hfind) hstatus)
  | reattach loaded eventId attempt now =>
    simp only [lifeStep] at hstep
    split at hstep
    · cases hstep
    next current hfind =>
    obtain ⟨hloaded, rfl⟩ := of_guarded hstep
    exact .inl (advances_reattach h hloaded hfind eventId attempt now)
  | relink itemId eventId now =>
    simp only [lifeStep] at hstep
    split at hstep
    · cases hstep
    next item hfind =>
    obtain ⟨hstatus, rfl⟩ := of_guarded hstep
    have hitem := RecoveryStore.mem_of_find hfind
    obtain ⟨job, hjob, hfits⟩ := h.fits item hitem
    exact .inl (Advances.annotate h hitem hjob (hfits.scheduled (.inl hstatus))
      ⟨rfl, rfl, rfl, rfl, rfl⟩)

theorem lifeCycle_empty : LifeCycle {} where
  ids := List.nodup_nil
  jobs _ _ hjob := by cases hjob
  fits _ hitem := by cases hitem
  unique := .nil
  linked _ hloaded := by cases hloaded

theorem lifeCycle_of_run (labels : List RecoveryLabel) :
    (∀ x ∈ transitions lifeStep {} labels, LifeCycle x.before) ∧
      LifeCycle (final lifeStep {} labels) := by
  refine invariant_of_transitions lifeCycle_empty ?_
  intro x hx hbefore
  rcases lifeStep_spec hbefore (step_of_mem_transitions hx) with hadvances | ⟨_, hlife, _⟩
  · exact hadvances.life
  · exact hlife

theorem countsSettled_of_run {labels : List RecoveryLabel}
    (hlate : ∀ x ∈ transitions lifeStep {} labels, ¬ LateRegenerationFailure x.before x.label) :
    CountsSettled (final lifeStep {} labels) := by
  have hstart : CountsSettled {} := by
    intro _ _ hjob
    cases hjob
  refine invariant_final hstart ?_
  intro x hx hbefore
  rcases lifeStep_spec ((lifeCycle_of_run labels).1 x hx) (step_of_mem_transitions hx) with
    hadvances | ⟨hnow, _⟩
  · exact hadvances.counts hbefore
  · exact absurd hnow (hlate x hx)

def HoldsTarget (s : RecoveryStore) (item : RecoveryJobItem) : Prop :=
  item.status ∈ activeItemStatuses ∧
    ∃ job, s.jobs item.recoveryJobId = some job ∧ job.scheduledAt.isSome = true

structure ReservationsKept (s : RecoveryStore) : Prop where
  reservation : ∀ item ∈ s.items, (item.reservationActive = true ↔ HoldsTarget s item)
  unique : ∀ a ∈ s.items, ∀ b ∈ s.items, HoldsTarget s a → HoldsTarget s b →
    (reservationKey a).isSome = true → reservationKey a = reservationKey b → a = b
  settled : ∀ jobId job, s.jobs jobId = some job → job.scheduledAt.isSome = true →
    job.status ∈ settledJobStatuses → ∀ status ∈ s.statusesOf jobId, status ∈ terminalItemStatuses

theorem LifeCycle.reservationsKept (h : LifeCycle s) : ReservationsKept s := by
  have hreservation : ∀ item ∈ s.items, (item.reservationActive = true ↔ HoldsTarget s item) := by
    intro item hitem
    obtain ⟨job, hjob, hfits⟩ := h.fits item hitem
    rw [hfits.reservation]
    constructor
    · rintro ⟨hscheduled, hactive⟩
      exact ⟨hactive, job, hjob, hscheduled⟩
    rintro ⟨hactive, found, hfound, hscheduled⟩
    rw [hjob] at hfound
    cases hfound
    exact ⟨hscheduled, hactive⟩
  refine ⟨hreservation, ?_, ?_⟩
  · intro a ha b hb haholds hbholds hsome hsame
    by_contra hne
    have hsymm : Std.Symm fun x y : RecoveryJobItem => ¬ Conflict x y := by
      constructor
      rintro x y hfree ⟨hy, hx, hkey, heq⟩
      exact hfree ⟨hx, hy, heq ▸ hkey, heq.symm⟩
    exact h.unique.forall ha hb hne
      ⟨(hreservation a ha).mpr haholds, (hreservation b hb).mpr hbholds, hsome, hsame⟩
  intro jobId job hjob hscheduled hsettled status hstatus
  obtain ⟨item, hitem, rfl⟩ := List.mem_map.mp hstatus
  obtain ⟨hmem, hown⟩ := List.mem_filter.mp hitem
  have hfits : ItemFits job item := h.fits_of_job hmem (of_decide_eq_true hown ▸ hjob)
  exact hfits.settled hscheduled hsettled

def SettlesJobs (s t : RecoveryStore) : Prop :=
  ∀ jobId job, s.jobs jobId = some job → job.status ∈ liveJobStatuses → s.statusesOf jobId ≠ [] →
    (∀ status ∈ s.statusesOf jobId, status ∈ terminalItemStatuses) →
    ∃ settled, t.jobs jobId = some settled ∧ settled.status ∈ settledJobStatuses ∧
      settled.counts = jobCounts (t.statusesOf jobId)

/-- The reservation life cycle in every run of every schedule. -/
theorem reservations_of_run (labels : List RecoveryLabel) :
    ReservationsKept (final lifeStep {} labels) ∧
      (∀ x ∈ transitions lifeStep {} labels,
        StaysTerminal x.before x.after ∧
          (¬ LateRegenerationFailure x.before x.label → KeepsTerminal x.before x.after) ∧
          (∀ now, x.label = .reconcileJobs none now → SettlesJobs x.before x.after)) ∧
      ((∀ x ∈ transitions lifeStep {} labels, ¬ LateRegenerationFailure x.before x.label) →
        CountsSettled (final lifeStep {} labels)) := by
  obtain ⟨hbefore, hfinal⟩ := lifeCycle_of_run labels
  refine ⟨hfinal.reservationsKept, ?_, countsSettled_of_run⟩
  intro x hx
  have hstep := step_of_mem_transitions hx
  have hspec := lifeStep_spec (hbefore x hx) hstep
  refine ⟨?_, ?_, ?_⟩
  · rcases hspec with hadvances | ⟨_, _, hstays⟩
    · exact hadvances.keeps.stays
    · exact hstays
  · intro hnot
    rcases hspec with hadvances | ⟨hlate, _⟩
    · exact hadvances.keeps
    · exact absurd hlate hnot
  intro now hlabel jobId job hjob hlive hsome hdone
  rw [hlabel] at hstep
  have hafter : x.before.reconcile none now = x.after := Option.some.inj hstep
  rw [← hafter]
  exact settled_of_reconcile hjob hlive hsome hdone now

/-- A preview holds an item that is queued and reserves nothing. -/
theorem not_reserved_in_preview :
    ¬ ∀ labels, ∀ item ∈ (final lifeStep {} labels).items,
      (item.reservationActive = true ↔ item.status ∈ activeItemStatuses) := by
  let item : RecoveryJobItem :=
    { id := 2
      recoveryJobId := 1
      memeFileId := some 3
      stage := some .ocr
      workKind := .pipelineStage
      workId := .row 4
      action := .replayStage
      expectedVersion := .row 0 none }
  intro hreserved
  have hpreview := hreserved [.previewBatch { id := 1 } [item]] item (by decide)
  revert hpreview
  decide

end Steps

end MemeExpert.Services
