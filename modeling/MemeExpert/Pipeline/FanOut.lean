import MemeExpert.Pipeline.StageCompletion

/-! A classify success hands over to both sync stages or to none of them: one sync row that
exists already ends the loop over the targets with no dispatch at all. -/

namespace MemeExpert.Pipeline

open Messaging

def addedMessages (before after : StageStore) : List RabbitMQOutboxMessage :=
  after.outbox.drop before.outbox.length

def DispatchedBy (messages : List RabbitMQOutboxMessage) (row : PipelineStageJournal) : Prop :=
  ∃ message ∈ messages, ∃ event, message.payload = .dispatch event ∧
    message.messageId = event.eventId ∧ row.lastEventId = some event.eventId ∧
    event.stage = row.stage ∧ event.memeFileId = row.memeFileId

/-- No sync row waits without a message that runs it. -/
def PendingDispatched (store : StageStore) : Prop :=
  ∀ stage ∈ syncStages, ∀ row, store.journal stage = some row → row.status = .pending →
    DispatchedBy store.outbox row

structure FanOutComplete (before after : StageStore) : Prop where
  created_dispatched : ∀ stage ∈ syncStages, before.journal stage = none →
    ∀ row, after.journal stage = some row → DispatchedBy (addedMessages before after) row
  handed_over : ∀ stage ∈ syncStages, before.journal stage = none →
    (after.journal stage).isSome
  pending_dispatched : PendingDispatched after

/-- Both rows are there and none of them waits for a message, or neither is there and the
fan-out is not suppressed. -/
def SyncRowsAgree (store : StageStore) (eventId : Uuid) : Prop :=
  ((store.journal .syncQdrant).isSome ∧ (store.journal .syncMeili).isSome ∧
      PendingDispatched store) ∨
    (store.journal .syncQdrant = none ∧ store.journal .syncMeili = none ∧
      suppressesFanout store eventId = false)

section FanOutLoop

variable {memeFile : MemeFile} {createdAt : Time} {uuids : Nat → Uuid} {journal : Journal}

def fanOutDispatch (memeFile : MemeFile) (createdAt : Time) (uuids : Nat → Uuid)
    (stage : ContentPipelineStage) (n : Nat) : DownstreamStageDispatch :=
  buildDownstreamDispatch memeFile .classify stage createdAt (uuids (2 * n)) (uuids (2 * n + 1))

theorem prepareClassifyFanOut_of_qdrant (hqdrant : (journal .syncQdrant).isSome) :
    prepareClassifyFanOutDispatches memeFile createdAt uuids journal = (journal, []) := by
  simp [prepareClassifyFanOutDispatches, classifyFanOutStages, classifyFanOutLoop, hqdrant]

theorem prepareClassifyFanOut_of_meili (hqdrant : journal .syncQdrant = none)
    (hmeili : (journal .syncMeili).isSome) :
    prepareClassifyFanOutDispatches memeFile createdAt uuids journal =
      (Function.update journal .syncQdrant
        (some (fanOutDispatch memeFile createdAt uuids .syncQdrant 0).stageEntry), []) := by
  simp [prepareClassifyFanOutDispatches, classifyFanOutStages, classifyFanOutLoop, hqdrant, hmeili,
    fanOutDispatch]

theorem prepareClassifyFanOut_of_none (hqdrant : journal .syncQdrant = none)
    (hmeili : journal .syncMeili = none) :
    prepareClassifyFanOutDispatches memeFile createdAt uuids journal =
      (Function.update
        (Function.update journal .syncQdrant
          (some (fanOutDispatch memeFile createdAt uuids .syncQdrant 0).stageEntry))
        .syncMeili (some (fanOutDispatch memeFile createdAt uuids .syncMeili 1).stageEntry),
        [fanOutDispatch memeFile createdAt uuids .syncQdrant 0,
          fanOutDispatch memeFile createdAt uuids .syncMeili 1]) := by
  simp [prepareClassifyFanOutDispatches, classifyFanOutStages, classifyFanOutLoop, hqdrant, hmeili,
    fanOutDispatch]

variable {worker : StageWorker} {before after : StageStore} {delivery : StageDelivery} {now : Time}

theorem classifySucceeded_eq (hstage : delivery.stage = .classify)
    (h : markStageSucceeded worker before delivery uuids now = .ok after) :
    ∃ entry, before.journal .classify = some entry ∧
      after.journal = (downstreamOf before delivery uuids now
        (Function.update before.journal .classify (some (succeededEntry entry delivery now)))).1 ∧
      after.outbox = enqueueDispatchEvents before.outbox
        ((downstreamOf before delivery uuids now
          (Function.update before.journal .classify
            (some (succeededEntry entry delivery now)))).2.map (·.event)) := by
  unfold markStageSucceeded at h
  rw [hstage] at h
  cases hentry : before.journal .classify with
  | none => simp [hentry] at h
  | some entry =>
    rcases Nat.lt_or_ge delivery.attempt entry.attemptCount with hlt | hge
    · simp [hentry, ensureStageAttemptIsCurrent_of_lt hlt] at h
    simp only [hentry, ensureStageAttemptIsCurrent_of_le hge] at h
    cases h
    refine ⟨entry, rfl, ?_, ?_⟩
    · simp only [finalizeStageSuccess, StageStore.setEntry, hstage]
    · simp only [finalizeStageSuccess, StageStore.setEntry, hstage, List.append_nil]

theorem downstreamOf_of_suppressed (hsuppressed : suppressesFanout before delivery.eventId = true)
    (journal : Journal) : downstreamOf before delivery uuids now journal = (journal, []) := by
  simp only [downstreamOf, hsuppressed, if_true]

theorem downstreamOf_of_fanout (hstage : delivery.stage = .classify)
    (hfanout : suppressesFanout before delivery.eventId = false) (journal : Journal) :
    downstreamOf before delivery uuids now journal =
      prepareClassifyFanOutDispatches before.memeFile now uuids journal := by
  simp only [downstreamOf, hfanout, Bool.false_eq_true, if_false, prepareDownstreamDispatches,
    hstage, if_true]

theorem fanOutComplete_iff_of_rows_kept
    (hrows : ∀ stage ∈ syncStages, after.journal stage = before.journal stage)
    (houtbox : after.outbox = before.outbox) :
    FanOutComplete before after ↔ (before.journal .syncQdrant).isSome ∧
      (before.journal .syncMeili).isSome ∧ PendingDispatched before := by
  have hpending : PendingDispatched after ↔ PendingDispatched before := by
    unfold PendingDispatched
    rw [houtbox]
    constructor
    · exact fun h stage hstage row hrow => h stage hstage row ((hrows stage hstage).trans hrow)
    · exact fun h stage hstage row hrow => h stage hstage row ((hrows stage hstage).symm.trans hrow)
  constructor
  · intro h
    have hexists : ∀ stage ∈ syncStages, (before.journal stage).isSome := by
      intro stage hstage
      by_contra hnone
      have hbefore : before.journal stage = none := by simpa using hnone
      have hsome := h.handed_over stage hstage hbefore
      rw [hrows stage hstage, hbefore] at hsome
      cases hsome
    exact ⟨hexists .syncQdrant (by decide), hexists .syncMeili (by decide),
      hpending.mp h.pending_dispatched⟩
  · rintro ⟨hqdrant, hmeili, hwaiting⟩
    have hexists : ∀ stage ∈ syncStages, before.journal stage ≠ none := by
      intro stage hstage
      rcases mem_syncStages_iff.mp hstage with rfl | rfl
      · exact Option.isSome_iff_ne_none.mp hqdrant
      · exact Option.isSome_iff_ne_none.mp hmeili
    exact ⟨fun stage hstage hnone => absurd hnone (hexists stage hstage),
      fun stage hstage hnone => absurd hnone (hexists stage hstage), hpending.mpr hwaiting⟩

theorem not_fanOutComplete_of_undispatched {stage : ContentPipelineStage}
    (hstage : stage ∈ syncStages) (hbefore : before.journal stage = none)
    {row : PipelineStageJournal} (hafter : after.journal stage = some row)
    (houtbox : after.outbox = before.outbox) : ¬ FanOutComplete before after := by
  intro h
  obtain ⟨message, hmessage, -⟩ := h.created_dispatched stage hstage hbefore row hafter
  simp [addedMessages, houtbox] at hmessage

theorem dispatchedBy_fanOutDispatch (memeFile : MemeFile) (createdAt : Time) (uuids : Nat → Uuid)
    (stage : ContentPipelineStage) (n : Nat) {messages : List RabbitMQOutboxMessage}
    (hmem : outboxMessageFromSpec (buildPipelineDispatchMessageSpec
      (fanOutDispatch memeFile createdAt uuids stage n).event) ∈ messages) :
    DispatchedBy messages (fanOutDispatch memeFile createdAt uuids stage n).stageEntry :=
  ⟨_, hmem, (fanOutDispatch memeFile createdAt uuids stage n).event, rfl, rfl, rfl, rfl, rfl⟩

theorem fanOutComplete_of_created {memeFile : MemeFile} {createdAt : Time} {uuids : Nat → Uuid}
    (hqdrant : after.journal .syncQdrant =
      some (fanOutDispatch memeFile createdAt uuids .syncQdrant 0).stageEntry)
    (hmeili : after.journal .syncMeili =
      some (fanOutDispatch memeFile createdAt uuids .syncMeili 1).stageEntry)
    (houtbox : after.outbox = enqueueDispatchEvents before.outbox
      [(fanOutDispatch memeFile createdAt uuids .syncQdrant 0).event,
        (fanOutDispatch memeFile createdAt uuids .syncMeili 1).event]) :
    FanOutComplete before after := by
  have hadded : addedMessages before after =
      [outboxMessageFromSpec (buildPipelineDispatchMessageSpec
          (fanOutDispatch memeFile createdAt uuids .syncQdrant 0).event),
        outboxMessageFromSpec (buildPipelineDispatchMessageSpec
          (fanOutDispatch memeFile createdAt uuids .syncMeili 1).event)] := by
    rw [addedMessages, houtbox, enqueueDispatchEvents_eq, List.drop_left]
    rfl
  have hcreated : ∀ stage ∈ syncStages, ∀ row, after.journal stage = some row →
      DispatchedBy (addedMessages before after) row := by
    intro stage hstage row hrow
    rw [hadded]
    rcases mem_syncStages_iff.mp hstage with rfl | rfl
    · rw [hqdrant] at hrow
      cases hrow
      exact dispatchedBy_fanOutDispatch _ _ _ _ _ List.mem_cons_self
    · rw [hmeili] at hrow
      cases hrow
      exact dispatchedBy_fanOutDispatch _ _ _ _ _ (List.mem_cons_of_mem _ List.mem_cons_self)
  refine ⟨fun stage hstage _ => hcreated stage hstage, fun stage hstage _ => ?_,
    fun stage hstage row hrow _ => ?_⟩
  · rcases mem_syncStages_iff.mp hstage with rfl | rfl
    · simp [hqdrant]
    · simp [hmeili]
  · obtain ⟨message, hmessage, hevent⟩ := hcreated stage hstage row hrow
    exact ⟨message, List.mem_of_mem_drop hmessage, hevent⟩

theorem sync_row_of_update {journal : Journal} {entry : PipelineStageJournal}
    {stage : ContentPipelineStage} (hsync : stage ∈ syncStages) :
    Function.update journal .classify (some entry) stage = journal stage := by
  rcases mem_syncStages_iff.mp hsync with rfl | rfl <;> rfl

theorem fanOutComplete_iff_of_suppressed (hstage : delivery.stage = .classify)
    (hsuppressed : suppressesFanout before delivery.eventId = true)
    (h : markStageSucceeded worker before delivery uuids now = .ok after) :
    FanOutComplete before after ↔ SyncRowsAgree before delivery.eventId := by
  obtain ⟨entry, -, hjournal, houtbox⟩ := classifySucceeded_eq hstage h
  rw [downstreamOf_of_suppressed hsuppressed] at hjournal houtbox
  have hrows : ∀ stage ∈ syncStages, after.journal stage = before.journal stage := by
    intro stage hsync
    rw [hjournal]
    exact sync_row_of_update hsync
  refine (fanOutComplete_iff_of_rows_kept hrows houtbox).trans ?_
  simp [SyncRowsAgree, hsuppressed]

theorem fanOutComplete_iff_of_fanout (hstage : delivery.stage = .classify)
    (hfanout : suppressesFanout before delivery.eventId = false)
    (h : markStageSucceeded worker before delivery uuids now = .ok after) :
    FanOutComplete before after ↔ SyncRowsAgree before delivery.eventId := by
  obtain ⟨entry, -, hjournal, houtbox⟩ := classifySucceeded_eq hstage h
  rw [downstreamOf_of_fanout hstage hfanout] at hjournal houtbox
  have hq : Function.update before.journal .classify
      (some (succeededEntry entry delivery now)) .syncQdrant = before.journal .syncQdrant :=
    sync_row_of_update (by decide)
  have hm : Function.update before.journal .classify
      (some (succeededEntry entry delivery now)) .syncMeili = before.journal .syncMeili :=
    sync_row_of_update (by decide)
  cases hqdrant : before.journal .syncQdrant with
  | some qdrant =>
    rw [prepareClassifyFanOut_of_qdrant (by rw [hq, hqdrant]; rfl)] at hjournal houtbox
    have hrows : ∀ stage ∈ syncStages, after.journal stage = before.journal stage := by
      intro stage hsync
      rw [hjournal]
      exact sync_row_of_update hsync
    refine (fanOutComplete_iff_of_rows_kept hrows houtbox).trans ?_
    simp [SyncRowsAgree, hqdrant]
  | none =>
    cases hmeili : before.journal .syncMeili with
    | some meili =>
      rw [prepareClassifyFanOut_of_meili (hq.trans hqdrant) (by rw [hm, hmeili]; rfl)]
        at hjournal houtbox
      have hcreated : after.journal .syncQdrant =
          some (fanOutDispatch before.memeFile now uuids .syncQdrant 0).stageEntry := by
        rw [hjournal]
        rfl
      refine iff_of_false
        (not_fanOutComplete_of_undispatched (by decide) hqdrant hcreated houtbox) ?_
      simp [SyncRowsAgree, hqdrant, hmeili]
    | none =>
      rw [prepareClassifyFanOut_of_none (hq.trans hqdrant) (hm.trans hmeili)] at hjournal houtbox
      refine iff_of_true (fanOutComplete_of_created ?_ ?_ houtbox) (.inr ⟨hqdrant, hmeili, hfanout⟩)
      · rw [hjournal]
        rfl
      · rw [hjournal]
        rfl

end FanOutLoop

/-- A classify success loses no work exactly when it finds both sync rows and no message of
theirs is missing, or neither of them and a fan-out that is not suppressed. -/
theorem fanOutComplete_iff_syncRowsAgree {worker : StageWorker} {before after : StageStore}
    {delivery : StageDelivery} {uuids : Nat → Uuid} {now : Time}
    (hstage : delivery.stage = .classify)
    (h : markStageSucceeded worker before delivery uuids now = .ok after) :
    FanOutComplete before after ↔ SyncRowsAgree before delivery.eventId := by
  cases hsuppressed : suppressesFanout before delivery.eventId with
  | true => exact fanOutComplete_iff_of_suppressed hstage hsuppressed h
  | false => exact fanOutComplete_iff_of_fanout hstage hsuppressed h

def classifyingStore (materialised : List ContentPipelineStage) : StageStore where
  memeFile := { id := 1, memeId := 1, status := .processing, s3OriginalKey := "original" }
  journal := fun stage =>
    if stage = .classify then
      some { id := 1, memeFileId := 1, stage := .classify, status := .processing, attemptCount := 1,
             lastEventId := some 1, isRetryable := true, startedAt := some 10 }
    else if stage ∈ materialised then
      some { id := 2, memeFileId := 1, stage := stage, status := .failed,
             normalizedReason := some "orchestrated_stage_not_materialized", isRetryable := true }
    else none

def classifyDelivery : StageDelivery := ⟨.classify, 1, 1⟩

theorem fanOutComplete_iff_syncRowsAgree_fresh :
    ∃ after, markStageSucceeded {} (classifyingStore []) classifyDelivery (100 + ·) 20 = .ok after ∧
      (FanOutComplete (classifyingStore []) after ↔ SyncRowsAgree (classifyingStore []) 1) := by
  have hsucceeds : markStageSucceeded {} (classifyingStore []) classifyDelivery (100 + ·) 20 =
      .ok _ := rfl
  exact ⟨_, hsucceeds, fanOutComplete_iff_syncRowsAgree rfl hsucceeds⟩

theorem not_fanOutComplete_materialised :
    ¬ ∀ (worker : StageWorker) (before after : StageStore) (delivery : StageDelivery)
      (uuids : Nat → Uuid) (now : Time), delivery.stage = .classify →
        markStageSucceeded worker before delivery uuids now = .ok after →
          FanOutComplete before after := by
  intro h
  have hcomplete := h {} (classifyingStore [.syncMeili]) _ classifyDelivery (100 + ·) 20 rfl rfl
  obtain ⟨message, hmessage, -⟩ := hcomplete.created_dispatched .syncQdrant (by decide) rfl _ rfl
  exact List.not_mem_nil hmessage

end MemeExpert.Pipeline
