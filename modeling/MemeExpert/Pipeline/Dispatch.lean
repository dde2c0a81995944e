import MemeExpert.Messaging.RabbitMQOutbox
import MemeExpert.Pipeline.Helpers

/-! The rows one stage transaction works on, the outbox messages it adds, and the downstream
stages it hands over to. -/

namespace MemeExpert.Pipeline

open Messaging

structure StageStore where
  memeFile : MemeFile
  journal : Journal
  syncTargets : SyncTargetKind → Option MemeFileSyncTargetSnapshot := fun _ => none
  recoveryItems : List RecoveryJobItem := []
  attempts : List PipelineStageAttempt := []
  outbox : List RabbitMQOutboxMessage := []

structure DownstreamStageDispatch where
  event : ContentPipelineDispatchEvent
  stageEntry : PipelineStageJournal

def resolveRoutingKeyForEvent (event : ContentPipelineDispatchEvent) : RabbitRoutingKey :=
  match event.eventType with
  | .memeQdrantSynced | .memeMeiliSynced => .event event.eventType
  | _ => .stage event.stage

def buildPipelineDispatchMessageSpec (event : ContentPipelineDispatchEvent) : RabbitMessageSpec where
  routingKey := resolveRoutingKeyForEvent event
  payload := .dispatch event
  messageId := event.eventId
  eventType := event.eventType
  aggregateType := .memeFile
  aggregateId := event.memeFileId
  orderingKey := some event.memeFileId
  createdAt := event.createdAt

def enqueueDispatchEvent (outbox : List RabbitMQOutboxMessage)
    (event : ContentPipelineDispatchEvent) : List RabbitMQOutboxMessage :=
  outbox ++ [outboxMessageFromSpec (buildPipelineDispatchMessageSpec event)]

def enqueueDispatchEvents (outbox : List RabbitMQOutboxMessage)
    (events : List ContentPipelineDispatchEvent) : List RabbitMQOutboxMessage :=
  events.foldl enqueueDispatchEvent outbox

def buildDownstreamDispatch (memeFile : MemeFile) (predecessorStage nextStage : ContentPipelineStage)
    (createdAt : Time) (eventId rowId : Uuid) : DownstreamStageDispatch where
  event :=
    { eventId := eventId
      eventType := downstreamStageEventTypes predecessorStage
      memeId := memeFile.memeId
      memeFileId := memeFile.id
      stage := nextStage
      originalObjectKey := memeFile.s3OriginalKey
      attempt := 1
      attempt_pos := Nat.le_refl 1
      createdAt := createdAt }
  stageEntry :=
    { id := rowId
      memeFileId := memeFile.id
      stage := nextStage
      status := .pending
      attemptCount := 0
      lastEventId := some eventId
      isRetryable := true }

/-- The loop over the fan-out stages. A stage that has a row already ends it with no dispatch,
and the rows added by earlier rounds stay in the session. -/
def classifyFanOutLoop (memeFile : MemeFile) (createdAt : Time) (uuids : Nat → Uuid) :
    List ContentPipelineStage → Journal → List DownstreamStageDispatch →
      Journal × List DownstreamStageDispatch
  | [], journal, dispatches => (journal, dispatches)
  | nextStage :: rest, journal, dispatches =>
    if (journal nextStage).isSome then
      (journal, [])
    else
      let dispatch := buildDownstreamDispatch memeFile .classify nextStage createdAt
        (uuids (2 * dispatches.length)) (uuids (2 * dispatches.length + 1))
      classifyFanOutLoop memeFile createdAt uuids rest
        (Function.update journal nextStage (some dispatch.stageEntry)) (dispatches ++ [dispatch])

def prepareClassifyFanOutDispatches (memeFile : MemeFile) (createdAt : Time) (uuids : Nat → Uuid)
    (journal : Journal) : Journal × List DownstreamStageDispatch :=
  classifyFanOutLoop memeFile createdAt uuids classifyFanOutStages journal []

def prepareDownstreamDispatches (memeFile : MemeFile) (stage : ContentPipelineStage)
    (createdAt : Time) (uuids : Nat → Uuid) (journal : Journal) :
    Journal × List DownstreamStageDispatch :=
  if stage = .classify then
    prepareClassifyFanOutDispatches memeFile createdAt uuids journal
  else
    match nextStageByStage stage with
    | none => (journal, [])
    | some nextStage =>
      if (journal nextStage).isSome then
        (journal, [])
      else
        let dispatch :=
          buildDownstreamDispatch memeFile stage nextStage createdAt (uuids 0) (uuids 1)
        (Function.update journal nextStage (some dispatch.stageEntry), [dispatch])

theorem enqueueDispatchEvents_eq (outbox : List RabbitMQOutboxMessage)
    (events : List ContentPipelineDispatchEvent) :
    enqueueDispatchEvents outbox events =
      outbox ++ events.map fun event =>
        outboxMessageFromSpec (buildPipelineDispatchMessageSpec event) := by
  induction events generalizing outbox with
  | nil => simp [enqueueDispatchEvents]
  | cons event events ih =>
    change enqueueDispatchEvents (enqueueDispatchEvent outbox event) events = _
    rw [ih, enqueueDispatchEvent, List.append_assoc, List.map_cons, List.singleton_append]

theorem classifyFanOutLoop_of_not_mem (memeFile : MemeFile) (createdAt : Time)
    (uuids : Nat → Uuid) {stage : ContentPipelineStage} :
    ∀ (stages : List ContentPipelineStage) (journal : Journal)
      (dispatches : List DownstreamStageDispatch), stage ∉ stages →
      (classifyFanOutLoop memeFile createdAt uuids stages journal dispatches).1 stage =
        journal stage
  | [], _, _, _ => rfl
  | nextStage :: rest, journal, dispatches, hstage => by
    rw [List.mem_cons, not_or] at hstage
    obtain ⟨hne, hrest⟩ := hstage
    unfold classifyFanOutLoop
    split
    · rfl
    · rw [classifyFanOutLoop_of_not_mem memeFile createdAt uuids rest _ _ hrest,
        Function.update_of_ne hne]

theorem prepareDownstreamDispatches_self (memeFile : MemeFile) (stage : ContentPipelineStage)
    (createdAt : Time) (uuids : Nat → Uuid) (journal : Journal) :
    (prepareDownstreamDispatches memeFile stage createdAt uuids journal).1 stage =
      journal stage := by
  unfold prepareDownstreamDispatches
  split
  · next h =>
    subst h
    exact classifyFanOutLoop_of_not_mem memeFile createdAt uuids _ journal [] (by decide)
  split
  · rfl
  next nextStage hnext =>
  have hne : stage ≠ nextStage := by
    rintro rfl
    cases stage <;> simp [nextStageByStage] at hnext
  split
  · rfl
  · exact Function.update_of_ne hne ..

theorem classifyFanOutLoop_of_isSome (memeFile : MemeFile) (createdAt : Time) (uuids : Nat → Uuid)
    {stage : ContentPipelineStage} :
    ∀ (stages : List ContentPipelineStage) (journal : Journal)
      (dispatches : List DownstreamStageDispatch), (journal stage).isSome →
      (classifyFanOutLoop memeFile createdAt uuids stages journal dispatches).1 stage =
        journal stage
  | [], _, _, _ => rfl
  | nextStage :: rest, journal, dispatches, hstage => by
    unfold classifyFanOutLoop
    split
    · rfl
    next hnext =>
    have hne : stage ≠ nextStage := by
      rintro rfl
      exact hnext hstage
    have hkept := Function.update_of_ne hne
      (some (buildDownstreamDispatch memeFile .classify nextStage createdAt
        (uuids (2 * dispatches.length)) (uuids (2 * dispatches.length + 1))).stageEntry) journal
    rw [classifyFanOutLoop_of_isSome memeFile createdAt uuids rest _ _ (by rw [hkept]; exact hstage),
      hkept]

theorem prepareDownstreamDispatches_of_isSome (memeFile : MemeFile)
    (stage : ContentPipelineStage) (createdAt : Time) (uuids : Nat → Uuid) {journal : Journal}
    {other : ContentPipelineStage} (hother : (journal other).isSome) :
    (prepareDownstreamDispatches memeFile stage createdAt uuids journal).1 other =
      journal other := by
  unfold prepareDownstreamDispatches
  split
  · exact classifyFanOutLoop_of_isSome memeFile createdAt uuids _ journal [] hother
  split
  · rfl
  next nextStage hnext =>
  split
  · rfl
  next habsent =>
  have hne : other ≠ nextStage := by
    rintro rfl
    exact habsent hother
  exact Function.update_of_ne hne ..

end MemeExpert.Pipeline
