import MemeExpert.Services.RecoveryRuntime

/-! The reclaimer takes an ingest request whose media inspection made no progress and either
gives it up or hands it back. -/

namespace MemeExpert.Services

open Messaging

structure IngestStore where
  requests : List PipelineIngestRequest
  outbox : List RabbitMQOutboxMessage := []
  recoveryItems : List RecoveryJobItem := []

/-- The error of a call that the caller does not handle; the transaction is rolled back. -/
inductive IngestError where
  | missingSha256Hex (ingestRequestId : Uuid)

def buildMediaInspectMessageSpec (request : PipelineIngestRequest) (eventId : Uuid)
    (createdAt : Time) : Except IngestError RabbitMessageSpec :=
  match request.sha256Hex with
  | none => .error (.missingSha256Hex request.id)
  | some sha256Hex =>
    .ok {
      routingKey := .event .mediaInspectRequested
      payload := .mediaInspect request.id sha256Hex
      messageId := eventId
      eventType := .mediaInspectRequested
      aggregateType := .pipelineIngestRequest
      aggregateId := request.id
      orderingKey := some request.id
      createdAt := createdAt }

def stuckIngest (settings : PipelineSettings) (isLocked : Uuid → Bool) (now : Time)
    (request : PipelineIngestRequest) : Bool :=
  request.status = .mediaInspecting ∧
    request.updatedAt < now - settings.stuckReclaimAfterSeconds ∧ isLocked request.id = false

def updatedBefore (a b : PipelineIngestRequest) : Bool :=
  a.updatedAt < b.updatedAt || (a.updatedAt == b.updatedAt && a.id < b.id)

def nextStuckIngest (settings : PipelineSettings) (isLocked : Uuid → Bool) (store : IngestStore)
    (now : Time) : Option PipelineIngestRequest :=
  Queries.firstBy updatedBefore (store.requests.filter (stuckIngest settings isLocked now))

def isInspectMessage (requestId : Uuid) (message : RabbitMQOutboxMessage) : Bool :=
  message.aggregateType = .pipelineIngestRequest ∧ message.aggregateId = requestId ∧
    message.eventType = .mediaInspectRequested

/-- `existing_outbox`: an inspect message in any of the four listed statuses. -/
def existingOutbox (store : IngestStore) (requestId : Uuid) : Option RabbitMQOutboxMessage :=
  store.outbox.find? fun message =>
    isInspectMessage requestId message &&
      decide (message.status ∈ [RabbitMQOutboxMessageStatus.pending, .failed, .publishing, .published])

def linkedRecoveryItem (store : IngestStore) (requestId : Uuid) : Option RecoveryJobItem :=
  store.recoveryItems.find? fun item =>
    item.workKind = .ingestRequest ∧ item.workId = .row requestId ∧ item.status = .dispatched

def exhaustedRequest (request : PipelineIngestRequest) : PipelineIngestRequest :=
  { request with
    status := .publishFailed
    failureCode := some "media_inspect_stuck_attempts_exhausted"
    failureDetail := some "Media inspection made no progress after the automatic attempt budget."
    lockedAt := none }

def pendingRequest (request : PipelineIngestRequest) : PipelineIngestRequest :=
  { request with
    status := .mediaInspectPending
    failureCode := none
    failureDetail := none
    lockedAt := none }

def IngestStore.saveRequest (store : IngestStore) (request : PipelineIngestRequest) : IngestStore :=
  { store with
    requests := store.requests.map fun other => if other.id = request.id then request else other }

def IngestStore.addInspectMessage (store : IngestStore) (request : PipelineIngestRequest)
    (spec : RabbitMessageSpec) (now : Time) : IngestStore :=
  let added := { store with outbox := store.outbox ++ [outboxMessageFromSpec spec] }
  match linkedRecoveryItem store request.id with
  | none => added
  | some linked =>
    { added with
      recoveryItems := store.recoveryItems.map fun item =>
        if item.id = linked.id then relinkedItem linked spec.messageId now else item }

/-- One call: `none` when no request is stuck. -/
def reclaimNextStuckIngest (settings : PipelineSettings) (isLocked : Uuid → Bool)
    (store : IngestStore) (eventId : Uuid) (now : Time) :
    Except IngestError (IngestStore × Option Bool) :=
  match nextStuckIngest settings isLocked store now with
  | none => .ok (store, none)
  | some request =>
    if settings.brokerRetryMaxAttempts ≤ request.attemptCount then
      .ok (store.saveRequest (exhaustedRequest request), some true)
    else
      let reclaimed := store.saveRequest (pendingRequest request)
      match existingOutbox store request.id with
      | some _ => .ok (reclaimed, some true)
      | none =>
        match buildMediaInspectMessageSpec request eventId now with
        | .error error => .error error
        | .ok spec => .ok (reclaimed.addInspectMessage request spec now, some true)

def relayable (settings : PipelineSettings) (items : List RecoveryJobItem)
    (message : RabbitMQOutboxMessage) : Bool :=
  claimSpecificFilter settings items message || message.status == .publishing

def NotStranded (settings : PipelineSettings) (store : IngestStore) (requestId : Uuid) : Prop :=
  ∃ request ∈ store.requests, request.id = requestId ∧
    (request.status = .publishFailed ∨
      (request.status = .mediaInspectPending ∧
        ∃ message ∈ store.outbox, isInspectMessage requestId message = true ∧
          relayable settings store.recoveryItems message = true))

/-- The request has a message that a relay can still bring out or has brought out; the broker
delivers a published message until a worker has settled it. -/
def Outstanding (settings : PipelineSettings) (store : IngestStore) (requestId : Uuid) : Prop :=
  ∃ message ∈ store.outbox, isInspectMessage requestId message = true ∧
    (relayable settings store.recoveryItems message = true ∨ message.status = .published)

def HasInspectMessage (store : IngestStore) (requestId : Uuid) : Prop :=
  ∃ message ∈ store.outbox, isInspectMessage requestId message = true

structure HandedBack (settings : PipelineSettings) (before after : IngestStore)
    (requestId : Uuid) : Prop where
  reuses : HasInspectMessage before requestId →
    after.outbox = before.outbox ∧ after.recoveryItems = before.recoveryItems
  adds : ¬ HasInspectMessage before requestId →
    ∃ message, after.outbox = before.outbox ++ [message] ∧
      isInspectMessage requestId message = true ∧
      claimSpecificFilter settings after.recoveryItems message = true

def GrantsPublication (item : RecoveryJobItem) : Prop :=
  ∀ start, item.attemptBudgetStart = some start → 0 < itemAttemptCeiling item start

section Reclaim

variable {settings : PipelineSettings} {isLocked : Uuid → Bool} {store : IngestStore}
  {request : PipelineIngestRequest} {eventId : Uuid} {now : Time}

theorem HandedBack.outstanding {after : IngestStore} {requestId : Uuid}
    (h : HandedBack settings store after requestId)
    (hbefore : HasInspectMessage store requestId → Outstanding settings store requestId) :
    Outstanding settings after requestId := by
  by_cases hexists : HasInspectMessage store requestId
  · obtain ⟨houtbox, hitems⟩ := h.reuses hexists
    obtain ⟨message, hmessage, hinspect, hlive⟩ := hbefore hexists
    rw [← hitems] at hlive
    exact ⟨message, houtbox ▸ hmessage, hinspect, hlive⟩
  obtain ⟨message, houtbox, hinspect, hclaim⟩ := h.adds hexists
  refine ⟨message, ?_, hinspect, .inl ?_⟩
  · rw [houtbox]
    exact List.mem_append_right _ List.mem_cons_self
  · simp [relayable, hclaim]

theorem mem_of_nextStuckIngest (hnext : nextStuckIngest settings isLocked store now = some request) :
    request ∈ store.requests :=
  (List.mem_filter.mp (Queries.mem_of_firstBy hnext)).1

theorem mem_saveRequest (hmem : request ∈ store.requests) {saved : PipelineIngestRequest}
    (hid : saved.id = request.id) : saved ∈ (store.saveRequest saved).requests :=
  List.mem_map.mpr ⟨request, hmem, if_pos hid.symm⟩

theorem existingOutbox_eq_none_iff (store : IngestStore) (requestId : Uuid) :
    existingOutbox store requestId = none ↔ ¬ HasInspectMessage store requestId := by
  have hany : ∀ status : RabbitMQOutboxMessageStatus,
      decide (status ∈ [RabbitMQOutboxMessageStatus.pending, .failed, .publishing, .published]) =
        true := by
    intro status
    cases status <;> rfl
  simp only [existingOutbox, HasInspectMessage, List.find?_eq_none, hany, Bool.and_true]
  constructor
  · rintro h ⟨message, hmessage, hinspect⟩
    exact h message hmessage hinspect
  · intro h message hmessage hinspect
    exact h ⟨message, hmessage, hinspect⟩

theorem claimSpecificFilter_of_fresh {items : List RecoveryJobItem} {message : RabbitMQOutboxMessage}
    (hstatus : message.status = .pending) (hcount : message.attemptCount = 0)
    (hgrants : ∀ item ∈ items, item.dispatchEventId = some message.messageId →
      GrantsPublication item) : claimSpecificFilter settings items message = true := by
  cases hceiling : recoveryAttemptCeiling items message with
  | none => simp [claimSpecificFilter, hceiling, hstatus]
  | some ceiling =>
    have hpos : 0 < ceiling := by
      simp only [recoveryAttemptCeiling, Option.bind_eq_bind, Option.bind_eq_some_iff] at hceiling
      obtain ⟨owner, howner, start, hstart, hreturn⟩ := hceiling
      have hmem := List.mem_filter.mp (Queries.mem_of_firstBy howner)
      simp only [decide_eq_true_eq] at hmem
      have hgrant := hgrants owner hmem.1 hmem.2.1 start hstart
      cases hreturn
      exact hgrant
    simp [claimSpecificFilter, hceiling, hstatus, hcount, hpos]

theorem GrantsPublication.relinked {item : RecoveryJobItem} (h : GrantsPublication item) :
    GrantsPublication (relinkedItem item eventId now) :=
  fun start hstart => h start hstart

theorem handedBack_addInspectMessage {spec : RabbitMessageSpec}
    (hspec : buildMediaInspectMessageSpec request eventId now = .ok spec)
    (hnone : ¬ HasInspectMessage store request.id)
    (hfresh : ∀ item ∈ store.recoveryItems, item.dispatchEventId ≠ some eventId)
    (hbudget : ∀ item, linkedRecoveryItem store request.id = some item → GrantsPublication item) :
    HandedBack settings store
      ((store.saveRequest (pendingRequest request)).addInspectMessage request spec now)
      request.id := by
  have hid : spec.messageId = eventId := by
    unfold buildMediaInspectMessageSpec at hspec
    split at hspec <;> cases hspec
    rfl
  have hinspect : isInspectMessage request.id (outboxMessageFromSpec spec) = true := by
    unfold buildMediaInspectMessageSpec at hspec
    split at hspec <;> cases hspec
    simp [isInspectMessage, outboxMessageFromSpec]
  have hlinked : linkedRecoveryItem (store.saveRequest (pendingRequest request)) request.id =
      linkedRecoveryItem store request.id := rfl
  refine ⟨fun hexists => absurd hexists hnone, fun _ => ⟨outboxMessageFromSpec spec, ?_, hinspect, ?_⟩⟩
  · unfold IngestStore.addInspectMessage
    split <;> rfl
  refine claimSpecificFilter_of_fresh rfl rfl ?_
  intro item hitem hevent
  have hcarries : item.dispatchEventId = some eventId := hid ▸ hevent
  cases hfound : linkedRecoveryItem store request.id with
  | none =>
    simp only [IngestStore.addInspectMessage, hlinked, hfound] at hitem
    exact absurd hcarries (hfresh item hitem)
  | some linked =>
    simp only [IngestStore.addInspectMessage, hlinked, hfound] at hitem
    obtain ⟨other, hother, rfl⟩ := List.mem_map.mp hitem
    split at hcarries
    · next hsame =>
      rw [if_pos hsame]
      exact (hbudget linked hfound).relinked
    · exact absurd hcarries (hfresh other hother)

end Reclaim

/-- A reclaimed request is given up when its attempts are spent, and otherwise handed back with
the messages it has, or with a new one that a relay can claim. -/
theorem reclaimNextStuckIngest_spec (settings : PipelineSettings) (isLocked : Uuid → Bool)
    (store : IngestStore) (request : PipelineIngestRequest) (eventId : Uuid) (now : Time)
    (hnext : nextStuckIngest settings isLocked store now = some request)
    (hsha : request.sha256Hex.isSome)
    (hfresh : ∀ item ∈ store.recoveryItems, item.dispatchEventId ≠ some eventId)
    (hbudget : ∀ item, linkedRecoveryItem store request.id = some item → GrantsPublication item) :
    ∃ after reclaimed, reclaimNextStuckIngest settings isLocked store eventId now =
        .ok (after, some true) ∧
      reclaimed ∈ after.requests ∧ reclaimed.id = request.id ∧
      ((settings.brokerRetryMaxAttempts ≤ request.attemptCount ∧ reclaimed.status = .publishFailed) ∨
        (request.attemptCount < settings.brokerRetryMaxAttempts ∧
          reclaimed.status = .mediaInspectPending ∧ HandedBack settings store after request.id ∧
          ((HasInspectMessage store request.id → Outstanding settings store request.id) →
            Outstanding settings after request.id))) := by
  have hmem := mem_of_nextStuckIngest hnext
  by_cases hspent : settings.brokerRetryMaxAttempts ≤ request.attemptCount
  · refine ⟨store.saveRequest (exhaustedRequest request), exhaustedRequest request, ?_,
      mem_saveRequest hmem rfl, rfl, .inl ⟨hspent, rfl⟩⟩
    simp [reclaimNextStuckIngest, hnext, hspent]
  have hleft : request.attemptCount < settings.brokerRetryMaxAttempts := Nat.not_le.mp hspent
  cases hexisting : existingOutbox store request.id with
  | some message =>
    have hhas : HasInspectMessage store request.id := by
      by_contra hnone
      rw [(existingOutbox_eq_none_iff store request.id).mpr hnone] at hexisting
      cases hexisting
    have hback : HandedBack settings store (store.saveRequest (pendingRequest request))
        request.id :=
      ⟨fun _ => ⟨rfl, rfl⟩, fun hnone => absurd hhas hnone⟩
    refine ⟨_, pendingRequest request, ?_, mem_saveRequest hmem rfl, rfl,
      .inr ⟨hleft, rfl, hback, hback.outstanding⟩⟩
    simp [reclaimNextStuckIngest, hnext, hspent, hexisting]
  | none =>
    obtain ⟨sha256Hex, hhash⟩ := Option.isSome_iff_exists.mp hsha
    have hspec : ∃ spec, buildMediaInspectMessageSpec request eventId now = .ok spec := by
      simp [buildMediaInspectMessageSpec, hhash]
    obtain ⟨spec, hspec⟩ := hspec
    have hnone := (existingOutbox_eq_none_iff store request.id).mp hexisting
    have hback : HandedBack settings store
        ((store.saveRequest (pendingRequest request)).addInspectMessage request spec now)
        request.id := handedBack_addInspectMessage hspec hnone hfresh hbudget
    have hrequests : ((store.saveRequest (pendingRequest request)).addInspectMessage request spec
        now).requests = (store.saveRequest (pendingRequest request)).requests := by
      unfold IngestStore.addInspectMessage
      split <;> rfl
    refine ⟨_, pendingRequest request, ?_, ?_, rfl,
      .inr ⟨hleft, rfl, hback, hback.outstanding⟩⟩
    · simp [reclaimNextStuckIngest, hnext, hspent, hexisting, hspec]
    · rw [hrequests]
      exact mem_saveRequest hmem rfl

def stuckRequest : PipelineIngestRequest where
  id := 1
  status := .mediaInspecting
  sha256Hex := some "0"
  attemptCount := 1
  updatedAt := 0

def publishedStuck : IngestStore where
  requests := [stuckRequest]
  outbox := [
    { id := 5, routingKey := .event .mediaInspectRequested, payload := .mediaInspect 1 "0"
      messageId := 5, eventType := .mediaInspectRequested, aggregateType := .pipelineIngestRequest
      aggregateId := 1, orderingKey := some 1, status := .published, attemptCount := 1
      createdAt := 0 }]

theorem reclaimNextStuckIngest_spec_published :
    ∃ after reclaimed, reclaimNextStuckIngest {} (fun _ => false) publishedStuck 9 1000 =
        .ok (after, some true) ∧
      reclaimed ∈ after.requests ∧ reclaimed.id = 1 ∧
      ((5 ≤ 1 ∧ reclaimed.status = .publishFailed) ∨
        (1 < 5 ∧ reclaimed.status = .mediaInspectPending ∧ HandedBack {} publishedStuck after 1 ∧
          ((HasInspectMessage publishedStuck 1 → Outstanding {} publishedStuck 1) →
            Outstanding {} after 1))) :=
  reclaimNextStuckIngest_spec {} (fun _ => false) publishedStuck stuckRequest 9 1000 (by decide)
    (by decide) (by decide) (fun item hitem => by cases hitem)

theorem stranded_publishedStuck :
    ¬ ∀ (settings : PipelineSettings) (isLocked : Uuid → Bool) (store : IngestStore)
      (request : PipelineIngestRequest) (eventId now : Nat),
      nextStuckIngest settings isLocked store now = some request → request.sha256Hex.isSome →
      ∀ after, reclaimNextStuckIngest settings isLocked store eventId now = .ok (after, some true) →
        NotStranded settings after request.id := by
  intro h
  obtain ⟨request, hrequest, -, hstatus⟩ :=
    h {} (fun _ => false) publishedStuck stuckRequest 9 1000 (by decide) (by decide) _ rfl
  have hpending : request.status = .mediaInspectPending := by
    rcases List.mem_singleton.mp hrequest with rfl
    rfl
  rcases hstatus with hfailed | ⟨-, message, hmessage, -, hrelayable⟩
  · rw [hpending] at hfailed
    cases hfailed
  rcases List.mem_singleton.mp hmessage with rfl
  revert hrelayable
  decide

end MemeExpert.Services
