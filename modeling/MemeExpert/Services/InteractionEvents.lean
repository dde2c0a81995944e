import MemeExpert.Lib.Runs
import MemeExpert.Lib.Sessions
import MemeExpert.Models.Library
import MemeExpert.Recommendations.InteractionState

/-! A batch of events is recorded in one transaction. -/

namespace MemeExpert.Services

open Runs Recommendations Gathering

inductive MemeExposureKind where
  | webCard | telegramInline
  deriving DecidableEq

inductive MemeExposureStage where
  | exposedAt | detailClickedAt | highIntentActionAt | inlineChosenAt | inlineSentAt
  deriving DecidableEq

structure MemeExposure where
  exposedAt : Option Time := none
  detailClickedAt : Option Time := none
  highIntentActionAt : Option Time := none
  inlineChosenAt : Option Time := none
  inlineSentAt : Option Time := none

namespace MemeExposure

def ofStage (stage : MemeExposureStage) (observedAt : Time) : MemeExposure :=
  match stage with
  | .exposedAt => { exposedAt := some observedAt }
  | .detailClickedAt => { detailClickedAt := some observedAt }
  | .highIntentActionAt => { highIntentActionAt := some observedAt }
  | .inlineChosenAt => { inlineChosenAt := some observedAt }
  | .inlineSentAt => { inlineSentAt := some observedAt }

/-- The conflict clause sets the stage to `LEAST` of the two. -/
def updateStage (row : MemeExposure) (stage : MemeExposureStage) (observedAt : Time) :
    MemeExposure :=
  match stage with
  | .exposedAt => { row with exposedAt := sqlLeast row.exposedAt (some observedAt) }
  | .detailClickedAt =>
    { row with detailClickedAt := sqlLeast row.detailClickedAt (some observedAt) }
  | .highIntentActionAt =>
    { row with highIntentActionAt := sqlLeast row.highIntentActionAt (some observedAt) }
  | .inlineChosenAt => { row with inlineChosenAt := sqlLeast row.inlineChosenAt (some observedAt) }
  | .inlineSentAt => { row with inlineSentAt := sqlLeast row.inlineSentAt (some observedAt) }

end MemeExposure

inductive InteractionActorType where
  | user | anonymous | system
  deriving DecidableEq

/-- A validated event with what the recording reads of it; `action` is the string under
`properties["action"]`. -/
structure InteractionEventWrite where
  eventId : Uuid
  eventType : AnalyticsEventType
  userId : Option Uuid := none
  memeId : Option Uuid := none
  impressionId : Option Text := none
  surface : Text := []
  action : Option Text := none
  actorType : Option InteractionActorType := none
  actorAccountType : Option AccountType := none
  occurredAt : Option Time := none
  deriving DecidableEq

structure AnalyticsEvent where
  write : InteractionEventWrite
  occurredAt : Time

inductive InteractionError where
  | batchSize
  | unknownUser (userId : Uuid)
  | actorCarriesUser
  | accountTypeMismatch
  | futureOccurredAt
  | eventIdConflict (write : InteractionEventWrite)
  | database
  deriving DecidableEq

/-- The logical key of a stage that is kept once per impression. -/
abbrev ImpressionStageKey := Option Uuid × Uuid × Text × AnalyticsEventType

/-- Rows that the recording reads and never writes, and what it takes from the platform. -/
structure AnalyticsContext where
  accountTypes : Uuid → Option AccountType
  catalogued : Uuid → Bool
  lower : Text → Text
  /-- `hashtextextended` of the key of an impression stage. -/
  advisoryHash : ImpressionStageKey → Int

def interactionEventMaxFutureSkew : Time := 5 * 60

def oncePerImpressionEventTypes : List AnalyticsEventType := [.memeEngagedView, .memeImpression]

def highIntentExposureEventTypes : List AnalyticsEventType :=
  [.favorite, .memeDownload, .memeLike, .memeSave, .memeSend, .memeShare, .save, .share]

def resolveActorContext (context : AnalyticsContext) (write : InteractionEventWrite) :
    Except InteractionError (InteractionActorType × Option AccountType) :=
  match write.userId with
  | none => .ok (write.actorType.getD .anonymous, none)
  | some userId =>
    match context.accountTypes userId with
    | none => .error (.unknownUser userId)
    | some accountType =>
      if write.actorType.getD .user ≠ .user then .error .actorCarriesUser
      else if write.actorAccountType ≠ none ∧ write.actorAccountType ≠ some accountType then
        .error .accountTypeMismatch
      else .ok (write.actorType.getD .user, some accountType)

def isInFuture (write : InteractionEventWrite) (now : Time) : Bool :=
  write.occurredAt.any fun occurredAt => now + interactionEventMaxFutureSkew < occurredAt

def sameInteractionIdentity (existing : AnalyticsEvent) (write : InteractionEventWrite) : Bool :=
  existing.write.userId = write.userId && existing.write.eventType = write.eventType &&
    existing.write.memeId = write.memeId && existing.write.impressionId = write.impressionId

def InteractionEventWrite.stageKey (write : InteractionEventWrite) : Option ImpressionStageKey :=
  match write.memeId, write.impressionId with
  | some memeId, some impressionId =>
    if write.eventType ∈ oncePerImpressionEventTypes then
      some (write.userId, memeId, impressionId, write.eventType)
    else none
  | _, _ => none

inductive RowKey where
  | exposure (memeId : Uuid) (kind : MemeExposureKind) (exposureKey : Text)
  | state (userId memeId : Uuid)
  | status (userId : Uuid)
  deriving DecidableEq

def RowKey.Row : RowKey → Type
  | .exposure .. => MemeExposure
  | .state .. => RecommendationState
  | .status .. => RecommendationProfileStatus

abbrev ProjectedRows := (key : RowKey) → Option key.Row

inductive RowWrite where
  | exposure (memeId : Uuid) (kind : MemeExposureKind) (exposureKey : Text)
      (stage : MemeExposureStage) (observedAt : Time)
  | state (userId memeId : Uuid) (values : RecommendationState)
  | dirty (userId : Uuid) (dirtyAt : Time)
  deriving DecidableEq

def RowWrite.key : RowWrite → RowKey
  | .exposure memeId kind exposureKey _ _ => .exposure memeId kind exposureKey
  | .state userId memeId _ => .state userId memeId
  | .dirty userId _ => .status userId

def RowWrite.written : (write : RowWrite) → Option write.key.Row → write.key.Row
  | .exposure _ _ _ stage observedAt, none => MemeExposure.ofStage stage observedAt
  | .exposure _ _ _ stage observedAt, some row => MemeExposure.updateStage row stage observedAt
  | .state _ _ values, none => values
  | .state _ _ values, some row => onConflictDoUpdate row values
  | .dirty _ dirtyAt, status => dirtyStatus status dirtyAt

def upsertRow (rows : ProjectedRows) (write : RowWrite) : ProjectedRows :=
  Function.update rows write.key (some (write.written (rows write.key)))

/-- `MemeExposureService._record`. -/
def recordExposure (memeId : Uuid) (kind : MemeExposureKind) (stage : MemeExposureStage)
    (exposureKey : Text) (occurredAt : Time) : List RowWrite :=
  let normalizedKey := stripText exposureKey
  if normalizedKey = [] ∨ 255 < normalizedKey.length then []
  else [.exposure memeId kind normalizedKey stage occurredAt]

def exposureStage (write : InteractionEventWrite) : Option (MemeExposureKind × MemeExposureStage) :=
  if write.eventType ∈ [AnalyticsEventType.impression, .memeImpression] then
    some (.webCard, .exposedAt)
  else if write.eventType ∈ [AnalyticsEventType.click, .memeDetailClick] then
    some (.webCard, .detailClickedAt)
  else if write.eventType = .inlineServed then some (.telegramInline, .exposedAt)
  else if write.eventType = .inlineChosen then some (.telegramInline, .inlineChosenAt)
  else if write.eventType = .inlineSent then some (.telegramInline, .inlineSentAt)
  else if write.eventType ∈ highIntentExposureEventTypes ∧
      ¬ "telegram_inline".toList <+: write.surface then
    some (.webCard, .highIntentActionAt)
  else none

def recordExposureFact (context : AnalyticsContext) (event : AnalyticsEvent) : List RowWrite :=
  match event.write.memeId, event.write.impressionId with
  | some memeId, some exposureKey =>
    if context.catalogued memeId then
      match exposureStage event.write with
      | some (kind, stage) => recordExposure memeId kind stage exposureKey event.occurredAt
      | none => []
    else []
  | _, _ => []

/-- The upserts of `project_recommendation_interaction`. -/
def recommendationWrites (context : AnalyticsContext) (event : AnalyticsEvent) : List RowWrite :=
  match event.write.userId, event.write.memeId with
  | some userId, some memeId =>
    if context.catalogued memeId then
      let eventType := event.write.eventType
      let isImpression : Bool := eventType ∈ impressionEventTypes
      let isEngagedView : Bool := eventType ∈ engagedViewEventTypes
      let isStrong := isStrongAction context.lower eventType event.write.action
      let isSignal := isProfileSignal context.lower eventType event.write.action
      if isImpression || isEngagedView || isStrong || isSignal then
        .state userId memeId (insertedState event.occurredAt isImpression isEngagedView isStrong) ::
          if isSignal then [.dirty userId event.occurredAt] else []
      else []
    else []
  | _, _ => []

def projectInsertedInteraction (context : AnalyticsContext) (event : AnalyticsEvent) :
    List RowWrite :=
  recordExposureFact context event ++ recommendationWrites context event

def projectEvents (context : AnalyticsContext) (events : List AnalyticsEvent) : ProjectedRows :=
  (events.flatMap (projectInsertedInteraction context)).foldl upsertRow fun _ => none

inductive InteractionLock where
  | event (eventId : Uuid)
  | stage (hash : Int)
  | row (key : RowKey)
  deriving DecidableEq

/-- Where a batch stands with the first event of `todo`. -/
inductive BatchPoint where
  | next
  | awaitingStage (occurredAt : Time)
  | stageLocked (occurredAt : Time)
  | inserting (occurredAt : Time)
  | projecting (writes : List RowWrite)
  deriving DecidableEq

/-- A transaction with its uncommitted events and rows; `outcomes` tells of each event
that is done whether it was inserted. -/
structure InteractionBatch where
  batch : List InteractionEventWrite
  todo : List InteractionEventWrite
  outcomes : List (InteractionEventWrite × Bool) := []
  inserted : List AnalyticsEvent := []
  rows : ProjectedRows := fun _ => none
  point : BatchPoint := .next

inductive BatchResult where
  | recorded (outcomes : List (InteractionEventWrite × Bool))
  | raised (batch : List InteractionEventWrite) (error : InteractionError)
  deriving DecidableEq

structure AnalyticsTables where
  events : List AnalyticsEvent := []
  rows : ProjectedRows := fun _ => none

structure AnalyticsState where
  tables : AnalyticsTables := {}
  sessions : Sessions Nat InteractionLock InteractionBatch := {}
  clock : Time := 0
  results : List BatchResult := []

inductive InteractionLabel where
  | start (callId : Nat) (batch : List InteractionEventWrite)
  | check (callId : Nat) (now : Time)
  | lockStage (callId : Nat)
  | findStage (callId : Nat)
  | insert (callId : Nat)
  | project (callId : Nat)
  | commit (callId : Nat)
  | abort (callId : Nat)

namespace InteractionBatch

def visible (call : InteractionBatch) (tables : AnalyticsTables) : List AnalyticsEvent :=
  tables.events ++ call.inserted

def visibleRow (call : InteractionBatch) (tables : AnalyticsTables) (key : RowKey) :
    Option key.Row :=
  (call.rows key).or (tables.rows key)

def done (call : InteractionBatch) (write : InteractionEventWrite) (inserted : Bool) :
    InteractionBatch :=
  { call with
    todo := call.todo.tail
    outcomes := call.outcomes ++ [(write, inserted)]
    point := .next }

end InteractionBatch

def eventById (events : List AnalyticsEvent) (eventId : Uuid) : Option AnalyticsEvent :=
  events.find? fun event => event.write.eventId = eventId

namespace AnalyticsState

def put (s : AnalyticsState) (callId : Nat) (call : InteractionBatch) : AnalyticsState :=
  { s with sessions := s.sessions.put callId call }

def acquire (s : AnalyticsState) (lock : InteractionLock) (callId : Nat)
    (call : InteractionBatch) : Option AnalyticsState :=
  if s.sessions.locks lock = none ∨ s.sessions.locks lock = some callId then
    some { s with sessions := s.sessions.take lock callId call }
  else none

def raise (s : AnalyticsState) (callId : Nat) (call : InteractionBatch)
    (error : InteractionError) : AnalyticsState :=
  { s with
    sessions := s.sessions.drop callId
    results := s.results ++ [.raised call.batch error] }

/-- What `session.get` finds under the UUID decides. -/
def found (s : AnalyticsState) (callId : Nat) (call : InteractionBatch)
    (write : InteractionEventWrite) (existing : AnalyticsEvent) : AnalyticsState :=
  if sameInteractionIdentity existing write then s.put callId (call.done write false)
  else s.raise callId call (.eventIdConflict write)

def check (context : AnalyticsContext) (s : AnalyticsState) (callId : Nat)
    (call : InteractionBatch) (write : InteractionEventWrite) (now : Time) : AnalyticsState :=
  match resolveActorContext context write with
  | .error error => s.raise callId call error
  | .ok _ =>
    if isInFuture write now then s.raise callId call .futureOccurredAt
    else
      match eventById (call.visible s.tables) write.eventId with
      | some existing => s.found callId call write existing
      | none =>
        let occurredAt := write.occurredAt.getD now
        s.put callId
          { call with
            point := if write.stageKey = none then .inserting occurredAt
              else .awaitingStage occurredAt }

def findStage (s : AnalyticsState) (callId : Nat) (call : InteractionBatch)
    (write : InteractionEventWrite) (occurredAt : Time) : AnalyticsState :=
  if (call.visible s.tables).any fun event => event.write.stageKey = write.stageKey then
    match eventById (call.visible s.tables) write.eventId with
    | some existing => s.found callId call write existing
    | none => s.put callId (call.done write false)
  else s.put callId { call with point := .inserting occurredAt }

def insert (context : AnalyticsContext) (s : AnalyticsState) (callId : Nat)
    (call : InteractionBatch) (write : InteractionEventWrite) (occurredAt : Time) :
    Option AnalyticsState :=
  match eventById (call.visible s.tables) write.eventId with
  | some existing => some (s.found callId call write existing)
  | none =>
    s.acquire (.event write.eventId) callId
      { call with
        inserted := call.inserted ++ [⟨write, occurredAt⟩]
        point := .projecting (projectInsertedInteraction context ⟨write, occurredAt⟩) }

def project (s : AnalyticsState) (callId : Nat) (call : InteractionBatch)
    (write : InteractionEventWrite) : List RowWrite → Option AnalyticsState
  | [] => some (s.put callId (call.done write true))
  | rowWrite :: rest =>
    s.acquire (.row rowWrite.key) callId
      { call with
        rows := Function.update call.rows rowWrite.key
          (some (rowWrite.written (call.visibleRow s.tables rowWrite.key)))
        point := .projecting rest }

def commit (s : AnalyticsState) (callId : Nat) (call : InteractionBatch) : AnalyticsState :=
  { s with
    sessions := s.sessions.drop callId
    tables :=
      { events := call.visible s.tables
        rows := call.visibleRow s.tables }
    results := s.results ++ [.recorded call.outcomes] }

end AnalyticsState

def interactionStep (context : AnalyticsContext) (s : AnalyticsState) :
    InteractionLabel → Option AnalyticsState
  | .start callId batch =>
    if s.sessions.calls callId = none then
      if batch = [] ∨ 50 < batch.length then
        some { s with results := s.results ++ [.raised batch .batchSize] }
      else some (s.put callId { batch := batch, todo := batch })
    else none
  | .check callId now =>
    match s.sessions.calls callId with
    | none => none
    | some call =>
      match call.point, call.todo with
      | .next, write :: _ =>
        if s.clock ≤ now then
          some (AnalyticsState.check context { s with clock := now } callId call write now)
        else none
      | _, _ => none
  | .lockStage callId =>
    match s.sessions.calls callId with
    | none => none
    | some call =>
      match call.point, call.todo with
      | .awaitingStage occurredAt, write :: _ =>
        match write.stageKey with
        | none => none
        | some stageKey =>
          s.acquire (.stage (context.advisoryHash stageKey)) callId
            { call with point := .stageLocked occurredAt }
      | _, _ => none
  | .findStage callId =>
    match s.sessions.calls callId with
    | none => none
    | some call =>
      match call.point, call.todo with
      | .stageLocked occurredAt, write :: _ => some (s.findStage callId call write occurredAt)
      | _, _ => none
  | .insert callId =>
    match s.sessions.calls callId with
    | none => none
    | some call =>
      match call.point, call.todo with
      | .inserting occurredAt, write :: _ => s.insert context callId call write occurredAt
      | _, _ => none
  | .project callId =>
    match s.sessions.calls callId with
    | none => none
    | some call =>
      match call.point, call.todo with
      | .projecting writes, write :: _ => s.project callId call write writes
      | _, _ => none
  | .commit callId =>
    match s.sessions.calls callId with
    | none => none
    | some call => if call.point = .next ∧ call.todo = [] then some (s.commit callId call) else none
  | .abort callId =>
    match s.sessions.calls callId with
    | none => none
    | some call => some (s.raise callId call .database)

end MemeExpert.Services
