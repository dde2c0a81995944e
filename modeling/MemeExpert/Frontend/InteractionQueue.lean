import MemeExpert.Lib.Runs

/-! `createMemeInteractionQueue` keeps the events of the viewer until they are sent. -/

namespace MemeExpert.Frontend

open scoped List

def interactionBatchMaxEvents : Nat := 50

def interactionBatchMaxBytes : Nat := 48 * 1024

inductive MemeInteractionBatchEventType where
  | memeImpression | memeEngagedView | memeDetailClick
deriving DecidableEq

def MemeInteractionBatchEventType.value : MemeInteractionBatchEventType → String
  | .memeImpression => "meme_impression"
  | .memeEngagedView => "meme_engaged_view"
  | .memeDetailClick => "meme_detail_click"

/-- `properties` are keys with the JSON text of their values. -/
structure MemeInteractionBatchEventWrite where
  eventId : String
  eventType : MemeInteractionBatchEventType
  memeId : String
  occurredAt : String
  attributionToken : Option String
  properties : Option (List (String × String))
deriving DecidableEq

structure MemeInteractionInput where
  eventType : MemeInteractionBatchEventType
  memeId : String
  attributionToken : Option String := none
  properties : List (String × String) := []

/-- The event that `enqueue` makes of its input. -/
def MemeInteractionInput.toWrite (input : MemeInteractionInput) (eventId now : String) :
    MemeInteractionBatchEventWrite where
  eventId := eventId
  eventType := input.eventType
  memeId := input.memeId
  occurredAt := now
  attributionToken := input.attributionToken
  properties := if input.properties = [] then none else some input.properties

structure MemeInteractionQueueOptions where
  flushDelayMs : Nat := 250
  retryDelayMs : Nat := 2000
  maxBatchBytes : Nat := interactionBatchMaxBytes

section ByteLength

def jsonCharBytes (c : Char) : Nat :=
  if c.toNat ∈ [0x22, 0x5c, 0x08, 0x09, 0x0a, 0x0c, 0x0d] then 2
  else if c.toNat < 0x20 then 6
  else c.utf8Size

def jsonStringBytes (text : String) : Nat := 2 + (text.toList.map jsonCharBytes).sum

def jsonArrayBytes (items : List Nat) : Nat := 2 + items.sum + (items.length - 1)

def jsonObjectBytes (fields : List (String × Nat)) : Nat :=
  jsonArrayBytes (fields.map fun field => jsonStringBytes field.1 + 1 + field.2)

def jsonNullableBytes : Option String → Nat
  | none => 4
  | some text => jsonStringBytes text

def MemeInteractionBatchEventWrite.jsonBytes (event : MemeInteractionBatchEventWrite) : Nat :=
  jsonObjectBytes <|
    [("event_id", jsonStringBytes event.eventId),
      ("event_type", jsonStringBytes event.eventType.value),
      ("meme_id", jsonStringBytes event.memeId),
      ("occurred_at", jsonStringBytes event.occurredAt),
      ("attribution_token", jsonNullableBytes event.attributionToken)] ++
    match event.properties with
    | none => []
    | some properties =>
      [("properties", jsonObjectBytes (properties.map fun p => (p.1, p.2.utf8ByteSize)))]

def interactionBatchByteLength (events : List MemeInteractionBatchEventWrite) : Nat :=
  jsonObjectBytes [("events", jsonArrayBytes (events.map MemeInteractionBatchEventWrite.jsonBytes))]

def boundInteractionEvent (event : MemeInteractionBatchEventWrite) (maxBatchBytes : Nat) :
    Option MemeInteractionBatchEventWrite :=
  if interactionBatchByteLength [event] ≤ maxBatchBytes then some event
  else if event.properties ≠ none ∧
      interactionBatchByteLength [{ event with properties := none }] ≤ maxBatchBytes then
    some { event with properties := none }
  else none

end ByteLength

/-- An event object of the queue. `ref` is its identity and `viewerGeneration` the
generation of the queue that made it; the code reads `write` only. -/
structure QueuedEvent where
  write : MemeInteractionBatchEventWrite
  ref : Nat
  viewerGeneration : Nat
deriving DecidableEq

def batchBytes (events : List QueuedEvent) : Nat :=
  interactionBatchByteLength (events.map QueuedEvent.write)

/-- The loop of `takeInteractionBatch`, which stops at the first event that does not fit. -/
def extendBatch (maxBatchBytes : Nat) : List QueuedEvent → List QueuedEvent → List QueuedEvent
  | batch, [] => batch
  | batch, event :: events =>
    if batch ≠ [] ∧ maxBatchBytes < batchBytes (batch ++ [event]) then batch
    else extendBatch maxBatchBytes (batch ++ [event]) events

def takeInteractionBatch (events : List QueuedEvent) (maxBatchBytes : Nat) : List QueuedEvent :=
  extendBatch maxBatchBytes [] (events.take interactionBatchMaxEvents)

section Delivery

/-- What a rejected `send` throws. -/
inductive SendError where
  | apiError (status : Nat)
  | other

def isRetryableInteractionError : SendError → Bool
  | .other => true
  | .apiError status => status == 408 || status == 425 || status == 429 || 500 ≤ status

inductive SendOutcome where
  | accepted
  | failed (error : SendError)

/-- What is left to do of the calls of `deliverInteractionBatch` around the one that runs. -/
inductive DeliveryFrame where
  | firstHalf (later : List QueuedEvent)
  | secondHalf (retryOfFirst : List QueuedEvent)
deriving DecidableEq

/-- The innermost call awaits `send`, or it has returned the events to retry. -/
inductive DeliveryPoint where
  | sending (events : List QueuedEvent)
  | returned (retryEvents : List QueuedEvent)
deriving DecidableEq

/-- A `runFlush` that awaits its delivery. -/
structure Delivery where
  keepalive : Bool
  batchGeneration : Nat
  frames : List DeliveryFrame
  point : DeliveryPoint
deriving DecidableEq

def DeliveryFrame.enclose : DeliveryFrame → List QueuedEvent → List QueuedEvent
  | .firstHalf later, held => held ++ later
  | .secondHalf retryOfFirst, held => retryOfFirst ++ held

def DeliveryPoint.held : DeliveryPoint → List QueuedEvent
  | .sending events => events
  | .returned events => events

def encloseAll (frames : List DeliveryFrame) (held : List QueuedEvent) : List QueuedEvent :=
  frames.foldl (fun held frame => frame.enclose held) held

def Delivery.held (d : Delivery) : List QueuedEvent := encloseAll d.frames d.point.held

end Delivery

/-- Where a call of `flush` stands. The flush that owns the flight is `flown` between the
end of its `runFlush` and its own end. -/
inductive FlushCall where
  | delivering (d : Delivery)
  | flown
  | joined (flightId : Nat) (flushGeneration : Nat)
  | ended
deriving DecidableEq

def FlushCall.held : FlushCall → List QueuedEvent
  | .delivering d => d.held
  | _ => []

def FlushCall.isResolved : FlushCall → Bool
  | .delivering _ => false
  | _ => true

structure Flight where
  generation : Nat
  flushId : Nat

structure InteractionQueue where
  pending : List QueuedEvent := []
  scheduled : Option Nat := none
  inFlight : Option Flight := none
  activeViewer : Option (Option String) := none
  generation : Nat := 0

structure SendCall where
  events : List QueuedEvent
  keepalive : Bool
  generation : Nat

/-- The queue, the calls of `flush` by number, and what happened to the events so far. -/
structure QueueState where
  queue : InteractionQueue := {}
  flushes : List FlushCall := []
  sends : List SendCall := []
  enqueued : List QueuedEvent := []
  accepted : List QueuedEvent := []
  rejected : List QueuedEvent := []
  discarded : List QueuedEvent := []

namespace InteractionQueue

def clearScheduled (q : InteractionQueue) : InteractionQueue := { q with scheduled := none }

def scheduleFlush (delayMs : Nat) (q : InteractionQueue) : InteractionQueue :=
  { q with
    scheduled := if q.scheduled ≠ none ∨ q.pending = [] then q.scheduled else some delayMs }

/-- The end of `runFlush` in the generation of its batch. -/
def giveBack (options : MemeInteractionQueueOptions) (retryEvents : List QueuedEvent)
    (q : InteractionQueue) : InteractionQueue :=
  scheduleFlush (if retryEvents ≠ [] then options.retryDelayMs else 0)
    { q with pending := retryEvents ++ q.pending }

end InteractionQueue

namespace QueueState

open InteractionQueue

variable (options : MemeInteractionQueueOptions)

def setFlush (s : QueueState) (flushId : Nat) (call : FlushCall) : QueueState :=
  { s with flushes := s.flushes.set flushId call }

/-- `send(events, keepalive)` is called. -/
def send (s : QueueState) (events : List QueuedEvent) (keepalive : Bool) : QueueState :=
  { s with sends := s.sends ++ [⟨events, keepalive, s.queue.generation⟩] }

def enqueue (s : QueueState) (input : MemeInteractionInput) (eventId now : String) : QueueState :=
  match boundInteractionEvent (input.toWrite eventId now) options.maxBatchBytes with
  | none =>
    let event : QueuedEvent := ⟨input.toWrite eventId now, s.enqueued.length, s.queue.generation⟩
    { s with enqueued := s.enqueued ++ [event], rejected := s.rejected ++ [event] }
  | some bounded =>
    let event : QueuedEvent := ⟨bounded, s.enqueued.length, s.queue.generation⟩
    let q := { s.queue with pending := s.queue.pending ++ [event] }
    { s with
      enqueued := s.enqueued ++ [event]
      queue := q.scheduleFlush
        (if interactionBatchMaxEvents ≤ q.pending.length then 0 else options.flushDelayMs) }

/-- `runFlush` up to its `await`, in a new call of `flush`. -/
def runFlush (s : QueueState) (keepalive : Bool) : QueueState :=
  let batch := takeInteractionBatch s.queue.pending options.maxBatchBytes
  if batch = [] then s
  else
    send
      { s with
        queue := { s.queue with pending := s.queue.pending.drop batch.length }
        flushes := s.flushes ++
          [.delivering ⟨keepalive, s.queue.generation, [], .sending batch⟩] }
      batch keepalive

def flush (s : QueueState) (keepalive : Bool) : QueueState :=
  let s := { s with queue := s.queue.clearScheduled }
  if keepalive then s.runFlush options true
  else
    match s.queue.inFlight with
    | some flight =>
      if flight.generation = s.queue.generation then
        { s with flushes := s.flushes ++ [.joined flight.flushId s.queue.generation] }
      else ordinary s
    | none => ordinary s
where
  ordinary (s : QueueState) : QueueState :=
    if s.queue.pending = [] then s
    else
      { s.runFlush options false with
        queue := { (s.runFlush options false).queue with
          inFlight := some ⟨s.queue.generation, s.flushes.length⟩ } }

def syncViewer (s : QueueState) (viewerId : Option String) : QueueState :=
  match s.queue.activeViewer with
  | none => { s with queue := { s.queue with activeViewer := some viewerId } }
  | some viewer =>
    if viewer = viewerId then s
    else
      { s with
        discarded := s.discarded ++ s.queue.pending
        queue :=
          { s.queue with
            activeViewer := some viewerId
            generation := s.queue.generation + 1
            scheduled := none
            pending := [] } }

/-- The awaited `send` of the delivery settles. -/
def settleSend (s : QueueState) (flushId : Nat) (d : Delivery) (events : List QueuedEvent) :
    SendOutcome → QueueState
  | .accepted =>
    { s.setFlush flushId (.delivering { d with point := .returned [] }) with
      accepted := s.accepted ++ events }
  | .failed error =>
    if isRetryableInteractionError error then
      s.setFlush flushId (.delivering { d with point := .returned events })
    else if d.keepalive ∨ events.length ≤ 1 then
      { s.setFlush flushId (.delivering { d with point := .returned [] }) with
        rejected := s.rejected ++ events }
    else
      let midpoint := (events.length + 1) / 2
      (s.setFlush flushId (.delivering
        { d with
          frames := .firstHalf (events.drop midpoint) :: d.frames
          point := .sending (events.take midpoint) })).send (events.take midpoint) false

/-- `runFlush` ends with the events that the delivery returned. -/
def endRunFlush (s : QueueState) (flushId : Nat) (d : Delivery) (retryEvents : List QueuedEvent) :
    QueueState :=
  let s := s.setFlush flushId (if d.keepalive then .ended else .flown)
  if s.queue.generation ≠ d.batchGeneration then
    { s with discarded := s.discarded ++ retryEvents }
  else { s with queue := s.queue.giveBack options retryEvents }

/-- The innermost call of `deliverInteractionBatch` has returned; the one around it goes on. -/
def returnDelivery (s : QueueState) (flushId : Nat) (d : Delivery)
    (retryEvents : List QueuedEvent) : QueueState :=
  match d.frames with
  | [] => s.endRunFlush options flushId d retryEvents
  | .firstHalf events :: frames =>
    (s.setFlush flushId (.delivering
      { d with frames := .secondHalf retryEvents :: frames, point := .sending events })).send
      events false
  | .secondHalf retryOfFirst :: frames =>
    s.setFlush flushId (.delivering
      { d with frames := frames, point := .returned (retryOfFirst ++ retryEvents) })

/-- `if (inFlight === flight) inFlight = null`. -/
def endFlight (s : QueueState) (flushId : Nat) : QueueState :=
  { s.setFlush flushId .ended with
    queue :=
      { s.queue with
        inFlight := s.queue.inFlight.filter fun flight => flight.flushId ≠ flushId } }

def endJoined (s : QueueState) (flushId flushGeneration : Nat) : QueueState :=
  { s.setFlush flushId .ended with
    queue := if s.queue.generation = flushGeneration then s.queue.scheduleFlush 0 else s.queue }

end QueueState

/-- `flush` stands for a call from outside (page hide, tests), `timer` for the scheduled
one; `settle` and `resume` are the continuations of flush `flushId`. -/
inductive QueueLabel where
  | enqueue (input : MemeInteractionInput) (eventId now : String)
  | flush (keepalive : Bool)
  | timer
  | syncViewer (viewerId : Option String)
  | settle (flushId : Nat) (outcome : SendOutcome)
  | resume (flushId : Nat)

open QueueState in
def queueStep (options : MemeInteractionQueueOptions) (s : QueueState) :
    QueueLabel → Option QueueState
  | .enqueue input eventId now => some (s.enqueue options input eventId now)
  | .flush keepalive => some (s.flush options keepalive)
  | .timer =>
    if s.queue.scheduled = none then none
    else some (flush options { s with queue := s.queue.clearScheduled } false)
  | .syncViewer viewerId => some (s.syncViewer viewerId)
  | .settle flushId outcome =>
    match s.flushes[flushId]? with
    | some (.delivering d) =>
      match d.point with
      | .sending events => some (s.settleSend flushId d events outcome)
      | .returned _ => none
    | _ => none
  | .resume flushId =>
    match s.flushes[flushId]? with
    | some (.delivering d) =>
      match d.point with
      | .sending _ => none
      | .returned retryEvents => some (s.returnDelivery options flushId d retryEvents)
    | some .flown => some (s.endFlight flushId)
    | some (.joined flightId flushGeneration) =>
      if s.flushes[flightId]?.any FlushCall.isResolved then
        some (s.endJoined flushId flushGeneration)
      else none
    | _ => none

section Batches

theorem sum_le_of_sublist {items more : List Nat} (h : items <+ more) : items.sum ≤ more.sum := by
  induction h with
  | slnil => exact Nat.le_refl _
  | cons item _ ih =>
    rw [List.sum_cons]
    omega
  | cons_cons item _ ih =>
    rw [List.sum_cons, List.sum_cons]
    omega

theorem jsonArrayBytes_mono {items more : List Nat} (h : items <+ more) :
    jsonArrayBytes items ≤ jsonArrayBytes more := by
  have hsum := sum_le_of_sublist h
  have hlength := h.length_le
  unfold jsonArrayBytes
  omega

variable {events : List QueuedEvent}

theorem batchBytes_mono {more : List QueuedEvent} (h : events <+ more) :
    batchBytes events ≤ batchBytes more := by
  have harray := jsonArrayBytes_mono
    ((h.map QueuedEvent.write).map MemeInteractionBatchEventWrite.jsonBytes)
  simp only [batchBytes, interactionBatchByteLength, jsonObjectBytes, List.map_cons, List.map_nil]
  simp only [jsonArrayBytes, List.sum_cons, List.sum_nil, List.length_singleton] at harray ⊢
  omega

structure Fits (maxBatchBytes : Nat) (events : List QueuedEvent) : Prop where
  length_le : events.length ≤ interactionBatchMaxEvents
  bytes_le : events ≠ [] → batchBytes events ≤ maxBatchBytes

variable {maxBatchBytes : Nat}

theorem Fits.sublist {more : List QueuedEvent}
    (hmore : Fits maxBatchBytes more) (h : events <+ more) : Fits maxBatchBytes events where
  length_le := Nat.le_trans h.length_le hmore.length_le
  bytes_le hne := by
    have hmorene : more ≠ [] := by
      rintro rfl
      exact hne (List.sublist_nil.mp h)
    exact Nat.le_trans (batchBytes_mono h) (hmore.bytes_le hmorene)

def FitsAlone (maxBatchBytes : Nat) (event : QueuedEvent) : Prop :=
  batchBytes [event] ≤ maxBatchBytes

theorem fitsAlone_of_bound {event bounded : MemeInteractionBatchEventWrite}
    (h : boundInteractionEvent event maxBatchBytes = some bounded) :
    interactionBatchByteLength [bounded] ≤ maxBatchBytes := by
  unfold boundInteractionEvent at h
  split at h
  · next hfits =>
    cases h
    exact hfits
  split at h
  · next hfits =>
    cases h
    exact hfits.2
  · cases h

theorem extendBatch_prefix (maxBatchBytes : Nat) (batch events : List QueuedEvent) :
    ∃ taken, extendBatch maxBatchBytes batch events = batch ++ taken ∧ taken <+: events := by
  induction events generalizing batch with
  | nil => exact ⟨[], (List.append_nil _).symm, List.prefix_rfl⟩
  | cons event events ih =>
    unfold extendBatch
    split
    · exact ⟨[], (List.append_nil _).symm, List.nil_prefix⟩
    obtain ⟨taken, htaken, hprefix⟩ := ih (batch ++ [event])
    refine ⟨event :: taken, ?_, List.cons_prefix_cons.mpr ⟨rfl, hprefix⟩⟩
    rw [htaken, List.append_assoc, List.singleton_append]

theorem extendBatch_bytes {batch : List QueuedEvent}
    (hbatch : batch ≠ [] → batchBytes batch ≤ maxBatchBytes)
    (halone : ∀ event ∈ events, FitsAlone maxBatchBytes event)
    (hne : extendBatch maxBatchBytes batch events ≠ []) :
    batchBytes (extendBatch maxBatchBytes batch events) ≤ maxBatchBytes := by
  induction events generalizing batch with
  | nil => exact hbatch hne
  | cons event events ih =>
    unfold extendBatch at hne ⊢
    split at hne
    · next hfull =>
      rw [if_pos hfull]
      exact hbatch hfull.1
    next hroom =>
    rw [if_neg hroom]
    refine ih ?_ (fun later hlater => halone later (List.mem_cons_of_mem _ hlater)) hne
    intro _
    by_cases hempty : batch = []
    · rw [hempty]
      exact halone event List.mem_cons_self
    · exact Nat.le_of_not_lt fun hlt => hroom ⟨hempty, hlt⟩

theorem extendBatch_ne_nil (maxBatchBytes : Nat) (event : QueuedEvent)
    (events : List QueuedEvent) : extendBatch maxBatchBytes [] (event :: events) ≠ [] := by
  obtain ⟨taken, htaken, -⟩ := extendBatch_prefix maxBatchBytes ([] ++ [event]) events
  unfold extendBatch
  rw [if_neg fun h => h.1 rfl, htaken]
  simp

theorem takeInteractionBatch_ne_nil (maxBatchBytes : Nat)
    (h : events ≠ []) : takeInteractionBatch events maxBatchBytes ≠ [] := by
  cases events with
  | nil => exact absurd rfl h
  | cons event events =>
    rw [takeInteractionBatch, interactionBatchMaxEvents, List.take_succ_cons]
    exact extendBatch_ne_nil maxBatchBytes event _

theorem takeInteractionBatch_append_drop (events : List QueuedEvent) (maxBatchBytes : Nat) :
    events = takeInteractionBatch events maxBatchBytes ++
      events.drop (takeInteractionBatch events maxBatchBytes).length := by
  obtain ⟨taken, htaken, hprefix⟩ :=
    extendBatch_prefix maxBatchBytes [] (events.take interactionBatchMaxEvents)
  rw [takeInteractionBatch, htaken, List.nil_append]
  obtain ⟨rest, hrest⟩ := hprefix.trans (List.take_prefix _ _)
  rw [← hrest, List.drop_left]

theorem takeInteractionBatch_fits (halone : ∀ event ∈ events, FitsAlone maxBatchBytes event) :
    Fits maxBatchBytes (takeInteractionBatch events maxBatchBytes) where
  length_le := by
    obtain ⟨taken, htaken, hprefix⟩ :=
      extendBatch_prefix maxBatchBytes [] (events.take interactionBatchMaxEvents)
    rw [takeInteractionBatch, htaken, List.nil_append]
    exact Nat.le_trans hprefix.length_le (List.length_take_le _ _)
  bytes_le hne :=
    extendBatch_bytes (fun h => absurd rfl h)
      (fun event hevent => halone event (List.mem_of_mem_take hevent)) hne

variable {frames : List DeliveryFrame} {held more : List QueuedEvent}

theorem enclose_sublist (frame : DeliveryFrame) (h : held <+ more) :
    frame.enclose held <+ frame.enclose more := by
  cases frame with
  | firstHalf later => exact h.append_right later
  | secondHalf retryOfFirst => exact h.append_left retryOfFirst

theorem sublist_enclose (frame : DeliveryFrame) (held : List QueuedEvent) :
    held <+ frame.enclose held := by
  cases frame with
  | firstHalf later => exact List.sublist_append_left _ _
  | secondHalf retryOfFirst => exact List.sublist_append_right _ _

theorem encloseAll_sublist (frames : List DeliveryFrame) (h : held <+ more) :
    encloseAll frames held <+ encloseAll frames more := by
  induction frames generalizing held more with
  | nil => exact h
  | cons frame frames ih => exact ih (enclose_sublist frame h)

theorem sublist_encloseAll (frames : List DeliveryFrame) (held : List QueuedEvent) :
    held <+ encloseAll frames held := by
  induction frames generalizing held with
  | nil => exact List.Sublist.refl _
  | cons frame frames ih => exact (sublist_enclose frame held).trans (ih _)

theorem count_enclose (frame : DeliveryFrame) (event : QueuedEvent) (held : List QueuedEvent) :
    (frame.enclose held).count event = (frame.enclose []).count event + held.count event := by
  cases frame with
  | firstHalf later =>
    simp only [DeliveryFrame.enclose, List.count_append, List.count_nil]
    omega
  | secondHalf retryOfFirst =>
    simp only [DeliveryFrame.enclose, List.count_append, List.count_nil]
    omega

theorem count_encloseAll (frames : List DeliveryFrame) (event : QueuedEvent)
    (held : List QueuedEvent) :
    (encloseAll frames held).count event =
      (encloseAll frames []).count event + held.count event := by
  induction frames generalizing held with
  | nil => simp only [encloseAll, List.foldl_nil, List.count_nil, Nat.zero_add]
  | cons frame frames ih =>
    have hheld := ih (frame.enclose held)
    have hnil := ih (frame.enclose [])
    have hframe := count_enclose frame event held
    simp only [encloseAll, List.foldl_cons] at hheld hnil ⊢
    omega

end Batches

end MemeExpert.Frontend
