import MemeExpert.Frontend.InteractionQueue
import Mathlib.Data.List.Nodup

/-! `QueueMove` lists what a step can do, with everything it has checked; what the modules
after this one say of runs is shown move by move. -/

namespace MemeExpert.Frontend

open scoped List
open Runs InteractionQueue QueueState

abbrev QueueTransition := Transition QueueState QueueLabel

def QueueLabel.isContinuation : QueueLabel → Bool
  | .settle _ _ => true
  | .resume _ => true
  | _ => false

/-- Everything a transition can do to the queue. -/
inductive QueueMove (options : MemeInteractionQueueOptions) (s : QueueState) :
    QueueLabel → QueueState → Prop
  | dropped {input eventId now} (event : QueuedEvent) (href : event.ref = s.enqueued.length)
      (hgeneration : event.viewerGeneration = s.queue.generation) :
      QueueMove options s (.enqueue input eventId now)
        { s with enqueued := s.enqueued ++ [event], rejected := s.rejected ++ [event] }
  | enqueued {input eventId now} (event : QueuedEvent) (delayMs : Nat)
      (href : event.ref = s.enqueued.length)
      (hgeneration : event.viewerGeneration = s.queue.generation)
      (halone : FitsAlone options.maxBatchBytes event) :
      QueueMove options s (.enqueue input eventId now)
        { s with
          enqueued := s.enqueued ++ [event]
          queue := scheduleFlush delayMs { s.queue with pending := s.queue.pending ++ [event] } }
  | nothingToFlush {label} (hlabel : label.isContinuation = false)
      (hpending : s.queue.pending = []) :
      QueueMove options s label { s with queue := s.queue.clearScheduled }
  | started {label} (hlabel : label.isContinuation = false) (keepalive : Bool)
      (flight : Option Flight) (hpending : s.queue.pending ≠ []) :
      QueueMove options s label
        { s with
          queue :=
            { s.queue with
              scheduled := none
              inFlight := flight
              pending := s.queue.pending.drop
                (takeInteractionBatch s.queue.pending options.maxBatchBytes).length }
          flushes := s.flushes ++ [.delivering ⟨keepalive, s.queue.generation, [],
            .sending (takeInteractionBatch s.queue.pending options.maxBatchBytes)⟩]
          sends := s.sends ++
            [⟨takeInteractionBatch s.queue.pending options.maxBatchBytes, keepalive,
              s.queue.generation⟩] }
  | joined {label} (hlabel : label.isContinuation = false) (flightId : Nat) :
      QueueMove options s label
        { s with
          queue := s.queue.clearScheduled
          flushes := s.flushes ++ [.joined flightId s.queue.generation] }
  | sameViewer {viewerId} (viewer : Option (Option String)) :
      QueueMove options s (.syncViewer viewerId) { s with queue := { s.queue with activeViewer := viewer } }
  | switched {viewerId} :
      QueueMove options s (.syncViewer viewerId)
        { s with
          discarded := s.discarded ++ s.queue.pending
          queue :=
            { s.queue with
              activeViewer := some viewerId
              generation := s.queue.generation + 1
              scheduled := none
              pending := [] } }
  | acceptedSend {flushId} (d : Delivery) (events : List QueuedEvent)
      (hcall : s.flushes[flushId]? = some (.delivering d)) (hpoint : d.point = .sending events) :
      QueueMove options s (.settle flushId .accepted)
        { s.setFlush flushId (.delivering { d with point := .returned [] }) with
          accepted := s.accepted ++ events }
  | retriedSend {flushId error} (d : Delivery) (events : List QueuedEvent)
      (hcall : s.flushes[flushId]? = some (.delivering d)) (hpoint : d.point = .sending events)
      (herror : isRetryableInteractionError error = true) :
      QueueMove options s (.settle flushId (.failed error))
        (s.setFlush flushId (.delivering { d with point := .returned events }))
  | rejectedSend {flushId error} (d : Delivery) (events : List QueuedEvent)
      (hcall : s.flushes[flushId]? = some (.delivering d)) (hpoint : d.point = .sending events)
      (hlast : d.keepalive = true ∨ events.length ≤ 1) :
      QueueMove options s (.settle flushId (.failed error))
        { s.setFlush flushId (.delivering { d with point := .returned [] }) with
          rejected := s.rejected ++ events }
  | splitSend {flushId error} (d : Delivery) (events : List QueuedEvent)
      (hcall : s.flushes[flushId]? = some (.delivering d)) (hpoint : d.point = .sending events)
      (herror : isRetryableInteractionError error = false) (hkeepalive : d.keepalive = false)
      (hlength : 1 < events.length) :
      QueueMove options s (.settle flushId (.failed error))
        ((s.setFlush flushId (.delivering
          { d with
            frames := .firstHalf (events.drop ((events.length + 1) / 2)) :: d.frames
            point := .sending (events.take ((events.length + 1) / 2)) })).send
          (events.take ((events.length + 1) / 2)) false)
  | nextHalf {flushId} (d : Delivery) (retryEvents later : List QueuedEvent)
      (frames : List DeliveryFrame) (hcall : s.flushes[flushId]? = some (.delivering d))
      (hpoint : d.point = .returned retryEvents) (hframes : d.frames = .firstHalf later :: frames) :
      QueueMove options s (.resume flushId)
        ((s.setFlush flushId (.delivering
          { d with frames := .secondHalf retryEvents :: frames, point := .sending later })).send
          later false)
  | joinedHalves {flushId} (d : Delivery) (retryEvents retryOfFirst : List QueuedEvent)
      (frames : List DeliveryFrame) (hcall : s.flushes[flushId]? = some (.delivering d))
      (hpoint : d.point = .returned retryEvents)
      (hframes : d.frames = .secondHalf retryOfFirst :: frames) :
      QueueMove options s (.resume flushId)
        (s.setFlush flushId (.delivering
          { d with frames := frames, point := .returned (retryOfFirst ++ retryEvents) }))
  | outdated {flushId} (d : Delivery) (retryEvents : List QueuedEvent) (call : FlushCall)
      (hcall : s.flushes[flushId]? = some (.delivering d))
      (hpoint : d.point = .returned retryEvents) (hframes : d.frames = [])
      (hgeneration : s.queue.generation ≠ d.batchGeneration) (hended : call = .ended ∨ call = .flown) :
      QueueMove options s (.resume flushId)
        { s.setFlush flushId call with discarded := s.discarded ++ retryEvents }
  | gaveBack {flushId} (d : Delivery) (retryEvents : List QueuedEvent) (call : FlushCall)
      (hcall : s.flushes[flushId]? = some (.delivering d))
      (hpoint : d.point = .returned retryEvents) (hframes : d.frames = [])
      (hgeneration : s.queue.generation = d.batchGeneration) (hended : call = .ended ∨ call = .flown) :
      QueueMove options s (.resume flushId)
        { s.setFlush flushId call with queue := s.queue.giveBack options retryEvents }
  | flightEnded {flushId} (flight : Option Flight) (hcall : s.flushes[flushId]? = some .flown) :
      QueueMove options s (.resume flushId)
        { s.setFlush flushId .ended with queue := { s.queue with inFlight := flight } }
  | joinedEnded {flushId} (flightId flushGeneration : Nat)
      (hcall : s.flushes[flushId]? = some (.joined flightId flushGeneration)) :
      QueueMove options s (.resume flushId)
        { s.setFlush flushId .ended with
          queue :=
            if s.queue.generation = flushGeneration then s.queue.scheduleFlush 0 else s.queue }

section Moves

variable {options : MemeInteractionQueueOptions} {s t : QueueState} {label : QueueLabel}

theorem queueMove_enqueue (input : MemeInteractionInput) (eventId now : String) :
    QueueMove options s (.enqueue input eventId now) (s.enqueue options input eventId now) := by
  unfold QueueState.enqueue
  split
  · exact .dropped ⟨_, _, _⟩ rfl rfl
  · next bounded hbound => exact .enqueued ⟨_, _, _⟩ _ rfl rfl (fitsAlone_of_bound hbound)

theorem runFlush_of_pending (hpending : s.queue.pending ≠ []) (keepalive : Bool) :
    s.runFlush options keepalive =
      QueueState.send
        { s with
          queue :=
            { s.queue with
              pending := s.queue.pending.drop
                (takeInteractionBatch s.queue.pending options.maxBatchBytes).length }
          flushes := s.flushes ++ [.delivering ⟨keepalive, s.queue.generation, [],
            .sending (takeInteractionBatch s.queue.pending options.maxBatchBytes)⟩] }
        (takeInteractionBatch s.queue.pending options.maxBatchBytes) keepalive := by
  unfold QueueState.runFlush
  exact if_neg (takeInteractionBatch_ne_nil _ hpending)

theorem runFlush_of_pending_nil (hpending : s.queue.pending = []) (keepalive : Bool) :
    s.runFlush options keepalive = s := by
  unfold QueueState.runFlush
  rw [hpending]
  exact if_pos rfl

theorem queueMove_ordinary (hlabel : label.isContinuation = false) :
    QueueMove options s label
      (QueueState.flush.ordinary options { s with queue := s.queue.clearScheduled }) := by
  unfold QueueState.flush.ordinary
  split
  · next hpending => exact .nothingToFlush hlabel hpending
  next hpending =>
  rw [runFlush_of_pending (by exact hpending)]
  exact .started hlabel false _ hpending

theorem queueMove_flush (hlabel : label.isContinuation = false) (keepalive : Bool) :
    QueueMove options s label (s.flush options keepalive) := by
  unfold QueueState.flush
  cases keepalive with
  | true =>
    by_cases hpending : s.queue.pending = []
    · rw [if_pos rfl, runFlush_of_pending_nil (by exact hpending)]
      exact .nothingToFlush hlabel hpending
    · rw [if_pos rfl, runFlush_of_pending (by exact hpending)]
      exact .started hlabel true s.queue.inFlight hpending
  | false =>
    rw [if_neg (by decide)]
    dsimp only
    split
    · next flight _ =>
      split
      · exact .joined hlabel flight.flushId
      · exact queueMove_ordinary hlabel
    · exact queueMove_ordinary hlabel

theorem queueMove_syncViewer (viewerId : Option String) :
    QueueMove options s (.syncViewer viewerId) (s.syncViewer viewerId) := by
  unfold QueueState.syncViewer
  split
  · exact .sameViewer _
  next viewer _ =>
  split
  · exact .sameViewer s.queue.activeViewer
  · exact .switched

theorem queueMove_settle {flushId : Nat} {d : Delivery} {events : List QueuedEvent}
    (hcall : s.flushes[flushId]? = some (.delivering d)) (hpoint : d.point = .sending events)
    (outcome : SendOutcome) :
    QueueMove options s (.settle flushId outcome) (s.settleSend flushId d events outcome) := by
  cases outcome with
  | accepted => exact .acceptedSend d events hcall hpoint
  | failed error =>
    simp only [QueueState.settleSend]
    split
    · next hretry => exact .retriedSend d events hcall hpoint hretry
    next hpermanent =>
    split
    · next hlast => exact .rejectedSend d events hcall hpoint hlast
    next hsplit =>
    obtain ⟨hkeepalive, hlength⟩ := not_or.mp hsplit
    exact .splitSend d events hcall hpoint (Bool.eq_false_iff.mpr hpermanent)
      (Bool.eq_false_iff.mpr hkeepalive) (Nat.lt_of_not_le hlength)

theorem queueMove_return {flushId : Nat} {d : Delivery} {retryEvents : List QueuedEvent}
    (hcall : s.flushes[flushId]? = some (.delivering d))
    (hpoint : d.point = .returned retryEvents) :
    QueueMove options s (.resume flushId) (s.returnDelivery options flushId d retryEvents) := by
  unfold QueueState.returnDelivery
  split
  · next hframes =>
    have hended : (if d.keepalive = true then FlushCall.ended else .flown) = .ended ∨
        (if d.keepalive = true then FlushCall.ended else .flown) = .flown := by
      split
      · exact .inl rfl
      · exact .inr rfl
    unfold QueueState.endRunFlush
    by_cases hgeneration : s.queue.generation = d.batchGeneration
    · rw [if_neg]
      · exact .gaveBack d retryEvents _ hcall hpoint hframes hgeneration hended
      · exact not_not.mpr hgeneration
    · rw [if_pos]
      · exact .outdated d retryEvents _ hcall hpoint hframes hgeneration hended
      · exact hgeneration
  · next hframes => exact .nextHalf d retryEvents _ _ hcall hpoint hframes
  · next hframes => exact .joinedHalves d retryEvents _ _ hcall hpoint hframes

theorem queueMove_of_step (hstep : queueStep options s label = some t) :
    QueueMove options s label t := by
  cases label with
  | enqueue input eventId now =>
    obtain rfl := Option.some.inj hstep
    exact queueMove_enqueue input eventId now
  | flush keepalive =>
    obtain rfl := Option.some.inj hstep
    exact queueMove_flush rfl keepalive
  | timer =>
    obtain ⟨-, hflush⟩ := Option.ite_none_left_eq_some.mp hstep
    obtain rfl := Option.some.inj hflush
    exact queueMove_flush (s := s) rfl false
  | syncViewer viewerId =>
    obtain rfl := Option.some.inj hstep
    exact queueMove_syncViewer viewerId
  | settle flushId outcome =>
    simp only [queueStep] at hstep
    split at hstep
    · next d hcall =>
      split at hstep
      · next events hpoint =>
        obtain rfl := Option.some.inj hstep
        exact queueMove_settle hcall hpoint outcome
      · cases hstep
    · cases hstep
  | resume flushId =>
    simp only [queueStep] at hstep
    split at hstep
    · next d hcall =>
      split at hstep
      · cases hstep
      next retryEvents hpoint =>
      obtain rfl := Option.some.inj hstep
      exact queueMove_return hcall hpoint
    · next hcall =>
      obtain rfl := Option.some.inj hstep
      exact .flightEnded _ hcall
    · next flightId flushGeneration hcall =>
      obtain ⟨-, hend⟩ := Option.ite_none_right_eq_some.mp hstep
      obtain rfl := Option.some.inj hend
      exact .joinedEnded flightId flushGeneration hcall
    · cases hstep

variable {flushes : List FlushCall} {flushId : Nat} {old new : FlushCall} {d : Delivery}
  {events later retryEvents retryOfFirst : List QueuedEvent} {frames : List DeliveryFrame}

theorem held_of_sending (hpoint : d.point = .sending events) :
    d.held = encloseAll d.frames events := by
  rw [Delivery.held, hpoint]
  rfl

theorem held_of_returned (hpoint : d.point = .returned retryEvents) :
    d.held = encloseAll d.frames retryEvents := by
  rw [Delivery.held, hpoint]
  rfl

theorem held_split (hpoint : d.point = .sending events) (midpoint : Nat) :
    Delivery.held
      { d with
        frames := .firstHalf (events.drop midpoint) :: d.frames
        point := .sending (events.take midpoint) } = d.held := by
  rw [held_of_sending hpoint]
  exact congrArg (encloseAll d.frames) (List.take_append_drop midpoint events)

theorem held_nextHalf (hpoint : d.point = .returned retryEvents)
    (hframes : d.frames = .firstHalf later :: frames) :
    Delivery.held
      { d with frames := .secondHalf retryEvents :: frames, point := .sending later } =
      d.held := by
  rw [held_of_returned hpoint, hframes]
  rfl

theorem held_joinedHalves (hpoint : d.point = .returned retryEvents)
    (hframes : d.frames = .secondHalf retryOfFirst :: frames) :
    Delivery.held
      { d with frames := frames, point := .returned (retryOfFirst ++ retryEvents) } =
      d.held := by
  rw [held_of_returned hpoint, hframes]
  rfl

section Sending

variable (hpoint : d.point = .sending events)

include hpoint

theorem held_settled_sublist : Delivery.held { d with point := .returned [] } <+ d.held := by
  rw [held_of_sending hpoint]
  exact encloseAll_sublist d.frames (List.nil_sublist events)

theorem held_retried : Delivery.held { d with point := .returned events } = d.held := by
  rw [held_of_sending hpoint]
  rfl

theorem count_held_settled (event : QueuedEvent) :
    d.held.count event =
      (Delivery.held { d with point := .returned [] }).count event + events.count event := by
  rw [held_of_sending hpoint]
  exact count_encloseAll d.frames event events

theorem sending_sublist_held : events <+ d.held := by
  rw [held_of_sending hpoint]
  exact sublist_encloseAll d.frames events

end Sending

theorem held_of_no_frames (hpoint : d.point = .returned retryEvents) (hframes : d.frames = []) :
    d.held = retryEvents := by
  rw [held_of_returned hpoint, hframes]
  rfl

theorem held_of_ended {call : FlushCall} (hended : call = .ended ∨ call = .flown) :
    call.held = [] := by
  obtain rfl | rfl := hended
  · rfl
  · rfl

theorem lt_of_getElem?_eq_some {flushes : List FlushCall} {flushId : Nat} {call : FlushCall}
    (hcall : flushes[flushId]? = some call) : flushId < flushes.length :=
  (List.getElem?_eq_some_iff.mp hcall).1

theorem mem_set_of_ne {flushes : List FlushCall} {flushId : Nat} {old call : FlushCall}
    (hold : flushes[flushId]? = some old) (hcall : call ∈ flushes) (hne : call ≠ old)
    (new : FlushCall) : call ∈ flushes.set flushId new := by
  obtain ⟨otherId, hother⟩ := List.mem_iff_getElem?.mp hcall
  refine List.mem_iff_getElem?.mpr ⟨otherId, ?_⟩
  rw [List.getElem?_set_ne, hother]
  rintro rfl
  exact hne (Option.some.inj (hother.symm.trans hold))

theorem delivering_mem_set {flushes : List FlushCall} {flushId : Nat} {new : FlushCall}
    {d : Delivery} (hd : .delivering d ∈ flushes.set flushId new) :
    new = .delivering d ∨ .delivering d ∈ flushes :=
  (List.mem_or_eq_of_mem_set hd).symm.imp_left Eq.symm

/-- The delivery holds no more than one that was under way, or a batch just taken. -/
def FromDelivery (options : MemeInteractionQueueOptions) (s : QueueState) (d : Delivery) : Prop :=
  (∃ old, .delivering old ∈ s.flushes ∧ d.held <+ old.held ∧
    d.batchGeneration = old.batchGeneration) ∨
  d.held = takeInteractionBatch s.queue.pending options.maxBatchBytes ∧
    d.batchGeneration = s.queue.generation

theorem fromDelivery_self (hd : .delivering d ∈ s.flushes) : FromDelivery options s d :=
  .inl ⟨d, hd, List.Sublist.refl _, rfl⟩

theorem fromDelivery_set {flushId : Nat} {old new : Delivery}
    (hold : s.flushes[flushId]? = some (.delivering old)) (hheld : new.held <+ old.held)
    (hgeneration : new.batchGeneration = old.batchGeneration)
    (hd : .delivering d ∈ s.flushes.set flushId (.delivering new)) :
    FromDelivery options s d := by
  obtain hd | hd := delivering_mem_set hd
  · cases hd
    exact .inl ⟨old, List.mem_of_getElem? hold, hheld, hgeneration⟩
  · exact fromDelivery_self hd

theorem fromDelivery_set_of_eq {flushId : Nat} {old new : Delivery}
    (hold : s.flushes[flushId]? = some (.delivering old)) (hheld : new.held = old.held)
    (hgeneration : new.batchGeneration = old.batchGeneration)
    (hd : .delivering d ∈ s.flushes.set flushId (.delivering new)) :
    FromDelivery options s d :=
  fromDelivery_set hold (hheld ▸ List.Sublist.refl _) hgeneration hd

theorem fromDelivery_set_of_ended {flushId : Nat} {new : FlushCall}
    (hended : new = .ended ∨ new = .flown) (hd : .delivering d ∈ s.flushes.set flushId new) :
    FromDelivery options s d := by
  obtain hd | hd := delivering_mem_set hd
  · rw [hd] at hended
    obtain hended | hended := hended
    · cases hended
    · cases hended
  · exact fromDelivery_self hd

theorem delivery_of_move (hmove : QueueMove options s label t)
    (hd : .delivering d ∈ t.flushes) : FromDelivery options s d := by
  cases hmove with
  | started _ keepalive _ _ =>
    obtain hd | hd := List.mem_append.mp hd
    · exact fromDelivery_self hd
    · cases List.mem_singleton.mp hd
      exact .inr ⟨rfl, rfl⟩
  | joined _ flightId =>
    obtain hd | hd := List.mem_append.mp hd
    · exact fromDelivery_self hd
    · cases List.mem_singleton.mp hd
  | acceptedSend old events hcall hpoint =>
    exact fromDelivery_set hcall (held_settled_sublist hpoint) rfl hd
  | retriedSend old events hcall hpoint _ =>
    exact fromDelivery_set_of_eq hcall (held_retried hpoint) rfl hd
  | rejectedSend old events hcall hpoint _ =>
    exact fromDelivery_set hcall (held_settled_sublist hpoint) rfl hd
  | splitSend old events hcall hpoint _ _ _ =>
    exact fromDelivery_set_of_eq hcall (held_split hpoint _) rfl hd
  | nextHalf old retryEvents later frames hcall hpoint hframes =>
    exact fromDelivery_set_of_eq hcall (held_nextHalf hpoint hframes) rfl hd
  | joinedHalves old retryEvents retryOfFirst frames hcall hpoint hframes =>
    exact fromDelivery_set_of_eq hcall (held_joinedHalves hpoint hframes) rfl hd
  | outdated _ _ _ _ _ _ _ hended => exact fromDelivery_set_of_ended hended hd
  | gaveBack _ _ _ _ _ _ _ hended => exact fromDelivery_set_of_ended hended hd
  | flightEnded _ _ => exact fromDelivery_set_of_ended (.inl rfl) hd
  | joinedEnded _ _ _ => exact fromDelivery_set_of_ended (.inl rfl) hd
  | _ => exact fromDelivery_self hd

end Moves

end MemeExpert.Frontend
