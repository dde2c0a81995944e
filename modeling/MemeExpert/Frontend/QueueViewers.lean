import MemeExpert.Frontend.QueueMoves

/-! A switch of the viewer empties the queue and starts a new generation. -/

namespace MemeExpert.Frontend

open scoped List
open Runs InteractionQueue QueueState

structure ViewerSound (s : QueueState) : Prop where
  pending : ∀ event ∈ s.queue.pending, event.viewerGeneration = s.queue.generation
  batches : ∀ d, .delivering d ∈ s.flushes →
    d.batchGeneration ≤ s.queue.generation ∧
      ∀ event ∈ d.held, event.viewerGeneration = d.batchGeneration
  discarded : ∀ event ∈ s.discarded, event.viewerGeneration < s.queue.generation

structure Delivery.SendsEvents (d : Delivery) : Prop where
  sending : ∀ events, d.point = .sending events → events ≠ []
  later : ∀ events, .firstHalf events ∈ d.frames → events ≠ []

def SendsEvents (s : QueueState) : Prop := ∀ d, .delivering d ∈ s.flushes → d.SendsEvents

section Step

variable {options : MemeInteractionQueueOptions} {s t : QueueState} {label : QueueLabel}

theorem generation_of_move (hmove : QueueMove options s label t) :
    s.queue.generation ≤ t.queue.generation := by
  cases hmove with
  | switched => exact Nat.le_succ _
  | joinedEnded _ flushGeneration _ =>
    simp only [apply_ite InteractionQueue.generation, scheduleFlush, ite_self]
    exact Nat.le_refl _
  | _ => exact Nat.le_refl _

variable {d : Delivery} {flushId : Nat}

theorem viewer_of_held (hs : ViewerSound s)
    (hcall : s.flushes[flushId]? = some (.delivering d)) {event : QueuedEvent}
    (hevent : event ∈ d.held) : event.viewerGeneration = d.batchGeneration :=
  (hs.batches d (List.mem_of_getElem? hcall)).2 event hevent

section Moved

variable (hs : ViewerSound s) (hmove : QueueMove options s label t)

include hs hmove

theorem pending_viewer_of_move :
    ∀ event ∈ t.queue.pending, event.viewerGeneration = t.queue.generation := by
  cases hmove with
  | enqueued new _ _ hgeneration _ =>
    intro event hevent
    obtain hevent | hevent := List.mem_append.mp hevent
    · exact hs.pending event hevent
    · rw [List.mem_singleton.mp hevent]
      exact hgeneration
  | started _ _ _ _ =>
    intro event hevent
    exact hs.pending event (List.mem_of_mem_drop hevent)
  | switched =>
    intro event hevent
    cases hevent
  | gaveBack d retryEvents call hcall hpoint hframes hgeneration _ =>
    intro event hevent
    obtain hevent | hevent := List.mem_append.mp hevent
    · rw [← held_of_no_frames hpoint hframes] at hevent
      exact (viewer_of_held hs hcall hevent).trans hgeneration.symm
    · exact hs.pending event hevent
  | joinedEnded flightId flushGeneration _ =>
    simp only [apply_ite InteractionQueue.pending, apply_ite InteractionQueue.generation,
      scheduleFlush, ite_self]
    exact hs.pending
  | _ => exact hs.pending

theorem batches_viewer_of_move (d : Delivery) (hd : .delivering d ∈ t.flushes) :
    d.batchGeneration ≤ t.queue.generation ∧
      ∀ event ∈ d.held, event.viewerGeneration = d.batchGeneration := by
  have hlater := generation_of_move hmove
  obtain ⟨old, hold, hheld, hgeneration⟩ | ⟨hheld, hgeneration⟩ := delivery_of_move hmove hd
  · rw [hgeneration]
    refine ⟨Nat.le_trans (hs.batches old hold).1 hlater, ?_⟩
    intro event hevent
    exact (hs.batches old hold).2 event (hheld.subset hevent)
  rw [hgeneration]
  refine ⟨hlater, ?_⟩
  intro event hevent
  rw [hheld] at hevent
  apply hs.pending
  rw [takeInteractionBatch_append_drop s.queue.pending options.maxBatchBytes]
  exact List.mem_append_left _ hevent

theorem discarded_viewer_of_move :
    ∀ event ∈ t.discarded, event.viewerGeneration < t.queue.generation := by
  cases hmove with
  | switched =>
    intro event hevent
    obtain hevent | hevent := List.mem_append.mp hevent
    · exact Nat.lt_succ_of_lt (hs.discarded event hevent)
    · rw [hs.pending event hevent]
      exact Nat.lt_succ_self _
  | outdated d retryEvents call hcall hpoint hframes hgeneration _ =>
    intro event hevent
    obtain hevent | hevent := List.mem_append.mp hevent
    · exact hs.discarded event hevent
    rw [← held_of_no_frames hpoint hframes] at hevent
    rw [viewer_of_held hs hcall hevent]
    exact Nat.lt_of_le_of_ne (hs.batches d (List.mem_of_getElem? hcall)).1 hgeneration.symm
  | joinedEnded flightId flushGeneration _ =>
    simp only [apply_ite InteractionQueue.generation, scheduleFlush, ite_self]
    exact hs.discarded
  | _ => exact hs.discarded

end Moved

theorem ViewerSound.step (hs : ViewerSound s) (hstep : queueStep options s label = some t) :
    ViewerSound t where
  pending := pending_viewer_of_move hs (queueMove_of_step hstep)
  batches := batches_viewer_of_move hs (queueMove_of_step hstep)
  discarded := discarded_viewer_of_move hs (queueMove_of_step hstep)

theorem sendsEvents_set {new : FlushCall} (hs : SendsEvents s)
    (hnew : ∀ d, new = .delivering d → d.SendsEvents) :
    ∀ d, .delivering d ∈ s.flushes.set flushId new → d.SendsEvents := by
  intro d hd
  obtain hd | hd := delivering_mem_set hd
  · exact hnew d hd
  · exact hs d hd

theorem sendsEvents_returned (hd : d.SendsEvents) (retryEvents : List QueuedEvent)
    {frames : List DeliveryFrame} (hframes : frames ⊆ d.frames) :
    Delivery.SendsEvents { d with frames := frames, point := .returned retryEvents } where
  sending events hpoint := by cases hpoint
  later events hevents := hd.later events (hframes hevents)

theorem halves_ne_nil {events : List QueuedEvent} (hlength : 1 < events.length) :
    events.take ((events.length + 1) / 2) ≠ [] ∧ events.drop ((events.length + 1) / 2) ≠ [] := by
  constructor
  · apply List.ne_nil_of_length_pos
    rw [List.length_take]
    omega
  · apply List.ne_nil_of_length_pos
    rw [List.length_drop]
    omega

theorem SendsEvents.of_move (hs : SendsEvents s) (hmove : QueueMove options s label t) :
    SendsEvents t := by
  cases hmove with
  | started _ keepalive _ hpending =>
    intro d hd
    obtain hd | hd := List.mem_append.mp hd
    · exact hs d hd
    cases List.mem_singleton.mp hd
    refine ⟨?_, fun events hevents => absurd hevents List.not_mem_nil⟩
    rintro events ⟨⟩
    exact takeInteractionBatch_ne_nil _ hpending
  | joined _ flightId =>
    intro d hd
    obtain hd | hd := List.mem_append.mp hd
    · exact hs d hd
    · cases List.mem_singleton.mp hd
  | acceptedSend d events hcall _ | rejectedSend d events hcall _ _ =>
    refine sendsEvents_set hs ?_
    rintro _ ⟨⟩
    exact sendsEvents_returned (hs d (List.mem_of_getElem? hcall)) _ (List.Subset.refl _)
  | retriedSend d events hcall _ _ =>
    refine sendsEvents_set hs ?_
    rintro _ ⟨⟩
    exact sendsEvents_returned (hs d (List.mem_of_getElem? hcall)) _ (List.Subset.refl _)
  | splitSend d events hcall _ _ _ hlength =>
    obtain ⟨hfirst, hsecond⟩ := halves_ne_nil hlength
    refine sendsEvents_set hs ?_
    rintro _ ⟨⟩
    constructor
    · rintro _ ⟨⟩
      exact hfirst
    intro later hlater
    obtain hlater | hlater := List.mem_cons.mp hlater
    · cases hlater
      exact hsecond
    · exact (hs d (List.mem_of_getElem? hcall)).later later hlater
  | nextHalf d retryEvents later frames hcall hpoint hframes =>
    have hold := (hs d (List.mem_of_getElem? hcall)).later
    rw [hframes] at hold
    refine sendsEvents_set hs ?_
    rintro _ ⟨⟩
    constructor
    · rintro _ ⟨⟩
      exact hold later List.mem_cons_self
    intro events hevents
    obtain hevents | hevents := List.mem_cons.mp hevents
    · cases hevents
    · exact hold events (List.mem_cons_of_mem _ hevents)
  | joinedHalves d retryEvents retryOfFirst frames hcall hpoint hframes =>
    refine sendsEvents_set hs ?_
    rintro _ ⟨⟩
    apply sendsEvents_returned (hs d (List.mem_of_getElem? hcall))
    rw [hframes]
    exact List.subset_cons_self _ _
  | outdated _ _ call _ _ _ _ hended | gaveBack _ _ call _ _ _ _ hended =>
    refine sendsEvents_set hs ?_
    rintro d rfl
    obtain hended | hended := hended
    · cases hended
    · cases hended
  | flightEnded _ _ =>
    refine sendsEvents_set hs ?_
    rintro d ⟨⟩
  | joinedEnded _ _ _ =>
    refine sendsEvents_set hs ?_
    rintro d ⟨⟩
  | _ => exact hs

def SendCall.OfViewer (send : SendCall) : Prop :=
  ∀ event ∈ send.events, event.viewerGeneration = send.generation

def Delivery.SplitsOn (d : Delivery) (error : SendError) : Prop :=
  isRetryableInteractionError error = false ∧ d.keepalive = false ∧
    ∃ events, d.point = .sending events ∧ 1 < events.length

def Delivery.ComesToSecondHalf (d : Delivery) : Prop :=
  ∃ retryEvents later frames, d.point = .returned retryEvents ∧
    d.frames = .firstHalf later :: frames

def FencedSend (x : QueueTransition) : Prop :=
  match x.label with
  | .settle flushId (.failed error) => ∀ d, x.before.flushes[flushId]? = some (.delivering d) →
      d.SplitsOn error → d.batchGeneration = x.before.queue.generation
  | .resume flushId => ∀ d, x.before.flushes[flushId]? = some (.delivering d) →
      d.ComesToSecondHalf → d.batchGeneration = x.before.queue.generation
  | _ => True

theorem fencedSend_of_not_continuation (hlabel : label.isContinuation = false) :
    FencedSend ⟨s, label, t⟩ := by
  cases label with
  | settle _ _ => cases hlabel
  | resume _ => cases hlabel
  | _ => trivial

variable {d : Delivery} {flushId : Nat}

theorem ofViewer_iff (hs : ViewerSound s)
    (hcall : s.flushes[flushId]? = some (.delivering d)) {events : List QueuedEvent}
    (hevents : events <+ d.held) (hne : events ≠ []) (keepalive : Bool) :
    SendCall.OfViewer ⟨events, keepalive, s.queue.generation⟩ ↔
      d.batchGeneration = s.queue.generation := by
  constructor
  · intro h
    obtain ⟨event, hevent⟩ := List.exists_mem_of_ne_nil events hne
    have hviewer := viewer_of_held hs hcall (hevents.subset hevent)
    exact hviewer.symm.trans (h event hevent)
  · intro h event hevent
    exact (viewer_of_held hs hcall (hevents.subset hevent)).trans h

theorem delivering_inj {other : Delivery}
    (hcall : s.flushes[flushId]? = some (.delivering d))
    (hother : s.flushes[flushId]? = some (.delivering other)) : other = d := by
  rw [hcall] at hother
  cases hother
  rfl

theorem fencedSend_of_not_splitsOn {error : SendError}
    (hcall : s.flushes[flushId]? = some (.delivering d)) (h : ¬ d.SplitsOn error) :
    FencedSend ⟨s, .settle flushId (.failed error), t⟩ := by
  intro other hother hsplits
  rw [delivering_inj hcall hother] at hsplits
  exact absurd hsplits h

theorem fencedSend_of_not_secondHalf
    (hcall : s.flushes[flushId]? = some (.delivering d)) (h : ¬ d.ComesToSecondHalf) :
    FencedSend ⟨s, .resume flushId, t⟩ := by
  intro other hother hcomes
  rw [delivering_inj hcall hother] at hcomes
  exact absurd hcomes h

theorem fencedSend_of_not_delivering (h : ∀ d, s.flushes[flushId]? ≠ some (.delivering d)) :
    FencedSend ⟨s, .resume flushId, t⟩ :=
  fun other hother => absurd hother (h other)

theorem not_secondHalf_of_frames
    (h : ∀ later frames, d.frames ≠ .firstHalf later :: frames) : ¬ d.ComesToSecondHalf := by
  rintro ⟨_, later, frames, -, hframes⟩
  exact h later frames hframes

theorem sends_ofViewer_iff (hviewers : ViewerSound s) (hsends : SendsEvents s)
    (hmove : QueueMove options s label t) :
    ∃ new, t.sends = s.sends ++ new ∧
      ((∀ send ∈ new, send.OfViewer) ↔ FencedSend ⟨s, label, t⟩) := by
  have hquiet : ∀ x, FencedSend x → ((∀ send ∈ ([] : List SendCall), send.OfViewer) ↔
      FencedSend x) := fun x hx => ⟨fun _ => hx, fun _ send hsend => absurd hsend List.not_mem_nil⟩
  cases hmove with
  | started hlabel keepalive _ _ =>
    refine ⟨_, rfl, ?_⟩
    refine ⟨fun _ => fencedSend_of_not_continuation hlabel, ?_⟩
    intro _ send hsend event hevent
    rw [List.mem_singleton.mp hsend] at hevent ⊢
    apply hviewers.pending
    rw [takeInteractionBatch_append_drop s.queue.pending options.maxBatchBytes]
    exact List.mem_append_left _ hevent
  | nothingToFlush hlabel _ =>
    exact ⟨[], (List.append_nil _).symm, hquiet _ (fencedSend_of_not_continuation hlabel)⟩
  | joined hlabel _ =>
    exact ⟨[], (List.append_nil _).symm, hquiet _ (fencedSend_of_not_continuation hlabel)⟩
  | retriedSend d events hcall hpoint herror =>
    refine ⟨[], (List.append_nil _).symm, hquiet _ (fencedSend_of_not_splitsOn hcall ?_)⟩
    rintro ⟨hpermanent, -⟩
    rw [herror] at hpermanent
    cases hpermanent
  | rejectedSend d events hcall hpoint hlast =>
    refine ⟨[], (List.append_nil _).symm, hquiet _ (fencedSend_of_not_splitsOn hcall ?_)⟩
    rintro ⟨-, hkeepalive, found, hfound, hlength⟩
    rw [hpoint] at hfound
    cases hfound
    obtain hlast | hlast := hlast
    · rw [hkeepalive] at hlast
      cases hlast
    · omega
  | splitSend d events hcall hpoint herror hkeepalive hlength =>
    have hpart : events.take ((events.length + 1) / 2) <+ d.held :=
      (List.take_sublist _ _).trans (sending_sublist_held hpoint)
    have hiff := ofViewer_iff hviewers hcall hpart (halves_ne_nil hlength).1 false
    refine ⟨_, rfl, ?_⟩
    rw [List.forall_mem_singleton]
    refine hiff.trans ?_
    constructor
    · intro h other hother _
      rw [delivering_inj hcall hother]
      exact h
    · intro h
      exact h d hcall ⟨herror, hkeepalive, events, hpoint, hlength⟩
  | nextHalf d retryEvents later frames hcall hpoint hframes =>
    have hmem : .firstHalf later ∈ d.frames := by
      rw [hframes]
      exact List.mem_cons_self
    have hpart : later <+ d.held := by
      rw [← held_nextHalf hpoint hframes]
      exact sending_sublist_held rfl
    have hiff := ofViewer_iff hviewers hcall hpart
      ((hsends d (List.mem_of_getElem? hcall)).later later hmem) false
    refine ⟨_, rfl, ?_⟩
    rw [List.forall_mem_singleton]
    refine hiff.trans ?_
    constructor
    · intro h other hother _
      rw [delivering_inj hcall hother]
      exact h
    · intro h
      exact h d hcall ⟨retryEvents, later, frames, hpoint, hframes⟩
  | joinedHalves d _ _ _ hcall _ hframes =>
    refine ⟨[], (List.append_nil _).symm, hquiet _ (fencedSend_of_not_secondHalf hcall ?_)⟩
    apply not_secondHalf_of_frames
    intro later frames heq
    rw [hframes] at heq
    cases heq
  | outdated d _ _ hcall _ hframes _ _ | gaveBack d _ _ hcall _ hframes _ _ =>
    refine ⟨[], (List.append_nil _).symm, hquiet _ (fencedSend_of_not_secondHalf hcall ?_)⟩
    apply not_secondHalf_of_frames
    intro later frames heq
    rw [hframes] at heq
    cases heq
  | flightEnded _ hcall | joinedEnded _ _ hcall =>
    refine ⟨[], (List.append_nil _).symm, hquiet _ (fencedSend_of_not_delivering ?_)⟩
    intro d hd
    rw [hcall] at hd
    cases hd
  | _ => exact ⟨[], (List.append_nil _).symm, hquiet _ trivial⟩

theorem viewerSound_initial : ViewerSound {} where
  pending _ hevent := absurd hevent List.not_mem_nil
  batches _ hd := absurd hd List.not_mem_nil
  discarded _ hevent := absurd hevent List.not_mem_nil

theorem sendsEvents_initial : SendsEvents {} := fun _ hd => absurd hd List.not_mem_nil

/-- No event is passed to the send function after a switch that it did not come after,
exactly in the runs whose deliveries send the halves of a batch only for its viewer. -/
theorem interactionQueue_fenced_iff (options : MemeInteractionQueueOptions)
    (as : List QueueLabel) :
    (∀ send ∈ (final (queueStep options) {} as).sends, send.OfViewer) ↔
      ∀ x ∈ transitions (queueStep options) {} as, FencedSend x := by
  have hall : ∀ s : QueueState, ViewerSound s → SendsEvents s →
      ((∀ send ∈ (final (queueStep options) s as).sends, send.OfViewer) ↔
        (∀ send ∈ s.sends, send.OfViewer) ∧
          ∀ x ∈ transitions (queueStep options) s as, FencedSend x) := by
    induction as with
    | nil =>
      intro s _ _
      exact ⟨fun h => ⟨h, fun x hx => absurd hx List.not_mem_nil⟩, And.left⟩
    | cons label as ih =>
      intro s hviewers hsends
      cases hstep : queueStep options s label with
      | none =>
        rw [final_cons_of_none as hstep, transitions_cons_of_none as hstep]
        exact ih s hviewers hsends
      | some t =>
        have hmove := queueMove_of_step hstep
        obtain ⟨new, hnew, hiff⟩ := sends_ofViewer_iff hviewers hsends hmove
        rw [final_cons_of_some as hstep, transitions_cons_of_some as hstep]
        rw [ih t (hviewers.step hstep) (hsends.of_move hmove), hnew]
        rw [List.forall_mem_append, List.forall_mem_cons, hiff, and_assoc]
  rw [hall {} viewerSound_initial sendsEvents_initial]
  exact and_iff_right fun send hsend => absurd hsend List.not_mem_nil

instance (send : SendCall) : Decidable send.OfViewer :=
  inferInstanceAs (Decidable (∀ event ∈ send.events, _))

/-- Two events of a guest are in flight when the viewer logs in. The server rejects the
batch, and the delivery sends the first event again, for the new viewer. -/
def splitAfterSwitch : List QueueLabel :=
  [.syncViewer (some "guest"),
    .enqueue { eventType := .memeImpression, memeId := "m1" } "e1" "t",
    .enqueue { eventType := .memeImpression, memeId := "m2" } "e2" "t",
    .flush false, .syncViewer (some "user"), .settle 0 (.failed (.apiError 422))]

theorem sendsForEarlierViewer : ¬ ∀ send ∈ (final (queueStep {}) {} splitAfterSwitch).sends,
    send.OfViewer := by
  decide +kernel

end Step

end MemeExpert.Frontend
