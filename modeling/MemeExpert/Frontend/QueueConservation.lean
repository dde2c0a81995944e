import MemeExpert.Frontend.QueueViewers
import Mathlib.Data.List.Perm.Basic

/-! While the viewer stays the same, every event is in exactly one place, is not sent again
once the server has settled it, and waits under an armed timer unless a flush is at work. -/

namespace MemeExpert.Frontend

open scoped List
open Runs InteractionQueue QueueState

def QueueState.inFlightEvents (s : QueueState) : List QueuedEvent :=
  s.flushes.flatMap FlushCall.held

def FlushCall.generation : FlushCall → Option Nat
  | .delivering d => some d.batchGeneration
  | .joined _ flushGeneration => some flushGeneration
  | _ => none

structure QueueSound (options : MemeInteractionQueueOptions) (s : QueueState) : Prop where
  refs : s.enqueued.map QueuedEvent.ref = List.range s.enqueued.length
  conserved : ∀ event, s.enqueued.count event =
    s.queue.pending.count event + s.inFlightEvents.count event + s.accepted.count event +
      s.rejected.count event + s.discarded.count event
  alone : ∀ event ∈ s.queue.pending, FitsAlone options.maxBatchBytes event
  batches : ∀ d, .delivering d ∈ s.flushes → Fits options.maxBatchBytes d.held
  sends : ∀ send ∈ s.sends, Fits options.maxBatchBytes send.events ∧ send.events ≠ []
  armed : s.queue.pending ≠ [] →
    s.queue.scheduled ≠ none ∨ ∃ call ∈ s.flushes, call.generation = some s.queue.generation

section Step

theorem count_held_set {flushes : List FlushCall} {flushId : Nat} {old : FlushCall}
    (event : QueuedEvent) (hold : flushes[flushId]? = some old)
    (new : FlushCall) :
    ((flushes.set flushId new).flatMap FlushCall.held).count event + old.held.count event =
      (flushes.flatMap FlushCall.held).count event + new.held.count event := by
  induction flushes generalizing flushId with
  | nil => cases hold
  | cons call flushes ih =>
    cases flushId with
    | zero =>
      obtain rfl := Option.some.inj hold
      simp only [List.set_cons_zero, List.flatMap_cons, List.count_append]
      omega
    | succ flushId =>
      have hrest := @ih flushId hold
      simp only [List.set_cons_succ, List.flatMap_cons, List.count_append]
      omega

variable {options : MemeInteractionQueueOptions} {s t : QueueState} {label : QueueLabel}

variable {enqueued : List QueuedEvent} {event : QueuedEvent}

section Refs

variable (hrefs : enqueued.map QueuedEvent.ref = List.range enqueued.length)

include hrefs

theorem ref_lt_of_refs (hevent : event ∈ enqueued) : event.ref < enqueued.length := by
  have hmem : event.ref ∈ enqueued.map QueuedEvent.ref := List.mem_map_of_mem hevent
  rw [hrefs] at hmem
  exact List.mem_range.mp hmem

theorem nodup_of_refs : enqueued.Nodup := by
  have hnodup : (enqueued.map QueuedEvent.ref).Nodup := by
    rw [hrefs]
    exact List.nodup_range
  exact hnodup.of_map _

theorem refs_snoc (hevent : event.ref = enqueued.length) :
    (enqueued ++ [event]).map QueuedEvent.ref = List.range (enqueued ++ [event]).length := by
  rw [List.map_append, hrefs, List.length_append, List.length_singleton, List.range_succ]
  rw [List.map_singleton, hevent]

end Refs

theorem scheduled_scheduleFlush {q : InteractionQueue} (delayMs : Nat)
    (hpending : q.pending ≠ []) : (scheduleFlush delayMs q).scheduled ≠ none := by
  unfold scheduleFlush
  dsimp only
  split
  · next hskip => exact hskip.resolve_right hpending
  · exact Option.some_ne_none _

theorem giveBack_pending (options : MemeInteractionQueueOptions)
    (retryEvents : List QueuedEvent) (q : InteractionQueue) :
    (giveBack options retryEvents q).pending = retryEvents ++ q.pending := rfl

theorem refs_of_move (hs : QueueSound options s) (hmove : QueueMove options s label t) :
    t.enqueued.map QueuedEvent.ref = List.range t.enqueued.length := by
  cases hmove with
  | dropped event href _ => exact refs_snoc hs.refs href
  | enqueued event _ href _ _ => exact refs_snoc hs.refs href
  | _ => exact hs.refs

theorem conserved_of_move (hs : QueueSound options s) (hmove : QueueMove options s label t)
    (event : QueuedEvent) : t.enqueued.count event =
      t.queue.pending.count event + t.inFlightEvents.count event + t.accepted.count event +
        t.rejected.count event + t.discarded.count event := by
  have hall := hs.conserved event
  unfold inFlightEvents at hall ⊢
  cases hmove with
  | dropped new _ _ =>
    simp only [List.count_append]
    omega
  | enqueued new _ _ _ _ =>
    simp only [scheduleFlush, List.count_append]
    omega
  | nothingToFlush _ _ => exact hall
  | started _ keepalive flight _ =>
    have hpending := congrArg (List.count event)
      (takeInteractionBatch_append_drop s.queue.pending options.maxBatchBytes)
    simp only [List.count_append, List.flatMap_append, List.flatMap_singleton] at hpending ⊢
    simp only [FlushCall.held, Delivery.held, DeliveryPoint.held, encloseAll, List.foldl_nil]
    omega
  | joined _ flightId =>
    simp only [List.flatMap_append, List.flatMap_singleton, FlushCall.held, List.append_nil]
    exact hall
  | sameViewer _ => exact hall
  | switched =>
    simp only [List.count_append, List.count_nil]
    omega
  | acceptedSend d events hcall hpoint =>
    have hset := count_held_set event hcall (.delivering { d with point := .returned [] })
    have hheld := count_held_settled hpoint event
    simp only [setFlush, FlushCall.held, List.count_append] at hset ⊢
    omega
  | retriedSend d events hcall hpoint _ =>
    have hset := count_held_set event hcall (.delivering { d with point := .returned events })
    simp only [setFlush, FlushCall.held, held_retried hpoint] at hset ⊢
    omega
  | rejectedSend d events hcall hpoint _ =>
    have hset := count_held_set event hcall (.delivering { d with point := .returned [] })
    have hheld := count_held_settled hpoint event
    simp only [setFlush, FlushCall.held, List.count_append] at hset ⊢
    omega
  | splitSend d events hcall hpoint _ _ _ =>
    have hset := count_held_set event hcall (.delivering
      { d with
        frames := .firstHalf (events.drop ((events.length + 1) / 2)) :: d.frames
        point := .sending (events.take ((events.length + 1) / 2)) })
    simp only [setFlush, send, FlushCall.held, held_split hpoint] at hset ⊢
    omega
  | nextHalf d retryEvents later frames hcall hpoint hframes =>
    have hset := count_held_set event hcall (.delivering
      { d with frames := .secondHalf retryEvents :: frames, point := .sending later })
    simp only [setFlush, send, FlushCall.held, held_nextHalf hpoint hframes] at hset ⊢
    omega
  | joinedHalves d retryEvents retryOfFirst frames hcall hpoint hframes =>
    have hset := count_held_set event hcall (.delivering
      { d with frames := frames, point := .returned (retryOfFirst ++ retryEvents) })
    simp only [setFlush, FlushCall.held, held_joinedHalves hpoint hframes] at hset ⊢
    omega
  | outdated d retryEvents call hcall hpoint hframes _ hended =>
    have hset := count_held_set event hcall call
    have hheld : (FlushCall.delivering d).held = retryEvents := held_of_no_frames hpoint hframes
    rw [held_of_ended hended, hheld, List.count_nil] at hset
    simp only [setFlush, List.count_append]
    omega
  | gaveBack d retryEvents call hcall hpoint hframes _ hended =>
    have hset := count_held_set event hcall call
    have hheld : (FlushCall.delivering d).held = retryEvents := held_of_no_frames hpoint hframes
    rw [held_of_ended hended, hheld, List.count_nil] at hset
    simp only [setFlush, giveBack_pending, List.count_append]
    omega
  | flightEnded _ hcall =>
    have hset := count_held_set event hcall .ended
    simp only [setFlush, FlushCall.held, List.count_nil] at hset ⊢
    omega
  | joinedEnded flightId flushGeneration hcall =>
    have hset := count_held_set event hcall .ended
    simp only [setFlush, FlushCall.held, List.count_nil, apply_ite InteractionQueue.pending,
      scheduleFlush, ite_self] at hset ⊢
    omega

theorem fitsAlone_of_mem {maxBatchBytes : Nat} {events : List QueuedEvent}
    (hfits : Fits maxBatchBytes events) (hevent : event ∈ events) :
    FitsAlone maxBatchBytes event :=
  (hfits.sublist (List.singleton_sublist.mpr hevent)).bytes_le (List.cons_ne_nil _ _)

theorem alone_of_move (hs : QueueSound options s) (hmove : QueueMove options s label t) :
    ∀ event ∈ t.queue.pending, FitsAlone options.maxBatchBytes event := by
  cases hmove with
  | enqueued new _ _ _ halone =>
    intro event hevent
    obtain hevent | hevent := List.mem_append.mp hevent
    · exact hs.alone event hevent
    · rw [List.mem_singleton.mp hevent]
      exact halone
  | started _ _ _ _ =>
    intro event hevent
    exact hs.alone event (List.mem_of_mem_drop hevent)
  | switched =>
    intro event hevent
    cases hevent
  | gaveBack d retryEvents call hcall hpoint hframes _ _ =>
    intro event hevent
    obtain hevent | hevent := List.mem_append.mp hevent
    · have hfits := hs.batches d (List.mem_of_getElem? hcall)
      rw [held_of_no_frames hpoint hframes] at hfits
      exact fitsAlone_of_mem hfits hevent
    · exact hs.alone event hevent
  | joinedEnded flightId flushGeneration _ =>
    intro event hevent
    simp only [apply_ite InteractionQueue.pending, scheduleFlush, ite_self] at hevent
    exact hs.alone event hevent
  | _ => exact hs.alone

theorem batches_of_move (hs : QueueSound options s) (hmove : QueueMove options s label t)
    (d : Delivery) (hd : .delivering d ∈ t.flushes) : Fits options.maxBatchBytes d.held := by
  obtain ⟨old, hold, hheld, -⟩ | ⟨hheld, -⟩ := delivery_of_move hmove hd
  · exact (hs.batches old hold).sublist hheld
  · rw [hheld]
    exact takeInteractionBatch_fits hs.alone

theorem sends_of_move (hs : QueueSound options s) (hsends : SendsEvents s)
    (hmove : QueueMove options s label t) :
    ∃ new, t.sends = s.sends ++ new ∧ ∀ send ∈ new, Fits options.maxBatchBytes send.events ∧
      send.events ≠ [] ∧ ∀ event ∈ send.events, event ∈ t.inFlightEvents := by
  cases hmove with
  | started _ keepalive _ hpending =>
    refine ⟨_, rfl, ?_⟩
    rw [List.forall_mem_singleton]
    refine ⟨takeInteractionBatch_fits hs.alone, takeInteractionBatch_ne_nil _ hpending, ?_⟩
    intro event hevent
    refine List.mem_flatMap.mpr ⟨_, List.mem_append_right _ (List.mem_singleton.mpr rfl), ?_⟩
    exact hevent
  | splitSend d events hcall hpoint _ _ hlength =>
    have hpart : events.take ((events.length + 1) / 2) <+ d.held :=
      (List.take_sublist _ _).trans (sending_sublist_held hpoint)
    refine ⟨_, rfl, ?_⟩
    rw [List.forall_mem_singleton]
    refine ⟨(hs.batches d (List.mem_of_getElem? hcall)).sublist hpart,
      (halves_ne_nil hlength).1, ?_⟩
    intro event hevent
    refine List.mem_flatMap.mpr ⟨_, List.mem_set (lt_of_getElem?_eq_some hcall) _, ?_⟩
    exact (sending_sublist_held rfl).subset hevent
  | nextHalf d retryEvents later frames hcall hpoint hframes =>
    have hmem : .firstHalf later ∈ d.frames := by
      rw [hframes]
      exact List.mem_cons_self
    have hpart : later <+ d.held := by
      rw [← held_nextHalf hpoint hframes]
      exact sending_sublist_held rfl
    refine ⟨_, rfl, ?_⟩
    rw [List.forall_mem_singleton]
    refine ⟨(hs.batches d (List.mem_of_getElem? hcall)).sublist hpart,
      (hsends d (List.mem_of_getElem? hcall)).later later hmem, ?_⟩
    intro event hevent
    refine List.mem_flatMap.mpr ⟨_, List.mem_set (lt_of_getElem?_eq_some hcall) _, ?_⟩
    exact (sending_sublist_held rfl).subset hevent
  | _ => exact ⟨[], (List.append_nil _).symm, fun send hsend => absurd hsend List.not_mem_nil⟩

theorem running_set {flushes : List FlushCall} {flushId generation : Nat} {old new : FlushCall}
    (h : ∃ call ∈ flushes, call.generation = some generation) (hold : flushes[flushId]? = some old)
    (hne : old.generation ≠ some generation ∨ new.generation = old.generation) :
    ∃ call ∈ flushes.set flushId new, call.generation = some generation := by
  obtain ⟨call, hcall, hgeneration⟩ := h
  by_cases heq : call = old
  · rw [heq] at hgeneration
    have hnew := hne.resolve_left (not_not.mpr hgeneration)
    exact ⟨new, List.mem_set (lt_of_getElem?_eq_some hold) _, hnew.trans hgeneration⟩
  · exact ⟨call, mem_set_of_ne hold hcall heq new, hgeneration⟩

theorem armed_of_move (hs : QueueSound options s) (hmove : QueueMove options s label t)
    (hpending : t.queue.pending ≠ []) : t.queue.scheduled ≠ none ∨
      ∃ call ∈ t.flushes, call.generation = some t.queue.generation := by
  cases hmove with
  | dropped _ _ _ => exact hs.armed hpending
  | enqueued event delayMs _ _ _ => exact .inl (scheduled_scheduleFlush delayMs hpending)
  | nothingToFlush _ hnone => exact absurd hnone hpending
  | started _ _ _ _ => exact .inr ⟨_, List.mem_append_right _ (List.mem_singleton.mpr rfl), rfl⟩
  | joined _ _ => exact .inr ⟨_, List.mem_append_right _ (List.mem_singleton.mpr rfl), rfl⟩
  | sameViewer _ => exact hs.armed hpending
  | switched => exact absurd rfl hpending
  | acceptedSend d _ hcall _ =>
    exact (hs.armed hpending).imp_right fun h => running_set h hcall (.inr rfl)
  | retriedSend d _ hcall _ _ =>
    exact (hs.armed hpending).imp_right fun h => running_set h hcall (.inr rfl)
  | rejectedSend d _ hcall _ _ =>
    exact (hs.armed hpending).imp_right fun h => running_set h hcall (.inr rfl)
  | splitSend d _ hcall _ _ _ _ =>
    exact (hs.armed hpending).imp_right fun h => running_set h hcall (.inr rfl)
  | nextHalf d _ _ _ hcall _ _ =>
    exact (hs.armed hpending).imp_right fun h => running_set h hcall (.inr rfl)
  | joinedHalves d _ _ _ hcall _ _ =>
    exact (hs.armed hpending).imp_right fun h => running_set h hcall (.inr rfl)
  | outdated d _ _ hcall _ _ hgeneration _ =>
    refine (hs.armed hpending).imp_right fun h => running_set h hcall (.inl ?_)
    exact fun heq => hgeneration (Option.some.inj heq).symm
  | gaveBack d retryEvents _ _ _ _ _ _ => exact .inl (scheduled_scheduleFlush _ hpending)
  | flightEnded _ hcall =>
    exact (hs.armed hpending).imp_right fun h => running_set h hcall (.inr rfl)
  | joinedEnded flightId flushGeneration hcall =>
    by_cases hgeneration : s.queue.generation = flushGeneration
    · simp only [if_pos hgeneration] at hpending ⊢
      exact .inl (scheduled_scheduleFlush 0 hpending)
    simp only [if_neg hgeneration] at hpending ⊢
    refine (hs.armed hpending).imp_right fun h => running_set h hcall (.inl ?_)
    exact fun heq => hgeneration (Option.some.inj heq).symm

theorem QueueSound.step (hs : QueueSound options s) (hsends : SendsEvents s)
    (hstep : queueStep options s label = some t) : QueueSound options t where
  refs := refs_of_move hs (queueMove_of_step hstep)
  conserved := conserved_of_move hs (queueMove_of_step hstep)
  alone := alone_of_move hs (queueMove_of_step hstep)
  batches := batches_of_move hs (queueMove_of_step hstep)
  sends := by
    obtain ⟨new, hnew, hright⟩ := sends_of_move hs hsends (queueMove_of_step hstep)
    rw [hnew, List.forall_mem_append]
    exact ⟨hs.sends, fun send hsend => ⟨(hright send hsend).1, (hright send hsend).2.1⟩⟩
  armed := armed_of_move hs (queueMove_of_step hstep)

end Step

/-- The queue that `createMemeInteractionQueue` returns. -/
theorem queueSound_initial (options : MemeInteractionQueueOptions) : QueueSound options {} where
  refs := rfl
  conserved _ := rfl
  alone _ hevent := absurd hevent List.not_mem_nil
  batches _ hd := absurd hd List.not_mem_nil
  sends _ hsend := absurd hsend List.not_mem_nil
  armed h := absurd rfl h

section Order

variable {options : MemeInteractionQueueOptions} {s t : QueueState} {label : QueueLabel}

def InEnqueueOrder (events : List QueuedEvent) : Prop :=
  events.Pairwise fun first second => first.ref < second.ref

structure QueueInOrder (s : QueueState) : Prop where
  pending : InEnqueueOrder s.queue.pending
  batches : ∀ d, .delivering d ∈ s.flushes → InEnqueueOrder d.held

/-- The flush gives back `retryEvents` to the queue. -/
def Delivery.GivesBack (d : Delivery) (retryEvents : List QueuedEvent) : Prop :=
  d.point = .returned retryEvents ∧ d.frames = []

def GivesBackOlder (x : QueueTransition) : Prop :=
  match x.label with
  | .resume flushId => ∀ d retryEvents, x.before.flushes[flushId]? = some (.delivering d) →
      d.GivesBack retryEvents → d.batchGeneration = x.before.queue.generation →
        ∀ event ∈ retryEvents, ∀ waiting ∈ x.before.queue.pending, event.ref < waiting.ref
  | _ => True

theorem pending_subset_enqueued (hs : QueueSound options s) : s.queue.pending ⊆ s.enqueued := by
  intro event hevent
  have hcount := hs.conserved event
  have hpos := List.count_pos_iff.mpr hevent
  apply List.count_pos_iff.mp
  omega

theorem QueueInOrder.step (horder : QueueInOrder s) (hs : QueueSound options s)
    (hstep : queueStep options s label = some t) (holder : GivesBackOlder ⟨s, label, t⟩) :
    QueueInOrder t where
  pending := by
    have hmove := queueMove_of_step hstep
    cases hmove with
    | enqueued new _ href _ _ =>
      refine List.pairwise_append.mpr ⟨horder.pending, List.pairwise_singleton _ _, ?_⟩
      intro event hevent last hlast
      rw [List.mem_singleton.mp hlast, href]
      exact ref_lt_of_refs hs.refs (pending_subset_enqueued hs hevent)
    | started _ _ _ _ => exact horder.pending.sublist (List.drop_sublist _ _)
    | switched => exact List.Pairwise.nil
    | gaveBack d retryEvents _ hcall hpoint hframes hgeneration _ =>
      have hbatch := horder.batches d (List.mem_of_getElem? hcall)
      rw [held_of_no_frames hpoint hframes] at hbatch
      refine List.pairwise_append.mpr ⟨hbatch, horder.pending, ?_⟩
      exact holder d retryEvents hcall ⟨hpoint, hframes⟩ hgeneration.symm
    | joinedEnded _ flushGeneration _ =>
      simp only [apply_ite InteractionQueue.pending, scheduleFlush, ite_self]
      exact horder.pending
    | _ => exact horder.pending
  batches d hd := by
    obtain ⟨old, hold, hheld, -⟩ | ⟨hheld, -⟩ := delivery_of_move (queueMove_of_step hstep) hd
    · exact (horder.batches old hold).sublist hheld
    rw [hheld]
    have hpending := horder.pending
    rw [takeInteractionBatch_append_drop s.queue.pending options.maxBatchBytes] at hpending
    exact (List.pairwise_append.mp hpending).1

theorem givesBackOlder_of_inOrder (hstep : queueStep options s label = some t)
    (horder : InEnqueueOrder t.queue.pending) : GivesBackOlder ⟨s, label, t⟩ := by
  cases label with
  | resume flushId =>
    intro d retryEvents hcall ⟨hpoint, hframes⟩ hgeneration
    have hpending : t.queue.pending = retryEvents ++ s.queue.pending := by
      simp only [queueStep, hcall, hpoint, returnDelivery, hframes] at hstep
      obtain rfl := Option.some.inj hstep
      unfold endRunFlush
      rw [if_neg]
      · rfl
      · exact not_not.mpr hgeneration.symm
    rw [hpending] at horder
    exact (List.pairwise_append.mp horder).2.2
  | _ => trivial

def QueueState.ofViewer (s : QueueState) (events : List QueuedEvent) : List QueuedEvent :=
  events.filter fun event => event.viewerGeneration = s.queue.generation

structure QueueConserved (options : MemeInteractionQueueOptions) (s : QueueState) : Prop where
  one_place : List.Perm (s.ofViewer s.enqueued)
    (s.ofViewer (s.queue.pending ++ s.inFlightEvents ++ s.accepted ++ s.rejected))
  distinct : s.enqueued.Nodup
  batches : ∀ send ∈ s.sends, send.events.length ≤ interactionBatchMaxEvents ∧
    batchBytes send.events ≤ options.maxBatchBytes
  armed : s.queue.pending ≠ [] → (∀ call ∈ s.flushes, call = .ended ∨ call = .flown) →
    s.queue.scheduled ≠ none

def SendsUnsettled (x : QueueTransition) : Prop :=
  ∀ send ∈ x.after.sends.drop x.before.sends.length, ∀ event ∈ send.events,
    event ∉ x.before.accepted ∧ event ∉ x.before.rejected

structure QueueRunning (options : MemeInteractionQueueOptions) (s : QueueState) : Prop where
  sound : QueueSound options s
  viewers : ViewerSound s
  sendsEvents : SendsEvents s

theorem QueueRunning.step {s t : QueueState} {label : QueueLabel} (hs : QueueRunning options s)
    (hstep : queueStep options s label = some t) : QueueRunning options t where
  sound := hs.sound.step hs.sendsEvents hstep
  viewers := hs.viewers.step hstep
  sendsEvents := hs.sendsEvents.of_move (queueMove_of_step hstep)

theorem queueRunning_initial (options : MemeInteractionQueueOptions) :
    QueueRunning options {} where
  sound := queueSound_initial options
  viewers := viewerSound_initial
  sendsEvents := sendsEvents_initial

theorem QueueRunning.conserved {s : QueueState} (hs : QueueRunning options s) :
    QueueConserved options s where
  one_place := by
    refine List.perm_iff_count.mpr fun event => ?_
    have hall := hs.sound.conserved event
    unfold ofViewer
    by_cases hviewer : event.viewerGeneration = s.queue.generation
    · have hnot : event ∉ s.discarded := by
        intro hevent
        exact absurd hviewer (Nat.ne_of_lt (hs.viewers.discarded event hevent))
      rw [List.count_filter (by simpa using hviewer), List.count_filter (by simpa using hviewer)]
      rw [List.count_eq_zero_of_not_mem hnot] at hall
      simp only [List.count_append]
      exact hall
    have hnot : ∀ events : List QueuedEvent, event ∉ events.filter fun event =>
        event.viewerGeneration = s.queue.generation := by
      intro events hevent
      exact hviewer (of_decide_eq_true (List.mem_filter.mp hevent).2)
    rw [List.count_eq_zero_of_not_mem (hnot _), List.count_eq_zero_of_not_mem (hnot _)]
  distinct := nodup_of_refs hs.sound.refs
  batches send hsend := by
    obtain ⟨hfits, hne⟩ := hs.sound.sends send hsend
    exact ⟨hfits.length_le, hfits.bytes_le hne⟩
  armed hpending hidle := by
    refine (hs.sound.armed hpending).resolve_right ?_
    rintro ⟨call, hcall, hgeneration⟩
    obtain rfl | rfl := hidle call hcall
    · cases hgeneration
    · cases hgeneration

variable {event : QueuedEvent}

theorem not_settled_of_inFlight {s : QueueState} (hs : QueueSound options s)
    (hevent : event ∈ s.inFlightEvents) :
    event ∉ s.accepted ∧ event ∉ s.rejected := by
  have hcount := hs.conserved event
  have hone := List.nodup_iff_count_le_one.mp (nodup_of_refs hs.refs) event
  have hpos := List.count_pos_iff.mpr hevent
  constructor
  · intro hmem
    have hpos' := List.count_pos_iff.mpr hmem
    omega
  · intro hmem
    have hpos' := List.count_pos_iff.mpr hmem
    omega

theorem settled_of_move {s t : QueueState} {label : QueueLabel}
    (hmove : QueueMove options s label t) : s.accepted ⊆ t.accepted ∧ s.rejected ⊆ t.rejected := by
  cases hmove with
  | acceptedSend _ _ _ _ => exact ⟨List.subset_append_left _ _, List.Subset.refl _⟩
  | rejectedSend _ _ _ _ _ => exact ⟨List.Subset.refl _, List.subset_append_left _ _⟩
  | dropped _ _ _ => exact ⟨List.Subset.refl _, List.subset_append_left _ _⟩
  | _ => exact ⟨List.Subset.refl _, List.Subset.refl _⟩

theorem QueueRunning.sendsUnsettled {s t : QueueState} {label : QueueLabel}
    (hs : QueueRunning options s) (hstep : queueStep options s label = some t) :
    SendsUnsettled ⟨s, label, t⟩ := by
  have hmove := queueMove_of_step hstep
  obtain ⟨new, hnew, hright⟩ := sends_of_move hs.sound hs.sendsEvents hmove
  obtain ⟨haccepted, hrejected⟩ := settled_of_move hmove
  intro send hsend event hevent
  dsimp only at hsend
  rw [hnew, List.drop_left] at hsend
  obtain ⟨hnotAccepted, hnotRejected⟩ :=
    not_settled_of_inFlight (hs.step hstep).sound ((hright send hsend).2.2 event hevent)
  exact ⟨fun h => hnotAccepted (haccepted h), fun h => hnotRejected (hrejected h)⟩

structure QueueKept (options : MemeInteractionQueueOptions) (x : QueueTransition) : Prop where
  conserved : QueueConserved options x.after
  unsettled : SendsUnsettled x
  ordered : InEnqueueOrder x.after.queue.pending

theorem queueRunning_before {as : List QueueLabel} {x : QueueTransition}
    (hx : x ∈ transitions (queueStep options) {} as) : QueueRunning options x.before :=
  invariant_before (queueRunning_initial options)
    (fun _ hy hbefore => hbefore.step (step_of_mem_transitions hy)) hx

/-- Nothing is lost, doubled or left without a timer in any run; the queue stays in order
exactly in the runs whose flushes give back only what is older than the rest. -/
theorem interactionQueue_kept_iff (options : MemeInteractionQueueOptions)
    (as : List QueueLabel) :
    (∀ x ∈ transitions (queueStep options) {} as,
      QueueConserved options x.after ∧ SendsUnsettled x) ∧
    ((∀ x ∈ transitions (queueStep options) {} as, QueueKept options x) ↔
      ∀ x ∈ transitions (queueStep options) {} as, GivesBackOlder x) := by
  have hconserved : ∀ x ∈ transitions (queueStep options) {} as,
      QueueConserved options x.after ∧ SendsUnsettled x := by
    intro x hx
    have hbefore : QueueRunning options x.before := queueRunning_before hx
    have hstep := step_of_mem_transitions hx
    exact ⟨(hbefore.step hstep).conserved, hbefore.sendsUnsettled hstep⟩
  refine ⟨hconserved, ?_, ?_⟩
  · intro h x hx
    exact givesBackOlder_of_inOrder (step_of_mem_transitions hx) (h x hx).ordered
  intro holder x hx
  have hstart : QueueInOrder {} := ⟨List.Pairwise.nil, fun d hd => absurd hd List.not_mem_nil⟩
  have hkeep : ∀ y ∈ transitions (queueStep options) {} as,
      QueueInOrder y.before → QueueInOrder y.after := by
    intro y hy hordered
    have hrunning : QueueRunning options y.before := queueRunning_before hy
    exact hordered.step hrunning.sound (step_of_mem_transitions hy) (holder y hy)
  have hordered := hkeep x hx (invariant_before hstart hkeep hx)
  exact ⟨(hconserved x hx).1, (hconserved x hx).2, hordered.pending⟩

def overlappingFailures : List QueueLabel :=
  [.enqueue { eventType := .memeImpression, memeId := "m1" } "e1" "t", .flush false,
    .enqueue { eventType := .memeImpression, memeId := "m2" } "e2" "t", .flush true,
    .settle 0 (.failed .other), .resume 0, .settle 1 (.failed .other), .resume 1]

instance (events : List QueuedEvent) : Decidable (InEnqueueOrder events) :=
  inferInstanceAs (Decidable (List.Pairwise _ _))

theorem pendingOutOfOrder :
    ¬ ∀ x ∈ transitions (queueStep {}) {} overlappingFailures, QueueKept {} x := by
  intro h
  have hordered : ∀ x ∈ transitions (queueStep {}) {} overlappingFailures,
      InEnqueueOrder x.after.queue.pending := fun x hx => (h x hx).ordered
  revert hordered
  decide +kernel

end Order

end MemeExpert.Frontend
