import MemeExpert.Pipeline.Supersession
import MemeExpert.Services.RecoveryRuntime

/-! Replay calls read the row of the stage without a lock and write it later, while workers
and the stuck-stage reclaimer change it. -/

namespace MemeExpert.Services

open Runs Pipeline

inductive ReplayKind where
  | item (stage : Option ContentPipelineStage)
  | admin (terminalOverrideAcknowledged : Bool) (rowId : Uuid)
  | syncTarget
  deriving DecidableEq

def ReplayKind.plan (kind : ReplayKind) (store : StageStore) (stage : ContentPipelineStage) :
    Except PipelineError ReplayPlan :=
  match kind with
  | .item requested => planReplayItem store requested
  | .admin acknowledged rowId => planReplayAdminStage store stage acknowledged rowId
  | .syncTarget =>
    match syncTargetOf stage with
    | none => .error (.replayStageRowMissing stage)
    | some target => planReplaySyncTarget store target

/-- A call that decided to reserve and has not written yet, with the row as it read it. -/
structure ReplayCall where
  callId : Nat
  kind : ReplayKind
  loaded : Option PipelineStageJournal
  deriving DecidableEq

structure ReplayResult where
  eventId : Uuid
  attempt : Nat
  deriving DecidableEq

structure ReplayReservation where
  eventId : Uuid
  finishedBefore : List Uuid

structure ReplayState where
  store : StageStore
  calls : List ReplayCall := []
  returned : List ReplayResult := []
  reservations : List ReplayReservation := []
  finished : List Uuid := []
  issued : List Uuid := []

inductive ReplayLabel where
  | read (callId : Nat) (kind : ReplayKind)
  | write (call : ReplayCall) (eventId : Uuid) (item : Option RecoveryJobItem) (now : Time)
  | work (delivery : BrokerDelivery) (action : StageAction) (now : Time)
  | reclaim (eventId : Uuid) (now : Time)
  | release (state : PreviousStageState) (now : Time)
  | materialize (entry : PipelineStageJournal)
  | environment (store : StageStore)

def ReplayCall.entry (call : ReplayCall) (store : StageStore) (stage : ContentPipelineStage) :
    PipelineStageJournal :=
  match call.loaded, call.kind with
  | some entry, _ => entry
  | none, .admin _ rowId => unmaterializedEntry store stage rowId
  | none, _ => unmaterializedEntry store stage 0

namespace ReplayState

def reserve (s : ReplayState) (store : StageStore) (eventId : Uuid) (attempt : Nat) : ReplayState :=
  { s with
    store := store
    returned := ⟨eventId, attempt⟩ :: s.returned
    reservations := ⟨eventId, s.finished⟩ :: s.reservations
    issued := eventId :: s.issued }

def finish (s : ReplayState) (eventId : Option Uuid) : ReplayState :=
  { s with finished := eventId.toList ++ s.finished }

/-- The tables after a call wrote `row`, its recovery item and the replay of the row it read. -/
def enqueued (s : ReplayState) (stage : ContentPipelineStage) (read row : PipelineStageJournal)
    (eventId : Uuid) (item : Option RecoveryJobItem) (now : Time) : StageStore :=
  { (s.store.setEntry stage row).saveOptionalItem item with
    outbox := enqueueDispatchEvent s.store.outbox (replayEvent s.store stage read eventId now) }

/-- A call writes the columns it changed since it read the row. An insert that meets a row, and
an update that meets none, fail. -/
def write (s : ReplayState) (stage : ContentPipelineStage) (call : ReplayCall) (eventId : Uuid)
    (item : Option RecoveryJobItem) (now : Time) : ReplayState :=
  let dropped := { s with calls := s.calls.erase call }
  let read := call.entry s.store stage
  let reserved := reserveReplay read eventId (nextAttempt read)
  match call.loaded, s.store.journal stage with
  | some loaded, some current =>
    dropped.reserve
      (s.enqueued stage read (PipelineStageJournal.writeBack loaded reserved current) eventId item
        now) eventId (nextAttempt read)
  | none, none => dropped.reserve (s.enqueued stage read reserved eventId item now) eventId
      (nextAttempt read)
  | _, _ => dropped

end ReplayState

section Machine

variable (settings : PipelineSettings) (worker : StageWorker) (stage : ContentPipelineStage)

/-- The event whose outcome an action records: every success and failure, and an abandonment of
the running event. -/
def finishedBy (s : ReplayState) (delivery : BrokerDelivery) : StageAction → Option Uuid
  | .start => none
  | .succeed _ | .fail _ => some delivery.eventId
  | .abandon =>
    if (s.store.journal stage).any fun entry =>
        entry.lastEventId = some delivery.eventId ∧ entry.status = .processing then
      some delivery.eventId
    else none

def replayStep (s : ReplayState) : ReplayLabel → Option ReplayState
  | .read callId kind =>
    match kind.plan s.store stage with
    | .error _ => none
    | .ok (.attach entry eventId) =>
      -- the call may have selected the row of another stage
      if s.store.journal stage = some entry then
        some { s with returned := ⟨eventId, max entry.attemptCount 1⟩ :: s.returned }
      else none
    | .ok (.reserve selected loaded) =>
      if selected = stage ∧ s.store.journal stage = loaded then
        some { s with calls := ⟨callId, kind, loaded⟩ :: s.calls }
      else none
  | .write call eventId item now =>
    if call ∈ s.calls ∧ eventId ∉ s.issued then some (s.write stage call eventId item now) else none
  | .work delivery action now =>
    match runStageAction settings worker s.store (delivery.toStage stage) now action with
    | .error _ => none
    | .ok store =>
      some (({ s with store := store } : ReplayState).finish (finishedBy stage s delivery action))
  | .reclaim eventId now =>
    match s.store.journal stage with
    | none => none
    | some entry =>
      -- the journal files every row under its own stage
      if entry.stage = stage ∧ entry.status = .processing ∧ eventId ∉ s.issued then
        match reclaimStuckStage settings s.store stage entry none eventId now with
        | .error _ => none
        | .ok (store, none) =>
          some (({ s with store := store } : ReplayState).finish entry.lastEventId)
        | .ok (store, some accepted) =>
          some ((s.finish entry.lastEventId).reserve store accepted.replayEventId accepted.attempt)
      else none
  | .release state now =>
    match s.store.journal stage with
    | none => none
    | some entry =>
      if entry.status = .pending then
        let released := s.store.setEntry stage (releasedEntry entry state none now)
        some (({ s with store := released } : ReplayState).finish entry.lastEventId)
      else none
  | .materialize entry =>
    if s.store.journal stage = none ∧ isReplayReserved entry = false ∧
        (entry.lastEventId.all fun eventId => eventId ∉ s.issued) then
      some { s with
        store := s.store.setEntry stage entry
        issued := entry.lastEventId.toList ++ s.issued }
    else none
  | .environment store =>
    if store.journal stage = s.store.journal stage then some { s with store := store } else none

end Machine

/-- `b` has a higher attempt than `a` and was reserved after the event of `a` had finished. -/
def Follows (s : ReplayState) (a b : ReplayResult) : Prop :=
  a.attempt < b.attempt ∧
    ∃ reservation ∈ s.reservations, reservation.eventId = b.eventId ∧
      a.eventId ∈ reservation.finishedBefore

def ReplaysOrdered (s : ReplayState) : Prop :=
  ∀ a ∈ s.returned, ∀ b ∈ s.returned, a.eventId = b.eventId ∨ Follows s a b ∨ Follows s b a

section Conditions

variable (stage : ContentPipelineStage)

def NoReturnedReplayRuns (s : ReplayState) : Prop :=
  ∀ result ∈ s.returned, ∀ entry, s.store.journal stage = some entry →
    entry.lastEventId = some result.eventId → entry.status ≠ .processing

def OwnsOrBehind (s : ReplayState) (delivery : BrokerDelivery) : Prop :=
  ∀ entry, s.store.journal stage = some entry →
    entry.lastEventId = some delivery.eventId ∨ effectiveAttempt delivery < entry.attemptCount

/-- A write finds the row as its call read it, and a sync replay no running replay; no worker
writes a superseded event into the row; no snapshot is put back. -/
def Undisturbed (x : Transition ReplayState ReplayLabel) : Prop :=
  match x.label with
  | .write call _ _ _ =>
    x.before.store.journal stage = call.loaded ∧
      (call.kind = .syncTarget → NoReturnedReplayRuns stage x.before)
  | .work delivery action _ =>
    action.restores x.before.store delivery.eventId = false ∧ OwnsOrBehind stage x.before delivery
  | .release state _ => state.stageSnapshot = none
  | _ => True

instance (s : ReplayState) : Decidable (NoReturnedReplayRuns stage s) :=
  decidable_of_iff ((s.returned.all fun result => (s.store.journal stage).all fun entry =>
      decide (entry.lastEventId = some result.eventId → entry.status ≠ .processing)) = true)
    (by simp [NoReturnedReplayRuns, Option.all_eq_true, imp_iff_not_or])

instance (s : ReplayState) (delivery : BrokerDelivery) : Decidable (OwnsOrBehind stage s delivery) :=
  decidable_of_iff (((s.store.journal stage).all fun entry =>
      decide (entry.lastEventId = some delivery.eventId ∨
        effectiveAttempt delivery < entry.attemptCount)) = true)
    (by simp [OwnsOrBehind, Option.all_eq_true])

instance : (x : Transition ReplayState ReplayLabel) → Decidable (Undisturbed stage x)
  | ⟨s, .write call _ _ _, _⟩ => inferInstanceAs (Decidable
      (s.store.journal stage = call.loaded ∧ (call.kind = .syncTarget → NoReturnedReplayRuns stage s)))
  | ⟨s, .work delivery action _, _⟩ => inferInstanceAs (Decidable
      (action.restores s.store delivery.eventId = false ∧ OwnsOrBehind stage s delivery))
  | ⟨_, .release state _, _⟩ => inferInstanceAs (Decidable (state.stageSnapshot = none))
  | ⟨_, .read .., _⟩ | ⟨_, .reclaim .., _⟩ | ⟨_, .materialize .., _⟩ | ⟨_, .environment .., _⟩ =>
    isTrue trivial

structure ReplayState.Initial (s : ReplayState) : Prop where
  calls : s.calls = []
  returned : s.returned = []
  reservations : s.reservations = []
  unreserved : ∀ entry, s.store.journal stage = some entry → isReplayReserved entry = false
  issued : ∀ entry, s.store.journal stage = some entry → ∀ eventId,
    entry.lastEventId = some eventId → eventId ∈ s.issued

structure CarriesReplay (s : ReplayState) (result : ReplayResult) (entry : PipelineStageJournal) :
    Prop where
  attempt_le : result.attempt ≤ entry.attemptCount
  status : entry.status = .processing ∨ isReplayReserved entry = true ∨
    ((entry.status = .succeeded ∨ entry.status = .failed) ∧ result.eventId ∈ s.finished)

structure ReplayFenced (s : ReplayState) : Prop where
  absent : s.store.journal stage = none → s.returned = []
  row_issued : ∀ entry, s.store.journal stage = some entry → ∀ eventId,
    entry.lastEventId = some eventId → eventId ∈ s.issued
  reserved_attempt : ∀ entry, s.store.journal stage = some entry →
    isReplayReserved entry = true → 1 ≤ entry.attemptCount
  returned_issued : ∀ result ∈ s.returned, result.eventId ∈ s.issued
  planned : ∀ call ∈ s.calls, ∀ loaded, call.loaded = some loaded →
    isReplayReserved loaded = false ∧
      (call.kind ≠ .syncTarget → loaded.status = .succeeded ∨ loaded.status = .failed)
  current : ∀ result ∈ s.returned, ∀ entry, s.store.journal stage = some entry →
    entry.lastEventId = some result.eventId → CarriesReplay s result entry
  older : ∀ result ∈ s.returned, ∀ entry, s.store.journal stage = some entry →
    entry.lastEventId ≠ some result.eventId →
      result.attempt < entry.attemptCount ∧
        ∃ reservation ∈ s.reservations, entry.lastEventId = some reservation.eventId ∧
          result.eventId ∈ reservation.finishedBefore
  records : ∀ reservation ∈ s.reservations, ∀ eventId ∈ reservation.finishedBefore,
    eventId ∈ s.finished
  ordered : ReplaysOrdered s

end Conditions

section Invariant

variable {stage : ContentPipelineStage} {s : ReplayState}

theorem ReplayFenced.of_initial (h : s.Initial stage) : ReplayFenced stage s where
  absent _ := h.returned
  row_issued := h.issued
  reserved_attempt entry hentry hreserved := by
    rw [h.unreserved entry hentry] at hreserved
    cases hreserved
  returned_issued result hresult := by simp [h.returned] at hresult
  planned call hcall := by simp [h.calls] at hcall
  current result hresult := by simp [h.returned] at hresult
  older result hresult := by simp [h.returned] at hresult
  records reservation hreservation := by simp [h.reservations] at hreservation
  ordered a ha := by simp [h.returned] at ha

variable {entry : PipelineStageJournal}

theorem ReplayFenced.finished_of_settled (h : ReplayFenced stage s)
    (hentry : s.store.journal stage = some entry)
    (hsettled : ∀ result ∈ s.returned, entry.lastEventId = some result.eventId →
      result.eventId ∈ s.finished) :
    ∀ result ∈ s.returned,
      result.attempt < nextAttempt entry ∧ result.eventId ∈ s.finished := by
  intro result hresult
  by_cases hcurrent : entry.lastEventId = some result.eventId
  · have hle := (h.current result hresult entry hentry hcurrent).attempt_le
    exact ⟨by unfold nextAttempt; omega, hsettled result hresult hcurrent⟩
  obtain ⟨hlt, reservation, hreservation, -, hbefore⟩ :=
    h.older result hresult entry hentry hcurrent
  exact ⟨by unfold nextAttempt; omega, h.records reservation hreservation _ hbefore⟩

theorem ReplayFenced.finish (h : ReplayFenced stage s) (eventId : Option Uuid) :
    ReplayFenced stage (s.finish eventId) where
  absent := h.absent
  row_issued := h.row_issued
  reserved_attempt := h.reserved_attempt
  returned_issued := h.returned_issued
  planned := h.planned
  current result hresult entry hentry hcurrent := by
    obtain ⟨hle, hstatus⟩ := h.current result hresult entry hentry hcurrent
    refine ⟨hle, ?_⟩
    rcases hstatus with hrunning | hreserved | ⟨hsettled, hfinished⟩
    · exact .inl hrunning
    · exact .inr (.inl hreserved)
    · exact .inr (.inr ⟨hsettled, List.mem_append_right _ hfinished⟩)
  older := h.older
  records reservation hreservation other hother :=
    List.mem_append_right _ (h.records reservation hreservation other hother)
  ordered := h.ordered

variable {eventId : Uuid} {store : StageStore}

section Fenced

variable (h : ReplayFenced stage s)

include h

theorem ReplayFenced.reserve (hfresh : eventId ∉ s.issued)
    (hrow : store.journal stage = some (reserveReplay entry eventId (nextAttempt entry)))
    (hpast : ∀ result ∈ s.returned,
      result.attempt < nextAttempt entry ∧ result.eventId ∈ s.finished) :
    ReplayFenced stage (s.reserve store eventId (nextAttempt entry)) := by
  have hold : ∀ result ∈ s.returned, result.eventId ≠ eventId := fun result hresult heq =>
    hfresh (heq ▸ h.returned_issued result hresult)
  have hfollows : ∀ result ∈ s.returned,
      Follows (s.reserve store eventId (nextAttempt entry)) result ⟨eventId, nextAttempt entry⟩ :=
    fun result hresult =>
      ⟨(hpast result hresult).1, ⟨eventId, s.finished⟩, List.mem_cons_self, rfl,
        (hpast result hresult).2⟩
  constructor
  · intro hnone
    change store.journal stage = none at hnone
    rw [hrow] at hnone
    cases hnone
  · intro written hwritten other hother
    change store.journal stage = some written at hwritten
    rw [hrow] at hwritten
    cases hwritten
    cases hother
    exact List.mem_cons_self
  · intro written hwritten _
    change store.journal stage = some written at hwritten
    rw [hrow] at hwritten
    cases hwritten
    exact Nat.le_max_right ..
  · intro result hresult
    rcases List.mem_cons.mp hresult with rfl | hresult
    · exact List.mem_cons_self
    · exact List.mem_cons_of_mem _ (h.returned_issued result hresult)
  · exact h.planned
  · intro result hresult written hwritten hcurrent
    change store.journal stage = some written at hwritten
    rw [hrow] at hwritten
    cases hwritten
    rcases List.mem_cons.mp hresult with rfl | hresult
    · exact ⟨Nat.le_refl _, .inr (.inl (isReplayReserved_reserveReplay ..))⟩
    · exact absurd (Option.some.inj hcurrent).symm (hold result hresult)
  · intro result hresult written hwritten holder
    change store.journal stage = some written at hwritten
    rw [hrow] at hwritten
    cases hwritten
    rcases List.mem_cons.mp hresult with rfl | hresult
    · exact absurd rfl holder
    · exact ⟨(hpast result hresult).1, ⟨eventId, s.finished⟩, List.mem_cons_self, rfl,
        (hpast result hresult).2⟩
  · intro reservation hreservation other hother
    rcases List.mem_cons.mp hreservation with rfl | hreservation
    · exact hother
    · exact h.records reservation hreservation other hother
  intro a ha b hb
  rcases List.mem_cons.mp ha with rfl | ha
  · rcases List.mem_cons.mp hb with rfl | hb
    · exact .inl rfl
    · exact .inr (.inr (hfollows b hb))
  rcases List.mem_cons.mp hb with rfl | hb
  · exact .inr (.inl (hfollows a ha))
  rcases h.ordered a ha b hb with heq | ⟨hlt, r, hr, hrest⟩ | ⟨hlt, r, hr, hrest⟩
  · exact .inl heq
  · exact .inr (.inl ⟨hlt, r, List.mem_cons_of_mem _ hr, hrest⟩)
  · exact .inr (.inr ⟨hlt, r, List.mem_cons_of_mem _ hr, hrest⟩)

theorem ReplayFenced.advance {written : PipelineStageJournal} {finishes : Option Uuid}
    (hentry : s.store.journal stage = some entry) (hrow : store.journal stage = some written)
    (hevent : written.lastEventId = entry.lastEventId)
    (hattempt : entry.attemptCount ≤ written.attemptCount)
    (hunreserved : isReplayReserved written = false)
    (hstatus : written.status = .processing ∨
      ((written.status = .succeeded ∨ written.status = .failed) ∧
        ∀ eventId, entry.lastEventId = some eventId → finishes = some eventId)) :
    ReplayFenced stage (({ s with store := store } : ReplayState).finish finishes) := by
  constructor
  · intro hnone
    change store.journal stage = none at hnone
    rw [hrow] at hnone
    cases hnone
  · intro row hwritten eventId heventId
    change store.journal stage = some row at hwritten
    rw [hrow] at hwritten
    cases hwritten
    exact h.row_issued entry hentry eventId (hevent ▸ heventId)
  · intro row hwritten hreserved
    change store.journal stage = some row at hwritten
    rw [hrow] at hwritten
    cases hwritten
    rw [hunreserved] at hreserved
    cases hreserved
  · exact h.returned_issued
  · exact h.planned
  · intro result hresult row hwritten hcurrent
    change store.journal stage = some row at hwritten
    rw [hrow] at hwritten
    cases hwritten
    rw [hevent] at hcurrent
    have hle := (h.current result hresult entry hentry hcurrent).attempt_le
    refine ⟨Nat.le_trans hle hattempt, ?_⟩
    rcases hstatus with hrunning | ⟨hsettled, hfinishes⟩
    · exact .inl hrunning
    · refine .inr (.inr ⟨hsettled, ?_⟩)
      simp [ReplayState.finish, hfinishes result.eventId hcurrent]
  · intro result hresult row hwritten holder
    change store.journal stage = some row at hwritten
    rw [hrow] at hwritten
    cases hwritten
    rw [hevent] at holder ⊢
    obtain ⟨hlt, hrest⟩ := h.older result hresult entry hentry holder
    exact ⟨Nat.lt_of_lt_of_le hlt hattempt, hrest⟩
  · intro reservation hreservation eventId heventId
    exact List.mem_append_right _ (h.records reservation hreservation eventId heventId)
  · exact h.ordered

theorem ReplayFenced.same_row (hrow : store.journal stage = s.store.journal stage) :
    ReplayFenced stage { s with store := store } where
  absent hnone := h.absent (hrow ▸ hnone)
  row_issued entry hentry := h.row_issued entry (hrow ▸ hentry)
  reserved_attempt entry hentry := h.reserved_attempt entry (hrow ▸ hentry)
  returned_issued := h.returned_issued
  planned := h.planned
  current result hresult entry hentry hcurrent :=
    have hcarries := h.current result hresult entry (hrow ▸ hentry) hcurrent
    ⟨hcarries.attempt_le, hcarries.status⟩
  older result hresult entry hentry := h.older result hresult entry (hrow ▸ hentry)
  records := h.records
  ordered := h.ordered

theorem ReplayFenced.drop_call (call : ReplayCall) :
    ReplayFenced stage { s with calls := s.calls.erase call } where
  absent := h.absent
  row_issued := h.row_issued
  reserved_attempt := h.reserved_attempt
  returned_issued := h.returned_issued
  planned other hother := h.planned other (List.mem_of_mem_erase hother)
  current result hresult entry hentry hcurrent :=
    have hcarries := h.current result hresult entry hentry hcurrent
    ⟨hcarries.attempt_le, hcarries.status⟩
  older := h.older
  records := h.records
  ordered := h.ordered

theorem ReplayFenced.attach (hentry : s.store.journal stage = some entry)
    (hreserved : isReplayReserved entry = true) (hevent : entry.lastEventId = some eventId) :
    ReplayFenced stage
      { s with returned := ⟨eventId, max entry.attemptCount 1⟩ :: s.returned } := by
  have hone : 1 ≤ entry.attemptCount := h.reserved_attempt entry hentry hreserved
  have hmax : max entry.attemptCount 1 = entry.attemptCount := Nat.max_eq_left hone
  have hfollows : ∀ result ∈ s.returned, result.eventId = eventId ∨
      Follows s result ⟨eventId, max entry.attemptCount 1⟩ := by
    intro result hresult
    by_cases heq : result.eventId = eventId
    · exact .inl heq
    have holder : entry.lastEventId ≠ some result.eventId := by
      rw [hevent]
      exact fun hsame => heq (Option.some.inj hsame).symm
    obtain ⟨hlt, reservation, hreservation, hcarried, hbefore⟩ :=
      h.older result hresult entry hentry holder
    rw [hevent] at hcarried
    exact .inr ⟨Nat.lt_of_lt_of_le hlt (Nat.le_max_left ..), reservation, hreservation, (Option.some.inj hcarried).symm, hbefore⟩
  constructor
  · intro hnone
    rw [show s.store.journal stage = none from hnone] at hentry
    cases hentry
  · exact h.row_issued
  · exact h.reserved_attempt
  · intro result hresult
    rcases List.mem_cons.mp hresult with rfl | hresult
    · exact h.row_issued entry hentry eventId hevent
    · exact h.returned_issued result hresult
  · exact h.planned
  · intro result hresult row hrow hcurrent
    rcases List.mem_cons.mp hresult with rfl | hresult
    · have hsame : row = entry := Option.some.inj (hrow.symm.trans hentry)
      subst hsame
      exact ⟨Nat.le_of_eq hmax, .inr (.inl hreserved)⟩
    · obtain ⟨hle, hstatus⟩ := h.current result hresult row hrow hcurrent
      exact ⟨hle, hstatus⟩
  · intro result hresult row hrow holder
    rcases List.mem_cons.mp hresult with rfl | hresult
    · have hsame : row = entry := Option.some.inj (hrow.symm.trans hentry)
      exact absurd hevent (hsame ▸ holder)
    · exact h.older result hresult row hrow holder
  · exact h.records
  intro a ha b hb
  rcases List.mem_cons.mp ha with rfl | ha
  · rcases List.mem_cons.mp hb with rfl | hb
    · exact .inl rfl
    · rcases hfollows b hb with heq | hf
      · exact .inl heq.symm
      · exact .inr (.inr hf)
  rcases List.mem_cons.mp hb with rfl | hb
  · rcases hfollows a ha with heq | hf
    · exact .inl heq
    · exact .inr (.inl hf)
  · exact h.ordered a ha b hb

end Fenced

variable {settings : PipelineSettings} {worker : StageWorker} {t : ReplayState}

variable {entry : PipelineStageJournal} {selected : ContentPipelineStage} {store : StageStore}

theorem planOnEntry_eq_reserve {target : ContentPipelineStage}
    {row loaded : Option PipelineStageJournal}
    (h : planOnEntry store selected entry row = .ok (.reserve target loaded)) :
    isReplayReserved entry = false ∧ target = selected ∧ loaded = row := by
  unfold planOnEntry at h
  split at h
  · split at h <;> cases h
  next hreserved =>
  cases h
  exact ⟨(Bool.not_eq_true _).mp hreserved, rfl, rfl⟩

variable {eventId : Uuid}

theorem planOnEntry_eq_attach {row : PipelineStageJournal} {loaded : Option PipelineStageJournal}
    (h : planOnEntry store selected entry loaded = .ok (.attach row eventId)) :
    row = entry ∧ isReplayReserved entry = true ∧ entry.lastEventId = some eventId := by
  unfold planOnEntry at h
  split at h
  · next hreserved =>
    split at h
    · cases h
    next other hevent =>
    cases h
    exact ⟨rfl, hreserved, hevent⟩
  · cases h

theorem selectReplayEntry_spec {journal : Journal} {requested : Option ContentPipelineStage}
    (h : selectReplayEntry journal requested = .ok entry) :
    isReplayReserved entry = true ∨ isRetryableFailure entry = true := by
  cases requested with
  | some stage =>
    simp only [selectReplayEntry] at h
    split at h
    · cases h
    split at h
    · next hreserved =>
      cases h
      exact .inl hreserved
    split at h
    · next hfailed =>
      cases h
      exact .inr hfailed
    · cases h
  | none =>
    simp only [selectReplayEntry] at h
    split at h
    · next found hfound =>
      cases h
      have hpicked := List.find?_some hfound
      rwa [Bool.or_eq_true] at hpicked
    · cases h

variable {kind : ReplayKind}

/-- A call plans to reserve a row that it read unreserved; replays of items and of an admin also
read it settled. -/
theorem ReplayKind.plan_reserve
    (hplan : kind.plan store stage = .ok (.reserve selected (some entry))) :
    isReplayReserved entry = false ∧
      (kind ≠ .syncTarget → entry.status = .succeeded ∨ entry.status = .failed) := by
  cases kind with
  | item requested =>
    simp only [ReplayKind.plan, planReplayItem] at hplan
    split at hplan
    · cases hplan
    split at hplan
    · cases hplan
    next found hfound =>
    obtain ⟨hunreserved, -, hloaded⟩ := planOnEntry_eq_reserve hplan
    cases hloaded
    refine ⟨hunreserved, fun _ => ?_⟩
    rcases selectReplayEntry_spec hfound with hreserved | hfailed
    · rw [hunreserved] at hreserved
      cases hreserved
    · simp only [isRetryableFailure, decide_eq_true_eq] at hfailed
      exact .inr hfailed.1
  | admin acknowledged rowId =>
    simp only [ReplayKind.plan, planReplayAdminStage] at hplan
    split at hplan
    · cases hplan
    split at hplan
    · cases hplan
    split at hplan
    · next hreserved =>
      rw [(planOnEntry_eq_reserve hplan).1] at hreserved
      cases hreserved
    split at hplan
    · cases hplan
    next hidle =>
    split at hplan
    · cases hplan
    obtain ⟨hunreserved, -, hloaded⟩ := planOnEntry_eq_reserve hplan
    rw [← hloaded, Option.getD_some] at hunreserved hidle
    refine ⟨hunreserved, fun _ => ?_⟩
    cases hstatus : entry.status <;> simp [hstatus] at hidle ⊢
  | syncTarget =>
    simp only [ReplayKind.plan] at hplan
    split at hplan
    · cases hplan
    simp only [planReplaySyncTarget] at hplan
    split at hplan
    · cases hplan
    split at hplan
    · cases hplan
    split at hplan
    · cases hplan
    obtain ⟨hunreserved, -, hloaded⟩ := planOnEntry_eq_reserve hplan
    cases hloaded
    exact ⟨hunreserved, fun hne => absurd rfl hne⟩

theorem ReplayKind.plan_attach (hplan : kind.plan store stage = .ok (.attach entry eventId)) :
    isReplayReserved entry = true ∧ entry.lastEventId = some eventId := by
  cases kind with
  | item requested =>
    simp only [ReplayKind.plan, planReplayItem] at hplan
    split at hplan
    · cases hplan
    split at hplan
    · cases hplan
    · obtain ⟨rfl, hrest⟩ := planOnEntry_eq_attach hplan
      exact hrest
  | admin acknowledged rowId =>
    simp only [ReplayKind.plan, planReplayAdminStage] at hplan
    split at hplan
    · cases hplan
    split at hplan
    · cases hplan
    split at hplan
    · obtain ⟨rfl, hrest⟩ := planOnEntry_eq_attach hplan
      exact hrest
    split at hplan
    · cases hplan
    split at hplan
    · cases hplan
    · obtain ⟨rfl, hrest⟩ := planOnEntry_eq_attach hplan
      exact hrest
  | syncTarget =>
    simp only [ReplayKind.plan] at hplan
    split at hplan
    · cases hplan
    simp only [planReplaySyncTarget] at hplan
    split at hplan
    · cases hplan
    split at hplan
    · cases hplan
    split at hplan
    · cases hplan
    · obtain ⟨rfl, hrest⟩ := planOnEntry_eq_attach hplan
      exact hrest

theorem writeBack_reserveReplay (entry : PipelineStageJournal) (eventId : Uuid) (attempt : Nat) :
    PipelineStageJournal.writeBack entry (reserveReplay entry eventId attempt) entry =
      reserveReplay entry eventId attempt := by
  simp [PipelineStageJournal.writeBack, reserveReplay]

theorem ReplayFenced.read (h : ReplayFenced stage s) {callId : Nat}
    (hstep : replayStep settings worker stage s (.read callId kind) = some t) :
    ReplayFenced stage t := by
  simp only [replayStep] at hstep
  split at hstep
  · cases hstep
  · next entry eventId hplan =>
    rw [Option.ite_none_right_eq_some] at hstep
    obtain ⟨hentry, ht⟩ := hstep
    cases ht
    obtain ⟨hreserved, hevent⟩ := ReplayKind.plan_attach hplan
    exact h.attach hentry hreserved hevent
  next selected loaded hplan =>
  rw [Option.ite_none_right_eq_some] at hstep
  obtain ⟨-, ht⟩ := hstep
  cases ht
  exact { h with
    planned := by
      intro call hcall entry hentry
      rcases List.mem_cons.mp hcall with rfl | hcall
      · change loaded = some entry at hentry
        subst hentry
        exact ReplayKind.plan_reserve hplan
      · exact h.planned call hcall entry hentry
    current := fun result hresult entry hentry hcurrent =>
      have hcarries := h.current result hresult entry hentry hcurrent
      ⟨hcarries.attempt_le, hcarries.status⟩ }

theorem ReplayState.journal_enqueued (s : ReplayState) (read row : PipelineStageJournal)
    (eventId : Uuid) (item : Option RecoveryJobItem) (now : Time) :
    (s.enqueued stage read row eventId item now).journal stage = some row := by
  simp only [ReplayState.enqueued, journal_saveOptionalItem, StageStore.journal_setEntry]

theorem ReplayState.write_of_read {call : ReplayCall} (hread : s.store.journal stage = call.loaded)
    (eventId : Uuid) (item : Option RecoveryJobItem) (now : Time) :
    ∃ store, store.journal stage = some (reserveReplay (call.entry s.store stage) eventId
        (nextAttempt (call.entry s.store stage))) ∧
      s.write stage call eventId item now =
        ({ s with calls := s.calls.erase call } : ReplayState).reserve store eventId
          (nextAttempt (call.entry s.store stage)) := by
  cases hloaded : call.loaded with
  | none =>
    rw [hloaded] at hread
    simp only [ReplayState.write, hloaded, hread]
    exact ⟨_, s.journal_enqueued .., rfl⟩
  | some entry =>
    rw [hloaded] at hread
    have hentry : call.entry s.store stage = entry := by
      simp only [ReplayCall.entry, hloaded]
    simp only [ReplayState.write, hloaded, hread, hentry, writeBack_reserveReplay]
    exact ⟨_, s.journal_enqueued .., rfl⟩

theorem ReplayFenced.write (h : ReplayFenced stage s) {call : ReplayCall} (hcall : call ∈ s.calls)
    (hfresh : eventId ∉ s.issued) (item : Option RecoveryJobItem) (now : Time)
    (hread : s.store.journal stage = call.loaded)
    (hsync : call.kind = .syncTarget → NoReturnedReplayRuns stage s) :
    ReplayFenced stage (s.write stage call eventId item now) := by
  obtain ⟨store, hrow, hwrite⟩ := s.write_of_read hread eventId item now
  rw [hwrite]
  refine (h.drop_call call).reserve hfresh hrow ?_
  cases hloaded : call.loaded with
  | none =>
    intro result hresult
    have hnone : s.returned = [] := h.absent (hread.trans hloaded)
    simp [hnone] at hresult
  | some entry =>
    rw [hloaded] at hread
    have hentry : call.entry s.store stage = entry := by
      simp only [ReplayCall.entry, hloaded]
    rw [hentry]
    refine h.finished_of_settled hread ?_
    intro result hresult hcurrent
    obtain ⟨hunreserved, hsettled⟩ := h.planned call hcall entry hloaded
    rcases (h.current result hresult entry hread hcurrent).status with
      hrunning | hreserved | ⟨-, hfinished⟩
    · by_cases hkind : call.kind = .syncTarget
      · exact absurd hrunning (hsync hkind result hresult entry hread hcurrent)
      · rcases hsettled hkind with hstatus | hstatus <;> rw [hrunning] at hstatus <;> cases hstatus
    · rw [hunreserved] at hreserved
      cases hreserved
    · exact hfinished

theorem finishedBy_of_writes {delivery : BrokerDelivery} {action : StageAction}
    {written : PipelineStageJournal} (hentry : s.store.journal stage = some entry)
    (hwrites : action.writes entry (delivery.toStage stage) = true)
    (hwritten : WrittenFor entry (delivery.toStage stage) action written) :
    written.status = .processing ∨
      ((written.status = .succeeded ∨ written.status = .failed) ∧
        finishedBy stage s delivery action = some delivery.eventId) := by
  have hstatus := hwritten.status
  cases action with
  | start => exact .inl hstatus
  | succeed uuids => exact .inr ⟨.inl hstatus, rfl⟩
  | fail failure => exact .inr ⟨.inr hstatus, rfl⟩
  | abandon =>
    refine .inr ⟨.inr hstatus, ?_⟩
    simp only [StageAction.writes, decide_eq_true_eq] at hwrites
    have hown : entry.lastEventId = some delivery.eventId := hwrites.1
    simp [finishedBy, hentry, hown, hwrites.2.2]

variable {now : Time}

theorem ReplayFenced.work (h : ReplayFenced stage s) {delivery : BrokerDelivery}
    {action : StageAction}
    (hrun : runStageAction settings worker s.store (delivery.toStage stage) now action = .ok store)
    (hkeeps : action.restores s.store delivery.eventId = false)
    (howns : OwnsOrBehind stage s delivery) :
    ReplayFenced stage
      (({ s with store := store } : ReplayState).finish (finishedBy stage s delivery action)) := by
  cases hentry : s.store.journal stage with
  | none =>
    have herror : runStageAction settings worker s.store (delivery.toStage stage) now action =
        .error (.missingJournalState s.store.memeFile.id stage) :=
      runStageAction_of_none hentry action
    rw [hrun] at herror
    cases herror
  | some entry =>
    have hread : s.store.journal (delivery.toStage stage).stage = some entry := hentry
    cases hwrites : action.writes entry (delivery.toStage stage) with
    | false =>
      have hsame := runStageAction_of_idle hread hwrites hrun
      subst hsame
      exact h.finish _
    | true =>
      obtain ⟨hle, hrow⟩ := runStageAction_of_writes hread hwrites hrun
      have hwritten : WrittenFor entry (delivery.toStage stage) action
          (action.written settings s.store entry (delivery.toStage stage) now) :=
        writtenFor_of_writes hle hkeeps
      have hown : entry.lastEventId = some delivery.eventId := by
        rcases howns entry hentry with hown | hlt
        · exact hown
        · exact absurd hle (Nat.not_le.mpr hlt)
      have hlast := hwritten.lastEventId.trans hown.symm
      refine h.advance hentry hrow hlast (hwritten.attemptCount ▸ hle) hwritten.unreserved ?_
      rcases finishedBy_of_writes hentry hwrites hwritten with hrunning | ⟨hsettled, hfinishes⟩
      · exact .inl hrunning
      refine .inr ⟨hsettled, ?_⟩
      intro eventId hevent
      rw [hfinishes, ← hevent, hown]

theorem ReplayFenced.reclaim (h : ReplayFenced stage s)
    (hstep : replayStep settings worker stage s (.reclaim eventId now) = some t) :
    ReplayFenced stage t := by
  simp only [replayStep] at hstep
  split at hstep
  · cases hstep
  next entry hentry =>
  rw [Option.ite_none_right_eq_some] at hstep
  obtain ⟨⟨hstage, -, hfresh⟩, hstep⟩ := hstep
  split at hstep
  · cases hstep
  · next store hreclaim =>
    cases hstep
    rcases reclaimStuckStage_spec hstage hreclaim with ⟨-, hrow⟩ | ⟨replay, hnone, -⟩
    · refine h.advance hentry hrow rfl (Nat.le_refl _) (by simp [isReplayReserved, reclaimedEntry])
        (.inr ⟨.inr rfl, fun other hevent => hevent⟩)
    · cases hnone
  next store accepted hreclaim =>
  cases hstep
  rcases reclaimStuckStage_spec hstage hreclaim with ⟨hnone, -⟩ | ⟨replay, heq, hevent, hattempt, hrow⟩
  · cases hnone
  cases heq
  rw [hevent, hattempt]
  refine (h.finish entry.lastEventId).reserve hfresh hrow ?_
  refine (h.finish entry.lastEventId).finished_of_settled hentry ?_
  intro result _ hcurrent
  simp [ReplayState.finish, hcurrent]

theorem ReplayFenced.release (h : ReplayFenced stage s) {state : PreviousStageState}
    (hsnapshot : state.stageSnapshot = none)
    (hstep : replayStep settings worker stage s (.release state now) = some t) :
    ReplayFenced stage t := by
  simp only [replayStep] at hstep
  split at hstep
  · cases hstep
  next entry hentry =>
  rw [Option.ite_none_right_eq_some] at hstep
  obtain ⟨-, ht⟩ := hstep
  cases ht
  have hreleased : releasedEntry entry state none now =
      { entry with
        status := .failed
        normalizedReason := some "outbox_publish_failed"
        lastErrorText := none
        isRetryable := true
        retryAfter := none
        startedAt := none
        finishedAt := some now } := by
    simp [releasedEntry, restoreStageSnapshot, hsnapshot]
  rw [hreleased]
  exact h.advance hentry (StageStore.journal_setEntry ..) rfl (Nat.le_refl _)
    (by simp [isReplayReserved]) (.inr ⟨.inr rfl, fun other hevent => hevent⟩)

theorem ReplayFenced.materialize (h : ReplayFenced stage s)
    (hstep : replayStep settings worker stage s (.materialize entry) = some t) :
    ReplayFenced stage t := by
  simp only [replayStep, Option.ite_none_right_eq_some] at hstep
  obtain ⟨⟨hrow, hunreserved, -⟩, ht⟩ := hstep
  cases ht
  have hreturned : s.returned = [] := h.absent hrow
  have hwritten : (s.store.setEntry stage entry).journal stage = some entry :=
    StageStore.journal_setEntry ..
  constructor
  · intro hnone
    rw [hwritten] at hnone
    cases hnone
  · intro row hrow eventId hevent
    rw [hwritten] at hrow
    cases hrow
    simp [hevent]
  · intro row hrow hreserved
    rw [hwritten] at hrow
    cases hrow
    rw [hunreserved] at hreserved
    cases hreserved
  · intro result hresult
    simp [hreturned] at hresult
  · exact h.planned
  · intro result hresult
    simp [hreturned] at hresult
  · intro result hresult
    simp [hreturned] at hresult
  · exact h.records
  · exact h.ordered

theorem ReplayFenced.step {x : Transition ReplayState ReplayLabel}
    (hstep : replayStep settings worker stage x.before x.label = some x.after)
    (hundisturbed : Undisturbed stage x) (h : ReplayFenced stage x.before) :
    ReplayFenced stage x.after := by
  obtain ⟨s, label, t⟩ := x
  cases label with
  | read callId kind => exact h.read hstep
  | write call eventId item now =>
    simp only [replayStep, Option.ite_none_right_eq_some] at hstep
    obtain ⟨⟨hcall, hfresh⟩, ht⟩ := hstep
    cases ht
    exact h.write hcall hfresh item now hundisturbed.1 hundisturbed.2
  | work delivery action now =>
    simp only [replayStep] at hstep
    split at hstep
    · cases hstep
    next store hrun =>
    cases hstep
    exact h.work hrun hundisturbed.1 hundisturbed.2
  | reclaim eventId now => exact h.reclaim hstep
  | release state now => exact h.release hundisturbed hstep
  | materialize entry => exact h.materialize hstep
  | environment store =>
    simp only [replayStep, Option.ite_none_right_eq_some] at hstep
    obtain ⟨hrow, ht⟩ := hstep
    cases ht
    exact h.same_row hrow

end Invariant

/-- At most one event for an attempt, and every later event follows the one before it. -/
structure ReservesOnce (s : ReplayState) : Prop where
  ordered : ReplaysOrdered s
  oneEvent : ∀ a ∈ s.returned, ∀ b ∈ s.returned, a.attempt = b.attempt → a.eventId = b.eventId

theorem ReservesOnce.of_fenced {stage : ContentPipelineStage} {s : ReplayState}
    (h : ReplayFenced stage s) : ReservesOnce s where
  ordered := h.ordered
  oneEvent a ha b hb hattempt := by
    rcases h.ordered a ha b hb with heq | hfollows | hfollows
    · exact heq
    · have hlt := hfollows.1
      omega
    · have hlt := hfollows.1
      omega

/-- In every run whose steps are undisturbed, concurrent calls reserve once. -/
theorem reservesOnce_of_undisturbed (settings : PipelineSettings) (worker : StageWorker)
    (stage : ContentPipelineStage) {s : ReplayState} (hinit : s.Initial stage)
    (labels : List ReplayLabel)
    (hundisturbed : ∀ x ∈ transitions (replayStep settings worker stage) s labels,
      Undisturbed stage x) :
    (∀ x ∈ transitions (replayStep settings worker stage) s labels, ReservesOnce x.before) ∧
      ReservesOnce (final (replayStep settings worker stage) s labels) := by
  have hrun := invariant_of_transitions (P := ReplayFenced stage) (ReplayFenced.of_initial hinit)
    fun x hx hbefore => hbefore.step (step_of_mem_transitions hx) (hundisturbed x hx)
  exact ⟨fun x hx => .of_fenced (hrun.1 x hx), .of_fenced hrun.2⟩

def failedOcr : ReplayState where
  store :=
    { memeFile := { id := 1, memeId := 1, status := .failed, s3OriginalKey := "original" }
      journal := fun stage =>
        if stage = .ocr then
          some { id := 1, memeFileId := 1, stage := .ocr, status := .failed, attemptCount := 1
                 lastEventId := some 1, normalizedReason := some "timeout", isRetryable := true }
        else none }
  issued := [1]

theorem failedOcr_initial : failedOcr.Initial .ocr := by
  refine ⟨rfl, rfl, rfl, ?_, ?_⟩ <;> intro entry hentry <;> cases hentry
  · rfl
  intro eventId hevent
  cases hevent
  decide

def ocrReplay (callId : Nat) (store : StageStore) : ReplayCall :=
  ⟨callId, .item (some .ocr), store.journal .ocr⟩

def failingReplay : List ReplayLabel :=
  [.read 1 (.item (some .ocr)), .write (ocrReplay 1 failedOcr.store) 2 none 10,
    .work ⟨2, 2, 0⟩ .start 20, .work ⟨2, 2, 0⟩ (.fail ⟨"timeout", "timed out", true⟩) 21]

def successiveReplays : List ReplayLabel :=
  let failed := (final (replayStep {} {} .ocr) failedOcr failingReplay).store
  failingReplay ++ [.read 2 (.item (some .ocr)), .write (ocrReplay 2 failed) 3 none 30]

theorem reservesOnce_of_undisturbed_successive :
    (final (replayStep {} {} .ocr) failedOcr successiveReplays).returned = [⟨3, 3⟩, ⟨2, 2⟩] ∧
      ReservesOnce (final (replayStep {} {} .ocr) failedOcr successiveReplays) :=
  ⟨by decide, (reservesOnce_of_undisturbed {} {} .ocr failedOcr_initial successiveReplays
    (by decide)).2⟩

def interleavedReplays : List ReplayLabel :=
  [.read 1 (.item (some .ocr)), .read 2 (.item (some .ocr)),
    .write (ocrReplay 1 failedOcr.store) 2 none 10, .write (ocrReplay 2 failedOcr.store) 3 none 11]

theorem not_reservesOnce_interleaved :
    ¬ ∀ (settings : PipelineSettings) (worker : StageWorker) (stage : ContentPipelineStage)
      (s : ReplayState), s.Initial stage → ∀ labels,
        ReservesOnce (final (replayStep settings worker stage) s labels) := by
  intro h
  have honce := h {} {} .ocr failedOcr failedOcr_initial interleavedReplays
  have hreturned : (final (replayStep {} {} .ocr) failedOcr interleavedReplays).returned =
      [⟨3, 2⟩, ⟨2, 2⟩] := by
    decide
  have hsame := honce.oneEvent ⟨3, 2⟩ (by rw [hreturned]; decide) ⟨2, 2⟩
    (by rw [hreturned]; decide) rfl
  cases hsame

end MemeExpert.Services
