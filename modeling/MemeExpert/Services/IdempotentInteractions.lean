import MemeExpert.Services.InteractionEvents

/-! Whatever batches run over one another, an event is stored once under its UUID and once
for the stage of its impression, and the projected rows are those of the stored events. -/

namespace MemeExpert.Services

open Runs Recommendations
open scoped List

section Rows

variable {rows other : ProjectedRows} {key : RowKey} {writes : List RowWrite}

theorem sqlLeast_right_comm (first second third : Option Time) :
    sqlLeast (sqlLeast first second) third = sqlLeast (sqlLeast first third) second := by
  have hassoc := @Std.Associative.assoc _ (Option.merge (min : Time → Time → Time)) _
  have hcomm := @Std.Commutative.comm _ (Option.merge (min : Time → Time → Time)) _
  rw [sqlLeast, hassoc, hcomm second, ← hassoc]

namespace MemeExposure

variable (row : MemeExposure) (stage otherStage : MemeExposureStage) (observedAt otherTime : Time)

theorem ofStage_eq : ofStage stage observedAt = updateStage {} stage observedAt := by
  cases stage <;> rfl

theorem updateStage_comm :
    (row.updateStage stage observedAt).updateStage otherStage otherTime =
      (row.updateStage otherStage otherTime).updateStage stage observedAt := by
  cases stage <;> cases otherStage <;>
    first | rfl | simp only [updateStage, sqlLeast_right_comm _ (some observedAt)]

end MemeExposure

theorem dirtyStatus_eq (status : Option RecommendationProfileStatus) (dirtyAt : Time) :
    dirtyStatus status dirtyAt =
      { dirtySince := sqlLeast (status.bind (·.dirtySince)) (some dirtyAt) } := by
  rcases status with _ | ⟨_ | dirtySince⟩
  · rfl
  · simp [dirtyStatus, sqlLeast]
  · rfl

theorem onConflictDoUpdate_right_comm (first second third : RecommendationState) :
    onConflictDoUpdate (onConflictDoUpdate first second) third =
      onConflictDoUpdate (onConflictDoUpdate first third) second := by
  have hassoc := @Std.Associative.assoc _ onConflictDoUpdate _
  have hcomm := @Std.Commutative.comm _ onConflictDoUpdate _
  rw [hassoc, hcomm second, ← hassoc]

theorem upsertRow_self (write : RowWrite) :
    upsertRow rows write write.key = some (write.written (rows write.key)) :=
  Function.update_self ..

theorem upsertRow_of_ne {write : RowWrite} (h : key ≠ write.key) :
    upsertRow rows write key = rows key :=
  Function.update_of_ne h ..

theorem upsertRow_congr (write : RowWrite) (h : rows key = other key) :
    upsertRow rows write key = upsertRow other write key := by
  by_cases hkey : key = write.key
  · subst hkey
    rw [upsertRow_self, upsertRow_self, h]
  · rw [upsertRow_of_ne hkey, upsertRow_of_ne hkey, h]

theorem foldl_upsertRow_congr (h : rows key = other key) :
    writes.foldl upsertRow rows key = writes.foldl upsertRow other key := by
  induction writes generalizing rows other with
  | nil => exact h
  | cons write writes ih => exact ih (upsertRow_congr write h)

theorem foldl_upsertRow_of_ne (h : ∀ write ∈ writes, write.key ≠ key) :
    writes.foldl upsertRow rows key = rows key := by
  induction writes generalizing rows with
  | nil => rfl
  | cons write writes ih =>
    rw [List.foldl_cons, ih fun found hfound => h found (List.mem_cons_of_mem _ hfound)]
    exact upsertRow_of_ne (h write List.mem_cons_self).symm

section Written

variable {memeId userId : Uuid} {kind : MemeExposureKind} {exposureKey : Text}

theorem written_exposure_comm (current : Option MemeExposure) (stage otherStage : MemeExposureStage)
    (observedAt otherTime : Time) :
    (RowWrite.exposure memeId kind exposureKey otherStage otherTime).written
        (some ((RowWrite.exposure memeId kind exposureKey stage observedAt).written current)) =
      (RowWrite.exposure memeId kind exposureKey stage observedAt).written
        (some ((RowWrite.exposure memeId kind exposureKey otherStage otherTime).written
          current)) := by
  cases current with
  | none =>
    change (MemeExposure.ofStage stage observedAt).updateStage otherStage otherTime =
      (MemeExposure.ofStage otherStage otherTime).updateStage stage observedAt
    rw [MemeExposure.ofStage_eq, MemeExposure.ofStage_eq, MemeExposure.updateStage_comm]
  | some row => exact MemeExposure.updateStage_comm row stage otherStage observedAt otherTime

theorem written_state_comm (current : Option RecommendationState)
    (values otherValues : RecommendationState) :
    (RowWrite.state userId memeId otherValues).written
        (some ((RowWrite.state userId memeId values).written current)) =
      (RowWrite.state userId memeId values).written
        (some ((RowWrite.state userId memeId otherValues).written current)) := by
  cases current with
  | none => exact @Std.Commutative.comm _ onConflictDoUpdate _ values otherValues
  | some row => exact onConflictDoUpdate_right_comm row values otherValues

theorem written_dirty_comm (current : Option RecommendationProfileStatus) (first second : Time) :
    (RowWrite.dirty userId second).written (some ((RowWrite.dirty userId first).written current)) =
      (RowWrite.dirty userId first).written
        (some ((RowWrite.dirty userId second).written current)) := by
  change dirtyStatus (some (dirtyStatus current first)) second =
    dirtyStatus (some (dirtyStatus current second)) first
  simp only [dirtyStatus_eq, Option.bind_some]
  rw [sqlLeast_right_comm]

end Written

theorem upsertRow_comm_of_eq (first second : RowWrite) (h : first.key = second.key) :
    upsertRow (upsertRow rows first) second = upsertRow (upsertRow rows second) first := by
  funext key
  by_cases hkey : key = second.key
  · subst hkey
    cases first with
    | exposure memeId kind exposureKey stage observedAt =>
      cases second with
      | exposure _ _ _ otherStage otherTime =>
        cases h
        simp only [upsertRow, RowWrite.key, Function.update_self]
        exact congrArg some (written_exposure_comm _ stage otherStage observedAt otherTime)
      | state => cases h
      | dirty => cases h
    | state userId memeId values =>
      cases second with
      | exposure => cases h
      | state _ _ otherValues =>
        cases h
        simp only [upsertRow, RowWrite.key, Function.update_self]
        exact congrArg some (written_state_comm _ values otherValues)
      | dirty => cases h
    | dirty userId dirtyAt =>
      cases second with
      | exposure => cases h
      | state => cases h
      | dirty _ otherTime =>
        cases h
        simp only [upsertRow, RowWrite.key, Function.update_self]
        exact congrArg some (written_dirty_comm _ dirtyAt otherTime)
  · rw [upsertRow_of_ne hkey, upsertRow_of_ne (h ▸ hkey), upsertRow_of_ne (h ▸ hkey),
      upsertRow_of_ne hkey]

theorem upsertRow_comm (first second : RowWrite) :
    upsertRow (upsertRow rows first) second = upsertRow (upsertRow rows second) first := by
  by_cases h : first.key = second.key
  · exact upsertRow_comm_of_eq first second h
  have hfirst : upsertRow rows second first.key = rows first.key := upsertRow_of_ne h
  have hsecond : upsertRow rows first second.key = rows second.key := upsertRow_of_ne (Ne.symm h)
  rw [upsertRow, hsecond]
  rw [upsertRow.eq_1 (upsertRow rows second), hfirst]
  exact Function.update_comm h ..

theorem projectEvents_perm {context : AnalyticsContext} {events order : List AnalyticsEvent}
    (h : order ~ events) : projectEvents context order = projectEvents context events := by
  have hwrites := h.flatMap_right (projectInsertedInteraction context)
  exact hwrites.foldl_eq' (fun first _ second _ rows => upsertRow_comm first second) _

variable {event : AnalyticsEvent}

theorem projectEvents_append {context : AnalyticsContext} (events more : List AnalyticsEvent) :
    projectEvents context (events ++ more) =
      (more.flatMap (projectInsertedInteraction context)).foldl upsertRow
        (projectEvents context events) := by
  rw [projectEvents, List.flatMap_append, List.foldl_append]
  rfl

end Rows

def eventIds (events : List AnalyticsEvent) : List Uuid := events.map (·.write.eventId)

def stageKeys (events : List AnalyticsEvent) : List ImpressionStageKey :=
  events.filterMap (·.write.stageKey)

def Admissible (context : AnalyticsContext) (now : Time) (write : InteractionEventWrite) : Prop :=
  (∃ actor, resolveActorContext context write = .ok actor) ∧ isInFuture write now = false

def Known (events : List AnalyticsEvent) (write : InteractionEventWrite) : Prop :=
  (∃ event ∈ events, event.write.eventId = write.eventId ∧
    sameInteractionIdentity event write = true) ∨
  ∃ stageKey ∈ stageKeys events, write.stageKey = some stageKey

namespace InteractionBatch

def checkedStage (call : InteractionBatch) : Option ImpressionStageKey :=
  match call.point with
  | .stageLocked _ | .inserting _ => call.todo.head?.bind (·.stageKey)
  | _ => none

def pendingWrites (call : InteractionBatch) : List RowWrite :=
  match call.point with
  | .projecting writes => writes
  | _ => []

def unreported (call : InteractionBatch) : List InteractionEventWrite :=
  match call.point with
  | .projecting _ => call.todo.take 1
  | _ => []

def needs (context : AnalyticsContext) (call : InteractionBatch) : InteractionLock → Prop
  | .event eventId => eventId ∈ eventIds call.inserted
  | .stage hash => ∃ stageKey,
      (call.checkedStage = some stageKey ∨ stageKey ∈ stageKeys call.inserted) ∧
        context.advisoryHash stageKey = hash
  | .row key => call.rows key ≠ none

structure Right (context : AnalyticsContext) (now : Time) (tables : AnalyticsTables)
    (call : InteractionBatch) : Prop where
  batch_eq : call.outcomes.map Prod.fst ++ call.todo = call.batch
  ids : (eventIds (call.visible tables)).Nodup
  stages : (stageKeys (call.visible tables)).Nodup
  staged : ∀ occurredAt, call.point = .stageLocked occurredAt → ∀ write ∈ call.todo.head?,
    write.stageKey ≠ none
  fresh : ∀ occurredAt, call.point = .inserting occurredAt → ∀ write ∈ call.todo.head?,
    ∀ stageKey, write.stageKey = some stageKey → stageKey ∉ stageKeys (call.visible tables)
  reported : call.inserted.map (·.write) =
    (call.outcomes.filter Prod.snd).map Prod.fst ++ call.unreported
  admissible : call.point ≠ .next → ∀ write ∈ call.todo.head?, Admissible context now write
  known : ∀ outcome ∈ call.outcomes,
    Admissible context now outcome.1 ∧ Known (call.visible tables) outcome.1
  projected : ∃ done,
    call.inserted.flatMap (projectInsertedInteraction context) = done ++ call.pendingWrites ∧
    (∀ key, call.visibleRow tables key = done.foldl upsertRow tables.rows key) ∧
    ∀ write ∈ done, call.rows write.key ≠ none

end InteractionBatch

def Accepted (results : List BatchResult) (write : InteractionEventWrite) : Prop :=
  ∃ outcomes, .recorded outcomes ∈ results ∧ write ∈ outcomes.map Prod.fst

structure Idempotent (context : AnalyticsContext) (s : AnalyticsState) : Prop where
  ids : (eventIds s.tables.events).Nodup
  stages : (stageKeys s.tables.events).Nodup
  rows : s.tables.rows = projectEvents context s.tables.events
  accepted : ∀ write, Accepted s.results write →
    Admissible context s.clock write ∧ Known s.tables.events write
  sessions : s.sessions.Sound (InteractionBatch.needs context) fun _ call =>
    call.Right context s.clock s.tables

inductive BatchMove (context : AnalyticsContext) (s : AnalyticsState) : AnalyticsState → Prop
  | refused (batch : List InteractionEventWrite) (hsize : batch = [] ∨ 50 < batch.length) :
      BatchMove context s { s with results := s.results ++ [.raised batch .batchSize] }
  | started (callId : Nat) (batch : List InteractionEventWrite)
      (hfree : s.sessions.calls callId = none) :
      BatchMove context s (s.put callId { batch := batch, todo := batch })
  | failed (callId : Nat) (call : InteractionBatch) (hcall : s.sessions.calls callId = some call) :
      BatchMove context s (s.raise callId call .database)
  | inadmissible (callId : Nat) (call : InteractionBatch) (write : InteractionEventWrite)
      (rest : List InteractionEventWrite) (now : Time) (error : InteractionError)
      (hcall : s.sessions.calls callId = some call) (htodo : call.todo = write :: rest)
      (hclock : s.clock ≤ now) (hwhy : ¬ Admissible context now write) :
      BatchMove context s ({ s with clock := now }.raise callId call error)
  | conflict (callId : Nat) (call : InteractionBatch) (write : InteractionEventWrite)
      (rest : List InteractionEventWrite) (now : Time) (existing : AnalyticsEvent)
      (hcall : s.sessions.calls callId = some call) (htodo : call.todo = write :: rest)
      (hclock : s.clock ≤ now) (hexisting : existing ∈ call.visible s.tables)
      (hid : existing.write.eventId = write.eventId)
      (hother : sameInteractionIdentity existing write = false) :
      BatchMove context s ({ s with clock := now }.raise callId call (.eventIdConflict write))
  | duplicate (callId : Nat) (call : InteractionBatch) (write : InteractionEventWrite)
      (rest : List InteractionEventWrite) (now : Time)
      (hcall : s.sessions.calls callId = some call) (htodo : call.todo = write :: rest)
      (hclock : s.clock ≤ now) (hpoint : ∀ writes, call.point ≠ .projecting writes)
      (hactor : call.point = .next → Admissible context now write)
      (hknown : Known (call.visible s.tables) write) :
      BatchMove context s ({ s with clock := now }.put callId (call.done write false))
  | checked (callId : Nat) (call : InteractionBatch) (write : InteractionEventWrite)
      (rest : List InteractionEventWrite) (now occurredAt : Time) (point : BatchPoint)
      (hcall : s.sessions.calls callId = some call) (htodo : call.todo = write :: rest)
      (hclock : s.clock ≤ now) (hnext : call.point = .next)
      (hactor : Admissible context now write)
      (hpoint : write.stageKey = none ∧ point = .inserting occurredAt ∨
        point = .awaitingStage occurredAt) :
      BatchMove context s ({ s with clock := now }.put callId { call with point := point })
  | stageLocked (callId : Nat) (call : InteractionBatch) (write : InteractionEventWrite)
      (rest : List InteractionEventWrite) (occurredAt : Time) (stageKey : ImpressionStageKey)
      (hcall : s.sessions.calls callId = some call) (htodo : call.todo = write :: rest)
      (hpoint : call.point = .awaitingStage occurredAt) (hkey : write.stageKey = some stageKey)
      (hlock : s.sessions.locks (.stage (context.advisoryHash stageKey)) = none ∨
        s.sessions.locks (.stage (context.advisoryHash stageKey)) = some callId) :
      BatchMove context s
        { s with
          sessions := s.sessions.take (.stage (context.advisoryHash stageKey)) callId
            { call with point := .stageLocked occurredAt } }
  | stageFree (callId : Nat) (call : InteractionBatch) (write : InteractionEventWrite)
      (rest : List InteractionEventWrite) (occurredAt : Time)
      (hcall : s.sessions.calls callId = some call) (htodo : call.todo = write :: rest)
      (hpoint : call.point = .stageLocked occurredAt)
      (hnew : ∀ event ∈ call.visible s.tables, event.write.stageKey ≠ write.stageKey) :
      BatchMove context s (s.put callId { call with point := .inserting occurredAt })
  | inserted (callId : Nat) (call : InteractionBatch) (write : InteractionEventWrite)
      (rest : List InteractionEventWrite) (occurredAt : Time)
      (hcall : s.sessions.calls callId = some call) (htodo : call.todo = write :: rest)
      (hpoint : call.point = .inserting occurredAt)
      (hnew : ∀ event ∈ call.visible s.tables, event.write.eventId ≠ write.eventId)
      (hlock : s.sessions.locks (.event write.eventId) = none ∨
        s.sessions.locks (.event write.eventId) = some callId) :
      BatchMove context s
        { s with
          sessions := s.sessions.take (.event write.eventId) callId
            { call with
              inserted := call.inserted ++ [⟨write, occurredAt⟩]
              point := .projecting (projectInsertedInteraction context ⟨write, occurredAt⟩) } }
  | wrote (callId : Nat) (call : InteractionBatch) (rowWrite : RowWrite) (writes : List RowWrite)
      (hcall : s.sessions.calls callId = some call)
      (hpoint : call.point = .projecting (rowWrite :: writes))
      (hlock : s.sessions.locks (.row rowWrite.key) = none ∨
        s.sessions.locks (.row rowWrite.key) = some callId) :
      BatchMove context s
        { s with
          sessions := s.sessions.take (.row rowWrite.key) callId
            { call with
              rows := Function.update call.rows rowWrite.key
                (some (rowWrite.written (call.visibleRow s.tables rowWrite.key)))
              point := .projecting writes } }
  | reported (callId : Nat) (call : InteractionBatch) (write : InteractionEventWrite)
      (rest : List InteractionEventWrite) (hcall : s.sessions.calls callId = some call)
      (htodo : call.todo = write :: rest) (hpoint : call.point = .projecting []) :
      BatchMove context s (s.put callId (call.done write true))
  | committed (callId : Nat) (call : InteractionBatch)
      (hcall : s.sessions.calls callId = some call) (hnext : call.point = .next)
      (htodo : call.todo = []) : BatchMove context s (s.commit callId call)

section Moves

variable {context : AnalyticsContext} {s t : AnalyticsState} {label : InteractionLabel}
  {callId : Nat} {call : InteractionBatch} {write : InteractionEventWrite}
  {rest : List InteractionEventWrite} {now occurredAt : Time} {lock : InteractionLock}

theorem acquire_eq_some (h : s.acquire lock callId call = some t) :
    (s.sessions.locks lock = none ∨ s.sessions.locks lock = some callId) ∧
      t = { s with sessions := s.sessions.take lock callId call } := by
  obtain ⟨hlock, heq⟩ := Option.ite_none_right_eq_some.mp h
  exact ⟨hlock, (Option.some.inj heq).symm⟩

theorem known_of_stage {events : List AnalyticsEvent} {stageKey : ImpressionStageKey}
    (hkey : write.stageKey = some stageKey)
    (h : ∃ event ∈ events, event.write.stageKey = write.stageKey) : Known events write := by
  obtain ⟨event, hevent, heq⟩ := h
  exact .inr ⟨stageKey, List.mem_filterMap.mpr ⟨event, hevent, heq.trans hkey⟩, hkey⟩

section Writes

variable (hcall : s.sessions.calls callId = some call) (htodo : call.todo = write :: rest)

include hcall htodo

theorem batchMove_found {existing : AnalyticsEvent}
    (hclock : s.clock ≤ now) (hpoint : ∀ writes, call.point ≠ .projecting writes)
    (hactor : call.point = .next → Admissible context now write)
    (hexisting : eventById (call.visible s.tables) write.eventId = some existing) :
    BatchMove context s ({ s with clock := now }.found callId call write existing) := by
  have hmem := List.mem_of_find?_eq_some hexisting
  have hid : existing.write.eventId = write.eventId := by
    simpa using List.find?_some hexisting
  unfold AnalyticsState.found
  by_cases hsame : sameInteractionIdentity existing write = true
  · rw [if_pos hsame]
    exact .duplicate callId call write rest now hcall htodo hclock hpoint hactor
      (.inl ⟨existing, hmem, hid, hsame⟩)
  · rw [if_neg hsame]
    exact .conflict callId call write rest now existing hcall htodo hclock hmem hid
      (Bool.eq_false_of_not_eq_true hsame)

theorem batchMove_check (hclock : s.clock ≤ now) (hnext : call.point = .next) :
    BatchMove context s
      (AnalyticsState.check context { s with clock := now } callId call write now) := by
  have hpoint : ∀ writes, call.point ≠ .projecting writes := by
    intro writes h
    rw [hnext] at h
    cases h
  unfold AnalyticsState.check
  cases hresolve : resolveActorContext context write with
  | error error =>
    refine .inadmissible callId call write rest now error hcall htodo hclock ?_
    rintro ⟨⟨actor, hok⟩, -⟩
    rw [hresolve] at hok
    cases hok
  | ok actor =>
    by_cases hfuture : isInFuture write now = true
    · simp only [hfuture, if_true]
      refine .inadmissible callId call write rest now _ hcall htodo hclock ?_
      rintro ⟨-, hpast⟩
      rw [hfuture] at hpast
      cases hpast
    have hactor : Admissible context now write :=
      ⟨⟨actor, hresolve⟩, Bool.eq_false_of_not_eq_true hfuture⟩
    simp only [hfuture, Bool.false_eq_true, if_false]
    cases hexisting : eventById (call.visible s.tables) write.eventId with
    | some existing => exact batchMove_found hcall htodo hclock hpoint (fun _ => hactor) hexisting
    | none =>
      refine .checked callId call write rest now (write.occurredAt.getD now) _ hcall htodo hclock
        hnext hactor ?_
      by_cases hkey : write.stageKey = none
      · exact .inl ⟨hkey, if_pos hkey⟩
      · exact .inr (if_neg hkey)

theorem batchMove_findStage {stageKey : ImpressionStageKey}
    (hpoint : call.point = .stageLocked occurredAt) (hkey : write.stageKey = some stageKey) :
    BatchMove context s (s.findStage callId call write occurredAt) := by
  have hprojecting : ∀ writes, call.point ≠ .projecting writes := by
    intro writes h
    rw [hpoint] at h
    cases h
  have hactor : call.point = .next → Admissible context s.clock write := by
    intro h
    rw [hpoint] at h
    cases h
  unfold AnalyticsState.findStage
  by_cases hstage : ((call.visible s.tables).any fun event =>
      event.write.stageKey = write.stageKey) = true
  · rw [if_pos hstage]
    cases hexisting : eventById (call.visible s.tables) write.eventId with
    | some existing =>
      exact batchMove_found hcall htodo (Nat.le_refl _) hprojecting hactor hexisting
    | none =>
      refine .duplicate callId call write rest s.clock hcall htodo (Nat.le_refl _) hprojecting
        hactor (known_of_stage hkey ?_)
      simpa only [List.any_eq_true, decide_eq_true_eq] using hstage
  rw [if_neg hstage]
  refine .stageFree callId call write rest occurredAt hcall htodo hpoint ?_
  intro event hevent heq
  exact hstage (List.any_eq_true.mpr ⟨event, hevent, decide_eq_true heq⟩)

theorem batchMove_insert (hpoint : call.point = .inserting occurredAt)
    (h : s.insert context callId call write occurredAt = some t) : BatchMove context s t := by
  unfold AnalyticsState.insert at h
  cases hexisting : eventById (call.visible s.tables) write.eventId with
  | some existing =>
    rw [hexisting] at h
    obtain rfl := Option.some.inj h
    refine batchMove_found hcall htodo (Nat.le_refl _) ?_ ?_ hexisting
    · intro writes heq
      rw [hpoint] at heq
      cases heq
    · intro heq
      rw [hpoint] at heq
      cases heq
  | none =>
    rw [hexisting] at h
    obtain ⟨hlock, rfl⟩ := acquire_eq_some h
    refine .inserted callId call write rest occurredAt hcall htodo hpoint ?_ hlock
    intro event hevent
    simpa using List.find?_eq_none.mp hexisting event hevent

theorem batchMove_project {writes : List RowWrite} (hpoint : call.point = .projecting writes)
    (h : s.project callId call write writes = some t) : BatchMove context s t := by
  cases writes with
  | nil =>
    obtain rfl := Option.some.inj h
    exact .reported callId call write rest hcall htodo hpoint
  | cons rowWrite writes =>
    obtain ⟨hlock, rfl⟩ := acquire_eq_some h
    exact .wrote callId call rowWrite writes hcall hpoint hlock

end Writes

theorem batchMove_of_step (h : interactionStep context s label = some t)
    (hstage : ∀ callId call occurredAt, s.sessions.calls callId = some call →
      call.point = .stageLocked occurredAt → ∀ write ∈ call.todo.head?, write.stageKey ≠ none) :
    BatchMove context s t := by
  cases label with
  | start callId batch =>
    obtain ⟨hfree, h⟩ := Option.ite_none_right_eq_some.mp h
    by_cases hsize : batch = [] ∨ 50 < batch.length
    · rw [if_pos hsize] at h
      obtain rfl := Option.some.inj h
      exact .refused batch hsize
    · rw [if_neg hsize] at h
      obtain rfl := Option.some.inj h
      exact .started callId batch hfree
  | check callId now =>
    simp only [interactionStep] at h
    split at h
    · cases h
    next call hcall =>
    split at h
    · next write rest hnext htodo =>
      obtain ⟨hclock, h⟩ := Option.ite_none_right_eq_some.mp h
      obtain rfl := Option.some.inj h
      exact batchMove_check hcall htodo hclock hnext
    · cases h
  | lockStage callId =>
    simp only [interactionStep] at h
    split at h
    · cases h
    next call hcall =>
    split at h
    · next occurredAt write rest hpoint htodo =>
      split at h
      · cases h
      next stageKey hkey =>
      obtain ⟨hlock, rfl⟩ := acquire_eq_some h
      exact .stageLocked callId call write rest occurredAt stageKey hcall htodo hpoint hkey
        hlock
    · cases h
  | findStage callId =>
    simp only [interactionStep] at h
    split at h
    · cases h
    next call hcall =>
    split at h
    · next occurredAt write rest hpoint htodo =>
      obtain rfl := Option.some.inj h
      have hhead : write ∈ call.todo.head? := by rw [htodo]; rfl
      obtain ⟨stageKey, hkey⟩ :=
        Option.ne_none_iff_exists'.mp (hstage callId call occurredAt hcall hpoint write hhead)
      exact batchMove_findStage hcall htodo hpoint hkey
    · cases h
  | insert callId =>
    simp only [interactionStep] at h
    split at h
    · cases h
    next call hcall =>
    split at h
    · next occurredAt write rest hpoint htodo => exact batchMove_insert hcall htodo hpoint h
    · cases h
  | project callId =>
    simp only [interactionStep] at h
    split at h
    · cases h
    next call hcall =>
    split at h
    · next writes write rest hpoint htodo => exact batchMove_project hcall htodo hpoint h
    · cases h
  | commit callId =>
    simp only [interactionStep] at h
    split at h
    · cases h
    next call hcall =>
    obtain ⟨⟨hnext, htodo⟩, h⟩ := Option.ite_none_right_eq_some.mp h
    obtain rfl := Option.some.inj h
    exact .committed callId call hcall hnext htodo
  | abort callId =>
    simp only [interactionStep] at h
    split at h
    · cases h
    next call hcall =>
    obtain rfl := Option.some.inj h
    exact .failed callId call hcall

end Moves

section Right

variable {context : AnalyticsContext} {tables : AnalyticsTables} {call found : InteractionBatch}
  {write : InteractionEventWrite} {rest : List InteractionEventWrite} {now moment occurredAt : Time}
  {events more : List AnalyticsEvent}

theorem eventIds_append : eventIds (events ++ more) = eventIds events ++ eventIds more :=
  List.map_append

theorem stageKeys_append : stageKeys (events ++ more) = stageKeys events ++ stageKeys more :=
  List.filterMap_append

theorem Admissible.later (h : Admissible context now write) (hclock : now ≤ moment) :
    Admissible context moment write := by
  obtain ⟨hactor, hpast⟩ := h
  refine ⟨hactor, ?_⟩
  cases hoccurred : write.occurredAt with
  | none => simp [isInFuture, hoccurred]
  | some occurredAt =>
    simp only [isInFuture, hoccurred, Option.any_some, decide_eq_false_iff_not, not_lt] at hpast ⊢
    exact hpast.trans (Nat.add_le_add_right hclock _)

theorem Known.mono (h : Known events write) (hsub : ∀ event ∈ events, event ∈ more) :
    Known more write := by
  rcases h with ⟨event, hevent, hsame⟩ | ⟨stageKey, hmem, hkey⟩
  · exact .inl ⟨event, hsub event hevent, hsame⟩
  · obtain ⟨event, hevent, heq⟩ := List.mem_filterMap.mp hmem
    exact .inr ⟨stageKey, List.mem_filterMap.mpr ⟨event, hsub event hevent, heq⟩, hkey⟩

namespace InteractionBatch

variable {event : AnalyticsEvent}

theorem mem_visible (h : event ∈ tables.events) : event ∈ call.visible tables :=
  List.mem_append_left _ h

theorem Right.later (h : call.Right context now tables) (hclock : now ≤ moment) :
    call.Right context moment tables :=
  { h with
    admissible := fun hpoint write hwrite => (h.admissible hpoint write hwrite).later hclock
    known := fun outcome houtcome =>
      ⟨(h.known outcome houtcome).1.later hclock, (h.known outcome houtcome).2⟩ }

theorem right_start (batch : List InteractionEventWrite) (hids : (eventIds tables.events).Nodup)
    (hstages : (stageKeys tables.events).Nodup) :
    Right context now tables { batch := batch, todo := batch } where
  batch_eq := rfl
  ids := by rwa [visible, List.append_nil]
  stages := by rwa [visible, List.append_nil]
  staged occurredAt hpoint := by cases hpoint
  fresh occurredAt hpoint := by cases hpoint
  reported := rfl
  admissible hpoint := (hpoint rfl).elim
  known outcome houtcome := (List.not_mem_nil houtcome).elim
  projected := ⟨[], rfl, fun _ => rfl, fun write hwrite => (List.not_mem_nil hwrite).elim⟩

theorem unreported_of_ne (hpoint : ∀ writes, call.point ≠ .projecting writes) :
    call.unreported = [] := by
  unfold unreported
  split
  · next writes heq => exact (hpoint writes heq).elim
  · rfl

theorem pendingWrites_of_ne (hpoint : ∀ writes, call.point ≠ .projecting writes) :
    call.pendingWrites = [] := by
  unfold pendingWrites
  split
  · next writes heq => exact (hpoint writes heq).elim
  · rfl

section Moves

variable (h : call.Right context now tables)

include h

theorem Right.projected_of_ne {moved : InteractionBatch}
    (hpoint : ∀ writes, call.point ≠ .projecting writes)
    (hmoved : ∀ writes, moved.point ≠ .projecting writes)
    (hinserted : moved.inserted = call.inserted) (hrows : moved.rows = call.rows) :
    ∃ done,
      moved.inserted.flatMap (projectInsertedInteraction context) = done ++ moved.pendingWrites ∧
      (∀ key, moved.visibleRow tables key = done.foldl upsertRow tables.rows key) ∧
      ∀ write ∈ done, moved.rows write.key ≠ none := by
  obtain ⟨done, hdone, hvisible, hlocked⟩ := h.projected
  rw [pendingWrites_of_ne hpoint] at hdone
  refine ⟨done, ?_, ?_, ?_⟩
  · rw [hinserted, pendingWrites_of_ne hmoved, hdone]
  · intro key
    rw [visibleRow, hrows]
    exact hvisible key
  · rwa [hrows]

theorem Right.duplicate (htodo : call.todo = write :: rest)
    (hpoint : ∀ writes, call.point ≠ .projecting writes)
    (hactor : call.point = .next → Admissible context now write)
    (hknown : Known (call.visible tables) write) :
    (call.done write false).Right context now tables where
  batch_eq := by
    have hbatch := h.batch_eq
    rw [htodo] at hbatch
    simpa [done, htodo] using hbatch
  ids := h.ids
  stages := h.stages
  staged occurredAt hpoint := by cases hpoint
  fresh occurredAt hpoint := by cases hpoint
  reported := by
    have hreported := h.reported
    rw [unreported_of_ne hpoint] at hreported
    simpa [done, unreported] using hreported
  admissible hnext := (hnext rfl).elim
  known outcome houtcome := by
    rcases List.mem_append.mp houtcome with hold | hnew
    · exact h.known outcome hold
    rw [List.mem_singleton.mp hnew]
    refine ⟨?_, hknown⟩
    by_cases hnext : call.point = .next
    · exact hactor hnext
    · exact h.admissible hnext write (by rw [htodo]; rfl)
  projected := h.projected_of_ne hpoint (fun writes heq => by cases heq) rfl rfl

theorem Right.move {point : BatchPoint} (hpoint : ∀ writes, call.point ≠ .projecting writes)
    (hmoved : ∀ writes, point ≠ .projecting writes)
    (hactor : ∀ write ∈ call.todo.head?, Admissible context now write)
    (hstaged : ∀ occurredAt, point = .stageLocked occurredAt → ∀ write ∈ call.todo.head?,
      write.stageKey ≠ none)
    (hfresh : ∀ occurredAt, point = .inserting occurredAt → ∀ write ∈ call.todo.head?,
      ∀ stageKey, write.stageKey = some stageKey → stageKey ∉ stageKeys (call.visible tables)) :
    ({ call with point := point } : InteractionBatch).Right context now tables where
  batch_eq := h.batch_eq
  ids := h.ids
  stages := h.stages
  staged := hstaged
  fresh := hfresh
  reported := by
    rw [unreported_of_ne hmoved]
    rw [← unreported_of_ne hpoint]
    exact h.reported
  admissible _ := hactor
  known := h.known
  projected := h.projected_of_ne hpoint hmoved rfl rfl

theorem Right.inserted (htodo : call.todo = write :: rest)
    (hpoint : call.point = .inserting occurredAt)
    (hnew : ∀ event ∈ call.visible tables, event.write.eventId ≠ write.eventId) :
    ({ call with
        inserted := call.inserted ++ [⟨write, occurredAt⟩]
        point := .projecting (projectInsertedInteraction context ⟨write, occurredAt⟩) } :
      InteractionBatch).Right context now tables := by
  have hbefore : ∀ writes, call.point ≠ .projecting writes := by
    intro writes heq
    rw [hpoint] at heq
    cases heq
  have hvisible : tables.events ++ (call.inserted ++ [⟨write, occurredAt⟩]) =
      call.visible tables ++ [⟨write, occurredAt⟩] := (List.append_assoc ..).symm
  refine
    { batch_eq := h.batch_eq
      ids := ?ids
      stages := ?stages
      staged := fun occurredAt hpoint => by cases hpoint
      fresh := fun occurredAt hpoint => by cases hpoint
      reported := ?reported
      admissible := fun _ => h.admissible (by rw [hpoint]; exact BatchPoint.noConfusion)
      known := ?known
      projected := ?projected }
  case ids =>
    rw [visible, hvisible, eventIds_append, List.nodup_append]
    refine ⟨h.ids, List.nodup_singleton _, ?_⟩
    intro eventId hmem other hother heq
    obtain ⟨event, hevent, rfl⟩ := List.mem_map.mp hmem
    exact hnew event hevent (heq.trans (List.mem_singleton.mp hother))
  case stages =>
    rw [visible, hvisible, stageKeys_append, List.nodup_append]
    refine ⟨h.stages, ?_, ?_⟩
    · rw [stageKeys, List.filterMap_cons]
      cases write.stageKey with
      | none => exact List.nodup_nil
      | some stageKey => exact List.nodup_singleton _
    rintro stageKey hmem _ hother rfl
    obtain ⟨event, hevent, hkey⟩ := List.mem_filterMap.mp hother
    rw [List.mem_singleton.mp hevent] at hkey
    exact h.fresh occurredAt hpoint write (by rw [htodo]; rfl) stageKey hkey hmem
  case reported =>
    have hreported := h.reported
    rw [unreported_of_ne hbefore, List.append_nil] at hreported
    rw [List.map_append, hreported]
    simp [unreported, htodo]
  case known =>
    intro outcome houtcome
    obtain ⟨hactor, hknown⟩ := h.known outcome houtcome
    refine ⟨hactor, hknown.mono fun event hevent => ?_⟩
    rw [visible, hvisible]
    exact List.mem_append_left _ hevent
  case projected =>
    obtain ⟨done, hdone, hrow, hlocked⟩ := h.projected
    rw [pendingWrites_of_ne hbefore, List.append_nil] at hdone
    refine ⟨done, ?_, hrow, hlocked⟩
    rw [List.flatMap_append, hdone, List.flatMap_singleton]
    rfl

theorem Right.wrote {rowWrite : RowWrite} {writes : List RowWrite} (hpoint : call.point = .projecting (rowWrite :: writes)) :
    ({ call with
        rows := Function.update call.rows rowWrite.key
          (some (rowWrite.written (call.visibleRow tables rowWrite.key)))
        point := .projecting writes } : InteractionBatch).Right context now tables where
  batch_eq := h.batch_eq
  ids := h.ids
  stages := h.stages
  staged occurredAt hpoint := by cases hpoint
  fresh occurredAt hpoint := by cases hpoint
  reported := by
    have hreported := h.reported
    rwa [unreported, hpoint] at hreported
  admissible _ := h.admissible (by rw [hpoint]; exact BatchPoint.noConfusion)
  known := h.known
  projected := by
    obtain ⟨done, hdone, hrow, hlocked⟩ := h.projected
    refine ⟨done ++ [rowWrite], ?_, ?_, ?_⟩
    · rw [hdone, pendingWrites, hpoint, List.append_assoc]
      rfl
    · intro key
      rw [List.foldl_append, List.foldl_cons, List.foldl_nil]
      dsimp only [visibleRow]
      by_cases hkey : key = rowWrite.key
      · subst hkey
        rw [Function.update_self, upsertRow_self, ← hrow]
        rfl
      · rw [Function.update_of_ne hkey, upsertRow_of_ne hkey, ← hrow]
        rfl
    · intro written hwritten
      by_cases hkey : written.key = rowWrite.key
      · dsimp only
        rw [hkey, Function.update_self]
        exact Option.some_ne_none _
      dsimp only
      rw [Function.update_of_ne hkey]
      rcases List.mem_append.mp hwritten with hold | hnew
      · exact hlocked written hold
      · exact (hkey (congrArg RowWrite.key (List.mem_singleton.mp hnew))).elim

theorem Right.reportedInserted
    (htodo : call.todo = write :: rest) (hpoint : call.point = .projecting []) :
    (call.done write true).Right context now tables := by
  have hwrites : call.inserted.map (·.write) =
      (call.outcomes.filter Prod.snd).map Prod.fst ++ [write] := by
    have hreported := h.reported
    rwa [unreported, hpoint, htodo] at hreported
  refine
    { batch_eq := ?batch
      ids := h.ids
      stages := h.stages
      staged := fun occurredAt hpoint => by cases hpoint
      fresh := fun occurredAt hpoint => by cases hpoint
      reported := ?reported
      admissible := fun hnext => (hnext rfl).elim
      known := ?known
      projected := ?projected }
  case batch =>
    have hbatch := h.batch_eq
    rw [htodo] at hbatch
    simpa [done, htodo] using hbatch
  case reported => simpa [done, unreported] using hwrites
  case known =>
    intro outcome houtcome
    rcases List.mem_append.mp houtcome with hold | hnew
    · exact h.known outcome hold
    rw [List.mem_singleton.mp hnew]
    have hne : call.point ≠ .next := by rw [hpoint]; exact BatchPoint.noConfusion
    refine ⟨h.admissible hne write (by rw [htodo]; rfl), ?_⟩
    have hmem : write ∈ call.inserted.map (·.write) := by
      rw [hwrites]
      exact List.mem_append_right _ List.mem_cons_self
    obtain ⟨event, hevent, rfl⟩ := List.mem_map.mp hmem
    exact .inl ⟨event, List.mem_append_right _ hevent, rfl, by simp [sameInteractionIdentity]⟩
  case projected =>
    have hprojected := h.projected
    rwa [pendingWrites, hpoint] at hprojected

end Moves

theorem nodup_beside {α : Type} {first second third : List α} (hfirst : (first ++ second).Nodup)
    (hother : (first ++ third).Nodup) (h : ∀ item ∈ second, item ∉ third) :
    ((first ++ second) ++ third).Nodup := by
  obtain ⟨-, hthird, hapart⟩ := List.nodup_append.mp hother
  refine List.nodup_append.mpr ⟨hfirst, hthird, ?_⟩
  rintro item hitem _ hmem rfl
  rcases List.mem_append.mp hitem with hitem | hitem
  · exact hapart item hitem item hmem rfl
  · exact h item hitem hmem

theorem Right.beside (h : found.Right context now tables) (hcall : call.Right context now tables)
    (hapart : ∀ lock, found.needs context lock → ¬ call.needs context lock) :
    found.Right context now ⟨call.visible tables, call.visibleRow tables⟩ where
  batch_eq := h.batch_eq
  ids := by
    have hids := h.ids
    have hcallIds := hcall.ids
    rw [visible, eventIds_append] at hids hcallIds ⊢
    rw [visible, eventIds_append]
    refine nodup_beside hcallIds hids ?_
    intro eventId hmem hfound
    exact hapart (.event eventId) hfound hmem
  stages := by
    have hstages := h.stages
    have hcallStages := hcall.stages
    rw [visible, stageKeys_append] at hstages hcallStages ⊢
    rw [visible, stageKeys_append]
    refine nodup_beside hcallStages hstages ?_
    intro stageKey hmem hfound
    exact hapart (.stage (context.advisoryHash stageKey)) ⟨stageKey, .inr hfound, rfl⟩
      ⟨stageKey, .inr hmem, rfl⟩
  staged := h.staged
  fresh occurredAt hpoint write hwrite stageKey hkey hmem := by
    have hfresh := h.fresh occurredAt hpoint write hwrite stageKey hkey
    rw [visible, stageKeys_append, List.mem_append, not_or] at hfresh
    rw [visible, visible, stageKeys_append, stageKeys_append, List.mem_append,
      List.mem_append] at hmem
    obtain ⟨hstored, hfound⟩ := hfresh
    have hchecked : found.checkedStage = some stageKey := by
      rw [checkedStage, hpoint, Option.mem_def.mp hwrite]
      exact hkey
    have hinserted := (hmem.resolve_right hfound).resolve_left hstored
    exact hapart (.stage (context.advisoryHash stageKey)) ⟨stageKey, .inl hchecked, rfl⟩
      ⟨stageKey, .inr hinserted, rfl⟩
  reported := h.reported
  admissible := h.admissible
  known outcome houtcome := by
    obtain ⟨hactor, hknown⟩ := h.known outcome houtcome
    refine ⟨hactor, hknown.mono fun event hevent => ?_⟩
    rcases List.mem_append.mp hevent with hevent | hevent
    · exact List.mem_append_left _ (List.mem_append_left _ hevent)
    · exact List.mem_append_right _ hevent
  projected := by
    obtain ⟨done, hdone, hrow, hlocked⟩ := h.projected
    refine ⟨done, hdone, ?_, hlocked⟩
    intro key
    cases hkey : found.rows key with
    | none =>
      have hne : ∀ write ∈ done, write.key ≠ key := by
        rintro write hwrite rfl
        exact hlocked write hwrite hkey
      rw [visibleRow, hkey, Option.none_or, foldl_upsertRow_of_ne hne]
    | some row =>
      have hheld : found.needs context (.row key) := by
        change found.rows key ≠ none
        rw [hkey]
        exact Option.some_ne_none row
      have hspared : call.rows key = none := Classical.not_not.mp (hapart (.row key) hheld)
      have hsame : tables.rows key = call.visibleRow tables key := by
        rw [visibleRow, hspared, Option.none_or]
      rw [← foldl_upsertRow_congr hsame, ← hrow key, visibleRow, visibleRow, hkey, Option.some_or,
        Option.some_or]

end InteractionBatch

end Right

section Runs

variable {context : AnalyticsContext} {s t : AnalyticsState} {callId : Nat}
  {call : InteractionBatch} {now : Time} {write : InteractionEventWrite}
  {error : InteractionError} {label : InteractionLabel}

variable {batch : List InteractionEventWrite}

theorem accepted_raised {results : List BatchResult}
    (h : Accepted (results ++ [.raised batch error]) write) : Accepted results write := by
  obtain ⟨outcomes, hmem, hwrite⟩ := h
  rcases List.mem_append.mp hmem with hold | hnew
  · exact ⟨outcomes, hold, hwrite⟩
  · cases List.mem_singleton.mp hnew

namespace Idempotent

section Kept

variable (hs : Idempotent context s)

include hs

theorem later (hclock : s.clock ≤ now) : Idempotent context { s with clock := now } where
  ids := hs.ids
  stages := hs.stages
  rows := hs.rows
  accepted write hwrite := ⟨(hs.accepted write hwrite).1.later hclock, (hs.accepted write hwrite).2⟩
  sessions := hs.sessions.imp fun _ _ _ hright => hright.later hclock

theorem refuse : Idempotent context { s with results := s.results ++ [.raised batch error] } where
  ids := hs.ids
  stages := hs.stages
  rows := hs.rows
  accepted write hwrite := hs.accepted write (accepted_raised hwrite)
  sessions := hs.sessions

theorem raise : Idempotent context (s.raise callId call error) where
  ids := hs.ids
  stages := hs.stages
  rows := hs.rows
  accepted write hwrite := hs.accepted write (accepted_raised hwrite)
  sessions := hs.sessions.drop fun _ _ _ _ hright => hright

theorem put (hneeds : ∀ lock, call.needs context lock → s.sessions.locks lock = some callId)
    (hright : call.Right context s.clock s.tables) : Idempotent context (s.put callId call) where
  ids := hs.ids
  stages := hs.stages
  rows := hs.rows
  accepted := hs.accepted
  sessions := hs.sessions.put hneeds hright

theorem acquire {lock : InteractionLock}
    (hlock : s.sessions.locks lock = none ∨ s.sessions.locks lock = some callId)
    (hneeds : ∀ other, call.needs context other →
      other = lock ∨ s.sessions.locks other = some callId)
    (hright : call.Right context s.clock s.tables) :
    Idempotent context { s with sessions := s.sessions.take lock callId call } where
  ids := hs.ids
  stages := hs.stages
  rows := hs.rows
  accepted := hs.accepted
  sessions := hs.sessions.acquire hlock hneeds hright

theorem commit (hcall : s.sessions.calls callId = some call)
    (hnext : call.point = .next) : Idempotent context (s.commit callId call) := by
  have hright := hs.sessions.right callId call hcall
  refine
    { ids := hright.ids
      stages := hright.stages
      rows := ?rows
      accepted := ?accepted
      sessions := hs.sessions.drop fun other found hne hfound hold => hold.beside hright ?apart }
  case rows =>
    obtain ⟨done, hdone, hrow, -⟩ := hright.projected
    rw [InteractionBatch.pendingWrites, hnext, List.append_nil] at hdone
    funext key
    calc call.visibleRow s.tables key
        = done.foldl upsertRow s.tables.rows key := hrow key
      _ = (call.inserted.flatMap (projectInsertedInteraction context)).foldl upsertRow
            (projectEvents context s.tables.events) key := by rw [hdone, hs.rows]
      _ = projectEvents context (call.visible s.tables) key := by
          rw [InteractionBatch.visible, projectEvents_append]
  case accepted =>
    rintro write ⟨outcomes, hmem, hwrite⟩
    rcases List.mem_append.mp hmem with hold | hnew
    · obtain ⟨hactor, hknown⟩ := hs.accepted write ⟨outcomes, hold, hwrite⟩
      exact ⟨hactor, hknown.mono fun event hevent => InteractionBatch.mem_visible hevent⟩
    cases List.mem_singleton.mp hnew
    obtain ⟨outcome, houtcome, rfl⟩ := List.mem_map.mp hwrite
    exact hright.known outcome houtcome
  case apart =>
    intro lock hneeds hother
    exact hne (hs.sessions.eq_of_needs hcall hfound hother hneeds)

end Kept

end Idempotent

theorem needs_of_put {moved : InteractionBatch} {lock : InteractionLock}
    (h : moved.needs context lock)
    (hchecked : moved.checkedStage = none ∨ moved.checkedStage = call.checkedStage)
    (hinserted : moved.inserted = call.inserted) (hrows : moved.rows = call.rows) :
    call.needs context lock := by
  cases lock with
  | event eventId =>
    change eventId ∈ eventIds moved.inserted at h
    rwa [hinserted] at h
  | stage hash =>
    obtain ⟨stageKey, hkey | hkey, hhash⟩ := h
    · rcases hchecked with hnone | hsame
      · rw [hnone] at hkey
        cases hkey
      · exact ⟨stageKey, .inl (hsame ▸ hkey), hhash⟩
    · exact ⟨stageKey, .inr (hinserted ▸ hkey), hhash⟩
  | row key =>
    change moved.rows key ≠ none at h
    rwa [hrows] at h

theorem idempotent_of_move (hs : Idempotent context s) (hmove : BatchMove context s t) :
    Idempotent context t := by
  cases hmove with
  | refused batch hsize => exact hs.refuse
  | started callId batch hfree =>
    refine hs.put ?_ (InteractionBatch.right_start batch hs.ids hs.stages)
    rintro (eventId | hash | key) hneeds
    · exact (List.not_mem_nil hneeds).elim
    · obtain ⟨stageKey, hkey | hkey, -⟩ := hneeds
      · cases hkey
      · exact (List.not_mem_nil hkey).elim
    · exact (hneeds rfl).elim
  | failed callId call hcall => exact hs.raise
  | inadmissible callId call write rest now error hcall htodo hclock hwhy =>
    exact (hs.later hclock).raise
  | conflict callId call write rest now existing hcall htodo hclock hexisting hid hother =>
    exact (hs.later hclock).raise
  | duplicate callId call write rest now hcall htodo hclock hpoint hactor hknown =>
    have hlater := hs.later hclock
    refine hlater.put ?_
      ((hlater.sessions.right callId call hcall).duplicate htodo hpoint hactor hknown)
    intro lock hneeds
    exact hs.sessions.held callId call lock hcall (needs_of_put hneeds (.inl rfl) rfl rfl)
  | checked callId call write rest now occurredAt point hcall htodo hclock hnext hactor hpoint =>
    have hhead : ∀ found ∈ call.todo.head?, found = write := by
      rw [htodo]
      exact fun found hfound => (Option.some.inj hfound).symm
    have hlater := hs.later hclock
    refine hlater.put ?_ ((hlater.sessions.right callId call hcall).move ?_ ?_ ?_ ?_ ?_)
    · intro lock hneeds
      refine hs.sessions.held callId call lock hcall (needs_of_put hneeds (.inl ?_) rfl rfl)
      rcases hpoint with ⟨hkey, rfl⟩ | rfl
      · rw [InteractionBatch.checkedStage, htodo]
        exact hkey
      · rfl
    · intro writes heq
      rw [hnext] at heq
      cases heq
    · intro writes heq
      rcases hpoint with ⟨-, rfl⟩ | rfl <;> cases heq
    · intro found hfound
      rw [hhead found hfound]
      exact hactor
    · intro moment heq
      rcases hpoint with ⟨-, rfl⟩ | rfl <;> cases heq
    intro moment heq found hfound stageKey hstage
    rw [hhead found hfound] at hstage
    rcases hpoint with ⟨hkey, -⟩ | rfl
    · rw [hkey] at hstage
      cases hstage
    · cases heq
  | stageLocked callId call write rest occurredAt stageKey hcall htodo hpoint hkey hlock =>
    have hright := hs.sessions.right callId call hcall
    refine hs.acquire hlock ?_ (hright.move ?_ ?_ ?_ ?_ ?_)
    · intro other hneeds
      cases other with
      | event eventId => exact .inr (hs.sessions.held callId call _ hcall hneeds)
      | stage hash =>
        obtain ⟨found, hfound | hfound, rfl⟩ := hneeds
        · rw [InteractionBatch.checkedStage, htodo] at hfound
          obtain rfl := Option.some.inj (hkey.symm.trans hfound)
          exact .inl rfl
        · exact .inr (hs.sessions.held callId call _ hcall ⟨found, .inr hfound, rfl⟩)
      | row key => exact .inr (hs.sessions.held callId call _ hcall hneeds)
    · intro writes heq
      rw [hpoint] at heq
      cases heq
    · exact fun writes heq => BatchPoint.noConfusion heq
    · exact hright.admissible (by rw [hpoint]; exact BatchPoint.noConfusion)
    · intro moment heq found hfound hnone
      rw [htodo] at hfound
      obtain rfl := Option.some.inj hfound
      rw [hkey] at hnone
      cases hnone
    · exact fun moment heq => BatchPoint.noConfusion heq
  | stageFree callId call write rest occurredAt hcall htodo hpoint hnew =>
    have hright := hs.sessions.right callId call hcall
    refine hs.put ?_ (hright.move ?_ ?_ ?_ ?_ ?_)
    · intro lock hneeds
      refine hs.sessions.held callId call lock hcall (needs_of_put hneeds (.inr ?_) rfl rfl)
      simp only [InteractionBatch.checkedStage, hpoint]
    · intro writes heq
      rw [hpoint] at heq
      cases heq
    · exact fun writes heq => BatchPoint.noConfusion heq
    · exact hright.admissible (by rw [hpoint]; exact BatchPoint.noConfusion)
    · exact fun moment heq => BatchPoint.noConfusion heq
    intro moment heq found hfound stageKey hstage hmem
    rw [htodo] at hfound
    obtain rfl := Option.some.inj hfound
    obtain ⟨event, hevent, hsame⟩ := List.mem_filterMap.mp hmem
    exact hnew event hevent (hsame.trans hstage.symm)
  | inserted callId call write rest occurredAt hcall htodo hpoint hnew hlock =>
    refine hs.acquire hlock ?_
      ((hs.sessions.right callId call hcall).inserted htodo hpoint hnew)
    intro other hneeds
    cases other with
    | event eventId =>
      change eventId ∈ eventIds (call.inserted ++ [⟨write, occurredAt⟩]) at hneeds
      rw [eventIds_append] at hneeds
      rcases List.mem_append.mp hneeds with hold | hnew
      · exact .inr (hs.sessions.held callId call (.event eventId) hcall hold)
      · exact .inl (congrArg InteractionLock.event (List.mem_singleton.mp hnew))
    | stage hash =>
      refine .inr (hs.sessions.held callId call (.stage hash) hcall ?_)
      obtain ⟨stageKey, hkey | hkey, rfl⟩ := hneeds
      · cases hkey
      change stageKey ∈ stageKeys (call.inserted ++ [⟨write, occurredAt⟩]) at hkey
      rw [stageKeys_append] at hkey
      rcases List.mem_append.mp hkey with hold | hnew
      · exact ⟨stageKey, .inr hold, rfl⟩
      obtain ⟨event, hevent, hsame⟩ := List.mem_filterMap.mp hnew
      rw [List.mem_singleton.mp hevent] at hsame
      refine ⟨stageKey, .inl ?_, rfl⟩
      rw [InteractionBatch.checkedStage, hpoint, htodo]
      exact hsame
    | row key => exact .inr (hs.sessions.held callId call (.row key) hcall hneeds)
  | wrote callId call rowWrite writes hcall hpoint hlock =>
    refine hs.acquire hlock ?_ ((hs.sessions.right callId call hcall).wrote hpoint)
    intro other hneeds
    cases other with
    | event eventId => exact .inr (hs.sessions.held callId call (.event eventId) hcall hneeds)
    | stage hash =>
      refine .inr (hs.sessions.held callId call (.stage hash) hcall ?_)
      obtain ⟨stageKey, hkey | hkey, rfl⟩ := hneeds
      · cases hkey
      · exact ⟨stageKey, .inr hkey, rfl⟩
    | row key =>
      by_cases hkey : key = rowWrite.key
      · exact .inl (congrArg InteractionLock.row hkey)
      refine .inr (hs.sessions.held callId call (.row key) hcall ?_)
      change Function.update call.rows rowWrite.key _ key ≠ none at hneeds
      rwa [Function.update_of_ne hkey] at hneeds
  | reported callId call write rest hcall htodo hpoint =>
    refine hs.put ?_
      ((hs.sessions.right callId call hcall).reportedInserted htodo hpoint)
    intro lock hneeds
    exact hs.sessions.held callId call lock hcall (needs_of_put hneeds (.inl rfl) rfl rfl)
  | committed callId call hcall hnext htodo => exact hs.commit hcall hnext

theorem Idempotent.move (hs : Idempotent context s)
    (hstep : interactionStep context s label = some t) : BatchMove context s t :=
  batchMove_of_step hstep fun callId call occurredAt hcall hpoint =>
    (hs.sessions.right callId call hcall).staged occurredAt hpoint

theorem idempotent_start : Idempotent context {} where
  ids := List.nodup_nil
  stages := List.nodup_nil
  rows := rfl
  accepted write hwrite := by
    obtain ⟨outcomes, hmem, -⟩ := hwrite
    exact (List.not_mem_nil hmem).elim
  sessions := Sessions.sound_of_calls_none fun _ => rfl

variable {event : AnalyticsEvent}

theorem InteractionBatch.Right.mem_batch {tables : AnalyticsTables}
    (h : call.Right context now tables) (hevent : event ∈ call.inserted) :
    event.write ∈ call.batch := by
  have hmem : event.write ∈ call.inserted.map (·.write) := List.mem_map_of_mem hevent
  rw [h.reported] at hmem
  rw [← h.batch_eq]
  rcases List.mem_append.mp hmem with hmem | hmem
  · obtain ⟨outcome, houtcome, heq⟩ := List.mem_map.mp hmem
    rw [← heq]
    exact List.mem_append_left _ (List.mem_map_of_mem (List.mem_of_mem_filter houtcome))
  refine List.mem_append_right _ ?_
  unfold InteractionBatch.unreported at hmem
  split at hmem
  · exact List.mem_of_mem_take hmem
  · exact (List.not_mem_nil hmem).elim

theorem InteractionBatch.Right.not_known {tables : AnalyticsTables}
    (h : call.Right context now tables) (hevent : event ∈ call.inserted) :
    ¬ Known tables.events event.write := by
  rintro (⟨stored, hstored, hid, -⟩ | ⟨stageKey, hmem, hkey⟩)
  · have hids := h.ids
    rw [visible, eventIds_append] at hids
    exact (List.nodup_append.mp hids).2.2 _ (List.mem_map_of_mem hstored) _
      (List.mem_map_of_mem hevent) hid
  have hstages := h.stages
  rw [visible, stageKeys_append] at hstages
  exact (List.nodup_append.mp hstages).2.2 _ hmem _
    (List.mem_filterMap.mpr ⟨event, hevent, hkey⟩) rfl

theorem InteractionBatch.Right.inserted_eq_nil {tables : AnalyticsTables}
    (h : call.Right context now tables)
    (hknown : ∀ write ∈ call.batch, Known tables.events write) : call.inserted = [] :=
  List.eq_nil_iff_forall_not_mem.mpr fun _ hevent =>
    h.not_known hevent (hknown _ (h.mem_batch hevent))

theorem commit_tables_eq (hs : Idempotent context s)
    (hcall : s.sessions.calls callId = some call)
    (hknown : ∀ write ∈ call.batch, Known s.tables.events write) :
    (s.commit callId call).tables = s.tables := by
  have hright := hs.sessions.right callId call hcall
  have hinserted := hright.inserted_eq_nil hknown
  obtain ⟨done, hdone, hrow, -⟩ := hright.projected
  rw [hinserted, List.flatMap_nil] at hdone
  have hnone : done = [] := (List.append_eq_nil_iff.mp hdone.symm).1
  rw [hnone] at hrow
  have hrows : call.visibleRow s.tables = s.tables.rows := funext hrow
  rw [AnalyticsState.commit, InteractionBatch.visible, hinserted, List.append_nil, hrows]

/-- The batch of accepted events is refused for its size, or for an event whose UUID
stands for another one, or the database fails it. -/
def RefusedAgain (events : List AnalyticsEvent) (batch : List InteractionEventWrite)
    (error : InteractionError) : Prop :=
  error = .database ∨ (error = .batchSize ∧ (batch = [] ∨ 50 < batch.length)) ∨
    ∃ write ∈ batch, error = .eventIdConflict write ∧ ∃ event ∈ events,
      event.write.eventId = write.eventId ∧ sameInteractionIdentity event write = false

theorem mem_batch_of_todo {rest : List InteractionEventWrite} (hs : Idempotent context s)
    (hcall : s.sessions.calls callId = some call) (htodo : call.todo = write :: rest) :
    write ∈ call.batch := by
  rw [← (hs.sessions.right callId call hcall).batch_eq, htodo]
  exact List.mem_append_right _ List.mem_cons_self

theorem append_singleton_ne {α : Type} (items : List α) (item : α) : items ≠ items ++ [item] :=
  fun h => List.cons_ne_nil item [] (List.self_eq_append_right.mp h)

theorem raised_of_move (hs : Idempotent context s) (hmove : BatchMove context s t)
    (h : t.results = s.results ++ [.raised batch error])
    (haccepted : ∀ write ∈ batch, Accepted s.results write) :
    RefusedAgain s.tables.events batch error := by
  cases hmove with
  | refused _ hsize =>
    cases List.append_cancel_left h
    exact .inr (.inl ⟨rfl, hsize⟩)
  | failed callId call hcall =>
    cases List.append_cancel_left h
    exact .inl rfl
  | inadmissible callId call write rest now error hcall htodo hclock hwhy =>
    cases List.append_cancel_left h
    have hwrite := haccepted write (mem_batch_of_todo hs hcall htodo)
    exact (hwhy ((hs.accepted write hwrite).1.later hclock)).elim
  | conflict callId call write rest now existing hcall htodo hclock hexisting hid hother =>
    cases List.append_cancel_left h
    have hinserted := (hs.sessions.right callId call hcall).inserted_eq_nil fun write hwrite =>
      (hs.accepted write (haccepted write hwrite)).2
    rw [InteractionBatch.visible, hinserted, List.append_nil] at hexisting
    exact .inr (.inr ⟨write, mem_batch_of_todo hs hcall htodo, rfl, existing, hexisting, hid,
      hother⟩)
  | committed callId call hcall hnext htodo => cases List.append_cancel_left h
  | _ => exact (append_singleton_ne _ _ h).elim

theorem recorded_of_move (hs : Idempotent context s) (hmove : BatchMove context s t)
    {outcomes : List (InteractionEventWrite × Bool)}
    (h : t.results = s.results ++ [.recorded outcomes]) :
    (∃ callId call, s.sessions.calls callId = some call ∧
      outcomes.map Prod.fst = call.batch) ∧
    (∀ outcome ∈ outcomes, Accepted s.results outcome.1 → outcome.2 = false) ∧
    ((∀ outcome ∈ outcomes, Accepted s.results outcome.1) → t.tables = s.tables) := by
  cases hmove with
  | committed callId call hcall hnext htodo =>
    cases List.append_cancel_left h
    have hright := hs.sessions.right callId call hcall
    have hbatch : call.outcomes.map Prod.fst = call.batch := by
      rw [← hright.batch_eq, htodo, List.append_nil]
    refine ⟨⟨callId, call, hcall, hbatch⟩, ?_, ?_⟩
    · intro outcome houtcome haccepted
      by_contra hinserted
      rw [Bool.not_eq_false] at hinserted
      have hmem : outcome.1 ∈ call.inserted.map (·.write) := by
        rw [hright.reported]
        exact List.mem_append_left _
          (List.mem_map_of_mem (List.mem_filter.mpr ⟨houtcome, hinserted⟩))
      obtain ⟨event, hevent, heq⟩ := List.mem_map.mp hmem
      have hknown := (hs.accepted outcome.1 haccepted).2
      rw [← heq] at hknown
      exact hright.not_known hevent hknown
    · intro haccepted
      refine commit_tables_eq hs hcall fun write hwrite => ?_
      rw [← hbatch] at hwrite
      obtain ⟨outcome, houtcome, rfl⟩ := List.mem_map.mp hwrite
      exact (hs.accepted outcome.1 (haccepted outcome houtcome)).2
  | refused _ hsize => cases List.append_cancel_left h
  | failed callId call hcall => cases List.append_cancel_left h
  | inadmissible callId call write rest now error hcall htodo hclock hwhy =>
    cases List.append_cancel_left h
  | conflict callId call write rest now existing hcall htodo hclock hexisting hid hother =>
    cases List.append_cancel_left h
  | _ => exact (append_singleton_ne _ _ h).elim

theorem tables_of_move (hmove : BatchMove context s t) :
    t.tables = s.tables ∨ ∃ outcomes, t.results = s.results ++ [.recorded outcomes] := by
  cases hmove with
  | committed callId call hcall hnext htodo => exact .inr ⟨call.outcomes, rfl⟩
  | _ => exact .inl rfl

/-- Whatever batches run over one another, what is stored is stored once and the rows are
the projection of the stored events, in whichever order these are read. A batch writes
when it is recorded or not at all. Of the events that were accepted before, a recorded
batch inserts none, and a batch of such events alone writes nothing and is refused by the
recording only for an event whose UUID meanwhile stands for another one. -/
theorem interactionBatches_idempotent (context : AnalyticsContext)
    (schedule : List InteractionLabel) :
    (∀ x ∈ transitions (interactionStep context) {} schedule,
      (x.after.tables = x.before.tables ∨
        ∃ outcomes, x.after.results = x.before.results ++ [.recorded outcomes]) ∧
      (∀ outcomes, x.after.results = x.before.results ++ [.recorded outcomes] →
        (∃ callId call, x.before.sessions.calls callId = some call ∧
          outcomes.map Prod.fst = call.batch) ∧
        (∀ outcome ∈ outcomes, Accepted x.before.results outcome.1 → outcome.2 = false) ∧
        ((∀ outcome ∈ outcomes, Accepted x.before.results outcome.1) →
          x.after.tables = x.before.tables)) ∧
      (∀ batch error, x.after.results = x.before.results ++ [.raised batch error] →
        x.after.tables = x.before.tables ∧
        ((∀ write ∈ batch, Accepted x.before.results write) →
          RefusedAgain x.before.tables.events batch error))) ∧
    let tables := (final (interactionStep context) {} schedule).tables
    (tables.events.map (·.write.eventId)).Nodup ∧
    (tables.events.filterMap (·.write.stageKey)).Nodup ∧
    ∀ order, order ~ tables.events → tables.rows = projectEvents context order := by
  have hrun : (∀ x ∈ transitions (interactionStep context) {} schedule,
      Idempotent context x.before) ∧
      Idempotent context (final (interactionStep context) {} schedule) :=
    invariant_of_transitions idempotent_start fun x hx hs =>
      idempotent_of_move hs (hs.move (step_of_mem_transitions hx))
  obtain ⟨hbefore, hfinal⟩ := hrun
  refine ⟨fun x hx => ?_, hfinal.ids, hfinal.stages, fun order horder => ?_⟩
  · have hs := hbefore x hx
    have hmove := hs.move (step_of_mem_transitions hx)
    refine ⟨tables_of_move hmove, fun outcomes h => recorded_of_move hs hmove h, ?_⟩
    intro batch error h
    refine ⟨(tables_of_move hmove).resolve_right ?_, raised_of_move hs hmove h⟩
    rintro ⟨outcomes, hrecorded⟩
    cases List.append_cancel_left (h.symm.trans hrecorded)
  · rw [hfinal.rows, projectEvents_perm horder]

end Runs

section Resent

def anonymousViews : AnalyticsContext where
  accountTypes _ := none
  catalogued _ := false
  lower := id
  advisoryHash _ := 0

def impression (eventId : Uuid) (impressionId : Text) : InteractionEventWrite where
  eventId := eventId
  eventType := .memeImpression
  userId := none
  memeId := some 7
  impressionId := some impressionId

def recordOne (callId : Nat) (write : InteractionEventWrite) : List InteractionLabel :=
  [.start callId [write], .check callId 0, .lockStage callId, .findStage callId, .insert callId,
    .project callId, .commit callId]

/-- The second event is accepted as a repetition of the first stage; then a third one is
stored under its UUID. -/
def sentBefore : List InteractionLabel :=
  recordOne 0 (impression 1 ['i']) ++ recordOne 1 (impression 2 ['i']) ++
    recordOne 2 (impression 2 ['j'])

theorem resentDuplicate_refused :
    let before := final (interactionStep anonymousViews) {} sentBefore
    let after := final (interactionStep anonymousViews) before
      [.start 3 [impression 2 ['i']], .check 3 0]
    Accepted before.results (impression 2 ['i']) ∧
      after.results = before.results ++
        [.raised [impression 2 ['i']] (.eventIdConflict (impression 2 ['i']))] := by
  refine ⟨⟨[(impression 2 ['i'], false)], ?_, ?_⟩, ?_⟩ <;> decide +kernel

end Resent

end MemeExpert.Services
