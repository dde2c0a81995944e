import MemeExpert.Recommendations.FeedPools
import MemeExpert.Services.RecoveryRuntime
import MemeExpert.Services.SearchSynonymCompiler

/-! An admin replay keeps the row it reserves in the JSON mapping of its recovery item,
which the retry budget writes to as well. -/

namespace MemeExpert.Services.StageSnapshots

open IsoDates (Stamp)
open Json Messaging Pipeline
open Recommendations.FeedWire (Readings UUID ofText_str)

structure AwareTime where
  stamp : Stamp
  aware : stamp.offset.isSome = true

structure StageColumns where
  status : ContentPipelineStageStatus
  attemptCount : ℕ
  lastEventId : Option UUID
  normalizedReason : Option Text
  lastErrorText : Option Text
  isRetryable : Bool
  retryAfter : Option AwareTime
  startedAt : Option AwareTime
  finishedAt : Option AwareTime

structure StageState (φ : Type) where
  members : List (Text × Value φ)
  nodup : (members.map (·.1)).Nodup

section Mappings

variable {φ : Type}

def StageState.empty : StageState φ := ⟨[], List.nodup_nil⟩

def StageState.get? (state : StageState φ) (key : Text) : Option (Value φ) :=
  lookup state.members key

/-- `state[key] = value`. -/
def assign (key : Text) (value : Value φ) : List (Text × Value φ) → List (Text × Value φ)
  | [] => [(key, value)]
  | (first, old) :: rest =>
    if first = key then (key, value) :: rest else (first, old) :: assign key value rest

theorem mem_keys_assign {key other : Text} {value : Value φ} {members : List (Text × Value φ)} :
    other ∈ (assign key value members).map (·.1) ↔ other = key ∨ other ∈ members.map (·.1) := by
  induction members with
  | nil => simp [assign]
  | cons member rest ih =>
    obtain ⟨first, old⟩ := member
    rw [assign]
    split_ifs with hkey
    · simp only [List.map_cons, List.mem_cons, hkey]
      tauto
    · simp only [List.map_cons, List.mem_cons, ih]
      tauto

theorem nodup_assign {key : Text} {value : Value φ} {members : List (Text × Value φ)}
    (h : (members.map (·.1)).Nodup) : ((assign key value members).map (·.1)).Nodup := by
  induction members with
  | nil => exact List.nodup_singleton _
  | cons member rest ih =>
    obtain ⟨first, old⟩ := member
    obtain ⟨hfirst, hrest⟩ := List.nodup_cons.mp h
    rw [assign]
    split_ifs with hkey
    · exact hkey ▸ h
    refine List.nodup_cons.mpr ⟨?_, ih hrest⟩
    rw [mem_keys_assign]
    rintro (heq | hmem)
    · exact hkey heq
    · exact hfirst hmem

def StageState.set (state : StageState φ) (key : Text) (value : Value φ) : StageState φ :=
  ⟨assign key value state.members, nodup_assign state.nodup⟩

def StageState.reload (state : StageState φ) : StageState φ where
  members := (sortMembers state.members).insertionSort fun m n => m.1 ≤ n.1
  nodup := by
    have hperm := List.perm_insertionSort (fun m n : Text × Value φ => m.1 ≤ n.1)
      (sortMembers state.members)
    rw [(hperm.map _).nodup_iff, keys_sortMembers]
    exact state.nodup

def AwareTime.value (time : AwareTime) : Value φ := .string time.stamp.isoformat

def optional {β : Type} (write : β → Value φ) (found : Option β) : Value φ := found.elim .null write

def StageColumns.members (row : StageColumns) : List (Text × Value φ) :=
  [("status".toList, .string row.status.value.toList),
    ("attempt_count".toList, .int row.attemptCount),
    ("last_event_id".toList, optional (fun id => .string id.str) row.lastEventId),
    ("normalized_reason".toList, optional .string row.normalizedReason),
    ("last_error_text".toList, optional .string row.lastErrorText),
    ("is_retryable".toList, .bool row.isRetryable),
    ("retry_after".toList, optional AwareTime.value row.retryAfter),
    ("started_at".toList, optional AwareTime.value row.startedAt),
    ("finished_at".toList, optional AwareTime.value row.finishedAt)]

theorem nodup_members (row : StageColumns) : ((@StageColumns.members φ row).map (·.1)).Nodup := by
  change (["status", "attempt_count", "last_event_id", "normalized_reason", "last_error_text",
    "is_retryable", "retry_after", "started_at", "finished_at"].map String.toList).Nodup
  decide

def StageColumns.snapshot (row : StageColumns) : StageState φ := ⟨row.members, nodup_members row⟩

end Mappings

def statusOfText (text : Text) : Option ContentPipelineStageStatus :=
  [ContentPipelineStageStatus.pending, .processing, .succeeded, .failed, .duplicate].find?
    fun status => status.value.toList = text

section Decoding

variable {φ : Type} (readings : Readings φ)

/-- `uuid.UUID(str(value))`. -/
def uuidOfStr (value : Value φ) : Option UUID := UUID.ofText readings.uuidOf (readings.str value)

/-- `datetime.fromisoformat(str(value))`, where it has a zone. -/
def awareOfStr (value : Value φ) : Option AwareTime :=
  (IsoDates.fromisoformat readings.stampOf (readings.str value)).bind fun stamp =>
    if h : stamp.offset.isSome = true then some ⟨stamp, h⟩ else none

def snapshotStatus : Option (Value φ) → ContentPipelineStageStatus
  | none => .succeeded
  | some value => (statusOfText (readings.str value)).getD .succeeded

def snapshotInt (fallback : ℕ) : Option (Value φ) → ℕ
  | some (.int n) => n.toNat
  | some (.string text) => ((readings.int (.string text)).map Int.toNat).getD fallback
  | _ => fallback

def snapshotUuid : Option (Value φ) → Option UUID
  | none | some .null | some (.string []) => none
  | some value => uuidOfStr readings value

def snapshotDatetime : Option (Value φ) → Option AwareTime
  | none | some .null | some (.string []) => none
  | some value => awareOfStr readings value

def snapshotOptionalText : Option (Value φ) → Option Text
  | some (.string text) => if text = [] then none else some text
  | _ => none

def snapshotBool : Option (Value φ) → Bool
  | some (.bool retryable) => retryable
  | _ => false

def restoreStageStateAfterDerivativeFailure (snapshot : StageState φ) (fallbackAttempt : ℕ) :
    StageColumns where
  status := snapshotStatus readings (snapshot.get? "status".toList)
  attemptCount := snapshotInt readings fallbackAttempt (snapshot.get? "attempt_count".toList)
  lastEventId := snapshotUuid readings (snapshot.get? "last_event_id".toList)
  normalizedReason := snapshotOptionalText (snapshot.get? "normalized_reason".toList)
  lastErrorText := snapshotOptionalText (snapshot.get? "last_error_text".toList)
  isRetryable := snapshotBool (snapshot.get? "is_retryable".toList)
  retryAfter := snapshotDatetime readings (snapshot.get? "retry_after".toList)
  startedAt := snapshotDatetime readings (snapshot.get? "started_at".toList)
  finishedAt := snapshotDatetime readings (snapshot.get? "finished_at".toList)

def snapshotOptional {β : Type} (read : Text → Option β) : Option (Value φ) → Option (Option β)
  | none | some .null => some none
  | some (.string text) => (read text).map some
  | _ => none

def snapshotAttempts : Option (Value φ) → Option ℕ
  | some (.int n) => if 0 ≤ n then some n.toNat else none
  | _ => none

def snapshotRetryable : Option (Value φ) → Option Bool
  | some (.bool retryable) => some retryable
  | _ => none

def restoreStageSnapshot (snapshot : StageState φ) : Option StageColumns := do
  let attemptCount ← snapshotAttempts (snapshot.get? "attempt_count".toList)
  let isRetryable ← snapshotRetryable (snapshot.get? "is_retryable".toList)
  let status ← (snapshot.get? "status".toList).bind fun value => statusOfText (readings.str value)
  let lastEventId ← snapshotOptional (UUID.ofText readings.uuidOf)
    (snapshot.get? "last_event_id".toList)
  let normalizedReason ← snapshotOptional some (snapshot.get? "normalized_reason".toList)
  let lastErrorText ← snapshotOptional some (snapshot.get? "last_error_text".toList)
  let aware := fun text => awareOfStr readings (.string text)
  let retryAfter ← snapshotOptional aware (snapshot.get? "retry_after".toList)
  let startedAt ← snapshotOptional aware (snapshot.get? "started_at".toList)
  let finishedAt ← snapshotOptional aware (snapshot.get? "finished_at".toList)
  pure ⟨status, attemptCount, lastEventId, normalizedReason, lastErrorText, isRetryable, retryAfter,
    startedAt, finishedAt⟩

end Decoding

structure StageItem (φ : Type) where
  stage : Option ContentPipelineStage
  terminalOverrideAcknowledged : Bool
  previousStageState : StageState φ
  retryableFailuresConsumed : ℕ
  attemptBudgetStart : Option ℕ
  dispatchEventId : Option UUID

def newStageItem {φ : Type} (stage : Option ContentPipelineStage)
    (terminalOverrideAcknowledged : Bool) : StageItem φ where
  stage := stage
  terminalOverrideAcknowledged := terminalOverrideAcknowledged
  previousStageState := StageState.empty
  retryableFailuresConsumed := 0
  attemptBudgetStart := none
  dispatchEventId := none

def stageDispatchPublicationFailuresKey : Text := "stage_dispatch_publication_failures".toList

section Items

variable {φ : Type}

def recoveryStagePublicationFailures (item : StageItem φ) : ℕ :=
  match item.previousStageState.get? stageDispatchPublicationFailuresKey with
  | some (.int failures) => failures.toNat
  | _ => 0

def mergePublicationFailures (item : StageItem φ) (observedFailures : ℕ) : StageItem φ :=
  let publicationFailures := max (recoveryStagePublicationFailures item) observedFailures
  let workerFailures := item.retryableFailuresConsumed - recoveryStagePublicationFailures item
  { item with
    previousStageState :=
      item.previousStageState.set stageDispatchPublicationFailuresKey (.int publicationFailures)
    retryableFailuresConsumed :=
      max item.retryableFailuresConsumed (publicationFailures + workerFailures) }

def observeRecoveryStagePublicationOutcome (item : StageItem φ)
    (status : RabbitMQOutboxMessageStatus) (attemptCount : ℕ) : StageItem φ :=
  if item.stage.isNone then item
  else
    match status with
    | .failed => mergePublicationFailures item attemptCount
    | .published => mergePublicationFailures item (attemptCount - 1)
    | .pending | .publishing => item

def attachRecoveryItem (item : StageItem φ) (eventId : UUID) (attempt : ℕ) : StageItem φ :=
  { item with
    dispatchEventId := some eventId
    attemptBudgetStart := item.attemptBudgetStart <|> some attempt }

/-- What comes between a replay and its end: outbox outcomes, and reads of the stored item. -/
inductive Bookkeeping where
  | reloaded
  | observed (status : RabbitMQOutboxMessageStatus) (attemptCount : ℕ)

def Bookkeeping.apply (item : StageItem φ) : Bookkeeping → StageItem φ
  | .reloaded => { item with previousStageState := item.previousStageState.reload }
  | .observed status attemptCount => observeRecoveryStagePublicationOutcome item status attemptCount

end Items

structure StageWork where
  memeFileId : Uuid
  s3OriginalKey : String
  stage : ContentPipelineStage

def isReplayReserved (row : StageColumns) : Bool :=
  (row.status = .pending ∨ row.status = .processing) ∧
    row.normalizedReason = some pipelineReasonReplayRequested.toList ∧ row.lastEventId.isSome

def reserveReplay (row : StageColumns) (eventId : UUID) (attempt : ℕ) : StageColumns :=
  { row with
    status := .pending
    attemptCount := attempt
    lastEventId := some eventId
    normalizedReason := some pipelineReasonReplayRequested.toList
    lastErrorText := none
    isRetryable := true
    retryAfter := none
    startedAt := none
    finishedAt := none }

def unmaterializedRow : StageColumns where
  status := .failed
  attemptCount := 0
  lastEventId := none
  normalizedReason := some "orchestrated_stage_not_materialized".toList
  lastErrorText := none
  isRetryable := true
  retryAfter := none
  startedAt := none
  finishedAt := none

structure Replayed (φ : Type) where
  row : StageColumns
  item : StageItem φ
  replayEventId : UUID
  attempt : ℕ

section Replays

variable {φ : Type}

def replayRow (work : StageWork) (row : StageColumns) (item : StageItem φ) (eventId : UUID) :
    Except PipelineError (Replayed φ) :=
  if isReplayReserved row then
    match row.lastEventId with
    | none => .error (.replayReservationWithoutEvent work.memeFileId)
    | some reserved =>
      .ok ⟨row, attachRecoveryItem item reserved (max row.attemptCount 1), reserved,
        max row.attemptCount 1⟩
  else if row.status = .pending ∨ row.status = .processing ∨ row.status = .duplicate then
    .error (.replayStageActive work.stage row.status)
  else if row.status = .failed ∧ row.isRetryable = false ∧
      item.terminalOverrideAcknowledged = false then
    .error (.replayTerminalUnacknowledged work.stage)
  else
    let attempt := max (row.attemptCount + 1) 1
    .ok ⟨reserveReplay row eventId attempt,
      attachRecoveryItem { item with previousStageState := row.snapshot } eventId attempt, eventId,
      attempt⟩

def replayAdminStage (work : StageWork) (loaded : Option StageColumns) (item : StageItem φ)
    (eventId : UUID) : Except PipelineError (Replayed φ) :=
  if work.stage = .ingest then .error .replayIngestStage
  else if work.s3OriginalKey = "" then .error (.replayMissingOriginal work.memeFileId)
  else replayRow work (loaded.getD unmaterializedRow) item eventId

/-- What happens to an item: bookkeeping, and replays, whose refusal changes nothing. -/
inductive ItemEvent where
  | bookkeeping (entry : Bookkeeping)
  | replay (work : StageWork) (loaded : Option StageColumns) (eventId : UUID)

def ItemEvent.apply (item : StageItem φ) : ItemEvent → StageItem φ
  | .bookkeeping entry => entry.apply item
  | .replay work loaded eventId =>
    match replayAdminStage work loaded item eventId with
    | .ok replayed => replayed.item
    | .error _ => item

variable {state : StageState φ} {row : StageColumns} {key other : Text} {value : Value φ}

def snapshotKeys : List Text :=
  ["status", "attempt_count", "last_event_id", "normalized_reason", "last_error_text",
    "is_retryable", "retry_after", "started_at", "finished_at"].map String.toList

def Holds (state : StageState φ) (row : StageColumns) : Prop :=
  ∀ pair ∈ @StageColumns.members φ row, state.get? pair.1 = some pair.2

def Bare (state : StageState φ) : Prop := ∀ key ∈ snapshotKeys, state.get? key = none

theorem get?_set_of_ne (h : other ≠ key) : (state.set key value).get? other = state.get? other := by
  have hmem : ∀ members : List (Text × Value φ), ∀ found : Value φ,
      (other, found) ∈ assign key value members ↔ (other, found) ∈ members := by
    intro members found
    induction members with
    | nil => simp [assign, h]
    | cons member rest ih =>
      obtain ⟨first, old⟩ := member
      rw [assign]
      split_ifs with hkey
      · subst hkey
        simp [h]
      · simp [ih]
  apply Option.ext
  intro found
  rw [StageState.get?, StageState.get?, lookup_eq_some_iff (state.set key value).nodup,
    lookup_eq_some_iff state.nodup]
  exact hmem state.members found

theorem get?_reload (state : StageState φ) (key : Text) :
    state.reload.get? key = (state.get? key).map Value.sortKeys :=
  get?_sortKeys state.nodup

theorem sortKeys_of_mem_members {pair : Text × Value φ} (h : pair ∈ row.members) :
    pair.2.sortKeys = pair.2 := by
  have hoptional {β : Type} {write : β → Value φ} (hwrite : ∀ found, (write found).sortKeys =
      write found) (found : Option β) : (optional write found).sortKeys = optional write found := by
    cases found with
    | none => rfl
    | some found => exact hwrite found
  simp only [StageColumns.members, List.mem_cons, List.not_mem_nil, or_false] at h
  rcases h with rfl | rfl | rfl | rfl | rfl | rfl | rfl | rfl | rfl <;>
    first | rfl | exact hoptional (fun _ => rfl) _

theorem holds_snapshot (row : StageColumns) : Holds (@StageColumns.snapshot φ row) row :=
  fun _ hpair => (lookup_eq_some_iff (nodup_members row)).mpr hpair

theorem Holds.set (h : Holds state row) (hkey : key ∉ snapshotKeys) :
    Holds (state.set key value) row := by
  intro pair hpair
  have hne : pair.1 ≠ key := by
    rintro rfl
    exact hkey (List.mem_map_of_mem hpair)
  rw [get?_set_of_ne hne]
  exact h pair hpair

theorem Holds.reload (h : Holds state row) : Holds state.reload row := by
  intro pair hpair
  rw [get?_reload, h pair hpair, Option.map_some, sortKeys_of_mem_members hpair]

theorem bare_empty : Bare (StageState.empty : StageState φ) := fun _ _ => rfl

theorem Bare.set (h : Bare state) (hkey : key ∉ snapshotKeys) : Bare (state.set key value) := by
  intro found hfound
  have hne : found ≠ key := by
    rintro rfl
    exact hkey hfound
  rw [get?_set_of_ne hne]
  exact h found hfound

theorem Bare.reload (h : Bare state) : Bare state.reload := by
  intro found hfound
  rw [get?_reload, h found hfound, Option.map_none]

theorem publicationFailuresKey_not_mem :
    stageDispatchPublicationFailuresKey ∉ snapshotKeys := by decide

theorem state_bookkeeping (item : StageItem φ) (entry : Bookkeeping) :
    (∀ row, Holds item.previousStageState row → Holds (entry.apply item).previousStageState row) ∧
      (Bare item.previousStageState → Bare (entry.apply item).previousStageState) := by
  have hset (failures : ℕ) :
      (∀ row, Holds item.previousStageState row →
        Holds (mergePublicationFailures item failures).previousStageState row) ∧
      (Bare item.previousStageState →
        Bare (mergePublicationFailures item failures).previousStageState) :=
    ⟨fun _ h => h.set publicationFailuresKey_not_mem,
      fun h => h.set publicationFailuresKey_not_mem⟩
  cases entry with
  | reloaded => exact ⟨fun _ h => h.reload, Bare.reload⟩
  | observed status attemptCount =>
    simp only [Bookkeeping.apply, observeRecoveryStagePublicationOutcome]
    split_ifs
    · exact ⟨fun _ h => h, id⟩
    cases status with
    | failed => exact hset attemptCount
    | published => exact hset (attemptCount - 1)
    | pending => exact ⟨fun _ h => h, id⟩
    | publishing => exact ⟨fun _ h => h, id⟩

theorem holds_foldl {item : StageItem φ} (later : List Bookkeeping)
    (h : Holds item.previousStageState row) :
    Holds (later.foldl Bookkeeping.apply item).previousStageState row := by
  induction later generalizing item with
  | nil => exact h
  | cons entry later ih => exact ih ((state_bookkeeping item entry).1 row h)

theorem bare_foldl {item : StageItem φ} (later : List Bookkeeping)
    (h : Bare item.previousStageState) :
    Bare (later.foldl Bookkeeping.apply item).previousStageState := by
  induction later generalizing item with
  | nil => exact h
  | cons entry later ih => exact ih ((state_bookkeeping item entry).2 h)

variable (readings : Readings φ)

theorem statusOfText_value (status : ContentPipelineStageStatus) :
    statusOfText status.value.toList = some status := by
  cases status <;> decide

theorem str_ne_nil (id : UUID) : id.str ≠ [] := by
  intro hnil
  have hread := ofText_str (fun _ => none) id
  rw [hnil] at hread
  cases hread

theorem isoformat_ne_nil (stamp : Stamp) : stamp.isoformat ≠ [] := by
  unfold Stamp.isoformat
  simp

theorem awareOfStr_value (time : AwareTime) : awareOfStr readings time.value = some time := by
  have hread : IsoDates.fromisoformat readings.stampOf (readings.str time.value) =
      some time.stamp := IsoDates.fromisoformat_isoformat readings.stampOf time.stamp
  rw [awareOfStr, hread, Option.bind_some, dif_pos time.aware]

theorem snapshotUuid_optional (id : Option UUID) :
    snapshotUuid readings (some (optional (fun id => .string id.str) id)) = id := by
  cases id with
  | none => rfl
  | some id =>
    change snapshotUuid readings (some (.string id.str)) = some id
    rw [snapshotUuid.eq_def]
    split
    · contradiction
    · rename_i heq
      cases Option.some.inj heq
    · rename_i heq
      exact absurd (Value.string.inj (Option.some.inj heq)) (str_ne_nil id)
    rename_i heq
    obtain rfl := Option.some.inj heq
    exact ofText_str readings.uuidOf id

theorem snapshotDatetime_optional (time : Option AwareTime) :
    snapshotDatetime readings (some (optional AwareTime.value time)) = time := by
  cases time with
  | none => rfl
  | some time =>
    change snapshotDatetime readings (some time.value) = some time
    rw [snapshotDatetime.eq_def]
    split
    · contradiction
    · rename_i heq
      cases Option.some.inj heq
    · rename_i heq
      exact absurd (Value.string.inj (Option.some.inj heq)) (isoformat_ne_nil time.stamp)
    rename_i heq
    obtain rfl := Option.some.inj heq
    exact awareOfStr_value readings time

theorem snapshotOptionalText_optional (text : Option Text) :
    snapshotOptionalText (some (optional Value.string text : Value φ)) = text.filter (· ≠ []) := by
  cases text with
  | none => rfl
  | some text =>
    change (if text = [] then none else some text) = _
    cases text <;> rfl

theorem snapshotOptional_optional {β : Type} {write : β → Text} {read : Text → Option β}
    (h : ∀ found, read (write found) = some found) (found : Option β) :
    snapshotOptional read (some (optional (fun found => .string (write found)) found : Value φ)) =
      some found := by
  cases found with
  | none => rfl
  | some found =>
    change (read (write found)).map some = _
    rw [h found, Option.map_some]

theorem Holds.get (h : Holds state row) (i : ℕ) {key : Text} {value : Value φ}
    (hplace : row.members[i]? = some (key, value)) : state.get? key = some value :=
  h (key, value) (List.mem_of_getElem? hplace)

theorem Holds.worker (h : Holds state row) (fallbackAttempt : ℕ) :
    restoreStageStateAfterDerivativeFailure readings state fallbackAttempt =
      { row with
        normalizedReason := row.normalizedReason.filter (· ≠ [])
        lastErrorText := row.lastErrorText.filter (· ≠ []) } := by
  rw [restoreStageStateAfterDerivativeFailure, h.get 0 rfl, h.get 1 rfl, h.get 2 rfl, h.get 3 rfl,
    h.get 4 rfl, h.get 5 rfl, h.get 6 rfl, h.get 7 rfl, h.get 8 rfl]
  have hstatus : (statusOfText row.status.value.toList).getD .succeeded = row.status := by
    rw [statusOfText_value, Option.getD_some]
  simp only [snapshotStatus, Readings.str, hstatus, snapshotInt, Int.toNat_natCast,
    snapshotUuid_optional, snapshotOptionalText_optional, snapshotBool, snapshotDatetime_optional]

theorem Holds.reconciler (h : Holds state row) : restoreStageSnapshot readings state = some row := by
  have hid := @snapshotOptional_optional φ UUID UUID.str (UUID.ofText readings.uuidOf)
    (ofText_str readings.uuidOf) row.lastEventId
  have htext (text : Option Text) :
      snapshotOptional some (some (optional Value.string text : Value φ)) = some text :=
    @snapshotOptional_optional φ Text id some (fun _ => rfl) text
  have htime (time : Option AwareTime) :
      snapshotOptional (fun text => awareOfStr readings (.string text))
        (some (optional AwareTime.value time)) = some time :=
    @snapshotOptional_optional φ AwareTime (fun time => time.stamp.isoformat)
      (fun text => awareOfStr readings (.string text)) (awareOfStr_value readings) time
  have hattempts : snapshotAttempts (some (.int row.attemptCount : Value φ)) =
      some row.attemptCount := by
    rw [snapshotAttempts, if_pos (Int.natCast_nonneg _), Int.toNat_natCast]
  rw [restoreStageSnapshot, h.get 0 rfl, h.get 1 rfl, h.get 2 rfl, h.get 3 rfl, h.get 4 rfl,
    h.get 5 rfl, h.get 6 rfl, h.get 7 rfl, h.get 8 rfl]
  simp only [Option.bind_eq_bind, hattempts, snapshotRetryable, Readings.str, statusOfText_value,
    Option.bind_some, hid, htext, htime]
  rfl

def succeededRow (fallbackAttempt : ℕ) : StageColumns where
  status := .succeeded
  attemptCount := fallbackAttempt
  lastEventId := none
  normalizedReason := none
  lastErrorText := none
  isRetryable := false
  retryAfter := none
  startedAt := none
  finishedAt := none

theorem Bare.worker (h : Bare state) (fallbackAttempt : ℕ) :
    restoreStageStateAfterDerivativeFailure readings state fallbackAttempt =
      succeededRow fallbackAttempt := by
  have hnone (i : ℕ) {key : Text} (hplace : snapshotKeys[i]? = some key) : state.get? key = none :=
    h key (List.mem_of_getElem? hplace)
  rw [restoreStageStateAfterDerivativeFailure, hnone 0 rfl, hnone 1 rfl, hnone 2 rfl, hnone 3 rfl,
    hnone 4 rfl, hnone 5 rfl, hnone 6 rfl, hnone 7 rfl, hnone 8 rfl]
  rfl

theorem Bare.reconciler (h : Bare state) : restoreStageSnapshot readings state = none := by
  have hattempts : state.get? "attempt_count".toList = none := h _ (by decide)
  rw [restoreStageSnapshot, hattempts]
  rfl

variable (timeOf : AwareTime → Time) (idOf : UUID → Uuid) {previous : PreviousStageState}

/-- The row with these columns, its times and identifiers as `timeOf` and `idOf` count them. -/
def StageColumns.journal (entry : PipelineStageJournal) (row : StageColumns) :
    PipelineStageJournal :=
  { entry with
    status := row.status
    attemptCount := row.attemptCount
    lastEventId := row.lastEventId.map idOf
    normalizedReason := row.normalizedReason.map String.ofList
    lastErrorText := row.lastErrorText.map String.ofList
    isRetryable := row.isRetryable
    retryAfter := row.retryAfter.map timeOf
    startedAt := row.startedAt.map timeOf
    finishedAt := row.finishedAt.map timeOf }

inductive Represents (entry : PipelineStageJournal) (state : StageState φ)
    (previous : PreviousStageState) : Prop where
  | bare (hstate : Bare state) (hprevious : previous.stageSnapshot = none)
  | held (row : StageColumns) (hstate : Holds state row)
      (hprevious : previous.stageSnapshot = some (snapshotStage (row.journal timeOf idOf entry)))

theorem map_filter_text (text : Option Text) :
    (text.filter (· ≠ [])).map String.ofList = (text.map String.ofList).filter (· ≠ "") := by
  cases text with
  | none => rfl
  | some text =>
    cases text with
    | nil => rfl
    | cons c rest =>
      have hne : String.ofList (c :: rest) ≠ "" := by
        intro heq
        have hnil := congrArg String.toList heq
        simp at hnil
      rw [Option.filter_some, Option.map_some, Option.filter_some,
        if_pos (decide_eq_true (List.cons_ne_nil c rest)), if_pos (decide_eq_true hne),
        Option.map_some]

theorem Represents.worker {entry : PipelineStageJournal}
    (h : Represents timeOf idOf entry state previous) (fallbackAttempt : ℕ) :
    (restoreStageStateAfterDerivativeFailure readings state fallbackAttempt).journal timeOf idOf
        entry =
      Pipeline.restoreStageStateAfterDerivativeFailure entry previous fallbackAttempt := by
  cases h with
  | bare hstate hprevious =>
    rw [hstate.worker, Pipeline.restoreStageStateAfterDerivativeFailure, hprevious]
    rfl
  | held row hstate hprevious =>
    rw [hstate.worker, Pipeline.restoreStageStateAfterDerivativeFailure, hprevious]
    simp only [StageColumns.journal, map_filter_text]
    rfl

theorem Represents.reconciler {entry : PipelineStageJournal}
    (h : Represents timeOf idOf entry state previous) :
    (restoreStageSnapshot readings state).map (·.journal timeOf idOf entry) =
      Services.restoreStageSnapshot entry previous := by
  cases h with
  | bare hstate hprevious =>
    rw [hstate.reconciler, Services.restoreStageSnapshot, hprevious]
    rfl
  | held row hstate hprevious =>
    rw [hstate.reconciler, Services.restoreStageSnapshot, hprevious]
    rfl

variable {work : StageWork} {loaded : Option StageColumns} {item : StageItem φ} {eventId : UUID}
  {replayed : Replayed φ}

theorem state_replayRow (h : replayRow work row item eventId = .ok replayed) :
    (isReplayReserved row = true ∧
        replayed.item.previousStageState = item.previousStageState) ∨
      (isReplayReserved row = false ∧ (row.status = .succeeded ∨ row.status = .failed) ∧
        replayed.item.previousStageState = row.snapshot) := by
  simp only [replayRow] at h
  split_ifs at h with hreserved hactive hterminal
  · left
    split at h
    · cases h
    · obtain rfl := Except.ok.inj h
      exact ⟨hreserved, rfl⟩
  right
  obtain rfl := Except.ok.inj h
  refine ⟨Bool.not_eq_true _ ▸ hreserved, ?_, rfl⟩
  cases hstatus : row.status with
  | succeeded => exact .inl rfl
  | failed => exact .inr rfl
  | pending => exact absurd (.inl hstatus) hactive
  | processing => exact absurd (.inr (.inl hstatus)) hactive
  | duplicate => exact absurd (.inr (.inr hstatus)) hactive

theorem replayRow_of_replayAdminStage
    (h : replayAdminStage work loaded item eventId = .ok replayed) :
    replayRow work (loaded.getD unmaterializedRow) item eventId = .ok replayed := by
  unfold replayAdminStage at h
  split_ifs at h
  exact h

def AtRest (state : StageState φ) : Prop :=
  Bare state ∨ ∃ row, Holds state row ∧ (row.status = .succeeded ∨ row.status = .failed)

theorem AtRest.bookkeeping (h : AtRest item.previousStageState) (later : List Bookkeeping) :
    AtRest (later.foldl Bookkeeping.apply item).previousStageState := by
  rcases h with hbare | ⟨row, hholds, hstatus⟩
  · exact .inl (bare_foldl later hbare)
  · exact .inr ⟨row, holds_foldl later hholds, hstatus⟩

theorem AtRest.event (h : AtRest item.previousStageState) (event : ItemEvent) :
    AtRest (event.apply item).previousStageState := by
  cases event with
  | bookkeeping entry => exact h.bookkeeping [entry]
  | replay work loaded eventId =>
    simp only [ItemEvent.apply]
    cases hreplay : replayAdminStage work loaded item eventId with
    | error error => exact h
    | ok replayed =>
      rcases state_replayRow (replayRow_of_replayAdminStage hreplay) with ⟨-, heq⟩ | ⟨-, hstatus, heq⟩
      · change AtRest replayed.item.previousStageState
        rw [heq]
        exact h
      refine .inr ⟨_, ?_, hstatus⟩
      change Holds replayed.item.previousStageState _
      rw [heq]
      exact holds_snapshot _

theorem atRest_foldl (stage : Option ContentPipelineStage) (acknowledged : Bool)
    (events : List ItemEvent) :
    AtRest (events.foldl ItemEvent.apply
      (newStageItem stage acknowledged : StageItem φ)).previousStageState := by
  induction events using List.reverseRecOn with
  | nil => exact .inl bare_empty
  | append_singleton earlier event ih =>
    rw [List.foldl_append, List.foldl_cons, List.foldl_nil]
    exact ih.event event

theorem AtRest.not_restored {state : StageState φ} (readings : Readings φ) (h : AtRest state)
    (hreserved : isReplayReserved row = true) (fallbackAttempt : ℕ) :
    restoreStageStateAfterDerivativeFailure readings state fallbackAttempt ≠ row ∧
      restoreStageSnapshot readings state ≠ some row := by
  have hstatus : row.status = .pending ∨ row.status = .processing := by
    simp only [isReplayReserved, decide_eq_true_eq] at hreserved
    exact hreserved.1
  rcases h with hbare | ⟨held, hholds, hheld⟩
  · refine ⟨?_, ?_⟩
    · intro heq
      have hsucceeded : row.status = .succeeded := by
        rw [← heq, hbare.worker]
        rfl
      rcases hstatus with hpending | hprocessing
      · rw [hpending] at hsucceeded
        cases hsucceeded
      · rw [hprocessing] at hsucceeded
        cases hsucceeded
    · rw [hbare.reconciler]
      exact nofun
  · have hne : held.status ≠ row.status := by
      rcases hheld with hheld | hheld <;> rcases hstatus with hstatus | hstatus <;>
        rw [hheld, hstatus] <;> decide
    refine ⟨?_, ?_⟩
    · rw [hholds.worker]
      intro heq
      have hsame := congrArg StageColumns.status heq
      exact hne hsame
    · rw [hholds.reconciler]
      intro heq
      exact hne (congrArg StageColumns.status (Option.some.inj heq))

theorem filter_eq_self_iff {text : Option Text} : text.filter (· ≠ []) = text ↔ text ≠ some [] := by
  cases text with
  | none => simp
  | some text => cases text <;> simp

/-- A row is read back by both decoders exactly when the replay was reserved anew and no text of
the row is empty; by the reconciler exactly when it was reserved anew. -/
theorem restored_iff (readings : Readings φ) (stage : Option ContentPipelineStage)
    (acknowledged : Bool) (events : List ItemEvent)
    (h : replayAdminStage work loaded (events.foldl ItemEvent.apply
      (newStageItem stage acknowledged)) eventId = .ok replayed)
    (later : List Bookkeeping) (fallbackAttempt : ℕ) :
    let row := loaded.getD unmaterializedRow
    let state := (later.foldl Bookkeeping.apply replayed.item).previousStageState
    (restoreStageStateAfterDerivativeFailure readings state fallbackAttempt = row ∧
        restoreStageSnapshot readings state = some row ↔
      isReplayReserved row = false ∧ row.normalizedReason ≠ some [] ∧
        row.lastErrorText ≠ some []) ∧
    (restoreStageSnapshot readings state = some row ↔ isReplayReserved row = false) := by
  intro row state
  rcases state_replayRow (replayRow_of_replayAdminStage h) with ⟨hreserved, heq⟩ | ⟨hfresh, -, heq⟩
  · have hrest : AtRest state := by
      apply AtRest.bookkeeping
      rw [heq]
      exact atRest_foldl stage acknowledged events
    obtain ⟨hworker, hreconciler⟩ := hrest.not_restored readings hreserved fallbackAttempt
    have htrue : ¬isReplayReserved row = false := by
      rw [hreserved]
      exact Bool.noConfusion
    exact ⟨iff_of_false (fun hboth => hworker hboth.1) (fun hfresh => htrue hfresh.1),
      iff_of_false hreconciler htrue⟩
  · have hholds : Holds state row := by
      apply holds_foldl
      rw [heq]
      exact holds_snapshot row
    have hreconciler := hholds.reconciler readings
    refine ⟨?_, iff_of_true hreconciler hfresh⟩
    rw [hholds.worker readings fallbackAttempt, ← filter_eq_self_iff, ← filter_eq_self_iff]
    constructor
    · rintro ⟨hworker, -⟩
      exact ⟨hfresh, congrArg StageColumns.normalizedReason hworker,
        congrArg StageColumns.lastErrorText hworker⟩
    · rintro ⟨-, hreason, herror⟩
      refine ⟨?_, hreconciler⟩
      rw [hreason, herror]

end Replays

def noReadings : Readings Int where
  strOf _ := []
  floatOf _ := none
  intOf _ := none
  uuidOf _ := none
  stampOf _ := none
  truth _ := false
  isOne _ := false

def transcodeWork : StageWork := ⟨0, "originals/0", .transcode⟩

def firstEvent : UUID := ⟨1, by decide⟩

def secondEvent : UUID := ⟨2, by decide⟩

def zonedTime (clock : Int) (h : 1 ≤ Dates.year clock ∧ Dates.year clock ≤ 9999) : AwareTime where
  stamp := ⟨clock, some 0, h, IsoDates.offset_bounds_zero⟩
  aware := rfl

def failedRow : StageColumns where
  status := .failed
  attemptCount := 2
  lastEventId := some firstEvent
  normalizedReason := some "provider_timeout".toList
  lastErrorText := some "read timed out".toList
  isRetryable := true
  retryAfter := some (zonedTime 1700000060000000 (by decide +kernel))
  startedAt := some (zonedTime 1700000000000000 (by decide +kernel))
  finishedAt := some (zonedTime 1700000000250000 (by decide +kernel))

def secondReplay : Replayed Int where
  row := reserveReplay failedRow secondEvent 3
  item :=
    { (newStageItem (some .transcode) false : StageItem Int) with
      previousStageState := failedRow.snapshot
      attemptBudgetStart := some 3
      dispatchEventId := some secondEvent }
  replayEventId := secondEvent
  attempt := 3

theorem restored_failedRow :
    restoreStageStateAfterDerivativeFailure noReadings ([Bookkeeping.observed .failed 2,
        .reloaded].foldl Bookkeeping.apply secondReplay.item).previousStageState 2 = failedRow ∧
      restoreStageSnapshot noReadings ([Bookkeeping.observed .failed 2, .reloaded].foldl
        Bookkeeping.apply secondReplay.item).previousStageState = some failedRow :=
  (@restored_iff Int transcodeWork (some failedRow) secondEvent secondReplay noReadings
    (some .transcode) false [] rfl [.observed .failed 2, .reloaded] 2).1.mpr
      ⟨rfl, by simp [failedRow], by simp [failedRow]⟩

def reservedRow : StageColumns := reserveReplay unmaterializedRow firstEvent 1

/-- An item attached to the reserved replay has nothing to restore the row from. -/
theorem reserved_row_not_restored : ¬ ∀ replayed,
    replayAdminStage transcodeWork (some reservedRow) (newStageItem (some .transcode) false)
      secondEvent = .ok replayed →
    restoreStageStateAfterDerivativeFailure noReadings replayed.item.previousStageState 0 =
        reservedRow ∧
      restoreStageSnapshot noReadings replayed.item.previousStageState = some reservedRow := by
  intro hclaim
  obtain ⟨-, hrestored⟩ := hclaim
    ⟨reservedRow, attachRecoveryItem (newStageItem (some .transcode) false) firstEvent 1,
      firstEvent, 1⟩ rfl
  have hnone : restoreStageSnapshot noReadings
      (attachRecoveryItem (newStageItem (some .transcode) false) firstEvent 1).previousStageState =
        none := Bare.reconciler noReadings bare_empty
  cases hnone.symm.trans hrestored

end MemeExpert.Services.StageSnapshots
