import MemeExpert.Services.RecoveryRuntime

/-! The transactions an administrator runs on a recovery job. -/

namespace MemeExpert.Services

open Pipeline

/-- What an active item reserves: the stage of a file, or the named work. -/
inductive ReservationKey where
  | stage (memeFileId : Uuid) (stage : ContentPipelineStage)
  | work (kind : RecoveryWorkKind) (workId : RecoveryWorkId)
  deriving DecidableEq

def reservationKey (item : RecoveryJobItem) : Option ReservationKey :=
  match item.stage with
  | some stage => item.memeFileId.map fun memeFileId => .stage memeFileId stage
  | none => some (.work item.workKind item.workId)

def Conflict (a b : RecoveryJobItem) : Prop :=
  a.reservationActive = true ∧ b.reservationActive = true ∧ (reservationKey a).isSome ∧
    reservationKey a = reservationKey b

instance (a b : RecoveryJobItem) : Decidable (Conflict a b) :=
  inferInstanceAs (Decidable (_ ∧ _ ∧ _ ∧ _))

/-- The jobs and items, with the items that a reclaimer has read without a lock. -/
structure RecoveryStore where
  jobs : Uuid → Option RecoveryJob := fun _ => none
  items : List RecoveryJobItem := []
  linked : List RecoveryJobItem := []

namespace RecoveryStore

def itemsOf (s : RecoveryStore) (jobId : Uuid) : List RecoveryJobItem :=
  s.items.filter fun item => item.recoveryJobId = jobId

def statusesOf (s : RecoveryStore) (jobId : Uuid) : List RecoveryJobItemStatus :=
  (s.itemsOf jobId).map (·.status)

def find (s : RecoveryStore) (itemId : Uuid) : Option RecoveryJobItem :=
  s.items.find? fun item => item.id = itemId

def findEvent (s : RecoveryStore) (eventId : Uuid) : Option RecoveryJobItem :=
  s.items.find? fun item => item.dispatchEventId = some eventId

def saveJob (s : RecoveryStore) (jobId : Uuid) (job : RecoveryJob) : RecoveryStore :=
  { s with jobs := Function.update s.jobs jobId (some job) }

def addItems (s : RecoveryStore) (items : List RecoveryJobItem) : RecoveryStore :=
  { s with items := s.items ++ items }

def saveItem (s : RecoveryStore) (item : RecoveryJobItem) : RecoveryStore :=
  { s with items := s.items.map fun other => if other.id = item.id then item else other }

def mapItems (s : RecoveryStore) (jobId : Uuid) (f : RecoveryJobItem → RecoveryJobItem) :
    RecoveryStore :=
  { s with items := s.items.map fun item => if item.recoveryJobId = jobId then f item else item }

def commit (s : RecoveryStore) : Option RecoveryStore :=
  if s.items.Pairwise (fun a b => ¬ Conflict a b) then some s else none

end RecoveryStore

/-- An item as `_build_execution_items` builds it. -/
def IsBuilt (jobId : Uuid) (reserve : Bool) (item : RecoveryJobItem) : Prop :=
  item.recoveryJobId = jobId ∧ (item.status = .queued ∨ item.status = .waitingDependency) ∧
    item.dispatchEventId = none ∧ item.reservationActive = reserve

instance (jobId : Uuid) (reserve : Bool) (item : RecoveryJobItem) :
    Decidable (IsBuilt jobId reserve item) :=
  inferInstanceAs (Decidable (_ ∧ _ ∧ _ ∧ _))

/-- `revalidates` is the outcome of the preview checks. An expired preview is marked and the call
fails. -/
def scheduleBatch (s : RecoveryStore) (jobId : Uuid) (revalidates : Bool) (now : Time) :
    Option RecoveryStore :=
  match s.jobs jobId with
  | none => none
  | some job =>
    if job.status ≠ .preview then none
    else if job.expiresAt.any (· ≤ now) then
      some (s.saveJob jobId { job with status := .expired })
    else if s.itemsOf jobId = [] ∨ revalidates = false then none
    else
      let reserved := s.mapItems jobId fun item => { item with reservationActive := true }
      (reserved.saveJob jobId
        { job with
          status := .queued
          scheduledAt := some now
          counts := jobCounts (reserved.statusesOf jobId) }).commit

def waitingItemStatuses : List RecoveryJobItemStatus :=
  [.queued, .waitingDependency, .waitingCapacity]

/-- The loop of `cancel_batch` on one item. -/
def cancelItem (now : Time) (item : RecoveryJobItem) : RecoveryJobItem :=
  if item.status ∈ waitingItemStatuses then
    { item with
      status := .cancelled
      finishedAt := some now
      reservationActive := false }
  else item

def cancelBatch (s : RecoveryStore) (jobId : Uuid) (now : Time) : Option RecoveryStore :=
  match s.jobs jobId with
  | none => none
  | some job =>
    if job.status ∈ [RecoveryJobStatus.cancelled, .completed, .completedWithFailures, .expired] then
      none
    else
      let cancelled := s.mapItems jobId (cancelItem now)
      let hasDispatched : Bool := .dispatched ∈ cancelled.statusesOf jobId
      some (cancelled.saveJob jobId
        { job with
          status := if hasDispatched then .cancelling else .cancelled
          cancelledAt := some now
          completedAt := if hasDispatched then job.completedAt else some now
          counts := jobCounts (cancelled.statusesOf jobId) })

end MemeExpert.Services
