import MemeExpert.Lib.Runs
import MemeExpert.Messaging.RabbitMQOutbox

/-! Any number of relays work on one table. -/

namespace MemeExpert.Messaging

structure OutboxLease where
  relay : String
  message : RabbitMQOutboxMessage
  deriving DecidableEq

structure OutboxState where
  rows : Uuid → Option RabbitMQOutboxMessage := fun _ => none
  items : List RecoveryJobItem := []
  leases : List OutboxLease := []

inductive OutboxLabel where
  | enqueue (spec : RabbitMessageSpec)
  | claimDue (relay : String) (limit : Nat) (now : Time) (ids : List Uuid)
  | claimSpecific (relay : String) (now : Time) (messageIds ids : List Uuid)
  | markPublished (lease : OutboxLease) (now : Time)
  | markFailed (lease : OutboxLease) (now : Time) (error : String)
  | recoverStalePublishing (staleBefore now : Time) (ids : List Uuid)
  | crash (relay : String)
  | recovery (items : List RecoveryJobItem)

namespace OutboxState

def insert (s : OutboxState) (message : RabbitMQOutboxMessage) : OutboxState :=
  { s with rows := Function.update s.rows message.id (some message) }

/-- The rows `ids` get what `_claim_query` writes and stay with the relay as copies. -/
def claim (s : OutboxState) (relay : String) (now : Time) (ids : List Uuid) : OutboxState :=
  { s with
    rows := fun id =>
      if id ∈ ids then (s.rows id).map (claimMessage relay now) else s.rows id
    leases := s.leases ++ ids.filterMap fun id =>
      (s.rows id).map fun row => ⟨relay, claimMessage relay now row⟩ }

def mark (s : OutboxState) (lease : OutboxLease) (updated : RabbitMQOutboxMessage)
    (items : List RecoveryJobItem) : OutboxState :=
  { rows := fun id =>
      if id = lease.message.id then
        (s.rows id).map (RabbitMQOutboxMessage.writeBack lease.message updated)
      else s.rows id
    items := items
    leases := s.leases.erase lease }

def recover (s : OutboxState) (now : Time) (ids : List Uuid) : OutboxState :=
  { s with
    rows := fun id => if id ∈ ids then (s.rows id).map (recoverStaleMessage now) else s.rows id }

def selects (s : OutboxState) (filter : RabbitMQOutboxMessage → Bool) (ids : List Uuid) : Bool :=
  decide ids.Nodup && ids.all fun id => (s.rows id).any filter

end OutboxState

open OutboxState

def outboxStep (settings : PipelineSettings) (s : OutboxState) : OutboxLabel → Option OutboxState
  | .enqueue spec =>
    if (s.rows spec.messageId).isNone then some (s.insert (outboxMessageFromSpec spec)) else none
  | .claimDue relay limit now ids =>
    if s.selects (claimDueFilter settings s.items now) ids && ids.length ≤ max 1 limit then
      some (s.claim relay now ids)
    else none
  | .claimSpecific relay now messageIds ids =>
    if s.selects (claimSpecificFilter settings s.items) ids && ids.all (· ∈ messageIds) then
      some (s.claim relay now ids)
    else none
  | .markPublished lease now =>
    if lease ∈ s.leases then
      let updated := markPublished now lease.message
      some (s.mark lease updated
        (if lease.message.attemptCount > 1 then
          observeRecoveryStagePublication s.items updated
        else s.items))
    else none
  | .markFailed lease now error =>
    if lease ∈ s.leases then
      let updated := markFailed settings now error lease.message
      some (s.mark lease updated (observeRecoveryStagePublication s.items updated))
    else none
  | .recoverStalePublishing staleBefore now ids =>
    if s.selects (stalePublishing staleBefore) ids then some (s.recover now ids) else none
  | .crash relay => some { s with leases := s.leases.filter fun lease => lease.relay ≠ relay }
  | .recovery items => some { s with items := items }

def OutboxLabel.claims : OutboxLabel → List Uuid
  | .claimDue _ _ _ ids | .claimSpecific _ _ _ ids => ids
  | _ => []

def OutboxLabel.marks : OutboxLabel → Option OutboxLease
  | .markPublished lease _ | .markFailed lease _ _ => some lease
  | _ => none

/-- The test on the due time that only `claim_due` makes. -/
def dueAt (now : Time) (message : RabbitMQOutboxMessage) : Bool :=
  message.nextRetryAt.isNone || message.nextRetryAt.any fun due => due ≤ now

theorem claimDueFilter_eq (settings : PipelineSettings) (items : List RecoveryJobItem) (now : Time)
    (message : RabbitMQOutboxMessage) :
    claimDueFilter settings items now message =
      (claimSpecificFilter settings items message && dueAt now message) := rfl

theorem status_of_claimSpecificFilter {settings : PipelineSettings} {items : List RecoveryJobItem}
    {message : RabbitMQOutboxMessage} (h : claimSpecificFilter settings items message = true) :
    message.status = .pending ∨ message.status = .failed := by
  cases hstatus : message.status <;> simp [claimSpecificFilter, hstatus] at h ⊢

theorem exists_row_of_selects {s : OutboxState} {filter : RabbitMQOutboxMessage → Bool}
    {ids : List Uuid} (h : s.selects filter ids = true) :
    ids.Nodup ∧ ∀ id ∈ ids, ∃ row, s.rows id = some row ∧ filter row = true := by
  simp only [OutboxState.selects, Bool.and_eq_true, decide_eq_true_eq, List.all_eq_true,
    Option.any_eq_true] at h
  exact h

/-- What a step does, by the kind of its label. Both claims have one effect, and both marks. -/
inductive OutboxEffect (settings : PipelineSettings) (s : OutboxState) :
    OutboxLabel → OutboxState → Prop
  | enqueue (spec : RabbitMessageSpec) (hfree : s.rows spec.messageId = none) :
    OutboxEffect settings s (.enqueue spec) (s.insert (outboxMessageFromSpec spec))
  | claim (label : OutboxLabel) (relay : String) (now : Time) (hmarks : label.marks = none)
      (hnodup : label.claims.Nodup)
      (hadmits : ∀ id ∈ label.claims,
        ∃ row, s.rows id = some row ∧ claimSpecificFilter settings s.items row = true) :
    OutboxEffect settings s label (s.claim relay now label.claims)
  | mark (label : OutboxLabel) (lease : OutboxLease) (updated : RabbitMQOutboxMessage)
      (items : List RecoveryJobItem) (hmarks : label.marks = some lease) (hclaims : label.claims = [])
      (hlease : lease ∈ s.leases)
      (hstatus : updated.status = .published ∨ updated.status = .failed)
      (hcount : updated.attemptCount = lease.message.attemptCount) :
    OutboxEffect settings s label (s.mark lease updated items)
  | recover (staleBefore now : Time) (ids : List Uuid)
      (hstale : ∀ id ∈ ids, ∃ row, s.rows id = some row ∧ row.status = .publishing) :
    OutboxEffect settings s (.recoverStalePublishing staleBefore now ids) (s.recover now ids)
  | crash (relay : String) :
    OutboxEffect settings s (.crash relay)
      { s with leases := s.leases.filter fun lease => lease.relay ≠ relay }
  | recovery (items : List RecoveryJobItem) :
    OutboxEffect settings s (.recovery items) { s with items := items }

theorem outboxStep_effect {settings : PipelineSettings} {s t : OutboxState} {label : OutboxLabel}
    (h : outboxStep settings s label = some t) : OutboxEffect settings s label t := by
  cases label with
  | enqueue spec =>
    simp only [outboxStep, Option.ite_none_right_eq_some, Option.isNone_iff_eq_none] at h
    obtain ⟨hfree, ht⟩ := h
    cases ht
    exact .enqueue spec hfree
  | claimDue relay limit now ids =>
    simp only [outboxStep, Option.ite_none_right_eq_some, Bool.and_eq_true] at h
    obtain ⟨⟨hselects, -⟩, ht⟩ := h
    cases ht
    obtain ⟨hnodup, hrows⟩ := exists_row_of_selects hselects
    refine .claim (.claimDue relay limit now ids) relay now rfl hnodup fun id hid => ?_
    obtain ⟨row, hrow, hfilter⟩ := hrows id hid
    rw [claimDueFilter_eq, Bool.and_eq_true] at hfilter
    exact ⟨row, hrow, hfilter.1⟩
  | claimSpecific relay now messageIds ids =>
    simp only [outboxStep, Option.ite_none_right_eq_some, Bool.and_eq_true] at h
    obtain ⟨⟨hselects, -⟩, ht⟩ := h
    cases ht
    obtain ⟨hnodup, hrows⟩ := exists_row_of_selects hselects
    exact .claim (.claimSpecific relay now messageIds ids) relay now rfl hnodup hrows
  | markPublished lease now =>
    simp only [outboxStep, Option.ite_none_right_eq_some] at h
    obtain ⟨hlease, ht⟩ := h
    cases ht
    exact .mark _ lease _ _ rfl rfl hlease (.inl rfl) rfl
  | markFailed lease now error =>
    simp only [outboxStep, Option.ite_none_right_eq_some] at h
    obtain ⟨hlease, ht⟩ := h
    cases ht
    exact .mark _ lease _ _ rfl rfl hlease (.inr rfl) rfl
  | recoverStalePublishing staleBefore now ids =>
    simp only [outboxStep, Option.ite_none_right_eq_some] at h
    obtain ⟨hselects, ht⟩ := h
    cases ht
    refine .recover staleBefore now ids fun id hid => ?_
    obtain ⟨row, hrow, hfilter⟩ := (exists_row_of_selects hselects).2 id hid
    simp only [stalePublishing, Bool.and_eq_true, beq_iff_eq] at hfilter
    exact ⟨row, hrow, hfilter.1⟩
  | crash relay =>
    cases h
    exact .crash relay
  | recovery items =>
    cases h
    exact .recovery items

end MemeExpert.Messaging
