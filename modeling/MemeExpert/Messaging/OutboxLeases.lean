import Mathlib.Data.List.Nodup
import MemeExpert.Messaging.OutboxRelay

/-! A mark trusts the copy its relay took at the claim, which is justified while no row is claimed
again under a relay that has still to mark it. -/

namespace MemeExpert.Messaging

open Runs

def OutboxState.InFlight (s : OutboxState) (id : Uuid) : Prop :=
  ∃ lease ∈ s.leases, lease.message.id = id

instance (s : OutboxState) (id : Uuid) : Decidable (s.InFlight id) :=
  inferInstanceAs (Decidable (∃ lease ∈ s.leases, lease.message.id = id))

def ClaimsIdleRows (x : Transition OutboxState OutboxLabel) : Prop :=
  ∀ id ∈ x.label.claims, ¬ x.before.InFlight id

instance (x : Transition OutboxState OutboxLabel) : Decidable (ClaimsIdleRows x) :=
  inferInstanceAs (Decidable (∀ id ∈ x.label.claims, ¬ x.before.InFlight id))

def HeldBy (relay : String) (row : RabbitMQOutboxMessage) : Prop :=
  (row.status = .publishing ∧ row.lockOwner = some relay) ∨
    (row.status = .failed ∧ row.lockOwner = none)

/-- The two demands on a step: `PUBLISHED` is absorbing, and a mark leaves a row alone that
was claimed again since the marking relay claimed it. -/
structure LeaseSafe (x : Transition OutboxState OutboxLabel) : Prop where
  published_absorbing : ∀ id row, x.before.rows id = some row → row.status = .published →
    ∃ row', x.after.rows id = some row' ∧ row'.status = .published
  superseded_inert : ∀ lease, x.label.marks = some lease → ∀ row,
    x.before.rows lease.message.id = some row →
      row.attemptCount ≠ lease.message.attemptCount → x.after.rows = x.before.rows

def MarksOwnRow (x : Transition OutboxState OutboxLabel) : Prop :=
  ∀ lease, x.label.marks = some lease → ∃ row,
    x.before.rows lease.message.id = some row ∧
      row.attemptCount = lease.message.attemptCount ∧ HeldBy lease.relay row

structure LeasesFenced (s : OutboxState) : Prop where
  keyed : ∀ id row, s.rows id = some row → row.id = id
  held : ∀ lease ∈ s.leases, ∃ row, s.rows lease.message.id = some row ∧
    row.attemptCount = lease.message.attemptCount ∧ HeldBy lease.relay row
  publishing : ∀ lease ∈ s.leases, lease.message.status = .publishing
  distinct : (s.leases.map fun lease => lease.message.id).Nodup

section Claim

variable {s : OutboxState} {relay : String} {now : Time} {ids : List Uuid}

variable {id : Uuid}

theorem rows_claim_of_mem (hid : id ∈ ids) :
    (s.claim relay now ids).rows id = (s.rows id).map (claimMessage relay now) := by
  simp only [OutboxState.claim, hid, if_true]

theorem rows_claim_of_not_mem (hid : id ∉ ids) : (s.claim relay now ids).rows id = s.rows id := by
  simp only [OutboxState.claim, hid, if_false]

variable {lease : OutboxLease}

theorem mem_leases_claim :
    lease ∈ (s.claim relay now ids).leases ↔
      lease ∈ s.leases ∨
        ∃ id ∈ ids, ∃ row, s.rows id = some row ∧ lease = ⟨relay, claimMessage relay now row⟩ := by
  simp only [OutboxState.claim, List.mem_append, List.mem_filterMap, Option.map_eq_some_iff]
  constructor
  · rintro (h | ⟨id, hid, row, hrow, rfl⟩)
    · exact .inl h
    · exact .inr ⟨id, hid, row, hrow, rfl⟩
  · rintro (h | ⟨id, hid, row, hrow, rfl⟩)
    · exact .inl h
    · exact .inr ⟨id, hid, row, hrow, rfl⟩

theorem keyed_claim (hkeyed : ∀ id row, s.rows id = some row → row.id = id) (id : Uuid)
    (row : RabbitMQOutboxMessage) (hrow : (s.claim relay now ids).rows id = some row) :
    row.id = id := by
  by_cases hid : id ∈ ids
  · rw [rows_claim_of_mem hid, Option.map_eq_some_iff] at hrow
    obtain ⟨old, hold, rfl⟩ := hrow
    exact hkeyed id old hold
  · rw [rows_claim_of_not_mem hid] at hrow
    exact hkeyed id row hrow

theorem ids_of_new_leases (relay : String) (now : Time)
    (hkeyed : ∀ id row, s.rows id = some row → row.id = id)
    (hrows : ∀ id ∈ ids, ∃ row, s.rows id = some row) :
    ((ids.filterMap fun id => (s.rows id).map fun row =>
      (⟨relay, claimMessage relay now row⟩ : OutboxLease)).map fun lease => lease.message.id) =
      ids := by
  induction ids with
  | nil => rfl
  | cons id ids ih =>
    obtain ⟨row, hrow⟩ := hrows id List.mem_cons_self
    have hid : row.id = id := hkeyed id row hrow
    rw [List.filterMap_cons_some (by rw [hrow]; rfl), List.map_cons,
      ih fun other hother => hrows other (List.mem_cons_of_mem _ hother)]
    simp only [claimMessage, hid]

end Claim

variable {spec : RabbitMessageSpec}

theorem rows_insert_self {s : OutboxState} :
    (s.insert (outboxMessageFromSpec spec)).rows spec.messageId =
      some (outboxMessageFromSpec spec) :=
  Function.update_self ..

variable {id : Uuid}

theorem rows_insert_of_ne {s : OutboxState}
    (hid : id ≠ spec.messageId) : (s.insert (outboxMessageFromSpec spec)).rows id = s.rows id :=
  Function.update_of_ne hid ..

variable {lease : OutboxLease}

theorem rows_mark_self {s : OutboxState} {updated : RabbitMQOutboxMessage}
    {items : List RecoveryJobItem} :
    (s.mark lease updated items).rows lease.message.id =
      (s.rows lease.message.id).map (RabbitMQOutboxMessage.writeBack lease.message updated) := by
  simp only [OutboxState.mark, if_true]

theorem rows_mark_of_ne {s : OutboxState} {updated : RabbitMQOutboxMessage}
    {items : List RecoveryJobItem} (hid : id ≠ lease.message.id) :
    (s.mark lease updated items).rows id = s.rows id := by
  simp only [OutboxState.mark, hid, if_false]

theorem rows_recover_of_mem {s : OutboxState} {now : Time} {ids : List Uuid}
    (hid : id ∈ ids) : (s.recover now ids).rows id = (s.rows id).map (recoverStaleMessage now) := by
  simp only [OutboxState.recover, hid, if_true]

theorem rows_recover_of_not_mem {s : OutboxState} {now : Time} {ids : List Uuid}
    (hid : id ∉ ids) : (s.recover now ids).rows id = s.rows id := by
  simp only [OutboxState.recover, hid, if_false]

theorem HeldBy.status_ne_published {relay : String} {row : RabbitMQOutboxMessage}
    (h : HeldBy relay row) : row.status ≠ .published := by
  rcases h with ⟨h, -⟩ | ⟨h, -⟩ <;> simp [h]

theorem LeasesFenced.enqueue {s : OutboxState} (h : LeasesFenced s)
    (hfree : s.rows spec.messageId = none) :
    LeasesFenced (s.insert (outboxMessageFromSpec spec)) where
  keyed id row hrow := by
    by_cases hid : id = spec.messageId
    · subst hid
      rw [rows_insert_self] at hrow
      cases hrow
      rfl
    · rw [rows_insert_of_ne hid] at hrow
      exact h.keyed id row hrow
  held lease hlease := by
    obtain ⟨row, hrow, hheld⟩ := h.held lease hlease
    have hne : lease.message.id ≠ spec.messageId := by
      intro heq
      rw [heq, hfree] at hrow
      cases hrow
    exact ⟨row, by rw [rows_insert_of_ne hne]; exact hrow, hheld⟩
  publishing := h.publishing
  distinct := h.distinct

theorem LeasesFenced.claim {s : OutboxState} (h : LeasesFenced s) {relay : String} {now : Time}
    {ids : List Uuid} (hnodup : ids.Nodup) (hrows : ∀ id ∈ ids, ∃ row, s.rows id = some row)
    (hidle : ∀ id ∈ ids, ¬ s.InFlight id) : LeasesFenced (s.claim relay now ids) where
  keyed := keyed_claim h.keyed
  held lease hlease := by
    rcases mem_leases_claim.mp hlease with hold | ⟨id, hid, row, hrow, rfl⟩
    · have hnot : lease.message.id ∉ ids := fun hmem =>
        hidle lease.message.id hmem ⟨lease, hold, rfl⟩
      rw [rows_claim_of_not_mem hnot]
      exact h.held lease hold
    have hrowid : row.id = id := h.keyed id row hrow
    refine ⟨claimMessage relay now row, ?_, rfl, .inl ⟨rfl, rfl⟩⟩
    change (s.claim relay now ids).rows row.id = _
    rw [hrowid, rows_claim_of_mem hid, hrow]
    rfl
  publishing lease hlease := by
    rcases mem_leases_claim.mp hlease with hold | ⟨id, hid, row, hrow, rfl⟩
    · exact h.publishing lease hold
    · rfl
  distinct := by
    have hnew := ids_of_new_leases relay now h.keyed hrows
    simp only [OutboxState.claim, List.map_append]
    rw [hnew, List.nodup_append]
    refine ⟨h.distinct, hnodup, ?_⟩
    intro id hold other hother heq
    subst heq
    obtain ⟨lease, hlease, hid⟩ := List.mem_map.mp hold
    exact hidle id hother ⟨lease, hlease, hid⟩

theorem LeasesFenced.mark {s : OutboxState} (h : LeasesFenced s)
    (hlease : lease ∈ s.leases) (updated : RabbitMQOutboxMessage) (items : List RecoveryJobItem) :
    LeasesFenced (s.mark lease updated items) where
  keyed id row hrow := by
    by_cases hid : id = lease.message.id
    · subst hid
      rw [rows_mark_self, Option.map_eq_some_iff] at hrow
      obtain ⟨old, hold, rfl⟩ := hrow
      exact h.keyed _ old hold
    · rw [rows_mark_of_ne hid] at hrow
      exact h.keyed id row hrow
  held other hother := by
    have hmem : other ∈ s.leases := List.mem_of_mem_erase hother
    have hne : other.message.id ≠ lease.message.id := by
      intro heq
      have hsame : other = lease := List.inj_on_of_nodup_map h.distinct hmem hlease heq
      have hnodup : s.leases.Nodup := List.Nodup.of_map _ h.distinct
      exact hnodup.not_mem_erase (hsame ▸ hother)
    rw [rows_mark_of_ne hne]
    exact h.held other hmem
  publishing other hother := h.publishing other (List.mem_of_mem_erase hother)
  distinct := h.distinct.sublist (List.erase_sublist.map _)

theorem LeasesFenced.recover {s : OutboxState} (h : LeasesFenced s) (now : Time)
    (ids : List Uuid) : LeasesFenced (s.recover now ids) where
  keyed id row hrow := by
    by_cases hid : id ∈ ids
    · rw [rows_recover_of_mem hid, Option.map_eq_some_iff] at hrow
      obtain ⟨old, hold, rfl⟩ := hrow
      exact h.keyed id old hold
    · rw [rows_recover_of_not_mem hid] at hrow
      exact h.keyed id row hrow
  held lease hlease := by
    obtain ⟨row, hrow, hcount, hheld⟩ := h.held lease hlease
    by_cases hid : lease.message.id ∈ ids
    · refine ⟨recoverStaleMessage now row, ?_, hcount, .inr ⟨rfl, rfl⟩⟩
      rw [rows_recover_of_mem hid, hrow]
      rfl
    · exact ⟨row, by rw [rows_recover_of_not_mem hid]; exact hrow, hcount, hheld⟩
  publishing := h.publishing
  distinct := h.distinct

variable {settings : PipelineSettings} {x : Transition OutboxState OutboxLabel}

section Step

variable (hstep : outboxStep settings x.before x.label = some x.after)

include hstep

theorem LeasesFenced.step (hidle : ClaimsIdleRows x)
    (h : LeasesFenced x.before) : LeasesFenced x.after := by
  obtain ⟨s, label, t⟩ := x
  have heffect : OutboxEffect settings s label t := outboxStep_effect hstep
  cases heffect with
  | enqueue spec hfree => exact h.enqueue hfree
  | claim label relay now hmarks hnodup hadmits =>
    refine h.claim hnodup (fun id hid => ?_) hidle
    obtain ⟨row, hrow, -⟩ := hadmits id hid
    exact ⟨row, hrow⟩
  | mark label lease updated items hmarks hclaims hlease hstatus hcount =>
    exact h.mark hlease updated items
  | recover staleBefore now ids hstale => exact h.recover now ids
  | crash relay =>
    exact ⟨h.keyed, fun lease hlease => h.held lease (List.mem_of_mem_filter hlease),
      fun lease hlease => h.publishing lease (List.mem_of_mem_filter hlease),
      h.distinct.sublist (List.filter_sublist.map _)⟩
  | recovery items => exact ⟨h.keyed, h.held, h.publishing, h.distinct⟩

theorem marksOwnRow_of_fenced (h : LeasesFenced x.before) : MarksOwnRow x := by
  obtain ⟨s, label, t⟩ := x
  intro lease hlabel
  have heffect : OutboxEffect settings s label t := outboxStep_effect hstep
  cases heffect with
  | enqueue spec hfree => cases hlabel
  | claim label relay now hmarks hnodup hadmits =>
    rw [hmarks] at hlabel
    cases hlabel
  | mark label other updated items hmarks hclaims hlease hstatus hcount =>
    rw [hmarks] at hlabel
    cases hlabel
    exact h.held lease hlease
  | recover staleBefore now ids hstale => cases hlabel
  | crash relay => cases hlabel
  | recovery items => cases hlabel

theorem published_absorbing_of_fenced (h : LeasesFenced x.before)
    {row : RabbitMQOutboxMessage} (hrow : x.before.rows id = some row)
    (hpublished : row.status = .published) :
    ∃ row', x.after.rows id = some row' ∧ row'.status = .published := by
  obtain ⟨s, label, t⟩ := x
  have heffect : OutboxEffect settings s label t := outboxStep_effect hstep
  cases heffect with
  | enqueue spec hfree =>
    have hne : id ≠ spec.messageId := by
      rintro rfl
      simp [hfree] at hrow
    exact ⟨row, by rw [rows_insert_of_ne hne]; exact hrow, hpublished⟩
  | claim label relay now hmarks hnodup hadmits =>
    have hnot : id ∉ label.claims := by
      intro hid
      obtain ⟨other, hother, hfilter⟩ := hadmits id hid
      have hsame : other = row := Option.some.inj (hother.symm.trans hrow)
      subst hsame
      rcases status_of_claimSpecificFilter hfilter with hs | hs <;> simp [hs] at hpublished
    exact ⟨row, by rw [rows_claim_of_not_mem hnot]; exact hrow, hpublished⟩
  | mark label lease updated items hmarks hclaims hlease hstatus hcount =>
    have hne : id ≠ lease.message.id := by
      rintro rfl
      obtain ⟨held, hheld, -, howned⟩ := h.held lease hlease
      have hsame : held = row := Option.some.inj (hheld.symm.trans hrow)
      exact howned.status_ne_published (hsame ▸ hpublished)
    exact ⟨row, by rw [rows_mark_of_ne hne]; exact hrow, hpublished⟩
  | recover staleBefore now ids hstale =>
    have hnot : id ∉ ids := by
      intro hid
      obtain ⟨other, hother, hpublishing⟩ := hstale id hid
      have hsame : other = row := Option.some.inj (hother.symm.trans hrow)
      subst hsame
      simp [hpublishing] at hpublished
    exact ⟨row, by rw [rows_recover_of_not_mem hnot]; exact hrow, hpublished⟩
  | crash relay => exact ⟨row, hrow, hpublished⟩
  | recovery items => exact ⟨row, hrow, hpublished⟩

end Step

def OutboxState.Initial (s : OutboxState) : Prop :=
  (∀ id row, s.rows id = some row → row.id = id) ∧ s.leases = []

theorem OutboxState.initial_empty : OutboxState.Initial {} := ⟨fun _ _ h => (by cases h), rfl⟩

theorem LeasesFenced.of_initial {s : OutboxState} (h : s.Initial) : LeasesFenced s where
  keyed := h.1
  held lease hlease := by simp [h.2] at hlease
  publishing lease hlease := by simp [h.2] at hlease
  distinct := by simp [h.2]

/-- While no row is claimed under a publish that is still running, `PUBLISHED` is absorbing and
only the relay of a row's latest claim decides its outcome. -/
theorem leaseSafe_of_claimsIdleRows (settings : PipelineSettings) {s : OutboxState}
    (hinit : s.Initial) {labels : List OutboxLabel}
    (hidle : ∀ x ∈ transitions (outboxStep settings) s labels, ClaimsIdleRows x) :
    ∀ x ∈ transitions (outboxStep settings) s labels, LeaseSafe x ∧ MarksOwnRow x := by
  intro x hx
  have hfenced : LeasesFenced x.before :=
    invariant_before (P := LeasesFenced) (LeasesFenced.of_initial hinit)
      (fun y hy hbefore => hbefore.step (step_of_mem_transitions hy) (hidle y hy)) hx
  have hstep := step_of_mem_transitions hx
  have hown : MarksOwnRow x := marksOwnRow_of_fenced hstep hfenced
  refine ⟨⟨fun id row hrow hpublished => ?_, fun lease hlease row hrow hcount => ?_⟩, hown⟩
  · exact published_absorbing_of_fenced hstep hfenced hrow hpublished
  obtain ⟨held, hheld, hsame, -⟩ := hown lease hlease
  rw [hrow] at hheld
  cases hheld
  exact absurd hsame hcount

def slowSpec : RabbitMessageSpec where
  routingKey := .stage .ocr
  payload := .mediaInspect 1 "sha"
  messageId := 7
  eventType := .memeTranscoded
  aggregateType := .memeFile
  aggregateId := 1
  orderingKey := some 1
  createdAt := 0

def slowLease (relay : String) (now : Time) (row : RabbitMQOutboxMessage) : OutboxLease :=
  ⟨relay, claimMessage relay now row⟩

/-- Relay `a` is still publishing when its lease is recovered; relay `b` claims and publishes
the row; then the publish of `a` times out. -/
def slowPublish : List OutboxLabel :=
  let first := outboxMessageFromSpec slowSpec
  let second := recoverStaleMessage 20 (claimMessage "a" 10 first)
  [.enqueue slowSpec, .claimSpecific "a" 10 [7] [7], .recoverStalePublishing 15 20 [7],
    .claimDue "b" 1 30 [7], .markPublished (slowLease "b" 30 second) 31,
    .markFailed (slowLease "a" 10 first) 40 "timeout"]

theorem leaseSafe_of_claimsIdleRows_latePublish :
    OutboxState.Initial {} ∧ ∀ x ∈ transitions (outboxStep {}) {} (slowPublish.take 3 ++
        [.markPublished (slowLease "a" 10 (outboxMessageFromSpec slowSpec)) 25]),
      LeaseSafe x ∧ MarksOwnRow x :=
  ⟨OutboxState.initial_empty,
    leaseSafe_of_claimsIdleRows {} OutboxState.initial_empty (by decide)⟩

theorem not_leaseSafe_slowPublish :
    ¬ ∀ (settings : PipelineSettings) (s : OutboxState), s.Initial → ∀ labels,
      ∀ x ∈ transitions (outboxStep settings) s labels, LeaseSafe x := by
  intro h
  have hmoved : (transitions (outboxStep {}) {} slowPublish).any (fun x =>
      ((x.before.rows 7).map (·.status) == some .published) &&
        ((x.after.rows 7).map (·.status) == some .failed)) = true := by
    decide
  obtain ⟨x, hx, hstatus⟩ := List.any_eq_true.mp hmoved
  simp only [Bool.and_eq_true, beq_iff_eq, Option.map_eq_some_iff] at hstatus
  obtain ⟨⟨row, hrow, hpublished⟩, row', hrow', hfailed⟩ := hstatus
  have hsafe : LeaseSafe x := h {} {} OutboxState.initial_empty slowPublish x hx
  obtain ⟨kept, hkept, hstill⟩ := hsafe.published_absorbing 7 row hrow hpublished
  have hsame : kept = row' := Option.some.inj (hkept.symm.trans hrow')
  rw [hsame, hfailed] at hstill
  cases hstill

/-- What a relay sends of the row it claimed. -/
def messageSpecFromOutboxMessage (message : RabbitMQOutboxMessage) : RabbitMessageSpec where
  routingKey := message.routingKey
  payload := message.payload
  messageId := message.messageId
  eventType := message.eventType
  aggregateType := message.aggregateType
  aggregateId := message.aggregateId
  orderingKey := message.orderingKey
  createdAt := message.createdAt

def SameEvent (row other : RabbitMQOutboxMessage) : Prop :=
  row.id = other.id ∧ messageSpecFromOutboxMessage row = messageSpecFromOutboxMessage other

/-- What was enqueued is there unaltered, and a relay that held it sent what is published. -/
structure EventsKept (past : List OutboxLabel) (s : OutboxState) : Prop where
  keyed : ∀ id row, s.rows id = some row → row.id = id
  enqueued : ∀ spec, .enqueue spec ∈ past →
    ∃ row, s.rows spec.messageId = some row ∧ messageSpecFromOutboxMessage row = spec
  held : ∀ lease ∈ s.leases, ∃ row, s.rows lease.message.id = some row ∧ SameEvent row lease.message
  published : ∀ id row, s.rows id = some row → row.status = .published →
    ∃ lease now, .markPublished lease now ∈ past ∧ SameEvent row lease.message

variable {s t : OutboxState} {label : OutboxLabel} {past : List OutboxLabel}

/-- The row stays or is rewritten without its event, and is published only by a mark. -/
def RowRewritten (s : OutboxState) (label : OutboxLabel) (t : OutboxState) (id : Uuid) : Prop :=
  ∃ g, t.rows id = (s.rows id).map g ∧ ∀ row, SameEvent (g row) row ∧
    ((g row).status = .published → row.status = .published ∨
      ∃ lease ∈ s.leases, ∃ now, label = .markPublished lease now ∧ lease.message.id = id)

theorem rowRewritten_stay (h : t.rows id = s.rows id) : RowRewritten s label t id :=
  ⟨fun row => row, h.trans Option.map_id'.symm, fun _ => ⟨⟨rfl, rfl⟩, .inl⟩⟩

theorem rowRewritten_mark (hlease : lease ∈ s.leases) {updated : RabbitMQOutboxMessage}
    (items : List RecoveryJobItem)
    (hpublished : updated.status = .published → ∃ now, label = .markPublished lease now) :
    RowRewritten s label (s.mark lease updated items) id := by
  by_cases hid : id = lease.message.id
  · subst hid
    refine ⟨_, rows_mark_self, fun row => ⟨⟨rfl, rfl⟩, fun h => ?_⟩⟩
    dsimp only [RabbitMQOutboxMessage.writeBack, writeColumn] at h
    split at h
    · exact .inl h
    · obtain ⟨now, hlabel⟩ := hpublished h
      exact .inr ⟨lease, hlease, now, hlabel, rfl⟩
  · exact rowRewritten_stay (rows_mark_of_ne hid)

theorem rows_step (hstep : outboxStep settings s label = some t) (id : Uuid) :
    (∃ spec, id = spec.messageId ∧ s.rows id = none ∧
      t.rows id = some (outboxMessageFromSpec spec)) ∨ RowRewritten s label t id := by
  cases hmarks : label.marks with
  | some lease =>
    cases label with
    | markPublished lease now =>
      simp only [outboxStep, Option.ite_none_right_eq_some] at hstep
      obtain ⟨hlease, hstep⟩ := hstep
      cases hstep
      exact .inr (rowRewritten_mark hlease _ fun _ => ⟨now, rfl⟩)
    | markFailed lease now error =>
      simp only [outboxStep, Option.ite_none_right_eq_some] at hstep
      obtain ⟨hlease, hstep⟩ := hstep
      cases hstep
      exact .inr (rowRewritten_mark hlease _ fun h => by simp [markFailed] at h)
    | _ => cases hmarks
  | none =>
    cases outboxStep_effect hstep with
    | enqueue spec hfree =>
      by_cases hid : id = spec.messageId
      · exact .inl ⟨spec, hid, hid ▸ hfree, hid ▸ rows_insert_self⟩
      · exact .inr (rowRewritten_stay (rows_insert_of_ne hid))
    | claim label relay now =>
      by_cases hid : id ∈ label.claims
      · exact .inr ⟨_, rows_claim_of_mem hid, fun _ => ⟨⟨rfl, rfl⟩, fun h => by cases h⟩⟩
      · exact .inr (rowRewritten_stay (rows_claim_of_not_mem hid))
    | mark label lease updated items hsome => cases hmarks.symm.trans hsome
    | recover staleBefore now ids =>
      by_cases hid : id ∈ ids
      · exact .inr ⟨_, rows_recover_of_mem hid, fun _ => ⟨⟨rfl, rfl⟩, fun h => by cases h⟩⟩
      · exact .inr (rowRewritten_stay (rows_recover_of_not_mem hid))
    | crash relay => exact .inr (rowRewritten_stay rfl)
    | recovery items => exact .inr (rowRewritten_stay rfl)

theorem row_step (hstep : outboxStep settings s label = some t) {row : RabbitMQOutboxMessage}
    (hrow : s.rows id = some row) : ∃ row', t.rows id = some row' ∧ SameEvent row' row := by
  rcases rows_step hstep id with ⟨spec, -, hfree, -⟩ | ⟨g, hg, hsame⟩
  · rw [hfree] at hrow
    cases hrow
  · exact ⟨g row, by rw [hg, hrow]; rfl, (hsame row).1⟩

theorem EventsKept.step (h : EventsKept past s) (hstep : outboxStep settings s label = some t) :
    EventsKept (past ++ [label]) t where
  keyed id row hrow := by
    rcases rows_step hstep id with ⟨spec, rfl, -, hnew⟩ | ⟨g, hg, hsame⟩
    · rw [hnew] at hrow
      cases hrow
      rfl
    · rw [hg, Option.map_eq_some_iff] at hrow
      obtain ⟨old, hold, rfl⟩ := hrow
      exact (hsame old).1.1.trans (h.keyed id old hold)
  enqueued spec hspec := by
    rcases List.mem_append.mp hspec with hpast | hlast
    · obtain ⟨row, hrow, hevent⟩ := h.enqueued spec hpast
      obtain ⟨row', hrow', hsame⟩ := row_step hstep hrow
      exact ⟨row', hrow', hsame.2.trans hevent⟩
    · rw [← List.mem_singleton.mp hlast] at hstep
      simp only [outboxStep, Option.ite_none_right_eq_some] at hstep
      obtain ⟨-, hstep⟩ := hstep
      cases hstep
      exact ⟨_, rows_insert_self, rfl⟩
  held lease hlease := by
    suffices hbefore : ∃ row, s.rows lease.message.id = some row ∧ SameEvent row lease.message by
      obtain ⟨row, hrow, hsame⟩ := hbefore
      obtain ⟨row', hrow', hid, hspec⟩ := row_step hstep hrow
      exact ⟨row', hrow', hid.trans hsame.1, hspec.trans hsame.2⟩
    cases outboxStep_effect hstep with
    | claim label relay now =>
      rcases mem_leases_claim.mp hlease with hold | ⟨id, -, row, hrow, rfl⟩
      · exact h.held lease hold
      · exact ⟨row, h.keyed id row hrow ▸ hrow, rfl, rfl⟩
    | mark label other updated items => exact h.held lease (List.mem_of_mem_erase hlease)
    | crash relay => exact h.held lease (List.mem_of_mem_filter hlease)
    | _ => exact h.held lease hlease
  published id row hrow hpublished := by
    rcases rows_step hstep id with ⟨spec, -, -, hnew⟩ | ⟨g, hg, hsame⟩
    · rw [hnew] at hrow
      cases hrow
      cases hpublished
    · rw [hg, Option.map_eq_some_iff] at hrow
      obtain ⟨old, hold, rfl⟩ := hrow
      obtain ⟨⟨hid, hspec⟩, hmarked⟩ := hsame old
      rcases hmarked hpublished with hbefore | ⟨lease, hlease, now, rfl, rfl⟩
      · obtain ⟨lease, now, hmark, hevent⟩ := h.published id old hold hbefore
        exact ⟨lease, now, List.mem_append_left _ hmark, hid.trans hevent.1,
          hspec.trans hevent.2⟩
      · obtain ⟨held, hheld, hevent⟩ := h.held lease hlease
        rw [hold] at hheld
        cases hheld
        exact ⟨lease, now, List.mem_append_right _ List.mem_cons_self, hid.trans hevent.1,
          hspec.trans hevent.2⟩

/-- Whatever the relays do, no event is lost or altered, and none counts as published that was
not sent. -/
theorem events_kept (settings : PipelineSettings) (labels : List OutboxLabel) :
    EventsKept ((transitions (outboxStep settings) {} labels).map Transition.label)
      (final (outboxStep settings) {} labels) := by
  have hempty : EventsKept [] {} :=
    ⟨fun _ _ h => (by cases h), fun _ h => (by cases h), fun _ h => (by cases h),
      fun _ _ h => (by cases h)⟩
  exact history_final (fun past s label t h hstep => h.step hstep) hempty labels

end MemeExpert.Messaging
