import MemeExpert.Services.RecoveryActions
import MemeExpert.Services.RecoveryReservations

/-! An item that was scheduled from an available action is validated again when it is
claimed. -/

namespace MemeExpert.Services

open Pipeline Tables

section Fold

variable {s t : CanonicalState} {key : WorkKey} {work : RecoveryWorkRead}
  {row : PipelineDeadLetter} {rows : List PipelineDeadLetter}

theorem deadLetterMatchesWork_foldDeadLetter (other : PipelineDeadLetter) :
    deadLetterMatchesWork other (foldDeadLetter work row) = deadLetterMatchesWork other work :=
  rfl

theorem collectDeadLetter_apply (collected : CollectedWork) (hkind : key.1 ≠ .deadLetter)
    (hlinked : row.workKind = some key.1 ∧ row.workId = some key.2) :
    collectDeadLetter collected row key =
      (collected key).map fun work =>
        if deadLetterMatchesWork row work then foldDeadLetter work row else work := by
  have hne : key ≠ (.deadLetter, .row row.id) := by
    rintro rfl
    exact hkind rfl
  simp only [collectDeadLetter, hlinked.1, hlinked.2]
  cases hwork : collected key with
  | none =>
    simp only [Option.map_none]
    rw [Function.update_of_ne hne, hwork]
  | some existing =>
    simp only [Option.map_some]
    split
    · exact Function.update_self ..
    · rw [Function.update_of_ne hne, hwork]

theorem foldl_collectDeadLetter_apply (collected : CollectedWork) (hkind : key.1 ≠ .deadLetter)
    (hlinked : ∀ row ∈ rows, row.workKind = some key.1 ∧ row.workId = some key.2) :
    rows.foldl collectDeadLetter collected key =
      (collected key).map fun work =>
        (rows.filter fun row => deadLetterMatchesWork row work).foldl foldDeadLetter work := by
  induction rows generalizing collected with
  | nil => simp
  | cons row rest ih =>
    rw [List.foldl_cons, ih _ fun other hother => hlinked other (List.mem_cons_of_mem _ hother),
      collectDeadLetter_apply collected hkind (hlinked row List.mem_cons_self), Option.map_map]
    congr 1
    funext work
    simp only [Function.comp_apply]
    split
    · next hmatches => simp [hmatches, deadLetterMatchesWork_foldDeadLetter]
    · next hmatches => simp [hmatches]

theorem linked_of_mem_readDeadLetters (hkind : key.1 ≠ .deadLetter)
    (hrow : row ∈ readDeadLetters s key) :
    row.workKind = some key.1 ∧ row.workId = some key.2 := by
  have hmem := mem_of_mem_newestFirst hrow
  simp [hkind, isLinkedTo] at hmem
  exact hmem.2.2.2.2

def foldedDeadLetters (s : CanonicalState) (work : RecoveryWorkRead) : List PipelineDeadLetter :=
  (readDeadLetters s (work.kind, .row work.id)).filter fun row => deadLetterMatchesWork row work

def foldDeadLetters (s : CanonicalState) (work : RecoveryWorkRead) : RecoveryWorkRead :=
  (foldedDeadLetters s work).foldl foldDeadLetter work

theorem recoverableRow_key (h : recoverableRow s key = some work) :
    key = (work.kind, .row work.id) := by
  obtain ⟨kind, workId⟩ := key
  cases workId with
  | planned => cases kind <;> simp [recoverableRow] at h
  | row id =>
    cases kind <;> simp only [recoverableRow, Option.map_eq_some_iff, reduceCtorEq] at h <;>
      obtain ⟨entry, hentry, rfl⟩ := h <;>
      obtain ⟨hget, -⟩ := Option.filter_eq_some_iff.mp hentry <;>
      obtain ⟨-, hid⟩ := (Table.get_eq_some_iff _).mp hget <;>
      exact congrArg (fun id => (_, RecoveryWorkId.row id)) hid.symm

theorem collectWork_self (hkind : key.1 ≠ .deadLetter) :
    collectWork s key key = (recoverableRow s key).map (foldDeadLetters s) := by
  rw [collectWork, foldl_collectDeadLetter_apply _ hkind fun row hrow =>
    linked_of_mem_readDeadLetters hkind hrow]
  cases hwork : recoverableRow s key with
  | none => rfl
  | some work =>
    have hkey := recoverableRow_key hwork
    simp only [Function.update_self, Option.map_some, foldDeadLetters, foldedDeadLetters, ← hkey]

theorem getWork_eq_ok_iff : getWork s key = .ok work ↔ collectWork s key key = some work := by
  unfold getWork
  cases collectWork s key key with
  | none => simp
  | some found => simp

def RecoveryVersion.deadLetterCount : RecoveryVersion → Nat
  | .deadLetter work _ => RecoveryVersion.deadLetterCount work + 1
  | _ => 0

theorem deadLetterCount_foldl (rows : List PipelineDeadLetter) (work : RecoveryWorkRead) :
    RecoveryVersion.deadLetterCount (rows.foldl foldDeadLetter work).version =
      RecoveryVersion.deadLetterCount work.version + rows.length := by
  induction rows generalizing work with
  | nil => rfl
  | cons row rest ih =>
    rw [List.foldl_cons, ih, List.length_cons]
    simp only [foldDeadLetter, RecoveryVersion.deadLetterCount]
    omega

theorem version_foldl_eq_deadLetter_iff {stamp : Time} :
    (rows.foldl foldDeadLetter work).version = .deadLetter work.version stamp ↔
      rows.map (·.updatedAt) = [stamp] := by
  constructor
  · intro hversion
    have hcount := deadLetterCount_foldl rows work
    rw [hversion] at hcount
    simp only [RecoveryVersion.deadLetterCount] at hcount
    obtain ⟨row, rfl⟩ := List.length_eq_one_iff.mp (show rows.length = 1 by omega)
    simp only [List.foldl_cons, List.foldl_nil, foldDeadLetter, RecoveryVersion.deadLetter.injEq,
      true_and] at hversion
    simp [hversion]
  intro hstamps
  obtain ⟨row, hrow, hstamp⟩ := List.map_eq_singleton_iff.mp hstamps
  subst hrow hstamp
  rfl

theorem capabilities_foldl_of_ne_nil (hrows : rows ≠ []) :
    (rows.foldl foldDeadLetter work).capabilities = [.recoverDeadLetter] := by
  obtain ⟨init, last, rfl⟩ := (List.eq_nil_or_concat rows).resolve_left hrows
  rw [List.concat_eq_append, List.foldl_append]
  rfl

theorem deadLetterId_foldl (hrow : rows.getLast? = some row) :
    (rows.foldl foldDeadLetter work).deadLetterId = some row.id := by
  obtain ⟨init, rfl⟩ := List.getLast?_eq_some_iff.mp hrow
  rw [List.foldl_append]
  rfl

end Fold

structure Untouched (s t : CanonicalState) : Prop where
  clock : s.clock ≤ t.clock
  files : t.files = s.files
  stages : t.stages = s.stages
  syncTargets : t.syncTargets = s.syncTargets
  ingestRequests : t.ingestRequests = s.ingestRequests
  outbox : t.outbox = s.outbox
  backfills : t.backfills = s.backfills
  sourcePosts : t.sourcePosts = s.sourcePosts
  deadLetters : t.deadLetters = s.deadLetters
  presence : t.presence = s.presence

section Later

variable {s t : CanonicalState} {key : WorkKey} {work : RecoveryWorkRead}

section SameDeadLetters

variable (h : t.deadLetters = s.deadLetters)

include h

theorem readDeadLetters_congr : readDeadLetters t key = readDeadLetters s key := by
  unfold readDeadLetters
  rw [h]
  congr 1
  refine List.filter_congr fun row hrow => ?_
  have hs := s.deadLetterStamps row hrow
  have ht := t.deadLetterStamps row (h ▸ hrow)
  simp [hs, ht]

theorem linkedDeadLetter_congr : linkedDeadLetter t work = linkedDeadLetter s work := by
  unfold linkedDeadLetter
  rw [h]

theorem withLinkedDeadLetter_congr : withLinkedDeadLetter t work = withLinkedDeadLetter s work := by
  unfold withLinkedDeadLetter
  rw [linkedDeadLetter_congr h]

theorem foldedDeadLetters_congr : foldedDeadLetters t work = foldedDeadLetters s work := by
  unfold foldedDeadLetters
  rw [readDeadLetters_congr h]

end SameDeadLetters

theorem stuckBefore_mono (hclock : s.clock ≤ t.clock) {after stamp : Time}
    (h : stuckBefore s after stamp = true) : stuckBefore t after stamp = true := by
  simp only [stuckBefore, decide_eq_true_eq] at h ⊢
  exact lt_of_lt_of_le h hclock

theorem filtered_mono {ρ : Type} {found : Option ρ} {before after : ρ → Bool}
    {read : ρ → RecoveryWorkRead} (h : (found.filter before).map read = some work)
    (hmono : ∀ row, before row = true → after row = true) :
    (found.filter after).map read = some work := by
  obtain ⟨row, hrow, heq⟩ := Option.map_eq_some_iff.mp h
  obtain ⟨hget, hbefore⟩ := Option.filter_eq_some_iff.mp hrow
  have hkept : found.filter after = some row :=
    Option.filter_eq_some_iff.mpr ⟨hget, hmono row hbefore⟩
  exact Option.map_eq_some_iff.mpr ⟨row, hkept, heq⟩

theorem recoverableRow_mono (h : Untouched s t) (hrow : recoverableRow s key = some work) :
    recoverableRow t key = some work := by
  have hclock := h.clock
  obtain ⟨kind, workId⟩ := key
  cases workId with
  | planned => cases kind <;> simp [recoverableRow] at hrow
  | row id =>
    cases kind with
    | deadLetter => simp [recoverableRow] at hrow
    | backfill =>
      simp only [recoverableRow, h.backfills] at hrow ⊢
      refine filtered_mono hrow fun row hrecoverable => ?_
      simp only [isRecoverableBackfill, decide_eq_true_eq] at hrecoverable ⊢
      obtain ⟨hstamp, hstatus⟩ := hrecoverable
      refine ⟨hstamp.trans hclock, hstatus.imp_right ?_⟩
      rintro ⟨hrunning, hprogress⟩
      refine ⟨hrunning, ?_⟩
      obtain ⟨stamp, hsome, hstuck⟩ := (Option.any_eq_true _ _).mp hprogress
      exact (Option.any_eq_true _ _).mpr ⟨stamp, hsome, stuckBefore_mono hclock hstuck⟩
    | sourcePost =>
      simp only [recoverableRow, h.sourcePosts] at hrow ⊢
      refine filtered_mono hrow fun row hrecoverable => ?_
      simp only [isRecoverablePost, decide_eq_true_eq] at hrecoverable ⊢
      exact ⟨hrecoverable.1, hrecoverable.2.trans hclock⟩
    | ingestRequest =>
      simp only [recoverableRow, h.ingestRequests] at hrow ⊢
      refine filtered_mono hrow fun row hrecoverable => ?_
      simp only [isRecoverableIngest, decide_eq_true_eq] at hrecoverable ⊢
      exact ⟨hrecoverable.1.trans hclock,
        hrecoverable.2.imp_right fun hstuck => ⟨hstuck.1, stuckBefore_mono hclock hstuck.2⟩⟩
    | pipelineStage =>
      have hread : stageWork t = stageWork s := by
        funext entry
        simp only [stageWork, h.files]
      simp only [recoverableRow, h.stages, hread] at hrow ⊢
      refine filtered_mono hrow fun row hrecoverable => ?_
      simp only [isRecoverableStage, decide_eq_true_eq] at hrecoverable ⊢
      exact ⟨hrecoverable.1.trans hclock, hrecoverable.2.1,
        hrecoverable.2.2.imp_right fun hstuck => ⟨hstuck.1, stuckBefore_mono hclock hstuck.2⟩⟩
    | syncTarget =>
      simp only [recoverableRow, h.syncTargets] at hrow ⊢
      refine filtered_mono hrow fun row hrecoverable => ?_
      simp only [isRecoverableSync, decide_eq_true_eq] at hrecoverable ⊢
      exact ⟨hrecoverable.1.trans hclock,
        hrecoverable.2.imp_right fun hstuck => ⟨hstuck.1, stuckBefore_mono hclock hstuck.2⟩⟩
    | outbox =>
      simp only [recoverableRow, h.outbox] at hrow ⊢
      refine filtered_mono hrow fun row hrecoverable => ?_
      simp only [isRecoverableOutbox, decide_eq_true_eq] at hrecoverable ⊢
      exact ⟨hrecoverable.1.trans hclock,
        hrecoverable.2.imp_right fun hstuck => ⟨hstuck.1, stuckBefore_mono hclock hstuck.2⟩⟩

theorem collectWork_congr (h : t.deadLetters = s.deadLetters)
    (hrow : recoverableRow t key = recoverableRow s key) :
    collectWork t key key = collectWork s key key := by
  unfold collectWork
  rw [readDeadLetters_congr h, hrow]

theorem getWork_of_untouched (h : Untouched s t) (hwork : getWork s key = .ok work) :
    getWork t key = .ok work := by
  have hsame : collectWork t key key = collectWork s key key := by
    by_cases hkind : key.1 = .deadLetter
    · refine collectWork_congr h.deadLetters ?_
      obtain ⟨kind, workId⟩ := key
      cases hkind
      cases workId <;> rfl
    rw [collectWork_self hkind, collectWork_self hkind]
    cases hrow : recoverableRow s key with
    | none =>
      rw [getWork_eq_ok_iff, collectWork_self hkind, hrow] at hwork
      cases hwork
    | some found =>
      rw [recoverableRow_mono h hrow, Option.map_some, Option.map_some, foldDeadLetters,
        foldDeadLetters, foldedDeadLetters_congr h.deadLetters]
  rw [getWork_eq_ok_iff] at hwork ⊢
  rw [hsame]
  exact hwork

theorem length_le_one_of_subsingleton {α : Type} {rows : List α} (hnodup : rows.Nodup)
    (hsame : ∀ a ∈ rows, ∀ b ∈ rows, a = b) : rows.length ≤ 1 := by
  cases rows with
  | nil => exact Nat.zero_le 1
  | cons first rest =>
    cases rest with
    | nil => exact le_rfl
    | cons second rest =>
      have heq : first = second := hsame first (by simp) second (by simp)
      simp [heq] at hnodup

theorem readDeadLetters_deadLetter (workId : RecoveryWorkId) :
    readDeadLetters s (.deadLetter, workId) = [] ∨
      ∃ row, readDeadLetters s (.deadLetter, workId) = [row] ∧ .row row.id = workId ∧
        row ∈ s.deadLetters.rows := by
  have hmem : ∀ row ∈ readDeadLetters s (.deadLetter, workId),
      row ∈ s.deadLetters.rows ∧ .row row.id = workId := by
    intro row hrow
    have hfiltered := mem_of_mem_newestFirst hrow
    simp only [List.mem_filter, if_true, decide_eq_true_eq] at hfiltered
    exact ⟨hfiltered.1, hfiltered.2.2.2⟩
  have hlength : (readDeadLetters s (.deadLetter, workId)).length ≤ 1 := by
    refine length_le_one_of_subsingleton ?_ ?_
    · exact nodup_newestFirst ((s.deadLetters.unique.of_map _).filter _)
    intro a ha b hb
    obtain ⟨hmema, hida⟩ := hmem a ha
    obtain ⟨hmemb, hidb⟩ := hmem b hb
    refine s.deadLetters.eq_of_key_eq hmema hmemb ?_
    exact RecoveryWorkId.row.inj (hida.trans hidb.symm)
  rcases hrows : readDeadLetters s (.deadLetter, workId) with _ | ⟨row, rest⟩
  · exact .inl rfl
  rw [hrows] at hlength hmem
  have hrest : rest = [] := List.eq_nil_of_length_eq_zero (by simpa using hlength)
  subst hrest
  exact .inr ⟨row, rfl, (hmem row (by simp)).2, (hmem row (by simp)).1⟩

theorem getWork_deadLetter {workId : RecoveryWorkId}
    (hwork : getWork s (.deadLetter, workId) = .ok work) :
    ∃ row ∈ s.deadLetters.rows, work = deadLetterWork row ∧ .row row.id = workId := by
  have hnone : recoverableRow s (.deadLetter, workId) = none := by cases workId <;> rfl
  rcases readDeadLetters_deadLetter (s := s) workId with hrows | ⟨row, hrows, hid, hmem⟩
  · simp [getWork, collectWork, hrows, hnone] at hwork
  refine ⟨row, hmem, ?_, hid⟩
  rw [getWork_eq_ok_iff] at hwork
  have hcollected : collectDeadLetter (fun _ => none) row (.deadLetter, workId) =
      some (deadLetterWork row) := by
    rw [← hid]
    unfold collectDeadLetter
    cases row.workKind <;> cases row.workId <;> simp
  simp only [collectWork, hrows, hnone, List.foldl_cons, List.foldl_nil, hcollected] at hwork
  exact (Option.some.inj hwork).symm

theorem eq_of_mem_offered {c : Prop} [Decidable c] {capability offered : RecoveryCapability}
    (h : capability ∈ if c then [offered] else []) : capability = offered := by
  split at h
  · exact List.mem_singleton.mp h
  · cases h

theorem recoverableRow_nonStage (hkind : key.1 ∉ eventKinds)
    (hwork : recoverableRow s key = some work) :
    work.stage = none ∧ hasRow s key = true ∧ RecoveryVersion.isMissing work.version = false ∧
      ∀ capability ∈ work.capabilities, some capability = capabilityByKind work.kind := by
  obtain ⟨kind, workId⟩ := key
  cases workId with
  | planned => cases kind <;> simp [recoverableRow] at hwork
  | row id =>
    cases kind with
    | pipelineStage => simp [eventKinds] at hkind
    | syncTarget => simp [eventKinds] at hkind
    | deadLetter => simp [recoverableRow] at hwork
    | backfill =>
      obtain ⟨row, hrow, rfl⟩ := Option.map_eq_some_iff.mp hwork
      exact ⟨rfl, by simp [hasRow, (Option.filter_eq_some_iff.mp hrow).1], rfl,
        fun _ h => congrArg some (eq_of_mem_offered h)⟩
    | sourcePost =>
      obtain ⟨row, hrow, rfl⟩ := Option.map_eq_some_iff.mp hwork
      exact ⟨rfl, by simp [hasRow, (Option.filter_eq_some_iff.mp hrow).1], rfl,
        fun _ h => congrArg some (eq_of_mem_offered h)⟩
    | ingestRequest =>
      obtain ⟨row, hrow, rfl⟩ := Option.map_eq_some_iff.mp hwork
      exact ⟨rfl, by simp [hasRow, (Option.filter_eq_some_iff.mp hrow).1], rfl,
        fun _ h => congrArg some (eq_of_mem_offered h)⟩
    | outbox =>
      obtain ⟨row, hrow, rfl⟩ := Option.map_eq_some_iff.mp hwork
      refine ⟨rfl, by simp [hasRow, (Option.filter_eq_some_iff.mp hrow).1], rfl, ?_⟩
      intro capability hcapability
      simp only [outboxWork] at hcapability
      split at hcapability <;> simp_all [outboxWork, capabilityByKind]

theorem isMissing_foldl (rows : List PipelineDeadLetter)
    (hwork : RecoveryVersion.isMissing work.version = false) :
    RecoveryVersion.isMissing (rows.foldl foldDeadLetter work).version = false := by
  induction rows generalizing work with
  | nil => exact hwork
  | cons row rest ih => exact ih rfl

theorem foldl_foldDeadLetter_frame (rows : List PipelineDeadLetter) (work : RecoveryWorkRead) :
    (rows.foldl foldDeadLetter work).kind = work.kind ∧
      (rows.foldl foldDeadLetter work).id = work.id ∧
      (rows.foldl foldDeadLetter work).stage = work.stage := by
  induction rows generalizing work with
  | nil => exact ⟨rfl, rfl, rfl⟩
  | cons row rest ih => exact ih (foldDeadLetter work row)

/-- Collected work without a stage. -/
structure NonStageWork (s : CanonicalState) (key : WorkKey) (work : RecoveryWorkRead) : Prop where
  stage : work.stage = none
  key_eq : key = (work.kind, .row work.id)
  hasRow : hasRow s key = true
  version : RecoveryVersion.isMissing work.version = false
  capabilities : ∀ capability ∈ work.capabilities,
    capability = .recoverDeadLetter ∨ some capability = capabilityByKind work.kind
  /-- A dead letter is offered for recovery once it is folded into a recoverable row. -/
  recover : .recoverDeadLetter ∈ work.capabilities → ∃ base,
    recoverableRow s key = some base ∧ work = foldDeadLetters s base ∧
      foldedDeadLetters s base ≠ []

theorem nonStageWork_of_getWork (hkind : key.1 ∉ eventKinds) (hwork : getWork s key = .ok work) :
    NonStageWork s key work := by
  by_cases hdead : key.1 = .deadLetter
  · obtain ⟨kind, workId⟩ := key
    cases hdead
    obtain ⟨row, hmem, rfl, rfl⟩ := getWork_deadLetter hwork
    have hget := s.deadLetters.get_of_mem hmem
    refine ⟨rfl, rfl, by simp [hasRow, hget], rfl, ?_, ?_⟩
    · intro capability hcapability
      exact .inr (congrArg some (List.mem_singleton.mp hcapability))
    intro hrecover
    have hcapability := List.mem_singleton.mp hrecover
    cases hcapability
  · rw [getWork_eq_ok_iff, collectWork_self hdead, Option.map_eq_some_iff] at hwork
    obtain ⟨base, hrow, rfl⟩ := hwork
    obtain ⟨hstage, hhas, hversion, hcapabilities⟩ := recoverableRow_nonStage hkind hrow
    obtain ⟨hkindEq, hidEq, hstageEq⟩ := foldl_foldDeadLetter_frame (foldedDeadLetters s base) base
    have hcases : (foldDeadLetters s base).capabilities = [.recoverDeadLetter] ∧
          foldedDeadLetters s base ≠ [] ∨
        foldDeadLetters s base = base := by
      by_cases hfolded : foldedDeadLetters s base = []
      · right
        rw [foldDeadLetters, hfolded]
        rfl
      · exact .inl ⟨capabilities_foldl_of_ne_nil hfolded, hfolded⟩
    refine ⟨hstageEq.trans hstage, ?_, hhas, isMissing_foldl _ hversion, ?_, ?_⟩
    · rw [foldDeadLetters, hkindEq, hidEq]
      exact recoverableRow_key hrow
    · intro capability hcapability
      rcases hcases with ⟨hrecover, -⟩ | hsame
      · rw [hrecover, List.mem_singleton] at hcapability
        exact .inl hcapability
      · rw [hsame] at hcapability ⊢
        exact .inr (hcapabilities capability hcapability)
    intro hrecover
    refine ⟨base, hrow, rfl, ?_⟩
    rcases hcases with ⟨-, hfolded⟩ | hsame
    · exact hfolded
    rw [hsame] at hrecover
    have himpossible := hcapabilities _ hrecover
    cases hbase : base.kind <;> simp [hbase, capabilityByKind] at himpossible

variable {file : MediaFileFence}

theorem loadStageCandidate_cases (h : loadStageCandidate s key = .ok (work, file)) :
    (∃ entry, key = (.pipelineStage, .row entry.row.id) ∧ s.stages.get entry.row.id = some entry ∧
        s.files.get entry.row.memeFileId = some file ∧ work = stageCandidate entry file) ∨
      ∃ entry, key = (.syncTarget, .row entry.row.id) ∧
        s.syncTargets.get entry.row.id = some entry ∧
        s.files.get entry.row.memeFileId = some file ∧ work = syncCandidate entry := by
  obtain ⟨kind, workId⟩ := key
  unfold loadStageCandidate at h
  cases workId with
  | planned => cases kind <;> simp at h
  | row id =>
    cases kind with
    | pipelineStage =>
      left
      cases hentry : s.stages.get id with
      | none => simp [hentry] at h
      | some entry =>
        obtain ⟨-, rfl⟩ := (Table.get_eq_some_iff _).mp hentry
        cases hfile : s.files.get entry.row.memeFileId with
        | none => simp [hentry, hfile] at h
        | some found =>
          simp only [hentry, hfile, Option.map_some, Except.ok.injEq, Prod.mk.injEq] at h
          obtain ⟨rfl, rfl⟩ := h
          exact ⟨entry, rfl, hentry, hfile, rfl⟩
    | syncTarget =>
      right
      cases hentry : s.syncTargets.get id with
      | none => simp [hentry] at h
      | some entry =>
        obtain ⟨-, rfl⟩ := (Table.get_eq_some_iff _).mp hentry
        cases hfile : s.files.get entry.row.memeFileId with
        | none => simp [hentry, hfile] at h
        | some found =>
          simp only [hentry, hfile, Option.map_some, Except.ok.injEq, Prod.mk.injEq] at h
          obtain ⟨rfl, rfl⟩ := h
          exact ⟨entry, rfl, hentry, hfile, rfl⟩
    | _ => simp at h

structure StageProjection (s : CanonicalState) (key : WorkKey) (work : RecoveryWorkRead)
    (file : MediaFileFence) : Prop where
  kind : key.1 ∈ eventKinds
  key_eq : key = (work.kind, .row work.id)
  file_eq : work.memeFileId = some file.id
  file_get : s.files.get file.id = some file
  stage : work.stage.isSome = true
  retryable : work.isRetryable = true → work.status.isFailed = true
  capabilities : work.capabilities = if work.isRetryable then [retryCapability work] else []
  version : RecoveryVersion.isMissing work.version = false
  hasRow : hasRow s key = true

theorem stageVersion_not_missing (entry : Stamped PipelineStageJournal)
    (file : Option MediaFileFence) : RecoveryVersion.isMissing (stageVersion entry file) = false := by
  unfold stageVersion
  split
  · split <;> rfl
  · rfl

theorem stageProjection_of_load (h : loadStageCandidate s key = .ok (work, file)) :
    StageProjection s key work file := by
  rcases loadStageCandidate_cases h with ⟨entry, rfl, hentry, hfile, rfl⟩ |
    ⟨entry, rfl, hentry, hfile, rfl⟩
  · obtain ⟨-, hid⟩ := (Table.get_eq_some_iff _).mp hfile
    refine ⟨by simp [eventKinds], rfl, congrArg some hid.symm, hid ▸ hfile, rfl, ?_, rfl,
      stageVersion_not_missing entry (some file), by simp [hasRow, hentry]⟩
    intro hretryable
    simp only [stageCandidate, stageRead, isRetryableFailure, decide_eq_true_eq] at hretryable
    simp [stageCandidate, stageRead, RecoveryWorkStatus.isFailed, hretryable.1]
  obtain ⟨-, hid⟩ := (Table.get_eq_some_iff _).mp hfile
  refine ⟨by simp [eventKinds], rfl, congrArg some hid.symm, hid ▸ hfile, rfl, ?_, rfl, rfl,
    by simp [hasRow, hentry]⟩
  intro hretryable
  simp only [syncCandidate, syncRead, isRetryableSyncFailure, decide_eq_true_eq] at hretryable
  simp [syncCandidate, syncRead, RecoveryWorkStatus.isFailed, hretryable.1]

theorem loadStageCandidate_of_untouched (h : Untouched s t) :
    loadStageCandidate t key = loadStageCandidate s key := by
  unfold loadStageCandidate
  rw [h.stages, h.syncTargets, h.files]

end Later

section Actions

variable {work : RecoveryWorkRead} {stage : ContentPipelineStage} {file : Option MediaFileFence}
  {blocked : List String} {terminalDescendants : List ContentPipelineStage}
  {capability : RecoveryCapability} {action : RecoveryActionRead}

theorem find_map_capability {f : RecoveryCapability → RecoveryActionRead}
    (hf : ∀ capability, (f capability).capability = capability)
    (capabilities : List RecoveryCapability) (capability : RecoveryCapability) :
    (capabilities.map f).find? (fun entry => entry.capability = capability) =
      if capability ∈ capabilities then some (f capability) else none := by
  induction capabilities with
  | nil => rfl
  | cons first rest ih =>
    rw [List.map_cons, List.find?_cons, hf]
    by_cases heq : first = capability
    · simp [heq]
    · simp [heq, ih, Ne.symm heq]

theorem retryCapability_cases (work : RecoveryWorkRead) :
    retryCapability work = .retryStage ∨ retryCapability work = .resyncTarget := by
  unfold retryCapability
  split
  · exact .inr rfl
  · exact .inl rfl

theorem find_retryAction :
    (stageActions work stage file blocked terminalDescendants).find?
      (fun entry => entry.capability = retryCapability work) = some (retryAction work blocked) := by
  simp [stageActions, retryAction]

theorem find_replayAction :
    (stageActions work stage file blocked terminalDescendants).find?
      (fun entry => entry.capability = .replayStage) =
        some (replayAction work blocked terminalDescendants) := by
  rcases retryCapability_cases work with hretry | hretry <;>
    simp [stageActions, retryAction, replayAction, hretry]

theorem find_regenerateAction (hstage : stage = .transcode) :
    (stageActions work stage file blocked terminalDescendants).find?
      (fun entry => entry.capability = .regenerateDerivatives) =
        some (regenerateAction work file blocked) := by
  rcases retryCapability_cases work with hretry | hretry <;>
    simp [stageActions, retryAction, replayAction, regenerateAction, hretry, hstage]

theorem find_capabilityAction (hretry : capability ≠ retryCapability work)
    (hreplay : capability ≠ .replayStage)
    (hregenerate : stage = .transcode → capability ≠ .regenerateDerivatives) :
    (stageActions work stage file blocked terminalDescendants).find?
      (fun entry => entry.capability = capability) =
        if capability ∈ work.capabilities then some (capabilityAction work blocked capability)
        else none := by
  unfold stageActions
  by_cases hstage : stage = .transcode
  · have hne := hregenerate hstage
    simp only [hstage, if_true, List.find?_append]
    rw [find_map_capability (fun _ => rfl)]
    simp [retryAction, replayAction, regenerateAction, hretry, hretry.symm, hreplay, hreplay.symm,
      hne, hne.symm]
  · simp only [hstage, if_false, List.append_nil, List.find?_append]
    rw [find_map_capability (fun _ => rfl)]
    simp [retryAction, replayAction, hretry, hretry.symm, hreplay, hreplay.symm]

inductive StageOffer (work : RecoveryWorkRead) (stage : ContentPipelineStage)
    (file : Option MediaFileFence) : RecoveryCapability → Prop
  | retry : work.isRetryable = true → StageOffer work stage file (retryCapability work)
  | replay : work.status.isFailed = true ∨ work.status.isSuccessful = true →
      StageOffer work stage file .replayStage
  | regenerate : stage = .transcode → isMovingMedia file = true →
      StageOffer work stage file .regenerateDerivatives
  | recover : .recoverDeadLetter ∈ work.capabilities → StageOffer work stage file .recoverDeadLetter

theorem stageOffer_of_find
    (hcapabilities : ∀ capability ∈ work.capabilities,
      capability = retryCapability work ∨ capability = .recoverDeadLetter)
    (hfind : (stageActions work stage file blocked terminalDescendants).find?
      (fun entry => entry.capability = capability) = some action)
    (havailable : action.available = true) :
    blocked = [] ∧ StageOffer work stage file capability := by
  by_cases hretry : capability = retryCapability work
  · subst hretry
    rw [find_retryAction] at hfind
    cases hfind
    simp only [retryAction, decide_eq_true_eq] at havailable
    exact ⟨havailable.2.2, .retry havailable.1⟩
  by_cases hreplay : capability = .replayStage
  · subst hreplay
    rw [find_replayAction] at hfind
    cases hfind
    simp only [replayAction, decide_eq_true_eq] at havailable
    exact ⟨havailable.1, .replay havailable.2⟩
  by_cases hregenerate : stage = .transcode ∧ capability = .regenerateDerivatives
  · obtain ⟨hstage, rfl⟩ := hregenerate
    rw [find_regenerateAction hstage] at hfind
    cases hfind
    simp only [regenerateAction, decide_eq_true_eq, List.append_eq_nil_iff] at havailable
    refine ⟨havailable.1, .regenerate hstage ?_⟩
    by_contra hstill
    simp [hstill] at havailable
  rw [find_capabilityAction hretry hreplay
    fun hstage heq => hregenerate ⟨hstage, heq⟩] at hfind
  obtain ⟨hmem, heq⟩ := Option.ite_none_right_eq_some.mp hfind
  cases heq
  simp only [capabilityAction, decide_eq_true_eq] at havailable
  rcases hcapabilities capability hmem with heq | rfl
  · exact absurd heq hretry
  · exact ⟨havailable, .recover hmem⟩

theorem stageOffer_requirements {scope : RecoveryReplayScope}
    {acknowledgements : List RecoveryAcknowledgement}
    (hoffer : StageOffer work stage file capability)
    (hfind : (stageActions work stage file blocked terminalDescendants).find?
      (fun entry => entry.capability = capability) = some action)
    (hscope : scope ∈ action.scopes)
    (hacknowledged : ∀ required ∈ action.scopeRequirements scope, required ∈ acknowledgements) :
    (scope = .stageAndDependents → capability = .replayStage) ∧
      (isTerminalWork work = true → .terminalOverride ∈ acknowledgements) := by
  cases hoffer with
  | retry hretryable =>
    rw [find_retryAction] at hfind
    cases hfind
    simp only [retryAction, List.mem_singleton] at hscope
    refine ⟨fun hcascade => by simp [hscope] at hcascade, fun hterminal => ?_⟩
    simp [isTerminalWork, hretryable] at hterminal
  | replay hstatus =>
    rw [find_replayAction] at hfind
    cases hfind
    refine ⟨fun _ => rfl, fun hterminal => hacknowledged _ ?_⟩
    cases scope <;> simp [replayAction, rootAcknowledgements, hterminal]
  | regenerate hstage hmoving =>
    rw [find_regenerateAction hstage] at hfind
    cases hfind
    simp only [regenerateAction, List.mem_singleton] at hscope
    refine ⟨fun hcascade => by simp [hscope] at hcascade, fun hterminal => hacknowledged _ ?_⟩
    simp [regenerateAction, rootAcknowledgements, hterminal]
  | recover hmem =>
    have hne : RecoveryCapability.recoverDeadLetter ≠ retryCapability work := by
      rcases retryCapability_cases work with hretry | hretry <;> simp [hretry]
    rw [find_capabilityAction hne (by simp) (fun _ => by simp), if_pos hmem] at hfind
    cases hfind
    simp only [capabilityAction, List.mem_singleton] at hscope
    refine ⟨fun hcascade => by simp [hscope] at hcascade, fun hterminal => hacknowledged _ ?_⟩
    simp [capabilityAction, rootAcknowledgements, hterminal]

theorem checkClaimedAction_of_offer {item : RecoveryJobItem}
    (hoffer : StageOffer work stage file item.action) (hretry : item.action ≠ retryCapability work)
    (hterminal : isTerminalWork work = true → item.terminalOverrideAcknowledged = true) :
    checkClaimedAction ⟨work, stageActions work stage file [] terminalDescendants⟩ item =
      .ok work := by
  have hacknowledged : ¬ (RecoveryAcknowledgement.terminalOverride ∈ rootAcknowledgements work ∧
      item.terminalOverrideAcknowledged = false) := by
    rintro ⟨hmem, hnot⟩
    unfold rootAcknowledgements at hmem
    split at hmem
    · next hwork => simp [hterminal hwork] at hnot
    · cases hmem
  unfold checkClaimedAction RecoveryCandidateRead.action
  generalize haction : item.action = capability at hoffer hretry
  cases hoffer with
  | retry _ => exact absurd rfl hretry
  | replay hstatus =>
    simp only [find_replayAction]
    rw [if_neg (by simp [replayAction, hstatus])]
    exact if_neg hacknowledged
  | regenerate hstage hmoving =>
    simp only [find_regenerateAction hstage]
    rw [if_neg (by simp [regenerateAction, hmoving])]
    exact if_neg hacknowledged
  | recover hmem =>
    simp only [find_capabilityAction hretry (by simp : RecoveryCapability.recoverDeadLetter ≠
      .replayStage) (fun _ => by simp), if_pos hmem]
    rw [if_neg (by simp [capabilityAction])]
    exact if_neg hacknowledged

theorem nonStageOffer_of_find {activeJob : Bool} {observation : Option StorageObjectPresence}
    (hfind : (nonStageActions work activeJob observation).find?
      (fun entry => entry.capability = capability) = some action)
    (havailable : action.available = true) :
    capability ∈ work.capabilities ∧ activeJob = false ∧
      (work.kind = .ingestRequest → sourceObjectBlockers observation = []) := by
  unfold nonStageActions at hfind
  rw [find_map_capability (fun _ => rfl)] at hfind
  obtain ⟨-, heq⟩ := Option.ite_none_right_eq_some.mp hfind
  cases heq
  simp only [nonStageAction, decide_eq_true_eq] at havailable
  refine ⟨havailable.1, havailable.2.1, ?_⟩
  intro hkind
  simpa [hkind] using havailable.2.2

theorem checkClaimedAction_of_capability {item : RecoveryJobItem}
    (hmem : item.action ∈ work.capabilities) :
    checkClaimedAction ⟨work, nonStageActions work false none⟩ item = .ok work := by
  have hfind : (nonStageActions work false none).find?
      (fun entry => entry.capability = item.action) =
        some (nonStageAction work false [] item.action) := by
    unfold nonStageActions
    rw [find_map_capability (fun _ => rfl), if_pos (by simp [hmem])]
    simp [sourceObjectBlockers]
  unfold checkClaimedAction RecoveryCandidateRead.action
  simp only [hfind]
  rw [if_neg (by simp [nonStageAction, hmem])]
  exact if_neg (by simp [nonStageAction])

end Actions

end MemeExpert.Services
