import MemeExpert.Lib.Runs
import MemeExpert.Lib.Sessions
import MemeExpert.Recommendations.InteractionState

/-! A transaction that records events marks the profile of their viewer dirty before it
commits. A rebuild reads the events, writes the profile and clears the mark. -/

namespace MemeExpert.Recommendations

open Runs

structure ProfileSettings where
  recommendationProfileVersion : Text
  pipelineVoyageModel : Text
  profileRebuildBatchSize : Nat

structure ViewerSignal where
  userId : Uuid
  eventId : Uuid
  deriving DecidableEq

/-- The materialized rows of a viewer; `builtFrom` are the events that the rebuild read. -/
structure MaterializedProfile where
  modelVersion : Text
  profileVersion : Text
  builtFrom : List ViewerSignal

structure ProfileRows where
  events : List ViewerSignal := []
  statuses : Uuid → Option RecommendationProfileStatus := fun _ => none
  profiles : Uuid → Option MaterializedProfile := fun _ => none

def ProfileRows.signalsOf (rows : ProfileRows) (userId : Uuid) : List ViewerSignal :=
  rows.events.filter (·.userId = userId)

def isStaleProfile (settings : ProfileSettings) (profile : MaterializedProfile) : Bool :=
  let base := settings.recommendationProfileVersion
  profile.modelVersion ≠ settings.pipelineVoyageModel ||
    (profile.profileVersion ≠ base &&
      profile.profileVersion.take (base.length + 1) ≠ base ++ [':'])

inductive TransactionRole where
  | recording
  | rebuildDirty
  | rebuildUser (userId : Uuid)
  deriving DecidableEq

/-- A transaction with its uncommitted rows. A rebuild has read the events of the user in
`reading`; the users in `remaining` are claimed and not rebuilt yet. -/
structure ProfileTransaction where
  role : TransactionRole
  inserted : List ViewerSignal := []
  claimed : List Uuid := []
  remaining : List Uuid := []
  reading : Option (Uuid × List ViewerSignal) := none
  statuses : Uuid → Option RecommendationProfileStatus := fun _ => none
  profiles : Uuid → Option MaterializedProfile := fun _ => none

def ProfileTransaction.needs (t : ProfileTransaction) (userId : Uuid) : Prop :=
  userId ∈ t.claimed ∨ t.statuses userId ≠ none

structure ProfileState where
  rows : ProfileRows := {}
  sessions : Sessions Nat Uuid ProfileTransaction := {}

inductive ProfileLabel where
  | begin (callId : Nat) (role : TransactionRole)
  | insertEvent (callId : Nat) (signal : ViewerSignal)
  | markDirty (callId : Nat) (userId : Uuid) (dirtyAt : Time)
  | claim (callId : Nat) (userId : Uuid)
  | readSignals (callId : Nat)
  | writeProfile (callId : Nat) (profileVersion : Text)
  | failUser (callId : Nat)
  | commit (callId : Nat)
  | rollback (callId : Nat)

namespace ProfileTransaction

def status (t : ProfileTransaction) (rows : ProfileRows) (userId : Uuid) :
    Option RecommendationProfileStatus :=
  (t.statuses userId).or (rows.statuses userId)

def setStatus (t : ProfileTransaction) (userId : Uuid) (status : RecommendationProfileStatus) :
    ProfileTransaction :=
  { t with statuses := Function.update t.statuses userId (some status) }

def mayMark (t : ProfileTransaction) : Bool :=
  t.role = .recording || (t.role = .rebuildDirty && t.claimed = [])

def mayClaim (settings : ProfileSettings) (t : ProfileTransaction) (rows : ProfileRows)
    (userId : Uuid) : Bool :=
  t.role = .rebuildDirty && t.reading = none && userId ∉ t.claimed &&
    t.claimed.length < settings.profileRebuildBatchSize &&
    (t.status rows userId).any fun status =>
      status.dirtySince ≠ none || (rows.profiles userId).any (isStaleProfile settings)

def nextUser (t : ProfileTransaction) : Option Uuid :=
  match t.role with
  | .recording => none
  | .rebuildDirty => t.remaining.head?
  | .rebuildUser userId => if t.profiles userId = none then some userId else none

/-- The rows of the user are replaced; the mark is cleared in the status row, if there
is one. -/
def write (settings : ProfileSettings) (t : ProfileTransaction) (rows : ProfileRows)
    (userId : Uuid) (seen : List ViewerSignal) (profileVersion : Text) : ProfileTransaction :=
  { t with
    remaining := t.remaining.tail
    reading := none
    statuses := Function.update t.statuses userId
      ((t.status rows userId).map fun status => { status with dirtySince := none })
    profiles := Function.update t.profiles userId
      (some ⟨settings.pipelineVoyageModel, profileVersion, seen⟩) }

def mayCommit (t : ProfileTransaction) : Bool :=
  t.reading = none &&
  match t.role with
  | .recording => t.inserted.all fun signal => t.statuses signal.userId ≠ none
  | .rebuildDirty => t.remaining = []
  | .rebuildUser userId => t.profiles userId ≠ none

end ProfileTransaction

def ProfileRows.commit (rows : ProfileRows) (t : ProfileTransaction) : ProfileRows where
  events := rows.events ++ t.inserted
  statuses userId := (t.statuses userId).or (rows.statuses userId)
  profiles userId := (t.profiles userId).or (rows.profiles userId)

namespace ProfileState

def put (s : ProfileState) (callId : Nat) (t : ProfileTransaction) : ProfileState :=
  { s with sessions := s.sessions.put callId t }

def acquire (s : ProfileState) (userId : Uuid) (callId : Nat) (t : ProfileTransaction) :
    Option ProfileState :=
  if s.sessions.locks userId = none ∨ s.sessions.locks userId = some callId then
    some { s with sessions := s.sessions.take userId callId t }
  else none

def drop (s : ProfileState) (callId : Nat) : ProfileState :=
  { s with sessions := s.sessions.drop callId }

end ProfileState

def profileStep (settings : ProfileSettings) (s : ProfileState) : ProfileLabel → Option ProfileState
  | .begin callId role =>
    if s.sessions.calls callId = none then some (s.put callId { role := role }) else none
  | .insertEvent callId signal =>
    match s.sessions.calls callId with
    | none => none
    | some t =>
      if t.role = .recording then
        some (s.put callId { t with inserted := t.inserted ++ [signal] })
      else none
  | .markDirty callId userId dirtyAt =>
    match s.sessions.calls callId with
    | none => none
    | some t =>
      if t.mayMark then
        s.acquire userId callId (t.setStatus userId (dirtyStatus (t.status s.rows userId) dirtyAt))
      else none
  | .claim callId userId =>
    match s.sessions.calls callId with
    | none => none
    | some t =>
      if t.mayClaim settings s.rows userId then
        s.acquire userId callId
          { t with claimed := t.claimed ++ [userId], remaining := t.remaining ++ [userId] }
      else none
  | .readSignals callId =>
    match s.sessions.calls callId with
    | none => none
    | some t =>
      match t.reading, t.nextUser with
      | none, some userId =>
        some (s.put callId { t with reading := some (userId, s.rows.signalsOf userId) })
      | _, _ => none
  | .writeProfile callId profileVersion =>
    match s.sessions.calls callId with
    | none => none
    | some t =>
      match t.reading with
      | none => none
      | some (userId, seen) =>
        -- without a status row nothing is updated and nothing is locked
        if t.status s.rows userId = none then
          some (s.put callId (t.write settings s.rows userId seen profileVersion))
        else s.acquire userId callId (t.write settings s.rows userId seen profileVersion)
  | .failUser callId =>
    match s.sessions.calls callId with
    | none => none
    | some t =>
      if t.role = .rebuildDirty then
        some (s.put callId { t with remaining := t.remaining.tail, reading := none })
      else none
  | .commit callId =>
    match s.sessions.calls callId with
    | none => none
    | some t => if t.mayCommit then some { s.drop callId with rows := s.rows.commit t } else none
  | .rollback callId =>
    match s.sessions.calls callId with
    | none => none
    | some _ => some (s.drop callId)

def ProfileRows.Sees (rows : ProfileRows) (userId : Uuid) (seen : List ViewerSignal) : Prop :=
  ∀ signal ∈ rows.events, signal.userId = userId → signal ∈ seen

structure RecordingRight (t : ProfileTransaction) : Prop where
  reading : t.reading = none
  marked : ∀ userId status, t.statuses userId = some status → status.dirtySince ≠ none
  profiles : ∀ userId, t.profiles userId = none

structure RebuildDirtyRight (rows : ProfileRows) (t : ProfileTransaction) : Prop where
  inserted : t.inserted = []
  remaining : ∀ userId ∈ t.remaining, userId ∈ t.claimed
  reading : ∀ userId seen, t.reading = some (userId, seen) →
    userId ∈ t.claimed ∧ rows.Sees userId seen
  profiles : ∀ userId profile, t.profiles userId = some profile →
    userId ∈ t.claimed ∧ rows.Sees userId profile.builtFrom
  cleared : ∀ userId status, t.statuses userId = some status → status.dirtySince = none →
    t.profiles userId ≠ none

structure RebuildUserRight (userId : Uuid) (t : ProfileTransaction) : Prop where
  inserted : t.inserted = []
  reading : ∀ other seen, t.reading = some (other, seen) → other = userId
  profiles : ∀ other profile, t.profiles other = some profile → other = userId
  statuses : ∀ other status, t.statuses other = some status →
    other = userId ∧ status.dirtySince = none

def TransactionRight (rows : ProfileRows) (t : ProfileTransaction) : Prop :=
  match t.role with
  | .recording => RecordingRight t
  | .rebuildDirty => RebuildDirtyRight rows t
  | .rebuildUser userId => RebuildUserRight userId t

def ProfileSessions (s : ProfileState) : Prop :=
  Sessions.Sound ProfileTransaction.needs (fun _ => TransactionRight s.rows) s.sessions

section Transactions

variable {settings : ProfileSettings} {rows : ProfileRows} {t : ProfileTransaction}
  {userId : Uuid}

theorem transactionRight_begin (rows : ProfileRows) (role : TransactionRole) :
    TransactionRight rows { role := role } := by
  cases role with
  | recording => exact ⟨rfl, nofun, fun _ => rfl⟩
  | rebuildDirty =>
    exact ⟨rfl, fun _ h => absurd h List.not_mem_nil, nofun,
      nofun, nofun⟩
  | rebuildUser userId => exact ⟨rfl, nofun, nofun, nofun⟩

theorem dirtySince_dirtyStatus (status : Option RecommendationProfileStatus) (dirtyAt : Time) :
    (dirtyStatus status dirtyAt).dirtySince ≠ none := by
  cases status with
  | none => exact Option.some_ne_none _
  | some status =>
    obtain ⟨_ | dirtySince⟩ := status
    · exact Option.some_ne_none _
    · exact Option.some_ne_none _

theorem transactionRight_insert (ht : TransactionRight rows t) (hrole : t.role = .recording)
    (signal : ViewerSignal) :
    TransactionRight rows { t with inserted := t.inserted ++ [signal] } := by
  unfold TransactionRight at ht ⊢
  rw [hrole] at ht ⊢
  exact ⟨ht.reading, ht.marked, ht.profiles⟩

theorem transactionRight_mark (ht : TransactionRight rows t) (hmay : t.mayMark = true)
    {status : RecommendationProfileStatus} (hdirty : status.dirtySince ≠ none) :
    TransactionRight rows (t.setStatus userId status) := by
  unfold TransactionRight ProfileTransaction.setStatus at *
  unfold ProfileTransaction.mayMark at hmay
  cases hrole : t.role with
  | recording =>
    rw [hrole] at ht
    refine ⟨ht.reading, ?_, ht.profiles⟩
    intro other found hfound
    obtain ⟨-, rfl⟩ | ⟨-, hold⟩ := Calls.update_some_eq_some.mp hfound
    · exact hdirty
    · exact ht.marked other found hold
  | rebuildDirty =>
    rw [hrole] at ht
    refine ⟨ht.inserted, ht.remaining, ht.reading, ht.profiles, ?_⟩
    intro other found hfound hclear
    obtain ⟨-, rfl⟩ | ⟨-, hold⟩ := Calls.update_some_eq_some.mp hfound
    · exact absurd hclear hdirty
    · exact ht.cleared other found hold hclear
  | rebuildUser userId =>
    rw [hrole] at hmay
    cases hmay

theorem role_of_mayClaim (hmay : t.mayClaim settings rows userId = true) :
    t.role = .rebuildDirty ∧ t.reading = none := by
  simp only [ProfileTransaction.mayClaim, Bool.and_eq_true, decide_eq_true_eq] at hmay
  exact ⟨hmay.1.1.1.1, hmay.1.1.1.2⟩

theorem transactionRight_claim (ht : TransactionRight rows t)
    (hmay : t.mayClaim settings rows userId = true) :
    TransactionRight rows
      { t with claimed := t.claimed ++ [userId], remaining := t.remaining ++ [userId] } := by
  obtain ⟨hrole, hreading⟩ := role_of_mayClaim hmay
  unfold TransactionRight at ht ⊢
  rw [hrole] at ht
  simp only [hrole]
  refine ⟨ht.inserted, ?_, ?_, ?_, ht.cleared⟩
  · intro other hother
    obtain hother | hother := List.mem_append.mp hother
    · exact List.mem_append_left _ (ht.remaining other hother)
    · exact List.mem_append_right _ hother
  · intro other seen hread
    rw [hreading] at hread
    cases hread
  · intro other profile hprofile
    obtain ⟨hclaimed, hsees⟩ := ht.profiles other profile hprofile
    exact ⟨List.mem_append_left _ hclaimed, hsees⟩

theorem sees_signalsOf (rows : ProfileRows) (userId : Uuid) :
    rows.Sees userId (rows.signalsOf userId) :=
  fun _ hsignal huser => List.mem_filter.mpr ⟨hsignal, decide_eq_true huser⟩

theorem transactionRight_read (ht : TransactionRight rows t) (hnext : t.nextUser = some userId) :
    TransactionRight rows { t with reading := some (userId, rows.signalsOf userId) } := by
  unfold TransactionRight at ht ⊢
  unfold ProfileTransaction.nextUser at hnext
  cases hrole : t.role with
  | recording =>
    rw [hrole] at hnext
    cases hnext
  | rebuildDirty =>
    rw [hrole] at ht hnext
    refine ⟨ht.inserted, ht.remaining, ?_, ht.profiles, ht.cleared⟩
    rintro _ _ ⟨⟩
    exact ⟨ht.remaining userId (List.mem_of_mem_head? hnext), sees_signalsOf rows userId⟩
  | rebuildUser owner =>
    rw [hrole] at ht hnext
    refine ⟨ht.inserted, ?_, ht.profiles, ht.statuses⟩
    rintro _ _ ⟨⟩
    obtain ⟨-, howner⟩ := Option.ite_none_right_eq_some.mp hnext
    exact (Option.some.inj howner).symm

theorem transactionRight_write {seen : List ViewerSignal} (ht : TransactionRight rows t)
    (hreading : t.reading = some (userId, seen)) (profileVersion : Text) :
    TransactionRight rows (t.write settings rows userId seen profileVersion) := by
  unfold TransactionRight ProfileTransaction.write at *
  cases hdirty : t.role with
  | recording =>
    rw [hdirty] at ht
    rw [ht.reading] at hreading
    cases hreading
  | rebuildDirty =>
    rw [hdirty] at ht
    obtain ⟨hclaimed, hsees⟩ := ht.reading userId seen hreading
    refine ⟨ht.inserted, fun other hother => ht.remaining other (List.mem_of_mem_tail hother),
      nofun, ?_, ?_⟩
    · intro other profile hprofile
      obtain ⟨rfl, rfl⟩ | ⟨-, hold⟩ := Calls.update_some_eq_some.mp hprofile
      · exact ⟨hclaimed, hsees⟩
      · exact ht.profiles other profile hold
    intro other status hstatus hclear
    simp only [Function.update_apply] at hstatus ⊢
    split
    · exact Option.some_ne_none _
    next hne =>
    rw [if_neg hne] at hstatus
    exact ht.cleared other status hstatus hclear
  | rebuildUser owner =>
    rw [hdirty] at ht
    have howner := ht.reading userId seen hreading
    refine ⟨ht.inserted, nofun, ?_, ?_⟩
    · intro other profile hprofile
      obtain ⟨rfl, -⟩ | ⟨-, hold⟩ := Calls.update_some_eq_some.mp hprofile
      · exact howner
      · exact ht.profiles other profile hold
    intro other status hstatus
    simp only [Function.update_apply] at hstatus
    split at hstatus
    · next heq =>
      obtain ⟨found, -, rfl⟩ := Option.map_eq_some_iff.mp hstatus
      exact ⟨heq.trans howner, rfl⟩
    · exact ht.statuses other status hstatus

theorem transactionRight_fail (ht : TransactionRight rows t) (hrole : t.role = .rebuildDirty) :
    TransactionRight rows { t with remaining := t.remaining.tail, reading := none } := by
  unfold TransactionRight at ht ⊢
  rw [hrole] at ht
  simp only [hrole]
  exact ⟨ht.inserted, fun other hother => ht.remaining other (List.mem_of_mem_tail hother),
    nofun, ht.profiles, ht.cleared⟩

variable {s s' : ProfileState} {label : ProfileLabel} {callId : Nat} {next : ProfileTransaction}

theorem ProfileSessions.put (hs : ProfileSessions s) (hcall : s.sessions.calls callId = some t)
    (hneeds : ∀ key, next.needs key → t.needs key) (hright : TransactionRight s.rows next) :
    ProfileSessions (s.put callId next) :=
  Sessions.Sound.put hs (fun key hkey => hs.held callId t key hcall (hneeds key hkey)) hright

theorem ProfileSessions.acquire (hs : ProfileSessions s)
    (hcall : s.sessions.calls callId = some t)
    (hneeds : ∀ key, next.needs key → key = userId ∨ t.needs key)
    (hright : TransactionRight s.rows next) (hstep : s.acquire userId callId next = some s') :
    s'.rows = s.rows ∧ ProfileSessions s' := by
  obtain ⟨hfree, hstate⟩ := Option.ite_none_right_eq_some.mp hstep
  cases hstate
  refine ⟨rfl, Sessions.Sound.acquire hs hfree ?_ hright⟩
  intro key hkey
  exact (hneeds key hkey).imp_right fun h => hs.held callId t key hcall h

theorem ProfileSessions.drop (hs : ProfileSessions s) (callId : Nat) :
    ProfileSessions (s.drop callId) :=
  Sessions.Sound.drop hs fun _ _ _ _ h => h

theorem needs_setStatus {status : RecommendationProfileStatus} {key : Uuid}
    (hkey : (t.setStatus userId status).needs key) : key = userId ∨ t.needs key := by
  by_cases heq : key = userId
  · exact .inl heq
  refine .inr (hkey.imp_right fun h => ?_)
  simp only [ProfileTransaction.setStatus, Function.update_of_ne heq] at h
  exact h

theorem needs_write {rows : ProfileRows} {seen : List ViewerSignal} {profileVersion : Text}
    {key : Uuid} (hkey : (t.write settings rows userId seen profileVersion).needs key) :
    key = userId ∨ t.needs key := by
  by_cases heq : key = userId
  · exact .inl heq
  refine .inr (hkey.imp_right fun h => ?_)
  simp only [ProfileTransaction.write, Function.update_of_ne heq] at h
  exact h

theorem needs_write_of_none {rows : ProfileRows} {seen : List ViewerSignal}
    {profileVersion : Text} (hnone : t.status rows userId = none) {key : Uuid}
    (hkey : (t.write settings rows userId seen profileVersion).needs key) : t.needs key := by
  refine hkey.imp_right fun h => ?_
  simp only [ProfileTransaction.write, hnone, Option.map_none, Function.update_apply] at h
  split at h
  · exact absurd rfl h
  · exact h

theorem profile_step_cases (hs : ProfileSessions s)
    (hstep : profileStep settings s label = some s') :
    (s'.rows = s.rows ∧ ProfileSessions s' ∧ ∀ callId, label ≠ .commit callId) ∨
      ∃ callId t, label = .commit callId ∧ s.sessions.calls callId = some t ∧
        t.mayCommit = true ∧ s' = { s.drop callId with rows := s.rows.commit t } := by
  cases label with
  | begin callId role =>
    obtain ⟨-, hstate⟩ := Option.ite_none_right_eq_some.mp hstep
    cases hstate
    refine .inl ⟨rfl, ?_, nofun⟩
    exact Sessions.Sound.put hs (fun key hkey => (hkey.elim List.not_mem_nil (absurd rfl)).elim)
      (transactionRight_begin s.rows role)
  | insertEvent callId signal =>
    simp only [profileStep] at hstep
    split at hstep
    · cases hstep
    next t hcall =>
    obtain ⟨hrole, hstate⟩ := Option.ite_none_right_eq_some.mp hstep
    cases hstate
    exact .inl ⟨rfl, hs.put hcall (fun _ h => h)
      (transactionRight_insert (hs.right callId t hcall) hrole signal), nofun⟩
  | markDirty callId userId dirtyAt =>
    simp only [profileStep] at hstep
    split at hstep
    · cases hstep
    next t hcall =>
    obtain ⟨hmay, hstate⟩ := Option.ite_none_right_eq_some.mp hstep
    obtain ⟨hrows, hnext⟩ := hs.acquire hcall (fun _ => needs_setStatus)
      (transactionRight_mark (hs.right callId t hcall) hmay
        (dirtySince_dirtyStatus _ dirtyAt)) hstate
    exact .inl ⟨hrows, hnext, nofun⟩
  | claim callId userId =>
    simp only [profileStep] at hstep
    split at hstep
    · cases hstep
    next t hcall =>
    obtain ⟨hmay, hstate⟩ := Option.ite_none_right_eq_some.mp hstep
    have hneeds : ∀ key, ProfileTransaction.needs { t with
        claimed := t.claimed ++ [userId], remaining := t.remaining ++ [userId] } key →
          key = userId ∨ t.needs key := by
      rintro key (hkey | hkey)
      · obtain hkey | hkey := List.mem_append.mp hkey
        · exact .inr (.inl hkey)
        · exact .inl (List.mem_singleton.mp hkey)
      · exact .inr (.inr hkey)
    obtain ⟨hrows, hnext⟩ := hs.acquire hcall hneeds
      (transactionRight_claim (hs.right callId t hcall) hmay) hstate
    exact .inl ⟨hrows, hnext, nofun⟩
  | readSignals callId =>
    simp only [profileStep] at hstep
    split at hstep
    · cases hstep
    next t hcall =>
    split at hstep
    · next userId _ hnext =>
      cases hstep
      exact .inl ⟨rfl, hs.put hcall (fun _ h => h)
        (transactionRight_read (hs.right callId t hcall) hnext), nofun⟩
    · cases hstep
  | writeProfile callId profileVersion =>
    simp only [profileStep] at hstep
    split at hstep
    · cases hstep
    next t hcall =>
    split at hstep
    · cases hstep
    next userId seen hreading =>
    have hright : TransactionRight s.rows (t.write settings s.rows userId seen profileVersion) :=
      transactionRight_write (hs.right callId t hcall) hreading profileVersion
    split at hstep
    · next hnone =>
      cases hstep
      exact .inl ⟨rfl, hs.put hcall (fun _ => needs_write_of_none hnone) hright, nofun⟩
    · obtain ⟨hrows, hnext⟩ := hs.acquire hcall (fun _ => needs_write) hright hstep
      exact .inl ⟨hrows, hnext, nofun⟩
  | failUser callId =>
    simp only [profileStep] at hstep
    split at hstep
    · cases hstep
    next t hcall =>
    obtain ⟨hrole, hstate⟩ := Option.ite_none_right_eq_some.mp hstep
    cases hstate
    exact .inl ⟨rfl, hs.put hcall (fun _ h => h)
      (transactionRight_fail (hs.right callId t hcall) hrole), nofun⟩
  | commit callId =>
    simp only [profileStep] at hstep
    split at hstep
    · cases hstep
    next t hcall =>
    obtain ⟨hmay, hstate⟩ := Option.ite_none_right_eq_some.mp hstep
    exact .inr ⟨callId, t, rfl, hcall, hmay, (Option.some.inj hstate).symm⟩
  | rollback callId =>
    simp only [profileStep] at hstep
    split at hstep
    · cases hstep
    · cases hstep
      exact .inl ⟨rfl, hs.drop callId, nofun⟩

end Transactions

def InvalidationKept (rows : ProfileRows) : Prop :=
  ∀ userId profile, rows.profiles userId = some profile →
    ∀ signal ∈ rows.events, signal.userId = userId → signal ∉ profile.builtFrom →
      ∃ status, rows.statuses userId = some status ∧ status.dirtySince ≠ none

def TransactionRole.direct : TransactionRole → Option Uuid
  | .rebuildUser userId => some userId
  | _ => none

/-- A rebuild outside the scheduler's batch has read every event that is committed by now,
or it has found no status row to clear and the one there is now is dirty. -/
def ReadsAll (rows : ProfileRows) (t : ProfileTransaction) : Prop :=
  ∀ userId ∈ t.role.direct, ∀ profile ∈ t.profiles userId,
    rows.Sees userId profile.builtFrom ∨ t.statuses userId = none ∧
      ∃ status ∈ rows.statuses userId, status.dirtySince ≠ none

abbrev ProfileTransition := Transition ProfileState ProfileLabel

def ProfileLabel.commits : ProfileLabel → Option Nat
  | .commit callId => some callId
  | _ => none

def CommitsAllRead (x : ProfileTransition) : Prop :=
  ∀ callId ∈ x.label.commits, ∀ t ∈ x.before.sessions.calls callId, ReadsAll x.before.rows t

instance (rows : ProfileRows) (userId : Uuid) (seen : List ViewerSignal) :
    Decidable (rows.Sees userId seen) :=
  inferInstanceAs (Decidable (∀ _ ∈ rows.events, _))

instance (rows : ProfileRows) (t : ProfileTransaction) : Decidable (ReadsAll rows t) :=
  inferInstanceAs (Decidable (∀ _ ∈ t.role.direct, _))

instance (x : ProfileTransition) : Decidable (CommitsAllRead x) :=
  inferInstanceAs (Decidable (∀ _ ∈ x.label.commits, _))

section Commit

variable {settings : ProfileSettings} {s s' : ProfileState} {label : ProfileLabel} {callId : Nat}
  {rows : ProfileRows} {t : ProfileTransaction}

theorem marked_of_mayCommit (hrole : t.role = .recording) (hmay : t.mayCommit = true)
    {signal : ViewerSignal} (hsignal : signal ∈ t.inserted) :
    t.statuses signal.userId ≠ none := by
  simp only [ProfileTransaction.mayCommit, hrole, Bool.and_eq_true, List.all_eq_true] at hmay
  exact of_decide_eq_true (hmay.2 signal hsignal)

theorem inserted_of_role (ht : TransactionRight rows t) (hrole : t.role ≠ .recording) :
    t.inserted = [] := by
  unfold TransactionRight at ht
  cases hother : t.role with
  | recording => exact absurd hother hrole
  | rebuildDirty =>
    rw [hother] at ht
    exact ht.inserted
  | rebuildUser userId =>
    rw [hother] at ht
    exact ht.inserted

theorem status_commit_of_none {userId : Uuid} (hnone : t.statuses userId = none) :
    (rows.commit t).statuses userId = rows.statuses userId := by
  simp only [ProfileRows.commit, hnone, Option.none_or]

theorem status_commit_of_some {userId : Uuid} {status : RecommendationProfileStatus}
    (hstatus : t.statuses userId = some status) :
    (rows.commit t).statuses userId = some status := by
  simp only [ProfileRows.commit, hstatus, Option.some_or]

theorem profile_commit {userId : Uuid} {profile : MaterializedProfile}
    (hprofile : (rows.commit t).profiles userId = some profile) :
    t.profiles userId = some profile ∨
      t.profiles userId = none ∧ rows.profiles userId = some profile :=
  (Option.or_eq_some_iff.mp hprofile)

theorem kept_commit_recording (ht : TransactionRight rows t) (hrole : t.role = .recording)
    (hmay : t.mayCommit = true) (hkept : InvalidationKept rows) :
    InvalidationKept (rows.commit t) := by
  unfold TransactionRight at ht
  rw [hrole] at ht
  intro userId profile hprofile signal hsignal huser hmissing
  cases hstatus : t.statuses userId with
  | some status => exact ⟨status, status_commit_of_some hstatus, ht.marked userId status hstatus⟩
  | none =>
    have hold : signal ∈ rows.events := by
      refine (List.mem_append.mp hsignal).resolve_right fun hnew => ?_
      rw [← huser] at hstatus
      exact marked_of_mayCommit hrole hmay hnew hstatus
    have hprofile : rows.profiles userId = some profile := by
      obtain hprofile | ⟨-, hprofile⟩ := profile_commit hprofile
      · rw [ht.profiles userId] at hprofile
        cases hprofile
      · exact hprofile
    rw [status_commit_of_none hstatus]
    exact hkept userId profile hprofile signal hold huser hmissing

theorem kept_commit_rebuildDirty (ht : TransactionRight rows t) (hrole : t.role = .rebuildDirty)
    (hkept : InvalidationKept rows) : InvalidationKept (rows.commit t) := by
  unfold TransactionRight at ht
  rw [hrole] at ht
  intro userId profile hprofile signal hsignal huser hmissing
  have hold : signal ∈ rows.events := by
    rwa [ProfileRows.commit, ht.inserted, List.append_nil] at hsignal
  obtain hprofile | ⟨hnone, hprofile⟩ := profile_commit hprofile
  · exact absurd ((ht.profiles userId profile hprofile).2 signal hold huser) hmissing
  cases hstatus : t.statuses userId with
  | some status =>
    refine ⟨status, status_commit_of_some hstatus, fun hclear => ?_⟩
    exact ht.cleared userId status hstatus hclear hnone
  | none =>
    rw [status_commit_of_none hstatus]
    exact hkept userId profile hprofile signal hold huser hmissing

theorem kept_commit_rebuildUser_iff {userId : Uuid} (ht : TransactionRight rows t)
    (hrole : t.role = .rebuildUser userId) (hmay : t.mayCommit = true)
    (hkept : InvalidationKept rows) :
    InvalidationKept (rows.commit t) ↔ ReadsAll rows t := by
  unfold TransactionRight at ht
  rw [hrole] at ht
  have hevents : (rows.commit t).events = rows.events := by
    rw [ProfileRows.commit, ht.inserted, List.append_nil]
  constructor
  · intro hafter direct hdirect profile hprofile
    rw [hrole] at hdirect
    obtain rfl : userId = direct := Option.some.inj hdirect
    by_cases hsees : rows.Sees userId profile.builtFrom
    · exact .inl hsees
    simp only [ProfileRows.Sees, not_forall] at hsees
    obtain ⟨signal, hsignal, huser, hmissing⟩ := hsees
    have hwritten : (rows.commit t).profiles userId = some profile := by
      simp only [ProfileRows.commit, Option.mem_def.mp hprofile, Option.some_or]
    obtain ⟨status, hstatus, hdirty⟩ :=
      hafter userId profile hwritten signal (hevents ▸ hsignal) huser hmissing
    cases hown : t.statuses userId with
    | some own =>
      rw [status_commit_of_some hown] at hstatus
      cases hstatus
      exact absurd (ht.statuses userId status hown).2 hdirty
    | none =>
      rw [status_commit_of_none hown] at hstatus
      exact .inr ⟨rfl, status, hstatus, hdirty⟩
  · intro hreads other profile hprofile signal hsignal huser hmissing
    rw [hevents] at hsignal
    obtain hprofile | ⟨hnone, hprofile⟩ := profile_commit hprofile
    · obtain rfl := ht.profiles other profile hprofile
      obtain hsees | ⟨hown, hdirty⟩ := hreads other (by rw [hrole]; rfl) profile hprofile
      · exact absurd (hsees signal hsignal huser) hmissing
      · rw [status_commit_of_none hown]
        exact hdirty
    cases hown : t.statuses other with
    | some own =>
      obtain ⟨rfl, -⟩ := ht.statuses other own hown
      simp only [ProfileTransaction.mayCommit, hrole, Bool.and_eq_true, decide_eq_true_eq]
        at hmay
      exact absurd hnone hmay.2
    | none =>
      rw [status_commit_of_none hown]
      exact hkept other profile hprofile signal hsignal huser hmissing

theorem kept_commit_iff (ht : TransactionRight rows t) (hmay : t.mayCommit = true)
    (hkept : InvalidationKept rows) :
    InvalidationKept (rows.commit t) ↔ ReadsAll rows t := by
  cases hrole : t.role with
  | recording =>
    refine iff_of_true (kept_commit_recording ht hrole hmay hkept) fun _ hdirect => ?_
    rw [hrole] at hdirect
    cases hdirect
  | rebuildDirty =>
    refine iff_of_true (kept_commit_rebuildDirty ht hrole hkept) fun _ hdirect => ?_
    rw [hrole] at hdirect
    cases hdirect
  | rebuildUser userId => exact kept_commit_rebuildUser_iff ht hrole hmay hkept

theorem ProfileSessions.commit (hs : ProfileSessions s)
    (hcall : s.sessions.calls callId = some t) (hmay : t.mayCommit = true) :
    ProfileSessions { s.drop callId with rows := s.rows.commit t } := by
  refine Sessions.Sound.drop hs ?_
  intro other found hne hfound hright
  have hsees : ∀ userId seen, userId ∈ found.claimed → s.rows.Sees userId seen →
      (s.rows.commit t).Sees userId seen := by
    intro userId seen hclaimed hseen signal hsignal huser
    obtain hsignal | hsignal := List.mem_append.mp hsignal
    · exact hseen signal hsignal huser
    have hrole : t.role = .recording := by
      by_contra hrole
      rw [inserted_of_role (hs.right callId t hcall) hrole] at hsignal
      cases hsignal
    have hmarked := marked_of_mayCommit hrole hmay hsignal
    rw [huser] at hmarked
    exact absurd (hs.eq_of_needs hcall hfound (.inr hmarked) (.inl hclaimed)) hne
  unfold TransactionRight at hright ⊢
  cases hrole : found.role with
  | recording =>
    rw [hrole] at hright
    exact hright
  | rebuildDirty =>
    rw [hrole] at hright
    refine ⟨hright.inserted, hright.remaining, ?_, ?_, hright.cleared⟩
    · intro userId seen hreading
      obtain ⟨hclaimed, hseen⟩ := hright.reading userId seen hreading
      exact ⟨hclaimed, hsees userId seen hclaimed hseen⟩
    · intro userId profile hprofile
      obtain ⟨hclaimed, hseen⟩ := hright.profiles userId profile hprofile
      exact ⟨hclaimed, hsees userId profile.builtFrom hclaimed hseen⟩
  | rebuildUser userId =>
    rw [hrole] at hright
    exact hright

theorem kept_step_iff (hs : ProfileSessions s) (hkept : InvalidationKept s.rows)
    (hstep : profileStep settings s label = some s') :
    ProfileSessions s' ∧ (InvalidationKept s'.rows ↔ CommitsAllRead ⟨s, label, s'⟩) := by
  obtain ⟨hrows, hsessions, hlabel⟩ | ⟨callId, t, rfl, hcall, hmay, rfl⟩ :=
    profile_step_cases hs hstep
  · refine ⟨hsessions, ?_⟩
    rw [hrows]
    refine iff_of_true hkept fun callId hcommit => ?_
    cases label with
    | commit other => exact absurd rfl (hlabel other)
    | _ => cases hcommit
  refine ⟨hs.commit hcall hmay, ?_⟩
  rw [kept_commit_iff (hs.right callId t hcall) hmay hkept]
  constructor
  · rintro hreads _ ⟨⟩ found hfound
    rw [hcall] at hfound
    cases hfound
    exact hreads
  · intro hreads
    exact hreads callId rfl t hcall

end Commit

structure InitialProfiles (s : ProfileState) : Prop where
  kept : InvalidationKept s.rows
  idle : ∀ callId, s.sessions.calls callId = none

/-- No invalidation is lost exactly in the runs whose rebuilds outside the scheduler's
batch commit only what they have read in full. A batch of the scheduler loses none. -/
theorem invalidation_kept_iff (settings : ProfileSettings) (s : ProfileState)
    (hs : InitialProfiles s) (as : List ProfileLabel) :
    (∀ x ∈ transitions (profileStep settings) s as, InvalidationKept x.after.rows) ↔
      ∀ x ∈ transitions (profileStep settings) s as, CommitsAllRead x := by
  have hsessions : ProfileSessions s := Sessions.sound_of_calls_none hs.idle
  have hkept := hs.kept
  clear hs
  induction as generalizing s with
  | nil => exact iff_of_true nofun nofun
  | cons label as ih =>
    cases hstep : profileStep settings s label with
    | none =>
      rw [transitions_cons_of_none as hstep]
      exact ih s hsessions hkept
    | some next =>
      obtain ⟨hnext, hiff⟩ := kept_step_iff hsessions hkept hstep
      rw [transitions_cons_of_some as hstep, List.forall_mem_cons, List.forall_mem_cons, hiff]
      refine and_congr_right fun hcommits => ?_
      exact ih next hnext (hiff.mpr hcommits)

def LosesSignal (rows : ProfileRows) (signal : ViewerSignal) : Prop :=
  (∃ profile ∈ rows.profiles signal.userId, signal ∉ profile.builtFrom) ∧ signal ∈ rows.events ∧
    ∀ status ∈ rows.statuses signal.userId, status.dirtySince = none

instance (rows : ProfileRows) (signal : ViewerSignal) : Decidable (LosesSignal rows signal) :=
  inferInstanceAs (Decidable (_ ∧ _ ∧ _))

theorem LosesSignal.not_kept {rows : ProfileRows} {signal : ViewerSignal}
    (h : LosesSignal rows signal) : ¬ InvalidationKept rows := by
  obtain ⟨⟨profile, hprofile, hmissing⟩, hsignal, hclear⟩ := h
  intro hkept
  obtain ⟨status, hstatus, hdirty⟩ :=
    hkept signal.userId profile hprofile signal hsignal rfl hmissing
  exact hdirty (hclear status hstatus)

section Examples

def profileSettings : ProfileSettings := ⟨['v'], ['m'], 10⟩

/-- `rebuild_user` reads the events; an event of the viewer commits with its mark; the
rebuild clears the mark. -/
def clearedTooLate : List ProfileLabel :=
  [.begin 0 (.rebuildUser 7), .readSignals 0, .begin 1 .recording, .insertEvent 1 ⟨7, 100⟩,
    .markDirty 1 7 5, .commit 1, .writeProfile 0 ['v'], .commit 0]

theorem invalidation_lost :
    ¬ ∀ x ∈ transitions (profileStep profileSettings) {} clearedTooLate,
      InvalidationKept x.after.rows := by
  intro h
  have hlost : ∃ x ∈ transitions (profileStep profileSettings) {} clearedTooLate,
      LosesSignal x.after.rows ⟨7, 100⟩ := by decide +kernel
  obtain ⟨x, hx, hlost⟩ := hlost
  exact hlost.not_kept (h x hx)

theorem initialProfiles_empty : InitialProfiles {} := ⟨nofun, fun _ => rfl⟩

/-- The scheduler has claimed the viewer when an event of theirs comes in; its mark waits
until the batch is committed. -/
theorem invalidation_kept_iff_scheduler :
    InitialProfiles {} ∧ ∀ x ∈ transitions (profileStep profileSettings) {}
      [.begin 1 .recording, .insertEvent 1 ⟨7, 100⟩, .markDirty 1 7 5, .commit 1,
        .begin 0 .rebuildDirty, .claim 0 7, .readSignals 0, .begin 2 .recording,
        .insertEvent 2 ⟨7, 101⟩, .markDirty 2 7 6, .writeProfile 0 ['v'], .commit 0,
        .markDirty 2 7 6, .commit 2], InvalidationKept x.after.rows := by
  refine ⟨initialProfiles_empty, ?_⟩
  exact (invalidation_kept_iff profileSettings {} initialProfiles_empty _).mpr
    (by decide +kernel)

end Examples

end MemeExpert.Recommendations
