import MemeExpert.Lib.Queries
import MemeExpert.Lib.Runs
import MemeExpert.Services.Accounts

/-! An access token carries the nonce its user had when it was issued, and a bump of the
nonce revokes every token issued before. -/

namespace MemeExpert.Services

open Runs

def accessTokenType : String := "access"

structure AccessTokenPayload where
  sub : Uuid
  type : String
  iat : Time
  exp : Time
  nonce : Nat
  deriving DecidableEq

/-- What a client presents. Only the service signs, so a signed payload is one it wrote: the
subject is a user id and the nonce a number. -/
inductive AccessToken where
  | blank
  | invalid
  | signed (payload : AccessTokenPayload)

structure AuthSession where
  accessToken : AccessTokenPayload
  user : Account
  expiresIn : Time
  issuedAt : Time

structure AuthResolution where
  user : Account
  replacementSession : Option AuthSession := none
  migratedFromUserId : Option Uuid := none

section AuthService

variable (s : AccountTables)

def encodeAccessToken (user : Account) (ttl issuedAt : Time) : AccessTokenPayload where
  sub := user.id
  type := accessTokenType
  iat := issuedAt
  exp := issuedAt + ttl
  nonce := user.tokenNonce

def decodeAccessToken (token : AccessToken) (now : Time) : Except ServiceError AccessTokenPayload :=
  match token with
  | .blank => .error ⟨.missingToken, "Access token is required."⟩
  | .invalid => .error ⟨.invalidToken, "Access token is invalid."⟩
  | .signed payload =>
    if payload.exp ≤ now then .error ⟨.expiredToken, "Access token has expired."⟩
    else if payload.type ≠ accessTokenType then
      .error ⟨.invalidToken, "Access token has an unexpected type."⟩
    else .ok payload

def getUserById (userId : Uuid) : Except ServiceError Account :=
  match s.account userId with
  | some user => .ok user
  | none => .error ⟨.authenticatedUserNotFound, s!"Authenticated user {userId} no longer exists."⟩

def issueSessionForUser (user : Account) (ttl now : Time) : Except ServiceError AuthSession := do
  ensureAccountIsAvailable user
  pure
    { accessToken := encodeAccessToken user ttl now
      user := user
      expiresIn := ttl
      issuedAt := now }

def newerMergeLog (a b : AccountMergeLog) : Bool :=
  b.createdAt < a.createdAt || (a.createdAt = b.createdAt && b.id < a.id)

/-- `_get_latest_merge_target_for_guest`: logs join the accounts that still exist. -/
def getLatestMergeTargetForGuest (guestUserId : Uuid) : Option Account :=
  (Queries.firstBy newerMergeLog <| s.mergeLogs.filter fun log =>
    log.guestAccountId = guestUserId && (s.account log.targetAccountId).isSome).bind
      fun log => s.account log.targetAccountId

def resolveMergedToken (userId : Uuid) (ttl now : Time) : Except ServiceError AuthResolution :=
  match getLatestMergeTargetForGuest s userId with
  | none => .error ⟨.authenticatedUserNotFound, s!"Authenticated user {userId} no longer exists."⟩
  | some target => do
    ensureAccountIsAvailable target
    let session ← issueSessionForUser target ttl now
    pure
      { user := session.user, replacementSession := some session, migratedFromUserId := some userId }

def resolveLiveToken (user : Account) (claimedNonce : Nat) : Except ServiceError AuthResolution := do
  if user.tokenNonce ≠ claimedNonce then
    throw ⟨.invalidToken, "Session has been revoked; please sign in again."⟩
  ensureAccountIsAvailable user
  pure { user := user }

def resolveAccessToken (token : AccessToken) (requireFullAccount : Bool) (ttl now : Time) :
    Except ServiceError AuthResolution := do
  let payload ← decodeAccessToken token now
  let resolution ← (s.account payload.sub).elim (resolveMergedToken s payload.sub ttl now)
    fun user => resolveLiveToken user payload.nonce
  if requireFullAccount ∧ resolution.user.accountType ≠ .full then
    throw ⟨.upgradeRequired, "A full account is required for this operation."⟩
  pure resolution

end AuthService

inductive AuthEvent where
  | issued (token : AccessTokenPayload)
  | bumped (userId : Uuid)
  | merged (guestUserId targetUserId : Uuid)
  deriving DecidableEq

structure AuthState where
  tables : AccountTables
  history : List AuthEvent := []
  deriving DecidableEq

inductive AuthCall where
  | createGuest (userId : Uuid) (lifetime now : Time)
  | upgrade (guestUserId : Uuid) (identity : UpgradeIdentity) (now : Time)
  | issue (userId : Uuid) (ttl now : Time)
  | bump (userId : Uuid) (now : Time)
  | merge (guestUserId targetUserId : Uuid) (google : Option GoogleIdentity) (ids : MergeIds)
      (now : Time)
  | resolve (token : AccessToken) (requireFullAccount : Bool) (ttl now : Time)

def AuthState.record (s : AuthState) (session : Option AuthSession) : AuthState :=
  { s with history := (session.map fun session => .issued session.accessToken).toList ++ s.history }

def authStep (s : AuthState) : AuthCall → Option AuthState
  | .createGuest userId lifetime now =>
    if freshUserId s.tables userId then
      some { s with tables := createGuestUser s.tables userId now lifetime }
    else none
  | .upgrade guestUserId identity now =>
    (upgradeGuestInPlace s.tables guestUserId identity now).toOption.map fun tables =>
      { s with tables := tables }
  | .issue userId ttl now =>
    (getUserById s.tables userId >>= fun user => issueSessionForUser user ttl now).toOption.map
      fun session => s.record (some session)
  | .bump userId now =>
    (bumpTokenNonce s.tables userId now).toOption.map fun tables =>
      { tables := tables, history := .bumped userId :: s.history }
  | .merge guestUserId targetUserId google ids now =>
    (mergeGuestIntoFull s.tables guestUserId targetUserId google ids now).toOption.map fun tables =>
      { tables := tables, history := .merged guestUserId targetUserId :: s.history }
  | .resolve token requireFullAccount ttl now =>
    (resolveAccessToken s.tables token requireFullAccount ttl now).toOption.map fun resolution =>
      s.record resolution.replacementSession

def AuthInitial (s : AuthState) : Prop := s.history = [] ∧ s.tables.mergeLogs = []

/-- After the token was issued, the nonce of its subject was bumped, or that of the account its
subject had been merged into. -/
def Revoked (token : AccessTokenPayload) : List AuthEvent → Prop
  | [] => False
  | event :: earlier =>
    (∃ userId, event = .bumped userId ∧ .issued token ∈ earlier ∧
      (token.sub = userId ∨ .merged token.sub userId ∈ earlier)) ∨ Revoked token earlier

open Results

inductive AuthEffect (s t : AuthState) : Prop where
  | registered (userId : Uuid) (hfresh : freshUserId s.tables userId = true)
      (hkept : ∀ otherId, otherId ≠ userId → Kept s.tables t.tables otherId)
      (hlogs : t.tables.mergeLogs = s.tables.mergeLogs) (hhistory : t.history = s.history)
  | kept (hkept : ∀ userId, Kept s.tables t.tables userId)
      (hlogs : t.tables.mergeLogs = s.tables.mergeLogs) (hhistory : t.history = s.history)
  | issued (user : Account) (ttl now : Time) (huser : s.tables.account user.id = some user)
      (htables : t.tables = s.tables)
      (hhistory : t.history = .issued (encodeAccessToken user ttl now) :: s.history)
  | bumped (userId : Uuid) (hkept : ∀ userId, Kept s.tables t.tables userId)
      (hraised : ∀ before, s.tables.account userId = some before →
        ∃ after, t.tables.account userId = some after ∧ before.tokenNonce < after.tokenNonce)
      (hlogs : t.tables.mergeLogs = s.tables.mergeLogs)
      (hhistory : t.history = .bumped userId :: s.history)
  | merged (log : AccountMergeLog)
      (hguest : ∃ guest, s.tables.account log.guestAccountId = some guest ∧
        guest.accountType = .guest)
      (htarget : ∃ target, s.tables.account log.targetAccountId = some target ∧
        target.accountType = .full)
      (hgone : t.tables.account log.guestAccountId = none)
      (hkept : ∀ userId, userId ≠ log.guestAccountId → Kept s.tables t.tables userId)
      (hlogs : t.tables.mergeLogs = s.tables.mergeLogs ++ [log])
      (hhistory : t.history = .merged log.guestAccountId log.targetAccountId :: s.history)

variable {now ttl : Time} {user : Account}

theorem issueSessionForUser_ok {session : AuthSession}
    (h : issueSessionForUser user ttl now = .ok session) :
    user.status = .active ∧ session.user = user ∧
      session.accessToken = encodeAccessToken user ttl now := by
  simp only [issueSessionForUser, bind_eq_ok, pure_eq_ok] at h
  obtain ⟨_, havailable, rfl⟩ := h
  exact ⟨ensureAccountIsAvailable_ok.mp havailable, rfl, rfl⟩

variable {token : AccessTokenPayload}

theorem decodeAccessToken_signed_ok {payload : AccessTokenPayload} :
    decodeAccessToken (.signed token) now = .ok payload ↔
      now < token.exp ∧ token.type = accessTokenType ∧ token = payload := by
  unfold decodeAccessToken
  by_cases hexp : token.exp ≤ now
  · simp [hexp]
  by_cases htype : token.type = accessTokenType
  · simp [hexp, htype, Nat.lt_of_not_le hexp]
  · simp [hexp, htype]

variable {target : Account}

theorem getLatestMergeTargetForGuest_eq_some {s : AccountTables} {guestUserId : Uuid}
    (h : getLatestMergeTargetForGuest s guestUserId = some target) :
    ∃ log ∈ s.mergeLogs, log.guestAccountId = guestUserId ∧
      s.account log.targetAccountId = some target := by
  obtain ⟨log, hlog, htarget⟩ := Option.bind_eq_some_iff.mp h
  obtain ⟨hmem, hguest⟩ := List.mem_filter.mp (Queries.mem_of_firstBy hlog)
  simp only [Bool.and_eq_true, decide_eq_true_eq] at hguest
  exact ⟨log, hmem, hguest.1, htarget⟩

variable {resolution : AuthResolution}

theorem resolveMergedToken_ok {s : AccountTables} {userId : Uuid}
    (h : resolveMergedToken s userId ttl now = .ok resolution) :
    ∃ target session, getLatestMergeTargetForGuest s userId = some target ∧
      target.status = .active ∧ resolution.user = target ∧
      resolution.replacementSession = some session ∧
      session.accessToken = encodeAccessToken target ttl now := by
  unfold resolveMergedToken at h
  split at h
  · cases h
  next target htarget =>
  simp only [bind_eq_ok, pure_eq_ok] at h
  obtain ⟨_, -, session, hsession, rfl⟩ := h
  obtain ⟨hstatus, huser, htoken⟩ := issueSessionForUser_ok hsession
  exact ⟨target, session, htarget, hstatus, huser, rfl, htoken⟩

theorem resolveLiveToken_ok {claimedNonce : Nat}
    (h : resolveLiveToken user claimedNonce = .ok resolution) :
    user.tokenNonce = claimedNonce ∧ resolution.replacementSession = none := by
  simp only [resolveLiveToken, guard_eq_ok, bind_eq_ok, pure_eq_ok] at h
  obtain ⟨hnonce, _, -, rfl⟩ := h
  exact ⟨not_not.mp hnonce, rfl⟩

theorem resolveAccessToken_ok {s : AccountTables} {token : AccessToken} {requireFullAccount : Bool}
    (h : resolveAccessToken s token requireFullAccount ttl now = .ok resolution) :
    ∃ payload, decodeAccessToken token now = .ok payload ∧
      ((∃ user, s.account payload.sub = some user ∧ user.tokenNonce = payload.nonce ∧
        resolution.replacementSession = none) ∨
      (s.account payload.sub = none ∧ resolveMergedToken s payload.sub ttl now = .ok resolution)) := by
  simp only [resolveAccessToken, bind_eq_ok, guard_eq_ok, pure_eq_ok] at h
  obtain ⟨payload, hpayload, found, hfound, -, rfl⟩ := h
  refine ⟨payload, hpayload, ?_⟩
  cases haccount : s.account payload.sub with
  | none =>
    rw [haccount] at hfound
    exact .inr ⟨rfl, hfound⟩
  | some user =>
    rw [haccount] at hfound
    obtain ⟨hnonce, hnone⟩ := resolveLiveToken_ok hfound
    exact .inl ⟨user, rfl, hnonce, hnone⟩

theorem authStep_effect {s t : AuthState} {call : AuthCall} (h : authStep s call = some t) :
    AuthEffect s t := by
  cases call with
  | createGuest userId lifetime now =>
    simp only [authStep, Option.ite_none_right_eq_some, Option.some.injEq] at h
    obtain ⟨hfresh, rfl⟩ := h
    exact .registered userId hfresh (fun _ hne => kept_createGuestUser now lifetime hne) rfl rfl
  | upgrade guestUserId identity now =>
    simp only [authStep, Option.map_eq_some_iff, toOption_eq_some] at h
    obtain ⟨tables, htables, rfl⟩ := h
    have hkept := kept_upgradeGuestInPlace htables
    obtain ⟨rfl, -⟩ := upgradeGuestInPlace_ok htables
    exact .kept hkept rfl rfl
  | issue userId ttl now =>
    simp only [authStep, Option.map_eq_some_iff, toOption_eq_some, bind_eq_ok] at h
    obtain ⟨session, ⟨user, huser, hsession⟩, rfl⟩ := h
    obtain ⟨-, -, htoken⟩ := issueSessionForUser_ok hsession
    unfold getUserById at huser
    split at huser
    · next found hfound =>
      cases huser
      obtain ⟨-, rfl⟩ := account_eq_some hfound
      exact .issued user ttl now hfound rfl (by simp [AuthState.record, htoken])
    · cases huser
  | bump userId now =>
    simp only [authStep, Option.map_eq_some_iff, toOption_eq_some] at h
    obtain ⟨tables, htables, rfl⟩ := h
    unfold bumpTokenNonce at htables
    split at htables
    · cases htables
    cases htables
    refine .bumped userId (Kept.updateAccount userId (fun _ => rfl) (fun _ => Nat.le_succ _)
      fun _ => id) ?_ rfl rfl
    intro before hbefore
    refine ⟨bumpedRow now before, ?_, Nat.lt_succ_self _⟩
    rw [account_updateAccount (bumpedRow now) fun _ => rfl, if_pos rfl, hbefore, Option.map_some]
  | merge guestUserId targetUserId google ids now =>
    simp only [authStep, Option.map_eq_some_iff, toOption_eq_some] at h
    obtain ⟨tables, htables, rfl⟩ := h
    have hmerges := mergeGuestIntoFull_ok htables
    obtain ⟨guest, hguest, hlink⟩ := hmerges.guest
    obtain ⟨target, htarget, htype, -⟩ := hmerges.target
    exact .merged _ ⟨guest, hguest, hlink.accountType_eq⟩ ⟨target, htarget, htype⟩
      hmerges.kept.1 hmerges.kept.2 hmerges.mergeLogs_eq rfl
  | resolve token requireFullAccount ttl now =>
    simp only [authStep, Option.map_eq_some_iff, toOption_eq_some] at h
    obtain ⟨resolution, hresolution, rfl⟩ := h
    obtain ⟨payload, -, ⟨user, -, -, hnone⟩ | ⟨-, hmerged⟩⟩ := resolveAccessToken_ok hresolution
    · exact .kept (fun _ => Kept.of_eq rfl) rfl (by simp [AuthState.record, hnone])
    obtain ⟨target, session, htarget, -, -, hsession, htoken⟩ := resolveMergedToken_ok hmerged
    obtain ⟨log, -, -, haccount⟩ := getLatestMergeTargetForGuest_eq_some htarget
    obtain ⟨-, hid⟩ := account_eq_some haccount
    refine .issued target ttl now (hid ▸ haccount) rfl ?_
    simp [AuthState.record, hsession, htoken]

theorem Revoked.issued {history : List AuthEvent}
    (h : Revoked token history) : .issued token ∈ history := by
  induction history with
  | nil => exact h.elim
  | cons event earlier ih =>
    rcases h with ⟨_, -, hissued, -⟩ | hearlier
    · exact List.mem_cons_of_mem _ hissued
    · exact List.mem_cons_of_mem _ (ih hearlier)

theorem revoked_cons_of_ne {event : AuthEvent}
    {history : List AuthEvent} (hne : ∀ userId, event ≠ .bumped userId) :
    Revoked token (event :: history) ↔ Revoked token history := by
  constructor
  · rintro (⟨userId, heq, -⟩ | hearlier)
    · exact absurd heq (hne userId)
    · exact hearlier
  · exact .inr

structure MergesFinal (s : AccountTables) : Prop where
  merged_gone : ∀ log ∈ s.mergeLogs, s.account log.guestAccountId = none
  merged_once : ∀ log ∈ s.mergeLogs, ∀ other ∈ s.mergeLogs,
    log.guestAccountId = other.guestAccountId → log.targetAccountId = other.targetAccountId
  target_full : ∀ log ∈ s.mergeLogs, ∃ target,
    s.account log.targetAccountId = some target ∧ target.accountType = .full

theorem MergesFinal.of_kept {s t : AccountTables} (h : MergesFinal s)
    (hkept : ∀ userId, freshUserId s userId = false → Kept s t userId)
    (hlogs : t.mergeLogs = s.mergeLogs) : MergesFinal t where
  merged_gone := by
    rw [hlogs]
    intro log hlog
    exact (hkept _ (freshUserId_eq_false_iff.mpr (.inr ⟨log, hlog, rfl⟩))).of_none
      (h.merged_gone log hlog)
  merged_once := by
    rw [hlogs]
    exact h.merged_once
  target_full := by
    rw [hlogs]
    intro log hlog
    obtain ⟨target, htarget, htype⟩ := h.target_full log hlog
    have hknown : freshUserId s log.targetAccountId = false :=
      freshUserId_eq_false_iff.mpr (.inl (by rw [htarget]; rfl))
    obtain ⟨after, hafter, -, hfull⟩ := (hkept _ hknown).of_some htarget
    exact ⟨after, hafter, hfull htype⟩

variable {log : AccountMergeLog}

theorem MergesFinal.of_merge {s t : AccountTables} (h : MergesFinal s)
    {guest : Account} (hguest : s.account log.guestAccountId = some guest)
    (hguestType : guest.accountType = .guest) (htarget : s.account log.targetAccountId = some target)
    (htargetType : target.accountType = .full) (hgone : t.account log.guestAccountId = none)
    (hkept : ∀ userId, userId ≠ log.guestAccountId → Kept s t userId)
    (hlogs : t.mergeLogs = s.mergeLogs ++ [log]) : MergesFinal t := by
  have hold : ∀ other ∈ s.mergeLogs, other.guestAccountId ≠ log.guestAccountId := by
    intro other hother heq
    have hnone := h.merged_gone other hother
    rw [heq, hguest] at hnone
    cases hnone
  have hstays : ∀ userId target, s.account userId = some target → target.accountType = .full →
      ∃ after, t.account userId = some after ∧ after.accountType = .full := by
    intro userId target htarget htype
    have hne : userId ≠ log.guestAccountId := by
      rintro rfl
      rw [hguest, Option.some.injEq] at htarget
      rw [← htarget, hguestType] at htype
      cases htype
    obtain ⟨after, hafter, -, hfull⟩ := (hkept userId hne).of_some htarget
    exact ⟨after, hafter, hfull htype⟩
  refine { merged_gone := ?_, merged_once := ?_, target_full := ?_ } <;> rw [hlogs]
  · intro other hother
    rcases List.mem_append.mp hother with hother | hother
    · exact (hkept _ (hold other hother)).of_none (h.merged_gone other hother)
    · rw [List.mem_singleton.mp hother]
      exact hgone
  · intro first hfirst second hsecond heq
    rcases List.mem_append.mp hfirst with hfirst | hfirst <;>
      rcases List.mem_append.mp hsecond with hsecond | hsecond
    · exact h.merged_once first hfirst second hsecond heq
    · rw [List.mem_singleton.mp hsecond] at heq
      exact absurd heq (hold first hfirst)
    · rw [List.mem_singleton.mp hfirst] at heq
      exact absurd heq.symm (hold second hsecond)
    · rw [List.mem_singleton.mp hfirst, List.mem_singleton.mp hsecond]
  · intro other hother
    rcases List.mem_append.mp hother with hother | hother
    · obtain ⟨target, htarget, htype⟩ := h.target_full other hother
      exact hstays _ target htarget htype
    · rw [List.mem_singleton.mp hother]
      exact hstays _ target htarget htargetType

theorem MergesFinal.step {s t : AuthState} (h : MergesFinal s.tables) (heffect : AuthEffect s t) :
    MergesFinal t.tables := by
  cases heffect with
  | registered userId hfresh hkept hlogs hhistory =>
    refine h.of_kept ?_ hlogs
    intro otherId hknown
    refine hkept otherId ?_
    rintro rfl
    rw [hfresh] at hknown
    cases hknown
  | kept hkept hlogs hhistory => exact h.of_kept (fun userId _ => hkept userId) hlogs
  | issued user ttl now huser htables hhistory => exact htables ▸ h
  | bumped userId hkept hraised hlogs hhistory =>
    exact h.of_kept (fun userId _ => hkept userId) hlogs
  | merged log hguest htarget hgone hkept hlogs hhistory =>
    obtain ⟨guest, hguest, hguestType⟩ := hguest
    obtain ⟨target, htarget, htargetType⟩ := htarget
    exact h.of_merge hguest hguestType htarget htargetType hgone hkept hlogs

structure NonceBound (s : AuthState) : Prop where
  merged_logged : ∀ guestUserId targetUserId, .merged guestUserId targetUserId ∈ s.history →
    ∃ log ∈ s.tables.mergeLogs, log.guestAccountId = guestUserId
  issued_type : ∀ token, .issued token ∈ s.history → token.type = accessTokenType
  issued_known : ∀ token, .issued token ∈ s.history → freshUserId s.tables token.sub = false
  nonce_le : ∀ token, .issued token ∈ s.history → ∀ user,
    s.tables.account token.sub = some user → token.nonce ≤ user.tokenNonce
  nonce_lt : ∀ token, Revoked token s.history → ∀ user,
    s.tables.account token.sub = some user → token.nonce < user.tokenNonce

/-- The part every call has in common: accounts come from accounts with no larger nonce, and
what was known stays known. What is new in the history is left to the caller. -/
structure Carries (s t : AuthState) : Prop where
  account : ∀ userId, freshUserId s.tables userId = false → ∀ user,
    t.tables.account userId = some user →
      ∃ before, s.tables.account userId = some before ∧ before.tokenNonce ≤ user.tokenNonce
  known : ∀ userId, freshUserId s.tables userId = false → freshUserId t.tables userId = false
  logs : ∀ log ∈ s.tables.mergeLogs, log ∈ t.tables.mergeLogs

theorem Carries.of_kept {s t : AuthState}
    (hkept : ∀ userId, freshUserId s.tables userId = false → Kept s.tables t.tables userId)
    (hlogs : t.tables.mergeLogs = s.tables.mergeLogs) : Carries s t where
  account userId hknown user huser := (hkept userId hknown).account huser
  known userId hknown := by
    rw [freshUserId_eq_false_iff, hlogs]
    rcases freshUserId_eq_false_iff.mp hknown with hsome | hlog
    · obtain ⟨before, hbefore⟩ := Option.isSome_iff_exists.mp hsome
      obtain ⟨after, hafter, -⟩ := (hkept userId hknown).of_some hbefore
      exact .inl (by rw [hafter]; rfl)
    · exact .inr hlog
  logs log hlog := hlogs ▸ hlog

theorem Carries.of_merge {s t : AuthState}
    (hgone : t.tables.account log.guestAccountId = none)
    (hkept : ∀ userId, userId ≠ log.guestAccountId → Kept s.tables t.tables userId)
    (hlogs : t.tables.mergeLogs = s.tables.mergeLogs ++ [log]) : Carries s t where
  account userId hknown user huser := by
    have hne : userId ≠ log.guestAccountId := by
      rintro rfl
      rw [hgone] at huser
      cases huser
    exact (hkept userId hne).account huser
  known userId hknown := by
    rw [freshUserId_eq_false_iff, hlogs]
    by_cases hguest : userId = log.guestAccountId
    · exact .inr ⟨log, by simp, hguest.symm⟩
    rcases freshUserId_eq_false_iff.mp hknown with hsome | ⟨other, hother, hid⟩
    · obtain ⟨before, hbefore⟩ := Option.isSome_iff_exists.mp hsome
      obtain ⟨after, hafter, -⟩ := (hkept userId hguest).of_some hbefore
      exact .inl (by rw [hafter]; rfl)
    · exact .inr ⟨other, List.mem_append_left _ hother, hid⟩
  logs other hother := hlogs ▸ List.mem_append_left _ hother

section Carry

variable {s t : AuthState} (h : NonceBound s) (hcarries : Carries s t)

include h hcarries

theorem NonceBound.le_of_carries (htoken : .issued token ∈ s.history)
    (huser : t.tables.account token.sub = some user) :
    token.nonce ≤ user.tokenNonce := by
  obtain ⟨before, hbefore, hnonce⟩ := hcarries.account _ (h.issued_known token htoken) user huser
  exact (h.nonce_le token htoken before hbefore).trans hnonce

theorem NonceBound.lt_of_carries (htoken : Revoked token s.history)
    (huser : t.tables.account token.sub = some user) :
    token.nonce < user.tokenNonce := by
  obtain ⟨before, hbefore, hnonce⟩ :=
    hcarries.account _ (h.issued_known token htoken.issued) user huser
  exact (h.nonce_lt token htoken before hbefore).trans_le hnonce

theorem NonceBound.of_carries
    (hissued : ∀ token, .issued token ∈ t.history → .issued token ∈ s.history)
    (hrevoked : ∀ token, Revoked token t.history → Revoked token s.history)
    (hmerged : ∀ guestUserId targetUserId, .merged guestUserId targetUserId ∈ t.history →
      .merged guestUserId targetUserId ∈ s.history ∨
        ∃ log ∈ t.tables.mergeLogs, log.guestAccountId = guestUserId) : NonceBound t where
  merged_logged guestUserId targetUserId hmem := by
    rcases hmerged guestUserId targetUserId hmem with hbefore | hlog
    · obtain ⟨log, hlog, hid⟩ := h.merged_logged _ _ hbefore
      exact ⟨log, hcarries.logs log hlog, hid⟩
    · exact hlog
  issued_type token htoken := h.issued_type token (hissued token htoken)
  issued_known token htoken := hcarries.known _ (h.issued_known token (hissued token htoken))
  nonce_le token htoken _ huser := h.le_of_carries hcarries (hissued token htoken) huser
  nonce_lt token htoken _ huser := h.lt_of_carries hcarries (hrevoked token htoken) huser

end Carry

theorem NonceBound.of_issue {s t : AuthState} (h : NonceBound s)
    (huser : s.tables.account user.id = some user) (htables : t.tables = s.tables)
    (hhistory : t.history = .issued (encodeAccessToken user ttl now) :: s.history) :
    NonceBound t := by
  have hissued : ∀ token, .issued token ∈ t.history →
      token = encodeAccessToken user ttl now ∨ .issued token ∈ s.history := by
    intro token htoken
    rw [hhistory, List.mem_cons, AuthEvent.issued.injEq] at htoken
    exact htoken
  refine
    { merged_logged := ?_
      issued_type := ?_
      issued_known := ?_
      nonce_le := ?_
      nonce_lt := ?_ } <;> try rw [htables]
  · intro guestUserId targetUserId hmem
    rw [hhistory, List.mem_cons] at hmem
    rcases hmem with hmem | hmem
    · cases hmem
    · exact h.merged_logged _ _ hmem
  · intro token htoken
    rcases hissued token htoken with rfl | hbefore
    · rfl
    · exact h.issued_type token hbefore
  · intro token htoken
    rcases hissued token htoken with rfl | hbefore
    · exact freshUserId_eq_false_iff.mpr (.inl (by rw [encodeAccessToken, huser]; rfl))
    · exact h.issued_known token hbefore
  · intro token htoken found hfound
    rcases hissued token htoken with rfl | hbefore
    · rw [encodeAccessToken, huser, Option.some.injEq] at hfound
      rw [← hfound, encodeAccessToken]
    · exact h.nonce_le token hbefore found hfound
  · intro token htoken
    rw [hhistory, revoked_cons_of_ne (by simp)] at htoken
    exact h.nonce_lt token htoken

theorem NonceBound.of_bump {s t : AuthState} (h : NonceBound s) (hmerges : MergesFinal s.tables)
    {userId : Uuid} (hkept : ∀ userId, Kept s.tables t.tables userId)
    (hraised : ∀ before, s.tables.account userId = some before →
      ∃ after, t.tables.account userId = some after ∧ before.tokenNonce < after.tokenNonce)
    (hlogs : t.tables.mergeLogs = s.tables.mergeLogs)
    (hhistory : t.history = .bumped userId :: s.history) : NonceBound t := by
  have hcarries : Carries s t := .of_kept (fun userId _ => hkept userId) hlogs
  have hissued : ∀ token, .issued token ∈ t.history → .issued token ∈ s.history := by
    intro token htoken
    rw [hhistory] at htoken
    exact (List.mem_cons.mp htoken).resolve_left fun heq => nomatch heq
  refine
    { merged_logged := ?_
      issued_type := fun token htoken => h.issued_type token (hissued token htoken)
      issued_known := fun token htoken =>
        hcarries.known _ (h.issued_known token (hissued token htoken))
      nonce_le := fun token htoken user huser =>
        h.le_of_carries hcarries (hissued token htoken) huser
      nonce_lt := ?_ }
  · intro guestUserId targetUserId hmem
    rw [hhistory] at hmem
    rw [hlogs]
    exact h.merged_logged _ _ ((List.mem_cons.mp hmem).resolve_left fun heq => nomatch heq)
  intro token htoken user huser
  rw [hhistory] at htoken
  rcases htoken with ⟨bumpedId, heq, hbefore, hsub⟩ | hearlier
  · cases heq
    obtain ⟨before, haccount, -⟩ := (hkept token.sub).account huser
    rcases hsub with hsub | hsub
    · -- the subject itself was bumped, and no token is ahead of the stored nonce
      rw [hsub] at haccount huser
      obtain ⟨after, hafter, hlt⟩ := hraised before haccount
      rw [huser, Option.some.injEq] at hafter
      exact (h.nonce_le token hbefore before (hsub ▸ haccount)).trans_lt (hafter ▸ hlt)
    obtain ⟨log, hlog, hid⟩ := h.merged_logged _ _ hsub
    rw [← hid, hmerges.merged_gone log hlog] at haccount
    cases haccount
  · exact h.lt_of_carries hcarries hearlier huser

theorem NonceBound.step {s t : AuthState} (h : NonceBound s) (hmerges : MergesFinal s.tables)
    (heffect : AuthEffect s t) : NonceBound t := by
  cases heffect with
  | registered userId hfresh hkept hlogs hhistory =>
    refine h.of_carries (.of_kept ?_ hlogs) ?_ ?_ ?_
    · intro otherId hknown
      refine hkept otherId ?_
      rintro rfl
      rw [hfresh] at hknown
      cases hknown
    all_goals rw [hhistory]
    · exact fun _ => id
    · exact fun _ => id
    · exact fun _ _ => .inl
  | kept hkept hlogs hhistory =>
    refine h.of_carries (.of_kept (fun userId _ => hkept userId) hlogs) ?_ ?_ ?_
    all_goals rw [hhistory]
    · exact fun _ => id
    · exact fun _ => id
    · exact fun _ _ => .inl
  | issued user ttl now huser htables hhistory => exact h.of_issue huser htables hhistory
  | bumped userId hkept hraised hlogs hhistory => exact h.of_bump hmerges hkept hraised hlogs hhistory
  | merged log hguest htarget hgone hkept hlogs hhistory =>
    refine h.of_carries (.of_merge hgone hkept hlogs) ?_ ?_ ?_
    all_goals rw [hhistory]
    · intro token htoken
      exact (List.mem_cons.mp htoken).resolve_left fun heq => nomatch heq
    · intro token htoken
      exact (revoked_cons_of_ne (by simp)).mp htoken
    intro guestUserId targetUserId hmem
    rcases List.mem_cons.mp hmem with heq | hbefore
    · cases heq
      exact .inr ⟨log, by rw [hlogs]; simp, rfl⟩
    · exact .inl hbefore

theorem reachable_bounds {s : AuthState} (hs : Reachable authStep AuthInitial s) :
    MergesFinal s.tables ∧ NonceBound s := by
  refine hs.invariant (P := fun s => MergesFinal s.tables ∧ NonceBound s) ?_ ?_
  · rintro ⟨tables, history⟩ ⟨rfl, hlogs⟩
    replace hlogs : tables.mergeLogs = [] := hlogs
    exact ⟨⟨by simp [hlogs], by simp [hlogs], by simp [hlogs]⟩,
      ⟨by simp, by simp, by simp, by simp, fun _ h => h.elim⟩⟩
  · rintro s call t ⟨hmerges, hbound⟩ hstep
    exact ⟨hmerges.step (authStep_effect hstep), hbound.step hmerges (authStep_effect hstep)⟩

def MergedIntoActive (s : AccountTables) (userId : Uuid) : Prop :=
  s.account userId = none ∧ ∃ log ∈ s.mergeLogs, log.guestAccountId = userId ∧
    ∃ target, s.account log.targetAccountId = some target ∧ target.status = .active

theorem getLatestMergeTargetForGuest_of_mem {s : AccountTables} (h : MergesFinal s)
    (hlog : log ∈ s.mergeLogs)
    (htarget : s.account log.targetAccountId = some target) :
    getLatestMergeTargetForGuest s log.guestAccountId = some target := by
  have hmem : log ∈ s.mergeLogs.filter fun other =>
      other.guestAccountId = log.guestAccountId && (s.account other.targetAccountId).isSome :=
    List.mem_filter.mpr ⟨hlog, by simp [htarget]⟩
  obtain ⟨latest, hlatest⟩ := Queries.exists_firstBy_of_mem newerMergeLog hmem
  obtain ⟨hmem, hguest⟩ := List.mem_filter.mp (Queries.mem_of_firstBy hlatest)
  simp only [Bool.and_eq_true, decide_eq_true_eq] at hguest
  rw [getLatestMergeTargetForGuest, hlatest, Option.bind_some,
    h.merged_once latest hmem log hlog hguest.1, htarget]

theorem resolveAccessToken_of_mergedIntoActive {s : AccountTables} (h : MergesFinal s)
    (htype : token.type = accessTokenType)
    (hexp : now < token.exp) (hmerged : MergedIntoActive s token.sub) (requireFullAccount : Bool)
    (ttl : Time) :
    ∃ resolution, resolveAccessToken s (.signed token) requireFullAccount ttl now = .ok resolution := by
  obtain ⟨hgone, log, hlog, hguest, target, htarget, hstatus⟩ := hmerged
  have hlatest := getLatestMergeTargetForGuest_of_mem h hlog htarget
  rw [hguest] at hlatest
  have hfull : target.accountType = .full := by
    obtain ⟨found, hfound, hfull⟩ := h.target_full log hlog
    rw [htarget, Option.some.injEq] at hfound
    exact hfound ▸ hfull
  have hdecode := decodeAccessToken_signed_ok.mpr ⟨hexp, htype, rfl⟩
  have havailable : ensureAccountIsAvailable target = .ok () :=
    ensureAccountIsAvailable_ok.mpr hstatus
  refine ⟨{ user := target
            replacementSession := some ⟨encodeAccessToken target ttl now, target, ttl, now⟩
            migratedFromUserId := some token.sub }, ?_⟩
  simp [resolveAccessToken, hdecode, hgone, resolveMergedToken, hlatest, havailable,
    issueSessionForUser, hfull, bind, Except.bind, pure, Except.pure]

/-- A revoked token stays dead, at every moment and for every kind of request, if and only if it
has expired or its subject was not merged into an account that is active. -/
theorem revoked_dead_iff {s : AuthState} (hs : Reachable authStep AuthInitial s)
    {token : AccessTokenPayload} (hrevoked : Revoked token s.history) (requireFullAccount : Bool)
    (ttl now : Time) :
    (∀ resolution,
      resolveAccessToken s.tables (.signed token) requireFullAccount ttl now ≠ .ok resolution) ↔
      token.exp ≤ now ∨ ¬ MergedIntoActive s.tables token.sub := by
  obtain ⟨hmerges, hbound⟩ := reachable_bounds hs
  constructor
  · intro hdead
    by_contra hneither
    rw [not_or, not_le, not_not] at hneither
    obtain ⟨resolution, hresolution⟩ := resolveAccessToken_of_mergedIntoActive hmerges
      (hbound.issued_type token hrevoked.issued) hneither.1 hneither.2 requireFullAccount ttl
    exact hdead resolution hresolution
  intro hor resolution hresolution
  obtain ⟨payload, hpayload, hfound⟩ := resolveAccessToken_ok hresolution
  obtain ⟨hlive, -, rfl⟩ := decodeAccessToken_signed_ok.mp hpayload
  rcases hfound with ⟨user, huser, hnonce, -⟩ | ⟨hgone, hmerged⟩
  · exact absurd hnonce (hbound.nonce_lt token hrevoked user huser).ne'
  obtain ⟨target, -, htarget, hstatus, -⟩ := resolveMergedToken_ok hmerged
  obtain ⟨log, hlog, hguest, haccount⟩ := getLatestMergeTargetForGuest_eq_some htarget
  exact hor.elim hlive.not_ge fun hnot =>
    hnot ⟨hgone, log, hlog, hguest, target, haccount, hstatus⟩

/-! Guest 1 signs out everywhere and is then merged into the Telegram account 2. -/

def telegramAccount : AuthState := { tables := { accounts := [{ id := 2, telegramId := some 7 }] } }

def guestToken : AccessTokenPayload := ⟨1, accessTokenType, 0, 100, 0⟩

theorem revoked_dead_iff_logoutAll :
    let s := final authStep telegramAccount [.createGuest 1 90 0, .issue 1 100 0, .bump 1 1]
    (∀ resolution, resolveAccessToken s.tables (.signed guestToken) false 100 5 ≠ .ok resolution) ↔
      guestToken.exp ≤ 5 ∨ ¬ MergedIntoActive s.tables guestToken.sub :=
  revoked_dead_iff ⟨telegramAccount, ⟨rfl, rfl⟩, _, rfl⟩
    (show Revoked guestToken [.bumped 1, .issued guestToken] from
      .inl ⟨1, rfl, List.mem_cons_self, .inl rfl⟩) false 100 5

/-- The token outlives its revocation: it resolves to account 2 and comes with a new session. -/
theorem revoked_token_resolves : ¬ ∀ s, Reachable authStep AuthInitial s →
    ∀ token, Revoked token s.history → ∀ requireFullAccount ttl now resolution,
      resolveAccessToken s.tables (.signed token) requireFullAccount ttl now ≠ .ok resolution := by
  intro hdead
  have hrun : final authStep telegramAccount
      [.createGuest 1 90 0, .issue 1 100 0, .bump 1 1, .merge 1 2 none ⟨10, 11⟩ 2] =
        { tables :=
            { accounts := [{ id := 2, telegramId := some 7 }]
              content := { users := [Account.toUser { id := 2, telegramId := some 7 }] }
              mergeLogs := [⟨10, 1, 2, 2⟩] }
          history := [.merged 1 2, .bumped 1, .issued guestToken] } := by decide
  refine hdead _ ⟨telegramAccount, ⟨rfl, rfl⟩, _, hrun⟩ guestToken
    (.inr (.inl ⟨1, rfl, List.mem_cons_self, .inl rfl⟩)) false 100 5 _ rfl

end MemeExpert.Services
