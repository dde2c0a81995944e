import MemeExpert.Lib.Runs
import MemeExpert.Models.Session
import MemeExpert.Services.CollectionService

/-! A join reads the invite, checks it, reads it again with its collection and then writes
the membership and the new count in one transaction. Nothing is locked in between. -/

namespace MemeExpert.Services

open Runs

inductive CollectionInviteStatus where
  | accepted | expired | pending | revoked
  deriving DecidableEq

inductive CollectionInviteChannel where
  | directLink | email | telegram
  deriving DecidableEq

structure CollectionInvite where
  id : Uuid
  collectionId : Uuid
  role : CollectionMembershipRole := .viewer
  channel : CollectionInviteChannel := .directLink
  status : CollectionInviteStatus := .pending
  maxUses : Option Nat := none
  useCount : Nat := 0
  expiresAt : Option Time := none
  lastUsedAt : Option Time := none
  revokedAt : Option Time := none

namespace CollectionInvite

def isExpired (invite : CollectionInvite) (now : Time) : Bool :=
  invite.expiresAt.any fun expiresAt => expiresAt ≤ now

def isUsedUp (invite : CollectionInvite) : Bool :=
  invite.maxUses.any fun maxUses => maxUses ≤ invite.useCount

def writeBack (loaded updated current : CollectionInvite) : CollectionInvite :=
  { current with
    status := writeColumn loaded.status updated.status current.status
    useCount := writeColumn loaded.useCount updated.useCount current.useCount
    lastUsedAt := writeColumn loaded.lastUsedAt updated.lastUsedAt current.lastUsedAt
    revokedAt := writeColumn loaded.revokedAt updated.revokedAt current.revokedAt }

end CollectionInvite

/-- `_apply_invite_terminal_status`: the status the invite gets, if it changes. -/
def applyInviteTerminalStatus (invite : CollectionInvite) (now : Time) :
    Option CollectionInviteStatus :=
  if invite.revokedAt.isSome ∧ invite.status ≠ .revoked then some .revoked
  else if invite.status ≠ .pending then none
  else if invite.isExpired now then some .expired
  else if invite.isUsedUp then some .accepted
  else none

def invalidInvite : ServiceError := ⟨.invalidCollectionInvite, "Invite link is invalid or expired."⟩

def ensureInviteCanBeUsed (invite : CollectionInvite) (now : Time) : Except ServiceError Unit :=
  if invite.channel ≠ .directLink then .error invalidInvite
  else if invite.status ≠ .pending then .error invalidInvite
  else if invite.revokedAt.isSome then .error invalidInvite
  else if invite.isExpired now then .error invalidInvite
  else if invite.isUsedUp then .error invalidInvite
  else .ok ()

def redeemedInvite (invite : CollectionInvite) (now : Time) : CollectionInvite :=
  let used := { invite with useCount := invite.useCount + 1, lastUsedAt := some now }
  if used.isUsedUp then { used with status := .accepted } else used

def revokedInvite (invite : CollectionInvite) (now : Time) : CollectionInvite :=
  { invite with revokedAt := invite.revokedAt <|> some now, status := .revoked }

def insertMember (s : Library) (invite : CollectionInvite) (userId : Uuid) :
    Except ServiceError Library :=
  Library.commit
    { s with
      members := s.members ++
        [{ collectionId := invite.collectionId, userId := userId, role := invite.role }] }
    "Failed to join the collection invite."

inductive JoinPhase where
  | terminal (loaded : CollectionInvite) (status : CollectionInviteStatus)
  | usable
  | outsider
  | ready (loaded : CollectionInvite)

structure JoinCall where
  callId : Nat
  userId : Uuid
  phase : JoinPhase

structure RevokeCall where
  callId : Nat
  loaded : CollectionInvite

structure InviteState where
  library : Library
  invite : CollectionInvite
  joins : List JoinCall := []
  revokes : List RevokeCall := []
  admitted : List Uuid := []

inductive InviteLabel where
  | joinRead (callId : Nat) (userId : Uuid) (now : Time)
  | joinTerminal (callId : Nat)
  | joinMembers (callId : Nat)
  | joinInvite (callId : Nat)
  | joinCommit (callId : Nat) (now : Time)
  | revokeRead (callId : Nat) (userId : Uuid)
  | revokeCommit (callId : Nat) (now : Time)
  | removeMember (actingUserId memberUserId : Uuid)
  | environment (library : Library)

namespace InviteState

variable (s : InviteState)

def join? (callId : Nat) : Option JoinCall := s.joins.find? fun call => call.callId = callId

def revoke? (callId : Nat) : Option RevokeCall := s.revokes.find? fun call => call.callId = callId

def otherJoins (callId : Nat) : List JoinCall := s.joins.filter fun call => call.callId ≠ callId

def toPhase (call : JoinCall) (phase : JoinPhase) : InviteState :=
  { s with joins := { call with phase := phase } :: s.otherJoins call.callId }

def dropJoin (callId : Nat) : InviteState := { s with joins := s.otherJoins callId }

end InviteState

def joinReads (s : InviteState) (userId : Uuid) (now : Time) : Option JoinPhase :=
  match s.library.user userId with
  | none => none
  | some user =>
    if user.accountType = .guest then none
    else
      match applyInviteTerminalStatus s.invite now with
      | some status => some (.terminal s.invite status)
      | none => (ensureInviteCanBeUsed s.invite now).toOption.map fun _ => .usable

def commitJoin (s : InviteState) (call : JoinCall) (loaded : CollectionInvite) (now : Time) :
    InviteState :=
  match insertMember s.library s.invite call.userId with
  | .error _ => s.dropJoin call.callId
  | .ok library =>
    { s.dropJoin call.callId with
      library := library
      invite := CollectionInvite.writeBack loaded (redeemedInvite loaded now) s.invite
      admitted := call.userId :: s.admitted }

def inviteStep (s : InviteState) : InviteLabel → Option InviteState
  | .joinRead callId userId now =>
    if (s.join? callId).isSome then none
    else (joinReads s userId now).map fun phase =>
      { s with joins := ⟨callId, userId, phase⟩ :: s.joins }
  | .joinTerminal callId =>
    match s.join? callId with
    | some ⟨_, _, .terminal loaded status⟩ => some
        { s.dropJoin callId with
          invite := CollectionInvite.writeBack loaded { loaded with status := status } s.invite }
    | _ => none
  | .joinMembers callId =>
    match s.join? callId with
    | some ⟨_, userId, .usable⟩ =>
      match s.library.collection s.invite.collectionId with
      | none => some (s.dropJoin callId)
      | some collection =>
        if collection.kind = .favorites ∨
            (memberOf s.library collection.id userId).isSome then some (s.dropJoin callId)
        else some (s.toPhase ⟨callId, userId, .usable⟩ .outsider)
    | _ => none
  | .joinInvite callId =>
    -- the collection is loaded with its invites, which refreshes the one that was checked
    match s.join? callId with
    | some ⟨_, userId, .outsider⟩ => some (s.toPhase ⟨callId, userId, .outsider⟩ (.ready s.invite))
    | _ => none
  | .joinCommit callId now =>
    match s.join? callId with
    | some ⟨_, userId, .ready loaded⟩ =>
      some (commitJoin s ⟨callId, userId, .ready loaded⟩ loaded now)
    | _ => none
  | .revokeRead callId userId =>
    match getCollectionForRead s.library s.invite.collectionId userId with
    | .error _ => none
    | .ok (user, collection) =>
      if collection.kind = .custom ∧ userCanWriteCollection s.library user.id collection ∧
          (s.revoke? callId).isNone then
        some { s with revokes := ⟨callId, s.invite⟩ :: s.revokes }
      else none
  | .revokeCommit callId now =>
    (s.revoke? callId).map fun call =>
      { s with
        invite := CollectionInvite.writeBack call.loaded (revokedInvite call.loaded now) s.invite
        revokes := s.revokes.filter fun other => other.callId ≠ callId }
  | .removeMember actingUserId memberUserId =>
    match removeMember s.library s.invite.collectionId actingUserId memberUserId with
    | .error _ => none
    | .ok (library, _) => some { s with library := library }
  | .environment library => some { s with library := library }

structure InviteState.Initial (s : InviteState) : Prop where
  useCount : s.invite.useCount = 0
  maxUses : ∀ maxUses, s.invite.maxUses = some maxUses → 0 < maxUses
  revokedAt : s.invite.revokedAt = none
  joins : s.joins = []
  revokes : s.revokes = []
  admitted : s.admitted = []

structure CountsAdmissions (s : InviteState) : Prop where
  count : s.invite.useCount = s.admitted.length
  within : ∀ maxUses, s.invite.maxUses = some maxUses → s.invite.useCount ≤ maxUses

def AdmitsUnrevoked (x : Transition InviteState InviteLabel) : Prop :=
  x.after.admitted ≠ x.before.admitted → x.before.invite.revokedAt = none

/-- A join that inserts its membership finds the count it read last, below the limit, and no
revocation. -/
def findsInviteOpen (s : InviteState) : InviteLabel → Bool
  | .joinCommit callId _ =>
    match s.join? callId with
    | some ⟨_, userId, .ready loaded⟩ =>
      match insertMember s.library s.invite userId with
      | .error _ => true
      | .ok _ => s.invite.useCount = loaded.useCount ∧ s.invite.isUsedUp = false ∧
          s.invite.revokedAt = none
    | _ => true
  | _ => true

section Steps

variable {s t : InviteState}

theorem isUsedUp_eq_false_iff {invite : CollectionInvite} :
    invite.isUsedUp = false ↔
      ∀ maxUses, invite.maxUses = some maxUses → invite.useCount < maxUses := by
  cases h : invite.maxUses <;> simp [CollectionInvite.isUsedUp, h]

theorem useCount_redeemedInvite (invite : CollectionInvite) (now : Time) :
    (redeemedInvite invite now).useCount = invite.useCount + 1 := by
  unfold redeemedInvite
  dsimp only
  split <;> rfl

theorem commitJoin_cases (s : InviteState) (call : JoinCall) (loaded : CollectionInvite)
    (now : Time) :
    (∃ library, insertMember s.library s.invite call.userId = .ok library ∧
      (commitJoin s call loaded now).admitted = call.userId :: s.admitted ∧
      (commitJoin s call loaded now).invite =
        CollectionInvite.writeBack loaded (redeemedInvite loaded now) s.invite) ∨
    (∃ error, insertMember s.library s.invite call.userId = .error error ∧
      commitJoin s call loaded now = s.dropJoin call.callId) := by
  unfold commitJoin
  cases hinsert : insertMember s.library s.invite call.userId with
  | error error => exact .inr ⟨error, rfl, rfl⟩
  | ok library => exact .inl ⟨library, rfl, rfl, rfl⟩

structure KeepsCount (s t : InviteState) : Prop where
  admitted : t.admitted = s.admitted
  useCount : t.invite.useCount = s.invite.useCount
  maxUses : t.invite.maxUses = s.invite.maxUses

structure AdmitsMember (s : InviteState) (label : InviteLabel) (t : InviteState) : Prop where
  admitted : ∃ userId, t.admitted = userId :: s.admitted
  useCount : ∃ loaded, t.invite.useCount = loaded + 1 ∧
    (findsInviteOpen s label = true ↔ s.invite.useCount = loaded ∧ s.invite.isUsedUp = false ∧
      s.invite.revokedAt = none)
  maxUses : t.invite.maxUses = s.invite.maxUses

theorem inviteStep_cases {label : InviteLabel} (hstep : inviteStep s label = some t) :
    AdmitsMember s label t ∨ (KeepsCount s t ∧ findsInviteOpen s label = true) := by
  cases label with
  | joinCommit callId now =>
    simp only [inviteStep] at hstep
    split at hstep
    · next userId loaded hcall =>
      cases hstep
      rcases commitJoin_cases s ⟨callId, userId, .ready loaded⟩ loaded now with
        ⟨library, hinsert, hadmitted, hinvite⟩ | ⟨error, hinsert, hdropped⟩
      · refine .inl ⟨⟨userId, hadmitted⟩, ⟨loaded.useCount, ?_, ?_⟩, by rw [hinvite]; rfl⟩
        · rw [hinvite]
          have hraised := useCount_redeemedInvite loaded now
          have hne : (redeemedInvite loaded now).useCount ≠ loaded.useCount := by omega
          exact (writeColumn_of_ne _ hne).trans hraised
        · simp only [findsInviteOpen, hcall, hinsert, decide_eq_true_eq]
      · rw [hdropped]
        exact .inr ⟨⟨rfl, rfl, rfl⟩, by simp only [findsInviteOpen, hcall, hinsert]⟩
    · cases hstep
  | joinRead callId userId now =>
    simp only [inviteStep, Option.ite_none_left_eq_some, Option.map_eq_some_iff] at hstep
    obtain ⟨-, phase, -, rfl⟩ := hstep
    exact .inr ⟨⟨rfl, rfl, rfl⟩, rfl⟩
  | joinTerminal callId =>
    simp only [inviteStep] at hstep
    split at hstep
    · cases hstep
      exact .inr ⟨⟨rfl, writeColumn_unchanged .., rfl⟩, rfl⟩
    · cases hstep
  | joinMembers callId =>
    simp only [inviteStep] at hstep
    split at hstep
    · split at hstep
      · cases hstep
        exact .inr ⟨⟨rfl, rfl, rfl⟩, rfl⟩
      · split at hstep <;> cases hstep <;> exact .inr ⟨⟨rfl, rfl, rfl⟩, rfl⟩
    · cases hstep
  | joinInvite callId =>
    simp only [inviteStep] at hstep
    split at hstep
    · cases hstep
      exact .inr ⟨⟨rfl, rfl, rfl⟩, rfl⟩
    · cases hstep
  | revokeRead callId userId =>
    simp only [inviteStep] at hstep
    split at hstep
    · cases hstep
    split at hstep
    · cases hstep
      exact .inr ⟨⟨rfl, rfl, rfl⟩, rfl⟩
    · cases hstep
  | revokeCommit callId now =>
    simp only [inviteStep, Option.map_eq_some_iff] at hstep
    obtain ⟨call, -, rfl⟩ := hstep
    exact .inr ⟨⟨rfl, writeColumn_unchanged .., rfl⟩, rfl⟩
  | removeMember actingUserId memberUserId =>
    simp only [inviteStep] at hstep
    split at hstep
    · cases hstep
    · cases hstep
      exact .inr ⟨⟨rfl, rfl, rfl⟩, rfl⟩
  | environment library =>
    cases hstep
    exact .inr ⟨⟨rfl, rfl, rfl⟩, rfl⟩

theorem CountsAdmissions.of_initial (h : s.Initial) : CountsAdmissions s where
  count := by rw [h.useCount, h.admitted]; rfl
  within maxUses _ := by rw [h.useCount]; exact Nat.zero_le _

theorem CountsAdmissions.keep (h : CountsAdmissions s) (hkeep : KeepsCount s t) :
    CountsAdmissions t where
  count := by rw [hkeep.useCount, hkeep.admitted, h.count]
  within := by rw [hkeep.useCount, hkeep.maxUses]; exact h.within

theorem CountsAdmissions.step_iff {x : Transition InviteState InviteLabel}
    (h : CountsAdmissions x.before) (hstep : inviteStep x.before x.label = some x.after) :
    (CountsAdmissions x.after ∧ AdmitsUnrevoked x) ↔ findsInviteOpen x.before x.label = true := by
  rcases inviteStep_cases hstep with hadmits | ⟨hkeep, hopen⟩
  · obtain ⟨userId, hadmitted⟩ := hadmits.admitted
    obtain ⟨loaded, huseCount, hopen⟩ := hadmits.useCount
    rw [hopen, isUsedUp_eq_false_iff]
    have hcount := h.count
    constructor
    · rintro ⟨hcounts, hunrevoked⟩
      have hafter := hcounts.count
      rw [hadmitted, List.length_cons, huseCount] at hafter
      have hsame : x.before.invite.useCount = loaded := by omega
      refine ⟨hsame, ?_, hunrevoked (by rw [hadmitted]; exact List.cons_ne_self _ _)⟩
      intro maxUses hmax
      have hwithin := hcounts.within maxUses (hadmits.maxUses.trans hmax)
      omega
    rintro ⟨hsame, hbelow, hunrevoked⟩
    refine ⟨⟨?_, ?_⟩, fun _ => hunrevoked⟩
    · rw [hadmitted, List.length_cons, huseCount, ← hcount, hsame]
    intro maxUses hmax
    have hlt := hbelow maxUses (hadmits.maxUses.symm.trans hmax)
    omega
  · refine ⟨fun _ => hopen, fun _ => ⟨h.keep hkeep, fun hne => absurd hkeep.admitted hne⟩⟩

end Steps

/-- In a run from a new invite the count is the number of memberships it admitted, stays within
the limit and no revoked invite admits anyone, exactly when every join that inserts its membership
finds the invite open. -/
theorem countsAdmissions_iff_findsInviteOpen {s : InviteState} (hinit : s.Initial)
    (labels : List InviteLabel) :
    (CountsAdmissions s ∧ ∀ x ∈ transitions inviteStep s labels,
        CountsAdmissions x.after ∧ AdmitsUnrevoked x) ↔
      ∀ x ∈ transitions inviteStep s labels, findsInviteOpen x.before x.label = true := by
  have hstart : CountsAdmissions s := .of_initial hinit
  constructor
  · rintro ⟨-, hcounts⟩ x hx
    have hbefore : CountsAdmissions x.before :=
      invariant_before hstart (fun y hy _ => (hcounts y hy).1) hx
    exact (hbefore.step_iff (step_of_mem_transitions hx)).mp (hcounts x hx)
  intro hopen
  refine ⟨hstart, ?_⟩
  intro x hx
  have hbefore : CountsAdmissions x.before :=
    invariant_before hstart
      (fun y hy hy' => ((hy'.step_iff (step_of_mem_transitions hy)).mpr (hopen y hy)).1) hx
  exact (hbefore.step_iff (step_of_mem_transitions hx)).mpr (hopen x hx)

def sharedCollection : Library where
  users := [{ id := 1, accountType := .full }, { id := 2, accountType := .full },
    { id := 3, accountType := .full }]
  collections := [{ id := 10, ownerId := 1 }]
  members := [{ collectionId := 10, userId := 1, role := .owner }]

def singleUse : InviteState where
  library := sharedCollection
  invite := { id := 20, collectionId := 10, maxUses := some 1 }

theorem singleUse_initial : singleUse.Initial :=
  ⟨rfl, fun _ h => by cases h; decide, rfl, rfl, rfl, rfl⟩

def joinWhole (callId : Nat) (userId : Uuid) (now : Time) : List InviteLabel :=
  [.joinRead callId userId now, .joinMembers callId, .joinInvite callId, .joinCommit callId now]

def joinsInTurn : List InviteLabel :=
  joinWhole 1 2 100 ++ joinWhole 2 3 101 ++ [.revokeRead 3 1, .revokeCommit 3 102]

theorem countsAdmissions_iff_findsInviteOpen_inTurn :
    (final inviteStep singleUse joinsInTurn).admitted = [2] ∧
      CountsAdmissions singleUse ∧ ∀ x ∈ transitions inviteStep singleUse joinsInTurn,
        CountsAdmissions x.after ∧ AdmitsUnrevoked x :=
  ⟨by decide, (countsAdmissions_iff_findsInviteOpen singleUse_initial joinsInTurn).mpr (by decide)⟩

def joinsAtOnce : List InviteLabel :=
  [.joinRead 1 2 100, .joinMembers 1, .joinInvite 1, .joinRead 2 3 100, .joinMembers 2,
    .joinInvite 2, .joinCommit 1 101, .joinCommit 2 101]

theorem not_countsAdmissions_atOnce :
    ¬ ∀ s : InviteState, s.Initial → ∀ labels, CountsAdmissions (final inviteStep s labels) := by
  intro h
  have hcount := (h singleUse singleUse_initial joinsAtOnce).count
  revert hcount
  decide

end MemeExpert.Services
