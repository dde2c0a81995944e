import MemeExpert.Services.ProviderLogins

/-! A guest gets a code; whoever sends it to the bot links the guest to their Telegram identity,
under a lock on the row of the code. -/

namespace MemeExpert.Services

open Runs

def maxTelegramLinkCodeLength : Nat := 64 - 5

def isLinkCodeCharacter (c : Char) : Bool :=
  (65 ≤ c.toNat && c.toNat ≤ 90) || (97 ≤ c.toNat && c.toNat ≤ 122) ||
    (48 ≤ c.toNat && c.toNat ≤ 57) || c = '_' || c = '-'

def normalizeTelegramLinkCode (code : String) : Except ServiceError String :=
  let normalized := strip code
  if normalized = "" ∨ maxTelegramLinkCodeLength < normalized.length ∨
      ¬ normalized.toList.all isLinkCodeCharacter then
    .error ⟨.accountLinkInvariant, "Telegram link code is invalid."⟩
  else .ok normalized

namespace TelegramLinkCode

def isLive (row : TelegramLinkCode) (now : Time) : Bool :=
  row.redeemedAt.isNone && now < row.expiresAt

end TelegramLinkCode

section Codes

variable (s : AccountTables)

/-- `_lock_telegram_link_code`, given the hash. -/
def lockTelegramLinkCode (codeHash : String) : Except ServiceError TelegramLinkCode :=
  match s.linkCodes.filter fun row => row.codeHash = codeHash with
  | [] => .error ⟨.accountLinkInvariant, "Telegram link code is invalid."⟩
  | [row] => .ok row
  | _ => .error ⟨.accountLinkInvariant, "Telegram link code state is invalid."⟩

def ensureCodeRedeemable (row : TelegramLinkCode) (now : Time) : Except ServiceError Unit :=
  if row.redeemedAt.isSome then
    .error ⟨.accountLinkInvariant, "Telegram link code has already been redeemed."⟩
  else if row.expiresAt ≤ now then
    .error ⟨.accountLinkInvariant, "Telegram link code has expired."⟩
  else .ok ()

def expireActiveTelegramLinkCodes (guestUserId : Uuid) (now : Time) : AccountTables :=
  { s with
    linkCodes := s.linkCodes.map fun row =>
      if row.guestUserId = guestUserId ∧ row.isLive now then { row with expiresAt := now }
      else row }

def markRedeemed (codeId : Uuid) (redeemedAt : Time) (telegramId : Nat) : AccountTables :=
  { s with
    linkCodes := s.linkCodes.map fun row =>
      if row.id = codeId then
        { row with redeemedAt := some redeemedAt, redeemedByTelegramId := some telegramId }
      else row }

structure IssueCall where
  callId : Nat
  codeId : Uuid
  guestUserId : Uuid
  codeHash : String
  expiresAt : Time

def IssueCall.row (call : IssueCall) : TelegramLinkCode where
  id := call.codeId
  guestUserId := call.guestUserId
  codeHash := call.codeHash
  expiresAt := call.expiresAt

def issueTelegramLinkCode (call : IssueCall) (now : Time) : Except ServiceError AccountTables := do
  let guest ← lockRequiredUser s call.guestUserId
  ensureGuestCanLink guest.toUser
  let _ ← requireGuestHasNoCustomCollections s.library guest.toUser
  let expired := expireActiveTelegramLinkCodes s guest.id now
  if s.linkCodes.any fun row => row.codeHash = call.codeHash then
    throw ⟨.accountLinkInvariant, "Telegram link code collision detected; please retry."⟩
  pure { expired with linkCodes := expired.linkCodes ++ [call.row] }

structure LinkAttempt where
  operationStartedAt : Time
  initialGuestSnapshot : Option Account
  deriving DecidableEq

def completedElsewhereMergeLog (guestUserId : Uuid) (startedAt : Time) : Bool :=
  s.mergeLogs.any fun log => log.guestAccountId = guestUserId && startedAt ≤ log.createdAt

def completedElsewhereSurvivingUser (guestUserId : Uuid) (startedAt : Time) : Bool :=
  (s.account guestUserId).any fun user =>
    user.accountType = .full && user.status = .active && user.guestExpiresAt = none &&
      startedAt ≤ user.updatedAt && user.hasLinkedLoginIdentity

/-- `_raise_if_account_link_already_completed`. -/
def linkAlreadyCompleted (guestUserId : Uuid) (attempt : LinkAttempt) : Bool :=
  (attempt.initialGuestSnapshot.any fun guest =>
    guest.accountType = .guest && guest.status = .active) &&
    (completedElsewhereMergeLog s guestUserId attempt.operationStartedAt ||
      completedElsewhereSurvivingUser s guestUserId attempt.operationStartedAt)

end Codes

inductive RedeemPhase where
  | marked
  | started (attempt : LinkAttempt)
  | resolved (attempt : LinkAttempt) (targetUserId : Option Uuid)
  | lost (attempt : LinkAttempt)
  | surviving
  | merging (targetUserId : Uuid)

structure RedeemCall where
  callId : Nat
  code : TelegramLinkCode
  redeemedAt : Time
  telegramId : Nat
  phase : RedeemPhase

def RedeemCall.holdsRow (call : RedeemCall) : Bool :=
  match call.phase with
  | .marked | .started _ | .resolved _ _ => true
  | .lost _ | .surviving | .merging _ => false

/-- What happened to the codes; `second` marks a link after a lost race. -/
inductive CodeEvent where
  | issued (codeId guestUserId : Uuid) (expiresAt issuedAt : Time)
  | began (callId : Nat) (codeId : Uuid) (now : Time)
  | linked (callId : Nat) (codeId guestUserId : Uuid) (second : Bool)
  deriving DecidableEq

structure LinkState where
  tables : AccountTables
  clock : Time := 0
  issues : List IssueCall := []
  redeems : List RedeemCall := []
  history : List CodeEvent := []

inductive LinkLabel where
  | tick (now : Time)
  | register (userId : Uuid) (lifetime : Time)
  | upgrade (guestUserId : Uuid) (identity : UpgradeIdentity)
  | mergeGuest (guestUserId targetUserId : Uuid) (google : Option GoogleIdentity) (ids : MergeIds)
  | startIssue (callId : Nat) (codeId guestUserId : Uuid) (code : String)
  | commitIssue (callId : Nat) (now : Time)
  | abortIssue (callId : Nat)
  | startRedeem (callId : Nat) (code : String) (telegramId : Nat)
  | snapshot (callId : Nat)
  | resolve (callId : Nat)
  | link (callId : Nat) (ids : MergeIds)
  | postMortem (callId : Nat)
  | resolveAgain (callId : Nat)
  | mergeAgain (callId : Nat) (ids : MergeIds)
  | abortRedeem (callId : Nat)

namespace LinkState

variable (s : LinkState)

def issueCall (callId : Nat) : Option IssueCall := s.issues.find? fun call => call.callId = callId

def redeemCall (callId : Nat) : Option RedeemCall :=
  s.redeems.find? fun call => call.callId = callId

def dropIssue (callId : Nat) : LinkState :=
  { s with issues := s.issues.filter fun call => call.callId ≠ callId }

def dropRedeem (callId : Nat) : LinkState :=
  { s with redeems := s.redeems.filter fun call => call.callId ≠ callId }

def advance (call : RedeemCall) (phase : RedeemPhase) : LinkState :=
  { s with
    redeems :=
      { call with phase := phase } :: s.redeems.filter fun other => other.callId ≠ call.callId }

def rowLocked (codeId : Uuid) : Bool :=
  s.redeems.any fun call => call.holdsRow && call.code.id = codeId

def canExpire (guestUserId : Uuid) (now : Time) : Bool :=
  s.tables.linkCodes.all fun row =>
    !(row.guestUserId = guestUserId && row.isLive now) || !s.rowLocked row.id

def freshCall (callId : Nat) : Bool := (s.issueCall callId).isNone && (s.redeemCall callId).isNone

def finish (call : RedeemCall) (tables : AccountTables) (second : Bool) : LinkState :=
  { s.dropRedeem call.callId with
    tables := tables
    history := .linked call.callId call.code.id call.code.guestUserId second :: s.history }

end LinkState

section Step

variable (hash : String → String) (ttl : Time) (s : LinkState)

def beginRedeem (callId : Nat) (code : String) (telegramId : Nat) :
    Except ServiceError (TelegramLinkCode × LinkState) := do
  let normalized ← normalizeTelegramLinkCode code
  let row ← lockTelegramLinkCode s.tables (hash normalized)
  ensureCodeRedeemable row s.clock
  pure (row,
    { s with
      redeems := ⟨callId, row, s.clock, telegramId, .marked⟩ :: s.redeems
      history := .began callId row.id s.clock :: s.history })

def linkMarked (call : RedeemCall) (targetUserId : Option Uuid) (ids : MergeIds) :
    Except ServiceError AccountTables :=
  let marked := markRedeemed s.tables call.code.id call.redeemedAt call.telegramId
  match targetUserId with
  | none =>
    upgradeGuestInPlace marked call.code.guestUserId
      (TelegramIdentity.toUpgrade ⟨call.telegramId⟩) s.clock
  | some target => mergeGuestIntoFull marked call.code.guestUserId target none ids s.clock

def linkFirst (call : RedeemCall) (attempt : LinkAttempt) (targetUserId : Option Uuid)
    (ids : MergeIds) : LinkState :=
  match linkMarked s call targetUserId ids with
  | .ok tables => s.finish call tables false
  | .error failure =>
    if failure.kind = .duplicateIdentity then s.advance call (.lost attempt)
    else s.dropRedeem call.callId

def linkSecond (call : RedeemCall) (targetUserId : Uuid) (ids : MergeIds) : LinkState :=
  match mergeGuestIntoFull s.tables call.code.guestUserId targetUserId none ids s.clock with
  | .ok tables => s.finish call tables true
  | .error _ => s.dropRedeem call.callId

def commitIssue (call : IssueCall) (now : Time) : Option LinkState :=
  match issueTelegramLinkCode s.tables call now with
  | .error _ => some (s.dropIssue call.callId)
  | .ok tables =>
    if s.canExpire call.guestUserId now ∧
        s.tables.linkCodes.all fun row => row.id ≠ call.codeId then
      some
        { s.dropIssue call.callId with
          tables := tables
          history := .issued call.codeId call.guestUserId call.expiresAt now :: s.history }
    else none

def redeemStep (call : RedeemCall) : LinkLabel → Option LinkState
  | .snapshot _ =>
    match call.phase with
    | .marked => some (s.advance call (.started ⟨s.clock, s.tables.account call.code.guestUserId⟩))
    | _ => none
  | .resolve _ =>
    match call.phase with
    | .started attempt =>
      some (s.advance call (.resolved attempt
        ((s.tables.getByTelegramId call.telegramId).map Account.id)))
    | _ => none
  | .link _ ids =>
    match call.phase with
    | .resolved attempt targetUserId => some (linkFirst s call attempt targetUserId ids)
    | _ => none
  | .postMortem _ =>
    match call.phase with
    | .lost attempt =>
      if linkAlreadyCompleted s.tables call.code.guestUserId attempt then
        some (s.dropRedeem call.callId)
      else some (s.advance call .surviving)
    | _ => none
  | .resolveAgain _ =>
    match call.phase with
    | .surviving =>
      match s.tables.getByTelegramId call.telegramId with
      | none => some (s.dropRedeem call.callId)
      | some target => some (s.advance call (.merging target.id))
    | _ => none
  | .mergeAgain _ ids =>
    match call.phase with
    | .merging targetUserId => some (linkSecond s call targetUserId ids)
    | _ => none
  | .abortRedeem _ => some (s.dropRedeem call.callId)
  | _ => none

def LinkLabel.redemption : LinkLabel → Option Nat
  | .startRedeem callId _ _ | .snapshot callId | .resolve callId | .link callId _
  | .postMortem callId | .resolveAgain callId | .mergeAgain callId _ | .abortRedeem callId =>
    some callId
  | _ => none

def linkStep (label : LinkLabel) : Option LinkState :=
  match label with
  | .tick now => if s.clock ≤ now then some { s with clock := now } else none
  | .register userId lifetime =>
    if freshUserId s.tables userId then
      some { s with tables := createGuestUser s.tables userId s.clock lifetime }
    else none
  | .upgrade guestUserId identity =>
    (upgradeGuestInPlace s.tables guestUserId identity s.clock).toOption.map fun tables =>
      { s with tables := tables }
  | .mergeGuest guestUserId targetUserId google ids =>
    (mergeGuestIntoFull s.tables guestUserId targetUserId google ids s.clock).toOption.map
      fun tables => { s with tables := tables }
  | .startIssue callId codeId guestUserId code =>
    if s.freshCall callId then
      (normalizeTelegramLinkCode code).toOption.map fun normalized =>
        { s with
          issues := ⟨callId, codeId, guestUserId, hash normalized, s.clock + ttl⟩ :: s.issues }
    else none
  | .commitIssue callId now =>
    if now ≤ s.clock then (s.issueCall callId).bind fun call => commitIssue s call now else none
  | .abortIssue callId => some (s.dropIssue callId)
  | .startRedeem callId code telegramId =>
    if s.freshCall callId then
      (beginRedeem hash s callId code telegramId).toOption.bind fun (row, begun) =>
        if s.rowLocked row.id then none else some begun
    else none
  | .snapshot callId | .resolve callId | .link callId _ | .postMortem callId
  | .resolveAgain callId | .mergeAgain callId _ | .abortRedeem callId =>
    (s.redeemCall callId).bind fun call => redeemStep s call label

end Step

def LinkInitial (s : LinkState) : Prop :=
  s.tables.linkCodes = [] ∧ s.issues = [] ∧ s.redeems = [] ∧ s.history = []

def currentCode (guestUserId : Uuid) : List CodeEvent → Option (Uuid × Time)
  | [] => none
  | .issued codeId issuedTo expiresAt _ :: earlier =>
    if issuedTo = guestUserId then some (codeId, expiresAt) else currentCode guestUserId earlier
  | _ :: earlier => currentCode guestUserId earlier

/-- The redemption began with a code that was valid and the newest of its guest. Until its
first attempt ends, a newer code comes only once this one has expired. -/
def Began (history : List CodeEvent) (callId : Nat) (codeId guestUserId : Uuid) (expiresAt : Time)
    (second : Bool) : Prop :=
  ∃ mid now older, history = mid ++ .began callId codeId now :: older ∧
    currentCode guestUserId older = some (codeId, expiresAt) ∧ now < expiresAt ∧
    (second = false → ∀ newer validUntil issuedAt, .issued newer guestUserId validUntil issuedAt ∈ mid →
      expiresAt ≤ issuedAt)

/-- Every link is the only one of its code, links the guest the code was issued for, and comes
from a redemption that began while the code was valid. -/
def LinkedSafely (history : List CodeEvent) : Prop :=
  ∀ callId codeId guestUserId second earlier,
    (.linked callId codeId guestUserId second :: earlier) <:+ history →
      (∀ other guest again, .linked other codeId guest again ∉ earlier) ∧
      ∃ expiresAt, Began earlier callId codeId guestUserId expiresAt second

variable {callId : Nat} {codeId : Uuid} {expiresAt : Time} {history : List CodeEvent}
  {second : Bool}

theorem Began.weaken {guestUserId : Uuid}
    (h : Began history callId codeId guestUserId expiresAt second) :
    Began history callId codeId guestUserId expiresAt true := by
  obtain ⟨mid, now, older, hhistory, hcurrent, hlive, -⟩ := h
  exact ⟨mid, now, older, hhistory, hcurrent, hlive, fun h => nomatch h⟩

variable {event : CodeEvent}

theorem Began.cons {guestUserId : Uuid}
    (h : Began history callId codeId guestUserId expiresAt second)
    (hevent : second = false → ∀ newer validUntil issuedAt,
      event = .issued newer guestUserId validUntil issuedAt → expiresAt ≤ issuedAt) :
    Began (event :: history) callId codeId guestUserId expiresAt second := by
  obtain ⟨mid, now, older, rfl, hcurrent, hlive, hmid⟩ := h
  refine ⟨event :: mid, now, older, rfl, hcurrent, hlive, ?_⟩
  intro hsecond newer validUntil issuedAt hmem
  rcases List.mem_cons.mp hmem with heq | hmem
  · exact hevent hsecond newer validUntil issuedAt heq.symm
  · exact hmid hsecond newer validUntil issuedAt hmem

theorem LinkedSafely.cons (h : LinkedSafely history)
    (hne : ∀ callId codeId guestUserId second, event ≠ .linked callId codeId guestUserId second) :
    LinkedSafely (event :: history) := by
  intro callId codeId guestUserId second earlier hsuffix
  rcases List.suffix_cons_iff.mp hsuffix with heq | hsuffix
  · cases heq
    exact absurd rfl (hne callId codeId guestUserId second)
  · exact h callId codeId guestUserId second earlier hsuffix

theorem LinkedSafely.linked {guestUserId : Uuid} (h : LinkedSafely history)
    (honce : ∀ other guest again, .linked other codeId guest again ∉ history)
    (hbegan : Began history callId codeId guestUserId expiresAt second) :
    LinkedSafely (.linked callId codeId guestUserId second :: history) := by
  intro callId' codeId' guestUserId' second' earlier hsuffix
  rcases List.suffix_cons_iff.mp hsuffix with heq | hsuffix
  · cases heq
    exact ⟨honce, expiresAt, hbegan⟩
  · exact h _ _ _ _ _ hsuffix

open Results

def Spent (s : AccountTables) (guestUserId : Uuid) : Prop :=
  freshUserId s guestUserId = false ∧
    ∀ account, s.account guestUserId = some account → account.accountType = .full

section Spending

variable {s t : AccountTables} {guestUserId : Uuid}

theorem Spent.of_kept (h : Spent s guestUserId) (hkept : Kept s t guestUserId)
    (hlogs : ∀ log ∈ s.mergeLogs, log ∈ t.mergeLogs) : Spent t guestUserId := by
  constructor
  · rw [freshUserId_eq_false_iff]
    rcases freshUserId_eq_false_iff.mp h.1 with hsome | ⟨log, hlog, hguest⟩
    · obtain ⟨before, hbefore⟩ := Option.isSome_iff_exists.mp hsome
      obtain ⟨after, hafter, -⟩ := hkept.of_some hbefore
      exact .inl (by rw [hafter]; rfl)
    · exact .inr ⟨log, hlogs log hlog, hguest⟩
  intro account haccount
  cases hbefore : s.account guestUserId with
  | none =>
    rw [hkept.of_none hbefore] at haccount
    cases haccount
  | some before =>
    obtain ⟨after, hafter, -, hfull⟩ := hkept.of_some hbefore
    rw [hafter, Option.some.injEq] at haccount
    exact haccount ▸ hfull (h.2 before hbefore)

theorem CanLink.not_spent {guest : Account} (hguest : s.account guestUserId = some guest)
    (hlink : CanLink guest) : ¬ Spent s guestUserId := by
  intro hspent
  have hfull := hspent.2 guest hguest
  rw [hlink.accountType_eq] at hfull
  cases hfull

/-- The guest could link before and is spent after; who was spent before still is. -/
structure Links (s t : AccountTables) (guestUserId : Uuid) : Prop where
  not_spent : ¬ Spent s guestUserId
  spent : Spent t guestUserId
  keeps : ∀ otherId, Spent s otherId → Spent t otherId

variable {now : Time}

theorem links_upgrade {identity : UpgradeIdentity}
    (h : upgradeGuestInPlace s guestUserId identity now = .ok t) : Links s t guestUserId := by
  have hkept := kept_upgradeGuestInPlace h
  obtain ⟨rfl, ⟨guest, hguest, hlink⟩, hany, -⟩ := upgradeGuestInPlace_ok h
  refine ⟨CanLink.not_spent hguest hlink, ?_, ?_⟩
  · have haccount : (s.updateAccount guestUserId (upgradedRow identity now)).account guestUserId =
        some (upgradedRow identity now guest) := by
      rw [account_updateAccount (upgradedRow identity now) fun _ => rfl, if_pos rfl, hguest,
        Option.map_some]
    refine ⟨freshUserId_eq_false_iff.mpr (.inl (by rw [haccount]; rfl)), ?_⟩
    intro account hfound
    rw [haccount, Option.some.injEq] at hfound
    exact hfound ▸ accountType_upgradedRow hany
  · intro otherId hspent
    exact hspent.of_kept (hkept otherId) fun _ => id

variable {ids : MergeIds}

theorem links_merge {targetUserId : Uuid} {google : Option GoogleIdentity}
    (h : MergesInto s t guestUserId targetUserId google ids now) :
    Links s t guestUserId := by
  obtain ⟨guest, hguest, hlink⟩ := h.guest
  obtain ⟨hgone, hkept⟩ := h.kept
  have hnot := CanLink.not_spent hguest hlink
  refine ⟨hnot, ⟨?_, ?_⟩, ?_⟩
  · have hlog : (⟨ids.logId, guestUserId, targetUserId, now⟩ : AccountMergeLog) ∈ t.mergeLogs := by
      rw [h.mergeLogs_eq]
      exact List.mem_append_right _ (List.mem_singleton_self _)
    exact freshUserId_eq_false_iff.mpr (.inr ⟨_, hlog, rfl⟩)
  · intro account haccount
    rw [hgone] at haccount
    cases haccount
  intro otherId hspent
  have hne : otherId ≠ guestUserId := by
    rintro rfl
    exact hnot hspent
  refine hspent.of_kept (hkept otherId hne) ?_
  intro log hlog
  rw [h.mergeLogs_eq]
  exact List.mem_append_left _ hlog

theorem spent_createGuestUser {userId otherId : Uuid} {lifetime : Time}
    (hfresh : freshUserId s userId = true) (h : Spent s otherId) :
    Spent (createGuestUser s userId now lifetime) otherId := by
  refine h.of_kept (kept_createGuestUser now lifetime ?_) fun _ => id
  rintro rfl
  rw [h.1] at hfresh
  cases hfresh

end Spending

def Apart (a b : RedeemCall) : Prop :=
  a.callId ≠ b.callId ∧ ¬ (a.holdsRow = true ∧ b.holdsRow = true ∧ a.code.id = b.code.id)

instance : Std.Symm Apart where
  symm := by
    rintro a b ⟨hid, hrow⟩
    exact ⟨hid.symm, fun ⟨hb, ha, heq⟩ => hrow ⟨ha, hb, heq.symm⟩⟩

/-- A later phase of a call: the same code, and the row held only if it was before. -/
structure Narrows (old new : RedeemCall) : Prop where
  callId_eq : new.callId = old.callId
  code_eq : new.code = old.code
  holds : new.holdsRow = true → old.holdsRow = true

inductive Moves (before after : List RedeemCall) : Prop where
  | same (heq : after = before)
  | dropped (callId : Nat) (heq : after = before.filter fun call => call.callId ≠ callId)
  | advanced (old new : RedeemCall) (hold : old ∈ before) (hnew : Narrows old new)
      (heq : after = new :: before.filter fun call => call.callId ≠ old.callId)

inductive LinkEffect (s t : LinkState) : Prop where
  | quiet (hclock : s.clock ≤ t.clock) (hcodes : t.tables.linkCodes = s.tables.linkCodes)
      (hspent : ∀ guestUserId, Spent s.tables guestUserId → Spent t.tables guestUserId)
      (hmoves : Moves s.redeems t.redeems) (hhistory : t.history = s.history)
  | issued (call : IssueCall) (now : Time) (hnow : now ≤ s.clock)
      (hexpire : s.canExpire call.guestUserId now = true)
      (hfresh : ∀ row ∈ s.tables.linkCodes, row.id ≠ call.codeId)
      (htables : t.tables =
        { s.tables with
          linkCodes :=
            (expireActiveTelegramLinkCodes s.tables call.guestUserId now).linkCodes ++ [call.row] })
      (hclock : t.clock = s.clock) (hredeems : t.redeems = s.redeems)
      (hhistory : t.history =
        .issued call.codeId call.guestUserId call.expiresAt now :: s.history)
  | began (call : RedeemCall) (hrow : call.code ∈ s.tables.linkCodes)
      (hcode : call.code.redeemedAt = none) (hlive : s.clock < call.code.expiresAt)
      (hholds : call.holdsRow = true) (hfree : s.rowLocked call.code.id = false)
      (hcall : ∀ other ∈ s.redeems, other.callId ≠ call.callId) (htables : t.tables = s.tables)
      (hclock : t.clock = s.clock) (hredeems : t.redeems = call :: s.redeems)
      (hhistory : t.history = .began call.callId call.code.id s.clock :: s.history)
  | linked (call : RedeemCall) (hcall : call ∈ s.redeems)
      (hlinks : Links s.tables t.tables call.code.guestUserId)
      (hcodes : t.tables.linkCodes = if call.holdsRow then
        (markRedeemed s.tables call.code.id call.redeemedAt call.telegramId).linkCodes
        else s.tables.linkCodes)
      (hclock : t.clock = s.clock)
      (hredeems : t.redeems = s.redeems.filter fun other => other.callId ≠ call.callId)
      (hhistory : t.history =
        .linked call.callId call.code.id call.code.guestUserId (!call.holdsRow) :: s.history)

section StepSpecs

variable {hash : String → String} {ttl : Time} {s t : LinkState} {call : RedeemCall}

theorem redeemCall_eq_some (h : s.redeemCall callId = some call) :
    call ∈ s.redeems ∧ call.callId = callId :=
  ⟨List.mem_of_find?_eq_some h, by simpa using List.find?_some h⟩

theorem effect_drop (callId : Nat) : LinkEffect s (s.dropRedeem callId) :=
  .quiet le_rfl rfl (fun _ => id) (.dropped callId rfl) rfl

theorem effect_advance {phase : RedeemPhase} (hcall : call ∈ s.redeems)
    (hholds : ({ call with phase := phase } : RedeemCall).holdsRow = true → call.holdsRow = true) :
    LinkEffect s (s.advance call phase) :=
  .quiet le_rfl rfl (fun _ => id)
    (.advanced call { call with phase := phase } hcall ⟨rfl, rfl, hholds⟩ rfl) rfl

variable {ids : MergeIds}

theorem linkMarked_ok {targetUserId : Option Uuid} {tables : AccountTables}
    (h : linkMarked s call targetUserId ids = .ok tables) :
    Links s.tables tables call.code.guestUserId ∧ tables.linkCodes =
      (markRedeemed s.tables call.code.id call.redeemedAt call.telegramId).linkCodes := by
  cases targetUserId with
  | none =>
    have hlinks := links_upgrade h
    obtain ⟨rfl, -⟩ := upgradeGuestInPlace_ok h
    exact ⟨⟨hlinks.not_spent, hlinks.spent, hlinks.keeps⟩, rfl⟩
  | some target =>
    have hmerges := mergeGuestIntoFull_ok h
    have hlinks := links_merge hmerges
    exact ⟨⟨hlinks.not_spent, hlinks.spent, hlinks.keeps⟩, hmerges.linkCodes_eq⟩

theorem linkFirst_effect {attempt : LinkAttempt} {targetUserId : Option Uuid}
    (hcall : call ∈ s.redeems) (hphase : call.phase = .resolved attempt targetUserId) :
    LinkEffect s (linkFirst s call attempt targetUserId ids) := by
  have hholds : call.holdsRow = true := by rw [RedeemCall.holdsRow, hphase]
  unfold linkFirst
  split
  · next tables htables =>
    obtain ⟨hlinks, hcodes⟩ := linkMarked_ok htables
    refine .linked call hcall hlinks ?_ rfl rfl ?_
    · rw [if_pos hholds]
      exact hcodes
    · rw [hholds]
      rfl
  · split
    · exact effect_advance hcall fun _ => hholds
    · exact effect_drop call.callId

theorem linkSecond_effect {targetUserId : Uuid} (hcall : call ∈ s.redeems)
    (hphase : call.phase = .merging targetUserId) :
    LinkEffect s (linkSecond s call targetUserId ids) := by
  have hholds : call.holdsRow = false := by rw [RedeemCall.holdsRow, hphase]
  unfold linkSecond
  split
  · next tables htables =>
    have hmerges := mergeGuestIntoFull_ok htables
    refine .linked call hcall (links_merge hmerges) ?_ rfl rfl ?_
    · rw [hholds, if_neg (by simp)]
      exact hmerges.linkCodes_eq
    · rw [hholds]
      rfl
  · exact effect_drop call.callId

variable {label : LinkLabel}

theorem redeemStep_effect (hcall : call ∈ s.redeems)
    (h : redeemStep s call label = some t) : LinkEffect s t := by
  unfold redeemStep at h
  split at h
  · split at h
    · next hphase =>
      cases h
      exact effect_advance hcall fun _ => by rw [RedeemCall.holdsRow, hphase]
    · cases h
  · split at h
    · next hphase =>
      cases h
      exact effect_advance hcall fun _ => by rw [RedeemCall.holdsRow, hphase]
    · cases h
  · split at h
    · next hphase =>
      cases h
      exact linkFirst_effect hcall hphase
    · cases h
  · split at h
    · split at h
      · cases h
        exact effect_drop call.callId
      · cases h
        exact effect_advance hcall fun h => nomatch h
    · cases h
  · split at h
    · split at h
      · cases h
        exact effect_drop call.callId
      · cases h
        exact effect_advance hcall fun h => nomatch h
    · cases h
  · split at h
    · next hphase =>
      cases h
      exact linkSecond_effect hcall hphase
    · cases h
  · cases h
    exact effect_drop call.callId
  · cases h

variable {now : Time}

theorem issueTelegramLinkCode_ok {call : IssueCall} {tables : AccountTables}
    (h : issueTelegramLinkCode s.tables call now = .ok tables) : tables =
      { s.tables with
        linkCodes :=
          (expireActiveTelegramLinkCodes s.tables call.guestUserId now).linkCodes ++ [call.row] } := by
  simp only [issueTelegramLinkCode, bind_eq_ok, lockRequiredUser_ok] at h
  obtain ⟨guest, hguest, _, -, _, -, h⟩ := h
  obtain ⟨-, hid⟩ := account_eq_some hguest
  simp only [guard_eq_ok, pure_eq_ok] at h
  rw [← h.2, hid]
  rfl

theorem commitIssue_effect {call : IssueCall} (hnow : now ≤ s.clock)
    (h : commitIssue s call now = some t) : LinkEffect s t := by
  unfold commitIssue at h
  split at h
  · cases h
    exact .quiet le_rfl rfl (fun _ => id) (.same rfl) rfl
  next tables htables =>
  obtain ⟨⟨hexpire, hfresh⟩, h⟩ := Option.ite_none_right_eq_some.mp h
  cases h
  refine .issued call now hnow hexpire ?_ (issueTelegramLinkCode_ok htables) rfl rfl rfl
  simpa using hfresh

theorem beginRedeem_ok {code : String} {telegramId : Nat} {row : TelegramLinkCode}
    (h : beginRedeem hash s callId code telegramId = .ok (row, t)) :
    row ∈ s.tables.linkCodes ∧ row.redeemedAt = none ∧ s.clock < row.expiresAt ∧
      t = { s with
        redeems := ⟨callId, row, s.clock, telegramId, .marked⟩ :: s.redeems
        history := .began callId row.id s.clock :: s.history } := by
  simp only [beginRedeem, bind_eq_ok, pure_eq_ok] at h
  obtain ⟨normalized, -, found, hfound, _, hredeemable, heq⟩ := h
  cases heq
  have hmem : row ∈ s.tables.linkCodes := by
    unfold lockTelegramLinkCode at hfound
    split at hfound
    · cases hfound
    · next single hsingle =>
      cases hfound
      have hin : row ∈ s.tables.linkCodes.filter fun other => other.codeHash = hash normalized := by
        rw [hsingle]
        exact List.mem_singleton_self row
      exact List.mem_of_mem_filter hin
    · cases hfound
  unfold ensureCodeRedeemable at hredeemable
  split at hredeemable
  · cases hredeemable
  next hunmarked =>
  split at hredeemable
  · cases hredeemable
  · next hlive => exact ⟨hmem, by simpa using hunmarked, Nat.lt_of_not_le hlive, rfl⟩

theorem linkStep_effect (h : linkStep hash ttl s label = some t) : LinkEffect s t := by
  cases label with
  | tick now =>
    obtain ⟨hle, heq⟩ := Option.ite_none_right_eq_some.mp h
    cases heq
    exact .quiet hle rfl (fun _ => id) (.same rfl) rfl
  | register userId lifetime =>
    obtain ⟨hfresh, heq⟩ := Option.ite_none_right_eq_some.mp h
    cases heq
    exact .quiet le_rfl rfl (fun _ => spent_createGuestUser hfresh) (.same rfl) rfl
  | upgrade guestUserId identity =>
    simp only [linkStep, Option.map_eq_some_iff, toOption_eq_some] at h
    obtain ⟨tables, htables, rfl⟩ := h
    have hlinks := links_upgrade htables
    obtain ⟨rfl, -⟩ := upgradeGuestInPlace_ok htables
    exact .quiet le_rfl rfl hlinks.keeps (.same rfl) rfl
  | mergeGuest guestUserId targetUserId google ids =>
    simp only [linkStep, Option.map_eq_some_iff, toOption_eq_some] at h
    obtain ⟨tables, htables, rfl⟩ := h
    have hmerges := mergeGuestIntoFull_ok htables
    exact .quiet le_rfl hmerges.linkCodes_eq (links_merge hmerges).keeps (.same rfl) rfl
  | startIssue callId codeId guestUserId code =>
    obtain ⟨-, heq⟩ := Option.ite_none_right_eq_some.mp h
    obtain ⟨normalized, -, rfl⟩ := Option.map_eq_some_iff.mp heq
    exact .quiet le_rfl rfl (fun _ => id) (.same rfl) rfl
  | commitIssue callId now =>
    obtain ⟨hnow, heq⟩ := Option.ite_none_right_eq_some.mp h
    obtain ⟨call, -, hcommit⟩ := Option.bind_eq_some_iff.mp heq
    exact commitIssue_effect hnow hcommit
  | abortIssue callId =>
    cases h
    exact .quiet le_rfl rfl (fun _ => id) (.same rfl) rfl
  | startRedeem callId code telegramId =>
    obtain ⟨hfresh, heq⟩ := Option.ite_none_right_eq_some.mp h
    obtain ⟨⟨row, begun⟩, hbegin, heq⟩ := Option.bind_eq_some_iff.mp heq
    obtain ⟨hrow, hcode, hlive, rfl⟩ := beginRedeem_ok (toOption_eq_some.mp hbegin)
    obtain ⟨hfree, heq⟩ := Option.ite_none_left_eq_some.mp heq
    cases heq
    refine .began ⟨callId, row, s.clock, telegramId, .marked⟩ hrow hcode hlive rfl
      (by simpa using hfree) ?_ rfl rfl rfl rfl
    simp only [LinkState.freshCall, Bool.and_eq_true, Option.isNone_iff_eq_none] at hfresh
    simpa [LinkState.redeemCall, List.find?_eq_none] using hfresh.2
  | snapshot callId | resolve callId | link callId ids | postMortem callId | resolveAgain callId
  | mergeAgain callId ids | abortRedeem callId =>
    obtain ⟨call, hcall, hstep⟩ := Option.bind_eq_some_iff.mp h
    exact redeemStep_effect (redeemCall_eq_some hcall).1 hstep

end StepSpecs

def HasRow (s : AccountTables) (codeId guestUserId : Uuid) : Prop :=
  ∃ row ∈ s.linkCodes, row.id = codeId ∧ row.guestUserId = guestUserId

structure LinkInvariant (s : LinkState) : Prop where
  codes_unique : (s.tables.linkCodes.map TelegramLinkCode.id).Nodup
  codes_current : ∀ row ∈ s.tables.linkCodes, row.redeemedAt = none →
    row.expiresAt ≤ s.clock ∨ currentCode row.guestUserId s.history = some (row.id, row.expiresAt)
  redeems_apart : s.redeems.Pairwise Apart
  redeems_row : ∀ call ∈ s.redeems, HasRow s.tables call.code.id call.code.guestUserId
  redeems_held : ∀ call ∈ s.redeems, call.holdsRow = true → call.code ∈ s.tables.linkCodes ∧
    call.code.redeemedAt = none
  redeems_began : ∀ call ∈ s.redeems, Began s.history call.callId call.code.id
    call.code.guestUserId call.code.expiresAt (!call.holdsRow)
  linked_row : ∀ callId codeId guestUserId second,
    .linked callId codeId guestUserId second ∈ s.history → HasRow s.tables codeId guestUserId
  linked_spent : ∀ callId codeId guestUserId second,
    .linked callId codeId guestUserId second ∈ s.history → Spent s.tables guestUserId
  safe : LinkedSafely s.history

theorem Moves.mem {before after : List RedeemCall} (h : Moves before after) {call : RedeemCall}
    (hcall : call ∈ after) : ∃ old ∈ before, Narrows old call := by
  cases h with
  | same heq => exact ⟨call, heq ▸ hcall, rfl, rfl, id⟩
  | dropped callId heq =>
    rw [heq] at hcall
    exact ⟨call, List.mem_of_mem_filter hcall, rfl, rfl, id⟩
  | advanced old new hold hnew heq =>
    rw [heq] at hcall
    rcases List.mem_cons.mp hcall with rfl | hcall
    · exact ⟨old, hold, hnew⟩
    · exact ⟨call, List.mem_of_mem_filter hcall, rfl, rfl, id⟩

theorem Moves.apart {before after : List RedeemCall} (h : Moves before after)
    (hbefore : before.Pairwise Apart) : after.Pairwise Apart := by
  cases h with
  | same heq => exact heq ▸ hbefore
  | dropped callId heq => exact heq ▸ hbefore.filter _
  | advanced old new hold hnew heq =>
    rw [heq]
    refine List.pairwise_cons.mpr ⟨?_, hbefore.filter _⟩
    intro other hother
    obtain ⟨hmem, hne⟩ := List.mem_filter.mp hother
    have hne : other.callId ≠ old.callId := by simpa using hne
    obtain ⟨hid, hrow⟩ := hbefore.forall hold hmem fun heq => hne (heq ▸ rfl)
    refine ⟨hnew.callId_eq ▸ hid, ?_⟩
    rintro ⟨hnewHolds, hotherHolds, hcode⟩
    exact hrow ⟨hnew.holds hnewHolds, hotherHolds, hnew.code_eq ▸ hcode⟩

theorem Narrows.began {old new : RedeemCall} (h : Narrows old new)
    (hbegan : Began history old.callId old.code.id old.code.guestUserId old.code.expiresAt
      (!old.holdsRow)) :
    Began history new.callId new.code.id new.code.guestUserId new.code.expiresAt
      (!new.holdsRow) := by
  rw [h.callId_eq, h.code_eq]
  cases hnew : new.holdsRow with
  | true => rwa [h.holds hnew] at hbegan
  | false => exact hbegan.weaken

theorem currentCode_cons_of_ne {guestUserId : Uuid}
    (hne : ∀ codeId expiresAt issuedAt, event ≠ .issued codeId guestUserId expiresAt issuedAt) :
    currentCode guestUserId (event :: history) = currentCode guestUserId history := by
  cases event with
  | issued codeId issuedTo expiresAt issuedAt =>
    rw [currentCode, if_neg]
    rintro rfl
    exact hne codeId expiresAt issuedAt rfl
  | began callId codeId now => rfl
  | linked callId codeId guestUserId second => rfl

section Steps

variable {s t : LinkState}

theorem LinkInvariant.quiet (h : LinkInvariant s) (hclock : s.clock ≤ t.clock)
    (hcodes : t.tables.linkCodes = s.tables.linkCodes)
    (hspent : ∀ guestUserId, Spent s.tables guestUserId → Spent t.tables guestUserId)
    (hmoves : Moves s.redeems t.redeems) (hhistory : t.history = s.history) : LinkInvariant t := by
  have hrow : ∀ codeId guestUserId, HasRow s.tables codeId guestUserId →
      HasRow t.tables codeId guestUserId := by
    rintro codeId guestUserId ⟨row, hmem, hid⟩
    exact ⟨row, hcodes ▸ hmem, hid⟩
  refine
    { codes_unique := hcodes ▸ h.codes_unique
      codes_current := ?_
      redeems_apart := hmoves.apart h.redeems_apart
      redeems_row := ?_
      redeems_held := ?_
      redeems_began := ?_
      linked_row := ?_
      linked_spent := ?_
      safe := hhistory ▸ h.safe }
  · rw [hcodes, hhistory]
    intro row hmem hunmarked
    exact (h.codes_current row hmem hunmarked).imp (fun hle => hle.trans hclock) id
  · intro call hcall
    obtain ⟨old, hold, hnarrows⟩ := hmoves.mem hcall
    rw [hnarrows.code_eq]
    exact hrow _ _ (h.redeems_row old hold)
  · intro call hcall hholds
    obtain ⟨old, hold, hnarrows⟩ := hmoves.mem hcall
    rw [hnarrows.code_eq, hcodes]
    exact h.redeems_held old hold (hnarrows.holds hholds)
  · intro call hcall
    obtain ⟨old, hold, hnarrows⟩ := hmoves.mem hcall
    rw [hhistory]
    exact hnarrows.began (h.redeems_began old hold)
  · rw [hhistory]
    intro callId codeId guestUserId second hmem
    exact hrow _ _ (h.linked_row callId codeId guestUserId second hmem)
  · rw [hhistory]
    intro callId codeId guestUserId second hmem
    exact hspent _ (h.linked_spent callId codeId guestUserId second hmem)

theorem LinkInvariant.began (h : LinkInvariant s) {call : RedeemCall}
    (hrow : call.code ∈ s.tables.linkCodes) (hcode : call.code.redeemedAt = none)
    (hlive : s.clock < call.code.expiresAt) (hholds : call.holdsRow = true)
    (hfree : s.rowLocked call.code.id = false)
    (hcall : ∀ other ∈ s.redeems, other.callId ≠ call.callId) (htables : t.tables = s.tables)
    (hclock : t.clock = s.clock) (hredeems : t.redeems = call :: s.redeems)
    (hhistory : t.history = .began call.callId call.code.id s.clock :: s.history) :
    LinkInvariant t := by
  refine
    { codes_unique := htables ▸ h.codes_unique
      codes_current := ?_
      redeems_apart := ?_
      redeems_row := ?_
      redeems_held := ?_
      redeems_began := ?_
      linked_row := ?_
      linked_spent := ?_
      safe := ?_ }
  · rw [htables, hclock, hhistory]
    exact h.codes_current
  · rw [hredeems]
    refine List.pairwise_cons.mpr ⟨?_, h.redeems_apart⟩
    intro other hother
    refine ⟨(hcall other hother).symm, ?_⟩
    rintro ⟨-, hother', heq⟩
    have hnot := List.any_eq_false.mp hfree other hother
    simp [hother', heq] at hnot
  · rw [hredeems, htables]
    intro other hother
    rcases List.mem_cons.mp hother with rfl | hother
    · exact ⟨_, hrow, rfl, rfl⟩
    · exact h.redeems_row other hother
  · rw [hredeems, htables]
    intro other hother hothers
    rcases List.mem_cons.mp hother with rfl | hother
    · exact ⟨hrow, hcode⟩
    · exact h.redeems_held other hother hothers
  · rw [hredeems, hhistory]
    intro other hother
    rcases List.mem_cons.mp hother with rfl | hother
    · have hcurrent := (h.codes_current _ hrow hcode).resolve_left (Nat.not_le.mpr hlive)
      exact ⟨[], s.clock, s.history, rfl, hcurrent, hlive, fun _ _ _ _ hmem => nomatch hmem⟩
    · exact (h.redeems_began other hother).cons fun _ _ _ _ heq => nomatch heq
  · rw [hhistory, htables]
    intro callId codeId guestUserId second hmem
    exact h.linked_row callId codeId guestUserId second (by simpa using hmem)
  · rw [hhistory, htables]
    intro callId codeId guestUserId second hmem
    exact h.linked_spent callId codeId guestUserId second (by simpa using hmem)
  · rw [hhistory]
    exact h.safe.cons fun _ _ _ _ heq => nomatch heq

variable {now : Time}

theorem mem_expired {guestUserId : Uuid} {row : TelegramLinkCode}
    (h : row ∈ (expireActiveTelegramLinkCodes s.tables guestUserId now).linkCodes) :
    ∃ old ∈ s.tables.linkCodes, row.id = old.id ∧ row.guestUserId = old.guestUserId ∧
      row.redeemedAt = old.redeemedAt ∧
      ((row = old ∧ (old.guestUserId = guestUserId → old.isLive now = false)) ∨
        row.expiresAt = now) := by
  obtain ⟨old, hold, rfl⟩ := List.mem_map.mp h
  refine ⟨old, hold, ?_⟩
  split
  · exact ⟨rfl, rfl, rfl, .inr rfl⟩
  next hnot =>
  refine ⟨rfl, rfl, rfl, .inl ⟨rfl, ?_⟩⟩
  intro hguest
  simpa [hguest] using hnot

theorem expired_of_mem (guestUserId : Uuid) (now : Time) {old : TelegramLinkCode}
    (h : old ∈ s.tables.linkCodes) :
    ∃ row ∈ (expireActiveTelegramLinkCodes s.tables guestUserId now).linkCodes,
      row.id = old.id ∧ row.guestUserId = old.guestUserId ∧
        (old.guestUserId = guestUserId ∧ old.isLive now = true ∨ row = old) := by
  refine ⟨_, List.mem_map_of_mem h, ?_⟩
  split
  · next hexpires => exact ⟨rfl, rfl, .inl hexpires⟩
  · exact ⟨rfl, rfl, .inr rfl⟩

theorem map_id_expired (guestUserId : Uuid) (now : Time) :
    (expireActiveTelegramLinkCodes s.tables guestUserId now).linkCodes.map TelegramLinkCode.id =
      s.tables.linkCodes.map TelegramLinkCode.id := by
  rw [expireActiveTelegramLinkCodes, List.map_map]
  apply List.map_congr_left
  intro row _
  rw [Function.comp_apply]
  split
  · rfl
  · rfl

/-- While a redemption holds a code, an issue for its guest commits only once the code has
expired. -/
theorem LinkInvariant.held_expired (h : LinkInvariant s) {call : RedeemCall}
    (hcall : call ∈ s.redeems) (hholds : call.holdsRow = true)
    (hexpire : s.canExpire call.code.guestUserId now = true) : call.code.expiresAt ≤ now := by
  obtain ⟨hrow, hunmarked⟩ := h.redeems_held call hcall hholds
  have hfree := List.all_eq_true.mp hexpire _ hrow
  have hlocked : s.rowLocked call.code.id = true :=
    List.any_eq_true.mpr ⟨call, hcall, by simp [hholds]⟩
  simp only [hlocked, Bool.not_true, Bool.or_false, decide_true, Bool.true_and,
    Bool.not_eq_true', TelegramLinkCode.isLive, hunmarked, Option.isNone_none,
    decide_eq_false_iff_not, Nat.not_lt] at hfree
  exact hfree

theorem LinkInvariant.issued (h : LinkInvariant s) {call : IssueCall}
    (hnow : now ≤ s.clock) (hexpire : s.canExpire call.guestUserId now = true)
    (hfresh : ∀ row ∈ s.tables.linkCodes, row.id ≠ call.codeId)
    (htables : t.tables =
      { s.tables with
        linkCodes :=
          (expireActiveTelegramLinkCodes s.tables call.guestUserId now).linkCodes ++ [call.row] })
    (hclock : t.clock = s.clock) (hredeems : t.redeems = s.redeems)
    (hhistory : t.history =
      .issued call.codeId call.guestUserId call.expiresAt now :: s.history) : LinkInvariant t := by
  have hspent : ∀ guestUserId, Spent s.tables guestUserId → Spent t.tables guestUserId := by
    rw [htables]
    exact fun _ => id
  have hrow : ∀ codeId guestUserId, HasRow s.tables codeId guestUserId →
      HasRow t.tables codeId guestUserId := by
    rintro codeId guestUserId ⟨old, hold, hid, hguest⟩
    obtain ⟨row, hmem, hrowId, hrowGuest, -⟩ := expired_of_mem call.guestUserId now hold
    rw [htables]
    exact ⟨row, List.mem_append_left _ hmem, hrowId.trans hid, hrowGuest.trans hguest⟩
  refine
    { codes_unique := ?_
      codes_current := ?_
      redeems_apart := hredeems ▸ h.redeems_apart
      redeems_row := ?_
      redeems_held := ?_
      redeems_began := ?_
      linked_row := ?_
      linked_spent := ?_
      safe := ?_ }
  · rw [htables, List.map_append, map_id_expired, List.map_singleton, ← List.concat_eq_append]
    refine h.codes_unique.concat ?_
    intro hmem
    obtain ⟨row, hmem, hid⟩ := List.mem_map.mp hmem
    exact hfresh row hmem hid
  · rw [htables, hclock, hhistory]
    intro row hmem hunmarked
    rcases List.mem_append.mp hmem with hmem | hmem
    · obtain ⟨old, hold, -, -, hmark, ⟨rfl, hlive⟩ | hexpired⟩ := mem_expired hmem
      · by_cases hguest : row.guestUserId = call.guestUserId
        · -- the old codes of the guest have expired
          have hdead := hlive hguest
          simp only [TelegramLinkCode.isLive, hunmarked, Option.isNone_none, Bool.true_and,
            decide_eq_false_iff_not, Nat.not_lt] at hdead
          exact .inl (hdead.trans hnow)
        · rw [currentCode_cons_of_ne]
          · exact h.codes_current row hold hunmarked
          · intro codeId expiresAt issuedAt heq
            exact hguest (CodeEvent.issued.inj heq).2.1.symm
      · exact .inl (hexpired.le.trans hnow)
    · rw [List.mem_singleton.mp hmem]
      exact .inr (if_pos rfl)
  · rw [hredeems]
    intro other hother
    exact hrow _ _ (h.redeems_row other hother)
  · rw [hredeems, htables]
    intro other hother hholds
    obtain ⟨hmem, hunmarked⟩ := h.redeems_held other hother hholds
    refine ⟨List.mem_append_left _ ?_, hunmarked⟩
    obtain ⟨row, hin, -, -, ⟨hguest, hlive⟩ | rfl⟩ := expired_of_mem call.guestUserId now hmem
    · have hexpired := h.held_expired hother hholds (hguest ▸ hexpire)
      simp only [TelegramLinkCode.isLive, Bool.and_eq_true, decide_eq_true_eq] at hlive
      exact absurd hlive.2 hexpired.not_gt
    · exact hin
  · rw [hredeems, hhistory]
    intro other hother
    refine (h.redeems_began other hother).cons ?_
    intro hholds newer validUntil issuedAt heq
    obtain ⟨rfl, hguest, rfl, rfl⟩ := CodeEvent.issued.inj heq
    exact h.held_expired hother (by simpa using hholds) (hguest ▸ hexpire)
  · rw [hhistory]
    intro callId codeId guestUserId second hmem
    exact hrow _ _ (h.linked_row callId codeId guestUserId second (by simpa using hmem))
  · rw [hhistory]
    intro callId codeId guestUserId second hmem
    exact hspent _ (h.linked_spent callId codeId guestUserId second (by simpa using hmem))
  · rw [hhistory]
    exact h.safe.cons fun _ _ _ _ heq => nomatch heq

theorem HasRow.unique (h : (s.tables.linkCodes.map TelegramLinkCode.id).Nodup)
    {guestUserId otherGuest : Uuid} (hrow : HasRow s.tables codeId guestUserId)
    (hother : HasRow s.tables codeId otherGuest) : guestUserId = otherGuest := by
  obtain ⟨row, hmem, hid, rfl⟩ := hrow
  obtain ⟨other, hotherMem, hotherId, rfl⟩ := hother
  rw [List.inj_on_of_nodup_map h hmem hotherMem (hid.trans hotherId.symm)]

theorem LinkInvariant.linked (h : LinkInvariant s) {call : RedeemCall} (hcall : call ∈ s.redeems)
    (hlinks : Links s.tables t.tables call.code.guestUserId)
    (hcodes : t.tables.linkCodes = if call.holdsRow then
      (markRedeemed s.tables call.code.id call.redeemedAt call.telegramId).linkCodes
      else s.tables.linkCodes)
    (hclock : t.clock = s.clock)
    (hredeems : t.redeems = s.redeems.filter fun other => other.callId ≠ call.callId)
    (hhistory : t.history =
      .linked call.callId call.code.id call.code.guestUserId (!call.holdsRow) :: s.history) :
    LinkInvariant t := by
  have hids : t.tables.linkCodes.map TelegramLinkCode.id =
      s.tables.linkCodes.map TelegramLinkCode.id := by
    rw [hcodes]
    split
    · rw [markRedeemed, List.map_map]
      apply List.map_congr_left
      intro row _
      rw [Function.comp_apply]
      split
      · rfl
      · rfl
    · rfl
  have hrow : ∀ codeId guestUserId, HasRow s.tables codeId guestUserId →
      HasRow t.tables codeId guestUserId := by
    rintro codeId guestUserId ⟨old, hold, hid, hguest⟩
    rw [HasRow, hcodes]
    split
    · refine ⟨_, List.mem_map_of_mem hold, ?_⟩
      split
      · exact ⟨hid, hguest⟩
      · exact ⟨hid, hguest⟩
    · exact ⟨old, hold, hid, hguest⟩
  have hunmarkedMem : ∀ row ∈ t.tables.linkCodes, row.redeemedAt = none →
      row ∈ s.tables.linkCodes := by
    rw [hcodes]
    intro row hmem hunmarked
    split at hmem
    · obtain ⟨old, hold, rfl⟩ := List.mem_map.mp hmem
      split at hunmarked
      · cases hunmarked
      next hne =>
      rw [if_neg hne]
      exact hold
    · exact hmem
  have hothers : ∀ other ∈ t.redeems, other ∈ s.redeems ∧ other.callId ≠ call.callId := by
    rw [hredeems]
    intro other hother
    simpa using hother
  have hown := h.redeems_row call hcall
  have honce : ∀ other guest again, .linked other call.code.id guest again ∉ s.history := by
    intro other guest again hmem
    rw [HasRow.unique h.codes_unique hown (h.linked_row other _ guest again hmem)] at hlinks
    exact hlinks.not_spent (h.linked_spent other _ guest again hmem)
  refine
    { codes_unique := hids ▸ h.codes_unique
      codes_current := ?_
      redeems_apart := hredeems ▸ h.redeems_apart.filter _
      redeems_row := ?_
      redeems_held := ?_
      redeems_began := ?_
      linked_row := ?_
      linked_spent := ?_
      safe := ?_ }
  · rw [hclock, hhistory]
    intro row hmem hunmarked
    rw [currentCode_cons_of_ne (by simp)]
    exact h.codes_current row (hunmarkedMem row hmem hunmarked) hunmarked
  · intro other hother
    exact hrow _ _ (h.redeems_row other (hothers other hother).1)
  · intro other hother hholds
    obtain ⟨hmem, hne⟩ := hothers other hother
    obtain ⟨hcode, hunmarked⟩ := h.redeems_held other hmem hholds
    refine ⟨?_, hunmarked⟩
    rw [hcodes]
    split
    · next hcallHolds =>
      have happart := h.redeems_apart.forall hmem hcall fun heq => hne (heq ▸ rfl)
      have hother : other.code.id ≠ call.code.id := fun heq => happart.2 ⟨hholds, hcallHolds, heq⟩
      exact List.mem_map.mpr ⟨other.code, hcode, if_neg hother⟩
    · exact hcode
  · rw [hhistory]
    intro other hother
    exact (h.redeems_began other (hothers other hother).1).cons fun _ _ _ _ heq => nomatch heq
  · rw [hhistory]
    intro callId codeId guestUserId second hmem
    rcases List.mem_cons.mp hmem with heq | hmem
    · cases heq
      exact hrow _ _ hown
    · exact hrow _ _ (h.linked_row callId codeId guestUserId second hmem)
  · rw [hhistory]
    intro callId codeId guestUserId second hmem
    rcases List.mem_cons.mp hmem with heq | hmem
    · cases heq
      exact hlinks.spent
    · exact hlinks.keeps _ (h.linked_spent callId codeId guestUserId second hmem)
  · rw [hhistory]
    exact h.safe.linked honce (h.redeems_began call hcall)

theorem LinkInvariant.step (h : LinkInvariant s) (heffect : LinkEffect s t) : LinkInvariant t := by
  cases heffect with
  | quiet hclock hcodes hspent hmoves hhistory => exact h.quiet hclock hcodes hspent hmoves hhistory
  | issued call now hnow hexpire hfresh htables hclock hredeems hhistory =>
    exact h.issued hnow hexpire hfresh htables hclock hredeems hhistory
  | began call hrow hcode hlive hholds hfree hcall htables hclock hredeems hhistory =>
    exact h.began hrow hcode hlive hholds hfree hcall htables hclock hredeems hhistory
  | linked call hcall hlinks hcodes hclock hredeems hhistory =>
    exact h.linked hcall hlinks hcodes hclock hredeems hhistory

theorem linkInvariant_initial (h : LinkInitial s) : LinkInvariant s := by
  obtain ⟨hcodes, -, hredeems, hhistory⟩ := h
  refine
    { codes_unique := by simp [hcodes]
      codes_current := by simp [hcodes]
      redeems_apart := by simp [hredeems]
      redeems_row := by simp [hredeems]
      redeems_held := by simp [hredeems]
      redeems_began := by simp [hredeems]
      linked_row := by simp [hhistory]
      linked_spent := by simp [hhistory]
      safe := ?_ }
  rw [hhistory]
  intro _ _ _ _ _ hsuffix
  cases List.suffix_nil.mp hsuffix

variable {hash : String → String} {ttl : Time}

/-- A step of a redemption leaves users, collections and codes alone, unless it commits the
link, and then the call is over. -/
def LeavesOrLinks (s t : LinkState) (callId : Nat) : Prop :=
  t.tables = s.tables ∨ ∃ codeId guestUserId second,
    t.history = .linked callId codeId guestUserId second :: s.history ∧
      ∀ call ∈ t.redeems, call.callId ≠ callId

theorem leavesOrLinks_finish (call : RedeemCall) (tables : AccountTables) (second : Bool) :
    LeavesOrLinks s (s.finish call tables second) call.callId := by
  refine .inr ⟨_, _, _, rfl, ?_⟩
  intro other hother
  simpa using (List.mem_filter.mp hother).2

variable {label : LinkLabel}

theorem redeemStep_leavesOrLinks {call : RedeemCall}
    (h : redeemStep s call label = some t) : LeavesOrLinks s t call.callId := by
  unfold redeemStep at h
  split at h
  · split at h
    · cases h
      exact .inl rfl
    · cases h
  · split at h
    · cases h
      exact .inl rfl
    · cases h
  · split at h
    · cases h
      unfold linkFirst
      split
      · exact leavesOrLinks_finish ..
      split
      · exact .inl rfl
      · exact .inl rfl
    · cases h
  · split at h
    · split at h
      · cases h
        exact .inl rfl
      · cases h
        exact .inl rfl
    · cases h
  · split at h
    · split at h
      · cases h
        exact .inl rfl
      · cases h
        exact .inl rfl
    · cases h
  · split at h
    · cases h
      unfold linkSecond
      split
      · exact leavesOrLinks_finish ..
      · exact .inl rfl
    · cases h
  · cases h
    exact .inl rfl
  · cases h

theorem redemption_leavesOrLinks
    (hlabel : label.redemption = some callId) (h : linkStep hash ttl s label = some t) :
    LeavesOrLinks s t callId := by
  cases label with
  | startRedeem callId code telegramId =>
    cases hlabel
    obtain ⟨-, heq⟩ := Option.ite_none_right_eq_some.mp h
    obtain ⟨⟨row, begun⟩, hbegin, heq⟩ := Option.bind_eq_some_iff.mp heq
    obtain ⟨-, -, -, rfl⟩ := beginRedeem_ok (toOption_eq_some.mp hbegin)
    obtain ⟨-, heq⟩ := Option.ite_none_left_eq_some.mp heq
    cases heq
    exact .inl rfl
  | snapshot id | resolve id | link id ids | postMortem id | resolveAgain id | mergeAgain id ids
  | abortRedeem id =>
    cases hlabel
    obtain ⟨call, hcall, hstep⟩ := Option.bind_eq_some_iff.mp h
    obtain ⟨-, rfl⟩ := redeemCall_eq_some hcall
    exact redeemStep_leavesOrLinks hstep
  | tick | register | upgrade | mergeGuest | startIssue | commitIssue | abortIssue => cases hlabel

/-- While a redemption holds the row of its code, the code is replaced only once it has expired. -/
def HeldCodesStay (s : LinkState) : Prop :=
  ∀ call ∈ s.redeems, call.holdsRow = true → Began s.history call.callId call.code.id
    call.code.guestUserId call.code.expiresAt false

/-- In every interleaving each code links at most once, and only the guest it was issued for;
the redemption began while the code was neither linked nor expired nor replaced; and a
redemption that raises leaves everything as it was. -/
theorem linkCodes_link_once (hash : String → String) (ttl : Time) (s : LinkState)
    (hs : Reachable (linkStep hash ttl) LinkInitial s) :
    LinkedSafely s.history ∧ HeldCodesStay s ∧ ∀ label callId t, label.redemption = some callId →
      linkStep hash ttl s label = some t → LeavesOrLinks s t callId := by
  have hinvariant : LinkInvariant s :=
    hs.invariant (fun _ => linkInvariant_initial)
      fun _ _ _ h hstep => h.step (linkStep_effect hstep)
  refine ⟨hinvariant.safe, fun call hcall hholds => ?_, fun _ _ _ => redemption_leavesOrLinks⟩
  have hbegan := hinvariant.redeems_began call hcall
  rwa [hholds] at hbegan

end Steps

/-! Guest 1 redeems a code while guest 3 takes the same Telegram identity. -/

def twoGuests : LinkState := { tables := { accounts := [{ id := 1 }, { id := 3 }] } }

def lostRace : List LinkLabel :=
  [.startIssue 0 100 1 "first", .commitIssue 0 0, .startRedeem 1 "first" 7, .snapshot 1, .resolve 1,
    .upgrade 3 { telegramId := some 7 }, .link 1 ⟨50, 51⟩, .startIssue 2 101 1 "second",
    .commitIssue 2 0, .postMortem 1, .resolveAgain 1, .mergeAgain 1 ⟨52, 53⟩]

theorem linkCodes_link_once_lostRace :
    let s := final (linkStep id 600) twoGuests lostRace
    LinkedSafely s.history ∧ HeldCodesStay s ∧ ∀ label callId t, label.redemption = some callId →
      linkStep id 600 s label = some t → LeavesOrLinks s t callId :=
  linkCodes_link_once id 600 _ ⟨twoGuests, ⟨rfl, rfl, rfl, rfl⟩, lostRace, rfl⟩

theorem replaced_code_links : ¬ ∀ s, Reachable (linkStep id 600) LinkInitial s →
    ∀ callId codeId guestUserId second earlier,
      (.linked callId codeId guestUserId second :: earlier) <:+ s.history →
        (currentCode guestUserId earlier).map Prod.fst = some codeId := by
  intro hcurrent
  have hrun : (final (linkStep id 600) twoGuests lostRace).history =
      [.linked 1 100 1 true, .issued 101 1 600 0, .began 1 100 0, .issued 100 1 600 0] := by
    decide
  have hnewest := hcurrent _ ⟨twoGuests, ⟨rfl, rfl, rfl, rfl⟩, lostRace, rfl⟩ 1 100 1 true
    [.issued 101 1 600 0, .began 1 100 0, .issued 100 1 600 0] (hrun ▸ List.suffix_rfl)
  simp [currentCode] at hnewest

end MemeExpert.Services
