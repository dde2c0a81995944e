import MemeExpert.Models.Session
import MemeExpert.Services.AccountLink

/-! A user row with its login identities, the log of merges and the Telegram link codes. -/

namespace MemeExpert.Services

structure Account where
  id : Uuid
  status : AccountStatus := .active
  telegramId : Option Nat := none
  googleId : Option String := none
  email : Option String := none
  emailVerifiedAt : Option Time := none
  passwordHash : Option String := none
  activeSaveCollectionId : Option Uuid := none
  guestExpiresAt : Option Time := none
  tokenNonce : Nat := 0
  updatedAt : Time := 0
  deriving DecidableEq

namespace Account

def hasLinkedLoginIdentity (account : Account) : Bool :=
  account.telegramId.isSome || account.googleId.isSome || account.email.isSome ||
    account.passwordHash.any fun hash => strip hash ≠ ""

def accountType (account : Account) : AccountType :=
  if account.hasLinkedLoginIdentity then .full else .guest

def toUser (account : Account) : User where
  id := account.id
  accountType := account.accountType
  status := account.status
  telegramId := account.telegramId
  googleId := account.googleId
  email := account.email
  passwordHash := account.passwordHash
  activeSaveCollectionId := account.activeSaveCollectionId

end Account

structure AccountMergeLog where
  id : Uuid
  guestAccountId : Uuid
  targetAccountId : Uuid
  createdAt : Time
  deriving DecidableEq

structure TelegramLinkCode where
  id : Uuid
  guestUserId : Uuid
  codeHash : String
  expiresAt : Time
  redeemedAt : Option Time := none
  redeemedByTelegramId : Option Nat := none
  deriving DecidableEq

/-- The users of `content` stand in `accounts`. -/
structure AccountTables where
  accounts : List Account := []
  content : Library := {}
  mergeLogs : List AccountMergeLog := []
  linkCodes : List TelegramLinkCode := []
  deriving DecidableEq

namespace AccountTables

variable (s : AccountTables)

def account (userId : Uuid) : Option Account := s.accounts.find? fun account => account.id = userId

def library : Library := { s.content with users := s.accounts.map Account.toUser }

def getByTelegramId (telegramId : Nat) : Option Account :=
  s.accounts.find? fun account => account.telegramId = some telegramId

def getByGoogleId (googleId : String) : Option Account :=
  s.accounts.find? fun account => account.googleId = some googleId

def getByEmail (email : String) : Option Account :=
  s.accounts.find? fun account => account.email = some email

def updateAccount (userId : Uuid) (write : Account → Account) : AccountTables :=
  { s with accounts := s.accounts.map fun row => if row.id = userId then write row else row }

end AccountTables

structure TelegramIdentity where
  telegramId : Nat

/-- An identity without a verified address carries no address at all. -/
structure GoogleIdentity where
  googleId : String
  email : Option String := none
  emailVerifiedAt : Option Time := none
  deriving DecidableEq

structure EmailSignupIdentity where
  email : String
  passwordHash : String

structure UpgradeIdentity where
  telegramId : Option Nat := none
  googleId : Option String := none
  email : Option String := none
  emailVerifiedAt : Option Time := none
  passwordHash : Option String := none

def EmailSignupIdentity.toUpgrade (identity : EmailSignupIdentity) : UpgradeIdentity where
  email := some identity.email
  passwordHash := some identity.passwordHash

def GoogleIdentity.toUpgrade (identity : GoogleIdentity) : UpgradeIdentity where
  googleId := some identity.googleId
  email := identity.email
  emailVerifiedAt := identity.emailVerifiedAt

def TelegramIdentity.toUpgrade (identity : TelegramIdentity) : UpgradeIdentity where
  telegramId := some identity.telegramId

section UserService

variable (s : AccountTables)

def lockRequiredUser (userId : Uuid) : Except ServiceError Account :=
  match s.account userId with
  | some account => .ok account
  | none => .error ⟨.userNotFound, s!"User {userId} does not exist."⟩

def createGuestUser (userId : Uuid) (now guestLifetime : Time) : AccountTables :=
  { s with
    accounts := s.accounts ++
      [{ id := userId, guestExpiresAt := some (now + guestLifetime), updatedAt := now }] }

def freshUserId (userId : Uuid) : Bool :=
  (s.account userId).isNone && s.mergeLogs.all fun log => log.guestAccountId ≠ userId

def ensureAccountIsAvailable (user : Account) : Except ServiceError Unit :=
  if user.status ≠ .active then .error ⟨.accountUnavailable, "Account is not available."⟩
  else .ok ()

def identityHolder (identity : String) (holder : Option Account) : Except ServiceError Unit :=
  match holder with
  | none => .ok ()
  | some existing =>
    let existingId := existing.id
    .error ⟨.duplicateIdentity, s!"{identity} is already linked to user {existingId}."⟩

/-- `_ensure_identity_is_available`: no row carries one of the identities. -/
def ensureIdentityIsAvailable (telegramId : Option Nat) (googleId email : Option String) :
    Except ServiceError Unit := do
  if let some id := telegramId then
    identityHolder s!"Telegram ID {id}" (s.getByTelegramId id)
  if let some id := googleId then
    identityHolder s!"Google subject '{id}'" (s.getByGoogleId id)
  if let some address := email then
    identityHolder s!"Email '{address}'" (s.getByEmail address)

def upgradedRow (identity : UpgradeIdentity) (now : Time) (user : Account) : Account :=
  { user with
    guestExpiresAt := none
    telegramId := identity.telegramId <|> user.telegramId
    googleId := identity.googleId <|> user.googleId
    email := identity.email <|> user.email
    emailVerifiedAt := identity.emailVerifiedAt <|> user.emailVerifiedAt
    passwordHash := identity.passwordHash <|> user.passwordHash
    updatedAt := now }

def upgradeGuestToFullAccount (userId : Uuid) (identity : UpgradeIdentity) (now : Time) :
    Except ServiceError AccountTables := do
  if identity.telegramId = some 0 then
    throw ⟨.invalidIdentity, "Telegram ID must be a positive integer."⟩
  if identity.telegramId = none ∧ identity.googleId = none ∧ identity.email = none then
    throw ⟨.invalidIdentity,
      "Full accounts require at least one identity: telegram_id, google_id, or email."⟩
  if identity.email = none ∧ identity.emailVerifiedAt.isSome then
    throw ⟨.invalidIdentity, "email_verified_at requires an email address."⟩
  if identity.email = none ∧ identity.passwordHash.isSome then
    throw ⟨.invalidIdentity, "password_hash requires an email identity."⟩
  let user ← lockRequiredUser s userId
  if user.accountType ≠ .guest then
    throw ⟨.userService, s!"User {userId} is not a guest account."⟩
  if user.telegramId.isSome ∧ user.telegramId ≠ identity.telegramId then
    throw ⟨.duplicateIdentity, s!"User {userId} is already linked to another Telegram ID."⟩
  if user.googleId.isSome ∧ user.googleId ≠ identity.googleId then
    throw ⟨.duplicateIdentity, s!"User {userId} is already linked to another Google subject."⟩
  if user.email.isSome ∧ user.email ≠ identity.email then
    throw ⟨.duplicateIdentity, s!"User {userId} is already linked to another email."⟩
  if user.passwordHash.isSome ∧ identity.passwordHash.isSome ∧
      user.passwordHash ≠ identity.passwordHash then
    throw ⟨.duplicateIdentity, s!"User {userId} already has a different password hash attached."⟩
  ensureIdentityIsAvailable s (if user.telegramId = none then identity.telegramId else none)
    (if user.googleId = none then identity.googleId else none)
    (if user.email = none then identity.email else none)
  pure (s.updateAccount userId (upgradedRow identity now))

def attachGoogleSubject (userId : Uuid) (googleId : String) (emailVerifiedAt : Option Time)
    (now : Time) : Except ServiceError AccountTables := do
  let user ← lockRequiredUser s userId
  if user.googleId.isSome ∧ user.googleId ≠ some googleId then
    throw ⟨.duplicateIdentity, s!"User {userId} is already linked to another Google subject."⟩
  if user.googleId = none then
    ensureIdentityIsAvailable s none (some googleId) none
  pure (s.updateAccount userId fun row =>
    { row with
      googleId := some googleId
      emailVerifiedAt := emailVerifiedAt <|> row.emailVerifiedAt
      updatedAt := now })

def bumpedRow (now : Time) (user : Account) : Account :=
  { user with tokenNonce := user.tokenNonce + 1, updatedAt := now }

/-- One `UPDATE ... SET token_nonce = token_nonce + 1`. -/
def bumpTokenNonce (userId : Uuid) (now : Time) : Except ServiceError AccountTables :=
  match s.account userId with
  | none => .error ⟨.userNotFound, s!"User {userId} does not exist."⟩
  | some _ => .ok (s.updateAccount userId (bumpedRow now))

def upgradeGuestInPlace (guestUserId : Uuid) (identity : UpgradeIdentity) (now : Time) :
    Except ServiceError AccountTables := do
  let guest ← lockRequiredUser s guestUserId
  ensureGuestCanLink guest.toUser
  let _ ← requireGuestHasNoCustomCollections s.library guest.toUser
  upgradeGuestToFullAccount s guest.id identity now

structure MergeIds where
  logId : Uuid
  favoritesId : Uuid

def Account.withSaveCollectionOf (library : Library) (row : Account) : Account :=
  { row with
    activeSaveCollectionId :=
      (library.user row.id).elim row.activeSaveCollectionId User.activeSaveCollectionId }

def attachMergedIdentity (targetUserId : Uuid) (now : Time) :
    Option GoogleIdentity → Except ServiceError AccountTables
  | none => .ok s
  | some identity =>
    attachGoogleSubject s targetUserId identity.googleId identity.emailVerifiedAt now

/-- `_merge_guest_into_existing_full`; `google` is given when the identity is attached. -/
def mergeGuestIntoFull (guestUserId targetUserId : Uuid) (google : Option GoogleIdentity)
    (ids : MergeIds) (now : Time) : Except ServiceError AccountTables := do
  if guestUserId = targetUserId then
    throw ⟨.accountLinkInvariant, "Guest account cannot merge into itself."⟩
  let guest ← lockRequiredUser s guestUserId
  let target ← lockRequiredUser s targetUserId
  ensureGuestCanLink guest.toUser
  ensureCanonicalTarget target.toUser
  let guestFavorites ← requireGuestHasNoCustomCollections s.library guest.toUser
  let attached ← attachMergedIdentity s target.id now google
  let handedOver ← handOverFavorites attached.library target.toUser ids.favoritesId guestFavorites
  let library ← (deleteUser handedOver guest.id).commit "Failed to merge the guest."
  pure
    { s with
      accounts := (attached.accounts.filter fun row => row.id ≠ guest.id).map
        (Account.withSaveCollectionOf library)
      content := library
      mergeLogs := s.mergeLogs ++
        [{ id := ids.logId, guestAccountId := guest.id, targetAccountId := target.id
           createdAt := now }] }

end UserService

section Specs

open Results

variable {s t : AccountTables} {userId : Uuid}

variable {account : Account}

theorem account_eq_some (h : s.account userId = some account) :
    account ∈ s.accounts ∧ account.id = userId :=
  ⟨List.mem_of_find?_eq_some h, by simpa using List.find?_some h⟩

theorem account_eq_none_iff : s.account userId = none ↔ ∀ row ∈ s.accounts, row.id ≠ userId := by
  simp [AccountTables.account, List.find?_eq_none]

theorem account_updateAccount (write : Account → Account) (hid : ∀ row, (write row).id = row.id)
    (otherId : Uuid) : (s.updateAccount userId write).account otherId =
      if otherId = userId then (s.account otherId).map write else s.account otherId := by
  simp only [AccountTables.account, AccountTables.updateAccount]
  induction s.accounts with
  | nil =>
    split
    · rfl
    · rfl
  | cons row rest ih =>
    rw [List.map_cons, List.find?_cons, List.find?_cons, ih]
    by_cases hrow : row.id = userId
    · by_cases hother : otherId = userId
      · simp [hrow, hother, hid]
      · simp [hrow, hother, hid, Ne.symm hother]
    · by_cases hother : row.id = otherId
      · simp [hother, show otherId ≠ userId from hother ▸ hrow]
      · simp [hrow, hother]

theorem lockRequiredUser_ok :
    lockRequiredUser s userId = .ok account ↔ s.account userId = some account := by
  unfold lockRequiredUser
  split
  · next found hfound => rw [hfound, Except.ok.injEq, Option.some.injEq]
  · next hnone => simp [hnone]

variable {u : Unit}

theorem ensureAccountIsAvailable_ok {user : Account} :
    ensureAccountIsAvailable user = .ok u ↔ user.status = .active := by
  cases u
  unfold ensureAccountIsAvailable
  split
  · next hstatus => simp [hstatus]
  · next hstatus => simp [not_not.mp hstatus]

theorem freshUserId_eq_false_iff {s : AccountTables} {userId : Uuid} :
    freshUserId s userId = false ↔
      (s.account userId).isSome ∨ ∃ log ∈ s.mergeLogs, log.guestAccountId = userId := by
  simp only [freshUserId, Bool.and_eq_false_iff, List.all_eq_false, ← Option.not_isNone]
  simp

theorem accountType_eq_full_iff :
    account.accountType = .full ↔ account.hasLinkedLoginIdentity = true := by
  unfold Account.accountType
  split
  · next h => simp [h]
  · next h => simp [h]

variable {identity : UpgradeIdentity} {now : Time}

theorem accountType_upgradedRow {row : Account}
    (hany : identity.telegramId.isSome ∨ identity.googleId.isSome ∨ identity.email.isSome) :
    (upgradedRow identity now row).accountType = .full := by
  rw [accountType_eq_full_iff]
  obtain ⟨telegramId, googleId, email, verified, password⟩ := identity
  cases telegramId <;> cases googleId <;> cases email <;>
    simp_all [Account.hasLinkedLoginIdentity, upgradedRow]

theorem identityHolder_ok {identity : String} {holder : Option Account} :
    identityHolder identity holder = .ok u ↔ holder = none := by
  cases holder with
  | none => simp [identityHolder]
  | some existing => simp [identityHolder]

def Available (s : AccountTables) (telegramId : Option Nat) (googleId email : Option String) :
    Prop :=
  (∀ id, telegramId = some id → s.getByTelegramId id = none) ∧
  (∀ id, googleId = some id → s.getByGoogleId id = none) ∧
  ∀ address, email = some address → s.getByEmail address = none

theorem ensureIdentityIsAvailable_ok {telegramId : Option Nat} {googleId email : Option String}
    (h : ensureIdentityIsAvailable s telegramId googleId email = .ok u) :
    Available s telegramId googleId email := by
  cases telegramId <;> cases googleId <;> cases email <;>
    simp_all [ensureIdentityIsAvailable, bind_eq_ok, identityHolder_ok, Available, pure,
      Except.pure]

/-- A guest in the state the linking flows accept: active and without any identity. -/
structure CanLink (guest : Account) : Prop where
  status_eq : guest.status = .active
  telegramId_eq : guest.telegramId = none
  googleId_eq : guest.googleId = none
  email_eq : guest.email = none
  passwordHash_eq : guest.passwordHash = none

theorem CanLink.accountType_eq {guest : Account} (h : CanLink guest) :
    guest.accountType = .guest := by
  simp [Account.accountType, Account.hasLinkedLoginIdentity, h.telegramId_eq, h.googleId_eq,
    h.email_eq, h.passwordHash_eq]

theorem ensureGuestCanLink_ok {guest : Account} :
    ensureGuestCanLink guest.toUser = .ok u ↔ CanLink guest := by
  constructor
  · intro h
    unfold ensureGuestCanLink at h
    split at h
    · cases h
    split at h
    · cases h
    next hstatus =>
    split at h
    · cases h
    next hidentities =>
    simp only [Account.toUser, Bool.or_eq_true, not_or, Bool.not_eq_true,
      Option.isSome_eq_false_iff, Option.isNone_iff_eq_none] at hidentities
    obtain ⟨⟨⟨htelegram, hgoogle⟩, hemail⟩, hpassword⟩ := hidentities
    exact ⟨not_not.mp hstatus, htelegram, hgoogle, hemail, hpassword⟩
  · intro h
    have htype := h.accountType_eq
    cases u
    simp [ensureGuestCanLink, Account.toUser, htype, h.status_eq, h.telegramId_eq, h.googleId_eq,
      h.email_eq, h.passwordHash_eq]

theorem ensureCanonicalTarget_ok {target : Account} :
    ensureCanonicalTarget target.toUser = .ok u ↔
      target.accountType = .full ∧ target.status = .active := by
  cases u
  unfold ensureCanonicalTarget
  by_cases htype : target.accountType = .full
  · by_cases hstatus : target.status = .active
    · simp [Account.toUser, htype, hstatus]
    · simp [Account.toUser, htype, hstatus]
  · simp [Account.toUser, htype]

theorem upgradeGuestToFullAccount_ok (h : upgradeGuestToFullAccount s userId identity now = .ok t) :
    t = s.updateAccount userId (upgradedRow identity now) ∧ ∃ user,
      s.account userId = some user ∧ user.accountType = .guest ∧
      (identity.telegramId.isSome ∨ identity.googleId.isSome ∨ identity.email.isSome) ∧
      (identity.email = none → identity.emailVerifiedAt = none ∧ identity.passwordHash = none) ∧
      Available s (if user.telegramId = none then identity.telegramId else none)
        (if user.googleId = none then identity.googleId else none)
        (if user.email = none then identity.email else none) := by
  simp only [upgradeGuestToFullAccount, guard_eq_ok, bind_eq_ok, lockRequiredUser_ok,
    pure_eq_ok] at h
  obtain ⟨-, hany, hverified, hpassword, user, huser, htype, -, -, -, -, _, havailable, rfl⟩ := h
  refine ⟨rfl, user, huser, not_not.mp htype, ?_, ?_, ensureIdentityIsAvailable_ok havailable⟩
  · simp only [not_and_or, ← Option.ne_none_iff_isSome] at hany ⊢
    exact hany
  intro hemail
  simp only [hemail, true_and, Bool.not_eq_true, Option.isSome_eq_false_iff,
    Option.isNone_iff_eq_none] at hverified hpassword
  exact ⟨hverified, hpassword⟩

theorem upgradeGuestInPlace_ok (h : upgradeGuestInPlace s userId identity now = .ok t) :
    t = s.updateAccount userId (upgradedRow identity now) ∧
      (∃ guest, s.account userId = some guest ∧ CanLink guest) ∧
      (identity.telegramId.isSome ∨ identity.googleId.isSome ∨ identity.email.isSome) ∧
      (identity.email = none → identity.emailVerifiedAt = none ∧ identity.passwordHash = none) ∧
      Available s identity.telegramId identity.googleId identity.email := by
  simp only [upgradeGuestInPlace, bind_eq_ok, lockRequiredUser_ok, ensureGuestCanLink_ok] at h
  obtain ⟨guest, hguest, _, hlink, _, -, h⟩ := h
  obtain ⟨-, hid⟩ := account_eq_some hguest
  rw [hid] at h
  obtain ⟨rfl, user, huser, -, hany, hemail, havailable⟩ := upgradeGuestToFullAccount_ok h
  rw [hguest, Option.some.injEq] at huser
  subst huser
  rw [if_pos hlink.telegramId_eq, if_pos hlink.googleId_eq, if_pos hlink.email_eq] at havailable
  exact ⟨rfl, ⟨guest, hguest, hlink⟩, hany, hemail, havailable⟩

def mergedRow (targetUserId : Uuid) (google : Option GoogleIdentity) (now : Time)
    (row : Account) : Account :=
  match google with
  | none => row
  | some identity =>
    if row.id = targetUserId then
      { row with
        googleId := some identity.googleId
        emailVerifiedAt := identity.emailVerifiedAt <|> row.emailVerifiedAt
        updatedAt := now }
    else row

theorem attachGoogleSubject_ok {googleId : String} {emailVerifiedAt : Option Time}
    (h : attachGoogleSubject s userId googleId emailVerifiedAt now = .ok t) :
    t.accounts = s.accounts.map (mergedRow userId (some ⟨googleId, none, emailVerifiedAt⟩) now) ∧
      ∃ user, s.account userId = some user ∧ (user.googleId = none → s.getByGoogleId googleId = none)
        ∧ ∀ id, user.googleId = some id → id = googleId := by
  simp only [attachGoogleSubject, bind_eq_ok, lockRequiredUser_ok, guard_eq_ok] at h
  obtain ⟨user, huser, hsame, h⟩ := h
  have hid : ∀ id, user.googleId = some id → id = googleId := by
    intro id heq
    simpa [heq] using hsame
  by_cases hnone : user.googleId = none
  · rw [if_pos hnone] at h
    obtain ⟨_, havailable, h⟩ := bind_eq_ok.mp h
    cases h
    exact ⟨rfl, user, huser, fun _ => (ensureIdentityIsAvailable_ok havailable).2.1 _ rfl, hid⟩
  · rw [if_neg hnone] at h
    cases h
    exact ⟨rfl, user, huser, fun h => absurd h hnone, hid⟩

structure MergesInto (s t : AccountTables) (guestUserId targetUserId : Uuid)
    (google : Option GoogleIdentity) (ids : MergeIds) (now : Time) : Prop where
  ne : guestUserId ≠ targetUserId
  guest : ∃ guest, s.account guestUserId = some guest ∧ CanLink guest
  target : ∃ target, s.account targetUserId = some target ∧ target.accountType = .full ∧
    target.status = .active ∧ ∀ identity, google = some identity →
      (∀ id, target.googleId = some id → id = identity.googleId) ∧
      (target.googleId = none → s.getByGoogleId identity.googleId = none)
  accounts_eq : t.accounts = ((s.accounts.map (mergedRow targetUserId google now)).filter
    fun row => row.id ≠ guestUserId).map (Account.withSaveCollectionOf t.content)
  mergeLogs_eq : t.mergeLogs = s.mergeLogs ++
    [{ id := ids.logId, guestAccountId := guestUserId, targetAccountId := targetUserId
       createdAt := now }]
  linkCodes_eq : t.linkCodes = s.linkCodes

variable {google : Option GoogleIdentity} {guestUserId targetUserId : Uuid} {ids : MergeIds}

theorem mergeGuestIntoFull_ok
    (h : mergeGuestIntoFull s guestUserId targetUserId google ids now = .ok t) :
    MergesInto s t guestUserId targetUserId google ids now := by
  simp only [mergeGuestIntoFull, guard_eq_ok, bind_eq_ok, lockRequiredUser_ok,
    ensureGuestCanLink_ok, ensureCanonicalTarget_ok, pure_eq_ok] at h
  obtain ⟨hne, guest, hguest, target, htarget, _, hlink, _, ⟨htype, hstatus⟩, favorites, -, attached,
    hattached, handedOver, -, library, -, rfl⟩ := h
  obtain ⟨-, rfl⟩ := account_eq_some hguest
  obtain ⟨-, rfl⟩ := account_eq_some htarget
  have haccounts : attached.accounts = s.accounts.map (mergedRow target.id google now) ∧
      ∀ identity, google = some identity →
        (∀ id, target.googleId = some id → id = identity.googleId) ∧
        (target.googleId = none → s.getByGoogleId identity.googleId = none) := by
    cases google with
    | none =>
      cases hattached
      exact ⟨(List.map_id _).symm, fun _ h => nomatch h⟩
    | some identity =>
      simp only [attachMergedIdentity] at hattached
      obtain ⟨heq, user, huser, hfree, hsame⟩ := attachGoogleSubject_ok hattached
      rw [htarget, Option.some.injEq] at huser
      subst huser
      exact ⟨heq, by rintro _ ⟨⟩; exact ⟨hsame, hfree⟩⟩
  exact
    { ne := hne
      guest := ⟨guest, hguest, hlink⟩
      target := ⟨target, htarget, htype, hstatus, haccounts.2⟩
      accounts_eq := by rw [← haccounts.1]
      mergeLogs_eq := rfl
      linkCodes_eq := rfl }

theorem mergedRow_id (targetUserId : Uuid) (google : Option GoogleIdentity) (now : Time)
    (row : Account) : (mergedRow targetUserId google now row).id = row.id := by
  unfold mergedRow
  split
  · rfl
  split
  · rfl
  · rfl

/-- A guest that was merged is gone; every other account keeps its row up to the attached
identity and the active collection. -/
theorem MergesInto.account_eq (h : MergesInto s t guestUserId targetUserId google ids now)
    (otherId : Uuid) : t.account otherId = if otherId = guestUserId then none else
      (s.account otherId).map fun row =>
        (mergedRow targetUserId google now row).withSaveCollectionOf t.content := by
  have hid : ∀ row, ((mergedRow targetUserId google now row).withSaveCollectionOf t.content).id =
      row.id := mergedRow_id targetUserId google now
  simp only [AccountTables.account]
  rw [h.accounts_eq]
  induction s.accounts with
  | nil =>
    split
    · rfl
    · rfl
  | cons row rest ih =>
    rw [List.map_cons, List.filter_cons]
    by_cases hguest : row.id = guestUserId
    · rw [if_neg (by simp [mergedRow_id, hguest]), ih, List.find?_cons]
      by_cases hother : otherId = guestUserId
      · simp [hother]
      · simp [hother, hguest, Ne.symm hother]
    rw [if_pos (by simp [mergedRow_id, hguest]), List.map_cons, List.find?_cons, List.find?_cons,
      ih, hid]
    by_cases hother : row.id = otherId
    · subst hother
      simp [hguest]
    · simp [hother]

theorem account_createGuestUser (now lifetime : Time) (otherId : Uuid) :
    (createGuestUser s userId now lifetime).account otherId = (s.account otherId).or
      (if userId = otherId then
        some { id := userId, guestExpiresAt := some (now + lifetime), updatedAt := now }
      else none) := by
  simp only [AccountTables.account, createGuestUser, List.find?_append, List.find?_cons,
    List.find?_nil]
  by_cases h : userId = otherId <;> simp [h]

end Specs

def Kept (s t : AccountTables) (userId : Uuid) : Prop :=
  (s.account userId).elim (t.account userId = none) fun before =>
    ∃ after, t.account userId = some after ∧ before.tokenNonce ≤ after.tokenNonce ∧
      (before.accountType = .full → after.accountType = .full)

theorem Kept.of_map {s t : AccountTables} {userId : Uuid} (write : Account → Account)
    (h : t.account userId = (s.account userId).map write)
    (hnonce : ∀ row, row.tokenNonce ≤ (write row).tokenNonce)
    (hfull : ∀ row, row.accountType = .full → (write row).accountType = .full) :
    Kept s t userId := by
  unfold Kept
  cases hbefore : s.account userId with
  | none => rw [Option.elim_none, h, hbefore, Option.map_none]
  | some before =>
    rw [Option.elim_some, h, hbefore, Option.map_some]
    exact ⟨_, rfl, hnonce before, hfull before⟩

theorem Kept.of_eq {s t : AccountTables} {userId : Uuid} (h : t.account userId = s.account userId) :
    Kept s t userId :=
  Kept.of_map id (by rw [h, Option.map_id_fun, id]) (fun _ => le_rfl) fun _ => id

theorem Kept.updateAccount {s : AccountTables} (userId : Uuid) {write : Account → Account}
    (hid : ∀ row, (write row).id = row.id) (hnonce : ∀ row, row.tokenNonce ≤ (write row).tokenNonce)
    (hfull : ∀ row, row.accountType = .full → (write row).accountType = .full) (otherId : Uuid) :
    Kept s (s.updateAccount userId write) otherId := by
  by_cases h : otherId = userId
  · exact Kept.of_map write (by rw [account_updateAccount write hid, if_pos h]) hnonce hfull
  · exact Kept.of_eq (by rw [account_updateAccount write hid, if_neg h])

theorem Kept.of_some {s t : AccountTables} {userId : Uuid} (h : Kept s t userId) {before : Account}
    (hbefore : s.account userId = some before) : ∃ after, t.account userId = some after ∧
      before.tokenNonce ≤ after.tokenNonce ∧
      (before.accountType = .full → after.accountType = .full) := by
  rwa [Kept, hbefore, Option.elim_some] at h

theorem Kept.of_none {s t : AccountTables} {userId : Uuid} (h : Kept s t userId)
    (hbefore : s.account userId = none) : t.account userId = none := by
  rwa [Kept, hbefore, Option.elim_none] at h

theorem Kept.account {s t : AccountTables} {userId : Uuid} (h : Kept s t userId) {user : Account}
    (huser : t.account userId = some user) :
    ∃ before, s.account userId = some before ∧ before.tokenNonce ≤ user.tokenNonce := by
  cases hbefore : s.account userId with
  | none =>
    rw [h.of_none hbefore] at huser
    cases huser
  | some before =>
    obtain ⟨after, hafter, hnonce, -⟩ := h.of_some hbefore
    rw [hafter, Option.some.injEq] at huser
    exact ⟨before, rfl, huser ▸ hnonce⟩

variable {google : Option GoogleIdentity} {now : Time} {targetUserId : Uuid}

theorem accountType_mergedRow {row : Account} (h : row.accountType = .full) :
    (mergedRow targetUserId google now row).accountType = .full := by
  unfold mergedRow
  split
  · exact h
  split
  · rw [accountType_eq_full_iff]
    simp [Account.hasLinkedLoginIdentity]
  · exact h

theorem tokenNonce_mergedRow (targetUserId : Uuid) (google : Option GoogleIdentity) (now : Time)
    (row : Account) : (mergedRow targetUserId google now row).tokenNonce = row.tokenNonce := by
  unfold mergedRow
  split
  · rfl
  split
  · rfl
  · rfl

variable {guestUserId : Uuid} {ids : MergeIds}

theorem MergesInto.kept {s t : AccountTables}
    (h : MergesInto s t guestUserId targetUserId google ids now) :
    t.account guestUserId = none ∧ ∀ userId, userId ≠ guestUserId → Kept s t userId := by
  refine ⟨by rw [h.account_eq, if_pos rfl], ?_⟩
  intro userId hne
  refine Kept.of_map _ (by rw [h.account_eq, if_neg hne]) ?_ ?_
  · intro row
    exact (tokenNonce_mergedRow targetUserId google now row).ge
  · intro row hrow
    exact accountType_mergedRow hrow

variable {identity : UpgradeIdentity}

theorem kept_upgradeGuestInPlace {s t : AccountTables}
    (h : upgradeGuestInPlace s guestUserId identity now = .ok t) (userId : Uuid) :
    Kept s t userId := by
  obtain ⟨rfl, -, hany, -⟩ := upgradeGuestInPlace_ok h
  have hkept : ∀ otherId, Kept s (s.updateAccount guestUserId (upgradedRow identity now)) otherId :=
    Kept.updateAccount guestUserId (fun _ => rfl) (fun _ => le_rfl)
      fun _ _ => accountType_upgradedRow hany
  exact hkept userId

theorem kept_createGuestUser {s : AccountTables} {userId : Uuid} (now lifetime : Time)
    {otherId : Uuid} (hne : otherId ≠ userId) :
    Kept s (createGuestUser s userId now lifetime) otherId :=
  Kept.of_eq (by rw [account_createGuestUser, if_neg (Ne.symm hne), Option.or_none])

end MemeExpert.Services
