import Mathlib.Data.List.Pairwise
import Mathlib.Data.List.TakeWhile
import MemeExpert.Lib.Runs
import MemeExpert.Services.Accounts

/-! An address is taken by whoever signs up with it first; nobody has to prove that they
control it. -/

namespace MemeExpert.Services

open Runs

structure Bcrypt where
  hashpw : (password salt : String) → String
  checkpw : (password passwordHash : String) → Bool
  checkpw_hashpw : ∀ password salt, checkpw password (hashpw password salt) = true
  hashpw_not_blank : ∀ password salt, strip (hashpw password salt) ≠ ""

def minPasswordLength : Nat := 8

def maxPasswordLength : Nat := 72

def invalidCredentials : ServiceError := ⟨.invalidCredentials, "Email or password is invalid."⟩

def passwordLoginUnavailable : ServiceError :=
  ⟨.invalidCredentials, "Password login is not available for this account."⟩

def validatePassword (password : String) : Except ServiceError Unit :=
  if strip password = "" ∨ password.length < minPasswordLength ∨
      maxPasswordLength < password.length then .error invalidCredentials
  else .ok ()

inductive GoogleMatch where
  | googleId | verifiedEmail | none
  deriving DecidableEq

structure GoogleIdentityResolution where
  identity : GoogleIdentity
  user : Option Account
  matchedBy : GoogleMatch

/-- `_normalize_google_identity`: an address counts only when Google has verified it. -/
def normalizeGoogleIdentity (googleId : String) (verifiedEmail : Option String) (now : Time) :
    GoogleIdentity where
  googleId := googleId
  email := verifiedEmail
  emailVerifiedAt := verifiedEmail.map fun _ => now

section Resolving

variable (bcrypt : Bcrypt) (s : AccountTables)

def prepareEmailSignupIdentity (email password salt : String) :
    Except ServiceError EmailSignupIdentity := do
  validatePassword password
  pure { email := email, passwordHash := bcrypt.hashpw password salt }

def requireStoredPasswordHash (passwordHash : Option String) : Except ServiceError String :=
  match passwordHash with
  | none => .error passwordLoginUnavailable
  | some stored => if strip stored = "" then .error passwordLoginUnavailable else .ok stored

def resolveEmailLoginUser (email password : String) : Except ServiceError Account := do
  validatePassword password
  match s.getByEmail email with
  | none => throw invalidCredentials
  | some user =>
    let stored ← requireStoredPasswordHash user.passwordHash
    if ¬ bcrypt.checkpw password stored then
      throw invalidCredentials
    ensureAccountIsAvailable user
    pure user

def ensureGoogleReuseIsAllowed (user : Account) : Except ServiceError Unit := do
  ensureAccountIsAvailable user
  if user.telegramId.isSome then
    throw ⟨.emailAlreadyInUse,
      "Verified Google email is already linked to a Telegram-backed account."⟩
  if user.googleId.isSome then
    throw ⟨.emailAlreadyInUse,
      "Verified Google email is already linked to another Google-backed account."⟩

def reusableUser (identity : GoogleIdentity) : Option Account :=
  if identity.emailVerifiedAt.isSome then identity.email.bind s.getByEmail else none

def resolveGoogleIdentity (identity : GoogleIdentity) :
    Except ServiceError GoogleIdentityResolution :=
  match s.getByGoogleId identity.googleId with
  | some user => do
    ensureAccountIsAvailable user
    pure ⟨identity, some user, .googleId⟩
  | none =>
    match reusableUser s identity with
    | some user => do
      ensureGoogleReuseIsAllowed user
      pure ⟨identity, some user, .verifiedEmail⟩
    | none => pure ⟨identity, none, .none⟩

def resolveTelegramIdentityUser (identity : TelegramIdentity) : Option Account :=
  s.getByTelegramId identity.telegramId

variable (guestUserId : Uuid)

def linkGuestWithEmailSignup (email password salt : String) (now : Time) :
    Except ServiceError AccountTables := do
  let identity ← prepareEmailSignupIdentity bcrypt email password salt
  upgradeGuestInPlace s guestUserId identity.toUpgrade now

def linkGuestWithEmailLogin (email password : String) (ids : MergeIds) (now : Time) :
    Except ServiceError AccountTables := do
  let target ← resolveEmailLoginUser bcrypt s email password
  mergeGuestIntoFull s guestUserId target.id none ids now

def mergeIntoResolved (user : Account) (resolution : GoogleIdentityResolution) (ids : MergeIds)
    (now : Time) : Except ServiceError AccountTables :=
  mergeGuestIntoFull s guestUserId user.id
    (if resolution.matchedBy = .verifiedEmail then some resolution.identity else none) ids now

def linkGuestWithGoogleResolution (resolution : GoogleIdentityResolution) (ids : MergeIds)
    (now : Time) : Except ServiceError AccountTables :=
  match resolution.user with
  | none => upgradeGuestInPlace s guestUserId resolution.identity.toUpgrade now
  | some user => mergeIntoResolved s guestUserId user resolution ids now

def linkGuestWithGoogleIdentity (identity : GoogleIdentity) (ids : MergeIds) (now : Time) :
    Except ServiceError (GoogleIdentityResolution × AccountTables) := do
  let resolution ← resolveGoogleIdentity s identity
  match linkGuestWithGoogleResolution s guestUserId resolution ids now with
  | .ok tables => pure (resolution, tables)
  | .error failure =>
    if failure.kind ≠ .duplicateIdentity then
      throw failure
    match resolution.user with
    | none => throw ⟨.providerPayloadInvalid, "Google identity could not be resolved safely."⟩
    | some user => pure (resolution, ← mergeIntoResolved s guestUserId user resolution ids now)

def linkGuestWithTelegramIdentity (identity : TelegramIdentity) (ids : MergeIds) (now : Time) :
    Except ServiceError AccountTables :=
  match resolveTelegramIdentityUser s identity with
  | none => upgradeGuestInPlace s guestUserId identity.toUpgrade now
  | some target => mergeGuestIntoFull s guestUserId target.id none ids now

end Resolving

inductive Credential where
  | password (text : String)
  | google (googleId : String)
  | telegram (telegramId : Nat)

structure Directory (Party : Type) where
  emailOwner : String → Party
  googleOwner : String → Party
  telegramOwner : Nat → Party

/-- A credential that a party set on an account, and a login through Google that was joined to
an account because of the verified address. -/
inductive LoginEvent (Party : Type) where
  | set (party : Party) (userId : Uuid) (credential : Credential)
  | joined (email : String) (userId : Uuid)

structure LoginState (Party : Type) where
  tables : AccountTables := {}
  history : List (LoginEvent Party) := []

/-- The guest of a call: one that exists, or one created in the same transaction. -/
structure Guest where
  userId : Uuid
  bootstrapped : Bool

inductive LoginCall (Party : Type) where
  | createGuest (userId : Uuid) (lifetime now : Time)
  | signup (party : Party) (guest : Guest) (email password salt : String) (lifetime now : Time)
  | login (guest : Guest) (email password : String) (ids : MergeIds) (lifetime now : Time)
  | google (party : Party) (guest : Guest) (googleId : String) (verifiedEmail : Option String)
      (ids : MergeIds) (lifetime now : Time)
  | telegram (party : Party) (guest : Guest) (telegramId : Nat) (ids : MergeIds)
      (lifetime now : Time)

def registerGuest (s : AccountTables) (userId : Uuid) (lifetime now : Time) :
    Option AccountTables :=
  if freshUserId s userId then some (createGuestUser s userId now lifetime) else none

/-- `_resolve_guest_user_id`. -/
def resolveGuest (s : AccountTables) (guest : Guest) (lifetime now : Time) : Option AccountTables :=
  if guest.bootstrapped then registerGuest s guest.userId lifetime now else some s

def googleEvents {Party : Type} (party : Party) (guestUserId : Uuid)
    (resolution : GoogleIdentityResolution) : List (LoginEvent Party) :=
  match resolution.matchedBy, resolution.user, resolution.identity.email with
  | .verifiedEmail, some user, some email =>
    [.set party user.id (.google resolution.identity.googleId), .joined email user.id]
  | .none, _, _ => [.set party guestUserId (.google resolution.identity.googleId)]
  | _, _, _ => []

section Step

variable {Party : Type} [DecidableEq Party] (bcrypt : Bcrypt) (directory : Directory Party)

/-- Only its owner presents a Google subject, a verified address or a Telegram id. A call that
raises leaves everything as it was. -/
def loginStep (s : LoginState Party) : LoginCall Party → Option (LoginState Party)
  | .createGuest userId lifetime now => do
    let tables ← registerGuest s.tables userId lifetime now
    pure { s with tables := tables }
  | .signup party guest email password salt lifetime now => do
    let prepared ← resolveGuest s.tables guest lifetime now
    let tables ←
      (linkGuestWithEmailSignup bcrypt prepared guest.userId email password salt now).toOption
    pure { tables := tables, history := .set party guest.userId (.password password) :: s.history }
  | .login guest email password ids lifetime now => do
    let prepared ← resolveGuest s.tables guest lifetime now
    let tables ←
      (linkGuestWithEmailLogin bcrypt prepared guest.userId email password ids now).toOption
    pure { s with tables := tables }
  | .google party guest googleId verifiedEmail ids lifetime now => do
    guard (directory.googleOwner googleId = party ∧
      ∀ email ∈ verifiedEmail, directory.emailOwner email = party)
    let prepared ← resolveGuest s.tables guest lifetime now
    let (resolution, tables) ← (linkGuestWithGoogleIdentity prepared guest.userId
      (normalizeGoogleIdentity googleId verifiedEmail now) ids now).toOption
    pure { tables := tables, history := googleEvents party guest.userId resolution ++ s.history }
  | .telegram party guest telegramId ids lifetime now => do
    guard (directory.telegramOwner telegramId = party)
    let prepared ← resolveGuest s.tables guest lifetime now
    let tables ← (linkGuestWithTelegramIdentity prepared guest.userId ⟨telegramId⟩ ids now).toOption
    pure
      { tables := tables
        history := if (prepared.getByTelegramId telegramId).isSome then s.history
          else .set party guest.userId (.telegram telegramId) :: s.history }

def Authenticates (s : AccountTables) (userId : Uuid) : Credential → Prop
  | .password text => ∃ email user, resolveEmailLoginUser bcrypt s email text = .ok user ∧
      user.id = userId
  | .google googleId => ∃ user, s.getByGoogleId googleId = some user ∧ user.id = userId
  | .telegram telegramId => ∃ user, resolveTelegramIdentityUser s ⟨telegramId⟩ = some user ∧
      user.id = userId

/-- Since the controller of an address was joined to an account through it, nothing that
another party had set on the account signs in to it. -/
def NoTakeover (s : LoginState Party) : Prop :=
  ∀ email userId earlier, (.joined email userId :: earlier) <:+ s.history →
    ∀ party credential, .set party userId credential ∈ earlier →
      party ≠ directory.emailOwner email → ¬ Authenticates bcrypt s.tables userId credential

end Step

open Results

section Specs

variable {bcrypt : Bcrypt} {s t : AccountTables} {guestUserId : Uuid}

variable {email : String} {user : Account}

theorem resolveEmailLoginUser_ok {password : String} :
    resolveEmailLoginUser bcrypt s email password = .ok user ↔
      validatePassword password = .ok () ∧ s.getByEmail email = some user ∧
        ∃ stored, user.passwordHash = some stored ∧ strip stored ≠ "" ∧
          bcrypt.checkpw password stored = true ∧ user.status = .active := by
  simp only [resolveEmailLoginUser, bind_eq_ok]
  constructor
  · rintro ⟨_, hvalid, h⟩
    split at h
    · cases h
    next found hfound =>
    simp only [bind_eq_ok, guard_eq_ok, ensureAccountIsAvailable_ok, pure_eq_ok] at h
    obtain ⟨stored, hstored, hcheck, _, hstatus, rfl⟩ := h
    refine ⟨hvalid, hfound, stored, ?_⟩
    unfold requireStoredPasswordHash at hstored
    split at hstored
    · cases hstored
    next hhash =>
    split at hstored
    · cases hstored
    next hblank =>
    cases hstored
    exact ⟨hhash, hblank, not_not.mp hcheck, hstatus⟩
  · rintro ⟨hvalid, hfound, stored, hhash, hblank, hcheck, hstatus⟩
    refine ⟨(), hvalid, ?_⟩
    rw [hfound]
    simp only [bind_eq_ok, guard_eq_ok, ensureAccountIsAvailable_ok, pure_eq_ok]
    refine ⟨stored, ?_, not_not.mpr hcheck, (), hstatus, trivial⟩
    rw [hhash, requireStoredPasswordHash, if_neg hblank]

theorem ensureGoogleReuseIsAllowed_ok {u : Unit}
    (h : ensureGoogleReuseIsAllowed user = .ok u) :
    user.telegramId = none ∧ user.googleId = none := by
  simp only [ensureGoogleReuseIsAllowed, bind_eq_ok] at h
  obtain ⟨_, -, h⟩ := h
  split at h
  · cases h
  next htelegram =>
  split at h
  · cases h
  · next hgoogle => exact ⟨by simpa using htelegram, by simpa using hgoogle⟩

inductive ResolvesGoogle (s : AccountTables) (identity : GoogleIdentity) :
    GoogleIdentityResolution → Prop where
  | subject (user : Account) (huser : s.getByGoogleId identity.googleId = some user) :
      ResolvesGoogle s identity ⟨identity, some user, .googleId⟩
  | email (user : Account) (hsubject : s.getByGoogleId identity.googleId = none)
      (huser : reusableUser s identity = some user) (htelegram : user.telegramId = none)
      (hgoogle : user.googleId = none) :
      ResolvesGoogle s identity ⟨identity, some user, .verifiedEmail⟩
  | nobody (hsubject : s.getByGoogleId identity.googleId = none)
      (huser : reusableUser s identity = none) : ResolvesGoogle s identity ⟨identity, none, .none⟩

variable {identity : GoogleIdentity} {resolution : GoogleIdentityResolution}

theorem resolveGoogleIdentity_ok (h : resolveGoogleIdentity s identity = .ok resolution) :
    ResolvesGoogle s identity resolution := by
  unfold resolveGoogleIdentity at h
  split at h
  · next user huser =>
    simp only [bind_eq_ok, pure_eq_ok] at h
    obtain ⟨_, -, rfl⟩ := h
    exact .subject user huser
  next hsubject =>
  split at h
  · next user huser =>
    simp only [bind_eq_ok, pure_eq_ok] at h
    obtain ⟨_, hallowed, rfl⟩ := h
    obtain ⟨htelegram, hgoogle⟩ := ensureGoogleReuseIsAllowed_ok hallowed
    exact .email user hsubject huser htelegram hgoogle
  · next huser =>
    cases h
    exact .nobody hsubject huser

variable {ids : MergeIds} {now : Time}

theorem linkGuestWithGoogleIdentity_ok
    (h : linkGuestWithGoogleIdentity s guestUserId identity ids now = .ok (resolution, t)) :
    ResolvesGoogle s identity resolution ∧
      linkGuestWithGoogleResolution s guestUserId resolution ids now = .ok t := by
  simp only [linkGuestWithGoogleIdentity, bind_eq_ok] at h
  obtain ⟨found, hfound, h⟩ := h
  have hresolves := resolveGoogleIdentity_ok hfound
  split at h
  · next tables htables =>
    cases h
    exact ⟨hresolves, htables⟩
  next failure hfailure =>
  split at h
  · cases h
  split at h
  · cases h
  next user huser =>
  simp only [bind_eq_ok, pure_eq_ok] at h
  obtain ⟨tables, htables, heq⟩ := h
  cases heq
  refine ⟨hresolves, ?_⟩
  rw [linkGuestWithGoogleResolution, huser]
  exact htables

theorem getByEmail_eq_some (h : s.getByEmail email = some user) :
    user ∈ s.accounts ∧ user.email = some email :=
  ⟨List.mem_of_find?_eq_some h, by simpa using List.find?_some h⟩

variable {googleId : String}

theorem getByGoogleId_eq_some (h : s.getByGoogleId googleId = some user) :
    user ∈ s.accounts ∧ user.googleId = some googleId :=
  ⟨List.mem_of_find?_eq_some h, by simpa using List.find?_some h⟩

theorem getByTelegramId_eq_some {telegramId : Nat}
    (h : s.getByTelegramId telegramId = some user) :
    user ∈ s.accounts ∧ user.telegramId = some telegramId :=
  ⟨List.mem_of_find?_eq_some h, by simpa using List.find?_some h⟩

theorem getBy_createGuestUser (userId : Uuid) (now lifetime : Time) :
    (∀ email, (createGuestUser s userId now lifetime).getByEmail email = s.getByEmail email) ∧
    (∀ googleId,
      (createGuestUser s userId now lifetime).getByGoogleId googleId = s.getByGoogleId googleId) ∧
    ∀ telegramId, (createGuestUser s userId now lifetime).getByTelegramId telegramId =
      s.getByTelegramId telegramId := by
  simp [createGuestUser, AccountTables.getByEmail, AccountTables.getByGoogleId,
    AccountTables.getByTelegramId, List.find?_append]

end Specs

def Distinct (a b : Account) : Prop :=
  a.id ≠ b.id ∧ ∀ email, a.email = some email → b.email ≠ some email

instance : Std.Symm Distinct where
  symm := by
    rintro a b ⟨hid, hemail⟩
    exact ⟨hid.symm, fun email hb ha => hemail email ha hb⟩

section Keyed

variable {s : AccountTables} (h : s.accounts.Pairwise Distinct) {a : Account} (ha : a ∈ s.accounts)

include h ha

theorem account_of_mem : s.account a.id = some a := by
  cases hfound : s.account a.id with
  | none => exact absurd rfl (account_eq_none_iff.mp hfound a ha)
  | some b =>
    obtain ⟨hb, hid⟩ := account_eq_some hfound
    by_contra hne
    exact (h.forall hb ha fun heq => hne (heq ▸ rfl)).1 hid

variable {email : String}

theorem getByEmail_of_mem (hemail : a.email = some email) : s.getByEmail email = some a := by
  cases hfound : s.getByEmail email with
  | none =>
    have hnone := List.find?_eq_none.mp hfound a ha
    simp [hemail] at hnone
  | some b =>
    obtain ⟨hb, hbemail⟩ := getByEmail_eq_some hfound
    by_contra hne
    exact (h.forall hb ha fun heq => hne (heq ▸ rfl)).2 email hbemail hemail

end Keyed

/-- The row keeps what signs in to it; a Google subject may be added. -/
structure SameSignIn (a b : Account) : Prop where
  status_eq : b.status = a.status
  email_eq : b.email = a.email
  passwordHash_eq : b.passwordHash = a.passwordHash
  telegramId_eq : b.telegramId = a.telegramId
  googleId_kept : ∀ googleId, a.googleId = some googleId → b.googleId = some googleId

def KeepsFull (s t : AccountTables) : Prop :=
  ∀ userId a, s.account userId = some a → a.accountType = .full →
    ∃ b, t.account userId = some b ∧ SameSignIn a b

theorem SameSignIn.refl (a : Account) : SameSignIn a a := ⟨rfl, rfl, rfl, rfl, fun _ => id⟩

theorem SameSignIn.accountType_eq {a b : Account} (h : SameSignIn a b)
    (ha : a.accountType = .full) : b.accountType = .full := by
  rw [accountType_eq_full_iff] at ha ⊢
  simp only [Account.hasLinkedLoginIdentity, h.telegramId_eq, h.email_eq, h.passwordHash_eq,
    Bool.or_eq_true] at ha ⊢
  rcases ha with ((htelegram | hgoogle) | hemail) | hpassword
  · exact .inl (.inl (.inl htelegram))
  · obtain ⟨googleId, hgoogleId⟩ := Option.isSome_iff_exists.mp hgoogle
    exact .inl (.inl (.inr (by rw [h.googleId_kept googleId hgoogleId]; rfl)))
  · exact .inl (.inr hemail)
  · exact .inr hpassword

theorem SameSignIn.trans {a b c : Account} (hab : SameSignIn a b) (hbc : SameSignIn b c) :
    SameSignIn a c where
  status_eq := hbc.status_eq.trans hab.status_eq
  email_eq := hbc.email_eq.trans hab.email_eq
  passwordHash_eq := hbc.passwordHash_eq.trans hab.passwordHash_eq
  telegramId_eq := hbc.telegramId_eq.trans hab.telegramId_eq
  googleId_kept googleId h := hbc.googleId_kept googleId (hab.googleId_kept googleId h)

theorem KeepsFull.refl (s : AccountTables) : KeepsFull s s := fun _ a ha _ => ⟨a, ha, .refl a⟩

theorem KeepsFull.trans {s t u : AccountTables} (hst : KeepsFull s t) (htu : KeepsFull t u) :
    KeepsFull s u := by
  intro userId a ha hfull
  obtain ⟨b, hb, hab⟩ := hst userId a ha hfull
  obtain ⟨c, hc, hbc⟩ := htu userId b hb (hab.accountType_eq hfull)
  exact ⟨c, hc, hab.trans hbc⟩

/-- What every flow does to the rows: full accounts keep their credentials, keys stay unique. -/
structure GoodRows (s t : AccountTables) : Prop where
  keeps : KeepsFull s t
  distinct : s.accounts.Pairwise Distinct → t.accounts.Pairwise Distinct

theorem GoodRows.refl (s : AccountTables) : GoodRows s s := ⟨.refl s, id⟩

theorem GoodRows.trans {s t u : AccountTables} (hst : GoodRows s t) (htu : GoodRows t u) :
    GoodRows s u :=
  ⟨hst.keeps.trans htu.keeps, fun h => htu.distinct (hst.distinct h)⟩

section Rows

variable {s t : AccountTables} {guestUserId : Uuid}

variable {lifetime now : Time}

theorem goodRows_createGuestUser (hfresh : freshUserId s guestUserId = true) :
    GoodRows s (createGuestUser s guestUserId now lifetime) where
  keeps userId a ha _ := ⟨a, by rw [account_createGuestUser, ha, Option.some_or], .refl a⟩
  distinct h := by
    simp only [freshUserId, Bool.and_eq_true, Option.isNone_iff_eq_none] at hfresh
    refine List.pairwise_append.mpr ⟨h, List.pairwise_singleton .., ?_⟩
    intro a ha b hb
    rw [List.mem_singleton.mp hb]
    exact ⟨account_eq_none_iff.mp hfresh.1 a ha, by simp⟩

variable {guest : Guest}

theorem goodRows_resolveGuest (h : resolveGuest s guest lifetime now = some t) :
    GoodRows s t ∧ (∀ email, t.getByEmail email = s.getByEmail email) ∧
      (∀ googleId, t.getByGoogleId googleId = s.getByGoogleId googleId) ∧
      ∀ telegramId, t.getByTelegramId telegramId = s.getByTelegramId telegramId := by
  unfold resolveGuest at h
  split at h
  · obtain ⟨hfresh, heq⟩ := Option.ite_none_right_eq_some.mp h
    cases heq
    exact ⟨goodRows_createGuestUser hfresh, getBy_createGuestUser guest.userId now lifetime⟩
  · cases h
    exact ⟨.refl s, fun _ => rfl, fun _ => rfl, fun _ => rfl⟩

theorem goodRows_upgrade {identity : UpgradeIdentity}
    (h : upgradeGuestInPlace s guestUserId identity now = .ok t) : GoodRows s t := by
  obtain ⟨rfl, ⟨guest, hguest, hlink⟩, -, -, havailable⟩ := upgradeGuestInPlace_ok h
  constructor
  · intro userId a ha hfull
    have hne : userId ≠ guestUserId := by
      rintro rfl
      rw [hguest, Option.some.injEq] at ha
      rw [← ha, hlink.accountType_eq] at hfull
      cases hfull
    exact ⟨a, by rw [account_updateAccount (upgradedRow identity now) fun _ => rfl, if_neg hne, ha],
      .refl a⟩
  intro hdistinct
  refine List.pairwise_map.mpr (hdistinct.imp_of_mem ?_)
  rintro a b ha hb ⟨hid, hemail⟩
  have hfree : ∀ row ∈ s.accounts, ∀ email, identity.email = some email →
      row.email ≠ some email := by
    intro row hrow email heq hrowEmail
    have hnone := List.find?_eq_none.mp (havailable.2.2 email heq) row hrow
    simp [hrowEmail] at hnone
  have hupgraded : ∀ row : Account, row ∈ s.accounts → row.id = guestUserId →
      (upgradedRow identity now row).email = identity.email := by
    intro row hrow hrowId
    have haccount := account_of_mem hdistinct hrow
    rw [hrowId, hguest, Option.some.injEq] at haccount
    cases hidentity : identity.email with
    | none => simp [upgradedRow, hidentity, ← haccount, hlink.email_eq]
    | some email => simp [upgradedRow, hidentity]
  by_cases haid : a.id = guestUserId
  · have hbid : b.id ≠ guestUserId := fun heq => hid (haid.trans heq.symm)
    rw [if_pos haid, if_neg hbid]
    refine ⟨hid, ?_⟩
    intro email heq
    rw [hupgraded a ha haid] at heq
    exact hfree b hb email heq
  rw [if_neg haid]
  by_cases hbid : b.id = guestUserId
  · rw [if_pos hbid]
    refine ⟨hid, ?_⟩
    intro email heq hbemail
    rw [hupgraded b hb hbid] at hbemail
    exact hfree a ha email hbemail heq
  · rw [if_neg hbid]
    exact ⟨hid, hemail⟩

theorem mergedRow_email (targetUserId : Uuid) (google : Option GoogleIdentity) (now : Time)
    (row : Account) : (mergedRow targetUserId google now row).email = row.email := by
  unfold mergedRow
  split
  · rfl
  split
  · rfl
  · rfl

variable {ids : MergeIds}

theorem goodRows_merge {targetUserId : Uuid} {google : Option GoogleIdentity}
    (h : MergesInto s t guestUserId targetUserId google ids now) : GoodRows s t := by
  constructor
  · intro userId a ha hfull
    obtain ⟨guest, hguest, hlink⟩ := h.guest
    have hne : userId ≠ guestUserId := by
      rintro rfl
      rw [hguest, Option.some.injEq] at ha
      rw [← ha, hlink.accountType_eq] at hfull
      cases hfull
    refine ⟨_, by rw [h.account_eq, if_neg hne, ha, Option.map_some], ?_⟩
    obtain ⟨-, hid⟩ := account_eq_some ha
    unfold mergedRow
    split
    · exact ⟨rfl, rfl, rfl, rfl, fun _ => id⟩
    next identity =>
    split
    · next htarget =>
      refine ⟨rfl, rfl, rfl, rfl, ?_⟩
      intro googleId hgoogleId
      obtain ⟨target, hfound, -, -, hattach⟩ := h.target
      rw [← htarget, hid, ha, Option.some.injEq] at hfound
      rw [(hattach identity rfl).1 googleId (hfound ▸ hgoogleId)]
      rfl
    · exact ⟨rfl, rfl, rfl, rfl, fun _ => id⟩
  · intro hdistinct
    rw [h.accounts_eq]
    refine List.pairwise_map.mpr (List.Pairwise.filter _ (List.pairwise_map.mpr ?_))
    refine hdistinct.imp ?_
    rintro a b ⟨hid, hemail⟩
    refine ⟨?_, ?_⟩
    · rw [Account.withSaveCollectionOf, Account.withSaveCollectionOf, mergedRow_id, mergedRow_id]
      exact hid
    intro email
    rw [Account.withSaveCollectionOf, Account.withSaveCollectionOf, mergedRow_email,
      mergedRow_email]
    exact hemail email

end Rows

section Effects

variable {Party : Type} {bcrypt : Bcrypt} {directory : Directory Party}
  {s t : LoginState Party}

def HasPassword (bcrypt : Bcrypt) (s : AccountTables) (userId : Uuid) (text : String) : Prop :=
  validatePassword text = .ok () ∧ ∃ a email stored, s.account userId = some a ∧
    a.status = .active ∧ a.email = some email ∧ a.passwordHash = some stored ∧
    strip stored ≠ "" ∧ bcrypt.checkpw text stored = true

def HasGoogleOnly (directory : Directory Party) (s : AccountTables) (userId : Uuid)
    (party : Party) : Prop :=
  ∃ a googleId, s.account userId = some a ∧ a.telegramId = none ∧ a.googleId = some googleId ∧
    directory.googleOwner googleId = party

inductive LoginEffect (bcrypt : Bcrypt) (directory : Directory Party) (s t : LoginState Party) :
    LoginCall Party → Prop where
  | kept (call : LoginCall Party) (hhistory : t.history = s.history) :
      LoginEffect bcrypt directory s t call
  | signedUp (call : LoginCall Party) (party : Party) (userId : Uuid) (text : String)
      (haccount : HasPassword bcrypt t.tables userId text)
      (hhistory : t.history = .set party userId (.password text) :: s.history) :
      LoginEffect bcrypt directory s t call
  | googleSet (call : LoginCall Party) (party : Party) (userId : Uuid) (googleId : String)
      (howner : directory.googleOwner googleId = party)
      (hhistory : t.history = .set party userId (.google googleId) :: s.history) :
      LoginEffect bcrypt directory s t call
  | joined (party : Party) (guest : Guest) (googleId email : String) (ids : MergeIds)
      (lifetime now : Time) (user : Account)
      (hsubject : s.tables.getByGoogleId googleId = none)
      (huser : s.tables.getByEmail email = some user)
      (hgoogleOwner : directory.googleOwner googleId = party)
      (hemailOwner : directory.emailOwner email = party)
      (haccount : HasGoogleOnly directory t.tables user.id party)
      (hhistory : t.history =
        .set party user.id (.google googleId) :: .joined email user.id :: s.history) :
      LoginEffect bcrypt directory s t
        (.google party guest googleId (some email) ids lifetime now)
  | telegramSet (call : LoginCall Party) (party : Party) (userId : Uuid) (telegramId : Nat)
      (hhistory : t.history = .set party userId (.telegram telegramId) :: s.history) :
      LoginEffect bcrypt directory s t call

variable {googleId : String} {guest : Guest} {ids : MergeIds} {lifetime now : Time}

theorem google_ok [DecidableEq Party] {party : Party}
    {verifiedEmail : Option String}
    (h : loginStep bcrypt directory s
      (.google party guest googleId verifiedEmail ids lifetime now) = some t) :
    directory.googleOwner googleId = party ∧
      (∀ email ∈ verifiedEmail, directory.emailOwner email = party) ∧ ∃ prepared resolution,
        resolveGuest s.tables guest lifetime now = some prepared ∧
        ResolvesGoogle prepared (normalizeGoogleIdentity googleId verifiedEmail now) resolution ∧
        linkGuestWithGoogleResolution prepared guest.userId resolution ids now = .ok t.tables ∧
        t.history = googleEvents party guest.userId resolution ++ s.history := by
  obtain ⟨_, hguard, h⟩ := Option.bind_eq_some_iff.mp h
  obtain ⟨prepared, hprepared, h⟩ := Option.bind_eq_some_iff.mp h
  obtain ⟨⟨resolution, tables⟩, hlink, h⟩ := Option.bind_eq_some_iff.mp h
  cases h
  obtain ⟨howner, hemail⟩ := (Option.guard_eq_some' _).mp hguard
  obtain ⟨hresolves, htables⟩ := linkGuestWithGoogleIdentity_ok (toOption_eq_some.mp hlink)
  exact ⟨howner, hemail, prepared, resolution, hprepared, hresolves, htables, rfl⟩

variable {resolution : GoogleIdentityResolution}

theorem goodRows_googleResolution {s t : AccountTables} {guestUserId : Uuid}
    (h : linkGuestWithGoogleResolution s guestUserId resolution ids now = .ok t) :
    GoodRows s t := by
  unfold linkGuestWithGoogleResolution at h
  split at h
  · exact goodRows_upgrade h
  · exact goodRows_merge (mergeGuestIntoFull_ok h)

variable {identity : GoogleIdentity} {user : Account}

theorem mergeIntoResolved_account {s t : AccountTables} {guestUserId : Uuid}
    (htelegram : user.telegramId = none) (huser : s.account user.id = some user)
    (h : mergeIntoResolved s guestUserId user ⟨identity, some user, .verifiedEmail⟩ ids now =
      .ok t) :
    ∃ a, t.account user.id = some a ∧ a.telegramId = none ∧
      a.googleId = some identity.googleId := by
  have hmerges := mergeGuestIntoFull_ok h
  refine ⟨_, by rw [hmerges.account_eq, if_neg hmerges.ne.symm, huser, Option.map_some], ?_, ?_⟩
  · simp [Account.withSaveCollectionOf, mergedRow, htelegram]
  · simp [Account.withSaveCollectionOf, mergedRow]

theorem google_effect [DecidableEq Party] (hdistinct : s.tables.accounts.Pairwise Distinct)
    {party : Party} {verifiedEmail : Option String}
    (h : loginStep bcrypt directory s
      (.google party guest googleId verifiedEmail ids lifetime now) = some t) :
    GoodRows s.tables t.tables ∧ LoginEffect bcrypt directory s t
      (.google party guest googleId verifiedEmail ids lifetime now) := by
  obtain ⟨howner, hemail, prepared, resolution, hprepared, hresolves, htables, hhistory⟩ :=
    google_ok h
  obtain ⟨hrows, hbyEmail, hbyGoogle, -⟩ := goodRows_resolveGuest hprepared
  refine ⟨hrows.trans (goodRows_googleResolution htables), ?_⟩
  cases hresolves with
  | subject user huser => exact .kept _ hhistory
  | email user hsubject huser htelegram hgoogle =>
    cases verifiedEmail with
    | none => cases huser
    | some email =>
      replace huser : prepared.getByEmail email = some user := huser
      have haccount := account_of_mem (hrows.distinct hdistinct) (getByEmail_eq_some huser).1
      obtain ⟨a, ha, haTelegram, haGoogle⟩ := mergeIntoResolved_account htelegram haccount htables
      exact .joined party guest googleId email ids lifetime now user
        (by rw [← hbyGoogle]; exact hsubject) (by rw [← hbyEmail]; exact huser) howner
        (hemail email rfl) ⟨a, googleId, ha, haTelegram, haGoogle, howner⟩ hhistory
  | nobody hsubject huser => exact .googleSet _ party guest.userId googleId howner hhistory

variable {email : String}

theorem signup_effect [DecidableEq Party] {party : Party}
    {password salt : String}
    (h : loginStep bcrypt directory s (.signup party guest email password salt lifetime now) =
      some t) :
    GoodRows s.tables t.tables ∧ LoginEffect bcrypt directory s t
      (.signup party guest email password salt lifetime now) := by
  obtain ⟨prepared, hprepared, h⟩ := Option.bind_eq_some_iff.mp h
  obtain ⟨tables, hlink, h⟩ := Option.bind_eq_some_iff.mp h
  cases h
  obtain ⟨hrows, -⟩ := goodRows_resolveGuest hprepared
  simp only [toOption_eq_some, linkGuestWithEmailSignup, prepareEmailSignupIdentity, bind_eq_ok,
    pure_eq_ok] at hlink
  obtain ⟨_, ⟨_, hvalid, rfl⟩, hupgrade⟩ := hlink
  refine ⟨hrows.trans (goodRows_upgrade hupgrade),
    .signedUp _ party guest.userId password ⟨hvalid, ?_⟩ rfl⟩
  obtain ⟨rfl, ⟨row, hrow, hlinkable⟩, -⟩ := upgradeGuestInPlace_ok hupgrade
  let identity : EmailSignupIdentity :=
    { email := email, passwordHash := bcrypt.hashpw password salt }
  refine ⟨upgradedRow identity.toUpgrade now row, email, bcrypt.hashpw password salt,
    ?_, ?_, ?_, ?_, bcrypt.hashpw_not_blank password salt, bcrypt.checkpw_hashpw password salt⟩
  · exact (account_updateAccount (upgradedRow identity.toUpgrade now) (fun _ => rfl)
      guest.userId).trans (by rw [if_pos rfl, hrow, Option.map_some])
  · exact hlinkable.status_eq
  · rfl
  · rfl

theorem loginStep_effect [DecidableEq Party] (hdistinct : s.tables.accounts.Pairwise Distinct)
    {call : LoginCall Party} (h : loginStep bcrypt directory s call = some t) :
    GoodRows s.tables t.tables ∧ LoginEffect bcrypt directory s t call := by
  cases call with
  | createGuest userId lifetime now =>
    obtain ⟨tables, htables, h⟩ := Option.bind_eq_some_iff.mp h
    cases h
    obtain ⟨hfresh, heq⟩ := Option.ite_none_right_eq_some.mp htables
    cases heq
    exact ⟨goodRows_createGuestUser hfresh, .kept _ rfl⟩
  | signup party guest email password salt lifetime now => exact signup_effect h
  | login guest email password ids lifetime now =>
    obtain ⟨prepared, hprepared, h⟩ := Option.bind_eq_some_iff.mp h
    obtain ⟨tables, hlink, h⟩ := Option.bind_eq_some_iff.mp h
    cases h
    simp only [toOption_eq_some, linkGuestWithEmailLogin, bind_eq_ok] at hlink
    obtain ⟨target, -, hmerge⟩ := hlink
    have hrows := goodRows_merge (mergeGuestIntoFull_ok hmerge)
    exact ⟨(goodRows_resolveGuest hprepared).1.trans hrows, .kept _ rfl⟩
  | google party guest googleId verifiedEmail ids lifetime now => exact google_effect hdistinct h
  | telegram party guest telegramId ids lifetime now =>
    obtain ⟨_, -, h⟩ := Option.bind_eq_some_iff.mp h
    obtain ⟨prepared, hprepared, h⟩ := Option.bind_eq_some_iff.mp h
    obtain ⟨tables, hlink, h⟩ := Option.bind_eq_some_iff.mp h
    cases h
    rw [toOption_eq_some] at hlink
    have hrows : GoodRows prepared tables := by
      unfold linkGuestWithTelegramIdentity at hlink
      split at hlink
      · exact goodRows_upgrade hlink
      · exact goodRows_merge (mergeGuestIntoFull_ok hlink)
    refine ⟨(goodRows_resolveGuest hprepared).1.trans hrows, ?_⟩
    by_cases hfound : (prepared.getByTelegramId telegramId).isSome
    · exact .kept _ (if_pos hfound)
    · exact .telegramSet _ party guest.userId telegramId (if_neg hfound)

def EventHolds (bcrypt : Bcrypt) (directory : Directory Party) (s : AccountTables) :
    LoginEvent Party → Prop
  | .set _ userId (.password text) => HasPassword bcrypt s userId text
  | .set party _ (.google googleId) => directory.googleOwner googleId = party
  | .set _ _ (.telegram _) => True
  | .joined email userId => HasGoogleOnly directory s userId (directory.emailOwner email)

structure LoginInvariant (bcrypt : Bcrypt) (directory : Directory Party) (s : LoginState Party) :
    Prop where
  distinct : s.tables.accounts.Pairwise Distinct
  events : ∀ event ∈ s.history, EventHolds bcrypt directory s.tables event

variable {userId : Uuid}

theorem HasPassword.keep {s t : AccountTables} (hkeeps : KeepsFull s t)
    {text : String} (h : HasPassword bcrypt s userId text) : HasPassword bcrypt t userId text := by
  obtain ⟨hvalid, a, email, stored, ha, hstatus, hemail, hhash, hblank, hcheck⟩ := h
  have hfull : a.accountType = .full := by
    rw [accountType_eq_full_iff]
    simp [Account.hasLinkedLoginIdentity, hemail]
  obtain ⟨b, hb, hsame⟩ := hkeeps userId a ha hfull
  exact ⟨hvalid, b, email, stored, hb, hsame.status_eq.trans hstatus, hsame.email_eq.trans hemail,
    hsame.passwordHash_eq.trans hhash, hblank, hcheck⟩

theorem HasGoogleOnly.keep {s t : AccountTables} (hkeeps : KeepsFull s t)
    {party : Party} (h : HasGoogleOnly directory s userId party) :
    HasGoogleOnly directory t userId party := by
  obtain ⟨a, googleId, ha, htelegram, hgoogle, howner⟩ := h
  have hfull : a.accountType = .full := by
    rw [accountType_eq_full_iff]
    simp [Account.hasLinkedLoginIdentity, hgoogle]
  obtain ⟨b, hb, hsame⟩ := hkeeps userId a ha hfull
  exact ⟨b, googleId, hb, hsame.telegramId_eq.trans htelegram,
    hsame.googleId_kept googleId hgoogle, howner⟩

theorem EventHolds.keep {s t : AccountTables} (hkeeps : KeepsFull s t) {event : LoginEvent Party}
    (h : EventHolds bcrypt directory s event) : EventHolds bcrypt directory t event := by
  match event with
  | .set _ _ (.password _) => exact HasPassword.keep hkeeps h
  | .set _ _ (.google _) => exact h
  | .set _ _ (.telegram _) => trivial
  | .joined _ _ => exact HasGoogleOnly.keep hkeeps h

theorem LoginEffect.news {call : LoginCall Party} (h : LoginEffect bcrypt directory s t call) :
    ∃ news, t.history = news ++ s.history ∧
      ∀ event ∈ news, EventHolds bcrypt directory t.tables event := by
  cases h with
  | kept call hhistory => exact ⟨[], hhistory, by simp⟩
  | signedUp call party userId text haccount hhistory =>
    exact ⟨[.set party userId (.password text)], hhistory, by simpa [EventHolds] using haccount⟩
  | googleSet call party userId googleId howner hhistory =>
    exact ⟨[.set party userId (.google googleId)], hhistory, by simpa [EventHolds] using howner⟩
  | joined party guest googleId email ids lifetime now user hsubject huser hgoogleOwner hemailOwner
      haccount hhistory =>
    refine ⟨[.set party user.id (.google googleId), .joined email user.id], hhistory, ?_⟩
    intro event hevent
    simp only [List.mem_cons, List.not_mem_nil, or_false] at hevent
    rcases hevent with rfl | rfl
    · exact hgoogleOwner
    show HasGoogleOnly directory t.tables user.id (directory.emailOwner email)
    rw [hemailOwner]
    exact haccount
  | telegramSet call party userId telegramId hhistory =>
    exact ⟨[.set party userId (.telegram telegramId)], hhistory, by simp [EventHolds]⟩

theorem LoginInvariant.step [DecidableEq Party] (h : LoginInvariant bcrypt directory s)
    {call : LoginCall Party}
    (hstep : loginStep bcrypt directory s call = some t) : LoginInvariant bcrypt directory t := by
  obtain ⟨hrows, heffect⟩ := loginStep_effect h.distinct hstep
  obtain ⟨news, hhistory, hnews⟩ := heffect.news
  refine ⟨hrows.distinct h.distinct, ?_⟩
  intro event hevent
  rw [hhistory] at hevent
  rcases List.mem_append.mp hevent with hnew | hold
  · exact hnews event hnew
  · exact (h.events event hold).keep hrows.keeps

theorem loginInvariant_empty : LoginInvariant bcrypt directory ({} : LoginState Party) :=
  ⟨List.Pairwise.nil, by simp⟩

/-- A Google login that finds an account by its verified address finds one whose passwords were
all set by the same party. -/
def JoinsOwn (x : Transition (LoginState Party) (LoginCall Party)) : Prop :=
  ∀ party guest googleId email ids lifetime now user,
    x.label = .google party guest googleId (some email) ids lifetime now →
    x.before.tables.getByGoogleId googleId = none →
    x.before.tables.getByEmail email = some user →
    ∀ setter text, .set setter user.id (.password text) ∈ x.before.history → setter = party

def OwnPasswords (directory : Directory Party) (history : List (LoginEvent Party)) : Prop :=
  ∀ email userId earlier, (.joined email userId :: earlier) <:+ history →
    ∀ setter text, .set setter userId (.password text) ∈ earlier →
      setter = directory.emailOwner email

theorem noTakeover_of_ownPasswords (h : LoginInvariant bcrypt directory s)
    (hown : OwnPasswords directory s.history) : NoTakeover bcrypt directory s := by
  intro email userId earlier hsuffix party credential hset hother hauth
  obtain ⟨a, ownSubject, ha, htelegram, hgoogle, howner⟩ :=
    h.events _ (hsuffix.subset List.mem_cons_self)
  have hmem : .set party userId credential ∈ s.history :=
    hsuffix.subset (List.mem_cons_of_mem _ hset)
  have hrow : ∀ user ∈ s.tables.accounts, user.id = userId → user = a := by
    intro user huser hid
    have haccount := account_of_mem h.distinct huser
    rw [hid, ha, Option.some.injEq] at haccount
    exact haccount.symm
  cases credential with
  | password text => exact hother (hown email userId earlier hsuffix party text hset)
  | google googleId =>
    obtain ⟨user, huser, hid⟩ := hauth
    obtain ⟨hmemUser, hsubject⟩ := getByGoogleId_eq_some huser
    rw [hrow user hmemUser hid, hgoogle, Option.some.injEq] at hsubject
    have hsetter : directory.googleOwner googleId = party := h.events _ hmem
    exact hother (by rw [← hsetter, ← hsubject, howner])
  | telegram telegramId =>
    obtain ⟨user, huser, hid⟩ := hauth
    obtain ⟨hmemUser, hidentity⟩ := getByTelegramId_eq_some huser
    rw [hrow user hmemUser hid, htelegram] at hidentity
    cases hidentity

variable {userId : Uuid}

theorem HasPassword.authenticates (hdistinct : s.tables.accounts.Pairwise Distinct)
    {text : String} (h : HasPassword bcrypt s.tables userId text) :
    Authenticates bcrypt s.tables userId (.password text) := by
  obtain ⟨hvalid, a, email, stored, ha, hstatus, hemail, hhash, hblank, hcheck⟩ := h
  obtain ⟨hmem, hid⟩ := account_eq_some ha
  exact ⟨email, a, resolveEmailLoginUser_ok.mpr ⟨hvalid, getByEmail_of_mem hdistinct hmem hemail,
    stored, hhash, hblank, hcheck, hstatus⟩, hid⟩

theorem ownPasswords_cons_set {party : Party} {credential : Credential}
    {history : List (LoginEvent Party)} (h : OwnPasswords directory history) :
    OwnPasswords directory (.set party userId credential :: history) := by
  intro email joinedId earlier hsuffix
  rcases List.suffix_cons_iff.mp hsuffix with heq | hsuffix
  · cases heq
  · exact h email joinedId earlier hsuffix

theorem OwnPasswords.step {call : LoginCall Party} (h : OwnPasswords directory s.history)
    (heffect : LoginEffect bcrypt directory s t call) (hjoins : JoinsOwn ⟨s, call, t⟩) :
    OwnPasswords directory t.history := by
  cases heffect with
  | kept call hhistory => exact hhistory ▸ h
  | signedUp call party userId text haccount hhistory =>
    rw [hhistory]
    exact ownPasswords_cons_set h
  | googleSet call party userId googleId howner hhistory =>
    rw [hhistory]
    exact ownPasswords_cons_set h
  | joined party guest googleId email ids lifetime now user hsubject huser hgoogleOwner hemailOwner
      haccount hhistory =>
    rw [hhistory]
    refine ownPasswords_cons_set ?_
    intro joinedEmail joinedId earlier hsuffix setter text hset
    rcases List.suffix_cons_iff.mp hsuffix with heq | hsuffix
    · cases heq
      rw [hemailOwner]
      exact hjoins party guest googleId email ids lifetime now user rfl hsubject huser setter
        text hset
    · exact h joinedEmail joinedId earlier hsuffix setter text hset
  | telegramSet call party userId telegramId hhistory =>
    rw [hhistory]
    exact ownPasswords_cons_set h

theorem joinsOwn_of_noTakeover [DecidableEq Party] (h : LoginInvariant bcrypt directory s)
    {call : LoginCall Party}
    (hstep : loginStep bcrypt directory s call = some t) (hsafe : NoTakeover bcrypt directory t) :
    JoinsOwn ⟨s, call, t⟩ := by
  rintro party guest googleId email ids lifetime now user heq hsubject huser setter text hset
  replace heq : call = .google party guest googleId (some email) ids lifetime now := heq
  subst heq
  have hafter := h.step hstep
  obtain ⟨-, hemail, prepared, resolution, hprepared, hresolves, -, hhistory⟩ := google_ok hstep
  obtain ⟨-, hbyEmail, hbyGoogle, -⟩ := goodRows_resolveGuest hprepared
  have hfound : reusableUser prepared (normalizeGoogleIdentity googleId (some email) now) =
      some user := (hbyEmail email).trans huser
  have hnone : prepared.getByGoogleId googleId = none := (hbyGoogle googleId).trans hsubject
  have hhistory : t.history =
      .set party user.id (.google googleId) :: .joined email user.id :: s.history := by
    cases hresolves with
    | subject other hother => cases hother.symm.trans hnone
    | email other _ hother =>
      cases hother.symm.trans hfound
      exact hhistory
    | nobody _ hother => cases hother.symm.trans hfound
  have hjoined : (.joined email user.id :: s.history) <:+ t.history :=
    hhistory ▸ List.suffix_cons ..
  by_contra hne
  refine hsafe email user.id s.history hjoined setter (.password text) hset ?_
    (HasPassword.authenticates hafter.distinct ?_)
  · rw [hemail email rfl]
    exact hne
  · exact hafter.events (.set setter user.id (.password text))
      (hjoined.subset (List.mem_cons_of_mem _ hset))

/-- No sequence of calls lets another party's credential into an account that the controller of
an address was joined to, if and only if every such join found an account without a password
of another party. -/
theorem logins_noTakeover_iff [DecidableEq Party] (bcrypt : Bcrypt) (directory : Directory Party)
    (calls : List (LoginCall Party)) :
    (∀ x ∈ transitions (loginStep bcrypt directory) {} calls, NoTakeover bcrypt directory x.after) ↔
      ∀ x ∈ transitions (loginStep bcrypt directory) {} calls, JoinsOwn x := by
  have hinvariant : ∀ x ∈ transitions (loginStep bcrypt directory) {} calls,
      LoginInvariant bcrypt directory x.before :=
    fun x hx => invariant_before (P := LoginInvariant bcrypt directory) loginInvariant_empty
      (fun y hy hbefore => hbefore.step (step_of_mem_transitions hy)) hx
  constructor
  · intro hsafe x hx
    exact joinsOwn_of_noTakeover (hinvariant x hx) (step_of_mem_transitions hx) (hsafe x hx)
  intro hjoins x hx
  have hkeep : ∀ y ∈ transitions (loginStep bcrypt directory) {} calls,
      OwnPasswords directory y.before.history → OwnPasswords directory y.after.history := by
    intro y hy hown
    have heffect := (loginStep_effect (hinvariant y hy).distinct (step_of_mem_transitions hy)).2
    exact hown.step heffect (hjoins y hy)
  have hstart : OwnPasswords directory ({} : LoginState Party).history := by
    intro email userId earlier hsuffix
    cases List.suffix_nil.mp hsuffix
  have hbefore : OwnPasswords directory x.before.history :=
    invariant_before (P := fun s => OwnPasswords directory s.history) hstart hkeep hx
  exact noTakeover_of_ownPasswords ((hinvariant x hx).step (step_of_mem_transitions hx))
    (hkeep x hx hbefore)

end Effects

/-! An address is signed up by party `false`; then its controller `true` comes through Google. -/

def plainBcrypt : Bcrypt where
  hashpw password _ := "$2b$" ++ password
  checkpw password stored := stored = "$2b$" ++ password
  checkpw_hashpw password salt := by simp
  hashpw_not_blank password salt := by
    intro h
    have hlist := congrArg String.toList h
    have hnil : List.dropWhile isSpace (password.toList.reverse ++ ['$', 'b', '2', '$']) = [] := by
      simpa [strip, isSpace] using hlist
    exact absurd (List.dropWhile_eq_nil_iff.mp hnil '$' (by simp)) (by decide)

def victim : Directory Bool where
  emailOwner _ := true
  googleOwner _ := true
  telegramOwner _ := false

def presignup : LoginCall Bool := .signup false ⟨1, true⟩ "user@example.com" "password" "" 90 0

def googleLogin : LoginCall Bool :=
  .google true ⟨2, true⟩ "subject" (some "user@example.com") ⟨10, 11⟩ 90 1

def presignedUp : LoginState Bool := final (loginStep plainBcrypt victim) {} [presignup]

def shared : LoginState Bool := final (loginStep plainBcrypt victim) {} [presignup, googleLogin]

/-- The password of party `false` still signs in to the account of the address. -/
theorem presignup_shares_account : ¬ ∀ (bcrypt : Bcrypt) (directory : Directory Bool)
    (calls : List (LoginCall Bool)),
    ∀ x ∈ transitions (loginStep bcrypt directory) {} calls, NoTakeover bcrypt directory x.after := by
  intro hall
  have hsignup : loginStep plainBcrypt victim {} presignup = some presignedUp := by rfl
  have hgoogle : loginStep plainBcrypt victim presignedUp googleLogin = some shared := by rfl
  have hmem : ⟨presignedUp, googleLogin, shared⟩ ∈
      transitions (loginStep plainBcrypt victim) {} [presignup, googleLogin] := by
    rw [transitions_cons_of_some _ hsignup, transitions_cons_of_some _ hgoogle]
    simp
  have hinvariant := loginInvariant_empty.step hsignup
  have hjoins := joinsOwn_of_noTakeover hinvariant hgoogle (hall plainBcrypt victim _ _ hmem)
  have hown : false = true := by
    refine hjoins true ⟨2, true⟩ "subject" "user@example.com" ⟨10, 11⟩ 90 1 _ rfl rfl rfl false
      "password" ?_
    exact List.mem_cons_self
  cases hown

end MemeExpert.Services
