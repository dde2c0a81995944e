import Mathlib.Data.Set.Finite.Basic
import MemeExpert.Services.LinkFailures
import MemeExpert.Services.TelegramLinkCodes

/-! Each call works in a session of its own: it creates its guest there if it was given
none, reads what the identity leads to, and upgrades or merges the guest. -/

namespace MemeExpert.Services

open Runs Results

inductive ExternalIdentity where
  | google (identity : GoogleIdentity)
  | telegram (identity : TelegramIdentity)

namespace ExternalIdentity

def toUpgrade : ExternalIdentity → UpgradeIdentity
  | google identity => identity.toUpgrade
  | telegram identity => identity.toUpgrade

def Valid : ExternalIdentity → Prop
  | google identity => identity.email = none ↔ identity.emailVerifiedAt = none
  | telegram identity => identity.telegramId ≠ 0

def provider : ExternalIdentity → String
  | google _ => "Google"
  | telegram _ => "Telegram"

def Owns : ExternalIdentity → Account → Prop
  | google identity, account => account.googleId = some identity.googleId
  | telegram identity, account => account.telegramId = some identity.telegramId

end ExternalIdentity

structure LinkTarget where
  userId : Uuid
  attached : Option GoogleIdentity
  deriving DecidableEq

section Resolving

variable (s : AccountTables)

def ownerOf : ExternalIdentity → Option Account
  | .google identity => s.getByGoogleId identity.googleId
  | .telegram identity => s.getByTelegramId identity.telegramId

def resolveSubject (identity : ExternalIdentity) : Except ServiceError (Option LinkTarget) :=
  match identity, ownerOf s identity with
  | _, none => .ok none
  | .google _, some user => do
    ensureAccountIsAvailable user
    pure (some ⟨user.id, none⟩)
  | .telegram _, some user => .ok (some ⟨user.id, none⟩)

def resolveAddress : ExternalIdentity → Except ServiceError (Option LinkTarget)
  | .google identity =>
    match reusableUser s identity with
    | some user => do
      ensureGoogleReuseIsAllowed user
      pure (some ⟨user.id, some identity⟩)
    | none => .ok none
  | .telegram _ => .ok none

def linkResolved (guestUserId : Uuid) (identity : ExternalIdentity) (target : Option LinkTarget)
    (ids : MergeIds) (now : Time) : Except ServiceError AccountTables :=
  match target with
  | none => upgradeGuestInPlace s guestUserId identity.toUpgrade now
  | some target => mergeGuestIntoFull s guestUserId target.userId target.attached ids now

end Resolving

inductive Caller where
  | first | second
  deriving DecidableEq

def Caller.other : Caller → Caller
  | first => second
  | second => first

/-- A guest of the call itself was created in its session at `createdAt`. -/
structure RaceAttempt extends LinkAttempt where
  createdAt : Time
  deriving DecidableEq

inductive LinkOutcome where
  | linked (userId : Uuid)
  | failed (failure : ServiceError)
  deriving DecidableEq

/-- Where a call stands; `again` after a rollback because of a duplicate identity. -/
inductive RacePhase where
  | waiting
  | started (attempt : RaceAttempt) (again : Bool)
  | unmatched (attempt : RaceAttempt) (again : Bool)
  | resolved (attempt : RaceAttempt) (again : Bool) (target : Option LinkTarget)
  | failing (attempt : RaceAttempt) (failure : ServiceError)
  | ended (outcome : LinkOutcome)
  deriving DecidableEq

namespace RacePhase

def attempt : RacePhase → Option RaceAttempt
  | started attempt _ | unmatched attempt _ | resolved attempt _ _ | failing attempt _ =>
    some attempt
  | waiting | ended _ => none

def target : RacePhase → Option (Option LinkTarget)
  | resolved _ _ target => some target
  | _ => none

def rank : RacePhase → Nat
  | waiting => 0
  | started _ again => if again then 5 else 1
  | unmatched _ again => if again then 6 else 2
  | resolved _ again _ => if again then 7 else 3
  | failing _ _ => 4
  | ended _ => 8

end RacePhase

structure LinkRace where
  tables : AccountTables
  clock : Time
  guest : Caller → Guest
  phase : Caller → RacePhase

namespace LinkRace

variable (s : LinkRace)

def move (caller : Caller) (phase : RacePhase) : LinkRace :=
  { s with phase := Function.update s.phase caller phase }

@[simp] theorem phase_move (caller : Caller) (phase : RacePhase) :
    (s.move caller phase).phase caller = phase := by
  simp [move]

theorem phase_move_of_ne {caller other : Caller} (phase : RacePhase) (hne : other ≠ caller) :
    (s.move caller phase).phase other = s.phase other := by
  simp [move, hne]

def seen (lifetime : Time) (caller : Caller) (createdAt : Time) (again : Bool) : AccountTables :=
  if (s.guest caller).bootstrapped ∧ again = false then
    createGuestUser s.tables (s.guest caller).userId createdAt lifetime
  else s.tables

end LinkRace

def freshMergeIds (s : AccountTables) (ids : MergeIds) : Bool :=
  (s.content.collections.all fun collection => collection.id ≠ ids.favoritesId) &&
    s.content.members.all fun member => member.collectionId ≠ ids.favoritesId

inductive RaceLabel where
  | tick (now : Time)
  | start (caller : Caller) (createdAt startedAt : Time)
  | resolve (caller : Caller)
  | link (caller : Caller) (ids : MergeIds) (now : Time)
  | postMortem (caller : Caller)

def translated (identity : ExternalIdentity) (failure : ServiceError) : ServiceError :=
  if failure.kind = .collectionService then
    let provider := identity.provider
    ⟨.accountLinkInvariant, s!"Failed to link the guest account with {provider}."⟩
  else failure

def alreadyCompleted : ServiceError :=
  ⟨.accountLinkAlreadyCompleted, "This account link already completed elsewhere. " ++
    "Refresh or reload MemeXpert to continue with the current account state instead of retrying."⟩

def notResolvedSafely (identity : ExternalIdentity) : ServiceError :=
  let provider := identity.provider
  ⟨.providerPayloadInvalid, s!"{provider} identity could not be resolved safely."⟩

section Step

variable (lifetime : Time) (identity : ExternalIdentity) (s : LinkRace)

def attemptLink (caller : Caller) (attempt : RaceAttempt) (again : Bool)
    (target : Option LinkTarget) (ids : MergeIds) (now : Time) :
    Except ServiceError AccountTables :=
  if again ∧ target = none then .error (notResolvedSafely identity)
  else
    linkResolved (s.seen lifetime caller attempt.createdAt again) (s.guest caller).userId identity
      target ids now

def afterLookup (caller : Caller) (found : Except ServiceError (Option LinkTarget))
    (next : Option LinkTarget → RacePhase) : LinkRace :=
  match found with
  | .ok target => s.move caller (next target)
  | .error failure => s.move caller (.ended (.failed failure))

def resolveStep (caller : Caller) : Option LinkRace :=
  match s.phase caller with
  | .started attempt again =>
    some (afterLookup s caller
      (resolveSubject (s.seen lifetime caller attempt.createdAt again) identity) fun target =>
        if target = none then .unmatched attempt again else .resolved attempt again target)
  | .unmatched attempt again =>
    some (afterLookup s caller
      (resolveAddress (s.seen lifetime caller attempt.createdAt again) identity)
        (.resolved attempt again))
  | _ => none

/-- The rows were written at `now` under their locks; the commit comes later. -/
def linkCallStep (caller : Caller) (ids : MergeIds) (now : Time) : Option LinkRace :=
  match s.phase caller with
  | .resolved attempt again target =>
    if attempt.operationStartedAt ≤ now ∧ now ≤ s.clock ∧ freshMergeIds s.tables ids then
      match attemptLink lifetime identity s caller attempt again target ids now with
      | .ok tables =>
        let userId := target.elim (s.guest caller).userId LinkTarget.userId
        some { s.move caller (.ended (.linked userId)) with tables := tables }
      | .error failure =>
        if again then some (s.move caller (.ended (.failed failure)))
        else some (s.move caller (.failing attempt failure))
    else none
  | _ => none

/-- `_handle_link_failure` and what the handler does after it. -/
def postMortemStep (caller : Caller) : Option LinkRace :=
  match s.phase caller with
  | .failing attempt failure =>
    if linkAlreadyCompleted s.tables (s.guest caller).userId attempt.toLinkAttempt then
      some (s.move caller (.ended (.failed alreadyCompleted)))
    else if failure.kind = .duplicateIdentity then some (s.move caller (.started attempt true))
    else some (s.move caller (.ended (.failed (translated identity failure))))
  | _ => none

def raceStep : RaceLabel → Option LinkRace
  | .tick now => if s.clock ≤ now then some { s with clock := now } else none
  | .start caller createdAt startedAt =>
    if s.phase caller = .waiting ∧ createdAt ≤ startedAt ∧ startedAt ≤ s.clock then
      let guest := (s.seen lifetime caller createdAt false).account (s.guest caller).userId
      some (s.move caller (.started ⟨⟨startedAt, guest⟩, createdAt⟩ false))
    else none
  | .resolve caller => resolveStep lifetime identity s caller
  | .link caller ids now => linkCallStep lifetime identity s caller ids now
  | .postMortem caller => postMortemStep identity s caller

/-- Nobody has the identity yet, and no call has begun. The guests that calls will create have
identifiers of their own. -/
structure RaceInitial : Prop where
  constraints : s.tables.library.Constraints
  unowned : ∀ account ∈ s.tables.accounts, ¬ identity.Owns account
  waiting : ∀ caller, s.phase caller = .waiting
  fresh : ∀ caller, (s.guest caller).bootstrapped = true →
    s.tables.account (s.guest caller).userId = none ∧
      (s.guest caller.other).userId ≠ (s.guest caller).userId

def OwnsAlone (tables : AccountTables) (userId : Uuid) : Prop :=
  (∃ account, tables.account userId = some account ∧ identity.Owns account) ∧
    ∀ account ∈ tables.accounts, identity.Owns account → account.id = userId

/-- Calls end with the account that has the identity or with a documented conflict, and no
call is stuck before. -/
structure SurvivesRace : Prop where
  linked : ∀ caller userId, s.phase caller = .ended (.linked userId) →
    OwnsAlone identity s.tables userId
  failed : ∀ caller failure, s.phase caller = .ended (.failed failure) → IsConflict failure
  moves_on : ∀ caller, (∀ outcome, s.phase caller ≠ .ended outcome) →
    ∃ label t, raceStep lifetime identity s label = some t ∧
      (s.phase caller).rank < (t.phase caller).rank

/-- A call with a guest of its own writes for the account that has the identity, or nobody has
it; and no call with the same guest starts between the writes of a merge and its commit. -/
structure LinkSafe (caller : Caller) (now : Time) (target : Option LinkTarget) : Prop where
  wins : (s.guest caller).bootstrapped = true → ∀ owner ∈ ownerOf s.tables identity,
    target.map LinkTarget.userId = some owner.id
  past : target.isSome = true → (s.guest caller.other).userId = (s.guest caller).userId →
    ∀ later ∈ (s.phase caller.other).attempt, later.operationStartedAt ≤ now

def RaceSafe : RaceLabel → Prop
  | .start caller _ _ => (s.guest caller).bootstrapped = false →
      s.tables.account (s.guest caller).userId ≠ none
  | .link caller _ now => ∀ target ∈ (s.phase caller).target, LinkSafe identity s caller now target
  | _ => True

end Step

section Lookups

variable {identity : ExternalIdentity} {s t : AccountTables}

theorem ownerOf_eq_some {account : Account} (h : ownerOf s identity = some account) :
    account ∈ s.accounts ∧ identity.Owns account := by
  cases identity with
  | google identity => exact getByGoogleId_eq_some h
  | telegram identity => exact getByTelegramId_eq_some h

theorem ownerOf_eq_none_iff :
    ownerOf s identity = none ↔ ∀ account ∈ s.accounts, ¬ identity.Owns account := by
  cases identity <;>
    simp [ownerOf, AccountTables.getByGoogleId, AccountTables.getByTelegramId, List.find?_eq_none,
      ExternalIdentity.Owns]

theorem ids_nodup (hs : s.library.Constraints) : (s.accounts.map Account.id).Nodup := by
  have hunique := hs.users_unique
  rwa [AccountTables.library, map_id_toUser] at hunique

theorem account_of_member (hs : s.library.Constraints) {account : Account}
    (h : account ∈ s.accounts) : s.account account.id = some account := by
  cases hfound : s.account account.id with
  | none => exact absurd rfl (account_eq_none_iff.mp hfound account h)
  | some found =>
    obtain ⟨hmem, hid⟩ := account_eq_some hfound
    exact congrArg some (List.inj_on_of_nodup_map (ids_nodup hs) hmem h hid)

theorem account_seen {race : LinkRace} {lifetime createdAt : Time} {caller : Caller} {again : Bool}
    {userId : Uuid} (hne : userId ≠ (race.guest caller).userId) :
    (race.seen lifetime caller createdAt again).account userId = race.tables.account userId := by
  unfold LinkRace.seen
  split
  · rw [account_createGuestUser, if_neg (Ne.symm hne), Option.or_none]
  · rfl

theorem ownerOf_seen (identity : ExternalIdentity) (race : LinkRace) (lifetime createdAt : Time)
    (caller : Caller) (again : Bool) :
    ownerOf (race.seen lifetime caller createdAt again) identity =
      ownerOf race.tables identity := by
  unfold LinkRace.seen
  split
  · obtain ⟨-, hgoogle, htelegram⟩ :=
      @getBy_createGuestUser race.tables (race.guest caller).userId createdAt lifetime
    cases identity with
    | google identity => exact hgoogle _
    | telegram identity => exact htelegram _
  · rfl

theorem getByEmail_seen (race : LinkRace) (lifetime createdAt : Time) (caller : Caller)
    (again : Bool) (email : String) :
    (race.seen lifetime caller createdAt again).getByEmail email =
      race.tables.getByEmail email := by
  unfold LinkRace.seen
  split
  · exact (getBy_createGuestUser _ _ _).1 email
  · rfl

theorem constraints_createGuestUser {userId : Uuid} (hs : s.library.Constraints)
    (hfresh : s.account userId = none) (now lifetime : Time) :
    (createGuestUser s userId now lifetime).library.Constraints := by
  have hmem : ∀ id ∈ s.library.users.map User.id,
      id ∈ (createGuestUser s userId now lifetime).library.users.map User.id := by
    intro id hid
    simp only [AccountTables.library, createGuestUser, List.map_append]
    exact List.mem_append_left _ hid
  exact
    { hs with
      users_unique := by
        simp only [AccountTables.library, createGuestUser, map_id_toUser, List.map_append]
        refine List.nodup_append.mpr ⟨ids_nodup hs, List.nodup_singleton _, ?_⟩
        rintro _ hold _ hnew rfl
        obtain ⟨account, haccount, hid⟩ := List.mem_map.mp hold
        exact account_eq_none_iff.mp hfresh account haccount
          (hid.trans (List.mem_singleton.mp hnew))
      collections_owner := fun row hrow => hmem _ (hs.collections_owner row hrow)
      pins_user := fun pin hpin => hmem _ (hs.pins_user pin hpin) }

theorem constraints_updateAccount (hs : s.library.Constraints) {userId : Uuid}
    {write : Account → Account} (hid : ∀ row, (write row).id = row.id) :
    (s.updateAccount userId write).library.Constraints := by
  have hids : ((s.updateAccount userId write).accounts.map Account.toUser).map User.id =
      s.library.users.map User.id := by
    rw [AccountTables.library, map_id_toUser, map_id_toUser, AccountTables.updateAccount,
      List.map_map]
    refine List.map_congr_left fun row _ => ?_
    simp only [Function.comp_apply]
    split
    · exact hid row
    · rfl
  have hupdated := constraints_withUsers hs hids
  exact hupdated

theorem handOverFavorites_ids {library handedOver : Library} {target : User} {newId : Uuid}
    {favorites : Option Collection}
    (h : handOverFavorites library target newId favorites = .ok handedOver) :
    handedOver.users.map User.id = library.users.map User.id := by
  have hmapped : ∀ (users : List User) (write : User → User), (∀ row, (write row).id = row.id) →
      (users.map write).map User.id = users.map User.id := by
    intro users write hid
    rw [List.map_map]
    exact List.map_congr_left fun row _ => hid row
  have hdeleted : ∀ (before : Library) (collectionId : Uuid),
      (deleteCollection before collectionId).users.map User.id = before.users.map User.id := by
    intro before collectionId
    refine hmapped before.users _ fun row => ?_
    split <;> rfl
  rcases handOverFavorites_ok h with ⟨-, rfl⟩ | ⟨_, -, -, rfl⟩ |
    ⟨_, ensured, targetFavorites, -, hensured, rfl⟩
  · rfl
  · exact hdeleted _ _
  rw [hdeleted, transferFavorites]
  rcases ensureFavoritesCollection_ok hensured with ⟨hsame, -⟩ | ⟨-, -, user, -, hsame, -⟩
  · exact hsame ▸ rfl
  have hwith : ensured = withFavorites library user newId := hsame
  rw [hwith, withFavorites]
  refine hmapped library.users _ fun row => ?_
  split <;> rfl

theorem constraints_merged {guestUserId targetUserId : Uuid} {google : Option GoogleIdentity}
    {ids : MergeIds} {now : Time}
    (h : mergeGuestIntoFull s guestUserId targetUserId google ids now = .ok t) :
    t.library.Constraints := by
  simp only [mergeGuestIntoFull, guard_eq_ok, bind_eq_ok, Library.commit_eq_ok, pure_eq_ok] at h
  obtain ⟨-, guest, -, target, -, _, -, _, -, favorites, -, attached, -, handedOver, hhanded,
    library, ⟨hcommits, rfl⟩, rfl⟩ := h
  refine constraints_withUsers hcommits ?_
  have hids := handOverFavorites_ids hhanded
  rw [AccountTables.library, map_id_toUser] at hids
  rw [map_id_toUser, List.map_map]
  have hsaved : Account.id ∘ Account.withSaveCollectionOf (deleteUser handedOver guest.id) =
      Account.id := rfl
  rw [hsaved, deleteUser]
  have hfilter : ∀ {α : Type} (id : α → Uuid) (rows : List α),
      (rows.filter fun row => id row ≠ guest.id).map id =
        (rows.map id).filter fun other => other ≠ guest.id := by
    intro α id rows
    rw [List.filter_map]
    rfl
  rw [hfilter Account.id]
  exact (congrArg _ hids.symm).trans (hfilter User.id _).symm

end Lookups

structure SignInKept (identity : ExternalIdentity) (before after : Account) : Prop where
  status_eq : after.status = before.status
  full : before.accountType = .full → after.accountType = .full
  owns : identity.Owns before → identity.Owns after
  googleId_eq : after.googleId = before.googleId ∨
    ∃ google, identity = .google google ∧ after.googleId = some google.googleId

def GuestSpent (t : AccountTables) (guestUserId : Uuid) (merged : Bool) (now : Time)
    (guest : Account) : Prop :=
  (∃ after, t.account guestUserId = some after ∧ after.status = guest.status ∧
    after.accountType = .full) ∨
  merged = true ∧ t.account guestUserId = none ∧
    ∃ log ∈ t.mergeLogs, log.guestAccountId = guestUserId ∧ log.createdAt = now

structure LinkCommits (identity : ExternalIdentity) (s t : AccountTables)
    (guestUserId userId : Uuid) (merged : Bool) (now : Time) : Prop where
  constraints : t.library.Constraints
  alone : OwnsAlone identity t userId
  kept : ∀ otherId ≠ guestUserId, ∀ row, s.account otherId = some row →
    ∃ after, t.account otherId = some after ∧ SignInKept identity row after
  absent : ∀ otherId ≠ guestUserId, s.account otherId = none → t.account otherId = none
  logs : ∀ log ∈ s.mergeLogs, log ∈ t.mergeLogs
  guest : ∃ guest, s.account guestUserId = some guest ∧ CanLink guest ∧
    GuestSpent t guestUserId merged now guest

def TargetKept (identity : ExternalIdentity) (s : AccountTables) (target : LinkTarget) : Prop :=
  ∃ row, s.account target.userId = some row ∧ row.accountType = .full ∧
    match target.attached with
    | none => identity.Owns row
    | some google => identity = .google google ∧
        (row.googleId = none ∨ row.googleId = some google.googleId)

section Commits

variable {identity : ExternalIdentity} {s t : AccountTables} {guestUserId : Uuid} {now : Time}

theorem SignInKept.refl (row : Account) : SignInKept identity row row := ⟨rfl, id, id, .inl rfl⟩

theorem owns_withSaveCollectionOf {row : Account} {library : Library} :
    identity.Owns (row.withSaveCollectionOf library) ↔ identity.Owns row := by
  cases identity <;> exact Iff.rfl

theorem owns_upgradedRow (row : Account) :
    identity.Owns (upgradedRow identity.toUpgrade now row) := by
  cases identity <;> rfl

theorem not_owns_of_available (h : Available s identity.toUpgrade.telegramId
    identity.toUpgrade.googleId identity.toUpgrade.email) : ownerOf s identity = none := by
  cases identity with
  | google identity => exact h.2.1 _ rfl
  | telegram identity => exact h.1 _ rfl

theorem commits_upgrade (hs : s.library.Constraints)
    (h : upgradeGuestInPlace s guestUserId identity.toUpgrade now = .ok t) :
    LinkCommits identity s t guestUserId guestUserId false now := by
  obtain ⟨rfl, ⟨guest, hguest, hlink⟩, hany, -, havailable⟩ := upgradeGuestInPlace_ok h
  have hcommits : (s.updateAccount guestUserId
      (upgradedRow identity.toUpgrade now)).library.Constraints :=
    constraints_updateAccount hs fun _ => rfl
  have haccount := @account_updateAccount s guestUserId
    (upgradedRow identity.toUpgrade now) fun _ => rfl
  have hupgraded : (s.updateAccount guestUserId (upgradedRow identity.toUpgrade now)).account
      guestUserId = some (upgradedRow identity.toUpgrade now guest) := by
    rw [haccount, if_pos rfl, hguest, Option.map_some]
  have hother : ∀ otherId ≠ guestUserId, (s.updateAccount guestUserId
      (upgradedRow identity.toUpgrade now)).account otherId = s.account otherId := by
    intro otherId hne
    rw [haccount, if_neg hne]
  exact
    { constraints := hcommits
      alone := by
        refine ⟨⟨_, hupgraded, owns_upgradedRow guest⟩, fun account hmem howns => ?_⟩
        by_contra hne
        have hfound := account_of_member hcommits hmem
        rw [hother _ hne] at hfound
        exact ownerOf_eq_none_iff.mp (not_owns_of_available havailable) account
          (account_eq_some hfound).1 howns
      kept := by
        intro otherId hne row hrow
        exact ⟨row, (hother otherId hne).trans hrow, SignInKept.refl row⟩
      absent := fun otherId hne hnone => (hother otherId hne).trans hnone
      logs := fun _ => id
      guest := ⟨guest, hguest, hlink, .inl ⟨_, hupgraded, rfl, accountType_upgradedRow hany⟩⟩ }

theorem signInKept_mergedRow {target : LinkTarget} (htarget : TargetKept identity s target)
    {otherId : Uuid} {row : Account} (hrow : s.account otherId = some row) (library : Library) :
    SignInKept identity row
      ((mergedRow target.userId target.attached now row).withSaveCollectionOf library) := by
  obtain ⟨found, hfound, -, hattached⟩ := htarget
  have hid := (account_eq_some hrow).2
  have hfull : row.accountType = .full →
      (mergedRow target.userId target.attached now row).accountType = .full := accountType_mergedRow
  cases hgoogle : target.attached with
  | none => exact ⟨rfl, id, owns_withSaveCollectionOf.mpr, .inl rfl⟩
  | some google =>
    rw [hgoogle] at hattached hfull
    obtain ⟨hidentity, hfree⟩ := hattached
    by_cases hsame : row.id = target.userId
    · rw [mergedRow, if_pos hsame] at hfull
      rw [mergedRow, if_pos hsame]
      subst hidentity
      exact ⟨rfl, hfull, fun _ => rfl, .inr ⟨google, rfl, rfl⟩⟩
    · rw [mergedRow, if_neg hsame]
      exact ⟨rfl, id, owns_withSaveCollectionOf.mpr, .inl rfl⟩

section Targets

variable {target : LinkTarget} {ids : MergeIds}
  (hunique : ∀ row ∈ s.accounts, ∀ other ∈ s.accounts, identity.Owns row → identity.Owns other →
    row.id = other.id)
  (htarget : TargetKept identity s target)

include hunique htarget

theorem eq_target_of_owns
    (hmerges : MergesInto s t guestUserId target.userId target.attached ids now) {row : Account}
    (hrow : row ∈ s.accounts)
    (howns : identity.Owns (mergedRow target.userId target.attached now row)) :
    row.id = target.userId := by
  obtain ⟨found, hfound, -, hattached⟩ := htarget
  obtain ⟨hfoundMem, hfoundId⟩ := account_eq_some hfound
  cases hgoogle : target.attached with
  | none =>
    rw [hgoogle] at hattached howns
    exact (hunique row hrow found hfoundMem howns hattached).trans hfoundId
  | some google =>
    rw [hgoogle] at hattached howns
    obtain ⟨rfl, hfree⟩ := hattached
    by_contra hne
    rw [mergedRow, if_neg hne] at howns
    rcases hfree with hnone | hsome
    · obtain ⟨other, hother, -, -, hgoogleOk⟩ := hmerges.target
      have hsame : found = other := Option.some.inj (hfound.symm.trans hother)
      have hnobody := (hgoogleOk google hgoogle).2 (hsame ▸ hnone)
      have habsent := List.find?_eq_none.mp hnobody row hrow
      exact habsent (decide_eq_true howns)
    · exact hne ((hunique row hrow found hfoundMem howns hsome).trans hfoundId)

theorem commits_merge
    (h : mergeGuestIntoFull s guestUserId target.userId target.attached ids now = .ok t) :
    LinkCommits identity s t guestUserId target.userId true now := by
  have hmerges := mergeGuestIntoFull_ok h
  have howner := fun row => @eq_target_of_owns identity s t guestUserId now target ids hunique
    htarget hmerges row
  have hcommits := constraints_merged h
  have haccount := hmerges.account_eq
  have hkept : ∀ otherId ≠ guestUserId, ∀ row, s.account otherId = some row →
      t.account otherId = some
        ((mergedRow target.userId target.attached now row).withSaveCollectionOf t.content) := by
    intro otherId hne row hrow
    rw [haccount, if_neg hne, hrow, Option.map_some]
  exact
    { constraints := hcommits
      alone := by
        obtain ⟨found, hfound, -, hattached⟩ := htarget
        refine ⟨⟨_, hkept _ hmerges.ne.symm found hfound, ?_⟩, fun account hmem howns => ?_⟩
        · cases hgoogle : target.attached with
          | none =>
            rw [hgoogle] at hattached
            exact owns_withSaveCollectionOf.mpr hattached
          | some google =>
            rw [hgoogle] at hattached
            obtain ⟨rfl, -⟩ := hattached
            rw [mergedRow, if_pos (account_eq_some hfound).2]
            rfl
        · have hfound := account_of_member hcommits hmem
          rw [haccount] at hfound
          obtain ⟨-, hfound⟩ := Option.ite_none_left_eq_some.mp hfound
          obtain ⟨row, hrow, hmerged⟩ := Option.map_eq_some_iff.mp hfound
          obtain ⟨hrowMem, hrowId⟩ := account_eq_some hrow
          rw [← hmerged, owns_withSaveCollectionOf] at howns
          exact hrowId.symm.trans (howner row hrowMem howns)
      kept := by
        intro otherId hne row hrow
        exact ⟨_, hkept otherId hne row hrow, signInKept_mergedRow htarget hrow t.content⟩
      absent := by
        intro otherId hne hnone
        rw [haccount, if_neg hne, hnone, Option.map_none]
      logs := by
        intro log hlog
        rw [hmerges.mergeLogs_eq]
        exact List.mem_append_left _ hlog
      guest := by
        obtain ⟨guest, hguest, hlink⟩ := hmerges.guest
        refine ⟨guest, hguest, hlink, .inr ⟨rfl, by rw [haccount, if_pos rfl], ?_⟩⟩
        refine ⟨⟨ids.logId, guestUserId, target.userId, now⟩, ?_, rfl, rfl⟩
        rw [hmerges.mergeLogs_eq]
        exact List.mem_append_right _ (List.mem_singleton_self _) }

end Targets

end Commits

section Invariant

variable (identity : ExternalIdentity) (s : LinkRace)

def GuestSeen (caller : Caller) (attempt : RaceAttempt) : Prop :=
  ∃ snapshot, attempt.initialGuestSnapshot = some snapshot ∧
    ((∃ row, s.tables.account (s.guest caller).userId = some row ∧
      snapshot.status = row.status ∧ (snapshot.accountType = .full → row.accountType = .full)) ∨
    s.tables.account (s.guest caller).userId = none ∧ snapshot.accountType = .guest ∧
      snapshot.status = .active ∧ ∃ log ∈ s.tables.mergeLogs,
        log.guestAccountId = (s.guest caller).userId ∧ attempt.operationStartedAt ≤ log.createdAt)

structure AttemptKept (caller : Caller) (attempt : RaceAttempt) : Prop where
  startedAt_le : attempt.operationStartedAt ≤ s.clock
  guest : (s.guest caller).bootstrapped = false → GuestSeen s caller attempt

structure AgainKept (caller : Caller) : Prop where
  given : (s.guest caller).bootstrapped = false
  owned : ownerOf s.tables identity ≠ none
  guest : s.tables.account (s.guest caller).userId ≠ none

def FailureKept (caller : Caller) (failure : ServiceError) : Prop :=
  IsConflict failure ∨
  failure.kind = .userNotFound ∧ (s.guest caller).bootstrapped = false ∧
    s.tables.account (s.guest caller).userId = none ∨
  failure.kind = .duplicateIdentity ∧ (s.guest caller).bootstrapped = false ∧
    ownerOf s.tables identity ≠ none

def PhaseKept (caller : Caller) : RacePhase → Prop
  | .waiting => True
  | .started attempt again => AttemptKept s caller attempt ∧
      (again = true → AgainKept identity s caller)
  | .unmatched attempt again => AttemptKept s caller attempt ∧ again = false
  | .resolved attempt again none => AttemptKept s caller attempt ∧ again = false ∧
      (ownerOf s.tables identity = none →
        ∀ email ∈ identity.toUpgrade.email, s.tables.getByEmail email = none)
  | .resolved attempt again (some target) => AttemptKept s caller attempt ∧
      TargetKept identity s.tables target ∧
      (again = true → AgainKept identity s caller ∧ target.attached = none)
  | .failing attempt failure => AttemptKept s caller attempt ∧ FailureKept identity s caller failure
  | .ended (.linked userId) => OwnsAlone identity s.tables userId
  | .ended (.failed failure) => IsConflict failure

structure RaceKept : Prop where
  constraints : s.tables.library.Constraints
  unique : ∀ row ∈ s.tables.accounts, ∀ other ∈ s.tables.accounts, identity.Owns row →
    identity.Owns other → row.id = other.id
  apart : ∀ caller, (s.guest caller).bootstrapped = true →
    (s.guest caller.other).userId ≠ (s.guest caller).userId
  fresh : ∀ caller, (s.guest caller).bootstrapped = true →
    (∀ outcome, s.phase caller ≠ .ended outcome) →
      s.tables.account (s.guest caller).userId = none
  owner : ownerOf s.tables identity ≠ none →
    ∃ caller userId, s.phase caller = .ended (.linked userId)
  phases : ∀ caller, PhaseKept identity s caller (s.phase caller)

end Invariant

section Keeping

variable {lifetime : Time} {identity : ExternalIdentity} {s t : LinkRace} {caller : Caller}

theorem raceKept_initial (h : RaceInitial identity s) : RaceKept identity s where
  constraints := h.constraints
  unique := fun row hrow _ _ howns _ => absurd howns (h.unowned row hrow)
  apart := fun caller hbootstrapped => (h.fresh caller hbootstrapped).2
  fresh := fun caller hbootstrapped _ => (h.fresh caller hbootstrapped).1
  owner := fun howned => absurd (ownerOf_eq_none_iff.mpr h.unowned) howned
  phases := by
    intro caller
    rw [h.waiting]
    exact trivial

theorem PhaseKept.congr {phase : RacePhase} (htables : t.tables = s.tables)
    (hguest : t.guest = s.guest) (hclock : s.clock ≤ t.clock)
    (h : PhaseKept identity s caller phase) : PhaseKept identity t caller phase := by
  obtain ⟨tables, clock, guest, phases⟩ := t
  cases htables
  cases hguest
  have hattempt : ∀ attempt, AttemptKept s caller attempt →
      AttemptKept ⟨s.tables, clock, s.guest, phases⟩ caller attempt := fun attempt hkept =>
    ⟨hkept.startedAt_le.trans hclock, hkept.guest⟩
  have hagain : AgainKept identity s caller →
      AgainKept identity ⟨s.tables, clock, s.guest, phases⟩ caller := fun hkept =>
    ⟨hkept.given, hkept.owned, hkept.guest⟩
  cases phase with
  | waiting => trivial
  | started attempt again => exact ⟨hattempt attempt h.1, fun hsecond => hagain (h.2 hsecond)⟩
  | unmatched attempt again => exact ⟨hattempt attempt h.1, h.2⟩
  | resolved attempt again target =>
    cases target with
    | none => exact ⟨hattempt attempt h.1, h.2⟩
    | some target =>
      exact ⟨hattempt attempt h.1, h.2.1, fun hsecond => (h.2.2 hsecond).imp_left hagain⟩
  | failing attempt failure => exact ⟨hattempt attempt h.1, h.2⟩
  | ended outcome =>
    cases outcome with
    | linked userId => exact h
    | failed failure => exact h

theorem RaceKept.move (h : RaceKept identity s) {phase : RacePhase}
    (hrunning : ∀ outcome, s.phase caller ≠ .ended outcome)
    (hphase : PhaseKept identity s caller phase) : RaceKept identity (s.move caller phase) where
  constraints := h.constraints
  unique := h.unique
  apart := h.apart
  fresh := by
    intro other hbootstrapped hother
    refine h.fresh other hbootstrapped fun outcome => ?_
    by_cases hsame : other = caller
    · exact hsame ▸ hrunning outcome
    · have hkeeps := hother outcome
      rwa [LinkRace.phase_move_of_ne _ _ hsame] at hkeeps
  owner := by
    intro howned
    obtain ⟨winner, userId, hwinner⟩ := h.owner howned
    have hne : winner ≠ caller := by
      rintro rfl
      exact hrunning _ hwinner
    exact ⟨winner, userId, (LinkRace.phase_move_of_ne s phase hne).trans hwinner⟩
  phases := by
    intro other
    by_cases hsame : other = caller
    · subst hsame
      rw [LinkRace.phase_move]
      exact PhaseKept.congr (s := s) rfl rfl le_rfl hphase
    · rw [LinkRace.phase_move_of_ne s phase hsame]
      exact PhaseKept.congr (s := s) rfl rfl le_rfl (h.phases other)

theorem caller_eq_or_other (caller winner : Caller) : winner = caller ∨ winner = caller.other := by
  cases caller <;> cases winner <;> decide

theorem other_other (caller : Caller) : caller.other.other = caller := by
  cases caller <;> rfl

theorem other_ne (caller : Caller) : caller.other ≠ caller := by
  cases caller <;> decide

theorem full_of_owns {account : Account} (h : identity.Owns account) :
    account.accountType = .full := by
  rw [accountType_eq_full_iff]
  cases identity with
  | google google =>
    have hgoogle : account.googleId = some google.googleId := h
    simp [Account.hasLinkedLoginIdentity, hgoogle]
  | telegram telegram =>
    have htelegram : account.telegramId = some telegram.telegramId := h
    simp [Account.hasLinkedLoginIdentity, htelegram]

theorem RaceKept.not_again (h : RaceKept identity s)
    (hrunning : ∀ outcome, s.phase caller ≠ .ended outcome)
    (hother : ∀ outcome, s.phase caller.other ≠ .ended outcome) :
    ¬ AgainKept identity s caller.other := by
  intro hagain
  obtain ⟨winner, userId, hwinner⟩ := h.owner hagain.owned
  rcases caller_eq_or_other caller winner with rfl | rfl
  · exact hrunning _ hwinner
  · exact hother _ hwinner

section Committing

variable {tables : AccountTables} {createdAt now : Time} {again merged : Bool} {userId : Uuid}

theorem seen_of_given (hgiven : (s.guest caller).bootstrapped = false) :
    s.seen lifetime caller createdAt again = s.tables := by
  unfold LinkRace.seen
  rw [if_neg]
  simp [hgiven]

variable (h : RaceKept identity s)
  (hcommits : LinkCommits identity (s.seen lifetime caller createdAt again) tables
    (s.guest caller).userId userId merged now)

include h hcommits

theorem RaceKept.guest_commit
    (hpast : merged = true → (s.guest caller.other).userId = (s.guest caller).userId →
      ∀ later ∈ (s.phase caller.other).attempt, later.operationStartedAt ≤ now)
    {attempt : RaceAttempt} (hattempt : attempt ∈ (s.phase caller.other).attempt)
    (hseen : GuestSeen s caller.other attempt) :
    GuestSeen { s.move caller (.ended (.linked userId)) with tables := tables } caller.other
      attempt := by
  obtain ⟨snapshot, hsnapshot, hguest⟩ := hseen
  refine ⟨snapshot, hsnapshot, ?_⟩
  by_cases hsame : (s.guest caller.other).userId = (s.guest caller).userId
  · have hgiven : (s.guest caller).bootstrapped = false := by
      by_contra hbootstrapped
      exact h.apart caller (by simpa using hbootstrapped) hsame
    obtain ⟨guest, hfound, hlink, hspent⟩ := hcommits.guest
    rw [seen_of_given hgiven, ← hsame] at hfound
    rw [← hsame] at hspent
    rcases hguest with ⟨row, hrow, hstatus, htype⟩ | ⟨hgone, -⟩
    · have heq : row = guest := Option.some.inj (hrow.symm.trans hfound)
      subst heq
      rcases hspent with ⟨after, hafter, hafterStatus, hfull⟩ |
        ⟨hmerged, hgone, log, hlog, hid, hat⟩
      · exact .inl ⟨after, hafter, hstatus.trans hafterStatus.symm, fun _ => hfull⟩
      refine .inr ⟨hgone, ?_, hstatus.trans hlink.status_eq, log, hlog, hid, ?_⟩
      · cases hkind : snapshot.accountType with
        | guest => rfl
        | full =>
          have hfull := htype hkind
          rw [hlink.accountType_eq] at hfull
          cases hfull
      · exact (hpast hmerged hsame attempt hattempt).trans hat.ge
    · rw [hgone] at hfound
      cases hfound
  · rcases hguest with ⟨row, hrow, hstatus, htype⟩ | ⟨hgone, htype, hstatus, log, hlog, hid, hle⟩
    · obtain ⟨after, hafter, hkept⟩ := hcommits.kept _ hsame row ((account_seen hsame).trans hrow)
      exact .inl ⟨after, hafter, hstatus.trans hkept.status_eq.symm, fun hfull =>
        hkept.full (htype hfull)⟩
    · refine .inr ⟨hcommits.absent _ hsame ((account_seen hsame).trans hgone), htype, hstatus, log,
        hcommits.logs log ?_, hid, hle⟩
      unfold LinkRace.seen
      split <;> exact hlog

variable (hrunning : ∀ outcome, s.phase caller ≠ .ended outcome)

include hrunning

theorem RaceKept.ne_guest {otherId : Uuid} {row : Account}
    (hrow : s.tables.account otherId = some row) (hfull : row.accountType = .full) :
    otherId ≠ (s.guest caller).userId := by
  rintro rfl
  cases hbootstrapped : (s.guest caller).bootstrapped with
  | true =>
    rw [h.fresh caller hbootstrapped hrunning] at hrow
    cases hrow
  | false =>
    obtain ⟨guest, hguest, hlink, -⟩ := hcommits.guest
    rw [seen_of_given hbootstrapped, hrow] at hguest
    have htype := hlink.accountType_eq
    rw [← Option.some.inj hguest, hfull] at htype
    cases htype

theorem RaceKept.target_commit {target : LinkTarget}
    (htarget : TargetKept identity s.tables target) : TargetKept identity tables target := by
  obtain ⟨row, hrow, hfull, hattached⟩ := htarget
  have hne := h.ne_guest hcommits hrunning hrow hfull
  obtain ⟨after, hafter, hkept⟩ := hcommits.kept _ hne row ((account_seen hne).trans hrow)
  refine ⟨after, hafter, hkept.full hfull, ?_⟩
  cases hgoogle : target.attached with
  | none =>
    rw [hgoogle] at hattached
    exact hkept.owns hattached
  | some google =>
    rw [hgoogle] at hattached
    obtain ⟨rfl, hfree⟩ := hattached
    refine ⟨rfl, ?_⟩
    rcases hkept.googleId_eq with hsame | ⟨_, ⟨⟩, hset⟩
    · rwa [hsame]
    · exact .inr hset

variable (hpast : merged = true → (s.guest caller.other).userId = (s.guest caller).userId →
  ∀ later ∈ (s.phase caller.other).attempt, later.operationStartedAt ≤ now)

include hpast

theorem RaceKept.other_commit :
    PhaseKept identity { s.move caller (.ended (.linked userId)) with tables := tables }
      caller.other (s.phase caller.other) := by
  have howned : ownerOf tables identity ≠ none := by
    obtain ⟨⟨account, haccount, howns⟩, -⟩ := hcommits.alone
    exact fun hnone => ownerOf_eq_none_iff.mp hnone account (account_eq_some haccount).1 howns
  have hagain := fun hother => h.not_again hrunning hother
  have hattempt : ∀ attempt ∈ (s.phase caller.other).attempt,
      AttemptKept s caller.other attempt →
      AttemptKept { s.move caller (.ended (.linked userId)) with tables := tables } caller.other
        attempt := fun attempt hmem hkept =>
    ⟨hkept.startedAt_le, fun hgiven => h.guest_commit hcommits hpast hmem (hkept.guest hgiven)⟩
  have hkept := h.phases caller.other
  cases hphase : s.phase caller.other with
  | waiting => trivial
  | started attempt again =>
    rw [hphase] at hkept hattempt hagain
    exact ⟨hattempt attempt rfl hkept.1, fun hsecond =>
      absurd (hkept.2 hsecond) (hagain fun _ => RacePhase.noConfusion)⟩
  | unmatched attempt again =>
    rw [hphase] at hkept hattempt
    exact ⟨hattempt attempt rfl hkept.1, hkept.2⟩
  | resolved attempt again target =>
    rw [hphase] at hkept hattempt hagain
    cases target with
    | none => exact ⟨hattempt attempt rfl hkept.1, hkept.2.1, fun hnone => absurd hnone howned⟩
    | some target =>
      exact ⟨hattempt attempt rfl hkept.1, h.target_commit hcommits hrunning hkept.2.1,
        fun hsecond => absurd (hkept.2.2 hsecond).1 (hagain fun _ => RacePhase.noConfusion)⟩
  | failing attempt failure =>
    rw [hphase] at hkept hattempt
    refine ⟨hattempt attempt rfl hkept.1, hkept.2.imp_right fun hrest => ?_⟩
    refine hrest.imp (fun hmissing => ⟨hmissing.1, hmissing.2.1, ?_⟩) fun hduplicate =>
      ⟨hduplicate.1, hduplicate.2.1, howned⟩
    by_cases hsame : (s.guest caller.other).userId = (s.guest caller).userId
    · exfalso
      have hgiven : (s.guest caller).bootstrapped = false := by
        by_contra hbootstrapped
        exact h.apart caller (by simpa using hbootstrapped) hsame
      obtain ⟨guest, hfound, -⟩ := hcommits.guest
      rw [seen_of_given hgiven, ← hsame, hmissing.2.2] at hfound
      cases hfound
    · exact hcommits.absent _ hsame ((account_seen hsame).trans hmissing.2.2)
  | ended outcome =>
    rw [hphase] at hkept
    cases outcome with
    | failed failure => exact hkept
    | linked owner =>
      obtain ⟨⟨account, haccount, howns⟩, -⟩ := hkept
      have hne := h.ne_guest hcommits hrunning haccount (full_of_owns howns)
      obtain ⟨after, hafter, hrow⟩ :=
        hcommits.kept _ hne account ((account_seen hne).trans haccount)
      obtain ⟨hmem, hid⟩ := account_eq_some hafter
      have hsame : owner = userId := hid.symm.trans (hcommits.alone.2 after hmem (hrow.owns howns))
      exact hsame ▸ hcommits.alone

theorem RaceKept.commit :
    RaceKept identity { s.move caller (.ended (.linked userId)) with tables := tables } where
  constraints := hcommits.constraints
  unique := fun row hrow other hother howns hotherOwns =>
    (hcommits.alone.2 row hrow howns).trans (hcommits.alone.2 other hother hotherOwns).symm
  apart := h.apart
  fresh := by
    intro other hbootstrapped hother
    rcases caller_eq_or_other caller other with rfl | rfl
    · exact absurd (LinkRace.phase_move s other _) (hother _)
    have hne : (s.guest caller.other).userId ≠ (s.guest caller).userId := by
      have hapart := h.apart caller.other hbootstrapped
      rw [other_other] at hapart
      exact hapart.symm
    refine hcommits.absent _ hne ((account_seen hne).trans (h.fresh _ hbootstrapped ?_))
    intro outcome hended
    exact hother outcome ((LinkRace.phase_move_of_ne s _ (other_ne caller)).trans hended)
  owner := fun _ => ⟨caller, userId, LinkRace.phase_move s caller _⟩
  phases := by
    intro other
    rcases caller_eq_or_other caller other with rfl | rfl
    · have hphase := LinkRace.phase_move s other (.ended (.linked userId))
      dsimp only
      rw [hphase]
      exact hcommits.alone
    have hphase := LinkRace.phase_move_of_ne s (.ended (.linked userId)) (other_ne caller)
    dsimp only
    rw [hphase]
    exact h.other_commit hcommits hrunning hpast

end Committing

theorem tick_kept (h : RaceKept identity s) {now : Time} (hle : s.clock ≤ now) :
    RaceKept identity { s with clock := now } where
  constraints := h.constraints
  unique := h.unique
  apart := h.apart
  fresh := h.fresh
  owner := h.owner
  phases := fun caller => PhaseKept.congr (s := s) rfl rfl hle (h.phases caller)

theorem start_kept (h : RaceKept identity s) {createdAt startedAt : Time}
    (hwaiting : s.phase caller = .waiting) (hle : startedAt ≤ s.clock)
    (hsafe : (s.guest caller).bootstrapped = false →
      s.tables.account (s.guest caller).userId ≠ none) :
    RaceKept identity (s.move caller (.started ⟨⟨startedAt,
      (s.seen lifetime caller createdAt false).account (s.guest caller).userId⟩, createdAt⟩
        false)) := by
  refine h.move (fun outcome => by rw [hwaiting]; exact RacePhase.noConfusion) ⟨⟨hle, ?_⟩, nofun⟩
  intro hgiven
  obtain ⟨row, hrow⟩ := Option.ne_none_iff_exists'.mp (hsafe hgiven)
  exact ⟨row, by rw [seen_of_given hgiven]; exact hrow, .inl ⟨row, hrow, rfl, id⟩⟩

theorem failsOnly_resolveSubject (tables : AccountTables) :
    FailsOnly IsConflict (resolveSubject tables identity) := by
  cases howner : ownerOf tables identity with
  | none =>
    simp only [resolveSubject, howner]
    exact failsOnly_ok _
  | some user =>
    cases identity with
    | google google =>
      simp only [resolveSubject, howner]
      exact (failsOnly_ensureAccountIsAvailable _).bind fun _ _ => failsOnly_ok _
    | telegram telegram =>
      simp only [resolveSubject, howner]
      exact failsOnly_ok _

theorem resolveSubject_ok {tables : AccountTables} {found : Option LinkTarget}
    (h : resolveSubject tables identity = .ok found) :
    found = (ownerOf tables identity).map fun user => ⟨user.id, none⟩ := by
  unfold resolveSubject at h
  split at h
  · next howner =>
    cases h
    rw [howner]
    rfl
  · next user howner =>
    obtain ⟨_, -, h⟩ := bind_eq_ok.mp h
    cases h
    rw [howner]
    rfl
  next user howner =>
  cases h
  rw [howner]
  rfl

theorem failsOnly_resolveAddress (tables : AccountTables) :
    FailsOnly IsConflict (resolveAddress tables identity) := by
  unfold resolveAddress
  split
  · split
    · exact (failsOnly_ensureGoogleReuseIsAllowed _).bind fun _ _ => failsOnly_ok _
    · exact failsOnly_ok _
  · exact failsOnly_ok _

theorem resolveAddress_ok {tables : AccountTables} {found : Option LinkTarget}
    (hidentity : identity.Valid) (h : resolveAddress tables identity = .ok found) :
    (found = none ∧ ∀ email ∈ identity.toUpgrade.email, tables.getByEmail email = none) ∨
    ∃ google user email, identity = .google google ∧ found = some ⟨user.id, some google⟩ ∧
      tables.getByEmail email = some user ∧ user.googleId = none := by
  cases identity with
  | telegram telegram =>
    cases h
    exact .inl ⟨rfl, fun _ hemail => by cases hemail⟩
  | google google =>
    simp only [resolveAddress] at h
    split at h
    · next user huser =>
      obtain ⟨_, hallowed, h⟩ := bind_eq_ok.mp h
      cases h
      obtain ⟨-, hgoogle⟩ := ensureGoogleReuseIsAllowed_ok hallowed
      obtain ⟨-, huser⟩ := Option.ite_none_right_eq_some.mp huser
      obtain ⟨email, -, hfound⟩ := Option.bind_eq_some_iff.mp huser
      exact .inr ⟨google, user, email, rfl, rfl, hfound, hgoogle⟩
    next hnone =>
    cases h
    refine .inl ⟨rfl, fun email hemail => ?_⟩
    have haddress : google.email = some email := hemail
    have hverified : google.emailVerifiedAt.isSome = true := by
      rw [Option.isSome_iff_ne_none]
      intro hunverified
      have habsent := hidentity.mpr hunverified
      rw [haddress] at habsent
      cases habsent
    rw [reusableUser, if_pos hverified, haddress] at hnone
    exact hnone

theorem lookup_kept (h : RaceKept identity s)
    (hrunning : ∀ outcome, s.phase caller ≠ .ended outcome)
    {found : Except ServiceError (Option LinkTarget)} {next : Option LinkTarget → RacePhase}
    (hfails : FailsOnly IsConflict found)
    (hnext : ∀ target, found = .ok target → PhaseKept identity s caller (next target)) :
    RaceKept identity (afterLookup s caller found next) := by
  unfold afterLookup
  split
  · exact h.move hrunning (hnext _ rfl)
  · exact h.move hrunning (hfails _ rfl)

theorem resolve_kept (hidentity : identity.Valid) (h : RaceKept identity s)
    (hstep : resolveStep lifetime identity s caller = some t) : RaceKept identity t := by
  have hphase := h.phases caller
  unfold resolveStep at hstep
  split at hstep
  · next attempt again heq =>
    cases hstep
    rw [heq] at hphase
    obtain ⟨hattempt, hagain⟩ := hphase
    have hseen := ownerOf_seen identity s lifetime attempt.createdAt caller again
    refine lookup_kept h (fun _ hended => by rw [heq] at hended; cases hended)
      (failsOnly_resolveSubject _) fun target htarget => ?_
    have hfound := resolveSubject_ok htarget
    rw [hseen] at hfound
    cases howner : ownerOf s.tables identity with
    | none =>
      rw [howner, Option.map_none] at hfound
      rw [if_pos hfound]
      refine ⟨hattempt, ?_⟩
      cases again with
      | false => rfl
      | true => exact absurd howner (hagain rfl).owned
    | some user =>
      rw [howner, Option.map_some] at hfound
      subst hfound
      rw [if_neg (Option.some_ne_none _)]
      obtain ⟨hmem, howns⟩ := ownerOf_eq_some howner
      exact ⟨hattempt, ⟨user, account_of_member h.constraints hmem, full_of_owns howns, howns⟩,
        fun hsecond => ⟨hagain hsecond, rfl⟩⟩
  · next attempt again heq =>
    cases hstep
    rw [heq] at hphase
    obtain ⟨hattempt, rfl⟩ := hphase
    have hseen := getByEmail_seen s lifetime attempt.createdAt caller false
    refine lookup_kept h (fun _ hended => by rw [heq] at hended; cases hended)
      (failsOnly_resolveAddress _) fun target htarget => ?_
    rcases resolveAddress_ok hidentity htarget with ⟨rfl, hfree⟩ |
      ⟨google, user, email, rfl, rfl, hfound, hgoogle⟩
    · exact ⟨hattempt, rfl, fun _ email hemail => (hseen email).symm.trans (hfree email hemail)⟩
    rw [hseen] at hfound
    obtain ⟨hmem, hemail⟩ := getByEmail_eq_some hfound
    have hfull : user.accountType = .full := by
      rw [accountType_eq_full_iff]
      simp [Account.hasLinkedLoginIdentity, hemail]
    exact ⟨hattempt, ⟨user, account_of_member h.constraints hmem, hfull, rfl, .inl hgoogle⟩,
      fun hsecond => by cases hsecond⟩
  · cases hstep

section Linking

variable {attempt : RaceAttempt} {again : Bool} {target : Option LinkTarget} {ids : MergeIds}
  {now createdAt : Time} {failure : ServiceError}

theorem account_seen_of_some {userId : Uuid} {row : Account}
    (hrow : s.tables.account userId = some row) :
    (s.seen lifetime caller createdAt again).account userId = some row := by
  unfold LinkRace.seen
  split
  · rw [account_createGuestUser, hrow, Option.some_or]
  · exact hrow

theorem seen_guest_none
    (hnone : (s.seen lifetime caller createdAt false).account (s.guest caller).userId = none) :
    (s.guest caller).bootstrapped = false ∧ s.tables.account (s.guest caller).userId = none := by
  unfold LinkRace.seen at hnone
  split at hnone
  · rw [account_createGuestUser, if_pos rfl] at hnone
    cases hfound : s.tables.account (s.guest caller).userId with
    | none =>
      rw [hfound] at hnone
      cases hnone
    | some row =>
      rw [hfound] at hnone
      cases hnone
  · next hgiven => exact ⟨by simpa using hgiven, hnone⟩

theorem RaceKept.seen_kept (h : RaceKept identity s)
    (hrunning : ∀ outcome, s.phase caller ≠ .ended outcome) (lifetime createdAt : Time)
    (again : Bool) :
    (s.seen lifetime caller createdAt again).library.Constraints ∧
    ∀ row ∈ (s.seen lifetime caller createdAt again).accounts,
      ∀ other ∈ (s.seen lifetime caller createdAt again).accounts, identity.Owns row →
        identity.Owns other → row.id = other.id := by
  unfold LinkRace.seen
  split
  · next hown =>
    refine ⟨constraints_createGuestUser h.constraints (h.fresh caller hown.1 hrunning) _ _, ?_⟩
    have hold : ∀ row ∈ (createGuestUser s.tables (s.guest caller).userId createdAt
        lifetime).accounts, identity.Owns row → row ∈ s.tables.accounts := by
      intro row hrow howns
      rcases List.mem_append.mp hrow with hmem | hnew
      · exact hmem
      · cases List.mem_singleton.mp hnew
        cases identity <;> cases howns
    intro row hrow other hother howns hotherOwns
    exact h.unique row (hold row hrow howns) other (hold other hother hotherOwns) howns hotherOwns
  · exact ⟨h.constraints, h.unique⟩

theorem target_seen {target : LinkTarget} (htarget : TargetKept identity s.tables target) :
    TargetKept identity (s.seen lifetime caller createdAt again) target := by
  obtain ⟨row, hrow, hkept⟩ := htarget
  exact ⟨row, account_seen_of_some hrow, hkept⟩

theorem upgradable_toUpgrade (hidentity : identity.Valid) : Upgradable identity.toUpgrade := by
  cases identity with
  | google google =>
    exact
      { positive := fun hzero => by cases hzero
        any := .inr (.inl rfl)
        verified := hidentity.mp
        password := fun _ => rfl }
  | telegram telegram =>
    exact
      { positive := fun hzero => hidentity (Option.some.inj hzero)
        any := .inl rfl
        verified := fun _ => rfl
        password := fun _ => rfl }

theorem available_of_unowned (hnone : ownerOf s.tables identity = none)
    (hfree : ∀ email ∈ identity.toUpgrade.email, s.tables.getByEmail email = none) :
    Available (s.seen lifetime caller createdAt again) identity.toUpgrade.telegramId
      identity.toUpgrade.googleId identity.toUpgrade.email := by
  rw [← ownerOf_seen identity s lifetime createdAt caller again] at hnone
  refine ⟨?_, ?_, fun email hemail => ?_⟩
  · cases identity with
    | google google => exact fun _ h => by cases h
    | telegram telegram =>
      rintro _ ⟨⟩
      exact hnone
  · cases identity with
    | google google =>
      rintro _ ⟨⟩
      exact hnone
    | telegram telegram => exact fun _ h => by cases h
  · rw [getByEmail_seen]
    exact hfree email hemail

theorem freshCollection_of_ids (hids : freshMergeIds s.tables ids = true) :
    FreshCollection s.tables.content ids.favoritesId := by
  simp only [freshMergeIds, Bool.and_eq_true, List.all_eq_true, decide_eq_true_eq] at hids
  exact hids

theorem freshCollection_seen (hids : freshMergeIds s.tables ids = true) :
    FreshCollection (s.seen lifetime caller createdAt again).content ids.favoritesId := by
  unfold LinkRace.seen
  split <;> exact freshCollection_of_ids hids

theorem failure_first (hidentity : identity.Valid) (h : RaceKept identity s)
    (hphase : s.phase caller = .resolved attempt false target)
    (hids : freshMergeIds s.tables ids = true)
    (hsafe : (s.guest caller).bootstrapped = true → ∀ owner,
      ownerOf s.tables identity = some owner → target.map LinkTarget.userId = some owner.id)
    (hfailed : linkResolved (s.seen lifetime caller attempt.createdAt false)
      (s.guest caller).userId identity target ids now = .error failure) :
    FailureKept identity s caller failure := by
  have hrunning : ∀ outcome, s.phase caller ≠ .ended outcome := fun _ hended => by
    rw [hphase] at hended
    cases hended
  have hkept := h.phases caller
  rw [hphase] at hkept
  cases target with
  | none =>
    obtain ⟨-, -, hfree⟩ := hkept
    obtain hconflict | ⟨hkind, hnone⟩ | ⟨hkind, htaken⟩ :=
      failsOnly_upgradeGuestInPlace (upgradable_toUpgrade hidentity) now failure hfailed
    · exact .inl hconflict
    · exact .inr (.inl ⟨hkind, seen_guest_none hnone⟩)
    have howned : ownerOf s.tables identity ≠ none := fun hnone =>
      htaken (available_of_unowned hnone (hfree hnone))
    refine .inr (.inr ⟨hkind, ?_, howned⟩)
    by_contra hbootstrapped
    obtain ⟨owner, howner⟩ := Option.ne_none_iff_exists'.mp howned
    have hsame := hsafe (by simpa using hbootstrapped) owner howner
    cases hsame
  | some target =>
    obtain ⟨-, htarget, -⟩ := hkept
    obtain ⟨row, hrow, -, hattached⟩ := htarget
    obtain ⟨hcommits, -⟩ := h.seen_kept hrunning lifetime attempt.createdAt false
    obtain hconflict | ⟨hkind, hnone⟩ | ⟨hkind, google, hgoogle, hconflict⟩ :=
      failsOnly_mergeGuestIntoFull hcommits (account_seen_of_some hrow) target.attached
        (freshCollection_seen hids) now failure hfailed
    · exact .inl hconflict
    · exact .inr (.inl ⟨hkind, seen_guest_none hnone⟩)
    have hattachedTo : target.attached = some google := hgoogle
    rw [hattachedTo] at hattached
    obtain ⟨rfl, hfree⟩ := hattached
    rcases hconflict with ⟨hnone, htaken⟩ | ⟨googleId, hother, hne⟩
    · have howned : ownerOf s.tables (.google google) ≠ none := by
        rw [← ownerOf_seen _ s lifetime attempt.createdAt caller false]
        exact htaken
      refine .inr (.inr ⟨hkind, ?_, howned⟩)
      by_contra hbootstrapped
      obtain ⟨owner, howner⟩ := Option.ne_none_iff_exists'.mp howned
      obtain ⟨hmem, howns⟩ := ownerOf_eq_some howner
      have hid : target.userId = owner.id :=
        Option.some.inj (hsafe (by simpa using hbootstrapped) owner howner)
      have hsame : row = owner := by
        rw [hid] at hrow
        exact Option.some.inj (hrow.symm.trans (account_of_member h.constraints hmem))
      have hsubject : owner.googleId = some google.googleId := howns
      rw [← hsame, hnone] at hsubject
      cases hsubject
    · exfalso
      rcases hfree with hnone | hsome
      · rw [hnone] at hother
        cases hother
      · exact hne (Option.some.inj (hother.symm.trans hsome))

theorem failure_again (h : RaceKept identity s)
    (hphase : s.phase caller = .resolved attempt true target)
    (hids : freshMergeIds s.tables ids = true)
    (hfailed : attemptLink lifetime identity s caller attempt true target ids now =
      .error failure) :
    IsConflict failure := by
  have hkept := h.phases caller
  rw [hphase] at hkept
  cases target with
  | none => cases hkept.2.1
  | some target =>
    obtain ⟨-, ⟨row, hrow, -⟩, hagain⟩ := hkept
    obtain ⟨hsecond, hattached⟩ := hagain rfl
    rw [attemptLink, if_neg (by simp), seen_of_given hsecond.given] at hfailed
    obtain hconflict | ⟨-, hnone⟩ | ⟨-, google, hgoogle, -⟩ :=
      failsOnly_mergeGuestIntoFull h.constraints hrow target.attached
        (freshCollection_of_ids hids) now failure hfailed
    · exact hconflict
    · exact absurd hnone hsecond.guest
    · rw [hattached] at hgoogle
      cases hgoogle

theorem link_kept (hidentity : identity.Valid) (h : RaceKept identity s)
    (hsafe : RaceSafe identity s (.link caller ids now))
    (hstep : linkCallStep lifetime identity s caller ids now = some t) : RaceKept identity t := by
  unfold linkCallStep at hstep
  split at hstep
  · next attempt again target hphase =>
    obtain ⟨⟨-, -, hids⟩, hstep⟩ := Option.ite_none_right_eq_some.mp hstep
    obtain ⟨hwins, hpast⟩ := hsafe target (by rw [hphase]; rfl)
    have hrunning : ∀ outcome, s.phase caller ≠ .ended outcome := fun _ hended => by
      rw [hphase] at hended
      cases hended
    split at hstep
    · next tables htables =>
      cases hstep
      unfold attemptLink at htables
      split at htables
      · cases htables
      obtain ⟨hcommits, hunique⟩ := h.seen_kept hrunning lifetime attempt.createdAt again
      have hkept := h.phases caller
      rw [hphase] at hkept
      cases target with
      | none => exact h.commit (commits_upgrade hcommits htables) hrunning fun h => by cases h
      | some target =>
        exact h.commit (commits_merge hunique (target_seen hkept.2.1) htables) hrunning
          fun _ => hpast rfl
    · next failure hfailed =>
      cases again with
      | true =>
        cases hstep
        exact h.move hrunning (failure_again h hphase hids hfailed)
      | false =>
        cases hstep
        rw [attemptLink, if_neg (by simp)] at hfailed
        refine h.move hrunning ⟨?_, failure_first hidentity h hphase hids hwins hfailed⟩
        have hkept := h.phases caller
        rw [hphase] at hkept
        cases target with
        | none => exact hkept.1
        | some target => exact hkept.1
  · cases hstep

end Linking

theorem linkAlreadyCompleted_of_gone {attempt : RaceAttempt}
    (hseen : GuestSeen s caller attempt)
    (hnone : s.tables.account (s.guest caller).userId = none) :
    linkAlreadyCompleted s.tables (s.guest caller).userId attempt.toLinkAttempt = true := by
  obtain ⟨snapshot, hsnapshot, ⟨row, hrow, -⟩ | ⟨-, htype, hstatus, log, hlog, hid, hle⟩⟩ := hseen
  · rw [hnone] at hrow
    cases hrow
  have hmerged : completedElsewhereMergeLog s.tables (s.guest caller).userId
      attempt.operationStartedAt = true :=
    List.any_eq_true.mpr ⟨log, hlog, by simpa using ⟨hid, hle⟩⟩
  simp [linkAlreadyCompleted, hsnapshot, htype, hstatus, hmerged]

theorem postMortem_kept (h : RaceKept identity s)
    (hstep : postMortemStep identity s caller = some t) : RaceKept identity t := by
  unfold postMortemStep at hstep
  split at hstep
  · next attempt failure hphase =>
    have hkept := h.phases caller
    rw [hphase] at hkept
    obtain ⟨hattempt, hfailure⟩ := hkept
    have hrunning : ∀ outcome, s.phase caller ≠ .ended outcome := fun _ hended => by
      rw [hphase] at hended
      cases hended
    split at hstep
    · cases hstep
      exact h.move hrunning List.mem_cons_self
    next hopen =>
    have hpresent : (s.guest caller).bootstrapped = false →
        s.tables.account (s.guest caller).userId ≠ none := fun hgiven hnone =>
      hopen (linkAlreadyCompleted_of_gone (hattempt.guest hgiven) hnone)
    split at hstep
    · next hduplicate =>
      cases hstep
      refine h.move hrunning ⟨hattempt, fun _ => ?_⟩
      rcases hfailure with hconflict | ⟨hkind, -⟩ | ⟨-, hgiven, howned⟩
      · rw [IsConflict, hduplicate] at hconflict
        exact absurd hconflict (by decide)
      · rw [hduplicate] at hkind
        cases hkind
      · exact ⟨hgiven, howned, hpresent hgiven⟩
    · next hother =>
      cases hstep
      refine h.move hrunning ?_
      rcases hfailure with hconflict | ⟨-, hgiven, hnone⟩ | ⟨hkind, -⟩
      · unfold translated
        split
        · exact List.mem_cons_of_mem _ List.mem_cons_self
        · exact hconflict
      · exact absurd hnone (hpresent hgiven)
      · exact absurd hkind hother
  · cases hstep

theorem raceStep_kept (hidentity : identity.Valid) (h : RaceKept identity s) {label : RaceLabel}
    (hsafe : RaceSafe identity s label) (hstep : raceStep lifetime identity s label = some t) :
    RaceKept identity t := by
  cases label with
  | tick now =>
    obtain ⟨hle, heq⟩ := Option.ite_none_right_eq_some.mp hstep
    cases heq
    exact tick_kept h hle
  | start caller createdAt startedAt =>
    obtain ⟨⟨hwaiting, -, hle⟩, heq⟩ := Option.ite_none_right_eq_some.mp hstep
    cases heq
    exact start_kept h hwaiting hle hsafe
  | resolve caller => exact resolve_kept hidentity h hstep
  | link caller ids now => exact link_kept hidentity h hsafe hstep
  | postMortem caller => exact postMortem_kept h hstep

theorem exists_freshMergeIds (tables : AccountTables) : ∃ ids, freshMergeIds tables ids = true := by
  obtain ⟨favoritesId, hfresh⟩ := Infinite.exists_notMem_finset
    (tables.content.collections.map Collection.id ++
      tables.content.members.map CollectionMember.collectionId).toFinset
  rw [List.mem_toFinset, List.mem_append, not_or] at hfresh
  refine ⟨⟨0, favoritesId⟩, ?_⟩
  simp only [freshMergeIds, Bool.and_eq_true, List.all_eq_true, decide_eq_true_eq]
  exact ⟨fun collection hmem hid => hfresh.1 (List.mem_map.mpr ⟨collection, hmem, hid⟩),
    fun member hmem hid => hfresh.2 (List.mem_map.mpr ⟨member, hmem, hid⟩)⟩

theorem rank_afterLookup (found : Except ServiceError (Option LinkTarget))
    {next : Option LinkTarget → RacePhase} {rank : Nat} (hended : rank < 8)
    (hnext : ∀ target, rank < (next target).rank) :
    rank < ((afterLookup s caller found next).phase caller).rank := by
  unfold afterLookup
  split
  · rw [LinkRace.phase_move]
    exact hnext _
  · rw [LinkRace.phase_move]
    exact hended

theorem RaceKept.moves_on (h : RaceKept identity s)
    (hrunning : ∀ outcome, s.phase caller ≠ .ended outcome) :
    ∃ label t, raceStep lifetime identity s label = some t ∧
      (s.phase caller).rank < (t.phase caller).rank := by
  have hkept := h.phases caller
  cases hphase : s.phase caller with
  | waiting =>
    refine ⟨.start caller s.clock s.clock, _, if_pos ⟨hphase, le_rfl, le_rfl⟩, ?_⟩
    rw [LinkRace.phase_move]
    exact Nat.one_pos
  | started attempt again =>
    refine ⟨.resolve caller, _, by rw [raceStep, resolveStep, hphase], ?_⟩
    refine rank_afterLookup _ ?_ fun target => ?_
    · cases again <;> simp [RacePhase.rank]
    · split <;> cases again <;> simp [RacePhase.rank]
  | unmatched attempt again =>
    refine ⟨.resolve caller, _, by rw [raceStep, resolveStep, hphase], ?_⟩
    refine rank_afterLookup _ ?_ fun target => ?_
    · cases again <;> simp [RacePhase.rank]
    · cases again <;> simp [RacePhase.rank]
  | resolved attempt again target =>
    rw [hphase] at hkept
    obtain ⟨ids, hids⟩ := exists_freshMergeIds s.tables
    have hstarted : attempt.operationStartedAt ≤ s.clock := by
      cases target with
      | none => exact hkept.1.startedAt_le
      | some target => exact hkept.1.startedAt_le
    have hstep : raceStep lifetime identity s (.link caller ids s.clock) =
        linkCallStep lifetime identity s caller ids s.clock := rfl
    simp only [linkCallStep, hphase, hstarted, le_refl, hids, true_and, if_true] at hstep
    split at hstep
    · refine ⟨_, _, hstep, ?_⟩
      dsimp only
      rw [LinkRace.phase_move]
      cases again <;> simp [RacePhase.rank]
    cases again with
    | true =>
      refine ⟨_, _, hstep, ?_⟩
      rw [LinkRace.phase_move]
      exact Nat.lt_succ_self 7
    | false =>
      refine ⟨_, _, hstep, ?_⟩
      rw [LinkRace.phase_move]
      exact Nat.lt_succ_self 3
  | failing attempt failure =>
    have hstep : raceStep lifetime identity s (.postMortem caller) =
        postMortemStep identity s caller := rfl
    simp only [postMortemStep, hphase] at hstep
    split at hstep
    · refine ⟨_, _, hstep, ?_⟩
      rw [LinkRace.phase_move]
      simp [RacePhase.rank]
    split at hstep
    · refine ⟨_, _, hstep, ?_⟩
      rw [LinkRace.phase_move]
      exact Nat.lt_succ_self 4
    · refine ⟨_, _, hstep, ?_⟩
      rw [LinkRace.phase_move]
      simp [RacePhase.rank]
  | ended outcome => exact absurd hphase (hrunning outcome)

end Keeping

/-- Two calls that link one new identity end with the account that has it or with a
documented conflict, as long as none of them loses the race with a guest of its own. -/
theorem link_race_survived {lifetime : Time} {identity : ExternalIdentity} {s : LinkRace}
    (hidentity : identity.Valid) (hinitial : RaceInitial identity s) (labels : List RaceLabel)
    (hsafe : ∀ x ∈ transitions (raceStep lifetime identity) s labels,
      RaceSafe identity x.before x.label) :
    SurvivesRace lifetime identity (final (raceStep lifetime identity) s labels) := by
  have hkept : RaceKept identity (final (raceStep lifetime identity) s labels) :=
    invariant_final (raceKept_initial hinitial) fun x hx h =>
      raceStep_kept hidentity h (hsafe x hx) (step_of_mem_transitions hx)
  have hphases := hkept.phases
  exact
    { linked := by
        intro caller userId hended
        have hphase := hphases caller
        rwa [hended] at hphase
      failed := by
        intro caller failure hended
        have hphase := hphases caller
        rwa [hended] at hphase
      moves_on := fun _ => hkept.moves_on }

section Witnesses

def raceOf (accounts : List Account) (bootstrapped : Bool) : LinkRace where
  tables := { accounts := accounts }
  clock := 5
  guest := fun caller => ⟨if caller = .first then 1 else 2, bootstrapped⟩
  phase := fun _ => .waiting

def closeRace : List RaceLabel :=
  [.start .first 3 3, .start .second 4 4, .resolve .first, .resolve .second, .resolve .first,
    .resolve .second, .link .first ⟨10, 11⟩ 5, .link .second ⟨12, 13⟩ 5, .postMortem .second,
    .resolve .second, .link .second ⟨14, 15⟩ 5]

instance (identity : ExternalIdentity) (account : Account) : Decidable (identity.Owns account) :=
  match identity with
  | .google _ => inferInstanceAs (Decidable (_ = _))
  | .telegram _ => inferInstanceAs (Decidable (_ = _))

instance (identity : ExternalIdentity) (s : LinkRace) (caller : Caller) (now : Time)
    (target : Option LinkTarget) : Decidable (LinkSafe identity s caller now target) :=
  decidable_of_iff
    (((s.guest caller).bootstrapped = true → ∀ owner ∈ ownerOf s.tables identity,
      target.map LinkTarget.userId = some owner.id) ∧
    (target.isSome = true → (s.guest caller.other).userId = (s.guest caller).userId →
      ∀ later ∈ (s.phase caller.other).attempt, later.operationStartedAt ≤ now))
    ⟨fun h => ⟨h.1, h.2⟩, fun h => ⟨h.1, h.2⟩⟩

instance (identity : ExternalIdentity) (s : LinkRace) (label : RaceLabel) :
    Decidable (RaceSafe identity s label) :=
  match label with
  | .start caller _ _ => inferInstanceAs (Decidable ((s.guest caller).bootstrapped = false →
      s.tables.account (s.guest caller).userId ≠ none))
  | .link caller _ now => inferInstanceAs (Decidable (∀ target ∈ (s.phase caller).target,
      LinkSafe identity s caller now target))
  | .tick _ | .resolve _ | .postMortem _ => inferInstanceAs (Decidable True)

theorem raceOf_initial (bootstrapped : Bool) (accounts : List Account)
    (haccounts : (raceOf accounts bootstrapped).tables.library.Constraints)
    (hunowned : ∀ account ∈ accounts, ¬ (ExternalIdentity.telegram ⟨7⟩).Owns account)
    (hfresh : bootstrapped = true → accounts = []) :
    RaceInitial (.telegram ⟨7⟩) (raceOf accounts bootstrapped) where
  constraints := haccounts
  unowned := hunowned
  waiting := fun _ => rfl
  fresh := by
    intro caller hbootstrapped
    have hnil : accounts = [] := hfresh hbootstrapped
    subst hnil
    exact ⟨rfl, by cases caller <;> simp [raceOf, Caller.other]⟩

/-- The loser of the race keeps the guest it was given and merges it into the winner. -/
theorem link_race_survived_merged :
    SurvivesRace 9 (.telegram ⟨7⟩)
      (final (raceStep 9 (.telegram ⟨7⟩)) (raceOf [{ id := 1 }, { id := 2 }] false) closeRace) ∧
    (final (raceStep 9 (.telegram ⟨7⟩)) (raceOf [{ id := 1 }, { id := 2 }] false)
      closeRace).phase .second = .ended (.linked 1) :=
  ⟨link_race_survived (show (ExternalIdentity.telegram ⟨7⟩).Valid from Nat.succ_ne_zero 6)
    (raceOf_initial false _ (by decide) (by decide) nofun) closeRace (by decide +kernel),
    by decide +kernel⟩

/-- The loser of the race has lost its own guest in the rollback, and its merge finds no user. -/
theorem bootstrapped_loser_fails : ¬ ∀ s labels, RaceInitial (.telegram ⟨7⟩) s →
    SurvivesRace 9 (.telegram ⟨7⟩) (final (raceStep 9 (.telegram ⟨7⟩)) s labels) := by
  intro h
  have hsurvives := h (raceOf [] true) closeRace
    (raceOf_initial true [] (by decide) (by decide) fun _ => rfl)
  have hended : (final (raceStep 9 (.telegram ⟨7⟩)) (raceOf [] true) closeRace).phase .second =
      .ended (.failed ⟨.userNotFound, "User 2 does not exist."⟩) := by decide +kernel
  have hconflict := hsurvives.failed .second _ hended
  exact absurd hconflict (by decide)

end Witnesses

end MemeExpert.Services
