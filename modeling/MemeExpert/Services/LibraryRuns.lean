import MemeExpert.Lib.Runs
import MemeExpert.Services.AccountLink
import MemeExpert.Services.ContentMerge

/-! Every operation that writes users, memes, saves or pins, as one step each. An operation
that raises leaves the tables as they were. -/

namespace MemeExpert.Services

open Ingest Results Runs

inductive LibraryLabel where
  | createGuest (userId : Uuid)
  | upgradeGuest (userId : Uuid) (telegramId : Option Nat) (googleId email : Option String)
  | mergeGuest (guestUserId targetUserId newId : Uuid) (googleId : Option String)
  | ensureFavorites (userId newId : Uuid)
  | createCustomCollection (ownerUserId newId : Uuid)
  | ensureMember (collectionId userId : Uuid) (role : CollectionMembershipRole)
  | updateActiveSaveCollection (userId collectionId : Uuid)
  | deleteCustomCollection (collectionId userId : Uuid)
  | saveMeme (collectionId userId memeId : Uuid) (now : Time)
  | removeMeme (collectionId userId memeId : Uuid)
  | favoriteMeme (userId memeId newId : Uuid) (now : Time)
  | unfavoriteMeme (userId memeId : Uuid)
  | saveMemeToActive (userId memeId newId : Uuid) (now : Time)
  | removeMemeFromActive (userId memeId : Uuid)
  | pinMeme (userId memeId : Uuid) (now : Time)
  | unpinMeme (userId memeId : Uuid)
  | reorderPins (userId : Uuid) (memeIds : List Uuid)
  | materializeMeme (memeId : Uuid) (isPublic : Bool) (uploaderUserId targetCollectionId : Option Uuid)
      (now : Time)
  | attachShaDuplicate (memeId : Uuid) (isPublic : Bool)
      (uploaderUserId targetCollectionId : Option Uuid) (now : Time)
  | refreshVisibility (memeId : Uuid) (isPublic : Bool)
  | mergeMeme (memeId targetMemeId : Uuid) (confirmation : String) (isPublic : Bool)
  | mergeAfterEmbed (memeId : Uuid) (similar : List Uuid) (uploader : Uuid → Option Uuid)
      (isPublic : Bool)
  | reconcileSha (sha256Hex : String) (files : List Uuid) (isPublic : Bool)
  | deleteMeme (memeId : Uuid) (confirmation : String)

def runLibrary (s : Library) : LibraryLabel → Except ServiceError Library
  | .createGuest userId => createGuest s userId
  | .upgradeGuest userId telegramId googleId email => upgradeGuest s userId telegramId googleId email
  | .mergeGuest guestUserId targetUserId newId googleId =>
    mergeGuestIntoExistingFull s guestUserId targetUserId newId googleId
  | .ensureFavorites userId newId => (ensureFavoritesCollection s userId newId).map Prod.fst
  | .createCustomCollection ownerUserId newId => createCustomCollection s ownerUserId newId
  | .ensureMember collectionId userId role => ensureMember s collectionId userId role
  | .updateActiveSaveCollection userId collectionId =>
    updateActiveSaveCollection s userId collectionId
  | .deleteCustomCollection collectionId userId => deleteCustomCollection s collectionId userId
  | .saveMeme collectionId userId memeId now =>
    (saveMemeToCollection s collectionId userId memeId now).map Prod.fst
  | .removeMeme collectionId userId memeId =>
    (removeMemeFromCollection s collectionId userId memeId).map Prod.fst
  | .favoriteMeme userId memeId newId now => (favoriteMeme s userId memeId newId now).map Prod.fst
  | .unfavoriteMeme userId memeId => (unfavoriteMeme s userId memeId).map Prod.fst
  | .saveMemeToActive userId memeId newId now =>
    (saveMemeToActiveCollection s userId memeId newId now).map Prod.fst
  | .removeMemeFromActive userId memeId =>
    (removeMemeFromActiveCollection s userId memeId).map Prod.fst
  | .pinMeme userId memeId now => (pinMeme s userId memeId now).map Prod.fst
  | .unpinMeme userId memeId => (unpinMeme s userId memeId).map Prod.fst
  | .reorderPins userId memeIds => reorderPins s userId memeIds
  | .materializeMeme memeId isPublic uploaderUserId targetCollectionId now =>
    materializeMeme s memeId isPublic uploaderUserId targetCollectionId now
  | .attachShaDuplicate memeId isPublic uploaderUserId targetCollectionId now =>
    attachShaDuplicate s memeId isPublic uploaderUserId targetCollectionId now
  | .refreshVisibility memeId isPublic =>
    (refreshEffectiveVisibility s memeId isPublic).commit "Failed to update the meme."
  | .mergeMeme memeId targetMemeId confirmation isPublic =>
    mergeMeme s memeId targetMemeId confirmation isPublic
  | .mergeAfterEmbed memeId similar uploader isPublic =>
    maybeMergeAfterEmbed s memeId similar uploader isPublic
  | .reconcileSha sha256Hex files isPublic => reconcileSha s sha256Hex files isPublic
  | .deleteMeme memeId confirmation => deleteMeme s memeId confirmation

def libraryStep (s : Library) (label : LibraryLabel) : Option Library :=
  (runLibrary s label).toOption

variable {s t : Library} {label : LibraryLabel}

theorem SavesInto.constraints (h : SavesInto s t) : t.Constraints := by
  obtain ⟨-, -, -, -, -, -, ht, -⟩ := h
  exact ht

theorem RemovesFrom.constraints {collection : Collection} {memeId : Uuid} (hs : s.Constraints)
    (h : RemovesFrom s t collection memeId) : t.Constraints := by
  rcases h with ⟨-, rfl⟩ | ⟨-, -, ht, -⟩
  · exact hs
  · exact ht

theorem RenumbersPins.constraints (h : RenumbersPins s t) : t.Constraints := by
  obtain ⟨-, -, -, ht, -⟩ := h
  exact ht

theorem libraryStep_eq_some : libraryStep s label = some t ↔ runLibrary s label = .ok t :=
  toOption_eq_some

theorem constraints_runLibrary (hs : s.Constraints) (h : runLibrary s label = .ok t) :
    t.Constraints := by
  cases label with
  | createGuest userId => exact (Library.commit_eq_ok.mp h).1
  | upgradeGuest userId telegramId googleId email => exact (upgradeGuest_ok h).1
  | mergeGuest guestUserId targetUserId newId googleId =>
    exact (mergeGuestIntoExistingFull_ok h).2.1
  | ensureFavorites userId newId =>
    obtain ⟨r, hr, rfl⟩ := map_eq_ok.mp h
    rcases ensureFavoritesCollection_ok hr with ⟨heq, -⟩ | ⟨-, ht, -⟩
    · exact heq ▸ hs
    · exact ht
  | createCustomCollection ownerUserId newId => exact (createCustomCollection_ok h).1
  | ensureMember collectionId userId role => exact (ensureMember_ok h).1
  | updateActiveSaveCollection userId collectionId => exact (updateActiveSaveCollection_ok h).1
  | deleteCustomCollection collectionId userId =>
    obtain ⟨collection, -, -, -, ht, -⟩ := deleteCustomCollection_ok h
    exact ht
  | saveMeme collectionId userId memeId now =>
    obtain ⟨r, hr, rfl⟩ := map_eq_ok.mp h
    exact (saveMemeToCollection_ok hr).constraints
  | removeMeme collectionId userId memeId =>
    obtain ⟨r, hr, rfl⟩ := map_eq_ok.mp h
    obtain ⟨collection, -, hremoved⟩ := removeMemeFromCollection_ok hr
    exact hremoved.constraints hs
  | favoriteMeme userId memeId newId now =>
    obtain ⟨r, hr, rfl⟩ := map_eq_ok.mp h
    exact (favoriteMeme_ok hr).constraints
  | unfavoriteMeme userId memeId =>
    obtain ⟨r, hr, rfl⟩ := map_eq_ok.mp h
    rcases unfavoriteMeme_ok hr with ⟨-, heq⟩ | ⟨favorites, -, hremoved⟩
    · exact heq ▸ hs
    · exact hremoved.constraints hs
  | saveMemeToActive userId memeId newId now =>
    obtain ⟨r, hr, rfl⟩ := map_eq_ok.mp h
    exact (saveMemeToActiveCollection_ok hr).constraints
  | removeMemeFromActive userId memeId =>
    obtain ⟨r, hr, rfl⟩ := map_eq_ok.mp h
    obtain ⟨user, -, ⟨-, heq⟩ | ⟨collection, -, hremoved⟩⟩ := removeMemeFromActiveCollection_ok hr
    · exact heq ▸ hs
    · exact hremoved.constraints hs
  | pinMeme userId memeId now =>
    obtain ⟨r, hr, rfl⟩ := map_eq_ok.mp h
    rcases pinMeme_ok hr with heq | ⟨ht, -⟩
    · exact heq ▸ hs
    · exact ht
  | unpinMeme userId memeId =>
    obtain ⟨r, hr, rfl⟩ := map_eq_ok.mp h
    rcases unpinMeme_ok hr with heq | hrenumbered
    · exact heq ▸ hs
    · exact hrenumbered.constraints
  | reorderPins userId memeIds => exact (reorderPins_ok h).constraints
  | materializeMeme memeId isPublic uploaderUserId targetCollectionId now =>
    exact (materializeMeme_ok h).1
  | attachShaDuplicate memeId isPublic uploaderUserId targetCollectionId now =>
    exact (attachShaDuplicate_ok h).2.1
  | refreshVisibility memeId isPublic => exact (Library.commit_eq_ok.mp h).1
  | mergeMeme memeId targetMemeId confirmation isPublic => exact (mergeMeme_ok h).1
  | mergeAfterEmbed memeId similar uploader isPublic =>
    obtain ⟨current, -, ⟨-, heq⟩ | ⟨target, -, ht, -⟩⟩ := maybeMergeAfterEmbed_ok h
    · exact heq ▸ hs
    · exact ht
  | reconcileSha sha256Hex files isPublic =>
    obtain ⟨canonical, obsolete, -, ⟨-, heq⟩ | ⟨ht, -⟩⟩ := reconcileSha_ok h
    · exact heq ▸ hs
    · exact ht
  | deleteMeme memeId confirmation => exact (deleteMeme_ok h).1

theorem constraints_before {as : List LibraryLabel} {x : Transition Library LibraryLabel}
    (hx : x ∈ transitions libraryStep {} as) : x.before.Constraints :=
  invariant_before Library.constraints_empty
    (fun _ hy hbefore =>
      constraints_runLibrary hbefore (libraryStep_eq_some.mp (step_of_mem_transitions hy))) hx

theorem constraints_after {as : List LibraryLabel} {x : Transition Library LibraryLabel}
    (hx : x ∈ transitions libraryStep {} as) : x.after.Constraints :=
  constraints_runLibrary (constraints_before hx)
    (libraryStep_eq_some.mp (step_of_mem_transitions hx))

end MemeExpert.Services
