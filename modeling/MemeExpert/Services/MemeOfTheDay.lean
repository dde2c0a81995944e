import Mathlib.Data.Prod.Lex
import MemeExpert.Lib.Runs
import MemeExpert.Services.ShaReconciliation

/-! A selection per day is cached and refreshed when it is missing or no longer safe. -/

namespace MemeExpert

open Repointing Runs

def SELECTED_REASON : String := "selected"

def NO_CANDIDATES_REASON : String := "no_candidates"

/-- The `motd` settings apart from the weights of the score. -/
structure MotdSettings where
  algorithmVersion : String := "motd_v2"
  candidateLookbackDays : Nat := 30
  candidateLimit : Nat := 50
  candidateLimit_pos : 1 ≤ candidateLimit := by decide
  minQualityScore : Rat := 1 / 2

/-- Microseconds. -/
def motdDay : Time := 86400000000

/-- `PublicMemeOfTheDayRead`, the card by its meme. -/
structure MemeOfTheDayRead where
  meme : Option CanonicalMeme
  selection : MemeOfTheDaySelection

namespace Content

section Service

variable {σ : Type} [LinearOrder σ] (settings : MotdSettings)
  (score : Content → Time → CanonicalMeme → σ) (s : Content) (now : Time)

def primaryFile (meme : CanonicalMeme) : Option CanonicalFile :=
  s.files.find? fun file => file.id = meme.primaryFileId && file.memeId = meme.id

/-- The test of `_selection_is_returnable` on a meme, and of the query for candidates. -/
def isSafe (meme : CanonicalMeme) : Bool :=
  meme.isPublic && !meme.isNsfw &&
    (s.primaryFile meme).any fun file => settings.minQualityScore ≤ file.qualityScore

def candidateWindowEnd (selectedFor : Nat) : Time :=
  if selectedFor = now / motdDay then now else (selectedFor + 1) * motdDay

def inWindow (selectedFor : Nat) (meme : CanonicalMeme) : Bool :=
  let windowEnd := candidateWindowEnd now selectedFor
  windowEnd ≤ meme.createdAt + settings.candidateLookbackDays * motdDay &&
    meme.createdAt < windowEnd

/-- The newest candidates of the window, sorted by `_candidate_sort_key`. -/
def loadCandidates (selectedFor : Nat) : List CanonicalMeme :=
  let rows := (s.memes.filter fun meme =>
    s.isSafe settings meme && inWindow settings now selectedFor meme).insertionSort fun a b =>
      toLex (b.createdAt, b.id) ≤ toLex (a.createdAt, a.id)
  (rows.take settings.candidateLimit).insertionSort fun a b =>
    toLex (score s now b, toLex (b.createdAt, b.id)) ≤
      toLex (score s now a, toLex (a.createdAt, a.id))

def loadSelection (selectedFor : Nat) : Option MemeOfTheDaySelection :=
  s.selections.find? fun row =>
    row.selectedFor = selectedFor && row.algorithmVersion = settings.algorithmVersion

def selectionIsReturnable (selection : MemeOfTheDaySelection) : Bool :=
  match selection.memeId with
  | none => true
  | some memeId => (s.meme memeId).any (s.isSafe settings)

/-- `get_public_meme_cards_by_ids` for one meme. -/
def publicCard (memeId : Uuid) : Option CanonicalMeme :=
  (s.meme memeId).filter fun meme => meme.isPublic && !meme.isNsfw

def toRead (selection : MemeOfTheDaySelection) : MemeOfTheDayRead where
  meme :=
    if s.selectionIsReturnable settings selection then selection.memeId.bind s.publicCard else none
  selection := selection

/-- The row that `refresh` upserts, with the id of the one it replaces. -/
def refreshedSelection (selectedFor : Nat) (newId : Uuid) : MemeOfTheDaySelection :=
  let candidates := s.loadCandidates settings score now selectedFor
  { id := ((s.loadSelection settings selectedFor).map (·.id)).getD newId
    memeId := candidates.head?.map (·.id)
    selectedFor := selectedFor
    algorithmVersion := settings.algorithmVersion
    reason := if candidates = [] then NO_CANDIDATES_REASON else SELECTED_REASON
    candidateCount := candidates.length
    refreshedAt := now }

def refresh (selectedFor : Nat) (newId : Uuid) : MemeOfTheDayRead × Content :=
  let selection := s.refreshedSelection settings score now selectedFor newId
  let t : Content :=
    { s with
      selections := selection :: s.selections.filter fun row =>
        ¬ (row.selectedFor = selectedFor ∧ row.algorithmVersion = settings.algorithmVersion) }
  (t.toRead settings selection, t)

def getToday (newId : Uuid) : MemeOfTheDayRead × Content :=
  let selectedFor := now / motdDay
  match s.loadSelection settings selectedFor with
  | none => s.refresh settings score now selectedFor newId
  | some cached =>
    if s.selectionIsReturnable settings cached then (s.toRead settings cached, s)
    else s.refresh settings score now selectedFor newId

end Service

section Calls

variable {σ : Type} [LinearOrder σ] {settings : MotdSettings}
  {score : Content → Time → CanonicalMeme → σ} {s : Content} {now : Time} {newId : Uuid}

theorem mem_loadCandidates {selectedFor : Nat} {meme : CanonicalMeme}
    (h : meme ∈ s.loadCandidates settings score now selectedFor) :
    meme ∈ s.memes ∧ s.isSafe settings meme = true := by
  have hrow := List.mem_of_mem_take ((List.mem_insertionSort _).mp h)
  obtain ⟨hmeme, hfit⟩ := List.mem_filter.mp ((List.mem_insertionSort _).mp hrow)
  exact ⟨hmeme, (Bool.and_eq_true_iff.mp hfit).1⟩

theorem isSafe_toRead {selection : MemeOfTheDaySelection} {meme : CanonicalMeme}
    (h : (s.toRead settings selection).meme = some meme) :
    meme ∈ s.memes ∧ s.isSafe settings meme = true := by
  unfold toRead at h
  split at h
  · next hreturnable =>
    obtain ⟨memeId, hid, hcard⟩ := Option.bind_eq_some_iff.mp h
    obtain ⟨hmeme, -⟩ := Option.filter_eq_some_iff.mp hcard
    simp only [selectionIsReturnable, hid, hmeme, Option.any_some] at hreturnable
    exact ⟨List.mem_of_find?_eq_some hmeme, hreturnable⟩
  · cases h

theorem getToday_cases (settings : MotdSettings) (score : Content → Time → CanonicalMeme → σ)
    (s : Content) (now : Time) (newId : Uuid) :
    (∃ cached, s.loadSelection settings (now / motdDay) = some cached ∧
      s.selectionIsReturnable settings cached = true ∧
      s.getToday settings score now newId = (s.toRead settings cached, s)) ∨
    ((∀ cached, s.loadSelection settings (now / motdDay) = some cached →
        s.selectionIsReturnable settings cached = false) ∧
      s.getToday settings score now newId = s.refresh settings score now (now / motdDay) newId) := by
  cases hcached : s.loadSelection settings (now / motdDay) with
  | none => exact .inr ⟨nofun, by simp only [getToday, hcached]⟩
  | some cached =>
    cases hreturnable : s.selectionIsReturnable settings cached with
    | true => exact .inl ⟨cached, rfl, hreturnable, by simp [getToday, hcached, hreturnable]⟩
    | false =>
      refine .inr ⟨?_, by simp [getToday, hcached, hreturnable]⟩
      rintro other ⟨rfl⟩
      exact hreturnable

/-- What is returned is safe at the call. -/
theorem isSafe_getToday {meme : CanonicalMeme}
    (h : (s.getToday settings score now newId).1.meme = some meme) :
    meme ∈ s.memes ∧ s.isSafe settings meme = true := by
  obtain ⟨cached, -, -, hcall⟩ | ⟨-, hcall⟩ := getToday_cases settings score s now newId
  · rw [hcall] at h
    exact isSafe_toRead h
  · rw [hcall] at h
    exact isSafe_toRead h

theorem meme_of_mem (hunique : (s.memes.map fun meme => meme.id).Nodup) {meme : CanonicalMeme}
    (hmeme : meme ∈ s.memes) : s.meme meme.id = some meme := by
  cases hfound : s.meme meme.id with
  | none => simpa using List.find?_eq_none.mp hfound meme hmeme
  | some other =>
    obtain ⟨hother, hid⟩ := meme_eq_some hfound
    rw [List.inj_on_of_nodup_map hunique hother hmeme hid]

theorem isSome_toRead {selection : MemeOfTheDaySelection} {memeId : Uuid} {meme : CanonicalMeme}
    (hid : selection.memeId = some memeId) (hmeme : s.meme memeId = some meme)
    (hsafe : s.isSafe settings meme = true) :
    (s.toRead settings selection).meme.isSome = true := by
  have hshown : meme.isPublic = true ∧ meme.isNsfw = false := by
    simp only [isSafe, Bool.and_eq_true, Bool.not_eq_true'] at hsafe
    exact hsafe.1
  have hcard : s.publicCard memeId = some meme := by
    simp [publicCard, hmeme, Option.filter, hshown]
  simp [toRead, selectionIsReturnable, hid, hmeme, hsafe, hcard]

theorem isSome_refresh (hunique : (s.memes.map fun meme => meme.id).Nodup) {selectedFor : Nat}
    (hcandidates : s.loadCandidates settings score now selectedFor ≠ []) :
    (s.refresh settings score now selectedFor newId).1.meme.isSome = true := by
  obtain ⟨best, others, hsorted⟩ := List.exists_cons_of_ne_nil hcandidates
  obtain ⟨hbest, hsafe⟩ := mem_loadCandidates (hsorted ▸ List.mem_cons_self)
  have hid : (s.refreshedSelection settings score now selectedFor newId).memeId =
      some best.id := by
    rw [refreshedSelection, hsorted]
    rfl
  change (s.toRead settings _).meme.isSome = true
  exact isSome_toRead hid (meme_of_mem hunique hbest) hsafe

/-- When there are candidates, today's meme is missing exactly when the stored selection names
none. -/
theorem isSome_getToday_iff (hunique : (s.memes.map fun meme => meme.id).Nodup)
    {cached : MemeOfTheDaySelection}
    (hcached : s.loadSelection settings (now / motdDay) = some cached)
    (hcandidates : s.loadCandidates settings score now (now / motdDay) ≠ []) :
    (s.getToday settings score now newId).1.meme.isSome = true ↔ cached.memeId ≠ none := by
  obtain ⟨row, hrow, hreturnable, hcall⟩ | ⟨hrefused, hcall⟩ :=
    getToday_cases settings score s now newId
  · obtain rfl := Option.some.inj (hcached.symm.trans hrow)
    rw [hcall]
    cases hid : cached.memeId with
    | none => simp [toRead, hid]
    | some memeId =>
      rw [selectionIsReturnable, hid] at hreturnable
      obtain ⟨meme, hmeme, hsafe⟩ := (Option.any_eq_true ..).mp hreturnable
      exact iff_of_true (isSome_toRead hid hmeme hsafe) nofun
  rw [hcall]
  refine iff_of_true (isSome_refresh hunique hcandidates) ?_
  intro hnone
  have hfalse := hrefused cached hcached
  rw [selectionIsReturnable, hnone] at hfalse
  cases hfalse

end Calls

/-- Hiding, flagging, scoring or adding memes: any change that deletes none. -/
structure CatalogueEdit where
  edit : Content → Content
  selections_eq : ∀ s, (edit s).selections = s.selections
  memes_unique : ∀ s : Content, (s.memes.map fun meme => meme.id).Nodup →
    ((edit s).memes.map fun meme => meme.id).Nodup

inductive MotdStep where
  | edit (change : CatalogueEdit)
  | delete (memeId : Uuid)
  | merge (sourceMemeId targetMemeId : Uuid) (sourceMemeFileId : Option Uuid)
      (similarityScore : Option Rat) (mergeReason : String)
  | reconcile (sha256Hex : String)
  | refresh (now : Time) (selectedFor : Nat) (newId : Uuid)
  | getToday (now : Time) (newId : Uuid)

section Runs

variable {σ : Type} [LinearOrder σ] (settings : MotdSettings)
  (score : Content → Time → CanonicalMeme → σ)

def motdStep (s : Content) : MotdStep → Option Content
  | .edit change => some (change.edit s)
  | .delete memeId => some (s.deleteMemes fun id => id = memeId)
  | .merge sourceMemeId targetMemeId sourceMemeFileId similarityScore mergeReason =>
    if sourceMemeId = targetMemeId then none
    else do
      let source ← s.meme sourceMemeId
      let target ← s.meme targetMemeId
      let (_, t) ← (s.applyMerge source sourceMemeFileId target similarityScore
        mergeReason).toOption
      pure t
  | .reconcile sha256Hex => (s.reconcileSha sha256Hex).toOption.map Prod.snd
  | .refresh now selectedFor newId => some (s.refresh settings score now selectedFor newId).2
  | .getToday now newId => some (s.getToday settings score now newId).2

/-- No selection names the meme that a step deletes. -/
def SparesSelections (s : Content) : MotdStep → Prop
  | .delete memeId | .merge memeId .. => ∀ row ∈ s.selections, row.memeId ≠ some memeId
  | _ => True

instance (s : Content) : DecidablePred (SparesSelections s)
  | .delete memeId | .merge memeId .. =>
    inferInstanceAs (Decidable (∀ row ∈ s.selections, row.memeId ≠ some memeId))
  | .edit _ | .reconcile _ | .refresh .. | .getToday .. => isTrue trivial

structure SelectionsNamed (s : Content) : Prop where
  memes_unique : (s.memes.map fun meme => meme.id).Nodup
  named : ∀ row ∈ s.selections, row.reason = SELECTED_REASON → row.memeId ≠ none

variable {settings score} {s t : Content} {now : Time} {newId : Uuid}

theorem ids_updateMeme (s : Content) (memeId : Uuid) {f : CanonicalMeme → CanonicalMeme}
    (hf : ∀ meme, (f meme).id = meme.id) :
    (s.updateMeme memeId f).memes.map (fun meme => meme.id) =
      s.memes.map fun meme => meme.id := by
  rw [updateMeme, List.map_map]
  apply List.map_congr_left
  intro meme _
  simp only [Function.comp]
  split
  · exact hf meme
  · rfl

/-- Rows that were only rewritten, with as many memes named as before. -/
theorem SelectionsNamed.of_rows (h : SelectionsNamed s)
    (hids : (t.memes.map fun meme => meme.id).Sublist (s.memes.map fun meme => meme.id))
    {f : Option Uuid → Option Uuid}
    (hrows : t.selections = s.selections.map fun row => { row with memeId := f row.memeId })
    (hf : ∀ row ∈ s.selections, row.memeId ≠ none → f row.memeId ≠ none) : SelectionsNamed t where
  memes_unique := h.memes_unique.sublist hids
  named := by
    rw [hrows]
    intro row hrow hreason
    obtain ⟨old, hold, rfl⟩ := List.mem_map.mp hrow
    exact hf old hold (h.named old hold hreason)

theorem SelectionsNamed.refresh (h : SelectionsNamed s) (selectedFor : Nat) :
    SelectionsNamed (s.refresh settings score now selectedFor newId).2 where
  memes_unique := h.memes_unique
  named := by
    intro row hrow hreason
    rcases List.mem_cons.mp hrow with rfl | hkept
    · cases hcandidates : s.loadCandidates settings score now selectedFor with
      | nil => simp [refreshedSelection, hcandidates, SELECTED_REASON, NO_CANDIDATES_REASON] at hreason
      | cons best others => simp [refreshedSelection, hcandidates]
    · exact h.named row (List.mem_filter.mp hkept).1 hreason

theorem setNull_ne_none {gone : Uuid} {ref : Option Uuid} (hspared : ref ≠ some gone)
    (href : ref ≠ none) : setNull (fun id => id = gone) ref ≠ none := by
  cases ref with
  | none => exact href
  | some value =>
    have hne : value ≠ gone := fun heq => hspared (heq ▸ rfl)
    simp [setNull, Option.filter, hne]

theorem SelectionsNamed.merge (h : SelectionsNamed s) {source target : CanonicalMeme}
    {sourceMemeFileId : Option Uuid} {similarityScore : Option Rat} {mergeReason : String}
    {outcome : MergeOutcome} (hspared : ∀ row ∈ s.selections, row.memeId ≠ some source.id)
    (hmerge : s.applyMerge source sourceMemeFileId target similarityScore mergeReason =
      .ok (outcome, t)) : SelectionsNamed t := by
  unfold applyMerge at hmerge
  split at hmerge
  · cases hmerge
  next primaryFileId u hselect =>
  cases hmerge
  obtain ⟨-, rfl⟩ := reselectPrimaryFile_ok hselect
  refine h.of_rows (f := setNull fun id => id = source.id) ?_ rfl
    fun row hrow => setNull_ne_none (hspared row hrow)
  have hids (u : Content) : (u.updateMeme target.id fun meme => { meme with
      primaryFileId := primaryFileId }).memes.map (fun meme => meme.id) =
        u.memes.map fun meme => meme.id := ids_updateMeme u target.id fun _ => rfl
  have hfolded : ((s.foldedInto source target).memes.map fun meme => meme.id).Sublist
      (s.memes.map fun meme => meme.id) := by
    refine (List.filter_sublist.map _).trans ?_
    dsimp only [deleteFiles, refreshEffectiveVisibility, transferPins,
      transferCollectionMemberships, transferMemeFiles]
    rw [ids_updateMeme, ids_updateMeme]
    · dsimp only
      rw [ids_updateMeme]
      intro _
      rfl
    · exact fun _ => rfl
    · exact fun _ => rfl
  exact (hids _).symm ▸ hfolded

theorem mergeGroup_selections (group : List CanonicalMeme) (meme : CanonicalMeme)
    (file : CanonicalFile) (obsoleteFiles : List CanonicalFile) (memes : List Uuid)
    (hfile : file.id ∉ obsoleteFiles.map fun file => file.id) (hmeme : meme.id ∉ memes) :
    (s.mergeGroup group meme file obsoleteFiles memes).selections = s.selections.map (fun row =>
        { row with memeId := row.memeId.map (redirectAll meme.id memes) }) ∧
      ((s.mergeGroup group meme file obsoleteFiles memes).memes.map fun meme => meme.id).Sublist
        (s.memes.map fun meme => meme.id) := by
  simp only [mergeGroup, transferGroup]
  rw [foldl_transferFileDependencies hfile, foldl_transferMemeDependencies hmeme]
  dsimp only [deleteMemes, deleteFiles]
  constructor
  · rw [List.map_map]
    apply List.map_congr_left
    intro row _
    simp only [Function.comp_apply]
    rw [setNull_redirectAll hmeme]
  refine (List.filter_sublist.map _).trans ?_
  rw [ids_updateMeme]
  intro _
  rfl

theorem SelectionsNamed.reconcile (h : SelectionsNamed s) {sha256Hex : String}
    {result : ShaReconciliationResult} (hcall : s.reconcileSha sha256Hex = .ok (result, t)) :
    SelectionsNamed t := by
  unfold reconcileSha at hcall
  dsimp only at hcall
  split at hcall
  · next canonicalFile _ canonicalMeme _ _ _ =>
    unfold reconcileGroup at hcall
    dsimp only at hcall
    split at hcall
    · cases hcall
      exact h
    split at hcall
    · cases hcall
    cases hcall
    have hfile : canonicalFile.id ∉ ((s.filesWithSha sha256Hex).filter fun file =>
        file.id ≠ canonicalFile.id).map fun file => file.id := by simp
    have hmeme : canonicalMeme.id ∉ ((s.memesOfFiles (s.filesWithSha sha256Hex)).filter fun meme =>
        meme.id ≠ canonicalMeme.id).map fun meme => meme.id := by simp
    obtain ⟨hrows, hids⟩ := mergeGroup_selections (s := s)
      (s.memesOfFiles (s.filesWithSha sha256Hex)) canonicalMeme canonicalFile _ _ hfile hmeme
    refine h.of_rows ?_ hrows fun row _ hnamed => by simpa using hnamed
    rw [refreshEffectiveVisibility, ids_updateMeme, recomputeLikeCount, ids_updateMeme,
      ids_updateMeme]
    · exact hids
    · exact fun _ => rfl
    · exact fun _ => rfl
    · exact fun _ => rfl
  · cases hcall

theorem SelectionsNamed.delete (h : SelectionsNamed s) {memeId : Uuid}
    (hspared : ∀ row ∈ s.selections, row.memeId ≠ some memeId) :
    SelectionsNamed (s.deleteMemes fun id => id = memeId) :=
  h.of_rows (List.filter_sublist.map _) rfl fun row hrow => setNull_ne_none (hspared row hrow)

theorem SelectionsNamed.step {label : MotdStep} (h : SelectionsNamed s)
    (hstep : motdStep settings score s label = some t) (hspares : SparesSelections s label) :
    SelectionsNamed t := by
  cases label with
  | edit change =>
    cases hstep
    refine ⟨change.memes_unique s h.memes_unique, ?_⟩
    rw [change.selections_eq s]
    exact h.named
  | delete memeId =>
    cases hstep
    exact h.delete hspares
  | merge sourceMemeId targetMemeId sourceMemeFileId similarityScore mergeReason =>
    obtain ⟨-, hmerge⟩ := Option.ite_none_left_eq_some.mp hstep
    obtain ⟨source, hsource, hmerge⟩ := Option.bind_eq_some_iff.mp hmerge
    obtain ⟨target, -, hmerge⟩ := Option.bind_eq_some_iff.mp hmerge
    obtain ⟨⟨outcome, merged⟩, hmerged, ht⟩ := Option.bind_eq_some_iff.mp hmerge
    cases ht
    obtain ⟨-, hid⟩ := meme_eq_some hsource
    exact h.merge (hid ▸ hspares) (Results.toOption_eq_some.mp hmerged)
  | reconcile sha256Hex =>
    obtain ⟨⟨result, reconciled⟩, hreconciled, ht⟩ := Option.map_eq_some_iff.mp hstep
    cases ht
    exact h.reconcile (Results.toOption_eq_some.mp hreconciled)
  | refresh now selectedFor newId =>
    cases hstep
    exact h.refresh selectedFor
  | getToday now newId =>
    cases hstep
    obtain ⟨_, -, -, hcall⟩ | ⟨-, hcall⟩ := getToday_cases settings score s now newId
    · rw [hcall]
      exact h
    · rw [hcall]
      exact h.refresh _

end Runs

/-- What is returned is safe at the call. A selection of the day that was made is healed exactly
while it names a meme, and it names one in every run whose deletions and merges spare the memes
that are named. -/
theorem motd_heals {σ : Type} [LinearOrder σ] (settings : MotdSettings)
    (score : Content → Time → CanonicalMeme → σ) :
    (∀ (s : Content) now newId meme, (s.getToday settings score now newId).1.meme = some meme →
      meme ∈ s.memes ∧ s.isSafe settings meme = true) ∧
    (∀ (s : Content) now newId cached, (s.memes.map fun meme => meme.id).Nodup →
      s.loadSelection settings (now / motdDay) = some cached →
      s.loadCandidates settings score now (now / motdDay) ≠ [] →
      ((s.getToday settings score now newId).1.meme.isSome = true ↔ cached.memeId ≠ none)) ∧
    ∀ (s : Content) labels, SelectionsNamed s →
      (∀ x ∈ transitions (motdStep settings score) s labels, SparesSelections x.before x.label) →
      ∀ now newId cached,
        let t := final (motdStep settings score) s labels
        t.loadSelection settings (now / motdDay) = some cached →
        cached.reason = SELECTED_REASON →
        t.loadCandidates settings score now (now / motdDay) ≠ [] →
        (t.getToday settings score now newId).1.meme.isSome = true := by
  refine ⟨fun s now newId meme => isSafe_getToday, ?_, ?_⟩
  · intro s now newId cached hunique hcached hcandidates
    exact isSome_getToday_iff hunique hcached hcandidates
  · intro s labels hs hspares now newId cached t hcached hreason hcandidates
    have ht : SelectionsNamed t := by
      apply invariant_final hs
      intro x hx hbefore
      exact hbefore.step (step_of_mem_transitions hx) (hspares x hx)
    rw [isSome_getToday_iff ht.memes_unique hcached hcandidates]
    exact ht.named cached (List.mem_of_find?_eq_some hcached) hreason

section Day

def plainMotd : MotdSettings where
  algorithmVersion := "motd_v2"

def byId : Content → Time → CanonicalMeme → Nat := fun _ _ meme => meme.id

def twoMemes : Content where
  memes :=
    [{ id := 1, likeCount := 0, isPublic := true, createdAt := motdDay, primaryFileId := 11 },
      { id := 2, likeCount := 0, isPublic := true, createdAt := motdDay, primaryFileId := 12 }]
  files :=
    [{ id := 11, memeId := 1, s3OriginalKey := "1", qualityScore := 1 },
      { id := 12, memeId := 2, s3OriginalKey := "2", qualityScore := 1 }]

/-- The newer meme is selected, and then the other one is deleted or the selected one. -/
def selectedThen (memeId : Uuid) : List MotdStep := [.getToday (2 * motdDay) 5, .delete memeId]

theorem motd_heals_otherDeleted :
    ((final (motdStep plainMotd byId) twoMemes (selectedThen 1)).getToday plainMotd byId
      (2 * motdDay) 6).1.meme.isSome = true :=
  (motd_heals plainMotd byId).2.2 twoMemes (selectedThen 1)
    ⟨by decide, by decide⟩ (by decide +kernel) (2 * motdDay) 6
    { id := 5, memeId := some 2, selectedFor := 2, candidateCount := 2, refreshedAt := 2 * motdDay }
    (by decide +kernel) rfl (by decide +kernel)

/-- The selected meme is deleted, the other one is still eligible, and no meme is returned. -/
theorem deleted_selection_sticks :
    let t := final (motdStep plainMotd byId) twoMemes (selectedThen 2)
    (t.loadSelection plainMotd 2).map (fun row => (row.memeId, row.reason)) =
        some (none, SELECTED_REASON) ∧
      (t.loadCandidates plainMotd byId (2 * motdDay) 2).map (fun meme => meme.id) = [1] ∧
      (t.getToday plainMotd byId (2 * motdDay) 6).1.meme = none := by
  decide +kernel

end Day

end Content

end MemeExpert
