import MemeExpert.Lib.Results
import MemeExpert.Models.SearchSynonyms

/-! A run reads the published snapshots, checks them against their sources and combines them
into one map. -/

namespace MemeExpert.Services.SettingsReconcile

def MAX_RECONCILE_ERROR_LENGTH : Nat := 1000

structure PublishedSynonymSnapshot where
  revisionId : Uuid
  locale : SearchSynonymLocale
  revisionNumber : Nat
  sourceText : Text
  compiledSynonyms : SynonymMap
  compilerVersion : String
  compiledHash : String

def snapshotOf (row : SearchSynonymRevision × SearchSynonymLocale) : PublishedSynonymSnapshot where
  revisionId := row.1.id
  locale := row.2
  revisionNumber := row.1.revisionNumber
  sourceText := row.1.sourceText
  compiledSynonyms := row.1.compiledSynonyms
  compilerVersion := row.1.compilerVersion
  compiledHash := row.1.compiledHash

/-- A JSON value where a map is expected; `none` stands for a value of another type. -/
abbrev RawSynonyms := Option (List (Text × Option (List (Option Text))))

def rawOf (synonyms : SynonymMap) : RawSynonyms :=
  some (synonyms.map fun entry => (entry.1, some (entry.2.map some)))

inductive ReconcileException where
  | settings (text typeName : String)
  | snapshotValidation (text : String)
  | settingsVerification (text : String)
  | other (typeName : String)

def orTypeName (text typeName : String) : String := if text = "" then typeName else text

def safeReconcileError (exc : ReconcileException) : String :=
  cap MAX_RECONCILE_ERROR_LENGTH <|
    match exc with
    | .settings text typeName => orTypeName text typeName
    | .snapshotValidation text => orTypeName text "SynonymSnapshotValidationError"
    | .settingsVerification text => orTypeName text "SynonymSettingsVerificationError"
    | .other typeName => s!"Meilisearch settings reconciliation failed ({typeName})."

def canonicalAlternatives (rawValues : Option (List (Option Text))) :
    Except ReconcileException (List Text) :=
  match rawValues with
  | none | some [] =>
    .error (.snapshotValidation "Synonym snapshot contains an invalid alternatives list.")
  | some values =>
    if values.any fun value => value.all fun text => stripText text = [] then
      .error (.snapshotValidation "Synonym snapshot contains an invalid alternative.")
    else .ok (sortedSet values.reduceOption)

def canonicalEntry (entry : Text × Option (List (Option Text))) :
    Except ReconcileException (Text × List Text) :=
  if stripText entry.1 = [] then
    .error (.snapshotValidation "Synonym snapshot contains an invalid key.")
  else (canonicalAlternatives entry.2).map fun alternatives => (entry.1, alternatives)

def canonicalizeSynonymMap : RawSynonyms → Except ReconcileException SynonymMap
  | none => .error (.snapshotValidation "Synonym snapshot must be a JSON object.")
  | some entries => (entries.mapM canonicalEntry).map sortedByKey

section Combine

variable (runtime : TextRuntime)

def hashCanonicalSynonymMap (synonyms : SynonymMap) : String := (hashSynonymMap runtime synonyms).1

def emptySnapshot : ReconcileException :=
  .snapshotValidation
    "A published locale synonym snapshot is empty; refusing to clear provider settings."

def validateSnapshotIntegrity (snapshot : PublishedSynonymSnapshot) :
    Except ReconcileException SynonymMap :=
  if snapshot.compilerVersion ≠ SEARCH_SYNONYM_COMPILER_VERSION then
    .error (.snapshotValidation "Published synonym snapshot uses an unsupported compiler version.")
  else
    let compiled := compileSearchSynonyms runtime snapshot.sourceText snapshot.locale
    match canonicalizeSynonymMap (rawOf snapshot.compiledSynonyms) with
    | .error exc => .error exc
    | .ok canonicalSnapshot =>
      if canonicalSnapshot = [] then .error emptySnapshot
      else if compiled.valid = false then
        .error (.snapshotValidation
          "Published synonym snapshot source no longer passes compiler validation.")
      else if canonicalSnapshot ≠ compiled.compiledSynonyms then
        .error (.snapshotValidation
          "Published synonym snapshot does not match its authored source.")
      else if snapshot.compiledHash ≠ compiled.compiledHash then
        .error (.snapshotValidation
          "Published synonym snapshot hash does not match its compiler output.")
      else .ok canonicalSnapshot

def combineEntry (combined : SynonymMap) (entry : Text × List Text) :
    Except ReconcileException SynonymMap :=
  match combined.lookup entry.1 with
  | none => .ok (combined ++ [entry])
  | some previous =>
    if previous ≠ entry.2 then
      .error (.snapshotValidation
        "Published synonym snapshots contain a conflicting duplicate key.")
    else .ok combined

def combineSnapshot (combined : SynonymMap × List (SearchSynonymLocale × Uuid))
    (snapshot : PublishedSynonymSnapshot) :
    Except ReconcileException (SynonymMap × List (SearchSynonymLocale × Uuid)) :=
  if combined.2.any fun entry => entry.1 = snapshot.locale then
    .error (.snapshotValidation
      "Multiple published synonym revisions exist for one locale.")
  else
    match validateSnapshotIntegrity runtime snapshot with
    | .error exc => .error exc
    | .ok canonicalSnapshot =>
      if canonicalSnapshot = [] then .error emptySnapshot
      else
        (canonicalSnapshot.foldlM combineEntry combined.1).map fun synonyms =>
          (synonyms, combined.2 ++ [(snapshot.locale, snapshot.revisionId)])

def compareSnapshots (first second : PublishedSynonymSnapshot) : Ordering :=
  (compare first.locale.value second.locale.value).then <|
    (compare first.revisionNumber second.revisionNumber).then
      (compare first.revisionId second.revisionId)

def combinePublishedSynonymSnapshots (snapshots : List PublishedSynonymSnapshot) :
    Except ReconcileException (SynonymMap × List (SearchSynonymLocale × Uuid)) :=
  match (snapshots.insertionSort fun first second => (compareSnapshots first second).isLE).foldlM
      (combineSnapshot runtime) ([], []) with
  | .error exc => .error exc
  | .ok (combined, revisionIds) =>
    if combined = [] then
      .error (.snapshotValidation
        "Published synonym snapshots compile to an empty map; refusing to clear provider settings.")
    else .ok (sortedByKey combined, revisionIds)

end Combine

structure IsCombinedMap (maps : List SynonymMap) (combined : SynonymMap) : Prop where
  entries : ∀ entry, entry ∈ combined ↔
    ∃ synonyms ∈ maps, entry ∈ Services.canonicalizeSynonymMap synonyms
  ascending : (keysOf combined).Pairwise (· < ·)

section Specs

open Results

variable {runtime : TextRuntime}

theorem eq_of_canonicalAlternatives {values alternatives : List Text}
    (h : canonicalAlternatives (some (values.map some)) = .ok alternatives) :
    alternatives = sortedSet values := by
  unfold canonicalAlternatives at h
  split at h
  · cases h
  · cases h
  next heq =>
  cases heq
  split at h
  · cases h
  cases h
  change sortedSet (List.filterMap id _) = _
  rw [List.filterMap_map, Function.comp_def]
  simp

theorem eq_of_mapM_canonicalEntry {synonyms entries : SynonymMap}
    (h : (synonyms.map fun entry => (entry.1, some (entry.2.map some))).mapM canonicalEntry =
      .ok entries) : entries = synonyms.map fun entry => (entry.1, sortedSet entry.2) := by
  induction synonyms generalizing entries with
  | nil =>
    cases h
    rfl
  | cons entry rest ih =>
    rw [List.map_cons, List.mapM_cons] at h
    obtain ⟨first, hfirst, h⟩ := bind_eq_ok.mp h
    obtain ⟨others, hothers, h⟩ := bind_eq_ok.mp h
    cases pure_eq_ok.mp h
    unfold canonicalEntry at hfirst
    split at hfirst
    · cases hfirst
    · obtain ⟨alternatives, halternatives, rfl⟩ := map_eq_ok.mp hfirst
      rw [eq_of_canonicalAlternatives halternatives, ih hothers, List.map_cons]

theorem eq_of_canonicalize_rawOf {synonyms canonical : SynonymMap}
    (h : canonicalizeSynonymMap (rawOf synonyms) = .ok canonical) :
    canonical = Services.canonicalizeSynonymMap synonyms := by
  obtain ⟨entries, hentries, rfl⟩ := map_eq_ok.mp h
  rw [eq_of_mapM_canonicalEntry hentries, Services.canonicalizeSynonymMap]

theorem eq_of_validateSnapshotIntegrity {snapshot : PublishedSynonymSnapshot}
    {canonical : SynonymMap} (h : validateSnapshotIntegrity runtime snapshot = .ok canonical) :
    canonical = Services.canonicalizeSynonymMap snapshot.compiledSynonyms := by
  simp only [validateSnapshotIntegrity] at h
  split at h
  · cases h
  split at h
  · cases h
  next hcanonical =>
  split at h
  · cases h
  split at h
  · cases h
  split at h
  · cases h
  split at h
  · cases h
  · cases h
    exact eq_of_canonicalize_rawOf hcanonical

theorem combineEntries_spec {combined result : SynonymMap} {entries : List (Text × List Text)}
    (hunique : (keysOf combined).Nodup) (h : entries.foldlM combineEntry combined = .ok result) :
    (keysOf result).Nodup ∧ ∀ entry, entry ∈ result ↔ entry ∈ combined ∨ entry ∈ entries := by
  induction entries generalizing combined with
  | nil =>
    cases h
    simp [hunique]
  | cons first rest ih =>
    rw [List.foldlM_cons] at h
    obtain ⟨next, hnext, h⟩ := bind_eq_ok.mp h
    unfold combineEntry at hnext
    split at hnext
    · next hlookup =>
      cases hnext
      have hnew : first.1 ∉ keysOf combined := by
        intro hmem
        obtain ⟨entry, hentry, heq⟩ := List.mem_map.mp hmem
        exact bne_iff_ne.mp (List.lookup_eq_none_iff.mp hlookup entry hentry) heq.symm
      have hnodup : (keysOf (combined ++ [first])).Nodup := by
        rw [keysOf, List.map_append, List.nodup_append]
        refine ⟨hunique, by simp, ?_⟩
        rintro key hkey _ hfirst rfl
        cases List.mem_singleton.mp hfirst
        exact hnew hkey
      obtain ⟨hresult, hmem⟩ := ih hnodup h
      refine ⟨hresult, fun entry => ?_⟩
      rw [hmem, List.mem_append, List.mem_singleton, List.mem_cons, or_assoc]
    · next previous hlookup =>
      split at hnext
      · cases hnext
      next heq =>
      cases hnext
      obtain ⟨hresult, hmem⟩ := ih hunique h
      refine ⟨hresult, fun entry => ?_⟩
      have hfirst : first ∈ combined := by
        obtain ⟨before, after, rfl, -⟩ := List.lookup_eq_some_iff.mp hlookup
        rw [not_not.mp heq]
        simp
      rw [hmem, List.mem_cons]
      constructor
      · rintro (hold | hrest)
        · exact .inl hold
        · exact .inr (.inr hrest)
      rintro (hold | rfl | hrest)
      · exact .inl hold
      · exact .inl hfirst
      · exact .inr hrest

theorem combineSnapshots_spec {snapshots : List PublishedSynonymSnapshot}
    {combined result : SynonymMap × List (SearchSynonymLocale × Uuid)}
    (hunique : (keysOf combined.1).Nodup)
    (h : snapshots.foldlM (combineSnapshot runtime) combined = .ok result) :
    (keysOf result.1).Nodup ∧
      (∀ entry, entry ∈ result.1 ↔ entry ∈ combined.1 ∨ ∃ snapshot ∈ snapshots,
        entry ∈ Services.canonicalizeSynonymMap snapshot.compiledSynonyms) ∧
      result.2 = combined.2 ++ snapshots.map fun snapshot =>
        (snapshot.locale, snapshot.revisionId) := by
  induction snapshots generalizing combined with
  | nil =>
    cases h
    simp [hunique]
  | cons snapshot rest ih =>
    rw [List.foldlM_cons] at h
    obtain ⟨next, hnext, h⟩ := bind_eq_ok.mp h
    unfold combineSnapshot at hnext
    split at hnext
    · cases hnext
    split at hnext
    · cases hnext
    next canonical hcanonical =>
    split at hnext
    · cases hnext
    obtain ⟨synonyms, hsynonyms, rfl⟩ := map_eq_ok.mp hnext
    obtain ⟨hnodup, hentries⟩ := combineEntries_spec hunique hsynonyms
    obtain ⟨hresult, hmem, hids⟩ := ih hnodup h
    cases eq_of_validateSnapshotIntegrity hcanonical
    refine ⟨hresult, fun entry => ?_, ?_⟩
    · rw [hmem, hentries, or_assoc]
      simp
    · rw [hids]
      simp

theorem ascending_sortedByKey {synonyms : SynonymMap} (hunique : (keysOf synonyms).Nodup) :
    (keysOf (sortedByKey synonyms)).Pairwise (· < ·) := by
  have hperm : (keysOf (sortedByKey synonyms)).Perm (keysOf synonyms) :=
    (List.perm_insertionSort _ synonyms).map Prod.fst
  have hsorted : (sortedByKey synonyms).Pairwise fun first second => first.1 ≤ second.1 :=
    List.pairwise_insertionSort _ synonyms
  have hle : (keysOf (sortedByKey synonyms)).Pairwise (· ≤ ·) := List.pairwise_map.mpr hsorted
  exact hle.imp₂ (fun _ _ hle hne => Std.lt_of_le_of_ne hle hne) (hperm.nodup_iff.mpr hunique)

theorem combine_spec {snapshots : List PublishedSynonymSnapshot} {combined : SynonymMap}
    {revisionIds : List (SearchSynonymLocale × Uuid)}
    (h : combinePublishedSynonymSnapshots runtime snapshots = .ok (combined, revisionIds)) :
    IsCombinedMap (snapshots.map (·.compiledSynonyms)) combined ∧
      ∀ entry, entry ∈ revisionIds ↔
        ∃ snapshot ∈ snapshots, (snapshot.locale, snapshot.revisionId) = entry := by
  unfold combinePublishedSynonymSnapshots at h
  split at h
  · cases h
  next synonyms ids hfold =>
  split at h
  · cases h
  cases h
  obtain ⟨hunique, hentries, hids⟩ := combineSnapshots_spec (by simp [keysOf]) hfold
  refine ⟨⟨fun entry => ?_, ?_⟩, fun entry => ?_⟩
  · rw [sortedByKey, List.mem_insertionSort, hentries]
    simp
  · exact ascending_sortedByKey hunique
  · cases hids
    simp

end Specs

def sortedIds (ids : List Uuid) : List Uuid := ids.insertionSort (· ≤ ·)

def snapshotIds (snapshots : List PublishedSynonymSnapshot) : List Uuid :=
  sortedIds (snapshots.map (·.revisionId))

def bestEffortRevisionIds (snapshots : List PublishedSynonymSnapshot) :
    List (SearchSynonymLocale × Uuid) :=
  if (snapshots.map (·.locale)).Nodup then
    snapshots.map fun snapshot => (snapshot.locale, snapshot.revisionId)
  else []

structure ReconcileRun where
  attemptedAt : Time
  snapshots : List PublishedSynonymSnapshot
  desiredSynonyms : SynonymMap := []
  desiredHash : Option String := none
  revisionIds : List (SearchSynonymLocale × Uuid) := []

inductive SyncRecord where
  | noPublishedRevisions
  | syncing (actualHash : String)
  | taskUid (actualHash : String) (taskUid : Nat)
  | success (actualHash : String) (taskUid : Option Nat) (providerApplied : Bool)
      (succeededAt : Time)
  | failure (actualHash : Option String) (taskUid : Option Nat) (safeError : String)
      (failedAt : Time)

def noPublishedState (state : SearchSynonymSyncState) (attemptedAt : Time) :
    SearchSynonymSyncState :=
  let checked :=
    { state with
      desiredHash := none, desiredRevisionIds := [], lastAttemptAt := some attemptedAt }
  if state.appliedHash = none then { checked with status := .idle, lastError := none }
  else
    { checked with
      status := .failed
      lastError := some ("No published synonym revisions remain after a prior application; " ++
        "refusing to clear Meilisearch settings.")
      lastFailureAt := some attemptedAt }

def recordedState (run : ReconcileRun) (state : SearchSynonymSyncState) :
    SyncRecord → SearchSynonymSyncState
  | .noPublishedRevisions => noPublishedState state run.attemptedAt
  | .syncing actualHash =>
    { state with
      status := .syncing
      desiredHash := run.desiredHash
      desiredRevisionIds := run.revisionIds
      actualHash := some actualHash
      providerTaskUid := none
      lastError := none
      lastAttemptAt := some run.attemptedAt }
  | .taskUid _ taskUid => { state with providerTaskUid := some taskUid }
  | .success actualHash taskUid providerApplied succeededAt =>
    { state with
      status := .synced
      desiredHash := run.desiredHash
      appliedHash := run.desiredHash
      actualHash := some actualHash
      desiredRevisionIds := run.revisionIds
      appliedRevisionIds := run.revisionIds
      providerTaskUid := taskUid <|> state.providerTaskUid
      lastError := none
      lastAttemptAt := some succeededAt
      lastSuccessAt := if providerApplied then some succeededAt else state.lastSuccessAt }
  | .failure actualHash taskUid safeError failedAt =>
    { state with
      status := .failed
      desiredHash := run.desiredHash
      desiredRevisionIds := run.revisionIds
      actualHash := actualHash <|> state.actualHash
      providerTaskUid := taskUid
      lastError := some (cap MAX_RECONCILE_ERROR_LENGTH safeError)
      lastAttemptAt := some failedAt
      lastFailureAt := some failedAt }

def writtenState (run : ReconcileRun) (loaded : Option SearchSynonymSyncState)
    (record : SyncRecord) : SearchSynonymSyncState :=
  match loaded with
  | none => recordedState run {} record
  | some state =>
    { recordedState run state record with version := (recordedState run state record).version + 1 }

end MemeExpert.Services.SettingsReconcile
