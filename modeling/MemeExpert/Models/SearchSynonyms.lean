import MemeExpert.Services.SearchSynonymCompiler

/-! A locale has one catalog. Its revisions are one draft, one published revision at most,
and archived ones. -/

namespace MemeExpert

inductive SearchSynonymRevisionStatus where
  | draft | published | archived
  deriving DecidableEq

inductive SearchSynonymSyncStatus where
  | idle | pending | syncing | synced | failed
  deriving DecidableEq

structure SearchSynonymCatalog where
  id : Uuid
  locale : SearchSynonymLocale

structure SearchSynonymRevision where
  id : Uuid
  catalogId : Uuid
  revisionNumber : Nat
  status : SearchSynonymRevisionStatus := .draft
  sourceText : Text := []
  compiledSynonyms : SynonymMap := []
  compilerVersion : String
  compiledHash : String
  validation : Services.SynonymValidation
  stats : Services.SynonymStats
  changeNote : String
  version : Nat := 1
  createdByAdminUserId : Option Uuid := none
  updatedByAdminUserId : Option Uuid := none
  publishedByAdminUserId : Option Uuid := none
  archivedByAdminUserId : Option Uuid := none
  publishedAt : Option Time := none
  archivedAt : Option Time := none

structure SearchSynonymSyncState where
  status : SearchSynonymSyncStatus := .idle
  desiredHash : Option String := none
  appliedHash : Option String := none
  actualHash : Option String := none
  desiredRevisionIds : List (SearchSynonymLocale × Uuid) := []
  appliedRevisionIds : List (SearchSynonymLocale × Uuid) := []
  providerTaskUid : Option Nat := none
  lastError : Option String := none
  requestedAt : Option Time := none
  lastAttemptAt : Option Time := none
  lastSuccessAt : Option Time := none
  lastFailureAt : Option Time := none
  version : Nat := 1

structure SynonymConstraints (catalogs : List SearchSynonymCatalog)
    (revisions : List SearchSynonymRevision) : Prop where
  catalogs_unique : (catalogs.map SearchSynonymCatalog.id).Nodup
  one_catalog_per_locale : (catalogs.map SearchSynonymCatalog.locale).Nodup
  revisions_unique : (revisions.map SearchSynonymRevision.id).Nodup
  revisions_catalog : ∀ row ∈ revisions, row.catalogId ∈ catalogs.map SearchSynonymCatalog.id
  numbers_unique : (revisions.map fun row => (row.catalogId, row.revisionNumber)).Nodup
  numbers_positive : ∀ row ∈ revisions, 1 ≤ row.revisionNumber ∧ 1 ≤ row.version
  one_draft :
    ((revisions.filter fun row => row.status = .draft).map SearchSynonymRevision.catalogId).Nodup
  one_published :
    ((revisions.filter fun row => row.status = .published).map
      SearchSynonymRevision.catalogId).Nodup

instance (catalogs : List SearchSynonymCatalog) (revisions : List SearchSynonymRevision) :
    Decidable (SynonymConstraints catalogs revisions) :=
  decidable_of_iff
    ((catalogs.map SearchSynonymCatalog.id).Nodup ∧
      (catalogs.map SearchSynonymCatalog.locale).Nodup ∧
      (revisions.map SearchSynonymRevision.id).Nodup ∧
      (∀ row ∈ revisions, row.catalogId ∈ catalogs.map SearchSynonymCatalog.id) ∧
      (revisions.map fun row => (row.catalogId, row.revisionNumber)).Nodup ∧
      (∀ row ∈ revisions, 1 ≤ row.revisionNumber ∧ 1 ≤ row.version) ∧
      ((revisions.filter fun row => row.status = .draft).map
        SearchSynonymRevision.catalogId).Nodup ∧
      ((revisions.filter fun row => row.status = .published).map
        SearchSynonymRevision.catalogId).Nodup)
    ⟨fun ⟨a, b, c, d, e, f, g, h⟩ => ⟨a, b, c, d, e, f, g, h⟩,
      fun ⟨a, b, c, d, e, f, g, h⟩ => ⟨a, b, c, d, e, f, g, h⟩⟩

structure SynonymCatalogs where
  catalogs : List SearchSynonymCatalog := []
  revisions : List SearchSynonymRevision := []
  constraints : SynonymConstraints catalogs revisions := by decide

namespace SynonymCatalogs

variable (s : SynonymCatalogs)

def catalog (locale : SearchSynonymLocale) : Option SearchSynonymCatalog :=
  s.catalogs.find? fun catalog => catalog.locale = locale

def revisionsOf (catalogId : Uuid) : List SearchSynonymRevision :=
  (s.revisions.filter fun row => row.catalogId = catalogId).insertionSort
    fun first second => second.revisionNumber ≤ first.revisionNumber

def publishedRows : List SearchSynonymRevision :=
  s.revisions.filter fun row => row.status = .published

def commit (revisions : List SearchSynonymRevision) : Option SynonymCatalogs :=
  if h : SynonymConstraints s.catalogs revisions then some ⟨s.catalogs, revisions, h⟩ else none

variable {s}

theorem commit_eq_some {t : SynonymCatalogs} {revisions : List SearchSynonymRevision} :
    s.commit revisions = some t ↔ t.catalogs = s.catalogs ∧ t.revisions = revisions := by
  unfold commit
  constructor
  · intro h
    split at h
    · cases h
      exact ⟨rfl, rfl⟩
    · cases h
  · obtain ⟨catalogs, rows, hconstraints⟩ := t
    rintro ⟨rfl, rfl⟩
    rw [dif_pos hconstraints]

theorem mem_revisionsOf {catalogId : Uuid} {row : SearchSynonymRevision} :
    row ∈ s.revisionsOf catalogId ↔ row ∈ s.revisions ∧ row.catalogId = catalogId := by
  rw [revisionsOf, List.mem_insertionSort, List.mem_filter, decide_eq_true_eq]

theorem mem_publishedRows {row : SearchSynonymRevision} :
    row ∈ s.publishedRows ↔ row ∈ s.revisions ∧ row.status = .published := by
  rw [publishedRows, List.mem_filter, decide_eq_true_eq]

end SynonymCatalogs

end MemeExpert
