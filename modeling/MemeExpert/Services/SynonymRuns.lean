import MemeExpert.Services.SynonymLedger

/-! Over any run a revision keeps its content once it is published, and the sync row says
SYNCED only of the revisions that are published then. -/

namespace MemeExpert.Services

open Runs SettingsReconcile

abbrev SynonymTransition := Transition SynonymState SynonymLabel

def OfLocale (tables : SynonymCatalogs) (locale : SearchSynonymLocale)
    (row : SearchSynonymRevision) : Prop :=
  row ∈ tables.revisions ∧
    ∃ catalog ∈ tables.catalogs, catalog.id = row.catalogId ∧ catalog.locale = locale

structure NamesPublished (runtime : TextRuntime) (tables : SynonymCatalogs)
    (state : SearchSynonymSyncState) : Prop where
  hashes : ∃ combined, IsCombinedMap (tables.publishedRows.map (·.compiledSynonyms)) combined ∧
    state.desiredHash = some (hashCanonicalSynonymMap runtime combined) ∧
    state.appliedHash = some (hashCanonicalSynonymMap runtime combined) ∧
    state.actualHash = some (hashCanonicalSynonymMap runtime combined)
  revisions : ∀ locale id, (locale, id) ∈ state.appliedRevisionIds ↔
    ∃ row, OfLocale tables locale row ∧ row.status = .published ∧ row.id = id
  desired : state.desiredRevisionIds = state.appliedRevisionIds

structure KeepsSynonymLedger (runtime : TextRuntime) (x : SynonymTransition) : Prop where
  one_draft : ∀ locale first second, OfLocale x.after.tables locale first →
    OfLocale x.after.tables locale second → first.status = .draft → second.status = .draft →
      first = second
  one_published : ∀ locale first second, OfLocale x.after.tables locale first →
    OfLocale x.after.tables locale second → first.status = .published →
      second.status = .published → first = second
  rows_kept : ∀ row ∈ x.before.tables.revisions, ∃ next ∈ x.after.tables.revisions,
    RowKept row next
  numbers_increase : ∀ locale row next, OfLocale x.before.tables locale row →
    OfLocale x.after.tables locale next → (∀ old ∈ x.before.tables.revisions, old.id ≠ next.id) →
      row.revisionNumber < next.revisionNumber
  keys_apart : ∀ locale other first second, locale ≠ other → OfLocale x.after.tables locale first →
    OfLocale x.after.tables other second → first.status = .published →
      second.status = .published →
        ∀ key ∈ keysOf first.compiledSynonyms, key ∉ keysOf second.compiledSynonyms
  synced : ∀ state, x.after.syncState = some state → state.status = .synced →
    NamesPublished runtime x.after.tables state

def PublishesRevision (x : SynonymTransition) : Prop :=
  ∃ row ∈ x.after.tables.publishedRows, ∀ old ∈ x.before.tables.publishedRows, old.id ≠ row.id

/-- A call read the ledger, the provider answered it with a map of this hash, and it
committed its record, in this order. -/
def AppliedSince (runtime : TextRuntime) (callId : Nat) (hash : String)
    (past : List SynonymLabel) : Prop :=
  ∃ load answer commit, IsLoad callId load ∧ IsAnswer runtime callId hash answer ∧
    IsCommit callId commit ∧ [load, answer, commit].Sublist past

instance (x : SynonymTransition) : Decidable (PublishesRevision x) :=
  inferInstanceAs (Decidable (∃ _ ∈ _, _))

structure InitialSynonyms (runtime : TextRuntime) (s : SynonymState) : Prop where
  idle : ∀ callId, s.sessions.calls callId = none
  keys_apart : KeysApart s.tables.revisions
  synced : ∀ state, s.syncState = some state → state.status = .synced →
    SyncedRight runtime s.tables state

section Tables

variable {tables : SynonymCatalogs} {locale other : SearchSynonymLocale}
  {first second : SearchSynonymRevision}

theorem catalogId_eq_of_locale (hfirst : OfLocale tables locale first)
    (hsecond : OfLocale tables locale second) : first.catalogId = second.catalogId := by
  obtain ⟨-, catalog, hcatalog, hid, hlocale⟩ := hfirst
  obtain ⟨-, found, hfound, hfoundId, hfoundLocale⟩ := hsecond
  have heq : catalog = found :=
    List.inj_on_of_nodup_map tables.constraints.one_catalog_per_locale hcatalog hfound
      (hlocale.trans hfoundLocale.symm)
  rw [← hid, ← hfoundId, heq]

theorem eq_of_locale {status : SearchSynonymRevisionStatus}
    (hunique : ((tables.revisions.filter fun row => row.status = status).map
      SearchSynonymRevision.catalogId).Nodup)
    (hfirst : OfLocale tables locale first) (hsecond : OfLocale tables locale second)
    (hfirstStatus : first.status = status) (hsecondStatus : second.status = status) :
    first = second := by
  apply List.inj_on_of_nodup_map hunique
  · exact List.mem_filter.mpr ⟨hfirst.1, decide_eq_true hfirstStatus⟩
  · exact List.mem_filter.mpr ⟨hsecond.1, decide_eq_true hsecondStatus⟩
  · exact catalogId_eq_of_locale hfirst hsecond

theorem catalogId_ne_of_locale (hne : locale ≠ other) (hfirst : OfLocale tables locale first)
    (hsecond : OfLocale tables other second) : first.catalogId ≠ second.catalogId := by
  intro heq
  obtain ⟨-, catalog, hcatalog, hid, rfl⟩ := hfirst
  obtain ⟨-, found, hfound, hfoundId, rfl⟩ := hsecond
  have hsame : catalog = found :=
    List.inj_on_of_nodup_map tables.constraints.catalogs_unique hcatalog hfound
      ((hid.trans heq).trans hfoundId.symm)
  exact hne (congrArg _ hsame)

theorem namesPublished_of_synced {runtime : TextRuntime} {state : SearchSynonymSyncState}
    (h : SyncedRight runtime tables state) : NamesPublished runtime tables state := by
  obtain ⟨⟨combined, hcombined, happlied⟩, hdesired, hactual, hids⟩ := h
  obtain ⟨⟨hentries, hascending⟩, hrevisions⟩ := combine_spec hcombined
  have hmaps : ∀ synonyms, synonyms ∈ (publishedSnapshots tables).map (·.compiledSynonyms) ↔
      synonyms ∈ tables.publishedRows.map (·.compiledSynonyms) := by
    intro synonyms
    rw [publishedSnapshots, List.map_map, List.mem_map, List.mem_map]
    constructor
    · rintro ⟨⟨row, locale⟩, hrow, rfl⟩
      obtain ⟨hmem, hpublished, -⟩ := mem_publishedWithLocale.mp hrow
      exact ⟨row, SynonymCatalogs.mem_publishedRows.mpr ⟨hmem, hpublished⟩, rfl⟩
    rintro ⟨row, hrow, rfl⟩
    obtain ⟨hmem, hpublished⟩ := SynonymCatalogs.mem_publishedRows.mp hrow
    obtain ⟨catalog, hcatalog, hid⟩ :=
      List.mem_map.mp (tables.constraints.revisions_catalog row hmem)
    exact ⟨(row, catalog.locale),
      mem_publishedWithLocale.mpr ⟨hmem, hpublished, catalog, hcatalog, hid, rfl⟩, rfl⟩
  refine ⟨⟨combined, ⟨fun entry => ?_, hascending⟩, hdesired.trans happlied, happlied,
    hactual.trans happlied⟩, ?_, hids⟩
  · rw [hentries entry]
    exact exists_congr fun synonyms => and_congr_left' (hmaps synonyms)
  intro locale id
  rw [hrevisions, publishedSnapshots]
  constructor
  · rintro ⟨_, hsnapshot, heq⟩
    obtain ⟨⟨row, _⟩, hrow, rfl⟩ := List.mem_map.mp hsnapshot
    cases heq
    obtain ⟨hmem, hpublished, hof⟩ := mem_publishedWithLocale.mp hrow
    exact ⟨row, ⟨hmem, hof⟩, hpublished, rfl⟩
  · rintro ⟨row, ⟨hmem, hof⟩, hpublished, rfl⟩
    exact ⟨_, List.mem_map_of_mem (mem_publishedWithLocale.mpr ⟨hmem, hpublished, hof⟩), rfl⟩

variable {runtime : TextRuntime} {seeds : SearchSynonymLocale → Option Text} {s t : SynonymState}
  {label : SynonymLabel}

theorem rows_kept_of_outcome (h : SynonymOutcome runtime s label t) :
    ∀ row ∈ s.tables.revisions, ∃ next ∈ t.tables.revisions, RowKept row next := by
  intro row hrow
  cases h with
  | edited hlock hedit hcommit =>
    refine ⟨_, ?_, rowKept_edited hedit hrow⟩
    dsimp only
    rw [(edited_tables hcommit).2]
    exact List.mem_map_of_mem hrow
  | published hlock hsync hwrite hcommit =>
    refine ⟨_, ?_, rowKept_update hwrite hrow⟩
    dsimp only
    rw [(published_tables hcommit).2]
    exact List.mem_append_left _ (List.mem_map_of_mem hrow)
  | _ => exact ⟨row, hrow, rowKept_refl row⟩

theorem catalogs_of_outcome (h : SynonymOutcome runtime s label t) :
    t.tables.catalogs = s.tables.catalogs := by
  cases h with
  | edited hlock hedit hcommit => exact (edited_tables hcommit).1
  | published hlock hsync hwrite hcommit => exact (published_tables hcommit).1
  | _ => rfl

theorem new_row_of_outcome (h : SynonymOutcome runtime s label t) {next : SearchSynonymRevision}
    (hnext : next ∈ t.tables.revisions) (hnew : ∀ old ∈ s.tables.revisions, old.id ≠ next.id) :
    ∀ row ∈ s.tables.revisions, row.catalogId = next.catalogId →
      row.revisionNumber < next.revisionNumber := by
  cases h with
  | edited hlock hedit hcommit =>
    dsimp only at hnext
    rw [(edited_tables hcommit).2] at hnext
    obtain ⟨row, hrow, rfl⟩ := List.mem_map.mp hnext
    exact (hnew row hrow (rowKept_edited hedit hrow).id.symm).elim
  | published hlock hsync hwrite hcommit =>
    dsimp only at hnext
    rw [(published_tables hcommit).2, writePublished, List.mem_append, List.mem_singleton] at hnext
    obtain hold | rfl := hnext
    · obtain ⟨row, hrow, rfl⟩ := List.mem_map.mp hold
      exact (hnew row hrow (rowKept_update hwrite hrow).id.symm).elim
    · intro row hrow hcatalog
      exact hwrite.next_number row hrow (hcatalog.trans hwrite.next_catalog)
  | _ => exact (hnew next hnext rfl).elim

theorem keeps_of_step (hs : LedgerRight runtime s)
    (h : synonymStep runtime seeds s label = some t) :
    KeepsSynonymLedger runtime ⟨s, label, t⟩ := by
  have houtcome := synonymOutcome_of_step hs h
  have ht := ledgerRight_of_outcome hs houtcome
  constructor
  · intro locale first second
    exact eq_of_locale t.tables.constraints.one_draft
  · intro locale first second
    exact eq_of_locale t.tables.constraints.one_published
  · exact rows_kept_of_outcome houtcome
  · intro locale row next hrow hnext hnew
    refine new_row_of_outcome houtcome hnext.1 hnew row hrow.1 ?_
    have hbefore : OfLocale t.tables locale next := hnext
    obtain ⟨-, catalog, hcatalog, hid, hlocale⟩ := hrow
    obtain ⟨-, found, hfound, hfoundId, hfoundLocale⟩ := hbefore
    rw [catalogs_of_outcome houtcome] at hfound
    have heq : catalog = found :=
      List.inj_on_of_nodup_map s.tables.constraints.one_catalog_per_locale hcatalog hfound
        (hlocale.trans hfoundLocale.symm)
    rw [← hid, ← hfoundId, heq]
  · intro locale other first second hne hfirst hsecond hp hq
    exact ht.keys_apart first hfirst.1 second hsecond.1 hp hq
      (catalogId_ne_of_locale hne hfirst hsecond)
  · intro state hstate hsynced
    exact namesPublished_of_synced (ht.synced state hstate hsynced)

end Tables

/-- Every run under way is superseded or was loaded by one of the labels, and SYNCED was
written by such a run. -/
structure SyncedSince (runtime : TextRuntime) (past : List SynonymLabel) (s : SynonymState) :
    Prop where
  right : LedgerRight runtime s
  runs : ∀ callId call run, s.sessions.calls callId = some call → call.run = some run →
    Superseded s.tables run ∨
      (∃ load, IsLoad callId load ∧ load ∈ past) ∧
        ∀ hash, call.succeeds = some hash → ∃ load answer, IsLoad callId load ∧
          IsAnswer runtime callId hash answer ∧ [load, answer].Sublist past
  synced : ∀ state, s.syncState = some state → state.status = .synced →
    ∃ callId hash, state.desiredHash = some hash ∧ AppliedSince runtime callId hash past

section Since

variable {runtime : TextRuntime} {seeds : SearchSynonymLocale → Option Text} {s t : SynonymState}
  {label : SynonymLabel} {past : List SynonymLabel}

variable {call : SynonymCall} {callId : Nat}

theorem calls_of_release {other : Nat} {next : Option SynonymCall}
    (h : (s.release callId next).sessions.calls other = some call) :
    other = callId ∧ next = some call ∨ s.sessions.calls other = some call := by
  cases next with
  | none => exact .inr (Calls.update_none_eq_some.mp h).2
  | some found =>
    obtain ⟨rfl, rfl⟩ | ⟨-, hold⟩ := Calls.update_some_eq_some.mp h
    · exact .inl ⟨rfl, rfl⟩
    · exact .inr hold

theorem calls_of_outcome (h : SynonymOutcome runtime s label t)
    (hcall : t.sessions.calls callId = some call) :
    s.sessions.calls callId = some call ∨ ContinuesRun runtime s label callId call := by
  cases h with
  | dropped | edited | published => exact .inl (Calls.update_none_eq_some.mp hcall).2
  | moved _ _ hrun =>
    obtain ⟨rfl, rfl⟩ | ⟨-, hold⟩ := Calls.update_some_eq_some.mp hcall
    · exact .inr hrun
    · exact .inl hold
  | took _ _ _ hrun =>
    obtain ⟨rfl, rfl⟩ | ⟨-, hold⟩ := Calls.update_some_eq_some.mp hcall
    · exact .inr hrun
    · exact .inl hold
  | released hnext =>
    obtain ⟨rfl, heq⟩ | hold := calls_of_release hcall
    · exact .inr (hnext call heq).run
    · exact .inl hold
  | wrote hsync hnext =>
    obtain ⟨rfl, heq⟩ | hold := calls_of_release hcall
    · exact .inr (hnext call heq).run
    · exact .inl hold

variable {run : ReconcileRun}

theorem superseded_of_outcome (h : SynonymOutcome runtime s label t)
    (hrun : RunRight runtime s.tables run) (hsuperseded : Superseded s.tables run) :
    Superseded t.tables run := by
  cases h with
  | edited hlock hedit hcommit =>
    dsimp only
    rwa [Superseded, publishedRows_of_edit hedit hcommit]
  | published hlock hsync hwrite hcommit => exact superseded_of_publication hwrite hcommit hrun.read
  | _ => exact hsuperseded

theorem LedgerRight.runRight (hs : LedgerRight runtime s)
    (hcall : s.sessions.calls callId = some call)
    (hrun : call.run = some run) : RunRight runtime s.tables run := by
  have hright := hs.calls.right callId call hcall
  cases call with
  | reading | submitting | verifying =>
    cases hrun
    exact hright
  | recording | recordLocked | recordChecked =>
    cases hrun
    exact hright.1
  | _ => cases hrun

theorem SyncedSince.runs_step (hs : SyncedSince runtime past s)
    (h : SynonymOutcome runtime s label t) (hcall : t.sessions.calls callId = some call)
    (hrun : call.run = some run) :
    Superseded t.tables run ∨
      (∃ load, IsLoad callId load ∧ load ∈ past ++ [label]) ∧
        ∀ hash, call.succeeds = some hash → ∃ load answer, IsLoad callId load ∧
          IsAnswer runtime callId hash answer ∧ [load, answer].Sublist (past ++ [label]) := by
  have hlonger : past.Sublist (past ++ [label]) := List.sublist_append_left ..
  obtain hold | hcontinues := calls_of_outcome h hcall
  · obtain hsuperseded | ⟨⟨load, hload, hmem⟩, hanswered⟩ := hs.runs callId call run hold hrun
    · exact .inl (superseded_of_outcome h (hs.right.runRight hold hrun) hsuperseded)
    · refine .inr ⟨⟨load, hload, hlonger.subset hmem⟩, fun hash hsucceeds => ?_⟩
      obtain ⟨first, answer, hfirst, hanswer, hsub⟩ := hanswered hash hsucceeds
      exact ⟨first, answer, hfirst, hanswer, hsub.trans hlonger⟩
  obtain ⟨hload, hnone⟩ | ⟨old, hold, holdRun, hsucceeds⟩ := hcontinues run hrun
  · refine .inr ⟨⟨label, hload, by simp⟩, fun hash hsucceeds => ?_⟩
    cases hnone.symm.trans hsucceeds
  obtain hsuperseded | ⟨⟨load, hload, hmem⟩, hanswered⟩ := hs.runs callId old run hold holdRun
  · exact .inl (superseded_of_outcome h (hs.right.runRight hold holdRun) hsuperseded)
  refine .inr ⟨⟨load, hload, hlonger.subset hmem⟩, fun hash hnew => ?_⟩
  obtain hbefore | hanswer := hsucceeds hash hnew
  · obtain ⟨first, answer, hfirst, hanswer, hsub⟩ := hanswered hash hbefore
    exact ⟨first, answer, hfirst, hanswer, hsub.trans hlonger⟩
  · refine ⟨load, label, hload, hanswer, ?_⟩
    exact List.Sublist.append (List.singleton_sublist.mpr hmem) (List.Sublist.refl [label])

theorem appliedSince_append {hash : String}
    (h : AppliedSince runtime callId hash past) :
    AppliedSince runtime callId hash (past ++ [label]) := by
  obtain ⟨load, answer, commit, hload, hanswer, hcommit, hsub⟩ := h
  exact ⟨load, answer, commit, hload, hanswer, hcommit, hsub.trans (List.sublist_append_left ..)⟩

theorem SyncedSince.synced_step (hs : SyncedSince runtime past s)
    (h : SynonymOutcome runtime s label t) {state : SearchSynonymSyncState}
    (hstate : t.syncState = some state) (hstatus : state.status = .synced) :
    ∃ callId hash, state.desiredHash = some hash ∧
      AppliedSince runtime callId hash (past ++ [label]) := by
  have hold : ∀ old, s.syncState = some old → old.status = .synced →
      ∃ callId hash, old.desiredHash = some hash ∧
        AppliedSince runtime callId hash (past ++ [label]) := by
    intro old hold hsynced
    obtain ⟨callId, hash, hhash, happlied⟩ := hs.synced old hold hsynced
    exact ⟨callId, hash, hhash, appliedSince_append happlied⟩
  cases h with
  | dropped | moved | took | released | edited => exact hold state hstate hstatus
  | published _ _ _ _ hpending =>
    cases hstate
    exact (hpending hstatus).elim
  | wrote _ _ _ hwrites =>
    cases hstate
    obtain ⟨old, holdState, hsynced, hhash⟩ |
      ⟨call, run, hash, hcall, hrun, hsucceeds, hhash, hcommit, hread⟩ := hwrites hstatus
    · rw [← hhash]
      exact hold old holdState hsynced
    obtain hsuperseded | ⟨-, hanswered⟩ := hs.runs _ call run hcall hrun
    · exact (not_superseded_of_current hread hsuperseded).elim
    obtain ⟨load, answer, hload, hanswer, hsub⟩ := hanswered hash hsucceeds
    exact ⟨_, hash, hhash, load, answer, label, hload, hanswer, hcommit,
      List.Sublist.append hsub (List.Sublist.refl [label])⟩

theorem syncedSince_step (hs : SyncedSince runtime past s)
    (h : synonymStep runtime seeds s label = some t) :
    SyncedSince runtime (past ++ [label]) t := by
  have houtcome := synonymOutcome_of_step hs.right h
  exact ⟨ledgerRight_of_outcome hs.right houtcome, fun _ _ _ => hs.runs_step houtcome,
    fun _ => hs.synced_step houtcome⟩

theorem syncedSince_of_publication (hs : LedgerRight runtime s)
    (h : synonymStep runtime seeds s label = some t)
    (hpublishes : PublishesRevision ⟨s, label, t⟩) : SyncedSince runtime [] t := by
  have houtcome := synonymOutcome_of_step hs h
  obtain ⟨row, hrow, hnew⟩ := hpublishes
  have ht := ledgerRight_of_outcome hs houtcome
  cases houtcome with
  | edited hlock hedit hcommit =>
    dsimp only at hrow hnew
    rw [publishedRows_of_edit hedit hcommit] at hrow
    exact (hnew row hrow rfl).elim
  | published hlock hsync hwrite hcommit hpending =>
    refine ⟨ht, fun callId call run hcall hrun => .inl ?_, ?_⟩
    · have hold := (Calls.update_none_eq_some.mp hcall).2
      exact superseded_of_publication hwrite hcommit (hs.runRight hold hrun).read
    · rintro _ ⟨⟩ hsynced
      exact (hpending hsynced).elim
  | _ => exact (hnew row hrow rfl).elim

theorem ledgerRight_of_initial (hs : InitialSynonyms runtime s) : LedgerRight runtime s :=
  ⟨hs.keys_apart, hs.synced, Sessions.sound_of_calls_none hs.idle⟩

theorem ledgerRight_before (seeds : SearchSynonymLocale → Option Text)
    (hs : InitialSynonyms runtime s) (labels : List SynonymLabel) :
    ∀ x ∈ transitions (synonymStep runtime seeds) s labels, LedgerRight runtime x.before :=
  (invariant_of_transitions (ledgerRight_of_initial hs) fun _ hx hbefore =>
    ledgerRight_of_outcome hbefore (synonymOutcome_of_step hbefore (step_of_mem_transitions hx))).1

/-- Every step of a run keeps the ledger, and a publication leaves the row not SYNCED until
a run that read the ledger after it has applied what it read. -/
theorem synonym_ledger_kept (seeds : SearchSynonymLocale → Option Text)
    (hs : InitialSynonyms runtime s) (labels : List SynonymLabel) :
    (∀ x ∈ transitions (synonymStep runtime seeds) s labels, KeepsSynonymLedger runtime x) ∧
      ∀ x ∈ transitions (synonymStep runtime seeds) s labels, PublishesRevision x →
        ∀ later state, (final (synonymStep runtime seeds) x.after later).syncState = some state →
          state.status = .synced → ∃ callId hash, state.desiredHash = some hash ∧
            AppliedSince runtime callId hash
              ((transitions (synonymStep runtime seeds) x.after later).map Transition.label) := by
  have hright := ledgerRight_before seeds hs labels
  refine ⟨fun x hx => keeps_of_step (hright x hx) (step_of_mem_transitions hx), ?_⟩
  intro x hx hpublishes later state hstate hsynced
  have hstart := syncedSince_of_publication (hright x hx) (step_of_mem_transitions hx) hpublishes
  have hkeep : ∀ past s a t, SyncedSince runtime past s → synonymStep runtime seeds s a = some t →
      SyncedSince runtime (past ++ [a]) t := fun _ _ _ _ => syncedSince_step
  exact (history_final hkeep hstart later).synced state hstate hsynced

end Since

def plainRuntime : TextRuntime where
  nfkc := id
  casefold text := text.map Char.toLower
  isAlnum := Char.isAlphanum
  unicodeName _ := []
  sha256Hex := String.ofList

def emptyDraft (id catalogId : Uuid) (sourceText : Text) : SearchSynonymRevision where
  id := id
  catalogId := catalogId
  revisionNumber := 1
  sourceText := sourceText
  compilerVersion := SEARCH_SYNONYM_COMPILER_VERSION
  compiledHash := ""
  validation := ⟨false, []⟩
  stats := ⟨0, 0, 0, 0, 0, 0, 0, 0⟩
  changeNote := "Initial draft."

def seededSynonyms : SynonymState where
  tables :=
    { catalogs := [⟨1, .en⟩, ⟨2, .ru⟩]
      revisions := [emptyDraft 11 1 "frog,toad".toList, emptyDraft 12 2 []] }
  syncState := some {}

def frogPublication : List SynonymLabel :=
  [.request 0 ⟨7, .en, "1", "publish", .publish false⟩, .lockCatalog 0, .readRevisions 0,
    .lockSyncState 0, .flush 0 13 5, .loadSnapshot 0, .commitPublication 0]

def frogRun : List SynonymLabel :=
  [.reconcile 1 6 6,
    .getSynonyms 1 (.ok (rawOf [("frog".toList, ["toad".toList]), ("toad".toList, ["frog".toList])]))
      6, .lockRecord 1, .checkRecord 1, .commitRecord 1]

theorem seededSynonyms_initial : InitialSynonyms plainRuntime seededSynonyms where
  idle _ := rfl
  keys_apart := by
    unfold KeysApart
    decide
  synced := by
    rintro _ ⟨⟩ ⟨⟩

theorem synonym_ledger_kept_frogs :
    ∃ x ∈ transitions (synonymStep plainRuntime fun _ => none) seededSynonyms frogPublication,
      KeepsSynonymLedger plainRuntime x ∧ PublishesRevision x ∧
        ∃ callId hash, AppliedSince plainRuntime callId hash
          ((transitions (synonymStep plainRuntime fun _ => none) x.after frogRun).map
            Transition.label) := by
  have hlast : ∃ x, (transitions (synonymStep plainRuntime fun _ => none) seededSynonyms
      frogPublication).getLast? = some x := Option.ne_none_iff_exists'.mp (by decide +kernel)
  obtain ⟨x, hx⟩ := hlast
  have hfacts : ((transitions (synonymStep plainRuntime fun _ => none) seededSynonyms
      frogPublication).getLast?.all fun x => decide (PublishesRevision x) &&
        decide ((final (synonymStep plainRuntime fun _ => none) x.after frogRun).syncState.map
          (·.status) = some .synced)) = true := by decide +kernel
  rw [hx, Option.all_some, Bool.and_eq_true, decide_eq_true_eq, decide_eq_true_eq] at hfacts
  obtain ⟨hpublishes, hsynced⟩ := hfacts
  obtain ⟨state, hstate, hstatus⟩ := Option.map_eq_some_iff.mp hsynced
  obtain ⟨hkept, hsince⟩ :=
    synonym_ledger_kept (fun _ => none) seededSynonyms_initial frogPublication
  have hmem := List.mem_of_getLast? hx
  obtain ⟨callId, hash, -, happlied⟩ := hsince x hmem hpublishes frogRun state hstate hstatus
  exact ⟨x, hmem, hkept x hmem, hpublishes, callId, hash, happlied⟩

end MemeExpert.Services
