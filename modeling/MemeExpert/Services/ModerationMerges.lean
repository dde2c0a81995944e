import MemeExpert.Lib.Runs
import MemeExpert.Services.ReconciledHashes

/-! A SHA reconciliation moves the reports and decisions of the memes it folds and flags the
canonical meme if one of them was flagged. -/

namespace MemeExpert

open Repointing Runs

namespace Content

structure ModerationFlags where
  isPublic : Bool
  visibilityMode : MemeVisibilityMode
  isNsfw : Bool

structure FoldedMemes where
  obsolete : List Uuid
  survivor : Uuid
  rows : Content

/-- Three kinds of merge, and what is reported, decided or flagged between two of them. -/
inductive MergeLabel where
  | embed (call : EmbedCompletion)
  | admin (memeId targetMemeId : Uuid) (confirmation : String)
  | reconcile (sha256Hex : String)
  | moderate (flags : Uuid → ModerationFlags) (reports : List ModerationReport)
      (decisions : List ModerationDecision)

section Steps

def foldedByLineage : Except ServiceError (MergeOutcome × Content) → Option FoldedMemes
  | .ok (outcome, t) => some ⟨outcome.sourceMemeId.toList, outcome.targetMemeId, t⟩
  | .error _ => none

def foldedBySha : Except ServiceError (ShaReconciliationResult × Content) → Option FoldedMemes
  | .ok (result, t) => some ⟨result.obsoleteMemeIds, result.canonicalMemeId, t⟩
  | .error _ => none

variable (similarityThreshold : Rat) (s : Content)

def foldMemes : MergeLabel → Option FoldedMemes
  | .embed call =>
    match s.files.find? fun file => file.id = call.memeFileId with
    | none => none
    | some file =>
      foldedByLineage (s.maybeMergeAfterEmbed similarityThreshold file call.similarityMatches)
  | .admin memeId targetMemeId confirmation =>
    foldedByLineage (s.mergeMeme memeId targetMemeId confirmation)
  | .reconcile sha256Hex => foldedBySha (s.reconcileSha sha256Hex)
  | .moderate _ _ _ => none

def setFlags (flags : Uuid → ModerationFlags) (reports : List ModerationReport)
    (decisions : List ModerationDecision) : Content :=
  { s with
    memes := s.memes.map fun meme =>
      { meme with
        isPublic := (flags meme.id).isPublic
        visibilityMode := (flags meme.id).visibilityMode
        isNsfw := (flags meme.id).isNsfw }
    reports := reports
    decisions := decisions }

def mergeStep (label : MergeLabel) : Option Content :=
  match label with
  | .moderate flags reports decisions => some (s.setFlags flags reports decisions)
  | label => (s.foldMemes similarityThreshold label).map FoldedMemes.rows

end Steps

/-- Reports and decisions follow their meme into the survivor, files too, and no flag is lost. -/
structure TruthKept (obsolete : List Uuid) (survivor : Uuid) (s t : Content) : Prop where
  reports : t.reports = s.reports.map fun row =>
    { row with memeId := redirectAll survivor obsolete row.memeId }
  decisions : t.decisions = s.decisions.map fun row =>
    { row with memeId := redirectAll survivor obsolete row.memeId }
  files : ∀ file ∈ t.files, ∃ old ∈ s.files, old.id = file.id ∧
    file.memeId = redirectAll survivor obsolete old.memeId
  flagged : ∀ meme ∈ s.memes, ∃ kept ∈ t.memes,
    kept.id = redirectAll survivor obsolete meme.id ∧ (meme.isNsfw = true → kept.isNsfw = true)

structure Unmoderated (s : Content) (source target : CanonicalMeme) : Prop where
  reports : ∀ row ∈ s.reports, row.memeId ≠ source.id
  decisions : ∀ row ∈ s.decisions, row.memeId ≠ source.id
  flag : source.isNsfw = true → target.isNsfw = true

def LosesNothing (similarityThreshold : Rat) (s : Content) : MergeLabel → Prop
  | .embed call => ∀ file current target score,
    (s.files.find? fun file => file.id = call.memeFileId) = some file →
    s.meme file.memeId = some current →
    s.selectMergeTarget similarityThreshold file call.similarityMatches current =
      some (target, score) →
    Unmoderated s current target
  | .admin memeId targetMemeId confirmation => ∀ source target,
    confirmation = toString memeId → targetMemeId ≠ memeId →
    s.meme memeId = some source → s.meme targetMemeId = some target →
    Unmoderated s source target
  | _ => True

section Lineage

variable {s t : Content} {similarityThreshold : Rat} {source target : CanonicalMeme}

theorem truthKept_refl (survivor : Uuid) : TruthKept [] survivor s s where
  reports := (List.map_id' _).symm
  decisions := (List.map_id' _).symm
  files := fun file hfile => ⟨file, hfile, rfl, rfl⟩
  flagged := fun meme hmeme => ⟨meme, hmeme, rfl, id⟩

theorem filter_eq_redirected_iff {ρ : Type} (ref : ρ → Uuid) (withRef : Uuid → ρ → ρ)
    (hself : ∀ row, withRef (ref row) row = row) (rows : List ρ) (sourceId targetId : Uuid) :
    (rows.filter fun row => ref row ≠ sourceId) =
        (rows.map fun row => withRef (redirectAll targetId [sourceId] (ref row)) row) ↔
      ∀ row ∈ rows, ref row ≠ sourceId := by
  constructor
  · intro h
    have hlength := congrArg List.length h
    rw [List.length_map, List.length_filter_eq_length_iff] at hlength
    intro row hrow
    simpa using hlength row hrow
  intro h
  have hfilter : (rows.filter fun row => ref row ≠ sourceId) = rows := by
    rw [List.filter_eq_self]
    intro row hrow
    simpa using h row hrow
  have hmap : (rows.map fun row => withRef (redirectAll targetId [sourceId] (ref row)) row) =
      rows := by
    apply map_eq_self
    intro row hrow
    rw [redirectAll_of_not_mem (by simpa using h row hrow), hself]
  rw [hfilter, hmap]

theorem mergedRows_truthKept_iff (hs : s.Constraints) (hsource : source ∈ s.memes)
    (htarget : target ∈ s.memes) (hne : source.id ≠ target.id)
    {f : CanonicalMeme → CanonicalMeme}
    (hf : ∀ meme, (f meme).id = meme.id ∧ (f meme).isNsfw = meme.isNsfw)
    (hreports : t.reports = s.reports.filter fun row => row.memeId ≠ source.id)
    (hdecisions : t.decisions = s.decisions.filter fun row => row.memeId ≠ source.id)
    (hfiles : t.files = s.files.map fun file =>
      if file.memeId = source.id then { file with memeId := target.id } else file)
    (hmemes : t.memes = (s.memes.filter fun meme => meme.id ≠ source.id).map fun meme =>
      if meme.id = target.id then f meme else meme) :
    TruthKept [source.id] target.id s t ↔ Unmoderated s source target := by
  have hreportsiff := filter_eq_redirected_iff ModerationReport.memeId
    (fun memeId row => { row with memeId := memeId }) (fun _ => rfl) s.reports source.id target.id
  have hdecisionsiff := filter_eq_redirected_iff ModerationDecision.memeId
    (fun memeId row => { row with memeId := memeId }) (fun _ => rfl) s.decisions source.id target.id
  have hkept : f target ∈ t.memes := by
    rw [hmemes]
    refine List.mem_map.mpr ⟨target, List.mem_filter.mpr ⟨htarget, ?_⟩, if_pos rfl⟩
    simpa using Ne.symm hne
  constructor
  · intro h
    refine ⟨hreportsiff.mp (hreports.symm.trans h.reports),
      hdecisionsiff.mp (hdecisions.symm.trans h.decisions), ?_⟩
    intro hflag
    obtain ⟨kept, hmem, hid, hstays⟩ := h.flagged source hsource
    rw [redirectAll_of_mem List.mem_cons_self] at hid
    rw [hmemes] at hmem
    obtain ⟨old, hold, rfl⟩ := List.mem_map.mp hmem
    have holdid : old.id = target.id := by
      by_contra hother
      rw [if_neg hother] at hid
      exact hother hid
    have hsame : old = target :=
      List.inj_on_of_nodup_map hs.memes_unique (List.mem_of_mem_filter hold) htarget holdid
    subst hsame
    have hnsfw := hstays hflag
    rw [if_pos rfl, (hf old).2] at hnsfw
    exact hnsfw
  · intro h
    refine ⟨hreports.trans (hreportsiff.mpr h.reports),
      hdecisions.trans (hdecisionsiff.mpr h.decisions), ?_, ?_⟩
    · intro file hfile
      rw [hfiles] at hfile
      obtain ⟨old, hold, rfl⟩ := List.mem_map.mp hfile
      refine ⟨old, hold, ?_, ?_⟩
      · split <;> rfl
      split
      · next hmoved => rw [hmoved, redirectAll_of_mem List.mem_cons_self]
      · next hstays => rw [redirectAll_of_not_mem (by simpa using hstays)]
    intro meme hmeme
    by_cases hgone : meme.id = source.id
    · have hsame : meme = source := List.inj_on_of_nodup_map hs.memes_unique hmeme hsource hgone
      subst hsame
      refine ⟨f target, hkept, ?_, ?_⟩
      · rw [redirectAll_of_mem List.mem_cons_self, (hf target).1]
      · rw [(hf target).2]
        exact h.flag
    refine ⟨if meme.id = target.id then f meme else meme, ?_, ?_, ?_⟩
    · rw [hmemes]
      refine List.mem_map.mpr ⟨meme, List.mem_filter.mpr ⟨hmeme, ?_⟩, rfl⟩
      simpa using hgone
    · rw [redirectAll_of_not_mem (by simpa using hgone)]
      split
      · exact (hf meme).1
      · rfl
    split
    · rw [(hf meme).2]
      exact id
    · exact id

theorem applyMerge_truthKept_iff (hs : s.Constraints) (hsource : source ∈ s.memes)
    (htarget : target ∈ s.memes) (hne : source.id ≠ target.id)
    (sourceMemeFileId : Option Uuid) (similarityScore : Option Rat) (mergeReason : String) :
    ∃ t, foldedByLineage (s.applyMerge source sourceMemeFileId target similarityScore mergeReason) =
        some ⟨[source.id], target.id, t⟩ ∧ t.Constraints ∧
      (TruthKept [source.id] target.id s t ↔ Unmoderated s source target) := by
  obtain ⟨f, outcome, log, happly, hf, ⟨hfrom, hto⟩, -, -⟩ :=
    applyMerge_rows hs htarget hne sourceMemeFileId similarityScore mergeReason
  obtain ⟨_, t, happly', ht, -⟩ :=
    applyMerge_conserves hs htarget hne sourceMemeFileId similarityScore mergeReason
  rw [happly] at happly'
  cases happly'
  refine ⟨_, ?_, ht, ?_⟩
  · rw [happly, foldedByLineage, hfrom, hto]
    rfl
  · exact mergedRows_truthKept_iff hs hsource htarget hne
      (fun meme => ⟨(hf meme).1, (hf meme).2.2⟩) rfl rfl rfl rfl

theorem lineage_of_embed {call : EmbedCompletion} {folded : FoldedMemes} (hs : s.Constraints)
    (h : s.foldMemes similarityThreshold (.embed call) = some folded) :
    folded.rows.Constraints ∧
      (TruthKept folded.obsolete folded.survivor s folded.rows ↔
        LosesNothing similarityThreshold s (.embed call)) := by
  dsimp only [foldMemes] at h
  split at h
  · cases h
  next file hfile =>
  unfold maybeMergeAfterEmbed at h
  split at h
  · cases h
  next current hcurrent =>
  obtain ⟨hcurrentmem, hcurrentid⟩ := meme_eq_some hcurrent
  split at h
  · next hselect =>
    cases h
    refine ⟨hs, fun _ => ?_, fun _ => truthKept_refl _⟩
    intro file' current' target score hfile' hcurrent' hselect'
    rw [hfile] at hfile'
    cases hfile'
    rw [hcurrent] at hcurrent'
    cases hcurrent'
    rw [hselect] at hselect'
    cases hselect'
  · next target score hselect =>
    obtain ⟨htarget, -, hother⟩ := selectMergeTarget_eq_some hselect
    have hne : current.id ≠ target.id := hcurrentid.trans_ne (Ne.symm hother)
    obtain ⟨t, hfold, ht, hiff⟩ := applyMerge_truthKept_iff hs hcurrentmem htarget hne
      (some file.id) (some score) MERGE_REASON_HIGH_SIMILARITY
    rw [hfold] at h
    cases h
    refine ⟨ht, hiff.trans ⟨?_, ?_⟩⟩
    · intro hunmoderated file' current' target' score' hfile' hcurrent' hselect'
      rw [hfile] at hfile'
      cases hfile'
      rw [hcurrent] at hcurrent'
      cases hcurrent'
      rw [hselect] at hselect'
      cases hselect'
      exact hunmoderated
    · exact fun hloses => hloses file current target score hfile hcurrent hselect

theorem lineage_of_admin {memeId targetMemeId : Uuid} {confirmation : String}
    {folded : FoldedMemes} (hs : s.Constraints)
    (h : s.foldMemes similarityThreshold (.admin memeId targetMemeId confirmation) = some folded) :
    folded.rows.Constraints ∧
      (TruthKept folded.obsolete folded.survivor s folded.rows ↔
        LosesNothing similarityThreshold s (.admin memeId targetMemeId confirmation)) := by
  dsimp only [foldMemes, mergeMeme] at h
  split at h
  · cases h
  next source hsource =>
  obtain ⟨hsourcemem, hsourceid⟩ := meme_eq_some hsource
  split at h
  · cases h
  next hconfirmed =>
  split at h
  · cases h
  next hother =>
  split at h
  · cases h
  next target htarget =>
  obtain ⟨htargetmem, htargetid⟩ := meme_eq_some htarget
  have hne : source.id ≠ target.id := by
    rw [hsourceid, htargetid]
    exact Ne.symm hother
  obtain ⟨t, hfold, ht, hiff⟩ := applyMerge_truthKept_iff hs hsourcemem htargetmem hne
    (some source.primaryFileId) none MERGE_REASON_ADMIN
  rw [hfold] at h
  cases h
  refine ⟨ht, hiff.trans ⟨?_, ?_⟩⟩
  · intro hunmoderated source' target' _ _ hsource' htarget'
    rw [hsource] at hsource'
    cases hsource'
    rw [htarget] at htarget'
    cases htarget'
    exact hunmoderated
  · exact fun hloses =>
      hloses source target (Decidable.not_not.mp hconfirmed) hother hsource htarget

variable {sha256Hex : String}

theorem reconciledRows_truthKept {files memes : List Uuid} {fileId : Uuid} {meme : CanonicalMeme}
    {group : List CanonicalMeme} {g : CanonicalMeme → CanonicalMeme} {logs : List MemeMergeLog}
    (hmeme : meme ∈ s.memes) (hnot : meme.id ∉ memes) (hself : meme ∈ group)
    (hgroup : ∀ other ∈ s.memes, other.id ∈ memes → other ∈ group)
    (hunique : (s.memes.map fun meme => meme.id).Nodup)
    (hg : ∀ other, (g other).id = other.id ∧ (g other).isNsfw = group.any CanonicalMeme.isNsfw) :
    TruthKept memes meme.id s (s.reconciledRows files fileId memes meme.id g logs) where
  reports := rfl
  decisions := rfl
  files := by
    intro file hfile
    obtain ⟨old, hold, -, rfl⟩ := mem_reconciledRows_files.mp hfile
    exact ⟨old, hold, rfl, rfl⟩
  flagged := by
    have hflag : ∀ other ∈ group, other.isNsfw = true → (g meme).isNsfw = true := by
      intro other hother hnsfw
      rw [(hg meme).2, List.any_eq_true]
      exact ⟨other, hother, hnsfw⟩
    have hcanonical : g meme ∈ (s.reconciledRows files fileId memes meme.id g logs).memes :=
      mem_reconciledRows_memes.mpr ⟨meme, hmeme, hnot, if_pos rfl⟩
    intro other hother
    by_cases hgone : other.id ∈ memes
    · refine ⟨g meme, hcanonical, ?_, hflag other (hgroup other hother hgone)⟩
      rw [redirectAll_of_mem hgone, (hg meme).1]
    rw [redirectAll_of_not_mem hgone]
    by_cases hid : other.id = meme.id
    · have hsame : other = meme := List.inj_on_of_nodup_map hunique hother hmeme hid
      subst hsame
      exact ⟨g other, hcanonical, (hg other).1, hflag other hself⟩
    · exact ⟨other, mem_reconciledRows_memes.mpr ⟨other, hother, hgone, if_neg hid⟩, rfl, id⟩

theorem truthKept_of_reconcile {folded : FoldedMemes} (hs : s.Constraints)
    (h : foldedBySha (s.reconcileSha sha256Hex) = some folded) :
    folded.rows.Constraints ∧ TruthKept folded.obsolete folded.survivor s folded.rows := by
  have hheld : ∃ file ∈ s.files, file.sha256Hex = some sha256Hex := by
    by_contra hnone
    have hnil : s.filesWithSha sha256Hex = [] := by
      rw [List.eq_nil_iff_forall_not_mem]
      intro file hfile
      exact hnone ⟨file, mem_filesWithSha.mp hfile⟩
    simp [reconcileSha, hnil, foldedBySha] at h
  obtain ⟨file, hfile, meme, hmeme, hchoice⟩ := reconcileSha_choice hs hheld
  rw [hchoice] at h
  by_cases hsingle : ((s.filesWithSha sha256Hex).filter fun other => other.id ≠ file.id) = []
  · rw [reconcileGroup_of_single hsingle] at h
    cases h
    exact ⟨hs, truthKept_refl _⟩
  obtain ⟨result, g, logs, hresult, -, hcanonical, hobsolete, hg, -⟩ :=
    reconcileGroup_rows hs hfile hmeme hsingle
  obtain ⟨_, t, hresult', ht, -⟩ := reconcileGroup_reconciled hs hfile hmeme
  rw [hresult] at hresult' h
  cases hresult'
  cases h
  dsimp only
  refine ⟨ht, ?_⟩
  rw [hcanonical]
  apply reconciledRows_truthKept (mem_memesOfFiles.mp hmeme).1 _ hmeme _ hs.memes_unique hg
  · rw [hobsolete]
    simp
  intro other hother hgone
  rw [hobsolete] at hgone
  obtain ⟨member, hmember, hid⟩ := List.mem_map.mp hgone
  have hmem := List.mem_of_mem_filter hmember
  have hsame : member = other := List.inj_on_of_nodup_map hs.memes_unique
    (mem_memesOfFiles.mp hmem).1 hother hid
  exact hsame ▸ hmem

variable {label : MergeLabel}

theorem constraints_setFlags (hs : s.Constraints) (flags : Uuid → ModerationFlags)
    (reports : List ModerationReport) (decisions : List ModerationDecision) :
    (s.setFlags flags reports decisions).Constraints := by
  refine ⟨?_, hs.files_unique, ?_, ?_, hs.saves_unique, hs.pins_unique, hs.stages_unique,
    hs.syncs_unique, hs.ocr_unique, hs.telegram_unique, hs.seo_unique⟩
  · rw [setFlags, List.map_map]
    exact hs.memes_unique
  · intro file hfile
    obtain ⟨meme, hmeme, hid⟩ := hs.files_meme file hfile
    exact ⟨_, List.mem_map_of_mem hmeme, hid⟩
  · intro meme hmeme
    obtain ⟨old, hold, rfl⟩ := List.mem_map.mp hmeme
    exact hs.memes_primary old hold

theorem foldMemes_spec {folded : FoldedMemes} (hs : s.Constraints)
    (h : s.foldMemes similarityThreshold label = some folded) :
    folded.rows.Constraints ∧
      (TruthKept folded.obsolete folded.survivor s folded.rows ↔
        LosesNothing similarityThreshold s label) := by
  cases label with
  | embed call => exact lineage_of_embed hs h
  | admin memeId targetMemeId confirmation => exact lineage_of_admin hs h
  | reconcile sha256Hex =>
    obtain ⟨ht, hkept⟩ := truthKept_of_reconcile hs h
    exact ⟨ht, fun _ => trivial, fun _ => hkept⟩
  | moderate flags reports decisions => cases h

theorem mergeStep_cases (h : s.mergeStep similarityThreshold label = some t) :
    (∃ flags reports decisions, label = .moderate flags reports decisions ∧
      t = s.setFlags flags reports decisions) ∨
    ∃ folded, s.foldMemes similarityThreshold label = some folded ∧ folded.rows = t := by
  cases label with
  | moderate flags reports decisions =>
    exact .inl ⟨flags, reports, decisions, rfl, (Option.some.inj h).symm⟩
  | embed call => exact .inr (Option.map_eq_some_iff.mp h)
  | admin memeId targetMemeId confirmation => exact .inr (Option.map_eq_some_iff.mp h)
  | reconcile sha256Hex => exact .inr (Option.map_eq_some_iff.mp h)

theorem constraints_mergeStep (hs : s.Constraints)
    (h : s.mergeStep similarityThreshold label = some t) : t.Constraints := by
  rcases mergeStep_cases h with ⟨flags, reports, decisions, -, rfl⟩ | ⟨folded, hfold, rfl⟩
  · exact constraints_setFlags hs flags reports decisions
  · exact (foldMemes_spec hs hfold).1

end Lineage

/-- In every sequence of merges all reports, decisions and flags survive exactly if no near-duplicate
merge and no merge of an administrator takes a source with a report, a decision or a flag that its
target lacks. -/
theorem moderation_truth_survives_iff {s : Content} (hs : s.Constraints) (similarityThreshold : Rat)
    (as : List MergeLabel) :
    (∀ x ∈ transitions (mergeStep similarityThreshold) s as, ∀ folded,
        x.before.foldMemes similarityThreshold x.label = some folded →
        TruthKept folded.obsolete folded.survivor x.before x.after) ↔
      ∀ x ∈ transitions (mergeStep similarityThreshold) s as,
        LosesNothing similarityThreshold x.before x.label := by
  have hbefore : ∀ x ∈ transitions (mergeStep similarityThreshold) s as, x.before.Constraints :=
    fun x hx => invariant_before hs (fun y hy hy' =>
      constraints_mergeStep hy' (step_of_mem_transitions hy)) hx
  constructor
  · intro hkept x hx
    rcases mergeStep_cases (step_of_mem_transitions hx) with
      ⟨flags, reports, decisions, hlabel, -⟩ | ⟨folded, hfold, hrows⟩
    · rw [hlabel]
      trivial
    have htruth := hkept x hx folded hfold
    rw [← hrows] at htruth
    exact (foldMemes_spec (hbefore x hx) hfold).2.mp htruth
  intro hloses x hx folded hfold
  rcases mergeStep_cases (step_of_mem_transitions hx) with
    ⟨flags, reports, decisions, hlabel, -⟩ | ⟨other, hother, hrows⟩
  · rw [hlabel] at hfold
    cases hfold
  rw [hfold] at hother
  cases hother
  rw [← hrows]
  exact (foldMemes_spec (hbefore x hx) hfold).2.mpr (hloses x hx)

def reportedDuplicate : Content where
  memes :=
    [{ id := 1, primaryFileId := 11, createdAt := 0, isPublic := true },
      { id := 2, primaryFileId := 12, createdAt := 5, isPublic := true, isNsfw := true }]
  files :=
    [{ id := 11, memeId := 1, s3OriginalKey := "a" }, { id := 12, memeId := 2, s3OriginalKey := "b" }]
  reports := [{ id := 21, memeId := 2 }]

theorem reportedDuplicate_constraints : reportedDuplicate.Constraints := by
  constructor <;> decide

theorem moderation_truth_survives_iff_reportedDuplicate :
    (transitions (mergeStep 0) reportedDuplicate [.admin 1 2 "1"]).length = 1 ∧
      ∀ x ∈ transitions (mergeStep 0) reportedDuplicate [.admin 1 2 "1"], ∀ folded,
        x.before.foldMemes 0 x.label = some folded →
        TruthKept folded.obsolete folded.survivor x.before x.after := by
  refine ⟨rfl, (moderation_truth_survives_iff reportedDuplicate_constraints 0 _).mpr ?_⟩
  intro x hx
  cases List.mem_singleton.mp hx
  rintro source target - - ⟨⟩ ⟨⟩
  constructor <;> decide

/-- The open report is gone after either merge, and the flagged file is one of a meme flagged
safe. -/
theorem reported_duplicate_loses_report :
    reportedDuplicate.Constraints ∧
      ∀ label ∈ [MergeLabel.embed ⟨12, [⟨11, 1, 1⟩]⟩, MergeLabel.admin 2 1 "2"],
        ∃ folded, reportedDuplicate.foldMemes 0 label = some folded ∧
          folded.rows.reports = [] ∧
          (folded.rows.files.map fun file => (file.id, file.memeId)) = [(11, 1), (12, 1)] ∧
          (folded.rows.memes.map fun meme => (meme.id, meme.isNsfw)) = [(1, false)] ∧
          ¬ TruthKept folded.obsolete folded.survivor reportedDuplicate folded.rows := by
  refine ⟨reportedDuplicate_constraints, ?_⟩
  have hlost : ∀ {folded : FoldedMemes}, folded.rows.reports = [] →
      ¬ TruthKept folded.obsolete folded.survivor reportedDuplicate folded.rows := by
    intro folded hnil hkept
    have hmap := hkept.reports
    rw [hnil] at hmap
    cases hmap
  intro label hlabel
  simp only [List.mem_cons, List.not_mem_nil, or_false] at hlabel
  rcases hlabel with rfl | rfl
  · exact ⟨_, rfl, rfl, rfl, rfl, hlost rfl⟩
  · exact ⟨_, rfl, rfl, rfl, rfl, hlost rfl⟩

end Content

end MemeExpert
