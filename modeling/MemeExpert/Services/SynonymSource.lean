import MemeExpert.Services.SearchSynonymCompiler

/-! A source is valid if its lines are acceptable, its groups keep to the limits of the engine and
there is a key. -/

namespace MemeExpert.Services

section Source

variable (runtime : TextRuntime) (locale : SearchSynonymLocale)

def isGroupLine (line : Text) : Bool := stripText line ≠ []

def sourceLines (sourceText : Text) : List Text := (splitLines sourceText).filter isGroupLine

def normalizedTerm (rawTerm : Text) : Text := normalizeSynonymTerm runtime (stripText rawTerm)

def termsOfLine (line : Text) : List Text := (line.splitOn ',').map (normalizedTerm runtime)

def sourceGroups (sourceText : Text) : List (List Text) :=
  (sourceLines sourceText).map (termsOfLine runtime)

def compiledGroups (sourceText : Text) : List (List Text) :=
  (scanLines runtime locale 1 {} (splitLines sourceText)).groups.map fun group =>
    group.2.map Prod.fst

structure AcceptsTerm (rawTerm : Text) : Prop where
  nonempty : stripText rawTerm ≠ []
  normalized : normalizedTerm runtime rawTerm ≠ []
  short : (normalizedTerm runtime rawTerm).length ≤ MAX_TERM_LENGTH
  script : containsDisallowedScript runtime (normalizedTerm runtime rawTerm) locale = false
  words : countSynonymTokens runtime (normalizedTerm runtime rawTerm) ≠ 0

structure AcceptsLine (line : Text) : Prop where
  two : 2 ≤ (line.splitOn ',').length
  terms : ∀ rawTerm ∈ line.splitOn ',', AcceptsTerm runtime locale rawTerm

structure IsCleanSource (sourceText : Text) : Prop where
  lines : ∀ line ∈ sourceLines sourceText, AcceptsLine runtime locale line
  unique : (sourceGroups runtime sourceText).flatten.Nodup

def isEligible (term : Text) : Bool := countSynonymTokens runtime term ≤ MAX_KEY_TOKENS

def targetsOf (terms : List Text) (key : Text) : List Text :=
  (terms.filter (· ≠ key)).insertionSort (· ≤ ·)

def entriesOfGroup (terms : List Text) : SynonymMap :=
  (terms.filter (isEligible runtime)).map fun key => (key, targetsOf terms key)

def entriesOfGroups (groups : List (List Text)) : SynonymMap :=
  groups.flatMap (entriesOfGroup runtime)

def KeepsLimits (entry : Text × List Text) : Prop :=
  entry.2.length ≤ MAX_TARGETS_PER_KEY ∧
    (entry.2.map (countSynonymTokens runtime)).sum ≤ MAX_TARGET_WORDS_PER_KEY

end Source

section Scan

variable {runtime : TextRuntime} {locale : SearchSynonymLocale} {lineNumber : Nat}
  {scan : SourceScan} {rawTerm line : Text} {rawTerms lines : List Text}

def SourceScan.terms (scan : SourceScan) : List Text := scan.seenTerms.map Prod.fst

theorem lookup_eq_none_iff {entries : List (Text × Nat)} {term : Text} :
    entries.lookup term = none ↔ term ∉ entries.map Prod.fst := by
  rw [List.lookup_eq_none_iff, List.mem_map]
  constructor
  · rintro h ⟨entry, hentry, rfl⟩
    simpa using h entry hentry
  intro h entry hentry
  have hne : entry.1 ≠ term := fun heq => h ⟨entry, hentry, heq⟩
  simpa using hne.symm

def counted (runtime : TextRuntime) (term : Text) : Text × Nat :=
  (term, countSynonymTokens runtime term)

theorem map_fst_counted {terms : List Text} :
    (terms.map (counted runtime)).map Prod.fst = terms := by
  rw [List.map_map]
  exact List.map_id terms

def SourceScan.accept (scan : SourceScan) (lineNumber : Nat) (term : Text) : SourceScan :=
  { scan with
    termCount := scan.termCount + 1
    seenTerms := scan.seenTerms ++ [(term, lineNumber)] }

theorem scanTerm_of_accepts (lineNumber : Nat) (h : AcceptsTerm runtime locale rawTerm)
    (hnew : normalizedTerm runtime rawTerm ∉ scan.terms) :
    scanTerm runtime locale lineNumber scan rawTerm =
      (scan.accept lineNumber (normalizedTerm runtime rawTerm),
        some (counted runtime (normalizedTerm runtime rawTerm))) := by
  have hlookup : scan.seenTerms.lookup (normalizedTerm runtime rawTerm) = none :=
    lookup_eq_none_iff.mpr hnew
  have hshort := not_lt.mpr h.short
  have hnormalized := h.normalized
  have hscript := h.script
  have hwords := h.words
  simp only [normalizedTerm] at hlookup hshort hnormalized hscript hwords
  simp only [scanTerm, scanNormalizedTerm, h.nonempty, hnormalized, hshort, hscript, hwords,
    hlookup, if_false, Bool.false_eq_true]
  rfl

theorem scanTerm_of_not_accepts (lineNumber : Nat)
    (h : ¬ (AcceptsTerm runtime locale rawTerm ∧ normalizedTerm runtime rawTerm ∉ scan.terms)) :
    ∃ issue, issue.level = .error ∧
      (scanTerm runtime locale lineNumber scan rawTerm).1.issues = scan.issues ++ [issue] := by
  unfold scanTerm
  by_cases hnonempty : stripText rawTerm = []
  · rw [if_pos hnonempty]
    exact ⟨_, rfl, rfl⟩
  rw [if_neg hnonempty]
  by_cases hnormalized : normalizeSynonymTerm runtime (stripText rawTerm) = []
  · simp only [hnormalized, if_true]
    exact ⟨_, rfl, rfl⟩
  simp only [hnormalized, if_false]
  unfold scanNormalizedTerm
  by_cases hlong : MAX_TERM_LENGTH < (normalizeSynonymTerm runtime (stripText rawTerm)).length
  · simp only [hlong, if_true]
    exact ⟨_, rfl, rfl⟩
  by_cases hscript : containsDisallowedScript runtime
      (normalizeSynonymTerm runtime (stripText rawTerm)) locale = true
  · simp only [hlong, if_false, hscript, if_true]
    exact ⟨_, rfl, rfl⟩
  by_cases hwords : countSynonymTokens runtime
      (normalizeSynonymTerm runtime (stripText rawTerm)) = 0
  · simp only [hlong, if_false, hscript, hwords, if_true]
    exact ⟨_, rfl, rfl⟩
  simp only [hlong, if_false, hscript, hwords, Bool.false_eq_true]
  split
  · exact ⟨_, rfl, rfl⟩
  next hlookup =>
  refine absurd ⟨⟨hnonempty, hnormalized, not_lt.mp hlong, ?_, hwords⟩, ?_⟩ h
  · exact Bool.eq_false_iff.mpr hscript
  · exact lookup_eq_none_iff.mp hlookup

theorem scanTerms_of_accepts (h : ∀ rawTerm ∈ rawTerms, AcceptsTerm runtime locale rawTerm)
    (hunique : (scan.terms ++ rawTerms.map (normalizedTerm runtime)).Nodup) :
    (scanTerms runtime locale lineNumber scan rawTerms).1.issues = scan.issues ∧
      (scanTerms runtime locale lineNumber scan rawTerms).1.groups = scan.groups ∧
      (scanTerms runtime locale lineNumber scan rawTerms).1.terms =
        scan.terms ++ rawTerms.map (normalizedTerm runtime) ∧
      (scanTerms runtime locale lineNumber scan rawTerms).2 =
        rawTerms.map fun rawTerm => counted runtime (normalizedTerm runtime rawTerm) := by
  induction rawTerms generalizing scan with
  | nil => exact ⟨rfl, rfl, (List.append_nil _).symm, rfl⟩
  | cons rawTerm rawTerms ih =>
    have hnew : normalizedTerm runtime rawTerm ∉ scan.terms := fun hmem =>
      List.disjoint_of_nodup_append hunique hmem List.mem_cons_self
    have hstep := scanTerm_of_accepts lineNumber (h rawTerm List.mem_cons_self) hnew
    have hterms : (scan.accept lineNumber (normalizedTerm runtime rawTerm)).terms =
        scan.terms ++ [normalizedTerm runtime rawTerm] := by
      simp [SourceScan.terms, SourceScan.accept]
    have hrest := @ih (scan.accept lineNumber (normalizedTerm runtime rawTerm))
      (fun other hother => h other (List.mem_cons_of_mem _ hother)) (by
        rw [hterms, List.append_assoc]
        exact hunique)
    rw [hterms, List.append_assoc] at hrest
    obtain ⟨hissues, hgroups, hseen, hcounted⟩ := hrest
    simp only [scanTerms, hstep]
    refine ⟨hissues, hgroups, hseen, ?_⟩
    rw [hcounted]
    rfl

theorem issues_scanTerm (lineNumber : Nat) (scan : SourceScan) (rawTerm : Text) :
    ∃ added, (∀ issue ∈ added, issue.level = .error) ∧
      (scanTerm runtime locale lineNumber scan rawTerm).1.issues = scan.issues ++ added := by
  by_cases h : AcceptsTerm runtime locale rawTerm ∧ normalizedTerm runtime rawTerm ∉ scan.terms
  · refine ⟨[], by simp, ?_⟩
    rw [scanTerm_of_accepts lineNumber h.1 h.2]
    exact (List.append_nil _).symm
  · obtain ⟨issue, herror, hissue⟩ := scanTerm_of_not_accepts lineNumber h
    exact ⟨[issue], by simpa using herror, hissue⟩

theorem issues_scanTerms (lineNumber : Nat) (scan : SourceScan) (rawTerms : List Text) :
    ∃ added, (∀ issue ∈ added, issue.level = .error) ∧
      (scanTerms runtime locale lineNumber scan rawTerms).1.issues = scan.issues ++ added := by
  induction rawTerms generalizing scan with
  | nil => exact ⟨[], by simp, (List.append_nil _).symm⟩
  | cons rawTerm rawTerms ih =>
    obtain ⟨first, hfirst, hstep⟩ := @issues_scanTerm runtime locale lineNumber scan rawTerm
    obtain ⟨rest, hrest, hscan⟩ := ih (scanTerm runtime locale lineNumber scan rawTerm).1
    refine ⟨first ++ rest, fun issue hissue => ?_, ?_⟩
    · exact (List.mem_append.mp hissue).elim (hfirst issue) (hrest issue)
    · rw [← List.append_assoc, ← hstep]
      exact hscan

theorem accepts_of_scanTerms (hseen : scan.terms.Nodup)
    (h : (scanTerms runtime locale lineNumber scan rawTerms).1.issues = []) :
    scan.issues = [] ∧ (∀ rawTerm ∈ rawTerms, AcceptsTerm runtime locale rawTerm) ∧
      (scan.terms ++ rawTerms.map (normalizedTerm runtime)).Nodup := by
  induction rawTerms generalizing scan with
  | nil =>
    refine ⟨h, fun _ hmem => (List.not_mem_nil hmem).elim, ?_⟩
    simpa using hseen
  | cons rawTerm rawTerms ih =>
    simp only [scanTerms] at h
    by_cases haccepts : AcceptsTerm runtime locale rawTerm ∧
        normalizedTerm runtime rawTerm ∉ scan.terms
    · have hstep := scanTerm_of_accepts lineNumber haccepts.1 haccepts.2
      have hterms : (scan.accept lineNumber (normalizedTerm runtime rawTerm)).terms =
          scan.terms ++ [normalizedTerm runtime rawTerm] := by
        simp [SourceScan.terms, SourceScan.accept]
      rw [hstep] at h
      obtain ⟨hissues, hall, hunique⟩ := ih (by
        rw [hterms]
        exact List.nodup_append.mpr ⟨hseen, List.nodup_singleton _, by
          rintro term hterm _ hmem rfl
          exact haccepts.2 (List.mem_singleton.mp hmem ▸ hterm)⟩) h
      refine ⟨hissues, fun other hother => ?_, ?_⟩
      · rcases List.mem_cons.mp hother with rfl | hother
        · exact haccepts.1
        · exact hall other hother
      · rwa [hterms, List.append_assoc] at hunique
    · obtain ⟨issue, -, hissue⟩ := scanTerm_of_not_accepts lineNumber haccepts
      obtain ⟨added, -, hadded⟩ := @issues_scanTerms runtime locale lineNumber
        (scanTerm runtime locale lineNumber scan rawTerm).1 rawTerms
      rw [hadded, hissue] at h
      simp at h

theorem scanLine_of_blank (lineNumber : Nat) (scan : SourceScan) (h : isGroupLine line = false) :
    scanLine runtime locale lineNumber scan line = scan := by
  have hblank : stripText line = [] := by simpa [isGroupLine] using h
  rw [scanLine, if_pos hblank]

def SourceScan.groupTerms (scan : SourceScan) : List (List (Text × Nat)) := scan.groups.map Prod.snd

theorem scanLine_of_accepts (lineNumber : Nat) (hline : isGroupLine line = true)
    (h : AcceptsLine runtime locale line)
    (hunique : (scan.terms ++ termsOfLine runtime line).Nodup) :
    (scanLine runtime locale lineNumber scan line).issues = scan.issues ∧
      (scanLine runtime locale lineNumber scan line).groupTerms =
        scan.groupTerms ++ [(termsOfLine runtime line).map (counted runtime)] ∧
      (scanLine runtime locale lineNumber scan line).terms =
        scan.terms ++ termsOfLine runtime line := by
  have hnonblank : stripText line ≠ [] := by simpa [isGroupLine] using hline
  have hlength := not_lt.mpr h.two
  obtain ⟨hissues, hgroups, hterms, hcounted⟩ :=
    @scanTerms_of_accepts runtime locale lineNumber
      { scan with nonblankLineCount := scan.nonblankLineCount + 1 } (line.splitOn ',') h.terms
      hunique
  have htwo : 2 ≤ (scanTerms runtime locale lineNumber
      { scan with nonblankLineCount := scan.nonblankLineCount + 1 } (line.splitOn ',')).2.length := by
    rw [hcounted, List.length_map]
    exact h.two
  simp only [scanLine, hnonblank, if_false, hlength, htwo, if_true]
  refine ⟨hissues, ?_, hterms⟩
  rw [SourceScan.groupTerms, hgroups, hcounted, List.map_append, termsOfLine, List.map_map]
  rfl

theorem issues_scanLine (lineNumber : Nat) (scan : SourceScan) (line : Text) :
    ∃ added, (∀ issue ∈ added, issue.level = .error) ∧
      (scanLine runtime locale lineNumber scan line).issues = scan.issues ++ added := by
  cases hline : isGroupLine line with
  | false =>
    refine ⟨[], by simp, ?_⟩
    rw [scanLine_of_blank lineNumber scan hline, List.append_nil]
  | true =>
    have hnonblank : stripText line ≠ [] := by simpa [isGroupLine] using hline
    simp only [scanLine, hnonblank, if_false]
    by_cases hlength : (line.splitOn ',').length < 2
    · obtain ⟨added, herrors, hadded⟩ := @issues_scanTerms runtime locale lineNumber
        ({ scan with nonblankLineCount := scan.nonblankLineCount + 1 }.reject lineNumber
          "group_requires_two_terms"
          "Each nonblank line must contain at least two comma-separated terms." none)
        (line.splitOn ',')
      refine ⟨⟨.error, "group_requires_two_terms",
        "Each nonblank line must contain at least two comma-separated terms.", some lineNumber,
        none⟩ :: added, ?_, ?_⟩
      · simpa using herrors
      simp only [hlength, if_true]
      rw [apply_ite SourceScan.issues, ite_self, hadded]
      simp [SourceScan.reject]
    · obtain ⟨added, herrors, hadded⟩ := @issues_scanTerms runtime locale lineNumber
        { scan with nonblankLineCount := scan.nonblankLineCount + 1 } (line.splitOn ',')
      refine ⟨added, herrors, ?_⟩
      simp only [hlength, if_false]
      rw [apply_ite SourceScan.issues, ite_self, hadded]

theorem issues_scanLines (lineNumber : Nat) (scan : SourceScan) (lines : List Text) :
    ∃ added, (∀ issue ∈ added, issue.level = .error) ∧
      (scanLines runtime locale lineNumber scan lines).issues = scan.issues ++ added := by
  induction lines generalizing scan lineNumber with
  | nil => exact ⟨[], by simp, (List.append_nil _).symm⟩
  | cons line lines ih =>
    obtain ⟨first, hfirst, hstep⟩ := @issues_scanLine runtime locale lineNumber scan line
    obtain ⟨rest, hrest, hscan⟩ :=
      ih (lineNumber + 1) (scanLine runtime locale lineNumber scan line)
    refine ⟨first ++ rest, fun issue hissue => ?_, ?_⟩
    · exact (List.mem_append.mp hissue).elim (hfirst issue) (hrest issue)
    · rw [← List.append_assoc, ← hstep]
      exact hscan

theorem accepts_of_scanLine (hline : isGroupLine line = true) (hseen : scan.terms.Nodup)
    (h : (scanLine runtime locale lineNumber scan line).issues = []) :
    AcceptsLine runtime locale line ∧ (scan.terms ++ termsOfLine runtime line).Nodup := by
  have hnonblank : stripText line ≠ [] := by simpa [isGroupLine] using hline
  simp only [scanLine, hnonblank, if_false] at h
  rw [apply_ite SourceScan.issues, ite_self] at h
  by_cases hlength : (line.splitOn ',').length < 2
  · simp only [hlength, if_true] at h
    obtain ⟨added, -, hadded⟩ := @issues_scanTerms runtime locale lineNumber
      ({ scan with nonblankLineCount := scan.nonblankLineCount + 1 }.reject lineNumber
        "group_requires_two_terms"
        "Each nonblank line must contain at least two comma-separated terms." none)
      (line.splitOn ',')
    rw [hadded] at h
    simp [SourceScan.reject] at h
  · simp only [hlength, if_false] at h
    obtain ⟨-, hterms, hunique⟩ := accepts_of_scanTerms (by exact hseen) h
    exact ⟨⟨not_lt.mp hlength, hterms⟩, hunique⟩

theorem scanLines_of_accepts (lineNumber : Nat)
    (h : ∀ line ∈ lines.filter isGroupLine, AcceptsLine runtime locale line)
    (hunique : (scan.terms ++
      ((lines.filter isGroupLine).map (termsOfLine runtime)).flatten).Nodup) :
    (scanLines runtime locale lineNumber scan lines).issues = scan.issues ∧
      (scanLines runtime locale lineNumber scan lines).groupTerms =
        scan.groupTerms ++ (lines.filter isGroupLine).map fun line =>
          (termsOfLine runtime line).map (counted runtime) := by
  induction lines generalizing scan lineNumber with
  | nil => exact ⟨rfl, (List.append_nil _).symm⟩
  | cons line lines ih =>
    rw [scanLines]
    cases hline : isGroupLine line with
    | false =>
      rw [List.filter_cons_of_neg (by simp [hline])] at h hunique ⊢
      rw [scanLine_of_blank lineNumber scan hline]
      exact ih (lineNumber + 1) h hunique
    | true =>
      rw [List.filter_cons_of_pos hline] at h hunique ⊢
      rw [List.map_cons, List.flatten_cons, ← List.append_assoc] at hunique
      obtain ⟨hissues, hgroups, hterms⟩ := scanLine_of_accepts lineNumber hline
        (h line List.mem_cons_self) (List.nodup_append.mp hunique).1
      obtain ⟨hrest, hrestGroups⟩ := ih (lineNumber + 1)
        (fun other hother => h other (List.mem_cons_of_mem _ hother)) (by rwa [hterms])
      refine ⟨hrest.trans hissues, ?_⟩
      rw [hrestGroups, hgroups, List.append_assoc]
      rfl

theorem accepts_of_scanLines (hseen : scan.terms.Nodup)
    (h : (scanLines runtime locale lineNumber scan lines).issues = []) :
    (∀ line ∈ lines.filter isGroupLine, AcceptsLine runtime locale line) ∧
      (scan.terms ++ ((lines.filter isGroupLine).map (termsOfLine runtime)).flatten).Nodup := by
  induction lines generalizing scan lineNumber with
  | nil => exact ⟨fun _ hmem => (List.not_mem_nil hmem).elim, by simpa using hseen⟩
  | cons line lines ih =>
    rw [scanLines] at h
    cases hline : isGroupLine line with
    | false =>
      rw [scanLine_of_blank lineNumber scan hline] at h
      rw [List.filter_cons_of_neg (by simp [hline])]
      exact ih hseen h
    | true =>
      have hfirst : (scanLine runtime locale lineNumber scan line).issues = [] := by
        obtain ⟨added, -, hadded⟩ := @issues_scanLines runtime locale (lineNumber + 1)
          (scanLine runtime locale lineNumber scan line) lines
        rw [hadded] at h
        exact (List.append_eq_nil_iff.mp h).1
      obtain ⟨haccepts, hnodup⟩ := accepts_of_scanLine hline hseen hfirst
      obtain ⟨-, -, hterms⟩ := scanLine_of_accepts lineNumber hline haccepts hnodup
      obtain ⟨hrest, hunique⟩ := ih (by rwa [hterms]) h
      rw [List.filter_cons_of_pos hline, List.map_cons, List.flatten_cons, ← List.append_assoc,
        ← hterms]
      refine ⟨fun other hother => ?_, hunique⟩
      rcases List.mem_cons.mp hother with rfl | hother
      · exact haccepts
      · exact hrest other hother

theorem issues_eq_nil_iff {sourceText : Text} :
    (scanLines runtime locale 1 {} (splitLines sourceText)).issues = [] ↔
      IsCleanSource runtime locale sourceText := by
  constructor
  · intro h
    obtain ⟨hlines, hunique⟩ := @accepts_of_scanLines runtime locale 1 {} _ List.nodup_nil h
    exact ⟨hlines, hunique⟩
  · rintro ⟨hlines, hunique⟩
    exact (@scanLines_of_accepts runtime locale {} _ 1 hlines hunique).1

theorem groupTerms_of_clean {sourceText : Text} (h : IsCleanSource runtime locale sourceText) :
    (scanLines runtime locale 1 {} (splitLines sourceText)).groupTerms =
      (sourceGroups runtime sourceText).map fun terms => terms.map (counted runtime) := by
  rw [(@scanLines_of_accepts runtime locale {} _ 1 h.lines h.unique).2, sourceGroups, List.map_map]
  rfl

theorem compiledGroups_of_clean {sourceText : Text} (h : IsCleanSource runtime locale sourceText) :
    compiledGroups runtime locale sourceText = sourceGroups runtime sourceText := by
  have hgroups := congrArg (List.map (List.map Prod.fst)) (groupTerms_of_clean h)
  rw [SourceScan.groupTerms, List.map_map, List.map_map] at hgroups
  refine (Eq.trans ?_ hgroups).trans (List.map_id'' (fun terms => map_fst_counted) _)
  rfl

theorem errors_scanLines {sourceText : Text} {issue : SynonymValidationIssue}
    (h : issue ∈ (scanLines runtime locale 1 {} (splitLines sourceText)).issues) :
    issue.level = .error := by
  obtain ⟨added, herrors, hadded⟩ := @issues_scanLines runtime locale 1 {} (splitLines sourceText)
  rw [hadded] at h
  exact herrors issue (by simpa using h)

end Scan

section Expansion

variable {runtime : TextRuntime} {locale : SearchSynonymLocale} {expansion : GroupExpansion}
  {lineNumber : Nat} {terms keys : List Text} {groups : List (List Text)}

def HasNoErrors (issues : List SynonymValidationIssue) : Prop :=
  ∀ issue ∈ issues, issue.level ≠ .error

theorem hasNoErrors_append {first second : List SynonymValidationIssue} :
    HasNoErrors (first ++ second) ↔ HasNoErrors first ∧ HasNoErrors second :=
  List.forall_mem_append

theorem setItem_of_new {synonyms : SynonymMap} {key : Text} (h : key ∉ keysOf synonyms)
    (targets : List Text) : setItem synonyms key targets = synonyms ++ [(key, targets)] := by
  rw [setItem, if_neg]
  simp only [List.any_eq_true, decide_eq_true_eq, not_exists, not_and]
  rintro entry hentry rfl
  exact h (List.mem_map_of_mem hentry)

theorem compiled_expandKey {key : Text} (h : key ∉ keysOf expansion.compiled) :
    (expandKey runtime lineNumber (terms.map (counted runtime)) expansion key).compiled =
      expansion.compiled ++ [(key, targetsOf terms key)] := by
  have hitem := setItem_of_new h (targetsOf terms key)
  unfold expandKey
  simp only [map_fst_counted]
  split <;> split <;> exact hitem

theorem noErrors_expandKey (key : Text) :
    HasNoErrors (expandKey runtime lineNumber (terms.map (counted runtime)) expansion key).issues ↔
      HasNoErrors expansion.issues ∧ KeepsLimits runtime (key, targetsOf terms key) := by
  have herror : ∀ issues : List SynonymValidationIssue, ∀ issue : SynonymValidationIssue,
      issue.level = .error → ¬ HasNoErrors (issues ++ [issue]) :=
    fun issues issue hlevel h => h issue (by simp) hlevel
  unfold expandKey KeepsLimits
  simp only [map_fst_counted]
  rw [← targetsOf]
  by_cases hmany : MAX_TARGETS_PER_KEY < (targetsOf terms key).length
  · have hno : ¬ (targetsOf terms key).length ≤ MAX_TARGETS_PER_KEY := not_le.mpr hmany
    rw [if_pos hmany]
    split
    · simp only [GroupExpansion.report, hno, false_and, and_false, iff_false]
      exact herror _ _ rfl
    · simp only [GroupExpansion.report, hno, false_and, and_false, iff_false]
      exact herror _ _ rfl
  have hyes : (targetsOf terms key).length ≤ MAX_TARGETS_PER_KEY := not_lt.mp hmany
  rw [if_neg hmany]
  split
  · next hwords =>
    have hno : ¬ ((targetsOf terms key).map (countSynonymTokens runtime)).sum ≤
        MAX_TARGET_WORDS_PER_KEY := not_le.mpr hwords
    simp only [GroupExpansion.report, hno, and_false, iff_false]
    exact herror _ _ rfl
  next hwords =>
  have hfits : ((targetsOf terms key).map (countSynonymTokens runtime)).sum ≤
      MAX_TARGET_WORDS_PER_KEY := not_lt.mp hwords
  simp only [hyes, hfits, and_self, and_true]

theorem foldl_expandKey (hnodup : keys.Nodup)
    (hnew : ∀ key ∈ keys, key ∉ keysOf expansion.compiled) :
    (keys.foldl (expandKey runtime lineNumber (terms.map (counted runtime))) expansion).compiled =
        expansion.compiled ++ keys.map (fun key => (key, targetsOf terms key)) ∧
      (HasNoErrors (keys.foldl (expandKey runtime lineNumber (terms.map (counted runtime)))
          expansion).issues ↔
        HasNoErrors expansion.issues ∧
          ∀ key ∈ keys, KeepsLimits runtime (key, targetsOf terms key)) := by
  induction keys generalizing expansion with
  | nil => simp
  | cons key keys ih =>
    obtain ⟨hfirst, hrest⟩ := List.nodup_cons.mp hnodup
    have hstep := @compiled_expandKey runtime expansion lineNumber terms key
      (hnew key List.mem_cons_self)
    obtain ⟨hcompiled, herrors⟩ := @ih
      (expandKey runtime lineNumber (terms.map (counted runtime)) expansion key) hrest (by
        intro other hother
        rw [hstep, keysOf, List.map_append, List.mem_append, not_or]
        refine ⟨hnew other (List.mem_cons_of_mem _ hother), fun hmem => hfirst ?_⟩
        have heq : other = key := by simpa using hmem
        exact heq ▸ hother)
    rw [List.foldl_cons]
    refine ⟨?_, ?_⟩
    · rw [hcompiled, hstep, List.append_assoc]
      rfl
    · rw [herrors, noErrors_expandKey, List.forall_mem_cons, and_assoc]

theorem expandGroup_spec (hnodup : terms.Nodup)
    (hnew : ∀ term ∈ terms, term ∉ keysOf expansion.compiled) :
    (expandGroup runtime expansion (lineNumber, terms.map (counted runtime))).compiled =
        expansion.compiled ++ entriesOfGroup runtime terms ∧
      (HasNoErrors
          (expandGroup runtime expansion (lineNumber, terms.map (counted runtime))).issues ↔
        HasNoErrors expansion.issues ∧
          ∀ entry ∈ entriesOfGroup runtime terms, KeepsLimits runtime entry) := by
  have hkeys : ((terms.map (counted runtime)).filter fun term => term.2 ≤ MAX_KEY_TOKENS) =
      (terms.filter (isEligible runtime)).map (counted runtime) := by
    rw [List.filter_map]
    rfl
  have hwarnings : ∀ warned : List (Text × Nat),
      HasNoErrors (warned.map fun term => targetOnlyIssue lineNumber term.1 term.2) := by
    intro warned issue hissue
    obtain ⟨term, -, rfl⟩ := List.mem_map.mp hissue
    simp [targetOnlyIssue]
  unfold expandGroup
  simp only [hkeys, List.map_eq_nil_iff, map_fst_counted]
  by_cases hnone : terms.filter (isEligible runtime) = []
  · rw [if_pos hnone]
    have hentries : entriesOfGroup runtime terms = [] := by rw [entriesOfGroup, hnone, List.map_nil]
    rw [hentries, List.append_nil]
    refine ⟨rfl, ?_⟩
    simp only [GroupExpansion.report, hasNoErrors_append]
    refine ⟨fun h => ⟨h.1.1, by simp⟩, fun h => ⟨⟨h.1, hwarnings _⟩, fun issue hissue => ?_⟩⟩
    rw [List.mem_singleton.mp hissue]
    simp
  rw [if_neg hnone]
  obtain ⟨hcompiled, herrors⟩ := @foldl_expandKey runtime
    { expansion with
      targetOnlyTermCount := expansion.targetOnlyTermCount +
        ((terms.map (counted runtime)).filter fun term => MAX_KEY_TOKENS < term.2).length
      issues := expansion.issues ++
        ((terms.map (counted runtime)).filter fun term => MAX_KEY_TOKENS < term.2).map
          fun term => targetOnlyIssue lineNumber term.1 term.2 }
    lineNumber terms (terms.filter (isEligible runtime)) (hnodup.filter _)
    (fun key hkey => hnew key (List.mem_of_mem_filter hkey))
  refine ⟨hcompiled, herrors.trans ?_⟩
  simp only [hasNoErrors_append, entriesOfGroup, List.forall_mem_map, hwarnings, and_true]

theorem foldl_expandGroup {numbered : List (Nat × List (Text × Nat))}
    (hgroups : numbered.map Prod.snd = groups.map fun terms => terms.map (counted runtime))
    (hnodup : groups.flatten.Nodup)
    (hnew : ∀ term ∈ groups.flatten, term ∉ keysOf expansion.compiled) :
    (numbered.foldl (expandGroup runtime) expansion).compiled =
        expansion.compiled ++ entriesOfGroups runtime groups ∧
      (HasNoErrors (numbered.foldl (expandGroup runtime) expansion).issues ↔
        HasNoErrors expansion.issues ∧
          ∀ entry ∈ entriesOfGroups runtime groups, KeepsLimits runtime entry) := by
  induction groups generalizing numbered expansion with
  | nil =>
    rw [List.map_nil, List.map_eq_nil_iff] at hgroups
    subst hgroups
    simp [entriesOfGroups]
  | cons terms groups ih =>
    cases numbered with
    | nil => cases hgroups
    | cons group numbered =>
      obtain ⟨number, counts⟩ := group
      rw [List.map_cons, List.map_cons, List.cons.injEq] at hgroups
      obtain ⟨hcounts, hrest⟩ := hgroups
      dsimp only at hcounts
      subst hcounts
      rw [List.flatten_cons] at hnodup hnew
      obtain ⟨hterms, hothers, hapart⟩ := List.nodup_append.mp hnodup
      obtain ⟨hcompiled, herrors⟩ := @expandGroup_spec runtime expansion number terms hterms
        fun term hterm => hnew term (List.mem_append_left _ hterm)
      obtain ⟨hcompiledRest, herrorsRest⟩ := @ih
        (expandGroup runtime expansion (number, terms.map (counted runtime))) numbered hrest hothers
        (by
          intro term hterm
          rw [hcompiled, keysOf, List.map_append, List.mem_append, not_or]
          refine ⟨hnew term (List.mem_append_right _ hterm), fun hmem => ?_⟩
          obtain ⟨entry, hentry, rfl⟩ := List.mem_map.mp hmem
          obtain ⟨key, hkey, rfl⟩ := List.mem_map.mp hentry
          exact hapart key (List.mem_of_mem_filter hkey) key hterm rfl)
      rw [List.foldl_cons]
      refine ⟨?_, ?_⟩
      · rw [hcompiledRest, hcompiled, List.append_assoc]
        rfl
      have hentries : entriesOfGroups runtime (terms :: groups) =
          entriesOfGroup runtime terms ++ entriesOfGroups runtime groups := List.flatMap_cons
      rw [herrorsRest, herrors, hentries, List.forall_mem_append, and_assoc]

theorem sortedSet_targetsOf (hnodup : terms.Nodup) (key : Text) :
    sortedSet (targetsOf terms key) = targetsOf terms key := by
  have hperm : (targetsOf terms key).Perm (terms.filter (· ≠ key)) := List.perm_insertionSort _ _
  have hunique : (targetsOf terms key).Nodup := hperm.nodup_iff.mpr (hnodup.filter _)
  have hsorted : (targetsOf terms key).Pairwise (· ≤ ·) := List.pairwise_insertionSort _ _
  rw [sortedSet, hunique.dedup, hsorted.insertionSort_eq]

theorem canonicalize_entriesOfGroups (hnodup : groups.flatten.Nodup) :
    canonicalizeSynonymMap (entriesOfGroups runtime groups) =
      sortedByKey (entriesOfGroups runtime groups) := by
  rw [canonicalizeSynonymMap]
  congr 1
  refine (List.map_congr_left fun entry hentry => ?_).trans (List.map_id _)
  obtain ⟨terms, hterms, hentry⟩ := List.mem_flatMap.mp hentry
  obtain ⟨key, -, rfl⟩ := List.mem_map.mp hentry
  rw [sortedSet_targetsOf ((List.nodup_flatten.mp hnodup).1 terms hterms)]
  rfl

end Expansion

section Compile

variable {runtime : TextRuntime} {locale : SearchSynonymLocale} {sourceText : Text}

structure IsValidSource (runtime : TextRuntime) (locale : SearchSynonymLocale)
    (sourceText : Text) : Prop extends IsCleanSource runtime locale sourceText where
  limits : ∀ entry ∈ entriesOfGroups runtime (sourceGroups runtime sourceText),
    KeepsLimits runtime entry
  activates : entriesOfGroups runtime (sourceGroups runtime sourceText) ≠ []

theorem expansion_of_clean (h : IsCleanSource runtime locale sourceText) :
    let scan := scanLines runtime locale 1 {} (splitLines sourceText)
    let expansion := scan.groups.foldl (expandGroup runtime) { issues := scan.issues }
    expansion.compiled = entriesOfGroups runtime (sourceGroups runtime sourceText) ∧
      (HasNoErrors expansion.issues ↔
        ∀ entry ∈ entriesOfGroups runtime (sourceGroups runtime sourceText),
          KeepsLimits runtime entry) := by
  obtain ⟨hcompiled, herrors⟩ := @foldl_expandGroup runtime
    { issues := (scanLines runtime locale 1 {} (splitLines sourceText)).issues }
    (sourceGroups runtime sourceText) _ (groupTerms_of_clean h) h.unique (by simp [keysOf])
  refine ⟨hcompiled, herrors.trans (and_iff_right ?_)⟩
  rw [issues_eq_nil_iff.mpr h]
  exact fun _ hmem => (List.not_mem_nil hmem).elim

theorem issues_expandKey_grow (lineNumber : Nat) (terms : List (Text × Nat))
    (expansion : GroupExpansion) (key : Text) :
    expansion.issues <+: (expandKey runtime lineNumber terms expansion key).issues := by
  unfold expandKey
  dsimp only
  split
  · split
    · simp only [GroupExpansion.report, List.append_assoc]
      exact List.prefix_append _ _
    · exact List.prefix_append _ _
  · split
    · exact List.prefix_append _ _
    · exact List.prefix_rfl

theorem foldl_grow {α : Type} {step : GroupExpansion → α → GroupExpansion}
    (hstep : ∀ expansion item, expansion.issues <+: (step expansion item).issues) (items : List α)
    (expansion : GroupExpansion) : expansion.issues <+: (items.foldl step expansion).issues := by
  induction items generalizing expansion with
  | nil => exact List.prefix_rfl
  | cons item items ih => exact (hstep expansion item).trans (ih _)

theorem issues_expandGroup_grow (expansion : GroupExpansion) (group : Nat × List (Text × Nat)) :
    expansion.issues <+: (expandGroup runtime expansion group).issues := by
  unfold expandGroup
  dsimp only
  split
  · simp only [GroupExpansion.report, List.append_assoc]
    exact List.prefix_append _ _
  refine List.IsPrefix.trans ?_
    (foldl_grow (fun start key => issues_expandKey_grow group.1 group.2 start key) _ _)
  exact List.prefix_append _ _

theorem compiled_of_clean (h : IsCleanSource runtime locale sourceText) :
    (compileSearchSynonyms runtime sourceText locale).compiledSynonyms =
      sortedByKey (entriesOfGroups runtime (sourceGroups runtime sourceText)) := by
  rw [compileSearchSynonyms]
  simp only
  rw [(expansion_of_clean h).1, canonicalize_entriesOfGroups h.unique]

theorem countP_errors_eq_zero {issues : List SynonymValidationIssue} :
    (issues.insertionSort fun first second => (compareIssues first second).isLE).countP
        (·.level = .error) = 0 ↔ HasNoErrors issues := by
  simp only [List.countP_eq_zero, List.mem_insertionSort, decide_eq_true_eq, HasNoErrors, ne_eq]

theorem sortedByKey_eq_nil {synonyms : SynonymMap} : sortedByKey synonyms = [] ↔ synonyms = [] := by
  rw [← List.length_eq_zero_iff, sortedByKey, List.length_insertionSort, List.length_eq_zero_iff]

theorem valid_iff :
    (compileSearchSynonyms runtime sourceText locale).valid = true ↔
      IsValidSource runtime locale sourceText := by
  have hvalid : (compileSearchSynonyms runtime sourceText locale).valid = true ↔
      HasNoErrors
        (let scan := scanLines runtime locale 1 {} (splitLines sourceText)
        let expansion := scan.groups.foldl (expandGroup runtime) { issues := scan.issues }
        if canonicalizeSynonymMap expansion.compiled = [] then
          expansion.issues ++ [catalogRequiresCompiledKey]
        else expansion.issues) := by
    rw [← countP_errors_eq_zero]
    simp only [SearchSynonymCompileResult.valid, compileSearchSynonyms, decide_eq_true_eq]
  rw [hvalid]
  dsimp only
  by_cases hclean : IsCleanSource runtime locale sourceText
  · obtain ⟨hcompiled, herrors⟩ := expansion_of_clean hclean
    rw [hcompiled, canonicalize_entriesOfGroups hclean.unique]
    by_cases hnone : entriesOfGroups runtime (sourceGroups runtime sourceText) = []
    · rw [if_pos (sortedByKey_eq_nil.mpr hnone)]
      constructor
      · intro h
        exact absurd rfl (h catalogRequiresCompiledKey (by simp))
      · exact fun h => absurd hnone h.activates
    · rw [if_neg (fun heq => hnone (sortedByKey_eq_nil.mp heq)), herrors]
      exact ⟨fun hlimits => ⟨hclean, hlimits, hnone⟩, fun h => h.limits⟩
  · constructor
    · intro h
      have hissues := mt issues_eq_nil_iff.mp hclean
      obtain ⟨issue, hissue⟩ := List.exists_mem_of_ne_nil _ hissues
      have hgrow := foldl_grow (@issues_expandGroup_grow runtime)
        (scanLines runtime locale 1 {} (splitLines sourceText)).groups
        { issues := (scanLines runtime locale 1 {} (splitLines sourceText)).issues }
      have hmem := hgrow.subset hissue
      refine absurd (errors_scanLines hissue) (h issue ?_)
      split
      · exact List.mem_append_left _ hmem
      · exact hmem
    · exact fun h => absurd h.toIsCleanSource hclean

end Compile

end MemeExpert.Services
