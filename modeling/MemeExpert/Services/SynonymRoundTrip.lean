import MemeExpert.Services.SynonymMaps

/-! A group is written back as one line of its normalized terms. -/

namespace MemeExpert.Services

section Tidy

variable {text : Text} {inSpace : Bool}

/-- The only whitespace is single spaces, after `inSpace` no space at first. -/
def IsCollapsed (inSpace : Bool) : Text → Prop
  | [] => True
  | c :: rest =>
    if isSpace c then inSpace = false ∧ c = ' ' ∧ IsCollapsed true rest else IsCollapsed false rest

theorem isCollapsed_collapse (inSpace : Bool) (text : Text) :
    IsCollapsed inSpace (collapseWhitespaceFrom inSpace text) := by
  induction text generalizing inSpace with
  | nil => trivial
  | cons c rest ih =>
    rw [collapseWhitespaceFrom]
    split
    · split
      · next hin =>
        rw [hin]
        exact ih true
      · next hout =>
        have hspace : isSpace ' ' = true := by decide
        rw [IsCollapsed, if_pos hspace]
        exact ⟨Bool.eq_false_iff.mpr hout, rfl, ih true⟩
    · next hspace =>
      rw [IsCollapsed, if_neg hspace]
      exact ih false

variable {c : Char}

theorem mem_collapse (h : c ∈ collapseWhitespaceFrom inSpace text) : c = ' ' ∨ c ∈ text := by
  induction text generalizing inSpace with
  | nil => exact absurd h (List.not_mem_nil)
  | cons d rest ih =>
    rw [collapseWhitespaceFrom] at h
    split at h
    · split at h
      · exact (ih h).imp_right (List.mem_cons_of_mem d)
      · rcases List.mem_cons.mp h with rfl | h
        · exact .inl rfl
        · exact (ih h).imp_right (List.mem_cons_of_mem d)
    · rcases List.mem_cons.mp h with rfl | h
      · exact .inr List.mem_cons_self
      · exact (ih h).imp_right (List.mem_cons_of_mem d)

theorem IsCollapsed.weaken (h : IsCollapsed inSpace text) : IsCollapsed false text := by
  cases text with
  | nil => trivial
  | cons c rest =>
    rw [IsCollapsed] at h ⊢
    split
    · next hspace =>
      rw [if_pos hspace] at h
      exact ⟨rfl, h.2⟩
    · next hspace =>
      rw [if_neg hspace] at h
      exact h

theorem collapse_of_isCollapsed (h : IsCollapsed inSpace text) :
    collapseWhitespaceFrom inSpace text = text := by
  induction text generalizing inSpace with
  | nil => rfl
  | cons c rest ih =>
    rw [IsCollapsed] at h
    rw [collapseWhitespaceFrom]
    split
    · next hspace =>
      rw [if_pos hspace] at h
      obtain ⟨hin, rfl, hrest⟩ := h
      rw [hin, if_neg Bool.false_ne_true, ih hrest]
    · next hspace =>
      rw [if_neg hspace] at h
      rw [ih h]

theorem IsCollapsed.dropWhile (h : IsCollapsed inSpace text) :
    IsCollapsed false (text.dropWhile isSpace) := by
  induction text generalizing inSpace with
  | nil => trivial
  | cons c rest ih =>
    by_cases hspace : isSpace c = true
    · rw [IsCollapsed, if_pos hspace] at h
      rw [List.dropWhile_cons_of_pos hspace]
      exact ih h.2.2
    · rw [List.dropWhile_cons_of_neg hspace]
      exact h.weaken

theorem IsCollapsed.initial {first : Text} (h : IsCollapsed inSpace text)
    (hinitial : first <+: text) :
    IsCollapsed inSpace first := by
  induction first generalizing inSpace text with
  | nil => trivial
  | cons c first ih =>
    cases text with
    | nil => exact absurd hinitial (by simp)
    | cons d rest =>
      obtain ⟨rfl, hrest⟩ := List.cons_prefix_cons.mp hinitial
      rw [IsCollapsed] at h ⊢
      split
      · next hspace =>
        rw [if_pos hspace] at h
        exact ⟨h.1, h.2.1, ih h.2.2 hrest⟩
      · next hspace =>
        rw [if_neg hspace] at h
        exact ih h hrest

theorem IsCollapsed.strip (h : IsCollapsed inSpace text) : IsCollapsed false (stripText text) :=
  h.dropWhile.initial ( List.rdropWhile_prefix _ _)

theorem isSpace_of_isLineBreak (h : isLineBreak c = true) : isSpace c = true := by
  simp only [isLineBreak, List.mem_cons, List.not_mem_nil, or_false, decide_eq_true_eq] at h
  rcases h with rfl | rfl | rfl | rfl | rfl | rfl | rfl | rfl | rfl | rfl <;> decide

theorem not_isLineBreak_of_isCollapsed (h : IsCollapsed inSpace text) (hc : c ∈ text) :
    isLineBreak c = false := by
  induction text generalizing inSpace with
  | nil => exact (List.not_mem_nil hc).elim
  | cons d rest ih =>
    rw [IsCollapsed] at h
    split at h
    · rcases List.mem_cons.mp hc with rfl | hc
      · rw [h.2.1]
        decide
      · exact ih h.2.2 hc
    next hspace =>
    rcases List.mem_cons.mp hc with rfl | hc
    · exact Bool.eq_false_iff.mpr fun hbreak => hspace (isSpace_of_isLineBreak hbreak)
    · exact ih h hc

theorem stripText_stripText (text : Text) : stripText (stripText text) = stripText text := by
  have hfirst : (stripText text).dropWhile isSpace = stripText text := by
    rw [List.dropWhile_eq_self_iff]
    intro hpos hspace
    obtain ⟨rest, hrest⟩ : stripText text <+: text.dropWhile isSpace := List.rdropWhile_prefix _ _
    have hdropped : 0 < (text.dropWhile isSpace).length := by
      rw [← hrest, List.length_append]
      omega
    have hself := List.dropWhile_eq_self_iff.mp (List.dropWhile_idempotent isSpace text) hdropped
    have hhead : (text.dropWhile isSpace)[0] = (stripText text)[0] := by
      simp only [← hrest, List.getElem_append_left hpos]
    rw [hhead] at hself
    exact hself hspace
  conv => lhs; rw [stripText, hfirst, stripText]
  exact List.rdropWhile_idempotent _ _

variable {runtime : TextRuntime}

def foldText (runtime : TextRuntime) (text : Text) : Text :=
  runtime.nfkc (runtime.casefold (runtime.nfkc text))

/-- The tables fold a text once and for all, and spaces do not join with what is beside them. -/
structure FoldsOnce (runtime : TextRuntime) : Prop where
  fold_fold : ∀ text, foldText runtime (foldText runtime text) = foldText runtime text
  fold_tidy : ∀ text, foldText runtime text = text →
    foldText runtime (stripText (collapseWhitespace text)) = stripText (collapseWhitespace text)

theorem normalizeSynonymTerm_eq (text : Text) :
    normalizeSynonymTerm runtime text = stripText (collapseWhitespace (foldText runtime text)) :=
  rfl

theorem isCollapsed_normalized (text : Text) :
    IsCollapsed false (normalizeSynonymTerm runtime text) :=
  (isCollapsed_collapse false _).strip

theorem normalizedTerm_normalizedTerm (h : FoldsOnce runtime) (rawTerm : Text) :
    normalizedTerm runtime (normalizedTerm runtime rawTerm) = normalizedTerm runtime rawTerm := by
  have hfolded : foldText runtime (normalizedTerm runtime rawTerm) =
      normalizedTerm runtime rawTerm :=
    h.fold_tidy _ (h.fold_fold (stripText rawTerm))
  have hcollapsed : collapseWhitespace (normalizedTerm runtime rawTerm) =
      normalizedTerm runtime rawTerm :=
    collapse_of_isCollapsed (isCollapsed_normalized (stripText rawTerm))
  have hstripped : stripText (normalizedTerm runtime rawTerm) = normalizedTerm runtime rawTerm :=
    stripText_stripText _
  conv =>
    lhs
    rw [normalizedTerm, hstripped, normalizeSynonymTerm_eq, hfolded, hcollapsed, hstripped]

variable {line : Text} {lines : List Text}

variable {c : Char}

theorem splitLinesFrom_cons (before rest : Text) (h : isLineBreak c = false) :
    splitLinesFrom before (c :: rest) = splitLinesFrom (c :: before) rest := by
  have hcarriage : c ≠ '\r' := by
    rintro rfl
    exact absurd h (by decide)
  rw [splitLinesFrom, if_neg (by simp [h])]
  exact fun _ heq => absurd heq hcarriage

theorem splitLinesFrom_newline (before rest : Text) :
    splitLinesFrom before ('\n' :: rest) = before.reverse :: splitLinesFrom [] rest := by
  rw [splitLinesFrom, if_pos (by decide)]
  exact fun _ heq => absurd heq (by decide)

theorem splitLinesFrom_append (before : Text) (h : ∀ c ∈ line, isLineBreak c = false)
    (rest : Text) :
    splitLinesFrom before (line ++ rest) = splitLinesFrom (line.reverse ++ before) rest := by
  induction line generalizing before with
  | nil => rfl
  | cons c line ih =>
    obtain ⟨hfirst, hrest⟩ := List.forall_mem_cons.mp h
    rw [List.cons_append, splitLinesFrom_cons before _ hfirst, ih (c :: before) hrest,
      List.reverse_cons, List.append_assoc]
    rfl

theorem splitLines_intercalate (h : ∀ line ∈ lines, line ≠ [] ∧ ∀ c ∈ line, isLineBreak c = false) :
    splitLines (['\n'].intercalate lines) = lines := by
  induction lines with
  | nil => rfl
  | cons line lines ih =>
    obtain ⟨⟨hne, hbreaks⟩, hrest⟩ := List.forall_mem_cons.mp h
    cases lines with
    | nil =>
      have hlast := splitLinesFrom_append [] hbreaks []
      rw [List.append_nil, List.append_nil] at hlast
      rw [List.intercalate_singleton, splitLines, hlast, splitLinesFrom,
        if_neg (by simpa using hne), List.reverse_reverse]
    | cons next lines =>
      rw [List.intercalate_cons_cons, splitLines, List.append_assoc,
        splitLinesFrom_append [] hbreaks, List.singleton_append, splitLinesFrom_newline,
        List.append_nil, List.reverse_reverse]
      exact congrArg (line :: ·) (ih hrest)

variable {terms : List Text}

theorem mem_intercalate_comma (h : c ∈ [','].intercalate terms) :
    c = ',' ∨ ∃ term ∈ terms, c ∈ term := by
  induction terms with
  | nil => exact absurd h (by simp)
  | cons term terms ih =>
    cases terms with
    | nil =>
      rw [List.intercalate_singleton] at h
      exact .inr ⟨term, List.mem_singleton_self _, h⟩
    | cons next terms =>
      rw [List.intercalate_cons_cons, List.mem_append, List.mem_append] at h
      rcases h with (h | h) | h
      · exact .inr ⟨term, List.mem_cons_self, h⟩
      · exact .inl (List.mem_singleton.mp h)
      · exact (ih h).imp_right fun ⟨other, hother, hmem⟩ =>
          ⟨other, List.mem_cons_of_mem _ hother, hmem⟩

theorem length_splitOn_pos (text : Text) : 1 ≤ (text.splitOn ',').length :=
  List.length_pos_of_ne_nil (List.splitOn_ne_nil ',' text)

theorem two_le_length_splitOn {text : Text} (h : ',' ∈ text) : 2 ≤ (text.splitOn ',').length := by
  obtain ⟨before, after, rfl⟩ := List.mem_iff_append.mp h
  rw [List.splitOn_append_cons_self, List.length_append]
  exact Nat.add_le_add (length_splitOn_pos before) (length_splitOn_pos after)

theorem splitOn_joined (hne : terms ≠ []) :
    ([','].intercalate terms).splitOn ',' = terms.flatMap (List.splitOn ',') := by
  induction terms with
  | nil => exact absurd rfl hne
  | cons term terms ih =>
    cases terms with
    | nil => rw [List.intercalate_singleton, List.flatMap_singleton]
    | cons next terms =>
      rw [List.intercalate_cons_cons, List.append_assoc, List.singleton_append,
        List.splitOn_append_cons_self, ih (List.cons_ne_nil _ _)]
      exact List.flatMap_cons.symm

theorem length_le_pieces (terms : List Text) :
    terms.length ≤ (terms.flatMap (List.splitOn ',')).length := by
  induction terms with
  | nil => exact Nat.le_refl 0
  | cons term terms ih =>
    rw [List.flatMap_cons, List.length_append, List.length_cons, Nat.add_comm]
    exact Nat.add_le_add (length_splitOn_pos term) ih

theorem comma_not_mem_of_length (h : (terms.flatMap (List.splitOn ',')).length = terms.length) :
    ∀ term ∈ terms, ',' ∉ term := by
  induction terms with
  | nil => exact fun _ hmem => (List.not_mem_nil hmem).elim
  | cons term terms ih =>
    rw [List.flatMap_cons, List.length_append, List.length_cons] at h
    have hfirst := length_splitOn_pos term
    have hrest := length_le_pieces terms
    rw [List.forall_mem_cons]
    constructor
    · intro hcomma
      have htwo := two_le_length_splitOn hcomma
      omega
    · exact ih (by omega)

variable {locale : SearchSynonymLocale} {sourceText : Text} {groups : List (List Text)}

def lineOfGroup (terms : List Text) : Text := [','].intercalate terms

def sourceOfGroups (groups : List (List Text)) : Text := ['\n'].intercalate (groups.map lineOfGroup)

structure RoundTrips (runtime : TextRuntime) (locale : SearchSynonymLocale)
    (sourceText : Text) : Prop where
  valid : (compileSearchSynonyms runtime
    (sourceOfGroups (compiledGroups runtime locale sourceText)) locale).valid = true
  groups : compiledGroups runtime locale
    (sourceOfGroups (compiledGroups runtime locale sourceText)) =
      compiledGroups runtime locale sourceText
  synonyms : (compileSearchSynonyms runtime
    (sourceOfGroups (compiledGroups runtime locale sourceText)) locale).compiledSynonyms =
      (compileSearchSynonyms runtime sourceText locale).compiledSynonyms

variable {terms : List Text}

theorem exists_of_mem_group (h : IsCleanSource runtime locale sourceText)
    (hterms : terms ∈ sourceGroups runtime sourceText) :
    2 ≤ terms.length ∧ ∀ term ∈ terms, ∃ rawTerm, AcceptsTerm runtime locale rawTerm ∧
      normalizedTerm runtime rawTerm = term := by
  obtain ⟨line, hline, rfl⟩ := List.mem_map.mp hterms
  obtain ⟨htwo, haccepts⟩ := h.lines line hline
  refine ⟨by rwa [termsOfLine, List.length_map], fun term hterm => ?_⟩
  obtain ⟨rawTerm, hraw, rfl⟩ := List.mem_map.mp hterm
  exact ⟨rawTerm, haccepts rawTerm hraw, rfl⟩

theorem comma_mem_lineOfGroup (h : 2 ≤ terms.length) : ',' ∈ lineOfGroup terms := by
  match terms, h with
  | first :: second :: rest, _ =>
    rw [lineOfGroup, List.intercalate_cons_cons]
    simp

theorem sourceLines_sourceOfGroups (h : IsCleanSource runtime locale sourceText) :
    sourceLines (sourceOfGroups (sourceGroups runtime sourceText)) =
      (sourceGroups runtime sourceText).map lineOfGroup := by
  have hlines : ∀ line ∈ (sourceGroups runtime sourceText).map lineOfGroup,
      line ≠ [] ∧ ∀ c ∈ line, isLineBreak c = false := by
    intro line hline
    obtain ⟨terms, hterms, rfl⟩ := List.mem_map.mp hline
    obtain ⟨htwo, haccepts⟩ := exists_of_mem_group h hterms
    refine ⟨List.ne_nil_of_mem (comma_mem_lineOfGroup htwo), fun c hc => ?_⟩
    rcases mem_intercalate_comma hc with rfl | ⟨term, hterm, hmem⟩
    · decide
    · obtain ⟨rawTerm, -, rfl⟩ := haccepts term hterm
      exact not_isLineBreak_of_isCollapsed (isCollapsed_normalized (stripText rawTerm)) hmem
  rw [sourceLines, sourceOfGroups, splitLines_intercalate hlines, List.filter_eq_self]
  intro line hline
  obtain ⟨terms, hterms, rfl⟩ := List.mem_map.mp hline
  have hcomma := comma_mem_lineOfGroup (exists_of_mem_group h hterms).1
  have hnonblank : stripText (lineOfGroup terms) ≠ [] := fun hnil =>
    absurd (stripText_eq_nil.mp hnil ',' hcomma) (by decide)
  simpa [isGroupLine] using hnonblank

theorem sourceGroups_sourceOfGroups (h : IsCleanSource runtime locale sourceText) :
    sourceGroups runtime (sourceOfGroups (sourceGroups runtime sourceText)) =
      (sourceGroups runtime sourceText).map fun terms =>
        termsOfLine runtime (lineOfGroup terms) := by
  rw [sourceGroups, sourceLines_sourceOfGroups h, List.map_map]
  rfl

theorem termsOfLine_lineOfGroup (hfolds : FoldsOnce runtime)
    (h : IsCleanSource runtime locale sourceText)
    (hterms : terms ∈ sourceGroups runtime sourceText) (hcommas : ∀ term ∈ terms, ',' ∉ term) :
    (lineOfGroup terms).splitOn ',' = terms ∧ termsOfLine runtime (lineOfGroup terms) = terms := by
  obtain ⟨htwo, haccepts⟩ := exists_of_mem_group h hterms
  have hne : terms ≠ [] := List.ne_nil_of_length_pos (Nat.lt_of_lt_of_le Nat.zero_lt_two htwo)
  have hsplit : (lineOfGroup terms).splitOn ',' = terms := List.splitOn_intercalate ',' hcommas hne
  refine ⟨hsplit, ?_⟩
  rw [termsOfLine, hsplit]
  refine (List.map_congr_left fun term hterm => ?_).trans (List.map_id terms)
  obtain ⟨rawTerm, -, rfl⟩ := haccepts term hterm
  exact normalizedTerm_normalizedTerm hfolds rawTerm

theorem acceptsTerm_normalizedTerm (hfolds : FoldsOnce runtime) {rawTerm : Text}
    (h : AcceptsTerm runtime locale rawTerm) :
    AcceptsTerm runtime locale (normalizedTerm runtime rawTerm) := by
  have hnormalized := normalizedTerm_normalizedTerm hfolds rawTerm
  refine ⟨?_, ?_, ?_, ?_, ?_⟩
  · rw [normalizedTerm, normalizeSynonymTerm_eq, stripText_stripText, ← normalizeSynonymTerm_eq]
    exact h.normalized
  · rw [hnormalized]
    exact h.normalized
  · rw [hnormalized]
    exact h.short
  · rw [hnormalized]
    exact h.script
  · rw [hnormalized]
    exact h.words

section Clean

variable (hfolds : FoldsOnce runtime) (h : IsCleanSource runtime locale sourceText)
  (hcommas : ∀ terms ∈ sourceGroups runtime sourceText, ∀ term ∈ terms, ',' ∉ term)

include hfolds h hcommas

theorem sourceGroups_back :
    sourceGroups runtime (sourceOfGroups (sourceGroups runtime sourceText)) =
      sourceGroups runtime sourceText := by
  rw [sourceGroups_sourceOfGroups h]
  exact (List.map_congr_left fun terms hterms =>
    (termsOfLine_lineOfGroup hfolds h hterms (hcommas terms hterms)).2).trans (List.map_id _)

theorem isCleanSource_back :
    IsCleanSource runtime locale (sourceOfGroups (sourceGroups runtime sourceText)) where
  lines := by
    intro line hline
    rw [sourceLines_sourceOfGroups h] at hline
    obtain ⟨terms, hterms, rfl⟩ := List.mem_map.mp hline
    obtain ⟨htwo, haccepts⟩ := exists_of_mem_group h hterms
    have hsplit := (termsOfLine_lineOfGroup hfolds h hterms (hcommas terms hterms)).1
    refine ⟨by rwa [hsplit], fun term hterm => ?_⟩
    rw [hsplit] at hterm
    obtain ⟨rawTerm, hraw, rfl⟩ := haccepts term hterm
    exact acceptsTerm_normalizedTerm hfolds hraw
  unique := by
    rw [sourceGroups_back hfolds h hcommas]
    exact h.unique

end Clean

section Valid

variable (hfolds : FoldsOnce runtime) (h : IsValidSource runtime locale sourceText)
  (hcommas : ∀ terms ∈ sourceGroups runtime sourceText, ∀ term ∈ terms, ',' ∉ term)

include hfolds h hcommas

theorem isValidSource_back :
    IsValidSource runtime locale (sourceOfGroups (sourceGroups runtime sourceText)) where
  toIsCleanSource := isCleanSource_back hfolds h.toIsCleanSource hcommas
  limits := by
    rw [sourceGroups_back hfolds h.toIsCleanSource hcommas]
    exact h.limits
  activates := by
    rw [sourceGroups_back hfolds h.toIsCleanSource hcommas]
    exact h.activates

theorem roundTrips_of_no_comma : RoundTrips runtime locale sourceText := by
  have hback := isValidSource_back hfolds h hcommas
  have hgroups := sourceGroups_back hfolds h.toIsCleanSource hcommas
  constructor
  · rw [compiledGroups_of_clean h.toIsCleanSource]
    exact valid_iff.mpr hback
  · rw [compiledGroups_of_clean h.toIsCleanSource, compiledGroups_of_clean hback.toIsCleanSource,
      hgroups]
  · rw [compiledGroups_of_clean h.toIsCleanSource, compiled_of_clean hback.toIsCleanSource,
      compiled_of_clean h.toIsCleanSource, hgroups]

end Valid

theorem no_comma_of_roundTrips (h : IsCleanSource runtime locale sourceText)
    (hround : RoundTrips runtime locale sourceText) :
    ∀ terms ∈ sourceGroups runtime sourceText, ∀ term ∈ terms, ',' ∉ term := by
  have hvalid := valid_iff.mp hround.valid
  have hgroups := hround.groups
  rw [compiledGroups_of_clean h] at hvalid hgroups
  rw [compiledGroups_of_clean hvalid.toIsCleanSource, sourceGroups_sourceOfGroups h] at hgroups
  intro terms hterms
  have hne : terms ≠ [] := List.ne_nil_of_length_pos
    (Nat.lt_of_lt_of_le Nat.zero_lt_two (exists_of_mem_group h hterms).1)
  have hline : termsOfLine runtime (lineOfGroup terms) = terms := by
    have hall := List.map_eq_map_iff.mp (hgroups.trans (List.map_id _).symm)
    exact hall terms hterms
  have hlength := congrArg List.length hline
  rw [termsOfLine, List.length_map, lineOfGroup, splitOn_joined hne] at hlength
  exact comma_not_mem_of_length hlength

/-- A valid source survives the round trip unless normalization brought in a separator. -/
theorem roundTrips_iff (hfolds : FoldsOnce runtime)
    (h : (compileSearchSynonyms runtime sourceText locale).valid = true) :
    RoundTrips runtime locale sourceText ↔
      ∀ terms ∈ compiledGroups runtime locale sourceText, ∀ term ∈ terms, ',' ∉ term := by
  have hvalid := valid_iff.mp h
  rw [compiledGroups_of_clean hvalid.toIsCleanSource]
  exact ⟨no_comma_of_roundTrips hvalid.toIsCleanSource, roundTrips_of_no_comma hfolds hvalid⟩

def foldLatin (c : Char) : Char :=
  let folded := (if c = '，' then ',' else c).toLower
  if folded = '，' then ',' else folded

theorem foldText_latinTables (text : Text) : foldText latinTables text = text.map foldLatin := by
  simp only [foldText, latinTables, List.map_map]
  rfl

theorem toLower_toLower (c : Char) : c.toLower.toLower = c.toLower := by
  have hkept : ∀ d : Char, ¬ (d.val ≥ 'A'.val ∧ d.val ≤ 'Z'.val) → d.toLower = d :=
    fun d hd => dif_neg hd
  by_cases hcapital : c.val ≥ 'A'.val ∧ c.val ≤ 'Z'.val
  · have hval : c.toLower.val = c.val + ('a'.val - 'A'.val) := congrArg Char.val (dif_pos hcapital)
    have habove : ¬ (c.toLower.val ≥ 'A'.val ∧ c.toLower.val ≤ 'Z'.val) := by
      rw [hval]
      simp only [ge_iff_le, UInt32.le_iff_toNat_le, UInt32.toNat_add] at hcapital ⊢
      have hA : 'A'.val.toNat = 65 := rfl
      have hZ : 'Z'.val.toNat = 90 := rfl
      have hgap : ('a'.val - 'A'.val).toNat = 32 := rfl
      omega
    exact hkept c.toLower habove
  · rw [hkept c hcapital, hkept c hcapital]

variable {c : Char}

theorem foldLatin_of_lower (hne : c ≠ '，') (hlower : c.toLower = c) : foldLatin c = c := by
  simp only [foldLatin, if_neg hne, hlower]

theorem foldLatin_foldLatin (c : Char) : foldLatin (foldLatin c) = foldLatin c := by
  have hcomma : foldLatin ',' = ',' := by decide +kernel
  by_cases hwide : c = '，'
  · subst hwide
    decide +kernel
  by_cases hfolded : c.toLower = '，'
  · have hfold : foldLatin c = ',' := by simp only [foldLatin, if_neg hwide, if_pos hfolded]
    rw [hfold, hcomma]
  have hfold : foldLatin c = c.toLower := by
    simp only [foldLatin, if_neg hwide, if_neg hfolded]
  rw [hfold]
  exact foldLatin_of_lower hfolded (toLower_toLower c)

theorem foldsOnce_latinTables : FoldsOnce latinTables where
  fold_fold text := by
    simp only [foldText_latinTables, List.map_map, Function.comp_def, foldLatin_foldLatin]
  fold_tidy text htext := by
    rw [foldText_latinTables] at htext ⊢
    have hfixed : ∀ c ∈ text, foldLatin c = c :=
      List.map_eq_map_iff.mp (htext.trans (List.map_id text).symm)
    refine (List.map_congr_left fun c hc => ?_).trans (List.map_id _)
    have hcollapsed : c ∈ collapseWhitespace text :=
      (List.dropWhile_sublist _).subset (( List.rdropWhile_prefix _ _).subset hc)
    rcases mem_collapse hcollapsed with rfl | hmem
    · decide +kernel
    · exact hfixed c hmem

theorem roundTrips_iff_cats :
    RoundTrips latinTables .en "Cat, kitten".toList ↔
      ∀ terms ∈ compiledGroups latinTables .en "Cat, kitten".toList, ∀ term ∈ terms, ',' ∉ term :=
  roundTrips_iff foldsOnce_latinTables (by decide +kernel)

/-- The full-width comma separates no terms, and is the separator once it is normalized. -/
theorem not_roundTrips_full_width :
    (compileSearchSynonyms latinTables "a，b, c".toList .en).valid = true ∧
      sourceOfGroups (compiledGroups latinTables .en "a，b, c".toList) = "a,b,c".toList ∧
      ¬ RoundTrips latinTables .en "a，b, c".toList := by
  refine ⟨by decide +kernel, by decide +kernel, fun hround => ?_⟩
  exact absurd hround.groups (by decide +kernel)

end Tidy

end MemeExpert.Services
