import Mathlib.Data.List.Pairwise
import MemeExpert.Services.SynonymSource

/-! The map relates the terms of one group with one another, in both directions where both
are keys, and no term with itself. -/

namespace MemeExpert.Services

section Maps

variable {runtime : TextRuntime} {locale : SearchSynonymLocale} {sourceText other : Text}
  {groups others : List (List Text)} {terms : List Text} {key target : Text}
  {targets : List Text}

theorem mem_targetsOf : target ∈ targetsOf terms key ↔ target ∈ terms ∧ target ≠ key := by
  rw [targetsOf, List.mem_insertionSort, List.mem_filter, decide_eq_true_eq]

theorem mem_entriesOfGroups :
    (key, targets) ∈ entriesOfGroups runtime groups ↔
      ∃ terms ∈ groups, key ∈ terms ∧ isEligible runtime key = true ∧
        targets = targetsOf terms key := by
  rw [entriesOfGroups, List.mem_flatMap]
  constructor
  · rintro ⟨terms, hterms, hentry⟩
    obtain ⟨found, hfound, heq⟩ := List.mem_map.mp hentry
    cases heq
    obtain ⟨hmem, heligible⟩ := List.mem_filter.mp hfound
    exact ⟨terms, hterms, hmem, heligible, rfl⟩
  · rintro ⟨terms, hterms, hmem, heligible, rfl⟩
    exact ⟨terms, hterms, List.mem_map.mpr ⟨key, List.mem_filter.mpr ⟨hmem, heligible⟩, rfl⟩⟩

theorem eq_of_mem_groups (hnodup : groups.flatten.Nodup) {first second : List Text}
    (hfirst : first ∈ groups) (hsecond : second ∈ groups) (hmem : key ∈ first)
    (hother : key ∈ second) : first = second := by
  by_contra hne
  have hsymm : Std.Symm (List.Disjoint (α := Text)) := ⟨fun _ _ h => h.symm⟩
  exact (List.nodup_flatten.mp hnodup).2.forall hfirst hsecond hne hmem hother

theorem irreflexive_entries (h : (key, targets) ∈ entriesOfGroups runtime groups) :
    key ∉ targets := by
  obtain ⟨terms, -, -, -, rfl⟩ := mem_entriesOfGroups.mp h
  exact fun hmem => (mem_targetsOf.mp hmem).2 rfl

theorem symmetric_entries (hnodup : groups.flatten.Nodup) {second : Text}
    {secondTargets : List Text} (h : (key, targets) ∈ entriesOfGroups runtime groups)
    (hsecond : (second, secondTargets) ∈ entriesOfGroups runtime groups)
    (hmem : second ∈ targets) : key ∈ secondTargets := by
  obtain ⟨terms, hterms, hkey, -, rfl⟩ := mem_entriesOfGroups.mp h
  obtain ⟨secondTerms, hsecondTerms, hsecondKey, -, rfl⟩ := mem_entriesOfGroups.mp hsecond
  obtain ⟨hboth, hne⟩ := mem_targetsOf.mp hmem
  cases eq_of_mem_groups hnodup hterms hsecondTerms hboth hsecondKey
  exact mem_targetsOf.mpr ⟨hkey, hne.symm⟩

theorem nodup_keys_entries (hnodup : groups.flatten.Nodup) :
    (keysOf (entriesOfGroups runtime groups)).Nodup := by
  have hkeys : keysOf (entriesOfGroups runtime groups) =
      (groups.flatten).filter (isEligible runtime) := by
    rw [keysOf, entriesOfGroups, List.map_flatMap, List.filter_flatten, List.flatMap_def]
    congr 1
    refine List.map_congr_left fun terms _ => ?_
    rw [entriesOfGroup, List.map_map]
    exact List.map_id _
  rw [hkeys]
  exact hnodup.filter _

theorem targetsOf_perm {otherTerms : List Text} (h : terms.Perm otherTerms) (key : Text) :
    targetsOf terms key = targetsOf otherTerms key := by
  have hperm : (targetsOf terms key).Perm (targetsOf otherTerms key) :=
    ((List.perm_insertionSort _ _).trans (h.filter _)).trans (List.perm_insertionSort _ _).symm
  exact hperm.eq_of_pairwise' (List.pairwise_insertionSort _ _) (List.pairwise_insertionSort _ _)

theorem entriesOfGroup_perm {otherTerms : List Text} (h : terms.Perm otherTerms) :
    (entriesOfGroup runtime terms).Perm (entriesOfGroup runtime otherTerms) := by
  have htargets : entriesOfGroup runtime terms = (terms.filter (isEligible runtime)).map
      fun key => (key, targetsOf otherTerms key) :=
    List.map_congr_left fun key _ => by rw [targetsOf_perm h]
  rw [htargets]
  exact (h.filter _).map _

def IsReordering (groups others : List (List Text)) : Prop :=
  ∃ between, groups.Perm between ∧ List.Forall₂ List.Perm between others

theorem perm_flatMap_of_forall₂ {β : Type} {f : List Text → List β}
    (hf : ∀ first second : List Text, first.Perm second → (f first).Perm (f second))
    (h : List.Forall₂ List.Perm groups others) : (groups.flatMap f).Perm (others.flatMap f) := by
  induction h with
  | nil => exact List.Perm.refl _
  | cons hterms _ ih =>
    rw [List.flatMap_cons, List.flatMap_cons]
    exact (hf _ _ hterms).append ih

theorem IsReordering.flatMap {β : Type} {f : List Text → List β}
    (hf : ∀ first second : List Text, first.Perm second → (f first).Perm (f second))
    (h : IsReordering groups others) : (groups.flatMap f).Perm (others.flatMap f) := by
  obtain ⟨between, hperm, hterms⟩ := h
  exact (hperm.flatMap_right f).trans (perm_flatMap_of_forall₂ hf hterms)

theorem IsReordering.flatten (h : IsReordering groups others) :
    groups.flatten.Perm others.flatten := by
  have hid := h.flatMap (f := id) fun _ _ hperm => hperm
  rwa [List.flatMap_id, List.flatMap_id] at hid

theorem sortedByKey_perm {first second : SynonymMap} (hperm : first.Perm second)
    (hnodup : (keysOf first).Nodup) : sortedByKey first = sortedByKey second := by
  have hsorted : ∀ synonyms : SynonymMap,
      (sortedByKey synonyms).Pairwise fun first second => first.1 ≤ second.1 :=
    fun synonyms => List.pairwise_insertionSort _ _
  have hboth : (sortedByKey first).Perm (sortedByKey second) :=
    ((List.perm_insertionSort _ _).trans hperm).trans (List.perm_insertionSort _ _).symm
  refine hboth.eq_of_pairwise ?_ (hsorted first) (hsorted second)
  intro entry otherEntry hentry hother hle hge
  have hkeys : entry.1 = otherEntry.1 := Std.le_antisymm hle hge
  have hmem : entry ∈ first := (List.mem_insertionSort _).mp hentry
  have hotherMem : otherEntry ∈ first := hperm.mem_iff.mpr ((List.mem_insertionSort _).mp hother)
  exact List.inj_on_of_nodup_map hnodup hmem hotherMem hkeys

def IsReorderedSource (sourceText other : Text) : Prop :=
  ∃ lines, (splitLines sourceText).Perm lines ∧
    List.Forall₂ (fun first second : Text => (first.splitOn ',').Perm (second.splitOn ','))
      lines (splitLines other)

theorem stripText_eq_nil {text : Text} : stripText text = [] ↔ ∀ c ∈ text, isSpace c = true := by
  rw [stripText, List.rdropWhile_eq_nil_iff]
  constructor
  · intro h
    induction text with
    | nil => exact fun _ hmem => (List.not_mem_nil hmem).elim
    | cons c rest ih =>
      by_cases hspace : isSpace c = true
      · rw [List.dropWhile_cons_of_pos hspace] at h
        exact List.forall_mem_cons.mpr ⟨hspace, ih h⟩
      · rw [List.dropWhile_cons_of_neg hspace] at h
        exact absurd (h c List.mem_cons_self) hspace
  · exact fun h c hmem => h c ((List.dropWhile_sublist _).subset hmem)

theorem eq_of_blank {first second : Text}
    (hperm : (first.splitOn ',').Perm (second.splitOn ',')) (h : isGroupLine first = false) :
    second = first := by
  have hblank : ∀ c ∈ first, isSpace c = true :=
    stripText_eq_nil.mp (by simpa [isGroupLine] using h)
  have hsingle : first.splitOn ',' = [first] := by
    refine List.splitOnP_eq_singleton fun c hmem => beq_eq_false_iff_ne.mpr ?_
    rintro rfl
    exact absurd (hblank ',' hmem) (by decide)
  rw [hsingle] at hperm
  have hother : second.splitOn ',' = [first] := List.perm_singleton.mp hperm.symm
  have hjoined : [','].intercalate (second.splitOn ',') = second := List.intercalate_splitOn ','
  rw [hother] at hjoined
  simpa [List.intercalate] using hjoined.symm

theorem isGroupLine_congr {first second : Text}
    (hperm : (first.splitOn ',').Perm (second.splitOn ',')) :
    isGroupLine first = isGroupLine second := by
  cases hfirst : isGroupLine first with
  | false => rw [eq_of_blank hperm hfirst, hfirst]
  | true =>
    cases hsecond : isGroupLine second with
    | true => rfl
    | false =>
      rw [eq_of_blank hperm.symm hsecond, hsecond] at hfirst
      cases hfirst

theorem AcceptsLine.congr {first second : Text} (h : AcceptsLine runtime locale first)
    (hperm : (first.splitOn ',').Perm (second.splitOn ',')) :
    AcceptsLine runtime locale second where
  two := hperm.length_eq ▸ h.two
  terms rawTerm hmem := h.terms rawTerm (hperm.mem_iff.mpr hmem)

theorem sourceLines_reordered (h : IsReorderedSource sourceText other) :
    ∃ lines, (sourceLines sourceText).Perm lines ∧
      List.Forall₂ (fun first second : Text => (first.splitOn ',').Perm (second.splitOn ','))
        lines (sourceLines other) := by
  obtain ⟨lines, hperm, hterms⟩ := h
  refine ⟨lines.filter isGroupLine, hperm.filter _, List.rel_filter ?_ hterms⟩
  intro first second hsplit
  exact Eq.to_iff (congrArg (· = true) (isGroupLine_congr hsplit))

theorem isReordering_of_reordered (h : IsReorderedSource sourceText other) :
    IsReordering (sourceGroups runtime sourceText) (sourceGroups runtime other) := by
  obtain ⟨lines, hperm, hterms⟩ := sourceLines_reordered h
  refine ⟨lines.map (termsOfLine runtime), hperm.map _, ?_⟩
  rw [sourceGroups, List.forall₂_map_left_iff, List.forall₂_map_right_iff]
  exact hterms.imp fun _ _ hsplit => hsplit.map _

theorem forall_of_forall₂ {α β : Type} {R : α → β → Prop} {P : α → Prop} {Q : β → Prop}
    {items : List α} {images : List β} (h : List.Forall₂ R items images)
    (hitems : ∀ item ∈ items, P item) (hkeep : ∀ item image, R item image → P item → Q image) :
    ∀ image ∈ images, Q image := by
  induction h with
  | nil => exact fun _ hmem => (List.not_mem_nil hmem).elim
  | cons hrel _ ih =>
    obtain ⟨hfirst, hrest⟩ := List.forall_mem_cons.mp hitems
    exact List.forall_mem_cons.mpr ⟨hkeep _ _ hrel hfirst, ih hrest⟩

theorem IsCleanSource.reordered (h : IsCleanSource runtime locale sourceText)
    (hreordered : IsReorderedSource sourceText other) : IsCleanSource runtime locale other where
  lines := by
    obtain ⟨lines, hperm, hterms⟩ := sourceLines_reordered hreordered
    exact forall_of_forall₂ hterms (fun line hline => h.lines line (hperm.mem_iff.mpr hline))
      fun _ _ hsplit hline => hline.congr hsplit
  unique := (isReordering_of_reordered hreordered).flatten.nodup_iff.mp h.unique

theorem entries_reordered (h : IsReorderedSource sourceText other) :
    (entriesOfGroups runtime (sourceGroups runtime sourceText)).Perm
      (entriesOfGroups runtime (sourceGroups runtime other)) :=
  (isReordering_of_reordered h).flatMap fun _ _ hperm => entriesOfGroup_perm hperm

theorem IsValidSource.reordered (h : IsValidSource runtime locale sourceText)
    (hreordered : IsReorderedSource sourceText other) : IsValidSource runtime locale other where
  toIsCleanSource := h.toIsCleanSource.reordered hreordered
  limits entry hentry := h.limits entry ((entries_reordered hreordered).mem_iff.mpr hentry)
  activates hnone := h.activates (List.perm_nil.mp (hnone ▸ entries_reordered hreordered))

theorem compiled_reordered (h : IsCleanSource runtime locale sourceText)
    (hreordered : IsReorderedSource sourceText other) :
    (compileSearchSynonyms runtime other locale).compiledSynonyms =
      (compileSearchSynonyms runtime sourceText locale).compiledSynonyms := by
  rw [compiled_of_clean h, compiled_of_clean (h.reordered hreordered)]
  exact (sortedByKey_perm (entries_reordered hreordered) (nodup_keys_entries h.unique)).symm

theorem compiledHash_eq (sourceText : Text) :
    (compileSearchSynonyms runtime sourceText locale).compiledHash =
      hashCompiledSynonymSnapshot runtime
        (compileSearchSynonyms runtime sourceText locale).compiledSynonyms := rfl

structure RelatesGroups (runtime : TextRuntime) (groups : List (List Text))
    (synonyms : SynonymMap) : Prop where
  irreflexive : ∀ key targets, (key, targets) ∈ synonyms → key ∉ targets
  symmetric : ∀ first firstTargets second secondTargets, (first, firstTargets) ∈ synonyms →
    (second, secondTargets) ∈ synonyms → (second ∈ firstTargets ↔ first ∈ secondTargets)
  keys : ∀ key, key ∈ keysOf synonyms ↔
    ∃ terms ∈ groups, 2 ≤ terms.length ∧ key ∈ terms ∧
      countSynonymTokens runtime key ≤ MAX_KEY_TOKENS
  unique_keys : (keysOf synonyms).Nodup
  apart : groups.flatten.Nodup

theorem relatesGroups_of_clean (h : IsCleanSource runtime locale sourceText) :
    RelatesGroups runtime (compiledGroups runtime locale sourceText)
      (compileSearchSynonyms runtime sourceText locale).compiledSynonyms := by
  rw [compiledGroups_of_clean h, compiled_of_clean h]
  have hmem : ∀ entry, entry ∈ sortedByKey (entriesOfGroups runtime (sourceGroups runtime sourceText)) ↔
      entry ∈ entriesOfGroups runtime (sourceGroups runtime sourceText) :=
    fun entry => List.mem_insertionSort _
  have hkeys : (keysOf (sortedByKey
      (entriesOfGroups runtime (sourceGroups runtime sourceText)))).Perm
      (keysOf (entriesOfGroups runtime (sourceGroups runtime sourceText))) :=
    (List.perm_insertionSort _ _).map Prod.fst
  have hlengths : ∀ terms ∈ sourceGroups runtime sourceText, 2 ≤ terms.length := by
    intro terms hterms
    obtain ⟨line, hline, rfl⟩ := List.mem_map.mp hterms
    rw [termsOfLine, List.length_map]
    exact (h.lines line hline).two
  exact
    { irreflexive := fun key targets hentry => irreflexive_entries ((hmem _).mp hentry)
      symmetric := fun first firstTargets second secondTargets hfirst hsecond =>
        ⟨symmetric_entries h.unique ((hmem _).mp hfirst) ((hmem _).mp hsecond),
          symmetric_entries h.unique ((hmem _).mp hsecond) ((hmem _).mp hfirst)⟩
      keys := by
        intro key
        rw [hkeys.mem_iff, keysOf, List.mem_map]
        constructor
        · rintro ⟨⟨_, targets⟩, hentry, rfl⟩
          obtain ⟨terms, hterms, hmemTerm, heligible, -⟩ := mem_entriesOfGroups.mp hentry
          exact ⟨terms, hterms, hlengths terms hterms, hmemTerm, of_decide_eq_true heligible⟩
        · rintro ⟨terms, hterms, -, hmemTerm, heligible⟩
          exact ⟨(key, targetsOf terms key),
            mem_entriesOfGroups.mpr ⟨terms, hterms, hmemTerm, decide_eq_true heligible, rfl⟩, rfl⟩
      unique_keys := hkeys.nodup_iff.mpr (nodup_keys_entries h.unique)
      apart := h.unique }

/-- The map of a valid source, which every reordering of the source shares. -/
theorem compiled_map_sound (h : (compileSearchSynonyms runtime sourceText locale).valid = true) :
    RelatesGroups runtime (compiledGroups runtime locale sourceText)
      (compileSearchSynonyms runtime sourceText locale).compiledSynonyms ∧
    ∀ other, IsReorderedSource sourceText other →
      (compileSearchSynonyms runtime other locale).valid = true ∧
      (compileSearchSynonyms runtime other locale).compiledSynonyms =
        (compileSearchSynonyms runtime sourceText locale).compiledSynonyms ∧
      (compileSearchSynonyms runtime other locale).compiledHash =
        (compileSearchSynonyms runtime sourceText locale).compiledHash := by
  have hvalid := valid_iff.mp h
  refine ⟨relatesGroups_of_clean hvalid.toIsCleanSource, fun other hreordered => ?_⟩
  have hsame := compiled_reordered hvalid.toIsCleanSource hreordered
  refine ⟨valid_iff.mpr (hvalid.reordered hreordered), hsame, ?_⟩
  rw [compiledHash_eq, compiledHash_eq, hsame]

def latinTables : TextRuntime where
  nfkc text := text.map fun c => if c = '，' then ',' else c
  casefold text := text.map Char.toLower
  isAlnum c := c.isAlphanum
  unicodeName c := if c.isLower then "LATIN SMALL LETTER ".toList ++ [c.toUpper] else []
  sha256Hex _ := "796651305888bedaf41ee9ef4d6b915e2b425f912cc2e6fb8e014ed24b1cafa9"

theorem compiled_map_sound_cats :
    RelatesGroups latinTables (compiledGroups latinTables .en "Cat, kitten".toList)
      (compileSearchSynonyms latinTables "Cat, kitten".toList .en).compiledSynonyms ∧
    ∀ other, IsReorderedSource "Cat, kitten".toList other →
      (compileSearchSynonyms latinTables other .en).valid = true ∧
      (compileSearchSynonyms latinTables other .en).compiledSynonyms =
        (compileSearchSynonyms latinTables "Cat, kitten".toList .en).compiledSynonyms ∧
      (compileSearchSynonyms latinTables other .en).compiledHash =
        (compileSearchSynonyms latinTables "Cat, kitten".toList .en).compiledHash :=
  compiled_map_sound (by decide +kernel)

end Maps

end MemeExpert.Services
