import Mathlib
import MemeExpert.Lib.Numerals
import MemeExpert.Models.Content
import MemeExpert.Services.SearchSynonymCompiler

/-! A page gets the slug of its first seed, or the first numbered candidate that is not
among the slugs of other memes that begin with it. -/

namespace MemeExpert.Services.MemeSeo

abbrev Text := List Char

local instance : LawfulBEq Text := inferInstance

def MAX_SLUG_LENGTH : Nat := 255

structure Normalization where
  nfkd : Text → Text
  nfkd_ascii : ∀ text, (∀ c ∈ text, c.toNat < 128) → nfkd text = text

/-- `re.sub` of every run; `inRun` is set inside one. -/
def subRuns (p : Char → Bool) (sub : Char) (inRun : Bool) : Text → Text
  | [] => []
  | c :: rest =>
    if p c then
      if inRun then subRuns p sub true rest else sub :: subRuns p sub true rest
    else c :: subRuns p sub false rest

def stripHyphens (text : Text) : Text := (text.dropWhile (· = '-')).rdropWhile (· = '-')

/-- `text[:stop]`. -/
def sliceTo (text : Text) (stop : Int) : Text :=
  text.take (if 0 ≤ stop then stop else text.length + stop).toNat

def firstPresent (values : List Text) : Option Text := (values.map stripText).find? (· ≠ [])

/-- `str(meme_id)[:8]`. -/
def idPrefix (memeId : Uuid) : Text := Numerals.spell 16 8 (memeId / 2 ^ 96 % 2 ^ 32)

def suffixText (suffix : Nat) : Text := '-' :: Nat.toDigits 10 suffix

/-- What `_with_suffix` keeps of the base. -/
def cutFor (base : Text) (suffix : Nat) : Text :=
  sliceTo base (MAX_SLUG_LENGTH - (suffixText suffix).length)

def withSuffix (base : Text) (suffix : Nat) : Text := cutFor base suffix ++ suffixText suffix

/-- The slugs that pages of other memes have. -/
def takenSlugs (pages : List MemeSeoPage) (memeId : Uuid) : List Text :=
  (pages.filter fun page => page.memeId ≠ memeId).map fun page => page.slug.toList

/-- The rows of the query, `LIKE` on a text without wildcards. -/
def fetchedSlugs (pages : List MemeSeoPage) (memeId : Uuid) (base : Text) : List Text :=
  (takenSlugs pages memeId).filter fun slug => base.isPrefixOf slug

/-- The loop over the suffixes, with `fuel` rounds left. -/
def seekSuffix (existing : List Text) (base : Text) : Nat → Nat → Text
  | 0, suffix => withSuffix base suffix
  | fuel + 1, suffix =>
    if withSuffix base suffix ∉ existing then withSuffix base suffix
    else seekSuffix existing base fuel (suffix + 1)

structure SeoPayload where
  slug : Option Text := none
  pageTitle : Text
  tags : List Text := []

section Service

variable (forms : Normalization) (pages : List MemeSeoPage) (memeId : Uuid)

def slugify (value : Text) : Text :=
  let asciiValue := (forms.nfkd value).filter fun c => c.toNat < 128
  let slug := stripHyphens (subRuns (fun c => !c.isAlphanum) '-' false (asciiValue.map Char.toLower))
  (subRuns (· = '-') '-' false slug).take MAX_SLUG_LENGTH

def slugBase (seeds : List Text) : Text :=
  let slug := slugify forms ((firstPresent seeds).getD (idPrefix memeId))
  if slug = [] then idPrefix memeId else slug

def uniqueSlug (seeds : List Text) : Text :=
  let base := slugBase forms memeId seeds
  let existing := fetchedSlugs pages memeId base
  if base ∉ existing then base else seekSuffix existing base existing.length 2

def slugSeeds (payload : SeoPayload) (memeTags : List Text) (ocrText : Option Text) : List Text :=
  payload.slug.getD [] :: payload.pageTitle :: payload.tags ++ memeTags ++
    [ocrText.getD [], idPrefix memeId]

/-- The flush, under the unique index on the slug. -/
def savePage (slug : Text) (tags : List String) : Except String (List MemeSeoPage) :=
  if slug ∈ takenSlugs pages memeId then .error "IntegrityError"
  else
    .ok ((pages.filter fun page => page.memeId ≠ memeId) ++
      [{ memeId := memeId, slug := String.ofList slug, tags := tags }])

def generateForMemeId (payload : SeoPayload) (memeTags : List Text) (ocrText : Option Text)
    (tags : List String) : Except String (List MemeSeoPage) :=
  savePage pages memeId (uniqueSlug forms pages memeId (slugSeeds memeId payload memeTags ocrText))
    tags

end Service

structure Tidy (text : Text) : Prop where
  chars : ∀ c ∈ text, c = '-' ∨ c.isAlphanum = true ∧ c.isUpper = false
  chain : text.IsChain fun a b => ¬(a = '-' ∧ b = '-')
  head : text.head? ≠ some '-'

section Slugs

variable {p : Char → Bool} {sub : Char} {inRun : Bool} {text cut : Text} {forms : Normalization}

theorem subRuns_of_chain (hsub : ∀ c ∈ text, p c = true → c = sub)
    (hchain : text.IsChain fun a b => ¬(a = sub ∧ b = sub))
    (hhead : inRun = true → ∀ c ∈ text.head?, p c = false) : subRuns p sub inRun text = text := by
  induction text generalizing inRun with
  | nil => rfl
  | cons c rest ih =>
    obtain ⟨hnext, hchain⟩ := List.isChain_cons.mp hchain
    have hrest : ∀ d ∈ rest, p d = true → d = sub := fun d hd => hsub d (List.mem_cons_of_mem _ hd)
    rw [subRuns]
    split
    · next hc =>
      have hkept : subRuns p sub true rest = rest := by
        apply ih hrest hchain
        intro _ d hd
        refine Bool.eq_false_iff.mpr fun hpd => hnext d hd ⟨?_, ?_⟩
        · exact hsub c List.mem_cons_self hc
        · exact hrest d (List.mem_of_mem_head? hd) hpd
      split
      · next hin => exact Bool.noConfusion ((hhead hin c rfl).symm.trans hc)
      · rw [hkept, hsub c List.mem_cons_self hc]
    · have hkept : subRuns p sub false rest = rest := by
        apply ih hrest hchain
        intro hin
        cases hin
      rw [hkept]

theorem mem_subRuns {c : Char} (h : c ∈ subRuns p sub inRun text) :
    c = sub ∨ c ∈ text ∧ p c = false := by
  induction text generalizing inRun with
  | nil => cases h
  | cons d rest ih =>
    have hlater {later : Bool} (hc : c ∈ subRuns p sub later rest) :
        c = sub ∨ c ∈ d :: rest ∧ p c = false :=
      (ih hc).imp_right fun hrest => ⟨List.mem_cons_of_mem _ hrest.1, hrest.2⟩
    rw [subRuns] at h
    split at h
    · split at h
      · exact hlater h
      · exact (List.mem_cons.mp h).elim .inl hlater
    · next hd =>
      rcases List.mem_cons.mp h with rfl | hrest
      · exact .inr ⟨List.mem_cons_self, Bool.not_eq_true _ ▸ hd⟩
      · exact hlater hrest

theorem chain_subRuns (hsub : p sub = true) :
    (subRuns p sub inRun text).IsChain (fun a b => ¬(a = sub ∧ b = sub)) ∧
      (inRun = true → (subRuns p sub inRun text).head? ≠ some sub) := by
  induction text generalizing inRun with
  | nil => exact ⟨.nil, nofun⟩
  | cons c rest ih =>
    obtain ⟨hchain, hhead⟩ := @ih true
    rw [subRuns]
    split
    · split
      · exact ⟨hchain, fun _ => hhead rfl⟩
      next hout =>
      refine ⟨List.isChain_cons.mpr ⟨?_, hchain⟩, fun hin => (hout hin).elim⟩
      rintro d hd ⟨-, rfl⟩
      exact hhead rfl hd
    · next hc =>
      have hne : c ≠ sub := fun heq => hc (heq ▸ hsub)
      refine ⟨List.isChain_cons.mpr ⟨fun d _ hboth => hne hboth.1, (@ih false).1⟩, ?_⟩
      intro _ heq
      exact hne (Option.some.inj heq)

theorem length_subRuns_le : (subRuns p sub inRun text).length ≤ text.length := by
  induction text generalizing inRun with
  | nil => exact Nat.le_refl _
  | cons c rest ih =>
    rw [subRuns]
    split
    · split
      · exact Nat.le_succ_of_le ih
      · exact Nat.succ_le_succ ih
    · exact Nat.succ_le_succ ih

theorem isUpper_toLower (c : Char) : c.toLower.isUpper = false := by
  simp only [Char.isUpper, Char.toLower]
  split <;> grind [UInt32.toNat_add, Char.toNat_val]

theorem toLower_of_not_isUpper {c : Char} (h : c.isUpper = false) : c.toLower = c := by
  simp only [Char.isUpper, Char.toLower] at h ⊢
  grind

theorem Tidy.of_cut (h : Tidy text) (hcut : cut <+: text) : Tidy cut where
  chars c hc := h.chars c (hcut.subset hc)
  chain := List.IsChain.prefix h.chain hcut
  head := by
    intro hhead
    obtain ⟨rest, rfl⟩ := hcut
    apply h.head
    rw [List.head?_append, hhead]
    rfl

theorem isHyphenFree_of_alphanum {c : Char} (h : c.isAlphanum = true) : c ≠ '-' := by
  rintro rfl
  cases h

theorem Tidy.subRuns_eq (h : Tidy text) (hp : ∀ c, p c = true → c.isAlphanum = false) :
    subRuns p '-' false text = text := by
  refine subRuns_of_chain ?_ h.chain nofun
  intro c hc hpc
  rcases h.chars c hc with heq | ⟨halnum, -⟩
  · exact heq
  · exact Bool.noConfusion ((hp c hpc).symm.trans halnum)

theorem Tidy.stripHyphens_eq_iff (h : Tidy text) :
    (stripHyphens text).length = text.length ↔ text.getLast? ≠ some '-' := by
  have hfront : text.dropWhile (· = '-') = text := by
    cases text with
    | nil => rfl
    | cons c rest =>
      have hne : c ≠ '-' := fun heq => h.head (congrArg some heq)
      rw [List.dropWhile_cons_of_neg (by simpa using hne)]
  rw [stripHyphens, hfront]
  constructor
  · rintro hlength hlast
    obtain ⟨front, rfl⟩ := List.getLast?_eq_some_iff.mp hlast
    rw [List.rdropWhile_concat_pos _ _ _ (by simp), List.length_append] at hlength
    have hle := (List.rdropWhile_prefix (fun c => decide (c = '-')) front).length_le
    simp only [List.length_singleton] at hlength
    omega
  · intro hlast
    congr 1
    rw [List.rdropWhile_eq_self_iff]
    intro hne heq
    apply hlast
    rw [List.getLast?_eq_some_getLast hne, of_decide_eq_true heq]

/-- A slug without a hyphen at its end is left as it is, and no other one is. -/
theorem Tidy.slugify_eq_iff (h : Tidy text) (hlength : text.length ≤ MAX_SLUG_LENGTH) :
    slugify forms text = text ↔ text.getLast? ≠ some '-' := by
  have hascii : ∀ c ∈ text, c.toNat < 128 := by
    intro c hc
    rcases h.chars c hc with rfl | ⟨halnum, -⟩
    · decide
    · simp only [Char.isAlphanum, Char.isAlpha, Char.isUpper, Char.isLower, Char.isDigit] at halnum
      grind [Char.toNat_val, UInt32.le_iff_toNat_le]
  have hlower : text.map Char.toLower = text := by
    refine (List.map_congr_left fun c hc => ?_).trans (List.map_id text)
    rcases h.chars c hc with rfl | ⟨-, hupper⟩
    · rfl
    · exact toLower_of_not_isUpper hupper
  have hslug : slugify forms text =
      (subRuns (· = '-') '-' false (stripHyphens text)).take MAX_SLUG_LENGTH := by
    rw [slugify, forms.nfkd_ascii text hascii, List.filter_eq_self.mpr (by simpa using hascii),
      hlower, h.subRuns_eq (by simp)]
  rw [hslug, ← h.stripHyphens_eq_iff]
  constructor
  · intro heq
    apply Nat.le_antisymm
    · exact ((List.rdropWhile_prefix _ _).length_le).trans (List.dropWhile_suffix _).length_le
    · calc text.length
          = ((subRuns (· = '-') '-' false (stripHyphens text)).take MAX_SLUG_LENGTH).length :=
            congrArg List.length heq.symm
        _ ≤ (subRuns (· = '-') '-' false (stripHyphens text)).length :=
            (List.take_prefix _ _).length_le
        _ ≤ (stripHyphens text).length := length_subRuns_le
  · intro hkept
    have hsame : stripHyphens text = text := by
      apply List.IsInfix.eq_of_length _ hkept
      exact (List.rdropWhile_prefix _ _).isInfix.trans (List.dropWhile_suffix _).isInfix
    rw [hsame, h.subRuns_eq, List.take_of_length_le hlength]
    intro c hc
    rw [of_decide_eq_true hc]
    rfl

theorem tidy_slugify (value : Text) :
    Tidy (slugify forms value) ∧ (slugify forms value).length ≤ MAX_SLUG_LENGTH := by
  let lowered := ((forms.nfkd value).filter fun c => c.toNat < 128).map Char.toLower
  let runs := subRuns (fun c => !c.isAlphanum) '-' false lowered
  have hpart : stripHyphens runs <:+: runs :=
    (List.rdropWhile_prefix _ _).isInfix.trans (List.dropWhile_suffix _).isInfix
  have hstripped : Tidy (stripHyphens runs) := by
    constructor
    · intro c hc
      rcases mem_subRuns (hpart.subset hc) with heq | ⟨hmem, halnum⟩
      · exact .inl heq
      obtain ⟨d, -, rfl⟩ := List.mem_map.mp hmem
      exact .inr ⟨by simpa using halnum, isUpper_toLower d⟩
    · exact List.IsChain.infix (chain_subRuns (by rfl)).1 hpart
    · intro hhead
      obtain ⟨rest, hrest⟩ := List.rdropWhile_prefix (fun c => decide (c = '-'))
        (runs.dropWhile fun c => decide (c = '-'))
      have hfront : (runs.dropWhile fun c => decide (c = '-')).head? = some '-' := by
        rw [← hrest, List.head?_append]
        change (stripHyphens runs).head?.or _ = _
        rw [hhead]
        rfl
      have hnot := List.head?_dropWhile_not (fun c => decide (c = '-')) runs
      rw [hfront] at hnot
      simp at hnot
  have hslug : slugify forms value = (stripHyphens runs).take MAX_SLUG_LENGTH := by
    rw [slugify]
    congr 1
    apply hstripped.subRuns_eq
    intro c hc
    rw [of_decide_eq_true hc]
    rfl
  rw [hslug]
  exact ⟨hstripped.of_cut (List.take_prefix _ _), List.length_take_le _ _⟩

end Slugs

section Candidates

variable {forms : Normalization} {pages : List MemeSeoPage} {memeId : Uuid} {base : Text}
  {existing : List Text} {seeds : List Text}

theorem alphanum_of_mem_idPrefix {c : Char} (h : c ∈ idPrefix memeId) :
    c.isAlphanum = true ∧ c.isUpper = false := by
  obtain ⟨d, hd, rfl⟩ := List.mem_map.mp h
  have hlt : d < 16 := Numerals.lt_of_mem_write (by decide) hd
  interval_cases d <;> decide

theorem length_idPrefix : (idPrefix memeId).length = 8 :=
  Numerals.length_spell (by decide) (Nat.mod_lt _ (by decide))

theorem tidy_idPrefix : Tidy (idPrefix memeId) where
  chars c hc := .inr (alphanum_of_mem_idPrefix hc)
  chain := by
    apply List.Pairwise.isChain
    apply List.pairwise_of_forall_mem_list
    rintro a ha b - ⟨rfl, -⟩
    exact isHyphenFree_of_alphanum (alphanum_of_mem_idPrefix ha).1 rfl
  head := by
    intro hhead
    have hmem := List.mem_of_mem_head? hhead
    exact isHyphenFree_of_alphanum (alphanum_of_mem_idPrefix hmem).1 rfl

variable (forms memeId seeds) in
theorem tidy_slugBase :
    Tidy (slugBase forms memeId seeds) ∧ (slugBase forms memeId seeds).length ≤ MAX_SLUG_LENGTH ∧
      slugBase forms memeId seeds ≠ [] := by
  unfold slugBase
  dsimp only
  split
  · refine ⟨tidy_idPrefix, ?_, ?_⟩
    · rw [length_idPrefix]
      decide
    · intro hnil
      have hlength := @length_idPrefix memeId
      rw [hnil] at hlength
      cases hlength
  · next hne =>
    exact ⟨(tidy_slugify _).1, (tidy_slugify _).2, hne⟩

theorem mem_fetchedSlugs {slug : Text} :
    slug ∈ fetchedSlugs pages memeId base ↔ slug ∈ takenSlugs pages memeId ∧ base <+: slug := by
  rw [fetchedSlugs, List.mem_filter, List.isPrefixOf_iff_prefix]

/-- The texts that are tried, the base first. -/
def candidate (base : Text) (number : Nat) : Text :=
  if number = 1 then base else withSuffix base number

theorem digit_of_mem_toDigits {n : Nat} {c : Char} (h : c ∈ Nat.toDigits 10 n) : c.isDigit = true :=
  Nat.isDigit_of_mem_toDigits (by decide) (by decide) h

theorem rtakeWhile_withSuffix (base : Text) (suffix : Nat) :
    (withSuffix base suffix).rtakeWhile (· ≠ '-') = Nat.toDigits 10 suffix := by
  have hdigits : ∀ c ∈ (Nat.toDigits 10 suffix).reverse, decide (c ≠ '-') = true := by
    intro c hc
    rw [decide_eq_true_eq]
    rintro rfl
    cases digit_of_mem_toDigits (List.mem_reverse.mp hc)
  rw [withSuffix, suffixText, List.rtakeWhile, List.reverse_append, List.reverse_cons,
    List.append_assoc, List.takeWhile_append_of_pos hdigits]
  simp

theorem withSuffix_injective (base : Text) {m n : Nat} (h : withSuffix base m = withSuffix base n) :
    m = n := by
  have hdigits : Nat.toDigits 10 m = Nat.toDigits 10 n := by
    rw [← rtakeWhile_withSuffix base m, h, rtakeWhile_withSuffix]
  have hread := congrArg (fun digits => Nat.ofDigitChars 10 digits 0) hdigits
  simpa using hread

/-- One suffix more than there are slugs is free. -/
theorem exists_free (existing : List Text) (base : Text) :
    ∃ n, 2 ≤ n ∧ n ≤ existing.length + 2 ∧ withSuffix base n ∉ existing := by
  by_contra hall
  push Not at hall
  have hnodup : ((List.range' 2 (existing.length + 1)).map (withSuffix base)).Nodup :=
    List.Nodup.map (fun m n => withSuffix_injective base) List.nodup_range'
  have hsubset : (List.range' 2 (existing.length + 1)).map (withSuffix base) ⊆ existing := by
    intro text htext
    obtain ⟨n, hn, rfl⟩ := List.mem_map.mp htext
    rw [List.mem_range'_1] at hn
    exact hall n hn.1 (by omega)
  have hle := (List.subperm_of_subset hnodup hsubset).length_le
  rw [List.length_map, List.length_range'] at hle
  omega

theorem seekSuffix_cases (fuel suffix : Nat)
    (hfree : ∃ n, suffix ≤ n ∧ n ≤ suffix + fuel ∧ withSuffix base n ∉ existing) :
    ∃ n, suffix ≤ n ∧ seekSuffix existing base fuel suffix = withSuffix base n ∧
      withSuffix base n ∉ existing ∧ ∀ m, suffix ≤ m → m < n → withSuffix base m ∈ existing := by
  obtain ⟨free, hle, hbound, hfree⟩ := hfree
  induction fuel generalizing suffix with
  | zero =>
    obtain rfl : free = suffix := by omega
    refine ⟨free, Nat.le_refl _, rfl, hfree, ?_⟩
    intro m hm hlt
    omega
  | succ fuel ih =>
    rw [seekSuffix]
    split
    · next hout =>
      refine ⟨suffix, Nat.le_refl _, rfl, hout, ?_⟩
      intro m hm hlt
      omega
    · next hin =>
      have htaken := not_not.mp hin
      have hne : free ≠ suffix := fun heq => hfree (heq ▸ htaken)
      obtain ⟨n, hn, heq, hout, hlower⟩ := ih (suffix + 1) (by omega) (by omega)
      refine ⟨n, by omega, heq, hout, ?_⟩
      intro m hm hlt
      rcases Nat.eq_or_lt_of_le hm with rfl | hlater
      · exact htaken
      · exact hlower m hlater hlt

/-- The candidates below the number are slugs that the query finds. -/
def PassedOver (pages : List MemeSeoPage) (memeId : Uuid) (base : Text) (number : Nat) : Prop :=
  ∀ m, 1 ≤ m → m < number → candidate base m ∈ fetchedSlugs pages memeId base

variable (pages) in
/-- The loop ends with the lowest candidate that was not fetched. -/
theorem uniqueSlug_cases (hbase : slugBase forms memeId seeds = base) :
    ∃ n, 1 ≤ n ∧ uniqueSlug forms pages memeId seeds = candidate base n ∧
      candidate base n ∉ fetchedSlugs pages memeId base ∧ PassedOver pages memeId base n := by
  simp only [uniqueSlug, hbase]
  split
  · next hout =>
    refine ⟨1, Nat.le_refl _, rfl, hout, ?_⟩
    intro m hm hlt
    omega
  · next hin =>
    obtain ⟨free, hle, hbound, hfree⟩ := exists_free (fetchedSlugs pages memeId base) base
    obtain ⟨n, hn, heq, hout, hlower⟩ := seekSuffix_cases
      (fetchedSlugs pages memeId base).length 2 ⟨free, hle, by omega, hfree⟩
    have hmany : ∀ m, 2 ≤ m → candidate base m = withSuffix base m := fun m hm => if_neg (by omega)
    refine ⟨n, by omega, heq.trans (hmany n hn).symm, (hmany n hn).symm ▸ hout, ?_⟩
    intro m hm hlt
    rcases Nat.eq_or_lt_of_le hm with rfl | hlater
    · exact not_not.mp hin
    · rw [hmany m hlater]
      exact hlower m hlater hlt

/-- The cut before the suffix leaves something, and no hyphen at its end. -/
def SuffixFits (base : Text) (suffix : Nat) : Prop :=
  (suffixText suffix).length < MAX_SLUG_LENGTH ∧ (cutFor base suffix).getLast? ≠ some '-'

theorem tidy_suffixed {cut : Text} (hcut : Tidy cut) (hne : cut ≠ [])
    (hlast : cut.getLast? ≠ some '-') (suffix : Nat) : Tidy (cut ++ suffixText suffix) where
  chars c hc := by
    rcases List.mem_append.mp hc with hfront | hback
    · exact hcut.chars c hfront
    rcases List.mem_cons.mp hback with rfl | hdigit
    · exact .inl rfl
    have hisDigit := digit_of_mem_toDigits hdigit
    refine .inr ⟨by simp [Char.isAlphanum, hisDigit], ?_⟩
    simp only [Char.isDigit, Char.isUpper] at hisDigit ⊢
    grind
  chain := by
    refine List.isChain_append.mpr ⟨hcut.chain, ?_, ?_⟩
    · rw [suffixText, List.isChain_cons]
      have hfree : ∀ c ∈ Nat.toDigits 10 suffix, c ≠ '-' := by
        rintro _ hc rfl
        cases digit_of_mem_toDigits hc
      refine ⟨fun c hc hboth => hfree c (List.mem_of_mem_head? hc) hboth.2, ?_⟩
      apply List.Pairwise.isChain
      exact List.pairwise_of_forall_mem_list fun c hc _ _ hboth => hfree c hc hboth.1
    · rintro c hc d - ⟨rfl, -⟩
      exact hlast hc
  head := by
    rw [List.head?_append_of_ne_nil _ hne]
    exact hcut.head

theorem slugify_withSuffix_iff (hbase : Tidy base) (hne : base ≠ []) (suffix : Nat) :
    (withSuffix base suffix).length ≤ MAX_SLUG_LENGTH ∧
        slugify forms (withSuffix base suffix) = withSuffix base suffix ↔
      SuffixFits base suffix := by
  have hcut : cutFor base suffix <+: base := List.take_prefix _ _
  constructor
  · rintro ⟨hlength, hfixed⟩
    have htidy : Tidy (withSuffix base suffix) := hfixed ▸ (tidy_slugify _).1
    rw [withSuffix, List.length_append] at hlength
    have hkept : 0 < (cutFor base suffix).length := by
      rw [List.length_pos_iff]
      intro hnil
      apply htidy.head
      rw [withSuffix, hnil]
      rfl
    refine ⟨by omega, ?_⟩
    intro hlast
    exact (List.isChain_append.mp htidy.chain).2.2 '-' hlast '-' rfl ⟨rfl, rfl⟩
  · rintro ⟨hroom, hlast⟩
    have hlength : (cutFor base suffix).length ≤ MAX_SLUG_LENGTH - (suffixText suffix).length := by
      rw [cutFor, sliceTo, List.length_take]
      omega
    have hkept : cutFor base suffix ≠ [] := by
      intro hnil
      rw [cutFor, sliceTo, List.take_eq_nil_iff] at hnil
      rcases hnil with hzero | hnil
      · omega
      · exact hne hnil
    have htidy := tidy_suffixed (hbase.of_cut hcut) hkept hlast suffix
    have hfits : (withSuffix base suffix).length ≤ MAX_SLUG_LENGTH := by
      rw [withSuffix, List.length_append]
      omega
    refine ⟨hfits, (htidy.slugify_eq_iff hfits).mpr ?_⟩
    rw [List.getLast?_append, suffixText, List.getLast?_cons]
    intro hend
    have hdigits : Nat.toDigits 10 suffix ≠ [] := Nat.toDigits_ne_nil
    rw [List.getLast?_eq_some_getLast hdigits] at hend
    have hdigit := digit_of_mem_toDigits (List.getLast_mem hdigits)
    simp only [Option.getD_some, Option.some_or, Option.some.injEq] at hend
    rw [hend] at hdigit
    cases hdigit

def CandidateFits (base : Text) (number : Nat) : Prop :=
  if number = 1 then base.getLast? ≠ some '-' else SuffixFits base number

theorem slugify_candidate_iff (hbase : slugBase forms memeId seeds = base) (number : Nat) :
    (candidate base number).length ≤ MAX_SLUG_LENGTH ∧
        slugify forms (candidate base number) = candidate base number ↔
      CandidateFits base number := by
  obtain ⟨htidy, hlength, hne⟩ := hbase ▸ tidy_slugBase forms memeId seeds
  unfold candidate CandidateFits
  split
  · rw [htidy.slugify_eq_iff hlength]
    exact and_iff_right hlength
  · exact slugify_withSuffix_iff htidy hne number

theorem candidate_ne_nil (hbase : slugBase forms memeId seeds = base) (number : Nat) :
    candidate base number ≠ [] := by
  unfold candidate
  split
  · exact hbase ▸ (tidy_slugBase forms memeId seeds).2.2
  · exact List.append_ne_nil_of_right_ne_nil _ (List.cons_ne_nil _ _)

structure Allocated (forms : Normalization) (pages : List MemeSeoPage) (memeId : Uuid)
    (slug : Text) : Prop where
  nonempty : slug ≠ []
  length_le : slug.length ≤ MAX_SLUG_LENGTH
  fixed : slugify forms slug = slug
  saved : ∀ tags, ∃ later, savePage pages memeId slug tags = .ok later

/-- The lowest candidate that no other meme has fits, and each lower one begins with the base. -/
def LowestFits (forms : Normalization) (pages : List MemeSeoPage) (memeId : Uuid)
    (seeds : List Text) : Prop :=
  let base := slugBase forms memeId seeds
  ∃ n, 1 ≤ n ∧ candidate base n ∉ takenSlugs pages memeId ∧ CandidateFits base n ∧
    ∀ m, 1 ≤ m → m < n → candidate base m ∈ takenSlugs pages memeId ∧ base <+: candidate base m

theorem savePage_ok_iff {slug : Text} :
    (∀ tags, ∃ later, savePage pages memeId slug tags = .ok later) ↔
      slug ∉ takenSlugs pages memeId := by
  constructor
  · intro hsaved hmem
    obtain ⟨later, hlater⟩ := hsaved []
    rw [savePage, if_pos hmem] at hlater
    cases hlater
  · intro hfree tags
    exact ⟨_, if_neg hfree⟩

theorem allocated_iff (forms : Normalization) (pages : List MemeSeoPage) (memeId : Uuid)
    (seeds : List Text) :
    Allocated forms pages memeId (uniqueSlug forms pages memeId seeds) ↔
      LowestFits forms pages memeId seeds := by
  unfold LowestFits
  generalize hbase : slugBase forms memeId seeds = base
  obtain ⟨n, hn, heq, hout, hlower⟩ := uniqueSlug_cases pages hbase
  rw [heq]
  constructor
  · rintro ⟨-, hlength, hfixed, hsaved⟩
    refine ⟨n, hn, savePage_ok_iff.mp hsaved, ?_, ?_⟩
    · exact (slugify_candidate_iff hbase n).mp ⟨hlength, hfixed⟩
    · exact fun m hm hlt => mem_fetchedSlugs.mp (hlower m hm hlt)
  · rintro ⟨free, hfree, huntaken, hfits, hbelow⟩
    have hsame : n = free := by
      rcases Nat.lt_trichotomy n free with hlt | hsame | hlt
      · exact (hout (mem_fetchedSlugs.mpr (hbelow n hn hlt))).elim
      · exact hsame
      · exact (huntaken (mem_fetchedSlugs.mp (hlower free hfree hlt)).1).elim
    subst hsame
    obtain ⟨hlength, hfixed⟩ := (slugify_candidate_iff hbase n).mpr hfits
    exact ⟨candidate_ne_nil hbase n, hlength, hfixed, savePage_ok_iff.mpr huntaken⟩

theorem uniqueSlug_unchanged {later : List MemeSeoPage} {tags : List String}
    (hbase : slugBase forms memeId seeds = base)
    (hunique : (later.map fun page => page.slug).Nodup)
    (hown : ⟨memeId, String.ofList (uniqueSlug forms pages memeId seeds), tags⟩ ∈ later)
    (htaken : ∀ m, 1 ≤ m → PassedOver pages memeId base (m + 1) →
      candidate base m ∈ takenSlugs later memeId) :
    uniqueSlug forms later memeId seeds = uniqueSlug forms pages memeId seeds := by
  obtain ⟨n, hn, heq, -, hlower⟩ := uniqueSlug_cases pages hbase
  obtain ⟨free, hfree, heqLater, hout, hbelow⟩ := uniqueSlug_cases later hbase
  have hkept : PassedOver later memeId base n := by
    intro m hm hlt
    refine mem_fetchedSlugs.mpr ⟨htaken m hm ?_, (mem_fetchedSlugs.mp (hlower m hm hlt)).2⟩
    exact fun k hk hle => hlower k hk (Nat.lt_of_le_of_lt (Nat.le_of_lt_succ hle) hlt)
  have huntaken : candidate base n ∉ takenSlugs later memeId := by
    intro hmem
    obtain ⟨page, hpage, hslug⟩ := List.mem_map.mp hmem
    obtain ⟨hlater, hother⟩ := List.mem_filter.mp hpage
    have hsame := List.inj_on_of_nodup_map hunique hlater hown
      (by rw [heq, ← hslug, String.ofList_toList])
    rw [hsame] at hother
    simp at hother
  rw [heq, heqLater]
  rcases Nat.lt_trichotomy free n with hlt | rfl | hlt
  · exact (hout (hkept free hfree hlt)).elim
  · rfl
  · exact (huntaken (mem_fetchedSlugs.mp (hbelow n hn hlt)).1).elim

end Candidates

/-- The loop ends with a slug that was not fetched; it is allocated exactly when the lowest free
candidate fits and the lower ones begin with the base; and it is kept while those are taken. -/
theorem slugs_allocated (forms : Normalization) :
    (∀ pages memeId seeds, uniqueSlug forms pages memeId seeds ≠ [] ∧
      uniqueSlug forms pages memeId seeds ∉
        fetchedSlugs pages memeId (slugBase forms memeId seeds) ∧
      (Allocated forms pages memeId (uniqueSlug forms pages memeId seeds) ↔
        LowestFits forms pages memeId seeds)) ∧
    ∀ (pages later : List MemeSeoPage) memeId seeds tags,
      let base := slugBase forms memeId seeds
      (later.map fun page => page.slug).Nodup →
      ⟨memeId, String.ofList (uniqueSlug forms pages memeId seeds), tags⟩ ∈ later →
      (∀ m, 1 ≤ m → PassedOver pages memeId base (m + 1) →
        candidate base m ∈ takenSlugs later memeId) →
      uniqueSlug forms later memeId seeds = uniqueSlug forms pages memeId seeds := by
  refine ⟨?_, fun pages later memeId seeds tags => uniqueSlug_unchanged rfl⟩
  intro pages memeId seeds
  obtain ⟨n, -, heq, hout, -⟩ := uniqueSlug_cases pages (rfl : slugBase forms memeId seeds = _)
  refine ⟨?_, ?_, allocated_iff forms pages memeId seeds⟩
  · rw [heq]
    exact candidate_ne_nil rfl n
  · rw [heq]
    exact hout

def plainForms : Normalization where
  nfkd := id
  nfkd_ascii _ _ := rfl

def letters (count : Nat) : Text := List.replicate count 'a'

/-- A page with the longest slug, and one with that slug cut for its first suffix. -/
def longPages : List MemeSeoPage :=
  [{ memeId := 2, slug := String.ofList (letters 255) },
    { memeId := 3, slug := String.ofList (letters 253 ++ "-2".toList) }]

def takenPage : MemeSeoPage := { memeId := 2, slug := "a" }

theorem slugs_allocated_again :
    uniqueSlug plainForms [takenPage] 1 ["a".toList] = "a-2".toList ∧
      uniqueSlug plainForms [takenPage, { memeId := 1, slug := "a-2" }] 1 ["a".toList] =
        uniqueSlug plainForms [takenPage] 1 ["a".toList] := by
  refine ⟨by decide +kernel, (slugs_allocated plainForms).2 [takenPage]
    [takenPage, { memeId := 1, slug := "a-2" }] 1 ["a".toList] [] (by decide) (by decide +kernel) ?_⟩
  intro m hm hpassed
  exact (mem_fetchedSlugs.mp (hpassed m hm (Nat.lt_succ_self m))).1

def ligatureForms : Normalization where
  nfkd text := text.flatMap fun c => if c = '\ufb01' then ['f', 'i'] else [c]
  nfkd_ascii text h := by
    have hkept : ∀ c ∈ text, (if c = '\ufb01' then ['f', 'i'] else [c]) = [c] := by
      rintro c hc
      refine if_neg ?_
      rintro rfl
      exact absurd (h _ hc) (by decide)
    rw [List.flatMap_congr hkept, List.flatMap_singleton']

/-- A title of 255 characters with a ligature. -/
def longTitle : Text := '\ufb01' :: letters 252 ++ " b".toList

/-- The word of 254 letters leaves its hyphen at the end, and the cut candidate of the longest slug
is another page's. -/
theorem long_titles_fail :
    (slugify ligatureForms (uniqueSlug ligatureForms [] 1 [longTitle]) ≠
      uniqueSlug ligatureForms [] 1 [longTitle]) ∧
    (generateForMemeId ligatureForms longPages 1 { pageTitle := letters 255 } [] none []).toOption =
      none := by
  have htaken : takenSlugs longPages 1 = [letters 255, letters 253 ++ "-2".toList] := by
    simp [takenSlugs, longPages]
  refine ⟨by decide +kernel, ?_⟩
  simp only [generateForMemeId, savePage, uniqueSlug, fetchedSlugs, htaken]
  decide +kernel

end MemeExpert.Services.MemeSeo
