import MemeExpert.Frontend.ScriptText
import MemeExpert.Lib.FormUrlencoded

/-! `parseSearchParams` reads the state of the search page from the query of its address,
and `buildSearchHref` writes an address from the state. -/

namespace MemeExpert.Frontend.SearchParams

open FormUrlencoded (serialize parse)

inductive ContentKind where
  | image | gif | video | text | audio | link
  deriving DecidableEq

def ContentKind.value : ContentKind → Text
  | image => "image".toList
  | gif => "gif".toList
  | video => "video".toList
  | text => "text".toList
  | audio => "audio".toList
  | link => "link".toList

inductive ContentLanguage where
  | en | ru | mixed | none
  deriving DecidableEq

def ContentLanguage.value : ContentLanguage → Text
  | en => "en".toList
  | ru => "ru".toList
  | mixed => "mixed".toList
  | none => "none".toList

inductive MemeSearchScope where
  | «public» | «private» | all | collections
  deriving DecidableEq

def MemeSearchScope.value : MemeSearchScope → Text
  | «public» => "public".toList
  | «private» => "private".toList
  | all => "all".toList
  | collections => "collections".toList

def mediaTypeOptions : List ContentKind := [.image, .gif, .video, .text, .audio, .link]

def languageOptions : List ContentLanguage := [.en, .ru, .mixed, .none]

def searchScopeOptions : List MemeSearchScope := [.public, .private, .all, .collections]

/-- `offset` is a whole number. -/
structure SearchRouteState where
  query : Text
  tags : List Text
  includeNsfw : Bool
  mediaType : Option ContentKind
  language : Option ContentLanguage
  scope : MemeSearchScope
  collectionIds : List Text
  offset : ℕ

variable (table : CaseTable)

/-- Keeps what is new; `tags` is also what was seen. -/
def keepNew (tags : List Text) (tag : Text) : List Text :=
  if tag = [] ∨ tag ∈ tags then tags else tags ++ [tag]

def normalizeWith (clean : Text → Text) (raws : List Text) : List Text :=
  ((raws.flatMap (·.splitOn ',')).map clean).foldl keepNew []

def unmarked (part : Text) : Text := (trim part).dropWhile (· = '#')

def cleanTag (part : Text) : Text := toLowerCase table (unmarked part)

def normalizeTags (rawTags : List Text) : List Text := normalizeWith (cleanTag table) rawTags

def normalizeCollectionIds (rawIds : List Text) : List Text := normalizeWith trim rawIds

abbrev Params := List (Text × Text)

def Params.get (params : Params) (name : String) : Option Text :=
  (params.find? (·.1 = name.toList)).map (·.2)

def Params.getAll (params : Params) (name : String) : List Text :=
  (params.filter (·.1 = name.toList)).map (·.2)

def readBoolean (raw : Option Text) : Bool :=
  raw = some "true".toList ∨ raw = some "1".toList ∨ raw = some "on".toList

def readOffset (raw : Option Text) : ℕ :=
  match parseInt (raw.getD []) with
  | some offset => if 0 < offset then offset.toNat else 0
  | none => 0

def readMediaType (raw : Option Text) : Option ContentKind :=
  mediaTypeOptions.find? fun option => raw = some option.value

def readLanguage (raw : Option Text) : Option ContentLanguage :=
  languageOptions.find? fun option => raw = some option.value

def readScope (raw : Option Text) : MemeSearchScope :=
  (searchScopeOptions.find? fun option => raw = some option.value).getD .public

def rawTags (params : Params) : List Text :=
  params.getAll "tags" ++ params.getAll "category" ++ params.getAll "categories"

def parseSearchParams (params : Params) : SearchRouteState :=
  let scope := readScope (Params.get params "scope")
  { query := trim ((params.get "q").getD [])
    tags := normalizeTags table (rawTags params)
    includeNsfw := readBoolean (params.get "include_nsfw")
    mediaType := readMediaType (params.get "media_type")
    language := readLanguage (params.get "language")
    scope := scope
    collectionIds := if scope = .collections
      then normalizeCollectionIds (Params.getAll params "collection_ids") else []
    offset := readOffset (params.get "offset") }

structure SearchRouteChanges where
  query : Option Text := none
  tags : Option (List Text) := none
  includeNsfw : Option Bool := none
  mediaType : Option (Option ContentKind) := none
  language : Option (Option ContentLanguage) := none
  scope : Option MemeSearchScope := none
  collectionIds : Option (List Text) := none
  offset : Option ℕ := none

def SearchRouteState.change (state : SearchRouteState) (changes : SearchRouteChanges) :
    SearchRouteState where
  query := changes.query.getD state.query
  tags := changes.tags.getD state.tags
  includeNsfw := changes.includeNsfw.getD state.includeNsfw
  mediaType := changes.mediaType.getD state.mediaType
  language := changes.language.getD state.language
  scope := changes.scope.getD state.scope
  collectionIds := changes.collectionIds.getD state.collectionIds
  offset := changes.offset.getD state.offset

def named (name : String) (values : List Text) : Params :=
  values.map fun value => (name.toList, value)

/-- The parameters of an address. No name is set twice, so each `set` appends. -/
def searchParams (next : SearchRouteState) : Params :=
  named "q" (if trim next.query = [] then [] else [trim next.query]) ++
  named "tags" (normalizeTags table next.tags) ++
  named "include_nsfw" [if next.includeNsfw then "true".toList else "false".toList] ++
  named "media_type" (next.mediaType.toList.map (·.value)) ++
  named "language" (next.language.toList.map (·.value)) ++
  named "scope" [next.scope.value] ++
  named "collection_ids"
    (if next.scope = .collections then normalizeCollectionIds next.collectionIds else []) ++
  named "offset" (if 0 < next.offset then [Doubles.toText next.offset] else [])

def buildSearchHref (state : SearchRouteState) (changes : SearchRouteChanges := {}) : Text :=
  let serialized := serialize (searchParams table (state.change changes))
  if serialized = [] then "/search".toList else "/search?".toList ++ serialized

def hrefParams (href : Text) : Params := parse (href.dropWhile (· ≠ '?')).tail

section KeepNew

theorem mem_foldl_keepNew {tag : Text} (cleaned : List Text) : ∀ tags : List Text,
    tag ∈ cleaned.foldl keepNew tags ↔ tag ∈ tags ∨ (tag ∈ cleaned ∧ tag ≠ []) := by
  induction cleaned with
  | nil => simp
  | cons next cleaned ih =>
    intro tags
    rw [List.foldl_cons, ih, keepNew]
    split
    · grind
    · grind

theorem nodup_foldl_keepNew (cleaned : List Text) : ∀ tags : List Text, tags.Nodup →
    (cleaned.foldl keepNew tags).Nodup := by
  induction cleaned with
  | nil => exact fun tags h => h
  | cons next cleaned ih =>
    intro tags h
    rw [List.foldl_cons]
    apply ih
    unfold keepNew
    split
    · exact h
    next hnew =>
    rw [not_or] at hnew
    rw [List.nodup_append]
    exact ⟨h, List.nodup_singleton _, by grind⟩

theorem foldl_keepNew_sublist (cleaned : List Text) : ∀ tags : List Text,
    (cleaned.foldl keepNew tags).Sublist (tags ++ cleaned) := by
  induction cleaned with
  | nil => simp
  | cons next cleaned ih =>
    intro tags
    rw [List.foldl_cons]
    refine (ih _).trans ?_
    unfold keepNew
    split
    · exact List.Sublist.append_left (List.sublist_cons_self _ _) _
    · simp

theorem foldl_keepNew_eq (cleaned : List Text) (hne : [] ∉ cleaned) : ∀ tags : List Text,
    (tags ++ cleaned).Nodup → cleaned.foldl keepNew tags = tags ++ cleaned := by
  induction cleaned with
  | nil => simp
  | cons next cleaned ih =>
    intro tags h
    have hnext : ¬(next = [] ∨ next ∈ tags) := by
      rw [List.nodup_append] at h
      rw [not_or]
      refine ⟨fun hnil => hne (by simp [hnil]), fun hmem => ?_⟩
      exact h.2.2 next hmem next List.mem_cons_self rfl
    rw [List.foldl_cons, keepNew, if_neg hnext,
      ih (fun hmem => hne (List.mem_cons_of_mem _ hmem))]
    · simp
    · simpa using h

end KeepNew

section Normalize

variable {table} {clean : Text → Text} {raws : List Text}

theorem comma_not_mem_splitOn {raw part : Text} (h : part ∈ raw.splitOn ',') : ',' ∉ part := by
  induction raw generalizing part with
  | nil =>
    rw [List.splitOn_nil, List.mem_singleton] at h
    simp [h]
  | cons c raw ih =>
    rw [List.splitOn_cons_eq_if_modifyHead] at h
    split at h
    · rw [List.mem_cons] at h
      obtain rfl | h := h
      · simp
      · exact ih h
    next hc =>
    obtain ⟨first, rest, hsplit⟩ := List.exists_cons_of_ne_nil (List.splitOn_ne_nil ',' raw)
    rw [hsplit, List.modifyHead_cons, List.mem_cons] at h
    obtain rfl | h := h
    · have hfirst := ih (by rw [hsplit]; exact List.mem_cons_self)
      rw [List.mem_cons, not_or]
      exact ⟨fun hcomma => hc (beq_iff_eq.mpr hcomma.symm), hfirst⟩
    · exact ih (by rw [hsplit]; exact List.mem_cons_of_mem _ h)

theorem mem_normalizeWith {tag : Text} :
    tag ∈ normalizeWith clean raws ↔
      (∃ raw ∈ raws, ∃ part ∈ raw.splitOn ',', clean part = tag) ∧ tag ≠ [] := by
  unfold normalizeWith
  rw [mem_foldl_keepNew]
  simp only [List.not_mem_nil, false_or, List.mem_map, List.mem_flatMap]
  grind

section Commas

variable (hcomma : ∀ part, ',' ∉ part → ',' ∉ clean part)

include hcomma

theorem normalizeWith_normalized :
    normalizeWith clean (normalizeWith clean raws) =
      ((normalizeWith clean raws).map clean).foldl keepNew [] := by
  have hone : ∀ tag ∈ normalizeWith clean raws, tag.splitOn ',' = [tag] := by
    intro tag htag
    obtain ⟨⟨raw, -, part, hpart, rfl⟩, -⟩ := mem_normalizeWith.mp htag
    exact List.splitOn_eq_singleton (hcomma part (comma_not_mem_splitOn hpart))
  have hwhole : (normalizeWith clean raws).flatMap (·.splitOn ',') = normalizeWith clean raws := by
    calc (normalizeWith clean raws).flatMap (·.splitOn ',')
        = (normalizeWith clean raws).flatMap fun tag => [tag] := List.flatMap_congr hone
      _ = normalizeWith clean raws := List.flatMap_singleton' _
  conv_lhs => rw [normalizeWith, hwhole]

theorem normalizeWith_sublist :
    (normalizeWith clean (normalizeWith clean raws)).Sublist
      ((normalizeWith clean raws).map clean) := by
  rw [normalizeWith_normalized hcomma]
  exact foldl_keepNew_sublist _ []

theorem normalizeWith_of_clean (hclean : ∀ tag ∈ normalizeWith clean raws, clean tag = tag) :
    normalizeWith clean (normalizeWith clean raws) = normalizeWith clean raws := by
  have hmap : (normalizeWith clean raws).map clean = normalizeWith clean raws := by
    calc (normalizeWith clean raws).map clean
        = (normalizeWith clean raws).map id := List.map_congr_left hclean
      _ = normalizeWith clean raws := List.map_id _
  rw [normalizeWith_normalized hcomma, hmap]
  exact foldl_keepNew_eq _ (fun h => (mem_normalizeWith.mp h).2 rfl) []
    (nodup_foldl_keepNew _ [] List.nodup_nil)

theorem normalizeWith_twice_iff (hshrinks : ∀ part, (clean (clean part)).Sublist (clean part)) :
    normalizeWith clean (normalizeWith clean (normalizeWith clean raws)) =
        normalizeWith clean raws ↔
      ∀ tag ∈ normalizeWith clean raws, clean tag = tag := by
  constructor
  · intro hfixed tag htag
    have hfirst := @normalizeWith_sublist clean raws hcomma
    have hsecond := @normalizeWith_sublist clean (normalizeWith clean raws) hcomma
    rw [hfixed] at hsecond
    have hle := hsecond.length_le
    have hge := hfirst.length_le
    rw [List.length_map] at hle hge
    have honce : normalizeWith clean (normalizeWith clean raws) =
        (normalizeWith clean raws).map clean :=
      hfirst.eq_of_length (by rw [List.length_map]; omega)
    rw [honce, List.map_map] at hsecond
    have htwice := hsecond.eq_of_length (by rw [List.length_map])
    have hself : (normalizeWith clean raws).map (clean ∘ clean) =
        (normalizeWith clean raws).map id := by rw [← htwice, List.map_id]
    have hback : clean (clean tag) = tag := List.map_inj_left.mp hself tag htag
    obtain ⟨⟨-, -, part, -, rfl⟩, -⟩ := mem_normalizeWith.mp htag
    have hlength := (hshrinks (clean part)).length_le
    rw [hback] at hlength
    exact (hshrinks part).eq_of_length (le_antisymm (hshrinks part).length_le hlength)
  · intro hclean
    rw [normalizeWith_of_clean hcomma hclean, normalizeWith_of_clean hcomma hclean]

end Commas

theorem normalizeCollectionIds_fixed (rawIds : List Text) :
    normalizeCollectionIds (normalizeCollectionIds rawIds) = normalizeCollectionIds rawIds := by
  have hcomma : ∀ part, ',' ∉ part → ',' ∉ trim part :=
    fun part hpart hmem => hpart ((trim_sublist part).mem hmem)
  refine normalizeWith_of_clean hcomma ?_
  intro collectionId hmem
  obtain ⟨⟨-, -, part, -, rfl⟩, -⟩ := mem_normalizeWith.mp hmem
  exact trim_trim part

theorem unmarked_sublist (part : Text) : (unmarked part).Sublist part :=
  (List.dropWhile_suffix _).sublist.trans (trim_sublist part)

theorem comma_not_mem_cleanTag {part : Text} (h : ',' ∉ part) : ',' ∉ cleanTag table part :=
  fun hmem => h ((unmarked_sublist part).mem (mark_mem_of_lowerFrom hmem (by decide)))

theorem cleanTag_of_lower {tag : Text} (h : ∀ c ∈ tag, IsLower table c) :
    cleanTag table tag = unmarked tag :=
  lowerFrom_of_isLower (fun c hc => h c ((unmarked_sublist tag).mem hc)) []

theorem cleanTag_cleanTag_sublist (part : Text) :
    (cleanTag table (cleanTag table part)).Sublist (cleanTag table part) := by
  have hlower : ∀ c ∈ cleanTag table part, IsLower table c :=
    fun c hc => isLower_of_mem_lowerFrom hc
  rw [cleanTag_of_lower hlower]
  exact unmarked_sublist _

theorem last_unmarked (part : Text) : ∀ c ∈ (unmarked part).getLast?, isWhiteSpace c = false := by
  intro c hc
  obtain ⟨marks, hmarks⟩ : unmarked part <:+ trim part := List.dropWhile_suffix _
  apply last_trim part
  rw [← hmarks, List.getLast?_append, hc]
  rfl

theorem cleanTag_fixed_iff (part : Text) :
    cleanTag table (cleanTag table part) = cleanTag table part ↔
      ∀ c ∈ (unmarked part).head?, isWhiteSpace c = false := by
  have hlower : ∀ c ∈ cleanTag table part, IsLower table c :=
    fun c hc => isLower_of_mem_lowerFrom hc
  rw [cleanTag_of_lower hlower]
  constructor
  · intro hfixed c hc
    cases hblank : isWhiteSpace c with
    | false => rfl
    | true =>
      have hhead := (@head_lowerFrom table [] (unmarked part) c
        (isMark_of_isWhiteSpace hblank)).mpr hc
      obtain ⟨rest, hrest⟩ := List.head?_eq_some_iff.mp hhead
      have hshorter := @length_trim_lt c rest hblank
      have hle : (unmarked (c :: rest)).length ≤ (trim (c :: rest)).length :=
        (List.dropWhile_suffix _).sublist.length_le
      change unmarked (lowerFrom table [] (unmarked part)) = lowerFrom table [] (unmarked part)
        at hfixed
      rw [hrest] at hfixed
      rw [hfixed] at hle
      omega
  · intro hhead
    have htrimmed : Trimmed (cleanTag table part) := by
      constructor
      · intro c hc
        cases hblank : isWhiteSpace c with
        | false => rfl
        | true =>
          have hsource := (head_lowerFrom [] (unmarked part)
            (isMark_of_isWhiteSpace hblank)).mp hc
          rw [hhead c hsource] at hblank
          cases hblank
      · exact last_lowerFrom (last_unmarked part) []
    rw [unmarked, trim_of_trimmed htrimmed, List.dropWhile_eq_self_iff]
    intro hpos hmark
    have hfirst : (cleanTag table part).head? = some '#' := by
      rw [List.head?_eq_getElem?, List.getElem?_eq_getElem hpos]
      simpa using hmark
    have hsource := (head_lowerFrom [] (unmarked part) (by decide)).mp hfirst
    have hdropped := List.head?_dropWhile_not (· = '#') (trim part)
    rw [unmarked] at hsource
    rw [hsource] at hdropped
    simp at hdropped

end Normalize

section ReadingBack

variable {first second : Params} {name other : String} {values : List Text}

theorem get_append : Params.get (first ++ second) name =
    (Params.get first name).or (Params.get second name) := by
  simp only [Params.get, List.find?_append, Option.map_or]

theorem getAll_append : Params.getAll (first ++ second) name =
    Params.getAll first name ++ Params.getAll second name := by
  simp only [Params.getAll, List.filter_append, List.map_append]

theorem get_named : Params.get (named name values) other =
    if name = other then values.head? else none := by
  cases values with
  | nil => simp [named, Params.get]
  | cons value values =>
    by_cases hname : name = other
    · simp [named, Params.get, hname]
    · simp [named, Params.get, hname, String.toList_inj]

theorem getAll_named : Params.getAll (named name values) other =
    if name = other then values else [] := by
  by_cases hname : name = other
  · simp [named, Params.getAll, hname, List.filter_map, Function.comp_def]
  · simp [named, Params.getAll, hname, List.filter_map, String.toList_inj]

theorem hrefParams_buildSearchHref (state : SearchRouteState) :
    hrefParams (buildSearchHref table state) = searchParams table state := by
  have hchange : state.change {} = state := rfl
  have hnonempty : serialize (searchParams table state) ≠ [] := by
    intro hnil
    have hparams := FormUrlencoded.parse_serialize (searchParams table state)
    have hparse : parse [] = [] := by decide
    rw [hnil, hparse] at hparams
    have hscope := congrArg (Params.get · "scope") hparams
    simp [searchParams, get_append, get_named] at hscope
    simp [Params.get] at hscope
  rw [buildSearchHref, hchange, if_neg hnonempty, hrefParams]
  have hmark : ("/search?".toList ++ serialize (searchParams table state)).dropWhile (· ≠ '?') =
      '?' :: serialize (searchParams table state) := by
    rfl
  rw [hmark, List.tail_cons, FormUrlencoded.parse_serialize]

def canonical (state : SearchRouteState) : SearchRouteState where
  query := trim state.query
  tags := normalizeTags table (normalizeTags table state.tags)
  includeNsfw := state.includeNsfw
  mediaType := state.mediaType
  language := state.language
  scope := state.scope
  collectionIds := if state.scope = .collections
    then normalizeCollectionIds (normalizeCollectionIds state.collectionIds) else []
  offset := if 0 < state.offset then readOffset (some (Doubles.toText state.offset)) else 0

theorem parse_searchParams (state : SearchRouteState) :
    parseSearchParams table (searchParams table state) = canonical table state := by
  have hscope : readScope (some state.scope.value) = state.scope := by
    cases state.scope <;> decide
  have hmediaType : readMediaType (state.mediaType.toList.map (·.value)).head? =
      state.mediaType := by
    cases state.mediaType with
    | none => decide
    | some kind => cases kind <;> decide
  have hlanguage : readLanguage (state.language.toList.map (·.value)).head? =
      state.language := by
    cases state.language with
    | none => decide
    | some language => cases language <;> decide
  have hnsfw : readBoolean (some (if state.includeNsfw then "true".toList else "false".toList)) =
      state.includeNsfw := by
    cases state.includeNsfw <;> decide
  have hquery : trim ((if trim state.query = [] then [] else [trim state.query]).head?.getD []) =
      trim state.query := by
    split
    · next hempty => rw [hempty]; rfl
    · exact trim_trim state.query
  have hoffset : readOffset (if 0 < state.offset then [Doubles.toText state.offset] else []).head? =
      if 0 < state.offset then readOffset (some (Doubles.toText state.offset)) else 0 := by
    split
    · rfl
    · decide
  have hparams : parseSearchParams table (searchParams table state) =
      { query := trim ((if trim state.query = [] then [] else [trim state.query]).head?.getD [])
        tags := normalizeTags table (normalizeTags table state.tags)
        includeNsfw :=
          readBoolean (some (if state.includeNsfw then "true".toList else "false".toList))
        mediaType := readMediaType (state.mediaType.toList.map (·.value)).head?
        language := readLanguage (state.language.toList.map (·.value)).head?
        scope := readScope (some state.scope.value)
        collectionIds := if readScope (some state.scope.value) = .collections
          then normalizeCollectionIds (if state.scope = .collections
            then normalizeCollectionIds state.collectionIds else []) else []
        offset := readOffset
          (if 0 < state.offset then [Doubles.toText state.offset] else []).head? } := by
    simp only [parseSearchParams, searchParams, rawTags, get_append, getAll_append, get_named,
      getAll_named]
    simp
  rw [hparams, hquery, hnsfw, hmediaType, hlanguage, hscope, hoffset, canonical]
  congr 1
  split <;> rfl

end ReadingBack

section Stable

variable {table}

theorem offset_fixed_iff (raw : Option Text) :
    (if 0 < readOffset raw then readOffset (some (Doubles.toText (readOffset raw))) else 0) =
        readOffset raw ↔
      ∀ offset ∈ parseInt (raw.getD []), offset < 10 ^ 21 := by
  cases hread : parseInt (raw.getD []) with
  | none =>
    have hzero : readOffset raw = 0 := by rw [readOffset, hread]
    simp [hzero]
  | some offset =>
    simp only [Option.mem_def, Option.some.injEq, forall_eq']
    obtain hpos | hneg := lt_or_ge 0 offset
    · obtain ⟨n, rfl⟩ := Int.eq_ofNat_of_zero_le hpos.le
      have hvalue : readOffset raw = n := by
        rw [readOffset, hread]
        simp only [if_pos hpos]
        exact Int.toNat_natCast n
      have hn : 0 < n := by omega
      have hdouble := nearest_of_parseInt hread
      rw [hvalue, if_pos hn, readOffset, Option.getD_some]
      obtain hlow | hhigh := lt_or_ge n (10 ^ 21)
      · rw [parseInt_toText hdouble hlow]
        simp only [if_pos hpos, Int.toNat_natCast, true_iff]
        exact_mod_cast hlow
      obtain ⟨d, hd, htext⟩ := parseInt_toText_of_le hdouble hhigh
      rw [htext]
      constructor
      · intro hsame
        simp only [Int.toNat_natCast] at hsame
        split at hsame <;> omega
      · intro hlt
        have hbig : (10 ^ 21 : Int) ≤ (n : Int) := by exact_mod_cast hhigh
        omega
    · have hzero : readOffset raw = 0 := by
        rw [readOffset, hread]
        simp only [if_neg (not_lt.mpr hneg)]
      have hlow : offset < 10 ^ 21 := hneg.trans_lt (by norm_num)
      rw [hzero, if_neg (lt_irrefl 0)]
      exact ⟨fun _ => hlow, fun _ => rfl⟩

variable (table)

def Stable (query : Text) : Prop :=
  let state := parseSearchParams table (parse query)
  let href := buildSearchHref table state
  parseSearchParams table (hrefParams href) = state ∧
    buildSearchHref table (parseSearchParams table (hrefParams href)) = href

/-- An address is stable just when no blank follows the marks of a tag and the offset is below
10 ^ 21, from where on numbers are written with an exponent. -/
theorem stable_iff (query : Text) :
    Stable table query ↔
      (∀ raw ∈ rawTags (parse query), ∀ part ∈ raw.splitOn ',',
        ∀ c ∈ (unmarked part).head?, isWhiteSpace c = false) ∧
      ∀ offset ∈ parseInt ((Params.get (parse query) "offset").getD []), offset < 10 ^ 21 := by
  have hstable : Stable table query ↔
      canonical table (parseSearchParams table (parse query)) =
        parseSearchParams table (parse query) := by
    simp only [Stable, hrefParams_buildSearchHref, parse_searchParams]
    constructor
    · exact fun h => h.1
    · exact fun h => ⟨h, by rw [h]⟩
  generalize parse query = params at *
  have htags : normalizeTags table (normalizeTags table (normalizeTags table (rawTags params))) =
        normalizeTags table (rawTags params) ↔
      ∀ raw ∈ rawTags params, ∀ part ∈ raw.splitOn ',',
        ∀ c ∈ (unmarked part).head?, isWhiteSpace c = false := by
    refine (normalizeWith_twice_iff (fun _ => comma_not_mem_cleanTag)
      cleanTag_cleanTag_sublist).trans ?_
    constructor
    · intro hclean raw hraw part hpart c hc
      have hne : cleanTag table part ≠ [] := by
        intro hnil
        rw [cleanTag, toLowerCase] at hnil
        obtain ⟨rest, hrest⟩ := List.head?_eq_some_iff.mp hc
        rw [hrest, lowerFrom, List.append_eq_nil_iff] at hnil
        exact lowerAt_ne_nil _ _ _ hnil.1
      have hmem := mem_normalizeWith.mpr ⟨⟨raw, hraw, part, hpart, rfl⟩, hne⟩
      exact (cleanTag_fixed_iff part).mp (hclean _ hmem) c hc
    · intro hparts tag htag
      obtain ⟨⟨raw, hraw, part, hpart, rfl⟩, -⟩ := mem_normalizeWith.mp htag
      exact (cleanTag_fixed_iff part).mpr (hparts raw hraw part hpart)
  have hcollections : (if readScope (Params.get params "scope") = .collections then
        normalizeCollectionIds (normalizeCollectionIds
          (if readScope (Params.get params "scope") = .collections
            then normalizeCollectionIds (Params.getAll params "collection_ids") else [])) else []) =
      if readScope (Params.get params "scope") = .collections
        then normalizeCollectionIds (Params.getAll params "collection_ids") else [] := by
    split
    · rw [normalizeCollectionIds_fixed, normalizeCollectionIds_fixed]
    · rfl
  rw [hstable, ← htags, ← offset_fixed_iff]
  simp only [canonical, parseSearchParams, trim_trim, SearchRouteState.mk.injEq, true_and]
  exact and_congr_right' (and_iff_right hcollections)

def sigmaTable : CaseTable where
  lower c := if c = 'Σ' then ['σ'] else [c]
  cased c := c = 'Σ' ∨ c = 'σ' ∨ c = 'ς'
  caseIgnorable _ := false
  lower_ne_nil c := by split <;> simp
  lower_stable c d hd := by
    split at hd
    · rw [List.mem_singleton] at hd
      rw [hd]
      decide
    · next hc =>
      rw [List.mem_singleton] at hd
      rw [hd, if_neg hc]
  lower_sigma := by decide
  lower_finalSigma := by decide
  lower_mark c hc := by
    split
    · next hsigma =>
      rw [hsigma] at hc
      exact absurd hc (by decide)
    · rfl
  mark_of_lower c d hd hmark := by
    split at hd
    · rw [List.mem_singleton] at hd
      rw [hd] at hmark
      exact absurd hmark (by decide)
    · exact (List.mem_singleton.mp hd).symm

/-- The tag of `# cat` is read with its blank at first and without it the next time. -/
theorem not_stable_marked_blank : ¬∀ table query, Stable table query := by
  intro h
  have hstate := (h sigmaTable "tags=%23+cat".toList).1
  have htags := congrArg SearchRouteState.tags hstate
  revert htags
  decide +kernel

end Stable

end MemeExpert.Frontend.SearchParams
