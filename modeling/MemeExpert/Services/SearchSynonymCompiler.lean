import Mathlib.Data.List.Infix
import Mathlib.Algebra.Order.Ring.Nat
import Mathlib.Data.Char
import Mathlib.Data.List.Dedup
import Mathlib.Data.List.DropRight
import Mathlib.Data.List.Lex
import Mathlib.Data.List.Sort
import MemeExpert.Models.Session

/-! A source text has one group of terms a line. -/

namespace MemeExpert

inductive SearchSynonymLocale where
  | en | ru
  deriving DecidableEq

def SearchSynonymLocale.value : SearchSynonymLocale → String
  | .en => "en"
  | .ru => "ru"

/-- A string by its code points. -/
abbrev Text := List Char

theorem lawfulBEq_text : LawfulBEq Text := inferInstance

abbrev SynonymMap := List (Text × List Text)

structure TextRuntime where
  nfkc : Text → Text
  casefold : Text → Text
  isAlnum : Char → Bool
  unicodeName : Char → Text
  /-- The digest of the UTF-8 encoding. -/
  sha256Hex : Text → String

namespace Services

def isLineBreak (c : Char) : Bool :=
  c ∈ ['\n', '\x0b', '\x0c', '\r', '\x1c', '\x1d', '\x1e', '\u0085', '\u2028', '\u2029']

def splitLinesFrom (line : Text) : Text → List Text
  | [] => if line = [] then [] else [line.reverse]
  | '\r' :: '\n' :: rest => line.reverse :: splitLinesFrom [] rest
  | c :: rest =>
    if isLineBreak c then line.reverse :: splitLinesFrom [] rest
    else splitLinesFrom (c :: line) rest

def splitLines (text : Text) : List Text := splitLinesFrom [] text

def stripText (text : Text) : Text := (text.dropWhile isSpace).rdropWhile isSpace

/-- `re.sub(r"\s+", " ", text)`; `inSpace` is set inside a run of whitespace. -/
def collapseWhitespaceFrom (inSpace : Bool) : Text → Text
  | [] => []
  | c :: rest =>
    if isSpace c then
      if inSpace then collapseWhitespaceFrom true rest else ' ' :: collapseWhitespaceFrom true rest
    else c :: collapseWhitespaceFrom false rest

def collapseWhitespace (text : Text) : Text := collapseWhitespaceFrom false text

def sortedSet (terms : List Text) : List Text := terms.dedup.insertionSort (· ≤ ·)

def keysOf (synonyms : SynonymMap) : List Text := synonyms.map Prod.fst

/-- `synonyms[key] = targets`. -/
def setItem (synonyms : SynonymMap) (key : Text) (targets : List Text) : SynonymMap :=
  if synonyms.any fun entry => entry.1 = key then
    synonyms.map fun entry => if entry.1 = key then (key, targets) else entry
  else synonyms ++ [(key, targets)]

def sortedByKey (synonyms : SynonymMap) : SynonymMap :=
  synonyms.insertionSort fun first second => first.1 ≤ second.1

def canonicalizeSynonymMap (synonyms : SynonymMap) : SynonymMap :=
  sortedByKey (synonyms.map fun entry => (entry.1, sortedSet entry.2))

def jsonChar (c : Char) : Text :=
  if c = '"' then ['\\', '"']
  else if c = '\\' then ['\\', '\\']
  else if c = '\n' then ['\\', 'n']
  else if c = '\r' then ['\\', 'r']
  else if c = '\t' then ['\\', 't']
  else if c = '\x0c' then ['\\', 'f']
  else if c = '\x08' then ['\\', 'b']
  else if c.toNat < 0x20 then
    ['\\', 'u', '0', '0', Nat.digitChar (c.toNat / 16), Nat.digitChar (c.toNat % 16)]
  else [c]

def jsonString (text : Text) : Text := ['"'] ++ text.flatMap jsonChar ++ ['"']

def jsonArray (items : List Text) : Text :=
  ['['] ++ [','].intercalate (items.map jsonString) ++ [']']

def jsonObject (entries : List (Text × Text)) : Text :=
  ['\x7b'] ++ [','].intercalate (entries.map fun entry => jsonString entry.1 ++ [':'] ++ entry.2) ++
    ['\x7d']

def jsonSynonyms (synonyms : SynonymMap) : Text :=
  jsonObject ((canonicalizeSynonymMap synonyms).map fun entry => (entry.1, jsonArray entry.2))

def SEARCH_SYNONYM_COMPILER_VERSION : String := "meili_synonyms_v1"

section Hashes

variable (runtime : TextRuntime)

def hashSynonymMap (synonyms : SynonymMap) : String × Nat :=
  let payload := jsonSynonyms synonyms
  (runtime.sha256Hex payload, (payload.map Char.utf8Size).sum)

def hashCompiledSynonymSnapshot (synonyms : SynonymMap) : String :=
  runtime.sha256Hex <| jsonObject
    [("compiler_version".toList, jsonString SEARCH_SYNONYM_COMPILER_VERSION.toList),
      ("synonyms".toList, jsonSynonyms synonyms)]

end Hashes

def MAX_TERM_LENGTH : Nat := 255
def MAX_KEY_TOKENS : Nat := 3
def MAX_TARGETS_PER_KEY : Nat := 50
def MAX_TARGET_WORDS_PER_KEY : Nat := 100

inductive SynonymIssueLevel where
  | error | warning
  deriving DecidableEq

def SynonymIssueLevel.value : SynonymIssueLevel → String
  | .error => "error"
  | .warning => "warning"

structure SynonymValidationIssue where
  level : SynonymIssueLevel
  code : String
  message : String
  lineNumber : Option Nat := none
  term : Option Text := none

section Terms

variable (runtime : TextRuntime)

def normalizeSynonymTerm (value : Text) : Text :=
  stripText (collapseWhitespace (runtime.nfkc (runtime.casefold (runtime.nfkc value))))

inductive WordScan where
  | outside | inWord | afterApostrophe

def countTokensFrom : WordScan → Text → Nat
  | _, [] => 0
  | scan, c :: rest =>
    if runtime.isAlnum c then
      match scan with
      | .outside => countTokensFrom .inWord rest + 1
      | _ => countTokensFrom .inWord rest
    else if c = '\'' ∨ c = '’' then
      match scan with
      | .inWord => countTokensFrom .afterApostrophe rest
      | _ => countTokensFrom .outside rest
    else countTokensFrom .outside rest

def countSynonymTokens (value : Text) : Nat := countTokensFrom runtime .outside value

def containsDisallowedScript (value : Text) (locale : SearchSynonymLocale) : Bool :=
  let disallowedScript := match locale with
    | .en => "CYRILLIC".toList
    | .ru => "LATIN".toList
  value.any fun c => decide (disallowedScript <:+: runtime.unicodeName c)

end Terms

structure SourceScan where
  issues : List SynonymValidationIssue := []
  seenTerms : List (Text × Nat) := []
  groups : List (Nat × List (Text × Nat)) := []
  nonblankLineCount : Nat := 0
  termCount : Nat := 0

def SourceScan.reject (scan : SourceScan) (lineNumber : Nat) (code message : String)
    (term : Option Text) : SourceScan :=
  { scan with issues := scan.issues ++ [⟨.error, code, message, some lineNumber, term⟩] }

section Lines

variable (runtime : TextRuntime) (locale : SearchSynonymLocale)

def wrongScriptMessage : String :=
  match locale with
  | .en => "The EN catalog cannot contain Cyrillic letters."
  | .ru => "The RU catalog cannot contain Latin letters."

def scanNormalizedTerm (lineNumber : Nat) (scan : SourceScan) (normalized : Text) :
    SourceScan × Option (Text × Nat) :=
  let tokenCount := countSynonymTokens runtime normalized
  if MAX_TERM_LENGTH < normalized.length then
    (scan.reject lineNumber "term_too_long"
      s!"Terms must be at most {MAX_TERM_LENGTH} characters after normalization."
      (some normalized), none)
  else if containsDisallowedScript runtime normalized locale then
    (scan.reject lineNumber "wrong_script" (wrongScriptMessage locale) (some normalized), none)
  else if tokenCount = 0 then
    (scan.reject lineNumber "term_requires_word"
      "Each term must contain at least one word token." (some normalized), none)
  else
    match scan.seenTerms.lookup normalized with
    | some previousLine =>
      (scan.reject lineNumber "duplicate_term"
        s!"Normalized terms must be globally unique; first used on line {previousLine}."
        (some normalized), none)
    | none =>
      ({ scan with seenTerms := scan.seenTerms ++ [(normalized, lineNumber)] },
        some (normalized, tokenCount))

def scanTerm (lineNumber : Nat) (scan : SourceScan) (rawTerm : Text) :
    SourceScan × Option (Text × Nat) :=
  let stripped := stripText rawTerm
  if stripped = [] then
    (scan.reject lineNumber "empty_term" "Synonym terms cannot be empty." none, none)
  else
    let normalized := normalizeSynonymTerm runtime stripped
    let counted := { scan with termCount := scan.termCount + 1 }
    if normalized = [] then
      (counted.reject lineNumber "empty_normalized_term"
        "The term is empty after Unicode and whitespace normalization." (some stripped), none)
    else scanNormalizedTerm runtime locale lineNumber counted normalized

def scanTerms (lineNumber : Nat) : SourceScan → List Text → SourceScan × List (Text × Nat)
  | scan, [] => (scan, [])
  | scan, rawTerm :: rest =>
    let scanned := scanTerm runtime locale lineNumber scan rawTerm
    let others := scanTerms lineNumber scanned.1 rest
    (others.1, scanned.2.toList ++ others.2)

def scanLine (lineNumber : Nat) (scan : SourceScan) (rawLine : Text) : SourceScan :=
  if stripText rawLine = [] then scan
  else
    let rawTerms := rawLine.splitOn ','
    let counted := { scan with nonblankLineCount := scan.nonblankLineCount + 1 }
    let opened :=
      if rawTerms.length < 2 then
        counted.reject lineNumber "group_requires_two_terms"
          "Each nonblank line must contain at least two comma-separated terms." none
      else counted
    let scanned := scanTerms runtime locale lineNumber opened rawTerms
    if 2 ≤ scanned.2.length then
      { scanned.1 with groups := scanned.1.groups ++ [(lineNumber, scanned.2)] }
    else scanned.1

def scanLines : Nat → SourceScan → List Text → SourceScan
  | _, scan, [] => scan
  | lineNumber, scan, rawLine :: rest =>
    scanLines (lineNumber + 1) (scanLine runtime locale lineNumber scan rawLine) rest

end Lines

structure GroupExpansion where
  compiled : SynonymMap := []
  issues : List SynonymValidationIssue := []
  targetOnlyTermCount : Nat := 0

def GroupExpansion.report (expansion : GroupExpansion) (issue : SynonymValidationIssue) :
    GroupExpansion :=
  { expansion with issues := expansion.issues ++ [issue] }

section Groups

variable (runtime : TextRuntime)

def expandKey (lineNumber : Nat) (terms : List (Text × Nat)) (expansion : GroupExpansion)
    (key : Text) : GroupExpansion :=
  let targets := ((terms.map Prod.fst).filter (· ≠ key)).insertionSort (· ≤ ·)
  let counted :=
    if MAX_TARGETS_PER_KEY < targets.length then
      expansion.report ⟨.error, "too_many_targets",
        s!"A synonym key can have at most {MAX_TARGETS_PER_KEY} targets.", some lineNumber, some key⟩
    else expansion
  let measured :=
    if MAX_TARGET_WORDS_PER_KEY < (targets.map (countSynonymTokens runtime)).sum then
      counted.report ⟨.error, "too_many_target_words",
        s!"A synonym key can have at most {MAX_TARGET_WORDS_PER_KEY} words across all targets.",
        some lineNumber, some key⟩
    else counted
  { measured with compiled := setItem measured.compiled key targets }

def targetOnlyIssue (lineNumber : Nat) (term : Text) (tokenCount : Nat) :
    SynonymValidationIssue where
  level := .warning
  code := "target_only_term"
  message :=
    s!"Meilisearch 1.47 only activates keys with at most {MAX_KEY_TOKENS} tokens; " ++
      s!"this {tokenCount}-token term will be a target only."
  lineNumber := some lineNumber
  term := some term

def expandGroup (expansion : GroupExpansion) (group : Nat × List (Text × Nat)) : GroupExpansion :=
  let eligibleKeys := group.2.filter fun term => term.2 ≤ MAX_KEY_TOKENS
  let targetOnlyTerms := group.2.filter fun term => MAX_KEY_TOKENS < term.2
  let warned :=
    { expansion with
      targetOnlyTermCount := expansion.targetOnlyTermCount + targetOnlyTerms.length
      issues := expansion.issues ++
        targetOnlyTerms.map fun term => targetOnlyIssue group.1 term.1 term.2 }
  if eligibleKeys = [] then
    warned.report ⟨.warning, "inactive_group_no_eligible_key",
      s!"This group has no term with at most {MAX_KEY_TOKENS} tokens and will be " ++
        "inactive in Meilisearch 1.47.", some group.1, none⟩
  else (eligibleKeys.map Prod.fst).foldl (expandKey runtime group.1 group.2) warned

end Groups

structure SynonymStats where
  groupCount : Nat
  termCount : Nat
  compiledKeyCount : Nat
  edgeCount : Nat
  targetOnlyTermCount : Nat
  payloadBytes : Nat
  errorCount : Nat
  warningCount : Nat

structure SynonymValidation where
  valid : Bool
  issues : List SynonymValidationIssue

structure SearchSynonymCompileResult where
  compiledSynonyms : SynonymMap
  compilerVersion : String
  compiledHash : String
  validation : SynonymValidation
  stats : SynonymStats

def SearchSynonymCompileResult.valid (result : SearchSynonymCompileResult) : Bool :=
  result.validation.valid

def compareIssues (first second : SynonymValidationIssue) : Ordering :=
  (compare (first.lineNumber.getD 0) (second.lineNumber.getD 0)).then <|
    (compare (first.term.getD []) (second.term.getD [])).then <|
      (compare first.level.value second.level.value).then (compare first.code second.code)

def catalogRequiresCompiledKey : SynonymValidationIssue where
  level := .error
  code := "catalog_requires_compiled_key"
  message := "A published synonym catalog must compile at least one active key."

def compileSearchSynonyms (runtime : TextRuntime) (sourceText : Text)
    (locale : SearchSynonymLocale) : SearchSynonymCompileResult :=
  let scan := scanLines runtime locale 1 {} (splitLines sourceText)
  let expansion := scan.groups.foldl (expandGroup runtime) { issues := scan.issues }
  let canonical := canonicalizeSynonymMap expansion.compiled
  let issues :=
    if canonical = [] then expansion.issues ++ [catalogRequiresCompiledKey] else expansion.issues
  let orderedIssues := issues.insertionSort fun first second => (compareIssues first second).isLE
  let errorCount := orderedIssues.countP (·.level = .error)
  { compiledSynonyms := canonical
    compilerVersion := SEARCH_SYNONYM_COMPILER_VERSION
    compiledHash := hashCompiledSynonymSnapshot runtime canonical
    validation := ⟨errorCount = 0, orderedIssues⟩
    stats :=
      { groupCount := scan.nonblankLineCount
        termCount := scan.termCount
        compiledKeyCount := canonical.length
        edgeCount := (canonical.map fun entry => entry.2.length).sum
        targetOnlyTermCount := expansion.targetOnlyTermCount
        payloadBytes := (hashSynonymMap runtime canonical).2
        errorCount := errorCount
        warningCount := orderedIssues.countP (·.level = .warning) } }

section Valid

variable {runtime : TextRuntime} {sourceText : Text} {locale : SearchSynonymLocale}

end Valid

end Services

end MemeExpert
