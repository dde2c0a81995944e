import Mathlib.Algebra.Order.Field.Rat
import MemeExpert.Lib.Accounts
import MemeExpert.Models.Rows

/-! Hits of the two indexes are collected by the identifier they carry, the memes of the
files are looked up, and the candidates are kept by meme. -/

namespace MemeExpert.Services.SearchCandidates

inductive HitField where
  | absent
  | unreadable
  | uuid (id : Uuid)

def parseUuid : HitField → Option Uuid
  | .uuid id => some id
  | _ => none

/-- `first or second`. -/
def HitField.orElse : HitField → HitField → HitField
  | .absent, second => second
  | first, _ => first

section Hits

variable (K : Type) [Field K] [LinearOrder K]

/-- A hit of the text index; `scores` are the values under the score keys, in their order. -/
structure TextHit where
  memeId : HitField := .absent
  id : HitField := .absent
  memeFileId : HitField := .absent
  scores : List (Option K) := []

structure QdrantUserSearchMatch where
  memeFileId : Uuid
  memeId : Uuid
  semanticScore : K
  nonneg : 0 ≤ semanticScore

structure CandidateScore where
  memeId : Option Uuid := none
  memeFileId : Option Uuid := none
  semanticRaw : K := 0
  textRaw : K := 0
  deriving DecidableEq

inductive IndexHit where
  | text (rank : Nat) (hit : TextHit K)
  | semantic (hit : QdrantUserSearchMatch K)

end Hits

section Collation

variable {K : Type} [Field K] [LinearOrder K]

def candidateKeyFromHit (hit : TextHit K) : Option Uuid := parseUuid (hit.memeId.orElse hit.id)

def textFileOf (hit : TextHit K) : Option Uuid := parseUuid (hit.id.orElse hit.memeFileId)

def setCandidateIds (candidate : CandidateScore K) (hit : TextHit K) : CandidateScore K :=
  { candidate with
    memeId := candidate.memeId.or (parseUuid hit.memeId)
    memeFileId := candidate.memeFileId.or (textFileOf hit) }

def textScoreFromHit (hit : TextHit K) (rank : Nat) : K :=
  match hit.scores.findSome? id with
  | some rawScore => max 0 rawScore
  | none => 1 / max 1 rank

/-- `candidates.setdefault(key, ...)` and what a hit changes of the candidate. -/
def candidateLedger (K : Type) [Field K] [LinearOrder K] :
    Accounts.Ledger (Uuid × CandidateScore K) Uuid (IndexHit K) where
  key := Prod.fst
  opened
    | key, .text _ _ => (key, {})
    | key, .semantic hit => (key, { memeId := some hit.memeId })
  credit
    | (key, candidate), .text rank hit =>
      (key, { setCandidateIds candidate hit with
        textRaw := max candidate.textRaw (textScoreFromHit hit rank) })
    | (key, candidate), .semantic hit =>
      (key, { candidate with
        memeFileId := some hit.memeFileId
        semanticRaw := max candidate.semanticRaw hit.semanticScore })
  key_opened _ entry := by cases entry <;> rfl
  key_credit _ entry := by cases entry <;> rfl

def collectIndexCandidates (textHits : List (TextHit K))
    (semanticHits : List (QdrantUserSearchMatch K)) : List (Uuid × CandidateScore K) :=
  let candidates := (textHits.zipIdx 1).foldl (fun candidates (hit, rank) =>
    match candidateKeyFromHit hit with
    | none => candidates
    | some key => Accounts.enter (candidateLedger K) candidates (key, .text rank hit)) []
  semanticHits.foldl (fun candidates hit =>
    Accounts.enter (candidateLedger K) candidates (hit.memeId, .semantic hit)) candidates

variable (files : Uuid → Option Uuid) (visible : Uuid → Bool)

def resolveMissingMemeId (candidate : CandidateScore K) : CandidateScore K :=
  match candidate.memeId, candidate.memeFileId with
  | none, some fileId => { candidate with memeId := files fileId }
  | _, _ => candidate

def resolveMissingMemeIds (candidates : List (Uuid × CandidateScore K)) :
    List (Uuid × CandidateScore K) :=
  candidates.map fun entry => (entry.1, resolveMissingMemeId files entry.2)

/-- `{score.meme_id: score for score in candidates.values() if score.meme_id is not None}`. -/
def byMeme (candidates : List (Uuid × CandidateScore K)) : List (Uuid × CandidateScore K) :=
  (candidates.filterMap fun entry => entry.2.memeId.map fun memeId => (memeId, entry.2)).foldl
    (Accounts.enter (Accounts.replacing Uuid (CandidateScore K))) []

def visibleScores (textHits : List (TextHit K)) (semanticHits : List (QdrantUserSearchMatch K)) :
    List (Uuid × CandidateScore K) :=
  (byMeme (resolveMissingMemeIds files (collectIndexCandidates textHits semanticHits))).filter
    fun entry => visible entry.1

def greatest (scores : List K) : K := scores.foldl max 0

def TextHit.BelongsTo (hit : TextHit K) (memeId : Uuid) : Prop :=
  parseUuid hit.memeId = some memeId ∨ (textFileOf hit).bind files = some memeId

def QdrantUserSearchMatch.BelongsTo (hit : QdrantUserSearchMatch K) (memeId : Uuid) : Prop :=
  hit.memeId = memeId ∨ files hit.memeFileId = some memeId

instance (hit : TextHit K) (memeId : Uuid) : Decidable (hit.BelongsTo files memeId) :=
  inferInstanceAs (Decidable (_ ∨ _))

instance (hit : QdrantUserSearchMatch K) (memeId : Uuid) : Decidable (hit.BelongsTo files memeId) :=
  inferInstanceAs (Decidable (_ ∨ _))

def textScores (textHits : List (TextHit K)) (condition : TextHit K → Bool) : List K :=
  ((textHits.zipIdx 1).filter fun entry => condition entry.1).map fun entry =>
    textScoreFromHit entry.1 entry.2

def semanticScores (semanticHits : List (QdrantUserSearchMatch K))
    (condition : QdrantUserSearchMatch K → Bool) : List K :=
  (semanticHits.filter condition).map QdrantUserSearchMatch.semanticScore

def IsCollated (textHits : List (TextHit K)) (semanticHits : List (QdrantUserSearchMatch K))
    (memeId : Uuid) : Prop :=
  ∃ candidate, (visibleScores files visible textHits semanticHits).filter (·.1 = memeId) =
      [(memeId, candidate)] ∧
    candidate.textRaw = greatest (textScores textHits fun hit => hit.BelongsTo files memeId) ∧
    candidate.semanticRaw =
      greatest (semanticScores semanticHits fun hit => hit.BelongsTo files memeId)

def HasHit (textHits : List (TextHit K)) (semanticHits : List (QdrantUserSearchMatch K))
    (memeId : Uuid) : Prop :=
  (∃ hit ∈ textHits, hit.BelongsTo files memeId) ∨
    ∃ hit ∈ semanticHits, hit.BelongsTo files memeId

def LosesNoScore (textHits : List (TextHit K)) (semanticHits : List (QdrantUserSearchMatch K)) :
    Prop :=
  ∀ memeId, visible memeId = true → HasHit files textHits semanticHits memeId →
    IsCollated files visible textHits semanticHits memeId

def hitKeys (textHits : List (TextHit K)) (semanticHits : List (QdrantUserSearchMatch K)) :
    List Uuid :=
  Accounts.firsts (textHits.filterMap candidateKeyFromHit ++
    semanticHits.map QdrantUserSearchMatch.memeId)

def memeOfKey (textHits : List (TextHit K)) (semanticHits : List (QdrantUserSearchMatch K))
    (key : Uuid) : Option Uuid :=
  let kept := textHits.filter fun hit => candidateKeyFromHit hit = some key
  if kept = [] ∨ kept.any fun hit => parseUuid hit.memeId = some key then some key
  else
    files (((semanticHits.filter fun hit => hit.memeId = key).getLast?.map
      QdrantUserSearchMatch.memeFileId).getD key)

def lastKey (textHits : List (TextHit K)) (semanticHits : List (QdrantUserSearchMatch K))
    (memeId : Uuid) : Option Uuid :=
  ((hitKeys textHits semanticHits).filter fun key =>
    memeOfKey files textHits semanticHits key = some memeId).getLast?

def SameBest (first second : List K) : Prop :=
  (∀ score ∈ first, 0 < score → ∃ other ∈ second, score ≤ other) ∧
    ∀ score ∈ second, 0 < score → ∃ other ∈ first, score ≤ other

def LastKeyIsBest (textHits : List (TextHit K)) (semanticHits : List (QdrantUserSearchMatch K))
    (memeId : Uuid) : Prop :=
  ∃ key, lastKey files textHits semanticHits memeId = some key ∧
    SameBest (textScores textHits fun hit => candidateKeyFromHit hit = some key)
      (textScores textHits fun hit => hit.BelongsTo files memeId) ∧
    SameBest (semanticScores semanticHits fun hit => hit.memeId = key)
      (semanticScores semanticHits fun hit => hit.BelongsTo files memeId)

end Collation

end MemeExpert.Services.SearchCandidates
