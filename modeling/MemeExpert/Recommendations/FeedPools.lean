import MemeExpert.Lib.IsoDates
import MemeExpert.Recommendations.FeedCodecs

/-! A frozen pool is kept in Redis as JSON. What the constructors of Python make of values
of other kinds than the encoder writes is a parameter. -/

namespace MemeExpert.Recommendations.FeedWire

open IsoDates (Stamp)
open Json

structure CandidateContribution (φ : Type) where
  source : CandidateSource
  sourceKey : Text
  rank : Int
  sourceScore : φ
  rrfContribution : φ

/-- A dictionary, listed in the order of its keys: two of them are equal in whatever order their
keys were set. -/
structure Scores (φ : Type) where
  pairs : List (Text × φ)
  sorted : pairs.Pairwise fun a b => a.1 ≤ b.1
  nodup : (pairs.map (·.1)).Nodup

structure CachedFeedCandidate (φ : Type) where
  memeId : UUID
  score : φ
  scoreComponents : Scores φ
  contributions : List (CandidateContribution φ)
  reason : Text
  isExploration : Bool := false

structure FrozenFeedPool (φ : Type) where
  poolId : UUID
  requestId : Text
  viewerKey : Text
  filterKey : Text
  algorithmVersion : Text
  profileVersion : Option Text
  candidates : List (CachedFeedCandidate φ)
  createdAt : Stamp
  expiresAt : Stamp

structure Readings (φ : Type) where
  strOf : Value φ → Text
  floatOf : Value φ → Option φ
  intOf : Value φ → Option Int
  uuidOf : Text → Option UUID
  stampOf : Text → Option Stamp
  truth : φ → Bool
  isOne : φ → Bool

section Conversions

variable {φ : Type} (readings : Readings φ)

def Readings.str : Value φ → Text
  | .string text => text
  | value => readings.strOf value

def Readings.float : Value φ → Option φ
  | .float x => some x
  | value => readings.floatOf value

def Readings.int : Value φ → Option Int
  | .int n => some n
  | value => readings.intOf value

def Readings.uuid : Value φ → Option UUID
  | .string text => UUID.ofText readings.uuidOf text
  | _ => none

def Readings.stamp : Value φ → Option Stamp
  | .string text => IsoDates.fromisoformat readings.stampOf text
  | _ => none

def Readings.bool : Value φ → Bool
  | .null => false
  | .bool b => b
  | .int n => n ≠ 0
  | .float x => readings.truth x
  | .string text => text ≠ []
  | .array items => !items.isEmpty
  | .object members => !members.isEmpty

def Readings.equalsOne : Value φ → Bool
  | .bool b => b
  | .int n => n = 1
  | .float x => readings.isOne x
  | _ => false

end Conversions

def iterated {φ : Type} : Value φ → Option (List (Value φ))
  | .array items => some items
  | .string text => some (text.map fun c => .string [c])
  | .object members => some ((dictItems members).map fun member => .string member.1)
  | _ => none

def CandidateSource.all : List CandidateSource :=
  [.shortTerm, .currentIntent, .longTermGlobal, .longTermCluster, .multiPositive, .trending,
    .exploration]

def CandidateSource.ofValue {φ : Type} : Value φ → Option CandidateSource
  | .string text => all.find? fun source => source.value.toList = text
  | _ => none

section Scores

variable {φ ψ : Type}

instance : Std.Total fun a b : Text × φ => a.1 ≤ b.1 := ⟨fun a b => le_total a.1 b.1⟩

instance : IsTrans (Text × φ) fun a b => a.1 ≤ b.1 := ⟨fun _ _ _ hab hbc => le_trans hab hbc⟩

def Scores.ofPairs (pairs : List (Text × φ)) (h : (pairs.map (·.1)).Nodup) : Scores φ where
  pairs := pairs.insertionSort fun a b => a.1 ≤ b.1
  sorted := List.pairwise_insertionSort _ pairs
  nodup := (((List.perm_insertionSort _ pairs).map _).nodup_iff).mpr h

theorem Scores.ofPairs_pairs (scores : Scores φ) :
    Scores.ofPairs scores.pairs scores.nodup = scores := by
  have hsorted : scores.pairs.insertionSort (fun a b => a.1 ≤ b.1) = scores.pairs :=
    scores.sorted.insertionSort_eq
  obtain ⟨pairs, sorted, nodup⟩ := scores
  simp only [Scores.ofPairs, hsorted]

def readPairs (read : ψ → Option φ) (pairs : List (Text × ψ)) : Option (List (Text × φ)) :=
  pairs.mapM fun pair => (read pair.2).map fun x => (pair.1, x)

theorem keys_readPairs {read : ψ → Option φ} {pairs : List (Text × ψ)} {found : List (Text × φ)}
    (h : readPairs read pairs = some found) : found.map (·.1) = pairs.map (·.1) := by
  induction pairs generalizing found with
  | nil =>
    cases h
    rfl
  | cons pair pairs ih =>
    rw [readPairs, List.mapM_cons] at h
    obtain ⟨first, hfirst, h⟩ := Option.bind_eq_some_iff.mp h
    obtain ⟨others, hothers, h⟩ := Option.bind_eq_some_iff.mp h
    obtain ⟨x, -, rfl⟩ := Option.map_eq_some_iff.mp hfirst
    cases h
    rw [List.map_cons, List.map_cons, ih hothers]

/-- `scores.items()`, each value read as a float. -/
def Scores.read (readings : Readings φ) : Value φ → Option (Scores φ)
  | .object members =>
    match h : readPairs readings.float (dictItems members) with
    | some pairs => some (Scores.ofPairs pairs ((keys_readPairs h).symm ▸ nodup_dictItems members))
    | none => none
  | _ => none

def Scores.payload (scores : Scores φ) : Value φ :=
  .object (scores.pairs.map fun pair => (pair.1, .float pair.2))

variable (floats : Floats φ) (readings : Readings φ)

def CandidateContribution.members (contribution : CandidateContribution φ) :
    List (Text × Value φ) :=
  [("source".toList, .string contribution.source.value.toList),
    ("source_key".toList, .string contribution.sourceKey),
    ("rank".toList, .int contribution.rank),
    ("source_score".toList, .float contribution.sourceScore),
    ("rrf_contribution".toList, .float contribution.rrfContribution)]

def CandidateContribution.payload (contribution : CandidateContribution φ) : Value φ :=
  .object contribution.members

def CachedFeedCandidate.members (candidate : CachedFeedCandidate φ) : List (Text × Value φ) :=
  [("meme_id".toList, .string candidate.memeId.str),
    ("score".toList, .float candidate.score),
    ("score_components".toList, candidate.scoreComponents.payload),
    ("reason".toList, .string candidate.reason),
    ("is_exploration".toList, .bool candidate.isExploration),
    ("contributions".toList,
      .array (candidate.contributions.map CandidateContribution.payload))]

def CachedFeedCandidate.payload (candidate : CachedFeedCandidate φ) : Value φ :=
  .object candidate.members

def FrozenFeedPool.members (pool : FrozenFeedPool φ) : List (Text × Value φ) :=
  [("v".toList, .int 1),
    ("pool_id".toList, .string pool.poolId.str),
    ("request_id".toList, .string pool.requestId),
    ("viewer_key".toList, .string pool.viewerKey),
    ("filter_key".toList, .string pool.filterKey),
    ("algorithm_version".toList, .string pool.algorithmVersion),
    ("profile_version".toList, pool.profileVersion.elim .null .string),
    ("created_at".toList, .string pool.createdAt.isoformat),
    ("expires_at".toList, .string pool.expiresAt.isoformat),
    ("candidates".toList, .array (pool.candidates.map CachedFeedCandidate.payload))]

def FrozenFeedPool.payload (pool : FrozenFeedPool φ) : Value φ := .object pool.members

def encodePool (pool : FrozenFeedPool φ) : Text := dumps floats pool.payload

def decodeContribution (raw : Value φ) : Option (CandidateContribution φ) := do
  let source ← (raw.get? "source".toList).bind CandidateSource.ofValue
  let sourceKey ← (raw.get? "source_key".toList).map readings.str
  let rank ← (raw.get? "rank".toList).bind readings.int
  let sourceScore ← (raw.get? "source_score".toList).bind readings.float
  let rrfContribution ← (raw.get? "rrf_contribution".toList).bind readings.float
  pure ⟨source, sourceKey, rank, sourceScore, rrfContribution⟩

def decodeCandidate (raw : Value φ) : Option (CachedFeedCandidate φ) := do
  let rawContributions ← (raw.get? "contributions".toList).bind iterated
  let contributions ← rawContributions.mapM (decodeContribution readings)
  let memeId ← (raw.get? "meme_id".toList).bind readings.uuid
  let score ← (raw.get? "score".toList).bind readings.float
  let scoreComponents ← (raw.get? "score_components".toList).bind (Scores.read readings)
  let reason ← (raw.get? "reason".toList).map readings.str
  let isExploration := ((raw.get? "is_exploration".toList).map readings.bool).getD false
  pure ⟨memeId, score, scoreComponents, contributions, reason, isExploration⟩

def decodeProfileVersion (payload : Value φ) : Option Text :=
  ((payload.get? "profile_version".toList).filter readings.bool).map readings.str

def decodePool (raw : Text) : Option (FrozenFeedPool φ) := do
  let payload ← loads floats raw
  if (payload.get? "v".toList).any readings.equalsOne then
    let rawCandidates ← (payload.get? "candidates".toList).bind iterated
    let candidates ← rawCandidates.mapM (decodeCandidate readings)
    let poolId ← (payload.get? "pool_id".toList).bind readings.uuid
    let requestId ← (payload.get? "request_id".toList).map readings.str
    let viewerKey ← (payload.get? "viewer_key".toList).map readings.str
    let filterKey ← (payload.get? "filter_key".toList).map readings.str
    let algorithmVersion ← (payload.get? "algorithm_version".toList).map readings.str
    let createdAt ← (payload.get? "created_at".toList).bind readings.stamp
    let expiresAt ← (payload.get? "expires_at".toList).bind readings.stamp
    pure ⟨poolId, requestId, viewerKey, filterKey, algorithmVersion,
      decodeProfileVersion readings payload, candidates, createdAt, expiresAt⟩
  else none

end Scores

section RoundTrip

variable {φ : Type} {floats : Floats φ} {readings : Readings φ}

theorem ofValue_value (source : CandidateSource) :
    CandidateSource.ofValue (.string source.value.toList : Value φ) = some source := by
  cases source <;> rfl

theorem readPairs_floats (pairs : List (Text × φ)) :
    readPairs readings.float (pairs.map fun pair => (pair.1, (.float pair.2 : Value φ))) =
      some pairs := by
  induction pairs with
  | nil => rfl
  | cons pair pairs ih =>
    rw [readPairs] at ih ⊢
    rw [List.map_cons, List.mapM_cons, ih]
    rfl

theorem read_payload (scores : Scores φ) :
    Scores.read readings scores.payload.sortKeys = some scores := by
  have hmembers : sortMembers (scores.pairs.map fun pair => (pair.1, (.float pair.2 : Value φ))) =
      scores.pairs.map fun pair => (pair.1, .float pair.2) := by
    rw [sortMembers_eq_map, List.map_map]
    exact List.map_congr_left fun pair _ => by simp only [Function.comp_apply, Value.sortKeys]
  have hsorted : (scores.pairs.map fun pair => (pair.1, (.float pair.2 : Value φ))).insertionSort
      (fun a b => a.1 ≤ b.1) = scores.pairs.map fun pair => (pair.1, .float pair.2) := by
    apply List.Pairwise.insertionSort_eq
    rw [List.pairwise_map]
    exact scores.sorted
  have hkeys : ((scores.pairs.map fun pair => (pair.1, (.float pair.2 : Value φ))).map
      (·.1)).Nodup := by
    rw [List.map_map]
    exact scores.nodup
  have hread : readPairs readings.float
      (dictItems (scores.pairs.map fun pair => (pair.1, (.float pair.2 : Value φ)))) =
      some scores.pairs := by
    rw [dictItems_of_nodup hkeys, readPairs_floats]
  rw [Scores.payload, Value.sortKeys, hmembers, hsorted, Scores.read]
  split
  · next pairs hpairs =>
    have hsame : pairs = scores.pairs := Option.some.inj (hpairs.symm.trans hread)
    subst hsame
    rw [Scores.ofPairs_pairs]
  · next hnone =>
    rw [hread] at hnone
    cases hnone

theorem decodeContribution_payload (contribution : CandidateContribution φ) :
    decodeContribution readings contribution.payload.sortKeys = some contribution := by
  have hkeys : (contribution.members.map (·.1)).Nodup := by
    change (["source", "source_key", "rank", "source_score", "rrf_contribution"].map
      String.toList).Nodup
    decide
  have hsource : contribution.payload.sortKeys.get? "source".toList =
      some (.string contribution.source.value.toList) := get?_of_place hkeys 0 rfl
  have hsourceKey : contribution.payload.sortKeys.get? "source_key".toList =
      some (.string contribution.sourceKey) := get?_of_place hkeys 1 rfl
  have hrank : contribution.payload.sortKeys.get? "rank".toList =
      some (.int contribution.rank) := get?_of_place hkeys 2 rfl
  have hscore : contribution.payload.sortKeys.get? "source_score".toList =
      some (.float contribution.sourceScore) := get?_of_place hkeys 3 rfl
  have hrrf : contribution.payload.sortKeys.get? "rrf_contribution".toList =
      some (.float contribution.rrfContribution) := get?_of_place hkeys 4 rfl
  rw [decodeContribution, hsource, hsourceKey, hrank, hscore, hrrf]
  simp only [Option.bind_some, ofValue_value, Option.map_some, Readings.str, Readings.int,
    Readings.float]
  rfl

theorem iterated_array (items : List (Value φ)) :
    iterated (Value.array items).sortKeys = some (items.map Value.sortKeys) := by
  rw [Value.sortKeys, sortItems_eq_map]
  rfl

theorem mapM_map_sortKeys {α : Type} {decode : Value φ → Option α} {payload : α → Value φ}
    (h : ∀ x, decode (payload x).sortKeys = some x) (xs : List α) :
    ((xs.map payload).map Value.sortKeys).mapM decode = some xs := by
  induction xs with
  | nil => rfl
  | cons x xs ih =>
    rw [List.map_cons, List.map_cons, List.mapM_cons, h x, ih]
    rfl

theorem decodeCandidate_payload (candidate : CachedFeedCandidate φ) :
    decodeCandidate readings candidate.payload.sortKeys = some candidate := by
  have hkeys : (candidate.members.map (·.1)).Nodup := by
    change (["meme_id", "score", "score_components", "reason", "is_exploration",
      "contributions"].map String.toList).Nodup
    decide
  have hmemeId : candidate.payload.sortKeys.get? "meme_id".toList =
      some (.string candidate.memeId.str) := get?_of_place hkeys 0 rfl
  have hscore : candidate.payload.sortKeys.get? "score".toList =
      some (.float candidate.score) := get?_of_place hkeys 1 rfl
  have hcomponents : candidate.payload.sortKeys.get? "score_components".toList =
      some candidate.scoreComponents.payload.sortKeys := get?_of_place hkeys 2 rfl
  have hreason : candidate.payload.sortKeys.get? "reason".toList =
      some (.string candidate.reason) := get?_of_place hkeys 3 rfl
  have hexploration : candidate.payload.sortKeys.get? "is_exploration".toList =
      some (.bool candidate.isExploration) := get?_of_place hkeys 4 rfl
  have hcontributions : candidate.payload.sortKeys.get? "contributions".toList =
      some (Value.array (candidate.contributions.map CandidateContribution.payload)).sortKeys :=
    get?_of_place hkeys 5 rfl
  have hitems := @mapM_map_sortKeys φ (CandidateContribution φ) (decodeContribution readings)
    CandidateContribution.payload decodeContribution_payload candidate.contributions
  rw [decodeCandidate, hmemeId, hscore, hcomponents, hreason, hexploration, hcontributions]
  simp only [iterated_array, Option.bind_some, Option.bind_eq_bind, hitems, Readings.uuid,
    ofText_str, Readings.float, read_payload, Option.map_some, Readings.str, Readings.bool,
    Option.getD_some]
  rfl

theorem decodeProfileVersion_payload {payload : Value φ} {version : Option Text}
    (h : payload.get? "profile_version".toList = some (version.elim .null .string)) :
    decodeProfileVersion readings payload = version.filter (· ≠ []) := by
  rw [decodeProfileVersion, h]
  cases version with
  | none => rfl
  | some text =>
    cases text with
    | nil => rfl
    | cons c text => rfl

theorem decodePool_encodePool (pool : FrozenFeedPool φ) :
    decodePool floats readings (encodePool floats pool) =
      some { pool with profileVersion := pool.profileVersion.filter (· ≠ []) } := by
  have hkeys : (pool.members.map (·.1)).Nodup := by
    change (["v", "pool_id", "request_id", "viewer_key", "filter_key", "algorithm_version",
      "profile_version", "created_at", "expires_at", "candidates"].map String.toList).Nodup
    decide
  have hversion : pool.payload.sortKeys.get? "v".toList = some (.int 1) := get?_of_place hkeys 0 rfl
  have hpoolId : pool.payload.sortKeys.get? "pool_id".toList =
      some (.string pool.poolId.str) := get?_of_place hkeys 1 rfl
  have hrequestId : pool.payload.sortKeys.get? "request_id".toList =
      some (.string pool.requestId) := get?_of_place hkeys 2 rfl
  have hviewerKey : pool.payload.sortKeys.get? "viewer_key".toList =
      some (.string pool.viewerKey) := get?_of_place hkeys 3 rfl
  have hfilterKey : pool.payload.sortKeys.get? "filter_key".toList =
      some (.string pool.filterKey) := get?_of_place hkeys 4 rfl
  have halgorithm : pool.payload.sortKeys.get? "algorithm_version".toList =
      some (.string pool.algorithmVersion) := get?_of_place hkeys 5 rfl
  have hprofile : pool.payload.sortKeys.get? "profile_version".toList =
      some (pool.profileVersion.elim .null .string) := by
    rw [FrozenFeedPool.payload, get?_of_place hkeys 6 rfl]
    cases pool.profileVersion <;> rfl
  have hcreatedAt : pool.payload.sortKeys.get? "created_at".toList =
      some (.string pool.createdAt.isoformat) := get?_of_place hkeys 7 rfl
  have hexpiresAt : pool.payload.sortKeys.get? "expires_at".toList =
      some (.string pool.expiresAt.isoformat) := get?_of_place hkeys 8 rfl
  have hcandidates : pool.payload.sortKeys.get? "candidates".toList =
      some (Value.array (pool.candidates.map CachedFeedCandidate.payload)).sortKeys :=
    get?_of_place hkeys 9 rfl
  have hitems := @mapM_map_sortKeys φ (CachedFeedCandidate φ) (decodeCandidate readings)
    CachedFeedCandidate.payload decodeCandidate_payload pool.candidates
  rw [decodePool, encodePool, loads_dumps]
  simp only [Option.bind_eq_bind, Option.bind_some, hversion, hpoolId, hrequestId, hviewerKey,
    hfilterKey, halgorithm, hcreatedAt, hexpiresAt, hcandidates, iterated_array, hitems,
    decodeProfileVersion_payload hprofile, Readings.uuid, ofText_str, Option.map_some, Readings.str,
    Readings.stamp, IsoDates.fromisoformat_isoformat, Option.any_some, Readings.equalsOne]
  rfl

end RoundTrip

end MemeExpert.Recommendations.FeedWire
