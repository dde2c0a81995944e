import MemeExpert.Lib.Gathering
import MemeExpert.Services.SearchSynonymCompiler

/-! Every interaction is projected onto one row for its viewer and its meme, by an upsert
whose conflict clause counts impressions and keeps the first and the latest times. -/

namespace MemeExpert

inductive AnalyticsEventType where
  | accountMerge | authEvent | channelSuggest | click | collectionAction | favorite | impression
  | inlineChosen | inlineQuery | inlineSent | inlineServed | memeDetailClick | memeDownload
  | memeEngagedView | memeImpression | memeLike | memePin | memeReport | memeSave | memeSend
  | memeShare | memeView | miniappOpen | pageView | save | searchQuery | share | view
  deriving DecidableEq

namespace Recommendations

open Gathering
open scoped List

section Kinds

open AnalyticsEventType

def impressionEventTypes : List AnalyticsEventType := [.impression, .inlineServed, .memeImpression]

def engagedViewEventTypes : List AnalyticsEventType := [memeEngagedView]

def durablePreferenceEventTypes : List AnalyticsEventType :=
  [favorite, memeLike, memePin, memeSave, .save]

def highIntentEventTypes : List AnalyticsEventType :=
  [inlineChosen, inlineSent, memeDownload, memeSend, memeShare, share]

def profileSignalEventTypes : List AnalyticsEventType :=
  durablePreferenceEventTypes ++ highIntentEventTypes ++
    [memeDetailClick, memeEngagedView, memeView, view]

def removeActions : List Text :=
  ["delete", "deleted", "remove", "removed", "remove_save", "unfavorite", "unlike", "unpin",
    "unsave"].map String.toList

def neutralActions : List Text := ["reorder", "reorder_pin"].map String.toList

/-- `properties["action"]` where it is a string; `lower` is the table of lower-case letters. -/
def normalizedAction (lower : Text → Text) (action : Option Text) : Option Text :=
  let normalized := action.map fun value =>
    (lower (Services.stripText value)).map fun c => if c = '-' then '_' else c
  normalized.filter (· ≠ [])

attribute [local instance] lawfulBEq_text

def isProfileSignal (lower : Text → Text) (eventType : AnalyticsEventType)
    (action : Option Text) : Bool :=
  if eventType ∉ profileSignalEventTypes then false
  else if eventType ∉ durablePreferenceEventTypes then true
  else (normalizedAction lower action).all (· ∉ neutralActions)

def isStrongAction (lower : Text → Text) (eventType : AnalyticsEventType)
    (action : Option Text) : Bool :=
  if eventType ∈ highIntentEventTypes then true
  else if eventType ∉ durablePreferenceEventTypes then false
  else (normalizedAction lower action).all (· ∉ removeActions ++ neutralActions)

end Kinds

structure RecommendationState where
  firstSeenAt : Time
  latestImpressionAt : Option Time
  latestEngagedViewAt : Option Time
  latestStrongActionAt : Option Time
  impressionCount : Nat
  deriving DecidableEq

structure RecommendationProfileStatus where
  dirtySince : Option Time

/-- The tables by their keys. `Profile` stands for the materialized rows of a viewer: its
signals and its vectors, which are written and deleted together. -/
structure RecommendationTables (Profile : Type) where
  states : Uuid → Uuid → Option RecommendationState
  statuses : Uuid → Option RecommendationProfileStatus
  profiles : Uuid → Option Profile

section Projection

variable {Profile : Type}

/-- `GREATEST` and `LEAST` pass over nulls. -/
def sqlGreatest : Option Time → Option Time → Option Time := Option.merge max

def sqlLeast : Option Time → Option Time → Option Time := Option.merge min

def latestTimestamp (current incoming : Option Time) : Option Time :=
  sqlGreatest (current.or incoming) incoming

def onConflictDoUpdate (current excluded : RecommendationState) : RecommendationState where
  firstSeenAt := min current.firstSeenAt excluded.firstSeenAt
  latestImpressionAt := latestTimestamp current.latestImpressionAt excluded.latestImpressionAt
  latestEngagedViewAt := latestTimestamp current.latestEngagedViewAt excluded.latestEngagedViewAt
  latestStrongActionAt := latestTimestamp current.latestStrongActionAt excluded.latestStrongActionAt
  impressionCount := current.impressionCount + excluded.impressionCount

def insertedState (occurredAt : Time) (isImpression isEngagedView isStrongAction : Bool) :
    RecommendationState where
  firstSeenAt := occurredAt
  latestImpressionAt := if isImpression then some occurredAt else none
  latestEngagedViewAt := if isEngagedView then some occurredAt else none
  latestStrongActionAt := if isStrongAction then some occurredAt else none
  impressionCount := if isImpression then 1 else 0

def upsertRecommendationState (tables : RecommendationTables Profile) (userId memeId : Uuid)
    (values : RecommendationState) : RecommendationTables Profile :=
  { tables with
    states := fun user meme =>
      if user = userId ∧ meme = memeId then
        match tables.states userId memeId with
        | none => some values
        | some current => some (onConflictDoUpdate current values)
      else tables.states user meme }

def dirtyStatus (status : Option RecommendationProfileStatus) (dirtyAt : Time) :
    RecommendationProfileStatus :=
  match status with
  | none => { dirtySince := some dirtyAt }
  | some status =>
    { status with dirtySince := sqlLeast (status.dirtySince.or (some dirtyAt)) (some dirtyAt) }

def markRecommendationProfileDirty (tables : RecommendationTables Profile) (userId : Uuid)
    (dirtyAt : Time) : RecommendationTables Profile :=
  { tables with
    statuses := fun user =>
      if user = userId then some (dirtyStatus (tables.statuses userId) dirtyAt)
      else tables.statuses user }

def invalidateRecommendationProfile (tables : RecommendationTables Profile) (userId : Uuid)
    (dirtyAt : Time) : RecommendationTables Profile :=
  markRecommendationProfileDirty
    { tables with profiles := fun user => if user = userId then none else tables.profiles user }
    userId dirtyAt

/-- A newly inserted event of a known viewer and meme; `catalogued` tells whether the
meme exists. -/
def projectRecommendationInteraction (lower : Text → Text) (catalogued : Bool)
    (tables : RecommendationTables Profile) (userId memeId : Uuid)
    (eventType : AnalyticsEventType) (action : Option Text) (occurredAt : Time) :
    RecommendationTables Profile :=
  if ¬ catalogued then tables
  else
    let isImpression : Bool := eventType ∈ impressionEventTypes
    let isEngagedView : Bool := eventType ∈ engagedViewEventTypes
    let isStrong := isStrongAction lower eventType action
    let isSignal := isProfileSignal lower eventType action
    if ¬ (isImpression || isEngagedView || isStrong || isSignal) then tables
    else
      let written := upsertRecommendationState tables userId memeId
        (insertedState occurredAt isImpression isEngagedView isStrong)
      if isSignal then markRecommendationProfileDirty written userId occurredAt else written

def projectDurablePreferenceChange (tables : RecommendationTables Profile) (userId memeId : Uuid)
    (isAdd : Bool) (observedAt : Time) : RecommendationTables Profile :=
  let written := upsertRecommendationState tables userId memeId
    (insertedState observedAt false false isAdd)
  if isAdd then markRecommendationProfileDirty written userId observedAt
  else invalidateRecommendationProfile written userId observedAt

def mergeUserRecommendationState (tables : RecommendationTables Profile)
    (sourceUserId targetUserId : Uuid) (mergedAt : Time) : RecommendationTables Profile :=
  if sourceUserId = targetUserId then tables
  else
    let inserted : RecommendationTables Profile :=
      { tables with
        states := fun user meme =>
          if user = targetUserId then
            match tables.states sourceUserId meme, tables.states targetUserId meme with
            | none, current => current
            | some excluded, none => some excluded
            | some excluded, some current => some (onConflictDoUpdate current excluded)
          else tables.states user meme }
    let deleted : RecommendationTables Profile :=
      { inserted with
        states := fun user meme => if user = sourceUserId then none else inserted.states user meme }
    invalidateRecommendationProfile deleted targetUserId mergedAt

end Projection

/-- What is projected: an event of the shared stream, or a change of a durable preference. -/
inductive RecommendationEvent where
  | interaction (eventType : AnalyticsEventType) (action : Option Text) (occurredAt : Time)
  | preference (isAdd : Bool) (observedAt : Time)

structure ViewerEvent where
  userId : Uuid
  memeId : Uuid
  event : RecommendationEvent

section Histories

variable {Profile : Type} (lower : Text → Text) (catalogued : Uuid → Bool)

def projectEvent (tables : RecommendationTables Profile) (recorded : ViewerEvent) :
    RecommendationTables Profile :=
  match recorded.event with
  | .interaction eventType action occurredAt =>
    projectRecommendationInteraction lower (catalogued recorded.memeId) tables recorded.userId
      recorded.memeId eventType action occurredAt
  | .preference isAdd observedAt =>
    projectDurablePreferenceChange tables recorded.userId recorded.memeId isAdd observedAt

def projectAll (tables : RecommendationTables Profile) (history : List ViewerEvent) :
    RecommendationTables Profile :=
  history.foldl (projectEvent lower catalogued) tables

def insertedBy (recorded : ViewerEvent) : Option RecommendationState :=
  match recorded.event with
  | .interaction eventType action occurredAt =>
    let isImpression : Bool := eventType ∈ impressionEventTypes
    let isEngagedView : Bool := eventType ∈ engagedViewEventTypes
    let isStrong := isStrongAction lower eventType action
    if catalogued recorded.memeId ∧
        (isImpression || isEngagedView || isStrong || isProfileSignal lower eventType action) then
      some (insertedState occurredAt isImpression isEngagedView isStrong)
    else none
  | .preference isAdd observedAt => some (insertedState observedAt false false isAdd)

def insertedFor (userId memeId : Uuid) (history : List ViewerEvent) : List RecommendationState :=
  history.filterMap fun recorded =>
    if userId = recorded.userId ∧ memeId = recorded.memeId then insertedBy lower catalogued recorded
    else none

end Histories

section Algebra

variable {Profile : Type} {lower : Text → Text} {catalogued : Uuid → Bool}
  {tables : RecommendationTables Profile}

theorem latestTimestamp_eq (current incoming : Option Time) :
    latestTimestamp current incoming = Option.merge max current incoming := by
  cases current with
  | some current => rfl
  | none =>
    cases incoming with
    | none => rfl
    | some incoming => exact congrArg some (Nat.max_self incoming)

instance : Std.Commutative onConflictDoUpdate where
  comm current excluded := by
    have hcomm := @Std.Commutative.comm _ (Option.merge (max : Time → Time → Time)) _
    simp only [onConflictDoUpdate, latestTimestamp_eq, RecommendationState.mk.injEq]
    exact ⟨Nat.min_comm _ _, hcomm _ _, hcomm _ _, hcomm _ _, Nat.add_comm _ _⟩

instance : Std.Associative onConflictDoUpdate where
  assoc first second third := by
    have hassoc := @Std.Associative.assoc _ (Option.merge (max : Time → Time → Time)) _
    simp only [onConflictDoUpdate, latestTimestamp_eq, RecommendationState.mk.injEq]
    exact ⟨Nat.min_assoc _ _ _, hassoc _ _ _, hassoc _ _ _, hassoc _ _ _, Nat.add_assoc _ _ _⟩

theorem states_upsert (userId memeId : Uuid) (values : RecommendationState) (user meme : Uuid) :
    (upsertRecommendationState tables userId memeId values).states user meme =
      if user = userId ∧ meme = memeId then
        Option.merge onConflictDoUpdate (tables.states user meme) (some values)
      else tables.states user meme := by
  simp only [upsertRecommendationState]
  split
  · next hkey =>
    obtain ⟨rfl, rfl⟩ := hkey
    cases tables.states user meme with
    | none => rfl
    | some current => rfl
  · rfl

theorem states_invalidate (userId : Uuid) (dirtyAt : Time) :
    (invalidateRecommendationProfile tables userId dirtyAt).states = tables.states := rfl

theorem projectEvent_of_none {recorded : ViewerEvent}
    (h : insertedBy lower catalogued recorded = none) :
    projectEvent lower catalogued tables recorded = tables := by
  obtain ⟨userId, memeId, event⟩ := recorded
  cases event with
  | interaction eventType action occurredAt =>
    simp only [insertedBy] at h
    split at h
    · cases h
    next hskip =>
    simp only [projectEvent, projectRecommendationInteraction]
    split
    · rfl
    next hcatalogued =>
    rw [if_pos]
    exact fun hrelevant => hskip ⟨not_not.mp hcatalogued, hrelevant⟩
  | preference isAdd observedAt => cases h

theorem states_projectEvent_of_some {recorded : ViewerEvent} {values : RecommendationState}
    (h : insertedBy lower catalogued recorded = some values) :
    (projectEvent lower catalogued tables recorded).states =
      (upsertRecommendationState tables recorded.userId recorded.memeId values).states := by
  obtain ⟨userId, memeId, event⟩ := recorded
  cases event with
  | interaction eventType action occurredAt =>
    simp only [insertedBy] at h
    split at h
    · next hwritten =>
      cases h
      simp only [projectEvent, projectRecommendationInteraction, hwritten.1, hwritten.2, not_true,
        if_false]
      split
      · rfl
      · rfl
    · cases h
  | preference isAdd observedAt =>
    cases h
    simp only [projectEvent, projectDurablePreferenceChange]
    split
    · rfl
    · rfl

theorem states_projectEvent (recorded : ViewerEvent) (user meme : Uuid) :
    (projectEvent lower catalogued tables recorded).states user meme =
      gather onConflictDoUpdate (tables.states user meme)
        (insertedFor lower catalogued user meme [recorded]) := by
  cases hinserted : insertedBy lower catalogued recorded with
  | none =>
    have hnone : insertedFor lower catalogued user meme [recorded] = [] := by
      simp only [insertedFor, List.filterMap_cons, List.filterMap_nil, hinserted, ite_self]
    rw [projectEvent_of_none hinserted, hnone, gather_nil]
  | some values =>
    rw [states_projectEvent_of_some hinserted, states_upsert]
    simp only [insertedFor, List.filterMap_cons, List.filterMap_nil, hinserted]
    split
    · rfl
    · rfl

theorem insertedFor_append (user meme : Uuid) (first second : List ViewerEvent) :
    insertedFor lower catalogued user meme (first ++ second) =
      insertedFor lower catalogued user meme first ++
        insertedFor lower catalogued user meme second :=
  List.filterMap_append

theorem states_projectAll (history : List ViewerEvent) (user meme : Uuid) :
    (projectAll lower catalogued tables history).states user meme =
      gather onConflictDoUpdate (tables.states user meme)
        (insertedFor lower catalogued user meme history) := by
  induction history generalizing tables with
  | nil => rfl
  | cons recorded history ih =>
    have hrest := @ih (projectEvent lower catalogued tables recorded)
    rw [← List.singleton_append, insertedFor_append, gather_append, ← states_projectEvent]
    exact hrest

theorem states_projectAll_perm {history other : List ViewerEvent} (h : history ~ other) :
    (projectAll lower catalogued tables history).states =
      (projectAll lower catalogued tables other).states := by
  funext user meme
  rw [states_projectAll, states_projectAll]
  exact gather_perm (h.filterMap _)

variable {source target : Uuid}

def redirectViewer (source target : Uuid) (recorded : ViewerEvent) : ViewerEvent :=
  { recorded with userId := if recorded.userId = source then target else recorded.userId }

theorem states_merge_target (hne : source ≠ target) (mergedAt : Time) (meme : Uuid) :
    (mergeUserRecommendationState tables source target mergedAt).states target meme =
      Option.merge onConflictDoUpdate (tables.states target meme) (tables.states source meme) := by
  simp only [mergeUserRecommendationState, if_neg hne, states_invalidate, if_neg hne.symm, if_true]
  cases tables.states source meme with
  | none => rw [Option.merge_none_right]
  | some excluded =>
    cases tables.states target meme with
    | none => rfl
    | some current => rfl

theorem states_merge_source (hne : source ≠ target) (mergedAt : Time) (meme : Uuid) :
    (mergeUserRecommendationState tables source target mergedAt).states source meme = none := by
  simp only [mergeUserRecommendationState, if_neg hne, states_invalidate, if_true]

theorem states_merge_other {user : Uuid} (hne : source ≠ target) (hsource : user ≠ source)
    (htarget : user ≠ target) (mergedAt : Time) (meme : Uuid) :
    (mergeUserRecommendationState tables source target mergedAt).states user meme =
      tables.states user meme := by
  simp only [mergeUserRecommendationState, if_neg hne, states_invalidate, if_neg hsource,
    if_neg htarget]

theorem insertedBy_redirect (recorded : ViewerEvent) :
    insertedBy lower catalogued (redirectViewer source target recorded) =
      insertedBy lower catalogued recorded := rfl

theorem insertedFor_cons (user meme : Uuid) (recorded : ViewerEvent) (history : List ViewerEvent) :
    insertedFor lower catalogued user meme (recorded :: history) =
      (if user = recorded.userId ∧ meme = recorded.memeId then
        (insertedBy lower catalogued recorded).toList else []) ++
          insertedFor lower catalogued user meme history := by
  rw [← List.singleton_append, insertedFor_append]
  refine congrArg (· ++ _) ?_
  by_cases hkey : user = recorded.userId ∧ meme = recorded.memeId
  · rw [if_pos hkey]
    simp only [insertedFor, List.filterMap_cons, List.filterMap_nil, if_pos hkey]
    cases insertedBy lower catalogued recorded with
    | none => rfl
    | some values => rfl
  · rw [if_neg hkey]
    simp only [insertedFor, List.filterMap_cons, List.filterMap_nil, if_neg hkey]

theorem insertedFor_target_redirect (hne : source ≠ target) (meme : Uuid)
    (history : List ViewerEvent) :
    insertedFor lower catalogued target meme (history.map (redirectViewer source target)) ~
      insertedFor lower catalogued target meme history ++
        insertedFor lower catalogued source meme history := by
  induction history with
  | nil => exact List.Perm.refl _
  | cons recorded history ih =>
    rw [List.map_cons, insertedFor_cons, insertedFor_cons, insertedFor_cons, insertedBy_redirect]
    by_cases hsource : recorded.userId = source
    · have htarget : ¬ (target = recorded.userId ∧ meme = recorded.memeId) :=
        fun h => hne (hsource.symm.trans h.1.symm)
      rw [if_neg htarget, List.nil_append]
      simp only [redirectViewer, hsource, if_true, true_and]
      refine List.Perm.trans (ih.append_left _) ?_
      rw [← List.append_assoc, ← List.append_assoc]
      exact List.perm_append_comm.append_right _
    have hnone : ¬ (source = recorded.userId ∧ meme = recorded.memeId) := fun h => hsource h.1.symm
    rw [if_neg hnone, List.nil_append, List.append_assoc]
    simp only [redirectViewer, if_neg hsource]
    exact ih.append_left _

theorem insertedFor_source_redirect (hne : source ≠ target) (meme : Uuid)
    (history : List ViewerEvent) :
    insertedFor lower catalogued source meme (history.map (redirectViewer source target)) = [] := by
  induction history with
  | nil => rfl
  | cons recorded history ih =>
    rw [List.map_cons, insertedFor_cons, ih, List.append_nil, if_neg]
    rintro ⟨huser, -⟩
    simp only [redirectViewer] at huser
    split at huser
    · exact hne huser
    · next hother => exact hother huser.symm

theorem insertedFor_other_redirect {user : Uuid} (hsource : user ≠ source) (htarget : user ≠ target)
    (meme : Uuid) (history : List ViewerEvent) :
    insertedFor lower catalogued user meme (history.map (redirectViewer source target)) =
      insertedFor lower catalogued user meme history := by
  induction history with
  | nil => rfl
  | cons recorded history ih =>
    rw [List.map_cons, insertedFor_cons, insertedFor_cons, ih, insertedBy_redirect]
    have hiff : (user = (redirectViewer source target recorded).userId ∧
        meme = (redirectViewer source target recorded).memeId) ↔
          (user = recorded.userId ∧ meme = recorded.memeId) := by
      simp only [redirectViewer]
      split
      · next heq =>
        rw [heq]
        exact and_congr_left fun _ => iff_of_false htarget hsource
      · rfl
    rw [if_congr hiff rfl rfl]

/-- A merge leaves the rows that the events of the source would have written as events
of the target. -/
theorem states_merge_projectAll (hne : source ≠ target) (mergedAt : Time)
    (hnone : ∀ meme, tables.states source meme = none) (history : List ViewerEvent) :
    (mergeUserRecommendationState (projectAll lower catalogued tables history) source target
      mergedAt).states =
        (projectAll lower catalogued tables
          (history.map (redirectViewer source target))).states := by
  funext user meme
  rw [states_projectAll]
  by_cases hsource : user = source
  · rw [hsource, states_merge_source hne, insertedFor_source_redirect hne, gather_nil, hnone]
  by_cases htarget : user = target
  · rw [htarget, states_merge_target hne, states_projectAll, states_projectAll, hnone]
    rw [gather_perm (insertedFor_target_redirect hne meme history), gather_append]
    exact gather_eq_merge.symm
  · rw [states_merge_other hne hsource htarget, states_projectAll]
    rw [insertedFor_other_redirect hsource htarget]

theorem rest_of_source_remains (hne : source ≠ target) (mergedAt : Time) :
    (mergeUserRecommendationState tables source target mergedAt).statuses source =
        tables.statuses source ∧
      (mergeUserRecommendationState tables source target mergedAt).profiles source =
        tables.profiles source := by
  rw [mergeUserRecommendationState, if_neg hne]
  exact ⟨if_neg hne, if_neg hne⟩

theorem target_invalidated (hne : source ≠ target) (mergedAt : Time) :
    (mergeUserRecommendationState tables source target mergedAt).statuses target =
        some (dirtyStatus (tables.statuses target) mergedAt) ∧
      (mergeUserRecommendationState tables source target mergedAt).profiles target = none := by
  rw [mergeUserRecommendationState, if_neg hne]
  exact ⟨if_pos rfl, if_pos rfl⟩

/-- The projection does not depend on the order of the events, and a merge of accounts
does to the state rows what the events of the source would have done to the target. It moves
no other row: those of the source stay until its user is deleted, the profile of the target
is dropped and has to be built again. -/
theorem recommendationState_projection (lower : Text → Text) (catalogued : Uuid → Bool) :
    (∀ (tables : RecommendationTables Profile) (history other : List ViewerEvent),
      history ~ other → (projectAll lower catalogued tables history).states =
        (projectAll lower catalogued tables other).states) ∧
    ∀ (tables : RecommendationTables Profile) (history : List ViewerEvent)
      (source target : Uuid) (mergedAt : Time), source ≠ target →
        (∀ meme, tables.states source meme = none) →
          let projected := projectAll lower catalogued tables history
          let merged := mergeUserRecommendationState projected source target mergedAt
          merged.states = (projectAll lower catalogued tables
            (history.map (redirectViewer source target))).states ∧
          (∀ meme, merged.states source meme = none) ∧
          (merged.statuses source = projected.statuses source ∧
            merged.profiles source = projected.profiles source) ∧
          merged.statuses target = some (dirtyStatus (projected.statuses target) mergedAt) ∧
          merged.profiles target = none := by
  refine ⟨fun tables history other h => states_projectAll_perm h, ?_⟩
  intro tables history source target mergedAt hne hnone
  exact ⟨states_merge_projectAll hne mergedAt hnone history,
    fun meme => states_merge_source hne mergedAt meme, rest_of_source_remains hne mergedAt,
    target_invalidated hne mergedAt⟩

/-- A guest has seen a meme and liked it; the account it joins has seen it later. -/
theorem recommendationState_projection_guest :
    let tables : RecommendationTables Unit := ⟨fun _ _ => none, fun _ => none, fun _ => none⟩
    let history : List ViewerEvent := [⟨1, 5, .interaction .memeImpression none 10⟩,
      ⟨2, 5, .interaction .memeImpression none 30⟩, ⟨1, 5, .preference true 20⟩]
    let projected := projectAll id (fun _ => true) tables history
    let merged := mergeUserRecommendationState projected 1 2 40
    (merged.states =
        (projectAll id (fun _ => true) tables (history.map (redirectViewer 1 2))).states ∧
      (∀ meme, merged.states 1 meme = none) ∧
      (merged.statuses 1 = projected.statuses 1 ∧ merged.profiles 1 = projected.profiles 1) ∧
      merged.statuses 2 = some (dirtyStatus (projected.statuses 2) 40) ∧
      merged.profiles 2 = none) ∧
    projected.states = (projectAll id (fun _ => true) tables history.reverse).states := by
  intro tables history
  have hall := @recommendationState_projection Unit id (fun _ => true)
  refine ⟨hall.2 tables history 1 2 40 (by decide) (fun _ => rfl), ?_⟩
  exact hall.1 tables history history.reverse (List.reverse_perm history).symm

structure NothingOf (tables : RecommendationTables Profile) (userId : Uuid) : Prop where
  states : ∀ meme, tables.states userId meme = none
  statuses : tables.statuses userId = none
  profiles : tables.profiles userId = none

/-- A guest who liked a meme leaves the mark that its profile is to be built. -/
theorem not_nothingOf_merged :
    let tables : RecommendationTables Unit := ⟨fun _ _ => none, fun _ => none, fun _ => none⟩
    ¬ NothingOf (mergeUserRecommendationState
      (projectAll id (fun _ => true) tables [⟨1, 5, .preference true 20⟩]) 1 2 40) 1 := by
  intro tables h
  cases h.statuses

end Algebra

end Recommendations

end MemeExpert
