import MemeExpert.Recommendations.InteractionState

/-! An interaction is classified where the state of its viewer is projected, in the signal
policy and in the query that builds a profile. -/

namespace MemeExpert.Recommendations

inductive SignalClass where
  | strongPositive
  | removal
  | neither
  deriving DecidableEq

section Policy

open AnalyticsEventType

attribute [local instance] lawfulBEq_text

def projectedClass (lower : Text → Text) (eventType : AnalyticsEventType)
    (action : Option Text) : SignalClass :=
  if isStrongAction lower eventType action then .strongPositive
  else if eventType ∈ durablePreferenceEventTypes ∧
      (normalizedAction lower action).any (· ∈ removeActions) then .removal
  else .neither

inductive RecommendationSignalKind where
  | durable | engagedView | detail | highIntent | impression

structure SignalPolicy where
  weight : Nat
  kind : RecommendationSignalKind
  isStrongPositive : Bool := false

def defaultSignalPolicy : AnalyticsEventType → Option SignalPolicy
  | favorite | memeLike | memeSave | save | memePin => some ⟨5, .durable, true⟩
  | memeDownload | memeSend | memeShare | share | inlineChosen | inlineSent =>
    some ⟨4, .highIntent, true⟩
  | memeEngagedView => some ⟨2, .engagedView, false⟩
  | memeDetailClick | memeView | view => some ⟨1, .detail, false⟩
  | memeImpression | impression | inlineServed => some ⟨0, .impression, false⟩
  | accountMerge | authEvent | channelSuggest | click | collectionAction | inlineQuery | memeReport
  | miniappOpen | pageView | searchQuery => none

def policyRemoveActions : List Text :=
  ["delete", "remove", "remove_save", "reorder", "reorder_pin", "unfavorite", "unlike", "unpin",
    "unsave"].map String.toList

def isRemoveAction (lower : Text → Text) (action : Option Text) : Bool :=
  action.any fun value => value ≠ [] ∧ lower (Services.stripText value) ∈ policyRemoveActions

def weighingPolicy (eventType : AnalyticsEventType) : Option SignalPolicy :=
  (defaultSignalPolicy eventType).filter fun policy => 0 < policy.weight

def signalPolicyFor (lower : Text → Text) (eventType : AnalyticsEventType)
    (action : Option Text) : Option SignalPolicy :=
  match defaultSignalPolicy eventType with
  | none => none
  | some policy => if policy.weight ≤ 0 ∨ isRemoveAction lower action then none else some policy

def policyClass (lower : Text → Text) (eventType : AnalyticsEventType)
    (action : Option Text) : SignalClass :=
  match signalPolicyFor lower eventType action with
  | some policy => if policy.isStrongPositive then .strongPositive else .neither
  | none => if (weighingPolicy eventType).isSome then .removal else .neither

/-- `base_weight` of the events that the query reads. -/
def baseWeight : AnalyticsEventType → Nat
  | memeDownload | memeSend | memeShare | share | inlineChosen | inlineSent => 4
  | memeEngagedView => 2
  | memeDetailClick | memeView | view => 1
  | _ => 0

def profileEventTypes : List AnalyticsEventType :=
  [memeDownload, memeSend, memeShare, share, inlineChosen, inlineSent, memeEngagedView,
    memeDetailClick, memeView, view]

def profileRemoveActions : List Text :=
  ["delete", "remove", "remove_save", "reorder", "reorder_pin", "unfavorite", "unlike", "unpin",
    "unsave"].map String.toList

/-- `lower(COALESCE(action, ''))`, with the table of lower-case letters of the database. -/
def profileAction (sqlLower : Text → Text) (action : Option Text) : Text :=
  sqlLower (action.getD [])

def profileClass (sqlLower : Text → Text) (eventType : AnalyticsEventType)
    (action : Option Text) : SignalClass :=
  if eventType ∉ profileEventTypes ∨ baseWeight eventType = 0 then .neither
  else if profileAction sqlLower action ∈ profileRemoveActions then .removal
  else if 4 ≤ baseWeight eventType then .strongPositive
  else .neither

/-- The ways in which the projection and the policy write an action come to the same, and the
action is not one that only the projection takes for a removal. -/
def IsPlain (lower : Text → Text) (action : Option Text) : Prop :=
  ∀ value, action = some value → '-' ∉ lower (Services.stripText value) ∧
    lower (Services.stripText value) ≠ "deleted".toList ∧
    lower (Services.stripText value) ≠ "removed".toList

def IsTrimmed (lower sqlLower : Text → Text) (action : Option Text) : Prop :=
  ∀ value, action = some value → sqlLower value = lower (Services.stripText value)

def IsReorder (lower : Text → Text) (action : Option Text) : Prop :=
  ∃ value, normalizedAction lower action = some value ∧ value ∈ neutralActions

structure ClassesAgree (lower sqlLower : Text → Text) (eventType : AnalyticsEventType)
    (action : Option Text) : Prop where
  others : eventType ∉ durablePreferenceEventTypes → eventType ∉ highIntentEventTypes →
    projectedClass lower eventType action ≠ .strongPositive ∧
      policyClass lower eventType action ≠ .strongPositive ∧
      profileClass sqlLower eventType action ≠ .strongPositive
  highIntent : eventType ∈ highIntentEventTypes → isRemoveAction lower action = false →
    profileAction sqlLower action ∉ profileRemoveActions →
    projectedClass lower eventType action = .strongPositive ∧
      policyClass lower eventType action = .strongPositive ∧
      profileClass sqlLower eventType action = .strongPositive
  events : eventType ∈ profileEventTypes → IsTrimmed lower sqlLower action →
    policyClass lower eventType action = profileClass sqlLower eventType action
  collected : eventType ∈ durablePreferenceEventTypes →
    profileClass sqlLower eventType action = .neither
  preferences : eventType ∈ durablePreferenceEventTypes → IsPlain lower action →
    ¬ IsReorder lower action →
    projectedClass lower eventType action = policyClass lower eventType action
  reorders : eventType ∈ durablePreferenceEventTypes → IsPlain lower action →
    IsReorder lower action →
    projectedClass lower eventType action = .neither ∧
      policyClass lower eventType action = .removal

variable {lower sqlLower : Text → Text} {eventType : AnalyticsEventType} {action : Option Text}

theorem policyClass_of_remove (h : isRemoveAction lower action = true) :
    policyClass lower eventType action =
      if (weighingPolicy eventType).isSome then .removal else .neither := by
  unfold policyClass signalPolicyFor
  cases defaultSignalPolicy eventType with
  | none => rfl
  | some policy => simp only [h, or_true, if_true]

theorem policyClass_of_keep (h : isRemoveAction lower action = false) :
    policyClass lower eventType action =
      if (weighingPolicy eventType).any (·.isStrongPositive) then .strongPositive
      else .neither := by
  cases eventType <;> simp [policyClass, signalPolicyFor, weighingPolicy, defaultSignalPolicy, h]

theorem projectedClass_of_highIntent (h : eventType ∈ highIntentEventTypes) :
    projectedClass lower eventType action = .strongPositive := by
  rw [projectedClass, if_pos]
  rw [isStrongAction, if_pos h]

theorem projectedClass_of_durable (h : eventType ∈ durablePreferenceEventTypes) :
    projectedClass lower eventType action =
      if (normalizedAction lower action).all (· ∉ removeActions ++ neutralActions) then
        .strongPositive
      else if (normalizedAction lower action).any (· ∈ removeActions) then .removal
      else .neither := by
  have hnot : eventType ∉ highIntentEventTypes := by
    intro hintent
    simp only [durablePreferenceEventTypes, highIntentEventTypes, List.mem_cons,
      List.not_mem_nil, or_false] at h hintent
    rcases h with rfl | rfl | rfl | rfl | rfl <;> simp at hintent
  have hstrong : isStrongAction lower eventType action =
      (normalizedAction lower action).all (· ∉ removeActions ++ neutralActions) := by
    rw [isStrongAction, if_neg hnot, if_neg (not_not_intro h)]
  simp only [projectedClass, hstrong, h, true_and]

theorem profileClass_of_removed (htype : eventType ∈ profileEventTypes)
    (h : profileAction sqlLower action ∈ profileRemoveActions) :
    profileClass sqlLower eventType action = .removal := by
  simp only [profileEventTypes, List.mem_cons, List.not_mem_nil, or_false] at htype
  rcases htype with rfl | rfl | rfl | rfl | rfl | rfl | rfl | rfl | rfl | rfl <;>
    simp [profileClass, profileEventTypes, baseWeight, h]

theorem profileClass_of_kept (htype : eventType ∈ profileEventTypes)
    (h : profileAction sqlLower action ∉ profileRemoveActions) :
    profileClass sqlLower eventType action =
      if 4 ≤ baseWeight eventType then .strongPositive else .neither := by
  simp only [profileEventTypes, List.mem_cons, List.not_mem_nil, or_false] at htype
  rcases htype with rfl | rfl | rfl | rfl | rfl | rfl | rfl | rfl | rfl | rfl <;>
    simp [profileClass, profileEventTypes, baseWeight, h]

theorem weighs_of_mem_profileEventTypes (htype : eventType ∈ profileEventTypes) :
    (weighingPolicy eventType).isSome ∧
      (weighingPolicy eventType).any (·.isStrongPositive) = decide (4 ≤ baseWeight eventType) := by
  simp only [profileEventTypes, List.mem_cons, List.not_mem_nil, or_false] at htype
  rcases htype with rfl | rfl | rfl | rfl | rfl | rfl | rfl | rfl | rfl | rfl <;> decide

theorem weighs_of_durable (htype : eventType ∈ durablePreferenceEventTypes) :
    (weighingPolicy eventType).any (·.isStrongPositive) := by
  simp only [durablePreferenceEventTypes, List.mem_cons, List.not_mem_nil, or_false] at htype
  rcases htype with rfl | rfl | rfl | rfl | rfl <;> decide

theorem isRemoveAction_iff_profile (hlower : lower [] = []) (hsql : sqlLower [] = [])
    (htrim : IsTrimmed lower sqlLower action) :
    isRemoveAction lower action = true ↔ profileAction sqlLower action ∈ profileRemoveActions := by
  have hempty : ([] : Text) ∉ profileRemoveActions := by decide
  cases action with
  | none => simp [isRemoveAction, profileAction, hsql, hempty]
  | some value =>
    have hvalue : profileAction sqlLower (some value) = lower (Services.stripText value) :=
      htrim value rfl
    rw [hvalue]
    by_cases hne : value = []
    · subst hne
      have hstrip : lower (Services.stripText []) = [] := hlower
      rw [hstrip]
      simp [isRemoveAction, hempty]
    · simp only [isRemoveAction, Option.any_some, ne_eq, hne, not_false_eq_true, true_and,
        decide_eq_true_eq]
      rfl

theorem normalizedAction_of_plain {value : Text} (hplain : IsPlain lower (some value)) :
    normalizedAction lower (some value) =
      if lower (Services.stripText value) = [] then none
      else some (lower (Services.stripText value)) := by
  have hsame : (lower (Services.stripText value)).map (fun c => if c = '-' then '_' else c) =
      lower (Services.stripText value) := by
    have hid : ∀ c ∈ lower (Services.stripText value), (if c = '-' then '_' else c) = id c := by
      intro c hc
      rw [if_neg, id_eq]
      rintro rfl
      exact (hplain value rfl).1 hc
    rw [List.map_congr_left hid, List.map_id]
  simp only [normalizedAction, Option.map_some, hsame]
  by_cases hempty : lower (Services.stripText value) = []
  · simp [hempty]
  · simp [hempty, Option.filter]

theorem mem_policyRemoveActions_iff {written : Text} (hdeleted : written ≠ "deleted".toList)
    (hremoved : written ≠ "removed".toList) :
    written ∈ removeActions ++ neutralActions ↔ written ∈ policyRemoveActions := by
  have hprojected : ∀ w ∈ removeActions ++ neutralActions,
      w = "deleted".toList ∨ w = "removed".toList ∨ w ∈ policyRemoveActions := by
    decide
  have hpolicy : ∀ w ∈ policyRemoveActions, w ∈ removeActions ++ neutralActions := by
    decide
  constructor
  · intro hmem
    exact ((hprojected written hmem).resolve_left hdeleted).resolve_left hremoved
  · exact hpolicy written

theorem isRemoveAction_of_plain (hlower : lower [] = []) (hplain : IsPlain lower action) :
    isRemoveAction lower action =
      (normalizedAction lower action).any (· ∈ removeActions ++ neutralActions) := by
  cases action with
  | none => rfl
  | some value =>
    rw [normalizedAction_of_plain hplain]
    obtain ⟨-, hdeleted, hremoved⟩ := hplain value rfl
    have hempty : ([] : Text) ∉ policyRemoveActions := by decide
    by_cases hvalue : value = []
    · subst hvalue
      have hstrip : lower (Services.stripText []) = [] := hlower
      simp [isRemoveAction, hstrip]
    by_cases hread : lower (Services.stripText value) = []
    · simp [isRemoveAction, hread, hempty]
    rw [if_neg hread, Option.any_some]
    simp only [isRemoveAction, Option.any_some, ne_eq, hvalue, not_false_eq_true, true_and]
    rw [decide_eq_decide]
    exact (mem_policyRemoveActions_iff hdeleted hremoved).symm

theorem others_not_strong (hdurable : eventType ∉ durablePreferenceEventTypes)
    (hintent : eventType ∉ highIntentEventTypes) :
    projectedClass lower eventType action ≠ .strongPositive ∧
      policyClass lower eventType action ≠ .strongPositive ∧
      profileClass sqlLower eventType action ≠ .strongPositive := by
  refine ⟨?_, ?_, ?_⟩
  · simp [projectedClass, isStrongAction, hdurable, hintent]
  · cases h : isRemoveAction lower action
    · rw [policyClass_of_keep h]
      cases eventType <;> revert hdurable hintent <;> decide
    · rw [policyClass_of_remove h]
      split <;> simp
  unfold profileClass
  cases eventType <;> revert hdurable hintent <;>
    simp [durablePreferenceEventTypes, highIntentEventTypes, profileEventTypes, baseWeight] <;>
    split <;> simp

theorem highIntent_read (h : eventType ∈ highIntentEventTypes) :
    eventType ∈ profileEventTypes ∧ 4 ≤ baseWeight eventType := by
  simp only [highIntentEventTypes, List.mem_cons, List.not_mem_nil, or_false] at h
  rcases h with rfl | rfl | rfl | rfl | rfl | rfl <;> decide

theorem policyClass_eq_profileClass (hlower : lower [] = []) (hsql : sqlLower [] = [])
    (htype : eventType ∈ profileEventTypes) (htrim : IsTrimmed lower sqlLower action) :
    policyClass lower eventType action = profileClass sqlLower eventType action := by
  obtain ⟨hsome, hstrong⟩ := weighs_of_mem_profileEventTypes htype
  have hread := isRemoveAction_iff_profile hlower hsql htrim
  cases hremove : isRemoveAction lower action
  · have hkept : profileAction sqlLower action ∉ profileRemoveActions := by
      rw [← hread, hremove]
      simp
    rw [policyClass_of_keep hremove, profileClass_of_kept htype hkept, hstrong]
    simp only [decide_eq_true_eq]
  · rw [policyClass_of_remove hremove, if_pos hsome,
      profileClass_of_removed htype (hread.mp hremove)]

theorem preferences_agree (hlower : lower [] = [])
    (htype : eventType ∈ durablePreferenceEventTypes) (hplain : IsPlain lower action)
    (horder : ¬ IsReorder lower action) :
    projectedClass lower eventType action = policyClass lower eventType action := by
  have hstrong := weighs_of_durable htype
  have hsome : (weighingPolicy eventType).isSome := Option.isSome_of_any hstrong
  have hremove := isRemoveAction_of_plain hlower hplain
  rw [projectedClass_of_durable htype]
  cases hnormal : normalizedAction lower action with
  | none =>
    rw [hnormal] at hremove
    rw [policyClass_of_keep hremove, if_pos hstrong]
    rfl
  | some value =>
    have hneutral : value ∉ neutralActions := fun hmem => horder ⟨value, hnormal, hmem⟩
    rw [hnormal, Option.any_some] at hremove
    by_cases hmem : value ∈ removeActions
    · have htrue : isRemoveAction lower action = true := by
        simp [hremove, hmem]
      rw [policyClass_of_remove htrue, if_pos hsome]
      simp [hmem]
    have hfalse : isRemoveAction lower action = false := by
      simp [hremove, hmem, hneutral]
    rw [policyClass_of_keep hfalse, if_pos hstrong]
    simp [hmem, hneutral]

theorem reorders_differ (hlower : lower [] = [])
    (htype : eventType ∈ durablePreferenceEventTypes) (hplain : IsPlain lower action)
    (horder : IsReorder lower action) :
    projectedClass lower eventType action = .neither ∧
      policyClass lower eventType action = .removal := by
  obtain ⟨value, hnormal, hneutral⟩ := horder
  have hkeep : value ∉ removeActions := by
    intro hmem
    simp only [neutralActions, List.map_cons, List.map_nil, List.mem_cons, List.not_mem_nil,
      or_false] at hneutral
    rcases hneutral with rfl | rfl <;> revert hmem <;> decide
  have hremove : isRemoveAction lower action = true := by
    rw [isRemoveAction_of_plain hlower hplain, hnormal]
    simp [hneutral]
  refine ⟨?_, ?_⟩
  · rw [projectedClass_of_durable htype, hnormal]
    simp [hkeep, hneutral]
  · rw [policyClass_of_remove hremove, if_pos (Option.isSome_of_any (weighs_of_durable htype))]

/-- Lower-casing an empty text, in the process and in the database, leaves it empty. -/
theorem classesAgree (hlower : lower [] = []) (hsql : sqlLower [] = []) :
    ∀ eventType action, ClassesAgree lower sqlLower eventType action := by
  intro eventType action
  refine ⟨others_not_strong, ?_, policyClass_eq_profileClass hlower hsql, ?_,
    preferences_agree hlower, reorders_differ hlower⟩
  · intro hintent hkeep hkept
    obtain ⟨htype, hweight⟩ := highIntent_read hintent
    have hstrong := (weighs_of_mem_profileEventTypes htype).2
    refine ⟨projectedClass_of_highIntent hintent, ?_, ?_⟩
    · rw [policyClass_of_keep hkeep, hstrong, if_pos (decide_eq_true hweight)]
    · rw [profileClass_of_kept htype hkept, if_pos hweight]
  intro hdurable
  simp only [durablePreferenceEventTypes, List.mem_cons, List.not_mem_nil, or_false] at hdurable
  rcases hdurable with rfl | rfl | rfl | rfl | rfl <;>
    simp [profileClass, profileEventTypes]

def asciiLower (text : Text) : Text := text.map Char.toLower

theorem classesAgree_unsave : ClassesAgree asciiLower asciiLower memeSave (some "unsave".toList) :=
  classesAgree rfl rfl memeSave (some "unsave".toList)

/-- A save that is taken back: the query reads what is still saved. -/
theorem not_classesAgree_unsave :
    ¬ ∀ eventType action,
      projectedClass asciiLower eventType action = policyClass asciiLower eventType action ∧
        policyClass asciiLower eventType action = profileClass asciiLower eventType action := by
  intro h
  have hsave : policyClass asciiLower memeSave (some "unsave".toList) =
      profileClass asciiLower memeSave (some "unsave".toList) :=
    (h memeSave (some "unsave".toList)).2
  revert hsave
  decide +kernel

end Policy

end MemeExpert.Recommendations
