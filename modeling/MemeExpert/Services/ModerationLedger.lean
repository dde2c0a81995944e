import MemeExpert.Ingest.Policy
import MemeExpert.Lib.Results
import MemeExpert.Lib.Runs
import MemeExpert.Lib.Tables

/-! A direct override and an ingest step lock the meme from their read to their commit. -/

namespace MemeExpert

def ModerationReport.isOpen (report : ModerationReport) : Bool :=
  report.status = .pending || report.status = .inReview

def ModerationAction.value : ModerationAction → String
  | .hide => "hide"
  | .hideAndMarkNsfw => "hide_and_mark_nsfw"
  | .markNsfw => "mark_nsfw"
  | .markSfw => "mark_sfw"
  | .noAction => "no_action"
  | .templateOverride => "template_override"
  | .overrideFlags => "override_flags"
  | .publish => "publish"

def ModerationDecision.HasPrevious (decision : ModerationDecision) (meme : CanonicalMeme) : Prop :=
  decision.previousIsPublic = meme.isPublic ∧
    decision.previousVisibilityMode = meme.visibilityMode ∧
    decision.previousIsNsfw = meme.isNsfw ∧ decision.previousTemplateId = meme.templateId

def ModerationDecision.HasNew (decision : ModerationDecision) (meme : CanonicalMeme) : Prop :=
  decision.newIsPublic = meme.isPublic ∧ decision.newVisibilityMode = meme.visibilityMode ∧
    decision.newIsNsfw = meme.isNsfw ∧ decision.newTemplateId = meme.templateId

namespace Services

open Runs Tables

structure ReportResolveRequest where
  action : ModerationAction
  reason : Option ModerationReason := none
  note : Option String := none

/-- `templateId` is `none` where the request leaves the field out. -/
structure MemeModerationUpdateRequest where
  isNsfw : Option Bool := none
  visibilityMode : Option MemeVisibilityMode := none
  templateId : Option (Option Uuid) := none
  reason : Option ModerationReason := none
  note : Option String := none

def applyModerationAction (meme : CanonicalMeme) :
    ModerationAction → Except ServiceError CanonicalMeme
  | .noAction => .ok meme
  | .markNsfw => .ok { meme with isNsfw := true }
  | .markSfw => .ok { meme with isNsfw := false }
  | .hide => .ok { meme with visibilityMode := .forcePrivate, isPublic := false }
  | .publish => .ok { meme with visibilityMode := .forcePublic, isPublic := true }
  | .hideAndMarkNsfw =>
    .ok { meme with visibilityMode := .forcePrivate, isPublic := false, isNsfw := true }
  | action => .error ⟨.adminConflict, s!"Unsupported moderation action {action.value}."⟩

def decisionBetween (id adminUserId : Uuid) (action : ModerationAction)
    (reason : Option ModerationReason) (note : Option String)
    (previous next : CanonicalMeme) : ModerationDecision where
  id := id
  memeId := previous.id
  adminUserId := some adminUserId
  action := action
  reason := reason
  note := note
  previousIsPublic := previous.isPublic
  previousVisibilityMode := previous.visibilityMode
  previousIsNsfw := previous.isNsfw
  newIsPublic := next.isPublic
  newVisibilityMode := next.visibilityMode
  newIsNsfw := next.isNsfw
  previousTemplateId := previous.templateId
  newTemplateId := next.templateId

structure ReportResolution where
  report : ModerationReport
  closed : ModerationReport
  meme : CanonicalMeme
  moderated : CanonicalMeme
  decision : ModerationDecision

def resolveModerationReport (report : ModerationReport) (meme : CanonicalMeme) (adminUserId : Uuid)
    (request : ReportResolveRequest) (decisionId : Uuid) (now : Time) :
    Except ServiceError ReportResolution := do
  let moderated ← applyModerationAction meme request.action
  pure
    { report := report
      closed :=
        { report with
          status := if request.action = .noAction then .dismissed else .resolved
          resolvedByAdminUserId := some adminUserId
          resolvedAt := some now }
      meme := meme
      moderated := moderated
      decision :=
        { decisionBetween decisionId adminUserId request.action
            (request.reason <|> some report.reason) request.note meme moderated with
          reportId := some report.id } }

def overriddenMeme (meme : CanonicalMeme) (request : MemeModerationUpdateRequest)
    (hasPublicCrawlerSource : Bool) : CanonicalMeme :=
  let marked := { meme with isNsfw := request.isNsfw.getD meme.isNsfw }
  let shown :=
    match request.visibilityMode with
    | none => marked
    | some mode =>
      { marked with
        visibilityMode := mode
        isPublic := refreshedVisibility mode none hasPublicCrawlerSource }
  { shown with templateId := request.templateId.getD shown.templateId }

def flagsChanged (previous next : CanonicalMeme) : Bool :=
  previous.isPublic ≠ next.isPublic || previous.visibilityMode ≠ next.visibilityMode ||
    previous.isNsfw ≠ next.isNsfw

def templateChanged (previous next : CanonicalMeme) : Bool := previous.templateId ≠ next.templateId

def overrideDecisions (previous next : CanonicalMeme) (adminUserId : Uuid)
    (request : MemeModerationUpdateRequest) (flagsId templateDecisionId : Uuid) :
    List ModerationDecision :=
  (if flagsChanged previous next then
    [decisionBetween flagsId adminUserId .overrideFlags request.reason request.note previous next]
  else []) ++
  if templateChanged previous next then
    [decisionBetween templateDecisionId adminUserId .templateOverride request.reason request.note
      { next with templateId := previous.templateId } next]
  else []

def written {α : Type} [DecidableEq α] (loaded edited row : α) : α :=
  if edited = loaded then row else edited

def flushMeme (loaded edited row : CanonicalMeme) : CanonicalMeme :=
  { row with
    isPublic := written loaded.isPublic edited.isPublic row.isPublic
    visibilityMode := written loaded.visibilityMode edited.visibilityMode row.visibilityMode
    isNsfw := written loaded.isNsfw edited.isNsfw row.isNsfw
    templateId := written loaded.templateId edited.templateId row.templateId }

def flushReport (loaded edited row : ModerationReport) : ModerationReport :=
  { row with
    status := written loaded.status edited.status row.status
    resolvedByAdminUserId :=
      written loaded.resolvedByAdminUserId edited.resolvedByAdminUserId row.resolvedByAdminUserId
    resolvedAt := written loaded.resolvedAt edited.resolvedAt row.resolvedAt }

inductive ModerationCall where
  | resolving (reportId adminUserId : Uuid) (request : ReportResolveRequest)
  | reportLoaded (report : ModerationReport) (adminUserId : Uuid) (request : ReportResolveRequest)
  | resolved (resolution : ReportResolution)
  | overriding (meme : CanonicalMeme) (adminUserId : Uuid) (request : MemeModerationUpdateRequest)
  | refreshing (meme : CanonicalMeme) (incomingSourceKind : IngestSourceKind)

def ModerationCall.loadedReport : ModerationCall → Option ModerationReport
  | .reportLoaded report _ _ => some report
  | .resolved resolution => some resolution.report
  | _ => none

def ModerationCall.lockedMeme : ModerationCall → Option CanonicalMeme
  | .overriding meme _ _ | .refreshing meme _ => some meme
  | _ => none

structure ModerationState where
  memes : Table fun meme : CanonicalMeme => meme.id
  reports : Table ModerationReport.id
  decisions : List ModerationDecision := []
  templates : List Uuid := []
  locks : Uuid → Option Nat := fun _ => none
  calls : Nat → Option ModerationCall := fun _ => none

inductive ModerationLabel where
  | startResolve (callId : Nat) (reportId adminUserId : Uuid) (request : ReportResolveRequest)
  | loadReport (callId : Nat)
  | loadMeme (callId : Nat) (decisionId : Uuid) (now : Time)
  | commitResolve (callId : Nat)
  | startOverride (callId : Nat) (memeId adminUserId : Uuid) (request : MemeModerationUpdateRequest)
  | commitOverride (callId : Nat) (flagsId templateDecisionId : Uuid)
      (hasPublicCrawlerSource : Bool)
  | startRefresh (callId : Nat) (memeId : Uuid) (incomingSourceKind : IngestSourceKind)
  | commitRefresh (callId : Nat) (hasPublicCrawlerSource : Bool)
  | stop (callId : Nat)

namespace ModerationState

variable (s : ModerationState)

def setCall (callId : Nat) (call : ModerationCall) : ModerationState :=
  { s with calls := Function.update s.calls callId (some call) }

def endCall (callId : Nat) : ModerationState :=
  { s with
    calls := Function.update s.calls callId none
    locks := fun memeId => if s.locks memeId = some callId then none else s.locks memeId }

/-- `SELECT … FOR UPDATE` returns once no other transaction has the row. -/
def lockMeme (callId : Nat) (memeId : Uuid) (call : CanonicalMeme → ModerationCall) :
    Option ModerationState :=
  if s.calls callId = none ∧ s.locks memeId = none then
    (s.memes.get memeId).map fun meme =>
      { s.setCall callId (call meme) with locks := Function.update s.locks memeId (some callId) }
  else none

def loadReport (callId : Nat) (reportId adminUserId : Uuid) (request : ReportResolveRequest) :
    ModerationState :=
  match s.reports.get reportId with
  | none => s.endCall callId
  | some report =>
    if report.isOpen then s.setCall callId (.reportLoaded report adminUserId request)
    else s.endCall callId

def loadMeme (callId : Nat) (report : ModerationReport) (adminUserId : Uuid)
    (request : ReportResolveRequest) (decisionId : Uuid) (now : Time) : ModerationState :=
  match s.memes.get report.memeId with
  | none => s.endCall callId
  | some meme =>
    match resolveModerationReport report meme adminUserId request decisionId now with
    | .error _ => s.endCall callId
    | .ok resolution => s.setCall callId (.resolved resolution)

def commitResolve (callId : Nat) (resolution : ReportResolution) : Option ModerationState :=
  match s.memes.get resolution.meme.id, s.reports.get resolution.report.id with
  | some meme, some report =>
    if s.locks meme.id = none then
      some
        { s.endCall callId with
          memes := s.memes.save (flushMeme resolution.meme resolution.moderated meme)
          reports := s.reports.save (flushReport resolution.report resolution.closed report)
          decisions := s.decisions ++ [resolution.decision] }
    else none
  | _, _ => some (s.endCall callId)

def commitOverride (callId : Nat) (meme : CanonicalMeme) (adminUserId : Uuid)
    (request : MemeModerationUpdateRequest) (flagsId templateDecisionId : Uuid)
    (hasPublicCrawlerSource : Bool) : ModerationState :=
  if request.templateId.join.all fun templateId => templateId ∈ s.templates then
    let next := overriddenMeme meme request hasPublicCrawlerSource
    { s.endCall callId with
      memes :=
        match s.memes.get meme.id with
        | none => s.memes
        | some row => s.memes.save (flushMeme meme next row)
      decisions :=
        s.decisions ++ overrideDecisions meme next adminUserId request flagsId templateDecisionId }
  else s.endCall callId

def commitRefresh (callId : Nat) (meme : CanonicalMeme) (incomingSourceKind : IngestSourceKind)
    (hasPublicCrawlerSource : Bool) : ModerationState :=
  let next :=
    { meme with
      isPublic :=
        refreshedVisibility meme.visibilityMode (some incomingSourceKind) hasPublicCrawlerSource }
  { s.endCall callId with
    memes :=
      match s.memes.get meme.id with
      | none => s.memes
      | some row => s.memes.save (flushMeme meme next row) }

end ModerationState

def moderationStep (s : ModerationState) (label : ModerationLabel) : Option ModerationState :=
  match label with
  | .startResolve callId reportId adminUserId request =>
    if s.calls callId = none ∧ request.action ≠ .overrideFlags then
      some (s.setCall callId (.resolving reportId adminUserId request))
    else none
  | .loadReport callId =>
    match s.calls callId with
    | some (.resolving reportId adminUserId request) =>
      some (s.loadReport callId reportId adminUserId request)
    | _ => none
  | .loadMeme callId decisionId now =>
    match s.calls callId with
    | some (.reportLoaded report adminUserId request) =>
      some (s.loadMeme callId report adminUserId request decisionId now)
    | _ => none
  | .commitResolve callId =>
    match s.calls callId with
    | some (.resolved resolution) => s.commitResolve callId resolution
    | _ => none
  | .startOverride callId memeId adminUserId request =>
    s.lockMeme callId memeId fun meme => .overriding meme adminUserId request
  | .commitOverride callId flagsId templateDecisionId hasPublicCrawlerSource =>
    match s.calls callId with
    | some (.overriding meme adminUserId request) =>
      some (s.commitOverride callId meme adminUserId request flagsId templateDecisionId
        hasPublicCrawlerSource)
    | _ => none
  | .startRefresh callId memeId incomingSourceKind =>
    s.lockMeme callId memeId fun meme => .refreshing meme incomingSourceKind
  | .commitRefresh callId hasPublicCrawlerSource =>
    match s.calls callId with
    | some (.refreshing meme incomingSourceKind) =>
      some (s.commitRefresh callId meme incomingSourceKind hasPublicCrawlerSource)
    | _ => none
  | .stop callId => some (s.endCall callId)

/-- The outcomes of a step; an error or a stop drops the call. -/
inductive ModerationOutcome (s : ModerationState) : ModerationLabel → ModerationState → Prop where
  | dropped (label : ModerationLabel) (callId : Nat) : ModerationOutcome s label (s.endCall callId)
  | started {callId : Nat} {reportId adminUserId : Uuid} {request : ReportResolveRequest}
      (hfree : s.calls callId = none) :
      ModerationOutcome s (.startResolve callId reportId adminUserId request)
        (s.setCall callId (.resolving reportId adminUserId request))
  | reportRead {callId : Nat} {reportId adminUserId : Uuid} {request : ReportResolveRequest}
      {report : ModerationReport} (hcall : s.calls callId = some (.resolving reportId adminUserId request))
      (hreport : s.reports.get reportId = some report) (hopen : report.isOpen = true) :
      ModerationOutcome s (.loadReport callId)
        (s.setCall callId (.reportLoaded report adminUserId request))
  | memeRead {callId : Nat} {report : ModerationReport} {adminUserId decisionId : Uuid} {now : Time}
      {request : ReportResolveRequest} {meme : CanonicalMeme} {resolution : ReportResolution}
      (hcall : s.calls callId = some (.reportLoaded report adminUserId request))
      (hmeme : s.memes.get report.memeId = some meme)
      (hresolved : resolveModerationReport report meme adminUserId request decisionId now =
        .ok resolution) :
      ModerationOutcome s (.loadMeme callId decisionId now) (s.setCall callId (.resolved resolution))
  | resolveCommitted {callId : Nat} {resolution : ReportResolution} {meme : CanonicalMeme}
      {report : ModerationReport} (hcall : s.calls callId = some (.resolved resolution))
      (hmeme : s.memes.get resolution.meme.id = some meme)
      (hreport : s.reports.get resolution.report.id = some report) (hfree : s.locks meme.id = none) :
      ModerationOutcome s (.commitResolve callId)
        { s.endCall callId with
          memes := s.memes.save (flushMeme resolution.meme resolution.moderated meme)
          reports := s.reports.save (flushReport resolution.report resolution.closed report)
          decisions := s.decisions ++ [resolution.decision] }
  | memeLocked {label : ModerationLabel} {callId : Nat} {meme : CanonicalMeme}
      {call : ModerationCall} (hstart : ∀ id, label ≠ .commitResolve id)
      (hoverride : ∀ id a b c, label ≠ .commitOverride id a b c) (hidle : s.calls callId = none)
      (hfree : s.locks meme.id = none) (hmeme : s.memes.get meme.id = some meme)
      (hlocked : call.lockedMeme = some meme) (hloaded : call.loadedReport = none) :
      ModerationOutcome s label
        { s.setCall callId call with locks := Function.update s.locks meme.id (some callId) }
  | overrideCommitted {callId : Nat} {meme : CanonicalMeme} {adminUserId : Uuid}
      {request : MemeModerationUpdateRequest} {flagsId templateDecisionId : Uuid}
      {hasPublicCrawlerSource : Bool}
      (hcall : s.calls callId = some (.overriding meme adminUserId request))
      (htemplate : (request.templateId.join.all fun templateId => templateId ∈ s.templates) = true) :
      ModerationOutcome s (.commitOverride callId flagsId templateDecisionId hasPublicCrawlerSource)
        (s.commitOverride callId meme adminUserId request flagsId templateDecisionId
          hasPublicCrawlerSource)
  | refreshCommitted {callId : Nat} {meme : CanonicalMeme} {incomingSourceKind : IngestSourceKind}
      {hasPublicCrawlerSource : Bool}
      (hcall : s.calls callId = some (.refreshing meme incomingSourceKind)) :
      ModerationOutcome s (.commitRefresh callId hasPublicCrawlerSource)
        (s.commitRefresh callId meme incomingSourceKind hasPublicCrawlerSource)

section Steps

variable {s t : ModerationState} {label : ModerationLabel}

theorem outcome_of_lockMeme {callId : Nat} {memeId : Uuid} {call : CanonicalMeme → ModerationCall}
    (hstart : ∀ id, label ≠ .commitResolve id)
    (hoverride : ∀ id a b c, label ≠ .commitOverride id a b c)
    (hlocked : ∀ meme, (call meme).lockedMeme = some meme)
    (hloaded : ∀ meme, (call meme).loadedReport = none)
    (h : s.lockMeme callId memeId call = some t) : ModerationOutcome s label t := by
  unfold ModerationState.lockMeme at h
  split at h
  · next hfree =>
    obtain ⟨meme, hmeme, rfl⟩ := Option.map_eq_some_iff.mp h
    obtain ⟨-, rfl⟩ := (Table.get_eq_some_iff _).mp hmeme
    exact .memeLocked hstart hoverride hfree.1 hfree.2 hmeme (hlocked meme) (hloaded meme)
  · cases h

theorem outcome_of_step (h : moderationStep s label = some t) : ModerationOutcome s label t := by
  unfold moderationStep at h
  split at h
  · split at h
    · next hfree =>
      cases h
      exact .started hfree.1
    · cases h
  · split at h
    · next hcall =>
      cases h
      unfold ModerationState.loadReport
      split
      · exact .dropped _ _
      next report hreport =>
      split
      · next hopen => exact .reportRead hcall hreport hopen
      · exact .dropped _ _
    · cases h
  · split at h
    · next hcall =>
      cases h
      unfold ModerationState.loadMeme
      split
      · exact .dropped _ _
      next meme hmeme =>
      split
      · exact .dropped _ _
      · next hresolved => exact .memeRead hcall hmeme hresolved
    · cases h
  · split at h
    · next hcall =>
      unfold ModerationState.commitResolve at h
      split at h
      · next hmeme hreport =>
        split at h
        · next hfree =>
          cases h
          exact .resolveCommitted hcall hmeme hreport hfree
        · cases h
      · cases h
        exact .dropped _ _
    · cases h
  · exact outcome_of_lockMeme (fun _ => nofun) (fun _ _ _ _ => nofun) (fun _ => rfl)
      (fun _ => rfl) h
  · split at h
    · next callId _ _ _ meme _ request hcall =>
      cases h
      by_cases htemplate : (request.templateId.join.all fun id => id ∈ s.templates) = true
      · exact .overrideCommitted hcall htemplate
      · rw [ModerationState.commitOverride, if_neg htemplate]
        exact .dropped _ _
    · cases h
  · exact outcome_of_lockMeme (fun _ => nofun) (fun _ _ _ _ => nofun) (fun _ => rfl)
      (fun _ => rfl) h
  · split at h
    · next hcall =>
      cases h
      exact .refreshCommitted hcall
    · cases h
  · cases h
    exact .dropped _ _

end Steps

def ShownAsSet (meme : CanonicalMeme) : Prop :=
  (meme.visibilityMode = .forcePublic → meme.isPublic = true) ∧
    (meme.visibilityMode = .forcePrivate → meme.isPublic = false)

def closings (s : ModerationState) (reportId : Uuid) : Nat :=
  s.decisions.countP fun decision => decision.reportId = some reportId

abbrev ModerationTransition := Transition ModerationState ModerationLabel

def newDecisions (x : ModerationTransition) : List ModerationDecision :=
  x.after.decisions.drop x.before.decisions.length

structure FaithfulLedger (x : ModerationTransition) : Prop where
  closed_once : ∀ reportId, closings x.after reportId ≤ 1
  recorded : ∀ decision ∈ newDecisions x, ∃ previous next,
    x.before.memes.get decision.memeId = some previous ∧
    x.after.memes.get decision.memeId = some next ∧
    decision.HasPrevious previous ∧ decision.HasNew next
  shown : ∀ meme ∈ x.after.memes.rows, ShownAsSet meme

def SameColumns (loaded row : CanonicalMeme) : Prop :=
  loaded.isPublic = row.isPublic ∧ loaded.visibilityMode = row.visibilityMode ∧
    loaded.isNsfw = row.isNsfw ∧ loaded.templateId = row.templateId

def MemeModerationUpdateRequest.changesFlags (request : MemeModerationUpdateRequest)
    (meme : CanonicalMeme) (hasPublicCrawlerSource : Bool) : Bool :=
  (request.isNsfw.any fun isNsfw => isNsfw ≠ meme.isNsfw) ||
    request.visibilityMode.any fun mode => mode ≠ meme.visibilityMode ||
      refreshedVisibility mode none hasPublicCrawlerSource ≠ meme.isPublic

def MemeModerationUpdateRequest.changesTemplate (request : MemeModerationUpdateRequest)
    (meme : CanonicalMeme) : Bool :=
  request.templateId.any fun templateId => templateId ≠ meme.templateId

def UpToDate (s : ModerationState) : ModerationLabel → Prop
  | .commitResolve callId => ∀ resolution meme report,
    s.calls callId = some (.resolved resolution) →
    s.memes.get resolution.meme.id = some meme →
    s.reports.get resolution.report.id = some report →
    report.isOpen = true ∧ SameColumns resolution.meme meme
  | .commitOverride callId _ _ hasPublicCrawlerSource => ∀ meme adminUserId request,
    s.calls callId = some (.overriding meme adminUserId request) →
    (request.templateId.join.all fun templateId => templateId ∈ s.templates) = true →
    ¬ (request.changesFlags meme hasPublicCrawlerSource = true ∧
      request.changesTemplate meme = true)
  | _ => True

structure InitialLedger (s : ModerationState) : Prop where
  idle : ∀ callId, s.calls callId = none
  closed_once : ∀ reportId, closings s reportId ≤ 1
  open_unclosed : ∀ report ∈ s.reports.rows, report.isOpen = true → closings s report.id = 0
  shown : ∀ meme ∈ s.memes.rows, ShownAsSet meme

structure SessionsHeld (s : ModerationState) : Prop where
  locked : ∀ callId call meme, s.calls callId = some call → call.lockedMeme = some meme →
    s.locks meme.id = some callId ∧ s.memes.get meme.id = some meme
  loaded : ∀ callId call report, s.calls callId = some call → call.loadedReport = some report →
    report.isOpen = true ∧
      (1 ≤ closings s report.id ∨ ∃ row, s.reports.get report.id = some row ∧ row.isOpen = true)
  resolved : ∀ callId resolution, s.calls callId = some (.resolved resolution) →
    ∃ adminUserId request decisionId now, resolveModerationReport resolution.report resolution.meme
      adminUserId request decisionId now = .ok resolution

section Columns

variable {meme next row loaded moderated : CanonicalMeme}

theorem written_self {α : Type} [DecidableEq α] (loaded edited : α) :
    written loaded edited loaded = edited := by
  unfold written
  split
  · next h => exact h.symm
  · rfl

theorem flushMeme_same (h : SameColumns loaded row) :
    SameColumns (flushMeme loaded moderated row) moderated := by
  obtain ⟨hpublic, hmode, hnsfw, htemplate⟩ := h
  simp only [SameColumns, flushMeme, ← hpublic, ← hmode, ← hnsfw, ← htemplate, written_self,
    and_self]

theorem ShownAsSet.congr (h : ShownAsSet meme) (hsame : SameColumns next meme) :
    ShownAsSet next := by
  obtain ⟨hpublic, hmode, -, -⟩ := hsame
  unfold ShownAsSet at h ⊢
  rwa [hpublic, hmode]

theorem shownAsSet_refreshed (mode : MemeVisibilityMode)
    (incomingSourceKind : Option IngestSourceKind) (hasPublicCrawlerSource : Bool)
    (hmode : meme.visibilityMode = mode)
    (hpublic : meme.isPublic =
      refreshedVisibility mode incomingSourceKind hasPublicCrawlerSource) : ShownAsSet meme := by
  unfold ShownAsSet
  rw [hmode, hpublic]
  constructor
  · rintro rfl
    simp [refreshedVisibility]
  · rintro rfl
    rfl

theorem shownAsSet_applied {action : ModerationAction}
    (h : applyModerationAction meme action = .ok next) (hmeme : ShownAsSet meme) :
    ShownAsSet next := by
  cases action with
  | noAction => cases h; exact hmeme
  | markNsfw => cases h; exact hmeme
  | markSfw => cases h; exact hmeme
  | hide => cases h; exact ⟨nofun, fun _ => rfl⟩
  | publish => cases h; exact ⟨fun _ => rfl, nofun⟩
  | hideAndMarkNsfw => cases h; exact ⟨nofun, fun _ => rfl⟩
  | templateOverride => cases h
  | overrideFlags => cases h

variable {hasPublicCrawlerSource : Bool} {request : MemeModerationUpdateRequest}

theorem shownAsSet_overridden (hmeme : ShownAsSet meme) :
    ShownAsSet (overriddenMeme meme request hasPublicCrawlerSource) := by
  cases hmode : request.visibilityMode with
  | none => simpa only [ShownAsSet, overriddenMeme, hmode] using hmeme
  | some mode =>
    apply shownAsSet_refreshed mode none hasPublicCrawlerSource
    · simp only [overriddenMeme, hmode]
    · simp only [overriddenMeme, hmode]

theorem flagsChanged_overridden :
    flagsChanged meme (overriddenMeme meme request hasPublicCrawlerSource) =
      request.changesFlags meme hasPublicCrawlerSource := by
  rw [Bool.eq_iff_iff]
  cases hnsfw : request.isNsfw <;> cases hmode : request.visibilityMode <;>
    simp [flagsChanged, overriddenMeme, MemeModerationUpdateRequest.changesFlags, hnsfw, hmode]
  all_goals grind

theorem templateChanged_overridden :
    templateChanged meme (overriddenMeme meme request hasPublicCrawlerSource) =
      request.changesTemplate meme := by
  cases htemplate : request.templateId with
  | none =>
    cases hmode : request.visibilityMode <;>
      simp [templateChanged, overriddenMeme, MemeModerationUpdateRequest.changesTemplate,
        htemplate, hmode]
  | some templateId =>
    simp [templateChanged, overriddenMeme, MemeModerationUpdateRequest.changesTemplate, htemplate,
      eq_comm]

variable {s t : ModerationState} {label : ModerationLabel} {callId : Nat}

variable {adminUserId : Uuid}

theorem resolveModerationReport_ok {report : ModerationReport} {meme : CanonicalMeme}
    {decisionId : Uuid} {request : ReportResolveRequest} {now : Time}
    {resolution : ReportResolution}
    (h : resolveModerationReport report meme adminUserId request decisionId now = .ok resolution) :
    resolution.report = report ∧ resolution.meme = meme ∧
      applyModerationAction meme request.action = .ok resolution.moderated ∧
      resolution.closed.isOpen = false ∧
      resolution.decision.memeId = meme.id ∧ resolution.decision.reportId = some report.id ∧
      resolution.decision.HasPrevious meme ∧ resolution.decision.HasNew resolution.moderated := by
  obtain ⟨moderated, happly, hok⟩ := Results.bind_eq_ok.mp h
  cases hok
  refine ⟨rfl, rfl, happly, ?_, rfl, rfl, ⟨rfl, rfl, rfl, rfl⟩, ⟨rfl, rfl, rfl, rfl⟩⟩
  by_cases haction : request.action = .noAction <;> simp [ModerationReport.isOpen, haction]

theorem isOpen_flushReport {report closed row : ModerationReport} (hopen : report.isOpen = true)
    (hclosed : closed.isOpen = false) : (flushReport report closed row).isOpen = false := by
  have hne : closed.status ≠ report.status := by
    intro heq
    unfold ModerationReport.isOpen at hopen hclosed
    rw [heq, hopen] at hclosed
    cases hclosed
  have hstatus : (flushReport report closed row).status = closed.status := by
    simp [flushReport, written, hne]
  unfold ModerationReport.isOpen at hclosed ⊢
  rw [hstatus, hclosed]

variable {call : ModerationCall}

theorem calls_endCall {other : Nat}
    (h : (s.endCall callId).calls other = some call) :
    other ≠ callId ∧ s.calls other = some call := by
  by_cases heq : other = callId
  · simp [ModerationState.endCall, heq] at h
  · simpa [ModerationState.endCall, Function.update_of_ne heq, heq] using h

theorem locks_endCall {other : Nat} {memeId : Uuid} (hne : other ≠ callId)
    (h : s.locks memeId = some other) : (s.endCall callId).locks memeId = some other := by
  simp [ModerationState.endCall, h, hne]

theorem SessionsHeld.ended (hs : SessionsHeld s) {memes : Table fun meme : CanonicalMeme => meme.id}
    {reports : Table ModerationReport.id} {decisions : List ModerationDecision}
    (hmemes : ∀ other memeId, other ≠ callId → s.locks memeId = some other →
      memes.get memeId = s.memes.get memeId)
    (hdecisions : ∀ reportId, closings s reportId ≤
      decisions.countP fun decision => decision.reportId = some reportId)
    (hreports : ∀ reportId row, s.reports.get reportId = some row → row.isOpen = true →
      (1 ≤ decisions.countP fun decision => decision.reportId = some reportId) ∨
        reports.get reportId = some row) :
    SessionsHeld
      { s.endCall callId with memes := memes, reports := reports, decisions := decisions } where
  locked := by
    intro other call meme hcall hlocked
    obtain ⟨hne, hcall⟩ := calls_endCall hcall
    obtain ⟨hlock, hrow⟩ := hs.locked other call meme hcall hlocked
    exact ⟨locks_endCall hne hlock, (hmemes other meme.id hne hlock).trans hrow⟩
  loaded := by
    intro other call report hcall hloaded
    obtain ⟨hopen, hrow⟩ := hs.loaded other call report (calls_endCall hcall).2 hloaded
    refine ⟨hopen, ?_⟩
    rcases hrow with hclosed | ⟨row, hrow, hrowopen⟩
    · exact .inl (Nat.le_trans hclosed (hdecisions report.id))
    rcases hreports report.id row hrow hrowopen with hclosed | hkept
    · exact .inl hclosed
    · exact .inr ⟨row, hkept, hrowopen⟩
  resolved := fun other resolution hcall => hs.resolved other resolution (calls_endCall hcall).2

theorem sessionsHeld_endCall (hs : SessionsHeld s) (callId : Nat) :
    SessionsHeld (s.endCall callId) :=
  hs.ended (fun _ _ _ _ => rfl) (fun _ => Nat.le_refl _) fun _ _ hrow _ => .inr hrow

theorem sessionsHeld_setCall (hs : SessionsHeld s)
    (hlocked : call.lockedMeme = none)
    (hloaded : ∀ report, call.loadedReport = some report →
      report.isOpen = true ∧ (1 ≤ closings s report.id ∨
        ∃ row, s.reports.get report.id = some row ∧ row.isOpen = true))
    (hresolved : ∀ resolution, call = .resolved resolution →
      ∃ adminUserId request decisionId now, resolveModerationReport resolution.report
        resolution.meme adminUserId request decisionId now = .ok resolution) :
    SessionsHeld (s.setCall callId call) where
  locked := by
    intro other found meme hcall hmeme
    by_cases heq : other = callId
    · subst heq
      simp only [ModerationState.setCall, Function.update_self, Option.some.injEq] at hcall
      rw [← hcall, hlocked] at hmeme
      cases hmeme
    · simp only [ModerationState.setCall, Function.update_of_ne heq] at hcall
      exact hs.locked other found meme hcall hmeme
  loaded := by
    intro other found report hcall hreport
    by_cases heq : other = callId
    · subst heq
      simp only [ModerationState.setCall, Function.update_self, Option.some.injEq] at hcall
      exact hloaded report (hcall ▸ hreport)
    · simp only [ModerationState.setCall, Function.update_of_ne heq] at hcall
      exact hs.loaded other found report hcall hreport
  resolved := by
    intro other resolution hcall
    by_cases heq : other = callId
    · subst heq
      simp only [ModerationState.setCall, Function.update_self, Option.some.injEq] at hcall
      exact hresolved resolution hcall
    · simp only [ModerationState.setCall, Function.update_of_ne heq] at hcall
      exact hs.resolved other resolution hcall

theorem sessionsHeld_lock (hs : SessionsHeld s) {meme : CanonicalMeme}
    (hfree : s.locks meme.id = none) (hmeme : s.memes.get meme.id = some meme)
    (hlocked : call.lockedMeme = some meme) (hloaded : call.loadedReport = none) :
    SessionsHeld
      { s.setCall callId call with
        locks := Function.update s.locks meme.id (some callId) } where
  locked := by
    intro other found held hcall hheld
    by_cases heq : other = callId
    · subst heq
      simp only [ModerationState.setCall, Function.update_self, Option.some.injEq] at hcall
      subst hcall
      rw [hlocked] at hheld
      cases hheld
      exact ⟨Function.update_self .., hmeme⟩
    simp only [ModerationState.setCall, Function.update_of_ne heq] at hcall
    obtain ⟨hlock, hrow⟩ := hs.locked other found held hcall hheld
    have hne : held.id ≠ meme.id := by
      intro hid
      rw [hid, hfree] at hlock
      cases hlock
    exact ⟨(Function.update_of_ne hne ..).trans hlock, hrow⟩
  loaded := by
    intro other found report hcall hreport
    by_cases heq : other = callId
    · subst heq
      simp only [ModerationState.setCall, Function.update_self, Option.some.injEq] at hcall
      subst hcall
      rw [hloaded] at hreport
      cases hreport
    · simp only [ModerationState.setCall, Function.update_of_ne heq] at hcall
      exact hs.loaded other found report hcall hreport
  resolved := by
    intro other resolution hcall
    by_cases heq : other = callId
    · subst heq
      simp only [ModerationState.setCall, Function.update_self, Option.some.injEq] at hcall
      subst hcall
      cases hlocked
    · simp only [ModerationState.setCall, Function.update_of_ne heq] at hcall
      exact hs.resolved other resolution hcall

theorem flushMeme_locked {meme next : CanonicalMeme}
    (h : next = { meme with
      isPublic := next.isPublic, visibilityMode := next.visibilityMode
      isNsfw := next.isNsfw, templateId := next.templateId }) : flushMeme meme next meme = next := by
  simp only [flushMeme, written_self]
  exact h.symm

variable {flagsId templateDecisionId : Uuid} {hasPublicCrawlerSource : Bool}
  {request : MemeModerationUpdateRequest}

theorem SessionsHeld.commitOverride_eq (hs : SessionsHeld s) {meme : CanonicalMeme}
    (hcall : s.calls callId = some (.overriding meme adminUserId request))
    (htemplate : (request.templateId.join.all fun id => id ∈ s.templates) = true) :
    s.commitOverride callId meme adminUserId request flagsId templateDecisionId
        hasPublicCrawlerSource =
      { s.endCall callId with
        memes := s.memes.save (overriddenMeme meme request hasPublicCrawlerSource)
        decisions := s.decisions ++ overrideDecisions meme
          (overriddenMeme meme request hasPublicCrawlerSource) adminUserId request flagsId
          templateDecisionId } := by
  obtain ⟨-, hrow⟩ := hs.locked callId _ meme hcall rfl
  have hflush : flushMeme meme (overriddenMeme meme request hasPublicCrawlerSource) meme =
      overriddenMeme meme request hasPublicCrawlerSource := by
    apply flushMeme_locked
    cases hmode : request.visibilityMode <;> simp [overriddenMeme, hmode]
  unfold ModerationState.commitOverride
  rw [if_pos htemplate]
  simp only [hrow, hflush]

theorem SessionsHeld.commitRefresh_eq (hs : SessionsHeld s) {meme : CanonicalMeme}
    {incomingSourceKind : IngestSourceKind}
    (hcall : s.calls callId = some (.refreshing meme incomingSourceKind)) :
    s.commitRefresh callId meme incomingSourceKind hasPublicCrawlerSource =
      { s.endCall callId with
        memes := s.memes.save { meme with
          isPublic := refreshedVisibility meme.visibilityMode (some incomingSourceKind)
            hasPublicCrawlerSource } } := by
  obtain ⟨-, hrow⟩ := hs.locked callId _ meme hcall rfl
  unfold ModerationState.commitRefresh
  simp only [hrow]
  rw [flushMeme_locked rfl]

theorem id_overriddenMeme {meme : CanonicalMeme} :
    (overriddenMeme meme request hasPublicCrawlerSource).id = meme.id := by
  cases hmode : request.visibilityMode <;> simp [overriddenMeme, hmode]

theorem SessionsHeld.get_save_of_lock (hs : SessionsHeld s) {meme next : CanonicalMeme}
    (hcall : s.calls callId = some call)
    (hlocked : call.lockedMeme = some meme) (hid : next.id = meme.id) (other : Nat) (memeId : Uuid)
    (hne : other ≠ callId) (hlock : s.locks memeId = some other) :
    (s.memes.save next).get memeId = s.memes.get memeId := by
  apply Table.get_save_of_ne
  intro heq
  obtain ⟨hheld, -⟩ := hs.locked callId call meme hcall hlocked
  rw [heq, hid, hheld] at hlock
  exact hne (Option.some.inj hlock).symm

theorem sessionsHeld_step (hs : SessionsHeld s) (h : moderationStep s label = some t) :
    SessionsHeld t := by
  cases outcome_of_step h with
  | dropped _ callId => exact sessionsHeld_endCall hs callId
  | started hfree => exact sessionsHeld_setCall hs rfl (fun _ => nofun) fun _ => nofun
  | reportRead hcall hreport hopen =>
    refine sessionsHeld_setCall hs rfl ?_ fun _ => nofun
    intro report hloaded
    cases hloaded
    obtain ⟨-, rfl⟩ := (Table.get_eq_some_iff _).mp hreport
    exact ⟨hopen, .inr ⟨_, hreport, hopen⟩⟩
  | memeRead hcall hmeme hresolved =>
    obtain ⟨hreport, hread, -⟩ := resolveModerationReport_ok hresolved
    refine sessionsHeld_setCall hs rfl ?_ ?_
    · intro report hloaded
      cases hloaded
      rw [hreport]
      exact hs.loaded _ _ _ hcall rfl
    intro resolution heq
    cases heq
    rw [hreport, hread]
    exact ⟨_, _, _, _, hresolved⟩
  | @resolveCommitted callId resolution meme report hcall hmeme hreport hfree =>
    obtain ⟨_, _, _, _, hresolved⟩ := hs.resolved callId resolution hcall
    obtain ⟨-, -, -, -, -, hof, -⟩ := resolveModerationReport_ok hresolved
    obtain ⟨-, hid⟩ := (Table.get_eq_some_iff _).mp hreport
    apply hs.ended
    · intro other memeId _ hlock
      apply Table.get_save_of_ne
      rintro rfl
      rw [show (flushMeme resolution.meme resolution.moderated meme).id = meme.id from rfl,
        hfree] at hlock
      cases hlock
    · intro reportId
      rw [List.countP_append]
      exact Nat.le_add_right ..
    intro reportId row hrow _
    by_cases heq : reportId = resolution.report.id
    · left
      rw [List.countP_append]
      simp [hof, heq]
    right
    rw [← hrow]
    apply Table.get_save_of_ne
    exact fun hsame => heq (hsame.trans hid)
  | memeLocked hstart hoverride hidle hfree hmeme hlocked hloaded =>
    exact sessionsHeld_lock hs hfree hmeme hlocked hloaded
  | overrideCommitted hcall htemplate =>
    rw [hs.commitOverride_eq hcall htemplate]
    apply hs.ended
    · exact hs.get_save_of_lock hcall rfl id_overriddenMeme
    · intro reportId
      rw [List.countP_append]
      exact Nat.le_add_right ..
    · exact fun _ _ hrow _ => .inr hrow
  | refreshCommitted hcall =>
    rw [hs.commitRefresh_eq hcall]
    exact hs.ended (hs.get_save_of_lock hcall rfl rfl) (fun _ => Nat.le_refl _)
      fun _ _ hrow _ => .inr hrow

end Columns

structure LedgerKept (s : ModerationState) : Prop where
  closed_once : ∀ reportId, closings s reportId ≤ 1
  open_unclosed : ∀ report ∈ s.reports.rows, report.isOpen = true → closings s report.id = 0
  shown : ∀ meme ∈ s.memes.rows, ShownAsSet meme

section Ledger

variable {s t : ModerationState} {label : ModerationLabel} {callId : Nat}

theorem shown_save (h : ∀ meme ∈ s.memes.rows, ShownAsSet meme) {next : CanonicalMeme}
    (hnext : ShownAsSet next) : ∀ meme ∈ (s.memes.save next).rows, ShownAsSet meme := by
  intro meme hmeme
  rcases s.memes.eq_or_mem_of_mem_save hmeme with rfl | hold
  · exact hnext
  · exact h meme hold

variable {adminUserId flagsId templateDecisionId : Uuid} {request : MemeModerationUpdateRequest}

theorem reportId_of_mem_overrideDecisions {previous next : CanonicalMeme}
    {decision : ModerationDecision}
    (h : decision ∈ overrideDecisions previous next adminUserId request flagsId
      templateDecisionId) : decision.reportId = none := by
  unfold overrideDecisions at h
  rcases List.mem_append.mp h with hflags | htemplate
  · split at hflags
    · rw [List.mem_singleton.mp hflags]
      rfl
    · cases hflags
  split at htemplate
  · rw [List.mem_singleton.mp htemplate]
    rfl
  · cases htemplate

theorem closings_override {previous next : CanonicalMeme}
    (decisions : List ModerationDecision) (reportId : Uuid) :
    (decisions ++ overrideDecisions previous next adminUserId request flagsId
        templateDecisionId).countP (fun decision => decision.reportId = some reportId) =
      decisions.countP fun decision => decision.reportId = some reportId := by
  rw [List.countP_append, Nat.add_eq_left, List.countP_eq_zero]
  intro decision hdecision
  simp [reportId_of_mem_overrideDecisions hdecision]

theorem ledgerKept_step (hk : LedgerKept s) (hs : SessionsHeld s) (hup : UpToDate s label)
    (h : moderationStep s label = some t) : LedgerKept t := by
  cases outcome_of_step h with
  | dropped _ callId => exact ⟨hk.closed_once, hk.open_unclosed, hk.shown⟩
  | started hfree => exact ⟨hk.closed_once, hk.open_unclosed, hk.shown⟩
  | reportRead hcall hreport hopen => exact ⟨hk.closed_once, hk.open_unclosed, hk.shown⟩
  | memeRead hcall hmeme hresolved => exact ⟨hk.closed_once, hk.open_unclosed, hk.shown⟩
  | memeLocked => exact ⟨hk.closed_once, hk.open_unclosed, hk.shown⟩
  | @resolveCommitted callId resolution meme report hcall hmeme hreport hfree =>
    obtain ⟨hopen, hsame⟩ := hup resolution meme report hcall hmeme hreport
    obtain ⟨_, _, _, _, hresolved⟩ := hs.resolved callId resolution hcall
    obtain ⟨-, -, happly, hclosed, -, hof, -⟩ := resolveModerationReport_ok hresolved
    obtain ⟨hloaded, -⟩ := hs.loaded callId _ resolution.report hcall rfl
    obtain ⟨hrow, hid⟩ := (Table.get_eq_some_iff _).mp hreport
    obtain ⟨hmemerow, -⟩ := (Table.get_eq_some_iff _).mp hmeme
    have hzero : closings s resolution.report.id = 0 := hid ▸ hk.open_unclosed report hrow hopen
    have hcount : ∀ reportId, (s.decisions ++ [resolution.decision]).countP
        (fun decision => decision.reportId = some reportId) =
          closings s reportId + if reportId = resolution.report.id then 1 else 0 := by
      intro reportId
      rw [List.countP_append, closings]
      congr 1
      by_cases heq : reportId = resolution.report.id
      · simp [hof, heq]
      · simp [hof, heq, Ne.symm heq]
    refine ⟨?_, ?_, ?_⟩
    · intro reportId
      refine (hcount reportId).trans_le ?_
      split
      · next heq => rw [heq, hzero]
      · exact hk.closed_once reportId
    · intro other hother hotheropen
      rcases s.reports.eq_or_mem_of_mem_save hother with rfl | hold
      · rw [isOpen_flushReport hloaded hclosed] at hotheropen
        cases hotheropen
      have hne : other.id ≠ resolution.report.id := by
        intro heq
        obtain ⟨old, hold, hwritten⟩ := List.mem_map.mp hother
        split at hwritten
        · rw [← hwritten, isOpen_flushReport hloaded hclosed] at hotheropen
          cases hotheropen
        · next hkey => exact hkey (hwritten ▸ heq.trans hid.symm)
      refine (hcount other.id).trans ?_
      rw [if_neg hne, hk.open_unclosed other hold hotheropen]
    · apply shown_save hk.shown
      have hread : ShownAsSet resolution.meme := (hk.shown meme hmemerow).congr hsame
      exact (shownAsSet_applied happly hread).congr (flushMeme_same hsame)
  | overrideCommitted hcall htemplate =>
    obtain ⟨-, hrow⟩ := hs.locked _ _ _ hcall rfl
    obtain ⟨hmem, -⟩ := (Table.get_eq_some_iff _).mp hrow
    rw [hs.commitOverride_eq hcall htemplate]
    refine ⟨?_, ?_, shown_save hk.shown (shownAsSet_overridden (hk.shown _ hmem))⟩
    · exact fun reportId => (closings_override _ _).trans_le (hk.closed_once reportId)
    · exact fun other hother hopen =>
        (closings_override _ _).trans (hk.open_unclosed other hother hopen)
  | refreshCommitted hcall =>
    rw [hs.commitRefresh_eq hcall]
    exact ⟨hk.closed_once, hk.open_unclosed,
      shown_save hk.shown (shownAsSet_refreshed _ _ _ rfl rfl)⟩

theorem recorded_step (hs : SessionsHeld s) (hup : UpToDate s label)
    (h : moderationStep s label = some t) :
    ∀ decision ∈ newDecisions ⟨s, label, t⟩, ∃ previous next,
      s.memes.get decision.memeId = some previous ∧ t.memes.get decision.memeId = some next ∧
      decision.HasPrevious previous ∧ decision.HasNew next := by
  have hnone : ∀ {u : ModerationState}, u.decisions = s.decisions → ∀ decision,
      decision ∉ newDecisions ⟨s, label, u⟩ := by
    intro u hu decision hmem
    simp [newDecisions, hu] at hmem
  intro decision hdecision
  cases outcome_of_step h with
  | dropped _ callId => exact (hnone rfl decision hdecision).elim
  | started hfree => exact (hnone rfl decision hdecision).elim
  | reportRead hcall hreport hopen => exact (hnone rfl decision hdecision).elim
  | memeRead hcall hmeme hresolved => exact (hnone rfl decision hdecision).elim
  | memeLocked => exact (hnone rfl decision hdecision).elim
  | refreshCommitted hcall =>
    rw [hs.commitRefresh_eq hcall] at hdecision
    exact (hnone rfl decision hdecision).elim
  | @resolveCommitted callId resolution meme report hcall hmeme hreport hfree =>
    obtain ⟨-, hsame⟩ := hup resolution meme report hcall hmeme hreport
    obtain ⟨_, _, _, _, hresolved⟩ := hs.resolved callId resolution hcall
    obtain ⟨-, -, -, -, hmemeid, -, hprevious, hnew⟩ := resolveModerationReport_ok hresolved
    obtain ⟨hpublic, hmode, hnsfw, htemplate⟩ := hsame
    have hwritten : SameColumns (flushMeme resolution.meme resolution.moderated meme)
        resolution.moderated := flushMeme_same ⟨hpublic, hmode, hnsfw, htemplate⟩
    obtain ⟨hpublic', hmode', hnsfw', htemplate'⟩ := hwritten
    obtain ⟨hrow, hid⟩ := (Table.get_eq_some_iff _).mp hmeme
    have hlast : decision = resolution.decision := by
      simpa [newDecisions] using hdecision
    subst hlast
    rw [hmemeid]
    refine ⟨meme, flushMeme resolution.meme resolution.moderated meme, hmeme, ?_, ?_, ?_⟩
    · rw [← hid]
      exact s.memes.get_save_self (List.mem_map.mpr ⟨meme, hrow, rfl⟩)
    · exact ⟨hprevious.1.trans hpublic, hprevious.2.1.trans hmode, hprevious.2.2.1.trans hnsfw,
        hprevious.2.2.2.trans htemplate⟩
    · exact ⟨hnew.1.trans hpublic'.symm, hnew.2.1.trans hmode'.symm, hnew.2.2.1.trans hnsfw'.symm,
        hnew.2.2.2.trans htemplate'.symm⟩
  | @overrideCommitted callId meme adminUserId request flagsId templateDecisionId
      hasPublicCrawlerSource hcall htemplate =>
    obtain ⟨-, hrow⟩ := hs.locked _ _ _ hcall rfl
    obtain ⟨hmem, -⟩ := (Table.get_eq_some_iff _).mp hrow
    have hnot := hup meme adminUserId request hcall htemplate
    rw [hs.commitOverride_eq hcall htemplate] at hdecision ⊢
    have hsaved : (s.memes.save (overriddenMeme meme request hasPublicCrawlerSource)).get meme.id =
        some (overriddenMeme meme request hasPublicCrawlerSource) := by
      have hid : (overriddenMeme meme request hasPublicCrawlerSource).id = meme.id :=
        id_overriddenMeme
      rw [← hid]
      exact s.memes.get_save_self (List.mem_map.mpr ⟨meme, hmem, hid.symm⟩)
    have hlast : decision ∈ overrideDecisions meme
        (overriddenMeme meme request hasPublicCrawlerSource) adminUserId request flagsId
        templateDecisionId := by
      simpa [newDecisions] using hdecision
    rcases List.mem_append.mp hlast with hflags | htemplates
    · split at hflags
      · rw [List.mem_singleton.mp hflags]
        exact ⟨_, _, hrow, hsaved, ⟨rfl, rfl, rfl, rfl⟩, ⟨rfl, rfl, rfl, rfl⟩⟩
      · cases hflags
    split at htemplates
    · next hchanged =>
      rw [templateChanged_overridden] at hchanged
      have hkept : flagsChanged meme (overriddenMeme meme request hasPublicCrawlerSource) =
          false := by
        rw [flagsChanged_overridden, ← Bool.not_eq_true]
        exact fun hflags => hnot ⟨hflags, hchanged⟩
      simp only [flagsChanged, ne_eq, Bool.or_eq_false_iff, decide_eq_false_iff_not,
        Decidable.not_not] at hkept
      rw [List.mem_singleton.mp htemplates]
      refine ⟨meme, _, ?_, ?_, ⟨hkept.1.1.symm, hkept.1.2.symm, hkept.2.symm, rfl⟩,
        ⟨rfl, rfl, rfl, rfl⟩⟩
      · exact (congrArg s.memes.get id_overriddenMeme).trans hrow
      · exact (congrArg _ id_overriddenMeme).trans hsaved
    · cases htemplates

theorem upToDate_of_faithful (hs : SessionsHeld s) (h : moderationStep s label = some t)
    (hfaithful : FaithfulLedger ⟨s, label, t⟩) : UpToDate s label := by
  cases label with
  | commitResolve callId =>
    intro resolution meme report hcall hmeme hreport
    obtain ⟨_, _, _, _, hresolved⟩ := hs.resolved callId resolution hcall
    obtain ⟨-, -, -, -, hmemeid, hof, hprevious, -⟩ := resolveModerationReport_ok hresolved
    obtain ⟨-, hloaded⟩ := hs.loaded callId _ resolution.report hcall rfl
    simp only [moderationStep, hcall, ModerationState.commitResolve, hmeme, hreport] at h
    split at h
    · cases h
      constructor
      · rcases hloaded with hclosed | ⟨row, hrow, hopen⟩
        · have hone := hfaithful.closed_once resolution.report.id
          simp only [closings, List.countP_append, List.countP_singleton, hof, decide_true,
            if_true] at hone hclosed
          omega
        · rw [hreport] at hrow
          cases hrow
          exact hopen
      obtain ⟨previous, _, hfound, -, hvalues, -⟩ :=
        hfaithful.recorded resolution.decision (by simp [newDecisions])
      dsimp only at hfound
      rw [hmemeid, hmeme] at hfound
      cases hfound
      exact ⟨hprevious.1.symm.trans hvalues.1, hprevious.2.1.symm.trans hvalues.2.1,
        hprevious.2.2.1.symm.trans hvalues.2.2.1, hprevious.2.2.2.symm.trans hvalues.2.2.2⟩
    · cases h
  | commitOverride callId flagsId templateDecisionId hasPublicCrawlerSource =>
    rintro meme adminUserId request hcall htemplate ⟨hflags, hchanged⟩
    obtain ⟨-, hrow⟩ := hs.locked _ _ _ hcall rfl
    simp only [moderationStep, hcall, Option.some.injEq] at h
    rw [hs.commitOverride_eq hcall htemplate] at h
    subst h
    rw [← flagsChanged_overridden] at hflags
    rw [← templateChanged_overridden] at hchanged
    have hadded : decisionBetween templateDecisionId adminUserId .templateOverride request.reason
        request.note
        { overriddenMeme meme request hasPublicCrawlerSource with templateId := meme.templateId }
        (overriddenMeme meme request hasPublicCrawlerSource) ∈ overrideDecisions meme
          (overriddenMeme meme request hasPublicCrawlerSource) adminUserId request flagsId
          templateDecisionId := by
      apply List.mem_append_right
      rw [if_pos hchanged]
      exact List.mem_cons_self
    obtain ⟨previous, _, hfound, -, hvalues, -⟩ := hfaithful.recorded _ (by
      rw [newDecisions, List.drop_left]
      exact hadded)
    have hid : previous = meme := by
      have hsame := (congrArg s.memes.get id_overriddenMeme).symm.trans hfound
      rw [hrow] at hsame
      exact (Option.some.inj hsame).symm
    subst hid
    obtain ⟨hpublic, hmode, hnsfw, -⟩ := hvalues
    simp only [decisionBetween] at hpublic hmode hnsfw
    simp [flagsChanged, hpublic, hmode, hnsfw] at hflags
  | _ => trivial

end Ledger

/-- In every run the ledger is faithful exactly if every resolution commits on the columns it has
read, with its report still open, and no override changes the flags together with the template. -/
theorem moderation_faithful_iff {s : ModerationState} (hs : InitialLedger s)
    (as : List ModerationLabel) :
    (∀ x ∈ transitions moderationStep s as, FaithfulLedger x) ↔
      ∀ x ∈ transitions moderationStep s as, UpToDate x.before x.label := by
  have hheld : ∀ x ∈ transitions moderationStep s as, SessionsHeld x.before := by
    intro x hx
    refine invariant_before ⟨?_, ?_, ?_⟩ (fun y hy hbefore => sessionsHeld_step hbefore
      (step_of_mem_transitions hy)) hx
    · intro callId call meme hcall
      rw [hs.idle callId] at hcall
      cases hcall
    · intro callId call report hcall
      rw [hs.idle callId] at hcall
      cases hcall
    · intro callId resolution hcall
      rw [hs.idle callId] at hcall
      cases hcall
  constructor
  · intro hfaithful x hx
    exact upToDate_of_faithful (hheld x hx) (step_of_mem_transitions hx) (hfaithful x hx)
  intro hup x hx
  have hkept : ∀ y ∈ transitions moderationStep s as, LedgerKept y.before → LedgerKept y.after :=
    fun y hy hbefore =>
      ledgerKept_step hbefore (hheld y hy) (hup y hy) (step_of_mem_transitions hy)
  have hbefore : LedgerKept x.before :=
    invariant_before ⟨hs.closed_once, hs.open_unclosed, hs.shown⟩ hkept hx
  have hafter := hkept x hx hbefore
  exact ⟨hafter.closed_once,
    recorded_step (hheld x hx) (hup x hx) (step_of_mem_transitions hx), hafter.shown⟩

def reportedMeme : ModerationState where
  memes := { rows := [{ id := 1, primaryFileId := 11, isPublic := true }] }
  reports := { rows := [{ id := 21, memeId := 1 }] }

theorem reportedMeme_initial : InitialLedger reportedMeme where
  idle := fun _ => rfl
  closed_once := fun _ => Nat.zero_le 1
  open_unclosed := fun _ _ _ => rfl
  shown := by simp [reportedMeme, ShownAsSet]

def twoAdministrators : List ModerationLabel :=
  [.startResolve 0 21 5 { action := .publish }, .loadReport 0, .loadMeme 0 31 100,
    .startResolve 1 21 6 { action := .hide }, .loadReport 1, .loadMeme 1 32 101,
    .commitResolve 1, .commitResolve 0]

theorem moderation_faithful_iff_reportedMeme :
    InitialLedger reportedMeme ∧
      ((∀ x ∈ transitions moderationStep reportedMeme twoAdministrators, FaithfulLedger x) ↔
        ∀ x ∈ transitions moderationStep reportedMeme twoAdministrators,
          UpToDate x.before x.label) :=
  ⟨reportedMeme_initial, moderation_faithful_iff reportedMeme_initial twoAdministrators⟩

/-- The report is closed twice, and the meme is left public by its mode and hidden. -/
theorem report_closed_twice :
    InitialLedger reportedMeme ∧
      ∃ x ∈ transitions moderationStep reportedMeme twoAdministrators,
        closings x.after 21 = 2 ∧
        (∃ meme ∈ x.after.memes.rows,
          meme.visibilityMode = .forcePublic ∧ meme.isPublic = false) ∧
        ¬ FaithfulLedger x := by
  have hrun : (transitions moderationStep reportedMeme twoAdministrators).any (fun x =>
      closings x.after 21 = 2 && x.after.memes.rows.any fun meme =>
        meme.visibilityMode = .forcePublic && !meme.isPublic) = true := by decide
  obtain ⟨x, hx, hfound⟩ := List.any_eq_true.mp hrun
  simp only [Bool.and_eq_true, decide_eq_true_eq, List.any_eq_true, Bool.not_eq_true'] at hfound
  obtain ⟨htwice, hmeme⟩ := hfound
  refine ⟨reportedMeme_initial, x, hx, htwice, hmeme, ?_⟩
  intro hfaithful
  have honce := hfaithful.closed_once 21
  rw [htwice] at honce
  exact absurd honce (by decide)

end Services

end MemeExpert
