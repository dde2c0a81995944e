import MemeExpert.Crawlers.SourcePosts
import MemeExpert.Lib.Runs

/-! The crawler writes back the columns it changed, the capture workers lock the row, and the
sweeps read it without a lock and write it at their commit. -/

namespace MemeExpert

open Runs

inductive TelegramSessionStatus where
  | active | authRequired | floodWait | quarantined | stopped
  deriving DecidableEq

namespace TelegramSessionStatus

def isOutOfRotation : TelegramSessionStatus → Bool
  | .authRequired | .quarantined | .stopped => true
  | .active | .floodWait => false

end TelegramSessionStatus

structure TelegramSession where
  status : TelegramSessionStatus := .authRequired
  floodWaitUntil : Option Time := none
  quarantinedAt : Option Time := none
  liveListenerStartedAt : Option Time := none
  lastHeartbeatAt : Option Time := none
  lastErrorClass : Option String := none
  lastErrorText : Option String := none

def TelegramSession.writeBack (loaded updated current : TelegramSession) : TelegramSession where
  status := writeColumn loaded.status updated.status current.status
  floodWaitUntil := writeColumn loaded.floodWaitUntil updated.floodWaitUntil current.floodWaitUntil
  quarantinedAt := writeColumn loaded.quarantinedAt updated.quarantinedAt current.quarantinedAt
  liveListenerStartedAt :=
    writeColumn loaded.liveListenerStartedAt updated.liveListenerStartedAt
      current.liveListenerStartedAt
  lastHeartbeatAt :=
    writeColumn loaded.lastHeartbeatAt updated.lastHeartbeatAt current.lastHeartbeatAt
  lastErrorClass := writeColumn loaded.lastErrorClass updated.lastErrorClass current.lastErrorClass
  lastErrorText := writeColumn loaded.lastErrorText updated.lastErrorText current.lastErrorText

namespace Crawlers

section Runtime

variable (session : TelegramSession) (error : CrawlerException)

def parkSessionOnFloodWait (now waitSeconds : Nat) : TelegramSession :=
  { session with
    status := .floodWait
    floodWaitUntil := some (now + waitSeconds)
    lastErrorClass := some error.className
    lastErrorText := some (cap 4000 error.text) }

def quarantineSession (now : Time) : TelegramSession :=
  { session with
    status := .quarantined
    quarantinedAt := some now
    lastErrorClass := some error.className
    lastErrorText := some (cap 4000 error.text) }

def markSessionAuthRequired : TelegramSession :=
  { session with
    status := .authRequired
    liveListenerStartedAt := none
    lastHeartbeatAt := none
    lastErrorClass := some (cap 128 error.className)
    lastErrorText := some (cap 4000 error.text) }

/-- The row update of `stop_live_listener`. -/
def markStopped : TelegramSession :=
  { session with status := .stopped, liveListenerStartedAt := none }

/-- `_handle_flood_wait` of both capture services. -/
def handleFloodWait (capturedAt waitSeconds : Nat) : TelegramSession :=
  { session with
    status := .floodWait
    floodWaitUntil := some (capturedAt + waitSeconds)
    lastErrorClass := some (cap 128 error.className)
    lastErrorText := some (cap 4000 error.text) }

/-- `_handle_terminal_session_failure` of the audience capture. -/
def handleTerminalSessionFailure (observedAt : Time) (banned : Bool) : TelegramSession :=
  let marked : TelegramSession :=
    if banned then { session with status := .quarantined, quarantinedAt := some observedAt }
    else { session with status := .authRequired, liveListenerStartedAt := none }
  { marked with
    lastErrorClass := some (cap 128 error.className)
    lastErrorText := some (cap 4000 error.text) }

/-- `_resume_expired_flood_wait_session` of both schedulers. -/
def resumeExpiredFloodWaitSession (capturedNow : Time) : TelegramSession :=
  if session.status ≠ .floodWait then session
  else if session.floodWaitUntil.any (capturedNow < ·) then session
  else
    { session with
      status := .active, floodWaitUntil := none, lastErrorClass := none, lastErrorText := none }

end Runtime

def sessionDue (session : TelegramSession) (capturedNow : Time) : Bool :=
  match session.status with
  | .active => true
  | .floodWait => session.floodWaitUntil.all (· ≤ capturedNow)
  | .authRequired | .quarantined | .stopped => false

/-- A change a component makes to the session it has loaded, with the error and the moment of it. -/
inductive SessionEdit where
  | runtimeFailed (now : Time) (error : CrawlerException)
  | listenerStopped
  | captureFailed (observedAt : Time) (error : CrawlerException)
  | resumed (capturedNow : Time)

def SessionEdit.apply (session : TelegramSession) : SessionEdit → TelegramSession
  | .runtimeFailed now error =>
    match error with
    | .floodWait waitSeconds _ => parkSessionOnFloodWait session error now waitSeconds
    | .sessionBanned _ => quarantineSession session error now
    | .sessionAuthRequired _ => markSessionAuthRequired session error
    | _ => session
  | .listenerStopped => markStopped session
  | .captureFailed observedAt error =>
    match error with
    | .floodWait waitSeconds _ => handleFloodWait session error observedAt waitSeconds
    | .sessionBanned _ => handleTerminalSessionFailure session error observedAt true
    | .sessionAuthRequired _ => handleTerminalSessionFailure session error observedAt false
    | _ => session
  | .resumed capturedNow => resumeExpiredFloodWaitSession session capturedNow

inductive SessionCall where
  | holding (loaded : TelegramSession)
  | observed (observedAt : Time) (error : CrawlerException)
  | sweeping (capturedNow : Time)
  | writing (byRuntime : Bool) (loaded : TelegramSession) (edit : SessionEdit)

structure SessionState where
  clock : Time := 0
  session : TelegramSession
  lockedBy : Option Nat := none
  calls : Nat → Option SessionCall := fun _ => none

inductive SessionLabel where
  | tick (now : Time)
  | operator (session : TelegramSession)
  | load (callId : Nat)
  | fail (callId : Nat) (error : CrawlerException)
  | stopListener (callId : Nat)
  | observe (callId : Nat) (error : CrawlerException)
  | lock (callId : Nat)
  | sweep (callId : Nat)
  | loadDue (callId : Nat)
  | commit (callId : Nat)
  | stop (callId : Nat)

namespace SessionState

variable (s : SessionState) (callId : Nat)

def setCall (call : SessionCall) : SessionState :=
  { s with calls := Function.update s.calls callId (some call) }

def endCall : SessionState :=
  { s with
    lockedBy := if s.lockedBy = some callId then none else s.lockedBy
    calls := Function.update s.calls callId none }

def unlockedFor : Bool := s.lockedBy.all (· = callId)

end SessionState

def sessionStep (s : SessionState) : SessionLabel → Option SessionState
  | .tick now => if s.clock ≤ now then some { s with clock := now } else none
  | .operator session => if s.lockedBy = none then some { s with session := session } else none
  | .load callId =>
    if s.calls callId = none then some (s.setCall callId (.holding s.session)) else none
  | .fail callId error =>
    match s.calls callId with
    | some (.holding loaded) =>
      some (s.setCall callId (.writing true loaded (.runtimeFailed s.clock error)))
    | _ => none
  | .stopListener callId =>
    match s.calls callId with
    | some (.holding loaded) => some (s.setCall callId (.writing true loaded .listenerStopped))
    | _ => none
  | .observe callId error =>
    if s.calls callId = none then some (s.setCall callId (.observed s.clock error)) else none
  | .lock callId =>
    match s.calls callId with
    | some (.observed observedAt error) =>
      if s.lockedBy = none then
        some
          { s.setCall callId (.writing false s.session (.captureFailed observedAt error)) with
            lockedBy := some callId }
      else none
    | _ => none
  | .sweep callId =>
    if s.calls callId = none then some (s.setCall callId (.sweeping s.clock)) else none
  | .loadDue callId =>
    match s.calls callId with
    | some (.sweeping capturedNow) =>
      if sessionDue s.session capturedNow then
        some (s.setCall callId (.writing false s.session (.resumed capturedNow)))
      else none
    | _ => none
  | .commit callId =>
    match s.calls callId with
    | some (.writing byRuntime loaded edit) =>
      if s.unlockedFor callId then
        let updated := edit.apply loaded
        let ended := if byRuntime then s.setCall callId (.holding updated) else s.endCall callId
        some { ended with session := loaded.writeBack updated s.session }
      else none
    | _ => none
  | .stop callId => some (s.endCall callId)

abbrev SessionTransition := Transition SessionState SessionLabel

/-- No automatic step brings a session back that is out of rotation, shortens a wait, or ends one
before the stored moment. -/
structure RespectsRotation (x : SessionTransition) : Prop where
  settled : x.before.session.status.isOutOfRotation = true →
    x.after.session.status.isOutOfRotation = true
  lengthened : x.before.session.status = .floodWait → x.after.session.status = .floodWait →
    ∀ stored, x.before.session.floodWaitUntil = some stored →
      ∃ next, x.after.session.floodWaitUntil = some next ∧ stored ≤ next
  elapsed : x.before.session.status = .floodWait → x.after.session.status = .active →
    ∀ stored, x.before.session.floodWaitUntil = some stored → stored ≤ x.before.clock

def SessionLabel.isOperator : SessionLabel → Bool
  | .operator _ => true
  | _ => false

def SessionEdit.waitUntil : SessionEdit → Option Time
  | .runtimeFailed now (.floodWait waitSeconds _) => some (now + waitSeconds)
  | .captureFailed observedAt (.floodWait waitSeconds _) => some (observedAt + waitSeconds)
  | _ => none

/-- What a change may meet in the row it is committed to. A wait is written to a session in
rotation, unless the loaded one was waiting already and its status is not written, and it is no
shorter than the stored wait, unless it is the loaded one and not written either. A resumed session
is in rotation, and the stored wait has elapsed. -/
structure MeetsSession (s : SessionState) (loaded : TelegramSession) (edit : SessionEdit) :
    Prop where
  waits : ∀ waitUntil, edit.waitUntil = some waitUntil →
    (loaded.status ≠ .floodWait → s.session.status.isOutOfRotation = false) ∧
      (s.session.status = .floodWait → loaded.floodWaitUntil ≠ some waitUntil →
        ∀ stored, s.session.floodWaitUntil = some stored → stored ≤ waitUntil)
  resumes : ∀ capturedNow, edit = .resumed capturedNow → loaded.status = .floodWait →
    s.session.status.isOutOfRotation = false ∧
      (s.session.status = .floodWait →
        ∀ stored, s.session.floodWaitUntil = some stored → stored ≤ s.clock)

def MeetsRotation (s : SessionState) : SessionLabel → Prop
  | .commit callId => ∀ byRuntime loaded edit,
    s.calls callId = some (.writing byRuntime loaded edit) → MeetsSession s loaded edit
  | _ => True

def SessionCall.DueBy (clock : Time) : SessionCall → Prop
  | .sweeping capturedNow => capturedNow ≤ clock
  | .writing _ loaded (.resumed capturedNow) =>
    capturedNow ≤ clock ∧ sessionDue loaded capturedNow = true
  | _ => True

def SweepsDue (s : SessionState) : Prop :=
  ∀ callId call, s.calls callId = some call → call.DueBy s.clock

section Edit

variable {loaded current : TelegramSession} {edit : SessionEdit} {capturedNow : Time}

theorem apply_cases (loaded : TelegramSession) (edit : SessionEdit) :
    (∃ waitUntil, edit.waitUntil = some waitUntil ∧ (edit.apply loaded).status = .floodWait ∧
        (edit.apply loaded).floodWaitUntil = some waitUntil) ∨
      (∃ capturedNow, edit = .resumed capturedNow ∧ loaded.status = .floodWait ∧
        (edit.apply loaded).status = .active) ∨
      (edit.waitUntil = none ∧ (edit.apply loaded).floodWaitUntil = loaded.floodWaitUntil ∧
        ((edit.apply loaded).status = loaded.status ∨
          (edit.apply loaded).status.isOutOfRotation = true)) := by
  cases edit with
  | runtimeFailed now error =>
    cases error with
    | floodWait waitSeconds text => exact .inl ⟨now + waitSeconds, rfl, rfl, rfl⟩
    | sessionBanned text => exact .inr (.inr ⟨rfl, rfl, .inr rfl⟩)
    | sessionAuthRequired text => exact .inr (.inr ⟨rfl, rfl, .inr rfl⟩)
    | _ => exact .inr (.inr ⟨rfl, rfl, .inl rfl⟩)
  | listenerStopped => exact .inr (.inr ⟨rfl, rfl, .inr rfl⟩)
  | captureFailed observedAt error =>
    cases error with
    | floodWait waitSeconds text => exact .inl ⟨observedAt + waitSeconds, rfl, rfl, rfl⟩
    | sessionBanned text => exact .inr (.inr ⟨rfl, rfl, .inr rfl⟩)
    | sessionAuthRequired text => exact .inr (.inr ⟨rfl, rfl, .inr rfl⟩)
    | _ => exact .inr (.inr ⟨rfl, rfl, .inl rfl⟩)
  | resumed capturedNow =>
    simp only [SessionEdit.apply, resumeExpiredFloodWaitSession]
    split
    · exact .inr (.inr ⟨rfl, rfl, .inl rfl⟩)
    next hwaiting =>
    split
    · exact .inr (.inr ⟨rfl, rfl, .inl rfl⟩)
    · exact .inr (.inl ⟨capturedNow, rfl, not_not.mp hwaiting, rfl⟩)

theorem apply_resumed_of_due (hwaiting : loaded.status = .floodWait)
    (hdue : sessionDue loaded capturedNow = true) :
    ((SessionEdit.resumed capturedNow).apply loaded).status = .active := by
  have helapsed : loaded.floodWaitUntil.any (capturedNow < ·) = false := by
    simp only [sessionDue, hwaiting] at hdue
    cases hwait : loaded.floodWaitUntil with
    | none => rfl
    | some stored => simpa [hwait] using hdue
  simp [SessionEdit.apply, resumeExpiredFloodWaitSession, hwaiting, helapsed]

variable {s t : SessionState} {label : SessionLabel} {updated : TelegramSession}

theorem isOutOfRotation_ne {status : TelegramSessionStatus} (h : status.isOutOfRotation = true) :
    status ≠ .floodWait ∧ status ≠ .active := by
  constructor <;> rintro rfl <;> cases h

theorem respects_wait_iff {waitUntil : Time}
    (ht : t.session = loaded.writeBack updated s.session) (hstatus : updated.status = .floodWait)
    (hwait : updated.floodWaitUntil = some waitUntil) :
    RespectsRotation ⟨s, label, t⟩ ↔
      (loaded.status ≠ .floodWait → s.session.status.isOutOfRotation = false) ∧
        (s.session.status = .floodWait → loaded.floodWaitUntil ≠ some waitUntil →
          ∀ stored, s.session.floodWaitUntil = some stored → stored ≤ waitUntil) := by
  have hafter : t.session.status = writeColumn loaded.status .floodWait s.session.status := by
    rw [ht, ← hstatus]
    rfl
  have huntil : t.session.floodWaitUntil =
      writeColumn loaded.floodWaitUntil (some waitUntil) s.session.floodWaitUntil := by
    rw [ht, ← hwait]
    rfl
  have hwaiting : s.session.status = .floodWait → t.session.status = .floodWait := by
    intro hbefore
    rw [hafter, hbefore, writeColumn, ite_self]
  constructor
  · intro h
    constructor
    · intro hloaded
      by_contra hout
      rw [writeColumn_of_ne _ (Ne.symm hloaded)] at hafter
      exact (isOutOfRotation_ne (h.settled (eq_true_of_ne_false hout))).1 hafter
    intro hbefore hloaded stored hstored
    rw [writeColumn_of_ne _ (Ne.symm hloaded)] at huntil
    obtain ⟨next, hnext, hle⟩ := h.lengthened hbefore (hwaiting hbefore) stored hstored
    rw [huntil] at hnext
    cases hnext
    exact hle
  · rintro ⟨hrotation, hlonger⟩
    refine ⟨?_, ?_, ?_⟩
    · intro hout
      have hloaded : loaded.status = .floodWait := by
        by_contra hloaded
        rw [hrotation hloaded] at hout
        cases hout
      rw [hafter, hloaded, writeColumn_unchanged]
      exact hout
    · intro hbefore _ stored hstored
      by_cases hloaded : loaded.floodWaitUntil = some waitUntil
      · rw [huntil, hloaded, writeColumn_unchanged]
        exact ⟨stored, hstored, Nat.le_refl _⟩
      · rw [huntil, writeColumn_of_ne _ (Ne.symm hloaded)]
        exact ⟨waitUntil, rfl, hlonger hbefore hloaded stored hstored⟩
    · intro hbefore hactive
      rw [hwaiting hbefore] at hactive
      cases hactive

theorem respects_resumed_iff (ht : t.session = loaded.writeBack updated s.session)
    (hloaded : loaded.status = .floodWait) (hstatus : updated.status = .active) :
    RespectsRotation ⟨s, label, t⟩ ↔ s.session.status.isOutOfRotation = false ∧
      (s.session.status = .floodWait →
        ∀ stored, s.session.floodWaitUntil = some stored → stored ≤ s.clock) := by
  have hafter : t.session.status = .active := by
    rw [ht, ← hstatus]
    apply writeColumn_of_ne
    simp [hloaded, hstatus]
  constructor
  · intro h
    constructor
    · by_contra hout
      exact (isOutOfRotation_ne (h.settled (eq_true_of_ne_false hout))).2 hafter
    · exact fun hbefore => h.elapsed hbefore hafter
  rintro ⟨hrotation, helapsed⟩
  refine ⟨?_, ?_, fun hbefore _ => helapsed hbefore⟩
  · intro hout
    rw [hrotation] at hout
    cases hout
  · intro _ hwaiting
    rw [hafter] at hwaiting
    cases hwaiting

theorem respects_of_settled (ht : t.session = loaded.writeBack updated s.session)
    (hwait : updated.floodWaitUntil = loaded.floodWaitUntil)
    (hstatus : updated.status = loaded.status ∨ updated.status.isOutOfRotation = true) :
    RespectsRotation ⟨s, label, t⟩ := by
  have hafter : t.session.status = s.session.status ∨
      t.session.status.isOutOfRotation = true := by
    rw [ht]
    change writeColumn loaded.status updated.status s.session.status = _ ∨
      (writeColumn loaded.status updated.status s.session.status).isOutOfRotation = true
    rcases hstatus with hsame | hout
    · rw [hsame, writeColumn_unchanged]
      exact .inl rfl
    by_cases hsame : updated.status = loaded.status
    · rw [hsame, writeColumn_unchanged]
      exact .inl rfl
    · rw [writeColumn_of_ne _ hsame]
      exact .inr hout
  have huntil : t.session.floodWaitUntil = s.session.floodWaitUntil := by
    rw [ht]
    change writeColumn _ _ _ = _
    rw [hwait, writeColumn_unchanged]
  refine ⟨?_, ?_, ?_⟩
  · intro hbefore
    rcases hafter with hsame | hout
    · exact (congrArg TelegramSessionStatus.isOutOfRotation hsame).trans hbefore
    · exact hout
  · intro _ _ stored hstored
    exact ⟨stored, huntil.trans hstored, Nat.le_refl _⟩
  intro hbefore hactive
  rcases hafter with hsame | hout
  · rw [hactive] at hsame
    rw [← hsame] at hbefore
    cases hbefore
  · exact ((isOutOfRotation_ne hout).2 hactive).elim

theorem respects_of_unchanged (ht : t.session = s.session) : RespectsRotation ⟨s, label, t⟩ := by
  refine ⟨fun hbefore => by rw [ht]; exact hbefore, ?_, ?_⟩
  · intro _ _ stored hstored
    exact ⟨stored, by rw [ht]; exact hstored, Nat.le_refl _⟩
  intro hbefore hactive
  rw [ht, hbefore] at hactive
  cases hactive

theorem session_of_step (h : sessionStep s label = some t) (hauto : label.isOperator = false) :
    ((∀ callId, label ≠ .commit callId) ∧ t.session = s.session) ∨
      ∃ callId byRuntime loaded edit, label = .commit callId ∧
        s.calls callId = some (.writing byRuntime loaded edit) ∧
        t.session = loaded.writeBack (edit.apply loaded) s.session := by
  cases label with
  | operator session => cases hauto
  | tick now =>
    obtain ⟨-, ht⟩ := Option.ite_none_right_eq_some.mp h
    cases ht
    exact .inl ⟨nofun, rfl⟩
  | load callId =>
    obtain ⟨-, ht⟩ := Option.ite_none_right_eq_some.mp h
    cases ht
    exact .inl ⟨nofun, rfl⟩
  | observe callId error =>
    obtain ⟨-, ht⟩ := Option.ite_none_right_eq_some.mp h
    cases ht
    exact .inl ⟨nofun, rfl⟩
  | sweep callId =>
    obtain ⟨-, ht⟩ := Option.ite_none_right_eq_some.mp h
    cases ht
    exact .inl ⟨nofun, rfl⟩
  | stop callId =>
    cases h
    exact .inl ⟨nofun, rfl⟩
  | fail callId error =>
    simp only [sessionStep] at h
    split at h
    · cases h
      exact .inl ⟨nofun, rfl⟩
    · cases h
  | stopListener callId =>
    simp only [sessionStep] at h
    split at h
    · cases h
      exact .inl ⟨nofun, rfl⟩
    · cases h
  | lock callId =>
    simp only [sessionStep] at h
    split at h
    · obtain ⟨-, ht⟩ := Option.ite_none_right_eq_some.mp h
      cases ht
      exact .inl ⟨nofun, rfl⟩
    · cases h
  | loadDue callId =>
    simp only [sessionStep] at h
    split at h
    · obtain ⟨-, ht⟩ := Option.ite_none_right_eq_some.mp h
      cases ht
      exact .inl ⟨nofun, rfl⟩
    · cases h
  | commit callId =>
    simp only [sessionStep] at h
    split at h
    · next byRuntime loaded edit hcall =>
      obtain ⟨-, ht⟩ := Option.ite_none_right_eq_some.mp h
      cases ht
      exact .inr ⟨callId, byRuntime, loaded, edit, rfl, hcall, rfl⟩
    · cases h

theorem respects_commit_iff {loaded : TelegramSession} {edit : SessionEdit}
    (hdue : ∀ capturedNow, edit = .resumed capturedNow → sessionDue loaded capturedNow = true)
    (ht : t.session = loaded.writeBack (edit.apply loaded) s.session) :
    RespectsRotation ⟨s, label, t⟩ ↔ MeetsSession s loaded edit := by
  rcases apply_cases loaded edit with
    ⟨waitUntil, hwait, hstatus, huntil⟩ | ⟨capturedNow, rfl, hloaded, hstatus⟩ |
      ⟨hwait, huntil, hstatus⟩
  · rw [respects_wait_iff ht hstatus huntil]
    constructor
    · intro hboth
      refine ⟨?_, ?_⟩
      · intro other hother
        rw [hwait] at hother
        cases hother
        exact hboth
      · rintro capturedNow rfl
        cases hwait
    · exact fun hall => hall.waits waitUntil hwait
  · rw [respects_resumed_iff ht hloaded hstatus]
    constructor
    · intro hboth
      exact ⟨fun _ hother => (Option.some_ne_none _ hother.symm).elim, fun _ _ _ => hboth⟩
    · exact fun hall => hall.resumes capturedNow rfl hloaded
  · refine iff_of_true (respects_of_settled ht huntil hstatus) ⟨?_, ?_⟩
    · intro other hother
      rw [hwait] at hother
      cases hother
    · rintro capturedNow rfl hloaded
      rw [apply_resumed_of_due hloaded (hdue capturedNow rfl), hloaded] at hstatus
      simp [TelegramSessionStatus.isOutOfRotation] at hstatus

theorem respects_step_iff (hdue : SweepsDue s) (h : sessionStep s label = some t)
    (hauto : label.isOperator = false) :
    RespectsRotation ⟨s, label, t⟩ ↔ MeetsRotation s label := by
  rcases session_of_step h hauto with
    ⟨hother, ht⟩ | ⟨callId, byRuntime, loaded, edit, rfl, hcall, ht⟩
  · refine iff_of_true (respects_of_unchanged ht) ?_
    cases label with
    | commit callId => exact (hother callId rfl).elim
    | _ => trivial
  have hsweep : ∀ capturedNow, edit = .resumed capturedNow →
      sessionDue loaded capturedNow = true := by
    rintro capturedNow rfl
    exact (hdue callId _ hcall).2
  rw [respects_commit_iff hsweep ht]
  constructor
  · intro hmeets byRuntime' loaded' edit' hcall'
    rw [hcall] at hcall'
    cases hcall'
    exact hmeets
  · exact fun hall => hall byRuntime loaded edit hcall

theorem SessionCall.DueBy.mono {clock later : Time} {call : SessionCall} (h : call.DueBy clock)
    (hle : clock ≤ later) : call.DueBy later := by
  cases call with
  | sweeping capturedNow => exact Nat.le_trans h hle
  | writing byRuntime loaded edit =>
    cases edit with
    | resumed capturedNow => exact ⟨Nat.le_trans h.1 hle, h.2⟩
    | _ => trivial
  | _ => trivial

theorem SweepsDue.setCall (hs : SweepsDue s) {callId : Nat} {call : SessionCall}
    (hcall : call.DueBy s.clock) : SweepsDue (s.setCall callId call) := by
  intro otherId other hother
  by_cases heq : otherId = callId
  · subst heq
    simp only [SessionState.setCall, Function.update_self] at hother
    cases hother
    exact hcall
  · simp only [SessionState.setCall, Function.update_of_ne heq] at hother
    exact hs otherId other hother

theorem SweepsDue.endCall (hs : SweepsDue s) (callId : Nat) : SweepsDue (s.endCall callId) := by
  intro otherId other hother
  by_cases heq : otherId = callId
  · simp [SessionState.endCall, heq] at hother
  · simp only [SessionState.endCall, Function.update_of_ne heq] at hother
    exact hs otherId other hother

theorem sweepsDue_step (hs : SweepsDue s) (h : sessionStep s label = some t) : SweepsDue t := by
  cases label with
  | tick now =>
    obtain ⟨hle, ht⟩ := Option.ite_none_right_eq_some.mp h
    cases ht
    exact fun callId call hcall => (hs callId call hcall).mono hle
  | operator session =>
    obtain ⟨-, ht⟩ := Option.ite_none_right_eq_some.mp h
    cases ht
    exact hs
  | load callId =>
    obtain ⟨-, ht⟩ := Option.ite_none_right_eq_some.mp h
    cases ht
    exact hs.setCall trivial
  | observe callId error =>
    obtain ⟨-, ht⟩ := Option.ite_none_right_eq_some.mp h
    cases ht
    exact hs.setCall trivial
  | sweep callId =>
    obtain ⟨-, ht⟩ := Option.ite_none_right_eq_some.mp h
    cases ht
    exact hs.setCall (Nat.le_refl _)
  | stop callId =>
    cases h
    exact hs.endCall callId
  | fail callId error =>
    simp only [sessionStep] at h
    split at h
    · cases h
      exact hs.setCall trivial
    · cases h
  | stopListener callId =>
    simp only [sessionStep] at h
    split at h
    · cases h
      exact hs.setCall trivial
    · cases h
  | lock callId =>
    simp only [sessionStep] at h
    split at h
    · next observedAt error _ =>
      obtain ⟨-, ht⟩ := Option.ite_none_right_eq_some.mp h
      have hset : SweepsDue
          (s.setCall callId (.writing false s.session (.captureFailed observedAt error))) :=
        hs.setCall trivial
      cases ht
      exact hset
    · cases h
  | loadDue callId =>
    simp only [sessionStep] at h
    split at h
    · next capturedNow hcall =>
      obtain ⟨hsession, ht⟩ := Option.ite_none_right_eq_some.mp h
      cases ht
      exact hs.setCall ⟨hs callId _ hcall, hsession⟩
    · cases h
  | commit callId =>
    simp only [sessionStep] at h
    split at h
    · next byRuntime loaded edit hcall =>
      obtain ⟨-, ht⟩ := Option.ite_none_right_eq_some.mp h
      have hended : SweepsDue (if byRuntime then s.setCall callId (.holding (edit.apply loaded))
          else s.endCall callId) := by
        split
        · exact hs.setCall trivial
        · exact hs.endCall callId
      cases ht
      exact hended
    · cases h

theorem meetsSession_of_unchanged (hs : SweepsDue s) {callId : Nat} {byRuntime : Bool}
    {capturedNow : Time}
    (hcall : s.calls callId = some (.writing byRuntime s.session (.resumed capturedNow))) :
    MeetsSession s s.session (.resumed capturedNow) := by
  refine ⟨nofun, ?_⟩
  intro _ _ hwaiting
  obtain ⟨hle, hdue⟩ := hs callId _ hcall
  rw [hwaiting]
  refine ⟨rfl, ?_⟩
  intro _ stored hstored
  simp only [sessionDue, hwaiting, hstored, Option.all_some, decide_eq_true_eq] at hdue
  exact Nat.le_trans hdue hle

end Edit

/-- The automatic steps of a run all respect the rotation exactly when they meet the condition, and
a sweep fails it only where the session is no longer the one it loaded. -/
theorem session_rotation_iff_meets {s : SessionState} (hidle : ∀ callId, s.calls callId = none)
    (labels : List SessionLabel) :
    ((∀ x ∈ transitions sessionStep s labels, x.label.isOperator = false → RespectsRotation x) ↔
        ∀ x ∈ transitions sessionStep s labels, MeetsRotation x.before x.label) ∧
      ∀ x ∈ transitions sessionStep s labels, ∀ callId byRuntime loaded capturedNow,
        x.label = .commit callId →
        x.before.calls callId = some (.writing byRuntime loaded (.resumed capturedNow)) →
        ¬ MeetsRotation x.before x.label → x.before.session ≠ loaded := by
  have hdue : ∀ x ∈ transitions sessionStep s labels, SweepsDue x.before := by
    intro x hx
    refine invariant_before ?_ (fun y hy hbefore =>
      sweepsDue_step hbefore (step_of_mem_transitions hy)) hx
    intro callId call hcall
    rw [hidle callId] at hcall
    cases hcall
  refine ⟨⟨?_, ?_⟩, ?_⟩
  · intro hall x hx
    by_cases hauto : x.label.isOperator = false
    · exact (respects_step_iff (hdue x hx) (step_of_mem_transitions hx) hauto).mp (hall x hx hauto)
    cases hlabel : x.label with
    | commit callId =>
      rw [hlabel] at hauto
      exact (hauto rfl).elim
    | _ => trivial
  · intro hall x hx hauto
    exact (respects_step_iff (hdue x hx) (step_of_mem_transitions hx) hauto).mpr (hall x hx)
  rintro x hx callId byRuntime loaded capturedNow hlabel hcall hfails rfl
  apply hfails
  rw [hlabel]
  intro byRuntime' loaded' edit' hcall'
  rw [hcall] at hcall'
  cases hcall'
  exact meetsSession_of_unchanged (hdue x hx) hcall

section Runs

def rotating : SessionState where
  clock := 100
  session := { status := .active }

def banned : CrawlerException := .sessionBanned "banned"

/-- A capture worker parks the session, and a sweep resumes it after the wait. -/
theorem session_rotation_iff_meets_resumed :
    ((∀ x ∈ transitions sessionStep rotating
          [.observe 0 (.floodWait 30 "wait"), .lock 0, .commit 0, .tick 130, .sweep 1, .loadDue 1,
            .commit 1], x.label.isOperator = false → RespectsRotation x) ↔
        ∀ x ∈ transitions sessionStep rotating
          [.observe 0 (.floodWait 30 "wait"), .lock 0, .commit 0, .tick 130, .sweep 1, .loadDue 1,
            .commit 1], MeetsRotation x.before x.label) ∧
      ∀ x ∈ transitions sessionStep rotating
          [.observe 0 (.floodWait 30 "wait"), .lock 0, .commit 0, .tick 130, .sweep 1, .loadDue 1,
            .commit 1], ∀ callId byRuntime loaded capturedNow,
        x.label = .commit callId →
        x.before.calls callId = some (.writing byRuntime loaded (.resumed capturedNow)) →
        ¬ MeetsRotation x.before x.label → x.before.session ≠ loaded :=
  session_rotation_iff_meets (fun _ => rfl) _

/-- A banned session is parked by a capture that was under way, and a sweep resumes it; a second
capture shortens a wait; a sweep ends a wait that was stored after it loaded the session. -/
theorem rotation_undone :
    (∃ x ∈ transitions sessionStep rotating
        [.observe 0 (.floodWait 30 "wait"), .load 1, .fail 1 banned, .commit 1, .lock 0, .commit 0,
          .tick 130, .sweep 2, .loadDue 2, .commit 2],
      x.label.isOperator = false ∧ x.before.session.status = .quarantined ∧
        x.after.session.status = .floodWait) ∧
    (∃ x ∈ transitions sessionStep rotating
        [.observe 0 (.floodWait 900 "wait"), .observe 1 (.floodWait 30 "wait"), .lock 0, .commit 0,
          .lock 1, .commit 1],
      x.label.isOperator = false ∧ x.before.session.status = .floodWait ∧
        x.before.session.floodWaitUntil = some 1000 ∧ x.after.session.status = .floodWait ∧
        x.after.session.floodWaitUntil = some 130) ∧
    ∃ x ∈ transitions sessionStep rotating
        [.observe 0 (.floodWait 30 "wait"), .lock 0, .commit 0, .tick 130, .sweep 1, .loadDue 1,
          .observe 2 (.floodWait 900 "wait"), .lock 2, .commit 2, .commit 1],
      x.label.isOperator = false ∧ x.before.clock = 130 ∧
        x.before.session.status = .floodWait ∧ x.before.session.floodWaitUntil = some 1030 ∧
        x.after.session.status = .active := by
  decide

end Runs

end Crawlers

end MemeExpert
