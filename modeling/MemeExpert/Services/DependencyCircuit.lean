import Mathlib.Data.Fintype.EquivFin
import MemeExpert.Lib.Runs
import MemeExpert.Services.PipelineReliability

/-! Workers share the circuit of a dependency through three separate transactions. -/

namespace MemeExpert.Services

open Runs

/-- The row beside the history of its calls; calls are numbered as they are admitted. -/
structure CircuitState where
  row : Option DependencyCircuitState := none
  clock : Time := 0
  inFlight : List Nat := []
  admitted : Nat := 0
  probe : Option Nat := none
  sinceHalfOpen : Nat := 0
  openings : Nat := 0
  callers : List String := []

def circuitStatus (row : Option DependencyCircuitState) : DependencyCircuitStatus :=
  (row.map DependencyCircuitState.status).getD .closed

def CircuitState.status (s : CircuitState) : DependencyCircuitStatus := circuitStatus s.row

inductive CircuitLabel where
  | acquire (owner : String) (now : Time)
  /-- An admitted call ends; `stored` tells whether its report could be written. -/
  | settle (call : Nat) (result : StageResult) (settings : CircuitSettings) (stored : Bool) (now : Time)
  /-- A delivery fails with a retryable exception before it asks for its permit. -/
  | failUnadmitted (error : ProviderError) (settings : CircuitSettings) (now : Time)

def CircuitLabel.now : CircuitLabel → Time
  | acquire _ now => now
  | settle _ _ _ _ now => now
  | failUnadmitted _ _ now => now

def CircuitLabel.outcomeOf : CircuitLabel → Option Nat
  | settle call _ _ _ _ => some call
  | acquire _ _ | failUnadmitted _ _ _ => none

def CircuitLabel.reports : CircuitLabel → Option (CircuitReport × CircuitSettings)
  | settle _ result settings true _ => result.report.map fun report => (report, settings)
  | failUnadmitted error settings _ => some (.failure error, settings)
  | settle _ _ _ false _ | acquire _ _ => none

section Machine

variable (sha256 : String → String) (dependency : String)

def reportOpens (settings : CircuitSettings) (row : Option DependencyCircuitState) :
    CircuitReport → Bool
  | .success => false
  | .failure error =>
    opensOn (initialCircuit dependency row) (error.fingerprint sha256) settings.failureThreshold

def CircuitState.record (s : CircuitState) (now : Time) :
    Option (CircuitReport × CircuitSettings) → CircuitState
  | none => s
  | some (report, settings) =>
    { s with
      row := recordReport sha256 dependency settings now s.row report
      openings := s.openings + (reportOpens sha256 dependency settings s.row report).toNat }

def CircuitState.grant (s : CircuitState) (row : Option DependencyCircuitState) : CircuitState :=
  { s with
    row := row
    inFlight := s.admitted :: s.inFlight
    admitted := s.admitted + 1
    probe := if s.status = .opened then some s.admitted else s.probe
    sinceHalfOpen := if s.status = .opened then 1 else s.sinceHalfOpen + 1 }

def circuitStep (s : CircuitState) (label : CircuitLabel) : Option CircuitState :=
  if label.now < s.clock then none
  else
    match label with
    | .acquire owner now =>
      let called := { s with clock := now, callers := owner :: s.callers }
      match acquireDependencyCircuit owner now s.row with
      | .error _ => some called
      | .ok row => some (called.grant row)
    | .settle call _ _ _ now =>
      if call ∈ s.inFlight then
        some (CircuitState.record sha256 dependency
          { s with clock := now, inFlight := s.inFlight.erase call } now label.reports)
      else none
    | .failUnadmitted _ _ now =>
      some (CircuitState.record sha256 dependency { s with clock := now } now label.reports)

def CircuitLabel.remaining (label : CircuitLabel) (inFlight : List Nat) : List Nat :=
  match label.outcomeOf with
  | some call => inFlight.erase call
  | none => inFlight

variable (settings : CircuitSettings) (now : Time)

theorem circuitStatus_initial (row : Option DependencyCircuitState) :
    (initialCircuit dependency row).status = circuitStatus row := by
  cases row <;> rfl

theorem circuitStatus_success (row : Option DependencyCircuitState) :
    circuitStatus (recordReport sha256 dependency settings now row .success) = .closed := by
  cases row <;> rfl

theorem circuitStatus_failure (row : Option DependencyCircuitState) (error : ProviderError) :
    circuitStatus (recordReport sha256 dependency settings now row (.failure error)) =
      if reportOpens sha256 dependency settings row (.failure error) then .opened
      else circuitStatus row := by
  have hinitial := circuitStatus_initial dependency row
  rw [recordReport_failure]
  by_cases hopens : reportOpens sha256 dependency settings row (.failure error) = true
  · rw [if_pos hopens]
    exact congrArg circuitStatus (if_pos hopens)
  · rw [if_neg hopens, ← hinitial]
    exact congrArg circuitStatus (if_neg hopens)

theorem reportOpens_of_halfOpen {row : Option DependencyCircuitState} (error : ProviderError)
    (h : circuitStatus row = .halfOpen) :
    reportOpens sha256 dependency settings row (.failure error) = true := by
  rw [← circuitStatus_initial dependency row] at h
  simp [reportOpens, opensOn, h]

theorem reportOpens_of_opened {row : Option DependencyCircuitState} (error : ProviderError)
    (h : circuitStatus row = .opened) :
    reportOpens sha256 dependency settings row (.failure error) = true ↔
      settings.failureThreshold ≤
        failuresWith (initialCircuit dependency row) (error.fingerprint sha256) := by
  rw [← circuitStatus_initial dependency row] at h
  simp [reportOpens, opensOn, h]

theorem circuitStatus_recordReport_ne_halfOpen (row : Option DependencyCircuitState)
    (report : CircuitReport) :
    circuitStatus (recordReport sha256 dependency settings now row report) ≠ .halfOpen := by
  cases report with
  | success =>
    rw [circuitStatus_success]
    decide
  | failure error =>
    rw [circuitStatus_failure]
    by_cases hbefore : circuitStatus row = .halfOpen
    · rw [reportOpens_of_halfOpen sha256 dependency settings error hbefore, if_pos rfl]
      decide
    split
    · decide
    · exact hbefore

end Machine

section Steps

variable {sha256 : String → String} {dependency : String} {s t : CircuitState}
  {label : CircuitLabel}

def circuitProbeOwner (row : Option DependencyCircuitState) : Option String :=
  row.bind DependencyCircuitState.probeOwner

def CircuitState.advance (s : CircuitState) (label : CircuitLabel) : CircuitState :=
  { s with clock := label.now, inFlight := label.remaining s.inFlight }

def CircuitState.call (s : CircuitState) (owner : String) (now : Time) : CircuitState :=
  { s with clock := now, callers := owner :: s.callers }

theorem circuitStep_cases (h : circuitStep sha256 dependency s label = some t) :
    (∃ owner now, label = .acquire owner now ∧ t = s.call owner now) ∨
    (∃ owner now row, label = .acquire owner now ∧
      acquireDependencyCircuit owner now s.row = .ok row ∧ t = (s.call owner now).grant row) ∨
    ((∀ owner now, label ≠ .acquire owner now) ∧
      t = (s.advance label).record sha256 dependency label.now label.reports) := by
  unfold circuitStep at h
  split at h
  · cases h
  cases label with
  | acquire owner now =>
    cases hacquire : acquireDependencyCircuit owner now s.row with
    | error _ =>
      simp only [hacquire] at h
      cases h
      exact .inl ⟨owner, now, rfl, rfl⟩
    | ok row =>
      simp only [hacquire] at h
      cases h
      exact .inr (.inl ⟨owner, now, row, rfl, hacquire, rfl⟩)
  | settle call result settings stored now =>
    simp only at h
    split at h
    · cases h
      refine .inr (.inr ⟨?_, rfl⟩)
      intro owner now' heq
      cases heq
    · cases h
  | failUnadmitted error settings now =>
    cases h
    refine .inr (.inr ⟨?_, rfl⟩)
    intro owner now' heq
    cases heq

theorem mem_inFlight_of_outcomeOf {call : Nat} (h : circuitStep sha256 dependency s label = some t)
    (hcall : label.outcomeOf = some call) : call ∈ s.inFlight := by
  cases label with
  | acquire owner now => cases hcall
  | failUnadmitted error settings now => cases hcall
  | settle other result settings stored now =>
    cases hcall
    unfold circuitStep at h
    split at h
    · cases h
    simp only at h
    split at h
    · assumption
    · cases h

theorem status_grant {owner : String} {now : Time} {row : Option DependencyCircuitState}
    (h : acquireDependencyCircuit owner now s.row = .ok row) :
    (s.status = .closed ∧ circuitStatus row = .closed) ∨
    (s.status = .opened ∧ circuitStatus row = .halfOpen ∧ circuitProbeOwner row = some owner) ∨
    (s.status = .halfOpen ∧ circuitProbeOwner s.row = some owner ∧ row = s.row) := by
  rcases acquire_cases h with ⟨hs, rfl⟩ | ⟨r, hs, hstatus, rfl⟩ | ⟨r, hs, hstatus, rfl⟩ |
    ⟨r, hs, hstatus, howner, rfl⟩
  · exact .inl ⟨by rw [CircuitState.status, hs]; rfl, rfl⟩
  · exact .inl ⟨by rw [CircuitState.status, hs]; exact hstatus, hstatus⟩
  · exact .inr (.inl ⟨by rw [CircuitState.status, hs]; exact hstatus, rfl, rfl⟩)
  · exact .inr (.inr ⟨by rw [CircuitState.status, hs]; exact hstatus, by rw [hs]; exact howner,
      hs.symm⟩)

theorem status_record_ne_halfOpen (now : Time) (report : CircuitReport × CircuitSettings) :
    (s.record sha256 dependency now (some report)).status ≠ .halfOpen :=
  circuitStatus_recordReport_ne_halfOpen sha256 dependency report.2 now s.row report.1

/-- What holds of a half-open circuit on every run: someone was admitted, and the owner of the
probe has called. -/
structure ProbeRecorded (s : CircuitState) : Prop where
  admitted_once : s.status = .halfOpen → 1 ≤ s.sinceHalfOpen
  owner_called : s.status = .halfOpen → ∃ owner ∈ s.callers, circuitProbeOwner s.row = some owner

theorem ProbeRecorded.step (hs : ProbeRecorded s)
    (h : circuitStep sha256 dependency s label = some t) : ProbeRecorded t := by
  rcases circuitStep_cases h with ⟨owner, now, -, rfl⟩ | ⟨owner, now, row, -, hacquire, rfl⟩ |
    ⟨-, rfl⟩
  · refine ⟨hs.admitted_once, ?_⟩
    intro hhalf
    obtain ⟨probe, hprobe, heq⟩ := hs.owner_called hhalf
    exact ⟨probe, List.mem_cons_of_mem _ hprobe, heq⟩
  · refine ⟨?_, ?_⟩
    · intro hhalf
      simp only [CircuitState.grant]
      split <;> omega
    · intro hhalf
      rcases status_grant hacquire with ⟨-, hclosed⟩ | ⟨-, -, howner⟩ | ⟨-, howner, rfl⟩
      · exact absurd (hclosed.symm.trans hhalf) (by decide)
      · exact ⟨owner, List.mem_cons_self, howner⟩
      · exact ⟨owner, List.mem_cons_self, howner⟩
  · cases hreports : label.reports with
    | none => exact ⟨hs.admitted_once, hs.owner_called⟩
    | some report =>
      constructor
      · intro hhalf
        exact (status_record_ne_halfOpen _ report hhalf).elim
      · intro hhalf
        exact (status_record_ne_halfOpen _ report hhalf).elim

theorem probeRecorded_initial : ProbeRecorded {} where
  admitted_once hhalf := by cases hhalf
  owner_called hhalf := by cases hhalf

theorem probeRecorded_before {as : List CircuitLabel} {x : Transition CircuitState CircuitLabel}
    (hx : x ∈ transitions (circuitStep sha256 dependency) {} as) : ProbeRecorded x.before :=
  invariant_before probeRecorded_initial
    (fun _ hy hbefore => hbefore.step (step_of_mem_transitions hy)) hx

end Steps

section Fencing

variable (sha256 : String → String) (dependency : String)

/-- At most one call is admitted while the circuit is half-open, and only the outcome of that
call closes an open or half-open circuit or opens it again. -/
structure ProbeFenced (x : Transition CircuitState CircuitLabel) : Prop where
  one_admission : x.after.status = .halfOpen → x.after.sinceHalfOpen ≤ 1
  settled_by_probe : x.before.status ≠ .closed →
    (x.after.status = .closed ∨ x.before.openings < x.after.openings) →
    x.before.status = .halfOpen ∧ ∃ call, x.label.outcomeOf = some call ∧ x.before.probe = some call

/-- The process that holds the probe asks for no second permit, an open circuit meets no report
that closes it or reaches the threshold, and a half-open one no report of another call. -/
structure ReportsInTurn (x : Transition CircuitState CircuitLabel) : Prop where
  no_second_permit : ∀ owner now, x.label = .acquire owner now → x.before.status = .halfOpen →
    circuitProbeOwner x.before.row ≠ some owner
  below_threshold : x.before.status = .opened → ∀ report settings,
    x.label.reports = some (report, settings) → ∃ error, report = .failure error ∧
      failuresWith (initialCircuit dependency x.before.row) (error.fingerprint sha256) <
        settings.failureThreshold
  own_report : x.before.status = .halfOpen → ∀ report, x.label.reports = some report →
    ∃ call, x.label.outcomeOf = some call ∧ x.before.probe = some call

variable {s t : CircuitState} {label : CircuitLabel}

theorem settled_of_halfOpen (hs : s.status = .halfOpen) (now : Time) (report : CircuitReport)
    (settings : CircuitSettings) :
    (s.record sha256 dependency now (some (report, settings))).status = .closed ∨
      s.openings < (s.record sha256 dependency now (some (report, settings))).openings := by
  cases report with
  | success => exact .inl (circuitStatus_success sha256 dependency settings now s.row)
  | failure error =>
    refine .inr ?_
    simp only [CircuitState.record, reportOpens_of_halfOpen sha256 dependency settings error hs,
      Bool.toNat_true]
    omega

theorem settled_of_opened_iff (hs : s.status = .opened) (now : Time) (report : CircuitReport)
    (settings : CircuitSettings) :
    ((s.record sha256 dependency now (some (report, settings))).status = .closed ∨
      s.openings < (s.record sha256 dependency now (some (report, settings))).openings) ↔
    ¬ ∃ error, report = .failure error ∧
      failuresWith (initialCircuit dependency s.row) (error.fingerprint sha256) <
        settings.failureThreshold := by
  cases report with
  | success =>
    simp only [reduceCtorEq, false_and, exists_false, not_false_eq_true, iff_true]
    exact .inl (circuitStatus_success sha256 dependency settings now s.row)
  | failure error =>
    have hopens := reportOpens_of_opened sha256 dependency settings error hs
    have hstatus := circuitStatus_failure sha256 dependency settings now s.row error
    have hnot_closed : (s.record sha256 dependency now (some (.failure error, settings))).status ≠
        .closed := by
      intro hclosed
      have hopened : circuitStatus s.row = .opened := hs
      rw [hopened, ite_self] at hstatus
      exact absurd (hstatus.symm.trans hclosed) (by decide)
    simp only [CircuitReport.failure.injEq, exists_eq_left', not_lt, hnot_closed, false_or]
    rw [← hopens]
    cases h : reportOpens sha256 dependency settings s.row (.failure error) <;>
      simp [CircuitState.record, h]

variable {sha256 dependency}

theorem acquire_of_probeOwner {owner : String} (now : Time) (hs : s.status = .halfOpen)
    (howner : circuitProbeOwner s.row = some owner) :
    acquireDependencyCircuit owner now s.row = .ok s.row := by
  cases hrow : s.row with
  | none =>
    rw [CircuitState.status, hrow] at hs
    cases hs
  | some row =>
    rw [CircuitState.status, hrow] at hs
    rw [hrow] at howner
    rw [acquire_of_halfOpen hs]
    exact if_pos howner

theorem ReportsInTurn.fenced (hstep : circuitStep sha256 dependency s label = some t)
    (hturn : ReportsInTurn sha256 dependency ⟨s, label, t⟩)
    (hbefore : s.status = .halfOpen → s.sinceHalfOpen ≤ 1) : ProbeFenced ⟨s, label, t⟩ := by
  rcases circuitStep_cases hstep with ⟨owner, now, rfl, rfl⟩ | ⟨owner, now, row, rfl, hacquire, rfl⟩ |
    ⟨-, rfl⟩
  · refine ⟨hbefore, ?_⟩
    rintro hne (hclosed | hopened)
    · exact (hne hclosed).elim
    · exact (Nat.lt_irrefl _ hopened).elim
  · rcases status_grant hacquire with ⟨hs, hclosed⟩ | ⟨hs, hhalf, -⟩ | ⟨hs, howner, -⟩
    · refine ⟨fun hhalf => ?_, fun hne => (hne hs).elim⟩
      exact absurd (hclosed.symm.trans hhalf) (by decide)
    · constructor
      · intro _
        have hcalled : (s.call owner now).status = .opened := hs
        simp only [CircuitState.grant, hcalled, if_true, Nat.le_refl]
      · rintro - (hclosed | hopened)
        · exact absurd (hhalf.symm.trans hclosed) (by decide)
        · exact (Nat.lt_irrefl _ hopened).elim
    · exact (hturn.no_second_permit owner now rfl hs howner).elim
  · cases hreports : label.reports with
    | none =>
      refine ⟨hbefore, ?_⟩
      rintro hne (hclosed | hopened)
      · exact (hne hclosed).elim
      · exact (Nat.lt_irrefl _ hopened).elim
    | some report =>
      obtain ⟨report, settings⟩ := report
      refine ⟨fun hhalf => (status_record_ne_halfOpen _ _ hhalf).elim, ?_⟩
      intro hne hsettled
      cases hs : s.status with
      | closed => exact (hne hs).elim
      | opened =>
        have hbelow := hturn.below_threshold hs report settings hreports
        exact ((settled_of_opened_iff sha256 dependency (s := s.advance label) hs label.now report
          settings).mp hsettled hbelow).elim
      | halfOpen => exact ⟨rfl, hturn.own_report hs _ hreports⟩

theorem ProbeFenced.reportsInTurn (hstep : circuitStep sha256 dependency s label = some t)
    (hfenced : ProbeFenced ⟨s, label, t⟩) (hbefore : ProbeRecorded s) :
    ReportsInTurn sha256 dependency ⟨s, label, t⟩ := by
  have hreport : ∀ report, label.reports = some report →
      t = (s.advance label).record sha256 dependency label.now (some report) := by
    intro report hreports
    rcases circuitStep_cases hstep with ⟨owner, now, rfl, -⟩ | ⟨owner, now, row, rfl, -, -⟩ |
      ⟨-, ht⟩
    · cases hreports
    · cases hreports
    · rw [ht, hreports]
  constructor
  · rintro owner now rfl hs howner
    have hagain := acquire_of_probeOwner now hs howner
    have ht : t = (s.call owner now).grant s.row := by
      unfold circuitStep at hstep
      split at hstep
      · cases hstep
      simp only [hagain] at hstep
      cases hstep
      rfl
    subst ht
    have hone := hfenced.one_admission hs
    have hcalled : (s.call owner now).status ≠ .opened := by
      rw [show (s.call owner now).status = .halfOpen from hs]
      decide
    have hcount : 1 ≤ s.sinceHalfOpen := hbefore.admitted_once hs
    simp only [CircuitState.grant, if_neg hcalled] at hone
    have hsame : (s.call owner now).sinceHalfOpen = s.sinceHalfOpen := rfl
    omega
  · intro hs report settings hreports
    by_contra hbelow
    have hsettled := (settled_of_opened_iff sha256 dependency (s := s.advance label) hs label.now
      report settings).mpr hbelow
    rw [← hreport _ hreports] at hsettled
    have hopened : s.status ≠ .closed := by
      rw [show s.status = .opened from hs]
      decide
    exact absurd (hs.symm.trans (hfenced.settled_by_probe hopened hsettled).1) (by decide)
  · intro hs report hreports
    have hsettled := settled_of_halfOpen sha256 dependency (s := s.advance label) hs label.now
      report.1 report.2
    rw [← hreport _ hreports] at hsettled
    have hopened : s.status ≠ .closed := by
      rw [show s.status = .halfOpen from hs]
      decide
    exact (hfenced.settled_by_probe hopened hsettled).2

/-- The half-open circuit lets one fenced probe through exactly on the runs in which every
report arrives in turn. -/
theorem probe_fenced_iff (as : List CircuitLabel) :
    (∀ x ∈ transitions (circuitStep sha256 dependency) {} as, ProbeFenced x) ↔
      ∀ x ∈ transitions (circuitStep sha256 dependency) {} as, ReportsInTurn sha256 dependency x := by
  constructor
  · intro hfenced x hx
    exact (hfenced x hx).reportsInTurn (step_of_mem_transitions hx) (probeRecorded_before hx)
  intro hturn
  have hone : ∀ x ∈ transitions (circuitStep sha256 dependency) {} as,
      x.before.status = .halfOpen → x.before.sinceHalfOpen ≤ 1 := by
    intro x hx
    refine invariant_before (P := fun s => s.status = .halfOpen → s.sinceHalfOpen ≤ 1) ?_ ?_ hx
    · intro hhalf
      cases hhalf
    · intro y hy hbefore
      exact ((hturn y hy).fenced (step_of_mem_transitions hy) hbefore).one_admission
  intro x hx
  exact (hturn x hx).fenced (step_of_mem_transitions hx) (hone x hx)

def unreachable : ProviderError := ⟨"builtins", "RuntimeError", "provider unavailable"⟩

def lateSuccess : List CircuitLabel :=
  [.acquire "classify:a" 0, .acquire "classify:b" 0,
    .settle 0 (.raised unreachable true) { failureThreshold := 1 } true 1,
    .settle 1 .returned { failureThreshold := 1 } true 2]

def secondPermit : List CircuitLabel :=
  [.acquire "classify:a" 0, .settle 0 (.raised unreachable true) { failureThreshold := 1 } true 1,
    .acquire "classify:a" 31, .acquire "classify:a" 32]

theorem probe_not_fenced :
    (¬ ∀ x ∈ transitions (circuitStep id "classification") {} lateSuccess, ProbeFenced x) ∧
      ¬ ∀ x ∈ transitions (circuitStep id "classification") {} secondPermit, ProbeFenced x := by
  constructor
  · intro hfenced
    obtain ⟨x, hx, hopened, hclosed⟩ :
        ∃ x ∈ transitions (circuitStep id "classification") {} lateSuccess,
          x.before.status = .opened ∧ x.after.status = .closed := by
      decide
    have hne : x.before.status ≠ .closed := by
      rw [hopened]
      decide
    have hhalf := ((hfenced x hx).settled_by_probe hne (.inl hclosed)).1
    exact absurd (hopened.symm.trans hhalf) (by decide)
  · intro hfenced
    obtain ⟨x, hx, hhalf, htwo⟩ :
        ∃ x ∈ transitions (circuitStep id "classification") {} secondPermit,
          x.after.status = .halfOpen ∧ x.after.sinceHalfOpen = 2 := by
      decide
    have hone := (hfenced x hx).one_admission hhalf
    omega

end Fencing

section LockOut

variable (sha256 : String → String) (dependency : String)

def AdmitsLater (s : CircuitState) : Prop :=
  ∃ t, s.clock ≤ t ∧ ∀ owner, owner ∉ s.callers →
    ∃ row, acquireDependencyCircuit owner t s.row = .ok row

def Unlocks (s : CircuitState) : Prop :=
  ∃ endings : List CircuitLabel,
    (∀ ending ∈ endings, ∃ call ∈ s.inFlight, ending.outcomeOf = some call) ∧
      AdmitsLater (final (circuitStep sha256 dependency) s endings)

def LosesProbe (x : Transition CircuitState CircuitLabel) : Prop :=
  x.before.status = .halfOpen ∧ x.label.reports = none ∧
    ∃ call, x.label.outcomeOf = some call ∧ x.before.inFlight = [call]

variable {sha256 dependency} {s t : CircuitState} {label : CircuitLabel}

theorem admitsLater_of_closed (hs : s.status = .closed) : AdmitsLater s := by
  refine ⟨s.clock, Nat.le_refl _, ?_⟩
  intro owner _
  cases hrow : s.row with
  | none => exact ⟨none, rfl⟩
  | some row =>
    rw [CircuitState.status, hrow] at hs
    exact ⟨some row, acquire_of_closed hs⟩

theorem admitsLater_of_opened (hs : s.status = .opened) : AdmitsLater s := by
  cases hrow : s.row with
  | none =>
    rw [CircuitState.status, hrow] at hs
    cases hs
  | some row =>
    rw [CircuitState.status, hrow] at hs
    refine ⟨max s.clock (row.retryAt.getD 0), Nat.le_max_left .., ?_⟩
    intro owner _
    refine ⟨_, hrow ▸ acquire_of_opened hs ?_⟩
    intro retryAt hretry
    rw [Option.mem_def] at hretry
    rw [hretry]
    exact Nat.le_max_right ..

theorem admitsLater_iff (hs : ProbeRecorded s) : AdmitsLater s ↔ s.status ≠ .halfOpen := by
  constructor
  · rintro ⟨t, -, hadmits⟩ hhalf
    obtain ⟨probe, hprobe, howner⟩ := hs.owner_called hhalf
    obtain ⟨newcomer, hnew⟩ := Infinite.exists_notMem_finset s.callers.toFinset
    rw [List.mem_toFinset] at hnew
    obtain ⟨row, hrow⟩ := hadmits newcomer hnew
    rcases status_grant hrow with ⟨hclosed, -⟩ | ⟨hopened, -⟩ | ⟨-, hsame, -⟩
    · exact absurd (hclosed.symm.trans hhalf) (by decide)
    · exact absurd (hopened.symm.trans hhalf) (by decide)
    rw [howner] at hsame
    cases hsame
    exact hnew hprobe
  · intro hne
    cases hstatus : s.status with
    | closed => exact admitsLater_of_closed hstatus
    | opened => exact admitsLater_of_opened hstatus
    | halfOpen => exact (hne hstatus).elim

theorem unlocks_of_inFlight (hs : s.inFlight ≠ []) : Unlocks sha256 dependency s := by
  obtain ⟨call, rest, hcalls⟩ := List.exists_cons_of_ne_nil hs
  have hcall : call ∈ s.inFlight := by
    rw [hcalls]
    exact List.mem_cons_self
  refine ⟨[.settle call .returned {} true s.clock], ?_, ?_⟩
  · intro ending hending
    rw [List.mem_singleton] at hending
    exact ⟨call, hcall, by rw [hending]; rfl⟩
  refine admitsLater_of_closed ?_
  have hstep : circuitStep sha256 dependency s (.settle call .returned {} true s.clock) =
      some ((s.advance (.settle call .returned {} true s.clock)).record sha256 dependency s.clock
        (some (.success, {}))) := by
    simp only [circuitStep, CircuitLabel.now, Nat.lt_irrefl, if_false, hcall, if_true]
    rfl
  rw [final_cons_of_some [] hstep]
  exact circuitStatus_success sha256 dependency {} s.clock s.row

theorem unlocks_iff (hs : ProbeRecorded s) :
    Unlocks sha256 dependency s ↔ s.status = .halfOpen → s.inFlight ≠ [] := by
  constructor
  · rintro ⟨endings, hendings, hadmits⟩ hhalf hnone
    have hnil : endings = [] := by
      rw [List.eq_nil_iff_forall_not_mem]
      intro ending hending
      obtain ⟨call, hcall, -⟩ := hendings ending hending
      rw [hnone] at hcall
      cases hcall
    rw [hnil] at hadmits
    exact (admitsLater_iff hs).mp hadmits hhalf
  · intro hflight
    by_cases hhalf : s.status = .halfOpen
    · exact unlocks_of_inFlight (hflight hhalf)
    refine ⟨[], ?_, (admitsLater_iff hs).mpr hhalf⟩
    intro ending hending
    cases hending

theorem LosesProbe.stranded (hstep : circuitStep sha256 dependency s label = some t)
    (hlost : LosesProbe ⟨s, label, t⟩) : t.status = .halfOpen ∧ t.inFlight = [] := by
  obtain ⟨hhalf, hreports, call, hcall, hflight⟩ := hlost
  rcases circuitStep_cases hstep with ⟨owner, now, rfl, -⟩ | ⟨owner, now, row, rfl, -, -⟩ |
    ⟨-, rfl⟩
  · cases hcall
  · cases hcall
  change label.reports = none at hreports
  change s.inFlight = [call] at hflight
  change label.outcomeOf = some call at hcall
  rw [hreports]
  refine ⟨hhalf, ?_⟩
  simp only [CircuitState.record, CircuitState.advance, CircuitLabel.remaining, hcall, hflight,
    List.erase_cons_head]

theorem inFlight_of_not_losesProbe (hstep : circuitStep sha256 dependency s label = some t)
    (hkept : ¬ LosesProbe ⟨s, label, t⟩) (hs : s.status = .halfOpen → s.inFlight ≠ []) :
    t.status = .halfOpen → t.inFlight ≠ [] := by
  intro hhalf
  rcases circuitStep_cases hstep with ⟨owner, now, rfl, rfl⟩ | ⟨owner, now, row, rfl, -, rfl⟩ |
    ⟨-, rfl⟩
  · exact hs hhalf
  · intro hnil
    cases hnil
  cases hreports : label.reports with
  | some report =>
    rw [hreports] at hhalf
    exact (status_record_ne_halfOpen _ report hhalf).elim
  | none =>
    rw [hreports] at hhalf
    simp only [CircuitState.record, CircuitState.advance, CircuitLabel.remaining]
    cases hcall : label.outcomeOf with
    | none => exact hs hhalf
    | some call =>
      have hmem : call ∈ s.inFlight := mem_inFlight_of_outcomeOf hstep hcall
      intro hnone
      change s.inFlight.erase call = [] at hnone
      have hlength : s.inFlight.length = 1 := by
        have herase := List.length_erase_of_mem hmem
        rw [hnone, List.length_nil] at herase
        have hpos := List.length_pos_of_mem hmem
        omega
      obtain ⟨only, honly⟩ := List.length_eq_one_iff.mp hlength
      rw [honly, List.mem_singleton] at hmem
      exact hkept ⟨hhalf, hreports, call, hcall, by rw [honly, hmem]⟩

/-- A state reached is out of the reach of newcomers exactly while it is half-open, and for good
exactly when a step of the run lost the probe. -/
theorem circuit_unlocks_iff (as : List CircuitLabel) :
    (AdmitsLater (final (circuitStep sha256 dependency) {} as) ↔
      (final (circuitStep sha256 dependency) {} as).status ≠ .halfOpen) ∧
    ((∀ x ∈ transitions (circuitStep sha256 dependency) {} as, Unlocks sha256 dependency x.after) ↔
      ∀ x ∈ transitions (circuitStep sha256 dependency) {} as, ¬ LosesProbe x) := by
  have hafter : ∀ x ∈ transitions (circuitStep sha256 dependency) {} as, ProbeRecorded x.after := by
    intro x hx
    exact (probeRecorded_before hx).step (step_of_mem_transitions hx)
  have hfinal : ProbeRecorded (final (circuitStep sha256 dependency) {} as) :=
    invariant_final probeRecorded_initial
      fun _ hx hbefore => hbefore.step (step_of_mem_transitions hx)
  refine ⟨admitsLater_iff hfinal, ?_, ?_⟩
  · intro hunlocks x hx hlost
    obtain ⟨hhalf, hnone⟩ := hlost.stranded (step_of_mem_transitions hx)
    exact (unlocks_iff (hafter x hx)).mp (hunlocks x hx) hhalf hnone
  intro hkept x hx
  have hbefore : x.before.status = .halfOpen → x.before.inFlight ≠ [] := by
    refine invariant_before (P := fun s => s.status = .halfOpen → s.inFlight ≠ []) ?_ ?_ hx
    · intro hhalf
      cases hhalf
    · intro y hy
      exact inFlight_of_not_losesProbe (step_of_mem_transitions hy) (hkept y hy)
  exact (unlocks_iff (hafter x hx)).mpr
    (inFlight_of_not_losesProbe (step_of_mem_transitions hx) (hkept x hx) hbefore)

def crashedProbe : List CircuitLabel :=
  [.acquire "classify:a" 0, .settle 0 (.raised unreachable true) { failureThreshold := 1 } true 1,
    .acquire "classify:a" 31, .settle 1 .crashed { failureThreshold := 1 } true 32]

theorem circuit_locked_out :
    ¬ ∀ x ∈ transitions (circuitStep id "classification") {} crashedProbe,
      Unlocks id "classification" x.after := by
  intro hunlocks
  obtain ⟨x, hx, hhalf, hnone⟩ :
      ∃ x ∈ transitions (circuitStep id "classification") {} crashedProbe,
        x.after.status = .halfOpen ∧ x.after.inFlight = [] := by
    decide
  have hrecorded := (probeRecorded_before hx).step (step_of_mem_transitions hx)
  exact (unlocks_iff hrecorded).mp (hunlocks x hx) hhalf hnone

end LockOut

end MemeExpert.Services
