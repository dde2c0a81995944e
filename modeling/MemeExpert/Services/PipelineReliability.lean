import MemeExpert.Models.Session

/-! The durable circuit of one dependency is a single row that every worker process shares.
-/

namespace MemeExpert.Services

inductive DependencyCircuitOpenError where
  | openUntil (dependency : String) (retryAt : Time)
  | probeInFlight (dependency : String)

structure ProviderError where
  typeModule : String
  typeQualname : String
  text : String

/-- `sha256` is the hex digest of the text's UTF-8 bytes. -/
def ProviderError.fingerprint (sha256 : String → String) (error : ProviderError) : String :=
  String.ofList
    ((sha256 (error.typeModule ++ "." ++ error.typeQualname ++ ":" ++ strip error.text)).toList.take
      128)

structure CircuitSettings where
  failureThreshold : Nat := 3
  cooldown : Time := 30
  failureThreshold_range : 1 ≤ failureThreshold ∧ failureThreshold ≤ 32 := by decide
  cooldown_pos : 0 < cooldown := by decide

def startProbe (owner : String) (row : DependencyCircuitState) : DependencyCircuitState :=
  { row with
    status := .halfOpen
    probeOwner := some owner
    probeGeneration := row.probeGeneration + 1 }

def acquireDependencyCircuit (owner : String) (now : Time) :
    Option DependencyCircuitState → Except DependencyCircuitOpenError (Option DependencyCircuitState)
  | none => .ok none
  | some row =>
    match row.status with
    | .closed => .ok (some row)
    | .opened =>
      match row.retryAt.filter fun retryAt => now < retryAt with
      | some retryAt => .error (.openUntil row.dependency retryAt)
      | none => .ok (some (startProbe owner row))
    | .halfOpen =>
      if row.probeOwner = some owner then .ok (some row)
      else .error (.probeInFlight row.dependency)

def recordDependencySuccess (row : Option DependencyCircuitState) : Option DependencyCircuitState :=
  row.map fun row =>
    { row with
      status := .closed
      errorFingerprint := none
      consecutiveFailures := 0
      openedAt := none
      retryAt := none
      probeOwner := none }

def failuresWith (row : DependencyCircuitState) (fingerprint : String) : Nat :=
  if row.errorFingerprint = some fingerprint then row.consecutiveFailures + 1 else 1

def opensOn (row : DependencyCircuitState) (fingerprint : String)
    (failureThreshold : Nat) : Bool :=
  row.status = .halfOpen || failureThreshold ≤ failuresWith row fingerprint

def countFailure (row : DependencyCircuitState) (fingerprint : String) : DependencyCircuitState :=
  { row with
    errorFingerprint := some fingerprint
    consecutiveFailures := failuresWith row fingerprint }

def initialCircuit (dependency : String) (row : Option DependencyCircuitState) :
    DependencyCircuitState :=
  row.getD { dependency := dependency }

def recordDependencyFailure (dependency fingerprint : String) (failureThreshold : Nat)
    (cooldown now : Time) (stored : Option DependencyCircuitState) :
    Except String (Option DependencyCircuitState) :=
  if failureThreshold < 1 then .error "circuit failure threshold must be positive"
  else if cooldown ≤ 0 then .error "circuit cooldown must be positive"
  else
    let row := initialCircuit dependency stored
    let counted := countFailure row fingerprint
    if opensOn row fingerprint failureThreshold then
      .ok (some
        { counted with
          status := .opened
          openedAt := some now
          retryAt := some (now + cooldown)
          probeOwner := none })
    else .ok (some counted)

inductive StageResult where
  | returned
  | raised (error : ProviderError) (retryable : Bool)
  | cancelled
  | crashed

inductive CircuitReport where
  | success
  | failure (error : ProviderError)

/-- Only a return and a retryable exception are reported. A cancellation is no `Exception`. -/
def StageResult.report : StageResult → Option CircuitReport
  | returned => some .success
  | raised error true => some (.failure error)
  | raised _ false => none
  | cancelled => none
  | crashed => none

def recordReport (sha256 : String → String) (dependency : String) (settings : CircuitSettings)
    (now : Time) (row : Option DependencyCircuitState) :
    CircuitReport → Option DependencyCircuitState
  | .success => recordDependencySuccess row
  | .failure error =>
    match recordDependencyFailure dependency (error.fingerprint sha256) settings.failureThreshold
      settings.cooldown now row with
    | .ok recorded => recorded
    | .error _ => row

section Specs

variable {dependency fingerprint owner : String} {failureThreshold : Nat} {cooldown now : Time}

variable {row : DependencyCircuitState}

theorem acquire_of_closed (h : row.status = .closed) :
    acquireDependencyCircuit owner now (some row) = .ok (some row) := by
  simp [acquireDependencyCircuit, h]

theorem acquire_of_opened (h : row.status = .opened)
    (hretry : ∀ retryAt ∈ row.retryAt, retryAt ≤ now) :
    acquireDependencyCircuit owner now (some row) =
      .ok (some (startProbe owner row)) := by
  have hnone : (row.retryAt.filter fun retryAt => now < retryAt) = none := by
    rw [Option.filter_eq_none_iff]
    intro retryAt hmem
    simpa using hretry retryAt hmem
  simp [acquireDependencyCircuit, h, hnone]

theorem acquire_of_halfOpen (h : row.status = .halfOpen) :
    acquireDependencyCircuit owner now (some row) =
      if row.probeOwner = some owner then .ok (some row)
      else .error (.probeInFlight row.dependency) := by
  simp [acquireDependencyCircuit, h]

theorem acquire_cases {stored admitted : Option DependencyCircuitState}
    (h : acquireDependencyCircuit owner now stored = .ok admitted) :
    (stored = none ∧ admitted = none) ∨
    (∃ row, stored = some row ∧ row.status = .closed ∧ admitted = some row) ∨
    (∃ row, stored = some row ∧ row.status = .opened ∧
      admitted = some (startProbe owner row)) ∨
    (∃ row, stored = some row ∧ row.status = .halfOpen ∧ row.probeOwner = some owner ∧
      admitted = some row) := by
  cases stored with
  | none =>
    cases h
    exact .inl ⟨rfl, rfl⟩
  | some row =>
    cases hstatus : row.status with
    | closed =>
      rw [acquire_of_closed hstatus] at h
      cases h
      exact .inr (.inl ⟨row, rfl, hstatus, rfl⟩)
    | opened =>
      simp only [acquireDependencyCircuit, hstatus] at h
      split at h
      · cases h
      · cases h
        exact .inr (.inr (.inl ⟨row, rfl, hstatus, rfl⟩))
    | halfOpen =>
      rw [acquire_of_halfOpen hstatus] at h
      split at h
      · next howner =>
        cases h
        exact .inr (.inr (.inr ⟨row, rfl, hstatus, howner, rfl⟩))
      · cases h

theorem recordReport_failure (sha256 : String → String) (settings : CircuitSettings)
    (stored : Option DependencyCircuitState) (error : ProviderError) :
    recordReport sha256 dependency settings now stored (.failure error) =
      let row := initialCircuit dependency stored
      if opensOn row (error.fingerprint sha256) settings.failureThreshold then
        some
          { countFailure row (error.fingerprint sha256) with
            status := .opened
            openedAt := some now
            retryAt := some (now + settings.cooldown)
            probeOwner := none }
      else some (countFailure row (error.fingerprint sha256)) := by
  have hthreshold : ¬ settings.failureThreshold < 1 := by
    have := settings.failureThreshold_range.1
    omega
  have hcooldown : ¬ settings.cooldown ≤ 0 := Nat.not_le.mpr settings.cooldown_pos
  simp only [recordReport, recordDependencyFailure, if_neg hthreshold, if_neg hcooldown]
  by_cases hopens : opensOn (initialCircuit dependency stored) (error.fingerprint sha256)
      settings.failureThreshold = true
  · simp only [hopens, if_true]
  · simp only [hopens, if_false, Bool.false_eq_true]

end Specs

end MemeExpert.Services
