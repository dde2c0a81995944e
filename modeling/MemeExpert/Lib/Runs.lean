import Mathlib.Algebra.Order.Ring.Nat
import Mathlib.Data.List.Basic

/-! A system is a partial step function over labels. A label that is not enabled is passed over,
so every schedule has a run. -/

namespace Runs

universe u v

variable {σ : Type u} {ι : Type v}

/-- One step that was taken, with the states around it. -/
structure Transition (σ : Type u) (ι : Type v) where
  before : σ
  label : ι
  after : σ

def transitions (step : σ → ι → Option σ) : σ → List ι → List (Transition σ ι)
  | _, [] => []
  | s, a :: as =>
    match step s a with
    | some t => ⟨s, a, t⟩ :: transitions step t as
    | none => transitions step s as

def final (step : σ → ι → Option σ) : σ → List ι → σ
  | s, [] => s
  | s, a :: as => final step ((step s a).getD s) as

variable {step : σ → ι → Option σ}

theorem transitions_cons_of_some {s t : σ} {a : ι} (as : List ι) (hstep : step s a = some t) :
    transitions step s (a :: as) = ⟨s, a, t⟩ :: transitions step t as := by
  simp only [transitions, hstep]

theorem transitions_cons_of_none {s : σ} {a : ι} (as : List ι) (hstep : step s a = none) :
    transitions step s (a :: as) = transitions step s as := by
  simp only [transitions, hstep]

theorem final_cons_of_some {s t : σ} {a : ι} (as : List ι) (hstep : step s a = some t) :
    final step s (a :: as) = final step t as := by
  simp only [final, hstep, Option.getD_some]

theorem final_cons_of_none {s : σ} {a : ι} (as : List ι) (hstep : step s a = none) :
    final step s (a :: as) = final step s as := by
  simp only [final, hstep, Option.getD_none]

theorem step_of_mem_transitions {s : σ} {as : List ι} {x : Transition σ ι}
    (hx : x ∈ transitions step s as) : step x.before x.label = some x.after := by
  induction as generalizing s with
  | nil => cases hx
  | cons a as ih =>
    cases hstep : step s a with
    | none =>
      rw [transitions_cons_of_none as hstep] at hx
      exact ih hx
    | some t =>
      rw [transitions_cons_of_some as hstep, List.mem_cons] at hx
      rcases hx with rfl | hx
      · exact hstep
      · exact ih hx

theorem label_mem_of_mem_transitions {s : σ} {as : List ι} {x : Transition σ ι}
    (hx : x ∈ transitions step s as) : x.label ∈ as := by
  induction as generalizing s with
  | nil => cases hx
  | cons a as ih =>
    cases hstep : step s a with
    | none =>
      rw [transitions_cons_of_none as hstep] at hx
      exact List.mem_cons_of_mem _ (ih hx)
    | some t =>
      rw [transitions_cons_of_some as hstep, List.mem_cons] at hx
      rcases hx with rfl | hx
      · exact List.mem_cons_self
      · exact List.mem_cons_of_mem _ (ih hx)

/-- What holds at the start and is kept by the transitions of a run holds before each
of them and at its end. -/
theorem invariant_of_transitions {P : σ → Prop} {s : σ} {as : List ι} (hstart : P s)
    (hkeep : ∀ x ∈ transitions step s as, P x.before → P x.after) :
    (∀ x ∈ transitions step s as, P x.before) ∧ P (final step s as) := by
  induction as generalizing s with
  | nil => exact ⟨fun x hx => (List.not_mem_nil hx).elim, hstart⟩
  | cons a as ih =>
    cases hstep : step s a with
    | none =>
      rw [transitions_cons_of_none as hstep] at hkeep ⊢
      rw [final_cons_of_none as hstep]
      exact ih hstart hkeep
    | some t =>
      rw [transitions_cons_of_some as hstep] at hkeep ⊢
      rw [final_cons_of_some as hstep]
      have hnext : P t := hkeep _ List.mem_cons_self hstart
      obtain ⟨hbefore, hfinal⟩ := ih hnext fun x hx => hkeep x (List.mem_cons_of_mem _ hx)
      refine ⟨?_, hfinal⟩
      intro x hx
      rcases List.mem_cons.mp hx with rfl | hx
      · exact hstart
      · exact hbefore x hx

theorem invariant_before {P : σ → Prop} {s : σ} {as : List ι} (hstart : P s)
    (hkeep : ∀ x ∈ transitions step s as, P x.before → P x.after) {x : Transition σ ι}
    (hx : x ∈ transitions step s as) : P x.before :=
  (invariant_of_transitions hstart hkeep).1 x hx

theorem invariant_final {P : σ → Prop} {s : σ} {as : List ι} (hstart : P s)
    (hkeep : ∀ x ∈ transitions step s as, P x.before → P x.after) : P (final step s as) :=
  (invariant_of_transitions hstart hkeep).2

theorem history_final {P : List ι → σ → Prop}
    (hkeep : ∀ past s a t, P past s → step s a = some t → P (past ++ [a]) t) {past : List ι}
    {s : σ} (hstart : P past s) (as : List ι) :
    P (past ++ (transitions step s as).map Transition.label) (final step s as) := by
  induction as generalizing past s with
  | nil =>
    rw [transitions, List.map_nil, List.append_nil]
    exact hstart
  | cons a as ih =>
    cases hstep : step s a with
    | none =>
      rw [transitions_cons_of_none as hstep, final_cons_of_none as hstep]
      exact ih hstart
    | some t =>
      have hrest := ih (hkeep past s a t hstart hstep)
      rw [transitions_cons_of_some as hstep, final_cons_of_some as hstep, List.map_cons]
      rwa [List.append_assoc, List.singleton_append] at hrest

theorem measure_final (m : σ → Nat) (worth : ι → Nat) {s : σ} {as : List ι}
    (hraise : ∀ x ∈ transitions step s as, m x.after = m x.before + worth x.label) :
    m (final step s as) = m s + ((transitions step s as).map fun x => worth x.label).sum := by
  induction as generalizing s with
  | nil => rfl
  | cons a as ih =>
    cases hstep : step s a with
    | none =>
      rw [transitions_cons_of_none as hstep] at hraise ⊢
      rw [final_cons_of_none as hstep]
      exact ih hraise
    | some t =>
      rw [transitions_cons_of_some as hstep] at hraise ⊢
      have hfirst : m t = m s + worth a := hraise _ List.mem_cons_self
      have hrest := ih fun x hx => hraise x (List.mem_cons_of_mem _ hx)
      rw [final_cons_of_some as hstep, hrest, hfirst, List.map_cons, List.sum_cons]
      exact Nat.add_assoc ..

/-- States some schedule leads to from an initial state. -/
def Reachable (step : σ → ι → Option σ) (init : σ → Prop) (t : σ) : Prop :=
  ∃ s, init s ∧ ∃ as, final step s as = t

theorem Reachable.invariant {P init : σ → Prop} {t : σ} (ht : Reachable step init t)
    (hstart : ∀ s, init s → P s)
    (hkeep : ∀ s a u, P s → step s a = some u → P u) : P t := by
  obtain ⟨s, hs, as, rfl⟩ := ht
  exact invariant_final (hstart s hs) fun x hx hbefore =>
    hkeep x.before x.label x.after hbefore (step_of_mem_transitions hx)

end Runs
