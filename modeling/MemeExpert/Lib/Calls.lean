import Mathlib.Logic.Function.Basic

/-! The calls of a system are a partial map from their names. A step begins a call, moves it
on or ends it, and leaves the others where they are. -/

namespace Calls

universe u v

variable {ι : Type u} {α : Type v} [DecidableEq ι] {calls : ι → Option α} {callId otherId : ι}
  {call other : α}

theorem update_some_eq_some :
    Function.update calls callId (some call) otherId = some other ↔
      otherId = callId ∧ call = other ∨ otherId ≠ callId ∧ calls otherId = some other := by
  by_cases heq : otherId = callId
  · simp [heq]
  · simp [heq]

theorem update_none_eq_some :
    Function.update calls callId none otherId = some other ↔
      otherId ≠ callId ∧ calls otherId = some other := by
  by_cases heq : otherId = callId
  · simp [heq]
  · simp [heq]

theorem forall_update_some {P : ι → α → Prop} (h : ∀ id call, calls id = some call → P id call)
    (hcall : P callId call) :
    ∀ id other, Function.update calls callId (some call) id = some other → P id other := by
  intro id other hother
  obtain ⟨rfl, rfl⟩ | ⟨-, hold⟩ := update_some_eq_some.mp hother
  · exact hcall
  · exact h id other hold

theorem forall_update_none {P : ι → α → Prop} (h : ∀ id call, calls id = some call → P id call) :
    ∀ id other, Function.update calls callId none id = some other → P id other := by
  intro id other hother
  exact h id other (update_none_eq_some.mp hother).2

end Calls
