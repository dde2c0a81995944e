import Mathlib.Init

/-! A sequence of fallible computations succeeds exactly when each of them does. -/

namespace Results

universe u v

variable {ε : Type u} {α β : Type v}

theorem bind_eq_ok {x : Except ε α} {f : α → Except ε β} {b : β} :
    (x >>= f) = .ok b ↔ ∃ a, x = .ok a ∧ f a = .ok b := by
  cases x with
  | error e => simp [bind, Except.bind]
  | ok a => simp [bind, Except.bind]

theorem map_eq_ok {x : Except ε α} {f : α → β} {b : β} :
    x.map f = .ok b ↔ ∃ a, x = .ok a ∧ f a = b := by
  cases x with
  | error e => simp [Except.map]
  | ok a => simp [Except.map]

theorem mapError_eq_ok {ε' : Type u} {x : Except ε α} {f : ε → ε'} {b : α} :
    x.mapError f = .ok b ↔ x = .ok b := by
  cases x with
  | error e => exact ⟨nofun, nofun⟩
  | ok a =>
    constructor
    · rintro ⟨⟩
      rfl
    · rintro ⟨⟩
      rfl

theorem pure_eq_ok {a b : α} : (pure a : Except ε α) = .ok b ↔ a = b := by
  simp [pure, Except.pure]

theorem throw_ne_ok {e : ε} {b : α} : ¬ (throw e : Except ε α) = .ok b := by
  simp [throw, throwThe, MonadExceptOf.throw]

theorem guard_eq_ok {c : Prop} [Decidable c] {e : ε} {rest : Except ε β} {f : α → Except ε β}
    {b : β} : (if c then (throw e >>= f) else rest) = .ok b ↔ ¬ c ∧ rest = .ok b := by
  by_cases hc : c
  · simp [hc, bind_eq_ok, throw_ne_ok]
  · simp [hc]

theorem bind_eq_error {x : Except ε α} {f : α → Except ε β} {e : ε} :
    (x >>= f) = .error e ↔ x = .error e ∨ ∃ a, x = .ok a ∧ f a = .error e := by
  cases x with
  | error e => simp [bind, Except.bind]
  | ok a => simp [bind, Except.bind]

theorem throw_eq_error {e e' : ε} : (throw e : Except ε α) = .error e' ↔ e = e' := by
  simp [throw, throwThe, MonadExceptOf.throw]

theorem guard_eq_error {c : Prop} [Decidable c] {e e' : ε} {rest : Except ε β} {f : α → Except ε β} :
    (if c then (throw e >>= f) else rest) = .error e' ↔ (c ∧ e = e') ∨ (¬ c ∧ rest = .error e') := by
  by_cases hc : c
  · simp [hc, bind_eq_error, throw_eq_error, throw_ne_ok]
  · simp [hc]

/-- Whatever the computation fails with has the property. -/
def FailsOnly (p : ε → Prop) (x : Except ε α) : Prop := ∀ e, x = .error e → p e

theorem failsOnly_ok {p : ε → Prop} (a : α) : FailsOnly p (.ok a : Except ε α) :=
  fun _ h => by cases h

theorem FailsOnly.bind {p : ε → Prop} {x : Except ε α} {f : α → Except ε β}
    (hx : FailsOnly p x) (hf : ∀ a, x = .ok a → FailsOnly p (f a)) : FailsOnly p (x >>= f) := by
  intro e h
  rcases bind_eq_error.mp h with herror | ⟨a, ha, herror⟩
  · exact hx e herror
  · exact hf a ha e herror

theorem FailsOnly.guard {p : ε → Prop} {c : Prop} [Decidable c] {e : ε} {rest : Except ε β}
    {f : α → Except ε β} (he : c → p e) (hrest : ¬ c → FailsOnly p rest) :
    FailsOnly p (if c then (throw e >>= f) else rest) := by
  intro e' h
  rcases guard_eq_error.mp h with ⟨hc, rfl⟩ | ⟨hc, herror⟩
  · exact he hc
  · exact hrest hc e' herror

theorem toOption_eq_some {x : Except ε α} {a : α} : x.toOption = some a ↔ x = .ok a := by
  cases x with
  | error e => simp [Except.toOption]
  | ok a => simp [Except.toOption]

end Results
