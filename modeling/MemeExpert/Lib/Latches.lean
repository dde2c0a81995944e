import Mathlib.Data.List.Induction

/-! A latch is set by some signals and reset by others. Its value is decided by the last signal
that set it and the resets since. -/

namespace Latches

variable {σ : Type*}

structure Latch (σ : Type*) where
  sets : σ → Bool
  resets : σ → Bool
  not_both : ∀ signal, sets signal = true → resets signal = false

namespace Latch

variable (latch : Latch σ)

def next (held : Bool) (signal : σ) : Bool :=
  if held then !latch.resets signal else latch.sets signal

/-- Some signal set the latch and no later one reset it. -/
def Held (signals : List σ) : Prop :=
  ∃ before signal after, signals = before ++ signal :: after ∧ latch.sets signal = true ∧
    ∀ later ∈ after, latch.resets later = false

variable {latch}

theorem not_held_nil : ¬latch.Held [] := by
  rintro ⟨before, signal, after, h, -⟩
  simp at h

theorem held_snoc (signals : List σ) (signal : σ) :
    latch.Held (signals ++ [signal]) ↔
      latch.sets signal = true ∨ (latch.Held signals ∧ latch.resets signal = false) := by
  constructor
  · rintro ⟨before, setter, after, hsplit, hsets, hafter⟩
    obtain rfl | ⟨rest, last, rfl⟩ := List.eq_nil_or_concat after
    · obtain ⟨-, hlast⟩ := List.append_inj' hsplit rfl
      obtain rfl := List.singleton_inj.mp hlast
      exact Or.inl hsets
    rw [List.concat_eq_append, ← List.cons_append, ← List.append_assoc] at hsplit
    obtain ⟨rfl, hlast⟩ := List.append_inj' hsplit rfl
    obtain rfl := List.singleton_inj.mp hlast
    have hrest : ∀ later ∈ rest, latch.resets later = false :=
      fun later hmem => hafter later (by simp [hmem])
    exact Or.inr ⟨⟨before, setter, rest, rfl, hsets, hrest⟩, hafter signal (by simp)⟩
  · rintro (hsets | ⟨⟨before, setter, after, rfl, hsets, hafter⟩, hresets⟩)
    · exact ⟨signals, signal, [], rfl, hsets, by simp⟩
    · refine ⟨before, setter, after ++ [signal], by simp, hsets, ?_⟩
      intro later hmem
      rw [List.mem_append, List.mem_singleton] at hmem
      obtain hmem | rfl := hmem
      · exact hafter later hmem
      · exact hresets

theorem foldl_next_iff (signals : List σ) :
    signals.foldl latch.next false = true ↔ latch.Held signals := by
  induction signals using List.reverseRecOn with
  | nil => simp [not_held_nil]
  | append_singleton signals signal ih =>
    rw [List.foldl_append, List.foldl_cons, List.foldl_nil, held_snoc, ← ih, next]
    cases hheld : signals.foldl latch.next false with
    | false => simp
    | true =>
      have hboth := latch.not_both signal
      cases hsets : latch.sets signal <;> simp_all

end Latch

end Latches
