import Mathlib.Order.Interval.Finset.Nat

/-! Finite sets of numbers that are counted through from one. Taking elements out of one
leaves an initial segment exactly when they come after all that stay. -/

namespace InitialSegments

def IsInitial (s : Finset Nat) : Prop := s = Finset.Icc 1 s.card

variable {s t : Finset Nat}

theorem isInitial_Icc (n : Nat) : IsInitial (Finset.Icc 1 n) := by
  rw [IsInitial, Nat.card_Icc, Nat.add_sub_cancel]

theorem IsInitial.mem_iff (hs : IsInitial s) {a : Nat} : a ∈ s ↔ 1 ≤ a ∧ a ≤ s.card := by
  constructor
  · intro ha
    rw [hs] at ha
    exact Finset.mem_Icc.mp ha
  · intro ha
    rw [hs]
    exact Finset.mem_Icc.mpr ha

theorem isInitial_iff_closed :
    IsInitial s ↔ (∀ a ∈ s, 1 ≤ a) ∧ ∀ a ∈ s, ∀ b, 1 ≤ b → b ≤ a → b ∈ s := by
  constructor
  · intro hs
    refine ⟨fun a ha => (hs.mem_iff.mp ha).1, ?_⟩
    intro a ha b hpos hle
    exact hs.mem_iff.mpr ⟨hpos, hle.trans (hs.mem_iff.mp ha).2⟩
  rintro ⟨hpos, hclosed⟩
  have hsup : s = Finset.Icc 1 (s.sup id) := by
    ext b
    rw [Finset.mem_Icc]
    constructor
    · intro hb
      exact ⟨hpos b hb, Finset.le_sup (f := id) hb⟩
    rintro ⟨hb, hle⟩
    have hnonempty : s.Nonempty := by
      rw [Finset.nonempty_iff_ne_empty]
      rintro rfl
      rw [Finset.sup_empty] at hle
      exact Nat.not_succ_le_zero 0 (hb.trans hle)
    obtain ⟨top, htop, heq⟩ := Finset.exists_mem_eq_sup s hnonempty id
    exact hclosed top htop b hb (hle.trans_eq heq)
  have hinitial := isInitial_Icc (s.sup id)
  rw [← hsup] at hinitial
  exact hinitial

theorem IsInitial.subset_iff (hs : IsInitial s) (hsub : t ⊆ s) :
    IsInitial t ↔ ∀ a ∈ t, ∀ b ∈ s, b ∉ t → a < b := by
  rw [isInitial_iff_closed]
  constructor
  · rintro ⟨-, hclosed⟩ a ha b hb hnot
    by_contra hle
    exact hnot (hclosed a ha b (hs.mem_iff.mp hb).1 (Nat.not_lt.mp hle))
  intro hbefore
  refine ⟨fun a ha => (hs.mem_iff.mp (hsub ha)).1, ?_⟩
  intro a ha b hpos hle
  by_contra hnot
  have hb : b ∈ s := hs.mem_iff.mpr ⟨hpos, hle.trans (hs.mem_iff.mp (hsub ha)).2⟩
  exact Nat.not_lt.mpr hle (hbefore a ha b hb hnot)

theorem IsInitial.insert_next (hs : IsInitial s) : IsInitial (insert (s.card + 1) s) := by
  have hnext : insert (s.card + 1) s = Finset.Icc 1 (s.card + 1) := by
    ext a
    rw [Finset.mem_insert, Finset.mem_Icc, hs.mem_iff]
    omega
  rw [hnext]
  exact isInitial_Icc _

theorem IsInitial.next_notMem (hs : IsInitial s) : s.card + 1 ∉ s := by
  rw [hs.mem_iff]
  omega

end InitialSegments
