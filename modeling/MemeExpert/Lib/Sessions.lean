import MemeExpert.Lib.Calls

/-! Calls run over one another and take locks, which they give back when they end. -/

universe u v w

/-- Calls by name, and the holder of each lock. -/
structure Sessions (ι : Type u) (κ : Type v) (α : Type w) where
  calls : ι → Option α := fun _ => none
  locks : κ → Option ι := fun _ => none

namespace Sessions

variable {ι : Type u} {κ : Type v} {α : Type w} [DecidableEq ι] [DecidableEq κ]

def put (s : Sessions ι κ α) (callId : ι) (call : α) : Sessions ι κ α :=
  { s with calls := Function.update s.calls callId (some call) }

def take (s : Sessions ι κ α) (key : κ) (callId : ι) (call : α) : Sessions ι κ α :=
  { s.put callId call with locks := Function.update s.locks key (some callId) }

/-- The call ends and gives back its locks. -/
def drop (s : Sessions ι κ α) (callId : ι) : Sessions ι κ α where
  calls := Function.update s.calls callId none
  locks key := if s.locks key = some callId then none else s.locks key

/-- The call goes on without its locks. -/
def release (s : Sessions ι κ α) (callId : ι) (call : α) : Sessions ι κ α where
  calls := Function.update s.calls callId (some call)
  locks key := if s.locks key = some callId then none else s.locks key

/-- A call holds every lock that it needs, and what it carries is right. -/
structure Sound (needs : α → κ → Prop) (P : ι → α → Prop) (s : Sessions ι κ α) : Prop where
  held : ∀ callId call key, s.calls callId = some call → needs call key →
    s.locks key = some callId
  right : ∀ callId call, s.calls callId = some call → P callId call

section Sound

variable {needs : α → κ → Prop} {P Q : ι → α → Prop} {s : Sessions ι κ α} {callId other : ι}
  {call found : α} {key : κ}

omit [DecidableEq ι] [DecidableEq κ] in
theorem sound_of_calls_none (h : ∀ callId, s.calls callId = none) : Sound needs P s where
  held callId call _ hcall _ := by
    rw [h callId] at hcall
    cases hcall
  right callId call hcall := by
    rw [h callId] at hcall
    cases hcall

omit [DecidableEq ι] [DecidableEq κ] in
theorem Sound.eq_of_needs (hs : Sound needs P s) (hcall : s.calls callId = some call)
    (hfound : s.calls other = some found) (hneeds : needs call key) (hother : needs found key) :
    other = callId := by
  have hfirst := hs.held callId call key hcall hneeds
  have hsecond := hs.held other found key hfound hother
  rw [hfirst] at hsecond
  exact (Option.some.inj hsecond).symm

omit [DecidableEq ι] [DecidableEq κ] in
theorem Sound.imp (hs : Sound needs P s)
    (h : ∀ callId call, s.calls callId = some call → P callId call → Q callId call) :
    Sound needs Q s where
  held := hs.held
  right callId call hcall := h callId call hcall (hs.right callId call hcall)

omit [DecidableEq κ] in
theorem Sound.put (hs : Sound needs P s)
    (hneeds : ∀ key, needs call key → s.locks key = some callId) (hcall : P callId call) :
    Sound needs P (s.put callId call) where
  held other found key hfound hkey := by
    obtain ⟨rfl, rfl⟩ | ⟨-, hold⟩ := Calls.update_some_eq_some.mp hfound
    · exact hneeds key hkey
    · exact hs.held other found key hold hkey
  right := Calls.forall_update_some hs.right hcall

theorem Sound.acquire (hs : Sound needs P s)
    (hfree : s.locks key = none ∨ s.locks key = some callId)
    (hneeds : ∀ other, needs call other → other = key ∨ s.locks other = some callId)
    (hcall : P callId call) : Sound needs P (s.take key callId call) where
  held other found lock hfound hlock := by
    simp only [Sessions.take, Function.update_apply]
    obtain ⟨rfl, rfl⟩ | ⟨-, hold⟩ := Calls.update_some_eq_some.mp hfound
    · split
      · rfl
      · next hne => exact (hneeds lock hlock).resolve_left hne
    have hheld := hs.held other found lock hold hlock
    split
    · next heq =>
      rw [heq] at hheld
      rw [hheld] at hfree
      exact (hfree.resolve_left (Option.some_ne_none _)).symm
    · exact hheld
  right := Calls.forall_update_some hs.right hcall

theorem Sound.take (hs : Sound needs P s) (hfree : s.locks key = none)
    (hneeds : ∀ other, needs call other → other = key ∨ s.locks other = some callId)
    (hcall : P callId call) : Sound needs P (s.take key callId call) :=
  hs.acquire (.inl hfree) hneeds hcall

omit [DecidableEq κ] in
theorem locks_of_ne (h : s.locks key = some other) (hne : other ≠ callId) :
    (if s.locks key = some callId then none else s.locks key) = some other := by
  rw [if_neg, h]
  rw [h]
  exact fun heq => hne (Option.some.inj heq)

omit [DecidableEq κ] in
theorem Sound.drop (hs : Sound needs P s)
    (h : ∀ other found, other ≠ callId → s.calls other = some found → P other found →
      Q other found) : Sound needs Q (s.drop callId) where
  held other found key hfound hkey := by
    obtain ⟨hne, hold⟩ := Calls.update_none_eq_some.mp hfound
    exact locks_of_ne (hs.held other found key hold hkey) hne
  right other found hfound := by
    obtain ⟨hne, hold⟩ := Calls.update_none_eq_some.mp hfound
    exact h other found hne hold (hs.right other found hold)

omit [DecidableEq κ] in
theorem Sound.release (hs : Sound needs P s) (hneeds : ∀ key, ¬ needs call key)
    (hcall : Q callId call)
    (h : ∀ other found, other ≠ callId → s.calls other = some found → P other found →
      Q other found) : Sound needs Q (s.release callId call) where
  held other found key hfound hkey := by
    obtain ⟨rfl, rfl⟩ | ⟨hne, hold⟩ := Calls.update_some_eq_some.mp hfound
    · exact (hneeds key hkey).elim
    · exact locks_of_ne (hs.held other found key hold hkey) hne
  right other found hfound := by
    obtain ⟨rfl, rfl⟩ | ⟨hne, hold⟩ := Calls.update_some_eq_some.mp hfound
    · exact hcall
    · exact h other found hne hold (hs.right other found hold)

end Sound

end Sessions
