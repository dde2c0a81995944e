import Mathlib.Data.List.Range

/-! A page is filled from a list in order. What cannot be shown is passed over, and the scan
stops in front of the first candidate that the page has no room for. -/

namespace Paging

variable {κ β γ δ : Type*}

/-- What is taken while there is room, and the rest from the first candidate without room on. -/
def fill (candidate : κ → Option β) : ℕ → List κ → List β × List κ
  | _, [] => ([], [])
  | room, key :: rest =>
    match candidate key with
    | none => fill candidate room rest
    | some found =>
      match room with
      | 0 => ([], key :: rest)
      | room + 1 =>
        let (taken, left) := fill candidate room rest
        (found :: taken, left)

/-- Numbers what is taken from `start` on. -/
def numbered (stamp : ℕ → β → γ) : ℕ → List β → List γ
  | _, [] => []
  | start, found :: rest => stamp start found :: numbered stamp (start + 1) rest

section Fill

variable {candidate : κ → Option β} {room : ℕ} {keys : List κ}

theorem fill_append_left (candidate : κ → Option β) (room : ℕ) (keys : List κ) :
    (fill candidate room keys).1 ++ (fill candidate room keys).2.filterMap candidate =
      keys.filterMap candidate := by
  induction keys generalizing room with
  | nil => simp [fill]
  | cons key rest ih =>
    cases hkey : candidate key with
    | none => simp only [fill, hkey, List.filterMap_cons_none hkey, ih]
    | some found =>
      cases room with
      | zero => simp [fill, hkey]
      | succ room => simp only [fill, hkey, List.filterMap_cons_some hkey, List.cons_append, ih]

theorem length_fill_le (candidate : κ → Option β) (room : ℕ) (keys : List κ) :
    (fill candidate room keys).1.length ≤ room := by
  induction keys generalizing room with
  | nil => simp [fill]
  | cons key rest ih =>
    cases hkey : candidate key with
    | none => simpa only [fill, hkey] using ih room
    | some found =>
      cases room with
      | zero => simp [fill, hkey]
      | succ room => simpa only [fill, hkey, List.length_cons] using Nat.succ_le_succ (ih room)

theorem fill_left_suffix (candidate : κ → Option β) (room : ℕ) (keys : List κ) :
    (fill candidate room keys).2 <:+ keys := by
  induction keys generalizing room with
  | nil => simp [fill]
  | cons key rest ih =>
    cases hkey : candidate key with
    | none =>
      simp only [fill, hkey]
      exact (ih room).trans (List.suffix_cons key rest)
    | some found =>
      cases room with
      | zero => simp [fill, hkey]
      | succ room =>
        simp only [fill, hkey]
        exact (ih room).trans (List.suffix_cons key rest)

theorem fill_left (candidate : κ → Option β) (room : ℕ) (keys : List κ) :
    (fill candidate room keys).2 = [] ∨
      (fill candidate room keys).1.length = room ∧
        ∃ key rest, (fill candidate room keys).2 = key :: rest ∧ (candidate key).isSome := by
  induction keys generalizing room with
  | nil => exact .inl rfl
  | cons key rest ih =>
    cases hkey : candidate key with
    | none => simpa only [fill, hkey] using ih room
    | some found =>
      cases room with
      | zero => exact .inr ⟨by simp [fill, hkey], key, rest, by simp [fill, hkey], by simp [hkey]⟩
      | succ room => simpa only [fill, hkey, List.length_cons, Nat.succ_inj] using ih room

variable {stamp : ℕ → β → γ} {start : ℕ} {found : List β}

@[simp] theorem length_numbered (stamp : ℕ → β → γ) (start : ℕ) (found : List β) :
    (numbered stamp start found).length = found.length := by
  induction found generalizing start with
  | nil => rfl
  | cons first rest ih => simp only [numbered, List.length_cons, ih]

theorem map_numbered {f : γ → δ} {g : β → δ} (h : ∀ place first, f (stamp place first) = g first)
    (start : ℕ) (found : List β) : (numbered stamp start found).map f = found.map g := by
  induction found generalizing start with
  | nil => rfl
  | cons first rest ih => simp only [numbered, List.map_cons, h, ih]

theorem places_numbered {place : γ → ℕ} (h : ∀ start first, place (stamp start first) = start)
    (start : ℕ) (found : List β) :
    (numbered stamp start found).map place = List.range' start found.length := by
  induction found generalizing start with
  | nil => rfl
  | cons first rest ih =>
    simp only [numbered, List.map_cons, h, ih, List.length_cons, List.range'_succ]

end Fill

end Paging
