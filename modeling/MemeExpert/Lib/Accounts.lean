import Mathlib.Data.List.Induction
import Mathlib.Data.List.Nodup

/-! Entries come one by one, each for a key, whose account is opened at the first and takes them
all in turn. -/

namespace Accounts

universe u v w

/-- What an account is, how it is opened for an entry and how it takes one. -/
structure Ledger (α : Type u) (κ : Type v) (β : Type w) where
  key : α → κ
  opened : κ → β → α
  credit : α → β → α
  key_opened : ∀ k entry, key (opened k entry) = k
  key_credit : ∀ account entry, key (credit account entry) = key account

section Entries

variable {α : Type u} {κ : Type v} {β : Type w} [DecidableEq κ] (ledger : Ledger α κ β)

/-- The account of the key, opened if there is none, takes the entry. -/
def enter (accounts : List α) (entry : κ × β) : List α :=
  let present := if accounts.any fun account => ledger.key account = entry.1 then accounts
    else accounts ++ [ledger.opened entry.1 entry.2]
  present.map fun account =>
    if ledger.key account = entry.1 then ledger.credit account entry.2 else account

/-- The entries of a key, in the order they came. -/
def entriesOf (entries : List (κ × β)) (k : κ) : List β := (entries.filter (·.1 = k)).map Prod.snd

/-- A key joins the keys seen unless it is there. -/
def see (seen : List κ) (k : κ) : List κ := if k ∈ seen then seen else seen ++ [k]

/-- The keys in the order in which they were first seen. -/
def firsts (keys : List κ) : List κ := keys.foldl see []

/-- The account has taken the entries, the first of which opened it. -/
def Took (account : α) (entries : List β) : Prop :=
  ∃ first rest, entries = first :: rest ∧
    account = entries.foldl ledger.credit (ledger.opened (ledger.key account) first)

/-- The accounts are those of the entries. -/
structure Holds (accounts : List α) (entries : List (κ × β)) : Prop where
  keys : accounts.map ledger.key = firsts (entries.map Prod.fst)
  took : ∀ account ∈ accounts, Took ledger account (entriesOf entries (ledger.key account))

end Entries

section Laws

variable {α : Type u} {κ : Type v} {β : Type w} [DecidableEq κ] {ledger : Ledger α κ β}
  {accounts : List α} {entries more : List (κ × β)} {entry : κ × β} {k : κ} {keys seen : List κ}

theorem entriesOf_append : entriesOf (entries ++ more) k =
    entriesOf entries k ++ entriesOf more k := by
  rw [entriesOf, List.filter_append, List.map_append]
  rfl

theorem entriesOf_singleton_self : entriesOf [entry] entry.1 = [entry.2] := by
  simp [entriesOf]

theorem entriesOf_eq_nil (h : k ∉ entries.map Prod.fst) : entriesOf entries k = [] := by
  rw [entriesOf, List.map_eq_nil_iff, List.filter_eq_nil_iff]
  intro entry hmem hkey
  exact h (List.mem_map.mpr ⟨entry, hmem, of_decide_eq_true hkey⟩)

theorem entriesOf_filterMap {γ : Type*} (items : List γ) (keyOf : γ → Option κ)
    (entryOf : γ → β) (k : κ) :
    entriesOf (items.filterMap fun item => (keyOf item).map fun found => (found, entryOf item)) k =
      (items.filter fun item => keyOf item = some k).map entryOf := by
  induction items with
  | nil => rfl
  | cons item items ih =>
    cases hkey : keyOf item with
    | none =>
      rw [List.filterMap_cons_none (by rw [hkey]; rfl), ih,
        List.filter_cons_of_neg (by simp [hkey])]
    | some found =>
      rw [List.filterMap_cons_some (by rw [hkey]; rfl), ← List.singleton_append, entriesOf_append,
        ih]
      by_cases hfound : found = k
      · subst hfound
        rw [List.filter_cons_of_pos (by simp [hkey])]
        exact congrArg (· ++ _) entriesOf_singleton_self
      · rw [List.filter_cons_of_neg (by simp [hkey, hfound])]
        exact congrArg (· ++ _) (entriesOf_eq_nil (by simpa using Ne.symm hfound))

theorem mem_see {other : κ} : other ∈ see seen k ↔ other ∈ seen ∨ other = k := by
  unfold see
  split
  · next hseen =>
    constructor
    · exact .inl
    rintro (hmem | rfl)
    · exact hmem
    · exact hseen
  · rw [List.mem_append, List.mem_singleton]

theorem nodup_see (h : seen.Nodup) : (see seen k).Nodup := by
  unfold see
  split
  · exact h
  next hnew => exact List.nodup_append.mpr ⟨h, List.nodup_singleton _, by
    rintro other hmem _ hself rfl
    exact hnew (List.mem_singleton.mp hself ▸ hmem)⟩

theorem firsts_append_singleton : firsts (keys ++ [k]) = see (firsts keys) k := by
  rw [firsts, List.foldl_append]
  rfl

theorem mem_firsts : k ∈ firsts keys ↔ k ∈ keys := by
  induction keys using List.reverseRecOn with
  | nil => exact Iff.rfl
  | append_singleton keys last ih =>
    rw [firsts_append_singleton, mem_see, ih, List.mem_append, List.mem_singleton]

theorem nodup_firsts : (firsts keys).Nodup := by
  induction keys using List.reverseRecOn with
  | nil => exact List.nodup_nil
  | append_singleton keys last ih =>
    rw [firsts_append_singleton]
    exact nodup_see ih

theorem keys_credit (k : κ) (entry : β) (accounts : List α) :
    (accounts.map fun account =>
      if ledger.key account = k then ledger.credit account entry else account).map ledger.key =
        accounts.map ledger.key := by
  rw [List.map_map]
  refine List.map_congr_left fun account _ => ?_
  rw [Function.comp_apply]
  split
  · exact ledger.key_credit account entry
  · rfl

theorem any_key_iff : (accounts.any fun account => ledger.key account = k) = true ↔
    k ∈ accounts.map ledger.key := by
  simp only [List.any_eq_true, decide_eq_true_eq, List.mem_map]

theorem keys_enter (accounts : List α) (entry : κ × β) :
    (enter ledger accounts entry).map ledger.key = see (accounts.map ledger.key) entry.1 := by
  unfold enter see
  simp only [keys_credit]
  by_cases hmem : entry.1 ∈ accounts.map ledger.key
  · rw [if_pos (any_key_iff.mpr hmem), if_pos hmem]
  · rw [if_neg (fun h => hmem (any_key_iff.mp h)), if_neg hmem, List.map_append,
      List.map_singleton, ledger.key_opened]

omit [DecidableEq κ] in
theorem Took.credit {account : α} {taken : List β} (h : Took ledger account taken) (entry : β) :
    Took ledger (ledger.credit account entry) (taken ++ [entry]) := by
  obtain ⟨first, rest, rfl, haccount⟩ := h
  refine ⟨first, rest ++ [entry], rfl, ?_⟩
  rw [ledger.key_credit, List.foldl_append, ← haccount]
  rfl

omit [DecidableEq κ] in
theorem took_opened (k : κ) (entry : β) :
    Took ledger (ledger.credit (ledger.opened k entry) entry) [entry] :=
  ⟨entry, [], rfl, by rw [ledger.key_credit, ledger.key_opened]; rfl⟩

theorem Holds.enter (h : Holds ledger accounts entries) (entry : κ × β) :
    Holds ledger (enter ledger accounts entry) (entries ++ [entry]) where
  keys := by rw [keys_enter, h.keys, List.map_append, List.map_singleton, firsts_append_singleton]
  took := by
    intro account hmem
    obtain ⟨before, hbefore, rfl⟩ := List.mem_map.mp hmem
    rw [entriesOf_append]
    by_cases hkey : ledger.key before = entry.1
    · rw [if_pos hkey, ledger.key_credit, hkey, entriesOf_singleton_self]
      split at hbefore
      · exact hkey ▸ (h.took before hbefore).credit entry.2
      next hnone =>
      rcases List.mem_append.mp hbefore with hbefore | hbefore
      · exact hkey ▸ (h.took before hbefore).credit entry.2
      have hnew : entry.1 ∉ entries.map Prod.fst := by
        rw [← mem_firsts, ← h.keys]
        exact fun hseen => hnone (any_key_iff.mpr hseen)
      rw [List.mem_singleton.mp hbefore, entriesOf_eq_nil hnew]
      exact took_opened entry.1 entry.2
    · have hother : entriesOf [entry] (ledger.key before) = [] :=
        entriesOf_eq_nil (by simpa using hkey)
      rw [if_neg hkey, hother, List.append_nil]
      split at hbefore
      · exact h.took before hbefore
      rcases List.mem_append.mp hbefore with hbefore | hbefore
      · exact h.took before hbefore
      · rw [List.mem_singleton.mp hbefore, ledger.key_opened] at hkey
        exact absurd rfl hkey

theorem Holds.foldl (h : Holds ledger accounts entries) (more : List (κ × β)) :
    Holds ledger (more.foldl (Accounts.enter ledger) accounts) (entries ++ more) := by
  induction more generalizing accounts entries with
  | nil => rwa [List.append_nil]
  | cons entry more ih =>
    rw [List.foldl_cons, List.append_cons]
    exact ih (h.enter entry)

theorem holds_nil : Holds ledger [] [] := ⟨rfl, fun _ hmem => (List.not_mem_nil hmem).elim⟩

theorem Holds.unique (h : Holds ledger accounts entries) : (accounts.map ledger.key).Nodup := by
  rw [h.keys]
  exact nodup_firsts

theorem Holds.mem_keys (h : Holds ledger accounts entries) :
    k ∈ accounts.map ledger.key ↔ k ∈ entries.map Prod.fst := by
  rw [h.keys, mem_firsts]

theorem Holds.filter_key (h : Holds ledger accounts entries) (hk : k ∈ entries.map Prod.fst) :
    ∃ account, accounts.filter (ledger.key · = k) = [account] ∧ ledger.key account = k ∧
      Took ledger account (entriesOf entries k) := by
  obtain ⟨account, hmem, rfl⟩ := List.mem_map.mp (h.mem_keys.mpr hk)
  refine ⟨account, ?_, rfl, h.took account hmem⟩
  have hunique := h.unique
  obtain ⟨before, after, rfl⟩ := List.append_of_mem hmem
  rw [List.map_append, List.map_cons, List.nodup_append, List.nodup_cons] at hunique
  obtain ⟨-, ⟨hafter, -⟩, hbefore⟩ := hunique
  have hnoneBefore : before.filter (ledger.key · = ledger.key account) = [] := by
    rw [List.filter_eq_nil_iff]
    intro other hother hkey
    exact hbefore _ (List.mem_map_of_mem hother) _ List.mem_cons_self (of_decide_eq_true hkey)
  have hnoneAfter : after.filter (ledger.key · = ledger.key account) = [] := by
    rw [List.filter_eq_nil_iff]
    intro other hother hkey
    exact hafter (List.mem_map.mpr ⟨other, hother, of_decide_eq_true hkey⟩)
  rw [List.filter_append, hnoneBefore, List.nil_append, List.filter_cons_of_pos (by simp),
    hnoneAfter]

theorem Holds.filter_key_eq_nil (h : Holds ledger accounts entries)
    (hk : k ∉ entries.map Prod.fst) : accounts.filter (ledger.key · = k) = [] := by
  rw [List.filter_eq_nil_iff]
  intro account hmem hkey
  exact hk (h.mem_keys.mp (List.mem_map.mpr ⟨account, hmem, of_decide_eq_true hkey⟩))

end Laws

section Replacing

variable {κ : Type v} {β : Type w} {account : κ × β} {entries : List β}

/-- Each entry takes the place of the one before it. -/
def replacing (κ : Type v) (β : Type w) : Ledger (κ × β) κ β where
  key := Prod.fst
  opened k entry := (k, entry)
  credit account entry := (account.1, entry)
  key_opened _ _ := rfl
  key_credit _ _ := rfl

theorem foldl_replacing (account : κ × β) (entries : List β) (last : β) :
    (entries ++ [last]).foldl (replacing κ β).credit account = (account.1, last) := by
  have hkey : (entries.foldl (replacing κ β).credit account).1 = account.1 := by
    induction entries generalizing account with
    | nil => rfl
    | cons entry entries ih => exact ih _
  rw [List.foldl_append]
  exact Prod.ext hkey rfl

theorem getLast?_of_took (h : Took (replacing κ β) account entries) :
    entries.getLast? = some account.2 := by
  obtain ⟨first, rest, hentries, haccount⟩ := h
  have hne : entries ≠ [] := hentries ▸ List.cons_ne_nil first rest
  obtain ⟨before, last, hlast⟩ : ∃ before last, entries = before ++ [last] :=
    ⟨_, _, (List.dropLast_append_getLast hne).symm⟩
  rw [hlast, foldl_replacing] at haccount
  rw [hlast, List.getLast?_concat, haccount]

end Replacing

end Accounts
