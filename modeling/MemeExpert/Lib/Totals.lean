import Mathlib.Algebra.BigOperators.Group.List.Basic
import MemeExpert.Lib.Accounts

/-! An account with an amount holds the total of the entries of its key. -/

namespace Totals

universe u v w x

/-- A ledger whose accounts add up the values of their entries. -/
structure Tally (α : Type u) (κ : Type v) (β : Type w) (M : Type x) [AddCommMonoid M] extends
    Accounts.Ledger α κ β where
  amount : α → M
  value : β → M
  amount_opened : ∀ k entry, amount (opened k entry) = 0
  amount_credit : ∀ account entry, amount (credit account entry) = amount account + value entry

variable {α : Type u} {κ : Type v} {β : Type w} {M : Type x} [DecidableEq κ] [AddCommMonoid M]

def total (tally : Tally α κ β M) (entries : List (κ × β)) (k : κ) : M :=
  ((Accounts.entriesOf entries k).map tally.value).sum

def balances (tally : Tally α κ β M) (accounts : List α) : List (κ × M) :=
  accounts.map fun account => (tally.key account, tally.amount account)

variable {tally : Tally α κ β M} {accounts : List α} {entries more : List (κ × β)}
  {entry : κ × β} {k : κ}

theorem total_append : total tally (entries ++ more) k = total tally entries k +
    total tally more k := by
  rw [total, Accounts.entriesOf_append, List.map_append, List.sum_append]
  rfl

theorem total_eq_zero (h : k ∉ entries.map Prod.fst) : total tally entries k = 0 := by
  rw [total, Accounts.entriesOf_eq_nil h, List.map_nil, List.sum_nil]

theorem total_cons_self : total tally (entry :: entries) entry.1 =
    tally.value entry.2 + total tally entries entry.1 := by
  rw [← List.singleton_append, total_append, total, Accounts.entriesOf_singleton_self,
    List.map_singleton, List.sum_singleton]

theorem total_cons_of_ne (h : entry.1 ≠ k) :
    total tally (entry :: entries) k = total tally entries k := by
  rw [← List.singleton_append, total_append, total_eq_zero (by simpa using h.symm), zero_add]

theorem total_flatMap {γ : Type*} (items : List γ) (entriesOf : γ → List (κ × β)) :
    total tally (items.flatMap entriesOf) k =
      (items.map fun item => total tally (entriesOf item) k).sum := by
  induction items with
  | nil => rfl
  | cons item items ih => rw [List.flatMap_cons, total_append, ih, List.map_cons, List.sum_cons]

omit [DecidableEq κ] in
theorem amount_foldl (account : α) (taken : List β) :
    tally.amount (taken.foldl tally.credit account) =
      tally.amount account + (taken.map tally.value).sum := by
  induction taken generalizing account with
  | nil => rw [List.foldl_nil, List.map_nil, List.sum_nil, add_zero]
  | cons entry taken ih =>
    rw [List.foldl_cons, ih, tally.amount_credit, List.map_cons, List.sum_cons, add_assoc]

theorem amount_of_holds (h : Accounts.Holds tally.toLedger accounts entries) {account : α}
    (hmem : account ∈ accounts) :
    tally.amount account = total tally entries (tally.key account) := by
  obtain ⟨first, rest, -, haccount⟩ := h.took account hmem
  have hamount := congrArg tally.amount haccount
  rwa [amount_foldl, tally.amount_opened, zero_add] at hamount

theorem mem_balances (h : Accounts.Holds tally.toLedger accounts entries) {balance : κ × M} :
    balance ∈ balances tally accounts ↔
      balance.1 ∈ entries.map Prod.fst ∧ balance.2 = total tally entries balance.1 := by
  rw [← h.mem_keys, balances, List.mem_map, List.mem_map]
  constructor
  · rintro ⟨account, hmem, rfl⟩
    exact ⟨⟨account, hmem, rfl⟩, amount_of_holds h hmem⟩
  rintro ⟨⟨account, hmem, hkey⟩, htotal⟩
  refine ⟨account, hmem, Prod.ext hkey ?_⟩
  rw [htotal, ← hkey]
  exact amount_of_holds h hmem

theorem nodup_balances (h : Accounts.Holds tally.toLedger accounts entries) :
    (balances tally accounts).Nodup := by
  refine List.Nodup.of_map Prod.fst ?_
  rw [balances, List.map_map]
  exact h.unique

theorem sum_map_update {keys : List κ} (hnodup : keys.Nodup) (hk : k ∈ keys) (f : κ → M) (b : M) :
    (keys.map (Function.update f k (f k + b))).sum = (keys.map f).sum + b := by
  induction keys with
  | nil => exact (List.not_mem_nil hk).elim
  | cons first keys ih =>
    obtain ⟨hfirst, hrest⟩ := List.nodup_cons.mp hnodup
    rw [List.map_cons, List.sum_cons, List.map_cons, List.sum_cons]
    rcases List.mem_cons.mp hk with rfl | hk
    · have hsame : keys.map (Function.update f k (f k + b)) = keys.map f :=
        List.map_congr_left fun other hother =>
          Function.update_of_ne (ne_of_mem_of_not_mem hother hfirst) _ _
      rw [hsame, Function.update_self, add_right_comm]
    · rw [ih hrest hk, Function.update_of_ne (ne_of_mem_of_not_mem hk hfirst).symm, add_assoc]

end Totals
