import MemeExpert.Lib.Doubles

/-! What the script's standard library does with texts: trimming, lower case, and numbers
read from and written as text. -/

namespace MemeExpert.Frontend

open Numerals Doubles

abbrev Text := List Char

/-- White space and line terminators, what `trim` removes. -/
def isWhiteSpace (c : Char) : Bool :=
  let n := c.toNat
  (9 ≤ n ∧ n ≤ 13) ∨ n = 0x20 ∨ n = 0xa0 ∨ n = 0x1680 ∨ (0x2000 ≤ n ∧ n ≤ 0x200a) ∨
    n = 0x2028 ∨ n = 0x2029 ∨ n = 0x202f ∨ n = 0x205f ∨ n = 0x3000 ∨ n = 0xfeff

def trim (text : Text) : Text := (text.dropWhile isWhiteSpace).rdropWhile isWhiteSpace

def isMark (c : Char) : Bool := isWhiteSpace c || c = ',' || c = '#'

/-- The lower case mapping of single characters, with what the final sigma depends on. -/
structure CaseTable where
  lower : Char → Text
  cased : Char → Bool
  caseIgnorable : Char → Bool
  lower_ne_nil : ∀ c, lower c ≠ []
  lower_stable : ∀ c, ∀ d ∈ lower c, lower d = [d]
  lower_sigma : lower 'Σ' = ['σ']
  lower_finalSigma : lower 'ς' = ['ς']
  lower_mark : ∀ c, isMark c = true → lower c = [c]
  mark_of_lower : ∀ c, ∀ d ∈ lower c, isMark d = true → c = d

variable (table : CaseTable)

def meetsCased (text : Text) : Bool :=
  (text.takeWhile table.caseIgnorable).any table.cased ||
    (text.dropWhile table.caseIgnorable).head?.any table.cased

/-- `before` is the text before, read backwards. -/
def lowerAt (before : Text) (c : Char) (rest : Text) : Text :=
  if c = 'Σ' ∧ meetsCased table before = true ∧ meetsCased table rest = false then ['ς']
  else table.lower c

def lowerFrom (before : Text) : Text → Text
  | [] => []
  | c :: rest => lowerAt table before c rest ++ lowerFrom (c :: before) rest

def toLowerCase (text : Text) : Text := lowerFrom table [] text

section Trimming

variable {text : Text}

structure Trimmed (text : Text) : Prop where
  head : ∀ c ∈ text.head?, isWhiteSpace c = false
  last : ∀ c ∈ text.getLast?, isWhiteSpace c = false

theorem trim_of_trimmed (h : Trimmed text) : trim text = text := by
  have hhead : text.dropWhile isWhiteSpace = text := by
    rw [List.dropWhile_eq_self_iff]
    intro hpos hblank
    have hfirst := h.head (text.get ⟨0, hpos⟩) (by simp [List.head?_eq_getElem?])
    simp_all
  rw [trim, hhead, List.rdropWhile_eq_self_iff]
  intro hne hblank
  have hlast := h.last (text.getLast hne) (by rw [List.getLast?_eq_some_getLast hne]; rfl)
  rw [hblank] at hlast
  cases hlast

theorem last_trim (text : Text) : ∀ c ∈ (trim text).getLast?, isWhiteSpace c = false := by
  intro c hc
  unfold trim at hc
  generalize text.dropWhile isWhiteSpace = rest at hc
  have hne : rest.rdropWhile isWhiteSpace ≠ [] := by
    intro hnil
    rw [hnil] at hc
    cases hc
  rw [List.getLast?_eq_some_getLast hne, Option.mem_some_iff] at hc
  rw [← hc]
  exact Bool.eq_false_of_not_eq_true (List.rdropWhile_last_not isWhiteSpace rest hne)

theorem trim_sublist (text : Text) : (trim text).Sublist text :=
  (List.rdropWhile_prefix _ _).sublist.trans (List.dropWhile_suffix _).sublist

theorem trimmed_trim (text : Text) : Trimmed (trim text) where
  head := by
    intro c hc
    have hprefix : trim text <+: text.dropWhile isWhiteSpace := List.rdropWhile_prefix _ _
    obtain ⟨rest, hrest⟩ := hprefix
    have hhead : (text.dropWhile isWhiteSpace).head? = some c := by
      rw [← hrest, List.head?_append, hc]
      rfl
    have hfirst := List.head?_dropWhile_not isWhiteSpace text
    rw [hhead] at hfirst
    exact hfirst
  last := last_trim text

theorem trim_trim (text : Text) : trim (trim text) = trim text :=
  trim_of_trimmed (trimmed_trim text)

theorem length_trim_lt {c : Char} {rest : Text} (h : isWhiteSpace c = true) :
    (trim (c :: rest)).length < (c :: rest).length := by
  have hdrop : trim (c :: rest) = trim rest := by
    unfold trim
    rw [List.dropWhile_cons_of_pos h]
  rw [hdrop, List.length_cons]
  exact Nat.lt_succ_of_le (trim_sublist rest).length_le

end Trimming

section LowerCase

variable {table} {text : Text}

def IsLower (table : CaseTable) (c : Char) : Prop := table.lower c = [c] ∧ c ≠ 'Σ'

theorem isLower_of_mem_lower {c d : Char} (h : d ∈ table.lower c) : IsLower table d := by
  have hstable := table.lower_stable c d h
  refine ⟨hstable, ?_⟩
  rintro rfl
  rw [table.lower_sigma] at hstable
  exact absurd hstable (by decide)

theorem isLower_of_mem_lowerAt {before rest : Text} {c d : Char}
    (h : d ∈ lowerAt table before c rest) : IsLower table d := by
  unfold lowerAt at h
  split at h
  · rw [List.mem_singleton] at h
    rw [h]
    exact ⟨table.lower_finalSigma, by decide⟩
  · exact isLower_of_mem_lower h

theorem isLower_of_mem_lowerFrom {text : Text} : ∀ {before : Text} {d : Char},
    d ∈ lowerFrom table before text → IsLower table d := by
  induction text with
  | nil => intro before d h; cases h
  | cons c rest ih =>
    intro before d h
    rw [lowerFrom, List.mem_append] at h
    obtain h | h := h
    · exact isLower_of_mem_lowerAt h
    · exact ih h

theorem lowerFrom_of_isLower {text : Text} (h : ∀ c ∈ text, IsLower table c) :
    ∀ before : Text, lowerFrom table before text = text := by
  induction text with
  | nil => intro before; rfl
  | cons c rest ih =>
    rw [List.forall_mem_cons] at h
    intro before
    rw [lowerFrom, ih h.2, lowerAt, if_neg fun hsigma => h.1.2 hsigma.1, h.1.1]
    rfl

theorem lowerAt_mark {before rest : Text} {c d : Char} (h : d ∈ lowerAt table before c rest) :
    isMark d = true → c = d := by
  intro hmark
  unfold lowerAt at h
  split at h
  · rw [List.mem_singleton] at h
    rw [h] at hmark
    exact absurd hmark (by decide)
  · exact table.mark_of_lower c d h hmark

theorem mark_mem_of_lowerFrom {text : Text} : ∀ {before : Text} {d : Char},
    d ∈ lowerFrom table before text → isMark d = true → d ∈ text := by
  induction text with
  | nil => intro before d h; cases h
  | cons c rest ih =>
    intro before d h hmark
    rw [lowerFrom, List.mem_append] at h
    obtain h | h := h
    · rw [lowerAt_mark h hmark]
      exact List.mem_cons_self
    · exact List.mem_cons_of_mem _ (ih h hmark)

theorem lowerAt_ne_nil (before : Text) (c : Char) (rest : Text) :
    lowerAt table before c rest ≠ [] := by
  unfold lowerAt
  split
  · exact List.cons_ne_nil _ _
  · exact table.lower_ne_nil c

theorem lowerAt_of_mark {before rest : Text} {c : Char} (h : isMark c = true) :
    lowerAt table before c rest = [c] := by
  unfold lowerAt
  split
  · next hsigma =>
    rw [hsigma.1] at h
    exact absurd h (by decide)
  · exact table.lower_mark c h

theorem head_lowerFrom (before text : Text) {c : Char} (h : isMark c = true) :
    (lowerFrom table before text).head? = some c ↔ text.head? = some c := by
  cases text with
  | nil => rfl
  | cons d rest =>
    rw [lowerFrom, List.head?_append_of_ne_nil _ (lowerAt_ne_nil before d rest),
      List.head?_cons, Option.some.injEq]
    constructor
    · intro hhead
      exact lowerAt_mark (List.mem_of_mem_head? hhead) h
    rintro rfl
    rw [lowerAt_of_mark h]
    rfl

theorem isMark_of_isWhiteSpace {c : Char} (h : isWhiteSpace c = true) : isMark c = true := by
  simp [isMark, h]

theorem last_lowerFrom {text : Text} (h : ∀ c ∈ text.getLast?, isWhiteSpace c = false) :
    ∀ before : Text, ∀ c ∈ (lowerFrom table before text).getLast?, isWhiteSpace c = false := by
  induction text with
  | nil => intro before c hc; cases hc
  | cons d rest ih =>
    intro before c hc
    rw [lowerFrom] at hc
    cases rest with
    | nil =>
      rw [lowerFrom, List.append_nil] at hc
      have hd : isWhiteSpace d = false := h d (by rw [List.getLast?_singleton]; rfl)
      cases hblank : isWhiteSpace c with
      | false => rfl
      | true =>
        rw [lowerAt_mark (List.mem_of_getLast? hc) (isMark_of_isWhiteSpace hblank),
          hblank] at hd
        cases hd
    | cons e rest =>
      rw [List.getLast?_append_of_ne_nil] at hc
      · refine ih ?_ (d :: before) c hc
        rwa [List.getLast?_cons_cons] at h
      · rw [lowerFrom]
        simp [lowerAt_ne_nil]

end LowerCase

def signOf : Text → Int × Text
  | '-' :: rest => (-1, rest)
  | '+' :: rest => (1, rest)
  | text => (1, text)

/-- `Number.parseInt` in base ten; `none` is what is not finite. -/
def parseInt (text : Text) : Option Int :=
  let (sign, unsigned) := signOf (text.dropWhile isWhiteSpace)
  let digits := unsigned.takeWhile Char.isDigit
  if digits = [] then none
  else (readText 10 digits).bind fun n => (toDouble n).map fun x : ℕ => sign * (x : Int)

theorem isDigit_not_blank {c : Char} (h : c.isDigit = true) : isWhiteSpace c = false := by
  have hbounds : 48 ≤ c.toNat ∧ c.toNat ≤ 57 := by
    simpa [Char.isDigit, UInt32.le_iff_toNat_le] using h
  simp only [isWhiteSpace, decide_eq_false_iff_not]
  omega

theorem parseInt_digits {digits rest : Text} (hne : digits ≠ [])
    (hdigits : ∀ c ∈ digits, c.isDigit = true) (hrest : ∀ c ∈ rest.head?, c.isDigit = false) :
    parseInt (digits ++ rest) =
      (readText 10 digits).bind fun n => (toDouble n).map fun x : ℕ => (x : Int) := by
  obtain ⟨c, tail, rfl⟩ := List.exists_cons_of_ne_nil hne
  have hc := hdigits c List.mem_cons_self
  have hblank : isWhiteSpace c = false := isDigit_not_blank hc
  have hsign : signOf (c :: tail ++ rest) = (1, c :: tail ++ rest) := by
    unfold signOf
    split
    · next heq =>
      rw [List.cons_append, List.cons.injEq] at heq
      rw [heq.1] at hc
      exact absurd hc (by decide)
    · next heq =>
      rw [List.cons_append, List.cons.injEq] at heq
      rw [heq.1] at hc
      exact absurd hc (by decide)
    · rfl
  have hstop : rest.takeWhile Char.isDigit = [] := by
    cases rest with
    | nil => rfl
    | cons d rest => rw [List.takeWhile_cons_of_neg (by simp [hrest d rfl])]
  have hdrop : (c :: tail ++ rest).dropWhile isWhiteSpace = c :: tail ++ rest := by
    rw [List.cons_append, List.dropWhile_cons_of_neg (by simp [hblank])]
  have htake : (c :: tail ++ rest).takeWhile Char.isDigit = c :: tail := by
    rw [List.takeWhile_append_of_pos hdigits, hstop, List.append_nil]
  simp only [parseInt, hdrop, hsign, htake, if_neg (List.cons_ne_nil c tail), one_mul]

theorem isDigit_of_mem_decimal {n : ℕ} {c : Char} (hc : c ∈ spell 10 1 n) : c.isDigit = true := by
  obtain ⟨d, hd, rfl⟩ := List.mem_map.mp hc
  rw [Nat.isDigit_digitChar, decide_eq_true_iff]
  exact lt_of_mem_write (by decide) hd

theorem decimal_ne_nil (n : ℕ) : spell 10 1 n ≠ [] := by
  rw [spell, ne_eq, List.map_eq_nil_iff]
  exact write_ne_nil (by decide)

theorem parseInt_decimal (n : ℕ) :
    parseInt (spell 10 1 n) = (toDouble n).map fun x : ℕ => (x : Int) := by
  have hread := @parseInt_digits (spell 10 1 n) [] (decimal_ne_nil n)
    (fun _ hc => isDigit_of_mem_decimal hc) (by simp)
  rw [List.append_nil, readText_spell (by decide) (by decide), Option.bind_some] at hread
  exact hread

theorem length_decimal_le {n width : ℕ} (hwidth : 0 < width) :
    (spell 10 1 n).length ≤ width ↔ n < 10 ^ width := by
  rw [← Nat.digits_length_le_iff (by decide : 1 < 10), spell, List.length_map, write,
    List.length_reverse, Nat.digitsAppend, List.length_append, List.length_replicate]
  omega

theorem parseInt_toText {n : ℕ} (hn : nearest n = n) (hlt : n < 10 ^ 21) :
    parseInt (toText n) = some (n : Int) := by
  have hround := nearest_shortest hn
  have hcut : nearest (10 ^ 21) = 10 ^ 21 := by decide +kernel
  have hshort : shortest n < 10 ^ 21 := by
    by_contra hlong
    have hle := le_nearest hcut (not_lt.mp hlong)
    rw [hround] at hle
    omega
  have hdouble : toDouble (shortest n) = some n :=
    toDouble_eq hround (hlt.trans (by decide +kernel))
  rw [toText, if_pos ((length_decimal_le (by decide)).mpr hshort), parseInt_decimal, hdouble]
  rfl

theorem parseInt_toText_of_le {n : ℕ} (hn : nearest n = n) (hle : 10 ^ 21 ≤ n) :
    ∃ d : ℕ, d < 10 ∧ parseInt (toText n) = some (d : Int) := by
  have hround := nearest_shortest hn
  have hcut : nearest (10 ^ 21) = 10 ^ 21 := by decide +kernel
  have hlong : 10 ^ 21 ≤ shortest n := by
    by_contra hshort
    have hlow := nearest_le hcut (not_le.mp hshort).le
    rw [hround] at hlow
    have hsame : n = 10 ^ 21 := le_antisymm hlow hle
    rw [hsame] at hshort
    exact hshort (by decide +kernel)
  have hlength : ¬(spell 10 1 (shortest n)).length ≤ 21 := by
    rw [length_decimal_le (by decide)]
    exact not_lt.mpr hlong
  obtain ⟨d, digits, hwrite, hd, hbase⟩ : ∃ d digits,
      write 10 1 (shortest n) = d :: digits ∧ d ≠ 0 ∧ d < 10 :=
    head_write_ne_zero (by decide) (by omega)
  have hspell : spell 10 1 (shortest n) = Nat.digitChar d :: digits.map Nat.digitChar := by
    rw [spell, hwrite, List.map_cons]
  have hdigit : (Nat.digitChar d).isDigit = true := by
    rw [Nat.isDigit_digitChar, decide_eq_true_iff]
    exact hbase
  have hzero : Nat.digitChar d ≠ '0' := fun h => hd (Nat.digitChar_eq_zero.mp h)
  obtain ⟨rest, hrest⟩ : ∃ rest, (spell 10 1 (shortest n)).rdropWhile (· = '0') =
      Nat.digitChar d :: rest := by
    obtain ⟨dropped, hdropped⟩ := @List.rdropWhile_prefix _ (· = '0') (spell 10 1 (shortest n))
    cases hsignificant : (spell 10 1 (shortest n)).rdropWhile (· = '0') with
    | nil =>
      rw [List.rdropWhile_eq_nil_iff] at hsignificant
      have hfirst := hsignificant (Nat.digitChar d) (by rw [hspell]; exact List.mem_cons_self)
      exact absurd (by simpa using hfirst) hzero
    | cons c rest =>
      rw [hsignificant, hspell, List.cons_append, List.cons.injEq] at hdropped
      exact ⟨rest, by rw [hdropped.1]⟩
  have hread : readText 10 [Nat.digitChar d] = some d := by
    have hone : ∀ d < 10, readText 10 [Nat.digitChar d] = some d := by decide +kernel
    exact hone d hbase
  have hdouble : toDouble d = some d := by
    have hsmall : ∀ d < 10, toDouble d = some d := by decide +kernel
    exact hsmall d hbase
  have hvalue : ∀ tail : Text, (∀ c ∈ tail.head?, c.isDigit = false) →
      parseInt (Nat.digitChar d :: tail) = some (d : Int) := by
    intro tail htail
    have htext := parseInt_digits (List.cons_ne_nil (Nat.digitChar d) [])
      (by simpa using hdigit) htail
    rw [hread, Option.bind_some, hdouble] at htext
    exact htext
  refine ⟨d, hbase, ?_⟩
  simp only [toText, if_neg hlength, hrest]
  cases rest with
  | nil => exact hvalue _ (by simp)
  | cons c rest => exact hvalue _ (by simp)

theorem nearest_of_parseInt {text : Text} {n : ℕ} (h : parseInt text = some (n : Int)) :
    nearest n = n := by
  unfold parseInt at h
  simp only at h
  split at h
  · cases h
  obtain ⟨m, -, hm⟩ := Option.bind_eq_some_iff.mp h
  obtain ⟨x, hx, hvalue⟩ := Option.map_eq_some_iff.mp hm
  have hdouble : nearest x = x := by
    rw [← (nearest_of_toDouble hx).1]
    exact nearest_nearest m
  have hsign : ∀ rest : Text, (signOf rest).1 = 1 ∨ (signOf rest).1 = -1 := by
    intro rest
    unfold signOf
    split <;> simp
  have hsame : x = n := by
    obtain hone | hone := hsign (text.dropWhile isWhiteSpace)
    · rw [hone] at hvalue
      omega
    · rw [hone] at hvalue
      omega
  rwa [hsame] at hdouble

end MemeExpert.Frontend
