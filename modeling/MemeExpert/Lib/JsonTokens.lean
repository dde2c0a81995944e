import MemeExpert.Lib.Numerals

/-! A string is written in ASCII: what is not printable is escaped by its code point, in two
halves beyond the sixteen bits. -/

namespace Json

open Numerals

abbrev Text := List Char

def shortEscapes : List (Char × Char) :=
  [('"', '"'), ('\\', '\\'), ('\x08', 'b'), ('\x0c', 'f'), ('\n', 'n'), ('\r', 'r'), ('\t', 't')]

def escapeUnit (unit : Nat) : Text := '\\' :: 'u' :: spell 16 4 unit

def escape (c : Char) : Text :=
  match shortEscapes.lookup c with
  | some short => ['\\', short]
  | none =>
    if ' ' ≤ c ∧ c ≤ '~' then [c]
    else if c.toNat < 0x10000 then escapeUnit c.toNat
    else
      escapeUnit (0xd800 + (c.toNat - 0x10000) / 0x400) ++
        escapeUnit (0xdc00 + (c.toNat - 0x10000) % 0x400)

def quote (text : Text) : Text := '"' :: (text.flatMap escape ++ ['"'])

def unescape (c : Char) : Option Char :=
  if c = '/' then some '/' else (shortEscapes.find? (·.2 = c)).map (·.1)

/-- Half of a pair by itself is not a character. -/
def scanUnit (text : Text) : Option (Char × Text) :=
  (takeNumber 16 4 text).bind fun (unit, rest) =>
    if 0xd800 ≤ unit ∧ unit < 0xdc00 then
      match rest with
      | '\\' :: 'u' :: rest =>
        (takeNumber 16 4 rest).bind fun (low, rest) =>
          if 0xdc00 ≤ low ∧ low < 0xe000 then
            some (Char.ofNat (0x10000 + (unit - 0xd800) * 0x400 + (low - 0xdc00)), rest)
          else none
      | _ => none
    else if 0xdc00 ≤ unit ∧ unit < 0xe000 then none
    else some (Char.ofNat unit, rest)

/-- The next character of a string, none where it ends. -/
def scanChar : Text → Option (Char × Text)
  | [] => none
  | '"' :: _ => none
  | '\\' :: 'u' :: rest => scanUnit rest
  | '\\' :: c :: rest => (unescape c).map fun char => (char, rest)
  | c :: rest => if c.toNat < 0x20 then none else some (c, rest)

def scanChars : Nat → Text → Option (Text × Text)
  | 0, _ => none
  | _ + 1, '"' :: rest => some ([], rest)
  | fuel + 1, text =>
    (scanChar text).bind fun (c, rest) =>
      (scanChars fuel rest).map fun (chars, rest) => (c :: chars, rest)

/-- After the opening quote. -/
def scanString (text : Text) : Option (Text × Text) := scanChars (text.length + 1) text

section Strings

variable {c : Char} {text rest : Text}

theorem scanChar_escapeUnit (unit : Nat) :
    scanChar (escapeUnit unit ++ rest) = scanUnit (spell 16 4 unit ++ rest) := rfl

theorem scanUnit_spell {unit : Nat} (hunit : unit < 0x10000)
    (hplain : unit < 0xd800 ∨ 0xe000 ≤ unit) :
    scanUnit (spell 16 4 unit ++ rest) = some (Char.ofNat unit, rest) := by
  have htake : takeNumber 16 4 (spell 16 4 unit ++ rest) = some (unit, rest) :=
    takeNumber_spell (by decide) (by decide) (by omega) rest
  have hhigh : ¬ (0xd800 ≤ unit ∧ unit < 0xdc00) := by omega
  have hlow : ¬ (0xdc00 ≤ unit ∧ unit < 0xe000) := by omega
  rw [scanUnit, htake, Option.bind_some]
  simp only [if_neg hhigh, if_neg hlow]

theorem scanUnit_pair {high low : Nat} (hhigh : 0xd800 ≤ high ∧ high < 0xdc00)
    (hlow : 0xdc00 ≤ low ∧ low < 0xe000) :
    scanUnit (spell 16 4 high ++ (escapeUnit low ++ rest)) =
      some (Char.ofNat (0x10000 + (high - 0xd800) * 0x400 + (low - 0xdc00)), rest) := by
  have htake : takeNumber 16 4 (spell 16 4 high ++ (escapeUnit low ++ rest)) =
      some (high, escapeUnit low ++ rest) :=
    takeNumber_spell (by decide) (by decide) (by omega) _
  have hnext : takeNumber 16 4 (spell 16 4 low ++ rest) = some (low, rest) :=
    takeNumber_spell (by decide) (by decide) (by omega) rest
  rw [scanUnit, htake, Option.bind_some]
  simp only [if_pos hhigh, escapeUnit, List.cons_append, hnext, Option.bind_some, if_pos hlow]

theorem toNat_bounds (c : Char) : (c.toNat < 0xd800 ∨ 0xe000 ≤ c.toNat) ∧ c.toNat < 0x110000 := by
  have hvalid : c.toNat < 0xd800 ∨ 0xdfff < c.toNat ∧ c.toNat < 0x110000 := c.valid
  omega

theorem scanChar_escape : scanChar (escape c ++ rest) = some (c, rest) := by
  obtain ⟨hplain, hplane⟩ := toNat_bounds c
  unfold escape
  cases hshort : shortEscapes.lookup c with
  | some short =>
    have hmem : (c, short) ∈ shortEscapes := by
      obtain ⟨before, after, heq, -⟩ := List.lookup_eq_some_iff.mp hshort
      rw [heq]
      exact List.mem_append_right before List.mem_cons_self
    simp only [shortEscapes, List.mem_cons, List.not_mem_nil, or_false, Prod.mk.injEq] at hmem
    rcases hmem with ⟨rfl, rfl⟩ | ⟨rfl, rfl⟩ | ⟨rfl, rfl⟩ | ⟨rfl, rfl⟩ | ⟨rfl, rfl⟩ | ⟨rfl, rfl⟩ |
      ⟨rfl, rfl⟩ <;> rfl
  | none =>
    dsimp only
    split
    · next hprint =>
      have hquote : c ≠ '"' := by
        rintro rfl
        revert hshort
        decide
      have hslash : c ≠ '\\' := by
        rintro rfl
        revert hshort
        decide
      have hcontrol : ¬ c.toNat < 0x20 := Nat.not_lt.mpr hprint.1
      rw [List.singleton_append, scanChar, if_neg hcontrol]
      · exact hquote
      · exact fun _ h _ => hslash h
      · exact fun _ _ h _ => hslash h
    · split
      · next hunit =>
        rw [scanChar_escapeUnit, scanUnit_spell hunit hplain, Char.ofNat_toNat]
      · next hunit =>
        have hhigh : 0xd800 ≤ 0xd800 + (c.toNat - 0x10000) / 0x400 ∧
            0xd800 + (c.toNat - 0x10000) / 0x400 < 0xdc00 := by omega
        have hlow : 0xdc00 ≤ 0xdc00 + (c.toNat - 0x10000) % 0x400 ∧
            0xdc00 + (c.toNat - 0x10000) % 0x400 < 0xe000 := by omega
        have hvalue : 0x10000 + (0xd800 + (c.toNat - 0x10000) / 0x400 - 0xd800) * 0x400 +
            (0xdc00 + (c.toNat - 0x10000) % 0x400 - 0xdc00) = c.toNat := by omega
        rw [List.append_assoc, scanChar_escapeUnit, scanUnit_pair hhigh hlow, hvalue,
          Char.ofNat_toNat]

theorem escape_ne_nil : escape c ≠ [] := by
  unfold escape
  split
  · exact List.cons_ne_nil _ _
  split
  · exact List.cons_ne_nil _ _
  split
  · exact List.cons_ne_nil _ _
  · exact List.cons_ne_nil _ _

theorem scanChars_escape {fuel : Nat} :
    scanChars (fuel + 1) (escape c ++ rest) =
      (scanChars fuel rest).map fun (chars, rest) => (c :: chars, rest) := by
  have hscan : scanChar (escape c ++ rest) = some (c, rest) := scanChar_escape
  have hopen : ∀ after, escape c ++ rest ≠ '"' :: after := by
    intro after heq
    rw [heq] at hscan
    cases hscan
  rw [scanChars]
  · rw [hscan, Option.bind_some]
  · exact fun after heq => hopen after heq

theorem scanChars_quote {fuel : Nat} (hfuel : text.length < fuel) :
    scanChars fuel (text.flatMap escape ++ '"' :: rest) = some (text, rest) := by
  induction text generalizing fuel with
  | nil =>
    obtain ⟨fuel, rfl⟩ := Nat.exists_eq_add_of_lt hfuel
    rfl
  | cons c text ih =>
    cases fuel with
    | zero => simp at hfuel
    | succ fuel =>
      have hrest : text.length < fuel := Nat.succ_lt_succ_iff.mp hfuel
      rw [List.flatMap_cons, List.append_assoc, scanChars_escape, ih hrest]
      rfl

theorem length_le_flatMap_escape : text.length ≤ (text.flatMap escape).length := by
  induction text with
  | nil => exact Nat.le_refl 0
  | cons c text ih =>
    have hpos : 0 < (escape c).length := List.length_pos_of_ne_nil escape_ne_nil
    rw [List.flatMap_cons, List.length_append, List.length_cons]
    omega

theorem quote_append : quote text ++ rest = '"' :: (text.flatMap escape ++ '"' :: rest) := by
  rw [quote, List.cons_append, List.append_assoc, List.singleton_append]

theorem scanString_quote : scanString (text.flatMap escape ++ '"' :: rest) = some (text, rest) := by
  have hlength : text.length ≤ (text.flatMap escape).length := length_le_flatMap_escape
  rw [scanString]
  apply scanChars_quote
  rw [List.length_append]
  omega

end Strings

def scanSign : Text → Text × Text
  | '-' :: rest => (['-'], rest)
  | text => ([], text)

def scanDigits (text : Text) : Text × Text :=
  (text.takeWhile Char.isDigit, text.dropWhile Char.isDigit)

def scanWhole : Text → Option (Text × Text)
  | [] => none
  | c :: rest =>
    if c = '0' then some (['0'], rest)
    else if c.isDigit then some (c :: (scanDigits rest).1, (scanDigits rest).2)
    else none

/-- A point that no digit follows is not part of the number. -/
def scanFraction : Text → Text × Text
  | '.' :: rest =>
    if (scanDigits rest).1 = [] then ([], '.' :: rest)
    else ('.' :: (scanDigits rest).1, (scanDigits rest).2)
  | text => ([], text)

def scanExponentSign : Text → Text × Text
  | '+' :: rest => (['+'], rest)
  | '-' :: rest => (['-'], rest)
  | text => ([], text)

def scanExponent : Text → Text × Text
  | [] => ([], [])
  | c :: rest =>
    let (sign, digits) := scanExponentSign rest
    if (c = 'e' ∨ c = 'E') ∧ (scanDigits digits).1 ≠ [] then
      (c :: (sign ++ (scanDigits digits).1), (scanDigits digits).2)
    else ([], c :: rest)

structure NumberToken where
  sign : Text
  whole : Text
  fraction : Text
  exponent : Text

def NumberToken.text (token : NumberToken) : Text :=
  token.sign ++ (token.whole ++ (token.fraction ++ token.exponent))

def NumberToken.isFloat (token : NumberToken) : Bool := token.fraction ≠ [] ∨ token.exponent ≠ []

def scanNumber (text : Text) : Option (NumberToken × Text) :=
  let (sign, unsigned) := scanSign text
  (scanWhole unsigned).map fun (whole, afterWhole) =>
    let (fraction, afterFraction) := scanFraction afterWhole
    let (exponent, rest) := scanExponent afterFraction
    (⟨sign, whole, fraction, exponent⟩, rest)

/-- The parts are as the grammar has them. -/
structure NumberToken.IsValid (token : NumberToken) : Prop where
  sign : token.sign = [] ∨ token.sign = ['-']
  whole : token.whole = ['0'] ∨
    ∃ c digits, token.whole = c :: digits ∧ c ≠ '0' ∧ c.isDigit ∧ ∀ d ∈ digits, d.isDigit
  fraction : token.fraction = [] ∨
    ∃ digits, token.fraction = '.' :: digits ∧ digits ≠ [] ∧ ∀ d ∈ digits, d.isDigit
  exponent : token.exponent = [] ∨
    ∃ mark sign digits, token.exponent = mark :: (sign ++ digits) ∧ (mark = 'e' ∨ mark = 'E') ∧
      (sign = [] ∨ sign = ['+'] ∨ sign = ['-']) ∧ digits ≠ [] ∧ ∀ d ∈ digits, d.isDigit

/-- What may follow a value of a text without blanks. -/
def Ends (rest : Text) : Prop := ∀ c ∈ rest.head?, c = ',' ∨ c = ']' ∨ c = '}'

section Numbers

variable {digits rest : Text} {token : NumberToken}

/-- What follows a run of digits is no digit. -/
def StopsDigits (rest : Text) : Prop := ∀ c ∈ rest.head?, c.isDigit = false

theorem Ends.stopsDigits (h : Ends rest) : StopsDigits rest := by
  intro c hc
  rcases h c hc with rfl | rfl | rfl <;> rfl

theorem scanDigits_append (hdigits : ∀ d ∈ digits, d.isDigit) (hstop : StopsDigits rest) :
    scanDigits (digits ++ rest) = (digits, rest) := by
  have htake : rest.takeWhile Char.isDigit = [] := by
    cases rest with
    | nil => rfl
    | cons c rest => simp [hstop c rfl]
  have hdrop : rest.dropWhile Char.isDigit = rest := by
    cases rest with
    | nil => rfl
    | cons c rest => simp [hstop c rfl]
  rw [scanDigits, List.takeWhile_append_of_pos hdigits, List.dropWhile_append_of_pos hdigits, htake,
    hdrop, List.append_nil]

theorem scanExponent_text (hvalid : token.IsValid) (hrest : Ends rest) :
    scanExponent (token.exponent ++ rest) = (token.exponent, rest) := by
  rcases hvalid.exponent with hnone | ⟨mark, sign, digits, heq, hmark, hsign, hne, hdigits⟩
  · rw [hnone, List.nil_append]
    cases rest with
    | nil => rfl
    | cons c rest =>
      have hc : ¬ (c = 'e' ∨ c = 'E') := by
        rcases hrest c rfl with rfl | rfl | rfl <;> decide
      simp only [scanExponent, hc, false_and, if_false]
  have hscan := scanDigits_append hdigits hrest.stopsDigits
  have hhead : ∀ c after, digits ++ rest = c :: after → c.isDigit := by
    intro c after happend
    cases digits with
    | nil => exact (hne rfl).elim
    | cons d digits =>
      cases happend
      exact hdigits c List.mem_cons_self
  have hsplit : scanExponentSign (sign ++ (digits ++ rest)) = (sign, digits ++ rest) := by
    rcases hsign with rfl | rfl | rfl
    · rw [List.nil_append, scanExponentSign]
      · rintro after happend
        cases hhead _ _ happend
      · rintro after happend
        cases hhead _ _ happend
    · rfl
    · rfl
  rw [heq, List.cons_append, List.append_assoc, scanExponent, hsplit]
  simp only [hscan, hmark, hne, ne_eq, not_false_eq_true, and_self, if_true]

theorem scanFraction_text (hvalid : token.IsValid) (hrest : Ends rest) :
    scanFraction (token.fraction ++ (token.exponent ++ rest)) =
      (token.fraction, token.exponent ++ rest) := by
  have hhead : ∀ c ∈ (token.exponent ++ rest).head?, c ≠ '.' ∧ c.isDigit = false := by
    intro c hc
    rcases hvalid.exponent with hnone | ⟨mark, sign, digits, heq, hmark, -⟩
    · rw [hnone, List.nil_append] at hc
      rcases hrest c hc with rfl | rfl | rfl <;> decide
    rw [heq] at hc
    cases hc
    rcases hmark with rfl | rfl <;> decide
  rcases hvalid.fraction with hnone | ⟨digits, heq, hne, hdigits⟩
  · rw [hnone, List.nil_append]
    cases hcases : token.exponent ++ rest with
    | nil => rfl
    | cons c after =>
      rw [hcases] at hhead
      have hpoint := (hhead c rfl).1
      rw [scanFraction]
      rintro _ ⟨⟩
      exact hpoint rfl
  · have hscan := scanDigits_append hdigits (fun c hc => (hhead c hc).2)
    rw [heq, List.cons_append, scanFraction, hscan, if_neg hne]

theorem scanWhole_text (hvalid : token.IsValid) (hrest : Ends rest) :
    scanWhole (token.whole ++ (token.fraction ++ (token.exponent ++ rest))) =
      some (token.whole, token.fraction ++ (token.exponent ++ rest)) := by
  have hhead : StopsDigits (token.fraction ++ (token.exponent ++ rest)) := by
    intro c hc
    rcases hvalid.fraction with hnone | ⟨digits, heq, -⟩
    · rw [hnone, List.nil_append] at hc
      rcases hvalid.exponent with hnone | ⟨mark, sign, digits, heq, hmark, -⟩
      · rw [hnone, List.nil_append] at hc
        exact hrest.stopsDigits c hc
      rw [heq] at hc
      cases hc
      rcases hmark with rfl | rfl <;> rfl
    · rw [heq] at hc
      cases hc
      rfl
  rcases hvalid.whole with hzero | ⟨c, digits, heq, hzero, hdigit, hdigits⟩
  · rw [hzero]
    rfl
  · have hscan := scanDigits_append hdigits hhead
    rw [heq, List.cons_append, scanWhole, if_neg hzero, if_pos hdigit, hscan]

theorem scanNumber_text (hvalid : token.IsValid) (hrest : Ends rest) :
    scanNumber (token.text ++ rest) = some (token, rest) := by
  have hassoc : token.text ++ rest =
      token.sign ++ (token.whole ++ (token.fraction ++ (token.exponent ++ rest))) := by
    simp only [NumberToken.text, List.append_assoc]
  have hsign : scanSign (token.sign ++ (token.whole ++ (token.fraction ++
      (token.exponent ++ rest)))) =
      (token.sign, token.whole ++ (token.fraction ++ (token.exponent ++ rest))) := by
    rcases hvalid.sign with hnone | hminus
    · rw [hnone, List.nil_append]
      rcases hvalid.whole with hzero | ⟨c, digits, heq, -, hdigit, -⟩
      · rw [hzero]
        rfl
      rw [heq, List.cons_append, scanSign]
      rintro _ ⟨⟩
      cases hdigit
    · rw [hminus]
      rfl
  simp only [scanNumber, hassoc, hsign, scanWhole_text hvalid hrest, Option.map_some,
    scanFraction_text hvalid hrest, scanExponent_text hvalid hrest]

end Numbers

def intToken (n : Int) : NumberToken where
  sign := if n < 0 then ['-'] else []
  whole := spell 10 1 n.natAbs
  fraction := []
  exponent := []

def NumberToken.toInt (token : NumberToken) : Option Int :=
  (readText 10 token.whole).map fun n : Nat => if token.sign = [] then (n : Int) else -(n : Int)

theorem isDigit_of_mem_spell {n : Nat} {c : Char} (hc : c ∈ spell 10 1 n) : c.isDigit := by
  obtain ⟨d, hd, rfl⟩ := List.mem_map.mp hc
  rw [Nat.isDigit_digitChar, decide_eq_true_iff]
  exact lt_of_mem_write (by decide) hd

theorem intToken_isValid (n : Int) : (intToken n).IsValid := by
  refine ⟨?_, ?_, Or.inl rfl, Or.inl rfl⟩
  · rcases Classical.em (n < 0) with hneg | hneg
    · exact Or.inr (if_pos hneg)
    · exact Or.inl (if_neg hneg)
  rcases Nat.eq_zero_or_pos n.natAbs with hzero | hpos
  · left
    have hwhole : spell 10 1 0 = ['0'] := by decide
    rw [intToken, hzero, hwhole]
  right
  obtain ⟨d, digits, hwrite, hne, hlt⟩ : ∃ d digits,
      write 10 1 n.natAbs = d :: digits ∧ d ≠ 0 ∧ d < 10 :=
    head_write_ne_zero (by decide) (Nat.pos_iff_ne_zero.mp hpos)
  have hspell : spell 10 1 n.natAbs = Nat.digitChar d :: digits.map Nat.digitChar := by
    rw [spell, hwrite, List.map_cons]
  refine ⟨Nat.digitChar d, digits.map Nat.digitChar, hspell, ?_, ?_, ?_⟩
  · intro h
    exact hne (Nat.digitChar_eq_zero.mp h)
  · rw [Nat.isDigit_digitChar, decide_eq_true_iff]
    exact hlt
  intro c hc
  apply isDigit_of_mem_spell (n := n.natAbs)
  rw [hspell]
  exact List.mem_cons_of_mem _ hc

theorem intToken_isFloat (n : Int) : (intToken n).isFloat = false := by
  simp [NumberToken.isFloat, intToken]

theorem toInt_intToken (n : Int) : (intToken n).toInt = some n := by
  have hread : readText 10 (intToken n).whole = some n.natAbs :=
    readText_spell (by decide) (by decide)
  rw [NumberToken.toInt, hread, Option.map_some, intToken]
  rcases Classical.em (n < 0) with hneg | hneg
  · simp only [if_pos hneg, List.cons_ne_nil, if_false]
    congr 1
    omega
  · simp only [if_neg hneg, if_true]
    congr 1
    omega

end Json
