import Mathlib.Data.Char
import MemeExpert.Lib.JsonTokens

/-! Values are written without blanks and read back with blanks allowed. How floats are written is
a parameter. -/

namespace Json

inductive Value (φ : Type) where
  | null
  | bool (b : Bool)
  | int (n : Int)
  | float (x : φ)
  | string (text : Text)
  | array (items : List (Value φ))
  | object (members : List (Text × Value φ))

def floatConstants : List Text := ["NaN", "Infinity", "-Infinity"].map String.toList

def IsFloatText (text : Text) : Prop :=
  text ∈ floatConstants ∨ ∃ token : NumberToken, token.IsValid ∧ token.isFloat ∧ token.text = text

structure Floats (φ : Type) where
  write : φ → Text
  read : Text → φ
  isFloatText : ∀ x, IsFloatText (write x)
  read_write : ∀ x, read (write x) = x

variable {φ : Type} (floats : Floats φ)

def literal : Bool → Text
  | true => "true".toList
  | false => "false".toList

mutual

def Value.write : Value φ → Text
  | .null => "null".toList
  | .bool b => literal b
  | .int n => (intToken n).text
  | .float x => floats.write x
  | .string text => quote text
  | .array [] => "[]".toList
  | .array (item :: items) => '[' :: (item.write ++ writeItems items)
  | .object [] => "{}".toList
  | .object ((key, value) :: members) =>
    '{' :: (quote key ++ (':' :: (value.write ++ writeMembers members)))

/-- What is written after an item. -/
def writeItems : List (Value φ) → Text
  | [] => [']']
  | item :: items => ',' :: (item.write ++ writeItems items)

def writeMembers : List (Text × Value φ) → Text
  | [] => ['}']
  | (key, value) :: members => ',' :: (quote key ++ (':' :: (value.write ++ writeMembers members)))

end

def isBlank (c : Char) : Bool := c = ' ' ∨ c = '\t' ∨ c = '\n' ∨ c = '\r'

def skipBlanks (text : Text) : Text := text.dropWhile isBlank

/-- The text after this word. -/
def afterWord (word text : Text) : Option Text :=
  if word.isPrefixOf text then some (text.drop word.length) else none

def scanConstant (text : Text) : Option (Value φ × Text) :=
  floatConstants.findSome? fun word =>
    (afterWord word text).map fun rest => (.float (floats.read word), rest)

/-- A value that holds no others and is not a string. -/
def scanAtom (text : Text) : Option (Value φ × Text) :=
  match afterWord "null".toList text with
  | some rest => some (.null, rest)
  | none =>
    match afterWord (literal true) text with
    | some rest => some (.bool true, rest)
    | none =>
      match afterWord (literal false) text with
      | some rest => some (.bool false, rest)
      | none =>
        match scanNumber text with
        | some (token, rest) =>
          if token.isFloat then some (.float (floats.read token.text), rest)
          else token.toInt.map fun n => (.int n, rest)
        | none => scanConstant floats text

def scanKey : Text → Option (Text × Text)
  | '"' :: rest =>
    (scanString rest).bind fun (key, rest) =>
      match skipBlanks rest with
      | ':' :: rest => some (key, skipBlanks rest)
      | _ => none
  | _ => none

mutual

def scanValue : Nat → Text → Option (Value φ × Text)
  | 0, _ => none
  | fuel + 1, text =>
    match text with
    | '"' :: rest => (scanString rest).map fun (text, rest) => (.string text, rest)
    | '[' :: rest =>
      match skipBlanks rest with
      | ']' :: rest => some (.array [], rest)
      | rest =>
        (scanValue fuel rest).bind fun (item, rest) =>
          (scanItems fuel rest).map fun (items, rest) => (.array (item :: items), rest)
    | '{' :: rest =>
      match skipBlanks rest with
      | '}' :: rest => some (.object [], rest)
      | rest =>
        (scanKey rest).bind fun (key, rest) =>
          (scanValue fuel rest).bind fun (value, rest) =>
            (scanMembers fuel rest).map fun (members, rest) =>
              (.object ((key, value) :: members), rest)
    | text => scanAtom floats text

def scanItems : Nat → Text → Option (List (Value φ) × Text)
  | 0, _ => none
  | fuel + 1, text =>
    match skipBlanks text with
    | ']' :: rest => some ([], rest)
    | ',' :: rest =>
      (scanValue fuel (skipBlanks rest)).bind fun (item, rest) =>
        (scanItems fuel rest).map fun (items, rest) => (item :: items, rest)
    | _ => none

def scanMembers : Nat → Text → Option (List (Text × Value φ) × Text)
  | 0, _ => none
  | fuel + 1, text =>
    match skipBlanks text with
    | '}' :: rest => some ([], rest)
    | ',' :: rest =>
      (scanKey (skipBlanks rest)).bind fun (key, rest) =>
        (scanValue fuel rest).bind fun (value, rest) =>
          (scanMembers fuel rest).map fun (members, rest) => ((key, value) :: members, rest)
    | _ => none

end

/-- `json.loads`: one value, and nothing after it. -/
def loads (text : Text) : Option (Value φ) :=
  (scanValue floats (text.length + 1) (skipBlanks text)).bind fun (value, rest) =>
    if skipBlanks rest = [] then some value else none

section RoundTrip

variable {floats : Floats φ} {c : Char} {text rest : Text} {token : NumberToken}

theorem skipBlanks_cons (h : isBlank c = false) : skipBlanks (c :: text) = c :: text := by
  rw [skipBlanks, List.dropWhile_cons_of_neg]
  simp [h]

theorem afterWord_cons_of_ne {d : Char} {word : Text} (h : d ≠ c) :
    afterWord (d :: word) (c :: text) = none := by
  rw [afterWord, if_neg]
  simp [h]

/-- A value starts with none of the characters that close one or stand between two. -/
def IsStart (c : Char) : Prop := isBlank c = false ∧ c ≠ ']' ∧ c ≠ '}'

theorem isStart_of_isDigit (h : c.isDigit) : IsStart c := by
  refine ⟨?_, ?_, ?_⟩
  · by_contra hblank
    simp only [isBlank, Bool.not_eq_false, decide_eq_true_eq] at hblank
    rcases hblank with rfl | rfl | rfl | rfl <;> cases h
  · rintro rfl
    cases h
  · rintro rfl
    cases h

theorem text_head (hvalid : token.IsValid) :
    ∃ c after, token.text = c :: after ∧ (c = '-' ∨ c.isDigit) := by
  rcases hvalid.sign with hnone | hminus
  · rw [NumberToken.text, hnone, List.nil_append]
    rcases hvalid.whole with hzero | ⟨c, digits, heq, -, hdigit, -⟩
    · rw [hzero]
      exact ⟨_, _, rfl, Or.inr rfl⟩
    · rw [heq]
      exact ⟨_, _, rfl, Or.inr hdigit⟩
  · rw [NumberToken.text, hminus]
    exact ⟨_, _, rfl, Or.inl rfl⟩

/-- The characters that an integer or a float starts with. -/
def IsNumberStart (c : Char) : Prop := c = '-' ∨ c.isDigit ∨ c = 'N' ∨ c = 'I'

theorem IsNumberStart.isStart (h : IsNumberStart c) : IsStart c := by
  rcases h with rfl | h | rfl | rfl
  · exact ⟨by decide, by decide, by decide⟩
  · exact isStart_of_isDigit h
  · exact ⟨by decide, by decide, by decide⟩
  · exact ⟨by decide, by decide, by decide⟩

theorem IsNumberStart.not_opening (h : IsNumberStart c) : c ≠ '"' ∧ c ≠ '[' ∧ c ≠ '{' := by
  refine ⟨?_, ?_, ?_⟩
  · rintro rfl
    rcases h with h | h | h | h <;> cases h
  · rintro rfl
    rcases h with h | h | h | h <;> cases h
  · rintro rfl
    rcases h with h | h | h | h <;> cases h

theorem int_head (n : Int) : ∃ c after, (intToken n).text = c :: after ∧ IsNumberStart c := by
  obtain ⟨c, after, heq, hc⟩ := text_head (intToken_isValid n)
  exact ⟨c, after, heq, hc.imp id Or.inl⟩

theorem float_head (x : φ) : ∃ c after, floats.write x = c :: after ∧ IsNumberStart c := by
  rcases floats.isFloatText x with hconstant | ⟨token, hvalid, -, htext⟩
  · simp only [floatConstants, List.map_cons, List.map_nil, List.mem_cons, List.not_mem_nil,
      or_false] at hconstant
    rcases hconstant with h | h | h
    · exact ⟨'N', _, h, Or.inr (Or.inr (Or.inl rfl))⟩
    · exact ⟨'I', _, h, Or.inr (Or.inr (Or.inr rfl))⟩
    · exact ⟨'-', _, h, Or.inl rfl⟩
  · obtain ⟨c, after, heq, hc⟩ := text_head hvalid
    exact ⟨c, after, htext.symm.trans heq, hc.imp id Or.inl⟩

theorem write_head (value : Value φ) : ∃ c after, value.write floats = c :: after ∧ IsStart c := by
  have hopen : ∀ c ∈ ['"', '[', '{', 'n', 't', 'f'], IsStart c := by
    simp [IsStart, isBlank]
  cases value with
  | null => exact ⟨_, _, by rw [Value.write]; rfl, hopen 'n' (by decide)⟩
  | bool b =>
    cases b
    · exact ⟨_, _, by rw [Value.write]; rfl, hopen 'f' (by decide)⟩
    · exact ⟨_, _, by rw [Value.write]; rfl, hopen 't' (by decide)⟩
  | int n =>
    obtain ⟨c, after, heq, hc⟩ := int_head n
    exact ⟨c, after, by rw [Value.write, heq], hc.isStart⟩
  | float x =>
    obtain ⟨c, after, heq, hc⟩ := @float_head φ floats x
    exact ⟨c, after, by rw [Value.write, heq], hc.isStart⟩
  | string text => exact ⟨_, _, by rw [Value.write]; rfl, hopen '"' (by decide)⟩
  | array items =>
    cases items with
    | nil => exact ⟨_, _, by rw [Value.write]; rfl, hopen '[' (by decide)⟩
    | cons item items => exact ⟨_, _, by rw [Value.write], hopen '[' (by decide)⟩
  | object members =>
    cases members with
    | nil => exact ⟨_, _, by rw [Value.write]; rfl, hopen '{' (by decide)⟩
    | cons member members => exact ⟨_, _, by rw [Value.write], hopen '{' (by decide)⟩

theorem scanValue_number {fuel : Nat} (h : ∃ c after, text = c :: after ∧ IsNumberStart c) :
    scanValue floats (fuel + 1) (text ++ rest) = scanAtom floats (text ++ rest) := by
  obtain ⟨c, after, rfl, hc⟩ := h
  obtain ⟨hquote, harray, hobject⟩ := hc.not_opening
  rw [List.cons_append, scanValue]
  · rintro _ ⟨⟩
    exact hquote rfl
  · rintro _ ⟨⟩
    exact harray rfl
  · rintro _ ⟨⟩
    exact hobject rfl

theorem scanAtom_number (hvalid : token.IsValid) (hrest : Ends rest) :
    scanAtom floats (token.text ++ rest) =
      if token.isFloat then some (.float (floats.read token.text), rest)
      else token.toInt.map fun n => (.int n, rest) := by
  have hscan := scanNumber_text hvalid hrest
  obtain ⟨c, after, heq, hc⟩ := text_head hvalid
  have hletter : 'n' ≠ c ∧ 't' ≠ c ∧ 'f' ≠ c := by
    refine ⟨?_, ?_, ?_⟩
    · rintro rfl
      rcases hc with hc | hc <;> cases hc
    · rintro rfl
      rcases hc with hc | hc <;> cases hc
    · rintro rfl
      rcases hc with hc | hc <;> cases hc
  have hnull : afterWord "null".toList (token.text ++ rest) = none := by
    rw [heq]
    exact afterWord_cons_of_ne hletter.1
  have htrue : afterWord (literal true) (token.text ++ rest) = none := by
    rw [heq]
    exact afterWord_cons_of_ne hletter.2.1
  have hfalse : afterWord (literal false) (token.text ++ rest) = none := by
    rw [heq]
    exact afterWord_cons_of_ne hletter.2.2
  rw [scanAtom, hnull, htrue, hfalse, hscan]

theorem scanAtom_constant {word : Text} (hword : word ∈ floatConstants) :
    scanAtom floats (word ++ rest) = some (.float (floats.read word), rest) := by
  simp only [floatConstants, List.map_cons, List.map_nil, List.mem_cons, List.not_mem_nil,
    or_false] at hword
  rcases hword with rfl | rfl | rfl <;> rfl

theorem scanAtom_int (n : Int) (hrest : Ends rest) :
    scanAtom floats ((intToken n).text ++ rest) = some (.int n, rest) := by
  rw [scanAtom_number (intToken_isValid n) hrest, intToken_isFloat, toInt_intToken]
  rfl

theorem scanAtom_float (x : φ) (hrest : Ends rest) :
    scanAtom floats (floats.write x ++ rest) = some (.float x, rest) := by
  have hread := floats.read_write x
  rcases floats.isFloatText x with hconstant | ⟨token, hvalid, hfloat, htext⟩
  · rw [scanAtom_constant hconstant, hread]
  · rw [← htext] at hread ⊢
    rw [scanAtom_number hvalid hrest, if_pos hfloat, hread]

theorem scanKey_quote (key : Text) (h : ∃ c after, text = c :: after ∧ IsStart c) :
    scanKey (quote key ++ (':' :: text)) = some (key, text) := by
  obtain ⟨c, after, rfl, hstart⟩ := h
  have hcolon : skipBlanks (':' :: c :: after) = ':' :: c :: after := skipBlanks_cons rfl
  have hvalue : skipBlanks (c :: after) = c :: after := skipBlanks_cons hstart.1
  rw [quote_append, scanKey, scanString_quote, Option.bind_some]
  simp only [hcolon, hvalue]

theorem ends_writeItems (items : List (Value φ)) : Ends (writeItems floats items ++ rest) := by
  cases items with
  | nil =>
    rw [writeItems]
    rintro c ⟨⟩
    exact Or.inr (Or.inl rfl)
  | cons item items =>
    rw [writeItems]
    rintro c ⟨⟩
    exact Or.inl rfl

theorem ends_writeMembers (members : List (Text × Value φ)) :
    Ends (writeMembers floats members ++ rest) := by
  cases members with
  | nil =>
    rw [writeMembers]
    rintro c ⟨⟩
    exact Or.inr (Or.inr rfl)
  | cons member members =>
    rw [writeMembers]
    rintro c ⟨⟩
    exact Or.inl rfl

theorem head_write_append (value : Value φ) :
    ∃ c after, value.write floats ++ rest = c :: after ∧ IsStart c := by
  obtain ⟨c, after, heq, hstart⟩ := @write_head φ floats value
  exact ⟨c, after ++ rest, by rw [heq, List.cons_append], hstart⟩

theorem scanValue_items {fuel : Nat} (h : ∃ c after, text = c :: after ∧ IsStart c) :
    scanValue floats (fuel + 1) ('[' :: text) =
      (scanValue floats fuel text).bind fun (item, rest) =>
        (scanItems floats fuel rest).map fun (items, rest) => (.array (item :: items), rest) := by
  obtain ⟨c, after, rfl, hstart⟩ := h
  rw [scanValue, skipBlanks_cons hstart.1]
  split
  · next heq =>
    cases heq
    exact (hstart.2.1 rfl).elim
  · rfl

theorem scanValue_members {fuel : Nat} (key : Text) :
    scanValue floats (fuel + 1) ('{' :: (quote key ++ text)) =
      (scanKey (quote key ++ text)).bind fun (key, rest) =>
        (scanValue floats fuel rest).bind fun (value, rest) =>
          (scanMembers floats fuel rest).map fun (members, rest) =>
            (.object ((key, value) :: members), rest) := by
  have hblanks : skipBlanks (quote key ++ text) = quote key ++ text := skipBlanks_cons rfl
  rw [scanValue, hblanks]
  split
  · next heq => cases heq
  · rfl

/-! The length of what is written is fuel enough to read it, whatever follows. -/

mutual

theorem scanValue_write (floats : Floats φ) (value : Value φ) {fuel : Nat} {rest : Text}
    (hfuel : (value.write floats).length ≤ fuel) (hrest : Ends rest) :
    scanValue floats fuel (value.write floats ++ rest) = some (value, rest) := by
  obtain ⟨fuel, rfl⟩ : ∃ more, fuel = more + 1 := by
    obtain ⟨c, after, heq, -⟩ := @write_head φ floats value
    rw [heq, List.length_cons] at hfuel
    exact ⟨fuel - 1, by omega⟩
  match value with
  | .null => rfl
  | .bool true => rfl
  | .bool false => rfl
  | .int n => rw [Value.write, scanValue_number (int_head n), scanAtom_int n hrest]
  | .float x => rw [Value.write, scanValue_number (float_head x), scanAtom_float x hrest]
  | .string text =>
    rw [Value.write, quote_append, scanValue, scanString_quote]
    rfl
  | .array [] => rfl
  | .array (item :: items) =>
    rw [Value.write, List.length_cons, List.length_append] at hfuel
    have hitem : scanValue floats fuel (item.write floats ++ (writeItems floats items ++ rest)) =
        some (item, writeItems floats items ++ rest) :=
      scanValue_write floats item (by omega) (ends_writeItems items)
    have hitems : scanItems floats fuel (writeItems floats items ++ rest) = some (items, rest) :=
      scanItems_write floats items (by omega)
    rw [Value.write, List.cons_append, List.append_assoc, scanValue_items (head_write_append item),
      hitem]
    simp only [Option.bind_some, hitems, Option.map_some]
  | .object [] => rfl
  | .object ((key, value) :: members) =>
    rw [Value.write, List.length_cons, List.length_append, List.length_cons, List.length_append]
      at hfuel
    have hvalue : scanValue floats fuel
        (value.write floats ++ (writeMembers floats members ++ rest)) =
        some (value, writeMembers floats members ++ rest) :=
      scanValue_write floats value (by omega) (ends_writeMembers members)
    have hmembers : scanMembers floats fuel (writeMembers floats members ++ rest) =
        some (members, rest) :=
      scanMembers_write floats members (by omega)
    rw [Value.write, List.cons_append, List.append_assoc, List.cons_append, List.append_assoc,
      scanValue_members, scanKey_quote key (head_write_append value)]
    simp only [Option.bind_some, hvalue, hmembers, Option.map_some]

theorem scanItems_write (floats : Floats φ) (items : List (Value φ)) {fuel : Nat} {rest : Text}
    (hfuel : (writeItems floats items).length ≤ fuel) :
    scanItems floats fuel (writeItems floats items ++ rest) = some (items, rest) := by
  match items with
  | [] =>
    obtain ⟨fuel, rfl⟩ : ∃ more, fuel = more + 1 := Nat.exists_eq_add_of_le' hfuel
    rfl
  | item :: items =>
    rw [writeItems, List.length_cons, List.length_append] at hfuel
    obtain ⟨fuel, rfl⟩ : ∃ more, fuel = more + 1 := ⟨fuel - 1, by omega⟩
    have hitem : scanValue floats fuel (item.write floats ++ (writeItems floats items ++ rest)) =
        some (item, writeItems floats items ++ rest) :=
      scanValue_write floats item (by omega) (ends_writeItems items)
    have hitems : scanItems floats fuel (writeItems floats items ++ rest) = some (items, rest) :=
      scanItems_write floats items (by omega)
    obtain ⟨c, after, heq, hstart⟩ :
        ∃ c after, item.write floats ++ (writeItems floats items ++ rest) = c :: after ∧
          IsStart c :=
      head_write_append item
    have hcomma : skipBlanks (',' :: (item.write floats ++ (writeItems floats items ++ rest))) =
        ',' :: (item.write floats ++ (writeItems floats items ++ rest)) := skipBlanks_cons rfl
    have hblanks : skipBlanks (item.write floats ++ (writeItems floats items ++ rest)) =
        item.write floats ++ (writeItems floats items ++ rest) := by
      rw [heq]
      exact skipBlanks_cons hstart.1
    rw [writeItems, List.cons_append, List.append_assoc, scanItems, hcomma]
    simp only [hblanks, hitem, Option.bind_some, hitems, Option.map_some]

theorem scanMembers_write (floats : Floats φ) (members : List (Text × Value φ)) {fuel : Nat}
    {rest : Text} (hfuel : (writeMembers floats members).length ≤ fuel) :
    scanMembers floats fuel (writeMembers floats members ++ rest) = some (members, rest) := by
  match members with
  | [] =>
    obtain ⟨fuel, rfl⟩ : ∃ more, fuel = more + 1 := Nat.exists_eq_add_of_le' hfuel
    rfl
  | (key, value) :: members =>
    rw [writeMembers, List.length_cons, List.length_append, List.length_cons, List.length_append]
      at hfuel
    obtain ⟨fuel, rfl⟩ : ∃ more, fuel = more + 1 := ⟨fuel - 1, by omega⟩
    have hvalue : scanValue floats fuel
        (value.write floats ++ (writeMembers floats members ++ rest)) =
        some (value, writeMembers floats members ++ rest) :=
      scanValue_write floats value (by omega) (ends_writeMembers members)
    have hmembers : scanMembers floats fuel (writeMembers floats members ++ rest) =
        some (members, rest) :=
      scanMembers_write floats members (by omega)
    have hcomma : ∀ after : Text, skipBlanks (',' :: after) = ',' :: after :=
      fun after => skipBlanks_cons rfl
    have hblanks : ∀ after : Text, skipBlanks (quote key ++ after) = quote key ++ after :=
      fun after => skipBlanks_cons rfl
    rw [writeMembers, List.cons_append, List.append_assoc, List.cons_append, List.append_assoc,
      scanMembers, hcomma]
    simp only [hblanks, scanKey_quote key (head_write_append value), Option.bind_some, hvalue,
      hmembers, Option.map_some]

end

theorem loads_write (floats : Floats φ) (value : Value φ) :
    loads floats (value.write floats) = some value := by
  obtain ⟨c, after, heq, hstart⟩ := @write_head φ floats value
  have hblanks : skipBlanks (value.write floats) = value.write floats := by
    rw [heq]
    exact skipBlanks_cons hstart.1
  have hscan : scanValue floats ((value.write floats).length + 1) (value.write floats ++ []) =
      some (value, []) := by
    apply scanValue_write floats value (Nat.le_succ _)
    rintro c ⟨⟩
  rw [List.append_nil] at hscan
  rw [loads, hblanks, hscan]
  rfl

variable {α : Type} [BEq α] [LawfulBEq α]

theorem eraseDups_of_nodup {xs : List α} (h : xs.Nodup) : xs.eraseDups = xs := by
  induction xs with
  | nil => rfl
  | cons x xs ih =>
    rw [List.nodup_cons] at h
    have hkeep : xs.filter (fun y => !y == x) = xs := by
      rw [List.filter_eq_self]
      intro y hy
      have hne : y ≠ x := fun heq => h.1 (heq ▸ hy)
      simp [hne]
    rw [List.eraseDups_cons, hkeep, ih h.2]

theorem nodup_eraseDups (xs : List α) : xs.eraseDups.Nodup := by
  induction hlength : xs.length using Nat.strong_induction_on generalizing xs with
  | _ n ih =>
    cases xs with
    | nil => exact List.nodup_nil
    | cons x xs =>
      rw [List.eraseDups_cons, List.nodup_cons]
      constructor
      · rw [List.mem_eraseDups, List.mem_filter]
        rintro ⟨-, hne⟩
        simp at hne
      apply ih _ _ _ rfl
      have hle := List.length_filter_le (fun y => !y == x) xs
      rw [List.length_cons] at hlength
      omega

end RoundTrip

/-- The value of a key in a dictionary made of these pairs. -/
def lookup (members : List (Text × Value φ)) (key : Text) : Option (Value φ) :=
  (members.reverse.find? (·.1 = key)).map (·.2)

def Value.get? : Value φ → Text → Option (Value φ)
  | .object members, key => lookup members key
  | _, _ => none

/-- The pairs of the dictionary: a key stands where it came first. -/
def dictItems (members : List (Text × Value φ)) : List (Text × Value φ) :=
  (members.map (·.1)).eraseDups.filterMap fun key =>
    (lookup members key).map fun value => (key, value)

mutual

def Value.sortKeys : Value φ → Value φ
  | .array items => .array (sortItems items)
  | .object members => .object ((sortMembers members).insertionSort fun m n => m.1 ≤ n.1)
  | .null => .null
  | .bool b => .bool b
  | .int n => .int n
  | .float x => .float x
  | .string text => .string text

def sortItems : List (Value φ) → List (Value φ)
  | [] => []
  | item :: items => item.sortKeys :: sortItems items

def sortMembers : List (Text × Value φ) → List (Text × Value φ)
  | [] => []
  | (key, value) :: members => (key, value.sortKeys) :: sortMembers members

end

/-- `json.dumps` without blanks and with sorted keys. -/
def dumps (value : Value φ) : Text := value.sortKeys.write floats

section Dictionaries

open scoped List

variable {members other : List (Text × Value φ)} {key : Text} {value : Value φ}

theorem lookup_eq_some_iff (h : (members.map (·.1)).Nodup) :
    lookup members key = some value ↔ (key, value) ∈ members := by
  have hfind : ∀ pair ∈ members, pair.1 = key →
      members.reverse.find? (·.1 = key) = some pair := by
    intro pair hpair hkey
    have hsome : (members.reverse.find? (·.1 = key)).isSome := by
      rw [List.find?_isSome]
      exact ⟨pair, List.mem_reverse.mpr hpair, by simpa using hkey⟩
    obtain ⟨found, hfound⟩ := Option.isSome_iff_exists.mp hsome
    have hmem : found ∈ members := List.mem_reverse.mp (List.mem_of_find?_eq_some hfound)
    have hfoundKey : found.1 = key := by simpa using List.find?_some hfound
    have hsame : found = pair := List.inj_on_of_nodup_map h hmem hpair (hfoundKey.trans hkey.symm)
    rw [hfound, hsame]
  constructor
  · intro hlookup
    obtain ⟨pair, hpair, rfl⟩ := Option.map_eq_some_iff.mp hlookup
    have hmem : pair ∈ members := List.mem_reverse.mp (List.mem_of_find?_eq_some hpair)
    have hkey : pair.1 = key := by simpa using List.find?_some hpair
    rw [← hkey]
    exact hmem
  · intro hmem
    rw [lookup, hfind (key, value) hmem rfl]
    rfl

theorem lookup_eq_of_perm (h : (members.map (·.1)).Nodup) (hperm : members ~ other) :
    lookup members key = lookup other key := by
  have hother : (other.map (·.1)).Nodup := ((hperm.map _).nodup_iff).mp h
  apply Option.ext
  intro value
  rw [lookup_eq_some_iff h, lookup_eq_some_iff hother, hperm.mem_iff]

theorem dictItems_of_nodup (h : (members.map (·.1)).Nodup) : dictItems members = members := by
  have hpairs : ∀ pair ∈ members, (lookup members pair.1).map (fun value => (pair.1, value)) =
      some pair := by
    intro pair hpair
    rw [(lookup_eq_some_iff h).mpr hpair]
    rfl
  rw [dictItems, eraseDups_of_nodup h, List.filterMap_map]
  calc members.filterMap _
      = members.filterMap some := List.filterMap_congr hpairs
    _ = members := List.filterMap_some

theorem nodup_dictItems (members : List (Text × Value φ)) :
    ((dictItems members).map (·.1)).Nodup := by
  have hsublist : ∀ keys : List Text, ((keys.filterMap fun key =>
      (lookup members key).map fun value => (key, value)).map (·.1)).Sublist keys := by
    intro keys
    induction keys with
    | nil => exact List.Sublist.refl _
    | cons key keys ih =>
      rw [List.filterMap_cons]
      cases lookup members key with
      | none => exact ih.cons key
      | some value => exact ih.cons_cons key
  exact (nodup_eraseDups _).sublist (hsublist _)

theorem sortItems_eq_map (items : List (Value φ)) : sortItems items = items.map Value.sortKeys := by
  induction items with
  | nil => rfl
  | cons item items ih => rw [sortItems, ih, List.map_cons]

theorem sortMembers_eq_map (members : List (Text × Value φ)) :
    sortMembers members = members.map fun member => (member.1, member.2.sortKeys) := by
  induction members with
  | nil => rfl
  | cons member members ih => rw [sortMembers, ih, List.map_cons]

theorem keys_sortMembers (members : List (Text × Value φ)) :
    (sortMembers members).map (·.1) = members.map (·.1) := by
  rw [sortMembers_eq_map, List.map_map]
  rfl

theorem get?_sortKeys (h : (members.map (·.1)).Nodup) :
    (Value.object members).sortKeys.get? key = (lookup members key).map Value.sortKeys := by
  have hkeys : ((sortMembers members).map (·.1)).Nodup := by
    rwa [keys_sortMembers]
  have hperm := List.perm_insertionSort (fun m n : Text × Value φ => m.1 ≤ n.1)
    (sortMembers members)
  have hsorted : lookup ((sortMembers members).insertionSort fun m n => m.1 ≤ n.1) key =
      lookup (sortMembers members) key := (lookup_eq_of_perm hkeys hperm.symm).symm
  rw [Value.sortKeys, Value.get?, hsorted]
  apply Option.ext
  intro value
  rw [lookup_eq_some_iff hkeys, sortMembers_eq_map, List.mem_map, Option.map_eq_some_iff]
  constructor
  · rintro ⟨member, hmem, heq⟩
    cases heq
    exact ⟨member.2, (lookup_eq_some_iff h).mpr hmem, rfl⟩
  · rintro ⟨found, hfound, rfl⟩
    exact ⟨(key, found), (lookup_eq_some_iff h).mp hfound, rfl⟩

theorem lookup_of_place (h : (members.map (·.1)).Nodup) (i : Nat)
    (hplace : members[i]? = some (key, value)) : lookup members key = some value :=
  (lookup_eq_some_iff h).mpr (List.mem_of_getElem? hplace)

theorem get?_of_place (h : (members.map (·.1)).Nodup) (i : Nat)
    (hplace : members[i]? = some (key, value)) :
    (Value.object members).sortKeys.get? key = some value.sortKeys := by
  rw [get?_sortKeys h, lookup_of_place h i hplace, Option.map_some]

theorem loads_dumps (value : Value φ) : loads floats (dumps floats value) = some value.sortKeys :=
  loads_write floats value.sortKeys

end Dictionaries

end Json
