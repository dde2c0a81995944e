import MemeExpert.Lib.Dates
import MemeExpert.Lib.Numerals

/-! A stamp is the time on a clock, in microseconds since 1970, with how far the clock is
east of Greenwich where that is known. -/

namespace IsoDates

open Dates Numerals

abbrev Text := List Char

/-- The years that a date can have, and the clocks that a time zone can have. -/
structure Stamp where
  clock : Int
  offset : Option Int
  year_bounds : 1 ≤ year clock ∧ year clock ≤ 9999
  offset_bounds : ∀ o ∈ offset, o.natAbs < ticksPerDay.natAbs

theorem offset_bounds_zero : ∀ o ∈ some (0 : Int), o.natAbs < ticksPerDay.natAbs := by
  decide

/-- Microseconds since 1970 in Greenwich; a clock without a zone is taken to stand there. -/
def Stamp.moment (stamp : Stamp) : Int := stamp.clock - stamp.offset.getD 0

def ticksPerSecond : Nat := 1000000

def ticksPerMinute : Nat := 60000000

def ticksPerHour : Nat := 3600000000

def fractionText (micros : Nat) : Text := if micros = 0 then [] else '.' :: spell 10 6 micros

def minutesText (ticks : Nat) : Text :=
  spell 10 2 (ticks / ticksPerHour) ++ (':' :: spell 10 2 (ticks / ticksPerMinute % 60))

def secondsText (ticks : Nat) : Text :=
  ':' :: (spell 10 2 (ticks / ticksPerSecond % 60) ++ fractionText (ticks % ticksPerSecond))

def dateText (clock : Int) : Text :=
  spell 10 4 (year clock).toNat ++ ('-' :: (spell 10 2 (month clock).toNat ++
    ('-' :: spell 10 2 (dayOfMonth clock).toNat)))

/-- Seconds are written only where the offset has any. -/
def offsetText : Option Int → Text
  | none => []
  | some offset =>
    (if offset < 0 then '-' else '+') :: (minutesText offset.natAbs ++
      if offset.natAbs % ticksPerMinute = 0 then [] else secondsText offset.natAbs)

def Stamp.isoformat (stamp : Stamp) : Text :=
  dateText stamp.clock ++ ('T' :: (minutesText (timeOfDay stamp.clock).toNat ++
    (secondsText (timeOfDay stamp.clock).toNat ++ offsetText stamp.offset)))

def scanFraction : Text → Option (Nat × Text)
  | '.' :: rest => takeNumber 10 6 rest
  | text => some (0, text)

/-- After a colon. -/
def scanSixtieth : Text → Option (Nat × Text)
  | ':' :: rest =>
    (takeNumber 10 2 rest).bind fun (n, rest) => if n < 60 then some (n, rest) else none
  | _ => none

def scanMinutes (text : Text) : Option (Nat × Text) :=
  (takeNumber 10 2 text).bind fun (hour, rest) =>
    (scanSixtieth rest).bind fun (minute, rest) =>
      if hour < 24 then some (hour * ticksPerHour + minute * ticksPerMinute, rest) else none

def scanSeconds (text : Text) : Option (Nat × Text) :=
  (scanSixtieth text).bind fun (second, rest) =>
    (scanFraction rest).map fun (micros, rest) => (second * ticksPerSecond + micros, rest)

def scanDate (text : Text) : Option ((Nat × Nat × Nat) × Text) :=
  (takeNumber 10 4 text).bind fun (year, rest) =>
    match rest with
    | '-' :: rest =>
      (takeNumber 10 2 rest).bind fun (month, rest) =>
        match rest with
        | '-' :: rest => (takeNumber 10 2 rest).map fun (day, rest) => ((year, month, day), rest)
        | _ => none
    | _ => none

/-- A text that ends after the minutes has no seconds. -/
def scanOffset : Text → Option (Option Int)
  | [] => some none
  | sign :: rest =>
    if sign = '+' ∨ sign = '-' then
      (scanMinutes rest).bind fun (minutes, rest) =>
        (if rest = [] then some (0, []) else scanSeconds rest).bind fun (seconds, rest) =>
          let ticks : Int := minutes + seconds
          if rest = [] then some (some (if sign = '-' then -ticks else ticks)) else none
    else none

def scanStamp (text : Text) : Option Stamp :=
  (scanDate text).bind fun (date, rest) =>
    match rest with
    | 'T' :: rest =>
      (scanMinutes rest).bind fun (minutes, rest) =>
        (scanSeconds rest).bind fun (seconds, rest) =>
          (scanOffset rest).bind fun offset =>
            let (year, month, day) := date
            let clock := ofFields year month day (minutes + seconds : Nat)
            if h : (1 ≤ month ∧ month ≤ 12 ∧ 1 ≤ day ∧ (day : Int) ≤ monthLength year month) ∧
                (1 ≤ Dates.year clock ∧ Dates.year clock ≤ 9999) ∧
                ∀ o ∈ offset, o.natAbs < ticksPerDay.natAbs then
              some ⟨clock, offset, h.2.1, h.2.2⟩
            else none
    | _ => none

/-- Texts of other ISO forms are left to `other`. -/
def fromisoformat (other : Text → Option Stamp) (text : Text) : Option Stamp :=
  (scanStamp text).or (other text)

section RoundTrip

variable {ticks micros : Nat} {clock : Int} {rest : Text}

/-- What does not start as a fraction. -/
def NoPoint (rest : Text) : Prop := ∀ c ∈ rest.head?, c ≠ '.'

theorem scanFraction_text (hmicros : micros < ticksPerSecond) (hrest : NoPoint rest) :
    scanFraction (fractionText micros ++ rest) = some (micros, rest) := by
  unfold fractionText
  split
  · next hzero =>
    subst hzero
    rw [List.nil_append, scanFraction]
    rintro after rfl
    exact hrest '.' rfl rfl
  · exact takeNumber_spell (by decide) (by decide) hmicros rest

theorem scanSixtieth_text {n : Nat} (hn : n < 60) :
    scanSixtieth (':' :: (spell 10 2 n ++ rest)) = some (n, rest) := by
  have htake : takeNumber 10 2 (spell 10 2 n ++ rest) = some (n, rest) :=
    takeNumber_spell (by decide) (by decide) (by omega) rest
  rw [scanSixtieth, htake, Option.bind_some]
  exact if_pos hn

theorem scanMinutes_text (hticks : ticks < ticksPerHour * 24) :
    scanMinutes (minutesText ticks ++ rest) =
      some (ticks - ticks % ticksPerMinute, rest) := by
  have hhour : ticks / ticksPerHour < 24 := Nat.div_lt_of_lt_mul hticks
  have htake : takeNumber 10 2 (spell 10 2 (ticks / ticksPerHour) ++
      (':' :: (spell 10 2 (ticks / ticksPerMinute % 60) ++ rest))) =
      some (ticks / ticksPerHour, ':' :: (spell 10 2 (ticks / ticksPerMinute % 60) ++ rest)) :=
    takeNumber_spell (by decide) (by decide) (by omega) _
  have hminute : scanSixtieth (':' :: (spell 10 2 (ticks / ticksPerMinute % 60) ++ rest)) =
      some (ticks / ticksPerMinute % 60, rest) := scanSixtieth_text (Nat.mod_lt _ (by decide))
  have hvalue : ticks / ticksPerHour * ticksPerHour + ticks / ticksPerMinute % 60 * ticksPerMinute =
      ticks - ticks % ticksPerMinute := by
    simp only [ticksPerHour, ticksPerMinute]
    omega
  rw [minutesText, List.append_assoc, List.cons_append, scanMinutes, htake, Option.bind_some]
  simp only [hminute, Option.bind_some, if_pos hhour, hvalue]

theorem scanSeconds_text (hrest : NoPoint rest) :
    scanSeconds (secondsText ticks ++ rest) = some (ticks % ticksPerMinute, rest) := by
  have hsecond : scanSixtieth (':' :: (spell 10 2 (ticks / ticksPerSecond % 60) ++
      (fractionText (ticks % ticksPerSecond) ++ rest))) =
      some (ticks / ticksPerSecond % 60, fractionText (ticks % ticksPerSecond) ++ rest) :=
    scanSixtieth_text (Nat.mod_lt _ (by decide))
  have hfraction := scanFraction_text (Nat.mod_lt ticks (by decide)) hrest
  have hvalue : ticks / ticksPerSecond % 60 * ticksPerSecond + ticks % ticksPerSecond =
      ticks % ticksPerMinute := by
    simp only [ticksPerSecond, ticksPerMinute]
    omega
  rw [secondsText, List.cons_append, List.append_assoc, scanSeconds, hsecond, Option.bind_some]
  simp only [hfraction, Option.map_some, hvalue]

theorem scanOffset_text {offset : Option Int}
    (hbounds : ∀ o ∈ offset, o.natAbs < ticksPerDay.natAbs) :
    scanOffset (offsetText offset) = some offset := by
  cases offset with
  | none => rfl
  | some offset =>
    have hlt : offset.natAbs < ticksPerHour * 24 := hbounds offset rfl
    have hseconds : (if (if offset.natAbs % ticksPerMinute = 0 then [] else
          secondsText offset.natAbs) = [] then some (0, []) else
        scanSeconds (if offset.natAbs % ticksPerMinute = 0 then [] else
          secondsText offset.natAbs)) = some (offset.natAbs % ticksPerMinute, []) := by
      split
      · next hzero => rw [if_pos rfl, hzero]
      next hseconds =>
      have hscan : scanSeconds (secondsText offset.natAbs ++ []) =
          some (offset.natAbs % ticksPerMinute, []) := by
        apply scanSeconds_text
        rintro c ⟨⟩
      rw [List.append_nil] at hscan
      rw [if_neg (by simp [secondsText]), hscan]
    have hticks : ((offset.natAbs - offset.natAbs % ticksPerMinute : Nat) : Int) +
        (offset.natAbs % ticksPerMinute : Nat) = offset.natAbs := by
      rw [← Nat.cast_add, Nat.sub_add_cancel (Nat.mod_le _ _)]
    rw [offsetText]
    rcases Int.lt_or_le offset 0 with hneg | hpos
    · rw [if_pos hneg, scanOffset, if_pos (Or.inr rfl), scanMinutes_text hlt]
      simp only [Option.bind_some, hseconds, hticks, if_true]
      congr 2
      omega
    have hplus : ¬ offset < 0 := Int.not_lt.mpr hpos
    rw [if_neg hplus, scanOffset, if_pos (Or.inl rfl), scanMinutes_text hlt]
    simp only [Option.bind_some, hseconds, hticks, if_true]
    rw [if_neg (by decide)]
    congr 2
    omega

theorem offsetText_noPoint (offset : Option Int) : NoPoint (offsetText offset) := by
  cases offset with
  | none => rintro c ⟨⟩
  | some offset =>
    rw [offsetText]
    rintro c ⟨⟩
    split
    · decide
    · decide

theorem scanDate_text (hyear : 1 ≤ year clock ∧ year clock ≤ 9999) :
    scanDate (dateText clock ++ rest) =
      some (((year clock).toNat, (month clock).toNat, (dayOfMonth clock).toNat), rest) := by
  have hmonth := month_bounds clock
  have hday := dayOfMonth_bounds clock
  have hlength := (lengthOf_bounds (monthIndex clock)).2
  have hyearRead : ∀ after, takeNumber 10 4 (spell 10 4 (year clock).toNat ++ after) =
      some ((year clock).toNat, after) :=
    takeNumber_spell (by decide) (by decide) (by omega)
  have hmonthRead : ∀ after, takeNumber 10 2 (spell 10 2 (month clock).toNat ++ after) =
      some ((month clock).toNat, after) :=
    takeNumber_spell (by decide) (by decide) (by omega)
  have hdayRead : ∀ after, takeNumber 10 2 (spell 10 2 (dayOfMonth clock).toNat ++ after) =
      some ((dayOfMonth clock).toNat, after) :=
    takeNumber_spell (by decide) (by decide) (by omega)
  simp only [dateText, List.append_assoc, List.cons_append, scanDate, hyearRead, Option.bind_some,
    hmonthRead, hdayRead, Option.map_some]

theorem scanStamp_isoformat (stamp : Stamp) : scanStamp stamp.isoformat = some stamp := by
  obtain ⟨clock, offset, hyear, hoffset⟩ := stamp
  have htime := timeOfDay_bounds clock
  have hmonth := month_bounds clock
  have hday := dayOfMonth_bounds clock
  have hdaily : (timeOfDay clock).toNat < ticksPerHour * 24 := by
    have hlt : timeOfDay clock < 86400000000 := htime.2
    simp only [ticksPerHour]
    omega
  have hminutes := fun after => @scanMinutes_text _ after hdaily
  have hseconds := @scanSeconds_text (timeOfDay clock).toNat _ (offsetText_noPoint offset)
  have hticks : (timeOfDay clock).toNat - (timeOfDay clock).toNat % ticksPerMinute +
      (timeOfDay clock).toNat % ticksPerMinute = (timeOfDay clock).toNat :=
    Nat.sub_add_cancel (Nat.mod_le _ _)
  have hyearCast : ((year clock).toNat : Int) = year clock := Int.toNat_of_nonneg (by omega)
  have hmonthCast : ((month clock).toNat : Int) = month clock := Int.toNat_of_nonneg (by omega)
  have hdayCast : ((dayOfMonth clock).toNat : Int) = dayOfMonth clock :=
    Int.toNat_of_nonneg (by omega)
  have htimeCast : ((timeOfDay clock).toNat : Int) = timeOfDay clock := Int.toNat_of_nonneg htime.1
  have hclock : ofFields (year clock) (month clock) (dayOfMonth clock) (timeOfDay clock) =
      clock := by
    rw [ofFields, ← monthIndex_eq]
    exact (eq_of_fields clock).symm
  have hlength : dayOfMonth clock ≤ monthLength (year clock) (month clock) := hday.2
  simp only [Stamp.isoformat, scanStamp, scanDate_text hyear, Option.bind_some, hminutes, hseconds,
    scanOffset_text hoffset, hticks, hyearCast, hmonthCast, hdayCast, htimeCast, hclock]
  rw [dif_pos]
  refine ⟨⟨by omega, by omega, by omega, hlength⟩, hyear, hoffset⟩

theorem fromisoformat_isoformat (other : Text → Option Stamp) (stamp : Stamp) :
    fromisoformat other stamp.isoformat = some stamp := by
  rw [fromisoformat, scanStamp_isoformat]
  rfl

end RoundTrip

end IsoDates
