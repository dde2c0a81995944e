import Mathlib.Data.List.Pairwise
import MemeExpert.Lib.Dates

/-! Slots lie some hours and days after the post and whole months after it. The next slot is
searched for from early offsets on, and from the month of the moment on. -/

namespace MemeExpert

inductive SourceEngagementScheduleLabel where
  | ingestInitial | plus1H | plus3H | plus12H | plus1D | plus3D | plus7D | plus1Month | monthly
  deriving DecidableEq

namespace Services.EngagementSchedule

open Dates

inductive RangeError where
  /-- Sums and conversions: "date value out of range". -/
  | overflow
  /-- Replaced fields: the year is out of range. -/
  | year (year : Int)

def IsDatetime (t : Int) : Prop := 1 ≤ year t ∧ year t ≤ 9999

instance {t : Int} : Decidable (IsDatetime t) := inferInstanceAs (Decidable (_ ∧ _))

/-- A date with its time as a clock shows it, and the offset of the clock unless it is naive. -/
structure Datetime where
  wall : Int
  utcoffset : Option Int
  isDatetime : IsDatetime wall
  lt_day : ∀ offset ∈ utcoffset, -ticksPerDay < offset ∧ offset < ticksPerDay

def Datetime.IsAware (value : Datetime) : Prop := value.utcoffset.isSome

def asUtc (value : Datetime) : Except RangeError Int :=
  match value.utcoffset with
  | none => .ok value.wall
  | some offset => if IsDatetime (value.wall - offset) then .ok (value.wall - offset) else .error .overflow

def plus (t offset : Int) : Except RangeError Int :=
  if IsDatetime (t + offset) then .ok (t + offset) else .error .overflow

def addMonths (value monthCount : Int) : Except RangeError Int :=
  let monthIndex := month value - 1 + monthCount
  let year := year value + monthIndex / 12
  let month := monthIndex % 12 + 1
  let day := min (dayOfMonth value) (monthLength year month)
  if 1 ≤ year ∧ year ≤ 9999 then .ok (ofFields year month day (timeOfDay value))
  else .error (.year year)

def calendarMonthDelta (start finish : Int) : Int :=
  (year finish - year start) * 12 + month finish - month start

def ticksPerHour : Int := 3600000000

def EARLY_SCHEDULE_OFFSETS : List (SourceEngagementScheduleLabel × Int) :=
  [(.plus1H, ticksPerHour), (.plus3H, 3 * ticksPerHour), (.plus12H, 12 * ticksPerHour),
    (.plus1D, ticksPerDay), (.plus3D, 3 * ticksPerDay), (.plus7D, 7 * ticksPerDay)]

structure ScheduleSlot where
  label : SourceEngagementScheduleLabel
  scheduledFor : Int

def earlySlot (publishedAt now : Int) :
    List (SourceEngagementScheduleLabel × Int) → Except RangeError (Option ScheduleSlot)
  | [] => .ok none
  | (label, offset) :: rest => do
    let scheduledFor ← plus publishedAt offset
    if now < scheduledFor then pure (some ⟨label, scheduledFor⟩)
    else earlySlot publishedAt now rest

theorem addMonths_eq (value monthCount : Int) :
    addMonths value monthCount =
      if 1 ≤ year (monthsAfter value monthCount) ∧ year (monthsAfter value monthCount) ≤ 9999 then
        .ok (monthsAfter value monthCount)
      else .error (.year (year (monthsAfter value monthCount))) := by
  have hyear : year value + (month value - 1 + monthCount) / 12 =
      1970 + (monthIndex value + monthCount) / 12 := by
    rw [year, month]
    omega
  have hmonth : (month value - 1 + monthCount) % 12 = (monthIndex value + monthCount) % 12 := by
    rw [month]
    omega
  have hindex : (1970 + (monthIndex value + monthCount) / 12 - 1970) * 12 +
      ((monthIndex value + monthCount) % 12 + 1 - 1) = monthIndex value + monthCount := by
    omega
  have hafter : year (monthsAfter value monthCount) =
      1970 + (monthIndex value + monthCount) / 12 := by
    rw [year, monthIndex_monthsAfter]
  rw [hafter]
  simp only [addMonths, hyear, hmonth, ofFields, hindex]
  rfl

variable {monthCount value : Int}

theorem addMonths_of_isDatetime (h : IsDatetime (monthsAfter value monthCount)) :
    addMonths value monthCount = .ok (monthsAfter value monthCount) := by
  rw [addMonths_eq]
  exact if_pos h

theorem addMonths_of_not_isDatetime (h : ¬ IsDatetime (monthsAfter value monthCount)) :
    addMonths value monthCount = .error (.year (year (monthsAfter value monthCount))) := by
  rw [addMonths_eq]
  exact if_neg h

theorem addMonths_eq_ok {t : Int} (h : addMonths value monthCount = .ok t) :
    t = monthsAfter value monthCount ∧ IsDatetime t := by
  by_cases hin : IsDatetime (monthsAfter value monthCount)
  · rw [addMonths_of_isDatetime hin] at h
    cases h
    exact ⟨rfl, hin⟩
  · rw [addMonths_of_not_isDatetime hin] at h
    cases h

/-- `while monthly_slot <= now`. The year runs out at last. -/
def monthlySlotFrom (publishedAt now monthCount : Int) : Except RangeError Int :=
  match h : addMonths publishedAt monthCount with
  | .error failure => .error failure
  | .ok monthlySlot =>
    if monthlySlot ≤ now then monthlySlotFrom publishedAt now (monthCount + 1)
    else .ok monthlySlot
termination_by (9999 * 12 - (monthIndex publishedAt + monthCount)).toNat
decreasing_by
  obtain ⟨rfl, -, hyear⟩ := addMonths_eq_ok h
  rw [year, monthIndex_monthsAfter] at hyear
  omega

def nextSourceEngagementScheduleSlot (publishedAt now : Option Datetime) (utcnow : Datetime) :
    Except RangeError (Option ScheduleSlot) :=
  match publishedAt with
  | none => .ok none
  | some publishedAt => do
    let publishedAtUtc ← asUtc publishedAt
    let nowUtc ← asUtc (now.getD utcnow)
    match ← earlySlot publishedAtUtc nowUtc EARLY_SCHEDULE_OFFSETS with
    | some slot => pure (some slot)
    | none =>
      let firstMonthlySlot ← addMonths publishedAtUtc 1
      if nowUtc < firstMonthlySlot then pure (some ⟨.plus1Month, firstMonthlySlot⟩)
      else
        let monthCount := max 1 (calendarMonthDelta publishedAtUtc nowUtc)
        let monthlySlot ← monthlySlotFrom publishedAtUtc nowUtc monthCount
        pure (some ⟨.monthly, monthlySlot⟩)

def earlyLabel (publishedAt scheduledFor : Int) :
    List (SourceEngagementScheduleLabel × Int) →
      Except RangeError (Option SourceEngagementScheduleLabel)
  | [] => .ok none
  | (label, offset) :: rest => do
    if (← plus publishedAt offset) = scheduledFor then pure (some label)
    else earlyLabel publishedAt scheduledFor rest

def sourceEngagementScheduleLabelFor (publishedAt scheduledFor : Option Datetime) :
    Except RangeError (Option SourceEngagementScheduleLabel) :=
  match publishedAt, scheduledFor with
  | some publishedAt, some scheduledFor => do
    let publishedAtUtc ← asUtc publishedAt
    let scheduledForUtc ← asUtc scheduledFor
    match ← earlyLabel publishedAtUtc scheduledForUtc EARLY_SCHEDULE_OFFSETS with
    | some label => pure (some label)
    | none =>
      let firstMonthlySlot ← addMonths publishedAtUtc 1
      if firstMonthlySlot = scheduledForUtc then pure (some .plus1Month)
      else
        let monthCount := max 1 (calendarMonthDelta publishedAtUtc scheduledForUtc)
        if monthCount ≤ 1 then pure none
        else if (← addMonths publishedAtUtc monthCount) = scheduledForUtc then
          pure (some .monthly)
        else pure none
  | _, _ => .ok none

def schedule (publishedAt : Int) : Set Int :=
  {t | (∃ entry ∈ EARLY_SCHEDULE_OFFSETS, t = publishedAt + entry.2) ∨
    ∃ monthCount, 1 ≤ monthCount ∧ IsMonthsAfter publishedAt monthCount t}

section Search

variable {publishedAt now t : Int} {entries : List (SourceEngagementScheduleLabel × Int)}

theorem isDatetime_of_between {low high : Int} (hlow : IsDatetime low) (hhigh : IsDatetime high)
    (hle : low ≤ t) (hge : t ≤ high) : IsDatetime t :=
  ⟨hlow.1.trans (year_mono hle), (year_mono hge).trans hhigh.2⟩

theorem earlySlot_cases (hpublished : IsDatetime publishedAt) (hnow : IsDatetime now)
    (hsorted : entries.Pairwise fun first second => first.2 ≤ second.2)
    (hpos : ∀ entry ∈ entries, 0 ≤ entry.2) :
    ((∀ entry ∈ entries, publishedAt + entry.2 ≤ now) ∧
      earlySlot publishedAt now entries = .ok none) ∨
    ∃ entry ∈ entries, now < publishedAt + entry.2 ∧
      (∀ other ∈ entries, now < publishedAt + other.2 → entry.2 ≤ other.2) ∧
      earlySlot publishedAt now entries =
        if IsDatetime (publishedAt + entry.2) then .ok (some ⟨entry.1, publishedAt + entry.2⟩)
        else .error .overflow := by
  induction entries with
  | nil => exact .inl ⟨fun _ h => (List.not_mem_nil h).elim, rfl⟩
  | cons entry entries ih =>
    obtain ⟨label, offset⟩ := entry
    obtain ⟨hfirst, hrest⟩ := List.pairwise_cons.mp hsorted
    by_cases hlater : now < publishedAt + offset
    · refine .inr ⟨(label, offset), List.mem_cons_self, hlater, ?_, ?_⟩
      · intro other hother _
        rcases List.mem_cons.mp hother with rfl | hother
        · exact le_refl _
        · exact hfirst other hother
      · rw [earlySlot, plus]
        dsimp only
        split
        · simp [hlater, pure, Except.pure, bind, Except.bind]
        · rfl
    · have hle := not_lt.mp hlater
      have hin : IsDatetime (publishedAt + offset) := by
        have hnonneg : (0 : Int) ≤ offset := hpos _ List.mem_cons_self
        exact isDatetime_of_between hpublished hnow (by omega) hle
      have hstep : earlySlot publishedAt now ((label, offset) :: entries) =
          earlySlot publishedAt now entries := by
        rw [earlySlot, plus, if_pos hin]
        simp [hlater, bind, Except.bind]
      rw [hstep]
      rcases ih hrest fun other hother => hpos other (List.mem_cons_of_mem _ hother) with
        ⟨hall, hnone⟩ | ⟨found, hfound, hfoundLater, hleast, hslot⟩
      · refine .inl ⟨fun other hother => ?_, hnone⟩
        rcases List.mem_cons.mp hother with rfl | hother
        · exact hle
        · exact hall other hother
      refine .inr ⟨found, List.mem_cons_of_mem _ hfound, hfoundLater, ?_, hslot⟩
      intro other hother hotherLater
      rcases List.mem_cons.mp hother with rfl | hother
      · exact absurd hotherLater hlater
      · exact hleast other hother hotherLater

variable {entry : SourceEngagementScheduleLabel × Int}

theorem earlyLabel_of_mem (hpublished : IsDatetime publishedAt)
    (hsorted : entries.Pairwise fun first second => first.2 < second.2)
    (hpos : ∀ entry ∈ entries, 0 ≤ entry.2)
    (hentry : entry ∈ entries) (hin : IsDatetime (publishedAt + entry.2)) :
    earlyLabel publishedAt (publishedAt + entry.2) entries = .ok (some entry.1) := by
  induction entries with
  | nil => exact (List.not_mem_nil hentry).elim
  | cons first entries ih =>
    obtain ⟨label, offset⟩ := first
    obtain ⟨hfirst, hrest⟩ := List.pairwise_cons.mp hsorted
    rcases List.mem_cons.mp hentry with rfl | hmem
    · rw [earlyLabel, plus, if_pos hin]
      simp [bind, Except.bind, pure, Except.pure]
    have hlt : offset < entry.2 := hfirst entry hmem
    have hnonneg : (0 : Int) ≤ offset := hpos _ List.mem_cons_self
    have hearlier : IsDatetime (publishedAt + offset) :=
      isDatetime_of_between hpublished hin (by omega) (by omega)
    have hne : ¬ offset = entry.2 := hlt.ne
    rw [earlyLabel, plus, if_pos hearlier]
    simp only [bind, Except.bind, Int.add_right_inj, hne, if_false]
    exact ih hrest (fun other hother => hpos other (List.mem_cons_of_mem _ hother)) hmem

theorem earlyLabel_eq_none (hpublished : IsDatetime publishedAt) (ht : IsDatetime t)
    (hpos : ∀ entry ∈ entries, 0 ≤ entry.2) (hlater : ∀ entry ∈ entries, publishedAt + entry.2 < t) :
    earlyLabel publishedAt t entries = .ok none := by
  induction entries with
  | nil => rfl
  | cons first entries ih =>
    obtain ⟨label, offset⟩ := first
    have hlt : publishedAt + offset < t := hlater _ List.mem_cons_self
    have hnonneg : (0 : Int) ≤ offset := hpos _ List.mem_cons_self
    have hin : IsDatetime (publishedAt + offset) :=
      isDatetime_of_between hpublished ht (by omega) hlt.le
    rw [earlyLabel, plus, if_pos hin]
    simp only [bind, Except.bind, hlt.ne, if_false]
    exact ih (fun other hother => hpos other (List.mem_cons_of_mem _ hother))
      fun other hother => hlater other (List.mem_cons_of_mem _ hother)

theorem monthlySlotFrom_eq (hpublished : IsDatetime publishedAt) (hnow : IsDatetime now)
    (hcount : 1 ≤ monthCount) (found : Nat)
    (hbefore : ∀ earlier : Nat, earlier < found →
      monthsAfter publishedAt (monthCount + earlier) ≤ now)
    (hlater : now < monthsAfter publishedAt (monthCount + found)) :
    monthlySlotFrom publishedAt now monthCount =
      addMonths publishedAt (monthCount + found) := by
  induction found generalizing monthCount with
  | zero =>
    rw [Nat.cast_zero, Int.add_zero] at hlater ⊢
    rw [monthlySlotFrom]
    split
    · next failure hfailure => exact hfailure.symm
    · next monthlySlot hslot =>
      rw [(addMonths_eq_ok hslot).1, if_neg (not_le.mpr hlater), ← (addMonths_eq_ok hslot).1, hslot]
  | succ found ih =>
    have hfirst : monthsAfter publishedAt monthCount ≤ now := by
      have hzero := hbefore 0 (Nat.succ_pos _)
      rwa [Nat.cast_zero, Int.add_zero] at hzero
    have hweeks := @add_weeks_le_monthsAfter publishedAt monthCount hcount
    have hin : IsDatetime (monthsAfter publishedAt monthCount) :=
      isDatetime_of_between hpublished hnow (by rw [ticksPerDay] at hweeks; omega) hfirst
    have hnext : monthCount + ((found + 1 : Nat) : Int) = monthCount + 1 + (found : Int) := by
      push_cast
      ring
    have hstep : monthlySlotFrom publishedAt now monthCount =
        monthlySlotFrom publishedAt now (monthCount + 1) := by
      rw [monthlySlotFrom]
      split
      · next failure hfailure =>
        rw [addMonths_of_isDatetime hin] at hfailure
        cases hfailure
      · next monthlySlot hslot =>
        rw [(addMonths_eq_ok hslot).1, if_pos hfirst]
    rw [hnext] at hlater ⊢
    rw [hstep]
    refine ih (by omega) (fun earlier hearlier => ?_) hlater
    have hlast := hbefore (earlier + 1) (Nat.succ_lt_succ hearlier)
    have hplace : monthCount + ((earlier + 1 : Nat) : Int) = monthCount + 1 + (earlier : Int) := by
      push_cast
      ring
    rwa [hplace] at hlast

theorem calendarMonthDelta_eq (start finish : Int) :
    calendarMonthDelta start finish = monthIndex finish - monthIndex start := by
  rw [calendarMonthDelta, year, year, month, month]
  omega

theorem early_bounds : ∀ entry ∈ EARLY_SCHEDULE_OFFSETS,
    0 ≤ entry.2 ∧ entry.2 ≤ 7 * ticksPerDay := by decide

theorem early_sorted :
    EARLY_SCHEDULE_OFFSETS.Pairwise fun first second => first.2 < second.2 := by decide

theorem early_lt_monthsAfter (hcount : 1 ≤ monthCount) (h : entry ∈ EARLY_SCHEDULE_OFFSETS) :
    publishedAt + entry.2 < monthsAfter publishedAt monthCount := by
  have hbound := (early_bounds entry h).2
  have hweeks := @add_weeks_le_monthsAfter publishedAt monthCount hcount
  rw [ticksPerDay] at *
  omega

theorem exists_least_month (hfirst : monthsAfter publishedAt 1 ≤ now) :
    ∃ found : Nat, found ≤ 1 ∧ 2 ≤ max 1 (calendarMonthDelta publishedAt now) + found ∧
      (∀ earlier : Nat, earlier < found →
        monthsAfter publishedAt (max 1 (calendarMonthDelta publishedAt now) + earlier) ≤ now) ∧
      now < monthsAfter publishedAt (max 1 (calendarMonthDelta publishedAt now) + found) ∧
      ∀ monthCount, now < monthsAfter publishedAt monthCount →
        max 1 (calendarMonthDelta publishedAt now) + found ≤ monthCount := by
  have hmonths := monthIndex_mono hfirst
  rw [monthIndex_monthsAfter] at hmonths
  have hcount : max 1 (calendarMonthDelta publishedAt now) =
      monthIndex now - monthIndex publishedAt := by
    rw [calendarMonthDelta_eq]
    omega
  have hleast : ∀ monthCount, now < monthsAfter publishedAt monthCount →
      monthIndex now - monthIndex publishedAt ≤ monthCount := by
    intro monthCount hlater
    have hle := monthIndex_mono hlater.le
    rw [monthIndex_monthsAfter] at hle
    omega
  rw [hcount]
  by_cases hlater : now < monthsAfter publishedAt (monthIndex now - monthIndex publishedAt)
  · refine ⟨0, Nat.zero_le _, ?_, fun _ h => absurd h (Nat.not_lt_zero _), ?_, ?_⟩
    · have hne : monthIndex now - monthIndex publishedAt ≠ 1 := by
        intro hone
        rw [hone] at hlater
        omega
      simp only [Nat.cast_zero]
      omega
    · simpa using hlater
    · simpa using hleast
  · refine ⟨1, le_refl _, ?_, ?_, ?_, ?_⟩
    · simp only [Nat.cast_one]
      omega
    · intro earlier hearlier
      rw [Nat.lt_one_iff.mp hearlier, Nat.cast_zero, Int.add_zero]
      exact not_lt.mp hlater
    · apply lt_of_monthIndex_lt
      rw [monthIndex_monthsAfter, Nat.cast_one]
      omega
    · intro monthCount hmonth
      have hle := hleast monthCount hmonth
      have hne : monthCount ≠ monthIndex now - monthIndex publishedAt := by
        rintro rfl
        exact hlater hmonth
      rw [Nat.cast_one]
      omega

structure IsNextSlot (publishedAt now t : Int) : Prop where
  mem : t ∈ schedule publishedAt
  later : now < t
  least : ∀ u ∈ schedule publishedAt, now < u → t ≤ u

theorem isNextSlot_early (hentry : entry ∈ EARLY_SCHEDULE_OFFSETS)
    (hlater : now < publishedAt + entry.2)
    (hleast : ∀ other ∈ EARLY_SCHEDULE_OFFSETS, now < publishedAt + other.2 → entry.2 ≤ other.2) :
    IsNextSlot publishedAt now (publishedAt + entry.2) where
  mem := .inl ⟨entry, hentry, rfl⟩
  later := hlater
  least u hu hnow := by
    rcases hu with ⟨other, hother, rfl⟩ | ⟨monthCount, hcount, hmonths⟩
    · have hle := hleast other hother hnow
      omega
    · rw [isMonthsAfter_iff.mp hmonths]
      exact (early_lt_monthsAfter hcount hentry).le

theorem isNextSlot_month (hcount : 1 ≤ monthCount)
    (hearly : ∀ entry ∈ EARLY_SCHEDULE_OFFSETS, publishedAt + entry.2 ≤ now)
    (hlater : now < monthsAfter publishedAt monthCount)
    (hleast : ∀ other, 1 ≤ other → now < monthsAfter publishedAt other → monthCount ≤ other) :
    IsNextSlot publishedAt now (monthsAfter publishedAt monthCount) where
  mem := .inr ⟨monthCount, hcount, isMonthsAfter_monthsAfter _ _⟩
  later := hlater
  least u hu hnow := by
    rcases hu with ⟨other, hother, rfl⟩ | ⟨other, hother, hmonths⟩
    · exact absurd hnow (not_lt.mpr (hearly other hother))
    · rw [isMonthsAfter_iff.mp hmonths] at hnow ⊢
      exact monthsAfter_le (hleast other hother hnow)

variable {published scheduled nowValue utcnow : Datetime}

theorem isDatetime_asUtc (h : asUtc published = .ok publishedAt) : IsDatetime publishedAt := by
  unfold asUtc at h
  split at h
  · cases h
    exact published.isDatetime
  split at h
  · next hin =>
    cases h
    exact hin
  · cases h

variable {entry : SourceEngagementScheduleLabel × Int}

theorem labelFor_early (hpublished : asUtc published = .ok publishedAt)
    (hentry : entry ∈ EARLY_SCHEDULE_OFFSETS)
    (hscheduled : asUtc scheduled = .ok (publishedAt + entry.2)) :
    sourceEngagementScheduleLabelFor (some published) (some scheduled) = .ok (some entry.1) := by
  have hlabel := earlyLabel_of_mem (isDatetime_asUtc hpublished) early_sorted
    (fun other hother => (early_bounds other hother).1) hentry (isDatetime_asUtc hscheduled)
  simp only [sourceEngagementScheduleLabelFor, hpublished, hscheduled, bind, Except.bind, hlabel]
  rfl

theorem labelFor_month (hpublished : asUtc published = .ok publishedAt)
    (hcount : 1 ≤ monthCount)
    (hscheduled : asUtc scheduled = .ok (monthsAfter publishedAt monthCount)) :
    sourceEngagementScheduleLabelFor (some published) (some scheduled) =
      .ok (some (if monthCount = 1 then .plus1Month else .monthly)) := by
  have hstart := isDatetime_asUtc hpublished
  have hin := isDatetime_asUtc hscheduled
  have hlabel := earlyLabel_eq_none hstart hin (fun entry hentry => (early_bounds entry hentry).1)
    fun entry hentry => early_lt_monthsAfter hcount hentry
  have hweeks := @add_weeks_le_monthsAfter publishedAt 1 (le_refl _)
  have hfirst : addMonths publishedAt 1 = .ok (monthsAfter publishedAt 1) :=
    addMonths_of_isDatetime (isDatetime_of_between hstart hin
      (by rw [ticksPerDay] at hweeks; omega) (monthsAfter_le hcount))
  simp only [sourceEngagementScheduleLabelFor, hpublished, hscheduled, bind, Except.bind, hlabel,
    hfirst]
  by_cases hone : monthCount = 1
  · rw [hone, if_pos rfl, if_pos rfl]
    rfl
  have hlt : monthsAfter publishedAt 1 < monthsAfter publishedAt monthCount :=
    monthsAfter_lt (by omega)
  have hdelta : max 1 (calendarMonthDelta publishedAt (monthsAfter publishedAt monthCount)) =
      monthCount := by
    rw [calendarMonthDelta_eq, monthIndex_monthsAfter]
    omega
  have hlarge : ¬ monthCount ≤ 1 := by omega
  rw [if_neg hlt.ne, if_neg hone]
  simp only [hdelta, hlarge, if_false, addMonths_of_isDatetime hin, if_true]
  rfl

/-- The slot is the first one after the moment, and it is found and labelled if it is a date. -/
structure Finds (published : Datetime) (now : Option Datetime) (utcnow : Datetime)
    (publishedAt nowAt : Int) (slot : ScheduleSlot) : Prop where
  next : IsNextSlot publishedAt nowAt slot.scheduledFor
  found : IsDatetime slot.scheduledFor →
    nextSourceEngagementScheduleSlot (some published) now utcnow = .ok (some slot)
  labelled : ∀ scheduled, asUtc scheduled = .ok slot.scheduledFor →
    sourceEngagementScheduleLabelFor (some published) (some scheduled) = .ok (some slot.label)
  raises : ¬ IsDatetime slot.scheduledFor →
    ∃ failure, nextSourceEngagementScheduleSlot (some published) now utcnow = .error failure

theorem nextSlot_of_early_error {failure : RangeError} (hpublished : asUtc published = .ok publishedAt)
    (hnow : asUtc nowValue = .ok now)
    (hearly : earlySlot publishedAt now EARLY_SCHEDULE_OFFSETS = .error failure) :
    nextSourceEngagementScheduleSlot (some published) (some nowValue) utcnow = .error failure := by
  simp only [nextSourceEngagementScheduleSlot, Option.getD_some, hpublished, hnow, bind,
    Except.bind, hearly]

theorem exists_finds (hpublished : asUtc published = .ok publishedAt)
    (hnow : asUtc nowValue = .ok now) :
    ∃ slot, Finds published (some nowValue) utcnow publishedAt now slot := by
  have hstart := isDatetime_asUtc hpublished
  have hend := isDatetime_asUtc hnow
  rcases earlySlot_cases hstart hend (early_sorted.imp le_of_lt)
      (fun entry hentry => (early_bounds entry hentry).1) with
    ⟨hearly, hnone⟩ | ⟨entry, hentry, hlater, hleast, hslot⟩
  · by_cases hfirst : now < monthsAfter publishedAt 1
    · refine ⟨⟨.plus1Month, monthsAfter publishedAt 1⟩, ?_, fun hin => ?_, ?_, fun hout => ?_⟩
      · exact isNextSlot_month (le_refl _) hearly hfirst fun _ hother _ => hother
      · simp only [nextSourceEngagementScheduleSlot, Option.getD_some, hpublished, hnow, bind,
          Except.bind, hnone, addMonths_of_isDatetime hin, hfirst, if_true]
        rfl
      · exact fun scheduled hscheduled => labelFor_month hpublished (le_refl _) hscheduled
      · simp only [nextSourceEngagementScheduleSlot, Option.getD_some, hpublished, hnow, bind,
          Except.bind, hnone, addMonths_of_not_isDatetime hout]
        exact ⟨_, rfl⟩
    · have hpassed := not_lt.mp hfirst
      have hweeks := @add_weeks_le_monthsAfter publishedAt 1 (le_refl _)
      have hin : IsDatetime (monthsAfter publishedAt 1) :=
        isDatetime_of_between hstart hend (by rw [ticksPerDay] at hweeks; omega) hpassed
      obtain ⟨found, -, htwo, hbefore, hlater, hleast⟩ := exists_least_month hpassed
      have hone : 1 ≤ max 1 (calendarMonthDelta publishedAt now) := le_max_left _ _
      have hloop := monthlySlotFrom_eq hstart hend hone found hbefore hlater
      generalize hcount : max 1 (calendarMonthDelta publishedAt now) + (found : Int) = count at *
      have hlarge : ¬ count = 1 := by omega
      refine ⟨⟨.monthly, monthsAfter publishedAt count⟩, ?_, fun hlast => ?_, ?_, fun hout => ?_⟩
      · exact isNextSlot_month (by omega) hearly hlater fun other _ => hleast other
      · simp only [nextSourceEngagementScheduleSlot, Option.getD_some, hpublished, hnow, bind,
          Except.bind, hnone, addMonths_of_isDatetime hin, hfirst, if_false, hloop,
          addMonths_of_isDatetime hlast]
        rfl
      · intro scheduled hscheduled
        rw [labelFor_month hpublished (by omega) hscheduled, if_neg hlarge]
      simp only [nextSourceEngagementScheduleSlot, Option.getD_some, hpublished, hnow, bind,
        Except.bind, hnone, addMonths_of_isDatetime hin, hfirst, if_false, hloop,
        addMonths_of_not_isDatetime hout]
      exact ⟨_, rfl⟩
  · refine ⟨⟨entry.1, publishedAt + entry.2⟩, ?_, fun hin => ?_, ?_, fun hout => ?_⟩
    · exact isNextSlot_early hentry hlater hleast
    · rw [if_pos hin] at hslot
      simp only [nextSourceEngagementScheduleSlot, Option.getD_some, hpublished, hnow, bind,
        Except.bind, hslot]
      rfl
    · exact fun scheduled hscheduled => labelFor_early hpublished hentry hscheduled
    · rw [if_neg hout] at hslot
      exact ⟨_, nextSlot_of_early_error hpublished hnow hslot⟩

/-- For dates that are dates in universal time too. The others raise. -/
theorem nextSlot_found_and_labelled (published nowValue utcnow : Datetime) :
    match asUtc published, asUtc nowValue with
    | .ok publishedAt, .ok now => ∃ slot, Finds published (some nowValue) utcnow publishedAt now slot
    | _, _ => ∃ failure,
        nextSourceEngagementScheduleSlot (some published) (some nowValue) utcnow =
          .error failure := by
  cases hpublished : asUtc published with
  | error failure =>
    exact ⟨failure, by
      simp only [nextSourceEngagementScheduleSlot, hpublished, bind, Except.bind]⟩
  | ok publishedAt =>
    cases hnow : asUtc nowValue with
    | error failure =>
      exact ⟨failure, by
        simp only [nextSourceEngagementScheduleSlot, Option.getD_some, hpublished, hnow, bind,
          Except.bind]⟩
    | ok now => exact exists_finds hpublished hnow

theorem year_eq_of_fields {index day time : Int} (hday : 1 ≤ day ∧ day ≤ lengthOf index)
    (htime : 0 ≤ time ∧ time < ticksPerDay)
    (h : t = (Periods.daysBefore index + (day - 1)) * ticksPerDay + time) :
    year t = 1970 + index / 12 := by
  rw [year, (fields_of_eq hday htime h).1]

def lastHalfHour : Datetime where
  wall := 253402299000000000
  utcoffset := some 0
  isDatetime := by
    have hyear : year 253402299000000000 = 1970 + 96359 / 12 :=
      @year_eq_of_fields _ 96359 31 84600000000 (by decide) (by decide) (by decide +kernel)
    rw [IsDatetime, hyear]
    decide
  lt_day := by simp [ticksPerDay]

theorem nextSlot_raises_at_last :
    ¬ ∀ published now utcnow : Datetime, published.IsAware → now.IsAware →
      ∃ slot, nextSourceEngagementScheduleSlot (some published) (some now) utcnow =
        .ok (some slot) := by
  intro h
  obtain ⟨slot, hslot⟩ := h lastHalfHour lastHalfHour lastHalfHour rfl rfl
  have hyear : year (253402299000000000 + ticksPerHour) = 1970 + 96360 / 12 :=
    @year_eq_of_fields _ 96360 1 1800000000 (by decide) (by decide) (by decide +kernel)
  have hout : ¬ IsDatetime (253402299000000000 + ticksPerHour) := by
    rw [IsDatetime, hyear]
    decide
  have hutc : asUtc lastHalfHour = .ok 253402299000000000 := by
    have hin : IsDatetime 253402299000000000 := lastHalfHour.isDatetime
    simp only [asUtc, lastHalfHour, Int.sub_zero]
    rw [if_pos hin]
  have hfirst : earlySlot 253402299000000000 253402299000000000 EARLY_SCHEDULE_OFFSETS =
      .error .overflow := by
    rw [EARLY_SCHEDULE_OFFSETS, earlySlot, plus, if_neg hout]
    rfl
  rw [nextSlot_of_early_error hutc hutc hfirst] at hslot
  cases hslot

end Search

end Services.EngagementSchedule

end MemeExpert
