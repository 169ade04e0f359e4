import Mathlib.Logic.Function.Iterate
import Mathlib.Tactic.IntervalCases
import PoolArbiter.Output.Clock

/-!
# The calendar

The date of a day is the first of January 1970, moved on by as many days as have passed
(`date_eq_iterate`). `nextDay` moves on by one day as the calendar has it, with the lengths of
the months and the leap years written out. `date` does not know them: it counts years from March
in eras of four centuries. `Place` is a day in such an era, and moving on by one day is adding
one to it, with a carry from the days into the years, the cycles of four years, the centuries
and the eras.
-/

namespace PoolArbiter.Clock

/-- Every fourth year is a leap year, but of the full centuries only every fourth. -/
def IsLeap (year : Nat) : Prop :=
  year % 4 = 0 ∧ (year % 100 = 0 → year % 400 = 0)

instance (year : Nat) : Decidable (IsLeap year) :=
  inferInstanceAs (Decidable (_ ∧ _))

/-- The number of days of a month. -/
def monthLength (year month : Nat) : Nat :=
  if month = 2 then if IsLeap year then 29 else 28
  else if month = 4 ∨ month = 6 ∨ month = 9 ∨ month = 11 then 30
  else 31

/-- The date of the following day. -/
def nextDay : Nat × Nat × Nat → Nat × Nat × Nat
  | (year, month, day) =>
      if day < monthLength year month then (year, month, day + 1)
      else if month < 12 then (year, month + 1, 1)
      else (year + 1, 1, 1)

section Years

/-- The number of days of a year that starts in March. It ends with the February of the next
year. -/
def yearLength (year : Nat) : Nat :=
  if IsLeap (year + 1) then 366 else 365

/-- A year has at most a leap day more than 365. -/
theorem yearLength_le (year : Nat) : yearLength year ≤ 366 := by
  unfold yearLength
  split <;> omega

/-- A year has 365 days at least. -/
theorem le_yearLength (year : Nat) : 365 ≤ yearLength year := by
  unfold yearLength
  split <;> omega

/-- The number of days between the start of a year in March and one of its months. -/
def monthStart (month : Nat) : Nat :=
  (153 * month + 2) / 5

/-- The number of days of a year before its next month. -/
def monthEnd (year month : Nat) : Nat :=
  if month = 11 then yearLength year else monthStart (month + 1)

/-- The date of a day in a month counted from March. -/
def inMonth (year month day : Nat) : Nat × Nat × Nat :=
  let fromJanuary := if month < 10 then month + 3 else month - 9
  (year + if fromJanuary ≤ 2 then 1 else 0, fromJanuary, day + 1)

/-- The date of a place in a year that starts in March. -/
def fromMarch (year day : Nat) : Nat × Nat × Nat :=
  let month := (5 * day + 2) / 153
  inMonth year month (day - monthStart month)

variable {year month day : Nat}

/-- The months from March have the lengths of the calendar. -/
theorem monthLength_inMonth (within : month ≤ 11) :
    monthStart month + monthLength (inMonth year month day).1 (inMonth year month day).2.1 =
      monthEnd year month := by
  rcases Nat.lt_or_eq_of_le within with inYear | rfl
  · interval_cases month <;> rfl
  · have february : monthLength (year + 1) 2 = if IsLeap (year + 1) then 29 else 28 := rfl
    change 337 + monthLength (year + 1) 2 = yearLength year
    rw [february, yearLength]
    split <;> rfl

/-- Within a month the calendar goes on by a day. -/
theorem nextDay_inMonth (within : month ≤ 11)
    (inside : monthStart month + day + 1 < monthEnd year month) :
    nextDay (inMonth year month day) = inMonth year month (day + 1) := by
  have length := @monthLength_inMonth year month day within
  have before : day + 1 < monthLength (inMonth year month day).1 (inMonth year month day).2.1 := by
    omega
  exact if_pos before

/-- The last day of a month is followed by the first day of the next one. -/
theorem nextDay_inMonth_last (within : month ≤ 11)
    (last : monthStart month + day + 1 = monthEnd year month) :
    nextDay (inMonth year month day) =
      if month = 11 then inMonth (year + 1) 0 0 else inMonth year (month + 1) 0 := by
  have length := @monthLength_inMonth year month day within
  have ended : ¬ day + 1 < monthLength (inMonth year month day).1 (inMonth year month day).2.1 := by
    omega
  refine (if_neg ended).trans ?_
  interval_cases month <;> rfl

/-- The months of a year follow one another. -/
theorem fromMarch_eq (inside : monthStart month + day < monthEnd year month) :
    fromMarch year (monthStart month + day) = inMonth year month day := by
  have atMost := yearLength_le year
  have same : (5 * (monthStart month + day) + 2) / 153 = month := by
    unfold monthEnd monthStart at inside
    unfold monthStart
    split at inside <;> omega
  unfold fromMarch
  dsimp only
  rw [same, Nat.add_sub_cancel_left]

/-- Every place in a year lies in one of its months. -/
theorem exists_month (inside : day < yearLength year) :
    ∃ month ofMonth, month ≤ 11 ∧ day = monthStart month + ofMonth ∧
      day < monthEnd year month := by
  refine ⟨(5 * day + 2) / 153, day - monthStart ((5 * day + 2) / 153), ?_⟩
  have atMost := yearLength_le year
  unfold monthEnd monthStart
  split <;> omega

/-- Within a year from March the calendar goes on by a day, and at its end it starts over. -/
theorem nextDay_fromMarch (inside : day < yearLength year) :
    nextDay (fromMarch year day) =
      if day + 1 = yearLength year then fromMarch (year + 1) 0 else fromMarch year (day + 1) := by
  obtain ⟨month, ofMonth, within, rfl, inMonth⟩ := exists_month inside
  rw [fromMarch_eq inMonth]
  have atLeast := le_yearLength year
  have next : monthStart month + ofMonth + 1 < monthEnd year month ∨
      monthStart month + ofMonth + 1 = monthEnd year month :=
    Nat.lt_or_eq_of_le (Nat.succ_le_of_lt inMonth)
  rcases next with goesOn | ends
  · have unfinished : monthStart month + ofMonth + 1 ≠ yearLength year := by
      unfold monthEnd monthStart at goesOn
      unfold monthStart
      split at goesOn <;> omega
    rw [nextDay_inMonth within goesOn, if_neg unfinished, Nat.add_assoc, fromMarch_eq goesOn]
  · rw [nextDay_inMonth_last within ends]
    by_cases february : month = 11
    · subst february
      have full : monthStart 11 + ofMonth + 1 = yearLength year := ends
      rw [if_pos rfl, if_pos full]
      rfl
    · have unfinished : monthStart month + ofMonth + 1 ≠ yearLength year := by
        rw [ends, monthEnd, if_neg february]
        unfold monthStart
        omega
      rw [monthEnd, if_neg february] at ends
      have starts : monthStart (month + 1) + 0 < monthEnd year (month + 1) := by
        unfold monthEnd monthStart
        split <;> omega
      rw [if_neg february, if_neg unfinished]
      exact ((congrArg (fromMarch year) ends).trans (fromMarch_eq starts)).symm

end Years

/-- A day in an era: its century, the cycle of four years in the century, the year in the cycle
and the day in the year. -/
structure Place where
  era : Nat
  century : Nat
  cycle : Nat
  year : Nat
  day : Nat

namespace Place

variable {place : Place}

/-- The year from March that the place lies in. -/
def fullYear (place : Place) : Nat :=
  400 * place.era + 100 * place.century + 4 * place.cycle + place.year

/-- The number of days since the start of the first era. -/
def count (place : Place) : Nat :=
  146097 * place.era + 36524 * place.century + 1461 * place.cycle + 365 * place.year + place.day

/-- There are four centuries in an era, 25 cycles in a century and four years in a cycle, and
the day lies in the year. -/
structure Fits (place : Place) : Prop where
  century : place.century < 4
  cycle : place.cycle < 25
  year : place.year < 4
  day : place.day < yearLength place.fullYear

/-- The last year of a cycle is a leap year, unless the cycle is the last one of its century and
the century is not the last one of its era. -/
theorem yearLength_fullYear (century : place.century < 4) (cycle : place.cycle < 25)
    (year : place.year < 4) :
    yearLength place.fullYear =
      if place.year = 3 ∧ (place.cycle < 24 ∨ place.century = 3) then 366 else 365 := by
  have leap : IsLeap (place.fullYear + 1) ↔
      place.year = 3 ∧ (place.cycle < 24 ∨ place.century = 3) := by
    unfold IsLeap fullYear
    omega
  simp only [yearLength, leap]

/-- The place of the next day. -/
def next (place : Place) : Place :=
  if place.day + 1 < yearLength place.fullYear then { place with day := place.day + 1 }
  else if place.year < 3 then { place with year := place.year + 1, day := 0 }
  else if place.cycle < 24 then { place with cycle := place.cycle + 1, year := 0, day := 0 }
  else if place.century < 3 then
    { place with century := place.century + 1, cycle := 0, year := 0, day := 0 }
  else ⟨place.era + 1, 0, 0, 0, 0⟩

/-- Every year has a first day. -/
theorem yearLength_pos (year : Nat) : 0 < yearLength year :=
  Nat.lt_of_lt_of_le (Nat.succ_pos _) (le_yearLength year)

/-- The day after a place has its place, too. -/
theorem Fits.next (fits : place.Fits) : place.next.Fits := by
  obtain ⟨century, cycle, year, day⟩ := fits
  unfold Place.next
  split
  next goesOn => exact ⟨century, cycle, year, goesOn⟩
  split
  next inCycle => exact ⟨century, cycle, Nat.succ_lt_succ inCycle, yearLength_pos _⟩
  split
  next inCentury =>
      exact ⟨century, Nat.succ_lt_succ inCentury, Nat.succ_pos _, yearLength_pos _⟩
  split
  next inEra => exact ⟨Nat.succ_lt_succ inEra, Nat.succ_pos _, Nat.succ_pos _, yearLength_pos _⟩
  next => exact ⟨Nat.succ_pos _, Nat.succ_pos _, Nat.succ_pos _, yearLength_pos _⟩

/-- The carry moves on by one day, so no day is left out and none comes twice. -/
theorem Fits.count_next (fits : place.Fits) : place.next.count = place.count + 1 := by
  obtain ⟨century, cycle, year, day⟩ := fits
  rw [yearLength_fullYear century cycle year] at day
  unfold Place.next
  rw [yearLength_fullYear century cycle year]
  unfold count
  split_ifs at day ⊢ <;> dsimp only <;> omega

/-- The calendar goes on from the date of a place to the date of the next one. -/
theorem Fits.fromMarch_next (fits : place.Fits) :
    fromMarch place.next.fullYear place.next.day =
      nextDay (fromMarch place.fullYear place.day) := by
  obtain ⟨century, cycle, year, day⟩ := fits
  rw [nextDay_fromMarch day]
  unfold Place.next
  by_cases goesOn : place.day + 1 < yearLength place.fullYear
  · rw [if_pos goesOn, if_neg goesOn.ne]
    rfl
  · have last : place.day + 1 = yearLength place.fullYear := by omega
    rw [if_neg goesOn, if_pos last]
    unfold fullYear
    -- Whichever digit takes the carry, the years go on by one and the days start over.
    split_ifs <;> congr 1 <;> dsimp only <;> omega

/-- Every day has a place. -/
theorem exists_count (count : Nat) : ∃ place : Place, place.Fits ∧ place.count = count := by
  induction count with
  | zero => exact ⟨⟨0, 0, 0, 0, 0⟩, ⟨by decide, by decide, by decide, by decide⟩, rfl⟩
  | succ count inductionHypothesis =>
      obtain ⟨place, fits, rfl⟩ := inductionHypothesis
      exact ⟨place.next, fits.next, fits.count_next⟩

/-- The year in the era is found by taking out the leap days. -/
theorem yearOfEra_eq {century cycle year day dayOfEra : Nat} (centuryFits : century < 4)
    (cycleFits : cycle < 25) (yearFits : year < 4)
    (dayFits : day < if year = 3 ∧ (cycle < 24 ∨ century = 3) then 366 else 365)
    (same : dayOfEra = 36524 * century + 1461 * cycle + 365 * year + day) :
    (dayOfEra - dayOfEra / 1460 + dayOfEra / 36524 - dayOfEra / 146096) / 365 =
      100 * century + 4 * cycle + year := by
  have inYear : day ≤ 364 ∨ day = 365 ∧ year = 3 ∧ (cycle < 24 ∨ century = 3) := by
    split at dayFits <;> omega
  have centuries : dayOfEra / 146096 = 0 ∧ dayOfEra / 36524 = century ∨
      dayOfEra = 146096 ∧ century = 3 ∧ cycle = 24 ∧ year = 3 := by
    omega
  have cycles : dayOfEra / 1460 = 25 * century + cycle ∨
      dayOfEra / 1460 = 25 * century + cycle + 1 := by
    omega
  omega

/-- The date of a day is the one of its place. -/
theorem Fits.date_eq {days : Nat} (fits : place.Fits) (same : days + 719468 = place.count) :
    date days = fromMarch place.fullYear place.day := by
  obtain ⟨century, cycle, year, day⟩ := fits
  rw [yearLength_fullYear century cycle year] at day
  unfold count at same
  have inEra : 36524 * place.century + 1461 * place.cycle + 365 * place.year + place.day <
      146097 := by
    split at day <;> omega
  have era : (days + 719468) / 146097 = place.era := by omega
  have dayOfEra : (days + 719468) % 146097 =
      36524 * place.century + 1461 * place.cycle + 365 * place.year + place.day := by omega
  have cycles : (100 * place.century + 4 * place.cycle + place.year) / 4 =
      25 * place.century + place.cycle := by omega
  have centuries : (100 * place.century + 4 * place.cycle + place.year) / 100 =
      place.century := by omega
  have dayOfYear : (days + 719468) % 146097 -
      (365 * (100 * place.century + 4 * place.cycle + place.year) +
        (100 * place.century + 4 * place.cycle + place.year) / 4 -
        (100 * place.century + 4 * place.cycle + place.year) / 100) = place.day := by
    rw [cycles, centuries]
    omega
  have yearOfEra := yearOfEra_eq century cycle year day dayOfEra
  have fullYear : 100 * place.century + 4 * place.cycle + place.year + 400 * place.era =
      place.fullYear := by
    unfold Place.fullYear
    omega
  unfold date
  dsimp only
  rw [era, yearOfEra, dayOfYear, fullYear]
  rfl

end Place

/-- The date moves on as the calendar does. -/
theorem date_succ (days : Nat) : date (days + 1) = nextDay (date days) := by
  obtain ⟨place, fits, same⟩ := Place.exists_count (days + 719468)
  have later : days + 1 + 719468 = place.next.count := by
    have counted := fits.count_next
    omega
  rw [fits.next.date_eq later, fits.date_eq same.symm, fits.fromMarch_next]

/-- The date of a day is the first of January 1970, moved on by as many days as have passed. -/
theorem date_eq_iterate (days : Nat) : date days = nextDay^[days] (1970, 1, 1) := by
  induction days with
  | zero => rfl
  | succ days inductionHypothesis =>
      rw [date_succ, inductionHypothesis, Function.iterate_succ_apply']

/-- The leap day of a full century. -/
example : date 11016 = (2000, 2, 29) := by
  decide

end PoolArbiter.Clock
