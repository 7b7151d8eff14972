import ContentQuery.Time.Calendar

/-!
# Order of dates

A later day has a later date. The proof follows the conversion: eras of 400 years, the years of an
era, which begin in March, and the months of a year. At each level later days lie in later parts or
further on in the same part.
-/

namespace ContentQuery

namespace CivilDate

/-- Dates compare like these numbers as long as months and days of the month are in range. -/
def rank (date : CivilDate) : Int :=
  31 * (12 * date.year + date.month) + date.day

/-- The year of an era in which a day of the era lies. -/
def yearOfEra (dayOfEra : Int) : Int :=
  (dayOfEra - dayOfEra / 1460 + dayOfEra / 36524 - dayOfEra / 146096) / 365

/-- The days of an era before one of its years. -/
def daysBefore (year : Int) : Int :=
  365 * year + year / 4 - year / 100

def dayOfYear (dayOfEra : Int) : Int :=
  dayOfEra - daysBefore (yearOfEra dayOfEra)

def monthFromMarch (dayOfYear : Int) : Int :=
  (5 * dayOfYear + 2) / 153

/-! ### Years of an era -/

section Era

variable {century leapCycle year day dayOfEra later : Int}

/-- The parts of a day of an era: a century of the era, a cycle of four years in it, a year of the
cycle, and a day of that year. The last day of a leap year is the last one of its cycle, and the
last cycle of a century has no such day, except in the last century. -/
structure IsDayOf (century leapCycle year day dayOfEra : Int) : Prop where
  century_mem : 0 ≤ century ∧ century ≤ 3
  leapCycle_mem : 0 ≤ leapCycle ∧ leapCycle ≤ 24
  year_mem : 0 ≤ year ∧ year ≤ 3
  day_mem : 0 ≤ day ∧ day ≤ 365
  leapDay : day = 365 → year = 3 ∧ (leapCycle < 24 ∨ century = 3)
  whole : dayOfEra = 36524 * century + 1461 * leapCycle + 365 * year + day

theorem exists_isDayOf (inEra : 0 ≤ dayOfEra ∧ dayOfEra < 146097) :
    ∃ century leapCycle year day, IsDayOf century leapCycle year day dayOfEra := by
  -- the last century, and the last year of a cycle, are the ones that have a day more
  let century := min (dayOfEra / 36524) 3
  let dayOfCentury := dayOfEra - 36524 * century
  let dayOfCycle := dayOfCentury % 1461
  let year := min (dayOfCycle / 365) 3
  refine ⟨century, dayOfCentury / 1461, year, dayOfCycle - 365 * year, ?_, ?_, ?_, ?_, ?_, ?_⟩ <;>
    omega

theorem IsDayOf.yearOfEra_eq (parts : IsDayOf century leapCycle year day dayOfEra) :
    yearOfEra dayOfEra = 100 * century + 4 * leapCycle + year := by
  rcases parts with ⟨centuryMem, cycleMem, yearMem, dayMem, leapDay, rfl⟩
  -- each quotient counts the leap days so far, up to the one that ends the present cycle
  have cycles : (36524 * century + 1461 * leapCycle + 365 * year + day) / 1460 =
      25 * century + leapCycle + (24 * century + leapCycle + 365 * year + day) / 1460 := by
    omega
  have centuries : (36524 * century + 1461 * leapCycle + 365 * year + day) / 36524 =
      century + (1461 * leapCycle + 365 * year + day) / 36524 := by
    omega
  have eras : (36524 * century + 1461 * leapCycle + 365 * year + day) / 146096 = 0 ∨
      century = 3 ∧ leapCycle = 24 ∧ year = 3 ∧ day = 365 := by
    omega
  rw [yearOfEra, cycles, centuries]
  omega

theorem IsDayOf.dayOfYear_eq (parts : IsDayOf century leapCycle year day dayOfEra) :
    dayOfYear dayOfEra = day := by
  rw [dayOfYear, parts.yearOfEra_eq, daysBefore]
  rcases parts with ⟨centuryMem, cycleMem, yearMem, dayMem, leapDay, rfl⟩
  omega

theorem yearOfEra_mem (inEra : 0 ≤ dayOfEra ∧ dayOfEra < 146097) :
    0 ≤ yearOfEra dayOfEra ∧ yearOfEra dayOfEra ≤ 399 := by
  rcases exists_isDayOf inEra with ⟨century, leapCycle, year, day, parts⟩
  rw [parts.yearOfEra_eq]
  rcases parts with ⟨centuryMem, cycleMem, yearMem, dayMem, leapDay, rfl⟩
  omega

theorem dayOfYear_mem (inEra : 0 ≤ dayOfEra ∧ dayOfEra < 146097) :
    0 ≤ dayOfYear dayOfEra ∧ dayOfYear dayOfEra ≤ 365 := by
  rcases exists_isDayOf inEra with ⟨century, leapCycle, year, day, parts⟩
  rw [parts.dayOfYear_eq]
  exact parts.day_mem

theorem yearOfEra_mono (notEarlier : dayOfEra ≤ later) : yearOfEra dayOfEra ≤ yearOfEra later := by
  apply Int.ediv_le_ediv (by decide)
  omega

end Era

/-! ### Dates -/

def eraOf (days : Int) : Int :=
  (days + 719468) / 146097

def dayOfEra (days : Int) : Int :=
  (days + 719468) % 146097

def monthOf (days : Int) : Int :=
  monthFromMarch (dayOfYear (dayOfEra days))

theorem dayOfEra_mem (days : Int) : 0 ≤ dayOfEra days ∧ dayOfEra days < 146097 := by
  rw [dayOfEra]
  omega

theorem monthOf_mem (days : Int) : 0 ≤ monthOf days ∧ monthOf days ≤ 11 := by
  have inYear := dayOfYear_mem (dayOfEra_mem days)
  rw [monthOf, monthFromMarch]
  omega

theorem month_ofDays (days : Int) :
    (ofDays days).month = if monthOf days < 10 then monthOf days + 3 else monthOf days - 9 :=
  rfl

theorem year_ofDays (days : Int) :
    (ofDays days).year = 400 * eraOf days + yearOfEra (dayOfEra days) +
      if (ofDays days).month ≤ 2 then 1 else 0 :=
  rfl

theorem day_ofDays (days : Int) :
    (ofDays days).day = dayOfYear (dayOfEra days) - (153 * monthOf days + 2) / 5 + 1 :=
  rfl

theorem month_ofDays_mem (days : Int) : 1 ≤ (ofDays days).month ∧ (ofDays days).month ≤ 12 := by
  have inYear := monthOf_mem days
  rw [month_ofDays]
  split <;> omega

theorem day_ofDays_mem (days : Int) : 1 ≤ (ofDays days).day ∧ (ofDays days).day ≤ 31 := by
  have inYear := dayOfYear_mem (dayOfEra_mem days)
  rw [day_ofDays, monthOf, monthFromMarch]
  omega

/-- Counted on over all years, months are the same whether a year begins in January or in March. -/
theorem months_ofDays (days : Int) :
    12 * (ofDays days).year + (ofDays days).month =
      12 * (400 * eraOf days + yearOfEra (dayOfEra days)) + monthOf days + 3 := by
  have inYear := monthOf_mem days
  rw [year_ofDays, month_ofDays]
  split <;> split <;> omega

/-- A later day has a later date. -/
theorem rank_ofDays_lt {days later : Int} (earlier : days < later) :
    (ofDays days).rank < (ofDays later).rank := by
  have inMonth := day_ofDays_mem days
  have inMonth' := day_ofDays_mem later
  have inYear := monthOf_mem days
  have inYear' := monthOf_mem later
  have inEra := yearOfEra_mem (dayOfEra_mem days)
  have inEra' := yearOfEra_mem (dayOfEra_mem later)
  rw [rank, rank, months_ofDays, months_ofDays]
  have eras : eraOf days < eraOf later ∨
      eraOf days = eraOf later ∧ dayOfEra days < dayOfEra later := by
    simp only [eraOf, dayOfEra]
    omega
  rcases eras with earlierEra | ⟨sameEra, earlierDay⟩
  · omega
  · have years := yearOfEra_mono (Int.le_of_lt earlierDay)
    rcases Int.lt_or_eq_of_le years with earlierYear | sameYear
    · omega
    · have daysOfYear : dayOfYear (dayOfEra days) < dayOfYear (dayOfEra later) := by
        rw [dayOfYear, dayOfYear, sameYear]
        omega
      have months : monthOf days ≤ monthOf later := by
        simp only [monthOf, monthFromMarch]
        omega
      rcases Int.lt_or_eq_of_le months with earlierMonth | sameMonth
      · omega
      · rw [day_ofDays, day_ofDays, sameMonth]
        omega

end CivilDate

end ContentQuery
