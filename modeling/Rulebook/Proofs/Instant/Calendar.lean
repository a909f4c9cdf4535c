import Mathlib.Tactic.IntervalCases
import Rulebook.Instant

namespace Rulebook.Instant

/-- The days from 1970-01-01 to the 1st of March of a year. -/
def marchDay (year : Int) : Int :=
  year * 365 + year / 4 - year / 100 + year / 400 - 719468

theorem marchDay_add_le {a b : Int} (h : a ≤ b) : marchDay a + 365 * (b - a) ≤ marchDay b := by
  have hcentury (year : Int) : year / 4 - year / 100 = 24 * (year / 100) + year % 100 / 4 := by
    omega
  have hleapDays : 24 * (a / 100) + a % 100 / 4 ≤ 24 * (b / 100) + b % 100 / 4 := by
    by_cases hsame : a / 100 = b / 100
    · have hrest : a % 100 ≤ b % 100 := by omega
      omega
    · omega
  have ha := hcentury a
  have hb := hcentury b
  rw [marchDay, marchDay]
  omega

/-- The date of a day counted from the 1st of March of a year. -/
def ofMarch (year day : Int) : Date :=
  let month := (5 * day + 2) / 153
  let calendarMonth := if month < 10 then month + 3 else month - 9
  ⟨year + if calendarMonth ≤ 2 then 1 else 0, calendarMonth.toNat,
    (day - (153 * month + 2) / 5 + 1).toNat⟩

/-- A day in an era of 400 years, by its century, the span of four years in that, the year in that
and the day in the year. Some of them are one day longer than the others, the last ones each. -/
structure Parts (day century span year rest : Int) : Prop where
  day_eq : day = 36524 * century + 1461 * span + 365 * year + rest
  century_range : 0 ≤ century ∧ century ≤ 3
  span_range : 0 ≤ span ∧ span ≤ 24
  year_range : 0 ≤ year ∧ year ≤ 3
  rest_range : 0 ≤ rest ∧ rest ≤ 365
  leap : rest = 365 → year = 3 ∧ (span ≠ 24 ∨ century = 3)

theorem exists_parts {day : Int} (h : 0 ≤ day ∧ day < 146097) :
    ∃ century span year rest, Parts day century span year rest := by
  obtain ⟨century, inCentury, hday, hcentury, hinCentury⟩ : ∃ century inCentury : Int,
      day = 36524 * century + inCentury ∧ (0 ≤ century ∧ century ≤ 3) ∧
        0 ≤ inCentury ∧ (inCentury ≤ 36523 ∨ inCentury = 36524 ∧ century = 3) := by
    by_cases hlast : day = 146096
    · exact ⟨3, 36524, by omega, by omega, by omega⟩
    · exact ⟨day / 36524, day % 36524, by omega, by omega, by omega⟩
  obtain ⟨span, inSpan, hspan, hinSpan⟩ : ∃ span inSpan : Int,
      inCentury = 1461 * span + inSpan ∧ 0 ≤ inSpan ∧ inSpan ≤ 1460 :=
    ⟨inCentury / 1461, inCentury % 1461, by omega, by omega⟩
  obtain ⟨year, rest, hyear, hyears, hrest⟩ : ∃ year rest : Int,
      inSpan = 365 * year + rest ∧ (0 ≤ year ∧ year ≤ 3) ∧
        0 ≤ rest ∧ (rest ≤ 364 ∨ rest = 365 ∧ year = 3) := by
    by_cases hlast : inSpan = 1460
    · exact ⟨3, 365, by omega, by omega, by omega⟩
    · exact ⟨inSpan / 365, inSpan % 365, by omega, by omega, by omega⟩
  exact ⟨century, span, year, rest, by omega, by omega, by omega, by omega, by omega, by omega⟩

namespace Parts

variable {day century span year rest : Int}

theorem centuries_eq (h : Parts day century span year rest) :
    day / 36524 - day / 146096 = century := by
  obtain ⟨hday, hcentury, hspan, hyear, hrest, hleap⟩ := h
  have hlong : 1461 * span + 365 * year + rest ≤ 36523 ∨
      century = 3 ∧ 1461 * span + 365 * year + rest = 36524 := by omega
  rcases hlong with hshort | ⟨rfl, hlong⟩
  · have hquotient : day / 36524 = century := by omega
    omega
  · omega

theorem yearOfEra_eq (h : Parts day century span year rest) :
    (day - day / 1460 + day / 36524 - day / 146096) / 365 = 100 * century + 4 * span + year := by
  have hcenturies := h.centuries_eq
  obtain ⟨hday, hcentury, hspan, hyear, hrest, hleap⟩ := h
  have hspans : day / 1460 = 25 * century + span ∧ rest < 365 ∨
      day / 1460 = 25 * century + span + 1 ∧ 0 < rest := by
    clear hcenturies
    omega
  clear hleap
  omega

theorem quotients (h : Parts day century span year rest) (era : Int) :
    (100 * century + 4 * span + year + era * 400) / 4 = 25 * century + span + 100 * era ∧
    (100 * century + 4 * span + year + era * 400) / 100 = century + 4 * era ∧
    (100 * century + 4 * span + year + era * 400) / 400 = era := by
  obtain ⟨-, hcentury, hspan, hyear, -, -⟩ := h
  exact ⟨by omega, by omega, by omega⟩

theorem rest_eq (h : Parts day century span year rest) :
    day - (365 * (100 * century + 4 * span + year) + (100 * century + 4 * span + year) / 4 -
      (100 * century + 4 * span + year) / 100) = rest := by
  obtain ⟨hquarter, hhundredth, -⟩ := h.quotients 0
  rw [Int.zero_mul, Int.add_zero] at hquarter hhundredth
  rw [hquarter, hhundredth, h.day_eq]
  omega

theorem marchDay_add_rest (h : Parts day century span year rest) (era : Int) :
    marchDay (100 * century + 4 * span + year + era * 400) + rest =
      day + era * 146097 - 719468 := by
  obtain ⟨hquarter, hhundredth, hera⟩ := h.quotients era
  rw [marchDay, hquarter, hhundredth, hera, h.day_eq]
  omega

theorem isLeapYear (h : Parts day century span year rest) (era : Int) (hrest : rest = 365) :
    Instant.isLeapYear (100 * century + 4 * span + year + era * 400 + 1) = true := by
  obtain ⟨hyear, hlast⟩ := h.leap hrest
  obtain ⟨-, hcentury, hspan, -, -, -⟩ := h
  simp only [Instant.isLeapYear, Bool.and_eq_true, Bool.or_eq_true, beq_iff_eq, bne_iff_ne]
  omega

end Parts

/-- The day is the given day of a year that has so many days. -/
structure IsMarchDay (number year day : Int) : Prop where
  number_eq : marchDay year + day = number
  nonneg : 0 ≤ day
  le : day ≤ 365
  leap : day = 365 → isLeapYear (year + 1) = true

theorem exists_ofDayNumber_eq (number : Int) :
    ∃ year day, Date.ofDayNumber number = ofMarch year day ∧ IsMarchDay number year day := by
  obtain ⟨era, dayOfEra, hera, hdayOfEra⟩ : ∃ era dayOfEra : Int,
      (number + 719468) / 146097 = era ∧ number + 719468 - era * 146097 = dayOfEra :=
    ⟨_, _, rfl, rfl⟩
  obtain ⟨century, span, year, rest, hparts⟩ :=
    exists_parts (show 0 ≤ dayOfEra ∧ dayOfEra < 146097 by omega)
  refine ⟨100 * century + 4 * span + year + era * 400, rest, ?_, ?_⟩
  · simp only [Date.ofDayNumber, ofMarch, hera, hdayOfEra, hparts.yearOfEra_eq, hparts.rest_eq]
  · refine ⟨?_, hparts.rest_range.1, hparts.rest_range.2, hparts.isLeapYear era⟩
    rw [hparts.marchDay_add_rest era]
    omega

/-- A day of the year from March is in one of twelve months, and not before the first day of that
month. Five months have 153 days, from March on and from August on. -/
theorem month_range {day : Int} (hnonneg : 0 ≤ day) (hle : day ≤ 365) :
    (0 ≤ (5 * day + 2) / 153 ∧ (5 * day + 2) / 153 ≤ 11) ∧
      (153 * ((5 * day + 2) / 153) + 2) / 5 ≤ day := by
  omega

theorem toDayNumber_ofMarch {year day : Int} (hnonneg : 0 ≤ day) (hle : day ≤ 365) :
    (ofMarch year day).toDayNumber = marchDay year + day := by
  obtain ⟨hmonth, hstart⟩ := month_range hnonneg hle
  rw [ofMarch]
  generalize hmonthEq : (5 * day + 2) / 153 = month at hmonth hstart ⊢
  generalize hcalendarMonth : (if month < 10 then month + 3 else month - 9) = calendarMonth
  have hback : (((calendarMonth.toNat : Nat) : Int) + 9) % 12 = month := by
    split at hcalendarMonth <;> omega
  have hyear : (if calendarMonth.toNat ≤ 2 then (year + if calendarMonth ≤ 2 then 1 else 0) - 1
      else year + if calendarMonth ≤ 2 then 1 else 0) = year := by
    split <;> split <;> omega
  simp only [Date.toDayNumber, hyear, hback, marchDay]
  omega

theorem ofMarch_day {number year day : Int} (h : IsMarchDay number year day) :
    1 ≤ (ofMarch year day).day ∧
      (ofMarch year day).day ≤ daysInMonth (ofMarch year day).year (ofMarch year day).month := by
  obtain ⟨-, hnonneg, hle, hleap⟩ := h
  obtain ⟨hmonth, hstart⟩ := month_range hnonneg hle
  simp only [ofMarch]
  refine ⟨by omega, ?_⟩
  by_cases hfebruary : (5 * day + 2) / 153 = 11
  · simp only [hfebruary, daysInMonth]
    by_cases hday : day = 365
    · have hleap : isLeapYear (year + 1) = true := hleap hday
      simp [hday, hleap]
    · show _ ≤ if isLeapYear (year + 1) = true then 29 else 28
      split <;> omega
  · obtain ⟨month, hmonthEq⟩ : ∃ month, (5 * day + 2) / 153 = month := ⟨_, rfl⟩
    rw [hmonthEq] at hmonth hfebruary ⊢
    have hearlier : month < 11 := by omega
    obtain ⟨hmarch, -⟩ := hmonth
    -- from March to January
    interval_cases month <;> simp [daysInMonth] <;> omega

theorem ofMarch_month {year day : Int} (hnonneg : 0 ≤ day) (hle : day ≤ 365) :
    1 ≤ (ofMarch year day).month ∧ (ofMarch year day).month ≤ 12 := by
  obtain ⟨hmonth, -⟩ := month_range hnonneg hle
  simp only [ofMarch]
  split <;> omega

theorem toDayNumber_ofDayNumber (number : Int) :
    (Date.ofDayNumber number).toDayNumber = number := by
  obtain ⟨year, day, hdate, hday⟩ := exists_ofDayNumber_eq number
  rw [hdate, toDayNumber_ofMarch hday.nonneg hday.le, hday.number_eq]

theorem ofDayNumber_month (number : Int) :
    1 ≤ (Date.ofDayNumber number).month ∧ (Date.ofDayNumber number).month ≤ 12 := by
  obtain ⟨year, day, hdate, hday⟩ := exists_ofDayNumber_eq number
  rw [hdate]
  exact ofMarch_month hday.nonneg hday.le

theorem ofDayNumber_day (number : Int) :
    1 ≤ (Date.ofDayNumber number).day ∧
      (Date.ofDayNumber number).day ≤
        daysInMonth (Date.ofDayNumber number).year (Date.ofDayNumber number).month := by
  obtain ⟨year, day, hdate, hday⟩ := exists_ofDayNumber_eq number
  rw [hdate]
  exact ofMarch_day hday

theorem ofDayNumber_year {instant : Instant} (hcounted : isCounted instant = true) :
    firstYear ≤ (Date.ofDayNumber instant.day).year ∧
      (Date.ofDayNumber instant.day).year ≤ lastYear := by
  obtain ⟨year, day, hdate, ⟨hnumber, hnonneg, hle, -⟩⟩ := exists_ofDayNumber_eq instant.day
  have hfirst : Date.toDayNumber ⟨firstYear, 1, 1⟩ = marchDay (firstYear - 1) + 306 := by decide
  have hlast : Date.toDayNumber ⟨lastYear, 12, 31⟩ = marchDay lastYear + 305 := by decide
  rw [isCounted, Bool.and_eq_true, decide_eq_true_iff, decide_eq_true_iff, hfirst, hlast,
    ← hnumber] at hcounted
  obtain ⟨hafter, hbefore⟩ := hcounted
  have hyear : (ofMarch year day).year = year + if 306 ≤ day then 1 else 0 := by
    simp only [ofMarch]
    split <;> split <;> split <;> omega
  have hnotEarlier : firstYear - 1 ≤ year := by
    refine Int.not_lt.mp fun hearlier => ?_
    have hdays := marchDay_add_le (show year ≤ firstYear - 1 by omega)
    omega
  have hnotLater : year ≤ lastYear := by
    refine Int.not_lt.mp fun hlater => ?_
    have hdays := marchDay_add_le (show lastYear ≤ year by omega)
    omega
  rw [hdate, hyear]
  split
  · have hless : year ≠ lastYear := by
      rintro rfl
      omega
    omega
  · have hmore : year ≠ firstYear - 1 := by
      rintro rfl
      omega
    omega

end Rulebook.Instant
