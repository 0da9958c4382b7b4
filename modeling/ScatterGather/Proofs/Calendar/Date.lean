import Mathlib.Order.Monotone.Basic
import Mathlib.Tactic.IntervalCases
import ScatterGather.Calendar.Date

/-!
# The calendar

The rules of the calendar are said here without any arithmetic on day numbers: which years have a
leap day, how long a month is, and which date follows a date. Dates are computed from day numbers by
division, in years that start with March and eras of 400 years.

**Algorithm.** A date is counted back to its day number from the days before its year and before its
month. Within an era it is enough to know the year of the first and the last day of each year, since
a later day has no earlier year.

**Results.** `Date.ofDays_zero` and `Date.ofDays_succ`: day 0 is 1970-01-01, and each day has the
date that follows that of the day before. `Date.ofDays_inj`: no date comes twice.
-/

namespace ScatterGather
namespace Calendar

/-! ## The rules -/

/-- Every fourth year has a leap day, of the years that end a century every fourth one. -/
def IsLeap (year : Int) : Prop :=
  4 ∣ year ∧ (100 ∣ year → 400 ∣ year)

instance (year : Int) : Decidable (IsLeap year) :=
  inferInstanceAs (Decidable (_ ∧ _))

/-- The number of days of a month. -/
def monthLength (year : Int) (month : Nat) : Nat :=
  if month = 2 then if IsLeap year then 29 else 28
  else if month = 4 ∨ month = 6 ∨ month = 9 ∨ month = 11 then 30
  else 31

namespace Date

/-- The dates that exist. -/
structure Valid (date : Date) : Prop where
  month_pos : 1 ≤ date.month
  month_le : date.month ≤ 12
  day_pos : 1 ≤ date.day
  day_le : date.day ≤ monthLength date.year date.month

/-- The date of the next day. -/
def next (date : Date) : Date :=
  if date.day < monthLength date.year date.month then ⟨date.year, date.month, date.day + 1⟩
  else if date.month < 12 then ⟨date.year, date.month + 1, 1⟩
  else ⟨date.year + 1, 1, 1⟩

theorem monthLength_pos (year : Int) (month : Nat) : 1 ≤ monthLength year month := by
  unfold monthLength
  split_ifs <;> omega

theorem Valid.next
    {date : Date}
    (h : date.Valid) :
    date.next.Valid := by
  have hmonth := h.month_le
  unfold Date.next
  split
  · next hday => exact ⟨h.month_pos, hmonth, by simp, hday⟩
  · split
    · next hyear => exact ⟨by simp, hyear, by simp, monthLength_pos _ _⟩
    · exact ⟨by simp, by simp, by simp, monthLength_pos _ _⟩

/-! ## Counting days -/

/-- The year of a date, when years start with March. -/
def marchYear (date : Date) : Int :=
  if date.month < 3 then date.year - 1 else date.year

/-- The month of a date, counted from March. -/
def marchMonth (date : Date) : Nat :=
  if date.month < 3 then date.month + 9 else date.month - 3

end Date

/-- Days from 0000-03-01 to the first of March of a year. -/
def yearStart (year : Int) : Int :=
  365 * year + year / 4 - year / 100 + year / 400

/-- Days from the first of March to the first of a month, counted from March. -/
def monthStart (month : Nat) : Nat :=
  (153 * month + 2) / 5

namespace Date

/-- The day of its year that a date is, when years start with March. -/
def dayInYear (date : Date) : Nat :=
  monthStart date.marchMonth + (date.day - 1)

/-- The day number of a date. -/
def number (date : Date) : Int :=
  yearStart date.marchYear + date.dayInYear - epochOffset

theorem yearStart_succ (year : Int) :
    yearStart (year + 1) = yearStart year + if IsLeap (year + 1) then 366 else 365 := by
  by_cases h : IsLeap (year + 1)
  · rw [if_pos h]
    unfold IsLeap at h
    unfold yearStart
    omega
  · rw [if_neg h]
    unfold IsLeap at h
    unfold yearStart
    omega

theorem yearStart_mono
    {year year' : Int}
    (h : year ≤ year') :
    yearStart year ≤ yearStart year' := by
  unfold yearStart
  omega

/-- A date is in its month and in its year, when these start with March. -/
theorem Valid.within
    {date : Date}
    (h : date.Valid) :
    date.marchMonth < 12 ∧
    date.dayInYear < monthStart (date.marchMonth + 1) ∧
    yearStart date.marchYear + date.dayInYear < yearStart (date.marchYear + 1) := by
  obtain ⟨hpos, hle, hday, hlength⟩ := h
  obtain ⟨year, month, day⟩ := date
  rw [yearStart_succ]
  simp only [marchMonth, marchYear, dayInYear, monthStart] at *
  interval_cases month <;> simp [monthLength] at * <;> split_ifs at * <;> omega

/-- A date is known from its year and its month, when these start with March, and its day. -/
theorem Valid.eq_of_march
    {date date' : Date}
    (h : date.Valid)
    (h' : date'.Valid)
    (hyear : date.marchYear = date'.marchYear)
    (hmonth : date.marchMonth = date'.marchMonth)
    (hday : date.day = date'.day) :
    date = date' := by
  obtain ⟨hpos, hle, -, -⟩ := h
  obtain ⟨hpos', hle', -, -⟩ := h'
  obtain ⟨year, month, day⟩ := date
  obtain ⟨year', month', day'⟩ := date'
  simp only [marchYear] at hyear
  simp only [marchMonth] at hmonth
  simp only at hpos hle hpos' hle' hday
  rw [mk.injEq]
  split_ifs at * <;> omega

/-- Different dates have different numbers. -/
theorem number_inj
    {date date' : Date}
    (h : date.Valid)
    (h' : date'.Valid)
    (heq : date.number = date'.number) :
    date = date' := by
  obtain ⟨hmonth, hinMonth, hinYear⟩ := h.within
  obtain ⟨hmonth', hinMonth', hinYear'⟩ := h'.within
  have hyear : date.marchYear = date'.marchYear := by
    rcases Int.lt_trichotomy date.marchYear date'.marchYear with hlt | hyear | hlt
    · have hle : yearStart (date.marchYear + 1) ≤ yearStart date'.marchYear := yearStart_mono hlt
      unfold number at heq
      omega
    · exact hyear
    · have hle : yearStart (date'.marchYear + 1) ≤ yearStart date.marchYear := yearStart_mono hlt
      unfold number at heq
      omega
  have hday : date.dayInYear = date'.dayInYear := by
    unfold number at heq
    rw [hyear] at heq
    omega
  have hpos := h.day_pos
  have hpos' := h'.day_pos
  unfold dayInYear at hday hinMonth hinMonth'
  have hmonths : date.marchMonth = date'.marchMonth := by
    unfold monthStart at *
    omega
  rw [hmonths] at hday
  exact h.eq_of_march h' hyear hmonths (by omega)

/-- The number of the next day is the next number. -/
theorem number_next
    {date : Date}
    (h : date.Valid) :
    date.next.number = date.number + 1 := by
  obtain ⟨year, month, day⟩ := date
  obtain ⟨hpos, hle, hday, hlength⟩ := h
  simp only at hpos hle hday hlength
  unfold next
  split
  · simp only [number, dayInYear, marchYear, marchMonth]
    omega
  · next hlast =>
      have hlast : day = monthLength year month := Nat.le_antisymm hlength (Nat.not_lt.1 hlast)
      subst hlast
      by_cases hfebruary : month = 2
      · subst hfebruary
        have hstart := yearStart_succ (year - 1)
        rw [Int.sub_add_cancel] at hstart
        by_cases hleap : IsLeap year <;>
          simp [number, dayInYear, marchYear, marchMonth, monthStart, monthLength, hleap]
            at hstart ⊢ <;>
          omega
      · interval_cases month <;>
          simp [number, dayInYear, marchYear, marchMonth, monthStart, monthLength]
            at hfebruary ⊢ <;>
          omega

end Date

/-! ## Dates of day numbers -/

/-- Days from the first day of an era to that of one of its years. -/
def eraYearStart (year : Nat) : Nat :=
  365 * year + year / 4 - year / 100 + year / 400

theorem yearOfEra_mono : Monotone yearOfEra := by
  refine monotone_nat_of_le_succ fun day => ?_
  unfold yearOfEra
  apply Nat.div_le_div_right
  omega

/-- The first and the last day of each year of an era are in that year. -/
theorem yearOfEra_eraYearStart :
    ∀ year < 400, yearOfEra (eraYearStart year) = year ∧
      yearOfEra (eraYearStart (year + 1) - 1) = year := by
  decide +kernel

theorem yearOfEra_lt
    {day : Nat}
    (h : day < 146097) :
    yearOfEra day < 400 :=
  Nat.lt_of_le_of_lt (yearOfEra_mono (Nat.le_of_lt_succ h)) (by decide)

/-- A day of an era is in its year: an earlier one has no later year, and a later one no earlier
year. -/
theorem within_yearOfEra
    {day : Nat}
    (h : day < 146097) :
    eraYearStart (yearOfEra day) ≤ day ∧ day < eraYearStart (yearOfEra day + 1) := by
  have hyear := yearOfEra_lt h
  constructor
  · by_contra hbefore
    obtain ⟨year, hsucc⟩ : ∃ year, yearOfEra day = year + 1 := by
      refine Nat.exists_eq_add_one.2 (Nat.pos_of_ne_zero fun hzero => hbefore ?_)
      simp [hzero, eraYearStart]
    rw [hsucc] at hbefore hyear
    have hle : yearOfEra day ≤ yearOfEra (eraYearStart (year + 1) - 1) :=
      yearOfEra_mono (by omega)
    rw [(yearOfEra_eraYearStart year (by omega)).2] at hle
    omega
  · by_contra hafter
    have hnext : yearOfEra day + 1 < 400 := by
      by_contra hlast
      have heq : yearOfEra day = 399 := by omega
      simp [heq, eraYearStart] at hafter
      omega
    have hle : yearOfEra (eraYearStart (yearOfEra day + 1)) ≤ yearOfEra day :=
      yearOfEra_mono (by omega)
    rw [(yearOfEra_eraYearStart _ hnext).1] at hle
    omega

/-- A day of a year is in its month. -/
theorem within_monthFromMarch
    {day : Nat}
    (h : day < 366) :
    monthFromMarch day < 12 ∧ monthStart (monthFromMarch day) ≤ day ∧
      day < monthStart (monthFromMarch day + 1) := by
  unfold monthFromMarch monthStart
  omega

/-- Where a day of an era is in its year, and how long the year is. -/
theorem eq_dayOfYear
    {day : Nat}
    (h : day < 146097) :
    day = eraYearStart (yearOfEra day) + dayOfYear day ∧
      eraYearStart (yearOfEra day) + dayOfYear day < eraYearStart (yearOfEra day + 1) := by
  obtain ⟨hle, hlt⟩ := within_yearOfEra h
  have hyear := yearOfEra_lt h
  unfold dayOfYear
  dsimp only
  unfold eraYearStart at *
  omega

theorem dayOfYear_lt
    {day : Nat}
    (h : day < 146097) :
    dayOfYear day < 366 := by
  obtain ⟨-, hlt⟩ := eq_dayOfYear h
  unfold eraYearStart at hlt
  omega

/-- Years of an era, and of the calendar. -/
theorem yearStart_era
    {year : Nat}
    (era : Int)
    (h : year ≤ 400) :
    yearStart (year + era * 400) = era * daysPerEra + eraYearStart year := by
  unfold yearStart daysPerEra eraYearStart
  omega

namespace Date

/-- The date of a day in a year and a month, when years start with March. -/
def ofMarch (year : Int) (month day : Nat) : Date :=
  if month < 10 then ⟨year, month + 3, day⟩ else ⟨year + 1, month - 9, day⟩

theorem march_ofMarch
    {month : Nat}
    (h : month < 12)
    (year : Int) (day : Nat) :
    (ofMarch year month day).marchYear = year ∧ (ofMarch year month day).marchMonth = month ∧
      (ofMarch year month day).day = day := by
  by_cases hlate : month < 10
  · simp [ofMarch, marchYear, marchMonth, hlate]
  · have hearly : month - 9 < 3 := by omega
    simp [ofMarch, marchYear, marchMonth, hlate, hearly]
    omega

/-- A day exists if it is in its month and in its year. -/
theorem valid_ofMarch
    {year : Int} {month day : Nat}
    (hmonth : month < 12)
    (hday : 1 ≤ day)
    (hinMonth : monthStart month + day ≤ monthStart (month + 1))
    (hinYear : yearStart year + (monthStart month + day) ≤ yearStart (year + 1)) :
    (ofMarch year month day).Valid := by
  rw [yearStart_succ] at hinYear
  unfold monthStart at *
  constructor
  · unfold ofMarch
    split <;> simp
    omega
  · unfold ofMarch
    split <;> simp <;> omega
  · unfold ofMarch
    split <;> exact hday
  · unfold ofMarch
    interval_cases month <;> simp [monthLength] at * <;> split_ifs at * <;> omega

/-- The date of a day number, from the era and the day of the era. -/
theorem ofDays_eq
    {days era : Int} {day : Nat}
    (hday : day < 146097)
    (h : days + epochOffset = era * daysPerEra + day) :
    ofDays days = ofMarch (yearOfEra day + era * 400) (monthFromMarch (dayOfYear day))
      (dayOfYear day - monthStart (monthFromMarch (dayOfYear day)) + 1) := by
  have hera : (days + epochOffset) / daysPerEra = era := by
    unfold daysPerEra at *
    omega
  have hrest : ((days + epochOffset) % daysPerEra).toNat = day := by
    unfold daysPerEra at *
    omega
  unfold ofDays
  dsimp only
  rw [hera, hrest]
  rfl

/-- What is computed from a day number is a date that exists, and it has that number. -/
theorem valid_and_number_ofDays (days : Int) :
    (ofDays days).Valid ∧ (ofDays days).number = days := by
  obtain ⟨era, day, hday, hdays⟩ : ∃ (era : Int) (day : Nat),
      day < 146097 ∧ days + epochOffset = era * daysPerEra + day :=
    ⟨(days + epochOffset) / daysPerEra, ((days + epochOffset) % daysPerEra).toNat, by
      unfold daysPerEra
      omega⟩
  have hyear := yearOfEra_lt hday
  obtain ⟨hparts, hlength⟩ := eq_dayOfYear hday
  obtain ⟨hmonth, hstart, hnext⟩ := within_monthFromMarch (dayOfYear_lt hday)
  have hera := yearStart_era era hyear.le
  have hnextEra : yearStart (yearOfEra day + era * 400 + 1) =
      era * daysPerEra + eraYearStart (yearOfEra day + 1) := by
    have hsucc := yearStart_era era (show yearOfEra day + 1 ≤ 400 from hyear)
    rw [← hsucc]
    congr 1
    omega
  rw [ofDays_eq hday hdays]
  constructor
  · apply valid_ofMarch hmonth <;> omega
  · obtain ⟨hmarchYear, hmarchMonth, hmarchDay⟩ := march_ofMarch hmonth
      (yearOfEra day + era * 400)
      (dayOfYear day - monthStart (monthFromMarch (dayOfYear day)) + 1)
    unfold number dayInYear
    rw [hmarchYear, hmarchMonth, hmarchDay, hera]
    omega

/-- Day 0 is the first of January 1970. -/
theorem ofDays_zero : ofDays 0 = ⟨1970, 1, 1⟩ := by
  decide +kernel

/-- The date of the next day is the next date. -/
theorem ofDays_succ (days : Int) : ofDays (days + 1) = (ofDays days).next := by
  obtain ⟨hvalid, hnumber⟩ := valid_and_number_ofDays days
  obtain ⟨hvalid', hnumber'⟩ := valid_and_number_ofDays (days + 1)
  have hnext : (ofDays days).next.number = days + 1 := by rw [number_next hvalid, hnumber]
  exact number_inj hvalid' hvalid.next (hnumber'.trans hnext.symm)

/-- Different days have different dates. -/
theorem ofDays_inj
    {days days' : Int}
    (h : ofDays days = ofDays days') :
    days = days' := by
  rw [← (valid_and_number_ofDays days).2, ← (valid_and_number_ofDays days').2, h]

end Date
end Calendar
end ScatterGather
