/-!
# Dates of the Gregorian calendar

Days are counted from 1970-01-01, in both directions without end, under the rules of the present
calendar throughout.

**Algorithm.** A year that starts with March ends with its leap day, so within an era of 400 years
both the year and the day of the year follow from the day number by division alone.
-/

namespace ScatterGather
namespace Calendar

/-- A day of the calendar. Year zero precedes year one. -/
structure Date where
  year : Int
  month : Nat
  day : Nat
deriving DecidableEq, Repr

/-- The number of days in 400 years. -/
def daysPerEra : Int := 146097

/-- Days from 0000-03-01 to 1970-01-01. -/
def epochOffset : Int := 719468

/-- The year of an era to which a day of the era belongs, when years start with March. -/
def yearOfEra (day : Nat) : Nat :=
  (day - day / 1460 + day / 36524 - day / 146096) / 365

/-- The day of the year, when years start with March. -/
def dayOfYear (day : Nat) : Nat :=
  let year := yearOfEra day
  day - (365 * year + year / 4 - year / 100)

/-- The month, counted from March, to which a day of the year belongs. -/
def monthFromMarch (dayOfYear : Nat) : Nat :=
  (5 * dayOfYear + 2) / 153

namespace Date

/-- The date of a day number. -/
def ofDays (days : Int) : Date :=
  let shifted := days + epochOffset
  let era := shifted / daysPerEra
  let dayOfEra := (shifted % daysPerEra).toNat
  let year : Int := yearOfEra dayOfEra + era * 400
  let marchMonth := monthFromMarch (dayOfYear dayOfEra)
  let day := dayOfYear dayOfEra - (153 * marchMonth + 2) / 5 + 1
  if marchMonth < 10 then ⟨year, marchMonth + 3, day⟩ else ⟨year + 1, marchMonth - 9, day⟩

end Date
end Calendar
end ScatterGather
