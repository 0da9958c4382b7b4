import ScatterGather.Calendar.Date

/-!
# Text of points in time

A point in time is a number of milliseconds from the start of 1970. Its text gives the date, the
time of day and the milliseconds. Years from 0 to 9999 have four digits; later ones carry a plus
sign, earlier ones a minus sign, and both have at least four digits.
-/

namespace ScatterGather
namespace Calendar

/-- The least point in time that has a text. -/
def firstMillisecond : Int := -8334601228800000

/-- The greatest point in time that has a text. -/
def lastMillisecond : Int := 8210266876799999

/-- The milliseconds of a day. -/
def millisecondsPerDay : Int := 86400000

/-- A number, with zeros in front up to the given width. -/
def padded (width n : Nat) : String :=
  let digits := Nat.toDigits 10 n
  String.ofList (List.replicate (width - digits.length) '0' ++ digits)

/-- The text of a year. -/
def yearText (year : Int) : String :=
  if year < 0 then "-" ++ padded 4 year.natAbs
  else if 9999 < year then "+" ++ padded 4 year.natAbs
  else padded 4 year.natAbs

/-- The text of a date. -/
def Date.text (date : Date) : String :=
  yearText date.year ++ "-" ++ padded 2 date.month ++ "-" ++ padded 2 date.day

/-- The text of a time of day, given in milliseconds. -/
def timeText (milliseconds : Nat) : String :=
  padded 2 (milliseconds / 3600000) ++ ":" ++ padded 2 (milliseconds / 60000 % 60) ++ ":" ++
    padded 2 (milliseconds / 1000 % 60) ++ "." ++ padded 3 (milliseconds % 1000)

/-- The text of a point in time, if it lies in the range that has one. -/
def timestampText? (milliseconds : Int) : Option String :=
  if firstMillisecond ≤ milliseconds ∧ milliseconds ≤ lastMillisecond then
    some ((Date.ofDays (milliseconds / millisecondsPerDay)).text ++ " " ++
      timeText (milliseconds % millisecondsPerDay).toNat)
  else none

end Calendar
end ScatterGather
