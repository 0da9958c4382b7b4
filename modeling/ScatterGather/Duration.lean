/-!
# Lengths of time

A length of time is a whole number of nanoseconds. Its text uses the largest unit of which there is
at least one whole, followed by the exact decimal fraction without zeros at its end.
-/

namespace ScatterGather

/-- A length of time. -/
structure Duration where
  nanoseconds : Nat
deriving DecidableEq, Repr

namespace Duration

/-- The nanoseconds of a second. -/
def perSecond : Nat := 1000000000

/-- The nanoseconds of a millisecond. -/
def perMillisecond : Nat := 1000000

/-- The nanoseconds of a microsecond. -/
def perMicrosecond : Nat := 1000

/-- A number of whole seconds and nanoseconds. -/
def ofParts (seconds nanoseconds : Nat) : Duration :=
  ⟨seconds * perSecond + nanoseconds⟩

/-- A number of seconds. -/
def ofSeconds (seconds : Nat) : Duration :=
  ofParts seconds 0

/-- A number of milliseconds. -/
def ofMilliseconds (milliseconds : Nat) : Duration :=
  ⟨milliseconds * perMillisecond⟩

/-- The longest length of time: 64 bits of seconds and the nanoseconds below one more. -/
def max : Duration :=
  ofParts (UInt64.size - 1) 999999999

/-- The decimal digits of `part`, which is less than `10 ^ places`, without zeros at the end. -/
def fractionDigits (places part : Nat) : List Char :=
  let digits := Nat.toDigits 10 part
  (List.replicate (places - digits.length) '0' ++ digits).reverse.dropWhile (· == '0') |>.reverse

/-- The text of a length of time in a unit of `10 ^ places` nanoseconds. -/
def textIn (unit : String) (places nanoseconds : Nat) : String :=
  let fraction := fractionDigits places (nanoseconds % Nat.pow 10 places)
  let whole := toString (nanoseconds / Nat.pow 10 places)
  if fraction.isEmpty then whole ++ unit
  else whole ++ "." ++ String.ofList fraction ++ unit

/-- The text of a length of time. -/
def text (d : Duration) : String :=
  if perSecond ≤ d.nanoseconds then textIn "s" 9 d.nanoseconds
  else if perMillisecond ≤ d.nanoseconds then textIn "ms" 6 d.nanoseconds
  else if perMicrosecond ≤ d.nanoseconds then textIn "µs" 3 d.nanoseconds
  else textIn "ns" 0 d.nanoseconds

end Duration
end ScatterGather
