import ScatterGather.Number.Binary

/-!
# Shortest decimal text

A finite number is written with the fewest decimal digits that still read back as that number; of
several such decimals the nearest one is taken, and of two equally near ones the greater. The text
is positional throughout: it has no exponent, and no point where nothing follows it.

**Input.** A positive number is given as a significand times a power of two.

**Algorithm.** The decimals with `n` digits form a grid around the number. For `n` from one upward
the two neighbours of the number on that grid are tested against the interval of reals that read
back as the number; the first grid with a hit decides. All arithmetic is exact.
-/

namespace ScatterGather
namespace Shortest

/-- A positive decimal: `digits * 10 ^ exponent`. -/
structure Decimal where
  digits : Nat
  exponent : Int
deriving DecidableEq, Repr

/-- A positive number between the ends of the interval that reads back as it, all as fractions
over one denominator. The ends belong to the interval when `closed` holds. -/
structure Interval where
  low : Nat
  mid : Nat
  high : Nat
  denominator : Nat
  closed : Bool
deriving DecidableEq, Repr

/-- The interval of `significand * 2 ^ exponent`. Below a power of two the format is twice as fine,
so the lower end is nearer there. -/
def Interval.ofScaled (f : Binary.Format) (significand : Nat) (exponent : Int) : Interval :=
  let below := if significand = Nat.pow 2 f.fractionBits ∧ f.leastExponent < exponent then 1 else 2
  let up := Nat.pow 2 (exponent - 2).toNat
  { low := (4 * significand - below) * up
    mid := 4 * significand * up
    high := (4 * significand + 2) * up
    denominator := Nat.pow 2 (2 - exponent).toNat
    closed := significand % 2 = 0 }

/-- How many decimal digits a number has. -/
def digitCount (n : Nat) : Nat :=
  (Nat.toDigits 10 n).length

/-- The exponent `k` with `10 ^ (k - 1) ≤ mid / denominator < 10 ^ k`. -/
def Interval.magnitude (i : Interval) : Int :=
  if i.denominator ≤ i.mid then digitCount (i.mid / i.denominator)
  else 1 - (digitCount ((i.denominator - 1) / i.mid) : Int)

/-- The decimal on the grid `10 ^ exponent` that reads back as the number, if there is one. -/
def Interval.onGrid? (i : Interval) (exponent : Int) : Option Decimal :=
  let scale := Nat.pow 10 (-exponent).toNat
  let step := i.denominator * Nat.pow 10 exponent.toNat
  let lower := i.mid * scale / step
  let fitsLow := if i.closed then i.low * scale ≤ lower * step else i.low * scale < lower * step
  let fitsHigh :=
    if i.closed then (lower + 1) * step ≤ i.high * scale else (lower + 1) * step < i.high * scale
  let upperNearer := (lower + 1) * step - i.mid * scale ≤ i.mid * scale - lower * step
  if fitsHigh ∧ (¬ fitsLow ∨ upperNearer) then some ⟨lower + 1, exponent⟩
  else if fitsLow then some ⟨lower, exponent⟩
  else none

/-- Enough digits to tell any two numbers of 64 bits apart. -/
def maxDigits : Nat := 17

/-- The shortest decimal that reads back as the number, on the first grid that has one. -/
def Interval.shortest (i : Interval) : Decimal :=
  let top := i.magnitude
  ((List.range maxDigits).findSome? fun n => i.onGrid? (top - (n + 1 : Nat))).getD
    ⟨i.mid / i.denominator, 0⟩

/-- A decimal without a zero at its end, when it had at most one. -/
def Decimal.trim (d : Decimal) : Decimal :=
  if d.digits % 10 = 0 then ⟨d.digits / 10, d.exponent + 1⟩ else d

/-- The positional text of a decimal. -/
def Decimal.text (d : Decimal) : String :=
  let digits := Nat.toDigits 10 d.digits
  let places := (-d.exponent).toNat
  if places = 0 then String.ofList (digits ++ List.replicate d.exponent.toNat '0')
  else if places < digits.length then
    String.ofList
      (digits.take (digits.length - places) ++ '.' :: digits.drop (digits.length - places))
  else String.ofList ('0' :: '.' :: (List.replicate (places - digits.length) '0' ++ digits))

/-- The text of the number with the given bits. -/
def text (f : Binary.Format) (bits : Nat) : String :=
  match Binary.unpack f bits with
  | .undefined => "NaN"
  | .infinite negative => if negative then "-inf" else "inf"
  | .finite negative significand exponent =>
    let sign := if negative then "-" else ""
    if significand = 0 then sign ++ "0"
    else sign ++ (Interval.ofScaled f significand exponent).shortest.trim.text

end Shortest
end ScatterGather
