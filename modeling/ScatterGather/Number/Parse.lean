import ScatterGather.Number.Binary

/-!
# Reading numbers

Decimal numerals, and decimals rounded to a binary format.
-/

namespace ScatterGather
namespace Numeral

/-- The value of a numeral in base ten; a numeral has at least one digit. -/
def decimal? (digits : List Char) : Option Nat :=
  if !digits.isEmpty && digits.all Char.isDigit then some (Nat.ofDigitChars 10 digits 0) else none

/-- Numerals with an optional plus sign, below `limit`. -/
def bounded? (limit : Nat) (text : List Char) : Option Nat := do
  let digits := match text with
    | '+' :: rest => rest
    | _ => text
  let n ← decimal? digits
  if n < limit then some n else none

/-- Numerals with an optional sign, from `-limit` to below `limit`. -/
def signed? (limit : Nat) (text : List Char) : Option Int := do
  match text with
  | '-' :: rest =>
    let n ← decimal? rest
    if n ≤ limit then some (-(n : Int)) else none
  | _ =>
    let n ← bounded? limit text
    some n

end Numeral

namespace Binary

/-- The bits of the number of the format nearest to `digits * 10 ^ exponent`. A fraction is cut off
well below the last bit that is kept, with a one in place of all that is cut off. -/
def ofDecimal (f : Format) (digits : Nat) (exponent : Int) : Nat :=
  let power := Nat.pow 10 exponent.natAbs
  if 0 ≤ exponent then nearest f false (digits * power) 0
  else
    let shift := power.log2 + f.fractionBits + 8
    let scaled := digits * Nat.pow 2 shift
    let cut := 2 * (scaled / power) + if scaled % power = 0 then 0 else 1
    if cut.log2 < shift + 2 - f.bias then 0 else nearest f false cut (-(shift : Int) - 1)

/-- The whole number nearest to the number with the given bits, halves away from zero; at least
zero and at most `limit`, and zero for undefined values. -/
def roundToCount (f : Format) (limit bits : Nat) : Nat :=
  match unpack f bits with
  | .undefined => 0
  | .infinite negative => if negative then 0 else limit
  | .finite negative significand exponent =>
    if negative then 0
    else
      let scale := Nat.pow 2 exponent.natAbs
      let rounded :=
        if 0 ≤ exponent then significand * scale else (2 * significand + scale) / (2 * scale)
      min rounded limit

end Binary
end ScatterGather
