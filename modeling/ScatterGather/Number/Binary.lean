/-!
# Binary floating-point numbers

A format has a field of fraction bits below a field of exponent bits below a sign bit. Numbers are
kept as their bits, so that two of them are equal exactly when they are the same number with the
same sign.

**Results.** `unpack` reads bits as a signed multiple of a power of two, and `nearest` writes such a
multiple, rounding to the nearest number of the format and halves to the even neighbour.
-/

namespace ScatterGather
namespace Binary

/-- The widths of the two fields of a format. -/
structure Format where
  fractionBits : Nat
  exponentBits : Nat
deriving DecidableEq, Repr

/-- Numbers of 32 bits. -/
def single : Format := ⟨23, 8⟩

/-- Numbers of 64 bits. -/
def double : Format := ⟨52, 11⟩

namespace Format

/-- What is added to an exponent before it is stored. -/
def bias (f : Format) : Nat :=
  Nat.pow 2 (f.exponentBits - 1) - 1

/-- The stored exponent that marks infinities and undefined values. -/
def topExponent (f : Format) : Nat :=
  Nat.pow 2 f.exponentBits - 1

/-- The least exponent of two that a significand is scaled by. -/
def leastExponent (f : Format) : Int :=
  1 - (f.bias : Int) - f.fractionBits

end Format

/-- What bits stand for: a finite number is its significand times a power of two. -/
inductive Unpacked where
  | undefined
  | infinite (negative : Bool)
  | finite (negative : Bool) (significand : Nat) (exponent : Int)
deriving DecidableEq, Repr

/-- Reads the bits of a number. -/
def unpack (f : Format) (bits : Nat) : Unpacked :=
  let fraction := bits % Nat.pow 2 f.fractionBits
  let stored := bits / Nat.pow 2 f.fractionBits % Nat.pow 2 f.exponentBits
  let negative := bits / Nat.pow 2 (f.fractionBits + f.exponentBits) % 2 = 1
  if stored = f.topExponent then
    if fraction = 0 then .infinite negative else .undefined
  else if stored = 0 then
    .finite negative fraction f.leastExponent
  else
    .finite negative (Nat.pow 2 f.fractionBits + fraction) (f.leastExponent + (stored - 1 : Nat))

/-- `n / 2 ^ shift`, rounded to the nearest whole number and halves to the even one. -/
def roundHalfEven (n shift : Nat) : Nat :=
  let quotient := n / Nat.pow 2 shift
  let rest := n % Nat.pow 2 shift
  if 2 * rest > Nat.pow 2 shift ∨ (2 * rest = Nat.pow 2 shift ∧ quotient % 2 = 1) then quotient + 1
  else quotient

/-- The significand `n`, brought to full width: the leading bit stands above the fraction field.
A carry out of the rounding leaves twice the leading bit, which the exponent field absorbs. -/
def fullSignificand (f : Format) (n : Nat) : Nat :=
  if n.log2 ≤ f.fractionBits then n * Nat.pow 2 (f.fractionBits - n.log2)
  else roundHalfEven n (n.log2 - f.fractionBits)

/-- The bits of the number of the format nearest to `significand * 2 ^ exponent`, for values of
the range in which the leading bit is not stored. -/
def nearest (f : Format) (negative : Bool) (significand : Nat) (exponent : Int) : Nat :=
  let sign := if negative then Nat.pow 2 (f.fractionBits + f.exponentBits) else 0
  if significand = 0 then sign
  else
    let stored := (exponent + significand.log2 + f.bias).toNat
    sign + (stored - 1) * Nat.pow 2 f.fractionBits + fullSignificand f significand

/-- The bits of the whole number `n`. -/
def ofInt (f : Format) (n : Int) : Nat :=
  nearest f (n < 0) n.natAbs 0

/-- An undefined value of the format. -/
def undefinedBits (f : Format) : Nat :=
  f.topExponent * Nat.pow 2 f.fractionBits + Nat.pow 2 (f.fractionBits - 1)

/-- An infinity of the format. -/
def infiniteBits (f : Format) (negative : Bool) : Nat :=
  (if negative then Nat.pow 2 (f.fractionBits + f.exponentBits) else 0) +
    f.topExponent * Nat.pow 2 f.fractionBits

/-- The bits of the same number in another, wider format. -/
def widen (source target : Format) (bits : Nat) : Nat :=
  match unpack source bits with
  | .undefined => undefinedBits target
  | .infinite negative => infiniteBits target negative
  | .finite negative significand exponent => nearest target negative significand exponent

end Binary
end ScatterGather
