import ScatterGather.Number.Parse

/-!
# Values of settings

A setting may be given as a number, a truth value or a text, and is needed as a count that fits in
64 bits. Truth values count as one and zero, numbers with a fraction are rounded, and texts are
numerals or words for yes and no.
-/

namespace ScatterGather
namespace Settings

/-- A value as it was given. -/
inductive Setting where
  | integer (n : Int)
  | real (bits : Nat)
  | boolean (b : Bool)
  | text (s : String)
  /-- Further settings below a name. -/
  | table
deriving DecidableEq, Repr

/-- Counts are below this number. -/
def countLimit : Nat := UInt64.size

namespace Setting

/-- Words that stand for one. -/
def affirmative : List String := ["true", "on", "yes"]

/-- Words that stand for zero. -/
def negative : List String := ["false", "off", "no"]

/-- The count that a setting stands for, if it stands for one. -/
def count? : Setting → Option Nat
  | integer n => if 0 ≤ n then some n.toNat else none
  | real bits => some (Binary.roundToCount Binary.double (countLimit - 1) bits)
  | boolean b => some b.toNat
  | text s =>
    if s.toLower ∈ affirmative then some 1
    else if s.toLower ∈ negative then some 0
    else Numeral.bounded? countLimit s.toList
  | table => none

end Setting
end Settings
end ScatterGather
