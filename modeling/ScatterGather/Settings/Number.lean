import ScatterGather.Settings.Setting

/-!
# Numbers of settings files

Whole numbers are decimal with an optional sign, or carry a mark for another base, and fit in 64 bits
with a sign. Numbers with a fraction or an exponent are rounded to double precision; one that is too
great for it is malformed, while one that is too far below zero is infinite.
-/

namespace ScatterGather
namespace Settings

/-- A character of a decimal numeral: a digit, or an underscore between digits. -/
def isNumeralChar (c : Char) : Bool :=
  c.isDigit || c = '_'

/-- A run of digits, between any two of which one underscore may stand. -/
def ungroup? (isDigit : Char → Bool) : List Char → Option (List Char)
  | [] => none
  | [c] => if isDigit c then some [c] else none
  | c :: '_' :: rest => if isDigit c then (ungroup? isDigit rest).map (c :: ·) else none
  | c :: rest => if isDigit c then (ungroup? isDigit rest).map (c :: ·) else none

/-- A decimal numeral of a settings file: it has no zeros in front. -/
def numeral? (text : List Char) : Option Nat := do
  let digits ← ungroup? Char.isDigit text
  if digits.head? = some '0' ∧ 1 < digits.length then none else Numeral.decimal? digits

/-- A sign, if there is one, and what follows it. -/
def sign (text : List Char) : Bool × List Char :=
  match text with
  | '-' :: rest => (true, rest)
  | '+' :: rest => (false, rest)
  | _ => (false, text)

/-- A whole number. -/
def integer? (text : List Char) : Option Setting := do
  let n : Int ← match text with
    | '0' :: 'x' :: digits => do
      let digits ← ungroup? (fun c => c.isDigit || "abcdef".contains c.toLower) digits
      pure (digits.foldl (fun n c => 16 * n + hexValue c) 0)
    | '0' :: 'o' :: digits => do
      let digits ← ungroup? (fun c => '0' ≤ c && c ≤ '7') digits
      pure (digits.foldl (fun n c => 8 * n + hexValue c) 0)
    | '0' :: 'b' :: digits => do
      let digits ← ungroup? (fun c => c = '0' || c = '1') digits
      pure (digits.foldl (fun n c => 2 * n + hexValue c) 0)
    | text => do
      let (negative, digits) := sign text
      let n ← numeral? digits
      pure (if negative then -(n : Int) else n)
  if Int64.minValue.toInt ≤ n ∧ n ≤ Int64.maxValue.toInt then return .integer n else none
where
  /-- The value of a digit of any base up to sixteen. -/
  hexValue (c : Char) : Int :=
    if c.isDigit then c.toNat - 48 else c.toLower.toNat - 87

/-- The digits of a fraction, and what follows them: none if no point stands here. -/
def fraction? (text : List Char) : Option (List Char × List Char) :=
  match text with
  | '.' :: rest =>
    (ungroup? Char.isDigit (rest.takeWhile isNumeralChar)).map fun digits =>
      (digits, rest.dropWhile isNumeralChar)
  | _ => some ([], text)

/-- The exponent of a number: none written counts as zero. -/
def exponent? (text : List Char) : Option Int :=
  match text with
  | [] => some 0
  | mark :: rest =>
    if mark = 'e' || mark = 'E' then do
      let (negative, digits) := sign rest
      let digits ← ungroup? Char.isDigit digits
      let n ← Numeral.decimal? digits
      return if negative then -(n : Int) else n
    else none

/-- Numbers with a decimal exponent above this one are infinite, and those far below its opposite are
zero; between the two they are rounded. -/
def exponentLimit : Int := 400

/-- The bits of the double nearest to `digits * 10 ^ scale`. -/
def roundDecimal (digits : Nat) (scale : Int) : Nat :=
  let infinite := Binary.infiniteBits Binary.double false
  if digits = 0 ∨ scale + digits.log2 < -exponentLimit then 0
  else if exponentLimit < scale then infinite
  else min infinite (Binary.ofDecimal Binary.double digits scale)

/-- A number with a fraction or an exponent. -/
def real? (text : List Char) : Option Setting := do
  let (negative, body) := sign text
  if body = "inf".toList then return .real (Binary.infiniteBits Binary.double negative)
  if body = "nan".toList then return .real (Binary.undefinedBits Binary.double)
  let whole := body.takeWhile isNumeralChar
  let tail := body.dropWhile isNumeralChar
  let _ ← numeral? whole
  let wholeDigits ← ungroup? Char.isDigit whole
  if tail.isEmpty then none
  let (fraction, tail) ← fraction? tail
  let exponent ← exponent? tail
  let digits ← Numeral.decimal? (wholeDigits ++ fraction)
  let bits := roundDecimal digits (exponent - fraction.length)
  if negative then return .real (Nat.pow 2 63 + bits)
  else if bits = Binary.infiniteBits Binary.double false then none
  else return .real bits

end Settings
end ScatterGather
