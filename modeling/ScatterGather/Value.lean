import ScatterGather.Number.Shortest
import ScatterGather.Text.Encoding

/-!
# Cell values

A cell holds a number, a truth value, a text, a byte string, or nothing. Floating-point numbers are
held as their bits, so equality of values is equality of what is stored.
-/

namespace ScatterGather

/-- The content of one cell. -/
inductive Value where
  | null
  | int (n : Int32)
  | long (n : Int64)
  | float (bits : UInt32)
  | double (bits : UInt64)
  | boolean (b : Bool)
  | string (s : String)
  | bytes (bs : List UInt8)
deriving DecidableEq, Repr

/-- One value for each column. -/
abbrev Row := List Value

namespace Value

/-- How a value is shown to a reader. -/
def text : Value → String
  | null => "null"
  | int n => toString n.toInt
  | long n => toString n.toInt
  | float bits => Shortest.text Binary.single bits.toNat
  | double bits => Shortest.text Binary.double bits.toNat
  | boolean b => if b then "true" else "false"
  | string s => s
  | bytes bs => Hex.encode bs

end Value
end ScatterGather
