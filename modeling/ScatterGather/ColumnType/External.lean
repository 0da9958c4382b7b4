import ScatterGather.Calendar.Timestamp
import ScatterGather.DataError

/-!
# External form of values

The values of a result are in the external form of their column's type: numbers are widened where
nothing but low digits can be lost, points in time and byte strings become text, and truth values
may come from the numbers zero and one. Nothing stays nothing under every type.
-/

namespace ScatterGather
namespace ColumnType

/-- The external form of a value under a column type. -/
def externalize (target : ColumnType) (value : Value) : Except DataError Value :=
  match target, value with
  | _, .null => .ok .null
  | .int, .int n => .ok (.int n)
  | .long, .int n => .ok (.long n.toInt64)
  | .long, .long n => .ok (.long n)
  | .float, .int n => .ok (.float (UInt32.ofNat (Binary.ofInt Binary.single n.toInt)))
  | .float, .float bits => .ok (.float bits)
  | .double, .int n => .ok (.double (UInt64.ofNat (Binary.ofInt Binary.double n.toInt)))
  | .double, .long n => .ok (.double (UInt64.ofNat (Binary.ofInt Binary.double n.toInt)))
  | .double, .float bits =>
    .ok (.double (UInt64.ofNat (Binary.widen Binary.single Binary.double bits.toNat)))
  | .double, .double bits => .ok (.double bits)
  | .boolean, .boolean b => .ok (.boolean b)
  | .boolean, .int n =>
    if n = 0 then .ok (.boolean false)
    else if n = 1 then .ok (.boolean true)
    else .error (.conversion value target)
  | .timestamp, .long milliseconds =>
    match Calendar.timestampText? milliseconds.toInt with
    | some text => .ok (.string text)
    | none => .error (.conversion value target)
  | .bytes, .bytes bs => .ok (.string (Hex.encode bs))
  | .string, .string s => .ok (.string s)
  | .string, .int _ | .string, .long _ | .string, .float _ | .string, .double _
  | .string, .boolean _ => .ok (.string value.text)
  | _, _ => .error (.conversion value target)

end ColumnType
end ScatterGather
