import ScatterGather.Schema
import ScatterGather.Text.Encoding
import ScatterGather.Value

/-!
# Faults of values and blocks

Why a value cannot be converted, why a row cannot be stored, and why a cell cannot be read.
-/

namespace ScatterGather

/-- Why a row is refused by a block. -/
inductive EncodeFault where
  | rowLength (found : Nat) (schema : Schema)
  | rowCount
  | sectionTooLong
  | valueTooLong
  | mismatch (value : Value) (column : Nat) (type : ColumnType)
deriving DecidableEq, Repr

namespace EncodeFault

/-- How the fault is described to a reader. -/
def message : EncodeFault → String
  | rowLength found schema =>
    s!"row has {found} values but schema {schema.text} has {schema.length} columns"
  | rowCount => "row count exceeds u32::MAX"
  | sectionTooLong => "variable section exceeds u32::MAX bytes"
  | valueTooLong => "variable value exceeds u32::MAX bytes"
  | mismatch value column type =>
    s!"value {value.text} does not match column {column} of type {type.name}"

end EncodeFault

/-- Why the bytes of a cell cannot be read. -/
inductive DecodeFault where
  | truncated (position : Nat)
  | outOfBounds (start stop : Nat)
  | invalidText (row column : Nat) (fault : Utf8.Fault)
deriving DecidableEq, Repr

namespace DecodeFault

/-- How the fault is described to a reader. -/
def message : DecodeFault → String
  | truncated position => s!"fixed section truncated at offset {position}"
  | outOfBounds start stop => s!"variable section slice {start}..{stop} out of bounds"
  | invalidText row column fault =>
    s!"invalid utf-8 at row {row} column {column}: {fault.message}"

end DecodeFault

/-- A fault met while values or blocks are handled. -/
inductive DataError where
  | conversion (value : Value) (target : ColumnType)
  | decode (fault : DecodeFault)
  | encode (fault : EncodeFault)
  | columnOutOfRange (index length : Nat)
  | rowOutOfRange (index length : Nat)
deriving DecidableEq, Repr

namespace DataError

/-- How the fault is described to a reader. -/
def message : DataError → String
  | conversion value target => s!"Cannot convert value {value.text} to {target.name}"
  | decode fault => s!"Failed to decode data block: {fault.message}"
  | encode fault => s!"Failed to encode data block: {fault.message}"
  | columnOutOfRange index length => s!"Column index {index} out of range for {length} columns"
  | rowOutOfRange index length => s!"Row index {index} out of range for {length} rows"

end DataError
end ScatterGather
