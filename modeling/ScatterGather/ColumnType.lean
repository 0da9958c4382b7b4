/-!
# Column types

The types that a column of a block or of a result can have.
-/

namespace ScatterGather

/-- What a column holds. -/
inductive ColumnType where
  | int
  | long
  | float
  | double
  | boolean
  | timestamp
  | string
  | bytes
deriving DecidableEq, Repr

namespace ColumnType

/-- The name of a type, as it appears in schemas and messages. -/
def name : ColumnType → String
  | int => "INT"
  | long => "LONG"
  | float => "FLOAT"
  | double => "DOUBLE"
  | boolean => "BOOLEAN"
  | timestamp => "TIMESTAMP"
  | string => "STRING"
  | bytes => "BYTES"

/-- The bytes that a cell of the type takes in the fixed section of a block. Cells of varying
length hold there the place and the length of their content. -/
def width : ColumnType → Nat
  | int | float | boolean => 4
  | long | double | timestamp | string | bytes => 8

end ColumnType
end ScatterGather
