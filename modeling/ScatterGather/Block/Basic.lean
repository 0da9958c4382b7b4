import ScatterGather.DataError
import ScatterGather.Word

/-!
# Blocks of rows

A block holds rows of cells. Every row takes the same number of bytes in the fixed section, one cell
per column type. Cells of varying length hold there the place and the length of their content in the
variable section. A cell that holds nothing is all zero bytes, and its row is listed under its
column.
-/

namespace ScatterGather

/-- Rows of cells in packed form. `nullRows` lists, for each column, the rows whose cell holds
nothing, in ascending order. -/
structure Block where
  schema : Schema
  rowCount : Nat
  fixed : List UInt8
  varying : List UInt8
  nullRows : List (List Nat)
deriving DecidableEq, Repr

namespace Block

/-- The block without rows. -/
def empty (schema : Schema) : Block :=
  { schema
    rowCount := 0
    fixed := []
    varying := []
    nullRows := List.replicate schema.length [] }

/-- The rows whose cell of the column holds nothing, if there are any. -/
def nullRows? (b : Block) (column : Nat) : Option (List Nat) :=
  match b.nullRows[column]? with
  | some (row :: rows) => some (row :: rows)
  | _ => none

end Block
end ScatterGather
