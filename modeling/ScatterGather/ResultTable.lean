import ScatterGather.Block.Read

/-!
# Result tables

The blocks of a finished query are projected through the result fields into one table. Each field
names a source column; its values are taken from there and brought into the external form of the
type that the source schema gives to that column.

Whether a cell is empty is looked up under one column of the block. `ofBlocks` looks under the
position of the field in the result, not under its source column. For fields that keep the order of
the block this is the same.
-/

namespace ScatterGather

/-- One column of a result: where its values come from, and its name. -/
structure ResultField where
  source : Nat
  name : String
deriving DecidableEq, Repr

/-- A schema and rows in external form. -/
structure ResultTable where
  schema : Schema
  rows : List Row
deriving DecidableEq, Repr

namespace ResultTable

/-- The column of a result field, typed after its source column. -/
def columnOf (source : Schema) (field : ResultField) : Except DataError (String × ColumnType) :=
  match source.type? field.source with
  | some type => .ok (field.name, type)
  | none => .error (.columnOutOfRange field.source source.length)

/-- The schema of a result. -/
def schemaOf (source : Schema) (fields : List ResultField) : Except DataError Schema := do
  let columns ← fields.mapM (columnOf source)
  return Schema.ofColumns columns

/-- Which column of a block tells whether the cell of a field is empty, given the position of the
field in the result. -/
abbrev NullColumn := Nat → ResultField → Nat

/-- Emptiness is looked up at the position of the field in the result. -/
def byPosition : NullColumn := fun position _ => position

/-- Emptiness is looked up at the source column of the field. -/
def bySource : NullColumn := fun _ field => field.source

/-- Whether a row of a block has an empty cell in a column. -/
def isNull (b : Block) (row column : Nat) : Bool :=
  match b.nullRows? column with
  | some rows => rows.contains row
  | none => false

/-- One cell of a result row. -/
def cellOf (nullColumn : NullColumn) (b : Block) (row : Nat) (stored : Row) (position : Nat)
    (field : ResultField) (type : ColumnType) : Except DataError Value :=
  if isNull b row (nullColumn position field) then .ok .null
  else
    match stored[field.source]? with
    | some value => type.externalize value
    | none => .error (.columnOutOfRange field.source stored.length)

/-- The cells of a result row, from the given position on. -/
def cellsOf (nullColumn : NullColumn) (b : Block) (row : Nat) (stored : Row) :
    (position : Nat) → List (ResultField × ColumnType) → Except DataError Row
  | _, [] => .ok []
  | position, (field, type) :: columns => do
    let cell ← cellOf nullColumn b row stored position field type
    let cells ← cellsOf nullColumn b row stored (position + 1) columns
    return cell :: cells

/-- The result row of one row of a block. -/
def rowOf (nullColumn : NullColumn) (columns : List (ResultField × ColumnType)) (b : Block)
    (row : Nat) : Except DataError Row := do
  let stored ← b.extractRow row
  cellsOf nullColumn b row stored 0 columns

/-- The result rows of a block. -/
def rowsOf (nullColumn : NullColumn) (columns : List (ResultField × ColumnType)) (b : Block) :
    Except DataError (List Row) :=
  (List.range b.rowCount).mapM (rowOf nullColumn columns b)

/-- The table of blocks under a choice of where emptiness is looked up. -/
def ofBlocksBy (nullColumn : NullColumn) (blocks : List Block) (fields : List ResultField)
    (source : Schema) : Except DataError ResultTable := do
  let schema ← schemaOf source fields
  let rows ← blocks.mapM (rowsOf nullColumn (fields.zip schema.types))
  return ⟨schema, rows.flatten⟩

/-- The table of the blocks of a query, in the order of the blocks. -/
def ofBlocks (blocks : List Block) (fields : List ResultField) (source : Schema) :
    Except DataError ResultTable :=
  ofBlocksBy byPosition blocks fields source

end ResultTable
end ScatterGather
