import ScatterGather.ColumnType

/-!
# Schemas

A schema lists the names and the types of its columns. Schemas built from columns have as many
names as types; a schema that was read from bytes may have more of either. The number of columns is
the number of names.
-/

namespace ScatterGather

/-- The names and the types of columns. -/
structure Schema where
  names : List String
  types : List ColumnType
deriving DecidableEq, Repr

namespace Schema

/-- The schema of a list of columns. -/
def ofColumns (columns : List (String × ColumnType)) : Schema :=
  ⟨columns.map Prod.fst, columns.map Prod.snd⟩

/-- The number of columns. -/
def length (s : Schema) : Nat :=
  s.names.length

/-- A schema without columns. -/
def isEmpty (s : Schema) : Bool :=
  s.names.isEmpty

/-- The name of a column. -/
def name? (s : Schema) (column : Nat) : Option String :=
  s.names[column]?

/-- The type of a column. -/
def type? (s : Schema) (column : Nat) : Option ColumnType :=
  s.types[column]?

/-- How a schema is shown to a reader. -/
def text (s : Schema) : String :=
  let columns := s.names.zip s.types |>.map fun (name, type) => name ++ "(" ++ type.name ++ ")"
  "[" ++ String.intercalate ", " columns ++ "]"

/-- The widths of all types together. -/
def totalWidth : List ColumnType → Nat
  | [] => 0
  | type :: types => type.width + totalWidth types

/-- The bytes from the start of one row to the start of the next. -/
def rowSize (s : Schema) : Nat :=
  totalWidth s.types

/-- Where the cell of a column starts within its row. -/
def offset (s : Schema) (column : Nat) : Nat :=
  totalWidth (s.types.take column)

/-- Where the cells of all columns start within their row. -/
def offsets (s : Schema) : List Nat :=
  (List.range s.types.length).map s.offset

end Schema
end ScatterGather
