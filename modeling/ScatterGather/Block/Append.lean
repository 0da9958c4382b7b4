import ScatterGather.Block.Basic

/-!
# Adding rows to a block

A row is added as a whole or not at all. The number of its values is checked first, then the number
of rows, then its cells from left to right.
-/

namespace ScatterGather

/-- Places, lengths and row numbers are stored in 32 bits. -/
def wordLimit : Nat := UInt32.size

/-- The bytes that a cell adds to the fixed and to the variable section. -/
structure CellBytes where
  fixed : List UInt8
  varying : List UInt8
deriving DecidableEq, Repr

namespace CellBytes

/-- A cell of fixed width. -/
def inline (width n : Nat) : CellBytes :=
  ⟨Word.toBytes width n, []⟩

/-- A cell whose content goes to the variable section, `start` bytes from its beginning. -/
def outlined (start : Nat) (content : List UInt8) : Except EncodeFault CellBytes :=
  if wordLimit ≤ start then .error .sectionTooLong
  else if wordLimit ≤ content.length then .error .valueTooLong
  else .ok ⟨Word.toBytes 4 start ++ Word.toBytes 4 content.length, content⟩

/-- The bytes of a value in a column of the given type and number, when the variable section has
`start` bytes so far. -/
def ofValue (type : ColumnType) (column start : Nat) (value : Value) :
    Except EncodeFault CellBytes :=
  match type, value with
  | type, .null => .ok (inline type.width 0)
  | .int, .int n => .ok (inline 4 n.toUInt32.toNat)
  | .boolean, .boolean b => .ok (inline 4 b.toNat)
  | .boolean, .int n =>
    if n = 0 ∨ n = 1 then .ok (inline 4 n.toUInt32.toNat)
    else .error (.mismatch value column type)
  | .long, .long n | .timestamp, .long n => .ok (inline 8 n.toUInt64.toNat)
  | .float, .float bits => .ok (inline 4 bits.toNat)
  | .double, .double bits => .ok (inline 8 bits.toNat)
  | .string, .string s => outlined start (Utf8.encode s)
  | .bytes, .bytes bs => outlined start bs
  | _, _ => .error (.mismatch value column type)

/-- The bytes of neighbouring cells, from the given column on. -/
def ofCells (column start : Nat) : List (Value × ColumnType) → Except EncodeFault CellBytes
  | [] => .ok ⟨[], []⟩
  | (value, type) :: cells => do
    let first ← ofValue type column start value
    let rest ← ofCells (column + 1) (start + first.varying.length) cells
    return ⟨first.fixed ++ rest.fixed, first.varying ++ rest.varying⟩

end CellBytes

namespace Block

/-- The null rows of all columns after the given cells were added as row `row`. -/
def markNulls (row : Nat) (cells : List (Value × ColumnType)) (nullRows : List (List Nat)) :
    List (List Nat) :=
  nullRows.mapIdx fun column rows =>
    if (cells[column]?.map Prod.fst) = some .null then rows ++ [row] else rows

/-- The block with one more row, or the reason why the row is refused. -/
def append (b : Block) (row : Row) : Except EncodeFault Block :=
  if row.length ≠ b.schema.length then .error (.rowLength row.length b.schema)
  else if wordLimit ≤ b.rowCount then .error .rowCount
  else do
    let cells := row.zip b.schema.types
    let bytes ← CellBytes.ofCells 0 b.varying.length cells
    return { b with
      rowCount := b.rowCount + 1
      fixed := b.fixed ++ bytes.fixed
      varying := b.varying ++ bytes.varying
      nullRows := markNulls b.rowCount cells b.nullRows }

/-- Adds rows in turn and stops at the first that is refused. -/
def appendAll (b : Block) : List Row → Except EncodeFault Block
  | [] => .ok b
  | row :: rows => do
    let grown ← b.append row
    grown.appendAll rows

/-- The block of the given rows. -/
def ofRows (schema : Schema) (rows : List Row) : Except EncodeFault Block :=
  (empty schema).appendAll rows

/-- Adds one row to a block in place, one part of the block after the other. What was written before
a refusal would stay written. -/
def addRow (row : Row) : ExceptT EncodeFault (StateM Block) Unit := do
  let b ← get
  if row.length ≠ b.schema.length then throw (.rowLength row.length b.schema)
  if wordLimit ≤ b.rowCount then throw .rowCount
  let cells := row.zip b.schema.types
  let bytes ← MonadExcept.ofExcept (CellBytes.ofCells 0 b.varying.length cells)
  modify fun b => { b with fixed := b.fixed ++ bytes.fixed }
  modify fun b => { b with varying := b.varying ++ bytes.varying }
  modify fun b => { b with nullRows := markNulls b.rowCount cells b.nullRows }
  modify fun b => { b with rowCount := b.rowCount + 1 }

/-- Offers one row to a block: whether it is refused, and the block after that. -/
def offer (b : Block) (row : Row) : Except EncodeFault Unit × Block :=
  (addRow row).run.run b

/-- What became of one row that was offered: whether it was refused, and the rows held after it. -/
structure Offered where
  refused : Option EncodeFault
  rowCount : Nat
deriving DecidableEq, Repr

/-- What is noted of a row that was offered, given the block after it. -/
def noted (answer : Except EncodeFault Unit) (b : Block) : Offered :=
  match answer with
  | .ok () => ⟨none, b.rowCount⟩
  | .error fault => ⟨some fault, b.rowCount⟩

/-- Offers rows in turn and goes on after those that are refused. -/
def offerAll (b : Block) : List Row → List Offered × Block
  | [] => ([], b)
  | row :: rows =>
    let (answer, next) := b.offer row
    let (answers, built) := next.offerAll rows
    (noted answer next :: answers, built)

end Block
end ScatterGather
