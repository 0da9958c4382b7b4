import ScatterGather.Block.Basic
import ScatterGather.ColumnType.External

/-!
# Reading cells of a block

A cell is read back from the place that its row and its column determine. Cells that hold nothing
read as the zero value of their type; which cells these are is told by the null rows alone.
-/

namespace ScatterGather
namespace Block

/-- The bytes of the fixed section from a position on. -/
def fixedBytes (b : Block) (position width : Nat) : Except DecodeFault (List UInt8) :=
  if position + width ≤ b.fixed.length then .ok ((b.fixed.drop position).take width)
  else .error (.truncated position)

/-- A number of the fixed section. -/
def fixedNumber (b : Block) (position width : Nat) : Except DecodeFault Nat := do
  let bytes ← b.fixedBytes position width
  return Word.ofBytes bytes

/-- The content of the variable section whose place and length stand at a position. -/
def variableBytes (b : Block) (position : Nat) : Except DecodeFault (List UInt8) := do
  let start ← b.fixedNumber position 4
  let length ← b.fixedNumber (position + 4) 4
  if start + length ≤ b.varying.length then return (b.varying.drop start).take length
  else throw (.outOfBounds start (start + length))

/-- The text that bytes stand for; `row` and `column` tell where they were read. -/
def textOf (row column : Nat) (bytes : List UInt8) : Except DecodeFault String :=
  match Utf8.decode? bytes with
  | some s => .ok s
  | none => .error (.invalidText row column ((Utf8.fault? bytes).getD ⟨0, none⟩))

/-- The cell of a type that starts at a position of the fixed section. -/
def cellAt (b : Block) (type : ColumnType) (row column position : Nat) :
    Except DecodeFault Value :=
  match type with
  | .int | .boolean => do
    let n ← b.fixedNumber position 4
    return .int (UInt32.ofNat n).toInt32
  | .long | .timestamp => do
    let n ← b.fixedNumber position 8
    return .long (UInt64.ofNat n).toInt64
  | .float => do
    let n ← b.fixedNumber position 4
    return .float (UInt32.ofNat n)
  | .double => do
    let n ← b.fixedNumber position 8
    return .double (UInt64.ofNat n)
  | .string => do
    let bytes ← b.variableBytes position
    let s ← textOf row column bytes
    return .string s
  | .bytes => do
    let bytes ← b.variableBytes position
    return .bytes bytes

/-- The stored value of a cell. -/
def value (b : Block) (row column : Nat) : Except DataError Value :=
  if b.rowCount ≤ row then .error (.rowOutOfRange row b.rowCount)
  else
    match b.schema.type? column with
    | none => .error (.columnOutOfRange column b.schema.length)
    | some type =>
      (b.cellAt type row column (row * b.schema.rowSize + b.schema.offset column)).mapError
        .decode

/-- The stored values of a row. -/
def extractRow (b : Block) (row : Nat) : Except DataError Row :=
  (List.range b.schema.length).mapM fun column => b.value row column

/-- A row in external form, each value under its column's type. -/
def externalRow (b : Block) (row : Nat) : Except DataError Row := do
  let values ← b.extractRow row
  (values.zip b.schema.types).mapM fun (value, type) => type.externalize value

end Block
end ScatterGather
