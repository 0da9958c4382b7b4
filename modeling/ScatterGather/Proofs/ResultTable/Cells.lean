import ScatterGather.Proofs.Fallible
import ScatterGather.ResultTable

/-!
# Cells of a result

A result has a row for each row of its blocks, and in it a cell for each field. What must stand in a
cell is said by a relation: nothing where the row of the block is listed as empty, and otherwise the
stored value of the source column in external form.

**Results.** `ofBlocksBy_eq`: a result is made row by row, whatever blocks the rows are in.
`rowOf_eq_ok_iff`: a row of a result holds what must stand in its cells.
`ColumnType.admits_of_externalize`: what is not nothing takes the external form of its type.
-/

namespace ScatterGather

/-- A row of a block is listed among those whose cell of a column is empty. -/
def Block.EmptyAt (b : Block) (number column : Nat) : Prop :=
  ∃ rows, b.nullRows? column = some rows ∧ number ∈ rows

namespace ColumnType

/-- The external forms of a type: points in time and byte strings are shown as text. -/
inductive Admits : ColumnType → Value → Prop
  | int (n : Int32) : Admits .int (.int n)
  | long (n : Int64) : Admits .long (.long n)
  | float (bits : UInt32) : Admits .float (.float bits)
  | double (bits : UInt64) : Admits .double (.double bits)
  | boolean (b : Bool) : Admits .boolean (.boolean b)
  | timestamp (text : String) : Admits .timestamp (.string text)
  | string (s : String) : Admits .string (.string s)
  | bytes (digits : String) : Admits .bytes (.string digits)

theorem Admits.ne_null
    {type : ColumnType} {value : Value}
    (h : type.Admits value) :
    value ≠ .null := by
  cases h <;> simp

theorem externalize_null (type : ColumnType) : type.externalize .null = .ok .null := by
  cases type <;> rfl

/-- Whatever is converted takes the form of the type, unless it is nothing. -/
theorem admits_of_externalize
    {type : ColumnType} {value shown : Value}
    (hvalue : value ≠ .null)
    (h : type.externalize value = .ok shown) :
    type.Admits shown := by
  unfold externalize at h
  split at h
  case h_1 => exact absurd rfl hvalue
  case h_12 n =>
    split at h
    · cases h
      exact .boolean false
    · split at h
      · cases h
        exact .boolean true
      · cases h
  case h_13 milliseconds =>
    split at h
    · cases h
      exact .timestamp _
    · cases h
  case h_21 => cases h
  all_goals
    cases h
    constructor

end ColumnType

namespace ResultTable

variable {nullColumn : NullColumn} {b : Block} {number position column : Nat} {stored : Row}
variable {field : ResultField} {type : ColumnType} {result : Except DataError Value}

theorem isNull_iff : isNull b number column = true ↔ b.EmptyAt number column := by
  unfold isNull Block.EmptyAt
  cases b.nullRows? column <;> simp

/-- What must come of a cell, for a row of a block with its stored values, if it is looked up under
the given column whether the row is empty there. -/
inductive Yields (b : Block) (number : Nat) (stored : Row) (column : Nat) (field : ResultField)
    (type : ColumnType) : Except DataError Value → Prop
  | empty
      (hempty : b.EmptyAt number column) :
      Yields b number stored column field type (.ok .null)
  | converted
      {value : Value}
      (hfull : ¬ b.EmptyAt number column)
      (hvalue : stored[field.source]? = some value) :
      Yields b number stored column field type (type.externalize value)
  | missing
      (hfull : ¬ b.EmptyAt number column)
      (hmissing : stored.length ≤ field.source) :
      Yields b number stored column field type
        (.error (.columnOutOfRange field.source stored.length))

theorem yields_cellOf :
    Yields b number stored (nullColumn position field) field type
      (cellOf nullColumn b number stored position field type) := by
  unfold cellOf
  split
  · next hnull =>
      exact .empty (isNull_iff.1 hnull)
  · next hnull =>
      have hfull : ¬ b.EmptyAt number (nullColumn position field) := mt isNull_iff.2 hnull
      cases hvalue : stored[field.source]? with
      | some value =>
          exact .converted hfull hvalue
      | none =>
          exact .missing hfull (List.getElem?_eq_none_iff.1 hvalue)

theorem Yields.unique
    {result' : Except DataError Value}
    (h : Yields b number stored column field type result)
    (h' : Yields b number stored column field type result') :
    result = result' := by
  cases h with
  | empty hempty =>
      cases h' with
      | empty => rfl
      | converted hfull => exact absurd hempty hfull
      | missing hfull => exact absurd hempty hfull
  | converted hfull hvalue =>
      cases h' with
      | empty hempty => exact absurd hempty hfull
      | converted _ hvalue' =>
          rw [hvalue] at hvalue'
          cases hvalue'
          rfl
      | missing _ hmissing =>
          rw [List.getElem?_eq_none hmissing] at hvalue
          cases hvalue
  | missing hfull hmissing =>
      cases h' with
      | empty hempty => exact absurd hempty hfull
      | converted _ hvalue =>
          rw [List.getElem?_eq_none hmissing] at hvalue
          cases hvalue
      | missing => rfl

theorem cellOf_eq_iff :
    cellOf nullColumn b number stored position field type = result ↔
      Yields b number stored (nullColumn position field) field type result := by
  constructor
  · rintro rfl
    exact yields_cellOf
  · exact yields_cellOf.unique

/-- Cells are read one after the other, each at its position. -/
theorem cellsOf_eq
    (nullColumn : NullColumn) (b : Block) (row : Nat) (stored : Row)
    (position : Nat) (columns : List (ResultField × ColumnType)) :
    cellsOf nullColumn b row stored position columns =
      (columns.zipIdx position).mapM fun entry =>
        cellOf nullColumn b row stored entry.2 entry.1.1 entry.1.2 := by
  induction columns generalizing position with
  | nil =>
      rfl
  | cons column columns ih =>
      rw [List.zipIdx_cons, List.mapM_cons, ← ih (position + 1)]
      rfl

/-- The rows of blocks one after the other, by their blocks and numbers. -/
def lines (blocks : List Block) : List (Block × Nat) :=
  blocks.flatMap fun b => (List.range b.rowCount).map fun number => (b, number)

theorem lines_cons (b : Block) (blocks : List Block) :
    lines (b :: blocks) = (List.range b.rowCount).map (fun number => (b, number)) ++ lines blocks :=
  rfl

theorem lines_append (blocks more : List Block) :
    lines (blocks ++ more) = lines blocks ++ lines more :=
  List.flatMap_append

theorem mem_lines
    {blocks : List Block} {line : Block × Nat} :
    line ∈ lines blocks ↔ line.1 ∈ blocks ∧ line.2 < line.1.rowCount := by
  rcases line with ⟨b, number⟩
  simp [lines]

/-- The rows of a block are made in the order of their numbers. -/
theorem rowsOf_eq
    (nullColumn : NullColumn) (columns : List (ResultField × ColumnType)) (b : Block) :
    rowsOf nullColumn columns b =
      ((List.range b.rowCount).map fun number => (b, number)).mapM fun line =>
        rowOf nullColumn columns line.1 line.2 :=
  Fallible.mapM_congr (List.forall₂_map_right_iff.2 (List.forall₂_same.2 fun _ _ => rfl))

/-- A result is made row by row, whatever blocks the rows are in. -/
theorem ofBlocksBy_eq
    (nullColumn : NullColumn) (blocks : List Block) (fields : List ResultField)
    (source : Schema) :
    ofBlocksBy nullColumn blocks fields source = (do
      let schema ← schemaOf source fields
      let rows ← (lines blocks).mapM fun line =>
        rowOf nullColumn (fields.zip schema.types) line.1 line.2
      return ⟨schema, rows⟩) := by
  have hrows : ∀ columns, blocks.mapM (rowsOf nullColumn columns) =
      (blocks.map fun b => (List.range b.rowCount).map fun number => (b, number)).mapM
        (List.mapM fun line => rowOf nullColumn columns line.1 line.2) := fun columns =>
    Fallible.mapM_congr (List.forall₂_map_right_iff.2
      (List.forall₂_same.2 fun b _ => rowsOf_eq nullColumn columns b))
  unfold ofBlocksBy
  cases schemaOf source fields with
  | error fault =>
      rfl
  | ok schema =>
      show (do let rows ← blocks.mapM (rowsOf nullColumn (fields.zip schema.types)); _) =
        (do let rows ← (lines blocks).mapM _; _)
      rw [hrows, lines, List.flatMap_def, ← Fallible.mapM_flatten]
      cases (blocks.map fun b => (List.range b.rowCount).map fun number => (b, number)).mapM
        (List.mapM fun line => rowOf nullColumn (fields.zip schema.types) line.1 line.2) <;> rfl

/-! ## Rows -/

/-- What must stand in a row of a result: in the cell of each field what must come of it. -/
def Shows (nullColumn : NullColumn) (columns : List (ResultField × ColumnType))
    (line : Block × Nat) (row : Row) : Prop :=
  ∃ stored, line.1.extractRow line.2 = .ok stored ∧
    List.Forall₂
      (fun entry cell => Yields line.1 line.2 stored (nullColumn entry.2 entry.1.1)
        entry.1.1 entry.1.2 (.ok cell))
      columns.zipIdx row

theorem rowOf_eq_ok_iff
    {columns : List (ResultField × ColumnType)} {row : Row} :
    rowOf nullColumn columns b number = .ok row ↔ Shows nullColumn columns (b, number) row := by
  unfold rowOf Shows
  simp only [Fallible.bind_eq_ok_iff, cellsOf_eq, Fallible.mapM_eq_ok_iff, cellOf_eq_iff]

end ResultTable
end ScatterGather
