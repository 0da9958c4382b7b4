import ScatterGather.Proofs.Block.Parts
import ScatterGather.Proofs.Block.RoundTrip
import ScatterGather.Proofs.ResultTable.Cells

/-!
# Results of stored rows

What comes of a row of a block that was made of accepted rows can be told from the row that was
stored, without the block: from its cells, the types that they were stored under, and which of them
had nothing in them.

**Results.** `rowOf_of_holds`: what comes of a row that a block holds. `ofBlocksBy_parts`: blocks
that hold parts of a list of rows give what comes of these rows one after the other.
-/

namespace ScatterGather
namespace ResultTable

variable {b : Block} {rows : List Row} {row : Row} {number : Nat}

/-- The empty cells of a row that a block holds are those in which nothing was stored. -/
theorem isNull_of_holds
    (htypes : b.schema.types.length = b.schema.length)
    (hb : b.Holds rows)
    (hrow : rows[number]? = some row)
    (column : Nat) :
    isNull b number column = decide (row[column]? = some .null) := by
  rcases Nat.lt_or_ge column b.schema.types.length with hcolumn | hcolumn
  · have hnulls := Block.nullRows?_of_holds (by omega) hb hcolumn
    have hmem : number ∈ Block.emptyIn rows column ↔ _ := Block.mem_emptyIn hrow
    rw [isNull, hnulls]
    by_cases hempty : Block.emptyIn rows column = []
    · rw [hempty] at hmem
      simp [hempty, ← hmem]
    · simp [hempty, ← hmem]
  · have hnone : row[column]? = none := by
      have hlength := hb.length_row row (List.mem_of_getElem? hrow)
      exact List.getElem?_eq_none (by omega)
    rw [isNull, Block.nullRows?_of_types_le hb hcolumn, hnone]
    rfl

/-- What comes of a cell for a row that was stored under the given types. -/
def cellOfStored (nullColumn : NullColumn) (types : List ColumnType) (row : Row)
    (entry : (ResultField × ColumnType) × Nat) : Except DataError Value :=
  let stored := row.zipWith (fun cell type => cell.stored type) types
  if row[nullColumn entry.2 entry.1.1]? = some .null then .ok .null
  else
    match stored[entry.1.1.source]? with
    | some value => entry.1.2.externalize value
    | none => .error (.columnOutOfRange entry.1.1.source stored.length)

/-- What comes of a row that was stored under the given types. -/
def rowOfStored (nullColumn : NullColumn) (columns : List (ResultField × ColumnType))
    (types : List ColumnType) (row : Row) : Except DataError Row :=
  columns.zipIdx.mapM (cellOfStored nullColumn types row)

variable {nullColumn : NullColumn} {columns : List (ResultField × ColumnType)}

theorem rowOf_of_holds
    (htypes : b.schema.types.length = b.schema.length)
    (hb : b.Holds rows)
    (hrow : rows[number]? = some row) :
    rowOf nullColumn columns b number = rowOfStored nullColumn columns b.schema.types row := by
  have hread := Block.extractRow_of_holds htypes hb hrow
  have hnull := isNull_of_holds htypes hb hrow
  rw [rowOf, hread]
  show cellsOf _ _ _ _ _ _ = _
  rw [cellsOf_eq]
  refine Fallible.mapM_congr (List.forall₂_same.2 fun entry _ => ?_)
  exact if_congr (by rw [hnull, decide_eq_true_eq]) rfl rfl

section Parts

variable {schema : Schema} {parts : List (List Row)} {blocks : List Block}

theorem forall₂_lines_of_parts
    (htypes : schema.types.length = schema.length)
    (hblocks : Block.AreParts schema parts blocks) :
    List.Forall₂
      (fun line row => rowOf nullColumn columns line.1 line.2 =
        rowOfStored nullColumn columns schema.types row)
      (lines blocks) parts.flatten := by
  induction hblocks with
  | nil =>
      exact .nil
  | @cons part b parts blocks hpart _ ih =>
      obtain ⟨rfl, hb⟩ := Block.holds_ofRows (by omega) hpart
      rw [lines_cons, List.flatten_cons]
      refine List.rel_append ?_ ih
      refine List.forall₂_map_left_iff.2 (List.forall₂_iff_get.2 ⟨by simp [hb.rowCount_eq], ?_⟩)
      intro i hi hi'
      have hrow : part[i]? = some part[i] := List.getElem?_eq_getElem hi'
      simpa using rowOf_of_holds htypes hb hrow

/-- How stored rows are spread over blocks does not show in the rows of a result. -/
theorem mapM_lines_of_parts
    (htypes : schema.types.length = schema.length)
    (hblocks : Block.AreParts schema parts blocks) :
    (lines blocks).mapM (fun line => rowOf nullColumn columns line.1 line.2) =
      parts.flatten.mapM (rowOfStored nullColumn columns schema.types) :=
  Fallible.mapM_congr (forall₂_lines_of_parts htypes hblocks)

theorem ofBlocksBy_parts
    {fields : List ResultField} {source : Schema}
    (htypes : schema.types.length = schema.length)
    (hblocks : Block.AreParts schema parts blocks) :
    ofBlocksBy nullColumn blocks fields source = (do
      let result ← schemaOf source fields
      let rows ← parts.flatten.mapM
        (rowOfStored nullColumn (fields.zip result.types) schema.types)
      return ⟨result, rows⟩) := by
  simp only [ofBlocksBy_eq, mapM_lines_of_parts htypes hblocks]

end Parts

end ResultTable
end ScatterGather
