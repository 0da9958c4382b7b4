import ScatterGather.Block.Append
import ScatterGather.Block.Read
import ScatterGather.Proofs.Fallible

/-!
# Where the cells of a block stand

The bytes of a row follow those of the rows before it, in both sections of a block, and within a row
the bytes of a cell follow those of the cells before it. Adding rows moves nothing.

**Results.** `Block.holds_ofRows`: a block of accepted rows holds each of them at its place, has as
many rows as were accepted, and lists the empty cells of every column.
-/

namespace ScatterGather

/-- `piece` stands in `whole`, `position` bytes from its start. -/
def Stands (piece : List UInt8) (position : Nat) (whole : List UInt8) : Prop :=
  ∃ before after, whole = before ++ (piece ++ after) ∧ before.length = position

namespace Stands

variable {piece whole : List UInt8} {position : Nat}

theorem append (h : Stands piece position whole) (more : List UInt8) :
    Stands piece position (whole ++ more) := by
  obtain ⟨before, after, rfl, hlength⟩ := h
  exact ⟨before, after ++ more, by simp, hlength⟩

theorem trans
    {inner : List UInt8} {within : Nat}
    (hinner : Stands inner within piece)
    (h : Stands piece position whole) :
    Stands inner (position + within) whole := by
  obtain ⟨before, after, rfl, rfl⟩ := h
  obtain ⟨first, last, rfl, rfl⟩ := hinner
  exact ⟨before ++ first, last ++ after, by simp, by simp⟩

theorem left (first second : List UInt8) : Stands first 0 (first ++ second) :=
  ⟨[], second, rfl, rfl⟩

theorem right (first second : List UInt8) : Stands second first.length (first ++ second) :=
  ⟨first, [], by simp, rfl⟩

theorem le_length (h : Stands piece position whole) :
    position + piece.length ≤ whole.length := by
  obtain ⟨before, after, rfl, rfl⟩ := h
  simp only [List.length_append]
  omega

theorem take_drop (h : Stands piece position whole) :
    (whole.drop position).take piece.length = piece := by
  obtain ⟨before, after, rfl, rfl⟩ := h
  simp

end Stands

namespace CellBytes

/-- What content of varying length adds to the sections, if it can be stored. -/
theorem outlined_eq_ok_iff
    {start : Nat} {content : List UInt8} {cell : CellBytes} :
    outlined start content = .ok cell ↔
      start < wordLimit ∧ content.length < wordLimit ∧
        cell = ⟨Word.toBytes 4 start ++ Word.toBytes 4 content.length, content⟩ := by
  unfold outlined
  split
  · next hstart => simp [Nat.not_lt.2 hstart]
  · next hstart =>
      split
      · next hlength => simp [Nat.not_lt.2 hlength]
      · next hlength => simp [Nat.not_le.1 hstart, Nat.not_le.1 hlength, eq_comm]

/-- A cell takes as many bytes of the fixed section as its type says. -/
theorem length_fixed_ofValue
    {type : ColumnType} {column start : Nat} {value : Value} {cell : CellBytes}
    (h : ofValue type column start value = .ok cell) :
    cell.fixed.length = type.width := by
  have hinline : ∀ width n, (inline width n).fixed.length = width :=
    fun width n => Word.length_toBytes width n
  have houtlined : ∀ content, outlined start content = .ok cell → cell.fixed.length = 8 := by
    intro content hcell
    obtain ⟨-, -, rfl⟩ := outlined_eq_ok_iff.1 hcell
    simp
  unfold ofValue at h
  split at h
  case h_4 =>
    split at h
    · cases h
      exact hinline 4 _
    · cases h
  case h_9 => exact houtlined _ h
  case h_10 => exact houtlined _ h
  case h_11 => cases h
  all_goals
    cases h
    exact hinline _ _

/-- The cells of a row are encoded from left to right, each after the content of those before it. -/
theorem ofCells_cons_eq_ok
    {value : Value} {type : ColumnType} {cells : List (Value × ColumnType)}
    {column start : Nat} {bytes : CellBytes}
    (h : ofCells column start ((value, type) :: cells) = .ok bytes) :
    ∃ first rest,
      ofValue type column start value = .ok first ∧
      ofCells (column + 1) (start + first.varying.length) cells = .ok rest ∧
      bytes = ⟨first.fixed ++ rest.fixed, first.varying ++ rest.varying⟩ := by
  rw [ofCells] at h
  obtain ⟨first, hfirst, h⟩ := Fallible.bind_eq_ok_iff.1 h
  obtain ⟨rest, hrest, h⟩ := Fallible.bind_eq_ok_iff.1 h
  injection h with h
  exact ⟨first, rest, hfirst, hrest, h.symm⟩

theorem length_fixed_ofCells
    {cells : List (Value × ColumnType)} {column start : Nat} {bytes : CellBytes}
    (h : ofCells column start cells = .ok bytes) :
    bytes.fixed.length = Schema.totalWidth (cells.map Prod.snd) := by
  induction cells generalizing column start bytes with
  | nil =>
      cases h
      rfl
  | cons entry cells ih =>
      obtain ⟨value, type⟩ := entry
      obtain ⟨first, rest, hfirst, hrest, rfl⟩ := ofCells_cons_eq_ok h
      have hwidth := length_fixed_ofValue hfirst
      have hlength := ih hrest
      simp [Schema.totalWidth, hwidth, hlength]

/-- A cell of a row is encoded after the cells before it, and stands after them in both sections. -/
theorem ofCells_split
    {cells : List (Value × ColumnType)} {column start : Nat} {bytes : CellBytes}
    (h : ofCells column start cells = .ok bytes)
    {index : Nat} {value : Value} {type : ColumnType}
    (hcell : cells[index]? = some (value, type)) :
    ∃ before cell,
      ofCells column start (cells.take index) = .ok before ∧
      ofValue type (column + index) (start + before.varying.length) value = .ok cell ∧
      Stands cell.fixed before.fixed.length bytes.fixed ∧
      Stands cell.varying before.varying.length bytes.varying := by
  induction cells generalizing column start bytes index with
  | nil =>
      simp at hcell
  | cons entry cells ih =>
      obtain ⟨firstValue, firstType⟩ := entry
      obtain ⟨first, rest, hfirst, hrest, rfl⟩ := ofCells_cons_eq_ok h
      cases index with
      | zero =>
          simp only [List.getElem?_cons_zero, Option.some.injEq, Prod.mk.injEq] at hcell
          obtain ⟨rfl, rfl⟩ := hcell
          exact ⟨⟨[], []⟩, first, rfl, hfirst, Stands.left _ _, Stands.left _ _⟩
      | succ index =>
          rw [List.getElem?_cons_succ] at hcell
          obtain ⟨before, cell, hbefore, hvalue, hfixed, hvarying⟩ := ih hrest hcell
          refine ⟨⟨first.fixed ++ before.fixed, first.varying ++ before.varying⟩, cell,
            ?_, ?_, ?_, ?_⟩
          · rw [List.take_succ_cons, ofCells, hfirst]
            exact Fallible.bind_eq_ok_iff.2
              ⟨first, rfl, Fallible.bind_eq_ok_iff.2 ⟨before, hbefore, rfl⟩⟩
          · rw [← hvalue, List.length_append]
            congr 1 <;> omega
          · simpa using hfixed.trans (Stands.right first.fixed rest.fixed)
          · simpa using hvarying.trans (Stands.right first.varying rest.varying)

/-- The cells of a row stand one after the other, each encoded for the place it has. -/
theorem stands_ofCells
    {cells : List (Value × ColumnType)} {column start : Nat} {bytes : CellBytes}
    (h : ofCells column start cells = .ok bytes)
    {index : Nat} {value : Value} {type : ColumnType}
    (hcell : cells[index]? = some (value, type)) :
    ∃ cell earlier,
      ofValue type (column + index) (start + earlier) value = .ok cell ∧
      Stands cell.fixed (Schema.totalWidth ((cells.take index).map Prod.snd)) bytes.fixed ∧
      Stands cell.varying earlier bytes.varying := by
  obtain ⟨before, cell, hbefore, hvalue, hfixed, hvarying⟩ := ofCells_split h hcell
  rw [length_fixed_ofCells hbefore] at hfixed
  exact ⟨cell, before.varying.length, hvalue, hfixed, hvarying⟩

end CellBytes

namespace Block

/-- The rows among the given ones whose cell of a column is empty, by their numbers. -/
def emptyIn (rows : List Row) (column : Nat) : List Nat :=
  (List.range rows.length).filter fun row => (rows[row]?.bind (·[column]?)) = some .null

/-- A block holds a row at a place of its own in both sections. -/
def HasRow (b : Block) (number : Nat) (row : Row) : Prop :=
  ∃ start bytes,
    CellBytes.ofCells 0 start (row.zip b.schema.types) = .ok bytes ∧
    Stands bytes.fixed (number * b.schema.rowSize) b.fixed ∧
    Stands bytes.varying start b.varying

/-- What a block of the given rows has in its sections and in its lists of empty cells. -/
structure Holds (b : Block) (rows : List Row) : Prop where
  rowCount_eq : b.rowCount = rows.length
  length_fixed : b.fixed.length = rows.length * b.schema.rowSize
  length_row : ∀ row ∈ rows, row.length = b.schema.length
  hasRow : ∀ number row, rows[number]? = some row → b.HasRow number row
  length_nullRows : b.nullRows.length = b.schema.length
  nullRows_eq : ∀ column rows', b.nullRows[column]? = some rows' →
    rows' = if column < b.schema.types.length then emptyIn rows column else []

theorem holds_empty (schema : Schema) : (empty schema).Holds [] where
  rowCount_eq := rfl
  length_fixed := by simp [empty]
  length_row := by simp
  hasRow := by simp
  length_nullRows := by simp [empty]
  nullRows_eq := by
    intro column rows' h
    simp only [empty, List.getElem?_replicate] at h
    split at h
    · cases h
      simp [emptyIn]
    · cases h

/-- What an accepted row adds to a block. -/
theorem append_eq_ok
    {b grown : Block} {row : Row}
    (h : b.append row = .ok grown) :
    row.length = b.schema.length ∧
    ∃ bytes,
      CellBytes.ofCells 0 b.varying.length (row.zip b.schema.types) = .ok bytes ∧
      grown = { b with
        rowCount := b.rowCount + 1
        fixed := b.fixed ++ bytes.fixed
        varying := b.varying ++ bytes.varying
        nullRows := markNulls b.rowCount (row.zip b.schema.types) b.nullRows } := by
  unfold append at h
  split at h
  · cases h
  next hlength =>
    split at h
    · cases h
    · obtain ⟨bytes, hbytes, h⟩ := Fallible.bind_eq_ok_iff.1 h
      injection h with h
      exact ⟨Decidable.not_not.1 hlength, bytes, hbytes, h.symm⟩

theorem emptyIn_append
    (rows : List Row) (row : Row) (column : Nat) :
    emptyIn (rows ++ [row]) column =
      emptyIn rows column ++ if row[column]? = some .null then [rows.length] else [] := by
  have hbefore : ∀ number ∈ List.range rows.length,
      decide (((rows ++ [row])[number]?.bind (·[column]?)) = some Value.null) =
        decide ((rows[number]?.bind (·[column]?)) = some Value.null) := by
    intro number hnumber
    rw [List.getElem?_append_left (List.mem_range.1 hnumber)]
  simp only [emptyIn, List.length_append, List.length_singleton, List.range_succ,
    List.filter_append, List.filter_congr hbefore]
  congr 1
  by_cases hnull : row[column]? = some .null <;> simp [hnull]

theorem mem_emptyIn
    {rows : List Row} {row : Row} {number column : Nat}
    (hrow : rows[number]? = some row) :
    number ∈ emptyIn rows column ↔ row[column]? = some .null := by
  obtain ⟨hlt, rfl⟩ := List.getElem?_eq_some_iff.1 hrow
  simp [emptyIn, hlt]

theorem getElem?_zip_map_fst
    {row : Row} {types : List ColumnType} {column : Nat}
    (hlt : column < types.length) :
    (row.zip types)[column]?.map Prod.fst = row[column]? := by
  have htype : types[column]? = some types[column] := List.getElem?_eq_getElem hlt
  rw [List.zip, List.getElem?_zipWith, htype]
  cases row[column]? <;> rfl

theorem map_fst_take_zip
    {row : Row} {types : List ColumnType} {column : Nat}
    (h : column ≤ types.length) :
    ((row.zip types).take column).map Prod.fst = row.take column := by
  rw [List.zip, List.take_zipWith, ← List.zip, List.map_fst_zip]
  simp only [List.length_take]
  omega

theorem getElem?_markNulls
    (number : Nat) (cells : List (Value × ColumnType)) (nullRows : List (List Nat))
    (column : Nat) :
    (markNulls number cells nullRows)[column]? =
      nullRows[column]?.map fun rows =>
        if cells[column]?.map Prod.fst = some .null then rows ++ [number] else rows := by
  rw [markNulls, List.getElem?_mapIdx]

theorem HasRow.append
    {b : Block} {number : Nat} {row : Row}
    (h : b.HasRow number row)
    (grown : Block)
    (hschema : grown.schema = b.schema)
    {moreFixed moreVarying : List UInt8}
    (hfixed : grown.fixed = b.fixed ++ moreFixed)
    (hvarying : grown.varying = b.varying ++ moreVarying) :
    grown.HasRow number row := by
  obtain ⟨start, bytes, hbytes, hinFixed, hinVarying⟩ := h
  refine ⟨start, bytes, ?_, ?_, ?_⟩
  · rw [hschema]
    exact hbytes
  · rw [hschema, hfixed]
    exact hinFixed.append _
  · rw [hvarying]
    exact hinVarying.append _

/-- A row that is held after another one was added was held before, or is the one added. -/
theorem of_getElem?_concat
    {rows : List Row} {row other : Row} {number : Nat}
    (h : (rows ++ [row])[number]? = some other) :
    (number < rows.length ∧ rows[number]? = some other) ∨
      (number = rows.length ∧ other = row) := by
  rw [List.getElem?_append] at h
  split at h
  · next hlt => exact Or.inl ⟨hlt, h⟩
  · next hge =>
      rw [List.getElem?_singleton] at h
      split at h
      · cases h
        exact Or.inr ⟨by omega, rfl⟩
      · cases h

theorem Holds.append
    {b grown : Block} {rows : List Row} {row : Row}
    (htypes : b.schema.types.length ≤ b.schema.length)
    (hb : b.Holds rows)
    (h : b.append row = .ok grown) :
    grown.Holds (rows ++ [row]) := by
  obtain ⟨hlength, bytes, hbytes, rfl⟩ := append_eq_ok h
  have hwidth : bytes.fixed.length = b.schema.rowSize := by
    rw [CellBytes.length_fixed_ofCells hbytes, List.map_snd_zip (by omega)]
    rfl
  refine ⟨?_, ?_, ?_, ?_, ?_, ?_⟩
  · simp [hb.rowCount_eq]
  · simp only [List.length_append, hb.length_fixed, hwidth, List.length_singleton]
    rw [Nat.add_mul, Nat.one_mul]
  · intro other hother
    rcases List.mem_append.1 hother with hother | hother
    · exact hb.length_row other hother
    · rw [List.mem_singleton.1 hother]
      exact hlength
  · intro number other hother
    rcases of_getElem?_concat hother with ⟨-, hbefore⟩ | ⟨rfl, rfl⟩
    · exact (hb.hasRow number other hbefore).append _ rfl rfl rfl
    · refine ⟨b.varying.length, bytes, hbytes, ?_, Stands.right _ _⟩
      show Stands bytes.fixed (rows.length * b.schema.rowSize) (b.fixed ++ bytes.fixed)
      rw [← hb.length_fixed]
      exact Stands.right _ _
  · simp [markNulls, hb.length_nullRows]
  · intro column rows' hrows'
    rw [getElem?_markNulls] at hrows'
    obtain ⟨old, hold, rfl⟩ := Option.map_eq_some_iff.1 hrows'
    have holdEq := hb.nullRows_eq column old hold
    show (if (row.zip b.schema.types)[column]?.map Prod.fst = some .null
        then old ++ [b.rowCount] else old) =
      if column < b.schema.types.length then emptyIn (rows ++ [row]) column else []
    by_cases hlt : column < b.schema.types.length
    · rw [getElem?_zip_map_fst hlt, if_pos hlt, emptyIn_append, hb.rowCount_eq]
      rw [if_pos hlt] at holdEq
      by_cases hnull : row[column]? = some .null <;> simp [hnull, holdEq]
    · have hcell : (row.zip b.schema.types)[column]? = none := by
        apply List.getElem?_eq_none
        simp only [List.length_zip]
        omega
      rw [if_neg hlt] at holdEq
      rw [hcell, if_neg hlt, if_neg (by simp), holdEq]

theorem schema_append
    {b grown : Block} {row : Row}
    (h : b.append row = .ok grown) :
    grown.schema = b.schema := by
  obtain ⟨-, bytes, -, rfl⟩ := append_eq_ok h
  rfl

theorem schema_appendAll
    {b grown : Block} {rows : List Row}
    (h : b.appendAll rows = .ok grown) :
    grown.schema = b.schema := by
  induction rows generalizing b with
  | nil =>
      cases h
      rfl
  | cons row rows ih =>
      obtain ⟨next, hnext, hrest⟩ := Fallible.bind_eq_ok_iff.1 h
      exact (ih hrest).trans (schema_append hnext)

/-- Rows that are accepted one after the other are all held in the end. -/
theorem Holds.appendAll
    {b grown : Block} {earlier rows : List Row}
    (htypes : b.schema.types.length ≤ b.schema.length)
    (hb : b.Holds earlier)
    (h : b.appendAll rows = .ok grown) :
    grown.schema = b.schema ∧ grown.Holds (earlier ++ rows) := by
  induction rows generalizing b earlier with
  | nil =>
      cases h
      simpa using hb
  | cons row rows ih =>
      rw [Block.appendAll] at h
      obtain ⟨next, hnext, h⟩ := Fallible.bind_eq_ok_iff.1 h
      have hschema := schema_append hnext
      obtain ⟨hgrown, hholds⟩ :=
        ih (by rw [hschema]; exact htypes) (hb.append htypes hnext) h
      refine ⟨hgrown.trans hschema, ?_⟩
      simpa using hholds

/-- A block of accepted rows holds all of them. -/
theorem holds_ofRows
    {schema : Schema} {rows : List Row} {b : Block}
    (htypes : schema.types.length ≤ schema.length)
    (h : ofRows schema rows = .ok b) :
    b.schema = schema ∧ b.Holds rows :=
  Holds.appendAll htypes (holds_empty schema) h

end Block
end ScatterGather
