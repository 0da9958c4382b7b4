import ScatterGather.Proofs.Block.Accepting
import ScatterGather.Proofs.Block.RoundTrip

/-!
# The variable section is tiled by its cells

A cell of varying length holds where its content starts in the variable section and how many bytes
it has. The contents follow one another row by row, and from left to right within a row. Empty cells
have none, and rows that are refused leave none behind.

**Results.** `Block.varying_tiled`: the pieces that the cells of a block name, read from the block
alone, follow one another from the first byte of the variable section to its last, and each is the
content of its own cell.
-/

namespace ScatterGather

/-! ## Pieces that follow one another -/

/-- A part of a list of bytes: where it starts, and how many bytes it has. -/
structure Piece where
  start : Nat
  length : Nat
deriving DecidableEq, Repr

namespace Piece

/-- Where a piece has ended. -/
def stop (p : Piece) : Nat :=
  p.start + p.length

/-- The bytes of a piece. -/
def of (p : Piece) (whole : List UInt8) : List UInt8 :=
  (whole.drop p.start).take p.length

/-- Pieces that lead from one position to another, each from where the one before it has ended. -/
def Tiles : Nat → List Piece → Nat → Prop
  | start, [], stop => start = stop
  | start, p :: ps, stop => p.start = start ∧ Tiles p.stop ps stop

namespace Tiles

variable {start stop : Nat} {ps : List Piece}

theorem within
    (h : Tiles start ps stop) :
    start ≤ stop ∧ ∀ p ∈ ps, start ≤ p.start ∧ p.stop ≤ stop := by
  induction ps generalizing start with
  | nil =>
      cases h
      simp
  | cons p ps ih =>
      obtain ⟨rfl, hrest⟩ := h
      obtain ⟨hle, hall⟩ := ih hrest
      have hstop : p.start ≤ p.stop := Nat.le_add_right _ _
      refine ⟨by omega, List.forall_mem_cons.2 ⟨⟨Nat.le_refl _, hle⟩, fun q hq => ?_⟩⟩
      exact ⟨Nat.le_trans hstop (hall q hq).1, (hall q hq).2⟩

/-- Pieces are in order and do not overlap. -/
theorem pairwise
    (h : Tiles start ps stop) :
    ps.Pairwise fun p q => p.stop ≤ q.start := by
  induction ps generalizing start with
  | nil =>
      exact .nil
  | cons p ps ih =>
      obtain ⟨-, hrest⟩ := h
      exact .cons (fun q hq => (hrest.within.2 q hq).1) (ih hrest)

/-- No position lies between pieces. -/
theorem covers
    (h : Tiles start ps stop)
    {position : Nat}
    (hstart : start ≤ position)
    (hstop : position < stop) :
    ∃ p ∈ ps, p.start ≤ position ∧ position < p.stop := by
  induction ps generalizing start with
  | nil =>
      cases h
      omega
  | cons p ps ih =>
      obtain ⟨rfl, hrest⟩ := h
      rcases Nat.lt_or_ge position p.stop with hinside | hafter
      · exact ⟨p, List.mem_cons_self, hstart, hinside⟩
      · obtain ⟨q, hq, hin⟩ := ih hrest hafter
        exact ⟨q, List.mem_cons_of_mem _ hq, hin⟩

end Tiles

/-- The pieces of contents that follow one another. -/
def layOut (start : Nat) : List (List UInt8) → List Piece
  | [] => []
  | content :: contents => ⟨start, content.length⟩ :: layOut (start + content.length) contents

theorem layOut_append (start : Nat) (contents more : List (List UInt8)) :
    layOut start (contents ++ more) =
      layOut start contents ++ layOut (start + contents.flatten.length) more := by
  induction contents generalizing start with
  | nil =>
      rfl
  | cons content contents ih =>
      simp only [List.cons_append, layOut, ih, List.flatten_cons, List.length_append,
        Nat.add_assoc]

theorem tiles_layOut (start : Nat) (contents : List (List UInt8)) :
    Tiles start (layOut start contents) (start + contents.flatten.length) := by
  induction contents generalizing start with
  | nil =>
      rfl
  | cons content contents ih =>
      refine ⟨rfl, ?_⟩
      rw [List.flatten_cons, List.length_append, ← Nat.add_assoc]
      exact ih _

theorem map_of_layOut
    {start : Nat} {contents : List (List UInt8)} {whole : List UInt8}
    (h : Stands contents.flatten start whole) :
    (layOut start contents).map (·.of whole) = contents := by
  induction contents generalizing start with
  | nil =>
      rfl
  | cons content contents ih =>
      rw [List.flatten_cons] at h
      have hfirst := ((Stands.left content contents.flatten).trans h).take_drop
      have hrest := ih ((Stands.right content contents.flatten).trans h)
      exact congrArg₂ List.cons hfirst hrest

/-- Pieces that are read part after part. `before i` is the content before part `i`. -/
theorem mapM_layOut
    {ε α : Type} {f : α → Except ε Piece} {part : Nat → List α} {count : Nat}
    (before : Nat → List (List UInt8)) (start : Nat)
    (hzero : before 0 = [])
    (hstep : ∀ i < count, ∃ own, before (i + 1) = before i ++ own ∧
      (part i).mapM f = .ok (layOut (start + (before i).flatten.length) own)) :
    ((List.range count).flatMap part).mapM f = .ok (layOut start (before count)) := by
  induction count with
  | zero =>
      rw [hzero]
      rfl
  | succ count ih =>
      have hbefore := ih fun i hi => hstep i (Nat.lt_succ_of_lt hi)
      obtain ⟨own, hown, hlast⟩ := hstep count (Nat.lt_succ_self count)
      rw [List.range_succ, List.flatMap_append, List.flatMap_singleton, List.mapM_append, hbefore,
        hlast, hown, layOut_append]
      rfl

end Piece

/-! ## What a row adds to the variable section -/

theorem CellBytes.varying_ofCells
    {cells : List (Value × ColumnType)} {column start : Nat} {bytes : CellBytes}
    (h : ofCells column start cells = .ok bytes) :
    bytes.varying = contentOf (cells.map Prod.fst) := by
  induction cells generalizing column start bytes with
  | nil =>
      cases h
      rfl
  | cons entry cells ih =>
      obtain ⟨value, type⟩ := entry
      obtain ⟨first, rest, hfirst, hrest, rfl⟩ := ofCells_cons_eq_ok h
      have happend := contentOf_append [value] (cells.map Prod.fst)
      rw [← varying_ofValue hfirst, ← ih hrest] at happend
      exact happend.symm

namespace Block

variable {b grown : Block} {rows : List Row} {row : Row} {number column : Nat}
variable {value : Value} {type : ColumnType} {content : List UInt8}

/-- The values that come before a cell, row by row. -/
def valuesBefore (rows : List Row) (number column : Nat) : List Value :=
  (rows.take number).flatten ++ (rows[number]?.getD []).take column

theorem contentLength_valuesBefore
    (hrow : rows[number]? = some row)
    (column : Nat) :
    contentLength (valuesBefore rows number column) =
      contentLength (rows.take number).flatten + contentLength (row.take column) := by
  rw [valuesBefore, hrow, contentLength_append]
  rfl

/-- The values before a cell, the cell, and the values after it are all there are. -/
theorem flatten_eq_valuesBefore
    (hrow : rows[number]? = some row)
    (hvalue : row[column]? = some value) :
    rows.flatten = valuesBefore rows number column ++
      ([value] ++ (row.drop (column + 1) ++ (rows.drop (number + 1)).flatten)) := by
  have hsplit : ∀ {α : Type} {xs : List α} {i : Nat} {x : α}, xs[i]? = some x →
      xs.take i ++ ([x] ++ xs.drop (i + 1)) = xs := by
    intro α xs i x hx
    obtain ⟨hlt, rfl⟩ := List.getElem?_eq_some_iff.1 hx
    rw [List.singleton_append, ← List.drop_eq_getElem_cons, List.take_append_drop]
  have hrows := congrArg List.flatten (hsplit hrow)
  rw [List.flatten_append, List.flatten_append, List.flatten_singleton] at hrows
  rw [← hrows, valuesBefore, hrow, Option.getD_some]
  conv_lhs => rw [← hsplit hvalue]
  simp only [List.append_assoc]

/-- The variable section is the content of the rows held, and each row is encoded after the content
of the rows before it. -/
structure Packed (b : Block) (rows : List Row) : Prop where
  varying_eq : b.varying = contentOf rows.flatten
  row : ∀ number row, rows[number]? = some row → ∃ bytes,
    CellBytes.ofCells 0 (contentLength (rows.take number).flatten) (row.zip b.schema.types) =
      .ok bytes ∧
    Stands bytes.fixed (number * b.schema.rowSize) b.fixed

theorem packed_empty (schema : Schema) : (empty schema).Packed [] where
  varying_eq := rfl
  row := by simp

theorem Packed.append
    (htypes : b.schema.types.length = b.schema.length)
    (hb : b.Holds rows)
    (hpacked : b.Packed rows)
    (h : b.append row = .ok grown) :
    grown.Packed (rows ++ [row]) := by
  obtain ⟨hlength, bytes, hbytes, rfl⟩ := append_eq_ok h
  have hvalues : (row.zip b.schema.types).map Prod.fst = row := List.map_fst_zip (by omega)
  have hcontent := CellBytes.varying_ofCells hbytes
  rw [hvalues] at hcontent
  refine ⟨?_, ?_⟩
  · show b.varying ++ bytes.varying = _
    rw [hpacked.varying_eq, hcontent, List.flatten_append, contentOf_append,
      List.flatten_singleton]
  · intro number other hother
    rcases of_getElem?_concat hother with ⟨hlt, hbefore⟩ | ⟨rfl, rfl⟩
    · obtain ⟨others, hothers, hstands⟩ := hpacked.row number other hbefore
      rw [List.take_append_of_le_length (Nat.le_of_lt hlt)]
      exact ⟨others, hothers, hstands.append _⟩
    · -- the row was encoded after all content that there was, which is that of the rows before it
      refine ⟨bytes, ?_, ?_⟩
      · rw [List.take_left, ← length_contentOf, ← hpacked.varying_eq]
        exact hbytes
      · show Stands bytes.fixed (rows.length * b.schema.rowSize) (b.fixed ++ bytes.fixed)
        rw [← hb.length_fixed]
        exact Stands.right _ _

theorem Packed.appendAll
    {earlier : List Row}
    (htypes : b.schema.types.length = b.schema.length)
    (hb : b.Holds earlier)
    (hpacked : b.Packed earlier)
    (h : b.appendAll rows = .ok grown) :
    grown.Packed (earlier ++ rows) := by
  induction rows generalizing b earlier with
  | nil =>
      cases h
      simpa using hpacked
  | cons row rows ih =>
      rw [Block.appendAll] at h
      obtain ⟨next, hnext, hrest⟩ := Fallible.bind_eq_ok_iff.1 h
      have hnextTypes : next.schema.types.length = next.schema.length := by
        rw [schema_append hnext]
        exact htypes
      have hgrown := ih hnextTypes (hb.append (Nat.le_of_eq htypes) hnext)
        (hpacked.append htypes hb hnext) hrest
      simpa using hgrown

/-! ## The piece of one cell -/

/-- Where a cell starts in the fixed section. -/
def cellStart (b : Block) (number column : Nat) : Nat :=
  number * b.schema.rowSize + b.schema.offset column

/-- Every cell is encoded after the content of all values before it. -/
theorem Packed.cell
    (hpacked : b.Packed rows)
    (htypes : b.schema.types.length ≤ row.length)
    (hrow : rows[number]? = some row)
    (hvalue : row[column]? = some value)
    (htype : b.schema.types[column]? = some type) :
    ∃ cell,
      CellBytes.ofValue type column (contentLength (valuesBefore rows number column)) value =
        .ok cell ∧
      Stands cell.fixed (b.cellStart number column) b.fixed := by
  obtain ⟨bytes, hbytes, hstands⟩ := hpacked.row number row hrow
  obtain ⟨before, cell, hbefore, hcell, hfixed, -⟩ :=
    CellBytes.ofCells_split hbytes (List.getElem?_zip_eq_some.2 ⟨hvalue, htype⟩)
  have hcolumn : column < b.schema.types.length := (List.getElem?_eq_some_iff.1 htype).1
  have hvalues : ((row.zip b.schema.types).take column).map Prod.fst = row.take column :=
    map_fst_take_zip (Nat.le_of_lt hcolumn)
  have hstart : contentLength (valuesBefore rows number column) =
      contentLength (rows.take number).flatten + before.varying.length := by
    rw [CellBytes.varying_ofCells hbefore, length_contentOf, hvalues,
      contentLength_valuesBefore hrow]
  rw [CellBytes.length_fixed_ofCells hbefore, totalWidth_take_zip htypes] at hfixed
  rw [Nat.zero_add, ← hstart] at hcell
  exact ⟨cell, hcell, hfixed.trans hstands⟩

/-- The piece of the variable section that a cell names. -/
def pieceAt (b : Block) (number column : Nat) : Except DecodeFault Piece := do
  let start ← b.fixedNumber (b.cellStart number column) 4
  let length ← b.fixedNumber (b.cellStart number column + 4) 4
  return ⟨start, length⟩

/-- Content stands after that of all values before it. -/
theorem Packed.stands_content
    (hpacked : b.Packed rows)
    (hrow : rows[number]? = some row)
    (hvalue : row[column]? = some value)
    (hcontent : value.content? = some content) :
    Stands content (contentLength (valuesBefore rows number column)) b.varying := by
  have hown : contentOf [value] = content := by simp [contentOf, hcontent]
  rw [hpacked.varying_eq, flatten_eq_valuesBefore hrow hvalue, contentOf_append,
    contentOf_append [value], hown, ← length_contentOf]
  exact ⟨_, _, rfl, rfl⟩

/-- A cell names the piece that its content has by the values before it. -/
theorem pieceAt_of_stands
    {start : Nat} {cell : CellBytes}
    (hcell : CellBytes.ofValue type column start value = .ok cell)
    (hfixed : Stands cell.fixed (b.cellStart number column) b.fixed)
    (hcontent : value.content? = some content) :
    start < wordLimit ∧ content.length < wordLimit ∧
      b.pieceAt number column = .ok ⟨start, content.length⟩ ∧
      (Stands content start b.varying →
        b.variableBytes (b.cellStart number column) = .ok content) := by
  rw [CellBytes.ofValue_of_content (CellBytes.takes_of_ofValue hcell) hcontent] at hcell
  obtain ⟨hstart, hlength, rfl⟩ := CellBytes.outlined_eq_ok_iff.1 hcell
  obtain ⟨hplace, hcount⟩ := fixedNumbers_of_stands hstart hlength hfixed
  refine ⟨hstart, hlength, ?_, variableBytes_of_stands hstart hlength hfixed⟩
  rw [pieceAt, hplace]
  show (b.fixedNumber (b.cellStart number column + 4) 4 >>= _) = _
  rw [hcount]
  rfl

/-- An empty cell is all zero bytes. -/
theorem fixedBytes_of_null
    {start : Nat} {cell : CellBytes}
    (hcell : CellBytes.ofValue type column start .null = .ok cell)
    (hfixed : Stands cell.fixed (b.cellStart number column) b.fixed) :
    b.fixedBytes (b.cellStart number column) type.width = .ok (List.replicate type.width 0) := by
  have hzero : cell.fixed = List.replicate type.width 0 := by
    cases type <;> cases hcell <;> rfl
  rw [hzero] at hfixed
  simpa using fixedBytes_of_stands hfixed

/-! ## The pieces of all cells -/

/-- Whether a cell has content in the variable section: its column is one of texts or of byte
strings, and its row is not listed as empty there. -/
def hasContent (b : Block) (number column : Nat) : Bool :=
  (b.schema.type? column = some .string ∨ b.schema.type? column = some .bytes) ∧
    number ∉ (b.nullRows? column).getD []

/-- The cells of a row that have content, by the numbers of the row and of their columns. -/
def contentCells (b : Block) (number : Nat) : List (Nat × Nat) :=
  (List.range b.schema.types.length).flatMap fun column =>
    if b.hasContent number column then [(number, column)] else []

/-- The pieces that the cells with content name, row by row. -/
def pieces (b : Block) : Except DecodeFault (List Piece) :=
  ((List.range b.rowCount).flatMap b.contentCells).mapM fun cell => b.pieceAt cell.1 cell.2

theorem takes_content_iff
    (htakes : type.Takes value) :
    (∃ content, value.content? = some content) ↔
      (type = .string ∨ type = .bytes) ∧ value ≠ .null := by
  cases htakes <;> simp [Value.content?]

theorem hasContent_of_holds
    (htypes : b.schema.types.length ≤ b.schema.length)
    (hb : b.Holds rows)
    (hrow : rows[number]? = some row)
    (hvalue : row[column]? = some value)
    (htype : b.schema.types[column]? = some type) :
    b.hasContent number column = true ↔ (type = .string ∨ type = .bytes) ∧ value ≠ .null := by
  have hlisted : number ∈ emptyIn rows column ↔ row[column]? = some .null := mem_emptyIn hrow
  rw [hvalue, Option.some_inj] at hlisted
  have hnull : number ∈ (b.nullRows? column).getD [] ↔ value = .null := by
    rw [nullRows?_of_holds htypes hb (List.getElem?_eq_some_iff.1 htype).1, ← hlisted]
    split
    · next hnone => simp [hnone]
    · rfl
  simp [hasContent, Schema.type?, htype, hnull]

/-- A cell of a row names the piece of its content, which follows the content before it. -/
theorem Packed.pieces_cell
    (htypes : b.schema.types.length = b.schema.length)
    (hb : b.Holds rows)
    (hpacked : b.Packed rows)
    (hrow : rows[number]? = some row)
    (hvalue : row[column]? = some value)
    (htype : b.schema.types[column]? = some type) :
    (if b.hasContent number column then [(number, column)] else []).mapM
        (fun cell => b.pieceAt cell.1 cell.2) =
      .ok (Piece.layOut (contentLength (rows.take number).flatten + contentLength (row.take column))
        ([value].filterMap Value.content?)) := by
  have hlength := hb.length_row row (List.mem_of_getElem? hrow)
  obtain ⟨cell, hcell, hfixed⟩ := hpacked.cell (by omega) hrow hvalue htype
  have hhas := hasContent_of_holds (Nat.le_of_eq htypes) hb hrow hvalue htype
  rw [← takes_content_iff (CellBytes.takes_of_ofValue hcell)] at hhas
  rw [← contentLength_valuesBefore hrow]
  cases hcontent : value.content? with
  | none =>
      have hnot : b.hasContent number column = false := by simpa [hcontent] using hhas
      rw [hnot, List.filterMap_cons_none hcontent]
      rfl
  | some content =>
      have hyes : b.hasContent number column = true := hhas.2 ⟨content, hcontent⟩
      obtain ⟨-, -, hpiece, -⟩ := pieceAt_of_stands hcell hfixed hcontent
      rw [hyes, List.filterMap_cons_some hcontent, if_pos rfl, List.mapM_cons, hpiece]
      rfl

/-- The cells of a row name pieces that follow the content of the rows before it. -/
theorem Packed.pieces_row
    (htypes : b.schema.types.length = b.schema.length)
    (hb : b.Holds rows)
    (hpacked : b.Packed rows)
    (hrow : rows[number]? = some row) :
    (b.contentCells number).mapM (fun cell => b.pieceAt cell.1 cell.2) =
      .ok (Piece.layOut (contentLength (rows.take number).flatten)
        (row.filterMap Value.content?)) := by
  have hlength : row.length = b.schema.types.length :=
    (hb.length_row row (List.mem_of_getElem? hrow)).trans htypes.symm
  have hstep : ∀ column < b.schema.types.length, ∃ own,
      (row.take (column + 1)).filterMap Value.content? =
        (row.take column).filterMap Value.content? ++ own ∧
      (if b.hasContent number column then [(number, column)] else []).mapM
          (fun cell => b.pieceAt cell.1 cell.2) =
        .ok (Piece.layOut (contentLength (rows.take number).flatten +
          (contentOf (row.take column)).length) own) := by
    intro column hcolumn
    have hvalue : row[column]? = some row[column] := List.getElem?_eq_getElem (by omega)
    refine ⟨[row[column]].filterMap Value.content?, ?_, ?_⟩
    · rw [List.take_succ_eq_append_getElem, List.filterMap_append]
    · rw [length_contentOf]
      exact hpacked.pieces_cell htypes hb hrow hvalue (List.getElem?_eq_getElem hcolumn)
  have hread := Piece.mapM_layOut (fun column => (row.take column).filterMap Value.content?)
    (contentLength (rows.take number).flatten) rfl hstep
  rwa [← hlength, List.take_length, hlength] at hread

/-- The cells of a block name the pieces of the contents that were stored. -/
theorem Packed.pieces_eq
    (htypes : b.schema.types.length = b.schema.length)
    (hb : b.Holds rows)
    (hpacked : b.Packed rows) :
    b.pieces = .ok (Piece.layOut 0 (rows.flatten.filterMap Value.content?)) := by
  have hstep : ∀ number < rows.length, ∃ own,
      (rows.take (number + 1)).flatten.filterMap Value.content? =
        (rows.take number).flatten.filterMap Value.content? ++ own ∧
      (b.contentCells number).mapM (fun cell => b.pieceAt cell.1 cell.2) =
        .ok (Piece.layOut (0 + (contentOf (rows.take number).flatten).length) own) := by
    intro number hnumber
    refine ⟨rows[number].filterMap Value.content?, ?_, ?_⟩
    · rw [List.take_succ_eq_append_getElem hnumber, List.flatten_append, List.filterMap_append,
        List.flatten_singleton]
    · rw [Nat.zero_add, length_contentOf]
      exact hpacked.pieces_row htypes hb (List.getElem?_eq_getElem hnumber)
  have hread := Piece.mapM_layOut
    (fun number => (rows.take number).flatten.filterMap Value.content?) 0 rfl hstep
  rw [List.take_length] at hread
  rw [pieces, hb.rowCount_eq]
  exact hread

/-- The pieces that the cells of a block name leave no byte of the variable section out and share
none. -/
theorem Packed.tiles
    (htypes : b.schema.types.length = b.schema.length)
    (hb : b.Holds rows)
    (hpacked : b.Packed rows) :
    ∃ pieces, b.pieces = .ok pieces ∧
      Piece.Tiles 0 pieces b.varying.length ∧
      pieces.map (·.of b.varying) = rows.flatten.filterMap Value.content? ∧
      (pieces.Pairwise fun p q => p.stop ≤ q.start) ∧
      ∀ position < b.varying.length, ∃ p ∈ pieces, p.start ≤ position ∧ position < p.stop := by
  have htiles := Piece.tiles_layOut 0 (rows.flatten.filterMap Value.content?)
  have hstands : Stands (rows.flatten.filterMap Value.content?).flatten 0 b.varying := by
    rw [hpacked.varying_eq]
    exact ⟨[], [], (List.append_nil _).symm, rfl⟩
  rw [Nat.zero_add, ← contentOf, ← hpacked.varying_eq] at htiles
  exact ⟨_, hpacked.pieces_eq htypes hb, htiles, Piece.map_of_layOut hstands, htiles.pairwise,
    fun position hposition => htiles.covers (Nat.zero_le _) hposition⟩

/-- **The variable section is tiled.** For any columns, after any rows were offered to a block of
them:

* the fixed section has as many bytes as its rows take;
* the variable section is the content of the rows that were accepted, row by row;
* the pieces that the cells with content name lead from the first byte of the section to its last.
  Taken in the order of the cells they are the contents that were stored, so that each starts no
  earlier than the one before it has ended, and every byte is in one;
* a cell has content if its column is one of texts or of byte strings and its value is not empty; it
  names the piece that starts after all content before it, in numbers that are stored as they are,
  and is read from there;
* an empty cell is all zero bytes. -/
theorem varying_tiled (columns : List (String × ColumnType)) (offered : List Row) :
    let schema := Schema.ofColumns columns
    let b := ((empty schema).offerAll offered).2
    let rows := (empty schema).accepted offered
    b.rowCount = rows.length ∧
    b.fixed.length = b.rowCount * schema.rowSize ∧
    b.varying = contentOf rows.flatten ∧
    (∃ pieces, b.pieces = .ok pieces ∧
      Piece.Tiles 0 pieces b.varying.length ∧
      pieces.map (·.of b.varying) = rows.flatten.filterMap Value.content? ∧
      (pieces.Pairwise fun p q => p.stop ≤ q.start) ∧
      ∀ position < b.varying.length, ∃ p ∈ pieces, p.start ≤ position ∧ position < p.stop) ∧
    (∀ number < b.rowCount, ∀ column < columns.length, ∃ row value type,
      rows[number]? = some row ∧ row[column]? = some value ∧
      schema.types[column]? = some type ∧
      (b.hasContent number column = true ↔
        (type = .string ∨ type = .bytes) ∧ value ≠ .null) ∧
      (b.hasContent number column = true → ∃ content,
        value.content? = some content ∧
        contentLength (valuesBefore rows number column) < wordLimit ∧
        content.length < wordLimit ∧
        b.pieceAt number column =
          .ok ⟨contentLength (valuesBefore rows number column), content.length⟩ ∧
        b.variableBytes (b.cellStart number column) = .ok content) ∧
      (value = .null →
        b.fixedBytes (b.cellStart number column) type.width =
          .ok (List.replicate type.width 0))) := by
  intro schema b rows
  have htypes : schema.types.length = schema.length := by
    simp [schema, Schema.ofColumns, Schema.length]
  have hwidth : schema.types.length = columns.length := List.length_map _
  have hrows : ofRows schema rows = .ok b := appendAll_accepted (empty schema) offered
  obtain ⟨hschema, hb⟩ := holds_ofRows (Nat.le_of_eq htypes) hrows
  have hpacked : b.Packed rows :=
    (packed_empty schema).appendAll htypes (holds_empty schema) hrows
  rw [← hschema] at htypes hwidth ⊢
  refine ⟨hb.rowCount_eq, ?_, hpacked.varying_eq, hpacked.tiles htypes hb, ?_⟩
  · rw [hb.rowCount_eq]
    exact hb.length_fixed
  · intro number hnumber column hcolumn
    rw [hb.rowCount_eq] at hnumber
    have hrow : rows[number]? = some rows[number] := List.getElem?_eq_getElem hnumber
    have hlength := hb.length_row _ (List.getElem_mem hnumber)
    have hvalue : rows[number][column]? = some rows[number][column] :=
      List.getElem?_eq_getElem (by omega)
    have htype : b.schema.types[column]? = some b.schema.types[column] :=
      List.getElem?_eq_getElem (by omega)
    obtain ⟨cell, hcell, hfixed⟩ := hpacked.cell (by omega) hrow hvalue htype
    have hhas := hasContent_of_holds (Nat.le_of_eq htypes) hb hrow hvalue htype
    refine ⟨_, _, _, hrow, hvalue, htype, hhas, fun hyes => ?_, fun hnull => ?_⟩
    · obtain ⟨content, hcontent⟩ :=
        (takes_content_iff (CellBytes.takes_of_ofValue hcell)).2 (hhas.1 hyes)
      obtain ⟨hstart, hbytes, hpiece, hread⟩ := pieceAt_of_stands hcell hfixed hcontent
      exact ⟨content, hcontent, hstart, hbytes, hpiece,
        hread (hpacked.stands_content hrow hvalue hcontent)⟩
    · rw [hnull] at hcell
      exact fixedBytes_of_null hcell hfixed

/-- Of four rows the second is refused at its last cell, after a text that would have had content.
The others have four cells with content, one of them of no bytes. -/
theorem varying_tiled_refusedHalfway :
    let columns : List (String × ColumnType) := [("s", .string), ("n", .int), ("b", .bytes)]
    let offered : List Row :=
      [[.string "é", .int 7, .bytes [1]], [.string "lost", .int 7, .boolean true],
        [.null, .null, .bytes []], [.string "x", .null, .null]]
    let b := ((empty (Schema.ofColumns columns)).offerAll offered).2
    b.rowCount = 3 ∧ b.fixed.length = 60 ∧
      b.pieces = .ok [⟨0, 2⟩, ⟨2, 1⟩, ⟨3, 0⟩, ⟨3, 1⟩] ∧
      Piece.Tiles 0 [⟨0, 2⟩, ⟨2, 1⟩, ⟨3, 0⟩, ⟨3, 1⟩] b.varying.length := by
  intro columns offered b
  obtain ⟨-, hfixed, -, ⟨pieces, hread, htiles, -⟩, -⟩ := varying_tiled columns offered
  have hcount : b.rowCount = 3 := by decide +kernel
  have hpieces : b.pieces = .ok [⟨0, 2⟩, ⟨2, 1⟩, ⟨3, 0⟩, ⟨3, 1⟩] := by decide +kernel
  rw [hpieces] at hread
  cases hread
  refine ⟨hcount, ?_, hpieces, htiles⟩
  rw [hfixed, hcount]
  rfl

end Block
end ScatterGather
