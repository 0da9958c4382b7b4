import Mathlib.Algebra.Ring.Nat
import ScatterGather.Proofs.Block.Layout

/-!
# Blocks give back what was stored

A cell is read from the place that its row and its column determine, which is where the cell was
encoded. Truth values are stored as numbers, and an empty cell as the zero value of its type.

**Results.** `Block.value_ofRows`: what every cell, every row and every list of empty cells of a
block of accepted rows reads as, also outside of the block.
-/

namespace ScatterGather

/-- What an empty cell of a type reads as. -/
def ColumnType.zero : ColumnType → Value
  | int | boolean => .int 0
  | long | timestamp => .long 0
  | float => .float 0
  | double => .double 0
  | string => .string ""
  | bytes => .bytes []

/-- What a value reads as once it was stored under a type. -/
def Value.stored (type : ColumnType) : Value → Value
  | null => type.zero
  | boolean b => .int (if b then 1 else 0)
  | value => value

namespace Block

variable {b : Block} {position : Nat}

theorem fixedBytes_of_stands
    {bytes : List UInt8}
    (h : Stands bytes position b.fixed) :
    b.fixedBytes position bytes.length = .ok bytes := by
  rw [fixedBytes, if_pos h.le_length, h.take_drop]

theorem fixedNumber_of_stands
    {width n : Nat}
    (hn : n < 256 ^ width)
    (h : Stands (Word.toBytes width n) position b.fixed) :
    b.fixedNumber position width = .ok n := by
  have hbytes := fixedBytes_of_stands h
  have hvalue : Word.ofBytes (Word.toBytes width n) = n := by
    rw [Word.ofBytes_toBytes]
    exact Nat.mod_eq_of_lt hn
  rw [Word.length_toBytes] at hbytes
  rw [fixedNumber, hbytes]
  exact congrArg Except.ok hvalue

/-- The place and the length that a cell of varying length holds. -/
theorem fixedNumbers_of_stands
    {start length : Nat}
    (hstart : start < wordLimit)
    (hlength : length < wordLimit)
    (h : Stands (Word.toBytes 4 start ++ Word.toBytes 4 length) position b.fixed) :
    b.fixedNumber position 4 = .ok start ∧ b.fixedNumber (position + 4) 4 = .ok length := by
  have hplace := (Stands.left (Word.toBytes 4 start) (Word.toBytes 4 length)).trans h
  have hcount := (Stands.right (Word.toBytes 4 start) (Word.toBytes 4 length)).trans h
  rw [Word.length_toBytes] at hcount
  exact ⟨fixedNumber_of_stands hstart hplace, fixedNumber_of_stands hlength hcount⟩

/-- A cell of varying length leads to its content. -/
theorem variableBytes_of_stands
    {start : Nat} {content : List UInt8}
    (hstart : start < wordLimit)
    (hlength : content.length < wordLimit)
    (hfixed : Stands (Word.toBytes 4 start ++ Word.toBytes 4 content.length) position b.fixed)
    (hvarying : Stands content start b.varying) :
    b.variableBytes position = .ok content := by
  obtain ⟨hplace, hcount⟩ := fixedNumbers_of_stands hstart hlength hfixed
  rw [variableBytes, hplace]
  show (b.fixedNumber (position + 4) 4 >>= _) = _
  rw [hcount]
  show (if start + content.length ≤ b.varying.length
    then Except.ok ((b.varying.drop start).take content.length) else _) = _
  rw [if_pos hvarying.le_length, hvarying.take_drop]

/-! ## One cell -/

variable {row column : Nat}

theorem cellAt_int
    {type : ColumnType} {n : Nat}
    (htype : type = .int ∨ type = .boolean)
    (h : b.fixedNumber position 4 = .ok n) :
    b.cellAt type row column position = .ok (.int (UInt32.ofNat n).toInt32) := by
  rcases htype with rfl | rfl <;> rw [cellAt, h] <;> rfl

theorem cellAt_long
    {type : ColumnType} {n : Nat}
    (htype : type = .long ∨ type = .timestamp)
    (h : b.fixedNumber position 8 = .ok n) :
    b.cellAt type row column position = .ok (.long (UInt64.ofNat n).toInt64) := by
  rcases htype with rfl | rfl <;> rw [cellAt, h] <;> rfl

theorem cellAt_float
    {n : Nat}
    (h : b.fixedNumber position 4 = .ok n) :
    b.cellAt .float row column position = .ok (.float (UInt32.ofNat n)) := by
  rw [cellAt, h]
  rfl

theorem cellAt_double
    {n : Nat}
    (h : b.fixedNumber position 8 = .ok n) :
    b.cellAt .double row column position = .ok (.double (UInt64.ofNat n)) := by
  rw [cellAt, h]
  rfl

theorem cellAt_string
    {s : String}
    (h : b.variableBytes position = .ok (Utf8.encode s)) :
    b.cellAt .string row column position = .ok (.string s) := by
  have htext : textOf row column (Utf8.encode s) = .ok s := by
    rw [textOf, Utf8.decode?_encode]
  rw [cellAt, h]
  show (textOf row column (Utf8.encode s) >>= _) = _
  rw [htext]
  rfl

theorem cellAt_bytes
    {content : List UInt8}
    (h : b.variableBytes position = .ok content) :
    b.cellAt .bytes row column position = .ok (.bytes content) := by
  rw [cellAt, h]
  rfl

/-- An empty cell is all zero bytes, which read as the zero value of its type. -/
theorem cellAt_null
    {type : ColumnType}
    (h : Stands (Word.toBytes type.width 0) position b.fixed) :
    b.cellAt type row column position = .ok type.zero := by
  have hnothing :
      Stands (Word.toBytes 8 0) position b.fixed → b.variableBytes position = .ok [] := by
    intro hcell
    exact variableBytes_of_stands (by decide) (by decide) hcell ⟨[], b.varying, rfl, rfl⟩
  cases type with
  | int => exact cellAt_int (Or.inl rfl) (fixedNumber_of_stands (by decide) h)
  | boolean => exact cellAt_int (Or.inr rfl) (fixedNumber_of_stands (by decide) h)
  | long => exact cellAt_long (Or.inl rfl) (fixedNumber_of_stands (by decide) h)
  | timestamp => exact cellAt_long (Or.inr rfl) (fixedNumber_of_stands (by decide) h)
  | float => exact cellAt_float (fixedNumber_of_stands (by decide) h)
  | double => exact cellAt_double (fixedNumber_of_stands (by decide) h)
  | string => exact cellAt_string (s := "") (hnothing h)
  | bytes => exact cellAt_bytes (hnothing h)

/-- A cell reads as what was encoded there. -/
theorem cellAt_of_stands
    {type : ColumnType} {index start : Nat} {value : Value} {cell : CellBytes}
    (h : CellBytes.ofValue type index start value = .ok cell)
    (hfixed : Stands cell.fixed position b.fixed)
    (hvarying : Stands cell.varying start b.varying) :
    b.cellAt type row column position = .ok (value.stored type) := by
  have hint : ∀ n : Int32, cell = CellBytes.inline 4 n.toUInt32.toNat →
      b.fixedNumber position 4 = .ok n.toUInt32.toNat := by
    rintro n rfl
    exact fixedNumber_of_stands n.toUInt32.toNat_lt hfixed
  have hlong : ∀ n : Int64, cell = CellBytes.inline 8 n.toUInt64.toNat →
      b.fixedNumber position 8 = .ok n.toUInt64.toNat := by
    rintro n rfl
    exact fixedNumber_of_stands n.toUInt64.toNat_lt hfixed
  have hcontent : ∀ content, CellBytes.outlined start content = .ok cell →
      b.variableBytes position = .ok content := by
    intro content hcell
    obtain ⟨hstart, hlength, rfl⟩ := CellBytes.outlined_eq_ok_iff.1 hcell
    exact variableBytes_of_stands hstart hlength hfixed hvarying
  unfold CellBytes.ofValue at h
  split at h
  case h_1 =>
    cases h
    exact cellAt_null hfixed
  case h_2 n =>
    injection h with h
    simpa [Value.stored] using cellAt_int (Or.inl rfl) (hint n h.symm)
  case h_3 b' =>
    cases h
    cases b' <;>
      exact cellAt_int (Or.inr rfl) (fixedNumber_of_stands (by decide) hfixed)
  case h_4 n =>
    split at h
    · injection h with h
      simpa [Value.stored] using cellAt_int (Or.inr rfl) (hint n h.symm)
    · cases h
  case h_5 n =>
    injection h with h
    simpa [Value.stored] using cellAt_long (Or.inl rfl) (hlong n h.symm)
  case h_6 n =>
    injection h with h
    simpa [Value.stored] using cellAt_long (Or.inr rfl) (hlong n h.symm)
  case h_7 bits =>
    cases h
    simpa [Value.stored] using cellAt_float (fixedNumber_of_stands bits.toNat_lt hfixed)
  case h_8 bits =>
    cases h
    simpa [Value.stored] using cellAt_double (fixedNumber_of_stands bits.toNat_lt hfixed)
  case h_9 s => exact cellAt_string (hcontent _ h)
  case h_10 content => exact cellAt_bytes (hcontent _ h)
  case h_11 => cases h

/-! ## Whole blocks -/

theorem totalWidth_take_zip
    {row : Row} {types : List ColumnType} {column : Nat}
    (h : types.length ≤ row.length) :
    Schema.totalWidth (((row.zip types).take column).map Prod.snd) =
      Schema.totalWidth (types.take column) := by
  rw [List.map_take, List.map_snd_zip h]

/-- Every cell of a row that a block holds reads as what was stored. -/
theorem HasRow.cellAt
    {number column : Nat} {row : Row} {cell : Value} {type : ColumnType}
    (h : b.HasRow number row)
    (hlength : b.schema.types.length ≤ row.length)
    (hcell : row[column]? = some cell)
    (htype : b.schema.types[column]? = some type) :
    b.cellAt type number column (number * b.schema.rowSize + b.schema.offset column) =
      .ok (cell.stored type) := by
  obtain ⟨start, bytes, hbytes, hinFixed, hinVarying⟩ := h
  have hentry : (row.zip b.schema.types)[column]? = some (cell, type) := by
    simp [List.zip, List.getElem?_zipWith, hcell, htype]
  obtain ⟨cellBytes, earlier, hvalue, hfixed, hvarying⟩ :=
    CellBytes.stands_ofCells hbytes hentry
  rw [totalWidth_take_zip hlength] at hfixed
  exact cellAt_of_stands hvalue (hfixed.trans hinFixed) (hvarying.trans hinVarying)

theorem value_of_holds
    {rows : List Row} {number column : Nat} {row : Row} {cell : Value} {type : ColumnType}
    (htypes : b.schema.types.length ≤ b.schema.length)
    (hb : b.Holds rows)
    (hrow : rows[number]? = some row)
    (hcell : row[column]? = some cell)
    (htype : b.schema.types[column]? = some type) :
    b.value number column = .ok (cell.stored type) := by
  have hlt : ¬ b.rowCount ≤ number := by
    rw [hb.rowCount_eq]
    exact Nat.not_le.2 (List.getElem?_eq_some_iff.1 hrow).1
  have hlength : b.schema.types.length ≤ row.length := by
    rw [hb.length_row row (List.mem_of_getElem? hrow)]
    exact htypes
  have hread := (hb.hasRow number row hrow).cellAt hlength hcell htype
  rw [value, if_neg hlt]
  simp only [Schema.type?, htype, hread]
  rfl

theorem value_of_rowCount_le
    {number column : Nat}
    (h : b.rowCount ≤ number) :
    b.value number column = .error (.rowOutOfRange number b.rowCount) := by
  rw [value, if_pos h]

theorem value_of_types_le
    {number column : Nat}
    (hrow : number < b.rowCount)
    (h : b.schema.types.length ≤ column) :
    b.value number column = .error (.columnOutOfRange column b.schema.length) := by
  rw [value, if_neg (Nat.not_le.2 hrow)]
  simp [Schema.type?, List.getElem?_eq_none h]

theorem nullRows?_of_holds
    {rows : List Row} {column : Nat}
    (htypes : b.schema.types.length ≤ b.schema.length)
    (hb : b.Holds rows)
    (hcolumn : column < b.schema.types.length) :
    b.nullRows? column =
      if emptyIn rows column = [] then none else some (emptyIn rows column) := by
  have hlt : column < b.nullRows.length := by
    rw [hb.length_nullRows]
    omega
  have hsome : b.nullRows[column]? = some b.nullRows[column] := List.getElem?_eq_getElem hlt
  have heq := hb.nullRows_eq column _ hsome
  rw [if_pos hcolumn] at heq
  rw [nullRows?, hsome, heq]
  cases emptyIn rows column <;> simp

theorem nullRows?_of_types_le
    {rows : List Row} {column : Nat}
    (hb : b.Holds rows)
    (hcolumn : b.schema.types.length ≤ column) :
    b.nullRows? column = none := by
  rw [nullRows?]
  cases hsome : b.nullRows[column]? with
  | none =>
      rfl
  | some listed =>
      have heq := hb.nullRows_eq column listed hsome
      rw [if_neg (Nat.not_lt.2 hcolumn)] at heq
      rw [heq]

/-- A row of a block with as many types as names reads as a whole. -/
theorem extractRow_of_holds
    {rows : List Row} {number : Nat} {row : Row}
    (htypes : b.schema.types.length = b.schema.length)
    (hb : b.Holds rows)
    (hrow : rows[number]? = some row) :
    b.extractRow number =
      .ok (row.zipWith (fun cell type => cell.stored type) b.schema.types) := by
  have hlength := hb.length_row row (List.mem_of_getElem? hrow)
  have hvalue : ∀ column ∈ List.range b.schema.length,
      b.value number column =
        .ok (((row[column]?).getD .null).stored ((b.schema.types[column]?).getD .int)) := by
    intro column hcolumn
    have hlt := List.mem_range.1 hcolumn
    have hcell : row[column]? = some row[column] := List.getElem?_eq_getElem (by omega)
    have htype : b.schema.types[column]? = some b.schema.types[column] :=
      List.getElem?_eq_getElem (by omega)
    rw [value_of_holds (by omega) hb hrow hcell htype, hcell, htype]
    rfl
  rw [extractRow, Fallible.mapM_eq_ok hvalue]
  congr 1
  apply List.ext_getElem
  · simp only [List.length_map, List.length_range, List.length_zipWith]
    omega
  · intro column hleft hright
    simp only [List.length_zipWith] at hright
    simp [List.getElem?_eq_getElem (show column < row.length by omega),
      List.getElem?_eq_getElem (show column < b.schema.types.length by omega)]

theorem extractRow_of_rowCount_le
    {number : Nat}
    (hcolumns : 0 < b.schema.length)
    (h : b.rowCount ≤ number) :
    b.extractRow number = .error (.rowOutOfRange number b.rowCount) := by
  obtain ⟨columns, hlength⟩ : ∃ n, b.schema.length = n + 1 := ⟨b.schema.length - 1, by omega⟩
  rw [extractRow, hlength, List.range_succ_eq_map]
  exact Fallible.mapM_eq_error (value_of_rowCount_le h)

theorem value_of_lt
    {rows : List Row} {number column : Nat}
    (htypes : b.schema.types.length ≤ b.schema.length)
    (hb : b.Holds rows)
    (hnumber : number < b.rowCount)
    (hcolumn : column < b.schema.types.length) :
    ∃ row cell type,
      rows[number]? = some row ∧ row[column]? = some cell ∧
      b.schema.types[column]? = some type ∧
      b.value number column = .ok (cell.stored type) := by
  rw [hb.rowCount_eq] at hnumber
  have hrow : rows[number]? = some rows[number] := List.getElem?_eq_getElem hnumber
  have hlength := hb.length_row _ (List.getElem_mem hnumber)
  have hcell : rows[number][column]? = some rows[number][column] :=
    List.getElem?_eq_getElem (by omega)
  have htype : b.schema.types[column]? = some b.schema.types[column] :=
    List.getElem?_eq_getElem hcolumn
  exact ⟨_, _, _, hrow, hcell, htype, value_of_holds htypes hb hrow hcell htype⟩

theorem value_ne_decode
    {rows : List Row}
    (htypes : b.schema.types.length ≤ b.schema.length)
    (hb : b.Holds rows)
    (number column : Nat) (fault : DecodeFault) :
    b.value number column ≠ .error (.decode fault) := by
  intro h
  rcases Nat.lt_or_ge number b.rowCount with hnumber | hnumber
  · rcases Nat.lt_or_ge column b.schema.types.length with hcolumn | hcolumn
    · obtain ⟨row, cell, type, -, -, -, hvalue⟩ := value_of_lt htypes hb hnumber hcolumn
      rw [hvalue] at h
      cases h
    · rw [value_of_types_le hnumber hcolumn] at h
      cases h
  · rw [value_of_rowCount_le hnumber] at h
    cases h

/-- **Blocks give back what was stored.** For a schema with no more types than names and any rows
that a block of it accepts: each cell that has a type reads as what was stored, all other cells are
out of range, no bytes are ever misread, the empty cells of every column are the ones listed, and
rows read as a whole when every column has its type. -/
theorem value_ofRows
    {schema : Schema} {rows : List Row} {b : Block}
    (htypes : schema.types.length ≤ schema.length)
    (h : ofRows schema rows = .ok b) :
    b.rowCount = rows.length ∧
    (∀ number < b.rowCount, ∀ column < schema.types.length, ∃ row cell type,
      rows[number]? = some row ∧ row[column]? = some cell ∧
      schema.types[column]? = some type ∧
      b.value number column = .ok (cell.stored type)) ∧
    (∀ number column, b.rowCount ≤ number →
      b.value number column = .error (.rowOutOfRange number b.rowCount)) ∧
    (∀ number column, number < b.rowCount → schema.types.length ≤ column →
      b.value number column = .error (.columnOutOfRange column schema.length)) ∧
    (∀ number column fault, b.value number column ≠ .error (.decode fault)) ∧
    (∀ column < schema.types.length, b.nullRows? column =
      if emptyIn rows column = [] then none else some (emptyIn rows column)) ∧
    (∀ column, schema.types.length ≤ column → b.nullRows? column = none) ∧
    (schema.types.length = schema.length → 0 < schema.length →
      (∀ number row, rows[number]? = some row → b.extractRow number =
        .ok (row.zipWith (fun cell type => cell.stored type) schema.types)) ∧
      (∀ number, b.rowCount ≤ number →
        b.extractRow number = .error (.rowOutOfRange number b.rowCount))) := by
  obtain ⟨rfl, hb⟩ := holds_ofRows htypes h
  refine ⟨hb.rowCount_eq, ?_, ?_, ?_, ?_, ?_, ?_, ?_⟩
  · exact fun number hnumber column hcolumn => value_of_lt htypes hb hnumber hcolumn
  · exact fun number column hnumber => value_of_rowCount_le hnumber
  · exact fun number column hnumber hcolumn => value_of_types_le hnumber hcolumn
  · exact value_ne_decode htypes hb
  · exact fun column hcolumn => nullRows?_of_holds htypes hb hcolumn
  · exact fun column hcolumn => nullRows?_of_types_le hb hcolumn
  · intro heq hcolumns
    exact ⟨fun number row hrow => extractRow_of_holds heq hb hrow,
      fun number hnumber => extractRow_of_rowCount_le hcolumns hnumber⟩

/-- Two rows, of which the second is empty but for a truth value, under a schema whose last column
has no type. -/
theorem value_ofRows_untyped :
    let schema : Schema := ⟨["s", "b", "n", "rest"], [.string, .boolean, .double]⟩
    let rows : List Row :=
      [[.string "héllo", .int 1, .double 9221120237041090560, .boolean true],
        [.null, .boolean false, .null, .null]]
    ∃ b, schema.types.length ≤ schema.length ∧ ofRows schema rows = .ok b ∧
      b.value 0 0 = .ok (.string "héllo") ∧ b.value 1 1 = .ok (.int 0) ∧
      b.value 1 3 = .error (.columnOutOfRange 3 4) ∧ b.nullRows? 2 = some [1] := by
  intro schema rows
  have hrows : ∃ b, ofRows schema rows = .ok b := ⟨_, rfl⟩
  obtain ⟨b, hrows⟩ := hrows
  have htypes : schema.types.length ≤ schema.length := by decide
  obtain ⟨hcount, hvalue, -, hrange, -, hnull, -, -⟩ := value_ofRows htypes hrows
  refine ⟨b, htypes, hrows, ?_, ?_, ?_, ?_⟩
  · obtain ⟨_, _, _, hrow, hcell, htype, hread⟩ := hvalue 0 (by simp [hcount, rows]) 0 (by decide)
    cases hrow
    cases hcell
    cases htype
    exact hread
  · obtain ⟨_, _, _, hrow, hcell, htype, hread⟩ := hvalue 1 (by simp [hcount, rows]) 1 (by decide)
    cases hrow
    cases hcell
    cases htype
    exact hread
  · exact hrange 1 3 (by simp [hcount, rows]) (by decide)
  · exact hnull 2 (by decide)

end Block
end ScatterGather
