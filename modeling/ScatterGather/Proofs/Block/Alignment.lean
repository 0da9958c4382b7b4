import ScatterGather.Proofs.Block.RoundTrip

/-!
# Blocks whose schema has more types than names

A row has a value for each name of its schema, and each of its values that has a type is encoded.
Where the next row starts, however, is computed from all types. So if there are more types than
names, then every row but the first is looked for further on than it stands, and a column without a
name is looked for where the next row starts.

**Results.** `Block.value_of_anySchema`: under any schema every cell stands at the place that the
named columns give it; it is read from there if no column lacks a name, or if there is no second
row; and a column of numbers that lacks a name reads as bytes of other rows.
`Block.value_reads_otherCell`: a cell that reads as another one.
-/

namespace ScatterGather

namespace ColumnType

theorem four_le_width (type : ColumnType) : 4 ≤ type.width := by
  cases type <;> decide

end ColumnType

namespace Schema

/-- A schema without the types that have no name. -/
def named (s : Schema) : Schema :=
  { s with types := s.types.take s.length }

theorem types_named_le (s : Schema) : s.named.types.length ≤ s.named.length := by
  show (s.types.take s.length).length ≤ s.length
  rw [List.length_take]
  omega

theorem totalWidth_append (types more : List ColumnType) :
    totalWidth (types ++ more) = totalWidth types + totalWidth more := by
  induction types with
  | nil =>
      simp [totalWidth]
  | cons type types ih =>
      simp [totalWidth, ih, Nat.add_assoc]

/-- The types without a name add to the size of a row. -/
theorem rowSize_eq (s : Schema) :
    s.rowSize = s.named.rowSize + totalWidth (s.types.drop s.length) := by
  show totalWidth s.types = totalWidth (s.types.take s.length) + _
  rw [← totalWidth_append, List.take_append_drop]

theorem four_le_totalWidth
    {types : List ColumnType}
    (h : types ≠ []) :
    4 ≤ totalWidth types := by
  obtain ⟨type, rest, rfl⟩ := List.exists_cons_of_ne_nil h
  have hwidth := type.four_le_width
  simp only [totalWidth]
  omega

theorem totalWidth_eq_zero_iff {types : List ColumnType} : totalWidth types = 0 ↔ types = [] := by
  constructor
  · intro hzero
    by_contra hne
    have hwidth := four_le_totalWidth hne
    omega
  · rintro rfl
    rfl

theorem rowSize_named_eq_iff {s : Schema} :
    s.named.rowSize = s.rowSize ↔ s.types.length ≤ s.length := by
  have hsize := s.rowSize_eq
  rw [← List.drop_eq_nil_iff, ← totalWidth_eq_zero_iff]
  omega

theorem four_le_rowSize_named
    {s : Schema}
    (hnames : 0 < s.length)
    (htypes : 0 < s.types.length) :
    4 ≤ s.named.rowSize := by
  apply four_le_totalWidth
  apply List.ne_nil_of_length_pos
  rw [named, List.length_take]
  omega

theorem offset_named
    {s : Schema} {column : Nat}
    (h : column ≤ s.length) :
    s.named.offset column = s.offset column := by
  show totalWidth ((s.types.take s.length).take column) = totalWidth (s.types.take column)
  rw [List.take_take, Nat.min_eq_left h]

/-- A column without a name is looked for no earlier than where the named columns end. -/
theorem rowSize_named_le_offset
    {s : Schema} {column : Nat}
    (h : s.length ≤ column) :
    s.named.rowSize ≤ s.offset column := by
  show totalWidth (s.types.take s.length) ≤ totalWidth (s.types.take column)
  have hsplit : s.types.take column =
      s.types.take s.length ++ (s.types.drop s.length).take (column - s.length) := by
    rw [← List.take_add, Nat.add_sub_cancel' h]
  rw [hsplit, totalWidth_append]
  omega

end Schema

namespace Block

variable {b grown : Block} {schema : Schema} {row : Row} {rows : List Row} {number column : Nat}
variable {type : ColumnType} {position : Nat}

/-! ## Types without a name are ignored when rows are added -/

/-- A block with the types of its schema that have a name. -/
def named (b : Block) : Block :=
  { b with schema := b.schema.named }

theorem zip_take_length (row : Row) (types : List ColumnType) :
    row.zip (types.take row.length) = row.zip types := by
  induction row generalizing types with
  | nil => rfl
  | cons value row ih =>
      cases types with
      | nil => rfl
      | cons type types => simp [ih]

theorem append_named
    (h : b.append row = .ok grown) :
    b.named.append row = .ok grown.named := by
  have hlength := (append_eq_ok h).1
  have hcells : row.zip b.named.schema.types = row.zip b.schema.types := by
    show row.zip (b.schema.types.take b.schema.length) = _
    rw [← hlength, zip_take_length]
  unfold append at h ⊢
  rw [hcells]
  split at h
  · cases h
  · next hrow =>
      split at h
      · cases h
      · next hcount =>
          obtain ⟨bytes, hbytes, hgrown⟩ := Fallible.bind_eq_ok_iff.1 h
          cases hgrown
          rw [if_neg (show ¬ row.length ≠ b.named.schema.length from hrow),
            if_neg (show ¬ wordLimit ≤ b.named.rowCount from hcount)]
          exact Fallible.bind_eq_ok_iff.2 ⟨bytes, hbytes, rfl⟩

theorem appendAll_named
    (h : b.appendAll rows = .ok grown) :
    b.named.appendAll rows = .ok grown.named := by
  induction rows generalizing b with
  | nil =>
      cases h
      rfl
  | cons row rows ih =>
      obtain ⟨next, hnext, hrest⟩ := Fallible.bind_eq_ok_iff.1 h
      exact Fallible.bind_eq_ok_iff.2 ⟨next.named, append_named hnext, ih hrest⟩

/-- A block of accepted rows holds them under the types that have a name. -/
theorem holds_named
    (h : ofRows schema rows = .ok b) :
    b.named.schema = schema.named ∧ b.named.Holds rows :=
  holds_ofRows schema.types_named_le (appendAll_named h)

/-! ## Where cells are looked for -/

theorem cellAt_of_length_lt
    (h : b.fixed.length < position + 4) :
    b.cellAt type number column position = .error (.truncated position) := by
  have hnumber : ∀ width, 4 ≤ width →
      b.fixedNumber position width = .error (.truncated position) := by
    intro width hwidth
    rw [fixedNumber, fixedBytes, if_neg (by omega)]
    rfl
  have hvariable : b.variableBytes position = .error (.truncated position) := by
    rw [variableBytes, hnumber 4 (by omega)]
    rfl
  cases type with
  | string =>
      rw [cellAt, hvariable]
      rfl
  | bytes =>
      rw [cellAt, hvariable]
      rfl
  | _ =>
      rw [cellAt, hnumber _ (by omega)]
      rfl

/-- Bytes of any kind read as a number. -/
theorem exists_cellAt_of_le
    (hstring : type ≠ .string)
    (hbytes : type ≠ .bytes)
    (h : position + 8 ≤ b.fixed.length) :
    ∃ v, b.cellAt type number column position = .ok v := by
  have hnumber : ∀ width, width ≤ 8 → ∃ n, b.fixedNumber position width = .ok n := by
    intro width hwidth
    rw [fixedNumber, fixedBytes, if_pos (by omega)]
    exact ⟨_, rfl⟩
  obtain ⟨n, hn⟩ := hnumber 4 (by omega)
  obtain ⟨n', hn'⟩ := hnumber 8 (by omega)
  cases type with
  | int => exact ⟨_, cellAt_int (Or.inl rfl) hn⟩
  | boolean => exact ⟨_, cellAt_int (Or.inr rfl) hn⟩
  | long => exact ⟨_, cellAt_long (Or.inl rfl) hn'⟩
  | timestamp => exact ⟨_, cellAt_long (Or.inr rfl) hn'⟩
  | float => exact ⟨_, cellAt_float hn⟩
  | double => exact ⟨_, cellAt_double hn'⟩
  | string => exact absurd rfl hstring
  | bytes => exact absurd rfl hbytes

theorem value_eq_ok_iff {v : Value} :
    b.value number column = .ok v ↔
      number < b.rowCount ∧ ∃ type, b.schema.types[column]? = some type ∧
        b.cellAt type number column
          (number * b.schema.rowSize + b.schema.offset column) = .ok v := by
  rw [value]
  split
  · next hrow => simp [Nat.not_lt.2 hrow]
  · next hrow =>
      rw [Schema.type?]
      cases b.schema.types[column]? with
      | none => simp
      | some type => simp [Fallible.mapError_eq_ok_iff, Nat.not_le.1 hrow]

/-! ## What a block of accepted rows reads as -/

theorem rowCount_ofRows (h : ofRows schema rows = .ok b) : b.rowCount = rows.length :=
  (holds_named h).2.rowCount_eq

theorem length_fixed_ofRows (h : ofRows schema rows = .ok b) :
    b.fixed.length = rows.length * schema.named.rowSize := by
  obtain ⟨hschema, hb⟩ := holds_named h
  rw [← hschema]
  exact hb.length_fixed

theorem length_row_of_mem
    (h : ofRows schema rows = .ok b)
    (hrow : row ∈ rows) :
    row.length = schema.length := by
  obtain ⟨hschema, hb⟩ := holds_named h
  rw [hb.length_row row hrow, hschema]
  rfl

theorem length_fixed_eq_iff (h : ofRows schema rows = .ok b) :
    b.fixed.length = b.rowCount * schema.rowSize ↔
      rows = [] ∨ schema.types.length ≤ schema.length := by
  rw [length_fixed_ofRows h, rowCount_ofRows h, ← Schema.rowSize_named_eq_iff]
  rcases rows with _ | ⟨row, rows⟩
  · simp
  · rw [or_iff_right (List.cons_ne_nil row rows), List.length_cons]
    exact Nat.mul_right_inj (Nat.succ_ne_zero _)

/-- Every cell stands where the named columns place it. -/
theorem cellAt_ofRows
    {cell : Value}
    (h : ofRows schema rows = .ok b)
    (hrow : rows[number]? = some row)
    (hcell : row[column]? = some cell)
    (htype : schema.types[column]? = some type) :
    b.cellAt type number column (number * schema.named.rowSize + schema.offset column) =
      .ok (cell.stored type) := by
  obtain ⟨hschema, hb⟩ := holds_named h
  have hlength := length_row_of_mem h (List.mem_of_getElem? hrow)
  have hcolumn : column < schema.length :=
    hlength ▸ (List.getElem?_eq_some_iff.1 hcell).1
  have htypes : b.named.schema.types.length ≤ row.length := by
    rw [hschema, hlength]
    exact schema.types_named_le
  have htype' : b.named.schema.types[column]? = some type := by
    rw [hschema, ← htype]
    exact List.getElem?_take_of_lt hcolumn
  have hread := (hb.hasRow number row hrow).cellAt htypes hcell htype'
  rw [hschema, Schema.offset_named (Nat.le_of_lt hcolumn)] at hread
  -- a cell is read from the two sections alone, which `named` keeps
  cases type <;> exact hread

/-- No cell is read of a column without a name if there is no second row. -/
theorem cellAt_of_length_le
    (h : ofRows schema rows = .ok b)
    (hrows : rows.length ≤ 1)
    (hcolumn : schema.length ≤ column) :
    b.cellAt type number column (schema.offset column) =
      .error (.truncated (schema.offset column)) := by
  apply cellAt_of_length_lt
  have hbefore := Schema.rowSize_named_le_offset hcolumn
  have hfixed : b.fixed.length ≤ 1 * schema.named.rowSize := by
    rw [length_fixed_ofRows h]
    exact Nat.mul_le_mul_right _ hrows
  omega

/-- Cells are looked for where they stand if no column lacks a name, if there is no second row, and
in the first row if the column has a name. -/
theorem eq_stored_of_value
    {v : Value}
    (haligned : schema.types.length ≤ schema.length ∨ rows.length ≤ 1 ∨
      number = 0 ∧ column < schema.length)
    (h : ofRows schema rows = .ok b)
    (hvalue : b.value number column = .ok v) :
    ∃ row cell type, rows[number]? = some row ∧ row[column]? = some cell ∧
      schema.types[column]? = some type ∧ v = cell.stored type := by
  obtain ⟨hnumber, type, htype, hread⟩ := value_eq_ok_iff.1 hvalue
  have hschema : b.schema = schema := schema_appendAll h
  rw [hschema] at htype hread
  rw [rowCount_ofRows h] at hnumber
  have hplace : number * schema.rowSize = number * schema.named.rowSize := by
    rcases haligned with htypes | hrows | ⟨hfirst, -⟩
    · rw [Schema.rowSize_named_eq_iff.2 htypes]
    · rw [show number = 0 by omega, Nat.zero_mul, Nat.zero_mul]
    · rw [hfirst, Nat.zero_mul, Nat.zero_mul]
  have hcolumn : column < schema.length := by
    rcases haligned with htypes | hrows | ⟨-, hcolumn⟩
    · exact Nat.lt_of_lt_of_le (List.getElem?_eq_some_iff.1 htype).1 htypes
    · by_contra hcolumn
      rw [show number = 0 by omega, Nat.zero_mul, Nat.zero_add,
        cellAt_of_length_le h hrows (Nat.le_of_not_lt hcolumn)] at hread
      cases hread
    · exact hcolumn
  have hrow : rows[number]? = some rows[number] := List.getElem?_eq_getElem hnumber
  have hlength := length_row_of_mem h (List.getElem_mem hnumber)
  have hcell : rows[number][column]? = some _ :=
    List.getElem?_eq_getElem (hlength.symm ▸ hcolumn)
  rw [hplace, cellAt_ofRows h hrow hcell htype] at hread
  exact ⟨_, _, type, hrow, hcell, htype, (Except.ok.inj hread).symm⟩

/-- A column of numbers that has no name is read from the rows that follow. -/
theorem exists_value_of_unnamed
    (h : ofRows schema rows = .ok b)
    (hnames : 0 < schema.length)
    (hrows : 3 ≤ rows.length)
    (htype : schema.types[schema.length]? = some type)
    (hstring : type ≠ .string)
    (hbytes : type ≠ .bytes) :
    ∃ v, b.value 0 schema.length = .ok v := by
  have hschema : b.schema = schema := schema_appendAll h
  have hwidth : 4 ≤ schema.named.rowSize := by
    have hlt := (List.getElem?_eq_some_iff.1 htype).1
    exact Schema.four_le_rowSize_named (by omega) (by omega)
  have hplace : schema.offset schema.length + 8 ≤ b.fixed.length := by
    rw [length_fixed_ofRows h]
    show schema.named.rowSize + 8 ≤ _
    have := Nat.mul_le_mul_right schema.named.rowSize hrows
    omega
  obtain ⟨v, hv⟩ : ∃ v, b.cellAt type 0 schema.length (schema.offset schema.length) = .ok v :=
    exists_cellAt_of_le hstring hbytes hplace
  refine ⟨v, value_eq_ok_iff.2 ⟨?_, type, ?_, ?_⟩⟩
  · rw [rowCount_ofRows h]
    omega
  · rw [hschema, htype]
  · rw [hschema, Nat.zero_mul, Nat.zero_add]
    exact hv

/-- **Where cells are read.** Under any schema, rows take as many bytes as the columns with a name
need, and every cell stands where these columns place it. That is as many bytes as the schema says,
and what is read is what was stored, if no column lacks a name, if there is at most one row, and in
the first row where the column has a name. A column of numbers that lacks a name is read from rows
that have no cell there. -/
theorem value_of_anySchema
    (h : ofRows schema rows = .ok b) :
    b.fixed.length = b.rowCount * schema.named.rowSize ∧
    (b.fixed.length = b.rowCount * schema.rowSize ↔
      rows = [] ∨ schema.types.length ≤ schema.length) ∧
    (∀ (number column : Nat) row cell type, rows[number]? = some row → row[column]? = some cell →
      schema.types[column]? = some type →
      b.cellAt type number column (number * schema.named.rowSize + schema.offset column) =
        .ok (cell.stored type)) ∧
    (∀ number column v,
      schema.types.length ≤ schema.length ∨ rows.length ≤ 1 ∨
        number = 0 ∧ column < schema.length →
      b.value number column = .ok v →
      ∃ row cell type, rows[number]? = some row ∧ row[column]? = some cell ∧
        schema.types[column]? = some type ∧ v = cell.stored type) ∧
    (∀ type, 0 < schema.length → 3 ≤ rows.length → schema.types[schema.length]? = some type →
      type ≠ .string → type ≠ .bytes →
      (∃ v, b.value 0 schema.length = .ok v) ∧ ∀ row ∈ rows, row[schema.length]? = none) := by
  refine ⟨?_, length_fixed_eq_iff h, ?_, ?_, ?_⟩
  · rw [length_fixed_ofRows h, rowCount_ofRows h]
  · intro number column row cell type hrow hcell htype
    exact cellAt_ofRows h hrow hcell htype
  · intro number column v haligned hvalue
    exact eq_stored_of_value haligned h hvalue
  · intro type hnames hrows htype hstring hbytes
    refine ⟨exists_value_of_unnamed h hnames hrows htype hstring hbytes, ?_⟩
    intro row hrow
    exact List.getElem?_eq_none (Nat.le_of_eq (length_row_of_mem h hrow))

/-- Three rows of one number each, under two types. The first is read, and so is a cell that does
not exist. -/
theorem value_of_anySchema_threeRows :
    let schema : Schema := ⟨["a"], [.int, .long]⟩
    let rows : List Row := [[.int 7], [.int 8], [.null]]
    ∃ b, ofRows schema rows = .ok b ∧
      b.fixed.length = b.rowCount * 4 ∧ b.fixed.length ≠ b.rowCount * schema.rowSize ∧
      b.cellAt .int 1 0 4 = .ok (.int 8) ∧
      (∃ v, b.value 0 0 = .ok v) ∧ (∀ v, b.value 0 0 = .ok v → v = .int 7) ∧
      ∃ v, b.value 0 1 = .ok v := by
  intro schema rows
  have hrows : ∃ b, ofRows schema rows = .ok b := ⟨_, rfl⟩
  obtain ⟨b, hrows⟩ := hrows
  obtain ⟨hfixed, haligned, hcell, hvalue, hunnamed⟩ := value_of_anySchema hrows
  refine ⟨b, hrows, hfixed, ?_, hcell 1 0 _ _ _ rfl rfl rfl, ?_, ?_, ?_⟩
  · intro heq
    exact absurd (haligned.1 heq) (by decide)
  · cases hrows
    exact ⟨_, rfl⟩
  · intro v hv
    obtain ⟨row, cell, type, hrow, hcell, htype, rfl⟩ := hvalue 0 0 v (by decide) hv
    cases hrow
    cases hcell
    cases htype
    rfl
  · exact (hunnamed .long (by decide) (by decide) rfl (by decide) (by decide)).1

/-- With a third type for two names, the first cell of the second row reads as the second one. -/
theorem value_reads_otherCell :
    let schema : Schema := ⟨["a", "b"], [.int, .int, .int]⟩
    let rows : List Row := [[.int 1, .int 2], [.int 3, .int 4]]
    ∃ b, ofRows schema rows = .ok b ∧
      b.value 1 0 = .ok (.int 4) ∧ (Value.int 3).stored .int ≠ .int 4 ∧
      b.fixed.length ≠ b.rowCount * schema.rowSize :=
  ⟨_, rfl, by decide, by decide, by decide⟩

end Block
end ScatterGather
