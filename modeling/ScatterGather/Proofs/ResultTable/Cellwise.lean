import ScatterGather.Block.Append
import ScatterGather.Dispatch.Error
import ScatterGather.Proofs.ResultTable.Cells

/-!
# Results cell by cell

A result is made by looking at one thing after the other: at each row of its blocks as a whole, and
then at the cells of the row that is made of it, from left to right. The first of these that fails
is the reason why the result fails; if none does, every cell holds what must come of it.

**Results.** `ofBlocks_cellwise`: when a result exists, what stands in it, and why it fails, for any
blocks, fields and source schema.
-/

namespace ScatterGather
namespace ResultTable

/-- What is looked at in turn: a row of a block as a whole, or one cell of the row of a result that
is made of it, with the column under which it is looked up whether the row is empty there. -/
inductive Check where
  | line (b : Block) (number : Nat)
  | cell (b : Block) (number column : Nat) (field : ResultField) (type : ColumnType)

/-- Why something that is looked at fails: a row cannot be read, or a cell of a row that can has a
failure to come of it. -/
inductive Check.Fails : Check → DataError → Prop
  | unreadable
      {b : Block} {number : Nat} {fault : DataError}
      (hread : b.extractRow number = .error fault) :
      Fails (.line b number) fault
  | cell
      {b : Block} {number column : Nat} {stored : Row} {field : ResultField} {type : ColumnType}
      {fault : DataError}
      (hread : b.extractRow number = .ok stored)
      (hcell : Yields b number stored column field type (.error fault)) :
      Fails (.cell b number column field type) fault

/-- What is looked at for a row: first the row, then its cells. -/
def checksOf (nullColumn : NullColumn) (columns : List (ResultField × ColumnType))
    (line : Block × Nat) : List Check :=
  .line line.1 line.2 :: columns.zipIdx.map fun entry =>
    .cell line.1 line.2 (nullColumn entry.2 entry.1.1) entry.1.1 entry.1.2

/-- What is looked at for a result, in the order of its blocks, rows and fields. -/
def checks (nullColumn : NullColumn) (columns : List (ResultField × ColumnType))
    (blocks : List Block) : List Check :=
  (lines blocks).flatMap (checksOf nullColumn columns)

variable {nullColumn : NullColumn} {columns : List (ResultField × ColumnType)}
variable {b : Block} {number column : Nat} {stored row : Row} {fault : DataError}
variable {blocks : List Block} {fields : List ResultField} {source : Schema}
variable {types : List ColumnType} {field : ResultField} {type : ColumnType}

theorem fails_line_iff :
    (Check.line b number).Fails fault ↔ b.extractRow number = .error fault := by
  constructor
  · rintro ⟨hread⟩
    exact hread
  · exact .unreadable

theorem fails_cell_iff
    (hread : b.extractRow number = .ok stored) :
    (Check.cell b number column field type).Fails fault ↔
      Yields b number stored column field type (.error fault) := by
  constructor
  · intro h
    cases h with
    | cell hread' hcell =>
        rw [hread] at hread'
        cases hread'
        exact hcell
  · exact .cell hread

/-- A row of a result fails as the first thing that is looked at for it. -/
theorem rowOf_eq_error_iff :
    rowOf nullColumn columns b number = .error fault ↔
      Fallible.FirstFault Check.Fails (checksOf nullColumn columns (b, number)) fault := by
  rw [checksOf, Fallible.firstFault_cons, rowOf, Fallible.bind_eq_error_iff]
  simp only [fails_line_iff]
  cases hread : b.extractRow number with
  | error fault' =>
      simp
  | ok stored =>
      have hcells : cellsOf nullColumn b number stored 0 columns = .error fault ↔
          Fallible.FirstFault Check.Fails
            (columns.zipIdx.map fun entry =>
              .cell b number (nullColumn entry.2 entry.1.1) entry.1.1 entry.1.2) fault := by
        rw [cellsOf_eq, Fallible.mapM_eq_error_iff]
        refine Fallible.firstFault_congr (List.forall₂_map_right_iff.2
          (List.forall₂_same.2 fun entry _ fault => ?_))
        rw [cellOf_eq_iff, fails_cell_iff hread]
      simp [hcells]

/-! ## The schema -/

theorem mapM_columnOf
    (htypes : List.Forall₂ (fun field type => source.type? field.source = some type) fields types) :
    fields.mapM (columnOf source) = .ok ((fields.map ResultField.name).zip types) := by
  rw [Fallible.mapM_eq_ok_iff]
  induction htypes with
  | nil =>
      exact .nil
  | cons htype _ ih =>
      exact .cons (by rw [columnOf, htype]) ih

theorem schemaOf_eq_ok
    (htypes : List.Forall₂ (fun field type => source.type? field.source = some type) fields types) :
    schemaOf source fields = .ok ⟨fields.map ResultField.name, types⟩ := by
  have hlength := htypes.length_eq
  rw [schemaOf, mapM_columnOf htypes]
  show Except.ok (Schema.ofColumns _) = _
  rw [Schema.ofColumns, List.map_fst_zip (by simp; omega), List.map_snd_zip (by simp; omega)]

theorem schemaOf_eq_error
    {before after : List ResultField}
    (hbefore : ∀ earlier ∈ before, ∃ type, source.type? earlier.source = some type)
    (huntyped : source.type? field.source = none) :
    schemaOf source (before ++ field :: after) =
      .error (.columnOutOfRange field.source source.length) := by
  have hfield : columnOf source field = .error (.columnOutOfRange field.source source.length) := by
    rw [columnOf, huntyped]
  have hcolumns : ∀ earlier ∈ before, ∃ column, columnOf source earlier = .ok column := by
    intro earlier hearlier
    obtain ⟨type, htype⟩ := hbefore earlier hearlier
    exact ⟨(earlier.name, type), by rw [columnOf, htype]⟩
  rw [schemaOf, Fallible.mapM_append_error hcolumns hfield]
  rfl

theorem exists_types_of_ofBlocksBy
    {table : ResultTable}
    (h : ofBlocksBy nullColumn blocks fields source = .ok table) :
    ∃ types,
      List.Forall₂ (fun field type => source.type? field.source = some type) fields types := by
  obtain ⟨schema, hschema, -⟩ := Fallible.bind_eq_ok_iff.1 h
  obtain ⟨columns, hcolumns, -⟩ := Fallible.bind_eq_ok_iff.1 hschema
  refine ⟨columns.map Prod.snd, List.forall₂_map_right_iff.2 ?_⟩
  refine (Fallible.mapM_eq_ok_iff.1 hcolumns).imp fun field column hcolumn => ?_
  unfold columnOf at hcolumn
  split at hcolumn
  · next htype =>
      cases hcolumn
      exact htype
  · cases hcolumn

/-! ## The whole result -/

/-- A result whose fields have types is made of its rows. -/
theorem ofBlocksBy_of_types
    (htypes : List.Forall₂ (fun field type => source.type? field.source = some type) fields types) :
    ofBlocksBy nullColumn blocks fields source = (do
      let rows ← (lines blocks).mapM fun line =>
        rowOf nullColumn (fields.zip types) line.1 line.2
      return ⟨⟨fields.map ResultField.name, types⟩, rows⟩) := by
  rw [ofBlocksBy_eq, schemaOf_eq_ok htypes]
  rfl

theorem ofBlocksBy_eq_error_iff
    (htypes : List.Forall₂ (fun field type => source.type? field.source = some type) fields types) :
    ofBlocksBy nullColumn blocks fields source = .error fault ↔
      Fallible.FirstFault Check.Fails (checks nullColumn (fields.zip types) blocks) fault := by
  rw [ofBlocksBy_of_types htypes, Fallible.bind_eq_error_iff, Fallible.mapM_eq_error_iff, checks,
    ← Fallible.firstFault_flatMap]
  simp only [rowOf_eq_error_iff]
  simp [pure, Except.pure]

theorem ofBlocksBy_eq_ok_iff
    {table : ResultTable}
    (htypes : List.Forall₂ (fun field type => source.type? field.source = some type) fields types) :
    ofBlocksBy nullColumn blocks fields source = .ok table ↔
      table.schema = ⟨fields.map ResultField.name, types⟩ ∧
      List.Forall₂ (Shows nullColumn (fields.zip types)) (lines blocks) table.rows := by
  rw [ofBlocksBy_of_types htypes, Fallible.bind_eq_ok_iff]
  simp only [Fallible.mapM_eq_ok_iff, rowOf_eq_ok_iff]
  constructor
  · rintro ⟨rows, hrows, htable⟩
    cases htable
    exact ⟨rfl, hrows⟩
  · rintro ⟨hschema, hrows⟩
    refine ⟨table.rows, hrows, ?_⟩
    rw [← hschema]
    rfl

theorem exists_ofBlocksBy_eq_ok_iff
    (htypes : List.Forall₂ (fun field type => source.type? field.source = some type) fields types) :
    (∃ table, ofBlocksBy nullColumn blocks fields source = .ok table) ↔
      ∀ check ∈ checks nullColumn (fields.zip types) blocks, ∀ fault, ¬ check.Fails fault := by
  rw [← Fallible.forall_not_firstFault_iff]
  simp only [← ofBlocksBy_eq_error_iff htypes]
  cases ofBlocksBy nullColumn blocks fields source <;> simp

/-- What comes of a cell is nothing or has the form of its type. -/
theorem Yields.admits
    {cell : Value}
    (h : Yields b number stored column field type (.ok cell))
    (hcell : cell ≠ .null) :
    type.Admits cell := by
  generalize hresult : Except.ok cell = result at h
  cases h with
  | empty _ =>
      cases hresult
      exact absurd rfl hcell
  | @converted value _ _ =>
      refine ColumnType.admits_of_externalize ?_ hresult.symm
      rintro rfl
      rw [type.externalize_null] at hresult
      cases hresult
      exact hcell rfl
  | missing _ _ =>
      cases hresult

/-- A row of a result has a cell for each field, in the form of its type. -/
theorem Shows.admits
    {line : Block × Nat}
    (hlength : fields.length = types.length)
    (h : Shows nullColumn (fields.zip types) line row) :
    List.Forall₂ (fun type cell => cell ≠ .null → type.Admits cell) types row := by
  obtain ⟨stored, -, hcells⟩ := h
  have hzip : types = (fields.zip types).zipIdx.map fun entry => entry.1.2 := by
    rw [show (fun entry : (ResultField × ColumnType) × Nat => entry.1.2) = Prod.snd ∘ Prod.fst
      from rfl, ← List.map_map, List.zipIdx_map_fst, List.map_snd_zip (by omega)]
  rw [hzip]
  exact List.forall₂_map_left_iff.2 (hcells.imp fun _ _ hcell => hcell.admits)

/-- **What a result is, cell by cell.** For any blocks, fields and source schema: the first field
without a type fails the result, whatever the blocks are. If every field has a type, then the first
thing that fails, of what is looked at in the order of the blocks, their rows and the fields, is the
reason why the result fails; a result exists exactly if nothing fails; and it has the names and the
types of the fields and a row for each row of the blocks, with a cell for each field, in which
stands what must come of it and which is nothing or has the form of its type. -/
theorem ofBlocks_cellwise
    (blocks : List Block) (fields : List ResultField) (source : Schema) :
    let result := (ofBlocks blocks fields source).mapError QueryError.table
    (∀ before field after, fields = before ++ field :: after →
      (∀ earlier ∈ before, ∃ type, source.type? earlier.source = some type) →
      source.type? field.source = none →
      result = .error (.table (.columnOutOfRange field.source source.length))) ∧
    ∀ types,
      List.Forall₂ (fun field type => source.type? field.source = some type) fields types →
      let columns := fields.zip types
      (∀ fault, result = .error (.table fault) ↔
        Fallible.FirstFault Check.Fails (checks byPosition columns blocks) fault) ∧
      ((∃ table, result = .ok table) ↔
        ∀ check ∈ checks byPosition columns blocks, ∀ fault, ¬ check.Fails fault) ∧
      (∀ table, result = .ok table →
        table.schema = ⟨fields.map ResultField.name, types⟩ ∧
        List.Forall₂ (Shows byPosition columns) (lines blocks) table.rows ∧
        ∀ row ∈ table.rows, row.length = fields.length ∧
          List.Forall₂ (fun type cell => cell ≠ .null → type.Admits cell) types row) := by
  intro result
  have hok : ∀ table, result = .ok table ↔ ofBlocksBy byPosition blocks fields source = .ok table :=
    fun table => Fallible.mapError_eq_ok_iff
  have herror : ∀ fault, result = .error (.table fault) ↔
      ofBlocksBy byPosition blocks fields source = .error fault :=
    fun fault => Fallible.mapError_eq_error_iff fun _ h => QueryError.table.inj h
  refine ⟨?_, ?_⟩
  · rintro before field after rfl hbefore huntyped
    rw [herror, ofBlocksBy, schemaOf_eq_error hbefore huntyped]
    rfl
  · intro types htypes columns
    have hlength := htypes.length_eq
    refine ⟨fun fault => (herror fault).trans (ofBlocksBy_eq_error_iff htypes), ?_, ?_⟩
    · simp only [hok]
      exact exists_ofBlocksBy_eq_ok_iff htypes
    · intro table htable
      obtain ⟨hschema, hrows⟩ := (ofBlocksBy_eq_ok_iff htypes).1 ((hok table).1 htable)
      refine ⟨hschema, hrows, fun row hrow => ?_⟩
      obtain ⟨line, hline⟩ := Fallible.exists_of_forall₂ hrows hrow
      have hcells := hline.admits hlength
      exact ⟨hcells.length_eq.symm.trans hlength.symm, hcells⟩

/-- A column that is shown first although it is stored second, and whose empty cell is looked up in
its new place; and a block of long numbers after it, where the source schema has short ones. -/
theorem ofBlocks_cellwise_swapped :
    let source : Schema := ⟨["A", "B"], [.int, .string]⟩
    let fields : List ResultField := [⟨1, "b"⟩, ⟨0, "a"⟩]
    let types : List ColumnType := [.string, .int]
    ∃ b long,
      Block.ofRows source [[.int 7, .null]] = .ok b ∧
      Block.ofRows ⟨["A", "B"], [.long, .string]⟩ [[.long 1, .string "x"]] = .ok long ∧
      List.Forall₂ (fun field type => source.type? field.source = some type) fields types ∧
      (∃ table, (ofBlocks [b] fields source).mapError QueryError.table = .ok table ∧
        table.schema = ⟨["b", "a"], types⟩ ∧ table.rows = [[.string "", .null]]) ∧
      (ofBlocks [b, long] fields source).mapError QueryError.table =
        .error (.table (.conversion (.long 1) .int)) := by
  intro source fields types
  have htypes : List.Forall₂ (fun field type => source.type? field.source = some type)
      fields types := .cons rfl (.cons rfl .nil)
  obtain ⟨b, hb⟩ : ∃ b, Block.ofRows source [[.int 7, .null]] = .ok b := ⟨_, rfl⟩
  obtain ⟨long, hlong⟩ :
      ∃ long, Block.ofRows ⟨["A", "B"], [.long, .string]⟩ [[.long 1, .string "x"]] = .ok long :=
    ⟨_, rfl⟩
  have htable : (ofBlocks [b] fields source).mapError QueryError.table =
      .ok ⟨⟨["b", "a"], types⟩, [[.string "", .null]]⟩ := by
    cases hb
    rfl
  obtain ⟨-, hcells⟩ := ofBlocks_cellwise [b] fields source
  obtain ⟨-, hexists, hshown⟩ := hcells types htypes
  refine ⟨b, long, hb, hlong, htypes, ⟨_, htable, (hshown _ htable).1, rfl⟩, ?_⟩
  obtain ⟨-, hcells'⟩ := ofBlocks_cellwise [b, long] fields source
  obtain ⟨hfault, -⟩ := hcells' types htypes
  have hread : long.extractRow 0 = .ok [.long 1, .string "x"] := by
    cases hlong
    rfl
  have hfull : ¬ long.EmptyAt 0 0 ∧ ¬ long.EmptyAt 0 1 := by
    have hnull : isNull long 0 0 = false ∧ isNull long 0 1 = false := by
      cases hlong
      exact ⟨rfl, rfl⟩
    simp [← isNull_iff, hnull]
  have hchecks : checks byPosition (fields.zip types) [b, long] =
      checks byPosition (fields.zip types) [b] ++
        [.line long 0, .cell long 0 0 ⟨1, "b"⟩ .string, .cell long 0 1 ⟨0, "a"⟩ .int] := by
    cases hb
    cases hlong
    rfl
  have hfirst : Yields long 0 [.long 1, .string "x"] 0 ⟨1, "b"⟩ .string
      (ColumnType.string.externalize (.string "x")) := .converted hfull.1 rfl
  have hsecond : Yields long 0 [.long 1, .string "x"] 1 ⟨0, "a"⟩ .int
      (ColumnType.int.externalize (.long 1)) := .converted hfull.2 rfl
  rw [hfault, hchecks, Fallible.firstFault_append]
  refine Or.inr ⟨hexists.1 ⟨_, htable⟩, .later ?_ (.later ?_ (.here (.cell hread hsecond)))⟩
  · intro fault hfails
    rw [fails_line_iff, hread] at hfails
    cases hfails
  · intro fault hfails
    cases hfirst.unique ((fails_cell_iff hread).1 hfails)

end ResultTable
end ScatterGather
