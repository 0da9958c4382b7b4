import ScatterGather.Proofs.ResultTable.Cellwise
import ScatterGather.Proofs.ResultTable.Stored

/-!
# Where emptiness is looked up

Whether a cell of a result is empty may be looked up under the position of its field or under the
source column of its field. No stored value is nothing, and nothing else is ever converted to
nothing, so a cell tells whether its row was listed as empty. Hence two ways to look it up lead to
the same result only if they agree on every cell.

**Results.** `ofBlocks_eq_bySource_iff`: the results of looking under positions and of looking under
source columns are equal exactly when each row of each block is listed as empty in both places or in
neither.
-/

namespace ScatterGather

namespace Block

variable {b : Block} {type : ColumnType} {number column position : Nat} {value : Value}

theorem ne_null_of_cellAt
    (h : b.cellAt type number column position = .ok value) :
    value ≠ .null := by
  rintro rfl
  cases type <;>
    simp [cellAt, Fallible.bind_eq_ok_iff, pure, Except.pure] at h

theorem ne_null_of_value
    (h : b.value number column = .ok value) :
    value ≠ .null := by
  unfold Block.value at h
  split at h
  · cases h
  · split at h
    · cases h
    · exact ne_null_of_cellAt (Fallible.mapError_eq_ok_iff.1 h)

/-- What is read from a block is never nothing, even where a cell is listed as empty. -/
theorem ne_null_of_extractRow
    {stored : Row}
    (h : b.extractRow number = .ok stored)
    (hvalue : value ∈ stored) :
    value ≠ .null := by
  obtain ⟨column, hcolumn⟩ := Fallible.exists_of_forall₂ (Fallible.mapM_eq_ok_iff.1 h) hvalue
  exact ne_null_of_value hcolumn

end Block

namespace ResultTable

variable {nullColumn nullColumn' : NullColumn} {columns : List (ResultField × ColumnType)}
variable {b : Block} {number column column' : Nat} {stored row row' : Row}
variable {field : ResultField} {type : ColumnType} {cell cell' : Value}

/-- A cell of a result is nothing exactly where its row is listed as empty. -/
theorem Yields.eq_null_iff
    (hstored : ∀ value ∈ stored, value ≠ .null)
    (h : Yields b number stored column field type (.ok cell)) :
    cell = .null ↔ b.EmptyAt number column := by
  generalize hresult : Except.ok cell = result at h
  cases h with
  | empty hempty =>
      cases hresult
      exact iff_of_true rfl hempty
  | converted hfull hvalue =>
      have hadmits := ColumnType.admits_of_externalize
        (hstored _ (List.mem_of_getElem? hvalue)) hresult.symm
      exact iff_of_false hadmits.ne_null hfull
  | missing =>
      cases hresult

/-- Two cells for the same value are the same exactly when both or neither is listed as empty. -/
theorem Yields.eq_iff
    (hstored : ∀ value ∈ stored, value ≠ .null)
    (h : Yields b number stored column field type (.ok cell))
    (h' : Yields b number stored column' field type (.ok cell')) :
    cell = cell' ↔ (b.EmptyAt number column ↔ b.EmptyAt number column') := by
  rw [← h.eq_null_iff hstored, ← h'.eq_null_iff hstored]
  constructor
  · rintro rfl
    exact Iff.rfl
  · intro hsame
    by_cases hnull : cell = .null
    · exact hnull.trans (hsame.1 hnull).symm
    · have hfull := mt (h.eq_null_iff hstored).2 hnull
      have hfull' := mt (h'.eq_null_iff hstored).2 (mt hsame.2 hnull)
      have hmoved : Yields b number stored column field type (.ok cell') := by
        generalize Except.ok cell' = result at h'
        cases h' with
        | empty hempty => exact absurd hempty hfull'
        | converted _ hvalue => exact .converted hfull hvalue
        | missing _ hmissing => exact .missing hfull hmissing
      exact Except.ok.inj (h.unique hmoved)

theorem Shows.eq_iff
    {line : Block × Nat}
    (h : Shows nullColumn columns line row)
    (h' : Shows nullColumn' columns line row') :
    row = row' ↔ ∀ entry ∈ columns.zipIdx,
      (line.1.EmptyAt line.2 (nullColumn entry.2 entry.1.1) ↔
        line.1.EmptyAt line.2 (nullColumn' entry.2 entry.1.1)) := by
  obtain ⟨stored, hread, hcells⟩ := h
  obtain ⟨stored', hread', hcells'⟩ := h'
  rw [hread] at hread'
  cases hread'
  exact Fallible.eq_iff_of_forall₂ hcells hcells' fun _ _ _ hcell hcell' =>
    hcell.eq_iff (fun _ hvalue => Block.ne_null_of_extractRow hread hvalue) hcell'

/-- Two ways to look up emptiness lead to the same result exactly when they agree everywhere. -/
theorem ofBlocksBy_eq_iff
    {blocks : List Block} {fields : List ResultField} {source : Schema} {table table' : ResultTable}
    (h : ofBlocksBy nullColumn blocks fields source = .ok table)
    (h' : ofBlocksBy nullColumn' blocks fields source = .ok table') :
    table = table' ↔ ∀ b ∈ blocks, ∀ number < b.rowCount, ∀ position field,
      fields[position]? = some field →
      (b.EmptyAt number (nullColumn position field) ↔
        b.EmptyAt number (nullColumn' position field)) := by
  obtain ⟨types, htypes⟩ := exists_types_of_ofBlocksBy h
  obtain ⟨hschema, hrows⟩ := (ofBlocksBy_eq_ok_iff htypes).1 h
  obtain ⟨hschema', hrows'⟩ := (ofBlocksBy_eq_ok_iff htypes).1 h'
  have htable : table = table' ↔ table.rows = table'.rows := by
    rcases table with ⟨schema, rows⟩
    rcases table' with ⟨schema', rows'⟩
    cases hschema.trans hschema'.symm
    simp
  have hentry : ∀ field type position, ((field, type), position) ∈ (fields.zip types).zipIdx ↔
      fields[position]? = some field ∧ types[position]? = some type := by
    intro field type position
    rw [List.mem_zipIdx_iff_getElem?, List.getElem?_zip_eq_some]
  rw [htable, Fallible.eq_iff_of_forall₂ hrows hrows' fun _ _ _ hrow hrow' => hrow.eq_iff hrow']
  constructor
  · intro hsame b hb number hnumber position field hfield
    have hposition : position < types.length :=
      htypes.length_eq ▸ (List.getElem?_eq_some_iff.1 hfield).1
    have htype : types[position]? = some types[position] := List.getElem?_eq_getElem hposition
    exact hsame (b, number) (mem_lines.2 ⟨hb, hnumber⟩) _ ((hentry _ _ _).2 ⟨hfield, htype⟩)
  · rintro hsame ⟨b, number⟩ hline ⟨⟨field, type⟩, position⟩ hmem
    obtain ⟨hb, hnumber⟩ := mem_lines.1 hline
    exact hsame b hb number hnumber position field ((hentry _ _ _).1 hmem).1

/-- **How far looking under positions goes wrong.** For any blocks, fields and source schema for
which both results exist: the one that looks for emptiness under the position of each field equals
the one that looks under its source column exactly when every row of every block is listed as empty
under the position of a field just if it is so under the source column of that field. -/
theorem ofBlocks_eq_bySource_iff
    (blocks : List Block) (fields : List ResultField) (source : Schema)
    {table ideal : ResultTable}
    (htable : ofBlocks blocks fields source = .ok table)
    (hideal : ofBlocksBy bySource blocks fields source = .ok ideal) :
    table = ideal ↔ ∀ b ∈ blocks, ∀ number < b.rowCount, ∀ position field,
      fields[position]? = some field →
      (b.EmptyAt number position ↔ b.EmptyAt number field.source) :=
  ofBlocksBy_eq_iff htable hideal

/-- Two columns that change places, for rows that are empty in both or in neither, and after them
for a row that is empty in one of them. -/
theorem ofBlocks_eq_bySource_iff_swapped :
    let source : Schema := ⟨["A", "B"], [.int, .bytes]⟩
    let fields : List ResultField := [⟨1, "b"⟩, ⟨0, "a"⟩]
    let swapped : Schema := ⟨["b", "a"], [.bytes, .int]⟩
    ∃ even odd,
      Block.ofRows source [[.int 7, .bytes []], [.null, .null]] = .ok even ∧
      Block.ofRows source [[.int 7, .null]] = .ok odd ∧
      ofBlocks [even] fields source =
        .ok ⟨swapped, [[.string "", .int 7], [.null, .null]]⟩ ∧
      ofBlocksBy bySource [even] fields source =
        .ok ⟨swapped, [[.string "", .int 7], [.null, .null]]⟩ ∧
      (∀ number < even.rowCount, even.EmptyAt number 0 ↔ even.EmptyAt number 1) ∧
      ∃ table ideal,
        ofBlocks [even, odd] fields source = .ok table ∧
        ofBlocksBy bySource [even, odd] fields source = .ok ideal ∧
        table ≠ ideal := by
  intro source fields swapped
  obtain ⟨even, heven⟩ :
      ∃ even, Block.ofRows source [[.int 7, .bytes []], [.null, .null]] = .ok even := ⟨_, rfl⟩
  obtain ⟨odd, hodd⟩ : ∃ odd, Block.ofRows source [[.int 7, .null]] = .ok odd := ⟨_, rfl⟩
  have hparts : Block.AreParts source [_] [even] := .cons heven .nil
  have hparts' : Block.AreParts source [_, _] [even, odd] := .cons heven (.cons hodd .nil)
  have htable : ofBlocks [even] fields source =
      .ok ⟨swapped, [[.string "", .int 7], [.null, .null]]⟩ := by
    rw [ofBlocks, ofBlocksBy_parts rfl hparts]
    rfl
  have hideal : ofBlocksBy bySource [even] fields source =
      .ok ⟨swapped, [[.string "", .int 7], [.null, .null]]⟩ := by
    rw [ofBlocksBy_parts rfl hparts]
    rfl
  have hagree := (ofBlocks_eq_bySource_iff _ _ _ htable hideal).1 rfl
  obtain ⟨table, htable'⟩ : ∃ table, ofBlocks [even, odd] fields source = .ok table := by
    rw [ofBlocks, ofBlocksBy_parts rfl hparts']
    exact ⟨_, rfl⟩
  obtain ⟨ideal, hideal'⟩ : ∃ ideal, ofBlocksBy bySource [even, odd] fields source = .ok ideal := by
    rw [ofBlocksBy_parts rfl hparts']
    exact ⟨_, rfl⟩
  refine ⟨even, odd, heven, hodd, htable, hideal, ?_, table, ideal, htable', hideal', ?_⟩
  · exact fun number hnumber =>
      hagree even (List.mem_singleton.2 rfl) number hnumber 0 ⟨1, "b"⟩ rfl
  · intro hequal
    have hnull : odd.rowCount = 1 ∧ isNull odd 0 0 = false ∧ isNull odd 0 1 = true := by
      cases hodd
      exact ⟨rfl, rfl, rfl⟩
    have hsame := (ofBlocks_eq_bySource_iff _ _ _ htable' hideal').1 hequal odd (by simp) 0
      (by omega) 0 ⟨1, "b"⟩ rfl
    rw [← isNull_iff, ← isNull_iff, hnull.2.1, hnull.2.2] at hsame
    cases hsame.2 rfl

end ResultTable
end ScatterGather
