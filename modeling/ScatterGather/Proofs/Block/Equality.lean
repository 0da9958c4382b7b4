import ScatterGather.Proofs.Block.RoundTrip

/-!
# Equal blocks

A block shows everything of the rows that it was made of, except whether a truth value was given as
such or as the number that is stored for it. What was nothing is told from what was zero or empty by
the lists of empty cells, all else by the stored values.

**Results.** `Block.ofRows_unified`: truth values may be given as numbers. `Block.ofRows_eq_iff`: two
blocks are equal exactly when their schemas, the numbers of their rows and all of their cells are.
-/

namespace ScatterGather

/-- A value, with the number that is stored for it in place of a truth value. -/
def Value.unified : Value → Value
  | boolean b => .int (if b then 1 else 0)
  | value => value

theorem Value.unified_eq_null_iff {value : Value} : value.unified = .null ↔ value = .null := by
  cases value <;> simp [unified]

/-- What is not nothing reads as what it is, but for truth values. -/
theorem Value.stored_of_ne_null
    {value : Value}
    (h : value ≠ .null)
    (type : ColumnType) :
    value.stored type = value.unified := by
  cases value with
  | null => exact absurd rfl h
  | _ => rfl

namespace CellBytes

variable {column start : Nat}

theorem ofValue_unified
    {type : ColumnType} {value : Value} {cell : CellBytes}
    (h : ofValue type column start value = .ok cell) :
    ofValue type column start value.unified = .ok cell := by
  cases value with
  | boolean b =>
      cases type with
      | boolean =>
          cases h
          cases b <;> rfl
      | _ => cases h
  | _ => exact h

theorem ofCells_unified
    {row : Row} {types : List ColumnType} {bytes : CellBytes}
    (h : ofCells column start (row.zip types) = .ok bytes) :
    ofCells column start ((row.map Value.unified).zip types) = .ok bytes := by
  induction row generalizing column start types bytes with
  | nil =>
      exact h
  | cons value row ih =>
      cases types with
      | nil =>
          exact h
      | cons type types =>
          obtain ⟨first, rest, hfirst, hrest, rfl⟩ := ofCells_cons_eq_ok h
          rw [List.map_cons, List.zip_cons_cons, ofCells, ofValue_unified hfirst]
          show (ofCells (column + 1) (start + first.varying.length) _ >>= _) = _
          rw [ih hrest]
          rfl

end CellBytes

namespace Block

variable {b b' grown : Block} {rows rows' : List Row} {number column : Nat}

/-! ## Truth values as numbers -/

theorem markNulls_unified (row : Row) (types : List ColumnType) (nullRows : List (List Nat)) :
    markNulls number ((row.map Value.unified).zip types) nullRows =
      markNulls number (row.zip types) nullRows := by
  have hnull : ∀ column : Nat,
      ((row.map Value.unified).zip types)[column]?.map Prod.fst = some Value.null ↔
        (row.zip types)[column]?.map Prod.fst = some Value.null := by
    intro column
    rw [List.zip_map_left, List.getElem?_map]
    cases (row.zip types)[column]? <;> simp [Value.unified_eq_null_iff]
  simp only [markNulls, hnull]

theorem append_unified
    {row : Row}
    (h : b.append row = .ok grown) :
    b.append (row.map Value.unified) = .ok grown := by
  unfold append at h ⊢
  rw [List.length_map]
  split at h
  · cases h
  · next hlength =>
      split at h
      · cases h
      · next hcount =>
          obtain ⟨bytes, hbytes, hgrown⟩ := Fallible.bind_eq_ok_iff.1 h
          rw [if_neg hlength, if_neg hcount]
          refine Fallible.bind_eq_ok_iff.2 ⟨bytes, CellBytes.ofCells_unified hbytes, ?_⟩
          rw [markNulls_unified]
          exact hgrown

theorem appendAll_unified
    (h : b.appendAll rows = .ok grown) :
    b.appendAll (rows.map (List.map Value.unified)) = .ok grown := by
  induction rows generalizing b with
  | nil =>
      exact h
  | cons row rows ih =>
      obtain ⟨next, hnext, hrest⟩ := Fallible.bind_eq_ok_iff.1 h
      exact Fallible.bind_eq_ok_iff.2 ⟨next, append_unified hnext, ih hrest⟩

/-- A block does not show whether truth values were given as numbers. -/
theorem ofRows_unified
    {schema : Schema}
    (h : ofRows schema rows = .ok b) :
    ofRows schema (rows.map (List.map Value.unified)) = .ok b :=
  appendAll_unified h

/-! ## What a block shows -/

/-- The cells of a block that holds two lists of rows are the same in both, but for truth values. -/
theorem Holds.unified_eq
    {row row' : Row} {cell cell' : Value}
    (htypes : b.schema.types.length = b.schema.length)
    (hb : b.Holds rows)
    (hb' : b.Holds rows')
    (hrow : rows[number]? = some row)
    (hrow' : rows'[number]? = some row')
    (hcell : row[column]? = some cell)
    (hcell' : row'[column]? = some cell') :
    cell.unified = cell'.unified := by
  have hlt : column < b.schema.types.length := by
    rw [htypes, ← hb.length_row row (List.mem_of_getElem? hrow)]
    exact (List.getElem?_eq_some_iff.1 hcell).1
  have htype : b.schema.types[column]? = some b.schema.types[column] :=
    List.getElem?_eq_getElem hlt
  have hread := value_of_holds (by omega) hb hrow hcell htype
  have hread' := value_of_holds (by omega) hb' hrow' hcell' htype
  have hstored : cell.stored b.schema.types[column] = cell'.stored b.schema.types[column] :=
    Except.ok.inj (hread.symm.trans hread')
  -- The block lists the empty cells of the column, and so those of both lists of rows.
  have hlisted : column < b.nullRows.length := by
    rw [hb.length_nullRows]
    omega
  have hfirst := hb.nullRows_eq column _ (List.getElem?_eq_getElem hlisted)
  have hsecond := hb'.nullRows_eq column _ (List.getElem?_eq_getElem hlisted)
  rw [if_pos hlt] at hfirst hsecond
  have hmem : number ∈ emptyIn rows column ↔ _ := mem_emptyIn hrow
  have hmem' : number ∈ emptyIn rows' column ↔ _ := mem_emptyIn hrow'
  rw [hcell, Option.some_inj, ← hfirst] at hmem
  rw [hcell', Option.some_inj, ← hsecond] at hmem'
  have hnull : cell = .null ↔ cell' = .null := hmem.symm.trans hmem'
  by_cases hcellNull : cell = .null
  · rw [hcellNull, hnull.1 hcellNull]
  · rw [← Value.stored_of_ne_null hcellNull, hstored,
      Value.stored_of_ne_null (mt hnull.2 hcellNull)]

/-- Rows of one length whose cells are the same but for truth values. -/
theorem map_unified_eq
    (hlength : rows.length = rows'.length)
    {width : Nat}
    (hwidth : ∀ row ∈ rows, row.length = width)
    (hwidth' : ∀ row ∈ rows', row.length = width)
    (hcells : ∀ (number : Nat) row row' (column : Nat) cell cell',
      rows[number]? = some row → rows'[number]? = some row' →
      row[column]? = some cell → row'[column]? = some cell' → cell.unified = cell'.unified) :
    rows.map (List.map Value.unified) = rows'.map (List.map Value.unified) := by
  refine List.ext_getElem (by simpa using hlength) fun number hrow hrow' => ?_
  rw [List.length_map] at hrow hrow'
  rw [List.getElem_map, List.getElem_map]
  have hsame : rows[number].length = rows'[number].length :=
    (hwidth _ (List.getElem_mem hrow)).trans (hwidth' _ (List.getElem_mem hrow')).symm
  refine List.ext_getElem (by simpa using hsame) fun column hcell hcell' => ?_
  rw [List.length_map] at hcell hcell'
  rw [List.getElem_map, List.getElem_map]
  exact hcells number _ _ column _ _ (List.getElem?_eq_getElem hrow)
    (List.getElem?_eq_getElem hrow') (List.getElem?_eq_getElem hcell)
    (List.getElem?_eq_getElem hcell')

/-- **Equal blocks.** Blocks that were made of rows are equal exactly when their schemas are, they
have as many rows, and corresponding cells are the same, where a truth value is the same as the
number that is stored for it. -/
theorem ofRows_eq_iff
    {columns columns' : List (String × ColumnType)}
    (h : ofRows (.ofColumns columns) rows = .ok b)
    (h' : ofRows (.ofColumns columns') rows' = .ok b') :
    b = b' ↔
      Schema.ofColumns columns = Schema.ofColumns columns' ∧
      rows.length = rows'.length ∧
      ∀ (number : Nat) row row' (column : Nat) cell cell',
        rows[number]? = some row → rows'[number]? = some row' →
        row[column]? = some cell → row'[column]? = some cell' → cell.unified = cell'.unified := by
  have htypes : ∀ columns, (Schema.ofColumns columns).types.length =
      (Schema.ofColumns columns).length := by
    intro columns
    simp [Schema.ofColumns, Schema.length]
  obtain ⟨hschema, hb⟩ := holds_ofRows (Nat.le_of_eq (htypes columns)) h
  obtain ⟨hschema', hb'⟩ := holds_ofRows (Nat.le_of_eq (htypes columns')) h'
  constructor
  · rintro rfl
    refine ⟨hschema.symm.trans hschema', hb.rowCount_eq.symm.trans hb'.rowCount_eq, ?_⟩
    intro number row row' column cell cell' hrow hrow' hcell hcell'
    exact hb.unified_eq (hschema ▸ htypes columns) hb' hrow hrow' hcell hcell'
  · rintro ⟨hsame, hlength, hcells⟩
    have hunified := ofRows_unified h
    have hunified' := ofRows_unified h'
    have hrows := map_unified_eq hlength (fun row hrow => hschema ▸ hb.length_row row hrow)
      (fun row hrow => hsame ▸ hschema' ▸ hb'.length_row row hrow) hcells
    rw [hrows, hsame] at hunified
    exact Except.ok.inj (hunified.symm.trans hunified')

/-- Truth values in one list of rows are numbers in the other, and a third list has a byte of the
text of its first cell in the next one. -/
theorem ofRows_eq_iff_truthValues :
    let columns := [("s", ColumnType.string), ("x", .bytes), ("b", .boolean)]
    let rows : List Row := [[.string "ab", .bytes [1], .boolean true], [.null, .null, .int 0]]
    let rows' : List Row := [[.string "ab", .bytes [1], .int 1], [.null, .null, .boolean false]]
    let rows'' : List Row := [[.string "a", .bytes [98, 1], .int 1], [.null, .null, .int 0]]
    ∃ b b' b'',
      ofRows (.ofColumns columns) rows = .ok b ∧
      ofRows (.ofColumns columns) rows' = .ok b' ∧
      ofRows (.ofColumns columns) rows'' = .ok b'' ∧
      b = b' ∧ b ≠ b'' := by
  intro columns rows rows' rows''
  have hrows : ∃ b, ofRows (.ofColumns columns) rows = .ok b := ⟨_, rfl⟩
  have hrows' : ∃ b, ofRows (.ofColumns columns) rows' = .ok b := ⟨_, rfl⟩
  have hrows'' : ∃ b, ofRows (.ofColumns columns) rows'' = .ok b := ⟨_, rfl⟩
  obtain ⟨b, hb⟩ := hrows
  obtain ⟨b', hb'⟩ := hrows'
  obtain ⟨b'', hb''⟩ := hrows''
  refine ⟨b, b', b'', hb, hb', hb'', (ofRows_eq_iff hb hb').2 ⟨rfl, rfl, ?_⟩, ?_⟩
  · intro number row row' column cell cell' hrow hrow' hcell hcell'
    rcases number with _ | _ | number <;> cases hrow <;> cases hrow' <;>
      rcases column with _ | _ | _ | column <;> cases hcell <;> cases hcell' <;> rfl
  · intro heq
    obtain ⟨-, -, hcells⟩ := (ofRows_eq_iff hb hb'').1 heq
    have hfirst := hcells 0 _ _ 0 _ _ rfl rfl rfl rfl
    exact absurd hfirst (by decide)

end Block
end ScatterGather
