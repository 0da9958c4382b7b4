import ScatterGather.Proofs.ResultTable.Stored

/-!
# Regrouping the rows of a result

A result is read row by row, and what comes of a row does not depend on the block that it stands in.
So rows may be sent in few large blocks or in many small ones, with empty blocks among them.

**Results.** `ofBlocks_regrouped`: a result does not tell how its rows were grouped into blocks,
whether it exists or fails, and whatever other blocks there are.
-/

namespace ScatterGather
namespace ResultTable

variable {nullColumn : NullColumn} {before after blocks blocks' : List Block}
variable {fields : List ResultField} {source schema : Schema} {parts parts' : List (List Row)}

/-- Blocks whose rows come out the same may stand for each other in any result. -/
theorem ofBlocksBy_congr
    (h : ∀ columns,
      (lines blocks).mapM (fun line => rowOf nullColumn columns line.1 line.2) =
        (lines blocks').mapM (fun line => rowOf nullColumn columns line.1 line.2)) :
    ofBlocksBy nullColumn (before ++ blocks ++ after) fields source =
      ofBlocksBy nullColumn (before ++ blocks' ++ after) fields source := by
  simp only [ofBlocksBy_eq, lines_append, List.mapM_append, h]

/-- Blocks that hold the same rows one after the other may stand for each other in any result. -/
theorem ofBlocksBy_of_parts
    (htypes : schema.types.length = schema.length)
    (hblocks : Block.AreParts schema parts blocks)
    (hblocks' : Block.AreParts schema parts' blocks')
    (hrows : parts.flatten = parts'.flatten) :
    ofBlocksBy nullColumn (before ++ blocks ++ after) fields source =
      ofBlocksBy nullColumn (before ++ blocks' ++ after) fields source := by
  refine ofBlocksBy_congr fun columns => ?_
  rw [mapM_lines_of_parts htypes hblocks, mapM_lines_of_parts htypes hblocks', hrows]

/-- Blocks without rows have no lines. -/
theorem lines_filter (blocks : List Block) :
    lines (blocks.filter fun b => 0 < b.rowCount) = lines blocks := by
  induction blocks with
  | nil =>
      rfl
  | cons b blocks ih =>
      rw [List.filter_cons, lines_cons, ← ih]
      rcases Nat.eq_zero_or_pos b.rowCount with hnone | hsome
      · simp [hnone]
      · simp [hsome, lines_cons]

/-- **A result does not tell how its rows were grouped.** Take any columns, any other blocks before
and after, any fields and any source schema. If a block of the columns accepts some rows with more
after them, then it accepts both on their own, and the two blocks give what the one gives. Blocks
with the same rows one after the other give the same, whatever parts the rows are in; and blocks
without rows, of whatever schema, can be left out or added anywhere. In each case it is the same
result or the same failure. -/
theorem ofBlocks_regrouped
    (columns : List (String × ColumnType)) (before after : List Block)
    (fields : List ResultField) (source : Schema) :
    let schema := Schema.ofColumns columns
    let result := fun blocks => ofBlocks (before ++ blocks ++ after) fields source
    (∀ rows more whole, Block.ofRows schema (rows ++ more) = .ok whole →
      ∃ first second, Block.ofRows schema rows = .ok first ∧
        Block.ofRows schema more = .ok second ∧
        result [whole] = result [first, second]) ∧
    (∀ parts parts' blocks blocks', Block.AreParts schema parts blocks →
      Block.AreParts schema parts' blocks' → parts.flatten = parts'.flatten →
      result blocks = result blocks') ∧
    (∀ blocks, result blocks =
      ofBlocks ((before ++ blocks ++ after).filter fun b => 0 < b.rowCount) fields source) := by
  intro schema result
  have htypes : schema.types.length = schema.length := by
    simp [schema, Schema.ofColumns, Schema.length]
  refine ⟨?_, ?_, ?_⟩
  · intro rows more whole hwhole
    have hflat : [rows, more].flatten = rows ++ more := by simp
    obtain ⟨blocks, hblocks⟩ := Block.parts_of_ofRows (hflat ▸ hwhole)
    obtain _ | ⟨hfirst, _ | ⟨hsecond, _ | _⟩⟩ := hblocks
    refine ⟨_, _, hfirst, hsecond, ?_⟩
    exact ofBlocksBy_of_parts htypes (.cons hwhole .nil) (.cons hfirst (.cons hsecond .nil))
      (by simp)
  · intro parts parts' blocks blocks' hblocks hblocks' hrows
    exact ofBlocksBy_of_parts htypes hblocks hblocks' hrows
  · intro blocks
    simp only [result, ofBlocks, ofBlocksBy_eq, lines_filter]

/-- Two rows in one block or in two, with columns that change places, after an empty block of
another schema; and the same rows where the source schema has shorter numbers, so that the second
row cannot be converted. -/
theorem ofBlocks_regrouped_two :
    let columns : List (String × ColumnType) := [("s", .bytes), ("n", .long), ("up", .boolean)]
    let schema := Schema.ofColumns columns
    let short := Schema.ofColumns [("s", .bytes), ("n", .int), ("up", .boolean)]
    let rows : List Row := [[.null, .long 5, .boolean true]]
    let more : List Row := [[.bytes [10], .null, .int 0]]
    let nothing := Block.empty ⟨["x"], [.double]⟩
    let fields : List ResultField := [⟨1, "n"⟩, ⟨0, "s"⟩, ⟨1, "again"⟩]
    let table : ResultTable := ⟨⟨["n", "s", "again"], [.long, .bytes, .long]⟩,
      [[.null, .string "", .long 5], [.long 0, .null, .long 0]]⟩
    ∃ whole first second,
      Block.ofRows schema (rows ++ more) = .ok whole ∧
      Block.ofRows schema rows = .ok first ∧ Block.ofRows schema more = .ok second ∧
      ofBlocks [nothing, first, second] fields schema = .ok table ∧
      ofBlocks [first, second] fields schema = .ok table ∧
      ofBlocks [nothing, first, second] [⟨1, "n"⟩] short = .error (.conversion (.long 0) .int) := by
  intro columns schema short rows more nothing fields table
  obtain ⟨whole, hwhole⟩ : ∃ whole, Block.ofRows schema (rows ++ more) = .ok whole := ⟨_, rfl⟩
  obtain ⟨first, hfirst⟩ : ∃ first, Block.ofRows schema rows = .ok first := ⟨_, rfl⟩
  obtain ⟨second, hsecond⟩ : ∃ second, Block.ofRows schema more = .ok second := ⟨_, rfl⟩
  have hwholes : Block.AreParts schema [rows ++ more] [whole] := .cons hwhole .nil
  have hparts : Block.AreParts schema [rows, more] [first, second] :=
    .cons hfirst (.cons hsecond .nil)
  obtain ⟨-, hregroup, -⟩ := ofBlocks_regrouped columns [] [] fields schema
  obtain ⟨-, -, hfilter⟩ := ofBlocks_regrouped columns [nothing] [] fields schema
  obtain ⟨-, hfailing, hfilter'⟩ := ofBlocks_regrouped columns [nothing] [] [⟨1, "n"⟩] short
  have hsome : [nothing, first, second].filter (fun b => 0 < b.rowCount) = [first, second] ∧
      [nothing, whole].filter (fun b => 0 < b.rowCount) = [whole] := by
    cases hwhole
    cases hfirst
    cases hsecond
    exact ⟨rfl, rfl⟩
  have htable : ofBlocks [first, second] fields schema = .ok table := by
    refine (hregroup _ _ _ _ hparts hwholes rfl).trans ?_
    show ofBlocksBy byPosition [whole] fields schema = _
    rw [ofBlocksBy_parts rfl hwholes]
    rfl
  refine ⟨whole, first, second, hwhole, hfirst, hsecond, ?_, htable, ?_⟩
  · refine (hfilter [first, second]).trans ?_
    show ofBlocks ([nothing, first, second].filter _) _ _ = _
    rw [hsome.1, htable]
  · refine (hfailing _ _ _ _ hparts hwholes rfl).trans ((hfilter' [whole]).trans ?_)
    show ofBlocks ([nothing, whole].filter _) _ _ = _
    rw [hsome.2, ofBlocks, ofBlocksBy_parts rfl hwholes]
    rfl

end ResultTable
end ScatterGather
