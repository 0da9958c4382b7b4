import ScatterGather.Proofs.Block.Layout

/-!
# Parts of a list of rows

Whether a block accepts a row depends on how many rows and how many bytes of content it has
already: a block with less of both accepts all that one with more does.

**Results.** `parts_of_ofRows`: if a list of rows makes a block, then so does each part of it.
-/

namespace ScatterGather

namespace CellBytes

theorem outlined_mono
    {start earlier : Nat} {content : List UInt8} {cell : CellBytes}
    (hle : earlier ≤ start)
    (h : outlined start content = .ok cell) :
    ∃ cell', outlined earlier content = .ok cell' ∧ cell'.varying = cell.varying := by
  obtain ⟨hstart, hlength, rfl⟩ := outlined_eq_ok_iff.1 h
  exact ⟨_, outlined_eq_ok_iff.2 ⟨Nat.lt_of_le_of_lt hle hstart, hlength, rfl⟩, rfl⟩

/-- A cell that can be encoded can be encoded after less content. -/
theorem ofValue_mono
    {type : ColumnType} {column start earlier : Nat} {value : Value} {cell : CellBytes}
    (hle : earlier ≤ start)
    (h : ofValue type column start value = .ok cell) :
    ∃ cell', ofValue type column earlier value = .ok cell' ∧ cell'.varying = cell.varying := by
  cases value with
  | string s =>
      cases type with
      | string => exact outlined_mono hle h
      | _ => exact ⟨cell, h, rfl⟩
  | bytes content =>
      cases type with
      | bytes => exact outlined_mono hle h
      | _ => exact ⟨cell, h, rfl⟩
  | _ =>
      cases type <;> exact ⟨cell, h, rfl⟩

theorem ofCells_mono
    {cells : List (Value × ColumnType)} {column start earlier : Nat} {bytes : CellBytes}
    (hle : earlier ≤ start)
    (h : ofCells column start cells = .ok bytes) :
    ∃ bytes', ofCells column earlier cells = .ok bytes' ∧ bytes'.varying = bytes.varying := by
  induction cells generalizing column start earlier bytes with
  | nil =>
      exact ⟨bytes, h, rfl⟩
  | cons entry cells ih =>
      obtain ⟨value, type⟩ := entry
      obtain ⟨first, rest, hfirst, hrest, rfl⟩ := ofCells_cons_eq_ok h
      obtain ⟨first', hfirst', hsame⟩ := ofValue_mono hle hfirst
      have hle' : earlier + first'.varying.length ≤ start + first.varying.length := by
        rw [hsame]
        omega
      obtain ⟨rest', hrest', hsame'⟩ := ih hle' hrest
      refine ⟨⟨first'.fixed ++ rest'.fixed, first'.varying ++ rest'.varying⟩, ?_, ?_⟩
      · rw [ofCells, hfirst']
        show (ofCells (column + 1) (earlier + first'.varying.length) cells >>= _) = _
        rw [hrest']
        rfl
      · rw [hsame, hsame']

end CellBytes

namespace Block

/-- A block has no more rows than another one of its schema, and no more content. -/
structure Within (b whole : Block) : Prop where
  schema : b.schema = whole.schema
  rowCount : b.rowCount ≤ whole.rowCount
  varying : b.varying.length ≤ whole.varying.length

variable {b b' whole grown : Block}

theorem within_empty (whole : Block) : (empty whole.schema).Within whole where
  schema := rfl
  rowCount := Nat.zero_le _
  varying := Nat.zero_le _

/-- What a block accepts is accepted by one with less. -/
theorem Within.append
    {row : Row}
    (h : b.Within whole)
    (hwhole : whole.append row = .ok grown) :
    ∃ grown', b.append row = .ok grown' ∧ grown'.Within grown := by
  unfold Block.append at hwhole ⊢
  split at hwhole
  · cases hwhole
  · next hlength =>
      split at hwhole
      · cases hwhole
      · next hcount =>
          have hrowCount := h.rowCount
          obtain ⟨bytes, hbytes, hgrown⟩ := Fallible.bind_eq_ok_iff.1 hwhole
          cases hgrown
          obtain ⟨bytes', hbytes', hsame⟩ := CellBytes.ofCells_mono h.varying hbytes
          rw [h.schema, if_neg hlength, if_neg (by omega)]
          refine ⟨_, Fallible.bind_eq_ok_iff.2 ⟨bytes', hbytes', rfl⟩, rfl, ?_, ?_⟩
          · exact Nat.succ_le_succ hrowCount
          · simpa [hsame] using h.varying

theorem Within.appendAll
    {rows : List Row}
    (h : b.Within whole)
    (hwhole : whole.appendAll rows = .ok grown) :
    ∃ grown', b.appendAll rows = .ok grown' ∧ grown'.Within grown := by
  induction rows generalizing b whole with
  | nil =>
      cases hwhole
      exact ⟨b, rfl, h⟩
  | cons row rows ih =>
      obtain ⟨next, hnext, hrest⟩ := Fallible.bind_eq_ok_iff.1 hwhole
      obtain ⟨next', hnext', hwithin⟩ := h.append hnext
      obtain ⟨grown', hgrown', hwithin'⟩ := ih hwithin hrest
      exact ⟨grown', Fallible.bind_eq_ok_iff.2 ⟨next', hnext', hgrown'⟩, hwithin'⟩

theorem appendAll_append (b : Block) (rows more : List Row) :
    b.appendAll (rows ++ more) = b.appendAll rows >>= fun next => next.appendAll more := by
  induction rows generalizing b with
  | nil =>
      rfl
  | cons row rows ih =>
      rw [List.cons_append, Block.appendAll, Block.appendAll]
      cases b.append row with
      | error fault =>
          rfl
      | ok next =>
          exact ih next

/-- Blocks of one schema, each of which holds its part of a list of rows. -/
def AreParts (schema : Schema) (parts : List (List Row)) (blocks : List Block) : Prop :=
  List.Forall₂ (fun rows b => ofRows schema rows = .ok b) parts blocks

/-- Parts of the rows that a block accepts one after the other. -/
theorem parts_of_appendAll
    {parts : List (List Row)}
    (h : b.appendAll parts.flatten = .ok whole) :
    ∃ blocks, AreParts b.schema parts blocks := by
  induction parts generalizing b with
  | nil =>
      exact ⟨[], .nil⟩
  | cons rows parts ih =>
      rw [List.flatten_cons, appendAll_append] at h
      obtain ⟨next, hnext, hrest⟩ := Fallible.bind_eq_ok_iff.1 h
      obtain ⟨part, hpart, -⟩ := (within_empty b).appendAll hnext
      obtain ⟨blocks, hblocks⟩ := ih hrest
      rw [schema_appendAll hnext] at hblocks
      exact ⟨part :: blocks, .cons hpart hblocks⟩

/-- If a list of rows makes a block, then so does each part of it. -/
theorem parts_of_ofRows
    {schema : Schema} {parts : List (List Row)}
    (h : ofRows schema parts.flatten = .ok whole) :
    ∃ blocks, AreParts schema parts blocks :=
  parts_of_appendAll h

end Block
end ScatterGather
