import Mathlib.Algebra.Ring.Nat
import ScatterGather.Proofs.Block.Layout

/-!
# Which rows a block accepts

A row is accepted if it has a value for each name of the schema, if the block has a number left for
it, and if each of its cells that has a type can be stored: the type takes the value, and content of
varying length is short enough and starts early enough in the variable section. What starts where is
told by the content of the cells before it.

**Results.** `CellBytes.ofCells_eq_error_iff`: the cells of a row are refused as the leftmost of them
that cannot be stored. `Block.offer_atomic`: which rows are accepted, why others are refused, and
that these leave no trace, at once or in what is built in the end.
-/

namespace ScatterGather

/-- The values that a column of a type takes. A truth value may come as the number 0 or 1. -/
inductive ColumnType.Takes : ColumnType → Value → Prop
  | null (type : ColumnType) : Takes type .null
  | int (n : Int32) : Takes .int (.int n)
  | boolean (b : Bool) : Takes .boolean (.boolean b)
  | zero : Takes .boolean (.int 0)
  | one : Takes .boolean (.int 1)
  | long (n : Int64) : Takes .long (.long n)
  | timestamp (n : Int64) : Takes .timestamp (.long n)
  | float (bits : UInt32) : Takes .float (.float bits)
  | double (bits : UInt64) : Takes .double (.double bits)
  | string (s : String) : Takes .string (.string s)
  | bytes (bs : List UInt8) : Takes .bytes (.bytes bs)

/-- The content of a value of varying length. -/
def Value.content? : Value → Option (List UInt8)
  | string s => some (Utf8.encode s)
  | bytes bs => some bs
  | _ => none

/-- The content of all values, one after the other. -/
def contentOf (values : List Value) : List UInt8 :=
  (values.filterMap Value.content?).flatten

/-- The bytes of content of all values together. -/
def contentLength (values : List Value) : Nat :=
  ((values.filterMap Value.content?).map List.length).sum

theorem contentOf_append (values more : List Value) :
    contentOf (values ++ more) = contentOf values ++ contentOf more := by
  simp [contentOf]

theorem length_contentOf (values : List Value) :
    (contentOf values).length = contentLength values :=
  List.length_flatten

theorem contentLength_append (values more : List Value) :
    contentLength (values ++ more) = contentLength values + contentLength more := by
  simp [contentLength]

theorem contentLength_cons (value : Value) (values : List Value) :
    contentLength (value :: values) = contentLength [value] + contentLength values :=
  contentLength_append [value] values

/-- A value can be stored under a type, `start` bytes into the variable section. -/
structure Storable (type : ColumnType) (start : Nat) (value : Value) : Prop where
  takes : type.Takes value
  content : ∀ content, value.content? = some content →
    start < wordLimit ∧ content.length < wordLimit

/-- Why a value cannot be stored under a type, in a given column and `start` bytes into the variable
section. -/
inductive CellFault (type : ColumnType) (column start : Nat) (value : Value) : EncodeFault → Prop
  | mismatch
      (htakes : ¬ type.Takes value) :
      CellFault type column start value (.mismatch value column type)
  | sectionTooLong
      {content : List UInt8}
      (htakes : type.Takes value)
      (hcontent : value.content? = some content)
      (hstart : wordLimit ≤ start) :
      CellFault type column start value .sectionTooLong
  | valueTooLong
      {content : List UInt8}
      (htakes : type.Takes value)
      (hcontent : value.content? = some content)
      (hstart : start < wordLimit)
      (hlength : wordLimit ≤ content.length) :
      CellFault type column start value .valueTooLong

namespace CellBytes

variable {type : ColumnType} {column start index : Nat} {value : Value} {fault : EncodeFault}
variable {content : List UInt8} {cells : List (Value × ColumnType)}

/-! ## One cell -/

theorem ofValue_of_not_takes
    (h : ¬ type.Takes value) :
    ofValue type column start value = .error (.mismatch value column type) := by
  unfold ofValue
  split
  case h_1 => exact absurd (.null _) h
  case h_2 n => exact absurd (.int n) h
  case h_3 b => exact absurd (.boolean b) h
  case h_4 n =>
    split
    · next hn =>
        rcases hn with rfl | rfl
        · exact absurd .zero h
        · exact absurd .one h
    · rfl
  case h_5 n => exact absurd (.long n) h
  case h_6 n => exact absurd (.timestamp n) h
  case h_7 bits => exact absurd (.float bits) h
  case h_8 bits => exact absurd (.double bits) h
  case h_9 s => exact absurd (.string s) h
  case h_10 bs => exact absurd (.bytes bs) h
  case h_11 => rfl

theorem ofValue_of_content
    (htakes : type.Takes value)
    (hcontent : value.content? = some content) :
    ofValue type column start value = outlined start content := by
  cases htakes with
  | string s =>
      cases hcontent
      rfl
  | bytes bs =>
      cases hcontent
      rfl
  | _ => cases hcontent

theorem ofValue_of_content?_eq_none
    (htakes : type.Takes value)
    (hcontent : value.content? = none)
    (column start : Nat) :
    ∃ n, ofValue type column start value = .ok (inline type.width n) := by
  cases htakes with
  | string s => cases hcontent
  | bytes bs => cases hcontent
  | null type => exact ⟨0, by cases type <;> rfl⟩
  | _ => exact ⟨_, rfl⟩

theorem outlined_eq_error_iff :
    outlined start content = .error fault ↔
      (wordLimit ≤ start ∧ fault = .sectionTooLong) ∨
        (start < wordLimit ∧ wordLimit ≤ content.length ∧ fault = .valueTooLong) := by
  unfold outlined
  split
  · next hstart => simp [hstart, Nat.not_lt.2 hstart, eq_comm]
  · next hstart =>
      split
      · next hlength => simp [hstart, Nat.not_le.1 hstart, hlength, eq_comm]
      · next hlength => simp [hstart, hlength]

/-- A cell is refused for what is wrong with it. -/
theorem ofValue_eq_error_iff :
    ofValue type column start value = .error fault ↔ CellFault type column start value fault := by
  by_cases htakes : type.Takes value
  · cases hcontent : value.content? with
    | none =>
        obtain ⟨n, hvalue⟩ := ofValue_of_content?_eq_none htakes hcontent column start
        rw [hvalue]
        constructor
        · intro h
          cases h
        · intro h
          cases h with
          | mismatch hnot => exact absurd htakes hnot
          | sectionTooLong _ hsome _ => cases hcontent.symm.trans hsome
          | valueTooLong _ hsome _ _ => cases hcontent.symm.trans hsome
    | some content =>
        rw [ofValue_of_content htakes hcontent, outlined_eq_error_iff]
        constructor
        · rintro (⟨hstart, rfl⟩ | ⟨hstart, hlength, rfl⟩)
          · exact .sectionTooLong htakes hcontent hstart
          · exact .valueTooLong htakes hcontent hstart hlength
        · intro h
          cases h with
          | mismatch hnot => exact absurd htakes hnot
          | sectionTooLong _ _ hstart => exact Or.inl ⟨hstart, rfl⟩
          | valueTooLong _ hsome hstart hlength =>
              cases hcontent.symm.trans hsome
              exact Or.inr ⟨hstart, hlength, rfl⟩
  · rw [ofValue_of_not_takes htakes]
    constructor
    · intro h
      cases h
      exact .mismatch htakes
    · intro h
      cases h with
      | mismatch _ => rfl
      | sectionTooLong hyes _ _ => exact absurd hyes htakes
      | valueTooLong hyes _ _ _ => exact absurd hyes htakes

/-- Nothing is wrong with a cell exactly when it can be stored. -/
theorem forall_not_cellFault_iff :
    (∀ fault, ¬ CellFault type column start value fault) ↔ Storable type start value := by
  constructor
  · intro h
    have htakes : type.Takes value := Classical.not_not.1 fun hnot => h _ (.mismatch hnot)
    refine ⟨htakes, fun content hcontent => ?_⟩
    have hstart : start < wordLimit :=
      Nat.lt_of_not_le fun hstart => h _ (.sectionTooLong htakes hcontent hstart)
    exact ⟨hstart, Nat.lt_of_not_le fun hlength =>
      h _ (.valueTooLong htakes hcontent hstart hlength)⟩
  · intro h fault hfault
    cases hfault with
    | mismatch hnot => exact hnot h.takes
    | sectionTooLong _ hcontent hstart =>
        exact absurd (h.content _ hcontent).1 (Nat.not_lt.2 hstart)
    | valueTooLong _ hcontent _ hlength =>
        exact absurd (h.content _ hcontent).2 (Nat.not_lt.2 hlength)

theorem takes_of_ofValue
    {cell : CellBytes}
    (h : ofValue type column start value = .ok cell) :
    type.Takes value := by
  by_contra hnot
  rw [ofValue_of_not_takes hnot] at h
  cases h

/-- A cell adds its content to the variable section. -/
theorem varying_ofValue
    {cell : CellBytes}
    (h : ofValue type column start value = .ok cell) :
    cell.varying = contentOf [value] := by
  have htakes := takes_of_ofValue h
  cases hcontent : value.content? with
  | none =>
      obtain ⟨n, hvalue⟩ := ofValue_of_content?_eq_none htakes hcontent column start
      cases hvalue.symm.trans h
      simp [contentOf, hcontent, inline]
  | some content =>
      rw [ofValue_of_content htakes hcontent] at h
      obtain ⟨-, -, rfl⟩ := outlined_eq_ok_iff.1 h
      simp [contentOf, hcontent]

theorem length_varying_ofValue
    {cell : CellBytes}
    (h : ofValue type column start value = .ok cell) :
    cell.varying.length = contentLength [value] := by
  rw [varying_ofValue h, length_contentOf]

/-! ## The cells of a row -/

/-- What is wrong with one of several neighbouring cells, the first of which is in the given
column. -/
def FaultIn (column start : Nat) (cells : List (Value × ColumnType)) (index : Nat)
    (fault : EncodeFault) : Prop :=
  ∃ value type, cells[index]? = some (value, type) ∧
    CellFault type (column + index) (start + contentLength ((cells.take index).map Prod.fst))
      value fault

theorem faultIn_zero :
    FaultIn column start ((value, type) :: cells) 0 fault ↔
      CellFault type column start value fault := by
  simp [FaultIn, contentLength]

theorem faultIn_succ :
    FaultIn column start ((value, type) :: cells) (index + 1) fault ↔
      FaultIn (column + 1) (start + contentLength [value]) cells index fault := by
  have hcolumn : column + (index + 1) = column + 1 + index := by omega
  unfold FaultIn
  rw [List.getElem?_cons_succ, List.take_succ_cons, List.map_cons, contentLength_cons, hcolumn,
    Nat.add_assoc start]

/-- Cells are refused as the leftmost of them with which something is wrong. -/
theorem ofCells_eq_error_iff :
    ofCells column start cells = .error fault ↔
      ∃ index, FaultIn column start cells index fault ∧
        ∀ earlier < index, ∀ fault', ¬ FaultIn column start cells earlier fault' := by
  induction cells generalizing column start with
  | nil =>
      simp [ofCells, FaultIn]
  | cons entry cells ih =>
      obtain ⟨value, type⟩ := entry
      rw [ofCells]
      cases hfirst : ofValue type column start value with
      | error fault' =>
          have hwrong := ofValue_eq_error_iff.1 hfirst
          constructor
          · intro h
            cases h
            exact ⟨0, faultIn_zero.2 hwrong, fun _ hlt => absurd hlt (Nat.not_lt_zero _)⟩
          · rintro ⟨index, hfault, hbefore⟩
            cases index with
            | zero =>
                rw [ofValue_eq_error_iff.2 (faultIn_zero.1 hfault)] at hfirst
                cases hfirst
                rfl
            | succ index =>
                exact absurd (faultIn_zero.2 hwrong) (hbefore 0 (Nat.zero_lt_succ _) fault')
      | ok first =>
          have hright : ∀ fault', ¬ CellFault type column start value fault' := by
            intro fault' hfault
            rw [ofValue_eq_error_iff.2 hfault] at hfirst
            cases hfirst
          have hrest : (do
              let rest ← ofCells (column + 1) (start + first.varying.length) cells
              return (⟨first.fixed ++ rest.fixed, first.varying ++ rest.varying⟩ : CellBytes)) =
                .error fault ↔
              ofCells (column + 1) (start + contentLength [value]) cells = .error fault := by
            rw [length_varying_ofValue hfirst, Fallible.bind_eq_error_iff]
            simp [pure, Except.pure]
          refine hrest.trans (ih.trans ?_)
          constructor
          · rintro ⟨index, hfault, hbefore⟩
            refine ⟨index + 1, faultIn_succ.2 hfault, fun earlier hlt fault' hearlier => ?_⟩
            cases earlier with
            | zero => exact hright fault' (faultIn_zero.1 hearlier)
            | succ earlier =>
                exact hbefore earlier (Nat.lt_of_succ_lt_succ hlt) fault' (faultIn_succ.1 hearlier)
          · rintro ⟨index, hfault, hbefore⟩
            cases index with
            | zero => exact absurd (faultIn_zero.1 hfault) (hright fault)
            | succ index =>
                refine ⟨index, faultIn_succ.1 hfault, fun earlier hlt fault' hearlier => ?_⟩
                exact hbefore (earlier + 1) (Nat.succ_lt_succ hlt) fault' (faultIn_succ.2 hearlier)

/-- Cells that are encoded have nothing wrong with them. -/
theorem not_faultIn_of_ofCells
    {bytes : CellBytes}
    (h : ofCells column start cells = .ok bytes)
    (index : Nat) :
    ∀ fault, ¬ FaultIn column start cells index fault := by
  induction index using Nat.strongRecOn with
  | ind index ih =>
      intro fault hfault
      rw [ofCells_eq_error_iff.2 ⟨index, hfault, ih⟩] at h
      cases h

end CellBytes

namespace Block

variable {b grown : Block} {row : Row} {column : Nat} {fault : EncodeFault}

/-! ## One row -/

/-- What is wrong with the cell of a column, if a row is to be added to a block. -/
def FaultAt (b : Block) (row : Row) (column : Nat) (fault : EncodeFault) : Prop :=
  ∃ value type, row[column]? = some value ∧ b.schema.types[column]? = some type ∧
    CellFault type column (b.varying.length + contentLength (row.take column)) value fault

/-- A row that can be added to a block. -/
structure Encodable (b : Block) (row : Row) : Prop where
  length : row.length = b.schema.length
  rowCount : b.rowCount < wordLimit
  cells : ∀ column value type, row[column]? = some value → b.schema.types[column]? = some type →
    Storable type (b.varying.length + contentLength (row.take column)) value

/-- Why a row is refused: for its length, or else for the number of rows, or else for its leftmost
cell that cannot be stored. -/
inductive Refused (b : Block) (row : Row) : EncodeFault → Prop
  | length
      (hlength : row.length ≠ b.schema.length) :
      Refused b row (.rowLength row.length b.schema)
  | rowCount
      (hlength : row.length = b.schema.length)
      (hcount : wordLimit ≤ b.rowCount) :
      Refused b row .rowCount
  | cell
      {column : Nat} {fault : EncodeFault}
      (hlength : row.length = b.schema.length)
      (hcount : b.rowCount < wordLimit)
      (hfault : b.FaultAt row column fault)
      (hfirst : ∀ earlier < column, ∀ fault', ¬ b.FaultAt row earlier fault') :
      Refused b row fault

theorem faultIn_zip_iff :
    CellBytes.FaultIn 0 b.varying.length (row.zip b.schema.types) column fault ↔
      b.FaultAt row column fault := by
  have hbefore : ∀ type, b.schema.types[column]? = some type →
      ((row.zip b.schema.types).take column).map Prod.fst = row.take column :=
    fun type htype => map_fst_take_zip (Nat.le_of_lt (List.getElem?_eq_some_iff.1 htype).1)
  unfold CellBytes.FaultIn FaultAt
  simp only [List.getElem?_zip_eq_some, Nat.zero_add]
  constructor
  · rintro ⟨value, type, ⟨hvalue, htype⟩, hfault⟩
    rw [hbefore type htype] at hfault
    exact ⟨value, type, hvalue, htype, hfault⟩
  · rintro ⟨value, type, hvalue, htype, hfault⟩
    rw [← hbefore type htype] at hfault
    exact ⟨value, type, ⟨hvalue, htype⟩, hfault⟩

/-- A row of the right length that gets a number is accepted if its cells are. -/
theorem append_of_fits
    (hlength : row.length = b.schema.length)
    (hcount : b.rowCount < wordLimit) :
    (∃ bytes grown, CellBytes.ofCells 0 b.varying.length (row.zip b.schema.types) = .ok bytes ∧
      b.append row = .ok grown) ∨
    ∃ fault, CellBytes.ofCells 0 b.varying.length (row.zip b.schema.types) = .error fault ∧
      b.append row = .error fault := by
  unfold append
  rw [if_neg (not_not.2 hlength), if_neg (Nat.not_le.2 hcount)]
  dsimp only
  cases CellBytes.ofCells 0 b.varying.length (row.zip b.schema.types) with
  | ok bytes => exact Or.inl ⟨bytes, _, rfl, rfl⟩
  | error fault => exact Or.inr ⟨fault, rfl, rfl⟩

theorem append_eq_error_iff : b.append row = .error fault ↔ b.Refused row fault := by
  by_cases hlength : row.length = b.schema.length
  · rcases Nat.lt_or_ge b.rowCount wordLimit with hcount | hcount
    · have hcells : b.append row = .error fault ↔
          CellBytes.ofCells 0 b.varying.length (row.zip b.schema.types) = .error fault := by
        rcases append_of_fits hlength hcount with ⟨bytes, grown, hbytes, h⟩ | ⟨fault', hbytes, h⟩
        · simp [hbytes, h]
        · simp [hbytes, h]
      rw [hcells, CellBytes.ofCells_eq_error_iff]
      simp only [faultIn_zip_iff]
      constructor
      · rintro ⟨column, hfault, hfirst⟩
        exact .cell hlength hcount hfault hfirst
      · intro h
        cases h with
        | length hne => exact absurd hlength hne
        | rowCount _ hfull => exact absurd hfull (Nat.not_le.2 hcount)
        | cell _ _ hfault hfirst => exact ⟨_, hfault, hfirst⟩
    · unfold append
      rw [if_neg (not_not.2 hlength), if_pos hcount]
      constructor
      · intro h
        cases h
        exact .rowCount hlength hcount
      · intro h
        cases h with
        | length hne => exact absurd hlength hne
        | rowCount _ _ => rfl
        | cell _ hfree _ _ => exact absurd hcount (Nat.not_le.2 hfree)
  · unfold append
    rw [if_pos hlength]
    constructor
    · intro h
      cases h
      exact .length hlength
    · intro h
      cases h with
      | length _ => rfl
      | rowCount hsame _ => exact absurd hsame hlength
      | cell hsame _ _ _ => exact absurd hsame hlength

/-- Nothing is wrong with a cell exactly when it can be stored where it comes to stand. -/
theorem forall_not_faultAt_iff :
    (∀ column fault, ¬ b.FaultAt row column fault) ↔
      ∀ column value type, row[column]? = some value → b.schema.types[column]? = some type →
        Storable type (b.varying.length + contentLength (row.take column)) value := by
  constructor
  · intro h column value type hvalue htype
    exact CellBytes.forall_not_cellFault_iff.1 fun fault hfault =>
      h column fault ⟨value, type, hvalue, htype, hfault⟩
  · rintro h column fault ⟨value, type, hvalue, htype, hfault⟩
    exact CellBytes.forall_not_cellFault_iff.2 (h column value type hvalue htype) fault hfault

theorem exists_append_iff : (∃ grown, b.append row = .ok grown) ↔ b.Encodable row := by
  constructor
  · rintro ⟨grown, h⟩
    obtain ⟨hlength, bytes, hbytes, -⟩ := append_eq_ok h
    have hcount : b.rowCount < wordLimit := by
      by_contra hfull
      rw [append_eq_error_iff.2 (.rowCount hlength (Nat.not_lt.1 hfull))] at h
      cases h
    refine ⟨hlength, hcount, forall_not_faultAt_iff.1 fun column fault hfault => ?_⟩
    exact CellBytes.not_faultIn_of_ofCells hbytes column fault (faultIn_zip_iff.2 hfault)
  · intro h
    cases happend : b.append row with
    | ok grown => exact ⟨grown, rfl⟩
    | error fault =>
        cases append_eq_error_iff.1 happend with
        | length hne => exact absurd h.length hne
        | rowCount _ hfull => exact absurd hfull (Nat.not_le.2 h.rowCount)
        | cell _ _ hfault _ => exact absurd hfault (forall_not_faultAt_iff.2 h.cells _ _)

/-! ## Rows that are offered -/

/-- A row is refused before any part of the block is changed. -/
theorem offer_eq (b : Block) (row : Row) :
    b.offer row =
      match b.append row with
      | .ok grown => (.ok (), grown)
      | .error fault => (.error fault, b) := by
  unfold offer addRow append
  change (if row.length ≠ b.schema.length then _ else _ : ExceptT _ (StateM Block) Unit) b = _
  split
  · rfl
  · split
    · rfl
    · dsimp only
      cases CellBytes.ofCells 0 b.varying.length (row.zip b.schema.types) <;> rfl

theorem offer_of_append_ok
    (h : b.append row = .ok grown) :
    b.offer row = (.ok (), grown) := by
  rw [offer_eq, h]

theorem offer_of_append_error
    (h : b.append row = .error fault) :
    b.offer row = (.error fault, b) := by
  rw [offer_eq, h]

/-- The rows among those offered that are accepted. -/
def accepted (b : Block) (rows : List Row) : List Row :=
  ((rows.zip (b.offerAll rows).1).filter fun entry => entry.2.refused = none).map Prod.fst

theorem accepted_of_append_ok
    (h : b.append row = .ok grown)
    (rows : List Row) :
    b.accepted (row :: rows) = row :: grown.accepted rows ∧
      (b.offerAll (row :: rows)).2 = (grown.offerAll rows).2 := by
  simp [accepted, offerAll, offer_of_append_ok h, noted]

theorem accepted_of_append_error
    (h : b.append row = .error fault)
    (rows : List Row) :
    b.accepted (row :: rows) = b.accepted rows ∧
      (b.offerAll (row :: rows)).2 = (b.offerAll rows).2 := by
  simp [accepted, offerAll, offer_of_append_error h, noted]

/-- What is built of rows that are offered is what the accepted rows alone make of it. -/
theorem appendAll_accepted (b : Block) (rows : List Row) :
    b.appendAll (b.accepted rows) = .ok (b.offerAll rows).2 := by
  induction rows generalizing b with
  | nil =>
      rfl
  | cons row rows ih =>
      cases h : b.append row with
      | ok grown =>
          obtain ⟨haccepted, hbuilt⟩ := accepted_of_append_ok h rows
          rw [haccepted, hbuilt, appendAll, h]
          exact ih grown
      | error fault =>
          obtain ⟨haccepted, hbuilt⟩ := accepted_of_append_error h rows
          rw [haccepted, hbuilt]
          exact ih b

/-- **A row is added as a whole or not at all.** For any schema, after any rows were offered to its
block, and for any row that is offered next:

* it is accepted exactly when it can be encoded;
* it is refused for its length, or else for the number of rows, or else for the leftmost of its
  cells that cannot be stored;
* if it is refused, the block is what it was;
* the block is the one of the accepted rows alone. -/
theorem offer_atomic (schema : Schema) (offered : List Row) (row : Row) :
    let b := ((empty schema).offerAll offered).2
    ((b.offer row).1 = .ok () ↔ b.Encodable row) ∧
    (∀ fault, (b.offer row).1 = .error fault ↔ b.Refused row fault) ∧
    (∀ fault, (b.offer row).1 = .error fault → (b.offer row).2 = b) ∧
    ofRows schema ((empty schema).accepted offered) = .ok b := by
  intro b
  refine ⟨?_, ?_, ?_, appendAll_accepted (empty schema) offered⟩
  · rw [← exists_append_iff]
    cases h : b.append row with
    | ok grown => simp [offer_of_append_ok h]
    | error fault => simp [offer_of_append_error h]
  · intro fault
    rw [← append_eq_error_iff]
    cases h : b.append row with
    | ok grown => simp [offer_of_append_ok h]
    | error fault' => simp [offer_of_append_error h]
  · intro fault hfault
    cases h : b.append row with
    | ok grown =>
        rw [offer_of_append_ok h] at hfault
        cases hfault
    | error fault' => rw [offer_of_append_error h]

end Block
end ScatterGather
