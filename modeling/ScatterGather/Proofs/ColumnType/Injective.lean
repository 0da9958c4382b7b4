import ScatterGather.Block.Read
import ScatterGather.Proofs.Calendar.Timestamp
import ScatterGather.Proofs.Fallible

/-!
# Nothing is lost in external form

Each type stores its values in one way: truth values as numbers, points in time as milliseconds,
the others as they are. Put into external form, different stored values of a type stay different.
For numbers and texts there is nothing to show, of the numbers only zero and one are truth values,
and for byte strings and points in time it is the texts that are told apart.

**Results.** `Block.stores_of_extractRow`: what is read from a row of a block is a stored value of
its column's type. `ColumnType.externalize_separates`: stored values with the same external form
are the same. `Block.extractRow_eq_of_externalRow`: so are rows.
-/

namespace ScatterGather

/-- The values that are read from the cells of a type. What number stands for a truth value is
looked at when it is put into external form, not when it is read. -/
inductive ColumnType.Stores : ColumnType → Value → Prop
  | int (n : Int32) : Stores .int (.int n)
  | long (n : Int64) : Stores .long (.long n)
  | float (bits : UInt32) : Stores .float (.float bits)
  | double (bits : UInt64) : Stores .double (.double bits)
  | boolean (n : Int32) : Stores .boolean (.int n)
  | timestamp (milliseconds : Int64) : Stores .timestamp (.long milliseconds)
  | string (s : String) : Stores .string (.string s)
  | bytes (content : List UInt8) : Stores .bytes (.bytes content)

namespace Block

variable {b : Block}

theorem stores_of_cellAt
    {type : ColumnType} {row column position : Nat} {value : Value}
    (h : b.cellAt type row column position = .ok value) :
    type.Stores value := by
  cases type with
  | string =>
      obtain ⟨content, -, h⟩ := Fallible.bind_eq_ok_iff.1 h
      obtain ⟨s, -, h⟩ := Fallible.bind_eq_ok_iff.1 h
      cases h
      exact .string s
  | _ =>
      obtain ⟨read, -, h⟩ := Fallible.bind_eq_ok_iff.1 h
      cases h
      constructor

theorem stores_of_value
    {number column : Nat} {value : Value}
    (h : b.value number column = .ok value) :
    ∃ type, b.schema.type? column = some type ∧ type.Stores value := by
  unfold Block.value at h
  split at h
  · cases h
  · split at h
    · cases h
    · next type htype =>
        exact ⟨type, htype, stores_of_cellAt (Fallible.mapError_eq_ok_iff.1 h)⟩

/-- Whatever a block holds, each value that is read from a row is one of its column's type. -/
theorem stores_of_extractRow
    {number column : Nat} {values : Row} {value : Value}
    (hread : b.extractRow number = .ok values)
    (hvalue : values[column]? = some value) :
    ∃ type, b.schema.type? column = some type ∧ type.Stores value := by
  have hplace := Fallible.getElem?_of_mapM hread column
  rw [hvalue, Option.map_some, Option.map_eq_some_iff] at hplace
  obtain ⟨place, hplace, hcell⟩ := hplace
  obtain ⟨hin, rfl⟩ := List.getElem?_eq_some_iff.1 hplace
  rw [List.getElem_range] at hcell
  exact stores_of_value hcell

end Block

namespace ColumnType

variable {shown : Value}

/-- The only numbers that are truth values are zero and one. -/
theorem externalize_boolean
    {n : Int32}
    (h : boolean.externalize (.int n) = .ok shown) :
    (n = 0 ∧ shown = .boolean false) ∨ (n = 1 ∧ shown = .boolean true) := by
  simp only [externalize] at h
  split at h
  · next hn => exact .inl ⟨hn, (Except.ok.inj h).symm⟩
  · split at h
    · next hn => exact .inr ⟨hn, (Except.ok.inj h).symm⟩
    · cases h

/-- A point in time is shown as its text. -/
theorem externalize_timestamp
    {milliseconds : Int64}
    (h : timestamp.externalize (.long milliseconds) = .ok shown) :
    ∃ text, Calendar.timestampText? milliseconds.toInt = some text ∧ shown = .string text := by
  simp only [externalize] at h
  split at h
  · next text htext => exact ⟨text, htext, (Except.ok.inj h).symm⟩
  · cases h

/-- Stored values of a type with the same external form are the same. -/
theorem externalize_inj
    {type : ColumnType} {u v : Value}
    (hu : type.Stores u)
    (hv : type.Stores v)
    (hushown : type.externalize u = .ok shown)
    (hvshown : type.externalize v = .ok shown) :
    u = v := by
  have hsame : type.externalize u = type.externalize v := hushown.trans hvshown.symm
  cases hu with
  | boolean n =>
      obtain ⟨n'⟩ := hv
      obtain ⟨rfl, rfl⟩ | ⟨rfl, rfl⟩ := externalize_boolean hushown <;>
        obtain ⟨rfl, h⟩ | ⟨rfl, h⟩ := externalize_boolean hvshown <;>
        first | rfl | simp at h
  | timestamp milliseconds =>
      obtain ⟨milliseconds'⟩ := hv
      obtain ⟨text, htext, rfl⟩ := externalize_timestamp hushown
      obtain ⟨text', htext', h⟩ := externalize_timestamp hvshown
      cases h
      rw [Int64.toInt_inj.1 (Calendar.timestampText?_inj htext htext')]
  | bytes content =>
      obtain ⟨content'⟩ := hv
      simp only [externalize, Except.ok.injEq, Value.string.injEq] at hsame
      rw [Hex.encode_inj hsame]
  | _ =>
      cases hv
      simpa [externalize] using hsame

/-- **The external form loses nothing.** What is read from a row of a block are stored values of
the types of its columns. For every type, two of its stored values that are shown the same are the
same; the digits of a byte string tell which bytes it has. Dates follow one another from 1970-01-01
on, and before it, by the rules of the calendar, and the text of a point in time tells its
milliseconds, whichever of those that have a text it is. -/
theorem externalize_separates :
    (∀ (b : Block) (number column : Nat) (values : Row) (value : Value),
      b.extractRow number = .ok values → values[column]? = some value →
      ∃ type, b.schema.type? column = some type ∧ type.Stores value) ∧
    (∀ (type : ColumnType) (u v shown : Value), type.Stores u → type.Stores v →
      type.externalize u = .ok shown → type.externalize v = .ok shown → u = v) ∧
    (∀ content content' : List UInt8, Hex.encode content = Hex.encode content' →
      content = content') ∧
    (Calendar.Date.ofDays 0 = ⟨1970, 1, 1⟩ ∧
      ∀ days, (Calendar.Date.ofDays days).Valid ∧
        Calendar.Date.ofDays (days + 1) = (Calendar.Date.ofDays days).next) ∧
    (∀ (milliseconds milliseconds' : Int) (text : String),
      Calendar.timestampText? milliseconds = some text →
      Calendar.timestampText? milliseconds' = some text → milliseconds = milliseconds') :=
  ⟨fun _ _ _ _ _ => Block.stores_of_extractRow,
    fun _ _ _ _ => externalize_inj,
    fun _ _ => Hex.encode_inj,
    ⟨Calendar.Date.ofDays_zero, fun days =>
      ⟨(Calendar.Date.valid_and_number_ofDays days).1, Calendar.Date.ofDays_succ days⟩⟩,
    fun _ _ _ => Calendar.timestampText?_inj⟩

/-- The last millisecond of 1969, read from a block whose bytes are all ones, and as a number. -/
theorem externalize_separates_beforeEpoch :
    let b : Block := { Block.empty ⟨["at"], [.timestamp]⟩ with
      rowCount := 1, fixed := List.replicate 8 255 }
    let read : Value := .long (UInt64.ofNat (Word.ofBytes b.fixed)).toInt64
    b.extractRow 0 = .ok [read] ∧
    (∃ type, b.schema.type? 0 = some type ∧ type.Stores read) ∧
    timestamp.externalize read = .ok (.string "1969-12-31 23:59:59.999") ∧
    read = .long (-1) := by
  intro b read
  have hread : b.extractRow 0 = .ok [read] := by decide +kernel
  have hshown : timestamp.externalize read = .ok (.string "1969-12-31 23:59:59.999") := by
    decide +kernel
  have hlong : timestamp.externalize (.long (-1)) = .ok (.string "1969-12-31 23:59:59.999") := by
    decide +kernel
  exact ⟨hread, externalize_separates.1 b 0 0 [read] read hread rfl, hshown,
    externalize_separates.2.1 .timestamp read (.long (-1)) _ (.timestamp _) (.timestamp _)
      hshown hlong⟩

end ColumnType

namespace Block

variable {b b' : Block} {number number' : Nat} {values shown : Row}

theorem length_of_extractRow (h : b.extractRow number = .ok values) :
    values.length = b.schema.length := by
  rw [← (Fallible.mapM_eq_ok_iff.1 h).length_eq, List.length_range]

/-- Each cell of a row in external form is made of the stored value of its column. -/
theorem exists_cell_of_externalRow
    {column : Nat} {value : Value}
    (h : b.externalRow number = .ok shown)
    (hread : b.extractRow number = .ok values)
    (hvalue : values[column]? = some value) :
    ∃ type cell, b.schema.type? column = some type ∧ type.Stores value ∧
      shown[column]? = some cell ∧ type.externalize value = .ok cell := by
  obtain ⟨type, htype, hstores⟩ := stores_of_extractRow hread hvalue
  obtain ⟨read, hread', hshown⟩ := Fallible.bind_eq_ok_iff.1 h
  rw [hread] at hread'
  cases hread'
  have hentry : (values.zip b.schema.types)[column]? = some (value, type) :=
    List.getElem?_zip_eq_some.2 ⟨hvalue, htype⟩
  have hplace := Fallible.getElem?_of_mapM hshown column
  rw [hentry, Option.map_some, eq_comm, Option.map_eq_some_iff] at hplace
  obtain ⟨cell, hcell, hmade⟩ := hplace
  exact ⟨type, cell, htype, hstores, hcell, hmade.symm⟩

/-- Rows that are shown the same were stored the same, in whatever blocks they are. -/
theorem extractRow_eq_of_externalRow
    (hschema : b.schema = b'.schema)
    (h : b.externalRow number = .ok shown)
    (h' : b'.externalRow number' = .ok shown) :
    b.extractRow number = b'.extractRow number' := by
  obtain ⟨values, hread, -⟩ := Fallible.bind_eq_ok_iff.1 h
  obtain ⟨values', hread', -⟩ := Fallible.bind_eq_ok_iff.1 h'
  have hlength : values.length = values'.length := by
    rw [length_of_extractRow hread, length_of_extractRow hread', hschema]
  have hvalues : values = values' := by
    refine List.ext_getElem hlength fun column hcolumn hcolumn' => ?_
    obtain ⟨type, cell, htype, hstores, hcell, hmade⟩ :=
      exists_cell_of_externalRow h hread (List.getElem?_eq_getElem hcolumn)
    obtain ⟨type', cell', htype', hstores', hcell', hmade'⟩ :=
      exists_cell_of_externalRow h' hread' (List.getElem?_eq_getElem hcolumn')
    rw [hschema, htype'] at htype
    rw [hcell'] at hcell
    cases htype
    cases hcell
    exact ColumnType.externalize_inj hstores hstores' hmade hmade'
  rw [hread, hread', hvalues]

end Block
end ScatterGather
