import Mathlib.Algebra.Ring.Nat
import ScatterGather.Wire.Codec

/-!
# Codecs that undo their own writing

**Law.** A codec reads a value back when, from what it wrote for the value followed by any bytes, it
gives the value and leaves those bytes, and when every proper start of what it wrote is refused
because the input has ended. Lengths are written in eight bytes, so the law is asked of values whose
bytes are fewer than `2 ^ 64`.

**Results.** The codecs of numbers, texts, lists, pairs and alternatives obey the law if those of
their parts do.
-/

namespace ScatterGather
namespace Wire

/-- `front` is what remains of `whole` when some of its last bytes are cut off. -/
def Truncates (front whole : List UInt8) : Prop :=
  ∃ rest, rest ≠ [] ∧ front ++ rest = whole

theorem truncates_of_prefix
    {front whole : List UInt8}
    (hfront : front <+: whole)
    (hne : front ≠ whole) :
    Truncates front whole := by
  obtain ⟨rest, hrest⟩ := hfront
  refine ⟨rest, ?_, hrest⟩
  rintro rfl
  exact hne (by simpa using hrest)

theorem Truncates.length_lt
    {front whole : List UInt8}
    (h : Truncates front whole) :
    front.length < whole.length := by
  obtain ⟨rest, hne, rfl⟩ := h
  have hpos := List.length_pos_iff.2 hne
  simp only [List.length_append]
  omega

/-- A cut through two pieces goes through the first one, or leaves it whole. -/
theorem Truncates.append_cases
    {front first second : List UInt8}
    (h : Truncates front (first ++ second)) :
    Truncates front first ∨
      ∃ tail, Truncates tail second ∧ front = first ++ tail := by
  obtain ⟨rest, hne, heq⟩ := h
  rcases List.append_eq_append_iff.1 heq with
    ⟨middle, hfirst, hrest⟩ | ⟨middle, hfront, hsecond⟩
  · by_cases hmiddle : middle = []
    · subst hmiddle
      refine Or.inr ⟨[], ⟨rest, hne, ?_⟩, ?_⟩
      · simpa using hrest
      · simpa using hfirst.symm
    · exact Or.inl ⟨middle, hmiddle, hfirst.symm⟩
  · exact Or.inr ⟨middle, ⟨rest, hne, hsecond.symm⟩, hfront⟩

/-- A codec reads back what it wrote for a value. -/
structure Codec.Restores {α : Type} (c : Codec α) (a : α) : Prop where
  write_ne_nil : c.write a ≠ []
  read_write : ∀ rest, c.read (c.write a ++ rest) = .ok (a, rest)
  read_truncated : ∀ front, Truncates front (c.write a) → c.read front = .error .endOfInput

/-- A codec reads back every value whose bytes can be counted in eight bytes. -/
def Codec.Lawful {α : Type} (c : Codec α) : Prop :=
  ∀ a, (c.write a).length < 2 ^ 64 → c.Restores a

namespace Codec

variable {α β γ : Type}

namespace Restores

variable {c : Codec α} {a : α}

/-- Reading on after a value that is there. -/
theorem bind_write
    (h : c.Restores a)
    (rest : List UInt8)
    (next : α × List UInt8 → Except Fault γ) :
    (c.read (c.write a ++ rest) >>= next) = next (a, rest) := by
  rw [h.read_write]
  rfl

/-- Input that is cut within a value, or after it, either has ended or is read on. -/
theorem bind_truncated
    (h : c.Restores a)
    {front tail : List UInt8}
    (hcut : Truncates front (c.write a ++ tail))
    (next : α × List UInt8 → Except Fault γ) :
    (c.read front >>= next) = .error .endOfInput ∨
      ∃ left, Truncates left tail ∧ (c.read front >>= next) = next (a, left) := by
  rcases hcut.append_cases with hcut | ⟨left, hleft, rfl⟩
  · left
    rw [h.read_truncated front hcut]
    rfl
  · right
    exact ⟨left, hleft, h.bind_write left next⟩

end Restores

theorem take_append
    (front rest : List UInt8) :
    take front.length (front ++ rest) = .ok (front, rest) := by
  simp [take]

theorem take_of_length_lt
    {count : Nat} {bytes : List UInt8}
    (h : bytes.length < count) :
    take count bytes = .error .endOfInput := by
  simp [take, Nat.not_le.2 h]

/-- A number is read back if it fits into the bytes that are written for it. -/
theorem restores_word
    {width n : Nat}
    (hwidth : 0 < width)
    (hn : n < 256 ^ width) :
    (word width).Restores n where
  write_ne_nil := by
    apply List.length_pos_iff.1
    simpa [word] using hwidth
  read_write rest := by
    have htake := take_append (Word.toBytes width n) rest
    rw [Word.length_toBytes] at htake
    have hvalue : Word.ofBytes (Word.toBytes width n) = n := by
      rw [Word.ofBytes_toBytes]
      exact Nat.mod_eq_of_lt hn
    simp only [word, htake]
    exact congrArg (fun m => Except.ok (m, rest)) hvalue
  read_truncated front hcut := by
    have hlt := hcut.length_lt
    simp only [word, Word.length_toBytes] at hlt
    simp only [word, take_of_length_lt hlt]
    rfl

theorem Restores.imap
    {c : Codec α}
    {toRaw : β → α} {ofRaw : α → β} {b : β}
    (h : c.Restores (toRaw b))
    (hinv : ofRaw (toRaw b) = b) :
    (c.imap toRaw ofRaw).Restores b where
  write_ne_nil := h.write_ne_nil
  read_write rest := by
    have hread : (c.imap toRaw ofRaw).read (c.write (toRaw b) ++ rest) =
        .ok (ofRaw (toRaw b), rest) :=
      h.bind_write rest _
    rw [hinv] at hread
    exact hread
  read_truncated front hcut := by
    show (c.read front >>= _) = _
    rw [h.read_truncated front hcut]
    rfl

theorem Restores.pair
    {first : Codec α} {second : Codec β} {a : α} {b : β}
    (hfirst : first.Restores a)
    (hsecond : second.Restores b) :
    (first.pair second).Restores (a, b) where
  write_ne_nil := by
    simp [Codec.pair, hfirst.write_ne_nil]
  read_write rest := by
    show (first.read ((first.write a ++ second.write b) ++ rest) >>= _) = _
    rw [List.append_assoc, hfirst.bind_write]
    exact hsecond.bind_write rest _
  read_truncated front hcut := by
    show (first.read front >>= _) = _
    rcases hfirst.bind_truncated hcut _ with hend | ⟨left, hleft, hnext⟩
    · exact hend
    · rw [hnext]
      show (second.read left >>= _) = _
      rw [hsecond.read_truncated left hleft]
      rfl

/-- The values of a list are read back one after the other. -/
theorem readMany_write
    {c : Codec α} {as : List α}
    (h : ∀ a ∈ as, c.Restores a)
    (rest : List UInt8) :
    readMany c as.length (as.flatMap c.write ++ rest) = .ok (as, rest) := by
  induction as with
  | nil =>
      rfl
  | cons a as ih =>
      obtain ⟨ha, has⟩ := List.forall_mem_cons.1 h
      rw [List.flatMap_cons, List.append_assoc, List.length_cons, readMany]
      rw [ha.bind_write]
      show (readMany c as.length (as.flatMap c.write ++ rest) >>= _) = _
      rw [ih has]
      rfl

theorem readMany_truncated
    {c : Codec α} {as : List α}
    (h : ∀ a ∈ as, c.Restores a)
    {front : List UInt8}
    (hcut : Truncates front (as.flatMap c.write)) :
    readMany c as.length front = .error .endOfInput := by
  induction as generalizing front with
  | nil =>
      obtain ⟨rest, hne, heq⟩ := hcut
      simp [hne] at heq
  | cons a as ih =>
      obtain ⟨ha, has⟩ := List.forall_mem_cons.1 h
      rw [List.flatMap_cons] at hcut
      rw [List.length_cons, readMany]
      rcases ha.bind_truncated hcut _ with hend | ⟨left, hleft, hnext⟩
      · exact hend
      · rw [hnext]
        show (readMany c as.length left >>= _) = _
        rw [ih has hleft]
        rfl

theorem Restores.list
    {c : Codec α} {as : List α}
    (hlength : as.length < 2 ^ 64)
    (h : ∀ a ∈ as, c.Restores a) :
    c.list.Restores as := by
  have hcount : (word 8).Restores as.length :=
    restores_word (by omega) (by omega)
  refine ⟨?_, ?_, ?_⟩
  · simp [Codec.list, hcount.write_ne_nil]
  · intro rest
    show ((word 8).read (((word 8).write as.length ++ as.flatMap c.write) ++ rest) >>= _) = _
    rw [List.append_assoc, hcount.bind_write]
    exact readMany_write h rest
  · intro front hcut
    show ((word 8).read front >>= _) = _
    rcases hcount.bind_truncated hcut _ with hend | ⟨left, hleft, hnext⟩
    · exact hend
    · rw [hnext]
      exact readMany_truncated h hleft

theorem restores_text
    {s : String}
    (hlength : (Utf8.encode s).length < 2 ^ 64) :
    text.Restores s := by
  have hcount : (word 8).Restores (Utf8.encode s).length :=
    restores_word (by omega) (by omega)
  refine ⟨?_, ?_, ?_⟩
  · simp [text, hcount.write_ne_nil]
  · intro rest
    show ((word 8).read (((word 8).write (Utf8.encode s).length ++ Utf8.encode s) ++ rest)
      >>= _) = _
    rw [List.append_assoc, hcount.bind_write]
    simp only [take_append]
    dsimp only [bind, Except.bind]
    rw [Utf8.decode?_encode]
    rfl
  · intro front hcut
    show ((word 8).read front >>= _) = _
    rcases hcount.bind_truncated hcut _ with hend | ⟨left, hleft, hnext⟩
    · exact hend
    · rw [hnext]
      simp only [take_of_length_lt hleft.length_lt]
      rfl

/-- An alternative is read back if it is listed; its place is written in four bytes. -/
theorem restores_oneOf
    [DecidableEq α]
    {values : List α} {a : α}
    (hmem : a ∈ values)
    (hlength : values.length ≤ 2 ^ 32) :
    (oneOf values).Restores a := by
  have hplace : values.idxOf a < values.length := List.idxOf_lt_length_of_mem hmem
  have htag : (word 4).Restores (values.idxOf a) :=
    restores_word (by omega) (by omega)
  have hvalue : values[values.idxOf a]? = some a := by
    simp [List.getElem?_eq_getElem hplace]
  refine ⟨htag.write_ne_nil, ?_, ?_⟩
  · intro rest
    show ((word 4).read ((word 4).write (values.idxOf a) ++ rest) >>= _) = _
    rw [htag.bind_write]
    simp only [hvalue]
    rfl
  · intro front hcut
    show ((word 4).read front >>= _) = _
    rw [htag.read_truncated front hcut]
    rfl

/-! ## The law for codecs -/

theorem Lawful.imap
    {c : Codec α}
    (h : c.Lawful)
    {toRaw : β → α} {ofRaw : α → β}
    (hinv : ∀ b, ofRaw (toRaw b) = b) :
    (c.imap toRaw ofRaw).Lawful :=
  fun b hb => (h (toRaw b) hb).imap (hinv b)

theorem Lawful.pair
    {first : Codec α} {second : Codec β}
    (hfirst : first.Lawful)
    (hsecond : second.Lawful) :
    (first.pair second).Lawful := by
  rintro ⟨a, b⟩ hlength
  simp only [Codec.pair, List.length_append] at hlength
  exact (hfirst a (by omega)).pair (hsecond b (by omega))

/-- Every value takes at least one byte, so a list is no longer than its bytes. -/
theorem length_le_flatMap_write
    {c : Codec α}
    (hne : ∀ a, c.write a ≠ []) :
    ∀ as : List α, as.length ≤ (as.flatMap c.write).length
  | [] => by simp
  | a :: as => by
      have hpos := List.length_pos_iff.2 (hne a)
      have ih := length_le_flatMap_write hne as
      simp only [List.flatMap_cons, List.length_cons, List.length_append]
      omega

theorem length_write_le_flatMap
    {c : Codec α} {a : α} {as : List α}
    (h : a ∈ as) :
    (c.write a).length ≤ (as.flatMap c.write).length := by
  obtain ⟨before, after, rfl⟩ := List.append_of_mem h
  simp only [List.flatMap_append, List.flatMap_cons, List.length_append]
  omega

theorem Lawful.list
    {c : Codec α}
    (h : c.Lawful)
    (hne : ∀ a, c.write a ≠ []) :
    c.list.Lawful := by
  intro as hlength
  simp only [Codec.list, List.length_append] at hlength
  have hcount := length_le_flatMap_write hne as
  refine Restores.list (by omega) fun a ha => h a ?_
  have hle : (c.write a).length ≤ (as.flatMap c.write).length := length_write_le_flatMap ha
  omega

theorem lawful_text : text.Lawful := by
  intro s hlength
  simp only [text, List.length_append] at hlength
  exact restores_text (by omega)

/-- Numbers that stand for words of a fixed width. -/
theorem lawful_word
    {width : Nat}
    (hwidth : 0 < width)
    {toRaw : β → Nat} {ofRaw : Nat → β}
    (hlt : ∀ b, toRaw b < 256 ^ width)
    (hinv : ∀ b, ofRaw (toRaw b) = b) :
    ((word width).imap toRaw ofRaw).Lawful :=
  fun b _ => (restores_word hwidth (hlt b)).imap (hinv b)

theorem lawful_oneOf
    [DecidableEq α]
    {values : List α}
    (hmem : ∀ a, a ∈ values)
    (hlength : values.length ≤ 2 ^ 32) :
    (oneOf values).Lawful :=
  fun a _ => restores_oneOf (hmem a) hlength

theorem lawful_int32 : int32.Lawful :=
  lawful_word (by omega) (fun n => n.toUInt32.toNat_lt) (fun n => by simp)

theorem lawful_uint16 : uint16.Lawful :=
  lawful_word (by omega) (fun n => n.toNat_lt) (fun n => by simp)

theorem lawful_uint64 : uint64.Lawful :=
  lawful_word (by omega) (fun n => n.toNat_lt) (fun n => by simp)

end Codec
end Wire
end ScatterGather
