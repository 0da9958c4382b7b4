import ScatterGather.Number.Parse
import ScatterGather.Text.Encoding

/-!
# Text that can be taken apart

Addresses and results are texts put together from parts, with marks between them and nothing that
tells a mark from a character of a part. Where such a text splits is known only from what a part
cannot contain: a numeral has no mark in it, but any text may.

**Results.** A mark that is in neither of the parts behind it is the last one of its kind, and one
that is in neither of the parts before it is the first. A number that is written out is read back.
Two byte strings with the same digits are equal.
-/

namespace ScatterGather

/-! ## Parts and marks -/

section Parts

variable {α : Type} {mark : α} {front front' back back' : List α}

/-- What follows the last of a mark is known. -/
theorem append_cons_inj
    (hback : mark ∉ back)
    (hback' : mark ∉ back')
    (h : front ++ mark :: back = front' ++ mark :: back') :
    front = front' ∧ back = back' := by
  rcases List.append_eq_append_iff.1 h with ⟨middle, rfl, hmiddle⟩ | ⟨middle, rfl, hmiddle⟩
  · cases middle with
    | nil =>
        simpa using hmiddle
    | cons first rest =>
        obtain ⟨-, rfl⟩ := List.cons.inj hmiddle
        simp at hback
  · cases middle with
    | nil =>
        simpa [eq_comm] using hmiddle
    | cons first rest =>
        obtain ⟨-, rfl⟩ := List.cons.inj hmiddle
        simp at hback'

/-- What goes before the first of a mark is known. -/
theorem append_cons_inj_of_front
    (hfront : mark ∉ front)
    (hfront' : mark ∉ front')
    (h : front ++ mark :: back = front' ++ mark :: back') :
    front = front' ∧ back = back' := by
  have hreversed : back.reverse ++ mark :: front.reverse =
      back'.reverse ++ mark :: front'.reverse := by
    simpa using congrArg List.reverse h
  have hparts := append_cons_inj (by simpa using hfront) (by simpa using hfront') hreversed
  exact ⟨List.reverse_inj.1 hparts.2, List.reverse_inj.1 hparts.1⟩

end Parts

/-! ## Numbers as text -/

namespace Numeral

theorem toList_toString (n : Nat) : (toString n).toList = Nat.toDigits 10 n := by
  simp [toString, Nat.repr]

/-- A number that is written out has digits only. -/
theorem not_mem_toDigits
    {mark : Char}
    (hmark : mark.isDigit = false)
    (n : Nat) :
    mark ∉ Nat.toDigits 10 n := by
  intro hmem
  have hdigit := Nat.isDigit_of_mem_toDigits (by decide) (by decide) hmem
  rw [hmark] at hdigit
  cases hdigit

theorem toDigits_inj
    {m n : Nat}
    (h : Nat.toDigits 10 m = Nat.toDigits 10 n) :
    m = n := by
  simpa using congrArg (Nat.ofDigitChars 10 · 0) h

theorem toList_toString_int (i : Int) :
    (toString i).toList =
      if i < 0 then '-' :: Nat.toDigits 10 i.natAbs else Nat.toDigits 10 i.natAbs := by
  cases i with
  | ofNat n =>
      simp [toString, Int.repr, Nat.repr]
  | negSucc n =>
      simp [toString, Int.repr, Nat.repr]

/-- A number that is written out has digits only, and a minus sign if it is negative. -/
theorem not_mem_toString
    {mark : Char}
    (hmark : mark.isDigit = false)
    (hsign : mark ≠ '-')
    (i : Int) :
    mark ∉ (toString i).toList := by
  rw [toList_toString_int]
  split
  · simpa [hsign] using not_mem_toDigits hmark i.natAbs
  · exact not_mem_toDigits hmark i.natAbs

theorem decimal?_toDigits (n : Nat) : decimal? (Nat.toDigits 10 n) = some n := by
  have hdigits : (Nat.toDigits 10 n).all Char.isDigit = true :=
    List.all_eq_true.2 fun c hc => Nat.isDigit_of_mem_toDigits (by decide) (by decide) hc
  simp [decimal?, hdigits]

/-- A number that is written out does not start with a sign. -/
theorem toDigits_ne_cons
    (n : Nat) {sign : Char} (rest : List Char)
    (hsign : sign.isDigit = false) :
    Nat.toDigits 10 n ≠ sign :: rest :=
  fun h => not_mem_toDigits hsign n (by simp [h])

/-- A number that is written out is read back. -/
theorem bounded?_toString
    {limit n : Nat}
    (h : n < limit) :
    bounded? limit (toString n).toList = some n := by
  rw [toList_toString]
  unfold bounded?
  split
  · next rest heq => exact absurd heq (toDigits_ne_cons n rest (by decide))
  · simp [decimal?_toDigits, h]

theorem signed?_toString
    {limit : Nat} {i : Int}
    (hlow : -(limit : Int) ≤ i)
    (hhigh : i < limit) :
    signed? limit (toString i).toList = some i := by
  cases i with
  | ofNat n =>
      have hlt : n < limit := by simpa using hhigh
      have htext : toString (Int.ofNat n) = toString n := rfl
      rw [htext]
      unfold signed?
      split
      · next rest heq =>
          rw [toList_toString] at heq
          exact absurd heq (toDigits_ne_cons n rest (by decide))
      · rw [bounded?_toString hlt]
        rfl
  | negSucc n =>
      have hle : n + 1 ≤ limit := by omega
      have htext : (toString (Int.negSucc n)).toList = '-' :: Nat.toDigits 10 (n + 1) := by
        simp [toString, Int.repr, Nat.repr]
      rw [htext]
      simp [signed?, decimal?_toDigits, hle, Int.negSucc_eq]

/-- Different numbers are written out differently. -/
theorem toString_int_inj
    {i j : Int}
    (h : (toString i).toList = (toString j).toList) :
    i = j := by
  let limit := i.natAbs + j.natAbs + 1
  have hi : signed? limit (toString i).toList = some i := signed?_toString (by omega) (by omega)
  have hj : signed? limit (toString j).toList = some j := signed?_toString (by omega) (by omega)
  rw [h, hj] at hi
  exact (Option.some.inj hi).symm

end Numeral

/-! ## Bytes as text -/

namespace Hex

/-- The digits below sixteen differ. -/
theorem digit_inj
    {m n : Nat}
    (hm : m < 16)
    (hn : n < 16)
    (h : digit m = digit n) :
    m = n := by
  have hcodes : ∀ m < 16, (digit m).toNat = if m < 10 then 48 + m else 87 + m := by decide
  have hcode := congrArg Char.toNat h
  rw [hcodes m hm, hcodes n hn] at hcode
  split at hcode <;> split at hcode <;> omega

theorem byteDigits_inj
    {b b' : UInt8}
    (h : byteDigits b = byteDigits b') :
    b = b' := by
  have hb := b.toNat_lt
  have hb' := b'.toNat_lt
  simp only [byteDigits, List.cons.injEq, and_true] at h
  have hhigh : b.toNat / 16 = b'.toNat / 16 := digit_inj (by omega) (by omega) h.1
  have hlow : b.toNat % 16 = b'.toNat % 16 := digit_inj (by omega) (by omega) h.2
  exact UInt8.toNat_inj.1 (by omega)

/-- Different byte strings have different digits. -/
theorem encode_inj
    {bs bs' : List UInt8}
    (h : encode bs = encode bs') :
    bs = bs' := by
  have hdigits : bs.flatMap byteDigits = bs'.flatMap byteDigits := String.ofList_injective h
  clear h
  induction bs generalizing bs' with
  | nil =>
      cases bs' with
      | nil => rfl
      | cons b' bs' => simp [byteDigits] at hdigits
  | cons b bs ih =>
      cases bs' with
      | nil => simp [byteDigits] at hdigits
      | cons b' bs' =>
          rw [List.flatMap_cons, List.flatMap_cons] at hdigits
          obtain ⟨hfirst, hrest⟩ := List.append_inj hdigits rfl
          rw [byteDigits_inj hfirst, ih hrest]

end Hex
end ScatterGather
