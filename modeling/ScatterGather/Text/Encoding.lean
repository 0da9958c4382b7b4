/-!
# Bytes and text

**UTF-8.** Text as bytes and back. Bytes that are no text have a first fault, which names the longest
valid start and, unless the bytes merely stop too soon, the length of the sequence that is refused.

**Lowercase hexadecimal.** Every byte is written as two lowercase digits, high half first.
-/

namespace ScatterGather
namespace Utf8

/-- The bytes of a text. -/
def encode (s : String) : List UInt8 :=
  s.toUTF8.data.toList

/-- The text whose bytes are given, if they are text. -/
def decode? (bytes : List UInt8) : Option String :=
  String.fromUTF8? ⟨bytes.toArray⟩

/-- Where bytes stop being text: `refused` is the length of the bad sequence, and `none` when the
bytes end within a character. -/
structure Fault where
  validLength : Nat
  refused : Option Nat
deriving DecidableEq, Repr

/-- How a fault is described to a reader. -/
def Fault.message (fault : Fault) : String :=
  match fault.refused with
  | some n => s!"invalid utf-8 sequence of {n} bytes from index {fault.validLength}"
  | none => s!"incomplete utf-8 byte sequence from index {fault.validLength}"

/-- What stands at the front of a byte list. -/
inductive Head where
  /-- A whole character of this many bytes. -/
  | character (length : Nat)
  /-- A sequence of this many bytes that no character starts with. -/
  | refused (length : Nat)
  /-- The list ends within a character. -/
  | unfinished
deriving DecidableEq, Repr

/-- A byte that continues a character. -/
def isContinuation (b : UInt8) : Bool :=
  0x80 ≤ b && b ≤ 0xBF

/-- The continuation bytes after `seen` bytes of a character, of which `owed` are still missing. -/
def continuation (seen : Nat) : (owed : Nat) → List UInt8 → Head
  | 0, _ => .character seen
  | _ + 1, [] => .unfinished
  | owed + 1, b :: bs =>
    if isContinuation b then continuation (seen + 1) owed bs else .refused seen

/-- The second byte must lie in a range of its own; `owed` more bytes follow it. -/
def second (low high : UInt8) (owed : Nat) : List UInt8 → Head
  | [] => .unfinished
  | b :: bs => if low ≤ b && b ≤ high then continuation 2 owed bs else .refused 1

/-- The front of a byte list that starts with the byte `b`. -/
def head (b : UInt8) (bs : List UInt8) : Head :=
  if b ≤ 0x7F then .character 1
  else if 0xC2 ≤ b && b ≤ 0xDF then second 0x80 0xBF 0 bs
  else if b = 0xE0 then second 0xA0 0xBF 1 bs
  else if b = 0xED then second 0x80 0x9F 1 bs
  else if 0xE1 ≤ b && b ≤ 0xEF then second 0x80 0xBF 1 bs
  else if b = 0xF0 then second 0x90 0xBF 2 bs
  else if 0xF1 ≤ b && b ≤ 0xF3 then second 0x80 0xBF 2 bs
  else if b = 0xF4 then second 0x80 0x8F 2 bs
  else .refused 1

/-- The first fault after `start` valid bytes; `skip` bytes belong to the character just seen. -/
def faultFrom (start : Nat) : (skip : Nat) → List UInt8 → Option Fault
  | _, [] => none
  | skip + 1, _ :: bs => faultFrom (start + 1) skip bs
  | 0, b :: bs =>
    match head b bs with
    | .character n => faultFrom (start + 1) (n - 1) bs
    | .refused n => some ⟨start, some n⟩
    | .unfinished => some ⟨start, none⟩

/-- The first fault of a byte list, and `none` when it is text. -/
def fault? (bytes : List UInt8) : Option Fault :=
  faultFrom 0 0 bytes

@[simp] theorem decode?_encode (s : String) : decode? (encode s) = some s := by
  have bytes : (⟨(encode s).toArray⟩ : ByteArray) = s.toUTF8 := by
    simp [encode]
  unfold decode?
  rw [bytes]
  simp only [String.fromUTF8?, String.toUTF8_eq_toByteArray, dif_pos s.isValidUTF8]
  rfl

end Utf8

namespace Hex

/-- The digit of a number below sixteen. -/
def digit (n : Nat) : Char :=
  if n < 10 then Char.ofNat (48 + n) else Char.ofNat (87 + n)

/-- The two digits of a byte. -/
def byteDigits (b : UInt8) : List Char :=
  [digit (b.toNat / 16), digit (b.toNat % 16)]

/-- The text of a byte list. -/
def encode (bytes : List UInt8) : String :=
  String.ofList (bytes.flatMap byteDigits)

end Hex
end ScatterGather
