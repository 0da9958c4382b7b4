import ScatterGather.Text.Encoding
import ScatterGather.Word

/-!
# Codecs

A codec writes values as bytes and reads them back from the front of a byte list, giving the bytes
that follow. Codecs of composite values are put together from those of their parts.
-/

namespace ScatterGather
namespace Wire

/-- Why bytes cannot be read. -/
inductive Fault where
  | endOfInput
  | invalidText
  | unknownTag (tag : Nat)
deriving DecidableEq, Repr

/-- A way to write values as bytes and to read them back. -/
structure Codec (α : Type) where
  write : α → List UInt8
  read : List UInt8 → Except Fault (α × List UInt8)

namespace Codec

variable {α β : Type}

/-- The first `count` bytes of the input. -/
def take (count : Nat) (bytes : List UInt8) : Except Fault (List UInt8 × List UInt8) :=
  if count ≤ bytes.length then .ok (bytes.take count, bytes.drop count) else .error .endOfInput

/-- A number of `width` bytes. -/
def word (width : Nat) : Codec Nat where
  write := Word.toBytes width
  read bytes := do
    let (front, rest) ← take width bytes
    return (Word.ofBytes front, rest)

/-- Values that stand for values of another codec. -/
def imap (c : Codec α) (toRaw : β → α) (ofRaw : α → β) : Codec β where
  write b := c.write (toRaw b)
  read bytes := do
    let (a, rest) ← c.read bytes
    return (ofRaw a, rest)

/-- Two values, one after the other. -/
def pair (first : Codec α) (second : Codec β) : Codec (α × β) where
  write p := first.write p.1 ++ second.write p.2
  read bytes := do
    let (a, rest) ← first.read bytes
    let (b, rest) ← second.read rest
    return ((a, b), rest)

/-- Signed numbers of 32 bits. -/
def int32 : Codec Int32 :=
  (word 4).imap (fun n => n.toUInt32.toNat) (fun n => (UInt32.ofNat n).toInt32)

/-- Unsigned numbers of 16 bits. -/
def uint16 : Codec UInt16 :=
  (word 2).imap UInt16.toNat UInt16.ofNat

/-- Unsigned numbers of 64 bits. -/
def uint64 : Codec UInt64 :=
  (word 8).imap UInt64.toNat UInt64.ofNat

/-- Text: the number of its bytes, then the bytes. -/
def text : Codec String where
  write s := (word 8).write (Utf8.encode s).length ++ Utf8.encode s
  read bytes := do
    let (count, rest) ← (word 8).read bytes
    let (front, rest) ← take count rest
    match Utf8.decode? front with
    | some s => return (s, rest)
    | none => throw .invalidText

/-- Exactly `count` values, one after the other. -/
def readMany (c : Codec α) : (count : Nat) → List UInt8 → Except Fault (List α × List UInt8)
  | 0, bytes => .ok ([], bytes)
  | count + 1, bytes => do
    let (a, rest) ← c.read bytes
    let (as, rest) ← readMany c count rest
    return (a :: as, rest)

/-- A list: the number of its values, then the values. -/
def list (c : Codec α) : Codec (List α) where
  write as := (word 8).write as.length ++ as.flatMap c.write
  read bytes := do
    let (count, rest) ← (word 8).read bytes
    readMany c count rest

/-- One of the listed values, written as its place in the list. -/
def oneOf [DecidableEq α] (values : List α) : Codec α where
  write a := (word 4).write (values.idxOf a)
  read bytes := do
    let (tag, rest) ← (word 4).read bytes
    match values[tag]? with
    | some a => return (a, rest)
    | none => throw (.unknownTag tag)

end Codec
end Wire
end ScatterGather
