import ScatterGather.Plan.Basic
import ScatterGather.Wire.Codec

/-!
# Bound plans as bytes

A bound plan is sent to its worker as bytes: numbers little-endian and of fixed width, lengths in
eight bytes, alternatives as a tag of four bytes, and maps as lists of entries in ascending order.
What follows the plan in the input is not looked at.
-/

namespace ScatterGather
namespace Wire

/-- Column types, by tag. -/
def columnType : Codec ColumnType :=
  Codec.oneOf [.int, .long, .float, .double, .boolean, .timestamp, .string, .bytes]

/-- Routings, by tag. -/
def routing : Codec Routing :=
  Codec.oneOf [.singleton, .randomDistributed, .hashDistributed, .broadcast]

/-- A schema: its names, then its types. -/
def schema : Codec Schema :=
  (Codec.text.list.pair columnType.list).imap (fun s => (s.names, s.types)) (fun p => ⟨p.1, p.2⟩)

/-- A server: its host, then its two numbers. -/
def server : Codec Server :=
  (Codec.text.pair (Codec.uint16.pair Codec.uint16)).imap
    (fun s => (s.host, s.servicePort, s.mailboxPort)) (fun p => ⟨p.1, p.2.1, p.2.2⟩)

/-- The workers of a stage, then the routing into it. -/
def placement : Codec Placement :=
  (server.list.pair routing).imap (fun p => (p.servers, p.routing)) (fun p => ⟨p.1, p.2⟩)

/-- A map from stages, entry by entry. When read, the last entry of a stage counts. -/
def placements : Codec (NumberMap Placement) :=
  (Codec.int32.pair placement).list.imap NumberMap.entries NumberMap.ofList

/-- The fields that a receiving and a sending node have in common. -/
def link : Codec (Int32 × Schema × Routing) :=
  Codec.int32.pair (schema.pair routing)

/-- The fields of a scan. -/
def scan : Codec (String × List String × Schema) :=
  Codec.text.pair (Codec.text.list.pair schema)

/-- The fields of a projection that precede its input. -/
def projection : Codec (List UInt64 × Schema) :=
  Codec.uint64.list.pair schema

/-- The tag of a node's kind. -/
def nodeTag : StageNode → Nat
  | .receive .. => 0
  | .send .. => 1
  | .scan .. => 2
  | .project .. => 3

/-- The bytes of a node: its tag, its fields, then its input. -/
def writeNode : StageNode → List UInt8
  | .receive sender schema routing => (Codec.word 4).write 0 ++ link.write (sender, schema, routing)
  | .send receiver schema routing input =>
    (Codec.word 4).write 1 ++ link.write (receiver, schema, routing) ++ writeNode input
  | .scan table columns schema => (Codec.word 4).write 2 ++ scan.write (table, columns, schema)
  | .project columns schema input =>
    (Codec.word 4).write 3 ++ projection.write (columns, schema) ++ writeNode input

/-- Reads a node of at most `depth` levels. Every level takes bytes, so an input has run out where
more levels would be needed than it has bytes. -/
def readNode : (depth : Nat) → List UInt8 → Except Fault (StageNode × List UInt8)
  | 0, _ => .error .endOfInput
  | depth + 1, bytes => do
    let (tag, rest) ← (Codec.word 4).read bytes
    match tag with
    | 0 =>
      let ((sender, schema, routing), rest) ← link.read rest
      return (.receive sender schema routing, rest)
    | 1 =>
      let ((receiver, schema, routing), rest) ← link.read rest
      let (input, rest) ← readNode depth rest
      return (.send receiver schema routing input, rest)
    | 2 =>
      let ((table, columns, schema), rest) ← scan.read rest
      return (.scan table columns schema, rest)
    | 3 =>
      let ((columns, schema), rest) ← projection.read rest
      let (input, rest) ← readNode depth rest
      return (.project columns schema input, rest)
    | tag => throw (.unknownTag tag)

/-- A node with all that lies below it. -/
def stageNode : Codec StageNode where
  write := writeNode
  read bytes := readNode bytes.length bytes

/-- A bound plan: its stage, its worker, the root of its stage, and the placements of all stages. -/
def boundPlan : Codec BoundPlan :=
  (Codec.int32.pair (server.pair (stageNode.pair placements))).imap
    (fun p => (p.stage, p.server, p.root, p.placements)) (fun p => ⟨p.1, p.2.1, p.2.2.1, p.2.2.2⟩)

end Wire

namespace BoundPlan

/-- The bytes of a bound plan. -/
def toBytes (p : BoundPlan) : List UInt8 :=
  Wire.boundPlan.write p

/-- The bound plan at the front of an input. -/
def ofBytes (bytes : List UInt8) : Except Wire.Fault BoundPlan := do
  let (p, _) ← Wire.boundPlan.read bytes
  return p

end BoundPlan
end ScatterGather
