import ScatterGather.Proofs.Wire.Codec
import ScatterGather.Wire.Plan

/-!
# Bound plans survive their bytes

A bound plan is written part by part, and every part is read back by a lawful codec. The root of its
stage is a chain of nodes of any length; it is read with as many levels to spare as the input has
bytes, which is enough because every level takes bytes.

**Results.** `BoundPlan.ofBytes_toBytes_append`: a plan is read back from its bytes whatever follows
them, input that is cut within them has ended too soon, and so the bytes of one plan never start
those of another.
-/

namespace ScatterGather
namespace Wire

theorem lawful_columnType : columnType.Lawful :=
  Codec.lawful_oneOf (fun type => by cases type <;> simp) (by simp)

theorem lawful_routing : routing.Lawful :=
  Codec.lawful_oneOf (fun routing => by cases routing <;> simp) (by simp)

theorem word_write_ne_nil
    {width : Nat}
    (hwidth : 0 < width)
    (n : Nat) :
    (Codec.word width).write n ≠ [] := by
  apply List.length_pos_iff.1
  simpa [Codec.word] using hwidth

theorem text_write_ne_nil (s : String) : Codec.text.write s ≠ [] := by
  simp [Codec.text, word_write_ne_nil]

theorem lawful_texts : Codec.text.list.Lawful :=
  Codec.lawful_text.list text_write_ne_nil

theorem lawful_schema : schema.Lawful :=
  (lawful_texts.pair (lawful_columnType.list fun _ => word_write_ne_nil (by omega) _)).imap
    fun _ => rfl

theorem lawful_server : server.Lawful :=
  (Codec.lawful_text.pair (Codec.lawful_uint16.pair Codec.lawful_uint16)).imap fun _ => rfl

theorem server_write_ne_nil (s : Server) : server.write s ≠ [] := by
  simp [server, Codec.imap, Codec.pair, text_write_ne_nil]

theorem lawful_placement : placement.Lawful :=
  ((lawful_server.list server_write_ne_nil).pair lawful_routing).imap fun _ => rfl

theorem lawful_placements : placements.Lawful := by
  have hentry : ∀ entry : Int32 × Placement,
      (Codec.int32.pair placement).write entry ≠ [] := by
    intro entry
    simp [Codec.pair, Codec.int32, Codec.imap, word_write_ne_nil]
  exact ((Codec.lawful_int32.pair lawful_placement).list hentry).imap NumberMap.ofList_entries

theorem lawful_link : link.Lawful :=
  Codec.lawful_int32.pair (lawful_schema.pair lawful_routing)

theorem lawful_scan : scan.Lawful :=
  Codec.lawful_text.pair (lawful_texts.pair lawful_schema)

theorem lawful_projection : projection.Lawful :=
  (Codec.lawful_uint64.list fun _ => word_write_ne_nil (by omega) _).pair lawful_schema

/-! ## Nodes -/

/-- How many nodes a chain has. -/
def levels : StageNode → Nat
  | .receive .. | .scan .. => 1
  | .send _ _ _ input | .project _ _ input => levels input + 1

/-- The bytes of a node's fields, between its tag and its input. -/
def writeFields : StageNode → List UInt8
  | .receive stage schema routing | .send stage schema routing _ =>
      link.write (stage, schema, routing)
  | .scan table columns schema => scan.write (table, columns, schema)
  | .project columns schema _ => projection.write (columns, schema)

/-- The bytes of what lies below a node. -/
def writeInput : StageNode → List UInt8
  | .receive .. | .scan .. => []
  | .send _ _ _ input | .project _ _ input => writeNode input

theorem writeNode_eq
    (node : StageNode) :
    writeNode node =
      (Codec.word 4).write (nodeTag node) ++ (writeFields node ++ writeInput node) := by
  cases node <;> simp [writeNode, nodeTag, writeFields, writeInput]

theorem restores_nodeTag (node : StageNode) : (Codec.word 4).Restores (nodeTag node) := by
  refine Codec.restores_word (by omega) ?_
  cases node <;> simp [nodeTag]

theorem levels_le_length_writeNode
    (node : StageNode) :
    levels node ≤ (writeNode node).length := by
  have hword : ∀ n, ((Codec.word 4).write n).length = 4 := fun n => Word.length_toBytes 4 n
  induction node with
  | receive =>
      simp only [levels, writeNode, List.length_append, hword]
      omega
  | send _ _ _ _ ih =>
      simp only [levels, writeNode, List.length_append, hword]
      omega
  | scan =>
      simp only [levels, writeNode, List.length_append, hword]
      omega
  | project _ _ _ ih =>
      simp only [levels, writeNode, List.length_append, hword]
      omega

/-- Every part of a chain is read back from its own bytes. -/
def Readable : StageNode → Prop
  | .receive stage schema routing => link.Restores (stage, schema, routing)
  | .send stage schema routing input => link.Restores (stage, schema, routing) ∧ Readable input
  | .scan table columns schema => scan.Restores (table, columns, schema)
  | .project columns schema input => projection.Restores (columns, schema) ∧ Readable input

theorem readable_of_length_lt
    (node : StageNode)
    (hlength : (writeNode node).length < 2 ^ 64) :
    Readable node := by
  induction node with
  | receive =>
      simp only [writeNode, List.length_append] at hlength
      exact lawful_link _ (by omega)
  | send _ _ _ _ ih =>
      simp only [writeNode, List.length_append] at hlength
      exact ⟨lawful_link _ (by omega), ih (by omega)⟩
  | scan =>
      simp only [writeNode, List.length_append] at hlength
      exact lawful_scan _ (by omega)
  | project _ _ _ ih =>
      simp only [writeNode, List.length_append] at hlength
      exact ⟨lawful_projection _ (by omega), ih (by omega)⟩

/-- A node is read back when the levels to spare are no fewer than its own. -/
theorem readNode_writeNode
    (node : StageNode)
    (hnode : Readable node)
    {depth : Nat}
    (hdepth : levels node ≤ depth)
    (rest : List UInt8) :
    readNode depth (writeNode node ++ rest) = .ok (node, rest) := by
  obtain ⟨depth, rfl⟩ : ∃ n, depth = n + 1 :=
    ⟨depth - 1, by cases node <;> simp only [levels] at hdepth <;> omega⟩
  have htag := restores_nodeTag node
  rw [writeNode_eq, List.append_assoc, readNode, htag.bind_write, List.append_assoc]
  cases node with
  | receive sender schema routing =>
      exact Codec.Restores.bind_write hnode rest _
  | send receiver schema routing input =>
      obtain ⟨hfields, hbelow⟩ := hnode
      have hinput : readNode depth (writeNode input ++ rest) = .ok (input, rest) :=
        readNode_writeNode input hbelow (by simp only [levels] at hdepth; omega) rest
      show (link.read (link.write (receiver, schema, routing) ++ (writeNode input ++ rest))
        >>= _) = _
      rw [hfields.bind_write]
      show (readNode depth (writeNode input ++ rest) >>= _) = _
      rw [hinput]
      rfl
  | scan table columns schema =>
      exact Codec.Restores.bind_write hnode rest _
  | project columns schema input =>
      obtain ⟨hfields, hbelow⟩ := hnode
      have hinput : readNode depth (writeNode input ++ rest) = .ok (input, rest) :=
        readNode_writeNode input hbelow (by simp only [levels] at hdepth; omega) rest
      show (projection.read (projection.write (columns, schema) ++ (writeNode input ++ rest))
        >>= _) = _
      rw [hfields.bind_write]
      show (readNode depth (writeNode input ++ rest) >>= _) = _
      rw [hinput]
      rfl

/-- A node that is cut off is refused, however many levels are to spare. -/
theorem readNode_truncated
    (node : StageNode)
    (hnode : Readable node)
    {front : List UInt8}
    (hcut : Truncates front (writeNode node)) :
    ∀ depth, readNode depth front = .error .endOfInput
  | 0 => rfl
  | depth + 1 => by
      rw [writeNode_eq] at hcut
      rw [readNode]
      rcases (restores_nodeTag node).bind_truncated hcut _ with hend | ⟨left, hleft, hnext⟩
      · exact hend
      rw [hnext]
      cases node with
      | receive sender schema routing =>
          simp only [writeFields, writeInput, List.append_nil] at hleft
          show (link.read left >>= _) = _
          rw [Codec.Restores.read_truncated hnode left hleft]
          rfl
      | send receiver schema routing input =>
          obtain ⟨hfields, hinput⟩ := hnode
          show (link.read left >>= _) = _
          rcases hfields.bind_truncated hleft _ with hend | ⟨below, hbelow, hnext⟩
          · exact hend
          rw [hnext]
          show (readNode depth below >>= _) = _
          rw [readNode_truncated input hinput hbelow]
          rfl
      | scan table columns schema =>
          simp only [writeFields, writeInput, List.append_nil] at hleft
          show (scan.read left >>= _) = _
          rw [Codec.Restores.read_truncated hnode left hleft]
          rfl
      | project columns schema input =>
          obtain ⟨hfields, hinput⟩ := hnode
          show (projection.read left >>= _) = _
          rcases hfields.bind_truncated hleft _ with hend | ⟨below, hbelow, hnext⟩
          · exact hend
          rw [hnext]
          show (readNode depth below >>= _) = _
          rw [readNode_truncated input hinput hbelow]
          rfl

theorem restores_stageNode
    {node : StageNode}
    (hnode : Readable node) :
    stageNode.Restores node := by
  refine ⟨?_, ?_, ?_⟩
  · show writeNode node ≠ []
    rw [writeNode_eq]
    simp [word_write_ne_nil]
  · intro rest
    have hlevels := levels_le_length_writeNode node
    refine readNode_writeNode node hnode ?_ rest
    show levels node ≤ (writeNode node ++ rest).length
    simp only [List.length_append]
    omega
  · intro front hcut
    exact readNode_truncated node hnode hcut front.length

theorem lawful_stageNode : stageNode.Lawful :=
  fun node hlength => restores_stageNode (readable_of_length_lt node hlength)

theorem lawful_boundPlan : boundPlan.Lawful :=
  (Codec.lawful_int32.pair (lawful_server.pair (lawful_stageNode.pair lawful_placements))).imap
    fun _ => rfl

end Wire

namespace BoundPlan

/-- **Decoding undoes encoding.** A plan whose bytes can be counted in eight bytes is read back from
them whatever follows; cut off anywhere, they have ended too soon; and they do not start the bytes
of another plan. -/
theorem ofBytes_toBytes_append
    (p : BoundPlan)
    (hp : p.toBytes.length < 2 ^ 64) :
    (∀ rest, ofBytes (p.toBytes ++ rest) = .ok p) ∧
    (∀ front, front <+: p.toBytes → front ≠ p.toBytes →
      ofBytes front = .error .endOfInput) ∧
    (∀ q : BoundPlan, q.toBytes.length < 2 ^ 64 → p.toBytes <+: q.toBytes → p = q) := by
  have hlaw := Wire.lawful_boundPlan p hp
  have hread : ∀ rest, ofBytes (p.toBytes ++ rest) = .ok p :=
    fun rest => hlaw.bind_write rest _
  refine ⟨hread, ?_, ?_⟩
  · intro front hfront hne
    have hcut := Wire.truncates_of_prefix hfront hne
    show (Wire.boundPlan.read front >>= _) = _
    rw [hlaw.read_truncated front hcut]
    rfl
  · rintro q hq ⟨rest, hrest⟩
    have hown : ofBytes (q.toBytes ++ []) = .ok q :=
      (Wire.lawful_boundPlan q hq).bind_write [] _
    rw [List.append_nil, ← hrest, hread rest] at hown
    injection hown

/-- A stage that sends two columns of a table on, with more names than types in its schema. -/
def relayed : BoundPlan where
  stage := 3
  server := ⟨"worker", 8421, 8422⟩
  root := .send 0 ⟨["a", "b"], [.string]⟩ .hashDistributed
    (.project [1, 0] ⟨["a"], [.string]⟩ (.scan "t" ["x", "y"] ⟨[], [.long, .bytes]⟩))
  placements := .ofList [(3, ⟨[⟨"worker", 8421, 8422⟩], .broadcast⟩), (-1, ⟨[], .singleton⟩)]

/-- It is read back with a byte after it, and is not read from a part of its bytes. -/
theorem ofBytes_toBytes_append_relayed :
    relayed.toBytes.length < 2 ^ 64 ∧
    ofBytes (relayed.toBytes ++ [7]) = .ok relayed ∧
    ofBytes (relayed.toBytes.take 9) = .error .endOfInput := by
  have hlength : relayed.toBytes.length < 2 ^ 64 := by decide +kernel
  obtain ⟨hread, hcut, -⟩ := ofBytes_toBytes_append relayed hlength
  refine ⟨hlength, hread [7], hcut _ (List.take_prefix _ _) ?_⟩
  decide +kernel

end BoundPlan
end ScatterGather
