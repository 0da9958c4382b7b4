import ScatterGather.Proofs.NumberMap
import ScatterGather.Proofs.Wire.Exact

/-!
# The bytes of a plan that was read

Every input from which a plan is read starts with the bytes of its parts, and only the placements
leave a choice: their entries may come in any order and repeat stages. `listedPlan` reads the same
input with the entries as they stand in it.

**Results.** `BoundPlan.toBytes_of_ofBytes`: writing a plan that was read gives bytes from which it
is read again, no more of them than were read, and the very bytes that were read exactly when the
stages of their entries ascend. Of several entries of one stage the last one counts.
-/

namespace ScatterGather
namespace Wire

/-- A bound plan with the entries of its placements in the order in which they stand in the
input. -/
def listedPlan : Codec (Int32 × Server × StageNode × List (Int32 × Placement)) :=
  Codec.int32.pair (server.pair (stageNode.pair (Codec.int32.pair placement).list))

theorem exact_entry : (Codec.int32.pair placement).Exact :=
  Codec.exact_int32.pair exact_placement

/-- A plan is read as its parts are; its placements are the map of the entries. -/
theorem boundPlan_read_eq_ok_iff
    {bytes rest : List UInt8} {p : BoundPlan} :
    boundPlan.read bytes = .ok (p, rest) ↔
      ∃ entries,
        listedPlan.read bytes = .ok ((p.stage, p.server, p.root, entries), rest) ∧
        NumberMap.ofList entries = p.placements := by
  simp only [boundPlan, listedPlan, placements, Codec.imap_read_eq_ok_iff, Prod.exists,
    Codec.pair_read_eq_ok_iff]
  constructor
  · rintro ⟨stage, server, root, placements,
      ⟨afterStage, hstage, afterServer, hserver, afterRoot, hroot, entries, hentries, rfl⟩, rfl⟩
    exact ⟨entries, ⟨afterStage, hstage, afterServer, hserver, afterRoot, hroot, hentries⟩, rfl⟩
  · rintro ⟨entries,
      ⟨afterStage, hstage, afterServer, hserver, afterRoot, hroot, hentries⟩, hplacements⟩
    exact ⟨p.stage, p.server, p.root, p.placements,
      ⟨afterStage, hstage, afterServer, hserver, afterRoot, hroot, entries, hentries, hplacements⟩,
      rfl⟩

/-- The parts that were read are read back, also with fewer entries than there were. -/
theorem listedPlan_read
    {bytes rest : List UInt8}
    {stage : Int32} {worker : Server} {root : StageNode} {entries : List (Int32 × Placement)}
    (h : listedPlan.read bytes = .ok ((stage, worker, root, entries), rest)) :
    bytes = listedPlan.write (stage, worker, root, entries) ++ rest ∧
    ∀ kept : List (Int32 × Placement), kept.Subperm entries →
      listedPlan.Restores (stage, worker, root, kept) := by
  obtain ⟨afterStage, hreadStage, h⟩ := Codec.pair_read_eq_ok_iff.1 h
  obtain ⟨afterServer, hreadServer, h⟩ := Codec.pair_read_eq_ok_iff.1 h
  obtain ⟨afterRoot, hreadRoot, hreadEntries⟩ := Codec.pair_read_eq_ok_iff.1 h
  obtain ⟨hstage, rfl⟩ := Codec.exact_int32 _ _ _ hreadStage
  obtain ⟨hserver, rfl⟩ := exact_server _ _ _ hreadServer
  obtain ⟨hroot, rfl⟩ := exact_stageNode _ _ _ hreadRoot
  obtain ⟨hlength, hentry, rfl⟩ := exact_entry.list_read hreadEntries
  constructor
  · simp [listedPlan, Codec.pair]
  · intro kept hkept
    have hkeptLength := hkept.length_le
    exact hstage.pair (hserver.pair (hroot.pair
      (Codec.Restores.list (by omega) fun entry hmem => hentry entry (hkept.subset hmem))))

/-- Fewer entries take no more bytes. -/
theorem length_listedPlan_write_le
    {stage : Int32} {worker : Server} {root : StageNode}
    {kept entries : List (Int32 × Placement)}
    (h : kept.Subperm entries) :
    (listedPlan.write (stage, worker, root, kept)).length ≤
      (listedPlan.write (stage, worker, root, entries)).length := by
  obtain ⟨ordered, hperm, hsub⟩ := h
  have hbytes := (hperm.flatMap_right (Codec.int32.pair placement).write).length_eq
  have hle : (ordered.flatMap (Codec.int32.pair placement).write).length ≤
      (entries.flatMap (Codec.int32.pair placement).write).length := by
    clear hperm hbytes
    induction hsub with
    | slnil =>
        exact Nat.le_refl _
    | cons entry _ ih =>
        rw [List.flatMap_cons, List.length_append]
        omega
    | cons_cons entry _ ih =>
        rw [List.flatMap_cons, List.flatMap_cons, List.length_append, List.length_append]
        omega
  have hcount : ∀ n, ((Codec.word 8).write n).length = 8 := Word.length_toBytes 8
  simp only [listedPlan, Codec.pair, Codec.list, List.length_append, hcount]
  simp only [Codec.pair] at hbytes hle
  omega

end Wire

namespace BoundPlan

theorem ofBytes_eq_ok_iff
    {bytes : List UInt8} {p : BoundPlan} :
    ofBytes bytes = .ok p ↔ ∃ rest, Wire.boundPlan.read bytes = .ok (p, rest) := by
  constructor
  · intro h
    obtain ⟨⟨q, rest⟩, hread, h⟩ := Fallible.bind_eq_ok_iff.1 h
    cases h
    exact ⟨rest, hread⟩
  · rintro ⟨rest, hread⟩
    exact Fallible.bind_eq_ok_iff.2 ⟨_, hread, rfl⟩

/-- **Canonical bytes.** Of every input from which a plan is read some first bytes are those of its
stage, its worker, its root and a list of entries. The plan places a stage as the last entry of that
stage does. The bytes it is written as are read as the same plan, are no more than were read, and
are the ones that were read exactly when the stages of the entries are in strictly ascending
order. -/
theorem toBytes_of_ofBytes
    (bytes : List UInt8) (p : BoundPlan)
    (h : ofBytes bytes = .ok p) :
    ∃ (m : Nat) (entries : List (Int32 × Placement)),
      m ≤ bytes.length ∧
      Wire.boundPlan.read bytes = .ok (p, bytes.drop m) ∧
      Wire.listedPlan.read bytes = .ok ((p.stage, p.server, p.root, entries), bytes.drop m) ∧
      bytes.take m = Wire.listedPlan.write (p.stage, p.server, p.root, entries) ∧
      (∀ stage, p.placements.get? stage =
        ((entries.filter fun entry => entry.1 = stage).getLast?).map Prod.snd) ∧
      ofBytes p.toBytes = .ok p ∧
      p.toBytes.length ≤ m ∧
      (p.toBytes = bytes.take m ↔ (entries.map Prod.fst).Pairwise (· < ·)) := by
  obtain ⟨rest, hread⟩ := ofBytes_eq_ok_iff.1 h
  obtain ⟨entries, hlisted, hplacements⟩ := Wire.boundPlan_read_eq_ok_iff.1 hread
  obtain ⟨hbytes, hrestores⟩ := Wire.listedPlan_read hlisted
  have hkept : p.placements.entries.Subperm entries := by
    rw [← hplacements]
    exact NumberMap.entries_ofList_subperm entries
  have hwritten : p.toBytes =
      Wire.listedPlan.write (p.stage, p.server, p.root, p.placements.entries) := rfl
  have hsettled := hrestores _ hkept
  have htake : bytes.take (Wire.listedPlan.write (p.stage, p.server, p.root, entries)).length =
      Wire.listedPlan.write (p.stage, p.server, p.root, entries) := by
    rw [hbytes, List.take_left]
  have hdrop : bytes.drop (Wire.listedPlan.write (p.stage, p.server, p.root, entries)).length =
      rest := by
    rw [hbytes, List.drop_left]
  refine ⟨_, entries, ?_, by rw [hdrop, hread], by rw [hdrop, hlisted], htake, ?_, ?_, ?_, ?_⟩
  · rw [hbytes, List.length_append]
    exact Nat.le_add_right _ _
  · intro stage
    rw [← hplacements, NumberMap.get?_ofList]
  · refine ofBytes_eq_ok_iff.2 ⟨[], Wire.boundPlan_read_eq_ok_iff.2
      ⟨_, ?_, p.placements.ofList_entries⟩⟩
    rw [hwritten, ← hsettled.read_write [], List.append_nil]
  · exact Wire.length_listedPlan_write_le hkept
  · rw [htake, hwritten, ← NumberMap.entries_ofList_eq_iff, hplacements]
    constructor
    · intro hsame
      -- Both lists are read back, so equal bytes are those of equal entries.
      have hback := hsettled.read_write []
      rw [hsame, (hrestores entries (List.Perm.refl _).subperm).read_write []] at hback
      injection hback with hback
      exact (congrArg (fun read => read.1.2.2.2) hback).symm
    · intro hsame
      rw [hsame]

/-- Bytes with the entries of stages 5, 2 and 5 again, and one byte more. -/
def shuffled : List UInt8 :=
  Wire.listedPlan.write (3, ⟨"w", 1, 2⟩, .scan "t" [] ⟨[], []⟩,
    [(5, ⟨[], .broadcast⟩), (2, ⟨[], .singleton⟩), (5, ⟨[], .hashDistributed⟩)]) ++ [7]

/-- What is read from them. -/
def settled : BoundPlan where
  stage := 3
  server := ⟨"w", 1, 2⟩
  root := .scan "t" [] ⟨[], []⟩
  placements := .ofList [(2, ⟨[], .singleton⟩), (5, ⟨[], .hashDistributed⟩)]

/-- The last entry of a stage counts, and what is read is written in no more bytes. -/
theorem toBytes_of_ofBytes_shuffled :
    ofBytes shuffled = .ok settled ∧
    ofBytes settled.toBytes = .ok settled ∧
    settled.toBytes.length ≤ shuffled.length := by
  have hread : ofBytes shuffled = .ok settled := by decide +kernel
  obtain ⟨m, entries, hm, -, -, -, -, hagain, hlength, -⟩ :=
    toBytes_of_ofBytes shuffled settled hread
  exact ⟨hread, hagain, Nat.le_trans hlength hm⟩

end BoundPlan
end ScatterGather
