import ScatterGather.Proofs.Fallible
import ScatterGather.Proofs.Wire.Plan

/-!
# Codecs that read only what they write

**Exactness.** A codec is exact when every input it accepts starts with what it would write for the
value it reads, and that value is read back. The law of `Codec.Lawful` looks from values to bytes;
exactness looks from bytes to values, and asks nothing about their number.

**Results.** The codecs of a bound plan's parts are exact. Only a map is read from entries in any
order, so the codec of its entries is exact and that of the map is not.
-/

namespace ScatterGather
namespace Utf8

/-- Text that was read has the bytes it was read from. -/
theorem encode_of_decode?
    {bytes : List UInt8} {s : String}
    (h : decode? bytes = some s) :
    encode s = bytes := by
  unfold decode? String.fromUTF8? at h
  split at h
  · injection h with h
    subst h
    simp [encode, String.fromUTF8]
  · cases h

end Utf8

namespace Wire

/-- What a codec accepts starts with what it writes. -/
def Codec.Exact {α : Type} (c : Codec α) : Prop :=
  ∀ bytes a rest, c.read bytes = .ok (a, rest) → c.Restores a ∧ bytes = c.write a ++ rest

namespace Codec

variable {α β γ : Type}

theorem take_eq_ok_iff
    {count : Nat} {bytes front rest : List UInt8} :
    take count bytes = .ok (front, rest) ↔ front.length = count ∧ bytes = front ++ rest := by
  constructor
  · intro h
    unfold take at h
    split at h
    · next hcount =>
        cases h
        exact ⟨List.length_take_of_le hcount, (List.take_append_drop count bytes).symm⟩
    · cases h
  · rintro ⟨rfl, rfl⟩
    exact take_append front rest

theorem pair_read_eq_ok_iff
    {first : Codec α} {second : Codec β}
    {bytes rest : List UInt8} {a : α} {b : β} :
    (first.pair second).read bytes = .ok ((a, b), rest) ↔
      ∃ middle, first.read bytes = .ok (a, middle) ∧ second.read middle = .ok (b, rest) := by
  constructor
  · intro h
    obtain ⟨⟨a', middle⟩, hfirst, h⟩ := Fallible.bind_eq_ok_iff.1 h
    obtain ⟨⟨b', rest'⟩, hsecond, h⟩ := Fallible.bind_eq_ok_iff.1 h
    cases h
    exact ⟨middle, hfirst, hsecond⟩
  · rintro ⟨middle, hfirst, hsecond⟩
    exact Fallible.bind_eq_ok_iff.2
      ⟨_, hfirst, Fallible.bind_eq_ok_iff.2 ⟨_, hsecond, rfl⟩⟩

theorem imap_read_eq_ok_iff
    {c : Codec α} {toRaw : β → α} {ofRaw : α → β}
    {bytes rest : List UInt8} {b : β} :
    (c.imap toRaw ofRaw).read bytes = .ok (b, rest) ↔
      ∃ a, c.read bytes = .ok (a, rest) ∧ ofRaw a = b := by
  constructor
  · intro h
    obtain ⟨⟨a, rest'⟩, hread, h⟩ := Fallible.bind_eq_ok_iff.1 h
    cases h
    exact ⟨a, hread, rfl⟩
  · rintro ⟨a, hread, rfl⟩
    exact Fallible.bind_eq_ok_iff.2 ⟨_, hread, rfl⟩

/-- A number that is read back fits into its bytes. -/
theorem lt_of_restores_word
    {width n : Nat}
    (h : (word width).Restores n) :
    n < 256 ^ width := by
  obtain ⟨⟨front, rest⟩, htake, hvalue⟩ := Fallible.bind_eq_ok_iff.1 (h.read_write [])
  obtain ⟨hlength, -⟩ := take_eq_ok_iff.1 htake
  cases hvalue
  rw [← hlength]
  exact Word.ofBytes_lt front

theorem exact_word
    {width : Nat}
    (hwidth : 0 < width) :
    (word width).Exact := by
  intro bytes n rest h
  obtain ⟨⟨front, rest'⟩, htake, h⟩ := Fallible.bind_eq_ok_iff.1 h
  cases h
  obtain ⟨rfl, rfl⟩ := take_eq_ok_iff.1 htake
  refine ⟨restores_word hwidth (Word.ofBytes_lt front), ?_⟩
  show _ = Word.toBytes front.length (Word.ofBytes front) ++ rest
  rw [Word.toBytes_ofBytes]

theorem Exact.imap
    {c : Codec α}
    (h : c.Exact)
    {toRaw : β → α} {ofRaw : α → β}
    (hinv : ∀ a, c.Restores a → toRaw (ofRaw a) = a) :
    (c.imap toRaw ofRaw).Exact := by
  intro bytes b rest hb
  obtain ⟨a, hread, rfl⟩ := imap_read_eq_ok_iff.1 hb
  obtain ⟨ha, hbytes⟩ := h bytes a rest hread
  have hraw : toRaw (ofRaw a) = a := hinv a ha
  refine ⟨Restores.imap (by rwa [hraw]) (by rw [hraw]), ?_⟩
  show bytes = c.write (toRaw (ofRaw a)) ++ rest
  rw [hraw, hbytes]

theorem Exact.pair
    {first : Codec α} {second : Codec β}
    (hfirst : first.Exact)
    (hsecond : second.Exact) :
    (first.pair second).Exact := by
  rintro bytes ⟨a, b⟩ rest h
  obtain ⟨middle, hread, hnext⟩ := pair_read_eq_ok_iff.1 h
  obtain ⟨ha, rfl⟩ := hfirst bytes a middle hread
  obtain ⟨hb, rfl⟩ := hsecond middle b rest hnext
  exact ⟨ha.pair hb, (List.append_assoc _ _ _).symm⟩

theorem Exact.readMany
    {c : Codec α}
    (h : c.Exact)
    {count : Nat} {bytes rest : List UInt8} {as : List α}
    (hread : readMany c count bytes = .ok (as, rest)) :
    as.length = count ∧ (∀ a ∈ as, c.Restores a) ∧ bytes = as.flatMap c.write ++ rest := by
  induction count generalizing bytes as with
  | zero =>
      cases hread
      simp
  | succ count ih =>
      obtain ⟨⟨a, middle⟩, hfirst, hread⟩ := Fallible.bind_eq_ok_iff.1 hread
      obtain ⟨⟨as', rest'⟩, hothers, hread⟩ := Fallible.bind_eq_ok_iff.1 hread
      cases hread
      obtain ⟨ha, rfl⟩ := h bytes a middle hfirst
      obtain ⟨hcount, has, rfl⟩ := ih hothers
      refine ⟨by rw [List.length_cons, hcount], List.forall_mem_cons.2 ⟨ha, has⟩, ?_⟩
      rw [List.flatMap_cons, List.append_assoc]

/-- A list that was read is counted in eight bytes, and each of its values is read back. -/
theorem Exact.list_read
    {c : Codec α}
    (h : c.Exact)
    {bytes rest : List UInt8} {as : List α}
    (hread : c.list.read bytes = .ok (as, rest)) :
    as.length < 2 ^ 64 ∧ (∀ a ∈ as, c.Restores a) ∧ bytes = c.list.write as ++ rest := by
  obtain ⟨⟨count, middle⟩, hword, hmany⟩ := Fallible.bind_eq_ok_iff.1 hread
  dsimp only at hmany
  obtain ⟨hcount, hbytes⟩ := exact_word (show 0 < 8 by omega) bytes count middle hword
  obtain ⟨rfl, has, rfl⟩ := h.readMany hmany
  have hlt := lt_of_restores_word hcount
  rw [hbytes]
  exact ⟨by omega, has, (List.append_assoc _ _ _).symm⟩

theorem Exact.list
    {c : Codec α}
    (h : c.Exact) :
    c.list.Exact := by
  intro bytes as rest hread
  obtain ⟨hlength, has, hbytes⟩ := h.list_read hread
  exact ⟨Restores.list hlength has, hbytes⟩

theorem exact_text : text.Exact := by
  intro bytes s rest h
  obtain ⟨⟨count, middle⟩, hword, hcontent⟩ := Fallible.bind_eq_ok_iff.1 h
  obtain ⟨⟨front, rest'⟩, htake, hdecoded⟩ := Fallible.bind_eq_ok_iff.1 hcontent
  dsimp only at hdecoded
  obtain ⟨hcount, rfl⟩ := exact_word (show 0 < 8 by omega) bytes count middle hword
  obtain ⟨rfl, rfl⟩ := take_eq_ok_iff.1 htake
  have hlt := lt_of_restores_word hcount
  cases htext : Utf8.decode? front with
  | none =>
      rw [htext] at hdecoded
      cases hdecoded
  | some s' =>
      rw [htext] at hdecoded
      cases hdecoded
      have hfront := Utf8.encode_of_decode? htext
      subst hfront
      exact ⟨restores_text (by omega), (List.append_assoc _ _ _).symm⟩

theorem exact_oneOf
    [DecidableEq α]
    {values : List α}
    (hnodup : values.Nodup)
    (hlength : values.length ≤ 2 ^ 32) :
    (oneOf values).Exact := by
  intro bytes a rest h
  obtain ⟨⟨tag, middle⟩, hword, hlisted⟩ := Fallible.bind_eq_ok_iff.1 h
  dsimp only at hlisted
  obtain ⟨-, rfl⟩ := exact_word (show 0 < 4 by omega) bytes tag middle hword
  cases hvalue : values[tag]? with
  | none =>
      rw [hvalue] at hlisted
      cases hlisted
  | some a' =>
      rw [hvalue] at hlisted
      cases hlisted
      obtain ⟨hplace, rfl⟩ := List.getElem?_eq_some_iff.1 hvalue
      refine ⟨restores_oneOf (List.getElem_mem hplace) hlength, ?_⟩
      show _ = (word 4).write (values.idxOf values[tag]) ++ _
      rw [hnodup.idxOf_getElem tag hplace]

theorem exact_int32 : int32.Exact := by
  refine (exact_word (by omega)).imap fun n hn => ?_
  have hlt := lt_of_restores_word hn
  simp [Nat.mod_eq_of_lt (show n < 4294967296 by omega)]

theorem exact_uint16 : uint16.Exact := by
  refine (exact_word (by omega)).imap fun n hn => ?_
  have hlt := lt_of_restores_word hn
  simp [Nat.mod_eq_of_lt (show n < 65536 by omega)]

theorem exact_uint64 : uint64.Exact := by
  refine (exact_word (by omega)).imap fun n hn => ?_
  have hlt := lt_of_restores_word hn
  simp [Nat.mod_eq_of_lt (show n < 18446744073709551616 by omega)]

end Codec

/-! ## The parts of a bound plan -/

theorem exact_columnType : columnType.Exact :=
  Codec.exact_oneOf (by decide) (by simp)

theorem exact_routing : routing.Exact :=
  Codec.exact_oneOf (by decide) (by simp)

theorem exact_schema : schema.Exact :=
  (Codec.exact_text.list.pair exact_columnType.list).imap fun _ _ => rfl

theorem exact_server : server.Exact :=
  (Codec.exact_text.pair (Codec.exact_uint16.pair Codec.exact_uint16)).imap fun _ _ => rfl

theorem exact_placement : placement.Exact :=
  (exact_server.list.pair exact_routing).imap fun _ _ => rfl

theorem exact_link : link.Exact :=
  Codec.exact_int32.pair (exact_schema.pair exact_routing)

theorem exact_scan : scan.Exact :=
  Codec.exact_text.pair (Codec.exact_text.list.pair exact_schema)

theorem exact_projection : projection.Exact :=
  Codec.exact_uint64.list.pair exact_schema

/-- A chain that was read is read back part by part, however many levels were to spare. -/
theorem readNode_exact
    {depth : Nat} {bytes rest : List UInt8} {node : StageNode}
    (h : readNode depth bytes = .ok (node, rest)) :
    Readable node ∧ bytes = writeNode node ++ rest := by
  induction depth generalizing bytes node rest with
  | zero =>
      cases h
  | succ depth ih =>
      rw [readNode] at h
      obtain ⟨⟨tag, fields⟩, hword, hnode⟩ := Fallible.bind_eq_ok_iff.1 h
      obtain ⟨-, rfl⟩ := Codec.exact_word (show 0 < 4 by omega) bytes tag fields hword
      clear h
      dsimp only at hnode
      split at hnode
      · obtain ⟨⟨⟨sender, schema, routing⟩, rest'⟩, hfields, hnode⟩ := Fallible.bind_eq_ok_iff.1 hnode
        cases hnode
        obtain ⟨hread, rfl⟩ := exact_link _ _ _ hfields
        exact ⟨hread, by simp [writeNode]⟩
      · obtain ⟨⟨⟨receiver, schema, routing⟩, below⟩, hfields, hnode⟩ := Fallible.bind_eq_ok_iff.1 hnode
        obtain ⟨⟨input, rest'⟩, hinput, hnode⟩ := Fallible.bind_eq_ok_iff.1 hnode
        cases hnode
        obtain ⟨hread, rfl⟩ := exact_link _ _ _ hfields
        obtain ⟨hbelow, rfl⟩ := ih hinput
        exact ⟨⟨hread, hbelow⟩, by simp [writeNode]⟩
      · obtain ⟨⟨⟨table, columns, schema⟩, rest'⟩, hfields, hnode⟩ := Fallible.bind_eq_ok_iff.1 hnode
        cases hnode
        obtain ⟨hread, rfl⟩ := exact_scan _ _ _ hfields
        exact ⟨hread, by simp [writeNode]⟩
      · obtain ⟨⟨⟨columns, schema⟩, below⟩, hfields, hnode⟩ := Fallible.bind_eq_ok_iff.1 hnode
        obtain ⟨⟨input, rest'⟩, hinput, hnode⟩ := Fallible.bind_eq_ok_iff.1 hnode
        cases hnode
        obtain ⟨hread, rfl⟩ := exact_projection _ _ _ hfields
        obtain ⟨hbelow, rfl⟩ := ih hinput
        exact ⟨⟨hread, hbelow⟩, by simp [writeNode]⟩
      · cases hnode

theorem exact_stageNode : stageNode.Exact := by
  intro bytes node rest h
  obtain ⟨hnode, hbytes⟩ := readNode_exact h
  exact ⟨restores_stageNode hnode, hbytes⟩

end Wire
end ScatterGather
