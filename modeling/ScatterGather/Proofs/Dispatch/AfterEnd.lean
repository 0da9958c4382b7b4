import ScatterGather.Proofs.Dispatch.Lossless

/-!
# What comes after the end of an input

An end is the last packet of a stream, but a channel takes what is sent after it, by whoever holds
a sender. A merge notes that an input has ended, and goes on asking it until all of them have. What
it takes after the end of an input, it passes on as before. So how much of it comes through depends
on when the other inputs end.

**Results.** `Session.passesLate_iff`: what comes of an input after its end is what was put on its
channel after its end, and is taken before the merge ends. Where there is no such packet, nothing
comes of an input after its end, and what a drain collects is given by what was sent.
`Session.drains_differ`: two drains of the same packets that collect different blocks.
-/

namespace ScatterGather

namespace Packet

variable {p : Packet} {packets earlier more : List Packet}

/-- The packets that come after the first end. -/
def afterEnd : List Packet → List Packet
  | [] => []
  | p :: packets => if p.isEnd then packets else afterEnd packets

theorem afterEnd_append_of_mem
    (h : ∃ e ∈ earlier, e.isEnd = true) :
    afterEnd (earlier ++ more) = afterEnd earlier ++ more := by
  induction earlier with
  | nil =>
      obtain ⟨e, he, -⟩ := h
      cases he
  | cons p earlier ih =>
      rw [List.cons_append, afterEnd, afterEnd]
      split
      · rfl
      · next hp =>
          obtain ⟨e, he, hend⟩ := h
          rcases List.mem_cons.1 he with rfl | he
          · exact absurd hend hp
          · exact ih ⟨e, he, hend⟩

theorem mem_afterEnd_iff :
    p ∈ afterEnd packets ↔
      ∃ earlier more, packets = earlier ++ p :: more ∧ ∃ e ∈ earlier, e.isEnd = true := by
  constructor
  · intro h
    induction packets with
    | nil =>
        cases h
    | cons first packets ih =>
        rw [afterEnd] at h
        split at h
        · next hend =>
            obtain ⟨between, more, rfl⟩ := List.append_of_mem h
            exact ⟨first :: between, more, rfl, first, List.mem_cons_self, hend⟩
        · obtain ⟨earlier, more, rfl, e, he, hend⟩ := ih h
          exact ⟨first :: earlier, more, rfl, e, List.mem_cons_of_mem _ he, hend⟩
  · rintro ⟨earlier, more, rfl, hend⟩
    rw [afterEnd_append_of_mem hend]
    exact List.mem_append_right _ List.mem_cons_self

/-- A stream that goes on has all that came after its end. -/
theorem mem_afterEnd_of_prefix
    {whole : List Packet}
    (hfront : packets <+: whole)
    (h : p ∈ afterEnd packets) :
    p ∈ afterEnd whole := by
  obtain ⟨rest, rfl⟩ := hfront
  obtain ⟨earlier, more, rfl, hend⟩ := mem_afterEnd_iff.1 h
  exact mem_afterEnd_iff.2 ⟨earlier, more ++ rest, by simp, hend⟩

/-- Where no block comes after an end, a part of the stream with an end in it has all blocks. -/
theorem filterMap_block?_of_prefix
    {whole : List Packet}
    (hfront : packets <+: whole)
    (hend : ∃ e ∈ packets, e.isEnd = true)
    (hlast : (afterEnd whole).filterMap block? = []) :
    packets.filterMap block? = whole.filterMap block? := by
  obtain ⟨rest, rfl⟩ := hfront
  rw [afterEnd_append_of_mem hend, List.filterMap_append, List.append_eq_nil_iff] at hlast
  rw [List.filterMap_append, hlast.2, List.append_nil]

end Packet

namespace Pull

variable {q : Pull} {qs before : List Pull} {receivers : List Receiver} {i : Nat} {p : Packet}
variable {earlier later : List Packet}

/-- A pull passes on what it takes, unless it is a clean end, and then takes nothing more. -/
theorem Faithful.passed?_of_takes
    (hq : q.Faithful receivers before)
    (htakes : q.takes i = earlier ++ p :: later)
    (hp : p ≠ .cleanEnd) :
    q.passed? = some (i, p) ∧ later = [] := by
  have hkept := hq.passed i
  rw [htakes, List.filter_append, List.filter_cons_of_pos (by simpa using hp)] at hkept
  cases hpassed : q.passed? with
  | none =>
      rw [hpassed] at hkept
      simp at hkept
  | some entry =>
      obtain ⟨j, last⟩ := entry
      by_cases hj : j = i
      · subst hj
        obtain ⟨-, rfl, hlater⟩ : earlier.filter (· ≠ .cleanEnd) = [] ∧ p = last ∧
            later.filter (· ≠ .cleanEnd) = [] := by
          simpa [hpassed, List.append_eq_singleton_iff] using hkept
        refine ⟨rfl, ?_⟩
        obtain ⟨taken, htaken⟩ := takes_of_passed? hpassed
        rcases List.eq_nil_or_concat later with hnil | ⟨between, last, rfl⟩
        · exact hnil
        · -- the packet would have been taken once more, and kept twice
          rw [htaken, List.concat_eq_append, ← List.cons_append, ← List.append_assoc] at htakes
          obtain ⟨-, hlast⟩ := List.append_inj' htakes rfl
          cases hlast
          simp [hp] at hlater
      · simp [hpassed, hj] at hkept

/-- One of the packets that pulls take from an input was taken by one of them. -/
theorem exists_of_flatMap_takes
    {taken : List Packet}
    (h : (qs.flatMap fun q => q.takes i) = taken ++ p :: later) :
    ∃ before q after earlier rest, qs = before ++ q :: after ∧ q.takes i = earlier ++ p :: rest ∧
      (before.flatMap fun q => q.takes i) ++ earlier = taken := by
  induction qs generalizing taken with
  | nil =>
      simp at h
  | cons q qs ih =>
      rw [List.flatMap_cons, List.append_eq_append_iff] at h
      rcases h with ⟨between, rfl, hrest⟩ | ⟨between, hq, hrest⟩
      · obtain ⟨before, q', after, earlier, rest, rfl, htakes, rfl⟩ := ih hrest
        exact ⟨q :: before, q', after, earlier, rest, rfl, htakes, by simp⟩
      · cases between with
        | nil =>
            obtain ⟨before, q', after, earlier, rest, rfl, htakes, hnone⟩ :=
              ih (show _ = [] ++ _ from hrest.symm)
            obtain ⟨hbefore, rfl⟩ := List.append_eq_nil_iff.1 hnone
            refine ⟨q :: before, q', after, [], rest, rfl, htakes, ?_⟩
            simpa [hbefore] using hq
        | cons first between =>
            rw [List.cons_append, List.cons.injEq] at hrest
            obtain ⟨rfl, -⟩ := hrest
            exact ⟨[], q, qs, taken, between, rfl, hq, rfl⟩

end Pull

/-- A packet came of a merge although an end was taken from its input before. -/
def History.PassesLate (H : History) (number i : Nat) (p : Packet) : Prop :=
  ∃ before q after earlier,
    H.pulls number = before ++ q :: after ∧ q.packet = some p ∧ q.passed? = some (i, p) ∧
    (before.flatMap fun q => q.takes i) ++ q.takes i = earlier ++ [p] ∧
    ∃ e ∈ earlier, e.isEnd = true

namespace Session

variable {H : History} {s : Session} {number i : Nat} {m : Merge} {p : Packet} {r : Receiver}

/-! ## What a merge passes on of an input that has ended -/

theorem Sound.late_passed_iff
    (h : s.Sound H)
    (hm : Registry.find? s.mailboxes.merges number = some m) :
    H.PassesLate number i p ↔
      p ≠ .cleanEnd ∧ p ∈ Packet.afterEnd (H.takenBy number i) := by
  constructor
  · rintro ⟨before, q, after, earlier, hpulls, -, hpassed, htaken, hend⟩
    have hq : q ∈ H.pulls number := hpulls ▸ List.mem_append_right _ List.mem_cons_self
    obtain ⟨_, hfaithful⟩ := h.faithful_of_mem hm hq
    refine ⟨(hfaithful.packet_of_passed? hpassed).2, Packet.mem_afterEnd_iff.2 ?_⟩
    refine ⟨earlier, after.flatMap fun q => q.takes i, ?_, hend⟩
    rw [History.takenBy, hpulls, List.flatMap_append, List.flatMap_cons, ← List.append_assoc,
      htaken, List.append_assoc]
    rfl
  · rintro ⟨hp, hmem⟩
    obtain ⟨taken, more, htaken, hend⟩ := Packet.mem_afterEnd_iff.1 hmem
    obtain ⟨before, q, after, earlier, rest, hpulls, htakes, rfl⟩ :=
      Pull.exists_of_flatMap_takes htaken
    have hq : q ∈ H.pulls number := hpulls ▸ List.mem_append_right _ List.mem_cons_self
    obtain ⟨_, hfaithful⟩ := h.faithful_of_mem hm hq
    obtain ⟨hpassed, rfl⟩ := hfaithful.passed?_of_takes htakes hp
    have hpacket := (hfaithful.packet_of_passed? hpassed).1
    refine ⟨before, q, after, _, hpulls, hpacket, hpassed, ?_, hend⟩
    rw [htakes, List.append_assoc]

theorem Sound.not_passesLate
    (h : s.Sound H)
    (hm : Registry.find? s.mailboxes.merges number = some m)
    (hr : m.receivers[i]? = some r)
    (hlast : ∀ p ∈ Packet.afterEnd (H.accepted r), p = .cleanEnd) :
    ¬ H.PassesLate number i p := by
  intro hlate
  obtain ⟨hp, hmem⟩ := (h.late_passed_iff hm).1 hlate
  exact hp (hlast p (Packet.mem_afterEnd_of_prefix (h.takenBy_prefix hm hr) hmem))

end Session

/-! ## Drains of a merge -/

/-- A merge that is opened after some steps of others, and drained while they go on. -/
structure MergeDrain where
  host : String
  mailboxPort : UInt16
  capacity : Nat
  steps : List Step
  request : MergeRequest
  timeout : Duration
  interludes : List Interlude

namespace MergeDrain

variable (d : MergeDrain)

/-- Where it all starts. -/
def start : Session :=
  .ofMailboxes (.create d.host d.mailboxPort d.capacity)

/-- Where the merge is opened. -/
def before : Session :=
  d.start.performAll (d.steps.map .step)

/-- The number that the merge gets. -/
def number : Nat :=
  d.before.mailboxes.nextMerge

/-- Where the drain begins. -/
def opened : Session :=
  d.before.withMailboxes (d.before.mailboxes.openMerge d.request).2

/-- All that happens until the drain is over. -/
def history : History :=
  d.start.history (d.steps.map .step ++
    Session.mergeActs d.request d.number (d.opened.drainActs d.number d.timeout d.interludes))

/-- The merge is opened, and its drain collects these blocks. -/
structure Collects (blocks : List Block) : Prop where
  opens : (d.before.mailboxes.openMerge d.request).1 = .ok d.number
  completes : (d.opened.drainMerge d.number d.timeout d.interludes).verdict = .complete blocks

/-- The receivers of the merge. -/
def inputs : List Receiver :=
  (d.opened.mailboxes.inputs? d.number).getD []

/-- The packets that were put on the channel of each input. -/
def sent : List (List Packet) :=
  d.inputs.map d.history.accepted

/-- The blocks among them. -/
def blocksSent : List (List Block) :=
  d.sent.map (·.filterMap Packet.block?)

variable {d} {d' : MergeDrain} {blocks blocks' : List Block}

theorem Collects.collected
    (h : d.Collects blocks) :
    Session.Collected d.history d.number d.inputs blocks := by
  have hsteps : d.before = (d.start.run d.steps).2 := Session.performAll_steps d.start d.steps
  have hsound : d.before.Sound (d.start.history (d.steps.map .step)) :=
    Session.sound_history d.host d.mailboxPort d.capacity _
  have hnumbered : d.before.Numbered :=
    hsteps ▸ (Session.numbered_start _).run d.steps
  have hopen : d.before.mailboxes.openMerge d.request =
      (.ok d.number, (d.before.mailboxes.openMerge d.request).2) := Prod.ext h.opens rfl
  obtain ⟨-, receivers, -, -, hinputs, -, -, hcollected⟩ :=
    hsound.collected_drain hnumbered hopen h.completes
  have hreceivers : d.inputs = receivers := by
    show ((d.before.mailboxes.openMerge d.request).2.inputs? d.number).getD [] = receivers
    rw [hinputs]
    rfl
  rw [hreceivers, history, Session.history_append]
  exact hcollected

/-- A drain collects all blocks that were sent, if none was sent after an end. -/
theorem Collects.isInterleaving
    (h : d.Collects blocks)
    (hlast : ∀ packets ∈ d.sent, (Packet.afterEnd packets).filterMap Packet.block? = []) :
    IsInterleaving d.blocksSent.length (fun i => d.blocksSent[i]?.getD []) blocks := by
  have hcollected := h.collected
  obtain ⟨tagged, hwhole, hinputs, hparts⟩ := hcollected.blocks
  rw [blocksSent, sent, List.length_map, List.length_map]
  refine ⟨tagged, hwhole, hinputs, fun i hi => (hparts i hi).trans ?_⟩
  have hinput : d.inputs[i]? = some d.inputs[i] := List.getElem?_eq_getElem hi
  dsimp only
  rw [List.getElem?_map, List.getElem?_map, hinput]
  exact Packet.filterMap_block?_of_prefix (hcollected.taken i _ hinput)
    ⟨_, hcollected.cleanEnd i hi, rfl⟩
    (hlast _ (List.mem_map_of_mem (List.getElem_mem hi)))

end MergeDrain

namespace Session

open Dispatcher (oneRow)

variable {d d' : MergeDrain} {blocks blocks' : List Block}

/-- **After the end of an input.** From the start, whatever acts are done in whatever order, and for
every merge that is open:

* the packets that come of it from an input of which an end was taken before are just those that it
  takes after this end, clean ends apart;
* there is none if nothing but clean ends was put on the channel of the input after an end.

Of two drains, if the same blocks were put on the channels of their inputs and none after an end,
each collects an interleaving of them, so both collect the same blocks. -/
theorem passesLate_iff
    (host : String) (mailboxPort : UInt16) (capacity : Nat) (acts : List Act)
    (number : Nat) (m : Merge) (d d' : MergeDrain) (blocks blocks' : List Block) :
    let start := ofMailboxes (.create host mailboxPort capacity)
    let H := start.history acts
    (Registry.find? (start.performAll acts).mailboxes.merges number = some m →
      (∀ i p, H.PassesLate number i p ↔
        p ≠ .cleanEnd ∧ p ∈ Packet.afterEnd (H.takenBy number i)) ∧
      (∀ i r, m.receivers[i]? = some r →
        (∀ p ∈ Packet.afterEnd (H.accepted r), p = .cleanEnd) →
        ∀ p, ¬ H.PassesLate number i p)) ∧
    (d.Collects blocks → d'.Collects blocks' →
      d.blocksSent = d'.blocksSent →
      (∀ packets ∈ d.sent ++ d'.sent, (Packet.afterEnd packets).filterMap Packet.block? = []) →
      IsInterleaving d.blocksSent.length (fun i => d.blocksSent[i]?.getD []) blocks ∧
        blocks.Perm blocks') := by
  intro start H
  constructor
  · intro hm
    have h : (start.performAll acts).Sound H := sound_history host mailboxPort capacity acts
    exact ⟨fun i p => h.late_passed_iff hm, fun i r hr hlast p => h.not_passesLate hm hr hlast⟩
  · intro hblocks hblocks' hsent hlast
    have hwhole := hblocks.isInterleaving fun packets hpackets =>
      hlast packets (List.mem_append_left _ hpackets)
    have hwhole' := hblocks'.isInterleaving fun packets hpackets =>
      hlast packets (List.mem_append_right _ hpackets)
    rw [← hsent] at hwhole'
    exact ⟨hwhole, hwhole.perm hwhole'⟩

/-- Two workers, each with a sender of its own. -/
def twoSenders : List Step :=
  [.openSender (hangUpRequest.idOf ⟨"worker-a", 8421, 8442⟩) "a",
   .openSender (hangUpRequest.idOf ⟨"worker-b", 8421, 8442⟩) "b"]

/-- The first worker goes on after its end. -/
def goOnAfterEnd : List Act :=
  twoSenders.map .step ++
    [.step (.send "a" .cleanEnd), .step (.send "a" (.data (oneRow 7))),
     .step (.send "b" .heartbeat), .step (.send "b" .cleanEnd),
     .openMerge hangUpRequest, .pull 0, .pull 0]

/-- The merge over both after the second pull. -/
def goOnAfterEndMerge : Merge where
  schema := hangUpRequest.schema
  routing := hangUpRequest.routing
  receivers := hangUpRequest.senders.map fun server => ⟨hangUpRequest.idOf server, 0⟩
  finished := [true, false]
  remaining := 1
  live := [0, 1]
  ready := [1, 0]

/-- What the workers send is drained, some of it sent before and some after the drain has begun to
wait. -/
def drainOfTwo (early late : List Step) : MergeDrain where
  host := "broker"
  mailboxPort := 9000
  capacity := 4
  steps := twoSenders ++ early
  request := hangUpRequest
  timeout := ⟨10 * Duration.perSecond⟩
  interludes := [⟨5, late⟩]

/-- A packet is passed on after the end of its sender. Two orders of sending in which nobody goes on
after an end are drained to the same blocks in another order. -/
theorem passesLate_iff_goOnAfterEnd :
    let d := drainOfTwo [.send "a" (.data (oneRow 1)), .send "a" .cleanEnd,
      .send "b" (.data (oneRow 2)), .send "b" .cleanEnd] []
    let d' := drainOfTwo [.send "b" (.data (oneRow 2))]
      [.send "a" (.data (oneRow 1)), .send "a" .cleanEnd, .send "b" .cleanEnd]
    let blocks := [oneRow 1, oneRow 2]
    let blocks' := [oneRow 2, oneRow 1]
    Registry.find? ((ofMailboxes (.create "broker" 9000 4)).performAll
        goOnAfterEnd).mailboxes.merges 0 = some goOnAfterEndMerge ∧
    ((ofMailboxes (.create "broker" 9000 4)).history goOnAfterEnd).PassesLate 0 0
      (.data (oneRow 7)) ∧
    (∀ p, ¬ ((ofMailboxes (.create "broker" 9000 4)).history goOnAfterEnd).PassesLate 0 1 p) ∧
    d.Collects blocks ∧ d'.Collects blocks' ∧ blocks.Perm blocks' := by
  intro d d' blocks blocks'
  have hm : Registry.find? ((ofMailboxes (.create "broker" 9000 4)).performAll
      goOnAfterEnd).mailboxes.merges 0 = some goOnAfterEndMerge := by decide +kernel
  have hd : d.Collects blocks := ⟨by decide +kernel, by decide +kernel⟩
  have hd' : d'.Collects blocks' := ⟨by decide +kernel, by decide +kernel⟩
  obtain ⟨hlate, hdrains⟩ :=
    passesLate_iff "broker" 9000 4 goOnAfterEnd 0 goOnAfterEndMerge d d' blocks blocks'
  obtain ⟨hiff, hnone⟩ := hlate hm
  refine ⟨hm, (hiff 0 _).2 ⟨by decide, ?_⟩, hnone 1 _ rfl ?_, hd, hd', ?_⟩
  · decide +kernel
  · decide +kernel
  · exact (hdrains hd hd' (by decide +kernel) (by decide +kernel)).2

/-- One worker goes on after its end, and the other one ends at once in one drain and later in the
other. The same is put on both channels, and the block that comes after the end is collected in the
second drain only. -/
theorem drains_differ :
    let d := drainOfTwo
      [.send "a" .cleanEnd, .send "a" (.data (oneRow 7)), .send "b" .cleanEnd] []
    let d' := drainOfTwo
      [.send "a" .cleanEnd, .send "a" (.data (oneRow 7))] [.send "b" .cleanEnd]
    d.request = d'.request ∧ d.sent = d'.sent ∧
    d.Collects [] ∧ d'.Collects [oneRow 7] ∧
    d'.history.PassesLate d'.number 0 (.data (oneRow 7)) := by
  intro d d'
  refine ⟨rfl, by decide +kernel, ⟨by decide +kernel, by decide +kernel⟩,
    ⟨by decide +kernel, by decide +kernel⟩, ?_⟩
  have hpulls : d'.history.pulls d'.number =
      [⟨[.took 0 .cleanEnd, .nothing 1, .took 0 (.data (oneRow 7))],
          some (.data (oneRow 7))⟩,
        ⟨[.nothing 0], none⟩, ⟨[.took 1 .cleanEnd], some .cleanEnd⟩] := by
    decide +kernel
  exact ⟨[], _, _, [.cleanEnd], hpulls, rfl, rfl, rfl, .cleanEnd, List.mem_singleton.2 rfl, rfl⟩

end Session
end ScatterGather
