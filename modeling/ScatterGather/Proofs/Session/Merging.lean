import ScatterGather.Proofs.Session.Acts

/-!
# What a merge passes on

**Results.** `merge_faithful`: whatever is done to the mailboxes of a session, in whatever order, a
merge takes from each of its mailboxes a prefix of what was put into it, passes all of it on but
clean ends, ends only when every input has ended, and reports a mailbox to have been broken off once
at most, and only if it was.
-/

namespace ScatterGather
namespace Session

variable {H : History} {s : Session} {number : Nat} {m : Merge}

/-- The pulls from a merge, the next one included, are tallied. -/
theorem Sound.tally_next
    (h : s.Sound H)
    (hm : Registry.find? s.mailboxes.merges number = some m) :
    ∃ m', m'.receivers = m.receivers ∧
      (s.mailboxes.pull number).mailboxes.Follows
        (H ++ [.pulled number m.receivers (s.mailboxes.nextPull number)]) number m' ∧
      m'.Tally (H.pulls number ++ [s.mailboxes.nextPull number]) := by
  obtain ⟨hsound, m', hm', hreceivers⟩ := Mailboxes.Sound.pull h hm
  have hfollows := hsound.follows number m' hm'
  have htally := hfollows.tally
  rw [History.pulls_append, History.pulls_pulled] at htally
  exact ⟨m', hreceivers, hfollows, htally⟩

theorem Sound.faithful_next
    (h : s.Sound H)
    (hm : Registry.find? s.mailboxes.merges number = some m) :
    (s.mailboxes.nextPull number).Faithful m.receivers (H.pulls number) := by
  obtain ⟨m', hreceivers, -, htally⟩ := h.tally_next hm
  exact hreceivers ▸ htally.faithful _ _ [] rfl

theorem Sound.takenBy_prefix
    (h : s.Sound H)
    (hm : Registry.find? s.mailboxes.merges number = some m)
    {i : Nat} {r : Receiver}
    (hr : m.receivers[i]? = some r) :
    H.takenBy number i <+: H.accepted r := by
  rw [(Mailboxes.Sound.follows h number m hm).taken i r hr]
  exact (Mailboxes.Sound.accounts h r).inOrder

theorem Sound.faithful_of_mem
    (h : s.Sound H)
    (hm : Registry.find? s.mailboxes.merges number = some m)
    {q : Pull}
    (hq : q ∈ H.pulls number) :
    ∃ before, q.Faithful m.receivers before := by
  obtain ⟨before, after, heq⟩ := List.append_of_mem hq
  exact ⟨before, (Mailboxes.Sound.follows h number m hm).tally.faithful before q after heq⟩

theorem Sound.isInterleaving_relayed
    (h : s.Sound H)
    (hm : Registry.find? s.mailboxes.merges number = some m) :
    IsInterleaving m.receivers.length
      (fun i => (H.takenBy number i).filter (· ≠ .cleanEnd))
      ((H.pulls number).filterMap Pull.relayed?) :=
  Pull.isInterleaving_relayed fun _ hq => h.faithful_of_mem hm hq

/-- A clean end comes of a pull only if every input has ended. -/
theorem Sound.ended_of_cleanEnd
    (h : s.Sound H)
    (hm : Registry.find? s.mailboxes.merges number = some m)
    (hclean : (s.mailboxes.nextPull number).packet = some .cleanEnd)
    {i : Nat}
    (hi : i < m.receivers.length) :
    (∃ p ∈ H.takenBy number i ++ (s.mailboxes.nextPull number).takes i, p.isEnd = true) ∨
      ∃ q ∈ H.pulls number, q.brokenOff? = some i := by
  obtain ⟨q, hq, hends⟩ := (h.faithful_next hm).cleanEnd hclean i hi
  rcases List.mem_append.1 hq with hq | hq
  · rcases hends with ⟨p, hp, hend⟩ | hbroken
    · exact Or.inl ⟨p, List.mem_append_left _ (List.mem_flatMap.2 ⟨q, hq, hp⟩), hend⟩
    · exact Or.inr ⟨q, hq, hbroken⟩
  · cases List.mem_singleton.1 hq
    rcases hends with ⟨p, hp, hend⟩ | hbroken
    · exact Or.inl ⟨p, List.mem_append_right _ hp, hend⟩
    · obtain ⟨p, hp, hne⟩ := Pull.packet_of_brokenOff? hbroken
      exact absurd (Option.some.inj (hp.symm.trans hclean)) hne

/-- A mailbox is reported to have been broken off for the first time, after all that was put into it
was taken, no end among it, and when no sender was left. -/
theorem Sound.brokenOff_next
    (h : s.Sound H)
    (hm : Registry.find? s.mailboxes.merges number = some m)
    {i : Nat}
    (hbroken : (s.mailboxes.nextPull number).brokenOff? = some i) :
    (∀ q ∈ H.pulls number, q.brokenOff? ≠ some i) ∧
    (∀ p ∈ H.takenBy number i ++ (s.mailboxes.nextPull number).takes i, p.isEnd = false) ∧
    ∃ r, m.receivers[i]? = some r ∧
      (s.mailboxes.nextPull number).packet = some (Merge.brokenOff r.id) ∧
      s.mailboxes.senders r = 0 ∧
      H.accepted r = H.takenBy number i ++ (s.mailboxes.nextPull number).takes i := by
  obtain ⟨m', hreceivers, hfollows, htally⟩ := h.tally_next hm
  have hfaithful := h.faithful_next hm
  obtain ⟨hnever, hown⟩ := hfaithful.brokenOff i hbroken
  refine ⟨?_, ?_, ?_⟩
  · exact fun q hq heq => hnever q hq (Or.inr heq)
  · intro p hp
    rcases List.mem_append.1 hp with hp | hp
    · obtain ⟨q, hq, hp⟩ := List.mem_flatMap.1 hp
      rw [Bool.eq_false_iff]
      exact fun hend => hnever q hq (Or.inl ⟨p, hp, hend⟩)
    · exact hown p hp
  · have hended := Pull.mem_findings_of_brokenOff? hbroken
    obtain ⟨r, hr, hsenders⟩ := Mailboxes.senders_of_ended_mem_pull hm hended
    obtain ⟨r', hr', hpacket⟩ := hfaithful.report hbroken
    cases hr.symm.trans hr'
    have hgone : i ∉ m'.live := htally.brokenOff _ (by simp) i hbroken
    have hr' : m'.receivers[i]? = some r := hreceivers ▸ hr
    have haccepted := (hfollows.gone i r hr' hgone).1
    rw [← hfollows.taken i r hr', History.takenBy_append] at haccepted
    refine ⟨r, hr, hpacket, hsenders, ?_⟩
    simpa [History.accepted, Event.acceptedOn, History.takenBy, History.pulls_pulled] using
      haccepted

/-- **A merge is faithful.** From the start, whatever acts are done in whatever order, at any moment
and for every merge, where a mailbox is meant as the channel that its receiver was given out for:

* what was taken from a mailbox is a prefix of what was accepted on it;
* the packets that came of the pulls, without clean ends and without the reports that the merge made
  itself, are an interleaving of what was taken from each mailbox without clean ends;
* if a clean end comes of the next pull, then from every mailbox an end was taken, or it was
  reported to have been broken off before;
* if the next pull reports a mailbox to have been broken off, this was not reported before, no
  sender is left on it, and everything accepted on it was taken, no end among it;
* if a clean end came of a pull before, then it comes of the next one too, and nothing is
  changed. -/
theorem merge_faithful
    (host : String) (mailboxPort : UInt16) (capacity : Nat) (acts : List Act)
    (number : Nat) (m : Merge) :
    let start := ofMailboxes (.create host mailboxPort capacity)
    let s := (start.performAll acts).mailboxes
    let H := start.history acts
    let next := s.nextPull number
    Registry.find? s.merges number = some m →
    (∀ i r, m.receivers[i]? = some r → H.takenBy number i <+: H.accepted r) ∧
    IsInterleaving m.receivers.length
      (fun i => (H.takenBy number i).filter (· ≠ .cleanEnd))
      ((H.pulls number).filterMap Pull.relayed?) ∧
    (next.packet = some .cleanEnd → ∀ i < m.receivers.length,
      (∃ p ∈ H.takenBy number i ++ next.takes i, p.isEnd = true) ∨
        ∃ q ∈ H.pulls number, q.brokenOff? = some i) ∧
    (∀ i, next.brokenOff? = some i →
      (∀ q ∈ H.pulls number, q.brokenOff? ≠ some i) ∧
      (∀ p ∈ H.takenBy number i ++ next.takes i, p.isEnd = false) ∧
      ∃ r, m.receivers[i]? = some r ∧ next.packet = some (Merge.brokenOff r.id) ∧
        s.senders r = 0 ∧ H.accepted r = H.takenBy number i ++ next.takes i) ∧
    ((∃ q ∈ H.pulls number, q.packet = some .cleanEnd) →
      s.pull number = ⟨some .cleanEnd, [], s⟩) := by
  intro start s H next hm
  have h : (start.performAll acts).Sound H := sound_history host mailboxPort capacity acts
  refine ⟨?_, h.isInterleaving_relayed hm, ?_, ?_, ?_⟩
  · exact fun i r hr => h.takenBy_prefix hm hr
  · exact fun hclean i hi => h.ended_of_cleanEnd hm hclean hi
  · exact fun i hbroken => h.brokenOff_next hm hbroken
  · rintro ⟨q, hq, hclean⟩
    exact Mailboxes.Sound.pull_of_cleanEnd h hm hq hclean

/-- Two workers on one stage. -/
def hangUpRequest : MergeRequest where
  schema := ⟨["v"], [.int]⟩
  senders := [⟨"worker-a", 8421, 8442⟩, ⟨"worker-b", 8421, 8442⟩]
  routing := .randomDistributed
  host := "broker"
  mailboxPort := 9000
  request := 1
  senderStage := 1

/-- One worker sends, the other hangs up without an end. -/
def hangUp : List Act :=
  [.step (.openSender (hangUpRequest.idOf ⟨"worker-a", 8421, 8442⟩) "a"),
   .step (.send "a" .heartbeat),
   .openMerge hangUpRequest,
   .step (.openSender (hangUpRequest.idOf ⟨"worker-b", 8421, 8442⟩) "b"),
   .pull 0,
   .step (.drop "b")]

/-- The merge over both after the first pull. -/
def hangUpMerge : Merge where
  schema := hangUpRequest.schema
  routing := hangUpRequest.routing
  receivers := hangUpRequest.senders.map fun server => ⟨hangUpRequest.idOf server, 0⟩
  finished := [false, false]
  remaining := 2
  live := [0, 1]
  ready := [1, 0]

/-- The next pull reports the mailbox of the second worker as broken off. -/
theorem merge_faithful_hangUp :
    let start := ofMailboxes (.create "broker" 9000 4)
    let s := (start.performAll hangUp).mailboxes
    Registry.find? s.merges 0 = some hangUpMerge ∧
    (s.nextPull 0).brokenOff? = some 1 ∧
    ∃ r, hangUpMerge.receivers[1]? = some r ∧
      (s.nextPull 0).packet = some (Merge.brokenOff r.id) ∧ s.senders r = 0 := by
  intro start s
  have hm : Registry.find? s.merges 0 = some hangUpMerge := by decide +kernel
  have hbroken : (s.nextPull 0).brokenOff? = some 1 := by decide +kernel
  obtain ⟨-, -, -, hreport, -⟩ := merge_faithful "broker" 9000 4 hangUp 0 hangUpMerge hm
  obtain ⟨-, -, r, hr, hpacket, hsenders, -⟩ := hreport 1 hbroken
  exact ⟨hm, hbroken, r, hr, hpacket, hsenders⟩

end Session
end ScatterGather
