import ScatterGather.Dispatch.Dispatcher
import ScatterGather.Proofs.Session.Draining
import ScatterGather.Proofs.Session.Merging

/-!
# Gathering the output of a stage

**Results.** If the mailboxes of a stage are gathered well, a clean end was taken from each of them
and no failure, and the blocks are an interleaving of those that were taken from each.
-/

namespace ScatterGather

theorem Drain.Outcome.verdict_of_blocks
    {σ : Type} {outcome : Drain.Outcome σ} {timeout : Duration} {blocks : List Block}
    (h : outcome.blocks timeout = .ok blocks) :
    outcome.verdict = .complete blocks := by
  unfold Drain.Outcome.blocks at h
  split at h
  · next hverdict =>
      cases h
      exact hverdict
  · cases h
  · cases h
  · cases h

namespace Session

variable {H : History} {s : Session} {number : Nat} {inputs : List Receiver} {blocks : List Block}

/-! ## A merge that came to a clean end -/

/-- What a history tells of a merge of which nothing came but packets that end nothing, and a clean
end. -/
structure Collected (H : History) (number : Nat) (inputs : List Receiver) (blocks : List Block) :
    Prop where
  pulled : ∀ inputs' q, .pulled number inputs' q ∈ H → inputs' = inputs
  taken : ∀ i r, inputs[i]? = some r → H.takenBy number i <+: H.accepted r
  cleanEnd : ∀ i < inputs.length, .cleanEnd ∈ H.takenBy number i
  failures : ∀ i < inputs.length, ∀ report, .failedEnd report ∉ H.takenBy number i
  blocks : IsInterleaving inputs.length
    (fun i => (H.takenBy number i).filterMap Packet.block?) blocks

theorem filterMap_block?_filter (packets : List Packet) :
    (packets.filter (· ≠ .cleanEnd)).filterMap Packet.block? = packets.filterMap Packet.block? := by
  induction packets with
  | nil =>
      rfl
  | cons p packets ih =>
      by_cases hp : p = .cleanEnd
      · subst hp
        exact ih
      · rw [List.filter_cons_of_pos (by simpa using hp), List.filterMap_cons,
          List.filterMap_cons, ih]

theorem relayed?_bind
    {q : Pull}
    (h : q.brokenOff? = none) :
    q.relayed?.bind Packet.block? = q.packet.bind Packet.block? := by
  unfold Pull.relayed?
  cases q.packet with
  | none =>
      rfl
  | some p =>
      by_cases hp : p = .cleanEnd
      · subst hp
        rfl
      · simp [hp, h]

/-- What relayed packets are made of, when no mailbox was reported to have been broken off. -/
theorem filterMap_relayed?
    {qs : List Pull}
    (h : ∀ q ∈ qs, q.brokenOff? = none) :
    (qs.filterMap Pull.relayed?).filterMap Packet.block? =
      (qs.filterMap Pull.packet).filterMap Packet.block? := by
  rw [List.filterMap_filterMap, List.filterMap_filterMap]
  induction qs with
  | nil =>
      rfl
  | cons q qs ih =>
      obtain ⟨hnone, hrest⟩ := List.forall_mem_cons.1 h
      rw [List.filterMap_cons, List.filterMap_cons, relayed?_bind hnone, ih hrest]

theorem Sound.collected
    {packets : List Packet}
    (h : s.Sound H)
    (howns : s.Owns number inputs)
    (hpackets : (H.pulls number).filterMap Pull.packet = packets ++ [.cleanEnd])
    (hends : ∀ p ∈ packets, p.isEnd = false) :
    Collected H number inputs (packets.filterMap Packet.block?) := by
  obtain ⟨m, hm, rfl⟩ := howns.find?
  have hfollows := Mailboxes.Sound.follows h number m hm
  have hpassed : ∀ q ∈ H.pulls number, ∀ p, q.packet = some p →
      p = .cleanEnd ∨ p.isEnd = false := by
    intro q hq p hp
    have hmem : p ∈ (H.pulls number).filterMap Pull.packet := List.mem_filterMap.2 ⟨q, hq, hp⟩
    rw [hpackets] at hmem
    rcases List.mem_append.1 hmem with hmem | hmem
    · exact Or.inr (hends p hmem)
    · exact Or.inl (List.mem_singleton.1 hmem)
  have hfailed : ∀ q ∈ H.pulls number, ∀ report, q.packet ≠ some (.failedEnd report) := by
    intro q hq report hp
    rcases hpassed q hq _ hp with hclean | hend
    · cases hclean
    · cases hend
  have hunbroken : ∀ q ∈ H.pulls number, q.brokenOff? = none := by
    intro q hq
    cases hbroken : q.brokenOff? with
    | none =>
        rfl
    | some i =>
        obtain ⟨before, hfaithful⟩ := h.faithful_of_mem hm hq
        obtain ⟨r, -, hp⟩ := hfaithful.report hbroken
        exact absurd hp (hfailed q hq _)
  have hrelayed := h.isInterleaving_relayed hm
  -- A failed end that was taken would have been relayed, and so have come of a pull.
  have hfailures : ∀ i < m.receivers.length, ∀ report,
      .failedEnd report ∉ H.takenBy number i := by
    intro i hi report hmem
    have hkept : .failedEnd report ∈ (H.takenBy number i).filter (· ≠ .cleanEnd) :=
      List.mem_filter.2 ⟨hmem, by simp [Packet.failedEnd, Packet.cleanEnd]⟩
    obtain ⟨q, hq, hp⟩ := List.mem_filterMap.1 (hrelayed.mem hi hkept)
    exact hfailed q hq report (Pull.packet_of_relayed? hp).1
  refine ⟨hfollows.inputs, fun i r hr => h.takenBy_prefix hm hr, ?_, hfailures, ?_⟩
  · -- The clean end of the merge means that the end of every input was known.
    intro i hi
    have hclean : .cleanEnd ∈ (H.pulls number).filterMap Pull.packet := by simp [hpackets]
    obtain ⟨q, hq, hp⟩ := List.mem_filterMap.1 hclean
    have hremaining := hfollows.tally.cleanEnd q hq hp
    have hfinished := hfollows.tally.remaining_eq_zero_iff.1 hremaining i hi
    obtain ⟨q', hq', hended⟩ := (hfollows.tally.finished i hi).1 hfinished
    rcases hended with ⟨p, hp, hend⟩ | hbroken
    · have hmem : p ∈ H.takenBy number i := List.mem_flatMap.2 ⟨q', hq', hp⟩
      cases p with
      | data block =>
          cases hend
      | heartbeat =>
          cases hend
      | endOfStream failure =>
          cases failure with
          | none =>
              exact hmem
          | some report =>
              exact absurd hmem (hfailures i hi report)
    · rw [hunbroken q' hq'] at hbroken
      cases hbroken
  · have hdata := hrelayed.filterMap Packet.block?
    have hclean : [Packet.cleanEnd].filterMap Packet.block? = [] := rfl
    rw [filterMap_relayed? hunbroken, hpackets, List.filterMap_append, hclean,
      List.append_nil] at hdata
    simpa only [filterMap_block?_filter] using hdata

/-! ## Opening, draining and dropping the merge -/

theorem chosen_mergeRequest (g : Gathering) (request : Int64) (host : String)
    (mailboxPort : UInt16) :
    (g.mergeRequest request host mailboxPort).chosen = .ok g.senders :=
  rfl

/-- What is done with a merge of one's own, from its opening on until it is dropped. -/
def mergeActs (merge : MergeRequest) (number : Nat) (acts : List Act) : List Act :=
  .openMerge merge :: acts ++ [.dropMerge number]

theorem performAll_mergeActs (s : Session) (merge : MergeRequest) (number : Nat) (acts : List Act) :
    s.performAll (mergeActs merge number acts) =
      ((s.withMailboxes (s.mailboxes.openMerge merge).2).performAll acts).perform
        (.dropMerge number) := by
  rw [mergeActs, List.cons_append, performAll, performAll_append]
  rfl

theorem history_mergeActs (s : Session) (merge : MergeRequest) (number : Nat) (acts : List Act) :
    s.history (mergeActs merge number acts) =
      merge.asks ++ (s.withMailboxes (s.mailboxes.openMerge merge).2).history acts := by
  rw [mergeActs, List.cons_append, history, history_append]
  show merge.asks ++ ((s.withMailboxes (s.mailboxes.openMerge merge).2).history acts ++ []) = _
  rw [List.append_nil]

/-- What is done to gather. -/
def gatherActs (s : Session) (g : Gathering) (request : Int64) (timeout : Duration)
    (interludes : List Interlude) : List Act :=
  let merge := g.mergeRequest request s.mailboxes.host s.mailboxes.mailboxPort
  match s.mailboxes.openMerge merge with
  | (.error _, _) => [.openMerge merge]
  | (.ok number, mailboxes) =>
    mergeActs merge number ((s.withMailboxes mailboxes).drainActs number timeout interludes)

/-- A merge that is opened by its number and drained to a clean end. -/
theorem Sound.collected_drain
    {merge : MergeRequest} {mailboxes : Mailboxes} {timeout : Duration}
    {interludes : List Interlude}
    (h : s.Sound H)
    (hnumbered : s.Numbered)
    (hopen : s.mailboxes.openMerge merge = (.ok number, mailboxes))
    (hverdict : ((s.withMailboxes mailboxes).drainMerge number timeout interludes).verdict =
      .complete blocks) :
    ∃ senders receivers,
      merge.chosen = .ok senders ∧
      receivers.map Receiver.id = senders.map merge.idOf ∧
      mailboxes.inputs? number = some receivers ∧
      (∀ r ∈ receivers, (s.mailboxes.box r.id).First → r.generation = 0) ∧
      ((s.withMailboxes mailboxes).drainMerge number timeout interludes).receiver.1.perform
          (.dropMerge number) =
        s.performAll (mergeActs merge number
          ((s.withMailboxes mailboxes).drainActs number timeout interludes)) ∧
      Collected
        (H ++ s.history (mergeActs merge number
          ((s.withMailboxes mailboxes).drainActs number timeout interludes)))
        number receivers blocks := by
  have hsound := Mailboxes.Sound.openMerge h merge
  obtain ⟨senders, receivers, hsenders, hids, howns, hpulls, hgeneration⟩ :=
    h.owns_openMerge hnumbered (congrArg Prod.fst hopen)
  rw [performAll_mergeActs, history_mergeActs, ← List.append_assoc]
  rw [hopen] at hsound howns ⊢
  obtain ⟨packets, hgiven, hends, rfl⟩ := drainMerge_complete howns hverdict
  refine ⟨senders, receivers, hsenders, hids, howns.inputs, hgeneration, ?_, ?_⟩
  · rw [← hgiven.session]
  · have hdrained := sound_performAll (sound_withMailboxes hsound)
      ((s.withMailboxes mailboxes).drainActs number timeout interludes)
    rw [← hgiven.session] at hdrained
    refine hdrained.collected hgiven.owns ?_ hends
    rw [History.pulls_append, History.pulls_append, hpulls, pulls_asks, List.nil_append,
      List.nil_append, hgiven.packets]

theorem gather_complete
    {g : Gathering} {request : Int64} {timeout : Duration} {interludes : List Interlude}
    (h : s.Sound H)
    (hnumbered : s.Numbered)
    (hok : (s.gather g request timeout interludes).1 = .ok blocks) :
    ∃ receivers,
      receivers.map Receiver.id = g.senders.map
        (g.mergeRequest request s.mailboxes.host s.mailboxes.mailboxPort).idOf ∧
      (∀ r ∈ receivers, (s.mailboxes.box r.id).First → r.generation = 0) ∧
      (s.gather g request timeout interludes).2 =
        s.performAll (s.gatherActs g request timeout interludes) ∧
      Collected (H ++ s.history (s.gatherActs g request timeout interludes))
        s.mailboxes.nextMerge receivers blocks := by
  have hchosen := chosen_mergeRequest g request s.mailboxes.host s.mailboxes.mailboxPort
  unfold gather at hok ⊢
  unfold gatherActs
  dsimp only at hok ⊢
  revert hok hchosen
  generalize g.mergeRequest request s.mailboxes.host s.mailboxes.mailboxPort = merge
  intro hok hchosen
  cases hopen : s.mailboxes.openMerge merge with
  | mk answer mailboxes =>
      rw [hopen] at hok
      cases answer with
      | error fault =>
          cases hok
      | ok number =>
          obtain ⟨hnumber, -⟩ := Mailboxes.openMerge_number (congrArg Prod.fst hopen)
          obtain ⟨senders, receivers, hsenders, hids, -, hgeneration, hafter, hcollected⟩ :=
            h.collected_drain hnumbered hopen (Drain.Outcome.verdict_of_blocks hok)
          cases hchosen.symm.trans hsenders
          exact ⟨receivers, hids, hgeneration, hafter, hnumber ▸ hcollected⟩

/-! ## The mailboxes of a gathering -/

/-- What comes before an entry of a prefix is in the prefix. -/
theorem takeWhile_prefix_of_mem
    {α : Type} [DecidableEq α] {a : α} {front whole : List α}
    (h : front <+: whole)
    (ha : a ∈ front) :
    whole.takeWhile (· ≠ a) <+: front := by
  obtain ⟨rest, rfl⟩ := h
  induction front with
  | nil =>
      cases ha
  | cons b front ih =>
      rw [List.cons_append, List.takeWhile_cons]
      split
      · next hne =>
          have hmem : a ∈ front := by
            rcases List.mem_cons.1 ha with rfl | hmem
            · simp at hne
            · exact hmem
          exact (List.prefix_cons_inj b).2 (ih hmem)
      · exact List.nil_prefix

/-- The receivers of mailboxes that nobody received from before are those of their first
channels. -/
theorem receivers_eq
    {H : History} {s : Session} {ids : List MailboxId} {receivers : List Receiver}
    (h : s.Sound H)
    (hids : receivers.map Receiver.id = ids)
    (hgeneration : ∀ r ∈ receivers, (s.mailboxes.box r.id).First → r.generation = 0)
    (huntouched : ∀ id ∈ ids, .asked id ∉ H ∧ .released id ∉ H) :
    receivers = ids.map fun id => ⟨id, 0⟩ := by
  subst hids
  rw [List.map_map]
  refine (List.map_id receivers).symm.trans (List.map_congr_left fun r hr => ?_)
  obtain ⟨hasked, hreleased⟩ := huntouched r.id (List.mem_map_of_mem hr)
  have htraced := Mailboxes.Sound.traced h r.id hreleased
  have hzero := hgeneration r hr (htraced.unreceived hasked).toFirst
  cases r
  cases hzero
  rfl

/-- A merge of which a clean end came has all that was sent before the first clean end. -/
theorem Sound.collected_prefix
    {id : MailboxId} {i : Nat}
    (h : s.Sound H)
    (hcollected : Collected H number inputs blocks)
    (hi : inputs[i]? = some ⟨id, 0⟩)
    (hreleased : .released id ∉ H) :
    (H.takenBy number i).filterMap Packet.block? <+: (H.sentTo id).filterMap Packet.block? ∧
      ((H.sentTo id).takeWhile (· ≠ .cleanEnd)).filterMap Packet.block? <+:
        (H.takenBy number i).filterMap Packet.block? := by
  have htraced := Mailboxes.Sound.traced h id hreleased
  have haccepted := htraced.accepted_prefix (Mailboxes.Sound.accounts h)
  have hsent := (hcollected.taken i _ hi).trans haccepted
  have hclean := hcollected.cleanEnd i (List.getElem?_eq_some_iff.1 hi).1
  exact ⟨hsent.filterMap _, (takeWhile_prefix_of_mem hsent hclean).filterMap _⟩

/-- **Gathering.** From the start, after any steps, when mailboxes are gathered well that nobody
received from or released: all that was sent to each of them before its first clean end was taken,
and a clean end, but no failed one. -/
theorem gather_faithful
    (host : String) (mailboxPort : UInt16) (capacity : Nat) (steps : List Step)
    (g : Gathering) (request : Int64) (timeout : Duration) (interludes : List Interlude) :
    let start := ofMailboxes (.create host mailboxPort capacity)
    let early := steps.map Act.step
    let s := start.performAll early
    let acts := s.gatherActs g request timeout interludes
    let H := start.history (early ++ acts)
    let number := s.mailboxes.nextMerge
    let mailbox := (g.mergeRequest request host mailboxPort).idOf
    (∀ server ∈ g.senders,
      .asked (mailbox server) ∉ start.history early ∧ .released (mailbox server) ∉ H) →
    (s.gather g request timeout interludes).1 = .ok blocks →
    (s.gather g request timeout interludes).2 = start.performAll (early ++ acts) ∧
      (∀ inputs q, .pulled number inputs q ∈ H →
        inputs = g.senders.map fun server => ⟨mailbox server, 0⟩) ∧
      (∀ i < g.senders.length,
        .cleanEnd ∈ H.takenBy number i ∧ ∀ report, .failedEnd report ∉ H.takenBy number i) ∧
      ∃ parts,
        IsInterleaving g.senders.length parts blocks ∧
        ∀ i server, g.senders[i]? = some server →
          parts i <+: (H.sentTo (mailbox server)).filterMap Packet.block? ∧
          ((H.sentTo (mailbox server)).takeWhile (· ≠ .cleanEnd)).filterMap Packet.block? <+:
            parts i := by
  intro start early s acts H number mailbox hspared hok
  have hrun : s = (start.run steps).2 := performAll_steps start steps
  have hleaves := leaves_run start steps
  rw [← hrun] at hleaves
  have hhost : s.mailboxes.host = host := hleaves.host
  have hport : s.mailboxes.mailboxPort = mailboxPort := hleaves.mailboxPort
  have hnumbered : s.Numbered := by
    rw [hrun]
    exact (numbered_start _).run steps
  have hearly : s.Sound (start.history early) := sound_history host mailboxPort capacity early
  have hsound : (start.performAll (early ++ acts)).Sound H :=
    sound_history host mailboxPort capacity (early ++ acts)
  have hhistory : H = start.history early ++ s.history acts := history_append start early acts
  obtain ⟨receivers, hids, hgeneration, hafter, hcollected⟩ :=
    gather_complete hearly hnumbered hok
  rw [hhost, hport] at hids
  have hreceivers : receivers = g.senders.map fun server => ⟨mailbox server, 0⟩ := by
    have heq := receivers_eq hearly hids hgeneration ?_
    · rw [heq, List.map_map]
      rfl
    · intro id hid
      obtain ⟨server, hserver, rfl⟩ := List.mem_map.1 hid
      obtain ⟨hasked, hreleased⟩ := hspared server hserver
      exact ⟨hasked, fun hmem => hreleased (hhistory ▸ List.mem_append_left _ hmem)⟩
  have hlength : receivers.length = g.senders.length := by simp [hreceivers]
  rw [show start.history early ++ s.history _ = H from hhistory.symm] at hcollected
  refine ⟨?_, ?_, ?_, fun i => (H.takenBy number i).filterMap Packet.block?, ?_, ?_⟩
  · exact hafter.trans (performAll_append start early acts).symm
  · exact fun inputs q hq => (hcollected.pulled inputs q hq).trans hreceivers
  · intro i hi
    rw [← hlength] at hi
    exact ⟨hcollected.cleanEnd i hi, hcollected.failures i hi⟩
  · rw [← hlength]
    exact hcollected.blocks
  · intro i server hserver
    have hinput : receivers[i]? = some ⟨mailbox server, 0⟩ := by simp [hreceivers, hserver]
    have hreleased := (hspared server (List.mem_of_getElem? hserver)).2
    exact hsound.collected_prefix hcollected hinput hreleased

end Session
end ScatterGather
