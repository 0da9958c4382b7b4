import ScatterGather.Proofs.Mailboxes.Tally

/-!
# Mailboxes that agree with their history

The channels of a process agree with a history: what was accepted on a channel and not taken is in
its queue. The receiver of a channel is given out once, and from then on it is in one hand only:
with one merge, or outside of all merges. What a merge knows agrees with what was pulled from it.

**Results.** An operation that leaves the merges alone, and does nothing to the channels of their
receivers but put packets on them, takes agreement to agreement.
-/

namespace ScatterGather

namespace Change

/-- A change made at the receiving end of a channel. -/
def atReceiver : Option Change → Bool
  | some (.took _) => true
  | some .closed => true
  | _ => false

end Change

/-- What was accepted on a channel, what was taken from it, and what can be seen of it. -/
structure Account (accepted taken : List Packet) (a : Slot) : Prop where
  queued : ∀ c, a.channel? = some c → c.receiving = true → accepted = taken ++ c.queue
  closed : ∀ c, a.channel? = some c → c.receiving = false → c.queue = []
  inOrder : taken <+: accepted
  absent : a.channel? = none → accepted = []
  kept : a.kept → taken = [] ∧ ∃ c, a.channel? = some c ∧ c.receiving = true

namespace Account

variable {accepted taken : List Packet} {change : Option Change} {a b : Slot}

theorem fresh
    (h : Account accepted taken a)
    (hb : Slot.Becomes change a b)
    (hnone : a.channel? = none) :
    Account (accepted ++ Change.accepted change) (taken ++ Change.taken change) b := by
  have hchange : change = none := by
    cases change with
    | none =>
        rfl
    | some c =>
        exact absurd hnone (hb.changed (by simp))
  have haccepted := h.absent hnone
  have htaken : taken = [] := List.prefix_nil.1 (haccepted ▸ h.inOrder)
  subst hchange haccepted htaken
  refine ⟨?_, ?_, ?_, fun _ => rfl, ?_⟩
  · intro c' hc' _
    simp [Change.accepted, Change.taken, (hb.fresh hnone c' hc').1]
  · intro c' hc' _
    exact (hb.fresh hnone c' hc').1
  · exact List.prefix_refl _
  · intro hkept
    have hsome : b.channel? ≠ none := by
      rcases hb.kept hkept with hkept | ⟨-, hsome⟩
      · obtain ⟨-, c, hc, -⟩ := h.kept hkept
        rw [hnone] at hc
        cases hc
      · exact hsome
    obtain ⟨c', hc'⟩ := Option.ne_none_iff_exists'.1 hsome
    exact ⟨rfl, c', hc', (hb.fresh hnone c' hc').2⟩

theorem becomes
    (h : Account accepted taken a)
    (hb : Slot.Becomes change a b)
    (hreceiver : Change.atReceiver change = true → ¬ b.kept) :
    Account (accepted ++ Change.accepted change) (taken ++ Change.taken change) b := by
  cases ha : a.channel? with
  | none =>
      exact h.fresh hb ha
  | some c =>
      obtain ⟨c', hc', hbecomes⟩ := hb.channel c ha
      have hkept : b.kept → taken = [] ∧ c.receiving = true := by
        intro hkept
        rcases hb.kept hkept with hkept | ⟨hnone, -⟩
        · obtain ⟨htaken, other, hother, hreceiving⟩ := h.kept hkept
          cases ha.symm.trans hother
          exact ⟨htaken, hreceiving⟩
        · rw [ha] at hnone
          cases hnone
      have habsent : b.channel? = none → accepted ++ Change.accepted change = [] := by
        intro hnone
        rw [hc'] at hnone
        cases hnone
      cases hbecomes with
      | stays hqueue hreceiving =>
          simp only [Change.accepted, Change.taken, List.append_nil] at habsent ⊢
          refine ⟨?_, ?_, h.inOrder, habsent, ?_⟩
          · intro other hother hopen
            cases hc'.symm.trans hother
            rw [hqueue]
            exact h.queued c ha (hreceiving ▸ hopen)
          · intro other hother hopen
            cases hc'.symm.trans hother
            rw [hqueue]
            exact h.closed c ha (hreceiving ▸ hopen)
          · intro hb'
            obtain ⟨htaken, hopen⟩ := hkept hb'
            exact ⟨htaken, c', hc', hreceiving.trans hopen⟩
      | pushed hopen hopen' hqueue =>
          simp only [Change.accepted, Change.taken, List.append_nil] at habsent ⊢
          refine ⟨?_, ?_, ?_, habsent, ?_⟩
          · intro other hother _
            cases hc'.symm.trans hother
            rw [hqueue, h.queued c ha hopen, List.append_assoc]
          · intro other hother hclosed
            cases hc'.symm.trans hother
            rw [hopen'] at hclosed
            cases hclosed
          · exact h.inOrder.trans (List.prefix_append _ _)
          · intro hb'
            exact ⟨(hkept hb').1, c', hc', hopen'⟩
      | took hreceiving hqueue =>
          have hopen : c.receiving = true := by
            cases hclosed : c.receiving with
            | true =>
                rfl
            | false =>
                rw [h.closed c ha hclosed] at hqueue
                cases hqueue
          have haccepted := h.queued c ha hopen
          rw [hqueue] at haccepted
          simp only [Change.accepted, Change.taken, List.append_nil] at habsent ⊢
          refine ⟨?_, ?_, ?_, habsent, ?_⟩
          · intro other hother _
            cases hc'.symm.trans hother
            simp [haccepted]
          · intro other hother hclosed
            cases hc'.symm.trans hother
            rw [hreceiving, hopen] at hclosed
            cases hclosed
          · rw [haccepted]
            exact ⟨c'.queue, by simp⟩
          · intro hb'
            exact absurd hb' (hreceiver rfl)
      | closed hqueue hreceiving =>
          simp only [Change.accepted, Change.taken, List.append_nil] at habsent ⊢
          refine ⟨?_, ?_, h.inOrder, habsent, ?_⟩
          · intro other hother hopen
            cases hc'.symm.trans hother
            rw [hreceiving] at hopen
            cases hopen
          · intro other hother _
            cases hc'.symm.trans hother
            exact hqueue
          · intro hb'
            exact absurd hb' (hreceiver rfl)

end Account

namespace Slot

/-- Only the receiver can close a channel. -/
theorem Becomes.receiving
    {change : Option Change} {a b : Slot} {c : Channel}
    (h : Becomes change a b)
    (hreceiver : Change.atReceiver change = false)
    (hc : a.channel? = some c) :
    ∃ c', b.channel? = some c' ∧ c'.receiving = c.receiving := by
  obtain ⟨c', hc', hbecomes⟩ := h.channel c hc
  refine ⟨c', hc', ?_⟩
  cases hbecomes with
  | stays _ hreceiving =>
      exact hreceiving
  | pushed hopen hopen' _ =>
      rw [hopen, hopen']
  | took hreceiving _ =>
      exact hreceiving
  | closed _ _ =>
      cases hreceiver

/-- A closed channel stays closed. -/
theorem Becomes.closed
    {change : Option Change} {a b : Slot} {c : Channel}
    (h : Becomes change a b)
    (hc : a.channel? = some c)
    (hclosed : c.receiving = false) :
    ∃ c', b.channel? = some c' ∧ c'.receiving = false := by
  obtain ⟨c', hc', hbecomes⟩ := h.channel c hc
  refine ⟨c', hc', ?_⟩
  cases hbecomes with
  | stays _ hreceiving =>
      exact hreceiving.trans hclosed
  | pushed hopen _ _ =>
      rw [hopen] at hclosed
      cases hclosed
  | took hreceiving _ =>
      exact hreceiving.trans hclosed
  | closed _ hreceiving =>
      exact hreceiving

/-- Nothing is accepted on a closed channel. -/
theorem Becomes.accepted_eq_nil
    {change : Option Change} {a b : Slot} {c : Channel}
    (h : Becomes change a b)
    (hc : a.channel? = some c)
    (hclosed : c.receiving = false) :
    Change.accepted change = [] := by
  obtain ⟨c', -, hbecomes⟩ := h.channel c hc
  cases hbecomes with
  | stays _ _ =>
      rfl
  | pushed hopen _ _ =>
      rw [hopen] at hclosed
      cases hclosed
  | took _ _ =>
      rfl
  | closed _ _ =>
      rfl

end Slot

namespace Sender

/-- What a send through a handle adds to a history, when it is answered. -/
def accepts (sender : Sender) (p : Packet) (answer : SendAnswer) : List Event :=
  match answer, sender.generation with
  | .sent, some g => [.accepted ⟨sender.id, g⟩ p]
  | _, _ => []

theorem accepts_sent
    {sender : Sender} {g : Nat} {p : Packet}
    (hg : sender.generation = some g) :
    sender.accepts p .sent = [.accepted ⟨sender.id, g⟩ p] := by
  simp [accepts, hg]

theorem accepts_of_ne
    (sender : Sender) (p : Packet)
    {answer : SendAnswer}
    (h : answer ≠ .sent) :
    sender.accepts p answer = [] := by
  cases answer with
  | sent =>
      exact absurd rfl h
  | full =>
      rfl
  | closed =>
      rfl

end Sender

namespace Mailboxes

variable {H H' : History} {outer : Receiver → Prop} {s s' : Mailboxes}
variable {change : Option (Receiver × Change)}

/-- Who has a receiver that was given out: a merge, or someone outside of all merges. -/
def Holds (s : Mailboxes) (outer : Receiver → Prop) : Option Nat → Receiver → Prop
  | none, r => outer r
  | some number, r => ∃ m, Registry.find? s.merges number = some m ∧ r ∈ m.receivers

/-- A merge agrees with the history: its tally with the pulls from it, its takes with those from its
channels. An input that it no longer receives from has a closed channel from which everything was
taken. -/
structure Follows (s : Mailboxes) (H : History) (number : Nat) (m : Merge) : Prop where
  inputs : ∀ inputs q, .pulled number inputs q ∈ H → inputs = m.receivers
  nodup : m.receivers.Nodup
  tally : m.Tally (H.pulls number)
  taken : ∀ i r, m.receivers[i]? = some r → H.takenBy number i = H.taken r
  live : ∀ i r, m.receivers[i]? = some r → i ∈ m.live →
    ∃ c, (s.slot r).channel? = some c ∧ c.receiving = true
  gone : ∀ i r, m.receivers[i]? = some r → i ∉ m.live →
    H.accepted r = H.taken r ∧ ∃ c, (s.slot r).channel? = some c ∧ c.receiving = false

/-- The first channel of a mailbox is closed, and no other one had accepted anything before. -/
def Shut (s : Mailboxes) (H : History) (id : MailboxId) : Prop :=
  (∃ c, (s.slot ⟨id, 0⟩).channel? = some c ∧ c.receiving = false) ∧
    H.accepted ⟨id, 0⟩ <+: H.sentTo id

/-- A mailbox that was never released: its first channel is its only one until it is closed, and the
mailbox has its receiver until that is asked for. -/
structure Traced (s : Mailboxes) (H : History) (id : MailboxId) : Prop where
  first : (s.box id).First ∨ s.Shut H id
  unreceived : .asked id ∉ H → (s.box id).Unreceived

/-- What is kept of this by an operation that is not a release. -/
structure Retains (s : Mailboxes) (change : Option (Receiver × Change)) (s' : Mailboxes)
    (H : History) (id : MailboxId) : Prop where
  first : (s.box id).First → (s'.box id).First ∨ ∃ g, change = some (⟨id, g⟩, .closed)
  unreceived : .asked id ∉ H → (s.box id).Unreceived → (s'.box id).Unreceived

theorem Onward.retains
    (h : s.Onward s')
    (id : MailboxId) :
    s.Retains change s' H id :=
  ⟨fun hfirst => Or.inl ((h id).first hfirst), fun _ => (h id).unreceived⟩

theorem retains_openReceiver
    {id : MailboxId}
    (hasked : .asked id ∈ H)
    (other : MailboxId) :
    s.Retains none (s.openReceiver id).2 H other where
  first hfirst := Or.inl (first_openReceiver hfirst)
  unreceived hnot hbefore := by
    have hne : id ≠ other := by
      rintro rfl
      exact hnot hasked
    rw [box_openReceiver, if_neg hne]
    exact hbefore

theorem retains_dropReceiver
    {r : Receiver}
    (hissued : (s.slot r).Issued)
    (id : MailboxId) :
    s.Retains (some (r, .closed)) (s.dropReceiver r) H id := by
  by_cases hid : r.id = id
  · subst hid
    refine ⟨fun _ => Or.inr ⟨r.generation, rfl⟩, fun _ hbefore => ?_⟩
    exact absurd (hbefore.kept hissued.1) hissued.2
  · have hbox : (s.dropReceiver r).box id = s.box id := by
      rw [dropReceiver, box_update, if_neg hid]
    exact ⟨fun hfirst => Or.inl (hbox ▸ hfirst), fun _ hbefore => hbox ▸ hbefore⟩

/-- While a mailbox has one channel, what was sent to the mailbox was sent to this channel. -/
theorem sentTo_of_first
    {id : MailboxId}
    (haccounts : ∀ r, Account (H.accepted r) (H.taken r) (s.slot r))
    (h : (s.box id).First) :
    H.sentTo id = H.accepted ⟨id, 0⟩ := by
  refine History.sentTo_eq_accepted fun g hg => ?_
  refine (haccounts ⟨id, g⟩).absent ?_
  cases hc : (s.slot ⟨id, g⟩).channel? with
  | none =>
      rfl
  | some c =>
      have hzero : g = 0 := h.eq_zero (by
        rw [show (s.box id).channels[g]? = some c from hc]
        simp)
      exact absurd hzero hg

/-- What was sent to the first channel comes first in what was sent to the mailbox. -/
theorem Traced.accepted_prefix
    {id : MailboxId}
    (h : s.Traced H id)
    (haccounts : ∀ r, Account (H.accepted r) (H.taken r) (s.slot r)) :
    H.accepted ⟨id, 0⟩ <+: H.sentTo id := by
  rcases h.first with hfirst | ⟨-, hshut⟩
  · have hsent := sentTo_of_first haccounts hfirst
    exact hsent ▸ List.prefix_refl _
  · exact hshut

theorem Traced.evolve
    {id : MailboxId}
    (h : s.Traced H id)
    (haccounts : ∀ r, Account (H.accepted r) (H.taken r) (s.slot r))
    (hslots : ∀ r, Slot.Becomes (Change.at? change r) (s.slot r) (s'.slot r))
    (hextends : H.Extends change H')
    (hasked : .asked id ∈ H → .asked id ∈ H')
    (hretains : s.Retains change s' H' id) :
    s'.Traced H' id := by
  obtain ⟨more, hsent, hmore⟩ := hextends.sent id
  have haccepted := hextends.accepted ⟨id, 0⟩
  refine ⟨?_, ?_⟩
  · rcases h.first with hfirst | ⟨⟨c, hc, hclosed⟩, hbefore⟩
    · rcases hretains.first hfirst with hfirst' | ⟨g, rfl⟩
      · exact Or.inl hfirst'
      · have hsome : (s.slot ⟨id, g⟩).channel? ≠ none :=
          (hslots ⟨id, g⟩).changed (by simp)
        have hzero : g = 0 := hfirst.eq_zero hsome
        subst hzero
        obtain ⟨c, hc⟩ := Option.ne_none_iff_exists'.1 hsome
        obtain ⟨c', hc', hbecomes⟩ := (hslots ⟨id, 0⟩).channel c hc
        rw [Change.at?_self] at hbecomes haccepted
        refine Or.inr ⟨⟨c', hc', ?_⟩, ?_⟩
        · cases hbecomes with
          | closed _ hreceiving =>
              exact hreceiving
        · rw [haccepted, hsent, hmore (by simp), sentTo_of_first haccounts hfirst]
          simp [Change.accepted]
    · refine Or.inr ⟨(hslots ⟨id, 0⟩).closed hc hclosed, ?_⟩
      rw [haccepted, hsent, (hslots ⟨id, 0⟩).accepted_eq_nil hc hclosed, List.append_nil]
      exact hbefore.trans (List.prefix_append _ _)
  · intro hnot
    exact hretains.unreceived hnot (h.unreceived fun hmem => hnot (hasked hmem))

/-- Mailboxes that agree with a history, where `outer` are the receivers given out to others than
merges. -/
structure Sound (H : History) (outer : Receiver → Prop) (s : Mailboxes) : Prop where
  accounts : ∀ r, Account (H.accepted r) (H.taken r) (s.slot r)
  issued : ∀ holder r, s.Holds outer holder r → (s.slot r).Issued
  unique : ∀ holder holder' r, s.Holds outer holder r → s.Holds outer holder' r → holder = holder'
  below : ∀ number m, Registry.find? s.merges number = some m → number < s.nextMerge
  opened : ∀ number inputs q, .pulled number inputs q ∈ H → number < s.nextMerge
  follows : ∀ number m, Registry.find? s.merges number = some m → s.Follows H number m
  traced : ∀ id, .released id ∉ H → s.Traced H id

theorem SameMerges.find?
    (h : SameMerges s s')
    {number : Nat} {m' : Merge}
    (hfind : Registry.find? s'.merges number = some m') :
    ∃ m, Registry.find? s.merges number = some m ∧ m'.settled = m.settled := by
  have hsettled := h.settled number
  rw [hfind] at hsettled
  obtain ⟨m, hm, heq⟩ := Option.map_eq_some_iff.1 hsettled.symm
  exact ⟨m, hm, heq.symm⟩

theorem SameMerges.holds
    (h : SameMerges s s')
    {holder : Option Nat} {r : Receiver}
    (hholds : s'.Holds outer holder r) :
    s.Holds outer holder r := by
  cases holder with
  | none =>
      exact hholds
  | some number =>
      obtain ⟨m', hm', hmem⟩ := hholds
      obtain ⟨m, hm, heq⟩ := h.find? hm'
      exact ⟨m, hm, Merge.receivers_of_settled heq ▸ hmem⟩

/-- A merge whose receivers are left alone goes on to agree. -/
theorem Follows.frame
    {number : Nat} {m m' : Merge}
    (h : s.Follows H number m)
    (hslots : ∀ r, Slot.Becomes (Change.at? change r) (s.slot r) (s'.slot r))
    (hextends : H.Extends change H')
    (hsettled : m'.settled = m.settled)
    (hpulls : H'.pulls number = H.pulls number)
    (hinputs : ∀ inputs q, .pulled number inputs q ∈ H' → .pulled number inputs q ∈ H)
    (hreceivers : ∀ r ∈ m.receivers, Change.atReceiver (Change.at? change r) = false) :
    s'.Follows H' number m' := by
  have hreceivers' := Merge.receivers_of_settled hsettled
  have hlive := Merge.live_of_settled hsettled
  have htaken : ∀ r ∈ m.receivers, H'.taken r = H.taken r := by
    intro r hr
    rw [hextends.taken r]
    have hatReceiver := hreceivers r hr
    revert hatReceiver
    rcases Change.at? change r with _ | _ | _ | _ <;> simp [Change.atReceiver, Change.taken]
  refine ⟨?_, ?_, ?_, ?_, ?_, ?_⟩
  · intro inputs q hmem
    rw [hreceivers']
    exact h.inputs inputs q (hinputs inputs q hmem)
  · exact hreceivers' ▸ h.nodup
  · rw [hpulls]
    exact h.tally.of_settled hsettled
  · intro i r hr
    rw [hreceivers'] at hr
    rw [htaken r (List.mem_of_getElem? hr), ← h.taken i r hr]
    simp only [History.takenBy, hpulls]
  · intro i r hr hi
    rw [hreceivers'] at hr
    rw [hlive] at hi
    obtain ⟨c, hc, hopen⟩ := h.live i r hr hi
    obtain ⟨c', hc', hreceiving⟩ :=
      (hslots r).receiving (hreceivers r (List.mem_of_getElem? hr)) hc
    exact ⟨c', hc', hreceiving.trans hopen⟩
  · intro i r hr hi
    rw [hreceivers'] at hr
    rw [hlive] at hi
    have hmem := List.mem_of_getElem? hr
    obtain ⟨haccepted, c, hc, hclosed⟩ := h.gone i r hr hi
    obtain ⟨c', hc', hreceiving⟩ := (hslots r).receiving (hreceivers r hmem) hc
    refine ⟨?_, c', hc', hreceiving.trans hclosed⟩
    rw [htaken r hmem, hextends.accepted r, (hslots r).accepted_eq_nil hc hclosed,
      List.append_nil, haccepted]

namespace Sound

/-- What the mailboxes do apart from pulling, when the receivers of the merges are left alone. -/
theorem evolve
    (h : Sound H outer s)
    (he : s.Evolves change s')
    (events : List Event)
    (hextends : H.Extends change (H ++ events))
    (hevents : ∀ e ∈ events, ∀ number, e.pullOf? number = none)
    (hreceiver : ∀ r, Change.atReceiver (Change.at? change r) = true →
      ¬ (s'.slot r).kept ∧ ∀ number, ¬ s.Holds outer (some number) r)
    (hretains : ∀ id, .released id ∉ events → s.Retains change s' (H ++ events) id) :
    Sound (H ++ events) outer s' := by
  have hpulls : ∀ number, History.pulls events number = [] := by
    intro number
    refine List.filterMap_eq_nil_iff.2 ?_
    exact fun e he => hevents e he number
  have hinputs : ∀ number inputs q,
      .pulled number inputs q ∈ H ++ events → .pulled number inputs q ∈ H := by
    intro number inputs q hmem
    rcases List.mem_append.1 hmem with hmem | hmem
    · exact hmem
    · have hnone := hevents _ hmem number
      simp [Event.pullOf?] at hnone
  refine ⟨?_, ?_, ?_, ?_, ?_, ?_, ?_⟩
  · intro r
    rw [hextends.accepted, hextends.taken]
    exact (h.accounts r).becomes (he.slots r) fun hr => (hreceiver r hr).1
  · intro holder r hholds
    exact (he.slots r).issued (h.issued holder r (he.merges.holds hholds))
  · intro holder holder' r hholds hholds'
    exact h.unique holder holder' r (he.merges.holds hholds) (he.merges.holds hholds')
  · intro number m' hm'
    obtain ⟨m, hm, -⟩ := he.merges.find? hm'
    rw [he.merges.next]
    exact h.below number m hm
  · intro number inputs q hmem
    rw [he.merges.next]
    exact h.opened number inputs q (hinputs number inputs q hmem)
  · intro number m' hm'
    obtain ⟨m, hm, hsettled⟩ := he.merges.find? hm'
    refine (h.follows number m hm).frame he.slots hextends hsettled ?_ (hinputs number) ?_
    · rw [History.pulls_append, hpulls, List.append_nil]
    · intro r hr
      rw [Bool.eq_false_iff]
      exact fun hatReceiver => (hreceiver r hatReceiver).2 number ⟨m, hm, hr⟩
  · intro id hreleased
    have hbefore := h.traced id fun hmem => hreleased (List.mem_append_left _ hmem)
    exact hbefore.evolve h.accounts he.slots hextends (List.mem_append_left _)
      (hretains id fun hmem => hreleased (List.mem_append_right _ hmem))

theorem quietly
    (h : Sound H outer s)
    (he : s.Evolves none s')
    (hretains : ∀ id, s.Retains none s' H id) :
    Sound H outer s' := by
  have hextends : H.Extends none (H ++ []) := by
    rw [List.append_nil]
    exact .refl H
  have hsound := h.evolve he [] hextends (by simp) (by simp [Change.atReceiver])
    fun id _ => by simpa using hretains id
  rwa [List.append_nil] at hsound

theorem accept
    {r : Receiver} {p : Packet}
    (h : Sound H outer s)
    (he : s.Evolves (some (r, .pushed p)) s')
    (ho : s.Onward s') :
    Sound (H ++ [.accepted r p]) outer s' := by
  refine h.evolve he _ (History.extends_accepted H r p) ?_ ?_ fun id _ => ho.retains id
  · simp [Event.pullOf?]
  · intro other hother
    by_cases hr : r = other <;> simp [Change.at?, hr, Change.atReceiver] at hother

theorem receive
    {r : Receiver} {p : Packet}
    (h : Sound H outer s)
    (he : s.Evolves (some (r, .took p)) s')
    (ho : s.Onward s')
    (houter : outer r) :
    Sound (H ++ [.received r p]) outer s' := by
  refine h.evolve he _ (History.extends_received H r p) ?_ ?_ fun id _ => ho.retains id
  · simp [Event.pullOf?]
  · intro other hother
    by_cases hr : r = other
    · subst hr
      have hholds : s.Holds outer none r := houter
      refine ⟨((he.slots r).issued (h.issued none r hholds)).2, ?_⟩
      intro number hmerge
      cases h.unique none (some number) r hholds hmerge
    · simp [Change.at?, hr, Change.atReceiver] at hother

/-- Fewer receivers may be looked upon as given out. -/
theorem mono
    {outer' : Receiver → Prop}
    (h : Sound H outer s)
    (houter : ∀ r, outer' r → outer r) :
    Sound H outer' s := by
  have hholds : ∀ holder r, s.Holds outer' holder r → s.Holds outer holder r := by
    intro holder r hholder
    cases holder with
    | none =>
        exact houter r hholder
    | some number =>
        exact hholder
  refine ⟨h.accounts, ?_, ?_, h.below, h.opened, h.follows, h.traced⟩
  · exact fun holder r hr => h.issued holder r (hholds holder r hr)
  · exact fun holder holder' r hr hr' =>
      h.unique holder holder' r (hholds holder r hr) (hholds holder' r hr')

/-! ## Senders -/

theorem send
    (h : Sound H outer s)
    (sender : Sender) (p : Packet) :
    Sound (H ++ sender.accepts p (s.send sender p).1) outer (s.send sender p).2 := by
  have ho := onward_send s sender p
  rcases evolves_send s sender p with ⟨g, hg, hanswer, he⟩ | ⟨hanswer, he⟩
  · rw [hanswer, Sender.accepts_sent hg]
    exact h.accept he ho
  · rw [Sender.accepts_of_ne sender p hanswer, List.append_nil]
    exact h.quietly he ho.retains

theorem sendWaiting
    (h : Sound H outer s)
    (sender : Sender) (p : Packet) :
    Sound (H ++ sender.accepts p (s.sendWaiting sender p).1) outer
      (s.sendWaiting sender p).2.2 := by
  have hcloned := h.quietly (evolves_cloneSender s sender) (onward_cloneSender s sender).retains
  have hsent := hcloned.send sender p
  unfold Mailboxes.sendWaiting
  dsimp only
  split
  · next s' g hsend hg =>
      rw [hsend] at hsent
      exact hsent.quietly (evolves_join s' sender.id g) (onward_join s' sender.id g).retains
  · next hsend _ =>
      rw [hsend] at hsent
      exact hsent.quietly (evolves_dropSender _ sender) (onward_dropSender _ sender).retains

theorem retry
    (h : Sound H outer s)
    (pending : PendingSend) :
    Sound (H ++ pending.sender.accepts pending.packet (s.retry pending).1) outer
      (s.retry pending).2 := by
  have hredeemed : Sound
      (H ++ pending.sender.accepts pending.packet
        (s.update pending.id fun box =>
          box.redeem pending.generation pending.ticket pending.packet).1) outer
      (s.update pending.id fun box =>
        box.redeem pending.generation pending.ticket pending.packet).2 := by
    have ho := onward_redeem s pending.id pending.generation pending.ticket pending.packet
    rcases evolves_redeem s pending.id pending.generation pending.ticket pending.packet with
      ⟨hanswer, he⟩ | ⟨hanswer, he⟩
    · rw [hanswer, Sender.accepts_sent (show pending.sender.generation = some _ from rfl)]
      exact h.accept he ho
    · rw [Sender.accepts_of_ne _ _ hanswer, List.append_nil]
      exact h.quietly he ho.retains
  unfold Mailboxes.retry
  split
  · next hredeem =>
      rw [hredeem] at hredeemed
      exact hredeemed
  · next s' _ hredeem =>
      rw [hredeem] at hredeemed
      exact hredeemed.quietly (evolves_dropSender s' pending.sender)
        (onward_dropSender s' pending.sender).retains

theorem dropPendingSend
    (h : Sound H outer s)
    (pending : PendingSend) :
    Sound H outer (s.dropPendingSend pending) := by
  have hforgotten := h.quietly (evolves_forgetSend s pending.id pending.generation pending.ticket)
    (onward_forgetSend s pending.id pending.generation pending.ticket).retains
  exact hforgotten.quietly (evolves_dropSender _ pending.sender)
    (onward_dropSender _ pending.sender).retains

/-! ## Receivers outside of merges -/

theorem dropReceiver
    {r : Receiver}
    (h : Sound H outer s)
    (houter : outer r) :
    Sound H outer (s.dropReceiver r) := by
  have hholds : s.Holds outer none r := houter
  have hissued := h.issued none r hholds
  have he := evolves_dropReceiver hissued.1
  have hextends : H.Extends (some (r, .closed)) (H ++ []) := by
    rw [List.append_nil]
    exact (History.Extends.refl H).close r
  have hsound := h.evolve he [] hextends (by simp) ?_ fun id _ => retains_dropReceiver hissued id
  · rwa [List.append_nil] at hsound
  · intro other hother
    by_cases hr : r = other
    · subst hr
      refine ⟨((he.slots r).issued hissued).2, fun number hmerge => ?_⟩
      cases h.unique none (some number) r hholds hmerge
    · simp [Change.at?, hr, Change.atReceiver] at hother

theorem release
    (h : Sound H outer s)
    (id : MailboxId) :
    Sound (H ++ [.released id]) outer (s.release id) := by
  have hkept : ∀ r, (s.slot r).kept → (s.slot r).channel? ≠ none := by
    intro r hr
    obtain ⟨-, c, hc, -⟩ := (h.accounts r).kept hr
    simp [hc]
  have hquiet : H.Extends none (H ++ [.released id]) :=
    .of_eq (fun r => by simp [History.accepted, Event.acceptedOn])
      (fun r => by simp [History.taken, Event.takenFrom])
      (fun other => by simp [History.sentTo, Event.sentTo])
  have hretains : ∀ change other, .released other ∉ [Event.released id] →
      s.Retains change (s.release id) (H ++ [.released id]) other := by
    intro change other hother
    have hne : id ≠ other := by
      rintro rfl
      simp at hother
    have hbox : (s.release id).box other = s.box other := by
      rw [Mailboxes.release, box_update, if_neg hne]
    exact ⟨fun hfirst => Or.inl (hbox ▸ hfirst), fun _ hbefore => hbox ▸ hbefore⟩
  rcases evolves_release hkept with he | ⟨r, hr, he, hgone⟩
  · exact h.evolve he _ hquiet (by simp [Event.pullOf?]) (by simp [Change.atReceiver])
      (hretains none)
  · refine h.evolve he _ (hquiet.close r) (by simp [Event.pullOf?]) ?_ (hretains _)
    intro other hother
    by_cases heq : r = other
    · subst heq
      exact ⟨hgone, fun number hholds => (h.issued (some number) r hholds).2 hr⟩
    · simp [Change.at?, heq, Change.atReceiver] at hother

/-- A receiver is going to be asked for. -/
theorem ask
    (h : Sound H outer s)
    (id : MailboxId) :
    Sound (H ++ [.asked id]) outer s := by
  have hextends : H.Extends none (H ++ [.asked id]) :=
    .of_eq (fun r => by simp [History.accepted, Event.acceptedOn])
      (fun r => by simp [History.taken, Event.takenFrom])
      (fun other => by simp [History.sentTo, Event.sentTo])
  have he : s.Evolves none s := ⟨fun _ => .refl _, ⟨fun _ => rfl, rfl⟩⟩
  exact h.evolve he _ hextends (by simp [Event.pullOf?]) (by simp [Change.atReceiver])
    fun other _ => ⟨Or.inl, fun _ hbefore => hbefore⟩

/-- Nobody had the receiver that was just given out. -/
theorem not_holds_of_openReceiver
    {id : MailboxId} {r : Receiver}
    (h : Sound H outer s)
    (hanswer : (s.openReceiver id).1 = .ok r)
    (holder : Option Nat) :
    ¬ s.Holds outer holder r := by
  intro hholds
  obtain ⟨-, hbefore, -⟩ := openReceiver_answer hanswer
  obtain ⟨hsome, hkept⟩ := h.issued holder r hholds
  rcases hbefore with hkept' | ⟨hnone, -⟩
  · exact hkept hkept'
  · exact hsome hnone

/-- A receiver that is given out comes to the others. -/
theorem openReceiver
    {id : MailboxId} {r : Receiver}
    (h : Sound H outer s)
    (hasked : .asked id ∈ H)
    (hanswer : (s.openReceiver id).1 = .ok r) :
    Sound H (fun other => outer other ∨ other = r) (s.openReceiver id).2 := by
  have he := evolves_openReceiver s id
  have hsound := h.quietly he (retains_openReceiver hasked)
  obtain ⟨-, hbefore, hafter⟩ := openReceiver_answer hanswer
  have hunheld := h.not_holds_of_openReceiver hanswer
  have hissued : ((s.openReceiver id).2.slot r).Issued := by
    refine ⟨?_, hafter⟩
    rcases hbefore with hkept | ⟨-, hsome⟩
    · obtain ⟨-, c, hc, -⟩ := (h.accounts r).kept hkept
      exact (he.slots r).channel_ne_none (by simp [hc])
    · exact hsome
  have hholds : ∀ holder other,
      (s.openReceiver id).2.Holds (fun other => outer other ∨ other = r) holder other →
        (s.openReceiver id).2.Holds outer holder other ∨ (holder = none ∧ other = r) := by
    intro holder other hholder
    cases holder with
    | none =>
        rcases hholder with houter | rfl
        · exact Or.inl houter
        · exact Or.inr ⟨rfl, rfl⟩
    | some number =>
        exact Or.inl hholder
  refine ⟨hsound.accounts, ?_, ?_, hsound.below, hsound.opened, hsound.follows,
    hsound.traced⟩
  · intro holder other hholder
    rcases hholds holder other hholder with hheld | ⟨-, rfl⟩
    · exact hsound.issued holder other hheld
    · exact hissued
  · intro holder holder' other hholder hholder'
    rcases hholds holder other hholder with hheld | ⟨rfl, rfl⟩
    · rcases hholds holder' other hholder' with hheld' | ⟨-, rfl⟩
      · exact hsound.unique holder holder' other hheld hheld'
      · exact absurd (he.merges.holds hheld) (hunheld holder)
    · rcases hholds holder' other hholder' with hheld' | ⟨rfl, -⟩
      · exact absurd (he.merges.holds hheld') (hunheld holder')
      · rfl

end Sound
end Mailboxes
end ScatterGather
