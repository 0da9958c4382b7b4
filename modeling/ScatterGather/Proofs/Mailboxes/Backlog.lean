import Mathlib.Algebra.BigOperators.Group.Finset.Basic
import Mathlib.Algebra.Order.BigOperators.Group.Finset
import ScatterGather.Proofs.Mailboxes.Turn
import ScatterGather.Proofs.Registry
import ScatterGather.Session.Drain

/-!
# The backlog of the mailboxes

The packets that are queued in the channels of a process are its backlog. Only a send adds to it,
and only one packet. A packet that a receiver takes is gone from it.

**Results.** `Evolves.backlog_add_le` counts what one operation on a mailbox adds and takes away, and
from it there is one bound for each operation on mailboxes. `backlog_pull_lt`: a pull that passes on
anything but an end makes the backlog smaller.
-/

namespace ScatterGather

namespace Change

theorem sum_at?
    {f : Option Change → Nat} {n g : Nat}
    (hnone : f none = 0)
    (hg : g < n)
    (c : Change) :
    ∑ i ∈ Finset.range n, f (at? (some (g, c)) i) = f (some c) := by
  rw [Finset.sum_eq_single_of_mem g (Finset.mem_range.2 hg), at?_self]
  intro i _ hi
  rw [at?_of_ne hi.symm, hnone]

end Change

namespace Slot

/-- The packets queued in what can be seen of a channel. -/
def queued (a : Slot) : Nat :=
  a.channel?.elim 0 fun c => c.queue.length

theorem Becomes.queued_add_le
    {change : Option Change} {a b : Slot}
    (h : Becomes change a b) :
    b.queued + (Change.taken change).length ≤ a.queued + (Change.accepted change).length := by
  cases ha : a.channel? with
  | none =>
      have hnone : change = none := by
        by_contra hsome
        exact h.changed hsome ha
      have hb : b.queued = 0 := by
        cases hb : b.channel? with
        | none =>
            simp [queued, hb]
        | some c' =>
            simp [queued, hb, (h.fresh ha c' hb).1]
      rw [hnone, hb]
      exact Nat.zero_le _
  | some c =>
      obtain ⟨c', hc', hbecomes⟩ := h.channel c ha
      simp only [queued, ha, hc', Option.elim_some]
      cases hbecomes with
      | stays hqueue _ =>
          rw [hqueue]
          rfl
      | pushed _ _ hqueue =>
          rw [hqueue, List.length_append]
          rfl
      | took _ hqueue =>
          rw [hqueue]
          rfl
      | closed hqueue _ =>
          rw [hqueue]
          exact Nat.zero_le _

end Slot

namespace Mailbox

variable {m m' : Mailbox} {change : Option (Nat × Change)}

theorem length_flatMap_queue
    {channels : List Channel} {n : Nat}
    (hn : channels.length ≤ n) :
    (channels.flatMap Channel.queue).length =
      ∑ g ∈ Finset.range n, channels[g]?.elim 0 fun c => c.queue.length := by
  induction channels generalizing n with
  | nil =>
      simp
  | cons c channels ih =>
      obtain ⟨n, rfl⟩ := Nat.exists_eq_succ_of_ne_zero (Nat.ne_zero_of_lt hn)
      rw [Finset.sum_range_succ', List.flatMap_cons, List.length_append,
        ih (Nat.le_of_succ_le_succ hn)]
      simp [Nat.add_comm]

/-- The backlog of a mailbox is the sum over its generations, and over any number of generations that
it has not had. -/
theorem backlog_eq_sum
    {n : Nat}
    (hn : m.channels.length ≤ n) :
    m.backlog = ∑ g ∈ Finset.range n, (m.slot g).queued :=
  length_flatMap_queue hn

/-- What a change adds to the backlog of a mailbox and takes from it. -/
theorem Evolves.backlog_add_le (h : m.Evolves change m') :
    m'.backlog + (Change.taken (change.map Prod.snd)).length ≤
      m.backlog + (Change.accepted (change.map Prod.snd)).length := by
  obtain ⟨n, hn, hn'⟩ : ∃ n, m.channels.length ≤ n ∧ m'.channels.length ≤ n :=
    ⟨max m.channels.length m'.channels.length, Nat.le_max_left _ _, Nat.le_max_right _ _⟩
  have hslots := Finset.sum_le_sum fun g (_ : g ∈ Finset.range n) => (h g).queued_add_le
  rw [Finset.sum_add_distrib, Finset.sum_add_distrib, ← backlog_eq_sum hn, ← backlog_eq_sum hn']
    at hslots
  cases change with
  | none =>
      simpa [Change.taken, Change.accepted] using hslots
  | some entry =>
      obtain ⟨g, c⟩ := entry
      have hthere : g < m.channels.length := Nat.lt_of_not_le fun hge =>
        (h g).changed (by simp) (List.getElem?_eq_none hge)
      have hg := Nat.lt_of_lt_of_le hthere hn
      rw [Change.sum_at? (f := fun change => (Change.taken change).length) rfl hg,
        Change.sum_at? (f := fun change => (Change.accepted change).length) rfl hg] at hslots
      exact hslots

/-- Nothing is queued by a change of a channel that queues nothing in it. -/
theorem backlog_modify_le
    {f : Channel → Channel}
    (m : Mailbox) (generation : Nat)
    (hf : ∀ c, (f c).queue.length ≤ c.queue.length) :
    (m.modify generation f).backlog ≤ m.backlog := by
  have hlength : (m.modify generation f).channels.length = m.channels.length :=
    List.length_modify ..
  rw [backlog_eq_sum hlength.le, backlog_eq_sum (Nat.le_refl m.channels.length)]
  refine Finset.sum_le_sum fun g _ => ?_
  show ((m.modify generation f).channels[g]?).elim 0 _ ≤ (m.channels[g]?).elim 0 _
  rw [getElem?_modify]
  cases m.channels[g]? with
  | none =>
      exact Nat.le_refl 0
  | some c =>
      by_cases hg : generation = g
      · simpa [hg] using hf c
      · simp [hg]

theorem backlog_dropReceiver_le (m : Mailbox) (generation : Nat) :
    (m.dropReceiver generation).box.backlog ≤ m.backlog := by
  have hclose := backlog_modify_le m generation (f := Channel.close) fun c => Nat.zero_le _
  have hchannels : (m.dropReceiver generation).box.channels =
      (m.modify generation Channel.close).channels := by
    simp only [dropReceiver, modify, channels_forgetIfFinished]
  rw [backlog, hchannels]
  exact hclose

theorem backlog_release_le (m : Mailbox) : m.release.box.backlog ≤ m.backlog := by
  unfold release
  split
  · exact Nat.le_refl _
  · next t _ =>
      refine backlog_modify_le m _ fun c => ?_
      cases t.holdsReceiver with
      | true =>
          exact Nat.zero_le _
      | false =>
          cases t.holdsSender <;> exact Nat.le_refl _

end Mailbox

namespace Mailboxes

variable {s s' : Mailboxes}

/-- The packets queued in all channels of a process. -/
def backlog (s : Mailboxes) : Nat :=
  Registry.total Mailbox.backlog s.boxes

theorem backlog_wake (s : Mailboxes) (woken : Option Watcher) :
    (s.wake woken).backlog = s.backlog := by
  unfold wake
  split
  · rfl
  · split <;> rfl

theorem backlog_update
    {α : Type} (s : Mailboxes) (id : MailboxId) (f : Mailbox → Mailbox.Outcome α) :
    (s.update id f).2.backlog + (s.box id).backlog =
      s.backlog + (f (s.box id)).box.backlog := by
  unfold update
  rw [backlog_wake]
  cases hfind : Registry.find? s.boxes id with
  | none =>
      have hfresh : (s.box id).backlog = 0 := by
        rw [box, hfind]
        rfl
      rw [hfresh]
      exact Registry.total_set_of_find?_eq_none hfind _
  | some box =>
      have hbox : s.box id = box := by
        rw [Mailboxes.box, hfind]
        rfl
      rw [hbox]
      exact Registry.total_set_of_find? hfind _

/-- An operation adds no more to the backlog of all mailboxes than to that of its own. -/
theorem backlog_update_le
    {α : Type} {id : MailboxId} {f : Mailbox → Mailbox.Outcome α}
    (h : (f (s.box id)).box.backlog ≤ (s.box id).backlog) :
    (s.update id f).2.backlog ≤ s.backlog := by
  have hupdate := s.backlog_update id f
  omega

section Evolving

variable {α : Type} {id : MailboxId} {f : Mailbox → Mailbox.Outcome α} {g : Nat} {p : Packet}

theorem backlog_le_of_quiet (h : (s.box id).Evolves none (f (s.box id)).box) :
    (s.update id f).2.backlog ≤ s.backlog :=
  backlog_update_le h.backlog_add_le

theorem backlog_le_of_pushed
    (h : (s.box id).Evolves (some (g, .pushed p)) (f (s.box id)).box) :
    (s.update id f).2.backlog ≤ s.backlog + 1 := by
  have hupdate := s.backlog_update id f
  have hbox : (f (s.box id)).box.backlog ≤ (s.box id).backlog + 1 := h.backlog_add_le
  omega

theorem backlog_lt_of_took
    (h : (s.box id).Evolves (some (g, .took p)) (f (s.box id)).box) :
    (s.update id f).2.backlog < s.backlog := by
  have hupdate := s.backlog_update id f
  have hbox : (f (s.box id)).box.backlog + 1 ≤ (s.box id).backlog := h.backlog_add_le
  omega

end Evolving

/-! ## The operations -/

theorem backlog_openSender_le (s : Mailboxes) (id : MailboxId) :
    (s.openSender id).2.backlog ≤ s.backlog :=
  backlog_le_of_quiet (f := fun box => box.openSender s.capacity)
    (Mailbox.evolves_openSender _ _)

theorem backlog_openReceiver_le (s : Mailboxes) (id : MailboxId) :
    (s.openReceiver id).2.backlog ≤ s.backlog := by
  rw [openReceiver_eq]
  exact backlog_le_of_quiet (f := fun box => box.openReceiver s.capacity)
    (Mailbox.evolves_openReceiver _ _)

theorem backlog_cloneSender_le (s : Mailboxes) (h : Sender) :
    (s.cloneSender h).backlog ≤ s.backlog :=
  backlog_le_of_quiet (Mailbox.evolves_cloneSender _ _)

theorem backlog_dropSender_le (s : Mailboxes) (h : Sender) :
    (s.dropSender h).backlog ≤ s.backlog :=
  backlog_le_of_quiet (Mailbox.evolves_dropSender _ _)

theorem backlog_dropReceiver_le (s : Mailboxes) (r : Receiver) :
    (s.dropReceiver r).backlog ≤ s.backlog :=
  backlog_update_le (Mailbox.backlog_dropReceiver_le _ _)

theorem backlog_release_le (s : Mailboxes) (id : MailboxId) :
    (s.release id).backlog ≤ s.backlog :=
  backlog_update_le (Mailbox.backlog_release_le _)

/-- A send adds one packet at most. -/
theorem backlog_send_le (s : Mailboxes) (h : Sender) (p : Packet) :
    (s.send h p).2.backlog ≤ s.backlog + 1 := by
  rcases Mailbox.evolves_offer (s.box h.id) h.generation p with ⟨g, -, -, hevolves⟩ | ⟨-, hevolves⟩
  · exact backlog_le_of_pushed hevolves
  · exact Nat.le_succ_of_le (backlog_le_of_quiet hevolves)

theorem backlog_join_le (s : Mailboxes) (id : MailboxId) (generation : Nat) :
    (s.update id fun box => box.join generation).2.backlog ≤ s.backlog :=
  backlog_le_of_quiet (Mailbox.evolves_join _ _)

theorem backlog_sendWaiting_le (s : Mailboxes) (h : Sender) (p : Packet) :
    (s.sendWaiting h p).2.2.backlog ≤ s.backlog + 1 := by
  have hsend : ((s.cloneSender h).send h p).2.backlog ≤ s.backlog + 1 :=
    (backlog_send_le _ h p).trans (Nat.succ_le_succ (s.backlog_cloneSender_le h))
  unfold sendWaiting
  dsimp only
  generalize (s.cloneSender h).send h p = sent at hsend ⊢
  obtain ⟨answer, s'⟩ := sent
  split
  · next heq _ =>
      cases heq
      exact (s'.backlog_join_le h.id _).trans hsend
  · next heq _ =>
      cases heq
      exact (s'.backlog_dropSender_le h).trans hsend

theorem backlog_retry_le (s : Mailboxes) (h : PendingSend) :
    (s.retry h).2.backlog ≤ s.backlog + 1 := by
  have hredeem : (s.update h.id fun box =>
      box.redeem h.generation h.ticket h.packet).2.backlog ≤ s.backlog + 1 := by
    rcases Mailbox.evolves_redeem (s.box h.id) h.generation h.ticket h.packet with
      ⟨-, hevolves⟩ | ⟨-, hevolves⟩
    · exact backlog_le_of_pushed hevolves
    · exact Nat.le_succ_of_le (backlog_le_of_quiet hevolves)
  unfold retry
  generalize (s.update h.id fun box => box.redeem h.generation h.ticket h.packet) = redeemed
    at hredeem ⊢
  obtain ⟨answer, s'⟩ := redeemed
  split
  · next heq =>
      cases heq
      exact hredeem
  · next heq =>
      cases heq
      exact (s'.backlog_dropSender_le h.sender).trans hredeem

theorem backlog_dropPendingSend_le (s : Mailboxes) (h : PendingSend) :
    (s.dropPendingSend h).backlog ≤ s.backlog :=
  (backlog_dropSender_le _ _).trans
    (backlog_le_of_quiet (Mailbox.evolves_forgetSend _ _ _))

theorem backlog_receive_le (s : Mailboxes) (r : Receiver) (watcher : Option Watcher) :
    (s.receive r watcher).2.backlog ≤ s.backlog := by
  rcases Mailbox.evolves_receive (s.box r.id) r.generation watcher with
    ⟨p, -, hevolves⟩ | ⟨-, hevolves⟩
  · exact (backlog_lt_of_took hevolves).le
  · exact backlog_le_of_quiet hevolves

/-- A packet that was taken is gone. -/
theorem backlog_receive_lt
    {r : Receiver} {watcher : Option Watcher} {p : Packet}
    (h : (s.receive r watcher).1 = .packet p) :
    (s.receive r watcher).2.backlog < s.backlog := by
  rcases Mailbox.evolves_receive (s.box r.id) r.generation watcher with
    ⟨p', -, hevolves⟩ | ⟨hanswer, -⟩
  · exact backlog_lt_of_took hevolves
  · exact absurd h (hanswer p)

/-! ## Merges -/

theorem backlog_dropReceivers_le (s : Mailboxes) (receivers : List Receiver) :
    (receivers.foldl dropReceiver s).backlog ≤ s.backlog := by
  induction receivers generalizing s with
  | nil =>
      exact Nat.le_refl _
  | cons r receivers ih =>
      exact (ih (s.dropReceiver r)).trans (s.backlog_dropReceiver_le r)

theorem backlog_openReceivers_le (s : Mailboxes) (opened : List Receiver) (ids : List MailboxId) :
    (s.openReceivers opened ids).2.backlog ≤ s.backlog := by
  induction ids generalizing s opened with
  | nil =>
      exact Nat.le_refl _
  | cons id ids ih =>
      have hopen := s.backlog_openReceiver_le id
      unfold openReceivers
      generalize s.openReceiver id = answered at hopen ⊢
      obtain ⟨answer, s'⟩ := answered
      cases answer with
      | ok r =>
          exact (ih s' (opened ++ [r])).trans hopen
      | error fault =>
          exact (s'.backlog_dropReceivers_le opened).trans hopen

theorem backlog_openMerge_le (s : Mailboxes) (request : MergeRequest) :
    (s.openMerge request).2.backlog ≤ s.backlog := by
  unfold openMerge
  split
  · exact Nat.le_refl _
  · next senders _ =>
      have hopen := s.backlog_openReceivers_le [] (senders.map request.idOf)
      generalize s.openReceivers [] (senders.map request.idOf) = opened at hopen ⊢
      obtain ⟨answer, s'⟩ := opened
      cases answer <;> exact hopen

theorem backlog_dropMerge_le (s : Mailboxes) (number : Nat) :
    (s.dropMerge number).backlog ≤ s.backlog := by
  unfold dropMerge
  split
  · exact backlog_dropReceivers_le s _
  · exact Nat.le_refl _

theorem backlog_dropHandle_le (s : Mailboxes) (h : Handle) :
    (s.dropHandle h).backlog ≤ s.backlog := by
  cases h with
  | sender h =>
      exact s.backlog_dropSender_le h
  | pendingSend h =>
      exact s.backlog_dropPendingSend_le h
  | receiver r =>
      exact s.backlog_dropReceiver_le r
  | merge number =>
      exact s.backlog_dropMerge_le number

/-! ## Pulls -/

/-- Asking an input adds nothing, and a packet that is passed on is gone, unless it is an end. -/
theorem Asks.backlog_le
    {number i : Nat} {m : Merge} {r : Receiver} {finding : Finding} {turn : Turn}
    (h : s.Asks number i m r (finding, turn, s')) :
    s'.backlog ≤ s.backlog ∧
      ∀ p, turn = .passes p → p.isEnd = false → s'.backlog < s.backlog := by
  cases h with
  | took p taken hreceive =>
      have hlt : taken.backlog < s.backlog := by
        have htaken := backlog_receive_lt (congrArg Prod.fst hreceive)
        rwa [hreceive] at htaken
      exact ⟨hlt.le, fun _ _ _ => hlt⟩
  | ended left hreceive =>
      have hle : (left.dropReceiver r).backlog ≤ s.backlog := by
        have hleft := s.backlog_receive_le r (some ⟨number, i⟩)
        rw [hreceive] at hleft
        exact (left.backlog_dropReceiver_le r).trans hleft
      refine ⟨hle, fun p hp hend => ?_⟩
      split at hp
      · cases hp
      · cases hp
        cases hend
  | nothing left hreceive =>
      have hle := s.backlog_receive_le r (some ⟨number, i⟩)
      rw [hreceive] at hle
      exact ⟨hle, fun p hp => by cases hp⟩

theorem Turns.backlog_le
    {number : Nat} {m : Merge} {findings : List Finding} {turn : Turn}
    (h : s.Turns number m (findings, turn, s')) :
    s'.backlog ≤ s.backlog ∧
      ∀ p, turn = .passes p → p.isEnd = false → s'.backlog < s.backlog := by
  cases h with
  | cleanEnd _ =>
      refine ⟨Nat.le_refl _, fun p hp hend => ?_⟩
      cases hp
      cases hend
  | idle _ =>
      exact ⟨Nat.le_refl _, fun p hp => by cases hp⟩
  | skip _ _ _ _ _ =>
      exact ⟨Nat.le_refl _, fun p hp => by cases hp⟩
  | asks i ready r finding _ _ _ _ _ hasks =>
      exact hasks.backlog_le

/-- **A pull.** It adds nothing to what is queued, and a packet that is passed on is gone, unless it
is an end. -/
theorem backlog_pullWithin_le (s : Mailboxes) (number turns : Nat) :
    (s.pullWithin number turns).mailboxes.backlog ≤ s.backlog ∧
      ∀ p, (s.pullWithin number turns).packet = some p → p.isEnd = false →
        (s.pullWithin number turns).mailboxes.backlog < s.backlog := by
  induction turns generalizing s with
  | zero =>
      exact ⟨Nat.le_refl _, fun p hp => by cases hp⟩
  | succ turns ih =>
      unfold pullWithin
      cases Registry.find? s.merges number with
      | none =>
          exact ⟨Nat.le_refl _, fun p hp => by cases hp⟩
      | some m =>
          have hturn := turns_turn s number m
          dsimp only
          generalize s.turn number m = turned at hturn ⊢
          obtain ⟨findings, turn, s'⟩ := turned
          obtain ⟨hle, hlt⟩ := hturn.backlog_le
          cases turn with
          | passes p =>
              refine ⟨hle, fun p' hp' hend => ?_⟩
              cases hp'
              exact hlt p rfl hend
          | idle =>
              exact ⟨hle, fun p hp => by cases hp⟩
          | again =>
              obtain ⟨hle', hlt'⟩ := ih s'
              exact ⟨hle'.trans hle, fun p hp hend => (hlt' p hp hend).trans_le hle⟩

theorem backlog_pull_le (s : Mailboxes) (number : Nat) :
    (s.pull number).mailboxes.backlog ≤ s.backlog := by
  unfold pull
  split
  · exact (s.backlog_pullWithin_le number _).1
  · exact Nat.le_refl _

theorem backlog_pull_lt
    {number : Nat} {p : Packet}
    (h : (s.pull number).packet = some p)
    (hend : p.isEnd = false) :
    (s.pull number).mailboxes.backlog < s.backlog := by
  unfold pull at h ⊢
  split
  · next m hm =>
      rw [hm] at h
      exact (s.backlog_pullWithin_le number _).2 p h hend
  · next hnone =>
      rw [hnone] at h
      cases h

end Mailboxes
end ScatterGather
