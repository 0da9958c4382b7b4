import ScatterGather.Proofs.Mailbox.Slots
import ScatterGather.Proofs.Mailboxes.Apart

/-!
# The slots of all channels

**Results.** Every operation on the mailboxes of a process, and everything that a merge does to
them, keeps account of the slots of all channels: sends wait only while no slot is free, and what
becomes free goes to the send that has waited longest. How a send is answered, what a receiver
takes, and what becomes of a channel when a waiting send is given up, follow from the channel.
-/

namespace ScatterGather

/-- One if a waiting send has this ticket on the channel of a receiver, and nothing otherwise. -/
def PendingSend.waitsOn (pending : PendingSend) (r : Receiver) (t : Nat) : Nat :=
  if pending.sender = r.sender ∧ pending.ticket = t then 1 else 0

theorem PendingSend.waitsOn_mk (pending : PendingSend) (g t : Nat) :
    pending.waitsOn ⟨pending.id, g⟩ t =
      if pending.generation = g ∧ pending.ticket = t then 1 else 0 := by
  simp [waitsOn, sender, Receiver.sender]

theorem PendingSend.waitsOn_of_ne
    {pending : PendingSend} {r : Receiver}
    (hne : pending.id ≠ r.id)
    (t : Nat) :
    pending.waitsOn r t = 0 :=
  if_neg fun hboth => hne (congrArg Sender.id hboth.1)

namespace Mailbox

variable {m : Mailbox} {g ticket : Nat} {c : Channel} {p : Packet}

theorem answer_offer
    (hc : m.channels[g]? = some c)
    (p : Packet) :
    (m.offer (some g) p).answer = c.admission := by
  unfold offer
  rw [Option.bind_some, hc]
  dsimp only [Option.map_some]
  split
  · next hadmission => exact hadmission.symm
  · rfl

/-- A send that finds its channel full leaves it as it is. -/
theorem offer_of_full
    {generation : Option Nat}
    (hanswer : (m.offer generation p).answer = .full) :
    (∃ g c, generation = some g ∧ m.channels[g]? = some c ∧ c.admission = .full) ∧
      (m.offer generation p).box = m := by
  unfold offer at hanswer ⊢
  split at hanswer
  · cases hanswer
  · next g c hfound =>
      obtain ⟨rfl, hc⟩ := channel_of_bind hfound
      split at hanswer
      · cases hanswer
      · exact ⟨⟨g, c, rfl, hc, hanswer⟩, rfl⟩

theorem answer_redeem
    (hc : m.channels[g]? = some c)
    (ticket : Nat) (p : Packet) :
    (m.redeem g ticket p).answer = c.redemption ticket := by
  unfold redeem
  rw [hc]
  dsimp only
  split
  · next hredemption => exact hredemption.symm
  · rfl

theorem receive_of_packet
    {watcher : Option Watcher}
    (hc : m.channels[g]? = some c)
    (hanswer : (m.receive g watcher).answer = .packet p) :
    c.reception = .packet p ∧ (m.receive g watcher).box = m.modify g Channel.take := by
  revert hanswer
  unfold receive
  rw [hc]
  dsimp only
  split
  · next hreception =>
      rintro ⟨⟩
      exact ⟨hreception, rfl⟩
  · rintro ⟨⟩
  · rintro ⟨⟩

theorem channel_dropSender (hc : m.channels[g]? = some c) :
    (m.dropSender (some g)).box.channels[g]? = some c.dropSender := by
  unfold dropSender
  rw [Option.bind_some, hc]
  dsimp only [Option.map_some]
  rw [channels_forgetIfFinished]
  exact getElem?_modify_self hc Channel.dropSender

end Mailbox

namespace Mailboxes

/-- All channels have this size, `waits r t` sends wait on the channel of a receiver with the ticket
`t`, and the receivers that are `gone` were dropped. -/
structure Slots (size : Nat) (waits : Receiver → Nat → Nat) (gone : Receiver → Prop)
    (s : Mailboxes) : Prop where
  capacity : s.capacity = size
  boxes : ∀ id, (s.box id).Slots size (fun g => waits ⟨id, g⟩) fun g => gone ⟨id, g⟩

variable {size : Nat} {waits waits' : Receiver → Nat → Nat} {gone given used : Receiver → Prop}
variable {s s' : Mailboxes} {r : Receiver} {c : Channel} {p : Packet} {pending : PendingSend}

theorem slots_create (host : String) (mailboxPort : UInt16) (capacity : Nat) :
    (Mailboxes.create host mailboxPort capacity).Slots (max capacity 1) (fun _ _ => 0)
      fun _ => False where
  capacity := rfl
  boxes _ := .fresh _

namespace Slots

theorem fits
    (h : s.Slots size waits gone)
    (hc : (s.slot r).channel? = some c) :
    c.Fits size (waits r) (gone r) :=
  (h.boxes r.id).fits r.generation c hc

/-- A receiver that was dropped has a closed channel. -/
theorem closed
    (h : s.Slots size waits gone)
    (hgone : gone r) :
    ∃ c, (s.slot r).channel? = some c ∧ c.receiving = false := by
  cases hc : (s.slot r).channel? with
  | none =>
      exact absurd hgone ((h.boxes r.id).unborn r.generation hc).2
  | some c =>
      exact ⟨c, rfl, (h.fits hc).dropped hgone⟩

/-- Receivers whose channels are closed may be noted as dropped. -/
theorem note
    {gone' : Receiver → Prop}
    (h : s.Slots size waits gone)
    (hgone : ∀ r, gone' r → ∃ c, (s.slot r).channel? = some c ∧ c.receiving = false) :
    s.Slots size waits gone' := by
  refine ⟨h.capacity, fun id => ⟨fun g c hc => ?_, fun g hg => ?_⟩⟩
  · have hfits := (h.boxes id).fits g c hc
    refine ⟨hfits.capacity, hfits.bound, hfits.full, hfits.ordered, hfits.below, hfits.closed, ?_,
      hfits.held⟩
    intro hgone'
    obtain ⟨c', hc', hclosed⟩ := hgone ⟨id, g⟩ hgone'
    cases hc.symm.trans hc'
    exact hclosed
  · refine ⟨((h.boxes id).unborn g hg).1, fun hgone' => ?_⟩
    obtain ⟨c', hc', -⟩ := hgone ⟨id, g⟩ hgone'
    cases hg.symm.trans hc'

/-- An operation on one mailbox, by which no more and no fewer sends wait on the others. -/
theorem exchange
    {α : Type} {id : MailboxId} {f : Mailbox → Mailbox.Outcome α}
    (h : s.Slots size waits gone)
    (hf : (f (s.box id)).box.Slots size (fun g => waits' ⟨id, g⟩) fun g => gone ⟨id, g⟩)
    (hother : ∀ r, id ≠ r.id → waits' r = waits r) :
    (s.update id f).2.Slots size waits' gone := by
  refine ⟨(capacity_update s id f).trans h.capacity, fun other => ?_⟩
  rw [box_update]
  split
  · next heq =>
      subst heq
      exact hf
  · next hne =>
      have hsame : (fun g => waits' ⟨other, g⟩) = fun g => waits ⟨other, g⟩ :=
        funext fun g => hother ⟨other, g⟩ hne
      rw [hsame]
      exact h.boxes other

/-- An operation by which no more and no fewer sends wait. -/
theorem update
    {α : Type} {id : MailboxId} {f : Mailbox → Mailbox.Outcome α}
    (h : s.Slots size waits gone)
    (hf : (f (s.box id)).box.Slots size (fun g => waits ⟨id, g⟩) fun g => gone ⟨id, g⟩) :
    (s.update id f).2.Slots size waits gone :=
  h.exchange hf fun _ _ => rfl

/-! ## Senders -/

theorem openSender
    (h : s.Slots size waits gone)
    (id : MailboxId) :
    (s.openSender id).2.Slots size waits gone := by
  refine h.update (f := fun box => box.openSender s.capacity) ?_
  rw [h.capacity]
  exact (h.boxes id).openSender

theorem cloneSender
    (h : s.Slots size waits gone)
    (sender : Sender) :
    (s.cloneSender sender).Slots size waits gone :=
  h.update ((h.boxes sender.id).cloneSender sender.generation)

theorem dropSender
    (h : s.Slots size waits gone)
    (sender : Sender) :
    (s.dropSender sender).Slots size waits gone :=
  h.update ((h.boxes sender.id).dropSender sender.generation)

theorem send
    (h : s.Slots size waits gone)
    (sender : Sender) (p : Packet) :
    (s.send sender p).2.Slots size waits gone :=
  h.update ((h.boxes sender.id).offer sender.generation p)

/-- A send that waits has found its channel full. -/
theorem sendWaiting
    (h : s.Slots size waits gone)
    (sender : Sender) (p : Packet) :
    (s.sendWaiting sender p).2.2.Slots size
      (fun r t => waits r t + (s.sendWaiting sender p).2.1.elim 0 (PendingSend.waitsOn · r t))
      gone := by
  have hsent := (h.cloneSender sender).send sender p
  unfold Mailboxes.sendWaiting
  dsimp only
  split
  · next s' g hsend hg =>
      have hanswer : (((s.cloneSender sender).box sender.id).offer sender.generation p).answer =
          .full := congrArg Prod.fst hsend
      obtain ⟨⟨g', c, hg', hc, hadmission⟩, hbox⟩ := Mailbox.offer_of_full hanswer
      cases hg.symm.trans hg'
      have hsame : s'.box sender.id = (s.cloneSender sender).box sender.id := by
        have hafter : ((s.cloneSender sender).send sender p).2 = s' := congrArg Prod.snd hsend
        rw [← hbox, ← hafter]
        exact (box_update _ _ _ _).trans (if_pos rfl)
      rw [hsend] at hsent
      refine exchange hsent (f := fun box => box.join g) ?_ fun r hne => ?_
      · refine (hsent.boxes sender.id).join (hsame ▸ hc) hadmission fun g' t => ?_
        exact congrArg _ (PendingSend.waitsOn_mk _ g' t)
      · funext t
        exact congrArg _ (PendingSend.waitsOn_of_ne hne t)
  · next s' answer hsend _ =>
      rw [hsend] at hsent
      exact hsent.dropSender sender

/-- A waiting send that is tried in vain goes on waiting. -/
theorem retry_of_full
    (h : s.Slots size waits gone)
    (hanswer : (s.retry pending).1 = .full) :
    (s.retry pending).2.Slots size waits gone := by
  rw [retry_eq_afterRetry] at hanswer ⊢
  rw [afterRetry_fst] at hanswer
  rw [hanswer]
  refine h.update (f := fun box => box.redeem pending.generation pending.ticket pending.packet) ?_
  exact (h.boxes pending.id).redeem_of_full hanswer

/-- A waiting send that is sent, or refused, waits no longer. -/
theorem retry
    (h : s.Slots size waits gone)
    (hwaits : ∀ r t, waits r t = waits' r t + pending.waitsOn r t)
    (hanswer : (s.retry pending).1 ≠ .full) :
    (s.retry pending).2.Slots size waits' gone := by
  rw [retry_eq_afterRetry] at hanswer ⊢
  rw [afterRetry_fst] at hanswer
  rw [afterRetry_of_ne hanswer]
  refine dropSender ?_ pending.sender
  refine h.exchange (f := fun box => box.redeem pending.generation pending.ticket pending.packet)
    ?_ fun r hne => ?_
  · refine (h.boxes pending.id).redeem (fun g t => ?_) hanswer
    rw [hwaits, PendingSend.waitsOn_mk]
  · funext t
    rw [hwaits, PendingSend.waitsOn_of_ne hne, Nat.add_zero]

theorem dropPendingSend
    (h : s.Slots size waits gone)
    (hwaits : ∀ r t, waits r t = waits' r t + pending.waitsOn r t) :
    (s.dropPendingSend pending).Slots size waits' gone := by
  refine dropSender ?_ pending.sender
  refine h.exchange (f := fun box => box.forgetSend pending.generation pending.ticket)
    ?_ fun r hne => ?_
  · refine (h.boxes pending.id).forgetSend fun g t => ?_
    rw [hwaits, PendingSend.waitsOn_mk]
  · funext t
    rw [hwaits, PendingSend.waitsOn_of_ne hne, Nat.add_zero]

/-! ## Receivers -/

theorem openReceiver
    (h : s.Slots size waits gone)
    (id : MailboxId) :
    (s.openReceiver id).2.Slots size waits gone := by
  rw [openReceiver_eq]
  refine h.update (f := fun box => box.openReceiver s.capacity) ?_
  rw [h.capacity]
  exact (h.boxes id).openReceiver

theorem receive
    (h : s.Slots size waits gone)
    (r : Receiver) (watcher : Option Watcher) :
    (s.receive r watcher).2.Slots size waits gone :=
  h.update ((h.boxes r.id).receive r.generation watcher)

theorem dropReceiver
    (h : s.Slots size waits gone)
    (r : Receiver) :
    (s.dropReceiver r).Slots size waits gone :=
  h.update ((h.boxes r.id).dropReceiver r.generation)

theorem release
    (h : s.Slots size waits gone)
    (id : MailboxId) :
    (s.release id).Slots size waits gone :=
  h.update (h.boxes id).release

theorem dropReceivers
    (h : s.Slots size waits gone)
    (receivers : List Receiver) :
    (receivers.foldl Mailboxes.dropReceiver s).Slots size waits gone := by
  induction receivers generalizing s with
  | nil =>
      exact h
  | cons r rest ih =>
      exact ih (h.dropReceiver r)

theorem dropMerge
    (h : s.Slots size waits gone)
    (number : Nat) :
    (s.dropMerge number).Slots size waits gone := by
  unfold Mailboxes.dropMerge
  split
  · next m _ =>
      have hdropped := h.dropReceivers (m.live.filterMap fun input => m.receivers[input]?)
      exact ⟨hdropped.capacity, hdropped.boxes⟩
  · exact h

/-- Nothing that a merge does makes sends wait, or wait no longer. -/
theorem serves
    (h : s.Slots size waits gone)
    (hserves : Serves given used s s') :
    s'.Slots size waits gone := by
  induction hserves with
  | refl =>
      exact h
  | openReceiver _ id _ ih =>
      exact ih.openReceiver id
  | receive _ _ watcher ih =>
      exact ih.receive _ watcher
  | dropReceiver _ _ _ _ ih =>
      exact ih.dropReceiver _
  | remerge _ merges nextMerge ih =>
      exact ⟨ih.capacity, ih.boxes⟩

end Slots

/-! ## One channel -/

theorem channel_update_self
    {α : Type} (s : Mailboxes) (r : Receiver) (f : Mailbox → Mailbox.Outcome α) :
    ((s.update r.id f).2.slot r).channel? = (f (s.box r.id)).box.channels[r.generation]? := by
  unfold slot
  rw [box_update, if_pos rfl]
  rfl

theorem channel_dropReceiver (hc : (s.slot r).channel? = some c) :
    ((s.dropReceiver r).slot r).channel? = some c.close := by
  refine (channel_update_self s r fun box => box.dropReceiver r.generation).trans ?_
  refine Mailbox.getElem?_modify_self ?_ Channel.close
  rw [Mailbox.channels_forgetIfFinished]
  exact hc

theorem channel_release
    (hc : (s.slot r).channel? = some c)
    (hkeeps : (s.box r.id).Keeps r.generation) :
    ∃ c', ((s.release r.id).slot r).channel? = some c' ∧ c'.receiving = false := by
  obtain ⟨t, ht, hgeneration, hholds⟩ := hkeeps
  have hafter := channel_update_self s r Mailbox.release
  unfold Mailbox.release at hafter
  rw [ht] at hafter
  simp only [hgeneration, hholds, if_true] at hafter
  exact ⟨_, hafter.trans (Mailbox.getElem?_modify_self hc _), rfl⟩

namespace Slots

/-- A channel that is closed stays so while receivers are dropped. -/
theorem closed_dropReceivers
    {receivers : List Receiver}
    (h : s.Slots size waits gone)
    (hc : (s.slot r).channel? = some c)
    (hr : r ∈ receivers) :
    ∃ c', ((receivers.foldl Mailboxes.dropReceiver s).slot r).channel? = some c' ∧
      c'.receiving = false := by
  induction receivers generalizing s with
  | nil =>
      cases hr
  | cons first rest ih =>
      by_cases heq : first = r
      · subst heq
        have hnoted : (s.dropReceiver first).Slots size waits (· = first) := by
          refine (h.dropReceiver first).note fun other hother => ?_
          subst hother
          exact ⟨c.close, channel_dropReceiver hc, rfl⟩
        exact (hnoted.dropReceivers rest).closed rfl
      · refine ih (h.dropReceiver first) ?_ ((List.mem_cons.1 hr).resolve_left (Ne.symm heq))
        rw [channel_dropReceiver_of_ne heq]
        exact hc

/-- A receive that finds a packet takes it, and its slot is handed on. -/
theorem handsOn_receive
    (h : s.Slots size waits gone)
    (watcher : Option Watcher)
    (hc : (s.slot r).channel? = some c)
    (hanswer : (s.receive r watcher).1 = .packet p) :
    ∃ c', ((s.receive r watcher).2.slot r).channel? = some c' ∧ c.queue = p :: c'.queue ∧
      c.HandsOn c.granted c' := by
  obtain ⟨hreception, hbox⟩ := Mailbox.receive_of_packet hc hanswer
  obtain ⟨rest, hqueue⟩ := Channel.queue_of_reception hreception
  refine ⟨c.take, ?_, (h.fits hc).handsOn_take hqueue⟩
  refine (channel_update_self s r fun box => box.receive r.generation watcher).trans ?_
  rw [hbox]
  exact Mailbox.getElem?_modify_self hc Channel.take

/-- A waiting send with a reserved slot is given up, and its slot is handed on. -/
theorem handsOn_dropPendingSend
    (h : s.Slots size waits gone)
    (hc : (s.slot r).channel? = some c)
    (hpending : pending.sender = r.sender)
    (hticket : pending.ticket ∈ c.granted) :
    ∃ c', ((s.dropPendingSend pending).slot r).channel? = some c' ∧ c'.queue = c.queue ∧
      c.HandsOn (c.granted.erase pending.ticket) c' := by
  obtain ⟨id, generation, ticket, p⟩ := pending
  obtain ⟨rid, g⟩ := r
  cases hpending
  obtain ⟨hqueue, hhands⟩ := (h.fits hc).handsOn_forget hticket
  refine ⟨(c.forget ticket).dropSender, ?_, hqueue, hhands.granted, hhands.waiting⟩
  let forgotten := s.update id fun box => box.forgetSend generation ticket
  have hforgotten : (forgotten.2.slot ⟨id, generation⟩).channel? = some (c.forget ticket) :=
    (channel_update_self s ⟨id, generation⟩ _).trans (Mailbox.getElem?_modify_self hc _)
  refine (channel_update_self forgotten.2 ⟨id, generation⟩ _).trans ?_
  exact Mailbox.channel_dropSender hforgotten

/-- So it is when a merge takes the packet in one of its turns. -/
theorem handsOn_turn
    {number i : Nat} {m : Merge}
    (h : s.Slots size waits gone)
    (hc : (s.slot r).channel? = some c)
    (hr : m.receivers[i]? = some r)
    (htook : .took i p ∈ (s.turn number m).1) :
    ∃ c', ((s.turn number m).2.2.slot r).channel? = some c' ∧ c.queue = p :: c'.queue ∧
      c.HandsOn c.granted c' := by
  have hturns := turns_turn s number m
  generalize s.turn number m = answer at hturns htook ⊢
  cases hturns with
  | asks input ready asked finding turn s' _ _ hasked hasks =>
      have hreceived := h.handsOn_receive (p := p) (some ⟨number, input⟩) hc
      cases List.mem_singleton.1 htook
      cases hasks with
      | took p s₁ hreceive =>
          cases hasked.symm.trans hr
          rw [hreceive] at hreceived
          exact hreceived rfl
  | _ =>
      cases htook

end Slots

/-! ## Answers -/

theorem answer_send
    (hc : (s.slot r).channel? = some c)
    (p : Packet) :
    (s.send r.sender p).1 = c.admission :=
  Mailbox.answer_offer hc p

/-- A send begins to wait when it finds its channel full. -/
theorem sendWaiting_isSome_iff
    (hc : (s.slot r).channel? = some c)
    (p : Packet) :
    (s.sendWaiting r.sender p).2.1.isSome = true ↔ c.admission = .full := by
  have hcloned : ((s.cloneSender r.sender).slot r).channel? = some c.addSender := by
    refine (channel_update_self s r fun box => box.cloneSender (some r.generation)).trans ?_
    exact Mailbox.getElem?_modify_self hc Channel.addSender
  have hanswer : ((s.cloneSender r.sender).send r.sender p).1 = c.admission :=
    answer_send hcloned p
  unfold sendWaiting
  dsimp only
  rw [← hanswer]
  generalize (s.cloneSender r.sender).send r.sender p = sent
  obtain ⟨answer, s'⟩ := sent
  cases answer <;> simp [Receiver.sender]

theorem answer_retry
    (hc : (s.slot r).channel? = some c)
    (hpending : pending.sender = r.sender) :
    (s.retry pending).1 = c.redemption pending.ticket := by
  obtain ⟨id, generation, ticket, p⟩ := pending
  obtain ⟨rid, g⟩ := r
  cases hpending
  rw [retry_eq_afterRetry, afterRetry_fst]
  exact Mailbox.answer_redeem hc ticket p

end Mailboxes
end ScatterGather
