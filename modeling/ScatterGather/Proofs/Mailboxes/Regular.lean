import ScatterGather.Proofs.Mailbox.Regular
import ScatterGather.Proofs.Mailboxes.Serving

/-!
# The senders of a process, accounted for

The senders on the channel of a receiver are lent to those who hold handles on it. What others than
merges receive from is open: they drop a receiver once, and so do merges.

**Results.** Every operation on the mailboxes of a process keeps their senders accounted for and the
channels open whose receivers others have. A mailbox that is not released stays upright.
-/

namespace ScatterGather

/-- A sending handle on the channel of a receiver. -/
def Receiver.sender (r : Receiver) : Sender :=
  ⟨r.id, some r.generation⟩

/-- One if a handle is on the channel of a receiver, and nothing otherwise. -/
def Sender.on (sender : Sender) (r : Receiver) : Nat :=
  if sender = r.sender then 1 else 0

theorem Sender.eq_sender_iff (sender : Sender) (g : Nat) :
    sender = Receiver.sender ⟨sender.id, g⟩ ↔ sender.generation = some g := by
  obtain ⟨id, generation⟩ := sender
  simp [Receiver.sender]

theorem Sender.on_mk (sender : Sender) (g : Nat) :
    sender.on ⟨sender.id, g⟩ = if sender.generation = some g then 1 else 0 := by
  simp only [on, eq_sender_iff]

theorem Sender.ne_sender
    {sender : Sender} {r : Receiver}
    (h : r.id ≠ sender.id) :
    sender ≠ r.sender := by
  rintro rfl
  exact h rfl

theorem Sender.on_of_id_ne
    {sender : Sender} {r : Receiver}
    (h : r.id ≠ sender.id) :
    sender.on r = 0 :=
  if_neg (ne_sender h)

theorem PendingSend.sender_on (pending : PendingSend) :
    pending.sender.on ⟨pending.id, pending.generation⟩ = 1 :=
  if_pos rfl

namespace Mailboxes

variable {H H' : History} {outer outer' given used : Receiver → Prop} {lent lent' : Receiver → Nat}
variable {attached attached' spent spent' : Receiver → Prop} {s s' : Mailboxes}
variable {sender : Sender} {r : Receiver}

/-- Mailboxes whose senders are accounted for. -/
def Regular (H : History) (lent : Receiver → Nat) (attached spent : Receiver → Prop)
    (s : Mailboxes) : Prop :=
  ∀ id, (s.box id).Regular (fun g => lent ⟨id, g⟩) (fun g => attached ⟨id, g⟩)
    (fun g => spent ⟨id, g⟩) (.released id ∉ H)

namespace Regular

theorem later
    (h : s.Regular H lent attached spent)
    (events : List Event) :
    s.Regular (H ++ events) lent attached spent := by
  intro id
  refine (h id).congr (fun _ => rfl) (fun _ => Iff.rfl) fun hnot hmem => ?_
  exact hnot (List.mem_append_left events hmem)

/-- An operation on one mailbox. -/
theorem update
    {α : Type} {id : MailboxId} {f : Mailbox → Mailbox.Outcome α}
    (h : s.Regular H lent attached spent)
    (hf : (f (s.box id)).box.Regular (fun g => lent' ⟨id, g⟩) (fun g => attached' ⟨id, g⟩)
      (fun g => spent ⟨id, g⟩) (.released id ∉ H))
    (hlent : ∀ r : Receiver, r.id ≠ id → lent' r = lent r)
    (hattached : ∀ r : Receiver, r.id ≠ id → (attached' r ↔ attached r)) :
    (s.update id f).2.Regular H lent' attached' spent := by
  intro other
  rw [box_update]
  split
  · next heq => exact heq ▸ hf
  · next hne =>
      exact (h other).congr (fun g => hlent ⟨other, g⟩ (Ne.symm hne))
        (fun g => hattached ⟨other, g⟩ (Ne.symm hne)) fun hnot => hnot

/-- An operation on one mailbox that neither opens nor drops a sender. -/
theorem change
    {α : Type} {id : MailboxId} {f : Mailbox → Mailbox.Outcome α}
    (h : s.Regular H lent attached spent)
    (hf : (f (s.box id)).box.Regular (fun g => lent ⟨id, g⟩) (fun g => attached ⟨id, g⟩)
      (fun g => spent ⟨id, g⟩) (.released id ∉ H)) :
    (s.update id f).2.Regular H lent attached spent :=
  h.update hf (fun _ _ => rfl) fun _ _ => Iff.rfl

/-! ## Senders -/

theorem openSender
    (h : s.Regular H lent attached spent)
    (id : MailboxId) :
    (s.openSender id).2.Regular H (fun r => lent r + (s.openSender id).1.on r)
      (fun r => attached r ∨ (s.openSender id).1 = r.sender) spent := by
  have hid : (s.openSender id).1.id = id := rfl
  refine h.update (f := fun box => box.openSender s.capacity) ?_ ?_ ?_
  · refine ((h id).openSender s.capacity).congr ?_ ?_ fun hnot => hnot
    · exact fun g => congrArg (lent ⟨id, g⟩ + ·) ((s.openSender id).1.on_mk g)
    · exact fun g => or_congr Iff.rfl ((s.openSender id).1.eq_sender_iff g)
  · intro r hr
    rw [Sender.on_of_id_ne hr, Nat.add_zero]
  · intro r hr
    exact or_iff_left (Sender.ne_sender hr)

theorem cloneSender
    (h : s.Regular H lent attached spent)
    (hlent : ∀ r, sender = r.sender → 0 < lent r) :
    (s.cloneSender sender).Regular H (fun r => lent r + sender.on r) attached spent := by
  have hgeneration : ∀ g, sender.generation = some g → 0 < lent ⟨sender.id, g⟩ :=
    fun g hg => hlent ⟨sender.id, g⟩ ((sender.eq_sender_iff g).2 hg)
  refine h.update ?_ ?_ fun _ _ => Iff.rfl
  · refine ((h sender.id).cloneSender hgeneration).congr ?_ (fun _ => Iff.rfl) fun hnot => hnot
    exact fun g => congrArg (lent ⟨sender.id, g⟩ + ·) (sender.on_mk g)
  · intro r hr
    rw [Sender.on_of_id_ne hr, Nat.add_zero]

theorem dropSender
    (h : s.Regular H lent attached spent)
    (hlent : ∀ r, lent r = lent' r + sender.on r) :
    (s.dropSender sender).Regular H lent' attached spent := by
  refine h.update ((h sender.id).dropSender fun g => ?_) ?_ fun _ _ => Iff.rfl
  · rw [hlent, Sender.on_mk]
  · intro r hr
    rw [hlent, Sender.on_of_id_ne hr, Nat.add_zero]

theorem send
    (h : s.Regular H lent attached spent)
    (hlent : ∀ r, sender = r.sender → 0 < lent r)
    (p : Packet) :
    (s.send sender p).2.Regular H lent attached spent := by
  refine h.change ((h sender.id).offer (fun g hg => ?_) p)
  exact hlent ⟨sender.id, g⟩ ((sender.eq_sender_iff g).2 hg)

theorem join
    (h : s.Regular H lent attached spent)
    (id : MailboxId) (generation : Nat) :
    (s.update id fun box => box.join generation).2.Regular H lent attached spent :=
  h.change ((h id).join generation)

/-- A send that waits holds a handle like the one it was made through. -/
theorem sendWaiting
    (h : s.Regular H lent attached spent)
    (hlent : ∀ r, sender = r.sender → 0 < lent r)
    (p : Packet) :
    (∀ pending, (s.sendWaiting sender p).2.1 = some pending → pending.sender = sender ∧
      (s.sendWaiting sender p).2.2.Regular H (fun r => lent r + sender.on r) attached spent) ∧
    ((s.sendWaiting sender p).2.1 = none →
      (s.sendWaiting sender p).2.2.Regular H lent attached spent) := by
  have hsent := (h.cloneSender hlent).send
    (fun r hr => Nat.lt_of_lt_of_le (hlent r hr) (Nat.le_add_right _ _)) p
  unfold Mailboxes.sendWaiting
  dsimp only
  split
  · next s' generation hsend hgeneration =>
      rw [hsend] at hsent
      refine ⟨fun pending hpending => ?_, by simp⟩
      cases hpending
      refine ⟨?_, Regular.join hsent sender.id generation⟩
      obtain ⟨id, _⟩ := sender
      cases hgeneration
      rfl
  · next s' hsend _ =>
      rw [hsend] at hsent
      exact ⟨by simp, fun _ => Regular.dropSender hsent fun _ => rfl⟩

/-- A waiting send keeps its handle for as long as it finds no slot. -/
theorem retry
    {pending : PendingSend}
    (h : s.Regular H lent attached spent)
    (hlent : ∀ r, lent r = lent' r + pending.sender.on r) :
    ((s.retry pending).1 = .full → (s.retry pending).2.Regular H lent attached spent) ∧
    ((s.retry pending).1 ≠ .full → (s.retry pending).2.Regular H lent' attached spent) := by
  have hpositive : 0 < lent ⟨pending.id, pending.generation⟩ := by
    rw [hlent, pending.sender_on]
    omega
  have hredeemed := h.change
    (f := fun box => box.redeem pending.generation pending.ticket pending.packet)
    ((h pending.id).redeem hpositive pending.ticket pending.packet)
  unfold Mailboxes.retry
  split
  · next hredeem =>
      rw [hredeem] at hredeemed
      exact ⟨fun _ => hredeemed, fun hnot => absurd rfl hnot⟩
  · next hfull hredeem =>
      rw [hredeem] at hredeemed
      exact ⟨fun heq => absurd heq hfull, fun _ => Regular.dropSender hredeemed hlent⟩

theorem dropPendingSend
    {pending : PendingSend}
    (h : s.Regular H lent attached spent)
    (hlent : ∀ r, lent r = lent' r + pending.sender.on r) :
    (s.dropPendingSend pending).Regular H lent' attached spent := by
  have hforgotten := h.change (f := fun box => box.forgetSend pending.generation pending.ticket)
    ((h pending.id).forgetSend pending.generation pending.ticket)
  exact hforgotten.dropSender hlent

/-! ## Receivers -/

theorem openReceiver
    (h : s.Regular H lent attached spent)
    (id : MailboxId) :
    (s.openReceiver id).2.Regular H lent attached spent := by
  intro other
  rw [box_openReceiver]
  split
  · next heq => exact heq ▸ (h id).openReceiver s.capacity
  · exact h other

theorem receive
    (h : s.Regular H lent attached spent)
    (r : Receiver) (watcher : Option Watcher) :
    (s.receive r watcher).2.Regular H lent attached spent :=
  h.change ((h r.id).receive r.generation watcher)

theorem dropReceiver
    (h : s.Regular H lent attached spent)
    (hopen : s.Open r)
    (hgiven : ¬ (s.slot r).kept) :
    (s.dropReceiver r).Regular H lent attached spent :=
  h.change ((h r.id).dropReceiver hopen hgiven)

theorem serves
    (h : s.Regular H lent attached spent)
    (hserves : Serves given used s s') :
    s'.Regular H lent attached spent := by
  induction hserves with
  | refl =>
      exact h
  | openReceiver _ id _ ih =>
      exact ih.openReceiver id
  | @receive s' r _ _ watcher ih =>
      exact ih.receive r watcher
  | dropReceiver _ hopen hissued _ ih =>
      exact ih.dropReceiver hopen hissued.2
  | remerge _ merges nextMerge ih =>
      exact ih

theorem release
    (h : s.Regular H lent attached spent)
    (id : MailboxId) :
    (s.release id).Regular (H ++ [.released id]) lent attached spent := by
  refine (h.later [.released id]).change ?_
  refine (h id).release.congr (fun _ => rfl) (fun _ => Iff.rfl) fun hnot => ?_
  exact hnot (List.mem_append_right H (List.mem_singleton_self _))

end Regular

theorem Serves.open
    (hserves : Serves given used s s')
    (h : s.Open r)
    (hunused : ¬ used r) :
    s'.Open r := by
  induction hserves with
  | refl =>
      exact h
  | openReceiver _ id _ ih =>
      exact (evolves_openReceiver _ id).open (by simp) ih
  | @receive s' other _ _ watcher ih =>
      exact ih.receive other watcher
  | @dropReceiver s' other _ hopen _ hother ih =>
      refine ih.dropReceiver hopen ?_
      rintro rfl
      exact hunused hother
  | remerge _ merges nextMerge ih =>
      exact ih

end Mailboxes
end ScatterGather
