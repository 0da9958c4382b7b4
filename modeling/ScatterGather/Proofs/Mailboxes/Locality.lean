import ScatterGather.Proofs.Mailboxes.Frame

/-!
# Operations that keep to one mailbox

Two states of the mailboxes of a process agree on a mailbox if they have the same one there and make
new channels of the same size. What else they hold may differ: other mailboxes and merges.

**Results.** Every operation on a handle keeps to the mailbox of the handle: what it answers and
what it makes of this mailbox follows from the mailbox alone, and all other mailboxes stay as they
were. Identifiers are told apart by all of their fields, whatever text they are shown as.
-/

namespace ScatterGather
namespace Mailboxes

variable {α β : Type} {s t u : Mailboxes} {id : MailboxId}

/-- The same mailbox, and channels of the same size. -/
structure Agrees (id : MailboxId) (s t : Mailboxes) : Prop where
  box : t.box id = s.box id
  capacity : t.capacity = s.capacity

namespace Agrees

theorem refl (id : MailboxId) (s : Mailboxes) : Agrees id s s :=
  ⟨rfl, rfl⟩

theorem symm (h : Agrees id s t) : Agrees id t s :=
  ⟨h.box.symm, h.capacity.symm⟩

theorem trans (h : Agrees id s t) (h' : Agrees id t u) : Agrees id s u :=
  ⟨h'.box.trans h.box, h'.capacity.trans h.capacity⟩

end Agrees

theorem capacity_wake (s : Mailboxes) (woken : Option Watcher) :
    (s.wake woken).capacity = s.capacity := by
  unfold wake
  split
  · rfl
  · split <;> rfl

theorem capacity_update (s : Mailboxes) (id : MailboxId) (f : Mailbox → Mailbox.Outcome α) :
    (s.update id f).2.capacity = s.capacity :=
  capacity_wake _ _

/-- An operation that looks at one mailbox and changes no other. -/
structure Local (id : MailboxId) (op : Mailboxes → α × Mailboxes) : Prop where
  answer : ∀ {s t}, Agrees id s t → (op t).1 = (op s).1
  inside : ∀ {s t}, Agrees id s t → Agrees id (op s).2 (op t).2
  outside : ∀ s other, other ≠ id → Agrees other s (op s).2

theorem local_answer (id : MailboxId) (a : α) : Local id fun s => (a, s) where
  answer _ := rfl
  inside h := h
  outside s other _ := .refl other s

/-- What is done to a mailbox may depend on the size of new channels. -/
theorem local_update (id : MailboxId) (f : Nat → Mailbox → Mailbox.Outcome α) :
    Local id fun s => s.update id (f s.capacity) where
  answer h := by
    rw [answer_update, answer_update, h.box, h.capacity]
  inside h := by
    refine ⟨?_, ?_⟩
    · rw [box_update, box_update, if_pos rfl, if_pos rfl, h.box, h.capacity]
    · rw [capacity_update, capacity_update, h.capacity]
  outside s other hother := by
    refine ⟨?_, capacity_update _ _ _⟩
    rw [box_update, if_neg (Ne.symm hother)]

/-- One operation after another, which depends on the first one's answer. -/
theorem Local.andThen
    {op : Mailboxes → α × Mailboxes} {next : α → Mailboxes → β × Mailboxes}
    (h : Local id op)
    (hnext : ∀ a, Local id (next a)) :
    Local id fun s => next (op s).1 (op s).2 where
  answer hagrees := by
    rw [h.answer hagrees]
    exact (hnext _).answer (h.inside hagrees)
  inside hagrees := by
    rw [h.answer hagrees]
    exact (hnext _).inside (h.inside hagrees)
  outside s other hother :=
    (h.outside s other hother).trans ((hnext _).outside (op s).2 other hother)

/-- An operation whose answer is read in another way. -/
theorem Local.map
    {op : Mailboxes → α × Mailboxes}
    (h : Local id op)
    (f : α → β) :
    Local id fun s => (f (op s).1, (op s).2) :=
  h.andThen fun a => local_answer id (f a)

/-! ## The operations -/

theorem local_openSender (id : MailboxId) : Local id fun s => s.openSender id :=
  (local_update id fun capacity box => box.openSender capacity).map (Sender.mk id)

theorem local_cloneSender (h : Sender) : Local h.id fun s => ((), s.cloneSender h) :=
  (local_update h.id fun _ box => box.cloneSender h.generation).map fun _ => ()

theorem local_dropSender (h : Sender) : Local h.id fun s => ((), s.dropSender h) :=
  (local_update h.id fun _ box => box.dropSender h.generation).map fun _ => ()

theorem local_dropReceiver (r : Receiver) : Local r.id fun s => ((), s.dropReceiver r) :=
  (local_update r.id fun _ box => box.dropReceiver r.generation).map fun _ => ()

theorem local_release (id : MailboxId) : Local id fun s => ((), s.release id) :=
  (local_update id fun _ => Mailbox.release).map fun _ => ()

theorem local_send (h : Sender) (p : Packet) : Local h.id fun s => s.send h p :=
  local_update h.id fun _ box => box.offer h.generation p

theorem local_receive (r : Receiver) (watcher : Option Watcher) :
    Local r.id fun s => s.receive r watcher :=
  local_update r.id fun _ box => box.receive r.generation watcher

theorem local_dropPendingSend (pending : PendingSend) :
    Local pending.id fun s => ((), s.dropPendingSend pending) :=
  (local_update pending.id fun _ box => box.forgetSend pending.generation pending.ticket).andThen
    fun _ => local_dropSender pending.sender

/-- How one who asks for the receiver of a mailbox is answered. -/
def receiverOf (id : MailboxId) : Option Nat → Except MailboxFault Receiver
  | some generation => .ok ⟨id, generation⟩
  | none => .error (.alreadyReceived id)

theorem openReceiver_eq_update (s : Mailboxes) (id : MailboxId) :
    s.openReceiver id =
      (receiverOf id (s.update id fun box => box.openReceiver s.capacity).1,
        (s.update id fun box => box.openReceiver s.capacity).2) := by
  unfold openReceiver
  cases s.update id fun box => box.openReceiver s.capacity with
  | mk answer s' =>
      cases answer <;> rfl

theorem local_openReceiver (id : MailboxId) : Local id fun s => s.openReceiver id := by
  simp only [openReceiver_eq_update]
  exact (local_update id fun capacity box => box.openReceiver capacity).map (receiverOf id)

/-- What a send that may wait does once it was offered. -/
def afterOffer (h : Sender) (p : Packet) (answer : SendAnswer) (s : Mailboxes) :
    (SendAnswer × Option PendingSend) × Mailboxes :=
  match answer, h.generation with
  | .full, some generation =>
    let (ticket, s) := s.update h.id fun box => box.join generation
    ((.full, some ⟨h.id, generation, ticket, p⟩), s)
  | answer, _ => ((answer, none), s.dropSender h)

theorem sendWaiting_eq_afterOffer (s : Mailboxes) (h : Sender) (p : Packet) :
    (((s.sendWaiting h p).1, (s.sendWaiting h p).2.1), (s.sendWaiting h p).2.2) =
      afterOffer h p ((s.cloneSender h).send h p).1 ((s.cloneSender h).send h p).2 := by
  unfold sendWaiting afterOffer
  dsimp only
  cases (s.cloneSender h).send h p with
  | mk answer s' =>
      cases answer with
      | full =>
          cases h.generation <;> rfl
      | sent =>
          rfl
      | closed =>
          rfl

theorem local_afterOffer (h : Sender) (p : Packet) (answer : SendAnswer) :
    Local h.id (afterOffer h p answer) := by
  have hgone : Local h.id fun s => ((answer, (none : Option PendingSend)), s.dropSender h) :=
    (local_dropSender h).map fun _ => (answer, none)
  cases answer with
  | full =>
      obtain ⟨id, generation⟩ := h
      cases generation with
      | none =>
          exact hgone
      | some generation =>
          exact (local_update id fun _ box => box.join generation).map fun ticket =>
            (SendAnswer.full, some (PendingSend.mk id generation ticket p))
  | sent =>
      exact hgone
  | closed =>
      exact hgone

theorem local_sendWaiting (h : Sender) (p : Packet) :
    Local h.id fun s =>
      (((s.sendWaiting h p).1, (s.sendWaiting h p).2.1), (s.sendWaiting h p).2.2) := by
  simp only [sendWaiting_eq_afterOffer]
  exact ((local_cloneSender h).andThen fun _ => local_send h p).andThen (local_afterOffer h p)

/-- What becomes of a waiting send once it was tried again. -/
def afterRetry (pending : PendingSend) (answer : SendAnswer) (s : Mailboxes) :
    SendAnswer × Mailboxes :=
  match answer with
  | .full => (.full, s)
  | answer => (answer, s.dropSender pending.sender)

theorem afterRetry_fst (pending : PendingSend) (answer : SendAnswer) (s : Mailboxes) :
    (afterRetry pending answer s).1 = answer := by
  cases answer <;> rfl

theorem afterRetry_of_ne
    {pending : PendingSend} {answer : SendAnswer}
    (hanswer : answer ≠ .full)
    (s : Mailboxes) :
    afterRetry pending answer s = (answer, s.dropSender pending.sender) := by
  cases answer with
  | full =>
      exact absurd rfl hanswer
  | _ =>
      rfl

theorem retry_eq_afterRetry (s : Mailboxes) (pending : PendingSend) :
    s.retry pending =
      afterRetry pending
        (s.update pending.id fun box =>
          box.redeem pending.generation pending.ticket pending.packet).1
        (s.update pending.id fun box =>
          box.redeem pending.generation pending.ticket pending.packet).2 := by
  unfold retry afterRetry
  cases s.update pending.id fun box =>
      box.redeem pending.generation pending.ticket pending.packet with
  | mk answer s' =>
      cases answer <;> rfl

theorem local_retry (pending : PendingSend) :
    Local pending.id fun s => s.retry pending := by
  simp only [retry_eq_afterRetry]
  refine (local_update pending.id fun _ box =>
    box.redeem pending.generation pending.ticket pending.packet).andThen fun answer => ?_
  have hgone : Local pending.id fun s => (answer, s.dropSender pending.sender) :=
    (local_dropSender pending.sender).map fun _ => answer
  cases answer with
  | full =>
      exact local_answer pending.id SendAnswer.full
  | sent =>
      exact hgone
  | closed =>
      exact hgone

end Mailboxes
end ScatterGather
