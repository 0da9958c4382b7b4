import ScatterGather.Mailboxes.Merge
import ScatterGather.Proofs.Mailbox.First

/-!
# What operations do to the mailboxes of a process

Every operation on mailboxes concerns one mailbox, and may wake an input of a merge. The channel of
a mailbox is named by the receiver that is or will be on it.

**Results.** One theorem for each operation carries over what is known of a single mailbox. Waking
changes the queue of a merge only.
-/

namespace ScatterGather

namespace Merge

/-- A merge apart from its queue. -/
def settled (m : Merge) : Merge :=
  { m with ready := [] }

theorem settled_wake (m : Merge) (input : Nat) : (m.wake input).settled = m.settled := by
  unfold wake
  split <;> rfl

theorem receivers_of_settled
    {m m' : Merge}
    (h : m'.settled = m.settled) :
    m'.receivers = m.receivers := by
  have hreceivers : m'.settled.receivers = m.settled.receivers := by rw [h]
  exact hreceivers

theorem live_of_settled
    {m m' : Merge}
    (h : m'.settled = m.settled) :
    m'.live = m.live := by
  have hlive : m'.settled.live = m.settled.live := by rw [h]
  exact hlive

end Merge

namespace Mailboxes

variable {s s' : Mailboxes}

/-- What can be seen of the channel of a receiver. -/
def slot (s : Mailboxes) (r : Receiver) : Slot :=
  (s.box r.id).slot r.generation

/-- The merges are the same apart from their queues. -/
structure SameMerges (s s' : Mailboxes) : Prop where
  settled : ∀ number, (Registry.find? s'.merges number).map Merge.settled =
    (Registry.find? s.merges number).map Merge.settled
  next : s'.nextMerge = s.nextMerge

/-- Mailboxes before and after an operation that changes at most one channel. -/
structure Evolves (s : Mailboxes) (change : Option (Receiver × Change)) (s' : Mailboxes) :
    Prop where
  slots : ∀ r, Slot.Becomes (Change.at? change r) (s.slot r) (s'.slot r)
  merges : SameMerges s s'

theorem box_wake (s : Mailboxes) (woken : Option Watcher) (id : MailboxId) :
    (s.wake woken).box id = s.box id := by
  unfold wake
  split
  · rfl
  · split <;> rfl

theorem sameMerges_wake (s : Mailboxes) (woken : Option Watcher) : SameMerges s (s.wake woken) := by
  unfold wake
  split
  · exact ⟨fun number => rfl, rfl⟩
  · next watcher =>
      split
      · next merge hfind =>
          refine ⟨?_, rfl⟩
          intro number
          rw [Registry.find?_set]
          split
          · next heq =>
              subst heq
              rw [hfind, Option.map_some, Option.map_some, Merge.settled_wake]
          · rfl
      · exact ⟨fun number => rfl, rfl⟩

theorem box_update
    {α : Type} (s : Mailboxes) (id other : MailboxId) (f : Mailbox → Mailbox.Outcome α) :
    (s.update id f).2.box other = if id = other then (f (s.box id)).box else s.box other := by
  unfold update
  rw [box_wake]
  unfold box
  rw [Registry.find?_set]
  split <;> rfl

theorem answer_update
    {α : Type} (s : Mailboxes) (id : MailboxId) (f : Mailbox → Mailbox.Outcome α) :
    (s.update id f).1 = (f (s.box id)).answer :=
  rfl

/-- The change of a generation of a mailbox as a change of the channel of a receiver. -/
def changeOf (id : MailboxId) (change : Option (Nat × Change)) : Option (Receiver × Change) :=
  change.map fun entry => (⟨id, entry.1⟩, entry.2)

theorem at?_changeOf
    (id : MailboxId) (change : Option (Nat × Change)) (r : Receiver) :
    Change.at? (changeOf id change) r =
      if id = r.id then Change.at? change r.generation else none := by
  cases change with
  | none =>
      simp [changeOf]
  | some entry =>
      obtain ⟨g, c⟩ := entry
      obtain ⟨rid, rg⟩ := r
      by_cases hid : id = rid
      · simp [changeOf, Change.at?, hid]
      · simp [changeOf, Change.at?, hid]

theorem evolves_update
    {α : Type} {id : MailboxId} {f : Mailbox → Mailbox.Outcome α}
    (change : Option (Nat × Change))
    (h : (s.box id).Evolves change (f (s.box id)).box) :
    s.Evolves (changeOf id change) (s.update id f).2 := by
  constructor
  · intro r
    unfold slot
    rw [box_update, at?_changeOf]
    split
    · next heq =>
        subst heq
        exact h r.generation
    · exact .refl _
  · have hwake := sameMerges_wake
      { s with boxes := Registry.set s.boxes id (f (s.box id)).box } (f (s.box id)).woken
    exact ⟨hwake.settled, hwake.next⟩

/-- No receiver is given out or dropped, and no mailbox is released. -/
def Onward (s s' : Mailboxes) : Prop :=
  ∀ id, (s.box id).Onward (s'.box id)

theorem Onward.refl (s : Mailboxes) : s.Onward s :=
  fun _ => .refl _

theorem onward_update
    {α : Type} {id : MailboxId} {f : Mailbox → Mailbox.Outcome α}
    (h : (s.box id).Onward (f (s.box id)).box) :
    s.Onward (s.update id f).2 := by
  intro other
  rw [box_update]
  split
  · next heq => exact heq ▸ h
  · exact .refl _

/-! ## The operations -/

theorem evolves_openSender (s : Mailboxes) (id : MailboxId) :
    s.Evolves none (s.openSender id).2 :=
  evolves_update (f := fun box => box.openSender s.capacity) none
    (Mailbox.evolves_openSender _ _)

theorem onward_openSender (s : Mailboxes) (id : MailboxId) :
    s.Onward (s.openSender id).2 :=
  onward_update (f := fun box => box.openSender s.capacity) (Mailbox.onward_openSender _ _)

theorem evolves_cloneSender (s : Mailboxes) (h : Sender) :
    s.Evolves none (s.cloneSender h) :=
  evolves_update none (Mailbox.evolves_cloneSender _ _)

theorem onward_cloneSender (s : Mailboxes) (h : Sender) :
    s.Onward (s.cloneSender h) :=
  onward_update (Mailbox.onward_cloneSender _ _)

theorem evolves_dropSender (s : Mailboxes) (h : Sender) :
    s.Evolves none (s.dropSender h) :=
  evolves_update none (Mailbox.evolves_dropSender _ _)

theorem onward_dropSender (s : Mailboxes) (h : Sender) :
    s.Onward (s.dropSender h) :=
  onward_update (Mailbox.onward_dropSender _ _)

theorem evolves_join (s : Mailboxes) (id : MailboxId) (generation : Nat) :
    s.Evolves none (s.update id fun box => box.join generation).2 :=
  evolves_update none (Mailbox.evolves_join _ _)

theorem onward_join (s : Mailboxes) (id : MailboxId) (generation : Nat) :
    s.Onward (s.update id fun box => box.join generation).2 :=
  onward_update (Mailbox.onward_join _ _)

theorem evolves_forgetSend (s : Mailboxes) (id : MailboxId) (generation ticket : Nat) :
    s.Evolves none (s.update id fun box => box.forgetSend generation ticket).2 :=
  evolves_update none (Mailbox.evolves_forgetSend _ _ _)

theorem onward_forgetSend (s : Mailboxes) (id : MailboxId) (generation ticket : Nat) :
    s.Onward (s.update id fun box => box.forgetSend generation ticket).2 :=
  onward_update (Mailbox.onward_forgetSend _ _ _)

theorem evolves_send (s : Mailboxes) (h : Sender) (p : Packet) :
    (∃ g, h.generation = some g ∧ (s.send h p).1 = .sent ∧
      s.Evolves (some (⟨h.id, g⟩, .pushed p)) (s.send h p).2) ∨
    ((s.send h p).1 ≠ .sent ∧ s.Evolves none (s.send h p).2) := by
  rcases Mailbox.evolves_offer (s.box h.id) h.generation p with
    ⟨g, hg, hanswer, hevolves⟩ | ⟨hanswer, hevolves⟩
  · exact Or.inl ⟨g, hg, hanswer, evolves_update (some (g, .pushed p)) hevolves⟩
  · exact Or.inr ⟨hanswer, evolves_update none hevolves⟩

theorem onward_send (s : Mailboxes) (h : Sender) (p : Packet) :
    s.Onward (s.send h p).2 :=
  onward_update (Mailbox.onward_offer _ _ _)

theorem evolves_redeem
    (s : Mailboxes) (id : MailboxId) (generation ticket : Nat) (p : Packet) :
    ((s.update id fun box => box.redeem generation ticket p).1 = .sent ∧
      s.Evolves (some (⟨id, generation⟩, .pushed p))
        (s.update id fun box => box.redeem generation ticket p).2) ∨
    ((s.update id fun box => box.redeem generation ticket p).1 ≠ .sent ∧
      s.Evolves none (s.update id fun box => box.redeem generation ticket p).2) := by
  rcases Mailbox.evolves_redeem (s.box id) generation ticket p with
    ⟨hanswer, hevolves⟩ | ⟨hanswer, hevolves⟩
  · exact Or.inl ⟨hanswer, evolves_update (some (generation, .pushed p)) hevolves⟩
  · exact Or.inr ⟨hanswer, evolves_update none hevolves⟩

theorem onward_redeem
    (s : Mailboxes) (id : MailboxId) (generation ticket : Nat) (p : Packet) :
    s.Onward (s.update id fun box => box.redeem generation ticket p).2 :=
  onward_update (Mailbox.onward_redeem _ _ _ _)

/-- The answer and the mailboxes that the opening of a receiver leaves. -/
theorem openReceiver_eq (s : Mailboxes) (id : MailboxId) :
    s.openReceiver id =
      (match ((s.box id).openReceiver s.capacity).answer with
        | some g => .ok ⟨id, g⟩
        | none => .error (.alreadyReceived id),
      (s.update id fun box => box.openReceiver s.capacity).2) := by
  rw [← answer_update s id fun box => box.openReceiver s.capacity]
  unfold openReceiver
  generalize (s.update id fun box => box.openReceiver s.capacity) = updated
  obtain ⟨answer, s'⟩ := updated
  cases answer <;> rfl

theorem evolves_openReceiver (s : Mailboxes) (id : MailboxId) :
    s.Evolves none (s.openReceiver id).2 := by
  rw [openReceiver_eq]
  exact evolves_update (f := fun box => box.openReceiver s.capacity) none
    (Mailbox.evolves_openReceiver (s.box id) s.capacity)

theorem box_openReceiver (s : Mailboxes) (id other : MailboxId) :
    (s.openReceiver id).2.box other =
      if id = other then ((s.box id).openReceiver s.capacity).box else s.box other := by
  rw [openReceiver_eq]
  exact box_update s id other fun box => box.openReceiver s.capacity

theorem first_openReceiver
    {id other : MailboxId}
    (h : (s.box other).First) :
    ((s.openReceiver id).2.box other).First := by
  rw [box_openReceiver]
  split
  · next heq => exact (heq ▸ h).openReceiver s.capacity
  · exact h

/-- The receiver that was given out: until then its mailbox had it or it did not exist, and from
then on the mailbox does not have it. -/
theorem openReceiver_answer
    {id : MailboxId} {r : Receiver}
    (h : (s.openReceiver id).1 = .ok r) :
    r.id = id ∧
      ((s.slot r).kept ∨
        ((s.slot r).channel? = none ∧ ((s.openReceiver id).2.slot r).channel? ≠ none)) ∧
      ¬ ((s.openReceiver id).2.slot r).kept := by
  have hbox := box_update s id id fun box => box.openReceiver s.capacity
  rw [if_pos rfl] at hbox
  have hanswer := answer_update s id fun box => box.openReceiver s.capacity
  unfold openReceiver at h ⊢
  split at h
  · next g s' hupdate =>
      cases h
      rw [hupdate] at hbox hanswer
      have hgiven := Mailbox.openReceiver_answer hanswer.symm
      rw [← hbox] at hgiven
      exact ⟨rfl, hgiven⟩
  · cases h

theorem evolves_receive (s : Mailboxes) (r : Receiver) (watcher : Option Watcher) :
    (∃ p, (s.receive r watcher).1 = .packet p ∧
      s.Evolves (some (r, .took p)) (s.receive r watcher).2) ∨
    ((∀ p, (s.receive r watcher).1 ≠ .packet p) ∧ s.Evolves none (s.receive r watcher).2) := by
  rcases Mailbox.evolves_receive (s.box r.id) r.generation watcher with
    ⟨p, hanswer, hevolves⟩ | ⟨hanswer, hevolves⟩
  · exact Or.inl ⟨p, hanswer, evolves_update (some (r.generation, .took p)) hevolves⟩
  · exact Or.inr ⟨hanswer, evolves_update none hevolves⟩

theorem onward_receive (s : Mailboxes) (r : Receiver) (watcher : Option Watcher) :
    s.Onward (s.receive r watcher).2 :=
  onward_update (Mailbox.onward_receive _ _ _)

/-- A receiver that is asked wakes nobody. -/
theorem merges_receive (s : Mailboxes) (r : Receiver) (watcher : Option Watcher) :
    (s.receive r watcher).2.merges = s.merges := by
  have hwoken := Mailbox.woken_receive (s.box r.id) r.generation watcher
  unfold receive update
  dsimp only
  rw [hwoken]
  rfl

/-- The senders on the channel of a receiver. -/
def senders (s : Mailboxes) (r : Receiver) : Nat :=
  (s.box r.id).senders r.generation

theorem senders_receive (s : Mailboxes) (r other : Receiver) (watcher : Option Watcher) :
    (s.receive r watcher).2.senders other = s.senders other := by
  unfold senders receive
  rw [box_update]
  split
  · next heq =>
      rw [Mailbox.senders_receive, heq]
  · rfl

theorem senders_of_receive_ended
    {r : Receiver} {watcher : Option Watcher}
    (h : (s.receive r watcher).1 = .ended) :
    s.senders r = 0 :=
  Mailbox.senders_of_receive_ended h

theorem senders_dropReceiver (s : Mailboxes) (r other : Receiver) :
    (s.dropReceiver r).senders other = s.senders other := by
  unfold senders dropReceiver
  rw [box_update]
  split
  · next heq =>
      rw [Mailbox.senders_dropReceiver, heq]
  · rfl

theorem queue_of_receive_ended
    {r : Receiver} {watcher : Option Watcher}
    (h : (s.receive r watcher).1 = .ended) :
    ∀ c, (s.slot r).channel? = some c → c.queue = [] :=
  Mailbox.queue_of_receive_ended h

theorem evolves_dropReceiver
    {r : Receiver}
    (h : (s.slot r).channel? ≠ none) :
    s.Evolves (some (r, .closed)) (s.dropReceiver r) :=
  evolves_update (some (r.generation, .closed)) (Mailbox.evolves_dropReceiver h)

/-- The queues of the merges do not change either when a receiver is dropped. -/
theorem merges_dropReceiver (s : Mailboxes) (r : Receiver) :
    (s.dropReceiver r).merges = s.merges :=
  rfl

theorem evolves_release
    {id : MailboxId}
    (h : ∀ r, (s.slot r).kept → (s.slot r).channel? ≠ none) :
    s.Evolves none (s.release id) ∨
      ∃ r, (s.slot r).kept ∧ s.Evolves (some (r, .closed)) (s.release id) ∧
        ¬ ((s.release id).slot r).kept := by
  rcases Mailbox.evolves_release (m := s.box id) fun g => h ⟨id, g⟩ with
    hevolves | ⟨g, hkeeps, hevolves, hgone⟩
  · exact Or.inl (evolves_update none hevolves)
  · refine Or.inr ⟨⟨id, g⟩, hkeeps, ?_, ?_⟩
    · exact evolves_update (some (g, .closed)) hevolves
    · have hbox := box_update s id id Mailbox.release
      rw [if_pos rfl] at hbox
      show ¬ Slot.kept (Mailbox.slot ((s.update id Mailbox.release).2.box id) g)
      rw [hbox]
      exact hgone

end Mailboxes
end ScatterGather
