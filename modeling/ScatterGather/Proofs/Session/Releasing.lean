import ScatterGather.Proofs.Session.Holding

/-!
# Handles that outlive a release

A release makes a mailbox forget its channel, whatever its state, and the next one to open the
mailbox creates a successor. Handles on the old channel stay in use beside it.

**Results.** What is done through an old handle goes to the old channel and leaves the successor
alone. Two things look at the successor all the same. When an old sending handle is dropped, be it
that of a send that waited, the successor is forgotten if it is finished. And the drop of an old
receiver counts as the drop of the successor's own: the successor is forgotten once no sender is
left, although its receiver is alive.
-/

namespace ScatterGather
namespace Mailbox

variable {m : Mailbox} {t : Tracking} {c : Channel} {g : Nat} {old : Option Nat}

/-- The current channel of a mailbox and what is known of it. -/
def current (m : Mailbox) : Option (Tracking × Channel) :=
  m.tracking.bind fun t => (m.channels[t.generation]?).map fun c => (t, c)

/-- A handle of this generation is not one on the current channel. -/
def Outlived (m : Mailbox) (generation : Option Nat) : Prop :=
  ∀ t, m.tracking = some t → generation ≠ some t.generation

theorem current_eq_some_iff :
    m.current = some (t, c) ↔ m.tracking = some t ∧ m.channels[t.generation]? = some c := by
  constructor
  · intro h
    obtain ⟨t', ht', hmap⟩ := Option.bind_eq_some_iff.1 h
    obtain ⟨c', hc', heq⟩ := Option.map_eq_some_iff.1 hmap
    obtain ⟨rfl, rfl⟩ := Prod.mk.inj heq
    exact ⟨ht', hc'⟩
  · rintro ⟨ht, hc⟩
    simp [current, ht, hc]

/-- A change of an old channel does not concern the current one. -/
theorem current_modify
    (h : m.Outlived (some g))
    (f : Channel → Channel) :
    (m.modify g f).current = m.current := by
  cases ht : m.tracking with
  | none =>
      simp [current, modify, ht]
  | some t =>
      have hne : g ≠ t.generation := fun heq => h t ht (congrArg some heq)
      simp [current, modify, ht, hne]

/-- Whether the current channel is forgotten depends on nothing else. -/
theorem current_forgetIfFinished (m : Mailbox) :
    m.forgetIfFinished.current =
      m.current.filter fun (t, c) => !(t.receiverDropped && !t.holdsSender && c.senders == 0) := by
  unfold forgetIfFinished
  cases ht : m.tracking with
  | none =>
      simp [current, ht]
  | some t =>
      cases hc : m.channels[t.generation]? with
      | none =>
          dsimp only
          split <;> simp [current, ht, hc]
      | some c =>
          have hcurrent : m.current = some (t, c) := current_eq_some_iff.2 ⟨ht, hc⟩
          have hfinished : m.isFinished t =
              (t.receiverDropped && !t.holdsSender && c.senders == 0) := by
            simp only [isFinished, senders, hc]
          dsimp only
          rw [hcurrent, Option.filter_some, ← hfinished]
          cases m.isFinished t with
          | true => rfl
          | false => exact hcurrent

theorem current_cloneSender (h : m.Outlived old) : (m.cloneSender old).box.current = m.current := by
  cases old with
  | none => rfl
  | some g => exact current_modify h _

theorem current_dropSender (h : m.Outlived old) :
    (m.dropSender old).box.current = m.forgetIfFinished.current := by
  unfold dropSender
  split
  · next g c hfound =>
      obtain ⟨rfl, -⟩ := channel_of_bind hfound
      rw [current_forgetIfFinished, current_forgetIfFinished, current_modify h]
  · rfl

theorem current_offer
    (h : m.Outlived old)
    (p : Packet) :
    (m.offer old p).box.current = m.current := by
  unfold offer
  split
  · rfl
  · next g c hfound =>
      obtain ⟨rfl, -⟩ := channel_of_bind hfound
      split
      · exact current_modify h _
      · rfl

theorem current_join (h : m.Outlived (some g)) : (m.join g).box.current = m.current := by
  unfold join
  split
  · exact current_modify h _
  · rfl

theorem current_redeem
    (h : m.Outlived (some g))
    (ticket : Nat) (p : Packet) :
    (m.redeem g ticket p).box.current = m.current := by
  unfold redeem
  split
  · rfl
  · split
    · exact current_modify h _
    · rfl

theorem current_receive
    (h : m.Outlived (some g))
    (watcher : Option Watcher) :
    (m.receive g watcher).box.current = m.current := by
  unfold receive
  split
  · rfl
  · split
    · exact current_modify h _
    · rfl
    · exact current_modify h _

theorem current_withoutReceiver (m : Mailbox) :
    ({ m with tracking := m.tracking.map Tracking.withoutReceiver } : Mailbox).current =
      m.current.map fun (t, c) => (t.withoutReceiver, c) := by
  unfold current
  cases m.tracking with
  | none => rfl
  | some t =>
      show (m.channels[t.generation]?).map _ = ((m.channels[t.generation]?).map _).map _
      rw [Option.map_map]
      rfl

/-- The drop of an old receiver is taken for the drop of the current one. -/
theorem current_dropReceiver (h : m.Outlived (some g)) :
    (m.dropReceiver g).box.current =
      (m.current.map fun (t, c) => (t.withoutReceiver, c)).filter
        fun (t, c) => t.holdsSender || c.senders != 0 := by
  let noted : Mailbox := { m with tracking := m.tracking.map Tracking.withoutReceiver }
  have hold : noted.forgetIfFinished.Outlived (some g) := by
    intro t ht
    obtain ⟨t₀, ht₀, rfl⟩ := Option.map_eq_some_iff.1 (tracking_of_forgetIfFinished ht)
    exact h t₀ ht₀
  have hclosed : (m.dropReceiver g).box.current = noted.forgetIfFinished.current :=
    current_modify hold _
  rw [hclosed, current_forgetIfFinished, current_withoutReceiver]
  cases m.current with
  | none => rfl
  | some entry =>
      obtain ⟨t, c⟩ := entry
      simp [Option.filter_some, Tracking.withoutReceiver]

/-- What is left of a current channel when it is looked at whether it is finished. -/
def left (t : Tracking) (c : Channel) : Option (Tracking × Channel) :=
  if t.receiverDropped ∧ ¬ t.holdsSender ∧ c.senders = 0 then none else some (t, c)

theorem outlived_of_ne
    (h : m.current = some (t, c))
    (hold : old ≠ some t.generation) :
    m.Outlived old := by
  intro t' ht'
  obtain ⟨ht, -⟩ := current_eq_some_iff.1 h
  cases ht.symm.trans ht'
  exact hold

theorem current_dropSender_of_ne
    (h : m.current = some (t, c))
    (hold : old ≠ some t.generation) :
    (m.dropSender old).box.current = left t c := by
  rw [current_dropSender (outlived_of_ne h hold), current_forgetIfFinished, h, left]
  split
  · next hfinished => simpa [and_assoc] using hfinished
  · next hneeded => simpa [or_assoc, imp_iff_not_or] using hneeded

end Mailbox

namespace Mailboxes

variable {s : Mailboxes} {t : Tracking} {c : Channel}

theorem current_update
    {α : Type} {id : MailboxId} {f : Mailbox → Mailbox.Outcome α}
    {now : Option (Tracking × Channel)}
    (h : (f (s.box id)).box.current = now) :
    ((s.update id f).2.box id).current = now := by
  rw [box_update, if_pos rfl, h]

theorem current_dropSender
    {old : Sender}
    (h : (s.box old.id).current = some (t, c))
    (hold : old.generation ≠ some t.generation) :
    ((s.dropSender old).box old.id).current = Mailbox.left t c :=
  current_update (Mailbox.current_dropSender_of_ne h hold)

theorem current_cloneSender
    {old : Sender}
    (h : (s.box old.id).current = some (t, c))
    (hold : old.generation ≠ some t.generation) :
    ((s.cloneSender old).box old.id).current = some (t, c) :=
  current_update ((Mailbox.current_cloneSender (Mailbox.outlived_of_ne h hold)).trans h)

theorem current_send
    {old : Sender}
    (h : (s.box old.id).current = some (t, c))
    (hold : old.generation ≠ some t.generation)
    (p : Packet) :
    ((s.send old p).2.box old.id).current = some (t, c) :=
  current_update ((Mailbox.current_offer (Mailbox.outlived_of_ne h hold) p).trans h)

theorem current_sendWaiting
    {old : Sender}
    (h : (s.box old.id).current = some (t, c))
    (hold : old.generation ≠ some t.generation)
    (p : Packet) :
    ((s.sendWaiting old p).2.1 ≠ none →
      ((s.sendWaiting old p).2.2.box old.id).current = some (t, c)) ∧
    ((s.sendWaiting old p).2.1 = none →
      ((s.sendWaiting old p).2.2.box old.id).current = Mailbox.left t c) := by
  have hsent := current_send (current_cloneSender h hold) hold p
  obtain ⟨id, generation⟩ := old
  unfold sendWaiting
  dsimp only
  generalize (s.cloneSender ⟨id, generation⟩).send ⟨id, generation⟩ p = sent at hsent
  obtain ⟨answer, s'⟩ := sent
  have hdropped : ((s'.dropSender ⟨id, generation⟩).box id).current = Mailbox.left t c :=
    current_dropSender hsent hold
  cases answer with
  | full =>
      cases generation with
      | none => exact ⟨absurd rfl, fun _ => hdropped⟩
      | some g =>
          have hjoined := (Mailbox.current_join (Mailbox.outlived_of_ne hsent hold)).trans hsent
          have hwaits : ((s'.update id fun box => box.join g).2.box id).current = some (t, c) :=
            current_update (f := fun box => box.join g) hjoined
          exact ⟨fun _ => hwaits, by simp⟩
  | sent => exact ⟨absurd rfl, fun _ => hdropped⟩
  | closed => exact ⟨absurd rfl, fun _ => hdropped⟩

theorem current_retry
    {old : PendingSend}
    (h : (s.box old.id).current = some (t, c))
    (hold : old.generation ≠ t.generation) :
    ((s.retry old).1 = .full → ((s.retry old).2.box old.id).current = some (t, c)) ∧
    ((s.retry old).1 ≠ .full → ((s.retry old).2.box old.id).current = Mailbox.left t c) := by
  have hne : some old.generation ≠ some t.generation := fun heq => hold (Option.some.inj heq)
  have hredeemed : ((s.update old.id fun box =>
      box.redeem old.generation old.ticket old.packet).2.box old.id).current = some (t, c) :=
    current_update ((Mailbox.current_redeem (Mailbox.outlived_of_ne h hne) _ _).trans h)
  unfold retry
  cases hupdate : s.update old.id fun box => box.redeem old.generation old.ticket old.packet with
  | mk answer s' =>
      rw [hupdate] at hredeemed
      have hdropped : ((s'.dropSender old.sender).box old.id).current = Mailbox.left t c :=
        current_dropSender hredeemed hne
      cases answer with
      | full => exact ⟨fun _ => hredeemed, absurd rfl⟩
      | sent => exact ⟨by simp, fun _ => hdropped⟩
      | closed => exact ⟨by simp, fun _ => hdropped⟩

theorem current_dropPendingSend
    {old : PendingSend}
    (h : (s.box old.id).current = some (t, c))
    (hold : old.generation ≠ t.generation) :
    ((s.dropPendingSend old).box old.id).current = Mailbox.left t c := by
  have hne : some old.generation ≠ some t.generation := fun heq => hold (Option.some.inj heq)
  have hforgotten : ((s.update old.id fun box =>
      box.forgetSend old.generation old.ticket).2.box old.id).current = some (t, c) :=
    current_update ((Mailbox.current_modify (Mailbox.outlived_of_ne h hne) _).trans h)
  exact current_dropSender hforgotten hne

theorem current_receive
    {old : Receiver}
    (h : (s.box old.id).current = some (t, c))
    (hold : old.generation ≠ t.generation)
    (watcher : Option Watcher) :
    ((s.receive old watcher).2.box old.id).current = some (t, c) := by
  have hne : some old.generation ≠ some t.generation := fun heq => hold (Option.some.inj heq)
  exact current_update
    ((Mailbox.current_receive (Mailbox.outlived_of_ne h hne) watcher).trans h)

theorem current_dropReceiver
    {old : Receiver}
    (h : (s.box old.id).current = some (t, c))
    (hold : old.generation ≠ t.generation) :
    ((s.dropReceiver old).box old.id).current =
      if ¬ t.holdsSender ∧ c.senders = 0 then none else some (t.withoutReceiver, c) := by
  have hne : some old.generation ≠ some t.generation := fun heq => hold (Option.some.inj heq)
  refine current_update (f := fun box => box.dropReceiver old.generation) ?_
  rw [Mailbox.current_dropReceiver (Mailbox.outlived_of_ne h hne), h]
  split
  · next hunheld => simpa [Tracking.withoutReceiver] using hunheld
  · next hheld => simpa [Tracking.withoutReceiver, or_iff_not_imp_left] using hheld

/-- **Old handles.** What is done through handles that are on the mailbox but not on its current
channel leaves that channel and what is known of it as they are, up to two things. When a sender
goes, the current channel is forgotten if it is finished. And when a receiver goes, its drop is
noted as that of the current receiver, and the current channel is forgotten if no sender is left. -/
theorem current_of_outlived
    (s : Mailboxes) (id : MailboxId) (t : Tracking) (c : Channel)
    (hcurrent : (s.box id).current = some (t, c)) :
    (∀ old : Sender, old.id = id → old.generation ≠ some t.generation →
      ((s.cloneSender old).box id).current = some (t, c) ∧
      ((s.dropSender old).box id).current = Mailbox.left t c ∧
      ∀ p, ((s.send old p).2.box id).current = some (t, c) ∧
        ((s.sendWaiting old p).2.1 ≠ none →
          ((s.sendWaiting old p).2.2.box id).current = some (t, c)) ∧
        ((s.sendWaiting old p).2.1 = none →
          ((s.sendWaiting old p).2.2.box id).current = Mailbox.left t c)) ∧
    (∀ old : PendingSend, old.id = id → old.generation ≠ t.generation →
      ((s.retry old).1 = .full → ((s.retry old).2.box id).current = some (t, c)) ∧
      ((s.retry old).1 ≠ .full → ((s.retry old).2.box id).current = Mailbox.left t c) ∧
      ((s.dropPendingSend old).box id).current = Mailbox.left t c) ∧
    ∀ old : Receiver, old.id = id → old.generation ≠ t.generation →
      (∀ watcher, ((s.receive old watcher).2.box id).current = some (t, c)) ∧
      ((s.dropReceiver old).box id).current =
        if ¬ t.holdsSender ∧ c.senders = 0 then none else some (t.withoutReceiver, c) := by
  refine ⟨?_, ?_, ?_⟩
  · rintro old rfl hold
    refine ⟨current_cloneSender hcurrent hold, current_dropSender hcurrent hold, fun p => ?_⟩
    exact ⟨current_send hcurrent hold p, current_sendWaiting hcurrent hold p⟩
  · rintro old rfl hold
    obtain ⟨hstays, hgone⟩ := current_retry hcurrent hold
    exact ⟨hstays, hgone, current_dropPendingSend hcurrent hold⟩
  · rintro old rfl hold
    exact ⟨current_receive hcurrent hold, current_dropReceiver hcurrent hold⟩

end Mailboxes

namespace Session

/-- A mailbox is released while its receiver is alive, and both ends are opened anew. -/
def reopened : List Step :=
  [.openReceiver soleId "old", .release soleId, .openReceiver soleId "new", .openSender soleId "a"]

/-- The receiver of the successor is alive, and no sender of it is left once the one that was opened
goes: the drop of the old receiver makes the difference. -/
theorem current_of_outlived_reopened :
    let s := ((ofMailboxes (.create "broker" 9000 4)).run reopened).2.mailboxes
    ∃ t c, (s.box soleId).current = some (t, c) ∧ t.generation = 1 ∧
      ((s.dropReceiver ⟨soleId, 0⟩).box soleId).current = some (t.withoutReceiver, c) := by
  intro s
  let t : Tracking := ⟨1, false, false, true, false⟩
  let c : Channel := { Channel.create 4 with senders := 1 }
  have hcurrent : (s.box soleId).current = some (t, c) := by decide +kernel
  obtain ⟨-, -, hreceiver⟩ := Mailboxes.current_of_outlived s soleId t c hcurrent
  obtain ⟨-, hdropped⟩ := hreceiver ⟨soleId, 0⟩ rfl (by decide)
  exact ⟨t, c, hcurrent, rfl, hdropped⟩

/-- The drop of an old receiver changes what later steps find: when the sender of the successor
goes, the successor is forgotten although its own receiver is alive, and the mailbox can be received
from a second time. -/
theorem drop_old_forgets_successor :
    let s := ((ofMailboxes (.create "broker" 9000 4)).run reopened).2
    let dropped := (s.step (.drop "old")).2
    s.find? "old" = some (.receiver ⟨soleId, 0⟩) ∧ s.find? "new" = some (.receiver ⟨soleId, 1⟩) ∧
    (s.run [.drop "a", .openReceiver soleId "again"]).1 =
      [.done, .failed (.alreadyReceived soleId)] ∧
    (dropped.run [.drop "a", .openReceiver soleId "again"]).1 = [.done, .opened soleId] ∧
    (s.run [.drop "a"]).2.mailboxes.count = 1 ∧
    (dropped.run [.drop "a"]).2.mailboxes.count = 0 ∧
    (dropped.run [.drop "a"]).2.find? "new" = some (.receiver ⟨soleId, 1⟩) := by
  decide +kernel

end Session
end ScatterGather
