import ScatterGather.Proofs.Mailboxes.Regular

/-!
# Mailboxes in order

What keeps each other right in the mailboxes of a process: agreement with a history, merges that are
wired, senders that are accounted for, and open channels for all receivers that others than merges
have.

**Results.** Every operation keeps mailboxes in order, if those who drop a handle, or send through
it, have it. For a receiver that somebody has, it is said when its channel ends.
-/

namespace ScatterGather
namespace Mailboxes

variable {H H' : History} {outer outer' given used : Receiver → Prop} {lent lent' : Receiver → Nat}
variable {attached spent : Receiver → Prop} {s s' : Mailboxes} {sender : Sender} {r : Receiver}

/-- Mailboxes that are in order, where others than merges have the receivers `outer` and as many
senders as are `lent`. Senders were opened on the channels `attached`. -/
structure Orderly (H : History) (outer : Receiver → Prop) (lent : Receiver → Nat)
    (attached spent : Receiver → Prop) (s : Mailboxes) : Prop where
  sound : s.Sound H outer
  wired : s.Wired
  regular : s.Regular H lent attached spent
  opened : ∀ r, outer r → s.Open r

/-- A receiver that was given out and not dropped: others have it, or a merge receives from it. -/
def Alive (outer : Receiver → Prop) (s : Mailboxes) (r : Receiver) : Prop :=
  outer r ∨ ∃ number m, Registry.find? s.merges number = some m ∧
    ∃ i ∈ m.live, m.receivers[i]? = some r

namespace Orderly

/-- Fewer receivers may be looked upon as given out. -/
theorem mono
    (h : s.Orderly H outer lent attached spent)
    (houter : ∀ r, outer' r → outer r) :
    s.Orderly H outer' lent attached spent where
  sound := h.sound.mono houter
  wired := h.wired
  regular := h.regular
  opened r hr := h.opened r (houter r hr)

theorem congr
    {attached' : Receiver → Prop}
    (h : s.Orderly H outer lent attached spent)
    (hlent : ∀ r, lent' r = lent r)
    (hattached : ∀ r, attached' r ↔ attached r) :
    s.Orderly H outer lent' attached' spent := by
  obtain rfl : lent' = lent := funext hlent
  obtain rfl : attached' = attached := funext fun r => propext (hattached r)
  exact h

/-- A channel that is over may be noted as such. -/
theorem noteSpent
    {spent' : Receiver → Prop}
    (h : s.Orderly H outer lent attached spent)
    (hspent : ∀ r, spent' r → (s.box r.id).Over r.generation) :
    s.Orderly H outer lent attached spent' where
  sound := h.sound
  wired := h.wired
  regular id :=
    { h.regular id with spent := fun g hg => hspent ⟨id, g⟩ hg }
  opened := h.opened

/-! ## Senders -/

theorem openSender
    (h : s.Orderly H outer lent attached spent)
    (id : MailboxId) :
    (s.openSender id).2.Orderly H outer (fun r => lent r + (s.openSender id).1.on r)
      (fun r => attached r ∨ (s.openSender id).1 = r.sender) spent where
  sound := h.sound.quietly (evolves_openSender s id) (onward_openSender s id).retains
  wired := h.wired.openSender id
  regular := h.regular.openSender id
  opened r hr := (evolves_openSender s id).open (by simp) (h.opened r hr)

theorem cloneSender
    (h : s.Orderly H outer lent attached spent)
    (hlent : ∀ r, sender = r.sender → 0 < lent r) :
    (s.cloneSender sender).Orderly H outer (fun r => lent r + sender.on r) attached spent where
  sound := h.sound.quietly (evolves_cloneSender s sender) (onward_cloneSender s sender).retains
  wired := h.wired.cloneSender sender
  regular := h.regular.cloneSender hlent
  opened r hr := (evolves_cloneSender s sender).open (by simp) (h.opened r hr)

theorem dropSender
    (h : s.Orderly H outer lent attached spent)
    (hlent : ∀ r, lent r = lent' r + sender.on r) :
    (s.dropSender sender).Orderly H outer lent' attached spent where
  sound := h.sound.quietly (evolves_dropSender s sender) (onward_dropSender s sender).retains
  wired := h.wired.dropSender sender
  regular := h.regular.dropSender hlent
  opened r hr := (evolves_dropSender s sender).open (by simp) (h.opened r hr)

theorem open_send
    (h : s.Open r)
    (sender : Sender) (p : Packet) :
    (s.send sender p).2.Open r := by
  rcases evolves_send s sender p with ⟨g, -, -, he⟩ | ⟨-, he⟩
  · refine he.open ?_ h
    by_cases heq : (⟨sender.id, g⟩ : Receiver) = r <;> simp [Change.at?, heq]
  · exact he.open (by simp) h

theorem send
    (h : s.Orderly H outer lent attached spent)
    (hlent : ∀ r, sender = r.sender → 0 < lent r)
    (p : Packet) :
    (s.send sender p).2.Orderly (H ++ sender.accepts p (s.send sender p).1) outer lent attached
      spent where
  sound := h.sound.send sender p
  wired := h.wired.send sender p
  regular := (h.regular.send hlent p).later _
  opened r hr := open_send (h.opened r hr) sender p

theorem open_sendWaiting
    (h : s.Open r)
    (sender : Sender) (p : Packet) :
    (s.sendWaiting sender p).2.2.Open r := by
  have hsent := open_send ((evolves_cloneSender s sender).open (by simp) h) sender p
  unfold Mailboxes.sendWaiting
  dsimp only
  split
  · next s' generation hsend _ =>
      rw [hsend] at hsent
      exact (evolves_join s' sender.id generation).open (by simp) hsent
  · next s' hsend _ =>
      rw [hsend] at hsent
      exact (evolves_dropSender s' sender).open (by simp) hsent

theorem sendWaiting
    (h : s.Orderly H outer lent attached spent)
    (hlent : ∀ r, sender = r.sender → 0 < lent r)
    (p : Packet) :
    (∀ pending, (s.sendWaiting sender p).2.1 = some pending → pending.sender = sender ∧
      (s.sendWaiting sender p).2.2.Orderly (H ++ sender.accepts p (s.sendWaiting sender p).1) outer
        (fun r => lent r + sender.on r) attached spent) ∧
    ((s.sendWaiting sender p).2.1 = none →
      (s.sendWaiting sender p).2.2.Orderly (H ++ sender.accepts p (s.sendWaiting sender p).1) outer
        lent attached spent) := by
  have hsound := h.sound.sendWaiting sender p
  have hwired := h.wired.sendWaiting sender p
  have hopened := fun r hr => open_sendWaiting (h.opened r hr) sender p
  obtain ⟨hwaits, hdone⟩ := h.regular.sendWaiting hlent p
  constructor
  · intro pending hpending
    obtain ⟨hsender, hregular⟩ := hwaits pending hpending
    exact ⟨hsender, hsound, hwired, hregular.later _, hopened⟩
  · intro hnone
    exact ⟨hsound, hwired, (hdone hnone).later _, hopened⟩

theorem open_retry
    (h : s.Open r)
    (pending : PendingSend) :
    (s.retry pending).2.Open r := by
  have hredeemed : (s.update pending.id fun box =>
      box.redeem pending.generation pending.ticket pending.packet).2.Open r := by
    rcases evolves_redeem s pending.id pending.generation pending.ticket pending.packet with
      ⟨-, he⟩ | ⟨-, he⟩
    · refine he.open ?_ h
      by_cases heq : (⟨pending.id, pending.generation⟩ : Receiver) = r <;> simp [Change.at?, heq]
    · exact he.open (by simp) h
  unfold Mailboxes.retry
  split
  · next hredeem =>
      rw [hredeem] at hredeemed
      exact hredeemed
  · next s' _ hredeem =>
      rw [hredeem] at hredeemed
      exact (evolves_dropSender s' pending.sender).open (by simp) hredeemed

theorem retry
    {pending : PendingSend}
    (h : s.Orderly H outer lent attached spent)
    (hlent : ∀ r, lent r = lent' r + pending.sender.on r) :
    ((s.retry pending).1 = .full →
      (s.retry pending).2.Orderly
        (H ++ pending.sender.accepts pending.packet (s.retry pending).1) outer lent attached
        spent) ∧
    ((s.retry pending).1 ≠ .full →
      (s.retry pending).2.Orderly
        (H ++ pending.sender.accepts pending.packet (s.retry pending).1) outer lent' attached
        spent) := by
  have hsound := h.sound.retry pending
  have hwired := h.wired.retry pending
  have hopened := fun r hr => open_retry (h.opened r hr) pending
  obtain ⟨hwaits, hdone⟩ := h.regular.retry hlent
  constructor
  · exact fun hfull => ⟨hsound, hwired, (hwaits hfull).later _, hopened⟩
  · exact fun hfull => ⟨hsound, hwired, (hdone hfull).later _, hopened⟩

theorem dropPendingSend
    {pending : PendingSend}
    (h : s.Orderly H outer lent attached spent)
    (hlent : ∀ r, lent r = lent' r + pending.sender.on r) :
    (s.dropPendingSend pending).Orderly H outer lent' attached spent where
  sound := h.sound.dropPendingSend pending
  wired := h.wired.dropPendingSend pending
  regular := h.regular.dropPendingSend hlent
  opened r hr := by
    have hforgotten := (evolves_forgetSend s pending.id pending.generation pending.ticket).open
      (by simp) (h.opened r hr)
    exact (evolves_dropSender _ pending.sender).open (by simp) hforgotten

/-! ## Receivers -/

theorem ask
    (h : s.Orderly H outer lent attached spent)
    (id : MailboxId) :
    s.Orderly (H ++ [.asked id]) outer lent attached spent where
  sound := h.sound.ask id
  wired := h.wired
  regular := h.regular.later _
  opened := h.opened

/-- A receiver that is given out comes to the others. -/
theorem openReceiver
    {id : MailboxId}
    (h : s.Orderly H outer lent attached spent)
    (hasked : .asked id ∈ H)
    (hanswer : (s.openReceiver id).1 = .ok r) :
    (s.openReceiver id).2.Orderly H (fun other => outer other ∨ other = r) lent attached spent where
  sound := h.sound.openReceiver hasked hanswer
  wired := h.wired.openReceiver id
  regular := h.regular.openReceiver id
  opened other hother := by
    rcases hother with hother | rfl
    · exact (evolves_openReceiver s id).open (by simp) (h.opened other hother)
    · exact (h.sound.untouched_of_openReceiver hanswer).2

theorem refuseReceiver
    {id : MailboxId}
    (h : s.Orderly H outer lent attached spent)
    (hasked : .asked id ∈ H) :
    (s.openReceiver id).2.Orderly H outer lent attached spent where
  sound := h.sound.quietly (evolves_openReceiver s id) (retains_openReceiver hasked)
  wired := h.wired.openReceiver id
  regular := h.regular.openReceiver id
  opened r hr := (evolves_openReceiver s id).open (by simp) (h.opened r hr)

/-- A receiver takes a packet or not, as the history tells. -/
theorem receive
    (h : s.Orderly H outer lent attached spent)
    (hsound : (s.receive r none).2.Sound H' outer)
    (hreleased : ∀ id, .released id ∉ H' → .released id ∉ H) :
    (s.receive r none).2.Orderly H' outer lent attached spent where
  sound := hsound
  wired := h.wired.receive fun w hw => by cases hw
  regular id := ((h.regular.receive r none) id).congr (fun _ => rfl) (fun _ => Iff.rfl)
    (hreleased id)
  opened other hother := (h.opened other hother).receive r none

/-- A receiver is dropped, and nobody has it any more. -/
theorem dropReceiver
    (h : s.Orderly H outer lent attached spent)
    (hr : outer r)
    (houter : ∀ other, outer' other → outer other ∧ other ≠ r) :
    (s.dropReceiver r).Orderly H outer' lent attached spent where
  sound := (h.sound.dropReceiver hr).mono fun other hother => (houter other hother).1
  wired := h.wired.dropReceiver r
  regular := h.regular.dropReceiver (h.opened r hr) (h.sound.issued none r hr).2
  opened other hother := by
    obtain ⟨hother, hne⟩ := houter other hother
    exact (h.opened other hother).dropReceiver (h.opened r hr) (Ne.symm hne)

theorem release
    (h : s.Orderly H outer lent attached spent)
    (id : MailboxId) :
    (s.release id).Orderly (H ++ [.released id]) outer lent attached spent where
  sound := h.sound.release id
  wired := h.wired.release id
  regular := h.regular.release id
  opened r hr := by
    obtain ⟨-, hgiven⟩ := h.sound.issued none r hr
    have hkept : ∀ r, (s.slot r).kept → (s.slot r).channel? ≠ none := by
      intro r hr
      obtain ⟨-, c, hc, -⟩ := (h.sound.accounts r).kept hr
      simp [hc]
    -- At most the channel is closed whose receiver the mailbox still keeps. Nobody has that one.
    rcases evolves_release hkept with he | ⟨other, hother, he, -⟩
    · exact he.open (by simp) (h.opened r hr)
    · refine he.open ?_ (h.opened r hr)
      rw [Change.at?_of_ne]
      · simp
      · rintro rfl
        exact hgiven hother

/-! ## Merges -/

/-- A merge is used. -/
theorem serve
    (h : s.Orderly H outer lent attached spent)
    (hserves : Serves given used s s')
    (hspared : ∀ r, outer r → ¬ used r)
    (hwired : s'.Wired)
    {events : List Event}
    (hsound : s'.Sound (H ++ events) outer) :
    s'.Orderly (H ++ events) outer lent attached spent where
  sound := hsound
  wired := hwired
  regular := (h.regular.serves hserves).later events
  opened r hr := hserves.open (h.opened r hr) (hspared r hr)

theorem openMerge
    (h : s.Orderly H outer lent attached spent)
    (request : MergeRequest) :
    (s.openMerge request).2.Orderly (H ++ request.asks) outer lent attached spent :=
  h.serve (h.sound.serves_openMerge request) (fun _ hr hused => hused.1 hr)
    (h.wired.openMerge request) (h.sound.openMerge request)

theorem dropMerge
    (h : s.Orderly H outer lent attached spent)
    (number : Nat) :
    (s.dropMerge number).Orderly H outer lent attached spent := by
  have hdropped := h.sound.dropMerge number
  rw [← List.append_nil H] at hdropped
  have hserved := h.serve (h.sound.serves_dropMerge h.wired number)
    (fun _ hr hused => h.sound.not_outer hused hr) (h.wired.dropMerge number) hdropped
  rwa [List.append_nil] at hserved

/-- Mailboxes on which nothing was done. -/
theorem create
    {host : String} {mailboxPort : UInt16} {capacity : Nat}
    (hsound : (Mailboxes.create host mailboxPort capacity).Sound H outer)
    (houter : ∀ r, ¬ outer r) :
    (Mailboxes.create host mailboxPort capacity).Orderly H outer (fun _ => 0) (fun _ => False)
      (fun _ => False) where
  sound := hsound
  wired := wired_create host mailboxPort capacity
  regular _ := .fresh
  opened r hr := absurd hr (houter r)

/-! ## When a channel ends -/

theorem issued_of_alive
    (h : s.Orderly H outer lent attached spent)
    (halive : s.Alive outer r) :
    s.Open r ∧ ¬ (s.box r.id).Keeps r.generation := by
  rcases halive with houter | ⟨number, m, hm, i, hi, hr⟩
  · exact ⟨h.opened r houter, (h.sound.issued none r houter).2⟩
  · have hholds : s.Holds outer (some number) r := ⟨m, hm, List.mem_of_getElem? hr⟩
    exact ⟨(h.sound.follows number m hm).live i r hr hi, (h.sound.issued _ r hholds).2⟩

/-- A receiver that is alive finds the end of its channel when a sender was opened on it, none is
lent any more, and nothing is queued; when something of this is missing and nothing is queued, it
has to wait. -/
theorem receive_iff
    (h : s.Orderly H outer lent attached spent)
    (halive : s.Alive outer r)
    (hreleased : .released r.id ∉ H)
    (watcher : Option Watcher) :
    ((s.receive r watcher).1 = .ended ↔ (attached r ∧ lent r = 0) ∧ s.queued r = 0) ∧
      ((s.receive r watcher).1 = .pending ↔ s.queued r = 0 ∧ ¬ (attached r ∧ lent r = 0)) := by
  obtain ⟨hopen, hgiven⟩ := h.issued_of_alive halive
  have hsenders := (h.regular r.id).senders_eq_zero_iff hreleased hopen hgiven
  obtain ⟨c, hc, -⟩ := hopen
  rw [Mailbox.senders_of_getElem? hc] at hsenders
  have hqueued : s.queued r = 0 ↔ c.queue = [] := by
    rw [queued, hc]
    exact List.length_eq_zero_iff
  constructor
  · refine (Mailbox.receive_ended_iff hc watcher).trans ?_
    rw [hqueued, hsenders]
    exact and_comm
  · refine (Mailbox.receive_pending_iff hc watcher).trans ?_
    rw [hqueued, Ne, hsenders]

/-- Once a receiver found the end of its channel, the channel is over. -/
theorem over_of_ended
    {watcher : Option Watcher}
    (h : s.Orderly H outer lent attached spent)
    (halive : s.Alive outer r)
    (hended : (s.receive r watcher).1 = .ended) :
    (s.box r.id).Over r.generation := by
  obtain ⟨c, hc, -⟩ := (h.issued_of_alive halive).1
  obtain ⟨hqueue, hsenders⟩ := (Mailbox.receive_ended_iff hc watcher).1 hended
  exact (h.regular r.id).over_of_senders hc hsenders hqueue

/-- While the receiver of a channel that is over is alive, it finds the end of its channel, and no
sender of its mailbox belongs to a channel. -/
theorem closed_of_spent
    (h : s.Orderly H outer lent attached spent)
    (halive : s.Alive outer r)
    (hreleased : .released r.id ∉ H)
    (hspent : spent r) :
    (∀ watcher, (s.receive r watcher).1 = .ended) ∧ (s.openSender r.id).1 = ⟨r.id, none⟩ := by
  obtain ⟨hopen, -⟩ := h.issued_of_alive halive
  have hregular := h.regular r.id
  constructor
  · intro watcher
    exact congrArg Mailbox.Outcome.answer ((hregular.spent _ hspent).receive_eq watcher)
  · have hanswer := hregular.openSender_of_spent hreleased hopen hspent s.capacity
    exact congrArg (Sender.mk r.id) hanswer

end Orderly
end Mailboxes
end ScatterGather
