import ScatterGather.Proofs.Session.Holding

/-!
# When a mailbox closes

The receiver of a channel finds its end once a sender was opened on the channel, all senders on it
are gone, those of waiting sends included, and everything queued was taken. Until then it finds a
packet, or has to wait, in whatever order the two ends were opened and senders were dropped.

**Results.** This is so after every run in which the mailbox is not released. From then on, for as
long as the receiver is there, it finds the end of its channel whenever it asks, and whoever opens a
sender of the mailbox can send nothing.
-/

namespace ScatterGather
namespace Session

variable {s : Session} {r : Receiver} {H : History} {attached spent : Receiver → Prop}

/-- Somebody holds a sender, or a waiting send, on the channel of a receiver. -/
def HoldsSender (s : Session) (r : Receiver) : Prop :=
  ∃ name, s.find? name = some (.sender r.sender) ∨
    ∃ pending, s.find? name = some (.pendingSend pending) ∧ pending.sender = r.sender

/-- In a run from a session a sender was opened on the channel of a receiver, and no sender on it is
held any more. -/
def SendersDone (s : Session) (steps : List Step) (r : Receiver) : Prop :=
  r.sender ∈ s.opens steps ∧ ¬ (s.run steps).2.HoldsSender r

/-- Whatever is sent through the handle of a name is refused. -/
def Refuses (s : Session) (held : String) (id : MailboxId) : Prop :=
  ∀ p, (s.step (.send held p)).1 = .failed (.closed id) ∧
    ∀ name, (s.step (.sendWaiting held p name)).1 = .failed (.closed id)

theorem Orderly.lent_eq_zero_iff_not_holdsSender (h : s.Orderly H attached spent) :
    s.lent r = 0 ↔ ¬ s.HoldsSender r := by
  rw [h.lent_eq_zero_iff]
  constructor
  · rintro hnone ⟨name, hsender | ⟨pending, hpending, hon⟩⟩
    · have hzero := hnone name _ hsender
      simp [Handle.sendsOn, Sender.on] at hzero
    · have hzero := hnone name _ hpending
      simp [Handle.sendsOn, Sender.on, hon] at hzero
  · intro hnone name handle hheld
    cases handle with
    | sender sender =>
        refine if_neg ?_
        rintro rfl
        exact hnone ⟨name, Or.inl hheld⟩
    | pendingSend pending =>
        refine if_neg fun hon => ?_
        exact hnone ⟨name, Or.inr ⟨pending, hheld, hon⟩⟩
    | receiver other =>
        rfl
    | merge number =>
        rfl

/-- Whoever holds a sender on which everything is answered that the channel is closed is refused. -/
theorem refuses_of_closed
    {held : String} {sender : Sender}
    (hheld : s.find? held = some (.sender sender))
    (hsend : ∀ p, (s.mailboxes.send sender p).1 = .closed)
    (hwaiting : ∀ p, (s.mailboxes.sendWaiting sender p).1 = .closed ∧
      (s.mailboxes.sendWaiting sender p).2.1 = none) :
    s.Refuses held sender.id := by
  intro p
  constructor
  · rw [step_send hheld, hsend p]
    rfl
  · intro name
    obtain ⟨hclosed, hnone⟩ := hwaiting p
    rw [step_sendWaiting_of_none hheld hnone, hclosed]
    rfl

/-- A handle that belongs to no channel is of no use. -/
theorem refuses_of_generation_eq_none
    {held : String} {id : MailboxId}
    (hheld : s.find? held = some (.sender ⟨id, none⟩)) :
    s.Refuses held id :=
  refuses_of_closed hheld (fun _ => rfl) fun _ => ⟨rfl, rfl⟩

theorem released_not_mem_history
    {steps : List Step} {id : MailboxId}
    (h : .release id ∉ steps) :
    .released id ∉ s.history (steps.map .step) := by
  intro hmem
  obtain ⟨step, hstep, heq⟩ := List.mem_map.1 (release_of_mem_history hmem)
  cases heq
  exact h hstep

theorem find?_step_openSender (s : Session) (id : MailboxId) (name : String) :
    (s.step (.openSender id name)).2.find? name = some (.sender (s.mailboxes.openSender id).1) :=
  (find?_hold s name name _ _).trans (if_pos rfl)

/-- Once the receiver of a mailbox found the end of its channel, neither changes any more for as
long as it is there: it finds the end, and senders of the mailbox belong to no channel. -/
theorem Orderly.closed_of_ended
    {more : List Step} {watcher : Option Watcher}
    (h : s.Orderly H attached spent)
    (hreleased : .released r.id ∉ H)
    (halive : s.Alive r)
    (hended : (s.mailboxes.receive r watcher).1 = .ended)
    (hmore : .release r.id ∉ more)
    (halive' : (s.run more).2.Alive r) :
    (∀ watcher, ((s.run more).2.mailboxes.receive r watcher).1 = .ended) ∧
      ((s.run more).2.mailboxes.openSender r.id).1 = ⟨r.id, none⟩ := by
  -- The run goes on with the channel noted to be over, which every step keeps.
  have hspent := h.mailboxes.over_of_ended halive hended
  have hnoted : s.Orderly H attached (· = r) :=
    ⟨h.mailboxes.noteSpent fun _ heq => heq ▸ hspent, h.names, h.single⟩
  have hnever : .released r.id ∉ H ++ s.history (more.map .step) := by
    intro hmem
    rcases List.mem_append.1 hmem with hmem | hmem
    · exact hreleased hmem
    · exact released_not_mem_history hmore hmem
  exact (hnoted.run more).mailboxes.closed_of_spent halive' hnever rfl

/-- **Closing.** After a run in which its mailbox was not released, a receiver that is there finds
the end of its channel exactly when the senders are done and nothing is queued, and has to wait
exactly when nothing is queued and they are not done. Once it found the end, for as long as it is
there, it finds the end whatever is done, and what is sent through handles that are opened on its
mailbox is refused. -/
theorem receive_ended_iff_sendersDone
    (host : String) (mailboxPort : UInt16) (capacity : Nat) (steps : List Step) (r : Receiver)
    (hreleased : .release r.id ∉ steps) :
    let start := ofMailboxes (.create host mailboxPort capacity)
    let s := (start.run steps).2
    s.Alive r →
      (∀ watcher,
        ((s.mailboxes.receive r watcher).1 = .ended ↔
          start.SendersDone steps r ∧ s.mailboxes.queued r = 0) ∧
        ((s.mailboxes.receive r watcher).1 = .pending ↔
          s.mailboxes.queued r = 0 ∧ ¬ start.SendersDone steps r)) ∧
      (∀ name, s.find? name = some (.receiver r) →
        ((s.step (.receive name)).1 = .ended ↔
          start.SendersDone steps r ∧ s.mailboxes.queued r = 0) ∧
        ((s.step (.receive name)).1 = .pending ↔
          s.mailboxes.queued r = 0 ∧ ¬ start.SendersDone steps r)) ∧
      ((s.mailboxes.receive r none).1 = .ended →
        ∀ more, .release r.id ∉ more → (s.run more).2.Alive r →
          (∀ watcher, ((s.run more).2.mailboxes.receive r watcher).1 = .ended) ∧
          (∀ name, (s.run more).2.find? name = some (.receiver r) →
            ((s.run more).2.step (.receive name)).1 = .ended) ∧
          ∀ name, let opened := ((s.run more).2.step (.openSender r.id name)).2
            opened.find? name = some (.sender ⟨r.id, none⟩) ∧
            ∀ rest held, (opened.run rest).2.find? held = some (.sender ⟨r.id, none⟩) →
              (opened.run rest).2.Refuses held r.id) := by
  intro start s halive
  have horderly : s.Orderly (start.history (steps.map .step))
      (fun r => r.sender ∈ start.opens steps) (fun _ => False) :=
    orderly_run host mailboxPort capacity steps
  have hreception : ∀ watcher,
      ((s.mailboxes.receive r watcher).1 = .ended ↔
        start.SendersDone steps r ∧ s.mailboxes.queued r = 0) ∧
      ((s.mailboxes.receive r watcher).1 = .pending ↔
        s.mailboxes.queued r = 0 ∧ ¬ start.SendersDone steps r) := by
    intro watcher
    have hiff := horderly.mailboxes.receive_iff halive (released_not_mem_history hreleased) watcher
    rwa [horderly.lent_eq_zero_iff_not_holdsSender] at hiff
  refine ⟨hreception, fun name hheld => ?_, fun hended more hmore halive' => ?_⟩
  · obtain ⟨hends, hpends⟩ := answers_receive hheld
    exact ⟨hends.trans (hreception none).1, hpends.trans (hreception none).2⟩
  · obtain ⟨hends, hopened⟩ :=
      horderly.closed_of_ended (released_not_mem_history hreleased) halive hended hmore halive'
    refine ⟨hends, fun name hheld => (answers_receive hheld).1.2 (hends none), fun name => ⟨?_, ?_⟩⟩
    · rw [find?_step_openSender, hopened]
    · exact fun rest held hheld => refuses_of_generation_eq_none hheld

/-- A worker comes, sends a packet and goes, all before the receiver comes. -/
def comeAndGo : List Step :=
  [.openSender soleId "a", .send "a" .heartbeat, .drop "a", .openReceiver soleId "in",
   .receive "in"]

/-- The receiver finds the end, and a worker that comes later is refused. -/
theorem receive_ended_iff_sendersDone_comeAndGo :
    let start := ofMailboxes (.create "broker" 9000 4)
    let s := (start.run comeAndGo).2
    .release soleId ∉ comeAndGo ∧ s.find? "in" = some (.receiver ⟨soleId, 0⟩) ∧
    start.SendersDone comeAndGo ⟨soleId, 0⟩ ∧
    (s.step (.receive "in")).1 = .ended ∧
    (s.step (.openSender soleId "b")).2.Refuses "b" soleId := by
  have hreleased : .release soleId ∉ comeAndGo := by decide +kernel
  have hheld : ((ofMailboxes (.create "broker" 9000 4)).run comeAndGo).2.find? "in" =
      some (.receiver ⟨soleId, 0⟩) := by decide +kernel
  have hended : (((ofMailboxes (.create "broker" 9000 4)).run comeAndGo).2.mailboxes.receive
      ⟨soleId, 0⟩ none).1 = .ended := by decide +kernel
  have halive : Session.Alive _ ⟨soleId, 0⟩ := Or.inl ⟨"in", hheld⟩
  obtain ⟨hreception, hnamed, hlater⟩ :=
    receive_ended_iff_sendersDone "broker" 9000 4 comeAndGo ⟨soleId, 0⟩ hreleased halive
  obtain ⟨hdone, hqueued⟩ := (hreception none).1.1 hended
  obtain ⟨-, -, hopened⟩ :=
    hlater hended [] (by simp) (by simpa only [Session.run] using halive)
  obtain ⟨hgiven, hrefused⟩ := hopened "b"
  have hrefuses := hrefused [] "b" (by simpa only [Session.run] using hgiven)
  refine ⟨hreleased, hheld, hdone, (hnamed "in" hheld).1.2 ⟨hdone, hqueued⟩, ?_⟩
  simpa only [Session.run] using hrefuses

end Session
end ScatterGather
