import ScatterGather.Session

/-!
# Steps and the handles that they use

A step that uses a handle looks it up by its name and asks for one of its own kind. Where there is no
such handle, nothing is done. All other steps name a mailbox, or make a merge.

**Results.** `uses_step`: how a step stands to what is held. What is said of steps elsewhere goes by
this list, with one equation for each kind of step whose handle was found, and one for all steps
whose handle was not.
-/

namespace ScatterGather
namespace Session

variable {s : Session} {held name : String} {p : Packet}

/-- A step asks for a handle that is not held under the name it gives. -/
def Misses (s : Session) : Step → Prop
  | .cloneSender held _ | .send held _ | .sendWaiting held _ _ =>
    ∀ sender, s.find? held ≠ some (.sender sender)
  | .drop held => s.find? held = none
  | .retry held => ∀ pending, s.find? held ≠ some (.pendingSend pending)
  | .receive held => ∀ r, s.find? held ≠ some (.receiver r)
  | .pull held => ∀ number, s.find? held ≠ some (.merge number)
  | _ => False

/-- How a step stands to what is held. -/
inductive Uses (s : Session) : Step → Prop where
  | openSender (id : MailboxId) (name : String) : Uses s (.openSender id name)
  | openReceiver (id : MailboxId) (name : String) : Uses s (.openReceiver id name)
  | openMerge (request : MergeRequest) (name : String) : Uses s (.openMerge request name)
  | release (id : MailboxId) : Uses s (.release id)
  | cloneSender
      {held : String} {sender : Sender}
      (hheld : s.find? held = some (.sender sender))
      (name : String) :
      Uses s (.cloneSender held name)
  | drop
      {held : String} {handle : Handle}
      (hheld : s.find? held = some handle) :
      Uses s (.drop held)
  | send
      {held : String} {sender : Sender}
      (hheld : s.find? held = some (.sender sender))
      (p : Packet) :
      Uses s (.send held p)
  | sendWaiting
      {held : String} {sender : Sender}
      (hheld : s.find? held = some (.sender sender))
      (p : Packet) (name : String) :
      Uses s (.sendWaiting held p name)
  | retry
      {held : String} {pending : PendingSend}
      (hheld : s.find? held = some (.pendingSend pending)) :
      Uses s (.retry held)
  | receive
      {held : String} {r : Receiver}
      (hheld : s.find? held = some (.receiver r)) :
      Uses s (.receive held)
  | pull
      {held : String} {number : Nat}
      (hheld : s.find? held = some (.merge number)) :
      Uses s (.pull held)
  | misses {step : Step} (h : s.Misses step) : Uses s step

theorem uses_step (s : Session) (step : Step) : s.Uses step := by
  cases step with
  | openSender id name =>
      exact .openSender id name
  | openReceiver id name =>
      exact .openReceiver id name
  | openMerge request name =>
      exact .openMerge request name
  | release id =>
      exact .release id
  | cloneSender held name =>
      by_cases hheld : ∃ sender, s.find? held = some (.sender sender)
      · exact .cloneSender hheld.choose_spec name
      · exact .misses (not_exists.1 hheld)
  | drop held =>
      cases hheld : s.find? held with
      | some handle =>
          exact .drop hheld
      | none =>
          exact .misses hheld
  | send held p =>
      by_cases hheld : ∃ sender, s.find? held = some (.sender sender)
      · exact .send hheld.choose_spec p
      · exact .misses (not_exists.1 hheld)
  | sendWaiting held p name =>
      by_cases hheld : ∃ sender, s.find? held = some (.sender sender)
      · exact .sendWaiting hheld.choose_spec p name
      · exact .misses (not_exists.1 hheld)
  | retry held =>
      by_cases hheld : ∃ pending, s.find? held = some (.pendingSend pending)
      · exact .retry hheld.choose_spec
      · exact .misses (not_exists.1 hheld)
  | receive held =>
      by_cases hheld : ∃ r, s.find? held = some (.receiver r)
      · exact .receive hheld.choose_spec
      · exact .misses (not_exists.1 hheld)
  | pull held =>
      by_cases hheld : ∃ number, s.find? held = some (.merge number)
      · exact .pull hheld.choose_spec
      · exact .misses (not_exists.1 hheld)

/-! ## What a step does with its handle -/

/-- A step that does not find its handle does nothing. -/
theorem step_of_misses
    {step : Step}
    (h : s.Misses step) :
    s.step step = (.notHeld, s) := by
  cases step with
  | openSender | openReceiver | openMerge | release => exact h.elim
  | drop held => simp [Session.step, show s.find? held = none from h]
  | _ =>
      simp only [Session.step]
      split
      · next hfound => exact absurd hfound (h _)
      · rfl

theorem step_cloneSender
    {sender : Sender}
    (hheld : s.find? held = some (.sender sender)) :
    s.step (.cloneSender held name) =
      (.done, s.hold name (.sender sender) (s.mailboxes.cloneSender sender)) := by
  simp [Session.step, hheld]

theorem step_drop
    {handle : Handle}
    (hheld : s.find? held = some handle) :
    s.step (.drop held) = (.done, s.without held (s.mailboxes.dropHandle handle)) := by
  simp [Session.step, hheld]

theorem step_send
    {sender : Sender}
    (hheld : s.find? held = some (.sender sender)) :
    s.step (.send held p) =
      (answerSend sender.id (s.mailboxes.send sender p).1,
        s.withMailboxes (s.mailboxes.send sender p).2) := by
  simp [Session.step, hheld]

/-- A send that need not wait. -/
theorem step_sendWaiting_of_none
    {sender : Sender}
    (hheld : s.find? held = some (.sender sender))
    (hdone : (s.mailboxes.sendWaiting sender p).2.1 = none) :
    s.step (.sendWaiting held p name) =
      (answerSend sender.id (s.mailboxes.sendWaiting sender p).1,
        s.withMailboxes (s.mailboxes.sendWaiting sender p).2.2) := by
  simp only [Session.step, hheld]
  generalize s.mailboxes.sendWaiting sender p = answered at hdone ⊢
  obtain ⟨answer, pending?, mailboxes⟩ := answered
  cases hdone
  rfl

/-- A send that waits. -/
theorem step_sendWaiting_of_some
    {sender : Sender} {pending : PendingSend}
    (hheld : s.find? held = some (.sender sender))
    (hwaits : (s.mailboxes.sendWaiting sender p).2.1 = some pending) :
    s.step (.sendWaiting held p name) =
      (.waiting, s.hold name (.pendingSend pending) (s.mailboxes.sendWaiting sender p).2.2) := by
  simp only [Session.step, hheld]
  generalize s.mailboxes.sendWaiting sender p = answered at hwaits ⊢
  obtain ⟨answer, pending?, mailboxes⟩ := answered
  cases hwaits
  rfl

/-- A waiting send that goes on waiting. -/
theorem step_retry_of_full
    {pending : PendingSend}
    (hheld : s.find? held = some (.pendingSend pending))
    (hfull : (s.mailboxes.retry pending).1 = .full) :
    s.step (.retry held) = (.waiting, s.withMailboxes (s.mailboxes.retry pending).2) := by
  simp only [Session.step, hheld]
  generalize s.mailboxes.retry pending = answered at hfull ⊢
  obtain ⟨answer, mailboxes⟩ := answered
  cases hfull
  rfl

/-- A waiting send that is answered. -/
theorem step_retry_of_ne_full
    {pending : PendingSend}
    (hheld : s.find? held = some (.pendingSend pending))
    (hdone : (s.mailboxes.retry pending).1 ≠ .full) :
    s.step (.retry held) =
      (answerSend pending.id (s.mailboxes.retry pending).1,
        s.without held (s.mailboxes.retry pending).2) := by
  -- The case of a send that goes on waiting comes first, and `hdone` excludes it.
  simp only [Session.step, hheld]

/-- How one who asks a receiver by its name is answered. -/
def answerReception : Reception → Answer
  | .packet p => .packet p
  | .ended => .ended
  | .pending => .pending

theorem step_receive
    {r : Receiver}
    (hheld : s.find? held = some (.receiver r)) :
    s.step (.receive held) =
      (answerReception (s.mailboxes.receive r none).1,
        s.withMailboxes (s.mailboxes.receive r none).2) := by
  simp only [Session.step, hheld]
  generalize s.mailboxes.receive r none = answered
  obtain ⟨answer, mailboxes⟩ := answered
  cases answer <;> rfl

/-- How one who pulls from a merge by its name is answered. -/
def answerPull : Option Packet → Answer
  | some p => .packet p
  | none => .pending

theorem step_pull
    {number : Nat}
    (hheld : s.find? held = some (.merge number)) :
    s.step (.pull held) =
      (answerPull (s.mailboxes.pull number).packet,
        s.withMailboxes (s.mailboxes.pull number).mailboxes) := by
  simp only [Session.step, hheld]
  cases (s.mailboxes.pull number).packet <;> rfl

/-! ## Steps that open something -/

theorem step_openReceiver_of_ok
    {id : MailboxId} {r : Receiver}
    (hanswer : (s.mailboxes.openReceiver id).1 = .ok r) :
    s.step (.openReceiver id name) =
      (.opened id, s.hold name (.receiver r) (s.mailboxes.openReceiver id).2) := by
  simp only [Session.step]
  generalize s.mailboxes.openReceiver id = answered at hanswer ⊢
  obtain ⟨answer, mailboxes⟩ := answered
  cases hanswer
  rfl

theorem step_openReceiver_of_error
    {id : MailboxId} {fault : MailboxFault}
    (hanswer : (s.mailboxes.openReceiver id).1 = .error fault) :
    s.step (.openReceiver id name) =
      (.failed fault, s.withMailboxes (s.mailboxes.openReceiver id).2) := by
  simp only [Session.step]
  generalize s.mailboxes.openReceiver id = answered at hanswer ⊢
  obtain ⟨answer, mailboxes⟩ := answered
  cases hanswer
  rfl

/-- A merge that was opened is held, and one that was not leaves the names as they are. -/
theorem step_openMerge (s : Session) (request : MergeRequest) (name : String) :
    (s.step (.openMerge request name)).2 =
        s.withMailboxes (s.mailboxes.openMerge request).2 ∨
      ∃ number, (s.mailboxes.openMerge request).1 = .ok number ∧
        (s.step (.openMerge request name)).2 =
          s.hold name (.merge number) (s.mailboxes.openMerge request).2 := by
  simp only [Session.step]
  generalize s.mailboxes.openMerge request = answered
  obtain ⟨answer, mailboxes⟩ := answered
  cases answer with
  | error fault =>
      exact Or.inl rfl
  | ok number =>
      dsimp only
      cases Registry.find? mailboxes.merges number with
      | none =>
          exact Or.inl rfl
      | some m =>
          exact Or.inr ⟨number, rfl, rfl⟩

end Session
end ScatterGather
