import ScatterGather.Proofs.Mailboxes.Locality
import ScatterGather.Proofs.Session.Acts

/-!
# Steps as operations on one mailbox

A step acts on one mailbox: on the one it names, or on that of the handle it uses. Merges, which act
on many mailboxes at once, are left aside.

**Results.** `step_eq_settle`: a step is an operation on the mailboxes, given the handle that it
uses, and a change of the names. `concerns_operation`: the operation keeps to the mailbox that the
step acts on, and only handles on this mailbox come and go by it.
-/

namespace ScatterGather

namespace Handle

/-- The mailbox of a handle; a merge has many. -/
def mailbox? : Handle → Option MailboxId
  | .sender h => some h.id
  | .pendingSend h => some h.id
  | .receiver h => some h.id
  | .merge _ => none

end Handle

namespace Step

/-- Whether a step is about single mailboxes, not about merges. -/
def single : Step → Bool
  | .openMerge .. | .pull .. => false
  | _ => true

/-- The mailbox that a step names by its identifier. -/
def target? : Step → Option MailboxId
  | .openSender id _ | .openReceiver id _ | .release id => some id
  | _ => none

/-- The name of the handle that a step uses. -/
def held? : Step → Option String
  | .cloneSender held _ | .drop held | .send held _ | .sendWaiting held _ _ | .retry held
  | .receive held => some held
  | _ => none

/-- The name that a step may give to a new handle. -/
def name? : Step → Option String
  | .openSender _ name | .cloneSender _ name | .sendWaiting _ _ name | .openReceiver _ name =>
      some name
  | _ => none

end Step

namespace Session

variable {s : Session} {id : MailboxId} {step : Step}

/-- The handle that a step uses. -/
def used? (s : Session) (step : Step) : Option Handle :=
  step.held?.bind s.find?

/-- The mailbox that a step acts on. -/
def on? (s : Session) (step : Step) : Option MailboxId :=
  step.target?.or ((s.used? step).bind Handle.mailbox?)

/-! ## A step as an operation on one mailbox -/

/-- What becomes of the names once an operation was done. -/
inductive Naming where
  | same
  | takes (name : String) (h : Handle)
  | leaves (held : String)

/-- The session after an operation on the mailboxes. -/
def settle (s : Session) (outcome : (Answer × Naming) × Mailboxes) : Answer × Session :=
  match outcome with
  | ((answer, .same), mailboxes) => (answer, s.withMailboxes mailboxes)
  | ((answer, .takes name h), mailboxes) => (answer, s.hold name h mailboxes)
  | ((answer, .leaves held), mailboxes) => (answer, s.without held mailboxes)

/-- What comes of a send that may wait. -/
def afterSend (id : MailboxId) (name : String) :
    SendAnswer × Option PendingSend → Answer × Naming
  | (_, some pending) => (.waiting, .takes name (.pendingSend pending))
  | (answer, none) => (answerSend id answer, .same)

/-- What comes of a waiting send that is tried again. -/
def afterRetry (id : MailboxId) (held : String) : SendAnswer → Answer × Naming
  | .full => (.waiting, .same)
  | answer => (answerSend id answer, .leaves held)

/-- What comes of asking for a receiver. -/
def afterOpening (id : MailboxId) (name : String) :
    Except MailboxFault Receiver → Answer × Naming
  | .ok r => (.opened id, .takes name (.receiver r))
  | .error fault => (.failed fault, .same)

/-- What a step does to the mailboxes, given the handle that it uses. -/
def operation : Step → Option Handle → Mailboxes → (Answer × Naming) × Mailboxes
  | .openSender id name, _, m =>
    ((.opened id, .takes name (.sender (m.openSender id).1)), (m.openSender id).2)
  | .cloneSender _ name, some (.sender h), m => ((.done, .takes name (.sender h)), m.cloneSender h)
  | .drop held, some h, m => ((.done, .leaves held), m.dropHandle h)
  | .send _ p, some (.sender h), m =>
    ((answerSend h.id (m.send h p).1, .same), (m.send h p).2)
  | .sendWaiting _ p name, some (.sender h), m =>
    (afterSend h.id name ((m.sendWaiting h p).1, (m.sendWaiting h p).2.1),
      (m.sendWaiting h p).2.2)
  | .retry held, some (.pendingSend h), m =>
    (afterRetry h.id held (m.retry h).1, (m.retry h).2)
  | .openReceiver id name, _, m =>
    (afterOpening id name (m.openReceiver id).1, (m.openReceiver id).2)
  | .receive _, some (.receiver r), m =>
    ((answerReception (m.receive r none).1, .same), (m.receive r none).2)
  | .release id, _, m => ((.done, .same), m.release id)
  | _, _, m => ((.notHeld, .same), m)

/-- The operation of a step that does not find its handle. -/
theorem operation_of_misses
    (h : s.Misses step)
    (m : Mailboxes) :
    operation step (s.used? step) m = ((.notHeld, .same), m) := by
  cases hused : s.used? step with
  | none =>
      cases step <;> first | rfl | exact h.elim
  | some handle =>
      cases step with
      | openSender | openReceiver | release => exact h.elim
      | drop held => cases hused.symm.trans h
      -- A handle of another kind is answered like none.
      | _ => cases handle <;> first | rfl | exact absurd hused (h _)

/-- A step is the operation that it does. -/
theorem step_eq_settle
    (s : Session)
    (hsingle : step.single = true) :
    s.step step = s.settle (operation step (s.used? step) s.mailboxes) := by
  cases s.uses_step step with
  | openSender id name =>
      rfl
  | openReceiver id name =>
      cases hanswer : (s.mailboxes.openReceiver id).1 with
      | error fault =>
          rw [step_openReceiver_of_error hanswer, operation, hanswer]
          rfl
      | ok r =>
          rw [step_openReceiver_of_ok hanswer, operation, hanswer]
          rfl
  | openMerge request name =>
      cases hsingle
  | release id =>
      rfl
  | @cloneSender held sender hheld name =>
      rw [step_cloneSender hheld, show s.used? (.cloneSender held name) = _ from hheld]
      rfl
  | @drop held handle hheld =>
      rw [step_drop hheld, show s.used? (.drop held) = _ from hheld]
      rfl
  | @send held sender hheld p =>
      rw [step_send hheld, show s.used? (.send held p) = _ from hheld]
      rfl
  | @sendWaiting held sender hheld p name =>
      rw [show s.used? (.sendWaiting held p name) = _ from hheld, operation]
      cases hwaits : (s.mailboxes.sendWaiting sender p).2.1 with
      | none =>
          rw [step_sendWaiting_of_none hheld hwaits]
          rfl
      | some pending =>
          rw [step_sendWaiting_of_some hheld hwaits]
          rfl
  | @retry held pending hheld =>
      rw [show s.used? (.retry held) = _ from hheld, operation]
      cases hanswer : (s.mailboxes.retry pending).1 with
      | full =>
          rw [step_retry_of_full hheld hanswer]
          rfl
      | sent =>
          rw [step_retry_of_ne_full hheld (by simp [hanswer]), hanswer]
          rfl
      | closed =>
          rw [step_retry_of_ne_full hheld (by simp [hanswer]), hanswer]
          rfl
  | @receive held r hheld =>
      rw [step_receive hheld, show s.used? (.receive held) = _ from hheld]
      rfl
  | pull hheld =>
      cases hsingle
  | misses h =>
      rw [step_of_misses h, operation_of_misses h]
      rfl

/-- An operation that keeps to a mailbox, also in the names that it takes and leaves. -/
structure Concerns (id : MailboxId) (step : Step)
    (op : Mailboxes → (Answer × Naming) × Mailboxes) : Prop where
  isLocal : Mailboxes.Local id op
  takes : ∀ m name h, (op m).1.2 = .takes name h →
    step.name? = some name ∧ h.mailbox? = some id
  leaves : ∀ m held, (op m).1.2 = .leaves held → step.held? = some held

theorem local_dropHandle
    {h : Handle}
    (hid : h.mailbox? = some id) :
    Mailboxes.Local id fun m => ((), m.dropHandle h) := by
  cases h with
  | sender h =>
      cases hid
      exact Mailboxes.local_dropSender h
  | pendingSend h =>
      cases hid
      exact Mailboxes.local_dropPendingSend h
  | receiver h =>
      cases hid
      exact Mailboxes.local_dropReceiver h
  | merge number =>
      cases hid

/-- An operation that changes no names. -/
theorem concerns_of_same
    {op : Mailboxes → (Answer × Naming) × Mailboxes}
    (hlocal : Mailboxes.Local id op)
    (hsame : ∀ m, (op m).1.2 = .same) :
    Concerns id step op where
  isLocal := hlocal
  takes m name h hname := by
    rw [hsame m] at hname
    cases hname
  leaves m held hname := by
    rw [hsame m] at hname
    cases hname

theorem id_of_sendWaiting
    {m : Mailboxes} {h : Sender} {p : Packet} {pending : PendingSend}
    (hwaits : (m.sendWaiting h p).2.1 = some pending) :
    pending.id = h.id := by
  have hafter := congrArg (fun outcome => outcome.1.2) (m.sendWaiting_eq_afterOffer h p)
  dsimp only at hafter
  rw [hwaits] at hafter
  unfold Mailboxes.afterOffer at hafter
  split at hafter
  · cases hafter
    rfl
  · cases hafter

/-! ### One step after the other -/

theorem concerns_openSender (id : MailboxId) (name : String) (found? : Option Handle) :
    Concerns id (.openSender id name) (operation (.openSender id name) found?) where
  isLocal := (Mailboxes.local_openSender id).map fun h =>
    (Answer.opened id, Naming.takes name (.sender h))
  takes m _ _ hname := by
    cases hname
    exact ⟨rfl, rfl⟩
  leaves m _ hname := by
    cases hname

theorem concerns_cloneSender (h : Sender) (held name : String) :
    Concerns h.id (.cloneSender held name)
      (operation (.cloneSender held name) (some (.sender h))) where
  isLocal := (Mailboxes.local_cloneSender h).map fun _ =>
    (Answer.done, Naming.takes name (.sender h))
  takes m _ _ hname := by
    cases hname
    exact ⟨rfl, rfl⟩
  leaves m _ hname := by
    cases hname

theorem concerns_drop
    {h : Handle}
    (hid : h.mailbox? = some id)
    (held : String) :
    Concerns id (.drop held) (operation (.drop held) (some h)) where
  isLocal := (local_dropHandle hid).map fun _ => (Answer.done, Naming.leaves held)
  takes m _ _ hname := by
    cases hname
  leaves m _ hname := by
    cases hname
    rfl

theorem concerns_send (h : Sender) (held : String) (p : Packet) :
    Concerns h.id (.send held p) (operation (.send held p) (some (.sender h))) :=
  concerns_of_same
    ((Mailboxes.local_send h p).map fun answer => (answerSend h.id answer, Naming.same))
    fun _ => rfl

/-- A send that waits is held under the name that the step gives. -/
theorem concerns_sendWaiting (h : Sender) (held name : String) (p : Packet) :
    Concerns h.id (.sendWaiting held p name)
      (operation (.sendWaiting held p name) (some (.sender h))) where
  isLocal := (Mailboxes.local_sendWaiting h p).map (afterSend h.id name)
  takes m other handle hname := by
    simp only [operation] at hname
    cases hwaits : (m.sendWaiting h p).2.1 with
    | none =>
        rw [hwaits] at hname
        cases hname
    | some pending =>
        rw [hwaits] at hname
        cases hname
        exact ⟨rfl, congrArg some (id_of_sendWaiting hwaits)⟩
  leaves m other hname := by
    simp only [operation] at hname
    cases hwaits : (m.sendWaiting h p).2.1 with
    | none =>
        rw [hwaits] at hname
        cases hname
    | some pending =>
        rw [hwaits] at hname
        cases hname

/-- A waiting send that is answered leaves its own name. -/
theorem concerns_retry (h : PendingSend) (held : String) :
    Concerns h.id (.retry held) (operation (.retry held) (some (.pendingSend h))) where
  isLocal := (Mailboxes.local_retry h).map (afterRetry h.id held)
  takes m other handle hname := by
    simp only [operation] at hname
    cases hanswer : (m.retry h).1 <;> rw [hanswer] at hname <;> cases hname
  leaves m other hname := by
    simp only [operation] at hname
    cases hanswer : (m.retry h).1 <;> rw [hanswer] at hname <;> cases hname <;> rfl

theorem mailbox?_of_afterOpening
    {m : Mailboxes} {name other : String} {h : Handle}
    (hname : (afterOpening id name (m.openReceiver id).1).2 = .takes other h) :
    name = other ∧ h.mailbox? = some id := by
  cases hanswer : (m.openReceiver id).1 with
  | error fault =>
      rw [hanswer] at hname
      cases hname
  | ok r =>
      rw [hanswer] at hname
      cases hname
      exact ⟨rfl, congrArg some (Mailboxes.openReceiver_answer hanswer).1⟩

theorem concerns_openReceiver (id : MailboxId) (name : String) (found? : Option Handle) :
    Concerns id (.openReceiver id name) (operation (.openReceiver id name) found?) where
  isLocal := (Mailboxes.local_openReceiver id).map (afterOpening id name)
  takes m other h hname := by
    obtain ⟨rfl, hid⟩ := mailbox?_of_afterOpening hname
    exact ⟨rfl, hid⟩
  leaves m other hname := by
    simp only [operation] at hname
    cases hanswer : (m.openReceiver id).1 <;> rw [hanswer] at hname <;> cases hname

theorem concerns_receive (r : Receiver) (held : String) :
    Concerns r.id (.receive held) (operation (.receive held) (some (.receiver r))) :=
  concerns_of_same
    ((Mailboxes.local_receive r none).map fun answer => (answerReception answer, Naming.same))
    fun _ => rfl

theorem concerns_release (id : MailboxId) (found? : Option Handle) :
    Concerns id (.release id) (operation (.release id) found?) :=
  concerns_of_same ((Mailboxes.local_release id).map fun _ => (Answer.done, Naming.same))
    fun _ => rfl

/-! ### All steps -/

/-- A step that names no mailbox acts on that of its handle. -/
theorem mailbox?_of_on?
    {h : Handle}
    (hon : s.on? step = some id)
    (htarget : step.target? = none)
    (hused : s.used? step = some h) :
    h.mailbox? = some id := by
  simpa [on?, htarget, hused] using hon

/-- What a step does keeps to the mailbox that it acts on. -/
theorem concerns_operation
    (step : Step)
    (hon : s.on? step = some id) :
    Concerns id step (operation step (s.used? step)) := by
  have hnothing : Concerns id step fun m => ((.notHeld, .same), m) :=
    concerns_of_same (Mailboxes.local_answer id _) fun _ => rfl
  cases s.uses_step step with
  | openSender other name =>
      cases hon
      exact concerns_openSender id name _
  | openReceiver other name =>
      cases hon
      exact concerns_openReceiver id name _
  | openMerge request name =>
      exact hnothing
  | release other =>
      cases hon
      exact concerns_release id _
  | @cloneSender held sender hheld name =>
      cases mailbox?_of_on? hon rfl hheld
      rw [show s.used? (.cloneSender held name) = _ from hheld]
      exact concerns_cloneSender sender held name
  | @drop held handle hheld =>
      rw [show s.used? (.drop held) = _ from hheld]
      exact concerns_drop (mailbox?_of_on? hon rfl hheld) held
  | @send held sender hheld p =>
      cases mailbox?_of_on? hon rfl hheld
      rw [show s.used? (.send held p) = _ from hheld]
      exact concerns_send sender held p
  | @sendWaiting held sender hheld p name =>
      cases mailbox?_of_on? hon rfl hheld
      rw [show s.used? (.sendWaiting held p name) = _ from hheld]
      exact concerns_sendWaiting sender held name p
  | @retry held pending hheld =>
      cases mailbox?_of_on? hon rfl hheld
      rw [show s.used? (.retry held) = _ from hheld]
      exact concerns_retry pending held
  | @receive held r hheld =>
      cases mailbox?_of_on? hon rfl hheld
      rw [show s.used? (.receive held) = _ from hheld]
      exact concerns_receive r held
  | pull hheld =>
      exact hnothing
  | misses h =>
      rw [show operation step (s.used? step) = _ from funext (operation_of_misses h)]
      exact hnothing

/-- A step that acts on no mailbox uses no handle, unless it is one of a merge. -/
theorem operation_eq_of_none
    (step : Step)
    (hon : s.on? step = none)
    (hmerge : ∀ k, s.used? step ≠ some (.merge k))
    (m : Mailboxes) :
    operation step (s.used? step) m = ((.notHeld, .same), m) := by
  have hnone : s.used? step = none := by
    cases hused : s.used? step with
    | none =>
        rfl
    | some h =>
        have hmailbox : h.mailbox? = none := by
          cases htarget : step.target? <;> simp_all [on?]
        cases h with
        | merge k => exact absurd hused (hmerge k)
        | _ => cases hmailbox
  rw [hnone]
  cases step with
  | openSender | openReceiver | release => cases hon
  | _ => rfl

end Session
end ScatterGather
