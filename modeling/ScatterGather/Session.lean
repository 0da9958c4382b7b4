import ScatterGather.Mailboxes.Merge

/-!
# Runs over mailboxes

A session holds the handles of those who use the mailboxes of a process, by name, and a run is a
list of steps on them. A handle made under a name that is in use takes the place of the old one,
which is dropped after the new one was made.
-/

namespace ScatterGather

/-- What can be held. -/
inductive Handle where
  | sender (h : Sender)
  | pendingSend (h : PendingSend)
  | receiver (h : Receiver)
  | merge (number : Nat)
deriving DecidableEq

/-- One use of the mailboxes; `held` and `name` are names of handles. -/
inductive Step where
  | openSender (id : MailboxId) (name : String)
  | cloneSender (held name : String)
  | drop (held : String)
  | send (held : String) (p : Packet)
  | sendWaiting (held : String) (p : Packet) (name : String)
  | retry (held : String)
  | openReceiver (id : MailboxId) (name : String)
  | receive (held : String)
  | openMerge (request : MergeRequest) (name : String)
  | pull (held : String)
  | release (id : MailboxId)
deriving DecidableEq

/-- What a step answers. -/
inductive Answer where
  | done
  | opened (id : MailboxId)
  | merged (m : Merge)
  | sent
  | full
  | waiting
  | packet (p : Packet)
  | ended
  | pending
  | failed (fault : MailboxFault)
  /-- The step names a handle that is not held. -/
  | notHeld
deriving DecidableEq

/-- The mailboxes of a process and the handles on them. -/
structure Session where
  mailboxes : Mailboxes
  held : Registry String Handle
deriving DecidableEq

namespace Mailboxes

/-- Drops any handle. -/
def dropHandle (s : Mailboxes) : Handle → Mailboxes
  | .sender h => s.dropSender h
  | .pendingSend h => s.dropPendingSend h
  | .receiver h => s.dropReceiver h
  | .merge number => s.dropMerge number

end Mailboxes

namespace Session

/-- Mailboxes on which nobody holds anything. -/
def ofMailboxes (mailboxes : Mailboxes) : Session :=
  { mailboxes, held := [] }

/-- The handle of a name. -/
def find? (s : Session) (name : String) : Option Handle :=
  Registry.find? s.held name

/-- Holds a new handle under a name, then drops the one that was there. -/
def hold (s : Session) (name : String) (h : Handle) (mailboxes : Mailboxes) : Session :=
  { mailboxes := match s.find? name with
      | some old => mailboxes.dropHandle old
      | none => mailboxes
    held := Registry.set s.held name h }

/-- Changes the mailboxes only. -/
def withMailboxes (s : Session) (mailboxes : Mailboxes) : Session :=
  { s with mailboxes }

/-- Takes a name away. -/
def without (s : Session) (name : String) (mailboxes : Mailboxes) : Session :=
  { mailboxes, held := Registry.erase s.held name }

/-- How a send through a handle of a mailbox is answered. -/
def answerSend (id : MailboxId) : SendAnswer → Answer
  | .sent => .sent
  | .full => .full
  | .closed => .failed (.closed id)

/-- Does one step. -/
def step (s : Session) : Step → Answer × Session
  | .openSender id name =>
    let (h, mailboxes) := s.mailboxes.openSender id
    (.opened id, s.hold name (.sender h) mailboxes)
  | .cloneSender held name =>
    match s.find? held with
    | some (.sender h) => (.done, s.hold name (.sender h) (s.mailboxes.cloneSender h))
    | _ => (.notHeld, s)
  | .drop held =>
    match s.find? held with
    | some h => (.done, s.without held (s.mailboxes.dropHandle h))
    | none => (.notHeld, s)
  | .send held p =>
    match s.find? held with
    | some (.sender h) =>
      let (answer, mailboxes) := s.mailboxes.send h p
      (answerSend h.id answer, s.withMailboxes mailboxes)
    | _ => (.notHeld, s)
  | .sendWaiting held p name =>
    match s.find? held with
    | some (.sender h) =>
      match s.mailboxes.sendWaiting h p with
      | (_, some pending, mailboxes) => (.waiting, s.hold name (.pendingSend pending) mailboxes)
      | (answer, none, mailboxes) => (answerSend h.id answer, s.withMailboxes mailboxes)
    | _ => (.notHeld, s)
  | .retry held =>
    match s.find? held with
    | some (.pendingSend h) =>
      match s.mailboxes.retry h with
      | (.full, mailboxes) => (.waiting, s.withMailboxes mailboxes)
      | (answer, mailboxes) => (answerSend h.id answer, s.without held mailboxes)
    | _ => (.notHeld, s)
  | .openReceiver id name =>
    match s.mailboxes.openReceiver id with
    | (.ok h, mailboxes) => (.opened id, s.hold name (.receiver h) mailboxes)
    | (.error fault, mailboxes) => (.failed fault, s.withMailboxes mailboxes)
  | .receive held =>
    match s.find? held with
    | some (.receiver h) =>
      match s.mailboxes.receive h none with
      | (.packet p, mailboxes) => (.packet p, s.withMailboxes mailboxes)
      | (.ended, mailboxes) => (.ended, s.withMailboxes mailboxes)
      | (.pending, mailboxes) => (.pending, s.withMailboxes mailboxes)
    | _ => (.notHeld, s)
  | .openMerge request name =>
    match s.mailboxes.openMerge request with
    | (.error fault, mailboxes) => (.failed fault, s.withMailboxes mailboxes)
    | (.ok number, mailboxes) =>
      match Registry.find? mailboxes.merges number with
      | some m => (.merged m, s.hold name (.merge number) mailboxes)
      | none => (.notHeld, s.withMailboxes mailboxes)
  | .pull held =>
    match s.find? held with
    | some (.merge number) =>
      let pulled := s.mailboxes.pull number
      match pulled.packet with
      | some p => (.packet p, s.withMailboxes pulled.mailboxes)
      | none => (.pending, s.withMailboxes pulled.mailboxes)
    | _ => (.notHeld, s)
  | .release id => (.done, s.withMailboxes (s.mailboxes.release id))

/-- Does steps in turn. -/
def run (s : Session) : List Step → List Answer × Session
  | [] => ([], s)
  | step :: steps =>
    let (answer, s) := s.step step
    let (answers, s) := s.run steps
    (answer :: answers, s)

end Session
end ScatterGather
