import ScatterGather.Exchange.Endpoints
import ScatterGather.Mailbox.Basic
import ScatterGather.Registry

/-!
# The mailboxes of a process

All mailboxes of a process, by identifier, together with the merges that read from them. A merge
keeps a queue of those of its inputs that may have something to give. An operation on a mailbox may
wake an input of a merge, which is then put at the end of that queue, unless it is in it already.
-/

namespace ScatterGather

/-- Why a mailbox operation fails. -/
inductive MailboxFault where
  | alreadyReceived (id : MailboxId)
  | closed (id : MailboxId)
  | notOneSender (host : String) (mailboxPort : UInt16) (found : Nat)
deriving DecidableEq, Repr

namespace MailboxFault

/-- How the fault is described to a reader. -/
def message : MailboxFault → String
  | alreadyReceived id => s!"Mailbox {id.text} has already been received from"
  | closed id => s!"Mailbox {id.text} is closed"
  | notOneSender host mailboxPort found =>
    s!"Singleton exchange expects exactly one sender at {host}:{mailboxPort.toNat}, found {found}"

end MailboxFault

/-- A sending handle. It belongs to no channel if it was opened after all earlier senders were
gone. -/
structure Sender where
  id : MailboxId
  generation : Option Nat
deriving DecidableEq, Repr

/-- A receiving handle. -/
structure Receiver where
  id : MailboxId
  generation : Nat
deriving DecidableEq, Repr

/-- A send that waits for a slot. It holds a sending handle of its own. -/
structure PendingSend where
  id : MailboxId
  generation : Nat
  ticket : Nat
  packet : Packet
deriving DecidableEq

namespace PendingSend

/-- The sending handle that a waiting send holds. -/
def sender (s : PendingSend) : Sender :=
  ⟨s.id, some s.generation⟩

end PendingSend

/-- One stream made of the mailboxes of all senders of a stage. `finished` tells for each input
whether its end is known, `remaining` counts the others, `live` lists the inputs that are still
received from, and `ready` is the queue of those that may have something to give. -/
structure Merge where
  schema : Schema
  routing : Routing
  receivers : List Receiver
  finished : List Bool
  remaining : Nat
  live : List Nat
  ready : List Nat
deriving DecidableEq, Repr

namespace Merge

/-- The mailboxes of a merge, in the order of its senders. -/
def ids (m : Merge) : List MailboxId :=
  m.receivers.map Receiver.id

/-- Puts an input at the end of the queue, unless it is in it already. -/
def wake (m : Merge) (input : Nat) : Merge :=
  if input ∈ m.ready then m else { m with ready := m.ready ++ [input] }

end Merge

/-- The mailboxes of a process, the address at which they are reached, and the merges over them. -/
structure Mailboxes where
  host : String
  mailboxPort : UInt16
  capacity : Nat
  boxes : Registry MailboxId Mailbox
  merges : Registry Nat Merge
  nextMerge : Nat
deriving DecidableEq

namespace Mailboxes

/-- How many packets a mailbox holds when nothing else is asked for. -/
def standardCapacity : Nat := 64

/-- A process without mailboxes. A mailbox holds at least one packet. -/
def create (host : String) (mailboxPort : UInt16) (capacity : Nat) : Mailboxes :=
  { host
    mailboxPort
    capacity := max capacity 1
    boxes := []
    merges := []
    nextMerge := 0 }

/-- The mailbox of an identifier. -/
def box (s : Mailboxes) (id : MailboxId) : Mailbox :=
  (Registry.find? s.boxes id).getD Mailbox.fresh

/-- The mailboxes that are tracked. -/
def tracked (s : Mailboxes) : List MailboxId :=
  (s.boxes.filter fun entry => entry.2.tracking.isSome).map Prod.fst

/-- How many mailboxes are tracked. -/
def count (s : Mailboxes) : Nat :=
  s.tracked.length

/-- Wakes the input that a watcher stands for. -/
def wake (s : Mailboxes) : Option Watcher → Mailboxes
  | none => s
  | some watcher =>
    match Registry.find? s.merges watcher.merge with
    | some merge => { s with merges := Registry.set s.merges watcher.merge (merge.wake watcher.input) }
    | none => s

/-- Runs an operation on one mailbox and wakes whom it concerns. -/
def update {α : Type} (s : Mailboxes) (id : MailboxId) (f : Mailbox → Mailbox.Outcome α) :
    α × Mailboxes :=
  let outcome := f (s.box id)
  (outcome.answer, { s with boxes := Registry.set s.boxes id outcome.box }.wake outcome.woken)

/-- Opens a sender. -/
def openSender (s : Mailboxes) (id : MailboxId) : Sender × Mailboxes :=
  let (generation, s) := s.update id fun box => box.openSender s.capacity
  (⟨id, generation⟩, s)

/-- Opens the receiver of a mailbox. -/
def openReceiver (s : Mailboxes) (id : MailboxId) : Except MailboxFault Receiver × Mailboxes :=
  match s.update id fun box => box.openReceiver s.capacity with
  | (some generation, s) => (.ok ⟨id, generation⟩, s)
  | (none, s) => (.error (.alreadyReceived id), s)

/-- One more handle on a sender. -/
def cloneSender (s : Mailboxes) (h : Sender) : Mailboxes :=
  (s.update h.id fun box => box.cloneSender h.generation).2

/-- Drops a sender. -/
def dropSender (s : Mailboxes) (h : Sender) : Mailboxes :=
  (s.update h.id fun box => box.dropSender h.generation).2

/-- Drops a receiver. -/
def dropReceiver (s : Mailboxes) (h : Receiver) : Mailboxes :=
  (s.update h.id fun box => box.dropReceiver h.generation).2

/-- Forgets the channel of a mailbox whatever its state. -/
def release (s : Mailboxes) (id : MailboxId) : Mailboxes :=
  (s.update id Mailbox.release).2

/-- Offers a packet once. -/
def send (s : Mailboxes) (h : Sender) (p : Packet) : SendAnswer × Mailboxes :=
  s.update h.id fun box => box.offer h.generation p

/-- Offers a packet through a handle of its own, which stays for as long as the send waits. -/
def sendWaiting (s : Mailboxes) (h : Sender) (p : Packet) :
    SendAnswer × Option PendingSend × Mailboxes :=
  let s := s.cloneSender h
  match s.send h p, h.generation with
  | (.full, s), some generation =>
    let (ticket, s) := s.update h.id fun box => box.join generation
    (.full, some ⟨h.id, generation, ticket, p⟩, s)
  | (answer, s), _ => (answer, none, s.dropSender h)

/-- Tries a waiting send again. Once it is sent or refused, its handle is gone. -/
def retry (s : Mailboxes) (h : PendingSend) : SendAnswer × Mailboxes :=
  match s.update h.id fun box => box.redeem h.generation h.ticket h.packet with
  | (.full, s) => (.full, s)
  | (answer, s) => (answer, s.dropSender h.sender)

/-- Gives up a waiting send. -/
def dropPendingSend (s : Mailboxes) (h : PendingSend) : Mailboxes :=
  (s.update h.id fun box => box.forgetSend h.generation h.ticket).2.dropSender h.sender

/-- Takes the oldest packet of a receiver, if there is one. -/
def receive (s : Mailboxes) (h : Receiver) (watcher : Option Watcher) : Reception × Mailboxes :=
  s.update h.id fun box => box.receive h.generation watcher

end Mailboxes
end ScatterGather
