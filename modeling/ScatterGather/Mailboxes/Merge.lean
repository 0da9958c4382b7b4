import ScatterGather.Mailboxes

/-!
# Merging the mailboxes of a stage

A merge receives from one mailbox for each sender of a stage. It asks the input at the front of its
queue. An input that gives a packet goes to the end of the queue; an input that has nothing to give
leaves the queue until its channel wakes it; an input whose channel has ended leaves it for good, and
its receiver is dropped at that moment.

The merge ends when every sender has ended. A clean end of one sender is not passed on; a failure is.
A mailbox that ends although its sender did not is a failure of its own.
-/

namespace ScatterGather

/-- Which senders to merge, and where and for what query. -/
structure MergeRequest where
  schema : Schema
  senders : List Server
  routing : Routing
  host : String
  mailboxPort : UInt16
  request : Int64
  senderStage : Int32
deriving DecidableEq, Repr

namespace MergeRequest

/-- The senders to receive from. A singleton exchange has exactly one, on the receiver's own
mailbox address. -/
def chosen (r : MergeRequest) : Except MailboxFault (List Server) :=
  match r.routing with
  | .singleton =>
    let here := r.senders.filter fun s => s.host = r.host && s.mailboxPort = r.mailboxPort
    if here.length = 1 then .ok here
    else .error (.notOneSender r.host r.mailboxPort here.length)
  | _ => .ok r.senders

/-- The mailbox of one sender. -/
def idOf (r : MergeRequest) (sender : Server) : MailboxId :=
  { request := r.request
    stage := r.senderStage
    senderHost := sender.host
    senderPort := sender.mailboxPort
    receiverHost := r.host
    receiverPort := r.mailboxPort }

end MergeRequest

namespace Merge

/-- A merge over opened receivers. All of its inputs are asked first in their order. -/
def ofReceivers (schema : Schema) (routing : Routing) (receivers : List Receiver) : Merge :=
  { schema
    routing
    receivers
    finished := List.replicate receivers.length false
    remaining := receivers.length
    live := List.range receivers.length
    ready := List.range receivers.length }

/-- Notes that the end of an input is known. -/
def finish (m : Merge) (input : Nat) : Merge :=
  match m.finished[input]? with
  | some false => { m with finished := m.finished.set input true, remaining := m.remaining - 1 }
  | _ => m

/-- Whether the end of an input is known. -/
def isFinished (m : Merge) (input : Nat) : Bool :=
  m.finished[input]?.getD true

/-- The failure passed on when a mailbox ends although its sender did not. -/
def brokenOff (id : MailboxId) : Packet :=
  .failedEnd (.execution s!"mailbox {id.text} closed before end-of-stream")

end Merge

/-- What an input is found to have when it is asked. -/
inductive Finding where
  | took (input : Nat) (p : Packet)
  | ended (input : Nat)
  | nothing (input : Nat)
deriving DecidableEq

/-- What comes of asking one input. -/
inductive Turn where
  /-- A packet is passed on. -/
  | passes (p : Packet)
  /-- Nothing is passed on, and the next input may be asked. -/
  | again
  /-- No input has anything to give. -/
  | idle
deriving DecidableEq

/-- What comes of pulling from a merge: the packet passed on, if there is one, and what the inputs
were found to have on the way to it. -/
structure Pulled where
  packet : Option Packet
  findings : List Finding
  mailboxes : Mailboxes
deriving DecidableEq

namespace Mailboxes

/-- Opens receivers in turn. If one cannot be opened, those opened before it are dropped again. -/
def openReceivers (s : Mailboxes) (opened : List Receiver) :
    List MailboxId → Except MailboxFault (List Receiver) × Mailboxes
  | [] => (.ok opened, s)
  | id :: ids =>
    match s.openReceiver id with
    | (.ok receiver, s) => s.openReceivers (opened ++ [receiver]) ids
    | (.error fault, s) => (.error fault, opened.foldl dropReceiver s)

/-- Opens a merge and gives its number. -/
def openMerge (s : Mailboxes) (r : MergeRequest) : Except MailboxFault Nat × Mailboxes :=
  match r.chosen with
  | .error fault => (.error fault, s)
  | .ok senders =>
    match s.openReceivers [] (senders.map r.idOf) with
    | (.error fault, s) => (.error fault, s)
    | (.ok receivers, s) =>
      (.ok s.nextMerge, { s with
        merges := Registry.set s.merges s.nextMerge (.ofReceivers r.schema r.routing receivers)
        nextMerge := s.nextMerge + 1 })

/-- Changes a merge. -/
def setMerge (s : Mailboxes) (number : Nat) (m : Merge) : Mailboxes :=
  { s with merges := Registry.set s.merges number m }

/-- A packet was taken from an input, which goes to the end of the queue. -/
def took (s : Mailboxes) (number input : Nat) (m : Merge) (p : Packet) : Turn × Mailboxes :=
  let m := m.wake input
  match p with
  | .endOfStream none => (.again, s.setMerge number (m.finish input))
  | .endOfStream (some _) => (.passes p, s.setMerge number (m.finish input))
  | _ => (.passes p, s.setMerge number m)

/-- The channel of an input has ended, and its receiver is dropped. -/
def ended (s : Mailboxes) (number input : Nat) (m : Merge) (receiver : Receiver) :
    Turn × Mailboxes :=
  let s := s.dropReceiver receiver
  let ended := { m with live := m.live.filter (· ≠ input) }
  if m.isFinished input then (.again, s.setMerge number ended)
  else (.passes (Merge.brokenOff receiver.id), s.setMerge number (ended.finish input))

/-- Asks an input that was taken from the queue of a merge. -/
def ask (s : Mailboxes) (number input : Nat) (m : Merge) (receiver : Receiver) :
    Finding × Turn × Mailboxes :=
  match s.receive receiver (some ⟨number, input⟩) with
  | (.packet p, s) => (.took input p, s.took number input m p)
  | (.ended, s) => (.ended input, s.ended number input m receiver)
  | (.pending, s) => (.nothing input, .again, s.setMerge number m)

/-- Asks the input at the front of the queue. Once all inputs are finished none is asked. -/
def turn (s : Mailboxes) (number : Nat) (m : Merge) : List Finding × Turn × Mailboxes :=
  if m.remaining = 0 then ([], .passes .cleanEnd, s)
  else
    match m.ready with
    | [] => ([], if m.live.isEmpty then .passes .cleanEnd else .idle, s)
    | input :: ready =>
      let m := { m with ready }
      match m.receivers[input]? with
      | none => ([], .again, s.setMerge number m)
      | some receiver =>
        let (finding, turn, s) := s.ask number input m receiver
        ([finding], turn, s)

/-- Asks inputs, at most `turns` of them, until a packet is passed on or none has anything. -/
def pullWithin (s : Mailboxes) (number : Nat) : (turns : Nat) → Pulled
  | 0 => ⟨none, [], s⟩
  | turns + 1 =>
    match Registry.find? s.merges number with
    | none => ⟨none, [], s⟩
    | some m =>
      match s.turn number m with
      | (findings, .passes p, s) => ⟨some p, findings, s⟩
      | (findings, .idle, s) => ⟨none, findings, s⟩
      | (findings, .again, s) =>
        let pulled := s.pullWithin number turns
        { pulled with findings := findings ++ pulled.findings }

/-- The packets queued for a receiver. -/
def queued (s : Mailboxes) (h : Receiver) : Nat :=
  match (s.box h.id).channels[h.generation]? with
  | some c => c.queue.length
  | none => 0

/-- How many inputs of a merge can be asked before none has anything to give: every turn takes a
packet or shortens the queue, and one more finds the queue empty. -/
def turnBound (s : Mailboxes) (m : Merge) : Nat :=
  (m.receivers.map s.queued).foldr (· + ·) 0 + m.ready.length + 1

/-- Asks the inputs of a merge for its next packet. -/
def pull (s : Mailboxes) (number : Nat) : Pulled :=
  match Registry.find? s.merges number with
  | some m => s.pullWithin number (s.turnBound m)
  | none => ⟨none, [], s⟩

/-- Drops a merge with all receivers that it still holds. -/
def dropMerge (s : Mailboxes) (number : Nat) : Mailboxes :=
  match Registry.find? s.merges number with
  | some m =>
    let s := (m.live.filterMap fun input => m.receivers[input]?).foldl dropReceiver s
    { s with merges := Registry.erase s.merges number }
  | none => s

end Mailboxes
end ScatterGather
