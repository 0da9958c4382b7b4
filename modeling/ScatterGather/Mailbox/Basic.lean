import ScatterGather.Mailbox.Channel

/-!
# One mailbox

A mailbox is created by whichever end opens it first. Until both ends have been opened the mailbox
itself holds a sender, so that its channel cannot end before its first sender comes. It is forgotten
as soon as its receiver has been opened and dropped and no sender is left.

A forgotten mailbox may be created anew, with a new channel. Handles remember the generation of the
channel they belong to: what they send and receive goes through that channel. Their drop, however,
is noted on the channel that is current at that moment.
-/

namespace ScatterGather

/-- What a mailbox knows of its current channel: which end it still holds itself, and what became of
the ends. -/
structure Tracking where
  generation : Nat
  holdsSender : Bool
  holdsReceiver : Bool
  senderAttached : Bool
  receiverDropped : Bool
deriving DecidableEq, Repr

namespace Tracking

/-- The tracking of a new channel: the mailbox holds both ends. -/
def ofNew (generation : Nat) : Tracking :=
  { generation
    holdsSender := true
    holdsReceiver := true
    senderAttached := false
    receiverDropped := false }

/-- The tracking after a receiver was dropped. -/
def withoutReceiver (t : Tracking) : Tracking :=
  { t with receiverDropped := true }

end Tracking

/-- All channels that a mailbox has had, by generation, and what is known of the current one. A
mailbox that was never opened, or was forgotten, tracks nothing. -/
structure Mailbox where
  channels : List Channel
  tracking : Option Tracking
deriving DecidableEq

namespace Mailbox

/-- What an operation on a mailbox gives: its answer, whom to tell, and the mailbox after it. -/
structure Outcome (α : Type) where
  answer : α
  woken : Option Watcher
  box : Mailbox

/-- A mailbox that was never opened. -/
def fresh : Mailbox :=
  { channels := [], tracking := none }

/-- Changes the channel of a generation. -/
def modify (m : Mailbox) (generation : Nat) (f : Channel → Channel) : Mailbox :=
  { m with channels := m.channels.modify generation f }

/-- The live senders of a generation. -/
def senders (m : Mailbox) (generation : Nat) : Nat :=
  match m.channels[generation]? with
  | some c => c.senders
  | none => 0

/-- The mailbox with a current channel, which is created if there is none. -/
def ensure (m : Mailbox) (capacity : Nat) : Tracking × Mailbox :=
  match m.tracking with
  | some t => (t, m)
  | none =>
    let t := Tracking.ofNew m.channels.length
    (t, { channels := m.channels ++ [Channel.create capacity], tracking := some t })

/-- Gives up the sender that the mailbox holds, once both ends have been opened. -/
def settle (m : Mailbox) (t : Tracking) : Mailbox :=
  if t.senderAttached && !t.holdsReceiver && t.holdsSender then
    { m.modify t.generation Channel.dropSender with
      tracking := some { t with holdsSender := false } }
  else { m with tracking := some t }

/-- Opens a sender. It belongs to no channel if all earlier senders of the current one are gone. -/
def openSender (m : Mailbox) (capacity : Nat) : Outcome (Option Nat) :=
  let (t, m) := m.ensure capacity
  let attached := { t with senderAttached := true }
  if t.holdsSender || 0 < m.senders t.generation then
    ⟨some t.generation, none, (m.modify t.generation Channel.addSender).settle attached⟩
  else ⟨none, none, m.settle attached⟩

/-- Opens the receiver, which can be done once. -/
def openReceiver (m : Mailbox) (capacity : Nat) : Outcome (Option Nat) :=
  let (t, m) := m.ensure capacity
  if t.holdsReceiver then ⟨some t.generation, none, m.settle { t with holdsReceiver := false }⟩
  else ⟨none, none, m.settle t⟩

/-- Whether the current channel is no longer needed. -/
def isFinished (m : Mailbox) (t : Tracking) : Bool :=
  t.receiverDropped && !t.holdsSender && m.senders t.generation == 0

/-- Forgets the current channel if it is no longer needed. -/
def forgetIfFinished (m : Mailbox) : Mailbox :=
  match m.tracking with
  | some t => if m.isFinished t then { m with tracking := none } else m
  | none => m

/-- One more handle on a sender. -/
def cloneSender (m : Mailbox) (generation : Option Nat) : Outcome Unit :=
  match generation with
  | some g => ⟨(), none, m.modify g Channel.addSender⟩
  | none => ⟨(), none, m⟩

/-- Drops a sender. Its channel may end by this. -/
def dropSender (m : Mailbox) (generation : Option Nat) : Outcome Unit :=
  match generation.bind fun g => (m.channels[g]?).map fun c => (g, c) with
  | some (g, c) =>
    ⟨(), if c.senders ≤ 1 then c.watcher else none,
      (m.modify g Channel.dropSender).forgetIfFinished⟩
  | none => ⟨(), none, m.forgetIfFinished⟩

/-- Drops a receiver. The drop is noted on the current channel; the channel of the receiver closes. -/
def dropReceiver (m : Mailbox) (generation : Nat) : Outcome Unit :=
  let noted := { m with tracking := m.tracking.map Tracking.withoutReceiver }
  ⟨(), none, noted.forgetIfFinished.modify generation Channel.close⟩

/-- Forgets the current channel whatever its state. The ends that the mailbox holds are dropped. -/
def release (m : Mailbox) : Outcome Unit :=
  match m.tracking with
  | none => ⟨(), none, m⟩
  | some t =>
    let last := t.holdsSender && m.senders t.generation ≤ 1
    let drop (c : Channel) : Channel :=
      let c := if t.holdsSender then c.dropSender else c
      if t.holdsReceiver then c.close else c
    ⟨(), if last then (m.channels[t.generation]?).bind Channel.watcher else none,
      { m.modify t.generation drop with tracking := none }⟩

/-- Offers a packet once. -/
def offer (m : Mailbox) (generation : Option Nat) (p : Packet) : Outcome SendAnswer :=
  match generation.bind fun g => (m.channels[g]?).map fun c => (g, c) with
  | none => ⟨.closed, none, m⟩
  | some (g, c) =>
    match c.admission with
    | .sent => ⟨.sent, c.watcher, m.modify g fun c => c.push p⟩
    | answer => ⟨answer, none, m⟩

/-- Lets a new send wait for a slot, and gives its ticket. -/
def join (m : Mailbox) (generation : Nat) : Outcome Nat :=
  match m.channels[generation]? with
  | some c => ⟨c.nextTicket, none, m.modify generation Channel.join⟩
  | none => ⟨0, none, m⟩

/-- Tries a waiting send again. -/
def redeem (m : Mailbox) (generation ticket : Nat) (p : Packet) : Outcome SendAnswer :=
  match m.channels[generation]? with
  | none => ⟨.closed, none, m⟩
  | some c =>
    match c.redemption ticket with
    | .sent => ⟨.sent, c.watcher, m.modify generation fun c => c.redeem ticket p⟩
    | answer => ⟨answer, none, m⟩

/-- Gives up a waiting send. -/
def forgetSend (m : Mailbox) (generation ticket : Nat) : Outcome Unit :=
  ⟨(), none, m.modify generation fun c => c.forget ticket⟩

/-- Takes the oldest packet. If there is none but there may be one later, the watcher is left. -/
def receive (m : Mailbox) (generation : Nat) (watcher : Option Watcher) : Outcome Reception :=
  match m.channels[generation]? with
  | none => ⟨.ended, none, m⟩
  | some c =>
    match c.reception with
    | .packet p => ⟨.packet p, none, m.modify generation Channel.take⟩
    | .ended => ⟨.ended, none, m⟩
    | .pending => ⟨.pending, none, m.modify generation fun c => c.watch watcher⟩

end Mailbox
end ScatterGather
