import ScatterGather.Exchange.Packet

/-!
# Bounded channels

A channel carries packets from any number of senders to one receiver, first in, first out. It has a
fixed number of slots. A send that finds no free slot may wait: waiting sends are served in the
order in which they came, and a slot that becomes free is reserved for the oldest of them until it
is used or given up.

A channel has ended for its receiver when its queue is empty and no sender is left. Its receiver may
leave a watcher, which is handed back by the next push, or by the drop of the last sender.
-/

namespace ScatterGather

/-- Whom to tell when something happens on a channel: a slot of a queue of ready inputs. -/
structure Watcher where
  merge : Nat
  input : Nat
deriving DecidableEq, Repr

/-- What became of a packet that was offered to a channel. -/
inductive SendAnswer where
  | sent
  | full
  | closed
deriving DecidableEq, Repr

/-- What a receiver finds on its channel. -/
inductive Reception where
  | packet (p : Packet)
  | ended
  | pending
deriving DecidableEq

/-- A bounded queue of packets. `granted` holds the tickets of waiting sends that have a slot
reserved, `waiting` those that have none, oldest first. `senders` counts the live sending handles,
waiting sends included, and `receiving` tells whether the receiver is alive. -/
structure Channel where
  capacity : Nat
  queue : List Packet
  granted : List Nat
  waiting : List Nat
  nextTicket : Nat
  senders : Nat
  receiving : Bool
  watcher : Option Watcher
deriving DecidableEq

namespace Channel

/-- A new channel with one sender and its receiver. -/
def create (capacity : Nat) : Channel :=
  { capacity
    queue := []
    granted := []
    waiting := []
    nextTicket := 0
    senders := 1
    receiving := true
    watcher := none }

/-- The slots that are neither filled nor reserved. -/
def free (c : Channel) : Nat :=
  c.capacity - (c.queue.length + c.granted.length)

/-- Puts a packet at the end of the queue. -/
def push (c : Channel) (p : Packet) : Channel :=
  { c with queue := c.queue ++ [p], watcher := none }

/-- Reserves a free slot for the oldest waiting send. -/
def grant (c : Channel) : Channel :=
  match c.waiting with
  | ticket :: waiting =>
    if 0 < c.free then { c with granted := c.granted ++ [ticket], waiting } else c
  | [] => c

/-- What a send that does not wait meets. -/
def admission (c : Channel) : SendAnswer :=
  if !c.receiving then .closed
  else if 0 < c.free then .sent
  else .full

/-- What a waiting send meets when it is tried again. -/
def redemption (c : Channel) (ticket : Nat) : SendAnswer :=
  if !c.receiving then .closed
  else if ticket ∈ c.granted then .sent
  else .full

/-- The channel after a new send began to wait; its ticket is the old `nextTicket`. -/
def join (c : Channel) : Channel :=
  { c with waiting := c.waiting ++ [c.nextTicket], nextTicket := c.nextTicket + 1 }

/-- A waiting send fills the slot that was reserved for it. -/
def redeem (c : Channel) (ticket : Nat) (p : Packet) : Channel :=
  { c with granted := c.granted.erase ticket }.push p

/-- A waiting send is given up; a slot reserved for it goes to the next one. -/
def forget (c : Channel) (ticket : Nat) : Channel :=
  { c with granted := c.granted.erase ticket, waiting := c.waiting.erase ticket }.grant

/-- One more sending handle. -/
def addSender (c : Channel) : Channel :=
  { c with senders := c.senders + 1 }

/-- One sending handle less. The last one to go takes the watcher away. -/
def dropSender (c : Channel) : Channel :=
  { c with
    senders := c.senders - 1
    watcher := if c.senders ≤ 1 then none else c.watcher }

/-- What the receiver finds. -/
def reception (c : Channel) : Reception :=
  match c.queue with
  | p :: _ => .packet p
  | [] => if c.senders = 0 then .ended else .pending

/-- The channel after the receiver took the oldest packet, whose slot goes to the oldest waiting
send. -/
def take (c : Channel) : Channel :=
  { c with queue := c.queue.tail }.grant

/-- The channel after the receiver was dropped: nothing is queued, and every send is refused. -/
def close (c : Channel) : Channel :=
  { c with queue := [], granted := [], waiting := [], receiving := false, watcher := none }

/-- Leaves a watcher. -/
def watch (c : Channel) (watcher : Option Watcher) : Channel :=
  { c with watcher }

end Channel
end ScatterGather
