import ScatterGather.Drain

/-!
# Scripted receivers

A receiver that gives the packets of a list, each some time after it was asked for, and after the
last one gives the same packet again and again, or nothing at all.
-/

namespace ScatterGather

/-- A packet and the nanoseconds that it takes to come. -/
structure Arrival where
  delay : Nat
  packet : Packet
deriving DecidableEq

/-- What a scripted receiver has still to give. `awaited` is the packet that was asked for and takes
its time. -/
structure Script where
  items : List Arrival
  thereafter : Option Arrival
  awaited : Option Packet
deriving DecidableEq

namespace Script

/-- A script of which nothing has been asked for. -/
def ofItems (items : List Arrival) (thereafter : Option Arrival) : Script :=
  { items, thereafter, awaited := none }

/-- The next packet to be asked for, and the script after it. -/
def next? (s : Script) : Option (Arrival × Script) :=
  match s.items with
  | arrival :: items => some (arrival, { s with items })
  | [] => s.thereafter.map fun arrival => (arrival, s)

/-- Asks a script for its next packet. -/
def poll (s : Script) : Poll Script :=
  match s.awaited with
  | some p => .ready p { s with awaited := none }
  | none =>
    match s.next? with
    | none => .waits s none
    | some (arrival, rest) =>
      if arrival.delay = 0 then .ready arrival.packet rest
      else .waits rest (some (arrival.delay, { rest with awaited := some arrival.packet }))

/-- Enough steps for a drain of a script: two for each item, and two for each repetition that starts
before the deadline. -/
def stepBound (s : Script) (timeout : Duration) : Nat :=
  let repetitions := match s.thereafter with
    | some arrival => Drain.deadlineOf timeout / arrival.delay
    | none => 0
  2 * (s.items.length + repetitions + 2)

/-- Drains a script. -/
def drain (s : Script) (timeout : Duration) : Drain.Outcome Script :=
  Drain.run poll (s.stepBound timeout) timeout s

end Script
end ScatterGather
