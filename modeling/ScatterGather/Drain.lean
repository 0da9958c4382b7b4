import ScatterGather.Duration
import ScatterGather.Exchange.Packet

/-!
# Draining a stream within a time budget

A drain asks a receiver for packets one by one until the stream ends, and keeps the data. Its
deadline is fixed when it starts. The clock only moves while the receiver has nothing to give; it
counts nanoseconds from the start of the drain.

No packet is asked for at the deadline or later. A packet that was asked for before and comes at the
deadline is still taken; the timer that gives up on it fires on the next whole millisecond.

**Results.** What a step of the drain does, from which the course of a whole drain follows.
-/

namespace ScatterGather

/-- What a receiver does when it is asked for its next packet. -/
inductive Poll (σ : Type) where
  /-- The packet is there. -/
  | ready (p : Packet) (rest : σ)
  /-- There is nothing yet. With a wake-up it is worth asking again that many nanoseconds later;
  without one nothing will ever come. `left` is what remains for one who does not wait. -/
  | waits (left : σ) (wakeUp : Option (Nat × σ))

namespace Drain

/-- How long a drain lasts at most when its caller does not say. -/
def standardTimeout : Duration := .ofSeconds 10

/-- A clock cannot show times that lie this far ahead. -/
def horizon : Duration := .ofSeconds 9223372036854000000

/-- The budget in place of one that reaches beyond the horizon. -/
def farFuture : Duration := .ofSeconds 946080000

/-- The deadline of a drain, as a time on its clock. -/
def deadlineOf (timeout : Duration) : Nat :=
  if timeout.nanoseconds < horizon.nanoseconds then timeout.nanoseconds
  else farFuture.nanoseconds

/-- When the timer of a deadline fires. -/
def expiry (deadline : Nat) : Nat :=
  (deadline + Duration.perMillisecond - 1) / Duration.perMillisecond * Duration.perMillisecond

/-- How a drain ends. -/
inductive Verdict where
  | complete (blocks : List Block)
  | failed (report : FailureReport)
  | timedOut
  /-- The steps granted to the drain were used up. -/
  | unfinished
deriving DecidableEq

/-- A drain on its way. `waiting` tells whether the packet asked for last has not come yet. -/
structure Progress (σ : Type) where
  clock : Nat
  pulls : Nat
  blocks : List Block
  waiting : Bool
  receiver : σ

/-- A drain that has ended: when, after how many packets were asked for, and what is left of the
receiver. -/
structure Outcome (σ : Type) where
  verdict : Verdict
  clock : Nat
  pulls : Nat
  receiver : σ

/-- Whether a drain goes on after a step. -/
inductive Course (σ : Type) where
  | goesOn (progress : Progress σ)
  | ends (outcome : Outcome σ)

variable {σ : Type}

namespace Progress

/-- A drain that is about to start. -/
def start (receiver : σ) : Progress σ :=
  { clock := 0
    pulls := 0
    blocks := []
    waiting := false
    receiver }

/-- How many packets have been asked for once this one is. -/
def asked (d : Progress σ) : Nat :=
  if d.waiting then d.pulls else d.pulls + 1

/-- A packet was taken. -/
def take (d : Progress σ) (p : Packet) (rest : σ) : Course σ :=
  match p with
  | .endOfStream none => .ends ⟨.complete d.blocks, d.clock, d.asked, rest⟩
  | .endOfStream (some report) => .ends ⟨.failed report, d.clock, d.asked, rest⟩
  | .heartbeat =>
    .goesOn { d with pulls := d.asked, waiting := false, receiver := rest }
  | .data block =>
    .goesOn { d with
      pulls := d.asked
      blocks := d.blocks ++ [block]
      waiting := false
      receiver := rest }

/-- Nothing came by the time the timer fired. -/
def giveUp (d : Progress σ) (deadline : Nat) (left : σ) : Course σ :=
  .ends ⟨.timedOut, expiry deadline, d.asked, left⟩

/-- One step: asks the receiver, and waits for it if it has nothing yet. -/
def step (poll : σ → Poll σ) (deadline : Nat) (d : Progress σ) : Course σ :=
  if !d.waiting && deadline ≤ d.clock then .ends ⟨.timedOut, d.clock, d.pulls, d.receiver⟩
  else
    match poll d.receiver with
    | .ready p rest => d.take p rest
    | .waits left none => d.giveUp deadline left
    | .waits left (some (delay, later)) =>
      if expiry deadline ≤ d.clock || expiry deadline < d.clock + delay then
        d.giveUp deadline left
      else
        .goesOn { d with
          clock := d.clock + delay
          pulls := d.asked
          waiting := true
          receiver := later }

/-- Goes on for at most `steps` steps. -/
def run (poll : σ → Poll σ) (deadline : Nat) : (steps : Nat) → Progress σ → Outcome σ
  | 0, d => ⟨.unfinished, d.clock, d.pulls, d.receiver⟩
  | steps + 1, d =>
    match d.step poll deadline with
    | .goesOn d => run poll deadline steps d
    | .ends outcome => outcome

end Progress

/-- Drains a receiver within at most `steps` steps. -/
def run (poll : σ → Poll σ) (steps : Nat) (timeout : Duration) (receiver : σ) : Outcome σ :=
  (Progress.start receiver).run poll (deadlineOf timeout) steps

end Drain
end ScatterGather
