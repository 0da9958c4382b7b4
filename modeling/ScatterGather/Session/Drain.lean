import ScatterGather.Drain
import ScatterGather.Session

/-!
# Draining a merge

While a drain goes on, others use the mailboxes. Their steps come in interludes: one without delay
comes before the next packet is asked for, any other one some time after the drain began to wait.
When no interlude is left, nothing will ever wake the merge.
-/

namespace ScatterGather

/-- What others do during a drain, and after how many nanoseconds of waiting. -/
structure Interlude where
  delay : Nat
  steps : List Step
deriving DecidableEq

namespace Mailbox

/-- The packets queued in all channels of a mailbox. -/
def backlog (m : Mailbox) : Nat :=
  (m.channels.flatMap Channel.queue).length

end Mailbox

namespace Session

/-- Lets the first interlude come if it does so without delay. -/
def interrupt : Session × List Interlude → Session × List Interlude
  | (s, interlude :: rest) =>
    if interlude.delay = 0 then ((s.run interlude.steps).2, rest) else (s, interlude :: rest)
  | (s, []) => (s, [])

/-- Asks a merge for its next packet. -/
def pollMerge (number : Nat) (state : Session × List Interlude) : Poll (Session × List Interlude) :=
  let (s, interludes) := interrupt state
  let pulled := s.mailboxes.pull number
  let s := s.withMailboxes pulled.mailboxes
  match pulled.packet, interludes with
  | some p, _ => .ready p (s, interludes)
  | none, [] => .waits (s, []) none
  | none, interlude :: rest =>
    .waits (s, interludes) (some (interlude.delay, (s.run interlude.steps).2, rest))

/-- Enough steps for the drain of a merge: one for each packet that is queued or may be sent, one for
each interlude, and two more. -/
def stepBound (s : Session) (interludes : List Interlude) : Nat :=
  Registry.total Mailbox.backlog s.mailboxes.boxes +
    (interludes.flatMap Interlude.steps).length + interludes.length + 2

/-- Drains a merge while others go on as the interludes say. -/
def drainMerge (s : Session) (number : Nat) (timeout : Duration) (interludes : List Interlude) :
    Drain.Outcome (Session × List Interlude) :=
  Drain.run (pollMerge number) (s.stepBound interludes) timeout (s, interludes)

end Session
end ScatterGather
