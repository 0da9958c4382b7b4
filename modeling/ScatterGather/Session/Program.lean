import ScatterGather.Session

/-!
# Programs over mailboxes

What a worker does may depend on the answers to its earlier steps. Such a course of steps is a
program.
-/

namespace ScatterGather

/-- A course of steps, in which each step may depend on the answers to those before it, and what it
comes to. -/
inductive Program (α : Type) where
  | done (result : α)
  | act (step : Step) (next : Answer → Program α)

namespace Program

variable {α β : Type}

/-- Runs a program on a session. -/
def run : Program α → Session → α × Session
  | done result, s => (result, s)
  | act step next, s =>
    let (answer, s) := s.step step
    (next answer).run s

/-- Follows a program by another one. -/
def andThen : Program α → (α → Program β) → Program β
  | done result, next => next result
  | act step following, next => act step fun answer => (following answer).andThen next

/-- Sends packets in turn, up to the first that is not accepted at once, and tells whether all
were. -/
def sendAll (sender : String) : List Packet → Program Bool
  | [] => done true
  | p :: packets => act (.send sender p) fun
    | .sent => sendAll sender packets
    | _ => done false

end Program
end ScatterGather
