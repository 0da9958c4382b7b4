import ScatterGather.Block.Basic
import ScatterGather.NumberMap

/-!
# Packets

What passes through a mailbox: blocks of rows, heartbeats, and the end of the stream. A stream that
failed ends with a report that tells what went wrong: messages by error code, in ascending order of
the codes.
-/

namespace ScatterGather

/-- Messages by error code. -/
structure FailureReport where
  messages : NumberMap String
deriving DecidableEq

namespace FailureReport

/-- The code of a failure while a stage runs. -/
def executionCode : Int32 := 200

/-- Nothing went wrong so far. -/
def empty : FailureReport :=
  ⟨NumberMap.empty⟩

/-- Adds a message, replacing an earlier one of the same code. -/
def add (p : FailureReport) (code : Int32) (message : String) : FailureReport :=
  ⟨p.messages.insert code message⟩

/-- A single message. -/
def single (code : Int32) (message : String) : FailureReport :=
  empty.add code message

/-- A failure while a stage runs. -/
def execution (message : String) : FailureReport :=
  single executionCode message

/-- How a report is shown to a reader. -/
def text (p : FailureReport) : String :=
  let parts := p.messages.entries.map fun (code, message) => toString code.toInt ++ "=" ++ message
  "\x7b" ++ String.intercalate ", " parts ++ "\x7d"

end FailureReport

/-- One unit on its way from a sender to a receiver. -/
inductive Packet where
  | data (block : Block)
  | heartbeat
  | endOfStream (failure : Option FailureReport)
deriving DecidableEq

namespace Packet

/-- The end of a stream in which nothing failed. -/
def cleanEnd : Packet :=
  endOfStream none

/-- The end of a stream that failed. -/
def failedEnd (report : FailureReport) : Packet :=
  endOfStream (some report)

/-- The last packet of a stream, whether it failed or not. -/
def isEnd : Packet → Bool
  | endOfStream _ => true
  | _ => false

/-- The last packet of a stream that failed. -/
def isFailure : Packet → Bool
  | endOfStream (some _) => true
  | _ => false

/-- A packet without content that does not end the stream. -/
def isHeartbeat : Packet → Bool
  | heartbeat => true
  | _ => false

end Packet
end ScatterGather
