import ScatterGather.Drain
import ScatterGather.Mailboxes
import ScatterGather.Plan.Basic
import ScatterGather.Wire.Codec

/-!
# Failures of a query

Every way in which dispatching a query, gathering its result or reading its settings may fail.
-/

namespace ScatterGather

/-- Why a query fails. -/
inductive QueryError where
  | rejected (stage : Int32) (server : Server) (reason : String)
  | remote (report : FailureReport)
  | timeout (budget : Duration)
  | table (fault : DataError)
  | wire (fault : Wire.Fault)
  | rpc (status : String)
  | endpoint (address reason : String)
  | poolClosed
  | clientClosed (address : String)
  | mailbox (fault : MailboxFault)
  | plan (fault : PlanFault)
  | settings
deriving DecidableEq

namespace QueryError

/-- How the failure is described to a reader. -/
def message : QueryError → String
  | rejected stage server reason =>
    s!"Unable to execute query plan at stage {stage.toInt} on server {server.text}: ERROR: {reason}"
  | remote report => s!"Received error query execution result block: {report.text}"
  | timeout budget => s!"Timed out after {budget.text} while receiving from mailbox"
  | table fault => s!"Failed to materialize query result: {fault.message}"
  | wire _ => "Failed to serialize stage plan"
  | rpc status => s!"gRPC call failed: {status}"
  | endpoint address reason => s!"Invalid worker endpoint {address}: {reason}"
  | poolClosed => "Dispatch client pool has been shut down"
  | clientClosed address => s!"Dispatch client for {address} has been closed"
  | mailbox fault => s!"Mailbox error: {fault.message}"
  | plan fault => s!"Invalid query plan: {fault.message}"
  | settings => "Failed to load configuration"

end QueryError

namespace Drain
namespace Outcome

variable {σ : Type}

/-- The data of a drain that came to a clean end; otherwise why it failed. A drain of a merge is never
left unfinished (`Session.drainMerge_finished`), only one of a script that gives packets for ever
without delay. -/
def blocks (o : Outcome σ) (timeout : Duration) : Except QueryError (List Block) :=
  match o.verdict with
  | .complete blocks => .ok blocks
  | .failed report => .error (.remote report)
  | .timedOut | .unfinished => .error (.timeout timeout)

end Outcome
end Drain
end ScatterGather
