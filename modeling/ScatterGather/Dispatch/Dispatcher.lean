import ScatterGather.Dispatch.Pool
import ScatterGather.Plan.Gathering
import ScatterGather.Session.Drain
import ScatterGather.Wire.Plan

/-!
# Dispatching queries

A query is dispatched stage by stage, in ascending order of the stages, and within a stage worker by
worker. The reduce stage is left out: it runs here. The first worker that cannot be reached or
rejects its stage ends the dispatch; what was sent before is not taken back.

To run a query means to dispatch it, to drain the mailboxes of the stage that feeds its reduce
stage, and to project the drained blocks into the result.
-/

namespace ScatterGather

/-- All that a dispatcher acts on: its pool, the mailboxes of this process, and the network. -/
structure World (ω γ : Type) where
  pool : Pool γ
  session : Session
  outside : ω

namespace World

variable {ω γ : Type}

/-- The client of an endpoint. -/
def client (network : Network ω γ) (host : String) (servicePort : UInt16) (w : World ω γ) :
    Except QueryError γ × World ω γ :=
  let (client, pool, outside) := w.pool.getOrConnect network host servicePort w.outside
  (client, { w with pool, outside })

/-- Sends a request and waits for the response. -/
def send (network : Network ω γ) (client : γ) (request : Request) (w : World ω γ) :
    Except QueryError Response × World ω γ :=
  let ((response, outside), session) := (network.submit client request w.outside).run w.session
  (response, { w with session, outside })

/-- Closes the pool with all its clients. -/
def shutdown (network : Network ω γ) (w : World ω γ) : World ω γ :=
  let (pool, outside) := w.pool.shutdown network w.outside
  { w with pool, outside }

end World

/-- The request that asks the worker of a bound plan to run it. -/
def BoundPlan.request (p : BoundPlan) (request : Int64) : Request :=
  { stage := p.stage
    plan := p.toBytes
    metadata := [
      (MetadataKey.request, toString request.toInt),
      (MetadataKey.host, p.server.host),
      (MetadataKey.mailboxPort, toString p.server.mailboxPort.toNat)] }

namespace Gathering

/-- The merge over the mailboxes of a gathering, at the address where they are received. -/
def mergeRequest (g : Gathering) (request : Int64) (host : String) (mailboxPort : UInt16) :
    MergeRequest :=
  { schema := g.schema
    senders := g.senders
    routing := .randomDistributed
    host
    mailboxPort
    request
    senderStage := g.senderStage }

end Gathering

namespace Session

/-- Drains the mailboxes of a gathering, while others go on as the interludes say. Whatever comes of
it, no receiver is left open. -/
def gather (s : Session) (g : Gathering) (request : Int64) (timeout : Duration)
    (interludes : List Interlude) : Except QueryError (List Block) × Session :=
  let merge := g.mergeRequest request s.mailboxes.host s.mailboxes.mailboxPort
  match s.mailboxes.openMerge merge with
  | (.error fault, mailboxes) => (.error (.mailbox fault), s.withMailboxes mailboxes)
  | (.ok number, mailboxes) =>
    let outcome := (s.withMailboxes mailboxes).drainMerge number timeout interludes
    let s := outcome.receiver.1
    (outcome.blocks timeout, s.withMailboxes (s.mailboxes.dropMerge number))

end Session

/-- A dispatcher reaches workers through a network. -/
structure Dispatcher (ω γ : Type) where
  network : Network ω γ
  defaultTimeout : Duration

namespace Dispatcher

variable {ω γ : Type}

/-- A dispatcher that drains for as long as is usual. -/
def ofNetwork (network : Network ω γ) : Dispatcher ω γ :=
  { network, defaultTimeout := Drain.standardTimeout }

/-- Sends a stage to one of its workers. -/
def dispatchTo (d : Dispatcher ω γ) (request : Int64) (plan : Plan) (target : Int32 × Server)
    (w : World ω γ) : Except QueryError Unit × World ω γ :=
  let (stage, server) := target
  match plan.bind stage server with
  | .error fault => (.error (.plan fault), w)
  | .ok bound =>
    match w.client d.network server.host server.servicePort with
    | (.error e, w) => (.error e, w)
    | (.ok client, w) =>
      match w.send d.network client (bound.request request) with
      | (.error e, w) => (.error e, w)
      | (.ok response, w) =>
        match response.error? with
        | some reason => (.error (.rejected stage server reason), w)
        | none => (.ok (), w)

/-- Sends stages to workers in turn, up to the first that fails. -/
def dispatchAll (d : Dispatcher ω γ) (request : Int64) (plan : Plan) :
    List (Int32 × Server) → World ω γ → Except QueryError Unit × World ω γ
  | [], w => (.ok (), w)
  | target :: targets, w =>
    match d.dispatchTo request plan target w with
    | (.error e, w) => (.error e, w)
    | (.ok (), w) => d.dispatchAll request plan targets w

/-- Dispatches a plan and gives its reduce stage. -/
def dispatch (d : Dispatcher ω γ) (request : Int64) (plan : Plan) (w : World ω γ) :
    Except QueryError Int32 × World ω γ :=
  match plan.validate with
  | .error fault => (.error (.plan fault), w)
  | .ok () =>
    match d.dispatchAll request plan plan.targets w with
    | (.error e, w) => (.error e, w)
    | (.ok (), w) => (.ok plan.leftOut, w)

/-- Dispatches a plan, drains its reduce stage and gives the result. The budget of the drain is the
dispatcher's own if the caller does not say; while it waits, others go on as the interludes say. -/
def run (d : Dispatcher ω γ) (request : Int64) (plan : Plan)
    (timeout : Option Duration) (interludes : List Interlude) (w : World ω γ) :
    Except QueryError ResultTable × World ω γ :=
  match plan.gathering with
  | .error fault => (.error (.plan fault), w)
  | .ok g =>
    match d.dispatch request plan w with
    | (.error e, w) => (.error e, w)
    | (.ok _, w) =>
      match w.session.gather g request (timeout.getD d.defaultTimeout) interludes with
      | (.error e, session) => (.error e, { w with session })
      | (.ok blocks, session) =>
        ((ResultTable.ofBlocks blocks plan.fields g.sourceSchema).mapError .table,
          { w with session })

end Dispatcher
end ScatterGather
