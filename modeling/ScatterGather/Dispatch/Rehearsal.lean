import ScatterGather.Dispatch.Dispatcher
import ScatterGather.Text.Quoted

/-!
# Rehearsals

A rehearsal is a network whose workers do as they were told beforehand. A worker may refuse to be
connected to, fail every request, or take a request, send packets to the mailbox of its stage's
receiver and respond with given metadata. It stops sending at the first packet that is not accepted
at once.
-/

namespace ScatterGather

/-- What a worker was told to do. -/
structure Behaviour where
  /-- Why connecting fails. -/
  refusal : Option String
  /-- Why every request fails. -/
  failure : Option String
  /-- The packets to send, if any are to be sent at all. -/
  packets : Option (List Packet)
  /-- After the packets comes one that cannot be made, which ends the sending. -/
  spoiled : Bool
  /-- Whether the sender is kept after the packets were sent. -/
  holds : Bool
  /-- The metadata of the response. -/
  metadata : List (String × String)

namespace Behaviour

/-- A worker that was told nothing. -/
def idle : Behaviour :=
  { refusal := none
    failure := none
    packets := none
    spoiled := false
    holds := false
    metadata := [] }

end Behaviour

/-- A client of a rehearsal. -/
structure RehearsalClient where
  number : Nat
  endpoint : String
deriving DecidableEq, Repr

/-- A request that reached a worker. -/
structure Submission where
  client : RehearsalClient
  request : Request
deriving DecidableEq, Repr

/-- What a rehearsal keeps: what the workers were told, by endpoint, how many clients were made and
which were closed, the requests so far, how many senders were opened, and the names of those that are
kept. -/
structure Rehearsal where
  workers : Registry String Behaviour
  created : Nat
  closed : List Nat
  submissions : List Submission
  opened : Nat
  kept : List String

namespace Rehearsal

/-- A rehearsal that is about to start. -/
def ofWorkers (workers : Registry String Behaviour) : Rehearsal :=
  { workers
    created := 0
    closed := []
    submissions := []
    opened := 0
    kept := [] }

/-- What the worker of an endpoint was told. -/
def behaviour (r : Rehearsal) (endpoint : String) : Behaviour :=
  (Registry.find? r.workers endpoint).getD .idle

/-- Connects to the worker of an endpoint. -/
def connect (host : String) (servicePort : UInt16) (r : Rehearsal) :
    Except QueryError RehearsalClient × Rehearsal :=
  let endpoint := Pool.key host servicePort
  match (r.behaviour endpoint).refusal with
  | some reason => (.error (.endpoint endpoint reason), r)
  | none => (.ok ⟨r.created + 1, endpoint⟩, { r with created := r.created + 1 })

/-- The mailbox of the worker that takes a request, towards the first worker of the receiving
stage. -/
def mailboxOf? (request : Request) : Option MailboxId := do
  let plan ← (BoundPlan.ofBytes request.plan).toOption
  let .send receiverStage _ _ _ := plan.root | none
  let placement ← plan.placements.get? receiverStage
  let receiver ← placement.servers.head?
  let number ← (← lookup? request.metadata MetadataKey.request).toInt?
  let host ← lookup? request.metadata MetadataKey.host
  let mailboxPort ← (← lookup? request.metadata MetadataKey.mailboxPort).toNat?
  return {
    request := Int64.ofInt number
    stage := request.stage
    senderHost := host
    senderPort := UInt16.ofNat mailboxPort
    receiverHost := receiver.host
    receiverPort := receiver.mailboxPort }

/-- Sends the packets of a worker through a sender of its own, and tells whether the sender is
kept. -/
def stream (b : Behaviour) (packets : List Packet) (id : MailboxId) (sender : String) :
    Program Bool :=
  .act (.openSender id sender) fun _ =>
    (Program.sendAll sender packets).andThen fun accepted =>
      if b.holds && !(accepted && b.spoiled) then .done true
      else .act (.drop sender) fun _ => .done false

/-- The status of a call that failed within the worker. -/
def internalFault (text : String) : String :=
  "status: Internal, message: " ++ Quoted.encode text ++
    ", details: [], metadata: MetadataMap \x7b headers: \x7b\x7d \x7d"

/-- Takes a request. -/
def submit (client : RehearsalClient) (request : Request) (r : Rehearsal) :
    Program (Except QueryError Response × Rehearsal) :=
  let b := r.behaviour client.endpoint
  let r := { r with submissions := r.submissions ++ [⟨client, request⟩] }
  match b.failure with
  | some text => .done (.error (.rpc (internalFault text)), r)
  | none =>
    match b.packets, mailboxOf? request with
    | some packets, some id =>
      let sender := toString r.opened
      let r := { r with opened := r.opened + 1 }
      (stream b packets id sender).andThen fun keeps =>
        .done (.ok ⟨b.metadata⟩, if keeps then { r with kept := r.kept ++ [sender] } else r)
    | _, _ => .done (.ok ⟨b.metadata⟩, r)

/-- Closes a client. -/
def close (client : RehearsalClient) (r : Rehearsal) : Rehearsal :=
  { r with closed := r.closed ++ [client.number] }

/-- Rehearsals as a network. -/
def network : Network Rehearsal RehearsalClient where
  connect := connect
  submit := submit
  close := close

end Rehearsal

/-- A world in which workers are rehearsed. -/
abbrev RehearsedWorld := World Rehearsal RehearsalClient

namespace RehearsedWorld

/-- A world at the start of a rehearsal. -/
def start (workers : Registry String Behaviour) (mailboxes : Mailboxes) : RehearsedWorld :=
  { pool := Pool.empty
    session := Session.ofMailboxes mailboxes
    outside := Rehearsal.ofWorkers workers }

/-- Drops all senders that workers keep. -/
def dropKept (w : RehearsedWorld) : RehearsedWorld :=
  { w with
    session := (w.session.run (w.outside.kept.map Step.drop)).2
    outside := { w.outside with kept := [] } }

end RehearsedWorld
end ScatterGather
