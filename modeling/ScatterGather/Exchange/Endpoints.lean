/-!
# Between stages

The rows of a stage go from workers to workers. A worker is reached at two numbers of one host: one
takes stage plans, the other serves mailboxes. A mailbox carries the packets of one sender to one
receiver, for one stage of one request. The routing says which rows go where.
-/

namespace ScatterGather

/-- A worker instance. -/
structure Server where
  host : String
  servicePort : UInt16
  mailboxPort : UInt16
deriving DecidableEq, Repr

namespace Server

/-- How a server is shown to a reader. -/
def text (s : Server) : String :=
  "Server_" ++ s.host ++ "_" ++ toString s.servicePort.toNat

end Server

/-- Which sender, receiver, stage and request a mailbox belongs to. -/
structure MailboxId where
  request : Int64
  stage : Int32
  senderHost : String
  senderPort : UInt16
  receiverHost : String
  receiverPort : UInt16
deriving DecidableEq, Repr

namespace MailboxId

/-- How an identifier is shown to a reader. -/
def text (id : MailboxId) : String :=
  toString id.request.toInt ++ "_" ++ toString id.stage.toInt ++ ":" ++
    id.senderHost ++ ":" ++ toString id.senderPort.toNat ++ ":" ++
    id.receiverHost ++ ":" ++ toString id.receiverPort.toNat

end MailboxId

/-- How rows are routed from one stage into another. -/
inductive Routing where
  /-- One sender, on the same machine as the receiver. -/
  | singleton
  /-- Any sender may deliver any row. -/
  | randomDistributed
  | hashDistributed
  | broadcast
deriving DecidableEq, Repr

namespace Routing

/-- The name of a routing. -/
def name : Routing → String
  | singleton => "Singleton"
  | randomDistributed => "RandomDistributed"
  | hashDistributed => "HashDistributed"
  | broadcast => "Broadcast"

end Routing
end ScatterGather
