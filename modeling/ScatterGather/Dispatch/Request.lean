/-!
# Requests to workers

A worker is asked to run a stage. The request carries the bytes of the bound plan, and beside them
whose request it is and on which worker instance it is meant to run. A worker that rejects the stage
says so in the metadata of its response.
-/

namespace ScatterGather

namespace MetadataKey

/-- Which query a request belongs to. -/
def request : String := "REQUEST_ID"

/-- The host of the worker that a request is meant for. -/
def host : String := "SERVER_INSTANCE_HOST"

/-- Where the mailboxes of that worker are reached on its host. -/
def mailboxPort : String := "SERVER_INSTANCE_PORT"

/-- Why a worker rejects a stage. -/
def error : String := "ERROR"

end MetadataKey

/-- The value of a name in metadata. -/
def lookup? (metadata : List (String × String)) (key : String) : Option String :=
  (metadata.find? fun entry => entry.1 = key).map Prod.snd

/-- A request to run a stage. -/
structure Request where
  stage : Int32
  plan : List UInt8
  metadata : List (String × String)
deriving DecidableEq, Repr

/-- A worker's response to a request. -/
structure Response where
  metadata : List (String × String)
deriving DecidableEq, Repr

namespace Response

/-- Why the worker rejects the stage, if it does. -/
def error? (r : Response) : Option String :=
  lookup? r.metadata MetadataKey.error

end Response
end ScatterGather
