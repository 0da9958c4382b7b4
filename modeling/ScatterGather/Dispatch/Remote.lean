import ScatterGather.Dispatch.Address
import ScatterGather.Dispatch.Dispatcher
import ScatterGather.Settings.Basic

/-!
# Remote workers

A remote worker is reached at an address made of its host and its service number. A client is made
as soon as the address is one; it connects when it is first used. A closed client refuses requests.
-/

namespace ScatterGather

/-- A remote client. -/
structure RemoteClient where
  number : Nat
  address : String
deriving DecidableEq, Repr

/-- The clients made so far, and the numbers of those that were closed. -/
structure Remote where
  clients : List RemoteClient
  closed : List Nat
deriving DecidableEq, Repr

namespace Remote

/-- Before any client is made. -/
def start : Remote :=
  { clients := [], closed := [] }

/-- Makes a client for a worker. -/
def connect (host : String) (servicePort : UInt16) (r : Remote) :
    Except QueryError RemoteClient × Remote :=
  let address := Address.ofService host servicePort
  if Address.isValid address then
    let client : RemoteClient := ⟨r.clients.length, address⟩
    (.ok client, { r with clients := r.clients ++ [client] })
  else (.error (.endpoint address "invalid URI"), r)

/-- Takes a request. No worker is there to take it, so it fails. -/
def submit (client : RemoteClient) (_ : Request) (r : Remote) :
    Program (Except QueryError Response × Remote) :=
  if r.closed.contains client.number then .done (.error (.clientClosed client.address), r)
  else .done (.error (.rpc "status: Unavailable"), r)

/-- Closes a client. -/
def close (client : RemoteClient) (r : Remote) : Remote :=
  { r with closed := r.closed ++ [client.number] }

/-- Remote workers as a network. -/
def network : Network Remote RemoteClient where
  connect := connect
  submit := submit
  close := close

/-- A dispatcher to remote workers, as the settings say. -/
def dispatcher (settings : Settings) : Dispatcher Remote RemoteClient :=
  { network, defaultTimeout := settings.defaultTimeout }

end Remote
end ScatterGather
