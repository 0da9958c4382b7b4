import ScatterGather.Dispatch.Error
import ScatterGather.Dispatch.Request
import ScatterGather.Registry
import ScatterGather.Session.Program

/-!
# Pooled clients

A pool keeps one client for each worker endpoint. A client is made when its endpoint is asked for the
first time, and stays until the pool is shut down. How clients are made, what they do with a request
and how they are closed is up to the network.
-/

namespace ScatterGather

/-- How workers are reached. `ω` is what the network keeps, `γ` are its clients. A client may use the
mailboxes of this process before it responds to a request. -/
structure Network (ω γ : Type) where
  connect : (host : String) → (servicePort : UInt16) → ω → Except QueryError γ × ω
  submit : γ → Request → ω → Program (Except QueryError Response × ω)
  close : γ → ω → ω

/-- Clients by endpoint. -/
structure Pool (γ : Type) where
  clients : Registry String γ
  closed : Bool
deriving DecidableEq, Repr

namespace Pool

variable {ω γ : Type}

/-- A pool without clients. -/
def empty : Pool γ :=
  { clients := [], closed := false }

/-- The key of an endpoint. -/
def key (host : String) (servicePort : UInt16) : String :=
  host ++ "_" ++ toString servicePort.toNat

/-- The client of an endpoint, which is made if there is none yet. -/
def getOrConnect (network : Network ω γ) (host : String) (servicePort : UInt16) (pool : Pool γ)
    (outside : ω) : Except QueryError γ × Pool γ × ω :=
  if pool.closed then (.error .poolClosed, pool, outside)
  else
    match Registry.find? pool.clients (key host servicePort) with
    | some client => (.ok client, pool, outside)
    | none =>
      match network.connect host servicePort outside with
      | (.error e, outside) => (.error e, pool, outside)
      | (.ok client, outside) =>
        (.ok client,
          { pool with clients := Registry.set pool.clients (key host servicePort) client }, outside)

/-- Closes every client and refuses to make new ones. -/
def shutdown (network : Network ω γ) (pool : Pool γ) (outside : ω) : Pool γ × ω :=
  ({ clients := [], closed := true },
    pool.clients.foldl (fun outside entry => network.close entry.2 outside) outside)

end Pool
end ScatterGather
