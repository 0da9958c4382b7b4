import ScatterGather.Exchange.Endpoints
import ScatterGather.NumberMap
import ScatterGather.ResultTable

/-!
# Plans

A query is cut into numbered stages. Each stage has a root node and, beside it, the workers that run
it. A stage is a chain of operators. It starts where rows come from, a table or the mailboxes of
another stage, and each further operator takes the output of the one below it. The stage whose root
takes the output of another stage is the reduce stage: it runs where the result is wanted, and all
others run on their workers.

**Results.** `validate` tells whether a plan can be dispatched, and otherwise the first reason why
not.
-/

namespace ScatterGather

/-- The root of a stage and all that lies below it. -/
inductive StageNode where
  /-- Takes the output of every worker of another stage. -/
  | receive (senderStage : Int32) (schema : Schema) (routing : Routing)
  /-- Passes the output of `input` on to the workers of another stage. -/
  | send (receiverStage : Int32) (schema : Schema) (routing : Routing) (input : StageNode)
  /-- Reads columns of a table. -/
  | scan (table : String) (columns : List String) (schema : Schema)
  /-- Keeps some columns of `input`. -/
  | project (columns : List UInt64) (schema : Schema) (input : StageNode)
deriving DecidableEq, Repr

namespace StageNode

/-- The schema of a node's output. -/
def schema : StageNode → Schema
  | receive _ schema _ => schema
  | send _ schema _ _ => schema
  | scan _ _ schema => schema
  | project _ schema _ => schema

/-- A stage whose root takes the output of another stage runs where its result is wanted. -/
def isReceive : StageNode → Bool
  | receive _ _ _ => true
  | _ => false

end StageNode

/-- The workers of a stage, and how rows are routed into it. -/
structure Placement where
  servers : List Server
  routing : Routing
deriving DecidableEq, Repr

/-- A query cut into stages. The placements of all stages go to every worker, so they are kept in a
map of their own. -/
structure Plan where
  roots : NumberMap StageNode
  placements : NumberMap Placement
  fields : List ResultField
deriving DecidableEq

/-- Why a plan cannot be dispatched or reduced. -/
inductive PlanFault where
  | missingRoot (stage : Int32)
  | unassigned (stage : Int32)
  | reduceStages (count : Nat)
  | noReduceStage
  | notReceive (stage : Int32)
  | missingSender (stage : Int32)
  | missingStage (stage : Int32)
deriving DecidableEq, Repr

namespace PlanFault

/-- How the fault is described to a reader. -/
def message : PlanFault → String
  | missingRoot stage => s!"stage {stage.toInt} has metadata but no plan"
  | unassigned stage => s!"stage {stage.toInt} has no assigned server instances"
  | reduceStages count => s!"expected at most one reduce stage, found {count}"
  | noReduceStage => "plan has no reduce stage"
  | notReceive stage => s!"stage {stage.toInt} is not a receive stage"
  | missingSender stage => s!"sender stage {stage.toInt} not found"
  | missingStage stage => s!"stage {stage.toInt} not found"

end PlanFault

namespace Plan

/-- A plan without stages, with the fields of its result. -/
def ofFields (fields : List ResultField) : Plan :=
  ⟨NumberMap.empty, NumberMap.empty, fields⟩

/-- Adds a stage, replacing an earlier one of the same number. -/
def addStage (p : Plan) (stage : Int32) (root : StageNode) (placement : Placement) :
    Plan :=
  { p with roots := p.roots.insert stage root, placements := p.placements.insert stage placement }

/-- The number returned for a plan without a reduce stage. -/
def noReduceStage : Int32 := -1

/-- The stage whose schema gives the result its types. -/
def rootStage : Int32 := 0

/-- The first stage whose root takes the output of another stage. -/
def reduceStage? (p : Plan) : Option Int32 :=
  (p.roots.entries.find? fun (_, root) => root.isReceive).map Prod.fst

/-- Whether the root of a stage takes the output of another stage. -/
def isReduceStage (p : Plan) (stage : Int32) : Bool :=
  match p.roots.get? stage with
  | some root => root.isReceive
  | none => false

/-- Checks stages in turn, with the number of reduce stages seen so far, and gives the number seen
in all. -/
def countReduceStages (p : Plan) : (seen : Nat) → List (Int32 × Placement) →
    Except PlanFault Nat
  | seen, [] => .ok seen
  | seen, (stage, placement) :: rest =>
    match p.roots.get? stage with
    | none => .error (.missingRoot stage)
    | some root =>
      if root.isReceive then p.countReduceStages (seen + 1) rest
      else if placement.servers.isEmpty then .error (.unassigned stage)
      else p.countReduceStages seen rest

/-- Whether a plan can be dispatched. -/
def validate (p : Plan) : Except PlanFault Unit := do
  let count ← p.countReduceStages 0 p.placements.entries
  if 1 < count then throw (.reduceStages count)

end Plan

/-- A stage bound to the worker that runs it, with the placements of all stages. -/
structure BoundPlan where
  stage : Int32
  server : Server
  root : StageNode
  placements : NumberMap Placement
deriving DecidableEq

namespace Plan

/-- Binds a stage to a worker. -/
def bind (p : Plan) (stage : Int32) (server : Server) : Except PlanFault BoundPlan :=
  match p.roots.get? stage with
  | some root => .ok ⟨stage, server, root, p.placements⟩
  | none => .error (.missingStage stage)

end Plan
end ScatterGather
