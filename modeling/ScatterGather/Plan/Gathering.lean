import ScatterGather.Plan.Basic

/-!
# How a plan is run

To dispatch a plan is to send each of its stages to each of its workers, the reduce stage excepted.
To reduce it is then to gather the output of the stage that feeds the reduce stage, and to project
it into the result, whose types come from the root stage.
-/

namespace ScatterGather

/-- What is gathered to reduce a plan, and the schema of its source. -/
structure Gathering where
  senderStage : Int32
  senders : List Server
  schema : Schema
  sourceSchema : Schema
deriving DecidableEq, Repr

namespace Plan

/-- Each stage that runs on workers with each of its workers, in the order of dispatch. -/
def targets (p : Plan) : List (Int32 × Server) :=
  (p.placements.entries.filter fun entry => !p.isReduceStage entry.1).flatMap
    fun (stage, placement) => placement.servers.map fun server => (stage, server)

/-- The stage that a dispatch leaves out, or the number that stands for none. -/
def leftOut (p : Plan) : Int32 :=
  ((p.placements.keys.filter p.isReduceStage).getLast?).getD noReduceStage

/-- What is to be gathered, or the first reason why the plan cannot be reduced. -/
def gathering (p : Plan) : Except PlanFault Gathering :=
  match p.reduceStage? with
  | none => .error .noReduceStage
  | some reduce =>
    match p.roots.get? reduce with
    | some (.receive senderStage schema _) =>
      match p.placements.get? senderStage, p.roots.get? rootStage with
      | none, _ => .error (.missingSender senderStage)
      | some _, none => .error (.missingStage rootStage)
      | some placement, some root =>
        .ok { senderStage, senders := placement.servers, schema, sourceSchema := root.schema }
    | _ => .error (.notReceive reduce)

end Plan
end ScatterGather
