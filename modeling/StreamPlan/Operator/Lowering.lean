import StreamPlan.Operator.Graph
import StreamPlan.Plan.Roles
import StreamPlan.Stream.Resolved

/-!
# Lowering plans

A plan becomes a graph of operators, inputs before what reads them. All scans of one stream share an
input. A scan of a table on one side of a join becomes no operator: the join looks the table up.
-/

namespace StreamPlan

/-- How far the lowering of a plan has come. -/
structure Lowering where
  /-- The operators so far. -/
  graph : OperatorGraph
  /-- The number of the next id. -/
  next : Nat
  /-- The ids of the inputs, by the streams that they read. -/
  inputs : SortedMap String

namespace Lowering

/-- Nothing has been lowered yet. -/
def start : Lowering := ⟨.empty, 0, .empty⟩

/-- A new id for an operator of a kind: the kind and the next number. -/
def fresh (lowering : Lowering) (code : OperatorCode) : String × Lowering :=
  (code.name ++ "_" ++ Decimal.intText lowering.next, { lowering with next := lowering.next + 1 })

/-- Adds a stage under a new id. Gives back the id. -/
def push (lowering : Lowering) (stage : Stage String) : Except Error (String × Lowering) :=
  let (id, lowering) := lowering.fresh stage.code
  match lowering.graph.add ⟨id, stage⟩ with
  | (.error fault, _) => .error (.graph fault)
  | (.ok id, graph) => .ok (id, { lowering with graph })

/-- Adds the input of a stream, which is remembered for later scans. -/
def pushInput (lowering : Lowering) (stream system : String) : Except Error (String × Lowering) := do
  let (id, lowering) ← lowering.push (.input stream system)
  .ok (id, { lowering with inputs := lowering.inputs.insert stream id })

end Lowering

namespace Resolution

/-- The system that holds a stream in a role. -/
def system (resolution : Resolution) (name : String) (role : Role) : Except Error String :=
  match resolution.get? name role with
  | none => .error (.unresolvedStream name)
  | some resolved => .ok resolved.system

/-- The name of the table that a plan scans, if it is nothing but a scan of a table. -/
def scannedTable? (resolution : Resolution) : Plan → Option String
  | .scan (some table) => if resolution.isTable table.dotted then some table.dotted else none
  | _ => none

end Resolution

namespace Plan

/-- The join of a stream with a table on two fields. -/
def fieldJoin (table messageField recordField : String) (joinType : JoinType) : TableJoin :=
  ⟨table, .fields ⟨messageField, recordField, joinType⟩, []⟩

/-- Adds a unary operator that reads from a source. An aggregation becomes two operators. -/
def lowerUnary (op : UnaryOp) (source : String) (lowering : Lowering) :
    Except Error (String × Lowering) :=
  match op with
  | .project columns => lowering.push (.map columns source)
  | .filter condition => lowering.push (.filter condition source)
  | .window partitionBy sizeMs => lowering.push (.window partitionBy sizeMs source)
  | .aggregate groupBy aggregates => do
    let (source, lowering) ← lowering.push (.partitionBy groupBy source)
    lowering.push (.map (groupBy ++ aggregates) source)

/-- Adds the operators of a plan to what was lowered before. Gives back the id of the topmost
operator. -/
def lowerInto (resolution : Resolution) : Plan → Lowering → Except Error (String × Lowering)
  | .scan none, _ => .error .unnamedInput
  | .scan (some table), lowering =>
    match lowering.inputs.get? table.dotted with
    -- Every scan of one stream reads from the same input.
    | some id => .ok (id, lowering)
    | none => do
      let system ← resolution.system table.dotted .input
      lowering.pushInput table.dotted system
  -- A table that a unary operator looks up is bound by its name and is no source.
  | .unary op _ input, lowering => do
    let (source, lowering) ← input.lowerInto resolution lowering
    lowerUnary op source lowering
  | .binary .union left right, lowering => do
    let (left, lowering) ← left.lowerInto resolution lowering
    let (right, lowering) ← right.lowerInto resolution lowering
    lowering.push (.merge [left, right])
  | .binary (.join joinType leftKey rightKey) left right, lowering =>
    match resolution.scannedTable? left, resolution.scannedTable? right with
    -- A join needs a stream that drives it.
    | some left, some right => .error (.tablesOnly left right)
    | none, some table => do
      let (stream, lowering) ← left.lowerInto resolution lowering
      lowering.push (.tableJoin (fieldJoin table leftKey rightKey joinType) [stream])
    -- The stream stands on the right, so the keys change sides.
    | some table, none =>
      if joinType = .left then .error (.keptTable table)
      else do
        let (stream, lowering) ← right.lowerInto resolution lowering
        lowering.push (.tableJoin (fieldJoin table rightKey leftKey joinType) [stream])
    | none, none => do
      let (left, lowering) ← left.lowerInto resolution lowering
      let (right, lowering) ← right.lowerInto resolution lowering
      lowering.push (.streamJoin joinType leftKey rightKey left right)
  | .write table _ input, lowering => do
    let (source, lowering) ← input.lowerInto resolution lowering
    let system ← resolution.system table.dotted .output
    lowering.push (.sink table.dotted system source)

/-- The operators of a plan. -/
def lower (plan : Plan) (resolution : Resolution) : Except Error OperatorGraph :=
  (plan.lowerInto resolution .start).map (·.2.graph)

end Plan

end StreamPlan
