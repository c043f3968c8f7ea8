import StreamPlan.Json.Shown
import StreamPlan.Operator.Fault
import StreamPlan.Operator.Join

/-!
# Operators

An operator is one stage of a job: it has an id, reads from other operators, and does something with
what it reads.
-/

namespace StreamPlan

/-- A join of a stream with a table. -/
structure TableJoin where
  /-- The table. -/
  table : String
  /-- How messages and records are joined. -/
  function : JoinFunction
  /-- What the table is given when it is opened. -/
  arguments : List Json

/-- What an operator does, and what it reads from. The sources are ids of operators in a graph. -/
inductive Stage (σ : Type) where
  /-- Reads a stream of a system. -/
  | input (stream system : String)
  /-- Computes columns. -/
  | map (columns : List String) (source : σ)
  /-- Keeps the records that satisfy a condition. -/
  | filter (condition : String) (source : σ)
  /-- Collects records for a number of milliseconds, by keys. -/
  | window (partitionBy : List String) (sizeMs : Nat) (source : σ)
  /-- Distributes records by keys. -/
  | partitionBy (keys : List String) (source : σ)
  /-- Joins a stream with a table. -/
  | tableJoin (join : TableJoin) (sources : List σ)
  /-- Joins two streams. -/
  | streamJoin (joinType : JoinType) (leftKey rightKey : String) (left right : σ)
  /-- Puts streams together. -/
  | merge (sources : List σ)
  /-- Writes a stream of a system. -/
  | sink (stream system : String) (source : σ)

namespace Stage

variable {σ : Type}

/-- What a stage reads from, in order. -/
def sources : Stage σ → List σ
  | .input .. => []
  | .map _ source => [source]
  | .filter _ source => [source]
  | .window _ _ source => [source]
  | .partitionBy _ source => [source]
  | .tableJoin _ sources => sources
  | .streamJoin _ _ _ left right => [left, right]
  | .merge sources => sources
  | .sink _ _ source => [source]

/-- The kind of a stage. -/
def code : Stage σ → OperatorCode
  | .input .. => .input
  | .map .. => .map
  | .filter .. => .filter
  | .window .. => .window
  | .partitionBy .. => .partitionBy
  | .tableJoin .. => .join
  | .streamJoin .. => .join
  | .merge _ => .merge
  | .sink .. => .sink

/-- The join with a table, if the stage is one. -/
def tableJoin? : Stage σ → Option TableJoin
  | .tableJoin join _ => some join
  | _ => none

end Stage

/-- An operator of a job. -/
structure Operator where
  /-- The id. -/
  id : String
  /-- What it does and which operators it reads from. -/
  stage : Stage String

namespace Operator

/-- The ids of the operators that it reads from, in order. -/
def sources (operator : Operator) : List String := operator.stage.sources

/-- The kind of the operator. -/
def code (operator : Operator) : OperatorCode := operator.stage.code

/-- The table that the operator joins with, if it joins with one. -/
def table? (operator : Operator) : Option String :=
  operator.stage.tableJoin?.map TableJoin.table

/-- The names of what the operator can do besides its work. -/
def capabilities (operator : Operator) : List String :=
  match operator.stage.tableJoin? with
  | some join => join.function.capabilities.names
  | none => []

/-- How a message shows an id. -/
def shownId (id : String) : String := "OpId(" ++ Text.quoted id ++ ")"

/-- How a message shows an operator that joins with a table. -/
def shownJoin (operator : Operator) (join : TableJoin) : String :=
  "StreamTableJoinSpec \x7b op_id: " ++ shownId operator.id ++
    ", upstream: [" ++ Text.join ", " (operator.sources.map shownId) ++
    "], table_id: " ++ Text.quoted join.table ++
    ", capabilities: \x7b" ++ Text.join ", " (join.function.capabilities.names.map Text.quoted) ++
    "\x7d, args: [" ++ Text.join ", " (join.arguments.map Json.shown) ++ "], .. \x7d"

end Operator

end StreamPlan
