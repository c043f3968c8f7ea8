import StreamPlan.Plan.Basic

/-!
# Written plans

A plan as it is written in a statement: table names are plain texts, and nothing is checked beyond
the shape. `Definition.toPlan` checks the names and the window lengths, a node before its inputs and
the left input before the right.
-/

namespace StreamPlan

/-- A plan as it is written. -/
inductive Definition where
  /-- Reads a stream or table. -/
  | scan (table : Option String)
  /-- Keeps some columns. -/
  | project (columns : List String) (table : Option String) (input : Definition)
  /-- Keeps the records that satisfy a condition. -/
  | filter (condition : String) (table : Option String) (input : Definition)
  /-- Aggregates over groups. -/
  | aggregate (groupBy aggregates : List String) (input : Definition)
  /-- Collects records for a number of milliseconds, by keys. -/
  | window (partitionBy : List String) (sizeMs : Nat) (input : Definition)
  /-- Joins two inputs on equal keys. -/
  | join (joinType : JoinType) (leftKey rightKey : String) (left right : Definition)
  /-- Puts two inputs together. -/
  | union (left right : Definition)
  /-- Writes into a stream. -/
  | write (table : String) (kind : WriteKind) (input : Definition)
  deriving DecidableEq

/-- What is wrong with a written plan. -/
inductive DefinitionFault where
  /-- A text is no table name. -/
  | name (fault : NameFault)
  /-- A window has no length. -/
  | zeroWindow
  deriving DecidableEq

/-- The text of a fault. -/
def DefinitionFault.message : DefinitionFault → String
  | .name fault => fault.message
  | .zeroWindow => "window size_ms must be positive"

namespace Definition

/-- Reads a table name. -/
def tableName (text : String) : Except DefinitionFault TableName :=
  (TableName.parse text).mapError .name

/-- Reads an optional table name. -/
def optionalName : Option String → Except DefinitionFault (Option TableName)
  | none => .ok none
  | some text => (tableName text).map some

/-- The plan that is written, if its names and windows are right. -/
def toPlan : Definition → Except DefinitionFault Plan
  | .scan table => do
    let table ← optionalName table
    .ok (.scan table)
  | .project columns table input => do
    let table ← optionalName table
    let input ← input.toPlan
    .ok (.unary (.project columns) table input)
  | .filter condition table input => do
    let table ← optionalName table
    let input ← input.toPlan
    .ok (.unary (.filter condition) table input)
  | .aggregate groupBy aggregates input => do
    let input ← input.toPlan
    .ok (.unary (.aggregate groupBy aggregates) none input)
  | .window partitionBy sizeMs input =>
    if sizeMs = 0 then .error .zeroWindow
    else do
      let input ← input.toPlan
      .ok (.unary (.window partitionBy sizeMs) none input)
  | .join joinType leftKey rightKey left right => do
    let left ← left.toPlan
    let right ← right.toPlan
    .ok (.binary (.join joinType leftKey rightKey) left right)
  | .union left right => do
    let left ← left.toPlan
    let right ← right.toPlan
    .ok (.binary .union left right)
  | .write table kind input => do
    let table ← tableName table
    let input ← input.toPlan
    .ok (.write table kind input)

end Definition

end StreamPlan
