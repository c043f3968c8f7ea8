import StreamPlan.TableName

/-!
# Relational plans

A plan is a tree of relational operators. Leaves scan streams or tables, and a write puts what its
input gives into a stream. The tree says what is computed; how it runs is for the operator graph.
-/

namespace StreamPlan

/-- What a join does with a message that has no partner. -/
inductive JoinType where
  /-- Such a message is dropped. -/
  | inner
  /-- Such a message of the left side is kept. -/
  | left
  deriving DecidableEq, Inhabited

/-- The name of a join type. -/
def JoinType.name : JoinType → String
  | .inner => "inner"
  | .left => "left"

/-- How a write changes its target. -/
inductive WriteKind where
  /-- Records are added. -/
  | insert
  /-- Records are replaced. -/
  | update
  /-- Records are removed. -/
  | delete
  deriving DecidableEq, Inhabited

/-- The name of a write. -/
def WriteKind.name : WriteKind → String
  | .insert => "insert"
  | .update => "update"
  | .delete => "delete"

/-- An operator with one input. -/
inductive UnaryOp where
  /-- Keeps some columns. -/
  | project (columns : List String)
  /-- Keeps the records that satisfy a condition. -/
  | filter (condition : String)
  /-- Aggregates over groups. -/
  | aggregate (groupBy aggregates : List String)
  /-- Collects records for a number of milliseconds, by keys. -/
  | window (partitionBy : List String) (sizeMs : Nat)
  deriving DecidableEq

/-- An operator with two inputs. -/
inductive BinaryOp where
  /-- Joins on equal keys. -/
  | join (joinType : JoinType) (leftKey rightKey : String)
  /-- Puts both inputs together. -/
  | union
  deriving DecidableEq

/-- A relational plan. -/
inductive Plan where
  /-- Reads a stream or table. A plan without a name for it cannot be run. -/
  | scan (table : Option TableName)
  /-- Writes into a stream. -/
  | write (table : TableName) (kind : WriteKind) (input : Plan)
  /-- Applies an operator to two inputs. -/
  | binary (op : BinaryOp) (left right : Plan)
  /-- Applies an operator to one input. The operator may look records up in a table of its own. -/
  | unary (op : UnaryOp) (table : Option TableName) (input : Plan)
  deriving DecidableEq

namespace Plan

/-- The inputs of the topmost operator, from left to right. -/
def inputs : Plan → List Plan
  | .scan _ => []
  | .write _ _ input => [input]
  | .binary _ left right => [left, right]
  | .unary _ _ input => [input]

/-- The table that the topmost operator itself refers to. -/
def table? : Plan → Option TableName
  | .scan table => table
  | .write table _ _ => some table
  | .binary .. => none
  | .unary _ table _ => table

/-- The name of the topmost operator. -/
def label : Plan → String
  | .scan _ => "scan"
  | .write .. => "modify"
  | .binary (.join ..) _ _ => "join"
  | .binary .union _ _ => "union"
  | .unary (.project _) _ _ => "project"
  | .unary (.filter _) _ _ => "filter"
  | .unary (.aggregate ..) _ _ => "aggregate"
  | .unary (.window ..) _ _ => "window"

/-- The number of operators on the longest way from the top to a leaf. -/
def depth : Plan → Nat
  | .scan _ => 1
  | .write _ _ input => input.depth + 1
  | .binary _ left right => max left.depth right.depth + 1
  | .unary _ _ input => input.depth + 1

/-- The plan and all plans within it: each before its inputs, the left input before the right. -/
def subplans : Plan → List Plan
  | .scan table => [.scan table]
  | .write table kind input => .write table kind input :: input.subplans
  | .binary op left right => .binary op left right :: (left.subplans ++ right.subplans)
  | .unary op table input => .unary op table input :: input.subplans

end Plan

end StreamPlan
