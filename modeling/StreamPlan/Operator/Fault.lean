/-!
# Codes and faults of operators

Every operator of a job has a code that says what kind it is. The graph of a job refuses operators
that do not fit; the faults say why.
-/

namespace StreamPlan

/-- The kinds of operators. -/
inductive OperatorCode where
  /-- Reads a stream. -/
  | input
  /-- Computes columns. -/
  | map
  /-- Keeps some records. -/
  | filter
  /-- Collects records for a time. -/
  | window
  /-- Distributes records by keys. -/
  | partitionBy
  /-- Joins records. -/
  | join
  /-- Puts streams together. -/
  | merge
  /-- Writes a stream. -/
  | sink
  deriving DecidableEq, Inhabited

/-- The name of a code. -/
def OperatorCode.name : OperatorCode → String
  | .input => "input"
  | .map => "map"
  | .filter => "filter"
  | .window => "window"
  | .partitionBy => "partition_by"
  | .join => "join"
  | .merge => "merge"
  | .sink => "sink"

/-- Why a graph refuses an operator. -/
inductive GraphFault where
  /-- There is an operator of the same id. -/
  | repeatedId (id : String)
  /-- The operator reads from one that there is not. -/
  | unknownSource (id source : String)
  /-- The operator reads from none and is no input. -/
  | noSource (id : String) (code : OperatorCode)
  deriving DecidableEq

/-- The text of a fault. -/
def GraphFault.message : GraphFault → String
  | .repeatedId id => "duplicate operator id '" ++ id ++ "'"
  | .unknownSource id source =>
    "operator '" ++ id ++ "' references unknown upstream '" ++ source ++ "'"
  | .noSource id code =>
    "invalid operator spec: operator '" ++ id ++ "' (" ++ code.name ++ ") has no upstream"

end StreamPlan
