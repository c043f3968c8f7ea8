import StreamPlan.Data.SortedMap
import StreamPlan.Error
import StreamPlan.Operator.Basic
import StreamPlan.Plan.Roles

/-!
# Operator graphs

The operators of a job in the order in which they were added, with an index of their ids. An operator
can only read from operators that are there already, so the order is one in which they can be started.
-/

namespace StreamPlan

/-- The operators of a job. -/
structure OperatorGraph where
  /-- The operators, first added first. -/
  operators : List Operator
  /-- The positions of the operators, by their ids. -/
  index : SortedMap Nat

namespace OperatorGraph

/-- No operators. -/
def empty : OperatorGraph := ⟨[], .empty⟩

/-- The number of operators. -/
def size (graph : OperatorGraph) : Nat := graph.operators.length

/-- Whether there are no operators. -/
def isEmpty (graph : OperatorGraph) : Bool := graph.operators.isEmpty

/-- The operator of an id. -/
def get? (graph : OperatorGraph) (id : String) : Option Operator :=
  (graph.index.get? id).bind (graph.operators[·]?)

/-- Whether there is an operator of an id. -/
def contains (graph : OperatorGraph) (id : String) : Bool := graph.index.contains id

/-- The graph with an operator at its end, without any check. -/
def concat (graph : OperatorGraph) (operator : Operator) : OperatorGraph :=
  ⟨graph.operators ++ [operator], graph.index.insert operator.id graph.operators.length⟩

/-- Adds an operator. The id must be new, the operator may read only from operators of the graph, and
only an input reads from none. Gives back the id or what speaks against the operator, and the graph. -/
def add (graph : OperatorGraph) (operator : Operator) : Except GraphFault String × OperatorGraph :=
  if graph.contains operator.id then (.error (.repeatedId operator.id), graph)
  else
    match operator.sources.find? fun source => !graph.contains source with
    | some source => (.error (.unknownSource operator.id source), graph)
    | none =>
      if operator.sources.isEmpty && operator.code ≠ .input then
        (.error (.noSource operator.id operator.code), graph)
      else (.ok operator.id, graph.concat operator)

/-- The operators that read streams. -/
def inputs (graph : OperatorGraph) : List Operator := graph.operators.filter (·.code = .input)

/-- The operators that write streams. -/
def sinks (graph : OperatorGraph) : List Operator := graph.operators.filter (·.code = .sink)

/-- The ids of the operators that read from an id. -/
def readers (graph : OperatorGraph) (id : String) : List String :=
  (graph.operators.filter fun operator => operator.sources.contains id).map Operator.id

/-- The tables that operators join with, in order. -/
def tables (graph : OperatorGraph) : List String := graph.operators.filterMap Operator.table?

/-- Checks that every table that is joined with is known: as a stream that the plan reads or on its
own. -/
def checkTables (graph : OperatorGraph) (inputs : NameSet) (registered : String → Bool) :
    Except Error Unit :=
  match graph.tables.find? fun table => !inputs.contains table && !registered table with
  | some table => .error (.unresolvedStream table)
  | none => .ok ()

end OperatorGraph

end StreamPlan
