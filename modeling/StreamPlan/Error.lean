import StreamPlan.Config.Fault
import StreamPlan.Operator.Fault
import StreamPlan.Plan.Fault
import StreamPlan.Stream.Role

/-!
# Errors

The causes for which a job cannot be compiled, and their texts.
-/

namespace StreamPlan

/-- Why a job cannot be compiled. -/
inductive Error where
  /-- A scan names no table; the path leads to it from the top of the plan. -/
  | unnamedScan (path : List String)
  /-- A scan that names no table cannot become an input. -/
  | unnamedInput
  /-- No system claims a stream. -/
  | unresolvedStream (name : String)
  /-- The system of a stream does not allow a role. -/
  | roleMismatch (name : String) (role : Role)
  /-- One stream is bound to two systems. -/
  | conflict (stream existing conflicting : String)
  /-- The statements give no plan. -/
  | plan (fault : PlanFault)
  /-- The configuration is wrong. -/
  | config (fault : ConfigFault)
  /-- The graph refuses an operator. -/
  | graph (fault : GraphFault)
  /-- Both sides of a join are tables. -/
  | tablesOnly (left right : String)
  /-- A left join would have to keep the records of a table. -/
  | keptTable (table : String)
  /-- A source that is not registered writes to the coordinator log. -/
  | unregistered (source : String)

namespace Error

/-- The text of an error. -/
def message : Error → String
  | .unnamedScan path =>
    "Plan classification error: scan at '" ++ Text.join " > " path ++ "' has no table reference"
  | .unnamedInput =>
    "Plan classification error: scan without a table reference cannot be lowered"
  | .unresolvedStream name =>
    "Unresolved stream '" ++ name ++ "': no registered system claims it"
  | .roleMismatch name role => "Stream '" ++ name ++ "' cannot be used as " ++ role.name
  | .conflict stream existing conflicting =>
    "Conflicting configuration for '" ++ stream ++ "': bound to '" ++ existing ++ "' and '" ++
      conflicting ++ "'"
  | .plan fault => "DSL conversion error: " ++ fault.message
  | .config fault => "Invalid configuration: " ++ fault.message
  | .graph fault => "Operator graph error: " ++ fault.message
  | .tablesOnly left right =>
    "Operator graph error: join between tables '" ++ left ++ "' and '" ++ right ++
      "' has no stream side"
  | .keptTable table =>
    "Operator graph error: left join must keep the stream on the left, found table '" ++ table ++ "'"
  | .unregistered source =>
    "Internal invariant failed: source '" ++ source ++
      "' appended to the coordinator log before registering"

/-- The stream that an error is about, if it is about one. -/
def stream? : Error → Option String
  | .unresolvedStream name => some name
  | .roleMismatch name _ => some name
  | .conflict stream _ _ => some stream
  | _ => none

end Error

end StreamPlan
