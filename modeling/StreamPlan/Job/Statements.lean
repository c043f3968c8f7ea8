import StreamPlan.Config.Basic
import StreamPlan.Json.Parser
import StreamPlan.Json.Printer

/-!
# Statements of a job

The configuration of a job holds its statements: one under a key of its own, or else several as a JSON
list of texts.
-/

namespace StreamPlan.Config

/-- The JSON list of statements. -/
def statementsText (statements : List String) : String := (Json.ofStrings statements).compact

/-- The statements under their keys. A single one comes before a list. -/
def storedStatements (config : Config) : Except ConfigFault (List String) :=
  match config.get? statementKey with
  | some statement => .ok [statement]
  | none =>
    match config.get? statementsKey with
    | none => .error .noStatements
    | some text =>
      match (Json.parse? text).bind Json.strings? with
      | some statements => .ok statements
      | none => .error .malformedStatements

/-- The statements of a job. They must not all be blank. -/
def statements (config : Config) : Except ConfigFault (List String) := do
  let statements ← config.storedStatements
  if statements.all Text.isBlankText then .error .blankStatements else .ok statements

end StreamPlan.Config
