import StreamPlan.Decimal.Style
import StreamPlan.Text.Split
import StreamPlan.Yaml.Value

/-!
# Configuration faults

Everything that can be wrong with the configuration of a job, and how it is reported.
-/

namespace StreamPlan

/-- What is wrong with a configuration. -/
inductive ConfigFault where
  /-- A required key is missing or blank. -/
  | missingKey (key : String)
  /-- A line of properties is no pair of key and value. -/
  | expectedPair (line : Nat)
  /-- A line of properties has an empty key. -/
  | emptyKey (line : Nat)
  /-- A text is no YAML document. -/
  | malformedYaml
  /-- A YAML document is no mapping. -/
  | notMapping (value : Yaml.Value)
  /-- A key below a path is no scalar. -/
  | nonScalarKey (path : String)
  /-- A list at a path holds something else than scalars. -/
  | nonScalarItem (path : String)
  /-- No converter is known for a plan format. -/
  | unknownFormat (format : String)
  /-- No resolver of a name is known. -/
  | unknownResolver (name : String) (known : List String)
  /-- A system lists a role that there is not. -/
  | unknownRole (system role : String)
  /-- A system lists no roles. -/
  | noRoles (system : String)
  /-- A system is of a kind that there is not. -/
  | unknownKind (system kind : String)
  /-- A key for a stream of a system names no property. -/
  | noProperty (system rest : String)
  /-- The stored statements are no JSON list of texts. -/
  | malformedStatements
  /-- There are no statements. -/
  | noStatements
  /-- All statements are blank. -/
  | blankStatements
  /-- There is no such mode of running a job. -/
  | unknownMode (mode : String)

/-- The text of a fault. -/
def ConfigFault.message : ConfigFault → String
  | .missingKey key => "missing required key '" ++ key ++ "'"
  | .expectedPair line => "line " ++ Decimal.intText line ++ ": expected 'key = value'"
  | .emptyKey line => "line " ++ Decimal.intText line ++ ": empty key"
  | .malformedYaml => "yaml: <yaml>"
  | .notMapping value => "yaml config must be a mapping, got " ++ value.shown
  | .nonScalarKey path => "non-scalar key under '" ++ path ++ "'"
  | .nonScalarItem path => "'" ++ path ++ "': lists may only hold scalars"
  | .unknownFormat format => "unknown DSL format '" ++ format ++ "' for relflow.sql.dsl.format"
  | .unknownResolver name known =>
    "unknown io resolver '" ++ name ++ "' (known: " ++ Text.join ", " known ++ ")"
  | .unknownRole system role => "system '" ++ system ++ "': unknown role '" ++ role ++ "'"
  | .noRoles system => "system '" ++ system ++ "': no roles listed"
  | .unknownKind system kind => "system '" ++ system ++ "': unknown kind '" ++ kind ++ "'"
  | .noProperty system rest =>
    "system '" ++ system ++ "': stream key 'stream." ++ rest ++ "' lacks a property name"
  | .malformedStatements => "relflow.sql.stmts.json is not a JSON string array: <json>"
  | .noStatements => "no statements: set relflow.sql.stmt or relflow.sql.stmts.json"
  | .blankStatements => "statement list is empty"
  | .unknownMode mode => "unknown runner mode '" ++ mode ++ "'"

end StreamPlan
