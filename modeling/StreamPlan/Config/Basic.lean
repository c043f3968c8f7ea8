import StreamPlan.Config.Fault
import StreamPlan.Data.SortedMap
import StreamPlan.Text.Blank

/-!
# Configurations

A configuration is a map from dotted keys to texts. It is never changed in place: overlaying one
configuration with another gives a third.
-/

namespace StreamPlan

/-- A map from keys to texts. -/
abbrev Config := SortedMap String

namespace Config

/-- The key of a single statement. -/
def statementKey : String := "relflow.sql.stmt"

/-- The key of a JSON list of statements. -/
def statementsKey : String := "relflow.sql.stmts.json"

/-- The key of the format that statements are written in. -/
def formatKey : String := "relflow.sql.dsl.format"

/-- The key of the resolver's name. -/
def resolverKey : String := "relflow.sql.io.resolver"

/-- The key of the list of systems. -/
def systemsKey : String := "relflow.sql.io.systems"

/-- What the keys of one system start with, before the name of the system. -/
def systemLead : String := "relflow.sql.io.system."

/-- The key of the class that runs the job. -/
def runnerKey : String := "app.runner.class"

/-- The key that binds a stream to a system. -/
def bindingKey (stream : String) : String := "streams." ++ stream ++ ".samza.system"

/-- The value of a key, or else a default. -/
def getOr (config : Config) (key default : String) : String := (config.get? key).getD default

/-- The value of a key without surrounding blanks. A missing or blank value is a fault. -/
def require (config : Config) (key : String) : Except ConfigFault String :=
  match config.get? key with
  | none => .error (.missingKey key)
  | some value =>
    let value := Text.trim value
    if value = "" then .error (.missingKey key) else .ok value

/-- The items of a comma-separated value, without blank ones. -/
def list (config : Config) (key : String) : List String :=
  match config.get? key with
  | none => []
  | some value => ((Text.split ',' value).map Text.trim).filter (· ≠ "")

/-- The entries whose keys start with `lead` and go on after it, under the rest of their keys. They
are one run of the entries in key order: it starts at the first key that is not less than `lead`. -/
def subset (config : Config) (lead : String) : Config :=
  let run := (config.entries.dropWhile fun entry => entry.1 < lead).takeWhile fun entry =>
    Text.hasLead lead entry.1
  SortedMap.ofList (run.filterMap fun (key, value) =>
    match Text.stripLead? lead key with
    | none => none
    | some "" => none
    | some rest => some (rest, value))

/-- What the environment variables that concern the program start with. -/
def environmentLead : String := "RELFLOW_"

/-- The key that an environment variable sets: its name after the lead in lower case, with a dot for
each underscore. -/
def environmentKey? (name : String) : Option String :=
  match Text.stripLead? environmentLead name with
  | none => none
  | some "" => none
  | some rest => some ("relflow." ++ Text.substitute '_' '.' (Text.lowerAscii rest))

/-- The configuration that environment variables set; the last of one key stands. -/
def ofEnvironment (entries : List (String × String)) : Config :=
  SortedMap.ofList (entries.filterMap fun (name, value) =>
    (environmentKey? name).map fun key => (key, value))

end Config

end StreamPlan
