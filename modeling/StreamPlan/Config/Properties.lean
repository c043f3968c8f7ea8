import StreamPlan.Config.Basic

/-!
# Configurations as properties

The line format of configurations: a key, `=` or `:`, and a value, with comment lines that start
with `#` or `!`. `Config.properties` writes a configuration in this format and `Config.ofProperties`
reads one.
-/

namespace StreamPlan.Config

/-- What a line of properties says. -/
inductive Line where
  /-- Nothing. -/
  | skipped
  /-- A key has a value. -/
  | pair (key value : String)
  /-- No pair. -/
  | unpaired
  /-- A value without a key. -/
  | keyless

/-- Whether a line is a comment. -/
def isComment (line : String) : Bool := Text.hasLead "#" line || Text.hasLead "!" line

/-- What a line says. The first `=` divides it, or the first `:` where there is no `=`. -/
def readLine (raw : String) : Line :=
  let line := Text.trim raw
  if line = "" || isComment line then .skipped
  else
    match (Text.cut '=' line).orElse fun _ => Text.cut ':' line with
    | none => .unpaired
    | some (key, value) =>
      let key := Text.trim key
      if key = "" then .keyless else .pair key (Text.trim value)

/-- Adds what lines say to a configuration, in order. The lines are counted from `number`. -/
def readLines (number : Nat) (config : Config) : List String → Except ConfigFault Config
  | [] => .ok config
  | line :: lines =>
    match readLine line with
    | .skipped => readLines (number + 1) config lines
    | .pair key value => readLines (number + 1) (config.insert key value) lines
    | .unpaired => .error (.expectedPair number)
    | .keyless => .error (.emptyKey number)

/-- Reads properties. Of several values for a key the last stands. -/
def ofProperties (text : String) : Except ConfigFault Config :=
  readLines 1 SortedMap.empty (Text.split '\n' text)

/-- The lines of a configuration, one for each entry in key order. -/
def propertyLines (config : Config) : List String :=
  config.entries.map fun (key, value) => key ++ "=" ++ value

/-- A configuration as properties, each line ended. -/
def properties (config : Config) : String :=
  Text.join "" (config.propertyLines.map (· ++ "\n"))

end StreamPlan.Config
