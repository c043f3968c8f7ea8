import StreamPlan.Config.Basic

/-!
# Configurations as YAML

A YAML mapping becomes a configuration by flattening: nested keys are joined with dots and lists of
scalars with commas. Tags on values do not count.
-/

namespace StreamPlan.Config

/-- The path of a key below a path. -/
def childPath (path key : String) : String := if path = "" then key else path ++ "." ++ key

/-- The texts of a list at a path. -/
def itemTexts (path : String) : List Yaml.Value → Except ConfigFault (List String)
  | [] => .ok []
  | item :: items =>
    match item.scalarText? with
    | none => .error (.nonScalarItem path)
    | some text => (itemTexts path items).map (text :: ·)

mutual

/-- Adds what a value at a path says to a configuration. -/
def flattenValue (path : String) : Yaml.Value → Config → Except ConfigFault Config
  | .mapping pairs, config => flattenPairs path pairs config
  | .sequence items, config =>
    (itemTexts path items).map fun texts => config.insert path (Text.join "," texts)
  | .tagged _ value, config => flattenValue path value config
  | .null, config => .ok (config.insert path "")
  | .bool b, config => .ok (config.insert path (Yaml.Value.boolText b))
  | .number n, config => .ok (config.insert path (n.text Yaml.Value.decimalStyle))
  | .string s, config => .ok (config.insert path s)

/-- Adds what the pairs of a mapping at a path say to a configuration, in order. -/
def flattenPairs (path : String) : List (Yaml.Value × Yaml.Value) → Config →
    Except ConfigFault Config
  | [], config => .ok config
  | (key, value) :: pairs, config =>
    match key.scalarText? with
    | none => .error (.nonScalarKey path)
    | some text =>
      match flattenValue (childPath path text) value config with
      | .error fault => .error fault
      | .ok config => flattenPairs path pairs config

end

/-- The configuration of a YAML value, which must be a mapping or nothing. -/
def ofYamlValue (value : Yaml.Value) : Except ConfigFault Config :=
  match value with
  | .null => .ok SortedMap.empty
  | .mapping pairs => flattenPairs "" pairs SortedMap.empty
  | other => .error (.notMapping other)

/-- Reads a YAML text with a single document as a configuration. -/
def ofYaml (text : String) : Except ConfigFault Config :=
  match Yaml.parse text with
  | .error _ => .error .malformedYaml
  | .ok value => ofYamlValue value

end StreamPlan.Config
