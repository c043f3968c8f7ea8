import StreamPlan.Decimal.Number
import StreamPlan.TableName
import StreamPlan.Text.Quoted

/-!
# Decoding faults

Stored plans, operators and messages are read from data values of JSON or YAML. A value of the wrong
shape is reported by what was found and what was expected. The two formats differ only in how they
name an absent value and write a number with a fraction.
-/

namespace StreamPlan

/-- What was found where something else was expected. -/
inductive Found where
  /-- An absent value. -/
  | null
  /-- A truth value. -/
  | bool (b : Bool)
  /-- A number. -/
  | number (n : Number)
  /-- A text. -/
  | string (s : String)
  /-- A list. -/
  | sequence
  /-- Named values. -/
  | mapping
  /-- A value with a tag. -/
  | tagged
  /-- The bare name of a variant. -/
  | variantName

/-- How a format words what was found. -/
structure Wording where
  /-- The words for an absent value. -/
  null : String
  /-- How numbers with a fraction are written. -/
  decimals : Decimal.Style

/-- What was found, in words. -/
def Found.text (wording : Wording) : Found → String
  | .null => wording.null
  | .bool b => "boolean `" ++ (if b then "true" else "false") ++ "`"
  | .number (.int n) => "integer `" ++ Decimal.intText n ++ "`"
  | .number (.float x) => "floating point `" ++ wording.decimals.write x ++ "`"
  | .string s => "string " ++ Text.quoted s
  | .sequence => "sequence"
  | .mapping => "map"
  | .tagged => "enum"
  | .variantName => "unit variant"

/-- Why a value cannot be decoded. -/
inductive DecodeFault where
  /-- A variant of a name that there is not. -/
  | unknownVariant (name : String) (known : List String)
  /-- A field is missing. -/
  | missingField (name : String)
  /-- A field is given twice. -/
  | repeatedField (name : String)
  /-- A value has the wrong type. -/
  | wrongType (found : Found) (expected : String)
  /-- A value has the right type and is out of its range. -/
  | wrongValue (found : Found) (expected : String)
  /-- A list has the wrong length. -/
  | wrongLength (length : Nat) (expected : String)
  /-- A tagged value where none can be. -/
  | taggedInput
  /-- A text is no table name. -/
  | badName (fault : NameFault)

/-- A list of names between backticks: two with `or`, more with commas. -/
def alternatives (names : List String) : String :=
  let ticked := names.map fun name => "`" ++ name ++ "`"
  match ticked with
  | [] => "there are no variants"
  | [a] => "expected " ++ a
  | [a, b] => "expected " ++ a ++ " or " ++ b
  | _ => "expected one of " ++ Text.join ", " ticked

/-- The text of a fault. -/
def DecodeFault.message (wording : Wording) : DecodeFault → String
  | .unknownVariant name known => "unknown variant `" ++ name ++ "`, " ++ alternatives known
  | .missingField name => "missing field `" ++ name ++ "`"
  | .repeatedField name => "duplicate field `" ++ name ++ "`"
  | .wrongType found expected =>
    "invalid type: " ++ found.text wording ++ ", expected " ++ expected
  | .wrongValue found expected =>
    "invalid value: " ++ found.text wording ++ ", expected " ++ expected
  | .wrongLength length expected =>
    "invalid length " ++ Decimal.intText length ++ ", expected " ++ expected
  | .taggedInput => "untagged and internally tagged enums do not support enum input"
  | .badName fault => "DSL conversion error: " ++ fault.message

end StreamPlan
