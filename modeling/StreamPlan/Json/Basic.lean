import StreamPlan.Data.SortedMap
import StreamPlan.Decimal.Number

/-!
# JSON values

Records, messages and the stored forms of plans and operators are JSON values. An object lists its
fields in ascending key order.
-/

namespace StreamPlan

/-- A JSON value. -/
inductive Json where
  /-- The value `null`. -/
  | null
  /-- A truth value. -/
  | bool (b : Bool)
  /-- A number. -/
  | number (n : Number)
  /-- A text. -/
  | string (s : String)
  /-- A list of values. -/
  | array (items : List Json)
  /-- Named values, in ascending order of their names. -/
  | object (fields : List (String × Json))
  deriving Inhabited

namespace Json

/-- A natural number as a value. -/
def ofNat (n : Nat) : Json := .number (.int n)

/-- The object with the given fields; of several with one name the last stands. -/
def ofFields (fields : List (String × Json)) : Json :=
  .object (Entries.ofList fields)

/-- A list of texts as a value. -/
def ofStrings (items : List String) : Json := .array (items.map .string)

/-- A map of texts as an object. -/
def ofMap (map : SortedMap String) : Json :=
  .object (map.entries.map fun (key, value) => (key, .string value))

/-- An optional text, absent as `null`. -/
def ofOption : Option String → Json
  | none => .null
  | some s => .string s

/-- The field of an object, if the value is one and has it. -/
def field? (name : String) : Json → Option Json
  | .object fields => Entries.get? name fields
  | _ => none

end Json

end StreamPlan
