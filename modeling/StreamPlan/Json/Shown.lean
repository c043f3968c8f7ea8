import StreamPlan.Json.Printer
import StreamPlan.Text.Quoted

/-!
# JSON values in messages

How a message shows a JSON value: with the kind of every part.
-/

namespace StreamPlan.Json

mutual

/-- How a message shows a value. -/
def shown : Json → String
  | .null => "Null"
  | .bool b => "Bool(" ++ (if b then "true" else "false") ++ ")"
  | .number n => "Number(" ++ n.text decimalStyle ++ ")"
  | .string s => "String(" ++ Text.quoted s ++ ")"
  | .array items => "Array [" ++ Text.join ", " (shownItems items) ++ "]"
  | .object fields => "Object \x7b" ++ Text.join ", " (shownFields fields) ++ "\x7d"

/-- How a message shows the values of a list. -/
def shownItems : List Json → List String
  | [] => []
  | item :: items => shown item :: shownItems items

/-- How a message shows the fields of an object. -/
def shownFields : List (String × Json) → List String
  | [] => []
  | (name, value) :: fields => (Text.quoted name ++ ": " ++ shown value) :: shownFields fields

end

end StreamPlan.Json
