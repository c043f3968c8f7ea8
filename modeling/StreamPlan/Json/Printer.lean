import StreamPlan.Json.Basic
import StreamPlan.Text.Split

/-!
# Writing JSON

The compact form has no blanks and is what fingerprints are taken of; the indented form is for
reading. Both escape quotes, backslashes and controls, and write every other character as it
stands.
-/

namespace StreamPlan.Json

/-- Numbers are written out in full when the first digit stands for a power of ten from -5 to 15;
otherwise an exponent has its sign. -/
def decimalStyle : Decimal.Style where
  positional e := -5 ≤ e && e ≤ 15
  plus := "+"
  infinity := "inf"
  nan := "NaN"

/-- The lower-case hexadecimal digit of a number below sixteen. -/
def hexDigit (n : Nat) : Char := "0123456789abcdef".toList.getD n '0'

/-- One character inside quotes. -/
def escapeChar (c : Char) : List Char :=
  if c = '"' then ['\\', '"']
  else if c = '\\' then ['\\', '\\']
  else if c = '\x08' then ['\\', 'b']
  else if c = '\x0c' then ['\\', 'f']
  else if c = '\n' then ['\\', 'n']
  else if c = '\r' then ['\\', 'r']
  else if c = '\t' then ['\\', 't']
  else if c.toNat < 0x20 then ['\\', 'u', '0', '0', hexDigit (c.toNat / 16), hexDigit (c.toNat % 16)]
  else [c]

/-- A text between quotes. -/
def quotedChars (s : List Char) : List Char := '"' :: s.flatMap escapeChar ++ ['"']

/-- A text between quotes. -/
def quoteText (s : String) : String := String.ofList (quotedChars s.toList)

mutual

/-- The compact text of a value. -/
def compact : Json → String
  | .null => "null"
  | .bool b => if b then "true" else "false"
  | .number n => n.text decimalStyle
  | .string s => quoteText s
  | .array items => "[" ++ Text.join "," (compactItems items) ++ "]"
  | .object fields => "\x7b" ++ Text.join "," (compactFields fields) ++ "\x7d"

/-- The compact texts of a list's values. -/
def compactItems : List Json → List String
  | [] => []
  | item :: items => compact item :: compactItems items

/-- The compact texts of an object's fields. -/
def compactFields : List (String × Json) → List String
  | [] => []
  | (name, value) :: fields => (quoteText name ++ ":" ++ compact value) :: compactFields fields

end

/-- The blanks that start a line at a depth. -/
def indentation (depth : Nat) : String := String.ofList (List.replicate (2 * depth) ' ')

/-- Lines at a depth between two brackets; without lines the brackets touch. -/
def bracketed (opening closing : String) (depth : Nat) (lines : List String) : String :=
  if lines.isEmpty then opening ++ closing
  else
    opening ++ "\n" ++ Text.join ",\n" (lines.map (indentation (depth + 1) ++ ·)) ++ "\n" ++
      indentation depth ++ closing

mutual

/-- The indented text of a value that stands at a depth. -/
def indented (depth : Nat) : Json → String
  | .array items => bracketed "[" "]" depth (indentedItems (depth + 1) items)
  | .object fields => bracketed "\x7b" "\x7d" depth (indentedFields (depth + 1) fields)
  | .null => "null"
  | .bool b => if b then "true" else "false"
  | .number n => n.text decimalStyle
  | .string s => quoteText s

/-- The indented texts of a list's values. -/
def indentedItems (depth : Nat) : List Json → List String
  | [] => []
  | item :: items => indented depth item :: indentedItems depth items

/-- The indented texts of an object's fields. -/
def indentedFields (depth : Nat) : List (String × Json) → List String
  | [] => []
  | (name, value) :: fields =>
    (quoteText name ++ ": " ++ indented depth value) :: indentedFields depth fields

end

/-- The indented text of a value. -/
def pretty (value : Json) : String := indented 0 value

end StreamPlan.Json
