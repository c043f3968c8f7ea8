import StreamPlan.Text.Unprintable
import StreamPlan.Text.Split

/-!
# Quoted text

How a message shows a piece of text: between double quotes, with quotes, backslashes and line ends
escaped and every unprintable character spelled by number.
-/

namespace StreamPlan.Text

/-- A natural number in lower-case hexadecimal digits, without leading zeros. -/
def hexDigits (n : Nat) : String := String.ofList (Nat.toDigits 16 n)

/-- How one character is shown inside quotes. -/
def quotedChar (c : Char) : String :=
  if c = '"' then "\\\""
  else if c = '\\' then "\\\\"
  else if c = '\n' then "\\n"
  else if c = '\r' then "\\r"
  else if c = '\t' then "\\t"
  else if c.toNat = 0 then "\\0"
  else if isUnprintable c then "\\u\x7b" ++ hexDigits c.toNat ++ "\x7d"
  else String.singleton c

/-- A text between quotes. -/
def quoted (s : String) : String :=
  "\"" ++ join "" (s.toList.map quotedChar) ++ "\""

/-- Texts between quotes, as a bracketed list. -/
def quotedList (parts : List String) : String :=
  "[" ++ join ", " (parts.map quoted) ++ "]"

end StreamPlan.Text
