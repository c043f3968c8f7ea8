import StreamPlan.Decimal.Scaled
import StreamPlan.Json.Basic

/-!
# Reading JSON

A reader for JSON texts over lists of characters. Every reader takes the characters that are left
and gives back a value with what follows it; the recursion over nested values is bounded by the
length of the text.
-/

namespace StreamPlan.Json

/-- Whether a character may stand between tokens. -/
def isGap (c : Char) : Bool := c = ' ' || c = '\n' || c = '\t' || c = '\r'

/-- The text from the first character that is no gap. -/
def skipGaps (cs : List Char) : List Char := cs.dropWhile isGap

/-- The value of a hexadecimal digit. -/
def hexValue? (c : Char) : Option Nat :=
  if '0' ≤ c ∧ c ≤ '9' then some (c.toNat - '0'.toNat)
  else if 'a' ≤ c ∧ c ≤ 'f' then some (c.toNat - 'a'.toNat + 10)
  else if 'A' ≤ c ∧ c ≤ 'F' then some (c.toNat - 'A'.toNat + 10)
  else none

/-- The value of four hexadecimal digits. -/
def hexQuad? (a b c d : Char) : Option Nat := do
  let a ← hexValue? a
  let b ← hexValue? b
  let c ← hexValue? c
  let d ← hexValue? d
  some (((a * 16 + b) * 16 + c) * 16 + d)

/-- The character that a one-letter escape stands for. -/
def simpleEscape? (c : Char) : Option Char :=
  if c = '"' then some '"'
  else if c = '\\' then some '\\'
  else if c = '/' then some '/'
  else if c = 'b' then some '\x08'
  else if c = 'f' then some '\x0c'
  else if c = 'n' then some '\n'
  else if c = 'r' then some '\r'
  else if c = 't' then some '\t'
  else none

/-- The character of a code unit that is no surrogate. -/
def unitChar? (n : Nat) : Option Char :=
  if 0xd800 ≤ n ∧ n ≤ 0xdfff then none else some (Char.ofNat n)

/-- The character of a surrogate pair. -/
def pairChar? (high low : Nat) : Option Char :=
  if 0xd800 ≤ high ∧ high ≤ 0xdbff ∧ 0xdc00 ≤ low ∧ low ≤ 0xdfff then
    some (Char.ofNat (0x10000 + (high - 0xd800) * 0x400 + (low - 0xdc00)))
  else none

/-- Puts a character in front of a text that was read. -/
def consRead (c : Char) (read : Option (List Char × List Char)) : Option (List Char × List Char) :=
  read.map fun (text, rest) => (c :: text, rest)

/-- Reads the characters of a text up to its closing quote. A control, an unknown escape or half of
a surrogate pair makes it unreadable. -/
def readText? : List Char → Option (List Char × List Char)
  | [] => none
  | '"' :: rest => some ([], rest)
  | '\\' :: 'u' :: a :: b :: c :: d :: '\\' :: 'u' :: e :: f :: g :: h :: rest =>
    match hexQuad? a b c d with
    | none => none
    | some high =>
      match unitChar? high with
      | some char => consRead char (readText? ('\\' :: 'u' :: e :: f :: g :: h :: rest))
      | none =>
        match hexQuad? e f g h with
        | none => none
        | some low =>
          match pairChar? high low with
          | none => none
          | some char => consRead char (readText? rest)
  | '\\' :: 'u' :: a :: b :: c :: d :: rest =>
    match (hexQuad? a b c d).bind unitChar? with
    | none => none
    | some char => consRead char (readText? rest)
  | '\\' :: c :: rest =>
    match simpleEscape? c with
    | none => none
    | some char => consRead char (readText? rest)
  | c :: rest => if c.toNat < 0x20 || c = '\\' then none else consRead c (readText? rest)

/-- Reads the digits of a fraction after its point, or nothing where there is no point. -/
def readFraction? : List Char → Option (List Char × List Char)
  | '.' :: rest =>
    let (digits, rest) := Decimal.spanDigits rest
    if digits.isEmpty then none else some (digits, rest)
  | rest => some ([], rest)

/-- Reads an exponent with its sign and digits, or nothing where there is no mark. -/
def readPower? : List Char → Option (Option Int × List Char)
  | [] => some (none, [])
  | c :: cs =>
    if c = 'e' || c = 'E' then
      let (negative, rest) : Bool × List Char :=
        match cs with
        | '-' :: rest => (true, rest)
        | '+' :: rest => (false, rest)
        | _ => (false, cs)
      let (digits, rest) := Decimal.spanDigits rest
      if digits.isEmpty then none
      else
        let size : Int := Decimal.valueOf 10 digits
        some (some (if negative then -size else size), rest)
    else some (none, c :: cs)

/-- The number of a sign, digits before and after the point, and an exponent. A whole number that
does not fit into 64 bits, and a negative zero, become double-precision numbers. -/
def numberOf? (negative : Bool) (whole fraction : List Char) (power : Option Int) :
    Option Number :=
  let float : Option Number :=
    (Decimal.scaledNumber? negative whole fraction (power.getD 0)).map .float
  if fraction.isEmpty && power.isNone then
    let size : Int := Decimal.valueOf 10 whole
    let n := if negative then -size else size
    if negative && size = 0 then float
    else if Number.isWhole n then some (.int n) else float
  else float

/-- Reads a number. A leading zero stands alone before the point. -/
def readNumber? (cs : List Char) : Option (Number × List Char) := do
  let (negative, cs) : Bool × List Char :=
    match cs with
    | '-' :: rest => (true, rest)
    | _ => (false, cs)
  let (whole, cs) := Decimal.spanDigits cs
  if whole.isEmpty || (1 < whole.length && whole.head? = some '0') then none
  else
    let (fraction, cs) ← readFraction? cs
    let (power, cs) ← readPower? cs
    let n ← numberOf? negative whole fraction power
    some (n, cs)

mutual

/-- Reads a value. -/
def readValue? : Nat → List Char → Option (Json × List Char)
  | 0, _ => none
  | fuel + 1, cs =>
    match skipGaps cs with
    | 'n' :: 'u' :: 'l' :: 'l' :: rest => some (.null, rest)
    | 't' :: 'r' :: 'u' :: 'e' :: rest => some (.bool true, rest)
    | 'f' :: 'a' :: 'l' :: 's' :: 'e' :: rest => some (.bool false, rest)
    | '"' :: rest => (readText? rest).map fun (text, rest) => (.string (String.ofList text), rest)
    | '[' :: rest =>
      match skipGaps rest with
      | ']' :: rest => some (.array [], rest)
      | rest => (readItems? fuel rest).map fun (items, rest) => (.array items, rest)
    | '\x7b' :: rest =>
      match skipGaps rest with
      | '\x7d' :: rest => some (.object [], rest)
      | rest => (readFields? fuel rest).map fun (fields, rest) => (ofFields fields, rest)
    | rest => (readNumber? rest).map fun (n, rest) => (.number n, rest)

/-- Reads the values of a list up to its closing bracket. -/
def readItems? : Nat → List Char → Option (List Json × List Char)
  | 0, _ => none
  | fuel + 1, cs =>
    match readValue? fuel cs with
    | none => none
    | some (item, rest) =>
      match skipGaps rest with
      | ']' :: rest => some ([item], rest)
      | ',' :: rest => (readItems? fuel rest).map fun (items, rest) => (item :: items, rest)
      | _ => none

/-- Reads the fields of an object up to its closing brace. -/
def readFields? : Nat → List Char → Option (List (String × Json) × List Char)
  | 0, _ => none
  | fuel + 1, cs =>
    match skipGaps cs with
    | '"' :: rest =>
      match readText? rest with
      | none => none
      | some (name, rest) =>
        match skipGaps rest with
        | ':' :: rest =>
          match readValue? fuel rest with
          | none => none
          | some (value, rest) =>
            let field := (String.ofList name, value)
            match skipGaps rest with
            | '\x7d' :: rest => some ([field], rest)
            | ',' :: rest =>
              (readFields? fuel rest).map fun (fields, rest) => (field :: fields, rest)
            | _ => none
        | _ => none
    | _ => none

end

/-- Reads a whole text as one value. -/
def parse? (s : String) : Option Json :=
  let cs := s.toList
  match readValue? (2 * cs.length + 2) cs with
  | some (value, rest) => if (skipGaps rest).isEmpty then some value else none
  | none => none

/-- The texts of a list that holds nothing else. -/
def strings? : Json → Option (List String)
  | .array items => items.mapM fun
    | .string s => some s
    | _ => none
  | _ => none

end StreamPlan.Json
