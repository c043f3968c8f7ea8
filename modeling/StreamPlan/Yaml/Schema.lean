import StreamPlan.Decimal.Number
import StreamPlan.Yaml.Source

/-!
# Plain scalars

What a plain scalar denotes: nothing, a truth value, a number or a text. A whole number may have a
sign and may be written in base 16, 8 or 2; more than one digit with a leading zero is a text. A
whole number beyond 64 bits is refused if it fits into 128 bits and is a fraction otherwise.
-/

namespace StreamPlan.Yaml

/-- What a scalar denotes. -/
inductive Atom where
  /-- Nothing. -/
  | null
  /-- A truth value. -/
  | bool (b : Bool)
  /-- A number. -/
  | number (n : Number)
  /-- A whole number that is out of range. -/
  | outOfRange (n : Int)
  /-- A text. -/
  | string (s : String)

/-- Whether a scalar is a word for nothing. -/
def isNullWord (s : String) : Bool := s = "~" || s = "null" || s = "Null" || s = "NULL"

/-- The truth value that a scalar is a word for. -/
def boolWord? (s : String) : Option Bool :=
  if s = "true" || s = "True" || s = "TRUE" then some true
  else if s = "false" || s = "False" || s = "FALSE" then some false
  else none

/-- The number that digits of a base denote. There must be at least one digit. -/
def digitsIn? (base : Nat) (cs : List Char) : Option Nat :=
  if cs.isEmpty then none
  else
    cs.foldlM (fun acc c => (hexValue? c).bind fun d =>
      if d < base then some (acc * base + d) else none) 0

/-- Whether a text is a run of digits with a needless leading zero, after an optional sign. -/
def hasNeedlessZero (cs : List Char) : Bool :=
  let digits := match cs with
    | '-' :: rest => rest
    | '+' :: rest => rest
    | _ => cs
  match digits with
  | '0' :: d :: rest => (d :: rest).all Char.isDigit
  | _ => false

/-- The size of a whole number that is written without a sign, with or without a base. -/
def wholeSize? : List Char → Option Nat
  | '0' :: 'x' :: rest => digitsIn? 16 rest
  | '0' :: 'o' :: rest => digitsIn? 8 rest
  | '0' :: 'b' :: rest => digitsIn? 2 rest
  | cs => digitsIn? 10 cs

/-- The whole number that a scalar denotes, of any size. -/
def wholeNumber? (cs : List Char) : Option Int :=
  if hasNeedlessZero cs then none
  else
    match cs with
    | '-' :: rest => (wholeSize? rest).map fun n => -(n : Int)
    | '+' :: rest => (wholeSize? rest).map Int.ofNat
    | _ => (wholeSize? cs).map Int.ofNat

/-- The whole number that a scalar denotes: one that fits into 64 bits, or one that is out of range
but fits into 128 bits. -/
def whole? (cs : List Char) : Option Atom :=
  (wholeNumber? cs).bind fun n =>
    if Number.isWhole n then some (.number (.int n))
    else if -(Nat.pow 2 127 : Int) ≤ n ∧ n < (Nat.pow 2 128 : Int) then some (.outOfRange n)
    else none

/-- The number with a fraction that a scalar denotes: infinity, not a number, or a decimal that is
small enough. -/
def fraction? (cs : List Char) : Option Binary64 :=
  let isInf (cs : List Char) : Bool :=
    cs = ".inf".toList || cs = ".Inf".toList || cs = ".INF".toList
  if cs = ".nan".toList || cs = ".NaN".toList || cs = ".NAN".toList then some .nan
  else
    match cs with
    | '-' :: rest => if isInf rest then some (.infinity true) else Decimal.readNumber? cs
    | '+' :: '+' :: _ => none
    | '+' :: '-' :: _ => none
    | '+' :: rest => if isInf rest then some (.infinity false) else Decimal.readNumber? rest
    | _ => if isInf cs then some (.infinity false) else Decimal.readNumber? cs

/-- What a plain scalar denotes. -/
def plainAtom (s : String) : Atom :=
  if s = "" || isNullWord s then .null
  else
    match boolWord? s with
    | some b => .bool b
    | none =>
      match whole? s.toList with
      | some atom => atom
      | none =>
        -- Digits with a needless zero are no number of any kind.
        if hasNeedlessZero s.toList then .string s
        else
          match fraction? s.toList with
          | some x => .number (.float x)
          | none => .string s

/-- A tag that asks for a form of the scalar. -/
inductive FormTag where
  /-- A truth value. -/
  | bool
  /-- A whole number. -/
  | int
  /-- A number with a fraction. -/
  | float
  /-- Nothing. -/
  | null
  deriving DecidableEq

/-- The tag that asks for a form. -/
def FormTag.ofTag? (tag : String) : Option FormTag :=
  if tag = "tag:yaml.org,2002:bool" then some .bool
  else if tag = "tag:yaml.org,2002:int" then some .int
  else if tag = "tag:yaml.org,2002:float" then some .float
  else if tag = "tag:yaml.org,2002:null" then some .null
  else none

/-- What a message calls the form. -/
def FormTag.noun : FormTag → String
  | .bool => "a boolean"
  | .int => "an integer"
  | .float => "a float"
  | .null => "null"

/-- What a scalar denotes, if it has the form that its tag asks for. -/
def FormTag.atom? (s : String) : FormTag → Option Atom
  | .bool => (boolWord? s).map .bool
  | .int => whole? s.toList
  | .float => (fraction? s.toList).map fun x => .number (.float x)
  | .null => if isNullWord s then some .null else none

end StreamPlan.Yaml
