import StreamPlan.Decimal.Shortest

/-!
# Decimal styles

How a double-precision number is written, and how a decimal text is read as one. The digits are
always the shortest; a `Style` says when the number is written out in full and how an exponent
looks. A text without exponent always has a point.
-/

namespace StreamPlan.Decimal

/-- The choices that set one way of writing numbers apart from another. -/
structure Style where
  /-- Whether a number whose first digit stands for this power of ten is written out in full. -/
  positional : Int → Bool
  /-- The sign written before an exponent that is not negative. -/
  plus : String
  /-- The text of positive infinity. -/
  infinity : String
  /-- The text of what is not a number. -/
  nan : String
  /-- Which of two equally near digit sequences is taken. -/
  tie : Tie := .toEven

/-- Decimal digits of a natural number. -/
def natDigits (n : Nat) : List Char := Nat.toDigits 10 n

/-- A whole number with its sign. -/
def intText (n : Int) : String :=
  match n with
  | .ofNat k => String.ofList (natDigits k)
  | .negSucc k => String.ofList ('-' :: natDigits (k + 1))

/-- A decimal written out in full, with a point. -/
def Digits.positional (d : Digits) : List Char :=
  let cs := natDigits d.digits
  match d.exponent with
  | .ofNat n => cs ++ List.replicate n '0' ++ ['.', '0']
  | .negSucc n =>
    let places := n + 1
    if places < cs.length then
      cs.take (cs.length - places) ++ '.' :: cs.drop (cs.length - places)
    else ['0', '.'] ++ List.replicate (places - cs.length) '0' ++ cs

/-- The power of ten that the first digit stands for. -/
def Digits.leading (d : Digits) : Int := d.exponent + ((natDigits d.digits).length : Int) - 1

/-- A decimal with one digit before the point and an exponent. -/
def Digits.scientific (d : Digits) (plus : String) : List Char :=
  let mantissa :=
    match natDigits d.digits with
    | [] => ['0']
    | [c] => [c]
    | c :: cs => c :: '.' :: cs
  let exponent := d.leading
  let sign := if exponent < 0 then "" else plus
  mantissa ++ 'e' :: sign.toList ++ (intText exponent).toList

/-- The text of a number. -/
def Style.write (style : Style) (x : Binary64) : String :=
  let sign := if x.negative then "-" else ""
  if x.isNaN then style.nan
  else if x.isInfinite then sign ++ style.infinity
  else if x.isZero then sign ++ "0.0"
  else
    let d := shortest style.tie x
    sign ++ String.ofList (if style.positional d.leading then d.positional
      else d.scientific style.plus)

/-- The leading digits of a text and what follows them. -/
def spanDigits (cs : List Char) : List Char × List Char :=
  (cs.takeWhile Char.isDigit, cs.dropWhile Char.isDigit)

/-- The number that a list of digits in a base denotes. -/
def valueOf (base : Nat) (cs : List Char) : Nat :=
  cs.foldl (fun acc c => acc * base + (c.toNat - '0'.toNat)) 0

/-- Reads an exponent part: nothing, or `e` with an optional sign and at least one digit. -/
def readExponent? : List Char → Option Int
  | [] => some 0
  | c :: cs =>
    if c = 'e' || c = 'E' then
      let (negative, ds) : Bool × List Char :=
        match cs with
        | '-' :: rest => (true, rest)
        | '+' :: rest => (false, rest)
        | _ => (false, cs)
      if ds.isEmpty || !ds.all Char.isDigit then none
      else
        let size : Int := valueOf 10 ds
        some (if negative then -size else size)
    else none

/-- Reads an unsigned decimal: digits with at most one point among them, at least one digit, and an
optional exponent. -/
def readUnsigned? (cs : List Char) : Option (Nat × Int) :=
  let (whole, rest) := spanDigits cs
  let (fraction, rest) :=
    match rest with
    | '.' :: more => spanDigits more
    | _ => ([], rest)
  if whole.isEmpty && fraction.isEmpty then none
  else
    (readExponent? rest).map fun exponent =>
      (valueOf 10 (whole ++ fraction), exponent - (fraction.length : Int))

/-- Reads a decimal with an optional sign as the nearest number. A text that is no decimal, or that
is too large for any number, gives none. -/
def readNumber? (cs : List Char) : Option Binary64 :=
  let (negative, rest) : Bool × List Char :=
    match cs with
    | '-' :: more => (true, more)
    | '+' :: more => (false, more)
    | _ => (false, cs)
  (readUnsigned? rest).bind fun (digits, exponent) => Binary64.ofDecimal? negative digits exponent

end StreamPlan.Decimal
