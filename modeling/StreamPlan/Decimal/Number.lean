import StreamPlan.Decimal.Style

/-!
# Numbers of a data text

A data text (JSON or YAML) holds two kinds of numbers: whole numbers that fit into 64 bits, and
double-precision numbers for all else.
-/

namespace StreamPlan

/-- A number of a data text. -/
inductive Number where
  /-- A whole number from `-2 ^ 63` to `2 ^ 64 - 1`. -/
  | int (n : Int)
  /-- A double-precision number. -/
  | float (x : Binary64)
  deriving DecidableEq, Inhabited

namespace Number

/-- Whether a whole number is kept as such. -/
def isWhole (n : Int) : Bool := -(Nat.pow 2 63 : Int) ≤ n && n < (Nat.pow 2 64 : Int)

/-- The text of a number, its fractions in the given style. -/
def text (style : Decimal.Style) : Number → String
  | .int n => Decimal.intText n
  | .float x => style.write x

/-- Whether two numbers are the same key: of one kind and of equal value. -/
def same : Number → Number → Bool
  | .int m, .int n => m == n
  | .float x, .float y => x.same y
  | _, _ => false

end Number

end StreamPlan
