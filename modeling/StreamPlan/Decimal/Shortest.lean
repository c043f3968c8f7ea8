import StreamPlan.Decimal.Binary64

/-!
# Shortest decimals

The fewest decimal digits that read back as a given double-precision number. All reals that round
to the number form an interval; for one digit, two digits and so on the number's two neighbours on
that decimal grid are tried, and the first grid with a neighbour inside the interval decides. Of two
such neighbours the nearer is taken; which of two equally near ones, a `Tie` says.
-/

namespace StreamPlan.Decimal

/-- A positive decimal `digits · 10 ^ exponent`. -/
structure Digits where
  /-- The digits as one number. -/
  digits : Nat
  /-- The power of ten that the last digit stands for. -/
  exponent : Int
  deriving DecidableEq, Repr

/-- Which of two equally near neighbours is taken. -/
inductive Tie where
  /-- The one with an even last digit. -/
  | toEven
  /-- The one above. -/
  | up
  deriving DecidableEq

/-- The reals that round to a number, as numerators over one denominator. -/
structure Interval where
  /-- Numerator of the lower end. -/
  lower : Nat
  /-- Numerator of the number itself. -/
  value : Nat
  /-- Numerator of the upper end. -/
  upper : Nat
  /-- The common denominator. -/
  den : Nat
  /-- Whether the ends themselves round to the number. -/
  closed : Bool

/-- The interval around `m · 2 ^ q`. Below a power of two the lower neighbour is only half as far,
except at the least scale. -/
def Interval.around (m : Nat) (q : Int) : Interval :=
  let near := m == Nat.pow 2 52 && q != -1074
  let (value, lower, upper) := (4 * m, 4 * m - (if near then 1 else 2), 4 * m + 2)
  match q with
  | .ofNat n => ⟨lower * Nat.pow 2 n, value * Nat.pow 2 n, upper * Nat.pow 2 n, 4, m % 2 == 0⟩
  | .negSucc n => ⟨lower, value, upper, 4 * Nat.pow 2 (n + 1), m % 2 == 0⟩

/-- Whether `num / den` lies in the interval. -/
def Interval.holds (i : Interval) (num den : Nat) : Bool :=
  if i.closed then i.lower * den ≤ num * i.den && num * i.den ≤ i.upper * den
  else i.lower * den < num * i.den && num * i.den < i.upper * den

/-- The number of times that a ratio below one has to be multiplied by ten to reach one. -/
def leadingPlace (num den : Nat) : Nat → Nat
  | 0 => 0
  | fuel + 1 => if den ≤ num then 0 else leadingPlace (num * 10) den fuel + 1

/-- The power of ten of the first digit of a positive ratio. -/
def firstPlace (num den : Nat) : Int :=
  if den ≤ num then ((Nat.toDigits 10 (num / den)).length : Int) - 1
  else -(leadingPlace num den 400 : Int)

/-- `digits · 10 ^ exponent` as a ratio. -/
def Digits.ratio (d : Digits) : Nat × Nat :=
  match d.exponent with
  | .ofNat n => (d.digits * Nat.pow 10 n, 1)
  | .negSucc n => (d.digits, Nat.pow 10 (n + 1))

/-- How far a decimal lies from the interval's number, over the product of both denominators. -/
def Interval.distance (i : Interval) (d : Digits) : Nat :=
  let (num, den) := d.ratio
  max (num * i.den) (i.value * den) - min (num * i.den) (i.value * den)

/-- The nearer of two neighbours of the number. -/
def Interval.nearer (i : Interval) (tie : Tie) (below above : Digits) : Digits :=
  if i.distance above < i.distance below then above
  else if i.distance below < i.distance above then below
  else if tie = .toEven && below.digits % 2 = 0 then below
  else above

/-- The nearer of the number's two neighbours on the grid of `10 ^ exponent`, if one of them lies in
the interval. -/
def Interval.onGrid? (i : Interval) (tie : Tie) (exponent : Int) : Option Digits :=
  let below : Digits :=
    match exponent with
    | .ofNat n => ⟨i.value / (i.den * Nat.pow 10 n), exponent⟩
    | .negSucc n => ⟨i.value * Nat.pow 10 (n + 1) / i.den, exponent⟩
  let above : Digits := ⟨below.digits + 1, exponent⟩
  let fits (d : Digits) : Bool := let (num, den) := d.ratio; i.holds num den
  match fits below, fits above with
  | true, true => some (i.nearer tie below above)
  | true, false => some below
  | false, true => some above
  | false, false => none

/-- The first hit on the grids of `count` digits, `count + 1` digits and so on. -/
def Interval.search (i : Interval) (tie : Tie) (first : Int) : (count fuel : Nat) → Option Digits
  | _, 0 => none
  | count, fuel + 1 =>
    (i.onGrid? tie (first + 1 - count)).orElse fun _ => i.search tie first (count + 1) fuel

/-- The digits without trailing zeros. -/
def Digits.strip (d : Digits) : Nat → Digits
  | 0 => d
  | fuel + 1 =>
    if d.digits % 10 = 0 && d.digits != 0 then
      Digits.strip ⟨d.digits / 10, d.exponent + 1⟩ fuel
    else d

/-- The fewest digits that read back as the size of a finite number other than zero. -/
def shortest (tie : Tie) (x : Binary64) : Digits :=
  let i := Interval.around x.significand x.scale
  match i.search tie (firstPlace i.value i.den) 1 17 with
  | some d => d.strip 20
  | none => ⟨0, 0⟩

end StreamPlan.Decimal
