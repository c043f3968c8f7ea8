import StreamPlan.Decimal.Style

/-!
# Scaled decimals

The quick way of reading a decimal, in two roundings: as many digits are kept as fit into 64 bits, and
their number is rounded; then it is multiplied or divided by a power of ten that is itself rounded.
For up to fifteen digits and small exponents this is the nearest number.
-/

namespace StreamPlan

namespace Binary64

/-- The size of a finite number as a ratio. -/
def ratio (x : Binary64) : Nat × Nat := scaleRatio x.significand 1 x.scale

/-- The rounded product of two sizes, or none if it is too large to represent. -/
def times? (x y : Binary64) : Option Binary64 :=
  ofRatio? false (x.ratio.1 * y.ratio.1) (x.ratio.2 * y.ratio.2)

/-- The rounded quotient of two sizes, or none if it is too large to represent. -/
def over? (x y : Binary64) : Option Binary64 :=
  ofRatio? false (x.ratio.1 * y.ratio.2) (x.ratio.2 * y.ratio.1)

/-- A power of ten, rounded. -/
def powerOfTen (n : Nat) : Binary64 := (ofRatio? false (Nat.pow 10 n) 1).getD (zero false)

/-- The greatest power of ten that there is. -/
def greatestPower : Nat := 308

/-- A size times a power of ten. A size that has to be divided more than once is zero after a few
divisions, so a small number of `steps` is enough. -/
def scaled? : (steps : Nat) → Binary64 → Int → Option Binary64
  | 0, x, _ => some x
  | steps + 1, x, power =>
    if power.natAbs ≤ greatestPower then
      if 0 ≤ power then x.times? (powerOfTen power.natAbs)
      else x.over? (powerOfTen power.natAbs)
    else if x.isZero then some x
    else if 0 ≤ power then none
    else (x.over? (powerOfTen greatestPower)).bind fun x => scaled? steps x (power + greatestPower)

end Binary64

namespace Decimal

/-- The digits of a whole part that fit into 64 bits after `kept`, and how many are left over. -/
def keepWhole (kept : Nat) : List Char → Nat × Nat
  | [] => (kept, 0)
  | c :: cs =>
    let more := kept * 10 + valueOf 10 [c]
    if more < Nat.pow 2 64 then keepWhole more cs else (kept, cs.length + 1)

/-- The digits of a fraction that fit into 64 bits after `kept`, and how many they are. -/
def keepFraction (kept : Nat) : List Char → Nat × Nat
  | [] => (kept, 0)
  | c :: cs =>
    let more := kept * 10 + valueOf 10 [c]
    if more < Nat.pow 2 64 then
      let (kept, places) := keepFraction more cs
      (kept, places + 1)
    else (kept, 0)

/-- The number of a sign, digits before and after the point, and a power of ten, or none if it is too
large to represent. -/
def scaledNumber? (negative : Bool) (whole fraction : List Char) (power : Int) : Option Binary64 :=
  let (kept, dropped) := keepWhole 0 whole
  let (kept, places) := keepFraction kept fraction
  let exponent : Int := power + (dropped : Int) - (places : Int)
  ((Binary64.ofRatio? false kept 1).bind fun x => Binary64.scaled? 4 x exponent).map fun x =>
    if negative then Binary64.ofFields true x.bits.toNat else x

end Decimal

end StreamPlan
