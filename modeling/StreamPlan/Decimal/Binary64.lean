/-!
# Double-precision numbers

Numbers with a fraction are held by their 64-bit pattern, and all arithmetic on them is exact
arithmetic on natural numbers. `Binary64.ofRatio?` rounds a ratio to the nearest representable
number, a half going to the even neighbour.
-/

namespace StreamPlan

/-- A double-precision number, given by its bit pattern. -/
structure Binary64 where
  /-- Sign, exponent and fraction, from the highest bit down. -/
  bits : UInt64
  deriving DecidableEq, Inhabited, Repr

namespace Binary64

/-- Whether the sign bit is set. -/
def negative (x : Binary64) : Bool := Nat.pow 2 63 ≤ x.bits.toNat

/-- The eleven exponent bits. -/
def exponentField (x : Binary64) : Nat := x.bits.toNat / Nat.pow 2 52 % Nat.pow 2 11

/-- The fifty-two fraction bits. -/
def fractionField (x : Binary64) : Nat := x.bits.toNat % Nat.pow 2 52

/-- Whether the number is an infinity. -/
def isInfinite (x : Binary64) : Bool := x.exponentField == 2047 && x.fractionField == 0

/-- Whether the pattern stands for no number. -/
def isNaN (x : Binary64) : Bool := x.exponentField == 2047 && x.fractionField != 0

/-- Whether the number is zero, of either sign. -/
def isZero (x : Binary64) : Bool := x.exponentField == 0 && x.fractionField == 0

/-- The significand `m` of a finite number of size `m · 2 ^ q`. -/
def significand (x : Binary64) : Nat :=
  if x.exponentField = 0 then x.fractionField else Nat.pow 2 52 + x.fractionField

/-- The scale `q` of a finite number of size `m · 2 ^ q`. -/
def scale (x : Binary64) : Int :=
  if x.exponentField = 0 then -1074 else (x.exponentField : Int) - 1075

/-- The number with the given sign and the given lower 63 bits. -/
def ofFields (negative : Bool) (magnitude : Nat) : Binary64 :=
  ⟨UInt64.ofNat ((if negative then Nat.pow 2 63 else 0) + magnitude)⟩

/-- Zero with a sign. -/
def zero (negative : Bool) : Binary64 := ofFields negative 0

/-- Infinity with a sign. -/
def infinity (negative : Bool) : Binary64 := ofFields negative (2047 * Nat.pow 2 52)

/-- The pattern for "not a number". -/
def nan : Binary64 := ofFields false (2047 * Nat.pow 2 52 + Nat.pow 2 51)

/-- The quotient rounded to the nearest whole number, a half to the even one. -/
def roundQuotient (num den : Nat) : Nat :=
  let whole := num / den
  let rest := 2 * (num % den)
  if rest < den then whole
  else if den < rest then whole + 1
  else if whole % 2 = 0 then whole else whole + 1

/-- The ratio of two numbers times a power of two, again as a ratio. -/
def scaleRatio (num den : Nat) (power : Int) : Nat × Nat :=
  match power with
  | .ofNat n => (num * Nat.pow 2 n, den)
  | .negSucc n => (num, den * Nat.pow 2 (n + 1))

/-- The scale at which the ratio has a significand of 53 bits, or the least scale there is. -/
def scaleOfRatio (num den : Nat) : Int :=
  let guess : Int := (Nat.log2 num : Int) - (Nat.log2 den : Int) - 52
  let (n, d) := scaleRatio num den (-guess)
  let fitted := if n < d * Nat.pow 2 52 then guess - 1 else guess
  max fitted (-1074)

/-- The number nearest to `num / den`, or none if it is too large to represent. -/
def ofRatio? (negative : Bool) (num den : Nat) : Option Binary64 :=
  if num = 0 then some (zero negative)
  else
    let q := scaleOfRatio num den
    let (n, d) := scaleRatio num den (-q)
    let m := roundQuotient n d
    -- Rounding up may carry into one more bit.
    let (m, q) := if m = Nat.pow 2 53 then (Nat.pow 2 52, q + 1) else (m, q)
    if 971 < q then none
    else if m < Nat.pow 2 52 then some (ofFields negative m)
    else some (ofFields negative ((q + 1075).toNat * Nat.pow 2 52 + (m - Nat.pow 2 52)))

/-- The number nearest to `digits · 10 ^ exponent`, or none if it is too large to represent. An
exponent far outside the representable range is not raised as a power. -/
def ofDecimal? (negative : Bool) (digits : Nat) (exponent : Int) : Option Binary64 :=
  if digits = 0 then some (zero negative)
  else
    let size : Int := (Nat.log2 digits : Int) / 3 + 1
    if 400 < exponent then none
    else if exponent + size < -400 then some (zero negative)
    else
      match exponent with
      | .ofNat n => ofRatio? negative (digits * Nat.pow 10 n) 1
      | .negSucc n => ofRatio? negative digits (Nat.pow 10 (n + 1))

/-- Whether two numbers compare equal: zeros of either sign do, and so do two non-numbers. -/
def same (x y : Binary64) : Bool :=
  x == y || (x.isZero && y.isZero) || (x.isNaN && y.isNaN)

end Binary64

end StreamPlan
