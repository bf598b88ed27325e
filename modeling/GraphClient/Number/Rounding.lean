import GraphClient.Number.Binary

/-!
# Rounding to the nearest binary number

One function rounds an exact nonnegative quotient to the nearest number of a
format, ties to the even significand.  Reading decimals, widening, narrowing,
integers and differences all go through it.

**Algorithm.**

1. Take the exponent at which the quotient has a full significand, but no
   exponent below the least one of the format.
2. Round the quotient, scaled by that exponent, to an integer.
3. The magnitude is that integer on top of the exponent steps above the least
   exponent.  A carry out of the significand lands in the exponent field by the
   same addition, and everything from the largest finite number on is infinite.
-/

namespace GraphClient

-- Powers are those of the core library, whatever else is imported.
attribute [local instance (2000)] instPowNat

/-- The integer nearest to `num / den`, ties to even. -/
def roundQuotient (num den : Nat) : Nat :=
  let quotient := num / den
  let twice := 2 * (num % den)
  if twice < den ∨ (twice = den ∧ quotient % 2 = 0) then quotient else quotient + 1

/-- The quotient `num / den` divided by `2 ^ e`, as numerator and denominator. -/
def scaledQuotient (num den : Nat) (e : Int) : Nat × Nat :=
  (num * 2 ^ (-e).toNat, den * 2 ^ e.toNat)

namespace Format

/-- The exponent of the last place of `num / den` in this format. -/
def placeExponent (f : Format) (num den : Nat) : Int :=
  let estimate : Int := num.log2 - den.log2 - f.fractionBits
  let scaled := scaledQuotient num den estimate
  let full := if scaled.1 < 2 ^ f.fractionBits * scaled.2 then estimate - 1 else estimate
  max full f.leastExponent

/-- The magnitude nearest to `num / den`. -/
def nearestMagnitude (f : Format) (num den : Nat) : Nat :=
  if num = 0 then 0
  else
    let e := f.placeExponent num den
    let scaled := scaledQuotient num den e
    min f.infinity
      ((e - f.leastExponent).toNat * 2 ^ f.fractionBits + roundQuotient scaled.1 scaled.2)

theorem nearestMagnitude_le_infinity
    (f : Format)
    (num den : Nat) :
    f.nearestMagnitude num den ≤ f.infinity := by
  simp only [nearestMagnitude]
  split <;> omega

end Format

namespace Binary

variable {f : Format}

/-- The number of the given sign nearest to `num / den`. -/
def nearest
    (f : Format)
    (negative : Bool)
    (num den : Nat) :
    Binary f where
  negative := negative
  magnitude := f.nearestMagnitude num den
  magnitude_lt := Nat.lt_of_le_of_lt (f.nearestMagnitude_le_infinity num den) f.infinity_lt

/-- The number nearest to `± significand * 2 ^ exponent`. -/
def nearestDyadic
    (f : Format)
    (negative : Bool)
    (significand : Nat)
    (exponent : Int) :
    Binary f :=
  nearest f negative (significand * 2 ^ exponent.toNat) (2 ^ (-exponent).toNat)

def ofInt (f : Format) (n : Int) : Binary f :=
  nearest f (n < 0) n.natAbs 1

def convert (g : Format) (x : Binary f) : Binary g :=
  if x.isNaN then nan g
  else if x.isInfinite then infinity g x.negative
  else nearestDyadic g x.negative x.significand x.exponent

/-- The signed significand of a finite number, scaled down to the exponent `e`. -/
def scaledSignificand (x : Binary f) (e : Int) : Int :=
  let scaled : Int := x.significand * 2 ^ (x.exponent - e).toNat
  if x.negative then -scaled else scaled

/-- The difference of two numbers, rounded once. -/
def sub (x y : Binary f) : Binary f :=
  if x.isNaN || y.isNaN then nan f
  else if x.isInfinite then
    if y.isInfinite && x.negative == y.negative then nan f else x
  else if y.isInfinite then y.neg
  else
    let e := min x.exponent y.exponent
    let difference := x.scaledSignificand e - y.scaledSignificand e
    nearestDyadic f (difference < 0) difference.natAbs e

/-- Whether the distance of two numbers, as rounded by the format, is below `bound`. -/
def isWithin (bound x y : Binary f) : Bool :=
  (x.sub y).magnitude < bound.magnitude

end Binary

end GraphClient
