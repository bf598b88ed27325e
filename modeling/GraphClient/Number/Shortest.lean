import GraphClient.Number.Decimal

/-!
# The shortest decimal of a binary number

Every finite number stands for an interval of reals: those nearer to it than to
its neighbours, with the ends included when its significand is even.

**The shortest decimal** of a number has the fewest digits among the decimals in
its interval.  Of two such decimals the nearer is taken, and of two equally near
the larger.

**Algorithm.**  The grids of one digit, two digits and so on are tried in turn.
On each grid only the two neighbours of the exact value have to be tested,
because the interval holds the value itself.  Should no grid of up to seventeen
digits have a neighbour in the interval, the exact decimal expansion is taken.
-/

namespace GraphClient

-- Powers are those of the core library, whatever else is imported.
attribute [local instance (2000)] instPowNat

/-- The digits that double and single precision never exceed. -/
def longestSearch : Nat := 17

namespace Decimal

/-- Whether `digits * 10 ^ exponent` lies above `n * 2 ^ e`. -/
def exceeds (d : Decimal) (n : Nat) (e : Int) : Bool :=
  n * 2 ^ e.toNat * 10 ^ (-d.exponent).toNat
    < d.digits * 10 ^ d.exponent.toNat * 2 ^ (-e).toNat

/-- Whether `digits * 10 ^ exponent` equals `n * 2 ^ e`. -/
def matchesDyadic (d : Decimal) (n : Nat) (e : Int) : Bool :=
  n * 2 ^ e.toNat * 10 ^ (-d.exponent).toNat
    == d.digits * 10 ^ d.exponent.toNat * 2 ^ (-e).toNat

/-- The same number without trailing zeros among its digits. -/
def stripped (d : Decimal) : Decimal :=
  if h : d.digits ≠ 0 ∧ d.digits % 10 = 0 then
    stripped ⟨d.digits / 10, d.exponent + 1⟩
  else d
termination_by d.digits
decreasing_by
  have hPositive : 0 < d.digits := Nat.pos_of_ne_zero h.1
  exact Nat.div_lt_self hPositive (by decide)

end Decimal

namespace Binary

variable {f : Format}

/--
Whether a decimal rounds to the finite number `x`.  The ends of the interval lie
half a place above and half a place below, but a quarter of a place below where
the exponent changes.
-/
def isReadFrom (x : Binary f) (d : Decimal) : Bool :=
  let narrow := x.significand = 2 ^ f.fractionBits ∧ 1 < x.exponentField
  let low := 4 * x.significand - if narrow then 1 else 2
  let high := 4 * x.significand + 2
  let closed := x.significand % 2 == 0
  let e := x.exponent - 2
  (d.exceeds low e || closed && d.matchesDyadic low e)
    && (!d.exceeds high e && (closed || !d.matchesDyadic high e))

/-- The absolute value of a finite number as numerator and denominator. -/
def quotient (x : Binary f) : Nat × Nat :=
  (x.significand * 2 ^ x.exponent.toNat, 2 ^ (-x.exponent).toNat)

/-- The least power of ten above a positive quotient. -/
def powerAbove (num den : Nat) : Int :=
  if den ≤ num then digitCount (num / den)
  else 1 - digitCount ((den - 1) / num)

/-- The better neighbour of `x` on the grid of multiples of `10 ^ place`, if one reads back. -/
def onGrid? (x : Binary f) (place : Int) : Option Decimal :=
  let num := x.quotient.1 * 10 ^ (-place).toNat
  let den := x.quotient.2 * 10 ^ place.toNat
  let below : Decimal := ⟨num / den, place⟩
  let above : Decimal := ⟨num / den + 1, place⟩
  match x.isReadFrom below, x.isReadFrom above with
  | true, true => some (if 2 * (num % den) < den then below else above)
  | true, false => some below
  | false, true => some above
  | false, false => none

/-- The exact decimal expansion of the absolute value of a finite number. -/
def expansion (x : Binary f) : Decimal :=
  ⟨x.significand * 2 ^ x.exponent.toNat * 5 ^ (-x.exponent).toNat, min x.exponent 0⟩

/-- The shortest decimal of the absolute value of a finite number. -/
def shortest (x : Binary f) : Decimal :=
  if x.isZero then ⟨0, 0⟩
  else
    let top := powerAbove x.quotient.1 x.quotient.2
    let found := (List.range longestSearch).findSome? fun n => x.onGrid? (top - (n + 1 : Nat))
    (found.getD x.expansion).stripped

end Binary

end GraphClient
