/-!
# Binary floating-point numbers

A number of a binary interchange format is a sign and a magnitude.  The
magnitude is the exponent field followed by the fraction field, read as one
natural number, so that the order of magnitudes is the order of absolute values.

**Reading a magnitude.**

* The magnitude of an infinity has all exponent bits set and no fraction bit.
* Everything above it is no number.
* Everything below it is `significand * 2 ^ exponent`, where an exponent field
  of zero has no hidden bit and shares its exponent with the field one.

Doubles and singles are the two formats of this library.
-/

namespace GraphClient

-- Powers are those of the core library, whatever else is imported.
attribute [local instance (2000)] instPowNat

/-- A binary interchange format: the widths of its exponent and fraction fields. -/
structure Format where
  exponentBits : Nat
  fractionBits : Nat
deriving DecidableEq, Repr

namespace Format

def double : Format := ⟨11, 52⟩

def single : Format := ⟨8, 23⟩

/-- The number of bits below the sign. -/
def magnitudeBits (f : Format) : Nat :=
  f.exponentBits + f.fractionBits

/-- The magnitude of the two infinities. -/
def infinity (f : Format) : Nat :=
  (2 ^ f.exponentBits - 1) * 2 ^ f.fractionBits

/-- The binary exponent of the last fraction bit of the smallest numbers. -/
def leastExponent (f : Format) : Int :=
  2 - 2 ^ (f.exponentBits - 1) - f.fractionBits

theorem infinity_lt (f : Format) : f.infinity < 2 ^ f.magnitudeBits := by
  have hExponent : 0 < 2 ^ f.exponentBits := Nat.two_pow_pos _
  have hFraction : 0 < 2 ^ f.fractionBits := Nat.two_pow_pos _
  simp only [infinity, magnitudeBits, Nat.pow_add]
  exact Nat.mul_lt_mul_of_pos_right (by omega) hFraction

end Format

/-- A floating-point number of format `f`. -/
structure Binary (f : Format) where
  negative : Bool
  /-- The exponent and fraction fields as one number. -/
  magnitude : Nat
  magnitude_lt : magnitude < 2 ^ f.magnitudeBits
deriving DecidableEq

abbrev Double := Binary .double

abbrev Single := Binary .single

namespace Binary

variable {f : Format}

/-- The number whose sign and fields are the low bits of `word`. -/
def ofBits (f : Format) (word : Nat) : Binary f where
  negative := word.testBit f.magnitudeBits
  magnitude := word % 2 ^ f.magnitudeBits
  magnitude_lt := Nat.mod_lt _ (Nat.two_pow_pos _)

def toBits (x : Binary f) : Nat :=
  x.magnitude + if x.negative then 2 ^ f.magnitudeBits else 0

def infinity (f : Format) (negative : Bool) : Binary f :=
  ⟨negative, f.infinity, f.infinity_lt⟩

def zero (f : Format) (negative : Bool) : Binary f :=
  ⟨negative, 0, Nat.two_pow_pos _⟩

instance : Inhabited (Binary f) := ⟨zero f false⟩

/-- All exponent and fraction bits set: the value that is no number. -/
def nan (f : Format) : Binary f :=
  ⟨false, 2 ^ f.magnitudeBits - 1, Nat.sub_lt (Nat.two_pow_pos _) Nat.one_pos⟩

def isNaN (x : Binary f) : Bool := f.infinity < x.magnitude

def isInfinite (x : Binary f) : Bool := x.magnitude == f.infinity

def isFinite (x : Binary f) : Bool := x.magnitude < f.infinity

def isZero (x : Binary f) : Bool := x.magnitude == 0

def neg (x : Binary f) : Binary f := { x with negative := !x.negative }

def exponentField (x : Binary f) : Nat := x.magnitude / 2 ^ f.fractionBits

/-- The integral significand of a finite number, hidden bit included. -/
def significand (x : Binary f) : Nat :=
  x.magnitude % 2 ^ f.fractionBits
    + if x.exponentField = 0 then 0 else 2 ^ f.fractionBits

/-- The exponent with which the significand of a finite number is scaled. -/
def exponent (x : Binary f) : Int :=
  f.leastExponent + (x.exponentField - 1 : Nat)

/--
Equality of numbers: the two zeros are equal, and what is no number equals
nothing, itself included.
-/
def same (x y : Binary f) : Bool :=
  !x.isNaN && !y.isNaN
    && (x.isZero && y.isZero || x.negative == y.negative && x.magnitude == y.magnitude)

end Binary

end GraphClient
