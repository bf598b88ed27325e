import GraphClient.Number.Rounding

/-!
# Decimal text read as a binary number

**Grammar.**  An optional sign, then one of

* `inf`, `infinity` or `nan`, in letters of any case, or
* digits with an optional point, at least one digit in all, then optionally
  `e` or `E`, an optional sign and at least one digit.

**Value.**  The digits form an integer, and the point and the exponent scale it
by a power of ten.  The exact product is rounded once.  A leading digit so high
or so low that the format cannot hold it settles the result without computing
the power.
-/

namespace GraphClient

-- Powers are those of the core library, whatever else is imported.
attribute [local instance (2000)] instPowNat

/-- The decimal number `digits * 10 ^ exponent`. -/
structure Decimal where
  digits : Nat
  exponent : Int
deriving DecidableEq, Repr

/-- The number of decimal digits of `n`, one for zero. -/
def digitCount (n : Nat) : Nat := (Nat.toDigits 10 n).length

/-- A list of characters split after its longest run of digits. -/
def splitDigits (s : List Char) : List Char × List Char :=
  (s.takeWhile Char.isDigit, s.dropWhile Char.isDigit)

def digitsValue (s : List Char) : Nat := Nat.ofDigitChars 10 s 0

namespace Decimal

/-- The exponent of ten just above the leading digit. -/
def top (d : Decimal) : Int := digitCount d.digits + d.exponent

/-- The magnitude of format `f` nearest to a decimal. -/
def nearestMagnitude (f : Format) (d : Decimal) : Nat :=
  if d.digits = 0 then 0
  else if 2 ^ (f.exponentBits - 1) < d.top then f.infinity
  else if d.top < f.leastExponent - 1 then 0
  else f.nearestMagnitude (d.digits * 10 ^ d.exponent.toNat) (10 ^ (-d.exponent).toNat)

theorem nearestMagnitude_le_infinity
    (f : Format)
    (d : Decimal) :
    d.nearestMagnitude f ≤ f.infinity := by
  simp only [nearestMagnitude]
  split
  · exact Nat.zero_le _
  · split
    · exact Nat.le_refl _
    · split
      · exact Nat.zero_le _
      · exact f.nearestMagnitude_le_infinity _ _

/-- The exponent part of a decimal: nothing at all, or a mark and an integer. -/
def exponentPart? : List Char → Option Int
  | [] => some 0
  | mark :: s =>
      if mark = 'e' ∨ mark = 'E' then
        match s with
        | '-' :: s => (digits? s).map fun n => -(n : Int)
        | '+' :: s => (digits? s).map fun n => (n : Int)
        | s => (digits? s).map fun n => (n : Int)
      else none
where
  /-- At least one digit and nothing else. -/
  digits? (s : List Char) : Option Nat :=
    if s.isEmpty || !s.all Char.isDigit then none else some (digitsValue s)

/-- An unsigned decimal: digits around an optional point, then an exponent part. -/
def ofChars? (s : List Char) : Option Decimal :=
  let (whole, rest) := splitDigits s
  let (fraction, rest) :=
    match rest with
    | '.' :: rest => splitDigits rest
    | rest => ([], rest)
  if whole.isEmpty && fraction.isEmpty then none
  else
    (exponentPart? rest).map fun e =>
      ⟨digitsValue (whole ++ fraction), e - fraction.length⟩

end Decimal

namespace Binary

/-- The number written by an unsigned text. -/
def ofUnsigned? (f : Format) (s : List Char) : Option (Binary f) :=
  let letters := s.map Char.toLower
  if letters = "inf".toList ∨ letters = "infinity".toList then some (infinity f false)
  else if letters = "nan".toList then some (nan f)
  else
    (Decimal.ofChars? s).map fun d =>
      { negative := false
        magnitude := d.nearestMagnitude f
        magnitude_lt := Nat.lt_of_le_of_lt (d.nearestMagnitude_le_infinity f) f.infinity_lt }

def ofText? (f : Format) (text : String) : Option (Binary f) :=
  match text.toList with
  | '-' :: s => (ofUnsigned? f s).map neg
  | '+' :: s => ofUnsigned? f s
  | s => ofUnsigned? f s

end Binary

end GraphClient
