import GraphClient.Number.Shortest

/-!
# Laying out a decimal as text

Which digits a number has is settled by `Binary.shortest`.  A `Layout` holds the
remaining decisions of one text format: where positional writing ends and
whether a whole number keeps a point.
-/

namespace GraphClient

/-- The decisions of a number format that the digits leave open. -/
structure Layout where
  /-- Whether a whole number written positionally ends in `.0`. -/
  keepsPoint : Bool
  /--
  The exponents of the leading digit that are written positionally, from the
  first up to but without the second; all of them if absent.
  -/
  positional : Option (Int × Int)

namespace Layout

/-- A decimal written without an exponent. -/
def writePositional (layout : Layout) (d : Decimal) : List Char :=
  let digits := Nat.toDigits 10 d.digits
  let point : Int := digits.length + d.exponent
  if point ≤ 0 then
    '0' :: '.' :: (List.replicate (-point).toNat '0' ++ digits)
  else if digits.length ≤ point then
    digits ++ List.replicate (point - digits.length).toNat '0'
      ++ if layout.keepsPoint then ['.', '0'] else []
  else digits.take point.toNat ++ '.' :: digits.drop point.toNat

/-- A decimal written as its leading digit, the others after a point, and an exponent. -/
def writeScientific (d : Decimal) : List Char :=
  let digits := Nat.toDigits 10 d.digits
  let point : Int := digits.length + d.exponent
  let tail := digits.drop 1
  digits.take 1
    ++ (if tail.isEmpty then [] else '.' :: tail)
    ++ 'e' :: (toString (point - 1)).toList

/-- A decimal in the form that the layout asks for. -/
def write (layout : Layout) (d : Decimal) : List Char :=
  match layout.positional with
  | none => layout.writePositional d
  | some (low, high) =>
      let leading := d.top - 1
      if d.digits = 0 ∨ (low ≤ leading ∧ leading < high) then layout.writePositional d
      else writeScientific d

/-- The text of a number: its shortest decimal, with a sign in front where it is negative. -/
def render
    {f : Format}
    (layout : Layout)
    (x : Binary f) :
    String :=
  if x.isNaN then "NaN"
  else
    let digits := if x.isInfinite then "inf".toList else layout.write x.shortest
    String.ofList (if x.negative then '-' :: digits else digits)

end Layout

end GraphClient
