import GraphClient.Failure

/-!
# Tags of values

A value is sent behind a number that says of which type it is.  The numbers are
those of `all`, counted from zero; no other number is a tag.
-/

namespace GraphClient

/-- The type of a sent value. -/
inductive Tag where
  | unknown
  | null
  | string
  | integer
  | boolean
  | double
  | array
  | edge
  | node
  | path
  | map
  | point
  | vector
  | dateTime
  | date
  | time
deriving DecidableEq, Repr

namespace Tag

/-- Every tag in the order of the numbers. -/
def all : List Tag :=
  [.unknown, .null, .string, .integer, .boolean, .double, .array, .edge, .node, .path, .map,
   .point, .vector, .dateTime, .date, .time]

def ordinal (tag : Tag) : Nat := tag.ctorIdx

def ofOrdinal : Int → Except Malformed Tag
  | .ofNat n =>
      match all[n]? with
      | some tag => .ok tag
      | none => .error (.unrecognizedType n)
  | n => .error (.unrecognizedType n)

theorem ofOrdinal_ordinal (tag : Tag) : ofOrdinal tag.ordinal = .ok tag := by
  cases tag <;> rfl

def name : Tag → String
  | .unknown => "Unknown"
  | .null => "Null"
  | .string => "String"
  | .integer => "Integer"
  | .boolean => "Boolean"
  | .double => "Double"
  | .array => "Array"
  | .edge => "Edge"
  | .node => "Node"
  | .path => "Path"
  | .map => "Map"
  | .point => "Point"
  | .vector => "Vector"
  | .dateTime => "DateTime"
  | .date => "Date"
  | .time => "Time"

end Tag

end GraphClient
