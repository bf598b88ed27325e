import GraphClient.Failure
import GraphClient.Value.Display

/-!
# Literals

A parameter of a query is written into the text of the query as a literal.

* Doubles and the numbers of points and vectors use `listingLayout`.
* Strings stand between quotes, and keys of maps as they are.
* An entity, a value kept as it was sent and a double that is not finite have no
  literal; `obstacle?` finds the first such part of a value.
-/

namespace GraphClient
namespace Value

/-- The failure of a value that has no literal. -/
def unsendable (value : Value) : Failure :=
  .invalidArgument ("graph entities cannot be sent as parameters: " ++ value.toText)

/-- The failure of a double that has no literal. -/
def unsendableDouble (x : Double) : Failure :=
  .invalidArgument
    ("non-finite double " ++ coordinateLayout.render x ++ " cannot be sent as a parameter")

mutual

/-- The first part of a value that has no literal, as a failure. -/
def obstacle? : Value → Option Failure
  | .double x => if x.isFinite then none else some (unsendableDouble x)
  | .array items => obstacleInItems? items
  | .map entries => obstacleInEntries? entries
  | .node entity => some (unsendable (.node entity))
  | .edge entity => some (unsendable (.edge entity))
  | .path entity => some (unsendable (.path entity))
  | .uninterpreted tag payload => some (unsendable (.uninterpreted tag payload))
  | _ => none

def obstacleInItems? : List Value → Option Failure
  | [] => none
  | item :: rest => (obstacle? item).or (obstacleInItems? rest)

def obstacleInEntries? : List (String × Value) → Option Failure
  | [] => none
  | (_, value) :: rest => (obstacle? value).or (obstacleInEntries? rest)

end

def numberLiteral {f : Format} (x : Binary f) : List Char := (listingLayout.render x).toList

mutual

/-- The literal of a value; what has no literal is left out. -/
def literal : Value → List Char
  | .null => "null".toList
  | .boolean value => (if value then "true" else "false").toList
  | .integer n => integerDigits n
  | .double x => numberLiteral x
  | .string text => quoteLiteral text
  | .array items => bracketed (literalItems items)
  | .map entries => braced (literalEntries entries)
  | .point position =>
      "point(".toList ++
        braced
          [named "latitude" (numberLiteral position.latitude),
           named "longitude" (numberLiteral position.longitude)] ++
        [')']
  | .vector entries => "vecf32(".toList ++ bracketed (entries.map numberLiteral) ++ [')']
  | .node _ | .edge _ | .path _ | .uninterpreted _ _ => []

def literalItems : List Value → List (List Char)
  | [] => []
  | item :: rest => literal item :: literalItems rest

/-- The literals of several named values, each behind its name. -/
def literalEntries : List (String × Value) → List (List Char)
  | [] => []
  | (name, value) :: rest =>
      named name (literal value) :: literalEntries rest

end

end Value
end GraphClient
