import GraphClient.Value.Basic

/-!
# Values as text

`describe` writes a value for people to read.  A string stands without quotes,
an entity shows its identity and leaves its properties out, and a value that is
kept as it was sent shows its tag and the listing of its payload.

Doubles and vector entries use `listingLayout`, coordinates `coordinateLayout`.
-/

namespace GraphClient

/-- Coordinates as text: never an exponent, and no point after a whole number. -/
def coordinateLayout : Layout := ⟨false, none⟩

/-- A point with both coordinates. -/
def Point.describe (point : Point) : List Char :=
  "Point".toList ++ braced
    [assigned "latitude" (coordinateLayout.render point.latitude).toList,
     assigned "longitude" (coordinateLayout.render point.longitude).toList]

/-- A node with its id and labels. -/
def Node.describe (node : Node) : List Char :=
  "Node".toList ++ braced
    [assigned "id" (integerDigits node.id),
     assigned "labels" (bracketed (node.labels.map quoteVisible))]

/-- An edge with its id, its type and its ends. -/
def Edge.describe (edge : Edge) : List Char :=
  "Edge".toList ++ braced
    [assigned "id" (integerDigits edge.id),
     assigned "type" edge.type.toList,
     integerDigits edge.source ++ "->".toList ++ integerDigits edge.destination]

/-- A path with the numbers of its nodes and edges. -/
def Path.describe (path : Path) : List Char :=
  "Path".toList ++ braced
    [assigned "nodes" (integerDigits path.nodes.length),
     assigned "edges" (integerDigits path.edges.length)]

namespace Value

mutual

/-- A value for people to read. -/
def describe : Value → List Char
  | .null => "null".toList
  | .boolean value => (if value then "true" else "false").toList
  | .integer n => integerDigits n
  | .double x => (listingLayout.render x).toList
  | .string text => text.toList
  | .array items => bracketed (describeItems items)
  | .node entity => entity.describe
  | .edge entity => entity.describe
  | .path entity => entity.describe
  | .map entries => braced (describeEntries entries)
  | .point position => position.describe
  | .vector entries => bracketed (entries.map fun x => (listingLayout.render x).toList)
  | .uninterpreted tag payload => tag.name.toList ++ '(' :: (payload.describe ++ [')'])

def describeItems : List Value → List (List Char)
  | [] => []
  | item :: rest => describe item :: describeItems rest

def describeEntries : List (String × Value) → List (List Char)
  | [] => []
  | (name, value) :: rest =>
      named name (describe value) :: describeEntries rest

end

def toText (value : Value) : String := String.ofList value.describe

end Value

end GraphClient
