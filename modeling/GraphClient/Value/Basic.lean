import GraphClient.Fields
import GraphClient.Reply.Basic
import GraphClient.Value.Tag

/-!
# Values

A value is a scalar, a container of values or an entity of a graph.  Entities
hold names and values only; nothing in them refers to the graph that they came
from.

**Conventions.**

* The entries of a map and the properties of an entity are `Fields`, in
  ascending order of their names.
* The labels of a node stand in the order in which they were added, each once.
* A path without nodes has no edges, and any other has one edge fewer than nodes.

The constructors do not enforce these; the operations on nodes, edges and paths
keep them.
-/

namespace GraphClient

/-- A position by latitude and longitude. -/
structure Point where
  latitude : Double
  longitude : Double
deriving DecidableEq

mutual

/-- A value of a table, a property or a parameter. -/
inductive Value where
  | null
  | boolean (value : Bool)
  | integer (value : Int)
  | double (value : Double)
  | string (text : String)
  | array (items : List Value)
  | node (node : Node)
  | edge (edge : Edge)
  | path (path : Path)
  | map (entries : List (String × Value))
  | point (point : Point)
  | vector (entries : List Single)
  /-- A value of a type that is kept as it was sent. -/
  | uninterpreted (tag : Tag) (payload : Reply)

/-- A node with its labels and properties. -/
structure Node where
  id : Int
  labels : List String
  properties : List (String × Value)

/-- A relationship between two nodes, with its type and properties. -/
structure Edge where
  id : Int
  type : String
  source : Int
  destination : Int
  properties : List (String × Value)

/-- Nodes with the edges between them. -/
structure Path where
  nodes : List Node
  edges : List Edge

end

instance : Inhabited Value := ⟨.null⟩

namespace Value

def isNull : Value → Bool
  | .null => true
  | _ => false

def boolean? : Value → Option Bool
  | .boolean value => some value
  | _ => none

def integer? : Value → Option Int
  | .integer n => some n
  | _ => none

/-- The value of a double, or that of an integer rounded to a double. -/
def number? : Value → Option Double
  | .double x => some x
  | .integer n => some (.ofInt .double n)
  | _ => none

def string? : Value → Option String
  | .string text => some text
  | _ => none

def array? : Value → Option (List Value)
  | .array items => some items
  | _ => none

def node? : Value → Option Node
  | .node found => some found
  | _ => none

def edge? : Value → Option Edge
  | .edge found => some found
  | _ => none

def path? : Value → Option Path
  | .path found => some found
  | _ => none

def map? : Value → Option (Fields Value)
  | .map entries => some entries
  | _ => none

def point? : Value → Option Point
  | .point found => some found
  | _ => none

def vector? : Value → Option (List Single)
  | .vector entries => some entries
  | _ => none

end Value

end GraphClient
