import GraphClient.Failure
import GraphClient.Value.Basic

/-!
# Nodes, edges, paths and points

Operations that build entities and read their parts.

* A label added twice is there once, at the place of the first time.
* A property set twice has the later value.
* A path is made from two lists that fit together, or by a `PathBuilder` that
  takes nodes and edges in turn.
-/

namespace GraphClient

/-- A value with the name under which an entity holds it. -/
structure Property where
  name : String
  value : Value

namespace Node

/-- A node without labels and properties. -/
def new (id : Int) : Node := ⟨id, [], []⟩

def hasLabel (node : Node) (label : String) : Bool := node.labels.contains label

/-- A node with one label more, unless it has the label. -/
def addLabel (node : Node) (label : String) : Node :=
  if node.hasLabel label then node else { node with labels := node.labels ++ [label] }

/-- A node with the labels of a list added in order. -/
def addLabels (node : Node) (labels : List String) : Node :=
  labels.foldl addLabel node

def setProperty
    (node : Node)
    (name : String)
    (value : Value) :
    Node :=
  { node with properties := Fields.insert name value node.properties }

def addProperty (node : Node) (property : Property) : Node :=
  node.setProperty property.name property.value

def property? (node : Node) (name : String) : Option Value :=
  Fields.find? name node.properties

end Node

namespace Edge

def new
    (id : Int)
    (type : String)
    (source destination : Int) :
    Edge :=
  ⟨id, type, source, destination, []⟩

def setProperty
    (edge : Edge)
    (name : String)
    (value : Value) :
    Edge :=
  { edge with properties := Fields.insert name value edge.properties }

def addProperty (edge : Edge) (property : Property) : Edge :=
  edge.setProperty property.name property.value

def property? (edge : Edge) (name : String) : Option Value :=
  Fields.find? name edge.properties

end Edge

namespace Path

def empty : Path := ⟨[], []⟩

/-- Whether so many nodes and edges make a path. -/
def Fits (nodes edges : Nat) : Prop :=
  if nodes = 0 then edges = 0 else nodes = edges + 1

instance (nodes edges : Nat) : Decidable (Fits nodes edges) := by
  unfold Fits
  infer_instance

/-- The path of two lists, if they fit together. -/
def ofLists (nodes : List Node) (edges : List Edge) : Except Malformed Path :=
  if Fits nodes.length edges.length then .ok ⟨nodes, edges⟩
  else .error (.pathShape nodes.length edges.length)

def length (path : Path) : Nat := path.edges.length

/-- An element of a list, or the failure that says how far the list goes. -/
def element {α : Type} (items : List α) (index : Nat) : Except Failure α :=
  match items[index]? with
  | some item => .ok item
  | none => .error (.outOfBounds index items.length)

def nodeAt (path : Path) (index : Nat) : Except Failure Node := element path.nodes index

def edgeAt (path : Path) (index : Nat) : Except Failure Edge := element path.edges index

def firstNode (path : Path) : Except Failure Node := path.nodeAt 0

def lastNode (path : Path) : Except Failure Node := path.nodeAt (path.nodes.length - 1)

end Path

/-- A path in the making. -/
structure PathBuilder where
  nodes : List Node
  edges : List Edge

namespace PathBuilder

def empty : PathBuilder := ⟨[], []⟩

/-- Adds a node where one is due. -/
def addNode (builder : PathBuilder) (node : Node) : Except Failure PathBuilder :=
  if builder.nodes.length = builder.edges.length then
    .ok { builder with nodes := builder.nodes ++ [node] }
  else .error (.invalidArgument "path builder expected an edge but got a node")

/-- Adds an edge where one is due. -/
def addEdge (builder : PathBuilder) (edge : Edge) : Except Failure PathBuilder :=
  if builder.nodes.length = builder.edges.length + 1 then
    .ok { builder with edges := builder.edges ++ [edge] }
  else .error (.invalidArgument "path builder expected a node but got an edge")

/-- The finished path, which must not end in an edge. -/
def build (builder : PathBuilder) : Except Failure Path :=
  if builder.nodes ≠ [] ∧ builder.nodes.length ≠ builder.edges.length + 1 then
    .error (.invalidArgument "path builder nodes count should be edge count + 1")
  else (Path.ofLists builder.nodes builder.edges).mapError .malformed

end PathBuilder

/-- The point with two given coordinates. -/
def Point.ofList : List Double → Except Failure Point
  | [latitude, longitude] => .ok ⟨latitude, longitude⟩
  | coordinates =>
      let count := coordinates.length
      .error (.invalidArgument s!"point requires 2 coordinates, got {count}")

end GraphClient
