import GraphClient.Value.Basic

/-!
# Exported values

A `Tree` is a document of objects, lists and scalars into which values, replies
and tables are exported.

* A double that is not finite is exported as null, and a vector entry as the
  double of the same value.
* Entities and points are objects with a field per part.
* A reply is an object with the name of its form in `t` and its content in `v`.

An object is a list of fields, each with a name of its own.
-/

namespace GraphClient

/-- A document of objects, lists and scalars. -/
inductive Tree where
  | null
  | boolean (value : Bool)
  | integer (value : Int)
  | number (value : Double)
  | text (value : String)
  | list (items : List Tree)
  | object (fields : List (String × Tree))
deriving Inhabited

namespace Tree

/-- A double, or null in place of what is not finite. -/
def ofDouble (x : Double) : Tree :=
  if x.isFinite then .number x else .null

def ofTexts (texts : List String) : Tree := .list (texts.map .text)

/-- The form of a reply with its content. -/
def tagged (form : String) (content : Tree) : Tree :=
  .object [("t", .text form), ("v", content)]

end Tree

namespace Reply

mutual

/-- The exported form of a reply. -/
def toTree : Reply → Tree
  | .nil => .object [("t", .text "Nil")]
  | .integer n => .tagged "Integer" (.integer n)
  | .double x => .tagged "Double" (.ofDouble x)
  | .bulk bytes => .tagged "Bulk" (.list (bytes.toList.map fun b => .integer b.toNat))
  | .status text => .tagged "Status" (.text text)
  | .error message => .tagged "Error" (.text message)
  | .array items => .tagged "Array" (.list (toTrees items))

def toTrees : List Reply → List Tree
  | [] => []
  | item :: rest => toTree item :: toTrees rest

end

end Reply

def Point.toTree (point : Point) : Tree :=
  .object
    [("latitude", .ofDouble point.latitude),
     ("longitude", .ofDouble point.longitude)]

mutual

/-- The exported form of a value. -/
def Value.toTree : Value → Tree
  | .null => .null
  | .boolean value => .boolean value
  | .integer n => .integer n
  | .double x => .ofDouble x
  | .string text => .text text
  | .array items => .list (Value.toTrees items)
  | .node node => node.toTree
  | .edge edge => edge.toTree
  | .path path => path.toTree
  | .map entries => .object (Value.toFields entries)
  | .point point => point.toTree
  | .vector entries => .list (entries.map fun x => .ofDouble (x.convert .double))
  | .uninterpreted tag payload =>
      .object [("kind", .text tag.name), ("payload", payload.toTree)]

def Value.toTrees : List Value → List Tree
  | [] => []
  | item :: rest => Value.toTree item :: Value.toTrees rest

/-- The exported form of each of several named values under its name. -/
def Value.toFields : List (String × Value) → List (String × Tree)
  | [] => []
  | (name, value) :: rest => (name, Value.toTree value) :: Value.toFields rest

def Node.toTree : Node → Tree
  | ⟨id, labels, properties⟩ =>
      .object
        [("id", .integer id),
         ("labels", .ofTexts labels),
         ("properties", .object (Value.toFields properties))]

def Node.toTrees : List Node → List Tree
  | [] => []
  | node :: rest => Node.toTree node :: Node.toTrees rest

def Edge.toTree : Edge → Tree
  | ⟨id, type, source, destination, properties⟩ =>
      .object
        [("id", .integer id),
         ("relationship_type", .text type),
         ("source", .integer source),
         ("destination", .integer destination),
         ("properties", .object (Value.toFields properties))]

def Edge.toTrees : List Edge → List Tree
  | [] => []
  | edge :: rest => Edge.toTree edge :: Edge.toTrees rest

def Path.toTree : Path → Tree
  | ⟨nodes, edges⟩ =>
      .object [("nodes", .list (Node.toTrees nodes)), ("edges", .list (Edge.toTrees edges))]

end

end GraphClient
