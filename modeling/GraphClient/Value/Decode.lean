import GraphClient.Reply.Shape
import GraphClient.Schema.Lookup
import GraphClient.Text.LetterCase
import GraphClient.Value.Entity

/-!
# Reading values

A value is sent as a pair of a tag and a payload.  Entities are sent as arrays
of fixed length in which an index stands for every name.

**Input.**

* A node is its id, its label indices and its properties.
* An edge is its id, the index of its type, its two ends and its properties.
* A property is the index of its key, a tag and a payload.
* A path is two values, an array of nodes and an array of edges.
* A map is one array in which keys and values take turns.

**Results.**  `Value.ofReply`, `Node.ofReply` and `Edge.ofReply` read one form
each.  The type of an edge is looked up before anything else of it is read; all
other parts are read in the order in which they are sent.  A null ignores its
payload.
-/

namespace GraphClient

/-- The tag that a reply stands for. -/
def sentTag (context : String) (reply : Reply) : Except Malformed Tag := do
  Tag.ofOrdinal (← reply.toInteger context)

/-- The name whose index a reply is. -/
def sentName
    (kind : Kind)
    (context : String)
    (reply : Reply) :
    Lookup String := do
  let index ← reply.toIndex context
  Lookup.name kind index

def sentNames
    (kind : Kind)
    (context : String) :
    List Reply → Lookup (List String)
  | [] => pure []
  | reply :: rest => do
      let name ← sentName kind context reply
      let names ← sentNames kind context rest
      pure (name :: names)

/-- A point as a pair of numbers. -/
def Point.ofReply : Reply → Except Malformed Point
  | .array [latitude, longitude] => do
      let latitude ← latitude.toNumber "point latitude"
      let longitude ← longitude.toNumber "point longitude"
      pure ⟨latitude, longitude⟩
  | reply => .error (reply.tupleFault 2 "point value")

/-- An entry of a vector. -/
def vectorEntry : Reply → Except Malformed Single
  | .double x => .ok (x.convert .single)
  | .integer n => .ok (.ofInt .single n)
  | reply => do
      let text ← reply.toText "vector entry"
      match Binary.ofText? .single (trim text) with
      | some x => .ok x
      | none => .error (.invalidVectorEntry text)

/-- A vector as an array of its entries. -/
def vectorOfReply (reply : Reply) : Except Malformed (List Single) := do
  let items ← reply.toItems "vector value"
  items.mapM vectorEntry

/-- The entities that the items of an array are. -/
def entitiesOf
    {α : Type}
    (select : Value → Option α)
    (listContext itemContext : String) :
    Value → Except Malformed (List α)
  | .array items =>
      items.mapM fun item =>
        match select item with
        | some entity => .ok entity
        | none => .error (.unexpectedShape "array of entities" itemContext)
  | _ => .error (.unexpectedShape "array of entities" listContext)

/-- A node from the parts of its array, of which the properties are read already. -/
def Node.assemble
    (id labels : Reply)
    (properties : Lookup (Fields Value)) :
    Lookup Node := do
  let id ← id.toInteger "node id"
  let labels ← labels.toItems "node labels"
  let names ← sentNames .label "node label id" labels
  let properties ← properties
  pure { (Node.new id).addLabels names with properties := properties }

/-- An edge from the parts of its array, of which the properties are read already. -/
def Edge.assemble
    (id type source destination : Reply)
    (properties : Lookup (Fields Value)) :
    Lookup Edge := do
  let type ← sentName .relationshipType "edge type id" type
  let id ← id.toInteger "edge id"
  let source ← source.toInteger "edge source"
  let destination ← destination.toInteger "edge destination"
  let properties ← properties
  pure { Edge.new id type source destination with properties := properties }

/-- A path from the values that hold its nodes and its edges. -/
def Path.assemble (nodes edges : Lookup Value) : Lookup Path := do
  let nodes ← entitiesOf Value.node? "path nodes" "path node" (← nodes)
  let edges ← entitiesOf Value.edge? "path edges" "path edge" (← edges)
  Path.ofLists nodes edges

mutual

/-- The value that a pair of tag and payload stands for. -/
def Value.ofReply : Reply → Lookup Value
  | .array [tag, payload] => do
      let tag ← sentTag "scalar type" tag
      Value.ofTagged tag payload
  | reply => .fail (reply.tupleFault 2 "scalar")

/-- The value that a payload stands for under a tag. -/
def Value.ofTagged (tag : Tag) (payload : Reply) : Lookup Value :=
  match tag with
  | .null => pure .null
  | .string => do
      let text ← payload.toText "string value"
      pure (.string text)
  | .integer => do
      let n ← payload.toInteger "integer value"
      pure (.integer n)
  | .boolean => do
      let text ← payload.toText "boolean value"
      pure (.boolean (agreesUpToCase text "true"))
  | .double => do
      let x ← payload.toNumber "double value"
      pure (.double x)
  | .array =>
      match payload with
      | .array items => do
          let values ← Value.ofReplies items
          pure (.array values)
      | .nil => pure (.array [])
      | _ => .fail (.unexpectedShape "array" "array value")
  | .edge =>
      match payload with
      | .array [id, type, source, destination, properties] => do
          let edge ← Edge.assemble id type source destination (Value.ofProperties properties)
          pure (.edge edge)
      | reply => .fail (reply.tupleFault 5 "edge")
  | .node =>
      match payload with
      | .array [id, labels, properties] => do
          let node ← Node.assemble id labels (Value.ofProperties properties)
          pure (.node node)
      | reply => .fail (reply.tupleFault 3 "node")
  | .path =>
      match payload with
      | .array [nodes, edges] => do
          let path ← Path.assemble (Value.ofReply nodes) (Value.ofReply edges)
          pure (.path path)
      | reply => .fail (reply.tupleFault 2 "path")
  | .map =>
      match payload with
      | .array items =>
          if items.length % 2 = 0 then do
            let entries ← Value.ofEntries items
            pure (.map (Fields.ofList entries))
          else .fail (.unexpectedShape "even number of key/value entries" "map value")
      | .nil => pure (.map [])
      | _ => .fail (.unexpectedShape "array" "map value")
  | .point => do
      let point ← Point.ofReply payload
      pure (.point point)
  | .vector => do
      let entries ← vectorOfReply payload
      pure (.vector entries)
  | .unknown | .dateTime | .date | .time => pure (.uninterpreted tag payload)

def Value.ofReplies : List Reply → Lookup (List Value)
  | [] => pure []
  | item :: rest => do
      let value ← Value.ofReply item
      let values ← Value.ofReplies rest
      pure (value :: values)

/-- The entries of a map whose keys and values take turns. -/
def Value.ofEntries : List Reply → Lookup (List (String × Value))
  | key :: item :: rest => do
      let key ← key.toText "map key"
      let value ← Value.ofReply item
      let entries ← Value.ofEntries rest
      pure ((key, value) :: entries)
  | _ => pure []

def Value.ofProperties : Reply → Lookup (Fields Value)
  | .array items => do
      let pairs ← Value.ofTriples items
      pure (Fields.ofList pairs)
  | .nil => pure []
  | _ => .fail (.unexpectedShape "array" "properties")

/-- The names and values of several properties in the order in which they are sent. -/
def Value.ofTriples : List Reply → Lookup (List (String × Value))
  | [] => pure []
  | .array [key, tag, payload] :: rest => do
      let name ← sentName .propertyKey "property key id" key
      let tag ← sentTag "property type" tag
      let value ← Value.ofTagged tag payload
      let pairs ← Value.ofTriples rest
      pure ((name, value) :: pairs)
  | reply :: _ => .fail (reply.tupleFault 3 "property")

end

/-- The node that a reply without a tag stands for. -/
def Node.ofReply : Reply → Lookup Node
  | .array [id, labels, properties] => Node.assemble id labels (Value.ofProperties properties)
  | reply => .fail (reply.tupleFault 3 "node")

/-- The edge that a reply without a tag stands for. -/
def Edge.ofReply : Reply → Lookup Edge
  | .array [id, type, source, destination, properties] =>
      Edge.assemble id type source destination (Value.ofProperties properties)
  | reply => .fail (reply.tupleFault 5 "edge")

end GraphClient
