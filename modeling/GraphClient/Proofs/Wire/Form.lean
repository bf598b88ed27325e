import GraphClient.Table.Decode
import Mathlib.Data.List.Forall2

/-!
# The compact form of values

How a server sends values, nodes, edges, paths and whole tables, as relations between
a value and its replies.  They are relations because the form leaves choices open: a
name that occurs several times in its list may be sent as any of its indices, the
entries of a map and the properties of an entity come in any order, a null carries
any payload, and the cells of a column without a kind may be anything.

* `Value.Sent names value tag payload`: the value is sent as the pair of `tag` and
  `payload` when the schema has the lists `names`.
* `Node.Sent` and `Edge.Sent` are the forms without a tag.
* `Cell.Sent`, `Row.Sent` and `Table.wire` make up the reply to a query.

`Value.Encodable` and `ColumnKind.Holds` say which values have such a form: no vector
occurs in them, their labels are different, their paths fit, their names are in the
schema, and a value that is kept as it was sent has a tag that is not read.
`Value.exists_sent` and `Row.exists_sent` show that these do have one.
-/

namespace GraphClient

def Reply.tagged (tag : Tag) (payload : Reply) : Reply := .array [.integer tag.ordinal, payload]

/-- A name is sent as an index that holds it. -/
def Names.Sent (names : Names) (kind : Kind) (name : String) (reply : Reply) : Prop :=
  ∃ index : Nat, (names.of kind)[index]? = some name ∧ reply = .integer index

/-- The tags of values that are kept as they were sent. -/
def Tag.kept : List Tag := [.unknown, .dateTime, .date, .time]

mutual

/-- A value is sent as a tag and a payload. -/
inductive Value.Sent (names : Names) : Value → Tag → Reply → Prop
  | null (payload : Reply) : Value.Sent names .null .null payload
  | boolean (value : Bool) :
      Value.Sent names (.boolean value) .boolean (.ofText (if value then "true" else "false"))
  | integer (n : Int) : Value.Sent names (.integer n) .integer (.integer n)
  | double (x : Double) : Value.Sent names (.double x) .double (.double x)
  | string (text : String) : Value.Sent names (.string text) .string (.ofText text)
  | array {items : List Value} {replies : List Reply} :
      Value.SentItems names items replies →
      Value.Sent names (.array items) .array (.array replies)
  | node {node : Node} {payload : Reply} :
      Node.Sent names node payload →
      Value.Sent names (.node node) .node payload
  | edge {edge : Edge} {payload : Reply} :
      Edge.Sent names edge payload →
      Value.Sent names (.edge edge) .edge payload
  | path {nodes : List Node} {edges : List Edge} {first second : Tag} {left right : Reply} :
      Value.Sent names (.array (nodes.map .node)) first left →
      Value.Sent names (.array (edges.map .edge)) second right →
      Value.Sent names (.path ⟨nodes, edges⟩) .path
        (.array [.tagged first left, .tagged second right])
  | map {entries pairs : List (String × Value)} {replies : List Reply} :
      pairs.Perm entries →
      Value.SentEntries names pairs replies →
      Value.Sent names (.map entries) .map (.array replies)
  | point (position : Point) :
      Value.Sent names (.point position) .point
        (.array [.double position.latitude, .double position.longitude])
  | uninterpreted (tag : Tag) (payload : Reply) :
      Value.Sent names (.uninterpreted tag payload) tag payload

/-- Values are sent one after the other, each behind its tag. -/
inductive Value.SentItems (names : Names) : List Value → List Reply → Prop
  | nil : Value.SentItems names [] []
  | cons {value : Value} {tag : Tag} {payload : Reply}
      {values : List Value} {replies : List Reply} :
      Value.Sent names value tag payload →
      Value.SentItems names values replies →
      Value.SentItems names (value :: values) (.tagged tag payload :: replies)

/-- Entries of a map are sent as keys and values in turn. -/
inductive Value.SentEntries (names : Names) : List (String × Value) → List Reply → Prop
  | nil : Value.SentEntries names [] []
  | cons {key : String} {value : Value} {tag : Tag} {payload : Reply}
      {pairs : List (String × Value)} {replies : List Reply} :
      Value.Sent names value tag payload →
      Value.SentEntries names pairs replies →
      Value.SentEntries names ((key, value) :: pairs)
        (.ofText key :: .tagged tag payload :: replies)

/-- Properties are sent as triples of key, tag and payload. -/
inductive Value.SentTriples (names : Names) : List (String × Value) → List Reply → Prop
  | nil : Value.SentTriples names [] []
  | cons {name : String} {key : Reply} {value : Value} {tag : Tag} {payload : Reply}
      {pairs : List (String × Value)} {replies : List Reply} :
      names.Sent .propertyKey name key →
      Value.Sent names value tag payload →
      Value.SentTriples names pairs replies →
      Value.SentTriples names ((name, value) :: pairs)
        (.array [key, .integer tag.ordinal, payload] :: replies)

/-- A node is sent as its id, its labels and its properties. -/
inductive Node.Sent (names : Names) : Node → Reply → Prop
  | mk (id : Int) {labels : List String} {properties pairs : List (String × Value)}
      {indices replies : List Reply} :
      List.Forall₂ (names.Sent .label) labels indices →
      pairs.Perm properties →
      Value.SentTriples names pairs replies →
      Node.Sent names ⟨id, labels, properties⟩
        (.array [.integer id, .array indices, .array replies])

/-- An edge is sent as its id, its type, its two ends and its properties. -/
inductive Edge.Sent (names : Names) : Edge → Reply → Prop
  | mk (id source destination : Int) {type : String} {index : Reply}
      {properties pairs : List (String × Value)} {replies : List Reply} :
      names.Sent .relationshipType type index →
      pairs.Perm properties →
      Value.SentTriples names pairs replies →
      Edge.Sent names ⟨id, type, source, destination, properties⟩
        (.array [.integer id, index, .integer source, .integer destination, .array replies])

end

/-- A value in a column of a kind is sent with or without a tag, or as anything. -/
inductive Cell.Sent (names : Names) : ColumnKind → Value → Reply → Prop
  | scalar {value : Value} {tag : Tag} {payload : Reply} :
      Value.Sent names value tag payload →
      Cell.Sent names .scalar value (.tagged tag payload)
  | node {node : Node} {reply : Reply} :
      Node.Sent names node reply →
      Cell.Sent names .node (.node node) reply
  | relation {edge : Edge} {reply : Reply} :
      Edge.Sent names edge reply →
      Cell.Sent names .relation (.edge edge) reply
  | unknown (reply : Reply) : Cell.Sent names .unknown .null reply

/-- The values of a row are sent one per column. -/
inductive Row.Sent (names : Names) : List Column → List Value → List Reply → Prop
  | nil : Row.Sent names [] [] []
  | cons {column : Column} {value : Value} {reply : Reply}
      {columns : List Column} {values : List Value} {replies : List Reply} :
      Cell.Sent names column.kind value reply →
      Row.Sent names columns values replies →
      Row.Sent names (column :: columns) (value :: values) (reply :: replies)

/-- A column is sent as the number of its kind and its name. -/
def Column.wire (column : Column) : Reply :=
  .array [.integer column.kind.ordinal, .ofText column.name]

/-- The reply to a query: its columns, the rows as they are sent, the lines of statistics. -/
def Table.wire (columns : List Column) (rows : List (List Reply)) (lines : List String) : Reply :=
  .array
    [.array (columns.map Column.wire), .array (rows.map .array), .array (lines.map .ofText)]

mutual

/-- A value has a compact form over a schema. -/
def Value.Encodable (names : Names) : Value → Prop
  | .null | .boolean _ | .integer _ | .double _ | .string _ | .point _ => True
  | .array items => Value.ItemsEncodable names items
  | .node node => Node.Encodable names node
  | .edge edge => Edge.Encodable names edge
  | .path path => Path.Encodable names path
  | .map entries => Fields.Sorted entries ∧ Value.PairsEncodable names entries
  | .vector _ => False
  | .uninterpreted tag _ => tag ∈ Tag.kept

def Value.ItemsEncodable (names : Names) : List Value → Prop
  | [] => True
  | item :: rest => Value.Encodable names item ∧ Value.ItemsEncodable names rest

def Value.PairsEncodable (names : Names) : List (String × Value) → Prop
  | [] => True
  | (_, value) :: rest => Value.Encodable names value ∧ Value.PairsEncodable names rest

/-- A node has a compact form: its labels are different, and all its names are in the schema. -/
def Node.Encodable (names : Names) : Node → Prop
  | ⟨_, labels, properties⟩ =>
      labels.Nodup ∧ (∀ label ∈ labels, label ∈ names.labels) ∧
        Fields.Sorted properties ∧ (∀ name ∈ Fields.names properties, name ∈ names.propertyKeys) ∧
        Value.PairsEncodable names properties

/-- An edge has a compact form: all its names are in the schema. -/
def Edge.Encodable (names : Names) : Edge → Prop
  | ⟨_, type, _, _, properties⟩ =>
      type ∈ names.relationshipTypes ∧
        Fields.Sorted properties ∧ (∀ name ∈ Fields.names properties, name ∈ names.propertyKeys) ∧
        Value.PairsEncodable names properties

/-- A path has a compact form: its nodes and edges fit together and have one. -/
def Path.Encodable (names : Names) : Path → Prop
  | ⟨nodes, edges⟩ =>
      Path.Fits nodes.length edges.length ∧
        Node.AllEncodable names nodes ∧ Edge.AllEncodable names edges

def Node.AllEncodable (names : Names) : List Node → Prop
  | [] => True
  | node :: rest => Node.Encodable names node ∧ Node.AllEncodable names rest

def Edge.AllEncodable (names : Names) : List Edge → Prop
  | [] => True
  | edge :: rest => Edge.Encodable names edge ∧ Edge.AllEncodable names rest

end

/-- A value may stand in a column of a kind and has a compact form there. -/
def ColumnKind.Holds (names : Names) : ColumnKind → Value → Prop
  | .scalar, value => value.Encodable names
  | .node, .node entity => entity.Encodable names
  | .relation, .edge entity => entity.Encodable names
  | .unknown, .null => True
  | _, _ => False

/-- A row has one value per column, each of the kind of its column. -/
def Row.Holds (names : Names) (columns : List Column) (row : List Value) : Prop :=
  List.Forall₂ (fun column value => column.kind.Holds names value) columns row

variable {names : Names}

theorem Value.pairsEncodable_iff {pairs : List (String × Value)} :
    Value.PairsEncodable names pairs ↔ ∀ pair ∈ pairs, pair.2.Encodable names := by
  induction pairs with
  | nil => simp [PairsEncodable]
  | cons pair rest ih =>
      obtain ⟨name, value⟩ := pair
      rw [PairsEncodable, ih, List.forall_mem_cons]

theorem Value.itemsEncodable_nodes {nodes : List Node} :
    Value.ItemsEncodable names (nodes.map .node) ↔ Node.AllEncodable names nodes := by
  induction nodes with
  | nil => rfl
  | cons node rest ih => rw [List.map_cons, ItemsEncodable, Encodable, ih, Node.AllEncodable]

theorem Value.itemsEncodable_edges {edges : List Edge} :
    Value.ItemsEncodable names (edges.map .edge) ↔ Edge.AllEncodable names edges := by
  induction edges with
  | nil => rfl
  | cons edge rest ih => rw [List.map_cons, ItemsEncodable, Encodable, ih, Edge.AllEncodable]

theorem Names.exists_sent
    (kind : Kind)
    {name : String}
    (hMem : name ∈ names.of kind) :
    ∃ reply, names.Sent kind name reply := by
  obtain ⟨index, hIndex⟩ := List.mem_iff_getElem?.mp hMem
  exact ⟨.integer index, index, hIndex, rfl⟩

theorem Names.exists_allSent
    (kind : Kind)
    {sent : List String}
    (hMem : ∀ name ∈ sent, name ∈ names.of kind) :
    ∃ replies, List.Forall₂ (names.Sent kind) sent replies := by
  induction sent with
  | nil => exact ⟨[], .nil⟩
  | cons name rest ih =>
      obtain ⟨hName, hRest⟩ := List.forall_mem_cons.mp hMem
      obtain ⟨reply, hReply⟩ := exists_sent kind hName
      obtain ⟨replies, hReplies⟩ := ih hRest
      exact ⟨reply :: replies, .cons hReply hReplies⟩

mutual

theorem Value.exists_sent :
    ∀ value : Value, value.Encodable names → ∃ tag payload, Value.Sent names value tag payload
  | .null, _ => ⟨_, .nil, .null .nil⟩
  | .boolean value, _ => ⟨_, _, .boolean value⟩
  | .integer n, _ => ⟨_, _, .integer n⟩
  | .double x, _ => ⟨_, _, .double x⟩
  | .string text, _ => ⟨_, _, .string text⟩
  | .point position, _ => ⟨_, _, .point position⟩
  | .uninterpreted tag payload, _ => ⟨_, _, .uninterpreted tag payload⟩
  | .array items, hItems => by
      obtain ⟨replies, hSent⟩ := Value.exists_sentItems items hItems
      exact ⟨_, _, .array hSent⟩
  | .map entries, hEntries => by
      obtain ⟨replies, hSent⟩ := Value.exists_sentEntries entries hEntries.2
      exact ⟨_, _, .map (List.Perm.refl _) hSent⟩
  | .node node, hNode => by
      obtain ⟨payload, hSent⟩ := Node.exists_sent node hNode
      exact ⟨_, _, .node hSent⟩
  | .edge edge, hEdge => by
      obtain ⟨payload, hSent⟩ := Edge.exists_sent edge hEdge
      exact ⟨_, _, .edge hSent⟩
  | .path ⟨nodes, edges⟩, hPath => by
      obtain ⟨-, hNodes, hEdges⟩ := hPath
      obtain ⟨nodeReplies, hSentNodes⟩ := Node.exists_sentItems nodes hNodes
      obtain ⟨edgeReplies, hSentEdges⟩ := Edge.exists_sentItems edges hEdges
      exact ⟨_, _, .path (.array hSentNodes) (.array hSentEdges)⟩

theorem Value.exists_sentItems :
    ∀ items : List Value, Value.ItemsEncodable names items →
      ∃ replies, Value.SentItems names items replies
  | [], _ => ⟨_, .nil⟩
  | item :: rest, hItems => by
      obtain ⟨tag, payload, hSent⟩ := Value.exists_sent item hItems.1
      obtain ⟨replies, hRest⟩ := Value.exists_sentItems rest hItems.2
      exact ⟨_, .cons hSent hRest⟩

theorem Value.exists_sentEntries :
    ∀ entries : List (String × Value), Value.PairsEncodable names entries →
      ∃ replies, Value.SentEntries names entries replies
  | [], _ => ⟨_, .nil⟩
  | (key, value) :: rest, hEntries => by
      obtain ⟨tag, payload, hSent⟩ := Value.exists_sent value hEntries.1
      obtain ⟨replies, hRest⟩ := Value.exists_sentEntries rest hEntries.2
      exact ⟨_, .cons hSent hRest⟩

theorem Value.exists_sentTriples :
    ∀ properties : List (String × Value), Value.PairsEncodable names properties →
      (∀ name ∈ Fields.names properties, name ∈ names.propertyKeys) →
      ∃ replies, Value.SentTriples names properties replies
  | [], _, _ => ⟨_, .nil⟩
  | (name, value) :: rest, hValues, hNames => by
      obtain ⟨hName, hRestNames⟩ := List.forall_mem_cons.mp hNames
      obtain ⟨key, hKey⟩ := Names.exists_sent .propertyKey hName
      obtain ⟨tag, payload, hSent⟩ := Value.exists_sent value hValues.1
      obtain ⟨replies, hRest⟩ := Value.exists_sentTriples rest hValues.2 hRestNames
      exact ⟨_, .cons hKey hSent hRest⟩

theorem Node.exists_sent :
    ∀ node : Node, node.Encodable names → ∃ reply, Node.Sent names node reply
  | ⟨id, labels, properties⟩, hNode => by
      obtain ⟨-, hLabels, -, hNames, hValues⟩ := hNode
      obtain ⟨indices, hIndices⟩ := Names.exists_allSent .label hLabels
      obtain ⟨replies, hReplies⟩ := Value.exists_sentTriples properties hValues hNames
      exact ⟨_, .mk id hIndices (List.Perm.refl _) hReplies⟩

theorem Edge.exists_sent :
    ∀ edge : Edge, edge.Encodable names → ∃ reply, Edge.Sent names edge reply
  | ⟨id, type, source, destination, properties⟩, hEdge => by
      obtain ⟨hType, -, hNames, hValues⟩ := hEdge
      obtain ⟨index, hIndex⟩ := Names.exists_sent .relationshipType hType
      obtain ⟨replies, hReplies⟩ := Value.exists_sentTriples properties hValues hNames
      exact ⟨_, .mk id source destination hIndex (List.Perm.refl _) hReplies⟩

theorem Node.exists_sentItems :
    ∀ nodes : List Node, Node.AllEncodable names nodes →
      ∃ replies, Value.SentItems names (nodes.map .node) replies
  | [], _ => ⟨_, .nil⟩
  | node :: rest, hNodes => by
      obtain ⟨payload, hSent⟩ := Node.exists_sent node hNodes.1
      obtain ⟨replies, hRest⟩ := Node.exists_sentItems rest hNodes.2
      exact ⟨_, .cons (.node hSent) hRest⟩

theorem Edge.exists_sentItems :
    ∀ edges : List Edge, Edge.AllEncodable names edges →
      ∃ replies, Value.SentItems names (edges.map .edge) replies
  | [], _ => ⟨_, .nil⟩
  | edge :: rest, hEdges => by
      obtain ⟨payload, hSent⟩ := Edge.exists_sent edge hEdges.1
      obtain ⟨replies, hRest⟩ := Edge.exists_sentItems rest hEdges.2
      exact ⟨_, .cons (.edge hSent) hRest⟩

end

theorem Cell.exists_sent
    {kind : ColumnKind}
    {value : Value}
    (hHolds : kind.Holds names value) :
    ∃ reply, Cell.Sent names kind value reply := by
  cases kind with
  | scalar =>
      obtain ⟨tag, payload, hSent⟩ := value.exists_sent hHolds
      exact ⟨_, .scalar hSent⟩
  | node =>
      cases value <;> try exact hHolds.elim
      obtain ⟨reply, hSent⟩ := Node.exists_sent _ hHolds
      exact ⟨_, .node hSent⟩
  | relation =>
      cases value <;> try exact hHolds.elim
      obtain ⟨reply, hSent⟩ := Edge.exists_sent _ hHolds
      exact ⟨_, .relation hSent⟩
  | unknown =>
      cases value <;> try exact hHolds.elim
      exact ⟨_, .unknown .nil⟩

theorem Row.exists_sent
    {columns : List Column}
    {row : List Value}
    (hHolds : Row.Holds names columns row) :
    ∃ replies, Row.Sent names columns row replies := by
  induction hHolds with
  | nil => exact ⟨[], .nil⟩
  | cons hCell _ ih =>
      obtain ⟨reply, hReply⟩ := Cell.exists_sent hCell
      obtain ⟨replies, hReplies⟩ := ih
      exact ⟨_, .cons hReply hReplies⟩

theorem Row.exists_allSent
    {columns : List Column}
    {rows : List (List Value)}
    (hRows : ∀ row ∈ rows, Row.Holds names columns row) :
    ∃ sent, List.Forall₂ (Row.Sent names columns) rows sent := by
  induction rows with
  | nil => exact ⟨[], .nil⟩
  | cons row rest ih =>
      obtain ⟨hRow, hRest⟩ := List.forall_mem_cons.mp hRows
      obtain ⟨replies, hReplies⟩ := Row.exists_sent hRow
      obtain ⟨sent, hSent⟩ := ih hRest
      exact ⟨_, .cons hReplies hSent⟩

end GraphClient
