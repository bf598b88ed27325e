import GraphClient.Schema.Cache

/-!
# Indices that are reached

A reply is read from front to back, and the first thing in it that cannot be read ends the
reading.  So an index that stands for a name is *reached* if all that is read before it
can be read, and otherwise nothing comes of it.

**Reaching.**  `Reaches` follows the readers of tables, rows, cells and values down to one
index.  It has a case for each place in which a reader goes on to a part, and each case
says what has been read by then: shapes that need no names, and parts that have yielded
a value through the resolver and left a state.

**Results.**  What an index that is reached fails with, the whole reading fails with, in
the same state (`Reaches.fails`).
-/

namespace GraphClient

namespace Lookup

variable {σ α β : Type} {resolve : Kind → Nat → Attempt σ String}

theorem run_bind
    (resolve : Kind → Nat → Attempt σ String)
    (reading : Lookup α)
    (next : α → Lookup β) :
    (reading >>= next).run resolve =
      reading.run resolve >>= fun value => (next value).run resolve := by
  induction reading with
  | done value => rw [done_bind, run, pure_bind]
  | fail reason => rfl
  | need kind index rest ih =>
      rw [need_bind, run, run, LawfulMonad.bind_assoc]
      exact bind_congr ih

theorem run_pure (resolve : Kind → Nat → Attempt σ String) (value : α) :
    (pure value : Lookup α).run resolve = pure value := rfl

/-- Started in a state, the reading yields a value and leaves another state. -/
def Yields
    (resolve : Kind → Nat → Attempt σ String)
    (reading : Lookup α)
    (state : σ)
    (value : α)
    (after : σ) :
    Prop :=
  (reading.run resolve).on state = (.ok value, after)

/-- Started in a state, the reading fails and leaves another state. -/
def Fails
    (resolve : Kind → Nat → Attempt σ String)
    (reading : Lookup α)
    (state : σ)
    (failure : Failure)
    (after : σ) :
    Prop :=
  (reading.run resolve).on state = (.error failure, after)

variable {reading : Lookup α} {next : α → Lookup β} {value : α} {failure : Failure}
variable {state middle after : σ}

theorem Fails.bind (hFails : reading.Fails resolve state failure after) :
    (reading >>= next).Fails resolve state failure after := by
  rw [Fails, run_bind, Attempt.on_bind, hFails]

theorem Yields.bind
    (hYields : reading.Yields resolve state value middle)
    (hFails : (next value).Fails resolve middle failure after) :
    (reading >>= next).Fails resolve state failure after := by
  rw [Fails, run_bind, Attempt.on_bind, hYields]
  exact hFails

/-- What needs no name leaves the state as it is. -/
theorem Fails.lift
    {outcome : Except Malformed α}
    (hOk : outcome = .ok value)
    (hFails : (next value).Fails resolve state failure after) :
    (liftM outcome >>= next).Fails resolve state failure after := by
  subst hOk
  exact hFails

end Lookup

/-- An index in a reply, and the state in which the reading comes to it. -/
structure Spot (σ : Type) where
  kind : Kind
  context : String
  sent : Reply
  state : σ

namespace Spot

def reading {σ : Type} (spot : Spot σ) : Lookup String :=
  sentName spot.kind spot.context spot.sent

end Spot

section Reaching

variable {σ : Type}

/-- Started in a state, the reading comes to the index at a spot. -/
inductive Reaches
    (resolve : Kind → Nat → Attempt σ String)
    (spot : Spot σ) :
    {α : Type} → Lookup α → σ → Prop
  | here : Reaches resolve spot spot.reading spot.state
  -- Names
  | firstName {kind : Kind} {context : String} {reply : Reply} {rest : List Reply} {state : σ} :
      Reaches resolve spot (sentName kind context reply) state →
      Reaches resolve spot (sentNames kind context (reply :: rest)) state
  | laterName {kind : Kind} {context name : String} {reply : Reply} {rest : List Reply}
      {state middle : σ} :
      (sentName kind context reply).Yields resolve state name middle →
      Reaches resolve spot (sentNames kind context rest) middle →
      Reaches resolve spot (sentNames kind context (reply :: rest)) state
  -- Parts of entities
  | nodeLabels {id labels : Reply} {properties : Lookup (Fields Value)} {number : Int}
      {items : List Reply} {state : σ} :
      id.toInteger "node id" = .ok number →
      labels.toItems "node labels" = .ok items →
      Reaches resolve spot (sentNames .label "node label id" items) state →
      Reaches resolve spot (Node.assemble id labels properties) state
  | nodeProperties {id labels : Reply} {properties : Lookup (Fields Value)} {number : Int}
      {items : List Reply} {names : List String} {state middle : σ} :
      id.toInteger "node id" = .ok number →
      labels.toItems "node labels" = .ok items →
      (sentNames .label "node label id" items).Yields resolve state names middle →
      Reaches resolve spot properties middle →
      Reaches resolve spot (Node.assemble id labels properties) state
  | edgeType {id type source destination : Reply} {properties : Lookup (Fields Value)}
      {state : σ} :
      Reaches resolve spot (sentName .relationshipType "edge type id" type) state →
      Reaches resolve spot (Edge.assemble id type source destination properties) state
  | edgeProperties {id type source destination : Reply} {properties : Lookup (Fields Value)}
      {name : String} {number start finish : Int} {state middle : σ} :
      (sentName .relationshipType "edge type id" type).Yields resolve state name middle →
      id.toInteger "edge id" = .ok number →
      source.toInteger "edge source" = .ok start →
      destination.toInteger "edge destination" = .ok finish →
      Reaches resolve spot properties middle →
      Reaches resolve spot (Edge.assemble id type source destination properties) state
  | pathNodes {nodes edges : Lookup Value} {state : σ} :
      Reaches resolve spot nodes state →
      Reaches resolve spot (Path.assemble nodes edges) state
  | pathEdges {nodes edges : Lookup Value} {value : Value} {walked : List Node}
      {state middle : σ} :
      nodes.Yields resolve state value middle →
      entitiesOf Value.node? "path nodes" "path node" value = .ok walked →
      Reaches resolve spot edges middle →
      Reaches resolve spot (Path.assemble nodes edges) state
  -- Values behind their tags
  | value {sent payload : Reply} {tag : Tag} {state : σ} :
      sentTag "scalar type" sent = .ok tag →
      Reaches resolve spot (Value.ofTagged tag payload) state →
      Reaches resolve spot (Value.ofReply (.array [sent, payload])) state
  | taggedArray {items : List Reply} {state : σ} :
      Reaches resolve spot (Value.ofReplies items) state →
      Reaches resolve spot (Value.ofTagged .array (.array items)) state
  | taggedMap {items : List Reply} {state : σ} :
      items.length % 2 = 0 →
      Reaches resolve spot (Value.ofEntries items) state →
      Reaches resolve spot (Value.ofTagged .map (.array items)) state
  | taggedNode {id labels properties : Reply} {state : σ} :
      Reaches resolve spot (Node.assemble id labels (Value.ofProperties properties)) state →
      Reaches resolve spot (Value.ofTagged .node (.array [id, labels, properties])) state
  | taggedEdge {id type source destination properties : Reply} {state : σ} :
      Reaches resolve spot
        (Edge.assemble id type source destination (Value.ofProperties properties)) state →
      Reaches resolve spot
        (Value.ofTagged .edge (.array [id, type, source, destination, properties])) state
  | taggedPath {nodes edges : Reply} {state : σ} :
      Reaches resolve spot (Path.assemble (Value.ofReply nodes) (Value.ofReply edges)) state →
      Reaches resolve spot (Value.ofTagged .path (.array [nodes, edges])) state
  | firstItem {item : Reply} {rest : List Reply} {state : σ} :
      Reaches resolve spot (Value.ofReply item) state →
      Reaches resolve spot (Value.ofReplies (item :: rest)) state
  | laterItem {item : Reply} {rest : List Reply} {value : Value} {state middle : σ} :
      (Value.ofReply item).Yields resolve state value middle →
      Reaches resolve spot (Value.ofReplies rest) middle →
      Reaches resolve spot (Value.ofReplies (item :: rest)) state
  | firstEntry {key item : Reply} {rest : List Reply} {text : String} {state : σ} :
      key.toText "map key" = .ok text →
      Reaches resolve spot (Value.ofReply item) state →
      Reaches resolve spot (Value.ofEntries (key :: item :: rest)) state
  | laterEntry {key item : Reply} {rest : List Reply} {text : String} {value : Value}
      {state middle : σ} :
      key.toText "map key" = .ok text →
      (Value.ofReply item).Yields resolve state value middle →
      Reaches resolve spot (Value.ofEntries rest) middle →
      Reaches resolve spot (Value.ofEntries (key :: item :: rest)) state
  -- Properties
  | properties {items : List Reply} {state : σ} :
      Reaches resolve spot (Value.ofTriples items) state →
      Reaches resolve spot (Value.ofProperties (.array items)) state
  | propertyKey {key sent payload : Reply} {rest : List Reply} {state : σ} :
      Reaches resolve spot (sentName .propertyKey "property key id" key) state →
      Reaches resolve spot (Value.ofTriples (.array [key, sent, payload] :: rest)) state
  | propertyValue {key sent payload : Reply} {rest : List Reply} {name : String} {tag : Tag}
      {state middle : σ} :
      (sentName .propertyKey "property key id" key).Yields resolve state name middle →
      sentTag "property type" sent = .ok tag →
      Reaches resolve spot (Value.ofTagged tag payload) middle →
      Reaches resolve spot (Value.ofTriples (.array [key, sent, payload] :: rest)) state
  | laterProperty {key sent payload : Reply} {rest : List Reply} {name : String} {tag : Tag}
      {value : Value} {state middle next : σ} :
      (sentName .propertyKey "property key id" key).Yields resolve state name middle →
      sentTag "property type" sent = .ok tag →
      (Value.ofTagged tag payload).Yields resolve middle value next →
      Reaches resolve spot (Value.ofTriples rest) next →
      Reaches resolve spot (Value.ofTriples (.array [key, sent, payload] :: rest)) state
  -- Cells, rows and tables
  | scalarCell {cell : Reply} {state : σ} :
      Reaches resolve spot (Value.ofReply cell) state →
      Reaches resolve spot (cellOfReply .scalar cell) state
  | nodeCell {id labels properties : Reply} {state : σ} :
      Reaches resolve spot (Node.assemble id labels (Value.ofProperties properties)) state →
      Reaches resolve spot (cellOfReply .node (.array [id, labels, properties])) state
  | relationCell {id type source destination properties : Reply} {state : σ} :
      Reaches resolve spot
        (Edge.assemble id type source destination (Value.ofProperties properties)) state →
      Reaches resolve spot
        (cellOfReply .relation (.array [id, type, source, destination, properties])) state
  | firstCell {column : Column} {columns : List Column} {cell : Reply} {rest : List Reply}
      {state : σ} :
      Reaches resolve spot (cellOfReply column.kind cell) state →
      Reaches resolve spot (cellsOfReplies (column :: columns) (cell :: rest)) state
  | laterCell {column : Column} {columns : List Column} {cell : Reply} {rest : List Reply}
      {value : Value} {state middle : σ} :
      (cellOfReply column.kind cell).Yields resolve state value middle →
      Reaches resolve spot (cellsOfReplies columns rest) middle →
      Reaches resolve spot (cellsOfReplies (column :: columns) (cell :: rest)) state
  | row {columns : List Column} {reply : Reply} {cells : List Reply} {state : σ} :
      reply.toItems "result row" = .ok cells →
      cells.length = columns.length →
      Reaches resolve spot (cellsOfReplies columns cells) state →
      Reaches resolve spot (rowOfReply columns reply) state
  | firstRow {columns : List Column} {reply : Reply} {rest : List Reply} {state : σ} :
      Reaches resolve spot (rowOfReply columns reply) state →
      Reaches resolve spot (rowsOfReplies columns (reply :: rest)) state
  | laterRow {columns : List Column} {reply : Reply} {rest : List Reply} {row : List Value}
      {state middle : σ} :
      (rowOfReply columns reply).Yields resolve state row middle →
      Reaches resolve spot (rowsOfReplies columns rest) middle →
      Reaches resolve spot (rowsOfReplies columns (reply :: rest)) state
  | table {header rows statistics : Reply} {columns : List Column} {items : List Reply}
      {state : σ} :
      Column.listOfReply header = .ok columns →
      rows.toItems "result rows" = .ok items →
      Reaches resolve spot (rowsOfReplies columns items) state →
      Reaches resolve spot (Table.ofReply (.array [header, rows, statistics])) state

/-- A reading fails with what an index fails with that it comes to, and in the same state. -/
theorem Reaches.fails
    {resolve : Kind → Nat → Attempt σ String}
    {spot : Spot σ}
    {failure : Failure}
    {after : σ}
    (hFails : spot.reading.Fails resolve spot.state failure after)
    {α : Type}
    {reading : Lookup α}
    {state : σ}
    (hReaches : Reaches resolve spot reading state) :
    reading.Fails resolve state failure after := by
  -- In each case the reader is unfolded and what comes before the part is passed over.
  induction hReaches with
  | here => exact hFails
  | firstName _ ih => exact ih.bind
  | laterName hName _ ih => exact hName.bind ih.bind
  | nodeLabels hId hLabels _ ih => exact .lift hId (.lift hLabels ih.bind)
  | nodeProperties hId hLabels hNames _ ih => exact .lift hId (.lift hLabels (hNames.bind ih.bind))
  | edgeType _ ih => exact ih.bind
  | edgeProperties hType hId hSource hDestination _ ih =>
      exact hType.bind (.lift hId (.lift hSource (.lift hDestination ih.bind)))
  | pathNodes _ ih => exact ih.bind
  | pathEdges hNodes hWalked _ ih => exact hNodes.bind (.lift hWalked ih.bind)
  | value hTag _ ih =>
      rw [Value.ofReply]
      exact .lift hTag ih
  | taggedArray _ ih | taggedNode _ ih | taggedEdge _ ih | taggedPath _ ih =>
      rw [Value.ofTagged]
      exact ih.bind
  | taggedMap hEven _ ih =>
      rw [Value.ofTagged, if_pos hEven]
      exact ih.bind
  | firstItem _ ih =>
      rw [Value.ofReplies]
      exact ih.bind
  | laterItem hItem _ ih =>
      rw [Value.ofReplies]
      exact hItem.bind ih.bind
  | firstEntry hKey _ ih =>
      rw [Value.ofEntries]
      exact .lift hKey ih.bind
  | laterEntry hKey hItem _ ih =>
      rw [Value.ofEntries]
      exact .lift hKey (hItem.bind ih.bind)
  | properties _ ih =>
      rw [Value.ofProperties]
      exact ih.bind
  | propertyKey _ ih =>
      rw [Value.ofTriples]
      exact ih.bind
  | propertyValue hKey hTag _ ih =>
      rw [Value.ofTriples]
      exact hKey.bind (.lift hTag ih.bind)
  | laterProperty hKey hTag hValue _ ih =>
      rw [Value.ofTriples]
      exact hKey.bind (.lift hTag (hValue.bind ih.bind))
  | scalarCell _ ih => exact ih
  | nodeCell _ ih => exact ih.bind
  | relationCell _ ih => exact ih.bind
  | firstCell _ ih => exact ih.bind
  | laterCell hCell _ ih => exact hCell.bind ih.bind
  | row hCells hWidth _ ih =>
      rw [rowOfReply]
      refine .lift hCells ?_
      rw [if_pos hWidth]
      exact ih
  | firstRow _ ih => exact ih.bind
  | laterRow hRow _ ih => exact hRow.bind ih.bind
  | table hColumns hItems _ ih => exact .lift rfl (.lift hColumns (.lift hItems ih.bind))

end Reaching

end GraphClient
