import GraphClient.Proofs.Schema.Fetches
import GraphClient.Proofs.Value.Items

/-!
# What is not read

Two things in a reply are ignored: what a null carries, and the cells of a column without a kind.
They may be anything, also what could not be read in any other place.

**Alike replies.**  Two replies are alike if the one comes from the other by exchanging such parts,
in any number of places and at any depth.  There is one relation for each thing that is read.

* `Value.Alike` and `Payload.Alike` compare values, behind their tags and under a given tag.
* `Triple.Alike`, `Node.Alike` and `Edge.Alike` compare properties and entities.
* `Cell.Alike`, `Row.Alike` and `Table.Alike` go down from the reply to a query to its cells.

**Results.**  Alike replies are read by the same requests for names, whoever answers
(`Value.ofReply_eq_of_alike`, `Table.ofReply_eq_of_alike`).  So a part that is not read has no
influence on the outcome, on the cache or on what is fetched (`Backed.decode_alike`).
-/

namespace GraphClient

mutual

/-- Two values behind their tags differ in what is not read. -/
inductive Value.Alike : Reply → Reply → Prop
  | refl (reply : Reply) : Value.Alike reply reply
  | tagged {sent payload other : Reply} {tag : Tag} :
      sentTag "scalar type" sent = .ok tag →
      Payload.Alike tag payload other →
      Value.Alike (.array [sent, payload]) (.array [sent, other])

/-- Two payloads under a tag differ in what is not read. -/
inductive Payload.Alike : Tag → Reply → Reply → Prop
  | refl (tag : Tag) (payload : Reply) : Payload.Alike tag payload payload
  | null (payload other : Reply) : Payload.Alike .null payload other
  | array {items others : List Reply} :
      Value.AlikeItems items others →
      Payload.Alike .array (.array items) (.array others)
  | map {entries others : List Reply} :
      Value.AlikeEntries entries others →
      Payload.Alike .map (.array entries) (.array others)
  | node {payload other : Reply} :
      Node.Alike payload other →
      Payload.Alike .node payload other
  | edge {payload other : Reply} :
      Edge.Alike payload other →
      Payload.Alike .edge payload other
  | path {nodes nodes' edges edges' : Reply} :
      Value.Alike nodes nodes' →
      Value.Alike edges edges' →
      Payload.Alike .path (.array [nodes, edges]) (.array [nodes', edges'])

/-- The items of two arrays differ in what is not read. -/
inductive Value.AlikeItems : List Reply → List Reply → Prop
  | nil : Value.AlikeItems [] []
  | cons {item other : Reply} {items others : List Reply} :
      Value.Alike item other →
      Value.AlikeItems items others →
      Value.AlikeItems (item :: items) (other :: others)

/-- The entries of two maps have the same keys and differ in what is not read of the values. -/
inductive Value.AlikeEntries : List Reply → List Reply → Prop
  | refl (entries : List Reply) : Value.AlikeEntries entries entries
  | cons (key : Reply) {item other : Reply} {entries others : List Reply} :
      Value.Alike item other →
      Value.AlikeEntries entries others →
      Value.AlikeEntries (key :: item :: entries) (key :: other :: others)

/-- Two properties have the same key and tag and differ in what is not read. -/
inductive Triple.Alike : Reply → Reply → Prop
  | refl (triple : Reply) : Triple.Alike triple triple
  | tagged (key : Reply) {sent payload other : Reply} {tag : Tag} :
      sentTag "property type" sent = .ok tag →
      Payload.Alike tag payload other →
      Triple.Alike (.array [key, sent, payload]) (.array [key, sent, other])

inductive Triple.AlikeAll : List Reply → List Reply → Prop
  | nil : Triple.AlikeAll [] []
  | cons {triple other : Reply} {triples others : List Reply} :
      Triple.Alike triple other →
      Triple.AlikeAll triples others →
      Triple.AlikeAll (triple :: triples) (other :: others)

/-- Two nodes differ in what is not read of their properties. -/
inductive Node.Alike : Reply → Reply → Prop
  | mk (id labels : Reply) {triples others : List Reply} :
      Triple.AlikeAll triples others →
      Node.Alike (.array [id, labels, .array triples]) (.array [id, labels, .array others])

/-- Two edges differ in what is not read of their properties. -/
inductive Edge.Alike : Reply → Reply → Prop
  | mk (id type source destination : Reply) {triples others : List Reply} :
      Triple.AlikeAll triples others →
      Edge.Alike (.array [id, type, source, destination, .array triples])
        (.array [id, type, source, destination, .array others])

end

/-- Two cells of a column of a kind differ in what is not read. -/
inductive Cell.Alike : ColumnKind → Reply → Reply → Prop
  | refl (kind : ColumnKind) (cell : Reply) : Cell.Alike kind cell cell
  | unknown (cell other : Reply) : Cell.Alike .unknown cell other
  | scalar {cell other : Reply} : Value.Alike cell other → Cell.Alike .scalar cell other
  | node {cell other : Reply} : Node.Alike cell other → Cell.Alike .node cell other
  | relation {cell other : Reply} : Edge.Alike cell other → Cell.Alike .relation cell other

/-- Cells of the same columns differ in what is not read. -/
inductive Row.AlikeCells : List Column → List Reply → List Reply → Prop
  | refl (columns : List Column) (cells : List Reply) : Row.AlikeCells columns cells cells
  | cons {column : Column} {cell other : Reply} {columns : List Column}
      {cells others : List Reply} :
      Cell.Alike column.kind cell other →
      Row.AlikeCells columns cells others →
      Row.AlikeCells (column :: columns) (cell :: cells) (other :: others)

/-- Two rows under the same columns differ in what is not read. -/
inductive Row.Alike (columns : List Column) : Reply → Reply → Prop
  | refl (row : Reply) : Row.Alike columns row row
  | cells {cells others : List Reply} :
      Row.AlikeCells columns cells others →
      Row.Alike columns (.array cells) (.array others)

/-- Two replies to a query differ in what is not read. -/
inductive Table.Alike : Reply → Reply → Prop
  | refl (reply : Reply) : Table.Alike reply reply
  | rows {header statistics : Reply} {columns : List Column} {rows others : List Reply} :
      Column.listOfReply header = .ok columns →
      List.Forall₂ (Row.Alike columns) rows others →
      Table.Alike (.array [header, .array rows, statistics])
        (.array [header, .array others, statistics])

theorem Value.AlikeEntries.length_eq {entries others : List Reply} :
    Value.AlikeEntries entries others → entries.length = others.length
  | .refl _ => rfl
  | .cons _ _ hRest => by
      rw [List.length_cons, List.length_cons, List.length_cons, List.length_cons, hRest.length_eq]

mutual

/-- Values that are alike are read alike. -/
theorem Value.ofReply_eq_of_alike {reply other : Reply} :
    Value.Alike reply other → Value.ofReply reply = Value.ofReply other
  | .refl _ => rfl
  | .tagged hTag hPayload => by
      rw [Value.ofReply, Value.ofReply, hTag, Lookup.lift_ok, Lookup.done_bind, Lookup.done_bind,
        Payload.ofTagged_eq_of_alike hPayload]

theorem Payload.ofTagged_eq_of_alike {tag : Tag} {payload other : Reply} :
    Payload.Alike tag payload other → Value.ofTagged tag payload = Value.ofTagged tag other
  | .refl _ _ => rfl
  | .null _ _ => by rw [Value.ofTagged, Value.ofTagged]
  | .array hItems => by
      rw [Value.ofTagged, Value.ofTagged, Value.ofReplies_eq_of_alike hItems]
  | .map hEntries => by
      rw [Value.ofTagged, Value.ofTagged, hEntries.length_eq,
        Value.ofEntries_eq_of_alike hEntries]
  | .node hNode => by
      rw [Value.ofTagged_node, Value.ofTagged_node, Node.ofReply_eq_of_alike hNode]
  | .edge hEdge => by
      rw [Value.ofTagged_edge, Value.ofTagged_edge, Edge.ofReply_eq_of_alike hEdge]
  | .path hNodes hEdges => by
      rw [Value.ofTagged, Value.ofTagged, Value.ofReply_eq_of_alike hNodes,
        Value.ofReply_eq_of_alike hEdges]

theorem Value.ofReplies_eq_of_alike {items others : List Reply} :
    Value.AlikeItems items others → Value.ofReplies items = Value.ofReplies others
  | .nil => rfl
  | .cons hItem hItems => by
      rw [Value.ofReplies, Value.ofReplies, Value.ofReply_eq_of_alike hItem,
        Value.ofReplies_eq_of_alike hItems]

theorem Value.ofEntries_eq_of_alike {entries others : List Reply} :
    Value.AlikeEntries entries others → Value.ofEntries entries = Value.ofEntries others
  | .refl _ => rfl
  | .cons _ hItem hEntries => by
      rw [Value.ofEntries, Value.ofEntries, Value.ofReply_eq_of_alike hItem,
        Value.ofEntries_eq_of_alike hEntries]

theorem Triple.ofTriple_eq_of_alike {triple other : Reply} :
    Triple.Alike triple other → Value.ofTriple triple = Value.ofTriple other
  | .refl _ => rfl
  | .tagged _ hTag hPayload => by
      rw [Value.ofTriple, Value.ofTriple, hTag]
      simp only [Lookup.lift_ok, Lookup.done_bind, Payload.ofTagged_eq_of_alike hPayload]

theorem Triple.ofTriples_eq_of_alike {triples others : List Reply} :
    Triple.AlikeAll triples others → Value.ofTriples triples = Value.ofTriples others
  | .nil => rfl
  | .cons hTriple hTriples => by
      rw [Value.ofTriples_eq_mapM, Value.ofTriples_eq_mapM, List.mapM_cons, List.mapM_cons,
        Triple.ofTriple_eq_of_alike hTriple, ← Value.ofTriples_eq_mapM, ← Value.ofTriples_eq_mapM,
        Triple.ofTriples_eq_of_alike hTriples]

theorem Node.ofReply_eq_of_alike {reply other : Reply} :
    Node.Alike reply other → Node.ofReply reply = Node.ofReply other
  | .mk _ _ hTriples => by
      rw [Node.ofReply, Node.ofReply, Value.ofProperties, Value.ofProperties,
        Triple.ofTriples_eq_of_alike hTriples]

theorem Edge.ofReply_eq_of_alike {reply other : Reply} :
    Edge.Alike reply other → Edge.ofReply reply = Edge.ofReply other
  | .mk _ _ _ _ hTriples => by
      rw [Edge.ofReply, Edge.ofReply, Value.ofProperties, Value.ofProperties,
        Triple.ofTriples_eq_of_alike hTriples]

end

theorem cellOfReply_eq_of_alike {kind : ColumnKind} {cell other : Reply} :
    Cell.Alike kind cell other → cellOfReply kind cell = cellOfReply kind other
  | .refl _ _ => rfl
  | .unknown _ _ => rfl
  | .scalar hValue => Value.ofReply_eq_of_alike hValue
  | .node hNode => by rw [cellOfReply, cellOfReply, Node.ofReply_eq_of_alike hNode]
  | .relation hEdge => by rw [cellOfReply, cellOfReply, Edge.ofReply_eq_of_alike hEdge]

section Rows

variable {columns : List Column}

theorem Row.AlikeCells.length_eq
    {cells others : List Reply}
    (hCells : Row.AlikeCells columns cells others) :
    cells.length = others.length := by
  induction hCells with
  | refl columns cells => rfl
  | cons _ _ ih => rw [List.length_cons, List.length_cons, ih]

theorem cellsOfReplies_eq_of_alike
    {cells others : List Reply}
    (hCells : Row.AlikeCells columns cells others) :
    cellsOfReplies columns cells = cellsOfReplies columns others := by
  induction hCells with
  | refl columns cells => rfl
  | cons hCell _ ih => rw [cellsOfReplies, cellsOfReplies, cellOfReply_eq_of_alike hCell, ih]

theorem rowOfReply_eq_of_alike {row other : Reply} :
    Row.Alike columns row other → rowOfReply columns row = rowOfReply columns other
  | .refl _ => rfl
  | .cells hCells => by
      simp only [rowOfReply, Reply.toItems, Lookup.lift_ok, Lookup.done_bind, hCells.length_eq,
        cellsOfReplies_eq_of_alike hCells]

theorem rowsOfReplies_eq_of_alike
    {rows others : List Reply}
    (hRows : List.Forall₂ (Row.Alike columns) rows others) :
    rowsOfReplies columns rows = rowsOfReplies columns others := by
  induction hRows with
  | nil => rfl
  | cons hRow _ ih => rw [rowsOfReplies, rowsOfReplies, rowOfReply_eq_of_alike hRow, ih]

end Rows

namespace Table

variable {reply other : Reply}

theorem serverError?_eq_of_alike : Alike reply other → reply.serverError? = other.serverError?
  | .refl _ => rfl
  | .rows _ _ => rfl

theorem ofReply_eq_of_alike : Alike reply other → ofReply reply = ofReply other
  | .refl _ => rfl
  | .rows hColumns hRows => by
      simp only [ofReply, Reply.toItems, Lookup.lift_ok, Lookup.done_bind, hColumns,
        rowsOfReplies_eq_of_alike hRows]

theorem decode_eq_of_alike
    {σ : Type}
    (resolve : Kind → Nat → Attempt σ String)
    (hAlike : Alike reply other) :
    decode resolve reply = decode resolve other := by
  rw [decode, decode, serverError?_eq_of_alike hAlike, ofReply_eq_of_alike hAlike]

end Table

/--
**What is not read has no influence.**  Let two replies differ in what nulls carry, at any depth,
and in the cells of columns without a kind, in any number of places.  Then they are read to the
same outcome, be it a table or a failure.  The cache ends the same, with its counters, and so does
the server, and the same lists are fetched in the same order with the same outcomes.
-/
theorem Backed.decode_alike
    {σ : Type}
    (fetch : Fetch σ)
    (backed : Backed σ)
    {reply other : Reply}
    (hAlike : Table.Alike reply other) :
    (decode fetch reply).on backed = (decode fetch other).on backed ∧
      fetches fetch reply backed = fetches fetch other backed := by
  constructor
  · rw [decode, decode, Table.decode_eq_of_alike _ hAlike]
  · rw [fetches, fetches, decode, decode, Table.decode_eq_of_alike _ hAlike]

namespace Sample

/-- A reply with a null in an array and a cell in a column without a kind. -/
def hollow (carried cell : Reply) : Reply :=
  .array
    [.array [.array [.integer 1, .ofText "list"], .array [.integer 0, .ofText "more"]],
     .array [.array [.tagged .array (.array [.tagged .null carried]), cell]],
     .nil]

theorem alike_hollow (carried carried' cell cell' : Reply) :
    Table.Alike (hollow carried cell) (hollow carried' cell') := by
  have hValue : Value.Alike
      (.tagged .array (.array [.tagged .null carried]))
      (.tagged .array (.array [.tagged .null carried'])) :=
    .tagged rfl (.array (.cons (.tagged rfl (.null carried carried')) .nil))
  have hCells : Row.AlikeCells [⟨"list", .scalar⟩, ⟨"more", .unknown⟩]
      [.tagged .array (.array [.tagged .null carried]), cell]
      [.tagged .array (.array [.tagged .null carried']), cell'] :=
    .cons (.scalar hValue) (.cons (.unknown cell cell') (.refl [] []))
  exact .rows rfl (.cons (.cells hCells) .nil)

end Sample

/-- A node with labels that do not exist and an error are not read where nothing is. -/
theorem Backed.decode_alike_sample :
    (decode (fetchFrom Server.source)
      (Sample.hollow
        (.tagged .node (.array [.integer 7, .array [.integer 99, .integer (-3)], .nil]))
        (.error "no cell"))).on ⟨Sample.cache, Sample.server⟩ =
      (.ok ⟨[⟨"list", .scalar⟩, ⟨"more", .unknown⟩], [[.array [.null], .null]], .empty⟩,
        ⟨Sample.cache, Sample.server⟩) := by
  obtain ⟨hSame, -⟩ := decode_alike (fetchFrom Server.source) ⟨Sample.cache, Sample.server⟩
    (Sample.alike_hollow
      (.tagged .node (.array [.integer 7, .array [.integer 99, .integer (-3)], .nil])) .nil
      (.error "no cell") .nil)
  exact hSame.trans rfl

end GraphClient
