import GraphClient.Proofs.Fields
import GraphClient.Proofs.Schema.Transparency
import GraphClient.Proofs.Table.Lines
import GraphClient.Proofs.Wire.Form

/-!
# Reading undoes sending

A reply in the compact form of a table reads as that table, through any cache that
holds the beginnings of the lists of the server.

**Reading.**  By induction on the form of a value: what is read under its tag off the
whole lists is the value itself (`Value.direct_sent`).  The entries of a map and the
properties of an entity may come in any order, since a map sorts them.

**Results.**  `Table.decode_wire` puts the cells together to rows and tables, and the
cache in front of the lists (`Backed.decode_complete`).
-/

namespace GraphClient

namespace Lookup

variable {α β : Type} {names : Names}

theorem lift_ok (value : α) :
    (liftM (Except.ok value : Except Malformed α) : Lookup α) = .done value := rfl

theorem direct_done (value : α) : (Lookup.done value).direct names = .ok value := rfl

theorem direct_pure (value : α) : (pure value : Lookup α).direct names = .ok value := rfl

/-- A reading that yields a value hands it on. -/
theorem direct_bind_ok
    {reading : Lookup α}
    {value : α}
    (hReading : reading.direct names = .ok value)
    (next : α → Lookup β) :
    (reading >>= next).direct names = (next value).direct names := by
  rw [direct_bind, hReading]

end Lookup

variable {names : Names}

theorem sentTag_ordinal (context : String) (tag : Tag) :
    sentTag context (.integer tag.ordinal) = .ok tag :=
  Tag.ofOrdinal_ordinal tag

theorem Names.direct_sent
    {kind : Kind}
    {name : String}
    {reply : Reply}
    (context : String)
    (hSent : names.Sent kind name reply) :
    (sentName kind context reply).direct names = .ok name := by
  obtain ⟨index, hIndex, rfl⟩ := hSent
  change (Lookup.name kind index).direct names = .ok name
  simp only [Lookup.name, Lookup.direct, Lookup.nameIn, hIndex]

theorem Names.direct_allSent
    {kind : Kind}
    {sent : List String}
    {replies : List Reply}
    (context : String)
    (hSent : List.Forall₂ (names.Sent kind) sent replies) :
    (sentNames kind context replies).direct names = .ok sent := by
  induction hSent with
  | nil => rfl
  | cons hName _ ih =>
      rw [sentNames, Lookup.direct_bind_ok (direct_sent context hName),
        Lookup.direct_bind_ok ih, Lookup.direct_pure]

theorem Value.ofReply_tagged (tag : Tag) (payload : Reply) :
    Value.ofReply (.tagged tag payload) = Value.ofTagged tag payload := by
  rw [Reply.tagged, Value.ofReply, sentTag_ordinal, Lookup.lift_ok, Lookup.done_bind]

/-- A node behind its tag is read as a node without a tag. -/
theorem Value.ofTagged_node (payload : Reply) :
    Value.ofTagged .node payload = (Node.ofReply payload >>= fun node => pure (.node node)) := by
  unfold Node.ofReply
  split
  · rw [Value.ofTagged]
  · next hShape =>
      rw [Value.ofTagged, Lookup.fail_bind]
      exact hShape

/-- An edge behind its tag is read as an edge without a tag. -/
theorem Value.ofTagged_edge (payload : Reply) :
    Value.ofTagged .edge payload = (Edge.ofReply payload >>= fun edge => pure (.edge edge)) := by
  unfold Edge.ofReply
  split
  · rw [Value.ofTagged]
  · next hShape =>
      rw [Value.ofTagged, Lookup.fail_bind]
      exact hShape

theorem Value.ofTagged_kept {tag : Tag} (hTag : tag ∈ Tag.kept) (payload : Reply) :
    Value.ofTagged tag payload = .done (.uninterpreted tag payload) := by
  cases tag <;> simp [Tag.kept] at hTag <;> rw [Value.ofTagged] <;> rfl

theorem entitiesOf_map
    {α : Type}
    {select : Value → Option α}
    {wrap : α → Value}
    (hSelect : ∀ entity, select (wrap entity) = some entity)
    (listContext itemContext : String)
    (entities : List α) :
    entitiesOf select listContext itemContext (.array (entities.map wrap)) = .ok entities := by
  rw [entitiesOf]
  refine mapM_map_ok (fun entity => ?_) entities
  rw [hSelect]

theorem Path.direct_assemble
    {first second : Lookup Value}
    {nodes : List Node}
    {edges : List Edge}
    (hNodes : first.direct names = .ok (.array (nodes.map .node)))
    (hEdges : second.direct names = .ok (.array (edges.map .edge)))
    (hFits : Path.Fits nodes.length edges.length) :
    (Path.assemble first second).direct names = .ok ⟨nodes, edges⟩ := by
  have hNode : ∀ node, Value.node? (.node node) = some node := fun _ => rfl
  have hEdge : ∀ edge, Value.edge? (.edge edge) = some edge := fun _ => rfl
  rw [assemble, Lookup.direct_bind_ok hNodes, entitiesOf_map hNode, Lookup.lift_ok,
    Lookup.done_bind, Lookup.direct_bind_ok hEdges, entitiesOf_map hEdge, Lookup.lift_ok,
    Lookup.done_bind, ofLists, if_pos hFits, Lookup.lift_ok, Lookup.direct_done]

theorem Value.direct_ofProperties
    {replies : List Reply}
    {pairs properties : List (String × Value)}
    (hRead : (Value.ofTriples replies).direct names = .ok pairs)
    (hPerm : pairs.Perm properties)
    (hSorted : Fields.Sorted properties) :
    (Value.ofProperties (.array replies)).direct names = .ok properties := by
  rw [ofProperties, Lookup.direct_bind_ok hRead, Lookup.direct_pure,
    Fields.ofList_of_perm hSorted hPerm]

theorem Node.direct_assemble
    (id : Int)
    {indices : List Reply}
    {labels : List String}
    {reading : Lookup (Fields Value)}
    {properties : Fields Value}
    (hLabels : List.Forall₂ (names.Sent .label) labels indices)
    (hNodup : labels.Nodup)
    (hProperties : reading.direct names = .ok properties) :
    (Node.assemble (.integer id) (.array indices) reading).direct names =
      .ok ⟨id, labels, properties⟩ := by
  have hAdded := (Node.new id).addLabels_of_nodup labels hNodup
  rw [assemble, Reply.toInteger, Lookup.lift_ok, Lookup.done_bind, Reply.toItems,
    Lookup.lift_ok, Lookup.done_bind,
    Lookup.direct_bind_ok (Names.direct_allSent "node label id" hLabels),
    Lookup.direct_bind_ok hProperties, Lookup.direct_pure, hAdded]
  rfl

theorem Edge.direct_assemble
    (id source destination : Int)
    {index : Reply}
    {type : String}
    {reading : Lookup (Fields Value)}
    {properties : Fields Value}
    (hType : names.Sent .relationshipType type index)
    (hProperties : reading.direct names = .ok properties) :
    (Edge.assemble (.integer id) index (.integer source) (.integer destination) reading).direct
      names = .ok ⟨id, type, source, destination, properties⟩ := by
  rw [assemble, Lookup.direct_bind_ok (Names.direct_sent "edge type id" hType)]
  simp only [Reply.toInteger, Lookup.lift_ok, Lookup.done_bind]
  rw [Lookup.direct_bind_ok hProperties]
  rfl

theorem Value.even_length_sentEntries
    {pairs : List (String × Value)}
    {replies : List Reply} :
    Value.SentEntries names pairs replies → replies.length % 2 = 0
  | .nil => rfl
  | .cons _ hRest => by
      have hEven := Value.even_length_sentEntries hRest
      simp only [List.length_cons]
      omega

theorem Value.pairsEncodable_of_perm
    {pairs entries : List (String × Value)}
    (hPerm : pairs.Perm entries)
    (hEntries : Value.PairsEncodable names entries) :
    Value.PairsEncodable names pairs := by
  rw [pairsEncodable_iff] at hEntries ⊢
  exact fun pair hPair => hEntries pair (hPerm.mem_iff.mp hPair)

mutual

/-- **Reading undoes sending**, value by value. -/
theorem Value.direct_sent
    {value : Value}
    {tag : Tag}
    {payload : Reply} :
    Value.Sent names value tag payload → value.Encodable names →
      (Value.ofTagged tag payload).direct names = .ok value
  | .null payload, _ => by rw [Value.ofTagged, Lookup.direct_pure]
  | .boolean value, _ => by
      rw [Value.ofTagged, Reply.toText_ofText, Lookup.lift_ok, Lookup.done_bind]
      cases value <;> rfl
  | .integer n, _ => rfl
  | .double x, _ => rfl
  | .string text, _ => by
      rw [Value.ofTagged, Reply.toText_ofText, Lookup.lift_ok, Lookup.done_bind, Lookup.direct_pure]
  | .array hItems, hValue => by
      rw [Value.ofTagged, Lookup.direct_bind_ok (Value.direct_sentItems hItems hValue),
        Lookup.direct_pure]
  | .node hNode, hValue => by
      rw [Value.ofTagged_node, Lookup.direct_bind_ok (Node.direct_sent hNode hValue),
        Lookup.direct_pure]
  | .edge hEdge, hValue => by
      rw [Value.ofTagged_edge, Lookup.direct_bind_ok (Edge.direct_sent hEdge hValue),
        Lookup.direct_pure]
  | .path hNodes hEdges, hValue => by
      obtain ⟨hFits, hNodesValue, hEdgesValue⟩ := hValue
      have hReadNodes := Value.direct_sent hNodes (Value.itemsEncodable_nodes.mpr hNodesValue)
      have hReadEdges := Value.direct_sent hEdges (Value.itemsEncodable_edges.mpr hEdgesValue)
      rw [← Value.ofReply_tagged] at hReadNodes hReadEdges
      rw [Value.ofTagged,
        Lookup.direct_bind_ok (Path.direct_assemble hReadNodes hReadEdges hFits),
        Lookup.direct_pure]
  | .map hPerm hEntries, hValue => by
      obtain ⟨hSorted, hValues⟩ := hValue
      have hRead :=
        Value.direct_sentEntries hEntries (Value.pairsEncodable_of_perm hPerm hValues)
      rw [Value.ofTagged, if_pos (Value.even_length_sentEntries hEntries), Lookup.direct_bind_ok hRead,
        Lookup.direct_pure, Fields.ofList_of_perm hSorted hPerm]
  | .point position, _ => rfl
  | .uninterpreted tag payload, hTag => by
      rw [Value.ofTagged_kept hTag, Lookup.direct_done]

theorem Value.direct_sentItems
    {values : List Value}
    {replies : List Reply} :
    Value.SentItems names values replies → Value.ItemsEncodable names values →
      (Value.ofReplies replies).direct names = .ok values
  | .nil, _ => rfl
  | .cons hValue hValues, hItems => by
      have hRead := Value.direct_sent hValue hItems.1
      rw [← Value.ofReply_tagged] at hRead
      rw [Value.ofReplies, Lookup.direct_bind_ok hRead,
        Lookup.direct_bind_ok (Value.direct_sentItems hValues hItems.2), Lookup.direct_pure]

theorem Value.direct_sentEntries
    {pairs : List (String × Value)}
    {replies : List Reply} :
    Value.SentEntries names pairs replies → Value.PairsEncodable names pairs →
      (Value.ofEntries replies).direct names = .ok pairs
  | .nil, _ => rfl
  | .cons hValue hRest, hPairs => by
      have hRead := Value.direct_sent hValue hPairs.1
      rw [← Value.ofReply_tagged] at hRead
      rw [Value.ofEntries, Reply.toText_ofText, Lookup.lift_ok, Lookup.done_bind,
        Lookup.direct_bind_ok hRead,
        Lookup.direct_bind_ok (Value.direct_sentEntries hRest hPairs.2), Lookup.direct_pure]

theorem Value.direct_sentTriples
    {pairs : List (String × Value)}
    {replies : List Reply} :
    Value.SentTriples names pairs replies → Value.PairsEncodable names pairs →
      (Value.ofTriples replies).direct names = .ok pairs
  | .nil, _ => rfl
  | .cons hName hValue hRest, hPairs => by
      rw [Value.ofTriples, Lookup.direct_bind_ok (Names.direct_sent _ hName), sentTag_ordinal,
        Lookup.lift_ok, Lookup.done_bind,
        Lookup.direct_bind_ok (Value.direct_sent hValue hPairs.1),
        Lookup.direct_bind_ok (Value.direct_sentTriples hRest hPairs.2), Lookup.direct_pure]

theorem Node.direct_sent
    {node : Node}
    {reply : Reply} :
    Node.Sent names node reply → node.Encodable names →
      (Node.ofReply reply).direct names = .ok node
  | .mk id hLabels hPerm hTriples, hNode => by
      obtain ⟨hNodup, -, hSorted, -, hValues⟩ := hNode
      have hRead :=
        Value.direct_sentTriples hTriples (Value.pairsEncodable_of_perm hPerm hValues)
      rw [Node.ofReply]
      exact Node.direct_assemble id hLabels hNodup
        (Value.direct_ofProperties hRead hPerm hSorted)

theorem Edge.direct_sent
    {edge : Edge}
    {reply : Reply} :
    Edge.Sent names edge reply → edge.Encodable names →
      (Edge.ofReply reply).direct names = .ok edge
  | .mk id source destination hType hPerm hTriples, hEdge => by
      obtain ⟨-, hSorted, -, hValues⟩ := hEdge
      have hRead :=
        Value.direct_sentTriples hTriples (Value.pairsEncodable_of_perm hPerm hValues)
      rw [Edge.ofReply]
      exact Edge.direct_assemble id source destination hType
        (Value.direct_ofProperties hRead hPerm hSorted)

end

theorem Cell.direct_sent
    {kind : ColumnKind}
    {value : Value}
    {reply : Reply}
    (hSent : Cell.Sent names kind value reply)
    (hHolds : kind.Holds names value) :
    (cellOfReply kind reply).direct names = .ok value := by
  cases hSent with
  | scalar hValue =>
      rw [cellOfReply, Value.ofReply_tagged]
      exact Value.direct_sent hValue hHolds
  | node hNode =>
      rw [cellOfReply, Lookup.direct_bind_ok (Node.direct_sent hNode hHolds), Lookup.direct_pure]
  | relation hEdge =>
      rw [cellOfReply, Lookup.direct_bind_ok (Edge.direct_sent hEdge hHolds), Lookup.direct_pure]
  | unknown reply => rfl

namespace Row

variable {columns : List Column} {values : List Value} {replies : List Reply}

theorem Sent.length_eq (hSent : Row.Sent names columns values replies) :
    replies.length = columns.length := by
  induction hSent with
  | nil => rfl
  | cons _ _ ih => rw [List.length_cons, List.length_cons, ih]

theorem direct_sentCells
    (hSent : Row.Sent names columns values replies)
    (hHolds : Row.Holds names columns values) :
    (cellsOfReplies columns replies).direct names = .ok values := by
  induction hSent with
  | nil => rfl
  | cons hCell _ ih =>
      obtain ⟨hValue, hValues⟩ := List.forall₂_cons.mp hHolds
      rw [cellsOfReplies, Lookup.direct_bind_ok (Cell.direct_sent hCell hValue),
        Lookup.direct_bind_ok (ih hValues), Lookup.direct_pure]

theorem direct_sent
    (hSent : Row.Sent names columns values replies)
    (hHolds : Row.Holds names columns values) :
    (rowOfReply columns (.array replies)).direct names = .ok values := by
  rw [rowOfReply, Reply.toItems, Lookup.lift_ok, Lookup.done_bind, if_pos hSent.length_eq]
  exact direct_sentCells hSent hHolds

theorem direct_allSent
    {rows : List (List Value)}
    {sent : List (List Reply)}
    (hSent : List.Forall₂ (Row.Sent names columns) rows sent)
    (hRows : ∀ row ∈ rows, Row.Holds names columns row) :
    (rowsOfReplies columns (sent.map .array)).direct names = .ok rows := by
  induction hSent with
  | nil => rfl
  | cons hRow _ ih =>
      obtain ⟨hHolds, hRest⟩ := List.forall_mem_cons.mp hRows
      rw [List.map_cons, rowsOfReplies, Lookup.direct_bind_ok (direct_sent hRow hHolds),
        Lookup.direct_bind_ok (ih hRest), Lookup.direct_pure]

end Row

theorem Column.ofReply_wire (column : Column) : Column.ofReply column.wire = .ok column := by
  rw [wire, ofReply, Reply.toInteger]
  change (do
    let kind ← ColumnKind.ofOrdinal column.kind.ordinal
    let name ← (Reply.ofText column.name).toText "header column name"
    pure (⟨name, kind⟩ : Column)) = _
  rw [ColumnKind.ofOrdinal_ordinal, Reply.toText_ofText]
  rfl

theorem Column.listOfReply_wire (columns : List Column) :
    Column.listOfReply (.array (columns.map Column.wire)) = .ok columns :=
  mapM_map_ok Column.ofReply_wire columns

namespace Table

variable {columns : List Column} {rows : List (List Value)} {sent : List (List Reply)}

theorem direct_wire
    (hRows : ∀ row ∈ rows, Row.Holds names columns row)
    (hSent : List.Forall₂ (Row.Sent names columns) rows sent)
    (lines : List String) :
    Table.decodeDirect names (wire columns sent lines) =
      .ok ⟨columns, rows, .ofLines lines⟩ := by
  change (ofReply (wire columns sent lines)).direct names = _
  rw [wire, ofReply, Reply.toItems, Lookup.lift_ok, Lookup.done_bind]
  dsimp only
  rw [Column.listOfReply_wire, Lookup.lift_ok, Lookup.done_bind, Reply.toItems, Lookup.lift_ok,
    Lookup.done_bind, Lookup.direct_bind_ok (Row.direct_allSent hSent hRows),
    Statistics.ofReply_lines, Lookup.lift_ok, Lookup.done_bind, Lookup.direct_pure]

/--
**Reading undoes sending.**  A table whose rows are of the kinds of its columns and
have a compact form over the lists of a server can be sent, and however it is sent,
it is read back as it was, through any cache that holds the beginnings of these lists.
-/
theorem decode_wire
    (server : Server)
    (cache : Cache)
    (columns : List Column)
    (rows : List (List Value))
    (lines : List String)
    (hKnown : cache.names ≤ server.names)
    (hRows : ∀ row ∈ rows, Row.Holds server.names columns row) :
    (∃ sent, List.Forall₂ (Row.Sent server.names columns) rows sent) ∧
    ∀ sent, List.Forall₂ (Row.Sent server.names columns) rows sent →
      ((Backed.decode (Backed.fetchFrom Server.source) (wire columns sent lines)).on
        ⟨cache, server⟩).1 = .ok ⟨columns, rows, .ofLines lines⟩ := by
  refine ⟨Row.exists_allSent hRows, fun sent hSent => ?_⟩
  have hBacked : Backed.Known Server.names ⟨cache, server⟩ := hKnown
  rw [Backed.decode_complete Server.complete_source _ hBacked]
  exact direct_wire hRows hSent lines

end Table

namespace Sample

/-- Two columns of one name. -/
def columns : List Column := [⟨"p", .scalar⟩, ⟨"p", .unknown⟩]

/-- A path of two nodes, the second with a map among its properties. -/
def path : Path :=
  ⟨[⟨1, ["Person"], []⟩,
    ⟨2, ["Person", "City"],
      [("name", .map [("a", .boolean true), ("b", .uninterpreted .date (.integer 9))])]⟩],
   [⟨5, "KNOWS", 1, 2, []⟩]⟩

/-- The row of that path as it is sent, with the entries of the map in another order. -/
def sentRow : List Reply :=
  [.tagged .path
    (.array
      [.tagged .array (.array
        [.tagged .node (.array [.integer 1, .array [.integer 1], .array []]),
         .tagged .node (.array
          [.integer 2, .array [.integer 1, .integer 0],
           .array [.array [.integer 0, .integer Tag.map.ordinal, .array
            [.ofText "b", .tagged .date (.integer 9),
             .ofText "a", .tagged .boolean (.ofText "true")]]]])]),
       .tagged .array (.array
        [.tagged .edge (.array
          [.integer 5, .integer 0, .integer 1, .integer 2, .array []])])]),
   .error "not read"]

theorem holds_path : Row.Holds server.names columns [.path path, .null] := by
  refine .cons ?_ (.cons trivial .nil)
  simp only [ColumnKind.Holds, Value.Encodable, path, Path.Encodable, Node.AllEncodable,
    Node.Encodable, Edge.AllEncodable, Edge.Encodable, Value.PairsEncodable]
  decide

theorem sent_path : Row.Sent server.names columns [.path path, .null] sentRow := by
  have hMap : Value.SentEntries server.names
      [("b", .uninterpreted .date (.integer 9)), ("a", .boolean true)]
      [.ofText "b", .tagged .date (.integer 9), .ofText "a", .tagged .boolean (.ofText "true")] :=
    .cons (.uninterpreted _ _) (.cons (.boolean true) .nil)
  have hPerson : server.names.Sent .label "Person" (.integer 1) := ⟨1, rfl, rfl⟩
  have hCity : server.names.Sent .label "City" (.integer 0) := ⟨0, rfl, rfl⟩
  have hName : server.names.Sent .propertyKey "name" (.integer 0) := ⟨0, rfl, rfl⟩
  have hKnows : server.names.Sent .relationshipType "KNOWS" (.integer 0) := ⟨0, rfl, rfl⟩
  refine .cons (.scalar (.path (.array ?_) (.array ?_))) (.cons (.unknown _) .nil)
  · refine .cons (.node (.mk 1 (.cons hPerson .nil) (.refl _) .nil)) (.cons (.node ?_) .nil)
    exact .mk 2 (.cons hPerson (.cons hCity .nil)) (.refl _)
      (.cons hName (.map (.swap _ _ _) hMap) .nil)
  · exact .cons (.edge (.mk 5 1 2 hKnows (.refl _) .nil)) .nil

end Sample

/-- The sample path through a cache that knows one of its names. -/
theorem Table.decode_wire_path :
    Sample.cache.names ≤ Sample.server.names ∧
    (∀ row ∈ [[.path Sample.path, .null]], Row.Holds Sample.server.names Sample.columns row) ∧
    ((Backed.decode (Backed.fetchFrom Server.source)
      (Table.wire Sample.columns [Sample.sentRow] ["Nodes created: 2"])).on
      ⟨Sample.cache, Sample.server⟩).1 =
        .ok ⟨Sample.columns, [[.path Sample.path, .null]], .ofLines ["Nodes created: 2"]⟩ := by
  have hKnown : Sample.cache.names ≤ Sample.server.names := by decide
  have hRows : ∀ row ∈ [[Value.path Sample.path, .null]],
      Row.Holds Sample.server.names Sample.columns row :=
    List.forall_mem_singleton.mpr Sample.holds_path
  obtain ⟨-, hRead⟩ := decode_wire Sample.server Sample.cache Sample.columns
    [[.path Sample.path, .null]] ["Nodes created: 2"] hKnown hRows
  exact ⟨hKnown, hRows, hRead _ (.cons Sample.sent_path .nil)⟩

end GraphClient
