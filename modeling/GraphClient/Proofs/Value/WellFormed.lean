import GraphClient.Proofs.Fields
import GraphClient.Proofs.Schema.Reading
import GraphClient.Proofs.Value.Parts
import GraphClient.Proofs.Wire.Form

/-!
# Values are well formed at every depth

What the reader of values yields keeps the conventions of values in every part of it.

**Depth.**  A value is *well formed* if it is *sound* throughout (`Value.Sound`): the
labels of a node are different, a path fits, the names in a map or an entity ascend, a
value that is kept as it was sent has a tag that is not read, and the names of an entity
are known.

**Reading.**  By mutual recursion along the reader: what a reading ends in is well
formed, with one theorem for each function of the reader (`Value.wellFormed_ofReply`,
`Node.wellFormed_ofReply`, `Edge.wellFormed_ofReply`).
-/

namespace GraphClient

section Soundness

variable (known : Kind → String → Prop)

/-- Properties stand in order under known keys. -/
def Fields.Sound (properties : Fields Value) : Prop :=
  Fields.Sorted properties ∧ ∀ name ∈ Fields.names properties, known .propertyKey name

/-- A value keeps the conventions, apart from its parts. -/
def Value.Sound : Value → Prop
  | .node entity =>
      entity.labels.Nodup ∧ (∀ label ∈ entity.labels, known .label label) ∧
        Fields.Sound known entity.properties
  | .edge entity => known .relationshipType entity.type ∧ Fields.Sound known entity.properties
  | .path route => Path.Fits route.nodes.length route.edges.length
  | .map entries => Fields.Sorted entries
  | .uninterpreted tag _ => tag ∈ Tag.kept
  | _ => True

/-- A value keeps the conventions at every depth. -/
def Value.WellFormed (value : Value) : Prop := value.Throughout (Value.Sound known)

/-- Properties in order, under known keys, with well-formed values. -/
structure Fields.WellFormed (properties : Fields Value) : Prop where
  sound : Fields.Sound known properties
  values : ∀ pair ∈ properties, pair.2.WellFormed known

end Soundness

variable {known : Kind → String → Prop}

namespace Value

theorem eq_node_of_node?
    (value : Value)
    (entity : Node)
    (hNode : value.node? = some entity) :
    value = .node entity := by
  cases value <;> cases hNode
  rfl

theorem eq_edge_of_edge?
    (value : Value)
    (entity : Edge)
    (hEdge : value.edge? = some entity) :
    value = .edge entity := by
  cases value <;> cases hEdge
  rfl

end Value

section Entities

theorem known_sentName
    {kind : Kind}
    {context name : String}
    {reply : Reply}
    (hEnds : (sentName kind context reply).Ends known name) :
    known kind name := by
  obtain ⟨index, -, hName⟩ := Lookup.ends_bind.mp hEnds
  exact Lookup.ends_name.mp hName

theorem known_sentNames
    {kind : Kind}
    {context : String}
    {replies : List Reply}
    {names : List String}
    (hEnds : (sentNames kind context replies).Ends known names) :
    ∀ name ∈ names, known kind name := by
  induction replies generalizing names with
  | nil =>
      obtain rfl := Lookup.ends_pure.mp hEnds
      exact List.forall_mem_nil _
  | cons reply rest ih =>
      obtain ⟨first, hFirst, hEnds⟩ := Lookup.ends_bind.mp hEnds
      obtain ⟨others, hOthers, hEnds⟩ := Lookup.ends_bind.mp hEnds
      obtain rfl := Lookup.ends_pure.mp hEnds
      exact List.forall_mem_cons.mpr ⟨known_sentName hFirst, ih hOthers⟩

variable {properties : Lookup (Fields Value)}

theorem Node.wellFormed_assemble
    {id labels : Reply}
    {node : Node}
    (hProperties : ∀ fields, properties.Ends known fields → Fields.WellFormed known fields)
    (hEnds : (Node.assemble id labels properties).Ends known node) :
    (Value.node node).WellFormed known := by
  obtain ⟨id, -, hEnds⟩ := Lookup.ends_bind.mp hEnds
  obtain ⟨items, -, hEnds⟩ := Lookup.ends_bind.mp hEnds
  obtain ⟨names, hNames, hEnds⟩ := Lookup.ends_bind.mp hEnds
  obtain ⟨fields, hFields, hEnds⟩ := Lookup.ends_bind.mp hEnds
  obtain rfl := Lookup.ends_pure.mp hEnds
  obtain ⟨hSound, hValues⟩ := hProperties fields hFields
  refine Value.throughout_iff.mpr ⟨⟨?_, ?_, hSound⟩, List.forall_mem_map.mpr hValues⟩
  · exact Node.nodup_addLabels names List.nodup_nil
  · intro label hLabel
    have hAdded := (Node.mem_addLabels hLabel).resolve_left List.not_mem_nil
    exact known_sentNames hNames label hAdded

theorem Edge.wellFormed_assemble
    {id type source destination : Reply}
    {edge : Edge}
    (hProperties : ∀ fields, properties.Ends known fields → Fields.WellFormed known fields)
    (hEnds : (Edge.assemble id type source destination properties).Ends known edge) :
    (Value.edge edge).WellFormed known := by
  obtain ⟨name, hName, hEnds⟩ := Lookup.ends_bind.mp hEnds
  obtain ⟨id, -, hEnds⟩ := Lookup.ends_bind.mp hEnds
  obtain ⟨source, -, hEnds⟩ := Lookup.ends_bind.mp hEnds
  obtain ⟨destination, -, hEnds⟩ := Lookup.ends_bind.mp hEnds
  obtain ⟨fields, hFields, hEnds⟩ := Lookup.ends_bind.mp hEnds
  obtain rfl := Lookup.ends_pure.mp hEnds
  obtain ⟨hSound, hValues⟩ := hProperties fields hFields
  exact Value.throughout_iff.mpr
    ⟨⟨known_sentName hName, hSound⟩, List.forall_mem_map.mpr hValues⟩

/-- Entities come from an array of just these entities. -/
theorem entitiesOf_ok
    {α : Type}
    {select : Value → Option α}
    {wrap : α → Value}
    (hSelect : ∀ item entity, select item = some entity → item = wrap entity)
    {listContext itemContext : String}
    {value : Value}
    {entities : List α}
    (hOk : entitiesOf select listContext itemContext value = .ok entities) :
    value = .array (entities.map wrap) := by
  cases value with
  | array items =>
      rw [entitiesOf] at hOk
      refine congrArg Value.array ?_
      induction items generalizing entities with
      | nil =>
          cases hOk
          rfl
      | cons item rest ih =>
          rw [List.mapM_cons] at hOk
          obtain ⟨entity, hEntity, hOk⟩ := exists_of_bind_eq_ok hOk
          obtain ⟨others, hOthers, hOk⟩ := exists_of_bind_eq_ok hOk
          cases hOk
          cases hItem : select item with
          | none =>
              rw [hItem] at hEntity
              cases hEntity
          | some found =>
              rw [hItem] at hEntity
              cases hEntity
              rw [hSelect item entity hItem, ih hOthers, List.map_cons]
  | _ => cases hOk

/-- The nodes and the edges of a path are parts of the values that it is assembled from. -/
theorem Path.wellFormed_assemble
    {nodes edges : Lookup Value}
    {path : Path}
    (hNodes : ∀ value, nodes.Ends known value → value.WellFormed known)
    (hEdges : ∀ value, edges.Ends known value → value.WellFormed known)
    (hEnds : (Path.assemble nodes edges).Ends known path) :
    (Value.path path).WellFormed known := by
  obtain ⟨nodeList, hNodeList, hEnds⟩ := Lookup.ends_bind.mp hEnds
  obtain ⟨walked, hWalked, hEnds⟩ := Lookup.ends_bind.mp hEnds
  obtain ⟨edgeList, hEdgeList, hEnds⟩ := Lookup.ends_bind.mp hEnds
  obtain ⟨crossed, hCrossed, hEnds⟩ := Lookup.ends_bind.mp hEnds
  have hFits := Lookup.ends_lift.mp hEnds
  have hWalkedParts := entitiesOf_ok Value.eq_node_of_node? (Lookup.ends_lift.mp hWalked)
  have hCrossedParts := entitiesOf_ok Value.eq_edge_of_edge? (Lookup.ends_lift.mp hCrossed)
  rw [ofLists] at hFits
  split at hFits
  · next hShape =>
      cases hFits
      refine Value.throughout_iff.mpr ⟨hShape, List.forall_mem_append.mpr ⟨?_, ?_⟩⟩
      · exact (Value.throughout_array.mp (hWalkedParts ▸ hNodes _ hNodeList)).2
      · exact (Value.throughout_array.mp (hCrossedParts ▸ hEdges _ hEdgeList)).2
  · cases hFits

end Entities

-- The recursion is that of the reader.  What has not the shape that is asked for fails, and
-- nothing comes of it.
mutual

theorem Value.wellFormed_ofReply
    (reply : Reply)
    {value : Value}
    (hEnds : (Value.ofReply reply).Ends known value) :
    value.WellFormed known := by
  unfold Value.ofReply at hEnds
  split at hEnds
  · obtain ⟨tag, -, hTagged⟩ := Lookup.ends_bind.mp hEnds
    exact Value.wellFormed_ofTagged tag _ hTagged
  · exact (Lookup.not_ends_fail hEnds).elim

theorem Value.wellFormed_ofTagged
    (tag : Tag)
    (payload : Reply)
    {value : Value}
    (hEnds : (Value.ofTagged tag payload).Ends known value) :
    value.WellFormed known := by
  cases tag with
  | null =>
      unfold Value.ofTagged at hEnds
      obtain rfl := Lookup.ends_pure.mp hEnds
      exact Value.throughout_of_parts_eq_nil trivial rfl
  | string | integer | boolean | double | point | vector =>
      unfold Value.ofTagged at hEnds
      obtain ⟨content, -, hEnds⟩ := Lookup.ends_bind.mp hEnds
      obtain rfl := Lookup.ends_pure.mp hEnds
      exact Value.throughout_of_parts_eq_nil trivial rfl
  | array =>
      unfold Value.ofTagged at hEnds
      split at hEnds
      · obtain ⟨items, hItems, hEnds⟩ := Lookup.ends_bind.mp hEnds
        obtain rfl := Lookup.ends_pure.mp hEnds
        exact Value.throughout_array.mpr ⟨trivial, Value.wellFormed_ofReplies _ hItems⟩
      · obtain rfl := Lookup.ends_pure.mp hEnds
        exact Value.throughout_of_parts_eq_nil trivial rfl
      · exact (Lookup.not_ends_fail hEnds).elim
  | edge =>
      unfold Value.ofTagged at hEnds
      split at hEnds
      · obtain ⟨entity, hEntity, hEnds⟩ := Lookup.ends_bind.mp hEnds
        obtain rfl := Lookup.ends_pure.mp hEnds
        exact Edge.wellFormed_assemble
          (fun fields hFields => Value.wellFormed_ofProperties _ hFields) hEntity
      · exact (Lookup.not_ends_fail hEnds).elim
  | node =>
      unfold Value.ofTagged at hEnds
      split at hEnds
      · obtain ⟨entity, hEntity, hEnds⟩ := Lookup.ends_bind.mp hEnds
        obtain rfl := Lookup.ends_pure.mp hEnds
        exact Node.wellFormed_assemble
          (fun fields hFields => Value.wellFormed_ofProperties _ hFields) hEntity
      · exact (Lookup.not_ends_fail hEnds).elim
  | path =>
      unfold Value.ofTagged at hEnds
      split at hEnds
      · obtain ⟨route, hRoute, hEnds⟩ := Lookup.ends_bind.mp hEnds
        obtain rfl := Lookup.ends_pure.mp hEnds
        exact Path.wellFormed_assemble
          (fun value hNodes => Value.wellFormed_ofReply _ hNodes)
          (fun value hEdges => Value.wellFormed_ofReply _ hEdges) hRoute
      · exact (Lookup.not_ends_fail hEnds).elim
  | map =>
      unfold Value.ofTagged at hEnds
      split at hEnds
      · split at hEnds
        · obtain ⟨entries, hEntries, hEnds⟩ := Lookup.ends_bind.mp hEnds
          obtain rfl := Lookup.ends_pure.mp hEnds
          have hValues := Value.wellFormed_ofEntries _ hEntries
          exact Value.throughout_map.mpr ⟨Fields.sorted_ofList entries,
            fun pair hPair => hValues pair (Fields.mem_ofList hPair)⟩
        · exact (Lookup.not_ends_fail hEnds).elim
      · obtain rfl := Lookup.ends_pure.mp hEnds
        exact Value.throughout_of_parts_eq_nil List.Pairwise.nil rfl
      · exact (Lookup.not_ends_fail hEnds).elim
  | unknown | dateTime | date | time =>
      unfold Value.ofTagged at hEnds
      obtain rfl := Lookup.ends_pure.mp hEnds
      exact Value.throughout_of_parts_eq_nil (by simp [Value.Sound, Tag.kept]) rfl

theorem Value.wellFormed_ofReplies
    (replies : List Reply)
    {values : List Value}
    (hEnds : (Value.ofReplies replies).Ends known values) :
    ∀ value ∈ values, value.WellFormed known := by
  unfold Value.ofReplies at hEnds
  split at hEnds
  · obtain rfl := Lookup.ends_pure.mp hEnds
    exact List.forall_mem_nil _
  · obtain ⟨first, hFirst, hEnds⟩ := Lookup.ends_bind.mp hEnds
    obtain ⟨others, hOthers, hEnds⟩ := Lookup.ends_bind.mp hEnds
    obtain rfl := Lookup.ends_pure.mp hEnds
    exact List.forall_mem_cons.mpr
      ⟨Value.wellFormed_ofReply _ hFirst, Value.wellFormed_ofReplies _ hOthers⟩

theorem Value.wellFormed_ofEntries
    (replies : List Reply)
    {entries : List (String × Value)}
    (hEnds : (Value.ofEntries replies).Ends known entries) :
    ∀ pair ∈ entries, pair.2.WellFormed known := by
  unfold Value.ofEntries at hEnds
  split at hEnds
  · obtain ⟨key, -, hEnds⟩ := Lookup.ends_bind.mp hEnds
    obtain ⟨value, hValue, hEnds⟩ := Lookup.ends_bind.mp hEnds
    obtain ⟨others, hOthers, hEnds⟩ := Lookup.ends_bind.mp hEnds
    obtain rfl := Lookup.ends_pure.mp hEnds
    exact List.forall_mem_cons.mpr
      ⟨Value.wellFormed_ofReply _ hValue, Value.wellFormed_ofEntries _ hOthers⟩
  · obtain rfl := Lookup.ends_pure.mp hEnds
    exact List.forall_mem_nil _

theorem Value.wellFormed_ofProperties
    (reply : Reply)
    {properties : Fields Value}
    (hEnds : (Value.ofProperties reply).Ends known properties) :
    Fields.WellFormed known properties := by
  unfold Value.ofProperties at hEnds
  split at hEnds
  · obtain ⟨pairs, hPairs, hEnds⟩ := Lookup.ends_bind.mp hEnds
    obtain rfl := Lookup.ends_pure.mp hEnds
    have hRead := Value.wellFormed_ofTriples _ hPairs
    refine ⟨⟨Fields.sorted_ofList pairs, List.forall_mem_map.mpr fun pair hPair => ?_⟩,
      fun pair hPair => ?_⟩
    · exact (hRead pair (Fields.mem_ofList hPair)).1
    · exact (hRead pair (Fields.mem_ofList hPair)).2
  · obtain rfl := Lookup.ends_pure.mp hEnds
    exact ⟨⟨List.Pairwise.nil, List.forall_mem_nil _⟩, List.forall_mem_nil _⟩
  · exact (Lookup.not_ends_fail hEnds).elim

theorem Value.wellFormed_ofTriples
    (replies : List Reply)
    {pairs : List (String × Value)}
    (hEnds : (Value.ofTriples replies).Ends known pairs) :
    ∀ pair ∈ pairs, known .propertyKey pair.1 ∧ pair.2.WellFormed known := by
  unfold Value.ofTriples at hEnds
  split at hEnds
  · obtain rfl := Lookup.ends_pure.mp hEnds
    exact List.forall_mem_nil _
  · obtain ⟨name, hName, hEnds⟩ := Lookup.ends_bind.mp hEnds
    obtain ⟨tag, -, hEnds⟩ := Lookup.ends_bind.mp hEnds
    obtain ⟨value, hValue, hEnds⟩ := Lookup.ends_bind.mp hEnds
    obtain ⟨others, hOthers, hEnds⟩ := Lookup.ends_bind.mp hEnds
    obtain rfl := Lookup.ends_pure.mp hEnds
    exact List.forall_mem_cons.mpr
      ⟨⟨known_sentName hName, Value.wellFormed_ofTagged tag _ hValue⟩,
        Value.wellFormed_ofTriples _ hOthers⟩
  · exact (Lookup.not_ends_fail hEnds).elim

end

/-- A node without a tag is read well formed. -/
theorem Node.wellFormed_ofReply
    {reply : Reply}
    {node : Node}
    (hEnds : (Node.ofReply reply).Ends known node) :
    (Value.node node).WellFormed known := by
  unfold Node.ofReply at hEnds
  split at hEnds
  · exact Node.wellFormed_assemble
      (fun fields hFields => Value.wellFormed_ofProperties _ hFields) hEnds
  · exact (Lookup.not_ends_fail hEnds).elim

/-- An edge without a tag is read well formed. -/
theorem Edge.wellFormed_ofReply
    {reply : Reply}
    {edge : Edge}
    (hEnds : (Edge.ofReply reply).Ends known edge) :
    (Value.edge edge).WellFormed known := by
  unfold Edge.ofReply at hEnds
  split at hEnds
  · exact Edge.wellFormed_assemble
      (fun fields hFields => Value.wellFormed_ofProperties _ hFields) hEnds
  · exact (Lookup.not_ends_fail hEnds).elim

end GraphClient
