import GraphClient.Value.Basic

/-!
# Parts of values

A value may hold values, and so may these.  `Value.parts` are the values of which a value
is made directly, `Value.Within` goes down any number of times, and a property that holds
*throughout* a value (`Value.Throughout`) holds of the value and of all that is within it.

A property is shown throughout a value by showing it of the value and throughout each of
its parts (`Value.throughout_iff`), which is how the readers and writers of values go down.
What holds of every value is shown by induction on the parts (`Value.induction_on_parts`).
-/

namespace GraphClient
namespace Value

/-- The values of which a value is made, the nodes and edges of a path among them. -/
def parts : Value → List Value
  | .array items => items
  | .node entity => entity.properties.map Prod.snd
  | .edge entity => entity.properties.map Prod.snd
  | .path route => route.nodes.map .node ++ route.edges.map .edge
  | .map entries => entries.map Prod.snd
  | _ => []

/-- A value is within another if it is that value or within a part of it. -/
inductive Within : Value → Value → Prop
  | self (value : Value) : Within value value
  | part {inner part whole : Value} :
      part ∈ whole.parts →
      Within inner part →
      Within inner whole

/-- The property holds of the value and of every value within it. -/
def Throughout (holds : Value → Prop) (value : Value) : Prop :=
  ∀ inner, Within inner value → holds inner

theorem sizeOf_lt_of_mem_values
    {part : Value}
    {entries : List (String × Value)}
    (hPart : part ∈ entries.map Prod.snd) :
    sizeOf part < sizeOf entries := by
  obtain ⟨⟨name, value⟩, hPair, rfl⟩ := List.mem_map.mp hPart
  have hLess := List.sizeOf_lt_of_mem hPair
  rw [Prod.mk.sizeOf_spec] at hLess
  change sizeOf value < sizeOf entries
  omega

theorem sizeOf_lt_of_mem_parts {part whole : Value} (hPart : part ∈ whole.parts) :
    sizeOf part < sizeOf whole := by
  cases whole with
  | array items =>
      have hLess : sizeOf part < sizeOf items := List.sizeOf_lt_of_mem hPart
      rw [array.sizeOf_spec]
      omega
  | node entity =>
      obtain ⟨id, labels, properties⟩ := entity
      have hLess : sizeOf part < sizeOf properties := sizeOf_lt_of_mem_values hPart
      rw [node.sizeOf_spec, Node.mk.sizeOf_spec]
      omega
  | edge entity =>
      obtain ⟨id, type, source, destination, properties⟩ := entity
      have hLess : sizeOf part < sizeOf properties := sizeOf_lt_of_mem_values hPart
      rw [edge.sizeOf_spec, Edge.mk.sizeOf_spec]
      omega
  | path route =>
      obtain ⟨nodes, edges⟩ := route
      rw [path.sizeOf_spec, Path.mk.sizeOf_spec]
      rcases List.mem_append.mp hPart with hNode | hEdge
      · obtain ⟨entity, hEntity, rfl⟩ := List.mem_map.mp hNode
        have hLess : sizeOf entity < sizeOf nodes := List.sizeOf_lt_of_mem hEntity
        rw [node.sizeOf_spec]
        omega
      · obtain ⟨entity, hEntity, rfl⟩ := List.mem_map.mp hEdge
        have hLess : sizeOf entity < sizeOf edges := List.sizeOf_lt_of_mem hEntity
        rw [edge.sizeOf_spec]
        omega
  | map entries =>
      have hLess : sizeOf part < sizeOf entries := sizeOf_lt_of_mem_values hPart
      rw [map.sizeOf_spec]
      omega
  | _ => cases hPart

/-- What holds of a value whenever it holds of its parts holds of every value. -/
theorem induction_on_parts
    {motive : Value → Prop}
    (step : ∀ value, (∀ part ∈ value.parts, motive part) → motive value)
    (value : Value) :
    motive value :=
  step value fun part _ => induction_on_parts step part
termination_by sizeOf value
decreasing_by exact sizeOf_lt_of_mem_parts ‹_›

variable {holds : Value → Prop}

theorem throughout_iff {value : Value} :
    value.Throughout holds ↔ holds value ∧ ∀ part ∈ value.parts, part.Throughout holds := by
  constructor
  · intro hValue
    exact ⟨hValue value (.self value),
      fun part hPart inner hInner => hValue inner (.part hPart hInner)⟩
  · rintro ⟨hOwn, hParts⟩ inner hInner
    cases hInner with
    | self => exact hOwn
    | part hPart hWithin => exact hParts _ hPart inner hWithin

/-- For a value without parts it is enough that the property holds of it. -/
theorem throughout_of_parts_eq_nil
    {value : Value}
    (hOwn : holds value)
    (hParts : value.parts = []) :
    value.Throughout holds :=
  throughout_iff.mpr ⟨hOwn, hParts ▸ List.forall_mem_nil _⟩

theorem throughout_array {items : List Value} :
    (Value.array items).Throughout holds ↔
      holds (.array items) ∧ ∀ item ∈ items, item.Throughout holds :=
  throughout_iff

theorem throughout_map {entries : Fields Value} :
    (Value.map entries).Throughout holds ↔
      holds (.map entries) ∧ ∀ entry ∈ entries, entry.2.Throughout holds :=
  throughout_iff.trans (and_congr_right fun _ => List.forall_mem_map)

end Value
end GraphClient
