import GraphClient.Schema.Kind

/-!
# Names of a schema

The names of a graph are three lists, one per kind.  The server only ever
appends to a list, so an index that has a name keeps it.

`names ≤ others` says that each list of `names` is the beginning of the list of
the same kind in `others`.
-/

namespace GraphClient

/-- The lists of names of the three kinds. -/
structure Names where
  labels : List String
  relationshipTypes : List String
  propertyKeys : List String
deriving DecidableEq, Repr

namespace Names

def empty : Names := ⟨[], [], []⟩

instance : Inhabited Names := ⟨empty⟩

def of (names : Names) : Kind → List String
  | .label => names.labels
  | .relationshipType => names.relationshipTypes
  | .propertyKey => names.propertyKeys

def append
    (names : Names)
    (kind : Kind)
    (tail : List String) :
    Names :=
  match kind with
  | .label => { names with labels := names.labels ++ tail }
  | .relationshipType => { names with relationshipTypes := names.relationshipTypes ++ tail }
  | .propertyKey => { names with propertyKeys := names.propertyKeys ++ tail }

def isEmpty (names : Names) : Bool :=
  Kind.all.all fun kind => (names.of kind).isEmpty

/-- Each list on the left is the beginning of the list of its kind on the right. -/
instance : LE Names where
  le names others := ∀ kind, names.of kind <+: others.of kind

instance (names others : Names) : Decidable (names ≤ others) :=
  decidable_of_iff (∀ kind ∈ Kind.all, names.of kind <+: others.of kind)
    ⟨fun h kind => h kind kind.mem_all, fun h kind _ => h kind⟩

theorem ext_of
    {names others : Names}
    (h : ∀ kind, names.of kind = others.of kind) :
    names = others := by
  have hLabels := h .label
  have hTypes := h .relationshipType
  have hKeys := h .propertyKey
  cases names
  cases others
  simp_all [of]

/-- Appending changes the list of its own kind alone. -/
theorem of_append
    (names : Names)
    (kind other : Kind)
    (tail : List String) :
    (names.append kind tail).of other =
      if other = kind then names.of kind ++ tail else names.of other := by
  cases kind <;> cases other <;> rfl

theorem le_refl (names : Names) : names ≤ names :=
  fun _ => List.prefix_rfl

theorem le_trans
    {first second third : Names}
    (h : first ≤ second)
    (h' : second ≤ third) :
    first ≤ third :=
  fun kind => (h kind).trans (h' kind)

theorem le_append
    (names : Names)
    (kind : Kind)
    (tail : List String) :
    names ≤ names.append kind tail := by
  intro other
  rw [of_append]
  split
  · next hKind => exact hKind ▸ List.prefix_append _ _
  · exact List.prefix_rfl

/-- A name once known keeps its index. -/
theorem getElem?_of_le
    {names others : Names}
    {kind : Kind}
    {index : Nat}
    {name : String}
    (h : names ≤ others)
    (hName : (names.of kind)[index]? = some name) :
    (others.of kind)[index]? = some name := by
  obtain ⟨tail, hTail⟩ := h kind
  have hLength := (List.getElem?_eq_some_iff.mp hName).1
  rw [← hTail, List.getElem?_append_left hLength, hName]

end Names

end GraphClient
