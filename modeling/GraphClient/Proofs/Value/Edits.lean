import GraphClient.Proofs.Fields
import GraphClient.Value.Equality
import Mathlib.Data.List.Perm.Subperm

/-!
# Nodes made by edits

A node begins without labels and properties and gets them one by one.

**Invariant.**  An edit adds a label that is not there or writes a property in its place, so
the labels of a node stay different and its properties ascending, whatever edits are made
(`NodeEdit.wellBuilt_foldl`).

**Contents.**  The labels are those that were ever added (`NodeEdit.mem_labels_build`), and
under each name stands the value that was written last (`NodeEdit.find?_properties_build`).

**Results.**  Equality of nodes compares the number of labels and then looks for those of the
one in the other.  As labels are different, this is equality of sets (`Node.same_iff`).  Two
nodes made by edits are therefore the same exactly if they have the same id, the same labels
were added to both, and the same values were written last (`NodeEdit.same_build_iff`).
-/

namespace GraphClient

/-- Two values are the same for users of values. -/
abbrev Value.Same (value other : Value) : Prop := value.same other = true

/-- A change to a node. -/
inductive NodeEdit where
  | addLabel (label : String)
  | setProperty (name : String) (value : Value)
  | addProperty (property : Property)

namespace NodeEdit

def apply (node : Node) : NodeEdit → Node
  | .addLabel label => node.addLabel label
  | .setProperty name value => node.setProperty name value
  | .addProperty property => node.addProperty property

/-- The name and the value that an edit writes. -/
def written? : NodeEdit → Option (String × Value)
  | .addLabel _ => none
  | .setProperty name value => some (name, value)
  | .addProperty property => some (property.name, property.value)

/-- The value that edits wrote last under a name. -/
def lastWritten? (edits : List NodeEdit) (name : String) : Option Value :=
  ((edits.filterMap written?).filter (·.1 = name)).getLast?.map Prod.snd

/-- What edits, made in order, make of a new node. -/
def build (id : Int) (edits : List NodeEdit) : Node :=
  edits.foldl apply (Node.new id)

end NodeEdit

/-- The labels of a node are different and its properties ascending. -/
structure Node.WellBuilt (node : Node) : Prop where
  nodup_labels : node.labels.Nodup
  sorted_properties : Fields.Sorted node.properties

namespace NodeEdit

variable {node : Node}

theorem id_apply (node : Node) (edit : NodeEdit) : (edit.apply node).id = node.id := by
  cases edit with
  | addLabel label =>
      change (node.addLabel label).id = node.id
      unfold Node.addLabel
      split <;> rfl
  | setProperty name value => rfl
  | addProperty property => rfl

theorem mem_labels_apply {edit : NodeEdit} {label : String} :
    label ∈ (edit.apply node).labels ↔ label ∈ node.labels ∨ edit = .addLabel label := by
  cases edit with
  | addLabel added =>
      rw [NodeEdit.addLabel.injEq, eq_comm (a := added)]
      exact Node.mem_addLabel
  | setProperty name value => simp [apply, Node.setProperty]
  | addProperty property => simp [apply, Node.addProperty, Node.setProperty]

theorem wellBuilt_apply (edit : NodeEdit) (hNode : node.WellBuilt) :
    (edit.apply node).WellBuilt := by
  obtain ⟨hLabels, hProperties⟩ := hNode
  cases edit with
  | addLabel label =>
      refine ⟨Node.nodup_addLabel label hLabels, ?_⟩
      change Fields.Sorted (node.addLabel label).properties
      unfold Node.addLabel
      split <;> exact hProperties
  | setProperty name value => exact ⟨hLabels, Fields.sorted_insert name value hProperties⟩
  | addProperty property =>
      exact ⟨hLabels, Fields.sorted_insert property.name property.value hProperties⟩

theorem properties_apply (node : Node) (edit : NodeEdit) :
    (edit.apply node).properties =
      edit.written?.toList.foldl (fun fields pair => Fields.insert pair.1 pair.2 fields)
        node.properties := by
  cases edit with
  | addLabel label =>
      change (node.addLabel label).properties = node.properties
      unfold Node.addLabel
      split <;> rfl
  | setProperty name value => rfl
  | addProperty property => rfl

theorem wellBuilt_foldl (edits : List NodeEdit) (hNode : node.WellBuilt) :
    (edits.foldl apply node).WellBuilt := by
  induction edits generalizing node with
  | nil => exact hNode
  | cons edit rest ih => exact ih (wellBuilt_apply edit hNode)

theorem id_foldl (edits : List NodeEdit) (node : Node) : (edits.foldl apply node).id = node.id := by
  induction edits generalizing node with
  | nil => rfl
  | cons edit rest ih => exact (ih _).trans (id_apply node edit)

theorem mem_labels_foldl {edits : List NodeEdit} {label : String} :
    label ∈ (edits.foldl apply node).labels ↔ label ∈ node.labels ∨ .addLabel label ∈ edits := by
  induction edits generalizing node with
  | nil => simp
  | cons edit rest ih =>
      rw [List.foldl_cons, ih, mem_labels_apply, List.mem_cons, or_assoc, eq_comm (a := edit)]

theorem properties_foldl (edits : List NodeEdit) (node : Node) :
    (edits.foldl apply node).properties =
      (edits.filterMap written?).foldl (fun fields pair => Fields.insert pair.1 pair.2 fields)
        node.properties := by
  induction edits generalizing node with
  | nil => rfl
  | cons edit rest ih =>
      rw [List.foldl_cons, ih, properties_apply, List.filterMap_cons]
      cases edit.written? <;> rfl

section Build

variable (id : Int) (edits : List NodeEdit)

theorem wellBuilt_build : (build id edits).WellBuilt :=
  wellBuilt_foldl edits ⟨List.nodup_nil, List.Pairwise.nil⟩

theorem id_build : (build id edits).id = id :=
  id_foldl edits (Node.new id)

theorem mem_labels_build {label : String} :
    label ∈ (build id edits).labels ↔ .addLabel label ∈ edits :=
  mem_labels_foldl.trans (or_iff_right List.not_mem_nil)

theorem find?_properties_build (name : String) :
    Fields.find? name (build id edits).properties = lastWritten? edits name := by
  rw [build, properties_foldl]
  exact Fields.find?_ofList name _

end Build
end NodeEdit

theorem Value.sameEntries_iff {entries others : List (String × Value)} :
    Value.sameEntries entries others = true ↔ Fields.Agree Value.Same entries others := by
  unfold Fields.Agree
  induction entries generalizing others with
  | nil => cases others <;> simp [Value.sameEntries]
  | cons entry rest ih =>
      cases others with
      | nil => simp [Value.sameEntries]
      | cons other others => simp [Value.sameEntries, ih, and_assoc]

/--
Lists of different labels are as long as each other, the one within the other, exactly if they
have the same members: with the same number of members, none of the other can be left over.
-/
theorem Node.sameLabels_iff
    {labels others : List String}
    (hLabels : labels.Nodup)
    (hOthers : others.Nodup) :
    (labels.length = others.length ∧ ∀ label ∈ labels, label ∈ others) ↔
      ∀ label, label ∈ labels ↔ label ∈ others := by
  rw [← List.perm_ext_iff_of_nodup hLabels hOthers]
  constructor
  · rintro ⟨hLength, hWithin⟩
    exact (hLabels.subperm hWithin).perm_of_length_le (Nat.le_of_eq hLength.symm)
  · intro hPerm
    exact ⟨hPerm.length_eq, fun label => hPerm.mem_iff.mp⟩

theorem Node.same_iff
    {node other : Node}
    (hNode : node.labels.Nodup)
    (hOther : other.labels.Nodup) :
    node.same other = true ↔
      node.id = other.id ∧ (∀ label, label ∈ node.labels ↔ label ∈ other.labels) ∧
        Fields.Agree Value.Same node.properties other.properties := by
  obtain ⟨id, labels, properties⟩ := node
  obtain ⟨id', labels', properties'⟩ := other
  rw [← sameLabels_iff hNode hOther, Node.same]
  simp [Value.sameEntries_iff, and_assoc]

/--
Two nodes made by edits are the same exactly if they have the same id, the same labels were
added to both, and the values written last are the same under every name.
-/
theorem NodeEdit.same_build_iff
    (id id' : Int)
    (edits edits' : List NodeEdit) :
    (build id edits).same (build id' edits') = true ↔
      id = id' ∧ (∀ label, .addLabel label ∈ edits ↔ .addLabel label ∈ edits') ∧
        ∀ name, Option.Rel Value.Same (lastWritten? edits name) (lastWritten? edits' name) := by
  have hBuilt := wellBuilt_build id edits
  have hBuilt' := wellBuilt_build id' edits'
  rw [Node.same_iff hBuilt.nodup_labels hBuilt'.nodup_labels,
    hBuilt.sorted_properties.agree_iff hBuilt'.sorted_properties]
  simp only [id_build, mem_labels_build, find?_properties_build]

example :
    (NodeEdit.build 1 [.addLabel "A", .addLabel "B", .setProperty "k" .null]).same
      (NodeEdit.build 1 [.addLabel "B", .setProperty "k" (.integer 2), .addLabel "A",
        .addLabel "B", .addProperty ⟨"k", .null⟩]) = true := by
  decide

end GraphClient
