import GraphClient.Proofs.Value.Edits
import GraphClient.Proofs.Value.Parts
import Mathlib.Data.Finset.Dedup

/-!
# Equality as an equivalence

On which values equality is an equivalence relation.

**Outlines.**  The *outline* of a value is what it shows apart from its parts.  It holds the
labels of a node as a set.  Among values that are compared exactly, two are the same if they
have one outline and their parts are the same in every place (`Value.same_iff`); equal outlines
are an equivalence as they stand.

**Induction.**  Reflexivity, symmetry and transitivity pass from the parts to the whole, one
case for all forms of values (`Value.induction_on_parts`).

**Exceptions.**  Numbers that are rounded, points and values that are kept as they were sent
have no outline: what is no number differs from itself, and closeness is not transitive.
-/

namespace GraphClient

/-- What a value shows apart from its parts. -/
inductive Outline where
  | null
  | boolean (value : Bool)
  | integer (value : Int)
  | string (text : String)
  | array
  | node (id : Int) (labels : Finset String) (names : List String)
  | edge (id : Int) (type : String) (source destination : Int) (names : List String)
  /-- A path with so many nodes. -/
  | path (nodes : Nat)
  | map (names : List String)

section Places

variable {α : Type} {R : α → α → Prop} {first second third : List α}

theorem forall₂_append_iff
    {left right : List α}
    (hLength : first.length = second.length) :
    List.Forall₂ R (first ++ left) (second ++ right) ↔
      List.Forall₂ R first second ∧ List.Forall₂ R left right := by
  induction first generalizing second with
  | nil =>
      obtain rfl := List.length_eq_zero_iff.mp hLength.symm
      simp
  | cons head rest ih =>
      cases second with
      | nil => cases hLength
      | cons other others =>
          simp only [List.cons_append, List.forall₂_cons, ih (Nat.succ.inj hLength), and_assoc]

/-- Lists that agree in every place agree the other way round if their members do. -/
theorem forall₂_symm_of
    (hMembers : ∀ x ∈ first, ∀ y ∈ second, R x y → R y x)
    (hAgree : List.Forall₂ R first second) :
    List.Forall₂ R second first := by
  induction hAgree with
  | nil => exact .nil
  | cons hHead _ ih =>
      refine .cons (hMembers _ List.mem_cons_self _ List.mem_cons_self hHead) (ih ?_)
      exact fun x hx y hy => hMembers x (List.mem_cons_of_mem _ hx) y (List.mem_cons_of_mem _ hy)

theorem forall₂_trans_of
    (hMembers : ∀ x ∈ first, ∀ y ∈ second, ∀ z ∈ third, R x y → R y z → R x z)
    (hAgree : List.Forall₂ R first second)
    (hNext : List.Forall₂ R second third) :
    List.Forall₂ R first third := by
  induction hAgree generalizing third with
  | nil => exact hNext
  | cons hHead _ ih =>
      cases hNext with
      | cons hNextHead hNextRest =>
          refine .cons (hMembers _ List.mem_cons_self _ List.mem_cons_self _ List.mem_cons_self
            hHead hNextHead) (ih ?_ hNextRest)
          exact fun x hx y hy z hz => hMembers x (List.mem_cons_of_mem _ hx) y
            (List.mem_cons_of_mem _ hy) z (List.mem_cons_of_mem _ hz)

end Places

namespace Value

def outline? : Value → Option Outline
  | .null => some .null
  | .boolean value => some (.boolean value)
  | .integer n => some (.integer n)
  | .string text => some (.string text)
  | .array _ => some .array
  | .node entity =>
      some (.node entity.id entity.labels.toFinset (Fields.names entity.properties))
  | .edge entity =>
      some (.edge entity.id entity.type entity.source entity.destination
        (Fields.names entity.properties))
  | .path route => some (.path route.nodes.length)
  | .map entries => some (.map (Fields.names entries))
  | .double _ | .point _ | .vector _ | .uninterpreted _ _ => none

/--
Apart from its parts, a value is compared exactly: it holds no number that is rounded, no point
and nothing that is kept as it was sent, and it is a node only if it was made by edits.
-/
def Exact : Value → Prop
  | .double _ | .point _ | .vector _ | .uninterpreted _ _ => False
  | .node entity => ∃ id edits, entity = NodeEdit.build id edits
  | _ => True

theorem sameItems_iff {items others : List Value} :
    sameItems items others = true ↔ List.Forall₂ Same items others := by
  induction items generalizing others with
  | nil => cases others <;> simp [sameItems]
  | cons item rest ih => cases others <;> simp [sameItems, ih]

theorem nodes_same_iff {nodes others : List Node} :
    Node.sameItems nodes others = true ↔
      List.Forall₂ Same (nodes.map .node) (others.map .node) := by
  induction nodes generalizing others with
  | nil => cases others <;> simp [Node.sameItems]
  | cons entity rest ih => cases others <;> simp [Node.sameItems, same, ih]

theorem edges_same_iff {edges others : List Edge} :
    Edge.sameItems edges others = true ↔
      List.Forall₂ Same (edges.map .edge) (others.map .edge) := by
  induction edges generalizing others with
  | nil => cases others <;> simp [Edge.sameItems]
  | cons entity rest ih => cases others <;> simp [Edge.sameItems, same, ih]

theorem node_same_iff
    {entity other : Node}
    (hNode : entity.labels.Nodup)
    (hOther : other.labels.Nodup) :
    Same (.node entity) (.node other) ↔
      (node entity).outline? = (node other).outline? ∧
        List.Forall₂ Same (node entity).parts (node other).parts := by
  have hSame := Node.same_iff hNode hOther
  rw [← List.toFinset.ext_iff, Fields.agree_iff_names_and_values] at hSame
  simp only [outline?, parts, Option.some.injEq, Outline.node.injEq, and_assoc]
  exact hSame

theorem edge_same_iff (entity other : Edge) :
    Same (.edge entity) (.edge other) ↔
      (edge entity).outline? = (edge other).outline? ∧
        List.Forall₂ Same (edge entity).parts (edge other).parts := by
  obtain ⟨id, type, source, destination, properties⟩ := entity
  obtain ⟨id', type', source', destination', properties'⟩ := other
  simp only [Same, same, Edge.same, Bool.and_eq_true, beq_iff_eq, sameEntries_iff,
    Fields.agree_iff_names_and_values, outline?, parts, Option.some.injEq, Outline.edge.injEq,
    and_assoc]

theorem path_same_iff (route other : Path) :
    Same (.path route) (.path other) ↔
      (path route).outline? = (path other).outline? ∧
        List.Forall₂ Same (path route).parts (path other).parts := by
  obtain ⟨nodes, edges⟩ := route
  obtain ⟨nodes', edges'⟩ := other
  simp only [Same, same, Path.same, Bool.and_eq_true, nodes_same_iff, edges_same_iff, outline?,
    parts, Option.some.injEq, Outline.path.injEq]
  constructor
  · rintro ⟨hNodes, hEdges⟩
    have hLength := hNodes.length_eq
    exact ⟨by simpa using hLength, (forall₂_append_iff hLength).mpr ⟨hNodes, hEdges⟩⟩
  · rintro ⟨hLength, hParts⟩
    exact (forall₂_append_iff (by simpa using hLength)).mp hParts

/-- Values of different outlines that are compared to be different agree with `same_iff`. -/
theorem same_iff_of_outline_ne
    {value other : Value}
    (hSame : value.same other = false)
    (hOutline : value.outline? ≠ other.outline?) :
    Same value other ↔
      value.outline? = other.outline? ∧ List.Forall₂ Same value.parts other.parts :=
  iff_of_false (Bool.eq_false_iff.mp hSame) fun hBoth => hOutline hBoth.1

/-- Two values are the same if they have one outline and the same parts. -/
theorem same_iff
    {value other : Value}
    (hValue : value.Exact)
    (hOther : other.Exact) :
    Same value other ↔
      value.outline? = other.outline? ∧ List.Forall₂ Same value.parts other.parts := by
  cases value with
  | null =>
      cases other with
      | null => simp [Same, same, outline?, parts]
      | _ => exact same_iff_of_outline_ne rfl (by simp [outline?])
  | boolean value =>
      cases other with
      | boolean other => simp [Same, same, outline?, parts]
      | _ => exact same_iff_of_outline_ne rfl (by simp [outline?])
  | integer n =>
      cases other with
      | integer m => simp [Same, same, outline?, parts]
      | _ => exact same_iff_of_outline_ne rfl (by simp [outline?])
  | string text =>
      cases other with
      | string other => simp [Same, same, outline?, parts]
      | _ => exact same_iff_of_outline_ne rfl (by simp [outline?])
  | array items =>
      cases other with
      | array others => simp [Same, same, sameItems_iff, outline?, parts]
      | _ => exact same_iff_of_outline_ne rfl (by simp [outline?])
  | node entity =>
      cases other with
      | node other =>
          obtain ⟨id, edits, rfl⟩ := hValue
          obtain ⟨id', edits', rfl⟩ := hOther
          exact node_same_iff (NodeEdit.wellBuilt_build id edits).nodup_labels
            (NodeEdit.wellBuilt_build id' edits').nodup_labels
      | _ => exact same_iff_of_outline_ne rfl (by simp [outline?])
  | edge entity =>
      cases other with
      | edge other => exact edge_same_iff entity other
      | _ => exact same_iff_of_outline_ne rfl (by simp [outline?])
  | path route =>
      cases other with
      | path other => exact path_same_iff route other
      | _ => exact same_iff_of_outline_ne rfl (by simp [outline?])
  | map entries =>
      cases other with
      | map others =>
          simp only [Same, same, sameEntries_iff, Fields.agree_iff_names_and_values, outline?,
            parts, Option.some.injEq, Outline.map.injEq]
      | _ => exact same_iff_of_outline_ne rfl (by simp [outline?])
  | double _ | point _ | vector _ | uninterpreted _ _ => exact hValue.elim

theorem same_refl {value : Value} (hValue : value.Throughout Exact) : Same value value := by
  induction value using induction_on_parts with
  | step value ih =>
      obtain ⟨hOwn, hParts⟩ := throughout_iff.mp hValue
      exact (same_iff hOwn hOwn).mpr
        ⟨rfl, List.forall₂_same.mpr fun part hPart => ih part hPart (hParts part hPart)⟩

theorem same_symm
    {value other : Value}
    (hValue : value.Throughout Exact)
    (hOther : other.Throughout Exact)
    (hSame : Same value other) :
    Same other value := by
  induction value using induction_on_parts generalizing other with
  | step value ih =>
      obtain ⟨hOwn, hParts⟩ := throughout_iff.mp hValue
      obtain ⟨hOtherOwn, hOtherParts⟩ := throughout_iff.mp hOther
      obtain ⟨hOutline, hAgree⟩ := (same_iff hOwn hOtherOwn).mp hSame
      refine (same_iff hOtherOwn hOwn).mpr ⟨hOutline.symm, forall₂_symm_of ?_ hAgree⟩
      exact fun part hPart counterpart hCounterpart =>
        ih part hPart (hParts part hPart) (hOtherParts counterpart hCounterpart)

theorem same_trans
    {value other last : Value}
    (hValue : value.Throughout Exact)
    (hOther : other.Throughout Exact)
    (hLast : last.Throughout Exact)
    (hSame : Same value other)
    (hNext : Same other last) :
    Same value last := by
  induction value using induction_on_parts generalizing other last with
  | step value ih =>
      obtain ⟨hOwn, hParts⟩ := throughout_iff.mp hValue
      obtain ⟨hOtherOwn, hOtherParts⟩ := throughout_iff.mp hOther
      obtain ⟨hLastOwn, hLastParts⟩ := throughout_iff.mp hLast
      obtain ⟨hOutline, hAgree⟩ := (same_iff hOwn hOtherOwn).mp hSame
      obtain ⟨hNextOutline, hNextAgree⟩ := (same_iff hOtherOwn hLastOwn).mp hNext
      refine (same_iff hOwn hLastOwn).mpr
        ⟨hOutline.trans hNextOutline, forall₂_trans_of ?_ hAgree hNextAgree⟩
      exact fun part hPart second hSecond third hThird =>
        ih part hPart (hParts part hPart) (hOtherParts second hSecond) (hLastParts third hThird)

/--
**Equality is structural.**  Two nodes made by edits are the same exactly if they have the same
id, the same labels were ever added to both, and under every name the values that were written
last are both absent or the same.  Where no number that is rounded, no point and nothing kept as
it was sent occurs at any depth, and all nodes were made by edits, equality of values is an
equivalence relation.
-/
theorem structural_equality :
    (∀ id id' edits edits',
      (NodeEdit.build id edits).same (NodeEdit.build id' edits') = true ↔
        id = id' ∧ (∀ label, .addLabel label ∈ edits ↔ .addLabel label ∈ edits') ∧
          ∀ name, Option.Rel Same (NodeEdit.lastWritten? edits name)
            (NodeEdit.lastWritten? edits' name)) ∧
    Equivalence fun value other : { value : Value // value.Throughout Exact } =>
      value.val.same other.val = true where
  left := NodeEdit.same_build_iff
  right :=
    { refl := fun value => same_refl value.property
      symm := fun {value other} => same_symm value.property other.property
      trans := fun {value other last} =>
        same_trans value.property other.property last.property }

end Value
end GraphClient
