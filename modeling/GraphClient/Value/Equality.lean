import GraphClient.Number.Rounding
import GraphClient.Value.Basic

/-!
# Equality of values

`same` is the equality that users of values see.

* Doubles and vector entries are compared as numbers.
* Two points are the same when both coordinates are closer than `Point.tolerance`.
* Two nodes are the same when they have the same id, as many labels, every label
  of the one in the other, and the same properties.
* Everything else is compared part by part.

It is not an equivalence: what is no number differs from itself, and closeness
of points is not transitive.
-/

namespace GraphClient

namespace Point

/-- The distance, one hundred-thousandth, from which on two coordinates differ. -/
def tolerance : Double := .nearest .double false 1 100000

/-- Whether two points are closer than the tolerance in both coordinates. -/
def same (point other : Point) : Bool :=
  Binary.isWithin tolerance point.latitude other.latitude
    && Binary.isWithin tolerance point.longitude other.longitude

end Point

/-- Whether two lists of numbers have equal length and agree in every place. -/
def sameNumbers {f : Format} : List (Binary f) → List (Binary f) → Bool
  | [], [] => true
  | x :: rest, y :: others => x.same y && sameNumbers rest others
  | _, _ => false

mutual

/-- Whether two values are the same. -/
def Value.same : Value → Value → Bool
  | .null, .null => true
  | .boolean b, .boolean c => b == c
  | .integer m, .integer n => m == n
  | .double x, .double y => x.same y
  | .string text, .string other => text == other
  | .array items, .array others => Value.sameItems items others
  | .node node, .node other => node.same other
  | .edge edge, .edge other => edge.same other
  | .path path, .path other => path.same other
  | .map entries, .map others => Value.sameEntries entries others
  | .point point, .point other => point.same other
  | .vector entries, .vector others => sameNumbers entries others
  | .uninterpreted tag payload, .uninterpreted other received =>
      tag == other && payload.same received
  | _, _ => false
termination_by structural x => x

def Value.sameItems : List Value → List Value → Bool
  | [], [] => true
  | item :: rest, other :: others => Value.same item other && Value.sameItems rest others
  | _, _ => false
termination_by structural x => x

/-- Whether two lists of named values have equal length and agree in every place. -/
def Value.sameEntries : List (String × Value) → List (String × Value) → Bool
  | [], [] => true
  | (name, value) :: rest, (other, kept) :: others =>
      name == other && Value.same value kept && Value.sameEntries rest others
  | _, _ => false
termination_by structural x => x

def Node.same : Node → Node → Bool
  | ⟨id, labels, properties⟩, ⟨id', labels', properties'⟩ =>
      id == id' && labels.length == labels'.length && labels.all labels'.contains
        && Value.sameEntries properties properties'
termination_by structural x => x

def Node.sameItems : List Node → List Node → Bool
  | [], [] => true
  | node :: rest, other :: others => Node.same node other && Node.sameItems rest others
  | _, _ => false
termination_by structural x => x

def Edge.same : Edge → Edge → Bool
  | ⟨id, type, source, destination, properties⟩,
    ⟨id', type', source', destination', properties'⟩ =>
      id == id' && type == type' && source == source' && destination == destination'
        && Value.sameEntries properties properties'
termination_by structural x => x

def Edge.sameItems : List Edge → List Edge → Bool
  | [], [] => true
  | edge :: rest, other :: others => Edge.same edge other && Edge.sameItems rest others
  | _, _ => false
termination_by structural x => x

def Path.same : Path → Path → Bool
  | ⟨nodes, edges⟩, ⟨nodes', edges'⟩ =>
      Node.sameItems nodes nodes' && Edge.sameItems edges edges'
termination_by structural x => x

end

end GraphClient
