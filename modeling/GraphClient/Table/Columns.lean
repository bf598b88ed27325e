import GraphClient.Reply.Shape

/-!
# Columns of a table

A column has a name and a kind; the kind says how the cells of the column are
sent.  The columns of a reply are an array of pairs of kind and name.
-/

namespace GraphClient

/-- How the cells of a column are sent. -/
inductive ColumnKind where
  /-- Cells of this column are not read. -/
  | unknown
  /-- Values with a tag. -/
  | scalar
  /-- Nodes without a tag. -/
  | node
  /-- Edges without a tag. -/
  | relation
deriving DecidableEq, Repr

namespace ColumnKind

def ofOrdinal : Int → Except Malformed ColumnKind
  | 0 => .ok .unknown
  | 1 => .ok .scalar
  | 2 => .ok .node
  | 3 => .ok .relation
  | n => .error (.unrecognizedColumn n)

def ordinal : ColumnKind → Int
  | .unknown => 0
  | .scalar => 1
  | .node => 2
  | .relation => 3

def name : ColumnKind → String
  | .unknown => "Unknown"
  | .scalar => "Scalar"
  | .node => "Node"
  | .relation => "Relation"

theorem ofOrdinal_ordinal (kind : ColumnKind) : ofOrdinal kind.ordinal = .ok kind := by
  cases kind <;> rfl

end ColumnKind

structure Column where
  name : String
  kind : ColumnKind
deriving DecidableEq, Repr

namespace Column

/-- The column that a pair of kind and name stands for. -/
def ofReply : Reply → Except Malformed Column
  | .array [kind, name] => do
      let kind ← ColumnKind.ofOrdinal (← kind.toInteger "header column kind")
      let name ← name.toText "header column name"
      pure ⟨name, kind⟩
  | reply => .error (reply.tupleFault 2 "header entry")

/-- The columns that an array of pairs stands for. -/
def listOfReply (reply : Reply) : Except Malformed (List Column) := do
  let items ← reply.toItems "header"
  items.mapM ofReply

def names (columns : List Column) : List String := columns.map Column.name

/-- The position of the first column of a name. -/
def position? (columns : List Column) (name : String) : Option Nat :=
  (names columns).findIdx? (· = name)

end Column

end GraphClient
