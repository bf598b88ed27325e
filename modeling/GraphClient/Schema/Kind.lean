/-!
# Kinds of schema names

A graph names three kinds of things: the labels of nodes, the types of
relationships and the keys of properties.  Replies send such a name as its
position in the list of its kind, and one procedure of the server per kind
returns the list.
-/

namespace GraphClient

/-- What a schema name stands for. -/
inductive Kind where
  | label
  | relationshipType
  | propertyKey
deriving DecidableEq, Repr

namespace Kind

/-- Every kind, in the order in which the lists are fetched. -/
def all : List Kind := [.label, .relationshipType, .propertyKey]

theorem mem_all (kind : Kind) : kind ∈ all := by
  cases kind <;> decide

/-- The procedure that lists the names of a kind. -/
def procedure : Kind → String
  | .label => "db.labels"
  | .relationshipType => "db.relationshipTypes"
  | .propertyKey => "db.propertyKeys"

/-- The column in which that procedure returns the names. -/
def column : Kind → String
  | .label => "label"
  | .relationshipType => "relationshipType"
  | .propertyKey => "propertyKey"

def text : Kind → String
  | .label => "label"
  | .relationshipType => "relationship type"
  | .propertyKey => "property key"

/-- The kind whose names a procedure lists. -/
def ofProcedure? (procedure : String) : Option Kind :=
  all.find? fun kind => kind.procedure = procedure

theorem ofProcedure?_procedure (kind : Kind) : ofProcedure? kind.procedure = some kind := by
  cases kind <;> decide

theorem procedure_of_ofProcedure?
    {procedure : String}
    {kind : Kind}
    (h : ofProcedure? procedure = some kind) :
    kind.procedure = procedure := by
  have hFound := List.find?_some h
  simpa using hFound

end Kind

end GraphClient
