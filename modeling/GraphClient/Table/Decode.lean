import GraphClient.Table.Basic
import GraphClient.Value.Decode

/-!
# Reading tables

The reply to a query is an array of the columns, the rows and the statistics.  A
query without results is answered by an array of another length that ends in the
statistics.

**Errors of the server.**  A query may fail as a whole, or after the server has
begun its reply; then the error is the last item.  `serverError?` finds it
before anything else of the reply is read.

**Order.**  The columns are read first, then the rows, each cell as the kind of
its column says, and the statistics last.  The width of a row is checked before
its cells are read.
-/

namespace GraphClient

/-- The error text of the server in a reply to a query. -/
def Reply.serverError? : Reply → Option String
  | .error message => some message
  | .array items => items.getLast?.bind Reply.errorText?
  | _ => none

/-- The value of a cell in a column of a kind. -/
def cellOfReply (kind : ColumnKind) (cell : Reply) : Lookup Value :=
  match kind with
  | .scalar => Value.ofReply cell
  | .node => do
      let node ← Node.ofReply cell
      pure (.node node)
  | .relation => do
      let edge ← Edge.ofReply cell
      pure (.edge edge)
  | .unknown => pure .null

/-- The values of cells, one per column. -/
def cellsOfReplies : List Column → List Reply → Lookup (List Value)
  | column :: columns, cell :: cells => do
      let value ← cellOfReply column.kind cell
      let values ← cellsOfReplies columns cells
      pure (value :: values)
  | _, _ => pure []

def rowOfReply (columns : List Column) (reply : Reply) : Lookup (List Value) := do
  let cells ← reply.toItems "result row"
  if cells.length = columns.length then cellsOfReplies columns cells
  else .fail (.arity columns.length cells.length "result row")

def rowsOfReplies (columns : List Column) : List Reply → Lookup (List (List Value))
  | [] => pure []
  | reply :: rest => do
      let row ← rowOfReply columns reply
      let rows ← rowsOfReplies columns rest
      pure (row :: rows)

namespace Table

/-- The table in a reply in which the server reports no error. -/
def ofReply (reply : Reply) : Lookup Table := do
  let parts ← reply.toItems "query reply"
  match parts with
  | [header, rows, statistics] => do
      let columns ← Column.listOfReply header
      let items ← rows.toItems "result rows"
      let rows ← rowsOfReplies columns items
      let statistics ← Statistics.ofReply statistics
      pure ⟨columns, rows, statistics⟩
  | parts =>
      match parts.getLast? with
      | some statistics => do
          let statistics ← Statistics.ofReply statistics
          pure (ofStatistics statistics)
      | none => pure (ofStatistics .empty)

/-- The table in a reply, whose names a resolver supplies. -/
def decode
    {σ : Type}
    (resolve : Kind → Nat → Attempt σ String)
    (reply : Reply) :
    Attempt σ Table :=
  match reply.serverError? with
  | some message => throw (.evaluation message)
  | none => (ofReply reply).run resolve

/-- The table in a reply, whose names are read off complete lists. -/
def decodeDirect (names : Names) (reply : Reply) : Except Failure Table :=
  match reply.serverError? with
  | some message => .error (.evaluation message)
  | none => (ofReply reply).direct names

end Table

end GraphClient
