import GraphClient.Schema.Cache

/-!
# A server with fixed lists

A `Server` holds the names of a schema, answers the procedures that list them
and remembers which it answered.

`Names.table` is the answer to such a procedure as a table, and `Names.reply` is
the same answer as the server sends it.  A server that refuses fails every fetch.
-/

namespace GraphClient

/-- The lists of a schema and the kinds whose list was asked for, in order. -/
structure Server where
  names : Names
  asked : List Kind
deriving DecidableEq, Repr

namespace Names

/-- The list of a kind as a table of one column. -/
def table (names : Names) (kind : Kind) : Table :=
  ⟨[⟨kind.column, .scalar⟩], (names.of kind).map fun name => [.string name], .empty⟩

/-- The names beyond those known are those beyond as many in the list. -/
theorem unseenNames_table
    (names : Names)
    (kind : Kind)
    (known : Nat) :
    Backed.unseenNames known (names.table kind) = .ok ((names.of kind).drop known) := by
  simp only [Backed.unseenNames, table, Table.records, Column.names]
  rw [List.map_map, ← List.map_drop]
  induction (names.of kind).drop known with
  | nil => rfl
  | cons name rest ih =>
      have hName :
          Backed.rowName ⟨[kind.column], [.string name]⟩ = .ok name := by
        simp [Backed.rowName, Record.at?, Value.cellText?, Value.toText, Value.describe]
      rw [List.map_cons, List.mapM_cons, ih]
      simp only [Function.comp, List.map_cons, List.map_nil, hName]
      rfl

/-- The list of a kind as the reply to a query. -/
def reply (names : Names) (kind : Kind) : Reply :=
  .array
    [.array [.array [.integer ColumnKind.scalar.ordinal, .ofText kind.column]],
     .array ((names.of kind).map fun name =>
       .array [.array [.integer Tag.string.ordinal, .ofText name]]),
     .array [.ofText "Cached execution: 0"]]

end Names

namespace Server

def ofNames (names : Names) : Server := ⟨names, []⟩

def calls (server : Server) (kind : Kind) : Nat := server.asked.count kind

def push
    (server : Server)
    (kind : Kind)
    (name : String) :
    Server :=
  { server with names := server.names.append kind [name] }

def ask (server : Server) (kind : Kind) : Server :=
  { server with asked := server.asked ++ [kind] }

/-- The server as the source of its lists. -/
def source : Source Server := fun kind => do
  modify fun server => server.ask kind
  let server ← get
  pure (server.names.table kind)

@[simp] theorem on_source
    (kind : Kind)
    (server : Server) :
    (source kind).on server = (.ok (server.names.table kind), server.ask kind) := rfl

def call (procedure : String) : Attempt Server Table :=
  match Kind.ofProcedure? procedure with
  | some kind => source kind
  | none => throw (.evaluation ("Procedure `" ++ procedure ++ "` is not registered"))

/-- A source of which every fetch fails, that of a kind with the failure given for it. -/
def refusing (failure : Kind → Failure) : Source Server := fun kind => throw (failure kind)

@[simp] theorem on_refusing
    (failure : Kind → Failure)
    (kind : Kind)
    (server : Server) :
    (refusing failure kind).on server = (.error (failure kind), server) := rfl

end Server

end GraphClient
