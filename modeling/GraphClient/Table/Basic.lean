import GraphClient.Fields
import GraphClient.Table.Columns
import GraphClient.Table.Statistics
import GraphClient.Value.Display
import GraphClient.Value.Equality
import GraphClient.Value.Tree

/-!
# Tables

The answer to a query is a table: its columns, its rows of values in the order
of the server, and the statistics of the query.

A `Record` is a row together with the names of the columns.  A name that occurs
several times stands for the first of its columns, except in an exported record,
which keeps the last value of each name.
-/

namespace GraphClient

/-- A row with the names of its columns. -/
structure Record where
  keys : List String
  values : List Value

namespace Record

def at? (record : Record) (position : Nat) : Option Value :=
  if position < record.keys.length then record.values[position]? else none

/-- The value in the first column of a name. -/
def get? (record : Record) (name : String) : Option Value :=
  (record.keys.findIdx? (· = name)).bind fun position => record.values[position]?

def hasKey (record : Record) (name : String) : Bool := record.keys.contains name

def same (record other : Record) : Bool :=
  record.keys == other.keys && Value.sameItems record.values other.values

/-- The exported form: an object into which the columns are entered one after the other. -/
def toTree (record : Record) : Tree :=
  .object (Fields.ofList (record.keys.zip (record.values.map Value.toTree)))

end Record

/-- The text of a value in a table: that of any value but null. -/
def Value.cellText? : Value → Option String
  | .null => none
  | value => some value.toText

/-- The answer to a query. -/
structure Table where
  columns : List Column
  rows : List (List Value)
  statistics : Statistics

namespace Table

/-- The table of given parts, in which every row has a value per column. -/
def ofRows
    (columns : List Column)
    (rows : List (List Value))
    (statistics : Statistics) :
    Except Malformed Table :=
  match rows.find? fun row => row.length ≠ columns.length with
  | some row => .error (.arity columns.length row.length "result row")
  | none => .ok ⟨columns, rows, statistics⟩

def ofStatistics (statistics : Statistics) : Table := ⟨[], [], statistics⟩

def records (table : Table) : List Record :=
  table.rows.map fun row => ⟨Column.names table.columns, row⟩

/-- Whether two lists of records have equal length and agree in every place. -/
def sameRecords : List Record → List Record → Bool
  | [], [] => true
  | record :: rest, other :: others => record.same other && sameRecords rest others
  | _, _ => false

def same (table other : Table) : Bool :=
  table.columns == other.columns && sameRecords table.records other.records
    && table.statistics == other.statistics

def recordsTree (table : Table) : Tree := .list (table.records.map Record.toTree)

def toTree (table : Table) : Tree :=
  .object
    [("header", .object
        [("names", .ofTexts (Column.names table.columns)),
         ("kinds", .ofTexts (table.columns.map fun column => column.kind.name))]),
     ("records", table.recordsTree),
     ("statistics", .object
        [("entries", .object
            (table.statistics.entries.map fun entry => (entry.1, .text entry.2)))])]

end Table

end GraphClient
