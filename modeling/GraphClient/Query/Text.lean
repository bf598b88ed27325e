import GraphClient.Query.Literal

/-!
# Texts of queries

Parameters go in front of a query, as bindings behind the word `CYPHER`, in
ascending order of their names.  A procedure is called with string arguments and
may name the columns that it is to yield.
-/

namespace GraphClient

/-- A binding of a parameter, with the blank that ends it. -/
def binding (parameter : String × Value) : List Char :=
  assigned parameter.1 (parameter.2.literal ++ [' '])

/-- A query behind the bindings of its parameters. -/
def queryText (query : String) (parameters : Fields Value) : Except Failure String :=
  if parameters.isEmpty then .ok query
  else
    match Value.obstacleInEntries? parameters with
    | some failure => .error failure
    | none =>
        .ok (String.ofList
          ("CYPHER ".toList ++ (parameters.flatMap binding ++ query.toList)))

/-- The clause that names the columns to yield, if there are any. -/
def yieldClause (columns : List String) : List Char :=
  if columns.isEmpty then []
  else " YIELD ".toList ++ joinedByCommas (columns.map String.toList)

def callText
    (procedure : String)
    (arguments columns : List String) :
    String :=
  String.ofList
    ("CALL ".toList ++ procedure.toList ++ '(' :: joinedByCommas (arguments.map quoteLiteral)
      ++ ')' :: yieldClause columns)

end GraphClient
