/-!
# Commands

A command goes to the server with text arguments.  The arguments of a query are
the graph, the text of the query, the request for compact replies and, if there
is a limit of time, that limit in milliseconds.
-/

namespace GraphClient

/-- What the server is asked to do. -/
inductive Command where
  | query
  | readOnlyQuery
  | explain
  | profile
  | delete
  | copy
  | list
deriving DecidableEq, Repr

namespace Command

def all : List Command :=
  [.query, .readOnlyQuery, .explain, .profile, .delete, .copy, .list]

/-- The name of a command on the wire. -/
def name : Command → String
  | .query => "GRAPH.QUERY"
  | .readOnlyQuery => "GRAPH.RO_QUERY"
  | .explain => "GRAPH.EXPLAIN"
  | .profile => "GRAPH.PROFILE"
  | .delete => "GRAPH.DELETE"
  | .copy => "GRAPH.COPY"
  | .list => "GRAPH.LIST"

end Command

def timeoutArguments : Option Nat → List String
  | none => []
  | some milliseconds => ["timeout", toString milliseconds]

/-- The arguments of a query. -/
def queryArguments
    (graph query : String)
    (timeout : Option Nat) :
    List String :=
  [graph, query, "--compact"] ++ timeoutArguments timeout

structure SentCommand where
  command : Command
  arguments : List String
deriving DecidableEq, Repr

/-- The text of a query, which is the second argument. -/
def SentCommand.query? (sent : SentCommand) : Option String := sent.arguments[1]?

end GraphClient
