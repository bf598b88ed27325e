import GraphClient.Answer
import GraphClient.Query.Text
import GraphClient.Schema.Cache
import GraphClient.Session.Command
import GraphClient.Session.Options

/-!
# Handles

A handle stands for a named graph on a connection.  What it does, it does with a
cache of names, which other handles may share.

**Queries.**  `ask` sends a query and reads the reply.  A name that the cache
does not know is fetched over the same connection, by a query of the handle that
calls the procedure of its kind.  Reading the reply to that call may need names
in turn, but never of a kind whose list is being fetched: such a need cannot be
met and ends in the failure `blocked`.  So `fetch` has a list of the kinds that
are idle, which becomes shorter with every nested call.

**Other commands.**  Plans are lists of texts and `copy` and `delete` answer with
one text.  Deleting the graph drops the names in the cache, and so does closing.
-/

namespace GraphClient

/-- A connection sends a command with its arguments and hands over the reply. -/
abbrev Connection (τ : Type) := Command → List String → Attempt τ Reply

/-- A named graph, the options of its commands and the number of its cache. -/
structure Handle where
  graph : String
  options : Options
  cache : Nat
deriving DecidableEq, Repr

namespace Handle

variable {τ : Type}

def describe (handle : Handle) (cache : Cache) : List Char :=
  formListing "Graph"
    [named "name" (quoteVisible handle.graph),
     named "options" handle.options.describe,
     named "cache" cache.describe]

/-- The command for queries that need not be read-only. -/
def queryCommand (handle : Handle) : Command :=
  if handle.options.readOnly then .readOnlyQuery else .query

/-- The limit of time of a query: its own, or else that of the handle. -/
def timeoutOf (handle : Handle) (own : Option Nat) : Option Nat :=
  own.or handle.options.timeout

/-- Sends a query and reads the reply; lists of names come from `fetch`. -/
def exchange
    (connection : Connection τ)
    (handle : Handle)
    (fetch : Fetch τ)
    (command : Command)
    (query : String)
    (timeout : Option Nat) :
    Attempt (Backed τ) Table := do
  let arguments := queryArguments handle.graph query (handle.timeoutOf timeout)
  let reply ← Backed.onServer (connection command arguments)
  Backed.decode fetch reply

/-- Fetches the list of a kind by a call of its procedure, if the kind is among `idle`. -/
def fetch
    (connection : Connection τ)
    (handle : Handle)
    (idle : List Kind)
    (kind : Kind) :
    Attempt (Backed τ) Table :=
  if _hIdle : kind ∈ idle then
    handle.exchange connection (fetch connection handle (idle.erase kind)) handle.queryCommand
      (callText kind.procedure [] []) none
  else throw (.blocked kind)
termination_by idle.length
decreasing_by
  have hPositive := List.length_pos_of_mem _hIdle
  rw [List.length_erase_of_mem _hIdle]
  omega

/-- The reply to the call of an idle kind is read while that kind is busy. -/
theorem fetch_of_mem
    (connection : Connection τ)
    (handle : Handle)
    {idle : List Kind}
    {kind : Kind}
    (h : kind ∈ idle) :
    handle.fetch connection idle kind =
      handle.exchange connection (handle.fetch connection (idle.erase kind))
        handle.queryCommand (callText kind.procedure [] []) none := by
  rw [fetch]
  simp [h]

/-- The list of a busy kind cannot be fetched. -/
theorem fetch_of_not_mem
    (connection : Connection τ)
    (handle : Handle)
    {idle : List Kind}
    {kind : Kind}
    (h : kind ∉ idle) :
    handle.fetch connection idle kind = throw (.blocked kind) := by
  rw [fetch]
  simp [h]

/-- Sends a query and reads the reply; every list of names may be fetched. -/
def ask
    (connection : Connection τ)
    (handle : Handle)
    (command : Command)
    (query : String)
    (timeout : Option Nat) :
    Attempt (Backed τ) Table :=
  handle.exchange connection (handle.fetch connection Kind.all) command query timeout

/-- What is done when a handle is opened: every list is fetched if the options say so. -/
def opening (connection : Connection τ) (handle : Handle) : Attempt (Backed τ) Unit :=
  if handle.options.warmOnOpen then Backed.warm (handle.fetch connection Kind.all) else pure ()

/-- The text of a reply that is no error of the server. -/
def statusText (reply : Reply) : Except Failure String :=
  match reply with
  | .error message => .error (.evaluation message)
  | reply => (reply.toText "command status").mapError .malformed

/-- The lines of a reply that is no error of the server. -/
def planLines (reply : Reply) : Except Failure (List String) :=
  match reply with
  | .error message => .error (.evaluation message)
  | reply =>
      (do
        let items ← reply.toItems "plan"
        items.mapM (Reply.toText "plan line")).mapError .malformed

/-- Sends a command other than a query and reads the reply. -/
def command
    {α : Type}
    (connection : Connection τ)
    (command : Command)
    (arguments : List String)
    (read : Reply → Except Failure α) :
    Attempt (Backed τ) α := do
  let reply ← Backed.onServer (connection command arguments)
  match read reply with
  | .ok value => pure value
  | .error failure => throw failure

end Handle

/-- What a handle can be asked to do. -/
inductive Operation where
  /-- A query, forced to be read-only or not, with a limit of time and parameters. -/
  | query (query : String) (readOnly : Bool) (timeout : Option Nat) (parameters : Fields Value)
  | call (procedure : String) (arguments columns : List String)
  | explain (query : String)
  | profile (query : String)
  | copy (destination : String)
  | delete
  /-- The end of work with the handle. -/
  | close
  | resolve (kind : Kind) (index : Nat)
  | warm

namespace Operation

variable {τ : Type}

/-- Does an operation through a handle, with its cache and the connection. -/
def perform
    (connection : Connection τ)
    (handle : Handle) :
    Operation → Attempt (Backed τ) Answer
  | .query text readOnly timeout parameters =>
      match queryText text parameters with
      | .error failure => throw failure
      | .ok prepared => do
          let command := if readOnly then .readOnlyQuery else handle.queryCommand
          let table ← handle.ask connection command prepared timeout
          pure (.table table)
  | .call procedure arguments columns => do
      let prepared := callText procedure arguments columns
      let table ← handle.ask connection handle.queryCommand prepared none
      pure (.table table)
  | .explain text => do
      let lines ← Handle.command connection .explain [handle.graph, text] Handle.planLines
      pure (.lines lines)
  | .profile text => do
      let lines ← Handle.command connection .profile [handle.graph, text] Handle.planLines
      pure (.lines lines)
  | .copy destination => do
      let status ←
        Handle.command connection .copy [handle.graph, destination] Handle.statusText
      pure (.text status)
  | .delete => do
      let status ← Handle.command connection .delete [handle.graph] Handle.statusText
      Backed.clear
      pure (.text status)
  | .close => do
      Backed.clear
      pure .done
  | .resolve kind index => do
      let name ← Backed.resolve (handle.fetch connection Kind.all) kind index
      pure (.text name)
  | .warm => do
      Backed.warm (handle.fetch connection Kind.all)
      pure .done

end Operation

end GraphClient
