import GraphClient.Proofs.Schema.Transparency
import GraphClient.Proofs.Wire.RoundTrip
import GraphClient.Session.Script

/-!
# Lists through handles

A handle fetches the lists of names by queries of its own, over the connection that
its other commands use.  The reply to such a query is a table of texts, so reading it
needs no further name, and the fetch ends in the list of the server.

A connection is *faithful* to a schema if no command changes the schema and if it
answers the calls of the schema procedures by the lists of the schema.  Over such a
connection a handle is a complete source of these lists (`Handle.complete_fetch`).
A script with a server behind it is one (`Script.faithful_serve`).
-/

namespace GraphClient

/-- The list of a kind as it is read from the reply to a call of its procedure. -/
def Names.listed (names : Names) (kind : Kind) : Table :=
  { names.table kind with statistics := .ofLines ["Cached execution: 0"] }

namespace Names

theorem lists_listed (names : Names) (kind : Kind) : (names.listed kind).Lists (names.of kind) :=
  names.lists_table kind

theorem rowsOfReplies_texts (column : String) (texts : List String) :
    rowsOfReplies [⟨column, .scalar⟩]
        (texts.map fun text => .array [.tagged .string (.ofText text)]) =
      .done (texts.map fun text => [.string text]) := by
  induction texts with
  | nil => rfl
  | cons text rest ih =>
      have hCell : Value.ofReply (.tagged .string (.ofText text)) = .done (.string text) := by
        rw [Value.ofReply_tagged, Value.ofTagged, Reply.toText_ofText]
        rfl
      have hRow :
          rowOfReply [⟨column, .scalar⟩] (.array [.tagged .string (.ofText text)]) =
            .done [.string text] := by
        change cellsOfReplies [⟨column, .scalar⟩] [.tagged .string (.ofText text)] = _
        simp only [cellsOfReplies, cellOfReply, hCell]
        rfl
      rw [List.map_cons, rowsOfReplies, hRow, ih]
      rfl

/-- The reply with a list is read without asking for a name. -/
theorem ofReply_reply (names : Names) (kind : Kind) :
    Table.ofReply (names.reply kind) = .done (names.listed kind) := by
  have hColumns := Column.listOfReply_wire [⟨kind.column, .scalar⟩]
  have hRows := rowsOfReplies_texts kind.column (names.of kind)
  have hLines := Statistics.ofReply_lines ["Cached execution: 0"]
  simp only [List.map_cons, List.map_nil, Column.wire, Reply.tagged] at hColumns hRows hLines
  rw [reply, Table.ofReply, Reply.toItems, Lookup.lift_ok, Lookup.done_bind]
  dsimp only
  rw [hColumns, Lookup.lift_ok, Lookup.done_bind, Reply.toItems, Lookup.lift_ok,
    Lookup.done_bind, hRows, Lookup.done_bind, hLines]
  rfl

end Names

/-- Connections that leave a schema alone and answer for its lists. -/
structure Connection.Faithful
    {τ : Type} (schema : τ → Names) (connection : Connection τ) : Prop where
  schema_eq : ∀ command arguments link,
    schema ((connection command arguments).on link).2 = schema link
  lists : ∀ command graph kind timeout link,
    ((connection command (queryArguments graph (callText kind.procedure [] []) timeout)).on
      link).1 = .ok ((schema link).reply kind)

namespace Handle

variable {τ : Type} {schema : τ → Names} {connection : Connection τ}

/-- A list that may be fetched is fetched by one command, and the cache is not touched. -/
theorem on_fetch
    (hFaithful : connection.Faithful schema)
    (handle : Handle)
    {idle : List Kind}
    {kind : Kind}
    (hIdle : kind ∈ idle)
    (backed : Backed τ) :
    (handle.fetch connection idle kind).on backed =
      (.ok ((schema backed.server).listed kind),
        ⟨backed.cache, ((connection handle.queryCommand (queryArguments handle.graph
          (callText kind.procedure [] []) (handle.timeoutOf none))).on backed.server).2⟩) := by
  have hReply := hFaithful.lists handle.queryCommand handle.graph kind (handle.timeoutOf none)
    backed.server
  rw [fetch_of_mem connection handle hIdle, exchange, Attempt.on_bind, Backed.on_onServer]
  simp only [hReply]
  -- The reply is a table without a single name, so the nested fetch is never asked.
  unfold Backed.decode Table.decode
  have hError : ((schema backed.server).reply kind).serverError? = none := rfl
  rw [hError, Names.ofReply_reply]
  rfl

/-- A handle on a faithful connection is a complete source of the lists of the schema. -/
theorem complete_fetch
    (hFaithful : connection.Faithful schema)
    (handle : Handle) :
    Fetch.Complete schema (handle.fetch connection Kind.all) := by
  have hFetch := fun (kind : Kind) => handle.on_fetch hFaithful kind.mem_all
  constructor
  · constructor
    · intro kind backed
      rw [hFetch]
    · intro kind backed
      rw [hFetch]
      exact hFaithful.schema_eq _ _ backed.server
    · intro kind backed table hTable
      rw [hFetch] at hTable
      cases hTable
      exact Names.lists_listed _ kind
  · intro kind backed
    exact ⟨_, by rw [hFetch]⟩

end Handle

namespace Script

abbrev names (script : Script) : Names := script.server.names

theorem calledKind?_callText (kind : Kind) :
    calledKind? (callText kind.procedure [] []) = some kind := by
  cases kind <;> decide

/-- A call of a schema procedure is written down and answered by the server. -/
theorem on_serve_call
    (command : Command)
    (graph : String)
    (kind : Kind)
    (timeout : Option Nat)
    (script : Script) :
    let arguments := queryArguments graph (callText kind.procedure [] []) timeout
    (serve command arguments).on script =
      (.ok (script.names.reply kind),
        { script with
          sent := script.sent ++ [⟨command, arguments⟩]
          server := script.server.ask kind }) := by
  intro arguments
  have hCalled : (SentCommand.mk command arguments).calledKind? = some kind :=
    calledKind?_callText kind
  simp only [serve, Attempt.on_bind, Attempt.on_modify, hCalled]
  rfl

theorem names_serve
    (command : Command)
    (arguments : List String)
    (script : Script) :
    ((serve command arguments).on script).2.names = script.names := by
  simp only [serve, Attempt.on_bind, Attempt.on_modify]
  cases (SentCommand.mk command arguments).calledKind? with
  | some kind => rfl
  | none =>
      simp only [next, Attempt.on_ofFunction, record]
      cases script.queue <;> rfl

/-- A script answers for the lists of its server. -/
theorem faithful_serve : Connection.Faithful names serve where
  schema_eq := names_serve
  lists command graph kind timeout script := by rw [on_serve_call]

end Script

end GraphClient
