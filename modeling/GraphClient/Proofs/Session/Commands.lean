import GraphClient.Proofs.Session.Isolation
import GraphClient.Proofs.Session.Logged

/-!
# What a handle sends

A handle is opened for a graph with options, and on these terms it sends everything that
it sends.  What it sends is read off a log, over a connection that records its commands
(`Connection.Records`).

**Grammar.**  `Operation.Sends` has one case for each thing that can be done through a
handle and says which commands this sends, and in which order.  Calls of schema
procedures (`Terms.listing`) may follow the command of a query, as many as the replies
make necessary, and nothing else does: a fetch sends such calls only, whatever fetches it
makes necessary in turn (`Handle.lists_fetch`), and reading a reply does nothing but fetch
(`Backed.preserves_decode`).

**Results.**  `Operation.sends_perform` reads this off the log for one operation.  What all
commands of a handle have in common is `Terms.Permits` (`Operation.Sends.permits`).
-/

namespace GraphClient

/-- A command that carries a query. -/
def Command.isQuery : Command → Bool
  | .query | .readOnlyQuery => true
  | _ => false

/-- On the wire no other command can be taken for a query that may write. -/
theorem Command.name_ne_query
    {command : Command}
    (hOther : command ≠ .query) :
    command.name ≠ "GRAPH.QUERY" := by
  cases command with
  | query => exact absurd rfl hOther
  | _ => decide

/-- The graph and the options that a handle is opened with. -/
structure Terms where
  graph : String
  options : Options
deriving DecidableEq, Repr

namespace Terms

def queryCommand (terms : Terms) : Command :=
  if terms.options.readOnly then .readOnlyQuery else .query

/-- The call of the procedure that lists the names of a kind. -/
def listing (terms : Terms) (kind : Kind) : SentCommand :=
  ⟨terms.queryCommand,
    [terms.graph, "CALL " ++ kind.procedure ++ "()", "--compact"] ++
      match terms.options.timeout with
      | none => []
      | some milliseconds => ["timeout", toString milliseconds]⟩

/--
What holds of every command that is sent on given terms, when the caller has set `own` as
the limit of time or has set none.
-/
structure Permits (terms : Terms) (own : Option Nat) (entry : SentCommand) : Prop where
  graph : entry.arguments.head? = some terms.graph
  readOnly : terms.options.readOnly = true →
    entry.command ≠ .query ∧ entry.command.name ≠ "GRAPH.QUERY"
  query : entry.command.isQuery = true →
    (∃ text,
      entry.arguments =
        [terms.graph, text, "--compact"] ++
          match own.or terms.options.timeout with
          | none => []
          | some milliseconds => ["timeout", toString milliseconds]) ∨
    (∃ kind, entry = terms.listing kind)

variable {terms : Terms}

theorem queryCommand_ne_query (hReadOnly : terms.options.readOnly = true) :
    terms.queryCommand ≠ .query := by
  simp [queryCommand, hReadOnly]

theorem permits_query
    {command : Command}
    (hCommand : command = .readOnlyQuery ∨ command = terms.queryCommand)
    (text : String)
    (own : Option Nat) :
    terms.Permits own
      ⟨command, queryArguments terms.graph text (own.or terms.options.timeout)⟩ where
  graph := rfl
  readOnly hReadOnly := by
    have hOther : command ≠ .query := by
      rcases hCommand with rfl | rfl
      · exact Command.noConfusion
      · exact queryCommand_ne_query hReadOnly
    exact ⟨hOther, Command.name_ne_query hOther⟩
  query _ := Or.inl ⟨text, rfl⟩

theorem permits_listing
    (kind : Kind)
    (own : Option Nat) :
    terms.Permits own (terms.listing kind) where
  graph := rfl
  readOnly hReadOnly := by
    have hOther := queryCommand_ne_query hReadOnly
    exact ⟨hOther, Command.name_ne_query hOther⟩
  query _ := Or.inr ⟨kind, rfl⟩

theorem permits_listings
    (kinds : List Kind)
    (own : Option Nat) :
    ∀ entry ∈ kinds.map terms.listing, terms.Permits own entry := by
  intro entry hEntry
  obtain ⟨kind, -, rfl⟩ := List.mem_map.mp hEntry
  exact permits_listing kind own

/-- Plans, copies and deletions are no queries. -/
theorem permits_other
    {command : Command}
    (hCommand : command.isQuery = false)
    (rest : List String)
    (own : Option Nat) :
    terms.Permits own ⟨command, terms.graph :: rest⟩ where
  graph := rfl
  readOnly _ := by
    have hOther : command ≠ .query := by
      rintro rfl
      cases hCommand
    exact ⟨hOther, Command.name_ne_query hOther⟩
  query hQuery := by
    have hOther := hCommand.symm.trans hQuery
    cases hOther

end Terms

theorem callText_bare (procedure : String) :
    callText procedure [] [] = "CALL " ++ procedure ++ "()" := by
  have hChars :
      callText procedure [] [] =
        String.ofList ("CALL ".toList ++ procedure.toList ++ ['('] ++ [')']) := rfl
  rw [hChars, List.append_assoc _ ['('] [')'], String.ofList_append, String.ofList_append,
    String.ofList_toList, String.ofList_toList]
  rfl

namespace Backed

variable {σ α : Type} {invariant : σ → Prop} {fetch : Fetch σ}

/-- The attempt keeps an invariant of the server, whatever it does to the cache. -/
abbrev Preserves (invariant : σ → Prop) (attempt : Attempt (Backed σ) α) : Prop :=
  attempt.Keeps (fun _ => ()) (fun backed => invariant backed.server)

theorem preserves_changeCache (change : Cache → Cache) :
    Preserves invariant (changeCache (σ := σ) change) :=
  fun _ hServer => ⟨rfl, hServer⟩

theorem preserves_get : Preserves invariant (get : Attempt (Backed σ) (Backed σ)) :=
  fun _ hServer => ⟨rfl, hServer⟩

theorem preserves_refresh
    {kind : Kind}
    (hFetch : Preserves invariant (fetch kind)) :
    Preserves invariant (refresh fetch kind) := by
  refine preserves_get.bind fun before => hFetch.bind fun table => ?_
  refine (preserves_changeCache _).bind fun _ => ?_
  cases unseenNames (before.cache.known kind) table with
  | ok tail => exact preserves_changeCache _
  | error reason => exact .throw _

theorem preserves_resolve
    {kind : Kind}
    (hFetch : Preserves invariant (fetch kind))
    (index : Nat) :
    Preserves invariant (resolve fetch kind index) := by
  refine (preserves_changeCache _).bind fun _ => preserves_get.bind fun before => ?_
  cases (before.cache.names.of kind)[index]? with
  | some name => exact (preserves_changeCache _).bind fun _ => .pure _
  | none =>
      refine (preserves_refresh hFetch).bind fun _ => preserves_get.bind fun after => ?_
      cases (after.cache.names.of kind)[index]? with
      | some name => exact .pure _
      | none => exact .throw _

theorem preserves_decode
    (hFetch : ∀ kind, Preserves invariant (fetch kind))
    (reply : Reply) :
    Preserves invariant (decode fetch reply) :=
  Table.keeps_decode (fun kind index => preserves_resolve (hFetch kind) index) reply

end Backed

/-- The log goes on with calls of schema procedures and with nothing else. -/
def Terms.Lists (terms : Terms) (before after : List SentCommand) : Prop :=
  ∃ kinds : List Kind, after = before ++ kinds.map terms.listing

theorem Terms.lists_refl (terms : Terms) (before : List SentCommand) : terms.Lists before before :=
  ⟨[], (List.append_nil before).symm⟩

namespace Handle

variable {τ α : Type} {log : τ → List SentCommand} {connection : Connection τ}

/-- The terms on which a handle sends its commands. -/
def terms (handle : Handle) : Terms := ⟨handle.graph, handle.options⟩

theorem lists_call
    (hRecords : connection.Records log)
    (handle : Handle)
    (before : List SentCommand)
    (kind : Kind) :
    Backed.Preserves (fun link => handle.terms.Lists before (log link))
      (Backed.onServer (connection handle.queryCommand
        (queryArguments handle.graph (callText kind.procedure [] [])
          (handle.timeoutOf none)))) := by
  rintro backed ⟨kinds, hKinds⟩
  refine ⟨rfl, kinds ++ [kind], ?_⟩
  rw [Backed.on_onServer]
  dsimp only
  rw [hRecords, hKinds, callText_bare, List.map_append, List.append_assoc]
  rfl

/-- Fetching a list sends the call of its procedure, and more such calls for nested fetches. -/
theorem lists_fetch
    (hRecords : connection.Records log)
    (handle : Handle)
    (before : List SentCommand)
    (idle : List Kind)
    (kind : Kind) :
    Backed.Preserves (fun link => handle.terms.Lists before (log link))
      (handle.fetch connection idle kind) := by
  refine handle.fetch_induction connection (fun _ => .throw _) ?_ idle kind
  intro fetch other hFetch
  refine (handle.lists_call hRecords before other).bind fun reply => ?_
  exact Backed.preserves_decode hFetch reply

/-- A query sends its command first, and after it nothing but calls of schema procedures. -/
theorem log_ask
    (hRecords : connection.Records log)
    (handle : Handle)
    (command : Command)
    (query : String)
    (timeout : Option Nat)
    (backed : Backed τ) :
    ∃ kinds : List Kind,
      log ((handle.ask connection command query timeout).on backed).2.server =
        log backed.server ++
          ⟨command, queryArguments handle.graph query (handle.timeoutOf timeout)⟩ ::
            kinds.map handle.terms.listing := by
  have hSent := hRecords command
    (queryArguments handle.graph query (handle.timeoutOf timeout)) backed.server
  rw [ask, exchange, Attempt.on_bind, Backed.on_onServer]
  rcases hOn : (connection command (queryArguments handle.graph query
    (handle.timeoutOf timeout))).on backed.server with ⟨failure | reply, link⟩
  all_goals rw [hOn] at hSent
  · exact ⟨[], hSent⟩
  · obtain ⟨-, kinds, hKinds⟩ :=
      Backed.preserves_decode (handle.lists_fetch hRecords (log link) Kind.all) reply
        ⟨backed.cache, link⟩ (handle.terms.lists_refl (log link))
    refine ⟨kinds, hKinds.trans ?_⟩
    rw [hSent, List.append_assoc]
    rfl

/-- A command other than a query is sent alone. -/
theorem log_command
    (hRecords : connection.Records log)
    (command : Command)
    (arguments : List String)
    (read : Reply → Except Failure α)
    (backed : Backed τ) :
    log ((Handle.command connection command arguments read).on backed).2.server =
      log backed.server ++ [⟨command, arguments⟩] := by
  rw [Handle.command, Attempt.on_bind, Backed.on_onServer, ← hRecords]
  rcases (connection command arguments).on backed.server with ⟨failure | reply, link⟩
  · rfl
  · dsimp only
    cases read reply <;> rfl

theorem log_refreshAll
    (hRecords : connection.Records log)
    (handle : Handle)
    (wanted : List Kind)
    (backed : Backed τ) :
    handle.terms.Lists (log backed.server)
      (log ((Backed.refreshAll (handle.fetch connection Kind.all) wanted).on
        backed).2.server) := by
  have hRefresh := fun kind =>
    Backed.preserves_refresh (handle.lists_fetch hRecords (log backed.server) Kind.all kind)
  exact (Backed.keeps_refreshAll hRefresh wanted backed (handle.terms.lists_refl _)).2

end Handle

namespace Operation

/-- The limit of time that the caller sets for a query. -/
def timeout? : Operation → Option Nat
  | .query _ _ timeout _ => timeout
  | _ => none

/-- The commands that an operation may send on given terms, in their order. -/
inductive Sends (terms : Terms) : Operation → List SentCommand → Prop
  | query {text prepared : String} {readOnly : Bool} {timeout : Option Nat}
      {parameters : Fields Value} (kinds : List Kind) :
      queryText text parameters = .ok prepared →
      Sends terms (.query text readOnly timeout parameters)
        (⟨if readOnly then .readOnlyQuery else terms.queryCommand,
            [terms.graph, prepared, "--compact"] ++
              match timeout.or terms.options.timeout with
              | none => []
              | some milliseconds => ["timeout", toString milliseconds]⟩ ::
          kinds.map terms.listing)
  /-- A parameter cannot be written, so there is no query to send. -/
  | unwritten {text : String} {readOnly : Bool} {timeout : Option Nat}
      {parameters : Fields Value} {failure : Failure} :
      queryText text parameters = .error failure →
      Sends terms (.query text readOnly timeout parameters) []
  | call (procedure : String) (arguments columns : List String) (kinds : List Kind) :
      Sends terms (.call procedure arguments columns)
        (⟨terms.queryCommand,
            [terms.graph, callText procedure arguments columns, "--compact"] ++
              match terms.options.timeout with
              | none => []
              | some milliseconds => ["timeout", toString milliseconds]⟩ ::
          kinds.map terms.listing)
  | explain (query : String) :
      Sends terms (.explain query) [⟨.explain, [terms.graph, query]⟩]
  | profile (query : String) :
      Sends terms (.profile query) [⟨.profile, [terms.graph, query]⟩]
  | copy (destination : String) :
      Sends terms (.copy destination) [⟨.copy, [terms.graph, destination]⟩]
  | delete : Sends terms .delete [⟨.delete, [terms.graph]⟩]
  | close : Sends terms .close []
  | resolve (kind : Kind) (index : Nat) (kinds : List Kind) :
      Sends terms (.resolve kind index) (kinds.map terms.listing)
  | warm (kinds : List Kind) : Sends terms .warm (kinds.map terms.listing)

variable {τ : Type} {log : τ → List SentCommand} {connection : Connection τ}

theorem sends_perform
    (hRecords : connection.Records log)
    (handle : Handle)
    (operation : Operation)
    (backed : Backed τ) :
    ∃ sent, operation.Sends handle.terms sent ∧
      log ((operation.perform connection handle).on backed).2.server =
        log backed.server ++ sent := by
  have hPlan := fun command arguments =>
    Handle.log_command (α := List String) hRecords command arguments Handle.planLines backed
  have hStatus := fun command arguments =>
    Handle.log_command (α := String) hRecords command arguments Handle.statusText backed
  cases operation with
  | query text readOnly timeout parameters =>
      rw [perform]
      cases hText : queryText text parameters with
      | error failure => exact ⟨[], .unwritten hText, (List.append_nil _).symm⟩
      | ok prepared =>
          obtain ⟨kinds, hLog⟩ := handle.log_ask hRecords
            (if readOnly then .readOnlyQuery else handle.queryCommand) prepared timeout backed
          refine ⟨_, .query kinds hText, ?_⟩
          dsimp only
          rw [Attempt.on_bind_pure]
          exact hLog
  | call procedure arguments columns =>
      obtain ⟨kinds, hLog⟩ := handle.log_ask hRecords handle.queryCommand
        (callText procedure arguments columns) none backed
      refine ⟨_, .call procedure arguments columns kinds, ?_⟩
      rw [perform, Attempt.on_bind_pure]
      exact hLog
  | explain query =>
      refine ⟨_, .explain query, ?_⟩
      rw [perform, Attempt.on_bind_pure]
      exact hPlan _ _
  | profile query =>
      refine ⟨_, .profile query, ?_⟩
      rw [perform, Attempt.on_bind_pure]
      exact hPlan _ _
  | copy destination =>
      refine ⟨_, .copy destination, ?_⟩
      rw [perform, Attempt.on_bind_pure]
      exact hStatus _ _
  | delete =>
      refine ⟨_, .delete, Eq.trans ?_ (hStatus .delete [handle.graph])⟩
      rw [perform, Attempt.on_bind]
      rcases (Handle.command connection .delete [handle.graph] Handle.statusText).on backed with
        ⟨failure | status, after⟩ <;> rfl
  | close => exact ⟨[], .close, (List.append_nil _).symm⟩
  | resolve kind index =>
      have hResolve := Backed.preserves_resolve
        (handle.lists_fetch hRecords (log backed.server) Kind.all kind) index
      obtain ⟨-, kinds, hKinds⟩ := hResolve backed (handle.terms.lists_refl _)
      refine ⟨_, .resolve kind index kinds, ?_⟩
      rw [perform, Attempt.on_bind_pure]
      exact hKinds
  | warm =>
      obtain ⟨kinds, hKinds⟩ := handle.log_refreshAll hRecords Kind.all backed
      refine ⟨_, .warm kinds, ?_⟩
      rw [perform, Attempt.on_bind_pure]
      exact hKinds

/-- Whatever an operation sends is permitted on the terms. -/
theorem Sends.permits
    {terms : Terms}
    {operation : Operation}
    {sent : List SentCommand}
    (hSends : operation.Sends terms sent) :
    ∀ entry ∈ sent, terms.Permits operation.timeout? entry := by
  cases hSends with
  | @query text prepared readOnly timeout parameters kinds _ =>
      refine List.forall_mem_cons.mpr ⟨?_, Terms.permits_listings kinds timeout⟩
      cases readOnly with
      | false => exact Terms.permits_query (Or.inr rfl) prepared timeout
      | true => exact Terms.permits_query (Or.inl rfl) prepared timeout
  | call procedure arguments columns kinds =>
      exact List.forall_mem_cons.mpr
        ⟨Terms.permits_query (Or.inr rfl) _ none, Terms.permits_listings kinds none⟩
  | unwritten | close => exact List.forall_mem_nil _
  | explain query | profile query | copy destination | delete =>
      exact List.forall_mem_singleton.mpr (Terms.permits_other rfl _ _)
  | resolve kind index kinds => exact Terms.permits_listings kinds none
  | warm kinds => exact Terms.permits_listings kinds none

end Operation

end GraphClient
