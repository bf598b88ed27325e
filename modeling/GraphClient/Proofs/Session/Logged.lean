import GraphClient.Proofs.Schema.Journal
import GraphClient.Session.Basic

/-!
# A log beside a connection

Any connection can be made to write down the commands that it is given
(`Connection.logged`), and this cannot be told from what is done over it.

**Connections that look alike.**  A connection *shows* another one through a view of its
state if every command does (`Connection.Shows`).  All that handles and sessions do with a
connection is to give it commands and to read what comes back.  So a fetch through a handle
shows the fetch over the other connection, by induction on the kinds that are idle
(`Handle.shows_fetch`), and likewise every operation (`Operation.shows_perform`) and every
action of a session (`Action.shows_perform`).

**Results.**  The log of a logged connection goes on with each command
(`Connection.records_logged`), and what is shown of it is the connection itself
(`Connection.shows_logged`).
-/

namespace GraphClient

/-- Every command is written down at the end of a log, whatever comes of it. -/
def Connection.Records
    {τ : Type}
    (log : τ → List SentCommand)
    (connection : Connection τ) :
    Prop :=
  ∀ command arguments link,
    log ((connection command arguments).on link).2 = log link ++ [⟨command, arguments⟩]

/-- Every command shows the same command over the other connection. -/
def Connection.Shows
    {τ υ : Type}
    (view : τ → υ)
    (connection : Connection τ)
    (shown : Connection υ) :
    Prop :=
  ∀ command arguments, (connection command arguments).Shows view (shown command arguments)

/-- A connection together with a log. -/
structure Logged (τ : Type) where
  link : τ
  sent : List SentCommand

namespace Connection

variable {τ : Type}

/-- Does what a connection does and writes down what it is given. -/
def logged (connection : Connection τ) : Connection (Logged τ) :=
  fun command arguments =>
    Attempt.ofFunction fun logged =>
      let (outcome, link) := (connection command arguments).on logged.link
      (outcome, ⟨link, logged.sent ++ [⟨command, arguments⟩]⟩)

theorem records_logged (connection : Connection τ) : connection.logged.Records Logged.sent :=
  fun _ _ _ => rfl

theorem shows_logged (connection : Connection τ) : connection.logged.Shows Logged.link connection :=
  fun _ _ _ => rfl

end Connection

section Views

variable {τ υ α : Type} {view : τ → υ}

theorem Backed.shows_onServer
    {attempt : Attempt τ α}
    {shown : Attempt υ α}
    (hShows : attempt.Shows view shown) :
    (onServer attempt).Shows (mapServer view) (onServer shown) :=
  fun backed =>
    congrArg (fun result => (result.1, Backed.mk backed.cache result.2)) (hShows backed.server)

namespace Session

/-- The same session with what a view shows of the connection. -/
def mapLink (view : τ → υ) (session : Session τ) : Session υ :=
  ⟨view session.link, session.caches, session.handles⟩

theorem handle?_mapLink
    (session : Session τ)
    (number : Nat) :
    (session.mapLink view).handle? number = session.handle? number := rfl

theorem shows_onLink
    {attempt : Attempt τ α}
    {shown : Attempt υ α}
    (hShows : attempt.Shows view shown) :
    (onLink attempt).Shows (mapLink view) (onLink shown) :=
  fun session =>
    congrArg (fun result => (result.1, Session.mk result.2 session.caches session.handles))
      (hShows session.link)

theorem shows_withCache
    (number : Nat)
    (cache : Cache)
    {attempt : Attempt (Backed τ) α}
    {shown : Attempt (Backed υ) α}
    (hShows : attempt.Shows (Backed.mapServer view) shown) :
    (withCache number cache attempt).Shows (mapLink view) (withCache number cache shown) :=
  fun session =>
    congrArg
      (fun result =>
        (result.1,
          Session.mk result.2.server (session.caches.set number result.2.cache) session.handles))
      (hShows ⟨cache, session.link⟩)

end Session

section Connections

variable {connection : Connection τ} {shown : Connection υ}
variable (hShows : connection.Shows view shown)

include hShows

namespace Handle

theorem shows_exchange
    (handle : Handle)
    {fetch : Fetch τ}
    {shownFetch : Fetch υ}
    (hFetch : ∀ kind, (fetch kind).Shows (Backed.mapServer view) (shownFetch kind))
    (command : Command)
    (query : String)
    (timeout : Option Nat) :
    (handle.exchange connection fetch command query timeout).Shows (Backed.mapServer view)
      (handle.exchange shown shownFetch command query timeout) :=
  (Backed.shows_onServer (hShows command _)).bind fun reply => Backed.shows_decode hFetch reply

theorem shows_fetch
    (handle : Handle)
    (idle : List Kind)
    (kind : Kind) :
    (handle.fetch connection idle kind).Shows (Backed.mapServer view)
      (handle.fetch shown idle kind) := by
  fun_induction handle.fetch connection idle kind with
  | case1 idle kind hIdle ih =>
      rw [fetch_of_mem shown handle hIdle]
      exact handle.shows_exchange hShows ih _ _ _
  | case2 idle kind hBusy =>
      rw [fetch_of_not_mem shown handle hBusy]
      exact .throw _

theorem shows_ask
    (handle : Handle)
    (command : Command)
    (query : String)
    (timeout : Option Nat) :
    (handle.ask connection command query timeout).Shows (Backed.mapServer view)
      (handle.ask shown command query timeout) :=
  handle.shows_exchange hShows (handle.shows_fetch hShows Kind.all) command query timeout

theorem shows_warm (handle : Handle) :
    (Backed.warm (handle.fetch connection Kind.all)).Shows (Backed.mapServer view)
      (Backed.warm (handle.fetch shown Kind.all)) :=
  Backed.shows_refreshAll
    (fun kind => Backed.shows_refresh (handle.shows_fetch hShows Kind.all kind)) Kind.all

theorem shows_opening (handle : Handle) :
    (handle.opening connection).Shows (Backed.mapServer view) (handle.opening shown) := by
  unfold opening
  cases handle.options.warmOnOpen with
  | true => exact handle.shows_warm hShows
  | false => exact .pure ()

theorem shows_command
    (command : Command)
    (arguments : List String)
    (read : Reply → Except Failure α) :
    (Handle.command connection command arguments read).Shows (Backed.mapServer view)
      (Handle.command shown command arguments read) := by
  refine (Backed.shows_onServer (hShows command arguments)).bind fun reply => ?_
  cases read reply with
  | ok value => exact .pure value
  | error failure => exact .throw failure

end Handle

theorem Operation.shows_perform
    (handle : Handle)
    (operation : Operation) :
    (operation.perform connection handle).Shows (Backed.mapServer view)
      (operation.perform shown handle) := by
  cases operation with
  | query text readOnly timeout parameters =>
      rw [perform, perform]
      cases queryText text parameters with
      | error failure => exact .throw failure
      | ok prepared => exact (handle.shows_ask hShows _ _ _).bind fun _ => .pure _
  | call procedure arguments columns =>
      exact (handle.shows_ask hShows _ _ _).bind fun _ => .pure _
  | explain query | profile query | copy destination =>
      exact (Handle.shows_command hShows _ _ _).bind fun _ => .pure _
  | delete =>
      refine (Handle.shows_command hShows _ _ _).bind fun _ => ?_
      exact Attempt.Shows.bind (fun _ => rfl) fun _ => .pure _
  | close => exact fun _ => rfl
  | resolve kind index =>
      have hFetch := handle.shows_fetch hShows Kind.all kind
      exact (Backed.shows_resolve hFetch index).bind fun _ => .pure _
  | warm => exact (handle.shows_warm hShows).bind fun _ => .pure _

theorem Session.shows_select
    (graph : String)
    (options : Options) :
    (select connection graph options).Shows (mapLink view) (select shown graph options) := by
  intro session
  let handle : Handle := ⟨graph, options, session.caches.length⟩
  have hOpening := handle.shows_opening hShows ⟨.new graph, session.link⟩
  rw [select, select, Attempt.on_ofFunction, Attempt.on_ofFunction]
  dsimp only [mapLink, Backed.mapServer] at hOpening ⊢
  rw [← hOpening]
  rcases (handle.opening connection).on ⟨.new graph, session.link⟩ with
    ⟨failure | done, backed⟩ <;> rfl

/-- What is done over a connection that shows another one is what is done over that one. -/
theorem Action.shows_perform
    (action : Action) :
    (action.perform connection).Shows (Session.mapLink view) (action.perform shown) := by
  cases action with
  | select graph options => exact (Session.shows_select hShows graph options).bind fun _ => .pure _
  | clone number =>
      refine .get_bind fun session => ?_
      rw [Session.handle?_mapLink]
      cases session.handle? number with
      | none => exact .pure _
      | some found => exact Attempt.Shows.bind (fun _ => rfl) fun _ => .pure _
  | through number operation =>
      refine .get_bind fun session => ?_
      rw [Session.handle?_mapLink]
      cases session.handle? number with
      | none => exact .pure _
      | some found =>
          exact Session.shows_withCache _ _ (operation.shows_perform hShows found.1)
  | list =>
      have hListed := (Session.shows_onLink (hShows .list [])).bind fun reply =>
        .pure (Session.graphNames reply)
      exact hListed.bind fun _ => .pure _

end Connections

end Views

end GraphClient
