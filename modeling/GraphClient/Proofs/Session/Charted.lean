import GraphClient.Proofs.Session.Commands
import GraphClient.Session.Script

/-!
# What is sent in a run

In a run of a session, handles are opened and cloned and used in any order.  Every command
that is sent for one of them is sent on the terms of that handle.

**Terms.**  The answers to the actions tell on which terms each handle is (`Charted`): an
opened handle on those that it is opened with, and a clone on those of the handle that it
is cloned from.  They stay as they are (`Charted.sound_perform`).

**Grammar.**  `Action.Sends` extends the grammar of operations to actions.  Opening a handle
may send calls of schema procedures, even if nothing comes of it, cloning sends nothing,
and listing the graphs is done for no handle.

**Results.**  `Charted.sends` says what one more action sends after any run over any
connection.  The log is kept beside the connection, and a run with it is the run without
(`Charted.shows_perform`).
-/

namespace GraphClient

/-- Where every handle has a cache, only a handle that does not exist cannot be used. -/
theorem Session.getElem?_of_handle?_eq_none
    {τ : Type}
    {session : Session τ}
    (hOpened : ∀ handle ∈ session.handles, handle.cache < session.caches.length)
    {number : Nat}
    (hClosed : session.handle? number = none) :
    session.handles[number]? = none := by
  cases hHandle : session.handles[number]? with
  | none => rfl
  | some handle =>
      have hCache := List.getElem?_eq_getElem (hOpened handle (List.mem_of_getElem? hHandle))
      rw [handle?_eq_some_iff.mpr ⟨hHandle, hCache⟩] at hClosed
      cases hClosed

namespace Action

/-- The limit of time that the caller sets for a query. -/
def timeout? : Action → Option Nat
  | .through _ operation => operation.timeout?
  | _ => none

/-- The terms of the handle that an action is for, where `granted` holds those of all handles. -/
def terms? (granted : List Terms) : Action → Option Terms
  | .select graph options => some ⟨graph, options⟩
  | .clone number | .through number _ => granted[number]?
  | .list => none

/-- The commands that an action may send, in their order. -/
inductive Sends (granted : List Terms) : Action → List SentCommand → Prop
  | warmed {graph : String} {options : Options} (kinds : List Kind) :
      options.warmOnOpen = true →
      Sends granted (.select graph options) (kinds.map (Terms.mk graph options).listing)
  | opened {graph : String} {options : Options} :
      options.warmOnOpen = false →
      Sends granted (.select graph options) []
  | clone (number : Nat) : Sends granted (.clone number) []
  | through {number : Nat} {operation : Operation} {terms : Terms} {sent : List SentCommand} :
      granted[number]? = some terms →
      operation.Sends terms sent →
      Sends granted (.through number operation) sent
  /-- There is no such handle. -/
  | closed {number : Nat} {operation : Operation} :
      granted[number]? = none →
      Sends granted (.through number operation) []
  | list : Sends granted .list [⟨.list, []⟩]

/-- Whatever an action sends for a handle is permitted on the terms of the handle. -/
theorem Sends.permits
    {granted : List Terms}
    {action : Action}
    {sent : List SentCommand}
    (hSends : action.Sends granted sent)
    {terms : Terms}
    (hTerms : action.terms? granted = some terms) :
    ∀ entry ∈ sent, terms.Permits action.timeout? entry := by
  cases hSends with
  | warmed kinds _ =>
      cases hTerms
      exact Terms.permits_listings kinds none
  | opened _ | clone _ | closed _ => exact List.forall_mem_nil _
  | through hGranted hOperation =>
      have hSame := hGranted.symm.trans hTerms
      cases hSame
      exact hOperation.permits
  | list => cases hTerms

variable {τ : Type} {log : τ → List SentCommand} {connection : Connection τ}

theorem sends_select
    (hRecords : connection.Records log)
    (granted : List Terms)
    (graph : String)
    (options : Options)
    (session : Session τ) :
    ∃ sent, (Action.select graph options).Sends granted sent ∧
      log (((Action.select graph options).perform connection).on session).2.link =
        log session.link ++ sent := by
  have hLink : (((Action.select graph options).perform connection).on session).2.link =
      ((Handle.opening connection ⟨graph, options, session.caches.length⟩).on
        ⟨.new graph, session.link⟩).2.server := by
    rw [perform, Attempt.on_bind_pure, Session.select, Attempt.on_ofFunction]
    dsimp only
    rcases (Handle.opening connection ⟨graph, options, session.caches.length⟩).on
      ⟨.new graph, session.link⟩ with ⟨failure | done, backed⟩ <;> rfl
  rw [hLink, Handle.opening]
  cases hWarm : options.warmOnOpen with
  | true =>
      obtain ⟨kinds, hKinds⟩ :=
        Handle.log_refreshAll hRecords ⟨graph, options, session.caches.length⟩ Kind.all
          ⟨.new graph, session.link⟩
      exact ⟨_, .warmed kinds hWarm, hKinds⟩
  | false => exact ⟨[], .opened hWarm, (List.append_nil _).symm⟩

theorem sends_perform
    (hRecords : connection.Records log)
    {session : Session τ}
    (hOpened : ∀ handle ∈ session.handles, handle.cache < session.caches.length)
    (action : Action) :
    ∃ sent, action.Sends (session.handles.map Handle.terms) sent ∧
      log ((action.perform connection).on session).2.link = log session.link ++ sent := by
  cases action with
  | select graph options => exact sends_select hRecords _ graph options session
  | clone number =>
      refine ⟨[], .clone number, ?_⟩
      rw [perform, Attempt.on_bind, Attempt.on_get, List.append_nil]
      dsimp only
      cases session.handle? number <;> rfl
  | through number operation =>
      rw [perform, Attempt.on_bind, Attempt.on_get]
      dsimp only
      cases hOpen : session.handle? number with
      | none =>
          refine ⟨[], .closed ?_, (List.append_nil _).symm⟩
          rw [List.getElem?_map, Option.map_eq_none_iff]
          exact Session.getElem?_of_handle?_eq_none hOpened hOpen
      | some found =>
          obtain ⟨hHandle, -⟩ := Session.handle?_eq_some_iff.mp hOpen
          obtain ⟨sent, hSends, hLog⟩ := operation.sends_perform hRecords found.1
            ⟨found.2, session.link⟩
          refine ⟨sent, .through ?_ hSends, hLog⟩
          rw [List.getElem?_map, hHandle]
          rfl
  | list =>
      refine ⟨_, .list, ?_⟩
      rw [perform, Session.listGraphs, Attempt.on_bind_pure, Attempt.on_bind_pure]
      exact hRecords .list [] session.link

/--
The terms of the handles that an action adds: an opened handle has those that it is opened
with, and a clone those of the handle that it is cloned from.
-/
def grants (granted : List Terms) : Action → Except Failure Answer → List Terms
  | .select graph options, .ok (.handle _) => [⟨graph, options⟩]
  | .clone number, .ok (.handle _) => granted[number]?.toList
  | _, _ => []

theorem grants_eq_nil
    (granted : List Terms)
    (action : Action)
    {outcome : Except Failure Answer}
    (hOutcome : ∀ number, outcome ≠ .ok (.handle number)) :
    action.grants granted outcome = [] := by
  rcases outcome with failure | answer
  · cases action <;> rfl
  · cases answer with
    | handle number => exact absurd rfl (hOutcome number)
    | _ => cases action <;> rfl

theorem grants_through
    (granted : List Terms)
    (number : Nat)
    (operation : Operation)
    (outcome : Except Failure Answer) :
    (Action.through number operation).grants granted outcome = [] := rfl

end Action

/-- A session together with the terms of each of its handles. -/
structure Charted (τ : Type) where
  session : Session τ
  granted : List Terms

namespace Charted

variable {τ : Type} {charted : Charted τ}

def new (link : τ) : Charted τ := ⟨.new link, []⟩

def perform (connection : Connection τ) (action : Action) : Attempt (Charted τ) Answer :=
  Attempt.ofFunction fun charted =>
    let (outcome, session) := (action.perform connection).on charted.session
    (outcome, ⟨session, charted.granted ++ action.grants charted.granted outcome⟩)

/-- Every handle has the terms that were granted for it, and a cache. -/
structure Sound (charted : Charted τ) : Prop where
  granted : charted.granted = charted.session.handles.map Handle.terms
  opened : ∀ handle ∈ charted.session.handles, handle.cache < charted.session.caches.length

theorem sound_new (link : τ) : Sound (.new link) where
  granted := rfl
  opened _ hHandle := nomatch hHandle

/-- Another handle with its terms and with a cache. -/
theorem Sound.add
    (hSound : Sound charted)
    {handle : Handle}
    (link : τ)
    (caches : List Cache)
    (hCache : handle.cache < (charted.session.caches ++ caches).length) :
    Sound
      ⟨⟨link, charted.session.caches ++ caches, charted.session.handles ++ [handle]⟩,
        charted.granted ++ [handle.terms]⟩ where
  granted := by simp [hSound.granted]
  opened other hOther := by
    rcases List.mem_append.mp hOther with hOld | hNew
    · have hOpened := hSound.opened other hOld
      rw [List.length_append]
      omega
    · rw [List.mem_singleton.mp hNew]
      exact hCache

/-- Every action keeps account of the terms. -/
theorem sound_perform
    (connection : Connection τ)
    (action : Action)
    (hSound : Sound charted) :
    Sound ((perform connection action).on charted).2 := by
  have hEffect := Action.effect connection action charted.session
  rw [perform, Attempt.on_ofFunction]
  dsimp only
  generalize (action.perform connection).on charted.session = result at hEffect ⊢
  obtain ⟨outcome, after⟩ := result
  cases hEffect with
  | idle link hOutcome _ =>
      rw [action.grants_eq_nil charted.granted hOutcome, List.append_nil]
      exact ⟨hSound.granted, hSound.opened⟩
  | opened graph options cache link => exact hSound.add link [cache] (by simp)
  | @cloned number handle cache hOpen =>
      obtain ⟨hHandle, -⟩ := Session.handle?_eq_some_iff.mp hOpen
      have hTerms : charted.granted[number]? = some handle.terms := by
        rw [hSound.granted, List.getElem?_map, hHandle]
        rfl
      have hAdded := hSound.add charted.session.link []
        (by simpa using hSound.opened handle (List.mem_of_getElem? hHandle))
      rw [List.append_nil] at hAdded
      rw [Action.grants, hTerms]
      exact hAdded
  | worked hOpen hOn =>
      rw [Action.grants_through, List.append_nil]
      refine ⟨hSound.granted, fun handle hHandle => ?_⟩
      rw [List.length_set]
      exact hSound.opened handle hHandle

theorem sound_after
    (connection : Connection τ)
    (actions : List Action)
    (hSound : Sound charted) :
    Sound (Attempt.after (perform connection) actions charted) := by
  induction actions generalizing charted with
  | nil => exact hSound
  | cons action rest ih => exact ih (sound_perform connection action hSound)

/-- The session alone, over the connection without its log. -/
def forget (charted : Charted (Logged τ)) : Session τ := charted.session.mapLink Logged.link

/-- Neither the log nor the account of the terms can be told from what an action does. -/
theorem shows_perform
    (connection : Connection τ)
    (action : Action) :
    (perform connection.logged action).Shows forget (action.perform connection) :=
  fun charted => action.shows_perform connection.shows_logged charted.session

/--
**What a handle sends.**  Over any connection, which answers and fails as it likes, make any
actions and then one more, and write down what the connection is given.  The answers, the
caches, the handles and the connection itself are those of the same actions without the
log.

The log goes on with what the grammar says of the action: the command of a query comes
first, and all that follows it are calls of schema procedures on the terms of the handle.
Every command that is sent for a handle, be it to open it, has the graph of the handle as
its first argument.  No query that may write is sent for a handle that was opened to read
only, nor for a clone.  The arguments of a query are the graph, the text, the request for
compact replies and the limit of time, its own or else that of the handle, and there are
no more if neither is set.
-/
theorem sends
    (connection : Connection τ)
    (link : τ)
    (before : List Action)
    (action : Action) :
    let unlogged := Attempt.after (Action.perform connection) before (.new link)
    let reached := Attempt.after (perform connection.logged) before (.new ⟨link, []⟩)
    let result := (perform connection.logged action).on reached
    reached.forget = unlogged ∧
    (result.1, result.2.forget) = (action.perform connection).on unlogged ∧
    reached.session.handles.map Handle.terms = reached.granted ∧
    ∃ sent, result.2.session.link.sent = reached.session.link.sent ++ sent ∧
      action.Sends reached.granted sent ∧
      ∀ terms, action.terms? reached.granted = some terms →
        ∀ entry ∈ sent, terms.Permits action.timeout? entry := by
  intro unlogged reached result
  have hUnlogged : reached.forget = unlogged :=
    Attempt.Shows.after (shows_perform connection) before _
  have hResult := shows_perform connection action reached
  have hReached : Sound reached := sound_after connection.logged before (sound_new _)
  obtain ⟨sent, hSends, hLog⟩ := action.sends_perform connection.records_logged hReached.opened
  rw [hUnlogged] at hResult
  rw [← hReached.granted] at hSends
  exact ⟨hUnlogged, hResult, hReached.granted.symm, sent, hLog, hSends,
    fun _ hTerms => hSends.permits hTerms⟩

end Charted

namespace Sample

/-- Terms for reading only, with a limit of time. -/
def limited : Terms := ⟨"social", ⟨some 100, true, false⟩⟩

/-- Terms without any limit. -/
def plain : Terms := ⟨"plain", ⟨none, false, false⟩⟩

/-- A script that answers the next two queries by the sample reply. -/
def answering : Script := { Script.ofNames server.names with queue := [.ok reply, .ok reply] }

/-- A handle and a clone of it, both to read only, and one that is not. -/
def opening : List Action :=
  [.select limited.graph limited.options, .clone 0, .select plain.graph plain.options]

/-- A query through the clone, with a limit of its own. -/
def hurried : Action := .through 1 (.query "MATCH (n) RETURN n" true (some 5) [])

/-- The same query through the other handle, without a limit. -/
def unhurried : Action := .through 2 (.query "MATCH (n) RETURN n" false none [])

def hurriedCommands : List SentCommand :=
  [⟨.readOnlyQuery, ["social", "MATCH (n) RETURN n", "--compact", "timeout", "5"]⟩,
   ⟨.readOnlyQuery, ["social", "CALL db.labels()", "--compact", "timeout", "100"]⟩,
   ⟨.readOnlyQuery, ["social", "CALL db.propertyKeys()", "--compact", "timeout", "100"]⟩]

def unhurriedCommands : List SentCommand :=
  [⟨.query, ["plain", "MATCH (n) RETURN n", "--compact"]⟩,
   ⟨.query, ["plain", "CALL db.labels()", "--compact"]⟩,
   ⟨.query, ["plain", "CALL db.propertyKeys()", "--compact"]⟩]

/-- The script and its log after some actions. -/
def logged (actions : List Action) : Charted (Logged Script) :=
  Attempt.after (Charted.perform (Connection.logged Script.serve)) actions (.new ⟨answering, []⟩)

end Sample

/--
The clone sends its query and two calls of schema procedures, all of them to read only.  The
other handle does so without any limit of time.
-/
theorem Charted.sends_sample :
    (Sample.logged Sample.opening).session.link.sent = [] ∧
    (Sample.logged (Sample.opening ++ [Sample.hurried])).session.link.sent =
      Sample.hurriedCommands ∧
    (Sample.logged (Sample.opening ++ [Sample.hurried, Sample.unhurried])).session.link.sent =
      Sample.hurriedCommands ++ Sample.unhurriedCommands ∧
    (∀ entry ∈ Sample.hurriedCommands, Sample.limited.Permits (some 5) entry) ∧
    ∀ entry ∈ Sample.unhurriedCommands, Sample.plain.Permits none entry := by
  have hOpened : (Sample.logged Sample.opening).session.link.sent = [] := by decide +kernel
  have hHurried : (Sample.logged (Sample.opening ++ [Sample.hurried])).session.link.sent =
      Sample.hurriedCommands := by decide +kernel
  have hUnhurried :
      (Sample.logged (Sample.opening ++ [Sample.hurried, Sample.unhurried])).session.link.sent =
        Sample.hurriedCommands ++ Sample.unhurriedCommands := by decide +kernel
  obtain ⟨-, -, -, first, hFirst, -, hLimited⟩ :=
    sends Script.serve Sample.answering Sample.opening Sample.hurried
  obtain ⟨-, -, -, second, hSecond, -, hPlain⟩ :=
    sends Script.serve Sample.answering (Sample.opening ++ [Sample.hurried]) Sample.unhurried
  have hFirstSent : Sample.hurriedCommands = first := by
    change (Sample.logged (Sample.opening ++ [Sample.hurried])).session.link.sent =
      (Sample.logged Sample.opening).session.link.sent ++ first at hFirst
    rwa [hHurried, hOpened] at hFirst
  have hSecondSent : Sample.unhurriedCommands = second := by
    change
      (Sample.logged (Sample.opening ++ [Sample.hurried, Sample.unhurried])).session.link.sent =
        (Sample.logged (Sample.opening ++ [Sample.hurried])).session.link.sent ++ second
      at hSecond
    rw [hUnhurried, hHurried] at hSecond
    exact List.append_cancel_left hSecond
  refine ⟨hOpened, hHurried, hUnhurried, ?_, ?_⟩
  · rw [hFirstSent]
    exact hLimited Sample.limited rfl
  · rw [hSecondSent]
    exact hPlain Sample.plain rfl

end GraphClient
