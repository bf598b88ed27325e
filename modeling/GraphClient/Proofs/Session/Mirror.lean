import GraphClient.Proofs.Schema.Economy
import GraphClient.Proofs.Session.Commands
import GraphClient.Proofs.Session.Lists
import GraphClient.Session.Run

/-!
# Two ways to the lists

The lists of a server can be fetched from the server itself, as tables, or through a handle
over a script, as replies that are sent in answer to a query and read through the cache
that is being refreshed.  For the cache this makes no difference.

**Simulation.**  A fetch through the handle yields the table of the server but for the
statistics, which nobody looks at (`Handle.shows_refresh_serve`).  So whatever is done
through the handle shows what is done with the server (`CacheWork.shows_operation`), where
a script is seen as the server in it.

**Commands.**  For each list that the server is asked for, the script has been sent the call
of the procedure, and nothing else (`Script.Told`).

**Results.**  `CacheStep.same_run` goes through a run step by step, and `Session.mirrored`
starts it at the opening of a graph.
-/

namespace GraphClient

/-- Between two states of a script, calls for some lists were sent, in order, and answered. -/
structure Script.Told (terms : Terms) (kinds : List Kind) (before after : Script) : Prop where
  asked : after.server.asked = before.server.asked ++ kinds
  sent : after.sent = before.sent ++ kinds.map terms.listing
  queue : after.queue = before.queue

namespace Script

variable {terms : Terms} {kinds others : List Kind} {before middle after : Script}

theorem told_refl (script : Script) : Told terms [] script script where
  asked := (List.append_nil _).symm
  sent := (List.append_nil _).symm
  queue := rfl

theorem Told.trans
    (hFirst : Told terms kinds before middle)
    (hSecond : Told terms others middle after) :
    Told terms (kinds ++ others) before after where
  asked := by rw [hSecond.asked, hFirst.asked, List.append_assoc]
  sent := by rw [hSecond.sent, hFirst.sent, List.map_append, List.append_assoc]
  queue := hSecond.queue.trans hFirst.queue

end Script

namespace Handle

variable (handle : Handle)

/-- A fetch through a handle is one call that the server answers. -/
theorem on_fetch_serve
    (kind : Kind)
    (backed : Backed Script) :
    (handle.fetch Script.serve Kind.all kind).on backed =
      (.ok (backed.server.names.listed kind),
        ⟨backed.cache,
          { backed.server with
            sent := backed.server.sent ++ [handle.terms.listing kind]
            server := backed.server.server.ask kind }⟩) := by
  rw [handle.on_fetch Script.faithful_serve kind.mem_all, Script.on_serve_call, callText_bare]
  rfl

theorem told_fetch_serve
    (start : Script)
    (kind : Kind) :
    Backed.Preserves (fun script => ∃ kinds, Script.Told handle.terms kinds start script)
      (handle.fetch Script.serve Kind.all kind) := by
  rintro backed ⟨kinds, hTold⟩
  rw [on_fetch_serve]
  exact ⟨rfl, kinds ++ [kind], hTold.trans ⟨rfl, rfl, rfl⟩⟩

/-- A refresh through a handle does to the cache and to the server what one from the server does. -/
theorem shows_refresh_serve (kind : Kind) :
    (Backed.refresh (handle.fetch Script.serve Kind.all) kind).Shows
      (Backed.mapServer Script.server)
      (Backed.refresh (Backed.fetchFrom Server.source) kind) := by
  intro backed
  have hUnseen := backed.server.names.lists_listed kind (backed.cache.known kind)
  rw [Backed.on_refresh_source, Backed.on_refresh, on_fetch_serve]
  simp only [hUnseen]
  rfl

theorem shows_warm_serve :
    (Backed.warm (handle.fetch Script.serve Kind.all)).Shows (Backed.mapServer Script.server)
      (Backed.warm (Backed.fetchFrom Server.source)) :=
  Backed.shows_refreshAll handle.shows_refresh_serve Kind.all

end Handle

/-- Work with a cache, for which names may have to be fetched. -/
inductive CacheWork where
  | resolve (kind : Kind) (index : Nat)
  | warm
  | clear

namespace CacheWork

/-- The work as a request to a cache that a server backs. -/
def request : CacheWork → Request
  | .resolve kind index => .resolve kind index
  | .warm => .warm
  | .clear => .clear

/-- The work as an operation through a handle. -/
def operation : CacheWork → Operation
  | .resolve kind index => .resolve kind index
  | .warm => .warm
  | .clear => .close

variable (handle : Handle)

theorem shows_operation (work : CacheWork) :
    (work.operation.perform Script.serve handle).Shows (Backed.mapServer Script.server)
      (work.request.perform (Backed.fetchFrom Server.source)) := by
  cases work with
  | resolve kind index =>
      have hResolve :=
        Backed.shows_resolve_of_refresh (handle.shows_refresh_serve kind) index
      exact hResolve.bind fun _ => .pure _
  | warm => exact handle.shows_warm_serve.bind fun _ => .pure _
  | clear => exact fun _ => rfl

theorem told_operation
    (start : Script)
    (work : CacheWork) :
    Backed.Preserves (fun script => ∃ kinds, Script.Told handle.terms kinds start script)
      (work.operation.perform Script.serve handle) := by
  have hFetch := handle.told_fetch_serve start
  cases work with
  | resolve kind index => exact (Backed.preserves_resolve (hFetch kind) index).bind fun _ => .pure _
  | warm =>
      have hRefresh := fun kind => Backed.preserves_refresh (hFetch kind)
      exact (Backed.keeps_refreshAll hRefresh Kind.all).bind fun _ => .pure _
  | clear => exact fun _ hTold => ⟨rfl, hTold⟩

end CacheWork

/-- A step of work with a cache, or a new name on the server. -/
inductive CacheStep where
  | task (work : CacheWork)
  | push (kind : Kind) (name : String)

namespace CacheStep

/-- The step with the server itself as the source. -/
def direct : CacheStep → ServerStep
  | .task work => .request work.request
  | .push kind name => .push kind name

/-- The step through the handle of a given number. -/
def through (number : Nat) : CacheStep → ScriptStep
  | .task work => .action (.through number work.operation)
  | .push kind name => .push kind name

end CacheStep

/-- What is done through an open handle is done with its cache and the connection. -/
theorem Session.on_through
    {τ : Type}
    (connection : Connection τ)
    {session : Session τ}
    {number : Nat}
    {handle : Handle}
    {cache : Cache}
    (hOpen : session.handle? number = some (handle, cache))
    (operation : Operation) :
    let result := (operation.perform connection handle).on ⟨cache, session.link⟩
    ∃ after,
      ((Action.through number operation).perform connection).on session = (result.1, after) ∧
      after.link = result.2.server ∧
      after.handle? number = some (handle, result.2.cache) := by
  intro result
  obtain ⟨hHandle, hCache⟩ := handle?_eq_some_iff.mp hOpen
  refine ⟨{ session with
    link := result.2.server
    caches := session.caches.set handle.cache result.2.cache }, ?_, rfl, ?_⟩
  · rw [Action.perform, Attempt.on_bind, Attempt.on_get]
    simp only [hOpen]
    rfl
  · have hPosition := (List.getElem?_eq_some_iff.mp hCache).1
    exact handle?_eq_some_iff.mpr ⟨hHandle, List.getElem?_set_self hPosition⟩

/-- The cache of an open handle and the server behind the script are a given pair. -/
structure Session.Mirrors
    (session : Session Script) (number : Nat) (handle : Handle) (backed : Backed Server) :
    Prop where
  opened : session.handle? number = some (handle, backed.cache)
  server : session.link.server = backed.server

/--
What one step has come to in two runs: the same outcome, the same cache and the same server.
Since `start`, the script was sent one call for each list that its server was asked for.
-/
structure CacheStep.Same
    (start : Script) (number : Nat) (handle : Handle)
    (entry : Except Failure Answer × Backed Server)
    (mirror : Except Failure Answer × Session Script) : Prop where
  outcome : mirror.1 = entry.1
  mirrors : mirror.2.Mirrors number handle entry.2
  told : ∃ kinds, Script.Told handle.terms kinds start mirror.2.link

namespace CacheStep

variable {start : Script} {session : Session Script} {number : Nat} {handle : Handle}
variable {backed : Backed Server}

theorem same_perform
    (hMirrors : session.Mirrors number handle backed)
    (hTold : ∃ kinds, Script.Told handle.terms kinds start session.link)
    (step : CacheStep) :
    Same start number handle (step.direct.perform.on backed)
      (((step.through number).perform Script.serve).on session) := by
  obtain ⟨hOpen, hServer⟩ := hMirrors
  cases step with
  | task work =>
      obtain ⟨after, hOn, hLink, hAfter⟩ :=
        Session.on_through Script.serve hOpen work.operation
      have hShown := work.shows_operation handle ⟨backed.cache, session.link⟩
      have hSent := (work.told_operation handle start ⟨backed.cache, session.link⟩ hTold).2
      have hView : Backed.mapServer Script.server ⟨backed.cache, session.link⟩ = backed := by
        rw [Backed.mapServer, hServer]
      rw [hView] at hShown
      rw [← hLink] at hSent
      rw [through, ScriptStep.perform, hOn]
      refine ⟨congrArg Prod.fst hShown, ⟨?_, ?_⟩, hSent⟩
      · rw [hAfter]
        exact congrArg (fun entry => some (handle, entry.2.cache)) hShown
      · rw [hLink]
        exact congrArg (·.2.server) hShown
  | push kind name =>
      obtain ⟨kinds, hKinds⟩ := hTold
      refine ⟨rfl, ⟨hOpen, ?_⟩, kinds, hKinds.asked, hKinds.sent, hKinds.queue⟩
      exact congrArg (Server.push · kind name) hServer

/-- By induction on the steps: what is the same after one step is the same for the rest. -/
theorem same_run
    (hMirrors : session.Mirrors number handle backed)
    (hTold : ∃ kinds, Script.Told handle.terms kinds start session.link)
    (steps : List CacheStep) :
    List.Forall₂ (Same start number handle)
      (ServerStep.run (steps.map direct) backed)
      (ScriptStep.run Script.serve (steps.map (through number)) session) := by
  induction steps generalizing session backed with
  | nil => exact .nil
  | cons step rest ih =>
      have hSame := same_perform hMirrors hTold step
      exact .cons hSame (ih hSame.mirrors hSame.told)

end CacheStep

/-- A server that answers never fails a refresh. -/
theorem Backed.refreshAll_source_ok
    (kinds : List Kind)
    (backed : Backed Server) :
    ((refreshAll (fetchFrom Server.source) kinds).on backed).1 = .ok () := by
  induction kinds generalizing backed with
  | nil => rfl
  | cons kind rest ih =>
      rw [refreshAll, Attempt.on_bind, on_refresh_source]
      exact ih _

/-- What opening a graph does to its cache: it is warmed if the options say so. -/
def Options.opening (options : Options) : List CacheStep :=
  if options.warmOnOpen then [.task .warm] else []

/-- Opening a handle over a script succeeds and does to the cache what its options say. -/
theorem Handle.opening_serve
    (handle : Handle)
    (backed : Backed Script) :
    ∃ after,
      (handle.opening Script.serve).on backed = (.ok (), after) ∧
      after.mapServer Script.server =
        Attempt.after ServerStep.perform (handle.options.opening.map CacheStep.direct)
          (backed.mapServer Script.server) ∧
      ∃ kinds, Script.Told handle.terms kinds backed.server after.server := by
  rw [opening, Options.opening]
  by_cases hWarm : handle.options.warmOnOpen
  · rw [if_pos hWarm, if_pos hWarm]
    let script := backed.server
    let direct := backed.mapServer Script.server
    have hShown := handle.shows_warm_serve backed
    have hRefresh := fun kind => Backed.preserves_refresh (handle.told_fetch_serve script kind)
    have hTold := Backed.keeps_refreshAll hRefresh Kind.all backed ⟨[], script.told_refl⟩
    have hOk : ((Backed.warm (Backed.fetchFrom Server.source)).on direct).1 = .ok () :=
      Backed.refreshAll_source_ok Kind.all direct
    rw [← hShown] at hOk
    refine ⟨_, Prod.ext hOk rfl, (congrArg Prod.snd hShown).trans ?_, hTold.2⟩
    change _ = ((Request.warm.perform (Backed.fetchFrom Server.source)).on direct).2
    rw [Request.perform, Attempt.on_bind_pure]
  · rw [if_neg hWarm, if_neg hWarm]
    exact ⟨backed, rfl, rfl, [], backed.server.told_refl⟩

/--
**The source of the lists does not matter.**  Open a graph with any options over a script that
answers for the lists of a server, in any session.  This succeeds, and the cache is as if it
were backed by the server itself, where warming on opening is a step like any other.  From
then on take any run of names asked for, warming, dropping the names and new names on the
server, once through the handle and once with the server as the source.  Step by step the
outcome is the same, and so are the lists and the counters of the cache, the lists of the
server and its calls.  Since before the opening, the script was sent one command for each
call, in the same order, and no reply was taken from its queue.
-/
theorem Session.mirrored
    (session : Session Script)
    (graph : String)
    (options : Options)
    (steps : List CacheStep) :
    let number := session.handles.length
    let handle : Handle := ⟨graph, options, session.caches.length⟩
    let opened := (select Script.serve graph options).on session
    let backed := Attempt.after ServerStep.perform (options.opening.map CacheStep.direct)
      ⟨.new graph, session.link.server⟩
    opened.1 = .ok number ∧
    opened.2.Mirrors number handle backed ∧
    (∃ kinds, Script.Told handle.terms kinds session.link opened.2.link) ∧
    List.Forall₂ (CacheStep.Same session.link number handle)
      (ServerStep.run (steps.map CacheStep.direct) backed)
      (ScriptStep.run Script.serve (steps.map (CacheStep.through number)) opened.2) := by
  intro number handle opened backed
  obtain ⟨after, hOpening, hBacked, hTold⟩ :=
    handle.opening_serve ⟨.new graph, session.link⟩
  have hOpened : opened = (.ok number,
      ⟨after.server, session.caches ++ [after.cache], session.handles ++ [handle]⟩) := by
    simp only [opened, select, Attempt.on_ofFunction]
    rw [hOpening]
  have hMirrors : opened.2.Mirrors number handle backed := by
    rw [hOpened]
    refine ⟨handle?_eq_some_iff.mpr ⟨List.getElem?_concat_length, ?_⟩, ?_⟩
    · rw [List.getElem?_concat_length]
      exact congrArg (fun reached => some reached.cache) hBacked
    · exact congrArg Backed.server hBacked
  have hLink : opened.2.link = after.server := by rw [hOpened]
  rw [← hLink] at hTold
  exact ⟨congrArg Prod.fst hOpened, hMirrors, hTold, CacheStep.same_run hMirrors hTold steps⟩

end GraphClient
