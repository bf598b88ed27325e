import GraphClient.Session.Handle

/-!
# Sessions

A session is a connection with the handles that were opened on it and with their
caches.  Opening a graph makes a cache of its own; a cloned handle shares the
cache of the handle that it was cloned from.
-/

namespace GraphClient

/-- A connection, the caches of its handles and the handles themselves. -/
structure Session (τ : Type) where
  link : τ
  caches : List Cache
  handles : List Handle

namespace Session

variable {τ α : Type}

def new (link : τ) : Session τ := ⟨link, [], []⟩

/-- What is done to the connection alone. -/
def onLink (attempt : Attempt τ α) : Attempt (Session τ) α :=
  Attempt.ofFunction fun session =>
    let (outcome, link) := attempt.on session.link
    (outcome, { session with link := link })

/-- What is done with a cache and the connection. -/
def withCache
    (number : Nat)
    (cache : Cache)
    (attempt : Attempt (Backed τ) α) :
    Attempt (Session τ) α :=
  Attempt.ofFunction fun session =>
    let (outcome, backed) := attempt.on ⟨cache, session.link⟩
    (outcome,
      { session with link := backed.server, caches := session.caches.set number backed.cache })

/-- Opens a graph and returns the number of the new handle; nothing is opened on failure. -/
def select
    (connection : Connection τ)
    (graph : String)
    (options : Options) :
    Attempt (Session τ) Nat :=
  Attempt.ofFunction fun session =>
    let handle : Handle := ⟨graph, options, session.caches.length⟩
    match (handle.opening connection).on ⟨.new graph, session.link⟩ with
    | (.ok (), backed) =>
        (.ok session.handles.length,
          ⟨backed.server, session.caches ++ [backed.cache], session.handles ++ [handle]⟩)
    | (.error failure, backed) => (.error failure, { session with link := backed.server })

def handle? (session : Session τ) (number : Nat) : Option (Handle × Cache) :=
  session.handles[number]?.bind fun handle =>
    session.caches[handle.cache]?.map fun cache => (handle, cache)

/-- The texts among the items of an array; nothing in place of any other reply. -/
def graphNames : Reply → List String
  | .array items => items.filterMap fun item => (item.toText "graph name").toOption
  | _ => []

def listGraphs (connection : Connection τ) : Attempt (Session τ) (List String) := do
  let reply ← onLink (connection .list [])
  pure (graphNames reply)

/-- Another handle like a given one; its number is returned. -/
def clone (handle : Handle) : Attempt (Session τ) Nat :=
  Attempt.ofFunction fun session =>
    (.ok session.handles.length, { session with handles := session.handles ++ [handle] })

end Session

/-- What can be done in a session. -/
inductive Action where
  | select (graph : String) (options : Options)
  | clone (number : Nat)
  | through (number : Nat) (operation : Operation)
  | list

namespace Action

variable {τ : Type}

def perform (connection : Connection τ) : Action → Attempt (Session τ) Answer
  | .select graph options => do
      let number ← Session.select connection graph options
      pure (.handle number)
  | .clone number => do
      let session ← get
      match session.handle? number with
      | none => pure .noHandle
      | some (handle, _) => do
          let copy ← Session.clone handle
          pure (.handle copy)
  | .through number operation => do
      let session ← get
      match session.handle? number with
      | none => pure .noHandle
      | some (handle, cache) =>
          Session.withCache handle.cache cache (operation.perform connection handle)
  | .list => do
      let names ← Session.listGraphs connection
      pure (.lines names)

end Action

end GraphClient
