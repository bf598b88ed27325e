import GraphClient.Answer
import GraphClient.Schema.Server

/-!
# Runs of a cache

A `Request` is a step of work with a cache; any source can stand behind it.

A `ServerStep` is such a request to a cache that a `Server` backs, made while the
server answers or while it refuses every fetch, or a new name on the server.
`ServerStep.run` does several steps and keeps every outcome with the state after it.
-/

namespace GraphClient

/-- A step of work with a cache. -/
inductive Request where
  | resolve (kind : Kind) (index : Nat)
  | warm
  | clear
  | decode (reply : Reply)

/-- Does a step of work, with lists from `fetch`. -/
def Request.perform
    {σ : Type}
    (fetch : Fetch σ) :
    Request → Attempt (Backed σ) Answer
  | .resolve kind index => do
      let name ← Backed.resolve fetch kind index
      pure (.text name)
  | .warm => do
      Backed.warm fetch
      pure .done
  | .clear => do
      Backed.clear
      pure .done
  | .decode reply => do
      let table ← Backed.decode fetch reply
      pure (.table table)

/-- What happens to a cache and the server behind it. -/
inductive ServerStep where
  | request (request : Request)
  /-- A request while every fetch fails, that of a kind with the failure given for it. -/
  | refused (failure : Kind → Failure) (request : Request)
  | push (kind : Kind) (name : String)

namespace ServerStep

/-- A request while the connection to the server is down. -/
def outage (text : String) (request : Request) : ServerStep :=
  .refused (fun _ => .transport text) request

def perform : ServerStep → Attempt (Backed Server) Answer
  | .request step => step.perform (Backed.fetchFrom Server.source)
  | .refused failure step => step.perform (Backed.fetchFrom (Server.refusing failure))
  | .push kind name => do
      Backed.onServer (modify fun server => server.push kind name)
      pure .done

/-- The outcomes of several steps, each with the state after it. -/
def run : List ServerStep → Backed Server → List (Except Failure Answer × Backed Server) :=
  Attempt.runAll perform

end ServerStep

end GraphClient
