import GraphClient.Session.Basic
import GraphClient.Session.Script

/-!
# Runs of a session over a script

Between the actions of a session its script may get one more outcome into the
queue or one more name on the server.  `ScriptStep.run` does several such steps
and keeps every outcome with the session after it.
-/

namespace GraphClient

/-- What happens in a session over a script. -/
inductive ScriptStep where
  | action (action : Action)
  | enqueue (outcome : Except Failure Reply)
  | push (kind : Kind) (name : String)

namespace ScriptStep

def perform (connection : Connection Script) : ScriptStep → Attempt (Session Script) Answer
  | .action step => step.perform connection
  | .enqueue outcome => do
      Session.onLink (modify fun script => script.enqueue outcome)
      pure .done
  | .push kind name => do
      Session.onLink (modify fun script => script.push kind name)
      pure .done

/-- The outcomes of several steps, each with the session after it. -/
def run (connection : Connection Script) :
    List ScriptStep → Session Script → List (Except Failure Answer × Session Script) :=
  Attempt.runAll (perform connection)

end ScriptStep

end GraphClient
