import GraphClient.Schema.Server
import GraphClient.Session.Handle
import GraphClient.Text.Lossy

/-!
# Scripted connections

A script stands in for a server: it holds replies and failures in a queue, and
everything sent is recorded.

* `serve` answers a call of a schema procedure from the lists of a server, and
  any other command from the queue.
* `replay` answers every command from the queue.

A command is taken for such a call by its second argument alone.  `receive` is `serve`
for arguments that arrive as bytes.
-/

namespace GraphClient

/-- A queue of outcomes, a record of what was sent, and a server for the lists of names. -/
structure Script where
  queue : List (Except Failure Reply)
  sent : List SentCommand
  server : Server

/-- The kind whose procedure a query calls, if it is nothing but such a call. -/
def calledKind? (query : String) : Option Kind :=
  Kind.all.find? fun kind => callText kind.procedure [] [] = query

namespace SentCommand

/-- The kind whose list a command asks for. -/
def calledKind? (sent : SentCommand) : Option Kind :=
  sent.query?.bind GraphClient.calledKind?

end SentCommand

namespace Script

def ofNames (names : Names) : Script := ⟨[], [], .ofNames names⟩

def enqueue (script : Script) (outcome : Except Failure Reply) : Script :=
  { script with queue := script.queue ++ [outcome] }

def push
    (script : Script)
    (kind : Kind)
    (name : String) :
    Script :=
  { script with server := script.server.push kind name }

def record (script : Script) (sent : SentCommand) : Script :=
  { script with sent := script.sent ++ [sent] }

/-- The next outcome in the queue, or the failure of an empty queue. -/
def next (emptyText : String) : Attempt Script Reply :=
  Attempt.ofFunction fun script =>
    match script.queue with
    | [] => (.error (.transport emptyText), script)
    | outcome :: rest => (outcome, { script with queue := rest })

def listNames (kind : Kind) : Attempt Script Reply := do
  modify fun script => { script with server := script.server.ask kind }
  let script ← get
  pure (script.server.names.reply kind)

/-- The connection that answers calls of schema procedures from the server. -/
def serve : Connection Script := fun command arguments => do
  let sent : SentCommand := ⟨command, arguments⟩
  modify fun script => script.record sent
  match sent.calledKind? with
  | some kind => listNames kind
  | none => next "no scripted reply left"

/-- Answers a command whose arguments are bytes, which need not be UTF-8. -/
def receive (command : Command) (arguments : List ByteArray) : Attempt Script Reply :=
  serve command (arguments.map lossyText)

/-- The connection that answers every command from the queue. -/
def replay : Connection Script := fun command arguments => do
  modify fun script => script.record ⟨command, arguments⟩
  next "queue empty"

/-- What was sent apart from calls of schema procedures. -/
def sentQueries (script : Script) : List SentCommand :=
  script.sent.filter fun sent => sent.calledKind?.isNone

end Script

end GraphClient
