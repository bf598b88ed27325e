import GraphClient.Proofs.Session.Commands
import GraphClient.Proofs.Session.History
import GraphClient.Proofs.Table.Failure

/-!
# Errors of the server

When the server reports an error, nothing else in its reply counts, well formed or not.

**Tables.**  Reading such a reply fails with the text of the error, asks for no list and
changes nothing (`Backed.on_decode_reported`).

**Commands.**  `Operation.Refused` says which replies mean this to which operation: a query
or a call of a procedure looks at the last item too, the other commands only at the reply
as a whole.  The operation then fails with the text, after its one command and with the
cache as it was, and a deletion drops no name (`Operation.on_perform_refused`).

**Results.**  `Reply.error_prevails` states both, with the record of the fetches and with
the log of the commands.
-/

namespace GraphClient

namespace Backed

variable {σ : Type} {reply : Reply} {message : String}

theorem on_decode_reported
    (hReports : reply.Reports message)
    (fetch : Fetch σ)
    (backed : Backed σ) :
    (decode fetch reply).on backed = (.error (.evaluation message), backed) := by
  rw [decode, Table.decode, Reply.reports_iff.mp hReports]
  rfl

theorem fetches_reported
    (hReports : reply.Reports message)
    (fetch : Fetch σ)
    (backed : Backed σ) :
    fetches fetch reply backed = [] := by
  rw [fetches, on_decode_reported hReports]
  rfl

end Backed

namespace Operation

/-- To the command of an operation the server has replied with an error. -/
inductive Refused (handle : Handle) (message : String) :
    Operation → Command → List String → Reply → Prop
  /-- A query or a call of a procedure. -/
  | question {operation : Operation} {command : Command} {arguments : List String}
      {reply : Reply} :
      operation.question? handle = some (command, arguments) →
      reply.Reports message →
      Refused handle message operation command arguments reply
  | explain (query : String) :
      Refused handle message (.explain query) .explain [handle.graph, query] (.error message)
  | profile (query : String) :
      Refused handle message (.profile query) .profile [handle.graph, query] (.error message)
  | copy (destination : String) :
      Refused handle message (.copy destination) .copy [handle.graph, destination]
        (.error message)
  | delete : Refused handle message .delete .delete [handle.graph] (.error message)

variable {τ α : Type} {connection : Connection τ} {message : String}

theorem on_command_error
    {command : Command}
    {arguments : List String}
    {read : Reply → Except Failure α}
    {backed : Backed τ}
    {link : τ}
    (hRead : read (.error message) = .error (.evaluation message))
    (hReply : (connection command arguments).on backed.server = (.ok (.error message), link)) :
    (Handle.command connection command arguments read).on backed =
      (.error (.evaluation message), ⟨backed.cache, link⟩) := by
  rw [Handle.command, Attempt.on_bind, Backed.on_onServer, hReply]
  dsimp only
  rw [hRead]
  rfl

theorem on_perform_refused
    {handle : Handle}
    {operation : Operation}
    {command : Command}
    {arguments : List String}
    {reply : Reply}
    {backed : Backed τ}
    {link : τ}
    (hRefused : operation.Refused handle message command arguments reply)
    (hReply : (connection command arguments).on backed.server = (.ok reply, link)) :
    (operation.perform connection handle).on backed =
      (.error (.evaluation message), ⟨backed.cache, link⟩) := by
  cases hRefused with
  | question hAsks hReports =>
      rw [perform_question hAsks, Attempt.on_bind, Backed.on_onServer, hReply]
      dsimp only
      rw [Attempt.on_bind_pure, Backed.on_decode_reported hReports]
      rfl
  | explain query =>
      rw [perform, Attempt.on_bind_pure, on_command_error rfl hReply]
      rfl
  | profile query =>
      rw [perform, Attempt.on_bind_pure, on_command_error rfl hReply]
      rfl
  | copy destination =>
      rw [perform, Attempt.on_bind_pure, on_command_error rfl hReply]
      rfl
  | delete => rw [perform, Attempt.on_bind, on_command_error rfl hReply]

end Operation

/--
**An error of the server prevails.**  Let the server report an error in a reply, whatever
else the reply holds.  Reading it through any cache, with any fetch behind it, fails with
the very text, makes no fetch and leaves cache and server as they are.  An operation whose
command is so replied to, over any connection, fails with the text as well.  It leaves the
cache as it is and the connection as its one command has left it, and where a log is kept,
that command is all that is added.
-/
theorem Reply.error_prevails (message : String) :
    (∀ (σ : Type) (fetch : Fetch σ) (reply : Reply) (backed : Backed σ),
      reply.Reports message →
      (Backed.decode fetch reply).on backed = (.error (.evaluation message), backed) ∧
        Backed.fetches fetch reply backed = []) ∧
    (∀ (τ : Type) (connection : Connection τ) (handle : Handle) (operation : Operation)
        (command : Command) (arguments : List String) (reply : Reply) (backed : Backed τ)
        (link : τ),
      operation.Refused handle message command arguments reply →
      (connection command arguments).on backed.server = (.ok reply, link) →
      (operation.perform connection handle).on backed =
          (.error (.evaluation message), ⟨backed.cache, link⟩) ∧
        ∀ log : τ → List SentCommand, connection.Records log →
          log link = log backed.server ++ [⟨command, arguments⟩]) := by
  constructor
  · intro σ fetch reply backed hReports
    exact ⟨Backed.on_decode_reported hReports fetch backed,
      Backed.fetches_reported hReports fetch backed⟩
  · intro τ connection handle operation command arguments reply backed link hRefused hReply
    refine ⟨Operation.on_perform_refused hRefused hReply, fun log hRecords => ?_⟩
    have hLog := hRecords command arguments backed.server
    rwa [hReply] at hLog

namespace Sample

/-- A reply without a header, with a row that needs an unknown label, and with an error at last. -/
def broken : Reply :=
  .array [.nil, .array [.array [.array [.integer 1, .array [.integer 99], .nil]]], .integer 5,
    .error "timed out"]

/-- A script that answers the next command by the broken reply. -/
def breaking : Script := { Script.ofNames server.names with queue := [.ok broken] }

end Sample

/-- The error at the end of the broken reply is the answer to a query that writes nothing. -/
theorem Reply.error_prevails_sample :
    ((Operation.query "RETURN 1" true none []).perform Script.serve ⟨"social", .standard, 0⟩).on
        ⟨Sample.cache, Sample.breaking⟩ =
      (.error (.evaluation "timed out"),
        ⟨Sample.cache,
          { Sample.breaking with
            queue := []
            sent := [⟨.readOnlyQuery, ["social", "RETURN 1", "--compact"]⟩] }⟩) := by
  obtain ⟨-, hCommands⟩ := error_prevails "timed out"
  have hReports : Sample.broken.Reports "timed out" := reports_iff.mpr rfl
  exact (hCommands Script Script.serve ⟨"social", .standard, 0⟩ _ .readOnlyQuery
    ["social", "RETURN 1", "--compact"] Sample.broken ⟨Sample.cache, Sample.breaking⟩ _
    (.question rfl hReports) rfl).1

end GraphClient
