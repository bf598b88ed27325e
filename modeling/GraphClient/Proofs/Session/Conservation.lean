import GraphClient.Proofs.Session.Commands
import GraphClient.Proofs.Session.Lists
import GraphClient.Proofs.Text.Lossy

/-!
# Conservation of scripted replies

What is put into the queue of a script comes out again once and in order, whatever is sent
in between.  Calls of schema procedures pass the queue by.

**Routing.**  A command that a script received is a `Script.Delivery`, together with the
script before it, the outcome and the script after it.  `Script.Delivery.Routed` has one
case for each way that a command can take, and every command takes one of them
(`Script.routed_deliver`).  Which one is decided by the bytes of its second argument.

**Books.**  `Script.Balanced` compares the script before some moves with the script after
them.  It holds of a single move, it is kept when moves follow one another
(`Script.Balanced.trans`), and so it holds of every run (`Script.balanced_played`).
`Script.conserved` reads off what this means for a new script.
-/

namespace GraphClient

/-- The bytes of the query that calls the procedure of a kind. -/
def Kind.call (kind : Kind) : ByteArray := ("CALL " ++ kind.procedure ++ "()").toUTF8

theorem calledKind?_eq_some_iff (query : String) (kind : Kind) :
    calledKind? query = some kind ↔ query = "CALL " ++ kind.procedure ++ "()" := by
  rw [← callText_bare]
  constructor
  · intro hCalled
    have hFound := List.find?_some hCalled
    exact (of_decide_eq_true hFound).symm
  · rintro rfl
    exact Script.calledKind?_callText kind

/-- A query is read as the call of a procedure from the bytes of this call and from no others. -/
theorem calledKind?_lossyText_eq_some_iff (query : ByteArray) (kind : Kind) :
    calledKind? (lossyText query) = some kind ↔ query = kind.call := by
  have hPlain : replacement ∉ ("CALL " ++ kind.procedure ++ "()").toList := by
    cases kind <;> decide
  rw [calledKind?_eq_some_iff, lossyText_eq_iff hPlain, Kind.call]

/-- Every call that a server has answered is counted for one kind. -/
theorem Server.sum_calls (server : Server) :
    server.calls .label + server.calls .relationshipType + server.calls .propertyKey =
      server.asked.length := by
  obtain ⟨names, asked⟩ := server
  unfold calls
  induction asked with
  | nil => rfl
  | cons kind rest ih =>
      rw [List.length_cons, ← ih]
      cases kind <;> simp <;> omega

namespace Script

/-- What can happen to a script. -/
inductive Move where
  /-- One more reply or failure is put at the end of the queue. -/
  | enqueue (outcome : Except Failure Reply)
  /-- The server gets one more name. -/
  | push (kind : Kind) (name : String)
  | send (command : Command) (arguments : List ByteArray)

namespace Move

def after (script : Script) : Move → Script
  | .enqueue outcome => script.enqueue outcome
  | .push kind name => script.push kind name
  | .send command arguments => ((receive command arguments).on script).2

/-- What a move puts into the queue. -/
def entry? : Move → Option (Except Failure Reply)
  | .enqueue outcome => some outcome
  | _ => none

/-- The command that a move sends, as it is written down. -/
def sent? : Move → Option SentCommand
  | .send command arguments => some ⟨command, arguments.map lossyText⟩
  | _ => none

end Move

/-- The script after several moves. -/
def played (script : Script) (moves : List Move) : Script := moves.foldl Move.after script

/-- A command, with the script before it, its outcome and the script after it. -/
structure Delivery where
  command : Command
  arguments : List ByteArray
  before : Script
  outcome : Except Failure Reply
  after : Script

def deliver (script : Script) (command : Command) (arguments : List ByteArray) : Delivery where
  command := command
  arguments := arguments
  before := script
  outcome := ((receive command arguments).on script).1
  after := ((receive command arguments).on script).2

/-- The commands among some moves, each with what it met and what it left. -/
def deliveries : Script → List Move → List Delivery
  | _, [] => []
  | script, .send command arguments :: rest =>
      script.deliver command arguments :: deliveries (script.deliver command arguments).after rest
  | script, move :: rest => deliveries (move.after script) rest

namespace Delivery

/-- The command as it is written down. -/
def sent (delivery : Delivery) : SentCommand :=
  ⟨delivery.command, delivery.arguments.map lossyText⟩

/-- Whether the server was asked for a list; this is seen from the server, not from the text. -/
def listed (delivery : Delivery) : Bool :=
  delivery.after.server.asked ≠ delivery.before.server.asked

/-- The entry of the queue that the sender got, if the server was not asked and one was left. -/
def handedOut? (delivery : Delivery) : Option (Except Failure Reply) :=
  if delivery.listed || delivery.before.queue.isEmpty then none else some delivery.outcome

/-- The ways that a command can take. -/
inductive Routed : Delivery → Prop
  /-- The call of a schema procedure is answered by the server. -/
  | call {command : Command} {arguments : List ByteArray} {script : Script} {kind : Kind} :
      arguments[1]? = some kind.call →
      Routed ⟨command, arguments, script, .ok (script.names.reply kind),
        { script with
          sent := script.sent ++ [⟨command, arguments.map lossyText⟩]
          server := script.server.ask kind }⟩
  /-- Any other command takes the oldest entry of the queue. -/
  | entry {command : Command} {arguments : List ByteArray} {script : Script}
      {outcome : Except Failure Reply} {rest : List (Except Failure Reply)} :
      (∀ kind : Kind, arguments[1]? ≠ some kind.call) →
      script.queue = outcome :: rest →
      Routed ⟨command, arguments, script, outcome,
        { script with
          queue := rest
          sent := script.sent ++ [⟨command, arguments.map lossyText⟩] }⟩
  /-- If there is none, it fails and is written down all the same. -/
  | exhausted {command : Command} {arguments : List ByteArray} {script : Script} :
      (∀ kind : Kind, arguments[1]? ≠ some kind.call) →
      script.queue = [] →
      Routed ⟨command, arguments, script, .error (.transport "no scripted reply left"),
        { script with sent := script.sent ++ [⟨command, arguments.map lossyText⟩] }⟩

end Delivery

/-- A received command is taken for a call if its second argument has the bytes of one. -/
theorem calledKind?_received
    (command : Command)
    (arguments : List ByteArray)
    (kind : Kind) :
    (SentCommand.mk command (arguments.map lossyText)).calledKind? = some kind ↔
      arguments[1]? = some kind.call := by
  rw [SentCommand.calledKind?, SentCommand.query?, List.getElem?_map]
  cases arguments[1]? with
  | none => simp
  | some query => simpa using calledKind?_lossyText_eq_some_iff query kind

theorem routed_deliver
    (script : Script)
    (command : Command)
    (arguments : List ByteArray) :
    (script.deliver command arguments).Routed := by
  have hCalled := calledKind?_received command arguments
  simp only [deliver, receive, serve, Attempt.on_bind, Attempt.on_modify]
  -- The log and the routing read the same texts; what decides is whether they name a kind.
  cases hKind : (SentCommand.mk command (arguments.map lossyText)).calledKind? with
  | some kind => exact .call ((hCalled kind).mp hKind)
  | none =>
      have hOther : ∀ kind : Kind, arguments[1]? ≠ some kind.call := by
        intro kind hCall
        rw [(hCalled kind).mpr hCall] at hKind
        cases hKind
      obtain ⟨queue, sent, server⟩ := script
      cases queue with
      | nil => exact .exhausted hOther rfl
      | cons outcome rest => exact .entry hOther rfl

namespace Delivery

variable {delivery : Delivery}

/-- The server is asked for a list by calls, and by nothing else. -/
theorem Routed.listed_iff (hRouted : delivery.Routed) :
    delivery.listed = true ↔ ∃ kind : Kind, delivery.arguments[1]? = some kind.call := by
  cases hRouted with
  | @call _ _ script kind hCall =>
      have hAsked : script.server.asked ++ [kind] ≠ script.server.asked := by simp
      exact iff_of_true (decide_eq_true hAsked) ⟨kind, hCall⟩
  | entry hOther hQueue | exhausted hOther hQueue =>
      refine iff_of_false (by simp [listed]) ?_
      rintro ⟨kind, hCall⟩
      exact hOther kind hCall

/-- The log tells apart by their texts the commands that the server answered. -/
theorem Routed.listed_eq (hRouted : delivery.Routed) :
    delivery.listed = delivery.sent.calledKind?.isSome := by
  rw [Bool.eq_iff_iff, hRouted.listed_iff, Option.isSome_iff_exists]
  exact exists_congr fun kind => (calledKind?_received _ _ kind).symm

theorem Routed.sent_after (hRouted : delivery.Routed) :
    delivery.after.sent = delivery.before.sent ++ [delivery.sent] := by
  cases hRouted <;> rfl

theorem Routed.queries_after (hRouted : delivery.Routed) :
    delivery.after.sentQueries =
      delivery.before.sentQueries ++
        ([delivery].filter fun delivery => !delivery.listed).map sent := by
  rw [sentQueries, hRouted.sent_after, List.filter_append, sentQueries]
  congr 1
  have hListed := hRouted.listed_eq
  cases hKind : delivery.sent.calledKind? <;> simp [hListed, hKind]

/-- What the sender got from the queue is the entry that the queue has lost. -/
theorem Routed.queue_after (hRouted : delivery.Routed) :
    [delivery].filterMap handedOut? ++ delivery.after.queue = delivery.before.queue := by
  have hListed := hRouted.listed_iff
  cases hRouted with
  | @call _ _ _ kind hCall => simp [handedOut?, hListed.mpr ⟨kind, hCall⟩]
  | entry hOther hQueue | exhausted hOther hQueue => simp [handedOut?, listed, hQueue]

theorem Routed.asked_after (hRouted : delivery.Routed) :
    delivery.after.server.asked.length =
      delivery.before.server.asked.length + ([delivery].filter listed).length := by
  have hListed := hRouted.listed_iff
  cases hRouted with
  | @call _ _ _ kind hCall =>
      rw [List.filter_cons_of_pos (hListed.mpr ⟨kind, hCall⟩)]
      exact List.length_append
  | entry | exhausted => simp [listed]

end Delivery

/--
What is in a script and in its log after some moves, compared with what was there before
them, with what the moves put in and with what was delivered meanwhile.
-/
structure Balanced
    (start : Script)
    (moves : List Move)
    (delivered : List Delivery)
    (final : Script) : Prop where
  queue : delivered.filterMap Delivery.handedOut? ++ final.queue =
    start.queue ++ moves.filterMap Move.entry?
  received : delivered.map Delivery.sent = moves.filterMap Move.sent?
  sent : final.sent = start.sent ++ delivered.map Delivery.sent
  queries : final.sentQueries =
    start.sentQueries ++ (delivered.filter fun delivery => !delivery.listed).map Delivery.sent
  asked : final.server.asked.length =
    start.server.asked.length + (delivered.filter Delivery.listed).length

variable {start middle final : Script} {moves others : List Move}
  {delivered further : List Delivery}

theorem balanced_nil (script : Script) : Balanced script [] [] script where
  queue := (List.append_nil _).symm
  received := rfl
  sent := (List.append_nil _).symm
  queries := (List.append_nil _).symm
  asked := rfl

theorem Balanced.trans
    (hFirst : Balanced start moves delivered middle)
    (hSecond : Balanced middle others further final) :
    Balanced start (moves ++ others) (delivered ++ further) final where
  queue := by
    rw [List.filterMap_append, List.filterMap_append, List.append_assoc, hSecond.queue,
      ← List.append_assoc, hFirst.queue, List.append_assoc]
  received := by
    rw [List.map_append, List.filterMap_append, hFirst.received, hSecond.received]
  sent := by rw [hSecond.sent, hFirst.sent, List.map_append, List.append_assoc]
  queries := by
    rw [hSecond.queries, hFirst.queries, List.filter_append, List.map_append, List.append_assoc]
  asked := by
    rw [hSecond.asked, hFirst.asked, List.filter_append, List.length_append, Nat.add_assoc]

theorem balanced_enqueue (script : Script) (outcome : Except Failure Reply) :
    Balanced script [.enqueue outcome] [] (script.enqueue outcome) where
  queue := rfl
  received := rfl
  sent := (List.append_nil _).symm
  queries := (List.append_nil _).symm
  asked := rfl

theorem balanced_push (script : Script) (kind : Kind) (name : String) :
    Balanced script [.push kind name] [] (script.push kind name) where
  queue := (List.append_nil _).symm
  received := rfl
  sent := (List.append_nil _).symm
  queries := (List.append_nil _).symm
  asked := rfl

theorem balanced_send (script : Script) (command : Command) (arguments : List ByteArray) :
    Balanced script [.send command arguments] [script.deliver command arguments]
      (script.deliver command arguments).after := by
  have hRouted := script.routed_deliver command arguments
  exact {
    queue := hRouted.queue_after.trans (List.append_nil _).symm
    received := rfl
    sent := hRouted.sent_after
    queries := hRouted.queries_after
    asked := hRouted.asked_after }

/-- The books of a run balance, since each move starts from the script that the last one left. -/
theorem balanced_played (script : Script) (moves : List Move) :
    Balanced script moves (script.deliveries moves) (script.played moves) := by
  induction moves generalizing script with
  | nil => exact balanced_nil script
  | cons move rest ih =>
      cases move with
      | enqueue outcome => exact (balanced_enqueue script outcome).trans (ih _)
      | push kind name => exact (balanced_push script kind name).trans (ih _)
      | send command arguments => exact (balanced_send script command arguments).trans (ih _)

theorem routed_of_mem_deliveries
    {delivery : Delivery}
    (script : Script)
    (moves : List Move)
    (hMem : delivery ∈ script.deliveries moves) :
    delivery.Routed := by
  induction moves generalizing script with
  | nil => cases hMem
  | cons move rest ih =>
      cases move with
      | enqueue outcome => exact ih _ hMem
      | push kind name => exact ih _ hMem
      | send command arguments =>
          rcases List.mem_cons.mp hMem with rfl | hMem
          · exact script.routed_deliver command arguments
          · exact ih _ hMem

/--
Whatever happens to a new script, each of its commands is routed by its second argument,
what was handed out of the queue and what is left in it is what was put into it, the log
has every command, and the commands that `sentQueries` leaves out are those that the
server answered, as many as it has counted beyond the calls before.
-/
theorem conserved (server : Server) (moves : List Move) :
    let start : Script := ⟨[], [], server⟩
    let final := start.played moves
    let delivered := start.deliveries moves
    delivered.map Delivery.sent = moves.filterMap Move.sent? ∧
    (∀ delivery ∈ delivered, delivery.Routed) ∧
    delivered.filterMap Delivery.handedOut? ++ final.queue = moves.filterMap Move.entry? ∧
    final.sent = moves.filterMap Move.sent? ∧
    final.sentQueries =
      (delivered.filter fun delivery => !delivery.listed).map Delivery.sent ∧
    final.server.calls .label + final.server.calls .relationshipType +
        final.server.calls .propertyKey =
      server.asked.length + (delivered.filter Delivery.listed).length := by
  intro start final delivered
  have hBalanced : Balanced start moves delivered final := start.balanced_played moves
  refine ⟨hBalanced.received, fun _ => start.routed_of_mem_deliveries moves,
    hBalanced.queue, ?_, hBalanced.queries, ?_⟩
  · rw [hBalanced.sent, hBalanced.received]
    rfl
  · rw [Server.sum_calls, hBalanced.asked]

end Script

end GraphClient
