import GraphClient.Proofs.Schema.Soundness
import GraphClient.Proofs.Session.Lists
import GraphClient.Session.Run

/-!
# Queries do not depend on the history

Handles share a connection, clones share a cache, and reading one reply fills lists
that the next reading uses.  None of this shows in the answer to a query: it is what
the reply alone says, read off the lists that the server has at that moment.

**Invariant.**  Every handle of a session has a cache, and each list of every cache is
the beginning of the list of its kind on the server (`Session.Sound`).  Whatever is
done through a handle keeps this for its own cache (`Operation.safe_perform`) and
leaves the other caches alone, so every action of a session keeps it
(`Action.safe_perform`).  The lists of the server change by pushed names only
(`ScriptStep.sound_perform`).

**Results.**  `Asked` is a query or a call of a procedure, at any place of a run, that
the connection has replied to.  `Asked.outcome_direct` gives its outcome and compares
it with that of any other.
-/

namespace GraphClient

section Safety

variable {τ α : Type} {schema : τ → Names} {connection : Connection τ}

theorem Connection.Faithful.safe_send
    (hFaithful : connection.Faithful schema)
    (command : Command)
    (arguments : List String) :
    Backed.Safe schema (Backed.onServer (connection command arguments)) := by
  intro backed hKnown
  have hSchema := hFaithful.schema_eq command arguments backed.server
  refine ⟨hSchema, ?_⟩
  rw [Backed.Known, Backed.on_onServer, hSchema]
  exact hKnown

theorem Handle.safe_ask
    (hFaithful : connection.Faithful schema)
    (handle : Handle)
    (command : Command)
    (query : String)
    (timeout : Option Nat) :
    Backed.Safe schema (handle.ask connection command query timeout) :=
  (hFaithful.safe_send _ _).bind
    (Backed.safe_decode (handle.complete_fetch hFaithful).toHonest)

theorem Handle.safe_command
    (hFaithful : connection.Faithful schema)
    (command : Command)
    (arguments : List String)
    (read : Reply → Except Failure α) :
    Backed.Safe schema (Handle.command connection command arguments read) := by
  refine (hFaithful.safe_send command arguments).bind fun reply => ?_
  cases read reply with
  | ok value => exact .pure value
  | error failure => exact .throw failure

theorem Handle.safe_opening
    (hFaithful : connection.Faithful schema)
    (handle : Handle) :
    Backed.Safe schema (handle.opening connection) := by
  rw [opening]
  by_cases hWarm : handle.options.warmOnOpen
  · rw [if_pos hWarm]
    exact Backed.safe_warm (handle.complete_fetch hFaithful).toHonest
  · rw [if_neg hWarm]
    exact .pure ()

namespace Operation

/-- Whatever is done through a handle keeps the invariant of its cache. -/
theorem safe_perform
    (hFaithful : connection.Faithful schema)
    (handle : Handle)
    (operation : Operation) :
    Backed.Safe schema (operation.perform connection handle) := by
  have hHonest := (handle.complete_fetch hFaithful).toHonest
  cases operation with
  | query text readOnly timeout parameters =>
      rw [perform]
      cases queryText text parameters with
      | error failure => exact .throw failure
      | ok prepared => exact (handle.safe_ask hFaithful _ _ _).bind fun _ => .pure _
  | call procedure arguments columns =>
      exact (handle.safe_ask hFaithful _ _ _).bind fun _ => .pure _
  | explain text => exact (Handle.safe_command hFaithful _ _ _).bind fun _ => .pure _
  | profile text => exact (Handle.safe_command hFaithful _ _ _).bind fun _ => .pure _
  | copy destination => exact (Handle.safe_command hFaithful _ _ _).bind fun _ => .pure _
  | delete =>
      exact (Handle.safe_command hFaithful _ _ _).bind fun _ =>
        Backed.safe_clear.bind fun _ => .pure _
  | close => exact Backed.safe_clear.bind fun _ => .pure _
  | resolve kind index => exact (Backed.safe_resolve hHonest kind index).bind fun _ => .pure _
  | warm => exact (Backed.safe_warm hHonest).bind fun _ => .pure _

/-- The command that an operation sends if it is a query or a call of a procedure. -/
def question? (handle : Handle) : Operation → Option (Command × List String)
  | .query text readOnly timeout parameters =>
      match queryText text parameters with
      | .error _ => none
      | .ok prepared =>
          some (if readOnly then .readOnlyQuery else handle.queryCommand,
            queryArguments handle.graph prepared (handle.timeoutOf timeout))
  | .call procedure arguments columns =>
      some (handle.queryCommand,
        queryArguments handle.graph (callText procedure arguments columns)
          (handle.timeoutOf none))
  | _ => none

/-- A question sends its command, reads the reply and does nothing else. -/
theorem perform_question
    {handle : Handle}
    {operation : Operation}
    {command : Command}
    {arguments : List String}
    (hAsks : operation.question? handle = some (command, arguments)) :
    operation.perform connection handle = (do
      let reply ← Backed.onServer (connection command arguments)
      let table ← Backed.decode (handle.fetch connection Kind.all) reply
      pure (.table table)) := by
  cases operation with
  | query text readOnly timeout parameters =>
      rw [question?] at hAsks
      rw [perform]
      cases hText : queryText text parameters with
      | error failure =>
          rw [hText] at hAsks
          cases hAsks
      | ok prepared =>
          rw [hText] at hAsks
          cases hAsks
          exact bind_assoc _ _ _
  | call procedure arguments columns =>
      cases hAsks
      exact bind_assoc _ _ _
  | _ => cases hAsks

/-- A question that is replied to is answered by what the reply says of the whole lists. -/
theorem outcome_question
    (hFaithful : connection.Faithful schema)
    {handle : Handle}
    {operation : Operation}
    {command : Command}
    {arguments : List String}
    {backed : Backed τ}
    {reply : Reply}
    (hKnown : Backed.Known schema backed)
    (hAsks : operation.question? handle = some (command, arguments))
    (hReply : ((connection command arguments).on backed.server).1 = .ok reply) :
    ((operation.perform connection handle).on backed).1 =
      (Table.decodeDirect (schema backed.server) reply).map .table := by
  have hSchema := hFaithful.schema_eq command arguments backed.server
  obtain ⟨-, hSent⟩ := hFaithful.safe_send command arguments backed hKnown
  have hTable := Backed.decode_complete (handle.complete_fetch hFaithful) reply hSent
  rw [perform_question hAsks, Attempt.on_bind]
  rw [Backed.on_onServer, hReply] at hTable ⊢
  simp only [Attempt.on_bind_pure, hTable]
  rw [hSchema]

end Operation

end Safety

namespace Session

variable {τ α : Type} {schema : τ → Names} {session : Session τ}

/-- Every handle has a cache, and every cache knows the beginnings of the lists of the schema. -/
structure Sound (schema : τ → Names) (session : Session τ) : Prop where
  opened : ∀ handle ∈ session.handles, handle.cache < session.caches.length
  known : ∀ cache ∈ session.caches, cache.names ≤ schema session.link

/-- The attempt leaves the schema alone and keeps the session sound. -/
abbrev Safe (schema : τ → Names) (attempt : Attempt (Session τ) α) : Prop :=
  attempt.Keeps (fun session => schema session.link) (Sound schema)

theorem sound_new (link : τ) : Sound schema (.new link) where
  opened _ hHandle := nomatch hHandle
  known _ hCache := nomatch hCache

theorem Sound.handle?_eq
    (hSound : Sound schema session)
    {number : Nat}
    {handle : Handle}
    (hHandle : session.handles[number]? = some handle) :
    ∃ cache ∈ session.caches, session.handle? number = some (handle, cache) := by
  have hPosition := hSound.opened handle (List.mem_of_getElem? hHandle)
  have hCache := List.getElem?_eq_getElem hPosition
  refine ⟨session.caches[handle.cache], List.getElem_mem hPosition, ?_⟩
  rw [handle?, hHandle, Option.bind_some, hCache, Option.map_some]

theorem mem_of_handle?
    {number : Nat}
    {handle : Handle}
    {cache : Cache}
    (hOpen : session.handle? number = some (handle, cache)) :
    handle ∈ session.handles ∧ cache ∈ session.caches := by
  rw [handle?, Option.bind_eq_some_iff] at hOpen
  obtain ⟨found, hFound, hCache⟩ := hOpen
  rw [Option.map_eq_some_iff] at hCache
  obtain ⟨kept, hKept, hPair⟩ := hCache
  cases hPair
  exact ⟨List.mem_of_getElem? hFound, List.mem_of_getElem? hKept⟩

theorem Sound.grow
    (hSound : Sound schema session)
    {link : τ}
    (hGrown : schema session.link ≤ schema link) :
    Sound schema { session with link := link } where
  opened := hSound.opened
  known cache hCache := Names.le_trans (hSound.known cache hCache) hGrown

theorem Sound.relink
    (hSound : Sound schema session)
    {link : τ}
    (hSchema : schema link = schema session.link) :
    Sound schema { session with link := link } :=
  hSound.grow (hSchema.symm ▸ Names.le_refl _)

theorem Sound.addCache
    (hSound : Sound schema session)
    {cache : Cache}
    (hCache : cache.names ≤ schema session.link) :
    Sound schema { session with caches := session.caches ++ [cache] } := by
  refine ⟨fun handle hHandle => ?_, fun other hOther => ?_⟩
  · have hOpened := hSound.opened handle hHandle
    rw [List.length_append, List.length_singleton]
    omega
  · rcases List.mem_append.mp hOther with hOld | hNew
    · exact hSound.known other hOld
    · rw [List.mem_singleton.mp hNew]
      exact hCache

theorem Sound.addHandle
    (hSound : Sound schema session)
    {handle : Handle}
    (hHandle : handle.cache < session.caches.length) :
    Sound schema { session with handles := session.handles ++ [handle] } := by
  refine ⟨fun other hOther => ?_, hSound.known⟩
  rcases List.mem_append.mp hOther with hOld | hNew
  · exact hSound.opened other hOld
  · rw [List.mem_singleton.mp hNew]
    exact hHandle

theorem safe_onLink
    {attempt : Attempt τ α}
    (hSchema : ∀ link, schema (attempt.on link).2 = schema link) :
    Safe schema (onLink attempt) :=
  fun session hSound =>
    ⟨hSchema session.link, hSound.relink (hSchema session.link)⟩

theorem sound_withCache
    (number : Nat)
    {cache : Cache}
    {attempt : Attempt (Backed τ) α}
    (hAttempt : Backed.Safe schema attempt)
    (hCache : cache ∈ session.caches)
    (hSound : Sound schema session) :
    schema ((withCache number cache attempt).on session).2.link = schema session.link ∧
      Sound schema ((withCache number cache attempt).on session).2 := by
  obtain ⟨hSchema, hKnown⟩ := hAttempt ⟨cache, session.link⟩ (hSound.known cache hCache)
  refine ⟨hSchema, ⟨fun handle hHandle => ?_, fun other hOther => ?_⟩⟩
  · have hOpened := hSound.opened handle hHandle
    simpa [withCache] using hOpened
  · rcases List.mem_or_eq_of_mem_set hOther with hOld | rfl
    · exact (hSound.relink hSchema).known other hOld
    · exact hKnown

theorem safe_select
    {connection : Connection τ}
    (hFaithful : connection.Faithful schema)
    (graph : String)
    (options : Options) :
    Safe schema (select connection graph options) := by
  intro session hSound
  obtain ⟨hSchema, hKnown⟩ :=
    Handle.safe_opening hFaithful ⟨graph, options, session.caches.length⟩
      ⟨.new graph, session.link⟩ (Names.empty_le _)
  rw [select, Attempt.on_ofFunction]
  dsimp only
  rcases hOn : (Handle.opening connection ⟨graph, options, session.caches.length⟩).on
    ⟨.new graph, session.link⟩ with ⟨failure | done, backed⟩
  · rw [hOn] at hSchema
    exact ⟨hSchema, hSound.relink hSchema⟩
  · rw [hOn] at hSchema hKnown
    refine ⟨hSchema, ((hSound.relink hSchema).addCache hKnown).addHandle ?_⟩
    rw [List.length_append, List.length_singleton]
    exact Nat.lt_succ_self _

end Session

/-- Every action leaves the schema alone and keeps the session sound. -/
theorem Action.safe_perform
    {τ : Type}
    {schema : τ → Names}
    {connection : Connection τ}
    (hFaithful : connection.Faithful schema)
    (action : Action) :
    Session.Safe schema (action.perform connection) := by
  cases action with
  | select graph options =>
      exact (Session.safe_select hFaithful graph options).bind fun _ => .pure _
  | list =>
      have hSend := Session.safe_onLink (hFaithful.schema_eq .list [])
      exact (hSend.bind fun _ => .pure _).bind fun _ => .pure _
  | clone number =>
      intro session hSound
      rw [perform, Attempt.on_bind, Attempt.on_get]
      cases hOpen : session.handle? number with
      | none =>
          simp only [hOpen]
          exact ⟨rfl, hSound⟩
      | some found =>
          obtain ⟨handle, cache⟩ := found
          obtain ⟨hHandle, -⟩ := Session.mem_of_handle? hOpen
          simp only [hOpen, Attempt.on_bind_pure]
          exact ⟨rfl, hSound.addHandle (hSound.opened handle hHandle)⟩
  | through number operation =>
      intro session hSound
      rw [perform, Attempt.on_bind, Attempt.on_get]
      cases hOpen : session.handle? number with
      | none =>
          simp only [hOpen]
          exact ⟨rfl, hSound⟩
      | some found =>
          obtain ⟨handle, cache⟩ := found
          obtain ⟨-, hCache⟩ := Session.mem_of_handle? hOpen
          simp only [hOpen]
          exact Session.sound_withCache handle.cache (operation.safe_perform hFaithful handle)
            hCache hSound

/-- A question through an open handle of a sound session. -/
theorem Action.outcome_question
    {τ : Type}
    {schema : τ → Names}
    {connection : Connection τ}
    (hFaithful : connection.Faithful schema)
    {session : Session τ}
    (hSound : session.Sound schema)
    {number : Nat}
    {handle : Handle}
    (hHandle : session.handles[number]? = some handle)
    {operation : Operation}
    {command : Command}
    {arguments : List String}
    (hAsks : operation.question? handle = some (command, arguments))
    {reply : Reply}
    (hReply : ((connection command arguments).on session.link).1 = .ok reply) :
    (((Action.through number operation).perform connection).on session).1 =
      (Table.decodeDirect (schema session.link) reply).map .table := by
  obtain ⟨cache, hCache, hOpen⟩ := hSound.handle?_eq hHandle
  have hKnown : Backed.Known schema ⟨cache, session.link⟩ := hSound.known cache hCache
  have hOutcome := Operation.outcome_question hFaithful hKnown hAsks hReply
  rw [perform, Attempt.on_bind, Attempt.on_get]
  simp only [hOpen]
  exact hOutcome

namespace ScriptStep

variable {session : Session Script}

/-- The lists of a server after a step: only a new name changes them. -/
def grow (names : Names) : ScriptStep → Names
  | .action _ => names
  | .enqueue _ => names
  | .push kind name => names.append kind [name]

/-- The session that steps leave behind. -/
def reached (script : Script) (steps : List ScriptStep) : Session Script :=
  Attempt.after (perform Script.serve) steps (.new script)

/-- Every step does to the lists of the server what `grow` says, and keeps the session sound. -/
theorem sound_perform
    (hSound : session.Sound Script.names)
    (step : ScriptStep) :
    ((step.perform Script.serve).on session).2.link.names = step.grow session.link.names ∧
      ((step.perform Script.serve).on session).2.Sound Script.names := by
  cases step with
  | action step => exact step.safe_perform Script.faithful_serve session hSound
  | enqueue outcome => exact ⟨rfl, hSound.relink rfl⟩
  | push kind name => exact ⟨rfl, hSound.grow (session.link.names.le_append kind [name])⟩

theorem sound_reached
    (script : Script)
    (steps : List ScriptStep) :
    (reached script steps).link.names = steps.foldl grow script.names ∧
      (reached script steps).Sound Script.names := by
  refine Attempt.after_keeps
    (fun names (session : Session Script) =>
      session.link.names = names ∧ session.Sound Script.names)
    ?_ steps ⟨rfl, Session.sound_new script⟩
  rintro step names session ⟨rfl, hSound⟩
  exact sound_perform hSound step

end ScriptStep

/-- A query or a call of a procedure in a run, through an open handle, with the reply to it. -/
structure Asked (script : Script) (steps : List ScriptStep) where
  before : List ScriptStep
  number : Nat
  operation : Operation
  rest : List ScriptStep
  handle : Handle
  command : Command
  arguments : List String
  reply : Reply
  splits : steps = before ++ .action (.through number operation) :: rest
  opened : (ScriptStep.reached script before).handles[number]? = some handle
  asks : operation.question? handle = some (command, arguments)
  replied :
    ((Script.serve command arguments).on (ScriptStep.reached script before).link).1 = .ok reply

namespace Asked

variable {script : Script} {steps : List ScriptStep}

def outcome (asked : Asked script steps) : Option (Except Failure Answer) :=
  ((ScriptStep.run Script.serve steps (.new script))[asked.before.length]?).map Prod.fst

/-- The lists of the server when the question is asked: those at first, and the names pushed. -/
def names (asked : Asked script steps) : Names :=
  asked.before.foldl ScriptStep.grow script.names

theorem outcome_eq (asked : Asked script steps) :
    asked.outcome = some ((Table.decodeDirect asked.names asked.reply).map .table) := by
  obtain ⟨hNames, hSound⟩ := ScriptStep.sound_reached script asked.before
  have hQuestion := Action.outcome_question Script.faithful_serve hSound asked.opened asked.asks
    asked.replied
  have hEntry := Attempt.getElem?_runAll (ScriptStep.perform Script.serve) asked.before asked.rest
    (.action (.through asked.number asked.operation)) (.new script)
  rw [← asked.splits] at hEntry
  rw [hNames] at hQuestion
  rw [outcome, ScriptStep.run, hEntry, Option.map_some]
  exact congrArg some hQuestion

/--
**Queries do not depend on the history.**  In every run of a session over a script, a
query or a call of a procedure that is replied to ends as that reply reads off the
lists that the server has by then.  So two questions with one reply and one state of
the lists have one outcome, whichever handles asked them, in whichever runs, and
whatever was cached, dropped, opened or refused before.
-/
theorem outcome_direct (asked : Asked script steps) :
    (ScriptStep.reached script asked.before).link.names = asked.names ∧
    asked.outcome = some ((Table.decodeDirect asked.names asked.reply).map .table) ∧
    ∀ (otherScript : Script) (otherSteps : List ScriptStep) (other : Asked otherScript otherSteps),
      other.reply = asked.reply → other.names = asked.names → other.outcome = asked.outcome := by
  obtain ⟨hNames, -⟩ := ScriptStep.sound_reached script asked.before
  refine ⟨hNames, asked.outcome_eq, fun otherScript otherSteps other hReply hSame => ?_⟩
  rw [other.outcome_eq, asked.outcome_eq, hReply, hSame]

end Asked

namespace Sample

/-- A script whose server lacks a label that the sample reply needs. -/
def script : Script := .ofNames ⟨["City"], ["KNOWS"], ["name"]⟩

/-- Two handles share a cache, a command through one fails, and the label is added. -/
def before : List ScriptStep :=
  [.action (.select "social" .standard), .action (.clone 0),
   .enqueue (.error (.transport "reset")), .enqueue (.ok reply),
   .action (.through 0 .delete), .push .label "Person"]

/-- A query through the clone is replied to. -/
def asked :
    Asked script
      (before ++ [.action (.through 1 (.query "MATCH (n) RETURN n" true (some 5) []))]) where
  before := before
  number := 1
  operation := .query "MATCH (n) RETURN n" true (some 5) []
  rest := []
  handle := ⟨"social", .standard, 0⟩
  command := .readOnlyQuery
  arguments := ["social", "MATCH (n) RETURN n", "--compact", "timeout", "5"]
  reply := reply
  splits := rfl
  opened := rfl
  asks := by decide
  replied := rfl

end Sample

/-- The query of the sample run is answered by the sample table. -/
theorem Asked.outcome_direct_sample : Sample.asked.outcome = some (.ok (.table Sample.table)) := by
  obtain ⟨-, hOutcome, -⟩ := Sample.asked.outcome_direct
  exact hOutcome.trans rfl

end GraphClient
