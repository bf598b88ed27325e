import GraphClient.Proofs.Schema.Fetches
import GraphClient.Schema.Run

/-!
# A journal of the work with a cache

What is asked of a cache, and what is fetched for it, is written down in a journal beside
the server while the work is done: every name that is asked for, alone or in the middle of a
reply, every fetch with its outcome, and every list that warming comes to.

A fetch may go through the cache itself and ask for names in turn, so it is one that keeps
the journal too.  A source does nothing of the kind and is lifted (`Source.journaled`).

**The journal does not show.**  Work with a journal shows the work without (`Attempt.Shows`)
as soon as its fetches do: the outcomes are the same, and forgetting the journal gives the
same cache and the same server (`Journaled.shows_perform`).
-/

namespace GraphClient

namespace Attempt

variable {ι σ τ α : Type} {view : σ → τ}

/-- The same first step before both does not matter if it is not seen. -/
theorem Shows.after_unseen
    {change : Attempt σ Unit}
    {attempt : Attempt σ α}
    {shown : Attempt τ α}
    (hChange : change.Shows view (Pure.pure ()))
    (hAttempt : attempt.Shows view shown) :
    Shows view (change >>= fun _ => attempt) shown :=
  hChange.bind fun _ => hAttempt

theorem Shows.after
    {perform : ι → Attempt σ α}
    {shown : ι → Attempt τ α}
    (hPerform : ∀ step, (perform step).Shows view (shown step))
    (steps : List ι)
    (state : σ) :
    view (Attempt.after perform steps state) = Attempt.after shown steps (view state) := by
  induction steps generalizing state with
  | nil => rfl
  | cons step rest ih =>
      rw [Attempt.after, Attempt.after, ih, ← hPerform step state]

/-- The steps of a list up to and including the first that fails. -/
def upToFailure (perform : ι → Attempt σ α) : List ι → σ → List ι
  | [], _ => []
  | step :: rest, state =>
      match (perform step).on state with
      | (.ok _, after) => step :: upToFailure perform rest after
      | (.error _, _) => [step]

theorem Shows.upToFailure_eq
    {perform : ι → Attempt σ α}
    {shown : ι → Attempt τ α}
    (hPerform : ∀ step, (perform step).Shows view (shown step))
    (steps : List ι)
    (state : σ) :
    upToFailure perform steps state = upToFailure shown steps (view state) := by
  induction steps generalizing state with
  | nil => rfl
  | cons step rest ih =>
      rw [upToFailure, upToFailure, ← hPerform step state]
      rcases (perform step).on state with ⟨failure | value, after⟩
      · rfl
      · exact congrArg (step :: ·) (ih after)

end Attempt

/-- What was asked of a cache, and what was fetched for it. -/
structure Journal where
  /-- The names asked for, in order. -/
  asked : List (Kind × Nat)
  /-- The fetches, in the order in which they ended, each with what came of it. -/
  fetched : List (Kind × Except Failure Table)
  /-- The lists that warming has come to, in order. -/
  warmed : List Kind

namespace Journal

def blank : Journal := ⟨[], [], []⟩

def ask (journal : Journal) (kind : Kind) (index : Nat) : Journal :=
  { journal with asked := journal.asked ++ [(kind, index)] }

def fetch (journal : Journal) (kind : Kind) (outcome : Except Failure Table) : Journal :=
  { journal with fetched := journal.fetched ++ [(kind, outcome)] }

def warm (journal : Journal) (kind : Kind) : Journal :=
  { journal with warmed := journal.warmed ++ [kind] }

/-- The number of fetches that were answered. -/
def answered (journal : Journal) : Nat := journal.fetched.countP fun fetch => fetch.2.isOk

variable (journal : Journal) (kind : Kind)

theorem length_asked_ask (index : Nat) :
    (journal.ask kind index).asked.length = journal.asked.length + 1 := by
  rw [ask, List.length_append, List.length_singleton]

theorem length_fetched_fetch (outcome : Except Failure Table) :
    (journal.fetch kind outcome).fetched.length = journal.fetched.length + 1 := by
  rw [fetch, List.length_append, List.length_singleton]

theorem answered_fetch_ok (table : Table) :
    (journal.fetch kind (.ok table)).answered = journal.answered + 1 := by
  rw [answered, fetch, List.countP_append]
  rfl

theorem answered_fetch_error (failure : Failure) :
    (journal.fetch kind (.error failure)).answered = journal.answered := by
  rw [answered, fetch, List.countP_append]
  rfl

end Journal

/-- A server with a journal beside it. -/
structure Journaled (σ : Type) where
  server : σ
  journal : Journal

namespace Journaled

variable {σ α : Type}

/-- What is done to the server alone. -/
def lift (attempt : Attempt σ α) : Attempt (Journaled σ) α :=
  Attempt.ofFunction fun journaled =>
    let (outcome, server) := attempt.on journaled.server
    (outcome, { journaled with server := server })

/-- A change of the journal. -/
def note (backed : Backed (Journaled σ)) (change : Journal → Journal) : Backed (Journaled σ) :=
  ⟨backed.cache, ⟨backed.server.server, change backed.server.journal⟩⟩

def noting (change : Journal → Journal) : Attempt (Backed (Journaled σ)) Unit :=
  modify fun backed => note backed change

/-- Does what a fetch does and writes it down. -/
def fetching (fetch : Fetch (Journaled σ)) : Fetch (Journaled σ) := fun kind =>
  Attempt.ofFunction fun backed =>
    let (outcome, after) := (fetch kind).on backed
    (outcome, note after fun journal => journal.fetch kind outcome)

/-- A fetch for warming, which is also written down as such. -/
def warming (fetch : Fetch (Journaled σ)) : Fetch (Journaled σ) := fun kind => do
  noting fun journal => journal.warm kind
  fetching fetch kind

def resolve
    (fetch : Fetch (Journaled σ))
    (kind : Kind)
    (index : Nat) :
    Attempt (Backed (Journaled σ)) String := do
  noting fun journal => journal.ask kind index
  Backed.resolve (fetching fetch) kind index

def decode (fetch : Fetch (Journaled σ)) (reply : Reply) : Attempt (Backed (Journaled σ)) Table :=
  Table.decode (resolve fetch) reply

/-- Does a step of work and keeps the journal. -/
def perform (fetch : Fetch (Journaled σ)) : Request → Attempt (Backed (Journaled σ)) Answer
  | .resolve kind index => do
      let name ← resolve fetch kind index
      pure (.text name)
  | .warm => do
      Backed.warm (warming fetch)
      pure .done
  | .clear => do
      Backed.clear
      pure .done
  | .decode reply => do
      let table ← decode fetch reply
      pure (.table table)

/-- The state in which a journal begins. -/
def start (backed : Backed σ) : Backed (Journaled σ) :=
  ⟨backed.cache, ⟨backed.server, .blank⟩⟩

/-- The state without the journal. -/
abbrev forget (backed : Backed (Journaled σ)) : Backed σ := backed.mapServer Journaled.server

theorem shows_noting (change : Journal → Journal) :
    (noting (σ := σ) change).Shows forget (pure ()) :=
  fun _ => rfl

section Fetches

variable {fetch : Fetch (Journaled σ)} {shown : Fetch σ}
variable (hFetch : ∀ kind, (fetch kind).Shows forget (shown kind))

include hFetch

theorem shows_fetching (kind : Kind) : (fetching fetch kind).Shows forget (shown kind) := by
  intro backed
  rw [← hFetch kind backed]
  rfl

theorem shows_warming (kind : Kind) : (warming fetch kind).Shows forget (shown kind) :=
  (shows_noting _).after_unseen (shows_fetching hFetch kind)

theorem shows_resolve
    (kind : Kind)
    (index : Nat) :
    (resolve fetch kind index).Shows forget (Backed.resolve shown kind index) :=
  (shows_noting _).after_unseen (Backed.shows_resolve (shows_fetching hFetch kind) index)

theorem shows_decode (reply : Reply) :
    (decode fetch reply).Shows forget (Backed.decode shown reply) :=
  Table.shows_decode (shows_resolve hFetch) reply

theorem shows_refresh_warming (kind : Kind) :
    (Backed.refresh (warming fetch) kind).Shows forget (Backed.refresh shown kind) :=
  Backed.shows_refresh (shows_warming hFetch kind)

/-- A step of work with a journal is the step of work without. -/
theorem shows_perform (request : Request) :
    (perform fetch request).Shows forget (request.perform shown) := by
  cases request with
  | resolve kind index => exact (shows_resolve hFetch kind index).bind fun _ => .pure _
  | warm => exact (Backed.shows_refreshAll (shows_refresh_warming hFetch) _).bind fun _ => .pure _
  | clear => exact fun _ => rfl
  | decode reply => exact (shows_decode hFetch reply).bind fun _ => .pure _

end Fetches

end Journaled

/-- A source with a journal beside its server, which it does not touch. -/
def Source.journaled {σ : Type} (source : Source σ) : Fetch (Journaled σ) :=
  Backed.fetchFrom fun kind => Journaled.lift (source kind)

theorem Source.shows_journaled
    {σ : Type}
    (source : Source σ)
    (kind : Kind) :
    (source.journaled kind).Shows Journaled.forget (Backed.fetchFrom source kind) :=
  fun _ => rfl

end GraphClient
