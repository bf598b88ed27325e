import GraphClient.Proofs.Schema.Accounts
import GraphClient.Proofs.Session.Commands

/-!
# The counters of a cache behind any source or handle

The names of a cache come from a source, which does not touch the cache, or over the
connection of a handle, whose replies are read through the very cache that is being
refreshed.  Here the journal is kept for both, and the counters of the cache are compared
with it after any run.

**Handles.**  Reading the reply to one call may need further calls.  By induction on the
kinds that are idle, a handle that keeps the journal does what the handle does, and it
accounts (`Handle.fetch_journaled`).  A list that is needed while it is being fetched
counts as a fetch that is refused.

**Servers.**  If the server writes down which lists it is asked for, then a run over sources
makes its record and the journal longer by the same fetches (`BackedRequest.agrees_after`).

**Runs.**  The books of a cache balance at first, every request keeps the balance
(`BackedRequest.balanced_journaled`), and so does a run (`BackedRequest.balanced_after`).
`BackedRequest.counters_account` reads the counters off the balance.
-/

namespace GraphClient

namespace Handle

variable {τ : Type}

/-- Fetches the list of a kind through a handle and keeps the journal while reading it. -/
def journaled
    (connection : Connection τ)
    (handle : Handle)
    (idle : List Kind)
    (kind : Kind) :
    Attempt (Backed (Journaled τ)) Table :=
  if _hIdle : kind ∈ idle then do
    let arguments :=
      queryArguments handle.graph (callText kind.procedure [] []) (handle.timeoutOf none)
    let reply ← Backed.onServer (Journaled.lift (connection handle.queryCommand arguments))
    Journaled.decode (journaled connection handle (idle.erase kind)) reply
  else throw (.blocked kind)
termination_by idle.length
decreasing_by
  have hPositive := List.length_pos_of_mem _hIdle
  rw [List.length_erase_of_mem _hIdle]
  omega

theorem fetch_journaled
    (connection : Connection τ)
    (handle : Handle)
    (idle : List Kind)
    (kind : Kind) :
    (handle.journaled connection idle kind).Shows Journaled.forget
        (handle.fetch connection idle kind) ∧
      Journaled.Accounts (handle.journaled connection idle kind) := by
  fun_induction handle.journaled connection idle kind with
  | case1 idle kind hIdle arguments ih =>
      rw [fetch_of_mem connection handle hIdle]
      constructor
      · refine Attempt.Shows.bind (fun _ => rfl) fun reply => ?_
        exact Journaled.shows_decode (fun other => (ih other).1) reply
      · refine Journaled.Accounts.bind (Journaled.accounts_lift _) fun reply => ?_
        exact Journaled.accounts_decode (fun other => (ih other).2) reply
  | case2 idle kind hBusy =>
      rw [fetch_of_not_mem connection handle hBusy]
      exact ⟨.throw _, Journaled.accounts_throw _⟩

end Handle

section Records

variable {τ : Type} {called : τ → List Kind} {earlier : List Kind}

/-- The server writes down the lists that the source asks it for. -/
def Source.Records (called : τ → List Kind) (source : Source τ) : Prop :=
  ∀ kind server, called ((source kind).on server).2 = called server ++ [kind]

/-- Beyond what it had `earlier`, the server has written down the fetches of the journal. -/
def Journaled.Agrees
    (called : τ → List Kind)
    (earlier : List Kind)
    (journaled : Journaled τ) :
    Prop :=
  called journaled.server = earlier ++ journaled.journal.fetched.map Prod.fst

namespace Journaled

variable {source : Source τ} (hRecords : source.Records called)

include hRecords

theorem agrees_fetching (kind : Kind) :
    Backed.Preserves (Agrees called earlier) (fetching source.journaled kind) := by
  intro backed hAgrees
  refine ⟨rfl, ?_⟩
  change called ((source kind).on backed.server.server).2 =
    earlier ++ (backed.server.journal.fetched ++ [(kind, _)]).map Prod.fst
  rw [hRecords, hAgrees, List.map_append, List.append_assoc]
  rfl

theorem agrees_perform (request : Request) :
    Backed.Preserves (Agrees called earlier) (perform source.journaled request) := by
  have hResolve : ∀ kind index,
      Backed.Preserves (Agrees called earlier) (resolve source.journaled kind index) :=
    fun kind index => Attempt.Keeps.bind (fun _ hAgrees => ⟨rfl, hAgrees⟩) fun _ =>
      Backed.preserves_resolve (agrees_fetching hRecords kind) index
  have hWarming : ∀ kind,
      Backed.Preserves (Agrees called earlier) (warming source.journaled kind) :=
    fun kind => Attempt.Keeps.bind (fun _ hAgrees => ⟨rfl, hAgrees⟩) fun _ =>
      agrees_fetching hRecords kind
  have hRefresh := fun kind => Backed.preserves_refresh (hWarming kind)
  cases request with
  | resolve kind index => exact (hResolve kind index).bind fun _ => .pure _
  | warm => exact (Backed.keeps_refreshAll hRefresh Kind.all).bind fun _ => .pure _
  | clear => exact fun _ hAgrees => ⟨rfl, hAgrees⟩
  | decode reply => exact (Table.keeps_decode hResolve reply).bind fun _ => .pure _

end Journaled

end Records

/-- What stands behind a cache. -/
inductive Backing (τ : Type) where
  | direct (source : Source τ)
  | through (connection : Connection τ) (handle : Handle)

namespace Backing

variable {τ : Type}

/-- The server is asked directly, and writes down what for. -/
inductive Records (called : τ → List Kind) : Backing τ → Prop
  | direct {source : Source τ} : source.Records called → Records called (.direct source)

def fetch : Backing τ → Fetch τ
  | .direct source => Backed.fetchFrom source
  | .through connection handle => handle.fetch connection Kind.all

/-- The same fetches, with the journal kept. -/
def journaled : Backing τ → Fetch (Journaled τ)
  | .direct source => source.journaled
  | .through connection handle => handle.journaled connection Kind.all

theorem shows_journaled
    (backing : Backing τ)
    (kind : Kind) :
    (backing.journaled kind).Shows Journaled.forget (backing.fetch kind) := by
  cases backing with
  | direct source => exact source.shows_journaled kind
  | through connection handle => exact (handle.fetch_journaled connection Kind.all kind).1

theorem accounts_journaled
    (backing : Backing τ)
    (kind : Kind) :
    Journaled.Accounts (backing.journaled kind) := by
  cases backing with
  | direct source => exact Journaled.accounts_source source kind
  | through connection handle => exact (handle.fetch_journaled connection Kind.all kind).2

end Backing

/-- A request to a cache with what stands behind the cache at that moment. -/
structure BackedRequest (τ : Type) where
  backing : Backing τ
  request : Request

namespace BackedRequest

variable {τ : Type}

def perform (step : BackedRequest τ) : Attempt (Backed τ) Answer :=
  step.request.perform step.backing.fetch

def journaled (step : BackedRequest τ) : Attempt (Backed (Journaled τ)) Answer :=
  Journaled.perform step.backing.journaled step.request

def clears (step : BackedRequest τ) : Bool :=
  match step.request with
  | .clear => true
  | _ => false

/-- The lists that a request comes to by warming: each in order, and none after a failure. -/
def warms (step : BackedRequest τ) (backed : Backed τ) : List Kind :=
  match step.request with
  | .warm => Attempt.upToFailure (Backed.refresh step.backing.fetch) Kind.all backed
  | _ => []

theorem shows_journaled (step : BackedRequest τ) :
    step.journaled.Shows Journaled.forget step.perform :=
  Journaled.shows_perform step.backing.shows_journaled step.request

/-- Where every source is written down by the server, its record is that of the journal. -/
theorem agrees_after
    {called : τ → List Kind}
    {earlier : List Kind}
    {steps : List (BackedRequest τ)}
    (hRecords : ∀ step ∈ steps, step.backing.Records called)
    {backed : Backed (Journaled τ)}
    (hAgrees : Journaled.Agrees called earlier backed.server) :
    Journaled.Agrees called earlier (Attempt.after journaled steps backed).server := by
  induction steps generalizing backed with
  | nil => exact hAgrees
  | cons step rest ih =>
      obtain ⟨hStep, hRest⟩ := List.forall_mem_cons.mp hRecords
      obtain ⟨backing, request⟩ := step
      cases hStep with
      | direct hSource =>
          exact ih hRest (Journaled.agrees_perform hSource request backed hAgrees).2

/-- What one request does to the books. -/
theorem books_journaled
    (step : BackedRequest τ)
    {floor : Metrics}
    {backed : Backed (Journaled τ)}
    (hSince : floor.Since backed.cache.metrics) :
    let after := (step.journaled.on backed).2
    Journaled.books after =
        (let warmed := (Journaled.books backed).warm (step.warms (Journaled.forget backed))
         if step.clears then warmed.clear else warmed) ∧
      floor.Since after.cache.metrics := by
  obtain ⟨hBooks, hAfter⟩ :=
    Journaled.books_perform step.backing.accounts_journaled step.request hSince
  refine ⟨Eq.trans hBooks ?_, hAfter⟩
  obtain ⟨backing, request⟩ := step
  cases request with
  | warm =>
      have hWarmed := Attempt.Shows.upToFailure_eq
        (Journaled.shows_refresh_warming backing.shows_journaled) Kind.all backed
      exact congrArg (Journaled.books backed).warm hWarmed
  | _ => simp only [clears, warms, Journaled.Books.warm_nil, if_true, Bool.false_eq_true, if_false]

/-- The counters of the cache say what the journal says, with a given number of clears. -/
structure Balanced (clears : Nat) (backed : Backed (Journaled τ)) : Prop where
  calls : (Journaled.books backed).calls = 0
  refreshes : (Journaled.books backed).refreshes = 0
  misses : (Journaled.books backed).misses = -(Journaled.books backed).warmed.length
  clears : (Journaled.books backed).clears = clears
  hits : backed.cache.metrics.hits ≤ backed.cache.metrics.calls

theorem balanced_start
    (graph : String)
    (server : τ) :
    Balanced 0 (Journaled.start ⟨.new graph, server⟩) :=
  ⟨rfl, rfl, rfl, rfl, Nat.le_refl _⟩

variable {clears : Nat} {backed : Backed (Journaled τ)}

/-- What the counters say where the books balance. -/
theorem Balanced.metrics_eq
    (hBalanced : Balanced clears backed) :
    let metrics := backed.cache.metrics
    let journal := backed.server.journal
    metrics.calls = journal.asked.length ∧
    journal.fetched.length = metrics.calls - metrics.hits + journal.warmed.length ∧
    metrics.refreshes = journal.answered ∧
    metrics.clears = clears := by
  obtain ⟨hCalls, hRefreshes, hMisses, hClears, hHits⟩ := hBalanced
  simp only [Journaled.books] at hCalls hRefreshes hMisses hClears
  dsimp only
  omega

/-- Any request keeps the balance, and no counter goes back. -/
theorem balanced_journaled
    (step : BackedRequest τ)
    (hBalanced : Balanced clears backed) :
    Balanced (clears + if step.clears then 1 else 0) (step.journaled.on backed).2 ∧
      backed.cache.metrics ≤ (step.journaled.on backed).2.cache.metrics := by
  obtain ⟨hBooks, hSince⟩ := step.books_journaled (Metrics.Since.refl hBalanced.hits)
  refine ⟨?_, hSince.floor_le⟩
  constructor
  · rw [hBooks]
    split <;> exact hBalanced.calls
  · rw [hBooks]
    split <;> exact hBalanced.refreshes
  · have hMisses := hBalanced.misses
    rw [hBooks]
    split
    all_goals
      simp only [Journaled.Books.clear, Journaled.Books.warm, List.length_append]
      omega
  · rw [hBooks]
    split
    · exact congrArg (· + 1) hBalanced.clears
    · exact hBalanced.clears
  · exact hSince.hits_le

theorem balanced_after
    (steps : List (BackedRequest τ))
    (hBalanced : Balanced clears backed) :
    Balanced (clears + steps.countP BackedRequest.clears)
      (Attempt.after journaled steps backed) := by
  induction steps generalizing clears backed with
  | nil => exact hBalanced
  | cons step rest ih =>
      rw [List.countP_cons, Nat.add_comm (rest.countP _), ← Nat.add_assoc]
      exact ih (step.balanced_journaled hBalanced).1

/--
**The counters account for every call.**  Work with the cache of a graph, each request with
a source or a handle of its own, which may answer, fail or return rows that are no names.
Then the cache is as it is without the journal, and its counters are as follows.

* The calls are the names asked for, also those asked for while a reply is read.
* There are no more hits than calls.  The lists fetched are one for each call that was no
  hit, and those fetched for warming.
* The refreshes are the fetches that were answered, also with rows that were rejected.
* The clears are the requests to drop the names.

The fetches of the journal are real.  If every request has a source and the server writes
down which lists it is asked for, it has written down just these.

One more request does the same with the journal as without.  By warming it comes to each
list in order, up to and including the first that fails, and no counter goes back.
-/
theorem counters_account
    (graph : String)
    (server : τ)
    (steps : List (BackedRequest τ)) :
    let start : Backed τ := ⟨.new graph, server⟩
    let reached := Attempt.after perform steps start
    let written := Attempt.after journaled steps (Journaled.start start)
    let metrics := reached.cache.metrics
    let journal := written.server.journal
    Journaled.forget written = reached ∧
    metrics.calls = journal.asked.length ∧
    metrics.hits ≤ metrics.calls ∧
    journal.fetched.length = metrics.calls - metrics.hits + journal.warmed.length ∧
    metrics.refreshes = journal.answered ∧
    metrics.clears = steps.countP BackedRequest.clears ∧
    (∀ called : τ → List Kind, (∀ step ∈ steps, step.backing.Records called) →
      called reached.server = called server ++ journal.fetched.map Prod.fst) ∧
    ∀ step : BackedRequest τ,
      let result := step.perform.on reached
      let next := step.journaled.on written
      (next.1, Journaled.forget next.2) = result ∧
      next.2.server.journal.warmed = journal.warmed ++ step.warms reached ∧
      metrics ≤ result.2.cache.metrics := by
  intro start reached written metrics journal
  have hForget : Journaled.forget written = reached :=
    Attempt.Shows.after shows_journaled steps (Journaled.start start)
  have hMetrics : written.cache.metrics = metrics := congrArg (·.cache.metrics) hForget
  have hBalanced : Balanced (0 + steps.countP BackedRequest.clears) written :=
    balanced_after steps (balanced_start graph server)
  obtain ⟨hCalls, hFetched, hRefreshes, hClears⟩ := hBalanced.metrics_eq
  have hHits := hBalanced.hits
  rw [hMetrics] at hCalls hFetched hRefreshes hClears hHits
  rw [Nat.zero_add] at hClears
  refine ⟨hForget, hCalls, hHits, hFetched, hRefreshes, hClears, ?_, ?_⟩
  · intro called hRecords
    have hStart : Journaled.Agrees called (called server) (Journaled.start start).server :=
      (List.append_nil _).symm
    rw [← hForget]
    exact agrees_after hRecords hStart
  intro step result next
  have hShown : (next.1, Journaled.forget next.2) = result := by
    have hStep := step.shows_journaled written
    rwa [hForget] at hStep
  obtain ⟨hBooks, -⟩ := step.books_journaled (Metrics.Since.refl hBalanced.hits)
  refine ⟨hShown, ?_, ?_⟩
  · have hWarmed := congrArg Journaled.Books.warmed hBooks
    rw [hForget] at hWarmed
    refine Eq.trans hWarmed ?_
    dsimp only
    split <;> rfl
  · rw [← hShown, ← hMetrics]
    exact (step.balanced_journaled hBalanced).2

end BackedRequest

theorem Server.records_source : Server.source.Records Server.asked :=
  fun _ _ => rfl

namespace Sample

/-- A name that is not known, a reply with a name that is, and warming after all are dropped. -/
def work : List (BackedRequest Server) :=
  [Request.resolve .label 0, .decode reply, .clear, .warm].map fun request =>
    ⟨.direct Server.source, request⟩

def worked : Backed Server :=
  Attempt.after BackedRequest.perform work ⟨.new "social", server⟩

/-- The journal of the same work. -/
def workJournal : Journal :=
  let start : Backed Server := ⟨.new "social", server⟩
  (Attempt.after BackedRequest.journaled work (Journaled.start start)).server.journal

end Sample

/-- Three names are asked for and one is a hit; of the five fetches three are for warming. -/
theorem BackedRequest.counters_account_sample :
    let fetched : List Kind := [.label, .propertyKey, .label, .relationshipType, .propertyKey]
    (∀ step ∈ Sample.work, step.backing.Records Server.asked) ∧
    Sample.worked.cache.metrics = { calls := 3, hits := 1, refreshes := 5, clears := 1 } ∧
    Sample.worked.server.asked = fetched ∧
    Sample.workJournal.fetched.map Prod.fst = fetched ∧
    Sample.workJournal.asked = [(.label, 0), (.label, 1), (.propertyKey, 0)] ∧
    Sample.workJournal.warmed = [.label, .relationshipType, .propertyKey] := by
  intro fetched
  have hRecords : ∀ step ∈ Sample.work, step.backing.Records Server.asked := by
    intro step hStep
    obtain ⟨request, -, rfl⟩ := List.mem_map.mp hStep
    exact .direct Server.records_source
  have hMetrics : Sample.worked.cache.metrics =
      { calls := 3, hits := 1, refreshes := 5, clears := 1 } := by decide +kernel
  have hServer : Sample.worked.server.asked = fetched := by decide +kernel
  obtain ⟨-, -, -, -, -, -, hCalled, -⟩ := counters_account "social" Sample.server Sample.work
  have hFetched : Sample.workJournal.fetched.map Prod.fst = fetched :=
    (hCalled Server.asked hRecords).symm.trans hServer
  exact ⟨hRecords, hMetrics, hServer, hFetched, by decide +kernel, by decide +kernel⟩

end GraphClient
