import GraphClient.Proofs.Schema.Transparency
import GraphClient.Schema.Run

/-!
# Names are only appended

The lists that come from a source may be of any form: shorter than the last time, in
another order, with rows that hold no name, or no list at all.  What a cache once knows
it knows until its names are dropped.

**Appending.**  An attempt *appends* if each list of the cache is the beginning of what
it is afterwards, whatever the outcome (`Backed.Appends`).  A refresh appends as soon as
the fetch under it does, because it adds names at the end or none at all
(`Backed.appends_refresh`); by induction on the reading so does all that is made of
refreshes (`Backed.appends_run`, `Backed.appends_warm`, `Backed.appends_decode`).  A
fetch that goes through the cache is not excluded.

**Sources.**  A source does not touch the cache, so a refresh that fails changes no
list, and one that succeeds changes the list of its own kind alone
(`Backed.refresh_source_cases`).

**Hits.**  A name that is known is yielded without a fetch, and all that changes is that a
call and a hit are counted (`Backed.Hit`, `Backed.hit_resolve`).

**Results.**  `SourcedRequest.append_only` puts this together for runs in which each
request has a source of its own.
-/

namespace GraphClient

section Invariants

variable {σ ν α : Type} {view : σ → ν} {invariant : σ → Prop}
variable {resolve : Kind → Nat → Attempt σ String}

/-- A reading keeps what its requests for names keep. -/
theorem Lookup.keeps_run
    (hResolve : ∀ kind index, (resolve kind index).Keeps view invariant)
    (reading : Lookup α) :
    (reading.run resolve).Keeps view invariant := by
  induction reading with
  | done value => exact .pure value
  | fail reason => exact .throw _
  | need kind index next ih => exact (hResolve kind index).bind ih

theorem Table.keeps_decode
    (hResolve : ∀ kind index, (resolve kind index).Keeps view invariant)
    (reply : Reply) :
    (Table.decode resolve reply).Keeps view invariant := by
  unfold Table.decode
  cases reply.serverError? with
  | some message => exact .throw _
  | none => exact Lookup.keeps_run hResolve _

end Invariants

namespace Backed

variable {σ ν α : Type}

theorem keeps_refreshAll
    {view : Backed σ → ν}
    {invariant : Backed σ → Prop}
    {fetch : Fetch σ}
    (hRefresh : ∀ kind, (refresh fetch kind).Keeps view invariant)
    (kinds : List Kind) :
    (refreshAll fetch kinds).Keeps view invariant := by
  induction kinds with
  | nil => exact .pure ()
  | cons kind rest ih => exact (hRefresh kind).bind fun _ => ih

/-- Whatever comes of the attempt, names are added at the end of the lists or not at all. -/
def Appends (attempt : Attempt (Backed σ) α) : Prop :=
  ∀ backed, backed.cache.names ≤ (attempt.on backed).2.cache.names

/-- Appending keeps every lower bound of the lists. -/
theorem Appends.keeps
    {attempt : Attempt (Backed σ) α}
    (hAppends : Appends attempt)
    (lists : Names) :
    attempt.Keeps (fun _ => ()) (fun backed => lists ≤ backed.cache.names) :=
  fun backed hLists => ⟨rfl, Names.le_trans hLists (hAppends backed)⟩

theorem Appends.of_keeps
    {attempt : Attempt (Backed σ) α}
    (hKeeps : ∀ lists : Names,
      attempt.Keeps (fun _ => ()) (fun backed => lists ≤ backed.cache.names)) :
    Appends attempt :=
  fun backed => (hKeeps backed.cache.names backed (Names.le_refl _)).2

theorem appends_onServer (attempt : Attempt σ α) : Appends (onServer attempt) :=
  fun backed => Names.le_refl backed.cache.names

theorem Appends.pure (value : α) : Appends (pure value : Attempt (Backed σ) α) :=
  fun backed => Names.le_refl backed.cache.names

theorem Appends.throw (failure : Failure) : Appends (throw failure : Attempt (Backed σ) α) :=
  fun backed => Names.le_refl backed.cache.names

theorem Appends.bind
    {β : Type}
    {attempt : Attempt (Backed σ) α}
    {next : α → Attempt (Backed σ) β}
    (hFirst : Appends attempt)
    (hNext : ∀ value, Appends (next value)) :
    Appends (attempt >>= next) :=
  .of_keeps fun lists => (hFirst.keeps lists).bind fun value => (hNext value).keeps lists

section Fetches

variable {fetch : Fetch σ}

theorem appends_refresh
    {kind : Kind}
    (hFetch : Appends (fetch kind)) :
    Appends (refresh fetch kind) := by
  intro backed
  have hFetched := hFetch backed
  rw [on_refresh]
  rcases hOn : (fetch kind).on backed with ⟨failure | table, after⟩
  · rw [hOn] at hFetched
    exact hFetched
  · rw [hOn] at hFetched
    dsimp only
    cases unseenNames (backed.cache.known kind) table with
    | error reason => exact hFetched
    | ok tail => exact Names.le_trans hFetched (Names.le_append _ kind tail)

theorem appends_resolve
    {kind : Kind}
    (hFetch : Appends (fetch kind))
    (index : Nat) :
    Appends (resolve fetch kind index) := by
  intro backed
  cases hName : (backed.cache.names.of kind)[index]? with
  | some name =>
      rw [on_resolve_hit fetch backed hName]
      exact Names.le_refl _
  | none =>
      have hRefreshed := appends_refresh hFetch ⟨backed.cache.countCall, backed.server⟩
      rw [on_resolve_miss fetch backed hName]
      rcases hOn : (refresh fetch kind).on ⟨backed.cache.countCall, backed.server⟩ with
        ⟨failure | done, after⟩
      all_goals
        rw [hOn] at hRefreshed
        exact hRefreshed

/-- A name that comes of a request is from then on in the list of its kind, at its index. -/
theorem known_of_resolve_ok
    {kind : Kind}
    {index : Nat}
    {name : String}
    {backed after : Backed σ}
    (hOk : (resolve fetch kind index).on backed = (.ok name, after)) :
    (after.cache.names.of kind)[index]? = some name := by
  cases hName : (backed.cache.names.of kind)[index]? with
  | some found =>
      rw [on_resolve_hit fetch backed hName] at hOk
      cases hOk
      exact hName
  | none =>
      rw [on_resolve_miss fetch backed hName] at hOk
      rcases hOn : (refresh fetch kind).on ⟨backed.cache.countCall, backed.server⟩ with
        ⟨failure | done, refreshed⟩
      · rw [hOn] at hOk
        cases hOk
      · rw [hOn] at hOk
        simp only [Lookup.nameIn] at hOk
        cases hFound : (refreshed.cache.names.of kind)[index]? with
        | some found =>
            rw [hFound] at hOk
            cases hOk
            exact hFound
        | none =>
            rw [hFound] at hOk
            cases hOk

/--
What is done for a name that is known: the request is counted, and counted as a hit, and
nothing else changes.
-/
structure Hit (before after : Backed σ) : Prop where
  metrics : after.cache.metrics =
    { calls := before.cache.metrics.calls + 1
      hits := before.cache.metrics.hits + 1
      refreshes := before.cache.metrics.refreshes
      clears := before.cache.metrics.clears }
  graph : after.cache.graph = before.cache.graph
  names : after.cache.names = before.cache.names
  server : after.server = before.server

/-- A name that is known is yielded, whatever the fetch would do. -/
theorem hit_resolve
    (fetch : Fetch σ)
    {kind : Kind}
    {index : Nat}
    {name : String}
    {backed : Backed σ}
    (hKnown : (backed.cache.names.of kind)[index]? = some name) :
    let asked := (resolve fetch kind index).on backed
    asked.1 = .ok name ∧ Hit backed asked.2 := by
  intro asked
  have hAsked : asked = (.ok name, ⟨backed.cache.countCall.countHit, backed.server⟩) :=
    on_resolve_hit fetch backed hKnown
  rw [hAsked]
  exact ⟨rfl, rfl, rfl, rfl, rfl⟩

variable (hFetch : ∀ kind, Appends (fetch kind))

include hFetch

theorem appends_run (reading : Lookup α) : Appends (reading.run (resolve fetch)) :=
  .of_keeps fun lists =>
    Lookup.keeps_run (fun kind index => (appends_resolve (hFetch kind) index).keeps lists) reading

theorem appends_warm : Appends (warm fetch) :=
  .of_keeps fun lists =>
    keeps_refreshAll (fun kind => (appends_refresh (hFetch kind)).keeps lists) Kind.all

theorem appends_decode (reply : Reply) : Appends (decode fetch reply) :=
  .of_keeps fun lists =>
    Table.keeps_decode (fun kind index => (appends_resolve (hFetch kind) index).keeps lists) reply

end Fetches

section Sources

variable (source : Source σ)

theorem appends_fetchFrom (kind : Kind) : Appends (fetchFrom source kind) :=
  appends_onServer (source kind)

/--
A refresh from a source fails with the source or at a row that holds no name, and then
no list changes, or it appends to the list of its kind.
-/
theorem refresh_source_cases
    (kind : Kind)
    (backed : Backed σ) :
    (∃ failure after,
      (refresh (fetchFrom source) kind).on backed = (.error failure, after) ∧
      after.cache.names = backed.cache.names) ∨
    (∃ table tail after,
      ((source kind).on backed.server).1 = .ok table ∧
      (refresh (fetchFrom source) kind).on backed = (.ok (), after) ∧
      after.cache.names = backed.cache.names.append kind tail) := by
  rw [on_refresh, fetchFrom, on_onServer]
  rcases (source kind).on backed.server with ⟨failure | table, server⟩
  · exact Or.inl ⟨failure, _, rfl, rfl⟩
  · dsimp only
    cases unseenNames (backed.cache.known kind) table with
    | error reason => exact Or.inl ⟨.malformed reason, _, rfl, rfl⟩
    | ok tail => exact Or.inr ⟨table, tail, _, rfl, rfl, rfl⟩

/-- A name asked for changes no list but that of its kind. -/
theorem of_resolve_source
    {kind other : Kind}
    (hOther : other ≠ kind)
    (index : Nat)
    (backed : Backed σ) :
    ((resolve (fetchFrom source) kind index).on backed).2.cache.names.of other =
      backed.cache.names.of other := by
  cases hName : (backed.cache.names.of kind)[index]? with
  | some name =>
      rw [on_resolve_hit _ backed hName]
      rfl
  | none =>
      rw [on_resolve_miss _ backed hName]
      rcases refresh_source_cases source kind ⟨backed.cache.countCall, backed.server⟩ with
        ⟨failure, after, hOn, hNames⟩ | ⟨table, tail, after, -, hOn, hNames⟩
      · rw [hOn]
        exact congrArg (Names.of · other) hNames
      · rw [hOn]
        change after.cache.names.of other = backed.cache.names.of other
        rw [hNames, Names.of_append, if_neg hOther]
        rfl

/-- No list changes when a name cannot be had because of the source or of what it returned. -/
theorem names_resolve_source
    {kind : Kind}
    {index : Nat}
    {failure : Failure}
    {backed : Backed σ}
    (hError : ((resolve (fetchFrom source) kind index).on backed).1 = .error failure)
    (hReason : failure.isMalformed = true ∨
      ((source kind).on backed.server).1 = .error failure) :
    ((resolve (fetchFrom source) kind index).on backed).2.cache.names = backed.cache.names := by
  cases hName : (backed.cache.names.of kind)[index]? with
  | some name =>
      rw [on_resolve_hit _ backed hName]
      rfl
  | none =>
      rw [on_resolve_miss _ backed hName] at hError ⊢
      rcases refresh_source_cases source kind ⟨backed.cache.countCall, backed.server⟩ with
        ⟨refused, after, hOn, hNames⟩ | ⟨table, tail, after, hSource, hOn, -⟩
      · rw [hOn]
        exact hNames
      · -- The refresh has gone well, so the failure says that the list ends before the index.
        rw [hOn] at hError
        simp only [Lookup.nameIn] at hError
        cases hFound : (after.cache.names.of kind)[index]? with
        | some name =>
            rw [hFound] at hError
            cases hError
        | none =>
            rw [hFound] at hError
            cases hError
            rcases hReason with hMalformed | hRefused
            · cases hMalformed
            · rw [hSource] at hRefused
              cases hRefused

end Sources

end Backed

namespace Request

variable {σ : Type} {fetch : Fetch σ}

/-- Every request but the one to drop the names only appends. -/
theorem appends_perform
    (hFetch : ∀ kind, Backed.Appends (fetch kind))
    {request : Request}
    (hKeeps : request ≠ .clear) :
    Backed.Appends (request.perform fetch) := by
  cases request with
  | resolve kind index =>
      exact (Backed.appends_resolve (hFetch kind) index).bind fun _ => .pure _
  | warm => exact (Backed.appends_warm hFetch).bind fun _ => .pure _
  | clear => exact absurd rfl hKeeps
  | decode reply => exact (Backed.appends_decode hFetch reply).bind fun _ => .pure _

/-- A request for a name does what resolving does and gives its outcome as an answer. -/
theorem on_resolve
    (fetch : Fetch σ)
    (kind : Kind)
    (index : Nat)
    (backed : Backed σ) :
    ((resolve kind index).perform fetch).on backed =
      (((Backed.resolve fetch kind index).on backed).1.map .text,
        ((Backed.resolve fetch kind index).on backed).2) := by
  rw [perform, Attempt.on_bind_pure]

theorem on_resolve_ok
    {kind : Kind}
    {index : Nat}
    {name : String}
    {backed after : Backed σ}
    (hOk : ((resolve kind index).perform fetch).on backed = (.ok (.text name), after)) :
    (Backed.resolve fetch kind index).on backed = (.ok name, after) := by
  rw [on_resolve] at hOk
  rcases hOn : (Backed.resolve fetch kind index).on backed with ⟨failure | found, middle⟩
  all_goals
    rw [hOn] at hOk
    cases hOk
  rfl

theorem on_resolve_error
    {kind : Kind}
    {index : Nat}
    {failure : Failure}
    {backed after : Backed σ}
    (hError : ((resolve kind index).perform fetch).on backed = (.error failure, after)) :
    (Backed.resolve fetch kind index).on backed = (.error failure, after) := by
  rw [on_resolve] at hError
  rcases hOn : (Backed.resolve fetch kind index).on backed with ⟨reason | found, middle⟩
  all_goals
    rw [hOn] at hError
    cases hError
  rfl

end Request

/-- A request to a cache with the source that stands behind the cache at that moment. -/
structure SourcedRequest (σ : Type) where
  source : Source σ
  request : Request

namespace SourcedRequest

variable {σ : Type}

def perform (step : SourcedRequest σ) : Attempt (Backed σ) Answer :=
  step.request.perform (Backed.fetchFrom step.source)

theorem appends_perform
    {step : SourcedRequest σ}
    (hKeeps : step.request ≠ .clear) :
    Backed.Appends step.perform :=
  Request.appends_perform (Backed.appends_fetchFrom step.source) hKeeps

/-- Over a run that drops no names, the lists at first are the beginnings of the lists at last. -/
theorem names_le_after
    (steps : List (SourcedRequest σ))
    (hKeep : ∀ step ∈ steps, step.request ≠ .clear)
    (backed : Backed σ) :
    backed.cache.names ≤ (Attempt.after perform steps backed).cache.names := by
  induction steps generalizing backed with
  | nil => exact Names.le_refl _
  | cons step rest ih =>
      have hStep := appends_perform (hKeep step List.mem_cons_self) backed
      have hRest := ih (fun next hNext => hKeep next (List.mem_cons_of_mem _ hNext))
        (step.perform.on backed).2
      exact Names.le_trans hStep hRest

/--
**Names are only appended.**  Take a run of requests, each with a source of its own that
answers as it likes, and in it a step after which names are not dropped for a while.
The step appends to the lists or leaves them as they are, and so do the steps that
follow.  If it asks for a name, it changes no other list than that of the kind, and no
list at all when the source fails or a row is no name.  Once it has yielded the name,
the same request yields the same name later on and is a hit, which is all that it does
to the cache, and it does nothing to the server, whichever source stands behind the cache
by then.
-/
theorem append_only
    (start : Backed σ)
    (before between : List (SourcedRequest σ))
    (step : SourcedRequest σ)
    (hKeep : ∀ kept ∈ step :: between, kept.request ≠ .clear) :
    let reached := Attempt.after perform before start
    let result := step.perform.on reached
    let later := Attempt.after perform between result.2
    reached.cache.names ≤ result.2.cache.names ∧
    result.2.cache.names ≤ later.cache.names ∧
    ∀ kind index, step.request = .resolve kind index →
      (∀ other, other ≠ kind →
        result.2.cache.names.of other = reached.cache.names.of other) ∧
      (∀ failure, result.1 = .error failure →
        failure.isMalformed = true ∨
          ((step.source kind).on reached.server).1 = .error failure →
        result.2.cache.names = reached.cache.names) ∧
      ∀ name, result.1 = .ok (.text name) → ∀ source : Source σ,
        let asked := (SourcedRequest.mk source (.resolve kind index)).perform.on later
        asked.1 = .ok (.text name) ∧ Backed.Hit later asked.2 := by
  intro reached result later
  have hBetween : ∀ kept ∈ between, kept.request ≠ .clear :=
    fun kept hKept => hKeep kept (List.mem_cons_of_mem _ hKept)
  have hLater : result.2.cache.names ≤ later.cache.names :=
    names_le_after between hBetween result.2
  refine ⟨appends_perform (hKeep step List.mem_cons_self) reached, hLater, ?_⟩
  intro kind index hAsks
  have hResult : ((Request.resolve kind index).perform (Backed.fetchFrom step.source)).on reached =
      result := by
    rw [← hAsks]
    rfl
  refine ⟨fun other hOther => ?_, fun failure hError hReason => ?_, fun name hOk source => ?_⟩
  · rw [← hResult, Request.on_resolve]
    exact Backed.of_resolve_source step.source hOther index reached
  · have hFailed := Request.on_resolve_error (hResult.trans (Prod.ext hError rfl))
    have hNames :=
      Backed.names_resolve_source step.source (congrArg Prod.fst hFailed) hReason
    rwa [hFailed] at hNames
  · have hKnown := Backed.known_of_resolve_ok
      (Request.on_resolve_ok (hResult.trans (Prod.ext hOk rfl)))
    obtain ⟨hName, hHit⟩ := Backed.hit_resolve (Backed.fetchFrom source)
      (Names.getElem?_of_le hLater hKnown)
    rw [perform, Request.on_resolve, hName]
    exact ⟨rfl, hHit⟩

end SourcedRequest

namespace Sample

/-- Hands out the outcomes of a list, one for each fetch of whatever kind. -/
def outcomes : Source (List (Except Failure Table)) := fun _ =>
  Attempt.ofFunction fun
    | [] => (.error (.transport "reset"), [])
    | outcome :: rest => (outcome, rest)

def listed (cells : List Value) : Table :=
  ⟨[⟨"name", .scalar⟩], cells.map fun cell => [cell], .empty⟩

/-- The lists contradict one another, one has a row without a name, and one cannot be had. -/
def unreliable : Backed (List (Except Failure Table)) :=
  ⟨.new "social",
    [.ok (listed [.string "City", .string "Person"]), .ok (listed [.string "Road"]),
     .ok (listed [.string "KNOWS", .null]),
     .ok (listed [.null, .integer 7, .string "Event"]), .error (.transport "reset"),
     .ok (listed [.string "Lake"])]⟩

def asking : SourcedRequest (List (Except Failure Table)) := ⟨outcomes, .resolve .label 1⟩

def between : List (SourcedRequest (List (Except Failure Table))) :=
  [⟨outcomes, .warm⟩, ⟨outcomes, .resolve .label 3⟩, ⟨outcomes, .decode reply⟩]

def later : Backed (List (Except Failure Table)) :=
  Attempt.after SourcedRequest.perform between (asking.perform.on unreliable).2

end Sample

/--
The second label is still known after a warm that fails, a name that does not exist and
a reply that cannot be read.  Asking for it again makes one call and one hit more, and
no list is fetched for it.
-/
theorem SourcedRequest.append_only_sample :
    let asked := Sample.asking.perform.on Sample.later
    (∀ kept ∈ Sample.asking :: Sample.between, kept.request ≠ .clear) ∧
    (Sample.asking.perform.on Sample.unreliable).1 = .ok (.text "Person") ∧
    Sample.later.cache.metrics = { calls := 4, hits := 1, refreshes := 4, clears := 0 } ∧
    Sample.later.cache.names = ⟨["City", "Person", "Event"], [], []⟩ ∧
    Sample.later.server = [.ok (Sample.listed [.string "Lake"])] ∧
    asked.1 = .ok (.text "Person") ∧
    asked.2.cache.metrics = { calls := 5, hits := 2, refreshes := 4, clears := 0 } ∧
    asked.2.cache.names = ⟨["City", "Person", "Event"], [], []⟩ ∧
    asked.2.server = [.ok (Sample.listed [.string "Lake"])] := by
  intro asked
  have hKeep : ∀ kept ∈ Sample.asking :: Sample.between, kept.request ≠ .clear := by
    simp [Sample.asking, Sample.between]
  obtain ⟨-, -, hNames⟩ := append_only Sample.unreliable [] Sample.between Sample.asking hKeep
  obtain ⟨-, -, hLater⟩ := hNames .label 1 rfl
  obtain ⟨hName, hHit⟩ := hLater "Person" rfl Sample.outcomes
  exact ⟨hKeep, rfl, rfl, rfl, rfl, hName, hHit.metrics, hHit.names, hHit.server⟩

end GraphClient
