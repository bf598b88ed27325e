import GraphClient.Schema.Cache

/-!
# A record of the fetches

Which lists are fetched while a reply is read, and with what outcome, is written down by a
fetch that does what another one does and keeps a record beside the server
(`Fetch.recorded`).

**The record does not show.**  An attempt *shows* another one through a view of its state
if both have the same outcome and leave states that look the same (`Attempt.Shows`).
Sequences keep this (`Shows.bind`), so it passes from a fetch to a name that is resolved
through it and on to a reading (`Lookup.shows_run`) and to a whole reply
(`Backed.shows_decode`).  What is forgotten here is the record.

**Where failures come from.**  A reading makes no failure of its own but a malformed
reply (`Lookup.failure_of_run`), and resolving makes none but a malformed row and a name
that does not exist (`Backed.failure_of_resolve`).  All others come from a fetch, as they
are, and the fetch is then the last in the record (`Fetch.getLast?_recorded`).
-/

namespace GraphClient

namespace Attempt

variable {σ τ α β : Type} {view : σ → τ}

/-- Seen through a view of the states, the attempt is the other one. -/
def Shows (view : σ → τ) (attempt : Attempt σ α) (shown : Attempt τ α) : Prop :=
  ∀ state, ((attempt.on state).1, view (attempt.on state).2) = shown.on (view state)

namespace Shows

theorem pure (value : α) : Shows view (pure value) (pure value) :=
  fun _ => rfl

theorem throw (failure : Failure) : Shows (α := α) view (throw failure) (throw failure) :=
  fun _ => rfl

theorem bind
    {attempt : Attempt σ α}
    {shown : Attempt τ α}
    {next : α → Attempt σ β}
    {shownNext : α → Attempt τ β}
    (hFirst : Shows view attempt shown)
    (hNext : ∀ value, Shows view (next value) (shownNext value)) :
    Shows view (attempt >>= next) (shown >>= shownNext) := by
  intro state
  rw [on_bind, on_bind, ← hFirst state]
  rcases attempt.on state with ⟨failure | value, middle⟩
  · rfl
  · exact hNext value middle

/-- What is done next may depend on the state as far as it is seen. -/
theorem get_bind
    {next : σ → Attempt σ β}
    {shownNext : τ → Attempt τ β}
    (hNext : ∀ state, Shows view (next state) (shownNext (view state))) :
    Shows view (get >>= next) (get >>= shownNext) :=
  fun state => hNext state state

end Shows

end Attempt

section Views

variable {σ τ α : Type} {view : σ → τ}
variable {resolve : Kind → Nat → Attempt σ String} {shown : Kind → Nat → Attempt τ String}

theorem Lookup.shows_run
    (hResolve : ∀ kind index, (resolve kind index).Shows view (shown kind index))
    (reading : Lookup α) :
    (reading.run resolve).Shows view (reading.run shown) := by
  induction reading with
  | done value => exact .pure value
  | fail reason => exact .throw _
  | need kind index next ih => exact (hResolve kind index).bind ih

theorem Table.shows_decode
    (hResolve : ∀ kind index, (resolve kind index).Shows view (shown kind index))
    (reply : Reply) :
    (decode resolve reply).Shows view (decode shown reply) := by
  unfold decode
  cases reply.serverError? with
  | some message => exact .throw _
  | none => exact Lookup.shows_run hResolve _

end Views

namespace Backed

variable {σ τ : Type}

/-- The same cache with what a view shows of the server. -/
def mapServer (view : σ → τ) (backed : Backed σ) : Backed τ :=
  ⟨backed.cache, view backed.server⟩

variable {view : σ → τ} {fetch : Fetch σ} {shown : Fetch τ}

theorem shows_refresh
    {kind : Kind}
    (hFetch : (fetch kind).Shows (mapServer view) (shown kind)) :
    (refresh fetch kind).Shows (mapServer view) (refresh shown kind) := by
  intro backed
  rw [on_refresh, on_refresh, ← hFetch backed]
  rcases (fetch kind).on backed with ⟨failure | table, after⟩
  · rfl
  · dsimp only [mapServer]
    cases unseenNames (backed.cache.known kind) table <;> rfl

theorem shows_resolve_of_refresh
    {kind : Kind}
    (hRefresh : (refresh fetch kind).Shows (mapServer view) (refresh shown kind))
    (index : Nat) :
    (resolve fetch kind index).Shows (mapServer view) (resolve shown kind index) := by
  intro backed
  cases hName : (backed.cache.names.of kind)[index]? with
  | some name =>
      rw [on_resolve_hit fetch backed hName, on_resolve_hit shown (mapServer view backed) hName]
      rfl
  | none =>
      have hCounted := hRefresh ⟨backed.cache.countCall, backed.server⟩
      rw [on_resolve_miss fetch backed hName, on_resolve_miss shown (mapServer view backed) hName]
      simp only [mapServer] at hCounted ⊢
      rw [← hCounted]
      rcases (refresh fetch kind).on ⟨backed.cache.countCall, backed.server⟩ with
        ⟨failure | done, after⟩ <;> rfl

theorem shows_resolve
    {kind : Kind}
    (hFetch : (fetch kind).Shows (mapServer view) (shown kind))
    (index : Nat) :
    (resolve fetch kind index).Shows (mapServer view) (resolve shown kind index) :=
  shows_resolve_of_refresh (shows_refresh hFetch) index

theorem shows_refreshAll
    (hRefresh : ∀ kind, (refresh fetch kind).Shows (mapServer view) (refresh shown kind))
    (kinds : List Kind) :
    (refreshAll fetch kinds).Shows (mapServer view) (refreshAll shown kinds) := by
  induction kinds with
  | nil => exact .pure ()
  | cons kind rest ih => exact (hRefresh kind).bind fun _ => ih

theorem shows_decode
    (hFetch : ∀ kind, (fetch kind).Shows (mapServer view) (shown kind))
    (reply : Reply) :
    (decode fetch reply).Shows (mapServer view) (decode shown reply) :=
  Table.shows_decode (fun kind index => shows_resolve (hFetch kind) index) reply

end Backed

/-- A server with a record of the fetches: the kind of each and what came of it. -/
structure Recorded (σ : Type) where
  server : σ
  fetches : List (Kind × Except Failure Table)

section Records

variable {σ α : Type}

/-- Does what a fetch does and writes it down. -/
def Fetch.recorded (fetch : Fetch σ) : Fetch (Recorded σ) := fun kind =>
  Attempt.ofFunction fun backed =>
    let (outcome, after) := (fetch kind).on (backed.mapServer Recorded.server)
    (outcome, ⟨after.cache, ⟨after.server, backed.server.fetches ++ [(kind, outcome)]⟩⟩)

theorem Fetch.shows_recorded
    (fetch : Fetch σ)
    (kind : Kind) :
    (fetch.recorded kind).Shows (Backed.mapServer Recorded.server) (fetch kind) :=
  fun _ => rfl

/-- A fetch that has just failed is the last in the record. -/
theorem Fetch.getLast?_recorded
    {fetch : Fetch σ}
    {kind : Kind}
    {failure : Failure}
    {backed after : Backed (Recorded σ)}
    (hError : (fetch.recorded kind).on backed = (.error failure, after)) :
    after.server.fetches.getLast? = some (kind, .error failure) := by
  rw [recorded, Attempt.on_ofFunction] at hError
  rcases hOn : (fetch kind).on (backed.mapServer Recorded.server) with ⟨outcome, fetched⟩
  rw [hOn] at hError
  cases hError
  exact List.getLast?_concat

/-- A reading that fails has met a malformed reply, or a name asked for has failed. -/
theorem Lookup.failure_of_run
    {resolve : Kind → Nat → Attempt σ String}
    {reading : Lookup α}
    {failure : Failure}
    {state after : σ}
    (hError : (reading.run resolve).on state = (.error failure, after)) :
    (∃ reason, failure = .malformed reason) ∨
    (∃ kind index asking, (resolve kind index).on asking = (.error failure, after)) := by
  induction reading generalizing state with
  | done value => cases hError
  | fail reason =>
      cases hError
      exact Or.inl ⟨reason, rfl⟩
  | need kind index next ih =>
      rw [run, Attempt.on_bind] at hError
      rcases hOn : (resolve kind index).on state with ⟨refused | name, middle⟩
      · rw [hOn] at hError
        cases hError
        exact Or.inr ⟨kind, index, state, hOn⟩
      · rw [hOn] at hError
        exact ih name hError

namespace Backed

variable {fetch : Fetch σ} {failure : Failure}

theorem failure_of_refresh
    {kind : Kind}
    {backed after : Backed σ}
    (hError : (refresh fetch kind).on backed = (.error failure, after)) :
    (∃ reason, failure = .malformed reason) ∨ (fetch kind).on backed = (.error failure, after) := by
  rw [on_refresh] at hError
  rcases hOn : (fetch kind).on backed with ⟨refused | table, fetched⟩
  · rw [hOn] at hError
    cases hError
    exact Or.inr rfl
  · rw [hOn] at hError
    dsimp only at hError
    cases hTail : unseenNames (backed.cache.known kind) table with
    | ok tail =>
        rw [hTail] at hError
        cases hError
    | error reason =>
        rw [hTail] at hError
        cases hError
        exact Or.inl ⟨reason, rfl⟩

/-- A name cannot be had because of a row, because of the fetch, or because it does not exist. -/
theorem failure_of_resolve
    {kind : Kind}
    {index : Nat}
    {backed after : Backed σ}
    (hError : (resolve fetch kind index).on backed = (.error failure, after)) :
    (∃ reason, failure = .malformed reason) ∨
    (∃ asking, (fetch kind).on asking = (.error failure, after)) ∨
    (failure = .unresolved kind index (after.cache.known kind) ∧
      after.cache.known kind ≤ index) := by
  cases hName : (backed.cache.names.of kind)[index]? with
  | some name =>
      rw [on_resolve_hit fetch backed hName] at hError
      cases hError
  | none =>
      rw [on_resolve_miss fetch backed hName] at hError
      rcases hOn : (refresh fetch kind).on ⟨backed.cache.countCall, backed.server⟩ with
        ⟨refused | done, refreshed⟩
      · rw [hOn] at hError
        cases hError
        rcases failure_of_refresh hOn with hMalformed | hFetch
        · exact Or.inl hMalformed
        · exact Or.inr (Or.inl ⟨_, hFetch⟩)
      · rw [hOn] at hError
        simp only [Lookup.nameIn] at hError
        cases hFound : (refreshed.cache.names.of kind)[index]? with
        | some name =>
            rw [hFound] at hError
            cases hError
        | none =>
            rw [hFound] at hError
            cases hError
            exact Or.inr (Or.inr ⟨rfl, List.getElem?_eq_none_iff.mp hFound⟩)

/-- The state from which a record of the fetches starts. -/
def unrecorded (backed : Backed σ) : Backed (Recorded σ) :=
  ⟨backed.cache, ⟨backed.server, []⟩⟩

/-- The fetches that are made while a reply is read, in order, each with its outcome. -/
def fetches
    (fetch : Fetch σ)
    (reply : Reply)
    (backed : Backed σ) :
    List (Kind × Except Failure Table) :=
  ((decode fetch.recorded reply).on backed.unrecorded).2.server.fetches

/-- Reading with a record is reading. -/
theorem on_decode_recorded
    (fetch : Fetch σ)
    (reply : Reply)
    (backed : Backed σ) :
    (decode fetch reply).on backed =
      (((decode fetch.recorded reply).on backed.unrecorded).1,
        ((decode fetch.recorded reply).on backed.unrecorded).2.mapServer Recorded.server) :=
  (shows_decode fetch.shows_recorded reply backed.unrecorded).symm

end Backed

end Records

end GraphClient
