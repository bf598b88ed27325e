import GraphClient.Proofs.Schema.AppendOnly
import GraphClient.Proofs.Schema.Journal

/-!
# The counters account for the work

A cache counts the names asked for, those of them that it knew, the lists fetched and the
times that its names were dropped.  The journal says what has really happened.

**Books.**  What the counters say beyond the journal are the *books* (`Journaled.Books`).
An attempt *accounts* if it leaves the books alone and no counter goes back
(`Journaled.Accounts`), which is kept by sequences.  Inside of a request for a name the
books do not balance: the call is counted before it is known to be a hit, and the fetch for
a miss settles it (`Journaled.books_refresh`).  A fetch that goes through the cache is only
asked to account.

**Warming.**  The fetches for warming are made without a miss, so the books tell them from
the others (`Journaled.books_refreshAll`).

**Results.**  `Journaled.books_perform` says what a request does to the books.
-/

namespace GraphClient

namespace Metrics

/-- No counter on the left is beyond the same counter on the right. -/
instance : LE Metrics where
  le metrics later :=
    metrics.calls ≤ later.calls ∧ metrics.hits ≤ later.hits ∧
      metrics.refreshes ≤ later.refreshes ∧ metrics.clears ≤ later.clears

/-- No counter has gone back since they showed `floor`, and there are no more hits than calls. -/
structure Since (floor metrics : Metrics) : Prop where
  floor_le : floor ≤ metrics
  hits_le : metrics.hits ≤ metrics.calls

theorem Since.refl {metrics : Metrics} (hHits : metrics.hits ≤ metrics.calls) :
    metrics.Since metrics :=
  ⟨⟨Nat.le_refl _, Nat.le_refl _, Nat.le_refl _, Nat.le_refl _⟩, hHits⟩

end Metrics

namespace Cache

variable {floor : Metrics} {cache : Cache}

theorem since_countCall (h : floor.Since cache.metrics) : floor.Since cache.countCall.metrics :=
  ⟨⟨Nat.le_succ_of_le h.floor_le.1, h.floor_le.2⟩, Nat.le_succ_of_le h.hits_le⟩

theorem since_countHit (h : floor.Since cache.metrics) :
    floor.Since cache.countCall.countHit.metrics :=
  ⟨⟨Nat.le_succ_of_le h.floor_le.1, Nat.le_succ_of_le h.floor_le.2.1, h.floor_le.2.2⟩,
    Nat.succ_le_succ h.hits_le⟩

theorem since_countRefresh (h : floor.Since cache.metrics) :
    floor.Since cache.countRefresh.metrics :=
  ⟨⟨h.floor_le.1, h.floor_le.2.1, Nat.le_succ_of_le h.floor_le.2.2.1, h.floor_le.2.2.2⟩,
    h.hits_le⟩

theorem since_clear (h : floor.Since cache.metrics) : floor.Since cache.clear.metrics :=
  ⟨⟨h.floor_le.1, h.floor_le.2.1, h.floor_le.2.2.1, Nat.le_succ_of_le h.floor_le.2.2.2⟩,
    h.hits_le⟩

end Cache

namespace Journaled

variable {σ α : Type}

/-- What the counters of a cache say beyond the journal. -/
@[ext] structure Books where
  /-- Calls counted beyond the names asked for. -/
  calls : Int
  /-- Refreshes counted beyond the fetches that were answered. -/
  refreshes : Int
  /-- Calls without a hit beyond the fetches. -/
  misses : Int
  clears : Nat
  warmed : List Kind

def books (backed : Backed (Journaled σ)) : Books where
  calls := backed.cache.metrics.calls - backed.server.journal.asked.length
  refreshes := backed.cache.metrics.refreshes - backed.server.journal.answered
  misses := backed.cache.metrics.calls - backed.cache.metrics.hits -
    backed.server.journal.fetched.length
  clears := backed.cache.metrics.clears
  warmed := backed.server.journal.warmed

namespace Books

/-- Books with more misses, for which nothing has been fetched yet. -/
def owe (books : Books) (misses : Int) : Books :=
  { books with misses := books.misses + misses }

/-- Books after fetches for warming, which are not for misses. -/
def warm (books : Books) (kinds : List Kind) : Books :=
  { books with misses := books.misses - kinds.length, warmed := books.warmed ++ kinds }

def clear (books : Books) : Books := { books with clears := books.clears + 1 }

/-- What a fetch has settled was owed before it. -/
theorem owe_settled (books : Books) : (books.owe 1).owe (-1) = books := by
  have hMisses : books.misses + 1 + -1 = books.misses := by omega
  rw [owe, owe, hMisses]

theorem warm_nil (books : Books) : books.warm [] = books := by
  have hMisses : books.misses - ([] : List Kind).length = books.misses := by simp
  rw [warm, hMisses, List.append_nil]

theorem warm_warm (books : Books) (kind : Kind) (kinds : List Kind) :
    (books.warm [kind]).warm kinds = books.warm (kind :: kinds) := by
  simp only [warm, List.length_cons, List.length_nil, List.append_assoc, List.singleton_append,
    Books.mk.injEq, true_and, and_true]
  omega

end Books

/-- The attempt leaves the books alone, and no counter goes back. -/
abbrev Accounts (attempt : Attempt (Backed (Journaled σ)) α) : Prop :=
  ∀ floor : Metrics, attempt.Keeps books fun backed => floor.Since backed.cache.metrics

theorem Accounts.bind
    {β : Type}
    {attempt : Attempt (Backed (Journaled σ)) α}
    {next : α → Attempt (Backed (Journaled σ)) β}
    (hFirst : Accounts attempt)
    (hNext : ∀ value, Accounts (next value)) :
    Accounts (attempt >>= next) :=
  fun floor => (hFirst floor).bind fun value => hNext value floor

theorem accounts_pure (value : α) : Accounts (pure value : Attempt (Backed (Journaled σ)) α) :=
  fun _ => .pure value

theorem accounts_throw (failure : Failure) :
    Accounts (throw failure : Attempt (Backed (Journaled σ)) α) :=
  fun _ => .throw failure

theorem accounts_lift (attempt : Attempt σ α) : Accounts (Backed.onServer (lift attempt)) :=
  fun _ _ hSince => ⟨rfl, hSince⟩

theorem accounts_source
    (source : Source σ)
    (kind : Kind) :
    Accounts (source.journaled kind) :=
  accounts_lift (source kind)

section Entries

variable (backed : Backed (Journaled σ))

theorem books_refused (kind : Kind) (failure : Failure) :
    books (note backed fun journal => journal.fetch kind (.error failure)) =
      (books backed).owe (-1) := by
  have hFetched := backed.server.journal.length_fetched_fetch kind (.error failure)
  have hAnswered := backed.server.journal.answered_fetch_error kind failure
  refine Books.ext rfl ?_ ?_ rfl rfl
  · simp only [books, note, Books.owe, hAnswered]
  · simp only [books, note, Books.owe, hFetched]
    omega

/-- An answer is counted as a refresh, whatever its rows are. -/
theorem books_answered (kind : Kind) (table : Table) :
    books ⟨backed.cache.countRefresh,
        (note backed fun journal => journal.fetch kind (.ok table)).server⟩ =
      (books backed).owe (-1) := by
  have hFetched := backed.server.journal.length_fetched_fetch kind (.ok table)
  have hAnswered := backed.server.journal.answered_fetch_ok kind table
  refine Books.ext rfl ?_ ?_ rfl rfl
  · simp only [books, note, Books.owe, Cache.countRefresh, hAnswered]
    omega
  · simp only [books, note, Books.owe, Cache.countRefresh, hFetched]
    omega

theorem books_hit (kind : Kind) (index : Nat) :
    books ⟨backed.cache.countCall.countHit,
        (note backed fun journal => journal.ask kind index).server⟩ = books backed := by
  have hAsked := backed.server.journal.length_asked_ask kind index
  refine Books.ext ?_ rfl ?_ rfl rfl
  · simp only [books, note, Cache.countCall, Cache.countHit, hAsked]
    omega
  · simp only [books, note, Cache.countCall, Cache.countHit, Journal.ask]
    omega

theorem books_miss (kind : Kind) (index : Nat) :
    books ⟨backed.cache.countCall, (note backed fun journal => journal.ask kind index).server⟩ =
      (books backed).owe 1 := by
  have hAsked := backed.server.journal.length_asked_ask kind index
  refine Books.ext ?_ rfl ?_ rfl rfl
  · simp only [books, note, Books.owe, Cache.countCall, hAsked]
    omega
  · simp only [books, note, Books.owe, Cache.countCall, Journal.ask]
    omega

theorem books_warmed (kind : Kind) :
    (books (note backed fun journal => journal.warm kind)).owe (-1) =
      (books backed).warm [kind] := by
  refine Books.ext rfl rfl ?_ rfl rfl
  simp only [books, note, Journal.warm, Books.owe, Books.warm, List.length_singleton]
  omega

end Entries

section Fetches

variable {fetch : Fetch (Journaled σ)} {floor : Metrics} {backed : Backed (Journaled σ)}

/-- A refresh settles what is owed for one miss, whatever comes of it. -/
theorem books_refresh
    {kind : Kind}
    (hFetch : Accounts (fetch kind))
    (backed : Backed (Journaled σ))
    (hSince : floor.Since backed.cache.metrics) :
    books ((Backed.refresh (fetching fetch) kind).on backed).2 = (books backed).owe (-1) ∧
      floor.Since ((Backed.refresh (fetching fetch) kind).on backed).2.cache.metrics := by
  obtain ⟨hBooks, hAfter⟩ := hFetch floor backed hSince
  rw [Backed.on_refresh, fetching, Attempt.on_ofFunction, ← hBooks]
  rcases hOn : (fetch kind).on backed with ⟨failure | table, after⟩
  · rw [hOn] at hAfter
    exact ⟨books_refused after kind failure, hAfter⟩
  · rw [hOn] at hAfter
    dsimp only
    cases Backed.unseenNames (backed.cache.known kind) table with
    | ok tail => exact ⟨books_answered after kind table, Cache.since_countRefresh hAfter⟩
    | error reason => exact ⟨books_answered after kind table, Cache.since_countRefresh hAfter⟩

theorem accounts_resolve
    {kind : Kind}
    (hFetch : Accounts (fetch kind))
    (index : Nat) :
    Accounts (resolve fetch kind index) := by
  intro floor backed hSince
  rw [resolve, noting, Attempt.on_bind, Attempt.on_modify]
  dsimp only
  let noted := note backed fun journal => journal.ask kind index
  cases hName : (noted.cache.names.of kind)[index]? with
  | some name =>
      rw [Backed.on_resolve_hit _ noted hName]
      exact ⟨books_hit backed kind index, Cache.since_countHit hSince⟩
  | none =>
      have hMiss : books ⟨noted.cache.countCall, noted.server⟩ = (books backed).owe 1 :=
        books_miss backed kind index
      obtain ⟨hBooks, hAfter⟩ := books_refresh hFetch ⟨noted.cache.countCall, noted.server⟩
        (Cache.since_countCall hSince)
      rw [hMiss, Books.owe_settled] at hBooks
      rw [Backed.on_resolve_miss _ noted hName]
      rcases hOn : (Backed.refresh (fetching fetch) kind).on
        ⟨noted.cache.countCall, noted.server⟩ with ⟨failure | done, after⟩
      all_goals
        rw [hOn] at hBooks hAfter
        exact ⟨hBooks, hAfter⟩

theorem accounts_decode
    (hFetch : ∀ kind, Accounts (fetch kind))
    (reply : Reply) :
    Accounts (decode fetch reply) :=
  fun floor =>
    Table.keeps_decode (fun kind index => accounts_resolve (hFetch kind) index floor) reply

/-- A refresh for warming is a refresh with a note before it. -/
theorem on_refresh_warming
    (kind : Kind)
    (backed : Backed (Journaled σ)) :
    (Backed.refresh (warming fetch) kind).on backed =
      (Backed.refresh (fetching fetch) kind).on
        (note backed fun journal => journal.warm kind) := by
  rw [Backed.on_refresh, Backed.on_refresh]
  rfl

/-- Warming makes one fetch for each list up to and including the first that fails. -/
theorem books_refreshAll
    (hFetch : ∀ kind, Accounts (fetch kind))
    (kinds : List Kind)
    (hSince : floor.Since backed.cache.metrics) :
    books ((Backed.refreshAll (warming fetch) kinds).on backed).2 =
        (books backed).warm
          (Attempt.upToFailure (Backed.refresh (warming fetch)) kinds backed) ∧
      floor.Since ((Backed.refreshAll (warming fetch) kinds).on backed).2.cache.metrics := by
  induction kinds generalizing backed with
  | nil => exact ⟨(Books.warm_nil _).symm, hSince⟩
  | cons kind rest ih =>
      have hRefresh := books_refresh (hFetch kind)
        (note backed fun journal => journal.warm kind) hSince
      rw [books_warmed, ← on_refresh_warming] at hRefresh
      rw [Backed.refreshAll, Attempt.upToFailure, Attempt.on_bind]
      rcases hOn : (Backed.refresh (warming fetch) kind).on backed with ⟨failure | done, middle⟩
      · rw [hOn] at hRefresh
        exact hRefresh
      · rw [hOn] at hRefresh
        obtain ⟨hBooks, hMiddle⟩ := hRefresh
        obtain ⟨hRest, hAfter⟩ := ih hMiddle
        refine ⟨hRest.trans ?_, hAfter⟩
        rw [hBooks, Books.warm_warm]

/-- What a request does to the books, and the lists that it comes to if it warms. -/
theorem books_perform
    (hFetch : ∀ kind, Accounts (fetch kind))
    (request : Request)
    (hSince : floor.Since backed.cache.metrics) :
    (books ((perform fetch request).on backed).2 =
      match request with
      | .resolve _ _ | .decode _ => books backed
      | .warm =>
          (books backed).warm
            (Attempt.upToFailure (Backed.refresh (warming fetch)) Kind.all backed)
      | .clear => (books backed).clear) ∧
      floor.Since ((perform fetch request).on backed).2.cache.metrics := by
  cases request with
  | resolve kind index =>
      exact ((accounts_resolve (hFetch kind) index).bind fun _ => accounts_pure _) floor backed
        hSince
  | warm =>
      rw [perform, Attempt.on_bind_pure]
      exact books_refreshAll hFetch Kind.all hSince
  | clear => exact ⟨rfl, Cache.since_clear hSince⟩
  | decode reply =>
      exact ((accounts_decode hFetch reply).bind fun _ => accounts_pure _) floor backed hSince

end Fetches

end Journaled

end GraphClient
