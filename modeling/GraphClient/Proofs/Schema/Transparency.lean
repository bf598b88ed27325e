import GraphClient.Schema.Server

/-!
# The cache does not show

Reading a reply through a cache gives what reading it off the complete lists of the
server gives, whatever part of these lists the cache holds.

**Setting.**  `schema` reads the lists of names off the state of a server.  A fetch
is *honest* if it hands over a list of that schema or fails, and in no case touches
the schema or the cache.  It is *complete* if it is honest and never fails.

**Invariant.**  Each list of the cache is the beginning of the list of its kind.
Honest work either leaves a list as it is or makes it the whole list
(`Backed.Filled`), which keeps the invariant.  Filling is reflexive and transitive,
so it passes from one name to a reading (`Backed.filled_run`) and to a run of
refreshes (`Backed.filled_refreshAll`), wherever these stop.

**Results.**

* `Backed.resolve_honest`: one name, through an honest fetch.
* `Backed.run_complete`: one reading, through a complete fetch.
* `Backed.decode_transparent`: a whole reply.
-/

namespace GraphClient

/-- The list that `unseenNames` finds in a table, whatever part of it is known already. -/
def Table.Lists (table : Table) (list : List String) : Prop :=
  ∀ known, Backed.unseenNames known table = .ok (list.drop known)

theorem Names.lists_table (names : Names) (kind : Kind) :
    (names.table kind).Lists (names.of kind) :=
  fun known => names.unseenNames_table kind known

section Fetches

variable {σ : Type}

/-- Fetches that hand over lists of a schema or fail, and change neither schema nor cache. -/
structure Fetch.Honest (schema : σ → Names) (fetch : Fetch σ) : Prop where
  cache_eq : ∀ kind backed, ((fetch kind).on backed).2.cache = backed.cache
  schema_eq : ∀ kind backed, schema ((fetch kind).on backed).2.server = schema backed.server
  lists : ∀ kind backed table, ((fetch kind).on backed).1 = .ok table →
    table.Lists ((schema backed.server).of kind)

/-- Honest fetches that never fail. -/
structure Fetch.Complete (schema : σ → Names) (fetch : Fetch σ) : Prop
    extends Fetch.Honest schema fetch where
  answers : ∀ kind backed, ∃ table, ((fetch kind).on backed).1 = .ok table

/-- A server that answers is a complete source of its own lists. -/
theorem Server.complete_source :
    Fetch.Complete Server.names (Backed.fetchFrom Server.source) where
  cache_eq _ _ := rfl
  schema_eq _ _ := rfl
  lists kind backed table hTable := by
    have hSent : backed.server.names.table kind = table := by
      simpa [Backed.fetchFrom] using hTable
    exact hSent ▸ backed.server.names.lists_table kind
  answers kind backed := ⟨backed.server.names.table kind, rfl⟩

/-- A server that refuses is still honest. -/
theorem Server.honest_refusing (failure : Kind → Failure) :
    Fetch.Honest Server.names (Backed.fetchFrom (Server.refusing failure)) where
  cache_eq _ _ := rfl
  schema_eq _ _ := rfl
  lists kind backed table hTable := by simp [Backed.fetchFrom] at hTable

end Fetches

/-- A list completed by its unseen names is the whole list; the others are as they were. -/
theorem Names.of_append_drop
    {names full : Names}
    (hKnown : names ≤ full)
    (kind other : Kind) :
    (names.append kind ((full.of kind).drop (names.of kind).length)).of other =
      if other = kind then full.of kind else names.of other := by
  obtain ⟨tail, hTail⟩ := hKnown kind
  rw [of_append, ← hTail, List.drop_left]

namespace Backed

variable {σ α : Type} {schema : σ → Names}

/-- The schema is as before, and each list of the cache is as before or complete. -/
structure Filled (schema : σ → Names) (before after : Backed σ) : Prop where
  schema_eq : schema after.server = schema before.server
  lists : ∀ kind, after.cache.names.of kind = before.cache.names.of kind ∨
    after.cache.names.of kind = (schema before.server).of kind

/-- What is in the cache is the beginning of what is in the schema. -/
def Known (schema : σ → Names) (backed : Backed σ) : Prop :=
  backed.cache.names ≤ schema backed.server

namespace Filled

variable {before middle after : Backed σ}

theorem of_names_eq
    (hSchema : schema after.server = schema before.server)
    (hNames : after.cache.names = before.cache.names) :
    Filled schema before after :=
  ⟨hSchema, fun _ => Or.inl (by rw [hNames])⟩

theorem trans
    (hFirst : Filled schema before middle)
    (hSecond : Filled schema middle after) :
    Filled schema before after := by
  refine ⟨hSecond.schema_eq.trans hFirst.schema_eq, fun kind => ?_⟩
  rcases hSecond.lists kind with hSame | hWhole
  · rw [hSame]
    exact hFirst.lists kind
  · right
    rw [hWhole, hFirst.schema_eq]

theorem known
    (hFilled : Filled schema before after)
    (hKnown : Known schema before) :
    Known schema after := by
  intro kind
  rw [hFilled.schema_eq]
  rcases hFilled.lists kind with hSame | hWhole
  · rw [hSame]
    exact hKnown kind
  · exact ⟨[], by rw [hWhole, List.append_nil]⟩

end Filled

section Honest

variable {fetch : Fetch σ} {backed : Backed σ}

/-- A refresh fails with the fetch and changes no name, or completes the list of its kind. -/
theorem refresh_cases
    (hHonest : Fetch.Honest schema fetch)
    (kind : Kind)
    (backed : Backed σ) :
    (∃ failure server,
      ((fetch kind).on backed).1 = .error failure ∧
      (refresh fetch kind).on backed = (.error failure, ⟨backed.cache, server⟩) ∧
      schema server = schema backed.server) ∨
    (∃ server,
      (refresh fetch kind).on backed =
        (.ok (), ⟨backed.cache.countRefresh.append kind
          (((schema backed.server).of kind).drop (backed.cache.known kind)), server⟩) ∧
      schema server = schema backed.server) := by
  have hCache := hHonest.cache_eq kind backed
  have hSchema := hHonest.schema_eq kind backed
  have hLists := hHonest.lists kind backed
  rw [on_refresh]
  cases hFetch : (fetch kind).on backed with
  | mk outcome after =>
      rw [hFetch] at hCache hSchema hLists
      cases outcome with
      | error failure =>
          refine Or.inl ⟨failure, after.server, rfl, ?_, hSchema⟩
          simp only [← hCache]
      | ok table =>
          refine Or.inr ⟨after.server, ?_, hSchema⟩
          change after.cache = backed.cache at hCache
          simp only [hLists table rfl (backed.cache.known kind), hCache]

theorem filled_refresh
    (hHonest : Fetch.Honest schema fetch)
    (kind : Kind)
    (hKnown : Known schema backed) :
    Filled schema backed ((refresh fetch kind).on backed).2 := by
  rcases refresh_cases hHonest kind backed with
    ⟨failure, server, -, hRefresh, hSchema⟩ | ⟨server, hRefresh, hSchema⟩
  · rw [hRefresh]
    exact Filled.of_names_eq hSchema rfl
  · rw [hRefresh]
    refine ⟨hSchema, fun other => ?_⟩
    have hLists := Names.of_append_drop hKnown kind other
    by_cases hOther : other = kind
    · rw [if_pos hOther] at hLists
      exact Or.inr (hOther ▸ hLists)
    · rw [if_neg hOther] at hLists
      exact Or.inl hLists

/-- After a refresh that succeeds the list of its kind is whole. -/
theorem whole_of_refresh_ok
    (hHonest : Fetch.Honest schema fetch)
    (kind : Kind)
    (hKnown : Known schema backed)
    (hOk : ((refresh fetch kind).on backed).1 = .ok ()) :
    ((refresh fetch kind).on backed).2.cache.names.of kind =
      (schema backed.server).of kind := by
  rcases refresh_cases hHonest kind backed with
    ⟨failure, server, -, hRefresh, -⟩ | ⟨server, hRefresh, -⟩
  · rw [hRefresh] at hOk
    cases hOk
  · rw [hRefresh]
    have hLists := Names.of_append_drop hKnown kind kind
    rw [if_pos rfl] at hLists
    exact hLists

/--
A name asked for through an honest fetch is the name of the schema, or the
fetch has failed and with it the request.
-/
theorem resolve_honest
    (hHonest : Fetch.Honest schema fetch)
    (hKnown : Known schema backed)
    (kind : Kind)
    (index : Nat) :
    Filled schema backed ((resolve fetch kind index).on backed).2 ∧
    (((resolve fetch kind index).on backed).1 =
        Lookup.nameIn (schema backed.server) kind index ∨
      ∃ failure asking,
        ((fetch kind).on asking).1 = .error failure ∧
        ((resolve fetch kind index).on backed).1 = .error failure) := by
  cases hName : (backed.cache.names.of kind)[index]? with
  | some name =>
      rw [on_resolve_hit fetch backed hName]
      have hSchema := Names.getElem?_of_le hKnown hName
      refine ⟨Filled.of_names_eq rfl rfl, Or.inl ?_⟩
      simp only [Lookup.nameIn, hSchema]
  | none =>
      -- The refresh starts from a cache that has counted the call and knows the same names.
      let asking : Backed σ := ⟨backed.cache.countCall, backed.server⟩
      have hAsking : Known schema asking := hKnown
      have hStart : Filled schema backed asking := Filled.of_names_eq rfl rfl
      have hFilled : Filled schema asking ((refresh fetch kind).on asking).2 :=
        filled_refresh hHonest kind hAsking
      have hWhole := whole_of_refresh_ok hHonest kind hAsking
      rw [on_resolve_miss fetch backed hName]
      rcases refresh_cases hHonest kind asking with
        ⟨failure, server, hFetch, hRefresh, -⟩ | ⟨server, hRefresh, -⟩
      · rw [hRefresh] at hFilled ⊢
        exact ⟨hStart.trans hFilled, Or.inr ⟨failure, asking, hFetch, rfl⟩⟩
      · rw [hRefresh] at hFilled hWhole ⊢
        refine ⟨hStart.trans hFilled, Or.inl ?_⟩
        simp only [Lookup.nameIn, hWhole rfl]
        rfl

/-- Whatever the names of a reading are needed for, its requests only fill lists. -/
theorem filled_run
    (hHonest : Fetch.Honest schema fetch)
    (reading : Lookup α)
    (hKnown : Known schema backed) :
    Filled schema backed ((reading.run (resolve fetch)).on backed).2 := by
  induction reading generalizing backed with
  | done value => exact Filled.of_names_eq rfl rfl
  | fail reason => exact Filled.of_names_eq rfl rfl
  | need kind index next ih =>
      obtain ⟨hFilled, -⟩ := resolve_honest hHonest hKnown kind index
      rw [Lookup.run, Attempt.on_bind]
      cases hResolve : (resolve fetch kind index).on backed with
      | mk outcome middle =>
          rw [hResolve] at hFilled
          cases outcome with
          | error failure => exact hFilled
          | ok name => exact hFilled.trans (ih name (hFilled.known hKnown))

/-- Refreshing one list after the other fills lists, wherever it stops. -/
theorem filled_refreshAll
    (hHonest : Fetch.Honest schema fetch)
    (kinds : List Kind)
    (hKnown : Known schema backed) :
    Filled schema backed ((refreshAll fetch kinds).on backed).2 := by
  induction kinds generalizing backed with
  | nil => exact Filled.of_names_eq rfl rfl
  | cons kind rest ih =>
      have hFilled := filled_refresh hHonest kind hKnown
      rw [refreshAll, Attempt.on_bind]
      cases hRefresh : (refresh fetch kind).on backed with
      | mk outcome middle =>
          rw [hRefresh] at hFilled
          cases outcome with
          | error failure => exact hFilled
          | ok done => exact hFilled.trans (ih (hFilled.known hKnown))

theorem filled_decode
    (hHonest : Fetch.Honest schema fetch)
    (reply : Reply)
    (hKnown : Known schema backed) :
    Filled schema backed ((decode fetch reply).on backed).2 := by
  unfold decode Table.decode
  cases reply.serverError? with
  | some message => exact Filled.of_names_eq rfl rfl
  | none => exact filled_run hHonest _ hKnown

end Honest

section Complete

variable {fetch : Fetch σ} {backed : Backed σ}

/-- A name asked for through a complete fetch is the name of the schema. -/
theorem resolve_complete
    (hComplete : Fetch.Complete schema fetch)
    (hKnown : Known schema backed)
    (kind : Kind)
    (index : Nat) :
    ((resolve fetch kind index).on backed).1 =
      Lookup.nameIn (schema backed.server) kind index := by
  obtain ⟨-, hName | ⟨failure, asking, hFetch, -⟩⟩ :=
    resolve_honest hComplete.toHonest hKnown kind index
  · exact hName
  · obtain ⟨table, hTable⟩ := hComplete.answers kind asking
    rw [hTable] at hFetch
    cases hFetch

/-- A reading through a complete fetch ends as it does on the whole lists. -/
theorem run_complete
    (hComplete : Fetch.Complete schema fetch)
    (reading : Lookup α)
    (hKnown : Known schema backed) :
    ((reading.run (resolve fetch)).on backed).1 = reading.direct (schema backed.server) := by
  induction reading generalizing backed with
  | done value => rfl
  | fail reason => rfl
  | need kind index next ih =>
      obtain ⟨hFilled, -⟩ := resolve_honest hComplete.toHonest hKnown kind index
      have hName := resolve_complete hComplete hKnown kind index
      rw [Lookup.run, Attempt.on_bind, Lookup.direct, ← hName]
      cases hResolve : (resolve fetch kind index).on backed with
      | mk outcome middle =>
          rw [hResolve] at hFilled
          cases outcome with
          | error failure => rfl
          | ok name =>
              rw [ih name (hFilled.known hKnown), hFilled.schema_eq]

theorem decode_complete
    (hComplete : Fetch.Complete schema fetch)
    (reply : Reply)
    (hKnown : Known schema backed) :
    ((decode fetch reply).on backed).1 =
      Table.decodeDirect (schema backed.server) reply := by
  unfold decode Table.decode Table.decodeDirect
  cases reply.serverError? with
  | some message => rfl
  | none => exact run_complete hComplete _ hKnown

end Complete

end Backed

namespace Lookup

variable {α : Type} {names : Names}

/-- A name that is missing from the whole lists is missing beyond the end of its list. -/
theorem nameIn_unresolved
    {kind other : Kind}
    {index position known : Nat}
    (hMissing : nameIn names kind index = .error (.unresolved other position known)) :
    known = (names.of other).length ∧ known ≤ position := by
  unfold nameIn at hMissing
  cases hName : (names.of kind)[index]? with
  | some name =>
      rw [hName] at hMissing
      cases hMissing
  | none =>
      rw [hName] at hMissing
      cases hMissing
      exact ⟨rfl, List.getElem?_eq_none_iff.mp hName⟩

theorem direct_unresolved
    {reading : Lookup α}
    {kind : Kind}
    {index known : Nat}
    (hMissing : reading.direct names = .error (.unresolved kind index known)) :
    known = (names.of kind).length ∧ known ≤ index := by
  induction reading with
  | done value => cases hMissing
  | fail reason => cases hMissing
  | need needed position next ih =>
      rw [direct] at hMissing
      cases hName : nameIn names needed position with
      | ok name =>
          rw [hName] at hMissing
          exact ih name hMissing
      | error failure =>
          rw [hName] at hMissing
          cases hMissing
          exact nameIn_unresolved hName

end Lookup

theorem Table.decodeDirect_unresolved
    {names : Names}
    {reply : Reply}
    {kind : Kind}
    {index known : Nat}
    (hMissing : Table.decodeDirect names reply = .error (.unresolved kind index known)) :
    known = (names.of kind).length ∧ known ≤ index := by
  unfold Table.decodeDirect at hMissing
  cases hError : reply.serverError? with
  | some message =>
      rw [hError] at hMissing
      cases hMissing
  | none =>
      rw [hError] at hMissing
      exact Lookup.direct_unresolved hMissing

/--
**The cache does not show.**  Through a cache that holds the beginnings of the lists
of a server, a reply of any form reads as it does off the whole lists.  A name that
does not exist is reported with the full length of its list, another such cache gives
the same outcome, and a list of the cache ends as it was or whole.
-/
theorem Backed.decode_transparent
    (server : Server)
    (cache : Cache)
    (reply : Reply)
    (hKnown : cache.names ≤ server.names) :
    let result := (Backed.decode (Backed.fetchFrom Server.source) reply).on ⟨cache, server⟩
    result.1 = Table.decodeDirect server.names reply ∧
    (∀ kind index known, result.1 = .error (.unresolved kind index known) →
      known = (server.names.of kind).length ∧ known ≤ index) ∧
    (∀ other : Backed Server,
      other.server.names = server.names → other.cache.names ≤ server.names →
      ((Backed.decode (Backed.fetchFrom Server.source) reply).on other).1 = result.1) ∧
    result.2.server.names = server.names ∧
    ∀ kind, result.2.cache.names.of kind = cache.names.of kind ∨
      result.2.cache.names.of kind = server.names.of kind := by
  intro result
  have hComplete := Server.complete_source
  have hOutcome : result.1 = Table.decodeDirect server.names reply :=
    Backed.decode_complete hComplete reply hKnown
  have hFilled : Backed.Filled Server.names ⟨cache, server⟩ result.2 :=
    Backed.filled_decode hComplete.toHonest reply hKnown
  refine ⟨hOutcome, ?_, ?_, hFilled.schema_eq, hFilled.lists⟩
  · intro kind index known hMissing
    rw [hOutcome] at hMissing
    exact Table.decodeDirect_unresolved hMissing
  · intro other hSchema hOther
    have hOtherKnown : Backed.Known Server.names other := by
      rw [Backed.Known, hSchema]
      exact hOther
    rw [Backed.decode_complete hComplete reply hOtherKnown, hSchema, hOutcome]

namespace Sample

/-- A server with a few names of each kind. -/
def server : Server := .ofNames ⟨["City", "Person"], ["KNOWS"], ["name"]⟩

def cache : Cache := { Cache.new "social" with names := ⟨["City"], [], []⟩ }

/-- A reply with one node, whose label and whose property key the cache does not know. -/
def reply : Reply :=
  .array
    [.array [.array [.integer 2, .ofText "n"]],
     .array [.array [.array
       [.integer 7, .array [.integer 1], .array [.array [.integer 0, .integer 2, .ofText "Ann"]]]]],
     .array []]

def table : Table :=
  ⟨[⟨"n", .node⟩], [[.node ⟨7, ["Person"], [("name", .string "Ann")]⟩]], .empty⟩

end Sample

/-- The sample reply through a cache that knows no name which it needs. -/
theorem Backed.decode_transparent_sample :
    Sample.cache.names ≤ Sample.server.names ∧
    ((Backed.decode (Backed.fetchFrom Server.source) Sample.reply).on
      ⟨Sample.cache, Sample.server⟩).1 = .ok Sample.table := by
  have hKnown : Sample.cache.names ≤ Sample.server.names := by decide
  obtain ⟨hOutcome, -⟩ := decode_transparent Sample.server Sample.cache Sample.reply hKnown
  exact ⟨hKnown, hOutcome.trans rfl⟩

end GraphClient
