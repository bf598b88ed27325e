import GraphClient.Proofs.Schema.AppendOnly
import GraphClient.Session.Basic

/-!
# Handles of different families do not meet

A session has one connection and any number of handles.  A handle that is opened founds
a family, and a clone joins the family of the handle that it is cloned from.  Which
family a handle belongs to is told by the answers to the actions alone (`Traced`).

**The connection** may answer and fail as it likes, also when a list of names is asked
for, and reading a list may make the handle fetch another one on the way.  A list that is
needed while it is being fetched fails the fetch, like any other refusal.

**Families and caches.**  Two handles have one cache exactly if they are of one family
(`Traced.Sorted`).  Every action keeps this, because opening makes a cache that no
handle had and cloning makes none; `Action.effect` says all that an action can do.

**Names.**  What is done through a handle appends to the lists of its cache
(`Operation.appends_perform`), except that names are dropped by closing and by deleting
where the server agrees (`Operation.names_perform_drop`).  Commands that read no table
do not look at the cache (`Operation.cache_perform_quiet`).

**Results.**  `Traced.isolated` puts this together for one more action after any run.
-/

namespace GraphClient

namespace Handle

variable {τ α : Type} (connection : Connection τ)

theorem appends_exchange
    (handle : Handle)
    {fetch : Fetch τ}
    (hFetch : ∀ kind, Backed.Appends (fetch kind))
    (command : Command)
    (query : String)
    (timeout : Option Nat) :
    Backed.Appends (handle.exchange connection fetch command query timeout) :=
  (Backed.appends_onServer _).bind fun reply => Backed.appends_decode hFetch reply

/--
What holds of a refusal, and of a call whose reply is read with fetches of which it holds,
holds of every fetch.
-/
theorem fetch_induction
    {property : Attempt (Backed τ) Table → Prop}
    (handle : Handle)
    (hBlocked : ∀ kind, property (throw (.blocked kind)))
    (hCall : ∀ (fetch : Fetch τ) (kind : Kind), (∀ other, property (fetch other)) →
      property (handle.exchange connection fetch handle.queryCommand
        (callText kind.procedure [] []) none))
    (idle : List Kind)
    (kind : Kind) :
    property (handle.fetch connection idle kind) := by
  fun_induction handle.fetch connection idle kind with
  | case1 idle kind hIdle ih => exact hCall _ kind ih
  | case2 idle kind hBusy => exact hBlocked kind

/-- Fetching a list through the cache may append to other lists, and never drops a name. -/
theorem appends_fetch
    (handle : Handle)
    (idle : List Kind)
    (kind : Kind) :
    Backed.Appends (handle.fetch connection idle kind) := by
  refine handle.fetch_induction connection (fun _ => .throw _) ?_ idle kind
  intro fetch other hFetch
  exact handle.appends_exchange connection hFetch _ _ _

theorem appends_ask
    (handle : Handle)
    (command : Command)
    (query : String)
    (timeout : Option Nat) :
    Backed.Appends (handle.ask connection command query timeout) :=
  handle.appends_exchange connection (handle.appends_fetch connection Kind.all) command query
    timeout

/-- A command other than a query leaves the cache alone. -/
theorem cache_command
    (command : Command)
    (arguments : List String)
    (read : Reply → Except Failure α)
    (backed : Backed τ) :
    ((Handle.command connection command arguments read).on backed).2.cache = backed.cache := by
  rw [Handle.command, Attempt.on_bind, Backed.on_onServer]
  rcases ((connection command arguments).on backed.server).1 with failure | reply
  · rfl
  · dsimp only
    cases read reply <;> rfl

end Handle

namespace Operation

variable {τ : Type} (connection : Connection τ) (handle : Handle)

/-- The operation has dropped the names: the handle was closed, or the graph was deleted. -/
def Drops : Operation → Except Failure Answer → Prop
  | .close, _ => True
  | .delete, .ok _ => True
  | _, _ => False

/-- The operation reads no table and has dropped no names. -/
def Quiet : Operation → Except Failure Answer → Prop
  | .explain _, _ | .profile _, _ | .copy _, _ => True
  | .delete, .error _ => True
  | _, _ => False

/-- A graph is deleted first, and the names are dropped if the server agrees. -/
theorem on_perform_delete (backed : Backed τ) :
    (∃ failure,
      ((Operation.delete.perform connection handle).on backed).1 = .error failure ∧
      ((Operation.delete.perform connection handle).on backed).2.cache = backed.cache) ∨
    (∃ status,
      ((Operation.delete.perform connection handle).on backed).1 = .ok (.text status) ∧
      ((Operation.delete.perform connection handle).on backed).2.cache = backed.cache.clear) := by
  have hCache :=
    Handle.cache_command connection .delete [handle.graph] Handle.statusText backed
  rw [perform, Attempt.on_bind]
  rcases hOn : (Handle.command connection .delete [handle.graph] Handle.statusText).on backed with
    ⟨failure | status, after⟩
  · rw [hOn] at hCache
    exact Or.inl ⟨failure, rfl, hCache⟩
  · rw [hOn] at hCache
    exact Or.inr ⟨status, rfl, congrArg Cache.clear hCache⟩

variable {operation : Operation} {backed : Backed τ}

theorem cache_perform_quiet
    (hQuiet : operation.Quiet ((operation.perform connection handle).on backed).1) :
    ((operation.perform connection handle).on backed).2.cache = backed.cache := by
  cases operation with
  | explain text =>
      rw [perform, Attempt.on_bind_pure]
      exact Handle.cache_command connection _ _ _ backed
  | profile text =>
      rw [perform, Attempt.on_bind_pure]
      exact Handle.cache_command connection _ _ _ backed
  | copy destination =>
      rw [perform, Attempt.on_bind_pure]
      exact Handle.cache_command connection _ _ _ backed
  | delete =>
      rcases on_perform_delete connection handle backed with
        ⟨failure, -, hCache⟩ | ⟨status, hOk, -⟩
      · exact hCache
      · rw [hOk] at hQuiet
        exact hQuiet.elim
  | _ => exact hQuiet.elim

theorem names_perform_drop
    (hDrops : operation.Drops ((operation.perform connection handle).on backed).1) :
    ((operation.perform connection handle).on backed).2.cache.names = .empty := by
  cases operation with
  | close => rfl
  | delete =>
      rcases on_perform_delete connection handle backed with
        ⟨failure, hError, -⟩ | ⟨status, -, hCache⟩
      · rw [hError] at hDrops
        exact hDrops.elim
      · rw [hCache]
        rfl
  | _ => exact hDrops.elim

/-- Whatever else is done through a handle only appends to the lists of its cache. -/
theorem appends_perform
    (hKeeps : ¬ operation.Drops ((operation.perform connection handle).on backed).1) :
    backed.cache.names ≤ ((operation.perform connection handle).on backed).2.cache.names := by
  have hFetch := handle.appends_fetch connection Kind.all
  have hQuiet : operation.Quiet ((operation.perform connection handle).on backed).1 →
      backed.cache.names ≤ ((operation.perform connection handle).on backed).2.cache.names := by
    intro hQuiet
    rw [cache_perform_quiet connection handle hQuiet]
    exact Names.le_refl _
  cases operation with
  | query text readOnly timeout parameters =>
      rw [perform]
      cases queryText text parameters with
      | error failure => exact Backed.Appends.throw failure backed
      | ok prepared =>
          exact (handle.appends_ask connection _ prepared timeout).bind (fun _ => .pure _) backed
  | call procedure arguments columns =>
      exact (handle.appends_ask connection _ _ none).bind (fun _ => .pure _) backed
  | explain text => exact hQuiet trivial
  | profile text => exact hQuiet trivial
  | copy destination => exact hQuiet trivial
  | delete =>
      rcases on_perform_delete connection handle backed with
        ⟨failure, hError, -⟩ | ⟨status, hOk, -⟩
      · rw [hError] at hQuiet
        exact hQuiet trivial
      · rw [hOk] at hKeeps
        exact absurd trivial hKeeps
  | close => exact absurd trivial hKeeps
  | resolve kind index =>
      exact (Backed.appends_resolve (hFetch kind) index).bind (fun _ => .pure _) backed
  | warm => exact (Backed.appends_warm hFetch).bind (fun _ => .pure _) backed

end Operation

/--
What an action can do to a session: nothing but work on the connection, opening a handle
with a cache of its own, adding another handle for a cache, or work with one cache.
-/
inductive Action.Effect
    {τ : Type} (connection : Connection τ) (session : Session τ) :
    Action → Except Failure Answer → Session τ → Prop
  | idle {action : Action} {outcome : Except Failure Answer} (link : τ) :
      (∀ number, outcome ≠ .ok (.handle number)) →
      (∀ number operation, action = .through number operation →
        session.handle? number = none) →
      Effect connection session action outcome { session with link := link }
  | opened (graph : String) (options : Options) (cache : Cache) (link : τ) :
      Effect connection session (.select graph options) (.ok (.handle session.handles.length))
        ⟨link, session.caches ++ [cache],
          session.handles ++ [⟨graph, options, session.caches.length⟩]⟩
  | cloned {number : Nat} {handle : Handle} {cache : Cache} :
      session.handle? number = some (handle, cache) →
      Effect connection session (.clone number) (.ok (.handle session.handles.length))
        { session with handles := session.handles ++ [handle] }
  | worked {number : Nat} {operation : Operation} {handle : Handle} {cache : Cache}
      {outcome : Except Failure Answer} {backed : Backed τ} :
      session.handle? number = some (handle, cache) →
      (operation.perform connection handle).on ⟨cache, session.link⟩ = (outcome, backed) →
      Effect connection session (.through number operation) outcome
        { session with link := backed.server
                       caches := session.caches.set handle.cache backed.cache }

theorem Action.effect
    {τ : Type}
    (connection : Connection τ)
    (action : Action)
    (session : Session τ) :
    Action.Effect connection session action
      ((action.perform connection).on session).1 ((action.perform connection).on session).2 := by
  cases action with
  | select graph options =>
      rw [perform, Attempt.on_bind_pure, Session.select, Attempt.on_ofFunction]
      dsimp only
      rcases (Handle.opening connection ⟨graph, options, session.caches.length⟩).on
        ⟨.new graph, session.link⟩ with ⟨failure | done, backed⟩
      · exact .idle backed.server (fun _ => nofun) (fun _ _ => nofun)
      · exact .opened graph options backed.cache backed.server
  | clone number =>
      rw [perform, Attempt.on_bind, Attempt.on_get]
      cases hOpen : session.handle? number with
      | none =>
          simp only [hOpen]
          exact .idle session.link (fun _ => nofun) (fun _ _ => nofun)
      | some found =>
          simp only [hOpen]
          exact .cloned hOpen
  | through number operation =>
      rw [perform, Attempt.on_bind, Attempt.on_get]
      cases hOpen : session.handle? number with
      | none =>
          simp only [hOpen]
          refine .idle session.link (fun _ => nofun) (fun other _ hThrough => ?_)
          cases hThrough
          exact hOpen
      | some found =>
          simp only [hOpen]
          exact .worked hOpen rfl
  | list =>
      have hAnswer : ∀ (sent : Except Failure Reply) (number : Nat),
          (sent.map Session.graphNames).map Answer.lines ≠ .ok (.handle number) := by
        rintro (failure | reply) number hEq <;> cases hEq
      rw [perform, Session.listGraphs, Attempt.on_bind_pure, Attempt.on_bind_pure]
      exact .idle _ (hAnswer _) (fun _ _ => nofun)

namespace Session

variable {τ : Type} {session : Session τ}

/-- The cache that a handle sees. -/
def seen? (session : Session τ) (number : Nat) : Option Cache :=
  (session.handle? number).map Prod.snd

theorem handle?_eq_some_iff
    {number : Nat}
    {handle : Handle}
    {cache : Cache} :
    session.handle? number = some (handle, cache) ↔
      session.handles[number]? = some handle ∧ session.caches[handle.cache]? = some cache := by
  simp only [handle?, Option.bind_eq_some_iff, Option.map_eq_some_iff, Prod.mk.injEq]
  constructor
  · rintro ⟨found, hFound, kept, hKept, rfl, rfl⟩
    exact ⟨hFound, hKept⟩
  · rintro ⟨hFound, hKept⟩
    exact ⟨handle, hFound, cache, hKept, rfl, rfl⟩

theorem seen?_eq_some_iff
    {number : Nat}
    {cache : Cache} :
    session.seen? number = some cache ↔
      ∃ handle, session.handle? number = some (handle, cache) := by
  simp only [seen?, Option.map_eq_some_iff, Prod.exists, exists_eq_right]

/-- An open handle stays open, with its cache, where handles and caches are added. -/
theorem handle?_append
    {number : Nat}
    {handle : Handle}
    {cache : Cache}
    (hOpen : session.handle? number = some (handle, cache))
    (link : τ)
    (caches : List Cache)
    (handles : List Handle) :
    (Session.mk link (session.caches ++ caches) (session.handles ++ handles)).handle? number =
      some (handle, cache) := by
  obtain ⟨hHandle, hCache⟩ := handle?_eq_some_iff.mp hOpen
  refine handle?_eq_some_iff.mpr ⟨?_, ?_⟩
  · exact (List.getElem?_append_left (List.getElem?_eq_some_iff.mp hHandle).1).trans hHandle
  · exact (List.getElem?_append_left (List.getElem?_eq_some_iff.mp hCache).1).trans hCache

end Session

/--
A handle that is open stays open.  Either the action does not work with its cache, and
then it is as before, or the cache is what the operation has made of it.
-/
theorem Action.Effect.handle?_cases
    {τ : Type}
    {connection : Connection τ}
    {session after : Session τ}
    {action : Action}
    {outcome : Except Failure Answer}
    (hEffect : Action.Effect connection session action outcome after)
    {other : Nat}
    {relative : Handle}
    {cache : Cache}
    (hOpen : session.handle? other = some (relative, cache)) :
    (after.handle? other = some (relative, cache) ∧
      ∀ number operation handle kept, action = .through number operation →
        session.handle? number = some (handle, kept) → handle.cache ≠ relative.cache) ∨
    (∃ number operation handle backed, action = .through number operation ∧
      session.handle? number = some (handle, cache) ∧ handle.cache = relative.cache ∧
      (operation.perform connection handle).on ⟨cache, session.link⟩ = (outcome, backed) ∧
      after.handle? other = some (relative, backed.cache)) := by
  obtain ⟨hHandle, hCache⟩ := Session.handle?_eq_some_iff.mp hOpen
  cases hEffect with
  | idle link _ hClosed =>
      refine Or.inl ⟨hOpen, fun number operation handle kept hThrough hFound => ?_⟩
      rw [hClosed number operation hThrough] at hFound
      cases hFound
  | opened graph options new link =>
      exact Or.inl ⟨Session.handle?_append hOpen link [new] _, fun _ _ _ _ => nofun⟩
  | @cloned number handle kept hFound =>
      have hStays := Session.handle?_append hOpen session.link [] [handle]
      rw [List.append_nil] at hStays
      exact Or.inl ⟨hStays, fun _ _ _ _ => nofun⟩
  | @worked number operation handle kept _ backed hFound hOn =>
      obtain ⟨-, hKept⟩ := Session.handle?_eq_some_iff.mp hFound
      by_cases hSame : handle.cache = relative.cache
      · have hCaches : kept = cache := by
          rw [hSame, hCache] at hKept
          exact (Option.some.inj hKept).symm
        subst hCaches
        refine Or.inr ⟨number, operation, handle, backed, rfl, hFound, hSame, hOn, ?_⟩
        refine Session.handle?_eq_some_iff.mpr ⟨hHandle, ?_⟩
        rw [← hSame] at hCache ⊢
        exact List.getElem?_set_self (List.getElem?_eq_some_iff.mp hCache).1
      · refine Or.inl ⟨Session.handle?_eq_some_iff.mpr ⟨hHandle, ?_⟩, ?_⟩
        · rw [← hCache]
          exact List.getElem?_set_ne hSame
        · rintro _ _ found _ ⟨⟩ hOther
          rw [hFound] at hOther
          cases hOther
          exact hSame

namespace Action

/--
The families of the handles that an action adds: an opened handle founds one under its own
number, and a clone belongs to that of the handle that it is cloned from.
-/
def joined (families : List Nat) : Action → Except Failure Answer → List Nat
  | .select _ _, .ok (.handle number) => [number]
  | .clone number, .ok (.handle _) => families[number]?.toList
  | _, _ => []

theorem joined_eq_nil
    (families : List Nat)
    (action : Action)
    {outcome : Except Failure Answer}
    (hOutcome : ∀ number, outcome ≠ .ok (.handle number)) :
    action.joined families outcome = [] := by
  rcases outcome with failure | answer
  · cases action <;> rfl
  · cases answer with
    | handle number => exact absurd rfl (hOutcome number)
    | _ => cases action <;> rfl

theorem joined_through
    (families : List Nat)
    (number : Nat)
    (operation : Operation)
    (outcome : Except Failure Answer) :
    (Action.through number operation).joined families outcome = [] := rfl

/-- The action has dropped the names of a cache. -/
def Drops : Action → Except Failure Answer → Prop
  | .through _ operation, outcome => operation.Drops outcome
  | _, _ => False

/-- The action reads no table through an open handle and has dropped no names. -/
def Quiet : Action → Except Failure Answer → Prop
  | .through _ operation, outcome => operation.Quiet outcome
  | _, _ => True

end Action

/-- A session together with the family of each of its handles. -/
structure Traced (τ : Type) where
  session : Session τ
  families : List Nat

namespace Traced

variable {τ : Type} {traced : Traced τ}

def new (link : τ) : Traced τ := ⟨.new link, []⟩

def perform (connection : Connection τ) (action : Action) : Attempt (Traced τ) Answer :=
  Attempt.ofFunction fun traced =>
    let (outcome, session) := (action.perform connection).on traced.session
    (outcome, ⟨session, traced.families ++ action.joined traced.families outcome⟩)

/-- The family and the cache of each handle. -/
def pairs (traced : Traced τ) : List (Nat × Nat) :=
  traced.families.zip (traced.session.handles.map Handle.cache)

/-- Handles are of one family exactly if they have one cache. -/
structure Sorted (traced : Traced τ) : Prop where
  counted : traced.families.length = traced.session.handles.length
  /-- Families go by the number of a handle, and caches exist. -/
  bounded : ∀ pair ∈ traced.pairs,
    pair.1 < traced.session.handles.length ∧ pair.2 < traced.session.caches.length
  matched : ∀ pair ∈ traced.pairs, ∀ other ∈ traced.pairs, pair.1 = other.1 ↔ pair.2 = other.2

theorem sorted_new (link : τ) : Sorted (.new link) where
  counted := rfl
  bounded _ hPair := nomatch hPair
  matched _ hPair := nomatch hPair

/-- Another handle keeps the families sorted if it shares its family and its cache, or neither. -/
theorem Sorted.add
    (hSorted : Sorted traced)
    {family : Nat}
    {handle : Handle}
    (link : τ)
    (caches : List Cache)
    (hFamily : family ≤ traced.session.handles.length)
    (hCache : handle.cache < (traced.session.caches ++ caches).length)
    (hMatched : ∀ pair ∈ traced.pairs, pair.1 = family ↔ pair.2 = handle.cache) :
    Sorted
      ⟨⟨link, traced.session.caches ++ caches, traced.session.handles ++ [handle]⟩,
        traced.families ++ [family]⟩ := by
  have hPairs :
      pairs ⟨⟨link, traced.session.caches ++ caches, traced.session.handles ++ [handle]⟩,
        traced.families ++ [family]⟩ = traced.pairs ++ [(family, handle.cache)] := by
    rw [pairs, List.map_append, List.zip_append (by rw [List.length_map, hSorted.counted])]
    rfl
  refine ⟨?_, ?_, ?_⟩
  · simp [hSorted.counted]
  · rw [hPairs]
    intro pair hPair
    rcases List.mem_append.mp hPair with hOld | hNew
    · obtain ⟨hFirst, hSecond⟩ := hSorted.bounded pair hOld
      simp only [List.length_append, List.length_singleton]
      omega
    · rw [List.mem_singleton.mp hNew]
      simp only [List.length_append, List.length_singleton] at hCache ⊢
      omega
  · rw [hPairs]
    intro pair hPair other hOther
    rcases List.mem_append.mp hPair with hOld | hNew
    · rcases List.mem_append.mp hOther with hKept | hLast
      · exact hSorted.matched pair hOld other hKept
      · rw [List.mem_singleton.mp hLast]
        exact hMatched pair hOld
    · rw [List.mem_singleton.mp hNew]
      rcases List.mem_append.mp hOther with hKept | hLast
      · rw [eq_comm, hMatched other hKept, eq_comm]
      · rw [List.mem_singleton.mp hLast]
        exact iff_of_true rfl rfl

/-- A handle of the session with its family. -/
theorem mem_pairs
    {number family : Nat}
    {handle : Handle}
    (hFamily : traced.families[number]? = some family)
    (hHandle : traced.session.handles[number]? = some handle) :
    (family, handle.cache) ∈ traced.pairs := by
  refine List.mem_iff_getElem?.mpr ⟨number, ?_⟩
  rw [pairs, List.getElem?_zip_eq_some, List.getElem?_map, hHandle]
  exact ⟨hFamily, rfl⟩

/-- Every handle has a family. -/
theorem Sorted.family
    (hSorted : Sorted traced)
    {number : Nat}
    {handle : Handle}
    (hHandle : traced.session.handles[number]? = some handle) :
    ∃ family, traced.families[number]? = some family := by
  have hLength := (List.getElem?_eq_some_iff.mp hHandle).1
  rw [← hSorted.counted] at hLength
  exact ⟨_, List.getElem?_eq_getElem hLength⟩

/-- Handles of one family have one cache, and other handles have another. -/
theorem Sorted.families_eq_iff
    (hSorted : Sorted traced)
    {number other : Nat}
    {handle relative : Handle}
    (hHandle : traced.session.handles[number]? = some handle)
    (hRelative : traced.session.handles[other]? = some relative) :
    traced.families[number]? = traced.families[other]? ↔ handle.cache = relative.cache := by
  obtain ⟨family, hFamily⟩ := hSorted.family hHandle
  obtain ⟨kin, hKin⟩ := hSorted.family hRelative
  rw [hFamily, hKin, Option.some.injEq]
  exact hSorted.matched _ (mem_pairs hFamily hHandle) _ (mem_pairs hKin hRelative)

/-- Every action keeps the families sorted. -/
theorem sorted_perform
    (connection : Connection τ)
    (action : Action)
    (hSorted : Sorted traced) :
    Sorted ((perform connection action).on traced).2 := by
  have hEffect := Action.effect connection action traced.session
  rw [perform, Attempt.on_ofFunction]
  dsimp only
  generalize (action.perform connection).on traced.session = result at hEffect ⊢
  obtain ⟨outcome, after⟩ := result
  cases hEffect with
  | idle link hOutcome _ =>
      rw [action.joined_eq_nil traced.families hOutcome, List.append_nil]
      exact ⟨hSorted.counted, hSorted.bounded, hSorted.matched⟩
  | opened graph options cache link =>
      refine hSorted.add link [cache] (Nat.le_refl _) (by simp) fun pair hPair => ?_
      obtain ⟨hFirst, hSecond⟩ := hSorted.bounded pair hPair
      dsimp only
      omega
  | @cloned number handle cache hOpen =>
      obtain ⟨hHandle, hCache⟩ := Session.handle?_eq_some_iff.mp hOpen
      obtain ⟨family, hFamily⟩ := hSorted.family hHandle
      have hMember := mem_pairs hFamily hHandle
      obtain ⟨hFirst, hSecond⟩ := hSorted.bounded _ hMember
      have hAdded := hSorted.add traced.session.link [] (Nat.le_of_lt hFirst)
        (by simpa using hSecond) fun pair hPair => hSorted.matched pair hPair _ hMember
      rw [List.append_nil] at hAdded
      rw [Action.joined, hFamily]
      exact hAdded
  | worked hOpen hOn =>
      rw [Action.joined_through, List.append_nil]
      refine ⟨hSorted.counted, fun pair hPair => ?_, hSorted.matched⟩
      rw [List.length_set]
      exact hSorted.bounded pair hPair

theorem sorted_after
    (connection : Connection τ)
    (actions : List Action)
    (hSorted : Sorted traced) :
    Sorted (Attempt.after (perform connection) actions traced) := by
  induction actions generalizing traced with
  | nil => exact hSorted
  | cons action rest ih => exact ih (sorted_perform connection action hSorted)

/-- Handles of one family see one and the same cache. -/
theorem Sorted.seen?_eq
    (hSorted : Sorted traced)
    {number other : Nat}
    (hNumber : number < traced.families.length)
    (hFamily : traced.families[other]? = traced.families[number]?) :
    ∃ cache, traced.session.seen? number = some cache ∧
      traced.session.seen? other = some cache := by
  have hOther : other < traced.families.length := by
    rw [List.getElem?_eq_getElem hNumber] at hFamily
    exact (List.getElem?_eq_some_iff.mp hFamily).1
  rw [hSorted.counted] at hNumber hOther
  have hHandle := List.getElem?_eq_getElem hNumber
  have hRelative := List.getElem?_eq_getElem hOther
  have hSame := (hSorted.families_eq_iff hRelative hHandle).mp hFamily
  obtain ⟨family, hFound⟩ := hSorted.family hHandle
  obtain ⟨-, hBound⟩ := hSorted.bounded _ (mem_pairs hFound hHandle)
  have hCache := List.getElem?_eq_getElem hBound
  refine ⟨_, Session.seen?_eq_some_iff.mpr ⟨_, Session.handle?_eq_some_iff.mpr ⟨hHandle, hCache⟩⟩,
    Session.seen?_eq_some_iff.mpr ⟨_, Session.handle?_eq_some_iff.mpr ⟨hRelative, ?_⟩⟩⟩
  rw [hSame]
  exact hCache

/-- What one action makes of the cache that a handle sees. -/
theorem Sorted.seen?_perform
    (hSorted : Sorted traced)
    (connection : Connection τ)
    (action : Action)
    {other : Nat}
    {cache : Cache}
    (hSeen : traced.session.seen? other = some cache) :
    let result := (perform connection action).on traced
    ∃ now, result.2.session.seen? other = some now ∧
      ((∀ number operation, action = .through number operation →
        traced.families[other]? ≠ traced.families[number]?) → now = cache) ∧
      (∀ number operation, action = .through number operation →
        traced.families[other]? = traced.families[number]? →
        operation.Drops result.1 → now.names = .empty) ∧
      (¬ action.Drops result.1 → cache.names ≤ now.names) ∧
      (action.Quiet result.1 → now = cache) := by
  obtain ⟨relative, hOpen⟩ := Session.seen?_eq_some_iff.mp hSeen
  obtain ⟨hRelative, -⟩ := Session.handle?_eq_some_iff.mp hOpen
  have hEffect := Action.effect connection action traced.session
  rw [perform, Attempt.on_ofFunction]
  dsimp only
  generalize (action.perform connection).on traced.session = result at hEffect ⊢
  obtain ⟨outcome, after⟩ := result
  rcases hEffect.handle?_cases hOpen with
    ⟨hStays, hApart⟩ | ⟨number, operation, handle, backed, rfl, hFound, hSame, hOn, hStays⟩
  · refine ⟨cache, Session.seen?_eq_some_iff.mpr ⟨relative, hStays⟩, fun _ => rfl, ?_,
      fun _ => Names.le_refl _, fun _ => rfl⟩
    intro number operation hThrough hFamily _
    -- A relative of the handle would be open too, and work with its cache is ruled out.
    exfalso
    obtain ⟨family, hKin⟩ := hSorted.family hRelative
    rw [hKin] at hFamily
    have hNumber := (List.getElem?_eq_some_iff.mp hFamily.symm).1
    rw [hSorted.counted] at hNumber
    have hHandle := List.getElem?_eq_getElem hNumber
    have hSame := (hSorted.families_eq_iff hHandle hRelative).mp (hFamily.symm.trans hKin.symm)
    obtain ⟨-, hCache⟩ := Session.handle?_eq_some_iff.mp hOpen
    exact hApart number operation _ cache hThrough
      (Session.handle?_eq_some_iff.mpr ⟨hHandle, hSame ▸ hCache⟩) hSame
  · obtain ⟨hHandle, -⟩ := Session.handle?_eq_some_iff.mp hFound
    have hFamily := (hSorted.families_eq_iff hRelative hHandle).mpr hSame.symm
    obtain rfl : ((operation.perform connection handle).on ⟨cache, traced.session.link⟩).1 =
        outcome := by rw [hOn]
    obtain rfl : ((operation.perform connection handle).on ⟨cache, traced.session.link⟩).2 =
        backed := by rw [hOn]
    refine ⟨_, Session.seen?_eq_some_iff.mpr ⟨relative, hStays⟩, ?_, ?_, ?_, ?_⟩
    · exact fun hApart => absurd hFamily (hApart number operation rfl)
    · rintro _ _ ⟨⟩ _ hDrops
      exact Operation.names_perform_drop connection handle hDrops
    · exact fun hKeeps => Operation.appends_perform connection handle hKeeps
    · exact fun hQuiet => Operation.cache_perform_quiet connection handle hQuiet

/--
**Families do not meet.**  Over a connection that answers and fails as it likes, make any
actions and then one more.  Handles of one family see one cache.  A handle that was open
is still open, and of the cache that it sees the following holds.

* It is as before unless the action works through a handle of its family.
* If such an action drops the names, by closing or by a deletion that the server grants,
  no name is left.
* Otherwise each list is the beginning of what it is now, whether the action fails or not.
* Plans, copies, listings of graphs and deletions that fail change neither the lists nor
  the counters.
-/
theorem isolated
    (connection : Connection τ)
    (link : τ)
    (before : List Action)
    (action : Action) :
    let reached := Attempt.after (perform connection) before (.new link)
    let result := (perform connection action).on reached
    (∀ number other, number < result.2.families.length →
      result.2.families[other]? = result.2.families[number]? →
      ∃ cache, result.2.session.seen? number = some cache ∧
        result.2.session.seen? other = some cache) ∧
    ∀ other cache, reached.session.seen? other = some cache →
      ∃ now, result.2.session.seen? other = some now ∧
        ((∀ number operation, action = .through number operation →
          reached.families[other]? ≠ reached.families[number]?) → now = cache) ∧
        (∀ number operation, action = .through number operation →
          reached.families[other]? = reached.families[number]? →
          operation.Drops result.1 → now.names = .empty) ∧
        (¬ action.Drops result.1 → cache.names ≤ now.names) ∧
        (action.Quiet result.1 → now = cache) := by
  intro reached result
  have hReached : Sorted reached := sorted_after connection before (sorted_new link)
  have hAfter : Sorted result.2 := sorted_perform connection action hReached
  exact ⟨fun _ _ hNumber hFamily => hAfter.seen?_eq hNumber hFamily,
    fun _ _ hSeen => hReached.seen?_perform connection action hSeen⟩

end Traced

end GraphClient
