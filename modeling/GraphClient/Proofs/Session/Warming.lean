import GraphClient.Proofs.Schema.AppendOnly
import GraphClient.Proofs.Schema.Fetches
import GraphClient.Proofs.Schema.NameRows
import GraphClient.Proofs.Session.Lists
import GraphClient.Session.Basic
import Mathlib.Logic.Function.Basic

/-!
# Warming a cache

Warming fetches the three lists one after the other, from whoever answers and with whatever names
are known already.

**One list.**  A refresh makes one fetch.  If the fetch fails or a new row of its answer has no
name, the refresh fails with just that and no list changes (`Spoils`); otherwise the list goes on
with the names of the new rows (`Table.Adds`).

**One list after the other.**  `Warming` says what comes of several kinds: the lists of those before
the first that fails are completed from their answers, that list and the others stay as they were,
and nothing is fetched behind it.  By induction on the kinds, each of which is there once, a refresh
of all of them takes such a course (`Backed.warming_refreshAll`).

**Again.**  A list that has been completed from an answer is at least as long as the answer.  So
the same answers add nothing to it (`Warming.again`), and an index within the answer is known.

**Results.**  `Backed.warm_ordered` puts this together for the three lists.  A graph that is opened
with all lists fetched first is opened exactly if its own cache can be warmed through itself.
-/

namespace GraphClient

section Quiet

variable {σ : Type}

/-- The fetch leaves the cache alone, whatever comes of it. -/
def Fetch.Quiet (fetch : Fetch σ) : Prop :=
  ∀ kind backed, ((fetch kind).on backed).2.cache = backed.cache

theorem Fetch.quiet_fetchFrom (source : Source σ) : Fetch.Quiet (Backed.fetchFrom source) :=
  fun _ _ => rfl

end Quiet

/-- The longer list is the shorter, followed by the names of the rows of the table behind it. -/
def Table.Adds (table : Table) (names grown : List String) : Prop :=
  ∃ tail, List.Forall₂ Record.NamedBy (table.records.drop names.length) tail ∧
    grown = names ++ tail

namespace Table

variable {table : Table} {names grown : List String}

theorem Adds.length_le (hAdds : table.Adds names grown) : table.records.length ≤ grown.length := by
  obtain ⟨tail, hRows, rfl⟩ := hAdds
  have hLength := hRows.length_eq
  rw [List.length_drop] at hLength
  rw [List.length_append]
  omega

/-- A table that is no longer than the list adds nothing. -/
theorem Adds.eq_of_length_le
    (hAdds : table.Adds names grown)
    (hLength : table.records.length ≤ names.length) :
    grown = names := by
  obtain ⟨tail, hRows, rfl⟩ := hAdds
  rw [List.drop_eq_nil_of_le hLength] at hRows
  cases hRows
  exact List.append_nil names

end Table

/-- A list of that many names cannot be completed from the outcome of its fetch. -/
inductive Spoils (known : Nat) : Except Failure Table → Failure → Prop
  | refused (failure : Failure) : Spoils known (.error failure) failure
  | nameless {table : Table} {record : Record} :
      record ∈ table.records.drop known →
      ¬ record.Named →
      Spoils known (.ok table) Backed.namelessRow

/-- The lists of some kinds are completed from their answers, and the others are as they were. -/
structure Names.Grown
    (kinds : List Kind) (answers : Kind → Table) (before after : Names) : Prop where
  taken : ∀ kind ∈ kinds, (answers kind).Adds (before.of kind) (after.of kind)
  untouched : ∀ kind ∉ kinds, after.of kind = before.of kind

/-- Fetches of the lists of some kinds in order, each with its answer. -/
def answeredFetches
    (answers : Kind → Table)
    (kinds : List Kind) :
    List (Kind × Except Failure Table) :=
  kinds.map fun kind => (kind, .ok (answers kind))

/--
What comes of fetching the lists of some kinds in order, told from the lists before and the
fetches that were made: the outcome and the lists after.
-/
inductive Warming
    (kinds : List Kind) (before : Names) (fetches : List (Kind × Except Failure Table)) :
    Except Failure Unit → Names → Prop
  | complete {answers : Kind → Table} {after : Names} :
      fetches = answeredFetches answers kinds →
      before.Grown kinds answers after →
      Warming kinds before fetches (.ok ()) after
  /-- The first list that cannot be completed is the last that was fetched. -/
  | stopped {front rest : List Kind} {kind : Kind} {answers : Kind → Table}
      {outcome : Except Failure Table} {failure : Failure} {after : Names} :
      kinds = front ++ kind :: rest →
      fetches = answeredFetches answers front ++ [(kind, outcome)] →
      before.Grown front answers after →
      Spoils (before.of kind).length outcome failure →
      Warming kinds before fetches (.error failure) after

section Kinds

variable {kinds : List Kind} {kind : Kind} {before after : Names} {answers : Kind → Table}
variable {table : Table} {tail : List String} {fetches : List (Kind × Except Failure Table)}
variable {outcome : Except Failure Unit}

theorem answeredFetches_update (hKind : kind ∉ kinds) :
    answeredFetches (Function.update answers kind table) (kind :: kinds) =
      (kind, .ok table) :: answeredFetches answers kinds := by
  rw [answeredFetches, List.map_cons, Function.update_self]
  refine congrArg _ (List.map_congr_left fun other hOther => ?_)
  have hOther : other ≠ kind := fun hSame => hKind (hSame ▸ hOther)
  rw [Function.update_of_ne hOther]

theorem Names.grown_nil (names : Names) :
    names.Grown [] (fun _ => .ofStatistics .empty) names :=
  ⟨fun _ hKind => absurd hKind List.not_mem_nil, fun _ _ => rfl⟩

/-- A list is completed first and then the lists of other kinds. -/
theorem Names.Grown.cons
    (hKind : kind ∉ kinds)
    (hTail : List.Forall₂ Record.NamedBy (table.records.drop (before.of kind).length) tail)
    (hRest : (before.append kind tail).Grown kinds answers after) :
    before.Grown (kind :: kinds) (Function.update answers kind table) after := by
  constructor
  · rintro other (_ | ⟨_, hOther⟩)
    · rw [Function.update_self, hRest.untouched kind hKind, Names.of_append, if_pos rfl]
      exact ⟨tail, hTail, rfl⟩
    · have hNe : other ≠ kind := fun hSame => hKind (hSame ▸ hOther)
      have hTaken := hRest.taken other hOther
      rw [Names.of_append, if_neg hNe] at hTaken
      rwa [Function.update_of_ne hNe]
  · intro other hOther
    obtain ⟨hNe, hOther⟩ := not_or.mp (mt List.mem_cons.mpr hOther)
    rw [hRest.untouched other hOther, Names.of_append, if_neg hNe]

theorem Warming.cons
    (hKind : kind ∉ kinds)
    (hTail : List.Forall₂ Record.NamedBy (table.records.drop (before.of kind).length) tail)
    (hRest : Warming kinds (before.append kind tail) fetches outcome after) :
    Warming (kind :: kinds) before ((kind, .ok table) :: fetches) outcome after := by
  cases hRest with
  | complete hFetches hGrown =>
      exact .complete (by rw [hFetches, answeredFetches_update hKind]) (hGrown.cons hKind hTail)
  | @stopped front rest last answers failed failure after hKinds hFetches hGrown hSpoils =>
      have hFront : kind ∉ front := fun hMem => hKind (hKinds ▸ List.mem_append_left _ hMem)
      have hLast : last ≠ kind := by
        rintro rfl
        exact hKind (hKinds ▸ List.mem_append_right _ List.mem_cons_self)
      rw [Names.of_append, if_neg hLast] at hSpoils
      refine .stopped (congrArg (kind :: ·) hKinds) ?_ (hGrown.cons hFront hTail) hSpoils
      rw [hFetches, answeredFetches_update hFront]
      rfl

/-- A list that was completed is as long as its answer, or longer. -/
theorem Warming.length_le
    (hWarming : Warming kinds before fetches (.ok ()) after)
    (hFetches : fetches = answeredFetches answers kinds)
    (hKind : kind ∈ kinds) :
    (answers kind).records.length ≤ (after.of kind).length := by
  cases hWarming with
  | @complete given _ hGiven hGrown =>
      have hPairs := List.map_inj_left.mp (hGiven.symm.trans hFetches) kind hKind
      have hAnswer : given kind = answers kind := Except.ok.inj (Prod.mk.inj hPairs).2
      exact hAnswer ▸ (hGrown.taken kind hKind).length_le

/-- Lists that are as long as the answers are not changed by them. -/
theorem Warming.again
    (hWarming : Warming kinds before fetches outcome after)
    (hLengths : ∀ kind ∈ kinds, (answers kind).records.length ≤ (before.of kind).length)
    (hAnswers : ∀ fetch ∈ fetches, fetch.2 = .ok (answers fetch.1)) :
    outcome = .ok () ∧ after = before := by
  cases hWarming with
  | @complete given after hFetches hGrown =>
      refine ⟨rfl, Names.ext_of fun kind => ?_⟩
      by_cases hKind : kind ∈ kinds
      · have hGiven : (Except.ok (given kind) : Except Failure Table) = .ok (answers kind) := by
          refine hAnswers (kind, .ok (given kind)) ?_
          rw [hFetches, answeredFetches]
          exact List.mem_map.mpr ⟨kind, hKind, rfl⟩
        have hAdds := hGrown.taken kind hKind
        rw [Except.ok.inj hGiven] at hAdds
        exact hAdds.eq_of_length_le (hLengths kind hKind)
      · exact hGrown.untouched kind hKind
  | @stopped front rest kind given last failure after hKinds hFetches hGrown hSpoils =>
      have hLast : last = .ok (answers kind) := by
        refine hAnswers (kind, last) ?_
        rw [hFetches]
        exact List.mem_append_right _ List.mem_cons_self
      have hLength : (answers kind).records.length ≤ (before.of kind).length :=
        hLengths kind (hKinds ▸ List.mem_append_right _ List.mem_cons_self)
      rw [hLast] at hSpoils
      cases hSpoils with
      | nameless hRow _ =>
          rw [List.drop_eq_nil_of_le hLength] at hRow
          cases hRow

end Kinds

namespace Backed

variable {σ : Type} {fetch : Fetch σ}

/-- A refresh makes one fetch, and what comes of that decides. -/
theorem refresh_recorded_cases
    (hQuiet : fetch.Quiet)
    (kind : Kind)
    (backed : Backed (Recorded σ)) :
    ∃ outcome after,
      after.server.fetches = backed.server.fetches ++ [(kind, outcome)] ∧
      ((∃ table tail, outcome = .ok table ∧
        List.Forall₂ Record.NamedBy (table.records.drop (backed.cache.known kind)) tail ∧
        (refresh fetch.recorded kind).on backed = (.ok (), after) ∧
        after.cache.names = backed.cache.names.append kind tail) ∨
      ∃ failure, Spoils (backed.cache.known kind) outcome failure ∧
        (refresh fetch.recorded kind).on backed = (.error failure, after) ∧
        after.cache.names = backed.cache.names) := by
  have hCache := hQuiet kind (backed.mapServer Recorded.server)
  rcases hOn : (fetch kind).on (backed.mapServer Recorded.server) with ⟨outcome, fetched⟩
  rw [hOn] at hCache
  have hFetch : (fetch.recorded kind).on backed = (outcome,
      ⟨backed.cache, ⟨fetched.server, backed.server.fetches ++ [(kind, outcome)]⟩⟩) := by
    rw [Fetch.recorded, Attempt.on_ofFunction, hOn]
    exact congrArg (fun cache => (outcome, Backed.mk cache _)) hCache
  rw [on_refresh, hFetch]
  cases outcome with
  | error failure =>
      exact ⟨.error failure, _, rfl, Or.inr ⟨failure, .refused failure, rfl, rfl⟩⟩
  | ok table =>
      dsimp only
      rcases unseenNames_cases (backed.cache.known kind) table with
        ⟨tail, hRead, hRows⟩ | ⟨hRead, record, hRecord, hNamed⟩
      · rw [hRead]
        exact ⟨.ok table, _, rfl, Or.inl ⟨table, tail, rfl, hRows, rfl, rfl⟩⟩
      · rw [hRead]
        exact ⟨.ok table, _, rfl, Or.inr ⟨namelessRow, .nameless hRecord hNamed, rfl, rfl⟩⟩

/-- By induction on the kinds: a list is completed, and the others go on from there. -/
theorem warming_refreshAll
    (hQuiet : fetch.Quiet)
    {kinds : List Kind}
    (hKinds : kinds.Nodup)
    (backed : Backed (Recorded σ)) :
    let result := (refreshAll fetch.recorded kinds).on backed
    ∃ fetches, result.2.server.fetches = backed.server.fetches ++ fetches ∧
      Warming kinds backed.cache.names fetches result.1 result.2.cache.names := by
  induction kinds generalizing backed with
  | nil =>
      refine ⟨[], (List.append_nil _).symm, ?_⟩
      exact .complete rfl (Names.grown_nil backed.cache.names)
  | cons kind rest ih =>
      obtain ⟨hKind, hRest⟩ := List.nodup_cons.mp hKinds
      obtain ⟨outcome, after, hFetches, ⟨table, tail, rfl, hRows, hOn, hNames⟩ |
        ⟨failure, hSpoils, hOn, hNames⟩⟩ := refresh_recorded_cases hQuiet kind backed
      · obtain ⟨fetches, hLater, hWarming⟩ := ih hRest after
        rw [refreshAll, Attempt.on_bind, hOn]
        refine ⟨(kind, .ok table) :: fetches, ?_, ?_⟩
        · rw [hLater, hFetches, List.append_assoc]
          rfl
        · rw [hNames] at hWarming
          exact hWarming.cons hKind hRows
      · rw [refreshAll, Attempt.on_bind, hOn]
        refine ⟨[(kind, outcome)], hFetches, ?_⟩
        rw [hNames]
        have hFront : kind :: rest = [] ++ kind :: rest := rfl
        exact .stopped hFront rfl (Names.grown_nil backed.cache.names) hSpoils

/-- The fetches that are made while a cache is warmed, in order, each with its outcome. -/
def warmFetches (fetch : Fetch σ) (backed : Backed σ) : List (Kind × Except Failure Table) :=
  ((warm fetch.recorded).on backed.unrecorded).2.server.fetches

theorem warming_warm (hQuiet : fetch.Quiet) (backed : Backed σ) :
    let result := (warm fetch).on backed
    Warming Kind.all backed.cache.names (warmFetches fetch backed) result.1
      result.2.cache.names := by
  intro result
  have hShown : (_, _) = result := shows_refreshAll
    (fun kind => shows_refresh (fetch.shows_recorded kind)) Kind.all backed.unrecorded
  obtain ⟨fetches, hFetches, hWarming⟩ :=
    warming_refreshAll hQuiet (by decide : Kind.all.Nodup) backed.unrecorded
  rw [← hShown, warmFetches, warm, hFetches]
  exact hWarming

/-- A name that is known is a hit from then on, as long as no names are dropped. -/
theorem on_resolve_later
    {kind : Kind}
    {index : Nat}
    {backed : Backed σ}
    (hIndex : index < (backed.cache.names.of kind).length)
    {between : List (SourcedRequest σ)}
    (hKeep : ∀ step ∈ between, step.request ≠ .clear) :
    let later := Attempt.after SourcedRequest.perform between backed
    ∃ name, (backed.cache.names.of kind)[index]? = some name ∧
      ∀ fetch : Fetch σ,
        let asked := (resolve fetch kind index).on later
        asked.1 = .ok name ∧ Hit later asked.2 := by
  intro later
  have hName := List.getElem?_eq_getElem hIndex
  have hLater := SourcedRequest.names_le_after between hKeep backed
  exact ⟨_, hName, fun fetch => hit_resolve fetch (Names.getElem?_of_le hLater hName)⟩

end Backed

/-- A graph is opened unless the lists are to be fetched first and one cannot be had. -/
theorem Session.select_eq_error_iff
    {τ : Type}
    (connection : Connection τ)
    (session : Session τ)
    (graph : String)
    {options : Options}
    (hWarm : options.warmOnOpen = true)
    (failure : Failure) :
    let handle : Handle := ⟨graph, options, session.caches.length⟩
    ((select connection graph options).on session).1 = .error failure ↔
      ((Backed.warm (handle.fetch connection Kind.all)).on ⟨.new graph, session.link⟩).1 =
        .error failure := by
  intro handle
  rw [select, Attempt.on_ofFunction]
  dsimp only
  rw [Handle.opening, if_pos hWarm]
  rcases (Backed.warm (handle.fetch connection Kind.all)).on ⟨.new graph, session.link⟩ with
    ⟨refused | done, after⟩
  · change Except.error refused = Except.error failure ↔ Except.error refused = Except.error failure
    rw [Except.error.injEq, Except.error.injEq]
  · exact iff_of_false nofun nofun

/--
**Warming is ordered and can be done again.**  Warm any cache through a fetch that leaves the cache
alone.  The lists of labels, of relationship types and of property keys are fetched in this order,
each once at most and none behind the first that fails or has a new row without a name.  The lists
before that one are completed by the new rows of their answers, that one and those behind it stay
as they were, and the failure is that of its fetch or of its row.

Once warming has succeeded, warming with the same answers succeeds and changes no list, and every
index within an answer is a hit, whatever is done with the cache in between, until names are
dropped: its name is yielded, a call and a hit are counted, and neither the lists nor the server
change.

A graph whose options say so is opened by warming its cache through itself, over any connection.
Opening fails exactly if this fails, and with the same failure.
-/
theorem Backed.warm_ordered :
    (∀ (σ : Type) (fetch : Fetch σ) (backed : Backed σ), fetch.Quiet →
      let warmed := (warm fetch).on backed
      let fetches := warmFetches fetch backed
      Warming Kind.all backed.cache.names fetches warmed.1 warmed.2.cache.names ∧
      ∀ answers, warmed.1 = .ok () → fetches = answeredFetches answers Kind.all →
        (∀ (again : Fetch σ) (server : σ), again.Quiet →
          (∀ made ∈ warmFetches again ⟨warmed.2.cache, server⟩, made.2 = .ok (answers made.1)) →
          let second := (warm again).on ⟨warmed.2.cache, server⟩
          second.1 = .ok () ∧ second.2.cache.names = warmed.2.cache.names) ∧
        ∀ between : List (SourcedRequest σ), (∀ step ∈ between, step.request ≠ .clear) →
          let later := Attempt.after SourcedRequest.perform between warmed.2
          ∀ kind index, index < (answers kind).records.length →
            ∃ name, (warmed.2.cache.names.of kind)[index]? = some name ∧
              ∀ fetch : Fetch σ,
                let asked := (resolve fetch kind index).on later
                asked.1 = .ok name ∧ Hit later asked.2) ∧
    ∀ (τ : Type) (connection : Connection τ) (session : Session τ) (graph : String)
        (options : Options), options.warmOnOpen = true →
      let handle : Handle := ⟨graph, options, session.caches.length⟩
      ∀ failure, ((Session.select connection graph options).on session).1 = .error failure ↔
        ((warm (handle.fetch connection Kind.all)).on ⟨.new graph, session.link⟩).1 =
          .error failure := by
  refine ⟨fun σ fetch backed hQuiet => ?_, fun τ connection session graph options hWarm =>
    Session.select_eq_error_iff connection session graph hWarm⟩
  intro warmed fetches
  have hWarming : Warming Kind.all backed.cache.names fetches warmed.1 warmed.2.cache.names :=
    warming_warm hQuiet backed
  refine ⟨hWarming, fun answers hOk hFetches => ?_⟩
  rw [hOk] at hWarming
  have hLengths : ∀ kind ∈ Kind.all,
      (answers kind).records.length ≤ (warmed.2.cache.names.of kind).length :=
    fun kind hKind => hWarming.length_le hFetches hKind
  constructor
  · intro again server hAgain hAnswers
    exact (warming_warm hAgain ⟨warmed.2.cache, server⟩).again hLengths hAnswers
  · intro between hKeep later kind index hIndex
    exact on_resolve_later (Nat.lt_of_lt_of_le hIndex (hLengths kind kind.mem_all)) hKeep

namespace Sample

/--
Three answers, the second shorter than the list that is known and the third empty, then two
failures and one more answer.
-/
def supply : List (Except Failure Table) :=
  [.ok (listed [.string "City", .string "Person"]), .ok (listed [.string "KNOWS"]),
   .ok (listed []), .error (.transport "reset"), .error (.transport "reset"),
   .ok (listed [.string "Lake"])]

def supplied : Kind → Table
  | .label => listed [.string "City", .string "Person"]
  | .relationshipType => listed [.string "KNOWS"]
  | .propertyKey => listed []

def stocked : Cache :=
  { Cache.new "social" with names := ⟨["City"], ["KNOWS", "LIKES"], ["name"]⟩ }

/-- A cache that is warmed from the three answers. -/
def warmed : Except Failure Unit × Backed (List (Except Failure Table)) :=
  (Backed.warm (Backed.fetchFrom outcomes)).on ⟨stocked, supply⟩

/-- Two warmings in vain. -/
def vain : List (SourcedRequest (List (Except Failure Table))) :=
  [⟨outcomes, .warm⟩, ⟨outcomes, .warm⟩]

/-- The second label is asked for after them. -/
def hit : Except Failure String × Backed (List (Except Failure Table)) :=
  (Backed.resolve (Backed.fetchFrom outcomes) .label 1).on
    (Attempt.after SourcedRequest.perform vain warmed.2)

end Sample

/--
The sample is warmed; the same answers change nothing; its second label is a hit after two
warmings in vain, the first name that is asked for at all, and the answer that is left stays
where it is.  A graph cannot be opened so over a connection without replies.
-/
theorem Backed.warm_ordered_sample :
    Fetch.Quiet (fetchFrom Sample.outcomes) ∧
    Sample.warmed.1 = .ok () ∧
    Sample.warmed.2.cache.names = ⟨["City", "Person"], ["KNOWS", "LIKES"], ["name"]⟩ ∧
    Sample.warmed.2.cache.metrics = { calls := 0, hits := 0, refreshes := 3, clears := 0 } ∧
    ((warm (fetchFrom Sample.outcomes)).on ⟨Sample.warmed.2.cache, Sample.supply⟩).2.cache.names =
      Sample.warmed.2.cache.names ∧
    Sample.hit.1 = .ok "Person" ∧
    Sample.hit.2.cache.metrics = { calls := 1, hits := 1, refreshes := 3, clears := 0 } ∧
    Sample.hit.2.cache.names = ⟨["City", "Person"], ["KNOWS", "LIKES"], ["name"]⟩ ∧
    Sample.hit.2.server = [.ok (Sample.listed [.string "Lake"])] ∧
    ((Session.select Script.replay "social" (.service 5)).on (.new (.ofNames .empty))).1 =
      .error (.transport "queue empty") := by
  have hQuiet := Fetch.quiet_fetchFrom Sample.outcomes
  obtain ⟨hWarm, hOpen⟩ := warm_ordered
  obtain ⟨-, hThen⟩ := hWarm _ (fetchFrom Sample.outcomes) ⟨Sample.stocked, Sample.supply⟩ hQuiet
  obtain ⟨hAgain, hLater⟩ := hThen Sample.supplied rfl rfl
  obtain ⟨name, hKnown, hAsked⟩ := hLater Sample.vain (by simp [Sample.vain]) .label 1 (by decide)
  cases hKnown
  obtain ⟨hName, hHit⟩ := hAsked (fetchFrom Sample.outcomes)
  refine ⟨hQuiet, rfl, rfl, rfl, ?_, hName, hHit.metrics, hHit.names, hHit.server, ?_⟩
  · refine (hAgain (fetchFrom Sample.outcomes) Sample.supply hQuiet ?_).2
    rintro made (_ | ⟨_, _ | ⟨_, _ | ⟨_, ⟨⟩⟩⟩⟩) <;> rfl
  · exact (hOpen Script Script.replay (.new (.ofNames .empty)) "social" (.service 5) rfl
      (.transport "queue empty")).mpr (by decide +kernel)

end GraphClient
