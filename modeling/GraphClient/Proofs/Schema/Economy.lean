import GraphClient.Proofs.Schema.Transparency
import Mathlib.Data.List.Nodup

/-!
# Lists are fetched once

How often a server is asked for its lists while a reply is read, however many names the
reply holds.

**Supplies.**  A name that the cache does not know makes its whole list known, so the list
of a kind is fetched for the first such name and for none after it.  Work that leaves the
cache in this way *supplies* some kinds: each of them was fetched once, was too short
before and is whole now, and the other lists are as they were (`Backed.Supplies`).  A kind
that is whole cannot be supplied again, so one supply after another is a supply
(`Backed.Supplies.trans`).

**The last miss.**  The one fetch that supplies nothing is that for a name which does not
exist.  It ends the reading, so by induction on the reading it comes last
(`Backed.ended_run`).

**Results.**  `Backed.decode_calls` counts the calls of each procedure.
-/

namespace GraphClient

namespace Server

/-- The server after calls for the lists of some kinds. -/
def askAll (server : Server) (kinds : List Kind) : Server :=
  { server with asked := server.asked ++ kinds }

theorem askAll_nil (server : Server) : server.askAll [] = server := by
  rw [askAll, List.append_nil]

theorem askAll_askAll
    (server : Server)
    (kinds others : List Kind) :
    (server.askAll kinds).askAll others = server.askAll (kinds ++ others) := by
  simp only [askAll, List.append_assoc]

@[simp] theorem calls_askAll
    (server : Server)
    (kinds : List Kind)
    (kind : Kind) :
    (server.askAll kinds).calls kind = server.calls kind + kinds.count kind :=
  List.count_append

end Server

namespace Backed

/-- A refresh from a server asks for the list and appends the names beyond those known. -/
theorem on_refresh_source
    (kind : Kind)
    (backed : Backed Server) :
    (refresh (fetchFrom Server.source) kind).on backed =
      (.ok (), ⟨backed.cache.countRefresh.append kind
        ((backed.server.names.of kind).drop (backed.cache.known kind)),
        backed.server.ask kind⟩) := by
  simp only [on_refresh, fetchFrom, on_onServer, Server.on_source, Names.unseenNames_table]

/--
The lists of some kinds have been fetched, each once, because they were too short, and are
whole.  The others have not been fetched and are as they were.
-/
structure Supplies (before after : Backed Server) (kinds : List Kind) : Prop where
  server_eq : after.server = before.server.askAll kinds
  nodup : kinds.Nodup
  short : ∀ kind ∈ kinds, before.cache.known kind < (before.server.names.of kind).length
  whole : ∀ kind ∈ kinds, after.cache.names.of kind = before.server.names.of kind
  same : ∀ kind, kind ∉ kinds → after.cache.names.of kind = before.cache.names.of kind

namespace Supplies

variable {before middle after : Backed Server} {kinds others : List Kind}

theorem of_names_eq
    (hServer : after.server = before.server)
    (hNames : after.cache.names = before.cache.names) :
    Supplies before after [] where
  server_eq := hServer.trans before.server.askAll_nil.symm
  nodup := List.nodup_nil
  short := List.forall_mem_nil _
  whole := List.forall_mem_nil _
  same kind _ := congrArg (Names.of · kind) hNames

theorem names_eq (hSupplies : Supplies before after kinds) :
    after.server.names = before.server.names := by
  rw [hSupplies.server_eq]
  rfl

/-- A list that has been supplied is too short for nothing. -/
theorem disjoint
    (hFirst : Supplies before middle kinds)
    (hSecond : Supplies middle after others) :
    kinds.Disjoint others := by
  intro kind hKind hOther
  have hShort := hSecond.short kind hOther
  rw [Cache.known, hFirst.whole kind hKind, hFirst.names_eq] at hShort
  exact Nat.lt_irrefl _ hShort

theorem trans
    (hFirst : Supplies before middle kinds)
    (hSecond : Supplies middle after others) :
    Supplies before after (kinds ++ others) := by
  have hDisjoint := hFirst.disjoint hSecond
  have hUntouched : ∀ kind ∈ others, middle.cache.names.of kind = before.cache.names.of kind :=
    fun kind hOther => hFirst.same kind fun hKind => hDisjoint hKind hOther
  refine ⟨?_, hFirst.nodup.append hSecond.nodup hDisjoint, ?_, ?_, ?_⟩
  · rw [hSecond.server_eq, hFirst.server_eq, Server.askAll_askAll]
  · refine List.forall_mem_append.mpr ⟨hFirst.short, fun kind hOther => ?_⟩
    have hShort := hSecond.short kind hOther
    rwa [Cache.known, hUntouched kind hOther, hFirst.names_eq] at hShort
  · refine List.forall_mem_append.mpr ⟨fun kind hKind => ?_, fun kind hOther => ?_⟩
    · rw [hSecond.same kind fun hOther => hDisjoint hKind hOther]
      exact hFirst.whole kind hKind
    · rw [hSecond.whole kind hOther, hFirst.names_eq]
  · intro kind hKind
    rw [List.mem_append, not_or] at hKind
    rw [hSecond.same kind hKind.2, hFirst.same kind hKind.1]

/-- A list has grown exactly if it has been supplied. -/
theorem mem_iff
    (hSupplies : Supplies before after kinds)
    (kind : Kind) :
    kind ∈ kinds ↔ before.cache.known kind < after.cache.known kind := by
  constructor
  · intro hKind
    have hShort := hSupplies.short kind hKind
    rwa [← hSupplies.whole kind hKind] at hShort
  · intro hGrown
    by_contra hKind
    rw [Cache.known, Cache.known, hSupplies.same kind hKind] at hGrown
    exact Nat.lt_irrefl _ hGrown

theorem calls_of_mem
    (hSupplies : Supplies before after kinds)
    {kind : Kind}
    (hKind : kind ∈ kinds) :
    after.server.calls kind = before.server.calls kind + 1 := by
  rw [hSupplies.server_eq, Server.calls_askAll, List.count_eq_one_of_mem hSupplies.nodup hKind]

theorem calls_of_not_mem
    (hSupplies : Supplies before after kinds)
    {kind : Kind}
    (hKind : kind ∉ kinds) :
    after.server.calls kind = before.server.calls kind := by
  rw [hSupplies.server_eq, Server.calls_askAll, List.count_eq_zero_of_not_mem hKind,
    Nat.add_zero]

/-- No list is fetched twice. -/
theorem calls_cases
    (hSupplies : Supplies before after kinds)
    (kind : Kind) :
    after.server.calls kind = before.server.calls kind ∨
      after.server.calls kind = before.server.calls kind + 1 := by
  by_cases hKind : kind ∈ kinds
  · exact Or.inr (hSupplies.calls_of_mem hKind)
  · exact Or.inl (hSupplies.calls_of_not_mem hKind)

/-- Whole lists are not supplied. -/
theorem eq_nil_of_whole
    (hSupplies : Supplies before after kinds)
    (hWhole : before.cache.names = before.server.names) :
    kinds = [] := by
  refine List.eq_nil_iff_forall_not_mem.mpr fun kind hKind => ?_
  have hShort := hSupplies.short kind hKind
  rw [Cache.known, hWhole] at hShort
  exact Nat.lt_irrefl _ hShort

end Supplies

/--
How work on a reply has ended: some lists have been supplied, and if a name does not exist,
one more fetch has shown it.
-/
inductive Ended {α : Type} (before : Backed Server) : Except Failure α → Backed Server → Prop
  | supplied {outcome : Except Failure α} {after : Backed Server} {kinds : List Kind} :
      Supplies before after kinds →
      (∀ kind index known, outcome ≠ .error (.unresolved kind index known)) →
      Ended before outcome after
  | missed {middle after : Backed Server} {kinds : List Kind} {kind : Kind} {index known : Nat} :
      Supplies before middle kinds →
      after.server = middle.server.askAll [kind] →
      Ended before (.error (.unresolved kind index known)) after

section Readings

variable {α : Type} {before backed : Backed Server}

theorem Ended.untouched
    {outcome : Except Failure α}
    (hOutcome : ∀ kind index known, outcome ≠ .error (.unresolved kind index known)) :
    Ended backed outcome backed :=
  .supplied (.of_names_eq rfl rfl) hOutcome

theorem Ended.of_supplies
    {middle after : Backed Server}
    {kinds : List Kind}
    {outcome : Except Failure α}
    (hSupplies : Supplies before middle kinds)
    (hEnded : Ended middle outcome after) :
    Ended before outcome after := by
  cases hEnded with
  | supplied hLater hOutcome => exact .supplied (hSupplies.trans hLater) hOutcome
  | missed hLater hServer => exact .missed (hSupplies.trans hLater) hServer

/-- A name asked for is known, or its list is fetched and holds it, or it does not exist. -/
theorem resolve_source_cases
    (hKnown : Known Server.names backed)
    (kind : Kind)
    (index : Nat) :
    (∃ name after kinds,
      (resolve (fetchFrom Server.source) kind index).on backed = (.ok name, after) ∧
      Supplies backed after kinds) ∨
    (∃ known after,
      (resolve (fetchFrom Server.source) kind index).on backed =
        (.error (.unresolved kind index known), after) ∧
      after.server = backed.server.askAll [kind]) := by
  cases hName : (backed.cache.names.of kind)[index]? with
  | some name =>
      rw [on_resolve_hit _ backed hName]
      exact Or.inl ⟨name, _, [], rfl, .of_names_eq rfl rfl⟩
  | none =>
      have hLists := Names.of_append_drop hKnown kind
      rw [on_resolve_miss _ backed hName, on_refresh_source]
      generalize hRefreshed : (backed.cache.countCall.countRefresh.append kind _) = refreshed
      have hOf : ∀ other, refreshed.names.of other =
          if other = kind then backed.server.names.of kind else backed.cache.names.of other := by
        intro other
        rw [← hRefreshed]
        exact hLists other
      simp only [Lookup.nameIn]
      cases hFound : (refreshed.names.of kind)[index]? with
      | none => exact Or.inr ⟨_, _, rfl, rfl⟩
      | some name =>
          refine Or.inl ⟨name, _, [kind], rfl, rfl, List.nodup_singleton kind, ?_, ?_, ?_⟩
          · rw [hOf kind, if_pos rfl] at hFound
            have hIndex := (List.getElem?_eq_some_iff.mp hFound).1
            have hMissing := List.getElem?_eq_none_iff.mp hName
            exact List.forall_mem_singleton.mpr (Nat.lt_of_le_of_lt hMissing hIndex)
          · exact List.forall_mem_singleton.mpr ((hOf kind).trans (if_pos rfl))
          · intro other hOther
            exact (hOf other).trans (if_neg (List.mem_singleton.not.mp hOther))

/-- By induction on the reading: the names before the last one asked for were supplied. -/
theorem ended_run
    (reading : Lookup α)
    (hKnown : Known Server.names backed) :
    Ended backed ((reading.run (resolve (fetchFrom Server.source))).on backed).1
      ((reading.run (resolve (fetchFrom Server.source))).on backed).2 := by
  induction reading generalizing backed with
  | done value => exact .untouched fun _ _ _ => nofun
  | fail reason => exact .untouched fun _ _ _ => nofun
  | need kind index next ih =>
      have hFilled := (resolve_honest Server.complete_source.toHonest hKnown kind index).1
      rw [Lookup.run, Attempt.on_bind]
      rcases resolve_source_cases hKnown kind index with
        ⟨name, middle, kinds, hOn, hSupplies⟩ | ⟨known, after, hOn, hServer⟩
      · rw [hOn] at hFilled ⊢
        exact (ih name (hFilled.known hKnown)).of_supplies hSupplies
      · rw [hOn]
        exact .missed (.of_names_eq rfl rfl) hServer

theorem ended_decode
    (reply : Reply)
    (hKnown : Known Server.names backed) :
    Ended backed ((decode (fetchFrom Server.source) reply).on backed).1
      ((decode (fetchFrom Server.source) reply).on backed).2 := by
  unfold decode Table.decode
  cases reply.serverError? with
  | some message => exact .untouched fun _ _ _ => nofun
  | none => exact ended_run _ hKnown

end Readings

/--
**Lists are fetched once.**  Read a reply of any size through a cache that holds the
beginnings of the lists of a server.  If this yields a table, the procedure of each kind has
been called once if the list of the kind has grown, and else not at all; with the whole
lists in the cache the server has not been asked for any.  If a name does not exist, the
procedure of its kind has been called once or twice, and after any other failure once at
most, as the procedures of the other kinds have been in either case.
-/
theorem decode_calls
    (server : Server)
    (cache : Cache)
    (reply : Reply)
    (hKnown : cache.names ≤ server.names) :
    let result := (decode (fetchFrom Server.source) reply).on ⟨cache, server⟩
    let called := result.2.server.calls
    (∀ table, result.1 = .ok table →
      (∀ kind, cache.known kind < result.2.cache.known kind →
        called kind = server.calls kind + 1) ∧
      (∀ kind, ¬ cache.known kind < result.2.cache.known kind →
        called kind = server.calls kind) ∧
      (cache.names = server.names → result.2.server = server)) ∧
    (∀ kind index known, result.1 = .error (.unresolved kind index known) →
      (called kind = server.calls kind + 1 ∨ called kind = server.calls kind + 2) ∧
      ∀ other, other ≠ kind →
        called other = server.calls other ∨ called other = server.calls other + 1) ∧
    (∀ failure, result.1 = .error failure →
      (∀ kind index known, failure ≠ .unresolved kind index known) →
      ∀ kind, called kind = server.calls kind ∨ called kind = server.calls kind + 1) := by
  intro result called
  have hEnded : Ended ⟨cache, server⟩ result.1 result.2 := ended_decode reply hKnown
  generalize hOutcome : result.1 = outcome at hEnded ⊢
  cases hEnded with
  | supplied hSupplies hResolved =>
      refine ⟨fun table _ => ⟨fun kind hGrown => ?_, fun kind hSame => ?_, fun hWhole => ?_⟩,
        fun kind index known hMissing => absurd hMissing (hResolved kind index known),
        fun _ _ _ => hSupplies.calls_cases⟩
      · exact hSupplies.calls_of_mem ((hSupplies.mem_iff kind).mpr hGrown)
      · exact hSupplies.calls_of_not_mem (hSame ∘ (hSupplies.mem_iff kind).mp)
      · have hNone := hSupplies.eq_nil_of_whole hWhole
        rw [hSupplies.server_eq, hNone, Server.askAll_nil]
  | @missed middle _ _ missing _ _ hSupplies hServer =>
      have hCalled : ∀ kind, called kind = middle.server.calls kind + [missing].count kind := by
        intro kind
        rw [← Server.calls_askAll, ← hServer]
      refine ⟨fun table hOk => (by cases hOk), ?_, ?_⟩
      · rintro kind index known ⟨⟩
        refine ⟨?_, fun other hOther => ?_⟩
        · rw [hCalled, List.count_singleton_self]
          exact (hSupplies.calls_cases missing).imp (congrArg (· + 1)) (congrArg (· + 1))
        · rw [hCalled, List.count_eq_zero_of_not_mem (List.mem_singleton.not.mpr hOther)]
          exact hSupplies.calls_cases other
      · rintro failure ⟨⟩ hResolved
        exact absurd rfl (hResolved _ _ _)

/-- The list of labels and that of property keys are fetched for the one node of the sample. -/
theorem decode_calls_sample :
    let result := (decode (fetchFrom Server.source) Sample.reply).on ⟨Sample.cache, Sample.server⟩
    Sample.cache.names ≤ Sample.server.names ∧
      result.2.server.calls .label = 1 ∧
      result.2.server.calls .relationshipType = 0 ∧
      result.2.server.calls .propertyKey = 1 := by
  intro result
  have hKnown : Sample.cache.names ≤ Sample.server.names := by decide
  obtain ⟨hTable, -, -⟩ := decode_calls Sample.server Sample.cache Sample.reply hKnown
  obtain ⟨hGrown, hSame, -⟩ := hTable Sample.table rfl
  exact ⟨hKnown, hGrown .label (by decide), hSame .relationshipType (by decide),
    hGrown .propertyKey (by decide)⟩

end Backed

end GraphClient
