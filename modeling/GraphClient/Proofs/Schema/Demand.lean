import GraphClient.Proofs.Schema.Transparency
import GraphClient.Proofs.Traversal

/-!
# What a reading asks for

Which names a reading asks for does not depend on who answers, as long as the answers are those
of the complete lists.  They are read off these lists together with the reading itself
(`Lookup.demand`).

**Parts.**  A sequence asks for what its parts ask for (`demand_bind_ok`), and a list of items
that are read one after the other for what each of them asks for (`demand_mapM_ok`).

**Results.**  A cache that holds the beginnings of the lists ends with a whole list exactly where
the reading has asked for a name that the cache did not know (`Backed.of_run_of_lacks`,
`Backed.of_run_of_not_lacks`).  So two readings that ask for the same names leave the same lists,
in whatever order they ask (`Backed.names_run_eq`).

`Backed.read` is a reading through the cache in front of a server, and what it comes to
(`Backed.Reads`) is what the complete lists give (`Backed.reads_iff_direct`).
-/

namespace GraphClient

namespace Lookup

variable {α β : Type} {names : Names}

/-- The names that a reading asks for when they are read off complete lists, by kind and index. -/
def demand (names : Names) : Lookup α → List (Kind × Nat)
  | .done _ => []
  | .fail _ => []
  | .need kind index next =>
      (kind, index) ::
        match nameIn names kind index with
        | .ok name => (next name).demand names
        | .error _ => []

/-- The reading asks for a name of a kind beyond the first `known` of its list. -/
def Lacks (names : Names) (reading : Lookup α) (kind : Kind) (known : Nat) : Prop :=
  ∃ index, (kind, index) ∈ reading.demand names ∧ known ≤ index

@[simp] theorem demand_pure (value : α) : (pure value : Lookup α).demand names = [] := rfl

theorem demand_bind_ok
    {reading : Lookup α}
    {value : α}
    (hReading : reading.direct names = .ok value)
    (next : α → Lookup β) :
    (reading >>= next).demand names = reading.demand names ++ (next value).demand names := by
  induction reading with
  | done result =>
      cases hReading
      rfl
  | fail reason => cases hReading
  | need kind index rest ih =>
      rw [direct] at hReading
      rw [need_bind, demand, demand]
      cases hName : nameIn names kind index with
      | error failure =>
          rw [hName] at hReading
          cases hReading
      | ok name =>
          rw [hName] at hReading
          exact congrArg _ (ih name hReading)

theorem lacks_need
    {kind other : Kind}
    {index known : Nat}
    {next : String → Lookup α} :
    (need kind index next).Lacks names other known ↔
      (other = kind ∧ known ≤ index) ∨
        ∃ name, nameIn names kind index = .ok name ∧ (next name).Lacks names other known := by
  unfold Lacks
  rw [demand]
  cases nameIn names kind index with
  | error failure => simp
  | ok name => simp [or_and_right, exists_or, and_assoc]

section Items

variable {read : α → Lookup β} {items : List α} {values : List β}

/-- Off complete lists a list is read item by item. -/
theorem direct_mapM (read : α → Lookup β) (items : List α) :
    (items.mapM read).direct names = items.mapM fun item => (read item).direct names := by
  induction items with
  | nil => rfl
  | cons item rest ih =>
      rw [List.mapM_cons, List.mapM_cons, direct_bind, ← ih]
      cases (read item).direct names with
      | error failure => rfl
      | ok value =>
          change ((rest.mapM read) >>= fun values => pure (value :: values)).direct names = _
          rw [direct_bind]
          cases (rest.mapM read).direct names <;> rfl

theorem direct_mapM_eq_ok_iff :
    (items.mapM read).direct names = .ok values ↔
      List.Forall₂ (fun item value => (read item).direct names = .ok value) items values := by
  rw [direct_mapM]
  exact mapM_eq_ok_iff

theorem demand_mapM_ok
    (hItems : List.Forall₂ (fun item value => (read item).direct names = .ok value) items values) :
    (items.mapM read).demand names = items.flatMap fun item => (read item).demand names := by
  induction hItems with
  | nil => rfl
  | cons hItem hRest ih =>
      rw [List.mapM_cons, demand_bind_ok hItem,
        demand_bind_ok (direct_mapM_eq_ok_iff.mpr hRest), demand_pure, List.append_nil, ih,
        List.flatMap_cons]

end Items

end Lookup

namespace Backed

variable {σ α : Type} {schema : σ → Names} {fetch : Fetch σ} {backed : Backed σ}

/-- A name asked for makes its list whole if the cache does not know it. -/
theorem of_resolve_complete
    (hComplete : Fetch.Complete schema fetch)
    (hKnown : Known schema backed)
    (kind other : Kind)
    (index : Nat) :
    ((resolve fetch kind index).on backed).2.cache.names.of other =
      if other = kind ∧ backed.cache.known kind ≤ index then (schema backed.server).of kind
      else backed.cache.names.of other := by
  cases hName : (backed.cache.names.of kind)[index]? with
  | some name =>
      have hIndex := (List.getElem?_eq_some_iff.mp hName).1
      have hHit : ¬ (other = kind ∧ backed.cache.known kind ≤ index) :=
        fun hMissed => Nat.not_lt.mpr hMissed.2 hIndex
      rw [on_resolve_hit fetch backed hName, if_neg hHit]
      rfl
  | none =>
      have hIndex : backed.cache.known kind ≤ index := List.getElem?_eq_none_iff.mp hName
      rw [on_resolve_miss fetch backed hName]
      rcases refresh_cases hComplete.toHonest kind ⟨backed.cache.countCall, backed.server⟩ with
        ⟨failure, server, hFetch, -, -⟩ | ⟨server, hRefresh, -⟩
      · obtain ⟨table, hTable⟩ := hComplete.answers kind ⟨backed.cache.countCall, backed.server⟩
        rw [hTable] at hFetch
        cases hFetch
      · rw [hRefresh]
        have hLists := Names.of_append_drop hKnown kind other
        simp only [hIndex, and_true]
        exact hLists

/-- What asking for a name does where no fetch fails. -/
theorem exists_resolve_complete
    (hComplete : Fetch.Complete schema fetch)
    (hKnown : Known schema backed)
    (kind : Kind)
    (index : Nat) :
    ∃ after,
      (resolve fetch kind index).on backed =
        (Lookup.nameIn (schema backed.server) kind index, after) ∧
      Known schema after ∧ schema after.server = schema backed.server ∧
      ∀ other, after.cache.names.of other =
        if other = kind ∧ backed.cache.known kind ≤ index then (schema backed.server).of kind
        else backed.cache.names.of other := by
  obtain ⟨hFilled, -⟩ := resolve_honest hComplete.toHonest hKnown kind index
  exact ⟨_, Prod.ext (resolve_complete hComplete hKnown kind index) rfl, hFilled.known hKnown,
    hFilled.schema_eq, fun other => of_resolve_complete hComplete hKnown kind other index⟩

section Runs

variable {kind : Kind} {reading : Lookup α}

/-- A list that is whole stays whole. -/
theorem of_run_of_whole
    (hComplete : Fetch.Complete schema fetch)
    (hKnown : Known schema backed)
    (reading : Lookup α)
    (hWhole : backed.cache.names.of kind = (schema backed.server).of kind) :
    ((reading.run (resolve fetch)).on backed).2.cache.names.of kind =
      (schema backed.server).of kind := by
  rcases (filled_run hComplete.toHonest reading hKnown).lists kind with hSame | hSupplied
  · exact hSame.trans hWhole
  · exact hSupplied

/-- A list of which a name has been asked for that the cache did not know is whole. -/
theorem of_run_of_lacks
    (hComplete : Fetch.Complete schema fetch)
    (hKnown : Known schema backed)
    (hLacks : reading.Lacks (schema backed.server) kind (backed.cache.known kind)) :
    ((reading.run (resolve fetch)).on backed).2.cache.names.of kind =
      (schema backed.server).of kind := by
  induction reading generalizing backed with
  | done value | fail reason =>
      obtain ⟨index, hAsked, -⟩ := hLacks
      cases hAsked
  | need asked index next ih =>
      obtain ⟨middle, hResolve, hMiddle, hSchema, hLists⟩ :=
        exists_resolve_complete hComplete hKnown asked index
      replace hLists := hLists kind
      rw [Lookup.run, Attempt.on_bind, hResolve]
      -- The list is completed by this name, or it is as it was and a later name completes it.
      by_cases hFirst : kind = asked ∧ backed.cache.known asked ≤ index
      · rw [if_pos hFirst, ← hFirst.1] at hLists
        cases Lookup.nameIn (schema backed.server) asked index with
        | error failure => exact hLists
        | ok name =>
            rw [← hSchema] at hLists ⊢
            exact of_run_of_whole hComplete hMiddle (next name) hLists
      · rw [if_neg hFirst] at hLists
        rcases Lookup.lacks_need.mp hLacks with ⟨rfl, hIndex⟩ | ⟨name, hFound, hLater⟩
        · exact absurd ⟨rfl, hIndex⟩ hFirst
        · rw [hFound]
          rw [← hSchema] at hLater ⊢
          exact ih name hMiddle (by rwa [Cache.known, hLists])

/-- A list of which the cache knew all names that have been asked for is as it was. -/
theorem of_run_of_not_lacks
    (hComplete : Fetch.Complete schema fetch)
    (hKnown : Known schema backed)
    (hEnough : ¬ reading.Lacks (schema backed.server) kind (backed.cache.known kind)) :
    ((reading.run (resolve fetch)).on backed).2.cache.names.of kind =
      backed.cache.names.of kind := by
  induction reading generalizing backed with
  | done value | fail reason => rfl
  | need asked index next ih =>
      obtain ⟨middle, hResolve, hMiddle, hSchema, hLists⟩ :=
        exists_resolve_complete hComplete hKnown asked index
      replace hLists := hLists kind
      rw [Lookup.lacks_need, not_or] at hEnough
      obtain ⟨hFirst, hLater⟩ := hEnough
      rw [if_neg (by rintro ⟨rfl, hIndex⟩; exact hFirst ⟨rfl, hIndex⟩)] at hLists
      rw [Lookup.run, Attempt.on_bind, hResolve]
      cases hName : Lookup.nameIn (schema backed.server) asked index with
      | error failure => exact hLists
      | ok name =>
          have hRest : ¬ (next name).Lacks (schema middle.server) kind
              (middle.cache.known kind) := by
            rw [hSchema, Cache.known, hLists]
            exact fun hLacks => hLater ⟨name, hName, hLacks⟩
          exact (ih name hMiddle hRest).trans hLists

/-- Two readings that ask for the same names leave the same lists. -/
theorem names_run_eq
    {β : Type}
    {other : Lookup β}
    (hComplete : Fetch.Complete schema fetch)
    (hKnown : Known schema backed)
    (hDemand : ∀ place, place ∈ reading.demand (schema backed.server) ↔
      place ∈ other.demand (schema backed.server)) :
    ((reading.run (resolve fetch)).on backed).2.cache.names =
      ((other.run (resolve fetch)).on backed).2.cache.names := by
  refine Names.ext_of fun kind => ?_
  have hSame : reading.Lacks (schema backed.server) kind (backed.cache.known kind) ↔
      other.Lacks (schema backed.server) kind (backed.cache.known kind) :=
    exists_congr fun index => and_congr_left' (hDemand (kind, index))
  by_cases hLacks : reading.Lacks (schema backed.server) kind (backed.cache.known kind)
  · rw [of_run_of_lacks hComplete hKnown hLacks,
      of_run_of_lacks hComplete hKnown (hSame.mp hLacks)]
  · rw [of_run_of_not_lacks hComplete hKnown hLacks,
      of_run_of_not_lacks hComplete hKnown (hSame.not.mp hLacks)]

end Runs

/-- Reads through the cache in front of a server. -/
def read (reading : Lookup α) (backed : Backed Server) : Except Failure α × Backed Server :=
  (reading.run (resolve (fetchFrom Server.source))).on backed

/-- The reading comes to the value through the cache in front of a server. -/
def Reads (backed : Backed Server) (reading : Lookup α) (value : α) : Prop :=
  (read reading backed).1 = .ok value

theorem reads_iff_direct
    {backed : Backed Server}
    (hKnown : backed.cache.names ≤ backed.server.names)
    {reading : Lookup α}
    {value : α} :
    backed.Reads reading value ↔ reading.direct backed.server.names = .ok value := by
  rw [Reads, read, run_complete Server.complete_source reading hKnown]

end Backed

end GraphClient
