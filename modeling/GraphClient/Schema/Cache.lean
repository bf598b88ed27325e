import GraphClient.Table.Decode

/-!
# Cached names

A cache holds the names of one graph as far as they are known, with counters of
what happened to it.

**Resolving a name.**

1. A name that is known is returned: a hit.
2. Otherwise the whole list of its kind is fetched, and the names beyond those
   known are appended.
3. A name that is unknown even then does not exist.

Fetched rows that stand for known names are not looked at, and none is appended
unless all the others hold a text.

**Fetching.**  `Fetch` gets a list while it may see and change the cache, as it
must when the list itself comes through the cache.  A `Source` does not touch
the cache.
-/

namespace GraphClient

/-- How often each thing happened to a cache. -/
structure Metrics where
  /-- Names asked for. -/
  calls : Nat
  /-- Names that were known when they were asked for. -/
  hits : Nat
  /-- Lists fetched. -/
  refreshes : Nat
  /-- Times that all names were dropped. -/
  clears : Nat
deriving DecidableEq, Repr

namespace Metrics

def zero : Metrics := ⟨0, 0, 0, 0⟩

/-- The share of hits among the names asked for, zero if there were none. -/
def hitRate (metrics : Metrics) : Double :=
  if metrics.calls = 0 then .zero .double false
  else .nearest .double false metrics.hits metrics.calls

end Metrics

/-- The names of a graph as far as they are known. -/
structure Cache where
  graph : String
  names : Names
  metrics : Metrics
deriving DecidableEq, Repr

namespace Cache

/-- The cache of a graph of which nothing is known. -/
def new (graph : String) : Cache := ⟨graph, .empty, .zero⟩

def known (cache : Cache) (kind : Kind) : Nat := (cache.names.of kind).length

def countCall (cache : Cache) : Cache :=
  { cache with metrics := { cache.metrics with calls := cache.metrics.calls + 1 } }

def countHit (cache : Cache) : Cache :=
  { cache with metrics := { cache.metrics with hits := cache.metrics.hits + 1 } }

def countRefresh (cache : Cache) : Cache :=
  { cache with metrics := { cache.metrics with refreshes := cache.metrics.refreshes + 1 } }

def append
    (cache : Cache)
    (kind : Kind)
    (tail : List String) :
    Cache :=
  { cache with names := cache.names.append kind tail }

def clear (cache : Cache) : Cache :=
  { cache with
    names := .empty
    metrics := { cache.metrics with clears := cache.metrics.clears + 1 } }

def describe (cache : Cache) : List Char :=
  formListing "SchemaCache"
    [named "graph" (quoteVisible cache.graph),
     named "labels" (integerDigits (cache.known .label)),
     named "relationship_types" (integerDigits (cache.known .relationshipType)),
     named "property_keys" (integerDigits (cache.known .propertyKey))]

end Cache

/-- A cache together with the state of the server behind it. -/
structure Backed (σ : Type) where
  cache : Cache
  server : σ

/-- How the list of a kind is fetched by someone who shares the cache. -/
abbrev Fetch (σ : Type) := Kind → Attempt (Backed σ) Table

/-- How the list of a kind is fetched from a server. -/
abbrev Source (σ : Type) := Kind → Attempt σ Table

namespace Backed

variable {σ α : Type}

/-- What is done to the server alone. -/
def onServer (attempt : Attempt σ α) : Attempt (Backed σ) α :=
  Attempt.ofFunction fun backed =>
    let (outcome, server) := attempt.on backed.server
    (outcome, { backed with server := server })

def changeCache (change : Cache → Cache) : Attempt (Backed σ) Unit :=
  modify fun backed => { backed with cache := change backed.cache }

/-- Fetching from a source leaves the cache alone. -/
def fetchFrom (source : Source σ) : Fetch σ := fun kind => onServer (source kind)

@[simp] theorem on_onServer
    (attempt : Attempt σ α)
    (backed : Backed σ) :
    (onServer attempt).on backed =
      ((attempt.on backed.server).1, ⟨backed.cache, (attempt.on backed.server).2⟩) := rfl

@[simp] theorem on_changeCache
    (change : Cache → Cache)
    (backed : Backed σ) :
    (changeCache change).on backed = (.ok (), ⟨change backed.cache, backed.server⟩) := rfl

/-- The text in the first cell of a row of names. -/
def rowName (record : Record) : Except Malformed String :=
  match (record.at? 0).bind Value.cellText? with
  | some name => .ok name
  | none => .error (.unexpectedShape "string name column" "schema procedure")

/-- The names in a fetched table beyond the first `known` rows. -/
def unseenNames (known : Nat) (table : Table) : Except Malformed (List String) :=
  (table.records.drop known).mapM rowName

/-- Fetches the list of a kind and appends the names that are new. -/
def refresh (fetch : Fetch σ) (kind : Kind) : Attempt (Backed σ) Unit := do
  let before ← get
  let table ← fetch kind
  changeCache Cache.countRefresh
  match unseenNames (before.cache.known kind) table with
  | .ok tail => changeCache fun cache => cache.append kind tail
  | .error reason => throw (.malformed reason)

/-- The name of a kind and index, fetched if it is unknown. -/
def resolve
    (fetch : Fetch σ)
    (kind : Kind)
    (index : Nat) :
    Attempt (Backed σ) String := do
  changeCache Cache.countCall
  let before ← get
  match (before.cache.names.of kind)[index]? with
  | some name => do
      changeCache Cache.countHit
      pure name
  | none => do
      refresh fetch kind
      let after ← get
      match (after.cache.names.of kind)[index]? with
      | some name => pure name
      | none => throw (.unresolved kind index (after.cache.known kind))

/-- A refresh fails as the fetch does, and otherwise depends on the rows that are new. -/
theorem on_refresh
    (fetch : Fetch σ)
    (kind : Kind)
    (backed : Backed σ) :
    (refresh fetch kind).on backed =
      match (fetch kind).on backed with
      | (.error failure, after) => (.error failure, after)
      | (.ok table, after) =>
          let cache := after.cache.countRefresh
          match unseenNames (backed.cache.known kind) table with
          | .ok tail => (.ok (), ⟨cache.append kind tail, after.server⟩)
          | .error reason => (.error (.malformed reason), ⟨cache, after.server⟩) := by
  simp only [refresh, Attempt.on_bind, Attempt.on_get]
  cases (fetch kind).on backed with
  | mk outcome after =>
      cases outcome with
      | error failure => rfl
      | ok table =>
          simp only [on_changeCache]
          cases unseenNames (backed.cache.known kind) table <;> rfl

/-- A name that is known is a hit. -/
theorem on_resolve_hit
    (fetch : Fetch σ)
    {kind : Kind}
    {index : Nat}
    {name : String}
    (backed : Backed σ)
    (h : (backed.cache.names.of kind)[index]? = some name) :
    (resolve fetch kind index).on backed =
      (.ok name, ⟨backed.cache.countCall.countHit, backed.server⟩) := by
  have hCounted : (backed.cache.countCall.names.of kind)[index]? = some name := h
  simp only [resolve, Attempt.on_bind, on_changeCache, Attempt.on_get, hCounted, Attempt.on_pure]

/-- A name that is unknown is looked for again after a refresh. -/
theorem on_resolve_miss
    (fetch : Fetch σ)
    {kind : Kind}
    {index : Nat}
    (backed : Backed σ)
    (h : (backed.cache.names.of kind)[index]? = none) :
    (resolve fetch kind index).on backed =
      match (refresh fetch kind).on ⟨backed.cache.countCall, backed.server⟩ with
      | (.error failure, after) => (.error failure, after)
      | (.ok (), after) => (Lookup.nameIn after.cache.names kind index, after) := by
  have hCounted : (backed.cache.countCall.names.of kind)[index]? = none := h
  simp only [resolve, Attempt.on_bind, on_changeCache, Attempt.on_get, hCounted]
  cases (refresh fetch kind).on ⟨backed.cache.countCall, backed.server⟩ with
  | mk outcome after =>
      cases outcome with
      | error failure => rfl
      | ok done =>
          simp only [Lookup.nameIn]
          cases (after.cache.names.of kind)[index]? <;> rfl

def refreshAll (fetch : Fetch σ) : List Kind → Attempt (Backed σ) Unit
  | [] => pure ()
  | kind :: rest => do
      refresh fetch kind
      refreshAll fetch rest

def warm (fetch : Fetch σ) : Attempt (Backed σ) Unit := refreshAll fetch Kind.all

def clear : Attempt (Backed σ) Unit := changeCache Cache.clear

/-- The table in a reply, its names resolved through the cache. -/
def decode (fetch : Fetch σ) (reply : Reply) : Attempt (Backed σ) Table :=
  Table.decode (resolve fetch) reply

end Backed

end GraphClient
