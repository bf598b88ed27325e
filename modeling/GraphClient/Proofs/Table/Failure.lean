import GraphClient.Proofs.Schema.Fetches
import GraphClient.Proofs.Schema.Transparency
import GraphClient.Proofs.Table.Asking

/-!
# Why a reply has no table

A reply may be read with any fetch behind the cache, one that fails as it likes and one
that uses the cache itself.

**Origins.**  A failure says that the server reports an error, that a fetch has failed,
that the reply is malformed, or that a name does not exist (`Failure.Origin`).  There is
no fifth way (`Backed.origin_decode`), so the failures that belong to other parts of the
client come from a fetch if they come at all.

**Results.**  `Backed.decode_failure` puts this beside what becomes of an index below
zero that the reading comes to.
-/

namespace GraphClient

namespace Reply

/-- The server reports an error, instead of a reply or in the last item of one. -/
inductive Reports (message : String) : Reply → Prop
  | whole : Reports message (.error message)
  | last (items : List Reply) : Reports message (.array (items ++ [.error message]))

theorem reports_iff
    {reply : Reply}
    {message : String} :
    reply.Reports message ↔ reply.serverError? = some message := by
  constructor
  · intro hReports
    cases hReports with
    | whole => rfl
    | last items => simp [serverError?, errorText?]
  · intro hError
    cases reply with
    | error text =>
        cases hError
        exact .whole
    | array items =>
        obtain ⟨item, hItem, hText⟩ := Option.bind_eq_some_iff.mp hError
        obtain ⟨front, rfl⟩ := List.getLast?_eq_some_iff.mp hItem
        cases item with
        | error text =>
            cases hText
            exact .last front
        | _ => cases hText
    | _ => cases hError

/-- An index below zero is no index, whatever it stands for. -/
theorem fails_negative
    {σ : Type}
    (resolve : Kind → Nat → Attempt σ String)
    (kind : Kind)
    (context : String)
    {number : Int}
    (hNegative : number < 0)
    (state : σ) :
    (sentName kind context (.integer number)).Fails resolve state
      (.malformed (.invalidNumber (toString number) context)) state := by
  cases number with
  | ofNat index => exact absurd hNegative (Int.not_lt.mpr (Int.natCast_nonneg index))
  | negSucc index => rfl

end Reply

namespace Failure

/--
Where a failure of a reading comes from, told from the reply, the fetches that the reading
has made and the cache that it leaves.
-/
inductive Origin
    (reply : Reply)
    (fetches : List (Kind × Except Failure Table))
    (after : Cache) :
    Failure → Prop
  | reported {message : String} :
      reply.Reports message →
      Origin reply fetches after (.evaluation message)
  /-- The last fetch has failed with it. -/
  | fetched {kind : Kind} {failure : Failure} :
      fetches.getLast? = some (kind, .error failure) →
      Origin reply fetches after failure
  | malformed (reason : Malformed) : Origin reply fetches after (.malformed reason)
  /-- The list of the kind, as it is known at the end, ends before the index. -/
  | missing {kind : Kind} {index : Nat} :
      after.known kind ≤ index →
      Origin reply fetches after (.unresolved kind index (after.known kind))

/-- Failures that reading a reply does not make. -/
def isForeign : Failure → Bool
  | .transport _ | .outOfBounds _ _ | .serialization _ | .invalidArgument _ | .blocked _ => true
  | .malformed _ | .evaluation _ | .unresolved _ _ _ => false

theorem Origin.fetch_of_isForeign
    {reply : Reply}
    {fetches : List (Kind × Except Failure Table)}
    {after : Cache}
    {failure : Failure}
    (hOrigin : Origin reply fetches after failure)
    (hForeign : failure.isForeign = true) :
    ∃ kind, fetches.getLast? = some (kind, .error failure) := by
  cases hOrigin with
  | fetched hLast => exact ⟨_, hLast⟩
  | _ => cases hForeign

end Failure

namespace Backed

variable {σ : Type}

/-- Every failure of a reading that keeps a record has one of the four origins. -/
theorem origin_decode
    {fetch : Fetch σ}
    {reply : Reply}
    {failure : Failure}
    {backed after : Backed (Recorded σ)}
    (hError : (decode fetch.recorded reply).on backed = (.error failure, after)) :
    failure.Origin reply after.server.fetches after.cache := by
  rw [decode, Table.decode] at hError
  cases hReported : reply.serverError? with
  | some message =>
      rw [hReported] at hError
      cases hError
      exact .reported (Reply.reports_iff.mpr hReported)
  | none =>
      rw [hReported] at hError
      rcases Lookup.failure_of_run hError with ⟨reason, rfl⟩ | ⟨kind, index, asking, hResolve⟩
      · exact .malformed reason
      · rcases failure_of_resolve hResolve with ⟨reason, rfl⟩ | ⟨fetching, hFetch⟩ | ⟨rfl, hKnown⟩
        · exact .malformed reason
        · exact .fetched (Fetch.getLast?_recorded hFetch)
        · exact .missing hKnown

/--
**Why a reply has no table.**  Read any reply through any cache, with any fetch behind it.
A failure has one of the four origins, told from the fetches of this very reading.  If it
belongs to another part of the client, it is what the last fetch has failed with.  Where
the server reports no error, an index below zero that the reading reaches ends it in that
state: the reply is malformed there.  Indices are reached in this sense wherever names are
asked for.
-/
theorem decode_failure
    (fetch : Fetch σ)
    (reply : Reply)
    (backed : Backed σ) :
    let result := (decode fetch reply).on backed
    let recorded := (decode fetch.recorded reply).on backed.unrecorded
    let fetches := recorded.2.server.fetches
    (recorded.1 = result.1 ∧ recorded.2.mapServer Recorded.server = result.2) ∧
    (∀ failure, result.1 = .error failure → failure.Origin reply fetches result.2.cache) ∧
    (∀ failure, result.1 = .error failure → failure.isForeign = true →
      ∃ kind, fetches.getLast? = some (kind, .error failure)) ∧
    (∀ kind context number reached, reply.serverError? = none → number < 0 →
      Reaches (resolve fetch) ⟨kind, context, .integer number, reached⟩ (Table.ofReply reply)
        backed →
      result = (.error (.malformed (.invalidNumber (toString number) context)), reached)) ∧
    (∀ kind index asking, (Table.ofReply reply).Asks (resolve fetch) kind index asking backed →
      ∃ context, Reaches (resolve fetch) ⟨kind, context, .integer index, asking⟩
        (Table.ofReply reply) backed) := by
  intro result recorded fetches
  have hSame : result = (recorded.1, recorded.2.mapServer Recorded.server) :=
    on_decode_recorded fetch reply backed
  have hOrigin : ∀ failure, result.1 = .error failure →
      failure.Origin reply fetches result.2.cache := by
    intro failure hError
    rw [hSame] at hError ⊢
    exact origin_decode (Prod.ext hError rfl)
  refine ⟨⟨by rw [hSame], by rw [hSame]⟩, hOrigin, ?_, ?_,
    fun _ _ _ hAsks => Table.covered_ofReply reply hAsks⟩
  · intro failure hError hForeign
    exact (hOrigin failure hError).fetch_of_isForeign hForeign
  · intro kind context number reached hReply hNegative hReaches
    have hFails := hReaches.fails
      (Reply.fails_negative (resolve fetch) kind context hNegative reached)
    change (Table.decode (resolve fetch) reply).on backed = _
    rw [Table.decode, hReply]
    exact hFails

end Backed

namespace Sample

def negativeNode : Reply :=
  .array [.integer 7, .array [.integer 1, .integer (-3)], .nil]

/-- A reply with one node, whose first label the cache does not know and whose second is none. -/
def negative : Reply :=
  .array [.array [.array [.integer 2, .ofText "n"]], .array [.array [negativeNode]], .array []]

/-- Names of the sample server through a cache. -/
def resolving : Kind → Nat → Attempt (Backed Server) String :=
  Backed.resolve (Backed.fetchFrom Server.source)

/-- The cache and the server once the first label is known. -/
def labelled : Backed Server := ((resolving .label 1).on ⟨cache, server⟩).2

/-- The second label, as the reading comes to it. -/
def secondLabel : Spot (Backed Server) := ⟨.label, "node label id", .integer (-3), labelled⟩

theorem reaches_secondLabel :
    Reaches resolving secondLabel (Table.ofReply negative) ⟨cache, server⟩ := by
  have hFirst :
      (sentName .label "node label id" (.integer 1)).Yields resolving ⟨cache, server⟩ "Person"
        labelled := rfl
  have hCell : Reaches resolving secondLabel (cellOfReply .node negativeNode) ⟨cache, server⟩ :=
    .nodeCell (.nodeLabels rfl rfl (.laterName hFirst (.firstName .here)))
  have hRow :
      Reaches resolving secondLabel (rowOfReply [⟨"n", .node⟩] (.array [negativeNode]))
        ⟨cache, server⟩ :=
    .row rfl rfl (.firstCell hCell)
  exact .table rfl rfl (.firstRow hRow)

end Sample

/-- The second label of the sample is reached after a fetch, and the reading ends there. -/
theorem Backed.decode_failure_sample :
    (decode (fetchFrom Server.source) Sample.negative).on ⟨Sample.cache, Sample.server⟩ =
        (.error (.malformed (.invalidNumber "-3" "node label id")), Sample.labelled) ∧
      Sample.labelled.server.asked = [.label] := by
  obtain ⟨-, -, -, hNegative, -⟩ :=
    decode_failure (fetchFrom Server.source) Sample.negative ⟨Sample.cache, Sample.server⟩
  exact ⟨hNegative .label "node label id" (-3) Sample.labelled rfl (by decide)
    Sample.reaches_secondLabel, rfl⟩

end GraphClient
