import GraphClient.Proofs.Schema.Transparency

/-!
# Longer lists answer alike

The server only ever appends to its lists.  A reply that could be read before can be read
afterwards, with the same table, and a reply that was malformed stays malformed in the
same way.

**Reading.**  Two readings of one reply ask for the same names in the same order until
one of them asks for a name that its lists do not have.  On shorter lists this happens
first (`Lookup.outgrown_direct`): either the readings end alike, or the shorter lists lack
a name, and if the longer ones lack it as well, both readings end there.

**Results.**  `Backed.decode_grown` says this of a whole reply that is read through two
caches, each with its own part of the lists, so that the two runs fetch at different
moments.
-/

namespace GraphClient

/-- Whether the failure is that the lists lack a name. -/
def Failure.isUnresolved : Failure → Bool
  | .unresolved _ _ _ => true
  | _ => false

section Growth

variable {α : Type} {names grown : Names}

/--
How the outcome on longer lists follows from that on shorter ones: it is the same, or the
shorter lists lack a name, and the longer ones either lack it too or have outgrown that.
-/
inductive Outgrown (names grown : Names) : Except Failure α → Except Failure α → Prop
  | settled {outcome : Except Failure α} :
      (∀ failure, outcome = .error failure → failure.isUnresolved = false) →
      Outgrown names grown outcome outcome
  | lacking {kind : Kind} {index : Nat} {late : Except Failure α} :
      ((grown.of kind).length ≤ index →
        late = .error (.unresolved kind index (grown.of kind).length)) →
      Outgrown names grown (.error (.unresolved kind index (names.of kind).length)) late

theorem Lookup.outgrown_direct
    (hGrown : names ≤ grown)
    (reading : Lookup α) :
    Outgrown names grown (reading.direct names) (reading.direct grown) := by
  induction reading with
  | done value =>
      refine .settled ?_
      rintro _ ⟨⟩
  | fail reason =>
      refine .settled ?_
      rintro _ ⟨⟩
      rfl
  | need kind index next ih =>
      simp only [direct, nameIn]
      cases hName : (names.of kind)[index]? with
      | some name =>
          rw [Names.getElem?_of_le hGrown hName]
          exact ih name
      | none =>
          refine .lacking fun hLate => ?_
          rw [List.getElem?_eq_none_iff.mpr hLate]

theorem Table.outgrown_decodeDirect
    (hGrown : names ≤ grown)
    (reply : Reply) :
    Outgrown names grown (decodeDirect names reply) (decodeDirect grown reply) := by
  unfold decodeDirect
  cases reply.serverError? with
  | some message =>
      refine .settled ?_
      rintro _ ⟨⟩
      rfl
  | none => exact Lookup.outgrown_direct hGrown _

end Growth

/--
**Longer lists answer alike.**  Let the lists of one server be the beginnings of those of
another, and read a reply through a cache of each, whatever part of the lists the caches
hold.  A table that comes of the shorter lists comes of the longer ones, and so does
every failure other than a missing name.  Where the longer lists lack a name, the shorter
lists lack one.  The name that the shorter lists lack is the one reported for the longer
lists, unless it has been appended.
-/
theorem Backed.decode_grown
    (server grown : Server)
    (cache other : Cache)
    (reply : Reply)
    (hGrown : server.names ≤ grown.names)
    (hCache : cache.names ≤ server.names)
    (hOther : other.names ≤ grown.names) :
    let early := ((decode (fetchFrom Server.source) reply).on ⟨cache, server⟩).1
    let late := ((decode (fetchFrom Server.source) reply).on ⟨other, grown⟩).1
    (∀ table, early = .ok table → late = .ok table) ∧
    (∀ failure, early = .error failure → failure.isUnresolved = false →
      late = .error failure) ∧
    (∀ kind index known, late = .error (.unresolved kind index known) →
      ∃ lacking position length, early = .error (.unresolved lacking position length)) ∧
    (∀ kind index known, early = .error (.unresolved kind index known) →
      (grown.names.of kind).length ≤ index →
      late = .error (.unresolved kind index (grown.names.of kind).length)) := by
  intro early late
  have hEarly : early = Table.decodeDirect server.names reply :=
    decode_complete Server.complete_source reply hCache
  have hLate : late = Table.decodeDirect grown.names reply :=
    decode_complete Server.complete_source reply hOther
  have hOutgrown : Outgrown server.names grown.names early late := by
    rw [hEarly, hLate]
    exact Table.outgrown_decodeDirect hGrown reply
  generalize early = first at hOutgrown
  generalize late = second at hOutgrown
  cases hOutgrown with
  | settled hSettled =>
      refine ⟨fun _ hOk => hOk, fun _ hError _ => hError, ?_, ?_⟩
      · exact fun kind index known hMissing => ⟨kind, index, known, hMissing⟩
      · intro kind index known hMissing _
        have hResolved := hSettled _ hMissing
        cases hResolved
  | lacking hStill =>
      refine ⟨fun _ => nofun, ?_, fun _ _ _ _ => ⟨_, _, _, rfl⟩, ?_⟩
      · rintro _ ⟨⟩ hResolved
        cases hResolved
      · rintro _ _ _ ⟨⟩ hLength
        exact hStill hLength

namespace Sample

/-- The sample server after one more label and one more key. -/
def grown : Server := .ofNames ⟨["City", "Person", "Event"], ["KNOWS"], ["name", "since"]⟩

/-- A cache of the grown server that knows all that the sample reply needs. -/
def filled : Cache :=
  { Cache.new "social" with names := ⟨["City", "Person"], [], ["name", "since"]⟩ }

end Sample

/-- The sample reply reads alike before and after, though only one of the caches has to fetch. -/
theorem Backed.decode_grown_sample :
    Sample.server.names ≤ Sample.grown.names ∧
    Sample.cache.names ≤ Sample.server.names ∧
    Sample.filled.names ≤ Sample.grown.names ∧
    ((decode (fetchFrom Server.source) Sample.reply).on ⟨Sample.filled, Sample.grown⟩).1 =
      .ok Sample.table := by
  have hGrown : Sample.server.names ≤ Sample.grown.names := by decide
  have hCache : Sample.cache.names ≤ Sample.server.names := by decide
  have hFilled : Sample.filled.names ≤ Sample.grown.names := by decide
  obtain ⟨hOk, -⟩ := decode_grown Sample.server Sample.grown Sample.cache Sample.filled
    Sample.reply hGrown hCache hFilled
  exact ⟨hGrown, hCache, hFilled, hOk Sample.table rfl⟩

end GraphClient
