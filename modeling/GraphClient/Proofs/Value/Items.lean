import GraphClient.Proofs.Reply.Shapes
import GraphClient.Proofs.Schema.Demand
import GraphClient.Proofs.Wire.RoundTrip

/-!
# Names, properties and entries, item by item

The label indices of a node, the properties of an entity and the entries of a map are sent as
lists, and each of these is read one item after the other.

* A name is read off the index that holds it (`direct_sentName_eq_ok_iff`).
* A property is a triple.  Its key says under which name it stands (`Triple.Named`), its tag and
  payload are its value (`Value.ofTriple`).
* An entry is a key and the item behind it.  `Reply.turns` pairs the items of a map off, and
  `Value.ofEntry` reads one pair.

**Results.**  A map of even length and the properties of an entity make fields of what has been
read, in the order in which it was sent (`Value.ofTagged_map`, `Value.ofProperties_eq`).  A node
needs its labels and its properties and is put together without a further name
(`Node.ofReply_eq`).
-/

namespace GraphClient

namespace Lookup

variable {α β : Type} {names : Names}

theorem direct_bind_eq_ok_iff
    {reading : Lookup α}
    {next : α → Lookup β}
    {result : β} :
    (reading >>= next).direct names = .ok result ↔
      ∃ value, reading.direct names = .ok value ∧ (next value).direct names = .ok result := by
  rw [direct_bind]
  cases reading.direct names <;> simp

theorem direct_lift_eq_ok_iff {outcome : Except Malformed α} {value : α} :
    (liftM outcome : Lookup α).direct names = .ok value ↔ outcome = .ok value := by
  cases outcome with
  | error reason => exact ⟨nofun, nofun⟩
  | ok found => exact ⟨fun hOk => by cases hOk; rfl, fun hOk => by cases hOk; rfl⟩

end Lookup

section Names

variable {names : Names} {kind : Kind} {context : String}

/-- An index holds one name. -/
theorem Names.Sent.unique (names : Names) (kind : Kind) :
    Relator.RightUnique fun reply name => names.Sent kind name reply := by
  rintro _ _ _ ⟨index, hIndex, rfl⟩ ⟨_, hOther, ⟨⟩⟩
  exact Option.some.inj (hIndex.symm.trans hOther)

theorem sentNames_eq_mapM (kind : Kind) (context : String) (replies : List Reply) :
    sentNames kind context replies = replies.mapM (sentName kind context) := by
  induction replies with
  | nil => rfl
  | cons reply rest ih => rw [sentNames, ih, List.mapM_cons]

theorem direct_sentName_eq_ok_iff {reply : Reply} {name : String} :
    (sentName kind context reply).direct names = .ok name ↔ names.Sent kind name reply := by
  refine ⟨fun hOk => ?_, Names.direct_sent context⟩
  obtain ⟨index, hIndex, hName⟩ := Lookup.direct_bind_eq_ok_iff.mp hOk
  refine ⟨index, ?_, Reply.toIndex_eq_ok_iff.mp (Lookup.direct_lift_eq_ok_iff.mp hIndex)⟩
  rw [Lookup.name, Lookup.direct, Lookup.nameIn] at hName
  cases hFound : (names.of kind)[index]? with
  | none =>
      rw [hFound] at hName
      cases hName
  | some found =>
      rw [hFound] at hName
      cases hName
      rfl

end Names

/-- The items of a list in pairs, each of an item at an even position and the next one. -/
def Reply.turns : List Reply → List (Reply × Reply)
  | key :: item :: rest => (key, item) :: turns rest
  | _ => []

namespace Triple

/-- The key of a triple is sent as an index of the name. -/
def Named (names : Names) (triple : Reply) (name : String) : Prop :=
  ∃ key sent payload,
    triple = .array [key, sent, payload] ∧ names.Sent .propertyKey name key

/-- What stands in a triple behind the key reads as the value. -/
def Holds (backed : Backed Server) (triple : Reply) (value : Value) : Prop :=
  ∃ key sent payload tag,
    triple = .array [key, sent, payload] ∧ sentTag "property type" sent = .ok tag ∧
      backed.Reads (Value.ofTagged tag payload) value

theorem Named.unique (names : Names) : Relator.RightUnique (Named names) := by
  rintro _ _ _ ⟨_, _, _, rfl, hName⟩ ⟨_, _, _, ⟨⟩, hOther⟩
  exact Names.Sent.unique names .propertyKey hName hOther

end Triple

namespace Value

/-- A property: its name and its value. -/
def ofTriple : Reply → Lookup (String × Value)
  | .array [key, sent, payload] => do
      let name ← sentName .propertyKey "property key id" key
      let tag ← sentTag "property type" sent
      let value ← Value.ofTagged tag payload
      pure (name, value)
  | reply => .fail (reply.tupleFault 3 "property")

/-- An entry of a map: its key and its value. -/
def ofEntry (entry : Reply × Reply) : Lookup (String × Value) := do
  let key ← entry.1.toText "map key"
  let value ← Value.ofReply entry.2
  pure (key, value)

theorem direct_ofTriple_eq_ok_iff
    {names : Names}
    {triple : Reply}
    {pair : String × Value} :
    (ofTriple triple).direct names = .ok pair ↔
      Triple.Named names triple pair.1 ∧
        ∃ key sent payload tag,
          triple = .array [key, sent, payload] ∧ sentTag "property type" sent = .ok tag ∧
            (Value.ofTagged tag payload).direct names = .ok pair.2 := by
  constructor
  · intro hOk
    unfold ofTriple at hOk
    split at hOk
    · next key sent payload =>
      obtain ⟨name, hName, hOk⟩ := Lookup.direct_bind_eq_ok_iff.mp hOk
      obtain ⟨tag, hTag, hOk⟩ := Lookup.direct_bind_eq_ok_iff.mp hOk
      obtain ⟨value, hValue, hOk⟩ := Lookup.direct_bind_eq_ok_iff.mp hOk
      cases hOk
      exact ⟨⟨key, sent, payload, rfl, direct_sentName_eq_ok_iff.mp hName⟩,
        key, sent, payload, tag, rfl, Lookup.direct_lift_eq_ok_iff.mp hTag, hValue⟩
    · cases hOk
  · rintro ⟨⟨key, sent, payload, rfl, hName⟩, _, _, _, tag, ⟨⟩, hTag, hValue⟩
    rw [ofTriple, Lookup.direct_bind_ok (Names.direct_sent _ hName), hTag, Lookup.lift_ok,
      Lookup.done_bind, Lookup.direct_bind_ok hValue, Lookup.direct_pure]

theorem reads_ofTriple_iff
    {backed : Backed Server}
    (hKnown : backed.cache.names ≤ backed.server.names)
    {triple : Reply}
    {pair : String × Value} :
    (ofTriple triple).direct backed.server.names = .ok pair ↔
      Triple.Named backed.server.names triple pair.1 ∧ Triple.Holds backed triple pair.2 := by
  simp only [direct_ofTriple_eq_ok_iff, Triple.Holds, Backed.reads_iff_direct hKnown]

theorem direct_ofEntry_eq_ok_iff
    {names : Names}
    {entry : Reply × Reply}
    {pair : String × Value} :
    (ofEntry entry).direct names = .ok pair ↔
      entry.1.Holds pair.1 ∧ (Value.ofReply entry.2).direct names = .ok pair.2 := by
  constructor
  · intro hOk
    obtain ⟨key, hKey, hOk⟩ := Lookup.direct_bind_eq_ok_iff.mp hOk
    obtain ⟨value, hValue, hOk⟩ := Lookup.direct_bind_eq_ok_iff.mp hOk
    cases hOk
    exact ⟨Reply.toText_eq_ok_iff.mp (Lookup.direct_lift_eq_ok_iff.mp hKey), hValue⟩
  · rintro ⟨hKey, hValue⟩
    rw [ofEntry, hKey.toText, Lookup.lift_ok, Lookup.done_bind, Lookup.direct_bind_ok hValue,
      Lookup.direct_pure]

theorem ofTriples_eq_mapM (replies : List Reply) : ofTriples replies = replies.mapM ofTriple := by
  induction replies with
  | nil => rfl
  | cons reply rest ih =>
      rw [List.mapM_cons, ← ih]
      unfold ofTriple
      split
      · rw [ofTriples]
        simp only [bind_assoc, pure_bind]
      · next hShape =>
          rw [ofTriples]
          · rfl
          · exact hShape

theorem ofEntries_eq_mapM : (replies : List Reply) →
    ofEntries replies = (Reply.turns replies).mapM ofEntry
  | [] => rfl
  | [_] => rfl
  | key :: item :: rest => by
      rw [ofEntries, ofEntries_eq_mapM rest, Reply.turns, List.mapM_cons, ofEntry]
      simp only [bind_assoc, pure_bind]

theorem ofProperties_eq {reply : Reply} {triples : List Reply}
    (hTriples : reply.toItems "properties" = .ok triples) :
    ofProperties reply = (triples.mapM ofTriple >>= fun pairs => pure (Fields.ofList pairs)) := by
  cases reply with
  | array items =>
      cases hTriples
      rw [ofProperties, ofTriples_eq_mapM]
  | nil =>
      cases hTriples
      rfl
  | _ => cases hTriples

/-- A map of even length is made of its entries in the order in which they are sent. -/
theorem ofTagged_map {payload : Reply} {items : List Reply}
    (hItems : payload.toItems "map value" = .ok items)
    (hEven : items.length % 2 = 0) :
    ofTagged .map payload =
      ((Reply.turns items).mapM ofEntry >>= fun pairs => pure (.map (Fields.ofList pairs))) := by
  cases payload with
  | array replies =>
      cases hItems
      rw [ofTagged, if_pos hEven, ofEntries_eq_mapM]
  | nil =>
      cases hItems
      rw [ofTagged]
      rfl
  | _ => cases hItems

theorem ofTagged_map_odd {payload : Reply} {items : List Reply}
    (hItems : payload.toItems "map value" = .ok items)
    (hOdd : items.length % 2 = 1) :
    ofTagged .map payload =
      .fail (.unexpectedShape "even number of key/value entries" "map value") := by
  cases payload with
  | array replies =>
      cases hItems
      rw [ofTagged, if_neg (by omega)]
  | nil =>
      cases hItems
      cases hOdd
  | _ => cases hItems

end Value

/-- A node is put together from its labels and its properties. -/
theorem Node.ofReply_eq
    {id labels properties : Reply}
    {number : Int}
    {indices triples : List Reply}
    (hId : id.toInteger "node id" = .ok number)
    (hLabels : labels.toItems "node labels" = .ok indices)
    (hProperties : properties.toItems "properties" = .ok triples) :
    Node.ofReply (.array [id, labels, properties]) =
      ((indices.mapM (sentName .label "node label id")) >>= fun names =>
        triples.mapM Value.ofTriple >>= fun pairs =>
          pure ⟨number, names.eraseDups, Fields.ofList pairs⟩) := by
  rw [ofReply, assemble, hId, hLabels]
  simp only [Lookup.lift_ok, Lookup.done_bind, sentNames_eq_mapM,
    Value.ofProperties_eq hProperties, bind_assoc, pure_bind, addLabels_new]

end GraphClient
