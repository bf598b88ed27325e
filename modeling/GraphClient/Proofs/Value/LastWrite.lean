import GraphClient.Proofs.Value.Items
import Mathlib.Data.List.Dedup

/-!
# The last write wins

A map and the properties of an entity are sent as lists, in which a name may stand more than once.
A key may be written out again, and two indices may stand for one name.

**Setting.**  A reading goes through a cache that holds the beginnings of the lists of its server.
Each item of a list has one name.

**Results.**  Fields made of such items have the names under which something was sent and no
others, and under each name the value of the last item that has it (`Fields.LastWrites`).  They
are as many as there are different names.  This is what is read of a map, of a node and of an edge
(`Backed.reads_lastWrites`).  An item that a later one hides is read all the same: a map is read
exactly if each of its keys is a text and each of its values can be read.  A map of odd length is
refused before anything in it is read.
-/

namespace GraphClient

namespace Fields

section LastWrites

variable {ι α : Type} {named : ι → String → Prop} {holds : ι → α → Prop} {items : List ι}

/--
The fields are what items make that are written one after the other, each under its name.  Of the
items of one name the last is kept.
-/
structure LastWrites
    (named : ι → String → Prop)
    (holds : ι → α → Prop)
    (items : List ι)
    (fields : Fields α) :
    Prop where
  mem_names_iff : ∀ name, name ∈ names fields ↔ ∃ item ∈ items, named item name
  /-- Under a name stands what the last item of this name holds. -/
  find?_eq : ∀ before item after name, items = before ++ item :: after → named item name →
    (∀ later ∈ after, ¬ named later name) →
      ∃ value, holds item value ∧ find? name fields = some value
  length_eq : ∃ sent, List.Forall₂ named items sent ∧ fields.length = sent.dedup.length

/-- A name has the value of a pair that no pair of the same name follows. -/
theorem find?_ofList_last
    {before after : List (String × α)}
    {pair : String × α}
    (hAfter : ∀ later ∈ after, later.1 ≠ pair.1) :
    find? pair.1 (ofList (before ++ pair :: after)) = some pair.2 := by
  have hNone : after.filter (fun later => later.1 = pair.1) = [] := by
    simpa [List.filter_eq_nil_iff] using hAfter
  rw [find?_ofList, List.filter_append, List.filter_cons_of_pos (by simp), hNone,
    List.getLast?_append]
  rfl

/-- There are as many names as different ones among the pairs. -/
theorem length_ofList (pairs : List (String × α)) :
    (ofList pairs).length = (pairs.map Prod.fst).dedup.length := by
  have hNames : (names (ofList pairs)).Perm (pairs.map Prod.fst).dedup :=
    (List.perm_ext_iff_of_nodup (sorted_ofList pairs).nodup (List.nodup_dedup _)).mpr
      fun name => by rw [mem_names_ofList, List.mem_dedup]
  rw [← hNames.length_eq, names, List.length_map]

/-- Where every item has one name, inserting pair after pair keeps the last write. -/
theorem lastWrites_ofList
    (hUnique : Relator.RightUnique named)
    {pairs : List (String × α)}
    (hPairs : List.Forall₂ (fun item pair => named item pair.1 ∧ holds item pair.2) items pairs) :
    LastWrites named holds items (ofList pairs) := by
  have hNames : List.Forall₂ named items (pairs.map Prod.fst) :=
    List.forall₂_map_right_iff.mpr (hPairs.imp fun _ _ hPair => hPair.1)
  refine ⟨fun name => ?_, ?_, pairs.map Prod.fst, hNames, length_ofList pairs⟩
  · rw [mem_names_ofList, mem_iff_of_forall₂ hUnique hNames]
  · rintro before item after name rfl hName hAfter
    -- What is read before the item does not matter: its pair is found by its position alone.
    obtain ⟨pair, rest, ⟨hPair, hHolds⟩, hRest, hDrop⟩ := List.forall₂_cons_right_iff.mp
      (List.forall₂_drop_append pairs before (item :: after) hPairs.flip)
    obtain rfl : name = pair.1 := hUnique hName hPair
    have hLater : List.Forall₂ named after (rest.map Prod.fst) :=
      List.forall₂_map_right_iff.mpr (hRest.flip.imp fun _ _ hLater => hLater.1)
    have hHidden : pair.1 ∉ rest.map Prod.fst := by
      rw [mem_iff_of_forall₂ hUnique hLater]
      rintro ⟨later, hMem, hNamed⟩
      exact hAfter later hMem hNamed
    refine ⟨pair.2, hHolds, ?_⟩
    rw [← List.take_append_drop before.length pairs, hDrop]
    exact find?_ofList_last fun later hMem hSame =>
      hHidden (List.mem_map.mpr ⟨later, hMem, hSame⟩)

end LastWrites
end Fields

section Entities

variable {names : Names}

/-- A node that can be read has a list of properties, and these can be read. -/
theorem Node.exists_of_direct_ofReply
    {reply : Reply}
    {node : Node}
    (hNode : (Node.ofReply reply).direct names = .ok node) :
    ∃ id labels properties, reply = .array [id, labels, properties] ∧
      (Value.ofProperties properties).direct names = .ok node.properties := by
  unfold Node.ofReply at hNode
  split at hNode
  · next id labels properties =>
    obtain ⟨number, -, hNode⟩ := Lookup.direct_bind_eq_ok_iff.mp hNode
    obtain ⟨indices, -, hNode⟩ := Lookup.direct_bind_eq_ok_iff.mp hNode
    obtain ⟨found, -, hNode⟩ := Lookup.direct_bind_eq_ok_iff.mp hNode
    obtain ⟨fields, hFields, hNode⟩ := Lookup.direct_bind_eq_ok_iff.mp hNode
    cases hNode
    exact ⟨id, labels, properties, rfl, hFields⟩
  · cases hNode

theorem Edge.exists_of_direct_ofReply
    {reply : Reply}
    {edge : Edge}
    (hEdge : (Edge.ofReply reply).direct names = .ok edge) :
    ∃ id type source destination properties,
      reply = .array [id, type, source, destination, properties] ∧
        (Value.ofProperties properties).direct names = .ok edge.properties := by
  unfold Edge.ofReply at hEdge
  split at hEdge
  · next id type source destination properties =>
    obtain ⟨name, -, hEdge⟩ := Lookup.direct_bind_eq_ok_iff.mp hEdge
    obtain ⟨number, -, hEdge⟩ := Lookup.direct_bind_eq_ok_iff.mp hEdge
    obtain ⟨first, -, hEdge⟩ := Lookup.direct_bind_eq_ok_iff.mp hEdge
    obtain ⟨last, -, hEdge⟩ := Lookup.direct_bind_eq_ok_iff.mp hEdge
    obtain ⟨fields, hFields, hEdge⟩ := Lookup.direct_bind_eq_ok_iff.mp hEdge
    cases hEdge
    exact ⟨id, type, source, destination, properties, rfl, hFields⟩
  · cases hEdge

end Entities

namespace Backed

variable {backed : Backed Server}

/-- What the entries of a map are written to. -/
def WritesEntries (backed : Backed Server) (items : List Reply) (entries : Fields Value) : Prop :=
  Fields.LastWrites (fun entry key => entry.1.Holds key)
    (fun entry value => backed.Reads (Value.ofReply entry.2) value) (Reply.turns items) entries

/-- What the properties of an entity are written to, if they are sent as a list. -/
def WritesProperties (backed : Backed Server) (reply : Reply) (properties : Fields Value) : Prop :=
  ∃ triples, reply.toItems "properties" = .ok triples ∧
    Fields.LastWrites (Triple.Named backed.server.names) (Triple.Holds backed) triples properties

section Maps

variable {payload : Reply} {items : List Reply}

/-- A map of odd length is refused before anything in it is read. -/
theorem read_map_odd
    (backed : Backed Server)
    (hItems : payload.toItems "map value" = .ok items)
    (hOdd : items.length % 2 = 1) :
    backed.read (Value.ofTagged .map payload) =
      (.error (.malformed (.unexpectedShape "even number of key/value entries" "map value")),
        backed) := by
  rw [Value.ofTagged_map_odd hItems hOdd]
  rfl

/-- A map of even length is made of its entries. -/
theorem reads_map_iff
    (hKnown : backed.cache.names ≤ backed.server.names)
    (hItems : payload.toItems "map value" = .ok items)
    (hEven : items.length % 2 = 0)
    {value : Value} :
    backed.Reads (Value.ofTagged .map payload) value ↔
      ∃ pairs, value = .map (Fields.ofList pairs) ∧
        List.Forall₂
          (fun entry pair => entry.1.Holds pair.1 ∧ backed.Reads (Value.ofReply entry.2) pair.2)
          (Reply.turns items) pairs := by
  simp only [reads_iff_direct hKnown, ← Value.direct_ofEntry_eq_ok_iff,
    Value.ofTagged_map hItems hEven, Lookup.direct_bind_eq_ok_iff, Lookup.direct_mapM_eq_ok_iff]
  constructor
  · rintro ⟨pairs, hPairs, ⟨⟩⟩
    exact ⟨pairs, rfl, hPairs⟩
  · rintro ⟨pairs, rfl, hPairs⟩
    exact ⟨pairs, hPairs, rfl⟩

theorem exists_reads_map_iff
    (hKnown : backed.cache.names ≤ backed.server.names)
    (hItems : payload.toItems "map value" = .ok items)
    (hEven : items.length % 2 = 0) :
    (∃ value, backed.Reads (Value.ofTagged .map payload) value) ↔
      ∀ entry ∈ Reply.turns items,
        (∃ key, entry.1.Holds key) ∧ ∃ value, backed.Reads (Value.ofReply entry.2) value := by
  have hEntry : ∀ entry : Reply × Reply,
      (∃ pair : String × Value,
        entry.1.Holds pair.1 ∧ backed.Reads (Value.ofReply entry.2) pair.2) ↔
        (∃ key, entry.1.Holds key) ∧ ∃ value, backed.Reads (Value.ofReply entry.2) value := by
    simp [Prod.exists]
  simp only [← hEntry, ← exists_forall₂_iff, reads_map_iff hKnown hItems hEven]
  constructor
  · rintro ⟨_, pairs, rfl, hPairs⟩
    exact ⟨pairs, hPairs⟩
  · rintro ⟨pairs, hPairs⟩
    exact ⟨_, pairs, rfl, hPairs⟩

theorem writesEntries_of_reads
    (hKnown : backed.cache.names ≤ backed.server.names)
    (hItems : payload.toItems "map value" = .ok items)
    (hEven : items.length % 2 = 0)
    {value : Value}
    (hReads : backed.Reads (Value.ofTagged .map payload) value) :
    ∃ entries, value = .map entries ∧ backed.WritesEntries items entries := by
  obtain ⟨pairs, rfl, hPairs⟩ := (reads_map_iff hKnown hItems hEven).mp hReads
  exact ⟨_, rfl, Fields.lastWrites_ofList (fun _ _ _ hKey hOther => hKey.unique hOther) hPairs⟩

end Maps

theorem writesProperties_of_direct
    (hKnown : backed.cache.names ≤ backed.server.names)
    {reply : Reply}
    {properties : Fields Value}
    (hOk : (Value.ofProperties reply).direct backed.server.names = .ok properties) :
    backed.WritesProperties reply properties := by
  cases hTriples : reply.toItems "properties" with
  | error reason =>
      cases reply with
      | array _ | nil => cases hTriples
      | _ => cases hOk
  | ok triples =>
      rw [Value.ofProperties_eq hTriples] at hOk
      obtain ⟨pairs, hPairs, hFields⟩ := Lookup.direct_bind_eq_ok_iff.mp hOk
      cases hFields
      refine ⟨triples, hTriples, Fields.lastWrites_ofList (Triple.Named.unique _) ?_⟩
      exact (Lookup.direct_mapM_eq_ok_iff.mp hPairs).imp fun _ _ hPair =>
        (Value.reads_ofTriple_iff hKnown).mp hPair

/--
**The last write wins, and nothing is lost.**  Through a cache that holds the beginnings of the
lists of its server, a map of odd length is refused, and neither the cache nor the server takes
notice.  A map of even length is read exactly if each key in it is a text and each value can be
read, those that are hidden by a later entry of the same key included; it then has the keys that
are sent and under each of them the value of the last entry.  In the same way a node or an edge
has the names that its property list resolves to, as many as there are different ones, and under
each name the value of the last triple with this name, whichever index stands for it.
-/
theorem reads_lastWrites
    (backed : Backed Server)
    (hKnown : backed.cache.names ≤ backed.server.names) :
    (∀ payload items, payload.toItems "map value" = .ok items →
      (items.length % 2 = 1 →
        backed.read (Value.ofTagged .map payload) =
          (.error (.malformed (.unexpectedShape "even number of key/value entries" "map value")),
            backed)) ∧
      (items.length % 2 = 0 →
        ((∃ value, backed.Reads (Value.ofTagged .map payload) value) ↔
          ∀ entry ∈ Reply.turns items,
            (∃ key, entry.1.Holds key) ∧ ∃ value, backed.Reads (Value.ofReply entry.2) value) ∧
        ∀ value, backed.Reads (Value.ofTagged .map payload) value →
          ∃ entries, value = .map entries ∧ backed.WritesEntries items entries)) ∧
    (∀ reply node, backed.Reads (Node.ofReply reply) node →
      ∃ id labels properties, reply = .array [id, labels, properties] ∧
        backed.WritesProperties properties node.properties) ∧
    ∀ reply edge, backed.Reads (Edge.ofReply reply) edge →
      ∃ id type source destination properties,
        reply = .array [id, type, source, destination, properties] ∧
          backed.WritesProperties properties edge.properties := by
  refine ⟨fun payload items hItems => ⟨read_map_odd backed hItems, fun hEven => ?_⟩, ?_, ?_⟩
  · exact ⟨exists_reads_map_iff hKnown hItems hEven,
      fun _ hReads => writesEntries_of_reads hKnown hItems hEven hReads⟩
  · intro reply node hReads
    obtain ⟨id, labels, properties, rfl, hProperties⟩ :=
      Node.exists_of_direct_ofReply ((reads_iff_direct hKnown).mp hReads)
    exact ⟨id, labels, properties, rfl, writesProperties_of_direct hKnown hProperties⟩
  · intro reply edge hReads
    obtain ⟨id, type, source, destination, properties, rfl, hProperties⟩ :=
      Edge.exists_of_direct_ofReply ((reads_iff_direct hKnown).mp hReads)
    exact ⟨id, type, source, destination, properties, rfl,
      writesProperties_of_direct hKnown hProperties⟩

end Backed

namespace Sample

/-- A server of which a label and a property key stand in two places of their lists. -/
def doubled : Server := .ofNames ⟨["City", "Person", "City"], ["KNOWS"], ["name", "age", "name"]⟩

/-- A node whose first property is written again through the other index of its key. -/
def renamed : Reply :=
  .array
    [.integer 7, .array [],
     .array
      [.array [.integer 0, .integer 2, .ofText "Ann"], .array [.integer 1, .integer 3, .integer 30],
       .array [.integer 2, .integer 2, .ofText "Anna"]]]

end Sample

/-- A map without its last value and a node with a key that has two indices. -/
theorem Backed.reads_lastWrites_sample :
    Sample.cache.names ≤ Sample.doubled.names ∧
    (Backed.mk Sample.cache Sample.doubled).read
        (Value.ofTagged .map (.array [.ofText "a", .tagged .null .nil, .ofText "a"])) =
      (.error (.malformed (.unexpectedShape "even number of key/value entries" "map value")),
        ⟨Sample.cache, Sample.doubled⟩) ∧
    ∃ node, (Backed.mk Sample.cache Sample.doubled).Reads (Node.ofReply Sample.renamed) node ∧
      Fields.find? "name" node.properties = some (.string "Anna") ∧ node.properties.length = 2 := by
  have hKnown : Sample.cache.names ≤ Sample.doubled.names := by decide
  obtain ⟨hMap, hNode, -⟩ := reads_lastWrites ⟨Sample.cache, Sample.doubled⟩ hKnown
  refine ⟨hKnown, (hMap _ _ rfl).1 rfl, _, rfl, ?_⟩
  obtain ⟨_, _, _, ⟨⟩, triples, ⟨⟩, hWrites⟩ := hNode Sample.renamed _ rfl
  obtain ⟨value, ⟨_, _, _, _, ⟨⟩, ⟨⟩, ⟨⟩⟩, hFound⟩ := hWrites.find?_eq
    [.array [.integer 0, .integer 2, .ofText "Ann"], .array [.integer 1, .integer 3, .integer 30]]
    (.array [.integer 2, .integer 2, .ofText "Anna"]) [] "name" rfl
    ⟨_, _, _, rfl, 2, rfl, rfl⟩ (by simp)
  exact ⟨hFound, rfl⟩

end GraphClient
