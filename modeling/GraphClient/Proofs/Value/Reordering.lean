import GraphClient.Proofs.Value.LastWrite
import Mathlib.Data.List.Perm.Basic

/-!
# The order of labels and of properties

A node is sent with a list of labels and a list of properties, and the order of either says
nothing about the node but the order of its labels.

**Setting.**  Two payloads have the same id, the same label indices and the same triples in some
order each (`Node.HasParts`).  The keys of the triples stand for different names.  Both are read
through the same cache, which holds the beginnings of the lists of its server.

**Results.**  Either both payloads make a node or neither does, since each part is read on its own
(`Node.direct_ofReply_eq_ok_iff`).  The two nodes hold the same (`Node.SameContent`), and the cache
ends with the same lists, since the same names are asked for (`Backed.read_reordered`).  The labels
of a node are the names of its indices in their order, each at the place where it comes first.
-/

namespace GraphClient

namespace Node

/-- The payload of a node with this id, these label indices and these properties. -/
def HasParts (reply id : Reply) (indices triples : List Reply) : Prop :=
  ∃ labels properties, reply = .array [id, labels, properties] ∧
    labels.toItems "node labels" = .ok indices ∧ properties.toItems "properties" = .ok triples

/-- Two nodes differ in the order of their labels at most. -/
structure SameContent (node other : Node) : Prop where
  id_eq : node.id = other.id
  mem_labels_iff : ∀ label, label ∈ node.labels ↔ label ∈ other.labels
  properties_eq : node.properties = other.properties

/-- The labels are the names of the indices, of which later repetitions are left out. -/
def LabelsFollow (names : Names) (indices : List Reply) (node : Node) : Prop :=
  ∃ sent, List.Forall₂ (fun index name => names.Sent .label name index) indices sent ∧
    node.labels = sent.eraseDups

variable {names : Names} {reply id : Reply} {indices triples : List Reply}

/-- A node is read part by part. -/
theorem direct_ofReply_eq_ok_iff
    (hParts : HasParts reply id indices triples)
    {node : Node} :
    (ofReply reply).direct names = .ok node ↔
      ∃ number sent pairs, id.toInteger "node id" = .ok number ∧
        List.Forall₂ (fun index name => names.Sent .label name index) indices sent ∧
        List.Forall₂ (fun triple pair => (Value.ofTriple triple).direct names = .ok pair)
          triples pairs ∧
        node = ⟨number, sent.eraseDups, Fields.ofList pairs⟩ := by
  obtain ⟨labels, properties, rfl, hLabels, hProperties⟩ := hParts
  cases hId : id.toInteger "node id" with
  | error reason =>
      simp [ofReply, assemble, hId, Lookup.direct_bind_eq_ok_iff, Lookup.direct_lift_eq_ok_iff]
  | ok number =>
      rw [ofReply_eq hId hLabels hProperties]
      simp only [Lookup.direct_bind_eq_ok_iff, Lookup.direct_mapM_eq_ok_iff,
        direct_sentName_eq_ok_iff]
      constructor
      · rintro ⟨sent, hSent, pairs, hPairs, ⟨⟩⟩
        exact ⟨number, sent, pairs, rfl, hSent, hPairs, rfl⟩
      · rintro ⟨_, sent, pairs, ⟨⟩, hSent, hPairs, rfl⟩
        exact ⟨sent, hSent, pairs, hPairs, rfl⟩

/-- A node that can be read asks for the names of its labels and of its properties. -/
theorem demand_ofReply
    (hParts : HasParts reply id indices triples)
    {node : Node}
    (hNode : (ofReply reply).direct names = .ok node) :
    (ofReply reply).demand names =
      (indices.flatMap fun index => (sentName .label "node label id" index).demand names) ++
        triples.flatMap fun triple => (Value.ofTriple triple).demand names := by
  obtain ⟨number, sent, pairs, hId, hSent, hPairs, -⟩ := (direct_ofReply_eq_ok_iff hParts).mp hNode
  obtain ⟨labels, properties, rfl, hLabels, hProperties⟩ := hParts
  have hNames : List.Forall₂
      (fun index name => (sentName .label "node label id" index).direct names = .ok name)
      indices sent :=
    hSent.imp fun _ _ hName => direct_sentName_eq_ok_iff.mpr hName
  rw [ofReply_eq hId hLabels hProperties,
    Lookup.demand_bind_ok (Lookup.direct_mapM_eq_ok_iff.mpr hNames),
    Lookup.demand_bind_ok (Lookup.direct_mapM_eq_ok_iff.mpr hPairs), Lookup.demand_pure,
    List.append_nil, Lookup.demand_mapM_ok hNames, Lookup.demand_mapM_ok hPairs]

theorem labelsFollow_of_direct
    (hParts : HasParts reply id indices triples)
    {node : Node}
    (hNode : (ofReply reply).direct names = .ok node) :
    node.LabelsFollow names indices := by
  obtain ⟨number, sent, pairs, -, hSent, -, rfl⟩ := (direct_ofReply_eq_ok_iff hParts).mp hNode
  exact ⟨sent, hSent, rfl⟩

section Reordered

variable {other : Reply} {indices' triples' : List Reply}
variable (hParts : HasParts reply id indices triples)
variable (hOther : HasParts other id indices' triples')
variable (hIndices : indices.Perm indices')
variable (hTriples : triples.Perm triples')

include hParts hOther hIndices hTriples

/-- A node can be read if it can be read in another order. -/
theorem exists_direct_of_perm
    (hNode : ∃ node, (ofReply reply).direct names = .ok node) :
    ∃ node, (ofReply other).direct names = .ok node := by
  obtain ⟨node, hNode⟩ := hNode
  obtain ⟨number, sent, pairs, hId, hSent, hPairs, -⟩ := (direct_ofReply_eq_ok_iff hParts).mp hNode
  obtain ⟨sent', hSent', -⟩ := List.perm_comp_forall₂ hIndices.symm hSent
  obtain ⟨pairs', hPairs', -⟩ := List.perm_comp_forall₂ hTriples.symm hPairs
  exact ⟨_, (direct_ofReply_eq_ok_iff hOther).mpr
    ⟨number, sent', pairs', hId, hSent', hPairs', rfl⟩⟩

/-- Whatever the order, a node with different property names holds the same. -/
theorem sameContent_of_perm
    (hDistinct : triples.Pairwise fun triple later =>
      ∀ name, Triple.Named names triple name → ¬ Triple.Named names later name)
    {node node' : Node}
    (hNode : (ofReply reply).direct names = .ok node)
    (hNode' : (ofReply other).direct names = .ok node') :
    node.SameContent node' := by
  obtain ⟨number, sent, pairs, hId, hSent, hPairs, rfl⟩ :=
    (direct_ofReply_eq_ok_iff hParts).mp hNode
  obtain ⟨_, sent', pairs', hId', hSent', hPairs', rfl⟩ :=
    (direct_ofReply_eq_ok_iff hOther).mp hNode'
  cases hId.symm.trans hId'
  have hLabels : sent.Perm sent' :=
    List.rel_perm_imp (Names.Sent.unique names .label) hSent hSent' hIndices
  have hSame : pairs.Perm pairs' :=
    List.rel_perm_imp (fun _ _ _ hPair hLater => Except.ok.inj (hPair.symm.trans hLater))
      hPairs hPairs' hTriples
  have hNames : List.Forall₂ (Triple.Named names) triples (Fields.names pairs) :=
    List.forall₂_map_right_iff.mpr
      (hPairs.imp fun _ _ hPair => (Value.direct_ofTriple_eq_ok_iff.mp hPair).1)
  have hNodup := nodup_of_forall₂ (Triple.Named.unique names) hDistinct hNames
  refine ⟨rfl, fun label => ?_, ?_⟩
  · rw [List.mem_eraseDups, List.mem_eraseDups, hLabels.mem_iff]
  · exact Fields.ofList_of_perm (Fields.sorted_ofList pairs')
      (hSame.trans (Fields.ofList_perm ((Fields.perm_names hSame).nodup_iff.mp hNodup)).symm)

/-- Whatever the order, the same names are asked for. -/
theorem mem_demand_of_perm
    {node node' : Node}
    (hNode : (ofReply reply).direct names = .ok node)
    (hNode' : (ofReply other).direct names = .ok node')
    (place : Kind × Nat) :
    place ∈ (ofReply reply).demand names ↔ place ∈ (ofReply other).demand names := by
  rw [demand_ofReply hParts hNode, demand_ofReply hOther hNode']
  exact ((hIndices.flatMap_right _).append (hTriples.flatMap_right _)).mem_iff

end Reordered
end Node

/--
**Order is irrelevant.**  Let two payloads of a node have the same id, the same label indices and
the same triples in some order each, the triples with different names, and let both be read
through a cache that holds the beginnings of the lists of its server.  Then the one can be read
exactly if the other can, and the two nodes have the same id, the same labels in some order each,
and equal properties.  The cache ends with the same lists, and the labels of either node are the
names of its own indices in their order, without later repetitions.
-/
theorem Backed.read_reordered
    (backed : Backed Server)
    (hKnown : backed.cache.names ≤ backed.server.names)
    {reply other id : Reply}
    {indices indices' triples triples' : List Reply}
    (hParts : Node.HasParts reply id indices triples)
    (hOther : Node.HasParts other id indices' triples')
    (hIndices : indices.Perm indices')
    (hTriples : triples.Perm triples')
    (hDistinct : triples.Pairwise fun triple later =>
      ∀ name, Triple.Named backed.server.names triple name →
        ¬ Triple.Named backed.server.names later name) :
    ((∃ node, backed.Reads (Node.ofReply reply) node) ↔
      ∃ node, backed.Reads (Node.ofReply other) node) ∧
    ∀ node node', backed.Reads (Node.ofReply reply) node → backed.Reads (Node.ofReply other) node' →
      node.SameContent node' ∧
      (backed.read (Node.ofReply reply)).2.cache.names =
        (backed.read (Node.ofReply other)).2.cache.names ∧
      node.LabelsFollow backed.server.names indices ∧
      node'.LabelsFollow backed.server.names indices' := by
  simp only [reads_iff_direct hKnown]
  refine ⟨⟨Node.exists_direct_of_perm hParts hOther hIndices hTriples,
    Node.exists_direct_of_perm hOther hParts hIndices.symm hTriples.symm⟩, ?_⟩
  intro node node' hNode hNode'
  refine ⟨Node.sameContent_of_perm hParts hOther hIndices hTriples hDistinct hNode hNode', ?_,
    Node.labelsFollow_of_direct hParts hNode, Node.labelsFollow_of_direct hOther hNode'⟩
  exact names_run_eq Server.complete_source hKnown
    (Node.mem_demand_of_perm hParts hOther hIndices hTriples hNode hNode')

namespace Sample

def called : Reply := .array [.integer 0, .integer 2, .ofText "Ann"]

def aged : Reply := .array [.integer 1, .integer 3, .integer 30]

/-- A node whose first and last label have one name. -/
def forwards : Reply :=
  .array [.integer 7, .array [.integer 0, .integer 1, .integer 2], .array [called, aged]]

/-- The same node with its labels and properties in another order. -/
def backwards : Reply :=
  .array [.integer 7, .array [.integer 1, .integer 2, .integer 0], .array [aged, called]]

theorem distinct_called_aged :
    [called, aged].Pairwise fun triple later =>
      ∀ name, Triple.Named doubled.names triple name → ¬ Triple.Named doubled.names later name := by
  rw [List.pairwise_pair]
  rintro name ⟨_, _, _, ⟨⟩, index, hCalled, ⟨⟩⟩ ⟨_, _, _, ⟨⟩, position, hAged, ⟨⟩⟩
  cases hCalled
  exact absurd hAged (by decide)

/-- What is read of the two of them, but for the order of the labels. -/
def person (labels : List String) : Node :=
  ⟨7, labels, [("age", .integer 30), ("name", .string "Ann")]⟩

end Sample

/-- The labels of the two sample nodes come in different orders, and the nodes hold the same. -/
theorem Backed.read_reordered_sample :
    let backed : Backed Server := ⟨Sample.cache, Sample.doubled⟩
    backed.Reads (Node.ofReply Sample.forwards) (Sample.person ["City", "Person"]) ∧
    backed.Reads (Node.ofReply Sample.backwards) (Sample.person ["Person", "City"]) ∧
    (Sample.person ["City", "Person"]).SameContent (Sample.person ["Person", "City"]) := by
  intro backed
  have hKnown : Sample.cache.names ≤ Sample.doubled.names := by decide
  have hParts : Node.HasParts Sample.forwards (.integer 7)
      [.integer 0, .integer 1, .integer 2] [Sample.called, Sample.aged] := ⟨_, _, rfl, rfl, rfl⟩
  have hOther : Node.HasParts Sample.backwards (.integer 7)
      [.integer 1, .integer 2, .integer 0] [Sample.aged, Sample.called] := ⟨_, _, rfl, rfl, rfl⟩
  obtain ⟨-, hContent⟩ := read_reordered backed hKnown hParts hOther
    ((List.Perm.swap _ _ _).trans ((List.Perm.swap _ _ _).cons _)) (.swap _ _ _)
    Sample.distinct_called_aged
  exact ⟨rfl, rfl, (hContent _ _ rfl rfl).1⟩

end GraphClient
