import GraphClient.Value.Entity
import Mathlib.Data.List.Basic
import Mathlib.Data.List.Induction

/-!
# Two ways to make a path

A path is made of a list of nodes and a list of edges that fit together, or in steps: a builder
takes nodes and edges one by one, each where it is due.

**Alternation.**  Steps alternate if nodes stand at the even places and edges at the odd ones
(`PathStep.Alternates`).  After steps that alternate, a builder holds their nodes and their edges,
and how many these are says which of the two is due (`PathStep.length_of_alternates`).  So a
builder takes one step more exactly if the steps go on alternating, and by induction from the end
it takes all steps of a list exactly if they alternate (`PathBuilder.addAll_eq_ok_iff`).

**Finishing.**  The nodes and edges of alternating steps fit together if the last step is a node
or if there is none (`PathStep.closed_iff_fits`).  Conversely, lists that fit together are those
of alternating steps (`PathStep.exists_of_fits`).

**Results.**  `PathBuilder.agrees_with_ofLists` puts the two ways side by side and says what
stands at the positions of a path.
-/

namespace GraphClient

/-- A step in the making of a path. -/
inductive PathStep where
  | addNode (node : Node)
  | addEdge (edge : Edge)

namespace PathStep

def node? : PathStep → Option Node
  | .addNode node => some node
  | .addEdge _ => none

def edge? : PathStep → Option Edge
  | .addNode _ => none
  | .addEdge edge => some edge

def isNode (step : PathStep) : Bool := step.node?.isSome

/-- The nodes among the steps, in order. -/
def nodes (steps : List PathStep) : List Node := steps.filterMap node?

/-- The edges among the steps, in order. -/
def edges (steps : List PathStep) : List Edge := steps.filterMap edge?

/-- Nodes stand at the even places and edges at the odd ones. -/
def Alternates (steps : List PathStep) : Prop :=
  ∀ index step, steps[index]? = some step → (step.isNode = true ↔ index % 2 = 0)

/-- The last step is a node, if there is any step. -/
def Closed (steps : List PathStep) : Prop :=
  steps = [] ∨ ∃ node, steps.getLast? = some (.addNode node)

variable {steps : List PathStep} {step : PathStep}

@[simp] theorem nodes_snoc : nodes (steps ++ [step]) = nodes steps ++ step.node?.toList := by
  rw [nodes, List.filterMap_append]
  cases step <;> rfl

@[simp] theorem edges_snoc : edges (steps ++ [step]) = edges steps ++ step.edge?.toList := by
  rw [edges, List.filterMap_append]
  cases step <;> rfl

theorem alternates_nil : Alternates [] := by
  intro index step hStep
  cases hStep

/-- One step more goes on alternating if it is of the kind that its place asks for. -/
theorem alternates_snoc :
    Alternates (steps ++ [step]) ↔
      Alternates steps ∧ (step.isNode = true ↔ steps.length % 2 = 0) := by
  constructor
  · intro hAll
    refine ⟨fun index found hFound => hAll index found ?_, hAll _ step List.getElem?_concat_length⟩
    rwa [List.getElem?_append_left (List.getElem?_eq_some_iff.mp hFound).1]
  · rintro ⟨hSteps, hStep⟩ index found hFound
    rcases Nat.lt_trichotomy index steps.length with hBefore | rfl | hBeyond
    · rw [List.getElem?_append_left hBefore] at hFound
      exact hSteps index found hFound
    · rw [List.getElem?_concat_length] at hFound
      cases hFound
      exact hStep
    · have hLength : (steps ++ [step]).length ≤ index := by
        rw [List.length_append, List.length_singleton]
        exact hBeyond
      rw [List.getElem?_eq_none hLength] at hFound
      cases hFound

/-- A node is due behind an even number of steps, and an edge behind an odd one. -/
theorem alternates_snoc_node {node : Node} :
    Alternates (steps ++ [.addNode node]) ↔ Alternates steps ∧ steps.length % 2 = 0 := by
  simp [alternates_snoc, isNode, node?]

theorem alternates_snoc_edge {edge : Edge} :
    Alternates (steps ++ [.addEdge edge]) ↔ Alternates steps ∧ steps.length % 2 = 1 := by
  simp [alternates_snoc, isNode, node?]

/-- Half of the steps that alternate are nodes, and one more if their number is odd. -/
theorem length_of_alternates (hSteps : Alternates steps) :
    (nodes steps).length = (steps.length + 1) / 2 ∧ (edges steps).length = steps.length / 2 := by
  induction steps using List.reverseRecOn with
  | nil => exact ⟨rfl, rfl⟩
  | append_singleton before step ih =>
      obtain ⟨hNodes, hEdges⟩ := ih (alternates_snoc.mp hSteps).1
      rw [nodes_snoc, edges_snoc, List.length_append, List.length_append, List.length_append,
        hNodes, hEdges]
      cases step with
      | addNode node =>
          obtain ⟨-, hEven⟩ := alternates_snoc_node.mp hSteps
          simp only [node?, edge?, Option.toList, List.length_singleton, List.length_nil]
          omega
      | addEdge edge =>
          obtain ⟨-, hOdd⟩ := alternates_snoc_edge.mp hSteps
          simp only [node?, edge?, Option.toList, List.length_singleton, List.length_nil]
          omega

/-- Steps that do not alternate have a first one that is out of place. -/
theorem exists_first_break (hSteps : ¬ Alternates steps) :
    ∃ before step rest, steps = before ++ step :: rest ∧
      Alternates before ∧ ¬ Alternates (before ++ [step]) := by
  induction steps using List.reverseRecOn with
  | nil => exact absurd alternates_nil hSteps
  | append_singleton front last ih =>
      by_cases hFront : Alternates front
      · exact ⟨front, last, [], rfl, hFront, hSteps⟩
      · obtain ⟨before, step, rest, rfl, hBefore, hBreak⟩ := ih hFront
        exact ⟨before, step, rest ++ [last], by simp, hBefore, hBreak⟩

/-- Steps that alternate end in a node if their number is odd. -/
theorem closed_iff_fits (hSteps : Alternates steps) :
    Closed steps ↔ Path.Fits (nodes steps).length (edges steps).length := by
  obtain ⟨hNodes, hEdges⟩ := length_of_alternates hSteps
  rw [hNodes, hEdges, Path.Fits, Closed]
  cases hLast : steps.getLast? with
  | none =>
      rw [List.getLast?_eq_none_iff] at hLast
      subst hLast
      simp
  | some step =>
      obtain ⟨front, rfl⟩ := List.getLast?_eq_some_iff.mp hLast
      rw [List.length_append, List.length_singleton, if_neg (by omega)]
      cases step with
      | addNode node =>
          obtain ⟨-, hEven⟩ := alternates_snoc_node.mp hSteps
          exact iff_of_true (Or.inr ⟨node, rfl⟩) (by omega)
      | addEdge edge =>
          obtain ⟨-, hOdd⟩ := alternates_snoc_edge.mp hSteps
          refine iff_of_false ?_ (by omega)
          rintro (hNil | ⟨node, ⟨⟩⟩)
          exact absurd hNil (by simp)

/-- Lists that fit together are taken in turns. -/
theorem exists_of_fits
    {nodes : List Node}
    {edges : List Edge}
    (hFits : Path.Fits nodes.length edges.length) :
    ∃ steps, Alternates steps ∧ PathStep.nodes steps = nodes ∧ PathStep.edges steps = edges := by
  induction edges using List.reverseRecOn generalizing nodes with
  | nil =>
      match nodes, hFits with
      | [], _ => exact ⟨[], alternates_nil, rfl, rfl⟩
      | [node], _ =>
          exact ⟨[.addNode node], alternates_snoc_node.mpr ⟨alternates_nil, rfl⟩, rfl, rfl⟩
  | append_singleton front edge ih =>
      obtain rfl | ⟨first, node, rfl⟩ := nodes.eq_nil_or_concat'
      · simp [Path.Fits] at hFits
      · have hLengths : first.length = front.length + 1 := by simpa [Path.Fits] using hFits
        have hFirst : Path.Fits first.length front.length := by
          rw [Path.Fits, if_neg (by omega)]
          exact hLengths
        obtain ⟨steps, hSteps, rfl, rfl⟩ := ih hFirst
        obtain ⟨hNodes, hEdges⟩ := length_of_alternates hSteps
        have hOdd : steps.length % 2 = 1 := by omega
        have hEven : (steps ++ [PathStep.addEdge edge]).length % 2 = 0 := by
          rw [List.length_append, List.length_singleton]
          omega
        refine ⟨steps ++ [.addEdge edge] ++ [.addNode node], ?_, ?_, ?_⟩
        · exact alternates_snoc_node.mpr ⟨alternates_snoc_edge.mpr ⟨hSteps, hOdd⟩, hEven⟩
        · rw [nodes_snoc, nodes_snoc, node?, node?]
          simp
        · rw [edges_snoc, edges_snoc, edge?, edge?]
          simp

end PathStep

namespace Path

variable {α : Type} {items : List α} {index : Nat}

theorem element_eq_ok_iff {item : α} :
    element items index = .ok item ↔ items[index]? = some item := by
  unfold element
  cases items[index]? <;> simp

theorem exists_element_ok_iff :
    (∃ item, element items index = .ok item) ↔ index < items.length := by
  simp only [element_eq_ok_iff, List.getElem?_eq_some_iff]
  exact ⟨fun ⟨_, hIndex, _⟩ => hIndex, fun hIndex => ⟨_, hIndex, rfl⟩⟩

/-- What stands at the positions of a path, told from its number of nodes. -/
structure Positioned (path : Path) : Prop where
  nodeAt : ∀ index node, path.nodeAt index = .ok node ↔ path.nodes[index]? = some node
  edgeAt : ∀ index edge, path.edgeAt index = .ok edge ↔ path.edges[index]? = some edge
  nodeAt_ok : ∀ index, (∃ node, path.nodeAt index = .ok node) ↔ index < path.nodes.length
  edgeAt_ok : ∀ index, (∃ edge, path.edgeAt index = .ok edge) ↔ index + 1 < path.nodes.length
  lastNode : ∀ node, path.nodes.getLast? = some node → path.lastNode = .ok node
  ends_of_empty : path.nodes = [] →
    path.firstNode = .error (.outOfBounds 0 0) ∧ path.lastNode = .error (.outOfBounds 0 0)

theorem positioned_of_fits {path : Path} (hFits : Fits path.nodes.length path.edges.length) :
    path.Positioned where
  nodeAt _ _ := element_eq_ok_iff
  edgeAt _ _ := element_eq_ok_iff
  nodeAt_ok _ := exists_element_ok_iff
  edgeAt_ok index := by
    have hLast : index < path.edges.length ↔ index + 1 < path.nodes.length := by
      unfold Fits at hFits
      split at hFits <;> omega
    exact exists_element_ok_iff.trans hLast
  lastNode node hNode := by
    rw [List.getLast?_eq_getElem?] at hNode
    exact element_eq_ok_iff.mpr hNode
  ends_of_empty hNil := by
    rw [firstNode, Path.lastNode, Path.nodeAt, Path.nodeAt, hNil]
    exact ⟨rfl, rfl⟩

theorem ofLists_eq_ok_iff {nodes : List Node} {edges : List Edge} {path : Path} :
    ofLists nodes edges = .ok path ↔ Fits nodes.length edges.length ∧ path = ⟨nodes, edges⟩ := by
  unfold ofLists
  split
  · next hFits => simp [hFits, eq_comm]
  · next hFits => simp [hFits]

end Path

namespace PathBuilder

def add (builder : PathBuilder) : PathStep → Except Failure PathBuilder
  | .addNode node => builder.addNode node
  | .addEdge edge => builder.addEdge edge

/-- Takes steps from the beginning, up to the first that is refused. -/
def addAll (steps : List PathStep) : Except Failure PathBuilder := steps.foldlM add empty

/-- The builder that holds the nodes and edges of given steps. -/
def ofSteps (steps : List PathStep) : PathBuilder := ⟨PathStep.nodes steps, PathStep.edges steps⟩

/-- The failure of a step that is out of place. -/
def misplaced : PathStep → Failure
  | .addNode _ => .invalidArgument "path builder expected an edge but got a node"
  | .addEdge _ => .invalidArgument "path builder expected a node but got an edge"

/-- The failure of a path that ends in an edge. -/
def unfinished : Failure :=
  .invalidArgument "path builder nodes count should be edge count + 1"

variable {steps : List PathStep} {step : PathStep}

open PathStep (Alternates Closed)

theorem add_of_alternates (hSteps : Alternates (steps ++ [step])) :
    (ofSteps steps).add step = .ok (ofSteps (steps ++ [step])) := by
  obtain ⟨hNodes, hEdges⟩ :=
    PathStep.length_of_alternates (PathStep.alternates_snoc.mp hSteps).1
  rw [ofSteps, ofSteps, PathStep.nodes_snoc, PathStep.edges_snoc]
  cases step with
  | addNode node =>
      obtain ⟨-, hEven⟩ := PathStep.alternates_snoc_node.mp hSteps
      have hDue : (PathStep.nodes steps).length = (PathStep.edges steps).length := by omega
      rw [add, addNode, if_pos hDue]
      simp [PathStep.node?, PathStep.edge?]
  | addEdge edge =>
      obtain ⟨-, hOdd⟩ := PathStep.alternates_snoc_edge.mp hSteps
      have hDue : (PathStep.nodes steps).length = (PathStep.edges steps).length + 1 := by omega
      rw [add, addEdge, if_pos hDue]
      simp [PathStep.node?, PathStep.edge?]

theorem add_of_not_alternates
    (hSteps : Alternates steps)
    (hBreak : ¬ Alternates (steps ++ [step])) :
    (ofSteps steps).add step = .error (misplaced step) := by
  obtain ⟨hNodes, hEdges⟩ := PathStep.length_of_alternates hSteps
  cases step with
  | addNode node =>
      have hOdd : steps.length % 2 ≠ 0 :=
        fun hEven => hBreak (PathStep.alternates_snoc_node.mpr ⟨hSteps, hEven⟩)
      have hDue : (PathStep.nodes steps).length ≠ (PathStep.edges steps).length := by omega
      rw [add, addNode, ofSteps, if_neg hDue]
      rfl
  | addEdge edge =>
      have hEven : steps.length % 2 ≠ 1 :=
        fun hOdd => hBreak (PathStep.alternates_snoc_edge.mpr ⟨hSteps, hOdd⟩)
      have hDue : (PathStep.nodes steps).length ≠ (PathStep.edges steps).length + 1 := by omega
      rw [add, addEdge, ofSteps, if_neg hDue]
      rfl

/-- By induction from the end: what steps that alternate leave is known when the next is taken. -/
theorem addAll_of_alternates (hSteps : Alternates steps) : addAll steps = .ok (ofSteps steps) := by
  induction steps using List.reverseRecOn with
  | nil => rfl
  | append_singleton front last ih =>
      have hFront := ih (PathStep.alternates_snoc.mp hSteps).1
      rw [addAll] at hFront ⊢
      rw [List.foldlM_append, hFront]
      change (ofSteps front).add last >>= pure = _
      rw [add_of_alternates hSteps]
      rfl

theorem addAll_of_break
    (rest : List PathStep)
    (hSteps : Alternates steps)
    (hBreak : ¬ Alternates (steps ++ [step])) :
    addAll (steps ++ step :: rest) = .error (misplaced step) := by
  have hTaken := addAll_of_alternates hSteps
  rw [addAll] at hTaken ⊢
  rw [List.foldlM_append, hTaken]
  change (ofSteps steps).add step >>= (fun builder => rest.foldlM add builder) = _
  rw [add_of_not_alternates hSteps hBreak]
  rfl

theorem addAll_eq_ok_iff {builder : PathBuilder} :
    addAll steps = .ok builder ↔ Alternates steps ∧ builder = ofSteps steps := by
  constructor
  · intro hOk
    by_cases hSteps : Alternates steps
    · rw [addAll_of_alternates hSteps] at hOk
      exact ⟨hSteps, (Except.ok.inj hOk).symm⟩
    · obtain ⟨before, step, rest, rfl, hBefore, hBreak⟩ := PathStep.exists_first_break hSteps
      rw [addAll_of_break rest hBefore hBreak] at hOk
      cases hOk
  · rintro ⟨hSteps, rfl⟩
    exact addAll_of_alternates hSteps

theorem build_of_closed (hSteps : Alternates steps) (hClosed : Closed steps) :
    (ofSteps steps).build = .ok ⟨PathStep.nodes steps, PathStep.edges steps⟩ := by
  have hFits := (PathStep.closed_iff_fits hSteps).mp hClosed
  rw [build, if_neg, Path.ofLists, ofSteps, if_pos hFits]
  · rfl
  · rintro ⟨hNodes, hLengths⟩
    have hSome : (PathStep.nodes steps).length ≠ 0 := fun hZero =>
      hNodes (List.length_eq_zero_iff.mp hZero)
    rw [Path.Fits, if_neg hSome] at hFits
    exact hLengths hFits

theorem build_of_not_closed (hSteps : Alternates steps) (hOpen : ¬ Closed steps) :
    (ofSteps steps).build = .error unfinished := by
  have hFits := mt (PathStep.closed_iff_fits hSteps).mpr hOpen
  obtain ⟨hNodes, hEdges⟩ := PathStep.length_of_alternates hSteps
  have hSome : (PathStep.nodes steps).length ≠ 0 := by
    intro hZero
    rw [Path.Fits, if_pos hZero] at hFits
    omega
  rw [Path.Fits, if_neg hSome] at hFits
  rw [build, if_pos]
  · rfl
  · exact ⟨fun hNil => hSome (congrArg List.length hNil), hFits⟩

/-- What comes of steps when a builder takes them and is asked for the path. -/
structure Course (steps : List PathStep) : Prop where
  accepted : (∃ builder, addAll steps = .ok builder) ↔ Alternates steps
  /-- The first step out of place is refused, whatever follows it. -/
  refused : ¬ Alternates steps → ∃ before step rest, steps = before ++ step :: rest ∧
    Alternates before ∧ ¬ Alternates (before ++ [step]) ∧ addAll steps = .error (misplaced step)
  finished : ∀ builder, addAll steps = .ok builder →
    ((∃ path, builder.build = .ok path) ↔ Closed steps)
  contents : ∀ builder path, addAll steps = .ok builder → builder.build = .ok path →
    path = ⟨PathStep.nodes steps, PathStep.edges steps⟩
  incomplete : ∀ builder failure, addAll steps = .ok builder → builder.build = .error failure →
    failure = unfinished

theorem build_cases
    {builder : PathBuilder}
    (hTaken : addAll steps = .ok builder) :
    (Closed steps ∧ builder.build = .ok ⟨PathStep.nodes steps, PathStep.edges steps⟩) ∨
      (¬ Closed steps ∧ builder.build = .error unfinished) := by
  obtain ⟨hSteps, rfl⟩ := addAll_eq_ok_iff.mp hTaken
  by_cases hClosed : Closed steps
  · exact Or.inl ⟨hClosed, build_of_closed hSteps hClosed⟩
  · exact Or.inr ⟨hClosed, build_of_not_closed hSteps hClosed⟩

theorem course (steps : List PathStep) : Course steps where
  accepted := by simp only [addAll_eq_ok_iff, exists_and_left, exists_eq, and_true]
  refused hSteps := by
    obtain ⟨before, step, rest, rfl, hBefore, hBreak⟩ := PathStep.exists_first_break hSteps
    exact ⟨before, step, rest, rfl, hBefore, hBreak, addAll_of_break rest hBefore hBreak⟩
  finished builder hTaken := by
    rcases build_cases hTaken with ⟨hClosed, hBuild⟩ | ⟨hOpen, hBuild⟩
    · exact iff_of_true ⟨_, hBuild⟩ hClosed
    · exact iff_of_false (by simp [hBuild]) hOpen
  contents builder path hTaken hPath := by
    rcases build_cases hTaken with ⟨-, hBuild⟩ | ⟨-, hBuild⟩
    · exact Except.ok.inj (hPath.symm.trans hBuild)
    · cases hPath.symm.trans hBuild
  incomplete builder failure hTaken hFailure := by
    rcases build_cases hTaken with ⟨-, hBuild⟩ | ⟨-, hBuild⟩
    · cases hFailure.symm.trans hBuild
    · exact Except.error.inj (hFailure.symm.trans hBuild)

/--
**A builder makes the paths that lists make.**  It takes steps exactly if they alternate, a node
first, and otherwise refuses the first that is out of place, as an invalid argument.  After steps
that alternate it makes a path exactly if there is no step or the last is a node.  That path holds
the nodes and the edges of the steps in order, and the failure to make one is again an invalid
argument.  Two lists make a path exactly if they are the nodes and the edges of steps from which
a builder makes that same path.  A path of either kind has a node at every position below the
number of its nodes, an edge at every position but the last of these, and its last node at its
end; without nodes, both ends are out of bounds.
-/
theorem agrees_with_ofLists :
    (∀ steps, Course steps) ∧
    (∀ nodes edges path, Path.ofLists nodes edges = .ok path ↔
      ∃ steps builder, PathStep.nodes steps = nodes ∧ PathStep.edges steps = edges ∧
        addAll steps = .ok builder ∧ builder.build = .ok path) ∧
    ∀ nodes edges path, Path.ofLists nodes edges = .ok path → path.Positioned := by
  refine ⟨course, fun nodes edges path => ?_, fun nodes edges path hPath => ?_⟩
  · constructor
    · intro hPath
      obtain ⟨hFits, rfl⟩ := Path.ofLists_eq_ok_iff.mp hPath
      obtain ⟨steps, hSteps, rfl, rfl⟩ := PathStep.exists_of_fits hFits
      have hClosed := (PathStep.closed_iff_fits hSteps).mpr hFits
      exact ⟨steps, ofSteps steps, rfl, rfl, addAll_of_alternates hSteps,
        build_of_closed hSteps hClosed⟩
    · rintro ⟨steps, builder, rfl, rfl, hTaken, hPath⟩
      obtain ⟨hSteps, rfl⟩ := addAll_eq_ok_iff.mp hTaken
      have hClosed := ((course steps).finished _ hTaken).mp ⟨path, hPath⟩
      have hFits := (PathStep.closed_iff_fits hSteps).mp hClosed
      exact Path.ofLists_eq_ok_iff.mpr ⟨hFits, (course steps).contents _ path hTaken hPath⟩
  · obtain ⟨hFits, rfl⟩ := Path.ofLists_eq_ok_iff.mp hPath
    exact Path.positioned_of_fits hFits

end PathBuilder

end GraphClient
