import GraphClient.Proofs.Reply.Shapes
import GraphClient.Proofs.Table.Reach

/-!
# Names that are asked for

`Reaches` follows the readers by hand.  It leaves out no place: whenever the run of a
reading asks for a name, the index of the name is at a spot that is reached, in the state
in which it is asked for (`Table.covered_ofReply`).

**Asking.**  `Lookup.Asks` looks at the requests of a reading alone and knows nothing of
replies.  In a sequence, the first part asks or the second does, after a value of the
first (`Lookup.asks_bind`).

**Covering.**  That `Reaches` covers a reading is shown along the readers, one theorem for
each of them, and for values by the recursion of the reader.
-/

namespace GraphClient

namespace Lookup

variable {σ α β : Type}

/-- Started in a state, the reading comes to ask for a name, in the state `asking`. -/
inductive Asks
    (resolve : Kind → Nat → Attempt σ String)
    (kind : Kind)
    (index : Nat)
    (asking : σ) :
    Lookup α → σ → Prop
  | now {next : String → Lookup α} : Asks resolve kind index asking (.need kind index next) asking
  | later {other : Kind} {position : Nat} {name : String} {next : String → Lookup α}
      {state middle : σ} :
      (resolve other position).on state = (.ok name, middle) →
      Asks resolve kind index asking (next name) middle →
      Asks resolve kind index asking (.need other position next) state

variable {resolve : Kind → Nat → Attempt σ String} {kind : Kind} {index : Nat}
variable {asking state : σ}

theorem not_asks_pure {value : α} : ¬ (pure value : Lookup α).Asks resolve kind index asking state :=
  nofun

theorem not_asks_fail {reason : Malformed} :
    ¬ (Lookup.fail reason : Lookup α).Asks resolve kind index asking state :=
  nofun

theorem not_asks_lift {outcome : Except Malformed α} :
    ¬ (liftM outcome : Lookup α).Asks resolve kind index asking state := by
  cases outcome with
  | error reason => exact not_asks_fail
  | ok value => exact not_asks_pure

/-- In a sequence the first part asks, or the second after a value of the first. -/
theorem asks_bind
    {reading : Lookup α}
    {next : α → Lookup β}
    (hAsks : (reading >>= next).Asks resolve kind index asking state) :
    reading.Asks resolve kind index asking state ∨
    ∃ value middle, reading.Yields resolve state value middle ∧
      (next value).Asks resolve kind index asking middle := by
  induction reading generalizing state with
  | done value => exact Or.inr ⟨value, state, rfl, hAsks⟩
  | fail reason => exact absurd hAsks not_asks_fail
  | need other position rest ih =>
      rw [need_bind] at hAsks
      cases hAsks with
      | now => exact Or.inl .now
      | @later _ _ name _ _ middle hName hRest =>
          rcases ih name hRest with hFirst | ⟨value, last, hYields, hNext⟩
          · exact Or.inl (.later hName hFirst)
          · refine Or.inr ⟨value, last, ?_, hNext⟩
            rw [Yields, run, Attempt.on_bind, hName]
            exact hYields

/-- A part that needs no name does not ask, and the rest goes on in the same state. -/
theorem asks_lift
    {outcome : Except Malformed α}
    {next : α → Lookup β}
    (hAsks : (liftM outcome >>= next).Asks resolve kind index asking state) :
    ∃ value, outcome = .ok value ∧ (next value).Asks resolve kind index asking state := by
  cases outcome with
  | error reason => exact absurd hAsks not_asks_fail
  | ok value => exact ⟨value, rfl, hAsks⟩

/-- What is made of the value of a reading asks for nothing more. -/
theorem asks_bind_pure
    {reading : Lookup α}
    {finish : α → β}
    (hAsks : (reading >>= fun value => pure (finish value)).Asks resolve kind index asking state) :
    reading.Asks resolve kind index asking state := by
  rcases asks_bind hAsks with hFirst | ⟨value, middle, -, hNext⟩
  · exact hFirst
  · exact absurd hNext not_asks_pure

end Lookup

/-- Every name that the reading asks for is that of an index which the reading reaches. -/
def Covered
    {σ α : Type}
    (resolve : Kind → Nat → Attempt σ String)
    (reading : Lookup α) :
    Prop :=
  ∀ {kind index asking state}, reading.Asks resolve kind index asking state →
    ∃ context, Reaches resolve ⟨kind, context, .integer index, asking⟩ reading state

section Covering

variable {σ : Type} {resolve : Kind → Nat → Attempt σ String}

theorem covered_fail
    {α : Type}
    (reason : Malformed) :
    Covered resolve (.fail reason : Lookup α) :=
  fun hAsks => absurd hAsks Lookup.not_asks_fail

theorem covered_pure
    {α : Type}
    (value : α) :
    Covered resolve (pure value : Lookup α) :=
  fun hAsks => absurd hAsks Lookup.not_asks_pure

theorem covered_sentName
    (kind : Kind)
    (context : String)
    (reply : Reply) :
    Covered resolve (sentName kind context reply) := by
  intro asked index asking state hAsks
  obtain ⟨position, hIndex, hName⟩ := Lookup.asks_lift hAsks
  cases hName with
  | now =>
      obtain rfl := Reply.toIndex_eq_ok_iff.mp hIndex
      exact ⟨context, .here⟩
  | later _ hRest => exact absurd hRest Lookup.not_asks_pure

theorem covered_sentNames
    (kind : Kind)
    (context : String)
    (replies : List Reply) :
    Covered resolve (sentNames kind context replies) := by
  induction replies with
  | nil => exact covered_pure _
  | cons reply rest ih =>
      intro asked index asking state hAsks
      rcases Lookup.asks_bind hAsks with hFirst | ⟨name, middle, hName, hRest⟩
      · obtain ⟨place, hReaches⟩ := covered_sentName kind context reply hFirst
        exact ⟨place, .firstName hReaches⟩
      · obtain ⟨place, hReaches⟩ := ih (Lookup.asks_bind_pure hRest)
        exact ⟨place, .laterName hName hReaches⟩

theorem Node.covered_assemble
    (id labels : Reply)
    {properties : Lookup (Fields Value)}
    (hProperties : Covered resolve properties) :
    Covered resolve (Node.assemble id labels properties) := by
  intro asked index asking state hAsks
  obtain ⟨number, hId, hAsks⟩ := Lookup.asks_lift hAsks
  obtain ⟨items, hItems, hAsks⟩ := Lookup.asks_lift hAsks
  rcases Lookup.asks_bind hAsks with hFirst | ⟨names, middle, hNames, hRest⟩
  · obtain ⟨place, hReaches⟩ := covered_sentNames _ _ items hFirst
    exact ⟨place, .nodeLabels hId hItems hReaches⟩
  · obtain ⟨place, hReaches⟩ := hProperties (Lookup.asks_bind_pure hRest)
    exact ⟨place, .nodeProperties hId hItems hNames hReaches⟩

theorem Edge.covered_assemble
    (id type source destination : Reply)
    {properties : Lookup (Fields Value)}
    (hProperties : Covered resolve properties) :
    Covered resolve (Edge.assemble id type source destination properties) := by
  intro asked index asking state hAsks
  rcases Lookup.asks_bind hAsks with hFirst | ⟨name, middle, hName, hRest⟩
  · obtain ⟨place, hReaches⟩ := covered_sentName _ _ type hFirst
    exact ⟨place, .edgeType hReaches⟩
  · obtain ⟨number, hId, hRest⟩ := Lookup.asks_lift hRest
    obtain ⟨start, hSource, hRest⟩ := Lookup.asks_lift hRest
    obtain ⟨finish, hDestination, hRest⟩ := Lookup.asks_lift hRest
    obtain ⟨place, hReaches⟩ := hProperties (Lookup.asks_bind_pure hRest)
    exact ⟨place, .edgeProperties hName hId hSource hDestination hReaches⟩

theorem Path.covered_assemble
    {nodes edges : Lookup Value}
    (hNodes : Covered resolve nodes)
    (hEdges : Covered resolve edges) :
    Covered resolve (Path.assemble nodes edges) := by
  intro asked index asking state hAsks
  rcases Lookup.asks_bind hAsks with hFirst | ⟨value, middle, hValue, hRest⟩
  · obtain ⟨place, hReaches⟩ := hNodes hFirst
    exact ⟨place, .pathNodes hReaches⟩
  · obtain ⟨walked, hWalked, hRest⟩ := Lookup.asks_lift hRest
    rcases Lookup.asks_bind hRest with hSecond | ⟨other, last, -, hLast⟩
    · obtain ⟨place, hReaches⟩ := hEdges hSecond
      exact ⟨place, .pathEdges hValue hWalked hReaches⟩
    · obtain ⟨crossed, -, hFits⟩ := Lookup.asks_lift hLast
      exact absurd hFits Lookup.not_asks_lift

-- The recursion is that of the reader.
mutual

theorem Value.covered_ofReply (reply : Reply) : Covered resolve (Value.ofReply reply) := by
  unfold Value.ofReply
  split
  · intro asked index asking state hAsks
    obtain ⟨tag, hTag, hRest⟩ := Lookup.asks_lift hAsks
    obtain ⟨place, hReaches⟩ := Value.covered_ofTagged tag _ hRest
    exact ⟨place, .value hTag hReaches⟩
  · exact covered_fail _

theorem Value.covered_ofTagged
    (tag : Tag)
    (payload : Reply) :
    Covered resolve (Value.ofTagged tag payload) := by
  cases tag with
  | null | unknown | dateTime | date | time =>
      unfold Value.ofTagged
      exact covered_pure _
  | string | integer | boolean | double | point | vector =>
      unfold Value.ofTagged
      exact fun hAsks => absurd (Lookup.asks_bind_pure hAsks) Lookup.not_asks_lift
  | array =>
      unfold Value.ofTagged
      split
      · intro asked index asking state hAsks
        obtain ⟨place, hReaches⟩ := Value.covered_ofReplies _ (Lookup.asks_bind_pure hAsks)
        exact ⟨place, .taggedArray hReaches⟩
      · exact covered_pure _
      · exact covered_fail _
  | edge =>
      unfold Value.ofTagged
      split
      · intro asked index asking state hAsks
        obtain ⟨place, hReaches⟩ := Edge.covered_assemble _ _ _ _
          (Value.covered_ofProperties _) (Lookup.asks_bind_pure hAsks)
        exact ⟨place, .taggedEdge hReaches⟩
      · exact covered_fail _
  | node =>
      unfold Value.ofTagged
      split
      · intro asked index asking state hAsks
        obtain ⟨place, hReaches⟩ := Node.covered_assemble _ _
          (Value.covered_ofProperties _) (Lookup.asks_bind_pure hAsks)
        exact ⟨place, .taggedNode hReaches⟩
      · exact covered_fail _
  | path =>
      unfold Value.ofTagged
      split
      · intro asked index asking state hAsks
        obtain ⟨place, hReaches⟩ := Path.covered_assemble (Value.covered_ofReply _)
          (Value.covered_ofReply _) (Lookup.asks_bind_pure hAsks)
        exact ⟨place, .taggedPath hReaches⟩
      · exact covered_fail _
  | map =>
      unfold Value.ofTagged
      split
      · split
        · next hEven =>
          intro asked index asking state hAsks
          obtain ⟨place, hReaches⟩ := Value.covered_ofEntries _ (Lookup.asks_bind_pure hAsks)
          have hWhole := Reaches.taggedMap hEven hReaches
          rw [Value.ofTagged, if_pos hEven] at hWhole
          exact ⟨place, hWhole⟩
        · exact covered_fail _
      · exact covered_pure _
      · exact covered_fail _

theorem Value.covered_ofReplies (replies : List Reply) :
    Covered resolve (Value.ofReplies replies) := by
  unfold Value.ofReplies
  split
  · exact covered_pure _
  · intro asked index asking state hAsks
    rcases Lookup.asks_bind hAsks with hFirst | ⟨value, middle, hValue, hRest⟩
    · obtain ⟨place, hReaches⟩ := Value.covered_ofReply _ hFirst
      exact ⟨place, .firstItem hReaches⟩
    · obtain ⟨place, hReaches⟩ := Value.covered_ofReplies _ (Lookup.asks_bind_pure hRest)
      exact ⟨place, .laterItem hValue hReaches⟩

theorem Value.covered_ofEntries (replies : List Reply) :
    Covered resolve (Value.ofEntries replies) := by
  unfold Value.ofEntries
  split
  · intro asked index asking state hAsks
    obtain ⟨text, hKey, hAsks⟩ := Lookup.asks_lift hAsks
    rcases Lookup.asks_bind hAsks with hFirst | ⟨value, middle, hValue, hRest⟩
    · obtain ⟨place, hReaches⟩ := Value.covered_ofReply _ hFirst
      exact ⟨place, .firstEntry hKey hReaches⟩
    · obtain ⟨place, hReaches⟩ := Value.covered_ofEntries _ (Lookup.asks_bind_pure hRest)
      exact ⟨place, .laterEntry hKey hValue hReaches⟩
  · exact covered_pure _

theorem Value.covered_ofProperties (reply : Reply) :
    Covered resolve (Value.ofProperties reply) := by
  unfold Value.ofProperties
  split
  · intro asked index asking state hAsks
    obtain ⟨place, hReaches⟩ := Value.covered_ofTriples _ (Lookup.asks_bind_pure hAsks)
    exact ⟨place, .properties hReaches⟩
  · exact covered_pure _
  · exact covered_fail _

theorem Value.covered_ofTriples (replies : List Reply) :
    Covered resolve (Value.ofTriples replies) := by
  unfold Value.ofTriples
  split
  · exact covered_pure _
  · intro asked index asking state hAsks
    rcases Lookup.asks_bind hAsks with hFirst | ⟨name, middle, hName, hRest⟩
    · obtain ⟨place, hReaches⟩ := covered_sentName _ _ _ hFirst
      exact ⟨place, .propertyKey hReaches⟩
    · obtain ⟨tag, hTag, hRest⟩ := Lookup.asks_lift hRest
      rcases Lookup.asks_bind hRest with hSecond | ⟨value, next, hValue, hLast⟩
      · obtain ⟨place, hReaches⟩ := Value.covered_ofTagged tag _ hSecond
        exact ⟨place, .propertyValue hName hTag hReaches⟩
      · obtain ⟨place, hReaches⟩ := Value.covered_ofTriples _ (Lookup.asks_bind_pure hLast)
        exact ⟨place, .laterProperty hName hTag hValue hReaches⟩
  · exact covered_fail _

end

theorem covered_cellOfReply
    (kind : ColumnKind)
    (cell : Reply) :
    Covered resolve (cellOfReply kind cell) := by
  intro asked index asking state hAsks
  cases kind with
  | unknown => exact absurd hAsks Lookup.not_asks_pure
  | scalar =>
      obtain ⟨place, hReaches⟩ := Value.covered_ofReply cell hAsks
      exact ⟨place, .scalarCell hReaches⟩
  | node =>
      have hNode := Lookup.asks_bind_pure hAsks
      unfold Node.ofReply at hNode
      split at hNode
      · obtain ⟨place, hReaches⟩ := Node.covered_assemble _ _ (Value.covered_ofProperties _) hNode
        exact ⟨place, .nodeCell hReaches⟩
      · exact absurd hNode Lookup.not_asks_fail
  | relation =>
      have hEdge := Lookup.asks_bind_pure hAsks
      unfold Edge.ofReply at hEdge
      split at hEdge
      · obtain ⟨place, hReaches⟩ :=
          Edge.covered_assemble _ _ _ _ (Value.covered_ofProperties _) hEdge
        exact ⟨place, .relationCell hReaches⟩
      · exact absurd hEdge Lookup.not_asks_fail

theorem covered_cellsOfReplies
    (columns : List Column)
    (cells : List Reply) :
    Covered resolve (cellsOfReplies columns cells) := by
  induction columns generalizing cells with
  | nil => exact covered_pure _
  | cons column columns ih =>
      cases cells with
      | nil => exact covered_pure _
      | cons cell rest =>
          intro asked index asking state hAsks
          rcases Lookup.asks_bind hAsks with hFirst | ⟨value, middle, hValue, hRest⟩
          · obtain ⟨place, hReaches⟩ := covered_cellOfReply column.kind cell hFirst
            exact ⟨place, .firstCell hReaches⟩
          · obtain ⟨place, hReaches⟩ := ih rest (Lookup.asks_bind_pure hRest)
            exact ⟨place, .laterCell hValue hReaches⟩

theorem covered_rowOfReply
    (columns : List Column)
    (reply : Reply) :
    Covered resolve (rowOfReply columns reply) := by
  intro asked index asking state hAsks
  obtain ⟨cells, hCells, hRow⟩ := Lookup.asks_lift hAsks
  split at hRow
  · next hWidth =>
    obtain ⟨place, hReaches⟩ := covered_cellsOfReplies columns cells hRow
    exact ⟨place, .row hCells hWidth hReaches⟩
  · exact absurd hRow Lookup.not_asks_fail

theorem covered_rowsOfReplies
    (columns : List Column)
    (replies : List Reply) :
    Covered resolve (rowsOfReplies columns replies) := by
  induction replies with
  | nil => exact covered_pure _
  | cons reply rest ih =>
      intro asked index asking state hAsks
      rcases Lookup.asks_bind hAsks with hFirst | ⟨row, middle, hRow, hRest⟩
      · obtain ⟨place, hReaches⟩ := covered_rowOfReply columns reply hFirst
        exact ⟨place, .firstRow hReaches⟩
      · obtain ⟨place, hReaches⟩ := ih (Lookup.asks_bind_pure hRest)
        exact ⟨place, .laterRow hRow hReaches⟩

/-- Whenever a reply is read and a name is asked for, the index of the name is reached. -/
theorem Table.covered_ofReply (reply : Reply) : Covered resolve (Table.ofReply reply) := by
  intro asked index asking state hAsks
  obtain ⟨parts, hParts, hAsks⟩ := Lookup.asks_lift hAsks
  split at hAsks
  · next header rows statistics =>
    obtain ⟨columns, hColumns, hAsks⟩ := Lookup.asks_lift hAsks
    obtain ⟨items, hItems, hAsks⟩ := Lookup.asks_lift hAsks
    rcases Lookup.asks_bind hAsks with hRows | ⟨read, middle, -, hRest⟩
    · obtain ⟨place, hReaches⟩ := covered_rowsOfReplies columns items hRows
      cases reply with
      | array items =>
          cases hParts
          exact ⟨place, .table hColumns hItems hReaches⟩
      | _ => cases hParts
    · exact absurd (Lookup.asks_bind_pure hRest) Lookup.not_asks_lift
  · split at hAsks
    · exact absurd (Lookup.asks_bind_pure hAsks) Lookup.not_asks_lift
    · exact absurd hAsks Lookup.not_asks_pure

end Covering

end GraphClient
