import GraphClient.Proofs.Value.Parts
import GraphClient.Session.Script

/-!
# Which parameters are sent

A parameter goes into the text of a query as a literal, and not every value has one.

**Faults.**  What is wrong with a value, apart from its parts, is its *fault*: an entity,
a value kept as it was sent and a double that is not finite have one (`Value.fault?`).
The writer looks through the parts of a value in order and stops at the first fault.  By
mutual recursion along the search, it finds nothing exactly if every value within can be
written, and otherwise it finds the fault of one of them (`Value.finds_obstacle?`).

**Points and vectors.**  Their numbers are written without a look at them.  A coordinate or
an entry that is not finite therefore reaches the server as a word that is no literal
(`queryText_unchecked`), and parameters that ought to be refused are sent
(`queryText_not_sendable`).

**Results.**  `queryText_writable` says which parameters are written, and that nothing is
sent of a query with any others.  Where all numbers of points and vectors are finite, they
are the parameters that ought to be sent.
-/

namespace GraphClient

namespace Value

/-- A value has a literal that the server can read, apart from its parts. -/
def Sendable : Value → Prop
  | .double x => x.isFinite = true
  | .point position => position.latitude.isFinite = true ∧ position.longitude.isFinite = true
  | .vector entries => ∀ x ∈ entries, x.isFinite = true
  | .node _ | .edge _ | .path _ | .uninterpreted _ _ => False
  | _ => True

/-- A value is written by the writer of literals, apart from its parts. -/
def Writable : Value → Prop
  | .double x => x.isFinite = true
  | .node _ | .edge _ | .path _ | .uninterpreted _ _ => False
  | _ => True

/-- The numbers of a point or a vector are finite. -/
def Bounded : Value → Prop
  | .point position => position.latitude.isFinite = true ∧ position.longitude.isFinite = true
  | .vector entries => ∀ x ∈ entries, x.isFinite = true
  | _ => True

theorem sendable_iff (value : Value) : value.Sendable ↔ value.Writable ∧ value.Bounded := by
  cases value <;> simp [Sendable, Writable, Bounded]

/-- With finite numbers in points and vectors, what is written is what can be sent. -/
theorem throughout_sendable_iff
    {value : Value}
    (hBounded : value.Throughout Bounded) :
    value.Throughout Sendable ↔ value.Throughout Writable :=
  forall₂_congr fun inner hInner =>
    (sendable_iff inner).trans (and_iff_left (hBounded inner hInner))

/-- What is wrong with a value, apart from its parts. -/
def fault? : Value → Option Failure
  | .double x => if x.isFinite then none else some (unsendableDouble x)
  | .node entity => some (unsendable (.node entity))
  | .edge entity => some (unsendable (.edge entity))
  | .path route => some (unsendable (.path route))
  | .uninterpreted tag payload => some (unsendable (.uninterpreted tag payload))
  | _ => none

theorem fault?_eq_none_iff {value : Value} : value.fault? = none ↔ value.Writable := by
  cases value <;> simp [fault?, Writable]

theorem invalidArgument_of_fault?
    {value : Value}
    {failure : Failure}
    (hFault : value.fault? = some failure) :
    ∃ text, failure = .invalidArgument text := by
  cases value <;> simp [fault?] at hFault
  case double x => exact ⟨_, hFault.2.symm⟩
  all_goals exact ⟨_, hFault.symm⟩

/--
What a search among values may find: nothing if all of them can be written, or else the
fault of a value within one of them.
-/
def Finds (values : List Value) : Option Failure → Prop
  | none => ∀ value ∈ values, value.Throughout Writable
  | some failure => ∃ value ∈ values, ∃ inner, Within inner value ∧ inner.fault? = some failure

theorem finds_nil : Finds [] none :=
  List.forall_mem_nil _

/-- The search stops at the first value with a fault. -/
theorem finds_cons
    {value : Value}
    {rest : List Value}
    {first later : Option Failure}
    (hFirst : Finds [value] first)
    (hLater : Finds rest later) :
    Finds (value :: rest) (first.or later) := by
  cases first with
  | some failure =>
      obtain ⟨found, hFound, hInner⟩ := hFirst
      exact ⟨found, List.mem_cons.mpr (Or.inl (List.mem_singleton.mp hFound)), hInner⟩
  | none =>
      cases later with
      | some failure =>
          obtain ⟨found, hFound, hInner⟩ := hLater
          exact ⟨found, List.mem_cons_of_mem value hFound, hInner⟩
      | none => exact List.forall_mem_cons.mpr ⟨hFirst value List.mem_cons_self, hLater⟩

/-- A value without a fault of its own has those that are found among its parts. -/
theorem finds_of_parts
    {value : Value}
    {found : Option Failure}
    (hOwn : value.Writable)
    (hParts : Finds value.parts found) :
    Finds [value] found := by
  cases found with
  | some failure =>
      obtain ⟨part, hPart, inner, hInner, hFault⟩ := hParts
      exact ⟨value, List.mem_singleton_self value, inner, .part hPart hInner, hFault⟩
  | none => exact List.forall_mem_singleton.mpr (throughout_iff.mpr ⟨hOwn, hParts⟩)

/-- For a value that is not searched for parts, its own fault is what is found. -/
theorem finds_fault?
    {value : Value}
    (hParts : value.Writable → value.parts = []) :
    Finds [value] value.fault? := by
  cases hFault : value.fault? with
  | some failure =>
      exact ⟨value, List.mem_singleton_self value, value, .self value, hFault⟩
  | none =>
      have hOwn := fault?_eq_none_iff.mp hFault
      exact finds_of_parts hOwn (hParts hOwn ▸ finds_nil)

mutual

theorem finds_obstacle? : ∀ value : Value, Finds [value] value.obstacle?
  | .array items => finds_of_parts trivial (finds_obstacleInItems? items)
  | .map entries => finds_of_parts trivial (finds_obstacleInEntries? entries)
  | .null | .boolean _ | .integer _ | .double _ | .string _ | .point _ | .vector _ =>
      finds_fault? fun _ => rfl
  | .node _ | .edge _ | .path _ | .uninterpreted _ _ => finds_fault? False.elim

theorem finds_obstacleInItems? : ∀ items : List Value, Finds items (obstacleInItems? items)
  | [] => finds_nil
  | item :: rest => finds_cons (finds_obstacle? item) (finds_obstacleInItems? rest)

theorem finds_obstacleInEntries? :
    ∀ entries : List (String × Value), Finds (entries.map Prod.snd) (obstacleInEntries? entries)
  | [] => finds_nil
  | (_, value) :: rest => finds_cons (finds_obstacle? value) (finds_obstacleInEntries? rest)

end

end Value

/-- A query gets its text if no fault is found among its parameters, and fails with a fault. -/
theorem queryText_cases (query : String) (parameters : Fields Value) :
    (∃ text, queryText query parameters = .ok text ∧
      ∀ parameter ∈ parameters, parameter.2.Throughout Value.Writable) ∨
    (∃ failure inner, queryText query parameters = .error failure ∧
      inner.fault? = some failure ∧
      ∃ parameter ∈ parameters, Value.Within inner parameter.2) := by
  have hFinds := Value.finds_obstacleInEntries? parameters
  unfold queryText
  split
  · next hEmpty =>
      obtain rfl := List.isEmpty_iff.mp hEmpty
      exact Or.inl ⟨query, rfl, List.forall_mem_nil _⟩
  · split
    · next failure hObstacle =>
        rw [hObstacle] at hFinds
        obtain ⟨value, hValue, inner, hInner, hFault⟩ := hFinds
        obtain ⟨parameter, hParameter, rfl⟩ := List.mem_map.mp hValue
        exact Or.inr ⟨failure, inner, rfl, hFault, parameter, hParameter, hInner⟩
    · next hObstacle =>
        rw [hObstacle] at hFinds
        exact Or.inl ⟨_, rfl, List.forall_mem_map.mp hFinds⟩

theorem queryText_ok_iff (query : String) (parameters : Fields Value) :
    (∃ text, queryText query parameters = .ok text) ↔
      ∀ parameter ∈ parameters, parameter.2.Throughout Value.Writable := by
  rcases queryText_cases query parameters with
    ⟨text, hText, hWritable⟩ | ⟨failure, inner, hText, hFault, parameter, hParameter, hInner⟩
  · exact iff_of_true ⟨text, hText⟩ hWritable
  · refine iff_of_false ?_ fun hWritable => ?_
    · rintro ⟨text, hOk⟩
      rw [hText] at hOk
      cases hOk
    · have hOwn := hWritable parameter hParameter inner hInner
      rw [Value.fault?_eq_none_iff.mpr hOwn] at hFault
      cases hFault

/-- Numbers of points and vectors are written that are none, or not finite. -/
theorem queryText_unchecked :
    queryText "RETURN $v" [("v", .vector [.nan .single])] =
      .ok "CYPHER v=vecf32([NaN]) RETURN $v" ∧
    queryText "RETURN $v" [("v", .point ⟨.nan .double, .infinity .double true⟩)] =
      .ok "CYPHER v=point(\x7blatitude: NaN, longitude: -inf\x7d) RETURN $v" :=
  ⟨rfl, rfl⟩

/-- A query may get its text though a parameter has no literal that the server can read. -/
theorem queryText_not_sendable :
    ¬ ∀ (query : String) (parameters : Fields Value),
      (∃ text, queryText query parameters = .ok text) ↔
        ∀ parameter ∈ parameters, parameter.2.Throughout Value.Sendable := by
  intro hSendable
  have hParameters := (hSendable _ _).mp ⟨_, queryText_unchecked.1⟩
  have hVector := hParameters ("v", .vector [.nan .single]) List.mem_cons_self
  have hEntries : (Value.vector [.nan .single]).Sendable := (Value.throughout_iff.mp hVector).1
  have hFinite := hEntries (.nan .single) List.mem_cons_self
  exact absurd hFinite (by decide)

/--
**What is written is sent, and nothing else.**  A query gets its text exactly if no entity,
no value kept as it was sent and no double that is not finite is anywhere within its
parameters; where the numbers of points and vectors are finite, exactly if the parameters
are sendable.  Otherwise it fails with an invalid argument.  The query is then not sent,
read-only or not, with a limit of time or without, through any handle and over any
connection: the connection and the cache stay as they are.
-/
theorem queryText_writable (query : String) (parameters : Fields Value) :
    ((∃ text, queryText query parameters = .ok text) ↔
      ∀ parameter ∈ parameters, parameter.2.Throughout Value.Writable) ∧
    ((∀ parameter ∈ parameters, parameter.2.Throughout Value.Bounded) →
      ((∃ text, queryText query parameters = .ok text) ↔
        ∀ parameter ∈ parameters, parameter.2.Throughout Value.Sendable)) ∧
    (¬ (∀ parameter ∈ parameters, parameter.2.Throughout Value.Writable) →
      ∃ text, queryText query parameters = .error (.invalidArgument text) ∧
        ∀ (τ : Type) (connection : Connection τ) (handle : Handle) (readOnly : Bool)
            (timeout : Option Nat) (backed : Backed τ),
          ((Operation.query query readOnly timeout parameters).perform connection handle).on
            backed = (.error (.invalidArgument text), backed)) := by
  have hWritten := queryText_ok_iff query parameters
  refine ⟨hWritten, fun hBounded => ?_, fun hFault => ?_⟩
  · rw [hWritten]
    exact forall₂_congr fun parameter hParameter =>
      (Value.throughout_sendable_iff (hBounded parameter hParameter)).symm
  · rcases queryText_cases query parameters with
      ⟨text, -, hWritable⟩ | ⟨failure, inner, hText, hInner, -⟩
    · exact absurd hWritable hFault
    · obtain ⟨text, rfl⟩ := Value.invalidArgument_of_fault? hInner
      refine ⟨text, hText, fun τ connection handle readOnly timeout backed => ?_⟩
      rw [Operation.perform, hText]
      rfl

namespace Sample

/-- A point that is written, and deep within an array a double that is not. -/
def unwritten : Fields Value :=
  [("at", .point ⟨.zero .double false, .zero .double true⟩),
   ("far", .array [.null, .map [("k", .double (.infinity .double true))]])]

theorem not_writable_unwritten :
    ¬ ∀ parameter ∈ unwritten, parameter.2.Throughout Value.Writable := by
  intro hWritable
  have hFar := hWritable ("far", _) (List.mem_cons_of_mem _ List.mem_cons_self)
  have hMap := (Value.throughout_array.mp hFar).2 _ (List.mem_cons_of_mem _ List.mem_cons_self)
  have hDouble := (Value.throughout_map.mp hMap).2 _ List.mem_cons_self
  have hFinite : (Binary.infinity .double true).isFinite = true :=
    (Value.throughout_iff.mp hDouble).1
  exact absurd hFinite (by decide)

end Sample

/-- A script is sent nothing of a query with the sample parameters, and its queue stays. -/
theorem queryText_writable_sample :
    ∃ text, ((Operation.query "RETURN $far" true (some 50) Sample.unwritten).perform Script.serve
        ⟨"social", .standard, 0⟩).on
          ⟨.new "social", (Script.ofNames .empty).enqueue (.ok .nil)⟩ =
      (.error (.invalidArgument text),
        ⟨.new "social", (Script.ofNames .empty).enqueue (.ok .nil)⟩) := by
  obtain ⟨-, -, hRefused⟩ := queryText_writable "RETURN $far" Sample.unwritten
  obtain ⟨text, -, hPerform⟩ := hRefused Sample.not_writable_unwritten
  exact ⟨text, hPerform Script Script.serve ⟨"social", .standard, 0⟩ true (some 50) _⟩

end GraphClient
