import GraphClient.Proofs.Query.Reader
import GraphClient.Query.Text

/-!
# Bindings of parameters

When the text of a query tells its parameters, and when it does not.

**Collisions.**  Only the strings among the values of parameters are quoted.  The name of
a parameter and the keys of maps are written as they are, so a name may hold a whole
binding, and a key may hold an entry or end its map (`queryText_collisions`).

**Legible parameters.**  Without such names and keys a binding is read back off the front
of the text (`readBinding_binding`), and by induction on the bindings the text determines
all of them (`queryText_injective`).
-/

namespace GraphClient

/-- A value is a null, a Boolean, an integer, a string, an array or a map, apart from its parts. -/
def Value.Plain : Value → Prop
  | .null | .boolean _ | .integer _ | .string _ | .array _ => True
  | .map entries => Fields.Sorted entries
  | _ => False

/-- Parameters without entities and without numbers that are not integers. -/
structure Parameters.Plain (parameters : Fields Value) : Prop where
  sorted : Fields.Sorted parameters
  values : ∀ parameter ∈ parameters, parameter.2.Throughout Value.Plain

/-- A parameter whose name, and the keys of whose maps, can be told from what is around them. -/
structure Parameter.Legible (parameter : String × Value) : Prop where
  name : '=' ∉ parameter.1.toList
  value : parameter.2.Throughout Value.Legible

/--
A name that holds a binding, a key that holds an entry, and a key that ends its map: each
makes the same text as parameters that are different ones.
-/
theorem queryText_collisions :
    queryText "RETURN 1" [("a=1 b", .integer 2)] =
      queryText "RETURN 1" [("a", .integer 1), ("b", .integer 2)] ∧
    queryText "RETURN 1" [("m", .map [("a: 1, b", .integer 2)])] =
      queryText "RETURN 1" [("m", .map [("a", .integer 1), ("b", .integer 2)])] ∧
    queryText "RETURN 1" [("a", .map [("\x7d x", .integer 1)]), ("b", .integer 2)] =
      queryText "RETURN 1" [("a", .map []), ("x: 1\x7d b", .integer 2)] := by
  exact ⟨rfl, rfl, rfl⟩

/-- A map of integers as the only parameter is plain. -/
theorem Parameters.plain_of_integers
    {entries : Fields Value}
    (hSorted : Fields.Sorted entries)
    (hIntegers : ∀ entry ∈ entries, ∃ n, entry.2 = .integer n) :
    Parameters.Plain [("m", .map entries)] where
  sorted := List.pairwise_singleton _ _
  values := by
    rw [List.forall_mem_singleton]
    refine Value.throughout_map.mpr ⟨hSorted, fun entry hEntry => ?_⟩
    obtain ⟨n, hValue⟩ := hIntegers entry hEntry
    rw [hValue]
    exact Value.throughout_of_parts_eq_nil trivial rfl

/-- The text of a query does not tell its parameters, not even when they are plain. -/
theorem queryText_not_injective :
    ¬ ∀ (query text : String) (parameters others : Fields Value),
      Parameters.Plain parameters → Parameters.Plain others →
      queryText query parameters = .ok text → queryText query others = .ok text →
      parameters = others := by
  intro hInjective
  have hSmuggling : Parameters.Plain [("m", .map [("a: 1, b", .integer 2)])] :=
    Parameters.plain_of_integers (by decide) (by simp)
  have hSmuggled : Parameters.Plain [("m", .map [("a", .integer 1), ("b", .integer 2)])] :=
    Parameters.plain_of_integers (by decide) (by simp)
  have hSame := hInjective "RETURN 1" _ _ _ hSmuggling hSmuggled rfl queryText_collisions.2.1.symm
  simp at hSame

/-- Reads a binding and the blank that ends it. -/
def readBinding : Reader (String × Value) := fun text =>
  (readNamed ['='] readLiteral text).bind fun read =>
    (read.2.dropPrefix? [' ']).map fun rest => (read.1, rest)

theorem readBinding_binding
    {parameter : String × Value}
    {rest : List Char}
    (hLegible : Parameter.Legible parameter) :
    readBinding (binding parameter ++ rest) = some (parameter, rest) := by
  have hName : ¬ ['='] <:+: parameter.1.toList := by
    rw [List.singleton_infix_iff]
    exact hLegible.name
  have hRest : EndsNumber (' ' :: rest) := endsNumber_cons (by decide)
  have hNamed := readNamed_append List.not_mem_nil hName
    (Value.readLiteral_literal hLegible.value hRest)
  have hBlank : (' ' :: rest).dropPrefix? [' '] = some rest := dropPrefix?_append [' ']
  rw [readBinding, binding, assigned]
  simp only [List.append_assoc, List.cons_append, List.nil_append] at hNamed ⊢
  rw [hNamed, Option.bind_some, hBlank, Option.map_some]

/-- Bindings are not nothing, so a query behind them is not the query alone. -/
theorem append_bindings_ne
    (word query : List Char)
    {parameters : List (String × Value)}
    (hSome : parameters ≠ []) :
    word ++ (parameters.flatMap binding ++ query) ≠ query := by
  obtain ⟨parameter, rest, rfl⟩ := List.exists_cons_of_ne_nil hSome
  intro hSame
  have hLength := congrArg List.length hSame
  simp only [List.flatMap_cons, binding, assigned, List.length_append, List.length_cons] at hLength
  omega

/-- Legible parameters are told by their bindings, whatever follows these. -/
theorem bindings_injective
    {parameters others : List (String × Value)}
    {query : List Char}
    (hParameters : ∀ parameter ∈ parameters, Parameter.Legible parameter)
    (hOthers : ∀ other ∈ others, Parameter.Legible other)
    (hText : parameters.flatMap binding ++ query = others.flatMap binding ++ query) :
    parameters = others := by
  induction parameters generalizing others with
  | nil =>
      cases others with
      | nil => rfl
      | cons other others =>
          exact absurd hText.symm (append_bindings_ne [] query (List.cons_ne_nil other others))
  | cons parameter parameters ih =>
      obtain ⟨hParameter, hParameters⟩ := List.forall_mem_cons.mp hParameters
      cases others with
      | nil =>
          exact absurd hText (append_bindings_ne [] query (List.cons_ne_nil parameter parameters))
      | cons other others =>
          obtain ⟨hOther, hOthers⟩ := List.forall_mem_cons.mp hOthers
          rw [List.flatMap_cons, List.flatMap_cons, List.append_assoc, List.append_assoc] at hText
          have hRead := congrArg readBinding hText
          rw [readBinding_binding hParameter, readBinding_binding hOther] at hRead
          obtain ⟨hSame, hRest⟩ := Prod.mk.inj (Option.some.inj hRead)
          rw [hSame, ih hParameters hOthers hRest]

/-- The characters of a query with its parameters, which come first if there are any. -/
theorem toList_queryText
    {query text : String}
    {parameters : Fields Value}
    (hText : queryText query parameters = .ok text) :
    text.toList = (if parameters = [] then [] else "CYPHER ".toList) ++
      (parameters.flatMap binding ++ query.toList) := by
  cases parameters with
  | nil =>
      cases hText
      rfl
  | cons parameter parameters =>
      rw [queryText, if_neg (by simp)] at hText
      rw [if_neg (List.cons_ne_nil parameter parameters)]
      cases hObstacle : Value.obstacleInEntries? (parameter :: parameters) with
      | some failure =>
          rw [hObstacle] at hText
          cases hText
      | none =>
          rw [hObstacle] at hText
          obtain rfl := Except.ok.inj hText
          exact String.toList_ofList

/--
**Parameters do not run into one another.**  Parameters whose names and keys are legible
are told by the text of the query that they come with.
-/
theorem queryText_injective
    {query text : String}
    {parameters others : Fields Value}
    (hParameters : ∀ parameter ∈ parameters, Parameter.Legible parameter)
    (hOthers : ∀ other ∈ others, Parameter.Legible other)
    (hText : queryText query parameters = .ok text)
    (hOtherText : queryText query others = .ok text) :
    parameters = others := by
  have hSame := (toList_queryText hText).symm.trans (toList_queryText hOtherText)
  by_cases hNone : parameters = [] <;> by_cases hOtherNone : others = []
  · rw [hNone, hOtherNone]
  · rw [if_pos hNone, if_neg hOtherNone, hNone] at hSame
    exact absurd hSame.symm (append_bindings_ne _ _ hOtherNone)
  · rw [if_neg hNone, if_pos hOtherNone, hOtherNone] at hSame
    exact absurd hSame (append_bindings_ne _ _ hNone)
  · rw [if_neg hNone, if_neg hOtherNone] at hSame
    exact bindings_injective hParameters hOthers (List.append_cancel_left hSame)

/-- A string with a quote and a binding in it, under names and keys that are legible. -/
def Sample.parameters : Fields Value :=
  [("a", .map [("k", .string "x\" b=1")]), ("b", .array [.integer 2, .null])]

theorem Sample.legible_parameters :
    ∀ parameter ∈ Sample.parameters, Parameter.Legible parameter := by
  have hScalar : ∀ value : Value, value.Legible → value.parts = [] →
      value.Throughout Value.Legible := fun _ => Value.throughout_of_parts_eq_nil
  have hMap : (Value.map [("k", .string "x\" b=1")]).Throughout Value.Legible := by
    refine Value.throughout_map.mpr ⟨?_, List.forall_mem_singleton.mpr (hScalar _ trivial rfl)⟩
    exact List.forall_mem_singleton.mpr (by decide)
  have hArray : (Value.array [.integer 2, .null]).Throughout Value.Legible :=
    Value.throughout_array.mpr ⟨trivial, List.forall_mem_cons.mpr
      ⟨hScalar _ trivial rfl, List.forall_mem_singleton.mpr (hScalar _ trivial rfl)⟩⟩
  exact List.forall_mem_cons.mpr
    ⟨⟨by decide, hMap⟩, List.forall_mem_singleton.mpr ⟨by decide, hArray⟩⟩

theorem queryText_injective_sample :
    queryText "RETURN $a" Sample.parameters =
      .ok "CYPHER a=\x7bk: \"x\\\" b=1\"\x7d b=[2, null] RETURN $a" ∧
    Fields.ofList
        [("b", .array [.integer 2, .null]), ("a", .map [("k", .string "x\" b=1")])] =
      Sample.parameters := by
  have hText : queryText "RETURN $a" Sample.parameters =
      .ok "CYPHER a=\x7bk: \"x\\\" b=1\"\x7d b=[2, null] RETURN $a" := rfl
  exact ⟨hText, queryText_injective Sample.legible_parameters Sample.legible_parameters rfl hText⟩

end GraphClient
