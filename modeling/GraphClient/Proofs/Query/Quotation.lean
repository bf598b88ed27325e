import GraphClient.Proofs.Query.Parameters
import GraphClient.Proofs.Query.Sendable

/-!
# Where literals end

A literal shows its own end, so that what stands behind it cannot be taken for a part of it,
nor a part of it for what stands behind it.

**Quoted texts.**  What is spelled between quotes, and where it ends, can be told from the
text alone (`Spells.unique`).

**Simple values.**  Nulls, Booleans, integers, strings and arrays of such are read back with
any text behind them, if only it does not go on with a digit; two of them under one name never
make the same query (`Value.literal_delimited`).
-/

namespace GraphClient

/-- There is one place at which a quoted text can end, and one text that it spells. -/
theorem Spells.unique
    {inner other text content rest behind : List Char}
    (hInner : Spells inner text)
    (hOther : Spells other content)
    (hSame : inner ++ '"' :: rest = other ++ '"' :: behind) :
    text = content ∧ rest = behind := by
  have hRead := congrArg readQuoted hSame
  rw [readQuoted_of_spells hInner, readQuoted_of_spells hOther] at hRead
  exact Prod.mk.inj (Option.some.inj hRead)

namespace Value

/-- A value is a null, a Boolean, an integer, a string or an array, apart from its parts. -/
def Simple : Value → Prop
  | .null | .boolean _ | .integer _ | .string _ | .array _ => True
  | _ => False

/-- A simple value is written as a literal, and the literal can be read. -/
theorem Simple.legible_and_writable {value : Value} (hSimple : value.Simple) :
    value.Legible ∧ value.Writable := by
  cases value with
  | null | boolean | integer | string | array => exact ⟨trivial, trivial⟩
  | _ => exact hSimple.elim

section Reading

variable {value other : Value} (hSimple : value.Throughout Simple)

include hSimple

theorem readLiteral_of_simple
    {rest : List Char}
    (hRest : EndsNumber rest) :
    readLiteral (literal value ++ rest) = some (value, rest) :=
  readLiteral_literal (fun inner hInner => (hSimple inner hInner).legible_and_writable.1) hRest

/-- Two simple values whose literals begin one text are the same value. -/
theorem eq_of_literal_append_eq
    {rest behind : List Char}
    (hOther : other.Throughout Simple)
    (hRest : EndsNumber rest)
    (hBehind : EndsNumber behind)
    (hText : literal value ++ rest = literal other ++ behind) :
    value = other ∧ rest = behind := by
  have hRead := congrArg readLiteral hText
  rw [readLiteral_of_simple hSimple hRest, readLiteral_of_simple hOther hBehind] at hRead
  exact Prod.mk.inj (Option.some.inj hRead)

/-- The text of a query with one parameter, which is simple. -/
theorem exists_queryText_of_simple (name query : String) :
    ∃ text, queryText query [(name, value)] = .ok text ∧
      text.toList =
        "CYPHER ".toList ++ (name.toList ++ '=' :: (literal value ++ ' ' :: query.toList)) := by
  have hWritable : ∀ parameter ∈ [(name, value)], parameter.2.Throughout Writable :=
    List.forall_mem_singleton.mpr fun inner hInner =>
      (hSimple inner hInner).legible_and_writable.2
  obtain ⟨text, hText⟩ := (queryText_ok_iff query [(name, value)]).mpr hWritable
  refine ⟨text, hText, ?_⟩
  rw [toList_queryText hText, if_neg (List.cons_ne_nil _ _), List.flatMap_singleton, binding,
    assigned]
  simp only [List.append_assoc, List.cons_append, List.nil_append]

end Reading

/--
**Literals show their own end.**  The literal of a value made of nulls, Booleans, integers,
strings and arrays is read back off any text that does not go on with a digit behind it.  A
string ends at the quote that was written behind it, whatever is in it and whatever follows.
Such a value can be a parameter, and under the same name and with the same query no other such
value makes the same text.
-/
theorem literal_delimited
    {value : Value}
    (hSimple : value.Throughout Simple) :
    (∀ rest, EndsNumber rest → readLiteral (literal value ++ rest) = some (value, rest)) ∧
    (∀ (text : String) (rest : List Char),
      (∃ inner, Spells inner text.toList ∧
        literal (.string text) ++ rest = '"' :: (inner ++ '"' :: rest)) ∧
      ∀ inner content behind, Spells inner content →
        literal (.string text) ++ rest = '"' :: (inner ++ '"' :: behind) →
        content = text.toList ∧ behind = rest) ∧
    (∀ (name query : String) (other : Value), other.Throughout Simple →
      ∃ text, queryText query [(name, value)] = .ok text ∧
        (queryText query [(name, other)] = .ok text → value = other)) := by
  refine ⟨fun rest hRest => readLiteral_of_simple hSimple hRest, fun text rest => ?_,
    fun name query other hOther => ?_⟩
  · have hWritten := spells_escapeLiteral text.toList
    rw [literal_string, List.cons_append, List.append_assoc, List.singleton_append]
    refine ⟨⟨_, hWritten, rfl⟩, fun inner content behind hSpells hText => ?_⟩
    exact hSpells.unique hWritten (List.cons.inj hText).2.symm
  · obtain ⟨text, hText, hChars⟩ := exists_queryText_of_simple hSimple name query
    obtain ⟨otherText, hOtherText, hOtherChars⟩ := exists_queryText_of_simple hOther name query
    refine ⟨text, hText, fun hSame => ?_⟩
    obtain rfl := Except.ok.inj (hSame.symm.trans hOtherText)
    have hBindings := List.append_cancel_left (hChars.symm.trans hOtherChars)
    have hLiterals := (List.cons.inj (List.append_cancel_left hBindings)).2
    have hBlank : EndsNumber (' ' :: query.toList) := endsNumber_cons (by decide)
    exact (eq_of_literal_append_eq hSimple hOther hBlank hBlank hLiterals).1

/-- An array with a string in it that holds a quote, a bracket and a backslash at its end. -/
def Sample.nested : Value :=
  .array [.string "x\", [\\", .integer (-7), .array [.boolean true, .null]]

theorem Sample.simple_nested : Sample.nested.Throughout Simple := by
  have hScalar : ∀ value : Value, value.Simple → value.parts = [] → value.Throughout Simple :=
    fun _ => throughout_of_parts_eq_nil
  refine throughout_array.mpr ⟨trivial, ?_⟩
  refine List.forall_mem_cons.mpr ⟨hScalar _ trivial rfl, ?_⟩
  refine List.forall_mem_cons.mpr ⟨hScalar _ trivial rfl, List.forall_mem_singleton.mpr ?_⟩
  refine throughout_array.mpr ⟨trivial, ?_⟩
  exact List.forall_mem_cons.mpr
    ⟨hScalar _ trivial rfl, List.forall_mem_singleton.mpr (hScalar _ trivial rfl)⟩

theorem literal_delimited_sample :
    literal Sample.nested = "[\"x\\\", [\\\\\", -7, [true, null]]".toList ∧
    readLiteral ("[\"x\\\", [\\\\\", -7, [true, null]]".toList ++ "]\", 5".toList) =
      some (Sample.nested, "]\", 5".toList) := by
  have hLiteral : literal Sample.nested = "[\"x\\\", [\\\\\", -7, [true, null]]".toList := rfl
  refine ⟨hLiteral, ?_⟩
  rw [← hLiteral]
  exact (literal_delimited Sample.simple_nested).1 _ (endsNumber_cons (by decide))

end Value

end GraphClient
