import GraphClient.Proofs.Reply.Shapes
import GraphClient.Table.Columns

/-!
# The grammar of headers

A header is an array of entries, and each entry a pair of an ordinal and a name.  Nothing at all
is a header without entries.

**Entries.**  An entry stands for a column if the ordinal is that of its kind and the name holds
its text (`Column.Entry`).  `Column.Flawed` says what is wrong with any other reply: its form
first, then the ordinal and then the name.  Every reply is one or the other
(`Column.entry_or_flawed`), and `Column.ofReply` tells which.

**Results.**  `Column.listOfReply_grammar` carries this over to whole headers: all entries stand
for columns, or the first that does not is to blame.  The position of a name among the columns
is that of the first of them.
-/

namespace GraphClient

/-- The ordinals are the numbers from zero to three. -/
theorem ColumnKind.exists_ordinal_iff {ordinal : Int} :
    (∃ kind : ColumnKind, kind.ordinal = ordinal) ↔ 0 ≤ ordinal ∧ ordinal ≤ 3 := by
  constructor
  · rintro ⟨kind, rfl⟩
    cases kind <;> decide
  · rintro ⟨hLow, hHigh⟩
    obtain rfl | rfl | rfl | rfl : ordinal = 0 ∨ ordinal = 1 ∨ ordinal = 2 ∨ ordinal = 3 := by omega
    · exact ⟨.unknown, rfl⟩
    · exact ⟨.scalar, rfl⟩
    · exact ⟨.node, rfl⟩
    · exact ⟨.relation, rfl⟩

theorem ColumnKind.ofOrdinal_of_beyond
    {ordinal : Int}
    (hBeyond : ¬ (0 ≤ ordinal ∧ ordinal ≤ 3)) :
    ofOrdinal ordinal = .error (.unrecognizedColumn ordinal) := by
  unfold ofOrdinal
  split
  · exact absurd (by decide) hBeyond
  · exact absurd (by decide) hBeyond
  · exact absurd (by decide) hBeyond
  · exact absurd (by decide) hBeyond
  · rfl

namespace Column

/-- A pair of an ordinal, from zero to three, and a name. -/
def IsEntry (reply : Reply) : Prop :=
  ∃ ordinal name, reply = .array [.integer ordinal, name] ∧ 0 ≤ ordinal ∧ ordinal ≤ 3 ∧
    ∃ text, name.Holds text

/-- The pair that stands for a column. -/
inductive Entry : Reply → Column → Prop
  | pair {kind : ColumnKind} {name : Reply} {text : String} :
      name.Holds text →
      Entry (.array [.integer kind.ordinal, name]) ⟨text, kind⟩

/-- What is wrong with a reply that stands for no column; the first fault counts. -/
inductive Flawed : Reply → Malformed → Prop
  | form {reply : Reply} :
      reply ≠ .nil →
      (∀ items, reply ≠ .array items) →
      Flawed reply (.unexpectedShape "array" "header entry")
  | nothing : Flawed .nil (.arity 2 0 "header entry")
  | length {items : List Reply} :
      items.length ≠ 2 →
      Flawed (.array items) (.arity 2 items.length "header entry")
  /-- The kind is no integer. -/
  | kind {kind name : Reply} :
      (∀ ordinal, kind ≠ .integer ordinal) →
      Flawed (.array [kind, name]) (.unexpectedShape "integer" "header column kind")
  /-- The kind is an integer without meaning. -/
  | ordinal {ordinal : Int} {name : Reply} :
      ¬ (0 ≤ ordinal ∧ ordinal ≤ 3) →
      Flawed (.array [.integer ordinal, name]) (.unrecognizedColumn ordinal)
  | name {ordinal : Int} {name : Reply} :
      0 ≤ ordinal ∧ ordinal ≤ 3 →
      (∀ text, ¬ name.Holds text) →
      Flawed (.array [.integer ordinal, name]) (name.textFault "header column name")

section Entries

variable {reply : Reply} {column : Column} {reason : Malformed}

/-- Of a pair the ordinal is read first and then the name. -/
theorem ofReply_pair (ordinal : Int) (name : Reply) :
    ofReply (.array [.integer ordinal, name]) =
      (do
        let kind ← ColumnKind.ofOrdinal ordinal
        let name ← name.toText "header column name"
        pure ⟨name, kind⟩) := rfl

theorem Entry.ofReply (hEntry : Entry reply column) : Column.ofReply reply = .ok column := by
  obtain ⟨hName⟩ := hEntry
  rw [ofReply_pair, ColumnKind.ofOrdinal_ordinal, hName.toText]
  rfl

theorem Flawed.ofReply (hFlawed : Flawed reply reason) : Column.ofReply reply = .error reason := by
  cases hFlawed with
  | form hNil hArray =>
      cases reply with
      | nil => exact absurd rfl hNil
      | array items => exact absurd rfl (hArray items)
      | _ => rfl
  | nothing => rfl
  | @length items hLength =>
      match items, hLength with
      | [], _ => rfl
      | [_], _ => rfl
      | [_, _], hLength => exact absurd rfl hLength
      | _ :: _ :: _ :: _, _ => rfl
  | @kind kind name hKind =>
      cases kind with
      | integer ordinal => exact absurd rfl (hKind ordinal)
      | _ => rfl
  | @ordinal ordinal name hBeyond =>
      rw [ofReply_pair, ColumnKind.ofOrdinal_of_beyond hBeyond]
      rfl
  | @name ordinal name hOrdinal hName =>
      obtain ⟨kind, rfl⟩ := ColumnKind.exists_ordinal_iff.mpr hOrdinal
      rcases Reply.toText_cases "header column name" name with ⟨text, hText, -⟩ | ⟨-, hFault⟩
      · exact absurd hText (hName text)
      · rw [ofReply_pair, ColumnKind.ofOrdinal_ordinal, hFault]
        rfl

theorem entry_or_flawed (reply : Reply) :
    (∃ column, Entry reply column) ∨ ∃ reason, Flawed reply reason := by
  cases reply with
  | nil => exact Or.inr ⟨_, .nothing⟩
  | array items =>
      by_cases hLength : items.length = 2
      · obtain ⟨kind, name, rfl⟩ := List.length_eq_two.mp hLength
        cases kind with
        | integer ordinal =>
            by_cases hOrdinal : 0 ≤ ordinal ∧ ordinal ≤ 3
            · obtain ⟨kind, rfl⟩ := ColumnKind.exists_ordinal_iff.mpr hOrdinal
              rcases Reply.toText_cases "header column name" name with
                ⟨text, hText, -⟩ | ⟨hText, -⟩
              · exact Or.inl ⟨⟨text, kind⟩, .pair hText⟩
              · exact Or.inr ⟨_, .name hOrdinal hText⟩
            · exact Or.inr ⟨_, .ordinal hOrdinal⟩
        | _ => exact Or.inr ⟨_, .kind nofun⟩
      · exact Or.inr ⟨_, .length hLength⟩
  | _ => exact Or.inr ⟨_, .form nofun nofun⟩

theorem ofReply_eq_ok_iff : ofReply reply = .ok column ↔ Entry reply column := by
  refine ⟨fun hOk => ?_, Entry.ofReply⟩
  rcases entry_or_flawed reply with ⟨found, hFound⟩ | ⟨reason, hFlawed⟩
  · obtain rfl : found = column := Except.ok.inj (hFound.ofReply.symm.trans hOk)
    exact hFound
  · cases hFlawed.ofReply.symm.trans hOk

theorem ofReply_eq_error_iff : ofReply reply = .error reason ↔ Flawed reply reason := by
  refine ⟨fun hError => ?_, Flawed.ofReply⟩
  rcases entry_or_flawed reply with ⟨column, hEntry⟩ | ⟨found, hFound⟩
  · cases hEntry.ofReply.symm.trans hError
  · obtain rfl : found = reason := Except.error.inj (hFound.ofReply.symm.trans hError)
    exact hFound

theorem exists_entry_iff : (∃ column, Entry reply column) ↔ IsEntry reply := by
  constructor
  · rintro ⟨_, @⟨kind, name, text, hText⟩⟩
    obtain ⟨hLow, hHigh⟩ := ColumnKind.exists_ordinal_iff.mp ⟨kind, rfl⟩
    exact ⟨_, name, rfl, hLow, hHigh, text, hText⟩
  · rintro ⟨ordinal, name, rfl, hLow, hHigh, text, hText⟩
    obtain ⟨kind, rfl⟩ := ColumnKind.exists_ordinal_iff.mpr ⟨hLow, hHigh⟩
    exact ⟨⟨text, kind⟩, .pair hText⟩

end Entries

/-- The position of a name: that of the first column with the name, if there is one. -/
inductive Located (columns : List Column) (name : String) : Option Nat → Prop
  | first {index : Nat} :
      (names columns)[index]? = some name →
      (∀ earlier < index, (names columns)[earlier]? ≠ some name) →
      Located columns name (some index)
  | missing : name ∉ names columns → Located columns name none

theorem located_position? (columns : List Column) (name : String) :
    Located columns name (position? columns name) := by
  cases hPosition : position? columns name with
  | none =>
      refine .missing fun hMem => ?_
      have hOther := List.findIdx?_eq_none_iff.mp hPosition name hMem
      simp at hOther
  | some index =>
      obtain ⟨hIndex, hName, hEarlier⟩ := List.findIdx?_eq_some_iff_getElem.mp hPosition
      refine .first ?_ fun earlier hLess hSame => hEarlier earlier hLess ?_
      · rw [List.getElem?_eq_getElem hIndex]
        simpa using hName
      · obtain ⟨_, hSame⟩ := List.getElem?_eq_some_iff.mp hSame
        simpa using hSame

section Headers

variable {reply : Reply} {columns : List Column} {reason : Malformed}

/-- The columns of a header are those of its entries, in order. -/
theorem listOfReply_eq_ok_iff :
    listOfReply reply = .ok columns ↔
      (reply = .nil ∧ columns = []) ∨
      ∃ entries, reply = .array entries ∧ List.Forall₂ Entry entries columns := by
  cases reply with
  | nil =>
      change Except.ok [] = Except.ok columns ↔ _
      simp [eq_comm]
  | array entries =>
      change entries.mapM ofReply = .ok columns ↔ _
      simp [mapM_eq_ok_iff, ofReply_eq_ok_iff]
  | _ =>
      refine iff_of_false nofun ?_
      rintro (⟨⟨⟩, -⟩ | ⟨_, ⟨⟩, -⟩)

/-- The first entry that stands for no column fails the header, whatever stands behind it. -/
theorem listOfReply_eq_error_iff :
    listOfReply reply = .error reason ↔
      (reply ≠ .nil ∧ (∀ entries, reply ≠ .array entries) ∧
        reason = .unexpectedShape "array" "header") ∨
      ∃ before entry rest, reply = .array (before ++ entry :: rest) ∧
        (∀ earlier ∈ before, IsEntry earlier) ∧ Flawed entry reason := by
  cases reply with
  | nil =>
      refine iff_of_false nofun ?_
      rintro (⟨hNil, -⟩ | ⟨_, _, _, ⟨⟩, -⟩)
      exact hNil rfl
  | array entries =>
      change entries.mapM ofReply = .error reason ↔ _
      simp only [mapM_eq_error_iff, ofReply_eq_ok_iff, ofReply_eq_error_iff, Reply.array.injEq,
        ← exists_entry_iff, ← exists_forall₂_iff]
      constructor
      · rintro ⟨before, entry, rest, columns, hEntries, hBefore, hEntry⟩
        exact Or.inr ⟨before, entry, rest, hEntries, ⟨columns, hBefore⟩, hEntry⟩
      · rintro (⟨-, hArray, -⟩ | ⟨before, entry, rest, hEntries, ⟨columns, hBefore⟩, hEntry⟩)
        · exact absurd rfl (hArray entries)
        · exact ⟨before, entry, rest, columns, hEntries, hBefore, hEntry⟩
  | _ =>
      constructor
      · rintro ⟨⟩
        exact Or.inl ⟨nofun, nofun, rfl⟩
      · rintro (⟨-, -, rfl⟩ | ⟨_, _, _, ⟨⟩, -⟩)
        rfl

end Headers

/--
**The grammar of headers.**  A reply is read as a header exactly if it is nothing at all or an
array of entries.  The columns are then those that the entries stand for, one by one and in
order.  Any other reply is no array, or its first item that is no entry is to blame: the header
fails with what is wrong with that item, whatever stands behind it.  Among columns, the position
of a name is the least that has the name, and there is none if no column has it.
-/
theorem listOfReply_grammar (reply : Reply) :
    ((∃ columns, listOfReply reply = .ok columns) ↔
      reply = .nil ∨ ∃ entries, reply = .array entries ∧ ∀ entry ∈ entries, IsEntry entry) ∧
    (∀ columns, listOfReply reply = .ok columns ↔
      (reply = .nil ∧ columns = []) ∨
      ∃ entries, reply = .array entries ∧ List.Forall₂ Entry entries columns) ∧
    (∀ reason, listOfReply reply = .error reason ↔
      (reply ≠ .nil ∧ (∀ entries, reply ≠ .array entries) ∧
        reason = .unexpectedShape "array" "header") ∨
      ∃ before entry rest, reply = .array (before ++ entry :: rest) ∧
        (∀ earlier ∈ before, IsEntry earlier) ∧ Flawed entry reason) ∧
    ∀ columns name, Located columns name (position? columns name) := by
  refine ⟨?_, fun columns => listOfReply_eq_ok_iff, fun reason => listOfReply_eq_error_iff,
    located_position?⟩
  simp only [listOfReply_eq_ok_iff, ← exists_entry_iff, ← exists_forall₂_iff]
  constructor
  · rintro ⟨columns, ⟨hNil, -⟩ | ⟨entries, hEntries, hColumns⟩⟩
    · exact Or.inl hNil
    · exact Or.inr ⟨entries, hEntries, columns, hColumns⟩
  · rintro (hNil | ⟨entries, hEntries, columns, hColumns⟩)
    · exact ⟨[], Or.inl ⟨hNil, rfl⟩⟩
    · exact ⟨columns, Or.inr ⟨entries, hEntries, hColumns⟩⟩

end Column
end GraphClient
