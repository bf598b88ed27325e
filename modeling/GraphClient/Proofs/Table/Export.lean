import GraphClient.Proofs.Fields
import GraphClient.Table.Basic
import Mathlib.Data.List.Forall2

/-!
# Exported tables

What a table is exported as, in terms of looking columns up by their names.

**Records.**  The columns of a record are entered into an object one after the other, and a
look-up goes through them from the front.  Both see the columns of a name in one order
(`Record.get?_eq_head?`): the look-up finds the first of them, and the last is the one that the
object keeps (`Record.find?_fields`).

**Repeated names.**  Where a name stands for several columns, the exported value is therefore
not the one that is looked up (`Table.not_forall_exported`).

**Results.**  A table is exported as a list with an object for every record, with just the names
of the columns for its keys; under the name of a single column it holds what is looked up
(`Table.recordsTree_exported`).
-/

namespace GraphClient

namespace Record

/-- The values in the columns of a name, in the order of the columns. -/
def valuesOf (record : Record) (name : String) : List Value :=
  ((record.keys.zip record.values).filter (·.1 = name)).map Prod.snd

/-- The value in the last column of a name. -/
def last? (record : Record) (name : String) : Option Value := (record.valuesOf name).getLast?

/-- The fields of the exported form. -/
def fields (record : Record) : Fields Tree :=
  Fields.ofList (record.keys.zip (record.values.map Value.toTree))

/-- A look-up finds the first of the columns of a name. -/
theorem get?_eq_head? (record : Record) (name : String) :
    record.get? name = (record.valuesOf name).head? := by
  obtain ⟨keys, values⟩ := record
  rw [get?, valuesOf, List.head?_map, List.head?_filter]
  induction keys generalizing values with
  | nil => rfl
  | cons key keys ih =>
      cases values with
      | nil =>
          rw [List.zip_nil_right]
          cases List.findIdx? (· = name) (key :: keys) <;> rfl
      | cons value values =>
          by_cases hKey : key = name
          · simp [List.findIdx?_cons, hKey]
          · have hStep : List.findIdx? (· = name) (key :: keys) =
                (List.findIdx? (· = name) keys).map (· + 1) := by
              simp [List.findIdx?_cons, hKey]
            rw [hStep, Option.bind_map, List.zip_cons_cons,
              List.find?_cons_of_neg (by simpa using hKey), ← ih values]
            rfl

/-- The exported object keeps the last of the columns of a name. -/
theorem find?_fields (record : Record) (name : String) :
    Fields.find? name record.fields = (record.last? name).map Value.toTree := by
  have hEntered : (record.keys.zip (record.values.map Value.toTree)).filter (·.1 = name) =
      ((record.keys.zip record.values).filter (·.1 = name)).map fun column =>
        (column.1, column.2.toTree) := by
    rw [List.zip_map_right, List.filter_map]
    rfl
  rw [fields, Fields.find?_ofList, hEntered, last?, valuesOf, List.getLast?_map,
    List.getLast?_map, Option.map_map, Option.map_map]
  rfl

section Width

variable {record : Record} (hWidth : record.values.length = record.keys.length)

include hWidth

theorem mem_names_fields (name : String) :
    name ∈ Fields.names record.fields ↔ name ∈ record.keys := by
  have hKeys : (record.keys.zip (record.values.map Value.toTree)).map Prod.fst = record.keys :=
    List.map_fst_zip (Nat.le_of_eq (hWidth.symm.trans (List.length_map _).symm))
  rw [fields, Fields.mem_names_ofList, hKeys]

theorem length_valuesOf (name : String) :
    (record.valuesOf name).length = record.keys.count name := by
  have hKeys : (record.keys.zip record.values).map Prod.fst = record.keys :=
    List.map_fst_zip (Nat.le_of_eq hWidth.symm)
  rw [← hKeys, valuesOf, List.length_map, List.count_eq_length_filter, List.filter_map,
    List.length_map]
  rfl

/-- The name of a single column has one value, which is the first and the last. -/
theorem last?_eq_get?
    {name : String}
    (hSingle : record.keys.count name = 1) :
    record.last? name = record.get? name := by
  have hLength := length_valuesOf hWidth name
  rw [hSingle] at hLength
  obtain ⟨value, hValue⟩ := List.length_eq_one_iff.mp hLength
  rw [get?_eq_head?, last?, hValue]
  rfl

end Width

/--
Fields are those of an exported record: they are named by its keys, each once, and hold the
value in the last column of a name, which is the value of the name if it has one column.
-/
structure ExportedAs (record : Record) (fields : Fields Tree) : Prop where
  nodup_names : (Fields.names fields).Nodup
  mem_names_iff : ∀ name, name ∈ Fields.names fields ↔ name ∈ record.keys
  find?_last : ∀ name ∈ record.keys,
    ∃ value, record.last? name = some value ∧ Fields.find? name fields = some value.toTree
  find?_single : ∀ name, record.keys.count name = 1 →
    ∃ value, record.get? name = some value ∧ Fields.find? name fields = some value.toTree

theorem exportedAs_fields
    {record : Record}
    (hWidth : record.values.length = record.keys.length) :
    record.ExportedAs record.fields := by
  have hHeld : ∀ name ∈ record.keys, ∃ value, record.last? name = some value ∧
      Fields.find? name record.fields = some value.toTree := by
    intro name hName
    have hSome := Fields.isSome_find?.mpr ((mem_names_fields hWidth name).mpr hName)
    rw [find?_fields, Option.isSome_map] at hSome
    obtain ⟨value, hValue⟩ := Option.isSome_iff_exists.mp hSome
    exact ⟨value, hValue, by rw [find?_fields, hValue, Option.map_some]⟩
  refine ⟨(Fields.sorted_ofList _).nodup, mem_names_fields hWidth, hHeld, fun name hSingle => ?_⟩
  rw [← last?_eq_get? hWidth hSingle]
  exact hHeld name (List.count_pos_iff.mp (by omega))

end Record

namespace Table

/-- Every record of a table has the names of the columns for its keys, and a value for each. -/
theorem width_of_mem_records
    {table : Table}
    {record : Record}
    (hWidth : ∀ row ∈ table.rows, row.length = table.columns.length)
    (hRecord : record ∈ table.records) :
    record.keys = Column.names table.columns ∧ record.values.length = record.keys.length := by
  obtain ⟨row, hRow, rfl⟩ := List.mem_map.mp hRecord
  exact ⟨rfl, (hWidth row hRow).trans (List.length_map _).symm⟩

/-- A table with two columns of one name. -/
def Sample.twice : Table :=
  ⟨[⟨"a", .scalar⟩, ⟨"a", .scalar⟩], [[.integer 1, .integer 2]], .empty⟩

/-- Of two columns with one name a look-up finds the first, and the exported record the second. -/
theorem recordsTree_twice :
    Sample.twice.recordsTree = .list [.object [("a", .integer 2)]] ∧
    Sample.twice.records = [⟨["a", "a"], [.integer 1, .integer 2]⟩] ∧
    Record.get? ⟨["a", "a"], [.integer 1, .integer 2]⟩ "a" = some (.integer 1) :=
  ⟨rfl, rfl, rfl⟩

/-- An exported record need not hold under a name what is looked up under it. -/
theorem not_forall_exported :
    ¬ ∀ table : Table, (∀ row ∈ table.rows, row.length = table.columns.length) →
      ∃ objects : List (Fields Tree), table.recordsTree = .list (objects.map .object) ∧
        List.Forall₂ (fun record fields =>
          (∀ name, name ∈ Fields.names fields ↔ name ∈ Column.names table.columns) ∧
          ∀ name ∈ Column.names table.columns,
            Fields.find? name fields = (record.get? name).map Value.toTree)
          table.records objects := by
  intro hAll
  obtain ⟨hTree, hRecords, hFirst⟩ := recordsTree_twice
  obtain ⟨objects, hObjects, hShown⟩ := hAll Sample.twice (by decide)
  rw [hTree] at hObjects
  rw [hRecords] at hShown
  cases hShown with
  | @cons record fields _ _ hRecord hRest =>
      cases hRest
      obtain rfl : [("a", .integer 2)] = fields := by simpa using hObjects
      have hHeld := hRecord.2 "a" (by decide)
      rw [hFirst] at hHeld
      simp [Fields.find?, Value.toTree] at hHeld

/--
**A table is exported record by record.**  The exported form is a list with one object for every
record, in order.  The keys of each object are just the names of the columns, each once.  Under
every name it holds the value in the last column of the name, and so under the name of a single
column what a look-up of the name finds.
-/
theorem recordsTree_exported
    {table : Table}
    (hWidth : ∀ row ∈ table.rows, row.length = table.columns.length) :
    ∃ objects : List (Fields Tree), table.recordsTree = .list (objects.map .object) ∧
      List.Forall₂ (fun record fields =>
        record.keys = Column.names table.columns ∧ record.ExportedAs fields)
        table.records objects := by
  refine ⟨table.records.map Record.fields, ?_, ?_⟩
  · rw [recordsTree, List.map_map]
    rfl
  · rw [List.forall₂_map_right_iff, List.forall₂_same]
    intro record hRecord
    obtain ⟨hKeys, hLength⟩ := width_of_mem_records hWidth hRecord
    exact ⟨hKeys, Record.exportedAs_fields hLength⟩

/-- A table with a column of its own name between two columns of one name. -/
def Sample.repeated : Table :=
  ⟨[⟨"a", .scalar⟩, ⟨"b", .scalar⟩, ⟨"a", .scalar⟩],
    [[.integer 1, .array [.null, .string "x"], .integer 3]], .empty⟩

theorem recordsTree_exported_sample :
    ∃ fields : Fields Tree, Sample.repeated.recordsTree = .list [.object fields] ∧
      (∀ name, name ∈ Fields.names fields ↔ name ∈ ["a", "b", "a"]) ∧
      Fields.find? "b" fields = some (.list [.null, .text "x"]) := by
  have hWidth : ∀ row ∈ Sample.repeated.rows, row.length = Sample.repeated.columns.length := by
    decide
  obtain ⟨objects, hTree, hExported⟩ := recordsTree_exported hWidth
  cases hExported with
  | cons hRecord hRest =>
      cases hRest
      obtain ⟨value, hValue, hField⟩ := hRecord.2.find?_single "b" (by decide)
      obtain rfl := Option.some.inj hValue
      exact ⟨_, hTree, hRecord.2.mem_names_iff, hField⟩

end Table

end GraphClient
