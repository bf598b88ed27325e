import GraphClient.Proofs.Schema.AppendOnly
import GraphClient.Proofs.Traversal

/-!
# Names from rows

What enters a list of names when a table with the list has been fetched.

**Rows.**  The rows beyond the names already known are read in order.  A row can be read if it
has a first cell that is not null, and then it stands for the text of that cell
(`Backed.rowName_eq_ok_iff`).  One row that cannot be read spoils all of them.

**Texts of other values.**  The first cell is asked for its text and not for a string.  Where it
holds a number, a list or an entity, the text of that is taken for a name
(`Backed.resolve_rendered`), though what the failure of a refresh asks for is a column of strings
(`Backed.not_forall_refresh_strings`).

**Results.**  `Backed.refresh_rows` says when a refresh succeeds and what it does to the lists.
Where the first cells are strings, just these strings are appended.
-/

namespace GraphClient

/-- The row has a first cell, and it is not null. -/
def Record.Named (record : Record) : Prop :=
  ∃ value, record.at? 0 = some value ∧ value ≠ .null

/-- The text is that of the first cell of the row. -/
def Record.NamedBy (record : Record) (name : String) : Prop :=
  ∃ value, record.at? 0 = some value ∧ value ≠ .null ∧ value.toText = name

namespace Record

variable {record : Record} {records : List Record}

theorem NamedBy.named {name : String} (hName : record.NamedBy name) : record.Named := by
  obtain ⟨value, hCell, hNull, -⟩ := hName
  exact ⟨value, hCell, hNull⟩

theorem NamedBy.unique
    {name other : String}
    (hName : record.NamedBy name)
    (hOther : record.NamedBy other) :
    name = other := by
  obtain ⟨value, hCell, -, rfl⟩ := hName
  obtain ⟨value', hCell', -, rfl⟩ := hOther
  obtain rfl : value = value' := Option.some.inj (hCell.symm.trans hCell')
  rfl

/-- Rows stand for no names but their own. -/
theorem names_unique
    {names others : List String}
    (hNames : List.Forall₂ NamedBy records names)
    (hOthers : List.Forall₂ NamedBy records others) :
    names = others := by
  induction hNames generalizing others with
  | nil =>
      cases hOthers
      rfl
  | cons hName _ ih =>
      cases hOthers with
      | cons hOther hRest => rw [hName.unique hOther, ih hRest]

theorem named_of_forall₂
    {names : List String}
    (hNames : List.Forall₂ NamedBy records names) :
    ∀ record ∈ records, record.Named := by
  induction hNames with
  | nil => exact List.forall_mem_nil _
  | cons hName _ ih => exact List.forall_mem_cons.mpr ⟨hName.named, ih⟩

end Record

namespace Backed

/-- The failure of a refresh in which a row stands for no name. -/
def namelessRow : Failure :=
  .malformed (.unexpectedShape "string name column" "schema procedure")

section Rows

variable {record : Record}

theorem rowName_eq_ok_iff {name : String} :
    rowName record = .ok name ↔ record.NamedBy name := by
  unfold rowName Record.NamedBy
  cases record.at? 0 with
  | none => simp
  | some value => cases value <;> simp [Value.cellText?]

theorem rowName_eq_error_iff {reason : Malformed} :
    rowName record = .error reason ↔
      ¬ record.Named ∧ reason = .unexpectedShape "string name column" "schema procedure" := by
  unfold rowName Record.Named
  cases record.at? 0 with
  | none => simp [eq_comm]
  | some value => cases value <;> simp [Value.cellText?, eq_comm]

/-- A string stands for itself. -/
theorem namedBy_of_string {name : String} (hCell : record.at? 0 = some (.string name)) :
    record.NamedBy name := by
  refine ⟨.string name, hCell, by simp, ?_⟩
  rw [Value.toText, Value.describe, String.ofList_toList]

/-- Rows that can all be read are read, and any other row fails the whole. -/
theorem unseenNames_cases (known : Nat) (table : Table) :
    (∃ tail, unseenNames known table = .ok tail ∧
      List.Forall₂ Record.NamedBy (table.records.drop known) tail) ∨
    (unseenNames known table =
        .error (.unexpectedShape "string name column" "schema procedure") ∧
      ∃ record ∈ table.records.drop known, ¬ record.Named) := by
  cases hRead : unseenNames known table with
  | ok tail =>
      have hRows := mapM_eq_ok_iff.mp hRead
      exact Or.inl ⟨tail, rfl, hRows.imp fun _ _ => rowName_eq_ok_iff.mp⟩
  | error reason =>
      obtain ⟨before, record, rest, values, hRecords, -, hRecord⟩ := mapM_eq_error_iff.mp hRead
      obtain ⟨hNamed, rfl⟩ := rowName_eq_error_iff.mp hRecord
      exact Or.inr ⟨rfl, record, hRecords ▸ List.mem_append_right _ List.mem_cons_self, hNamed⟩

end Rows

variable {σ : Type} {source : Source σ} {kind : Kind} {backed : Backed σ}

/-- A refresh whose fetch succeeds does what its rows say, and counts either way. -/
theorem refresh_of_source_ok
    {table : Table}
    {after : σ}
    (hSource : (source kind).on backed.server = (.ok table, after)) :
    (∃ tail, List.Forall₂ Record.NamedBy (table.records.drop (backed.cache.known kind)) tail ∧
      (refresh (fetchFrom source) kind).on backed =
        (.ok (), ⟨backed.cache.countRefresh.append kind tail, after⟩)) ∨
    ((∃ record ∈ table.records.drop (backed.cache.known kind), ¬ record.Named) ∧
      (refresh (fetchFrom source) kind).on backed =
        (.error namelessRow, ⟨backed.cache.countRefresh, after⟩)) := by
  rw [on_refresh, fetchFrom, on_onServer, hSource]
  dsimp only
  rcases unseenNames_cases (backed.cache.known kind) table with
    ⟨tail, hRead, hRows⟩ | ⟨hRead, hRow⟩
  · rw [hRead]
    exact Or.inl ⟨tail, hRows, rfl⟩
  · rw [hRead]
    exact Or.inr ⟨hRow, rfl⟩

/-- A source that answers every fetch with one table. -/
def Sample.answering (table : Table) : Source Unit := fun _ => pure table

/-- A list of names in which a number stands. -/
def Sample.numbered : Table := ⟨[⟨"label", .scalar⟩], [[.integer 42]], .empty⟩

/-- A number in a list of names is taken for a name, which is then found at its index. -/
theorem resolve_rendered :
    ((refresh (fetchFrom (Sample.answering Sample.numbered)) .label).on
      ⟨.new "graph", ()⟩).1 = .ok () ∧
    ((resolve (fetchFrom (Sample.answering Sample.numbered)) .label 0).on
      ⟨.new "graph", ()⟩).1 = .ok "42" :=
  ⟨rfl, rfl⟩

/-- A refresh may succeed though the first cell of a new row is no string. -/
theorem not_forall_refresh_strings :
    ¬ ∀ (table : Table) (kind : Kind) (backed : Backed Unit),
      let rows := table.records.drop (backed.cache.known kind)
      let result := (refresh (fetchFrom (Sample.answering table)) kind).on backed
      (result.1 = .ok () ↔ ∀ record ∈ rows, ∃ name, record.at? 0 = some (.string name)) ∧
      ((∃ record ∈ rows, ∀ name, record.at? 0 ≠ some (.string name)) →
        result.1 = .error namelessRow ∧ result.2.cache.names = backed.cache.names) := by
  intro hAll
  obtain ⟨hStrings, -⟩ := hAll Sample.numbered .label ⟨.new "graph", ()⟩
  obtain ⟨name, hCell⟩ := hStrings.mp resolve_rendered.1 ⟨["label"], [.integer 42]⟩
    List.mem_cons_self
  cases hCell

/--
**Names are the texts of first cells.**  When a source answers with a table, whatever it is, the
refresh succeeds exactly if every row beyond the names already known has a first cell that is not
null.  Then the texts of these cells are appended in order; cells that are strings stand for
themselves.  If one of these rows has no such cell, the refresh fails and says that it expected a
column of strings, and no list changes.
-/
theorem refresh_rows
    {table : Table}
    {after : σ}
    (hSource : (source kind).on backed.server = (.ok table, after)) :
    let rows := table.records.drop (backed.cache.known kind)
    let result := (refresh (fetchFrom source) kind).on backed
    (result.1 = .ok () ↔ ∀ record ∈ rows, record.Named) ∧
    (result.1 = .ok () → ∃ tail, List.Forall₂ Record.NamedBy rows tail ∧
      result.2.cache.names = backed.cache.names.append kind tail) ∧
    (∀ names, List.Forall₂ (fun record name => record.at? 0 = some (.string name)) rows names →
      result.1 = .ok () ∧ result.2.cache.names = backed.cache.names.append kind names) ∧
    ((∃ record ∈ rows, ¬ record.Named) →
      result.1 = .error namelessRow ∧ result.2.cache.names = backed.cache.names) := by
  intro rows result
  rcases refresh_of_source_ok hSource with ⟨tail, hRows, hResult⟩ | ⟨hNameless, hResult⟩
  · have hOutcome : result = (.ok (), ⟨backed.cache.countRefresh.append kind tail, after⟩) :=
      hResult
    have hNamed : ∀ record ∈ rows, record.Named := Record.named_of_forall₂ hRows
    rw [hOutcome]
    refine ⟨iff_of_true rfl hNamed, fun _ => ⟨tail, hRows, rfl⟩, fun names hNames => ?_, ?_⟩
    · obtain rfl : tail = names :=
        Record.names_unique hRows (hNames.imp fun _ _ => namedBy_of_string)
      exact ⟨rfl, rfl⟩
    · rintro ⟨record, hRecord, hUnnamed⟩
      exact absurd (hNamed record hRecord) hUnnamed
  · obtain ⟨record, hRecord, hUnnamed⟩ := hNameless
    have hOutcome : result = (.error namelessRow, ⟨backed.cache.countRefresh, after⟩) := hResult
    rw [hOutcome]
    refine ⟨iff_of_false (by simp) fun hNamed => hUnnamed (hNamed record hRecord), by simp,
      fun names hNames => ?_, fun _ => ⟨rfl, rfl⟩⟩
    have hNamed := Record.named_of_forall₂ (hNames.imp fun _ _ => namedBy_of_string)
    exact absurd (hNamed record hRecord) hUnnamed

/-- A list of names of which the first row, for a name that is known, has a null. -/
def Sample.mixed : Table :=
  ⟨[⟨"label", .scalar⟩], [[.null], [.string "B"], [.integer 42]], .empty⟩

/-- A cache that knows one label. -/
def Sample.knowing : Backed Unit := ⟨{ Cache.new "graph" with names := ⟨["A"], [], []⟩ }, ()⟩

theorem refresh_rows_sample :
    ((refresh (fetchFrom (Sample.answering Sample.mixed)) .label).on Sample.knowing).1 = .ok () ∧
    ((refresh (fetchFrom (Sample.answering Sample.mixed)) .label).on
      Sample.knowing).2.cache.names = ⟨["A", "B", "42"], [], []⟩ := by
  have hRows : List.Forall₂ Record.NamedBy (Sample.mixed.records.drop 1) ["B", "42"] :=
    .cons ⟨.string "B", rfl, by simp, rfl⟩ (.cons ⟨.integer 42, rfl, by simp, rfl⟩ .nil)
  have hSource : ((Sample.answering Sample.mixed) .label).on Sample.knowing.server =
      (.ok Sample.mixed, ()) := rfl
  obtain ⟨hOk, hTail, -, -⟩ := refresh_rows hSource
  have hResult := hOk.mpr (Record.named_of_forall₂ hRows)
  obtain ⟨tail, hNames, hLists⟩ := hTail hResult
  obtain rfl := Record.names_unique hNames hRows
  exact ⟨hResult, hLists⟩

end Backed
end GraphClient
