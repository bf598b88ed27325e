import GraphClient.Proofs.Schema.Transparency
import GraphClient.Proofs.Value.WellFormed

/-!
# Tables are well formed

A table that is read from a reply has its rows in the order of the reply, a value per
column in each of them, and values that are well formed at every depth.

**Rows.**  A cell is read as the kind of its column says, and a row only if it has a
cell per column, so the values of a row pair off with the columns (`Row.WellFormed`).

**Records.**  A record whose values pair off with its keys has a value for exactly the
names among them (`Record.Aligned`).

**Results.**  `Backed.decode_wellFormed` states all of this for whatever `decode` yields,
through any cache and any fetches.
-/

namespace GraphClient

variable {known : Kind → String → Prop}

/-- A value may stand in a column of a kind. -/
def ColumnKind.Admits : ColumnKind → Value → Prop
  | .scalar, _ => True
  | .node, .node _ => True
  | .relation, .edge _ => True
  | .unknown, .null => True
  | _, _ => False

/-- A row has a well-formed value per column, each of the kind of its column. -/
def Row.WellFormed
    (known : Kind → String → Prop)
    (columns : List Column)
    (row : List Value) :
    Prop :=
  List.Forall₂ (fun column value => column.kind.Admits value ∧ value.WellFormed known) columns row

/-- A record has the names of the columns for its keys and a value of the right kind for each. -/
structure Record.Aligned (columns : List Column) (record : Record) : Prop where
  keys_eq : record.keys = Column.names columns
  length_eq : record.values.length = columns.length
  admits : List.Forall₂ (fun column value => column.kind.Admits value) columns record.values
  hasKey_eq : ∀ name, record.hasKey name = (record.get? name).isSome
  get?_eq : ∀ name, record.get? name = (Column.position? columns name).bind record.at?

theorem wellFormed_cellOfReply
    {kind : ColumnKind}
    {cell : Reply}
    {value : Value}
    (hEnds : (cellOfReply kind cell).Ends known value) :
    kind.Admits value ∧ value.WellFormed known := by
  cases kind with
  | unknown =>
      obtain rfl := Lookup.ends_pure.mp hEnds
      exact ⟨trivial, Value.throughout_of_parts_eq_nil trivial rfl⟩
  | scalar => exact ⟨trivial, Value.wellFormed_ofReply cell hEnds⟩
  | node =>
      obtain ⟨node, hNode, hEnds⟩ := Lookup.ends_bind.mp hEnds
      obtain rfl := Lookup.ends_pure.mp hEnds
      exact ⟨trivial, Node.wellFormed_ofReply hNode⟩
  | relation =>
      obtain ⟨edge, hEdge, hEnds⟩ := Lookup.ends_bind.mp hEnds
      obtain rfl := Lookup.ends_pure.mp hEnds
      exact ⟨trivial, Edge.wellFormed_ofReply hEdge⟩

theorem wellFormed_cellsOfReplies
    {columns : List Column}
    {cells : List Reply}
    {row : List Value}
    (hLength : cells.length = columns.length)
    (hEnds : (cellsOfReplies columns cells).Ends known row) :
    Row.WellFormed known columns row := by
  induction columns generalizing cells row with
  | nil =>
      obtain rfl := List.length_eq_zero_iff.mp hLength
      obtain rfl := Lookup.ends_pure.mp hEnds
      exact .nil
  | cons column rest ih =>
      obtain ⟨cell, others, rfl⟩ := List.exists_cons_of_length_eq_add_one hLength
      obtain ⟨value, hValue, hEnds⟩ := Lookup.ends_bind.mp hEnds
      obtain ⟨values, hValues, hEnds⟩ := Lookup.ends_bind.mp hEnds
      obtain rfl := Lookup.ends_pure.mp hEnds
      exact .cons (wellFormed_cellOfReply hValue) (ih (Nat.succ.inj hLength) hValues)

/-- A row is read only if it has a cell per column. -/
theorem wellFormed_rowOfReply
    {columns : List Column}
    {reply : Reply}
    {row : List Value}
    (hEnds : (rowOfReply columns reply).Ends known row) :
    Row.WellFormed known columns row := by
  obtain ⟨cells, -, hEnds⟩ := Lookup.ends_bind.mp hEnds
  split at hEnds
  · next hLength => exact wellFormed_cellsOfReplies hLength hEnds
  · exact (Lookup.not_ends_fail hEnds).elim

/-- Rows are read one by one in order. -/
theorem forall₂_rowsOfReplies
    {columns : List Column}
    {replies : List Reply}
    {rows : List (List Value)}
    (hEnds : (rowsOfReplies columns replies).Ends known rows) :
    List.Forall₂ (fun reply row => (rowOfReply columns reply).Ends known row) replies rows := by
  induction replies generalizing rows with
  | nil =>
      obtain rfl := Lookup.ends_pure.mp hEnds
      exact .nil
  | cons reply rest ih =>
      obtain ⟨row, hRow, hEnds⟩ := Lookup.ends_bind.mp hEnds
      obtain ⟨others, hOthers, hEnds⟩ := Lookup.ends_bind.mp hEnds
      obtain rfl := Lookup.ends_pure.mp hEnds
      exact .cons hRow (ih hOthers)

namespace Record

variable {keys : List String} {values : List Value} {name : String}

/-- The first place of a name is one of the places of the keys. -/
theorem lt_length_of_findIdx?
    {position : Nat}
    (hFound : keys.findIdx? (· = name) = some position) :
    position < keys.length :=
  (List.findIdx?_eq_some_iff_getElem.mp hFound).1

theorem get?_eq_bind_at? :
    (Record.mk keys values).get? name =
      (keys.findIdx? (· = name)).bind (Record.mk keys values).at? := by
  rw [get?]
  cases hFound : keys.findIdx? (· = name) with
  | none => rfl
  | some position =>
      simp only [Option.bind_some, at?]
      rw [if_pos (lt_length_of_findIdx? hFound)]

/-- A record of full width has a value for each of its keys. -/
theorem hasKey_eq_isSome_get? (hLength : values.length = keys.length) :
    (Record.mk keys values).hasKey name = ((Record.mk keys values).get? name).isSome := by
  have hKey : keys.contains name = (keys.findIdx? (· = name)).isSome := by
    rw [List.findIdx?_isSome, List.contains_eq_any_beq]
    exact congrArg keys.any (funext fun key => BEq.comm)
  rw [hasKey, hKey, get?]
  cases hFound : keys.findIdx? (· = name) with
  | none => rfl
  | some position =>
      have hInside : position < values.length := hLength ▸ lt_length_of_findIdx? hFound
      simp only [Option.bind_some, List.getElem?_eq_getElem hInside, Option.isSome_some]

/-- A row whose values pair off with the columns makes a record that lines up with them. -/
theorem aligned_of_wellFormed
    {columns : List Column}
    {row : List Value}
    (hRow : Row.WellFormed known columns row) :
    (Record.mk (Column.names columns) row).Aligned columns where
  keys_eq := rfl
  length_eq := hRow.length_eq.symm
  admits := hRow.imp fun _ _ hCell => hCell.1
  hasKey_eq _ := hasKey_eq_isSome_get? (by rw [Column.names, List.length_map, hRow.length_eq])
  get?_eq _ := get?_eq_bind_at?

end Record

namespace Row

theorem WellFormed.values
    {columns : List Column}
    {row : List Value}
    (hRow : Row.WellFormed known columns row) :
    ∀ value ∈ row, value.WellFormed known := by
  induction hRow with
  | nil => exact List.forall_mem_nil _
  | cons hCell _ ih => exact List.forall_mem_cons.mpr ⟨hCell.2, ih⟩

end Row

/--
A table is what a reply says: its records line up with its columns, there is one for each
item of the second of three parts, in order, and every value is well formed.
-/
structure Table.WellFormed
    (known : Kind → String → Prop)
    (reply : Reply)
    (table : Table) :
    Prop where
  aligned : ∀ record ∈ table.records, record.Aligned table.columns
  rows : ∀ header rows statistics, reply = .array [header, rows, statistics] →
    ∃ items, rows.toItems "result rows" = .ok items ∧
      List.Forall₂ (fun item record => (rowOfReply table.columns item).Ends known record.values)
        items table.records
  values : ∀ record ∈ table.records, ∀ value ∈ record.values, value.WellFormed known

namespace Table

/-- A table without columns and rows is well formed, if its reply has not three parts. -/
theorem wellFormed_ofStatistics
    {reply : Reply}
    (hShort : ∀ header rows statistics, reply ≠ .array [header, rows, statistics])
    (statistics : Statistics) :
    (ofStatistics statistics).WellFormed known reply where
  aligned := List.forall_mem_nil _
  rows header rows statistics hReply := absurd hReply (hShort header rows statistics)
  values := List.forall_mem_nil _

theorem wellFormed_ofReply
    {reply : Reply}
    {table : Table}
    (hEnds : (ofReply reply).Ends known table) :
    table.WellFormed known reply := by
  obtain ⟨parts, hParts, hEnds⟩ := Lookup.ends_bind.mp hEnds
  have hItems := Lookup.ends_lift.mp hParts
  split at hEnds
  · obtain ⟨columns, -, hEnds⟩ := Lookup.ends_bind.mp hEnds
    obtain ⟨items, hRows, hEnds⟩ := Lookup.ends_bind.mp hEnds
    obtain ⟨read, hRead, hEnds⟩ := Lookup.ends_bind.mp hEnds
    obtain ⟨counted, -, hEnds⟩ := Lookup.ends_bind.mp hEnds
    obtain rfl := Lookup.ends_pure.mp hEnds
    have hPaired := forall₂_rowsOfReplies hRead
    have hBoth := hPaired.flip.imp fun row item hRow =>
      And.intro (wellFormed_rowOfReply hRow) hRow
    have hWellFormed : ∀ row ∈ read, Row.WellFormed known columns row :=
      ((List.forall₂_and_left _ _).mp hBoth).1
    refine ⟨?_, ?_, ?_⟩
    · exact List.forall_mem_map.mpr fun row hRow =>
        Record.aligned_of_wellFormed (hWellFormed row hRow)
    · rintro header rows statistics rfl
      cases hItems
      exact ⟨items, Lookup.ends_lift.mp hRows, List.forall₂_map_right_iff.mpr hPaired⟩
    · exact List.forall_mem_map.mpr fun row hRow => (hWellFormed row hRow).values
  · next hOther =>
      have hShort : ∀ header rows statistics, reply ≠ .array [header, rows, statistics] := by
        rintro header rows statistics rfl
        cases hItems
        exact hOther _ _ _ rfl
      split at hEnds
      · obtain ⟨counted, -, hEnds⟩ := Lookup.ends_bind.mp hEnds
        obtain rfl := Lookup.ends_pure.mp hEnds
        exact wellFormed_ofStatistics hShort counted
      · obtain rfl := Lookup.ends_pure.mp hEnds
        exact wellFormed_ofStatistics hShort .empty

end Table

namespace Backed

variable {σ : Type} {fetch : Fetch σ} {reply : Reply} {backed after : Backed σ} {table : Table}

/-- A table comes of a reply only if the reading of the reply ends in it. -/
theorem run_of_decode_ok
    (hOk : (decode fetch reply).on backed = (.ok table, after)) :
    ((Table.ofReply reply).run (resolve fetch)).on backed = (.ok table, after) := by
  rw [decode, Table.decode] at hOk
  cases hError : reply.serverError? with
  | some message =>
      rw [hError] at hOk
      cases hOk
  | none =>
      rw [hError] at hOk
      exact hOk

/--
**Tables are well formed.**  Whatever table comes of a reply, through any cache and any
fetches, is well formed, and the names of all nodes and edges in it, at every depth, are in
the lists of the cache afterwards.

The part on names is about fetches that append.  A source does (`appends_fetchFrom`), and
so does a list that comes through the cache itself (`Handle.appends_fetch`).  A fetch that
drops the names would wait for the refresh of which it is a part.
-/
theorem decode_wellFormed
    (hOk : (decode fetch reply).on backed = (.ok table, after)) :
    table.WellFormed (fun _ _ => True) reply ∧
    ((∀ kind, Appends (fetch kind)) →
      table.WellFormed (fun kind name => name ∈ after.cache.names.of kind) reply) := by
  have hRun := run_of_decode_ok hOk
  exact ⟨Table.wellFormed_ofReply (ends_of_run_any hRun),
    fun hFetch => Table.wellFormed_ofReply (ends_of_run hFetch hRun)⟩

end Backed

/-- The sample cache and server after the sample reply. -/
def Sample.decoded : Backed Server :=
  ((Backed.decode (Backed.fetchFrom Server.source) Sample.reply).on
    ⟨Sample.cache, Sample.server⟩).2

/-- The names in the node of the sample reply are in the lists, which have grown meanwhile. -/
theorem Backed.decode_wellFormed_sample :
    (decode (fetchFrom Server.source) Sample.reply).on ⟨Sample.cache, Sample.server⟩ =
      (.ok Sample.table, Sample.decoded) ∧
    Sample.decoded.cache.names = ⟨["City", "Person"], [], ["name"]⟩ ∧
    Sample.table.WellFormed (fun kind name => name ∈ Sample.decoded.cache.names.of kind)
      Sample.reply := by
  have hOk : (decode (fetchFrom Server.source) Sample.reply).on ⟨Sample.cache, Sample.server⟩ =
      (.ok Sample.table, Sample.decoded) := rfl
  exact ⟨hOk, rfl, (decode_wellFormed hOk).2 (appends_fetchFrom Server.source)⟩

end GraphClient
