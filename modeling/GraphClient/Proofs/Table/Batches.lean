import GraphClient.Proofs.Table.Reach
import GraphClient.Proofs.Wire.RoundTrip

/-!
# Rows in batches

The rows of a table may be sent in one reply or be spread over two replies with the same header
and the same statistics.

**Setting.**  The header and the statistics can be read.  Lists of names are fetched in any way,
and the second of two replies is read in the state that the first one left.

**Results.**  Reading the rows at once is reading the first batch, then the second batch, and
putting the rows of the second behind those of the first (`Backed.decode_ofRows_append`).  So the
outcome, the cache with its counters, and whatever happened to the server are the same in both
ways, and a failure is that of the batch in which it occurs (`Backed.decode_batches`).
-/

namespace GraphClient

/-- The reply to a query with these rows. -/
def Reply.ofRows (header statistics : Reply) (rows : List Reply) : Reply :=
  .array [header, .array rows, statistics]

theorem rowsOfReplies_eq_mapM (columns : List Column) (replies : List Reply) :
    rowsOfReplies columns replies = replies.mapM (rowOfReply columns) := by
  induction replies with
  | nil => rfl
  | cons reply rest ih => rw [rowsOfReplies, ih, List.mapM_cons]

theorem rowsOfReplies_append (columns : List Column) (rows others : List Reply) :
    rowsOfReplies columns (rows ++ others) = (do
      let first ← rowsOfReplies columns rows
      let second ← rowsOfReplies columns others
      pure (first ++ second)) := by
  simp only [rowsOfReplies_eq_mapM, List.mapM_append]

section Parts

variable {header statistics : Reply} {columns : List Column} {summary : Statistics}

/-- A reply with statistics that can be read does not end in an error. -/
theorem Reply.serverError?_ofRows
    (hStatistics : Statistics.ofReply statistics = .ok summary)
    (rows : List Reply) :
    (Reply.ofRows header statistics rows).serverError? = none := by
  cases statistics with
  | error message => cases hStatistics
  | _ => rfl

/-- Only the rows of a reply need names. -/
theorem Table.ofReply_ofRows
    (hHeader : Column.listOfReply header = .ok columns)
    (hStatistics : Statistics.ofReply statistics = .ok summary)
    (rows : List Reply) :
    Table.ofReply (Reply.ofRows header statistics rows) = (do
      let read ← rowsOfReplies columns rows
      pure ⟨columns, read, summary⟩) := by
  rw [Table.ofReply, Reply.ofRows]
  simp only [Reply.toItems, hHeader, hStatistics, Lookup.lift_ok, Lookup.done_bind]

namespace Backed

variable {σ : Type} (fetch : Fetch σ)

theorem decode_ofRows
    (hHeader : Column.listOfReply header = .ok columns)
    (hStatistics : Statistics.ofReply statistics = .ok summary)
    (rows : List Reply) :
    decode fetch (Reply.ofRows header statistics rows) = (do
      let read ← (rowsOfReplies columns rows).run (resolve fetch)
      pure ⟨columns, read, summary⟩) := by
  rw [decode, Table.decode, Reply.serverError?_ofRows hStatistics,
    Table.ofReply_ofRows hHeader hStatistics, Lookup.run_bind]
  rfl

/-- Rows that are read at once are read batch by batch. -/
theorem decode_ofRows_append
    (hHeader : Column.listOfReply header = .ok columns)
    (hStatistics : Statistics.ofReply statistics = .ok summary)
    (rows others : List Reply) :
    decode fetch (Reply.ofRows header statistics (rows ++ others)) = (do
      let table ← decode fetch (Reply.ofRows header statistics rows)
      let later ← decode fetch (Reply.ofRows header statistics others)
      pure ⟨columns, table.rows ++ later.rows, summary⟩) := by
  simp only [decode_ofRows fetch hHeader hStatistics, rowsOfReplies_append, Lookup.run_bind,
    Lookup.run_pure, bind_assoc, pure_bind]

theorem columns_of_decode_ofRows
    (hHeader : Column.listOfReply header = .ok columns)
    (hStatistics : Statistics.ofReply statistics = .ok summary)
    {rows : List Reply}
    {backed after : Backed σ}
    {table : Table}
    (hOk : (decode fetch (Reply.ofRows header statistics rows)).on backed = (.ok table, after)) :
    table.columns = columns := by
  rw [decode_ofRows fetch hHeader hStatistics, Attempt.on_bind_pure] at hOk
  obtain ⟨hTable, -⟩ := Prod.mk.inj hOk
  cases hRead : (((rowsOfReplies columns rows).run (resolve fetch)).on backed).1 with
  | error failure =>
      rw [hRead] at hTable
      cases hTable
  | ok read =>
      rw [hRead] at hTable
      cases hTable
      rfl

/--
**Rows are read batch by batch.**  Let the header and the statistics be readable, and let names be
fetched in any way.  If both batches can be read, the second in the state that the first leaves,
then the whole can be read: its records are those of the first batch followed by those of the
second, and it leaves the state that the second batch leaves.  If the first batch fails, the whole
fails with the same failure in the same state, and if only the second fails, then with that of the
second.
-/
theorem decode_batches
    (backed : Backed σ)
    (hHeader : Column.listOfReply header = .ok columns)
    (hStatistics : Statistics.ofReply statistics = .ok summary)
    (rows others : List Reply) :
    (∀ table middle later after,
      (decode fetch (Reply.ofRows header statistics rows)).on backed = (.ok table, middle) →
      (decode fetch (Reply.ofRows header statistics others)).on middle = (.ok later, after) →
        ∃ whole,
          (decode fetch (Reply.ofRows header statistics (rows ++ others))).on backed =
            (.ok whole, after) ∧
          whole.columns = columns ∧ whole.statistics = summary ∧
          whole.records = table.records ++ later.records) ∧
    (∀ failure after,
      (decode fetch (Reply.ofRows header statistics rows)).on backed = (.error failure, after) →
        (decode fetch (Reply.ofRows header statistics (rows ++ others))).on backed =
          (.error failure, after)) ∧
    ∀ table middle failure after,
      (decode fetch (Reply.ofRows header statistics rows)).on backed = (.ok table, middle) →
      (decode fetch (Reply.ofRows header statistics others)).on middle = (.error failure, after) →
        (decode fetch (Reply.ofRows header statistics (rows ++ others))).on backed =
          (.error failure, after) := by
  simp only [decode_ofRows_append fetch hHeader hStatistics, Attempt.on_bind]
  refine ⟨?_, ?_, ?_⟩
  · intro table middle later after hFirst hSecond
    rw [hFirst]
    simp only [hSecond, Attempt.on_pure]
    have hTable := columns_of_decode_ofRows fetch hHeader hStatistics hFirst
    have hLater := columns_of_decode_ofRows fetch hHeader hStatistics hSecond
    refine ⟨_, rfl, rfl, rfl, ?_⟩
    rw [Table.records, Table.records, Table.records, hTable, hLater, List.map_append]
  · intro failure after hFirst
    rw [hFirst]
  · intro table middle failure after hFirst hSecond
    rw [hFirst]
    simp only [hSecond]

end Backed
end Parts

namespace Sample

/-- A header with one column of nodes. -/
def nodeHeader : Reply := .array [.array [.integer 2, .ofText "n"]]

def batch (rows : List Reply) : Attempt (Backed Server) Table :=
  Backed.decode (Backed.fetchFrom Server.source) (Reply.ofRows nodeHeader .nil rows)

/-- A row with a node of one label. -/
def nodeRow (id label : Int) : Reply := .array [.array [.integer id, .array [.integer label], .nil]]

/-- The cache and the server once the label of the first row is known. -/
def begun : Backed Server := ((batch [nodeRow 7 1]).on ⟨cache, server⟩).2

end Sample

/-- The second row is read in the state that the first leaves, and may fail there. -/
theorem Backed.decode_batches_sample :
    Sample.begun.server.asked = [.label] ∧
    (∃ whole,
      (Sample.batch [Sample.nodeRow 7 1, Sample.nodeRow 8 0]).on ⟨Sample.cache, Sample.server⟩ =
        (.ok whole, ((Sample.batch [Sample.nodeRow 8 0]).on Sample.begun).2) ∧
      whole.records =
        [⟨["n"], [.node ⟨7, ["Person"], []⟩]⟩, ⟨["n"], [.node ⟨8, ["City"], []⟩]⟩]) ∧
    (Sample.batch [Sample.nodeRow 7 1, Sample.nodeRow 9 5]).on ⟨Sample.cache, Sample.server⟩ =
      (.error (.unresolved .label 5 2),
        ((Sample.batch [Sample.nodeRow 9 5]).on Sample.begun).2) := by
  have hHeader : Column.listOfReply Sample.nodeHeader = .ok [⟨"n", .node⟩] := rfl
  have hStatistics : Statistics.ofReply .nil = .ok (.ofLines []) := rfl
  obtain ⟨hRead, -⟩ := decode_batches (fetchFrom Server.source) ⟨Sample.cache, Sample.server⟩
    hHeader hStatistics [Sample.nodeRow 7 1] [Sample.nodeRow 8 0]
  obtain ⟨-, -, hFailed⟩ := decode_batches (fetchFrom Server.source) ⟨Sample.cache, Sample.server⟩
    hHeader hStatistics [Sample.nodeRow 7 1] [Sample.nodeRow 9 5]
  obtain ⟨whole, hWhole, -, -, hRecords⟩ := hRead _ Sample.begun _ _ rfl rfl
  exact ⟨rfl, ⟨whole, hWhole, hRecords⟩, hFailed _ Sample.begun _ _ rfl rfl⟩

end GraphClient
