import GraphClient.Proofs.Table.Labels
import GraphClient.Proofs.Table.Lines

/-!
# Statistics written as lines

Statistics that are written as lines and read again are what they were.

**What is kept.**  The labels and values of statistics come from lines, so they are trimmed, and a
label has no colon, is not empty and is in its usual spelling if it is known
(`Statistics.Kept`, `Statistics.kept_of_mem`).

**Round trip.**  A line made of such a label and value reports just these
(`Statistics.reported?_written`), and entries have labels of their own, so the order in which
they are entered does not matter.

**Results.**  `Statistics.ofLines_toLines` puts both together, for lines read one by one and for
lines sent as texts.
-/

namespace GraphClient
namespace Statistics

-- Only the two parts of a line matter here, not how the line is split.
attribute [local irreducible] splitLine

/-- What holds of every label and value that statistics keep. -/
structure Kept (entry : String × String) : Prop where
  label_ne_empty : entry.1 ≠ ""
  label_trimmed : Trimmed entry.1
  label_colonless : ':' ∉ entry.1.toList
  /-- A label that is known in some letter case is in the usual one. -/
  label_usual : ∀ known : KnownStatistic,
    agreesUpToCase known.label entry.1 → entry.1 = known.label
  value_trimmed : Trimmed entry.2

variable {lines : List String} {line label value : String} {entry : String × String}

theorem kept_known (known : KnownStatistic) (hValue : Trimmed value) :
    Kept (known.label, value) where
  label_ne_empty := by
    change known.label ≠ ""
    cases known <;> decide
  label_trimmed := by
    change Trimmed known.label
    cases known <;> decide
  label_colonless := by
    change ':' ∉ known.label.toList
    cases known <;> decide
  label_usual other hAgrees := by
    have hOther := KnownStatistic.ofLabel?_eq_some_iff.mpr hAgrees
    rw [KnownStatistic.ofLabel?_label] at hOther
    rw [Option.some.inj hOther]
  value_trimmed := hValue

theorem kept_of_reads (hReads : Reads line label value) (hLabel : label ≠ "") :
    Kept (usualLabel label, value) := by
  obtain ⟨hLabelTrimmed, hValueTrimmed⟩ := hReads.trimmed
  cases hKnown : KnownStatistic.ofLabel? label with
  | some known =>
      rw [usualLabel_of_known hKnown]
      exact kept_known known hValueTrimmed
  | none =>
      rw [usualLabel, hKnown]
      refine ⟨hLabel, hLabelTrimmed, hReads.colon_not_mem, fun known hAgrees => ?_, hValueTrimmed⟩
      rw [KnownStatistic.ofLabel?_eq_some_iff.mpr hAgrees] at hKnown
      cases hKnown

theorem kept_of_mem (hEntry : entry ∈ (ofLines lines).entries) : Kept entry := by
  rw [entries_ofLines] at hEntry
  obtain ⟨line, -, hReported⟩ := List.mem_filterMap.mp (Fields.mem_ofList hEntry)
  rw [reported?] at hReported
  split at hReported
  · cases hReported
  · next hLabel =>
      obtain rfl := Option.some.inj hReported
      exact kept_of_reads (reads_splitLine line) fun hEmpty => hLabel (String.isEmpty_iff.mpr hEmpty)

theorem Kept.usualLabel_eq (hKept : Kept entry) : usualLabel entry.1 = entry.1 := by
  cases hKnown : KnownStatistic.ofLabel? entry.1 with
  | none => rw [usualLabel, hKnown]
  | some known =>
      rw [usualLabel_of_known hKnown]
      exact (hKept.label_usual known (KnownStatistic.ofLabel?_eq_some_iff.mp hKnown)).symm

/-- A kept label and value, written as a line, are reported as they are. -/
theorem reported?_written (hKept : Kept entry) :
    reported? (entry.1 ++ ": " ++ entry.2) = some entry := by
  have hReads := reads_written hKept.label_trimmed hKept.label_colonless hKept.value_trimmed
  have hLabel : ¬ entry.1.isEmpty := mt String.isEmpty_iff.mp hKept.label_ne_empty
  rw [reported?, reads_iff.mp hReads, if_neg hLabel, hKept.usualLabel_eq]

theorem ofLines_of_perm
    {written : List String}
    (hWritten : written.Perm (ofLines lines).toLines) :
    ofLines written = ofLines lines := by
  have hReported : ((ofLines lines).toLines.filterMap reported?) = (ofLines lines).entries := by
    rw [toLines, List.filterMap_map]
    refine (List.filterMap_congr fun entry hEntry => ?_).trans List.filterMap_some
    exact reported?_written (kept_of_mem hEntry)
  have hEntries : (ofLines written).entries = (ofLines lines).entries := by
    rw [entries_ofLines written]
    refine Fields.ofList_of_perm (sorted_ofLines lines) ?_
    rw [← hReported]
    exact hWritten.filterMap reported?
  exact congrArg Statistics.mk hEntries

/--
**Statistics survive being written.**  Every label that statistics keep is not empty, trimmed,
without a colon, and in its usual spelling if it is known in some letter case, and every value is
trimmed.  The lines made of these labels and values, in whatever order, are read as the same
statistics, be they read one by one or sent as texts.
-/
theorem ofLines_toLines (lines : List String) :
    (∀ entry ∈ (ofLines lines).entries, Kept entry) ∧
    ∀ written : List String, written.Perm (ofLines lines).toLines →
      ofLines written = ofLines lines ∧
      ofReply (.array (written.map .ofText)) = .ok (ofLines lines) := by
  refine ⟨fun _ => kept_of_mem, fun written hWritten => ?_⟩
  have hRead := ofLines_of_perm hWritten
  exact ⟨hRead, hRead ▸ ofReply_lines written⟩

/-- Two unknown labels that differ in letter case, a known one, and a value with colons. -/
def Sample.mixedLines : List String :=
  ["  Foo : 1", "foo:\t2", "NODES created:5 ", "Plan: a: b :c", "bare"]

theorem ofLines_toLines_sample :
    (ofLines Sample.mixedLines).entries =
      [("Foo", "1"), ("Nodes created", "5"), ("Plan", "a: b :c"), ("bare", ""), ("foo", "2")] ∧
    ofLines ["foo: 2", "bare: ", "Plan: a: b :c", "Foo: 1", "Nodes created: 5"] =
      ofLines Sample.mixedLines := by
  have hEntries : (ofLines Sample.mixedLines).entries =
      [("Foo", "1"), ("Nodes created", "5"), ("Plan", "a: b :c"), ("bare", ""), ("foo", "2")] := by
    decide +kernel
  have hLines : (ofLines Sample.mixedLines).toLines =
      ["Foo: 1", "Nodes created: 5", "Plan: a: b :c", "bare: ", "foo: 2"] := by
    rw [toLines, hEntries]
    decide
  refine ⟨hEntries, ((ofLines_toLines Sample.mixedLines).2 _ ?_).1⟩
  rw [hLines]
  decide

end Statistics
end GraphClient
