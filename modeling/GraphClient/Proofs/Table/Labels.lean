import GraphClient.Proofs.Fields
import GraphClient.Table.Statistics
import Mathlib.Data.List.Find

/-!
# Asking for statistics

Which value of the statistics of a query is found under a label, in terms of the lines that the
server sent.

**What is kept.**  Lines are entered one after the other under the usual spelling of their
labels (`entries_ofLines`), so of the lines with one usual spelling the last is kept
(`find?_entries_ofLines`).

**What is found.**  There are two ways to look a label up: by the usual spelling if it is known,
and by a search without regard to letter case if it is not.  Both find the first entry whose
label agrees with the one asked for (`find?_eq_map_find?`), since the labels that are kept are in
their usual spelling.

**Collisions.**  Labels that are not known are kept as they are, and two of them may differ in
letter case only.  Then only the value of one is found, and not that of the last line
(`find?_ofLines_masked`).  Where no second label agrees with the one asked for, every value is
found, and it is that of the last line (`find?_of_mem`, `find?_eq_lastValue?`).
-/

namespace GraphClient

section Spelling

variable {s t : String}

theorem agreesUpToCase_iff : agreesUpToCase s t = true ↔ lowered s = lowered t :=
  beq_iff_eq

theorem lowered_eq_nil_iff : lowered s = [] ↔ s = "" := by
  rw [lowered, List.map_eq_nil_iff, String.toList_eq_nil_iff]

/-- Whether a label is known does not depend on the case of its letters. -/
theorem KnownStatistic.ofLabel?_congr (hSame : lowered s = lowered t) :
    ofLabel? s = ofLabel? t := by
  unfold ofLabel? agreesUpToCase
  rw [hSame]

theorem KnownStatistic.lowered_label
    {known : KnownStatistic}
    (hKnown : ofLabel? s = some known) :
    lowered known.label = lowered s := by
  rw [ofLabel?] at hKnown
  have hAgrees := List.find?_some hKnown
  exact agreesUpToCase_iff.mp hAgrees

theorem KnownStatistic.ofLabel?_label (known : KnownStatistic) :
    ofLabel? known.label = some known := by
  cases known <;> decide

/-- Known labels differ in more than letter case, so a text agrees with one of them at most. -/
theorem KnownStatistic.ofLabel?_eq_some_iff {known : KnownStatistic} :
    ofLabel? s = some known ↔ agreesUpToCase known.label s := by
  constructor
  · intro hKnown
    exact agreesUpToCase_iff.mpr (lowered_label hKnown)
  · intro hAgrees
    rw [← ofLabel?_congr (agreesUpToCase_iff.mp hAgrees), ofLabel?_label]

theorem usualLabel_of_known
    {known : KnownStatistic}
    (hKnown : KnownStatistic.ofLabel? s = some known) :
    usualLabel s = known.label := by
  rw [usualLabel, hKnown]

theorem lowered_usualLabel (s : String) : lowered (usualLabel s) = lowered s := by
  cases hKnown : KnownStatistic.ofLabel? s with
  | none => rw [usualLabel, hKnown]
  | some known => rw [usualLabel_of_known hKnown, KnownStatistic.lowered_label hKnown]

theorem usualLabel_usualLabel (s : String) : usualLabel (usualLabel s) = usualLabel s := by
  have hSame := KnownStatistic.ofLabel?_congr (lowered_usualLabel s)
  cases hKnown : KnownStatistic.ofLabel? s with
  | none =>
      rw [hKnown] at hSame
      rw [usualLabel, hSame]
  | some known =>
      rw [usualLabel_of_known (hSame.trans hKnown), usualLabel_of_known hKnown]

end Spelling

namespace Statistics

-- Only the two parts of a line matter here, not how the line is split.
attribute [local irreducible] splitLine

/-- What a line reports: a label in its usual spelling and a value, unless it has no label. -/
def reported? (line : String) : Option (String × String) :=
  if (splitLine line).1.isEmpty then none
  else some (usualLabel (splitLine line).1, (splitLine line).2)

/-- The value on the last of the lines whose label agrees with a text up to letter case. -/
def lastValue? (lines : List String) (text : String) : Option String :=
  (lines.filter fun line => agreesUpToCase (splitLine line).1 text).getLast?.map fun line =>
    (splitLine line).2

/-- No two labels that were reported agree with the text up to letter case. -/
def Distinct (statistics : Statistics) (text : String) : Prop :=
  ∀ entry ∈ statistics.entries, ∀ other ∈ statistics.entries,
    agreesUpToCase entry.1 text → agreesUpToCase other.1 text → entry.1 = other.1

instance (statistics : Statistics) (text : String) : Decidable (statistics.Distinct text) := by
  unfold Distinct
  infer_instance

theorem entries_ofLines (lines : List String) :
    (ofLines lines).entries = Fields.ofList (lines.filterMap reported?) := by
  suffices hFold : ∀ statistics : Statistics, (lines.foldl addLine statistics).entries =
      (lines.filterMap reported?).foldl (fun fields pair => Fields.insert pair.1 pair.2 fields)
        statistics.entries from
    hFold empty
  induction lines with
  | nil => exact fun statistics => rfl
  | cons line rest ih =>
      intro statistics
      rw [List.foldl_cons, ih, addLine]
      by_cases hEmpty : (splitLine line).1.isEmpty = true
      · rw [List.filterMap_cons_none (by rw [reported?, if_pos hEmpty])]
        simp [hEmpty]
      · rw [List.filterMap_cons_some (by rw [reported?, if_neg hEmpty]), List.foldl_cons]
        simp [hEmpty]

theorem sorted_ofLines (lines : List String) : Fields.Sorted (ofLines lines).entries := by
  rw [entries_ofLines]
  exact Fields.sorted_ofList _

/-- A label is reported if it is the usual spelling of the label of a line. -/
theorem mem_names_ofLines {lines : List String} {label : String} :
    label ∈ Fields.names (ofLines lines).entries ↔
      ∃ line ∈ lines, (splitLine line).1 ≠ "" ∧ usualLabel (splitLine line).1 = label := by
  rw [entries_ofLines, Fields.mem_names_ofList, List.mem_map]
  constructor
  · rintro ⟨pair, hPair, rfl⟩
    obtain ⟨line, hLine, hReported⟩ := List.mem_filterMap.mp hPair
    rw [reported?] at hReported
    split at hReported
    · cases hReported
    · next hLabel =>
        obtain rfl := Option.some.inj hReported
        exact ⟨line, hLine, fun hEmpty => hLabel (String.isEmpty_iff.mpr hEmpty), rfl⟩
  · rintro ⟨line, hLine, hLabel, rfl⟩
    refine ⟨(usualLabel (splitLine line).1, (splitLine line).2),
      List.mem_filterMap.mpr ⟨line, hLine, ?_⟩, rfl⟩
    rw [reported?, if_neg (mt String.isEmpty_iff.mp hLabel)]

theorem lowered_ne_nil_of_mem_names
    {lines : List String}
    {label : String}
    (hLabel : label ∈ Fields.names (ofLines lines).entries) :
    lowered label ≠ [] := by
  obtain ⟨line, -, hSome, rfl⟩ := mem_names_ofLines.mp hLabel
  rw [lowered_usualLabel]
  exact mt lowered_eq_nil_iff.mp hSome

/-- Of the lines whose label has one usual spelling, the last is kept. -/
theorem find?_entries_ofLines (lines : List String) (label : String) :
    Fields.find? label (ofLines lines).entries =
      (lines.filter fun line =>
        (splitLine line).1 ≠ "" ∧ usualLabel (splitLine line).1 = label).getLast?.map fun line =>
          (splitLine line).2 := by
  have hReported : (lines.filterMap reported?).filter (·.1 = label) =
      (lines.filter fun line =>
        (splitLine line).1 ≠ "" ∧ usualLabel (splitLine line).1 = label).map fun line =>
          (label, (splitLine line).2) := by
    induction lines with
    | nil => rfl
    | cons line rest ih =>
        by_cases hEmpty : (splitLine line).1 = ""
        · simp [reported?, hEmpty, ih]
        · by_cases hLabel : usualLabel (splitLine line).1 = label
          · simp [reported?, hEmpty, hLabel, ih]
          · simp [reported?, hEmpty, hLabel, ih]
  rw [entries_ofLines, Fields.find?_ofList, hReported, List.getLast?_map, Option.map_map]
  rfl

theorem usualLabel_of_mem_ofLines
    {lines : List String}
    {entry : String × String}
    (hEntry : entry ∈ (ofLines lines).entries) :
    usualLabel entry.1 = entry.1 := by
  obtain ⟨line, -, -, hLabel⟩ := mem_names_ofLines.mp (List.mem_map_of_mem (f := Prod.fst) hEntry)
  rw [← hLabel, usualLabel_usualLabel]

/-- Among usual spellings, only that of a known label agrees with it. -/
theorem agreesUpToCase_iff_of_known
    {label text : String}
    {known : KnownStatistic}
    (hUsual : usualLabel label = label)
    (hKnown : KnownStatistic.ofLabel? text = some known) :
    agreesUpToCase label text = true ↔ label = known.label := by
  rw [agreesUpToCase_iff]
  constructor
  · intro hSame
    rw [← hUsual]
    exact usualLabel_of_known ((KnownStatistic.ofLabel?_congr hSame).trans hKnown)
  · rintro rfl
    exact KnownStatistic.lowered_label hKnown

/-- Known or not, what is found under a text is the first entry whose label agrees with it. -/
theorem find?_eq_map_find? (lines : List String) (text : String) :
    (ofLines lines).find? text =
      (List.find? (fun entry => agreesUpToCase entry.1 text) (ofLines lines).entries).map
        Prod.snd := by
  cases hKnown : KnownStatistic.ofLabel? text with
  | none => rw [find?, hKnown]
  | some known =>
      have hSame : ∀ entry ∈ (ofLines lines).entries,
          decide (entry.1 = known.label) = agreesUpToCase entry.1 text := fun entry hEntry =>
        (Bool.eq_iff_iff.mpr ((agreesUpToCase_iff_of_known (usualLabel_of_mem_ofLines hEntry)
          hKnown).trans (decide_eq_true_iff).symm)).symm
      rw [find?, hKnown]
      change Fields.find? known.label (ofLines lines).entries = _
      rw [Fields.find?_eq_map_find?, List.find?_congr hSame]

section Lookup

variable {lines : List String} {text : String} {entry : String × String}

theorem isSome_find?_ofLines :
    ((ofLines lines).find? text).isSome ↔
      ∃ entry ∈ (ofLines lines).entries, agreesUpToCase entry.1 text := by
  rw [find?_eq_map_find?, Option.isSome_map, List.find?_isSome]

/-- What is found is the value of an entry whose label agrees with the one asked for. -/
theorem exists_mem_of_find?
    {value : String}
    (hFound : (ofLines lines).find? text = some value) :
    ∃ label, (label, value) ∈ (ofLines lines).entries ∧ agreesUpToCase label text := by
  rw [find?_eq_map_find?] at hFound
  obtain ⟨⟨label, kept⟩, hEntry, rfl⟩ := Option.map_eq_some_iff.mp hFound
  have hAgrees := List.find?_some hEntry
  exact ⟨label, List.mem_of_find?_eq_some hEntry, hAgrees⟩

/-- Only one usual spelling of a known label is reported. -/
theorem distinct_of_known
    {known : KnownStatistic}
    (hKnown : KnownStatistic.ofLabel? text = some known) :
    (ofLines lines).Distinct text := by
  intro entry hEntry other hOther hAgrees hOtherAgrees
  rw [agreesUpToCase_iff_of_known (usualLabel_of_mem_ofLines hEntry) hKnown] at hAgrees
  rw [agreesUpToCase_iff_of_known (usualLabel_of_mem_ofLines hOther) hKnown] at hOtherAgrees
  exact hAgrees.trans hOtherAgrees.symm

/-- A reported value is found under its own label if no other label agrees with that. -/
theorem find?_of_mem
    (hEntry : entry ∈ (ofLines lines).entries)
    (hDistinct : (ofLines lines).Distinct entry.1) :
    (ofLines lines).find? entry.1 = some entry.2 := by
  have hSome : ((ofLines lines).find? entry.1).isSome :=
    isSome_find?_ofLines.mpr ⟨entry, hEntry, agreesUpToCase_iff.mpr rfl⟩
  obtain ⟨value, hFound⟩ := Option.isSome_iff_exists.mp hSome
  obtain ⟨label, hMem, hAgrees⟩ := exists_mem_of_find? hFound
  obtain rfl := hDistinct _ hMem entry hEntry hAgrees (agreesUpToCase_iff.mpr rfl)
  have hKept := (sorted_ofLines lines).find?_eq_some_iff.mpr hMem
  have hOwn := (sorted_ofLines lines).find?_eq_some_iff.mpr hEntry
  rw [hFound, ← hKept, hOwn]

/-- What is found under a text with which one label agrees comes from the last line of it. -/
theorem find?_eq_lastValue?
    (hDistinct : (ofLines lines).Distinct text)
    (hSome : ((ofLines lines).find? text).isSome) :
    (ofLines lines).find? text = lastValue? lines text := by
  obtain ⟨value, hFound⟩ := Option.isSome_iff_exists.mp hSome
  obtain ⟨label, hMem, hAgrees⟩ := exists_mem_of_find? hFound
  have hLabel := agreesUpToCase_iff.mp hAgrees
  have hReported := List.mem_map_of_mem (f := Prod.fst) hMem
  -- The lines of this label are those whose label agrees with the text.
  have hLines : ∀ line ∈ lines,
      decide ((splitLine line).1 ≠ "" ∧ usualLabel (splitLine line).1 = label) =
        agreesUpToCase (splitLine line).1 text := by
    intro line hLine
    rw [Bool.eq_iff_iff, decide_eq_true_iff, agreesUpToCase_iff]
    constructor
    · rintro ⟨-, rfl⟩
      rw [← hLabel, lowered_usualLabel]
    · intro hSame
      have hNonempty : (splitLine line).1 ≠ "" := by
        refine mt lowered_eq_nil_iff.mpr ?_
        rw [hSame, ← hLabel]
        exact lowered_ne_nil_of_mem_names hReported
      have hUsual := mem_names_ofLines.mpr ⟨line, hLine, hNonempty, rfl⟩
      obtain ⟨other, hOther, hName⟩ := List.mem_map.mp hUsual
      refine ⟨hNonempty, hName.symm.trans (hDistinct other hOther _ hMem ?_ hAgrees)⟩
      rw [agreesUpToCase_iff, hName, lowered_usualLabel, hSame]
  rw [lastValue?, ← List.filter_congr hLines, ← find?_entries_ofLines, hFound]
  exact ((sorted_ofLines lines).find?_eq_some_iff.mpr hMem).symm

end Lookup

/--
Two labels that are not known and differ in letter case only: the value of the second is not
found under its own label, though that is the label of the last line.
-/
theorem find?_ofLines_masked :
    (ofLines ["Foo: 1", "foo: 2"]).entries = [("Foo", "1"), ("foo", "2")] ∧
    (ofLines ["Foo: 1", "foo: 2"]).find? "foo" = some "1" ∧
    lastValue? ["Foo: 1", "foo: 2"] "foo" = some "2" := by
  decide +kernel

/-- Not every value that was reported can be asked for. -/
theorem not_forall_find?_ofLines :
    ¬ ∀ lines : List String,
      (∀ entry ∈ (ofLines lines).entries, (ofLines lines).find? entry.1 = some entry.2) ∧
      (∀ text,
        (((ofLines lines).find? text).isSome ↔
          ∃ entry ∈ (ofLines lines).entries, agreesUpToCase entry.1 text) ∧
        (((ofLines lines).find? text).isSome →
          (ofLines lines).find? text = lastValue? lines text)) := by
  intro hAll
  obtain ⟨hEntries, hFirst, -⟩ := find?_ofLines_masked
  have hSecond := (hAll ["Foo: 1", "foo: 2"]).1 ("foo", "2") (by rw [hEntries]; decide)
  rw [hFirst] at hSecond
  exact absurd hSecond (by decide)

/--
**Statistics can be asked for.**  Something is found under a text exactly if a reported label
agrees with it up to letter case.  If only one does, which is always so when the text is a known
label, what is found is the value of the last line whose label agrees with the text, and every
value that was reported under such a label is found under it.
-/
theorem find?_ofLines (lines : List String) :
    (∀ text, ((ofLines lines).find? text).isSome ↔
      ∃ entry ∈ (ofLines lines).entries, agreesUpToCase entry.1 text) ∧
    (∀ entry ∈ (ofLines lines).entries, (ofLines lines).Distinct entry.1 →
      (ofLines lines).find? entry.1 = some entry.2) ∧
    (∀ text, (ofLines lines).Distinct text → ((ofLines lines).find? text).isSome →
      (ofLines lines).find? text = lastValue? lines text) ∧
    (∀ text known, KnownStatistic.ofLabel? text = some known →
      (ofLines lines).Distinct text) :=
  ⟨fun _ => isSome_find?_ofLines,
    fun _ hEntry hDistinct => find?_of_mem hEntry hDistinct,
    fun _ hDistinct hSome => find?_eq_lastValue? hDistinct hSome,
    fun _ _ hKnown => distinct_of_known hKnown⟩

/-- A known label in two spellings, an unknown one twice, and a line without a label. -/
def Sample.lines : List String :=
  ["nodes CREATED : 4", "Custom stat: a:b", "Nodes created: 5", " : lost", "Custom stat: c"]

theorem find?_ofLines_sample :
    (ofLines Sample.lines).find? "Custom stat" = some "c" ∧
    (ofLines Sample.lines).find? "custom STAT" = some "c" ∧
    (ofLines Sample.lines).find? "NODES created" = some "5" := by
  obtain ⟨hFound, hEntry, hLast, hKnown⟩ := find?_ofLines Sample.lines
  have hEntries : (ofLines Sample.lines).entries =
      [("Custom stat", "c"), ("Nodes created", "5")] := by decide +kernel
  have hDistinct : ∀ text ∈ ["Custom stat", "custom STAT"],
      (ofLines Sample.lines).Distinct text := by
    simp only [Distinct, hEntries]
    decide
  have hSome : ∀ text ∈ ["custom STAT", "NODES created"],
      ((ofLines Sample.lines).find? text).isSome := by
    simp only [hFound, hEntries]
    decide
  refine ⟨hEntry ("Custom stat", "c") ?_ (hDistinct _ (by simp)), ?_, ?_⟩
  · rw [hEntries]
    exact List.mem_cons_self
  · rw [hLast "custom STAT" (hDistinct _ (by simp)) (hSome _ (by simp))]
    decide +kernel
  · rw [hLast "NODES created" (hKnown _ .nodesCreated (by decide)) (hSome _ (by simp))]
    decide +kernel

end Statistics
end GraphClient
