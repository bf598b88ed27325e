import GraphClient.Proofs.Query.Reader
import GraphClient.Query.Text

/-!
# Arguments of calls

The arguments of a call can be told from its text, and nothing in them can be taken for a
further argument, for the end of the arguments or for the columns to yield.

**Scanning.**  `scanArguments` goes through the text behind the opening parenthesis one
character at a time; its place says whether it is within quotes.  Within quotes it follows the
grammar of quoted texts (`scanArguments_of_spells`).  By induction on the arguments it finds
all of them and stops at the parenthesis that was written behind the last
(`scanArguments_arguments`).

**Results.**  `callText_tells`: what is scanned are the arguments, and two calls of a procedure
with one text have the same arguments and the same clause of columns.
-/

namespace GraphClient

/-- Where a scanner stands in the arguments of a call. -/
inductive CallPlace where
  /-- Behind the opening parenthesis. -/
  | opened
  /-- Behind a comma, where an argument is due. -/
  | due
  /-- Within quotes. -/
  | quoted
  /-- Behind a backslash within quotes. -/
  | escaped
  /-- Behind a closing quote. -/
  | closed

/-- Puts a character in front of the argument that was read first. -/
def extendFirst (c : Char) (read : List (List Char) × List Char) : List (List Char) × List Char :=
  (read.1.modifyHead (c :: ·), read.2)

/-- Scans the arguments of a call up to the parenthesis that closes them. -/
def scanArguments : CallPlace → Reader (List (List Char))
  | _, [] => none
  | .opened, c :: text =>
      if c = ')' then some ([], text)
      else if c = '"' then scanArguments .quoted text
      else none
  | .due, c :: text => if c = '"' then scanArguments .quoted text else none
  | .quoted, c :: text =>
      if c = '"' then (scanArguments .closed text).map fun read => ([] :: read.1, read.2)
      else if c = '\\' then scanArguments .escaped text
      else (scanArguments .quoted text).map (extendFirst c)
  | .escaped, c :: text => (scanArguments .quoted text).map (extendFirst c)
  | .closed, c :: text =>
      if c = ')' then some ([], text)
      else if c = ',' then scanArguments .due text
      else none

/-- Reads a call of a procedure up to the end of its arguments. -/
def readCall (procedure : String) : Reader (List String) := fun text =>
  (text.dropPrefix? ("CALL ".toList ++ procedure.toList ++ ['('])).bind fun rest =>
    (scanArguments .opened rest).map fun read => (read.1.map String.ofList, read.2)

section Scanning

variable {inner content rest : List Char}

theorem scanArguments_opened_quote (text : List Char) :
    scanArguments .opened ('"' :: text) = scanArguments .quoted text := rfl

theorem scanArguments_closed_comma (text : List Char) :
    scanArguments .closed (',' :: '"' :: text) = scanArguments .quoted text := rfl

theorem scanArguments_quoted_backslash (c : Char) (text : List Char) :
    scanArguments .quoted ('\\' :: c :: text) =
      (scanArguments .quoted text).map (extendFirst c) := rfl

/-- Within quotes, what is spelled is one argument, and the quote behind it closes it. -/
theorem scanArguments_of_spells (hSpells : Spells inner content) :
    scanArguments .quoted (inner ++ '"' :: rest) =
      (scanArguments .closed rest).map fun read => (content :: read.1, read.2) := by
  induction hSpells with
  | done => rw [List.nil_append, scanArguments, if_pos rfl]
  | @plain c inner content hQuote hBackslash _ ih =>
      rw [List.cons_append, scanArguments, if_neg hQuote, if_neg hBackslash, ih, Option.map_map]
      rfl
  | @escaped c inner content _ ih =>
      rw [List.cons_append, List.cons_append, scanArguments_quoted_backslash, ih, Option.map_map]
      rfl

theorem joinedByCommas_cons (part : List Char) (parts : List (List Char)) :
    joinedByCommas (part :: parts) = part ++ parts.flatMap (',' :: ·) := by
  induction parts generalizing part with
  | nil => rw [joinedByCommas, List.intercalate_singleton, List.flatMap_nil, List.append_nil]
  | cons next parts ih =>
      rw [joinedByCommas, List.intercalate_cons_cons, List.append_assoc, ← joinedByCommas, ih,
        List.flatMap_cons]
      rfl

/-- Behind a closing quote, every comma has an argument behind it, up to the parenthesis. -/
theorem scanArguments_closed (arguments : List String) :
    scanArguments .closed ((arguments.map quoteLiteral).flatMap (',' :: ·) ++ ')' :: rest) =
      some (arguments.map String.toList, rest) := by
  induction arguments with
  | nil => rfl
  | cons argument arguments ih =>
      have hWritten := spells_escapeLiteral argument.toList
      rw [List.map_cons, List.flatMap_cons, quoteLiteral]
      simp only [List.cons_append, List.append_assoc, List.nil_append]
      rw [scanArguments_closed_comma, scanArguments_of_spells hWritten, ih, Option.map_some,
        List.map_cons]

theorem scanArguments_arguments (arguments : List String) :
    scanArguments .opened (joinedByCommas (arguments.map quoteLiteral) ++ ')' :: rest) =
      some (arguments.map String.toList, rest) := by
  cases arguments with
  | nil => rfl
  | cons argument arguments =>
      have hWritten := spells_escapeLiteral argument.toList
      rw [List.map_cons, joinedByCommas_cons, quoteLiteral]
      simp only [List.cons_append, List.append_assoc, List.nil_append]
      rw [scanArguments_opened_quote, scanArguments_of_spells hWritten, scanArguments_closed,
        Option.map_some, List.map_cons]

end Scanning

theorem toList_callText
    (procedure : String)
    (arguments columns : List String) :
    (callText procedure arguments columns).toList =
      "CALL ".toList ++ procedure.toList ++ '(' :: joinedByCommas (arguments.map quoteLiteral) ++
        ')' :: yieldClause columns :=
  String.toList_ofList

/-- A call is read back up to the clause of the columns that it is to yield. -/
theorem readCall_callText
    (procedure : String)
    (arguments columns : List String) :
    readCall procedure (callText procedure arguments columns).toList =
      some (arguments, yieldClause columns) := by
  have hText : (callText procedure arguments columns).toList =
      ("CALL ".toList ++ procedure.toList ++ ['(']) ++
        (joinedByCommas (arguments.map quoteLiteral) ++ ')' :: yieldClause columns) := by
    rw [toList_callText, ← List.append_assoc, List.append_assoc _ ['('], List.singleton_append]
  have hBack : (arguments.map String.toList).map String.ofList = arguments := by simp
  rw [readCall, hText, dropPrefix?_append, Option.bind_some, scanArguments_arguments,
    Option.map_some, hBack]

/-- The clause tells whether there are columns, and their names with commas between them. -/
theorem yieldClause_eq_iff (columns others : List String) :
    yieldClause columns = yieldClause others ↔
      (columns = [] ∧ others = []) ∨
      (columns ≠ [] ∧ others ≠ [] ∧
        joinedByCommas (columns.map String.toList) =
          joinedByCommas (others.map String.toList)) := by
  by_cases hColumns : columns = [] <;> by_cases hOthers : others = [] <;>
    simp [yieldClause, hColumns, hOthers]

/--
**Arguments of a call stay apart.**  Whatever is in the arguments, a scanner of quoted texts
finds in the text of the call just these arguments, and behind the parenthesis that closes
them the clause of columns.  So two calls of a procedure have one text exactly if they have
the same arguments, and either both yield no columns or both name columns with one text.
-/
theorem callText_tells
    (procedure : String)
    (arguments others columns otherColumns : List String) :
    readCall procedure (callText procedure arguments columns).toList =
      some (arguments, yieldClause columns) ∧
    (callText procedure arguments columns = callText procedure others otherColumns ↔
      arguments = others ∧
      ((columns = [] ∧ otherColumns = []) ∨
        (columns ≠ [] ∧ otherColumns ≠ [] ∧
          joinedByCommas (columns.map String.toList) =
            joinedByCommas (otherColumns.map String.toList)))) := by
  refine ⟨readCall_callText procedure arguments columns, ?_⟩
  rw [← yieldClause_eq_iff]
  constructor
  · intro hSame
    have hRead := congrArg (fun text => readCall procedure text.toList) hSame
    simp only [readCall_callText] at hRead
    exact Prod.mk.inj (Option.some.inj hRead)
  · rintro ⟨rfl, hClause⟩
    refine String.toList_injective ?_
    rw [toList_callText, toList_callText, hClause]

/-- An argument that looks like the end of the call with columns to yield is one argument. -/
example :
    readCall "db.idx" "CALL db.idx(\"a\\\") YIELD x, \\\"\",\"\\\\\") YIELD node".toList =
      some (["a\") YIELD x, \"", "\\"], " YIELD node".toList) := by
  decide +kernel

end GraphClient
