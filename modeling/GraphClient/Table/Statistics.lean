import GraphClient.Fields
import GraphClient.Number.Decimal
import GraphClient.Reply.Shape
import GraphClient.Text.LetterCase

/-!
# Statistics of a query

The server reports statistics as lines of a label, a colon and a value.

**Reading a line.**  The label stands before the first colon, the value behind
it, both without blanks at the ends.  A line without a label says nothing.  A
label that is known in another letter case gets its usual spelling.

**Results.**  `Statistics` maps every reported label to its value, of two lines
with one label the later.  A label that is absent differs from a zero; only
`counter`, `isCached` and `executionTime` read an absent or unreadable value as
zero.
-/

namespace GraphClient

-- Powers are those of the core library, whatever else is imported.
attribute [local instance (2000)] instPowNat

/-- A statistic that the server is known to report. -/
inductive KnownStatistic where
  | labelsAdded
  | labelsRemoved
  | indicesCreated
  | indicesDeleted
  | nodesCreated
  | nodesDeleted
  | relationshipsCreated
  | relationshipsDeleted
  | propertiesSet
  | propertiesRemoved
  | cachedExecution
  | executionTime
deriving DecidableEq, Repr

namespace KnownStatistic

def all : List KnownStatistic :=
  [.labelsAdded, .labelsRemoved, .indicesCreated, .indicesDeleted, .nodesCreated, .nodesDeleted,
   .relationshipsCreated, .relationshipsDeleted, .propertiesSet, .propertiesRemoved,
   .cachedExecution, .executionTime]

/-- The usual spelling of the label. -/
def label : KnownStatistic → String
  | .labelsAdded => "Labels added"
  | .labelsRemoved => "Labels removed"
  | .indicesCreated => "Indices created"
  | .indicesDeleted => "Indices deleted"
  | .nodesCreated => "Nodes created"
  | .nodesDeleted => "Nodes deleted"
  | .relationshipsCreated => "Relationships created"
  | .relationshipsDeleted => "Relationships deleted"
  | .propertiesSet => "Properties set"
  | .propertiesRemoved => "Properties removed"
  | .cachedExecution => "Cached execution"
  | .executionTime => "Query internal execution time"

/-- The known statistic with a label, whatever the case of its letters. -/
def ofLabel? (label : String) : Option KnownStatistic :=
  all.find? fun known => agreesUpToCase known.label label

end KnownStatistic

/-- A label in its usual spelling if it is known, and as it is if it is not. -/
def usualLabel (label : String) : String :=
  match KnownStatistic.ofLabel? label with
  | some known => known.label
  | none => label

/-- Label and value of a line. -/
def splitLine (line : String) : String × String :=
  let chars := line.toList
  (String.ofList (trimChars (chars.takeWhile (· ≠ ':'))),
   String.ofList (trimChars ((chars.dropWhile (· ≠ ':')).drop 1)))

/-- A natural number in decimal digits, which one plus sign may precede. -/
def readCount? (text : String) : Option Nat :=
  let digits :=
    match text.toList with
    | '+' :: digits => digits
    | digits => digits
  if digits.isEmpty || !digits.all Char.isDigit then none else some (digitsValue digits)

/-- The greatest count that a counter holds. -/
def greatestCount : Nat := 2 ^ (64 : Nat) - 1

/-- The values that a query reported under their labels. -/
structure Statistics where
  entries : Fields String
deriving DecidableEq

namespace Statistics

def empty : Statistics := ⟨[]⟩

def addLine (statistics : Statistics) (line : String) : Statistics :=
  let (label, value) := splitLine line
  if label.isEmpty then statistics
  else ⟨Fields.insert (usualLabel label) value statistics.entries⟩

def ofLines (lines : List String) : Statistics := lines.foldl addLine empty

def ofReply (reply : Reply) : Except Malformed Statistics := do
  let items ← reply.toItems "statistics"
  let lines ← items.mapM (Reply.toText "statistics line")
  pure (ofLines lines)

def toLines (statistics : Statistics) : List String :=
  statistics.entries.map fun entry => entry.1 ++ ": " ++ entry.2

def get? (statistics : Statistics) (known : KnownStatistic) : Option String :=
  Fields.find? known.label statistics.entries

/-- The value of a label, whatever the case of its letters. -/
def find? (statistics : Statistics) (label : String) : Option String :=
  match KnownStatistic.ofLabel? label with
  | some known => statistics.get? known
  | none =>
      (List.find? (fun entry => agreesUpToCase entry.1 label) statistics.entries).map Prod.snd

/-- The value of a known statistic as a count, zero if it is none. -/
def counter (statistics : Statistics) (known : KnownStatistic) : Nat :=
  match (statistics.get? known).bind readCount? with
  | some count => if count ≤ greatestCount then count else 0
  | none => 0

/-- Whether the server used an execution plan that it had kept. -/
def isCached (statistics : Statistics) : Bool :=
  statistics.counter .cachedExecution == 1

/-- The time that the server spent, in milliseconds. -/
def executionTime (statistics : Statistics) : Double :=
  let time := (statistics.get? .executionTime).bind fun value =>
    Binary.ofText? .double (firstWord value)
  time.getD (.zero .double false)

end Statistics

end GraphClient
