import GraphClient.Table.Basic

/-!
# Answers

What a step of work yields when it does not fail.
-/

namespace GraphClient

/-- What a step of work yields. -/
inductive Answer where
  | done
  /-- A name or a status. -/
  | text (text : String)
  /-- The lines of a plan, or names of graphs. -/
  | lines (lines : List String)
  | table (table : Table)
  | handle (number : Nat)
  | noHandle

end GraphClient
