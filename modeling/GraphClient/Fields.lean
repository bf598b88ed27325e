/-!
# Fields

`Fields α` is a finite map from names to values, held as a list of pairs in
ascending order of the names.  The order is that of the code points, which is
also the order of the UTF-8 bytes.

`insert` keeps the order and replaces the value of a name that is present, so a
name has at most one value, and equal maps are equal lists.
-/

namespace GraphClient

/-- A map from names to values, as pairs in ascending order of the names. -/
abbrev Fields (α : Type) := List (String × α)

namespace Fields

variable {α β : Type}

/-- The map in which `name` has the value `value` and every other name is as before. -/
def insert
    (name : String)
    (value : α) :
    Fields α → Fields α
  | [] => [(name, value)]
  | (other, kept) :: rest =>
      if name < other then (name, value) :: (other, kept) :: rest
      else if name = other then (name, value) :: rest
      else (other, kept) :: insert name value rest

/-- The map that results from inserting pairs one after the other. -/
def ofList (pairs : List (String × α)) : Fields α :=
  pairs.foldl (fun fields pair => insert pair.1 pair.2 fields) []

def find? (name : String) : Fields α → Option α
  | [] => none
  | (other, value) :: rest => if name = other then some value else find? name rest

def names (fields : Fields α) : List String := fields.map Prod.fst

def Sorted (fields : Fields α) : Prop := (names fields).Pairwise (· < ·)

instance (fields : Fields α) : Decidable (Sorted fields) :=
  inferInstanceAs (Decidable ((names fields).Pairwise (· < ·)))

@[simp] theorem find?_nil (name : String) : find? name ([] : Fields α) = none := rfl

/-- What `insert` does to every look-up. -/
theorem find?_insert
    (name other : String)
    (value : α)
    (fields : Fields α) :
    find? other (insert name value fields)
      = if other = name then some value else find? other fields := by
  induction fields with
  | nil => simp [insert, find?]
  | cons pair rest ih =>
      obtain ⟨key, kept⟩ := pair
      simp only [insert]
      split
      · simp [find?]
      · split
        · rename_i hEq
          subst hEq
          by_cases h : other = name <;> simp [find?, h]
        · rename_i hLt hNe
          by_cases h : other = key
          · subst h
            simp [find?, Ne.symm hNe]
          · simp [find?, h, ih]

/-- The names after an insertion are the new one and the old ones. -/
theorem mem_names_insert
    (name other : String)
    (value : α)
    (fields : Fields α) :
    other ∈ names (insert name value fields) ↔ other = name ∨ other ∈ names fields := by
  induction fields with
  | nil => simp [insert, names]
  | cons pair rest ih =>
      obtain ⟨key, kept⟩ := pair
      simp only [insert]
      split
      · simp [names]
      · split
        · rename_i hEq
          subst hEq
          simp [names]
        · simp only [names, List.map_cons, List.mem_cons] at ih ⊢
          rw [ih]
          exact ⟨fun h => by rcases h with h | h | h <;> simp [h],
            fun h => by rcases h with h | h | h <;> simp [h]⟩

/-- Insertion keeps the names ascending. -/
theorem sorted_insert
    (name : String)
    (value : α)
    {fields : Fields α}
    (h : Sorted fields) :
    Sorted (insert name value fields) := by
  induction fields with
  | nil => simp [insert, Sorted, names]
  | cons pair rest ih =>
      obtain ⟨key, kept⟩ := pair
      simp only [Sorted, names, List.map_cons, List.pairwise_cons] at h
      obtain ⟨hHead, hRest⟩ := h
      simp only [insert]
      split
      · rename_i hLt
        simp only [Sorted, names, List.map_cons, List.pairwise_cons, List.mem_cons]
        refine ⟨?_, hHead, hRest⟩
        rintro other (hOther | hOther)
        · exact hOther ▸ hLt
        · exact String.lt_trans hLt (hHead other hOther)
      · split
        · rename_i hEq
          subst hEq
          simp only [Sorted, names, List.map_cons, List.pairwise_cons]
          exact ⟨hHead, hRest⟩
        · rename_i hLt hNe
          have hBelow : key < name := by grind
          have hTail := ih hRest
          simp only [Sorted, names, List.map_cons, List.pairwise_cons] at hTail ⊢
          refine ⟨fun other hOther => ?_, hTail⟩
          have hMem := (mem_names_insert name other value rest).mp hOther
          rcases hMem with hMem | hMem
          · exact hMem ▸ hBelow
          · exact hHead other hMem

end Fields

end GraphClient
