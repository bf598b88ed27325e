import Mathlib.Data.List.Forall2

/-!
# Reading item by item

The items of a list are read one after the other, and any of them may fail.

The list is read if every item is (`mapM_eq_ok_iff`).  Otherwise its failure is that of the
first item that cannot be read, whatever stands behind it (`mapM_eq_error_iff`).

Where items stand for values, a list of items stands for a list of values if every item stands
for one (`exists_forall₂_iff`).  If an item stands for one value only, these values are no others
than those of the items (`mem_iff_of_forall₂`).
-/

namespace GraphClient

variable {ε α β : Type}

/-- A sequence that succeeds is made of two that do. -/
theorem exists_of_bind_eq_ok
    {outcome : Except ε α}
    {next : α → Except ε β}
    {result : β}
    (hOk : (outcome >>= next) = .ok result) :
    ∃ value, outcome = .ok value ∧ next value = .ok result := by
  cases outcome with
  | error reason => cases hOk
  | ok value => exact ⟨value, rfl, hOk⟩

/-- A list that is sent item by item is read item by item. -/
theorem mapM_map_ok
    {send : α → β}
    {read : β → Except ε α}
    (hRead : ∀ item, read (send item) = .ok item)
    (items : List α) :
    (items.map send).mapM read = .ok items := by
  induction items with
  | nil => rfl
  | cons item rest ih =>
      rw [List.map_cons, List.mapM_cons, hRead, ih]
      rfl

section Items

variable {read : α → Except ε β} {items : List α}

theorem mapM_eq_ok_iff {values : List β} :
    items.mapM read = .ok values ↔
      List.Forall₂ (fun item value => read item = .ok value) items values := by
  induction items generalizing values with
  | nil =>
      constructor
      · rintro ⟨⟩
        exact .nil
      · rintro ⟨⟩
        rfl
  | cons item rest ih =>
      rw [List.mapM_cons]
      constructor
      · intro hOk
        obtain ⟨value, hItem, hOk⟩ := exists_of_bind_eq_ok hOk
        obtain ⟨later, hRest, hOk⟩ := exists_of_bind_eq_ok hOk
        cases hOk
        exact .cons hItem (ih.mp hRest)
      · rintro (_ | ⟨hItem, hRest⟩)
        rw [hItem, ih.mpr hRest]
        rfl

theorem mapM_eq_error_iff {reason : ε} :
    items.mapM read = .error reason ↔
      ∃ before item rest values, items = before ++ item :: rest ∧
        List.Forall₂ (fun item value => read item = .ok value) before values ∧
        read item = .error reason := by
  constructor
  · intro hError
    induction items with
    | nil => cases hError
    | cons first rest ih =>
        rw [List.mapM_cons] at hError
        cases hFirst : read first with
        | error found =>
            rw [hFirst] at hError
            cases hError
            exact ⟨[], first, rest, [], rfl, .nil, hFirst⟩
        | ok value =>
            rw [hFirst] at hError
            cases hRest : rest.mapM read with
            | ok values =>
                rw [hRest] at hError
                cases hError
            | error found =>
                rw [hRest] at hError
                cases hError
                obtain ⟨before, item, later, values, rfl, hBefore, hItem⟩ := ih hRest
                exact ⟨first :: before, item, later, value :: values, rfl,
                  .cons hFirst hBefore, hItem⟩
  · rintro ⟨before, item, rest, values, rfl, hBefore, hItem⟩
    rw [List.mapM_append, mapM_eq_ok_iff.mpr hBefore, List.mapM_cons, hItem]
    rfl

end Items

section Relations

variable {R : α → β → Prop} {items : List α}

theorem exists_forall₂_iff :
    (∃ values, List.Forall₂ R items values) ↔ ∀ item ∈ items, ∃ value, R item value := by
  induction items with
  | nil => simp
  | cons item rest ih =>
      rw [List.forall_mem_cons, ← ih]
      constructor
      · rintro ⟨_, _ | ⟨hItem, hRest⟩⟩
        exact ⟨⟨_, hItem⟩, _, hRest⟩
      · rintro ⟨⟨value, hItem⟩, values, hRest⟩
        exact ⟨value :: values, .cons hItem hRest⟩

/-- Where an item stands for one value only, the values are those of the items. -/
theorem mem_iff_of_forall₂
    (hUnique : Relator.RightUnique R)
    {values : List β}
    (hValues : List.Forall₂ R items values)
    {value : β} :
    value ∈ values ↔ ∃ item ∈ items, R item value := by
  induction hValues with
  | nil => simp
  | @cons item found _ _ hItem _ ih =>
      have hFound : value = found ↔ R item value :=
        ⟨fun hValue => hValue ▸ hItem, fun hValue => hUnique hValue hItem⟩
      rw [List.mem_cons, ih, hFound, List.exists_mem_cons_iff]

/-- Items that stand for different values stand for a list without repetition. -/
theorem nodup_of_forall₂
    (hUnique : Relator.RightUnique R)
    (hDistinct : items.Pairwise fun item other => ∀ value, R item value → ¬ R other value)
    {values : List β}
    (hValues : List.Forall₂ R items values) :
    values.Nodup := by
  induction hValues with
  | nil => exact List.nodup_nil
  | cons hItem hRest ih =>
      obtain ⟨hFirst, hLater⟩ := List.pairwise_cons.mp hDistinct
      refine List.nodup_cons.mpr ⟨fun hMem => ?_, ih hLater⟩
      obtain ⟨other, hOther, hSame⟩ := (mem_iff_of_forall₂ hUnique hRest).mp hMem
      exact hFirst other hOther _ hItem hSame

end Relations
end GraphClient
