import GraphClient.Fields
import GraphClient.Value.Entity
import Mathlib.Data.List.Forall2
import Mathlib.Data.List.Induction

/-!
# Fields built from pairs

Pairs with different names make the same map in every order: `Fields.ofList` sorts
them.  Of pairs with one name the last counts (`Fields.find?_ofList`).  Two maps agree in
every place if they agree under every name (`Fields.Sorted.agree_iff`).  Labels that are
all different are kept by a node in the order in which they are added.
-/

namespace GraphClient

namespace Fields

variable {α β : Type}

theorem insert_perm
    {name : String}
    {value : α}
    {fields : Fields α}
    (hNew : name ∉ names fields) :
    (insert name value fields).Perm ((name, value) :: fields) := by
  induction fields with
  | nil => exact List.Perm.refl _
  | cons pair rest ih =>
      obtain ⟨other, kept⟩ := pair
      simp only [names, List.map_cons, List.mem_cons, not_or] at hNew
      obtain ⟨hOther, hRest⟩ := hNew
      rw [insert, if_neg hOther]
      split
      · exact List.Perm.refl _
      · exact ((ih hRest).cons _).trans (List.Perm.swap _ _ _)

theorem perm_names {fields others : Fields α} (hPerm : fields.Perm others) :
    (names fields).Perm (names others) :=
  hPerm.map Prod.fst

/-- Inserting pairs with names of their own adds just these pairs. -/
theorem foldl_insert_perm
    (pairs fields : Fields α)
    (hNew : (names (pairs ++ fields)).Nodup) :
    (pairs.foldl (fun fields pair => insert pair.1 pair.2 fields) fields).Perm
      (pairs ++ fields) := by
  induction pairs generalizing fields with
  | nil => exact List.Perm.refl _
  | cons pair rest ih =>
      obtain ⟨hPair, -⟩ := List.nodup_cons.mp hNew
      have hFresh : pair.1 ∉ names fields := by
        intro hMem
        obtain ⟨kept, hKept, hName⟩ := List.mem_map.mp hMem
        exact hPair (List.mem_map.mpr ⟨kept, List.mem_append_right rest hKept, hName⟩)
      have hInsert : (rest ++ insert pair.1 pair.2 fields).Perm (pair :: rest ++ fields) :=
        ((insert_perm hFresh).append_left rest).trans List.perm_middle
      rw [List.foldl_cons]
      exact (ih _ ((perm_names hInsert).nodup_iff.mpr hNew)).trans hInsert

theorem sorted_ofList (pairs : List (String × α)) : Sorted (ofList pairs) := by
  suffices hFold : ∀ fields : Fields α, Sorted fields →
      Sorted (pairs.foldl (fun fields pair => insert pair.1 pair.2 fields) fields) from
    hFold [] List.Pairwise.nil
  induction pairs with
  | nil => exact fun fields hFields => hFields
  | cons pair rest ih => exact fun fields hFields => ih _ (sorted_insert pair.1 pair.2 hFields)

theorem Sorted.nodup {fields : Fields α} (hSorted : Sorted fields) : (names fields).Nodup := by
  refine List.Pairwise.imp ?_ hSorted
  rintro name _ hLess rfl
  exact String.lt_irrefl _ hLess

/-- Two ascending maps with the same pairs are the same list. -/
theorem Sorted.eq_of_perm
    {fields others : Fields α}
    (hFields : Sorted fields)
    (hOthers : Sorted others)
    (hPerm : fields.Perm others) :
    fields = others := by
  refine hPerm.eq_of_pairwise ?_ (List.pairwise_map.mp hFields) (List.pairwise_map.mp hOthers)
  intro pair other _ _ hLess hGreater
  exact absurd (String.lt_trans hLess hGreater) (String.lt_irrefl _)

/-- Pairs with different names are the pairs of the map that they make. -/
theorem ofList_perm {pairs : List (String × α)} (hNodup : (names pairs).Nodup) :
    (ofList pairs).Perm pairs := by
  have hInserted := foldl_insert_perm pairs [] (by rwa [List.append_nil])
  rwa [List.append_nil] at hInserted

/-- The pairs of a map make the map, in whatever order they come. -/
theorem ofList_of_perm
    {pairs : List (String × α)}
    {fields : Fields α}
    (hSorted : Sorted fields)
    (hPerm : pairs.Perm fields) :
    ofList pairs = fields :=
  (sorted_ofList pairs).eq_of_perm hSorted
    ((ofList_perm ((perm_names hPerm).nodup_iff.mpr hSorted.nodup)).trans hPerm)

theorem mem_insert
    {name : String}
    {value : α}
    {pair : String × α}
    {fields : Fields α}
    (hMem : pair ∈ insert name value fields) :
    pair = (name, value) ∨ pair ∈ fields := by
  induction fields with
  | nil => exact Or.inl (List.mem_singleton.mp hMem)
  | cons first rest ih =>
      obtain ⟨other, kept⟩ := first
      rw [insert] at hMem
      split at hMem
      · exact List.mem_cons.mp hMem
      · split at hMem
        · exact (List.mem_cons.mp hMem).imp_right (List.mem_cons_of_mem _)
        · rcases List.mem_cons.mp hMem with rfl | hRest
          · exact Or.inr List.mem_cons_self
          · exact (ih hRest).imp_right (List.mem_cons_of_mem _)

/-- A map made of pairs has no pairs but these. -/
theorem mem_ofList
    {pair : String × α}
    {pairs : List (String × α)}
    (hMem : pair ∈ ofList pairs) :
    pair ∈ pairs := by
  suffices hFold : ∀ fields : Fields α,
      pair ∈ pairs.foldl (fun fields pair => insert pair.1 pair.2 fields) fields →
      pair ∈ pairs ∨ pair ∈ fields from
    (hFold [] hMem).resolve_right List.not_mem_nil
  clear hMem
  induction pairs with
  | nil => exact fun fields hFields => Or.inr hFields
  | cons first rest ih =>
      intro fields hFields
      rcases ih _ hFields with hRest | hInserted
      · exact Or.inl (List.mem_cons_of_mem _ hRest)
      · refine (mem_insert hInserted).imp_left ?_
        rintro rfl
        exact List.mem_cons_self

/-- Of the pairs with a name the last counts; without any the name keeps its value. -/
theorem find?_foldl_insert
    (name : String)
    (pairs : List (String × α))
    (fields : Fields α) :
    find? name (pairs.foldl (fun fields pair => insert pair.1 pair.2 fields) fields) =
      ((pairs.filter (·.1 = name)).getLast?.map Prod.snd).or (find? name fields) := by
  induction pairs generalizing fields with
  | nil => rfl
  | cons pair rest ih =>
      rw [List.foldl_cons, ih, find?_insert]
      by_cases hName : pair.1 = name
      · rw [if_pos hName.symm, List.filter_cons_of_pos (by simpa using hName), List.getLast?_cons]
        cases (rest.filter (·.1 = name)).getLast? <;> rfl
      · rw [if_neg (Ne.symm hName), List.filter_cons_of_neg (by simpa using hName)]

theorem find?_ofList (name : String) (pairs : List (String × α)) :
    find? name (ofList pairs) = (pairs.filter (·.1 = name)).getLast?.map Prod.snd := by
  rw [ofList, find?_foldl_insert, find?_nil, Option.or_none]

theorem mem_names_ofList {name : String} {pairs : List (String × α)} :
    name ∈ names (ofList pairs) ↔ name ∈ pairs.map Prod.fst := by
  suffices hFold : ∀ fields : Fields α,
      name ∈ names (pairs.foldl (fun fields pair => insert pair.1 pair.2 fields) fields) ↔
        name ∈ pairs.map Prod.fst ∨ name ∈ names fields by
    rw [ofList, hFold, names, List.map_nil]
    simp
  induction pairs with
  | nil => simp
  | cons pair rest ih =>
      intro fields
      rw [List.foldl_cons, ih, mem_names_insert, List.map_cons, List.mem_cons]
      exact or_left_comm.trans or_assoc.symm

/-- A name has a value exactly if it is among the names. -/
theorem isSome_find? {name : String} {fields : Fields α} :
    (find? name fields).isSome ↔ name ∈ names fields := by
  induction fields with
  | nil => simp [names]
  | cons pair rest ih =>
      rw [find?]
      by_cases hName : name = pair.1 <;> simp_all [names]

theorem find?_eq_none_iff {name : String} {fields : Fields α} :
    find? name fields = none ↔ name ∉ names fields := by
  rw [← isSome_find?, Option.not_isSome_iff_eq_none]

theorem find?_eq_map_find? (name : String) (fields : Fields α) :
    find? name fields = (List.find? (·.1 = name) fields).map Prod.snd := by
  induction fields with
  | nil => rfl
  | cons pair rest ih =>
      rw [find?, List.find?_cons]
      by_cases hName : pair.1 = name
      · simp [hName]
      · simp [hName, Ne.symm hName, ih]

theorem Sorted.find?_eq_some_iff
    {name : String}
    {value : α}
    {fields : Fields α}
    (hSorted : Sorted fields) :
    find? name fields = some value ↔ (name, value) ∈ fields := by
  have hNodup := hSorted.nodup
  clear hSorted
  induction fields with
  | nil => simp
  | cons pair rest ih =>
      obtain ⟨other, kept⟩ := pair
      obtain ⟨hOther, hRest⟩ := List.nodup_cons.mp hNodup
      rw [find?, List.mem_cons, Prod.mk.injEq]
      by_cases hName : name = other
      · subst hName
        have hNone : (name, value) ∉ rest :=
          fun hMem => hOther (List.mem_map.mpr ⟨(name, value), hMem, rfl⟩)
        simp [hNone, eq_comm]
      · simp [hName, ih hRest]

/-- Two ascending maps with the same names have them in the same places. -/
theorem Sorted.names_eq
    {fields : Fields α}
    {others : Fields β}
    (hFields : Sorted fields)
    (hOthers : Sorted others)
    (hNames : ∀ name, name ∈ names fields ↔ name ∈ names others) :
    names fields = names others := by
  have hPerm := (List.perm_ext_iff_of_nodup hFields.nodup hOthers.nodup).mpr hNames
  refine hPerm.eq_of_pairwise ?_ hFields hOthers
  intro name other _ _ hLess hGreater
  exact absurd (String.lt_trans hLess hGreater) (String.lt_irrefl _)

section Agreement

variable {R : α → β → Prop} {fields : Fields α} {others : Fields β}

/-- Two maps agree in every place. -/
def Agree (R : α → β → Prop) : Fields α → Fields β → Prop :=
  List.Forall₂ fun pair other => pair.1 = other.1 ∧ R pair.2 other.2

theorem Agree.find? (hAgree : Agree R fields others) (name : String) :
    Option.Rel R (find? name fields) (find? name others) := by
  induction hAgree with
  | nil => exact .none
  | @cons pair other fields others hPair _ ih =>
      obtain ⟨hName, hValue⟩ := hPair
      rw [Fields.find?, Fields.find?, ← hName]
      by_cases hFirst : name = pair.1
      · rw [if_pos hFirst, if_pos hFirst]
        exact .some hValue
      · rw [if_neg hFirst, if_neg hFirst]
        exact ih

theorem agree_of_names_eq
    (hNodup : (names fields).Nodup)
    (hNames : names fields = names others)
    (hFound : ∀ name, Option.Rel R (Fields.find? name fields) (Fields.find? name others)) :
    Agree R fields others := by
  induction fields generalizing others with
  | nil =>
      obtain rfl := List.map_eq_nil_iff.mp hNames.symm
      exact .nil
  | cons pair rest ih =>
      obtain ⟨name, value⟩ := pair
      cases others with
      | nil => cases hNames
      | cons other others =>
          obtain ⟨other, kept⟩ := other
          obtain ⟨rfl, hTail⟩ : name = other ∧ names rest = names others := List.cons.inj hNames
          obtain ⟨hNew, hRest⟩ : name ∉ names rest ∧ _ := List.nodup_cons.mp hNodup
          have hFirst := hFound name
          rw [Fields.find?, Fields.find?, if_pos rfl, if_pos rfl] at hFirst
          refine .cons ⟨rfl, ?_⟩ (ih hRest hTail fun later => ?_)
          · cases hFirst with
            | some hValue => exact hValue
          · by_cases hLater : later = name
            · subst hLater
              rw [find?_eq_none_iff.mpr hNew, find?_eq_none_iff.mpr (hTail ▸ hNew)]
              exact .none
            · have hSecond := hFound later
              rw [Fields.find?, Fields.find?, if_neg hLater, if_neg hLater] at hSecond
              exact hSecond

theorem agree_iff_names_and_values :
    Agree R fields others ↔
      names fields = names others ∧
        List.Forall₂ R (fields.map Prod.snd) (others.map Prod.snd) := by
  unfold Agree
  induction fields generalizing others with
  | nil => cases others <;> simp [names]
  | cons pair rest ih =>
      cases others with
      | nil => simp [names]
      | cons other others =>
          simp only [List.forall₂_cons, ih, names, List.map_cons, List.cons.injEq]
          exact and_and_and_comm

/-- Two ascending maps agree in every place if they agree under every name. -/
theorem Sorted.agree_iff
    (hFields : Sorted fields)
    (hOthers : Sorted others) :
    Agree R fields others ↔
      ∀ name, Option.Rel R (Fields.find? name fields) (Fields.find? name others) := by
  refine ⟨Agree.find?, fun hFound => ?_⟩
  have hNames : ∀ name, name ∈ names fields ↔ name ∈ names others := by
    intro name
    have hName := hFound name
    rw [← isSome_find?, ← isSome_find?]
    generalize Fields.find? name fields = found, Fields.find? name others = kept at hName ⊢
    cases hName <;> simp
  exact agree_of_names_eq hFields.nodup (hFields.names_eq hOthers hNames) hFound

end Agreement
end Fields

theorem Node.mem_addLabel {node : Node} {added label : String} :
    label ∈ (node.addLabel added).labels ↔ label ∈ node.labels ∨ label = added := by
  unfold addLabel hasLabel
  split
  · next hThere =>
      have hMem : added ∈ node.labels := by simpa using hThere
      constructor
      · exact Or.inl
      · rintro (hLabel | rfl)
        · exact hLabel
        · exact hMem
  · rw [List.mem_append, List.mem_singleton]

/-- A label is added unless it is there, so it is never there twice. -/
theorem Node.nodup_addLabel
    {node : Node}
    (label : String)
    (hNodup : node.labels.Nodup) :
    (node.addLabel label).labels.Nodup := by
  unfold addLabel hasLabel
  split
  · exact hNodup
  · next hNew =>
      have hNotMem : label ∉ node.labels := by simpa using hNew
      exact List.nodup_append.mpr ⟨hNodup, List.pairwise_singleton _ label, by
        rintro kept hKept other hOther rfl
        exact hNotMem (List.mem_singleton.mp hOther ▸ hKept)⟩

theorem Node.nodup_addLabels
    {node : Node}
    (labels : List String)
    (hNodup : node.labels.Nodup) :
    (node.addLabels labels).labels.Nodup := by
  induction labels generalizing node with
  | nil => exact hNodup
  | cons label rest ih => exact ih (node.nodup_addLabel label hNodup)

theorem Node.mem_addLabels
    {node : Node}
    {label : String}
    {labels : List String}
    (hMem : label ∈ (node.addLabels labels).labels) :
    label ∈ node.labels ∨ label ∈ labels := by
  induction labels generalizing node with
  | nil => exact Or.inl hMem
  | cons first rest ih =>
      rcases ih hMem with hAdded | hRest
      · refine (mem_addLabel.mp hAdded).imp_right ?_
        rintro rfl
        exact List.mem_cons_self
      · exact Or.inr (List.mem_cons_of_mem _ hRest)

/-- Different labels are kept as they come. -/
theorem Node.addLabels_of_nodup
    (node : Node)
    (labels : List String)
    (hNodup : (node.labels ++ labels).Nodup) :
    node.addLabels labels = { node with labels := node.labels ++ labels } := by
  induction labels generalizing node with
  | nil =>
      cases node
      rw [List.append_nil]
      rfl
  | cons label rest ih =>
      have hNew : label ∉ node.labels := by
        intro hMem
        have hDisjoint := (List.nodup_append.mp hNodup).2.2
        exact hDisjoint label hMem label (List.mem_cons_self) rfl
      have hAdded : node.addLabel label = { node with labels := node.labels ++ [label] } := by
        rw [addLabel, hasLabel, if_neg (by simpa using hNew)]
      have hRest : ((node.labels ++ [label]) ++ rest).Nodup := by
        rw [List.append_assoc]
        exact hNodup
      change (node.addLabel label).addLabels rest = _
      rw [hAdded, ih _ hRest]
      simp

/-- Of labels that repeat the first one is kept. -/
theorem Node.addLabels_new (id : Int) (labels : List String) :
    (Node.new id).addLabels labels = ⟨id, labels.eraseDups, []⟩ := by
  induction labels using List.reverseRecOn with
  | nil => rfl
  | append_singleton labels label ih =>
      have hAdded : (Node.new id).addLabels (labels ++ [label]) =
          ((Node.new id).addLabels labels).addLabel label := by
        rw [addLabels, List.foldl_append]
        rfl
      rw [hAdded, ih, List.eraseDups_append, addLabel, hasLabel]
      by_cases hThere : label ∈ labels
      · simp [hThere, List.removeAll]
      · simp [hThere, List.removeAll, List.eraseDups_cons]

end GraphClient
