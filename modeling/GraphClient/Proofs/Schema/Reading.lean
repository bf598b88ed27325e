import GraphClient.Proofs.Schema.AppendOnly
import GraphClient.Proofs.Traversal

/-!
# What a reading can end in

A reading *ends* in a value if it can get there with names that are known
(`Lookup.Ends`).  Which names are known is a parameter: all that there are, or those in
the lists of a cache.

**Inversion.**  A reading made of parts ends in a value only if its parts end in values
that make it up (`Lookup.ends_bind`).  So a property of everything that a reading yields
is shown along the reading itself, without a word on caches.

**Runs.**  What comes of a reading through a cache is something that it ends in, where
the names known are those in the cache afterwards (`Backed.ends_of_run`).  This needs
fetches that append, since a name that is dropped while the reading goes on is no longer
in any list.
-/

namespace GraphClient

/-- The reading comes to the value if it is given names that are known. -/
inductive Lookup.Ends
    {α : Type}
    (known : Kind → String → Prop) :
    Lookup α → α → Prop
  | done (value : α) : Ends known (.done value) value
  | need {kind : Kind} {index : Nat} {next : String → Lookup α} {name : String} {value : α} :
      known kind name →
      Ends known (next name) value →
      Ends known (.need kind index next) value

namespace Lookup

variable {σ α β : Type} {known : Kind → String → Prop}

@[simp] theorem ends_done {value result : α} :
    (Lookup.done value).Ends known result ↔ value = result := by
  constructor
  · rintro ⟨⟩
    rfl
  · rintro rfl
    exact .done value

@[simp] theorem ends_pure {value result : α} :
    (pure value : Lookup α).Ends known result ↔ value = result :=
  ends_done

@[simp] theorem not_ends_fail {reason : Malformed} {result : α} :
    ¬ (Lookup.fail reason).Ends known result := by
  rintro ⟨⟩

@[simp] theorem ends_name {kind : Kind} {index : Nat} {result : String} :
    (Lookup.name kind index).Ends known result ↔ known kind result := by
  constructor
  · intro hEnds
    cases hEnds with
    | need hKnown hDone => exact ends_done.mp hDone ▸ hKnown
  · exact fun hKnown => .need hKnown (.done result)

@[simp] theorem ends_lift {outcome : Except Malformed α} {result : α} :
    (liftM outcome : Lookup α).Ends known result ↔ outcome = .ok result := by
  cases outcome with
  | error reason => exact ⟨fun hEnds => (not_ends_fail hEnds).elim, fun hOk => nomatch hOk⟩
  | ok value => exact ends_done.trans ⟨congrArg _, fun hOk => Except.ok.inj hOk⟩

/-- A sequence ends in what its second part ends in after a value of the first. -/
@[simp] theorem ends_bind
    {reading : Lookup α}
    {next : α → Lookup β}
    {result : β} :
    (reading >>= next).Ends known result ↔
      ∃ value, reading.Ends known value ∧ (next value).Ends known result := by
  constructor
  · intro hEnds
    induction reading with
    | done value => exact ⟨value, .done value, hEnds⟩
    | fail reason => exact (not_ends_fail hEnds).elim
    | need kind index rest ih =>
        rw [need_bind] at hEnds
        cases hEnds with
        | need hKnown hRest =>
            obtain ⟨value, hFirst, hNext⟩ := ih _ hRest
            exact ⟨value, .need hKnown hFirst, hNext⟩
  · rintro ⟨value, hFirst, hNext⟩
    induction hFirst with
    | done value => exact hNext
    | need hKnown _ ih => exact .need hKnown (ih hNext)

/--
What comes of a run is something that the reading ends in.  The names that a resolver
hands out are known in the state that it leaves, and the rest of the run keeps them known.
-/
theorem ends_of_run
    {resolve : Kind → Nat → Attempt σ String}
    (known : σ → Kind → String → Prop)
    (hResolve : ∀ kind index name state after,
      (resolve kind index).on state = (.ok name, after) → known after kind name)
    (hKept : ∀ (rest : Lookup α) kind name state,
      known state kind name → known ((rest.run resolve).on state).2 kind name)
    {reading : Lookup α}
    {value : α}
    {state after : σ}
    (hOk : (reading.run resolve).on state = (.ok value, after)) :
    reading.Ends (known after) value := by
  induction reading generalizing state with
  | done result =>
      cases hOk
      exact .done _
  | fail reason => cases hOk
  | need kind index next ih =>
      rw [run, Attempt.on_bind] at hOk
      rcases hOn : (resolve kind index).on state with ⟨failure | name, middle⟩
      · rw [hOn] at hOk
        cases hOk
      · rw [hOn] at hOk
        have hName := hKept (next name) kind name middle (hResolve _ _ _ _ _ hOn)
        dsimp only at hOk
        rw [hOk] at hName
        exact .need hName (ih name hOk)

end Lookup

namespace Backed

variable {σ α : Type} {fetch : Fetch σ} {reading : Lookup α} {value : α} {backed after : Backed σ}

/-- What comes of a reading, whatever the fetches do. -/
theorem ends_of_run_any
    (hOk : (reading.run (resolve fetch)).on backed = (.ok value, after)) :
    reading.Ends (fun _ _ => True) value :=
  Lookup.ends_of_run (fun _ _ _ => True)
    (fun _ _ _ _ _ _ => trivial) (fun _ _ _ _ _ => trivial) hOk

/-- The names in what comes of a reading are in the lists of the cache afterwards. -/
theorem ends_of_run
    (hFetch : ∀ kind, Appends (fetch kind))
    (hOk : (reading.run (resolve fetch)).on backed = (.ok value, after)) :
    reading.Ends (fun kind name => name ∈ after.cache.names.of kind) value := by
  refine Lookup.ends_of_run (fun state kind name => name ∈ state.cache.names.of kind)
    (fun kind index name state after hName => ?_) (fun rest kind name state hKnown => ?_) hOk
  · exact List.mem_of_getElem? (known_of_resolve_ok hName)
  · exact (appends_run hFetch rest state kind).subset hKnown

end Backed

end GraphClient
