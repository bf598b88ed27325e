import GraphClient.Failure

/-!
# Attempts

An attempt works on a state and ends in a value or in a failure.  What it did to
the state before it failed stays done.

**Invariants.**  An attempt that keeps an invariant, followed by others that do, keeps
it (`Keeps.bind`), wherever the sequence stops.

**Runs.**  `runAll` makes one attempt after the other, whether or not those before
succeeded, and `after` is the state that they leave behind.  A property of states
that every attempt keeps holds after every run (`after_keeps`).
-/

namespace GraphClient

/-- A computation on a state `σ` that may fail and keeps its state when it does. -/
abbrev Attempt (σ : Type) : Type → Type := ExceptT Failure (StateM σ)

namespace Attempt

variable {ι ρ σ α β : Type}

/-- Outcome and final state of an attempt. -/
def on (attempt : Attempt σ α) (state : σ) : Except Failure α × σ :=
  attempt.run.run state

/-- The attempt with a given outcome and final state. -/
def ofFunction (step : σ → Except Failure α × σ) : Attempt σ α :=
  ExceptT.mk fun state => step state

@[simp] theorem on_ofFunction
    (step : σ → Except Failure α × σ)
    (state : σ) :
    (ofFunction step).on state = step state := rfl

@[simp] theorem on_pure
    (value : α)
    (state : σ) :
    (pure value : Attempt σ α).on state = (.ok value, state) := rfl

@[simp] theorem on_throw
    (failure : Failure)
    (state : σ) :
    (throw failure : Attempt σ α).on state = (.error failure, state) := rfl

@[simp] theorem on_get (state : σ) : (get : Attempt σ σ).on state = (.ok state, state) := rfl

@[simp] theorem on_modify
    (change : σ → σ)
    (state : σ) :
    (modify change : Attempt σ Unit).on state = (.ok (), change state) := rfl

/-- A sequence goes on after a value and stops at a failure. -/
theorem on_bind
    (attempt : Attempt σ α)
    (next : α → Attempt σ β)
    (state : σ) :
    (attempt >>= next).on state =
      match attempt.on state with
      | (.ok value, middle) => (next value).on middle
      | (.error failure, middle) => (.error failure, middle) := by
  simp only [on, ExceptT.run_bind, StateT.run_bind]
  change (match attempt.run.run state with | (result, middle) => _) = _
  rcases attempt.run.run state with ⟨result | result, middle⟩ <;> rfl

/-- A value computed at the end of a sequence changes the outcome and not the state. -/
theorem on_bind_pure
    (attempt : Attempt σ α)
    (finish : α → β)
    (state : σ) :
    (attempt >>= fun value => pure (finish value)).on state =
      ((attempt.on state).1.map finish, (attempt.on state).2) := by
  rw [on_bind]
  rcases attempt.on state with ⟨failure | value, after⟩ <;> rfl

/-- The attempt leaves what `view` shows of the state alone and keeps an invariant. -/
def Keeps {ν : Type} (view : σ → ν) (invariant : σ → Prop) (attempt : Attempt σ α) : Prop :=
  ∀ state, invariant state →
    view (attempt.on state).2 = view state ∧ invariant (attempt.on state).2

namespace Keeps

variable {ν : Type} {view : σ → ν} {invariant : σ → Prop} {attempt : Attempt σ α}

theorem pure (value : α) : Keeps view invariant (pure value : Attempt σ α) :=
  fun _ hState => ⟨rfl, hState⟩

theorem throw (failure : Failure) : Keeps view invariant (throw failure : Attempt σ α) :=
  fun _ hState => ⟨rfl, hState⟩

theorem bind
    {next : α → Attempt σ β}
    (hFirst : Keeps view invariant attempt)
    (hNext : ∀ value, Keeps view invariant (next value)) :
    Keeps view invariant (attempt >>= next) := by
  intro state hState
  obtain ⟨hView, hMiddle⟩ := hFirst state hState
  rw [on_bind]
  rcases hOn : attempt.on state with ⟨failure | value, middle⟩
  · rw [hOn] at hView hMiddle
    exact ⟨hView, hMiddle⟩
  · rw [hOn] at hView hMiddle
    obtain ⟨hLast, hAfter⟩ := hNext value middle hMiddle
    exact ⟨hLast.trans hView, hAfter⟩

end Keeps

/-- The outcomes of several attempts, each with the state after it. -/
def runAll (perform : ι → Attempt σ α) : List ι → σ → List (Except Failure α × σ)
  | [], _ => []
  | step :: rest, state =>
      let result := (perform step).on state
      result :: runAll perform rest result.2

def after (perform : ι → Attempt σ α) : List ι → σ → σ
  | [], state => state
  | step :: rest, state => after perform rest ((perform step).on state).2

/--
What every step keeps holds after every run.  The invariant may speak of a record
that is advanced along with the state.
-/
theorem after_keeps
    {perform : ι → Attempt σ α}
    {advance : ρ → ι → ρ}
    (invariant : ρ → σ → Prop)
    (hStep : ∀ step record state, invariant record state →
      invariant (advance record step) ((perform step).on state).2)
    (steps : List ι)
    {record : ρ}
    {state : σ}
    (hStart : invariant record state) :
    invariant (steps.foldl advance record) (after perform steps state) := by
  induction steps generalizing record state with
  | nil => exact hStart
  | cons step rest ih => exact ih (hStep step record state hStart)

/-- The entry of a step in a run is the step made in the state that the steps before it left. -/
theorem getElem?_runAll
    (perform : ι → Attempt σ α)
    (before rest : List ι)
    (step : ι)
    (state : σ) :
    (runAll perform (before ++ step :: rest) state)[before.length]? =
      some ((perform step).on (after perform before state)) := by
  induction before generalizing state with
  | nil => rfl
  | cons first before ih => exact ih _

end Attempt

end GraphClient
