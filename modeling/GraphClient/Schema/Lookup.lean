import GraphClient.Attempt
import GraphClient.Schema.Names

/-!
# Look-ups of names

A reader of replies meets indices whose names it does not know.  It is therefore
a tree of requests: done with a value, stuck at a malformed reply, or in need of
a name, with the rest of the reading as a function of that name.

**Two ways to answer the requests.**

* `run` asks a resolver, which may change a state and may fail.
* `direct` reads the name off complete lists.

The tree says which names are asked for and in which order, whoever answers.
-/

namespace GraphClient

/-- A reading that may ask for names. -/
inductive Lookup (α : Type) where
  | done (value : α)
  | fail (reason : Malformed)
  /-- The name of this kind and index is needed to go on. -/
  | need (kind : Kind) (index : Nat) (next : String → Lookup α)

namespace Lookup

variable {α β γ σ : Type}

def bind : Lookup α → (α → Lookup β) → Lookup β
  | .done value, next => next value
  | .fail reason, _ => .fail reason
  | .need kind index rest, next => .need kind index fun name => (rest name).bind next

instance : Monad Lookup where
  pure := .done
  bind := bind

/-- The name of a kind and index. -/
def name (kind : Kind) (index : Nat) : Lookup String :=
  .need kind index .done

/-- A reading that needs no name. -/
def ofExcept : Except Malformed α → Lookup α
  | .ok value => .done value
  | .error reason => .fail reason

instance : MonadLift (Except Malformed) Lookup where
  monadLift := ofExcept

/-- The outcome when a resolver answers the requests. -/
def run (resolve : Kind → Nat → Attempt σ String) : Lookup α → Attempt σ α
  | .done value => pure value
  | .fail reason => throw (.malformed reason)
  | .need kind index next => do
      let name ← resolve kind index
      (next name).run resolve

/-- The name of a kind and index in complete lists. -/
def nameIn
    (names : Names)
    (kind : Kind)
    (index : Nat) :
    Except Failure String :=
  match (names.of kind)[index]? with
  | some name => .ok name
  | none => .error (.unresolved kind index (names.of kind).length)

/-- The outcome when the names are read off complete lists. -/
def direct (names : Names) : Lookup α → Except Failure α
  | .done value => .ok value
  | .fail reason => .error (.malformed reason)
  | .need kind index next =>
      match nameIn names kind index with
      | .ok name => (next name).direct names
      | .error failure => .error failure

@[simp] theorem done_bind
    (value : α)
    (next : α → Lookup β) :
    (Lookup.done value >>= next) = next value := rfl

@[simp] theorem fail_bind
    (reason : Malformed)
    (next : α → Lookup β) :
    (Lookup.fail reason >>= next) = .fail reason := rfl

@[simp] theorem need_bind
    (kind : Kind)
    (index : Nat)
    (rest : String → Lookup α)
    (next : α → Lookup β) :
    (Lookup.need kind index rest >>= next) =
      .need kind index fun name => rest name >>= next := rfl

theorem bind_done (reading : Lookup α) : (reading >>= Lookup.done) = reading := by
  induction reading with
  | done value => rfl
  | fail reason => rfl
  | need kind index rest ih => simp [ih]

theorem bind_assoc
    (reading : Lookup α)
    (next : α → Lookup β)
    (last : β → Lookup γ) :
    ((reading >>= next) >>= last) = (reading >>= fun value => next value >>= last) := by
  induction reading with
  | done value => rfl
  | fail reason => rfl
  | need kind index rest ih => simp [ih]

instance : LawfulMonad Lookup :=
  LawfulMonad.mk' Lookup
    (fun reading => bind_done reading)
    (fun _ _ => rfl)
    bind_assoc
    (fun _ _ => rfl)

/-- Reading off complete lists goes piece by piece. -/
theorem direct_bind
    (names : Names)
    (reading : Lookup α)
    (next : α → Lookup β) :
    (reading >>= next).direct names =
      match reading.direct names with
      | .ok value => (next value).direct names
      | .error failure => .error failure := by
  induction reading with
  | done value => rfl
  | fail reason => rfl
  | need kind index rest ih =>
      simp only [need_bind, direct]
      cases nameIn names kind index with
      | ok name => exact ih name
      | error failure => rfl

end Lookup

end GraphClient
