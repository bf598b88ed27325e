import GraphClient.Proofs.Schema.Transparency
import GraphClient.Schema.Run

/-!
# Runs of a cache are sound

A cache starts empty and lives through any number of steps: names asked for, lists
fetched, replies read, names dropped, new names on the server, and requests that the
server refuses.

**Invariant.**  Each list of the cache is the beginning of the list of its kind on the
server (`Backed.Known`).  An attempt that keeps it and leaves the lists of the server
alone is *safe*.  Requests are safe because what they do to the lists of the cache is
filling or dropping (`Request.safe_perform`), and a new name keeps the invariant
because it is appended (`ServerStep.known_perform`).

**Results.**  `ServerStep.run_sound` says of every step of every run which lists the
server has after it, that the invariant holds, and that a name asked for is the name
of its own kind and index on the server at that moment or does not exist there.
-/

namespace GraphClient

theorem Names.empty_le (names : Names) : Names.empty ≤ names := by
  intro kind
  cases kind <;> exact List.nil_prefix

namespace Backed

variable {σ α : Type} {schema : σ → Names}

/-- The attempt leaves the schema alone and keeps the invariant. -/
abbrev Safe (schema : σ → Names) (attempt : Attempt (Backed σ) α) : Prop :=
  attempt.Keeps (fun backed => schema backed.server) (Known schema)

theorem Safe.of_filled
    {attempt : Attempt (Backed σ) α}
    (hFilled : ∀ backed, Known schema backed → Filled schema backed (attempt.on backed).2) :
    Safe schema attempt :=
  fun backed hKnown =>
    ⟨(hFilled backed hKnown).schema_eq, (hFilled backed hKnown).known hKnown⟩

section Honest

variable {fetch : Fetch σ} (hHonest : Fetch.Honest schema fetch)

include hHonest

theorem safe_resolve (kind : Kind) (index : Nat) : Safe schema (resolve fetch kind index) :=
  Safe.of_filled fun _ hKnown => (resolve_honest hHonest hKnown kind index).1

theorem safe_warm : Safe schema (warm fetch) :=
  Safe.of_filled fun _ hKnown => filled_refreshAll hHonest Kind.all hKnown

theorem safe_decode (reply : Reply) : Safe schema (decode fetch reply) :=
  Safe.of_filled fun _ hKnown => filled_decode hHonest reply hKnown

end Honest

theorem safe_clear : Safe schema clear :=
  fun _ _ => ⟨rfl, Names.empty_le _⟩

end Backed

namespace Request

variable {σ : Type} {schema : σ → Names} {fetch : Fetch σ} {backed : Backed σ}

theorem safe_perform
    (hHonest : Fetch.Honest schema fetch)
    (request : Request) :
    Backed.Safe schema (request.perform fetch) := by
  cases request with
  | resolve kind index => exact (Backed.safe_resolve hHonest kind index).bind fun _ => .pure _
  | warm => exact (Backed.safe_warm hHonest).bind fun _ => .pure _
  | clear => exact Backed.safe_clear.bind fun _ => .pure _
  | decode reply => exact (Backed.safe_decode hHonest reply).bind fun _ => .pure _

/-- A name that comes of a request is the name of the schema. -/
theorem resolve_ok
    (hHonest : Fetch.Honest schema fetch)
    (hKnown : Backed.Known schema backed)
    {kind : Kind}
    {index : Nat}
    {answer : Answer}
    (hOk : (((Request.resolve kind index).perform fetch).on backed).1 = .ok answer) :
    ∃ name, answer = .text name ∧ ((schema backed.server).of kind)[index]? = some name := by
  obtain ⟨-, hName | ⟨failure, asking, -, hFailed⟩⟩ :=
    Backed.resolve_honest hHonest hKnown kind index
  · rw [perform, Attempt.on_bind_pure, hName, Lookup.nameIn] at hOk
    cases hFound : ((schema backed.server).of kind)[index]? with
    | some name =>
        rw [hFound] at hOk
        cases hOk
        exact ⟨name, rfl, rfl⟩
    | none =>
        rw [hFound] at hOk
        cases hOk
  · rw [perform, Attempt.on_bind_pure, hFailed] at hOk
    cases hOk

/-- Where no fetch fails, a name that does not come of a request does not exist. -/
theorem resolve_error
    (hComplete : Fetch.Complete schema fetch)
    (hKnown : Backed.Known schema backed)
    {kind : Kind}
    {index : Nat}
    {failure : Failure}
    (hError : (((Request.resolve kind index).perform fetch).on backed).1 = .error failure) :
    failure = .unresolved kind index ((schema backed.server).of kind).length ∧
      ((schema backed.server).of kind).length ≤ index := by
  rw [perform, Attempt.on_bind_pure, Backed.resolve_complete hComplete hKnown,
    Lookup.nameIn] at hError
  cases hFound : ((schema backed.server).of kind)[index]? with
  | some name =>
      rw [hFound] at hError
      cases hError
  | none =>
      rw [hFound] at hError
      cases hError
      exact ⟨rfl, List.getElem?_eq_none_iff.mp hFound⟩

end Request

namespace ServerStep

/-- The lists of a server after a step: only a new name changes them. -/
def grow (names : Names) : ServerStep → Names
  | .request _ => names
  | .refused _ _ => names
  | .push kind name => names.append kind [name]

/-- The kind and the index of the name that a step asks for, if it asks for one. -/
def asked? : ServerStep → Option (Kind × Nat)
  | .request (.resolve kind index) => some (kind, index)
  | .refused _ (.resolve kind index) => some (kind, index)
  | _ => none

variable {backed : Backed Server}

/-- Every step does to the server what `grow` says, and keeps the invariant. -/
theorem known_perform
    (step : ServerStep)
    (hKnown : Backed.Known Server.names backed) :
    (step.perform.on backed).2.server.names = step.grow backed.server.names ∧
      Backed.Known Server.names (step.perform.on backed).2 := by
  cases step with
  | request request =>
      exact request.safe_perform Server.complete_source.toHonest backed hKnown
  | refused failure request =>
      exact request.safe_perform (Server.honest_refusing failure) backed hKnown
  | push kind name =>
      exact ⟨rfl, Names.le_trans hKnown (backed.server.names.le_append kind [name])⟩

/-- After any steps the server has the lists that the steps make, and the invariant holds. -/
theorem known_after
    (steps : List ServerStep)
    (hKnown : Backed.Known Server.names backed) :
    (Attempt.after perform steps backed).server.names = steps.foldl grow backed.server.names ∧
      Backed.Known Server.names (Attempt.after perform steps backed) := by
  refine Attempt.after_keeps
    (fun names reached => reached.server.names = names ∧ Backed.Known Server.names reached)
    ?_ steps ⟨rfl, hKnown⟩
  rintro step names reached ⟨rfl, hReached⟩
  exact step.known_perform hReached

/--
**Runs are sound.**  Whatever steps a cache that was empty at first has been through,
after one more step its lists are the beginnings of the lists that the server has by
then.  A step that asks for a name yields the name of that kind and index in these
lists; it can fail only in that a fetch was refused or that the list ends before the
index.
-/
theorem run_sound
    (graph : String)
    (server : Server)
    (before rest : List ServerStep)
    (step : ServerStep) :
    ∃ outcome after,
      (run (before ++ step :: rest) ⟨Cache.new graph, server⟩)[before.length]? =
        some (outcome, after) ∧
      after.server.names = (before ++ [step]).foldl grow server.names ∧
      after.cache.names ≤ after.server.names ∧
      (∀ kind index answer,
        step.asked? = some (kind, index) → outcome = .ok answer →
        ∃ name, answer = .text name ∧ (after.server.names.of kind)[index]? = some name) ∧
      (∀ kind index failure,
        step = .request (.resolve kind index) → outcome = .error failure →
        failure = .unresolved kind index (after.server.names.of kind).length ∧
          (after.server.names.of kind).length ≤ index) := by
  have hStart : Backed.Known Server.names ⟨Cache.new graph, server⟩ := Names.empty_le _
  obtain ⟨hNames, hKnown⟩ := known_after before hStart
  -- What the last step starts from is all that is known of the steps before it.
  generalize hReached : Attempt.after perform before ⟨Cache.new graph, server⟩ = reached
  rw [hReached] at hNames hKnown
  obtain ⟨hGrown, hAfter⟩ := known_perform step hKnown
  refine ⟨(step.perform.on reached).1, (step.perform.on reached).2, ?_, ?_, hAfter, ?_, ?_⟩
  · rw [run, Attempt.getElem?_runAll, hReached]
  · rw [hGrown, hNames, List.foldl_append]
    rfl
  · intro kind index answer hAsked hOk
    rw [hGrown]
    cases step with
    | push other name => cases hAsked
    | request request =>
        cases request <;> cases hAsked
        exact Request.resolve_ok Server.complete_source.toHonest hKnown hOk
    | refused failure request =>
        cases request <;> cases hAsked
        exact Request.resolve_ok (Server.honest_refusing failure) hKnown hOk
  · rintro kind index failure rfl hError
    rw [hGrown]
    exact Request.resolve_error Server.complete_source hKnown hError

end ServerStep

end GraphClient
