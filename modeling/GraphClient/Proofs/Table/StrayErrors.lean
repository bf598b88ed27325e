import GraphClient.Proofs.Session.ServerErrors

/-!
# Errors in other places

The server reports an error in the last item of its reply, and there alone it is looked for.  In
any other place an error is an item like others.

**Three items.**  The reply is taken for a table.  Columns and rows are arrays, so an error in
place of either makes the reply malformed (`Table.ofReply_misplaced`).

**Another number of items.**  The last item is all that is read (`Table.ofReply_snoc`).  The error
is passed over, and the reading even succeeds if the last item holds statistics.

**Results.**  `Backed.decode_stray_error` puts the places together.  An error among the items
prevails only at the end, and `Backed.not_forall_error_prevails` shows one that does not.
-/

namespace GraphClient

namespace Reply

theorem serverError?_snoc (front : List Reply) (last : Reply) :
    (array (front ++ [last])).serverError? = last.errorText? := by
  rw [serverError?, List.getLast?_concat]
  rfl

/-- An error that is not the last item is one of those before it. -/
theorem mem_of_mem_snoc
    {front : List Reply}
    {last : Reply}
    {message : String}
    (hError : .error message ∈ front ++ [last])
    (hLast : last.errorText? = none) :
    .error message ∈ front := by
  rcases List.mem_append.mp hError with hFront | hSame
  · exact hFront
  · obtain rfl := List.mem_singleton.mp hSame
    cases hLast

end Reply

namespace Table

/--
What is wrong with a reply of which the columns or the rows are an error.  If it is the columns,
they are no array; otherwise they may have a fault of their own, which is found first.
-/
def misplacedFault (header : Reply) : Malformed :=
  match Column.listOfReply header with
  | .error reason => reason
  | .ok _ => .unexpectedShape "array" "result rows"

/-- The columns are read before the rows, and the rows before the statistics. -/
theorem ofReply_misplaced
    {header rows : Reply}
    {message : String}
    (hError : .error message ∈ [header, rows])
    (statistics : Reply) :
    ofReply (.array [header, rows, statistics]) =
      Lookup.ofExcept (.error (misplacedFault header)) := by
  have hParts :
      ofReply (.array [header, rows, statistics]) =
        (Lookup.ofExcept (Column.listOfReply header) >>= fun columns =>
          Lookup.ofExcept (rows.toItems "result rows") >>= fun items => do
            let rows ← rowsOfReplies columns items
            let statistics ← Statistics.ofReply statistics
            pure ⟨columns, rows, statistics⟩) := rfl
  rw [hParts, misplacedFault]
  cases hHeader : Column.listOfReply header with
  | error reason => rfl
  | ok columns =>
      rcases List.mem_pair.mp hError with rfl | rfl
      · cases hHeader
      · rfl

/-- An array of another length than three is read from its end. -/
theorem ofReply_of_length_ne
    {items : List Reply}
    (hLength : items.length ≠ 3) :
    ofReply (.array items) =
      match items.getLast? with
      | some statistics => do
          let statistics ← Statistics.ofReply statistics
          pure (ofStatistics statistics)
      | none => pure (ofStatistics .empty) := by
  match items, hLength with
  | [], _ => rfl
  | [_], _ => rfl
  | [_, _], _ => rfl
  | [_, _, _], hLength => exact absurd rfl hLength
  | _ :: _ :: _ :: _ :: _, _ => rfl

theorem ofReply_snoc
    {front : List Reply}
    (hFront : front.length ≠ 2)
    (last : Reply) :
    ofReply (.array (front ++ [last])) =
      Lookup.ofExcept ((Statistics.ofReply last).map ofStatistics) := by
  have hLength : (front ++ [last]).length ≠ 3 := by
    simpa using hFront
  rw [ofReply_of_length_ne hLength, List.getLast?_concat]
  dsimp only
  cases Statistics.ofReply last with
  | error reason => rfl
  | ok statistics => rfl

/-- An error that is not the last item makes a reading that asks for no name. -/
theorem exists_ofExcept
    {front : List Reply}
    {last : Reply}
    {message : String}
    (hError : .error message ∈ front ++ [last])
    (hLast : last.errorText? = none) :
    ∃ outcome, ofReply (.array (front ++ [last])) = Lookup.ofExcept outcome := by
  by_cases hFront : front.length = 2
  · obtain ⟨header, rows, rfl⟩ := List.length_eq_two.mp hFront
    exact ⟨_, ofReply_misplaced (Reply.mem_of_mem_snoc hError hLast) last⟩
  · exact ⟨_, ofReply_snoc hFront last⟩

end Table

namespace Backed

variable {σ : Type}

/-- A reading that asks for no name has one outcome, whoever would answer. -/
theorem on_decode_of_ofExcept
    {reply : Reply}
    {outcome : Except Malformed Table}
    (hReply : reply.serverError? = none)
    (hRead : Table.ofReply reply = Lookup.ofExcept outcome)
    (fetch : Fetch σ)
    (backed : Backed σ) :
    (decode fetch reply).on backed = (outcome.mapError .malformed, backed) := by
  rw [decode, Table.decode, hReply]
  dsimp only
  rw [hRead]
  cases outcome with
  | error reason => rfl
  | ok table => rfl

/--
An array with an error among its items has one outcome, whoever answers for the names.  It is no
failure of the names.
-/
theorem exists_outcome
    {items : List Reply}
    {message : String}
    (hError : .error message ∈ items) :
    ∃ outcome : Except Failure Table,
      (∀ (σ : Type) (fetch : Fetch σ) (backed : Backed σ),
        (decode fetch (.array items)).on backed = (outcome, backed)) ∧
      ∀ failure, outcome = .error failure →
        (∃ text, failure = .evaluation text ∧ (Reply.array items).Reports text) ∨
        ∃ reason, failure = .malformed reason := by
  obtain rfl | ⟨front, last, rfl⟩ := List.eq_nil_or_concat' items
  · cases hError
  cases hLast : last.errorText? with
  | some text =>
      have hReports : (Reply.array (front ++ [last])).Reports text :=
        Reply.reports_iff.mpr ((Reply.serverError?_snoc front last).trans hLast)
      refine ⟨.error (.evaluation text), fun σ fetch backed =>
        on_decode_reported hReports fetch backed, ?_⟩
      rintro _ ⟨⟩
      exact Or.inl ⟨text, rfl, hReports⟩
  | none =>
      have hReply := (Reply.serverError?_snoc front last).trans hLast
      obtain ⟨outcome, hRead⟩ := Table.exists_ofExcept hError hLast
      refine ⟨outcome.mapError .malformed, fun σ fetch backed =>
        on_decode_of_ofExcept hReply hRead fetch backed, ?_⟩
      intro failure hFailure
      cases outcome with
      | ok table => cases hFailure
      | error reason =>
          cases hFailure
          exact Or.inr ⟨reason, rfl⟩

/--
**An error prevails at the end alone.**  Let an array have an error of the server among its items.
Reading it through any cache, with any fetch behind it, makes no fetch and leaves cache and server
as they are.  It fails as an evaluation exactly if the last item is an error, and then with the
text of that item.  Otherwise a reply of three items is malformed, since columns and rows are
arrays.  A reply of another length is read as the statistics in its last item, whatever stands
before them.  No other failure arises.
-/
theorem decode_stray_error
    (fetch : Fetch σ)
    (items : List Reply)
    (hError : ∃ message, .error message ∈ items)
    (backed : Backed σ) :
    let result := (decode fetch (.array items)).on backed
    (result.2 = backed ∧ fetches fetch (.array items) backed = []) ∧
    (∀ text, result.1 = .error (.evaluation text) ↔ (Reply.array items).Reports text) ∧
    (∀ header rows last, items = [header, rows, last] → last.errorText? = none →
      result.1 = .error (.malformed (Table.misplacedFault header))) ∧
    (∀ front last, items = front ++ [last] → front.length ≠ 2 → last.errorText? = none →
      result.1 = ((Statistics.ofReply last).map Table.ofStatistics).mapError .malformed) ∧
    ∀ failure, result.1 = .error failure →
      (∃ text, failure = .evaluation text) ∨ ∃ reason, failure = .malformed reason := by
  intro result
  obtain ⟨_, hError⟩ := hError
  obtain ⟨outcome, hOutcome, hFailure⟩ := exists_outcome hError
  have hResult : result = (outcome, backed) := hOutcome σ fetch backed
  refine ⟨⟨by rw [hResult], ?_⟩, fun text => ⟨?_, ?_⟩, ?_, ?_, ?_⟩
  · rw [fetches, hOutcome]
    rfl
  · intro hText
    rw [hResult] at hText
    obtain ⟨_, ⟨⟩, hReports⟩ | ⟨_, ⟨⟩⟩ := hFailure _ hText
    exact hReports
  · intro hReports
    exact congrArg Prod.fst (on_decode_reported hReports fetch backed)
  · rintro header rows last rfl hLast
    have hOpening : .error _ ∈ [header, rows] := Reply.mem_of_mem_snoc hError hLast
    have hRead := Table.ofReply_misplaced hOpening last
    have hReply : (Reply.array [header, rows, last]).serverError? = none := hLast
    exact congrArg Prod.fst (on_decode_of_ofExcept hReply hRead fetch backed)
  · rintro front last rfl hFront hLast
    have hRead := Table.ofReply_snoc hFront last
    have hReply := (Reply.serverError?_snoc front last).trans hLast
    exact congrArg Prod.fst (on_decode_of_ofExcept hReply hRead fetch backed)
  · intro failure hFails
    rw [hResult] at hFails
    obtain ⟨text, rfl, -⟩ | hReason := hFailure failure hFails
    · exact Or.inl ⟨text, rfl⟩
    · exact Or.inr hReason

end Backed

namespace Sample

/-- A reply with an error in place of its columns. -/
def unheaded : Reply := .array [.error "out of memory", .array [], .array []]

/-- A reply with an error before its statistics and without rows. -/
def passedOver : Reply := .array [.error "out of memory", .array []]

end Sample

/-- The first reply is malformed, and the second a table, because neither ends in its error. -/
theorem Backed.decode_stray_error_sample :
    (decode (fetchFrom Server.source) Sample.unheaded).on ⟨Sample.cache, Sample.server⟩ =
        (.error (.malformed (.unexpectedShape "array" "header")), ⟨Sample.cache, Sample.server⟩) ∧
      (decode (fetchFrom Server.source) Sample.passedOver).on ⟨Sample.cache, Sample.server⟩ =
        (.ok (.ofStatistics .empty), ⟨Sample.cache, Sample.server⟩) := by
  obtain ⟨⟨hKept, -⟩, -, hMisplaced, -, -⟩ :=
    decode_stray_error (fetchFrom Server.source) [.error "out of memory", .array [], .array []]
      ⟨"out of memory", List.mem_cons_self⟩ ⟨Sample.cache, Sample.server⟩
  obtain ⟨⟨hAlso, -⟩, -, -, hPassed, -⟩ :=
    decode_stray_error (fetchFrom Server.source) [.error "out of memory", .array []]
      ⟨"out of memory", List.mem_cons_self⟩ ⟨Sample.cache, Sample.server⟩
  exact ⟨Prod.ext (hMisplaced _ _ _ rfl rfl) hKept,
    Prod.ext (hPassed [.error "out of memory"] (.array []) rfl (by decide) rfl) hAlso⟩

/-- An error among the items does not always decide how the reading ends. -/
theorem Backed.not_forall_error_prevails :
    ¬ ∀ (σ : Type) (fetch : Fetch σ) (items : List Reply) (backed : Backed σ),
      (∃ message, .error message ∈ items) →
      ∃ message, .error message ∈ items ∧
        ((decode fetch (.array items)).on backed).1 = .error (.evaluation message) := by
  intro hAll
  obtain ⟨message, -, hEvaluation⟩ :=
    hAll Server (fetchFrom Server.source) [.error "out of memory", .array [], .array []]
      ⟨Sample.cache, Sample.server⟩ ⟨"out of memory", List.mem_cons_self⟩
  cases hEvaluation

end GraphClient
