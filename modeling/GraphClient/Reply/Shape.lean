import GraphClient.Failure
import GraphClient.Number.Decimal
import GraphClient.Reply.Basic
import GraphClient.Text.Blank

/-!
# Shapes of replies

A reader asks for a shape: an array, an array of fixed length, an integer, an
index, a text or a number.  Each function here gives the content of one shape or
says what stands there instead; `context` names the place in the message.

* Nothing at all reads as the empty array.
* Byte strings and statuses are texts; bytes have to be UTF-8.
* A number is a double, an integer rounded to one, or a text around which blanks
  are ignored.
-/

namespace GraphClient
namespace Reply

def toItems (context : String) : Reply → Except Malformed (List Reply)
  | .array items => .ok items
  | .nil => .ok []
  | _ => .error (.unexpectedShape "array" context)

/-- What is wrong with a reply that is no array of `width` items. -/
def tupleFault
    (width : Nat)
    (context : String) :
    Reply → Malformed
  | .array items => .arity width items.length context
  | .nil => .arity width 0 context
  | _ => .unexpectedShape "array" context

def toInteger (context : String) : Reply → Except Malformed Int
  | .integer n => .ok n
  | _ => .error (.unexpectedShape "integer" context)

/-- The value of an integer that is not negative. -/
def toIndex
    (context : String)
    (reply : Reply) :
    Except Malformed Nat := do
  match ← reply.toInteger context with
  | .ofNat n => .ok n
  | n => .error (.invalidNumber (toString n) context)

def toText (context : String) : Reply → Except Malformed String
  | .bulk bytes =>
      match String.fromUTF8? bytes with
      | some text => .ok text
      | none => .error (.invalidUtf8 context)
  | .status text => .ok text
  | _ => .error (.unexpectedShape "string" context)

def toNumber (context : String) : Reply → Except Malformed Double
  | .double x => .ok x
  | .integer n => .ok (.ofInt .double n)
  | reply => do
      let text ← reply.toText context
      match Binary.ofText? .double (trim text) with
      | some x => .ok x
      | none => .error (.invalidNumber text context)

/-- Bytes that encode a text read as that text. -/
theorem fromUTF8?_toUTF8 (text : String) : String.fromUTF8? text.toUTF8 = some text :=
  dif_pos text.isValidUTF8

/-- A text sent as a byte string reads back. -/
@[simp] theorem toText_ofText
    (context text : String) :
    (ofText text).toText context = .ok text := by
  simp only [ofText, toText, fromUTF8?_toUTF8]

end Reply
end GraphClient
