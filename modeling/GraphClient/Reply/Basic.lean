import GraphClient.Number.Layout
import GraphClient.Text.Listing
import GraphClient.Text.Quoted

/-!
# Replies

A reply is what the connection hands over: a tree of integers, doubles, byte
strings, status texts, error texts and arrays.

**Equality.** `same` compares two replies place by place, doubles as numbers, so
a reply that holds a value that is no number is not the same as itself.

**Listing.** `describe` writes a reply with the name of each form and every text
in its visible form.
-/

namespace GraphClient

/-- One node of the tree that a connection hands over. -/
inductive Reply where
  | nil
  | integer (value : Int)
  | double (value : Double)
  /-- A byte string, which need not be UTF-8. -/
  | bulk (bytes : ByteArray)
  /-- A short text such as `OK`. -/
  | status (text : String)
  /-- An error text of the server. -/
  | error (message : String)
  | array (items : List Reply)
deriving Inhabited

/-- Doubles in listings: exponents from ten to the sixteenth up and below ten to the minus fourth. -/
def listingLayout : Layout := ⟨true, some (-4, 16)⟩

namespace Reply

/-- A byte string that holds a text. -/
def ofText (text : String) : Reply := .bulk text.toUTF8

def errorText? : Reply → Option String
  | .error message => some message
  | _ => none

mutual

/-- Whether two replies agree in every place. -/
def same : Reply → Reply → Bool
  | .nil, .nil => true
  | .integer m, .integer n => m == n
  | .double x, .double y => x.same y
  | .bulk bytes, .bulk other => bytes == other
  | .status text, .status other => text == other
  | .error message, .error other => message == other
  | .array items, .array others => sameItems items others
  | _, _ => false

def sameItems : List Reply → List Reply → Bool
  | [], [] => true
  | item :: rest, other :: others => same item other && sameItems rest others
  | _, _ => false

end

mutual

/-- A reply with the name of each form. -/
def describe : Reply → List Char
  | .nil => "Nil".toList
  | .integer n => s!"Integer({n})".toList
  | .double x => "Double(".toList ++ (listingLayout.render x).toList ++ [')']
  | .bulk bytes => "Bulk(".toList ++ quoteBytes bytes ++ [')']
  | .status text => "Status(".toList ++ quoteVisible text ++ [')']
  | .error message => "Error(".toList ++ quoteVisible message ++ [')']
  | .array items => "Array(".toList ++ bracketed (describeItems items) ++ [')']

def describeItems : List Reply → List (List Char)
  | [] => []
  | item :: rest => describe item :: describeItems rest

end

end Reply

end GraphClient
