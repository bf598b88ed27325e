import GraphClient.Text.Combining
import GraphClient.Text.Unprintable

/-!
# Quoted forms

Three ways to write a text between double quotes.

* `quoteLiteral` puts a backslash in front of a quote and of a backslash and
  leaves every other character as it is.  Query text uses it.
* `quoteVisible` makes every character visible: the usual control characters
  have a letter, and an unprintable or combining character is spelled by its
  code point.  Listings of names use it.
* `quoteBytes` does the same for bytes, of which only ASCII has visible forms.
-/

namespace GraphClient

/-- A character in a literal: a quote or a backslash stands behind a backslash. -/
def escapeLiteral (c : Char) : List Char :=
  if c = '"' ∨ c = '\\' then ['\\', c] else [c]

/-- A text between quotes with quotes and backslashes escaped. -/
def quoteLiteral (text : String) : List Char :=
  '"' :: (text.toList.flatMap escapeLiteral ++ ['"'])

/-- The letter that stands behind a backslash for a character of its own. -/
def escapeLetter? (c : Char) : Option Char :=
  if c = '\x00' then some '0'
  else if c = '\t' then some 't'
  else if c = '\r' then some 'r'
  else if c = '\n' then some 'n'
  else if c = '\\' ∨ c = '"' then some c
  else none

/-- A character in its visible form. -/
def escapeVisible (c : Char) : List Char :=
  match escapeLetter? c with
  | some letter => ['\\', letter]
  | none =>
      if isCombining c || isUnprintable c then
        ['\\', 'u', '\x7b'] ++ Nat.toDigits 16 c.toNat ++ ['\x7d']
      else [c]

/-- A text between quotes with every character in its visible form. -/
def quoteVisible (text : String) : List Char :=
  '"' :: (text.toList.flatMap escapeVisible ++ ['"'])

/-- A byte in its visible form. -/
def escapeByte (b : UInt8) : List Char :=
  let c := Char.ofNat b.toNat
  match escapeLetter? c with
  | some letter => ['\\', letter]
  | none =>
      if 0x20 ≤ b ∧ b < 0x7F then [c]
      else ['\\', 'x', Nat.digitChar (b.toNat / 16), Nat.digitChar (b.toNat % 16)]

/-- A byte string between quotes, marked by a leading `b`. -/
def quoteBytes (bytes : ByteArray) : List Char :=
  'b' :: '"' :: (bytes.toList.flatMap escapeByte ++ ['"'])

end GraphClient
