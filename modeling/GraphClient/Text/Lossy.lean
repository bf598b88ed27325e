/-!
# Bytes read as text

Bytes that need not be UTF-8 can still be read as a text.  At each position stands
either a character in UTF-8 or an ill-formed piece, and in place of each piece the text
has one replacement character.

A piece is as long as a character could begin with it, and has at least one byte.
-/

namespace GraphClient

/-- The character that the text has in place of an ill-formed piece. -/
def replacement : Char := '\uFFFD'

/-- First and second bytes of the characters of three and of four bytes, as closed ranges. -/
def longStarts : List ((UInt8 × UInt8) × (UInt8 × UInt8)) :=
  [((0xE0, 0xE0), (0xA0, 0xBF)), ((0xE1, 0xEC), (0x80, 0xBF)), ((0xED, 0xED), (0x80, 0x9F)),
   ((0xEE, 0xEF), (0x80, 0xBF)), ((0xF0, 0xF0), (0x90, 0xBF)), ((0xF1, 0xF3), (0x80, 0xBF)),
   ((0xF4, 0xF4), (0x80, 0x8F))]

/-- Whether a character of three or of four bytes begins with two given bytes. -/
def startsLong (first second : UInt8) : Bool :=
  longStarts.any fun (firsts, seconds) =>
    firsts.1 ≤ first && first ≤ firsts.2 && seconds.1 ≤ second && second ≤ seconds.2

/-- Whether a byte can be the third or the fourth of a character. -/
def follows (byte : UInt8) : Bool := 0x80 ≤ byte && byte ≤ 0xBF

/-- The number of bytes of the ill-formed piece at a position. -/
def pieceLength (bytes : ByteArray) (start : Nat) : Nat :=
  match bytes[start]?, bytes[start + 1]? with
  | some first, some second =>
      if startsLong first second then
        -- With a third byte a character of three bytes would be whole.
        if 0xF0 ≤ first && bytes[start + 2]?.any follows then 3 else 2
      else 1
  | _, _ => 1

theorem pieceLength_pos (bytes : ByteArray) (start : Nat) : 0 < pieceLength bytes start := by
  unfold pieceLength
  split
  · split
    · split <;> decide
    · decide
  · decide

/-- The characters that bytes are read as, from a position on. -/
def lossyChars (bytes : ByteArray) (start : Nat) : List Char :=
  if _hStart : start < bytes.size then
    match bytes.utf8DecodeChar? start with
    | some c => c :: lossyChars bytes (start + c.utf8Size)
    | none => replacement :: lossyChars bytes (start + pieceLength bytes start)
  else []
termination_by bytes.size - start
decreasing_by
  · have hPositive := c.utf8Size_pos
    omega
  · have hPositive := pieceLength_pos bytes start
    omega

/-- The text that bytes are read as. -/
def lossyText (bytes : ByteArray) : String := String.ofList (lossyChars bytes 0)

example : lossyText ⟨#[0x48, 0xF0, 0x90, 0x80, 0x57]⟩ = "H\uFFFDW" := by decide +kernel

example : lossyText ⟨#[0xE2, 0x82, 0x41, 0xC3, 0xED, 0xA0, 0x80]⟩ =
    "\uFFFDA\uFFFD\uFFFD\uFFFD\uFFFD" := by
  decide +kernel

end GraphClient
