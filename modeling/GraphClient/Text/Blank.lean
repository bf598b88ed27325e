/-!
# Blank characters

The blank characters are the 25 code points of the Unicode property
`White_Space`.  Trimming drops them at both ends of a text, and the first word
of a text is what stands before the first blank after trimming on the left.
-/

namespace GraphClient

/-- Whether a code point lies in one of the closed ranges. -/
def inRanges (ranges : List (Nat × Nat)) (point : Nat) : Bool :=
  ranges.any fun range => range.1 ≤ point && point ≤ range.2

/-- Whether closed ranges are not empty, ascending and apart. -/
def ascending : List (Nat × Nat) → Bool
  | [] => true
  | [range] => range.1 ≤ range.2
  | range :: next :: rest => range.1 ≤ range.2 && range.2 + 1 < next.1 && ascending (next :: rest)

/-- The blank code points as closed ranges, ascending and apart. -/
def blankRanges : List (Nat × Nat) :=
  [(0x09, 0x0D), (0x20, 0x20), (0x85, 0x85), (0xA0, 0xA0), (0x1680, 0x1680),
   (0x2000, 0x200A), (0x2028, 0x2029), (0x202F, 0x202F), (0x205F, 0x205F), (0x3000, 0x3000)]

def isBlank (c : Char) : Bool := inRanges blankRanges c.toNat

example : ascending blankRanges = true := by decide

example : (blankRanges.map fun range => range.2 + 1 - range.1).sum = 25 := by decide

/-- The characters left after dropping blanks at both ends. -/
def trimChars (s : List Char) : List Char :=
  ((s.dropWhile isBlank).reverse.dropWhile isBlank).reverse

def trim (text : String) : String := String.ofList (trimChars text.toList)

/-- The first run of characters that are not blank; empty if there is none. -/
def firstWord (text : String) : String :=
  String.ofList ((text.toList.dropWhile isBlank).takeWhile fun c => !isBlank c)

end GraphClient
