/-!
# Listings

The brackets, commas and names with which listings put parts together.  A part
is a list of characters.
-/

namespace GraphClient

def integerDigits (n : Int) : List Char := (toString n).toList

/-- Parts with a comma and a blank between them. -/
def commaSeparated (parts : List (List Char)) : List Char :=
  List.intercalate [',', ' '] parts

/-- Parts with commas alone between them. -/
def joinedByCommas (parts : List (List Char)) : List Char := List.intercalate [','] parts

def bracketed (parts : List (List Char)) : List Char :=
  '[' :: (commaSeparated parts ++ [']'])

def braced (parts : List (List Char)) : List Char :=
  '\x7b' :: (commaSeparated parts ++ ['\x7d'])

/-- A name, an equals sign and what stands for the name. -/
def assigned (name : String) (content : List Char) : List Char :=
  name.toList ++ '=' :: content

/-- A name, a colon with a blank, and what stands for the name. -/
def named (name : String) (content : List Char) : List Char :=
  name.toList ++ ':' :: ' ' :: content

/-- A form with its named parts between braces, and blanks inside the braces. -/
def formListing (form : String) (parts : List (List Char)) : List Char :=
  form.toList ++ ' ' :: '\x7b' :: ' ' :: (commaSeparated parts ++ [' ', '\x7d'])

end GraphClient
