/-!
# Texts up to letter case

Two texts agree up to letter case when they differ at most in the case of the
letters `a` to `z`.  Characters outside that alphabet have to be the same.
-/

namespace GraphClient

/-- The characters of a text with the letters `A` to `Z` in lower case. -/
def lowered (text : String) : List Char := text.toList.map Char.toLower

/-- Whether two texts agree up to the case of the letters `a` to `z`. -/
def agreesUpToCase (s t : String) : Bool := lowered s == lowered t

end GraphClient
