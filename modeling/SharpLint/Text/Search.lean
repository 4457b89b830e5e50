/-!
# Searching text
-/

namespace SharpLint.Text

def occursIn (part : List Char) : List Char → Bool
  | [] => part.isEmpty
  | c :: cs => part.isPrefixOf (c :: cs) || occursIn part cs

def contains (text part : String) : Bool := occursIn part.toList text.toList

/-- What follows the last occurrence of the character, or everything without one. -/
def afterLast (separator : Char) (cs : List Char) : List Char :=
  (cs.reverse.takeWhile (· != separator)).reverse

/-- A text over the limit is cut. The three dots that mark the cut count towards the limit, but they
follow even where there is no room for them. -/
def preview (text : String) (limit : Nat) : String :=
  if text.toList.length ≤ limit then text
  else String.ofList (text.toList.take (limit - 3)) ++ "..."

end SharpLint.Text
