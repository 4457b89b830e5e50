/-!
# Placeholders in strings

A placeholder is a name right after an opening brace and right before a closing brace, a colon or a
comma, as in `{name}`, `{name:format}` and `{name,width}`. Two opening braces in a row stand for a
brace and start no placeholder.
-/

namespace SharpLint.Names

def isPlaceholderCharacter (c : Char) : Bool := c.isAlphanum || c = '_'

/-- The name right after an opening brace, if it is one and ends as a placeholder does. -/
def placeholderAt? (cs : List Char) : Option String :=
  let name := cs.takeWhile isPlaceholderCharacter
  match name, cs.dropWhile isPlaceholderCharacter with
  | first :: _, stop :: _ =>
    if !first.isDigit && (stop = '\x7d' || stop = ':' || stop = ',') then some (String.ofList name)
    else none
  | _, _ => none

def placeholdersIn : List Char → List String
  | [] => []
  | '\x7b' :: '\x7b' :: cs => placeholdersIn cs
  | '\x7b' :: cs => (placeholderAt? cs).toList ++ placeholdersIn cs
  | _ :: cs => placeholdersIn cs

def placeholdersOf (text : String) : List String := placeholdersIn text.toList

end SharpLint.Names
