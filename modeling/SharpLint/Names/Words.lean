import SharpLint.Text.Alphanumeric
import SharpLint.Text.CaseMapping

/-!
# Words of a name and case styles

A name is split into words: a capital starts a new word, small letters and digits extend the
current one, and any other character ends it. `isPascalCase` and `isCamelCase` classify a name,
`toPascalCase` and `toCamelCase` spell it anew word by word.
-/

namespace SharpLint.Names

def closeWord : List Char → List (List Char)
  | [] => []
  | current => [current.reverse]

/-- The words of `cs`, the first of which continues the word collected in reverse so far. -/
def wordsAfter (current : List Char) : List Char → List (List Char)
  | [] => closeWord current
  | c :: cs =>
    if !Text.isAlphanumeric c then closeWord current ++ wordsAfter [] cs
    else if Text.isUppercase c then closeWord current ++ wordsAfter [c] cs
    else wordsAfter (c :: current) cs

def words (name : List Char) : List (List Char) := wordsAfter [] name

def wordsOf (name : String) : List String := (words name.toList).map String.ofList

def startsWith (condition : Char → Bool) (word : List Char) : Bool :=
  (word.head?.map condition).getD false

def isPascalCase (name : String) : Bool :=
  startsWith Text.isUppercase name.toList && name.toList.all Text.isAlphanumeric &&
    (words name.toList).all (startsWith Text.isUppercase)

def isCamelCase (name : String) : Bool :=
  startsWith Text.isLowercase name.toList && name.toList.all Text.isAlphanumeric &&
    (words name.toList).tail.all (startsWith Text.isUppercase)

def capitalize : List Char → List Char
  | [] => []
  | c :: cs => Text.upper c ++ cs.flatMap Text.lower

/-- The name as capitalised words; a name without words stays as it is. -/
def toPascalCase (name : String) : String :=
  match words name.toList with
  | [] => name
  | words => String.ofList (words.flatMap capitalize)

def toCamelCase (name : String) : String :=
  match words name.toList with
  | [] => name
  | first :: rest => String.ofList (Text.lowercaseAfter [] first ++ rest.flatMap capitalize)

end SharpLint.Names
