/-!
# Paths

A path is a text of names with slashes between them. A dot stands for the directory it is in, two
dots for the one above, and repeated slashes count as one.
-/

namespace SharpLint.Files

def splitAtSlashes : List Char → List (List Char)
  | [] => [[]]
  | c :: cs =>
    if c = '/' then [] :: splitAtSlashes cs
    else
      match splitAtSlashes cs with
      | [] => [[c]]
      | part :: parts => (c :: part) :: parts

def segments (path : String) : List String :=
  (splitAtSlashes path.toList).map String.ofList

def isHere (segment : String) : Bool := segment = "" || segment = "."

def components (path : String) : List String := (segments path).filter (!isHere ·)

def lastSegment? (path : String) : Option (List String × String) :=
  match (segments path).reverse.dropWhile (· = "") with
  | [] => none
  | last :: before => some (before.reverse, last)

/-- A path that ends in a slash, so that only a directory can be there. -/
def endsInSlash (path : String) : Bool := path.toList.getLast? = some '/'

def isAbsolute (path : String) : Bool := path.toList.head? = some '/'

def join (directory name : String) : String :=
  if directory.toList.getLast?.all (· = '/') then directory ++ name
  else directory ++ "/" ++ name

def joinNames (names : List String) : String := "/".intercalate names

/-- The paths of what the parts, the last one first, lead to and through, without the directory in
which they start. A dot counts only as the first part. -/
def pathsAlong : List String → List String
  | [] => []
  | [first] => if first = "" then [] else [first]
  | segment :: before =>
    if isHere segment then pathsAlong before
    else joinNames (segment :: before).reverse :: pathsAlong before

def parents (path : String) : List String := (pathsAlong (segments path).reverse).tail

def extension? (name : String) : Option String :=
  let characters := name.toList
  let extension := (characters.reverse.takeWhile (· != '.')).reverse
  if characters.length ≤ extension.length + 1 then none else some (String.ofList extension)

end SharpLint.Files
