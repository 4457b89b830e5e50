import SharpLint.Files.Store
import SharpLint.Json.Concrete
import SharpLint.Json.Reader

/-!
# Concrete trees beside their sources

A parser leaves the concrete tree of a source in a file beside it, with an ending added to its name.
-/

namespace SharpLint.Files

/-- What the name of a source is followed by in the name of the file with its tree. -/
def treeEnding : String := ".tree.json"

def treeIn? : Entry → Option Concrete
  | .file (.text document) => (Json.parse? document.source.text).bind Concrete.ofJson?
  | _ => none

def withTree (entries : List (String × Entry)) (name : String) : Entry → Entry
  | .file (.text document) =>
    .file (.text { document with tree := (entries.lookup (name ++ treeEnding)).bind treeIn? })
  | entry => entry

mutual

def Entry.withTrees : Entry → Entry
  | .file contents => .file contents
  | .directory entries => .directory (withTreesIn entries entries)

def withTreesIn (beside : List (String × Entry)) : List (String × Entry) → List (String × Entry)
  | [] => []
  | (name, entry) :: entries =>
    (name, withTree beside name entry.withTrees) :: withTreesIn beside entries

end

end SharpLint.Files
