import SharpLint.Syntax.Concrete
import SharpLint.Syntax.Node

/-!
# Doc comments

The comment attached to a declaration: the longest run of doc comments directly above it, with no
blank line inside the run or below it.
-/

namespace SharpLint.DocComment

def isDoc (text : String) : Bool :=
  "///".toList.isPrefixOf text.toList || "/**".toList.isPrefixOf text.toList

/-- The run of doc comments that ends right above a line. The siblings before it are listed from
the nearest one backwards, and so is the run. -/
def run (source : Source) (line : Nat) : List Concrete → List Concrete
  | [] => []
  | previous :: earlier =>
    if previous.isComment && isDoc (source.textOf previous) &&
        line - source.lineAt previous.label.stop ≤ 1 then
      previous :: run source (source.lineAt previous.label.start) earlier
    else []

def ofRun? (source : Source) (comments : List Concrete) : Option Token :=
  match comments.getLast?, comments.head? with
  | some first, some last =>
    some
      { text := "\n".intercalate (comments.reverse.map source.textOf)
        span := (source.spanOf first).cover (source.spanOf last) }
  | _, _ => none

/-- The doc comment above the byte offset where a declaration starts, given its siblings before
it, the nearest one first. -/
def above? (source : Source) (start : Nat) (before : List Concrete) : Option Token :=
  ofRun? source (run source (source.lineAt start) before)

end SharpLint.DocComment
