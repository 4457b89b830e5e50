import SharpLint.Digest
import SharpLint.Issue
import SharpLint.Syntax.Node
import SharpLint.Text.Search

/-!
# Duplicated blocks

Blocks of code are compared by the digest of their canonical form, so layout and comments between
tokens do not matter. Blocks that share a digest form a cluster, and every member of a cluster is
reported.
-/

namespace SharpLint.Check

structure DuplicationLimits where
  minStatements : Nat := 0
  previewCharacters : Nat := 200
deriving DecidableEq, Repr

namespace Duplication

def blockDigest (block : Node) : String := Digest.ofText block.canonicalForm

def isCandidate (minStatements : Nat) (node : Node) : Bool :=
  node.isBlock && minStatements ≤ node.statementCount

def candidates (root : Node) (minStatements : Nat) : List (Node × Nat) :=
  root.numberedDescendants.filter fun (node, _) => isCandidate minStatements node

def addMember {α : Type} (key : String) (member : α) :
    List (String × List α) → List (String × List α)
  | [] => [(key, [member])]
  | (groupKey, members) :: groups =>
    if groupKey = key then (groupKey, members ++ [member]) :: groups
    else (groupKey, members) :: addMember key member groups

/-- The members grouped by key. Groups are in the order of their first members. -/
def groupBy {α : Type} (key : α → String) (members : List α) : List (String × List α) :=
  members.foldl (fun groups member => addMember (key member) member groups) []

def clusters (root : Node) (minStatements : Nat) : List (List (Node × Nat)) :=
  ((groupBy (fun (block, _) => blockDigest block) (candidates root minStatements)).map (·.2)).filter
    (1 < ·.length)

def memberIssue (count : Nat) (snippet : String) (block : Node) : Issue :=
  .violation .duplicateCode s!"Duplicated block ({count} occurrences)"
    "Extract the shared code into a single method" snippet
    [("Occurrences", toString count), ("Block", codeQuoted snippet)] block.span

/-- The findings on a cluster. All of them show its first block. -/
def clusterIssues (limits : DuplicationLimits) (members : List (Node × Nat)) : List Issue :=
  let shown := (members.head?.map fun (block, _) => block.canonicalForm).getD ""
  let snippet := Text.preview shown limits.previewCharacters
  members.map fun (block, _) => memberIssue members.length snippet block

def issues (limits : DuplicationLimits) (root : Node) : List Issue :=
  (clusters root limits.minStatements).flatMap (clusterIssues limits)

end Duplication

end SharpLint.Check
