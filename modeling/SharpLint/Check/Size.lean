import SharpLint.Issue
import SharpLint.Syntax.Node

/-!
# Size of methods
-/

namespace SharpLint.Check

structure SizeLimits where
  maxLines : Nat := 50
  maxParameters : Nat := 5
deriving DecidableEq, Repr

namespace Size

def lineCount (method : Node) : Nat :=
  (((method.body?.map (·.span.endLine)).getD method.span.startLine) - method.span.startLine + 1) %
    UInt64.size

def methodIssues (limits : SizeLimits) (method : Node) : List Issue :=
  let name := method.name
  let lines := lineCount method
  let parameters := method.label.parameters.length
  let facts :=
    [("Method", codeQuoted name), ("Lines", s!"{lines} (max {limits.maxLines})"),
     ("Parameters", s!"{parameters} (max {limits.maxParameters})")]
  (if limits.maxLines < lines then
      [Issue.violation .methodTooLong s!"Method '{name}' has {lines} lines (> {limits.maxLines})"
        "Split the method into smaller methods" name facts method.anchor]
    else []) ++
  (if limits.maxParameters < parameters then
      [Issue.violation .tooManyParameters
        s!"Method '{name}' has {parameters} parameters (> {limits.maxParameters})"
        "Group related parameters into a record or options type" name facts method.anchor]
    else [])

def issues (limits : SizeLimits) (root : Node) : List Issue :=
  root.methods.flatMap (methodIssues limits)

end Size

end SharpLint.Check
