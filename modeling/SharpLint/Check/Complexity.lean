import SharpLint.Issue
import SharpLint.Syntax.Node

/-!
# Cyclomatic complexity

The complexity of a method is one more than the decision points in its body: branches, loops,
sections of switches, catch clauses, conditional expressions and short-circuit operators.
-/

namespace SharpLint.Check

/-- Up to `lowThreshold` a method is simple; above `maxComplexity` it fails. -/
structure ComplexityLimits where
  maxComplexity : Nat := 10
  lowThreshold : Nat := 5
deriving DecidableEq, Repr

namespace Complexity

inductive Level where
  | low
  | medium
  | high
deriving DecidableEq, Repr

def Level.name : Level → String
  | low => "low"
  | medium => "medium"
  | high => "high"

def classify (limits : ComplexityLimits) (complexity : Nat) : Level :=
  if complexity ≤ limits.lowThreshold then .low
  else if complexity ≤ limits.maxComplexity then .medium
  else .high

def decisionPoints : Kind → Nat
  | .ifStatement | .forStatement | .forEachStatement | .whileStatement | .doStatement
  | .catchClause | .conditional => 1
  | .switchStatement sections => sections
  | .binary operator => if operator = "&&" || operator = "||" then 1 else 0
  | _ => 0

def cyclomatic (body : Node) : Nat :=
  body.descendants.foldr (fun (node : Node) points => decisionPoints node.kind + points) 1 %
    UInt64.size

def methodIssue (limits : ComplexityLimits) (method body : Node) : Issue :=
  let complexity := cyclomatic body
  let level := classify limits complexity
  let name := method.name
  let verdict :=
    if level = .high then s!"exceeds the threshold ({limits.maxComplexity})"
    else "within the threshold"
  let finding := Issue.note .cyclomaticComplexity
    s!"Method '{name}' has complexity {complexity} ({level.name})" name
    [("Method", codeQuoted name), ("Complexity", s!"{complexity} ({level.name})"),
     ("Verdict", verdict)]
    method.anchor
  if level = .high then
    finding.failing
      s!"Split '{name}' into smaller methods to bring complexity to {limits.maxComplexity} or below"
  else finding

def issues (limits : ComplexityLimits) (root : Node) : List Issue :=
  root.methods.filterMap fun (method : Node) => method.body?.map (methodIssue limits method)

end Complexity

end SharpLint.Check
