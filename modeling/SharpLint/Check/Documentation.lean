import SharpLint.Issue
import SharpLint.Syntax.Node
import SharpLint.Text.Search
import SharpLint.Text.WordCharacter

/-!
# Documentation

Interfaces and public classes, methods and properties need a doc comment, and that of a method a
tag for every parameter. The last finding is the score: how many of them are documented.
-/

namespace SharpLint.Check.Documentation

def isSurface (node : Node) : Bool :=
  match node.kind with
  | .interfaceDecl => true
  | .classDecl | .methodDecl | .propertyDecl => node.isPublic
  | _ => false

def parameterTag (name : String) : String := s!"<param name=\"{name}\""

def undocumentedParameters (node : Node) (comment : String) : List String :=
  if node.isMethod then
    (node.label.parameters.map (·.text)).filter fun name =>
      !Text.contains comment (parameterTag name)
  else []

def hasReminder (comment : String) : Bool :=
  Text.hasWholeWord "TODO" comment || Text.hasWholeWord "FIXME" comment

/-- What the declaration is called in findings: at the start of a sentence, and inside one. -/
def described (kind : Kind) : String × String :=
  match kind with
  | .classDecl => ("Class", "class")
  | .interfaceDecl => ("Interface", "interface")
  | .methodDecl => ("Method", "method")
  | _ => ("Property", "property")

def isDocumented (node : Node) : Bool :=
  match node.label.docComment with
  | none => false
  | some comment => (undocumentedParameters node comment.text).isEmpty

def nodeIssue? (node : Node) : Option Issue :=
  let (subject, noun) := described node.kind
  let name := node.name
  let facts := [("Declaration", s!"{noun} `{name}`")]
  match node.label.docComment with
  | none =>
    some (.violation .missingDocumentation s!"{subject} '{name}' has no documentation comment."
      "Add a /// <summary> block above the declaration" name facts node.anchor)
  | some comment =>
    match undocumentedParameters node comment.text with
    | [] =>
      if hasReminder comment.text then
        some (.note .documentationNote s!"{subject} '{name}' documentation contains TODO/FIXME"
          name facts node.anchor)
      else none
    | missing =>
      let sentences := missing.map fun parameter => s!" Parameter '{parameter}' undocumented."
      let tags := missing.map fun parameter => parameterTag parameter ++ ">"
      some (.violation .incompleteDocumentation
        (s!"{subject} '{name}' documentation is incomplete." ++ String.join sentences ++
          if hasReminder comment.text then " Contains TODO/FIXME." else "")
        ("Add " ++ ", ".intercalate tags) name facts node.anchor)

def score (documented total : Nat) : Issue :=
  let finding : Issue :=
    { rule := .documentationScore
      description := s!"Documented items: {documented}/{total}"
      detail := some
        s!"**{Rule.documentationScore.title}**: {documented}/{total} items documented" }
  if documented = total then finding
  else finding.failing "Document the remaining public declarations"

def issues (root : Node) : List Issue :=
  let surface := root.descendants.filter isSurface
  surface.filterMap nodeIssue? ++ [score (surface.countP isDocumented) surface.length]

end SharpLint.Check.Documentation
