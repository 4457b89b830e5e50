import SharpLint.Source
import SharpLint.Syntax.Kind
import SharpLint.Syntax.Modifier
import SharpLint.Tree

/-!
# The syntax tree

The tree the checks walk. Comments and layout are not part of it. Only what means something for a
kind is filled in: declarations have an identifier, modifiers and a doc comment, methods also
parameters; declarations of fields and locals list the identifiers of their declarators; a catch
clause has the caught type and, as its identifier, the caught variable. Leaves have text.
-/

namespace SharpLint

structure Token where
  text : String
  span : Span
deriving DecidableEq, Repr

structure Node.Label where
  kind : Kind
  span : Span := {}
  modifiers : List Modifier := []
  identifier : Option Token := none
  parameters : List Token := []
  declarators : List Token := []
  declaredType : Option Token := none
  docComment : Option Token := none
  text : Option String := none
deriving DecidableEq, Repr

abbrev Node := Tree Node.Label

namespace Node

def leaf (kind : Kind) (span : Span) (text : String) : Node :=
  .node { kind, span, text := some text } []

def kind (node : Node) : Kind := node.label.kind

def span (node : Node) : Span := node.label.span

def text (node : Node) : Option String := node.label.text

def name (node : Node) : String := (node.label.identifier.map (·.text)).getD ""

/-- Where to point for this node: at its identifier if it has one. -/
def anchor (node : Node) : Span := (node.label.identifier.map (·.span)).getD node.span

def hasModifier (node : Node) (modifier : Modifier) : Bool := modifier ∈ node.label.modifiers

def isPublic (node : Node) : Bool := node.hasModifier .publicAccess

def isPrivate (node : Node) : Bool := node.hasModifier .privateAccess

def isMethod (node : Node) : Bool := node.kind = .methodDecl

def isBlock (node : Node) : Bool := node.kind = .block

def isBody (node : Node) : Bool := node.kind = .block || node.kind = .expressionBody

def isConstruct (node : Node) : Bool := node.kind ≠ .token

def body? (node : Node) : Option Node := node.children.find? isBody

def block? (node : Node) : Option Node := node.children.find? isBlock

def operand? (node : Node) : Option Node := node.children.find? isConstruct

def statementCount (node : Node) : Nat := node.children.countP isConstruct

def methods (root : Node) : List Node := root.descendants.filter isMethod

def tokens (node : Node) : List String :=
  let walk : Tree.Walk Node.Label := { enters := fun node => (text node).isNone, pending := [node] }
  walk.toList.filterMap text

/-- The text with a token written after it, one space apart unless there is no text yet. -/
def writeToken (written token : String) : String :=
  if written.isEmpty then token else written ++ " " ++ token

def canonicalForm (node : Node) : String := node.tokens.foldl writeToken ""

def references (scope : Node) (name : String) : Bool :=
  scope.descendants.any fun (node : Node) => node.kind = .reference && node.text = some name

end Node

end SharpLint
