import SharpLint.Source
import SharpLint.Tree

/-!
# Concrete trees

The parser's tree over a source: every token is a node, comments included. A node knows its kind in
the grammar, the field it fills in its parent and its bytes, and whether the parser had to invent
it (`missing`), skipped over it (`erroneous`), or met such a place in it (`flawed`).
-/

namespace SharpLint

structure Concrete.Label where
  kind : String
  named : Bool
  missing : Bool := false
  erroneous : Bool := false
  flawed : Bool := false
  field : Option String := none
  start : Nat
  stop : Nat
deriving DecidableEq, Repr

abbrev Concrete := Tree Concrete.Label

namespace Concrete

def kind (node : Concrete) : String := node.label.kind

def isNamed (node : Concrete) : Bool := node.label.named

def isComment (node : Concrete) : Bool := node.kind = "comment"

def namedChildren (node : Concrete) : List Concrete := node.children.filter isNamed

def child? (node : Concrete) (field : String) : Option Concrete :=
  node.children.find? fun (child : Concrete) => child.label.field = some field

def childOfKind? (node : Concrete) (kind : String) : Option Concrete :=
  node.namedChildren.find? (Concrete.kind · = kind)

def lastChildOfKind? (node : Concrete) (kind : String) : Option Concrete :=
  (node.namedChildren.filter (Concrete.kind · = kind)).getLast?

def countOfKind (node : Concrete) (kind : String) : Nat :=
  node.namedChildren.countP (Concrete.kind · = kind)

end Concrete

namespace Source

def textOf (source : Source) (node : Concrete) : String :=
  source.slice node.label.start node.label.stop

def spanOf (source : Source) (node : Concrete) : Span :=
  source.span node.label.start node.label.stop

end Source

end SharpLint
