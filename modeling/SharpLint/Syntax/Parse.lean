import SharpLint.Syntax.Conversion

/-!
# Parsing

The parser proper is not part of this library: it hands over a concrete tree. Parsing takes that
tree, refuses it at the first place where the source is no C# unless partial trees are allowed, and
converts it.
-/

namespace SharpLint

inductive ParseError where
  | grammar (language message : String)
  | noTree
  | malformed (position : Position) (message : String)
deriving DecidableEq, Repr

namespace ParseError

def message : ParseError → String
  | grammar language message => s!"failed to load {language} grammar: {message}"
  | noTree => "parser did not produce a syntax tree"
  | malformed position message =>
    s!"syntax error at line {position.line}, column {position.column}: {message}"

def position? : ParseError → Option Position
  | malformed position _ => some position
  | _ => none

end ParseError

namespace Concrete

/-- The parser invented the node or skipped over it. -/
def isFault (node : Concrete) : Bool := node.label.missing || node.label.erroneous

/-- The first fault in pre-order, looking only into nodes that are flawed. -/
def firstFault? (root : Concrete) : Option Concrete :=
  let walk : Tree.Walk Concrete.Label :=
    { enters := fun node => node.label.flawed, pending := [root] }
  walk.toList.find? isFault

def shownCharacters : Nat := 40

def faultMessage (source : Source) (node : Concrete) : String :=
  if node.label.missing then s!"missing `{node.kind}`"
  else
    let shown := (Text.trim (source.textOf node).toList).take shownCharacters
    s!"unexpected `{String.ofList shown}`"

/-- The error of a flawed tree. A flaw that no node shows is reported at the start. -/
def faultError (source : Source) (root : Concrete) : ParseError :=
  match firstFault? root with
  | some node => .malformed (source.position node.label.start) (faultMessage source node)
  | none => .malformed ⟨1, 1⟩ "syntax error"

end Concrete

structure Document where
  source : Source
  tree : Option Concrete := none

def Document.parse (document : Document) (allowPartial : Bool) : Except ParseError Node :=
  match document.tree with
  | none => .error .noTree
  | some root =>
    if root.label.flawed && !allowPartial then .error (root.faultError document.source)
    else .ok (root.convert document.source {})

def languageName : String := "csharp"

def sourceExtensions : List String := ["cs"]

end SharpLint
