import SharpLint.Issue
import SharpLint.Syntax.Node
import SharpLint.Text.Search

/-!
# Unused declarations

A declared name is used when its scope holds a reference with the same text. Locals and parameters
have the body of their method as scope; private fields and methods the whole source, and a method
is also used when it is called.
-/

namespace SharpLint.Check.Unused

/-- What is left of a callee up to its first bracket, without the qualifiers before that. -/
def calledName (callee : String) : String :=
  String.ofList (Text.afterLast '.' (callee.toList.takeWhile (· != '<')))

def isCalled (root : Node) (name : String) : Bool :=
  root.descendants.any fun (node : Node) =>
    match node.kind with
    | .invocation callee _ => calledName callee = name
    | _ => false

def dead (rule : Rule) (token : Token) (description suggestion : String) : Issue :=
  .violation rule description suggestion token.text [("Symbol", codeQuoted token.text)] token.span

mutual

/-- Every node of a tree in pre-order with the scope of its locals: the body of the innermost
method around it, or the given scope outside of methods with a body. -/
def withScopes (scope : Node) : Node → List (Node × Node)
  | .node label children =>
    let node : Node := .node label children
    let inner := if node.isMethod then node.body?.getD scope else scope
    (node, scope) :: withScopesAll inner children

def withScopesAll (scope : Node) : List Node → List (Node × Node)
  | [] => []
  | tree :: trees => withScopes scope tree ++ withScopesAll scope trees

end

def localIssues (root : Node) : List Issue :=
  (withScopesAll root root.children).flatMap fun (node, scope) =>
    if node.kind = .localDecl then
      (node.label.declarators.filter fun token =>
        token.text != "_" && !scope.references token.text).map fun token =>
          dead .unusedLocal token s!"Local variable '{token.text}' is never used"
            "Remove the variable or use it"
    else []

def parameterIssues (method : Node) : List Issue :=
  match method.body? with
  | none => []
  | some body =>
    (method.label.parameters.filter fun token =>
      token.text != "_" && !body.references token.text).map fun token =>
        dead .unusedParameter token
          s!"Parameter '{token.text}' of method '{method.name}' is never used"
          "Remove the parameter or use it"

def fieldIssues (root field : Node) : List Issue :=
  (field.label.declarators.filter fun token => !root.references token.text).map fun token =>
    dead .unusedPrivateField token s!"Private field '{token.text}' is never used"
      "Remove the field or use it"

def methodIssues (root method : Node) : List Issue :=
  match method.label.identifier with
  | none => []
  | some token =>
    if isCalled root token.text || root.references token.text then []
    else
      [dead .unusedPrivateMethod token s!"Private method '{token.text}' is never used"
        "Remove the method or call it"]

def privateOfKind (root : Node) (kind : Kind) : List Node :=
  root.descendants.filter fun (node : Node) => node.kind = kind && node.isPrivate

def issues (root : Node) : List Issue :=
  localIssues root ++ root.methods.flatMap parameterIssues ++
    (privateOfKind root .fieldDecl).flatMap (fieldIssues root) ++
    (privateOfKind root .methodDecl).flatMap (methodIssues root)

end SharpLint.Check.Unused
