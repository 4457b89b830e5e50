import SharpLint.Syntax.DocComment
import SharpLint.Text.Blank

/-!
# From concrete trees to syntax trees

Every node of a concrete tree becomes a node of the syntax tree, apart from comments. Tokens, names
and literals become leaves; a name that its declaration introduces is told apart from a use of it.
Declarations collect their modifiers, and without an access modifier of their own get the one their
innermost container implies.
-/

namespace SharpLint

/-- The innermost declaration around a node, which decides the access its members have unless they
say otherwise. -/
inductive Container where
  | topLevel
  | type
  | interface
  | member
deriving DecidableEq, Repr

def Container.impliedAccess? : Container → Option Modifier
  | .topLevel => some .internalAccess
  | .type => some .privateAccess
  | .interface => some .publicAccess
  | .member => none

def Container.inside (container : Container) (grammarKind : String) : Kind → Container
  | .classDecl => .type
  | .interfaceDecl => .interface
  | .methodDecl | .propertyDecl | .fieldDecl => .member
  | _ => if grammarKind = "constructor_declaration" then .member else container

/-- Where a node stands: its container, its siblings before it (the nearest one first), and its
parent with the parent's siblings before it. -/
structure Place where
  container : Container := .topLevel
  before : List Concrete := []
  parent : Option (Concrete.Label × List Concrete) := none

namespace Concrete

def leafKind? (grammarKind : String) : Option Kind :=
  match grammarKind with
  | "identifier" => some .reference
  | "string_literal" | "verbatim_string_literal" | "raw_string_literal" => some .stringLiteral
  | "character_literal" | "integer_literal" | "real_literal" | "boolean_literal" | "null_literal" =>
    some (.other grammarKind)
  | _ => none

def sectionCount (node : Concrete) : Nat :=
  (((node.child? "body").or (node.childOfKind? "switch_body")).map
    (Concrete.countOfKind · "switch_section")).getD 0

def argumentCount (node : Concrete) : Nat :=
  (((node.child? "arguments").or (node.childOfKind? "argument_list")).map
    (Concrete.countOfKind · "argument")).getD 0

def operatorText (source : Source) (node : Concrete) : String :=
  (((node.child? "operator").or (node.children.find? (!isNamed ·))).map source.textOf).getD ""

def calleeText (source : Source) (node : Concrete) : String :=
  ((node.child? "function").map fun callee => Text.squeeze (source.textOf callee)).getD ""

def memberText (source : Source) (node : Concrete) : String :=
  ((node.child? "name").map source.textOf).getD ""

def syntaxKind (source : Source) (node : Concrete) : Kind :=
  match node.kind with
  | "compilation_unit" => .compilationUnit
  | "class_declaration" | "struct_declaration" | "record_declaration"
  | "record_struct_declaration" => .classDecl
  | "interface_declaration" => .interfaceDecl
  | "method_declaration" | "local_function_statement" => .methodDecl
  | "field_declaration" => .fieldDecl
  | "property_declaration" => .propertyDecl
  | "block" => .block
  | "arrow_expression_clause" => .expressionBody
  | "if_statement" => .ifStatement
  | "for_statement" => .forStatement
  | "foreach_statement" | "for_each_statement" => .forEachStatement
  | "while_statement" => .whileStatement
  | "do_statement" => .doStatement
  | "switch_statement" => .switchStatement node.sectionCount
  | "local_declaration_statement" => .localDecl
  | "throw_statement" => .throwStatement
  | "catch_clause" => .catchClause
  | "conditional_expression" => .conditional
  | "binary_expression" => .binary (node.operatorText source)
  | "invocation_expression" => .invocation (node.calleeText source) node.argumentCount
  | "member_access_expression" => .memberAccess (node.memberText source)
  | "interpolated_string_expression" => .interpolatedString
  | other => .other other

def nameField? (grammarKind : String) : Option String :=
  match grammarKind with
  | "class_declaration" | "struct_declaration" | "record_declaration"
  | "record_struct_declaration" | "interface_declaration" | "enum_declaration"
  | "enum_member_declaration" | "delegate_declaration" | "method_declaration"
  | "local_function_statement" | "constructor_declaration" | "destructor_declaration"
  | "property_declaration" | "event_declaration" | "parameter" | "parameter_array"
  | "variable_declarator" | "catch_declaration" | "declaration_expression" | "type_parameter" =>
    some "name"
  | "foreach_statement" | "for_each_statement" => some "left"
  | _ => none

/-- The child, standing after the given siblings, is the name that its parent introduces: the
first child to fill the field for it. -/
def introducesName (parentKind : String) (before : List Concrete) (child : Concrete) : Bool :=
  child.kind = "identifier" &&
    match nameField? parentKind with
    | none => false
    | some field =>
      child.label.field = some field &&
        before.all fun (sibling : Concrete) => sibling.label.field ≠ some field

def token (source : Source) (node : Concrete) : Token :=
  { text := source.textOf node, span := source.spanOf node }

def spelledModifiers (source : Source) (node : Concrete) : List Modifier :=
  node.children.filterMap fun (child : Concrete) =>
    if child.kind = "modifier" || !child.isNamed then
      Modifier.ofKeyword? (String.ofList (Text.trim (source.textOf child).toList))
    else none

/-- The modifiers of a declaration: those it spells out, and the access its container implies if
none of them declares access. A local function has no access. -/
def modifiers (source : Source) (container : Container) (node : Concrete) : List Modifier :=
  let spelled := node.spelledModifiers source
  let implied :=
    if node.kind = "local_function_statement" || spelled.any (·.isAccess) then none
    else container.impliedAccess?
  Modifier.setOf (spelled ++ implied.toList)

def parameterNames (source : Source) (node : Concrete) : List Token :=
  match (node.child? "parameters").or (node.childOfKind? "parameter_list") with
  | none => []
  | some list =>
    (namedChildren list).filterMap fun (parameter : Concrete) =>
      if parameter.kind = "parameter" || parameter.kind = "parameter_array" then
        ((parameter.child? "name").or (parameter.lastChildOfKind? "identifier")).map
          (Concrete.token source)
      else none

def declaredNames (source : Source) (node : Concrete) : List Token :=
  match node.childOfKind? "variable_declaration" with
  | none => []
  | some declaration =>
    (namedChildren declaration).filterMap fun (declarator : Concrete) =>
      if declarator.kind = "variable_declarator" then
        ((declarator.child? "name").or (declarator.childOfKind? "identifier")).map
          (Concrete.token source)
      else none

/-- The doc comment above a declaration. A function at the top level stands inside a statement of
its own, and the comment above that. -/
def docComment? (source : Source) (place : Place) (node : Concrete) : Option Token :=
  match place.parent with
  | some (parent, before) =>
    if parent.kind = "global_statement" then DocComment.above? source parent.start before
    else DocComment.above? source node.label.start place.before
  | none => DocComment.above? source node.label.start place.before

def declarationLabel (source : Source) (place : Place) (kind : Kind) (node : Concrete) :
    Node.Label :=
  { kind
    span := source.spanOf node
    modifiers := node.modifiers source place.container
    identifier := (node.child? "name").map (Concrete.token source)
    docComment := node.docComment? source place }

def syntaxLabel (source : Source) (place : Place) (node : Concrete) : Node.Label :=
  let kind := node.syntaxKind source
  let span := source.spanOf node
  match kind with
  | .classDecl | .interfaceDecl | .propertyDecl => node.declarationLabel source place kind
  | .methodDecl =>
    { node.declarationLabel source place kind with parameters := node.parameterNames source }
  | .fieldDecl =>
    let declarators := node.declaredNames source
    { node.declarationLabel source place kind with declarators, identifier := declarators.head? }
  | .localDecl => { kind, span, declarators := node.declaredNames source }
  | .catchClause =>
    let declaration := node.childOfKind? "catch_declaration"
    { kind, span
      declaredType := (declaration.bind (Concrete.child? · "type")).map (Concrete.token source)
      identifier := (declaration.bind (Concrete.child? · "name")).map (Concrete.token source) }
  | .interpolatedString => { kind, span, text := some (source.textOf node) }
  | _ => { kind, span }

mutual

def convert (source : Source) (place : Place) : Concrete → Node
  | .node label children =>
    let node : Concrete := .node label children
    if !label.named then .leaf .token (source.spanOf node) (source.textOf node)
    else
      match leafKind? label.kind with
      | some kind => .leaf kind (source.spanOf node) (source.textOf node)
      | none =>
        if children.isEmpty then
          .leaf (node.syntaxKind source) (source.spanOf node) (source.textOf node)
        else
          .node (node.syntaxLabel source place)
            (convertAll source label place.before
              (place.container.inside label.kind (node.syntaxKind source)) [] children)

def convertAll (source : Source) (parent : Concrete.Label) (parentBefore : List Concrete)
    (container : Container) (before : List Concrete) : List Concrete → List Node
  | [] => []
  | child :: rest =>
    let converted := convertAll source parent parentBefore container (child :: before) rest
    if child.isComment then converted
    else if child.introducesName parent.kind before then
      .leaf .declarationName (source.spanOf child) (source.textOf child) :: converted
    else
      convert source { container, before, parent := some (parent, parentBefore) } child :: converted

end

end Concrete

end SharpLint
