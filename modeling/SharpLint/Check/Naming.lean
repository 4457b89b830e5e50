import SharpLint.Issue
import SharpLint.Names.Keywords
import SharpLint.Names.Placeholder
import SharpLint.Names.Words
import SharpLint.Syntax.Node

/-!
# Naming conventions

Types and methods are PascalCase, parameters camelCase, private fields camelCase after an
underscore. Keywords are exempt. Every violation proposes a new name.
-/

namespace SharpLint.Check.Naming

open SharpLint.Names

/-- The name of a token without the mark that lets a keyword serve as a name. -/
def bareName (token : Token) : String := String.ofList (token.text.toList.dropWhile (· == '@'))

def rename (rule : Rule) (token : Token) (description replacement : String) : Issue :=
  .violation rule description s!"Rename to '{replacement}'" token.text
    [("Identifier", codeQuoted token.text), ("Suggested name", codeQuoted replacement)] token.span

def typeIssues (keywords : KeywordTable) (node : Node) : List Issue :=
  match node.label.identifier with
  | none => []
  | some token =>
    let name := bareName token
    if keywords.contains name || isPascalCase name then []
    else
      let (rule, what) :=
        if node.kind = .interfaceDecl then (Rule.interfacePascalCase, "Interface")
        else (Rule.classPascalCase, "Class")
      [rename rule token s!"{what} '{name}' must be PascalCase" (toPascalCase name)]

def methodNameIssues (keywords : KeywordTable) (node : Node) : List Issue :=
  match node.label.identifier with
  | none => []
  | some token =>
    let name := bareName token
    (if keywords.contains name || isPascalCase name then []
      else
        [rename .methodPascalCase token s!"Method '{name}' must be PascalCase"
          (toPascalCase name)]) ++
    (if node.hasModifier .async && !"Async".toList.isSuffixOf name.toList then
        [rename .asyncSuffix token s!"Async method '{name}' must end with 'Async'"
          (name ++ "Async")]
      else [])

/-- The name of a parameter. A lone underscore, or several, marks a parameter nobody uses. -/
def parameterIssues (keywords : KeywordTable) (parameter : Token) : List Issue :=
  let name := bareName parameter
  if startsWith (· == '_') name.toList then
    match name.toList.dropWhile (· == '_') with
    | [] => []
    | stripped =>
      [rename .parameterUnderscore parameter s!"Parameter '{name}' must not start with '_'"
        (toCamelCase (String.ofList stripped))]
  else if keywords.contains name || isCamelCase name then []
  else
    [rename .parameterCamelCase parameter s!"Parameter '{name}' must be camelCase"
      (toCamelCase name)]

def bodyPlaceholders (body : Node) : List String :=
  body.descendants.flatMap fun (literal : Node) =>
    if literal.kind = .stringLiteral || literal.kind = .interpolatedString then
      (literal.text.map placeholdersOf).getD []
    else []

def sameIgnoringCase (a b : String) : Bool :=
  a.toList.map Char.toLower == b.toList.map Char.toLower

def shownParameter? (parameters : List Token) (placeholder : String) : Option Nat :=
  parameters.findIdx? fun parameter => sameIgnoringCase (bareName parameter) placeholder

/-- The parameters that strings in the body show to the user under a name that is not
camelCase. -/
def placeholderIssues (keywords : KeywordTable) (node : Node) : List Issue :=
  match node.body? with
  | none => []
  | some body =>
    let parameters := node.label.parameters
    let shown := (bodyPlaceholders body).filterMap (shownParameter? parameters)
    parameters.zipIdx.filterMap fun (parameter, index) =>
      let name := bareName parameter
      if !shown.contains index || name == "_" || keywords.contains name || isCamelCase name then
        none
      else
        some (rename .placeholderParameter parameter
          s!"Parameter '{name}' is used in a string placeholder but is not camelCase"
          (toCamelCase name))

def methodIssues (keywords : KeywordTable) (node : Node) : List Issue :=
  methodNameIssues keywords node ++ node.label.parameters.flatMap (parameterIssues keywords) ++
    placeholderIssues keywords node

def fieldNameIssues (keywords : KeywordTable) (isPrivate : Bool) (token : Token) : List Issue :=
  let name := bareName token
  (match name.toList with
    | c :: rest =>
      if c = 'p' || c = 'P' then
        [rename .fieldPrefix token s!"Field '{name}' uses the forbidden 'p' prefix"
          (if rest.isEmpty then "_value" else "_" ++ toCamelCase (String.ofList rest))]
      else []
    | [] => []) ++
  (if isPrivate && !startsWith (· == '_') name.toList then
      [rename .privateFieldUnderscore token s!"Private field '{name}' must start with '_'"
        ("_" ++ toCamelCase name)]
    else []) ++
  (match name.toList with
    | '_' :: c :: cs =>
      let after := String.ofList (c :: cs)
      if keywords.contains after || isCamelCase after then []
      else
        [rename .fieldCamelCase token s!"Field '{name}' must be camelCase after the '_'"
          ("_" ++ toCamelCase after)]
    | _ => [])

def fieldIssues (keywords : KeywordTable) (node : Node) : List Issue :=
  node.label.declarators.flatMap (fieldNameIssues keywords node.isPrivate)

def nodeIssues (keywords : KeywordTable) (node : Node) : List Issue :=
  match node.kind with
  | .classDecl | .interfaceDecl => typeIssues keywords node
  | .methodDecl => methodIssues keywords node
  | .fieldDecl => fieldIssues keywords node
  | _ => []

def issues (keywords : KeywordTable) (root : Node) : List Issue :=
  root.descendants.flatMap (nodeIssues keywords)

end SharpLint.Check.Naming
