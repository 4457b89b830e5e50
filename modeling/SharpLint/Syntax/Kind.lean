/-!
# Kinds of syntax nodes

The kinds the checks tell apart. Constructs that no check looks at keep the grammar's name for
them in `other`.
-/

namespace SharpLint

inductive Kind where
  | compilationUnit
  | classDecl
  | interfaceDecl
  | methodDecl
  | fieldDecl
  | propertyDecl
  | block
  | expressionBody
  | ifStatement
  | forStatement
  | forEachStatement
  | whileStatement
  | doStatement
  | switchStatement (sections : Nat)
  | localDecl
  | throwStatement
  | catchClause
  | conditional
  | binary (operator : String)
  /-- A call, with the text of what is called, free of white space. -/
  | invocation (callee : String) (arguments : Nat)
  | memberAccess (member : String)
  | reference
  /-- The name a declaration introduces, which is no use of it. -/
  | declarationName
  | stringLiteral
  | interpolatedString
  | token
  | other (name : String)
deriving DecidableEq, Repr

namespace Kind

def name : Kind → String
  | compilationUnit => "compilation_unit"
  | classDecl => "class"
  | interfaceDecl => "interface"
  | methodDecl => "method"
  | fieldDecl => "field"
  | propertyDecl => "property"
  | block => "block"
  | expressionBody => "expression_body"
  | ifStatement => "if"
  | forStatement => "for"
  | forEachStatement => "foreach"
  | whileStatement => "while"
  | doStatement => "do"
  | switchStatement _ => "switch"
  | localDecl => "local"
  | throwStatement => "throw"
  | catchClause => "catch"
  | conditional => "conditional"
  | binary _ => "binary"
  | invocation _ _ => "invocation"
  | memberAccess _ => "member_access"
  | reference => "identifier"
  | declarationName => "declaration_name"
  | stringLiteral => "string"
  | interpolatedString => "interpolated_string"
  | token => "token"
  | other name => name

def plain : List Kind :=
  [compilationUnit, classDecl, interfaceDecl, methodDecl, fieldDecl, propertyDecl, block,
   expressionBody, ifStatement, forStatement, forEachStatement, whileStatement, doStatement,
   localDecl, throwStatement, catchClause, conditional, reference, declarationName, stringLiteral,
   interpolatedString, token]

def ofName (name : String) : Kind := (plain.find? (·.name == name)).getD (other name)

end Kind

end SharpLint
