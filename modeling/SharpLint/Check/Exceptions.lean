import SharpLint.Issue
import SharpLint.Syntax.Node

/-!
# Exception handling

Catch clauses that catch everything or do nothing, exceptions thrown again by name, which loses
where they came from, and calls that block the thread of an async method.
-/

namespace SharpLint.Check.Exceptions

def isGeneric (clause : Node) : Bool :=
  match clause.label.declaredType with
  | none => true
  | some type => type.text = "Exception" || type.text = "System.Exception"

def isEmpty (clause : Node) : Bool :=
  match clause.block? with
  | none => true
  | some block => block.statementCount = 0

def clauseIssues (clause : Node) : List Issue :=
  let caught := (clause.label.declaredType.map (·.text)).getD "unspecified"
  let facts := [("Caught type", caught)]
  (if isGeneric clause then
      [Issue.violation .genericCatch s!"Catch clause is too generic (type: {caught})"
        "Catch a specific exception type such as IOException or InvalidOperationException"
        "catch" facts clause.span]
    else []) ++
  (if isEmpty clause then
      [Issue.violation .emptyCatch "Empty catch block swallows the exception"
        "Log, handle or rethrow the exception" "catch" facts clause.span]
    else [])

def throwsVariable (caught : String) (statement : Node) : Bool :=
  statement.kind = .throwStatement &&
    match statement.operand? with
    | none => false
    | some operand => Node.kind operand = .reference && Node.text operand = some caught

def rethrows (clause : Node) : List (String × Node) :=
  match clause.label.identifier, clause.block? with
  | some caught, some block =>
    (block.descendants.filter (throwsVariable caught.text)).map (caught.text, ·)
  | _, _ => []

def distinctBy {α : Type} (key : α → Nat) (seen : List Nat) : List α → List α
  | [] => []
  | member :: members =>
    if key member ∈ seen then distinctBy key seen members
    else member :: distinctBy key (key member :: seen) members

def rethrowIssue (caught : String) (statement : Node) : Issue :=
  .violation .rethrowByName
    s!"'throw {caught};' resets the stack trace of the caught exception"
    "Replace with 'throw;'" statement.canonicalForm [("Variable", codeQuoted caught)]
    statement.span

/-- The findings on all rethrows of the clauses. A statement that several clauses contain is
reported for the first one. -/
def rethrowIssues (clauses : List Node) : List Issue :=
  (distinctBy (fun (_, statement) => statement.span.startByte) []
    (clauses.flatMap rethrows)).map fun (caught, statement) => rethrowIssue caught statement

/-- The callee ends in the suffix after at least one character, all on one line. -/
def isQualified (suffix : String) (callee : List Char) : Bool :=
  let qualifier := callee.take (callee.length - suffix.length)
  suffix.toList.isSuffixOf callee && !qualifier.isEmpty && qualifier.all (· != '\n')

def isSleep (callee : String) : Bool :=
  callee = "Thread.Sleep" || isQualified ".Thread.Sleep" callee.toList

def isWait (callee : String) (arguments : Nat) : Bool :=
  isQualified ".Wait" callee.toList && arguments = 0

def blockingText? (node : Node) : Option String :=
  match node.kind with
  | .invocation callee arguments =>
    if isSleep callee || isWait callee arguments then some (callee ++ "()") else none
  | .memberAccess member =>
    if member = "Result" then
      some (String.ofList (node.canonicalForm.toList.filter (· != ' ')))
    else none
  | _ => none

/-- The nodes of a method's body that do not belong to a method inside it, and those methods. -/
def ownNodes (body : Node) : List Node :=
  let walk : Tree.Walk Node.Label :=
    { enters := fun node => !Node.isMethod node, pending := body.children }
  walk.toList

def blockingIssue (method : Node) (call : String) (node : Node) : Issue :=
  .violation .blockingAsyncCall
    s!"'{call}' blocks the thread inside async method '{method.name}'"
    "Use await with the asynchronous API (e.g. await Task.Delay)" call
    [("Method", codeQuoted method.name), ("Call", codeQuoted call)] node.span

def asyncIssues (method : Node) : List Issue :=
  match method.body? with
  | none => []
  | some body =>
    (ownNodes body).filterMap fun node =>
      (blockingText? node).map fun call => blockingIssue method call node

def issues (root : Node) : List Issue :=
  let clauses := root.descendants.filter fun (node : Node) => node.kind = .catchClause
  let asyncMethods := root.methods.filter fun (method : Node) => method.hasModifier .async
  clauses.flatMap clauseIssues ++ rethrowIssues clauses ++ asyncMethods.flatMap asyncIssues

end SharpLint.Check.Exceptions
