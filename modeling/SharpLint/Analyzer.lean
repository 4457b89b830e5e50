import SharpLint.Check.Documentation
import SharpLint.Check.Exceptions
import SharpLint.Check.Naming
import SharpLint.Check.Unused
import SharpLint.Config.Basic
import SharpLint.Findings

/-!
# Analyzers

An analyzer inspects a syntax tree and reports issues under one category. It may also fail, be
aborted, or ask for the whole analysis to be cancelled.
-/

namespace SharpLint

inductive Ending where
  | finished
  /-- It failed, with the causes from the outermost to the root cause. -/
  | failed (causes : List String)
  | aborted (message : Option String)
deriving DecidableEq, Repr

def Ending.failure? : Ending → Option String
  | finished => none
  | failed causes => some (": ".intercalate causes)
  | aborted message => some (message.getD "panic")

structure Inspection where
  issues : List Issue := []
  ending : Ending := .finished
  cancels : Bool := false

structure Analyzer where
  name : String
  category : String
  inspect : Node → Inspection

namespace Analyzer

def ofCheck (name category : String) (issues : Node → List Issue) : Analyzer where
  name := name
  category := category
  inspect root := { issues := issues root }

def builtin (config : Config) : List Analyzer :=
  [ofCheck "naming" "Naming" (Check.Naming.issues (.ofNames config.extraKeywords)),
   ofCheck "complexity" "Complexity" (Check.Complexity.issues config.complexity),
   ofCheck "documentation" "Documentation" Check.Documentation.issues,
   ofCheck "duplication" "Duplication" (Check.Duplication.issues config.duplication),
   ofCheck "unused" "UnusedCode" Check.Unused.issues,
   ofCheck "size" "Size" (Check.Size.issues config.size),
   ofCheck "exceptions" "Exceptions" Check.Exceptions.issues]

def enabled (config : Config) : List Analyzer :=
  (builtin config).filter fun analyzer => config.isEnabled analyzer.name

end Analyzer

end SharpLint
