import SharpLint.Check.Complexity
import SharpLint.Check.Duplication
import SharpLint.Check.Size

/-!
# Configuration

What a project can set: limits of the checks, names exempt from case conventions, the analyzers and
paths to leave out. Everything has a default.
-/

namespace SharpLint

structure Config where
  /-- Analyzers may run side by side. The findings are the same either way. -/
  parallel : Bool := true
  /-- Sources with syntax errors are analysed as far as they can be parsed. -/
  allowPartial : Bool := false
  complexity : Check.ComplexityLimits := {}
  size : Check.SizeLimits := {}
  duplication : Check.DuplicationLimits := {}
  extraKeywords : List String := []
  disabledAnalyzers : List String := []
  /-- Patterns of paths that a scan of a directory leaves out. -/
  excludedPaths : List String := []
deriving DecidableEq, Repr

def analyzerNames : List String :=
  ["naming", "complexity", "documentation", "duplication", "unused", "size", "exceptions"]

def Config.isEnabled (config : Config) (analyzer : String) : Bool :=
  analyzer ∉ config.disabledAnalyzers

end SharpLint
