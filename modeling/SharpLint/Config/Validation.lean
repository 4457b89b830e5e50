import SharpLint.Config.Basic
import SharpLint.Glob.Parser
import SharpLint.Text.Quoted

/-!
# Valid configurations

Limits are positive and in order, disabled analyzers exist, and excluded paths are patterns. The
first rule that is broken, in this order, is the error.
-/

namespace SharpLint

inductive ConfigError where
  | nonPositive (field : String)
  | thresholdOrder (low max : Nat)
  | unknownAnalyzer (name : String)
  | invalidGlob (pattern message : String)
deriving DecidableEq, Repr

def ConfigError.message : ConfigError → String
  | nonPositive field => s!"{field} must be greater than zero"
  | thresholdOrder low max =>
    s!"complexity.low_threshold ({low}) must not exceed complexity.max_complexity ({max})"
  | unknownAnalyzer name => s!"unknown analyzer {Text.quoted name} in disabled_analyzers"
  | invalidGlob pattern message =>
    s!"invalid excluded_paths pattern {Text.quoted pattern}: {message}"

namespace Config

def limits (config : Config) : List (String × Nat) :=
  [("complexity.max_complexity", config.complexity.maxComplexity),
   ("complexity.low_threshold", config.complexity.lowThreshold),
   ("size.max_lines", config.size.maxLines),
   ("size.max_parameters", config.size.maxParameters),
   ("duplication.preview_chars", config.duplication.previewCharacters)]

def patternError? (pattern : String) : Option ConfigError :=
  match Glob.parse pattern with
  | .ok _ => none
  | .error error => some (.invalidGlob pattern (Glob.errorMessage pattern error))

def error? (config : Config) : Option ConfigError :=
  match config.limits.find? (·.2 = 0) with
  | some (field, _) => some (.nonPositive field)
  | none =>
    if config.complexity.maxComplexity < config.complexity.lowThreshold then
      some (.thresholdOrder config.complexity.lowThreshold config.complexity.maxComplexity)
    else
      match config.disabledAnalyzers.find? (· ∉ analyzerNames) with
      | some name => some (.unknownAnalyzer name)
      | none => config.excludedPaths.findSome? patternError?

def validate (config : Config) : Except ConfigError Config :=
  match config.error? with
  | some error => .error error
  | none => .ok config

/-- A path that matches one of the patterns is left out; what is no pattern matches nothing. -/
def excludes (config : Config) (path : String) : Bool :=
  config.excludedPaths.any fun pattern =>
    match Glob.parse pattern with
    | .ok parts => Glob.isMatch parts path
    | .error _ => false

end Config

end SharpLint
