/-!
# Rules

Every issue is the finding of one rule. The title of a rule is how reports name it.
-/

namespace SharpLint

inductive Rule where
  | classPascalCase
  | interfacePascalCase
  | methodPascalCase
  | asyncSuffix
  | parameterCamelCase
  | parameterUnderscore
  | fieldPrefix
  | privateFieldUnderscore
  | fieldCamelCase
  | placeholderParameter
  | cyclomaticComplexity
  | missingDocumentation
  | incompleteDocumentation
  | documentationNote
  | documentationScore
  | duplicateCode
  | unusedLocal
  | unusedParameter
  | unusedPrivateField
  | unusedPrivateMethod
  | methodTooLong
  | tooManyParameters
  | genericCatch
  | emptyCatch
  | rethrowByName
  | blockingAsyncCall
  | parseFailure
  | analyzerFault
  | cancelled
  | unreadableSource
deriving DecidableEq, Repr

namespace Rule

def all : List Rule :=
  [classPascalCase, interfacePascalCase, methodPascalCase, asyncSuffix, parameterCamelCase,
   parameterUnderscore, fieldPrefix, privateFieldUnderscore, fieldCamelCase, placeholderParameter,
   cyclomaticComplexity, missingDocumentation, incompleteDocumentation, documentationNote,
   documentationScore, duplicateCode, unusedLocal, unusedParameter, unusedPrivateField,
   unusedPrivateMethod, methodTooLong, tooManyParameters, genericCatch, emptyCatch, rethrowByName,
   blockingAsyncCall, parseFailure, analyzerFault, cancelled, unreadableSource]

def title : Rule → String
  | classPascalCase => "Class PascalCase"
  | interfacePascalCase => "Interface PascalCase"
  | methodPascalCase => "Method PascalCase"
  | asyncSuffix => "Async method suffix"
  | parameterCamelCase => "Parameter camelCase"
  | parameterUnderscore => "Parameter underscore prefix"
  | fieldPrefix => "Forbidden 'p' prefix"
  | privateFieldUnderscore => "Private field underscore"
  | fieldCamelCase => "camelCase after underscore"
  | placeholderParameter => "Placeholder parameter naming"
  | cyclomaticComplexity => "Cyclomatic complexity"
  | missingDocumentation => "Missing documentation"
  | incompleteDocumentation => "Incomplete documentation"
  | documentationNote => "Documentation note"
  | documentationScore => "Documentation score"
  | duplicateCode => "Duplicate code"
  | unusedLocal => "Unused local variable"
  | unusedParameter => "Unused parameter"
  | unusedPrivateField => "Unused private field"
  | unusedPrivateMethod => "Unused private method"
  | methodTooLong => "Method too long"
  | tooManyParameters => "Too many parameters"
  | genericCatch => "Generic catch"
  | emptyCatch => "Empty catch"
  | rethrowByName => "Rethrow by name"
  | blockingAsyncCall => "Blocking call in async method"
  | parseFailure => "Parse failure"
  | analyzerFault => "Analyzer failure"
  | cancelled => "Analysis cancelled"
  | unreadableSource => "Unreadable source"

def ofTitle? (title : String) : Option Rule := all.find? (·.title == title)

end Rule

end SharpLint
