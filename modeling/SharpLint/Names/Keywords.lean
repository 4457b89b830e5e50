import SharpLint.Text.CaseMapping

/-!
# Keywords

Names that are exempt from case conventions: the keywords of the language, some names of its
library, and names a project adds. Case does not matter.
-/

namespace SharpLint.Names

def builtinKeywords : List String :=
  ["using", "class", "struct", "interface", "enum", "delegate", "event",
   "public", "private", "protected", "internal", "extern", "static",
   "virtual", "override", "abstract", "sealed", "async", "await",
   "void", "bool", "int", "string", "double", "float", "char", "long",
   "short", "byte", "decimal", "object", "var", "new", "this", "base",
   "if", "else", "for", "while", "do", "switch", "case", "default",
   "try", "catch", "finally", "throw", "return", "continue", "break",
   "lock", "fixed", "unsafe", "checked", "unchecked", "nameof", "typeof", "sizeof",
   "true", "false", "null",
   "console", "math", "file", "directory", "datetime", "list", "task"]

structure KeywordTable where
  extra : List String := []

namespace KeywordTable

def ofNames (names : List String) : KeywordTable := ⟨names.map Text.lowercase⟩

def contains (table : KeywordTable) (name : String) : Bool :=
  let small := Text.lowercase name
  small ∈ builtinKeywords || small ∈ table.extra

end KeywordTable

end SharpLint.Names
