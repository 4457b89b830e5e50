import SharpLint.Rule
import SharpLint.Source

/-!
# Issues

An issue is one finding: it passes, and is then only a piece of information, or it fails and
suggests what to do. Line and column are zero when it has no place in the source.
-/

namespace SharpLint

structure Issue where
  rule : Rule
  description : String
  passed : Bool := true
  suggestion : String := ""
  snippet : String := ""
  line : Nat := 0
  column : Nat := 0
  category : String := ""
  detail : Option String := none
deriving DecidableEq, Repr

namespace Issue

def summary (rule : Rule) (facts : List (String × String)) (span : Span) : String :=
  s!"**{rule.title}**" ++
    String.join (facts.map fun (label, value) => s!"\n- {label}: {value}") ++
    s!"\n- Location: line {span.startLine}, column {span.startColumn}"

def note (rule : Rule) (description snippet : String) (facts : List (String × String))
    (span : Span) : Issue :=
  { rule, description, snippet
    line := span.startLine
    column := span.startColumn
    detail := some (summary rule facts span) }

def failing (issue : Issue) (suggestion : String) : Issue :=
  { issue with passed := false, suggestion }

def violation (rule : Rule) (description suggestion snippet : String)
    (facts : List (String × String)) (span : Span) : Issue :=
  (note rule description snippet facts span).failing suggestion

end Issue

def codeQuoted (text : String) : String := s!"`{text}`"

end SharpLint
