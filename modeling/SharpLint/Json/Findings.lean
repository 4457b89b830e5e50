import SharpLint.Findings
import SharpLint.Json.Basic

/-!
# Findings as JSON

Issues, categories and findings as objects, and back.
-/

namespace SharpLint

namespace Issue

def toJson (issue : Issue) : Json :=
  .object
    [("ruleName", .string issue.rule.title),
     ("description", .string issue.description),
     ("passed", .bool issue.passed),
     ("suggestion", .string issue.suggestion),
     ("codeSnippet", .string issue.snippet),
     ("lineNumber", .count issue.line),
     ("columnNumber", .count issue.column),
     ("category", .string issue.category),
     ("detailMessage", (issue.detail.map Json.string).getD .null)]

/-- The rule a value names: its title, or an object with the title as its only field. -/
def ruleOfJson? : Json → Option Rule
  | .string title => Rule.ofTitle? title
  | .object [(title, .null)] => Rule.ofTitle? title
  | _ => none

def optionalText? : Json → Option (Option String)
  | .null => some none
  | .string text => some (some text)
  | _ => none

def ofFields? (rule description passed suggestion snippet line column category : Json)
    (detail : Option Json) : Option Issue := do
  return {
    rule := ← ruleOfJson? rule
    description := ← description.string?
    passed := ← passed.bool?
    suggestion := ← suggestion.string?
    snippet := ← snippet.string?
    line := ← line.count?
    column := ← column.count?
    category := ← category.string?
    detail := ← (detail.map optionalText?).getD (some none) }

/-- The issue that a value stands for: an object, or an array of all fields in order. -/
def ofJson? : Json → Option Issue
  | .object fields => do
    ofFields? (← fields.lookup "ruleName") (← fields.lookup "description")
      (← fields.lookup "passed") (← fields.lookup "suggestion") (← fields.lookup "codeSnippet")
      (← fields.lookup "lineNumber") (← fields.lookup "columnNumber") (← fields.lookup "category")
      (fields.lookup "detailMessage")
  | .array [rule, description, passed, suggestion, snippet, line, column, category, detail] =>
    ofFields? rule description passed suggestion snippet line column category (some detail)
  | _ => none

end Issue

namespace Category

def toJson (category : Category) : Json :=
  .object
    [("name", .string category.name), ("issues", .array (category.issues.map Issue.toJson))]

def ofJson? (value : Json) : Option Category := do
  let name ← (← value.field? "name").string?
  let issues ← (← value.field? "issues").array?
  return ⟨name, ← issues.mapM Issue.ofJson?⟩

end Category

namespace Findings

def toJson (findings : Findings) : Json :=
  .object
    [("fileName", .string findings.fileName),
     ("totalIssues", .count findings.failedCount),
     ("categories", .array (findings.categories.map Category.toJson))]

def ofJson? (value : Json) : Option Findings := do
  let fileName ← (← value.field? "fileName").string?
  let categories ← (← value.field? "categories").array?
  return { fileName, categories := ← categories.mapM Category.ofJson? }

end Findings

end SharpLint
