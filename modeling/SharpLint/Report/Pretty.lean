import SharpLint.Findings
import SharpLint.Report.Style

/-!
# Reports for the terminal

A header, the findings of every file, and a final verdict. Issues that passed are left out unless
they are asked for.
-/

namespace SharpLint.Report

def programName : String := "codelens"

def version : String := "0.1.0"

structure Layout where
  colours : Bool := false
  showPassed : Bool := false

def ruleWidth : Nat := 30

def plural (count : Nat) : String := if count = 1 then "" else "s"

def issueText (layout : Layout) (issue : Issue) : String :=
  let verdict :=
    if issue.passed then paint layout.colours .green "PASS" else paint layout.colours .red "FAIL"
  let place :=
    if 0 < issue.line then paint layout.colours .dimmed s!"{issue.line}:{issue.column}" else ""
  let arrow := paint layout.colours .cyan "→"
  let advice :=
    if !issue.passed && issue.suggestion != "" then s!"           {arrow} {issue.suggestion}\n"
    else ""
  let rule := paintPadded layout.colours .dimmed ruleWidth issue.rule.title
  s!"      {verdict} {rule}{place}\n" ++
    s!"           {issue.description}\n" ++ advice

def categoryText (layout : Layout) (category : Category) : String :=
  let failed := category.failedCount
  let title := s!"{category.name} ({failed}/{category.issues.length})"
  let style : Style :=
    if category.name = Findings.errorCategory then .boldRed
    else if 0 < failed then .bold
    else .dimmed
  let shown := category.issues.filter fun issue => layout.showPassed || !issue.passed
  s!"    {paint layout.colours style title}\n" ++ String.join (shown.map (issueText layout))

def fileText (layout : Layout) (findings : Findings) : String :=
  let failed := findings.failedCount
  let mark :=
    if failed = 0 then paint layout.colours .green "✓" else paint layout.colours .red "✗"
  let count := s!"({failed} of {findings.issues.length} issues failed)"
  s!"  {mark} {paint layout.colours .blue findings.fileName}  " ++
    s!"{paint layout.colours .dimmed count}\n" ++
    String.join (findings.categories.map (categoryText layout)) ++ "\n"

def failedCount (results : List Findings) : Nat :=
  results.foldr (fun findings count => findings.failedCount + count) 0

def verdictText (layout : Layout) (results : List Findings) : String :=
  let failed := failedCount results
  let files := results.length
  if failed = 0 then
    let pass := paint layout.colours .boldGreen "PASS"
    s!"  {pass} {files} file{plural files} analyzed, no failing issues\n"
  else
    let fail := paint layout.colours .boldRed "FAIL"
    s!"  {fail} {failed} failing issue{plural failed} in {files} file{plural files}\n"

def pretty (layout : Layout) (results : List Findings) : String :=
  s!"\n  {paint layout.colours .boldCyan programName} v{version}\n\n" ++
    String.join (results.map (fileText layout)) ++ verdictText layout results ++ "\n"

end SharpLint.Report
