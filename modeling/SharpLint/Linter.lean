import SharpLint.Analyzer
import SharpLint.Syntax.Parse
import SharpLint.Text.Blank

/-!
# Analysing a source

A linter runs its analyzers over a source one after another. A source that cannot be parsed, an
analyzer that does not finish and a cancelled analysis are reported as issues, so an analysis always
has findings. The cancel flag is looked at before each analyzer and stays set once it is set.
-/

namespace SharpLint

structure Linter where
  config : Config := {}
  analyzers : List Analyzer := Analyzer.enabled config

inductive Outcome where
  | done (issues : List Issue)
  | failed (message : String)
  | skipped
deriving DecidableEq, Repr

namespace Linter

def parseFailure (error : ParseError) : Issue :=
  { rule := .parseFailure
    description := error.message
    passed := false
    suggestion := "Fix the syntax error and analyze again"
    line := (error.position?.map (·.line)).getD 0
    column := (error.position?.map (·.column)).getD 0
    detail := some s!"**{Rule.parseFailure.title}**\n- {error.message}" }

def analyzerFault (name message : String) : Issue :=
  { rule := .analyzerFault
    description := s!"Analyzer '{name}' failed: {message}"
    passed := false
    suggestion := "Report this failure together with the analyzed source"
    snippet := name
    detail := some s!"**{Rule.analyzerFault.title}**\n- Analyzer: `{name}`\n- Error: {message}" }

def cancellation (skipped : List String) : Issue :=
  let names := ", ".intercalate skipped
  { rule := .cancelled
    description := s!"Analysis cancelled before: {names}"
    passed := false
    suggestion := "Run the analysis again to get a complete report"
    detail := some s!"**{Rule.cancelled.title}**\n- Skipped: {names}" }

def unreadable (message : String) : Issue :=
  { rule := .unreadableSource
    description := s!"Cannot read source: {message}"
    passed := false
    suggestion := "Save the file as UTF-8 text and analyze again"
    detail := some s!"**{Rule.unreadableSource.title}**\n- {message}" }

def outcomeOf (inspection : Inspection) : Outcome :=
  match inspection.ending.failure? with
  | none => .done inspection.issues
  | some message => .failed message

/-- The outcomes of the analyzers run one after another, and the cancel flag after them. -/
def run (root : Node) : Bool → List Analyzer → List (Analyzer × Outcome) × Bool
  | cancelled, [] => ([], cancelled)
  | cancelled, analyzer :: analyzers =>
    if cancelled then
      let (outcomes, flag) := run root cancelled analyzers
      ((analyzer, .skipped) :: outcomes, flag)
    else
      let inspection := analyzer.inspect root
      let (outcomes, flag) := run root inspection.cancels analyzers
      ((analyzer, outcomeOf inspection) :: outcomes, flag)

def record (findings : Findings) : Analyzer × Outcome → Findings
  | (analyzer, .done issues) => findings.add analyzer.category issues
  | (analyzer, .failed message) =>
    findings.add Findings.errorCategory [analyzerFault analyzer.name message]
  | (_, .skipped) => findings

def skippedNames (outcomes : List (Analyzer × Outcome)) : List String :=
  outcomes.filterMap fun (analyzer, outcome) =>
    if outcome = .skipped then some analyzer.name else none

def merge (fileName : String) (outcomes : List (Analyzer × Outcome)) : Findings :=
  let findings := outcomes.foldl record { fileName }
  match skippedNames outcomes with
  | [] => findings
  | skipped => findings.add Findings.errorCategory [cancellation skipped]

/-- The findings on a document, and the cancel flag afterwards. A blank source has none. -/
def analyze (linter : Linter) (cancelled : Bool) (document : Document) (fileName : String) :
    Findings × Bool :=
  if Text.allBlank document.source.text then ({ fileName }, cancelled)
  else
    match document.parse linter.config.allowPartial with
    | .error error => (.ofError fileName (parseFailure error), cancelled)
    | .ok root =>
      let (outcomes, flag) := run root cancelled linter.analyzers
      (merge fileName outcomes, flag)

end Linter

def unknownFile : String := "Unknown"

end SharpLint
