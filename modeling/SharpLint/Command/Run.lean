import SharpLint.Command.Arguments
import SharpLint.Files.Sources
import SharpLint.Linter
import SharpLint.Report.Document
import SharpLint.Report.Pretty

/-!
# Running commands

A command reads the files of a store and ends with an exit code, or breaks off; what it has printed
by then is printed either way. An analysis prints nothing but a complete report: whatever prevents
one is told on the other channel, or is the failure with which the command breaks off.
-/

namespace SharpLint.Command

open Files (Fault Store)

inductive Failure where
  | file (fault : Fault)
  | scan (error : Files.ScanError)
deriving DecidableEq, Repr

def Failure.message : Failure → String
  | file fault => fault.message
  | scan error => error.message

/-- The end of a command: its exit code or the failure with which it broke off, and what it printed
until then. -/
structure Exit where
  result : Except Failure Nat
  output : String := ""
  errors : String := ""

def passedCode : Nat := 0

def failedCode : Nat := 1

def errorCode : Nat := 2

def refusal (message : String) : Exit := { result := .ok errorCode, errors := message }

def brokenOff (failure : Failure) : Exit := { result := .error failure }

/-! ## Analysing files -/

def findingsOn (linter : Linter) (contents : Except Fault Document) (name : String) : Findings :=
  match contents with
  | .ok document => (linter.analyze false document name).1
  | .error fault => .ofError name (Linter.unreadable fault.message)

def directoryFindings (store : Store) (linter : Linter) (path : String) (directory : Files.Entry) :
    Except Files.ScanError (List Findings) :=
  (Files.sourcesUnder linter.config path directory).map <| List.map fun names =>
    findingsOn linter (store.read (Files.joinAll path names)) (Files.joinNames names)

def findings (store : Store) (linter : Linter) (options : AnalyzeOptions) (entry : Files.Entry) :
    Except Failure (List Findings) :=
  match entry with
  | .directory _ => (directoryFindings store linter options.path entry).mapError .scan
  | .file file =>
    match file.read with
    | .error fault => .error (.file fault)
    | .ok document => .ok [(linter.analyze false document (options.name.getD options.path)).1]

def report (colours : Bool) (options : AnalyzeOptions) (results : List Findings) : String :=
  match options.format with
  | .json => Report.document results
  | .pretty => Report.pretty { colours, showPassed := options.showPassed } results

def verdict (colours : Bool) (options : AnalyzeOptions) (results : List Findings) : Exit where
  result := .ok (if 0 < Report.failedCount results then failedCode else passedCode)
  output := report colours options results

def configuration (store : Store) (options : AnalyzeOptions) : Except ConfigLoadError Config :=
  match options.config with
  | some path => Config.load store path
  | none => (Config.find store "").map (·.1)

def runAnalysis (store : Store) (colours : Bool) (options : AnalyzeOptions) : Exit :=
  match configuration store options with
  | .error error => refusal s!"Error parsing configuration: {error.message}\n"
  | .ok config =>
    match config.validate with
    | .error error => refusal s!"Error: invalid configuration: {error.message}\n"
    | .ok config =>
      match store.entry options.path with
      | .error fault =>
        let path := Text.quotedPath options.path
        refusal s!"Error: cannot access path {path}: {fault.message}\n"
      | .ok entry =>
        match findings store { config } options entry with
        | .error failure => brokenOff failure
        | .ok results => verdict colours options results

/-! ## Writing a configuration -/

def nextSteps (output : String) : String :=
  s!"Created {output}\n\nNext steps:\n  1. Edit {output} to adjust thresholds\n" ++
    s!"  2. Run: {Report.programName} analyze . --config {output}\n"

/-- The default configuration written to a file that does not exist yet. Directories made for it
stay even if it cannot be written. -/
def writeDefaults (store : Store) (output : String) : Exit × Store :=
  if store.hasEntry output then
    (refusal (s!"Error: file already exists: {output}\n" ++
      "Remove it or use --output to specify a different path\n"), store)
  else
    match store.writeWithParents output (.text { source := { text := Config.defaultYaml } }) with
    | (.error fault, store) => (brokenOff (.file fault), store)
    | (.ok (), store) => ({ result := .ok passedCode, output := nextSteps output }, store)

def Request.run (store : Store) (colours : Bool) : Request → Exit × Store
  | .analyze options => (runAnalysis store colours options, store)
  | .init output => writeDefaults store output

end SharpLint.Command
