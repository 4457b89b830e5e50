import SharpLint.Config.Load

/-!
# Command lines

The words after the program's name choose a command and its options. An option has a long name and
possibly a short one; its value is attached to it or is the next word. What follows two dashes alone
is never an option. A value is looked at when the next option is met or at the end, so of two
mistakes that one counts which shows first.
-/

namespace SharpLint.Command

inductive Usage where
  | help
  | version
  | helpForMissingCommand
  | missingCommand
  | missingPath
  | unknownCommand
  | unknownArgument
  | invalidValue
  | unneededValue
  | repeatedOption
deriving DecidableEq, Repr

/-- Asking for help or the version is no mistake. -/
def Usage.exitCode : Usage → Nat
  | help | version => 0
  | _ => 2

def synopsis : String :=
  "Usage: codelens [-v] analyze PATH [-f pretty|json] [-c FILE] [-n NAME] [--show-passed]\n" ++
    "       codelens [-v] init [-o FILE]"

def Usage.message : Usage → String
  | help | helpForMissingCommand => synopsis
  | version => "codelens 0.1.0"
  | missingCommand => "error: a command is required: analyze or init"
  | missingPath => "error: a path to analyze is required"
  | unknownCommand => "error: unknown command"
  | unknownArgument => "error: unexpected argument"
  | invalidValue => "error: invalid or missing value"
  | unneededValue => "error: a value for an option that takes none"
  | repeatedOption => "error: an option is given twice"

inductive Format where
  | pretty
  | json
deriving DecidableEq, Repr

def Format.ofName? : String → Option Format
  | "pretty" => some .pretty
  | "json" => some .json
  | _ => none

structure AnalyzeOptions where
  path : String
  format : Format := .pretty
  config : Option String := none
  name : Option String := none
  showPassed : Bool := false
deriving DecidableEq, Repr

inductive Request where
  | analyze (options : AnalyzeOptions)
  | init (output : String)
deriving DecidableEq, Repr

/-! ## Words -/

inductive Word where
  | dashes
  | long (name : List Char) (value : Option String)
  | short (letters : List Char)
  | plain
deriving DecidableEq, Repr

/-- What a word is by its form. A dash alone is no option. -/
def Word.ofString (text : String) : Word :=
  match text.toList with
  | ['-', '-'] => .dashes
  | '-' :: '-' :: rest =>
    let name := rest.takeWhile (· != '=')
    match rest.drop name.length with
    | [] => .long name none
    | _ :: value => .long name (some (String.ofList value))
  | '-' :: letter :: letters => .short (letter :: letters)
  | _ => .plain

/-! ## Commands -/

inductive Slot where
  | help
  | version
  | verbose
  | path
  | format
  | config
  | name
  | showPassed
  | output
deriving DecidableEq, Repr

namespace Slot

def takesValue : Slot → Bool
  | path | format | config | name | output => true
  | help | version | verbose | showPassed => false

def accepts : Slot → String → Bool
  | path, value | config, value | output, value => value ≠ ""
  | format, value => (Format.ofName? value).isSome
  | _, _ => true

end Slot

structure Grammar where
  long : List (String × Slot)
  short : List (Char × Slot)
  positional : Option Slot := none

namespace Grammar

def top : Grammar where
  long := [("verbose", .verbose), ("help", .help), ("version", .version)]
  short := [('v', .verbose), ('h', .help), ('V', .version)]

def analyze : Grammar where
  long := [("format", .format), ("config", .config), ("name", .name),
    ("show-passed", .showPassed), ("verbose", .verbose), ("help", .help)]
  short := [('f', .format), ('c', .config), ('n', .name), ('v', .verbose), ('h', .help)]
  positional := some .path

def init : Grammar where
  long := [("output", .output), ("verbose", .verbose), ("help", .help)]
  short := [('o', .output), ('v', .verbose), ('h', .help)]

end Grammar

/-! ## Reading -/

structure Reading where
  given : List (Slot × String) := []
  /-- What is still open, with its value if it was there. -/
  pending : Option (Slot × Option String) := none
  positionalMet : Bool := false
  dashesMet : Bool := false

namespace Reading

/-- Takes an option with its value, if it has one. All but verbosity may be given once only. -/
def give (reading : Reading) (slot : Slot) (value : Option String) : Except Usage Reading :=
  if slot.takesValue && value.isNone then .error .invalidValue
  else if slot = .help then .error .help
  else if slot = .version then .error .version
  else if slot ≠ .verbose && (reading.given.lookup slot).isSome then .error .repeatedOption
  else
    let value := value.getD ""
    if slot.accepts value then .ok { reading with given := (slot, value) :: reading.given }
    else .error .invalidValue

def settle (reading : Reading) : Except Usage Reading :=
  match reading.pending with
  | none => .ok reading
  | some (slot, value) => { reading with pending := none }.give slot value

def readOption (reading : Reading) (slot : Slot) (value : Option String) :
    Except Usage Reading := do
  let reading ← reading.settle
  if slot.takesValue && value.isNone then return { reading with pending := some (slot, none) }
  else reading.give slot value

/-- Short options in one word. The first that takes a value takes the rest of the word as its
value, without an equals sign before it. -/
def readShort (grammar : Grammar) : Reading → List Char → Except Usage Reading
  | reading, [] => .ok reading
  | reading, letter :: letters =>
    match grammar.short.lookup letter with
    | none => .error .unknownArgument
    | some slot =>
      if slot.takesValue then
        let value :=
          match letters with
          | [] => none
          | '=' :: value => some (String.ofList value)
          | value => some (String.ofList value)
        reading.readOption slot value
      else do readShort grammar (← reading.readOption slot none) letters

def readLong (grammar : Grammar) (reading : Reading) (name : List Char) (value : Option String) :
    Except Usage Reading :=
  match grammar.long.lookup (String.ofList name) with
  | none => .error .unknownArgument
  | some slot =>
    if !slot.takesValue && value.isSome then .error .unneededValue
    else reading.readOption slot value

def readPlain (grammar : Grammar) (reading : Reading) (text : String) : Except Usage Reading :=
  match grammar.positional with
  | some slot =>
    if reading.positionalMet then .error .unknownArgument
    else do
      let reading ← reading.settle
      return { reading with pending := some (slot, some text), positionalMet := true }
  | none => .error .unknownArgument

def readWord (grammar : Grammar) (reading : Reading) (text : String) : Except Usage Reading :=
  if reading.dashesMet then reading.readPlain grammar text
  else
    match Word.ofString text with
    | .dashes => .ok { reading with dashesMet := true }
    | .long name value => reading.readLong grammar name value
    | .short letters => reading.readShort grammar letters
    | .plain =>
      match reading.pending with
      | some (slot, none) => .ok { reading with pending := some (slot, some text) }
      | _ => reading.readPlain grammar text

def ofWords (grammar : Grammar) (words : List String) : Except Usage Reading := do
  (← words.foldlM (readWord grammar) {}).settle

def value? (reading : Reading) (slot : Slot) : Option String := reading.given.lookup slot

end Reading

def analyzeOptions (words : List String) : Except Usage AnalyzeOptions := do
  let reading ← Reading.ofWords .analyze words
  match reading.value? .path with
  | none => throw .missingPath
  | some path =>
    return {
      path
      format := ((reading.value? .format).bind Format.ofName?).getD .pretty
      config := reading.value? .config
      name := reading.value? .name
      showPassed := (reading.value? .showPassed).isSome }

def initOutput (words : List String) : Except Usage String := do
  return ((← Reading.ofWords .init words).value? .output).getD Config.fileName

/-- The words that are commands; `help` tells about one of them, or about all. -/
def commandNames : List String := ["analyze", "check", "init", "help"]

def helpOn : List String → Usage
  | [] => .help
  | [name] => if name ∈ commandNames then .help else .unknownCommand
  | _ => .unknownCommand

namespace Request

def ofWordsAfter : Reading → List String → Except Usage Request
  | reading, [] =>
    .error (if reading.given.isEmpty then .helpForMissingCommand else .missingCommand)
  | reading, word :: words =>
    if reading.dashesMet then
      .error (if word ∈ commandNames then .unknownArgument else .unknownCommand)
    else
      match word with
      | "analyze" | "check" => (analyzeOptions words).map .analyze
      | "init" => (initOutput words).map .init
      | "help" => .error (helpOn words)
      | _ =>
        match Word.ofString word with
        | .plain => .error .unknownCommand
        | _ => do ofWordsAfter (← reading.readWord .top word) words

def ofWords (words : List String) : Except Usage Request := ofWordsAfter {} words

end Request

end SharpLint.Command
