import SharpLint.Yaml.BlockScalar
import SharpLint.Yaml.FlowScalar
import SharpLint.Yaml.Token

/-!
# The tokens of a text

Tokens are read one after another. A deeper column opens a block collection and a shallower one
closes those it leaves. Whether something is the key of a mapping shows only at the colon after it:
until then its place is remembered as a possible key, one for the block context and one for every
flow collection around it. Such a key stands on one line, and at the start of a line of a mapping
nothing else may stand.
-/

namespace SharpLint.Yaml

structure PossibleKey where
  tokenNumber : Nat
  required : Bool
  bytes : Nat
  line : Nat
  column : Nat

def maxKeyLength : Nat := 1024

structure Lexer where
  cursor : Cursor
  tokens : List Token := []
  count : Nat := 0
  indents : List Nat := []
  keyAllowed : Bool := true
  /-- The possible key of the innermost flow collection, or of the block context. -/
  key : Option PossibleKey := none
  outerKeys : List (Option PossibleKey) := []

namespace Lexer

def inFlow (lexer : Lexer) : Bool := !lexer.outerKeys.isEmpty

def push (lexer : Lexer) (token : Token) : Lexer :=
  { lexer with tokens := token :: lexer.tokens, count := lexer.count + 1 }

def insert (lexer : Lexer) (number : Nat) (token : Token) : Lexer :=
  { lexer with
    tokens := lexer.tokens.insertIdx (lexer.count - number) token
    count := lexer.count + 1 }

def pushAfter (lexer : Lexer) (count : Nat) (token : Token) : Lexer :=
  { lexer with cursor := lexer.cursor.skipMany count }.push token

/-- Without a possible key; it must not be a required one. -/
def dropKey (lexer : Lexer) : Option Lexer :=
  match lexer.key with
  | some key => if key.required then none else some { lexer with key := none }
  | none => some lexer

def noteKey (lexer : Lexer) : Option Lexer :=
  if lexer.keyAllowed then
    lexer.dropKey.map fun lexer =>
      let cursor := lexer.cursor
      { lexer with
        key := some
          { tokenNumber := lexer.count
            required := !lexer.inFlow && lexer.indents.head? = some cursor.column
            bytes := cursor.bytes
            line := cursor.line
            column := cursor.column } }
  else some lexer

def close (lexer : Lexer) (number : Nat) : Lexer :=
  { lexer with
    indents := lexer.indents.drop number
    tokens := List.replicate number .blockEnd ++ lexer.tokens
    count := lexer.count + number }

def closeDeeper (lexer : Lexer) (column : Nat) : Lexer :=
  if lexer.inFlow then lexer
  else lexer.close (lexer.indents.takeWhile (column < ·)).length

def closeAll (lexer : Lexer) : Lexer :=
  if lexer.inFlow then lexer else lexer.close lexer.indents.length

/-- A block collection opened at a column deeper than those around it, its start put in before the
token with the given number. -/
def openBlock (lexer : Lexer) (column number : Nat) (token : Token) : Lexer :=
  if lexer.inFlow || !lexer.indents.head?.all (· < column) then lexer
  else ({ lexer with indents := column :: lexer.indents }).insert number token

def openHere (lexer : Lexer) (token : Token) : Option Lexer :=
  if lexer.inFlow then some lexer
  else if lexer.keyAllowed then
    some (lexer.openBlock lexer.cursor.column lexer.count token)
  else none

def skipSpace : Nat → Lexer → Lexer
  | 0, lexer => lexer
  | steps + 1, lexer =>
    let cursor :=
      if lexer.cursor.column = 0 && lexer.cursor.isAt byteOrderMark then lexer.cursor.skip
      else lexer.cursor
    let tabs := lexer.inFlow || !lexer.keyAllowed
    let cursor := cursor.skipWhile fun c => c = ' ' || (tabs && c = '\t')
    let cursor := if cursor.isAt '#' then cursor.skipWhile (!isBreak ·) else cursor
    if cursor.atBreak then
      skipSpace steps
        { lexer with
          cursor := cursor.readBreak.2
          keyAllowed := lexer.keyAllowed || !lexer.inFlow }
    else { lexer with cursor }

/-- The possible key if it can still be one: it stands on this line, not too far back. Fails if it
had to be one. -/
def currentKey (lexer : Lexer) : Option (Option PossibleKey) :=
  match lexer.key with
  | none => some none
  | some key =>
    if key.line < lexer.cursor.line || key.bytes + maxKeyLength < lexer.cursor.bytes then
      if key.required then none else some none
    else some (some key)

def readDocumentMark (lexer : Lexer) (token : Token) : Option Lexer :=
  lexer.closeAll.dropKey.map fun lexer =>
    { lexer with keyAllowed := false }.pushAfter 3 token

def readFlowStart (lexer : Lexer) (token : Token) : Option Lexer :=
  lexer.noteKey.map fun lexer =>
    { lexer with
      keyAllowed := true
      key := none
      outerKeys := lexer.key :: lexer.outerKeys }.pushAfter 1 token

def readFlowEnd (lexer : Lexer) (token : Token) : Option Lexer :=
  lexer.dropKey.map fun lexer =>
    let lexer := { lexer with keyAllowed := false }
    match lexer.outerKeys with
    | [] => lexer.pushAfter 1 token
    | key :: outerKeys => { lexer with key, outerKeys }.pushAfter 1 token

def readFlowEntry (lexer : Lexer) : Option Lexer :=
  lexer.dropKey.map fun lexer => { lexer with keyAllowed := true }.pushAfter 1 .flowEntry

def readBlockEntry (lexer : Lexer) : Option Lexer :=
  (lexer.openHere .blockSequenceStart).bind fun lexer =>
    lexer.dropKey.map fun lexer => { lexer with keyAllowed := true }.pushAfter 1 .blockEntry

def readKey (lexer : Lexer) : Option Lexer :=
  (lexer.openHere .blockMappingStart).bind fun lexer =>
    lexer.dropKey.map fun lexer =>
      { lexer with keyAllowed := !lexer.inFlow }.pushAfter 1 .key

def readValue (lexer : Lexer) : Option Lexer :=
  lexer.currentKey.bind fun
    | some key =>
      let lexer := (lexer.insert key.tokenNumber .key).openBlock key.column key.tokenNumber
        .blockMappingStart
      some ({ lexer with key := none, keyAllowed := false }.pushAfter 1 .value)
    | none =>
      (lexer.openHere .blockMappingStart).map fun lexer =>
        { lexer with keyAllowed := !lexer.inFlow }.pushAfter 1 .value

def readKeyable (lexer : Lexer) (read : Cursor → Option (Token × Cursor)) : Option Lexer :=
  lexer.noteKey.bind fun lexer =>
    (read lexer.cursor).map fun (token, cursor) =>
      { lexer with cursor, keyAllowed := false }.push token

def readBlock (lexer : Lexer) (steps : Nat) (style : ScalarStyle) : Option Lexer :=
  lexer.dropKey.bind fun lexer =>
    (readBlockScalar (style = .literal) lexer.indents.head? steps lexer.cursor.skip).map
      fun (text, cursor) =>
        { lexer with cursor, keyAllowed := true }.push (.scalar style (String.ofList text.reverse))

def readQuotes (lexer : Lexer) (steps : Nat) (single : Bool) : Option Lexer :=
  lexer.readKeyable fun cursor =>
    (readQuoted single steps [] cursor.skip).map fun (text, cursor) =>
      (.scalar .quoted (String.ofList text.reverse), cursor)

def readPlainScalar (lexer : Lexer) (steps : Nat) : Option Lexer :=
  lexer.noteKey.bind fun lexer =>
    let indentation := (lexer.indents.head?.map (· + 1)).getD 0
    (readPlain lexer.inFlow indentation steps [] {} lexer.cursor).map fun (text, broken, cursor) =>
      { lexer with cursor, keyAllowed := broken }.push
        (.scalar .plain (String.ofList text.reverse))

def startsPlain (inFlow blankNext tabOrSpaceNext : Bool) (c : Char) : Bool :=
  !isBlank c && !isBreak c &&
    (c ∉ ['-', '?', ':', ',', '[', ']', '\x7b', '\x7d', '#', '&', '*', '!', '|', '>', '\'', '"',
        '%', '@', '\x60'] ||
      (c = '-' && !tabOrSpaceNext) || (!inFlow && (c = '?' || c = ':') && !blankNext))

/-- The next token, which starts with the given character. There are more steps than characters
left. -/
def next (lexer : Lexer) (steps : Nat) (c : Char) : Option Lexer :=
  let cursor := lexer.cursor
  let blankNext := cursor.blankAhead 1
  if cursor.column = 0 && c = '%' then
    lexer.closeAll.dropKey.bind fun lexer =>
      (readDirective lexer.cursor).map fun (token, cursor) =>
        { lexer with cursor, keyAllowed := false }.push token
  else if cursor.atDocumentMark then
    lexer.readDocumentMark (if c = '-' then .documentStart else .documentEnd)
  else if c = '[' then lexer.readFlowStart .flowSequenceStart
  else if c = '\x7b' then lexer.readFlowStart .flowMappingStart
  else if c = ']' then lexer.readFlowEnd .flowSequenceEnd
  else if c = '\x7d' then lexer.readFlowEnd .flowMappingEnd
  else if c = ',' then lexer.readFlowEntry
  else if c = '-' && blankNext then lexer.readBlockEntry
  else if c = '?' && (lexer.inFlow || blankNext) then lexer.readKey
  else if c = ':' && (lexer.inFlow || blankNext) then lexer.readValue
  else if c = '*' then
    lexer.readKeyable fun cursor =>
      (readAnchorName cursor.skip).map fun (name, cursor) => (.alias name, cursor)
  else if c = '&' then
    lexer.readKeyable fun cursor =>
      (readAnchorName cursor.skip).map fun (name, cursor) => (.anchor name, cursor)
  else if c = '!' then lexer.readKeyable (readTag lexer.inFlow)
  else if c = '|' && !lexer.inFlow then lexer.readBlock steps .literal
  else if c = '>' && !lexer.inFlow then lexer.readBlock steps .folded
  else if c = '\'' then lexer.readQuotes steps true
  else if c = '"' then lexer.readQuotes steps false
  else if startsPlain lexer.inFlow blankNext (((cursor.peek? 1).map isBlank).getD false) c then
    lexer.readPlainScalar steps
  else none

def run : Nat → Lexer → Option (List Token)
  | 0, _ => none
  | steps + 1, lexer =>
    let lexer := lexer.skipSpace (steps + 1)
    let lexer := lexer.closeDeeper lexer.cursor.column
    match lexer.cursor.rest with
    | [] => lexer.closeAll.dropKey.map (·.tokens.reverse)
    | c :: _ => (lexer.next (steps + 1) c).bind (run steps)

end Lexer

def tokens? (text : String) : Option (List Token) :=
  let characters := text.toList
  if characters.all isAllowed then
    Lexer.run (characters.length + 1) { cursor := { rest := characters } }
  else none

end SharpLint.Yaml
