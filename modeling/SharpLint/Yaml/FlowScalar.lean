import SharpLint.Yaml.Token

/-!
# Plain and quoted scalars

Scalars that run over several lines are folded: a single line end becomes a blank, and of several
the first is dropped. Blanks around line ends do not count.
-/

namespace SharpLint.Yaml

/-- The white space between two words of a scalar. All characters stand latest first. -/
structure Gap where
  blanks : List Char := []
  firstBreak : List Char := []
  moreBreaks : List Char := []
  broken : Bool := false

def Gap.folded (gap : Gap) : List Char :=
  if gap.broken then
    if gap.firstBreak.head? = some '\n' then
      if gap.moreBreaks.isEmpty then [' '] else gap.moreBreaks
    else gap.moreBreaks ++ gap.firstBreak
  else gap.blanks

/-- The gap at the cursor, continuing one. A tab may not stand for indentation below the given
column. -/
def readGap (indentation : Nat) : Nat → Gap → Cursor → Option (Gap × Cursor)
  | 0, gap, cursor => some (gap, cursor)
  | steps + 1, gap, cursor =>
    match cursor.rest with
    | [] => some (gap, cursor)
    | c :: _ =>
      if isBlank c then
        if gap.broken then
          if c = '\t' && cursor.column < indentation then none
          else readGap indentation steps gap cursor.skip
        else readGap indentation steps { gap with blanks := c :: gap.blanks } cursor.skip
      else if isBreak c then
        let (lineEnd, cursor) := cursor.readBreak
        if gap.broken then
          readGap indentation steps { gap with moreBreaks := lineEnd ++ gap.moreBreaks } cursor
        else readGap indentation steps { firstBreak := lineEnd, broken := true } cursor
      else some (gap, cursor)

def isFlowMark (c : Char) : Bool := c ∈ [',', '[', ']', '\x7b', '\x7d']

def readPlainWord (inFlow : Bool) : Nat → List Char → Cursor → Option (List Char × Cursor)
  | 0, word, cursor => some (word, cursor)
  | steps + 1, word, cursor =>
    match cursor.rest with
    | [] => some (word, cursor)
    | c :: _ =>
      if isBlank c || isBreak c then some (word, cursor)
      else if inFlow && c = ':' &&
          ((cursor.peek? 1).map fun next => isFlowMark next || next = '?').getD false then none
      else if (c = ':' && cursor.blankAhead 1) || (inFlow && isFlowMark c) then some (word, cursor)
      else readPlainWord inFlow steps (c :: word) cursor.skip

/-- A plain scalar after the text and the gap read so far: the whole text, latest first, whether it
was followed by a line end, and the cursor past it. -/
def readPlain (inFlow : Bool) (indentation : Nat) :
    Nat → List Char → Gap → Cursor → Option (List Char × Bool × Cursor)
  | 0, text, gap, cursor => some (text, gap.broken, cursor)
  | steps + 1, text, gap, cursor =>
    if cursor.atDocumentMark || cursor.isAt '#' then some (text, gap.broken, cursor)
    else
      match readPlainWord inFlow (steps + 1) [] cursor with
      | none => none
      | some (word, cursor) =>
        let (text, gap) := if word.isEmpty then (text, gap) else (word ++ (gap.folded ++ text), {})
        if !cursor.atBlank && !cursor.atBreak then some (text, gap.broken, cursor)
        else
          match readGap indentation (steps + 1) gap cursor with
          | none => none
          | some (gap, cursor) =>
            if !inFlow && cursor.column < indentation then some (text, gap.broken, cursor)
            else readPlain inFlow indentation steps text gap cursor

def escaped? : Char → Option Char
  | '0' => some '\x00'
  | 'a' => some '\x07'
  | 'b' => some '\x08'
  | 't' | '\t' => some '\t'
  | 'n' => some '\n'
  | 'v' => some '\x0b'
  | 'f' => some '\x0c'
  | 'r' => some '\r'
  | 'e' => some '\x1b'
  | ' ' => some ' '
  | '"' => some '"'
  | '/' => some '/'
  | '\\' => some '\\'
  | 'N' => some '\x85'
  | '_' => some '\xa0'
  | 'L' => some '\u2028'
  | 'P' => some '\u2029'
  | _ => none

def escapeDigits? : Char → Option Nat
  | 'x' => some 2
  | 'u' => some 4
  | 'U' => some 8
  | _ => none

def characterOfDigits? (digits : List Char) : Option Char :=
  (digits.mapM hexDigit?).bind fun digits =>
    let code := digits.foldl (fun code digit => code * 16 + digit) 0
    if code.isValidChar then some (Char.ofNat code) else none

def readEscape (cursor : Cursor) : Option (Char × Cursor) :=
  match cursor.peek? 1 with
  | none => none
  | some letter =>
    match escapeDigits? letter with
    | none => (escaped? letter).map fun c => (c, cursor.skipMany 2)
    | some count =>
      let digits := (cursor.rest.drop 2).take count
      if digits.length = count then
        (characterOfDigits? digits).map fun c => (c, cursor.skipMany (2 + count))
      else none

/-- The characters of a quoted scalar up to a blank or the closing quote, latest first and after
those read so far, whether a line end after a backslash followed, and the cursor past them. -/
def readQuotedWord (single : Bool) : Nat → List Char → Cursor → Option (List Char × Bool × Cursor)
  | 0, text, cursor => some (text, false, cursor)
  | steps + 1, text, cursor =>
    match cursor.rest with
    | [] => some (text, false, cursor)
    | c :: _ =>
      if isBlank c || isBreak c then some (text, false, cursor)
      else if single then
        if c = '\'' then
          if cursor.peek? 1 = some '\'' then
            readQuotedWord single steps ('\'' :: text) (cursor.skipMany 2)
          else some (text, false, cursor)
        else readQuotedWord single steps (c :: text) cursor.skip
      else if c = '"' then some (text, false, cursor)
      else if c = '\\' then
        if ((cursor.peek? 1).map isBreak).getD false then
          some (text, true, cursor.skip.readBreak.2)
        else
          match readEscape cursor with
          | none => none
          | some (c, cursor) => readQuotedWord single steps (c :: text) cursor
      else readQuotedWord single steps (c :: text) cursor.skip

def readQuoted (single : Bool) : Nat → List Char → Cursor → Option (List Char × Cursor)
  | 0, _, _ => none
  | steps + 1, text, cursor =>
    if cursor.atDocumentMark || cursor.rest.isEmpty then none
    else
      match readQuotedWord single (steps + 1) text cursor with
      | none => none
      | some (text, joined, cursor) =>
        if cursor.isAt (if single then '\'' else '"') then some (text, cursor.skip)
        else
          match readGap 0 (steps + 1) { broken := joined } cursor with
          | none => none
          | some (gap, cursor) => readQuoted single steps (gap.folded ++ text) cursor

end SharpLint.Yaml
