import SharpLint.Yaml.Cursor

/-!
# Block scalars

A block scalar starts after a header line and goes on as long as lines are indented. A literal one
keeps its line ends, a folded one joins lines that are not indented further. The header says what
becomes of the line ends at the end.
-/

namespace SharpLint.Yaml

inductive Chomping where
  | strip
  | clip
  | keep
deriving DecidableEq

def chomping? : Char → Option Chomping
  | '+' => some .keep
  | '-' => some .strip
  | _ => none

def readChomping (cursor : Cursor) : Chomping × Cursor :=
  match cursor.rest.head?.bind chomping? with
  | some chomping => (chomping, cursor.skip)
  | none => (.clip, cursor)

def readIncrement (cursor : Cursor) : Option (Nat × Cursor) :=
  match cursor.rest with
  | c :: _ =>
    if c = '0' then none
    else if c.isDigit then some (c.toNat - '0'.toNat, cursor.skip)
    else some (0, cursor)
  | [] => some (0, cursor)

def readHeader (cursor : Cursor) : Option (Chomping × Nat × Cursor) :=
  let finish (chomping : Chomping) (increment : Nat) (cursor : Cursor) :
      Option (Chomping × Nat × Cursor) :=
    let cursor := cursor.skipToLineEnd
    if cursor.atLineEnd then some (chomping, increment, cursor.readBreak.2) else none
  match cursor.rest.head?.bind chomping? with
  | some chomping =>
    (readIncrement cursor.skip).bind fun (increment, cursor) => finish chomping increment cursor
  | none =>
    (readIncrement cursor).bind fun (increment, cursor) =>
      if increment = 0 then finish .clip 0 cursor
      else
        let (chomping, cursor) := readChomping cursor
        finish chomping increment cursor

/-- Empty lines at the cursor: their line ends, latest first and after those read so far, the
deepest column seen, and the cursor at the first line that is not empty. Without an indentation all
leading blanks belong to it. -/
def readEmptyLines (indentation : Option Nat) :
    Nat → List Char → Nat → Cursor → Option (List Char × Nat × Cursor)
  | 0, breaks, deepest, cursor => some (breaks, deepest, cursor)
  | steps + 1, breaks, deepest, cursor =>
    let blanks := (cursor.rest.takeWhile (· == ' ')).length
    let wanted := (indentation.map (· - cursor.column)).getD blanks
    let cursor := cursor.skipMany (min blanks wanted)
    let deepest := max deepest cursor.column
    if cursor.isAt '\t' && (indentation.all (cursor.column < ·)) then none
    else if cursor.atBreak then
      let (lineEnd, cursor) := cursor.readBreak
      readEmptyLines indentation steps (lineEnd ++ breaks) deepest cursor
    else some (breaks, deepest, cursor)

/-- What a block scalar has gathered: its text, the line end after the last line, the line ends of
the empty lines after that, and whether the last line started with a blank. All characters stand
latest first. -/
structure BlockText where
  text : List Char := []
  lineEnd : List Char := []
  emptyLines : List Char := []
  indented : Bool := false

def BlockText.addLine (block : BlockText) (literal : Bool) (line lineEnd emptyLines : List Char) :
    BlockText :=
  let indented := (line.head?.map isBlank).getD false
  let between :=
    if !literal && block.lineEnd.head? = some '\n' && !block.indented && !indented then
      if block.emptyLines.isEmpty then [' '] else block.emptyLines
    else block.emptyLines ++ block.lineEnd
  { text := line.reverse ++ (between ++ block.text), lineEnd, emptyLines, indented }

def readLines (literal : Bool) (indentation : Nat) :
    Nat → BlockText → Cursor → Option (BlockText × Cursor)
  | 0, block, cursor => some (block, cursor)
  | steps + 1, block, cursor =>
    if cursor.column = indentation && !cursor.rest.isEmpty then
      let line := cursor.rest.takeWhile (!isBreak ·)
      let (lineEnd, cursor) := (cursor.skipMany line.length).readBreak
      match readEmptyLines (some indentation) (steps + 1) [] 0 cursor with
      | none => none
      | some (emptyLines, _, cursor) =>
        readLines literal indentation steps (block.addLine literal line lineEnd emptyLines) cursor
    else some (block, cursor)

/-- A block scalar after its mark, inside a construct indented to the given column if there is
one. Its text stands latest first. -/
def readBlockScalar (literal : Bool) (parent : Option Nat) (steps : Nat) (cursor : Cursor) :
    Option (List Char × Cursor) :=
  (readHeader cursor).bind fun (chomping, increment, cursor) =>
    let given := if increment = 0 then none else some (parent.getD 0 + increment)
    (readEmptyLines given steps [] 0 cursor).bind fun (emptyLines, deepest, cursor) =>
      let least := max ((parent.map (· + 1)).getD 0) 1
      let indentation := given.getD (max deepest least)
      (readLines literal indentation steps { emptyLines } cursor).map fun (block, cursor) =>
        let ending :=
          match chomping with
          | .strip => []
          | .clip => block.lineEnd
          | .keep => block.emptyLines ++ block.lineEnd
        (ending ++ block.text, cursor)

end SharpLint.Yaml
