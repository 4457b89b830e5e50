/-!
# Source text and places in it

Offsets into a source count the bytes of its UTF-8 form. A position is the line and the column of
an offset, both counted from one, the column in bytes. A span joins two offsets with their
positions. A source keeps a mark for every offset, so that positions and slices are looked up
rather than counted.
-/

namespace SharpLint

def utf8 (text : String) : List UInt8 := text.toList.flatMap String.utf8EncodeChar

structure Position where
  line : Nat
  column : Nat
deriving DecidableEq, Repr

def Position.after (position : Position) (c : Char) : Position :=
  if c = '\n' then ⟨position.line + 1, 1⟩ else ⟨position.line, position.column + c.utf8Size⟩

/-- What is at an offset: its position, and the characters from there on if it is not inside one. -/
structure Mark where
  position : Position
  rest : Option (List Char)

def marksInside (position : Position) (c : Char) : List Mark :=
  (List.range (c.utf8Size - 1)).map fun more =>
    { position := ⟨position.line, position.column + more + 1⟩, rest := none }

def addMarks (marks : Array Mark) (position : Position) : List Char → Array Mark
  | [] => marks.push { position, rest := some [] }
  | c :: cs =>
    addMarks (marks.push { position, rest := some (c :: cs) } ++ marksInside position c)
      (position.after c) cs

def marksOf (text : String) : Array Mark := addMarks #[] ⟨1, 1⟩ text.toList

structure Source where
  text : String
  marks : Array Mark := marksOf text
  marks_eq : marks = marksOf text := by rfl

structure Span where
  startByte : Nat := 0
  endByte : Nat := 0
  startLine : Nat := 0
  startColumn : Nat := 0
  endLine : Nat := 0
  endColumn : Nat := 0
deriving DecidableEq, Repr, Inhabited

namespace Source

def bytes (source : Source) : List UInt8 := utf8 source.text

/-- The position of an offset: its line is one more than the line ends before it, and its column one
more than the bytes after the last of them. Past the end it is that of the end. -/
def position (source : Source) (offset : Nat) : Position :=
  ((source.marks[offset]?.or source.marks.back?).map (·.position)).getD ⟨1, 1⟩

def lineAt (source : Source) (offset : Nat) : Nat := (source.position offset).line

def columnAt (source : Source) (offset : Nat) : Nat := (source.position offset).column

def span (source : Source) (start stop : Nat) : Span where
  startByte := start
  endByte := stop
  startLine := source.lineAt start
  startColumn := source.columnAt start
  endLine := source.lineAt stop
  endColumn := source.columnAt stop

/-- The characters that make up a number of bytes, if that many bytes are whole characters. -/
def takeBytes : Nat → List Char → Option (List Char)
  | 0, _ => some []
  | _ + 1, [] => none
  | n + 1, c :: cs =>
    if c.utf8Size ≤ n + 1 then (takeBytes (n + 1 - c.utf8Size) cs).map (c :: ·) else none

/-- The text between two offsets; empty when one of them is inside a character or past the end. -/
def slice (source : Source) (start stop : Nat) : String :=
  let rest := source.marks[start]?.bind (·.rest)
  String.ofList ((rest.bind (takeBytes (stop - start))).getD [])

end Source

namespace Span

def start (span : Span) : Position := ⟨span.startLine, span.startColumn⟩

/-- From the first start to the last end. The column of the end is that of the span that starts
later. -/
def cover (a b : Span) : Span :=
  let (first, second) := if a.startByte ≤ b.startByte then (a, b) else (b, a)
  { startByte := first.startByte
    endByte := max second.endByte first.endByte
    startLine := first.startLine
    startColumn := first.startColumn
    endLine := max second.endLine first.endLine
    endColumn := second.endColumn }

def label (span : Span) : String := s!"{span.startLine}:{span.startColumn}"

end Span

end SharpLint
