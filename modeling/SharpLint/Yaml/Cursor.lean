/-!
# Reading YAML text

A cursor stands in front of the rest of a text and knows how far it has come. Lines end in a line
feed, a carriage return, both, or one of the separators beyond ASCII.
-/

namespace SharpLint.Yaml

def isBreak (c : Char) : Bool :=
  c = '\n' || c = '\r' || c = '\x85' || c = '\u2028' || c = '\u2029'

def isBlank (c : Char) : Bool := c = ' ' || c = '\t'

def isNameCharacter (c : Char) : Bool := c.isAlphanum || c = '_' || c = '-'

def isAllowed (c : Char) : Bool :=
  c = '\t' || c = '\n' || c = '\r' || (' ' ≤ c && c ≤ '~') || c = '\x85' ||
    ('\xa0' ≤ c && c ≠ '\ufffe' && c ≠ '\uffff')

def byteOrderMark : Char := '\ufeff'

/-- The rest of a text, with the number of bytes before it in UTF-8 and the line and column it
starts at, all counted from zero. -/
structure Cursor where
  rest : List Char
  bytes : Nat := 0
  line : Nat := 0
  column : Nat := 0

namespace Cursor

def peek? (cursor : Cursor) (ahead : Nat) : Option Char := cursor.rest[ahead]?

def isAt (cursor : Cursor) (c : Char) : Bool := cursor.rest.head? = some c

def atBlank (cursor : Cursor) : Bool := (cursor.rest.head?.map isBlank).getD false

def atBreak (cursor : Cursor) : Bool := (cursor.rest.head?.map isBreak).getD false

def atLineEnd (cursor : Cursor) : Bool := (cursor.rest.head?.map isBreak).getD true

def blankAhead (cursor : Cursor) (ahead : Nat) : Bool :=
  ((cursor.peek? ahead).map fun c => isBlank c || isBreak c).getD true

def skip (cursor : Cursor) : Cursor :=
  match cursor.rest with
  | [] => cursor
  | c :: rest =>
    { cursor with rest, bytes := cursor.bytes + c.utf8Size, column := cursor.column + 1 }

def skipMany : Nat → Cursor → Cursor
  | 0, cursor => cursor
  | count + 1, cursor => skipMany count cursor.skip

/-- What a line end stands for in a text, at most one character, and the cursor past it. -/
def readBreak (cursor : Cursor) : List Char × Cursor :=
  match cursor.rest with
  | '\r' :: '\n' :: rest =>
    (['\n'], { rest, bytes := cursor.bytes + 2, line := cursor.line + 1 })
  | c :: rest =>
    if isBreak c then
      ([if c = '\u2028' || c = '\u2029' then c else '\n'],
        { rest, bytes := cursor.bytes + c.utf8Size, line := cursor.line + 1 })
    else ([], cursor)
  | [] => ([], cursor)

def skipWhile (condition : Char → Bool) (cursor : Cursor) : Cursor :=
  skipMany (cursor.rest.takeWhile condition).length cursor

def skipToLineEnd (cursor : Cursor) : Cursor :=
  let cursor := cursor.skipWhile isBlank
  if cursor.isAt '#' then cursor.skipWhile (!isBreak ·) else cursor

def atDocumentMark (cursor : Cursor) : Bool :=
  cursor.column = 0 &&
    ("---".toList.isPrefixOf cursor.rest || "...".toList.isPrefixOf cursor.rest) &&
    cursor.blankAhead 3

end Cursor

end SharpLint.Yaml
