import SharpLint.Text.Ranges

/-!
# Blank characters

White space of every script, and removing it from the ends or the whole of a text.
-/

namespace SharpLint.Text

def blankRanges : List (Nat × Nat) :=
  [(0x85, 0x85), (0xA0, 0xA0), (0x1680, 0x1680), (0x2000, 0x200A), (0x2028, 0x2029),
   (0x202F, 0x202F), (0x205F, 0x205F), (0x3000, 0x3000)]

/-- White space: the ASCII controls from tab to carriage return, the space, and the spaces and
separators beyond ASCII. -/
def isBlank (c : Char) : Bool :=
  if isAscii c then c = ' ' || ('\t' ≤ c && c ≤ '\r') else inRanges blankRanges c

def allBlank (text : String) : Bool := text.toList.all isBlank

def trim (cs : List Char) : List Char :=
  ((cs.dropWhile isBlank).reverse.dropWhile isBlank).reverse

def squeeze (text : String) : String :=
  String.ofList (text.toList.filter (!isBlank ·))

end SharpLint.Text
