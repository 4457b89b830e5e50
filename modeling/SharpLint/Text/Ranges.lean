/-!
# Tables of code points

A character class beyond ASCII is a list of inclusive ranges of code points. Scripts with case
interleave capital and small letters, so a class of theirs also has stretches of which only every
second code point belongs to it.
-/

namespace SharpLint.Text

def inRanges (table : List (Nat × Nat)) (c : Char) : Bool :=
  table.any fun (first, last) => first ≤ c.toNat && c.toNat ≤ last

/-- The code point lies in one of the stretches, an even distance from its first code point. -/
def inAlternating (table : List (Nat × Nat)) (c : Char) : Bool :=
  table.any fun (first, last) => first ≤ c.toNat && c.toNat ≤ last && (c.toNat - first) % 2 == 0

def isAscii (c : Char) : Bool := c.toNat < 128

end SharpLint.Text
