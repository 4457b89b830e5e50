import SharpLint.Source

/-!
# Patterns of paths

A pattern is matched against the bytes of a path. `?` and `*` match any byte and any bytes, `/`
included; `**` has a meaning of its own when it is a whole component of the path. A class in
brackets matches one byte, and braces hold alternatives.

Matching keeps track of places: before, between and after the bytes of the path. Every part of a
pattern leads from a set of places to the places where it may end, so a path is looked at once for
every part, however many ways there are to match it.
-/

namespace SharpLint.Glob

inductive Part where
  | literal (character : Char)
  | any
  | many
  /-- `**/` at the start: nothing, or a path up to a slash. -/
  | leading
  /-- `/**` at the end: a slash and anything after it. -/
  | trailing
  /-- `/**/` inside: a slash, or a path between two slashes. -/
  | between
  | oneOf (negated : Bool) (ranges : List (Char × Char))
  | alternatives (branches : List (List Part))

/-- The bytes from one character to another. Characters beyond ASCII count byte by byte: the range
runs from the last byte of the first to the first byte of the last. -/
def inByteRange (byte : UInt8) (first last : Char) : Bool :=
  let low := String.utf8EncodeChar first
  let high := String.utf8EncodeChar last
  if first = last then byte ∈ low
  else
    byte ∈ low.dropLast || byte ∈ high.tail ||
      (low.getLast?.getD 0 ≤ byte && byte ≤ high.head?.getD 0)

def slash : UInt8 := 47

abbrev Places := List Bool

namespace Places

def start (count : Nat) : Places := true :: List.replicate count false

def none (places : Places) : Places := places.map fun _ => false

def union (a b : Places) : Places := List.zipWith (· || ·) a b

def step (bytes : List UInt8) (accepts : UInt8 → Bool) (places : Places) : Places :=
  false :: List.zipWith (fun byte reached => reached && accepts byte) bytes places

def onward (reached : Bool) : Places → Places
  | [] => []
  | place :: places => (reached || place) :: onward (reached || place) places

end Places

mutual

def Part.isVoid : Part → Bool
  | .alternatives branches => allVoidBranches branches
  | _ => false

def allVoid : List Part → Bool
  | [] => true
  | part :: parts => part.isVoid && allVoid parts

def allVoidBranches : List (List Part) → Bool
  | [] => true
  | branch :: branches => allVoid branch && allVoidBranches branches

end

mutual

def Part.reach (bytes : List UInt8) : Part → Places → Places
  | .literal character, places =>
    (String.utf8EncodeChar character).foldl
      (fun places byte => places.step bytes (· == byte)) places
  | .any, places => places.step bytes fun _ => true
  | .many, places => places.onward false
  | .leading, places => places.union ((places.onward false).step bytes (· == slash))
  | .trailing, places => (places.step bytes (· == slash)).onward false
  | .between, places =>
    let places := places.step bytes (· == slash)
    places.union ((places.onward false).step bytes (· == slash))
  | .oneOf negated ranges, places =>
    places.step bytes fun byte =>
      ranges.any (fun (first, last) => inByteRange byte first last) != negated
  | .alternatives branches, places =>
    if allVoidBranches branches then places else reachAny bytes branches places

def reachAll (bytes : List UInt8) : List Part → Places → Places
  | [], places => places
  | part :: parts, places => reachAll bytes parts (part.reach bytes places)

def reachAny (bytes : List UInt8) : List (List Part) → Places → Places
  | [], places => places.none
  | branch :: branches, places =>
    if allVoid branch then reachAny bytes branches places
    else (reachAll bytes branch places).union (reachAny bytes branches places)

end

/-- The pattern matches the whole path. The pattern `**` alone matches every path. -/
def isMatch (parts : List Part) (path : String) : Bool :=
  match parts with
  | [.leading] => true
  | parts =>
    let bytes := utf8 path
    (reachAll bytes parts (Places.start bytes.length)).getLast? = some true

end SharpLint.Glob
