import SharpLint.Source

/-!
# SHA-256

The digest that identifies blocks of code by their content. The message is padded to whole blocks
of sixty-four bytes; each block is spread over sixty-four words and mixed into a state of eight.
-/

namespace SharpLint.Digest

def roundConstants : List UInt32 :=
  [0x428a2f98, 0x71374491, 0xb5c0fbcf, 0xe9b5dba5, 0x3956c25b, 0x59f111f1, 0x923f82a4, 0xab1c5ed5,
   0xd807aa98, 0x12835b01, 0x243185be, 0x550c7dc3, 0x72be5d74, 0x80deb1fe, 0x9bdc06a7, 0xc19bf174,
   0xe49b69c1, 0xefbe4786, 0x0fc19dc6, 0x240ca1cc, 0x2de92c6f, 0x4a7484aa, 0x5cb0a9dc, 0x76f988da,
   0x983e5152, 0xa831c66d, 0xb00327c8, 0xbf597fc7, 0xc6e00bf3, 0xd5a79147, 0x06ca6351, 0x14292967,
   0x27b70a85, 0x2e1b2138, 0x4d2c6dfc, 0x53380d13, 0x650a7354, 0x766a0abb, 0x81c2c92e, 0x92722c85,
   0xa2bfe8a1, 0xa81a664b, 0xc24b8b70, 0xc76c51a3, 0xd192e819, 0xd6990624, 0xf40e3585, 0x106aa070,
   0x19a4c116, 0x1e376c08, 0x2748774c, 0x34b0bcb5, 0x391c0cb3, 0x4ed8aa4a, 0x5b9cca4f, 0x682e6ff3,
   0x748f82ee, 0x78a5636f, 0x84c87814, 0x8cc70208, 0x90befffa, 0xa4506ceb, 0xbef9a3f7, 0xc67178f2]

structure State where
  a : UInt32 := 0x6a09e667
  b : UInt32 := 0xbb67ae85
  c : UInt32 := 0x3c6ef372
  d : UInt32 := 0xa54ff53a
  e : UInt32 := 0x510e527f
  f : UInt32 := 0x9b05688c
  g : UInt32 := 0x1f83d9ab
  h : UInt32 := 0x5be0cd19

namespace State

def words (s : State) : List UInt32 := [s.a, s.b, s.c, s.d, s.e, s.f, s.g, s.h]

def add (s t : State) : State :=
  { a := s.a + t.a, b := s.b + t.b, c := s.c + t.c, d := s.d + t.d
    e := s.e + t.e, f := s.f + t.f, g := s.g + t.g, h := s.h + t.h }

end State

def rotate (word count : UInt32) : UInt32 := (word >>> count) ||| (word <<< (32 - count))

def round (s : State) (word constant : UInt32) : State :=
  let choice := (s.e &&& s.f) ^^^ (~~~s.e &&& s.g)
  let majority := (s.a &&& s.b) ^^^ (s.a &&& s.c) ^^^ (s.b &&& s.c)
  let added := s.h + (rotate s.e 6 ^^^ rotate s.e 11 ^^^ rotate s.e 25) + choice + constant + word
  { a := added + (rotate s.a 2 ^^^ rotate s.a 13 ^^^ rotate s.a 22) + majority
    b := s.a, c := s.b, d := s.c, e := s.d + added, f := s.e, g := s.f, h := s.g }

/-- The next words of a schedule whose last sixteen words are given, the latest first. -/
def extend : Nat → List UInt32 → List UInt32
  | 0, _ => []
  | count + 1, recent =>
    let before (distance : Nat) : UInt32 := recent.getD (distance - 1) 0
    let near := before 2
    let far := before 15
    let word := (rotate near 17 ^^^ rotate near 19 ^^^ (near >>> 10)) + before 7 +
      (rotate far 7 ^^^ rotate far 18 ^^^ (far >>> 3)) + before 16
    word :: extend count (word :: recent.take 15)

def blockWords : List UInt8 → List UInt32
  | a :: b :: c :: d :: rest =>
    ((a.toUInt32 <<< 24) ||| (b.toUInt32 <<< 16) ||| (c.toUInt32 <<< 8) ||| d.toUInt32) ::
      blockWords rest
  | _ => []

def compress (s : State) (block : List UInt8) : State :=
  let words := blockWords block
  let schedule := words ++ extend 48 words.reverse
  s.add ((schedule.zip roundConstants).foldl (fun s (word, constant) => round s word constant) s)

def bigEndian (count : Nat) (number : Nat) : List UInt8 :=
  (List.range count).reverse.map fun place => UInt8.ofNat (number >>> (8 * place))

/-- The message followed by a one bit, zero bits and its length in bits, in whole blocks. -/
def padded (message : List UInt8) : List UInt8 :=
  let zeros := (119 - message.length % 64) % 64
  message ++ 0x80 :: (List.replicate zeros 0 ++ bigEndian 8 (message.length * 8))

def blocks (message : List UInt8) : List (List UInt8) :=
  (List.range (message.length / 64)).map fun index => (message.drop (64 * index)).take 64

def sha256 (message : List UInt8) : List UInt8 :=
  ((blocks (padded message)).foldl compress {}).words.flatMap fun word => bigEndian 4 word.toNat

def hex (bytes : List UInt8) : String :=
  String.ofList (bytes.flatMap fun byte =>
    [Nat.digitChar (byte.toNat / 16), Nat.digitChar (byte.toNat % 16)])

def ofText (text : String) : String := hex (sha256 (utf8 text))

end SharpLint.Digest
