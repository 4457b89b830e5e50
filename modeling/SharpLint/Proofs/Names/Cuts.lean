import SharpLint.Names.Placeholder
import SharpLint.Names.Words
import SharpLint.Proofs.Text.Offsets

/-!
# Names cut out of texts

Words and placeholders are found by walking along a text with offsets in hand and cutting pieces out
of it. Such a walk fails when it cuts inside a character or looks at a byte past the end. It never
does, and it finds what is defined on characters:

* `cutWords?_eq`: a name falls into its words;
* `scanPlaceholders?_eq`: the bytes of a text show its placeholders.
-/

namespace SharpLint.Names

open Text

/-! ## Words -/

/-- The word that starts at one offset and ends at another; none if none has started. -/
def cutWord? (name : List Char) (start : Option Nat) (stop : Nat) : Option (List (List Char)) :=
  match start with
  | none => some []
  | some start => (between? name start stop).map ([·])

/-- The words of a name that are still to be cut out when the walk is at an offset, with the
characters that follow. -/
def cutWordsFrom? (name : List Char) (start : Option Nat) (offset : Nat) :
    List Char → Option (List (List Char))
  | [] => cutWord? name start (byteLength name)
  | c :: cs => do
    let next := offset + c.utf8Size
    if !isAlphanumeric c then
      return (← cutWord? name start offset) ++ (← cutWordsFrom? name none next cs)
    else if isUppercase c then
      return (← cutWord? name start offset) ++ (← cutWordsFrom? name (some offset) next cs)
    else cutWordsFrom? name (start.or (some offset)) next cs

def cutWords? (name : List Char) : Option (List (List Char)) := cutWordsFrom? name none 0 name

/-- The walk through a name is at an offset, after the characters of the current word, which are
listed in reverse, and before the characters that follow. -/
def Walking (name : List Char) (start : Option Nat) (offset : Nat) (current cs : List Char) :
    Prop :=
  ∃ done, name = done ++ (current.reverse ++ cs) ∧
    start = (if current = [] then none else some (byteLength done)) ∧
    offset = byteLength done + byteLength current.reverse

theorem Walking.start (name : List Char) : Walking name none 0 [] name := ⟨[], rfl, rfl, rfl⟩

theorem Walking.cutWord? {name current cs : List Char} {start : Option Nat} {offset : Nat}
    (walking : Walking name start offset current cs) :
    cutWord? name start offset = some (closeWord current) := by
  obtain ⟨done, split, rfl, rfl⟩ := walking
  cases current with
  | nil => rfl
  | cons c current =>
      have cut : between? name (byteLength done)
          (byteLength done + byteLength (c :: current).reverse) = some (c :: current).reverse :=
        between?_eq_some.mpr ⟨done, cs, split, rfl, rfl⟩
      rw [if_neg (List.cons_ne_nil _ _), Names.cutWord?, cut]
      rfl

section

variable {name current cs : List Char} {c : Char} {start : Option Nat} {offset : Nat}
  (walking : Walking name start offset current (c :: cs))
include walking

theorem Walking.leave : Walking name none (offset + c.utf8Size) [] cs := by
  obtain ⟨done, rfl, -, rfl⟩ := walking
  refine ⟨done ++ (current.reverse ++ [c]), by simp, rfl, ?_⟩
  simp only [byteLength_append, byteLength_cons, byteLength_nil, List.reverse_nil]
  omega

theorem Walking.enter : Walking name (some offset) (offset + c.utf8Size) [c] cs := by
  obtain ⟨done, rfl, -, rfl⟩ := walking
  exact ⟨done ++ current.reverse, by simp, by simp, by simp⟩

theorem Walking.extend :
    Walking name (start.or (some offset)) (offset + c.utf8Size) (c :: current) cs := by
  obtain ⟨done, rfl, rfl, rfl⟩ := walking
  refine ⟨done, by simp, ?_, ?_⟩
  · cases current <;> simp
  · simp only [List.reverse_cons, byteLength_append, byteLength_cons, byteLength_nil]
    omega

end

theorem cutWordsFrom?_eq {name current cs : List Char} {start : Option Nat} {offset : Nat}
    (walking : Walking name start offset current cs) :
    cutWordsFrom? name start offset cs = some (wordsAfter current cs) := by
  induction cs generalizing start offset current with
  | nil =>
      have last : offset = byteLength name := by
        obtain ⟨done, rfl, -, rfl⟩ := walking
        simp
      rw [cutWordsFrom?, ← last, walking.cutWord?, wordsAfter]
  | cons c cs ih =>
      rw [cutWordsFrom?, wordsAfter, walking.cutWord?, ih walking.leave, ih walking.enter,
        ih walking.extend]
      split
      · rfl
      · split <;> rfl

theorem cutWords?_eq (name : List Char) : cutWords? name = some (words name) :=
  cutWordsFrom?_eq (.start name)

/-! ## Placeholders -/

def isOpening (c : Char) : Bool := c = '\x7b'

def isClosing (c : Char) : Bool := c = '\x7d' || c = ':' || c = ','

def nameEnd? (bytes : List UInt8) (offset : Nat) : Option Nat :=
  if offset < bytes.length then do
    let byte ← bytes[offset]?
    if isPlaceholderCharacter (.ofUInt8 byte) then nameEnd? bytes (offset + 1) else return offset
  else return offset
termination_by bytes.length - offset

/-- The name between two offsets, if it is one and ends as a placeholder does. -/
def cutPlaceholder? (text : List Char) (bytes : List UInt8) (start stop : Nat) :
    Option (List String) := do
  if start < stop then
    let first ← bytes[start]?
    if !(Char.ofUInt8 first).isDigit && (bytes[stop]?).any (isClosing <| .ofUInt8 ·) then
      return [String.ofList (← between? text start stop)]
    else return []
  else return []

def scanFrom? (text : List Char) (bytes : List UInt8) (offset : Nat) : Option (List String) :=
  if offset < bytes.length then do
    let byte ← bytes[offset]?
    if !isOpening (.ofUInt8 byte) then scanFrom? text bytes (offset + 1)
    else if (bytes[offset + 1]?).any (isOpening <| .ofUInt8 ·) then
      scanFrom? text bytes (offset + 2)
    else
      let stop ← nameEnd? bytes (offset + 1)
      let found ← cutPlaceholder? text bytes (offset + 1) stop
      let more ← scanFrom? text bytes (max stop (offset + 1))
      return found ++ more
  else return []
termination_by bytes.length - offset

def scanPlaceholders? (text : String) : Option (List String) :=
  scanFrom? text.toList (encode text.toList) 0

/-! ## Characters that bytes are compared with -/

theorem isAscii_isPlaceholderCharacter : IsAscii isPlaceholderCharacter := by
  intro c holds
  delta isPlaceholderCharacter Char.isAlphanum Char.isAlpha Char.isUpper Char.isLower Char.isDigit
    at holds
  simp only [Bool.or_eq_true, Bool.and_eq_true, decide_eq_true_eq, UInt32.le_iff_toNat_le] at holds
  rcases holds with (((⟨-, small⟩ | ⟨-, small⟩) | ⟨-, small⟩) | rfl)
  · exact Nat.lt_of_le_of_lt small (by decide)
  · exact Nat.lt_of_le_of_lt small (by decide)
  · exact Nat.lt_of_le_of_lt small (by decide)
  · decide

theorem isAscii_isOpening : IsAscii isOpening := by
  intro c holds
  rw [isOpening, decide_eq_true_eq] at holds
  rw [holds]
  decide

theorem isAscii_isClosing : IsAscii isClosing := by
  intro c holds
  simp only [isClosing, Bool.or_eq_true, decide_eq_true_eq] at holds
  rcases holds with (rfl | rfl) | rfl <;> decide

theorem isAscii_isDigit : IsAscii Char.isDigit := by
  intro c digit
  exact isAscii_isPlaceholderCharacter c (by simp [isPlaceholderCharacter, Char.isAlphanum, digit])

theorem isOpening_of_isPlaceholderCharacter {c : Char} (holds : isPlaceholderCharacter c = true) :
    isOpening c = false := by
  apply decide_eq_false
  rintro rfl
  exact absurd holds (by decide)

/-! ## Names in the bytes of a text -/

theorem nameEnd?_eq (front cs : List Char) :
    nameEnd? (encode (front ++ cs)) (byteLength front) =
      some (byteLength (front ++ cs.takeWhile isPlaceholderCharacter)) := by
  induction cs generalizing front with
  | nil =>
      rw [nameEnd?, if_neg (by simp)]
      simp
  | cons c cs ih =>
      obtain ⟨byte, member, found⟩ := exists_getElem?_encode front c cs
      have inside := (List.getElem?_eq_some_iff.mp found).1
      have same := eq_of_mem_utf8EncodeChar isAscii_isPlaceholderCharacter byte member
      rw [nameEnd?, if_pos inside, found, Option.bind_eq_bind, Option.bind_some, same]
      by_cases holds : isPlaceholderCharacter c = true
      · have next : byteLength front + 1 = byteLength (front ++ [c]) := by
          simp [utf8Size_of_ascii (isAscii_isPlaceholderCharacter c holds)]
        rw [if_pos holds, next, ← List.singleton_append, ← List.append_assoc, ih (front ++ [c]),
          List.singleton_append, List.takeWhile_cons_of_pos holds, List.append_assoc,
          List.singleton_append]
      · rw [if_neg holds, List.takeWhile_cons_of_neg holds, List.append_nil]
        rfl

theorem cutPlaceholder?_eq (front cs : List Char) :
    cutPlaceholder? (front ++ cs) (encode (front ++ cs)) (byteLength front)
      (byteLength (front ++ cs.takeWhile isPlaceholderCharacter)) =
        some (placeholderAt? cs).toList := by
  unfold cutPlaceholder? placeholderAt?
  have split := List.takeWhile_append_dropWhile (p := isPlaceholderCharacter) (l := cs)
  generalize cs.takeWhile isPlaceholderCharacter = name at split ⊢
  generalize cs.dropWhile isPlaceholderCharacter = rest at split ⊢
  subst split
  cases name with
  | nil => simp
  | cons first name =>
      have positive := first.utf8Size_pos
      have started : byteLength front < byteLength (front ++ first :: name) := by
        rw [byteLength_append, byteLength_cons]
        omega
      obtain ⟨byte, member, found⟩ := exists_getElem?_encode front first (name ++ rest)
      have digit := eq_of_mem_utf8EncodeChar isAscii_isDigit byte member
      have closing := any_getElem?_encode isAscii_isClosing (front ++ first :: name) rest
      have cut : between? (front ++ (first :: name ++ rest)) (byteLength front)
          (byteLength (front ++ first :: name)) = some (first :: name) :=
        between?_eq_some.mpr ⟨front, rest, rfl, rfl, by simp⟩
      rw [List.append_assoc] at closing
      rw [if_pos started, List.cons_append, found, Option.bind_eq_bind, Option.bind_some, digit,
        ← List.cons_append, closing, cut]
      cases rest with
      | nil => simp
      | cons stop rest =>
          simp [isClosing]
          split <;> rfl

/-! ## The walk over the bytes -/

section

variable {text : List Char} {bytes : List UInt8} {offset : Nat} {byte : UInt8}
  (found : bytes[offset]? = some byte)
include found

theorem scanFrom?_of_other (other : isOpening (.ofUInt8 byte) = false) :
    scanFrom? text bytes offset = scanFrom? text bytes (offset + 1) := by
  have inside := (List.getElem?_eq_some_iff.mp found).1
  rw [scanFrom?, if_pos inside, found, Option.bind_eq_bind, Option.bind_some, other]
  rfl

variable (opening : isOpening (.ofUInt8 byte) = true)
include opening

theorem scanFrom?_of_double
    (twice : (bytes[offset + 1]?).any (isOpening <| .ofUInt8 ·) = true) :
    scanFrom? text bytes offset = scanFrom? text bytes (offset + 2) := by
  have inside := (List.getElem?_eq_some_iff.mp found).1
  rw [scanFrom?, if_pos inside, found, Option.bind_eq_bind, Option.bind_some, opening, twice]
  rfl

theorem scanFrom?_of_single
    (once : (bytes[offset + 1]?).any (isOpening <| .ofUInt8 ·) = false) :
    scanFrom? text bytes offset = (do
      let stop ← nameEnd? bytes (offset + 1)
      let found ← cutPlaceholder? text bytes (offset + 1) stop
      let more ← scanFrom? text bytes (max stop (offset + 1))
      return found ++ more) := by
  have inside := (List.getElem?_eq_some_iff.mp found).1
  rw [scanFrom?, if_pos inside, found, Option.bind_eq_bind, Option.bind_some, opening, once]
  rfl

end

theorem scanFrom?_skip (text : List Char) (front skipped back : List UInt8)
    (none : ∀ byte ∈ skipped, isOpening (.ofUInt8 byte) = false) :
    scanFrom? text (front ++ (skipped ++ back)) front.length =
      scanFrom? text (front ++ (skipped ++ back)) (front.length + skipped.length) := by
  induction skipped generalizing front with
  | nil => rfl
  | cons byte skipped ih =>
      rw [List.forall_mem_cons] at none
      have found : (front ++ (byte :: skipped ++ back))[front.length]? = some byte := by simp
      have rest := ih (front ++ [byte]) none.2
      rw [scanFrom?_of_other found none.1]
      simpa [Nat.add_assoc, Nat.add_comm 1] using rest

theorem scanFrom?_skip_encode (text front skipped back : List Char)
    (none : ∀ c ∈ skipped, isOpening c = false) :
    scanFrom? text (encode (front ++ (skipped ++ back))) (byteLength front) =
      scanFrom? text (encode (front ++ (skipped ++ back))) (byteLength (front ++ skipped)) := by
  have bytes : ∀ byte ∈ encode skipped, isOpening (.ofUInt8 byte) = false := by
    intro byte member
    obtain ⟨c, present, inside⟩ := List.mem_flatMap.mp member
    rw [eq_of_mem_utf8EncodeChar isAscii_isOpening byte inside, none c present]
  have skip := scanFrom?_skip text (encode front) (encode skipped) (encode back) bytes
  simpa using skip

/-- After an opening brace that stands alone, the walk goes on behind the name that follows it. It
might as well go on right behind the brace. -/
theorem scanFrom?_opened (front cs : List Char) (alone : cs.head?.any isOpening = false) :
    scanFrom? (front ++ '\x7b' :: cs) (encode (front ++ '\x7b' :: cs)) (byteLength front) =
      (scanFrom? (front ++ '\x7b' :: cs) (encode (front ++ '\x7b' :: cs))
        (byteLength (front ++ ['\x7b']))).map ((placeholderAt? cs).toList ++ ·) := by
  obtain ⟨byte, member, found⟩ := exists_getElem?_encode front '\x7b' cs
  have opening := eq_of_mem_utf8EncodeChar isAscii_isOpening byte member
  have next : byteLength front + 1 = byteLength (front ++ ['\x7b']) := by
    rw [byteLength_append]
    rfl
  rw [List.append_cons] at found ⊢
  generalize front ++ ['\x7b'] = opened at found next ⊢
  have once := any_getElem?_encode isAscii_isOpening opened cs
  have skip := scanFrom?_skip_encode (opened ++ cs) opened (cs.takeWhile isPlaceholderCharacter)
    (cs.dropWhile isPlaceholderCharacter) fun c member =>
      isOpening_of_isPlaceholderCharacter (List.all_eq_true.mp List.all_takeWhile c member)
  rw [List.takeWhile_append_dropWhile] at skip
  have further : byteLength opened ≤
      byteLength (opened ++ cs.takeWhile isPlaceholderCharacter) := by simp
  rw [alone, ← next] at once
  rw [scanFrom?_of_single found opening once, next, nameEnd?_eq]
  simp only [Option.bind_eq_bind, Option.bind_some, cutPlaceholder?_eq]
  rw [Nat.max_eq_left further, ← skip]
  cases scanFrom? (opened ++ cs) (encode (opened ++ cs)) (byteLength opened) <;> rfl

theorem scanFrom?_eq (front cs : List Char) :
    scanFrom? (front ++ cs) (encode (front ++ cs)) (byteLength front) =
      some (placeholdersIn cs) := by
  fun_induction placeholdersIn cs generalizing front with
  | case1 =>
      rw [scanFrom?, if_neg (by simp)]
      rfl
  | case2 cs ih =>
      obtain ⟨byte, member, found⟩ := exists_getElem?_encode front '\x7b' ('\x7b' :: cs)
      have opening := eq_of_mem_utf8EncodeChar isAscii_isOpening byte member
      have twice := any_getElem?_encode isAscii_isOpening (front ++ ['\x7b']) ('\x7b' :: cs)
      have rest := ih (front ++ ['\x7b', '\x7b'])
      simp only [List.append_assoc, List.cons_append, List.nil_append,
        byteLength_append] at twice rest
      rw [scanFrom?_of_double found opening twice]
      exact rest
  | case3 cs single ih =>
      have alone : cs.head?.any isOpening = false := by
        cases cs with
        | nil => rfl
        | cons c cs => simpa [isOpening] using fun same => single cs (by rw [same])
      rw [scanFrom?_opened front cs alone, List.append_cons, ih (front ++ ['\x7b'])]
      rfl
  | case4 c cs notDouble notOpening ih =>
      -- A longer character is passed byte by byte, and none of its bytes is a brace.
      have other : isOpening c = false := by simpa [isOpening] using notOpening
      have skip := scanFrom?_skip_encode (front ++ c :: cs) front [c] cs (by simpa using other)
      rw [List.singleton_append] at skip
      rw [skip, List.append_cons, ih (front ++ [c])]

theorem scanPlaceholders?_eq (text : String) :
    scanPlaceholders? text = some (placeholdersOf text) :=
  scanFrom?_eq [] text.toList

end SharpLint.Names
