import SharpLint.Source

/-!
# Cutting texts at offsets

Offsets count the bytes of the UTF-8 form. `between?` cuts a piece out of a text and fails when an
offset is past the end, inside a character, or before the one where the piece starts:
`between?_eq_some` says for which offsets there is a piece, and which one it is. Single bytes are
only ever compared with ASCII characters, and `eq_of_mem_utf8EncodeChar` says why that is sound: no
byte of a longer character looks like one.
-/

namespace SharpLint.Text

def byteLength : List Char → Nat
  | [] => 0
  | c :: cs => c.utf8Size + byteLength cs

def encode (cs : List Char) : List UInt8 := cs.flatMap String.utf8EncodeChar

/-- The characters before an offset and those after it, if it is not inside a character. -/
def splitAt? : Nat → List Char → Option (List Char × List Char)
  | 0, cs => some ([], cs)
  | _ + 1, [] => none
  | n + 1, c :: cs =>
    if c.utf8Size ≤ n + 1 then
      (splitAt? (n + 1 - c.utf8Size) cs).map fun (front, rest) => (c :: front, rest)
    else none

/-- The characters from one offset up to another. -/
def between? (cs : List Char) (start stop : Nat) : Option (List Char) :=
  if start ≤ stop then
    (splitAt? start cs).bind fun parts => (splitAt? (stop - start) parts.2).map (·.1)
  else none

/-! ## Pieces of a text -/

@[simp] theorem byteLength_nil : byteLength [] = 0 := rfl

@[simp] theorem byteLength_cons (c : Char) (cs : List Char) :
    byteLength (c :: cs) = c.utf8Size + byteLength cs := rfl

@[simp] theorem byteLength_append (cs more : List Char) :
    byteLength (cs ++ more) = byteLength cs + byteLength more := by
  induction cs with
  | nil => rw [List.nil_append, byteLength_nil, Nat.zero_add]
  | cons c cs ih => rw [List.cons_append, byteLength_cons, ih, byteLength_cons, Nat.add_assoc]

theorem splitAt?_eq_some {offset : Nat} {cs front rest : List Char} :
    splitAt? offset cs = some (front, rest) ↔ cs = front ++ rest ∧ byteLength front = offset := by
  constructor
  · intro split
    fun_induction splitAt? offset cs generalizing front with
    | case1 cs =>
        cases split
        exact ⟨rfl, rfl⟩
    | case2 => cases split
    | case3 count c cs fits ih =>
        obtain ⟨⟨taken, left⟩, inner, same⟩ := Option.map_eq_some_iff.mp split
        cases same
        obtain ⟨rfl, size⟩ := ih inner
        exact ⟨rfl, by rw [byteLength_cons, size, Nat.add_sub_of_le fits]⟩
    | case4 => cases split
  · rintro ⟨rfl, rfl⟩
    induction front with
    | nil => rw [byteLength_nil, List.nil_append, splitAt?]
    | cons c front ih =>
        have positive := Nat.add_pos_left c.utf8Size_pos (byteLength front)
        obtain ⟨before, size⟩ := Nat.exists_eq_add_one.mpr positive
        have left : before + 1 - c.utf8Size = byteLength front := by omega
        rw [byteLength_cons, size, List.cons_append, splitAt?, if_pos (by omega), left, ih]
        rfl

theorem between?_eq_some {cs piece : List Char} {start stop : Nat} :
    between? cs start stop = some piece ↔
      ∃ front back, cs = front ++ (piece ++ back) ∧ byteLength front = start ∧
        start + byteLength piece = stop := by
  constructor
  · intro cut
    rw [between?] at cut
    split at cut
    · rename_i ordered
      obtain ⟨⟨front, rest⟩, first, second⟩ := Option.bind_eq_some_iff.mp cut
      obtain ⟨⟨taken, back⟩, last, rfl⟩ := Option.map_eq_some_iff.mp second
      obtain ⟨rfl, rfl⟩ := splitAt?_eq_some.mp first
      obtain ⟨rfl, size⟩ := splitAt?_eq_some.mp last
      exact ⟨front, back, rfl, rfl, by rw [size, Nat.add_sub_of_le ordered]⟩
    · cases cut
  · rintro ⟨front, back, rfl, rfl, rfl⟩
    rw [between?, if_pos (Nat.le_add_right _ _), splitAt?_eq_some.mpr ⟨rfl, rfl⟩,
      Option.bind_some, Nat.add_sub_cancel_left, splitAt?_eq_some.mpr ⟨rfl, rfl⟩, Option.map_some]

/-! ## Bytes and characters -/

@[simp] theorem encode_cons (c : Char) (cs : List Char) :
    encode (c :: cs) = String.utf8EncodeChar c ++ encode cs := rfl

@[simp] theorem encode_append (cs more : List Char) :
    encode (cs ++ more) = encode cs ++ encode more :=
  List.flatMap_append

@[simp] theorem length_encode (cs : List Char) : (encode cs).length = byteLength cs := by
  induction cs with
  | nil => rfl
  | cons c cs ih =>
      rw [encode_cons, List.length_append, String.length_utf8EncodeChar, ih, byteLength_cons]

theorem toNat_val_ofUInt8 (byte : UInt8) : (Char.ofUInt8 byte).val.toNat = byte.toNat :=
  UInt8.toNat_toUInt32 byte

theorem utf8EncodeChar_of_ascii {c : Char} (ascii : c.val.toNat < 128) :
    ∃ byte, String.utf8EncodeChar c = [byte] ∧ Char.ofUInt8 byte = c := by
  refine ⟨UInt8.ofNat c.val.toNat, ?_, ?_⟩
  · rw [String.utf8EncodeChar]
    exact if_pos (by omega)
  · apply Char.ext
    rw [← UInt32.toNat_inj, toNat_val_ofUInt8, UInt8.toNat_ofNat']
    omega

theorem utf8Size_of_ascii {c : Char} (ascii : c.val.toNat < 128) : c.utf8Size = 1 := by
  obtain ⟨byte, encoded, -⟩ := utf8EncodeChar_of_ascii ascii
  rw [← String.length_utf8EncodeChar, encoded]
  rfl

theorem ofNat_large {number : Nat} (large : 128 ≤ number % 256) :
    128 ≤ (UInt8.ofNat number).toNat := by
  rwa [UInt8.toNat_ofNat']

theorem large_of_mem_utf8EncodeChar {c : Char} (wide : 128 ≤ c.val.toNat) :
    ∀ byte ∈ String.utf8EncodeChar c, 128 ≤ byte.toNat := by
  simp only [String.utf8EncodeChar]
  rw [if_neg (by omega)]
  split
  · simp only [List.forall_mem_cons]
    exact ⟨ofNat_large (by omega), ofNat_large (by omega), by simp⟩
  · split
    · simp only [List.forall_mem_cons]
      exact ⟨ofNat_large (by omega), ofNat_large (by omega), ofNat_large (by omega), by simp⟩
    · simp only [List.forall_mem_cons]
      exact ⟨ofNat_large (by omega), ofNat_large (by omega), ofNat_large (by omega),
        ofNat_large (by omega), by simp⟩

def IsAscii (condition : Char → Bool) : Prop := ∀ c, condition c = true → c.val.toNat < 128

theorem eq_of_mem_utf8EncodeChar {condition : Char → Bool} (ascii : IsAscii condition) {c : Char} :
    ∀ byte ∈ String.utf8EncodeChar c, condition (Char.ofUInt8 byte) = condition c := by
  intro byte member
  by_cases narrow : c.val.toNat < 128
  · obtain ⟨single, encoded, same⟩ := utf8EncodeChar_of_ascii narrow
    rw [encoded, List.mem_singleton] at member
    rw [member, same]
  · have large := large_of_mem_utf8EncodeChar (Nat.not_lt.mp narrow) byte member
    have fails {other : Char} (wide : 128 ≤ other.val.toNat) : condition other = false :=
      Bool.eq_false_iff.mpr fun holds => absurd (ascii other holds) (Nat.not_lt.mpr wide)
    rw [fails (Nat.not_lt.mp narrow), fails (by rwa [toNat_val_ofUInt8])]

theorem exists_getElem?_encode (front : List Char) (c : Char) (back : List Char) :
    ∃ byte ∈ String.utf8EncodeChar c,
      (encode (front ++ c :: back))[byteLength front]? = some byte := by
  have size := String.length_utf8EncodeChar c
  have positive := c.utf8Size_pos
  cases bytes : String.utf8EncodeChar c with
  | nil =>
      rw [bytes, List.length_nil] at size
      omega
  | cons byte others =>
      refine ⟨byte, List.mem_cons_self, ?_⟩
      rw [encode_append, encode_cons, bytes, ← length_encode,
        List.getElem?_append_right (Nat.le_refl _), Nat.sub_self]
      rfl

/-- What ASCII character stands at an offset can be told by its byte. -/
theorem any_getElem?_encode {condition : Char → Bool} (ascii : IsAscii condition)
    (front back : List Char) :
    ((encode (front ++ back))[byteLength front]?).any (fun byte => condition (.ofUInt8 byte)) =
      back.head?.any condition := by
  cases back with
  | nil =>
      rw [List.append_nil, ← length_encode, List.getElem?_eq_none (Nat.le_refl _)]
      rfl
  | cons c back =>
      obtain ⟨byte, member, found⟩ := exists_getElem?_encode front c back
      rw [found, Option.any_some, eq_of_mem_utf8EncodeChar ascii byte member]
      rfl

end SharpLint.Text
