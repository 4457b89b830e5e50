import Mathlib.Data.List.Basic
import SharpLint.Json.Printer
import SharpLint.Json.Reader

/-!
# Reading back what was written

A value that is written over several lines is read back as it was (`parse?_pretty`), whatever
characters its strings hold. Two kinds of values are not written faithfully and are left out
(`Writable`): numbers kept as text, and objects in which a name occurs twice.

The reader works on characters, so the lines between two brackets are also described as characters:
`laterLines` is what follows the first of them.
-/

namespace SharpLint.Json

/-- Counts, and objects whose names are distinct, all the way down. -/
inductive Writable : Json → Prop where
  | null : Writable .null
  | bool (value : Bool) : Writable (.bool value)
  | count (value : Nat) : Writable (.count value)
  | string (value : String) : Writable (.string value)
  | array {items : List Json} (each : ∀ item ∈ items, Writable item) : Writable (.array items)
  | object {fields : List (String × Json)} (distinct : (fields.map (·.1)).Nodup)
      (each : ∀ field ∈ fields, Writable field.2) : Writable (.object fields)

/-! ## Strings -/

theorem hexDigit?_digitChar : ∀ digit < 16, hexDigit? (Nat.digitChar digit) = some digit := by
  decide

theorem hexUnit?_digitChars {code : Nat} (small : code < 256) :
    hexUnit? '0' '0' (Nat.digitChar (code / 16)) (Nat.digitChar (code % 16)) = some code := by
  have zero : hexDigit? '0' = some 0 := rfl
  have high := hexDigit?_digitChar (code / 16) (by omega)
  have low := hexDigit?_digitChar (code % 16) (by omega)
  simp only [hexUnit?, zero, high, low, Option.some.injEq]
  omega

theorem readUnits_letter {letter c : Char} (means : unescape? letter = some c) (cs : List Char) :
    readUnits ('\\' :: letter :: cs) =
      (readUnits cs).map fun (units, rest) => (c.toNat :: units, rest) := by
  have notHex : letter ≠ 'u' := by
    rintro rfl
    cases means
  rw [readUnits, means]
  · cases readUnits cs <;> rfl
  · simp [notHex]

theorem readUnits_hex {code : Nat} (small : code < 256) (cs : List Char) :
    readUnits ("\\u00".toList ++
        [Nat.digitChar (code / 16), Nat.digitChar (code % 16)] ++ cs) =
      (readUnits cs).map fun (units, rest) => (code :: units, rest) := by
  have letters : "\\u00".toList = ['\\', 'u', '0', '0'] := rfl
  simp only [letters, List.cons_append, List.nil_append]
  rw [readUnits, hexUnit?_digitChars small]
  cases readUnits cs <;> rfl

theorem readUnits_plain {c : Char} (printable : ¬c < ' ') (noQuote : c ≠ '"')
    (noBackslash : c ≠ '\\') (cs : List Char) :
    readUnits (c :: cs) = (readUnits cs).map fun (units, rest) => (c.toNat :: units, rest) := by
  rw [readUnits]
  · simp [printable, noBackslash]
  all_goals simp [noQuote, noBackslash]

theorem readUnits_escape (c : Char) (cs : List Char) :
    readUnits (escape c ++ cs) =
      (readUnits cs).map fun (units, rest) => (c.toNat :: units, rest) := by
  unfold escape
  split
  case h_8 noQuote noBackslash _ _ _ _ _ =>
    split
    · rename_i control
      exact readUnits_hex (Nat.lt_trans control (by decide)) cs
    · rename_i printable
      exact readUnits_plain printable noQuote noBackslash cs
  all_goals exact readUnits_letter rfl cs

theorem readUnits_flatMap_escape (text rest : List Char) :
    readUnits (text.flatMap escape ++ '"' :: rest) = some (text.map Char.toNat, rest) := by
  induction text with
  | nil => rfl
  | cons c text ih =>
      rw [List.flatMap_cons, List.append_assoc, readUnits_escape, ih]
      rfl

theorem charactersOf_map_toNat (text : List Char) : charactersOf (text.map Char.toNat) = text := by
  have own (c : Char) : Char.ofNat c.toNat = c := Char.ofNat_toNat c
  induction text with
  | nil => rfl
  | cons c text ih =>
      cases text with
      | nil => simp [charactersOf, own]
      | cons d text =>
          -- No character is a surrogate, so two in a row are never one.
          have scalar : ¬(0xD800 ≤ c.toNat ∧ c.toNat < 0xDC00) := by
            have valid := c.valid
            simp only [UInt32.isValidChar, Nat.isValidChar] at valid
            intro surrogate
            have same : c.val.toNat = c.toNat := rfl
            omega
          simp only [List.map_cons] at ih ⊢
          rw [charactersOf, if_neg (by simp; omega), own, ih]

theorem readString_flatMap_escape (text : String) (rest : List Char) :
    readString (text.toList.flatMap escape ++ '"' :: rest) = some (text, rest) := by
  simp only [readString, readUnits_flatMap_escape, Option.map_some, charactersOf_map_toNat,
    String.ofList_toList]

theorem toList_quote (text : String) :
    (quote text).toList = '"' :: (text.toList.flatMap escape ++ ['"']) := by
  simp [quote]

/-! ## Numbers -/

theorem isNumeral_of_isDigit {c : Char} (digit : c.isDigit = true) : isNumeral c = true := by
  simp [isNumeral, digit]

theorem isDigit_of_mem_digits {value : Nat} {c : Char} (member : c ∈ Nat.toDigits 10 value) :
    c.isDigit = true :=
  Nat.isDigit_of_mem_toDigits (by decide) (by decide) member

theorem ofDigits_toDigits (value : Nat) : ofDigits (Nat.toDigits 10 value) = value := by
  have readBack : Nat.ofDigitChars 10 (Nat.toDigits 10 value) 0 = value :=
    Nat.ofDigitChars_ten_toDigits
  rw [Nat.ofDigitChars_eq_foldl] at readBack
  simpa only [ofDigits, Nat.mul_comm] using readBack

/-- What follows a number does not go on with it. -/
def EndsNumber (rest : List Char) : Prop := ∀ c ∈ rest.head?, isNumeral c = false

theorem readNumber_digits (value : Nat) {rest : List Char} (ends : EndsNumber rest) :
    readNumber (Nat.toDigits 10 value ++ rest) = some (.count value, rest) := by
  have numerals : ∀ c ∈ Nat.toDigits 10 value, isNumeral c = true :=
    fun c member => isNumeral_of_isDigit (isDigit_of_mem_digits member)
  have stop : rest.takeWhile isNumeral = [] ∧ rest.dropWhile isNumeral = rest := by
    cases rest with
    | nil => exact ⟨rfl, rfl⟩
    | cons c rest => simp [ends c (by simp)]
  have digits : (Nat.toDigits 10 value).all Char.isDigit = true :=
    List.all_eq_true.mpr fun c member => isDigit_of_mem_digits member
  rw [readNumber, List.takeWhile_append_of_pos numerals, List.dropWhile_append_of_pos numerals,
    stop.1, stop.2, List.append_nil]
  split
  · rename_i empty
    exact absurd empty Nat.toDigits_ne_nil
  · rw [if_pos digits, ofDigits_toDigits]

/-! ## Lines between brackets -/

/-- What follows the first of the items between two brackets, up to the closing one. -/
def laterLines (closing : String) (level : Nat) : List String → List Char
  | [] => '\n' :: (indent level).toList ++ closing.toList
  | item :: items =>
    ',' :: '\n' ::
      ((indent (level + 1)).toList ++ item.toList ++ laterLines closing level items)

theorem toList_intercalate_lines (closing : String) (level : Nat) (item : String)
    (items : List String) :
    (",\n".intercalate ((item :: items).map (indent (level + 1) ++ ·))).toList ++
        '\n' :: (indent level).toList ++ closing.toList =
      (indent (level + 1)).toList ++ item.toList ++ laterLines closing level items := by
  induction items generalizing item with
  | nil => simp [laterLines]
  | cons next items ih =>
      have later := ih next
      simp only [List.map_cons] at later ⊢
      rw [String.intercalate_cons_cons, laterLines, ← later]
      simp

theorem toList_bracketed (opening closing : String) (level : Nat) (item : String)
    (items : List String) :
    (bracketed opening closing level (item :: items)).toList =
      opening.toList ++ '\n' ::
        ((indent (level + 1)).toList ++ item.toList ++ laterLines closing level items) := by
  rw [← toList_intercalate_lines]
  simp [bracketed]

theorem isSpace_of_mem_indent {level : Nat} {c : Char} (member : c ∈ (indent level).toList) :
    isSpace c = true := by
  rw [indent, String.toList_ofList] at member
  rw [List.eq_of_mem_replicate member]
  rfl

theorem isSpace_of_mem_lineStart (level : Nat) :
    ∀ c ∈ '\n' :: (indent level).toList, isSpace c = true :=
  List.forall_mem_cons.mpr ⟨rfl, fun _ => isSpace_of_mem_indent⟩

theorem dropWhile_lineStart (level : Nat) {c : Char} (visible : isSpace c = false)
    (cs : List Char) :
    ('\n' :: ((indent level).toList ++ c :: cs)).dropWhile isSpace = c :: cs := by
  rw [← List.cons_append, List.dropWhile_append_of_pos (isSpace_of_mem_lineStart level),
    List.dropWhile_cons_of_neg (by simp [visible])]

theorem readValue_blank {blank : List Char} (spaces : ∀ c ∈ blank, isSpace c = true) (steps : Nat)
    (cs : List Char) : readValue steps (blank ++ cs) = readValue steps cs := by
  cases steps with
  | zero => rw [readValue, readValue]
  | succ steps => rw [readValue, readValue, List.dropWhile_append_of_pos spaces]

theorem readItems_blank {blank : List Char} (spaces : ∀ c ∈ blank, isSpace c = true) (steps : Nat)
    (cs : List Char) : readItems steps (blank ++ cs) = readItems steps cs := by
  cases steps with
  | zero => rw [readItems, readItems]
  | succ steps => rw [readItems, readItems, readValue_blank spaces]

theorem readFields_blank {blank : List Char} (spaces : ∀ c ∈ blank, isSpace c = true) (steps : Nat)
    (cs : List Char) : readFields steps (blank ++ cs) = readFields steps cs := by
  cases steps with
  | zero => rw [readFields, readFields]
  | succ steps => rw [readFields, readFields, List.dropWhile_append_of_pos spaces]

theorem endsNumber_laterLines (closing : String) (level : Nat) (items : List String)
    (rest : List Char) : EndsNumber (laterLines closing level items ++ rest) := by
  intro c first
  cases items with
  | nil =>
      obtain rfl : '\n' = c := by simpa [laterLines] using first
      rfl
  | cons item items =>
      obtain rfl : ',' = c := by simpa [laterLines] using first
      rfl

theorem dropWhile_laterLines_nil {closing : String} {bracket : Char}
    (single : closing.toList = [bracket]) (visible : isSpace bracket = false) (level : Nat)
    (rest : List Char) :
    (laterLines closing level [] ++ rest).dropWhile isSpace = bracket :: rest := by
  rw [laterLines, single, List.append_assoc,
    List.dropWhile_append_of_pos (isSpace_of_mem_lineStart level), List.singleton_append,
    List.dropWhile_cons_of_neg (by simp [visible])]

/-! ## Items and fields -/

/-- The value is read back, whatever follows it, when more steps are allowed than it has
characters. -/
def ReadsBack (value : Json) : Prop :=
  ∀ (level steps : Nat) (rest : List Char), EndsNumber rest →
    (prettyAt level value).toList.length < steps →
      readValue steps ((prettyAt level value).toList ++ rest) = some (value, rest)

theorem readItems_lines {item : Json} {items : List Json} (level steps : Nat)
    (rest : List Char) (each : ∀ member ∈ item :: items, ReadsBack member)
    (enough : (prettyAt (level + 1) item).toList.length +
      (laterLines "]" level (prettyItems (level + 1) items)).length < steps) :
    readItems steps ((prettyAt (level + 1) item).toList ++
        (laterLines "]" level (prettyItems (level + 1) items) ++ rest)) =
      some (item :: items, rest) := by
  induction items generalizing item steps with
  | nil =>
      obtain ⟨steps, rfl⟩ := Nat.exists_eq_add_one_of_ne_zero (Nat.ne_zero_of_lt enough)
      simp only [prettyItems, laterLines, List.length_cons, List.length_append] at enough
      have own := each item List.mem_cons_self (level + 1) steps
        (laterLines "]" level [] ++ rest) (endsNumber_laterLines _ _ _ _) (by omega)
      have closed : (laterLines "]" level [] ++ rest).dropWhile isSpace = ']' :: rest :=
        dropWhile_laterLines_nil rfl rfl level rest
      rw [readItems, prettyItems, own]
      simp only [closed]
  | cons next items ih =>
      obtain ⟨steps, rfl⟩ := Nat.exists_eq_add_one_of_ne_zero (Nat.ne_zero_of_lt enough)
      rw [List.forall_mem_cons] at each
      simp only [prettyItems, laterLines, List.length_cons, List.length_append] at enough
      have own := each.1 (level + 1) steps
        (laterLines "]" level (prettyItems (level + 1) (next :: items)) ++ rest)
        (endsNumber_laterLines _ _ _ _) (by omega)
      have others := ih steps each.2 (by omega)
      rw [readItems, own]
      rw [← readItems_blank (isSpace_of_mem_lineStart (level + 1))] at others
      simp only [prettyItems, laterLines, List.cons_append, List.append_assoc] at others ⊢
      rw [List.dropWhile_cons_of_neg (by decide)]
      simp only [others, Option.map_some]

def fieldLine (level : Nat) (field : String × Json) : String :=
  quote field.1 ++ ": " ++ prettyAt level field.2

theorem prettyFields_eq_map (level : Nat) (fields : List (String × Json)) :
    prettyFields level fields = fields.map (fieldLine level) := by
  induction fields with
  | nil => rw [prettyFields, List.map_nil]
  | cons field fields ih => rw [prettyFields, ih, List.map_cons, fieldLine]

theorem toList_fieldLine (level : Nat) (field : String × Json) :
    (fieldLine level field).toList =
      '"' :: (field.1.toList.flatMap escape ++ '"' :: ':' :: ' ' ::
        (prettyAt level field.2).toList) := by
  simp [fieldLine, toList_quote]

/-- The fields from a field on that has just been read, if a comma or the end of the object comes
next. -/
def fieldsAfter (steps : Nat) (field : String × Json) (rest : List Char) :
    Option (List (String × Json) × List Char) :=
  match rest.dropWhile isSpace with
  | ',' :: rest => (readFields steps rest).map fun (fields, rest) => (field :: fields, rest)
  | '\x7d' :: rest => some ([field], rest)
  | _ => none

theorem readFields_line {field : String × Json} (level steps : Nat) {rest : List Char}
    (own : ReadsBack field.2) (ends : EndsNumber rest)
    (enough : (fieldLine level field).toList.length < steps + 1) :
    readFields (steps + 1) ((fieldLine level field).toList ++ rest) =
      fieldsAfter steps field rest := by
  rw [toList_fieldLine] at enough
  simp only [List.length_cons, List.length_append] at enough
  have value := own level steps rest ends (by omega)
  have blank : ∀ c ∈ [' '], isSpace c = true := List.forall_mem_singleton.mpr rfl
  have spaced : readValue steps (' ' :: ((prettyAt level field.2).toList ++ rest)) =
      some (field.2, rest) := (readValue_blank blank steps _).trans value
  rw [toList_fieldLine, readFields]
  simp only [List.cons_append, List.append_assoc]
  rw [List.dropWhile_cons_of_neg (by decide)]
  simp only [readString_flatMap_escape]
  rw [List.dropWhile_cons_of_neg (by decide)]
  simp only [spaced]
  rfl

theorem readFields_lines {field : String × Json} {fields : List (String × Json)}
    (level steps : Nat) (rest : List Char)
    (each : ∀ member ∈ field :: fields, ReadsBack member.2)
    (enough : (fieldLine (level + 1) field).toList.length +
      (laterLines "\x7d" level (prettyFields (level + 1) fields)).length < steps) :
    readFields steps ((fieldLine (level + 1) field).toList ++
        (laterLines "\x7d" level (prettyFields (level + 1) fields) ++ rest)) =
      some (field :: fields, rest) := by
  induction fields generalizing field steps with
  | nil =>
      obtain ⟨steps, rfl⟩ := Nat.exists_eq_add_one_of_ne_zero (Nat.ne_zero_of_lt enough)
      have closed : (laterLines "\x7d" level [] ++ rest).dropWhile isSpace = '\x7d' :: rest :=
        dropWhile_laterLines_nil rfl rfl level rest
      rw [readFields_line (level + 1) steps (each field List.mem_cons_self)
        (endsNumber_laterLines _ _ _ _) (by omega), fieldsAfter, prettyFields]
      simp only [closed]
  | cons next fields ih =>
      obtain ⟨steps, rfl⟩ := Nat.exists_eq_add_one_of_ne_zero (Nat.ne_zero_of_lt enough)
      rw [List.forall_mem_cons] at each
      rw [readFields_line (level + 1) steps each.1 (endsNumber_laterLines _ _ _ _) (by omega),
        fieldsAfter]
      simp only [prettyFields_eq_map, List.map_cons, laterLines, List.length_cons,
        List.length_append] at enough ih ⊢
      have others := ih steps each.2 (by omega)
      rw [← readFields_blank (isSpace_of_mem_lineStart (level + 1))] at others
      simp only [List.cons_append, List.append_assoc] at others ⊢
      rw [List.dropWhile_cons_of_neg (by decide)]
      simp only [others, Option.map_some]

/-! ## Values -/

section Written

variable (level : Nat)

theorem toList_prettyAt_null : (prettyAt level .null).toList = 'n' :: "ull".toList := by
  change "null".toList = 'n' :: "ull".toList
  rfl

theorem toList_prettyAt_true : (prettyAt level (.bool true)).toList = 't' :: "rue".toList := by
  change "true".toList = 't' :: "rue".toList
  rfl

theorem toList_prettyAt_false :
    (prettyAt level (.bool false)).toList = 'f' :: "alse".toList := by
  change "false".toList = 'f' :: "alse".toList
  rfl

theorem toList_prettyAt_count (value : Nat) :
    (prettyAt level (.count value)).toList = Nat.toDigits 10 value := by
  change (toString value).toList = Nat.toDigits 10 value
  rw [Nat.toString_eq_ofList_toDigits, String.toList_ofList]

theorem toList_prettyAt_string (value : String) :
    (prettyAt level (.string value)).toList = '"' :: (value.toList.flatMap escape ++ ['"']) :=
  toList_quote value

theorem toList_prettyAt_array_nil : (prettyAt level (.array [])).toList = ['[', ']'] := by
  change (bracketed "[" "]" level []).toList = ['[', ']']
  simp [bracketed]

theorem toList_prettyAt_array_cons (item : Json) (items : List Json) :
    (prettyAt level (.array (item :: items))).toList =
      '[' :: '\n' :: ((indent (level + 1)).toList ++ (prettyAt (level + 1) item).toList ++
        laterLines "]" level (prettyItems (level + 1) items)) :=
  toList_bracketed _ _ _ _ _

theorem toList_prettyAt_object_nil : (prettyAt level (.object [])).toList = ['\x7b', '\x7d'] := by
  change (bracketed "\x7b" "\x7d" level []).toList = ['\x7b', '\x7d']
  simp [bracketed]

theorem toList_prettyAt_object_cons (field : String × Json) (fields : List (String × Json)) :
    (prettyAt level (.object (field :: fields))).toList =
      '\x7b' :: '\n' :: ((indent (level + 1)).toList ++ (fieldLine (level + 1) field).toList ++
        laterLines "\x7d" level (prettyFields (level + 1) fields)) :=
  toList_bracketed _ _ _ _ _

end Written

theorem isSpace_of_isDigit {c : Char} (digit : c.isDigit = true) : isSpace c = false := by
  simp only [isSpace, Bool.or_eq_false_iff, decide_eq_false_iff_not]
  refine ⟨⟨⟨?_, ?_⟩, ?_⟩, ?_⟩ <;> rintro rfl <;> cases digit

theorem exists_prettyAt_eq_cons {value : Json} (writable : value.Writable) (level : Nat) :
    ∃ c cs, (prettyAt level value).toList = c :: cs ∧ isSpace c = false ∧ c ≠ ']' := by
  cases writable with
  | null => exact ⟨_, _, toList_prettyAt_null level, rfl, by decide⟩
  | bool value =>
      cases value with
      | true => exact ⟨_, _, toList_prettyAt_true level, rfl, by decide⟩
      | false => exact ⟨_, _, toList_prettyAt_false level, rfl, by decide⟩
  | count value =>
      obtain ⟨digit, digits, split⟩ :=
        List.exists_cons_of_ne_nil (Nat.toDigits_ne_nil : Nat.toDigits 10 value ≠ [])
      have isDigit : digit.isDigit = true := isDigit_of_mem_digits (split ▸ List.mem_cons_self)
      refine ⟨digit, digits, (toList_prettyAt_count level value).trans split,
        isSpace_of_isDigit isDigit, ?_⟩
      rintro rfl
      cases isDigit
  | string value => exact ⟨_, _, toList_prettyAt_string level value, rfl, by decide⟩
  | @array items each =>
      cases items with
      | nil => exact ⟨_, _, toList_prettyAt_array_nil level, rfl, by decide⟩
      | cons item items => exact ⟨_, _, toList_prettyAt_array_cons level item items, rfl, by decide⟩
  | @object fields distinct each =>
      cases fields with
      | nil => exact ⟨_, _, toList_prettyAt_object_nil level, rfl, by decide⟩
      | cons field fields =>
          exact ⟨_, _, toList_prettyAt_object_cons level field fields, rfl, by decide⟩

theorem afterWord?_append (word : String) (rest : List Char) :
    afterWord? word (word.toList ++ rest) = some rest := by
  rw [afterWord?, if_pos (by simp), ← String.length_toList, List.drop_left]

theorem latestFields_of_nodup {fields : List (String × Json)}
    (distinct : (fields.map (·.1)).Nodup) : latestFields fields = fields := by
  induction fields with
  | nil => rfl
  | cons field fields ih =>
      obtain ⟨name, value⟩ := field
      rw [List.map_cons, List.nodup_cons] at distinct
      have single : fields.any (·.1 == name) = false := by
        rw [List.any_eq_false]
        intro other member same
        exact distinct.1 (List.mem_map.mpr ⟨other, member, by simpa using same⟩)
      rw [latestFields, single, ih distinct.2]
      rfl

theorem readsBack_count (value : Nat) : ReadsBack (.count value) := by
  intro level steps rest ends enough
  obtain ⟨steps, rfl⟩ := Nat.exists_eq_add_one_of_ne_zero (Nat.ne_zero_of_lt enough)
  obtain ⟨digit, digits, split⟩ :=
    List.exists_cons_of_ne_nil (Nat.toDigits_ne_nil : Nat.toDigits 10 value ≠ [])
  have isDigit : digit.isDigit = true := isDigit_of_mem_digits (split ▸ List.mem_cons_self)
  have visible : isSpace digit = false := isSpace_of_isDigit isDigit
  have number := readNumber_digits value ends
  rw [toList_prettyAt_count, readValue, split, List.cons_append,
    List.dropWhile_cons_of_neg (by simp [visible])]
  rw [split, List.cons_append] at number
  -- No other kind of value starts with a digit.
  split
  case h_7 => exact number
  all_goals
    rename_i same
    cases (List.cons.inj same).1
    cases isDigit

theorem readsBack_array {items : List Json} (writable : ∀ item ∈ items, item.Writable)
    (each : ∀ item ∈ items, ReadsBack item) : ReadsBack (.array items) := by
  intro level steps rest _ enough
  obtain ⟨steps, rfl⟩ := Nat.exists_eq_add_one_of_ne_zero (Nat.ne_zero_of_lt enough)
  cases items with
  | nil => simp [toList_prettyAt_array_nil, readValue, isSpace]
  | cons item items =>
      rw [toList_prettyAt_array_cons] at enough ⊢
      simp only [List.length_cons, List.length_append] at enough
      have lines := readItems_lines level steps rest each (by omega)
      obtain ⟨c, cs, first, visible, notEnd⟩ :=
        exists_prettyAt_eq_cons (writable item List.mem_cons_self) (level + 1)
      rw [first, List.cons_append] at lines
      rw [readValue, first]
      simp only [List.cons_append, List.append_assoc]
      rw [List.dropWhile_cons_of_neg (by decide)]
      simp only [dropWhile_lineStart (level + 1) visible]
      split
      · rename_i same
        cases (List.cons.inj same).1
        exact absurd rfl notEnd
      · rw [lines, Option.map_some]

theorem readsBack_object {fields : List (String × Json)} (distinct : (fields.map (·.1)).Nodup)
    (each : ∀ field ∈ fields, ReadsBack field.2) : ReadsBack (.object fields) := by
  intro level steps rest _ enough
  obtain ⟨steps, rfl⟩ := Nat.exists_eq_add_one_of_ne_zero (Nat.ne_zero_of_lt enough)
  cases fields with
  | nil => simp [toList_prettyAt_object_nil, readValue, isSpace]
  | cons field fields =>
      rw [toList_prettyAt_object_cons] at enough ⊢
      simp only [List.length_cons, List.length_append] at enough
      have lines := readFields_lines level steps rest each (by omega)
      rw [toList_fieldLine, List.cons_append] at lines
      rw [readValue, toList_fieldLine]
      simp only [List.cons_append, List.append_assoc] at lines ⊢
      rw [List.dropWhile_cons_of_neg (by decide)]
      have visible : isSpace '"' = false := rfl
      simp only [dropWhile_lineStart (level + 1) visible]
      split
      · rename_i same
        cases (List.cons.inj same).1
      · rw [lines, Option.map_some, latestFields_of_nodup distinct]

theorem Writable.readsBack {value : Json} (writable : value.Writable) : ReadsBack value := by
  induction writable with
  | null =>
      intro level steps rest _ enough
      obtain ⟨steps, rfl⟩ := Nat.exists_eq_add_one_of_ne_zero (Nat.ne_zero_of_lt enough)
      rw [toList_prettyAt_null, readValue, List.cons_append,
        List.dropWhile_cons_of_neg (by decide)]
      simp only [afterWord?_append, Option.map_some]
  | bool value =>
      intro level steps rest _ enough
      obtain ⟨steps, rfl⟩ := Nat.exists_eq_add_one_of_ne_zero (Nat.ne_zero_of_lt enough)
      cases value with
      | true =>
          rw [toList_prettyAt_true, readValue, List.cons_append,
            List.dropWhile_cons_of_neg (by decide)]
          simp only [afterWord?_append, Option.map_some]
      | false =>
          rw [toList_prettyAt_false, readValue, List.cons_append,
            List.dropWhile_cons_of_neg (by decide)]
          simp only [afterWord?_append, Option.map_some]
  | count value => exact readsBack_count value
  | string value =>
      intro level steps rest _ enough
      obtain ⟨steps, rfl⟩ := Nat.exists_eq_add_one_of_ne_zero (Nat.ne_zero_of_lt enough)
      simp [toList_prettyAt_string, readValue, isSpace, readString_flatMap_escape]
  | array writable each => exact readsBack_array writable each
  | object distinct _ each => exact readsBack_object distinct each

/-- A written value is read back, also when the text goes on with white space. -/
theorem parse?_pretty_append {value : Json} (writable : value.Writable) {blank : String}
    (spaces : blank.toList.all isSpace = true) :
    parse? (value.pretty ++ blank) = some value := by
  have ends : EndsNumber blank.toList := by
    intro c first
    have space := List.all_eq_true.mp spaces c (List.mem_of_mem_head? first)
    simp only [isSpace, Bool.or_eq_true, decide_eq_true_eq] at space
    rcases space with ((rfl | rfl) | rfl) | rfl <;> rfl
  have whole := writable.readsBack 0 ((value.pretty ++ blank).toList.length + 1) blank.toList ends
    (by simp only [pretty, String.toList_append, List.length_append]; omega)
  rw [parse?, String.toList_append]
  rw [String.toList_append] at whole
  simp only [pretty] at whole ⊢
  rw [whole]
  simp only [spaces, if_true]

theorem parse?_pretty {value : Json} (writable : value.Writable) :
    parse? value.pretty = some value := by
  have spaces : "".toList.all isSpace = true := rfl
  rw [← String.append_empty (s := value.pretty), parse?_pretty_append writable spaces]

end SharpLint.Json
