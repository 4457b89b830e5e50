import Mathlib.Data.List.Basic
import SharpLint.Names.Words

/-!
# What decides the style of a name

In a name of letters and digits a word ends only where the next one starts with a capital
(`wordsAfter_of_alphanumeric`). So the first character of such a name decides whether it is
PascalCase or camelCase, and looking at the later words adds nothing to that
(`first_character_decides_style`). None of this depends on which characters are letters, digits or
capitals, so it is shown for all classes of characters at once; with those of Unicode the words and
styles are the usual ones (`wordsAfter_unicode`, `isPascalCase_unicode`, `isCamelCase_unicode`).
-/

namespace SharpLint.Names

theorem startsWith_iff {condition : Char → Bool} {cs : List Char} :
    startsWith condition cs = true ↔ cs ≠ [] ∧ ∀ c ∈ cs.head?, condition c = true := by
  cases cs <;> simp [startsWith]

/-- The classes of characters by which names are read. -/
structure CharacterClasses where
  isAlphanumeric : Char → Bool
  isUppercase : Char → Bool
  isLowercase : Char → Bool

namespace CharacterClasses

def unicode : CharacterClasses where
  isAlphanumeric := Text.isAlphanumeric
  isUppercase := Text.isUppercase
  isLowercase := Text.isLowercase

variable (classes : CharacterClasses)

def wordsAfter (current : List Char) : List Char → List (List Char)
  | [] => closeWord current
  | c :: cs =>
    if !classes.isAlphanumeric c then closeWord current ++ wordsAfter [] cs
    else if classes.isUppercase c then closeWord current ++ wordsAfter [c] cs
    else wordsAfter (c :: current) cs

def words (name : List Char) : List (List Char) := classes.wordsAfter [] name

def isPascalCase (name : String) : Bool :=
  startsWith classes.isUppercase name.toList && name.toList.all classes.isAlphanumeric &&
    (classes.words name.toList).all (startsWith classes.isUppercase)

def isCamelCase (name : String) : Bool :=
  startsWith classes.isLowercase name.toList && name.toList.all classes.isAlphanumeric &&
    (classes.words name.toList).tail.all (startsWith classes.isUppercase)

theorem wordsAfter_unicode (current cs : List Char) :
    unicode.wordsAfter current cs = Names.wordsAfter current cs := by
  induction cs generalizing current with
  | nil => rfl
  | cons c cs ih =>
      simp only [wordsAfter, Names.wordsAfter, ih]
      rfl

theorem isPascalCase_unicode (name : String) :
    unicode.isPascalCase name = Names.isPascalCase name := by
  rw [isPascalCase, words, wordsAfter_unicode]
  rfl

theorem isCamelCase_unicode (name : String) :
    unicode.isCamelCase name = Names.isCamelCase name := by
  rw [isCamelCase, words, wordsAfter_unicode]
  rfl

variable {classes} {current cs : List Char}

theorem wordsAfter_of_alphanumeric (started : current ≠ [])
    (alphanumeric : ∀ c ∈ cs, classes.isAlphanumeric c = true) :
    ∃ word later, classes.wordsAfter current cs = word :: later ∧
      word.head? = current.getLast? ∧
      ∀ other ∈ later, startsWith classes.isUppercase other = true := by
  have close {current : List Char} (started : current ≠ []) :
      closeWord current = [current.reverse] := by
    cases current with
    | nil => contradiction
    | cons c current => rfl
  induction cs generalizing current with
  | nil => exact ⟨current.reverse, [], close started, List.head?_reverse, by simp⟩
  | cons c cs ih =>
      rw [List.forall_mem_cons] at alphanumeric
      simp only [wordsAfter, alphanumeric.1, Bool.not_true, Bool.false_eq_true, if_false]
      by_cases capital : classes.isUppercase c = true
      · obtain ⟨word, later, split, first, capitals⟩ := ih (List.cons_ne_nil c []) alphanumeric.2
        rw [if_pos capital, split, close started]
        refine ⟨current.reverse, word :: later, rfl, List.head?_reverse, ?_⟩
        rw [List.forall_mem_cons]
        exact ⟨by simp [startsWith, first, capital], capitals⟩
      · obtain ⟨word, later, split, first, capitals⟩ :=
          ih (List.cons_ne_nil c current) alphanumeric.2
        rw [if_neg capital]
        refine ⟨word, later, split, ?_, capitals⟩
        rw [first, List.getLast?_cons_of_ne_nil started]

theorem words_of_alphanumeric {c : Char}
    (alphanumeric : ∀ d ∈ c :: cs, classes.isAlphanumeric d = true) :
    ∃ word later, classes.words (c :: cs) = word :: later ∧ word.head? = some c ∧
      ∀ other ∈ later, startsWith classes.isUppercase other = true := by
  rw [List.forall_mem_cons] at alphanumeric
  have first : classes.words (c :: cs) = classes.wordsAfter [c] cs := by
    simp [words, wordsAfter, alphanumeric.1, closeWord]
  rw [first]
  exact wordsAfter_of_alphanumeric (List.cons_ne_nil c []) alphanumeric.2

variable {name : String}

theorem isPascalCase_iff :
    classes.isPascalCase name = true ↔ startsWith classes.isUppercase name.toList = true ∧
      ∀ c ∈ name.toList, classes.isAlphanumeric c = true := by
  rw [isPascalCase, Bool.and_eq_true, Bool.and_eq_true, List.all_eq_true, List.all_eq_true]
  refine and_iff_left_of_imp ?_
  rintro ⟨capital, alphanumeric⟩
  cases characters : name.toList with
  | nil => simp [words, wordsAfter, closeWord]
  | cons c cs =>
      rw [characters] at capital alphanumeric
      obtain ⟨word, later, split, first, capitals⟩ := words_of_alphanumeric alphanumeric
      rw [split, List.forall_mem_cons]
      refine ⟨?_, capitals⟩
      simpa [startsWith, first] using capital

theorem isCamelCase_iff :
    classes.isCamelCase name = true ↔ startsWith classes.isLowercase name.toList = true ∧
      ∀ c ∈ name.toList, classes.isAlphanumeric c = true := by
  rw [isCamelCase, Bool.and_eq_true, Bool.and_eq_true, List.all_eq_true, List.all_eq_true]
  refine and_iff_left_of_imp ?_
  rintro ⟨-, alphanumeric⟩
  cases characters : name.toList with
  | nil => simp [words, wordsAfter, closeWord]
  | cons c cs =>
      rw [characters] at alphanumeric
      obtain ⟨word, later, split, -, capitals⟩ := words_of_alphanumeric alphanumeric
      rw [split, List.tail_cons]
      exact capitals

end CharacterClasses

/-- The name is not empty, its first character is of one class, and all are of another. -/
structure Begins (first all : Char → Bool) (name : String) : Prop where
  nonempty : name ≠ ""
  first : ∀ c ∈ name.toList.head?, first c = true
  all : ∀ c ∈ name.toList, all c = true

theorem begins_iff {first all : Char → Bool} {name : String} :
    Begins first all name ↔
      startsWith first name.toList = true ∧ ∀ c ∈ name.toList, all c = true := by
  rw [startsWith_iff, Ne, String.toList_eq_nil_iff]
  constructor
  · rintro ⟨nonempty, first, all⟩
    exact ⟨⟨nonempty, first⟩, all⟩
  · rintro ⟨⟨nonempty, first⟩, all⟩
    exact ⟨nonempty, first, all⟩

/-- A name is PascalCase if it consists of letters and digits and starts with a capital, and
camelCase if it starts with a small letter instead, whatever the classes of characters are. -/
theorem first_character_decides_style (name : String) :
    (isPascalCase name = true ↔ Begins Text.isUppercase Text.isAlphanumeric name) ∧
    (isCamelCase name = true ↔ Begins Text.isLowercase Text.isAlphanumeric name) ∧
    ∀ classes : CharacterClasses,
      (classes.isPascalCase name = true ↔
        Begins classes.isUppercase classes.isAlphanumeric name) ∧
      (classes.isCamelCase name = true ↔
        Begins classes.isLowercase classes.isAlphanumeric name) := by
  have pascal (classes : CharacterClasses) : classes.isPascalCase name = true ↔
      Begins classes.isUppercase classes.isAlphanumeric name := by
    rw [begins_iff, CharacterClasses.isPascalCase_iff]
  have camel (classes : CharacterClasses) : classes.isCamelCase name = true ↔
      Begins classes.isLowercase classes.isAlphanumeric name := by
    rw [begins_iff, CharacterClasses.isCamelCase_iff]
  refine ⟨?_, ?_, fun classes => ⟨pascal classes, camel classes⟩⟩
  · rw [← CharacterClasses.isPascalCase_unicode]
    exact pascal .unicode
  · rw [← CharacterClasses.isCamelCase_unicode]
    exact camel .unicode

end SharpLint.Names
