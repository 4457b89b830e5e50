import Mathlib
import SharpLint.Proofs.Names.Words

/-!
# Spelling names anew

The two ways to spell an ASCII name anew differ in its first letter or digit only: what follows is
the same in both, and consists of letters and digits (`exists_respelling`). Of a name that consists
of letters and digits already, nothing but the first character changes (`toPascalCase_cons`,
`toCamelCase_cons`). So the laws of the two come down to those of single characters:

* `respelling_reaches_case`: PascalCase and camelCase are reached unless there is no letter or
  digit, or a digit comes first;
* `respelling_normalizes`: the spellings are normal forms, and neither loses what the other needs.
-/

namespace SharpLint.Names

open Text

variable {c : Char} {cs : List Char} {name : String}

def Ascii (cs : List Char) : Prop := ∀ c ∈ cs, isAscii c = true

def Plain (cs : List Char) : Prop := ∀ c ∈ cs, c.isAlphanum = true

/-- The first letter or digit of the name exists and is a letter. -/
def LetterFirst (name : String) : Prop :=
  ∃ c, name.toList.find? isAlphanumeric = some c ∧ c.isAlpha = true

instance (cs : List Char) : Decidable (Ascii cs) :=
  decidable_of_iff (cs.all isAscii = true) List.all_eq_true

instance (name : String) : Decidable (LetterFirst name) :=
  decidable_of_iff ((name.toList.find? isAlphanumeric).any Char.isAlpha = true)
    (Option.any_eq_true _ _)

/-! ## Characters -/

section

variable (ascii : isAscii c = true)
include ascii

theorem upper_of_ascii : upper c = [c.toUpper] := if_pos ascii

theorem lower_of_ascii : lower c = [c.toLower] := if_pos ascii

theorem isUppercase_of_ascii : isUppercase c = c.isUpper := if_pos ascii

theorem isLowercase_of_ascii : isLowercase c = c.isLower := if_pos ascii

theorem isAlphanumeric_of_ascii : isAlphanumeric c = c.isAlphanum := if_pos ascii

end

theorem toLower_of_isAlpha_eq_false (noLetter : c.isAlpha = false) : c.toLower = c := by
  apply Char.toLower_eq_of_not_isUpper
  simp_all [Char.isAlpha]

section

variable (plain : c.isAlphanum = true)
include plain

theorem isAscii_of_isAlphanum : isAscii c = true := by
  simp only [Char.isAlphanum, Char.isAlpha, Char.isUpper, Char.isLower, Char.isDigit,
    Bool.or_eq_true, Bool.and_eq_true, decide_eq_true_eq, UInt32.le_iff_toNat_le] at plain
  apply decide_eq_true
  rcases plain with (⟨-, small⟩ | ⟨-, small⟩) | ⟨-, small⟩
  · exact Nat.lt_of_le_of_lt small (by decide)
  · exact Nat.lt_of_le_of_lt small (by decide)
  · exact Nat.lt_of_le_of_lt small (by decide)

theorem isAlphanum_toUpper : c.toUpper.isAlphanum = true := by
  cases letter : c.isAlpha with
  | true => simp [Char.isAlphanum, letter]
  | false =>
      have small : ¬c.isLower = true := by simp_all [Char.isAlpha]
      rwa [Char.toUpper_eq_of_not_isLower small]

theorem isAlphanum_toLower : c.toLower.isAlphanum = true := by
  cases letter : c.isAlpha with
  | true => simp [Char.isAlphanum, letter]
  | false => rwa [toLower_of_isAlpha_eq_false letter]

end

/-! ## Names of letters and digits -/

theorem Plain.ascii (plain : Plain cs) : Ascii cs :=
  fun c member => isAscii_of_isAlphanum (plain c member)

theorem Plain.alphanumeric (plain : Plain cs) : Alphanumeric cs := by
  intro c member
  rw [isAlphanumeric_of_ascii (plain.ascii c member), plain c member]

theorem Ascii.plain (ascii : Ascii cs) (alphanumeric : Alphanumeric cs) : Plain cs := by
  intro c member
  rw [← isAlphanumeric_of_ascii (ascii c member), alphanumeric c member]

theorem capitalize_cons (ascii : Ascii (c :: cs)) :
    capitalize (c :: cs) = c.toUpper :: cs.map Char.toLower := by
  have each : cs.flatMap lower = cs.flatMap fun d => [d.toLower] :=
    List.flatMap_congr fun d member => lower_of_ascii (ascii d (List.mem_cons_of_mem c member))
  rw [capitalize, upper_of_ascii (ascii c List.mem_cons_self), each, ← List.map_eq_flatMap]
  rfl

theorem lowercaseAfter_of_ascii (ascii : Ascii cs) (before : List Char) :
    lowercaseAfter before cs = cs.map Char.toLower := by
  induction cs generalizing before with
  | nil => rfl
  | cons c cs ih =>
      have first := ascii c List.mem_cons_self
      have noSigma : c ≠ 'Σ' := by
        rintro rfl
        exact absurd first (by decide)
      rw [lowercaseAfter, if_neg noSigma, lower_of_ascii first,
        ih fun d member => ascii d (List.mem_cons_of_mem c member)]
      rfl

theorem map_toLower_takeWhile (ascii : Ascii cs) :
    (cs.takeWhile continues).map Char.toLower = cs.takeWhile continues := by
  refine (List.map_congr_left fun d member => ?_).trans (List.map_id _)
  have goesOn := List.mem_takeWhile_imp member
  have inside := ascii d (List.takeWhile_subset _ member)
  apply Char.toLower_eq_of_not_isUpper
  simpa [isUppercase_of_ascii inside] using (Bool.and_eq_true_iff.mp goesOn).2

theorem capitalize_word (ascii : Ascii (c :: cs)) :
    capitalize (c :: cs.takeWhile continues) = c.toUpper :: cs.takeWhile continues := by
  have kept : c :: cs.takeWhile continues ⊆ c :: cs :=
    List.cons_subset_cons c (List.takeWhile_subset _)
  rw [capitalize_cons fun d member => ascii d (kept member),
    map_toLower_takeWhile fun d member => ascii d (List.mem_cons_of_mem c member)]

theorem Plain.tail (plain : Plain (c :: cs)) : Plain cs :=
  fun d member => plain d (List.mem_cons_of_mem c member)

theorem flatMap_capitalize_words (plain : Plain cs)
    (capital : ∀ c ∈ cs.head?, isUppercase c = true) : (words cs).flatMap capitalize = cs := by
  induction cs using words_induction with
  | nil => rfl
  | other c cs other ih => simp [plain.alphanumeric c List.mem_cons_self] at other
  | word c cs first ih =>
      have large : c.toUpper = c := by
        apply Char.toUpper_eq_of_not_isLower
        apply Char.not_isLower_of_isUpper
        rw [← isUppercase_of_ascii (plain.ascii c List.mem_cons_self)]
        exact capital c rfl
      have later := ih (fun d member => plain.tail d (List.dropWhile_subset _ member))
        plain.tail.alphanumeric.isUppercase_of_head?
      rw [words_cons first, List.flatMap_cons, capitalize_word plain.ascii, large, later,
        List.cons_append, List.takeWhile_append_dropWhile]

section

variable (plain : Plain (c :: cs))
include plain

theorem flatMap_capitalize_laterWords :
    (words (cs.dropWhile continues)).flatMap capitalize = cs.dropWhile continues :=
  flatMap_capitalize_words (fun d member => plain.tail d (List.dropWhile_subset _ member))
    plain.tail.alphanumeric.isUppercase_of_head?

theorem toPascalCase_cons :
    toPascalCase (String.ofList (c :: cs)) = String.ofList (c.toUpper :: cs) := by
  unfold toPascalCase
  rw [String.toList_ofList, words_cons (plain.alphanumeric c List.mem_cons_self)]
  dsimp only
  rw [List.flatMap_cons, capitalize_word plain.ascii, flatMap_capitalize_laterWords plain,
    List.cons_append, List.takeWhile_append_dropWhile]

theorem toCamelCase_cons :
    toCamelCase (String.ofList (c :: cs)) = String.ofList (c.toLower :: cs) := by
  have word : Ascii (c :: cs.takeWhile continues) :=
    fun d member => plain.ascii d (List.cons_subset_cons c (List.takeWhile_subset _) member)
  unfold toCamelCase
  rw [String.toList_ofList, words_cons (plain.alphanumeric c List.mem_cons_self)]
  dsimp only
  rw [lowercaseAfter_of_ascii word, List.map_cons, map_toLower_takeWhile plain.tail.ascii,
    flatMap_capitalize_laterWords plain, List.cons_append, List.takeWhile_append_dropWhile]

theorem isPascalCase_cons : isPascalCase (String.ofList (c :: cs)) = c.isUpper := by
  rw [Bool.eq_iff_iff, isPascalCase_iff, String.toList_ofList,
    and_iff_left plain.alphanumeric, ← isUppercase_of_ascii (plain.ascii c List.mem_cons_self)]
  rfl

theorem isCamelCase_cons : isCamelCase (String.ofList (c :: cs)) = c.isLower := by
  rw [Bool.eq_iff_iff, isCamelCase_iff, String.toList_ofList,
    and_iff_left plain.alphanumeric, ← isLowercase_of_ascii (plain.ascii c List.mem_cons_self)]
  rfl

end

/-! ## Any ASCII name -/

theorem Plain.cons (first : c.isAlphanum = true) (plain : Plain cs) : Plain (c :: cs) :=
  List.forall_mem_cons.mpr ⟨first, plain⟩

theorem Plain.toUpper_cons (plain : Plain (c :: cs)) : Plain (c.toUpper :: cs) :=
  .cons (isAlphanum_toUpper (plain c List.mem_cons_self)) plain.tail

theorem Plain.toLower_cons (plain : Plain (c :: cs)) : Plain (c.toLower :: cs) :=
  .cons (isAlphanum_toLower (plain c List.mem_cons_self)) plain.tail

theorem mem_of_mem_words :
    ∀ word ∈ words cs, ∀ c ∈ word, c ∈ cs ∧ isAlphanumeric c = true := by
  induction cs using words_induction with
  | nil => simp
  | other c cs other ih =>
      intro word listed d member
      rw [words_cons_of_not other] at listed
      exact (ih word listed d member).imp_left (List.mem_cons_of_mem c)
  | word c cs first ih =>
      rw [words_cons first, List.forall_mem_cons]
      constructor
      · rintro d (_ | ⟨_, member⟩)
        · exact ⟨List.mem_cons_self, first⟩
        · have goesOn := List.mem_takeWhile_imp member
          exact ⟨List.mem_cons_of_mem c (List.takeWhile_subset _ member),
            (Bool.and_eq_true_iff.mp goesOn).1⟩
      · intro word listed d member
        obtain ⟨inside, alphanumeric⟩ := ih word listed d member
        exact ⟨List.mem_cons_of_mem c (List.dropWhile_subset _ inside), alphanumeric⟩

theorem exists_words_of_find? (found : cs.find? isAlphanumeric = some c) :
    ∃ word later, words cs = (c :: word) :: later := by
  induction cs with
  | nil => cases found
  | cons d cs ih =>
      cases alphanumeric : isAlphanumeric d with
      | false =>
          rw [List.find?_cons_of_neg (by simp [alphanumeric])] at found
          rw [words_cons_of_not alphanumeric]
          exact ih found
      | true =>
          rw [List.find?_cons_of_pos alphanumeric] at found
          cases found
          exact ⟨_, _, words_cons alphanumeric⟩

theorem plain_of_mem_words (ascii : Ascii cs) : ∀ word ∈ words cs, Plain word := by
  intro word listed c member
  obtain ⟨inside, alphanumeric⟩ := mem_of_mem_words word listed c member
  rwa [isAlphanumeric_of_ascii (ascii c inside)] at alphanumeric

theorem plain_map_toLower (plain : Plain cs) : Plain (cs.map Char.toLower) :=
  List.forall_mem_map.mpr fun c member => isAlphanum_toLower (plain c member)

theorem plain_capitalize (plain : Plain cs) : Plain (capitalize cs) := by
  cases cs with
  | nil => exact plain
  | cons c cs =>
      rw [capitalize_cons plain.ascii]
      exact .cons (isAlphanum_toUpper (plain c List.mem_cons_self)) (plain_map_toLower plain.tail)

theorem exists_respelling (ascii : Ascii name.toList)
    (found : name.toList.find? isAlphanumeric = some c) :
    ∃ cs, Plain (c :: cs) ∧ toPascalCase name = String.ofList (c.toUpper :: cs) ∧
      toCamelCase name = String.ofList (c.toLower :: cs) := by
  obtain ⟨word, later, split⟩ := exists_words_of_find? found
  have plain := plain_of_mem_words ascii
  rw [split, List.forall_mem_cons] at plain
  obtain ⟨first, others⟩ := plain
  -- Both spellings make the rest of the first word small and capitalise every later word.
  refine ⟨word.map Char.toLower ++ later.flatMap capitalize, ?_, ?_, ?_⟩
  · have rest : Plain (later.flatMap capitalize) := by
      intro d member
      obtain ⟨word, listed, inside⟩ := List.mem_flatMap.mp member
      exact plain_capitalize (others word listed) d inside
    exact .cons (first c List.mem_cons_self)
      (List.forall_mem_append.mpr ⟨plain_map_toLower first.tail, rest⟩)
  · unfold toPascalCase
    rw [split]
    dsimp only
    rw [List.flatMap_cons, capitalize_cons first.ascii, List.cons_append]
  · unfold toCamelCase
    rw [split]
    dsimp only
    rw [lowercaseAfter_of_ascii first.ascii, List.map_cons, List.cons_append]

theorem toPascalCase_of_find? (none : name.toList.find? isAlphanumeric = none) :
    toPascalCase name = name := by
  rw [toPascalCase, words_eq_nil_iff.mpr none]

theorem toCamelCase_of_find? (none : name.toList.find? isAlphanumeric = none) :
    toCamelCase name = name := by
  rw [toCamelCase, words_eq_nil_iff.mpr none]

/-! ## The laws -/

theorem not_alphanumeric_of_find? {condition : Char → Bool}
    (none : name.toList.find? isAlphanumeric = none) :
    ¬(startsWith condition name.toList = true ∧ Alphanumeric name.toList) := by
  rintro ⟨first, alphanumeric⟩
  cases characters : name.toList with
  | nil => simp [characters, startsWith] at first
  | cons c cs =>
      rw [characters] at none alphanumeric
      simp [alphanumeric c List.mem_cons_self] at none

theorem letterFirst_of_find? (found : name.toList.find? isAlphanumeric = some c) :
    LetterFirst name ↔ c.isAlpha = true := by
  simp [LetterFirst, found]

theorem not_letterFirst_of_find? (none : name.toList.find? isAlphanumeric = none) :
    ¬LetterFirst name := by
  simp [LetterFirst, none]

theorem isPascalCase_toPascalCase (ascii : Ascii name.toList) :
    isPascalCase (toPascalCase name) = true ↔ LetterFirst name := by
  cases found : name.toList.find? isAlphanumeric with
  | none =>
      rw [toPascalCase_of_find? found, isPascalCase_iff]
      exact iff_of_false (not_alphanumeric_of_find? found) (not_letterFirst_of_find? found)
  | some c =>
      obtain ⟨cs, plain, spelled, -⟩ := exists_respelling ascii found
      rw [spelled, isPascalCase_cons plain.toUpper_cons, Char.isUpper_toUpper_eq_isAlpha,
        letterFirst_of_find? found]

theorem isCamelCase_toCamelCase (ascii : Ascii name.toList) :
    isCamelCase (toCamelCase name) = true ↔ LetterFirst name := by
  cases found : name.toList.find? isAlphanumeric with
  | none =>
      rw [toCamelCase_of_find? found, isCamelCase_iff]
      exact iff_of_false (not_alphanumeric_of_find? found) (not_letterFirst_of_find? found)
  | some c =>
      obtain ⟨cs, plain, -, spelled⟩ := exists_respelling ascii found
      rw [spelled, isCamelCase_cons plain.toLower_cons, Char.isLower_toLower_eq_isAlpha,
        letterFirst_of_find? found]

/-- Each spelling has its case exactly when the first letter or digit is a letter. -/
theorem respelling_reaches_case (name : String) (ascii : Ascii name.toList) :
    (isPascalCase (toPascalCase name) = true ↔ LetterFirst name) ∧
      (isCamelCase (toCamelCase name) = true ↔ LetterFirst name) :=
  ⟨isPascalCase_toPascalCase ascii, isCamelCase_toCamelCase ascii⟩

theorem respelling_reaches_case_digits :
    Ascii "_x9_3D-HTTP".toList ∧ isPascalCase (toPascalCase "_x9_3D-HTTP") = true ∧
      isCamelCase (toCamelCase "_x9_3D-HTTP") = true ∧
      Ascii "_9x".toList ∧ ¬isPascalCase (toPascalCase "_9x") = true ∧
      ¬isCamelCase (toCamelCase "_9x") = true := by
  have ascii : Ascii "_x9_3D-HTTP".toList := by decide
  have letter : LetterFirst "_x9_3D-HTTP" := by decide
  have alsoAscii : Ascii "_9x".toList := by decide
  have digit : ¬LetterFirst "_9x" := by decide
  obtain ⟨pascal, camel⟩ := respelling_reaches_case _ ascii
  obtain ⟨noPascal, noCamel⟩ := respelling_reaches_case _ alsoAscii
  exact ⟨ascii, pascal.mpr letter, camel.mpr letter, alsoAscii, mt noPascal.mp digit,
    mt noCamel.mp digit⟩

theorem toPascalCase_of_isPascalCase (ascii : Ascii name.toList)
    (pascal : isPascalCase name = true) : toPascalCase name = name := by
  have plain := ascii.plain (isPascalCase_iff.mp pascal).2
  obtain ⟨cs, rfl⟩ : ∃ cs, name = String.ofList cs := ⟨_, String.ofList_toList.symm⟩
  rw [String.toList_ofList] at plain
  cases cs with
  | nil => rfl
  | cons c cs =>
      rw [isPascalCase_cons plain] at pascal
      rw [toPascalCase_cons plain,
        Char.toUpper_eq_of_not_isLower (Char.not_isLower_of_isUpper pascal)]

theorem toCamelCase_of_isCamelCase (ascii : Ascii name.toList)
    (camel : isCamelCase name = true) : toCamelCase name = name := by
  have plain := ascii.plain (isCamelCase_iff.mp camel).2
  obtain ⟨cs, rfl⟩ : ∃ cs, name = String.ofList cs := ⟨_, String.ofList_toList.symm⟩
  rw [String.toList_ofList] at plain
  cases cs with
  | nil => rfl
  | cons c cs =>
      rw [isCamelCase_cons plain] at camel
      rw [toCamelCase_cons plain,
        Char.toLower_eq_of_not_isUpper (Char.not_isUpper_of_isLower camel)]

/-- Spelling a name anew a second time, in whichever case, gives what it would have given at once,
and a name that has its case stays as it is. -/
theorem respelling_normalizes (name : String) (ascii : Ascii name.toList) :
    toPascalCase (toPascalCase name) = toPascalCase name ∧
      toCamelCase (toCamelCase name) = toCamelCase name ∧
      toPascalCase (toCamelCase name) = toPascalCase name ∧
      toCamelCase (toPascalCase name) = toCamelCase name ∧
      (isPascalCase name = true → toPascalCase name = name) ∧
      (isCamelCase name = true → toCamelCase name = name) := by
  have kept := And.intro (toPascalCase_of_isPascalCase ascii) (toCamelCase_of_isCamelCase ascii)
  cases found : name.toList.find? isAlphanumeric with
  | none =>
      have pascal := toPascalCase_of_find? found
      have camel := toCamelCase_of_find? found
      simp only [pascal, camel, implies_true, and_self]
  | some c =>
      obtain ⟨cs, plain, pascal, camel⟩ := exists_respelling ascii found
      have large := plain.toUpper_cons
      have small := plain.toLower_cons
      refine ⟨?_, ?_, ?_, ?_, kept⟩
      · rw [pascal, toPascalCase_cons large, Char.toUpper_toUpper_eq_toUpper]
      · rw [camel, toCamelCase_cons small, Char.toLower_toLower_eq_toLower]
      · rw [camel, pascal, toPascalCase_cons small, Char.toUpper_toLower_eq_toUpper]
      · rw [pascal, camel, toCamelCase_cons large, Char.toLower_toUpper_eq_toLower]

theorem respelling_normalizes_digits :
    Ascii "_x9_3D-HTTP".toList ∧
      toPascalCase (toCamelCase "_x9_3D-HTTP") = toPascalCase "_x9_3D-HTTP" ∧
      Ascii "x93DHTTP".toList ∧ toCamelCase "x93DHTTP" = "x93DHTTP" := by
  have ascii : Ascii "_x9_3D-HTTP".toList := by decide
  have alsoAscii : Ascii "x93DHTTP".toList := by decide
  have camel : isCamelCase "x93DHTTP" = true := by decide
  obtain ⟨-, -, again, -⟩ := respelling_normalizes _ ascii
  obtain ⟨-, -, -, -, -, kept⟩ := respelling_normalizes _ alsoAscii
  exact ⟨ascii, again, alsoAscii, kept camel⟩

end SharpLint.Names
