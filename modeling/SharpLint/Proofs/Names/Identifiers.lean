import SharpLint.Proofs.Names.Cuts
import SharpLint.Proofs.Names.Spelling

/-!
# Identifiers

An identifier consists of letters, digits and underscores, and so does every spelling of it. What a
string can show between braces is such a name that no digit starts (`not_isDigit_of_placeholder`).
-/

namespace SharpLint.Names

open Text

variable {c : Char} {cs : List Char} {name : String}

/-- Letters, digits and underscores, of which no digit comes first. -/
def isIdentifierName : List Char → Bool
  | [] => false
  | c :: cs => (c.isAlpha || c = '_') && cs.all isPlaceholderCharacter

/-- A name, perhaps with the mark that lets a keyword serve as a name. -/
def isIdentifier (text : String) : Bool :=
  match text.toList with
  | '@' :: name => isIdentifierName name
  | name => isIdentifierName name

def Wordlike (cs : List Char) : Prop := ∀ c ∈ cs, isPlaceholderCharacter c = true

instance (cs : List Char) : Decidable (Wordlike cs) :=
  decidable_of_iff (cs.all isPlaceholderCharacter = true) List.all_eq_true

theorem wordlike_of_isIdentifierName (identifier : isIdentifierName cs = true) : Wordlike cs := by
  cases cs with
  | nil => simp [Wordlike]
  | cons c cs =>
      simp only [isIdentifierName, Bool.and_eq_true, List.all_eq_true] at identifier
      obtain ⟨first, rest⟩ := identifier
      refine List.forall_mem_cons.mpr ⟨?_, rest⟩
      rcases Bool.or_eq_true_iff.mp first with letter | underscore
      · simp [isPlaceholderCharacter, Char.isAlphanum, letter]
      · simp [isPlaceholderCharacter, underscore]

theorem Plain.wordlike (plain : Plain cs) : Wordlike cs := by
  intro c member
  simp [isPlaceholderCharacter, plain c member]

namespace Wordlike

theorem ascii (wordlike : Wordlike cs) : Ascii cs := by
  intro c member
  rcases Bool.or_eq_true_iff.mp (wordlike c member) with plain | underscore
  · exact isAscii_of_isAlphanum plain
  · rw [of_decide_eq_true underscore]
    decide

theorem append {ds : List Char} (wordlike : Wordlike cs) (also : Wordlike ds) :
    Wordlike (cs ++ ds) :=
  List.forall_mem_append.mpr ⟨wordlike, also⟩

theorem subset {ds : List Char} (wordlike : Wordlike cs) (part : ds ⊆ cs) : Wordlike ds :=
  fun c member => wordlike c (part member)

theorem isAlphanumeric_eq_false_iff (wordlike : Wordlike cs) (member : c ∈ cs) :
    isAlphanumeric c = false ↔ c = '_' := by
  constructor
  · intro other
    have listed := wordlike c member
    rw [isAlphanumeric_of_ascii (wordlike.ascii c member)] at other
    simpa [isPlaceholderCharacter, other] using listed
  · rintro rfl
    decide

theorem find?_eq_none_iff (wordlike : Wordlike cs) :
    cs.find? isAlphanumeric = none ↔ ∀ c ∈ cs, c = '_' := by
  simp only [List.find?_eq_none, Bool.not_eq_true]
  exact forall₂_congr fun c member => wordlike.isAlphanumeric_eq_false_iff member

theorem toPascalCase (wordlike : Wordlike name.toList) : Wordlike (toPascalCase name).toList := by
  cases found : name.toList.find? isAlphanumeric with
  | none => rwa [toPascalCase_of_find? found]
  | some c =>
      obtain ⟨cs, plain, spelled, -⟩ := exists_respelling wordlike.ascii found
      rw [spelled, String.toList_ofList]
      exact plain.toUpper_cons.wordlike

theorem toCamelCase (wordlike : Wordlike name.toList) : Wordlike (toCamelCase name).toList := by
  cases found : name.toList.find? isAlphanumeric with
  | none => rwa [toCamelCase_of_find? found]
  | some c =>
      obtain ⟨cs, plain, -, spelled⟩ := exists_respelling wordlike.ascii found
      rw [spelled, String.toList_ofList]
      exact plain.toLower_cons.wordlike

end Wordlike

/-! ## Placeholders -/

theorem not_isDigit_of_placeholderAt? {placeholder : String}
    (found : placeholderAt? cs = some placeholder) :
    ∀ c ∈ placeholder.toList.head?, c.isDigit = false := by
  unfold placeholderAt? at found
  dsimp only at found
  split at found
  · rename_i first rest stop later name _
    split at found
    · rename_i accepted
      cases found
      rw [name, String.toList_ofList]
      simp_all
    · cases found
  · cases found

theorem not_isDigit_of_placeholder {placeholder : String}
    (member : placeholder ∈ placeholdersIn cs) :
    ∀ c ∈ placeholder.toList.head?, c.isDigit = false := by
  fun_induction placeholdersIn cs with
  | case1 => simp at member
  | case2 cs ih => exact ih member
  | case3 cs noBrace ih =>
      rcases List.mem_append.mp member with here | later
      · exact not_isDigit_of_placeholderAt? (Option.mem_toList.mp here)
      · exact ih later
  | case4 c cs noPair noBrace ih => exact ih member

end SharpLint.Names
