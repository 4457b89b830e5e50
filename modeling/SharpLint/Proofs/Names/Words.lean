import SharpLint.Proofs.Names.CaseStyles

/-!
# How names fall into words

A word is a letter or digit together with the letters and digits that follow it up to the next
capital (`words_cons`), and what is neither belongs to no word (`words_cons_of_not`). What holds of
all names can be shown word by word (`words_induction`).
-/

namespace SharpLint.Names

open Text

variable {c : Char} {cs : List Char}

def continues (c : Char) : Bool := isAlphanumeric c && !isUppercase c

/-! ## Words one by one -/

theorem wordsAfter_eq {current : List Char} (started : current ≠ []) (cs : List Char) :
    wordsAfter current cs =
      (current.reverse ++ cs.takeWhile continues) :: words (cs.dropWhile continues) := by
  induction cs generalizing current with
  | nil => simp [wordsAfter, words, closeWord]
  | cons c cs ih =>
      rw [wordsAfter]
      cases alphanumeric : isAlphanumeric c with
      | false => simp [continues, alphanumeric, words, wordsAfter, closeWord]
      | true =>
          cases capital : isUppercase c with
          | true => simp [continues, alphanumeric, capital, words, wordsAfter, closeWord]
          | false => simp [continues, alphanumeric, capital, ih (List.cons_ne_nil c current)]

@[simp] theorem words_nil : words [] = [] := rfl

theorem words_cons_of_not (other : isAlphanumeric c = false) : words (c :: cs) = words cs := by
  simp [words, wordsAfter, other, closeWord]

theorem words_cons (alphanumeric : isAlphanumeric c = true) :
    words (c :: cs) = (c :: cs.takeWhile continues) :: words (cs.dropWhile continues) := by
  have first : words (c :: cs) = wordsAfter [c] cs := by
    simp [words, wordsAfter, alphanumeric, closeWord]
  rw [first, wordsAfter_eq (List.cons_ne_nil c [])]
  rfl

theorem words_eq_nil_iff : words cs = [] ↔ cs.find? isAlphanumeric = none := by
  induction cs with
  | nil => simp
  | cons c cs ih =>
      cases alphanumeric : isAlphanumeric c with
      | false => simp [words_cons_of_not alphanumeric, alphanumeric, ih]
      | true => simp [words_cons alphanumeric, alphanumeric]

/-- What holds of no characters holds of all, if it can be carried over a character that belongs to
no word, and over a word. -/
theorem words_induction {motive : List Char → Prop} (nil : motive [])
    (other : ∀ c cs, isAlphanumeric c = false → motive cs → motive (c :: cs))
    (word : ∀ c cs, isAlphanumeric c = true → motive (cs.dropWhile continues) → motive (c :: cs))
    (cs : List Char) : motive cs := by
  induction size : cs.length using Nat.strongRecOn generalizing cs with
  | _ size ih =>
      cases cs with
      | nil => exact nil
      | cons c cs =>
          rw [List.length_cons] at size
          cases alphanumeric : isAlphanumeric c with
          | false => exact other c cs alphanumeric (ih _ (by omega) cs rfl)
          | true =>
              have shorter := (List.dropWhile_sublist continues (l := cs)).length_le
              exact word c cs alphanumeric (ih _ (by omega) _ rfl)

theorem continues_of_mem_head? (first : c ∈ (cs.dropWhile continues).head?) :
    continues c = false := by
  have stops := List.head?_dropWhile_not continues cs
  rwa [first] at stops

/-! ## Names of letters and digits -/

def Alphanumeric (cs : List Char) : Prop := ∀ c ∈ cs, isAlphanumeric c = true

theorem Alphanumeric.isUppercase_of_head? (alphanumeric : Alphanumeric cs) :
    ∀ c ∈ (cs.dropWhile continues).head?, isUppercase c = true := by
  intro c first
  have member := List.dropWhile_subset _ (List.mem_of_mem_head? first)
  simpa [continues, alphanumeric c member] using continues_of_mem_head? first

theorem isPascalCase_iff {name : String} :
    isPascalCase name = true ↔
      startsWith isUppercase name.toList = true ∧ Alphanumeric name.toList := by
  rw [← CharacterClasses.isPascalCase_unicode]
  exact CharacterClasses.isPascalCase_iff

theorem isCamelCase_iff {name : String} :
    isCamelCase name = true ↔
      startsWith isLowercase name.toList = true ∧ Alphanumeric name.toList := by
  rw [← CharacterClasses.isCamelCase_unicode]
  exact CharacterClasses.isCamelCase_iff

end SharpLint.Names
