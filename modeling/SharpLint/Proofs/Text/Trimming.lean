import Mathlib.Data.List.DropRight
import SharpLint.Text.Blank

/-!
# Trimmed texts

Trimming takes the white space from both ends of a text, and nothing else (`trim_eq_iff`).
-/

namespace SharpLint.Text

variable {cs kept : List Char}

/-- The text is what is kept with white space around it, and what is kept neither starts nor ends
with white space. -/
structure Trimmed (cs kept : List Char) : Prop where
  blanks : ∃ front back, cs = front ++ kept ++ back ∧
    (∀ c ∈ front, isBlank c = true) ∧ ∀ c ∈ back, isBlank c = true
  head : ∀ c ∈ kept.head?, isBlank c = false
  last : ∀ c ∈ kept.getLast?, isBlank c = false

theorem dropWhile_eq_self (head : ∀ c ∈ kept.head?, isBlank c = false) :
    kept.dropWhile isBlank = kept := by
  cases kept with
  | nil => rfl
  | cons c kept => exact List.dropWhile_cons_of_neg (by simp [head c rfl])

theorem isBlank_of_mem_head?_dropWhile (cs : List Char) :
    ∀ c ∈ (cs.dropWhile isBlank).head?, isBlank c = false := by
  intro c first
  have verdict := List.head?_dropWhile_not isBlank cs
  rwa [Option.mem_def.mp first] at verdict

theorem trimmed_trim (cs : List Char) : Trimmed cs (trim cs) := by
  have front := List.takeWhile_append_dropWhile (p := isBlank) (l := cs)
  have back := List.rdropWhile_append_rtakeWhile (p := isBlank) (l := cs.dropWhile isBlank)
  refine ⟨⟨cs.takeWhile isBlank, (cs.dropWhile isBlank).rtakeWhile isBlank, ?_, ?_, ?_⟩, ?_, ?_⟩
  · rw [List.append_assoc]
    exact front.symm.trans (congrArg _ back.symm)
  · exact fun c => List.mem_takeWhile_imp
  · exact fun c => List.mem_rtakeWhile_imp
  · intro c first
    apply isBlank_of_mem_head?_dropWhile cs
    rw [← back, List.head?_append]
    exact Option.or_eq_some_iff.mpr (.inl first)
  · intro c final
    rw [trim, List.getLast?_reverse] at final
    exact isBlank_of_mem_head?_dropWhile _ c final

theorem trim_eq_iff : trim cs = kept ↔ Trimmed cs kept := by
  constructor
  · rintro rfl
    exact trimmed_trim cs
  · rintro ⟨⟨front, back, rfl, before, after⟩, head, last⟩
    rw [trim, List.append_assoc, List.dropWhile_append_of_pos before]
    cases kept with
    | nil =>
        rw [List.nil_append, List.dropWhile_eq_nil_iff.mpr after]
        rfl
    | cons c kept =>
        have start : (c :: kept ++ back).dropWhile isBlank = c :: kept ++ back :=
          dropWhile_eq_self head
        rw [start, List.reverse_append, List.dropWhile_append_of_pos (by simpa using after),
          dropWhile_eq_self (by rwa [List.head?_reverse]), List.reverse_reverse]

end SharpLint.Text
